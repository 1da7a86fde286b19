import HeaderVault.Proofs.Session.Runs

/-!
Sessions that leave the slots alone.

A session is quiet when it changes neither the volume nor the files and writes no header
(`World.Quiet`). Everything that only asks, shows, reads, draws, mounts and computes is quiet, in
the order of `HeaderVault.Session`. After a quiet session all slots hold what they held
(`Quiet.unharmed`).
-/

namespace HeaderVault

/-- A header was written, or was to be. -/
def Event.IsWrite : Event → Prop
  | .wrote _ _ _ _ => True
  | _ => False

/-- The slots and the files are as they were, and no header was written. -/
structure World.Quiet (world after : World) : Prop where
  volume : after.volume = world.volume
  files : after.files = world.files
  history : ∃ events, after.history = events ++ world.history ∧ ∀ event ∈ events, ¬event.IsWrite

namespace World.Quiet

variable {world after : World}

theorem unharmed (quiet : world.Quiet after) : world.Unharmed after :=
  .of_eq quiet.volume quiet.files

theorem hasBackupSlot (quiet : world.Quiet after) : after.hasBackupSlot = world.hasBackupSlot :=
  quiet.unharmed.elsewhere.backupSlot

theorem record {event : Event} (noWrite : ¬event.IsWrite) : world.Quiet (world.record event) :=
  ⟨rfl, rfl, [event], rfl, by simpa using noWrite⟩

theorem of_history (volume : after.volume = world.volume) (files : after.files = world.files)
    (history : after.history = world.history) : world.Quiet after :=
  ⟨volume, files, [], history, by simp⟩

end World.Quiet

instance : Session.Change World.Quiet where
  refl _ := .of_history rfl rfl rfl
  trans := by
    intro world middle after first second
    obtain ⟨events, history, noWrite⟩ := first.history
    obtain ⟨later, historyAfter, noWriteLater⟩ := second.history
    refine ⟨second.volume.trans first.volume, second.files.trans first.files, later ++ events, ?_, ?_⟩
    · rw [historyAfter, history, List.append_assoc]
    · intro event occurs
      rcases List.mem_append.mp occurs with late | early
      · exact noWriteLater event late
      · exact noWrite event early

namespace Session

variable {α β : Type}

/-- Goes on after a quiet step; what counts is how things are since `start`. -/
theorem Ends.bind_quiet {environment : Environment} {start world : World} {first : Session α}
    {next : α → Session β} {post : Except Error β → World → Prop} (since : start.Quiet world)
    (quiet : Within World.Quiet first)
    (fail : ∀ error after, start.Quiet after → post (.error error) after)
    (step : ∀ value after, start.Quiet after → (next value).Ends environment after post) :
    (first >>= next).Ends environment world post :=
  .bind_within since quiet fail step

/-- Goes on after a quiet step with a known result. -/
theorem Ends.bind_quiet_ok {environment : Environment} {start world : World} {first : Session α}
    {next : α → Session β} {value : α} {post : Except Error β → World → Prop}
    (since : start.Quiet world) (quiet : Within World.Quiet first)
    (result : (first.runIn environment world).1 = .ok value)
    (step : ∀ after, start.Quiet after → (next value).Ends environment after post) :
    (first >>= next).Ends environment world post :=
  .bind_ok (Prod.ext result rfl) (step _ (Change.trans since (quiet environment world)))

theorem Ends.bind_quiet_error {environment : Environment} {start world : World} {first : Session α}
    {next : α → Session β} {error : Error} {post : Except Error β → World → Prop}
    (since : start.Quiet world) (quiet : Within World.Quiet first)
    (result : (first.runIn environment world).1 = .error error)
    (holds : ∀ after, start.Quiet after → post (.error error) after) :
    (first >>= next).Ends environment world post := by
  have now := holds _ (Change.trans since (quiet environment world))
  refine .bind ?_
  unfold Ends
  rw [result]
  exact now

theorem quiet_record {event : Event} (noWrite : ¬event.IsWrite) :
    Within World.Quiet (record event) := fun _ _ => .record noWrite

theorem quiet_modify {change : World → World}
    (quiet : ∀ world, World.Quiet world (change world)) :
    Within World.Quiet (modify change : Session Unit) := fun _ world => quiet world

/-! ### The operator -/

theorem quiet_tell (notice : Notice) : Within World.Quiet (tell notice) := quiet_record id

theorem quiet_ask (prompt : Prompt) : Within World.Quiet (ask prompt) := by
  unfold ask
  refine within_read.bind fun environment => within_get.bind fun world => ?_
  split
  · exact (quiet_record id).bind fun _ => within_pure _
  · refine (quiet_record id).bind fun _ => .ite (fun _ => ?_) (fun _ => within_throw _)
    exact (quiet_tell _).bind fun _ => within_throw _

theorem quiet_cancel : Within World.Quiet (cancel : Session α) :=
  (quiet_tell _).bind fun _ => within_throw _

theorem quiet_requireConfirmation (message : String) (default warning : Bool) :
    Within World.Quiet (requireConfirmation message default warning) :=
  (quiet_ask _).bind fun _ => .ite (fun _ => quiet_cancel) (fun _ => within_pure _)

theorem quiet_askCredential (text : String) : Within World.Quiet (askCredential text) :=
  (quiet_ask _).bind fun _ => (quiet_ask _).bind fun _ => within_pure _

theorem quiet_busy (message : String) (result : Except Error α) :
    Within World.Quiet (busy message result) :=
  (quiet_tell _).bind fun _ => (quiet_tell _).bind fun _ => within_ofExcept _

/-! ### Reading, drawing and mounting -/

theorem quiet_readHeader (slot : HeaderSlot) : Within World.Quiet (readHeader slot) :=
  within_read.bind fun _ => within_get.bind fun _ => (quiet_record id).bind fun _ => within_ofExcept _

theorem quiet_draw (count : Nat) : Within World.Quiet (draw count) := by
  unfold draw
  refine within_read.bind fun environment => within_get.bind fun world => ?_
  dsimp only
  split
  · refine (quiet_modify ?_).bind fun _ => ?_
    · exact fun _ => .of_history rfl rfl rfl
    · exact (quiet_record id).bind fun _ => within_throw _
  · refine (quiet_modify ?_).bind fun _ => ?_
    · exact fun _ => .of_history rfl rfl rfl
    · exact (quiet_record id).bind fun _ => within_pure _

theorem quiet_isMounted : Within World.Quiet isMounted :=
  within_get.bind fun _ => (quiet_record id).bind fun _ => within_pure _

theorem quiet_dismount : Within World.Quiet dismount :=
  within_read.bind fun _ => within_get.bind fun _ => (quiet_record id).bind fun _ =>
    (within_ofExcept _).bind fun _ => quiet_modify fun _ => .of_history rfl rfl rfl

theorem quiet_mount (credential : Credential) : Within World.Quiet (mount credential) := by
  refine within_read.bind fun _ => within_get.bind fun _ => (quiet_record id).bind fun _ =>
    (within_ofExcept _).bind fun _ => (quiet_modify ?_).bind fun _ => within_pure _
  exact fun _ => .of_history rfl rfl rfl

/-! ### Files -/

theorem quiet_fileExists (path : Path) : Within World.Quiet (fileExists path) :=
  within_get.bind fun _ => within_pure _

theorem quiet_loadBackup (path : Path) : Within World.Quiet (loadBackup path) :=
  (within_get.bind fun _ => within_ofExcept _).bind fun _ => within_ofExcept _

end Session

end HeaderVault
