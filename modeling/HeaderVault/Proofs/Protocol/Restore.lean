import HeaderVault.Proofs.HeaderBackup
import HeaderVault.Proofs.Protocol.Commit
import HeaderVault.Proofs.Protocol.Sealing
import HeaderVault.Proofs.Session.Operator
import HeaderVault.Protocol.Restore

/-!
How a restore ends.

It puts the saved headers into their slots (`Restored`), or it fails and leaves the slots as they
were, except in one case: once the primary header is replaced the embedded copy may turn out to be
unreadable, and then the new primary header stays (`Stranded`).
-/

namespace HeaderVault

namespace Protocol

open Session

/-- The headers that a restore may find: the embedded copy, or what is in a file that was chosen. -/
inductive Candidate.From (environment : Environment) (world : World) : Candidate → Prop
  | embedded {bytes : HeaderBytes} (held : world.stored .backup = .ok bytes) :
      From environment world ⟨.embedded, bytes, none⟩
  | file {path : Path} {data : Bytes} {saved : HeaderBackup}
      (chosen : ∃ history, environment.operator history world.files
        (.selectFile "Header backup file" .existing) = .ok path)
      (found : world.files.read path = .ok data) (decoded : HeaderBackup.decode data = .ok saved) :
      From environment world ⟨.file path, saved.primary, saved.backup⟩

/-- The primary slot holds the header that was found, and the embedded copy is as it was or holds
the second one. -/
structure Restored (device : DeviceBehaviour) (candidate : Candidate) (world after : World) :
    Prop where
  elsewhere : world.Elsewhere after
  primary : device.Honest → after.stored .primary = .ok candidate.primary
  backup : device.Honest → after.stored .backup = world.stored .backup ∨
    ∃ bytes, candidate.extra = some bytes ∧ after.stored .backup = .ok bytes

theorem Restored.unharmed {device : DeviceBehaviour} {candidate : Candidate}
    {world middle after : World} (restored : Restored device candidate world middle)
    (still : middle.Unharmed after) : Restored device candidate world after := by
  constructor
  · exact restored.elsewhere.trans still.elsewhere
  · intro honest
    exact (still.stored .primary).trans (restored.primary honest)
  · intro honest
    rw [still.stored .backup]
    exact restored.backup honest

/-- The embedded copy could not be read after the primary header was replaced. -/
def StoppedAtBackup (bytes : HeaderBytes) (recent : History) : Prop :=
  ∃ error kept earlier, recent =
    .read .backup (.error error) :: .read .primary (.ok bytes) :: .wrote .primary bytes kept (.ok ()) ::
      earlier

/-- The primary slot holds the header that was found although the restore has failed. -/
structure Stranded (device : DeviceBehaviour) (candidate : Candidate) (world after : World) :
    Prop where
  stores : ∃ content, World.Stores .primary content world after ∧
    (device.Honest → content = candidate.primary)
  logged : ∃ recent, StoppedAtBackup candidate.primary recent ∧
    after.history = recent ++ world.history

/-- How a restore may end. -/
def RestoreEnds (environment : Environment) (start : World) :
    Except Error RestoreSource → World → Prop
  | .ok source, after => ∃ candidate : Candidate, candidate.source = source ∧
      candidate.From environment start ∧ Restored environment.device candidate start after
  | .error _, after => start.Quiet after ∨ Undone start after ∨
      ∃ candidate : Candidate, candidate.From environment start ∧
        Stranded environment.device candidate start after

section

variable {environment : Environment} {world : World} {credential : Credential}

/-! ### Before anything is written -/

theorem quiet_chooseEmbedded : Within World.Quiet chooseEmbedded := by
  refine within_hasBackupSlot.bind fun there => .ite (fun _ => ?_) (fun _ => within_pure _)
  refine (quiet_ask _).bind ?_
  intro answer
  split
  · exact within_pure _
  · exact within_pure _
  · exact within_throw _
  · exact quiet_cancel

theorem quiet_findCandidate : Within World.Quiet findCandidate := by
  refine quiet_chooseEmbedded.bind fun embedded => .ite (fun _ => ?_) (fun _ => ?_)
  · exact (quiet_readHeader _).bind fun _ => within_pure _
  · exact (quiet_ask _).bind fun _ => (quiet_loadBackup _).bind fun _ => within_pure _

theorem quiet_soundExtra (credential : Credential) (extra : Option HeaderBytes) :
    Within World.Quiet (soundExtra credential extra) := by
  unfold soundExtra
  split
  · exact within_pure _
  · refine within_hasBackupSlot.bind fun there => .ite (fun _ => ?_) (fun _ => within_pure _)
    exact (quiet_unlockOrWarn _ _ _).bind fun _ => within_pure _

theorem loadBackup_result (path : Path) :
    (loadBackup path).Ends environment world fun result _ => ∀ saved, result = .ok saved →
      ∃ data, world.files.read path = .ok data ∧ HeaderBackup.decode data = .ok saved := by
  intro saved ok
  rw [runIn_loadBackup] at ok
  cases read : FileSystem.describe s!"cannot read {path.text}" (world.files.read path) with
  | error error => rw [read] at ok; cases ok
  | ok data =>
      rw [read] at ok
      exact ⟨data, FileSystem.describe_eq_ok.mp read, ok⟩

theorem findCandidate_result {start : World}
    (recoverable : environment.device.Recoverable start.history) (since : start.Quiet world) :
    findCandidate.Ends environment world fun result _ => ∀ candidate, result = .ok candidate →
      candidate.From environment start := by
  refine .bind_yields (quiet_chooseEmbedded.ends _ _) ?_
  intro embedded chosen quiet
  have since := Change.trans since quiet
  cases embedded with
  | true =>
      refine .bind_yields (readHeader_quiet recoverable.readsStored since) ?_
      rintro bytes read ⟨-, held⟩ _ ⟨⟩
      exact .embedded (held bytes rfl)
  | false =>
      refine .bind_yields (((quiet_ask _).ends _ _).and (ask_answer _)) ?_
      rintro path asked ⟨quiet, said⟩
      refine .bind_yields (loadBackup_result path) ?_
      rintro saved loaded found _ ⟨⟩
      obtain ⟨data, found, decoded⟩ := found saved rfl
      have found : start.files.read path = .ok data := by
        rw [← since.files, ← quiet.files]
        exact found
      refine .file ⟨chosen.history, ?_⟩ found decoded
      rw [← since.files]
      exact said path rfl

/-- A header for the embedded copy is the second one that was found, and opens. -/
theorem soundExtra_result (extra : Option HeaderBytes) :
    (soundExtra credential extra).Ends environment world fun result _ =>
      ∀ sound, result = .ok sound → ∀ bytes, sound = some bytes → extra = some bytes ∧
        ∃ header, openHeader environment.primitives credential bytes = .ok header := by
  unfold soundExtra
  cases extra with
  | none => rintro _ ⟨⟩ _ ⟨⟩
  | some second =>
      refine ends_hasBackupSlot_bind ?_
      split
      · refine .bind_yields (unlockOrWarn_ends second _) ?_
        rintro header after ⟨-, opens, -⟩ _ ⟨⟩ _ found
        obtain ⟨opened, rfl, rfl⟩ := Option.map_eq_some_iff.mp found
        exact ⟨rfl, opened, opens opened rfl⟩
      · rintro _ ⟨⟩ _ ⟨⟩

theorem soundExtra_of_opens {bytes : HeaderBytes} {header : VolumeHeader}
    (there : world.hasBackupSlot = true)
    (opens : openHeader environment.primitives credential bytes = .ok header) :
    ((soundExtra credential (some bytes)).runIn environment world).1 = .ok (some bytes) := by
  simp only [soundExtra, runIn_bind, runIn_hasBackupSlot, there, if_true]
  rw [← runIn_bind, runIn_bind_ok (unlockOrWarn_of_opens opens _)]
  rfl

/-! ### The commits -/

/-- The embedded copy is renewed after the primary slot, or the restore fails: with both slots as
they were if the embedded copy could be read, and stranded if not. -/
theorem renewBackup_ends {candidate : Candidate} {ready committed : World}
    {former bytes : HeaderBytes} {finish : Unit → Session RestoreSource}
    (recoverable : environment.device.Recoverable world.history) (apart : world.SlotsApart)
    (since : world.Quiet ready) (found : candidate.From environment world)
    (held : ready.stored .primary = .ok former)
    (renewed : Committed environment.device .primary candidate.primary ready committed)
    (second : candidate.extra = some bytes)
    (finishes : ∀ settled, Restored environment.device candidate world settled →
      (finish ()).Ends environment settled (RestoreEnds environment world)) :
    (readHeader .backup >>= fun formerBackup =>
      commitBackup former formerBackup bytes >>= finish).Ends environment committed
        (RestoreEnds environment world) := by
  obtain ⟨⟨kept, logged⟩, content, stores, honest⟩ := id renewed
  obtain ⟨events, history, -⟩ := since.history
  have changed := stores.of_unharmed since.unharmed
  let verified : History :=
    [.read .primary (.ok candidate.primary), .wrote .primary candidate.primary kept (.ok ())]
  have sinceStart : committed.history = (verified ++ events) ++ world.history := by
    rw [logged, history]
    rfl
  refine .bind ((readHeader_stored recoverable.readsStored sinceStart not_readBack_read).mono ?_)
  rintro (error | formerBackup) read ⟨rfl, heldBackup⟩
  · refine .inr (.inr ⟨candidate, found, ?_, _, ⟨error, kept, events, rfl⟩, ?_⟩)
    · exact ⟨content, changed.of_eq rfl rfl, honest⟩
    · exact congrArg _ sinceStart
  have heldBackupNow : ready.stored .backup = .ok formerBackup :=
    (stores.other .backup (by decide)).symm.trans (heldBackup formerBackup rfl)
  let event : Event := .read .backup (.ok formerBackup)
  have sinceRead : (committed.record event).history =
      (event :: verified ++ events) ++ world.history := congrArg _ sinceStart
  have sinceReady : (committed.record event).history =
      (event :: verified) ++ ready.history := congrArg _ logged
  refine .bind ((commitBackup_ends recoverable sinceRead
    (since.unharmed.elsewhere.slotsApart apart) held heldBackupNow
    (stores.of_eq rfl rfl) sinceReady).mono ?_)
  rintro (error | ⟨⟩) after
  · exact fun undone => .inr (.inl (undone.of_quiet since))
  intro renewedBackup
  obtain ⟨-, contentBackup, storesBackup, -⟩ := id renewedBackup
  have readOn : World.Stores .primary content world (committed.record event) :=
    changed.of_eq rfl rfl
  apply finishes
  constructor
  · exact readOn.elsewhere.trans storesBackup.elsewhere
  · intro sound
    exact (storesBackup.other .primary (by decide)).trans (renewed.stored sound)
  · intro sound
    exact .inr ⟨bytes, second, renewedBackup.stored sound⟩

theorem restore_ends (recoverable : environment.device.Recoverable world.history)
    (apart : world.SlotsApart) :
    restore.Ends environment world (RestoreEnds environment world) := by
  have failed : ∀ error after, world.Quiet after →
      RestoreEnds environment world (.error error) after := fun _ _ now => .inl now
  refine .bind (((quiet_findCandidate.ends _ _).and
    (findCandidate_result recoverable (Change.refl world))).mono ?_)
  rintro (error | candidate) searched ⟨since, found⟩
  · exact failed error searched since
  have found := found candidate rfl
  refine .bind_quiet since (quiet_askCredential _) failed ?_
  intro credential _ since
  refine .bind_quiet since (quiet_unlock _ _) failed ?_
  intro _ opened since
  refine .bind ((((quiet_soundExtra _ _).ends _ _).and (soundExtra_result _)).mono ?_)
  rintro (error | extra) sound ⟨quiet, second⟩
  · exact failed error sound (Change.trans since quiet)
  have since := Change.trans since quiet
  refine .bind_quiet since (quiet_requireConfirmation _ _ _) failed ?_
  intro _ _ since
  refine .bind ((readHeader_quiet recoverable.readsStored since).mono ?_)
  rintro (error | former) ready ⟨since, held⟩
  · exact failed error ready since
  have heldNow := (since.unharmed.stored .primary).trans (held former rfl)
  obtain ⟨events, history, -⟩ := since.history
  refine .bind ((commit_ends recoverable history (since.unharmed.elsewhere.slotsApart apart)
    heldNow).mono ?_)
  rintro (error | ⟨⟩) committed
  · exact fun takenBack => .inr (.inl (takenBack.undone.of_quiet since))
  intro renewed
  have told : ∀ settled, Restored environment.device candidate world settled →
      (do
        tell (.info "Volume header restored.")
        return candidate.source).Ends environment settled (RestoreEnds environment world) :=
    fun settled restored => ⟨candidate, rfl, found, restored.unharmed (.of_eq rfl rfl)⟩
  cases extra with
  | some bytes =>
      exact renewBackup_ends recoverable apart since found heldNow renewed (second _ rfl bytes rfl).1 told
  | none =>
      obtain ⟨-, content, stores, -⟩ := id renewed
      have changed := stores.of_unharmed since.unharmed
      apply told
      constructor
      · exact changed.elsewhere
      · exact renewed.stored
      · intro _
        exact .inl (changed.other .backup (by decide))

/-- When a restore fails the embedded copy is as it was. So is the primary slot, unless the embedded
copy could not be read after the primary header was replaced: then the new header stays. -/
theorem restore_error_keeps_backup {error : Error} {after : World}
    (recoverable : environment.device.Recoverable world.history)
    (honest : environment.device.Honest) (apart : world.SlotsApart)
    (failed : restore.runIn environment world = (.error error, after)) :
    ∃ recent, after.history = recent ++ world.history ∧
      after.stored .backup = world.stored .backup ∧
      ((∃ bytes, StoppedAtBackup bytes recent ∧ after.stored .primary = .ok bytes) ∨
        (∀ bytes, ¬StoppedAtBackup bytes recent) ∧
          after.stored .primary = world.stored .primary) := by
  rcases (restore_ends recoverable apart).of_runIn failed with
    quiet | undone | ⟨candidate, -, ⟨content, stores, sound⟩, recent, stopped, history⟩
  · obtain ⟨events, history, noWrite⟩ := quiet.history
    refine ⟨events, history, quiet.unharmed.stored .backup, .inr ⟨?_, quiet.unharmed.stored .primary⟩⟩
    rintro bytes ⟨error, kept, earlier, rfl⟩
    exact noWrite (.wrote .primary bytes kept (.ok ())) (by simp) trivial
  · obtain ⟨slot, bytes, kept, result, events, history⟩ := undone.logged
    refine ⟨.wrote slot bytes kept result :: events, history, undone.unharmed.stored .backup,
      .inr ⟨?_, undone.unharmed.stored .primary⟩⟩
    rintro bytes ⟨error, kept, earlier, differs⟩
    cases differs
  · refine ⟨recent, history, stores.other .backup (by decide), .inl ⟨candidate.primary, stopped, ?_⟩⟩
    rw [stores.stored, sound honest]

end

/-! ### A restore that stops half-way -/

namespace Sample

def saved : HeaderBackup := ⟨.epoch, sealed 1, some (sealed 1)⟩

/-- Both headers, in the file that will be chosen. -/
def files : FileSystem := ⟨[(["b.hdr"], .file saved.encode)], []⟩

theorem read_single (data : Bytes) :
    FileSystem.read ⟨[(["b.hdr"], .file data)], []⟩ ⟨"b.hdr"⟩ = .ok data := rfl

variable {device : DeviceBehaviour} {ready : World}

theorem chooseEmbedded_result :
    (chooseEmbedded.runIn (environment device) ready).1 = .ok false := by
  rw [chooseEmbedded, runIn_bind, runIn_hasBackupSlot]
  dsimp only
  split
  · change ((ask (.choose _ _) >>= _).runIn _ _).1 = _
    rw [runIn_bind, runIn_ask]
    rfl
  · rfl

theorem loadBackup_result (same : ready.files = files) :
    ((loadBackup ⟨"b.hdr"⟩).runIn (environment device) ready).1 = .ok saved := by
  have found : ready.files.read ⟨"b.hdr"⟩ = .ok saved.encode := by rw [same, files, read_single]
  rw [runIn_loadBackup_of_read found saved.decode_encode]

theorem restore_unreadableBackup :
    restore.Ends (environment .unreadableBackup) (blank files) fun result after =>
      (∃ error, result = .error error) ∧ after.stored .primary = .ok (sealed 1) := by
  refine .bind (.bind_quiet_ok (Change.refl _) quiet_chooseEmbedded chooseEmbedded_result
    fun _ since => ?_)
  refine .bind_quiet_ok since (quiet_ask _) (ask_result _) ?_
  intro _ since
  refine .bind_quiet_ok since (quiet_loadBackup _) (loadBackup_result since.files) ?_
  intro found since
  refine ends_pure ?_
  dsimp only [saved]
  refine .bind_quiet_ok since (quiet_askCredential _) (askCredential_result _) ?_
  intro _ since
  refine .bind_quiet_ok since (quiet_unlock _ _) (unlock_result 1) ?_
  intro _ since
  refine .bind_quiet_ok since (quiet_soundExtra _ _)
    (soundExtra_of_opens since.hasBackupSlot (opens 1)) ?_
  intro _ since
  refine .bind_quiet_ok since (quiet_requireConfirmation _ _ _)
    (requireConfirmation_result _ _ _) ?_
  intro asked since
  have held : asked.stored .primary = .ok (Octets.zero 512) := since.unharmed.stored .primary
  refine .bind_quiet_ok since (quiet_readHeader _)
    (congrArg Prod.fst (runIn_readHeader_of_stored held rfl)) ?_
  intro ready since
  have held : ready.stored .primary = .ok (Octets.zero 512) := since.unharmed.stored .primary
  refine .bind ((commit_of_faithful (fun _ _ => rfl) (fun _ _ _ => rfl)
    (since.unharmed.elsewhere.slotsApart (blank_slotsApart files)) held).mono ?_)
  rintro _ committed ⟨rfl, stores, -⟩
  have changed := stores.of_unharmed since.unharmed
  have heldBackup : committed.stored .backup = .ok (Octets.zero 512) :=
    changed.other .backup (by decide)
  refine .bind_quiet_error (Change.refl committed) (quiet_readHeader _)
    (readHeader_unreadableBackup rfl heldBackup) ?_
  intro after since
  exact ⟨⟨_, rfl⟩, (since.unharmed.stored .primary).trans changed.stored⟩

end Sample

theorem restore_error_keeps_backup_unreadable :
    let environment := Sample.environment .unreadableBackup
    let world := Sample.blank Sample.files
    ∃ error after recent bytes, restore.runIn environment world = (.error error, after) ∧
      after.history = recent ++ world.history ∧ after.stored .backup = world.stored .backup ∧
        StoppedAtBackup bytes recent ∧ after.stored .primary = .ok bytes := by
  intro environment world
  obtain ⟨_, after, run, ⟨error, rfl⟩, replaced⟩ := Sample.restore_unreadableBackup.exists_run
  have former : world.stored .primary = .ok (Octets.zero 512) := rfl
  obtain ⟨recent, history, backup, ⟨bytes, stopped, primary⟩ | ⟨-, primary⟩⟩ :=
    restore_error_keeps_backup (DeviceBehaviour.recoverable_unreadableBackup _)
      DeviceBehaviour.honest_unreadableBackup (Sample.blank_slotsApart _) run
  · exact ⟨error, after, recent, bytes, run, history, backup, stopped, primary⟩
  · rw [replaced, former, Except.ok.injEq] at primary
    exact absurd primary Sample.sealed_ne_zero

/-- Restoring is not all or nothing: the new primary header can stay although the restore fails. -/
theorem restore_error_can_replace_primary :
    let environment := Sample.environment .unreadableBackup
    let world := Sample.blank Sample.files
    environment.device.Recoverable world.history ∧ environment.device.Honest ∧ world.SlotsApart ∧
      ∃ error after, restore.runIn environment world = (.error error, after) ∧
        after.stored .primary ≠ world.stored .primary := by
  intro environment world
  obtain ⟨_, after, run, ⟨error, rfl⟩, replaced⟩ := Sample.restore_unreadableBackup.exists_run
  refine ⟨DeviceBehaviour.recoverable_unreadableBackup _, DeviceBehaviour.honest_unreadableBackup,
    Sample.blank_slotsApart _, error, after, run, ?_⟩
  have former : world.stored .primary = .ok (Octets.zero 512) := rfl
  rw [replaced, former, ne_eq, Except.ok.injEq]
  exact Sample.sealed_ne_zero

end Protocol

end HeaderVault
