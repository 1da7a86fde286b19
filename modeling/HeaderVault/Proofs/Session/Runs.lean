import HeaderVault.Proofs.Session.Slots
import HeaderVault.Session

/-!
How sessions run.

The equations `runIn_…` say what each step does to the world. Two ways of speaking about a session
are built on them: `Session.Ends` says how a single run ends, and `Session.Within` that a session
never changes the world beyond what a relation allows. Both follow the session bind by bind.

A relation that `Within` is used with holds of a run that changes nothing, and of runs in a row
(`Change`).
-/

namespace HeaderVault

namespace Session

variable {α β : Type} {environment : Environment} {world : World}

/-! ### Single steps -/

theorem runIn_pure (value : α) :
    (pure value : Session α).runIn environment world = (.ok value, world) := rfl

theorem runIn_throw (error : Error) :
    (throw error : Session α).runIn environment world = (.error error, world) := rfl

theorem runIn_bind (first : Session α) (next : α → Session β) :
    (first >>= next).runIn environment world =
      match first.runIn environment world with
      | (.ok value, after) => (next value).runIn environment after
      | (.error error, after) => (.error error, after) := by
  unfold runIn
  simp only [bind, ReaderT.bind, ExceptT.bind, ExceptT.run, ExceptT.mk, StateT.bind, StateT.run]
  rcases first environment world with ⟨result, after⟩
  cases result <;> rfl

theorem runIn_bind_ok {first : Session α} {next : α → Session β} {value : α}
    (ok : (first.runIn environment world).1 = .ok value) :
    (first >>= next).runIn environment world =
      (next value).runIn environment (first.runIn environment world).2 := by
  rw [runIn_bind, show first.runIn environment world = (.ok value, _) from Prod.ext ok rfl]

theorem runIn_attempt (session : Session α) :
    (attempt session).runIn environment world =
      (.ok (session.runIn environment world).1, (session.runIn environment world).2) := by
  unfold runIn attempt
  simp only [tryCatch, tryCatchThe, MonadExceptOf.tryCatch, Functor.map, ExceptT.tryCatch,
    ExceptT.map, ExceptT.run, ExceptT.mk, StateT.bind, StateT.run, bind]
  rcases session environment world with ⟨result, after⟩
  cases result <;> rfl

theorem runIn_ofExcept (result : Except Error α) :
    (ofExcept result).runIn environment world = (result, world) := by
  cases result <;> rfl

theorem runIn_record (event : Event) :
    (record event).runIn environment world = (.ok (), world.record event) := rfl

theorem runIn_read : (read : Session Environment).runIn environment world = (.ok environment, world) :=
  rfl

theorem runIn_get : (get : Session World).runIn environment world = (.ok world, world) := rfl

theorem runIn_set (after : World) :
    (set after : Session Unit).runIn environment world = (.ok (), after) := rfl

theorem runIn_modify (change : World → World) :
    (modify change : Session Unit).runIn environment world = (.ok (), change world) := rfl

theorem runIn_tell (notice : Notice) :
    (tell notice).runIn environment world = (.ok (), world.record (.told notice)) := rfl

theorem runIn_hasBackupSlot :
    hasBackupSlot.runIn environment world = (.ok world.hasBackupSlot, world) := rfl

theorem runIn_disk : disk.runIn environment world = (.ok (environment.disk world.history), world) :=
  rfl

theorem runIn_readHeader (slot : HeaderSlot) :
    (readHeader slot).runIn environment world =
      ((world.stored slot).bind (environment.device.read world.history slot),
        world.record (.read slot
          ((world.stored slot).bind (environment.device.read world.history slot)))) := by
  simp only [readHeader, runIn_bind, runIn_read, runIn_get, runIn_record, runIn_ofExcept]

theorem runIn_readHeader_of_stored {slot : HeaderSlot} {stored bytes : HeaderBytes}
    (held : world.stored slot = .ok stored)
    (reads : environment.device.read world.history slot stored = .ok bytes) :
    (readHeader slot).runIn environment world = (.ok bytes, world.record (.read slot (.ok bytes))) := by
  rw [runIn_readHeader, held]
  simp only [Except.bind, reads]

theorem runIn_writeHeader (slot : HeaderSlot) (bytes : HeaderBytes) :
    (writeHeader slot bytes).runIn environment world =
      let outcome := environment.device.write world.history slot (world.stored slot).toOption bytes
      match outcome.stored with
      | none => (outcome.result, world.record (.wrote slot bytes none outcome.result))
      | some stored =>
          match world.store slot stored with
          | .error error =>
              (.error error, world.record (.wrote slot bytes none (.error error)))
          | .ok changed =>
              (outcome.result, changed.record (.wrote slot bytes (some stored) outcome.result)) := by
  simp only [writeHeader, runIn_bind, runIn_read, runIn_get]
  cases (environment.device.write world.history slot (world.stored slot).toOption bytes).stored with
  | none => simp only [runIn_bind, runIn_record, runIn_ofExcept]
  | some stored =>
      cases store : world.store slot stored with
      | error error => simp only [store, runIn_bind, runIn_record, runIn_throw]
      | ok changed => simp only [store, runIn_bind, runIn_set, runIn_record, runIn_ofExcept]

theorem runIn_fileExists (path : Path) :
    (fileExists path).runIn environment world = (.ok (world.files.exists? path), world) := rfl

theorem runIn_loadFile (path : Path) :
    (loadFile path).runIn environment world =
      (FileSystem.describe s!"cannot read {path.text}" (world.files.read path), world) := by
  rw [loadFile, runIn_bind, runIn_get]
  exact runIn_ofExcept _

theorem runIn_loadBackup (path : Path) :
    (loadBackup path).runIn environment world =
      ((FileSystem.describe s!"cannot read {path.text}" (world.files.read path)).bind
        HeaderBackup.decode, world) := by
  rw [loadBackup, runIn_bind, runIn_loadFile]
  cases FileSystem.describe s!"cannot read {path.text}" (world.files.read path) with
  | error error => rfl
  | ok data => exact runIn_ofExcept _

theorem runIn_loadBackup_of_read {path : Path} {data : Bytes} {saved : HeaderBackup}
    (found : world.files.read path = .ok data) (decoded : HeaderBackup.decode data = .ok saved) :
    (loadBackup path).runIn environment world = (.ok saved, world) := by
  rw [runIn_loadBackup, found]
  exact congrArg (·, world) decoded

/-! ### Ends of a run -/

/-- A run from a world ends with a result and a world as `post` says. -/
def Ends (session : Session α) (environment : Environment) (world : World)
    (post : Except Error α → World → Prop) : Prop :=
  post (session.runIn environment world).1 (session.runIn environment world).2

theorem Ends.mono {session : Session α} {post weaker : Except Error α → World → Prop}
    (ends : session.Ends environment world post)
    (weaken : ∀ result after, post result after → weaker result after) :
    session.Ends environment world weaker := weaken _ _ ends

theorem Ends.and {session : Session α} {post also : Except Error α → World → Prop}
    (first : session.Ends environment world post) (second : session.Ends environment world also) :
    session.Ends environment world fun result after => post result after ∧ also result after :=
  ⟨first, second⟩

theorem Ends.of_runIn {session : Session α} {post : Except Error α → World → Prop}
    {result : Except Error α} {after : World} (ends : session.Ends environment world post)
    (run : session.runIn environment world = (result, after)) : post result after := by
  unfold Ends at ends
  rwa [run] at ends

/-- Every session ends. -/
theorem Ends.exists_run {session : Session α} {post : Except Error α → World → Prop}
    (ends : session.Ends environment world post) :
    ∃ result after, session.runIn environment world = (result, after) ∧ post result after :=
  ⟨_, _, rfl, ends⟩

theorem ends_pure {value : α} {post : Except Error α → World → Prop} (holds : post (.ok value) world) :
    (pure value : Session α).Ends environment world post := holds

theorem ends_throw {error : Error} {post : Except Error α → World → Prop}
    (holds : post (.error error) world) : (throw error : Session α).Ends environment world post :=
  holds

theorem Ends.bind {first : Session α} {next : α → Session β} {post : Except Error β → World → Prop}
    (ends : first.Ends environment world fun result after =>
      match result with
      | .ok value => (next value).Ends environment after post
      | .error error => post (.error error) after) :
    (first >>= next).Ends environment world post := by
  unfold Ends at ends ⊢
  rw [runIn_bind]
  rcases run : first.runIn environment world with ⟨result, after⟩
  rw [run] at ends
  cases result with
  | ok value => exact ends
  | error error => exact ends

/-- Goes on after a step whose outcome is known. -/
theorem Ends.bind_ok {first : Session α} {next : α → Session β} {value : α} {after : World}
    {post : Except Error β → World → Prop}
    (run : first.runIn environment world = (.ok value, after))
    (ends : (next value).Ends environment after post) :
    (first >>= next).Ends environment world post := by
  refine .bind ?_
  unfold Ends
  rw [run]
  exact ends

/-- Goes on after a step that may end anyhow. -/
theorem Ends.bind_any {first : Session α} {next : α → Session β}
    {post : Except Error β → World → Prop} (fail : ∀ error after, post (.error error) after)
    (step : ∀ value after, (next value).Ends environment after post) :
    (first >>= next).Ends environment world post := by
  refine .bind ?_
  unfold Ends
  rcases first.runIn environment world with ⟨result, after⟩
  cases result with
  | ok value => exact step value after
  | error error => exact fail error after

/-- Goes on after a step when only the results that come out are spoken of. -/
theorem Ends.bind_yields {first : Session α} {next : α → Session β}
    {fact : Except Error α → World → Prop} {post : β → World → Prop}
    (ends : first.Ends environment world fact)
    (step : ∀ value after, fact (.ok value) after → (next value).Ends environment after
      fun result final => ∀ found, result = .ok found → post found final) :
    (first >>= next).Ends environment world fun result final =>
      ∀ found, result = .ok found → post found final := by
  refine .bind (ends.mono ?_)
  rintro (error | value) after holds
  · intro found ok
    cases ok
  · exact step value after holds

theorem ends_hasBackupSlot_bind {next : Bool → Session β} {post : Except Error β → World → Prop}
    (ends : (next world.hasBackupSlot).Ends environment world post) :
    (hasBackupSlot >>= next).Ends environment world post := ends

theorem Ends.attempt {session : Session α} {post : Except Error (Except Error α) → World → Prop}
    (ends : session.Ends environment world fun result after => post (.ok result) after) :
    (attempt session).Ends environment world post := by
  unfold Ends at ends ⊢
  rwa [runIn_attempt]

theorem ends_ofExcept {result : Except Error α} {post : Except Error α → World → Prop}
    (holds : post result world) : (ofExcept result).Ends environment world post := by
  unfold Ends
  rwa [runIn_ofExcept]

/-! ### Changes that sessions keep within -/

/-- A kind of change that may be empty, and may be made of several. -/
class Change (R : World → World → Prop) : Prop where
  refl : ∀ world, R world world
  trans : ∀ {world middle after}, R world middle → R middle after → R world after

/-- However a session runs, it changes the world as `R` allows. -/
def Within (R : World → World → Prop) (session : Session α) : Prop :=
  ∀ environment world, R world (session.runIn environment world).2

variable {R : World → World → Prop}

theorem Within.ends {session : Session α} (within : Within R session) (environment : Environment)
    (world : World) : session.Ends environment world fun _ after => R world after :=
  within environment world

theorem Within.attempt {session : Session α} (within : Within R session) :
    Within R (attempt session) := by
  intro environment world
  rw [runIn_attempt]
  exact within environment world

theorem Within.ite {condition : Prop} [Decidable condition] {first second : Session α}
    (yes : condition → Within R first) (no : ¬condition → Within R second) :
    Within R (if condition then first else second) := by
  split
  · next holds => exact yes holds
  · next fails => exact no fails

section Change

variable [Change R]

theorem within_pure (value : α) : Within R (pure value : Session α) :=
  fun _ world => Change.refl world

theorem within_throw (error : Error) : Within R (throw error : Session α) :=
  fun _ world => Change.refl world

theorem within_read : Within R (read : Session Environment) := fun _ world => Change.refl world

theorem within_get : Within R (get : Session World) := fun _ world => Change.refl world

theorem within_ofExcept (result : Except Error α) : Within R (ofExcept result) := by
  intro environment world
  rw [runIn_ofExcept]
  exact Change.refl world

theorem Within.bind {first : Session α} {next : α → Session β} (head : Within R first)
    (tail : ∀ value, Within R (next value)) : Within R (first >>= next) := by
  intro environment world
  have changed := head environment world
  rw [runIn_bind]
  rcases run : first.runIn environment world with ⟨result, after⟩
  rw [run] at changed
  cases result with
  | ok value => exact Change.trans changed (tail value environment after)
  | error error => exact changed

/-- Goes on after a step that changes the world as `R` allows; what counts is how things are since
`start`. -/
theorem Ends.bind_within {start : World} {first : Session α} {next : α → Session β}
    {post : Except Error β → World → Prop} (since : R start world) (within : Within R first)
    (fail : ∀ error after, R start after → post (.error error) after)
    (step : ∀ value after, R start after → (next value).Ends environment after post) :
    (first >>= next).Ends environment world post := by
  refine .bind ((within.ends environment world).mono ?_)
  rintro (error | value) after now
  · exact fail error after (Change.trans since now)
  · exact step value after (Change.trans since now)

theorem within_hasBackupSlot : Within R hasBackupSlot := within_get.bind fun _ => within_pure _

theorem within_disk : Within R disk :=
  within_read.bind fun _ => within_get.bind fun _ => within_pure _

end Change

end Session

end HeaderVault
