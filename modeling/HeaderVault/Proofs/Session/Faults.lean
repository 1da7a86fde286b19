import HeaderVault.Proofs.Session.Quiet

/-!
What a volume may do wrong.

`DeviceBehaviour.Recoverable` is the fault model that roll-backs are made for: a read gives the
stored bytes or fails, except that a header may be misread right after it was written, and a write
may store anything at all, whatever it reports, except that the former bytes can always be put back.
`DeviceBehaviour.Honest` adds that a commit is not deceived: what a write reports and what is found
afterwards do not both pass for bytes that were not stored.

The last section says what a single access does to the slots of a world.
-/

namespace HeaderVault

/-- The slot was written just now. -/
inductive ReadBack (slot : HeaderSlot) : History → Prop
  | wrote (bytes : HeaderBytes) (kept : Option HeaderBytes) (report : Except Error Unit)
      (earlier : History) : ReadBack slot (.wrote slot bytes kept report :: earlier)

/-- A header was written just now, or was read back and is not what was written. A write that
follows puts former bytes back. -/
inductive RollbackDue : History → Prop
  | wrote (slot : HeaderSlot) (bytes : HeaderBytes) (kept : Option HeaderBytes)
      (report : Except Error Unit) (earlier : History) :
      RollbackDue (.wrote slot bytes kept report :: earlier)
  | differs (slot : HeaderSlot) (bytes : HeaderBytes) (kept : Option HeaderBytes)
      (report : Except Error Unit) (found : Except Error HeaderBytes) (earlier : History)
      (differs : found ≠ .ok bytes) :
      RollbackDue (.read slot found :: .wrote slot bytes kept report :: earlier)

/-- Since a history `start`, reads give stored bytes or fail unless they check a write, and former
bytes can be put back. -/
structure DeviceBehaviour.Recoverable (device : DeviceBehaviour) (start : History) : Prop where
  reads : ∀ recent slot stored bytes, ¬ReadBack slot recent →
    device.read (recent ++ start) slot stored = .ok bytes → bytes = stored
  rollbacks : ∀ recent slot old new, RollbackDue recent →
    (device.write (recent ++ start) slot old new).stored = some new

/-- Since a history `start`, reads give stored bytes or fail unless they check a write. -/
def DeviceBehaviour.ReadsStored (device : DeviceBehaviour) (start : History) : Prop :=
  ∀ recent slot stored bytes, ¬ReadBack slot recent →
    device.read (recent ++ start) slot stored = .ok bytes → bytes = stored

theorem DeviceBehaviour.Recoverable.readsStored {device : DeviceBehaviour} {start : History}
    (recoverable : device.Recoverable start) : device.ReadsStored start := recoverable.reads

/-- Since a history `start`, what is stored is read as long as no header was written. -/
def DeviceBehaviour.ReadsAtFirst (device : DeviceBehaviour) (start : History) : Prop :=
  ∀ recent slot stored, (∀ event ∈ recent, ¬event.IsWrite) →
    device.read (recent ++ start) slot stored = .ok stored

/-- A write has stored its bytes if no error is reported and they are found when they are read
back. Of a write that stores something else either the write or the read-back gives notice. -/
def DeviceBehaviour.Honest (device : DeviceBehaviour) : Prop :=
  ∀ history slot old new kept, device.write history slot (some old) new = ⟨kept, .ok ()⟩ →
    device.read (.wrote slot new kept (.ok ()) :: history) slot (kept.getD old) = .ok new →
      kept.getD old = new

/-- Writes that report no error have stored their bytes, however they are read back. -/
theorem DeviceBehaviour.honest_of_writes {device : DeviceBehaviour}
    (writes : ∀ history slot old new kept,
      device.write history slot old new = ⟨kept, .ok ()⟩ → kept = some new) : device.Honest := by
  intro history slot old new kept wrote _
  rw [writes history slot _ new kept wrote]
  rfl

/-- Every read gives stored bytes or fails. -/
def DeviceBehaviour.Truthful (device : DeviceBehaviour) : Prop :=
  ∀ history slot stored bytes, device.read history slot stored = .ok bytes → bytes = stored

theorem DeviceBehaviour.Truthful.readsStored {device : DeviceBehaviour} (truthful : device.Truthful)
    (start : History) : device.ReadsStored start :=
  fun recent slot stored bytes _ => truthful (recent ++ start) slot stored bytes

/-- Writes deceive nobody who reads what is stored. -/
theorem DeviceBehaviour.Truthful.honest {device : DeviceBehaviour} (truthful : device.Truthful) :
    device.Honest :=
  fun _ _ _ _ _ _ read => (truthful _ _ _ _ read).symm

theorem DeviceBehaviour.truthful_faithful : DeviceBehaviour.faithful.Truthful :=
  fun _ _ _ _ read => (Except.ok.inj read).symm

theorem DeviceBehaviour.recoverable_faithful (start : History) :
    DeviceBehaviour.faithful.Recoverable start where
  reads _ _ _ _ _ read := (Except.ok.inj read).symm
  rollbacks _ _ _ _ _ := rfl

theorem DeviceBehaviour.honest_faithful : DeviceBehaviour.faithful.Honest := by
  apply honest_of_writes
  intro history slot old new kept wrote
  cases wrote
  rfl

/-- A device that does what it is told, but cannot read the embedded copy. -/
def DeviceBehaviour.unreadableBackup : DeviceBehaviour where
  read := fun _ slot stored =>
    match slot with
    | .primary => .ok stored
    | .backup => .error (.file "injected" .other)
  write := fun _ _ _ new => ⟨some new, .ok ()⟩

theorem DeviceBehaviour.recoverable_unreadableBackup (start : History) :
    DeviceBehaviour.unreadableBackup.Recoverable start where
  reads _ slot _ _ _ read := by
    cases slot with
    | primary => exact (Except.ok.inj read).symm
    | backup => cases read
  rollbacks _ _ _ _ _ := rfl

theorem DeviceBehaviour.honest_unreadableBackup : DeviceBehaviour.unreadableBackup.Honest := by
  apply honest_of_writes
  intro history slot old new kept wrote
  cases wrote
  rfl

/-- A device on which all writes tear but those that may put former bytes back. -/
def DeviceBehaviour.torn : DeviceBehaviour where
  read := fun _ _ stored => .ok stored
  write := fun history _ _ new =>
    match history with
    | .wrote _ _ _ _ :: _ => ⟨some new, .ok ()⟩
    | .read _ _ :: .wrote _ _ _ _ :: _ => ⟨some new, .ok ()⟩
    | _ => ⟨some (Octets.zero 512), .error (.file "injected" .other)⟩

theorem DeviceBehaviour.recoverable_torn (start : History) :
    DeviceBehaviour.torn.Recoverable start where
  reads _ _ _ _ _ read := (Except.ok.inj read).symm
  rollbacks recent slot old new due := by
    cases due with
    | wrote => rfl
    | differs => rfl

/-- It owns up to every write that tears. -/
theorem DeviceBehaviour.honest_torn : DeviceBehaviour.torn.Honest := by
  apply honest_of_writes
  intro history slot old new kept wrote
  unfold torn at wrote
  dsimp only at wrote
  split at wrote
  · cases wrote
    rfl
  · cases wrote
    rfl
  · cases wrote

/-- The first write tears. -/
theorem DeviceBehaviour.result_torn {history : History}
    (noWrite : ∀ event ∈ history, ¬event.IsWrite) (slot : HeaderSlot) (old : Option HeaderBytes)
    (new : HeaderBytes) :
    (DeviceBehaviour.torn.write history slot old new).result = .error (.file "injected" .other) := by
  unfold torn
  dsimp only
  split
  · exact absurd trivial (noWrite _ List.mem_cons_self)
  · exact absurd trivial (noWrite _ (List.mem_cons_of_mem _ List.mem_cons_self))
  · rfl

/-- A device that fails on the embedded copy once that was written: it cannot be read back then, and
what was there before cannot be put back. -/
def DeviceBehaviour.wornOut : DeviceBehaviour where
  read := fun history slot stored =>
    match slot, history with
    | .backup, .wrote .backup _ _ _ :: _ => .error (.file "injected" .other)
    | _, _ => .ok stored
  write := fun history slot _ new =>
    match slot, history with
    | .backup, .read .backup (.error _) :: _ =>
        ⟨some (Octets.zero 512), .error (.file "injected" .other)⟩
    | _, _ => ⟨some new, .ok ()⟩

theorem DeviceBehaviour.truthful_wornOut : DeviceBehaviour.wornOut.Truthful := by
  intro history slot stored bytes read
  unfold wornOut at read
  dsimp only at read
  split at read
  · cases read
  · exact (Except.ok.inj read).symm

theorem DeviceBehaviour.readsAtFirst_wornOut : DeviceBehaviour.wornOut.ReadsAtFirst [] := by
  intro recent slot stored noWrite
  unfold wornOut
  dsimp only
  split
  · next written =>
    rw [List.append_nil] at written
    rw [written] at noWrite
    exact absurd trivial (noWrite _ List.mem_cons_self)
  · rfl

theorem RollbackDue.append {recent : History} (due : RollbackDue recent) (earlier : History) :
    RollbackDue (recent ++ earlier) := by
  cases due with
  | wrote slot bytes kept report between => exact .wrote slot bytes kept report _
  | differs slot bytes kept report found between differs =>
      exact .differs slot bytes kept report found _ differs

theorem not_readBack_read {slot other : HeaderSlot} {result : Except Error HeaderBytes}
    {earlier : History} : ¬ReadBack slot (.read other result :: earlier) := by
  intro readBack
  cases readBack

theorem not_readBack_append {slot : HeaderSlot} {events earlier : History}
    (noWrite : ∀ event ∈ events, ¬event.IsWrite) (noReadBack : ¬ReadBack slot earlier) :
    ¬ReadBack slot (events ++ earlier) := by
  intro readBack
  cases events with
  | nil => exact noReadBack readBack
  | cons event later =>
      cases readBack
      exact noWrite _ List.mem_cons_self trivial

theorem not_readBack_of_quiet {slot : HeaderSlot} {recent : History}
    (noWrite : ∀ event ∈ recent, ¬event.IsWrite) : ¬ReadBack slot recent := by
  intro readBack
  cases readBack
  exact noWrite _ List.mem_cons_self trivial

namespace Session

variable {environment : Environment} {world : World} {start recent : History} {slot : HeaderSlot}

/-! ### Single accesses -/

theorem readHeader_reads (slot : HeaderSlot) :
    (readHeader slot).Ends environment world fun result after =>
      after = world.record (.read slot result) ∧
        result = (world.stored slot).bind (environment.device.read world.history slot) := by
  unfold Ends
  rw [runIn_readHeader]
  exact ⟨rfl, rfl⟩

/-- Outside of a read-back, what is read is what is stored. -/
theorem readHeader_stored (readsStored : environment.device.ReadsStored start)
    (since : world.history = recent ++ start) (noReadBack : ¬ReadBack slot recent) :
    (readHeader slot).Ends environment world fun result after =>
      after = world.record (.read slot result) ∧
        ∀ bytes, result = .ok bytes → world.stored slot = .ok bytes := by
  refine (readHeader_reads slot).mono ?_
  rintro result after ⟨same, reads⟩
  refine ⟨same, ?_⟩
  rintro bytes rfl
  cases held : world.stored slot with
  | error error =>
      rw [held] at reads
      cases reads
  | ok stored =>
      rw [held, since] at reads
      rw [readsStored recent slot stored bytes noReadBack reads.symm]

/-- As long as no header was written, a slot that is read could be read from the start, and a device
that reads what is stored gives what it held then. -/
theorem readHeader_finds {start : World} (since : start.Quiet world) :
    (readHeader slot).Ends environment world fun result after =>
      start.Quiet after ∧ ∀ bytes, result = .ok bytes → ∃ stored, start.stored slot = .ok stored ∧
        (environment.device.ReadsStored start.history → bytes = stored) := by
  refine (((quiet_readHeader slot).ends _ _).and (readHeader_reads slot)).mono ?_
  rintro result after ⟨quiet, -, reads⟩
  refine ⟨Change.trans since quiet, ?_⟩
  rintro bytes rfl
  obtain ⟨events, history, noWrite⟩ := since.history
  rw [since.unharmed.stored slot, history] at reads
  cases held : start.stored slot with
  | error error =>
      rw [held] at reads
      cases reads
  | ok stored =>
      rw [held] at reads
      exact ⟨stored, rfl, fun readsStored =>
        readsStored events slot stored bytes (not_readBack_of_quiet noWrite) reads.symm⟩

/-- As long as no header was written, what is read was stored from the start. -/
theorem readHeader_quiet {start : World} (readsStored : environment.device.ReadsStored start.history)
    (since : start.Quiet world) :
    (readHeader slot).Ends environment world fun result after =>
      start.Quiet after ∧ ∀ bytes, result = .ok bytes → start.stored slot = .ok bytes := by
  refine (readHeader_finds since).mono ?_
  rintro result after ⟨quiet, finds⟩
  refine ⟨quiet, ?_⟩
  intro bytes ok
  obtain ⟨stored, held, same⟩ := finds bytes ok
  rw [held, same readsStored]

theorem readHeader_unreadableBackup (unreadable : environment.device = .unreadableBackup)
    {stored : HeaderBytes} (held : world.stored .backup = .ok stored) :
    ((readHeader .backup).runIn environment world).1 = .error (.file "injected" .other) := by
  rw [runIn_readHeader, held, unreadable]
  rfl

/-- A write to a slot that can be read stores what the device makes of it. -/
theorem writeHeader_ends (apart : world.SlotsApart) {old bytes : HeaderBytes}
    (held : world.stored slot = .ok old) {outcome : WriteOutcome}
    (goes : environment.device.write world.history slot (some old) bytes = outcome) :
    (writeHeader slot bytes).Ends environment world fun result after =>
      result = outcome.result ∧ World.Stores slot (outcome.stored.getD old) world after ∧
        after.history = .wrote slot bytes outcome.stored outcome.result :: world.history := by
  obtain ⟨kept, report⟩ := outcome
  unfold Ends
  rw [runIn_writeHeader, held]
  simp only [Except.toOption, goes]
  cases kept with
  | none => exact ⟨rfl, (World.Stores.refl held).of_eq rfl rfl, rfl⟩
  | some stored =>
      obtain ⟨changed, ok, stores⟩ := World.exists_store apart held stored
      have recorded : World.Stores slot stored world
          (changed.record (.wrote slot bytes (some stored) report)) := stores.of_eq rfl rfl
      simp only [ok, true_and]
      constructor
      · exact recorded
      · rw [World.record, (World.store_elsewhere ok).2]

end Session

end HeaderVault
