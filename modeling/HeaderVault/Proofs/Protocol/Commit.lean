import HeaderVault.Proofs.Session.Faults
import HeaderVault.Protocol.Commit

/-!
A commit either holds or leaves no trace.

On a recoverable device `commit` ends in one of two ways. It succeeds, and the new bytes were written
and read back (`Committed`), or it fails, and every slot holds what it held before (`Undone`). A
failed `commitBackup` also takes back what was committed to the primary slot.
-/

namespace HeaderVault

/-- New bytes were written to a slot and read back, and nothing else has changed. On an honest
device they are stored. -/
structure Committed (device : DeviceBehaviour) (slot : HeaderSlot) (bytes : HeaderBytes)
    (world after : World) : Prop where
  logged : ∃ kept,
    after.history = .read slot (.ok bytes) :: .wrote slot bytes kept (.ok ()) :: world.history
  stores : ∃ content, World.Stores slot content world after ∧ (device.Honest → content = bytes)

theorem Committed.stored {device : DeviceBehaviour} {slot : HeaderSlot} {bytes : HeaderBytes}
    {world after : World} (committed : Committed device slot bytes world after)
    (honest : device.Honest) : after.stored slot = .ok bytes := by
  obtain ⟨content, stores, sound⟩ := committed.stores
  rw [stores.stored, sound honest]

/-- What is recorded of a write that fails, or that is not found when it is read back. -/
inductive WriteFailed (slot : HeaderSlot) (bytes : HeaderBytes) : History → Prop
  | write (kept : Option HeaderBytes) (error : Error) :
      WriteFailed slot bytes [.wrote slot bytes kept (.error error)]
  | readBack (kept : Option HeaderBytes) (found : Except Error HeaderBytes)
      (differs : found ≠ .ok bytes) :
      WriteFailed slot bytes [.read slot found, .wrote slot bytes kept (.ok ())]

/-- A failed write is taken back: all slots hold what they held. -/
structure TakenBack (slot : HeaderSlot) (former bytes : HeaderBytes) (world after : World) : Prop where
  unharmed : world.Unharmed after
  logged : ∃ kept report failed, WriteFailed slot bytes failed ∧
    after.history = .wrote slot former kept report :: failed ++ world.history

/-- All slots hold what they held; a write that put former bytes back came last. -/
structure Undone (world after : World) : Prop where
  unharmed : world.Unharmed after
  logged : ∃ slot bytes kept result events,
    after.history = .wrote slot bytes kept result :: events ++ world.history

/-- Bytes were written to a slot without an error and found there when they were read back. -/
inductive Verified (slot : HeaderSlot) (bytes : HeaderBytes) : History → Prop
  | now (kept : Option HeaderBytes) (earlier : History) :
      Verified slot bytes
        (.read slot (.ok bytes) :: .wrote slot bytes kept (.ok ()) :: earlier)
  | before (event : Event) {earlier : History} (verified : Verified slot bytes earlier) :
      Verified slot bytes (event :: earlier)

theorem Verified.append {slot : HeaderSlot} {bytes : HeaderBytes} {earlier : History}
    (verified : Verified slot bytes earlier) (later : History) :
    Verified slot bytes (later ++ earlier) := by
  induction later with
  | nil => exact verified
  | cons event later rest => exact .before event rest

theorem not_verified_of_quiet {slot : HeaderSlot} {bytes : HeaderBytes} {recent : History}
    (noWrite : ∀ event ∈ recent, ¬event.IsWrite) : ¬Verified slot bytes recent := by
  intro verified
  induction verified with
  | now kept earlier => exact noWrite (.wrote slot bytes kept (.ok ())) (by simp) trivial
  | before event _ rest => exact rest fun event late => noWrite event (List.mem_cons_of_mem _ late)

/-- A write that failed was not found, nor were the former bytes that were put back read again. -/
theorem WriteFailed.not_verified {slot : HeaderSlot} {former bytes other : HeaderBytes}
    {kept : Option HeaderBytes} {report : Except Error Unit} {failed events : History}
    (shape : WriteFailed slot bytes failed) (noWrite : ∀ event ∈ events, ¬event.IsWrite) :
    ¬Verified slot other (.wrote slot former kept report :: failed ++ events) := by
  rintro (_ | ⟨_, verified⟩)
  cases shape with
  | write kept error =>
      rcases verified with _ | ⟨_, verified⟩
      exact not_verified_of_quiet noWrite verified
  | readBack kept found differs =>
      rcases verified with _ | ⟨_, verified⟩
      · exact differs rfl
      · rcases verified with _ | ⟨_, verified⟩
        exact not_verified_of_quiet noWrite verified

theorem WriteFailed.rollbackDue {slot : HeaderSlot} {bytes : HeaderBytes} {recent : History}
    (failed : WriteFailed slot bytes recent) : RollbackDue recent := by
  cases failed with
  | write kept error => exact .wrote slot bytes kept (.error error) []
  | readBack kept found differs => exact .differs slot bytes kept (.ok ()) found [] differs

theorem World.Unharmed.stores {world after : World} (unharmed : world.Unharmed after)
    {slot : HeaderSlot} {bytes : HeaderBytes} (held : world.stored slot = .ok bytes) :
    World.Stores slot bytes world after :=
  ⟨(unharmed.stored slot).trans held, fun other _ => unharmed.stored other, unharmed.elsewhere⟩

theorem TakenBack.undone {slot : HeaderSlot} {former bytes : HeaderBytes} {world after : World}
    (takenBack : TakenBack slot former bytes world after) : Undone world after := by
  obtain ⟨kept, report, failed, -, history⟩ := takenBack.logged
  exact ⟨takenBack.unharmed, slot, former, kept, report, failed, history⟩

theorem Undone.of_quiet {start world after : World} (since : start.Quiet world)
    (undone : Undone world after) : Undone start after := by
  obtain ⟨slot, bytes, kept, result, events, last⟩ := undone.logged
  obtain ⟨earlier, history, -⟩ := since.history
  refine ⟨since.unharmed.trans undone.unharmed, slot, bytes, kept, result, events ++ earlier, ?_⟩
  rw [last, history]
  simp only [List.cons_append, List.append_assoc]

namespace Protocol

variable {environment : Environment} {world : World} {start recent : History} {slot : HeaderSlot}
variable {former bytes : HeaderBytes}

/-- A write that was checked, or one that has to be undone. -/
theorem writeVerified_ends (apart : world.SlotsApart) (held : world.stored slot = .ok former) :
    (writeVerified slot bytes).Ends environment world fun result after =>
      match result with
      | .ok () => Committed environment.device slot bytes world after
      | .error _ => (∃ content, World.Stores slot content world after) ∧
          ∃ failed, WriteFailed slot bytes failed ∧ after.history = failed ++ world.history := by
  rcases goes : environment.device.write world.history slot (some former) bytes with ⟨kept, report⟩
  refine .bind ((Session.writeHeader_ends apart held goes).mono ?_)
  rintro (error | ⟨⟩) written ⟨rfl, stores, history⟩
  · exact ⟨⟨_, stores⟩, _, .write kept error, history⟩
  refine .bind ((Session.readHeader_reads slot).mono ?_)
  rintro (error | found) _ ⟨rfl, reads⟩
  · exact ⟨⟨_, stores.of_eq rfl rfl⟩, _, .readBack kept (.error error) (by simp),
      congrArg _ history⟩
  · dsimp only
    split
    · next differs =>
      exact ⟨⟨_, stores.of_eq rfl rfl⟩, _, .readBack kept (.ok found) (by simpa using differs),
        congrArg _ history⟩
    · next same =>
      have same : found = bytes := by simpa using same
      subst same
      refine ⟨⟨kept, congrArg _ history⟩, _, stores.of_eq rfl rfl, fun honest => ?_⟩
      rw [stores.stored, history] at reads
      exact honest world.history slot former found kept goes reads.symm

/-- Whatever a device does, a commit that succeeds was checked. -/
theorem commit_committed {content : HeaderBytes} (apart : world.SlotsApart)
    (held : world.stored slot = .ok content) :
    (commit slot former bytes).Ends environment world fun result after =>
      result = .ok () → Committed environment.device slot bytes world after := by
  refine .bind (.attempt ((writeVerified_ends apart held).mono ?_))
  rintro (error | ⟨⟩) written
  · intro _
    exact .bind_any (fun _ _ ok => nomatch ok) fun _ _ => Session.ends_throw fun ok => nomatch ok
  · exact fun committed => Session.ends_pure fun _ => committed

theorem commitBackup_committed {content : HeaderBytes} (apart : world.SlotsApart)
    (held : world.stored .backup = .ok content) (formerPrimary : HeaderBytes) :
    (commitBackup formerPrimary former bytes).Ends environment world fun result after =>
      result = .ok () → Committed environment.device .backup bytes world after := by
  refine .bind (.attempt ((commit_committed apart held).mono ?_))
  rintro (error | ⟨⟩) written
  · intro _
    exact .bind_any (fun _ _ ok => nomatch ok) fun _ _ => Session.ends_throw fun ok => nomatch ok
  · exact fun committed => Session.ends_pure fun _ => committed rfl

/-- A roll-back is a write whose error is not reported. -/
theorem rollback_wrote (apart : world.SlotsApart) {content : HeaderBytes}
    (held : world.stored slot = .ok content) {outcome : WriteOutcome}
    (goes : environment.device.write world.history slot (some content) former = outcome) :
    (rollback slot former).Ends environment world fun result after =>
      result = .ok () ∧ World.Stores slot (outcome.stored.getD content) world after ∧
        after.history = .wrote slot former outcome.stored outcome.result :: world.history := by
  refine .bind (.attempt ((Session.writeHeader_ends apart held goes).mono ?_))
  rintro result after ⟨-, stores, history⟩
  exact ⟨rfl, stores, history⟩

/-- When it is due a roll-back puts the former bytes in their place. -/
theorem rollback_ends (recoverable : environment.device.Recoverable start)
    (since : world.history = recent ++ start) (due : RollbackDue recent) (apart : world.SlotsApart)
    {content : HeaderBytes} (held : world.stored slot = .ok content) :
    (rollback slot former).Ends environment world fun result after =>
      result = .ok () ∧ World.Stores slot former world after ∧
        ∃ kept report, after.history = .wrote slot former kept report :: world.history := by
  have whole := recoverable.rollbacks recent slot (some content) former due
  rw [← since] at whole
  refine (rollback_wrote apart held rfl).mono ?_
  rintro result after ⟨ok, stores, history⟩
  rw [whole] at stores
  exact ⟨ok, stores, _, _, history⟩

/-- A commit replaces the former bytes of a slot or leaves them. -/
theorem commit_ends (recoverable : environment.device.Recoverable start)
    (since : world.history = recent ++ start) (apart : world.SlotsApart)
    (held : world.stored slot = .ok former) :
    (commit slot former bytes).Ends environment world fun result after =>
      match result with
      | .ok () => Committed environment.device slot bytes world after
      | .error _ => TakenBack slot former bytes world after := by
  refine .bind (.attempt ((writeVerified_ends apart held).mono ?_))
  rintro (error | ⟨⟩) written
  · rintro ⟨⟨content, stores⟩, events, failed, history⟩
    have sinceStart : written.history = (events ++ recent) ++ start := by
      rw [history, since, List.append_assoc]
    refine .bind ((rollback_ends recoverable sinceStart (failed.rollbackDue.append recent)
      (stores.elsewhere.slotsApart apart) stores.stored).mono ?_)
    rintro _ after ⟨rfl, back, kept, report, last⟩
    have whole := stores.trans back
    refine Session.ends_throw ⟨whole.unharmed held, kept, report, events, failed, ?_⟩
    rw [last, history, List.cons_append]
  · exact fun committed => committed

/-- A commit succeeds where the device does what it is told. -/
theorem commit_of_faithful
    (reads : ∀ history stored, environment.device.read history slot stored = .ok stored)
    (writes : ∀ history old new, environment.device.write history slot old new = ⟨some new, .ok ()⟩)
    (apart : world.SlotsApart) (held : world.stored slot = .ok former) :
    (commit slot former bytes).Ends environment world fun result after =>
      result = .ok () ∧ World.Stores slot bytes world after ∧
        after.history =
          .read slot (.ok bytes) :: .wrote slot bytes (some bytes) (.ok ()) :: world.history := by
  refine .bind (.attempt (.bind ((Session.writeHeader_ends apart held (writes _ _ _)).mono ?_)))
  rintro _ written ⟨rfl, stores, history⟩
  have stores : World.Stores slot bytes world written := stores
  refine .bind_ok (Session.runIn_readHeader_of_stored stores.stored (reads _ _)) ?_
  rw [if_neg (Decidable.not_not.mpr rfl)]
  exact ⟨rfl, stores.of_eq rfl rfl, congrArg _ history⟩

/-- So does one to the embedded copy, and the primary slot is left alone. -/
theorem commitBackup_of_faithful
    (reads : ∀ history stored, environment.device.read history .backup stored = .ok stored)
    (writes : ∀ history old new,
      environment.device.write history .backup old new = ⟨some new, .ok ()⟩)
    (apart : world.SlotsApart) (held : world.stored .backup = .ok former)
    (formerPrimary : HeaderBytes) :
    (commitBackup formerPrimary former bytes).Ends environment world fun result after =>
      result = .ok () ∧ World.Stores .backup bytes world after := by
  refine .bind (.attempt ((commit_of_faithful reads writes apart held).mono ?_))
  rintro _ after ⟨rfl, stores, -⟩
  exact Session.ends_pure ⟨rfl, stores⟩

/-- A commit reports the fault of its write, whatever becomes of the roll-back. -/
theorem commit_of_write_error {error : Error} (apart : world.SlotsApart)
    (held : world.stored slot = .ok former)
    (fault : (environment.device.write world.history slot (some former) bytes).result =
      .error error) :
    (commit slot former bytes).Ends environment world fun result _ => result = .error error := by
  refine .bind (.attempt (.bind ((Session.writeHeader_ends apart held rfl).mono ?_)))
  rintro result written ⟨rfl, -, -⟩
  rw [fault]
  exact .bind (.bind (.attempt rfl))

/-- A commit to the embedded copy after the primary slot was changed keeps both or undoes both. -/
theorem commitBackup_ends (recoverable : environment.device.Recoverable start)
    (since : world.history = recent ++ start) {before : World} (apart : before.SlotsApart)
    {formerPrimary content : HeaderBytes} (heldPrimary : before.stored .primary = .ok formerPrimary)
    (held : before.stored .backup = .ok former)
    (changed : World.Stores .primary content before world) {events : History}
    (history : world.history = events ++ before.history) :
    (commitBackup formerPrimary former bytes).Ends environment world fun result after =>
      match result with
      | .ok () => Committed environment.device .backup bytes world after
      | .error _ => Undone before after := by
  have apartNow := changed.elsewhere.slotsApart apart
  have heldNow : world.stored .backup = .ok former := (changed.other .backup (by decide)).trans held
  refine .bind (.attempt ((commit_ends recoverable since apartNow heldNow).mono ?_))
  rintro (error | ⟨⟩) undone
  · intro failed
    obtain ⟨kept, report, more, -, last⟩ := failed.logged
    have sinceStart : undone.history = (.wrote .backup former kept report :: more ++ recent) ++ start := by
      rw [last, since, List.append_assoc]
    have stores := changed.trans (failed.unharmed.stores changed.stored)
    refine .bind ((rollback_ends recoverable sinceStart (.wrote _ _ _ _ _)
      (stores.elsewhere.slotsApart apart) stores.stored).mono ?_)
    rintro _ after ⟨rfl, back, kept', report', last'⟩
    have whole := stores.trans back
    refine Session.ends_throw ⟨whole.unharmed heldPrimary, .primary, formerPrimary, kept', report',
      .wrote .backup former kept report :: more ++ events, ?_⟩
    rw [last', last, history]
    simp only [List.cons_append, List.append_assoc]
  · exact fun committed => committed

end Protocol

end HeaderVault
