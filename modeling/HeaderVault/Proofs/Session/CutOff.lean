import HeaderVault.Proofs.Session.Faults

/-!
Runs that are cut off.

What the slots hold at any moment of a run follows from what they held at its start and from the
writes so far (`Slots.after`). A run may stop between two of its steps or in the middle of a write,
which leaves any mixture of old and new bytes behind (`Slots.Cut`).

`Slots.Guarded` is the rule that keeps a sound header in one of the slots: a slot is written while
the other one is sound. One write may break the rule, the one that puts former bytes back into the
primary slot although the former embedded copy could not be put back. `Guarded.sound_of_cut` says
what the rule is good for, and `World.Guards` follows it through the steps of a session.
-/

namespace HeaderVault

/-! ### Slots in the course of a run -/

namespace Slots

/-- What the slots hold after events, the newest of which comes first. -/
def after (start : Slots) : History → Slots
  | [] => start
  | .wrote slot _ (some stored) _ :: earlier => (start.after earlier).put slot stored
  | _ :: earlier => start.after earlier

theorem after_of_quiet (start : Slots) {event : Event} (noWrite : ¬event.IsWrite)
    (earlier : History) : start.after (event :: earlier) = start.after earlier := by
  cases event with
  | wrote => exact absurd trivial noWrite
  | _ => rfl

theorem after_append_of_quiet (start : Slots) {events : History}
    (noWrite : ∀ event ∈ events, ¬event.IsWrite) (earlier : History) :
    start.after (events ++ earlier) = start.after earlier := by
  induction events with
  | nil => rfl
  | cons event events ih =>
      rw [List.cons_append, start.after_of_quiet (noWrite event List.mem_cons_self),
        ih fun event mem => noWrite event (List.mem_cons_of_mem _ mem)]

/-- A write leaves the other slot alone. -/
theorem after_wrote_other (start : Slots) {slot other : HeaderSlot} (different : other ≠ slot)
    (bytes : HeaderBytes) (kept : Option HeaderBytes) (result : Except Error Unit)
    (earlier : History) :
    start.after (.wrote slot bytes kept result :: earlier) other = start.after earlier other := by
  cases kept with
  | none => rfl
  | some stored => exact put_other _ different stored

theorem after_wrote_self (start : Slots) (slot : HeaderSlot) (bytes : HeaderBytes)
    (kept : Option HeaderBytes) (result : Except Error Unit) (earlier : History) :
    start.after (.wrote slot bytes kept result :: earlier) slot =
      kept.getD (start.after earlier slot) := by
  cases kept with
  | none => rfl
  | some stored => exact put_self _ _ _

end Slots

/-! ### Faulty writes -/

/-- A write failed, or its bytes are not in the slot afterwards. -/
def Event.faulty (after : Slots) : Event → Bool
  | .wrote slot bytes _ (.ok ()) => after slot ≠ bytes
  | .wrote _ _ _ (.error _) => true
  | _ => false

theorem Event.faulty_of_quiet {event : Event} (noWrite : ¬event.IsWrite) (after : Slots) :
    event.faulty after = false := by
  cases event with
  | wrote => exact absurd trivial noWrite
  | _ => rfl

/-- The bytes of a write that went well are in the slot. -/
theorem Event.stored_of_not_faulty {slot : HeaderSlot} {bytes : HeaderBytes}
    {kept : Option HeaderBytes} {result : Except Error Unit} {after : Slots}
    (fine : (Event.wrote slot bytes kept result).faulty after = false) : after slot = bytes := by
  cases result with
  | ok => exact Decidable.not_not.mp (of_decide_eq_false fine)
  | error error => cases fine

namespace Slots

/-- How many writes were faulty. -/
def faults (start : Slots) : History → Nat
  | [] => 0
  | event :: earlier =>
      start.faults earlier + (event.faulty (start.after (event :: earlier))).toNat

theorem faults_append_of_quiet (start : Slots) {events : History}
    (noWrite : ∀ event ∈ events, ¬event.IsWrite) (earlier : History) :
    start.faults (events ++ earlier) = start.faults earlier := by
  induction events with
  | nil => rfl
  | cons event events ih =>
      rw [List.cons_append, faults, Event.faulty_of_quiet (noWrite event List.mem_cons_self),
        ih fun event mem => noWrite event (List.mem_cons_of_mem _ mem)]
      rfl

/-! ### Moments -/

/-- Every byte is an old or a new one. -/
def Mixes (old new mixture : HeaderBytes) : Prop :=
  ∀ i : Fin 512, mixture[i] = old[i] ∨ mixture[i] = new[i]

/-- A write that got as far as its first bytes. -/
def torn (old new : HeaderBytes) (count : Nat) : HeaderBytes :=
  Vector.ofFn fun i => if i.val < count then new[i] else old[i]

theorem mixes_torn (old new : HeaderBytes) (count : Nat) : Mixes old new (torn old new count) := by
  intro i
  rw [torn, Fin.getElem_fin, Vector.getElem_ofFn]
  split
  · exact .inr rfl
  · exact .inl rfl

/-- What the slots may hold when a run is cut off after the events in `earlier` and before those in
`later`: it stops between two steps, or in the middle of the write that comes next, to the slot that
is given. -/
inductive Cut (start : Slots) (earlier : History) :
    (later : History) → (writing : Option HeaderSlot) → Slots → Prop
  | between (later : History) : Cut start earlier later none (start.after earlier)
  | during (slot : HeaderSlot) (bytes : HeaderBytes) (kept : Option HeaderBytes)
      (result : Except Error Unit) (later : History) (mixture : HeaderBytes)
      (mixes : Mixes (start.after earlier slot) bytes mixture) :
      Cut start earlier (later ++ [.wrote slot bytes kept result]) (some slot)
        ((start.after earlier).put slot mixture)

/-- The last event is a write that was to put the former embedded copy back, and left no sound one. -/
inductive FailedUndo (start : Slots) (sound : HeaderBytes → Prop) : History → Prop
  | wrote (kept : Option HeaderBytes) (result : Except Error Unit) (earlier : History)
      (lost : ¬sound (start.after (.wrote .backup (start .backup) kept result :: earlier) .backup)) :
      FailedUndo start sound (.wrote .backup (start .backup) kept result :: earlier)

/-! ### Guarded runs -/

/-- Slots of which one holds sound bytes. -/
def Sound (sound : HeaderBytes → Prop) (slots : Slots) : Prop := ∃ slot, sound (slots slot)

/-- A slot is written while the other one is sound; after a failed undo sound former bytes may be put
back into the primary slot. -/
inductive Guarded (start : Slots) (sound : HeaderBytes → Prop) : History → Prop
  | start (holds : start.Sound sound) : Guarded start sound []
  | quiet {event : Event} {earlier : History} (noWrite : ¬event.IsWrite)
      (guarded : Guarded start sound earlier) : Guarded start sound (event :: earlier)
  | write {slot other : HeaderSlot} {earlier : History} (different : other ≠ slot)
      (holds : sound (start.after earlier other)) (bytes : HeaderBytes)
      (kept : Option HeaderBytes) (result : Except Error Unit)
      (guarded : Guarded start sound earlier) :
      Guarded start sound (.wrote slot bytes kept result :: earlier)
  | undo {earlier : History} (failed : start.FailedUndo sound earlier)
      (former : ∀ slot, sound (start slot)) (kept : Option HeaderBytes) (result : Except Error Unit)
      (guarded : Guarded start sound earlier) :
      Guarded start sound (.wrote .primary (start .primary) kept result :: earlier)

namespace Guarded

variable {start : Slots} {sound : HeaderBytes → Prop} {earlier : History}

theorem of_append {later : History} (guarded : start.Guarded sound (later ++ earlier)) :
    start.Guarded sound earlier := by
  induction later with
  | nil => exact guarded
  | cons event later ih =>
      apply ih
      cases guarded with
      | quiet _ guarded => exact guarded
      | write _ _ _ _ _ guarded => exact guarded
      | undo _ _ _ _ guarded => exact guarded

theorem append_quiet {events : History} (noWrite : ∀ event ∈ events, ¬event.IsWrite)
    (guarded : start.Guarded sound earlier) : start.Guarded sound (events ++ earlier) := by
  induction events with
  | nil => exact guarded
  | cons event events ih =>
      exact .quiet (noWrite event List.mem_cons_self)
        (ih fun event mem => noWrite event (List.mem_cons_of_mem _ mem))

/-- Between two steps there is a sound header, as long as no second write was faulty. -/
theorem sound_after (guarded : start.Guarded sound earlier) (few : start.faults earlier ≤ 1) :
    (start.after earlier).Sound sound := by
  induction guarded with
  | start holds => exact holds
  | quiet noWrite guarded ih =>
      rw [start.after_of_quiet noWrite]
      rw [Slots.faults, Event.faulty_of_quiet noWrite] at few
      exact ih few
  | write different holds bytes kept result guarded =>
      exact ⟨_, by rwa [start.after_wrote_other different]⟩
  | undo failed former kept result guarded =>
      -- the one fault was that of the failed undo, so the former bytes are back
      obtain ⟨kept', result', before, lost⟩ := failed
      have faulty : (Event.wrote .backup (start .backup) kept' result').faulty
          (start.after (.wrote .backup (start .backup) kept' result' :: before)) = true := by
        refine Bool.of_not_eq_false fun fine => lost ?_
        rw [Event.stored_of_not_faulty fine]
        exact former .backup
      have fine : (Event.wrote .primary (start .primary) kept result).faulty (start.after
          (.wrote .primary (start .primary) kept result ::
            .wrote .backup (start .backup) kept' result' :: before)) = false := by
        rw [Slots.faults, Slots.faults, faulty] at few
        rw [← Bool.toNat_eq_zero]
        have one : true.toNat = 1 := rfl
        omega
      exact ⟨.primary, by rw [Event.stored_of_not_faulty fine]; exact former .primary⟩

/-- In the middle of a write there is a sound header, unless it is one to the primary slot after a
failed undo. -/
theorem sound_during {slot : HeaderSlot} {bytes : HeaderBytes} {kept : Option HeaderBytes}
    {result : Except Error Unit}
    (guarded : start.Guarded sound (.wrote slot bytes kept result :: earlier))
    (settled : slot = .primary → ¬start.FailedUndo sound earlier) (mixture : HeaderBytes) :
    ((start.after earlier).put slot mixture).Sound sound := by
  cases guarded with
  | quiet noWrite => exact absurd trivial noWrite
  | write different holds => exact ⟨_, by rwa [put_other _ different]⟩
  | undo failed => exact absurd failed (settled rfl)

/-- Wherever a guarded run is cut off there is a sound header, if no second write was faulty, and
unless it is cut off in the middle of a write to the primary slot after a failed undo. -/
theorem sound_of_cut {later : History} {writing : Option HeaderSlot} {slots : Slots}
    (guarded : start.Guarded sound (later ++ earlier)) (few : start.faults earlier ≤ 1)
    (cut : start.Cut earlier later writing slots)
    (settled : writing = some .primary → ¬start.FailedUndo sound earlier) : slots.Sound sound := by
  cases cut with
  | between => exact guarded.of_append.sound_after few
  | during slot bytes kept result later mixture mixes =>
      rw [List.append_assoc] at guarded
      exact guarded.of_append.sound_during (fun primary => settled (congrArg some primary)) mixture

end Guarded

end Slots

/-! ### Guarded sessions -/

/-- A run has come from `start` to a world by guarded events, and the slots hold what the events
say. -/
structure World.Guards (slots : Slots) (sound : HeaderBytes → Prop) (start world : World)
    (events : History) : Prop where
  history : world.history = events ++ start.history
  guarded : slots.Guarded sound events
  stored : ∀ slot, world.stored slot = .ok (slots.after events slot)
  apart : world.SlotsApart

namespace World.Guards

variable {slots : Slots} {sound : HeaderBytes → Prop} {start world after : World} {events : History}

theorem refl (apart : start.SlotsApart) (held : ∀ slot, start.stored slot = .ok (slots slot))
    (holds : slots.Sound sound) : Guards slots sound start start [] :=
  ⟨rfl, .start holds, held, apart⟩

/-- Quiet steps change nothing about the slots. -/
theorem quiet (guards : Guards slots sound start world events) (quiet : world.Quiet after) :
    ∃ more, slots.after (more ++ events) = slots.after events ∧
      Guards slots sound start after (more ++ events) := by
  obtain ⟨more, history, noWrite⟩ := quiet.history
  have same := slots.after_append_of_quiet noWrite events
  refine ⟨more, same, ?_, guards.guarded.append_quiet noWrite, fun slot => ?_,
    quiet.unharmed.elsewhere.slotsApart guards.apart⟩
  · rw [history, guards.history, List.append_assoc]
  · rw [same, quiet.unharmed.stored, guards.stored]

/-- A run that has only been quiet is guarded by the headers it found. -/
theorem of_quiet (apart : start.SlotsApart) (held : ∀ slot, start.stored slot = .ok (slots slot))
    (holds : slots.Sound sound) (quiet : start.Quiet after) :
    ∃ events, slots.after events = slots ∧ Guards slots sound start after events := by
  obtain ⟨more, same, guards⟩ := (refl apart held holds).quiet quiet
  exact ⟨_, same, guards⟩

/-- A write that is guarded. -/
theorem writeHeader {environment : Environment} (guards : Guards slots sound start world events)
    {slot : HeaderSlot} {bytes : HeaderBytes}
    (next : ∀ kept result, slots.Guarded sound (.wrote slot bytes kept result :: events)) :
    (Session.writeHeader slot bytes).Ends environment world fun result after => ∃ kept,
      Guards slots sound start after (.wrote slot bytes kept result :: events) := by
  rcases goes : environment.device.write world.history slot (some (slots.after events slot)) bytes
    with ⟨kept, report⟩
  refine (Session.writeHeader_ends guards.apart (guards.stored slot) goes).mono ?_
  rintro _ after ⟨rfl, stores, history⟩
  refine ⟨kept, ?_, next _ _, ?_, stores.elsewhere.slotsApart guards.apart⟩
  · rw [history, guards.history]
    rfl
  · intro other
    by_cases same : other = slot
    · rw [same, slots.after_wrote_self, stores.stored]
    · rw [slots.after_wrote_other same, stores.other other same, guards.stored]

/-- On a truthful device what is read is what the events say. -/
theorem readHeader {environment : Environment} (truthful : environment.device.Truthful)
    (guards : Guards slots sound start world events) (slot : HeaderSlot) :
    (Session.readHeader slot).Ends environment world fun result after =>
      Guards slots sound start after (.read slot result :: events) ∧
        ∀ bytes, result = .ok bytes → slots.after events slot = bytes := by
  refine (Session.readHeader_reads slot).mono ?_
  rintro result after ⟨rfl, reads⟩
  refine ⟨⟨congrArg _ guards.history, .quiet id guards.guarded, fun other => ?_, guards.apart⟩, ?_⟩
  · exact guards.stored other
  · rintro bytes rfl
    rw [guards.stored slot] at reads
    exact (truthful _ _ _ _ reads.symm).symm

end World.Guards

end HeaderVault
