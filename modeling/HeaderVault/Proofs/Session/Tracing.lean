import HeaderVault.Proofs.Session.Quiet

/-!
What the events of a run tell about it.

A run can be held to certain headers: it is not to write any other (`World.WritesOnly`).
`World.Since` speaks of the events since a run has started; what it says stays true as the run goes
on when it does not depend on what comes later.
-/

namespace HeaderVault

/-! ### Headers that a run may write -/

/-- No header was to be written but those that are allowed in their slot. -/
def World.WritesOnly (allowed : HeaderSlot → HeaderBytes → Prop) (world after : World) : Prop :=
  ∃ events, after.history = events ++ world.history ∧
    ∀ slot bytes kept result, .wrote slot bytes kept result ∈ events → allowed slot bytes

theorem World.Quiet.writesOnly {world after : World} (quiet : world.Quiet after)
    (allowed : HeaderSlot → HeaderBytes → Prop) : world.WritesOnly allowed after := by
  obtain ⟨events, history, noWrite⟩ := quiet.history
  exact ⟨events, history, fun _ _ _ _ occurs => absurd trivial (noWrite _ occurs)⟩

instance {allowed : HeaderSlot → HeaderBytes → Prop} :
    Session.Change (World.WritesOnly allowed) where
  refl world := (Session.Change.refl (R := World.Quiet) world).writesOnly allowed
  trans := by
    rintro world middle after ⟨events, history, writes⟩ ⟨later, historyAfter, writesLater⟩
    refine ⟨later ++ events, ?_, ?_⟩
    · rw [historyAfter, history, List.append_assoc]
    · intro slot bytes kept result occurs
      rcases List.mem_append.mp occurs with late | early
      · exact writesLater slot bytes kept result late
      · exact writes slot bytes kept result early

namespace Session

variable {α : Type} {allowed : HeaderSlot → HeaderBytes → Prop}

theorem Within.writesOnly {session : Session α} (quiet : Within World.Quiet session) :
    Within (World.WritesOnly allowed) session :=
  fun environment world => (quiet environment world).writesOnly allowed

/-- However a write goes, the header that was to be written is recorded. -/
theorem writesOnly_writeHeader {slot : HeaderSlot} {bytes : HeaderBytes}
    (permitted : allowed slot bytes) :
    Within (World.WritesOnly allowed) (writeHeader slot bytes) := by
  intro environment world
  have one : ∀ kept result after,
      after.history = .wrote slot bytes kept result :: world.history →
        world.WritesOnly allowed after := by
    intro kept result after history
    refine ⟨[.wrote slot bytes kept result], history, ?_⟩
    intro _ _ _ _ occurs
    cases List.mem_singleton.mp occurs
    exact permitted
  rw [runIn_writeHeader]
  dsimp only
  split
  · exact one none _ _ rfl
  · next stored _ =>
    split
    · exact one none _ _ rfl
    · next changed ok =>
      exact one (some stored) _ _ (congrArg _ (World.store_elsewhere ok).2)

end Session

/-! ### Events since the start of a run -/

/-- What has happened since `start` is as `P` says. -/
def World.Since (start : World) (P : History → Prop) (world : World) : Prop :=
  ∃ events, world.history = events ++ start.history ∧ P events

/-- What later events do not change stays true. -/
theorem World.Since.later {start world after : World} {P : History → Prop}
    (since : start.Since P world) (stays : ∀ later events, P events → P (later ++ events))
    {allowed : HeaderSlot → HeaderBytes → Prop} (goesOn : world.WritesOnly allowed after) :
    start.Since P after := by
  obtain ⟨events, history, holds⟩ := since
  obtain ⟨later, historyAfter, -⟩ := goesOn
  refine ⟨later ++ events, ?_, stays later events holds⟩
  rw [historyAfter, history, List.append_assoc]

theorem World.Since.quiet {start world after : World} {P : History → Prop}
    (since : start.Since P world) (stays : ∀ later events, P events → P (later ++ events))
    (quiet : world.Quiet after) : start.Since P after :=
  since.later stays (quiet.writesOnly fun _ _ => False)

theorem World.Since.mono {start world : World} {P Q : History → Prop} (since : start.Since P world)
    (weaken : ∀ events, P events → Q events) : start.Since Q world := by
  obtain ⟨events, history, holds⟩ := since
  exact ⟨events, history, weaken events holds⟩

theorem World.Since.and {start world : World} {P Q : History → Prop} (first : start.Since P world)
    (second : start.Since Q world) : start.Since (fun events => P events ∧ Q events) world := by
  obtain ⟨events, history, holds⟩ := first
  obtain ⟨same, historySame, holdsToo⟩ := second
  obtain rfl := List.append_cancel_right (historySame.symm.trans history)
  exact ⟨same, history, holds, holdsToo⟩

end HeaderVault
