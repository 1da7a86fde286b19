import HeaderVault.Proofs.Argon2.Geometry

/-!
Which blocks are referred to.

`Shape.Refers` lists what may be said of a reference: it is a block of the matrix, it is not the
block right before, and its contents are there to be read. In the first pass it has been written
before; in later passes it is neither among the blocks of its own segment that are still to be
rewritten nor in the segment that another lane is filling. The windows of the flat filling have only
such blocks (`refers_of_mem_window`), and so has every random word (`refers_reference`).
-/

namespace HeaderVault.Argon2

namespace Flat.Shape

/-- A block that a place may refer to while the segments of its slice are filled. -/
structure Refers (s : Shape) (p : Place) (lane column : Nat) : Prop where
  lane_lt : lane < s.lanes
  column_lt : column < s.laneLength
  written : p.pass = 0 → lane = p.lane → column < s.column p
  finished : p.pass = 0 → lane ≠ p.lane → column < p.slice * s.segment
  rewritten : lane = p.lane → column < s.column p ∨ p.slice * s.segment + s.segment ≤ column
  apart : lane ≠ p.lane → column < p.slice * s.segment ∨ p.slice * s.segment + s.segment ≤ column
  previous : lane = p.lane ∨ p.index = 0 → column ≠ s.previous p

section

variable {s : Shape} {p : Place}

theorem former_eq_nil (first : p.pass = 0) : s.former p = [] := if_pos first

/-- The block right before is in no window of its own lane. Nor is its column in one of another
lane, as long as nothing of the segment has been filled. -/
theorem previous_notMem_window (computes : s.Computes p) (own : Bool)
    (newest : own = true ∨ p.index = 0) : s.previous p ∉ s.window p own := by
  obtain ⟨older, all, fresh⟩ := exists_append_previous computes
  have dropped : (s.former p ++ List.range (s.column p)).dropLast = older := by
    rw [all, List.dropLast_concat]
  cases own with
  | true => rwa [window_own computes, dropped]
  | false =>
      have first : p.index = 0 := by simpa using newest
      have column : s.column p = p.slice * s.segment := by rw [column, first, Nat.add_zero]
      simp only [window, Bool.false_eq_true, if_false, first, if_true]
      rwa [← column, dropped]

/-- Whatever a window has can be referred to. -/
theorem refers_of_mem_window (computes : s.Computes p) {lane column : Nat} (within : lane < s.lanes)
    (mem : column ∈ s.window p (lane == p.lane)) : s.Refers p lane column := by
  have inLane := computes.column_lt
  have slice := computes.slice_le
  have found := mem_of_mem_window mem
  have fresh := previous_notMem_window computes (lane == p.lane)
  constructor
  · exact within
  · rcases found with former | earlier
    · exact (mem_former computes former).2
    · split at earlier <;> omega
  · rintro first rfl
    rw [former_eq_nil first] at found
    simpa using found
  · intro first other
    rw [former_eq_nil first, beq_eq_false_iff_ne.mpr other] at found
    simpa using found
  · rintro rfl
    rcases found with former | earlier
    · exact .inr (mem_former computes former).1
    · exact .inl (by simpa using earlier)
  · intro other
    rw [beq_eq_false_iff_ne.mpr other] at mem
    exact mem_window_other computes mem
  · rintro newest rfl
    exact fresh (newest.imp_left beq_iff_eq.mpr) mem

end

end Flat.Shape

namespace Geometry

variable {g : Geometry} {position : Position} {index : UInt32}

/-- Whatever the random word is, the block it stands for can be referred to. -/
theorem refers_reference (computes : g.shape.Computes (position.place index)) (random : UInt64) :
    g.shape.Refers (position.place index) (g.reference position index random).lane.toNat
      (g.reference position index random).index.toNat := by
  obtain ⟨lane, column⟩ := toNat_reference computes random
  rw [lane, column]
  exact Flat.Shape.refers_of_mem_window computes (Flat.Shape.referenceLane_lt computes random)
    (Flat.Shape.referenceColumn_mem computes random)

end Geometry

end HeaderVault.Argon2
