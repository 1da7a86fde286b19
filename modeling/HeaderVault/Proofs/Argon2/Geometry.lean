import HeaderVault.Argon2.Segment
import HeaderVault.Proofs.Argon2.Flat

/-!
The geometry of the matrix in numbers.

A matrix has fewer blocks than there are words of 32 bits, so nothing wraps in the arithmetic on
words: every function of `Geometry` is the one of the flat filling (`toNat_…`). What a block refers
to can be read while its segment is filled (`available_previous`, `available_reference`).
-/

namespace HeaderVault.Argon2

open Flat (Place Shape)

/-! ### Words as numbers -/

theorem toNat_add_of_lt {a b : UInt32} (lt : a.toNat + b.toNat < UInt32.size) :
    (a + b).toNat = a.toNat + b.toNat := by
  rw [UInt32.toNat_add]
  exact Nat.mod_eq_of_lt lt

theorem toNat_mul_of_lt {a b : UInt32} (lt : a.toNat * b.toNat < UInt32.size) :
    (a * b).toNat = a.toNat * b.toNat := by
  rw [UInt32.toNat_mul]
  exact Nat.mod_eq_of_lt lt

theorem toNat_sub_of_toNat_le {a b : UInt32} (le : b.toNat ≤ a.toNat) :
    (a - b).toNat = a.toNat - b.toNat :=
  UInt32.toNat_sub_of_le a b (UInt32.le_iff_toNat_le.mpr le)

def Position.place (position : Position) (index : UInt32) : Place where
  pass := position.pass.toNat
  slice := position.slice.toNat
  lane := position.lane.toNat
  index := index.toNat

namespace Geometry

variable {g : Geometry} {position : Position} {index : UInt32}

def shape (g : Geometry) : Shape where
  variant := g.variant
  passes := g.passes.toNat
  lanes := g.lanes.toNat
  segment := g.segmentLength.toNat

theorem laneLength_lt (g : Geometry) : g.shape.laneLength < UInt32.size := by
  have fits : g.shape.laneLength * g.lanes.toNat < UInt32.size := g.fits
  have := Nat.le_mul_of_pos_right g.shape.laneLength g.lanes_pos
  omega

theorem toNat_laneLength (g : Geometry) : g.laneLength.toNat = g.shape.laneLength := by
  have small := g.laneLength_lt
  rw [shape, Shape.laneLength, Nat.mul_comm] at small
  rw [laneLength, toNat_mul_of_lt small, shape, Shape.laneLength, Nat.mul_comm]
  rfl

theorem toNat_blockCount (g : Geometry) : g.blockCount.toNat = g.shape.blockCount := by
  have fits : g.shape.laneLength * g.lanes.toNat < UInt32.size := g.fits
  rw [blockCount, toNat_mul_of_lt (by rwa [toNat_laneLength]), toNat_laneLength, Nat.mul_comm]
  rfl

theorem toNat_pass_eq_zero : (position.place index).pass = 0 ↔ position.pass = 0 :=
  ⟨fun zero => UInt32.toNat_inj.mp zero, fun zero => congrArg UInt32.toNat zero⟩

theorem toNat_slice_eq_zero : (position.place index).slice = 0 ↔ position.slice = 0 :=
  ⟨fun zero => UInt32.toNat_inj.mp zero, fun zero => congrArg UInt32.toNat zero⟩

theorem toNat_index_eq_zero : (position.place index).index = 0 ↔ index = 0 :=
  ⟨fun zero => UInt32.toNat_inj.mp zero, fun zero => congrArg UInt32.toNat zero⟩

section

variable {slice : UInt32} (within : slice < slices)
include within

/-- Every slice lies within its lane. -/
theorem slice_le :
    slice.toNat * g.segmentLength.toNat + g.segmentLength.toNat ≤ g.shape.laneLength := by
  have := Nat.mul_le_mul_right g.segmentLength.toNat
    (Nat.succ_le_of_lt (UInt32.lt_iff_toNat_lt.mp within))
  rwa [Nat.succ_mul] at this

theorem sliceStart_fits : slice.toNat * g.segmentLength.toNat < UInt32.size := by
  have inLane := slice_le (g := g) within
  have small := g.laneLength_lt
  omega

theorem toNat_sliceStart : (g.sliceStart slice).toNat = slice.toNat * g.segmentLength.toNat :=
  toNat_mul_of_lt (sliceStart_fits within)

theorem sliceStop_fits : (g.sliceStart slice).toNat + g.segmentLength.toNat < UInt32.size := by
  rw [toNat_sliceStart within]
  exact Nat.lt_of_le_of_lt (slice_le within) g.laneLength_lt

theorem toNat_sliceStop :
    (g.sliceStart slice + g.segmentLength).toNat =
      slice.toNat * g.segmentLength.toNat + g.segmentLength.toNat := by
  rw [toNat_add_of_lt (sliceStop_fits within), toNat_sliceStart within]

theorem sliceStop_le : g.sliceStart slice + g.segmentLength ≤ g.laneLength := by
  rw [UInt32.le_iff_toNat_le, toNat_sliceStop within, toNat_laneLength]
  exact slice_le within

omit g in
theorem toNat_succ_slice : (slice + 1).toNat = slice.toNat + 1 := by
  have small : slice.toNat < 4 := UInt32.lt_iff_toNat_lt.mp within
  exact toNat_add_of_lt (Nat.lt_trans (Nat.succ_lt_succ small) (by decide))

end

section

variable (computes : g.shape.Computes (position.place index))
include computes

theorem slice_lt : position.slice < slices := UInt32.lt_iff_toNat_lt.mpr computes.slice

/-- The first column of the segment. -/
theorem toNat_start :
    (g.sliceStart position.slice).toNat = (position.place index).slice * g.shape.segment :=
  toNat_sliceStart (slice_lt computes)

theorem toNat_column :
    (g.sliceStart position.slice + index).toNat = g.shape.column (position.place index) := by
  have within := computes.column_lt
  have small := g.laneLength_lt
  have start := toNat_start computes
  rw [toNat_add_of_lt, start]
  · rfl
  · rw [start]
    exact Nat.lt_trans within small

theorem toNat_previousIndex :
    (g.previousIndex position index).toNat = g.shape.previous (position.place index) := by
  have within := computes.column_lt
  have column := toNat_column computes
  have length := g.toNat_laneLength
  have pos := computes.laneLength_pos
  have one : (1 : UInt32).toNat = 1 := rfl
  unfold previousIndex
  by_cases first : g.sliceStart position.slice + index = 0
  · have zero : g.shape.column (position.place index) = 0 := by rw [← column, first]; rfl
    rw [Shape.previous, zero, Nat.zero_add, Nat.mod_eq_of_lt (by omega), ← length]
    simp only [first, beq_self_eq_true, if_true]
    rw [toNat_sub_of_toNat_le (by omega), one]
  · have later : (g.sliceStart position.slice + index).toNat ≠ 0 := fun zero =>
      first (UInt32.toNat_inj.mp zero)
    rw [computes.previous_of_pos (by omega), ← column]
    simp only [first, beq_iff_eq, if_false]
    rw [toNat_sub_of_toNat_le (by omega), one]

/-! ### Reference blocks -/

/-- In a later pass everything of a lane but one segment is there. -/
theorem toNat_laneLength_sub :
    (g.laneLength - g.segmentLength).toNat =
      (3 - (position.place index).slice) * g.shape.segment +
        (position.place index).slice * g.shape.segment := by
  have within := computes.slice_le
  have following := computes.following
  have length := g.toNat_laneLength
  rw [Nat.succ_mul] at following
  rw [toNat_sub_of_toNat_le]
  · simp only [shape] at *
    omega
  · simp only [shape] at *
    omega

theorem toNat_referenceArea_own :
    (g.referenceArea position index true).toNat =
      (g.shape.window (position.place index) true).length := by
  have column := toNat_column computes
  have inside := computes.index
  have following := computes.following
  have small := g.laneLength_lt
  have rest := toNat_laneLength_sub computes
  have pos := Shape.window_pos computes true nofun
  have one : (1 : UInt32).toNat = 1 := rfl
  have same : (position.place index).index = index.toNat := rfl
  rw [Shape.length_window computes, Shape.length_former] at pos ⊢
  rw [Nat.succ_mul] at following
  unfold referenceArea
  by_cases first : position.pass = 0
  · simp only [toNat_pass_eq_zero.mpr first, first, beq_self_eq_true, if_true, Nat.zero_add] at pos ⊢
    by_cases firstSlice : position.slice = 0
    · simp only [Shape.column, toNat_slice_eq_zero.mpr firstSlice, Nat.zero_mul, Nat.zero_add] at pos ⊢
      simp only [firstSlice, beq_self_eq_true, if_true]
      rw [toNat_sub_of_toNat_le (by omega), one, same]
    · simp only [firstSlice, beq_iff_eq, if_false]
      change (g.sliceStart position.slice + index - 1).toNat = _
      rw [toNat_sub_of_toNat_le (by omega), column, one]
  · have later : (position.place index).pass ≠ 0 := fun zero => first (toNat_pass_eq_zero.mp zero)
    simp only [first, later, beq_iff_eq, if_false, if_true, Shape.column] at pos ⊢
    have ahead : (g.laneLength - g.segmentLength + index).toNat =
        (g.laneLength - g.segmentLength).toNat + index.toNat := toNat_add_of_lt (by omega)
    rw [toNat_sub_of_toNat_le (by omega), ahead, rest, one, same]
    omega

theorem toNat_referenceArea_other
    (finished : ¬((position.place index).pass = 0 ∧ (position.place index).slice = 0)) :
    (g.referenceArea position index false).toNat =
      (g.shape.window (position.place index) false).length := by
  have start := toNat_start computes
  have rest := toNat_laneLength_sub computes
  have pos := Shape.window_pos computes false fun _ => finished
  have back : (if index = 0 then (1 : UInt32) else 0).toNat =
      if (position.place index).index = 0 then 1 else 0 := by
    simp only [toNat_index_eq_zero]
    split <;> rfl
  rw [Shape.length_window computes, Shape.length_former] at pos ⊢
  rw [toNat_pass_eq_zero, toNat_slice_eq_zero] at finished
  unfold referenceArea
  by_cases first : position.pass = 0
  · have firstSlice : position.slice ≠ 0 := fun zero => finished ⟨first, zero⟩
    simp only [toNat_pass_eq_zero.mpr first, first, firstSlice, beq_self_eq_true, beq_iff_eq, if_true,
      if_false, Bool.false_eq_true, Nat.zero_add] at pos ⊢
    change (g.sliceStart position.slice - _).toNat = _
    rw [toNat_sub_of_toNat_le (by rw [back]; omega), start, back]
  · have later : (position.place index).pass ≠ 0 := fun zero => first (toNat_pass_eq_zero.mp zero)
    simp only [first, later, beq_iff_eq, if_false, Bool.false_eq_true] at pos ⊢
    rw [toNat_sub_of_toNat_le (by rw [back]; omega), rest, back]

/-- The number of blocks to choose from is the length of the list of them. -/
theorem toNat_referenceArea {own : Bool}
    (finished : own = false →
      ¬((position.place index).pass = 0 ∧ (position.place index).slice = 0)) :
    (g.referenceArea position index own).toNat =
      (g.shape.window (position.place index) own).length := by
  cases own with
  | true => exact toNat_referenceArea_own computes
  | false => exact toNat_referenceArea_other computes (finished rfl)

theorem toNat_oldest :
    (if position.pass != 0 && position.slice != slices - 1 then
      ((position.slice + 1) * g.segmentLength).toUInt64 else 0).toNat =
        g.shape.oldest (position.place index) := by
  have within := computes.slice_le
  have slice := computes.slice
  have small := g.laneLength_lt
  have size : UInt32.size = 4294967296 := rfl
  have next := toNat_succ_slice (slice_lt computes)
  have product : ((position.slice + 1) * g.segmentLength).toNat =
      ((position.place index).slice + 1) * g.shape.segment := by
    rw [toNat_mul_of_lt, next]
    · rfl
    · rw [next, Nat.succ_mul]
      exact Nat.lt_of_le_of_lt within small
  have last : position.slice = slices - 1 ↔ (position.place index).slice = 3 :=
    ⟨fun three => congrArg UInt32.toNat three, fun three => UInt32.toNat_inj.mp three⟩
  unfold Shape.oldest
  by_cases first : position.pass = 0
  · simp only [first, toNat_pass_eq_zero.mpr first, bne_self_eq_false, Bool.false_and,
      Bool.false_eq_true, if_false, true_or, if_true]
    rfl
  have later : (position.place index).pass ≠ 0 := fun zero => first (toNat_pass_eq_zero.mp zero)
  by_cases lastSlice : position.slice = slices - 1
  · simp only [lastSlice, last.mp lastSlice, bne_self_eq_false, Bool.and_false, Bool.false_eq_true,
      if_false, or_true, if_true]
    rfl
  · have notLast : (position.place index).slice ≠ 3 := fun three => lastSlice (last.mpr three)
    have taken : (position.pass != 0 && position.slice != slices - 1) = true := by
      simp only [Bool.and_eq_true, bne_iff_ne]
      exact ⟨first, lastSlice⟩
    rw [if_pos taken, if_neg (by simp only [later, notLast, or_self, not_false_iff]),
      UInt32.toNat_toUInt64, product]

end

/-! ### Picking -/

/-- The upper half of a product of numbers of 32 bits. -/
theorem toNat_mul_shiftRight {a b : UInt64} (smallA : a.toNat < UInt32.size)
    (smallB : b.toNat < UInt32.size) :
    ((a * b) >>> (32 : UInt64)).toNat = (a.toNat * b.toNat) >>> 32 := by
  have small : a.toNat * b.toNat < UInt32.size * UInt32.size := Nat.mul_lt_mul'' smallA smallB
  rw [UInt64.toNat_shiftRight, UInt64.toNat_mul]
  exact congrArg (· >>> 32) (Nat.mod_eq_of_lt small)

/-- A share of a number is smaller than the number. -/
theorem mul_shiftRight_lt {a b : Nat} (pos : 0 < a) (small : b < UInt32.size) :
    (a * b) >>> 32 < a := by
  rw [Nat.shiftRight_eq_div_pow]
  exact (Nat.div_lt_iff_lt_mul (by decide)).mpr (Nat.mul_lt_mul_of_pos_left small pos)

theorem square_lt (random : UInt32) : (random.toNat * random.toNat) >>> 32 < UInt32.size := by
  rcases Nat.eq_zero_or_pos random.toNat with zero | some
  · rw [zero]
    decide
  · exact Nat.lt_trans (mul_shiftRight_lt some random.toNat_lt) random.toNat_lt

theorem toNat_square (random : UInt32) :
    ((random.toUInt64 * random.toUInt64) >>> (32 : UInt64)).toNat =
      (random.toNat * random.toNat) >>> 32 :=
  toNat_mul_shiftRight random.toNat_lt random.toNat_lt

/-- How far back from the newest block. -/
theorem toNat_past (area random : UInt32) :
    ((area.toUInt64 * ((random.toUInt64 * random.toUInt64) >>> (32 : UInt64))) >>>
      (32 : UInt64)).toNat = (area.toNat * ((random.toNat * random.toNat) >>> 32)) >>> 32 := by
  have squared := toNat_square random
  rw [toNat_mul_shiftRight (a := area.toUInt64) area.toNat_lt (by rw [squared]; exact square_lt random), squared]
  rfl

theorem toNat_rank {area : UInt32} (random : UInt32) (pos : 0 < area.toNat) :
    (area.toUInt64 - 1 -
        (area.toUInt64 * ((random.toUInt64 * random.toUInt64) >>> (32 : UInt64))) >>>
          (32 : UInt64)).toNat =
      Flat.rank area.toNat random.toNat := by
  have past := toNat_past area random
  have one : (1 : UInt64).toNat = 1 := rfl
  have newest : (area.toUInt64 - 1).toNat = area.toNat - 1 :=
    UInt64.toNat_sub_of_le _ _ (UInt64.le_iff_toNat_le.mpr (by rw [one]; exact pos))
  have share := mul_shiftRight_lt pos (square_lt random)
  rw [UInt64.toNat_sub_of_le _ _ (by rw [UInt64.le_iff_toNat_le]; omega), newest, past]
  rfl

/-- The column that a random word picks. -/
theorem toNat_referenceIndex (computes : g.shape.Computes (position.place index)) {own : Bool}
    (finished : own = false →
      ¬((position.place index).pass = 0 ∧ (position.place index).slice = 0)) (random : UInt32) :
    (g.referenceIndex position index random own).toNat =
      Flat.pick (g.shape.window (position.place index) own) random.toNat := by
  have area := toNat_referenceArea computes finished
  have pos := Shape.window_pos computes own finished
  have rank := toNat_rank random (by rw [area]; exact pos)
  have rankSmall := Flat.rank_lt pos random.toNat
  have oldest := toNat_oldest computes
  have length : g.laneLength.toUInt64.toNat = g.shape.laneLength := g.toNat_laneLength
  have small : g.shape.laneLength < 4294967296 := g.laneLength_lt
  have areaSmall := (g.referenceArea position index own).toNat_lt
  have first := Shape.oldest_le computes
  rw [Flat.pick, Shape.getD_window computes rankSmall]
  unfold referenceIndex
  dsimp only
  rw [UInt64.toNat_toUInt32, UInt64.toNat_mod, UInt64.toNat_add, oldest, rank, area, length]
  refine (Nat.mod_eq_of_lt ?_).trans ?_
  · exact Nat.lt_trans (Nat.mod_lt _ computes.laneLength_pos) small
  · exact congrArg (· % g.shape.laneLength) (Nat.mod_eq_of_lt (by omega))

/-- The lane that a random word stands for. -/
theorem toNat_referenceLane (position : Position) (index : UInt32) (random : UInt64) :
    (g.referenceLane position random).toNat =
      g.shape.referenceLane (position.place index) random := by
  unfold referenceLane Shape.referenceLane
  by_cases given : position.pass = 0 ∧ position.slice = 0
  · rw [if_pos (by simpa using given),
      if_pos ⟨toNat_pass_eq_zero.mpr given.1, toNat_slice_eq_zero.mpr given.2⟩]
    rfl
  · rw [if_neg (by simpa using given), if_neg (by rwa [toNat_pass_eq_zero, toNat_slice_eq_zero]),
      UInt64.toNat_toUInt32, UInt64.toNat_mod, UInt64.toNat_shiftRight]
    exact Nat.mod_eq_of_lt (Nat.lt_trans (Nat.mod_lt _ g.lanes_pos) g.lanes.toNat_lt)

section

variable (computes : g.shape.Computes (position.place index))
include computes

theorem toNat_reference (random : UInt64) :
    (g.reference position index random).lane.toNat =
        g.shape.referenceLane (position.place index) random ∧
      (g.reference position index random).index.toNat =
        g.shape.referenceColumn (position.place index) random
          (g.shape.referenceLane (position.place index) random) := by
  have lane := toNat_referenceLane (g := g) position index random
  have own : (g.referenceLane position random == position.lane) =
      (g.shape.referenceLane (position.place index) random == (position.place index).lane) := by
    rw [Bool.eq_iff_iff, beq_iff_eq, beq_iff_eq, ← UInt32.toNat_inj, lane]
    rfl
  refine ⟨lane, ?_⟩
  unfold reference
  dsimp only
  rw [own, toNat_referenceIndex computes Shape.not_first_of_other, UInt64.toNat_toUInt32]
  rfl

/-! ### Availability -/

theorem available_previous :
    g.available position ⟨position.lane, g.previousIndex position index⟩ := by
  have lane : position.lane < g.lanes := UInt32.lt_iff_toNat_lt.mpr computes.lane
  have column : g.previousIndex position index < g.laneLength := by
    rw [UInt32.lt_iff_toNat_lt, toNat_previousIndex computes, toNat_laneLength]
    exact computes.previous_lt
  simp only [available, lane, column, decide_true, beq_self_eq_true, Bool.true_or, Bool.and_true]

theorem available_reference (random : UInt64) :
    g.available position (g.reference position index random) := by
  obtain ⟨laneEq, columnEq⟩ := toNat_reference computes random
  have start := toNat_start computes
  have lane : (g.reference position index random).lane < g.lanes := by
    rw [UInt32.lt_iff_toNat_lt, laneEq]
    exact Shape.referenceLane_lt computes random
  have column : (g.reference position index random).index < g.laneLength := by
    rw [UInt32.lt_iff_toNat_lt, columnEq, toNat_laneLength]
    exact Shape.referenceColumn_lt computes random
  have stop : (g.sliceStart position.slice + g.segmentLength).toNat =
      (position.place index).slice * g.shape.segment + g.shape.segment :=
    toNat_sliceStop (slice_lt computes)
  have apart : (g.reference position index random).lane ≠ position.lane →
      (g.reference position index random).index < g.sliceStart position.slice ∨
        g.sliceStart position.slice + g.segmentLength ≤ (g.reference position index random).index := by
    intro other
    rw [UInt32.lt_iff_toNat_lt, UInt32.le_iff_toNat_le, columnEq, start, stop]
    refine Shape.referenceColumn_apart computes fun same => other ?_
    rw [← UInt32.toNat_inj, laneEq]
    exact same
  unfold available
  simp only [lane, column, decide_true, Bool.true_and, Bool.or_eq_true, beq_iff_eq, decide_eq_true_eq]
  by_cases own : (g.reference position index random).lane = position.lane
  · exact .inl (.inl own)
  · exact (apart own).elim (fun before => .inl (.inr before)) .inr

end

end Geometry

end HeaderVault.Argon2
