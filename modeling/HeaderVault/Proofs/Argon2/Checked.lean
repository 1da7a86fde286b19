import HeaderVault.Proofs.Argon2.Fill
import HeaderVault.Proofs.Argon2.References

/-!
Filling with every operation checked.

`Checked` has the functions of a segment once more, step by step: every sum, difference and product
is computed without a width and must fit into its word, a remainder needs a divisor, and a block is
looked up in the part of its lane that it stands in. Where one of these has no result, everything
stops. The matrix is changed in place, so that a segment that stops halfway leaves what it has done.

None of this ever happens (`Checked.fill_eq`): the checked functions have the values of those on
words wherever a block is computed, so that segments inside the matrix are filled, and segments
outside of it are refused before anything is written.
-/

namespace HeaderVault.Argon2

open Flat (Place Shape)

/-- Why a checked computation has no value. -/
inductive Halt where
  /-- An operation has no result. -/
  | aborted
  | refused (error : Error)

abbrev Checked := Except Halt

namespace Checked

def refusing {α : Type} : Except Error α → Checked α
  | .ok value => .ok value
  | .error error => .error (.refused error)

/-! ### Arithmetic -/

/-- The word that stands for a number, if there is one. -/
def fitting {Word : Type} (size : Nat) (word : Nat → Word) (result : Int) : Checked Word :=
  if 0 ≤ result ∧ result.toNat < size then .ok (word result.toNat) else .error .aborted

def add32 (a b : UInt32) : Checked UInt32 :=
  fitting UInt32.size UInt32.ofNat ((a.toNat : Int) + b.toNat)

def sub32 (a b : UInt32) : Checked UInt32 :=
  fitting UInt32.size UInt32.ofNat ((a.toNat : Int) - b.toNat)

def mul32 (a b : UInt32) : Checked UInt32 :=
  fitting UInt32.size UInt32.ofNat ((a.toNat : Int) * b.toNat)

def add64 (a b : UInt64) : Checked UInt64 :=
  fitting UInt64.size UInt64.ofNat ((a.toNat : Int) + b.toNat)

def sub64 (a b : UInt64) : Checked UInt64 :=
  fitting UInt64.size UInt64.ofNat ((a.toNat : Int) - b.toNat)

def mul64 (a b : UInt64) : Checked UInt64 :=
  fitting UInt64.size UInt64.ofNat ((a.toNat : Int) * b.toNat)

def mod64 (a b : UInt64) : Checked UInt64 :=
  if b = 0 then .error .aborted else .ok (a % b)

theorem fitting32 {word : UInt32} {result : Int} (exact : result = word.toNat) :
    fitting UInt32.size UInt32.ofNat result = .ok word := by
  have small := word.toNat_lt_size
  rw [fitting, if_pos (by omega), exact, Int.toNat_natCast, UInt32.ofNat_toNat]

theorem fitting64 {word : UInt64} {result : Int} (exact : result = word.toNat) :
    fitting UInt64.size UInt64.ofNat result = .ok word := by
  have small := word.toNat_lt_size
  rw [fitting, if_pos (by omega), exact, Int.toNat_natCast, UInt64.ofNat_toNat]

theorem add32_eq {a b : UInt32} (lt : a.toNat + b.toNat < UInt32.size) : add32 a b = .ok (a + b) :=
  fitting32 (by rw [toNat_add_of_lt lt, Int.natCast_add])

theorem sub32_eq {a b : UInt32} (le : b.toNat ≤ a.toNat) : sub32 a b = .ok (a - b) :=
  fitting32 (by rw [toNat_sub_of_toNat_le le, Int.natCast_sub le])

theorem mul32_eq {a b : UInt32} (lt : a.toNat * b.toNat < UInt32.size) : mul32 a b = .ok (a * b) :=
  fitting32 (by rw [toNat_mul_of_lt lt, Int.natCast_mul])

theorem add64_eq {a b : UInt64} (lt : a.toNat + b.toNat < UInt64.size) : add64 a b = .ok (a + b) :=
  fitting64 (by rw [UInt64.toNat_add, Nat.mod_eq_of_lt lt, Int.natCast_add])

theorem sub64_eq {a b : UInt64} (le : b.toNat ≤ a.toNat) : sub64 a b = .ok (a - b) :=
  fitting64 (by
    rw [UInt64.toNat_sub_of_le _ _ (UInt64.le_iff_toNat_le.mpr le), Int.natCast_sub le])

theorem mul64_eq {a b : UInt64} (lt : a.toNat * b.toNat < UInt64.size) : mul64 a b = .ok (a * b) :=
  fitting64 (by rw [UInt64.toNat_mul, Nat.mod_eq_of_lt lt, Int.natCast_mul])

theorem mod64_eq {a b : UInt64} (pos : 0 < b.toNat) : mod64 a b = .ok (a % b) := by
  refine if_neg ?_
  rintro rfl
  exact Nat.lt_irrefl 0 pos

/-! ### Places -/

section

variable (g : Geometry) (position : Position)

def sliceStart (slice : UInt32) : Checked UInt32 := mul32 slice g.segmentLength

/-- The first column after a slice. -/
def sliceStop (slice : UInt32) : Checked UInt32 := do
  add32 (← sliceStart g slice) g.segmentLength

def column (index : UInt32) : Checked UInt32 := do
  add32 (← sliceStart g position.slice) index

def previousIndex (index : UInt32) : Checked UInt32 := do
  let column ← column g position index
  if column == 0 then sub32 g.laneLength 1 else sub32 column 1

def referenceArea (index : UInt32) (sameLane : Bool) : Checked UInt32 := do
  let length := g.segmentLength
  let back : UInt32 := if index == 0 then 1 else 0
  if position.pass == 0 then
    if position.slice == 0 then sub32 index 1
    else if sameLane then sub32 (← add32 (← mul32 position.slice length) index) 1
    else sub32 (← mul32 position.slice length) back
  else if sameLane then sub32 (← add32 (← sub32 g.laneLength length) index) 1
  else sub32 (← sub32 g.laneLength length) back

/-- The newest block is the last of the area; the larger the word, the further back. -/
def relative (area random : UInt32) : Checked UInt64 := do
  let x := (← mul64 random.toUInt64 random.toUInt64) >>> 32
  sub64 (← sub64 area.toUInt64 1) ((← mul64 area.toUInt64 x) >>> 32)

/-- Where the area begins. -/
def oldest : Checked UInt64 :=
  if position.pass != 0 && position.slice != slices - 1 then do
    return (← mul32 (← add32 position.slice 1) g.segmentLength).toUInt64
  else
    return 0

def referenceIndex (index random : UInt32) (sameLane : Bool) : Checked UInt32 := do
  let area ← referenceArea g position index sameLane
  let relative ← relative area random
  let start ← oldest g position
  return (← mod64 (← add64 start relative) g.laneLength.toUInt64).toUInt32

def referenceLane (random : UInt64) : Checked UInt32 :=
  if position.pass == 0 && position.slice == 0 then return position.lane
  else do return (← mod64 (random >>> 32) g.lanes.toUInt64).toUInt32

def reference (index : UInt32) (random : UInt64) : Checked Cell := do
  let lane ← referenceLane g position random
  return ⟨lane, ← referenceIndex g position index random.toUInt32 (lane == position.lane)⟩

end

/-! ### Blocks -/

section

variable {g : Geometry}

/-- The blocks of a lane between two columns. -/
def run (matrix : Matrix g) (lane start stop : UInt32) : Array Block :=
  let before := lane.toNat * g.laneLength.toNat
  matrix.toArray.extract (before + start.toNat) (before + stop.toNat)

/-- A block of the lane that is filled is looked up in the segment if its column is there. All other
blocks are looked up in what stands before the slice or after it, each part counted from its own
beginning. -/
def read (position : Position) (matrix : Matrix g) (cell : Cell) : Checked Block := do
  let start ← sliceStart g position.slice
  let stop ← sliceStop g position.slice
  if cell.lane == position.lane && start ≤ cell.index && cell.index < stop then
    match (run matrix cell.lane start stop)[(← sub32 cell.index start).toNat]? with
    | some block => return block
    | none => throw .aborted
  else
    let found ←
      if cell.index < start then pure (run matrix cell.lane 0 start)[cell.index.toNat]?
      else if stop ≤ cell.index then do
        pure (run matrix cell.lane stop g.laneLength)[(← sub32 cell.index stop).toNat]?
      else pure none
    match found with
    | some block => return block
    | none => throw (.refused (.derivation (.blockInUse cell.index cell.lane)))

/-- Another block of addresses has the next number. -/
def next (addresses : Addresses) (g : Geometry) (position : Position) : Checked Addresses := do
  let count ← add64 addresses.count 1
  return ⟨count, Block.compress Block.zero (Block.compress Block.zero (Addresses.input g position count))⟩

def advance (g : Geometry) (position : Position) (index : UInt32) (addresses : Addresses) :
    Checked Addresses :=
  if g.addressed position && (index == Geometry.firstIndex position || index % 128 == 0) then
    next addresses g position
  else
    return addresses

def fillBlock (position : Position) (state : Segment.State g) (index : UInt32) :
    Checked (Segment.State g) := do
  let ⟨matrix, addresses⟩ := state
  let previous ← read position matrix ⟨position.lane, ← previousIndex g position index⟩
  let addresses ← advance g position index addresses
  let random := Segment.randomWord g position index addresses previous
  let reference ← read position matrix (← reference g position index random)
  let block := Block.compress previous reference
  let segment := run matrix position.lane (← sliceStart g position.slice) (← sliceStop g position.slice)
  match segment[index.toNat]? with
  | some former =>
      let block := if position.pass == 0 then block else former.xor block
      return ⟨matrix.set ⟨position.lane, ← column g position index⟩ block, addresses⟩
  | none => throw .aborted

/-! ### Segments -/

/-- What comes before the first block: the position is one of the filling order, and every lane can
be cut before and after the slice. -/
def enter (g : Geometry) (position : Position) : Checked Unit := do
  let _ ← mul32 g.laneLength g.lanes
  refusing (g.check position)
  if (← sliceStop g position.slice) ≤ g.laneLength then return () else throw .aborted

/-- Blocks one after the other. Where one cannot be computed, those before it have been written. -/
def fillFrom (position : Position) : Segment.State g → List UInt32 → Matrix g × Checked Unit
  | state, [] => (state.matrix, .ok ())
  | state, index :: indices =>
      match fillBlock position state index with
      | .ok next => fillFrom position next indices
      | .error halt => (state.matrix, .error halt)

/-- Fills the segment at a position in place. -/
def fill (matrix : Matrix g) (position : Position) : Matrix g × Checked Unit :=
  match enter g position with
  | .ok () => fillFrom position ⟨matrix, Addresses.start⟩ (Segment.indices g position)
  | .error halt => (matrix, .error halt)

/-- Fills segments one after the other, going on after those that are refused. -/
def fillEach (matrix : Matrix g) : List Position → Matrix g × List (Checked Unit)
  | [] => (matrix, [])
  | position :: positions =>
      let (filled, result) := fill matrix position
      let (last, results) := fillEach filled positions
      (last, result :: results)

end

/-! ### Arithmetic has its results -/

theorem ok_bind {α β : Type} (value : α) (next : α → Checked β) :
    (Except.ok value >>= next : Checked β) = next value :=
  pure_bind value next

section

variable {g : Geometry} {position : Position} {index : UInt32}

theorem sliceStart_eq {slice : UInt32} (within : slice < slices) :
    sliceStart g slice = .ok (g.sliceStart slice) :=
  mul32_eq (Geometry.sliceStart_fits within)

theorem sliceStop_eq {slice : UInt32} (within : slice < slices) :
    sliceStop g slice = .ok (g.sliceStart slice + g.segmentLength) := by
  rw [sliceStop, sliceStart_eq within, ok_bind]
  exact add32_eq (Geometry.sliceStop_fits within)

theorem relative_eq {area : UInt32} (random : UInt32) (pos : 0 < area.toNat) :
    relative area random =
      .ok (area.toUInt64 - 1 -
        (area.toUInt64 * ((random.toUInt64 * random.toUInt64) >>> (32 : UInt64))) >>> (32 : UInt64)) := by
  have small := Geometry.square_lt random
  have squared : ((random.toUInt64 * random.toUInt64) >>> (32 : UInt64)).toNat < UInt32.size := by
    rwa [Geometry.toNat_square]
  have past := Geometry.toNat_past area random
  have share := Geometry.mul_shiftRight_lt pos small
  have one : (1 : UInt64).toNat = 1 := rfl
  have wide : area.toUInt64.toNat = area.toNat := rfl
  have newest : (area.toUInt64 - 1).toNat = area.toNat - 1 :=
    UInt64.toNat_sub_of_le _ _ (UInt64.le_iff_toNat_le.mpr pos)
  rw [relative, mul64_eq (a := random.toUInt64) (b := random.toUInt64)
      (Nat.mul_lt_mul'' random.toNat_lt random.toNat_lt), ok_bind,
    sub64_eq (by rw [one]; exact pos), ok_bind,
    mul64_eq (a := area.toUInt64)
      (Nat.mul_lt_mul'' area.toNat_lt squared), ok_bind]
  exact sub64_eq (by rw [past, newest]; omega)

theorem referenceLane_eq (position : Position) (random : UInt64) :
    referenceLane g position random = .ok (g.referenceLane position random) := by
  unfold referenceLane Geometry.referenceLane
  split
  · rfl
  · rw [mod64_eq (b := g.lanes.toUInt64) g.lanes_pos, ok_bind]
    rfl

/-- In its own lane a block refers to what is done and to the blocks before it in its segment. -/
theorem ownArea_eq {done : UInt32} (pos : 0 < done.toNat)
    (fits : done.toNat + index.toNat < UInt32.size) :
    (add32 done index >>= fun area => sub32 area 1) = .ok (done + index - 1) := by
  have one : (1 : UInt32).toNat = 1 := rfl
  rw [add32_eq fits, ok_bind]
  exact sub32_eq (by rw [toNat_add_of_lt fits]; omega)

/-- In another lane it refers to what is done, but for the last block when it is a first one. -/
theorem otherArea_eq {done : UInt32} (pos : 0 < done.toNat) :
    sub32 done (if index == 0 then 1 else 0) = .ok (done - if index == 0 then 1 else 0) := by
  have back : (if index == 0 then (1 : UInt32) else 0).toNat ≤ 1 := by split <;> decide
  exact sub32_eq (Nat.le_trans back pos)

section

variable (computes : g.shape.Computes (position.place index))
include computes

theorem column_eq : column g position index = .ok (g.sliceStart position.slice + index) := by
  have within := computes.column_lt
  have small := g.laneLength_lt
  have start := Geometry.toNat_start computes
  rw [column, sliceStart_eq (Geometry.slice_lt computes), ok_bind]
  refine add32_eq ?_
  rw [start]
  exact Nat.lt_trans within small

theorem previousIndex_eq : previousIndex g position index = .ok (g.previousIndex position index) := by
  have length := g.toNat_laneLength
  have pos := computes.laneLength_pos
  have one : (1 : UInt32).toNat = 1 := rfl
  rw [previousIndex, column_eq computes, ok_bind, Geometry.previousIndex]
  split
  · exact sub32_eq (by omega)
  · next later =>
    have later : (g.sliceStart position.slice + index).toNat ≠ 0 := fun zero =>
      later (beq_iff_eq.mpr (UInt32.toNat_inj.mp zero))
    exact sub32_eq (by omega)

/-- Some segment is done, so that there is room for what is taken off. -/
theorem referenceArea_eq (own : Bool) :
    referenceArea g position index own = .ok (g.referenceArea position index own) := by
  have segment := computes.segment
  have inside := computes.index
  have slice := Geometry.slice_lt computes
  have following := Geometry.slice_le (g := g) slice
  have small := g.laneLength_lt
  have length := g.toNat_laneLength
  have whole : g.shape.laneLength = 4 * g.segmentLength.toNat := rfl
  simp only [Geometry.shape, Position.place] at segment inside
  unfold referenceArea Geometry.referenceArea
  by_cases first : position.pass = 0
  · by_cases firstSlice : position.slice = 0
    · have given := computes.given (Geometry.toNat_pass_eq_zero.mpr first)
        (Geometry.toNat_slice_eq_zero.mpr firstSlice)
      simp only [first, firstSlice, beq_self_eq_true, if_true]
      exact sub32_eq (Nat.le_trans (by decide) given)
    · have product := mul32_eq (Geometry.sliceStart_fits (g := g) slice)
      have done : (position.slice * g.segmentLength).toNat =
          position.slice.toNat * g.segmentLength.toNat :=
        toNat_mul_of_lt (Geometry.sliceStart_fits slice)
      have earlier : 0 < position.slice.toNat :=
        Nat.pos_of_ne_zero fun zero => firstSlice (UInt32.toNat_inj.mp zero)
      have pos : g.segmentLength.toNat ≤ position.slice.toNat * g.segmentLength.toNat :=
        Nat.le_mul_of_pos_left _ earlier
      cases own with
      | true =>
          simp only [first, firstSlice, beq_self_eq_true, beq_iff_eq, if_true, if_false, product,
            ok_bind]
          exact ownArea_eq (by omega) (by omega)
      | false =>
          simp only [first, firstSlice, beq_self_eq_true, beq_iff_eq, if_true, if_false, product,
            Bool.false_eq_true, ok_bind]
          simpa only [beq_iff_eq] using otherArea_eq (by omega)
  · have difference := sub32_eq (a := g.laneLength) (b := g.segmentLength) (by omega)
    have done : (g.laneLength - g.segmentLength).toNat = 3 * g.segmentLength.toNat := by
      rw [toNat_sub_of_toNat_le (by omega)]
      omega
    cases own with
    | true =>
        simp only [first, beq_iff_eq, if_true, if_false, difference, ok_bind]
        exact ownArea_eq (by omega) (by omega)
    | false =>
        simp only [first, beq_iff_eq, if_false, difference, Bool.false_eq_true, ok_bind]
        simpa only [beq_iff_eq] using otherArea_eq (by omega)

theorem oldest_eq :
    oldest g position =
      .ok (if position.pass != 0 && position.slice != slices - 1 then
        ((position.slice + 1) * g.segmentLength).toUInt64 else 0) := by
  have slice := Geometry.slice_lt computes
  have within := Geometry.slice_le (g := g) slice
  have small := g.laneLength_lt
  have next := Geometry.toNat_succ_slice slice
  have one : (1 : UInt32).toNat = 1 := rfl
  unfold oldest
  split
  · rw [add32_eq, ok_bind, mul32_eq, ok_bind]
    · rfl
    · rw [next, Nat.succ_mul]
      omega
    · rw [one, ← next]
      exact (position.slice + 1).toNat_lt_size
  · rfl

theorem referenceIndex_eq {own : Bool}
    (finished : own = false →
      ¬((position.place index).pass = 0 ∧ (position.place index).slice = 0)) (random : UInt32) :
    referenceIndex g position index random own = .ok (g.referenceIndex position index random own) := by
  have area := Geometry.toNat_referenceArea computes finished
  have pos := Shape.window_pos computes own finished
  have rank := Geometry.toNat_rank random (by rw [area]; exact pos)
  have rankSmall := Flat.rank_lt pos random.toNat
  have start := Geometry.toNat_oldest computes
  have first := Shape.oldest_le computes
  have small : g.shape.laneLength < 4294967296 := g.laneLength_lt
  have areaSmall := (g.referenceArea position index own).toNat_lt
  have length : g.laneLength.toUInt64.toNat = g.shape.laneLength := g.toNat_laneLength
  have size : UInt64.size = 18446744073709551616 := rfl
  rw [referenceIndex, referenceArea_eq computes, ok_bind, relative_eq random (by rw [area]; exact pos),
    ok_bind, oldest_eq computes, ok_bind, add64_eq, ok_bind, mod64_eq, ok_bind]
  · rfl
  · rw [length]
    exact computes.laneLength_pos
  · rw [start, rank, area]
    omega

theorem reference_eq (random : UInt64) :
    reference g position index random = .ok (g.reference position index random) := by
  have finished : (g.referenceLane position random == position.lane) = false →
      ¬((position.place index).pass = 0 ∧ (position.place index).slice = 0) := by
    rintro other ⟨first, firstSlice⟩
    rw [Geometry.toNat_pass_eq_zero] at first
    rw [Geometry.toNat_slice_eq_zero] at firstSlice
    rw [Geometry.referenceLane, first, firstSlice] at other
    simp at other
  rw [reference, referenceLane_eq, ok_bind, referenceIndex_eq computes finished, ok_bind]
  rfl

end

/-! ### Blocks are found -/

theorem getElem?_run (matrix : Matrix g) (cell : Cell) {start stop : UInt32} {i : Nat}
    (lane : cell.lane < g.lanes) (at_ : start.toNat + i = cell.index.toNat)
    (within : cell.index < stop) (inLane : stop ≤ g.laneLength) :
    (run matrix cell.lane start stop)[i]? = some (matrix.block cell) := by
  rw [UInt32.lt_iff_toNat_lt] at within lane
  rw [UInt32.le_iff_toNat_le] at inLane
  have rows := Nat.mul_le_mul_right g.laneLength.toNat (Nat.succ_le_of_lt lane)
  rw [Nat.succ_mul] at rows
  have count : g.blockCount.toNat = g.lanes.toNat * g.laneLength.toNat := by
    rw [g.toNat_blockCount, g.toNat_laneLength]
    rfl
  have inside : Matrix.place g cell < g.blockCount.toNat := by
    rw [count, Matrix.place]
    omega
  have size : matrix.toArray.size = g.blockCount.toNat := matrix.size_toArray
  rw [Matrix.block, Vector.getElem?_eq_getElem inside, Option.getD_some, run, Array.getElem?_extract,
    if_pos (by omega), Nat.add_assoc, at_, Vector.getElem?_toArray]
  exact Vector.getElem?_eq_getElem inside

/-- A block that may be read is found in the part of its lane that it stands in. -/
theorem read_eq (within : position.slice < slices) (matrix : Matrix g) {cell : Cell}
    (available : g.available position cell) : read position matrix cell = .ok (matrix.block cell) := by
  have inLane := Geometry.slice_le (g := g) within
  have length := g.toNat_laneLength
  have start := Geometry.toNat_sliceStart (g := g) within
  have stop := Geometry.toNat_sliceStop (g := g) within
  simp only [Geometry.available, Bool.and_eq_true, Bool.or_eq_true, decide_eq_true_eq, beq_iff_eq]
    at available
  obtain ⟨⟨lane, column⟩, place⟩ := available
  rw [read, sliceStart_eq within, ok_bind, sliceStop_eq within, ok_bind]
  split
  · next own =>
    simp only [Bool.and_eq_true, decide_eq_true_eq, beq_iff_eq] at own
    have after := UInt32.le_iff_toNat_le.mp own.1.2
    rw [sub32_eq after, ok_bind, getElem?_run matrix cell lane]
    · rfl
    · rw [toNat_sub_of_toNat_le after]
      omega
    · exact own.2
    · exact Geometry.sliceStop_le within
  · next other =>
    simp only [Bool.and_eq_true, decide_eq_true_eq, beq_iff_eq] at other
    split
    · next before =>
      rw [getElem?_run matrix cell lane]
      · rfl
      · exact Nat.zero_add _
      · exact before
      · rw [UInt32.le_iff_toNat_le]
        omega
    · next notBefore =>
      have after : g.sliceStart position.slice + g.segmentLength ≤ cell.index := by
        rcases place with (own | before) | after
        · exact UInt32.not_lt.mp fun inside => other ⟨⟨own, UInt32.not_lt.mp notBefore⟩, inside⟩
        · exact absurd before notBefore
        · exact after
      have below := UInt32.le_iff_toNat_le.mp after
      rw [if_pos after, sub32_eq below, ok_bind, getElem?_run matrix cell lane]
      · rfl
      · rw [toNat_sub_of_toNat_le below]
        omega
      · exact column
      · exact UInt32.le_refl _

/-- A segment never needs as many address blocks as there are numbers for them. -/
theorem advance_eq {addresses : Addresses} (ready : addresses.Ready g position index.toNat) :
    advance g position index addresses = .ok (Segment.advance g position index addresses) := by
  unfold advance Segment.advance
  split
  · next taken =>
    simp only [Bool.and_eq_true] at taken
    have small := index.toNat_lt
    have one : (1 : UInt64).toNat = 1 := rfl
    have room : addresses.count.toNat + (1 : UInt64).toNat < UInt64.size := by
      rw [one]
      rcases ready taken.1 with ⟨-, none⟩ | ⟨-, at_, -⟩
      · rw [none]
        decide
      · exact Nat.lt_of_le_of_lt (m := UInt32.size + 1) (by rw [at_, UInt32.size]; omega) (by decide)
    rw [next, add64_eq room, ok_bind]
    rfl
  · rfl

/-- The block that is written is found in the segment. -/
theorem getElem?_segment (computes : g.shape.Computes (position.place index)) (matrix : Matrix g) :
    (run matrix position.lane (g.sliceStart position.slice)
        (g.sliceStart position.slice + g.segmentLength))[index.toNat]? =
      some (matrix.block ⟨position.lane, g.sliceStart position.slice + index⟩) := by
  have start := Geometry.toNat_start computes
  have column := Geometry.toNat_column computes
  have slice := Geometry.slice_lt computes
  have inside : index.toNat < g.segmentLength.toNat := computes.index
  have lane : position.lane < g.lanes := UInt32.lt_iff_toNat_lt.mpr computes.lane
  refine getElem?_run matrix ⟨position.lane, g.sliceStart position.slice + index⟩ lane ?_ ?_ ?_
  · rw [column, start]
    rfl
  · rw [UInt32.lt_iff_toNat_lt, column, Geometry.toNat_sliceStop slice]
    exact Nat.add_lt_add_left inside _
  · exact Geometry.sliceStop_le slice

/-- With every operation checked a block is computed as without. -/
theorem fillBlock_eq (computes : g.shape.Computes (position.place index)) (matrix : Matrix g)
    {addresses : Addresses} (ready : addresses.Ready g position index.toNat) {next : Segment.State g}
    (filled : Segment.fillBlock position ⟨matrix, addresses⟩ index = .ok next) :
    fillBlock position ⟨matrix, addresses⟩ index = .ok next := by
  have within := Geometry.slice_lt computes
  have previous := Geometry.available_previous computes
  have reference := fun random => Geometry.available_reference computes random
  simp only [Segment.fillBlock, Segment.read_eq matrix previous, Segment.read_eq matrix (reference _),
    bind, Except.bind] at filled
  cases filled
  rw [fillBlock]
  simp only [previousIndex_eq computes, ok_bind, read_eq within matrix previous, advance_eq ready,
    reference_eq computes, read_eq within matrix (reference _), sliceStart_eq within, sliceStop_eq within,
    getElem?_segment computes, column_eq computes]
  rfl

theorem computing : Segment.Computing position (fillBlock (g := g) position) := by
  intro index computes matrix addresses first ready
  obtain ⟨next, filled, blocks, ready'⟩ := Segment.fillBlock_eq computes matrix first ready
  exact ⟨next, fillBlock_eq computes matrix ready filled, blocks, ready'⟩

/-! ### Segments are filled -/

theorem enter_eq (g : Geometry) (position : Position) :
    enter g position = refusing (g.check position) := by
  have length := g.toNat_laneLength
  have fits : g.shape.laneLength * g.lanes.toNat < UInt32.size := g.fits
  rw [enter, mul32_eq (by rwa [length]), ok_bind, Geometry.check]
  split
  · next contained =>
    simp only [Geometry.contains, Bool.and_eq_true, decide_eq_true_eq] at contained
    rw [refusing, ok_bind, sliceStop_eq contained.2, ok_bind,
      if_pos (Geometry.sliceStop_le contained.2)]
    rfl
  · rfl

/-- Blocks that can all be computed are all written. -/
theorem fillFrom_eq {state last : Segment.State g} {indices : List UInt32}
    (computed : indices.foldlM (fillBlock position) state = .ok last) :
    fillFrom position state indices = (last.matrix, .ok ()) := by
  induction indices generalizing state with
  | nil =>
      cases computed
      rfl
  | cons index indices ih =>
      rw [List.foldlM_cons] at computed
      rw [fillFrom]
      cases one : fillBlock position state index with
      | error halt =>
          rw [one] at computed
          cases computed
      | ok next =>
          rw [one, ok_bind] at computed
          exact ih computed

/-- Filling in place does what `Segment.fill` says, and nothing at all where that refuses to. -/
theorem fill_eq (matrix : Matrix g) (position : Position) :
    fill matrix position =
      match Segment.fill matrix position with
      | .ok filled => (filled, .ok ())
      | .error error => (matrix, .error (.refused error)) := by
  rw [fill, enter_eq]
  by_cases contained : g.contains position
  · obtain ⟨last, computed, blocks⟩ := Segment.indices_computing computing contained matrix
    obtain ⟨filled, done, blocks'⟩ := Segment.fill_eq contained matrix
    have same : last.matrix = filled := Vector.toArray_inj.mp (blocks.trans blocks'.symm)
    rw [done, Geometry.check, if_pos contained, ← same]
    exact fillFrom_eq computed
  · rw [Segment.fill, Geometry.check, if_neg contained]
    rfl

theorem computes_of_mem_indices (contained : g.contains position)
    (mem : index ∈ Segment.indices g position) : g.shape.Computes (position.place index) := by
  obtain ⟨n, counted, rfl⟩ := List.mem_map.mp mem
  rw [List.mem_range'_1] at counted
  exact (Geometry.computes_ofNat contained counted.1 (by omega)).2.2

/-- A call that fills its segment: nothing stops it, in place or not, and whatever its random words
are, their blocks are computed without overflow and can be referred to. -/
structure Fills (matrix : Matrix g) (position : Position) (filled : Matrix g) : Prop where
  inPlace : fill matrix position = (filled, .ok ())
  segment : Segment.fill matrix position = .ok filled
  reference : ∀ index ∈ Segment.indices g position, ∀ random : UInt64,
    reference g position index random = .ok (g.reference position index random)
  refers : ∀ index ∈ Segment.indices g position, ∀ random : UInt64,
    g.shape.Refers (position.place index) (g.reference position index random).lane.toNat
      (g.reference position index random).index.toNat

theorem exists_fills (contained : g.contains position) (matrix : Matrix g) :
    ∃ filled, Fills matrix position filled := by
  obtain ⟨filled, segment, -⟩ := Segment.fill_eq contained matrix
  refine ⟨filled, ?_, segment, ?_, ?_⟩
  · rw [fill_eq, segment]
  · intro index mem random
    exact reference_eq (computes_of_mem_indices contained mem) random
  · intro index mem random
    exact Geometry.refers_reference (computes_of_mem_indices contained mem) random

theorem results_fillEach (matrix : Matrix g) (positions : List Position) :
    (fillEach matrix positions).2 = positions.map fun position => refusing (g.check position) := by
  induction positions generalizing matrix with
  | nil => rfl
  | cons position positions ih =>
      have one : (fill matrix position).2 = refusing (g.check position) := by
        by_cases contained : g.contains position
        · obtain ⟨filled, fills⟩ := exists_fills contained matrix
          rw [fills.inPlace, Geometry.check, if_pos contained]
          rfl
        · rw [fill_eq, Segment.fill, Geometry.check, if_neg contained]
          rfl
      rw [fillEach, List.map_cons, ← one, ← ih]

end

/-- Segments can be filled in any order and as often as one likes, whatever the matrix holds. The
position alone decides whether one is: inside the matrix everything that is computed fits and
everything that is read is there to be read, and outside of it nothing is written. -/
theorem fillSegment_total (params : Params) (threads : UInt32)
    (matrix : Matrix (Geometry.ofParams params)) (positions : List Position) :
    (∀ position : Position,
      if position.pass < params.passes ∧ position.lane < params.lanes ∧ position.slice < 4 then
        ∃ filled, Instance.fillSegment ⟨.ofParams params, threads, matrix⟩ position =
            .ok ⟨.ofParams params, threads, filled⟩ ∧ Fills matrix position filled
      else
        let outside : Error := .derivation
          (.position position.pass position.lane position.slice params.passes params.lanes)
        Instance.fillSegment ⟨.ofParams params, threads, matrix⟩ position = .error outside ∧
          fill matrix position = (matrix, .error (.refused outside))) ∧
    (fillEach matrix positions).2 = positions.map fun position =>
      if position.pass < params.passes ∧ position.lane < params.lanes ∧ position.slice < 4 then
        .ok ()
      else
        .error (.refused (.derivation
          (.position position.pass position.lane position.slice params.passes params.lanes))) := by
  have contained : ∀ position : Position, (Geometry.ofParams params).contains position = true ↔
      position.pass < params.passes ∧ position.lane < params.lanes ∧ position.slice < 4 := by
    intro position
    simp only [Geometry.contains, Bool.and_eq_true, decide_eq_true_eq, and_assoc]
    rfl
  constructor
  · intro position
    split
    · next inside =>
      obtain ⟨filled, fills⟩ := exists_fills ((contained position).mpr inside) matrix
      refine ⟨filled, ?_, fills⟩
      rw [Instance.fillSegment, fills.segment]
      rfl
    · next outside =>
      have refused := mt (contained position).mp outside
      rw [fill_eq, Instance.fillSegment, Segment.fill, Geometry.check, if_neg refused]
      exact ⟨rfl, rfl⟩
  · rw [results_fillEach]
    refine List.map_congr_left fun position _ => ?_
    rw [Geometry.check]
    simp only [contained]
    split <;> rfl

end Checked

end HeaderVault.Argon2
