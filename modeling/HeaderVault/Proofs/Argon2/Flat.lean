import HeaderVault.Argon2.Params
import HeaderVault.Proofs.Argon2.Standard
import Mathlib.Data.List.GetD

/-!
The filling of the memory matrix as RFC 9106 describes it, over one flat array of blocks and with
numbers that have no width.

For every block the blocks that it may refer to are written out as a list, the oldest first
(`Shape.window`), and a random word picks one of them (`pick`). Nothing here is split into views or
segments; the places are visited one by one (`Shape.places`). Blocks are computed from their words
by the standard's own function G (`Standard.compression`).
-/

namespace HeaderVault.Argon2.Flat

/-- The shape of a matrix. -/
structure Shape where
  variant : Variant
  passes : Nat
  lanes : Nat
  /-- Blocks in a segment; four segments make a lane. -/
  segment : Nat

/-- A block in the order of filling, with its place in its segment. -/
structure Place where
  pass : Nat
  slice : Nat
  lane : Nat
  index : Nat

/-- Which of a number of entries the lower half of a random word stands for: the larger it is, the
older the entry. -/
def rank (count half : Nat) : Nat := count - 1 - ((count * ((half * half) >>> 32)) >>> 32)

def pick (entries : List Nat) (half : Nat) : Nat := entries.getD (rank entries.length half) 0

theorem rank_lt {count : Nat} (pos : 0 < count) (half : Nat) : rank count half < count := by
  unfold rank
  omega

theorem pick_mem {entries : List Nat} (pos : 0 < entries.length) (half : Nat) :
    pick entries half ∈ entries := by
  rw [pick, List.getD_eq_getElem _ _ (rank_lt pos half)]
  exact List.getElem_mem _

namespace Shape

/-- As many blocks as the memory allows, with equal segments. -/
def ofParams (params : Params) : Shape where
  variant := params.variant
  passes := params.passes.toNat
  lanes := params.lanes.toNat
  segment := params.memory.toNat / (4 * params.lanes.toNat)

def laneLength (s : Shape) : Nat := 4 * s.segment

def blockCount (s : Shape) : Nat := s.lanes * s.laneLength

/-! ### What a block may refer to -/

def column (s : Shape) (p : Place) : Nat := p.slice * s.segment + p.index

/-- The column before a place; the last one comes before the first. -/
def previous (s : Shape) (p : Place) : Nat := (s.column p + s.laneLength - 1) % s.laneLength

/-- What the previous pass has left in the slices that follow. -/
def former (s : Shape) (p : Place) : List Nat :=
  if p.pass = 0 then []
  else List.range' ((p.slice + 1) * s.segment) ((3 - p.slice) * s.segment)

/-- The columns that can be referred to, the oldest first. In its own lane a block sees everything
but the block right before it. Of another lane it sees the finished slices, without their newest
block if it is itself the first of its segment. -/
def window (s : Shape) (p : Place) (ownLane : Bool) : List Nat :=
  if ownLane then
    (s.former p ++ List.range (s.column p)).filter (· ≠ s.previous p)
  else
    let finished := s.former p ++ List.range (p.slice * s.segment)
    if p.index = 0 then finished.dropLast else finished

/-! ### Random words -/

/-- Whether references are chosen from the place alone. -/
def addressed (s : Shape) (p : Place) : Bool :=
  match s.variant with
  | .independent => true
  | .dependent => false
  | .hybrid => p.pass == 0 && p.slice < 2

/-- The number of a variant. -/
def type (s : Shape) : Nat :=
  match s.variant with
  | .dependent => 0
  | .independent => 1
  | .hybrid => 2

/-- The numbers of a segment and of one of its address blocks, followed by zeros. -/
def addressInput (s : Shape) (p : Place) (counter : Nat) : Standard.Words := fun k =>
  .ofNat 64 ([p.pass, p.lane, p.slice, s.blockCount, s.passes, s.type, counter].getD k 0)

/-- The address blocks of a segment are counted from one. -/
def addressBlock (s : Shape) (p : Place) (counter : Nat) : Block :=
  .ofValue (Standard.compression Standard.zero
    (Standard.compression Standard.zero (s.addressInput p counter)))

/-- The random word for a place. -/
def randomWord (s : Shape) (p : Place) (previous : Block) : UInt64 :=
  if s.addressed p then (s.addressBlock p (p.index / 128 + 1)).word (p.index % 128)
  else previous.word 0

/-! ### Filling -/

/-- The block in a column of a lane. -/
def block (s : Shape) (matrix : Array Block) (lane column : Nat) : Block :=
  matrix[lane * s.laneLength + column]?.getD Block.zero

/-- The lane that a random word stands for; the first segments stay in their own. -/
def referenceLane (s : Shape) (p : Place) (random : UInt64) : Nat :=
  if p.pass = 0 ∧ p.slice = 0 then p.lane else (random.toNat >>> 32) % s.lanes

/-- The column that a random word stands for in a lane. -/
def referenceColumn (s : Shape) (p : Place) (random : UInt64) (lane : Nat) : Nat :=
  pick (s.window p (lane == p.lane)) (random.toNat % UInt32.size)

/-- Computes one block: the first pass writes it, later ones add it to what was there. -/
def fillBlock (s : Shape) (matrix : Array Block) (p : Place) : Array Block :=
  let previous := s.block matrix p.lane (s.previous p)
  let random := s.randomWord p previous
  let lane := s.referenceLane p random
  let reference := s.block matrix lane (s.referenceColumn p random lane)
  let new := Standard.compression previous.value reference.value
  let new :=
    if p.pass = 0 then new else Standard.sum (s.block matrix p.lane (s.column p)).value new
  matrix.setIfInBounds (p.lane * s.laneLength + s.column p) (.ofValue new)

/-- The blocks of a segment that are computed: the first two of a lane are given. -/
def segmentPlaces (s : Shape) (pass slice lane : Nat) : List Place :=
  let first := if pass = 0 ∧ slice = 0 then 2 else 0
  (List.range' first (s.segment - first)).map fun index => ⟨pass, slice, lane, index⟩

/-- All blocks that are computed, in their order. -/
def places (s : Shape) : List Place :=
  (List.range s.passes).flatMap fun pass =>
    (List.range 4).flatMap fun slice =>
      (List.range s.lanes).flatMap fun lane => s.segmentPlaces pass slice lane

def fill (s : Shape) (matrix : Array Block) : Array Block :=
  s.places.foldl s.fillBlock matrix

/-! ### Places that are computed -/

/-- A block that is computed, in a matrix in which all references can be made. -/
structure Computes (s : Shape) (p : Place) : Prop where
  segment : 2 ≤ s.segment
  slice : p.slice < 4
  lane : p.lane < s.lanes
  index : p.index < s.segment
  given : p.pass = 0 → p.slice = 0 → 2 ≤ p.index

namespace Computes

variable {s : Shape} {p : Place}

/-- The segment of a place lies within its lane. -/
theorem slice_le (computes : s.Computes p) :
    p.slice * s.segment + s.segment ≤ s.laneLength := by
  have := Nat.mul_le_mul_right s.segment (Nat.succ_le_of_lt computes.slice)
  rw [Nat.succ_mul] at this
  exact this

theorem column_lt (computes : s.Computes p) : s.column p < s.laneLength := by
  have := computes.slice_le
  have := computes.index
  unfold column
  omega

theorem laneLength_pos (computes : s.Computes p) : 0 < s.laneLength :=
  Nat.lt_of_le_of_lt (Nat.zero_le _) computes.column_lt

theorem previous_lt (computes : s.Computes p) : s.previous p < s.laneLength :=
  Nat.mod_lt _ computes.laneLength_pos

/-- The first pass computes no block at the front of a lane. -/
theorem column_pos (computes : s.Computes p) (first : p.pass = 0) : 0 < s.column p := by
  unfold column
  by_cases firstSlice : p.slice = 0
  · have := computes.given first firstSlice
    omega
  · have := Nat.le_mul_of_pos_left s.segment (Nat.pos_of_ne_zero firstSlice)
    have := computes.segment
    omega

theorem previous_of_pos (computes : s.Computes p) (pos : 0 < s.column p) :
    s.previous p = s.column p - 1 := by
  have := computes.column_lt
  rw [previous, show s.column p + s.laneLength - 1 = s.column p - 1 + s.laneLength by omega,
    Nat.add_mod_right, Nat.mod_eq_of_lt (by omega)]

/-- The slices that follow fill up the lane. -/
theorem following (computes : s.Computes p) :
    (p.slice + 1) * s.segment + (3 - p.slice) * s.segment = s.laneLength := by
  have := computes.slice
  rw [← Nat.add_mul, laneLength]
  congr 1
  omega

end Computes

/-! ### Windows -/

section

variable {s : Shape} {p : Place}

/-- The oldest column that can be referred to. -/
def oldest (s : Shape) (p : Place) : Nat :=
  if p.pass = 0 ∨ p.slice = 3 then 0 else (p.slice + 1) * s.segment

theorem oldest_le (computes : s.Computes p) : s.oldest p ≤ s.laneLength := by
  have following := computes.following
  unfold oldest
  split <;> omega

theorem length_former :
    (s.former p).length = if p.pass = 0 then 0 else (3 - p.slice) * s.segment := by
  unfold former
  split <;> simp

theorem mem_former (computes : s.Computes p) {column : Nat} (former : column ∈ s.former p) :
    p.slice * s.segment + s.segment ≤ column ∧ column < s.laneLength := by
  have following := computes.following
  unfold Shape.former at former
  split at former
  · simp at former
  · rw [List.mem_range'_1, following, Nat.succ_mul] at former
    exact former

/-- Columns are counted on from the oldest one, around the end of the lane. -/
theorem getD_former_append (computes : s.Computes p) {count k : Nat} (le : count ≤ s.laneLength)
    (lt : k < (s.former p).length + count) :
    (s.former p ++ List.range count).getD k 0 = (s.oldest p + k) % s.laneLength := by
  have slice := computes.slice
  have following := computes.following
  rw [length_former] at lt
  unfold former oldest
  by_cases first : p.pass = 0
  · simp only [first, if_true, Nat.zero_add, List.nil_append, true_or] at lt ⊢
    rw [List.getD_eq_getElem _ _ (by simpa using lt), List.getElem_range, Nat.mod_eq_of_lt (by omega)]
  simp only [first, if_false, false_or] at lt ⊢
  by_cases inFormer : k < (3 - p.slice) * s.segment
  · -- the last slice has no later one
    have notLast : p.slice ≠ 3 := by
      intro last
      rw [last, Nat.sub_self, Nat.zero_mul] at inFormer
      omega
    rw [List.getD_append _ _ _ _ (by simpa using inFormer), if_neg notLast,
      List.getD_eq_getElem _ _ (by simpa using inFormer), List.getElem_range', Nat.one_mul,
      Nat.mod_eq_of_lt (by omega)]
  · rw [List.getD_append_right _ _ _ _ (by simpa using inFormer), List.length_range',
      List.getD_eq_getElem _ _ (by simp; omega), List.getElem_range]
    split
    · next last =>
      simp only [last, Nat.sub_self, Nat.zero_mul, Nat.sub_zero, Nat.zero_add] at lt ⊢
      rw [Nat.mod_eq_of_lt (by omega)]
    · rw [show (p.slice + 1) * s.segment + k = k - (3 - p.slice) * s.segment + s.laneLength by omega,
        Nat.add_mod_right, Nat.mod_eq_of_lt (by omega)]

/-- The block right before is the newest of its lane. -/
theorem exists_append_previous (computes : s.Computes p) :
    ∃ older, s.former p ++ List.range (s.column p) = older ++ [s.previous p] ∧
      s.previous p ∉ older := by
  have within := computes.column_lt
  have pos := computes.laneLength_pos
  cases at_ : s.column p with
  | zero =>
      -- the first block of a lane follows the last one, which the previous pass has left
      have front : p.slice * s.segment = 0 ∧ p.index = 0 := by
        unfold column at at_
        omega
      have segment := computes.segment
      have firstSlice : p.slice = 0 := by
        rcases Nat.mul_eq_zero.mp front.1 with first | none
        · exact first
        · omega
      have later : p.pass ≠ 0 := fun first => by
        have := computes.column_pos first
        omega
      have before : s.previous p = s.segment + (3 * s.segment - 1) := by
        unfold previous
        rw [at_, Nat.mod_eq_of_lt (by omega), laneLength]
        omega
      refine ⟨List.range' s.segment (3 * s.segment - 1), ?_, ?_⟩
      · rw [former, if_neg later, firstSlice, List.range_zero, List.append_nil, before,
          ← List.range'_1_concat]
        congr 1 <;> omega
      · rw [List.mem_range'_1]
        omega
  | succ column =>
      have before : s.previous p = column := by
        rw [computes.previous_of_pos (by omega), at_, Nat.add_sub_cancel]
      refine ⟨s.former p ++ List.range column, ?_, ?_⟩
      · rw [List.range_succ, before, List.append_assoc]
      · rw [before, List.mem_append, not_or]
        constructor
        · intro former
          have := mem_former computes former
          have := computes.index
          unfold Shape.column at at_
          omega
        · simp

theorem window_own (computes : s.Computes p) :
    s.window p true = (s.former p ++ List.range (s.column p)).dropLast := by
  obtain ⟨older, all, fresh⟩ := exists_append_previous computes
  have kept : older.filter (· ≠ s.previous p) = older := by
    rw [List.filter_eq_self]
    intro column mem
    rw [decide_eq_true_iff]
    rintro rfl
    exact fresh mem
  rw [window, if_pos rfl, all, List.filter_append, kept, List.dropLast_concat]
  simp

theorem length_window (computes : s.Computes p) (own : Bool) :
    (s.window p own).length = if own then (s.former p).length + s.column p - 1
      else (s.former p).length + p.slice * s.segment - if p.index = 0 then 1 else 0 := by
  cases own with
  | true => rw [window_own computes]; simp
  | false =>
      simp only [window, Bool.false_eq_true, if_false]
      split <;> simp

/-- There is something to refer to, but in other lanes only when a slice is finished. -/
theorem window_pos (computes : s.Computes p) (own : Bool)
    (finished : own = false → ¬(p.pass = 0 ∧ p.slice = 0)) : 0 < (s.window p own).length := by
  have segment := computes.segment
  have slice := computes.slice
  have given := computes.given
  have here : p.slice ≠ 0 → s.segment ≤ p.slice * s.segment := fun later =>
    Nat.le_mul_of_pos_left _ (by omega)
  have there : p.slice = 0 → (3 - p.slice) * s.segment = 3 * s.segment := by
    intro first
    rw [first]
  rw [length_window computes, length_former]
  unfold column
  cases own with
  | true =>
      simp only [if_true]
      split <;> omega
  | false =>
      have finished := finished rfl
      simp only [Bool.false_eq_true, if_false]
      split <;> split <;> omega

theorem getD_window (computes : s.Computes p) {own : Bool} {k : Nat}
    (lt : k < (s.window p own).length) :
    (s.window p own).getD k 0 = (s.oldest p + k) % s.laneLength := by
  have column := computes.column_lt
  have slice := computes.slice_le
  have dropLast : ∀ {count : Nat}, count ≤ s.laneLength →
      k < (s.former p ++ List.range count).dropLast.length →
      (s.former p ++ List.range count).dropLast.getD k 0 = (s.oldest p + k) % s.laneLength := by
    intro count le lt
    rw [List.length_dropLast, List.length_append, List.length_range] at lt
    rw [List.getD_eq_getElem?_getD, List.getElem?_dropLast, if_pos (by simpa using lt),
      ← List.getD_eq_getElem?_getD]
    exact getD_former_append computes le (by omega)
  cases own with
  | true =>
      rw [window_own computes] at lt ⊢
      exact dropLast (by omega) lt
  | false =>
      unfold window at lt ⊢
      rw [if_neg Bool.false_ne_true] at lt ⊢
      dsimp only at lt ⊢
      split
      · next first =>
        rw [if_pos first] at lt
        exact dropLast (by omega) lt
      · next first =>
        rw [if_neg first, List.length_append, List.length_range] at lt
        exact getD_former_append computes (by omega) lt

/-- What a window has is left from the previous pass or has been filled in this one. -/
theorem mem_of_mem_window {own : Bool} {column : Nat} (mem : column ∈ s.window p own) :
    column ∈ s.former p ∨ column < if own then s.column p else p.slice * s.segment := by
  cases own with
  | true =>
      have kept := (List.mem_filter.mp mem).1
      rw [List.mem_append, List.mem_range] at kept
      exact kept
  | false =>
      have kept : column ∈ s.former p ++ List.range (p.slice * s.segment) := by
        simp only [window, Bool.false_eq_true, if_false] at mem
        split at mem
        · exact List.dropLast_subset _ mem
        · exact mem
      rw [List.mem_append, List.mem_range] at kept
      exact kept

/-- Of another lane nothing is seen of the slice that is being filled. -/
theorem mem_window_other (computes : s.Computes p) {column : Nat}
    (mem : column ∈ s.window p false) :
    column < p.slice * s.segment ∨ p.slice * s.segment + s.segment ≤ column := by
  rcases mem_of_mem_window mem with former | finished
  · exact .inr (mem_former computes former).1
  · exact .inl (by simpa using finished)

/-! ### References -/

theorem referenceLane_lt (computes : s.Computes p) (random : UInt64) :
    s.referenceLane p random < s.lanes := by
  unfold referenceLane
  split
  · exact computes.lane
  · exact Nat.mod_lt _ (Nat.lt_of_le_of_lt (Nat.zero_le _) computes.lane)

/-- Another lane is referred to only when a slice is finished. -/
theorem not_first_of_other {random : UInt64} (other : (s.referenceLane p random == p.lane) = false) :
    ¬(p.pass = 0 ∧ p.slice = 0) := by
  intro first
  rw [referenceLane, if_pos first, beq_self_eq_true] at other
  cases other

theorem referenceColumn_mem (computes : s.Computes p) (random : UInt64) :
    s.referenceColumn p random (s.referenceLane p random) ∈
      s.window p (s.referenceLane p random == p.lane) :=
  pick_mem (window_pos computes _ not_first_of_other) _

theorem referenceColumn_lt (computes : s.Computes p) (random : UInt64) :
    s.referenceColumn p random (s.referenceLane p random) < s.laneLength := by
  have pos := window_pos computes (s.referenceLane p random == p.lane) not_first_of_other
  rw [referenceColumn, pick, getD_window computes (rank_lt pos _)]
  exact Nat.mod_lt _ computes.laneLength_pos

/-- Of another lane nothing is referred to that is in the slice being filled. -/
theorem referenceColumn_apart (computes : s.Computes p) {random : UInt64}
    (other : s.referenceLane p random ≠ p.lane) :
    s.referenceColumn p random (s.referenceLane p random) < p.slice * s.segment ∨
      p.slice * s.segment + s.segment ≤
        s.referenceColumn p random (s.referenceLane p random) := by
  have mem := referenceColumn_mem computes random
  rw [beq_eq_false_iff_ne.mpr other] at mem
  exact mem_window_other computes mem

end

end Shape

end HeaderVault.Argon2.Flat
