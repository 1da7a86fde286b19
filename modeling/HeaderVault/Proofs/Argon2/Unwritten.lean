import HeaderVault.Proofs.Argon2.LaneOrder

/-!
Memory that has not been written.

Of two matrices it is recorded where they are known to have the same blocks (`Shape.Agree`). In the
first pass a block is computed from columns before its own in its lane and from finished slices of
the others (`Shape.Refers`), and what was in its place before is not read. So two fillings that
start from the same first blocks have one more block in common after every step
(`Agree.fillBlock`), all blocks of a segment, then of a slice, and after the pass the whole matrix.
Whatever the memory held before is gone, and with it every influence on the tag.
-/

namespace HeaderVault.Argon2

namespace Flat.Shape

variable {s : Shape} {p : Place} {slice lane : Nat} {known known' : Nat → Nat → Prop}
  {matrix matrix' : Array Block}

/-! ### Agreement -/

/-- Two matrices with the same blocks in all places, given by lane and column, that are known. -/
structure Agree (s : Shape) (known : Nat → Nat → Prop) (matrix matrix' : Array Block) : Prop where
  size : matrix.size = s.blockCount
  size' : matrix'.size = s.blockCount
  block : ∀ lane column, column < s.laneLength → known lane column →
    s.block matrix lane column = s.block matrix' lane column

namespace Agree

theorem mono (agree : s.Agree known matrix matrix')
    (fewer : ∀ lane column, column < s.laneLength → known' lane column → known lane column) :
    s.Agree known' matrix matrix' :=
  ⟨agree.size, agree.size', fun lane column inLane found =>
    agree.block lane column inLane (fewer lane column inLane found)⟩

/-- Matrices that agree on all lanes are the same. -/
theorem eq (agree : s.Agree known matrix matrix')
    (all : ∀ lane column, lane < s.lanes → column < s.laneLength → known lane column) :
    matrix = matrix' := by
  refine Array.ext (agree.size.trans agree.size'.symm) fun i inside inside' => ?_
  have within : i < s.laneLength * s.lanes := by
    rw [agree.size, blockCount, Nat.mul_comm] at inside
    exact inside
  have pos : 0 < s.laneLength :=
    Nat.pos_of_mul_pos_right (Nat.lt_of_le_of_lt (Nat.zero_le i) within)
  have inLane : i % s.laneLength < s.laneLength := Nat.mod_lt i pos
  have same := agree.block (i / s.laneLength) (i % s.laneLength) inLane
    (all _ _ (Nat.div_lt_of_lt_mul within) inLane)
  rw [Shape.block, Shape.block, Nat.div_add_mod', Array.getElem?_eq_getElem inside,
    Array.getElem?_eq_getElem inside'] at same
  exact same

end Agree

/-! ### One block -/

/-- What the segment of a lane may read in the first pass besides the blocks that it computes. -/
def Earlier (s : Shape) (slice lane lane' column : Nat) : Prop :=
  lane' < s.lanes ∧ column < slice * s.segment ∨ slice = 0 ∧ lane' = lane ∧ column < 2

namespace Agree

/-- The first pass reads nothing but what is before a block in its lane or in a finished slice. -/
theorem computed (agree : s.Agree known matrix matrix') (computes : s.Computes p)
    (first : p.pass = 0)
    (earlier : ∀ lane column, s.Earlier p.slice p.lane lane column → known lane column)
    (own : ∀ column, column < s.column p → known p.lane column) :
    s.computed matrix p = s.computed matrix' p := by
  have before : s.previous p < s.column p := by
    have pos := computes.column_pos first
    rw [computes.previous_of_pos pos]
    exact Nat.sub_one_lt_of_lt pos
  have previous : s.block matrix p.lane (s.previous p) = s.block matrix' p.lane (s.previous p) :=
    agree.block _ _ computes.previous_lt (own _ before)
  have reference : ∀ random,
      s.block matrix (s.referenceLane p random)
          (s.referenceColumn p random (s.referenceLane p random)) =
        s.block matrix' (s.referenceLane p random)
          (s.referenceColumn p random (s.referenceLane p random)) := by
    intro random
    have refers := refers_of_mem_window computes (referenceLane_lt computes random)
      (referenceColumn_mem computes random)
    refine agree.block _ _ refers.column_lt ?_
    by_cases here : s.referenceLane p random = p.lane
    · have before := own _ (refers.written first here)
      rwa [← here] at before
    · exact earlier _ _ (.inl ⟨refers.lane_lt, refers.finished first here⟩)
  unfold Shape.computed
  simp only [previous, reference, first, if_true]

theorem fillBlock (agree : s.Agree known matrix matrix') (computes : s.Computes p)
    (same : s.computed matrix p = s.computed matrix' p) :
    s.Agree (fun lane column => known lane column ∨ lane = p.lane ∧ column = s.column p)
      (s.fillBlock matrix p) (s.fillBlock matrix' p) := by
  refine ⟨?_, ?_, fun lane column inLane found => ?_⟩
  · rw [fillBlock_eq, Array.size_setIfInBounds, agree.size]
  · rw [fillBlock_eq, Array.size_setIfInBounds, agree.size']
  · by_cases here : lane = p.lane ∧ column = s.column p
    · obtain ⟨rfl, rfl⟩ := here
      rw [Shape.block, Shape.block, fillBlock_eq, fillBlock_eq, same,
        Array.getElem?_setIfInBounds_self, Array.getElem?_setIfInBounds_self, agree.size,
        agree.size']
    · have other : lane = p.lane → column ≠ s.column p := fun own at_ => here ⟨own, at_⟩
      rw [block_fillBlock_other computes matrix inLane other,
        block_fillBlock_other computes matrix' inLane other]
      exact agree.block lane column inLane (found.resolve_right here)

end Agree

/-! ### Segments -/

/-- What is known when a lane has been filled up to a column. -/
def FilledTo (lane column : Nat) (known : Nat → Nat → Prop) (lane' column' : Nat) : Prop :=
  known lane' column' ∨ lane' = lane ∧ column' < column

/-- The first block of a segment that the first pass computes. -/
def firstIndex (slice : Nat) : Nat := if slice = 0 then 2 else 0

theorem segmentPlaces_zero (s : Shape) (slice lane : Nat) :
    s.segmentPlaces 0 slice lane = (List.range' (firstIndex slice) (s.segment - firstIndex slice)).map
      fun index => ⟨0, slice, lane, index⟩ := by
  simp only [segmentPlaces, firstIndex, true_and]

theorem earlier_of_lt {column : Nat} (within : lane < s.lanes)
    (before : column < slice * s.segment + firstIndex slice) : s.Earlier slice lane lane column := by
  unfold firstIndex at before
  split at before
  · next first =>
    rw [first, Nat.zero_mul, Nat.zero_add] at before
    exact .inr ⟨first, rfl, before⟩
  · exact .inl ⟨within, before⟩

namespace Agree

/-- The blocks of a segment from one on. The induction is on their number; every step makes the
column known that the next one needs. -/
theorem foldl_fillBlock (ready : s.Ready slice lane)
    (earlier : ∀ lane' column, s.Earlier slice lane lane' column → known lane' column)
    (count : Nat) {start : Nat} (given : slice = 0 → 2 ≤ start) (within : start + count ≤ s.segment)
    (agree : s.Agree (FilledTo lane (slice * s.segment + start) known) matrix matrix') :
    let places := (List.range' start count).map fun index => Place.mk 0 slice lane index
    s.Agree (FilledTo lane (slice * s.segment + (start + count)) known)
      (places.foldl s.fillBlock matrix) (places.foldl s.fillBlock matrix') := by
  induction count generalizing start matrix matrix' with
  | zero => exact agree
  | succ count ih =>
      have computes : s.Computes ⟨0, slice, lane, start⟩ :=
        ⟨ready.segment, ready.slice, ready.lane, by dsimp only; omega, fun _ => given⟩
      have same := agree.computed computes rfl
        (fun lane' column before => .inl (earlier lane' column before))
        fun column before => .inr ⟨rfl, before⟩
      have next : s.Agree (FilledTo lane (slice * s.segment + (start + 1)) known)
          (s.fillBlock matrix ⟨0, slice, lane, start⟩)
          (s.fillBlock matrix' ⟨0, slice, lane, start⟩) := by
        refine (agree.fillBlock computes same).mono fun lane' column _ found => ?_
        rcases found with before | ⟨here, filled⟩
        · exact .inl (.inl before)
        · by_cases last : column = slice * s.segment + start
          · exact .inr ⟨here, last⟩
          · exact .inl (.inr ⟨here, by omega⟩)
      have rest := ih (fun first => Nat.le_succ_of_le (given first)) (by omega) next
      rw [show start + (count + 1) = start + 1 + count by omega]
      exact rest

theorem fillSegment (agree : s.Agree known matrix matrix') (ready : s.Ready slice lane)
    (earlier : ∀ lane' column, s.Earlier slice lane lane' column → known lane' column) :
    s.Agree (FilledTo lane (slice * s.segment + s.segment) known)
      (s.fillSegment 0 slice matrix lane) (s.fillSegment 0 slice matrix' lane) := by
  have given : slice = 0 → 2 ≤ firstIndex slice := fun first =>
    Nat.le_of_eq (if_pos first).symm
  have few : firstIndex slice ≤ s.segment := by
    have segment := ready.segment
    unfold firstIndex
    split <;> omega
  have started : s.Agree (FilledTo lane (slice * s.segment + firstIndex slice) known)
      matrix matrix' := by
    refine agree.mono fun lane' column _ found => ?_
    rcases found with before | ⟨rfl, before⟩
    · exact before
    · exact earlier _ column (earlier_of_lt ready.lane before)
  have filled := foldl_fillBlock ready earlier (s.segment - firstIndex slice) given (by omega) started
  rw [Nat.add_sub_cancel' few] at filled
  unfold Shape.fillSegment
  rw [segmentPlaces_zero]
  exact filled

end Agree

/-! ### A slice, a pass, the matrix -/

def fillSlice (s : Shape) (pass : Nat) (matrix : Array Block) (slice : Nat) : Array Block :=
  (List.range s.lanes).foldl (s.fillSegment pass slice) matrix

def fillPass (s : Shape) (matrix : Array Block) (pass : Nat) : Array Block :=
  (List.range 4).foldl (s.fillSlice pass) matrix

theorem fill_eq_foldl (matrix : Array Block) :
    s.fill matrix = (List.range s.passes).foldl s.fillPass matrix := by
  simp only [fill, places, List.foldl_flatMap]
  rfl

namespace Agree

/-- Some segments of a slice, one after the other. -/
theorem foldl_fillSegment {lanes : List Nat} (ready : ∀ lane ∈ lanes, s.Ready slice lane)
    (earlier : ∀ lane ∈ lanes, ∀ lane' column, s.Earlier slice lane lane' column →
      known lane' column) (agree : s.Agree known matrix matrix') :
    s.Agree
      (fun lane column => known lane column ∨ lane ∈ lanes ∧ column < slice * s.segment + s.segment)
      (lanes.foldl (s.fillSegment 0 slice) matrix) (lanes.foldl (s.fillSegment 0 slice) matrix') := by
  induction lanes generalizing known matrix matrix' with
  | nil => exact agree.mono fun lane column _ found => found.resolve_right fun there => nomatch there.1
  | cons lane lanes ih =>
      have filled := agree.fillSegment (ready lane List.mem_cons_self)
        (earlier lane List.mem_cons_self)
      have rest := ih (fun lane mem => ready lane (List.mem_cons_of_mem _ mem))
        (fun lane mem lane' column before =>
          .inl (earlier lane (List.mem_cons_of_mem _ mem) lane' column before)) filled
      refine rest.mono fun lane' column _ found => ?_
      rcases found with before | ⟨mem, here⟩
      · exact .inl (.inl before)
      · rcases List.mem_cons.mp mem with own | later
        · exact .inl (.inr ⟨own, here⟩)
        · exact .inr ⟨later, here⟩

/-- Slices of the first pass, from the first two blocks of all lanes. -/
theorem foldl_fillSlice (segment : 2 ≤ s.segment)
    (agree : s.Agree (fun lane column => lane < s.lanes ∧ column < 2) matrix matrix') {count : Nat}
    (slices : count ≤ 4) :
    s.Agree (fun lane column => lane < s.lanes ∧ (column < 2 ∨ column < count * s.segment))
      ((List.range count).foldl (s.fillSlice 0) matrix)
      ((List.range count).foldl (s.fillSlice 0) matrix') := by
  induction count with
  | zero => exact agree.mono fun lane column _ found => ⟨found.1, by omega⟩
  | succ count ih =>
      have ready : ∀ lane ∈ List.range s.lanes, s.Ready count lane := fun lane mem =>
        ⟨segment, slices, List.mem_range.mp mem⟩
      have earlier : ∀ lane ∈ List.range s.lanes, ∀ lane' column,
          s.Earlier count lane lane' column →
            lane' < s.lanes ∧ (column < 2 ∨ column < count * s.segment) := by
        rintro lane mem lane' column (⟨within, finished⟩ | ⟨-, rfl, given⟩)
        · exact ⟨within, .inr finished⟩
        · exact ⟨List.mem_range.mp mem, .inl given⟩
      have filled := foldl_fillSegment ready earlier (ih (by omega))
      rw [List.range_succ, List.foldl_append, List.foldl_append]
      refine filled.mono fun lane column _ found => ?_
      rcases found with ⟨within, given | here⟩
      · exact .inl ⟨within, .inl given⟩
      · rw [Nat.succ_mul] at here
        exact .inr ⟨List.mem_range.mpr within, here⟩

/-- After the first pass nothing is left of what was in the matrix before. -/
theorem fill_eq (agree : s.Agree (fun lane column => lane < s.lanes ∧ column < 2) matrix matrix')
    (segment : 2 ≤ s.segment) (passes : 0 < s.passes) : s.fill matrix = s.fill matrix' := by
  have first : s.fillPass matrix 0 = s.fillPass matrix' 0 :=
    (foldl_fillSlice segment agree (Nat.le_refl 4)).eq fun lane column within inLane =>
      ⟨within, .inr inLane⟩
  obtain ⟨later, count⟩ := Nat.exists_eq_add_of_lt passes
  rw [fill_eq_foldl, fill_eq_foldl, count, Nat.zero_add, List.range_succ_eq_map, List.foldl_cons,
    List.foldl_cons, first]

end Agree

/-! ### Filling again -/

theorem size_fillSegment {pass : Nat} (matrix : Array Block) :
    (s.fillSegment pass slice matrix lane).size = matrix.size := by
  unfold fillSegment
  induction s.segmentPlaces pass slice lane generalizing matrix with
  | nil => rfl
  | cons p places ih => rw [List.foldl_cons, ih, fillBlock_eq, Array.size_setIfInBounds]

/-- What a segment reads besides the blocks that it computes is not changed by it. -/
theorem kept_of_earlier (ready : s.Ready slice lane) {lane' column : Nat}
    (earlier : s.Earlier slice lane lane' column) : s.Kept 0 slice lane lane' column := by
  rintro p mem - rfl
  have pass : p.pass = 0 := by
    obtain ⟨index, -, rfl⟩ := List.mem_map.mp mem
    rfl
  obtain ⟨computes, rfl, -⟩ := computes_of_mem ready mem
  unfold Earlier column at earlier
  rcases earlier with ⟨-, finished⟩ | ⟨first, -, given⟩
  · omega
  · have := computes.given pass first
    omega

theorem fillSegment_fillSegment (ready : s.Ready slice lane) (size : matrix.size = s.blockCount) :
    s.fillSegment 0 slice (s.fillSegment 0 slice matrix lane) lane =
      s.fillSegment 0 slice matrix lane := by
  have agree : s.Agree (s.Kept 0 slice lane) (s.fillSegment 0 slice matrix lane) matrix :=
    ⟨(size_fillSegment matrix).trans size, size,
      fun _ _ inLane kept => block_fillSegment_kept ready matrix inLane kept⟩
  refine (agree.fillSegment ready fun _ _ => kept_of_earlier ready).eq fun lane' column _ _ => ?_
  by_cases kept : s.Kept 0 slice lane lane' column
  · exact .inl kept
  · obtain ⟨p, mem, here, at_⟩ : ∃ p ∈ s.segmentPlaces 0 slice lane,
        lane' = p.lane ∧ column = s.column p := by
      simpa [Kept] using kept
    obtain ⟨computes, rfl, rfl⟩ := computes_of_mem ready mem
    have := computes.index
    unfold Shape.column at at_
    exact .inr ⟨here, by omega⟩

end Flat.Shape

/-! ### Matrices of words -/

section

variable {g : Geometry} {matrix matrix' : Matrix g}

theorem Matrix.size_toArray_eq (matrix : Matrix g) : matrix.toArray.size = g.shape.blockCount := by
  rw [Vector.size_toArray, g.toNat_blockCount]

theorem Matrix.agree {known : Nat → Nat → Prop}
    (lanes : ∀ lane column, known lane column → lane < g.shape.lanes)
    (same : ∀ cell : Cell, cell.lane < g.lanes → known cell.lane.toNat cell.index.toNat →
      matrix.block cell = matrix'.block cell) :
    g.shape.Agree known matrix.toArray matrix'.toArray := by
  refine ⟨matrix.size_toArray_eq, matrix'.size_toArray_eq, fun lane column inLane found => ?_⟩
  have inside := lanes lane column found
  have laneNumber : (UInt32.ofNat lane).toNat = lane :=
    UInt32.toNat_ofNat_of_lt' (Nat.lt_trans inside g.lanes.toNat_lt_size)
  have columnNumber : (UInt32.ofNat column).toNat = column :=
    UInt32.toNat_ofNat_of_lt' (Nat.lt_trans inLane g.laneLength_lt)
  have equal := same ⟨.ofNat lane, .ofNat column⟩
    (by rw [UInt32.lt_iff_toNat_lt, laneNumber]; exact inside)
    (by rw [laneNumber, columnNumber]; exact found)
  rw [Matrix.block_eq, Matrix.block_eq] at equal
  dsimp only at equal
  rwa [laneNumber, columnNumber] at equal

/-- Writing the same blocks into two matrices makes them agree on what is written. -/
theorem Matrix.block_foldl_set {contents : Cell → Block} {cells : List Cell} {cell : Cell}
    (same : cell ∉ cells → matrix.block cell = matrix'.block cell) :
    (cells.foldl (fun matrix cell => matrix.set cell (contents cell)) matrix).block cell =
      (cells.foldl (fun matrix cell => matrix.set cell (contents cell)) matrix').block cell := by
  induction cells generalizing matrix matrix' with
  | nil => exact same List.not_mem_nil
  | cons written cells ih =>
      refine ih fun notLater => ?_
      unfold block Matrix.set
      rw [Vector.getElem?_setIfInBounds, Vector.getElem?_setIfInBounds]
      split
      · rfl
      · next elsewhere =>
        refine same fun mem => ?_
        rcases List.mem_cons.mp mem with rfl | later
        · exact elsewhere rfl
        · exact notLater later

end

namespace Geometry

variable {g : Geometry}

theorem mem_firstCells {lane index : UInt32} (within : lane < g.lanes) (given : index < 2) :
    ⟨lane, index⟩ ∈ firstCells g := by
  have number : UInt32.ofNat lane.toNat = lane := UInt32.ofNat_toNat
  refine List.mem_flatMap.mpr
    ⟨lane.toNat, List.mem_range.mpr (UInt32.lt_iff_toNat_lt.mp within), ?_⟩
  have two : index = 0 ∨ index = 1 := by
    rw [UInt32.lt_iff_toNat_lt] at given
    rw [← UInt32.toNat_inj, ← UInt32.toNat_inj]
    change index.toNat < 2 at given
    change index.toNat = 0 ∨ index.toNat = 1
    omega
  rcases two with rfl | rfl <;> simp [number]

end Geometry

/-- The first blocks of all lanes in whatever memory there is. -/
def withFirstBlocks {g : Geometry} (digest : Digest) (initial : Octets 64) (memory : Matrix g) :
    Matrix g :=
  (firstCells g).foldl (fun matrix cell => matrix.set cell (firstBlock digest initial cell)) memory

namespace Instance

variable {g : Geometry}

/-- Matrices with the same first blocks are filled to the same matrix. -/
theorem exists_filled_unwritten (passes : 0 < g.passes) (matrix matrix' : Matrix g)
    (given : ∀ lane index : UInt32, lane < g.lanes → index < 2 →
      matrix.block ⟨lane, index⟩ = matrix'.block ⟨lane, index⟩) :
    ∃ filled : Matrix g, ∀ threads : UInt32,
      fillMemory ⟨g, threads, matrix⟩ = .ok ⟨g, threads, filled⟩ ∧
        fillMemory ⟨g, threads, matrix'⟩ = .ok ⟨g, threads, filled⟩ := by
  have agree : g.shape.Agree (fun lane column => lane < g.shape.lanes ∧ column < 2)
      matrix.toArray matrix'.toArray :=
    Matrix.agree (fun _ _ => And.left) fun cell within found =>
      given cell.lane cell.index within (UInt32.lt_iff_toNat_lt.mpr found.2)
  have same := agree.fill_eq g.segment_ge (UInt32.lt_iff_toNat_lt.mp passes)
  obtain ⟨filled, -, blocks⟩ := fillMemory_leads 1 matrix
  exact ⟨filled, fun threads => ⟨(fillMemory_leads threads matrix).eq_ok blocks,
    (fillMemory_leads threads matrix').eq_ok (blocks.trans same)⟩⟩

section

variable {position : Position}

/-- In the first pass a segment is filled to what the flat filling makes of it. -/
theorem exists_segment_filled (contained : g.contains position) (first : position.pass = 0)
    (matrix : Matrix g) :
    ∃ filled : Matrix g,
      (∀ threads : UInt32,
        fillSegment ⟨g, threads, matrix⟩ position = .ok ⟨g, threads, filled⟩) ∧
      filled.toArray =
        g.shape.fillSegment 0 position.slice.toNat matrix.toArray position.lane.toNat := by
  have pass : position.pass.toNat = 0 := congrArg UInt32.toNat first
  have leads := fun threads => fillSegment_leads threads contained matrix
  rw [pass] at leads
  obtain ⟨filled, -, blocks⟩ := leads 1
  exact ⟨filled, fun threads => (leads threads).eq_ok blocks, blocks⟩

/-- A segment of the first pass depends on earlier slices only, and on the first blocks of its lane
if it is the first itself. -/
theorem exists_segment_filled_unwritten (contained : g.contains position)
    (first : position.pass = 0) (matrix matrix' : Matrix g)
    (earlier : ∀ cell : Cell, cell.lane < g.lanes →
      cell.index < g.sliceStart position.slice ∨
        position.slice = 0 ∧ cell.lane = position.lane ∧ cell.index < 2 →
      matrix.block cell = matrix'.block cell) :
    ∃ filled filled' : Matrix g,
      (∀ threads : UInt32,
        fillSegment ⟨g, threads, matrix⟩ position = .ok ⟨g, threads, filled⟩ ∧
          fillSegment ⟨g, threads, matrix'⟩ position = .ok ⟨g, threads, filled'⟩) ∧
      ∀ cell : Cell, cell.lane = position.lane → g.sliceStart position.slice ≤ cell.index →
        cell.index < g.sliceStart position.slice + g.segmentLength →
        filled.block cell = filled'.block cell := by
  have ready := Geometry.ready_of_contains contained
  have within : position.slice < slices := UInt32.lt_iff_toNat_lt.mpr ready.slice
  have agree : g.shape.Agree (g.shape.Earlier position.slice.toNat position.lane.toNat)
      matrix.toArray matrix'.toArray := by
    refine Matrix.agree ?_ fun cell inside found => earlier cell inside ?_
    · rintro lane column (⟨inside, -⟩ | ⟨-, rfl, -⟩)
      · exact inside
      · exact ready.lane
    · rw [UInt32.lt_iff_toNat_lt, Geometry.toNat_sliceStart within]
      exact found.imp And.right fun ⟨firstSlice, own, given⟩ =>
        ⟨UInt32.toNat_inj.mp firstSlice, UInt32.toNat_inj.mp own, UInt32.lt_iff_toNat_lt.mpr given⟩
  have both := agree.fillSegment ready fun _ _ => id
  obtain ⟨filled, done, blocks⟩ := exists_segment_filled contained first matrix
  obtain ⟨filled', done', blocks'⟩ := exists_segment_filled contained first matrix'
  refine ⟨filled, filled', fun threads => ⟨done threads, done' threads⟩,
    fun cell own _ inside => ?_⟩
  rw [UInt32.lt_iff_toNat_lt, Geometry.toNat_sliceStop within] at inside
  have inLane : cell.index.toNat < g.shape.laneLength :=
    Nat.lt_of_lt_of_le inside (Geometry.slice_le within)
  rw [Matrix.block_eq, Matrix.block_eq, blocks, blocks']
  exact both.block _ _ inLane (.inr ⟨congrArg UInt32.toNat own, inside⟩)

theorem exists_segment_refilled (contained : g.contains position) (first : position.pass = 0)
    (matrix : Matrix g) :
    ∃ filled : Matrix g, ∀ threads : UInt32,
      fillSegment ⟨g, threads, matrix⟩ position = .ok ⟨g, threads, filled⟩ ∧
        fillSegment ⟨g, threads, filled⟩ position = .ok ⟨g, threads, filled⟩ := by
  obtain ⟨filled, done, blocks⟩ := exists_segment_filled contained first matrix
  obtain ⟨again, done', blocks'⟩ := exists_segment_filled contained first filled
  rw [blocks, Flat.Shape.fillSegment_fillSegment (Geometry.ready_of_contains contained)
    matrix.size_toArray_eq, ← blocks] at blocks'
  rw [Vector.toArray_inj.mp blocks'] at done'
  exact ⟨filled, fun threads => ⟨done threads, done' threads⟩⟩

end

/-- The tag is the same whatever is in the memory when the first blocks are written. -/
theorem hash_unwritten (digest : Digest) (params : Params) (inputs : Inputs) (n : Nat)
    (memory : Matrix (Geometry.ofParams params)) :
    hash digest params inputs n = (do
      let _ ← new digest params inputs n
      let matrix := withFirstBlocks digest (digest 64 (initialMessage params inputs n)) memory
      let state ← fillMemory ⟨Geometry.ofParams params, params.threads, matrix⟩
      return finalize digest state n) := by
  unfold hash new
  split
  · rfl
  · split
    · rfl
    · have passes : 0 < (Geometry.ofParams params).passes :=
        UInt32.lt_iff_toNat_lt.mpr params.passes_pos
      obtain ⟨filled, same⟩ := exists_filled_unwritten passes
        (withFirstBlocks digest (digest 64 (initialMessage params inputs n)) (Matrix.zero _))
        (withFirstBlocks digest (digest 64 (initialMessage params inputs n)) memory)
        fun lane index within given =>
          Matrix.block_foldl_set fun notGiven => absurd (Geometry.mem_firstCells within given) notGiven
      have both := same params.threads
      unfold withFirstBlocks at both
      simp only [bind, Except.bind, both.1, withFirstBlocks, both.2]

/-- Nothing depends on memory that has not been written. Matrices with the same first two blocks in
every lane are filled to the same matrix. A segment of the first pass is filled to the same blocks
wherever the earlier slices have the same blocks and, for the first segment of a lane, its first two
are the same; filling it once more changes nothing. So the tag is the same whatever is in the memory
when the first blocks are written into it. -/
theorem fill_unwritten (g : Geometry) (passes : 0 < g.passes) :
    (∀ matrix matrix' : Matrix g,
      (∀ lane index : UInt32, lane < g.lanes → index < 2 →
        matrix.block ⟨lane, index⟩ = matrix'.block ⟨lane, index⟩) →
      ∃ filled : Matrix g, ∀ threads : UInt32,
        fillMemory ⟨g, threads, matrix⟩ = .ok ⟨g, threads, filled⟩ ∧
          fillMemory ⟨g, threads, matrix'⟩ = .ok ⟨g, threads, filled⟩) ∧
    (∀ position : Position, g.contains position → position.pass = 0 →
      (∀ matrix matrix' : Matrix g,
        (∀ cell : Cell, cell.lane < g.lanes →
          cell.index < g.sliceStart position.slice ∨
            position.slice = 0 ∧ cell.lane = position.lane ∧ cell.index < 2 →
          matrix.block cell = matrix'.block cell) →
        ∃ filled filled' : Matrix g,
          (∀ threads : UInt32,
            fillSegment ⟨g, threads, matrix⟩ position = .ok ⟨g, threads, filled⟩ ∧
              fillSegment ⟨g, threads, matrix'⟩ position = .ok ⟨g, threads, filled'⟩) ∧
          ∀ cell : Cell, cell.lane = position.lane → g.sliceStart position.slice ≤ cell.index →
            cell.index < g.sliceStart position.slice + g.segmentLength →
            filled.block cell = filled'.block cell) ∧
      ∀ matrix : Matrix g, ∃ filled : Matrix g, ∀ threads : UInt32,
        fillSegment ⟨g, threads, matrix⟩ position = .ok ⟨g, threads, filled⟩ ∧
          fillSegment ⟨g, threads, filled⟩ position = .ok ⟨g, threads, filled⟩) ∧
    ∀ (digest : Digest) (params : Params) (inputs : Inputs) (n : Nat)
      (memory : Matrix (Geometry.ofParams params)),
      hash digest params inputs n = (do
        let _ ← new digest params inputs n
        let matrix := withFirstBlocks digest (digest 64 (initialMessage params inputs n)) memory
        let state ← fillMemory ⟨Geometry.ofParams params, params.threads, matrix⟩
        return finalize digest state n) :=
  ⟨exists_filled_unwritten passes, fun _ contained first =>
    ⟨exists_segment_filled_unwritten contained first, exists_segment_refilled contained first⟩,
    hash_unwritten⟩

/-- Three lanes of four segments with five blocks each. -/
def threeLanes : Geometry := ⟨.dependent, 2, 3, 5, by decide, by decide, by decide⟩

/-- Zeros with another block in the second segment of the second lane. -/
def stained : Matrix threeLanes :=
  (Matrix.zero threeLanes).set ⟨1, 7⟩ (.ofRows fun _ => .ofFn fun _ => 1)

theorem block_stained {lane index : UInt32} (earlier : index < 5) :
    stained.block ⟨lane, index⟩ = (Matrix.zero threeLanes).block ⟨lane, index⟩ := by
  have few : index.toNat < 5 := UInt32.lt_iff_toNat_lt.mp earlier
  unfold stained Matrix.block Matrix.set
  rw [Vector.getElem?_setIfInBounds_ne]
  change 1 * 20 + 7 ≠ lane.toNat * 20 + index.toNat
  omega

theorem stained_ne : stained ≠ Matrix.zero threeLanes := by
  intro same
  have words := congrArg (fun matrix => (matrix.block ⟨1, 7⟩).word 0) same
  exact absurd words (by decide)

theorem fill_unwritten_stained :
    0 < threeLanes.passes ∧ stained ≠ Matrix.zero threeLanes ∧
      (∃ filled : Matrix threeLanes, ∀ threads : UInt32,
        fillMemory ⟨threeLanes, threads, stained⟩ = .ok ⟨threeLanes, threads, filled⟩ ∧
          fillMemory ⟨threeLanes, threads, .zero threeLanes⟩ =
            .ok ⟨threeLanes, threads, filled⟩) ∧
      threeLanes.contains ⟨0, 1, 1⟩ ∧
      (∃ filled filled' : Matrix threeLanes,
        (∀ threads : UInt32,
          fillSegment ⟨threeLanes, threads, stained⟩ ⟨0, 1, 1⟩ = .ok ⟨threeLanes, threads, filled⟩ ∧
            fillSegment ⟨threeLanes, threads, .zero threeLanes⟩ ⟨0, 1, 1⟩ =
              .ok ⟨threeLanes, threads, filled'⟩) ∧
        filled.block ⟨1, 7⟩ = filled'.block ⟨1, 7⟩) ∧
      ∃ filled : Matrix threeLanes, ∀ threads : UInt32,
        fillSegment ⟨threeLanes, threads, stained⟩ ⟨0, 1, 1⟩ = .ok ⟨threeLanes, threads, filled⟩ ∧
          fillSegment ⟨threeLanes, threads, filled⟩ ⟨0, 1, 1⟩ =
            .ok ⟨threeLanes, threads, filled⟩ := by
  have passes : 0 < threeLanes.passes := by decide
  have contained : threeLanes.contains ⟨0, 1, 1⟩ := by decide
  obtain ⟨memory, segments, -⟩ := fill_unwritten threeLanes passes
  obtain ⟨two, again⟩ := segments ⟨0, 1, 1⟩ contained rfl
  refine ⟨passes, stained_ne, memory stained _ fun lane index _ given => ?_, contained, ?_,
    again stained⟩
  · exact block_stained (UInt32.lt_trans given (by decide))
  · obtain ⟨filled, filled', done, same⟩ := two stained (.zero threeLanes) fun cell _ earlier => by
      rcases earlier with before | ⟨first, -⟩
      · exact block_stained before
      · exact absurd first (by decide)
    exact ⟨filled, filled', done, same ⟨1, 7⟩ rfl (by decide) (by decide)⟩

end Instance

end HeaderVault.Argon2
