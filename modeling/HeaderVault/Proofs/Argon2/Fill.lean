import HeaderVault.Argon2.Instance
import HeaderVault.Proofs.Argon2.Geometry

/-!
Filling the matrix segment by segment is filling it block by block.

The stream of address blocks is described by the block it stands at (`Addresses.At`), which makes
one step of a segment one step of the flat filling (`fillBlock_eq`). Segments, the shares of the
workers, slices and passes follow by `foldlM_leads`, since none of them is refused anything it
reads. The main statement is that every matrix is filled, and to the blocks that the flat filling
gives.
-/

namespace HeaderVault.Argon2

open Flat (Place Shape)

variable {g : Geometry} {position : Position} {index : UInt32}

/-! ### Cells -/

theorem setIfInBounds_of_lt {α : Type} {size : Nat} (vector : Vector α size) {place : Nat}
    (inside : place < size) (value : α) :
    vector.setIfInBounds place value = vector.set place value inside := by
  ext i bound
  simp [Vector.getElem_setIfInBounds, Vector.getElem_set]

theorem Matrix.block_eq (matrix : Matrix g) (cell : Cell) :
    matrix.block cell = g.shape.block matrix.toArray cell.lane.toNat cell.index.toNat := by
  rw [Matrix.block, Shape.block, Matrix.place, g.toNat_laneLength, Vector.getElem?_toArray]

theorem Matrix.toArray_set (matrix : Matrix g) (cell : Cell) (block : Block) :
    (matrix.set cell block).toArray =
      matrix.toArray.setIfInBounds (cell.lane.toNat * g.shape.laneLength + cell.index.toNat) block := by
  rw [Matrix.set, Matrix.place, g.toNat_laneLength, Vector.toArray_setIfInBounds]

/-! ### Addresses -/

theorem Geometry.addressed_eq (position : Position) (index : UInt32) :
    g.addressed position = g.shape.addressed (position.place index) := by
  have pass : (position.pass == 0) = ((position.place index).pass == 0) := by
    rw [Bool.eq_iff_iff, beq_iff_eq, beq_iff_eq, toNat_pass_eq_zero]
  unfold Geometry.addressed Shape.addressed
  rw [pass]
  rfl

/-- The stream has made a number of address blocks and holds the last of them. -/
def Addresses.At (addresses : Addresses) (g : Geometry) (position : Position) (counter : Nat) : Prop :=
  addresses.count.toNat = counter ∧
    addresses.block = g.shape.addressBlock (position.place 0) counter

theorem Addresses.value_input (g : Geometry) (position : Position) (count : UInt64) :
    (input g position count).value = g.shape.addressInput (position.place 0) count.toNat := by
  have word : ∀ n : UInt32, n.toUInt64 = UInt64.ofNat n.toNat := fun n =>
    UInt64.toNat_inj.mp (by simp)
  have whole : count = UInt64.ofNat count.toNat := UInt64.ofNat_toNat.symm
  have same : input g position count =
      .ofValue (g.shape.addressInput (position.place 0) count.toNat) := by
    rw [input, word, word, word, word, word, g.toNat_blockCount]
    conv =>
      lhs
      rw [whole]
    rfl
  rw [same, Block.value_ofValue]

/-- The next address block of a segment. -/
theorem Addresses.At.next {addresses : Addresses} {counter : Nat} (at_ : addresses.count.toNat = counter)
    (small : counter < UInt32.size) : (addresses.next g position).At g position (counter + 1) := by
  have count : (addresses.count + 1).toNat = counter + 1 := by
    rw [UInt64.toNat_add, at_]
    exact Nat.mod_eq_of_lt (Nat.lt_of_le_of_lt small (by decide))
  refine ⟨count, ?_⟩
  rw [Addresses.next, Shape.addressBlock, ← Block.value_zero, ← count, ← value_input,
    ← Block.value_compress, ← Block.value_compress, Block.ofValue_value]

/-- What the stream holds before a block is computed. -/
def Addresses.Ready (addresses : Addresses) (g : Geometry) (position : Position) (index : Nat) : Prop :=
  let first := (Geometry.firstIndex position).toNat
  g.addressed position → index = first ∧ addresses.count = 0 ∨
    first < index ∧ addresses.At g position ((index - 1) / 128 + 1)

theorem Addresses.ready_start (g : Geometry) (position : Position) :
    start.Ready g position (Geometry.firstIndex position).toNat :=
  fun _ => .inl ⟨rfl, rfl⟩

theorem Geometry.firstIndex_le (position : Position) : (firstIndex position).toNat ≤ 2 := by
  unfold firstIndex
  split <;> decide

/-- Every block takes its word from the address block that its index falls into. -/
theorem Addresses.Ready.advance {addresses : Addresses} (addressed : g.addressed position)
    (ready : addresses.Ready g position index.toNat) :
    (Segment.advance g position index addresses).At g position (index.toNat / 128 + 1) := by
  have small := index.toNat_lt
  have size : UInt32.size = 4294967296 := rfl
  have two := Geometry.firstIndex_le position
  have multiple : index % 128 = 0 ↔ index.toNat % 128 = 0 := by
    rw [← UInt32.toNat_inj, UInt32.toNat_mod]
    rfl
  unfold Segment.advance
  simp only [addressed, Bool.true_and, Bool.or_eq_true, beq_iff_eq, multiple, ← UInt32.toNat_inj]
  rcases ready addressed with ⟨start, none⟩ | ⟨later, at_⟩
  · rw [if_pos (.inl start), show index.toNat / 128 + 1 = 0 + 1 by omega]
    exact .next (congrArg UInt64.toNat none) (by decide)
  · by_cases whole : index.toNat % 128 = 0
    · rw [if_pos (.inr whole), show index.toNat / 128 = (index.toNat - 1) / 128 + 1 by omega]
      exact .next at_.1 (by omega)
    · rw [if_neg (by omega), show index.toNat / 128 = (index.toNat - 1) / 128 by omega]
      exact at_

theorem Addresses.At.randomWord {addresses : Addresses}
    (at_ : g.addressed position → addresses.At g position (index.toNat / 128 + 1)) (previous : Block) :
    Segment.randomWord g position index addresses previous =
      g.shape.randomWord (position.place index) previous := by
  unfold Segment.randomWord Shape.randomWord
  rw [← Geometry.addressed_eq]
  split
  · next addressed =>
    rw [(at_ addressed).2, UInt32.toNat_mod]
    rfl
  · rfl

/-! ### One block -/

theorem Segment.read_eq {cell : Cell} (matrix : Matrix g) (available : g.available position cell) :
    read position matrix cell = .ok (matrix.block cell) := by
  rw [read, if_pos available]

/-- One step of a segment is one step of the flat filling. -/
theorem Segment.fillBlock_eq (computes : g.shape.Computes (position.place index)) (matrix : Matrix g)
    {addresses : Addresses} (first : Geometry.firstIndex position ≤ index)
    (ready : addresses.Ready g position index.toNat) :
    ∃ next : State g, fillBlock position ⟨matrix, addresses⟩ index = .ok next ∧
      next.matrix.toArray = g.shape.fillBlock matrix.toArray (position.place index) ∧
      next.addresses.Ready g position (index.toNat + 1) := by
  have previous := Geometry.toNat_previousIndex computes
  have column := Geometry.toNat_column computes
  have advanced := fun addressed => ready.advance addressed
  have random := Addresses.At.randomWord advanced
  unfold fillBlock
  simp only [read_eq matrix (Geometry.available_previous computes),
    read_eq matrix (Geometry.available_reference computes _), bind, Except.bind]
  refine ⟨_, rfl, ?_, ?_⟩
  · have lane : position.lane.toNat = (position.place index).lane := rfl
    have reference := fun random => Geometry.toNat_reference computes random
    rw [Matrix.toArray_set, Shape.fillBlock]
    simp only [random, Matrix.block_eq, previous, column, lane, reference, beq_iff_eq,
      Geometry.toNat_pass_eq_zero, ← Block.value_compress, ← Block.value_xor,
      ← apply_ite Block.value, Block.ofValue_value]
  · intro addressed
    exact .inr ⟨Nat.lt_succ_of_le first, advanced addressed⟩

/-! ### A segment -/

theorem Geometry.computes (contained : g.contains position)
    (first : Geometry.firstIndex position ≤ index) (within : index < g.segmentLength) :
    g.shape.Computes (position.place index) := by
  simp only [contains, Bool.and_eq_true, decide_eq_true_eq] at contained
  refine ⟨g.segment_ge, contained.2, contained.1.2, within, fun pass slice => ?_⟩
  rw [firstIndex, toNat_pass_eq_zero.mp pass, toNat_slice_eq_zero.mp slice] at first
  exact first

/-- The same for the number of a block. -/
theorem Geometry.computes_ofNat (contained : g.contains position) {n : Nat}
    (first : (Geometry.firstIndex position).toNat ≤ n) (within : n < g.segmentLength.toNat) :
    (UInt32.ofNat n).toNat = n ∧ Geometry.firstIndex position ≤ .ofNat n ∧
      g.shape.Computes (position.place (.ofNat n)) := by
  have small := g.segmentLength.toNat_lt_size
  have value : (UInt32.ofNat n).toNat = n := UInt32.toNat_ofNat_of_lt' (by omega)
  have first : Geometry.firstIndex position ≤ .ofNat n := by
    rwa [UInt32.le_iff_toNat_le, value]
  have within : UInt32.ofNat n < g.segmentLength := by
    rwa [UInt32.lt_iff_toNat_lt, value]
  exact ⟨value, first, Geometry.computes contained first within⟩

/-- One step computes the block that the flat filling computes, and keeps the stream of addresses
ready. -/
def Segment.Computing {Fault : Type} (position : Position)
    (step : State g → UInt32 → Except Fault (State g)) : Prop :=
  ∀ {index : UInt32}, g.shape.Computes (position.place index) → ∀ (matrix : Matrix g)
    {addresses : Addresses}, Geometry.firstIndex position ≤ index →
      addresses.Ready g position index.toNat →
        ∃ next : State g, step ⟨matrix, addresses⟩ index = .ok next ∧
          next.matrix.toArray = g.shape.fillBlock matrix.toArray (position.place index) ∧
          next.addresses.Ready g position (index.toNat + 1)

/-- The blocks of a segment from one on. The induction is on their number; what the stream of
addresses holds before each of them carries it. -/
theorem Segment.foldlM_computing {Fault : Type} {step : State g → UInt32 → Except Fault (State g)}
    (computing : Computing position step) (contained : g.contains position) (count : Nat)
    {start : Nat} (first : (Geometry.firstIndex position).toNat ≤ start)
    (within : start + count ≤ g.segmentLength.toNat) (matrix : Matrix g) {addresses : Addresses}
    (ready : addresses.Ready g position start) :
    ∃ last : State g,
      ((List.range' start count).map UInt32.ofNat).foldlM step ⟨matrix, addresses⟩ = .ok last ∧
        last.matrix.toArray =
          ((List.range' start count).map fun index =>
            Place.mk position.pass.toNat position.slice.toNat position.lane.toNat index).foldl
              g.shape.fillBlock matrix.toArray := by
  induction count generalizing start matrix addresses with
  | zero => exact ⟨_, rfl, rfl⟩
  | succ count ih =>
      obtain ⟨index, later, computes⟩ := Geometry.computes_ofNat contained first (by omega)
      obtain ⟨next, filled, blocks, ready⟩ := computing computes matrix later (by rwa [index])
      rw [index] at ready
      obtain ⟨last, rest, blocks'⟩ := ih (by omega) (by omega) next.matrix ready
      refine ⟨last, ?_, ?_⟩
      · rw [List.range'_succ, List.map_cons, List.foldlM_cons, filled]
        exact rest
      · rw [blocks', blocks, List.range'_succ, List.map_cons, List.foldl_cons, Position.place, index]

/-- The blocks of a segment, computed one after the other, are its places in the flat filling. -/
theorem Segment.indices_computing {Fault : Type} {step : State g → UInt32 → Except Fault (State g)}
    (computing : Computing position step) (contained : g.contains position) (matrix : Matrix g) :
    ∃ last : State g,
      (indices g position).foldlM step ⟨matrix, Addresses.start⟩ = .ok last ∧
        last.matrix.toArray =
          (g.shape.segmentPlaces position.pass.toNat position.slice.toNat
            position.lane.toNat).foldl g.shape.fillBlock matrix.toArray := by
  have first : (Geometry.firstIndex position).toNat =
      if position.pass.toNat = 0 ∧ position.slice.toNat = 0 then 2 else 0 := by
    have pass : (position.place 0).pass = 0 ↔ position.pass = 0 := Geometry.toNat_pass_eq_zero
    have slice : (position.place 0).slice = 0 ↔ position.slice = 0 := Geometry.toNat_slice_eq_zero
    rw [Position.place] at pass slice
    simp only [Geometry.firstIndex, pass, slice, Bool.and_eq_true, beq_iff_eq]
    split <;> rfl
  have two := Geometry.firstIndex_le position
  have segment := g.segment_ge
  obtain ⟨last, done, blocks⟩ := foldlM_computing computing contained
    (g.segmentLength.toNat - (Geometry.firstIndex position).toNat) (Nat.le_refl _) (by omega) matrix
    (Addresses.ready_start g position)
  refine ⟨last, done, ?_⟩
  rw [blocks, first]
  rfl

/-- A segment is filled, and as its places are one by one. -/
theorem Segment.fill_eq (contained : g.contains position) (matrix : Matrix g) :
    ∃ filled, fill matrix position = .ok filled ∧
      filled.toArray =
        (g.shape.segmentPlaces position.pass.toNat position.slice.toNat position.lane.toNat).foldl
          g.shape.fillBlock matrix.toArray := by
  obtain ⟨last, done, blocks⟩ := indices_computing fillBlock_eq contained matrix
  refine ⟨last.matrix, ?_, blocks⟩
  rw [fill, Geometry.check, if_pos contained]
  simp only [bind, Except.bind, done]
  rfl

/-! ### All segments -/

namespace Instance

/-- A matrix is filled to given blocks. -/
def Leads (g : Geometry) (threads : UInt32) (result : Except Error Instance)
    (blocks : Array Block) : Prop :=
  ∃ filled : Matrix g, result = .ok ⟨g, threads, filled⟩ ∧ filled.toArray = blocks

/-- Parts of the filling that lead to the blocks of their places do so together. -/
theorem foldlM_leads {threads : UInt32} {α : Type} {step : Instance → α → Except Error Instance}
    {places : α → List Place} {parts : List α}
    (each : ∀ part ∈ parts, ∀ matrix : Matrix g, Leads g threads (step ⟨g, threads, matrix⟩ part)
      ((places part).foldl g.shape.fillBlock matrix.toArray)) (matrix : Matrix g) :
    Leads g threads (parts.foldlM step ⟨g, threads, matrix⟩)
      ((parts.flatMap places).foldl g.shape.fillBlock matrix.toArray) := by
  induction parts generalizing matrix with
  | nil => exact ⟨matrix, rfl, rfl⟩
  | cons part parts ih =>
      obtain ⟨next, filled, blocks⟩ := each part List.mem_cons_self matrix
      obtain ⟨last, rest, blocks'⟩ := ih (fun part mem => each part (List.mem_cons_of_mem _ mem)) next
      refine ⟨last, ?_, ?_⟩
      · rw [List.foldlM_cons, filled]
        exact rest
      · rw [blocks', blocks, List.flatMap_cons, List.foldl_append]

theorem fillSegment_leads (threads : UInt32) (contained : g.contains position) (matrix : Matrix g) :
    Leads g threads (fillSegment ⟨g, threads, matrix⟩ position)
      ((g.shape.segmentPlaces position.pass.toNat position.slice.toNat position.lane.toNat).foldl
        g.shape.fillBlock matrix.toArray) := by
  obtain ⟨filled, done, blocks⟩ := Segment.fill_eq contained matrix
  refine ⟨filled, ?_, blocks⟩
  simp only [fillSegment, bind, Except.bind, done]
  rfl

/-- Runs of equal length one after the other make up their range. -/
theorem flatMap_runs (lanes length threads : Nat) :
    (List.range threads).flatMap (fun worker =>
      List.range' (worker * length) (min length (lanes - worker * length))) =
        List.range (min (threads * length) lanes) := by
  induction threads with
  | zero => simp
  | succ threads ih =>
      rw [List.range_succ, List.flatMap_append, ih, List.flatMap_singleton, Nat.succ_mul]
      by_cases done : lanes ≤ threads * length
      · rw [Nat.sub_eq_zero_of_le done, Nat.min_zero, List.range'_zero, List.append_nil]
        congr 1
        omega
      · rw [Nat.min_eq_left (by omega), List.range_eq_range', List.range_eq_range']
        have joined := List.range'_append_1 (s := 0) (m := threads * length)
          (n := min length (lanes - threads * length))
        rw [Nat.zero_add] at joined
        rw [joined]
        congr 1
        omega

/-- The workers share out all lanes, in their order. -/
theorem flatten_shares (lanes : Nat) {threads : Nat} (pos : 0 < threads) :
    (shares lanes threads).flatten = (List.range lanes).map UInt32.ofNat := by
  have enough : lanes ≤ threads * ((lanes + threads - 1) / threads) := by
    have := Nat.div_add_mod (lanes + threads - 1) threads
    have := Nat.mod_lt (lanes + threads - 1) pos
    omega
  rw [shares, ← List.flatMap_def, ← List.map_flatMap, flatMap_runs, Nat.min_eq_right enough]

theorem workers_pos (lanes threads : UInt32) : 0 < (workers lanes threads).toNat := by
  change 0 < (if 1 ≤ min threads (min lanes maxThreads) then _ else (1 : UInt32)).toNat
  split
  · next some => exact UInt32.le_iff_toNat_le.mp some
  · decide

end Instance

/-- The lanes of a matrix in their order. -/
def Geometry.allLanes (g : Geometry) : List UInt32 := (List.range g.lanes.toNat).map UInt32.ofNat

/-- The words below a word are those of the numbers below it. -/
theorem lt_iff_exists_mem_range {size n : UInt32} :
    n < size ↔ ∃ k ∈ List.range size.toNat, UInt32.ofNat k = n := by
  constructor
  · intro within
    exact ⟨n.toNat, List.mem_range.mpr within, UInt32.ofNat_toNat⟩
  · rintro ⟨k, mem, rfl⟩
    rw [List.mem_range] at mem
    rwa [UInt32.lt_iff_toNat_lt,
      UInt32.toNat_ofNat_of_lt' (Nat.lt_trans mem size.toNat_lt_size)]

theorem Geometry.mem_allLanes {lane : UInt32} : lane ∈ g.allLanes ↔ lane < g.lanes := by
  rw [allLanes, List.mem_map, lt_iff_exists_mem_range]

theorem Geometry.map_toNat_allLanes (g : Geometry) :
    g.allLanes.map UInt32.toNat = List.range g.lanes.toNat := by
  have small := g.lanes.toNat_lt_size
  have number : ∀ n ∈ List.range g.lanes.toNat, (UInt32.toNat ∘ UInt32.ofNat) n = id n := by
    intro n mem
    rw [List.mem_range] at mem
    exact UInt32.toNat_ofNat_of_lt' (by omega)
  rw [allLanes, List.map_map, List.map_congr_left number, List.map_id]

namespace Instance

theorem fillLanes_leads (threads : UInt32) {pass slice : UInt32} (passes : pass < g.passes)
    (within : slice < slices) {lanes : List UInt32} (each : ∀ lane ∈ lanes, lane < g.lanes)
    (matrix : Matrix g) :
    Leads g threads (fillLanes pass slice ⟨g, threads, matrix⟩ lanes)
      ((lanes.flatMap fun lane => g.shape.segmentPlaces pass.toNat slice.toNat lane.toNat).foldl
        g.shape.fillBlock matrix.toArray) := by
  refine foldlM_leads (fun lane mem matrix => ?_) matrix
  have contained : g.contains ⟨pass, lane, slice⟩ := by
    simp only [Geometry.contains, passes, each lane mem, within, decide_true, Bool.and_self]
  exact fillSegment_leads threads contained matrix

/-- A slice is filled as if one worker took its lanes in order. -/
theorem fillSlice_leads (threads : UInt32) {pass slice : UInt32} (passes : pass < g.passes)
    (within : slice < slices) (matrix : Matrix g) :
    Leads g threads (fillSlice ⟨g, threads, matrix⟩ pass slice)
      ((g.allLanes.flatMap fun lane =>
        g.shape.segmentPlaces pass.toNat slice.toNat lane.toNat).foldl g.shape.fillBlock
          matrix.toArray) := by
  have all : (shares g.lanes.toNat (workers g.lanes threads).toNat).flatten = g.allLanes :=
    flatten_shares g.lanes.toNat (workers_pos g.lanes threads)
  rw [← all, ← List.flatMap_id', List.flatMap_assoc]
  refine foldlM_leads (fun share member matrix => ?_) matrix
  refine fillLanes_leads threads passes within (fun lane mem => ?_) matrix
  rw [← Geometry.mem_allLanes, ← all]
  exact List.mem_flatten.mpr ⟨share, member, mem⟩

/-- Every pass and slice in order, with the slices filled in a given way. -/
def fillPasses (g : Geometry) (fillSlice : Instance → UInt32 → UInt32 → Except Error Instance)
    (state : Instance) : Except Error Instance :=
  (List.range g.passes.toNat).foldlM
    (fun state pass =>
      (List.range slices.toNat).foldlM
        (fun state slice => fillSlice state (.ofNat pass) (.ofNat slice)) state)
    state

/-- Where every slice is filled as its places are one by one, so is the matrix. -/
theorem fillPasses_leads {threads : UInt32}
    {fillSlice : Instance → UInt32 → UInt32 → Except Error Instance}
    (each : ∀ pass slice : UInt32, pass < g.passes → slice < slices → ∀ matrix : Matrix g,
      Leads g threads (fillSlice ⟨g, threads, matrix⟩ pass slice)
        ((g.allLanes.flatMap fun lane =>
          g.shape.segmentPlaces pass.toNat slice.toNat lane.toNat).foldl g.shape.fillBlock
            matrix.toArray)) (matrix : Matrix g) :
    Leads g threads (fillPasses g fillSlice ⟨g, threads, matrix⟩) (g.shape.fill matrix.toArray) := by
  unfold fillPasses Shape.fill Shape.places
  refine foldlM_leads (fun pass mem matrix => ?_) matrix
  refine foldlM_leads (fun slice mem' matrix => ?_) matrix
  have passNumber : (UInt32.ofNat pass).toNat = pass :=
    UInt32.toNat_ofNat_of_lt' (Nat.lt_trans (List.mem_range.mp mem) g.passes.toNat_lt_size)
  have within : slice < slices.toNat := List.mem_range.mp mem'
  have sliceNumber : (UInt32.ofNat slice).toNat = slice :=
    UInt32.toNat_ofNat_of_lt' (Nat.lt_trans within slices.toNat_lt_size)
  have passes : UInt32.ofNat pass < g.passes := by
    rw [UInt32.lt_iff_toNat_lt, passNumber]
    exact List.mem_range.mp mem
  have within : UInt32.ofNat slice < slices := by
    rw [UInt32.lt_iff_toNat_lt, sliceNumber]
    exact within
  have filled := each _ _ passes within matrix
  rwa [passNumber, sliceNumber, ← List.flatMap_map, g.map_toNat_allLanes] at filled

/-- Every matrix is filled, and as its places are one by one. -/
theorem fillMemory_leads (threads : UInt32) (matrix : Matrix g) :
    Leads g threads (fillMemory ⟨g, threads, matrix⟩) (g.shape.fill matrix.toArray) :=
  fillPasses_leads (fun _ _ passes within => fillSlice_leads threads passes within) matrix

end Instance

theorem Geometry.shape_ofParams (params : Params) : (ofParams params).shape = .ofParams params := by
  have lanes : (params.lanes * slices).toNat = 4 * params.lanes.toNat := by
    have le := params.lanes_le
    have limit : maxLanes = 16777215 := rfl
    have four : slices.toNat = 4 := rfl
    rw [toNat_mul_of_lt, four, Nat.mul_comm]
    rw [four, show UInt32.size = 4294967296 from rfl]
    omega
  rw [shape, ofParams, Shape.ofParams, ← lanes, ← UInt32.toNat_div]

/-- A tag of every length is begun for a salt that is long enough. -/
theorem Instance.exists_new (digest : Digest) (params : Params) (inputs : Inputs) {n : Nat}
    (length : 4 ≤ n ∧ n < UInt32.size) (salt : 8 ≤ inputs.salt.length) :
    ∃ matrix, new digest params inputs n =
      .ok ⟨Geometry.ofParams params, params.threads, matrix⟩ := by
  have allowed : ¬(n < 4 ∨ UInt32.size ≤ n) := by omega
  unfold new
  rw [if_neg allowed, if_neg (Nat.not_lt.mpr salt)]
  exact ⟨_, rfl⟩

/-- The matrix that is left is the one of RFC 9106, whatever the first blocks of the lanes are and
however many workers share the lanes. -/
theorem Instance.fillMemory_eq_fill (params : Params) (threads : UInt32)
    (matrix : Matrix (Geometry.ofParams params)) :
    ∃ filled : Matrix (Geometry.ofParams params),
      fillMemory ⟨Geometry.ofParams params, threads, matrix⟩ =
          .ok ⟨Geometry.ofParams params, threads, filled⟩ ∧
        filled.toArray = (Shape.ofParams params).fill matrix.toArray := by
  rw [← Geometry.shape_ofParams]
  exact fillMemory_leads threads matrix

end HeaderVault.Argon2
