import HeaderVault.Proofs.Argon2.Fill
import HeaderVault.Proofs.Argon2.References

/-!
The lanes of a slice in any order.

A block is computed from its own lane and from blocks of other lanes that lie outside of the slice
(`Shape.Refers.apart`), so nothing that a segment computes depends on what the others of its slice
write (`Shape.computed_fillBlock`). Blocks of two lanes can be computed in either order, then
segments, then all lanes of a slice.

The workers share out the lanes and take turns in whatever way (`Interleaves`); what comes of it is
an order of the lanes. The matrix, and with it the tag, is therefore the same for every number of
workers and every schedule.
-/

namespace HeaderVault.Argon2

namespace Flat.Shape

variable {s : Shape} {p q : Place}

/-! ### Two blocks -/

/-- The block that is written at a place. -/
def computed (s : Shape) (matrix : Array Block) (p : Place) : Block :=
  let previous := s.block matrix p.lane (s.previous p)
  let random := s.randomWord p previous
  let lane := s.referenceLane p random
  let reference := s.block matrix lane (s.referenceColumn p random lane)
  let new := Standard.compression previous.value reference.value
  .ofValue (if p.pass = 0 then new else
    Standard.sum (s.block matrix p.lane (s.column p)).value new)

theorem fillBlock_eq (matrix : Array Block) (p : Place) :
    s.fillBlock matrix p =
      matrix.setIfInBounds (p.lane * s.laneLength + s.column p) (s.computed matrix p) := rfl

/-- Every block of the matrix has one lane and one column. -/
theorem eq_of_mul_add_eq {length lane lane' column column' : Nat} (inLane : column < length)
    (inLane' : column' < length) (same : lane * length + column = lane' * length + column') :
    lane = lane' ∧ column = column' := by
  have pos : 0 < length := Nat.lt_of_le_of_lt (Nat.zero_le _) inLane
  have divided : ∀ {lane column}, column < length → (lane * length + column) / length = lane := by
    intro lane column inLane
    rw [Nat.add_comm, Nat.add_mul_div_right _ _ pos, Nat.div_eq_of_lt inLane, Nat.zero_add]
  have lanes : lane = lane' := calc
    lane = (lane * length + column) / length := (divided inLane).symm
    _ = (lane' * length + column') / length := congrArg (· / length) same
    _ = lane' := divided inLane'
  refine ⟨lanes, ?_⟩
  rw [lanes] at same
  exact Nat.add_left_cancel same

theorem block_fillBlock_other (computes : s.Computes q) (matrix : Array Block) {lane column : Nat}
    (inLane : column < s.laneLength) (other : lane = q.lane → column ≠ s.column q) :
    s.block (s.fillBlock matrix q) lane column = s.block matrix lane column := by
  rw [block, block, fillBlock_eq, Array.getElem?_setIfInBounds_ne]
  intro same
  obtain ⟨lanes, columns⟩ := eq_of_mul_add_eq computes.column_lt inLane same
  exact other lanes.symm columns.symm

/-- What is computed at a place does not depend on the blocks of its slice in other lanes. -/
theorem computed_fillBlock (computes : s.Computes p) (computes' : s.Computes q)
    (slice : p.slice = q.slice) (other : p.lane ≠ q.lane) (matrix : Array Block) :
    s.computed (s.fillBlock matrix q) p = s.computed matrix p := by
  have own : ∀ {column}, column < s.laneLength →
      s.block (s.fillBlock matrix q) p.lane column = s.block matrix p.lane column := fun inLane =>
    block_fillBlock_other computes' matrix inLane fun same => absurd same other
  have reference : ∀ random,
      s.block (s.fillBlock matrix q) (s.referenceLane p random)
          (s.referenceColumn p random (s.referenceLane p random)) =
        s.block matrix (s.referenceLane p random)
          (s.referenceColumn p random (s.referenceLane p random)) := by
    intro random
    have refers := refers_of_mem_window computes (referenceLane_lt computes random)
      (referenceColumn_mem computes random)
    refine block_fillBlock_other computes' matrix refers.column_lt fun there same => ?_
    have inside := computes'.index
    have apart := refers.apart fun here => other (here.symm.trans there)
    rw [same, column, slice] at apart
    omega
  unfold computed
  simp only [own computes.previous_lt, own computes.column_lt, reference]

theorem fillBlock_comm (computes : s.Computes p) (computes' : s.Computes q)
    (slice : p.slice = q.slice) (other : p.lane ≠ q.lane) (matrix : Array Block) :
    s.fillBlock (s.fillBlock matrix p) q = s.fillBlock (s.fillBlock matrix q) p := by
  rw [fillBlock_eq (s.fillBlock matrix p) q, fillBlock_eq (s.fillBlock matrix q) p,
    computed_fillBlock computes computes' slice other,
    computed_fillBlock computes' computes slice.symm other.symm, fillBlock_eq matrix p,
    fillBlock_eq matrix q]
  refine Array.setIfInBounds_comm _ _ fun same => ?_
  exact other (eq_of_mul_add_eq computes.column_lt computes'.column_lt same).1

/-! ### Two segments -/

section

variable {α β : Type} {step : β → α → β}

theorem foldl_step_comm {item : α} {items : List α}
    (comm : ∀ other ∈ items, ∀ state, step (step state item) other = step (step state other) item)
    (state : β) : items.foldl step (step state item) = step (items.foldl step state) item := by
  induction items generalizing state with
  | nil => rfl
  | cons other items ih =>
      rw [List.foldl_cons, comm other List.mem_cons_self, List.foldl_cons]
      exact ih (fun other mem => comm other (List.mem_cons_of_mem _ mem)) _

theorem foldl_foldl_comm {items others : List α}
    (comm : ∀ item ∈ items, ∀ other ∈ others, ∀ state,
      step (step state item) other = step (step state other) item) (state : β) :
    others.foldl step (items.foldl step state) = items.foldl step (others.foldl step state) := by
  induction items generalizing state with
  | nil => rfl
  | cons item items ih =>
      rw [List.foldl_cons, List.foldl_cons,
        ih (fun item mem => comm item (List.mem_cons_of_mem _ mem)),
        foldl_step_comm (comm item List.mem_cons_self)]

end

/-- Fills the segment of a lane. -/
def fillSegment (s : Shape) (pass slice : Nat) (matrix : Array Block) (lane : Nat) : Array Block :=
  (s.segmentPlaces pass slice lane).foldl s.fillBlock matrix

/-- Lanes whose segments can be filled. -/
structure Ready (s : Shape) (slice : Nat) (lane : Nat) : Prop where
  segment : 2 ≤ s.segment
  slice : slice < 4
  lane : lane < s.lanes

section

variable {pass slice lane lane' : Nat}

theorem computes_of_mem (ready : s.Ready slice lane) (mem : p ∈ s.segmentPlaces pass slice lane) :
    s.Computes p ∧ p.slice = slice ∧ p.lane = lane := by
  have segment := ready.segment
  obtain ⟨index, counted, rfl⟩ := List.mem_map.mp mem
  rw [List.mem_range'_1] at counted
  have inside : index < s.segment := by split at counted <;> omega
  refine ⟨⟨segment, ready.slice, ready.lane, inside, fun first firstSlice => ?_⟩, rfl, rfl⟩
  rw [if_pos ⟨first, firstSlice⟩] at counted
  exact counted.1

theorem fillSegment_comm (ready : s.Ready slice lane) (ready' : s.Ready slice lane')
    (other : lane ≠ lane') (matrix : Array Block) :
    s.fillSegment pass slice (s.fillSegment pass slice matrix lane) lane' =
      s.fillSegment pass slice (s.fillSegment pass slice matrix lane') lane := by
  refine foldl_foldl_comm (fun p mem q mem' matrix => ?_) matrix
  obtain ⟨computes, at_, in_⟩ := computes_of_mem ready mem
  obtain ⟨computes', at', in'⟩ := computes_of_mem ready' mem'
  exact fillBlock_comm computes computes' (at_.trans at'.symm)
    (fun same => other (in_.symm.trans (same.trans in'))) matrix

/-- The blocks of the matrix that the segment of a lane does not compute. -/
def Kept (s : Shape) (pass slice lane lane' column : Nat) : Prop :=
  ∀ p ∈ s.segmentPlaces pass slice lane, lane' = p.lane → column ≠ s.column p

theorem block_fillSegment_kept (ready : s.Ready slice lane) (matrix : Array Block)
    {lane' column : Nat} (inLane : column < s.laneLength)
    (kept : s.Kept pass slice lane lane' column) :
    s.block (s.fillSegment pass slice matrix lane) lane' column = s.block matrix lane' column := by
  have each : ∀ p ∈ s.segmentPlaces pass slice lane, s.Computes p := fun p mem =>
    (computes_of_mem ready mem).1
  unfold Kept at kept
  unfold fillSegment
  generalize s.segmentPlaces pass slice lane = places at each kept
  induction places generalizing matrix with
  | nil => rfl
  | cons p places ih =>
      rw [List.foldl_cons, ih _ (fun p mem => each p (List.mem_cons_of_mem _ mem))
        fun p mem => kept p (List.mem_cons_of_mem _ mem)]
      exact block_fillBlock_other (each p List.mem_cons_self) matrix inLane
        (kept p List.mem_cons_self)

/-- A segment that is filled changes nothing outside of it. -/
theorem block_fillSegment_other (ready : s.Ready slice lane) (matrix : Array Block) {lane' column : Nat}
    (inLane : column < s.laneLength)
    (outside : lane' = lane → column < slice * s.segment ∨ slice * s.segment + s.segment ≤ column) :
    s.block (s.fillSegment pass slice matrix lane) lane' column = s.block matrix lane' column := by
  refine block_fillSegment_kept ready matrix inLane fun p mem same at_ => ?_
  obtain ⟨computes, rfl, rfl⟩ := computes_of_mem ready mem
  have inside := computes.index
  have apart := outside same
  rw [at_, Shape.column] at apart
  omega

/-- The lanes of a slice can be taken in any order. -/
theorem foldl_fillSegment_perm {lanes lanes' : List Nat} (perm : lanes.Perm lanes')
    (ready : ∀ lane ∈ lanes, s.Ready slice lane) (matrix : Array Block) :
    lanes.foldl (s.fillSegment pass slice) matrix = lanes'.foldl (s.fillSegment pass slice) matrix := by
  refine perm.foldl_eq' (fun lane mem lane' mem' matrix => ?_) matrix
  by_cases same : lane = lane'
  · rw [same]
  · exact fillSegment_comm (ready lane mem) (ready lane' mem') same matrix

end

end Flat.Shape

/-! ### Schedules -/

/-- Workers with shares of some items take turns: whoever is next takes the first item that is left
of its share. -/
inductive Interleaves {α : Type} : List (List α) → List α → Prop
  | done {shares : List (List α)} (none : ∀ share ∈ shares, share = []) : Interleaves shares []
  | turn {shares others : List (List α)} {share items : List α} {item : α}
      (next : shares.Perm ((item :: share) :: others)) (rest : Interleaves (share :: others) items) :
      Interleaves shares (item :: items)

namespace Interleaves

variable {α : Type} {shares shares' : List (List α)} {items : List α}

/-- Every item of every share gets its turn, and no other. -/
theorem perm (interleaves : Interleaves shares items) : items.Perm shares.flatten := by
  induction interleaves with
  | done none => rw [List.flatten_eq_nil_iff.mpr none]
  | turn next _ ih => exact (ih.cons _).trans next.flatten.symm

theorem of_perm (interleaves : Interleaves shares items) (same : shares'.Perm shares) :
    Interleaves shares' items := by
  cases interleaves with
  | done none => exact .done fun share mem => none share (same.mem_iff.mp mem)
  | turn next rest => exact .turn (same.trans next) rest

/-- A worker without a share does not matter. -/
theorem cons_nil (interleaves : Interleaves shares items) : Interleaves ([] :: shares) items := by
  induction interleaves with
  | done none =>
      refine .done fun share mem => ?_
      rcases List.mem_cons.mp mem with rfl | mem
      · rfl
      · exact none share mem
  | turn next _ ih =>
      exact .turn ((next.cons _).trans (.swap _ _ _)) (ih.of_perm (.swap _ _ _))

/-- One share after the other, in any order of the workers. -/
theorem flatten (perm : shares'.Perm shares) : Interleaves shares shares'.flatten := by
  induction shares' generalizing shares with
  | nil =>
      obtain rfl := perm.nil_eq
      exact .done fun share mem => nomatch mem
  | cons share others ih =>
      refine of_perm ?_ perm.symm
      clear perm
      induction share with
      | nil => exact (ih (.refl others)).cons_nil
      | cons item share ih' => exact .turn (.refl _) ih'

end Interleaves

/-- An order of all lanes of a matrix. -/
structure LaneOrder (g : Geometry) where
  lanes : List UInt32
  perm : lanes.Perm g.allLanes

variable {g : Geometry}

def LaneOrder.ascending (g : Geometry) : LaneOrder g := ⟨g.allLanes, .refl _⟩

theorem Geometry.ready_of_contains {position : Position} (contained : g.contains position) :
    g.shape.Ready position.slice.toNat position.lane.toNat := by
  simp only [contains, Bool.and_eq_true, decide_eq_true_eq] at contained
  exact ⟨g.segment_ge, UInt32.lt_iff_toNat_lt.mp contained.2, UInt32.lt_iff_toNat_lt.mp contained.1.2⟩

namespace Instance

/-! ### The shares of the workers -/

/-- A way to share out the lanes among a number of workers. -/
structure SharesOut (lanes threads : Nat) (shares : List (List UInt32)) : Prop where
  count : shares.length = threads
  once : shares.flatten = (List.range lanes).map UInt32.ofNat
  runs : ∀ share ∈ shares, ∃ first count, count ≤ (lanes + threads - 1) / threads ∧
    share = (List.range' first count).map UInt32.ofNat

theorem sharesOut_shares (lanes : Nat) {threads : Nat} (pos : 0 < threads) :
    SharesOut lanes threads (shares lanes threads) := by
  constructor
  · rw [shares, List.length_map, List.length_range]
  · exact flatten_shares lanes pos
  · intro share mem
    obtain ⟨worker, -, rfl⟩ := List.mem_map.mp mem
    exact ⟨_, _, Nat.min_le_left _ _, rfl⟩

theorem workers_le (lanes threads : UInt32) :
    (workers lanes threads).toNat ≤ max 1 threads.toNat := by
  have one : (1 : UInt32).toNat = 1 := rfl
  have least : (min threads (min lanes maxThreads)).toNat ≤ threads.toNat := by
    change (if threads ≤ min lanes maxThreads then threads else _).toNat ≤ _
    split
    · exact Nat.le_refl _
    · next fewer => exact UInt32.le_iff_toNat_le.mp (UInt32.le_of_lt (UInt32.not_le.mp fewer))
  change (if 1 ≤ min threads (min lanes maxThreads) then min threads (min lanes maxThreads)
    else 1).toNat ≤ _
  split <;> omega

/-! ### Any order -/

/-- What a matrix is filled to is known from its blocks. -/
theorem Leads.eq_ok {threads : UInt32} {result : Except Error Instance} {blocks : Array Block}
    {filled : Matrix g} (leads : Leads g threads result blocks) (same : filled.toArray = blocks) :
    result = .ok ⟨g, threads, filled⟩ := by
  obtain ⟨found, rfl, blocks⟩ := leads
  rw [Vector.toArray_inj.mp (blocks.trans same.symm)]

/-- Every order of the lanes leads to the blocks that the order of their numbers leads to. -/
theorem fillLanes_order_leads (threads : UInt32) {pass slice : UInt32} (passes : pass < g.passes)
    (within : slice < slices) (order : LaneOrder g) (matrix : Matrix g) :
    Leads g threads (fillLanes pass slice ⟨g, threads, matrix⟩ order.lanes)
      ((g.allLanes.flatMap fun lane =>
        g.shape.segmentPlaces pass.toNat slice.toNat lane.toNat).foldl g.shape.fillBlock
          matrix.toArray) := by
  have segments : ∀ lanes : List UInt32,
      (lanes.flatMap fun lane => g.shape.segmentPlaces pass.toNat slice.toNat lane.toNat).foldl
          g.shape.fillBlock matrix.toArray =
        (lanes.map UInt32.toNat).foldl (g.shape.fillSegment pass.toNat slice.toNat)
          matrix.toArray := by
    intro lanes
    rw [List.foldl_flatMap, List.foldl_map]
    rfl
  have each : ∀ lane ∈ order.lanes, lane < g.lanes := fun lane mem =>
    Geometry.mem_allLanes.mp (order.perm.mem_iff.mp mem)
  have leads := fillLanes_leads threads passes within each matrix
  rw [segments] at leads ⊢
  rwa [← Flat.Shape.foldl_fillSegment_perm (order.perm.map UInt32.toNat)]
  intro lane mem
  obtain ⟨lane, member, rfl⟩ := List.mem_map.mp mem
  exact ⟨g.segment_ge, UInt32.lt_iff_toNat_lt.mp within,
    UInt32.lt_iff_toNat_lt.mp (each lane member)⟩

/-- Fills every slice in an order of its lanes. -/
def fillOrdered (orders : UInt32 → UInt32 → LaneOrder g) (state : Instance) :
    Except Error Instance :=
  fillPasses g (fun state pass slice => fillLanes pass slice state (orders pass slice).lanes) state

/-- A segment is filled without a change to any block outside of it. -/
theorem fillSegment_keeps (threads : UInt32) {position : Position} (contained : g.contains position)
    (matrix : Matrix g) :
    ∃ filled : Matrix g, fillSegment ⟨g, threads, matrix⟩ position = .ok ⟨g, threads, filled⟩ ∧
      ∀ cell : Cell, cell.index < g.laneLength →
        (cell.lane = position.lane → cell.index < g.sliceStart position.slice ∨
          g.sliceStart position.slice + g.segmentLength ≤ cell.index) →
        filled.block cell = matrix.block cell := by
  obtain ⟨filled, done, blocks⟩ := fillSegment_leads threads contained matrix
  refine ⟨filled, done, fun cell inLane outside => ?_⟩
  have ready := Geometry.ready_of_contains contained
  have within : position.slice < slices := UInt32.lt_iff_toNat_lt.mpr ready.slice
  rw [Matrix.block_eq, Matrix.block_eq, blocks]
  refine Flat.Shape.block_fillSegment_other ready _ ?_ fun same => ?_
  · rw [← g.toNat_laneLength]
    exact UInt32.lt_iff_toNat_lt.mp inLane
  · have apart := outside (UInt32.toNat_inj.mp same)
    rwa [UInt32.lt_iff_toNat_lt, UInt32.le_iff_toNat_le, Geometry.toNat_sliceStart within,
      Geometry.toNat_sliceStop within] at apart

theorem exists_slice_filled {pass slice : UInt32} (passes : pass < g.passes) (within : slice < slices)
    (matrix : Matrix g) :
    ∃ filled : Matrix g, ∀ (threads : UInt32) (order : LaneOrder g),
      fillLanes pass slice ⟨g, threads, matrix⟩ order.lanes = .ok ⟨g, threads, filled⟩ ∧
        fillSlice ⟨g, threads, matrix⟩ pass slice = .ok ⟨g, threads, filled⟩ := by
  obtain ⟨filled, -, blocks⟩ := fillSlice_leads 1 passes within matrix
  exact ⟨filled, fun threads order =>
    ⟨(fillLanes_order_leads threads passes within order matrix).eq_ok blocks,
      (fillSlice_leads threads passes within matrix).eq_ok blocks⟩⟩

theorem exists_memory_filled (matrix : Matrix g) :
    ∃ filled : Matrix g, ∀ (threads : UInt32) (orders : UInt32 → UInt32 → LaneOrder g),
      fillOrdered orders ⟨g, threads, matrix⟩ = .ok ⟨g, threads, filled⟩ ∧
        fillMemory ⟨g, threads, matrix⟩ = .ok ⟨g, threads, filled⟩ := by
  obtain ⟨filled, -, blocks⟩ := fillMemory_leads 1 matrix
  refine ⟨filled, fun threads orders => ⟨?_, (fillMemory_leads threads matrix).eq_ok blocks⟩⟩
  refine Leads.eq_ok (fillPasses_leads (fun pass slice passes within matrix => ?_) matrix) blocks
  exact fillLanes_order_leads threads passes within (orders pass slice) matrix

theorem finalize_threads (digest : Digest) (n : Nat) (matrix : Matrix g) (threads threads' : UInt32) :
    (do return finalize digest (← fillMemory ⟨g, threads, matrix⟩) n) =
      (do return finalize digest (← fillMemory ⟨g, threads', matrix⟩) n) := by
  obtain ⟨filled, same⟩ := exists_memory_filled matrix
  rw [(same threads fun _ _ => .ascending g).2, (same threads' fun _ _ => .ascending g).2]
  rfl

theorem hash_threads (digest : Digest) (params : Params) (inputs : Inputs) (n : Nat)
    (threads : UInt32) :
    hash digest { params with threads := threads } inputs n = hash digest params inputs n := by
  unfold hash Instance.new
  split
  · rfl
  · split
    · rfl
    · exact finalize_threads digest n _ threads params.threads

/-- Nothing depends on the order of the lanes or on how the workers share them out. A segment that
is filled changes its own blocks only; the segments of a slice leave the same blocks in every order;
the workers' runs have every lane once, so that however they take turns, the lanes come in some
order; and all orders in all slices leave the matrix, and so the tag, that every number of threads
leaves. -/
theorem fill_any_order (g : Geometry) (matrix : Matrix g) :
    (∀ (threads : UInt32) (position : Position), g.contains position →
      ∃ filled : Matrix g, fillSegment ⟨g, threads, matrix⟩ position = .ok ⟨g, threads, filled⟩ ∧
        ∀ cell : Cell, cell.index < g.laneLength →
          (cell.lane = position.lane → cell.index < g.sliceStart position.slice ∨
            g.sliceStart position.slice + g.segmentLength ≤ cell.index) →
          filled.block cell = matrix.block cell) ∧
    (∀ pass slice : UInt32, pass < g.passes → slice < slices →
      ∃ filled : Matrix g, ∀ (threads : UInt32) (order : LaneOrder g),
        fillLanes pass slice ⟨g, threads, matrix⟩ order.lanes = .ok ⟨g, threads, filled⟩ ∧
          fillSlice ⟨g, threads, matrix⟩ pass slice = .ok ⟨g, threads, filled⟩) ∧
    (∀ threads : UInt32,
      let count := (workers g.lanes threads).toNat
      let shares := shares g.lanes.toNat count
      count ≤ max 1 threads.toNat ∧ SharesOut g.lanes.toNat count shares ∧
        (∀ batches : List (List UInt32), batches.Perm shares → Interleaves shares batches.flatten) ∧
        ∀ lanes : List UInt32, Interleaves shares lanes → lanes.Perm g.allLanes) ∧
    (∃ filled : Matrix g, ∀ (threads : UInt32) (orders : UInt32 → UInt32 → LaneOrder g),
      fillOrdered orders ⟨g, threads, matrix⟩ = .ok ⟨g, threads, filled⟩ ∧
        fillMemory ⟨g, threads, matrix⟩ = .ok ⟨g, threads, filled⟩) ∧
    ∀ (digest : Digest) (params : Params) (inputs : Inputs) (n : Nat) (threads : UInt32),
      hash digest { params with threads := threads } inputs n = hash digest params inputs n := by
  refine ⟨fun threads position contained => fillSegment_keeps threads contained matrix,
    fun pass slice passes within => exists_slice_filled passes within matrix, fun threads => ?_,
    exists_memory_filled matrix, hash_threads⟩
  have sharesOut := sharesOut_shares g.lanes.toNat (workers_pos g.lanes threads)
  refine ⟨workers_le g.lanes threads, sharesOut, fun batches => .flatten, fun lanes interleaves => ?_⟩
  have perm := interleaves.perm
  rwa [sharesOut.once] at perm

end Instance

end HeaderVault.Argon2
