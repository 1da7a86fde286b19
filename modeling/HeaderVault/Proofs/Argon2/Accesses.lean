import HeaderVault.Digest.Blake2b
import HeaderVault.Proofs.Argon2.Traversal

/-!
Which blocks a derivation reads and writes.

`Recorded` computations write down every access to the matrix. The filling of a segment, of the
matrix and a whole derivation are repeated as such computations, and nothing else about them changes
(`Recorded.result_fill`, `Recorded.result_hash`).

Where references are chosen from the position alone, the accesses of a segment have a closed form in
the geometry and the position (`Recorded.fill_eq`), in which the matrix does not occur: the word for
block `i` is word `i % 128` of the address block with number `1 + i / 128`. So what is accessed at
such positions in the course of a derivation says nothing about its inputs.
-/

namespace HeaderVault.Argon2

open Flat (Place Shape)

/-- The positions at which a variant chooses references from the position alone: all of them, or
those in the first two slices of the first pass. -/
def Variant.Independent (variant : Variant) (position : Position) : Prop :=
  variant = .independent ∨
    variant = .hybrid ∧ position.pass = 0 ∧ (position.slice = 0 ∨ position.slice = 1)

instance (variant : Variant) (position : Position) : Decidable (variant.Independent position) :=
  inferInstanceAs (Decidable (_ ∨ _))

/-- What a block is accessed for. -/
inductive Use where
  /-- The block before the one that is computed. -/
  | previous
  /-- The block that is referred to. -/
  | reference
  /-- What a later pass adds to. -/
  | former
  | written
  deriving DecidableEq, Repr

/-- An access to a block of the matrix while the segment at a position is filled. -/
structure Access where
  position : Position
  use : Use
  cell : Cell
  deriving DecidableEq, Repr

/-- A computation with the accesses it made. -/
@[ext]
structure Recorded (α : Type) where
  accesses : List Access
  result : Except Error α

namespace Recorded

variable {α β : Type}

/-- Nothing is accessed after an error. -/
def bind (first : Recorded α) (next : α → Recorded β) : Recorded β :=
  match first.result with
  | .ok value => ⟨first.accesses ++ (next value).accesses, (next value).result⟩
  | .error error => ⟨first.accesses, .error error⟩

instance : Monad Recorded where
  pure value := ⟨[], .ok value⟩
  bind := bind

/-- A computation without accesses. -/
def lift (result : Except Error α) : Recorded α := ⟨[], result⟩

theorem ok_bind (accesses : List Access) (value : α) (next : α → Recorded β) :
    (⟨accesses, .ok value⟩ : Recorded α) >>= next =
      ⟨accesses ++ (next value).accesses, (next value).result⟩ := rfl

theorem bind_of_ok {first : Recorded α} {value : α} (ok : first.result = .ok value)
    (next : α → Recorded β) :
    first >>= next = ⟨first.accesses ++ (next value).accesses, (next value).result⟩ := by
  obtain ⟨accesses, result⟩ := first
  cases ok
  rfl

instance : LawfulMonad Recorded := LawfulMonad.mk' Recorded
  (by
    rintro α ⟨accesses, _ | value⟩
    · rfl
    · exact congrArg (Recorded.mk · _) (List.append_nil accesses))
  (by intros; rfl)
  (by
    rintro α β γ ⟨accesses, _ | value⟩ next last
    · rfl
    · simp only [ok_bind]
      cases next value with
      | mk second result =>
          cases result with
          | error error => rfl
          | ok value => simp only [ok_bind, List.append_assoc])

/-- Without the accesses a computation is what it was. -/
theorem follows_result : Follows fun α (recorded : Recorded α) => recorded.result where
  pure _ := rfl
  bind first next := by
    obtain ⟨accesses, _ | value⟩ := first <;> rfl

/-! ### The filling, recorded -/

variable {g : Geometry} {position : Position} {index : UInt32}

/-- Reads a block, if the segment at a position may read it. -/
def read (position : Position) (use : Use) (matrix : Matrix g) (cell : Cell) : Recorded Block :=
  ⟨if g.available position cell then [⟨position, use, cell⟩] else [],
    Segment.read position matrix cell⟩

/-- Writes a block of the segment at a position; a later pass adds it to what is there. -/
def write (position : Position) (matrix : Matrix g) (cell : Cell) (block : Block) :
    Recorded (Matrix g) :=
  if position.pass == 0 then
    ⟨[⟨position, .written, cell⟩], .ok (matrix.set cell block)⟩
  else
    ⟨[⟨position, .former, cell⟩, ⟨position, .written, cell⟩],
      .ok (matrix.set cell ((matrix.block cell).xor block))⟩

/-- Computes block `index` of the segment. -/
def fillBlock (position : Position) (state : Segment.State g) (index : UInt32) :
    Recorded (Segment.State g) := do
  let ⟨matrix, addresses⟩ := state
  let previous ← read position .previous matrix ⟨position.lane, g.previousIndex position index⟩
  let addresses := Segment.advance g position index addresses
  let random := Segment.randomWord g position index addresses previous
  let reference ← read position .reference matrix (g.reference position index random)
  let matrix ← write position matrix ⟨position.lane, g.sliceStart position.slice + index⟩
    (Block.compress previous reference)
  return ⟨matrix, addresses⟩

/-- Fills the segment at a position. -/
def fill (matrix : Matrix g) (position : Position) : Recorded (Matrix g) := do
  lift (g.check position)
  let state ← (Segment.indices g position).foldlM (fillBlock position) ⟨matrix, Addresses.start⟩
  return state.matrix

/-- Derives `n` bytes. The first blocks of the lanes are written and the last ones are read in an
order that the geometry alone decides, which is not written down. -/
def hash (digest : Digest) (params : Params) (inputs : Inputs) (n : Nat) :
    Recorded (Octets n) := do
  let state ← lift (Instance.new digest params inputs n)
  let matrix ← traverse state.geometry state.threads fill state.matrix
  return (Instance.mk state.geometry state.threads matrix).finalize digest n

/-! ### The same results -/

theorem result_write (position : Position) (matrix : Matrix g) (cell : Cell) (block : Block) :
    (write position matrix cell block).result =
      .ok (matrix.set cell
        (if position.pass == 0 then block else (matrix.block cell).xor block)) := by
  unfold write
  split <;> rfl

theorem result_fillBlock (position : Position) (state : Segment.State g) (index : UInt32) :
    (fillBlock position state index).result = Segment.fillBlock position state index := by
  obtain ⟨matrix, addresses⟩ := state
  rw [fillBlock, Segment.fillBlock]
  simp only [follows_result.bind, result_write]
  rfl

theorem result_fill (matrix : Matrix g) (position : Position) :
    (fill matrix position).result = Segment.fill matrix position := by
  rw [fill, Segment.fill]
  simp only [follows_result.bind, follows_result.foldlM, result_fillBlock]
  rfl

theorem result_hash (digest : Digest) (params : Params) (inputs : Inputs) (n : Nat) :
    (hash digest params inputs n).result = Argon2.hash digest params inputs n := by
  rw [hash, Argon2.hash]
  simp only [follows_result.bind, follows_result.traverse, result_fill]
  refine bind_congr fun state => ?_
  obtain ⟨g, threads, matrix⟩ := state
  rw [Instance.fillMemory_eq_traverse, bind_map_left]
  rfl

/-! ### Where they are made -/

/-- All accesses are made for the segment at a position. -/
def MadeAt (position : Position) (recorded : Recorded α) : Prop :=
  ∀ access ∈ recorded.accesses, access.position = position

theorem madeAt_pure (position : Position) (value : α) : MadeAt position (pure value) :=
  fun _ none => absurd none List.not_mem_nil

theorem MadeAt.bind {first : Recorded α} {next : α → Recorded β} (here : first.MadeAt position)
    (there : ∀ value, (next value).MadeAt position) : (first >>= next).MadeAt position := by
  obtain ⟨accesses, _ | value⟩ := first
  · exact here
  · intro access mem
    rcases List.mem_append.mp mem with mem | mem
    · exact here access mem
    · exact there value access mem

theorem MadeAt.foldlM {σ : Type} {step : σ → α → Recorded σ}
    (each : ∀ state part, (step state part).MadeAt position) (list : List α) (state : σ) :
    (list.foldlM step state).MadeAt position := by
  induction list generalizing state with
  | nil => exact madeAt_pure position state
  | cons part rest ih => exact (each state part).bind fun next => ih next

theorem madeAt_read (position : Position) (use : Use) (matrix : Matrix g) (cell : Cell) :
    (read position use matrix cell).MadeAt position := by
  intro access mem
  simp only [read] at mem
  split at mem
  · rw [List.mem_singleton.mp mem]
  · cases mem

theorem madeAt_write (position : Position) (matrix : Matrix g) (cell : Cell) (block : Block) :
    (write position matrix cell block).MadeAt position := by
  intro access mem
  unfold write at mem
  split at mem <;> simp at mem
  · rw [mem]
  · rcases mem with rfl | rfl <;> rfl

theorem madeAt_fill (matrix : Matrix g) (position : Position) :
    (fill matrix position).MadeAt position := by
  refine MadeAt.bind (fun _ none => absurd none List.not_mem_nil) fun _ => ?_
  refine (MadeAt.foldlM (fun state index => ?_) _ _).bind fun _ => madeAt_pure position _
  obtain ⟨matrix, addresses⟩ := state
  refine (madeAt_read position _ matrix _).bind fun previous => ?_
  refine (madeAt_read position _ matrix _).bind fun reference => ?_
  exact (madeAt_write position matrix _ _).bind fun _ => madeAt_pure position _

end Recorded

/-! ### Addressed segments -/

namespace Geometry

/-- The word that chooses the reference of a block: word `i % 128` of address block `1 + i / 128`
of the segment. -/
def addressWord (g : Geometry) (position : Position) (index : UInt32) : UInt64 :=
  (g.shape.addressBlock (position.place 0) (1 + index.toNat / 128)).word (index.toNat % 128)

/-- What is accessed for a block whose reference is chosen from the position. -/
def blockAccesses (g : Geometry) (position : Position) (index : UInt32) : List Access :=
  let cell : Cell := ⟨position.lane, g.sliceStart position.slice + index⟩
  [⟨position, .previous, ⟨position.lane, g.previousIndex position index⟩⟩,
    ⟨position, .reference, g.reference position index (g.addressWord position index)⟩] ++
  if position.pass == 0 then [⟨position, .written, cell⟩]
  else [⟨position, .former, cell⟩, ⟨position, .written, cell⟩]

/-- What is accessed for a segment, block after block. -/
def segmentAccesses (g : Geometry) (position : Position) : List Access :=
  (Segment.indices g position).flatMap (g.blockAccesses position)

end Geometry

section

variable {g : Geometry} {position : Position} {index : UInt32}

/-- The word of a block does not come from the matrix. -/
theorem randomWord_eq_addressWord (addressed : g.addressed position) {addresses : Addresses}
    (ready : addresses.Ready g position index.toNat) (previous : Block) :
    Segment.randomWord g position index (Segment.advance g position index addresses) previous =
      g.addressWord position index := by
  have at_ := ready.advance addressed
  rw [Segment.randomWord, if_pos addressed, at_.2, UInt32.toNat_mod, Geometry.addressWord,
    Nat.add_comm 1]
  rfl

theorem Recorded.read_eq (use : Use) (matrix : Matrix g) {cell : Cell}
    (available : g.available position cell) :
    read position use matrix cell = ⟨[⟨position, use, cell⟩], .ok (matrix.block cell)⟩ := by
  rw [read, if_pos available, Segment.read_eq matrix available]

/-- One step: the accesses are those of the index, and the stream of addresses stays ready. -/
theorem Recorded.fillBlock_eq (addressed : g.addressed position)
    (computes : g.shape.Computes (position.place index)) (matrix : Matrix g)
    {addresses : Addresses} (first : Geometry.firstIndex position ≤ index)
    (ready : addresses.Ready g position index.toNat) :
    ∃ next : Segment.State g,
      fillBlock position ⟨matrix, addresses⟩ index =
          ⟨g.blockAccesses position index, .ok next⟩ ∧
        next.addresses.Ready g position (index.toNat + 1) := by
  obtain ⟨next, filled, -, later⟩ := Segment.fillBlock_eq computes matrix first ready
  have result := (result_fillBlock position ⟨matrix, addresses⟩ index).trans filled
  have previous := read_eq .previous matrix (Geometry.available_previous computes)
  have reference := read_eq .reference matrix
    (Geometry.available_reference computes (g.addressWord position index))
  have accesses : (fillBlock position ⟨matrix, addresses⟩ index).accesses =
      g.blockAccesses position index := by
    simp only [fillBlock, previous, reference, ok_bind, randomWord_eq_addressWord addressed ready]
    unfold write Geometry.blockAccesses
    split <;> rfl
  exact ⟨next, Recorded.ext accesses result, later⟩

/-- The blocks of a segment from one on. The induction is on their number. -/
theorem Recorded.foldlM_fillBlock (addressed : g.addressed position)
    (contained : g.contains position) (count : Nat) {start : Nat}
    (first : (Geometry.firstIndex position).toNat ≤ start)
    (within : start + count ≤ g.segmentLength.toNat) (matrix : Matrix g) {addresses : Addresses}
    (ready : addresses.Ready g position start) :
    ∃ last : Segment.State g,
      ((List.range' start count).map UInt32.ofNat).foldlM (fillBlock position) ⟨matrix, addresses⟩ =
        ⟨((List.range' start count).map UInt32.ofNat).flatMap (g.blockAccesses position),
          .ok last⟩ := by
  induction count generalizing start matrix addresses with
  | zero => exact ⟨_, rfl⟩
  | succ count ih =>
      obtain ⟨index, later, computes⟩ := Geometry.computes_ofNat contained first (by omega)
      obtain ⟨next, filled, ready⟩ := fillBlock_eq addressed computes matrix later (by rwa [index])
      rw [index] at ready
      obtain ⟨last, rest⟩ := ih (by omega) (by omega) next.matrix ready
      refine ⟨last, ?_⟩
      rw [List.range'_succ, List.map_cons, List.foldlM_cons, filled, ok_bind, List.flatMap_cons, rest]

theorem Recorded.fill_eq (addressed : g.addressed position) (contained : g.contains position)
    (matrix : Matrix g) :
    ∃ filled, Segment.fill matrix position = .ok filled ∧
      fill matrix position = ⟨g.segmentAccesses position, .ok filled⟩ := by
  have two := Geometry.firstIndex_le position
  have segment := g.segment_ge
  obtain ⟨last, done⟩ := foldlM_fillBlock addressed contained
    (g.segmentLength.toNat - (Geometry.firstIndex position).toNat) (Nat.le_refl _) (by omega) matrix
    (Addresses.ready_start g position)
  have run : fill matrix position = ⟨g.segmentAccesses position, .ok last.matrix⟩ := by
    rw [fill, Geometry.check, if_pos contained, lift, ok_bind, Segment.indices, done, ok_bind]
    exact Recorded.ext (List.append_nil _) rfl
  refine ⟨last.matrix, ?_, run⟩
  rw [← result_fill, run]

/-- A filling in which nothing is refused, with what it accesses at addressed positions. -/
theorem Recorded.foldlM_fill {positions : List Position}
    (contained : ∀ position ∈ positions, g.contains position) (matrix : Matrix g) :
    (∃ filled, (positions.foldlM fill matrix).result = .ok filled) ∧
      ((positions.foldlM fill matrix).accesses.filter fun access => g.addressed access.position) =
        (positions.filter g.addressed).flatMap g.segmentAccesses := by
  induction positions generalizing matrix with
  | nil => exact ⟨⟨matrix, rfl⟩, rfl⟩
  | cons position rest ih =>
      have inside := contained position List.mem_cons_self
      obtain ⟨next, done, -⟩ := Segment.fill_eq inside matrix
      have result := (result_fill matrix position).trans done
      have here := madeAt_fill matrix position
      obtain ⟨last, others⟩ := ih (fun other mem => contained other (List.mem_cons_of_mem _ mem)) next
      rw [List.foldlM_cons, bind_of_ok result]
      refine ⟨last, ?_⟩
      dsimp only
      rw [List.filter_append, others]
      -- all accesses of a segment are made at its position, so they stay or go together
      by_cases addressed : g.addressed position
      · have all : ∀ access ∈ (fill matrix position).accesses, g.addressed access.position = true :=
          fun access mem => by rw [here access mem, addressed]
        obtain ⟨_, -, run⟩ := fill_eq addressed inside matrix
        rw [List.filter_eq_self.mpr all, List.filter_cons_of_pos addressed, List.flatMap_cons, run]
      · have none : ∀ access ∈ (fill matrix position).accesses,
            ¬g.addressed access.position = true :=
          fun access mem => by rwa [here access mem]
        rw [List.filter_eq_nil_iff.mpr none, List.filter_cons_of_neg addressed, List.nil_append]

theorem Recorded.hash_eq (digest : Digest) (params : Params) (inputs : Inputs) {n : Nat}
    (length : 4 ≤ n ∧ n < UInt32.size) (salt : 8 ≤ inputs.salt.length) :
    (∃ tag, (hash digest params inputs n).result = .ok tag) ∧
      ((hash digest params inputs n).accesses.filter fun access =>
          (Geometry.ofParams params).addressed access.position) =
        ((Geometry.ofParams params).positions.filter (Geometry.ofParams params).addressed).flatMap
          (Geometry.ofParams params).segmentAccesses := by
  obtain ⟨matrix, begun⟩ := Instance.exists_new digest params inputs length salt
  have contained : ∀ position ∈ (Geometry.ofParams params).positions,
      (Geometry.ofParams params).contains position := fun _ => Geometry.mem_positions.mp
  obtain ⟨⟨filled, done⟩, accesses⟩ := foldlM_fill contained matrix
  rw [hash, begun, lift, ok_bind]
  dsimp only
  rw [traverse_eq, bind_of_ok done]
  refine ⟨⟨_, rfl⟩, ?_⟩
  rw [← accesses]
  exact congrArg _ (List.append_nil _)

theorem Geometry.addressed_iff : g.addressed position = true ↔ g.variant.Independent position := by
  have early : position.slice < 2 ↔ position.slice = 0 ∨ position.slice = 1 := by
    rw [UInt32.lt_iff_toNat_lt, ← UInt32.toNat_inj, ← UInt32.toNat_inj]
    change position.slice.toNat < 2 ↔ position.slice.toNat = 0 ∨ position.slice.toNat = 1
    omega
  unfold addressed Variant.Independent
  cases g.variant <;> simp [early]

theorem Geometry.references_segmentAccesses (g : Geometry) (position : Position) :
    ((g.segmentAccesses position).filter fun access => access.use = .reference).map Access.cell =
      (Segment.indices g position).map fun index =>
        g.reference position index (g.addressWord position index) := by
  have one : ∀ index, (g.blockAccesses position index).filter
      (fun access => access.use = .reference) =
        [⟨position, .reference, g.reference position index (g.addressWord position index)⟩] := by
    intro index
    unfold blockAccesses
    split <;> rfl
  rw [segmentAccesses, List.filter_flatMap, List.map_flatMap]
  simp only [one, List.map_cons, List.map_nil]
  exact List.map_eq_flatMap.symm

theorem Geometry.ofParams_congr {params other : Params} (variant : params.variant = other.variant)
    (memory : params.memory = other.memory) (passes : params.passes = other.passes)
    (lanes : params.lanes = other.lanes) : ofParams params = ofParams other := by
  unfold ofParams
  simp only [variant, memory, passes, lanes]

end

/-- Where references are chosen from the position alone, nothing that is accessed depends on the
contents of the matrix. The segments there are filled whatever the matrix holds, their accesses are
the same for all matrices, and the block that is referred to for index `i` is the one that word
`i % 128` of address block `1 + i / 128` stands for. So two derivations with the same variant,
memory, passes and lanes make the same accesses in the same order there, whatever their inputs, the
lengths of their tags and the numbers of their workers are. -/
theorem addressed_accesses_exact :
    (∀ (g : Geometry) (position : Position), g.contains position →
      g.variant.Independent position → ∀ matrix other : Matrix g,
        (∃ filled, Segment.fill matrix position = .ok filled ∧
          Recorded.fill matrix position = ⟨g.segmentAccesses position, .ok filled⟩) ∧
        (Recorded.fill matrix position).accesses = (Recorded.fill other position).accesses ∧
        (((Recorded.fill matrix position).accesses.filter fun access =>
            access.use = .reference).map Access.cell =
          (Segment.indices g position).map fun index =>
            g.reference position index
              ((g.shape.addressBlock (position.place 0) (1 + index.toNat / 128)).word
                (index.toNat % 128)))) ∧
      ∀ params other : Params, params.variant = other.variant → params.memory = other.memory →
        params.passes = other.passes → params.lanes = other.lanes →
        ∀ (digest : Digest) (first second : Inputs) (n k : Nat), 4 ≤ n ∧ n < UInt32.size →
          4 ≤ k ∧ k < UInt32.size → 8 ≤ first.salt.length → 8 ≤ second.salt.length →
          (∃ tag, hash digest params first n = .ok tag ∧
            (Recorded.hash digest params first n).result = .ok tag) ∧
          (∃ tag, hash digest other second k = .ok tag ∧
            (Recorded.hash digest other second k).result = .ok tag) ∧
          ((Recorded.hash digest params first n).accesses.filter fun access =>
              params.variant.Independent access.position) =
            ((Recorded.hash digest other second k).accesses.filter fun access =>
              params.variant.Independent access.position) := by
  constructor
  · intro g position contained independent matrix other
    have addressed := Geometry.addressed_iff.mpr independent
    obtain ⟨filled, done, run⟩ := Recorded.fill_eq addressed contained matrix
    obtain ⟨_, -, twin⟩ := Recorded.fill_eq addressed contained other
    refine ⟨⟨filled, done, run⟩, ?_, ?_⟩
    · rw [run, twin]
    · rw [run]
      exact g.references_segmentAccesses position
  · intro params other variant memory passes lanes digest first second n k length length' salt salt'
    have same := Geometry.ofParams_congr variant memory passes lanes
    obtain ⟨⟨tag, done⟩, accesses⟩ := Recorded.hash_eq digest params first length salt
    obtain ⟨⟨tag', done'⟩, accesses'⟩ := Recorded.hash_eq digest other second length' salt'
    have independent : ∀ access : Access, (Geometry.ofParams params).addressed access.position =
        decide (params.variant.Independent access.position) := fun access => by
      rw [Bool.eq_iff_iff, decide_eq_true_iff]
      exact Geometry.addressed_iff
    refine ⟨⟨tag, ?_, done⟩, ⟨tag', ?_, done'⟩, ?_⟩
    · rw [← Recorded.result_hash, done]
    · rw [← Recorded.result_hash, done']
    · simp only [← independent]
      rw [accesses, same, accesses']

/-- Two lanes of four segments with four blocks each. -/
def twoLanes (threads : UInt32) : Params :=
  ⟨.hybrid, 32, 1, 2, threads, by decide, by decide, by decide, by decide⟩

/-- A password and a salt that are made of one byte. -/
def Inputs.uniform (byte : UInt8) : Inputs := ⟨[byte], List.replicate 8 byte, [], []⟩

/-- With other passwords and salts, another number of workers and another length of the tag the
first half of the memory is accessed alike. -/
theorem addressed_accesses_twoLanes :
    (((Recorded.hash Digest.Blake2b.digest (twoLanes 1) (.uniform 1) 64).accesses.filter fun access =>
        Variant.hybrid.Independent access.position) =
      ((Recorded.hash Digest.Blake2b.digest (twoLanes 2) (.uniform 2) 32).accesses.filter fun access =>
        Variant.hybrid.Independent access.position)) ∧
    ∀ matrix other : Matrix (.ofParams (twoLanes 1)),
      (Recorded.fill matrix ⟨0, 1, 1⟩).accesses = (Recorded.fill other ⟨0, 1, 1⟩).accesses := by
  obtain ⟨segments, derivations⟩ := addressed_accesses_exact
  constructor
  · exact (derivations (twoLanes 1) (twoLanes 2) rfl rfl rfl rfl Digest.Blake2b.digest (.uniform 1)
      (.uniform 2) 64 32 (by decide) (by decide) (by decide) (by decide)).2.2
  · intro matrix other
    exact (segments (.ofParams (twoLanes 1)) ⟨0, 1, 1⟩ (by decide) (by decide) matrix other).2.1

end HeaderVault.Argon2
