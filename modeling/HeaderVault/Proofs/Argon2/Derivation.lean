import HeaderVault.Proofs.Argon2.Checked
import HeaderVault.Proofs.Argon2.Traversal

/-!
A derivation with every operation checked.

The functions of a derivation are repeated here from the first blocks to the tag, as in `Checked` those
of a segment: numbers must fit, blocks are looked up in their places, and a digest may refuse a
length. What a digest of up to 64 bytes refuses is never asked of it (`longHash_eq`), the memory of a
derivation can always be used (`geometry_eq`), and all look-ups succeed, so that a derivation is
refused for its inputs or not at all (`hash_eq`).
-/

namespace HeaderVault.Argon2.Checked

open Flat (Shape)

/-! ### Hashes of any length -/

/-- A digest of any length of a message, which it may refuse to give. -/
abbrev PartialDigest := (n : Nat) → Bytes → Checked (Octets n)

/-- The digest that gives from one to 64 bytes. -/
def limited (digest : Digest) : PartialDigest := fun n message =>
  if 1 ≤ n ∧ n ≤ 64 then .ok (digest n message)
  else .error (.refused (.derivation (.external s!"invalid BLAKE2b output length {n}")))

/-- The last `n` bytes, from the link of the chain before them. -/
def longRest (digest : PartialDigest) (n : Nat) (link : Octets 64) : Checked Bytes :=
  if n ≤ 64 then do
    return (← digest n link.toList).toList
  else do
    let next ← digest 64 link.toList
    return next.toList.take 32 ++ (← longRest digest (n - 32) next)
termination_by n

def longBytes (digest : PartialDigest) (n : Nat) (message : Bytes) : Checked Bytes :=
  let message := Bytes.ofNatLE 4 n ++ message
  if n ≤ 64 then do
    return (← digest n message).toList
  else do
    let first ← digest 64 message
    return first.toList.take 32 ++ (← longRest digest (n - 32) first)

/-- The hash of `n` bytes, which must be as many as there is room for. -/
def longHash (digest : PartialDigest) (n : Nat) (message : Bytes) : Checked (Octets n) := do
  let bytes ← longBytes digest n message
  if exact : bytes.length = n then
    return ⟨bytes.toArray, by simpa using exact⟩
  else
    throw .aborted

/-! ### A derivation -/

def div32 (a b : UInt32) : Checked UInt32 :=
  if b = 0 then .error .aborted else .ok (a / b)

/-- The shape of the memory, which must be one that can be filled. -/
def geometry (params : Params) : Checked Geometry := do
  let segmentLength ← div32 params.memory (← mul32 params.lanes slices)
  let _ ← mul32 (← mul32 segmentLength slices) params.lanes
  if usable : 0 < params.lanes.toNat ∧ 2 ≤ segmentLength.toNat ∧
      4 * segmentLength.toNat * params.lanes.toNat < UInt32.size then
    return ⟨params.variant, params.passes, params.lanes, segmentLength, usable.1, usable.2.1,
      usable.2.2⟩
  else
    throw (.refused (.derivation (.external "instance has no usable memory")))

variable {g : Geometry}

/-- Where a cell stands among all blocks. -/
def offset (g : Geometry) (cell : Cell) : Checked UInt32 := do
  add32 (← mul32 cell.lane g.laneLength) cell.index

/-- Writes one of the first blocks of a lane. -/
def writeFirst (digest : PartialDigest) (initial : Octets 64) (matrix : Matrix g) (cell : Cell) :
    Checked (Matrix g) := do
  let bytes ← longHash digest 1024 (cellMessage initial cell)
  let place ← offset g cell
  if inside : place.toNat < g.blockCount.toNat then
    return Vector.set matrix place.toNat (Block.ofBytes bytes)
  else
    throw .aborted

def new (digest : PartialDigest) (params : Params) (inputs : Inputs) (n : Nat) :
    Checked Instance :=
  if n < 4 ∨ UInt32.size ≤ n then
    .error (.refused (.invalidParams (.outputLength n)))
  else if inputs.salt.length < 8 then
    .error (.refused (.invalidParams .saltLength))
  else do
    let g ← geometry params
    let initial ← digest 64 (initialMessage params inputs n)
    let matrix ← (firstCells g).foldlM (writeFirst digest initial) (Matrix.zero g)
    return ⟨g, params.threads, matrix⟩

def fillSegment (matrix : Matrix g) (position : Position) : Checked (Matrix g) :=
  match fill matrix position with
  | (filled, .ok ()) => .ok filled
  | (_, .error halt) => .error halt

/-- Fills the memory; the number of workers must have room between one and its bound. -/
def fillMemory (state : Instance) : Checked Instance :=
  if min state.geometry.lanes maxThreads < 1 then
    .error .aborted
  else do
    let matrix ← traverse state.geometry state.threads fillSegment state.matrix
    return ⟨state.geometry, state.threads, matrix⟩

/-- The block in a cell, which must be one of the matrix. -/
def block (matrix : Matrix g) (cell : Cell) : Checked Block :=
  match matrix[Matrix.place g cell]? with
  | some block => .ok block
  | none => .error .aborted

def lastBlock (state : Instance) : Checked Block := do
  let last ← sub32 state.geometry.laneLength 1
  (List.range (state.geometry.lanes.toNat - 1)).foldlM
    (fun sum lane => do return sum.xor (← block state.matrix ⟨.ofNat (lane + 1), last⟩))
    (← block state.matrix ⟨0, last⟩)

/-- Derives `n` bytes. -/
def hash (digest : PartialDigest) (params : Params) (inputs : Inputs) (n : Nat) :
    Checked (Octets n) := do
  let state ← new digest params inputs n
  let state ← fillMemory state
  longHash digest n (← lastBlock state).toBytes

/-! ### Hashes are given -/

theorem limited_eq (digest : Digest) {n : Nat} (pos : 1 ≤ n) (le : n ≤ 64) (message : Bytes) :
    limited digest n message = .ok (digest n message) :=
  if_pos ⟨pos, le⟩

theorem longRest_eq (digest : Digest) {n : Nat} (pos : 1 ≤ n) (link : Octets 64) :
    longRest (limited digest) n link = .ok (LongHash.rest digest n link) := by
  fun_induction LongHash.rest digest n link with
  | case1 n link short =>
      rw [longRest, if_pos short, limited_eq digest pos short]
      rfl
  | case2 n link long next ih =>
      rw [longRest, if_neg long, limited_eq digest (by decide) (by decide), ok_bind,
        ih (by omega)]
      rfl

theorem longBytes_eq (digest : Digest) {n : Nat} (pos : 1 ≤ n) (message : Bytes) :
    longBytes (limited digest) n message = .ok (LongHash.bytes digest n message) := by
  unfold longBytes LongHash.bytes
  dsimp only
  split
  · next short =>
    rw [limited_eq digest pos short]
    rfl
  · next long =>
    rw [limited_eq digest (by decide) (by decide), ok_bind, longRest_eq digest (by omega)]
    rfl

/-- The digests of a chain have 64 bytes, and the last one what is still missing. -/
theorem longHash_eq (digest : Digest) {n : Nat} (pos : 1 ≤ n) (message : Bytes) :
    longHash (limited digest) n message = .ok (LongHash.hash digest n message) := by
  rw [longHash, longBytes_eq digest pos, ok_bind, dif_pos (LongHash.length_bytes digest n message)]
  rfl

/-! ### The memory can be used -/

theorem div32_eq {a b : UInt32} (pos : 0 < b.toNat) : div32 a b = .ok (a / b) := by
  refine if_neg ?_
  rintro rfl
  exact Nat.lt_irrefl 0 pos

theorem share_fits (params : Params) : params.lanes.toNat * slices.toNat < UInt32.size := by
  have four : slices.toNat = 4 := rfl
  have size : UInt32.size = 4294967296 := rfl
  have limit : maxLanes = 16777215 := rfl
  have le := params.lanes_le
  rw [four]
  omega

theorem laneLength_fits (g : Geometry) : g.segmentLength.toNat * slices.toNat < UInt32.size := by
  have small := g.laneLength_lt
  rwa [Geometry.shape, Shape.laneLength, Nat.mul_comm] at small

theorem blockCount_fits (g : Geometry) : g.laneLength.toNat * g.lanes.toNat < UInt32.size := by
  rw [g.toNat_laneLength]
  exact g.fits

/-- Whatever the costs are, the memory they allow can be filled. -/
theorem geometry_eq (params : Params) : geometry params = .ok (Geometry.ofParams params) := by
  have small := share_fits params
  have share : 0 < (params.lanes * slices).toNat := by
    rw [toNat_mul_of_lt small]
    exact Nat.mul_pos params.lanes_pos (by decide)
  have lane := mul32_eq (laneLength_fits (Geometry.ofParams params))
  have memory := mul32_eq (blockCount_fits (Geometry.ofParams params))
  rw [geometry, mul32_eq small, ok_bind, div32_eq share, ok_bind]
  -- the quotient is the length of a segment, and its products are those of the geometry
  change (mul32 (Geometry.ofParams params).segmentLength slices >>= _) = _
  rw [lane, ok_bind]
  change (mul32 (Geometry.ofParams params).laneLength (Geometry.ofParams params).lanes >>= _) = _
  rw [memory, ok_bind, dif_pos ⟨params.lanes_pos, (Geometry.ofParams params).segment_ge,
    (Geometry.ofParams params).fits⟩]
  rfl

/-! ### All blocks are there -/

theorem place_lt {cell : Cell} (lane : cell.lane < g.lanes) (index : cell.index < g.laneLength) :
    Matrix.place g cell < g.blockCount.toNat := by
  rw [UInt32.lt_iff_toNat_lt] at lane index
  have rows := Nat.mul_le_mul_right g.laneLength.toNat (Nat.succ_le_of_lt lane)
  have count : g.blockCount.toNat = g.lanes.toNat * g.laneLength.toNat := by
    rw [g.toNat_blockCount, g.toNat_laneLength]
    rfl
  rw [Nat.succ_mul] at rows
  rw [Matrix.place, count]
  omega

theorem exists_offset {cell : Cell} (lane : cell.lane < g.lanes)
    (index : cell.index < g.laneLength) :
    ∃ place, offset g cell = .ok place ∧ place.toNat = Matrix.place g cell := by
  have inside := place_lt lane index
  have small := g.blockCount.toNat_lt_size
  rw [Matrix.place] at inside
  have front : cell.lane.toNat * g.laneLength.toNat < UInt32.size := by omega
  have value := toNat_mul_of_lt front
  have fits : (cell.lane * g.laneLength).toNat + cell.index.toNat < UInt32.size := by omega
  refine ⟨cell.lane * g.laneLength + cell.index, ?_, ?_⟩
  · rw [offset, mul32_eq front, ok_bind, add32_eq fits]
  · rw [toNat_add_of_lt fits, value, Matrix.place]

/-- A loop all of whose steps have values. -/
theorem foldlM_ok {σ α : Type} {step : σ → α → Checked σ} {next : σ → α → σ} {list : List α}
    (each : ∀ part ∈ list, ∀ state, step state part = .ok (next state part)) (state : σ) :
    list.foldlM step state = .ok (list.foldl next state) := by
  induction list generalizing state with
  | nil => rfl
  | cons part rest ih =>
      rw [List.foldlM_cons, each part List.mem_cons_self, ok_bind, List.foldl_cons]
      exact ih (fun other mem => each other (List.mem_cons_of_mem _ mem)) _

theorem writeFirst_eq (digest : Digest) (initial : Octets 64) (matrix : Matrix g) {cell : Cell}
    (lane : cell.lane < g.lanes) (index : cell.index < g.laneLength) :
    writeFirst (limited digest) initial matrix cell =
      .ok (matrix.set cell (firstBlock digest initial cell)) := by
  have inside := place_lt lane index
  obtain ⟨place, computed, value⟩ := exists_offset lane index
  rw [writeFirst, longHash_eq digest (by decide), ok_bind, computed, ok_bind,
    dif_pos (by rwa [value]), Matrix.set, setIfInBounds_of_lt matrix inside]
  simp only [value]
  rfl

theorem mem_firstCells {cell : Cell} (mem : cell ∈ firstCells g) :
    cell.lane < g.lanes ∧ cell.index < g.laneLength := by
  have segment := g.segment_ge
  have length : g.laneLength.toNat = 4 * g.segmentLength.toNat := g.toNat_laneLength
  obtain ⟨lane, within, mem⟩ := List.mem_flatMap.mp mem
  have lane : UInt32.ofNat lane < g.lanes := Geometry.mem_allLanes.mp (List.mem_map_of_mem within)
  have long : ∀ index : UInt32, index.toNat ≤ 1 → index < g.laneLength := fun index small => by
    rw [UInt32.lt_iff_toNat_lt]
    omega
  rcases List.mem_cons.mp mem with rfl | mem
  · exact ⟨lane, long 0 (by decide)⟩
  · rw [List.mem_singleton.mp mem]
    exact ⟨lane, long 1 (by decide)⟩

theorem foldlM_writeFirst (digest : Digest) (initial : Octets 64) (matrix : Matrix g) :
    (firstCells g).foldlM (writeFirst (limited digest) initial) matrix =
      .ok ((firstCells g).foldl
        (fun matrix cell => matrix.set cell (firstBlock digest initial cell)) matrix) := by
  refine foldlM_ok (fun cell mem matrix => ?_) matrix
  obtain ⟨lane, index⟩ := mem_firstCells mem
  exact writeFirst_eq digest initial matrix lane index

theorem new_eq (digest : Digest) (params : Params) (inputs : Inputs) (n : Nat) :
    new (limited digest) params inputs n = refusing (Instance.new digest params inputs n) := by
  unfold new Instance.new
  split
  · rfl
  split
  · rfl
  rw [geometry_eq, ok_bind, limited_eq digest (by decide) (by decide), ok_bind,
    foldlM_writeFirst]
  rfl

theorem follows_refusing : Follows fun α (result : Except Error α) => refusing result where
  pure _ := rfl
  bind first next := by cases first <;> rfl

theorem fillSegment_eq (matrix : Matrix g) (position : Position) :
    fillSegment matrix position = refusing (Segment.fill matrix position) := by
  rw [fillSegment, fill_eq]
  cases Segment.fill matrix position <;> rfl

theorem fillMemory_eq (state : Instance) : fillMemory state = refusing state.fillMemory := by
  obtain ⟨g, threads, matrix⟩ := state
  have some : 1 ≤ g.lanes := UInt32.le_iff_toNat_le.mpr g.lanes_pos
  have room : ¬min g.lanes maxThreads < 1 := by
    change ¬(if g.lanes ≤ maxThreads then g.lanes else maxThreads) < 1
    split
    · exact UInt32.not_lt.mpr some
    · decide
  rw [fillMemory, if_neg room, Instance.fillMemory_eq_traverse]
  have filled := follows_refusing.traverse threads Segment.fill matrix
  simp only [← fillSegment_eq] at filled
  have mapped := follows_refusing.bind (traverse g threads Segment.fill matrix) fun matrix =>
    pure (Instance.mk g threads matrix)
  rw [← bind_pure_comp]
  refine Eq.trans ?_ mapped.symm
  rw [filled]
  rfl

theorem block_eq (matrix : Matrix g) {cell : Cell} (lane : cell.lane < g.lanes)
    (index : cell.index < g.laneLength) : block matrix cell = .ok (matrix.block cell) := by
  rw [block, Matrix.block, Vector.getElem?_eq_getElem (place_lt lane index)]
  rfl

theorem lastBlock_eq (state : Instance) : lastBlock state = .ok state.lastBlock := by
  obtain ⟨g, threads, matrix⟩ := state
  have segment := g.segment_ge
  have length : g.laneLength.toNat = 4 * g.segmentLength.toNat := g.toNat_laneLength
  have one : (1 : UInt32).toNat = 1 := rfl
  have some : (1 : UInt32).toNat ≤ g.laneLength.toNat := by omega
  have last : g.laneLength - 1 < g.laneLength := by
    rw [UInt32.lt_iff_toNat_lt, toNat_sub_of_toNat_le some]
    omega
  have lane : ∀ n < g.lanes.toNat, UInt32.ofNat n < g.lanes := fun n within =>
    Geometry.mem_allLanes.mp (List.mem_map_of_mem (List.mem_range.mpr within))
  rw [lastBlock, sub32_eq some, ok_bind, block_eq matrix (lane 0 g.lanes_pos) last, ok_bind]
  refine foldlM_ok (fun n mem sum => ?_) _
  have within : n + 1 < g.lanes.toNat := by
    have below : n < g.lanes.toNat - 1 := List.mem_range.mp mem
    omega
  rw [block_eq matrix (lane (n + 1) within) last]
  rfl

/-- A derivation is refused for its inputs or not at all: every number fits, every block is there,
and no digest of a length that there is none of is asked for. -/
theorem hash_eq (digest : Digest) (params : Params) (inputs : Inputs) (n : Nat) :
    hash (limited digest) params inputs n = refusing (Argon2.hash digest params inputs n) := by
  by_cases pos : 1 ≤ n
  · rw [hash, Argon2.hash, new_eq]
    simp only [fillMemory_eq, lastBlock_eq, ok_bind, longHash_eq digest pos, follows_refusing.bind]
    rfl
  · have refused : n < 4 ∨ UInt32.size ≤ n := .inl (by omega)
    rw [hash, new, if_pos refused, Argon2.hash, Instance.new, if_pos refused]
    rfl

end HeaderVault.Argon2.Checked
