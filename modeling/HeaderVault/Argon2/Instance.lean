import HeaderVault.Argon2.LongHash
import HeaderVault.Argon2.Segment

/-!
A derivation from its inputs to its tag.

All inputs are hashed as one message of numbers and byte strings, each string after its length, so
no two sets of inputs give the same message. From that hash come the first two blocks of every lane;
the rest of the matrix is filled pass by pass and slice by slice, and the tag is the hash of the sum
of the last blocks. The lanes of a slice are shared out among the workers in runs of equal length.
-/

namespace HeaderVault.Argon2

/-- What a derivation takes besides its parameters. -/
structure Inputs where
  password : Bytes
  salt : Bytes
  secret : Bytes
  associated : Bytes
  deriving DecidableEq, Repr

/-- A matrix with the number of workers that fill it. -/
structure Instance where
  geometry : Geometry
  threads : UInt32
  matrix : Matrix geometry

/-! ### The first blocks -/

/-- A byte string after its length. -/
def lengthPrefixed (bytes : Bytes) : Bytes := Bytes.ofNatLE 4 bytes.length ++ bytes

/-- The message that stands for all inputs of a derivation of `n` bytes. -/
def initialMessage (params : Params) (inputs : Inputs) (n : Nat) : Bytes :=
  Bytes.ofUInt32 params.lanes ++ Bytes.ofNatLE 4 n ++ Bytes.ofUInt32 params.memory ++
    Bytes.ofUInt32 params.passes ++ Bytes.ofNatLE 4 version ++
    Bytes.ofNatLE 4 params.variant.code ++ lengthPrefixed inputs.password ++
    lengthPrefixed inputs.salt ++ lengthPrefixed inputs.secret ++ lengthPrefixed inputs.associated

/-- The message for one of the first blocks of a lane. -/
def cellMessage (initial : Octets 64) (cell : Cell) : Bytes :=
  initial.toList ++ Bytes.ofUInt32 cell.index ++ Bytes.ofUInt32 cell.lane

def firstBlock (digest : Digest) (initial : Octets 64) (cell : Cell) : Block :=
  Block.ofBytes (LongHash.hash digest 1024 (cellMessage initial cell))

/-- The first two cells of every lane. -/
def firstCells (g : Geometry) : List Cell :=
  (List.range g.lanes.toNat).flatMap fun lane => [⟨.ofNat lane, 0⟩, ⟨.ofNat lane, 1⟩]

namespace Instance

/-- The matrix after the first two blocks of every lane, for a tag of `n` bytes. -/
def new (digest : Digest) (params : Params) (inputs : Inputs) (n : Nat) :
    Except Error Instance :=
  if n < 4 ∨ UInt32.size ≤ n then
    .error (.invalidParams (.outputLength n))
  else if inputs.salt.length < 8 then
    .error (.invalidParams .saltLength)
  else
    let g := Geometry.ofParams params
    let initial := digest 64 (initialMessage params inputs n)
    let matrix := (firstCells g).foldl
      (fun matrix cell => matrix.set cell (firstBlock digest initial cell)) (Matrix.zero g)
    .ok ⟨g, params.threads, matrix⟩

/-! ### Filling -/

/-- Fills one segment; those of a slice can be filled in any order. -/
def fillSegment (state : Instance) (position : Position) : Except Error Instance := do
  let ⟨g, threads, matrix⟩ := state
  return ⟨g, threads, ← Segment.fill matrix position⟩

/-- The lanes of each worker: runs of equal length, the last ones shorter or empty. -/
def shares (lanes threads : Nat) : List (List UInt32) :=
  let length := (lanes + threads - 1) / threads
  (List.range threads).map fun worker =>
    (List.range' (worker * length) (min length (lanes - worker * length))).map UInt32.ofNat

/-- Fills the given lanes of a slice. -/
def fillLanes (pass slice : UInt32) (state : Instance) (lanes : List UInt32) :
    Except Error Instance :=
  lanes.foldlM (fun state lane => state.fillSegment ⟨pass, lane, slice⟩) state

def fillSlice (state : Instance) (pass slice : UInt32) : Except Error Instance :=
  let lanes := state.geometry.lanes
  (shares lanes.toNat (workers lanes state.threads).toNat).foldlM (fillLanes pass slice) state

/-- Runs every pass and slice. -/
def fillMemory (state : Instance) : Except Error Instance :=
  (List.range state.geometry.passes.toNat).foldlM
    (fun state pass =>
      (List.range slices.toNat).foldlM
        (fun state slice => state.fillSlice (.ofNat pass) (.ofNat slice)) state)
    state

/-! ### The tag -/

/-- The sum of the last blocks of all lanes. -/
def lastBlock (state : Instance) : Block :=
  let last := state.geometry.laneLength - 1
  (List.range (state.geometry.lanes.toNat - 1)).foldl
    (fun sum lane => sum.xor (state.matrix.block ⟨.ofNat (lane + 1), last⟩))
    (state.matrix.block ⟨0, last⟩)

/-- The tag of `n` bytes. -/
def finalize (digest : Digest) (state : Instance) (n : Nat) : Octets n :=
  LongHash.hash digest n state.lastBlock.toBytes

end Instance

/-- Derives `n` bytes. -/
def hash (digest : Digest) (params : Params) (inputs : Inputs) (n : Nat) :
    Except Error (Octets n) := do
  let state ← Instance.new digest params inputs n
  let state ← state.fillMemory
  return state.finalize digest n

end HeaderVault.Argon2
