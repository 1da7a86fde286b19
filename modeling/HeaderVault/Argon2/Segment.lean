import HeaderVault.Argon2.Block
import HeaderVault.Argon2.Geometry

/-!
Filling one segment of the memory matrix.

Every block is compressed from the block before it and from a reference block, which a random word
chooses. The word is the first one of the block before, or comes from a stream of address blocks
that depend on the position alone (`Addresses`). The first pass writes a block, later passes add it
to what was there.
-/

namespace HeaderVault.Argon2

open HeaderVault.Digest

/-- The blocks of all lanes, lane after lane. -/
abbrev Matrix (g : Geometry) := Vector Block g.blockCount.toNat

namespace Matrix

variable {g : Geometry}

def zero (g : Geometry) : Matrix g := Vector.replicate _ Block.zero

def place (g : Geometry) (cell : Cell) : Nat :=
  cell.lane.toNat * g.laneLength.toNat + cell.index.toNat

def block (matrix : Matrix g) (cell : Cell) : Block :=
  matrix[place g cell]?.getD Block.zero

def set (matrix : Matrix g) (cell : Cell) (block : Block) : Matrix g :=
  matrix.setIfInBounds (place g cell) block

end Matrix

/-! ### Addresses -/

/-- A stream of random words, 128 in a block, that depends on a position alone. -/
structure Addresses where
  /-- Blocks made so far. -/
  count : UInt64
  block : Block

namespace Addresses

def start : Addresses := ⟨0, Block.zero⟩

/-- The block from which address block number `count` is made. -/
def input (g : Geometry) (position : Position) (count : UInt64) : Block :=
  { Block.zero with
    r0 := Words16.ofList
      [position.pass.toUInt64, position.lane.toUInt64, position.slice.toUInt64,
        g.blockCount.toUInt64, g.passes.toUInt64, UInt64.ofNat g.variant.code, count] }

def next (addresses : Addresses) (g : Geometry) (position : Position) : Addresses :=
  let count := addresses.count + 1
  ⟨count, Block.compress Block.zero (Block.compress Block.zero (input g position count))⟩

end Addresses

/-! ### Blocks -/

namespace Segment

variable {g : Geometry}

/-- A matrix in the course of filling a segment. -/
structure State (g : Geometry) where
  matrix : Matrix g
  addresses : Addresses

/-- The block in a cell, if the segment at a position may read it. -/
def read (position : Position) (matrix : Matrix g) (cell : Cell) : Except Error Block :=
  if g.available position cell then .ok (matrix.block cell)
  else .error (.derivation (.blockInUse cell.index cell.lane))

/-- The address stream when block `index` is to be computed. -/
def advance (g : Geometry) (position : Position) (index : UInt32) (addresses : Addresses) :
    Addresses :=
  if g.addressed position && (index == Geometry.firstIndex position || index % 128 == 0) then
    addresses.next g position
  else
    addresses

/-- The random word for block `index`. -/
def randomWord (g : Geometry) (position : Position) (index : UInt32) (addresses : Addresses)
    (previous : Block) : UInt64 :=
  if g.addressed position then addresses.block.word (index % 128).toNat else previous.word 0

/-- Computes block `index` of the segment. -/
def fillBlock (position : Position) (state : State g) (index : UInt32) :
    Except Error (State g) := do
  let ⟨matrix, addresses⟩ := state
  let previous ← read position matrix ⟨position.lane, g.previousIndex position index⟩
  let addresses := advance g position index addresses
  let random := randomWord g position index addresses previous
  let reference ← read position matrix (g.reference position index random)
  let block := Block.compress previous reference
  let cell : Cell := ⟨position.lane, g.sliceStart position.slice + index⟩
  let block := if position.pass == 0 then block else (matrix.block cell).xor block
  return ⟨matrix.set cell block, addresses⟩

/-- The blocks of a segment that are computed, in their order. -/
def indices (g : Geometry) (position : Position) : List UInt32 :=
  let first := (Geometry.firstIndex position).toNat
  (List.range' first (g.segmentLength.toNat - first)).map UInt32.ofNat

/-- Fills the segment at a position. -/
def fill (matrix : Matrix g) (position : Position) : Except Error (Matrix g) := do
  g.check position
  let state ← (indices g position).foldlM (fillBlock position) ⟨matrix, Addresses.start⟩
  return state.matrix

end Segment

end HeaderVault.Argon2
