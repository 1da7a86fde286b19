import HeaderVault.Argon2.Params

/-!
The shape of the memory matrix, and which block a new block refers to.

The matrix has one row of blocks, a lane, for each degree of parallelism, and every lane is cut into
four segments of equal length. A slice is the segments at one place in all lanes: they can be filled
side by side, because none of them is read by another (`Geometry.available`). `referenceIndex` maps
a random word to a block of a lane that is available, and the more likely the later it was written;
its arithmetic is that of 32-bit and 64-bit words.
-/

namespace HeaderVault.Argon2

/-- Slices of a pass. -/
def slices : UInt32 := 4

structure Geometry where
  variant : Variant
  passes : UInt32
  lanes : UInt32
  segmentLength : UInt32
  lanes_pos : 0 < lanes.toNat
  segment_ge : 2 ≤ segmentLength.toNat
  fits : 4 * segmentLength.toNat * lanes.toNat < UInt32.size

/-- Where a segment stands in the order of filling. -/
structure Position where
  pass : UInt32
  lane : UInt32
  slice : UInt32
  deriving DecidableEq, Repr

/-- A block of the matrix. -/
structure Cell where
  lane : UInt32
  index : UInt32
  deriving DecidableEq, Repr

namespace Geometry

/-- The matrix takes as many blocks as the memory allows, with equal segments. -/
def ofParams (params : Params) : Geometry where
  variant := params.variant
  passes := params.passes
  lanes := params.lanes
  segmentLength := params.memory / (params.lanes * slices)
  lanes_pos := params.lanes_pos
  segment_ge := by
    have pos := params.lanes_pos
    have le := params.lanes_le
    have enough := params.memory_le
    simp only [maxLanes] at le
    have product : (params.lanes * slices).toNat = params.lanes.toNat * 4 := by
      rw [UInt32.toNat_mul, slices]
      exact Nat.mod_eq_of_lt (by simp; omega)
    rw [UInt32.toNat_div, product, Nat.le_div_iff_mul_le (by omega)]
    omega
  fits := by
    have le := params.lanes_le
    simp only [maxLanes] at le
    have product : (params.lanes * slices).toNat = params.lanes.toNat * 4 := by
      rw [UInt32.toNat_mul, slices]
      exact Nat.mod_eq_of_lt (by simp; omega)
    rw [UInt32.toNat_div, product]
    have := Nat.div_mul_le_self params.memory.toNat (params.lanes.toNat * 4)
    rw [Nat.mul_comm 4, Nat.mul_assoc, Nat.mul_comm 4]
    exact Nat.lt_of_le_of_lt this params.memory.toNat_lt_size

def laneLength (g : Geometry) : UInt32 := g.segmentLength * slices

/-- All blocks of the matrix. -/
def blockCount (g : Geometry) : UInt32 := g.laneLength * g.lanes

/-- The positions of the filling order. -/
def contains (g : Geometry) (position : Position) : Bool :=
  position.pass < g.passes && position.lane < g.lanes && position.slice < slices

def check (g : Geometry) (position : Position) : Except Error Unit :=
  if g.contains position then
    .ok ()
  else
    .error (.derivation
      (.position position.pass position.lane position.slice g.passes g.lanes))

/-- The index of the first block of a slice. -/
def sliceStart (g : Geometry) (slice : UInt32) : UInt32 := slice * g.segmentLength

/-- Whether the segment at a position reads a block: its own lane as a whole, of another lane what
lies outside the slice that is being filled. -/
def available (g : Geometry) (position : Position) (cell : Cell) : Bool :=
  let start := g.sliceStart position.slice
  cell.lane < g.lanes && cell.index < g.laneLength &&
    (cell.lane == position.lane || cell.index < start || start + g.segmentLength ≤ cell.index)

/-- Whether references are chosen from the position alone. -/
def addressed (g : Geometry) (position : Position) : Bool :=
  match g.variant with
  | .independent => true
  | .dependent => false
  | .hybrid => position.pass == 0 && position.slice < 2

/-- The first block of a segment that is computed: the first two of a lane come from the inputs. -/
def firstIndex (position : Position) : UInt32 :=
  if position.pass == 0 && position.slice == 0 then 2 else 0

/-- The block before block `index` of the segment at a position, in the same lane. -/
def previousIndex (g : Geometry) (position : Position) (index : UInt32) : UInt32 :=
  let column := g.sliceStart position.slice + index
  if column == 0 then g.laneLength - 1 else column - 1

/-- How many blocks of a lane can be referred to from block `index` of the segment at a position. -/
def referenceArea (g : Geometry) (position : Position) (index : UInt32) (sameLane : Bool) :
    UInt32 :=
  let length := g.segmentLength
  let back : UInt32 := if index == 0 then 1 else 0
  if position.pass == 0 then
    if position.slice == 0 then index - 1
    else if sameLane then position.slice * length + index - 1
    else position.slice * length - back
  else if sameLane then g.laneLength - length + index - 1
  else g.laneLength - length - back

/-- The block of a lane that the lower half of a random word stands for. -/
def referenceIndex (g : Geometry) (position : Position) (index random : UInt32)
    (sameLane : Bool) : UInt32 :=
  let area : UInt64 := (g.referenceArea position index sameLane).toUInt64
  let x : UInt64 := (random.toUInt64 * random.toUInt64) >>> 32
  let past : UInt64 := (area * x) >>> 32
  let relative := area - 1 - past
  let start : UInt64 :=
    if position.pass != 0 && position.slice != slices - 1 then
      ((position.slice + 1) * g.segmentLength).toUInt64
    else
      0
  ((start + relative) % g.laneLength.toUInt64).toUInt32

/-- The lane that the upper half of a random word stands for; the first segments stay in their own.
-/
def referenceLane (g : Geometry) (position : Position) (random : UInt64) : UInt32 :=
  if position.pass == 0 && position.slice == 0 then position.lane
  else ((random >>> 32) % g.lanes.toUInt64).toUInt32

/-- The block that a random word stands for. -/
def reference (g : Geometry) (position : Position) (index : UInt32) (random : UInt64) : Cell :=
  let lane := g.referenceLane position random
  ⟨lane, g.referenceIndex position index random.toUInt32 (lane == position.lane)⟩

end Geometry

end HeaderVault.Argon2
