import HeaderVault.Error

/-!
The parameters of an Argon2 derivation: how blocks are addressed, and what the derivation costs.

`Params` can only hold usable costs. `Params.new` names the first cost that is not, in the order
lanes, passes, memory, and `Params.withThreads` brings a number of workers into range, on which no
output depends.
-/

namespace HeaderVault.Argon2

/-- How the block that a new block is mixed with is chosen. -/
inductive Variant where
  /-- From the contents of the matrix. -/
  | dependent
  /-- From the position alone. -/
  | independent
  /-- From the position in the first half of the first pass, from the contents after it. -/
  | hybrid
  deriving DecidableEq, Repr

/-- The number that stands for a variant in every hashed message. -/
def Variant.code : Variant → Nat
  | .dependent => 0
  | .independent => 1
  | .hybrid => 2

/-- The version of the algorithm. -/
def version : Nat := 0x13

/-- No more lanes than this. -/
def maxLanes : Nat := 0xffffff

/-- No more workers than this, whatever the number of lanes. -/
def maxThreads : UInt32 := 256

/-- A number of workers for a number of lanes: at least one, and no more than there are lanes or
workers at all. -/
def workers (lanes threads : UInt32) : UInt32 := max 1 (min threads (min lanes maxThreads))

structure Params where
  variant : Variant
  /-- In KiB, one block each. -/
  memory : UInt32
  passes : UInt32
  lanes : UInt32
  threads : UInt32
  lanes_pos : 0 < lanes.toNat
  lanes_le : lanes.toNat ≤ maxLanes
  passes_pos : 0 < passes.toNat
  memory_le : 8 * lanes.toNat ≤ memory.toNat
  deriving DecidableEq

namespace Params

/-- Parameters with one worker. -/
def new (variant : Variant) (memory passes lanes : UInt32) : Except Error Params :=
  if lanesOk : 0 < lanes.toNat ∧ lanes.toNat ≤ maxLanes then
    if passesOk : 0 < passes.toNat then
      if memoryOk : 8 * lanes.toNat ≤ memory.toNat then
        .ok ⟨variant, memory, passes, lanes, 1, lanesOk.1, lanesOk.2, passesOk, memoryOk⟩
      else
        .error (.invalidParams (.memoryPerLane memory))
    else
      .error (.invalidParams .noPass)
  else
    .error (.invalidParams (.laneCount lanes))

/-- Costs are kept as they are. -/
theorem eq_of_new {variant : Variant} {memory passes lanes : UInt32} {params : Params}
    (usable : new variant memory passes lanes = .ok params) :
    params.variant = variant ∧ params.memory = memory ∧ params.passes = passes ∧
      params.lanes = lanes := by
  unfold new at usable
  split at usable
  · split at usable
    · split at usable
      · cases usable
        exact ⟨rfl, rfl, rfl, rfl⟩
      · cases usable
    · cases usable
  · cases usable

/-- The same parameters with as many of the given workers as can be used. -/
def withThreads (params : Params) (threads : UInt32) : Params :=
  { params with threads := workers params.lanes threads }

end Params

end HeaderVault.Argon2
