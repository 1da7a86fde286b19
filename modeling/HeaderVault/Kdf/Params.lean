import HeaderVault.Argon2.Params

/-!
The key derivations a header can name, and their costs.

`KdfParams` holds usable costs only. The legacy derivation asks for at least one iteration and
ignores the other two costs; `KdfParams.new` names the first cost that cannot be used, in the order
time, lanes, memory.
-/

namespace HeaderVault

inductive KdfAlgorithm where
  /-- The iterated derivation of volumes that are older than Argon2. -/
  | pbkdf2
  | argon2 (variant : Argon2.Variant)
  deriving DecidableEq, Repr

namespace KdfAlgorithm

def all : List KdfAlgorithm :=
  [.pbkdf2, .argon2 .dependent, .argon2 .independent, .argon2 .hybrid]

/-- The number that stands for an algorithm in a header. -/
def id : KdfAlgorithm → UInt8
  | .pbkdf2 => 1
  | .argon2 .dependent => 2
  | .argon2 .independent => 3
  | .argon2 .hybrid => 4

def ofId? (id : UInt8) : Option KdfAlgorithm := all.find? fun algorithm => algorithm.id = id

theorem ofId?_id (algorithm : KdfAlgorithm) : ofId? algorithm.id = some algorithm := by
  rcases algorithm with _ | variant
  · rfl
  · cases variant <;> rfl

theorem id_of_ofId? {id : UInt8} {algorithm : KdfAlgorithm} (known : ofId? id = some algorithm) :
    algorithm.id = id := by
  simpa using List.find?_some known

def name : KdfAlgorithm → String
  | .pbkdf2 => "pbkdf2-sha512"
  | .argon2 .dependent => "argon2d"
  | .argon2 .independent => "argon2i"
  | .argon2 .hybrid => "argon2id"

/-- The name in texts for programmers. -/
def describe : KdfAlgorithm → String
  | .pbkdf2 => "Pbkdf2Sha512"
  | .argon2 .dependent => "Argon2d"
  | .argon2 .independent => "Argon2i"
  | .argon2 .hybrid => "Argon2id"

/-- Whether memory and lanes count. -/
def usesMemory : KdfAlgorithm → Bool
  | .pbkdf2 => false
  | .argon2 _ => true

end KdfAlgorithm

/-- An algorithm with its costs; the memory is in KiB. -/
structure KdfParams where
  algorithm : KdfAlgorithm
  memory : UInt32
  time : UInt32
  lanes : UInt32
  one_le_time : 1 ≤ time.toNat
  lanes_ok : algorithm.usesMemory → 0 < lanes.toNat ∧ lanes.toNat ≤ Argon2.maxLanes
  memory_ok : algorithm.usesMemory → 8 * lanes.toNat ≤ memory.toNat
  deriving DecidableEq

namespace KdfParams

def new (algorithm : KdfAlgorithm) (memory time lanes : UInt32) : Except ParamsFault KdfParams :=
  if timeOk : 1 ≤ time.toNat then
    if lanesOk : algorithm.usesMemory → 0 < lanes.toNat ∧ lanes.toNat ≤ Argon2.maxLanes then
      if memoryOk : algorithm.usesMemory → 8 * lanes.toNat ≤ memory.toNat then
        .ok ⟨algorithm, memory, time, lanes, timeOk, lanesOk, memoryOk⟩
      else
        .error .memoryCost
    else
      .error (.parallelism lanes)
  else
    .error .timeCost

/-- The hybrid variant with the given costs. -/
def argon2id (memory time lanes : UInt32) : Except ParamsFault KdfParams :=
  new (.argon2 .hybrid) memory time lanes

/-- The legacy derivation, of which only the number of iterations counts. -/
def iterated (iterations : UInt32) : Except ParamsFault KdfParams := new .pbkdf2 0 iterations 1

/-- What a new volume gets unless told otherwise: 64 MiB, three passes, four lanes. -/
def standard : KdfParams where
  algorithm := .argon2 .hybrid
  memory := 65536
  time := 3
  lanes := 4
  one_le_time := by decide
  lanes_ok := fun _ => by decide
  memory_ok := fun _ => by decide

/-- Whether parameters should give way to recommended ones: every algorithm but the hybrid variant
does, and so do less memory and fewer passes. -/
def isOutdated (params recommended : KdfParams) : Bool :=
  params.algorithm != .argon2 .hybrid || params.memory < recommended.memory ||
    params.time < recommended.time

/-- The text shown to the operator. -/
def display (params : KdfParams) : String :=
  let name := params.algorithm.name
  match params.algorithm with
  | .pbkdf2 => s!"{name} ({params.time} iterations)"
  | .argon2 _ => s!"{name} (m={params.memory} KiB, t={params.time}, p={params.lanes})"

/-- The text for programmers. -/
def describe (params : KdfParams) : String :=
  let name := params.algorithm.describe
  s!"KdfParams \x7b algorithm: {name}, mem_cost_kib: {params.memory}, " ++
    s!"time_cost: {params.time}, parallelism: {params.lanes} \x7d"

end KdfParams

end HeaderVault
