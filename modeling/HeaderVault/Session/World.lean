import HeaderVault.FileVolume
import HeaderVault.HeaderBackup
import HeaderVault.Kdf.Derivation
import HeaderVault.Session.Event

/-!
The world that a protocol runs in: the state it changes (`World`), and how everything outside of the
program behaves (`Environment`).

A volume is a pair of header slots in memory, the second of which may be missing, or a file. On top
of either the environment decides how each access goes: a read returns what it likes in place of
what is stored, and a write stores what it likes and reports what it likes.
-/

namespace HeaderVault

/-! ### State -/

inductive Volume where
  | memory (primary : HeaderBytes) (backup : Option HeaderBytes)
  | file (volume : FileVolume)

/-- Requests for random bytes so far, and the bytes handed out. -/
structure EntropyUse where
  requests : Nat
  taken : Nat
  deriving DecidableEq, Repr

structure World where
  volume : Volume
  files : FileSystem
  entropy : EntropyUse
  mounted : Bool
  history : History

namespace World

def record (world : World) (event : Event) : World :=
  { world with history := event :: world.history }

def hasBackupSlot (world : World) : Bool :=
  match world.volume with
  | .memory _ backup => backup.isSome
  | .file _ => true

def noBackupSlot : Error := .unsupported "no backup slot"

/-- What is stored in a header slot. -/
def stored (world : World) (slot : HeaderSlot) : Except Error HeaderBytes :=
  match world.volume, slot with
  | .memory primary _, .primary => .ok primary
  | .memory _ (some backup), .backup => .ok backup
  | .memory _ none, .backup => .error noBackupSlot
  | .file volume, slot => volume.read world.files slot

/-- Stores a header in a slot. -/
def store (world : World) (slot : HeaderSlot) (bytes : HeaderBytes) : Except Error World :=
  match world.volume, slot with
  | .memory _ backup, .primary => .ok { world with volume := .memory bytes backup }
  | .memory primary (some _), .backup => .ok { world with volume := .memory primary (some bytes) }
  | .memory _ none, .backup => .error noBackupSlot
  | .file volume, slot => do
      return { world with files := ← volume.write world.files slot bytes }

end World

/-! ### Behaviour -/

/-- No answer, and whether the operator was told that the operation is cancelled. -/
structure Refusal where
  error : Error
  announced : Bool

/-- How a write goes: what reaches the slot, if anything, and what is reported. -/
structure WriteOutcome where
  stored : Option HeaderBytes
  result : Except Error Unit

/-- How accesses to the header slots go, from what is stored and what is to be written. -/
structure DeviceBehaviour where
  read : History → HeaderSlot → (stored : HeaderBytes) → Except Error HeaderBytes
  write : History → HeaderSlot → (old : Option HeaderBytes) → (new : HeaderBytes) → WriteOutcome

/-- Reads return what is stored, and writes store what they are given. -/
def DeviceBehaviour.faithful : DeviceBehaviour where
  read := fun _ _ stored => .ok stored
  write := fun _ _ _ new => ⟨some new, .ok ()⟩

/-- How mounting goes; a volume is mounted at a place that has a name. -/
structure MountBehaviour where
  dismount : History → Except Error Unit
  mount : History → Credential → Except Error String

/-- A volume that is never mounted. -/
def MountBehaviour.detached : MountBehaviour where
  dismount := fun _ => .ok ()
  mount := fun _ _ => .error (.unsupported "mounting a detached volume")

structure Environment where
  primitives : Primitives
  operator : History → FileSystem → (prompt : Prompt) → Except Refusal prompt.Answer
  device : DeviceBehaviour
  mount : MountBehaviour
  /-- The disk under the files, as far as volumes are created and files saved on it. -/
  disk : History → Disk := fun _ => .reliable
  /-- The random bytes of a request, by its number and the bytes handed out before it. -/
  entropy : (request taken count : Nat) → Option (Octets count)
  now : Timestamp

end HeaderVault
