import HeaderVault.Checksum
import HeaderVault.Error
import HeaderVault.Text.Quoted

/-!
Credentials: a password with keyfiles, and the secret they are mixed into.

Keyfiles are taken in their order. Every byte of a keyfile advances a checksum register that starts
anew with the file, and after every byte the register is added to a pool, most significant byte
first, at a place that runs on from one keyfile into the next and wraps around. The secret is the
sum of the pool and the password, filled up with zeros to the size of the pool. Without keyfiles it
is the password itself.
-/

namespace HeaderVault

/-- The contents of a keyfile under the name by which it is spoken of. -/
structure Keyfile where
  label : String
  data : Bytes
  deriving DecidableEq, Repr

namespace Keyfile

/-- Only this many bytes of a keyfile count: the first MiB. -/
def limit : Nat := 1048576

/-- The text for programmers; the contents never appear. -/
def describe (keyfile : Keyfile) : String :=
  s!"Keyfile \x7b label: {Text.quote keyfile.label}, data: \"[REDACTED]\" \x7d"

end Keyfile

/-! ### The pool -/

/-- Sums of register bytes, and the place where the next ones go. -/
structure Pool (size : Nat) where
  sums : Octets size
  place : Nat

namespace Pool

variable {size : Nat}

def empty (size : Nat) : Pool size := ⟨Octets.zero size, 0⟩

def addByte (pool : Pool size) (byte : UInt8) : Pool size :=
  let ⟨sums, place⟩ := pool
  let sum := sums[place]?.getD 0 + byte
  ⟨sums.setIfInBounds place sum, place + 1⟩

/-- Begins again at the front when the end is reached. -/
def wrap (pool : Pool size) : Pool size :=
  if size ≤ pool.place then { pool with place := 0 } else pool

/-- Adds the four bytes of a register. -/
def addRegister (pool : Pool size) (register : UInt32) : Pool size :=
  ((Bytes.ofUInt32 register).reverse.foldl addByte pool).wrap

/-- Adds the registers of a byte string, one after each byte. -/
def addBytes : (pool : Pool size) → (register : UInt32) → Bytes → Pool size
  | pool, _, [] => pool
  | pool, register, byte :: rest =>
      let next := Checksum.update register byte
      addBytes (pool.addRegister next) next rest

/-- An empty keyfile is refused. -/
def addKeyfile (pool : Pool size) (keyfile : Keyfile) : Except Error (Pool size) :=
  if keyfile.data.isEmpty then
    .error (.keyfile (.empty keyfile.label))
  else
    .ok (pool.addBytes Checksum.start (keyfile.data.take Keyfile.limit))

/-- The size of the pool for a password. -/
def sizeFor (password : Bytes) : Nat := if password.length ≤ 64 then 64 else 128

end Pool

/-! ### Credentials -/

structure Credential where
  password : Bytes
  keyfiles : List Keyfile
  deriving DecidableEq, Repr

namespace Credential

/-- A longer password cannot be combined with keyfiles. -/
def maxMixedPassword : Nat := 128

/-- What keys are derived from. -/
def secret (credential : Credential) : Except Error Bytes :=
  let password := credential.password
  if credential.keyfiles.isEmpty then
    .ok password
  else if maxMixedPassword < password.length then
    .error (.keyfile .passwordLength)
  else do
    let size := Pool.sizeFor password
    let pool ← credential.keyfiles.foldlM Pool.addKeyfile (Pool.empty size)
    return List.zipWith (· + ·) (Octets.ofBytes size password).toList pool.sums.toList

/-- The text for programmers; password and contents never appear. -/
def describe (credential : Credential) : String :=
  let keyfiles := ", ".intercalate (credential.keyfiles.map Keyfile.describe)
  s!"Credential \x7b password: \"[REDACTED]\", keyfiles: [{keyfiles}] \x7d"

end Credential

end HeaderVault
