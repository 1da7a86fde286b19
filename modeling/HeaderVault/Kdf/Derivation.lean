import HeaderVault.Argon2.Instance
import HeaderVault.Credential
import HeaderVault.Digest.Blake2b
import HeaderVault.Digest.Sha512
import HeaderVault.Kdf.Params

/-!
From a credential to the key that seals a header.

The digest under Argon2 and the legacy derivation are parameters (`Primitives`): what is said of the
headers and their protocols holds whatever these two compute. `KdfTask` is a derivation with its
credential mixed already, which is all a derivation needs besides the salt.
-/

namespace HeaderVault

/-- The functions that derivations are built from. -/
structure Primitives where
  digest : Argon2.Digest
  legacy : (password salt : Bytes) → (iterations : UInt32) → Except Error (Octets 64)

/-- BLAKE2b, and iterated codes of SHA-512. -/
def Primitives.standard : Primitives where
  digest := Digest.Blake2b.digest
  legacy := fun password salt iterations => .ok (Digest.Pbkdf2.derive password salt iterations 64)

/-- The key that seals a header: a data key and a tweak key of 32 bytes each. -/
structure HeaderKey where
  bytes : Octets 64
  deriving DecidableEq

/-- The text for programmers; it tells no key from another. -/
def HeaderKey.describe (_ : HeaderKey) : String := "HeaderKey([REDACTED])"

/-- A derivation with the secret it starts from. -/
inductive KdfTask where
  | argon2 (params : Argon2.Params) (secret : Bytes)
  | legacy (secret : Bytes) (iterations : UInt32)

namespace KdfTask

/-- The derivation that parameters name, for a credential and a number of Argon2 workers. -/
def new (credential : Credential) (params : KdfParams) (threads : UInt32) :
    Except Error KdfTask := do
  let secret ← credential.secret
  match params.algorithm with
  | .argon2 variant =>
      let costs ← Argon2.Params.new variant params.memory params.time params.lanes
      return .argon2 (costs.withThreads threads) secret
  | .pbkdf2 => return .legacy secret params.time

def run (primitives : Primitives) (salt : Bytes) : KdfTask → Except Error HeaderKey
  | .argon2 params secret => do
      let tag ← Argon2.hash primitives.digest params ⟨secret, salt, [], []⟩ 64
      return ⟨tag⟩
  | .legacy secret iterations => do
      return ⟨← primitives.legacy secret salt iterations⟩

end KdfTask

/-- Derives the key of a header with as many Argon2 workers as asked for. -/
def deriveKeyWith (primitives : Primitives) (threads : UInt32) (credential : Credential)
    (salt : Bytes) (params : KdfParams) : Except Error HeaderKey := do
  let task ← KdfTask.new credential params threads
  task.run primitives salt

/-- Derives the key of a header. -/
def deriveKey (primitives : Primitives) (credential : Credential) (salt : Bytes)
    (params : KdfParams) : Except Error HeaderKey :=
  deriveKeyWith primitives 1 credential salt params

end HeaderVault
