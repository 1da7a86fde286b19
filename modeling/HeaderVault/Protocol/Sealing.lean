import HeaderVault.Header.Volume
import HeaderVault.Session

/-!
Opening and sealing headers in a session, with keys that are derived while the operator is shown
that it takes its time.
-/

namespace HeaderVault.Protocol

/-- Opens a header with a credential, without showing anything. -/
def openHeader (primitives : Primitives) (credential : Credential) (bytes : HeaderBytes) :
    Except Error VolumeHeader := do
  let cleartext ← Cleartext.parse bytes.toList
  let key ← deriveKey primitives credential cleartext.salt.toList cleartext.kdf
  VolumeHeader.openWith key bytes.toList

def deriveBusy (credential : Credential) (salt : Octets 64) (kdf : KdfParams) :
    Session HeaderKey := do
  let primitives := (← read).primitives
  Session.busy "Deriving header key" (deriveKey primitives credential salt.toList kdf)

/-- Opens a header with a credential; a header without readable parameters fails at once. -/
def unlock (credential : Credential) (bytes : HeaderBytes) : Session VolumeHeader := do
  let cleartext ← Session.ofExcept (Cleartext.parse bytes.toList)
  let key ← deriveBusy credential cleartext.salt cleartext.kdf
  Session.ofExcept (VolumeHeader.openWith key bytes.toList)

/-- Seals a header under the key that its own salt and parameters give. -/
def sealFor (credential : Credential) (header : VolumeHeader) : Session HeaderBytes := do
  let key ← deriveBusy credential header.salt header.kdf
  return header.sealWith key

/-- Opens a header that may be damaged. If it does not open a warning is shown and nothing comes
out; only a cancelled session stops. -/
def unlockOrWarn (credential : Credential) (bytes : HeaderBytes) (warning : String) :
    Session (Option VolumeHeader) := do
  match ← Session.attempt (unlock credential bytes) with
  | .ok header => return some header
  | .error .cancelled => throw .cancelled
  | .error _ =>
      Session.tell (.warning warning)
      return none

end HeaderVault.Protocol
