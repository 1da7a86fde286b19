import HeaderVault.Protocol.Commit
import HeaderVault.Protocol.Sealing

/-!
Putting the keys of a volume under a stronger key derivation.

The new headers are made and opened again before anything is written. A mounted volume is dismounted
first and mounted again afterwards, whether or not the upgrade succeeded.
-/

namespace HeaderVault

inductive UpgradeOutcome where
  | notNeeded (current : KdfParams)
  /-- The place is where a volume that was mounted is mounted again. -/
  | upgraded (before after : KdfParams) (remounted : Option String)
  deriving DecidableEq

namespace Protocol

/-- Seals a header under a new salt and other parameters, and checks that it opens to the same. -/
def rewrap (credential : Credential) (header : VolumeHeader) (kdf : KdfParams) :
    Session HeaderBytes := do
  let renewed := header.rewrapped kdf (← Session.drawSalt)
  let bytes ← sealFor credential renewed
  let reopened ← unlock credential bytes
  if reopened ≠ renewed then
    throw (.verification .reopened)
  return bytes

/-- The embedded copy with its replacement, if there is one that opens. -/
def rewrapBackup (credential : Credential) (kdf : KdfParams) :
    Session (Option (HeaderBytes × HeaderBytes)) := do
  if ← Session.hasBackupSlot then
    let bytes ← Session.readHeader .backup
    let header ← unlockOrWarn credential bytes
      "The embedded backup header could not be opened and was not upgraded."
    match header with
    | none => return none
    | some old => return some (bytes, ← rewrap credential old kdf)
  else
    return none

/-- Rewraps both headers and commits them. -/
def rewrapAll (credential : Credential) (header : VolumeHeader) (former : HeaderBytes)
    (kdf : KdfParams) : Session Unit := do
  Session.ask .enrichEntropy
  let renewed ← rewrap credential header kdf
  let embedded ← rewrapBackup credential kdf
  commit .primary former renewed
  if let some (formerBackup, backupRenewed) := embedded then
    commitBackup former formerBackup backupRenewed

/-- Mounts a volume again; that this fails is no more than a warning. -/
def remount (credential : Credential) : Session (Option String) := do
  match ← Session.attempt (Session.mount credential) with
  | .ok target => return some target
  | .error error =>
      Session.tell (.warning s!"The volume could not be mounted again: {error.message}")
      return none

/-- Upgrades a volume to recommended parameters, unless it does not fall short of them. -/
def upgrade (recommended : KdfParams) : Session UpgradeOutcome := do
  let primary ← Session.readHeader .primary
  let cleartext ← Session.ofExcept (Cleartext.parse primary.toList)
  let current := cleartext.kdf
  if !current.isOutdated recommended then
    Session.tell (.info s!"Key derivation is already up to date: {current.display}")
    return .notNeeded current
  Session.requireConfirmation
    s!"Upgrade header key derivation from {current.display} to {recommended.display}?" true false
  let credential ← Session.askCredential "Volume password"
  let header ← unlock credential primary
  let wasMounted ← Session.isMounted
  if wasMounted then
    Session.dismount
  let result ← Session.attempt (rewrapAll credential header primary recommended)
  let remounted ← if wasMounted then remount credential else pure none
  Session.ofExcept result
  Session.tell (.info s!"Header key derivation upgraded to {recommended.display}.")
  return .upgraded current recommended remounted

end Protocol

end HeaderVault
