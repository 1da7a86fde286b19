import HeaderVault.Protocol.Commit
import HeaderVault.Protocol.Sealing

/-!
Fresh headers for a new volume. Both headers keep the same new keys, under salts of their own.
-/

namespace HeaderVault.Protocol

/-- Seals a header and commits it to a slot. -/
def install (credential : Credential) (slot : HeaderSlot) (header : VolumeHeader) :
    Session Unit := do
  let former ← Session.readHeader slot
  let bytes ← sealFor credential header
  commit slot former bytes

/-- Writes new headers for a data area of the given size. -/
def format (kdf : KdfParams) (dataSize : UInt64) : Session Unit := do
  let credential ← Session.askCredential "New password"
  Session.ask .enrichEntropy
  let keyArea ← Session.draw 256
  let salt ← Session.drawSalt
  let primary : VolumeHeader := ⟨kdf, salt, dataSize, keyArea⟩
  install credential .primary primary
  if ← Session.hasBackupSlot then
    let backup := primary.rewrapped kdf (← Session.drawSalt)
    install credential .backup backup
  Session.tell (.info s!"Volume headers created ({kdf.display})")

end HeaderVault.Protocol
