import HeaderVault.Protocol.Sealing

/-!
Saving the headers of a volume to a file. The credential has to open the primary header, and the
embedded copy is saved with it only if the same credential opens that too.
-/

namespace HeaderVault.Protocol

/-- The embedded copy, if there is one that opens. -/
def soundBackup (credential : Credential) : Session (Option HeaderBytes) := do
  if ← Session.hasBackupSlot then
    let bytes ← Session.readHeader .backup
    let header ← unlockOrWarn credential bytes
      "The embedded backup header is damaged and was not included."
    return header.map fun _ => bytes
  else
    return none

/-- Saves the headers and tells where. -/
def backup : Session Path := do
  let path ← Session.ask (.selectFile "Save header backup as" .new)
  if ← Session.fileExists path then
    Session.requireConfirmation s!"{path.text} already exists. Overwrite it?" false true
  let credential ← Session.askCredential "Volume password"
  let primary ← Session.readHeader .primary
  let _ ← unlock credential primary
  let embedded ← soundBackup credential
  Session.saveBackup path ⟨(← read).now, primary, embedded⟩
  Session.tell (.info s!"Header backup saved to {path.text}")
  return path

end HeaderVault.Protocol
