import HeaderVault.Protocol.Commit
import HeaderVault.Protocol.Sealing

/-!
Replacing the primary header by a saved one, from the embedded copy or from a file. The saved header
has to open before anything is written. A file with two headers also renews the embedded copy.
-/

namespace HeaderVault

/-- Where a restored header came from. -/
inductive RestoreSource where
  | embedded
  | file (path : Path)
  deriving DecidableEq, Repr

namespace Protocol

/-- The header that is to become the primary one, and one for the embedded copy. -/
structure Candidate where
  source : RestoreSource
  primary : HeaderBytes
  extra : Option HeaderBytes

def restoreSources : List String :=
  ["Restore from the backup header embedded in the volume",
    "Restore from an external backup file"]

/-- Whether to restore from the embedded copy; without one there is no choice. -/
def chooseEmbedded : Session Bool := do
  if ← Session.hasBackupSlot then
    match ← Session.ask (.choose "Select the header source" restoreSources) with
    | some 0 => return true
    | some 1 => return false
    | some other => throw (.unsupported s!"restore source {other}")
    | none => Session.cancel
  else
    return false

def findCandidate : Session Candidate := do
  if ← chooseEmbedded then
    return ⟨.embedded, ← Session.readHeader .backup, none⟩
  else
    let path ← Session.ask (.selectFile "Header backup file" .existing)
    let saved ← Session.loadBackup path
    return ⟨.file path, saved.primary, saved.backup⟩

/-- The header for the embedded copy, if there is a slot for it and it opens. -/
def soundExtra (credential : Credential) (extra : Option HeaderBytes) :
    Session (Option HeaderBytes) := do
  match extra with
  | none => return none
  | some bytes =>
      if ← Session.hasBackupSlot then
        let header ← unlockOrWarn credential bytes
          "The backup file's second header is damaged and will be skipped."
        return header.map fun _ => bytes
      else
        return none

/-- Replaces the primary header and tells where the new one came from. -/
def restore : Session RestoreSource := do
  let candidate ← findCandidate
  let credential ← Session.askCredential "Password of the backup header"
  let _ ← unlock credential candidate.primary
  let extra ← soundExtra credential candidate.extra
  Session.requireConfirmation
    "The volume header will be overwritten. This cannot be undone. Continue?" false true
  let former ← Session.readHeader .primary
  commit .primary former candidate.primary
  if let some bytes := extra then
    let formerBackup ← Session.readHeader .backup
    commitBackup former formerBackup bytes
  Session.tell (.info "Volume header restored.")
  return candidate.source

end Protocol

end HeaderVault
