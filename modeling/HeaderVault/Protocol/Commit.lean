import HeaderVault.Session

/-!
Writing a header so that a failure leaves the old one: what was written is read back and compared,
and the former bytes are put back when that fails.
-/

namespace HeaderVault.Protocol

/-- Puts the former bytes back; an error on the way is not reported. -/
def rollback (slot : HeaderSlot) (former : HeaderBytes) : Session Unit := do
  let _ ← Session.attempt (Session.writeHeader slot former)

/-- Writes a header and reads it back. -/
def writeVerified (slot : HeaderSlot) (bytes : HeaderBytes) : Session Unit := do
  Session.writeHeader slot bytes
  if (← Session.readHeader slot) ≠ bytes then
    throw (.verification (.readBack slot))

/-- Writes a header in place of the former one, or puts that back and fails. -/
def commit (slot : HeaderSlot) (former bytes : HeaderBytes) : Session Unit := do
  match ← Session.attempt (writeVerified slot bytes) with
  | .ok () => return
  | .error error =>
      rollback slot former
      throw error

/-- Commits to the embedded copy after the primary header; a failure undoes both. -/
def commitBackup (formerPrimary former bytes : HeaderBytes) : Session Unit := do
  match ← Session.attempt (commit .backup former bytes) with
  | .ok () => return
  | .error error =>
      rollback .primary formerPrimary
      throw error

end HeaderVault.Protocol
