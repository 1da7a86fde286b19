import HeaderVault.Session

/-!
What a volume tells without a credential.
-/

namespace HeaderVault

structure HeaderInfo where
  kdf : KdfParams
  outdated : Bool
  backupSlot : Bool
  /-- The parameters of the embedded copy, if they can be read. -/
  backupKdf : Option KdfParams
  deriving DecidableEq

namespace Protocol

/-- Reads the cleartext of all headers and compares it with recommended parameters. -/
def inspect (recommended : KdfParams) : Session HeaderInfo := do
  let bytes ← Session.readHeader .primary
  let primary ← Session.ofExcept (Cleartext.parse bytes.toList)
  let backupSlot ← Session.hasBackupSlot
  let backupKdf ←
    if backupSlot then do
      let backup ← Session.readHeader .backup
      pure ((Cleartext.parse backup.toList).toOption.map Cleartext.kdf)
    else pure none
  return ⟨primary.kdf, primary.kdf.isOutdated recommended, backupSlot, backupKdf⟩

end Protocol

end HeaderVault
