import HeaderVault.Credential
import HeaderVault.Files.Saving

/-!
Reading keyfiles. What lies behind the part that counts is never read.
-/

namespace HeaderVault

/-- Reads the part of a file that counts, under the path as its label. -/
def Keyfile.load (files : FileSystem) (path : Path) : Except Error Keyfile := do
  let location ← FileSystem.describe s!"cannot open keyfile {path.text}" (files.resolve path)
  let content ←
    FileSystem.describe s!"cannot read keyfile {path.text}" (files.contentAt location)
  return ⟨path.text, content.take Keyfile.limit⟩

end HeaderVault
