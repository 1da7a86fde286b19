import HeaderVault.Files.Saving
import HeaderVault.Header.Cleartext

/-!
Volumes that live in a file: a header slot, the data area, and a second header slot for the embedded
copy.

The length of the file is taken once, when the volume is created or opened, and says where the
second slot is.
-/

namespace HeaderVault

structure FileVolume where
  path : Path
  length : UInt64
  deriving DecidableEq, Repr

namespace FileVolume

/-- Bytes of the two header slots. -/
def slotsLength : UInt64 := 1024

/-- No longer file can be asked for. -/
def maxFileLength : Nat := 9223372036854775807

/-- Bytes between the header slots. -/
def dataSize (volume : FileVolume) : UInt64 := volume.length - slotsLength

/-- Where a header slot begins. -/
def offset (volume : FileVolume) : HeaderSlot → UInt64
  | .primary => 0
  | .backup => volume.length - 512

/-- Gives a file its length, if it is one that can be asked for. -/
def resize (disk : Disk) (file : Location) (length : Nat) : Except FileFault Unit :=
  if maxFileLength < length then .error .sizeRange else disk.perform (.resize file length)

/-- Creates a volume of zeros. A file that cannot be sized or written out stays behind. -/
def create (files : FileSystem) (path : Path) (dataSize : UInt64) (disk : Disk := .reliable) :
    FileSystem × Except Error FileVolume :=
  let length := dataSize + slotsLength
  match files.createNew path with
  | .error fault => (files, .error (.file s!"cannot create volume {path.text}" fault))
  | .ok (created, location) =>
      match resize disk location length.toNat with
      | .error fault => (created, .error (.file s!"cannot size volume {path.text}" fault))
      | .ok () =>
          let sized := created.put location (.file (List.replicate length.toNat 0))
          match disk.perform (.sync location) with
          | .error fault => (sized, .error (.file s!"cannot sync volume {path.text}" fault))
          | .ok () => (sized, .ok ⟨path, length⟩)

/-- Opens a file that has room for both slots; what the slots hold is not looked at. -/
def openAt (files : FileSystem) (path : Path) : Except Error FileVolume := do
  let length ← FileSystem.describe s!"cannot open volume {path.text}" (files.length path)
  if length < slotsLength.toNat then
    throw (.malformedHeader (.tooSmall path.text))
  return ⟨path, UInt64.ofNat length⟩

/-- An offset that a file can be read or written at. -/
def reachable (offset : UInt64) : Except FileFault Nat :=
  if maxFileLength < offset.toNat then .error .invalidArgument else .ok offset.toNat

/-- The bytes of a header slot. -/
def read (volume : FileVolume) (files : FileSystem) (slot : HeaderSlot) :
    Except Error HeaderBytes :=
  FileSystem.describe s!"cannot read {slot.name} header of {volume.path.text}" do
    let location ← files.resolve volume.path
    let offset ← reachable (volume.offset slot)
    let content ← files.contentAt location
    let bytes := content.slice offset headerLength
    if bytes.length < headerLength then
      throw .shortRead
    return Octets.ofBytes 512 bytes

/-- Writes a header slot. -/
def write (volume : FileVolume) (files : FileSystem) (slot : HeaderSlot) (bytes : HeaderBytes) :
    Except Error FileSystem :=
  FileSystem.describe s!"cannot write {slot.name} header of {volume.path.text}" do
    let location ← files.resolve volume.path
    let content ← files.contentAt location
    let offset ← reachable (volume.offset slot)
    return files.put location (.file (FileSystem.overwrite content offset bytes.toList))

end FileVolume

end HeaderVault
