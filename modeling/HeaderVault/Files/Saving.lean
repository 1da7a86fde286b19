import HeaderVault.Files.Disk

/-!
Saving a file as a whole: the data goes to a temporary file beside the target, which then takes the
place of the target in one step. Whoever looks sees the old file or the new one. The directory is
written out last.

The temporary file has eight random bytes in its name, and only what comes before and after they are
drawn is described here. A temporary file that cannot take its place is removed if it can be; one
that could not be written stays behind.
-/

namespace HeaderVault.FileSystem

/-- The result of a file operation, spoken of in a context. -/
def describe {α : Type} (context : String) (result : Except FileFault α) : Except Error α :=
  result.mapError (.file context)

/-- Creates the directories above a path. -/
def ensureParents (files : FileSystem) (path : Path) : FileSystem × Except Error Unit :=
  match path.parent with
  | none => (files, .ok ())
  | some parent =>
      if parent.text = "" then
        (files, .ok ())
      else
        let (changed, result) := files.ensureDirectories parent
        (changed, describe s!"cannot create directory {parent.text}" result)

/-- The path of the temporary file for a path that names a file. -/
def temporaryPath (path : Path) (random : Octets 8) : Except Error Path :=
  match path.fileName with
  | none => .error (.file s!"{path.text} has no file name" .noFileName)
  | some name => .ok (path.withFileName s!"{name}.tmp.{Bytes.toHex random.toList}")

/-- Writes data to a new file, and then the file to the disk. -/
def fill (files : FileSystem) (file : Location) (data : Bytes) (disk : Disk) :
    FileSystem × Except FileFault Unit :=
  match disk.perform (.write file data) with
  | .error fault => (files.put file (.file (data.take (disk.reach file data))), .error fault)
  | .ok () => (files.put file (.file data), disk.perform (.sync file))

/-- Moves a file in place of a target. -/
def install (files : FileSystem) (file : Location) (target : Path) (disk : Disk) :
    Except FileFault FileSystem := do
  disk.perform (.rename file)
  files.replace file target

/-- Removes a file, unless something stands against it. -/
def discard (files : FileSystem) (path : Path) (disk : Disk) : FileSystem :=
  let removed : Except FileFault FileSystem := do
    disk.perform (.remove (← files.resolve path))
    files.remove path
  removed.toOption.getD files

/-- Opens the directory of a path and writes it to the disk. -/
def syncParent (files : FileSystem) (path : Path) (disk : Disk) : Except Error Unit :=
  match path.parent with
  | none => .ok ()
  | some parent =>
      if parent.text = "" then
        .ok ()
      else
        describe s!"cannot sync directory {parent.text}" do
          disk.perform (.sync (← files.resolve parent))

/-- Writes a temporary file and lets it take the place of the target. -/
def replaceThrough (files : FileSystem) (temporary target : Path) (data : Bytes) (disk : Disk) :
    FileSystem × Except Error Unit :=
  match files.createNew temporary with
  | .error fault => (files, .error (.file "failed to create temporary file" fault))
  | .ok (created, location) =>
      match created.fill location data disk with
      | (written, .error fault) => (written, .error (.file s!"cannot write {target.text}" fault))
      | (written, .ok ()) =>
          match written.install location target disk with
          | .error fault =>
              (written.discard temporary disk, .error (.file "atomic replace failed" fault))
          | .ok replaced => (replaced, replaced.syncParent target disk)

end HeaderVault.FileSystem
