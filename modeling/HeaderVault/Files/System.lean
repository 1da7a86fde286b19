import HeaderVault.Bytes
import HeaderVault.Error
import HeaderVault.Files.Path

/-!
Files and directories, and the operations on them.

A location is the list of names that lead to it, the innermost first; the empty one is the root.
Every operation takes a path, follows it from the working directory, and either does what it says or
names the fault that stopped it, in which case nothing has changed. `FileSystem.get?` is the view by
which the operations are described.
-/

namespace HeaderVault

inductive Node where
  | file (content : Bytes)
  | directory
  deriving DecidableEq, Repr

/-- Names from a file or directory up to the root. -/
abbrev Location := List String

/-- What exists, and where paths that are not absolute start. -/
structure FileSystem where
  entries : List (Location × Node)
  working : Location
  deriving DecidableEq, Repr

namespace FileSystem

/-- What there is at a location; the root is always there. -/
def get? (files : FileSystem) (location : Location) : Option Node :=
  if location = [] then some .directory
  else (files.entries.find? fun entry => entry.1 == location).map Prod.snd

def erase (files : FileSystem) (location : Location) : FileSystem :=
  { files with entries := files.entries.filter fun entry => entry.1 != location }

def put (files : FileSystem) (location : Location) (node : Node) : FileSystem :=
  { files with entries := (location, node) :: (files.erase location).entries }

def isDirectoryAt (files : FileSystem) (location : Location) : Bool :=
  files.get? location == some .directory

/-! ### Following paths -/

/-- No longer name can exist. -/
def maxName : Nat := 255

/-- No longer path is followed. -/
def maxPath : Nat := 4095

/-- One step from a directory. -/
def step (files : FileSystem) (location : Location) (piece : String) : Except FileFault Location :=
  if !files.isDirectoryAt location then .error .notDirectory
  else if piece = "." then .ok location
  else if piece = ".." then .ok location.tail
  else if maxName < piece.utf8ByteSize then .error .nameTooLong
  else if (files.get? (piece :: location)).isNone then .error .notFound
  else .ok (piece :: location)

/-- Takes steps of a path, from the root or from the working directory. -/
def walk (files : FileSystem) (path : Path) (steps : List String) : Except FileFault Location :=
  if path.hasNul then .error .nulInName
  else if path.text = "" then .error .notFound
  else if maxPath < path.text.utf8ByteSize then .error .nameTooLong
  else steps.foldlM files.step (if path.isAbsolute then [] else files.working)

/-- The file or directory that a path leads to. -/
def resolve (files : FileSystem) (path : Path) : Except FileFault Location := do
  let location ← files.walk path path.steps
  if path.endsWithSlash && !files.isDirectoryAt location then
    throw .notDirectory
  return location

/-- Where a path would put a new entry: a directory and a name, unless the path ends without a name.
-/
def resolveParent (files : FileSystem) (path : Path) :
    Except FileFault (Location × Option String) := do
  let directory ← files.walk path path.steps.dropLast
  if !files.isDirectoryAt directory then
    throw .notDirectory
  return (directory, path.steps.getLast?.filter fun name => name ≠ "." ∧ name ≠ "..")

/-- What a directory has under a name. -/
def lookup (files : FileSystem) (directory : Location) (name : String) :
    Except FileFault (Option Node) :=
  if maxName < name.utf8ByteSize then .error .nameTooLong
  else .ok (files.get? (name :: directory))

/-! ### Reading -/

def isDirectory (files : FileSystem) (path : Path) : Bool :=
  match files.resolve path with
  | .ok location => files.isDirectoryAt location
  | .error _ => false

def isFile (files : FileSystem) (path : Path) : Bool :=
  match files.resolve path with
  | .ok location => !files.isDirectoryAt location
  | .error _ => false

def exists? (files : FileSystem) (path : Path) : Bool := (files.resolve path).toBool

/-- The contents of the file at a location. -/
def contentAt (files : FileSystem) (location : Location) : Except FileFault Bytes :=
  match files.get? location with
  | some (.file content) => .ok content
  | some .directory => .error .isDirectory
  | none => .error .notFound

def read (files : FileSystem) (path : Path) : Except FileFault Bytes := do
  files.contentAt (← files.resolve path)

/-- The length that is reported for every directory. -/
def directoryLength : Nat := 4096

/-- The length of a file or directory. -/
def length (files : FileSystem) (path : Path) : Except FileFault Nat := do
  match files.get? (← files.resolve path) with
  | some (.file content) => return content.length
  | _ => return directoryLength

/-! ### Writing -/

/-- Creates an empty file where nothing exists. -/
def createNew (files : FileSystem) (path : Path) : Except FileFault (FileSystem × Location) := do
  match ← files.resolveParent path with
  | (_, none) => throw .exists
  | (directory, some name) =>
      if path.endsWithSlash then
        throw .isDirectory
      if (← files.lookup directory name).isSome then
        throw .exists
      return (files.put (name :: directory) (.file []), name :: directory)

/-- Bytes with others in the place from an offset on; a gap before it is filled with zeros. -/
def overwrite (content : Bytes) (offset : Nat) (bytes : Bytes) : Bytes :=
  content.take offset ++ List.replicate (offset - content.length) 0 ++ bytes ++
    content.drop (offset + bytes.length)

def createDirectory (files : FileSystem) (path : Path) : Except FileFault FileSystem := do
  match ← files.resolveParent path with
  | (_, none) => throw .exists
  | (directory, some name) =>
      if (← files.lookup directory name).isSome then
        throw .exists
      return files.put (name :: directory) .directory

/-- Moves the file at a location to a path, in place of the file that is there. -/
def replace (files : FileSystem) (source : Location) (path : Path) :
    Except FileFault FileSystem := do
  match ← files.resolveParent path with
  | (_, none) => throw .busy
  | (directory, some name) =>
      let content ← files.contentAt source
      let old ← files.lookup directory name
      if path.endsWithSlash then
        throw .notDirectory
      if old = some .directory then
        throw .isDirectory
      return (files.erase source).put (name :: directory) (.file content)

/-- Removes a file. -/
def remove (files : FileSystem) (path : Path) : Except FileFault FileSystem := do
  let location ← files.resolve path
  if files.isDirectoryAt location then
    throw .isDirectory
  return files.erase location

/-! ### Directories above a path -/

/-- Creates a directory unless it exists. -/
def ensureDirectory (files : FileSystem) (path : Path) : FileSystem × Except FileFault Unit :=
  match files.createDirectory path with
  | .ok changed => (changed, .ok ())
  | .error fault =>
      if fault = .exists ∧ files.isDirectory path then (files, .ok ()) else (files, .error fault)

/-- Creates directories one after the other, up to the first that fails. -/
def ensureEach : (files : FileSystem) → List Path → FileSystem × Except FileFault Unit
  | files, [] => (files, .ok ())
  | files, path :: rest =>
      match files.ensureDirectory path with
      | (changed, .ok ()) => ensureEach changed rest
      | failed => failed

/-- Goes up to the first directory that exists or can be created, and creates those below it; what
has been created before a fault stays. -/
def ensureUpwards (files : FileSystem) : List Path → (below : List Path) →
    FileSystem × Except FileFault Unit
  | [], below => files.ensureEach below
  | path :: above, below =>
      if path.text = "" then files.ensureEach below
      else
        match files.ensureDirectory path with
        | (changed, .ok ()) => changed.ensureEach below
        | (_, .error .notFound) => ensureUpwards files above (path :: below)
        | failed => failed

/-- Creates a directory with all directories above it. -/
def ensureDirectories (files : FileSystem) (path : Path) : FileSystem × Except FileFault Unit :=
  if path.text = "" then (files, .ok ())
  else
    match files.ensureDirectory path with
    | (_, .error .notFound) => files.ensureUpwards path.parents [path]
    | result => result

end FileSystem

end HeaderVault
