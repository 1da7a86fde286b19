import HeaderVault.CommandLine.Execution
import HeaderVault.Files.Change
import Std.Time.DateTime.Timestamp

/-!
The program on a machine: it looks at the files that a command line can reach, runs the command line
on them, carries out what has changed, and prints.
-/

namespace HeaderVault.Machine

/-! ### Looking -/

/-- The path of a location in the files of the machine. -/
def place (location : Location) : String := "/" ++ "/".intercalate location.reverse

def look (location : Location) : IO (Option Node) := do
  let path := (← IO.currentDir) / place location
  if ← path.isDir then
    return some .directory
  else if ← path.pathExists then
    return some (.file (← IO.FS.readBinFile path).toList)
  else
    return none

/-- Takes in what is at locations that have not been looked at. -/
def lookAt (files : FileSystem) (locations : List Location) : IO FileSystem := do
  let mut files := files
  for location in locations do
    if (files.get? location).isNone then
      if let some node ← look location then
        files := files.put location node
  return files

/-- The working directory with the directories above it, and files of variables in them. -/
def start : IO FileSystem := do
  let working := (Path.steps ⟨(← IO.currentDir).toString⟩).reverse
  let directories := FileSystem.locationsFrom [] working.reverse
  lookAt ⟨[], working⟩ (directories ++ directories.map (Host.variableFileName :: ·))

/-! ### Surroundings -/

/-- The parts of a text between separators. -/
def parts (separator : Char) (text : String) : List String := text.splitToList (· == separator)

/-- The text of a file, which is empty if the file cannot be read as a text. -/
def textOf (path : String) : IO String := do
  try
    return (Bytes.toText? (← IO.FS.readBinFile path).toList).getD ""
  catch _ =>
    return ""

/-- The variables of the process. -/
def processVariables : IO Variables :=
  return .ofWritten (parts '\x00' (← textOf "/proc/self/environ"))

/-- The number of the account that runs the process. -/
def accountNumber : IO (Option String) := do
  let fields := (parts '\n' (← textOf "/proc/self/status")).map (parts '\t')
  let line := fields.find? fun line => line.head? = some "Uid:"
  return line.bind fun line => line.tail.head?

/-- The home directory that the list of accounts has for the account. -/
def accountHome : IO (Option Path) := do
  let number ← accountNumber
  let accounts := (parts '\n' (← textOf "/etc/passwd")).map (parts ':')
  let line := accounts.find? fun line => number.isSome ∧ (line.drop 2).head? = number
  let home := line.bind fun line => (line.drop 5).head?
  return (home.filter (· ≠ "")).map Path.mk

partial def readAll (stream : IO.FS.Stream) : IO Bytes := do
  let chunk ← stream.read 4096
  if chunk.isEmpty then return []
  return chunk.toList ++ (← readAll stream)

def now : IO Timestamp := do
  let seconds := (← Std.Time.Timestamp.now).toSecondsSinceUnixEpoch
  return (Timestamp.ofSeconds? (Int64.ofInt seconds.val)).getD Timestamp.epoch

/-- More random bytes than any run takes. -/
def poolSize : Nat := 4096

def host (vars : Variables) : IO Host := do
  let pool ← IO.getRandomBytes poolSize.toUSize
  return {
    vars
    accountHome := ← accountHome
    input := []
    aesInstructions := false
    primitives := .standard
    entropy := fun _ taken count =>
      if taken + count ≤ pool.size then
        some (Octets.ofBytes count (pool.toList.drop taken))
      else none
    now := ← now }

/-! ### Running -/

def carryOut (change : FileSystem.Change) : IO Unit := do
  let path := (← IO.currentDir) / place change.location
  match change.node with
  | none => IO.FS.removeFile path
  | some .directory => IO.FS.createDir path
  | some (.file content) => IO.FS.writeBinFile path ⟨content.toArray⟩

def print (output errors : String) : IO Unit := do
  (← IO.getStdout).putStr output
  (← IO.getStderr).putStr errors

def run (host : Host) (invocation : Invocation) (files : FileSystem) : IO UInt8 := do
  let paths := invocation.paths host
  let files ← lookAt files (paths.flatMap (FileSystem.locationsOf files.working))
  let input ← if invocation.readsInput host.vars then readAll (← IO.getStdin) else pure []
  let outcome := invocation.run { host with input } files
  for change in FileSystem.changes files outcome.files do
    carryOut change
  print outcome.output outcome.errorOutput
  return outcome.exitCode

end HeaderVault.Machine

open HeaderVault Machine in
def main (arguments : List String) : IO UInt32 := do
  let files ← start
  let host := (← host (← processVariables)).withVariableFile files
  match Invocation.parse host.vars arguments with
  | .ok invocation => return (← run host invocation files).toUInt32
  | .error stop =>
      print stop.output stop.errorOutput
      return stop.exitCode.toUInt32
