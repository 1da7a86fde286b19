import HeaderVault.CommandLine.Help
import HeaderVault.CommandLine.Invocation
import HeaderVault.CommandLine.Operator
import HeaderVault.CommandLine.Report
import HeaderVault.CommandLine.VariableFile
import HeaderVault.Protocol.Backup
import HeaderVault.Protocol.Format
import HeaderVault.Protocol.Restore
import HeaderVault.Protocol.Upgrade

/-!
Running a command: what it does to the files, what it prints, and how it ends.

A run ends with one last line of output or with a failure. The exit code is 0 for a line, 2 for a
run that the operator cancelled, and 1 for every other failure.
-/

namespace HeaderVault

/-- What surrounds a run of the program. -/
structure Host where
  vars : Variables
  /-- The home directory of the account that runs the program, if it is known. -/
  accountHome : Option Path
  input : Bytes
  aesInstructions : Bool
  primitives : Primitives
  /-- How the header slots of a volume take what is done to them. -/
  device : DeviceBehaviour := .faithful
  /-- The disk under all files. -/
  disk : History → Disk := fun _ => .reliable
  entropy : (request taken count : Nat) → Option (Octets count)
  now : Timestamp

/-- Why a command fails. -/
inductive Failure where
  | noVolume
  | noFileName
  | noDirectory
  | refused (error : Error)
  /-- A new volume could not be given headers. -/
  | notCreated (error : Error)
  deriving DecidableEq

namespace Failure

def error? : Failure → Option Error
  | .refused error => some error
  | .notCreated error => some error
  | _ => none

/-- The texts of a failure, outermost first. -/
def chain : Failure → List String
  | .noVolume => ["no volume given; use --volume or VOLKEY_VOLUME"]
  | .noFileName => ["volume path has no file name"]
  | .noDirectory => ["could not determine platform directories"]
  | .refused error => error.chain
  | .notCreated error => "failed to create volume" :: error.chain

def isCancelled (failure : Failure) : Bool := failure.error? = some .cancelled

def message (failure : Failure) : String :=
  if failure.isCancelled then "cancelled" else "error: " ++ ": ".intercalate failure.chain

end Failure

/-! ### What a run leaves behind -/

structure Outcome where
  result : Except Failure String
  history : History
  files : FileSystem

namespace Outcome

def exitCode (outcome : Outcome) : UInt8 :=
  match outcome.result with
  | .ok _ => 0
  | .error failure => if failure.isCancelled then 2 else 1

/-- The line that a notice puts on the standard output. -/
def outputLine : Event → Option String
  | .told (.info message) => some message
  | _ => none

/-- The line that a notice puts on the error output. -/
def errorLine : Event → Option String
  | .told (.warning message) => some s!"warning: {message}"
  | .told (.error message) => some s!"error: {message}"
  | _ => none

def joinLines (lines : List String) : String := String.join (lines.map (· ++ "\n"))

def output (outcome : Outcome) : String :=
  joinLines (outcome.history.reverse.filterMap outputLine ++ outcome.result.toOption.toList)

def errorOutput (outcome : Outcome) : String :=
  let failures :=
    match outcome.result with
    | .ok _ => []
    | .error failure => [failure.message]
  joinLines (outcome.history.reverse.filterMap errorLine ++ failures)

end Outcome

/-! ### Commands as sessions -/

namespace Action

/-- Creates a volume with fresh headers. If that fails the file is removed again. -/
def create (path : Path) (size : UInt64) (costs : Costs) : Session (Except Error Unit) := do
  let params ← Session.ofExcept costs.params
  let _ ← Session.createVolume path size
  let result ← Session.attempt (Protocol.format params size)
  if let .error _ := result then
    Session.removeFile path
  return result

def info (path : Path) (backend : AesBackend) (json : Bool) : Session String := do
  let volume ← Session.openVolume path
  let report : Report := ⟨path, volume.dataSize, backend, ← Protocol.inspect .standard⟩
  return if json then report.record else report.text

def backup (path : Path) : Session String := do
  let _ ← Session.openVolume path
  let saved ← Protocol.backup
  return s!"header backup saved to {saved.text}"

def restore (path : Path) : Session String := do
  let _ ← Session.openVolume path
  match ← Protocol.restore with
  | .embedded => return "header restored from embedded backup"
  | .file source => return s!"header restored from {source.text}"

def upgradeKdf (path : Path) (costs : Costs) : Session String := do
  let params ← Session.ofExcept costs.params
  let _ ← Session.openVolume path
  match ← Protocol.upgrade params with
  | .notNeeded current => return s!"key derivation already up to date ({current.display})"
  | .upgraded before after _ =>
      return s!"header key derivation upgraded: {before.display} -> {after.display}"

end Action

/-! ### Where backups go -/

namespace Host

/-- The home directory that a variable names, or else that of the account. -/
def home? (host : Host) : Option Path :=
  ((host.vars.nonempty? "HOME").map Path.mk).or host.accountHome

/-- The directory for data of programs, which is not taken from a relative path. Nobody without a
home has one. -/
def dataDirectory? (host : Host) : Option Path := do
  let home ← host.home?
  match (host.vars.get? "XDG_DATA_HOME").filter fun value => Path.isAbsolute ⟨value⟩ with
  | some value => return ⟨value⟩
  | none => return home.join ".local/share"

/-- The backup file of a volume that is to be saved without saying where. -/
def backupPath (host : Host) (volume : Path) : Except Failure Path :=
  match host.dataDirectory?, volume.fileName with
  | none, _ => .error .noDirectory
  | some _, none => .error .noFileName
  | some directory, some name =>
      .ok (((directory.join "volkey").join "backups").join s!"{name}.hdr")

end Host

/-! ### Runs -/

namespace Host

/-- The name of a file that defines variables. -/
def variableFileName : String := ".env"

def variableFileIn (files : FileSystem) (directory : Location) : Option Bytes :=
  (files.contentAt (variableFileName :: directory)).toOption

/-- The file of variables in a directory, or in the nearest one above it. -/
def variableFile? (files : FileSystem) : (directory : Location) → Option Bytes
  | [] => variableFileIn files []
  | name :: above => (variableFileIn files (name :: above)).or (variableFile? files above)

/-- Takes in the variables that a file defines. -/
def withVariableFile (host : Host) (files : FileSystem) : Host :=
  match variableFile? files files.working with
  | none => host
  | some content => { host with vars := VariableFile.load host.vars content }

def environment (host : Host) (preset : Preset) : Environment where
  primitives := host.primitives
  operator := fun history files prompt =>
    (preset.answer host.vars host.input history files prompt).mapError fun error =>
      ⟨error, false⟩
  device := host.device
  mount := .detached
  disk := host.disk
  entropy := host.entropy
  now := host.now

def backend (host : Host) (softwareAes : Bool) : AesBackend :=
  if softwareAes || !host.aesInstructions then .software else .instructions

end Host

namespace Outcome

/-- The world before a run; a volume is put in its place by the command. -/
def startWorld (files : FileSystem) : World where
  volume := .memory (Octets.zero headerLength) none
  files := files
  entropy := ⟨0, 0⟩
  mounted := false
  history := []

def ofSession (host : Host) (preset : Preset) (files : FileSystem) (session : Session String) :
    Outcome :=
  let (result, world) := session.runIn (host.environment preset) (startWorld files)
  ⟨result.mapError .refused, world.history, world.files⟩

/-- A run that ends before anything happens. -/
def ofFailure (files : FileSystem) (failure : Failure) : Outcome := ⟨.error failure, [], files⟩

def ofCreate (host : Host) (preset : Preset) (files : FileSystem)
    (session : Session (Except Error Unit)) : Outcome :=
  let (result, world) := session.runIn (host.environment preset) (startWorld files)
  let result :=
    match result with
    | .error error => .error (.refused error)
    | .ok (.error error) => .error (.notCreated error)
    | .ok (.ok ()) => .ok "volume created"
  ⟨result, world.history, world.files⟩

end Outcome

namespace Invocation

/-- The choice between sources that the options of a restore make. -/
def restoreChoice (fromFile : Option Path) (embedded : Bool) : Option Nat :=
  if embedded then some 0 else fromFile.map fun _ => 1

/-- Runs a command on a volume. -/
def runOn (invocation : Invocation) (host : Host) (files : FileSystem) (volume : Path) : Outcome :=
  let preset : Preset := ⟨invocation.keyfiles, invocation.assumeYes, none, none⟩
  match invocation.command with
  | .create size costs => .ofCreate host preset files (Action.create volume size costs)
  | .info json =>
      .ofSession host preset files (Action.info volume (host.backend invocation.softwareAes) json)
  | .backup output =>
      match output.elim (host.backupPath volume) .ok with
      | .error failure => .ofFailure files failure
      | .ok path => .ofSession host { preset with file := some path } files (Action.backup volume)
  | .restore fromFile embedded =>
      let preset := { preset with file := fromFile, choice := restoreChoice fromFile embedded }
      .ofSession host preset files (Action.restore volume)
  | .upgradeKdf costs => .ofSession host preset files (Action.upgradeKdf volume costs)

def run (invocation : Invocation) (host : Host) (files : FileSystem) : Outcome :=
  match invocation.volume with
  | none => .ofFailure files .noVolume
  | some volume => invocation.runOn host files volume

/-- The paths that a run looks at. -/
def paths (invocation : Invocation) (host : Host) : List Path :=
  let own :=
    match invocation.command with
    | .backup output => output.toList ++ (invocation.volume.bind (defaultBackup output)).toList
    | .restore fromFile _ => fromFile.toList
    | _ => []
  invocation.volume.toList ++ invocation.keyfiles ++ own
where
  defaultBackup (output : Option Path) (volume : Path) : Option Path :=
    if output.isSome then none else (host.backupPath volume).toOption

/-- Whether a run may ask for a password that no variable holds. -/
def readsInput (invocation : Invocation) (vars : Variables) : Bool :=
  match invocation.command with
  | .info _ => false
  | _ => invocation.volume.isSome && (vars.nonempty? Preset.passwordVariable).isNone

/-- Runs a whole command line. -/
def execute (host : Host) (files : FileSystem) (arguments : List String) : Except Stop Outcome := do
  let host := host.withVariableFile files
  let invocation ← parse host.vars arguments
  return invocation.run host files

end Invocation

end HeaderVault
