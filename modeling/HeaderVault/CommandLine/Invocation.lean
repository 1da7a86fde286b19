import HeaderVault.CommandLine.Arguments
import HeaderVault.CommandLine.Variables
import HeaderVault.Kdf.Params

/-!
What the program is called for: a command with its own settings, and the settings that all commands
share.

A common setting after the command wins over the same one before it, and the volume may also be
named by a variable.
-/

namespace HeaderVault

/-- Costs of a key derivation, as far as they are given. -/
structure Costs where
  memory : Option UInt32
  time : Option UInt32
  lanes : Option UInt32
  deriving DecidableEq, Repr

/-- Parameters with these costs; a cost that is not given is the standard one. -/
def Costs.params (costs : Costs) : Except Error KdfParams :=
  (KdfParams.argon2id (costs.memory.getD KdfParams.standard.memory)
    (costs.time.getD KdfParams.standard.time)
    (costs.lanes.getD KdfParams.standard.lanes)).mapError .invalidParams

inductive Command where
  | create (size : UInt64) (costs : Costs)
  | info (json : Bool)
  | backup (output : Option Path)
  | restore (fromFile : Option Path) (embedded : Bool)
  | upgradeKdf (costs : Costs)
  deriving DecidableEq, Repr

structure Invocation where
  volume : Option Path
  keyfiles : List Path
  assumeYes : Bool
  softwareAes : Bool
  command : Command
  deriving DecidableEq, Repr

/-! ### Finding settings -/

namespace Setting

def volume? : Setting → Option Path
  | .volume path => some path
  | _ => none

def keyfile? : Setting → Option Path
  | .keyfile path => some path
  | _ => none

def size? : Setting → Option UInt64
  | .size bytes => some bytes
  | _ => none

def memory? : Setting → Option UInt32
  | .memory kib => some kib
  | _ => none

def time? : Setting → Option UInt32
  | .time passes => some passes
  | _ => none

def lanes? : Setting → Option UInt32
  | .lanes count => some count
  | _ => none

def output? : Setting → Option Path
  | .output path => some path
  | _ => none

def fromFile? : Setting → Option Path
  | .fromFile path => some path
  | _ => none

end Setting

namespace Given

variable {α : Type}

def find? (given : List Given) (setting? : Setting → Option α) : Option α :=
  given.findSome? fun one => setting? one.setting

def has (given : List Given) (setting : Setting) : Bool :=
  given.any fun one => one.setting = setting

def costs (given : List Given) : Costs :=
  ⟨find? given Setting.memory?, find? given Setting.time?, find? given Setting.lanes?⟩

/-- Keyfiles in the order in which they are given. -/
def keyfiles (given : List Given) : List Path :=
  given.reverse.filterMap fun one => one.setting.keyfile?

end Given

/-! ### Invocations -/

namespace Command

/-- Size of the data area unless one is given. -/
def standardSize : UInt64 := 1048576

/-- A command with the settings that follow it. -/
def ofGiven (verb : Verb) (given : List Given) : Except Stop Command :=
  match verb with
  | .create =>
      .ok (.create ((Given.find? given Setting.size?).getD standardSize) (Given.costs given))
  | .info => .ok (.info (Given.has given .json))
  | .backup => .ok (.backup (Given.find? given Setting.output?))
  | .restore =>
      match Given.find? given Setting.fromFile?, Given.has given .embedded with
      | some _, true => .error (.usage (.conflict "from-file" "embedded"))
      | fromFile, embedded => .ok (.restore fromFile embedded)
  | .upgradeKdf => .ok (.upgradeKdf (Given.costs given))

end Command

namespace Invocation

/-- The variable that names the volume. -/
def volumeVariable : String := "VOLKEY_VOLUME"

/-- The volume by the options before and after the command, or by the variable. An empty variable is
a mistake wherever the option does not stand in its way. -/
def chooseVolume (named : Option String) (before after : Option Path) :
    Except Stop (Option Path) :=
  if named = some "" ∧ ¬(before.isSome ∧ after.isSome) then
    .error (.usage (.invalidValue "volume" ""))
  else
    .ok ((after.or before).or (named.map Path.mk))

/-- The later place wins if it gives any keyfile. -/
def chooseKeyfiles (before after : List Path) : List Path :=
  if after = [] then before else after

def ofArguments (vars : Variables) (arguments : Arguments) : Except Stop Invocation := do
  let some verb := arguments.verb | throw (.usage .missingCommand)
  let command ← Command.ofGiven verb arguments.after
  let volume ← chooseVolume (vars.get? volumeVariable)
    (Given.find? arguments.before Setting.volume?) (Given.find? arguments.after Setting.volume?)
  let all := arguments.after ++ arguments.before
  return {
    volume
    keyfiles := chooseKeyfiles (Given.keyfiles arguments.before) (Given.keyfiles arguments.after)
    assumeYes := Given.has all .assumeYes
    softwareAes := Given.has all .softwareAes
    command }

/-- Reads a whole command line. -/
def parse (vars : Variables) (arguments : List String) : Except Stop Invocation := do
  ofArguments vars (← Arguments.read arguments)

end Invocation

end HeaderVault
