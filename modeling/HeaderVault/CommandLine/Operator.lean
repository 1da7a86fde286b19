import HeaderVault.CommandLine.Variables
import HeaderVault.Files.Keyfile
import HeaderVault.Session.World

/-!
The operator of a run without a terminal. Whatever is asked has been answered before the run, by the
command line, by a variable or by the standard input, or it is refused.

The password is the value of a variable, or else one line of the input for each time it is asked
for. A step that cannot be undone is confirmed only if the command line says so.
-/

namespace HeaderVault

/-- Answers that are known before a run. -/
structure Preset where
  keyfiles : List Path
  assumeYes : Bool
  /-- The answer to the first question for a file. -/
  file : Option Path
  /-- The answer to the first choice. -/
  choice : Option Nat
  deriving DecidableEq, Repr

namespace Preset

/-- The variable that holds the password. -/
def passwordVariable : String := "VOLKEY_PASSWORD"

/-! ### Lines of the input -/

def newline : UInt8 := 10

def carriageReturn : UInt8 := 13

/-- The line with the given number, without its end, which may be several characters. -/
def line (input : Bytes) : Nat → Bytes
  | 0 => input.takeWhile (· ≠ newline)
  | number + 1 => line ((input.dropWhile (· ≠ newline)).drop 1) number

def withoutReturns (line : Bytes) : Bytes :=
  (line.reverse.dropWhile (· = carriageReturn)).reverse

def readPassword (vars : Variables) (input : Bytes) (asked : Nat) : Except Error Bytes :=
  match vars.nonempty? passwordVariable with
  | some password => .ok password.toUTF8.toList
  | none =>
      let line := line input asked
      if (Bytes.toText? line).isNone then
        .error (.file "cannot read password from stdin" .notText)
      else if withoutReturns line = [] then
        .error (.invalidParams .noPassword)
      else
        .ok (withoutReturns line)

/-! ### Answers -/

def asksPassword : Event → Bool
  | .asked (.password _) _ => true
  | _ => false

def asksFile : Event → Bool
  | .asked (.selectFile _ _) _ => true
  | _ => false

def asksChoice : Event → Bool
  | .asked (.choose _ _) _ => true
  | _ => false

def selectFile (preset : Preset) (history : History) (files : FileSystem) (title : String)
    (mode : FileMode) : Except Error Path :=
  match if history.any asksFile then none else preset.file with
  | none => .error (.invalidParams (.noFile title))
  | some path =>
      if mode = .existing && !files.isFile path then
        .error (.file s!"cannot open {path.text}" .missing)
      else
        .ok path

def choose (preset : Preset) (history : History) (options : List String) : Option Nat :=
  if history.any asksChoice then none
  else preset.choice.filter fun choice => choice < options.length

/-- How a question is answered after what has happened so far. -/
def answer (preset : Preset) (vars : Variables) (input : Bytes) (history : History)
    (files : FileSystem) : (prompt : Prompt) → Except Error prompt.Answer
  | .password _ => readPassword vars input (history.countP asksPassword)
  | .keyfiles => preset.keyfiles.mapM (Keyfile.load files)
  | .selectFile title mode => preset.selectFile history files title mode
  | .confirm _ default warning => .ok (preset.assumeYes || (default && !warning))
  | .choose _ options => .ok (preset.choose history options)
  | .enrichEntropy => .ok ()

end Preset

end HeaderVault
