import HeaderVault.CommandLine.Arguments

/-!
What the program prints when it starts no command: its version, how it is used, or what is wrong
with the command line.
-/

namespace HeaderVault

def programName : String := "volkey"

def programVersion : String := "0.1.0"

def programPurpose : String :=
  "Volume header maintenance: Argon2 key derivation, header backup, restore and KDF upgrade."

namespace OptionForm

/-- The option as it is written. -/
def usage (form : OptionForm) : String :=
  let short :=
    match form.short with
    | some letter => s!"-{letter}, "
    | none => ""
  let value :=
    match form.kind with
    | .value _ => " <VALUE>"
    | _ => ""
  short ++ "--" ++ form.long ++ value

def helpLine (form : OptionForm) : String := s!"  {form.usage}: {form.purpose}"

end OptionForm

namespace Verb

def helpLine (verb : Verb) : String := s!"  {verb.name}: {verb.purpose}"

end Verb

/-- How the program, or a command of it, is used. -/
def helpLines : Option Verb → List String
  | none =>
      [programPurpose, "", s!"Usage: {programName} [OPTIONS] <COMMAND>", "", "Commands:"] ++
        Verb.all.map Verb.helpLine ++
        ["", "Options:"] ++ (OptionForm.allowed none).map OptionForm.helpLine
  | some verb =>
      [verb.purpose, "", s!"Usage: {programName} {verb.name} [OPTIONS]", "", "Options:"] ++
        (OptionForm.allowed (some verb)).map OptionForm.helpLine

namespace Stop

/-- What is printed on the standard output instead of a run. -/
def output : Stop → String
  | .usage _ => ""
  | .version => s!"{programName} {programVersion}\n"
  | .help verb => "\n".intercalate (helpLines verb) ++ "\n"

def errorOutput : Stop → String
  | .usage fault => s!"error: {fault.message}\n"
  | _ => ""

def exitCode : Stop → UInt8
  | .usage _ => 2
  | .version => 0
  | .help _ => 0

end Stop

end HeaderVault
