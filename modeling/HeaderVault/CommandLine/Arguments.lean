import HeaderVault.CommandLine.Options

/-!
Reading the arguments of a command line one after the other.

An argument is an option, a group of option letters, the value that an option before it waits for,
or the name of the command. Reading stops at the first mistake, and as soon as the version or help
is asked for.
-/

namespace HeaderVault

/-- What is wrong with a command line. -/
inductive UsageFault where
  | unknownOption (argument : String)
  | missingValue (option : String)
  | unwantedValue (option : String)
  | invalidValue (option value : String)
  | repeated (option : String)
  | unexpected (argument : String)
  | missingCommand
  | conflict (first second : String)
  deriving DecidableEq, Repr

def UsageFault.message : UsageFault → String
  | .unknownOption argument => s!"unexpected argument '{argument}' found"
  | .missingValue option => s!"a value is required for '--{option}' but none was supplied"
  | .unwantedValue option => s!"no value can be given to '--{option}'"
  | .invalidValue option value => s!"invalid value '{value}' for '--{option}'"
  | .repeated option => s!"the argument '--{option}' cannot be used multiple times"
  | .unexpected argument => s!"unexpected argument '{argument}' found"
  | .missingCommand => "a command is required but none was given"
  | .conflict first second => s!"the argument '--{first}' cannot be used with '--{second}'"

/-- Why a command line starts no command. -/
inductive Stop where
  | usage (fault : UsageFault)
  | version
  | help (verb : Option Verb)
  deriving DecidableEq, Repr

/-- A setting and the long name of the option that made it. -/
structure Given where
  option : String
  setting : Setting
  deriving DecidableEq, Repr

/-- What the next argument has to be. -/
inductive Expectation where
  | anything
  | value (form : OptionForm) (read : String → Option Setting)
  /-- No argument may follow. -/
  | nothing

/-- The command once it is known, and the settings before and after it, the latest first. -/
structure Arguments where
  verb : Option Verb
  before : List Given
  after : List Given
  expected : Expectation

namespace Arguments

def start : Arguments := ⟨none, [], [], .anything⟩

/-- The settings at the place where the reading is. -/
def here (arguments : Arguments) : List Given :=
  if arguments.verb.isSome then arguments.after else arguments.before

def give (arguments : Arguments) (form : OptionForm) (setting : Setting) : Except Stop Arguments :=
  if !form.repeatable && arguments.here.any (fun given => given.option = form.long) then
    .error (.usage (.repeated form.long))
  else
    let given : Given := ⟨form.long, setting⟩
    if arguments.verb.isSome then
      .ok { arguments with after := given :: arguments.after, expected := .anything }
    else
      .ok { arguments with before := given :: arguments.before, expected := .anything }

def giveValue (arguments : Arguments) (form : OptionForm) (read : String → Option Setting)
    (value : String) : Except Stop Arguments :=
  match read value with
  | some setting => arguments.give form setting
  | none => .error (.usage (.invalidValue form.long value))

/-- An option that stands by itself. -/
def takeOption (arguments : Arguments) (form : OptionForm) : Except Stop Arguments :=
  match form.kind with
  | .version => .error .version
  | .help => .error (.help arguments.verb)
  | .flag setting => arguments.give form setting
  | .value read => .ok { arguments with expected := .value form read }

/-- A long name, and the value that is attached to it with an equals sign. -/
def takeLong (arguments : Arguments) (name : String) (value : Option String) :
    Except Stop Arguments :=
  match OptionForm.long? arguments.verb name, value with
  | none, _ => .error (.usage (.unknownOption s!"--{name}"))
  | some form, none => arguments.takeOption form
  | some form, some value =>
      match form.kind with
      | .value read => arguments.giveValue form read value
      | _ => .error (.usage (.unwantedValue form.long))

/-- What is attached to an option letter, with or without an equals sign. -/
def attached : List Char → List Char
  | '=' :: value => value
  | value => value

/-- A group of option letters; the first one that takes a value takes what is left of the group. -/
def takeLetters (arguments : Arguments) : List Char → Except Stop Arguments
  | [] => .ok arguments
  | letter :: rest =>
      match OptionForm.short? arguments.verb letter with
      | none => .error (.usage (.unknownOption s!"-{letter}"))
      | some form =>
          match form.kind with
          | .value read =>
              if rest = [] then arguments.takeOption form
              else arguments.giveValue form read (String.ofList (attached rest))
          | _ => do takeLetters (← arguments.takeOption form) rest

/-- An argument that is no option. -/
def takeWord (arguments : Arguments) (word : String) : Except Stop Arguments :=
  match arguments.verb, Verb.named? word with
  | none, some verb => .ok { arguments with verb := some verb }
  | _, _ => .error (.usage (.unexpected word))

/-- An argument where an option or a command may stand. -/
def takeFree (arguments : Arguments) (argument : String) : Except Stop Arguments :=
  match argument.toList with
  | ['-', '-'] => .ok { arguments with expected := .nothing }
  | '-' :: '-' :: text =>
      let name := String.ofList (text.takeWhile (· ≠ '='))
      match text.dropWhile (· ≠ '=') with
      | [] => arguments.takeLong name none
      | _ :: value => arguments.takeLong name (some (String.ofList value))
  | '-' :: letter :: rest => arguments.takeLetters (letter :: rest)
  | _ => arguments.takeWord argument

/-- An argument that starts with a dash and goes on. -/
def looksLikeOption (argument : String) : Bool :=
  match argument.toList with
  | '-' :: _ :: _ => true
  | _ => false

def take (arguments : Arguments) (argument : String) : Except Stop Arguments :=
  match arguments.expected with
  | .anything => arguments.takeFree argument
  | .nothing => .error (.usage (.unexpected argument))
  | .value form read =>
      if looksLikeOption argument then .error (.usage (.missingValue form.long))
      else arguments.giveValue form read argument

/-- The command that asks for help. -/
def helpWord : String := "help"

/-- What follows the command that asks for help: at most the name of a command. -/
def helpTopic : List String → Stop
  | [] => .help none
  | [word] =>
      match Verb.named? word with
      | some verb => .help (some verb)
      | none => if word = helpWord then .help none else .usage (.unexpected word)
  | _ :: word :: _ => .usage (.unexpected word)

def asksForHelp (arguments : Arguments) (argument : String) : Bool :=
  match arguments.verb, arguments.expected with
  | none, .anything => argument = helpWord
  | _, _ => false

def readFrom : Arguments → List String → Except Stop Arguments
  | arguments, [] =>
      match arguments.expected with
      | .value form _ => .error (.usage (.missingValue form.long))
      | _ => .ok arguments
  | arguments, argument :: rest =>
      if arguments.asksForHelp argument then .error (helpTopic rest)
      else do readFrom (← arguments.take argument) rest

/-- Reads all arguments. -/
def read (arguments : List String) : Except Stop Arguments := readFrom start arguments

end Arguments

end HeaderVault
