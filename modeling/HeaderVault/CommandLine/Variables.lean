/-!
Named texts that surround a run of the program.

A name that is defined once keeps its value: `Variables.define` changes nothing for a name that is
there already.

A variable can be written as one text, which is its name, an equals sign and its value.
`Variables.behind?` searches in these texts, so that a name with an equals sign reaches into a value.
-/

namespace HeaderVault

structure Variables where
  entries : List (String × String)
  deriving DecidableEq, Repr

namespace Variables

def get? (vars : Variables) (name : String) : Option String :=
  (vars.entries.find? fun entry => entry.1 = name).map Prod.snd

/-- Defines a name that has no value yet. -/
def define (vars : Variables) (name value : String) : Variables :=
  if (vars.get? name).isSome then vars else ⟨(name, value) :: vars.entries⟩

/-- The value of a variable that is neither missing nor empty. -/
def nonempty? (vars : Variables) (name : String) : Option String :=
  (vars.get? name).filter fun value => value ≠ ""

/-! ### Written variables -/

/-- Reads variables that are written; a name ends at the first equals sign. -/
def ofWritten (texts : List String) : Variables :=
  ⟨texts.filterMap fun text =>
    match text.toList.span (· ≠ '=') with
    | (name, _ :: value) => some (String.ofList name, String.ofList value)
    | _ => none⟩

/-- What is behind a text at the front of a written variable. -/
def entryBehind? (front : List Char) (entry : String × String) : Option (List Char) :=
  (entry.1.toList.isPrefixOf? front).bind fun rest => rest.isPrefixOf? ('=' :: entry.2.toList)

/-- What is behind a name and an equals sign in the first variable that is written so. -/
def behind? (vars : Variables) (name : List Char) : Option (List Char) :=
  if name = [] then none else vars.entries.findSome? (entryBehind? (name ++ ['=']))

end Variables

end HeaderVault
