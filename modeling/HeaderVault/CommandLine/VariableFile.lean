import HeaderVault.Bytes
import HeaderVault.CommandLine.Variables
import HeaderVault.Text.Blank
import HeaderVault.Text.WordCharacter

/-!
Files that define variables, one assignment a line.

A line is empty, a comment after a number sign, or a name, an equals sign and a value. Parts of a
value may stand in single quotes, which keep everything as it is, or in double quotes, between which
a backslash spells special characters. A dollar sign takes in the value of another variable, outside
of single quotes. A quotation that is open at the end of a line goes on in the next one.

A file is read up to its first mistake; what was assigned before stays assigned.
-/

namespace HeaderVault.VariableFile

/-! ### Lines that belong together -/

/-- Where a text stands with its quotations. -/
inductive Quotation where
  | outside
  /-- Outside and after a blank, where a comment may start. -/
  | blank
  | outsideEscape
  | single
  | singleEscape
  | double
  | doubleEscape
  deriving DecidableEq, Repr

namespace Quotation

/-- A character outside of quotations. -/
def enter (c : Char) : Quotation :=
  match c with
  | '\\' => .outsideEscape
  | '"' => .double
  | '\'' => .single
  | _ => .outside

def next (quotation : Quotation) (c : Char) : Quotation :=
  match quotation with
  | .outside => if Text.isBlank c ∧ c ≠ '\n' ∧ c ≠ '\r' then .blank else enter c
  | .blank => enter c
  | .outsideEscape => .outside
  | .single => if c = '\\' then .singleEscape else if c = '\'' then .outside else .single
  | .singleEscape => .single
  | .double => if c = '\\' then .doubleEscape else if c = '"' then .outside else .double
  | .doubleEscape => .double

/-- Follows a text up to a comment. What comes out is the text before the comment, and where it
stands at the end if there is no comment. -/
def follow : Quotation → List Char → List Char × Option Quotation
  | quotation, [] => ([], some quotation)
  | quotation, c :: rest =>
      if quotation = .blank ∧ c = '#' then
        ([], none)
      else
        let (kept, last) := follow (quotation.next c) rest
        (c :: kept, last)

end Quotation

/-- Leaves out the end of a line. -/
def withoutLineEnd (line : List Char) : List Char :=
  match line.reverse with
  | '\n' :: '\r' :: rest => rest.reverse
  | '\n' :: rest => rest.reverse
  | _ => line

def isComment (line : List Char) : Bool := (Text.trimStart line).head? == some '#'

/-- Lines in one text, the last one first. -/
def joined (reversed : List (List Char)) : List Char := reversed.reverse.flatten

/-- Joins the lines of a file where quotations go on. The lines that are still open are given with
the last one first. A line that is no text, or that is never finished, is a mistake (`none`). -/
def joinLines : (opened : List (List Char)) → Quotation → List (Option (List Char)) →
    List (Option (List Char))
  | _, quotation, [] => if quotation = .outside then [] else [none]
  | _, _, none :: _ => [none]
  | opened, quotation, some line :: rest =>
      if quotation = .outside ∧ isComment line then
        joinLines [] .outside rest
      else
        match quotation.follow line with
        | (kept, none) => some (joined (kept :: opened)) :: joinLines [] .outside rest
        | (_, some .outside) =>
            some (withoutLineEnd (joined (line :: opened))) :: joinLines [] .outside rest
        | (_, some quotation) => joinLines (line :: opened) quotation rest

/-! ### Values -/

/-- Where a value stands after some of its characters. -/
inductive Place where
  | plain
  /-- After the value, where only blanks and a comment may follow. -/
  | ended
  | single
  | double
  /-- After a backslash; double quotes may be open. -/
  | escape (quoted : Bool)
  /-- In the name of a variable after a dollar sign; what has been read of it, backwards. -/
  | name (quoted : Bool) (reversed : List Char)
  /-- In a name between braces. -/
  | braced (quoted : Bool) (reversed : List Char)
  deriving DecidableEq, Repr

def Place.between (quoted : Bool) : Place := if quoted then .double else .plain

/-- A character that a backslash stands before. -/
def escaped? (c : Char) : Option Char :=
  match c with
  | '\\' | '\'' | '"' | '$' | ' ' => some c
  | 'n' => some '\n'
  | _ => none

/-- What a dollar sign with a name stands for, which is given backwards. -/
def valueOf (vars : Variables) (reversed : List Char) : List Char :=
  (vars.behind? reversed.reverse).getD []

/-- Reads a value from a place on. -/
def readValue (vars : Variables) : Place → List Char → Option (List Char)
  | place, [] =>
      match place with
      | .plain | .ended | .escape false => some []
      | .name false reversed => some (valueOf vars reversed)
      | _ => none
  | .plain, c :: rest =>
      match c with
      | '$' => readValue vars (.name false []) rest
      | '\'' => readValue vars .single rest
      | '"' => readValue vars .double rest
      | '\\' => readValue vars (.escape false) rest
      | ' ' | '\t' => readValue vars .ended rest
      | _ => (readValue vars .plain rest).map (c :: ·)
  | .ended, c :: rest =>
      match c with
      | ' ' | '\t' => readValue vars .ended rest
      | '#' => some []
      | _ => none
  | .single, c :: rest =>
      if c = '\'' then readValue vars .plain rest
      else (readValue vars .single rest).map (c :: ·)
  | .double, c :: rest =>
      match c with
      | '$' => readValue vars (.name true []) rest
      | '"' => readValue vars .plain rest
      | '\\' => readValue vars (.escape true) rest
      | _ => (readValue vars .double rest).map (c :: ·)
  | .escape quoted, c :: rest => do
      let meant ← escaped? c
      return meant :: (← readValue vars (.between quoted) rest)
  | .name quoted reversed, c :: rest =>
      if Text.isWordCharacter c then
        readValue vars (.name quoted (c :: reversed)) rest
      else if c = '{' ∧ reversed = [] then
        readValue vars (.braced quoted []) rest
      else if c = '$' then
        (readValue vars (.name quoted []) rest).map (valueOf vars reversed ++ ·)
      else
        (readValue vars (.between quoted) rest).map (valueOf vars reversed ++ c :: ·)
  | .braced quoted reversed, c :: rest =>
      if c = '}' then
        (readValue vars (.between quoted) rest).map (valueOf vars reversed ++ ·)
      else
        readValue vars (.braced quoted (c :: reversed)) rest

/-! ### Assignments -/

def startsName (c : Char) : Bool := c.isAlpha || c == '_'

def continuesName (c : Char) : Bool := c.isAlphanum || c == '_' || c == '.'

/-- A name, and what follows it after blanks. -/
def readName (text : List Char) : Option (List Char × List Char) :=
  match text with
  | c :: _ =>
      if startsName c then
        some (text.takeWhile continuesName, Text.trimStart (text.dropWhile continuesName))
      else none
  | [] => none

/-- A name and what follows its equals sign. The word in front that marks a variable for other
programs may be left out, and may be a name itself. -/
def readTarget (text : List Char) : Option (List Char × List Char) := do
  let (name, rest) ← readName text
  match rest with
  | '=' :: value => return (name, Text.trimStart value)
  | _ =>
      if name = "export".toList then
        match ← readName rest with
        | (name, '=' :: value) => return (name, Text.trimStart value)
        | _ => none
      else none

/-- Carries out the assignment of a line, if there is one. -/
def assign (vars : Variables) (line : List Char) : Option Variables :=
  match Text.trimStart (Text.trimEnd line) with
  | [] | '#' :: _ => some vars
  | text => do
      let (name, value) ← readTarget text
      let value ← if isComment value then some [] else readValue vars .plain value
      return vars.define (String.ofList name) (String.ofList value)

/-- Carries out the assignments of lines up to the first mistake. -/
def assignAll : Variables → List (Option (List Char)) → Variables
  | vars, some line :: rest =>
      match assign vars line with
      | some changed => assignAll changed rest
      | none => vars
  | vars, _ => vars

/-! ### Files -/

/-- The lines of a file, each with its end. -/
def splitLines : Bytes → List Bytes
  | [] => []
  | byte :: rest =>
      if byte = 10 then
        [byte] :: splitLines rest
      else
        match splitLines rest with
        | [] => [[byte]]
        | line :: lines => (byte :: line) :: lines

/-- Three bytes that may stand before everything else. -/
def byteOrderMark : Bytes := [0xef, 0xbb, 0xbf]

def withoutMark (content : Bytes) : Bytes :=
  if content.take 3 = byteOrderMark then content.drop 3 else content

def decodeLine (line : Bytes) : Option (List Char) := (Bytes.toText? line).map String.toList

/-- Defines what a file assigns to names that have no value yet. -/
def load (vars : Variables) (content : Bytes) : Variables :=
  let lines := (splitLines (withoutMark content)).map decodeLine
  assignAll vars (joinLines [] .outside lines)

end HeaderVault.VariableFile
