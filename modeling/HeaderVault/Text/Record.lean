/-!
Records written as text, one field a line, in the notation of JSON.

The fields keep their order. A record inside of another one is indented by two more blanks.
-/

namespace HeaderVault.Text

/-- Four hexadecimal digits, for a code point that has no more. -/
def fourDigits (n : Nat) : List Char :=
  let digits := Nat.toDigits 16 n
  List.replicate (4 - digits.length) '0' ++ digits

/-- How a character is spelled in a text of a record: quotes, backslashes and controls are not left
as they are. -/
def recordChar (c : Char) : List Char :=
  match c with
  | '"' => ['\\', '"']
  | '\\' => ['\\', '\\']
  | '\x08' => ['\\', 'b']
  | '\x0c' => ['\\', 'f']
  | '\n' => ['\\', 'n']
  | '\r' => ['\\', 'r']
  | '\t' => ['\\', 't']
  | _ => if c.toNat < 32 then '\\' :: 'u' :: fourDigits c.toNat else [c]

def recordText (text : String) : String :=
  String.ofList ('"' :: text.toList.flatMap recordChar ++ ['"'])

/-- A value without parts. -/
inductive Scalar where
  | text (value : String)
  | number (value : Nat)
  | truth (value : Bool)
  | nothing
  deriving DecidableEq, Repr

def Scalar.render : Scalar → String
  | .text value => recordText value
  | .number value => toString value
  | .truth true => "true"
  | .truth false => "false"
  | .nothing => "null"

/-- A value of a field: one without parts, or a record of such. -/
inductive FieldValue where
  | scalar (value : Scalar)
  | record (fields : List (String × Scalar))
  deriving DecidableEq, Repr

/-- The lines of a record between braces, from their names and rendered values. -/
def renderFields (indent : String) (fields : List (String × String)) : String :=
  let lines := fields.map fun (name, value) => s!"{indent}  {recordText name}: {value}"
  "\x7b\n" ++ ",\n".intercalate lines ++ "\n" ++ indent ++ "\x7d"

def FieldValue.render (indent : String) : FieldValue → String
  | .scalar value => value.render
  | .record fields => renderFields indent (fields.map fun (name, value) => (name, value.render))

def renderRecord (fields : List (String × FieldValue)) : String :=
  renderFields "" (fields.map fun (name, value) => (name, value.render "  "))

end HeaderVault.Text
