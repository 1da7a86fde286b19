/-!
Whole numbers as they are typed: decimal digits, at least one, with an optional sign in front.
-/

namespace HeaderVault.Text

/-- The value of digits; there has to be at least one. -/
def digits? (digits : List Char) : Option Nat :=
  if digits ≠ [] ∧ digits.all Char.isDigit then
    some (digits.foldl (fun value digit => 10 * value + (digit.toNat - '0'.toNat)) 0)
  else
    none

/-- A number that has no sign, or a plus. -/
def unsigned? (text : String) : Option Nat :=
  match text.toList with
  | '+' :: digits => digits? digits
  | digits => digits? digits

/-- A number that has no sign, or either of them. -/
def signed? (text : String) : Option Int :=
  match text.toList with
  | '-' :: digits => (digits? digits).map fun n => -(n : Int)
  | _ => (unsigned? text).map fun n => (n : Int)

end HeaderVault.Text
