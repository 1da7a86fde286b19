/-!
Sets of characters that are given by runs of code points.
-/

namespace HeaderVault.Text

/-- First and last code point of each run, in ascending order. -/
abbrev Runs := List (Nat × Nat)

def Runs.contains (runs : Runs) (c : Char) : Bool :=
  runs.any fun (first, last) => first ≤ c.toNat && c.toNat ≤ last

end HeaderVault.Text
