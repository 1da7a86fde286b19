import HeaderVault.Text.Runs

/-!
The characters that only make distance: spaces, tabs and the characters that end lines.
-/

namespace HeaderVault.Text

def blankRuns : Runs :=
  [(0x9, 0xd), (0x20, 0x20), (0x85, 0x85), (0xa0, 0xa0), (0x1680, 0x1680), (0x2000, 0x200a),
    (0x2028, 0x2029), (0x202f, 0x202f), (0x205f, 0x205f), (0x3000, 0x3000)]

def isBlank (c : Char) : Bool := blankRuns.contains c

/-- Blanks of a text that come before everything else are left out. -/
def trimStart (text : List Char) : List Char := text.dropWhile isBlank

def trimEnd (text : List Char) : List Char := (text.reverse.dropWhile isBlank).reverse

end HeaderVault.Text
