/-!
Paths as texts, and what can be said of them without looking at any file.

A path is a text whose pieces are divided by slashes. A piece that is empty or a single dot changes
nothing, except at the very front, where an empty one stands for the root and a dot for the working
directory. `Path.parent` leaves out the last piece that counts, and `Path.fileName` is that piece,
if it names anything.
-/

namespace HeaderVault

structure Path where
  text : String
  deriving DecidableEq, Repr

namespace Path

/-! ### Pieces -/

/-- The parts of a text between slashes; there is always at least one. -/
def splitSlashes : List Char → List (List Char)
  | [] => [[]]
  | c :: rest =>
      if c = '/' then
        [] :: splitSlashes rest
      else
        match splitSlashes rest with
        | [] => [[c]]
        | piece :: pieces => (c :: piece) :: pieces

def pieces (path : Path) : List String := (splitSlashes path.text.toList).map String.ofList

def isAbsolute (path : Path) : Bool := path.text.toList.head? == some '/'

def endsWithSlash (path : Path) : Bool := path.text.toList.getLast? == some '/'

/-- Whether the null character is in the text, as it is in the path of no file. -/
def hasNul (path : Path) : Bool := path.text.toList.contains '\x00'

/-- The pieces that a walk along the path takes, dots among them. -/
def steps (path : Path) : List String := path.pieces.filter fun piece => piece ≠ ""

/-- The last piece that counts, unless it leads upwards. -/
def fileName (path : Path) : Option String :=
  match (path.steps.filter fun piece => piece ≠ ".").getLast? with
  | some ".." => none
  | name => name

/-! ### Parents -/

/-- Leaves out pieces that change nothing, from the last one on; the first one always counts. -/
def dropFiller : (reversed : List String) → List String
  | piece :: next :: rest =>
      if piece = "" ∨ piece = "." then dropFiller (next :: rest) else piece :: next :: rest
  | pieces => pieces

theorem length_dropFiller_le (reversed : List String) :
    (dropFiller reversed).length ≤ reversed.length := by
  induction reversed with
  | nil => simp [dropFiller]
  | cons piece rest ih =>
      cases rest with
      | nil => simp [dropFiller]
      | cons next rest =>
          simp only [dropFiller]
          split
          · exact Nat.le_succ_of_le ih
          · exact Nat.le_refl _

/-- The path with the given pieces, the last one first. -/
def ofReversed (reversed : List String) : Path :=
  if reversed = [""] then ⟨"/"⟩ else ⟨"/".intercalate reversed.reverse⟩

/-- The pieces that are left without the last one that counts; none if that is the root. -/
def above? : (reversed : List String) → Option (List String)
  | [] => none
  | [first] => if first = "" then none else some []
  | _ :: next :: rest => some (dropFiller (next :: rest))

theorem length_lt_of_above? {reversed above : List String} (found : above? reversed = some above) :
    above.length < reversed.length := by
  match reversed, found with
  | [first], found =>
      simp only [above?, Option.ite_none_left_eq_some, Option.some.injEq] at found
      simp [← found.2]
  | _ :: next :: rest, found =>
      have shorter := length_dropFiller_le (next :: rest)
      simp only [above?, Option.some.injEq] at found
      rw [found] at shorter
      exact Nat.lt_succ_of_le shorter

/-- The paths above the one with the given pieces, nearest first. -/
def parentsOf (reversed : List String) : List Path :=
  match found : above? reversed with
  | none => []
  | some above =>
      have := length_lt_of_above? found
      ofReversed above :: parentsOf above
termination_by reversed.length

/-- The paths above a path, nearest first; above the last relative one comes the empty path. -/
def parents (path : Path) : List Path := parentsOf (dropFiller path.pieces.reverse)

/-- The first of the paths above a path. -/
def parent (path : Path) : Option Path := (above? (dropFiller path.pieces.reverse)).map ofReversed

theorem head?_parents (path : Path) : path.parents.head? = path.parent := by
  unfold parents parent parentsOf
  split <;> simp_all

/-! ### Composition -/

/-- A path below another one, unless it is absolute. -/
def join (base : Path) (name : String) : Path :=
  if Path.isAbsolute ⟨name⟩ then ⟨name⟩
  else if base.text = "" ∨ base.endsWithSlash then ⟨base.text ++ name⟩
  else ⟨base.text ++ "/" ++ name⟩

/-- The path of another file in the directory of a file. -/
def withFileName (path : Path) (name : String) : Path :=
  match path.fileName with
  | some _ => (path.parent.getD ⟨""⟩).join name
  | none => path.join name

end Path

end HeaderVault
