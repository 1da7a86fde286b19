import HeaderVault.Proofs.Files.System

/-!
The paths above a path.

A text is its pieces with slashes between them, and a path that is put together from pieces has just
these (`pieces_intercalate`). Leaving out pieces from the end, of which one counts, gives a path
that starts where the longer one starts and takes the first of its steps (`IsAbove`). Every path
above a path is of this kind (`isAbove_of_mem`, `isAbove_of_parent`).
-/

namespace HeaderVault.Path

/-! ### Pieces -/

theorem splitSlashes_eq_splitOn (text : List Char) : splitSlashes text = text.splitOn '/' := by
  induction text with
  | nil => rfl
  | cons c rest ih =>
      rw [splitSlashes, ih, List.splitOn, List.splitOn, List.splitOnP_cons_eq_if_modifyHead]
      simp only [beq_iff_eq]
      split
      · rfl
      · cases pieces : List.splitOnP (· == '/') rest with
        | nil => exact absurd pieces (List.splitOnP_ne_nil _ _)
        | cons => rfl

theorem not_mem_of_mem_splitSlashes {text piece : List Char} (inside : piece ∈ splitSlashes text) :
    '/' ∉ piece := by
  induction text generalizing piece with
  | nil => simp_all [splitSlashes]
  | cons c rest ih =>
      simp only [splitSlashes] at inside
      split at inside
      · rcases List.mem_cons.mp inside with rfl | inside
        · simp
        · exact ih inside
      next other =>
      split at inside
      · simp_all [Ne.symm other]
      next first pieces split =>
      rcases List.mem_cons.mp inside with rfl | inside
      · simp [Ne.symm other, ih (split ▸ List.mem_cons_self)]
      · exact ih (split ▸ List.mem_cons_of_mem _ inside)

/-- No slash is in the pieces. -/
def Plain (pieces : List String) : Prop := ∀ piece ∈ pieces, '/' ∉ piece.toList

theorem plain_pieces (path : Path) : Plain path.pieces := by
  intro piece inside
  obtain ⟨characters, split, rfl⟩ := List.mem_map.mp inside
  simpa using not_mem_of_mem_splitSlashes split

/-- Pieces with slashes between them are the pieces of their path. -/
theorem pieces_intercalate {pieces : List String} (plain : Plain pieces) (nonempty : pieces ≠ []) :
    Path.pieces ⟨"/".intercalate pieces⟩ = pieces := by
  have slash : "/".toList = ['/'] := rfl
  rw [Path.pieces, splitSlashes_eq_splitOn, String.toList_intercalate, slash,
    List.splitOn_intercalate]
  · simp [Function.comp_def]
  · simpa [Plain] using plain
  · simpa using nonempty

/-- A path is absolute when something comes after a first piece that is empty. -/
theorem isAbsolute_iff (path : Path) :
    path.isAbsolute = true ↔ path.pieces.head? = some "" ∧ path.pieces ≠ [""] := by
  unfold isAbsolute pieces
  cases path.text.toList with
  | nil => simp [splitSlashes]
  | cons c rest =>
      simp only [splitSlashes]
      split
      · next slash => simp [slash, splitSlashes_eq_splitOn, List.splitOn_ne_nil]
      · next other =>
        split <;> simp [other, String.ext_iff]

/-! ### Leaving out pieces -/

/-- No filler is at the end, so that the last piece counts. -/
def Trimmed : (reversed : List String) → Prop
  | piece :: _ :: _ => piece ≠ ""
  | _ => True

/-- Some pieces are left out, the last one first; one of them counts, and none makes the path
absolute. -/
structure Shortens (front reversed : List String) : Prop where
  split : ∃ dropped, reversed = dropped ++ front ∧ ∃ piece ∈ dropped, piece ≠ ""
  start : front.getLast? = some "" ↔ reversed.getLast? = some ""

theorem Shortens.trans {front middle reversed : List String} (first : Shortens front middle)
    (second : Shortens middle reversed) : Shortens front reversed := by
  obtain ⟨inner, rfl, -⟩ := first.split
  obtain ⟨outer, rfl, piece, inside, counts⟩ := second.split
  refine ⟨⟨outer ++ inner, by simp, piece, by simp [inside], counts⟩, ?_⟩
  exact first.start.trans second.start

theorem dropFiller_suffix (reversed : List String) : dropFiller reversed <:+ reversed := by
  fun_induction dropFiller reversed with
  | case1 piece next rest filler ih => exact ih.trans (List.suffix_cons piece _)
  | case2 => exact List.suffix_rfl
  | case3 => exact List.suffix_rfl

theorem getLast?_dropFiller (reversed : List String) :
    (dropFiller reversed).getLast? = reversed.getLast? := by
  fun_induction dropFiller reversed with
  | case1 piece next rest filler ih => rw [ih, List.getLast?_cons_cons]
  | case2 => rfl
  | case3 => rfl

theorem trimmed_dropFiller (reversed : List String) : Trimmed (dropFiller reversed) := by
  fun_induction dropFiller reversed with
  | case1 piece next rest filler ih => exact ih
  | case2 piece next rest counts => exact fun empty => counts (.inl empty)
  | case3 pieces short =>
      match pieces, short with
      | [], _ => trivial
      | [_], _ => trivial
      | piece :: next :: rest, short => exact absurd rfl (short piece next rest)

theorem shortens_of_above? {reversed above : List String} (trimmed : Trimmed reversed)
    (found : above? reversed = some above) : Shortens above reversed ∧ Trimmed above := by
  match reversed, found with
  | [first], found =>
      simp only [above?, Option.ite_none_left_eq_some, Option.some.injEq] at found
      obtain ⟨counts, rfl⟩ := found
      exact ⟨⟨⟨[first], rfl, first, by simp, counts⟩, by simpa using counts⟩, trivial⟩
  | piece :: next :: rest, found =>
      obtain rfl := Option.some.inj found
      obtain ⟨dropped, split⟩ := dropFiller_suffix (next :: rest)
      refine ⟨⟨⟨piece :: dropped, by simp [split], piece, by simp, trimmed⟩, ?_⟩,
        trimmed_dropFiller _⟩
      rw [getLast?_dropFiller, List.getLast?_cons_cons]

theorem exists_of_mem_parentsOf {reversed : List String} {parent : Path} (trimmed : Trimmed reversed)
    (inside : parent ∈ parentsOf reversed) :
    ∃ front, parent = ofReversed front ∧ Shortens front reversed := by
  fun_induction parentsOf reversed with
  | case1 => cases inside
  | case2 reversed above found _ ih =>
      obtain ⟨shortens, trimmed⟩ := shortens_of_above? trimmed found
      rcases List.mem_cons.mp inside with rfl | inside
      · exact ⟨above, rfl, shortens⟩
      · obtain ⟨front, rfl, further⟩ := ih trimmed inside
        exact ⟨front, rfl, further.trans shortens⟩

/-! ### Paths from pieces -/

theorem steps_ofReversed {reversed : List String} (plain : Plain reversed) :
    (ofReversed reversed).steps = reversed.reverse.filter fun piece => piece ≠ "" := by
  unfold ofReversed
  split
  · next root => rw [root]; decide
  by_cases empty : reversed = []
  · rw [empty]; decide
  · rw [steps, pieces_intercalate (by simpa [Plain] using plain) (by simpa using empty)]

theorem isAbsolute_ofReversed {reversed : List String} (plain : Plain reversed) :
    (ofReversed reversed).isAbsolute = true ↔ reversed.getLast? = some "" := by
  unfold ofReversed
  split
  · next root => rw [root]; decide
  next proper =>
  by_cases empty : reversed = []
  · rw [empty]; decide
  · rw [isAbsolute_iff, pieces_intercalate (by simpa [Plain] using plain) (by simpa using empty)]
    simp [proper]

/-! ### Paths above a path -/

/-- A path to a place that another one leads through: it starts where that one starts, and takes the
first of its steps. -/
structure IsAbove (above path : Path) : Prop where
  isAbsolute : above.isAbsolute = path.isAbsolute
  steps : ∃ rest, rest ≠ [] ∧ path.steps = above.steps ++ rest

theorem IsAbove.trans {top above path : Path} (first : top.IsAbove above)
    (second : above.IsAbove path) : top.IsAbove path := by
  obtain ⟨inner, nonempty, lower⟩ := first.steps
  obtain ⟨outer, -, upper⟩ := second.steps
  refine ⟨first.isAbsolute.trans second.isAbsolute, inner ++ outer, by simp [nonempty], ?_⟩
  rw [upper, lower, List.append_assoc]

theorem isAbove_of_mem {parent path : Path} (inside : parent ∈ path.parents) :
    parent.IsAbove path := by
  obtain ⟨front, rfl, shortens⟩ := exists_of_mem_parentsOf (trimmed_dropFiller _) inside
  obtain ⟨filler, cut⟩ := dropFiller_suffix path.pieces.reverse
  obtain ⟨dropped, split, piece, inside, counts⟩ := shortens.split
  have whole : (filler ++ (dropped ++ front)).reverse = path.pieces := by
    rw [← split, cut, List.reverse_reverse]
  have plain : Plain front := fun piece inside =>
    plain_pieces path piece (by simp [← whole, inside])
  have steps : path.steps = (ofReversed front).steps ++
      (dropped.reverse ++ filler.reverse).filter fun piece => piece ≠ "" := by
    rw [steps_ofReversed plain, Path.steps, ← whole]
    simp
  have taken : piece ∈ (dropped.reverse ++ filler.reverse).filter fun piece => piece ≠ "" := by
    simp [inside, counts]
  refine ⟨Bool.eq_iff_iff.mpr ?_, _, List.ne_nil_of_mem taken, steps⟩
  -- The text is not empty, since a step is left out.
  have proper : path.pieces ≠ [""] := by
    intro single
    have step : piece ∈ path.steps := steps ▸ List.mem_append_right _ taken
    simp [Path.steps, single] at step
  rw [isAbsolute_ofReversed plain, isAbsolute_iff, shortens.start, getLast?_dropFiller,
    List.getLast?_reverse]
  simp [proper]

example : (parents ⟨"/a/./b//c/"⟩).map text = ["/a/./b", "/a", "/"] := by cbv

theorem isAbove_of_parent {parent path : Path} (found : path.parent = some parent) :
    parent.IsAbove path :=
  isAbove_of_mem (List.mem_of_mem_head? (by rw [head?_parents, found]; rfl))

/-! ### Places on the way -/

/-- A place that a path leads through before it ends. -/
def LeadsThrough (path : Path) (working location : Location) : Prop :=
  ∃ front rest, path.steps = front ++ rest ∧ rest ≠ [] ∧ location = path.follow working front

theorem IsAbove.leadsThrough {above path : Path} {working : Location} (isAbove : above.IsAbove path) :
    path.LeadsThrough working (above.location working) := by
  obtain ⟨rest, nonempty, steps⟩ := isAbove.steps
  refine ⟨above.steps, rest, steps, nonempty, ?_⟩
  rw [location, follow, follow, isAbove.isAbsolute]

end HeaderVault.Path
