import HeaderVault.Files.Saving

/-!
What the operations on files leave alone.

`get?_put` and `get?_erase` describe the two ways in which entries change. A path says where it
leads before any file is looked at (`Path.location`); walking along it either fails or ends there
(`resolve_eq`). Where no directory and no entry is lost, paths that could be followed still can be,
and lead to the same place (`Grows`, `resolve_of_grows`).

`Keeps` is stronger: every entry is still there with its contents. Creating files and directories
keeps everything; saving a file keeps everything but the file that is replaced
(`Saving.replaces`).
-/

namespace HeaderVault

/-! ### Where paths lead -/

/-- The place that one piece of a path leads to. -/
def Path.enter (location : Location) (piece : String) : Location :=
  if piece = "." then location else if piece = ".." then location.tail else piece :: location

/-- The place that the pieces of a path lead to. -/
def Path.follow (path : Path) (working : Location) (pieces : List String) : Location :=
  pieces.foldl Path.enter (if path.isAbsolute then [] else working)

/-- The place that a path leads to. -/
def Path.location (path : Path) (working : Location) : Location := path.follow working path.steps

namespace FileSystem

/-! ### Entries -/

@[simp]
theorem get?_nil (files : FileSystem) : files.get? [] = some .directory := by
  simp [get?]

theorem get?_erase (files : FileSystem) {location other : Location} (different : other ≠ location) :
    (files.erase location).get? other = files.get? other := by
  unfold get? erase
  split
  · rfl
  · congr 1
    rw [List.find?_filter]
    congr 1
    funext entry
    by_cases same : entry.1 = other <;> simp [same, different]

theorem get?_erase_self (files : FileSystem) {location : Location} (inside : location ≠ []) :
    (files.erase location).get? location = none := by
  simp [get?, erase, inside, List.find?_eq_none]

theorem get?_put_self (files : FileSystem) {location : Location} (inside : location ≠ [])
    (node : Node) : (files.put location node).get? location = some node := by
  simp [get?, put, inside]

theorem get?_put (files : FileSystem) {location other : Location} (different : other ≠ location)
    (node : Node) : (files.put location node).get? other = files.get? other := by
  rw [← get?_erase files different]
  unfold get? put
  split
  · rfl
  · rw [List.find?_cons_of_neg (by simpa using different.symm)]

/-- The entry that was made last counts. -/
@[simp]
theorem put_put (files : FileSystem) (location : Location) (former node : Node) :
    (files.put location former).put location node = files.put location node := by
  simp [put, erase, List.filter_filter]

theorem isDirectoryAt_iff {files : FileSystem} {location : Location} :
    files.isDirectoryAt location = true ↔ files.get? location = some .directory := by
  simp [isDirectoryAt]

/-- A file is not at the root. -/
theorem ne_nil_of_file {files : FileSystem} {location : Location} {content : Bytes}
    (found : files.get? location = some (.file content)) : location ≠ [] := by
  rintro rfl
  simp at found

theorem contentAt_eq_ok {files : FileSystem} {location : Location} {content : Bytes} :
    files.contentAt location = .ok content ↔ files.get? location = some (.file content) := by
  unfold contentAt
  constructor
  · intro ok
    split at ok
    · next found =>
        cases ok
        exact found
    · cases ok
    · cases ok
  · intro found
    rw [found]

theorem describe_eq_ok {α : Type} {context : String} {result : Except FileFault α}
    {value : α} : describe context result = .ok value ↔ result = .ok value := by
  cases result with
  | ok found =>
      constructor
      · intro ok
        change Except.ok found = Except.ok value at ok
        cases ok
        rfl
      · intro ok
        cases ok
        rfl
  | error fault =>
      constructor
      · intro ok
        change Except.error _ = Except.ok value at ok
        cases ok
      · intro ok
        cases ok

/-! ### Following paths -/

theorem step_eq {files : FileSystem} {location next : Location} {piece : String}
    (ok : files.step location piece = .ok next) : next = Path.enter location piece := by
  unfold step at ok
  unfold Path.enter
  split at ok
  · cases ok
  split at ok
  · next dot => cases ok; rw [if_pos dot]
  split at ok
  · next dot up => cases ok; rw [if_neg dot, if_pos up]
  split at ok
  · cases ok
  split at ok
  · cases ok
  · next dot up _ _ => cases ok; rw [if_neg dot, if_neg up]

theorem steps_eq {files : FileSystem} {start next : Location} {pieces : List String}
    (ok : pieces.foldlM files.step start = .ok next) : next = pieces.foldl Path.enter start := by
  induction pieces generalizing start with
  | nil => cases ok; rfl
  | cons piece rest ih =>
      rw [List.foldlM_cons] at ok
      cases first : files.step start piece with
      | error fault => rw [first] at ok; cases ok
      | ok middle =>
          rw [first] at ok
          rw [List.foldl_cons, ← step_eq first]
          exact ih ok

/-- Whether steps can be taken at all depends on the text of a path alone. -/
theorem walk_eq_ok {files : FileSystem} {path : Path} {pieces : List String} {location : Location} :
    files.walk path pieces = .ok location ↔
      (path.hasNul = false ∧ path.text ≠ "" ∧ path.text.utf8ByteSize ≤ maxPath) ∧
        pieces.foldlM files.step (if path.isAbsolute then [] else files.working) = .ok location := by
  constructor
  · intro ok
    unfold walk at ok
    split at ok
    · cases ok
    next nul =>
    split at ok
    · cases ok
    next empty =>
    split at ok
    · cases ok
    next long => exact ⟨⟨by simpa using nul, empty, Nat.not_lt.mp long⟩, ok⟩
  · rintro ⟨⟨nul, empty, short⟩, steps⟩
    rw [walk, if_neg (by simp [nul]), if_neg empty, if_neg (Nat.not_lt.mpr short), steps]

theorem walk_eq {files : FileSystem} {path : Path} {pieces : List String} {location : Location}
    (ok : files.walk path pieces = .ok location) : location = path.follow files.working pieces :=
  steps_eq (walk_eq_ok.mp ok).2

theorem resolve_eq_ok {files : FileSystem} {path : Path} {location : Location} :
    files.resolve path = .ok location ↔
      files.walk path path.steps = .ok location ∧
        (path.endsWithSlash = true → files.isDirectoryAt location = true) := by
  constructor
  · intro ok
    obtain ⟨found, walked, ok⟩ := exists_of_bind ok
    split at ok
    · cases ok
    · next fits =>
        cases ok
        refine ⟨walked, fun slash => ?_⟩
        simpa [slash] using fits
  · rintro ⟨walked, fits⟩
    rw [resolve, walked]
    change (if _ then _ else _) = _
    rw [if_neg]
    · rfl
    · cases slash : path.endsWithSlash with
      | false => simp
      | true => simp [fits slash]

/-- A path that can be followed ends where it says. -/
theorem resolve_eq {files : FileSystem} {path : Path} {location : Location}
    (ok : files.resolve path = .ok location) : location = path.location files.working :=
  walk_eq (resolve_eq_ok.mp ok).1

/-- A path that would put an entry into a directory leads through it, by the name of the entry. -/
theorem resolveParent_eq_ok {files : FileSystem} {path : Path} {directory : Location} {name : String}
    (ok : files.resolveParent path = .ok (directory, some name)) :
    files.walk path path.steps.dropLast = .ok directory ∧ files.isDirectoryAt directory = true ∧
      path.steps = path.steps.dropLast ++ [name] ∧ name ≠ "." ∧ name ≠ ".." := by
  obtain ⟨found, walked, ok⟩ := exists_of_bind ok
  split at ok
  · cases ok
  · next inside =>
    injection ok with pair
    injection pair with same last
    subst same
    obtain ⟨last, proper⟩ := Option.filter_eq_some_iff.mp last
    refine ⟨walked, by simpa using inside, ?_, by simpa using proper⟩
    have nonempty : path.steps ≠ [] := by
      intro empty
      rw [empty] at last
      cases last
    rw [List.getLast?_eq_some_getLast nonempty] at last
    injection last with last
    rw [← last, List.dropLast_concat_getLast]

/-- The directory and the name that a path ends with make up the place it leads to. -/
theorem resolveParent_eq {files : FileSystem} {path : Path} {directory : Location} {name : String}
    (ok : files.resolveParent path = .ok (directory, some name)) :
    name :: directory = path.location files.working := by
  obtain ⟨walked, -, split, notDot, notUp⟩ := resolveParent_eq_ok ok
  rw [walk_eq walked, Path.location, split, Path.follow, Path.follow, List.dropLast_concat,
    List.foldl_append, List.foldl_cons, List.foldl_nil, Path.enter, if_neg notDot, if_neg notUp]

theorem remove_of_file {files : FileSystem} {path : Path} {location : Location} {content : Bytes}
    (resolved : files.resolve path = .ok location)
    (found : files.get? location = some (.file content)) :
    files.remove path = .ok (files.erase location) := by
  have file : files.isDirectoryAt location = false := by simp [isDirectoryAt, found]
  rw [remove, resolved]
  simp only [bind, Except.bind, file]
  rfl

/-! ### Changes that lose nothing -/

/-- No directory and no entry is lost, and paths start where they did. -/
structure Grows (files changed : FileSystem) : Prop where
  working : changed.working = files.working
  directory : ∀ location, files.isDirectoryAt location = true → changed.isDirectoryAt location = true
  entry : ∀ location, (files.get? location).isSome = true → (changed.get? location).isSome = true

theorem Grows.trans {files middle changed : FileSystem} (first : Grows files middle)
    (second : Grows middle changed) : Grows files changed where
  working := second.working.trans first.working
  directory location found := second.directory location (first.directory location found)
  entry location found := second.entry location (first.entry location found)

/-- A step can still be taken when its directory and the entry that it leads to are still there. -/
theorem step_of_kept {files changed : FileSystem} {location next : Location} {piece : String}
    (directory : files.isDirectoryAt location = true → changed.isDirectoryAt location = true)
    (entry : (files.get? next).isSome = true → (changed.get? next).isSome = true)
    (ok : files.step location piece = .ok next) : changed.step location piece = .ok next := by
  unfold step at ok ⊢
  split at ok
  · cases ok
  next inside =>
  rw [if_neg (by simpa using directory (by simpa using inside))]
  split at ok
  · next dot => rw [if_pos dot]; exact ok
  next dot =>
  rw [if_neg dot]
  split at ok
  · next up => rw [if_pos up]; exact ok
  next up =>
  rw [if_neg up]
  split at ok
  · cases ok
  next short =>
  rw [if_neg short]
  split at ok
  · cases ok
  next known =>
  cases ok
  have kept := entry (Option.isSome_iff_ne_none.mpr (by simpa using known))
  rw [if_neg (by simpa using Option.isSome_iff_ne_none.mp kept)]

theorem step_of_grows {files changed : FileSystem} (grows : Grows files changed)
    {location next : Location} {piece : String} (ok : files.step location piece = .ok next) :
    changed.step location piece = .ok next :=
  step_of_kept (grows.directory location) (grows.entry next) ok

theorem steps_of_grows {files changed : FileSystem} (grows : Grows files changed)
    {start next : Location} {pieces : List String} (ok : pieces.foldlM files.step start = .ok next) :
    pieces.foldlM changed.step start = .ok next := by
  induction pieces generalizing start with
  | nil => exact ok
  | cons piece rest ih =>
      rw [List.foldlM_cons] at ok ⊢
      obtain ⟨middle, first, ok⟩ := exists_of_bind ok
      rw [step_of_grows grows first]
      exact ih ok

theorem walk_of_grows {files changed : FileSystem} (grows : Grows files changed) {path : Path}
    {pieces : List String} {location : Location} (walked : files.walk path pieces = .ok location) :
    changed.walk path pieces = .ok location := by
  rw [walk_eq_ok] at walked ⊢
  rw [grows.working]
  exact walked.imp_right (steps_of_grows grows)

/-- Paths that could be followed still lead to the same place. -/
theorem resolve_of_grows {files changed : FileSystem} (grows : Grows files changed) {path : Path}
    {location : Location} (ok : files.resolve path = .ok location) :
    changed.resolve path = .ok location := by
  obtain ⟨walked, fits⟩ := resolve_eq_ok.mp ok
  exact resolve_eq_ok.mpr
    ⟨walk_of_grows grows walked, fun slash => grows.directory location (fits slash)⟩

/-- So do paths to a directory that was there. -/
theorem resolveParent_of_grows {files changed : FileSystem} (grows : Grows files changed)
    {path : Path} {parent : Location × Option String} (ok : files.resolveParent path = .ok parent) :
    changed.resolveParent path = .ok parent := by
  obtain ⟨directory, walked, ok⟩ := exists_of_bind ok
  rw [resolveParent, walk_of_grows grows walked]
  split at ok
  · cases ok
  · next inside =>
    have inside := grows.directory directory (by simpa using inside)
    change (if _ then _ else _) = _
    rw [if_neg (by simpa using inside)]
    exact ok

/-- A step starts in a directory. -/
theorem isDirectoryAt_of_step {files : FileSystem} {location next : Location} {piece : String}
    (ok : files.step location piece = .ok next) : files.isDirectoryAt location = true := by
  unfold step at ok
  split at ok
  · cases ok
  · next inside => simpa using inside

/-- Steps to a directory can still be taken when no directory is lost. -/
theorem steps_of_directories {files changed : FileSystem}
    (kept : ∀ location, files.isDirectoryAt location = true → changed.isDirectoryAt location = true)
    {start next : Location} {pieces : List String} (ok : pieces.foldlM files.step start = .ok next)
    (directory : files.isDirectoryAt next = true) : pieces.foldlM changed.step start = .ok next := by
  induction pieces generalizing start with
  | nil => exact ok
  | cons piece rest ih =>
      rw [List.foldlM_cons] at ok ⊢
      obtain ⟨middle, first, ok⟩ := exists_of_bind ok
      have inside : files.isDirectoryAt middle = true := by
        cases rest with
        | nil =>
            cases ok
            exact directory
        | cons piece rest =>
            rw [List.foldlM_cons] at ok
            obtain ⟨_, second, -⟩ := exists_of_bind ok
            exact isDirectoryAt_of_step second
      have there : (changed.get? middle).isSome = true := by
        rw [isDirectoryAt_iff.mp (kept middle inside)]
        rfl
      rw [step_of_kept (kept start) (fun _ => there) first]
      exact ih ok

/-- An entry is found under a path that names it, when no directory is lost. -/
theorem resolve_of_parent {files changed : FileSystem} {path : Path} {directory : Location}
    {name : String} {node : Node} (working : changed.working = files.working)
    (kept : ∀ location, files.isDirectoryAt location = true → changed.isDirectoryAt location = true)
    (parent : files.resolveParent path = .ok (directory, some name))
    (short : name.utf8ByteSize ≤ maxName) (found : changed.get? (name :: directory) = some node)
    (fits : path.endsWithSlash = true → node = .directory) :
    changed.resolve path = .ok (name :: directory) := by
  obtain ⟨walked, inside, split, notDot, notUp⟩ := resolveParent_eq_ok parent
  have last : changed.step directory name = .ok (name :: directory) := by
    unfold step
    simp [kept directory inside, found, notDot, notUp, Nat.not_lt.mpr short]
  refine resolve_eq_ok.mpr ⟨?_, fun slash => isDirectoryAt_iff.mpr (fits slash ▸ found)⟩
  rw [walk_eq_ok] at walked ⊢
  rw [working, split, List.foldlM_append]
  refine walked.imp_right fun steps => ?_
  rw [steps_of_directories kept steps inside]
  change List.foldlM changed.step directory [name] = _
  rw [List.foldlM_cons, last]
  rfl

theorem isDirectory_iff {files : FileSystem} {path : Path} :
    files.isDirectory path = true ↔
      ∃ location, files.resolve path = .ok location ∧ files.isDirectoryAt location = true := by
  unfold isDirectory
  cases files.resolve path <;> simp

theorem isDirectory_of_grows {files changed : FileSystem} (grows : Grows files changed) {path : Path}
    (found : files.isDirectory path = true) : changed.isDirectory path = true := by
  obtain ⟨location, resolved, inside⟩ := isDirectory_iff.mp found
  exact isDirectory_iff.mpr
    ⟨location, resolve_of_grows grows resolved, grows.directory location inside⟩

/-- Every entry is still there, with its contents. -/
structure Keeps (files changed : FileSystem) : Prop where
  working : changed.working = files.working
  get? : ∀ location node, files.get? location = some node → changed.get? location = some node

theorem Keeps.refl (files : FileSystem) : Keeps files files := ⟨rfl, fun _ _ found => found⟩

theorem Keeps.trans {files middle changed : FileSystem} (first : Keeps files middle)
    (second : Keeps middle changed) : Keeps files changed where
  working := second.working.trans first.working
  get? location node found := second.get? location node (first.get? location node found)

/-- A file has taken its place; every other entry is still there, with its contents, and no other file
is new. -/
structure Replaces (target : Location) (data : Bytes) (files changed : FileSystem) : Prop where
  working : changed.working = files.working
  replaced : changed.get? target = some (.file data)
  noDirectory : files.get? target ≠ some .directory
  get? : ∀ location ≠ target, ∀ node,
    files.get? location = some node → changed.get? location = some node
  files : ∀ location ≠ target, ∀ content,
    changed.get? location = some (.file content) → files.get? location = some (.file content)

theorem Keeps.grows {files changed : FileSystem} (keeps : Keeps files changed) :
    Grows files changed where
  working := keeps.working
  directory location found :=
    isDirectoryAt_iff.mpr (keeps.get? location _ (isDirectoryAt_iff.mp found))
  entry location found := by
    obtain ⟨node, found⟩ := Option.isSome_iff_exists.mp found
    rw [keeps.get? location node found]
    rfl

theorem Replaces.grows {target : Location} {data : Bytes} {files changed : FileSystem}
    (replaces : Replaces target data files changed) : Grows files changed where
  working := replaces.working
  directory location found := by
    rw [isDirectoryAt_iff] at found ⊢
    have other : location ≠ target := by
      rintro rfl
      exact replaces.noDirectory found
    exact replaces.get? location other _ found
  entry location found := by
    by_cases same : location = target
    · rw [same, replaces.replaced]
      rfl
    · obtain ⟨node, found⟩ := Option.isSome_iff_exists.mp found
      rw [replaces.get? location same node found]
      rfl

end FileSystem

end HeaderVault
