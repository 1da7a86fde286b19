import HeaderVault.Proofs.Files.Parents

/-!
What saving a file changes.

Creating the directories above a path keeps every entry and makes nothing but directories that the
path leads through (`ensureParents_makes`). The temporary file takes a place where nothing was, so
that it disturbs nothing while it is there and can be removed under its path (`discard_of_file`). In
the end it has replaced the target (`Installed`), is gone again, or stays behind because the disk
refused to take it or to remove it (`Saving`). Writing the directory to the disk comes last, when the
target is replaced already; where the directory is there only the disk can refuse that
(`syncParent_eq_error`).
-/

namespace HeaderVault.FileSystem

/-- A new entry where nothing was keeps all others. -/
theorem put_keeps {files : FileSystem} {location : Location} (free : files.get? location = none)
    (node : Node) : Keeps files (files.put location node) where
  working := rfl
  get? other old found := by
    have different : other ≠ location := by
      rintro rfl
      rw [free] at found
      cases found
    rw [get?_put files different, found]

theorem get?_erase_put {files : FileSystem} {place : Location} (free : files.get? place = none)
    (node : Node) (location : Location) :
    ((files.put place node).erase place).get? location = files.get? location := by
  by_cases same : location = place
  · have inside : place ≠ [] := by
      rintro rfl
      simp at free
    rw [same, get?_erase_self _ inside, free]
  · rw [get?_erase _ same, get?_put _ same]

theorem get?_of_lookup {files : FileSystem} {directory : Location} {name : String}
    {found : Option Node} (ok : files.lookup directory name = .ok found) :
    files.get? (name :: directory) = found := by
  unfold lookup at ok
  split at ok
  · cases ok
  · cases ok
    rfl

theorem short_of_lookup {files : FileSystem} {directory : Location} {name : String}
    {found : Option Node} (ok : files.lookup directory name = .ok found) :
    name.utf8ByteSize ≤ maxName := by
  unfold lookup at ok
  split at ok
  · cases ok
  · next short => exact Nat.not_lt.mp short

/-- A file that is found after an entry was made is that entry, or was there before. -/
theorem file_of_put {files : FileSystem} {location other : Location} {node : Node} {content : Bytes}
    (found : (files.put location node).get? other = some (.file content)) :
    node = .file content ∨ files.get? other = some (.file content) := by
  by_cases same : other = location
  · subst same
    rw [get?_put_self files (ne_nil_of_file found)] at found
    exact .inl (Option.some.inj found)
  · rw [get?_put files same] at found
    exact .inr found

/-! ### Directories -/

/-- Every entry is still there, and what is new is no file. -/
structure AddsDirectories (files changed : FileSystem) : Prop extends Keeps files changed where
  files : ∀ location content, changed.get? location = some (.file content) →
    files.get? location = some (.file content)

theorem AddsDirectories.refl (files : FileSystem) : AddsDirectories files files :=
  ⟨.refl files, fun _ _ found => found⟩

theorem AddsDirectories.trans {files middle changed : FileSystem}
    (first : AddsDirectories files middle) (second : AddsDirectories middle changed) :
    AddsDirectories files changed :=
  ⟨first.toKeeps.trans second.toKeeps, fun location content found =>
    first.files location content (second.files location content found)⟩

/-- Everything is where it was. -/
structure Unaltered (files changed : FileSystem) : Prop where
  working : changed.working = files.working
  get? : ∀ location, changed.get? location = files.get? location

/-- An entry that was made where nothing was and is removed again leaves everything as it was. -/
theorem unaltered_erase_put {files : FileSystem} {place : Location} (free : files.get? place = none)
    (node : Node) : Unaltered files ((files.put place node).erase place) :=
  ⟨rfl, get?_erase_put free node⟩

theorem Unaltered.addsDirectories {files changed : FileSystem} (unaltered : Unaltered files changed) :
    AddsDirectories files changed where
  working := unaltered.working
  get? location _ found := (unaltered.get? location).trans found
  files location _ found := (unaltered.get? location).symm.trans found

/-- Every entry is still there, with its contents, and what is new are directories, at places of one
kind. -/
structure MakesDirectories (places : Location → Prop) (files changed : FileSystem) : Prop
    extends Keeps files changed where
  new : ∀ location node, files.get? location = none → changed.get? location = some node →
    node = .directory ∧ places location

namespace MakesDirectories

variable {places : Location → Prop} {files middle changed : FileSystem}

theorem refl (files : FileSystem) : MakesDirectories places files files :=
  ⟨.refl files, fun _ _ free found => by simp [free] at found⟩

theorem trans (first : MakesDirectories places files middle)
    (second : MakesDirectories places middle changed) : MakesDirectories places files changed := by
  refine ⟨first.toKeeps.trans second.toKeeps, fun location node free found => ?_⟩
  cases between : middle.get? location with
  | none => exact second.new location node between found
  | some old =>
      obtain rfl := Option.some.inj ((second.get? location old between).symm.trans found)
      exact first.new location old free between

theorem of_unaltered (unaltered : Unaltered files changed) :
    MakesDirectories places files changed where
  working := unaltered.working
  get? location _ found := (unaltered.get? location).trans found
  new location node free found := by simp [unaltered.get?, free] at found

theorem addsDirectories (makes : MakesDirectories places files changed) :
    AddsDirectories files changed := by
  refine ⟨makes.toKeeps, fun location content found => ?_⟩
  cases before : files.get? location with
  | none => cases (makes.new location _ before found).1
  | some node => exact (makes.get? location node before).symm.trans found

end MakesDirectories

theorem createDirectory_eq {files changed : FileSystem} {path : Path}
    (ok : files.createDirectory path = .ok changed) :
    ∃ directory name, files.resolveParent path = .ok (directory, some name) ∧
      name.utf8ByteSize ≤ maxName ∧ files.get? (name :: directory) = none ∧
        changed = files.put (name :: directory) .directory := by
  obtain ⟨⟨directory, name⟩, parent, ok⟩ := exists_of_bind ok
  cases name with
  | none => cases ok
  | some name =>
      obtain ⟨found, looked, ok⟩ := exists_of_bind ok
      split at ok
      · cases ok
      next free =>
      cases ok
      exact ⟨directory, name, parent, short_of_lookup looked,
        by simpa [get?_of_lookup looked] using free, rfl⟩

section

variable {places : Location → Prop} {files changed : FileSystem} {path : Path}

theorem createDirectory_makes (place : places (path.location files.working))
    (ok : files.createDirectory path = .ok changed) : MakesDirectories places files changed := by
  obtain ⟨directory, name, parent, -, free, rfl⟩ := createDirectory_eq ok
  refine ⟨put_keeps free _, fun other node absent found => ?_⟩
  have same : other = name :: directory := Decidable.byContradiction fun different => by
    rw [get?_put _ different, absent] at found
    cases found
  subst same
  rw [get?_put_self _ (List.cons_ne_nil _ _)] at found
  exact ⟨(Option.some.inj found).symm, resolveParent_eq parent ▸ place⟩

theorem ensureDirectory_makes (place : places (path.location files.working)) :
    MakesDirectories places files (files.ensureDirectory path).1 := by
  unfold ensureDirectory
  split
  · next changed ok => exact createDirectory_makes place ok
  · split <;> exact .refl files

theorem ensureEach_makes {paths : List Path}
    (place : ∀ path ∈ paths, places (path.location files.working)) :
    MakesDirectories places files (files.ensureEach paths).1 := by
  induction paths generalizing files with
  | nil => exact .refl files
  | cons path rest ih =>
      obtain ⟨here, later⟩ := List.forall_mem_cons.mp place
      have first := ensureDirectory_makes here
      unfold ensureEach
      split
      · next changed eq =>
          rw [eq] at first
          rw [← first.working] at later
          exact first.trans (ih later)
      · exact first

theorem ensureUpwards_makes {above below : List Path}
    (upper : ∀ path ∈ above, places (path.location files.working))
    (lower : ∀ path ∈ below, places (path.location files.working)) :
    MakesDirectories places files (files.ensureUpwards above below).1 := by
  induction above generalizing below with
  | nil => exact ensureEach_makes lower
  | cons path rest ih =>
      obtain ⟨here, upper⟩ := List.forall_mem_cons.mp upper
      have first := ensureDirectory_makes here
      unfold ensureUpwards
      split
      · exact ensureEach_makes lower
      split
      · next changed eq =>
          rw [eq] at first
          rw [← first.working] at lower
          exact first.trans (ensureEach_makes lower)
      · exact ih upper (List.forall_mem_cons.mpr ⟨here, lower⟩)
      · exact first

theorem ensureDirectories_makes (here : places (path.location files.working))
    (above : ∀ parent ∈ path.parents, places (parent.location files.working)) :
    MakesDirectories places files (files.ensureDirectories path).1 := by
  have first := ensureDirectory_makes here
  unfold ensureDirectories
  split
  · exact .refl files
  split
  · exact ensureUpwards_makes above (by simpa using here)
  · exact first

/-- What is made for a path are directories that it leads through. -/
theorem ensureParents_makes (files : FileSystem) (path : Path) :
    MakesDirectories (path.LeadsThrough files.working) files (files.ensureParents path).1 := by
  unfold ensureParents
  split
  · exact .refl files
  next parent found =>
  have above := Path.isAbove_of_parent found
  split
  · exact .refl files
  · exact ensureDirectories_makes above.leadsThrough fun top inside =>
      ((Path.isAbove_of_mem inside).trans above).leadsThrough

theorem ensureParents_addsDirectories (files : FileSystem) (path : Path) :
    AddsDirectories files (files.ensureParents path).1 :=
  (ensureParents_makes files path).addsDirectories

/-! ### Directories that are there in the end -/

theorem ensureDirectory_isDirectory (done : files.ensureDirectory path = (changed, .ok ())) :
    changed.isDirectory path = true := by
  unfold ensureDirectory at done
  split at done
  · next created =>
      cases done
      obtain ⟨directory, name, parent, short, free, rfl⟩ := createDirectory_eq created
      have found := get?_put_self files (List.cons_ne_nil name directory) .directory
      have grows := (put_keeps free .directory).grows
      refine isDirectory_iff.mpr ⟨_, ?_, isDirectoryAt_iff.mpr found⟩
      exact resolve_of_parent grows.working grows.directory parent short found fun _ => rfl
  · split at done
    · next there =>
        cases done
        exact there.2
    · cases done

theorem ensureEach_isDirectory {paths : List Path}
    (done : files.ensureEach paths = (changed, .ok ())) :
    ∀ path ∈ paths, changed.isDirectory path = true := by
  induction paths generalizing files with
  | nil => simp
  | cons path rest ih =>
      unfold ensureEach at done
      split at done
      · next middle first =>
          have later : MakesDirectories (fun _ => True) middle (middle.ensureEach rest).1 :=
            ensureEach_makes fun _ _ => trivial
          rw [done] at later
          have here := ensureDirectory_isDirectory first
          exact List.forall_mem_cons.mpr ⟨isDirectory_of_grows later.toKeeps.grows here, ih done⟩
      · next failed => simp [done] at failed

theorem ensureUpwards_isDirectory {above below : List Path}
    (done : files.ensureUpwards above below = (changed, .ok ())) :
    ∀ path ∈ below, changed.isDirectory path = true := by
  induction above generalizing below with
  | nil => exact ensureEach_isDirectory done
  | cons path rest ih =>
      unfold ensureUpwards at done
      split at done
      · exact ensureEach_isDirectory done
      split at done
      · exact ensureEach_isDirectory done
      · exact (List.forall_mem_cons.mp (ih done)).2
      · next failed _ => exact (failed _ done).elim

theorem ensureDirectories_isDirectory (named : path.text ≠ "")
    (done : files.ensureDirectories path = (changed, .ok ())) : changed.isDirectory path = true := by
  unfold ensureDirectories at done
  rw [if_neg named] at done
  split at done
  · exact ensureUpwards_isDirectory done path List.mem_cons_self
  · exact ensureDirectory_isDirectory done

/-- Where the directories above a path could be made, the nearest one is there. -/
theorem ensureParents_isDirectory (done : files.ensureParents path = (changed, .ok ())) :
    ∀ parent ∈ path.parent, parent.text ≠ "" → changed.isDirectory parent = true := by
  intro parent found named
  unfold ensureParents at done
  rw [Option.mem_def.mp found] at done
  simp only [if_neg named, Prod.mk.injEq, describe_eq_ok] at done
  exact ensureDirectories_isDirectory named (Prod.ext done.1 done.2)

end

/-! ### Names -/

/-- A path leads to an entry of a directory, whether it is there or not. -/
inductive Names (files : FileSystem) (path : Path) : Location → Prop
  | intro {directory : Location} {name : String}
      (parent : files.resolveParent path = .ok (directory, some name))
      (short : name.utf8ByteSize ≤ maxName) (noSlash : path.endsWithSlash = false) :
      Names files path (name :: directory)

namespace Names

variable {files : FileSystem} {path : Path} {location : Location}

theorem ne_nil (names : files.Names path location) : location ≠ [] := by
  cases names with
  | intro => exact List.cons_ne_nil _ _

theorem location_eq (names : files.Names path location) :
    location = path.location files.working := by
  cases names with
  | intro parent => exact resolveParent_eq parent

end Names

/-! ### New files -/

theorem createNew_eq {files created : FileSystem} {path : Path} {location : Location}
    (ok : files.createNew path = .ok (created, location)) :
    files.Names path location ∧ files.get? location = none ∧
      created = files.put location (.file []) := by
  obtain ⟨⟨directory, name⟩, parent, ok⟩ := exists_of_bind ok
  cases name with
  | none => cases ok
  | some name =>
      simp only at ok
      split at ok
      · cases ok
      next noSlash =>
      obtain ⟨found, looked, ok⟩ := exists_of_bind ok
      split at ok
      · cases ok
      next free =>
      cases ok
      exact ⟨⟨parent, short_of_lookup looked, by simpa using noSlash⟩,
        by simpa [get?_of_lookup looked] using free, rfl⟩

/-- A path still leads to a file, when no directory is lost. -/
theorem resolve_of_names {files changed : FileSystem} {path : Path} {location : Location}
    {data : Bytes} (working : changed.working = files.working)
    (kept : ∀ location, files.isDirectoryAt location = true → changed.isDirectoryAt location = true)
    (names : files.Names path location) (found : changed.get? location = some (.file data)) :
    changed.resolve path = .ok location := by
  obtain ⟨parent, short, noSlash⟩ := names
  exact resolve_of_parent working kept parent short found (by simp [noSlash])

/-- A file is read under a path that leads to it, when no directory is lost. -/
theorem read_of_names {files changed : FileSystem} {path : Path} {location : Location} {data : Bytes}
    (working : changed.working = files.working)
    (kept : ∀ location, files.isDirectoryAt location = true → changed.isDirectoryAt location = true)
    (names : files.Names path location) (found : changed.get? location = some (.file data)) :
    changed.read path = .ok data := by
  rw [read, resolve_of_names working kept names found]
  exact contentAt_eq_ok.mpr found

section

variable {files created : FileSystem} {path : Path} {location : Location}

/-- The path of a file that was created leads to it, whatever has been written to it. -/
theorem resolve_of_createNew (ok : files.createNew path = .ok (created, location)) (data : Bytes) :
    (created.put location (.file data)).resolve path = .ok location := by
  obtain ⟨names, free, rfl⟩ := createNew_eq ok
  rw [put_put]
  have grows := (put_keeps free (.file data)).grows
  exact resolve_of_names grows.working grows.directory names (get?_put_self _ names.ne_nil _)

/-- A file that was created is read under its path, with the contents that it is given. -/
theorem read_of_createNew (ok : files.createNew path = .ok (created, location)) (data : Bytes) :
    (created.put location (.file data)).read path = .ok data := by
  have inside := (createNew_eq ok).1.ne_nil
  rw [read, resolve_of_createNew ok data]
  exact contentAt_eq_ok.mpr (get?_put_self _ inside _)

end

/-- A file is removed under its path, unless the disk refuses. -/
theorem discard_of_file {files : FileSystem} {path : Path} {location : Location} {data : Bytes}
    (resolved : files.resolve path = .ok location)
    (found : files.get? location = some (.file data)) (disk : Disk) :
    files.discard path disk =
      if disk.refuses (.remove location) = none then files.erase location else files := by
  rw [discard, resolved, remove_of_file resolved found]
  change ((disk.perform (.remove location)).bind fun _ => _).toOption.getD _ = _
  unfold Disk.perform
  cases disk.refuses (.remove location) <;> rfl

/-- Every entry is still there, and what is new are directories and one file. -/
structure AddsFile (place : Location) (content : Bytes) (files changed : FileSystem) : Prop
    extends Keeps files changed where
  free : files.get? place = none
  added : changed.get? place = some (.file content)
  files : ∀ location ≠ place, ∀ content, changed.get? location = some (.file content) →
    files.get? location = some (.file content)

theorem AddsDirectories.addsFile {files prepared : FileSystem} {place : Location}
    (adds : AddsDirectories files prepared) (free : prepared.get? place = none) (inside : place ≠ [])
    (content : Bytes) : AddsFile place content files (prepared.put place (.file content)) := by
  refine ⟨adds.toKeeps.trans (put_keeps free _), ?_, get?_put_self _ inside _, ?_⟩
  · cases before : files.get? place with
    | none => rfl
    | some node =>
        rw [adds.get? place node before] at free
        cases free
  · intro location other found content
    rw [get?_put _ other] at content
    exact adds.files location found content

/-! ### Taking the place of a file -/

/-- A file takes the place of what its new path leads to. -/
theorem replace_eq {files changed : FileSystem} {source : Location} {path : Path} {data : Bytes}
    (stored : files.get? source = some (.file data)) (ok : files.replace source path = .ok changed) :
    ∃ target, files.Names path target ∧ files.get? target ≠ some .directory ∧
      changed = (files.erase source).put target (.file data) := by
  obtain ⟨⟨directory, name⟩, parent, ok⟩ := exists_of_bind ok
  cases name with
  | none => cases ok
  | some name =>
      obtain ⟨content, read, ok⟩ := exists_of_bind ok
      obtain ⟨old, looked, ok⟩ := exists_of_bind ok
      simp only at ok
      split at ok
      · cases ok
      next noSlash =>
      split at ok
      · cases ok
      next noDirectory =>
      cases ok
      rw [contentAt_eq_ok, stored] at read
      cases read
      refine ⟨_, ⟨parent, short_of_lookup looked, by simpa using noSlash⟩, ?_, rfl⟩
      rwa [get?_of_lookup looked]

/-- A temporary file was made where nothing was, and has taken the place of the target. -/
inductive Installed (files : FileSystem) (target : Path) (data : Bytes) : FileSystem → Prop
  | intro {place location : Location} (free : files.get? place = none) (inside : place ≠ [])
      (names : (files.put place (.file data)).Names target location)
      (noDirectory : (files.put place (.file data)).get? location ≠ some .directory) :
      Installed files target data
        (((files.put place (.file data)).erase place).put location (.file data))

namespace Installed

variable {files changed : FileSystem} {target : Path} {data : Bytes}

theorem of_install {created : FileSystem} {temporary : Path} {place : Location} {disk : Disk}
    (made : files.createNew temporary = .ok (created, place))
    (done : (created.put place (.file data)).install place target disk = .ok changed) :
    Installed files target data changed := by
  obtain ⟨names, free, rfl⟩ := createNew_eq made
  rw [put_put] at done
  obtain ⟨-, -, replaced⟩ := exists_of_bind done
  have stored := get?_put_self files names.ne_nil (.file data)
  obtain ⟨location, target, noDirectory, rfl⟩ := replace_eq stored replaced
  exact .intro free names.ne_nil target noDirectory

/-- Once the temporary file is at the place of the target, every other place is as it was. -/
theorem elsewhere (installed : Installed files target data changed) {location : Location}
    (other : location ≠ target.location files.working) :
    changed.get? location = files.get? location := by
  cases installed with
  | @intro place location free inside names noDirectory =>
      rw [get?_put _ (names.location_eq ▸ other), get?_erase_put free]

/-- The temporary file has taken the place of the target. -/
theorem replaces (installed : Installed files target data changed) :
    Replaces (target.location files.working) data files changed := by
  have kept : ∀ location ≠ target.location files.working, ∀ node,
      files.get? location = some node → changed.get? location = some node :=
    fun location other node found => (installed.elsewhere other).trans found
  have old : ∀ location ≠ target.location files.working, ∀ content,
      changed.get? location = some (.file content) → files.get? location = some (.file content) :=
    fun location other content found => (installed.elsewhere other).symm.trans found
  cases installed with
  | @intro place location free inside names noDirectory =>
      obtain rfl : location = target.location files.working := names.location_eq
      refine ⟨rfl, get?_put_self _ names.ne_nil _, ?_, kept, old⟩
      by_cases same : target.location files.working = place
      · rw [same, free]
        simp
      · rwa [get?_put _ same] at noDirectory

theorem isDirectory (installed : Installed files target data changed)
    (there : ∀ parent ∈ target.parent, parent.text ≠ "" → files.isDirectory parent = true) :
    ∀ parent ∈ target.parent, parent.text ≠ "" → changed.isDirectory parent = true :=
  fun parent found named =>
    isDirectory_of_grows installed.replaces.grows (there parent found named)

/-- What has taken its place is read under its path. -/
theorem read (installed : Installed files target data changed) : changed.read target = .ok data := by
  cases installed with
  | @intro place location free inside names noDirectory =>
      have working : (((files.put place (.file data)).erase place).put location (.file data)).working =
        (files.put place (.file data)).working := rfl
      refine read_of_names working (fun other found => ?_) names (get?_put_self _ names.ne_nil _)
      rw [isDirectoryAt_iff] at found ⊢
      have notTarget : other ≠ location := by
        rintro rfl
        exact noDirectory found
      have notPlace : other ≠ place := by
        rintro rfl
        rw [get?_put_self _ inside] at found
        cases found
      rw [get?_put _ notTarget, get?_erase _ notPlace, found]

/-- A file that is replaced could be seen beforehand, unless the directory that its path leads through
could not be followed. -/
theorem exists_before {before : FileSystem} {content : Bytes} (grows : Grows before files)
    (installed : Installed files target data changed) {parent : Location × Option String}
    (followed : before.resolveParent target = .ok parent)
    (found : before.get? (target.location before.working) = some (.file content)) :
    before.exists? target = true := by
  cases installed with
  | @intro place location free inside names noDirectory =>
      have written := (put_keeps free (.file data)).grows
      cases names with
      | intro leads short noSlash =>
          obtain rfl := Except.ok.inj
            ((resolveParent_of_grows (grows.trans written) followed).symm.trans leads)
          rw [← resolveParent_eq followed] at found
          rw [exists?,
            resolve_of_names rfl (fun _ there => there) ⟨followed, short, noSlash⟩ found]
          rfl

end Installed

/-! ### What the disk refuses -/

/-- What is in a file that stays behind: a part of the data if writing it was refused, and all of it if
the file could not be written out, or not be removed. -/
inductive Untaken (disk : Disk) (file : Location) (data : Bytes) : Bytes → Prop
  | part {fault : FileFault} (refused : disk.refuses (.write file data) = some fault) :
      Untaken disk file data (data.take (disk.reach file data))
  | whole {fault : FileFault} (refused : disk.refuses (.sync file) = some fault) :
      Untaken disk file data data
  | kept {fault : FileFault} (refused : disk.refuses (.remove file) = some fault) :
      Untaken disk file data data

theorem fill_eq_ok {files written : FileSystem} {file : Location} {data : Bytes} {disk : Disk}
    (done : files.fill file data disk = (written, .ok ())) :
    written = files.put file (.file data) := by
  unfold fill at done
  split at done
  · cases done
  · exact (congrArg Prod.fst done).symm

theorem fill_eq_error {files written : FileSystem} {file : Location} {data : Bytes} {disk : Disk}
    {fault : FileFault} (done : files.fill file data disk = (written, .error fault)) :
    ∃ part, Untaken disk file data part ∧ written = files.put file (.file part) := by
  unfold fill at done
  split at done
  · next refused =>
    cases done
    exact ⟨_, .part (Disk.perform_eq_error.mp refused), rfl⟩
  · obtain ⟨rfl, refused⟩ := Prod.mk.inj done
    exact ⟨_, .whole (Disk.perform_eq_error.mp refused), rfl⟩

/-- Where the directory of a path is there, nothing but the disk refuses to write it out. -/
theorem syncParent_eq_error {files : FileSystem} {path : Path} {disk : Disk} {error : Error}
    (there : ∀ parent ∈ path.parent, parent.text ≠ "" → files.isDirectory parent = true)
    (failed : files.syncParent path disk = .error error) :
    ∃ directory fault, disk.refuses (.sync directory) = some fault := by
  unfold syncParent at failed
  split at failed
  · cases failed
  next parent found =>
  split at failed
  · cases failed
  next named =>
  obtain ⟨directory, resolved, -⟩ := isDirectory_iff.mp (there parent found named)
  rw [resolved] at failed
  change describe _ (disk.perform (.sync directory)) = _ at failed
  cases refused : disk.refuses (.sync directory) with
  | some fault => exact ⟨directory, fault, refused⟩
  | none =>
      rw [Disk.perform_eq_ok.mpr refused] at failed
      cases failed

/-! ### The temporary file -/

/-- What becomes of the files when a temporary file is to replace a target. -/
inductive Saving (files : FileSystem) (target : Path) (data : Bytes) (disk : Disk) :
    FileSystem → Except Error Unit → Prop
  /-- There is no temporary file. -/
  | refused {error : Error} : Saving files target data disk files (.error error)
  /-- The temporary file stays behind, because the disk did not take it or did not remove it. -/
  | leftBehind {place : Location} {part : Bytes} {error : Error} (free : files.get? place = none)
      (inside : place ≠ []) (untaken : Untaken disk place data part) :
      Saving files target data disk (files.put place (.file part)) (.error error)
  /-- The temporary file was removed again. -/
  | dropped {place : Location} {error : Error} (free : files.get? place = none) :
      Saving files target data disk ((files.put place (.file data)).erase place) (.error error)
  /-- The temporary file took the place of the target. -/
  | replaced {changed : FileSystem} (installed : Installed files target data changed) :
      Saving files target data disk changed (.ok ())
  /-- So it did, but the directory could not be written out. -/
  | unsynced {changed : FileSystem} {error : Error} (installed : Installed files target data changed)
      (failed : changed.syncParent target disk = .error error) :
      Saving files target data disk changed (.error error)

theorem saving_of_replaceThrough {files changed : FileSystem} {temporary target : Path} {data : Bytes}
    {disk : Disk} {result : Except Error Unit}
    (done : files.replaceThrough temporary target data disk = (changed, result)) :
    Saving files target data disk changed result := by
  unfold replaceThrough at done
  split at done
  · cases done
    exact .refused
  next created place made =>
  split at done
  · next written fault unwritten =>
    cases done
    obtain ⟨part, untaken, rfl⟩ := fill_eq_error unwritten
    obtain ⟨names, free, rfl⟩ := createNew_eq made
    rw [put_put]
    exact .leftBehind free names.ne_nil untaken
  next written filled =>
  obtain rfl := fill_eq_ok filled
  split at done
  · cases done
    have resolved := resolve_of_createNew made data
    obtain ⟨names, free, rfl⟩ := createNew_eq made
    rw [discard_of_file resolved (get?_put_self _ names.ne_nil _), put_put]
    cases refused : disk.refuses (.remove place) with
    | none => exact .dropped free
    | some fault => exact .leftBehind free names.ne_nil (.kept refused)
  · next moved =>
    have installed := Installed.of_install made moved
    cases done
    cases synced : changed.syncParent target disk with
    | ok => exact .replaced installed
    | error error => exact .unsynced installed synced

namespace Saving

variable {files changed : FileSystem} {target : Path} {data : Bytes} {disk : Disk}

/-- The target is replaced, or every file is still there. -/
theorem keeps_or_installed {result : Except Error Unit}
    (saving : Saving files target data disk changed result) :
    Keeps files changed ∨ Installed files target data changed := by
  cases saving with
  | refused => exact .inl (.refl files)
  | leftBehind free => exact .inl (put_keeps free _)
  | dropped free => exact .inl (unaltered_erase_put free _).addsDirectories.toKeeps
  | replaced installed => exact .inr installed
  | unsynced installed => exact .inr installed

theorem installed (saving : Saving files target data disk changed (.ok ())) :
    Installed files target data changed := by
  cases saving with
  | replaced installed => exact installed

/-- There is no file but those that were there before and the one that was to be saved, or what the
disk has not taken of it. -/
theorem files_eq {result : Except Error Unit} {location : Location} {content : Bytes}
    (saving : Saving files target data disk changed result)
    (found : changed.get? location = some (.file content)) :
    content = data ∨ Untaken disk location data content ∨
      files.get? location = some (.file content) := by
  have ofInstalled : Installed files target data changed →
      content = data ∨ files.get? location = some (.file content) := by
    rintro ⟨free, -, -, -⟩
    rcases file_of_put found with new | old
    · exact .inl (Node.file.inj new).symm
    · rw [get?_erase_put free] at old
      exact .inr old
  cases saving with
  | refused => exact .inr (.inr found)
  | @leftBehind place part _ free inside untaken =>
      by_cases same : location = place
      · subst same
        rw [get?_put_self _ inside] at found
        cases found
        exact .inr (.inl untaken)
      · rw [get?_put _ same] at found
        exact .inr (.inr found)
  | dropped free =>
      rw [get?_erase_put free] at found
      exact .inr (.inr found)
  | replaced installed => exact (ofInstalled installed).imp id .inr
  | unsynced installed => exact (ofInstalled installed).imp id .inr

end Saving

end HeaderVault.FileSystem
