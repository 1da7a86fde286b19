import HeaderVault.Proofs.Files.Saving
import HeaderVault.Proofs.Session.Slots
import HeaderVault.Proofs.Session.Tracing

/-!
What saving a file does to the world.

Either the file is there with its data, or there is nothing new but directories, unless the disk has
refused something: then a temporary file stays behind, or the file is there although an error is
reported (`SaveEnds`, `saveFile_ends`). A volume in another file does not notice: it is as it was,
slots and file (`Saves.volumeKept`). However saving ends, no file holds anything new but the data, or
what the disk has not taken of it (`saveFile_holds`).
-/

namespace HeaderVault

namespace Disk

/-- At some time the disk refuses a step. -/
def Refuses (disk : History → Disk) (step : DiskStep) : Prop :=
  ∃ history fault, (disk history).refuses step = some fault

/-- At some time the disk refuses to write out a file or a directory. -/
def RefusesSync (disk : History → Disk) : Prop := ∃ place, Refuses disk (.sync place)

/-- At some time the disk does not take a file or does not remove it, and this is what is in it. -/
def Leaves (disk : History → Disk) (file : Location) (data part : Bytes) : Prop :=
  ∃ history, FileSystem.Untaken (disk history) file data part

end Disk

namespace World

/-- The volume is the same, and all files are still there with their contents. -/
structure KeepsFiles (world after : World) : Prop where
  volume : after.volume = world.volume
  files : FileSystem.Keeps world.files after.files

/-- The volume is the same, and so are all files; there may be new directories. -/
structure AddsDirectories (world after : World) : Prop where
  volume : after.volume = world.volume
  files : FileSystem.AddsDirectories world.files after.files

/-- The volume is the same, and there is a new file; other new entries are directories. -/
structure AddsFile (place : Location) (content : Bytes) (world after : World) : Prop where
  volume : after.volume = world.volume
  files : FileSystem.AddsFile place content world.files after.files

/-- The volume is the same, and a file has taken its place. -/
structure Saves (target : Location) (data : Bytes) (world after : World) : Prop where
  volume : after.volume = world.volume
  files : FileSystem.Replaces target data world.files after.files

variable {world after : World} {target : Location} {data : Bytes}

theorem Quiet.keepsFiles (quiet : world.Quiet after) : world.KeepsFiles after := by
  constructor
  · exact quiet.volume
  · rw [quiet.files]
    exact .refl _

theorem Quiet.addsDirectories (quiet : world.Quiet after) : world.AddsDirectories after := by
  constructor
  · exact quiet.volume
  · rw [quiet.files]
    exact .refl _

theorem AddsDirectories.keepsFiles (adds : AddsDirectories world after) : world.KeepsFiles after :=
  ⟨adds.volume, adds.files.toKeeps⟩

theorem AddsFile.keepsFiles {place : Location} (adds : AddsFile place data world after) :
    world.KeepsFiles after :=
  ⟨adds.volume, adds.files.toKeeps⟩

/-- The volume is as it was: what its slots hold, and the file that it is in. -/
structure VolumeKept (world after : World) : Prop where
  volume : after.volume = world.volume
  stored : ∀ slot, after.stored slot = world.stored slot
  file : ∀ volume ∈ world.place,
    after.files.get? (volume.path.location world.files.working) =
      world.files.get? (volume.path.location world.files.working)

theorem Quiet.volumeKept (quiet : world.Quiet after) : world.VolumeKept after := by
  constructor
  · exact quiet.volume
  · exact quiet.unharmed.stored
  · intro volume _
    rw [quiet.files]

/-- A volume that can be read is as it was when its file is kept and no directory is lost. -/
theorem VolumeKept.of_grows (volume : after.volume = world.volume)
    (grows : FileSystem.Grows world.files after.files)
    (kept : ∀ volume ∈ world.place, ∀ node,
      world.files.get? (volume.path.location world.files.working) = some node →
        after.files.get? (volume.path.location world.files.working) = some node)
    {slot : HeaderSlot} {bytes : HeaderBytes} (held : world.stored slot = .ok bytes) :
    world.VolumeKept after := by
  cases kind : world.volume with
  | memory primary backup =>
      refine ⟨volume, ?_, ?_⟩
      · intro slot
        unfold World.stored
        rw [volume, kind]
        cases slot <;> cases backup <;> rfl
      · intro inFile there
        rw [place, kind] at there
        cases there
  | file inFile =>
      have here : world.place = some inFile := by rw [place, kind]
      rw [stored_file kind] at held
      obtain ⟨content, holds⟩ := FileVolume.read_eq_ok.mp held
      have same := (kept inFile here _ holds.found).trans holds.found.symm
      refine ⟨volume, ?_, ?_⟩
      · intro slot
        rw [stored_file kind, stored_file (volume.trans kind)]
        exact FileVolume.read_of_grows grows holds.resolved same slot
      · rintro other there
        obtain rfl := Option.some.inj (here.symm.trans there)
        exact same

theorem KeepsFiles.volumeKept (keeps : KeepsFiles world after) {slot : HeaderSlot}
    {bytes : HeaderBytes} (held : world.stored slot = .ok bytes) : world.VolumeKept after :=
  .of_grows keeps.volume keeps.files.grows (fun _ _ node => keeps.files.get? _ node) held

/-- A volume does not notice that another file is saved. -/
theorem Saves.volumeKept (saves : Saves target data world after) (outside : world.Outside target)
    {slot : HeaderSlot} {bytes : HeaderBytes} (held : world.stored slot = .ok bytes) :
    world.VolumeKept after :=
  .of_grows saves.volume saves.files.grows
    (fun volume there node => saves.files.get? _ (outside volume there).symm node) held

theorem KeepsFiles.stored (keeps : KeepsFiles world after) {slot : HeaderSlot}
    {bytes : HeaderBytes} (held : world.stored slot = .ok bytes) : after.stored slot = .ok bytes :=
  ((keeps.volumeKept held).stored slot).trans held

theorem Saves.stored (saves : Saves target data world after) (outside : world.Outside target)
    {slot : HeaderSlot} {bytes : HeaderBytes} (held : world.stored slot = .ok bytes) :
    after.stored slot = .ok bytes :=
  ((saves.volumeKept outside held).stored slot).trans held

theorem outside_of_eq (volume : after.volume = world.volume)
    (working : after.files.working = world.files.working) (outside : world.Outside target) :
    after.Outside target := by
  have same : after.place = world.place := by rw [place, place, volume]
  unfold Outside at outside ⊢
  rwa [same, working]

theorem slotsApart_of_eq (volume : after.volume = world.volume) (apart : world.SlotsApart) :
    after.SlotsApart := by
  have same : after.place = world.place := by rw [place, place, volume]
  unfold SlotsApart
  rwa [same]

end World

theorem FileSystem.Replaces.of_addsDirectories {target : Location} {data : Bytes}
    {files middle changed : FileSystem} (adds : AddsDirectories files middle)
    (replaces : Replaces target data middle changed) : Replaces target data files changed where
  working := replaces.working.trans adds.working
  replaced := replaces.replaced
  noDirectory found := replaces.noDirectory (adds.get? target _ found)
  get? location different node found :=
    replaces.get? location different node (adds.get? location node found)
  files location different content found :=
    adds.files location content (replaces.files location different content found)

namespace Session

variable {α : Type} {environment : Environment} {world : World}

theorem changeFiles_ends (change : FileSystem → FileSystem × Except Error α) :
    (changeFiles change).Ends environment world fun result after =>
      result = (change world.files).2 ∧ after = { world with files := (change world.files).1 } := by
  unfold Ends
  simp only [changeFiles, runIn_bind, runIn_get, runIn_modify, runIn_ofExcept]
  exact ⟨trivial, trivial⟩

/-- Saving a file makes the directories above it. Then nothing else happens, or a temporary file is to
take its place. -/
theorem saveFile_prepares {path : Path} {data : Bytes} {post : Except Error Unit → World → Prop}
    {prepared : FileSystem} {made : Except Error Unit}
    (parents : world.files.ensureParents path = (prepared, made))
    (fail : ∀ error after, after.volume = world.volume → after.files = prepared →
      post (.error error) after)
    (saves : ∀ history result after, after.volume = world.volume → made = .ok () →
      FileSystem.Saving prepared path data (environment.disk history) after.files result →
        post result after) :
    (saveFile path data).Ends environment world post := by
  refine .bind (.attempt (.bind ((changeFiles_ends _).mono ?_)))
  rintro result ready ⟨rfl, rfl⟩
  rw [parents]
  rcases made with error | ⟨⟩
  · exact fail error _ rfl rfl
  refine .bind (((quiet_draw 8).ends _ _).mono ?_)
  rintro (error | random) drawn quiet
  · exact fail error _ quiet.volume quiet.files
  refine .bind (ends_ofExcept ?_)
  rcases FileSystem.temporaryPath path random with error | temporary
  · exact fail error _ quiet.volume quiet.files
  refine .bind_ok runIn_disk ((changeFiles_ends _).mono ?_)
  rw [quiet.files]
  rintro result after ⟨same, rfl⟩
  have saving : FileSystem.Saving prepared path data (environment.disk drawn.history)
      (prepared.replaceThrough temporary path data (environment.disk drawn.history)).1 result :=
    FileSystem.saving_of_replaceThrough (Prod.ext rfl same.symm)
  cases result with
  | error error => exact saves _ _ _ quiet.volume rfl saving
  | ok => exact saves _ _ _ quiet.volume rfl saving

/-- Saving succeeds where each of its steps does. -/
theorem saveFile_succeeds {path temporary : Path} {data : Bytes} {prepared : FileSystem}
    {random : Octets 8} (parents : world.files.ensureParents path = (prepared, .ok ()))
    (drawn : ∀ world, ((draw 8).runIn environment world).1 = .ok random)
    (named : FileSystem.temporaryPath path random = .ok temporary)
    (replaced : ∀ history,
      (prepared.replaceThrough temporary path data (environment.disk history)).2 = .ok ()) :
    (saveFile path data).Ends environment world fun result _ => result = .ok () := by
  refine .bind (.attempt (.bind ((changeFiles_ends _).mono ?_)))
  rintro _ ready ⟨rfl, rfl⟩
  rw [parents]
  refine .bind_quiet_ok (Change.refl _) (quiet_draw _) (drawn _) ?_
  intro ready since
  rw [named]
  refine .bind (ends_ofExcept (.bind_ok runIn_disk ((changeFiles_ends _).mono ?_)))
  rintro _ after ⟨rfl, -⟩
  rw [since.files, replaced]
  exact .bind_ok (runIn_record _) (ends_ofExcept rfl)

/-- How saving a file ends. -/
inductive SaveEnds (environment : Environment) (path : Path) (data : Bytes) (world : World) :
    Except Error Unit → World → Prop
  /-- The file has taken its place. -/
  | saved {after : World} (saves : world.Saves (path.location world.files.working) data after) :
      SaveEnds environment path data world (.ok ()) after
  /-- There is nothing new but directories. -/
  | unharmed {error : Error} {after : World} (adds : world.AddsDirectories after) :
      SaveEnds environment path data world (.error error) after
  /-- A temporary file stays behind, because the disk did not take it or did not remove it. -/
  | leftBehind {error : Error} {place : Location} {part : Bytes} {after : World}
      (left : Disk.Leaves environment.disk place data part) (adds : world.AddsFile place part after) :
      SaveEnds environment path data world (.error error) after
  /-- The file has taken its place, but its directory could not be written out. -/
  | unsynced {error : Error} {after : World} (refused : Disk.RefusesSync environment.disk)
      (saves : world.Saves (path.location world.files.working) data after) :
      SaveEnds environment path data world (.error error) after

namespace SaveEnds

variable {path : Path} {data : Bytes} {ready after : World} {result : Except Error Unit}

/-- It does not matter what was done before, as long as no file was touched. -/
theorem of_quiet (ends : SaveEnds environment path data ready result after)
    (quiet : world.Quiet ready) : SaveEnds environment path data world result after := by
  obtain ⟨volume, files, _, _, _⟩ := ready
  obtain rfl : volume = world.volume := quiet.volume
  obtain rfl : files = world.files := quiet.files
  cases ends with
  | saved saves => exact .saved ⟨saves.volume, saves.files⟩
  | unharmed adds => exact .unharmed ⟨adds.volume, adds.files⟩
  | leftBehind left adds => exact .leftBehind left ⟨adds.volume, adds.files⟩
  | unsynced refused saves => exact .unsynced refused ⟨saves.volume, saves.files⟩

/-- Every file is still there, or the file has taken its place; there is an error then only where
its directory could not be written out. -/
theorem keepsFiles_or_saves (ends : SaveEnds environment path data world result after) :
    world.KeepsFiles after ∨ (result = .ok () ∨ Disk.RefusesSync environment.disk) ∧
      world.Saves (path.location world.files.working) data after := by
  cases ends with
  | saved saves => exact .inr ⟨.inl rfl, saves⟩
  | unharmed adds => exact .inl adds.keepsFiles
  | leftBehind _ adds => exact .inl adds.keepsFiles
  | unsynced refused saves => exact .inr ⟨.inr refused, saves⟩

/-- Where saving fails and a file has taken its place nonetheless, its directory could not be written
out. -/
theorem keepsFiles_or_unsynced {error : Error}
    (ends : SaveEnds environment path data world (.error error) after) :
    world.KeepsFiles after ∨ Disk.RefusesSync environment.disk ∧
      world.Saves (path.location world.files.working) data after := by
  rcases ends.keepsFiles_or_saves with keeps | ⟨ok | refused, saves⟩
  · exact .inl keeps
  · cases ok
  · exact .inr ⟨refused, saves⟩

end SaveEnds

theorem saveFile_ends (path : Path) (data : Bytes) :
    (saveFile path data).Ends environment world (SaveEnds environment path data world) := by
  have adds := FileSystem.ensureParents_addsDirectories world.files path
  rcases parents : world.files.ensureParents path with ⟨prepared, made⟩
  rw [parents] at adds
  refine saveFile_prepares parents ?_ ?_
  · intro error after volume same
    exact .unharmed ⟨volume, same ▸ adds⟩
  rintro history result ⟨_, changed, _, _, _⟩ volume rfl saving
  have saves (installed : FileSystem.Installed prepared path data changed) :
      FileSystem.Replaces (path.location world.files.working) data world.files changed := by
    have replaces := installed.replaces
    rw [adds.working] at replaces
    exact replaces.of_addsDirectories adds
  cases saving with
  | refused => exact .unharmed ⟨volume, adds⟩
  | dropped free =>
      exact .unharmed ⟨volume, adds.trans (FileSystem.unaltered_erase_put free _).addsDirectories⟩
  | leftBehind free inside untaken =>
      exact .leftBehind ⟨history, untaken⟩ ⟨volume, adds.addsFile free inside _⟩
  | replaced installed => exact .saved ⟨volume, saves installed⟩
  | unsynced installed failed =>
      obtain ⟨directory, fault, refused⟩ := FileSystem.syncParent_eq_error
        (installed.isDirectory (FileSystem.ensureParents_isDirectory parents)) failed
      exact .unsynced ⟨directory, history, fault, refused⟩ ⟨volume, saves installed⟩

/-- A file that was saved is read under its path. -/
theorem saveFile_reads (path : Path) (data : Bytes) :
    (saveFile path data).Ends environment world fun result after =>
      result = .ok () → after.files.read path = .ok data := by
  refine saveFile_prepares rfl (fun _ _ _ _ => nofun) ?_
  rintro history _ after volume made saving rfl
  exact saving.installed.read

/-- A file that is replaced could be seen beforehand, unless the directory that its path leads through
could not be followed. -/
theorem saveFile_sees (path : Path) (data : Bytes) :
    (saveFile path data).Ends environment world fun _ after =>
      ∀ parent, world.files.resolveParent path = .ok parent → ∀ content,
        world.files.get? (path.location world.files.working) = some (.file content) →
          world.files.exists? path = true ∨
            after.files.get? (path.location world.files.working) = some (.file content) := by
  have adds := FileSystem.ensureParents_addsDirectories world.files path
  refine saveFile_prepares rfl ?_ ?_
  · intro error after _ same parent _ content found
    exact .inr (same ▸ adds.get? _ _ found)
  intro history result after _ _ saving parent followed content found
  rcases saving.keeps_or_installed with keeps | installed
  · exact .inr (keeps.get? _ _ (adds.get? _ _ found))
  · exact .inl (installed.exists_before adds.toKeeps.grows followed found)

/-- However saving ends, no file holds anything new but the data, or what the disk has not taken of
it. -/
theorem saveFile_holds (path : Path) (data : Bytes) :
    (saveFile path data).Ends environment world fun _ after => ∀ location content,
      after.files.get? location = some (.file content) →
        content = data ∨ Disk.Leaves environment.disk location data content ∨
          world.files.get? location = some (.file content) := by
  have adds := FileSystem.ensureParents_addsDirectories world.files path
  refine saveFile_prepares rfl ?_ ?_
  · intro error after _ same location content found
    rw [same] at found
    exact .inr (.inr (adds.files location content found))
  intro history result after _ _ saving location content found
  rcases saving.files_eq found with new | untaken | old
  · exact .inl new
  · exact .inr (.inl ⟨history, untaken⟩)
  · exact .inr (.inr (adds.files location content old))

/-- No header is written when a file is saved. -/
theorem writesNothing_saveFile (path : Path) (data : Bytes) :
    Within (World.WritesOnly fun _ _ => False) (saveFile path data) := by
  have change {β : Type} (change : FileSystem → FileSystem × Except Error β) :
      Within (World.WritesOnly fun _ _ => False) (changeFiles change) := by
    intro environment world
    have ends : (changeFiles change).Ends environment world fun _ after =>
        world.WritesOnly (fun _ _ => False) after := by
      refine (changeFiles_ends change).mono ?_
      rintro result _ ⟨-, rfl⟩
      exact ⟨[], rfl, by simp⟩
    exact ends
  refine Within.bind (.attempt ?_) fun _ => (quiet_record id).writesOnly.bind fun _ =>
    within_ofExcept _
  exact (change _).bind fun _ => (quiet_draw _).writesOnly.bind fun _ =>
    (within_ofExcept _).bind fun _ => within_disk.bind fun _ => change _

end Session

end HeaderVault
