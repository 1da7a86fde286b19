import HeaderVault.Proofs.Protocol.Sealing
import HeaderVault.Proofs.Session.Saving

/-!
A file is saved as a whole or not at all, on a disk that takes what is written.

`FileSystem.Saved` says what there is after a file was saved: its data under its path, everything else
as it was, and nothing new beside it but directories that its path leads through. Where saving fails
there is nothing new but such directories (`FileSystem.SavedWhole`). `saveFile_atomic` holds this of
every path in every tree of files, whatever bytes are drawn for the name of the temporary file and
wherever saving stops, so that the temporary file is in no case what is left or what is overwritten.
The directory of the file is opened at the end to be written out; that cannot fail by itself, since
it is there (`FileSystem.Saved.parent`). What a disk leaves that refuses to write is in `SaveEnds`.
-/

namespace HeaderVault

/-- Writes and syncs do not fail, and what was made can be removed; files may still be refused their
length or a new place. -/
structure Disk.WritesThrough (disk : Disk) : Prop where
  write : ∀ file data, disk.refuses (.write file data) = none
  sync : ∀ place, disk.refuses (.sync place) = none
  remove : ∀ file, disk.refuses (.remove file) = none

namespace FileSystem

/-- A file is there with its data, and nothing else has changed but for directories that its path
leads through. -/
structure Saved (path : Path) (data : Bytes) (files changed : FileSystem) : Prop where
  read : changed.read path = .ok data
  kept : ∀ location ≠ path.location files.working, ∀ node,
    files.get? location = some node → changed.get? location = some node
  new : ∀ location ≠ path.location files.working, ∀ node,
    files.get? location = none → changed.get? location = some node →
      node = .directory ∧ path.LeadsThrough files.working location
  /-- The directory of the file is there to be opened, so that it can be written back. -/
  parent : ∀ parent ∈ path.parent, parent.text ≠ "" → changed.isDirectory parent = true

/-- A file is saved, or there is nothing new but directories that its path leads through. -/
def SavedWhole (path : Path) (data : Bytes) (files : FileSystem) :
    Except Error Unit → FileSystem → Prop
  | .ok (), changed => Saved path data files changed
  | .error _, changed => MakesDirectories (path.LeadsThrough files.working) files changed

/-- A temporary file that takes its place once the directories are made has saved the file. -/
theorem Installed.saved {files prepared changed : FileSystem} {path : Path} {data : Bytes}
    (makes : MakesDirectories (path.LeadsThrough files.working) files prepared)
    (parent : ∀ parent ∈ path.parent, parent.text ≠ "" → prepared.isDirectory parent = true)
    (installed : Installed prepared path data changed) : Saved path data files changed := by
  have elsewhere : ∀ location ≠ path.location files.working,
      changed.get? location = prepared.get? location := by
    rw [← makes.working]
    exact fun location other => installed.elsewhere other
  constructor
  · exact installed.read
  · intro location other node found
    rw [elsewhere location other]
    exact makes.get? location node found
  · intro location other node free found
    rw [elsewhere location other] at found
    exact makes.new location node free found
  · exact installed.isDirectory parent

theorem Untaken.elim {disk : Disk} {file : Location} {data part : Bytes}
    (untaken : Untaken disk file data part) (through : disk.WritesThrough) : False := by
  cases untaken with
  | part refused => simp [through.write] at refused
  | whole refused => simp [through.sync] at refused
  | kept refused => simp [through.remove] at refused

end FileSystem

namespace Session

theorem saveFile_atomic (environment : Environment) (world : World) (path : Path) (data : Bytes)
    (through : ∀ history, (environment.disk history).WritesThrough) :
    (saveFile path data).Ends environment world fun result after =>
      FileSystem.SavedWhole path data world.files result after.files := by
  have makes := FileSystem.ensureParents_makes world.files path
  rcases parents : world.files.ensureParents path with ⟨prepared, made⟩
  rw [parents] at makes
  refine saveFile_prepares parents ?_ ?_
  · intro error after _ same
    exact same ▸ makes
  rintro history result ⟨_, changed, _, _, _⟩ _ rfl saving
  have parent := FileSystem.ensureParents_isDirectory parents
  cases saving with
  | refused => exact makes
  | dropped free => exact makes.trans (.of_unaltered (FileSystem.unaltered_erase_put free _))
  | leftBehind _ _ untaken => exact (untaken.elim (through history)).elim
  | replaced installed => exact installed.saved makes parent
  | unsynced installed failed =>
      obtain ⟨directory, fault, refused⟩ :=
        FileSystem.syncParent_eq_error (installed.isDirectory parent) failed
      simp [(through history).sync] at refused

theorem saveFile_atomic_replacing :
    (∀ history, ((Protocol.Sample.environment .faithful).disk history).WritesThrough) ∧
    (saveFile ⟨"b.hdr"⟩ [1]).Ends (Protocol.Sample.environment .faithful)
      (Protocol.Sample.blank ⟨[(["b.hdr"], .file [])], []⟩) fun result after =>
        FileSystem.SavedWhole ⟨"b.hdr"⟩ [1] ⟨[(["b.hdr"], .file [])], []⟩ result after.files := by
  have through : ∀ history, ((Protocol.Sample.environment .faithful).disk history).WritesThrough :=
    fun _ => ⟨fun _ _ => rfl, fun _ => rfl, fun _ => rfl⟩
  exact ⟨through, saveFile_atomic _ _ ⟨"b.hdr"⟩ [1] through⟩

end Session

end HeaderVault
