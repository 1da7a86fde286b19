import HeaderVault.CommandLine.Execution
import HeaderVault.Proofs.FileVolume.Creation
import HeaderVault.Proofs.Protocol.Faithful
import HeaderVault.Proofs.Protocol.Footprint
import HeaderVault.Proofs.Protocol.MasterKeys

/-!
What the actions behind the commands leave behind when they fail.

An action works on a volume that it opens or creates. A volume that was created is removed again when
it cannot be given headers, so that nothing is left unless the disk refuses to size the file, to write
it out or to remove it (`create_fails`). Opening changes nothing, and on a device that does what it is
told neither has a restore or an upgrade that fails; on any other no more than the slots may differ
(`FileSystem.Rewrites`).
-/

namespace HeaderVault

/-! ### What may be left -/

/-- Nothing has changed but the contents of one file. -/
structure FileSystem.Rewrites (place : Location) (files changed : FileSystem) : Prop where
  working : changed.working = files.working
  file : ∀ content, files.get? place = some (.file content) →
    ∃ other, changed.get? place = some (.file other)
  get? : ∀ location ≠ place, changed.get? location = files.get? location

/-- What is in the file of a new volume that stays behind: what the disk has taken of it, or anything
if the disk does not remove it. -/
inductive Disk.Abandons (disk : History → Disk) (file : Location) (size : UInt64) : Bytes → Prop
  | uncreated {history : History} {content : Bytes}
      (uncreated : FileVolume.Uncreated (disk history) file size content) :
      Abandons disk file size content
  | unremoved {content : Bytes} (refused : Disk.Refuses disk (.remove file)) :
      Abandons disk file size content

theorem World.place_of_file {world : World} {volume : FileVolume}
    (inFile : world.volume = .file volume) : world.place = some volume := by
  rw [place, inFile]

theorem World.KeepsToSlots.rewrites {world after : World} {volume : FileVolume}
    (keeps : world.KeepsToSlots after) (inFile : world.volume = .file volume) :
    FileSystem.Rewrites (volume.path.location world.files.working) world.files after.files where
  working := keeps.grows.working
  file content found := keeps.file volume (place_of_file inFile) content found
  get? location other := by
    refine keeps.get? location ?_
    rw [Outside, place_of_file inFile]
    rintro _ ⟨⟩
    exact other

namespace Session

variable {α : Type} {environment : Environment} {world : World}

/-- A volume that is opened has room for both slots, and both can be read or none. -/
theorem openVolume_follows {path : Path} {next : FileVolume → Session α}
    {post : Except Error α → World → Prop} (sized : world.files.Sized)
    (fail : ∀ error, post (.error error) world)
    (opened : ∀ volume ready, ready.volume = .file volume → volume.path = path →
      ready.files = world.files → ready.SlotsApart → ready.ReadTogether →
        (next volume).Ends environment ready post) :
    (openVolume path >>= next).Ends environment world post := by
  refine .bind (.bind_ok runIn_get (.bind (ends_ofExcept ?_)))
  cases found : FileVolume.openAt world.files path with
  | error error => exact fail error
  | ok volume =>
  refine .bind_ok (runIn_modify _) (opened volume _ rfl ?_ rfl ?_ ?_)
  · exact FileVolume.path_of_openAt found
  · rintro _ ⟨⟩
    exact FileVolume.room_of_openAt sized found
  · intro slot other bytes held
    rw [World.stored_file rfl] at held
    obtain ⟨area, slots, represents⟩ := FileVolume.represents_of_openAt sized found held
    exact ⟨slots other, (World.stored_file rfl other).trans (represents.read other)⟩

/-- A volume that is created has a file where nothing was; where it is not created its file may be
there, as far as the disk took it. -/
theorem createVolume_follows {path : Path} {size : UInt64} {next : FileVolume → Session α}
    {post : Except Error α → World → Prop}
    (possible : size.toNat + 1024 ≤ FileVolume.maxFileLength)
    (fail : ∀ error after, after.files = world.files ∨ (∃ history content,
      FileVolume.Uncreated (environment.disk history) (path.location world.files.working) size
        content ∧
      world.files.AddsFile (path.location world.files.working) content after.files) →
        post (.error error) after)
    (created : ∀ volume ready content, ready.volume = .file volume → volume.path = path →
      world.files.get? (path.location world.files.working) = none →
        volume.Confined world.files ready.files →
          ready.files.resolve path = .ok (path.location world.files.working) →
            ready.files.get? (path.location world.files.working) = some (.file content) →
              (next volume).Ends environment ready post) :
    (createVolume path size >>= next).Ends environment world post := by
  refine .bind (.bind_ok runIn_disk (.bind ((changeFiles_ends _).mono ?_)))
  rintro result after ⟨same, rfl⟩
  rcases made : FileVolume.create world.files path size (environment.disk world.history) with
    ⟨files, error | volume⟩
  · rw [made] at same
    rw [same]
    refine fail error _ ((FileVolume.create_eq_error possible made).imp id ?_)
    exact fun ⟨content, left⟩ => ⟨world.history, content, left⟩
  rw [made] at same
  rw [same]
  have representable : size.toNat + 1024 < UInt64.size :=
    Nat.lt_of_le_of_lt possible (by decide)
  obtain ⟨rfl, -, found, -⟩ := FileVolume.create_eq_ok representable made
  obtain ⟨free, confined⟩ := FileVolume.create_confined made
  obtain ⟨location, resolved, read⟩ := exists_of_bind found
  obtain rfl : location = volume.path.location world.files.working := by
    rw [← confined.working]
    exact FileSystem.resolve_eq resolved
  exact .bind_ok (runIn_modify _) (created volume _ _ rfl rfl free confined resolved
    (FileSystem.contentAt_eq_ok.mp read))

end Session

namespace Action

open Session

variable {environment : Environment} {world : World} {path : Path} {costs : Costs}

/-! ### Creating -/

/-- A volume that was created and is removed again has left nothing behind, unless the disk does not
remove it. -/
theorem removeFile_ends {volume : FileVolume} {ready after : World} {content : Bytes}
    (inFile : ready.volume = .file volume)
    (free : world.files.get? (volume.path.location world.files.working) = none)
    (confined : volume.Confined world.files ready.files) (keeps : ready.KeepsToSlots after)
    (resolved : ready.files.resolve volume.path =
      .ok (volume.path.location world.files.working))
    (found : ready.files.get? (volume.path.location world.files.working) = some (.file content)) :
    (removeFile volume.path).Ends environment after fun _ final =>
      world.files.AddsDirectories final.files ∨ ∃ content,
        Disk.Refuses environment.disk (.remove (volume.path.location world.files.working)) ∧
        world.files.AddsFile (volume.path.location world.files.working) content final.files := by
  have rewrites := keeps.rewrites inFile
  rw [confined.working] at rewrites
  obtain ⟨changed, there⟩ := rewrites.file content found
  have working : after.files.working = world.files.working :=
    rewrites.working.trans confined.working
  have elsewhere : ∀ location ≠ volume.path.location world.files.working,
      after.files.get? location = world.files.get? location := fun location other =>
    (rewrites.get? location other).trans (confined.get? location other)
  have removes := FileSystem.discard_of_file
    (FileSystem.resolve_of_grows keeps.grows resolved) there (environment.disk after.history)
  refine .bind_ok runIn_disk ?_
  unfold Ends
  rw [runIn_modify]
  dsimp only
  rw [removes]
  split
  · refine .inl (FileSystem.Unaltered.addsDirectories ⟨working, fun location => ?_⟩)
    by_cases same : location = volume.path.location world.files.working
    · rw [same, FileSystem.get?_erase_self _ (FileSystem.ne_nil_of_file there), free]
    · rw [FileSystem.get?_erase _ same, elsewhere location same]
  · next refused =>
    obtain ⟨fault, refused⟩ := Option.ne_none_iff_exists'.mp refused
    refine .inr ⟨changed, ⟨after.history, fault, refused⟩, ⟨⟨working, ?_⟩, free, there, ?_⟩⟩
    · intro location node old
      have other : location ≠ volume.path.location world.files.working := by
        rintro rfl
        rw [free] at old
        cases old
      exact (elsewhere location other).trans old
    · exact fun location other content new => (elsewhere location other).symm.trans new

/-- A volume that cannot be given headers is gone again, unless the disk refuses. -/
theorem create_fails {size : UInt64} (possible : size.toNat + 1024 ≤ FileVolume.maxFileLength) :
    (create path size costs).Ends environment world fun result after => result ≠ .ok (.ok ()) →
      world.files.AddsDirectories after.files ∨ ∃ content,
        Disk.Abandons environment.disk (path.location world.files.working) size content ∧
        world.files.AddsFile (path.location world.files.working) content after.files := by
  refine .bind (ends_ofExcept ?_)
  cases costs.params with
  | error error => exact fun _ => .inl (.refl _)
  | ok params =>
  refine createVolume_follows possible ?_ ?_
  · rintro error after (same | ⟨history, content, uncreated, adds⟩) _
    · rw [same]
      exact .inl (.refl _)
    · exact .inr ⟨content, .uncreated uncreated, adds⟩
  rintro volume ready content inFile rfl free confined resolved found
  refine .bind (.attempt (((Protocol.keepsToSlots_format params size).ends _ _).mono ?_))
  rintro (error | ⟨⟩) after keeps
  · refine .bind ((removeFile_ends inFile free confined keeps resolved found).mono ?_)
    rintro (fault | ⟨⟩) final removed _
    · exact removed.imp id fun ⟨content, refused, adds⟩ => ⟨content, .unremoved refused, adds⟩
    · exact removed.imp id fun ⟨content, refused, adds⟩ => ⟨content, .unremoved refused, adds⟩
  · exact fun different => absurd rfl different

/-! ### Opening -/

theorem info_error_addsDirectories (sized : world.files.Sized) (backend : AesBackend) (json : Bool) :
    (info path backend json).Ends environment world fun result after =>
      ∀ error, result = .error error → world.files.AddsDirectories after.files := by
  refine openVolume_follows sized (fun _ _ _ => .refl _) ?_
  intro volume ready _ _ same _ _
  rw [← same]
  exact .bind_quiet (Change.refl ready) (Protocol.quiet_inspect _)
    (fun _ _ quiet _ _ => quiet.addsDirectories.files) fun _ _ _ _ => nofun

/-- A backup that fails has done so before there was anything to save, or in saving. -/
theorem backup_fails (sized : world.files.Sized) :
    (backup path).Ends environment world fun result after => ∀ error, result = .error error →
      ∃ ready : World, ready.files = world.files ∧
        Protocol.BackupFails environment ready after := by
  refine openVolume_follows sized ?_ ?_
  · exact fun _ _ _ => ⟨world, rfl, .untouched (Change.refl (R := World.Quiet) world).addsDirectories⟩
  intro volume ready _ _ same _ _
  refine .bind (Protocol.backup_fails.mono ?_)
  rintro (error | told) after fails
  · exact fun _ _ => ⟨ready, same, fails error rfl⟩
  · exact fun _ => nofun

/-- Work on the slots of a volume that was opened, which leaves them as they were when it fails on a
device that does what it is told. -/
theorem openVolume_fails {α β : Type} {work : Session α} {tell : α → Session β}
    (sized : world.files.Sized) (keepsToSlots : Within World.KeepsToSlots work)
    (quiet : ∀ ready : World, environment.device = .faithful → ready.SlotsApart →
      ready.ReadTogether → work.Ends environment ready fun result after =>
        ∀ error, result = .error error → ready.Quiet after)
    (tells : ∀ value after, (tell value).Ends environment after fun result _ =>
      ∀ error, result ≠ .error error) :
    (openVolume path >>= fun _ => work >>= tell).Ends environment world fun result after =>
      ∀ error, result = .error error → world.files.AddsDirectories after.files ∨
        environment.device ≠ .faithful ∧
          FileSystem.Rewrites (path.location world.files.working) world.files after.files := by
  refine openVolume_follows sized (fun _ _ _ => .inl (.refl _)) ?_
  rintro volume ready inFile rfl same apart together
  rw [← same]
  by_cases faithful : environment.device = .faithful
  · refine .bind ((quiet ready faithful apart together).mono ?_)
    rintro (error | value) after quiet
    · exact fun _ _ => .inl (quiet error rfl).addsDirectories.files
    · exact (tells value after).mono fun _ _ never error failed => absurd failed (never error)
  · refine .bind ((keepsToSlots.ends _ _).mono ?_)
    rintro (error | value) after keeps
    · exact fun _ _ => .inr ⟨faithful, keeps.rewrites inFile⟩
    · exact (tells value after).mono fun _ _ never error failed => absurd failed (never error)

theorem restore_fails (sized : world.files.Sized) :
    (restore path).Ends environment world fun result after => ∀ error, result = .error error →
      world.files.AddsDirectories after.files ∨ environment.device ≠ .faithful ∧
        FileSystem.Rewrites (path.location world.files.working) world.files after.files := by
  refine openVolume_fails sized Protocol.keepsToSlots_restore ?_ ?_
  · exact fun _ faithful apart together => Protocol.restore_error_quiet faithful apart together
  · rintro (_ | source) after <;> exact fun _ => nofun

theorem upgradeKdf_fails (sized : world.files.Sized) :
    (upgradeKdf path costs).Ends environment world fun result after =>
      ∀ error, result = .error error →
        world.files.AddsDirectories after.files ∨ environment.device ≠ .faithful ∧
          FileSystem.Rewrites (path.location world.files.working) world.files after.files := by
  refine .bind (ends_ofExcept ?_)
  cases costs.params with
  | error error => exact fun _ _ => .inl (.refl _)
  | ok params =>
  refine openVolume_fails sized (Protocol.keepsToSlots_upgrade params) ?_ ?_
  · exact fun _ faithful apart _ => Protocol.upgrade_error_quiet faithful apart
  · rintro (_ | _) after <;> exact fun _ => nofun

/-! ### What is agreed to -/

/-- No restore succeeds unless the operator agrees to it. -/
theorem restore_agreed :
    (restore path).Ends environment world fun result _ => ∀ line, result = .ok line →
      ∃ history files message,
        environment.operator history files (.confirm message false true) = .ok true := by
  refine .bind_any (fun _ _ _ => nofun) ?_
  intro volume ready
  refine .bind (Protocol.restore_agreed.mono ?_)
  rintro (error | source) after agreed
  · exact fun _ => nofun
  · cases source <;> exact fun _ _ => agreed _ rfl

/-- Every file is as it was, but for the one that a backup replaces. -/
theorem backup_replaces (sized : world.files.Sized) :
    (backup path).Ends environment world fun _ after => ∀ location content,
      world.files.get? location = some (.file content) →
        after.files.get? location = some (.file content) ∨
          ∃ target, Protocol.ReplacedBy environment world.files target location := by
  refine openVolume_follows sized (fun _ _ _ => .inl) ?_
  intro volume ready _ _ same _ _
  refine .bind (Protocol.backup_replaces.mono ?_)
  rw [same]
  rintro (error | told) after replaces
  · exact replaces
  · exact replaces

end Action

end HeaderVault
