import HeaderVault.Proofs.HeaderBackup
import HeaderVault.Proofs.Protocol.Sealing
import HeaderVault.Proofs.Session.Faults
import HeaderVault.Proofs.Session.Saving
import HeaderVault.Protocol.Backup

/-!
How a backup ends.

It stops quietly, or it comes to saving headers that were found to open with the credential that was
given (`BackupReady`, `backup_follows`). Then the headers that the slots hold are in the file that
was chosen, or no file has been lost (`backup_ends`). Both an error and the file is what there is only
where the disk refuses to write out the directory, which comes last.

No header is written, but any file may be chosen. The volume is as it was unless the file is the
volume itself, which is then replaced as a whole (`backup_keeps_volume_unless_chosen`).
-/

namespace HeaderVault.Protocol

open Session

/-- Headers are about to be saved: a place was chosen, the operator has agreed to replace what is
there, and the credential that was given opens each of them. On a device that reads what is stored
they are what the slots hold. -/
structure BackupReady (environment : Environment) (start : World) (path : Path)
    (credential : Credential) (saved : HeaderBackup) (ready : World) : Prop where
  since : start.Quiet ready
  chosen : ∃ history,
    environment.operator history start.files (.selectFile "Save header backup as" .new) = .ok path
  agreed : start.files.exists? path = true → ∃ history message,
    environment.operator history start.files (.confirm message false true) = .ok true
  gathered : start.Since (Gathered environment start credential) ready
  opens : ∀ bytes ∈ saved.headers, ∃ header,
    openHeader environment.primitives credential bytes = .ok header
  readable : ∃ bytes, start.stored .primary = .ok bytes
  stored : environment.device.ReadsStored start.history →
    start.stored .primary = .ok saved.primary ∧
      ∀ bytes, saved.backup = some bytes → start.stored .backup = .ok bytes
  omits : environment.device.ReadsStored start.history → saved.backup = none →
    start.NoOpenBackup environment.primitives credential

/-- The headers that the slots hold are in the file that was chosen. -/
def BackedUp (environment : Environment) (start : World) (path : Path) (after : World) : Prop :=
  ∃ saved : HeaderBackup,
    (∃ history, environment.operator history start.files
      (.selectFile "Save header backup as" .new) = .ok path) ∧
    start.Saves (path.location start.files.working) saved.encode after ∧
    start.stored .primary = .ok saved.primary ∧
    ∀ bytes, saved.backup = some bytes → start.stored .backup = .ok bytes

/-- How a backup may end. -/
def BackupEnds (environment : Environment) (start : World) : Except Error Path → World → Prop
  | .ok path, after => BackedUp environment start path after
  | .error _, after => start.KeepsFiles after ∨
      Disk.RefusesSync environment.disk ∧ ∃ path, BackedUp environment start path after

section

variable {environment : Environment} {world : World} {credential : Credential}

/-! ### Before anything is saved -/

theorem quiet_soundBackup (credential : Credential) :
    Within World.Quiet (soundBackup credential) := by
  refine within_hasBackupSlot.bind fun there => .ite (fun _ => ?_) (fun _ => within_pure _)
  exact (quiet_readHeader _).bind fun _ => (quiet_unlockOrWarn _ _ _).bind fun _ => within_pure _

/-- What is saved of the embedded copy opens, and is what the slot holds. -/
theorem soundBackup_result {start : World} (since : start.Quiet world) :
    (soundBackup credential).Ends environment world fun result _ =>
      ∀ embedded, result = .ok embedded → ∀ bytes, embedded = some bytes →
        (∃ header, openHeader environment.primitives credential bytes = .ok header) ∧
          (environment.device.ReadsStored start.history → start.stored .backup = .ok bytes) := by
  refine ends_hasBackupSlot_bind ?_
  split
  · refine .bind_yields (readHeader_finds since) ?_
    rintro bytes read ⟨-, finds⟩
    obtain ⟨stored, held, same⟩ := finds bytes rfl
    refine .bind_yields (unlockOrWarn_ends bytes _) ?_
    rintro header after ⟨-, opens, -⟩ _ ⟨⟩ _ found
    obtain ⟨opened, rfl, rfl⟩ := Option.map_eq_some_iff.mp found
    exact ⟨⟨opened, opens opened rfl⟩, fun readsStored => by rw [held, same readsStored]⟩
  · rintro _ ⟨⟩ _ ⟨⟩

/-- The embedded copy is left out only if there is none that opens. -/
theorem soundBackup_omits {start : World} (readsStored : environment.device.ReadsStored start.history)
    (since : start.Quiet world) :
    (soundBackup credential).Ends environment world fun result _ =>
      ∀ embedded, result = .ok embedded → embedded = none →
        start.NoOpenBackup environment.primitives credential := by
  refine ends_hasBackupSlot_bind ?_
  split
  · refine .bind_yields (readHeader_quiet readsStored since) ?_
    rintro bytes read ⟨-, held⟩
    refine .bind_yields (unlockOrWarn_ends bytes _) ?_
    rintro header after ⟨-, -, fails⟩ _ ⟨⟩ omitted
    obtain rfl := Option.map_eq_none_iff.mp omitted
    obtain ⟨error, fails⟩ := fails rfl
    exact .inr ⟨bytes, error, held bytes rfl, fails⟩
  · next missing =>
    rintro _ ⟨⟩ -
    refine .inl ?_
    rw [← since.hasBackupSlot]
    simpa using missing

theorem soundBackup_of_opens {bytes : HeaderBytes} {header : VolumeHeader}
    (there : world.hasBackupSlot = true)
    (read : ((readHeader .backup).runIn environment world).1 = .ok bytes)
    (opens : openHeader environment.primitives credential bytes = .ok header) :
    ((soundBackup credential).runIn environment world).1 = .ok (some bytes) := by
  rw [soundBackup, runIn_bind, runIn_hasBackupSlot, there]
  dsimp only
  rw [if_pos rfl, runIn_bind_ok read, runIn_bind_ok (unlockOrWarn_of_opens opens _)]
  rfl

/-- Saves headers and tells where. -/
def saveAndTell (path : Path) (saved : HeaderBackup) : Session Path := do
  saveBackup path saved
  tell (.info s!"Header backup saved to {path.text}")
  return path

/-- Where something exists the operator is asked whether to replace it. -/
theorem requireReplacement_follows {start : World} {path : Path} {message : String}
    {next : Unit → Session Path} {post : Except Error Path → World → Prop}
    (since : start.Quiet world)
    (fail : ∀ error after, start.Quiet after → post (.error error) after)
    (step : ∀ after, start.Quiet after → (start.files.exists? path = true → ∃ history message,
      environment.operator history start.files (.confirm message false true) = .ok true) →
        (next ()).Ends environment after post) :
    (if world.files.exists? path then requireConfirmation message false true >>= next
      else next ()).Ends environment world post := by
  split
  · refine .bind ((((quiet_requireConfirmation _ _ _).ends _ _).and
      (requireConfirmation_agreed _ _ _)).mono ?_)
    rintro (error | ⟨⟩) after ⟨quiet, agreed⟩
    · exact fail error after (Change.trans since quiet)
    have agreed := agreed rfl
    rw [since.files] at agreed
    exact step after (Change.trans since quiet) fun _ => ⟨_, _, agreed⟩
  · next missing =>
    rw [since.files] at missing
    exact step world since fun there => absurd there missing

/-- A backup stops quietly, or goes on to save headers that were found to open. -/
theorem backup_follows {post : Except Error Path → World → Prop}
    (fail : ∀ error after, world.Quiet after → post (.error error) after)
    (saves : ∀ path credential saved ready,
      BackupReady environment world path credential saved ready →
        (saveAndTell path saved).Ends environment ready post) :
    backup.Ends environment world post := by
  refine .bind ((((quiet_ask _).ends _ _).and (ask_answer _)).mono ?_)
  rintro (error | path) chosen ⟨since, said⟩
  · exact fail error chosen since
  have said := said path rfl
  refine .bind_ok (runIn_fileExists path) (requireReplacement_follows since fail ?_)
  intro ready since agreed
  refine .bind ((askCredential_gathers since _).mono ?_)
  rintro (error | credential) asked ⟨since, gathers⟩
  · exact fail error asked since
  have gathered := gathers credential rfl
  refine .bind (((quiet_readHeader _).ends _ _).and (readHeader_finds since) |>.mono ?_)
  rintro (error | primary) read ⟨sinceAsked, since, finds⟩
  · exact fail error read since
  obtain ⟨stored, held, same⟩ := finds primary rfl
  refine .bind ((unlock_ends primary).mono ?_)
  rintro (error | header) opened ⟨quiet, opens⟩
  · exact fail error opened (Change.trans since quiet)
  have since := Change.trans since quiet
  have sinceAsked := Change.trans sinceAsked quiet
  have omits : (soundBackup credential).Ends environment opened fun result _ =>
      environment.device.ReadsStored world.history → ∀ embedded, result = .ok embedded →
        embedded = none → world.NoOpenBackup environment.primitives credential :=
    fun readsStored => soundBackup_omits readsStored since
  refine .bind ((((quiet_soundBackup _).ends _ _).and
    ((soundBackup_result since).and omits)).mono ?_)
  rintro (error | embedded) ready ⟨quiet, sound, omits⟩
  · exact fail error ready (Change.trans since quiet)
  refine .bind_ok runIn_read (saves path credential ⟨environment.now, primary, embedded⟩ ready ?_)
  constructor
  · exact Change.trans since quiet
  · exact ⟨world.history, said⟩
  · exact agreed
  · exact gathered.quiet (fun later _ earlier => earlier.append later)
      (Change.trans sinceAsked quiet)
  · intro bytes saved
    rcases List.mem_cons.mp saved with rfl | second
    · exact ⟨header, opens.symm⟩
    · exact (sound embedded rfl bytes (Option.mem_toList.mp second)).1
  · exact ⟨stored, held⟩
  · intro readsStored
    refine ⟨by rw [held, same readsStored], ?_⟩
    intro bytes second
    exact (sound embedded rfl bytes second).2 readsStored
  · exact fun readsStored => omits readsStored embedded rfl

/-! ### What is saved -/

/-- The file takes its place and the operator is told, or saving has failed. -/
theorem saveAndTell_ends {start : World} (since : start.Quiet world) (path : Path)
    (saved : HeaderBackup) :
    (saveAndTell path saved).Ends environment world fun result after =>
      match result with
      | .ok told => told = path ∧ start.Saves (path.location start.files.working) saved.encode after
      | .error error => SaveEnds environment path saved.encode start (.error error) after := by
  refine .bind ((saveFile_ends path saved.encode).mono ?_)
  rintro (error | ⟨⟩) after ends
  · exact ends.of_quiet since
  · cases ends.of_quiet since with
    | saved saves => exact ⟨rfl, saves.volume, saves.files⟩

theorem backup_ends (recoverable : environment.device.Recoverable world.history) :
    backup.Ends environment world (BackupEnds environment world) := by
  refine backup_follows (fun _ _ now => .inl now.keepsFiles) ?_
  intro path credential saved ready prepared
  have backedUp : ∀ after, world.Saves (path.location world.files.working) saved.encode after →
      BackedUp environment world path after := fun _ saves =>
    ⟨saved, prepared.chosen, saves, prepared.stored recoverable.readsStored⟩
  refine (saveAndTell_ends prepared.since path saved).mono ?_
  rintro (error | told) after
  · intro ends
    exact ends.keepsFiles_or_unsynced.imp id fun ⟨refused, saves⟩ => ⟨refused, path, backedUp _ saves⟩
  · rintro ⟨rfl, saves⟩
    exact backedUp _ saves

/-- What a backup that fails has done to the files. -/
inductive BackupFails (environment : Environment) (start after : World) : Prop
  | untouched (adds : start.AddsDirectories after)
  | leftBehind {saved : HeaderBackup} {place : Location} {part : Bytes}
      (left : Disk.Leaves environment.disk place saved.encode part)
      (adds : start.AddsFile place part after)
  | unsynced {path : Path} {saved : HeaderBackup}
      (chosen : ∃ history, environment.operator history start.files
        (.selectFile "Save header backup as" .new) = .ok path)
      (refused : Disk.RefusesSync environment.disk)
      (saves : start.Saves (path.location start.files.working) saved.encode after)

theorem backup_fails :
    backup.Ends environment world fun result after =>
      ∀ error, result = .error error → BackupFails environment world after := by
  refine backup_follows (fun _ _ quiet _ _ => .untouched quiet.addsDirectories) ?_
  intro path credential saved ready prepared
  refine (saveAndTell_ends prepared.since path saved).mono ?_
  rintro (error | told) after ends
  · rintro _ -
    cases ends with
    | unharmed adds => exact .untouched adds
    | leftBehind left adds => exact .leftBehind left adds
    | unsynced refused saves => exact .unsynced prepared.chosen refused saves
  · exact fun _ => nofun

/-! ### The volume -/

/-- A backup in a file outside of the volume leaves the volume as it was; one in the file of the
volume has taken its place. -/
def VolumeKeptUnlessAt (path : Path) (start after : World) : Prop :=
  (start.Outside (path.location start.files.working) → start.VolumeKept after) ∧
    ∀ volume ∈ start.place,
      path.location start.files.working = volume.path.location start.files.working →
        ∃ saved : HeaderBackup,
          after.files.get? (volume.path.location start.files.working) = some (.file saved.encode)

/-- A backup that fails leaves the volume as it was, and so does one in a file outside of it. A
backup in the file of the volume takes the place of the volume, and has done so as well where it fails
because the disk refuses to write out the directory of the chosen file. -/
theorem backup_keeps_volume_unless_chosen :
    ∃ result after, backup.runIn environment world = (result, after) ∧
      match result with
      | .error _ => world.VolumeKept after ∨ Disk.RefusesSync environment.disk ∧ ∃ path,
          (∃ history, environment.operator history world.files
            (.selectFile "Save header backup as" .new) = .ok path) ∧
          VolumeKeptUnlessAt path world after
      | .ok path => VolumeKeptUnlessAt path world after := by
  refine Ends.exists_run (backup_follows (fun _ _ now => .inl now.volumeKept) ?_)
  intro path credential saved ready prepared
  obtain ⟨bytes, held⟩ := prepared.readable
  have unlessAt : ∀ after, world.Saves (path.location world.files.working) saved.encode after →
      VolumeKeptUnlessAt path world after := by
    intro after saves
    refine ⟨fun outside => saves.volumeKept outside held, ?_⟩
    intro volume _ same
    exact ⟨saved, same ▸ saves.files.replaced⟩
  refine (saveAndTell_ends prepared.since path saved).mono ?_
  rintro (error | told) after
  · intro ends
    exact ends.keepsFiles_or_unsynced.imp (fun keeps => keeps.volumeKept held)
      fun ⟨refused, saves⟩ => ⟨refused, path, prepared.chosen, unlessAt _ saves⟩
  · rintro ⟨rfl, saves⟩
    exact unlessAt _ saves

/-! ### The files -/

/-- A file is replaced where the backup was to be saved, and the operator has agreed to that, as long
as the directory that the path leads through could be followed. -/
structure ReplacedBy (environment : Environment) (files : FileSystem) (path : Path)
    (location : Location) : Prop where
  chosen : ∃ history,
    environment.operator history files (.selectFile "Save header backup as" .new) = .ok path
  location : location = path.location files.working
  agreed : ∀ parent, files.resolveParent path = .ok parent → ∃ history message,
    environment.operator history files (.confirm message false true) = .ok true

/-- Every file is as it was, but for the one that a backup replaces. -/
theorem backup_replaces :
    backup.Ends environment world fun _ after => ∀ location content,
      world.files.get? location = some (.file content) →
        after.files.get? location = some (.file content) ∨
          ∃ path, ReplacedBy environment world.files path location := by
  have kept : ∀ after, world.KeepsFiles after → ∀ location content,
      world.files.get? location = some (.file content) →
        after.files.get? location = some (.file content) :=
    fun _ keeps location content => keeps.files.get? location (.file content)
  refine backup_follows (fun _ _ quiet _ _ found => .inl (kept _ quiet.keepsFiles _ _ found)) ?_
  intro path credential saved ready prepared
  have replaces : (saveFile path saved.encode).Ends environment ready fun _ after =>
      ∀ location content, world.files.get? location = some (.file content) →
        after.files.get? location = some (.file content) ∨
          ∃ path, ReplacedBy environment world.files path location := by
    refine ((saveFile_ends path saved.encode).and (saveFile_sees path saved.encode)).mono ?_
    rintro result after ⟨ends, sees⟩ location content found
    rw [prepared.since.files] at sees
    rcases (ends.of_quiet prepared.since).keepsFiles_or_saves with keeps | ⟨-, saves⟩
    · exact .inl (kept _ keeps _ _ found)
    by_cases same : location = path.location world.files.working
    · subst same
      by_cases still : after.files.get? (path.location world.files.working) = some (.file content)
      · exact .inl still
      refine .inr ⟨path, prepared.chosen, rfl, fun parent followed => ?_⟩
      exact prepared.agreed ((sees parent followed content found).resolve_right still)
    · exact .inl (saves.files.get? location same _ found)
  refine .bind (replaces.mono ?_)
  rintro (error | ⟨⟩) after
  · exact id
  · exact id

end

/-! ### A backup in place of the volume -/

namespace Sample

/-- A file next to nothing else. -/
def single (data : Bytes) : FileSystem := ⟨[(["b.hdr"], .file data)], []⟩

theorem resolve_single (data : Bytes) : (single data).resolve ⟨"b.hdr"⟩ = .ok ["b.hdr"] := rfl

theorem ensureParents_single (data : Bytes) :
    (single data).ensureParents ⟨"b.hdr"⟩ = (single data, .ok ()) := rfl

theorem temporaryPath_replicate :
    FileSystem.temporaryPath ⟨"b.hdr"⟩ (Vector.replicate 8 1) =
      .ok ⟨"b.hdr.tmp.0101010101010101"⟩ := rfl

theorem replaceThrough_single (data new : Bytes) :
    ((single data).replaceThrough ⟨"b.hdr.tmp.0101010101010101"⟩ ⟨"b.hdr"⟩ new .reliable).2 =
      .ok () := rfl

/-- A volume without a data area. -/
def bare : FileVolume := ⟨⟨"b.hdr"⟩, 1024⟩

theorem toNat_offset_backup : (bare.offset .backup).toNat = 512 := by
  simp [FileVolume.offset, bare]

/-- The volume is in the file that will be chosen. -/
def inPlace : World where
  volume := .file bare
  files := single ((sealed 1).toList ++ (sealed 1).toList)
  entropy := ⟨0, 0⟩
  mounted := false
  history := []

theorem inPlace_stored (slot : HeaderSlot) : inPlace.stored slot = .ok (sealed 1) := by
  have size : (sealed 1).toList.length = 512 := Vector.length_toList
  have inFile : inPlace.volume = .file bare := rfl
  rw [World.stored_file inFile]
  refine FileVolume.read_eq_ok.mpr ⟨(sealed 1).toList ++ (sealed 1).toList, ?_⟩
  constructor
  · exact resolve_single _
  · cases slot with
    | primary => exact Nat.zero_le _
    | backup => rw [toNat_offset_backup]; decide
  · rfl
  cases slot with
  | primary => exact List.take_left' size
  | backup =>
      rw [toNat_offset_backup, Bytes.slice, List.drop_left' size]
      exact List.take_of_length_le (Nat.le_of_eq size)

variable {device : DeviceBehaviour} {ready : World}

theorem fileExists_single {data : Bytes} (same : ready.files = single data) :
    ((fileExists ⟨"b.hdr"⟩).runIn (environment device) ready).1 = .ok true := by
  rw [runIn_fileExists, same, FileSystem.exists?, resolve_single]
  rfl

theorem saveFile_single {data new : Bytes} (same : ready.files = single data) :
    (saveFile ⟨"b.hdr"⟩ new).Ends (environment device) ready fun result _ => result = .ok () := by
  refine saveFile_succeeds ?_ (fun _ => draw_result _) temporaryPath_replicate
    (fun _ => replaceThrough_single data new)
  rw [same, ensureParents_single]

theorem readHeader_faithful {start : World} {slot : HeaderSlot} {bytes : HeaderBytes}
    (since : start.Quiet ready) (held : start.stored slot = .ok bytes) :
    ((readHeader slot).runIn (environment .faithful) ready).1 = .ok bytes := by
  rw [runIn_readHeader_of_stored ((since.unharmed.stored slot).trans held) rfl]

/-- The operator agrees that the file is replaced, and it is. -/
theorem backup_succeeds {start : World} {data : Bytes} {first second : UInt8}
    (files : start.files = single data) (held : start.stored .primary = .ok (sealed first))
    (heldBackup : start.stored .backup = .ok (sealed second)) :
    backup.Ends (environment .faithful) start fun result _ => result = .ok ⟨"b.hdr"⟩ := by
  refine .bind_quiet_ok (Change.refl start) (quiet_ask _) (ask_result _) ?_
  intro _ since
  refine .bind_quiet_ok since (quiet_fileExists _)
    (fileExists_single (since.files.trans files)) ?_
  intro _ since
  refine .bind_quiet_ok since (quiet_requireConfirmation _ _ _)
    (requireConfirmation_result _ _ _) ?_
  intro _ since
  refine .bind_quiet_ok since (quiet_askCredential _) (askCredential_result _) ?_
  intro _ since
  refine .bind_quiet_ok since (quiet_readHeader _) (readHeader_faithful since held) ?_
  intro _ since
  refine .bind_quiet_ok since (quiet_unlock _ _) (unlock_result first) ?_
  intro _ since
  have there := since.hasBackupSlot.trans (World.hasBackupSlot_of_stored heldBackup)
  refine .bind_quiet_ok since (quiet_soundBackup _)
    (soundBackup_of_opens there (readHeader_faithful since heldBackup) (opens second)) ?_
  intro ready since
  refine .bind_ok runIn_read (.bind ((saveFile_single (since.files.trans files)).mono ?_))
  rintro _ after rfl
  rfl

theorem backup_inPlace :
    backup.Ends (environment .faithful) inPlace fun result _ => result = .ok ⟨"b.hdr"⟩ :=
  backup_succeeds rfl (inPlace_stored .primary) (inPlace_stored .backup)

/-- A file of saved headers does not begin like this header. -/
theorem slice_encode_ne_sealed (saved : HeaderBackup) :
    saved.encode.slice 0 512 ≠ (sealed 1).toList := by
  intro same
  have front := congrArg List.head? same
  rw [Bytes.slice, List.drop_zero, List.head?_take, if_neg (by decide), saved.head?_encode,
    head?_sealed] at front
  revert front
  decide

end Sample

/-- Backing up can change the volume: the operator may choose the file that the volume is in. -/
theorem backup_can_replace_volume :
    let environment := Sample.environment .faithful
    let world := Sample.inPlace
    ∃ path after, backup.runIn environment world = (.ok path, after) ∧
      after.stored .primary ≠ world.stored .primary := by
  intro environment world
  obtain ⟨_, after, run, rfl⟩ := Sample.backup_inPlace.exists_run
  refine ⟨⟨"b.hdr"⟩, after, run, ?_⟩
  obtain ⟨saved, -, saves, -⟩ :=
    (backup_ends (DeviceBehaviour.recoverable_faithful world.history)).of_runIn run
  rw [Sample.inPlace_stored .primary, World.stored_file saves.volume]
  intro same
  obtain ⟨content, holds⟩ := FileVolume.read_eq_ok.mp same
  have found := holds.found
  rw [saves.files.working] at found
  obtain ⟨⟩ := Option.some.inj (found.symm.trans saves.files.replaced)
  exact Sample.slice_encode_ne_sealed saved holds.stored

end HeaderVault.Protocol
