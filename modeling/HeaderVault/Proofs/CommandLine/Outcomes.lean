import HeaderVault.Proofs.CommandLine.Actions

/-!
What can be relied on of a run, whatever the command line.

The work of a command is what it has the protocols do on the volume (`Command.work`). The exit code
tells what has become of it (`Outcome.codeFor`), whatever an action does around the work. A run that
does not end with the code of success has left every file as it was, and none is new, unless the disk
or the device refused something (`Invocation.Remains`): then the file of a new volume or a temporary
file may stay behind, a backup may be there although it failed, or the slots of the volume may differ.
Without the option that agrees to everything no header is restored, and a backup replaces a file only
where the directory that its path leads through could not be followed when the backup was about to
begin (`Outcome.Reliable`, `execute_reliable`).

That exception is real: making the missing directories can lead the path to a file that was there all
the time (`backup_can_replace_unseen`).
-/

namespace HeaderVault

/-! ### Work -/

/-- A session without what comes out of it. -/
def Session.completion {α : Type} (session : Session α) : Session Unit := do
  let _ ← session
  return

/-- What a command has done on a volume, with nothing around it. -/
def Command.work (volume : Path) : Command → Session Unit
  | .create size costs => do
      let params ← Session.ofExcept costs.params
      let _ ← Session.createVolume volume size
      Protocol.format params size
  | .info _ => do
      let _ ← Session.openVolume volume
      (Protocol.inspect .standard).completion
  | .backup _ => do
      let _ ← Session.openVolume volume
      Protocol.backup.completion
  | .restore _ _ => do
      let _ ← Session.openVolume volume
      Protocol.restore.completion
  | .upgradeKdf costs => do
      let params ← Session.ofExcept costs.params
      let _ ← Session.openVolume volume
      (Protocol.upgrade params).completion

namespace Action

variable {path : Path} {costs : Costs}

/-! What an action makes of what comes out of its work does not matter. -/

theorem completion_info (backend : AesBackend) (json other : Bool) :
    (info path backend json).completion = (Command.info other).work path := by
  simp only [info, Command.work, Session.completion, bind_assoc, pure_bind]

theorem completion_backup (output : Option Path) :
    (backup path).completion = (Command.backup output).work path := by
  simp only [backup, Command.work, Session.completion, bind_assoc, pure_bind]

theorem completion_restore (fromFile : Option Path) (embedded : Bool) :
    (restore path).completion = (Command.restore fromFile embedded).work path := by
  simp only [restore, Command.work, Session.completion, bind_assoc]
  refine bind_congr fun volume => bind_congr fun source => ?_
  cases source <;> rfl

theorem completion_upgradeKdf :
    (upgradeKdf path costs).completion = (Command.upgradeKdf costs).work path := by
  simp only [upgradeKdf, Command.work, Session.completion, bind_assoc]
  refine bind_congr fun params => bind_congr fun volume => bind_congr fun outcome => ?_
  cases outcome <;> rfl

/-- Removing a volume that cannot be given headers does not change why it cannot. -/
theorem create_work {environment : Environment} {world : World} (size : UInt64) :
    ((create path size costs).runIn environment world).1.bind id =
      (((Command.create size costs).work path).runIn environment world).1 := by
  simp only [create, Command.work, Session.runIn_bind, Session.runIn_attempt]
  rcases (Session.ofExcept costs.params).runIn environment world with ⟨error | params, ready⟩
  · rfl
  dsimp only
  rcases (Session.createVolume path size).runIn environment ready with ⟨error | volume, made⟩
  · rfl
  dsimp only
  rcases (Protocol.format params size).runIn environment made with ⟨error | ⟨⟩, after⟩ <;> rfl

end Action

/-! ### Exit codes -/

namespace Outcome

variable {host : Host} {preset : Preset} {files : FileSystem}

/-- The exit code for what has become of the work, if it came to that. -/
def codeFor : Option (Except Error Unit) → UInt8
  | some (.ok ()) => 0
  | some (.error .cancelled) => 2
  | _ => 1

theorem codeFor_eq_zero {worked : Option (Except Error Unit)} :
    codeFor worked = 0 ↔ worked = some (.ok ()) := by
  constructor
  · intro zero
    unfold codeFor at zero
    split at zero
    · rfl
    · exact absurd zero (by decide)
    · exact absurd zero (by decide)
  · rintro rfl
    rfl

/-- A failure that comes from the work ends with the code for it. -/
theorem exitCode_of_error {outcome : Outcome} {failure : Failure} {error : Error}
    (failed : outcome.result = .error failure) (cause : failure.error? = some error) :
    outcome.exitCode = codeFor (some (.error error)) := by
  unfold exitCode Failure.isCancelled
  rw [failed]
  dsimp only
  rw [cause]
  cases error <;> rfl

theorem exitCode_ofSession (session : Session String) :
    (ofSession host preset files session).exitCode =
      codeFor (some (session.completion.runIn (host.environment preset) (startWorld files)).1) := by
  rw [Session.completion, Session.runIn_bind]
  unfold ofSession
  rcases session.runIn (host.environment preset) (startWorld files) with ⟨error | line, after⟩
  · exact exitCode_of_error rfl rfl
  · rfl

theorem exitCode_ofCreate (session : Session (Except Error Unit)) :
    (ofCreate host preset files session).exitCode =
      codeFor (some ((session.runIn (host.environment preset) (startWorld files)).1.bind id)) := by
  unfold ofCreate
  rcases session.runIn (host.environment preset) (startWorld files) with
    ⟨error | error | ⟨⟩, after⟩
  · exact exitCode_of_error rfl rfl
  · exact exitCode_of_error rfl rfl
  · rfl

/-- A session that never succeeds does not end with the code of success. -/
theorem exitCode_ne_zero {session : Session String}
    (never : session.Ends (host.environment preset) (startWorld files) fun result _ =>
      ∀ line, result ≠ .ok line) : (ofSession host preset files session).exitCode ≠ 0 := by
  rw [exitCode_ofSession, Session.completion, Session.runIn_bind]
  obtain ⟨error | line, after, run, never⟩ := never.exists_run
  · rw [run]
    exact fun zero => nomatch codeFor_eq_zero.mp zero
  · exact absurd rfl (never line)

theorem files_ofSession {session : Session String} {remains : FileSystem → Prop}
    (fails : session.Ends (host.environment preset) (startWorld files) fun result after =>
      ∀ error, result = .error error → remains after.files)
    (failed : (ofSession host preset files session).exitCode ≠ 0) :
    remains (ofSession host preset files session).files := by
  unfold ofSession at failed ⊢
  obtain ⟨error | line, after, run, fails⟩ := fails.exists_run
  · rw [run]
    exact fails error rfl
  · rw [run] at failed
    exact absurd rfl failed

theorem files_ofCreate {session : Session (Except Error Unit)} {remains : FileSystem → Prop}
    (fails : session.Ends (host.environment preset) (startWorld files) fun result after =>
      result ≠ .ok (.ok ()) → remains after.files)
    (failed : (ofCreate host preset files session).exitCode ≠ 0) :
    remains (ofCreate host preset files session).files := by
  unfold ofCreate at failed ⊢
  obtain ⟨error | error | ⟨⟩, after, run, fails⟩ := fails.exists_run
  · rw [run]
    exact fails nofun
  · rw [run]
    exact fails nofun
  · rw [run] at failed
    exact absurd rfl failed

end Outcome

/-! ### Answers that are known before a run -/

theorem Preset.selectFile_eq_ok {preset : Preset} {history : History} {files : FileSystem}
    {title : String} {mode : FileMode} {path : Path}
    (said : preset.selectFile history files title mode = .ok path) : preset.file = some path := by
  unfold selectFile at said
  split at said
  · cases said
  next known =>
  split at said
  · cases said
  cases said
  split at known
  · cases known
  · exact known

namespace Host

variable {host : Host} {preset : Preset} {history : History} {files : FileSystem}

/-- A step that cannot be undone is agreed to by the option that agrees to everything. -/
theorem operator_confirm (message : String) :
    (host.environment preset).operator history files (.confirm message false true) =
      .ok preset.assumeYes := by
  change Except.ok (preset.assumeYes || (false && !true)) = _
  rw [Bool.false_and, Bool.or_false]

/-- A file that is chosen was known before the run. -/
theorem operator_selectFile {title : String} {mode : FileMode} {path : Path}
    (said : (host.environment preset).operator history files (.selectFile title mode) = .ok path) :
    preset.file = some path := by
  change (preset.selectFile history files title mode).mapError _ = _ at said
  cases found : preset.selectFile history files title mode with
  | error error => rw [found] at said; cases said
  | ok other =>
      rw [found] at said
      cases said
      exact Preset.selectFile_eq_ok found

end Host

/-! ### Whole runs -/

namespace Invocation

/-- The answers that are known before a run. A backup without a place to go to has none. -/
def preset? (invocation : Invocation) (host : Host) (volume : Path) : Option Preset :=
  let preset : Preset := ⟨invocation.keyfiles, invocation.assumeYes, none, none⟩
  match invocation.command with
  | .backup output =>
      match output.elim (host.backupPath volume) .ok with
      | .error _ => none
      | .ok path => some { preset with file := some path }
  | .restore fromFile embedded =>
      some { preset with file := fromFile, choice := restoreChoice fromFile embedded }
  | _ => some preset

/-- What becomes of the work of a command, if it comes to that. -/
def worked? (invocation : Invocation) (host : Host) (files : FileSystem) :
    Option (Except Error Unit) :=
  match invocation.volume with
  | none => none
  | some volume =>
      (invocation.preset? host volume).map fun preset =>
        ((invocation.command.work volume).runIn (host.environment preset)
          (Outcome.startWorld files)).1

/-- The file that a command saves to or reads from. -/
def file? (invocation : Invocation) (host : Host) : Option Path :=
  match invocation.volume with
  | none => none
  | some volume => (invocation.preset? host volume).bind Preset.file

/-- What a run that fails leaves of the files. -/
inductive Remains (host : Host) (files : FileSystem) (invocation : Invocation) :
    FileSystem → Prop
  /-- Every file is as it was, and none is new. -/
  | untouched {after : FileSystem} (adds : files.AddsDirectories after) :
      Remains host files invocation after
  /-- The file of a new volume stays behind. -/
  | volume {path : Path} {size : UInt64} {costs : Costs} {content : Bytes} {after : FileSystem}
      (given : invocation.volume = some path) (command : invocation.command = .create size costs)
      (left : Disk.Abandons host.disk (path.location files.working) size content)
      (adds : files.AddsFile (path.location files.working) content after) :
      Remains host files invocation after
  /-- The temporary file of a backup stays behind. -/
  | temporary {output : Option Path} {saved : HeaderBackup} {place : Location} {part : Bytes}
      {after : FileSystem} (command : invocation.command = .backup output)
      (left : Disk.Leaves host.disk place saved.encode part)
      (adds : files.AddsFile place part after) : Remains host files invocation after
  /-- A backup has been saved, but its directory could not be written out. -/
  | saved {output : Option Path} {path : Path} {saved : HeaderBackup} {after : FileSystem}
      (command : invocation.command = .backup output) (chosen : invocation.file? host = some path)
      (refused : Disk.RefusesSync host.disk)
      (replaces : files.Replaces (path.location files.working) saved.encode after) :
      Remains host files invocation after
  /-- The slots of the volume were written to, on a device that need not do what it is told. -/
  | slots {path : Path} {after : FileSystem} (given : invocation.volume = some path)
      (command : (∃ fromFile embedded, invocation.command = .restore fromFile embedded) ∨
        ∃ costs, invocation.command = .upgradeKdf costs)
      (unfaithful : host.device ≠ .faithful)
      (rewrites : files.Rewrites (path.location files.working) after) :
      Remains host files invocation after

end Invocation

namespace Outcome

/-- What can be relied on of the outcome of a command line. -/
structure Reliable (host : Host) (files : FileSystem) (invocation : Invocation) (outcome : Outcome) :
    Prop where
  /-- The exit code tells what has become of the work. -/
  code : outcome.exitCode = codeFor (invocation.worked? host files)
  /-- A run that fails leaves every file as it was, and none is new, unless the disk or the device
  refused something. -/
  failed : outcome.exitCode ≠ 0 → invocation.Remains host files outcome.files
  /-- No header is restored unless that was agreed to. -/
  restore : invocation.assumeYes = false → ∀ fromFile embedded,
    invocation.command = .restore fromFile embedded → outcome.exitCode ≠ 0
  /-- A backup replaces no file unless that was agreed to, or the directory that leads to the file
  could not be followed. -/
  backup : invocation.assumeYes = false → ∀ output, invocation.command = .backup output →
    ∀ location content, files.get? location = some (.file content) →
      outcome.files.get? location = some (.file content) ∨
        ∃ path fault, invocation.file? host = some path ∧
          location = path.location files.working ∧ files.resolveParent path = .error fault

end Outcome

/-- That there is no place for a backup is no fault of the work. -/
theorem Host.backupPath_eq_error {host : Host} {output : Option Path} {volume : Path}
    {failure : Failure} (none : output.elim (host.backupPath volume) .ok = .error failure) :
    failure.error? = .none := by
  cases output with
  | some path => cases none
  | none =>
      change host.backupPath volume = _ at none
      unfold backupPath at none
      split at none <;> cases none <;> rfl

namespace Invocation

section

variable {host : Host} {files : FileSystem} {invocation : Invocation}

theorem exitCode_run (invocation : Invocation) (host : Host) (files : FileSystem) :
    (invocation.run host files).exitCode = Outcome.codeFor (invocation.worked? host files) := by
  obtain ⟨_ | volume, keyfiles, assumeYes, softwareAes, command⟩ := invocation
  · rfl
  cases command with
  | create size costs =>
      refine (Outcome.exitCode_ofCreate _).trans ?_
      rw [Action.create_work]
      rfl
  | info json =>
      refine (Outcome.exitCode_ofSession _).trans ?_
      rw [Action.completion_info _ _ json]
      rfl
  | backup output =>
      cases found : output.elim (host.backupPath volume) .ok with
      | error failure =>
          have cause := Host.backupPath_eq_error found
          simp only [run, runOn, found, worked?, preset?]
          cases failure <;> cases cause <;> rfl
      | ok path =>
          simp only [run, runOn, found, worked?, preset?]
          refine (Outcome.exitCode_ofSession _).trans ?_
          rw [Action.completion_backup output]
          rfl
  | restore fromFile embedded =>
      refine (Outcome.exitCode_ofSession _).trans ?_
      rw [Action.completion_restore fromFile embedded]
      rfl
  | upgradeKdf costs =>
      refine (Outcome.exitCode_ofSession _).trans ?_
      rw [Action.completion_upgradeKdf]
      rfl

theorem files_run (sized : files.Sized)
    (possible : ∀ size costs, invocation.command = .create size costs →
      size.toNat + 1024 ≤ FileVolume.maxFileLength)
    (failed : (invocation.run host files).exitCode ≠ 0) :
    invocation.Remains host files (invocation.run host files).files := by
  obtain ⟨_ | volume, keyfiles, assumeYes, softwareAes, command⟩ := invocation
  · exact .untouched (.refl files)
  have sized : (Outcome.startWorld files).files.Sized := sized
  cases command with
  | create size costs =>
      refine Outcome.files_ofCreate ((Action.create_fails (possible size costs rfl)).mono ?_) failed
      intro result after fails different
      rcases fails different with adds | ⟨content, left, adds⟩
      · exact .untouched adds
      · exact .volume rfl rfl left adds
  | info json =>
      refine Outcome.files_ofSession ((Action.info_error_addsDirectories sized _ _).mono ?_) failed
      exact fun _ _ adds error fails => .untouched (adds error fails)
  | backup output =>
      cases target : output.elim (host.backupPath volume) .ok with
      | error failure =>
          simp only [run, runOn, target]
          exact .untouched (.refl files)
      | ok path =>
          simp only [run, runOn, target] at failed ⊢
          refine Outcome.files_ofSession ((Action.backup_fails sized).mono ?_) failed
          intro result after fails error ended
          obtain ⟨ready, same, fails⟩ := fails error ended
          have same : ready.files = files := same
          cases fails with
          | untouched adds => exact .untouched (same ▸ adds.files)
          | leftBehind left adds => exact .temporary rfl left (same ▸ adds.files)
          | @unsynced other saved chosen refused saves =>
              obtain ⟨history, chosen⟩ := chosen
              have known := Host.operator_selectFile chosen
              refine .saved rfl ?_ refused (same ▸ saves.files)
              simpa only [file?, preset?, target, Option.bind_some] using known
  | restore fromFile embedded =>
      refine Outcome.files_ofSession ((Action.restore_fails sized).mono ?_) failed
      intro result after fails error ended
      rcases fails error ended with adds | ⟨unfaithful, rewrites⟩
      · exact .untouched adds
      · exact .slots rfl (.inl ⟨fromFile, embedded, rfl⟩) unfaithful rewrites
  | upgradeKdf costs =>
      refine Outcome.files_ofSession ((Action.upgradeKdf_fails sized).mono ?_) failed
      intro result after fails error ended
      rcases fails error ended with adds | ⟨unfaithful, rewrites⟩
      · exact .untouched adds
      · exact .slots rfl (.inr ⟨costs, rfl⟩) unfaithful rewrites

theorem restore_run (careful : invocation.assumeYes = false) {fromFile : Option Path}
    {embedded : Bool} (restores : invocation.command = .restore fromFile embedded) :
    (invocation.run host files).exitCode ≠ 0 := by
  obtain ⟨_ | volume, keyfiles, assumeYes, softwareAes, command⟩ := invocation
  · exact fun succeeded => absurd succeeded (by decide : (1 : UInt8) ≠ 0)
  cases restores
  cases careful
  simp only [run, runOn]
  refine Outcome.exitCode_ne_zero (Action.restore_agreed.mono ?_)
  intro result after agreed line ok
  obtain ⟨history, files, message, yes⟩ := agreed line ok
  rw [Host.operator_confirm] at yes
  cases yes

theorem backup_run (sized : files.Sized) (careful : invocation.assumeYes = false)
    {output : Option Path} (backs : invocation.command = .backup output) {location : Location}
    {content : Bytes} (found : files.get? location = some (.file content)) :
    (invocation.run host files).files.get? location = some (.file content) ∨
      ∃ path fault, invocation.file? host = some path ∧
        location = path.location files.working ∧ files.resolveParent path = .error fault := by
  obtain ⟨_ | volume, keyfiles, assumeYes, softwareAes, command⟩ := invocation
  · exact .inl found
  have sized : (Outcome.startWorld files).files.Sized := sized
  cases backs
  cases careful
  simp only [run, runOn, file?, preset?]
  cases target : output.elim (host.backupPath volume) .ok with
  | error failure => exact .inl found
  | ok path =>
  rcases (Action.backup_replaces sized) location content found with kept | ⟨other, replaced⟩
  · exact .inl kept
  obtain ⟨history, chosen⟩ := replaced.chosen
  refine .inr ⟨other, ?_⟩
  cases followed : files.resolveParent other with
  | error fault => exact ⟨fault, Host.operator_selectFile chosen, replaced.location, rfl⟩
  | ok parent =>
      obtain ⟨history, message, yes⟩ := replaced.agreed parent followed
      rw [Host.operator_confirm] at yes
      cases yes

/-- Every command line that is accepted has an outcome that can be relied on. -/
theorem execute_reliable {arguments : List String}
    (accepted : parse (host.withVariableFile files).vars arguments = .ok invocation)
    (sized : files.Sized)
    (possible : ∀ size costs, invocation.command = .create size costs →
      size.toNat + 1024 ≤ FileVolume.maxFileLength) :
    ∃ outcome, execute host files arguments = .ok outcome ∧
      outcome.Reliable (host.withVariableFile files) files invocation := by
  refine ⟨invocation.run (host.withVariableFile files) files, ?_, ?_⟩
  · unfold execute
    dsimp only
    rw [accepted]
    rfl
  constructor
  · exact exitCode_run _ _ _
  · exact files_run sized possible
  · exact fun careful _ _ => restore_run careful
  · exact fun careful _ backs _ _ => backup_run sized careful backs

end

/-! ### Two runs -/

namespace Sample

def host : Host where
  vars := ⟨[("VOLKEY_PASSWORD", "pw")]⟩
  accountHome := none
  input := []
  aesInstructions := false
  primitives := .standard
  entropy := fun _ _ count => some (Vector.replicate count 1)
  now := .epoch

def creating : List String := ["--volume", "v.img", "create", "--size", "4096"]

/-- The path leads through a directory that is missing, and out of it again. -/
def backing : List String := ["--volume", "v.img", "backup", "--output", "d/../b.hdr"]

def creation : Invocation :=
  ⟨some ⟨"v.img"⟩, [], false, false, .create 4096 ⟨none, none, none⟩⟩

def saving : Invocation := ⟨some ⟨"v.img"⟩, [], false, false, .backup (some ⟨"d/../b.hdr"⟩)⟩

/-- A file of a volume beside an empty file. -/
def beside (volume : Bytes) : FileSystem :=
  ⟨[(["v.img"], .file volume), (["b.hdr"], .file [])], []⟩

/-- The same once the missing directory is made. -/
def prepared (volume : Bytes) : FileSystem :=
  ⟨[(["d"], .directory), (["v.img"], .file volume), (["b.hdr"], .file [])], []⟩

end Sample

theorem execute_reliable_creating :
    parse (Sample.host.withVariableFile ⟨[], []⟩).vars Sample.creating = .ok Sample.creation ∧
    FileSystem.Sized ⟨[], []⟩ ∧
    (∀ size costs, Sample.creation.command = .create size costs →
      size.toNat + 1024 ≤ FileVolume.maxFileLength) ∧
    ∃ outcome, execute Sample.host ⟨[], []⟩ Sample.creating = .ok outcome ∧
      outcome.Reliable (Sample.host.withVariableFile ⟨[], []⟩) ⟨[], []⟩ Sample.creation := by
  have accepted : parse (Sample.host.withVariableFile ⟨[], []⟩).vars Sample.creating =
    .ok Sample.creation := rfl
  have sized : FileSystem.Sized ⟨[], []⟩ := by
    intro location content found
    unfold FileSystem.get? at found
    split at found <;> cases found
  have possible : ∀ size costs, Sample.creation.command = .create size costs →
      size.toNat + 1024 ≤ FileVolume.maxFileLength := by
    rintro size costs ⟨⟩
    decide
  exact ⟨accepted, sized, possible, execute_reliable accepted sized possible⟩

/-! A backup that replaces a file although nobody was asked. -/

namespace Sample

open Session

variable {preset : Preset} {ready : World} {volume : Bytes}

theorem ensureParents_beside :
    (beside volume).ensureParents ⟨"d/../b.hdr"⟩ = (prepared volume, .ok ()) := by
  with_unfolding_all rfl

theorem temporaryPath_replicate :
    FileSystem.temporaryPath ⟨"d/../b.hdr"⟩ (Vector.replicate 8 1) =
      .ok ⟨"d/../b.hdr.tmp.0101010101010101"⟩ := rfl

theorem replaceThrough_prepared (data : Bytes) :
    ((prepared volume).replaceThrough ⟨"d/../b.hdr.tmp.0101010101010101"⟩ ⟨"d/../b.hdr"⟩ data
      .reliable).2 = .ok () := rfl

theorem draw_result (count : Nat) :
    ((draw count).runIn (host.environment preset) ready).1 = .ok (Vector.replicate count 1) := by
  rw [runIn_draw]
  rfl

theorem password_bytes : "pw".toUTF8.toList = Protocol.Sample.credential.password := by
  with_unfolding_all rfl

theorem askCredential_result (noKeyfiles : preset.keyfiles = []) (text : String) :
    ((askCredential text).runIn (host.environment preset) ready).1 =
      .ok Protocol.Sample.credential := by
  refine askCredential_succeeds ?_ ?_ text
  · intro history files text
    exact congrArg Except.ok password_bytes
  · intro history files
    change (preset.keyfiles.mapM (Keyfile.load files)).mapError _ = _
    rw [noKeyfiles]
    rfl

theorem select_result (known : preset.file = some ⟨"d/../b.hdr"⟩) (start : ready.history = [])
    (title : String) :
    ((ask (.selectFile title .new)).runIn (host.environment preset) ready).1 =
      .ok ⟨"d/../b.hdr"⟩ := by
  have selected : (host.environment preset).operator ready.history ready.files
      (.selectFile title .new) = .ok ⟨"d/../b.hdr"⟩ := by
    change (preset.selectFile ready.history ready.files title .new).mapError _ = _
    unfold Preset.selectFile
    rw [start, known]
    rfl
  rw [runIn_ask, selected]

theorem saveFile_result (files : ready.files = beside volume) (data : Bytes) :
    (saveFile ⟨"d/../b.hdr"⟩ data).Ends (host.environment preset) ready
      fun result _ => result = .ok () := by
  have parents : ready.files.ensureParents ⟨"d/../b.hdr"⟩ = (prepared volume, .ok ()) := by
    rw [files, ensureParents_beside]
  exact saveFile_succeeds parents (fun _ => draw_result _) temporaryPath_replicate
    (fun _ => replaceThrough_prepared data)

/-- Where nothing is seen nobody is asked, and the file that is there all the same is replaced. -/
theorem backup_unseen (noKeyfiles : preset.keyfiles = [])
    (known : preset.file = some ⟨"d/../b.hdr"⟩) (start : ready.history = [])
    (files : ready.files = beside volume)
    (held : ∀ slot, ready.stored slot = .ok (Protocol.Sample.sealed 1)) :
    Protocol.backup.Ends (host.environment preset) ready fun _ after =>
      ∃ saved : HeaderBackup, after.files.get? ["b.hdr"] = some (.file saved.encode) := by
  have opens : Protocol.openHeader (Protocol.Sample.environment .faithful).primitives
      Protocol.Sample.credential (Protocol.Sample.sealed 1) = .ok (Protocol.Sample.header 1) :=
    Protocol.Sample.opens 1
  have read : ∀ slot world, ready.Quiet world →
      ((readHeader slot).runIn (host.environment preset) world).1 =
        .ok (Protocol.Sample.sealed 1) := by
    intro slot world since
    rw [runIn_readHeader_of_stored ((since.unharmed.stored slot).trans (held slot)) rfl]
  have unseen : ∀ world, ready.Quiet world → ¬world.files.exists? ⟨"d/../b.hdr"⟩ = true := by
    intro world since
    rw [since.files, files]
    exact Bool.false_ne_true
  refine .bind_quiet_ok (Change.refl ready) (quiet_ask _) (select_result known start _) ?_
  intro asked since
  refine .bind_ok (runIn_fileExists _) ?_
  rw [if_neg (unseen asked since)]
  refine .bind_quiet_ok since (quiet_askCredential _) (askCredential_result noKeyfiles _) ?_
  intro _ since
  refine .bind_quiet_ok since (quiet_readHeader _) (read .primary _ since) ?_
  intro _ since
  refine .bind_quiet_ok since (Protocol.quiet_unlock _ _)
    ((Protocol.unlock_result _).trans opens) ?_
  intro _ since
  have there := since.hasBackupSlot.trans (World.hasBackupSlot_of_stored (held .backup))
  refine .bind_quiet_ok since (Protocol.quiet_soundBackup _)
    (Protocol.soundBackup_of_opens there (read .backup _ since) opens) ?_
  intro last since
  refine .bind_ok runIn_read (.bind (((saveFile_result (since.files.trans files) _).and
    (saveFile_ends _ _)).mono ?_))
  rintro _ after ⟨rfl, ends⟩
  cases ends with
  | saved saves =>
      have replaced := saves.files.replaced
      rw [since.files, files] at replaced
      exact ⟨_, replaced⟩

theorem accepts_backing :
    parse (host.withVariableFile (beside volume)).vars backing = .ok saving := rfl

/-- A volume without a data area. -/
def bare : FileVolume := ⟨⟨"v.img"⟩, 1024⟩

/-- The whole run, with a volume that holds the same header twice. -/
theorem backing_replaces
    (represents : bare.Represents (beside volume) [] fun _ => Protocol.Sample.sealed 1) :
    ∃ saved : HeaderBackup,
      (saving.run host (beside volume)).files.get? ["b.hdr"] = some (.file saved.encode) := by
  have size : (Slots.around (fun _ => Protocol.Sample.sealed 1) []).length = 1024 :=
    Slots.length_around _ _
  have opened : FileVolume.openAt (Outcome.startWorld (beside volume)).files ⟨"v.img"⟩ =
      .ok bare := by
    have found : (Outcome.startWorld (beside volume)).files.read ⟨"v.img"⟩ = _ :=
      represents.read_path
    rw [FileVolume.openAt_of_read found, size]
    rfl
  have replaced : (Action.backup ⟨"v.img"⟩).Ends
      (host.environment ⟨[], false, some ⟨"d/../b.hdr"⟩, none⟩) (Outcome.startWorld (beside volume))
      fun _ after => ∃ saved : HeaderBackup,
        after.files.get? ["b.hdr"] = some (.file saved.encode) := by
    refine .bind (.bind_ok runIn_get (.bind (ends_ofExcept ?_)))
    rw [opened]
    refine .bind_ok (runIn_modify _) (ends_pure ?_)
    refine .bind ((backup_unseen rfl rfl rfl rfl ?_).mono ?_)
    · exact fun slot => (World.stored_file rfl slot).trans (represents.read slot)
    · rintro (error | told) after replaced
      · exact replaced
      · exact replaced
  exact replaced

/-- The bytes of such a volume. -/
def volumeFile : Bytes := Slots.around (fun _ => Protocol.Sample.sealed 1) []

theorem represents_volumeFile :
    bare.Represents (beside volumeFile) [] fun _ => Protocol.Sample.sealed 1 where
  resolved := rfl
  found := rfl
  length := rfl
  possible := by decide

end Sample

/-- Without being told to agree to everything, a backup can replace a file that it has not seen. -/
theorem backup_can_replace_unseen :
    let files := Sample.beside Sample.volumeFile
    parse (Sample.host.withVariableFile files).vars Sample.backing = .ok Sample.saving ∧
    Sample.saving.assumeYes = false ∧
    ∃ outcome, execute Sample.host files Sample.backing = .ok outcome ∧
      files.get? ["b.hdr"] = some (.file []) ∧
      outcome.files.get? ["b.hdr"] ≠ some (.file []) := by
  intro files
  have accepted : parse (Sample.host.withVariableFile files).vars Sample.backing =
    .ok Sample.saving := Sample.accepts_backing
  obtain ⟨saved, replaced⟩ := Sample.backing_replaces Sample.represents_volumeFile
  refine ⟨accepted, rfl, Sample.saving.run Sample.host files, ?_, rfl, ?_⟩
  · unfold execute
    dsimp only
    rw [accepted]
    rfl
  · rw [replaced]
    intro same
    have front := saved.head?_encode
    rw [Node.file.inj (Option.some.inj same)] at front
    cases front

end Invocation

end HeaderVault
