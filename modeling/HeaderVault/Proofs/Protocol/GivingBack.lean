import HeaderVault.Proofs.Protocol.Backup
import HeaderVault.Proofs.Protocol.Course
import HeaderVault.Proofs.Protocol.Provenance
import HeaderVault.Proofs.Protocol.Restore

/-!
What was saved is given back.

After a backup the file that was chosen reads as what was saved, under the same path
(`World.SavedAs`, `backup_saves`). A restore from such a file, by an operator who agrees and on a
device that does what it is told, succeeds and puts every header that was saved into its slot
(`restore_reaches`, `restoreAnswered_gives`). Together they give the headers of a volume back,
whatever has become of them (`restore_gives_back`).
-/

namespace HeaderVault

/-- The operator restores from a file with a credential and agrees that the volume is overwritten, and
the device does what it is told. -/
structure Environment.Restores (environment : Environment) (path : Path) (credential : Credential) :
    Prop where
  reads : ∀ history slot stored, environment.device.read history slot stored = .ok stored
  writes : ∀ history slot old new,
    environment.device.write history slot old new = ⟨some new, .ok ()⟩
  /-- The second of the sources is a file. -/
  choose : ∀ history files message options,
    environment.operator history files (.choose message options) = .ok (some 1)
  selectFile : ∀ history files title,
    environment.operator history files (.selectFile title .existing) = .ok path
  password : ∀ history files text,
    environment.operator history files (.password text) = .ok credential.password
  keyfiles : ∀ history files, environment.operator history files .keyfiles = .ok credential.keyfiles
  confirm : ∀ history files message default warning,
    environment.operator history files (.confirm message default warning) = .ok true

/-- There is an embedded copy that the credential opens. -/
def World.BackupOpens (world : World) (primitives : Primitives) (credential : Credential) : Prop :=
  ∃ bytes header, world.stored .backup = .ok bytes ∧
    Protocol.openHeader primitives credential bytes = .ok header

/-- What was saved of a volume: the primary header, and the embedded copy exactly if it opens. -/
structure World.SavedAs (primitives : Primitives) (credential : Credential) (world : World)
    (saved : HeaderBackup) : Prop where
  primary : world.stored .primary = .ok saved.primary
  backup : ∀ bytes, saved.backup = some bytes → world.stored .backup = .ok bytes
  omitted : saved.backup = none → ¬world.BackupOpens primitives credential
  opens : ∀ bytes ∈ saved.headers, ∃ header,
    Protocol.openHeader primitives credential bytes = .ok header

theorem World.SavedAs.backupOpens {primitives : Primitives} {credential : Credential}
    {world : World} {saved : HeaderBackup} (savedAs : world.SavedAs primitives credential saved)
    {bytes : HeaderBytes} (second : saved.backup = some bytes) :
    world.BackupOpens primitives credential := by
  obtain ⟨header, opens⟩ :=
    savedAs.opens bytes (List.mem_cons_of_mem _ (Option.mem_toList.mpr second))
  exact ⟨bytes, header, savedAs.backup bytes second, opens⟩

/-- The slots hold what they held in `world`, as far as that was saved and there is a slot for it; the
rest is as it was in `later`. -/
structure GivenBack (primitives : Primitives) (credential : Credential) (world later final : World) :
    Prop where
  primary : final.stored .primary = world.stored .primary
  backup : later.hasBackupSlot = true → world.BackupOpens primitives credential →
    final.stored .backup = world.stored .backup
  unsound : ¬world.BackupOpens primitives credential → final.stored .backup = later.stored .backup
  missing : later.hasBackupSlot = false → later.WritesOnly (fun slot _ => slot = .primary) final

/-- What was saved is given back when the second header takes the place of the embedded copy, if there
is a second one and a slot for it. -/
theorem World.SavedAs.givenBack {primitives : Primitives} {credential : Credential}
    {world later final : World} {saved : HeaderBackup}
    (savedAs : world.SavedAs primitives credential saved)
    (primary : final.stored .primary = .ok saved.primary)
    (backup : final.stored .backup =
      (if later.hasBackupSlot then saved.backup else none).elim (later.stored .backup) .ok)
    (missing : later.hasBackupSlot = false → later.WritesOnly (fun slot _ => slot = .primary) final) :
    GivenBack primitives credential world later final where
  primary := primary.trans savedAs.primary.symm
  backup there opens := by
    rw [backup, if_pos there]
    cases second : saved.backup with
    | none => exact absurd opens (savedAs.omitted second)
    | some bytes => exact (savedAs.backup bytes second).symm
  unsound closed := by
    have none : saved.backup = none := Option.eq_none_iff_forall_ne_some.mpr fun _ second =>
      closed (savedAs.backupOpens second)
    rw [backup, none, ite_self]
    rfl
  missing := missing

namespace Protocol

open Session

section

variable {environment : Environment} {world : World} {credential : Credential} {path : Path}

/-! ### What a backup saves -/

/-- After a backup its file reads as what was saved. -/
theorem backup_saves (readsStored : environment.device.ReadsStored world.history)
    (only : environment.OnlyGives credential) :
    backup.Ends environment world fun result after => ∀ path, result = .ok path →
      ∃ saved : HeaderBackup, after.files.read path = .ok saved.encode ∧
        world.SavedAs environment.primitives credential saved := by
  refine backup_follows (fun _ _ _ _ => nofun) ?_
  intro path given saved ready prepared
  obtain ⟨_, -, gathered⟩ := prepared.gathered
  obtain rfl := only.eq gathered.gives
  have reads : (saveBackup path saved).Ends environment ready fun result after =>
      result = .ok () → after.files.read path = .ok saved.encode := saveFile_reads path saved.encode
  refine .bind_yields reads ?_
  rintro ⟨⟩ after reads _ ⟨⟩
  obtain ⟨primary, backup⟩ := prepared.stored readsStored
  refine ⟨saved, reads rfl, primary, backup, ?_, prepared.opens⟩
  rintro omitted ⟨bytes, header, held, opens⟩
  obtain ⟨error, fails⟩ := (prepared.omits readsStored omitted).fails held
  rw [opens] at fails
  cases fails

/-! ### What a restore gives -/

theorem chooseEmbedded_succeeds (restores : environment.Restores path credential) :
    (chooseEmbedded.runIn environment world).1 = .ok false := by
  rw [chooseEmbedded, runIn_bind, runIn_hasBackupSlot]
  dsimp only
  split
  · rw [runIn_bind_ok (ask_succeeds fun history files => restores.choose history files _ _)]
    rfl
  · rfl

/-- A second header that opens is for the embedded copy, if there is a slot for it. -/
theorem soundExtra_succeeds {extra : Option HeaderBytes}
    (opens : ∀ bytes, extra = some bytes → ∃ header,
      openHeader environment.primitives credential bytes = .ok header) :
    ((soundExtra credential extra).runIn environment world).1 =
      .ok (if world.hasBackupSlot then extra else none) := by
  cases extra with
  | none =>
      rw [ite_self]
      rfl
  | some bytes =>
      obtain ⟨header, opens⟩ := opens bytes rfl
      cases there : world.hasBackupSlot with
      | false => simp [soundExtra, runIn_bind, runIn_hasBackupSlot, there, runIn_pure]
      | true => exact soundExtra_of_opens there opens

/-- A file with headers that open is restored, as far as the commits allow. -/
theorem restore_reaches {post : Except Error RestoreSource → World → Prop}
    (restores : environment.Restores path credential) {saved : HeaderBackup}
    (found : world.files.read path = .ok saved.encode)
    (opens : ∀ bytes ∈ saved.headers, ∃ header,
      openHeader environment.primitives credential bytes = .ok header)
    (commits : ∀ ready, world.Quiet ready →
      (restoreAnswered ⟨.file path, saved.primary, saved.backup⟩
        (if world.hasBackupSlot then saved.backup else none)).Ends environment ready post) :
    restore.Ends environment world post := by
  refine .bind (.bind_quiet_ok (Change.refl world) quiet_chooseEmbedded
    (chooseEmbedded_succeeds restores) fun _ since => ?_)
  refine .bind_quiet_ok since (quiet_ask _)
    (ask_succeeds fun history files => restores.selectFile history files _) ?_
  intro asked since
  have found : asked.files.read path = .ok saved.encode := by rw [since.files, found]
  refine .bind_quiet_ok since (quiet_loadBackup _)
    (congrArg Prod.fst (runIn_loadBackup_of_read found saved.decode_encode)) ?_
  intro _ since
  refine ends_pure ?_
  refine .bind_quiet_ok since (quiet_askCredential _)
    (askCredential_succeeds restores.password restores.keyfiles _) ?_
  intro _ since
  obtain ⟨header, opensPrimary⟩ := opens saved.primary List.mem_cons_self
  refine .bind_quiet_ok since (quiet_unlock _ _) ((unlock_result _).trans opensPrimary) ?_
  intro opened since
  have extra : ((soundExtra credential saved.backup).runIn environment opened).1 =
      .ok (if opened.hasBackupSlot then saved.backup else none) :=
    soundExtra_succeeds fun bytes second =>
      opens bytes (List.mem_cons_of_mem _ (Option.mem_toList.mpr second))
  rw [since.hasBackupSlot] at extra
  refine .bind_quiet_ok since (quiet_soundExtra _ _) extra ?_
  intro _ since
  refine .bind_quiet_ok since (quiet_requireConfirmation _ _ _)
    (requireConfirmation_succeeds restores.confirm _ _ _) ?_
  exact commits

/-- Headers that were found take their places, and an embedded copy stays if there is no second one. -/
theorem restoreAnswered_gives
    (reads : ∀ history slot stored, environment.device.read history slot stored = .ok stored)
    (writes : ∀ history slot old new,
      environment.device.write history slot old new = ⟨some new, .ok ()⟩)
    (apart : world.SlotsApart) {former : HeaderBytes} (held : world.stored .primary = .ok former)
    (candidate : Candidate) {extra : Option HeaderBytes}
    (heldBackup : extra.isSome → ∃ bytes, world.stored .backup = .ok bytes) :
    (restoreAnswered candidate extra).Ends environment world fun result after =>
      result = .ok candidate.source ∧ after.stored .primary = .ok candidate.primary ∧
        after.stored .backup = extra.elim (world.stored .backup) .ok := by
  refine .bind_ok (runIn_readHeader_of_stored held (reads _ _ _)) ?_
  have read : world.Unharmed (world.record (.read .primary (.ok former))) :=
    World.Quiet.unharmed (.record id)
  refine .bind ((commit_of_faithful (fun _ => reads _ _) (fun _ => writes _ _)
    (read.elsewhere.slotsApart apart) ((read.stored .primary).trans held)).mono ?_)
  rintro _ committed ⟨rfl, stores, -⟩
  have stores := stores.of_unharmed read
  cases extra with
  | none => exact ⟨rfl, stores.stored, stores.other .backup (by decide)⟩
  | some bytes =>
      obtain ⟨formerBackup, heldBackup⟩ := heldBackup rfl
      have heldNow := (stores.other .backup (by decide)).trans heldBackup
      refine .bind_ok (runIn_readHeader_of_stored heldNow (reads _ _ _)) ?_
      have read : committed.Unharmed (committed.record (.read .backup (.ok formerBackup))) :=
        World.Quiet.unharmed (.record id)
      refine .bind ((commitBackup_of_faithful (fun _ => reads _ _)
        (fun _ => writes _ _) (read.elsewhere.slotsApart (stores.elsewhere.slotsApart apart))
        ((read.stored .backup).trans heldNow) former).mono ?_)
      rintro _ settled ⟨rfl, storesBackup⟩
      refine ⟨rfl, ?_, storesBackup.stored⟩
      exact ((storesBackup.other .primary (by decide)).trans (read.stored .primary)).trans
        stores.stored

/-- Without a second header only the primary slot is written. -/
theorem restoreAnswered_writes (candidate : Candidate) (extra : Option HeaderBytes) :
    (restoreAnswered candidate extra).Ends environment world fun _ after =>
      extra = none → world.WritesOnly (fun slot _ => slot = .primary) after := by
  have writes : Within (World.WritesOnly fun slot _ => slot = .primary)
      (restoreAnswered candidate none) :=
    (quiet_readHeader _).writesOnly.bind fun _ => (writesOnly_commit rfl rfl).bind fun _ =>
      (quiet_tell _).writesOnly.bind fun _ => within_pure _
  rintro rfl
  exact writes environment world

/-! ### Both together -/

/-- Whatever has become of the slots of a volume since it was backed up, a restore from the file gives
back what was saved: the primary header, and the embedded copy if it opened. An embedded copy that did
not open is left as it is. -/
theorem restore_gives_back {after later : World} {again : Environment}
    (readsStored : environment.device.ReadsStored world.history)
    (only : environment.OnlyGives credential)
    (saved : backup.runIn environment world = (.ok path, after))
    (kept : later.files.read path = after.files.read path) (apart : later.SlotsApart)
    (readable : ∀ slot, slot = .primary ∨ later.hasBackupSlot = true →
      ∃ bytes, later.stored slot = .ok bytes)
    (primitives : again.primitives = environment.primitives)
    (restores : again.Restores path credential) :
    ∃ final, restore.runIn again later = (.ok (.file path), final) ∧
      GivenBack environment.primitives credential world later final := by
  obtain ⟨found, reads, savedAs⟩ :=
    (backup_saves readsStored only).of_runIn saved path rfl
  rw [← primitives] at savedAs ⊢
  have given : restore.Ends again later fun result final => result = .ok (.file path) ∧
      GivenBack again.primitives credential world later final := by
    refine restore_reaches restores (kept.trans reads) savedAs.opens ?_
    intro ready since
    obtain ⟨former, held⟩ := readable .primary (.inl rfl)
    have held := (since.unharmed.stored .primary).trans held
    have heldBackup : (if later.hasBackupSlot then found.backup else none).isSome →
        ∃ bytes, ready.stored .backup = .ok bytes := by
      intro second
      have there : later.hasBackupSlot = true := by
        split at second
        · assumption
        · cases second
      rw [since.unharmed.stored .backup]
      exact readable .backup (.inr there)
    have apart := since.unharmed.elsewhere.slotsApart apart
    refine ((restoreAnswered_gives restores.reads restores.writes apart held _ heldBackup).and
      (restoreAnswered_writes _ _)).mono ?_
    rintro _ final ⟨⟨rfl, primary, backup⟩, writes⟩
    rw [since.unharmed.stored .backup] at backup
    refine ⟨rfl, savedAs.givenBack primary backup fun missing => ?_⟩
    have writes := writes (if_neg (Bool.eq_false_iff.mp missing))
    exact Change.trans (since.writesOnly _) writes
  obtain ⟨_, final, run, rfl, givenBack⟩ := given.exists_run
  exact ⟨final, run, givenBack⟩

end

/-! ### Two headers that are given back -/

namespace Sample

theorem restores : (environment .faithful).Restores ⟨"b.hdr"⟩ credential where
  reads _ _ _ := rfl
  writes _ _ _ _ := rfl
  choose _ _ _ _ := rfl
  selectFile _ _ _ := rfl
  password _ _ _ := rfl
  keyfiles _ _ := rfl
  confirm _ _ _ _ _ := rfl

/-- A volume whose headers differ, next to the file that will be chosen. -/
def twin : World := world (sealed 1) (some (sealed 2)) (single [])

theorem blank_readable (files : FileSystem) (slot : HeaderSlot) :
    (blank files).stored slot = .ok (Octets.zero 512) := by
  cases slot <;> rfl

end Sample

/-- Both headers come back to a volume whose slots were overwritten with zeros. -/
theorem restore_gives_back_twin :
    let environment := Sample.environment .faithful
    ∃ after final, backup.runIn environment Sample.twin = (.ok ⟨"b.hdr"⟩, after) ∧
      restore.runIn environment (Sample.blank after.files) = (.ok (.file ⟨"b.hdr"⟩), final) ∧
      final.stored .primary = .ok (Sample.sealed 1) ∧
      final.stored .backup = .ok (Sample.sealed 2) := by
  intro environment
  have backs : backup.Ends environment Sample.twin fun result _ => result = .ok ⟨"b.hdr"⟩ :=
    Sample.backup_succeeds rfl rfl rfl
  obtain ⟨_, after, run, rfl⟩ := backs.exists_run
  have kept : (Sample.blank after.files).files.read ⟨"b.hdr"⟩ = after.files.read ⟨"b.hdr"⟩ := rfl
  obtain ⟨final, restored, givenBack⟩ := restore_gives_back
    (DeviceBehaviour.truthful_faithful.readsStored _) (Sample.onlyGives .faithful) run kept
    (Sample.blank_slotsApart _) (fun slot _ => ⟨_, Sample.blank_readable after.files slot⟩) rfl
    Sample.restores
  have opens : Sample.twin.BackupOpens environment.primitives Sample.credential :=
    ⟨Sample.sealed 2, Sample.header 2, rfl, Sample.opens 2⟩
  exact ⟨after, final, run, restored, givenBack.primary, givenBack.backup rfl opens⟩

end Protocol

end HeaderVault
