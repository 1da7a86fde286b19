import HeaderVault.Proofs.Protocol.Backup
import HeaderVault.Proofs.Protocol.Preparation
import HeaderVault.Proofs.Session.Course
import HeaderVault.Protocol.Format
import HeaderVault.Protocol.Restore

/-!
What kinds of events the protocols leave behind.

Commits access the slots and never ask; only mounting a volume again mounts it. Each operation is put
together from its parts, and names everything that it may leave.
-/

namespace HeaderVault.Protocol

open Session

variable {kinds : List Event.Kind}

/-! ### Commits -/

theorem leaves_rollback (wrote : .wrote ∈ kinds) (slot : HeaderSlot) (former : HeaderBytes) :
    Within (World.Leaves kinds) (rollback slot former) :=
  (leaves_writeHeader wrote _ _).attempt.bind fun _ => within_pure _

theorem leaves_commit (read : .read ∈ kinds) (wrote : .wrote ∈ kinds) (slot : HeaderSlot)
    (former bytes : HeaderBytes) : Within (World.Leaves kinds) (commit slot former bytes) := by
  refine Within.bind (.attempt ((leaves_writeHeader wrote _ _).bind fun _ =>
    (leaves_readHeader read _).bind fun _ => .ite (fun _ => ?_) (fun _ => ?_))) ?_
  · exact within_throw _
  · exact within_pure _
  · intro result
    split
    · exact within_pure _
    · exact (leaves_rollback wrote _ _).bind fun _ => within_throw _

theorem leaves_commitBackup (read : .read ∈ kinds) (wrote : .wrote ∈ kinds)
    (formerPrimary former bytes : HeaderBytes) :
    Within (World.Leaves kinds) (commitBackup formerPrimary former bytes) := by
  refine (leaves_commit read wrote _ _ _).attempt.bind ?_
  intro result
  split
  · exact within_pure _
  · exact (leaves_rollback wrote _ _).bind fun _ => within_throw _

/-! ### Formatting, backing up and restoring -/

theorem leaves_install (read : .read ∈ kinds) (wrote : .wrote ∈ kinds) (credential : Credential)
    (slot : HeaderSlot) (header : VolumeHeader) :
    Within (World.Leaves kinds) (install credential slot header) :=
  (leaves_readHeader read _).bind fun _ => (leaves_sealFor _ _).bind fun _ =>
    leaves_commit read wrote _ _ _

theorem leaves_soundBackup (read : .read ∈ kinds) (told : .told ∈ kinds)
    (credential : Credential) : Within (World.Leaves kinds) (soundBackup credential) := by
  refine within_hasBackupSlot.bind fun there => .ite (fun _ => ?_) (fun _ => within_pure _)
  exact (leaves_readHeader read _).bind fun _ => (leaves_unlockOrWarn told _ _ _).bind fun _ =>
    within_pure _

theorem leaves_saveAndTell (drew : .drew ∈ kinds) (saved : .saved ∈ kinds) (told : .told ∈ kinds)
    (path : Path) (backup : HeaderBackup) :
    Within (World.Leaves kinds) (saveAndTell path backup) :=
  (leaves_saveFile drew saved _ _).bind fun _ => (leaves_tell told rfl).bind fun _ => within_pure _

theorem leaves_soundExtra (told : .told ∈ kinds) (credential : Credential)
    (extra : Option HeaderBytes) : Within (World.Leaves kinds) (soundExtra credential extra) := by
  unfold soundExtra
  split
  · exact within_pure _
  · refine within_hasBackupSlot.bind fun there => .ite (fun _ => ?_) (fun _ => within_pure _)
    exact (leaves_unlockOrWarn told _ _ _).bind fun _ => within_pure _

/-- What formatting does once all questions are answered. -/
def formatAnswered (credential : Credential) (kdf : KdfParams) (dataSize : UInt64) :
    Session Unit := do
  let keyArea ← Session.draw 256
  let salt ← Session.drawSalt
  let primary : VolumeHeader := ⟨kdf, salt, dataSize, keyArea⟩
  install credential .primary primary
  if ← Session.hasBackupSlot then
    let backup := primary.rewrapped kdf (← Session.drawSalt)
    install credential .backup backup
  Session.tell (.info s!"Volume headers created ({kdf.display})")

theorem leaves_formatAnswered (drew : .drew ∈ kinds) (read : .read ∈ kinds) (wrote : .wrote ∈ kinds)
    (told : .told ∈ kinds) (credential : Credential) (kdf : KdfParams) (dataSize : UInt64) :
    Within (World.Leaves kinds) (formatAnswered credential kdf dataSize) := by
  refine (leaves_draw drew _).bind fun keyArea => (leaves_draw drew _).bind fun salt => ?_
  refine (leaves_install read wrote _ _ _).bind fun _ => ?_
  refine within_hasBackupSlot.bind fun there => .ite (fun _ => ?_) (fun _ => leaves_tell told rfl)
  refine (leaves_draw drew _).bind fun fresh => (leaves_install read wrote _ _ _).bind fun _ => ?_
  exact leaves_tell told rfl

/-- What backing up does once all questions are answered. -/
def backupAnswered (path : Path) (credential : Credential) : Session Path := do
  let primary ← Session.readHeader .primary
  let _ ← unlock credential primary
  let embedded ← soundBackup credential
  saveAndTell path ⟨(← MonadReader.read).now, primary, embedded⟩

theorem leaves_backupAnswered (read : .read ∈ kinds) (told : .told ∈ kinds) (drew : .drew ∈ kinds)
    (saved : .saved ∈ kinds) (path : Path) (credential : Credential) :
    Within (World.Leaves kinds) (backupAnswered path credential) :=
  (leaves_readHeader read _).bind fun _ => (leaves_unlock _ _).bind fun _ =>
    (leaves_soundBackup read told _).bind fun _ => within_read.bind fun _ =>
      leaves_saveAndTell drew saved told _ _

/-- What restoring does once all questions are answered. -/
def restoreAnswered (candidate : Candidate) (extra : Option HeaderBytes) : Session RestoreSource := do
  let former ← Session.readHeader .primary
  commit .primary former candidate.primary
  if let some bytes := extra then
    let formerBackup ← Session.readHeader .backup
    commitBackup former formerBackup bytes
  Session.tell (.info "Volume header restored.")
  return candidate.source

theorem leaves_restoreAnswered (read : .read ∈ kinds) (wrote : .wrote ∈ kinds)
    (told : .told ∈ kinds) (candidate : Candidate) (extra : Option HeaderBytes) :
    Within (World.Leaves kinds) (restoreAnswered candidate extra) := by
  refine (leaves_readHeader read _).bind fun former => (leaves_commit read wrote _ _ _).bind fun _ => ?_
  have tells := (leaves_tell told rfl : Within (World.Leaves kinds)
    (tell (.info "Volume header restored."))).bind fun _ => within_pure candidate.source
  cases extra with
  | none => exact tells
  | some bytes =>
      exact (leaves_readHeader read _).bind fun formerBackup =>
        (leaves_commitBackup read wrote _ _ _).bind fun _ => tells

/-- Formatting neither dismounts nor mounts. -/
theorem leaves_format (kdf : KdfParams) (dataSize : UInt64) :
    Within (World.Leaves [.asked, .told, .drew, .read, .wrote]) (format kdf dataSize) :=
  (leaves_askCredential (by decide) (by decide) _).bind fun credential =>
    (leaves_ask (by decide) (by decide) _).bind fun _ =>
      leaves_formatAnswered (by decide) (by decide) (by decide) (by decide) credential kdf dataSize

/-- Backing up writes no header, and neither dismounts nor mounts. -/
theorem leaves_backup : Within (World.Leaves [.asked, .told, .read, .drew, .saved]) backup := by
  have answered : ∀ path, Within (World.Leaves [.asked, .told, .read, .drew, .saved])
      (askCredential "Volume password" >>= backupAnswered path) := fun path =>
    (leaves_askCredential (by decide) (by decide) _).bind
      (leaves_backupAnswered (by decide) (by decide) (by decide) (by decide) path)
  refine (leaves_ask (by decide) (by decide) _).bind fun path => (leaves_fileExists _).bind fun there => ?_
  refine .ite (fun _ => ?_) (fun _ => answered path)
  exact (leaves_requireConfirmation (by decide) (by decide) _ _ _).bind fun _ => answered path

theorem leaves_chooseEmbedded (asked : .asked ∈ kinds) (told : .told ∈ kinds) :
    Within (World.Leaves kinds) chooseEmbedded := by
  refine within_hasBackupSlot.bind fun there => .ite (fun _ => ?_) (fun _ => within_pure _)
  refine (leaves_ask asked told _).bind ?_
  intro answer
  split
  · exact within_pure _
  · exact within_pure _
  · exact within_throw _
  · exact leaves_cancel told

theorem leaves_findCandidate (asked : .asked ∈ kinds) (told : .told ∈ kinds) (read : .read ∈ kinds) :
    Within (World.Leaves kinds) findCandidate := by
  refine (leaves_chooseEmbedded asked told).bind fun embedded => .ite (fun _ => ?_) (fun _ => ?_)
  · exact (leaves_readHeader read _).bind fun _ => within_pure _
  · exact (leaves_ask asked told _).bind fun _ => (leaves_loadBackup _).bind fun _ => within_pure _

/-- Restoring neither dismounts nor mounts, and saves no file. -/
theorem leaves_restore : Within (World.Leaves [.asked, .told, .read, .wrote]) restore :=
  (leaves_findCandidate (by decide) (by decide) (by decide)).bind fun candidate =>
    (leaves_askCredential (by decide) (by decide) _).bind fun credential =>
      (leaves_unlock _ _).bind fun _ => (leaves_soundExtra (by decide) _ _).bind fun extra =>
        (leaves_requireConfirmation (by decide) (by decide) _ _ _).bind fun _ =>
          leaves_restoreAnswered (by decide) (by decide) (by decide) candidate extra

/-! ### Upgrading -/

theorem leaves_rewrap (drew : .drew ∈ kinds) (credential : Credential) (header : VolumeHeader)
    (kdf : KdfParams) : Within (World.Leaves kinds) (rewrap credential header kdf) := by
  refine (leaves_draw drew _).bind fun salt => (leaves_sealFor _ _).bind fun bytes =>
    (leaves_unlock _ _).bind fun reopened => .ite (fun _ => ?_) (fun _ => ?_)
  · exact within_throw _
  · exact within_pure _

theorem leaves_rewrapBackup (drew : .drew ∈ kinds) (read : .read ∈ kinds) (told : .told ∈ kinds)
    (credential : Credential) (kdf : KdfParams) :
    Within (World.Leaves kinds) (rewrapBackup credential kdf) := by
  refine within_hasBackupSlot.bind fun there => .ite (fun _ => ?_) (fun _ => within_pure _)
  refine (leaves_readHeader read _).bind fun bytes =>
    (leaves_unlockOrWarn told _ _ _).bind fun header => ?_
  split
  · exact within_pure _
  · exact (leaves_rewrap drew _ _ _).bind fun _ => within_pure _

theorem leaves_commitBoth (read : .read ∈ kinds) (wrote : .wrote ∈ kinds)
    (former renewed : HeaderBytes) (embedded : Option (HeaderBytes × HeaderBytes)) :
    Within (World.Leaves kinds) (commitBoth former renewed embedded) := by
  refine (leaves_commit read wrote _ _ _).bind fun _ => ?_
  split
  · exact leaves_commitBackup read wrote _ _ _
  · exact within_pure _

/-- Everything that rewrapping does once the operator was asked to stir the entropy. -/
theorem leaves_rewrapBoth (drew : .drew ∈ kinds) (read : .read ∈ kinds) (told : .told ∈ kinds)
    (wrote : .wrote ∈ kinds) (credential : Credential) (header : VolumeHeader)
    (former : HeaderBytes) (kdf : KdfParams) :
    Within (World.Leaves kinds) (do
      let renewed ← rewrap credential header kdf
      let embedded ← rewrapBackup credential kdf
      commitBoth former renewed embedded) :=
  (leaves_rewrap drew _ _ _).bind fun _ => (leaves_rewrapBackup drew read told _ _).bind fun _ =>
    leaves_commitBoth read wrote _ _ _

/-- Rewrapping neither dismounts nor mounts. -/
theorem leaves_rewrapAll (credential : Credential) (header : VolumeHeader) (former : HeaderBytes)
    (kdf : KdfParams) :
    Within (World.Leaves [.asked, .told, .drew, .read, .wrote])
      (rewrapAll credential header former kdf) :=
  (leaves_ask (by decide) (by decide) _).bind fun _ =>
    leaves_rewrapBoth (by decide) (by decide) (by decide) (by decide) _ _ _ _

theorem leaves_remount (mounted : .mounted ∈ kinds) (told : .told ∈ kinds)
    (credential : Credential) : Within (World.Leaves kinds) (remount credential) := by
  refine (leaves_mount mounted _).attempt.bind ?_
  intro result
  split
  · exact within_pure _
  · exact (leaves_tell told rfl).bind fun _ => within_pure _

/-- An upgrade saves no file. -/
theorem leaves_upgrade (recommended : KdfParams) :
    Within (World.Leaves
        [.asked, .told, .drew, .read, .wrote, .queriedMount, .dismounted, .mounted])
      (upgrade recommended) := by
  refine (leaves_readHeader (by decide) _).bind fun primary => (within_ofExcept _).bind fun _ => ?_
  refine .ite (fun _ => (leaves_tell (by decide) rfl).bind fun _ => within_pure _) fun _ => ?_
  refine (leaves_requireConfirmation (by decide) (by decide) _ _ _).bind fun _ => ?_
  refine (leaves_askCredential (by decide) (by decide) _).bind fun credential => ?_
  refine (leaves_unlock _ _).bind fun header => (leaves_isMounted (by decide)).bind fun wasMounted => ?_
  have rewraps := leaves_rewrapAll credential header primary recommended
  cases wasMounted with
  | false =>
      refine (rewraps.leaves_mono (by decide)).attempt.bind fun result => ?_
      exact (within_ofExcept _).bind fun _ => (leaves_tell (by decide) rfl).bind fun _ => within_pure _
  | true =>
      refine (leaves_dismount (by decide)).bind fun _ => ?_
      refine (rewraps.leaves_mono (by decide)).attempt.bind fun result => ?_
      refine (leaves_remount (by decide) (by decide) _).bind fun _ => ?_
      exact (within_ofExcept _).bind fun _ => (leaves_tell (by decide) rfl).bind fun _ => within_pure _

end HeaderVault.Protocol
