import HeaderVault.Proofs.Protocol.Preparation
import HeaderVault.Proofs.Protocol.Restore
import HeaderVault.Protocol.Format

/-!
What formatting, restoring and upgrading touch.

Whatever the device makes of what it is told, nothing but the contents of header slots changes, and a
volume in a file is still in a file (`World.KeepsToSlots`). Writing a slot is the only step that needs
an argument; all others leave the world alone.
-/

namespace HeaderVault

/-- Nothing but the contents of header slots has changed, and the volume is still there. -/
structure World.KeepsToSlots (world after : World) : Prop extends Elsewhere world after where
  file : ∀ volume ∈ world.place, ∀ content,
    world.files.get? (volume.path.location world.files.working) = some (.file content) →
      ∃ changed, after.files.get? (volume.path.location world.files.working) = some (.file changed)

namespace World

variable {world after : World}

theorem Quiet.keepsToSlots (quiet : world.Quiet after) : world.KeepsToSlots after := by
  refine ⟨quiet.unharmed.elsewhere, fun volume _ content found => ?_⟩
  rw [quiet.files]
  exact ⟨content, found⟩

/-- A slot is written inside of the file of the volume. -/
theorem store_keepsToSlots {slot : HeaderSlot} {bytes : HeaderBytes}
    (ok : world.store slot bytes = .ok after) : world.KeepsToSlots after := by
  refine ⟨(store_elsewhere ok).1, fun volume there content found => ?_⟩
  have inFile : world.volume = .file volume := by
    unfold place at there
    split at there
    · cases there
    · next inPlace => rw [inPlace, Option.some.inj there]
  rw [store_file inFile] at ok
  obtain ⟨files, written, rfl⟩ : ∃ files, volume.write world.files slot bytes = .ok files ∧
      after = { world with files := files } := by
    cases written : volume.write world.files slot bytes with
    | error error => rw [written] at ok; cases ok
    | ok files => rw [written] at ok; cases ok; exact ⟨files, rfl, rfl⟩
  obtain ⟨stored, held, rfl⟩ := FileVolume.write_eq_ok written
  exact ⟨_, (FileVolume.written_replaces held slot bytes).replaced⟩

end World

instance : Session.Change World.KeepsToSlots where
  refl world := (Session.Change.refl (R := World.Quiet) world).keepsToSlots
  trans := by
    intro world middle after first second
    refine ⟨first.toElsewhere.trans second.toElsewhere, fun volume there content found => ?_⟩
    obtain ⟨changed, between⟩ := first.file volume there content found
    rw [← first.grows.working] at between ⊢
    exact second.file volume (first.place.symm ▸ there) changed between

namespace Session

variable {α : Type}

theorem Within.keepsToSlots {session : Session α} (quiet : Within World.Quiet session) :
    Within World.KeepsToSlots session :=
  fun environment world => (quiet environment world).keepsToSlots

theorem keepsToSlots_writeHeader (slot : HeaderSlot) (bytes : HeaderBytes) :
    Within World.KeepsToSlots (writeHeader slot bytes) := by
  intro environment world
  have recorded : ∀ event after, world.KeepsToSlots after → world.KeepsToSlots (after.record event) :=
    fun _ _ keeps => ⟨keeps.toElsewhere.trans (.of_eq rfl rfl), keeps.file⟩
  have unchanged : world.KeepsToSlots world := Change.refl world
  rw [runIn_writeHeader]
  dsimp only
  split
  · exact recorded _ _ unchanged
  · split
    · exact recorded _ _ unchanged
    · next changed ok => exact recorded _ _ (World.store_keepsToSlots ok)

end Session

namespace Protocol

open Session

/-! ### Commits -/

theorem keepsToSlots_rollback (slot : HeaderSlot) (former : HeaderBytes) :
    Within World.KeepsToSlots (rollback slot former) :=
  (keepsToSlots_writeHeader _ _).attempt.bind fun _ => within_pure _

theorem keepsToSlots_commit (slot : HeaderSlot) (former bytes : HeaderBytes) :
    Within World.KeepsToSlots (commit slot former bytes) := by
  refine Within.bind (.attempt ((keepsToSlots_writeHeader _ _).bind fun _ =>
    (quiet_readHeader _).keepsToSlots.bind fun _ => .ite (fun _ => ?_) (fun _ => ?_))) ?_
  · exact within_throw _
  · exact within_pure _
  · intro result
    split
    · exact within_pure _
    · exact (keepsToSlots_rollback _ _).bind fun _ => within_throw _

theorem keepsToSlots_commitBackup (formerPrimary former bytes : HeaderBytes) :
    Within World.KeepsToSlots (commitBackup formerPrimary former bytes) := by
  refine (keepsToSlots_commit _ _ _).attempt.bind ?_
  intro result
  split
  · exact within_pure _
  · exact (keepsToSlots_rollback _ _).bind fun _ => within_throw _

/-! ### Formatting -/

theorem keepsToSlots_install (credential : Credential) (slot : HeaderSlot) (header : VolumeHeader) :
    Within World.KeepsToSlots (install credential slot header) :=
  (quiet_readHeader _).keepsToSlots.bind fun _ => (quiet_sealFor _ _).keepsToSlots.bind fun _ =>
    keepsToSlots_commit _ _ _

theorem keepsToSlots_format (kdf : KdfParams) (dataSize : UInt64) :
    Within World.KeepsToSlots (format kdf dataSize) := by
  refine (quiet_askCredential _).keepsToSlots.bind fun credential => ?_
  refine (quiet_ask _).keepsToSlots.bind fun _ => (quiet_draw _).keepsToSlots.bind fun keyArea => ?_
  refine (quiet_draw _).keepsToSlots.bind fun salt => (keepsToSlots_install _ _ _).bind fun _ => ?_
  refine within_hasBackupSlot.bind fun there =>
    .ite (fun _ => ?_) (fun _ => (quiet_tell _).keepsToSlots)
  exact (quiet_draw _).keepsToSlots.bind fun fresh => (keepsToSlots_install _ _ _).bind fun _ =>
    (quiet_tell _).keepsToSlots

/-! ### Restoring -/

theorem keepsToSlots_restore : Within World.KeepsToSlots restore := by
  refine quiet_findCandidate.keepsToSlots.bind fun candidate => ?_
  refine (quiet_askCredential _).keepsToSlots.bind fun credential => ?_
  refine (quiet_unlock _ _).keepsToSlots.bind fun _ => ?_
  refine (quiet_soundExtra _ _).keepsToSlots.bind fun extra => ?_
  refine (quiet_requireConfirmation _ _ _).keepsToSlots.bind fun _ => ?_
  refine (quiet_readHeader _).keepsToSlots.bind fun former => (keepsToSlots_commit _ _ _).bind fun _ => ?_
  have tells : Within World.KeepsToSlots (do
      tell (.info "Volume header restored.")
      return candidate.source) := (quiet_tell _).keepsToSlots.bind fun _ => within_pure _
  cases extra with
  | none => exact tells
  | some bytes =>
      exact (quiet_readHeader _).keepsToSlots.bind fun _ => (keepsToSlots_commitBackup _ _ _).bind
        fun _ => tells

/-! ### Upgrading -/

theorem keepsToSlots_rewrapAll (credential : Credential) (header : VolumeHeader)
    (former : HeaderBytes) (kdf : KdfParams) :
    Within World.KeepsToSlots (rewrapAll credential header former kdf) := by
  refine (quiet_ask _).keepsToSlots.bind fun _ => (quiet_rewrap _ _ _).keepsToSlots.bind fun renewed => ?_
  refine (quiet_rewrapBackup _ _).keepsToSlots.bind fun embedded => ?_
  refine (keepsToSlots_commit _ _ _).bind fun _ => ?_
  cases embedded with
  | none => exact within_pure _
  | some pair => exact keepsToSlots_commitBackup _ _ _

theorem keepsToSlots_upgrade (recommended : KdfParams) :
    Within World.KeepsToSlots (upgrade recommended) := by
  refine (quiet_readHeader _).keepsToSlots.bind fun primary => (within_ofExcept _).bind fun _ => ?_
  refine .ite (fun _ => (quiet_tell _).keepsToSlots.bind fun _ => within_pure _) fun _ => ?_
  refine (quiet_requireConfirmation _ _ _).keepsToSlots.bind fun _ => ?_
  refine (quiet_askCredential _).keepsToSlots.bind fun credential => ?_
  refine (quiet_unlock _ _).keepsToSlots.bind fun header => quiet_isMounted.keepsToSlots.bind ?_
  have rewraps := (keepsToSlots_rewrapAll credential header primary recommended).attempt
  intro wasMounted
  cases wasMounted with
  | false =>
      exact rewraps.bind fun _ => (within_ofExcept _).bind fun _ =>
        (quiet_tell _).keepsToSlots.bind fun _ => within_pure _
  | true =>
      refine quiet_dismount.keepsToSlots.bind fun _ => rewraps.bind fun _ => ?_
      exact (quiet_remount _).keepsToSlots.bind fun _ => (within_ofExcept _).bind fun _ =>
        (quiet_tell _).keepsToSlots.bind fun _ => within_pure _

end Protocol

end HeaderVault
