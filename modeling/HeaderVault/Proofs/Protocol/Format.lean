import HeaderVault.Proofs.Protocol.Commit
import HeaderVault.Proofs.Protocol.Sealing
import HeaderVault.Proofs.Session.Operator
import HeaderVault.Protocol.Format

/-!
How formatting ends.

Both slots get a header with the keys that were drawn first (`Formatted`), or formatting fails. What
a single slot then holds is as before (`LeftAlone`), but a primary header that was committed stays
when the second header cannot be made.
-/

namespace HeaderVault

/-- Nothing was written, or what was written to a slot was taken back. -/
def LeftAlone (slot : HeaderSlot) (world after : World) : Prop :=
  world.Quiet after ∨ ∃ former bytes ready, world.Quiet ready ∧
    TakenBack slot former bytes ready after

theorem LeftAlone.unharmed {slot : HeaderSlot} {world after : World}
    (alone : LeftAlone slot world after) : world.Unharmed after := by
  rcases alone with quiet | ⟨former, bytes, ready, quiet, takenBack⟩
  · exact quiet.unharmed
  · exact quiet.unharmed.trans takenBack.unharmed

theorem LeftAlone.of_quiet {slot : HeaderSlot} {start world after : World}
    (since : start.Quiet world) (alone : LeftAlone slot world after) : LeftAlone slot start after := by
  rcases alone with quiet | ⟨former, bytes, ready, quiet, takenBack⟩
  · exact .inl (Session.Change.trans since quiet)
  · exact .inr ⟨former, bytes, ready, Session.Change.trans since quiet, takenBack⟩

/-- No write to a slot that was left alone has held. -/
theorem LeftAlone.exists_recent {slot : HeaderSlot} {world after : World}
    (alone : LeftAlone slot world after) :
    ∃ recent, after.history = recent ++ world.history ∧ ∀ bytes, ¬Verified slot bytes recent := by
  rcases alone with quiet | ⟨former, bytes, ready, quiet, takenBack⟩
  · obtain ⟨events, history, noWrite⟩ := quiet.history
    exact ⟨events, history, fun bytes => not_verified_of_quiet noWrite⟩
  · obtain ⟨events, history, noWrite⟩ := quiet.history
    obtain ⟨kept, report, failed, shape, last⟩ := takenBack.logged
    refine ⟨.wrote slot former kept report :: failed ++ events, ?_, fun _ =>
      shape.not_verified noWrite⟩
    rw [last, history, List.append_assoc]

namespace Protocol

open Session

/-- The slots of a volume that was formatted, as far as there are any. -/
structure Formatted (environment : Environment) (dataSize : UInt64) (world after : World) : Prop where
  elsewhere : world.Elsewhere after
  opens : environment.device.Honest → ∃ credential keyArea, environment.Gives credential ∧
    environment.entropy (world.entropy.requests + 1) world.entropy.taken 256 = some keyArea ∧
      ∀ slot, slot = .primary ∨ world.hasBackupSlot →
        after.SlotHas environment.primitives ⟨credential, dataSize, keyArea⟩ slot

/-- The primary header was committed before formatting failed. -/
def HalfFormatted (device : DeviceBehaviour) (bytes : HeaderBytes) (world after : World) : Prop :=
  ∃ ready committed, world.Quiet ready ∧ Committed device .primary bytes ready committed ∧
    LeftAlone .backup committed after

/-- How formatting may end. -/
def FormatEnds (environment : Environment) (dataSize : UInt64) (start : World) :
    Except Error Unit → World → Prop
  | .ok (), after => Formatted environment dataSize start after
  | .error _, after => LeftAlone .primary start after ∨
      ∃ bytes, HalfFormatted environment.device bytes start after

section

variable {environment : Environment} {world : World} {credential : Credential}
variable {start recent : History} {slot : HeaderSlot}

/-- A header is sealed and committed, or the slot is left alone. -/
theorem install_ends (recoverable : environment.device.Recoverable start)
    (since : world.history = recent ++ start) (noReadBack : ¬ReadBack slot recent)
    (apart : world.SlotsApart) (header : VolumeHeader) :
    (install credential slot header).Ends environment world fun result after =>
      match result with
      | .ok () => ∃ ready bytes, world.Quiet ready ∧
          Committed environment.device slot bytes ready after ∧
            openHeader environment.primitives credential bytes = .ok header
      | .error _ => LeftAlone slot world after := by
  refine .bind ((readHeader_stored recoverable.readsStored since noReadBack).mono ?_)
  rintro (error | former) _ ⟨rfl, held⟩
  · exact .inl (.record id)
  have held := held former rfl
  have sinceRead : world.Quiet (world.record (.read slot (.ok former))) := .record id
  refine .bind ((sealFor_ends header).mono ?_)
  rintro (error | bytes) ready ⟨quiet, made⟩
  · exact .inl (Change.trans sinceRead quiet)
  have sinceSealed : world.Quiet ready := Change.trans sinceRead quiet
  obtain ⟨key, derived, rfl⟩ := made bytes rfl
  obtain ⟨events, history, -⟩ := sinceSealed.history
  have sinceStart : ready.history = (events ++ recent) ++ start := by
    rw [history, since, List.append_assoc]
  refine (commit_ends recoverable sinceStart (sinceSealed.unharmed.elsewhere.slotsApart apart)
    ((sinceSealed.unharmed.stored slot).trans held)).mono ?_
  rintro (error | ⟨⟩) after
  · exact fun takenBack => .inr ⟨former, _, ready, sinceSealed, takenBack⟩
  · exact fun committed => ⟨ready, _, sinceSealed, committed, openHeader_sealWith derived⟩

/-- Once the primary slot has its header the second slot gets one, or formatting fails half-way. -/
theorem formatBackup_ends {kdf : KdfParams} {header : VolumeHeader} {ready installed : World}
    {bytes : HeaderBytes} (recoverable : environment.device.Recoverable world.history)
    (apart : world.SlotsApart) (since : world.Quiet ready) (gives : environment.Gives credential)
    (keys : environment.entropy (world.entropy.requests + 1) world.entropy.taken 256 =
      some header.keyArea)
    (committed : Committed environment.device .primary bytes ready installed)
    (opens : openHeader environment.primitives credential bytes = .ok header) (notice : Notice) :
    (do
      if ← hasBackupSlot then
        let backup := header.rewrapped kdf (← drawSalt)
        install credential .backup backup
      tell notice).Ends environment installed (FormatEnds environment header.dataSize world) := by
  obtain ⟨⟨kept, logged⟩, content, stores, -⟩ := id committed
  have half : ∀ error after, LeftAlone .backup installed after →
      FormatEnds environment header.dataSize world (.error error) after :=
    fun _ _ alone => .inr ⟨bytes, ready, installed, since, committed, alone⟩
  have changed := stores.of_unharmed since.unharmed
  have primary : environment.device.Honest → installed.SlotHas environment.primitives
      ⟨credential, header.dataSize, header.keyArea⟩ .primary :=
    fun honest => ⟨bytes, committed.stored honest, header, opens, rfl, rfl⟩
  refine ends_hasBackupSlot_bind ?_
  split
  · next there =>
    refine .bind_quiet (Change.refl installed) (quiet_draw _)
      (fun _ _ now => half _ _ (.inl now)) ?_
    intro fresh drawn sinceInstalled
    obtain ⟨early, before, -⟩ := since.history
    obtain ⟨late, afterwards, noWriteLate⟩ := sinceInstalled.history
    have sinceStart : drawn.history = (late ++ (.read .primary (.ok bytes) ::
        .wrote .primary bytes kept (.ok ()) :: early)) ++ world.history := by
      rw [afterwards, logged, before, List.append_assoc]
      rfl
    have apartNow : drawn.SlotsApart :=
      (changed.elsewhere.trans sinceInstalled.unharmed.elsewhere).slotsApart apart
    refine .bind ((install_ends recoverable sinceStart
      (not_readBack_append noWriteLate not_readBack_read) apartNow _).mono ?_)
    rintro (error | ⟨⟩) after
    · exact fun alone => half error after (alone.of_quiet sinceInstalled)
    rintro ⟨sealed, second, quiet, committedBackup, opensBackup⟩
    obtain ⟨-, contentBackup, storesBackup, -⟩ := id committedBackup
    have changedBackup := storesBackup.of_unharmed (Change.trans sinceInstalled quiet).unharmed
    constructor
    · exact (changed.elsewhere.trans changedBackup.elsewhere).trans (.of_eq rfl rfl)
    intro honest
    refine ⟨credential, header.keyArea, gives, keys, ?_⟩
    intro slot _
    cases slot with
    | primary => exact (primary honest).of_eq (changedBackup.other .primary (by decide))
    | backup => exact ⟨second, committedBackup.stored honest, _, opensBackup, rfl, rfl⟩
  · next missing =>
    constructor
    · exact changed.elsewhere.trans (.of_eq rfl rfl)
    intro honest
    refine ⟨credential, header.keyArea, gives, keys, ?_⟩
    rintro slot (rfl | backup)
    · exact primary honest
    · rw [changed.elsewhere.backupSlot] at missing
      exact absurd backup missing

theorem format_ends {kdf : KdfParams} {dataSize : UInt64}
    (recoverable : environment.device.Recoverable world.history) (apart : world.SlotsApart) :
    (format kdf dataSize).Ends environment world (FormatEnds environment dataSize world) := by
  have failed : ∀ error after, world.Quiet after →
      FormatEnds environment dataSize world (.error error) after := fun _ _ now => .inl (.inl now)
  refine .bind ((((quiet_askCredential _).ends _ _).and
    (((sameEntropy_askCredential _).ends _ _).and (askCredential_gives _))).mono ?_)
  rintro (error | credential) asked ⟨since, unused, gives⟩
  · exact failed error asked since
  have gives := gives credential rfl
  refine .bind ((((quiet_ask _).ends _ _).and ((sameEntropy_ask _).ends _ _)).mono ?_)
  rintro (error | ⟨⟩) stirred ⟨quiet, still⟩
  · exact failed error stirred (Change.trans since quiet)
  have since := Change.trans since quiet
  have unused : stirred.entropy = world.entropy := Eq.trans still unused
  refine .bind ((((quiet_draw _).ends _ _).and (draw_result _)).mono ?_)
  rintro (error | keyArea) drawn ⟨quiet, keys⟩
  · exact failed error drawn (Change.trans since quiet)
  have since := Change.trans since quiet
  have keys := keys keyArea rfl
  rw [unused] at keys
  refine .bind_quiet since (quiet_draw _) failed ?_
  intro salt ready since
  obtain ⟨events, history, noWrite⟩ := since.history
  refine .bind ((install_ends recoverable history (not_readBack_of_quiet noWrite)
    (since.unharmed.elsewhere.slotsApart apart) ⟨kdf, salt, dataSize, keyArea⟩).mono ?_)
  rintro (error | ⟨⟩) installed
  · exact fun alone => .inl (alone.of_quiet since)
  rintro ⟨sealed, bytes, quiet, committed, opens⟩
  exact formatBackup_ends recoverable apart (Change.trans since quiet) gives keys committed opens _

/-- When formatting fails the embedded copy is as it was. So is the primary slot, unless its new
header had been written and read back: then that header stays. -/
theorem format_error_keeps_backup {kdf : KdfParams} {dataSize : UInt64} {error : Error}
    {after : World} (recoverable : environment.device.Recoverable world.history)
    (honest : environment.device.Honest) (apart : world.SlotsApart)
    (failed : (format kdf dataSize).runIn environment world = (.error error, after)) :
    ∃ recent, after.history = recent ++ world.history ∧
      after.stored .backup = world.stored .backup ∧
      ((∃ bytes, Verified .primary bytes recent ∧ after.stored .primary = .ok bytes) ∨
        (∀ bytes, ¬Verified .primary bytes recent) ∧
          after.stored .primary = world.stored .primary) := by
  rcases (format_ends recoverable apart).of_runIn failed with
    alone | ⟨bytes, ready, committed, since, ⟨⟨kept, logged⟩, content, stores, sound⟩, alone⟩
  · obtain ⟨recent, history, unverified⟩ := alone.exists_recent
    exact ⟨recent, history, alone.unharmed.stored .backup,
      .inr ⟨unverified, alone.unharmed.stored .primary⟩⟩
  · obtain ⟨early, before, -⟩ := since.history
    obtain ⟨late, afterwards, -⟩ := alone.exists_recent
    have changed := stores.of_unharmed since.unharmed
    refine ⟨late ++ (.read .primary (.ok bytes) :: .wrote .primary bytes kept (.ok ()) :: early),
      ?_, ?_, .inl ⟨bytes, (Verified.now kept early).append late, ?_⟩⟩
    · rw [afterwards, logged, before, List.append_assoc]
      rfl
    · rw [alone.unharmed.stored .backup, changed.other .backup (by decide)]
    · rw [alone.unharmed.stored .primary, changed.stored, sound honest]

end

/-! ### Formatting that stops half-way -/

namespace Sample

variable {device : DeviceBehaviour} {files : FileSystem}

/-- A header is installed where the device does what it is told. -/
theorem install_ends {world : World} {slot : HeaderSlot} {former : HeaderBytes}
    (reads : ∀ history stored, device.read history slot stored = .ok stored)
    (writes : ∀ history old new, device.write history slot old new = ⟨some new, .ok ()⟩)
    (apart : world.SlotsApart) (held : world.stored slot = .ok former) :
    (install credential slot (header 1)).Ends (environment device) world fun result after =>
      result = .ok () ∧ World.Stores slot (sealed 1) world after := by
  refine .bind_quiet_ok (Change.refl world) (quiet_readHeader _)
    (congrArg Prod.fst (runIn_readHeader_of_stored held (reads _ _))) ?_
  intro _ since
  refine .bind_quiet_ok since (quiet_sealFor _ _) (sealFor_result 1) ?_
  intro ready since
  refine (commit_of_faithful reads writes (since.unharmed.elsewhere.slotsApart apart)
    ((since.unharmed.stored slot).trans held)).mono ?_
  rintro _ committed ⟨rfl, stores, -⟩
  exact ⟨rfl, stores.of_unharmed since.unharmed⟩

/-- Formatting a blank volume comes to the second header with the first one written. -/
theorem format_ends {post : Except Error Unit → World → Prop}
    (reads : ∀ history stored, device.read history .primary stored = .ok stored)
    (writes : ∀ history old new, device.write history .primary old new = ⟨some new, .ok ()⟩)
    (second : ∀ drawn, World.Stores .primary (sealed 1) (blank files) drawn → (do
      install credential .backup (header 1)
      tell (.info s!"Volume headers created ({kdf.display})")).Ends (environment device) drawn post) :
    (format kdf 4096).Ends (environment device) (blank files) post := by
  refine .bind_quiet_ok (Change.refl _) (quiet_askCredential _) (askCredential_result _) ?_
  intro _ since
  refine .bind_quiet_ok since (quiet_ask _) (ask_result _) ?_
  intro _ since
  refine .bind_quiet_ok since (quiet_draw _) (draw_result _) ?_
  intro _ since
  refine .bind_quiet_ok since (quiet_draw _) (draw_result _) ?_
  intro ready since
  have held : ready.stored .primary = .ok (Octets.zero 512) := since.unharmed.stored .primary
  refine .bind ((install_ends reads writes
    (since.unharmed.elsewhere.slotsApart (blank_slotsApart _)) held).mono ?_)
  rintro _ installed ⟨rfl, stores⟩
  have stores := stores.of_unharmed since.unharmed
  refine ends_hasBackupSlot_bind ?_
  rw [stores.elsewhere.backupSlot]
  refine .bind_quiet_ok (Change.refl installed) (quiet_draw _) (draw_result _) ?_
  intro drawn since
  exact second drawn (stores.trans (since.unharmed.stores stores.stored))

/-- Formatting a blank volume whose embedded copy cannot be read fails with the first header
written. -/
theorem format_unreadableBackup :
    (format kdf 4096).Ends (environment .unreadableBackup) (blank ⟨[], []⟩) fun result after =>
      (∃ error, result = .error error) ∧ after.stored .primary = .ok (sealed 1) := by
  refine format_ends (fun _ _ => rfl) (fun _ _ _ => rfl) ?_
  intro drawn stores
  have heldBackup : drawn.stored .backup = .ok (Octets.zero 512) :=
    stores.other .backup (by decide)
  refine .bind (.bind_quiet_error (Change.refl drawn) (quiet_readHeader _)
    (readHeader_unreadableBackup rfl heldBackup) fun after since => ?_)
  exact ⟨⟨_, rfl⟩, (since.unharmed.stored .primary).trans stores.stored⟩

end Sample

theorem format_error_keeps_backup_unreadable :
    let environment := Sample.environment .unreadableBackup
    let world := Sample.blank ⟨[], []⟩
    ∃ error after recent bytes,
      (format Sample.kdf 4096).runIn environment world = (.error error, after) ∧
        after.history = recent ++ world.history ∧ after.stored .backup = world.stored .backup ∧
          Verified .primary bytes recent ∧ after.stored .primary = .ok bytes := by
  intro environment world
  obtain ⟨_, after, run, ⟨error, rfl⟩, replaced⟩ := Sample.format_unreadableBackup.exists_run
  have former : world.stored .primary = .ok (Octets.zero 512) := rfl
  obtain ⟨recent, history, backup, ⟨bytes, verified, primary⟩ | ⟨-, primary⟩⟩ :=
    format_error_keeps_backup (DeviceBehaviour.recoverable_unreadableBackup _)
      DeviceBehaviour.honest_unreadableBackup (Sample.blank_slotsApart _) run
  · exact ⟨error, after, recent, bytes, run, history, backup, verified, primary⟩
  · rw [replaced, former, Except.ok.injEq] at primary
    exact absurd primary Sample.sealed_ne_zero

/-- Formatting is not all or nothing: the first header can stay although formatting fails. -/
theorem format_error_can_replace_primary :
    let environment := Sample.environment .unreadableBackup
    let world := Sample.blank ⟨[], []⟩
    environment.device.Recoverable world.history ∧ environment.device.Honest ∧ world.SlotsApart ∧
      ∃ error after, (format Sample.kdf 4096).runIn environment world = (.error error, after) ∧
        after.stored .primary ≠ world.stored .primary := by
  intro environment world
  obtain ⟨_, after, run, ⟨error, rfl⟩, replaced⟩ := Sample.format_unreadableBackup.exists_run
  refine ⟨DeviceBehaviour.recoverable_unreadableBackup _, DeviceBehaviour.honest_unreadableBackup,
    Sample.blank_slotsApart _, error, after, run, ?_⟩
  have former : world.stored .primary = .ok (Octets.zero 512) := rfl
  rw [replaced, former, ne_eq, Except.ok.injEq]
  exact Sample.sealed_ne_zero

end Protocol

end HeaderVault
