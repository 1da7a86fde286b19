import HeaderVault.Proofs.Protocol.Commit
import HeaderVault.Proofs.Protocol.Progress

/-!
An upgrade happens as a whole or not at all.

However a device writes, both slots are renewed when no commit fails (`commitBoth_renews`). On a
recoverable device they are as they were when one fails (`commitBoth_undone`), so an upgrade either
renews both slots (`Renewed`) or leaves both as they were.
-/

namespace HeaderVault

/-- A slot holds a header that carries what the former one carries. -/
def World.SlotRenewed (primitives : Primitives) (credential : Credential) (kdf : KdfParams)
    (slot : HeaderSlot) (world after : World) : Prop :=
  ∃ former renewed, world.stored slot = .ok former ∧ after.stored slot = .ok renewed ∧
    Rewraps primitives credential kdf former renewed

theorem World.SlotRenewed.of_stored {primitives : Primitives} {credential : Credential}
    {kdf : KdfParams} {slot : HeaderSlot} {world after : World}
    (renewed : World.SlotRenewed primitives credential kdf slot world after) {former : HeaderBytes}
    (held : world.stored slot = .ok former) :
    ∃ bytes, after.stored slot = .ok bytes ∧ Rewraps primitives credential kdf former bytes := by
  obtain ⟨found, bytes, heldFound, stored, rewraps⟩ := renewed
  obtain rfl := Except.ok.inj (held.symm.trans heldFound)
  exact ⟨bytes, stored, rewraps⟩

/-- On an honest device the primary slot is renewed, and so is the embedded copy unless there is
none that opens. -/
structure Renewed (environment : Environment) (credential : Credential) (kdf : KdfParams)
    (world after : World) : Prop where
  elsewhere : world.Elsewhere after
  primary : environment.device.Honest →
    World.SlotRenewed environment.primitives credential kdf .primary world after
  backup : environment.device.Honest →
    World.SlotRenewed environment.primitives credential kdf .backup world after ∨
      world.NoOpenBackup environment.primitives credential ∧
        after.stored .backup = world.stored .backup

theorem Renewed.unharmed {environment : Environment} {credential : Credential} {kdf : KdfParams}
    {world middle after : World} (renewed : Renewed environment credential kdf world middle)
    (still : middle.Unharmed after) : Renewed environment credential kdf world after := by
  have slot : ∀ slot, World.SlotRenewed environment.primitives credential kdf slot world middle →
      World.SlotRenewed environment.primitives credential kdf slot world after := by
    rintro slot ⟨former, bytes, held, stored, rewraps⟩
    exact ⟨former, bytes, held, (still.stored slot).trans stored, rewraps⟩
  constructor
  · exact renewed.elsewhere.trans still.elsewhere
  · intro honest
    exact slot .primary (renewed.primary honest)
  · intro honest
    rcases renewed.backup honest with backup | ⟨none, same⟩
    · exact .inl (slot .backup backup)
    · exact .inr ⟨none, (still.stored .backup).trans same⟩

namespace Protocol

open Session

section

variable {environment : Environment} {world : World} {credential : Credential} {kdf : KdfParams}

/-! ### All or nothing -/

/-- However a device writes, both headers are renewed when no commit fails. -/
theorem commitBoth_renews {start : World} (apart : start.SlotsApart) (since : start.Quiet world)
    {former renewed : HeaderBytes} (held : start.stored .primary = .ok former)
    (rewraps : Rewraps environment.primitives credential kdf former renewed)
    {embedded : Option (HeaderBytes × HeaderBytes)}
    (found : start.RewrapsBackup environment.primitives credential kdf embedded) :
    (commitBoth former renewed embedded).Ends environment world fun result after =>
      result = .ok () → Renewed environment credential kdf start after := by
  have apartNow := since.unharmed.elsewhere.slotsApart apart
  have heldNow := (since.unharmed.stored .primary).trans held
  refine .bind ((commit_committed apartNow heldNow).mono ?_)
  rintro (error | ⟨⟩) committed ok
  · exact fun ok => nomatch ok
  have primary := (ok rfl).stored
  obtain ⟨-, content, stores, -⟩ := ok rfl
  have changed : World.Elsewhere start committed := since.unharmed.elsewhere.trans stores.elsewhere
  cases embedded with
  | none =>
      refine ends_pure fun _ => ⟨changed, fun honest => ?_, fun _ => .inr ⟨found, ?_⟩⟩
      · exact ⟨former, renewed, held, primary honest, rewraps⟩
      · exact (stores.other .backup (by decide)).trans (since.unharmed.stored .backup)
  | some both =>
      obtain ⟨heldBackup, rewrapsBackup⟩ := found
      have heldBackupNow : committed.stored .backup = .ok both.1 :=
        ((stores.other .backup (by decide)).trans (since.unharmed.stored .backup)).trans heldBackup
      refine (commitBackup_committed (stores.elsewhere.slotsApart apartNow) heldBackupNow former).mono ?_
      intro result after ok succeeded
      obtain ⟨-, contentBackup, storesBackup, -⟩ := ok succeeded
      have still := storesBackup.other .primary (by decide)
      exact ⟨changed.trans storesBackup.elsewhere,
        fun honest => ⟨former, renewed, held, still.trans (primary honest), rewraps⟩,
        fun honest => .inl ⟨_, _, heldBackup, (ok succeeded).stored honest, rewrapsBackup⟩⟩

/-- On a recoverable device both slots are as they were when a commit fails. -/
theorem commitBoth_undone {start : World} (recoverable : environment.device.Recoverable start.history)
    (apart : start.SlotsApart) (since : start.Quiet world) {former renewed : HeaderBytes}
    (held : start.stored .primary = .ok former) {embedded : Option (HeaderBytes × HeaderBytes)}
    (heldBackup : ∀ both, embedded = some both → start.stored .backup = .ok both.1) :
    (commitBoth former renewed embedded).Ends environment world fun result after =>
      ∀ error, result = .error error → start.Unharmed after := by
  obtain ⟨events, history, -⟩ := since.history
  have apartNow := since.unharmed.elsewhere.slotsApart apart
  have heldNow := (since.unharmed.stored .primary).trans held
  refine .bind ((commit_ends recoverable history apartNow heldNow).mono ?_)
  rintro (error | ⟨⟩) committed
  · exact fun undone _ _ => since.unharmed.trans undone.unharmed
  rintro ⟨⟨kept, logged⟩, content, stores, -⟩
  cases embedded with
  | none => exact ends_pure fun _ failed => nomatch failed
  | some both =>
      have heldBackupNow := (since.unharmed.stored .backup).trans (heldBackup both rfl)
      have sinceStart : committed.history =
          (.read .primary (.ok renewed) :: .wrote .primary renewed kept (.ok ()) :: events) ++
            start.history := by
        rw [logged, history]
        rfl
      refine (commitBackup_ends recoverable sinceStart apartNow heldNow heldBackupNow stores
        (show committed.history = [_, _] ++ world.history from logged)).mono ?_
      rintro (error | ⟨⟩) after ends
      · exact fun _ _ => since.unharmed.trans ends.unharmed
      · exact fun _ failed => nomatch failed

/-- How rewrapping may end: both headers are renewed, or both slots are as they were. -/
def RewrapEnds (environment : Environment) (credential : Credential) (kdf : KdfParams)
    (start : World) : Except Error Unit → World → Prop
  | .ok (), after => Renewed environment credential kdf start after
  | .error _, after => start.Unharmed after

/-- Headers that were made and checked replace the former ones together or not at all. -/
theorem commitBoth_ends {start : World} (recoverable : environment.device.Recoverable start.history)
    (apart : start.SlotsApart) (since : start.Quiet world) {former renewed : HeaderBytes}
    (held : start.stored .primary = .ok former)
    (rewraps : Rewraps environment.primitives credential kdf former renewed)
    {embedded : Option (HeaderBytes × HeaderBytes)}
    (found : start.RewrapsBackup environment.primitives credential kdf embedded) :
    (commitBoth former renewed embedded).Ends environment world
      (RewrapEnds environment credential kdf start) := by
  have heldBackup : ∀ both, embedded = some both → start.stored .backup = .ok both.1 := by
    rintro both rfl
    exact found.1
  refine ((commitBoth_renews apart since held rewraps found).and
    (commitBoth_undone recoverable apart since held heldBackup)).mono ?_
  rintro (error | ⟨⟩) after ⟨renews, undone⟩
  · exact undone error rfl
  · exact renews rfl

/-- Nothing is written before both headers are made. -/
theorem rewrapAll_ends {start : World} (recoverable : environment.device.Recoverable start.history)
    (apart : start.SlotsApart) (since : start.Quiet world) {former : HeaderBytes}
    {header : VolumeHeader} (held : start.stored .primary = .ok former)
    (opens : openHeader environment.primitives credential former = .ok header) :
    (rewrapAll credential header former kdf).Ends environment world
      (RewrapEnds environment credential kdf start) :=
  rewrapAll_follows recoverable.readsStored since opens (fun _ _ now => now.unharmed)
    fun _ _ _ since rewraps found => commitBoth_ends recoverable apart since held rewraps found

/-- How an upgrade may end: it renews the slots under a credential that was given, or leaves them as
they were. -/
def UpgradeEnds (environment : Environment) (recommended : KdfParams) (start : World) :
    Except Error UpgradeOutcome → World → Prop
  | .ok (.upgraded _ _ _), after => ∃ credential, environment.Gives credential ∧
      Renewed environment credential recommended start after
  | _, after => start.Unharmed after

/-- An upgrade renews the slots, or leaves them as they were and reports so. -/
theorem upgrade_ends {recommended : KdfParams}
    (recoverable : environment.device.Recoverable world.history) (apart : world.SlotsApart) :
    (upgrade recommended).Ends environment world (UpgradeEnds environment recommended world) := by
  refine upgrade_follows recoverable.readsStored (fun _ _ now => now.unharmed)
    (fun _ _ now => now.unharmed) ?_
  intro credential former header ready gives held opens since
  refine (rewrapAll_ends recoverable apart since held opens).mono ?_
  rintro (error | ⟨⟩) rewrapped done after still
  · exact done.trans still.unharmed
  · exact fun _ => ⟨credential, gives, done.unharmed still.unharmed⟩

/-- When an upgrade fails both slots hold what they held. -/
theorem upgrade_error_unharmed {recommended : KdfParams} {error : Error} {after : World}
    (recoverable : environment.device.Recoverable world.history) (apart : world.SlotsApart)
    (failed : (upgrade recommended).runIn environment world = (.error error, after))
    (slot : HeaderSlot) : after.stored slot = world.stored slot :=
  ((upgrade_ends recoverable apart).of_runIn failed).stored slot

end

/-! ### An upgrade that is taken back -/

namespace Sample

/-- A volume with a header and no embedded copy. -/
def plain : World := world (sealed 1) none ⟨[], []⟩

theorem plain_slotsApart : plain.SlotsApart := slotsApart _ _ _

/-- The first write of an upgrade tears, and that is what the upgrade reports. -/
theorem upgrade_torn :
    (upgrade kdf).Ends (environment .torn) plain fun result _ => ∃ error, result = .error error := by
  have reads : (environment .torn).device.ReadsAtFirst plain.history := fun _ _ _ _ => rfl
  have readsStored := (DeviceBehaviour.recoverable_torn plain.history).readsStored
  have held : plain.stored .primary = .ok (sealed 1) := rfl
  have rewraps : ∀ ready, plain.Quiet ready →
      (rewrapAll credential (header 1) (sealed 1) kdf).Ends (environment .torn) ready
        fun result _ => result = .error (.file "injected" .other) := by
    intro ready since
    refine rewrapAll_reaches (agreeable _) reads readsStored since (opens 1) nofun ?_
    intro ready renewed embedded since _ _
    obtain ⟨events, history, noWrite⟩ := since.history
    have fault : ((environment .torn).device.write ready.history .primary (some (sealed 1))
        renewed).result = .error (.file "injected" .other) :=
      DeviceBehaviour.result_torn (by rw [history]; simpa [plain, world] using noWrite) _ _ _
    have apart := since.unharmed.elsewhere.slotsApart plain_slotsApart
    refine .bind ((commit_of_write_error apart ((since.unharmed.stored _).trans held) fault).mono ?_)
    rintro _ after rfl
    rfl
  refine (upgrade_reaches (agreeable _) reads held (opens 1) rfl rewraps).mono ?_
  rintro result after ⟨_, middle, rfl, -, failed⟩
  exact ⟨_, failed⟩

end Sample

/-- All writes of an upgrade tear; what was stored before comes back. -/
theorem upgrade_error_unharmed_torn :
    ∃ error after, (upgrade Sample.kdf).runIn (Sample.environment .torn) Sample.plain =
        (.error error, after) ∧ after.stored .primary = .ok (Sample.sealed 1) := by
  obtain ⟨_, after, run, error, rfl⟩ := Sample.upgrade_torn.exists_run
  exact ⟨error, after, run, upgrade_error_unharmed (DeviceBehaviour.recoverable_torn _)
    Sample.plain_slotsApart run .primary⟩

end Protocol

end HeaderVault
