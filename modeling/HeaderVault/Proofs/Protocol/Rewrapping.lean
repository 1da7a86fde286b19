import HeaderVault.Proofs.Protocol.Upgrade

/-!
A successful upgrade loses nothing, and nothing but a fault or the operator keeps an upgrade from
success.

However writes go, what a successful upgrade leaves in the slots was found there when it was read
back, and carries what the former headers carry (`upgrade_renews`). Where nothing goes wrong
(`Smooth`) the commits are reached and succeed (`upgrade_succeeds`). `upgrade_rewraps` puts both
together.
-/

namespace HeaderVault

/-- Nothing goes wrong, and the operator gives a credential and agrees to everything. -/
structure Environment.Smooth (environment : Environment) (credential : Credential) : Prop
    extends environment.Agreeable credential where
  reads : ∀ history slot stored, environment.device.read history slot stored = .ok stored
  writes : ∀ history slot old new,
    environment.device.write history slot old new = ⟨some new, .ok ()⟩

theorem Environment.Smooth.truthful {environment : Environment} {credential : Credential}
    (smooth : environment.Smooth credential) : environment.device.Truthful := by
  intro history slot stored bytes read
  rw [smooth.reads] at read
  exact (Except.ok.inj read).symm

/-! ### What renewed slots carry -/

namespace Renewed

variable {environment : Environment} {credential : Credential} {kdf : KdfParams}
variable {world after : World}

theorem primary_carries (renewed : Renewed environment credential kdf world after)
    (honest : environment.device.Honest) {former : HeaderBytes} {header : VolumeHeader}
    (held : world.stored .primary = .ok former)
    (opens : Protocol.openHeader environment.primitives credential former = .ok header) :
    ∃ bytes salt, after.stored .primary = .ok bytes ∧
      Protocol.openHeader environment.primitives credential bytes =
        .ok (header.rewrapped kdf salt) := by
  obtain ⟨bytes, stored, rewraps⟩ := (renewed.primary honest).of_stored held
  obtain ⟨salt, reopens⟩ := rewraps.opens opens
  exact ⟨bytes, salt, stored, reopens⟩

/-- An embedded copy is carried over like the primary header if it opens, and stays as it is if it
does not. -/
theorem backup_carries (renewed : Renewed environment credential kdf world after)
    (honest : environment.device.Honest) {former : HeaderBytes}
    (held : world.stored .backup = .ok former) :
    (∀ header, Protocol.openHeader environment.primitives credential former = .ok header →
      ∃ bytes salt, after.stored .backup = .ok bytes ∧
        Protocol.openHeader environment.primitives credential bytes =
          .ok (header.rewrapped kdf salt)) ∧
    ((∀ header, Protocol.openHeader environment.primitives credential former ≠ .ok header) →
      after.stored .backup = .ok former) := by
  rcases renewed.backup honest with backup | ⟨closed, same⟩
  · obtain ⟨bytes, stored, rewraps⟩ := backup.of_stored held
    constructor
    · intro header opens
      obtain ⟨salt, reopens⟩ := rewraps.opens opens
      exact ⟨bytes, salt, stored, reopens⟩
    · intro closed
      obtain ⟨header, _, opens, -⟩ := rewraps
      exact absurd opens (closed header)
  · obtain ⟨error, fails⟩ := closed.fails held
    constructor
    · intro header opens
      rw [fails] at opens
      cases opens
    · intro _
      exact same.trans held

end Renewed

namespace Protocol

open Session

section

variable {environment : Environment} {world : World} {credential : Credential} {kdf : KdfParams}

/-! ### What success means -/

/-- After a successful upgrade the slots carry what they carried before. -/
theorem upgrade_renews {recommended : KdfParams}
    (readsStored : environment.device.ReadsStored world.history) (apart : world.SlotsApart) :
    (upgrade recommended).Ends environment world fun result after =>
      ∀ before reached remounted, result = .ok (.upgraded before reached remounted) →
        reached = recommended ∧ ∃ credential former header, environment.Gives credential ∧
          world.stored .primary = .ok former ∧
            openHeader environment.primitives credential former = .ok header ∧
              before = header.kdf ∧ Renewed environment credential recommended world after := by
  refine upgrade_follows readsStored (fun _ _ _ _ _ _ ok => nomatch ok)
    (fun _ _ _ _ _ _ ok => nomatch ok) ?_
  intro credential former header ready gives held opens since
  have renews : (rewrapAll credential header former recommended).Ends environment ready
      fun result after => result = .ok () → Renewed environment credential recommended world after :=
    rewrapAll_follows readsStored since opens (fun _ _ _ ok => nomatch ok)
      fun _ _ _ since rewraps found => commitBoth_renews apart since held rewraps found
  refine renews.mono ?_
  rintro (error | ⟨⟩) rewrapped renews after still
  · exact fun _ _ _ ok => nomatch ok
  · rintro remounted before reached _ ⟨⟩
    exact ⟨rfl, credential, former, header, gives, held, opens, rfl,
      (renews rfl).unharmed still.unharmed⟩

/-! ### Upgrades that succeed -/

theorem commitBoth_succeeds
    (reads : ∀ history slot stored, environment.device.read history slot stored = .ok stored)
    (writes : ∀ history slot old new,
      environment.device.write history slot old new = ⟨some new, .ok ()⟩)
    (apart : world.SlotsApart) {former renewed : HeaderBytes} (held : world.stored .primary = .ok former)
    {embedded : Option (HeaderBytes × HeaderBytes)}
    (heldBackup : ∀ both, embedded = some both → world.stored .backup = .ok both.1) :
    (commitBoth former renewed embedded).Ends environment world fun result _ => result = .ok () := by
  refine .bind ((commit_of_faithful (fun _ => reads _ _) (fun _ => writes _ _) apart
    held).mono ?_)
  rintro _ committed ⟨rfl, stores, -⟩
  cases embedded with
  | none => exact ends_pure rfl
  | some both =>
      have heldNow := (stores.other .backup (by decide)).trans (heldBackup both rfl)
      exact (commitBackup_of_faithful (fun _ => reads _ _) (fun _ => writes _ _)
        (stores.elsewhere.slotsApart apart) heldNow former).mono fun _ _ => And.left

/-- Where nothing goes wrong, an outdated header that opens is upgraded. -/
theorem upgrade_succeeds {recommended : KdfParams} (smooth : environment.Smooth credential)
    (apart : world.SlotsApart) {former : HeaderBytes} {header : VolumeHeader}
    (held : world.stored .primary = .ok former)
    (readable : world.hasBackupSlot → ∃ bytes, world.stored .backup = .ok bytes)
    (opens : openHeader environment.primitives credential former = .ok header)
    (outdated : header.kdf.isOutdated recommended) :
    (upgrade recommended).Ends environment world fun result _ =>
      ∃ remounted, result = .ok (.upgraded header.kdf recommended remounted) := by
  have reads : environment.device.ReadsAtFirst world.history := fun _ _ _ _ => smooth.reads _ _ _
  have readsStored := smooth.truthful.readsStored world.history
  have rewraps : ∀ ready, world.Quiet ready →
      (rewrapAll credential header former recommended).Ends environment ready
        fun result _ => result = .ok () := by
    intro ready since
    refine rewrapAll_reaches smooth.toAgreeable reads readsStored since opens readable ?_
    intro ready renewed embedded since _ found
    refine commitBoth_succeeds smooth.reads smooth.writes (since.unharmed.elsewhere.slotsApart apart)
      ((since.unharmed.stored .primary).trans held) ?_
    rintro both rfl
    exact (since.unharmed.stored .backup).trans found.1
  refine (upgrade_reaches smooth.toAgreeable reads held opens outdated rewraps).mono ?_
  rintro _ after ⟨_, middle, rfl, -, remounted, rfl⟩
  exact ⟨remounted, rfl⟩

/-- An upgrade that succeeds, however writes went, has put both headers under the recommended
parameters, with what each of them carried, and left an embedded copy that does not open as it was.
Where nothing goes wrong an outdated header that opens is always upgraded. -/
theorem upgrade_rewraps (recommended : KdfParams) (apart : world.SlotsApart)
    (only : environment.OnlyGives credential) (truthful : environment.device.Truthful) :
    (∀ before reached remounted after, (upgrade recommended).runIn environment world =
      (.ok (.upgraded before reached remounted), after) → reached = recommended ∧
        (∃ former renewed header salt, world.stored .primary = .ok former ∧
          after.stored .primary = .ok renewed ∧
          openHeader environment.primitives credential former = .ok header ∧ before = header.kdf ∧
          openHeader environment.primitives credential renewed =
            .ok (header.rewrapped recommended salt)) ∧
        ∀ former, world.stored .backup = .ok former →
          (∀ header, openHeader environment.primitives credential former = .ok header →
            ∃ renewed salt, after.stored .backup = .ok renewed ∧
              openHeader environment.primitives credential renewed =
                .ok (header.rewrapped recommended salt)) ∧
          ((∀ header, openHeader environment.primitives credential former ≠ .ok header) →
            after.stored .backup = .ok former)) ∧
    (environment.Smooth credential → ∀ former header, world.stored .primary = .ok former →
      (world.hasBackupSlot → ∃ bytes, world.stored .backup = .ok bytes) →
        openHeader environment.primitives credential former = .ok header →
          header.kdf.isOutdated recommended →
            ∃ remounted after, (upgrade recommended).runIn environment world =
              (.ok (.upgraded header.kdf recommended remounted), after)) := by
  constructor
  · intro before reached remounted after run
    obtain ⟨rfl, given, former, header, gives, held, opens, rfl, renewed⟩ :=
      (upgrade_renews (truthful.readsStored _) apart).of_runIn run before reached remounted rfl
    obtain rfl := only.eq gives
    refine ⟨rfl, ?_, ?_⟩
    · obtain ⟨bytes, salt, stored, reopens⟩ := renewed.primary_carries truthful.honest held opens
      exact ⟨former, bytes, header, salt, held, stored, opens, rfl, reopens⟩
    · intro embedded heldBackup
      exact renewed.backup_carries truthful.honest heldBackup
  · intro smooth former header held readable opens outdated
    obtain ⟨_, after, run, remounted, rfl⟩ :=
      (upgrade_succeeds smooth apart held readable opens outdated).exists_run
    exact ⟨remounted, after, run⟩

end

namespace Sample

theorem smooth : (environment .faithful).Smooth credential where
  toAgreeable := agreeable .faithful
  reads _ _ _ := rfl
  writes _ _ _ _ := rfl

/-- A volume whose headers differ in their salts and their keys. -/
def twofold : World := world (sealed 1) (some (sealed 2)) ⟨[], []⟩

theorem twofold_slotsApart : twofold.SlotsApart := slotsApart _ _ _

end Sample

/-- Two headers with keys of their own are upgraded, and the embedded one keeps its keys. -/
theorem upgrade_rewraps_twofold :
    ∃ remounted after,
      (upgrade Sample.kdf).runIn (Sample.environment .faithful) Sample.twofold =
        (.ok (.upgraded Sample.kdf Sample.kdf remounted), after) ∧
      ∃ renewed salt, after.stored .backup = .ok renewed ∧
        openHeader .standard Sample.credential renewed =
          .ok ((Sample.header 2).rewrapped Sample.kdf salt) := by
  obtain ⟨carries, succeeds⟩ := upgrade_rewraps Sample.kdf Sample.twofold_slotsApart
    (Sample.onlyGives .faithful) DeviceBehaviour.truthful_faithful
  obtain ⟨remounted, after, run⟩ := succeeds Sample.smooth (Sample.sealed 1) (Sample.header 1) rfl
    (fun _ => ⟨Sample.sealed 2, rfl⟩) (Sample.opens 1) rfl
  obtain ⟨-, -, backup⟩ := carries (Sample.header 1).kdf Sample.kdf remounted after run
  exact ⟨remounted, after, run, (backup (Sample.sealed 2) rfl).1 (Sample.header 2) (Sample.opens 2)⟩

end Protocol

end HeaderVault
