import HeaderVault.Proofs.Protocol.Repetition

/-!
What an upgrade does to the strength of a volume.

Parameters of the hybrid variant are outdated as soon as one of their costs falls short of the
recommended one, and an upgrade replaces all of them. So it can pay for more of one cost with less
of the other (`KdfParams.Trades`). This, and another algorithm, are the only ways in which the
primary header loses strength (`KdfParams.not_noWeaker_iff`). The embedded copy is put under the
recommended parameters without a look at its own, so it loses whatever it has above them
(`upgrade_keeps_strength_iff`). `upgrade_can_weaken` has an upgrade of each kind.
-/

namespace HeaderVault

/-! ### Parameters that give way to others -/

namespace KdfParams

variable {before after : KdfParams}

/-- The hybrid variant gives way to no less memory and no fewer passes of it. -/
def NoWeaker (before after : KdfParams) : Prop :=
  before.algorithm = .argon2 .hybrid → after.algorithm = .argon2 .hybrid ∧
    before.memory.toNat ≤ after.memory.toNat ∧ before.time.toNat ≤ after.time.toNat

/-- More of one cost and less of the other. -/
def Trades (before after : KdfParams) : Prop :=
  (before.memory.toNat < after.memory.toNat ∧ after.time.toNat < before.time.toNat) ∨
    (after.memory.toNat < before.memory.toNat ∧ before.time.toNat < after.time.toNat)

theorem NoWeaker.refl (params : KdfParams) : params.NoWeaker params :=
  fun hybrid => ⟨hybrid, Nat.le_refl _, Nat.le_refl _⟩

theorem isOutdated_iff : before.isOutdated after ↔ before.algorithm ≠ .argon2 .hybrid ∨
    before.memory.toNat < after.memory.toNat ∨ before.time.toNat < after.time.toNat := by
  simp only [isOutdated, Bool.or_eq_true, bne_iff_ne, decide_eq_true_eq, or_assoc,
    UInt32.lt_iff_toNat_lt]

/-- Outdated parameters give way to weaker ones only where a cost is traded for the other, or for
another algorithm. -/
theorem not_noWeaker_iff (outdated : before.isOutdated after) :
    ¬before.NoWeaker after ↔ before.algorithm = .argon2 .hybrid ∧
      (after.algorithm ≠ .argon2 .hybrid ∨ before.Trades after) := by
  rw [isOutdated_iff] at outdated
  unfold NoWeaker Trades
  constructor
  · intro weaker
    obtain ⟨hybrid, loses⟩ := Classical.not_imp.mp weaker
    refine ⟨hybrid, ?_⟩
    by_cases same : after.algorithm = .argon2 .hybrid
    · refine .inr ?_
      have grows := outdated.resolve_left (not_not_intro hybrid)
      have shrinks : ¬(before.memory.toNat ≤ after.memory.toNat ∧
          before.time.toNat ≤ after.time.toNat) := fun keeps => loses ⟨same, keeps⟩
      omega
    · exact .inl same
  · rintro ⟨hybrid, loses⟩ keeps
    obtain ⟨same, memory, time⟩ := keeps hybrid
    rcases loses with other | trades
    · exact other same
    · omega

end KdfParams

/-! ### Parameters of a slot -/

/-- The header in a slot names these parameters. -/
def World.SlotUnder (world : World) (slot : HeaderSlot) (kdf : KdfParams) : Prop :=
  ∃ bytes cleartext, world.stored slot = .ok bytes ∧
    Cleartext.parse bytes.toList = .ok cleartext ∧ cleartext.kdf = kdf

/-- No header has come under weaker parameters than it was under before. -/
def World.KeepsStrength (world after : World) : Prop :=
  ∀ slot former reached, world.SlotUnder slot former → after.SlotUnder slot reached →
    former.NoWeaker reached

section

variable {environment : Environment} {world after : World} {credential : Credential}
variable {slot : HeaderSlot} {former reached kdf : KdfParams}

theorem World.SlotUnder.unique (first : world.SlotUnder slot former)
    (second : world.SlotUnder slot reached) : former = reached := by
  obtain ⟨bytes, cleartext, held, parsed, rfl⟩ := first
  obtain ⟨bytes', cleartext', held', parsed', rfl⟩ := second
  obtain rfl := Except.ok.inj (held.symm.trans held')
  obtain rfl := Except.ok.inj (parsed.symm.trans parsed')
  rfl

theorem World.slotUnder_of_opens {primitives : Primitives} {bytes : HeaderBytes}
    {header : VolumeHeader} (held : world.stored slot = .ok bytes)
    (opens : Protocol.openHeader primitives credential bytes = .ok header) :
    world.SlotUnder slot header.kdf :=
  ⟨bytes, header.cleartext, held, Protocol.parse_of_openHeader opens, rfl⟩

namespace Renewed

/-- Every header that opens is put under the new parameters, whatever its own are. -/
theorem slotUnder (renewed : Renewed environment credential kdf world after)
    (honest : environment.device.Honest) {bytes : HeaderBytes} {header : VolumeHeader}
    (held : world.stored slot = .ok bytes)
    (opens : Protocol.openHeader environment.primitives credential bytes = .ok header) :
    after.SlotUnder slot kdf := by
  cases slot with
  | primary =>
      obtain ⟨_, _, stored, reopens⟩ := renewed.primary_carries honest held opens
      exact World.slotUnder_of_opens stored reopens
  | backup =>
      obtain ⟨_, _, stored, reopens⟩ := (renewed.backup_carries honest held).1 header opens
      exact World.slotUnder_of_opens stored reopens

/-- Strength is kept exactly if the new parameters are no weaker than those of any header that
opens. -/
theorem keepsStrength_iff (renewed : Renewed environment credential kdf world after)
    (honest : environment.device.Honest) {primary : HeaderBytes} {opened : VolumeHeader}
    (heldPrimary : world.stored .primary = .ok primary)
    (opensPrimary : Protocol.openHeader environment.primitives credential primary = .ok opened) :
    world.KeepsStrength after ↔ ∀ slot bytes header, world.stored slot = .ok bytes →
      Protocol.openHeader environment.primitives credential bytes = .ok header →
        header.kdf.NoWeaker kdf := by
  constructor
  · intro keeps slot bytes header held opens
    exact keeps slot _ _ (World.slotUnder_of_opens held opens) (renewed.slotUnder honest held opens)
  · intro stronger slot former reached was is
    have opened : ∀ bytes header, world.stored slot = .ok bytes →
        Protocol.openHeader environment.primitives credential bytes = .ok header →
          former.NoWeaker reached := by
      intro bytes header held opens
      rw [was.unique (World.slotUnder_of_opens held opens),
        is.unique (renewed.slotUnder honest held opens)]
      exact stronger slot bytes header held opens
    cases slot with
    | primary => exact opened primary _ heldPrimary opensPrimary
    | backup =>
        -- an embedded copy that does not open is left as it is
        obtain ⟨bytes, cleartext, held, parsed, rfl⟩ := was
        cases opens : Protocol.openHeader environment.primitives credential bytes with
        | ok header => exact opened bytes header held opens
        | error error =>
            have same := (renewed.backup_carries honest held).2 fun header found => by
              rw [opens] at found
              cases found
            rw [is.unique ⟨bytes, cleartext, same, parsed, rfl⟩]
            exact .refl _

end Renewed

end

namespace Protocol

open Session

section

variable {environment : Environment} {world : World} {recommended : KdfParams}

/-- Whatever is read and written, only outdated parameters are replaced. -/
theorem upgrade_outdated :
    (upgrade recommended).Ends environment world fun result _ =>
      ∀ before reached remounted, result = .ok (.upgraded before reached remounted) →
        reached = recommended ∧ before.isOutdated recommended := by
  refine upgrade_by_parameters (fun _ _ _ _ ok => nomatch ok) ?_
  intro former cleartext _ _
  split
  · next outdated =>
    rintro _ _ _ _ ⟨⟩
    exact ⟨rfl, outdated⟩
  · exact fun _ _ _ ok => nomatch ok

/-- An upgrade reaches the recommended parameters. Where these are weaker than what it has found,
the header was of the hybrid variant and has either lost it or paid for more of one cost with less
of the other. On a device that reads what is stored no header loses strength exactly if the
recommended parameters are no weaker than those of each header that the credential opens. -/
theorem upgrade_keeps_strength_iff {before reached : KdfParams} {remounted : Option String}
    {after : World} (upgraded : (upgrade recommended).runIn environment world =
      (.ok (.upgraded before reached remounted), after)) :
    reached = recommended ∧
    (¬before.NoWeaker reached ↔ before.algorithm = .argon2 .hybrid ∧
      (reached.algorithm ≠ .argon2 .hybrid ∨ before.Trades reached)) ∧
    (world.SlotsApart → environment.device.Truthful → ∃ credential, environment.Gives credential ∧
      world.SlotUnder .primary before ∧
      (world.KeepsStrength after ↔ ∀ slot bytes header, world.stored slot = .ok bytes →
        openHeader environment.primitives credential bytes = .ok header →
          header.kdf.NoWeaker recommended)) := by
  obtain ⟨rfl, outdated⟩ := upgrade_outdated.of_runIn upgraded before reached remounted rfl
  refine ⟨rfl, KdfParams.not_noWeaker_iff outdated, fun apart truthful => ?_⟩
  obtain ⟨-, credential, former, header, gives, held, opens, rfl, renewed⟩ :=
    (upgrade_renews (truthful.readsStored _) apart).of_runIn upgraded before reached remounted rfl
  exact ⟨credential, gives, World.slotUnder_of_opens held opens,
    renewed.keepsStrength_iff truthful.honest held opens⟩

end

/-! ### Volumes under any parameters -/

namespace Sample

def headerUnder (kdf : KdfParams) (fill : UInt8) : VolumeHeader := { header fill with kdf := kdf }

/-- The key that the credential gives under these parameters. -/
def keyUnder (kdf : KdfParams) (salt : Octets 64) : HeaderKey :=
  (deriveKey .standard credential salt.toList kdf).toOption.getD (key salt)

theorem derived_under (kdf : KdfParams) (salt : Octets 64) :
    deriveKey .standard credential salt.toList kdf = .ok (keyUnder kdf salt) := by
  obtain ⟨secret, known⟩ : ∃ secret, credential.secret = .ok secret := ⟨_, rfl⟩
  obtain ⟨key, derived⟩ := deriveKey_total Primitives.legacyTotal_standard known salt kdf
  rw [keyUnder, derived]
  rfl

def sealedUnder (kdf : KdfParams) (fill : UInt8) : HeaderBytes :=
  (headerUnder kdf fill).sealWith (keyUnder kdf (headerUnder kdf fill).salt)

theorem opens_under (kdf : KdfParams) (fill : UInt8) :
    openHeader .standard credential (sealedUnder kdf fill) = .ok (headerUnder kdf fill) :=
  openHeader_sealWith (derived_under kdf (headerUnder kdf fill).salt)

/-- A volume whose headers are under parameters of their own. -/
def under (primary backup : KdfParams) : World :=
  world (sealedUnder primary 1) (some (sealedUnder backup 2)) ⟨[], []⟩

theorem under_slotsApart (primary backup : KdfParams) : (under primary backup).SlotsApart :=
  slotsApart _ _ _

theorem slotUnder_primary (primary backup : KdfParams) :
    (under primary backup).SlotUnder .primary primary :=
  World.slotUnder_of_opens rfl (opens_under primary 1)

theorem slotUnder_backup (primary backup : KdfParams) :
    (under primary backup).SlotUnder .backup backup :=
  World.slotUnder_of_opens rfl (opens_under backup 2)

/-- Outdated parameters of the primary header bring both headers under the recommended ones. -/
theorem upgrade_under {primary backup recommended : KdfParams}
    (outdated : primary.isOutdated recommended) :
    ∃ remounted after,
      (upgrade recommended).runIn (environment .faithful) (under primary backup) =
        (.ok (.upgraded primary recommended remounted), after) ∧
      ∀ slot, after.SlotUnder slot recommended := by
  have succeeds : (upgrade recommended).Ends (environment .faithful) (under primary backup)
      fun result _ => ∃ remounted, result = .ok (.upgraded primary recommended remounted) :=
    upgrade_succeeds smooth (under_slotsApart _ _) rfl (fun _ => ⟨_, rfl⟩) (opens_under primary 1)
      outdated
  obtain ⟨_, after, run, remounted, rfl⟩ := succeeds.exists_run
  have truthful := DeviceBehaviour.truthful_faithful
  obtain ⟨-, given, former, header, gives, -, -, -, renewed⟩ :=
    (upgrade_renews (truthful.readsStored _) (under_slotsApart _ _)).of_runIn run _ _ _ rfl
  obtain rfl := (onlyGives .faithful).eq gives
  refine ⟨remounted, after, run, fun slot => ?_⟩
  cases slot with
  | primary => exact renewed.slotUnder truthful.honest rfl (opens_under primary 1)
  | backup => exact renewed.slotUnder truthful.honest rfl (opens_under backup 2)

end Sample

/-- More memory and as many passes take no strength from a volume under the usual parameters. -/
theorem upgrade_keeps_strength_doubled : ∃ recommended remounted after,
    KdfParams.argon2id 131072 3 4 = .ok recommended ∧
    (upgrade recommended).runIn (Sample.environment .faithful) (Sample.under .standard .standard) =
      (.ok (.upgraded .standard recommended remounted), after) ∧
    (Sample.under .standard .standard).KeepsStrength after := by
  obtain ⟨recommended, usable⟩ : ∃ params, KdfParams.argon2id 131072 3 4 = .ok params := ⟨_, rfl⟩
  obtain ⟨hybrid, memory, time, -⟩ := KdfParams.eq_of_new usable
  have outdated : KdfParams.standard.isOutdated recommended := by
    rw [KdfParams.isOutdated_iff, memory, time]
    decide
  obtain ⟨remounted, after, run, -⟩ := Sample.upgrade_under outdated
  obtain ⟨-, -, slots⟩ := upgrade_keeps_strength_iff run
  obtain ⟨given, gives, -, keeps⟩ :=
    slots (Sample.under_slotsApart _ _) DeviceBehaviour.truthful_faithful
  obtain rfl := (Sample.onlyGives .faithful).eq gives
  refine ⟨recommended, remounted, after, usable, run, keeps.mpr ?_⟩
  have stronger : KdfParams.standard.NoWeaker recommended := by
    intro _
    rw [hybrid, memory, time]
    decide
  intro slot bytes header held opens
  have usual : (Sample.under .standard .standard).SlotUnder slot .standard := by
    cases slot with
    | primary => exact Sample.slotUnder_primary _ _
    | backup => exact Sample.slotUnder_backup _ _
  rw [(World.slotUnder_of_opens held opens).unique usual]
  exact stronger

/-- An upgrade to more memory can bring down the passes, and one that only the primary header is in
want of can bring down both costs of the embedded copy. -/
theorem upgrade_can_weaken :
    (∃ recommended remounted after, KdfParams.argon2id 131072 1 4 = .ok recommended ∧
      (upgrade recommended).runIn (Sample.environment .faithful)
        (Sample.under .standard .standard) =
          (.ok (.upgraded .standard recommended remounted), after) ∧
      recommended.time.toNat < KdfParams.standard.time.toNat) ∧
    ∃ recommended remounted after, KdfParams.argon2id 64 1 1 = .ok recommended ∧
      (upgrade recommended).runIn (Sample.environment .faithful)
        (Sample.under Sample.kdf .standard) =
          (.ok (.upgraded Sample.kdf recommended remounted), after) ∧
      (Sample.under Sample.kdf .standard).SlotUnder .backup .standard ∧
      after.SlotUnder .backup recommended ∧
      recommended.memory.toNat < KdfParams.standard.memory.toNat ∧
      recommended.time.toNat < KdfParams.standard.time.toNat := by
  constructor
  · obtain ⟨recommended, usable⟩ : ∃ params, KdfParams.argon2id 131072 1 4 = .ok params := ⟨_, rfl⟩
    obtain ⟨-, memory, time, -⟩ := KdfParams.eq_of_new usable
    have outdated : KdfParams.standard.isOutdated recommended := by
      rw [KdfParams.isOutdated_iff, memory, time]
      decide
    obtain ⟨remounted, after, run, -⟩ := Sample.upgrade_under outdated
    exact ⟨recommended, remounted, after, usable, run, by rw [time]; decide⟩
  · obtain ⟨recommended, usable⟩ : ∃ params, KdfParams.argon2id 64 1 1 = .ok params := ⟨_, rfl⟩
    obtain ⟨-, memory, time, -⟩ := KdfParams.eq_of_new usable
    have outdated : Sample.kdf.isOutdated recommended := rfl
    obtain ⟨remounted, after, run, under⟩ := Sample.upgrade_under outdated
    exact ⟨recommended, remounted, after, usable, run, Sample.slotUnder_backup _ _, under .backup,
      by rw [memory]; decide, by rw [time]; decide⟩

end Protocol

end HeaderVault
