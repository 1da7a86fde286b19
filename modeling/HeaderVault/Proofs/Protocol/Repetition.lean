import HeaderVault.Proofs.Protocol.Course
import HeaderVault.Proofs.Protocol.Rewrapping
import HeaderVault.Protocol.Inspect

/-!
Upgrading a volume that was upgraded.

What an upgrade reads and writes does not matter to what it leaves behind: the primary header is
under the parameters that were asked for, and an embedded copy can be read (`World.Under`,
`upgrade_leaves_under`). An inspection tells these parameters (`inspect_of_under`), and another
upgrade goes by them: it does nothing unless they are outdated (`upgrade_of_under`). As parameters
are outdated by themselves unless they name the hybrid variant (`KdfParams.isOutdated_self`), an
upgrade is not repeated for that variant, and always for the others (`upgrade_settles`).
-/

namespace HeaderVault

/-- Parameters fall short of themselves only in their algorithm. -/
theorem KdfParams.isOutdated_self (params : KdfParams) :
    params.isOutdated params = (params.algorithm != .argon2 .hybrid) := by
  simp [isOutdated]

/-- The primary header is under these parameters, and an embedded copy can be read. -/
structure World.Under (kdf : KdfParams) (world : World) : Prop where
  primary : ∃ bytes cleartext, world.stored .primary = .ok bytes ∧
    Cleartext.parse bytes.toList = .ok cleartext ∧ cleartext.kdf = kdf
  backup : world.hasBackupSlot = true → ∃ bytes, world.stored .backup = .ok bytes

theorem World.Under.of_stored {kdf : KdfParams} {world later : World} (under : world.Under kdf)
    (stored : ∀ slot, later.stored slot = world.stored slot)
    (backupSlot : later.hasBackupSlot = world.hasBackupSlot) : later.Under kdf where
  primary := by
    rw [stored]
    exact under.primary
  backup := by
    rw [stored, backupSlot]
    exact under.backup

/-- What a volume answers about parameters that it was put under. -/
structure Settled (recommended : KdfParams) (environment : Environment) (world : World) : Prop where
  /-- An inspection tells the parameters. They are outdated unless they name the hybrid variant. -/
  inspection : (Protocol.inspect recommended).Ends environment world fun result _ =>
    ∃ info, result = .ok info ∧ info.kdf = recommended ∧
      info.outdated = (recommended.algorithm != .argon2 .hybrid)
  /-- Another upgrade to the hybrid variant reads the primary header, tells that nothing is to be
  done, and does nothing else. -/
  repetition : recommended.algorithm = .argon2 .hybrid →
    (Protocol.upgrade recommended).Ends environment world fun result after =>
      result = .ok (.notNeeded recommended) ∧ world.Idle [.read, .told] after
  /-- To any other algorithm it never finds that nothing is to be done. -/
  renewal : recommended.algorithm ≠ .argon2 .hybrid →
    (Protocol.upgrade recommended).Ends environment world fun result _ =>
      ∀ current, result ≠ .ok (.notNeeded current)

namespace Protocol

open Session

section

variable {environment : Environment} {world : World} {credential : Credential}
variable {kdf recommended : KdfParams}

/-! ### What an upgrade leaves behind -/

/-- On an honest device commits that succeed leave what was sealed last. -/
theorem commitBoth_leaves_under {start : World} (apart : start.SlotsApart)
    (since : start.Quiet world) {former stored renewed : HeaderBytes}
    (held : start.stored .primary = .ok stored)
    (rewraps : Rewraps environment.primitives credential kdf former renewed)
    {embedded : Option (HeaderBytes × HeaderBytes)} (found : start.FindsBackup embedded) :
    (commitBoth former renewed embedded).Ends environment world fun result after =>
      result = .ok () → environment.device.Honest → after.Under kdf := by
  obtain ⟨header, salt, -, opens⟩ := rewraps
  have parsed := parse_of_openHeader opens
  have apartNow := since.unharmed.elsewhere.slotsApart apart
  refine .bind ((commit_committed apartNow ((since.unharmed.stored .primary).trans held)).mono ?_)
  rintro (error | ⟨⟩) committed ok
  · exact fun ok => nomatch ok
  have primary := (ok rfl).stored
  obtain ⟨-, content, stores, -⟩ := ok rfl
  have backup : committed.stored .backup = start.stored .backup :=
    (stores.other .backup (by decide)).trans (since.unharmed.stored .backup)
  rcases found with ⟨missing, rfl⟩ | ⟨bytes, heldBackup⟩
  · refine ends_pure fun _ sound => ⟨⟨renewed, _, primary sound, parsed, rfl⟩, ?_⟩
    rw [stores.elsewhere.backupSlot, since.hasBackupSlot, missing]
    exact nofun
  have heldBackup := backup.trans heldBackup
  cases embedded with
  | none =>
      exact ends_pure fun _ sound =>
        ⟨⟨renewed, _, primary sound, parsed, rfl⟩, fun _ => ⟨bytes, heldBackup⟩⟩
  | some both =>
      refine (commitBackup_committed (stores.elsewhere.slotsApart apartNow) heldBackup former).mono ?_
      intro result after ok succeeded sound
      obtain ⟨-, content, storesBackup, -⟩ := ok succeeded
      have still := storesBackup.other .primary (by decide)
      exact ⟨⟨renewed, _, still.trans (primary sound), parsed, rfl⟩,
        fun _ => ⟨content, storesBackup.stored⟩⟩

/-- However reads and writes go: a volume that an upgrade says it has upgraded is under the
parameters that were asked for. -/
theorem upgrade_leaves_under (apart : world.SlotsApart) (honest : environment.device.Honest) :
    (upgrade recommended).Ends environment world fun result after =>
      ∀ before reached remounted, result = .ok (.upgraded before reached remounted) →
        reached = recommended ∧ after.Under recommended := by
  refine upgrade_proceeds (fun _ _ _ _ _ _ ok => nomatch ok) (fun _ _ _ _ _ _ ok => nomatch ok) ?_
  intro credential former header stored ready _ held _ opens since
  have rewraps : (rewrapAll credential header former recommended).Ends environment ready
      fun result after => result = .ok () → environment.device.Honest → after.Under recommended :=
    rewrapAll_proceeds since opens (fun _ _ _ ok => nomatch ok)
      fun _ _ _ since rewraps found _ => commitBoth_leaves_under apart since held rewraps found
  refine rewraps.mono ?_
  rintro (error | ⟨⟩) rewrapped under after still
  · exact fun _ _ _ ok => nomatch ok
  · rintro remounted before reached _ ⟨⟩
    exact ⟨rfl, (under rfl honest).of_stored still.unharmed.stored still.hasBackupSlot⟩

/-! ### What follows from the parameters of a volume -/

/-- An inspection tells the parameters of the primary header, whatever the embedded copy holds. -/
theorem inspect_of_under (reads : environment.device.ReadsAtFirst world.history)
    (under : world.Under kdf) :
    (inspect recommended).Ends environment world fun result _ => ∃ info, result = .ok info ∧
      info.kdf = kdf ∧ info.outdated = kdf.isOutdated recommended := by
  obtain ⟨bytes, cleartext, held, parsed, rfl⟩ := under.primary
  have read := readHeader_succeeds reads (Change.refl world) held
  refine .bind_quiet_ok (Change.refl world) (quiet_readHeader _) read ?_
  intro _ since
  rw [parsed]
  refine .bind_quiet_ok since (within_ofExcept _) (congrArg Prod.fst (runIn_ofExcept _)) ?_
  intro parsing since
  refine ends_hasBackupSlot_bind ?_
  rw [since.hasBackupSlot]
  cases there : world.hasBackupSlot with
  | false => exact ⟨_, rfl, rfl, rfl⟩
  | true =>
      obtain ⟨embedded, heldBackup⟩ := under.backup there
      refine .bind_quiet_ok since (quiet_readHeader _) (readHeader_succeeds reads since heldBackup) ?_
      exact fun _ _ => ⟨_, rfl, rfl, rfl⟩

/-- Whatever its other steps come to, an upgrade decides by the parameters that it reads. -/
theorem upgrade_by_parameters {post : Except Error UpgradeOutcome → Prop}
    (fail : ∀ error, post (.error error))
    (decides : ∀ former cleartext,
      ((readHeader .primary).runIn environment world).1 = .ok former →
        Cleartext.parse former.toList = .ok cleartext →
          if cleartext.kdf.isOutdated recommended then
            ∀ remounted, post (.ok (.upgraded cleartext.kdf recommended remounted))
          else post (.ok (.notNeeded cleartext.kdf))) :
    (upgrade recommended).Ends environment world fun result _ => post result := by
  have fails : ∀ (error : Error) (_ : World), post (.error error) := fun error _ => fail error
  have read : (readHeader .primary).Ends environment world fun result _ =>
      ((readHeader .primary).runIn environment world).1 = result := rfl
  refine .bind (read.mono ?_)
  rintro (error | former) _ read
  · exact fail error
  refine .bind (ends_ofExcept ?_)
  cases parsed : Cleartext.parse former.toList with
  | error error => exact fail error
  | ok cleartext =>
  have decided := decides former cleartext read parsed
  dsimp only
  cases outdated : cleartext.kdf.isOutdated recommended with
  | false =>
      rw [outdated, if_neg Bool.false_ne_true] at decided
      exact .bind_any fails fun _ _ => ends_pure decided
  | true =>
      rw [if_pos outdated] at decided
      refine .bind_any fails fun _ _ => .bind_any fails fun credential _ => ?_
      refine .bind_any fails fun header _ => .bind_any fails fun wasMounted _ => ?_
      cases wasMounted with
      | false =>
          refine .bind_any fails fun _ _ => .bind_any fails fun _ _ => .bind_any fails fun _ _ => ?_
          exact .bind_any fails fun _ _ => ends_pure (decided _)
      | true =>
          refine .bind_any fails fun _ _ => .bind_any fails fun _ _ => .bind_any fails fun _ _ => ?_
          exact .bind_any fails fun _ _ => .bind_any fails fun _ _ => ends_pure (decided _)

/-- An upgrade goes by the parameters that it reads. Unless they are outdated it tells so and does
nothing else; if they are, it does not say that nothing is to be done. -/
theorem upgrade_of_under (reads : environment.device.ReadsAtFirst world.history)
    (under : world.Under kdf) :
    (upgrade recommended).Ends environment world fun result after =>
      if kdf.isOutdated recommended then ∀ current, result ≠ .ok (.notNeeded current)
      else result = .ok (.notNeeded kdf) ∧ world.Idle [.read, .told] after := by
  obtain ⟨bytes, cleartext, held, parsed, rfl⟩ := under.primary
  have succeeds := readHeader_succeeds reads (Change.refl world) held
  cases outdated : cleartext.kdf.isOutdated recommended with
  | false =>
      have read : World.Idle [.read, .told] world _ :=
        idle_readHeader (by decide) .primary environment world
      refine .bind_ok (Prod.ext succeeds rfl) ?_
      rw [parsed]
      refine .bind_ok (runIn_ofExcept _) ?_
      dsimp only
      rw [outdated]
      exact ⟨rfl, Change.trans read (idle_tell (by decide) rfl environment _)⟩
  | true =>
      change (upgrade recommended).Ends environment world fun result _ =>
        ∀ current, result ≠ .ok (.notNeeded current)
      refine upgrade_by_parameters (fun _ _ => nofun) ?_
      intro former found read parsedFound
      obtain rfl := Except.ok.inj (succeeds.symm.trans read)
      obtain rfl := Except.ok.inj (parsed.symm.trans parsedFound)
      rw [if_pos outdated]
      exact fun _ _ => nofun

/-- By its own parameters a volume is outdated for its algorithm only. -/
theorem settled_of_under (reads : environment.device.ReadsAtFirst world.history)
    (under : world.Under recommended) : Settled recommended environment world where
  inspection := by
    rw [← recommended.isOutdated_self]
    exact inspect_of_under reads under
  repetition hybrid := by
    have current : recommended.isOutdated recommended = false := by
      rw [recommended.isOutdated_self, hybrid, bne_self_eq_false]
    refine (upgrade_of_under reads under).mono ?_
    intro result after ends
    rwa [current, if_neg Bool.false_ne_true] at ends
  renewal other := by
    have outdated : recommended.isOutdated recommended = true := by
      rw [recommended.isOutdated_self, bne_iff_ne]
      exact other
    refine (upgrade_of_under reads under).mono ?_
    intro result after ends
    rwa [if_pos outdated] at ends

/-- A volume that was upgraded is settled, whatever has happened since but to its slots: it is under
the recommended parameters, another upgrade to the hybrid variant does nothing, and one to any other
algorithm is always wanted, as no other is ever up to date. -/
theorem upgrade_settles {after later : World} {again : Environment} {before reached : KdfParams}
    {remounted : Option String} (apart : world.SlotsApart) (honest : environment.device.Honest)
    (upgraded : (upgrade recommended).runIn environment world =
      (.ok (.upgraded before reached remounted), after))
    (stored : ∀ slot, later.stored slot = after.stored slot)
    (backupSlot : later.hasBackupSlot = after.hasBackupSlot)
    (reads : again.device.ReadsAtFirst later.history) :
    reached = recommended ∧ Settled recommended again later := by
  obtain ⟨same, under⟩ :=
    (upgrade_leaves_under apart honest).of_runIn upgraded before reached remounted rfl
  exact ⟨same, settled_of_under reads (under.of_stored stored backupSlot)⟩

end

namespace Sample

/-- A volume under the legacy derivation can be put under any parameters. -/
theorem upgrade_twofold (recommended : KdfParams) :
    ∃ remounted after, (upgrade recommended).runIn (environment .faithful) twofold =
      (.ok (.upgraded kdf recommended remounted), after) := by
  have outdated : (header 1).kdf.isOutdated recommended := rfl
  obtain ⟨_, after, run, remounted, rfl⟩ := (upgrade_succeeds smooth twofold_slotsApart rfl
    (fun _ => ⟨sealed 2, rfl⟩) (opens 1) outdated).exists_run
  exact ⟨remounted, after, run⟩

end Sample

/-- Once a volume is under the parameters of new volumes, another upgrade has nothing to do. -/
theorem upgrade_settles_standard :
    let environment := Sample.environment .faithful
    ∃ remounted after final,
      (upgrade .standard).runIn environment Sample.twofold =
        (.ok (.upgraded Sample.kdf .standard remounted), after) ∧
      (upgrade .standard).runIn environment after = (.ok (.notNeeded .standard), final) ∧
      after.Idle [.read, .told] final := by
  intro environment
  obtain ⟨remounted, after, run⟩ := Sample.upgrade_twofold .standard
  have reads : environment.device.ReadsAtFirst after.history := fun _ _ _ _ => rfl
  obtain ⟨-, settled⟩ := upgrade_settles Sample.twofold_slotsApart
    DeviceBehaviour.honest_faithful run (fun _ => rfl) rfl reads
  obtain ⟨_, final, again, rfl, idle⟩ := (settled.repetition rfl).exists_run
  exact ⟨remounted, after, final, run, again, idle⟩

/-- A volume that was put under the legacy derivation as recommended is outdated right afterwards. -/
theorem legacy_stays_outdated :
    let environment := Sample.environment .faithful
    ∃ remounted after info final,
      (upgrade Sample.kdf).runIn environment Sample.twofold =
        (.ok (.upgraded Sample.kdf Sample.kdf remounted), after) ∧
      (inspect Sample.kdf).runIn environment after = (.ok info, final) ∧ info.outdated = true := by
  intro environment
  obtain ⟨remounted, after, run⟩ := Sample.upgrade_twofold Sample.kdf
  obtain ⟨-, under⟩ := (upgrade_leaves_under Sample.twofold_slotsApart
    DeviceBehaviour.honest_faithful).of_runIn run _ _ _ rfl
  have reads : environment.device.ReadsAtFirst after.history := fun _ _ _ _ => rfl
  have inspects : (inspect Sample.kdf).Ends environment after fun result _ => ∃ info,
      result = .ok info ∧ info.kdf = Sample.kdf ∧ info.outdated = Sample.kdf.isOutdated Sample.kdf :=
    inspect_of_under reads under
  obtain ⟨_, final, inspected, info, rfl, -, outdated⟩ := inspects.exists_run
  exact ⟨remounted, after, info, final, run, inspected, outdated⟩

end Protocol

end HeaderVault
