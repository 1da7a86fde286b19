import HeaderVault.Proofs.Kdf.Derivation
import HeaderVault.Proofs.Protocol.Preparation

/-!
What keeps an upgrade from reaching its commits: the operator, a fault, and nothing else.

Where the operator agrees to everything and nothing goes wrong but writes (`Agreeable`), every step
before the commits gives a result. Keys can be derived for all parameters that a header can name, a
header opens to what was sealed, and one that does not open is no reason to stop. So the commits are
reached and decide what becomes of the upgrade (`rewrapAll_reaches`, `upgrade_reaches`).
-/

namespace HeaderVault

/-- The operator gives a credential and agrees to everything, and nothing goes wrong apart from the
device. -/
structure Environment.Agreeable (environment : Environment) (credential : Credential) : Prop where
  entropy : ∀ request taken count,
    ∃ octets, environment.entropy request taken count = some octets
  dismount : ∀ history, environment.mount.dismount history = .ok ()
  legacy : environment.primitives.LegacyTotal
  password : ∀ history files text,
    environment.operator history files (.password text) = .ok credential.password
  keyfiles : ∀ history files, environment.operator history files .keyfiles = .ok credential.keyfiles
  confirm : ∀ history files message default warning,
    environment.operator history files (.confirm message default warning) = .ok true
  enrichEntropy : ∀ history files, environment.operator history files .enrichEntropy = .ok ()

/-! ### Headers that do not open -/

theorem Cleartext.parse_ne_cancelled (bytes : Bytes) : parse bytes ≠ .error .cancelled := by
  unfold parse
  split
  · exact nofun
  · split <;> exact nofun

theorem VolumeHeader.ofBody_ne_cancelled (cleartext : Cleartext) (body : Bytes) :
    ofBody cleartext body ≠ .error .cancelled := by
  unfold ofBody
  dsimp only
  split
  · exact nofun
  split
  · exact nofun
  split
  · exact nofun
  split <;> exact nofun

namespace Protocol

open Session

section

variable {environment : Environment} {world : World} {credential : Credential} {kdf : KdfParams}

/-! ### Steps that succeed -/

theorem draw_succeeds (agreeable : environment.Agreeable credential) (count : Nat) :
    ∃ octets, ((draw count).runIn environment world).1 = .ok octets := by
  obtain ⟨octets, given⟩ :=
    agreeable.entropy (world.entropy.requests + 1) world.entropy.taken count
  refine ⟨octets, ?_⟩
  rw [runIn_draw]
  simp only [given]

theorem isMounted_succeeds : (isMounted.runIn environment world).1 = .ok world.mounted := rfl

/-- A header that was rewrapped opens to what it was sealed from. -/
theorem rewrap_succeeds (agreeable : environment.Agreeable credential) {secret : Bytes}
    (known : credential.secret = .ok secret) (header : VolumeHeader) :
    ∃ bytes, ((rewrap credential header kdf).runIn environment world).1 = .ok bytes := by
  obtain ⟨salt, drawn⟩ : ∃ salt, (drawSalt.runIn environment world).1 = .ok salt :=
    draw_succeeds agreeable 64
  obtain ⟨key, derived⟩ := deriveKey_total agreeable.legacy known salt kdf
  refine ⟨(header.rewrapped kdf salt).sealWith key, ?_⟩
  have sealed : ∀ world, ((sealFor credential (header.rewrapped kdf salt)).runIn environment world).1 =
      .ok ((header.rewrapped kdf salt).sealWith key) := by
    intro world
    rw [sealFor, runIn_bind, runIn_deriveBusy]
    simp only [VolumeHeader.rewrapped, derived]
    rfl
  have reopened : ∀ world, ((unlock credential ((header.rewrapped kdf salt).sealWith key)).runIn
      environment world).1 = .ok (header.rewrapped kdf salt) := by
    intro world
    rw [unlock_result]
    exact openHeader_sealWith derived
  rw [rewrap, runIn_bind_ok drawn, runIn_bind_ok (sealed _), runIn_bind_ok (reopened _),
    if_neg (Decidable.not_not.mpr rfl)]
  rfl

/-- That a header does not open is never a reason to stop. -/
theorem openHeader_ne_cancelled (agreeable : environment.Agreeable credential) {secret : Bytes}
    (known : credential.secret = .ok secret) (bytes : HeaderBytes) :
    openHeader environment.primitives credential bytes ≠ .error .cancelled := by
  cases parsed : Cleartext.parse bytes.toList with
  | error error =>
      have other := Cleartext.parse_ne_cancelled bytes.toList
      rw [parsed] at other
      rw [openHeader, parsed]
      intro same
      cases same
      exact other rfl
  | ok cleartext =>
      obtain ⟨key, derived⟩ := deriveKey_total agreeable.legacy known cleartext.salt cleartext.kdf
      rw [openHeader_of_parse parsed, derived]
      dsimp only
      rw [VolumeHeader.openWith_of_parse parsed]
      exact VolumeHeader.ofBody_ne_cancelled _ _

/-- The credential of a header that opens has a secret. -/
theorem exists_secret_of_openHeader {primitives : Primitives} {bytes : HeaderBytes}
    {header : VolumeHeader} (opens : openHeader primitives credential bytes = .ok header) :
    ∃ secret, credential.secret = .ok secret := by
  rw [openHeader_of_parse (parse_of_openHeader opens)] at opens
  cases derived : deriveKey primitives credential header.cleartext.salt.toList
      header.cleartext.kdf with
  | ok key => exact exists_secret_of_deriveKey derived
  | error error =>
      rw [derived] at opens
      cases opens

theorem unlockOrWarn_succeeds (agreeable : environment.Agreeable credential) {secret : Bytes}
    (known : credential.secret = .ok secret) (bytes : HeaderBytes) (warning : String) :
    ∃ header, ((unlockOrWarn credential bytes warning).runIn environment world).1 = .ok header := by
  have goesOn := openHeader_ne_cancelled agreeable known bytes
  rw [unlockOrWarn, runIn_bind, runIn_attempt, unlock_result]
  dsimp only
  cases opens : openHeader environment.primitives credential bytes with
  | ok header => exact ⟨some header, rfl⟩
  | error error =>
      rw [opens] at goesOn
      cases error with
      | cancelled => exact absurd rfl goesOn
      | _ => exact ⟨none, rfl⟩

theorem dismount_succeeds (agreeable : environment.Agreeable credential) :
    (dismount.runIn environment world).1 = .ok () := by
  simp only [dismount, runIn_bind, runIn_read, runIn_get, runIn_record, runIn_ofExcept,
    agreeable.dismount, runIn_modify]

/-- What is stored is read as long as no header was written. -/
theorem readHeader_succeeds {start : World} (reads : environment.device.ReadsAtFirst start.history)
    (since : start.Quiet world) {slot : HeaderSlot} {bytes : HeaderBytes}
    (held : start.stored slot = .ok bytes) :
    ((readHeader slot).runIn environment world).1 = .ok bytes := by
  obtain ⟨events, history, noWrite⟩ := since.history
  have read := reads events slot bytes noWrite
  rw [← history] at read
  rw [runIn_readHeader_of_stored ((since.unharmed.stored slot).trans held) read]

theorem rewrapBackup_succeeds {start : World} (agreeable : environment.Agreeable credential)
    (reads : environment.device.ReadsAtFirst start.history) (since : start.Quiet world)
    {secret : Bytes} (known : credential.secret = .ok secret)
    (readable : start.hasBackupSlot → ∃ bytes, start.stored .backup = .ok bytes) :
    ∃ embedded, ((rewrapBackup credential kdf).runIn environment world).1 = .ok embedded := by
  rw [rewrapBackup, runIn_bind, runIn_hasBackupSlot, since.hasBackupSlot]
  dsimp only
  split
  · next there =>
    obtain ⟨bytes, held⟩ := readable there
    rw [runIn_bind_ok (readHeader_succeeds reads since held)]
    obtain ⟨header, opened⟩ := unlockOrWarn_succeeds agreeable known bytes
      "The embedded backup header could not be opened and was not upgraded."
    rw [runIn_bind_ok opened]
    cases header with
    | none => exact ⟨none, rfl⟩
    | some old =>
        obtain ⟨renewed, made⟩ := rewrap_succeeds agreeable known old
        refine ⟨some (bytes, renewed), ?_⟩
        dsimp only
        rw [runIn_bind_ok made]
        rfl
  · exact ⟨none, rfl⟩

/-! ### Reaching the commits -/

/-- Both new headers are made, so rewrapping ends as the commits do. -/
theorem rewrapAll_reaches {start : World} {post : Except Error Unit → World → Prop}
    (agreeable : environment.Agreeable credential)
    (reads : environment.device.ReadsAtFirst start.history)
    (readsStored : environment.device.ReadsStored start.history) (since : start.Quiet world)
    {former : HeaderBytes} {header : VolumeHeader}
    (opens : openHeader environment.primitives credential former = .ok header)
    (readable : start.hasBackupSlot → ∃ bytes, start.stored .backup = .ok bytes)
    (commits : ∀ ready renewed embedded, start.Quiet ready →
      Rewraps environment.primitives credential kdf former renewed →
        start.RewrapsBackup environment.primitives credential kdf embedded →
          (commitBoth former renewed embedded).Ends environment ready post) :
    (rewrapAll credential header former kdf).Ends environment world post := by
  obtain ⟨secret, known⟩ := exists_secret_of_openHeader opens
  refine .bind_quiet_ok since (quiet_ask _) (ask_succeeds agreeable.enrichEntropy) ?_
  intro asked since
  obtain ⟨renewed, made⟩ : ∃ bytes,
      ((rewrap credential header kdf).runIn environment asked).1 = .ok bytes :=
    rewrap_succeeds agreeable known header
  obtain ⟨salt, reopens⟩ := (rewrap_result header).of_runIn (Prod.ext made rfl) renewed rfl
  refine .bind_quiet_ok since (quiet_rewrap _ _ _) made ?_
  intro prepared since
  obtain ⟨embedded, found⟩ : ∃ embedded,
      ((rewrapBackup credential kdf).runIn environment prepared).1 = .ok embedded :=
    rewrapBackup_succeeds agreeable reads since known readable
  obtain ⟨-, carries⟩ :=
    (rewrapBackup_result since).of_runIn (Prod.ext found rfl) embedded rfl
  refine .bind_quiet_ok since (quiet_rewrapBackup _ _) found ?_
  intro ready since
  exact commits ready renewed embedded since ⟨header, salt, opens, reopens⟩ (carries readsStored)

/-- An outdated header that opens is upgraded, as far as the commits allow. -/
theorem upgrade_reaches {recommended : KdfParams} {rewrapped : Except Error Unit → World → Prop}
    (agreeable : environment.Agreeable credential)
    (reads : environment.device.ReadsAtFirst world.history) {former : HeaderBytes}
    {header : VolumeHeader} (held : world.stored .primary = .ok former)
    (opens : openHeader environment.primitives credential former = .ok header)
    (outdated : header.kdf.isOutdated recommended)
    (rewraps : ∀ ready, world.Quiet ready →
      (rewrapAll credential header former recommended).Ends environment ready rewrapped) :
    (upgrade recommended).Ends environment world (UpgradeReports header.kdf recommended rewrapped) := by
  refine .bind_quiet_ok (Change.refl world) (quiet_readHeader _)
    (readHeader_succeeds reads (Change.refl world) held) ?_
  intro _ since
  refine .bind_quiet_ok since (within_ofExcept _)
    (congrArg Prod.fst (runIn_ofExcept _) |>.trans (parse_of_openHeader opens)) ?_
  intro _ since
  rw [show header.cleartext.kdf = header.kdf from rfl, if_neg (by simpa using outdated)]
  refine .bind_quiet_ok since (quiet_requireConfirmation _ _ _)
    (requireConfirmation_succeeds agreeable.confirm _ _ _) ?_
  intro _ since
  refine .bind_quiet_ok since (quiet_askCredential _) (askCredential_succeeds agreeable.password agreeable.keyfiles _) ?_
  intro _ since
  refine .bind_quiet_ok since (quiet_unlock _ _) ((unlock_result former).trans opens) ?_
  intro _ since
  refine .bind_quiet_ok since quiet_isMounted isMounted_succeeds ?_
  intro ready since
  split
  · refine .bind_quiet_ok since quiet_dismount (dismount_succeeds agreeable) ?_
    intro _ since
    exact reports_ends (rewraps _ since) (quiet_remount credential) (fun _ => remount_result) _
  · exact reports_ends (rewraps _ since) (within_pure none) (fun _ => ⟨none, rfl⟩) _

end

namespace Sample

theorem agreeable (device : DeviceBehaviour) : (environment device).Agreeable credential where
  entropy _ _ _ := ⟨_, rfl⟩
  dismount _ := rfl
  legacy := Primitives.legacyTotal_standard
  password _ _ _ := rfl
  keyfiles _ _ := rfl
  confirm _ _ _ _ _ := rfl
  enrichEntropy _ _ := rfl

end Sample

end Protocol

end HeaderVault
