import HeaderVault.Proofs.Protocol.Sealing
import HeaderVault.Proofs.Session.Faults
import HeaderVault.Proofs.Session.Operator
import HeaderVault.Protocol.Upgrade

/-!
What an upgrade does before it writes.

Until it has opened the header it asks and works, and does nothing else (`upgrade_opens`). Each new
header has been opened and found to carry what the old one carries (`Rewraps`), and all of it is
quiet. So an upgrade either ends quietly or as its commits do (`rewrapAll_proceeds`,
`upgrade_proceeds`); what is rewrapped is what was read, and on a device that reads what is stored
that is what the slots hold (`rewrapAll_follows`, `upgrade_follows`).
-/

namespace HeaderVault

/-- A header that a credential opens, put under other parameters and a fresh salt. -/
def Rewraps (primitives : Primitives) (credential : Credential) (kdf : KdfParams)
    (former renewed : HeaderBytes) : Prop :=
  ∃ header salt, Protocol.openHeader primitives credential former = .ok header ∧
    Protocol.openHeader primitives credential renewed = .ok (header.rewrapped kdf salt)

/-- What a header opens to is carried over. -/
theorem Rewraps.opens {primitives : Primitives} {credential : Credential} {kdf : KdfParams}
    {former renewed : HeaderBytes} (rewraps : Rewraps primitives credential kdf former renewed)
    {header : VolumeHeader} (opens : Protocol.openHeader primitives credential former = .ok header) :
    ∃ salt, Protocol.openHeader primitives credential renewed = .ok (header.rewrapped kdf salt) := by
  obtain ⟨old, salt, opensOld, opensRenewed⟩ := rewraps
  obtain rfl := Except.ok.inj (opens.symm.trans opensOld)
  exact ⟨salt, opensRenewed⟩

/-- A slot for the embedded copy holds bytes; without one nothing is made for it. -/
def World.FindsBackup (world : World) (embedded : Option (HeaderBytes × HeaderBytes)) : Prop :=
  (world.hasBackupSlot = false ∧ embedded = none) ∨ ∃ bytes, world.stored .backup = .ok bytes

/-- What is made for the embedded copy: its bytes with their replacement, or nothing when there is
none that opens. -/
def World.RewrapsBackup (world : World) (primitives : Primitives) (credential : Credential)
    (kdf : KdfParams) : Option (HeaderBytes × HeaderBytes) → Prop
  | none => world.NoOpenBackup primitives credential
  | some (former, renewed) => world.stored .backup = .ok former ∧
      Rewraps primitives credential kdf former renewed

namespace Protocol

open Session

variable {environment : Environment} {world : World} {credential : Credential} {kdf : KdfParams}

/-! ### Quiet steps -/

theorem quiet_rewrap (credential : Credential) (header : VolumeHeader) (kdf : KdfParams) :
    Within World.Quiet (rewrap credential header kdf) := by
  refine (quiet_draw _).bind fun salt => (quiet_sealFor _ _).bind fun bytes =>
    (quiet_unlock _ _).bind fun reopened => .ite (fun _ => ?_) (fun _ => ?_)
  · exact within_throw _
  · exact within_pure _

theorem quiet_rewrapBackup (credential : Credential) (kdf : KdfParams) :
    Within World.Quiet (rewrapBackup credential kdf) := by
  refine within_hasBackupSlot.bind fun there => .ite (fun _ => ?_) (fun _ => within_pure _)
  refine (quiet_readHeader _).bind fun bytes => (quiet_unlockOrWarn _ _ _).bind fun header => ?_
  split
  · exact within_pure _
  · exact (quiet_rewrap _ _ _).bind fun _ => within_pure _

theorem quiet_remount (credential : Credential) : Within World.Quiet (remount credential) := by
  refine (quiet_mount _).attempt.bind ?_
  intro result
  split
  · exact within_pure _
  · exact (quiet_tell _).bind fun _ => within_pure _

/-! ### What new headers carry -/

/-- A rewrapped header was opened and is the old one under a fresh salt. -/
theorem rewrap_result (header : VolumeHeader) :
    (rewrap credential header kdf).Ends environment world fun result _ =>
      ∀ bytes, result = .ok bytes → ∃ salt,
        openHeader environment.primitives credential bytes = .ok (header.rewrapped kdf salt) := by
  refine .bind_any (fun _ _ _ ok => nomatch ok) ?_
  intro salt drawn
  refine .bind_any (fun _ _ _ ok => nomatch ok) ?_
  intro bytes sealed
  refine .bind_yields (unlock_ends bytes) ?_
  rintro reopened after ⟨-, opened⟩
  dsimp only
  split
  · intro _ ok
    cases ok
  · next same =>
    rintro _ ⟨⟩
    exact ⟨salt, by rw [← opened, Decidable.of_not_not same]⟩

/-- The embedded copy is found if there is a slot for it. On a device that reads what is stored it is
rewrapped with what it carries, or there is none that opens. -/
theorem rewrapBackup_result {start : World} (since : start.Quiet world) :
    (rewrapBackup credential kdf).Ends environment world fun result _ =>
      ∀ embedded, result = .ok embedded → start.FindsBackup embedded ∧
        (environment.device.ReadsStored start.history →
          start.RewrapsBackup environment.primitives credential kdf embedded) := by
  refine ends_hasBackupSlot_bind ?_
  split
  · refine .bind_yields (readHeader_finds since) ?_
    rintro bytes read ⟨-, finds⟩
    obtain ⟨stored, held, same⟩ := finds bytes rfl
    refine .bind_yields (unlockOrWarn_ends bytes _) ?_
    rintro header opened ⟨-, opensOld, fails⟩
    cases header with
    | none =>
        rintro _ ⟨⟩
        obtain ⟨error, fails⟩ := fails rfl
        refine ⟨.inr ⟨stored, held⟩, fun readsStored => .inr ⟨bytes, error, ?_, fails⟩⟩
        rw [same readsStored, held]
    | some old =>
        refine .bind_yields (rewrap_result old) ?_
        rintro renewed after opens _ ⟨⟩
        obtain ⟨salt, opens⟩ := opens renewed rfl
        refine ⟨.inr ⟨stored, held⟩, fun readsStored => ⟨?_, old, salt, opensOld old rfl, opens⟩⟩
        rw [same readsStored, held]
  · next missing =>
    rintro _ ⟨⟩
    have missing : start.hasBackupSlot = false := by
      rw [← since.hasBackupSlot]
      simpa using missing
    exact ⟨.inl ⟨missing, rfl⟩, fun _ => .inl missing⟩

/-! ### The commits -/

/-- Commits new headers to the slots, the embedded copy last. -/
def commitBoth (former renewed : HeaderBytes) (embedded : Option (HeaderBytes × HeaderBytes)) :
    Session Unit := do
  commit .primary former renewed
  if let some (formerBackup, renewedBackup) := embedded then
    commitBackup former formerBackup renewedBackup

/-- Before the commits nothing is written, and both new headers are made from what was read. -/
theorem rewrapAll_proceeds {start : World} {post : Except Error Unit → World → Prop}
    (since : start.Quiet world) {former : HeaderBytes} {header : VolumeHeader}
    (opens : openHeader environment.primitives credential former = .ok header)
    (fail : ∀ error after, start.Quiet after → post (.error error) after)
    (commits : ∀ ready renewed embedded, start.Quiet ready →
      Rewraps environment.primitives credential kdf former renewed → start.FindsBackup embedded →
        (environment.device.ReadsStored start.history →
          start.RewrapsBackup environment.primitives credential kdf embedded) →
          (commitBoth former renewed embedded).Ends environment ready post) :
    (rewrapAll credential header former kdf).Ends environment world post := by
  refine .bind_quiet since (quiet_ask _) fail ?_
  intro _ asked since
  refine .bind ((((quiet_rewrap _ _ _).ends _ _).and (rewrap_result header)).mono ?_)
  rintro (error | renewed) made ⟨quiet, reopens⟩
  · exact fail error made (Change.trans since quiet)
  have since := Change.trans since quiet
  refine .bind ((((quiet_rewrapBackup _ _).ends _ _).and (rewrapBackup_result since)).mono ?_)
  rintro (error | embedded) ready ⟨quiet, found⟩
  · exact fail error ready (Change.trans since quiet)
  obtain ⟨salt, reopens⟩ := reopens renewed rfl
  obtain ⟨found, rewraps⟩ := found embedded rfl
  exact commits ready renewed embedded (Change.trans since quiet) ⟨header, salt, opens, reopens⟩
    found rewraps

/-- On a device that reads what is stored both new headers are made from that. -/
theorem rewrapAll_follows {start : World} {post : Except Error Unit → World → Prop}
    (readsStored : environment.device.ReadsStored start.history) (since : start.Quiet world)
    {former : HeaderBytes} {header : VolumeHeader}
    (opens : openHeader environment.primitives credential former = .ok header)
    (fail : ∀ error after, start.Quiet after → post (.error error) after)
    (commits : ∀ ready renewed embedded, start.Quiet ready →
      Rewraps environment.primitives credential kdf former renewed →
        start.RewrapsBackup environment.primitives credential kdf embedded →
          (commitBoth former renewed embedded).Ends environment ready post) :
    (rewrapAll credential header former kdf).Ends environment world post :=
  rewrapAll_proceeds since opens fail fun ready renewed embedded since carries _ rewraps =>
    commits ready renewed embedded since carries (rewraps readsStored)

/-! ### After the commits -/

/-- In the course of these events since `start` the primary header was read and a credential was
gathered, and the credential opens the header. -/
structure Opened (environment : Environment) (start : World) (credential : Credential)
    (former : HeaderBytes) (header : VolumeHeader) (events : History) : Prop where
  gathered : Gathered environment start credential events
  read : .read .primary (.ok former) ∈ events
  opens : openHeader environment.primitives credential former = .ok header

/-- What an upgrade does once the header is opened. -/
def upgradeOpened (credential : Credential) (header : VolumeHeader) (former : HeaderBytes)
    (recommended : KdfParams) : Session UpgradeOutcome := do
  let wasMounted ← Session.isMounted
  if wasMounted then
    Session.dismount
  let result ← Session.attempt (rewrapAll credential header former recommended)
  let remounted ← if wasMounted then remount credential else pure none
  Session.ofExcept result
  Session.tell (.info s!"Header key derivation upgraded to {recommended.display}.")
  return .upgraded header.kdf recommended remounted

/-- Mounting a volume again does not fail. -/
theorem remount_result :
    (remount credential).Ends environment world fun result _ => ∃ target, result = .ok target := by
  rw [remount]
  refine .bind (.attempt ?_)
  unfold Ends
  rcases (mount credential).runIn environment world with ⟨error | target, after⟩
  · exact ⟨none, rfl⟩
  · exact ⟨some target, rfl⟩

/-- An upgrade reports what became of the commits, and changes nothing after them. -/
def UpgradeReports (before recommended : KdfParams) (rewrapped : Except Error Unit → World → Prop)
    (result : Except Error UpgradeOutcome) (after : World) : Prop :=
  ∃ outcome middle, rewrapped outcome middle ∧ middle.Quiet after ∧
    match outcome with
    | .ok () => ∃ remounted, result = .ok (.upgraded before recommended remounted)
    | .error error => result = .error error

/-- Whatever quiet steps follow the commits, what is reported of them ends an upgrade as `post` says. -/
def ReportedAs (post : Except Error UpgradeOutcome → World → Prop) (before recommended : KdfParams) :
    Except Error Unit → World → Prop
  | .ok (), rewrapped => ∀ after, rewrapped.Quiet after →
      ∀ remounted, post (.ok (.upgraded before recommended remounted)) after
  | .error error, rewrapped => ∀ after, rewrapped.Quiet after → post (.error error) after

theorem UpgradeReports.ends {post : Except Error UpgradeOutcome → World → Prop}
    {before recommended : KdfParams} {result : Except Error UpgradeOutcome} {after : World}
    (reports : UpgradeReports before recommended (ReportedAs post before recommended) result after) :
    post result after := by
  obtain ⟨outcome, rewrapped, ends, still, reported⟩ := reports
  cases outcome with
  | error error =>
      rw [reported]
      exact ends after still
  | ok value =>
      obtain ⟨remounted, rfl⟩ := reported
      exact ends after still remounted

/-- However a volume is mounted again, what is reported is what became of the commits. -/
theorem reports_ends {rewrapping : Session Unit} {mounting : Session (Option String)}
    {before recommended : KdfParams} {rewrapped : Except Error Unit → World → Prop}
    (rewraps : rewrapping.Ends environment world rewrapped)
    (quiet : Within World.Quiet mounting)
    (mounts : ∀ world, mounting.Ends environment world fun result _ =>
      ∃ target, result = .ok target) (notice : Notice) :
    (do
      let result ← attempt rewrapping
      let remounted ← mounting
      Session.ofExcept result
      tell notice
      return UpgradeOutcome.upgraded before recommended remounted).Ends environment world
        (UpgradeReports before recommended rewrapped) := by
  refine .bind (.attempt (rewraps.mono ?_))
  intro outcome middle ends
  refine .bind (((quiet.ends _ _).and (mounts _)).mono ?_)
  rintro _ finished ⟨still, target, rfl⟩
  cases outcome with
  | error error => exact ⟨_, middle, ends, still, rfl⟩
  | ok value =>
      have still := Change.trans still (quiet_tell notice environment finished)
      exact ⟨_, middle, ends, still, target, rfl⟩

/-- Once the header is opened an upgrade ends quietly before anything is rewrapped, or as rewrapping
does. Mounting again and telling change nothing about that. -/
theorem upgradeOpened_follows {start : World} {header : VolumeHeader} {former : HeaderBytes}
    {recommended : KdfParams} {post : Except Error UpgradeOutcome → World → Prop}
    (since : start.Quiet world)
    (fail : ∀ error after, start.Quiet after → post (.error error) after)
    (rewraps : ∀ ready, start.Quiet ready →
      (rewrapAll credential header former recommended).Ends environment ready
        (ReportedAs post header.kdf recommended)) :
    (upgradeOpened credential header former recommended).Ends environment world post := by
  refine .bind_quiet since quiet_isMounted fail ?_
  intro mounted ready since
  cases mounted with
  | false =>
      simp only [Bool.false_eq_true, ↓reduceIte]
      exact (reports_ends (rewraps _ since) (within_pure none) (fun _ => ⟨none, rfl⟩) _).mono
        fun _ _ reports => reports.ends
  | true =>
      simp only [↓reduceIte]
      refine .bind_quiet since quiet_dismount fail ?_
      intro _ _ since
      exact (reports_ends (rewraps _ since) (quiet_remount credential) (fun _ => remount_result)
        _).mono fun _ _ reports => reports.ends

/-! ### The whole of an upgrade -/

/-- When the operator agrees and gives a credential, and that opens what was read, it was gathered
since the start. Up to there nothing but asking and work is done. -/
theorem confirmAndUnlock_follows {α : Type} {start : World} {former : HeaderBytes}
    {next : Credential → VolumeHeader → Session α} {post : Except Error α → World → Prop}
    (since : start.Idle [.asked, .told, .read] world)
    (fail : ∀ error after, start.Idle [.asked, .told, .read] after → post (.error error) after)
    (opened : ∀ credential header ready, start.Idle [.asked, .told, .read] ready →
      world.Quiet ready → start.Since (Gathered environment start credential) ready →
        openHeader environment.primitives credential former = .ok header →
          (next credential header).Ends environment ready post) (message text : String) :
    (do
      requireConfirmation message true false
      let credential ← askCredential text
      let header ← unlock credential former
      next credential header).Ends environment world post := by
  have confirming : Within (World.Idle [.asked, .told, .read])
      (requireConfirmation message true false) :=
    idle_requireConfirmation (by decide) (by decide) _ _ _
  have asking : Within (World.Idle [.asked, .told, .read]) (askCredential text) :=
    idle_askCredential (by decide) (by decide) _
  have unlocking : ∀ credential,
      Within (World.Idle [.asked, .told, .read]) (unlock credential former) :=
    fun _ => idle_unlock _ _
  refine .bind ((confirming.ends _ _).mono ?_)
  rintro (error | ⟨⟩) confirmed agreed
  · exact fail error confirmed (Change.trans since agreed)
  have since := Change.trans since agreed
  refine .bind (((asking.ends _ _).and (askCredential_gathers since.quiet text)).mono ?_)
  rintro (error | credential) asked ⟨answered, -, gathers⟩
  · exact fail error asked (Change.trans since answered)
  have since := Change.trans since answered
  refine .bind ((((unlocking credential).ends _ _).and (unlock_ends former)).mono ?_)
  rintro (error | header) ready ⟨worked, -, opens⟩
  · exact fail error ready (Change.trans since worked)
  have gathered := (gathers credential rfl).quiet (fun later _ earlier => earlier.append later)
    worked.quiet
  have quiet : world.Quiet ready := Change.trans agreed.quiet (Change.trans answered.quiet worked.quiet)
  exact opened credential header ready (Change.trans since worked) quiet gathered opens.symm

/-- Everything up to the point where the header is opened leaves the slots alone, and neither mounts
nor dismounts. The header was read of the primary slot, and a credential was gathered that opens it. -/
theorem upgrade_opens {recommended : KdfParams} {post : Except Error UpgradeOutcome → World → Prop}
    (fail : ∀ error after, world.Idle [.asked, .told, .read] after → post (.error error) after)
    (notNeeded : ∀ current after, world.Idle [.asked, .told, .read] after →
      post (.ok (.notNeeded current)) after)
    (opened : ∀ credential former header stored ready, world.Idle [.asked, .told, .read] ready →
      world.stored .primary = .ok stored →
        (environment.device.ReadsStored world.history → former = stored) →
          world.Since (Opened environment world credential former header) ready →
            (upgradeOpened credential header former recommended).Ends environment ready post) :
    (upgrade recommended).Ends environment world post := by
  have reading : Within (World.Idle [.asked, .told, .read]) (readHeader .primary) :=
    idle_readHeader (by decide) _
  refine .bind (((reading.ends _ _).and
    ((readHeader_reads _).and (readHeader_finds (Change.refl world)))).mono ?_)
  rintro (error | former) read ⟨since, ⟨same, -⟩, -, finds⟩
  · exact fail error read since
  obtain ⟨stored, held, sameStored⟩ := finds former rfl
  have reads : world.Since (fun events => .read .primary (.ok former) ∈ events) read :=
    ⟨[_], congrArg World.history same, List.mem_cons_self⟩
  refine .bind (ends_ofExcept ?_)
  cases parsed : Cleartext.parse former.toList with
  | error error => exact fail error read since
  | ok cleartext =>
  dsimp only
  split
  · exact .bind_within since (idle_tell (by decide) rfl) fail fun _ => notNeeded _
  refine confirmAndUnlock_follows since fail ?_ _ _
  intro credential header ready since sinceRead gathered opens
  have reads := reads.quiet (fun later _ earlier => List.mem_append_right later earlier) sinceRead
  have kdf : header.kdf = cleartext.kdf :=
    congrArg Cleartext.kdf (Except.ok.inj ((parse_of_openHeader opens).symm.trans parsed))
  rw [← kdf]
  refine opened credential former header stored ready since held sameStored ?_
  exact (gathered.and reads).mono fun _ both => ⟨both.1, both.2, opens⟩

/-- An upgrade ends quietly before anything is rewrapped, or as rewrapping does. The header that is
rewrapped is what was read of the primary slot. -/
theorem upgrade_proceeds {recommended : KdfParams}
    {post : Except Error UpgradeOutcome → World → Prop}
    (fail : ∀ error after, world.Quiet after → post (.error error) after)
    (notNeeded : ∀ current after, world.Quiet after → post (.ok (.notNeeded current)) after)
    (rewraps : ∀ credential former header stored ready, environment.Gives credential →
      world.stored .primary = .ok stored →
        (environment.device.ReadsStored world.history → former = stored) →
          openHeader environment.primitives credential former = .ok header → world.Quiet ready →
            (rewrapAll credential header former recommended).Ends environment ready
              (ReportedAs post header.kdf recommended)) :
    (upgrade recommended).Ends environment world post := by
  refine upgrade_opens (fun _ _ idle => fail _ _ idle.quiet) (fun _ _ idle => notNeeded _ _ idle.quiet) ?_
  rintro credential former header stored ready since held same ⟨events, -, opened⟩
  exact upgradeOpened_follows since.quiet fail fun ready =>
    rewraps credential former header stored ready opened.gathered.gives held same opened.opens

/-- On a device that reads what is stored the header that is rewrapped is what the primary slot
holds. -/
theorem upgrade_follows {recommended : KdfParams} {post : Except Error UpgradeOutcome → World → Prop}
    (readsStored : environment.device.ReadsStored world.history)
    (fail : ∀ error after, world.Quiet after → post (.error error) after)
    (notNeeded : ∀ current after, world.Quiet after → post (.ok (.notNeeded current)) after)
    (rewraps : ∀ credential former header ready, environment.Gives credential →
      world.stored .primary = .ok former →
        openHeader environment.primitives credential former = .ok header → world.Quiet ready →
          (rewrapAll credential header former recommended).Ends environment ready
            (ReportedAs post header.kdf recommended)) :
    (upgrade recommended).Ends environment world post := by
  refine upgrade_proceeds fail notNeeded ?_
  intro credential former header stored ready gives held same opens since
  obtain rfl := same readsStored
  exact rewraps credential former header ready gives held opens since

end Protocol

end HeaderVault
