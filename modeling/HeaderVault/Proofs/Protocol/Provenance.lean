import HeaderVault.Proofs.Protocol.Backup
import HeaderVault.Proofs.Protocol.Preparation
import HeaderVault.Proofs.Protocol.Restore
import HeaderVault.Protocol.Format

/-!
Where written headers come from.

A header may be written for one of two reasons (`Proven`): it opens with the credential that was
gathered in the run, or it was read from the same slot before, and the write puts it back. Every
step of a protocol keeps to that as long as it did so before (`Vouched`), whatever the device, the
operator and the source of random bytes do. So does every run of a protocol, and the headers that a
backup saves open as well (`only_proven_headers_are_written`).
-/

namespace HeaderVault.Protocol

open Session

/-- After these events since `start` the header may be written to the slot: it opens with a
credential that was gathered, or was read from that slot. -/
def Proven (environment : Environment) (start : World) (credential : Credential)
    (earlier : History) (slot : HeaderSlot) (bytes : HeaderBytes) : Prop :=
  (Gathered environment start credential earlier ∧
    ∃ header, openHeader environment.primitives credential bytes = .ok header) ∨
  .read slot (.ok bytes) ∈ earlier

/-- Every header that was to be written was proven before. -/
inductive WritesProven (environment : Environment) (start : World) (credential : Credential) :
    History → Prop
  | start : WritesProven environment start credential []
  | other {event : Event} {earlier : History} (noWrite : ¬event.IsWrite)
      (before : WritesProven environment start credential earlier) :
      WritesProven environment start credential (event :: earlier)
  | write {slot : HeaderSlot} {bytes : HeaderBytes} {kept : Option HeaderBytes}
      {result : Except Error Unit} {earlier : History}
      (proven : Proven environment start credential earlier slot bytes)
      (before : WritesProven environment start credential earlier) :
      WritesProven environment start credential (.wrote slot bytes kept result :: earlier)

/-- A run since `start` that has gathered a credential, and has written proven headers only. -/
def Vouched (environment : Environment) (start : World) (credential : Credential)
    (world : World) : Prop :=
  start.Since (fun events => Gathered environment start credential events ∧
    WritesProven environment start credential events) world

/-- A header that may be written as things are. -/
def MayWrite (environment : Environment) (start : World) (credential : Credential) (world : World)
    (slot : HeaderSlot) (bytes : HeaderBytes) : Prop :=
  start.Since (fun events => Proven environment start credential events slot bytes) world

/-- Each header that was to be written since `start` was proven by what had happened before, with the
same credential for all of them. -/
def WroteProven (environment : Environment) (start after : World) : Prop :=
  ∃ credential recent, after.history = recent ++ start.history ∧
    ∀ later slot bytes kept result earlier,
      recent = later ++ .wrote slot bytes kept result :: earlier →
        Proven environment start credential earlier slot bytes

/-- The contents are saved headers, and a credential that was gathered since `start` opens them. -/
def HoldsProven (environment : Environment) (start after : World) (content : Bytes) : Prop :=
  ∃ credential, start.Since (Gathered environment start credential) after ∧
    ∃ saved : HeaderBackup, content = saved.encode ∧
      ∀ bytes ∈ saved.headers, ∃ header,
        openHeader environment.primitives credential bytes = .ok header

/-- No header was to be written since `start`, and what is new in a file are headers that open, or what
the disk has left of them. The file that is reported has the headers in full. -/
structure SavedProven (environment : Environment) (start : World) (result : Except Error Path)
    (after : World) : Prop where
  writes : start.WritesOnly (fun _ _ => False) after
  files : ∀ location content, after.files.get? location = some (.file content) →
    start.files.get? location = some (.file content) ∨ ∃ data,
      HoldsProven environment start after data ∧
        (content = data ∨ Disk.Leaves environment.disk location data content)
  saved : ∀ path, result = .ok path → ∃ content,
    after.files.get? (path.location start.files.working) = some (.file content) ∧
      HoldsProven environment start after content

section

variable {environment : Environment} {start world after : World} {credential : Credential}
variable {slot : HeaderSlot} {former bytes : HeaderBytes}

/-! ### Proven headers -/

theorem Proven.append {earlier : History}
    (proven : Proven environment start credential earlier slot bytes) (later : History) :
    Proven environment start credential (later ++ earlier) slot bytes := by
  rcases proven with ⟨gathered, opens⟩ | found
  · exact .inl ⟨gathered.append later, opens⟩
  · exact .inr (List.mem_append_right later found)

theorem WritesProven.append {earlier later : History}
    (before : WritesProven environment start credential earlier)
    (proven : ∀ slot bytes kept result, .wrote slot bytes kept result ∈ later →
      Proven environment start credential earlier slot bytes) :
    WritesProven environment start credential (later ++ earlier) := by
  induction later with
  | nil => exact before
  | cons event later ih =>
      have before := ih fun slot bytes kept result occurs =>
        proven slot bytes kept result (List.mem_cons_of_mem event occurs)
      cases event with
      | wrote slot bytes kept result =>
          -- A header that was proven before the other events of `later` still is after them.
          exact .write ((proven slot bytes kept result List.mem_cons_self).append later) before
      | _ => exact .other id before

/-- Each write comes after what proves its header. -/
theorem WritesProven.of_append {recent : History}
    (proven : WritesProven environment start credential recent) {later earlier : History}
    {kept : Option HeaderBytes} {result : Except Error Unit}
    (split : recent = later ++ .wrote slot bytes kept result :: earlier) :
    Proven environment start credential earlier slot bytes := by
  -- The write is the newest event, or it is found among the events before the newest one.
  induction proven generalizing later with
  | start => simp at split
  | @other event _ noWrite _ ih =>
      cases later with
      | nil =>
          obtain ⟨rfl, -⟩ := List.cons.inj split
          exact absurd trivial noWrite
      | cons _ later => exact ih (List.cons.inj split).2
  | write written _ ih =>
      cases later with
      | nil =>
          obtain ⟨same, rfl⟩ := List.cons.inj split
          cases same
          exact written
      | cons _ later => exact ih (List.cons.inj split).2

theorem MayWrite.later (may : MayWrite environment start credential world slot bytes)
    {allowed : HeaderSlot → HeaderBytes → Prop} (goesOn : world.WritesOnly allowed after) :
    MayWrite environment start credential after slot bytes :=
  World.Since.later may (fun later _ proven => proven.append later) goesOn

theorem MayWrite.quiet (may : MayWrite environment start credential world slot bytes)
    (quiet : world.Quiet after) : MayWrite environment start credential after slot bytes :=
  may.later (quiet.writesOnly fun _ _ => False)

/-- A header that was read may be put back, whatever credential is gathered. -/
theorem readHeader_mayWrite (run : start.Since (fun _ => True) world) (slot : HeaderSlot) :
    (readHeader slot).Ends environment world fun result after => world.Quiet after ∧
      ∀ bytes, result = .ok bytes → ∀ credential,
        MayWrite environment start credential after slot bytes := by
  refine (readHeader_reads slot).mono ?_
  rintro result _ ⟨rfl, -⟩
  refine ⟨.record id, ?_⟩
  rintro bytes rfl credential
  obtain ⟨events, history, -⟩ := run
  exact ⟨.read slot (.ok bytes) :: events, congrArg _ history, .inr List.mem_cons_self⟩

namespace Vouched

/-- A header that opens may be written. -/
theorem mayWrite (vouched : Vouched environment start credential world) (slot : HeaderSlot)
    (opens : ∃ header, openHeader environment.primitives credential bytes = .ok header) :
    MayWrite environment start credential world slot bytes :=
  World.Since.mono vouched fun _ both => .inl ⟨both.1, opens⟩

theorem run (vouched : Vouched environment start credential world) :
    start.Since (fun _ => True) world :=
  World.Since.mono vouched fun _ _ => trivial

/-- Whatever a step writes, if it may, it is vouched for. -/
theorem step (vouched : Vouched environment start credential world)
    (writes : world.WritesOnly (MayWrite environment start credential world) after) :
    Vouched environment start credential after := by
  obtain ⟨events, history, gathered, proven⟩ := vouched
  obtain ⟨later, historyAfter, allowed⟩ := writes
  refine ⟨later ++ events, ?_, gathered.append later, proven.append ?_⟩
  · rw [historyAfter, history, List.append_assoc]
  · intro slot bytes kept result occurs
    -- Both speak of the events since `start`, and these are determined by the history.
    obtain ⟨same, historySame, may⟩ := allowed slot bytes kept result occurs
    obtain rfl := List.append_cancel_right (historySame.symm.trans history)
    exact may

theorem quiet (vouched : Vouched environment start credential world) (quiet : world.Quiet after) :
    Vouched environment start credential after :=
  vouched.step (quiet.writesOnly _)

end Vouched

/-- With a credential gathered and nothing written so far, a run is vouched for. -/
theorem vouched_of_quiet (gathered : start.Since (Gathered environment start credential) world)
    (since : start.Quiet world) : Vouched environment start credential world := by
  obtain ⟨events, history, noWrite⟩ := since.history
  have nothing : WritesProven environment start credential (events ++ []) :=
    WritesProven.start.append fun slot bytes kept result occurs =>
      absurd trivial (noWrite (.wrote slot bytes kept result) occurs)
  rw [List.append_nil] at nothing
  exact gathered.and ⟨events, history, nothing⟩

/-! ### Commits -/

variable {allowed : HeaderSlot → HeaderBytes → Prop}

theorem writesOnly_rollback (putBack : allowed slot former) :
    Within (World.WritesOnly allowed) (rollback slot former) :=
  (writesOnly_writeHeader putBack).attempt.bind fun _ => within_pure _

theorem writesOnly_commit (putBack : allowed slot former) (permitted : allowed slot bytes) :
    Within (World.WritesOnly allowed) (commit slot former bytes) := by
  refine Within.bind (.attempt ((writesOnly_writeHeader permitted).bind fun _ =>
    (quiet_readHeader _).writesOnly.bind fun _ => .ite (fun _ => ?_) (fun _ => ?_))) ?_
  · exact within_throw _
  · exact within_pure _
  · intro result
    split
    · exact within_pure _
    · exact (writesOnly_rollback putBack).bind fun _ => within_throw _

theorem writesOnly_commitBackup {formerPrimary : HeaderBytes}
    (putBackPrimary : allowed .primary formerPrimary) (putBack : allowed .backup former)
    (permitted : allowed .backup bytes) :
    Within (World.WritesOnly allowed) (commitBackup formerPrimary former bytes) := by
  refine (writesOnly_commit putBack permitted).attempt.bind ?_
  intro result
  split
  · exact within_pure _
  · exact (writesOnly_rollback putBackPrimary).bind fun _ => within_throw _

/-! ### Formatting -/

theorem Vouched.install (vouched : Vouched environment start credential world)
    (header : VolumeHeader) :
    (install credential slot header).Ends environment world fun _ after =>
      Vouched environment start credential after := by
  refine .bind ((readHeader_mayWrite vouched.run slot).mono ?_)
  rintro (error | former) read ⟨reading, found⟩
  · exact vouched.quiet reading
  refine .bind ((sealFor_ends header).mono ?_)
  rintro (error | bytes) ready ⟨sealing, made⟩
  · exact vouched.quiet (Change.trans reading sealing)
  obtain ⟨key, derived, rfl⟩ := made bytes rfl
  have vouched := vouched.quiet (Change.trans reading sealing)
  have putBack := (found former rfl credential).quiet sealing
  have permitted := vouched.mayWrite slot ⟨header, openHeader_sealWith derived⟩
  exact ((writesOnly_commit putBack permitted).ends _ _).mono fun _ _ => vouched.step

theorem Vouched.wroteProven (vouched : Vouched environment start credential after) :
    WroteProven environment start after := by
  obtain ⟨events, history, -, proven⟩ := vouched
  exact ⟨credential, events, history, fun _ _ _ _ _ _ split => proven.of_append split⟩

theorem wroteProven_of_quiet (quiet : start.Quiet after) : WroteProven environment start after := by
  obtain ⟨events, history, noWrite⟩ := quiet.history
  refine ⟨⟨[], []⟩, events, history, ?_⟩
  rintro later slot bytes kept result earlier rfl
  exact absurd trivial (noWrite (.wrote slot bytes kept result) (by simp))

theorem format_wroteProven (kdf : KdfParams) (dataSize : UInt64) :
    (format kdf dataSize).Ends environment world fun _ after =>
      WroteProven environment world after := by
  refine .bind ((askCredential_gathers (Change.refl world) _).mono ?_)
  rintro (error | credential) asked ⟨since, gathers⟩
  · exact wroteProven_of_quiet since
  have vouched := vouched_of_quiet (gathers credential rfl) since
  have stopped : ∀ (error : Error) after, asked.Quiet after → WroteProven environment world after :=
    fun _ _ now => (vouched.quiet now).wroteProven
  refine .bind_quiet (Change.refl asked) (quiet_ask _) stopped ?_
  intro _ _ since
  refine .bind_quiet since (quiet_draw _) stopped ?_
  intro keyArea _ since
  refine .bind_quiet since (quiet_draw _) stopped ?_
  intro salt ready since
  have vouched := vouched.quiet since
  refine .bind ((vouched.install _).mono ?_)
  rintro (error | ⟨⟩) installed vouched
  · exact vouched.wroteProven
  have told : ∀ settled, Vouched environment world credential settled →
      (tell (.info s!"Volume headers created ({kdf.display})")).Ends environment settled
        fun _ after => WroteProven environment world after :=
    fun settled vouched => (vouched.quiet (.record id)).wroteProven
  refine ends_hasBackupSlot_bind ?_
  split
  · refine .bind_quiet (Change.refl installed) (quiet_draw _)
      (fun _ _ now => (vouched.quiet now).wroteProven) ?_
    intro fresh drawn since
    refine .bind (((vouched.quiet since).install _).mono ?_)
    rintro (error | ⟨⟩) settled vouched
    · exact vouched.wroteProven
    · exact told settled vouched
  · exact told installed vouched

/-! ### Restoring -/

/-- The embedded copy is renewed after it was read. -/
theorem Vouched.renewBackup {finish : Unit → Session RestoreSource}
    (vouched : Vouched environment start credential world)
    (putBack : MayWrite environment start credential world .primary former)
    (opens : ∃ header, openHeader environment.primitives credential bytes = .ok header)
    (finishes : ∀ settled, Vouched environment start credential settled →
      (finish ()).Ends environment settled fun _ after => WroteProven environment start after) :
    (readHeader .backup >>= fun formerBackup =>
      commitBackup former formerBackup bytes >>= finish).Ends environment world
        fun _ after => WroteProven environment start after := by
  refine .bind ((readHeader_mayWrite vouched.run .backup).mono ?_)
  rintro (error | formerBackup) read ⟨reading, found⟩
  · exact (vouched.quiet reading).wroteProven
  have vouched := vouched.quiet reading
  have putBack := putBack.quiet reading
  have commits := writesOnly_commitBackup putBack (found formerBackup rfl credential)
    (vouched.mayWrite .backup opens)
  refine .bind ((commits.ends _ _).mono ?_)
  rintro (error | ⟨⟩) settled writes
  · exact (vouched.step writes).wroteProven
  · exact finishes settled (vouched.step writes)

theorem restore_wroteProven :
    restore.Ends environment world fun _ after => WroteProven environment world after := by
  refine .bind ((quiet_findCandidate.ends _ _).mono ?_)
  rintro (error | candidate) searched since
  · exact wroteProven_of_quiet since
  refine .bind ((askCredential_gathers since _).mono ?_)
  rintro (error | credential) asked ⟨since, gathers⟩
  · exact wroteProven_of_quiet since
  have vouched := vouched_of_quiet (gathers credential rfl) since
  have stopped : ∀ (error : Error) after, asked.Quiet after → WroteProven environment world after :=
    fun _ _ now => (vouched.quiet now).wroteProven
  refine .bind ((unlock_ends candidate.primary).mono ?_)
  rintro (error | header) opened ⟨since, opens⟩
  · exact stopped error opened since
  refine .bind ((((quiet_soundExtra _ _).ends _ _).and (soundExtra_result _)).mono ?_)
  rintro (error | extra) sound ⟨quiet, second⟩
  · exact stopped error sound (Change.trans since quiet)
  refine .bind_quiet (Change.trans since quiet) (quiet_requireConfirmation _ _ _) stopped ?_
  intro _ agreed since
  refine .bind ((readHeader_mayWrite (vouched.quiet since).run .primary).mono ?_)
  rintro (error | former) ready ⟨quiet, found⟩
  · exact stopped error ready (Change.trans since quiet)
  have vouched := vouched.quiet (Change.trans since quiet)
  have putBack := found former rfl credential
  have permitted := vouched.mayWrite .primary ⟨header, opens.symm⟩
  refine .bind (((writesOnly_commit putBack permitted).ends _ _).mono ?_)
  rintro (error | ⟨⟩) committed writes
  · exact (vouched.step writes).wroteProven
  have told : ∀ settled, Vouched environment world credential settled →
      (do
        tell (.info "Volume header restored.")
        return candidate.source).Ends environment settled
          fun _ after => WroteProven environment world after :=
    fun settled vouched => (vouched.quiet (.record id)).wroteProven
  cases extra with
  | none => exact told committed (vouched.step writes)
  | some bytes =>
      exact (vouched.step writes).renewBackup (putBack.later writes) (second _ rfl bytes rfl).2 told

/-! ### Upgrading -/

theorem writesOnly_commitBoth {renewed : HeaderBytes} {embedded : Option (HeaderBytes × HeaderBytes)}
    (putBack : allowed .primary former) (permitted : allowed .primary renewed)
    (both : ∀ pair, embedded = some pair → allowed .backup pair.1 ∧ allowed .backup pair.2) :
    Within (World.WritesOnly allowed) (commitBoth former renewed embedded) := by
  refine (writesOnly_commit putBack permitted).bind fun _ => ?_
  cases embedded with
  | none => exact within_pure _
  | some pair =>
      obtain ⟨putBackBackup, permittedBackup⟩ := both pair rfl
      exact writesOnly_commitBackup putBack putBackBackup permittedBackup

/-- What is made for the embedded copy was read from its slot, and its replacement opens. -/
theorem Vouched.rewrapBackup {kdf : KdfParams} (vouched : Vouched environment start credential world) :
    (rewrapBackup credential kdf).Ends environment world fun result after => world.Quiet after ∧
      ∀ embedded, result = .ok embedded → ∀ pair, embedded = some pair →
        MayWrite environment start credential after .backup pair.1 ∧
          MayWrite environment start credential after .backup pair.2 := by
  refine ((quiet_rewrapBackup credential kdf).ends _ _).and ?_
  refine ends_hasBackupSlot_bind ?_
  split
  · refine .bind_yields (readHeader_mayWrite vouched.run .backup) ?_
    rintro bytes read ⟨reading, found⟩
    refine .bind_yields (unlockOrWarn_ends bytes _) ?_
    rintro (none | old) opened ⟨opening, -⟩
    · rintro _ ⟨⟩ _ ⟨⟩
    refine .bind_yields (((quiet_rewrap _ _ _).ends _ _).and (rewrap_result old)) ?_
    rintro renewed after ⟨wrapping, opens⟩ _ ⟨⟩ _ ⟨⟩
    have since : read.Quiet after := Change.trans opening wrapping
    obtain ⟨salt, opens⟩ := opens renewed rfl
    constructor
    · exact (found bytes rfl credential).quiet since
    · exact (vouched.quiet (Change.trans reading since)).mayWrite .backup ⟨_, opens⟩
  · rintro _ ⟨⟩ _ ⟨⟩

theorem Vouched.rewrapAll {kdf : KdfParams} (vouched : Vouched environment start credential world)
    (putBack : MayWrite environment start credential world .primary former)
    (header : VolumeHeader) :
    (rewrapAll credential header former kdf).Ends environment world fun _ after =>
      Vouched environment start credential after := by
  refine .bind (((quiet_ask _).ends _ _).mono ?_)
  rintro (error | ⟨⟩) asked first
  · exact vouched.quiet first
  refine .bind ((((quiet_rewrap _ _ _).ends _ _).and (rewrap_result header)).mono ?_)
  rintro (error | renewed) made ⟨second, opens⟩
  · exact vouched.quiet (Change.trans first second)
  have since : world.Quiet made := Change.trans first second
  obtain ⟨salt, opens⟩ := opens renewed rfl
  have permitted := (vouched.quiet since).mayWrite .primary ⟨_, opens⟩
  refine .bind ((vouched.quiet since).rewrapBackup.mono ?_)
  rintro (error | embedded) ready ⟨quiet, both⟩
  · exact vouched.quiet (Change.trans since quiet)
  have since : world.Quiet ready := Change.trans since quiet
  have commits : Within _ (commitBoth former renewed embedded) := writesOnly_commitBoth
    (putBack.quiet since)
    (permitted.quiet quiet) (both embedded rfl)
  exact (commits.ends _ _).mono fun _ _ => (vouched.quiet since).step

theorem upgrade_wroteProven (recommended : KdfParams) :
    (upgrade recommended).Ends environment world fun _ after =>
      WroteProven environment world after := by
  refine upgrade_opens (fun _ _ idle => wroteProven_of_quiet idle.quiet)
    (fun _ _ idle => wroteProven_of_quiet idle.quiet) ?_
  intro credential former header stored opening idle _ _ opened
  have vouched : Vouched environment world credential opening :=
    vouched_of_quiet (opened.mono fun _ opened => opened.gathered) idle.quiet
  -- What may be put back was read before there was a credential.
  have putBack : MayWrite environment world credential opening .primary former :=
    opened.mono fun _ opened => .inr opened.read
  refine upgradeOpened_follows (Change.refl opening)
    (fun _ _ since => (vouched.quiet since).wroteProven) ?_
  intro ready since
  refine ((vouched.quiet since).rewrapAll
    (putBack.quiet since) header).mono ?_
  rintro (error | ⟨⟩) rewrapped vouched after still
  · exact (vouched.quiet still).wroteProven
  · exact fun _ => (vouched.quiet still).wroteProven

/-! ### Backing up -/

theorem writesNothing_saveAndTell (path : Path) (saved : HeaderBackup) :
    Within (World.WritesOnly fun _ _ => False) (saveAndTell path saved) :=
  (writesNothing_saveFile path saved.encode).bind fun _ =>
    (quiet_tell _).writesOnly.bind fun _ => within_pure _

/-- However saving ends, no file holds anything new but the headers, or what the disk has left of
them. -/
theorem saveAndTell_holds (path : Path) (saved : HeaderBackup) :
    (saveAndTell path saved).Ends environment world fun _ after => ∀ location content,
      after.files.get? location = some (.file content) →
        content = saved.encode ∨ Disk.Leaves environment.disk location saved.encode content ∨
          world.files.get? location = some (.file content) := by
  refine .bind ((saveFile_holds path saved.encode).mono ?_)
  rintro (error | ⟨⟩) after
  · exact id
  · exact id

theorem backup_savedProven :
    backup.Ends environment world (SavedProven environment world) := by
  refine backup_follows ?_ ?_
  · intro error after now
    refine ⟨now.writesOnly _, ?_, fun _ ok => nomatch ok⟩
    intro location content found
    exact .inl (now.files ▸ found)
  intro path credential saved ready prepared
  refine (((writesNothing_saveAndTell path saved).ends _ _).and
    ((saveAndTell_holds path saved).and (saveAndTell_ends prepared.since path saved))).mono ?_
  intro result after ⟨writes, holdsOnly, ends⟩
  have holds : HoldsProven environment world after saved.encode :=
    ⟨credential, prepared.gathered.later (fun later _ earlier => earlier.append later) writes,
      saved, rfl, prepared.opens⟩
  refine ⟨Change.trans (prepared.since.writesOnly _) writes, ?_, ?_⟩
  · intro location content found
    rw [prepared.since.files] at holdsOnly
    rcases holdsOnly location content found with new | left | old
    · exact .inr ⟨saved.encode, holds, .inl new⟩
    · exact .inr ⟨saved.encode, holds, .inr left⟩
    · exact .inl old
  · rintro told rfl
    obtain ⟨rfl, saves⟩ := ends
    exact ⟨saved.encode, saves.files.replaced, holds⟩

end

/-! ### All protocols -/

/-- Whatever happens in a run, each header that it writes opens with the one credential that was
gathered before in this run, or puts back what was read from the same slot before in this run. The
headers that a backup saves open with the credential that was gathered. -/
theorem only_proven_headers_are_written (environment : Environment) (world : World) :
    (∀ kdf dataSize, (format kdf dataSize).Ends environment world fun _ after =>
      WroteProven environment world after) ∧
    restore.Ends environment world (fun _ after => WroteProven environment world after) ∧
    (∀ recommended, (upgrade recommended).Ends environment world fun _ after =>
      WroteProven environment world after) ∧
    backup.Ends environment world (SavedProven environment world) :=
  ⟨format_wroteProven, restore_wroteProven, upgrade_wroteProven, backup_savedProven⟩

end HeaderVault.Protocol
