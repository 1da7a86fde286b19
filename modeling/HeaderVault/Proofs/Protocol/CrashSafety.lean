import HeaderVault.Proofs.Protocol.Upgrade
import HeaderVault.Proofs.Session.CutOff

/-!
An upgrade that is cut off.

An upgrade writes a slot only while the other one holds a header that opens to the same keys
(`commitBoth_guards`), with one exception: when the embedded copy can neither be renewed nor put
back, the primary header is put back all the same. So wherever an upgrade is cut off a header is
left (`upgrade_cut_off`), except in the middle of that last write, where both can be lost
(`upgrade_can_lose_both`).
-/

namespace HeaderVault

/-- The bytes are a complete header, and a credential opens it to a key area. -/
def OpensTo (primitives : Primitives) (credential : Credential) (keyArea : Octets 256)
    (bytes : HeaderBytes) : Prop :=
  ∃ header, Protocol.openHeader primitives credential bytes = .ok header ∧ header.keyArea = keyArea

theorem OpensTo.rewraps {primitives : Primitives} {credential : Credential} {keyArea : Octets 256}
    {kdf : KdfParams} {former renewed : HeaderBytes}
    (opens : OpensTo primitives credential keyArea former)
    (rewraps : Rewraps primitives credential kdf former renewed) :
    OpensTo primitives credential keyArea renewed := by
  obtain ⟨header, opens, keys⟩ := opens
  obtain ⟨salt, reopens⟩ := rewraps.opens opens
  exact ⟨_, reopens, keys⟩

namespace Protocol

open Session

section

variable {environment : Environment} {start world : World} {slots : Slots}
variable {sound : HeaderBytes → Prop} {events : History}

/-! ### Commits -/

/-- Former bytes are put back where this is guarded. -/
theorem rollback_guards (guards : World.Guards slots sound start world events) {slot : HeaderSlot}
    {former : HeaderBytes}
    (next : ∀ kept result, slots.Guarded sound (.wrote slot former kept result :: events)) :
    (rollback slot former).Ends environment world fun _ after => ∃ kept result,
      World.Guards slots sound start after (.wrote slot former kept result :: events) := by
  refine .bind (.attempt ((guards.writeHeader next).mono ?_))
  rintro result after ⟨kept, guards⟩
  exact ends_pure ⟨kept, result, guards⟩

/-- A write that is checked leaves the other slot alone, and is guarded by it. -/
theorem writeVerified_guards (truthful : environment.device.Truthful)
    (guards : World.Guards slots sound start world events) {slot other : HeaderSlot}
    (different : other ≠ slot) (holds : sound (slots.after events other)) (bytes : HeaderBytes) :
    (writeVerified slot bytes).Ends environment world fun result after => ∃ more,
      World.Guards slots sound start after (more ++ events) ∧
        slots.after (more ++ events) other = slots.after events other ∧
          (result = .ok () → slots.after (more ++ events) slot = bytes) := by
  refine .bind ((guards.writeHeader fun kept result =>
    .write different holds bytes kept result guards.guarded).mono ?_)
  rintro (error | ⟨⟩) written ⟨kept, guards⟩
  · exact ⟨[_], guards, slots.after_wrote_other different _ _ _ _, fun ok => nomatch ok⟩
  refine .bind ((guards.readHeader truthful slot).mono ?_)
  rintro (error | found) read ⟨guards, holdsFound⟩
  · exact ⟨[_, _], guards, slots.after_wrote_other different _ _ _ _, fun ok => nomatch ok⟩
  dsimp only
  split
  · exact ends_throw ⟨[_, _], guards, slots.after_wrote_other different _ _ _ _, fun ok => nomatch ok⟩
  · next same =>
    obtain rfl := Decidable.not_not.mp same
    exact ends_pure ⟨[_, _], guards, slots.after_wrote_other different _ _ _ _,
      fun _ => holdsFound found rfl⟩

/-- A commit leaves the other slot alone, and is guarded by it. If it succeeds its bytes are stored,
and if it fails the attempt to put the former ones back comes last. -/
theorem commit_guards (truthful : environment.device.Truthful)
    (guards : World.Guards slots sound start world events) {slot other : HeaderSlot}
    (different : other ≠ slot) (holds : sound (slots.after events other)) (former bytes : HeaderBytes) :
    (commit slot former bytes).Ends environment world fun result after => ∃ more,
      World.Guards slots sound start after (more ++ events) ∧
        slots.after (more ++ events) other = slots.after events other ∧
          match result with
          | .ok () => slots.after (more ++ events) slot = bytes
          | .error _ => ∃ kept report earlier, more = .wrote slot former kept report :: earlier := by
  refine .bind (.attempt ((writeVerified_guards truthful guards different holds bytes).mono ?_))
  rintro (error | ⟨⟩) written ⟨more, guards, same, stored⟩
  · have next := fun kept result => Slots.Guarded.write different (by rwa [same]) former kept result
      guards.guarded
    refine .bind ((rollback_guards guards next).mono ?_)
    rintro (_ | ⟨⟩) after ⟨kept, result, guards⟩ <;>
    exact ⟨.wrote slot former kept result :: more, guards,
      (slots.after_wrote_other different _ _ _ _).trans same, kept, result, more, rfl⟩
  · exact ends_pure ⟨more, guards, same, stored rfl⟩

/-- When the embedded copy cannot be renewed, the primary header is put back whatever became of the
former embedded copy. -/
theorem commitBackup_guards (truthful : environment.device.Truthful)
    (guards : World.Guards slots sound start world events)
    (holds : sound (slots.after events .primary)) (former : ∀ slot, sound (slots slot))
    (bytes : HeaderBytes) :
    (commitBackup (slots .primary) (slots .backup) bytes).Ends environment world fun _ after =>
      ∃ more, World.Guards slots sound start after (more ++ events) := by
  refine .bind (.attempt ((commit_guards truthful guards (by decide) holds (slots .backup)
    bytes).mono ?_))
  rintro (error | ⟨⟩) committed ⟨more, guards, -, last⟩
  · obtain ⟨kept, report, earlier, rfl⟩ := last
    have next : ∀ kept' result, slots.Guarded sound (.wrote .primary (slots .primary) kept' result ::
        (.wrote .backup (slots .backup) kept report :: earlier ++ events)) := by
      intro kept' result
      by_cases back : sound (slots.after
        (.wrote .backup (slots .backup) kept report :: earlier ++ events) .backup)
      · exact .write (by decide) back _ kept' result guards.guarded
      · exact .undo (.wrote kept report _ back) former kept' result guards.guarded
    refine .bind ((rollback_guards guards next).mono ?_)
    rintro (_ | ⟨⟩) after ⟨kept', result, guards⟩ <;>
    exact ⟨.wrote .primary (slots .primary) kept' result :: _, guards⟩
  · exact ends_pure ⟨more, guards⟩

theorem commitBoth_guards (truthful : environment.device.Truthful)
    (guards : World.Guards slots sound start world events) (same : slots.after events = slots)
    (former : ∀ slot, sound (slots slot)) {renewed : HeaderBytes} (holds : sound renewed)
    {embedded : Option (HeaderBytes × HeaderBytes)}
    (found : ∀ both, embedded = some both → both.1 = slots .backup) :
    (commitBoth (slots .primary) renewed embedded).Ends environment world fun _ after =>
      ∃ events, World.Guards slots sound start after events := by
  have guardedBy : sound (slots.after events .backup) := by
    rw [same]
    exact former .backup
  have different : HeaderSlot.backup ≠ .primary := by decide
  refine .bind ((commit_guards truthful guards different guardedBy (slots .primary)
    renewed).mono ?_)
  rintro (error | ⟨⟩) committed ⟨more, guards, -, stored⟩
  · exact ⟨_, guards⟩
  cases embedded with
  | none => exact ends_pure ⟨_, guards⟩
  | some both =>
      dsimp only
      rw [found both rfl]
      refine (commitBackup_guards truthful guards ?_ former both.2).mono ?_
      · rw [stored]
        exact holds
      · rintro _ after ⟨more, guards⟩
        exact ⟨_, guards⟩

/-! ### Upgrades -/

section

variable {credential : Credential} {keyArea : Octets 256} {kdf : KdfParams}

theorem rewrapAll_guards (apart : start.SlotsApart) (truthful : environment.device.Truthful)
    (held : ∀ slot, start.stored slot = .ok (slots slot))
    (former : ∀ slot, OpensTo environment.primitives credential keyArea (slots slot))
    (since : start.Quiet world) {header : VolumeHeader}
    (opens : openHeader environment.primitives credential (slots .primary) = .ok header) :
    (rewrapAll credential header (slots .primary) kdf).Ends environment world fun _ after =>
      ∃ events, World.Guards slots (OpensTo environment.primitives credential keyArea) start after
        events := by
  refine rewrapAll_follows (truthful.readsStored _) since opens ?_ ?_
  · intro error after quiet
    obtain ⟨events, -, guards⟩ := World.Guards.of_quiet apart held ⟨.primary, former .primary⟩ quiet
    exact ⟨events, guards⟩
  · intro ready renewed embedded quiet rewraps found
    obtain ⟨events, same, guards⟩ :=
      World.Guards.of_quiet apart held ⟨.primary, former .primary⟩ quiet
    refine commitBoth_guards truthful guards same former ((former .primary).rewraps rewraps) ?_
    rintro both rfl
    exact Except.ok.inj (found.1.symm.trans (held .backup))

/-- An upgrade is guarded, if both headers open to the same keys. -/
theorem upgrade_guards (apart : start.SlotsApart) (only : environment.OnlyGives credential)
    (truthful : environment.device.Truthful)
    (held : ∀ slot, start.stored slot = .ok (slots slot))
    (former : ∀ slot, OpensTo environment.primitives credential keyArea (slots slot)) :
    (upgrade kdf).Ends environment start fun _ after => ∃ events,
      World.Guards slots (OpensTo environment.primitives credential keyArea) start after events := by
  have idle : ∀ {after : World}, start.Quiet after → ∃ events,
      World.Guards slots (OpensTo environment.primitives credential keyArea) start after events := by
    intro after quiet
    obtain ⟨events, -, guards⟩ := World.Guards.of_quiet apart held ⟨.primary, former .primary⟩ quiet
    exact ⟨events, guards⟩
  refine upgrade_follows (truthful.readsStored _) (fun _ _ => idle) (fun _ _ => idle) ?_
  intro given bytes header ready gives heldPrimary opens since
  obtain rfl := only.eq gives
  obtain rfl := Except.ok.inj ((held .primary).symm.trans heldPrimary)
  refine (rewrapAll_guards apart truthful held former since opens).mono ?_
  rintro (error | ⟨⟩) rewrapped ⟨events, guards⟩ after still
  all_goals
    obtain ⟨more, -, guards⟩ := guards.quiet still
  · exact ⟨_, guards⟩
  · exact fun _ => ⟨_, guards⟩

end

/-- Wherever an upgrade is cut off, one of the slots holds a complete header that opens to the keys,
as long as no second write was faulty. The exception is the middle of the write that puts the former
primary header back when the former embedded copy could not be put back. -/
theorem upgrade_cut_off {credential : Credential} {keyArea : Octets 256} (recommended : KdfParams)
    (apart : world.SlotsApart) (only : environment.OnlyGives credential)
    (truthful : environment.device.Truthful)
    (held : ∀ slot, world.stored slot = .ok (slots slot))
    (former : ∀ slot, OpensTo environment.primitives credential keyArea (slots slot))
    {result : Except Error UpgradeOutcome} {after : World}
    (run : (upgrade recommended).runIn environment world = (result, after)) :
    ∃ events, after.history = events ++ world.history ∧
      (∀ slot, after.stored slot = .ok (slots.after events slot)) ∧
      ∀ later earlier writing cut, events = later ++ earlier → slots.faults earlier ≤ 1 →
        slots.Cut earlier later writing cut →
        (writing = some .primary →
          ¬slots.FailedUndo (OpensTo environment.primitives credential keyArea) earlier) →
        ∃ slot, OpensTo environment.primitives credential keyArea (cut slot) := by
  obtain ⟨events, guards⟩ := (upgrade_guards apart only truthful held former).of_runIn run
  refine ⟨events, guards.history, guards.stored, ?_⟩
  rintro later earlier writing cut rfl few cuts settled
  exact guards.guarded.sound_of_cut few cuts settled

end

/-! ### An upgrade that loses both headers -/

/-- A header with a time cost of zero does not open. -/
theorem not_opensTo_of_time {primitives : Primitives} {credential : Credential}
    {keyArea : Octets 256} {bytes : HeaderBytes} (zero : Cleartext.timeBytes bytes = [0, 0, 0, 0]) :
    ¬OpensTo primitives credential keyArea bytes := by
  rintro ⟨header, opens, -⟩
  exact Cleartext.parse_ne_ok_of_time zero _ (parse_of_openHeader opens)

namespace Sample

/-- Parameters with a time cost that makes zero where it is mixed with that of the sample ones. -/
def slow : KdfParams := { kdf with time := 256, one_le_time := by decide }

def slowHeader (salt : UInt8) : VolumeHeader :=
  ⟨slow, Vector.replicate 64 salt, 4096, Vector.replicate 256 0⟩

def slowSealed (salt : UInt8) : HeaderBytes :=
  (slowHeader salt).sealWith
    ⟨Digest.Pbkdf2.derive credential.password (slowHeader salt).salt.toList slow.time 64⟩

theorem opens_slow (device : DeviceBehaviour) (salt : UInt8) :
    openHeader (environment device).primitives credential (slowSealed salt) = .ok (slowHeader salt) :=
  openHeader_sealWith rfl

/-- Two headers with the same keys and salts of their own. -/
def slowSlots : Slots
  | .primary => slowSealed 1
  | .backup => slowSealed 2

def slowVolume : World := world (slowSlots .primary) (some (slowSlots .backup)) ⟨[], []⟩

theorem slowVolume_slotsApart : slowVolume.SlotsApart := slotsApart _ _ _

theorem slowVolume_stored (slot : HeaderSlot) : slowVolume.stored slot = .ok (slowSlots slot) := by
  cases slot <;> rfl

theorem opensTo_slow (device : DeviceBehaviour) (slot : HeaderSlot) :
    OpensTo (environment device).primitives credential (Vector.replicate 256 0) (slowSlots slot) := by
  cases slot with
  | primary => exact ⟨_, opens_slow device 1, rfl⟩
  | backup => exact ⟨_, opens_slow device 2, rfl⟩

theorem slowVolume_readsAtFirst :
    (environment .wornOut).device.ReadsAtFirst slowVolume.history :=
  DeviceBehaviour.readsAtFirst_wornOut

/-- Putting the former primary header back. -/
def undoPrimary : Event :=
  .wrote .primary (slowSlots .primary) (some (slowSlots .primary)) (.ok ())

/-- What a worn out device records of two commits, until the former primary header is put back. -/
inductive LostBackup : History → Prop
  | intro (renewed renewedBackup : HeaderBytes) (quiet : History)
      (rewraps : Rewraps (environment .wornOut).primitives credential kdf (slowSlots .primary) renewed)
      (noWrite : ∀ event ∈ quiet, ¬event.IsWrite) :
      LostBackup ([
        .wrote .backup (slowSlots .backup) (some (Octets.zero 512)) (.error (.file "injected" .other)),
        .read .backup (.error (.file "injected" .other)),
        .wrote .backup renewedBackup (some renewedBackup) (.ok ()),
        .read .primary (.ok renewed),
        .wrote .primary renewed (some renewed) (.ok ())] ++ quiet)

/-- Only the primary slot holds a header then, and one write was faulty. -/
theorem LostBackup.slots {earlier : History} (lost : LostBackup earlier) :
    slowSlots.after earlier .backup = Octets.zero 512 ∧ slowSlots.faults earlier = 1 ∧
      Rewraps (environment .wornOut).primitives credential kdf (slowSlots .primary)
        (slowSlots.after earlier .primary) := by
  obtain ⟨renewed, renewedBackup, quiet, rewraps, noWrite⟩ := lost
  have none : slowSlots.faults quiet = 0 := by
    rw [← List.append_nil quiet, slowSlots.faults_append_of_quiet noWrite]
    rfl
  refine ⟨rfl, ?_, rewraps⟩
  simp [Slots.faults, Event.faulty, Slots.after, none]

/-- The new embedded copy is written but cannot be read back, and neither can the former one be put
back. -/
theorem commit_wornOut {world : World} (apart : world.SlotsApart) {former bytes : HeaderBytes}
    (held : world.stored .backup = .ok former)
    (goes : (environment .wornOut).device.write world.history .backup (some former) bytes =
      ⟨some bytes, .ok ()⟩) :
    (commit .backup former bytes).Ends (environment .wornOut) world fun result after =>
      result = .error (.file "injected" .other) ∧
        World.Stores .backup (Octets.zero 512) world after ∧ after.history =
          .wrote .backup former (some (Octets.zero 512)) (.error (.file "injected" .other)) ::
            .read .backup (.error (.file "injected" .other)) ::
              .wrote .backup bytes (some bytes) (.ok ()) :: world.history := by
  refine .bind (.attempt (.bind ((writeHeader_ends apart held goes).mono ?_)))
  rintro _ written ⟨rfl, stores, history⟩
  refine .bind ((readHeader_reads .backup).mono ?_)
  rintro result _ ⟨rfl, reads⟩
  obtain rfl : result = .error (.file "injected" .other) := by
    rw [reads, stores.stored, history]
    rfl
  have found : World.Stores .backup bytes world
      (written.record (.read .backup (.error (.file "injected" .other)))) := stores.of_eq rfl rfl
  refine .bind ((rollback_wrote (found.elsewhere.slotsApart apart) found.stored rfl).mono ?_)
  rintro _ after ⟨rfl, lost, last⟩
  exact ⟨rfl, found.trans lost, last.trans (congrArg _ (congrArg _ history))⟩

theorem commitBoth_wornOut {ready : World} (since : slowVolume.Quiet ready)
    {renewed renewedBackup : HeaderBytes}
    (rewraps : Rewraps (environment .wornOut).primitives credential kdf (slowSlots .primary) renewed) :
    (commitBoth (slowSlots .primary) renewed (some (slowSlots .backup, renewedBackup))).Ends
      (environment .wornOut) ready fun _ after =>
        ∃ earlier, LostBackup earlier ∧ after.history = undoPrimary :: earlier := by
  obtain ⟨quiet, history, noWrite⟩ := since.history
  have held : ∀ slot, ready.stored slot = .ok (slowSlots slot) := fun slot =>
    (since.unharmed.stored slot).trans (slowVolume_stored slot)
  have apart := since.unharmed.elsewhere.slotsApart slowVolume_slotsApart
  have reads : ∀ history stored,
      (environment .wornOut).device.read history .primary stored = .ok stored := fun _ _ => rfl
  have writes : ∀ history old new, (environment .wornOut).device.write history .primary old new =
      ⟨some new, .ok ()⟩ := fun _ _ _ => rfl
  refine .bind ((commit_of_faithful reads writes apart (held .primary)).mono ?_)
  rintro _ committed ⟨rfl, stores, logged⟩
  have apart := stores.elsewhere.slotsApart apart
  have heldBackup := (stores.other .backup (by decide)).trans (held .backup)
  have goes : (environment .wornOut).device.write committed.history .backup
      (some (slowSlots .backup)) renewedBackup = ⟨some renewedBackup, .ok ()⟩ := by
    rw [logged]
    rfl
  refine .bind (.attempt ((commit_wornOut apart heldBackup goes).mono ?_))
  rintro _ failed ⟨rfl, lost, last⟩
  have heldPrimary := (lost.other .primary (by decide)).trans stores.stored
  refine .bind ((rollback_wrote (lost.elsewhere.slotsApart apart) heldPrimary (writes _ _ _)).mono ?_)
  rintro _ after ⟨rfl, -, undone⟩
  refine ends_throw ⟨_, .intro renewed renewedBackup quiet rewraps noWrite, ?_⟩
  rw [undone, last, logged, history, show slowVolume.history = [] from rfl, List.append_nil]
  rfl

theorem rewrapAll_wornOut {ready : World} (since : slowVolume.Quiet ready) :
    (rewrapAll credential (slowHeader 1) (slowSlots .primary) kdf).Ends (environment .wornOut) ready
      fun _ after => ∃ earlier, LostBackup earlier ∧ after.history = undoPrimary :: earlier := by
  refine rewrapAll_reaches (agreeable _) slowVolume_readsAtFirst
    (DeviceBehaviour.truthful_wornOut.readsStored _) since (opens_slow _ 1)
    (fun _ => ⟨_, slowVolume_stored .backup⟩) ?_
  intro ready renewed embedded since rewraps found
  cases embedded with
  | none =>
      obtain ⟨error, fails⟩ := found.fails (slowVolume_stored .backup)
      rw [show slowSlots .backup = slowSealed 2 from rfl, opens_slow] at fails
      cases fails
  | some both =>
      obtain ⟨formerBackup, renewedBackup⟩ := both
      obtain rfl := Except.ok.inj ((slowVolume_stored .backup).symm.trans found.1)
      exact commitBoth_wornOut since rewraps

/-- An upgrade on a worn out device puts the former primary header back when the embedded copy is
lost. -/
theorem upgrade_wornOut :
    (upgrade kdf).Ends (environment .wornOut) slowVolume fun _ after => ∃ later earlier,
      LostBackup earlier ∧
        after.history = ((later ++ [undoPrimary]) ++ earlier) ++ slowVolume.history := by
  refine (upgrade_reaches (agreeable _) slowVolume_readsAtFirst (slowVolume_stored .primary)
    (opens_slow _ 1) rfl fun _ since => rewrapAll_wornOut since).mono ?_
  rintro _ after ⟨_, middle, ⟨earlier, lost, undone⟩, still, -⟩
  obtain ⟨later, history, -⟩ := still.history
  refine ⟨later, earlier, lost, ?_⟩
  rw [history, undone, show slowVolume.history = [] from rfl]
  simp only [List.append_assoc, List.append_nil, List.singleton_append]

/-- A header of which 73 bytes are back has neither the former nor the new time cost. -/
theorem timeBytes_torn {renewed : HeaderBytes}
    (rewraps : Rewraps (environment .wornOut).primitives credential kdf (slowSlots .primary) renewed) :
    Cleartext.timeBytes (Slots.torn renewed (slowSlots .primary) 73) = [0, 0, 0, 0] := by
  obtain ⟨header, salt, -, opens⟩ := rewraps
  have new := Cleartext.timeBytes_of_parse (parse_of_openHeader opens)
  have old := Cleartext.timeBytes_of_parse (parse_of_openHeader (opens_slow .wornOut 1))
  have newTime : Bytes.ofUInt32 (header.rewrapped kdf salt).cleartext.kdf.time = [1, 0, 0, 0] := by
    show Bytes.ofUInt32 1 = _
    decide
  have oldTime : Bytes.ofUInt32 (slowHeader 1).cleartext.kdf.time = [0, 1, 0, 0] := by decide
  rw [newTime] at new
  rw [oldTime] at old
  simp only [Cleartext.timeBytes, List.cons.injEq, and_true] at old new
  simp [Cleartext.timeBytes, Slots.torn, slowSlots, old.1, new.2.1, new.2.2.1, new.2.2.2]

end Sample

/-- Both headers can be lost: when neither the new nor the former embedded copy gets into its place,
the former primary header is put back all the same, and that write can be cut off. -/
theorem upgrade_can_lose_both :
    let environment := Sample.environment .wornOut
    let opens := OpensTo environment.primitives Sample.credential (Vector.replicate 256 0)
    environment.device.Truthful ∧ environment.OnlyGives Sample.credential ∧
      (∀ slot, Sample.slowVolume.stored slot = .ok (Sample.slowSlots slot)) ∧
      (∀ slot, opens (Sample.slowSlots slot)) ∧
      ∃ result after later earlier cut,
        (upgrade Sample.kdf).runIn environment Sample.slowVolume = (result, after) ∧
          after.history = (later ++ earlier) ++ Sample.slowVolume.history ∧
            Sample.slowSlots.faults earlier ≤ 1 ∧
              Sample.slowSlots.Cut earlier later (some .primary) cut ∧ ∀ slot, ¬opens (cut slot) := by
  obtain ⟨result, after, run, later, earlier, lost, recorded⟩ := Sample.upgrade_wornOut.exists_run
  obtain ⟨backup, few, rewraps⟩ := lost.slots
  refine ⟨DeviceBehaviour.truthful_wornOut, Sample.onlyGives _, Sample.slowVolume_stored,
    Sample.opensTo_slow _, result, after, _, earlier, _, run, recorded, Nat.le_of_eq few,
    .during .primary _ _ _ later (Slots.torn _ (Sample.slowSlots .primary) 73)
      (Slots.mixes_torn _ _ _), ?_⟩
  intro slot
  cases slot with
  | primary =>
      rw [Slots.put_self]
      exact not_opensTo_of_time (Sample.timeBytes_torn rewraps)
  | backup =>
      rw [Slots.put_other _ (by decide), backup]
      exact not_opensTo_of_time (by decide)

/-- Just before, when only the embedded copy is lost, the primary slot holds a header. -/
theorem upgrade_cut_off_wornOut :
    ∃ result after later earlier,
      (upgrade Sample.kdf).runIn (Sample.environment .wornOut) Sample.slowVolume = (result, after) ∧
        after.history = (later ++ earlier) ++ Sample.slowVolume.history ∧
          Sample.slowSlots.faults earlier = 1 ∧
            Sample.slowSlots.after earlier .backup = Octets.zero 512 ∧
              ∃ slot, OpensTo .standard Sample.credential (Vector.replicate 256 0)
                (Sample.slowSlots.after earlier slot) := by
  obtain ⟨result, after, run, later, earlier, lost, recorded⟩ := Sample.upgrade_wornOut.exists_run
  obtain ⟨backup, few, -⟩ := lost.slots
  obtain ⟨events, history, -, sound⟩ := upgrade_cut_off Sample.kdf Sample.slowVolume_slotsApart
    (Sample.onlyGives .wornOut) DeviceBehaviour.truthful_wornOut Sample.slowVolume_stored
    (Sample.opensTo_slow .wornOut) run
  have same := List.append_cancel_right (history.symm.trans recorded)
  exact ⟨result, after, later ++ [Sample.undoPrimary], earlier, run, recorded, few, backup,
    sound _ earlier none _ same (Nat.le_of_eq few) (.between _) nofun⟩

end Protocol

end HeaderVault
