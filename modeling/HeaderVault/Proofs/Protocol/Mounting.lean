import HeaderVault.Proofs.Protocol.Course

/-!
When an upgrade dismounts a volume and mounts it again.

`MountCourse` lists the ways in which a run may go: it is over before mounting comes up, the volume
is not mounted, it cannot be dismounted, or it is dismounted and mounted again after everything that
was to be written. Every run takes one of them (`upgrade_course`), whatever the operator, the device,
the source of random bytes and mounting itself do. The discipline that a mounted volume relies on can
be read off (`upgrade_keeps_mount_discipline`).
-/

namespace HeaderVault.Protocol

open Session

/-- What an upgrade reports: what became of rewrapping, and where the volume is mounted if it could
be mounted again. -/
def reportOf (before recommended : KdfParams) (outcome : Except Error Unit)
    (remount : Except Error String) : Except Error UpgradeOutcome :=
  outcome.map fun _ => .upgraded before recommended remount.toOption

theorem place_of_reportOf {before recommended former reached : KdfParams}
    {outcome : Except Error Unit} {remount : Except Error String} {remounted : Option String}
    (done : reportOf before recommended outcome remount = .ok (.upgraded former reached remounted)) :
    remounted = remount.toOption := by
  cases outcome with
  | error error => cases done
  | ok value =>
      cases done
      rfl

/-- What an upgrade does about mounting, in the order of the events since `start`, the newest
first. -/
inductive MountCourse (environment : Environment) (recommended : KdfParams) (start : World) :
    Except Error UpgradeOutcome → History → Prop
  /-- It is over before mounting comes up. -/
  | early {result : Except Error UpgradeOutcome} {events : History}
      (course : Course [.asked, .told, .read] events)
      (stopped : ∀ before reached remounted, result ≠ .ok (.upgraded before reached remounted)) :
      MountCourse environment recommended start result events
  /-- The volume is not mounted. -/
  | detached {result : Except Error UpgradeOutcome} {rewrapping earlier : History}
      (notMounted : start.mounted = false) (before : Course [.asked, .told, .read, .queriedMount] earlier)
      (rewraps : Course [.asked, .told, .drew, .read, .wrote] rewrapping)
      (noPlace : ∀ before reached remounted, result = .ok (.upgraded before reached remounted) →
        remounted = none) :
      MountCourse environment recommended start result (rewrapping ++ earlier)
  /-- The volume cannot be dismounted. -/
  | inUse {error : Error} {credential : Credential} {former : HeaderBytes} {header : VolumeHeader}
      {earlier : History} (mounted : start.mounted = true)
      (before : Course [.asked, .told, .read, .queriedMount] earlier)
      (queried : .queriedMount true ∈ earlier)
      (opened : Opened environment start credential former header earlier) :
      MountCourse environment recommended start (.error error)
        (.dismounted (.error error) :: earlier)
  /-- The volume is dismounted, and mounted again after rewrapping. -/
  | remounted {credential : Credential} {former : HeaderBytes} {header : VolumeHeader}
      {remount : Except Error String} {last rewrapping earlier : History} {ready : World}
      (mounted : start.mounted = true)
      (before : Course [.asked, .told, .read, .queriedMount] earlier)
      (queried : .queriedMount true ∈ earlier)
      (opened : Opened environment start credential former header earlier)
      (dismounted : ready.history = .dismounted (.ok ()) :: earlier ++ start.history)
      (rewrapped : ((rewrapAll credential header former recommended).runIn environment
        ready).2.history = rewrapping ++ ready.history)
      (rewraps : Course [.asked, .told, .drew, .read, .wrote] rewrapping)
      (after : Course [.told] last) :
      MountCourse environment recommended start
        (reportOf header.kdf recommended
          ((rewrapAll credential header former recommended).runIn environment ready).1 remount)
        (last ++ .mounted credential remount :: rewrapping ++ .dismounted (.ok ()) :: earlier)

/-- A volume that was dismounted is mounted again with the credential that opens its header, after
everything that rewrapping does. What is reported is what became of rewrapping. -/
inductive MountsAgain (environment : Environment) (recommended : KdfParams) (start : World) :
    Except Error UpgradeOutcome → History → Prop
  | intro {credential : Credential} {former : HeaderBytes} {header : VolumeHeader}
      {remount : Except Error String} {last rewrapping earlier : History} {ready : World}
      (opened : Opened environment start credential former header earlier)
      (dismounted : ready.history = .dismounted (.ok ()) :: earlier ++ start.history)
      (rewrapped : ((rewrapAll credential header former recommended).runIn environment
        ready).2.history = rewrapping ++ ready.history)
      (noWrite : ∀ event ∈ last, event.kind ≠ .wrote) :
      MountsAgain environment recommended start
        (reportOf header.kdf recommended
          ((rewrapAll credential header former recommended).runIn environment ready).1 remount)
        (last ++ .mounted credential remount :: rewrapping ++ .dismounted (.ok ()) :: earlier)

/-- What can be relied on about mounting in the course of an upgrade. -/
structure MountDiscipline (environment : Environment) (recommended : KdfParams) (start : World)
    (result : Except Error UpgradeOutcome) (events : History) : Prop where
  /-- No header is written while the volume is mounted. -/
  writes : ∀ slot bytes kept report earlier, .wrote slot bytes kept report :: earlier <:+ events →
    mountedAfter start.mounted earlier = false
  dismountsOnce : events.countP (·.kind = .dismounted) ≤ 1
  /-- Only a volume that was found to be mounted is dismounted, and only when its header was opened
  with the credential. -/
  dismounts : ∀ report earlier, .dismounted report :: earlier <:+ events →
    start.mounted = true ∧ .queriedMount true ∈ earlier ∧
      ∃ credential former header, Opened environment start credential former header earlier
  /-- When dismounting fails, so does the upgrade, and nothing is written or mounted. -/
  inUse : ∀ error, .dismounted (.error error) ∈ events → result = .error error ∧
    ∀ event ∈ events, event.kind ≠ .wrote ∧ event.kind ≠ .mounted
  mountsOnce : .dismounted (.ok ()) ∈ events → events.countP (·.kind = .mounted) = 1
  mountsAgain : .dismounted (.ok ()) ∈ events →
    MountsAgain environment recommended start result events
  /-- A volume that is not dismounted is not mounted either. -/
  mountsOnlyAgain : .dismounted (.ok ()) ∉ events → ∀ event ∈ events, event.kind ≠ .mounted
  notMounted : start.mounted = false →
    ∀ event ∈ events, event.kind ≠ .dismounted ∧ event.kind ≠ .mounted
  /-- A place is reported exactly if the volume was mounted and could be mounted again there. -/
  place : ∀ before reached remounted, result = .ok (.upgraded before reached remounted) →
    ∀ place, remounted = some place ↔
      start.mounted = true ∧ ∃ credential, .mounted credential (.ok place) ∈ events

section

variable {environment : Environment} {world : World} {credential : Credential}

/-! ### The course of an upgrade -/

theorem remount_ends (credential : Credential) :
    (remount credential).Ends environment world fun result after => ∃ report last,
      result = .ok report.toOption ∧
        after.history = last ++ Event.mounted credential report :: world.history ∧
          Course [.told] last := by
  refine .bind (.attempt ?_)
  unfold Ends
  rw [runIn_mount]
  cases environment.mount.mount world.history credential with
  | error error => exact ⟨.error error, [_], rfl, rfl, .event List.mem_cons_self nofun .nothing⟩
  | ok target => exact ⟨.ok target, [], rfl, rfl, .nothing⟩

/-- What follows rewrapping does not change what is reported of it. -/
theorem report_ends (before recommended : KdfParams) (outcome : Except Error Unit)
    (notice : Notice) (plain : (Event.told notice).kind = .told) :
    (do
      let remounted ← remount credential
      Session.ofExcept outcome
      tell notice
      return UpgradeOutcome.upgraded before recommended remounted).Ends environment world
        fun result after => ∃ report last,
          result = reportOf before recommended outcome report ∧
            after.history = last ++ Event.mounted credential report :: world.history ∧
              Course [.told] last := by
  refine .bind ((remount_ends credential).mono ?_)
  rintro _ mounted ⟨report, last, rfl, history, course⟩
  cases outcome with
  | error error => exact ⟨report, last, rfl, history, course⟩
  | ok value =>
      exact ⟨report, .told notice :: last, rfl, congrArg _ history, course.tells (by decide) plain⟩

/-- What happens to a volume that is mounted. -/
theorem mounted_course {recommended : KdfParams} {ready : World} {former : HeaderBytes}
    {header : VolumeHeader} {earlier : History} (mounted : world.mounted = true)
    (since : ready.history = earlier ++ world.history)
    (before : Course [.asked, .told, .read, .queriedMount] earlier)
    (queried : .queriedMount true ∈ earlier)
    (opened : Opened environment world credential former header earlier) (notice : Notice)
    (plain : (Event.told notice).kind = .told) :
    (do
      dismount
      let result ← attempt (rewrapAll credential header former recommended)
      let remounted ← remount credential
      Session.ofExcept result
      tell notice
      return UpgradeOutcome.upgraded header.kdf recommended remounted).Ends environment ready
        fun result after =>
          world.Since (MountCourse environment recommended world result) after := by
  cases dismounting : environment.mount.dismount ready.history with
  | error error =>
      refine .bind ?_
      unfold Ends
      rw [runIn_dismount, dismounting]
      exact ⟨_, congrArg _ since, .inUse mounted before queried opened⟩
  | ok value =>
      let dismounted : World := { ready.record (.dismounted (.ok ())) with mounted := false }
      have history : dismounted.history = .dismounted (.ok ()) :: earlier ++ world.history :=
        congrArg _ since
      have run : dismount.runIn environment ready = (.ok (), dismounted) := by
        rw [runIn_dismount, dismounting]
      obtain ⟨rewrapping, rewrapped, rewraps, -⟩ :=
        leaves_rewrapAll credential header former recommended environment dismounted
      refine .bind_ok run (.bind_ok (runIn_attempt _) ?_)
      refine (report_ends header.kdf recommended _ notice plain).mono ?_
      rintro _ after ⟨report, last, rfl, reported, course⟩
      refine ⟨_, ?_, .remounted mounted before queried opened history rewrapped rewraps course⟩
      rw [reported, rewrapped, history]
      simp only [List.cons_append, List.append_assoc]

/-- What happens to a volume that is not mounted. -/
theorem detached_course {recommended : KdfParams} {ready : World} {former : HeaderBytes}
    {header : VolumeHeader} {earlier : History} (notMounted : world.mounted = false)
    (since : ready.history = earlier ++ world.history)
    (before : Course [.asked, .told, .read, .queriedMount] earlier) (notice : Notice)
    (plain : (Event.told notice).kind = .told) :
    (do
      let result ← attempt (rewrapAll credential header former recommended)
      Session.ofExcept result
      tell notice
      return UpgradeOutcome.upgraded header.kdf recommended none).Ends environment ready
        fun result after =>
          world.Since (MountCourse environment recommended world result) after := by
  obtain ⟨rewrapping, rewrapped, rewraps, -⟩ :=
    leaves_rewrapAll credential header former recommended environment ready
  have history : ((rewrapAll credential header former recommended).runIn environment ready).2.history =
      rewrapping ++ earlier ++ world.history := by
    rw [rewrapped, since, List.append_assoc]
  refine .bind_ok (runIn_attempt _) (.bind (ends_ofExcept ?_))
  cases ((rewrapAll credential header former recommended).runIn environment ready).1 with
  | error error => exact ⟨_, history, .detached notMounted before rewraps nofun⟩
  | ok value =>
      refine .bind_ok (runIn_tell notice) ⟨.told notice :: rewrapping ++ earlier,
        congrArg _ history, .detached notMounted before (rewraps.tells (by decide) plain) ?_⟩
      rintro _ _ _ ⟨⟩
      rfl

/-- Every upgrade does one of these things about mounting. -/
theorem upgrade_course (recommended : KdfParams) :
    (upgrade recommended).Ends environment world fun result after =>
      world.Since (MountCourse environment recommended world result) after := by
  have early : ∀ {result : Except Error UpgradeOutcome} {after},
      (∀ before reached remounted, result ≠ .ok (.upgraded before reached remounted)) →
        world.Idle [.asked, .told, .read] after →
          world.Since (MountCourse environment recommended world result) after :=
    fun stopped idle => World.Since.mono idle.leaves fun _ both => .early both.1 stopped
  refine upgrade_opens (fun _ _ => early nofun) (fun _ _ => early nofun) ?_
  intro credential former header stored ready since _ _ opened
  obtain ⟨earlier, history, opened, before, same⟩ := opened.and since.leaves
  have mounted : ready.mounted = world.mounted :=
    same.trans (before.mountedAfter (by decide) (by decide) List.suffix_rfl _)
  refine .bind_ok runIn_isMounted ?_
  have sinceStart : (ready.record (.queriedMount ready.mounted)).history =
      .queriedMount ready.mounted :: earlier ++ world.history := congrArg _ history
  have course : Course [.asked, .told, .read, .queriedMount] (.queriedMount ready.mounted :: earlier) :=
    .event (show Event.Kind.queriedMount ∈ _ by decide) nofun (before.mono (by decide))
  rw [mounted] at sinceStart course ⊢
  cases wasMounted : world.mounted with
  | false =>
      rw [wasMounted] at sinceStart course
      exact detached_course wasMounted sinceStart course _ rfl
  | true =>
      rw [wasMounted] at sinceStart course
      exact mounted_course wasMounted sinceStart course List.mem_cons_self
        ⟨.before _ opened.gathered, List.mem_cons_of_mem _ opened.read, opened.opens⟩ _ rfl

/-! ### What the course of an upgrade says -/

namespace MountCourse

variable {recommended : KdfParams} {result : Except Error UpgradeOutcome} {events : History}

/-- No header is written but between dismounting and mounting again. -/
theorem writes (course : MountCourse environment recommended world result events)
    {slot : HeaderSlot} {bytes : HeaderBytes} {kept : Option HeaderBytes}
    {report : Except Error Unit} {earlier : History}
    (wrote : .wrote slot bytes kept report :: earlier <:+ events) :
    mountedAfter world.mounted earlier = false := by
  have occurs := wrote.mem List.mem_cons_self
  cases course with
  | early course => exact absurd occurs (course.notMem .wrote (by decide) rfl)
  | detached notMounted before rewraps =>
      rcases suffix_append_cases wrote with ⟨since, inside, rfl⟩ | wrote
      · have rewraps := rewraps.mountedAfter (by decide) (by decide)
          ((List.suffix_cons _ since).trans inside)
        have before := before.mountedAfter (by decide) (by decide) List.suffix_rfl
        rw [mountedAfter_append, rewraps]
        exact (before _).trans notMounted
      · exact absurd (wrote.mem List.mem_cons_self) (before.notMem .wrote (by decide) rfl)
  | inUse mounted before queried opened =>
      have early := suffix_of_cons wrote nofun
      exact absurd (early.mem List.mem_cons_self) (before.notMem .wrote (by decide) rfl)
  | remounted mounted before queried opened dismounted rewrapped rewraps after =>
      rcases suffix_append_cases wrote with ⟨since, inside, rfl⟩ | wrote
      · have inside := suffix_of_cons (after.suffix_of_append inside .wrote (by decide) rfl) nofun
        rw [mountedAfter_append]
        exact rewraps.mountedAfter (by decide) (by decide) ((List.suffix_cons _ since).trans inside) _
      · have early := suffix_of_cons wrote nofun
        exact absurd (early.mem List.mem_cons_self) (before.notMem .wrote (by decide) rfl)

theorem dismounts_once (course : MountCourse environment recommended world result events) :
    events.countP (·.kind = .dismounted) ≤ 1 := by
  cases course with
  | early course => rw [course.countP_eq_zero .dismounted (by decide)]; decide
  | detached notMounted before rewraps =>
      rw [List.countP_append, before.countP_eq_zero .dismounted (by decide),
        rewraps.countP_eq_zero .dismounted (by decide)]
      decide
  | inUse mounted before queried opened =>
      rw [List.countP_cons, before.countP_eq_zero .dismounted (by decide)]
      simp [Event.kind]
  | remounted mounted before queried opened dismounted rewrapped rewraps after =>
      rw [List.countP_append, List.countP_append, List.countP_cons, List.countP_cons,
        before.countP_eq_zero .dismounted (by decide),
        rewraps.countP_eq_zero .dismounted (by decide), after.countP_eq_zero .dismounted (by decide)]
      simp [Event.kind]

/-- Dismounting comes after the header was opened. -/
theorem dismounts (course : MountCourse environment recommended world result events)
    {report : Except Error Unit} {earlier : History}
    (dismounted : .dismounted report :: earlier <:+ events) :
    world.mounted = true ∧ .queriedMount true ∈ earlier ∧
      ∃ credential former header, Opened environment world credential former header earlier := by
  cases course with
  | early course => exact absurd (dismounted.mem List.mem_cons_self) (course.notMem .dismounted (by decide) rfl)
  | detached notMounted before rewraps =>
      have early := rewraps.suffix_of_append dismounted .dismounted (by decide) rfl
      exact absurd (early.mem List.mem_cons_self) (before.notMem .dismounted (by decide) rfl)
  | inUse mounted before queried opened =>
      rcases List.suffix_cons_iff.mp dismounted with same | early
      · obtain ⟨-, rfl⟩ := List.cons.inj same
        exact ⟨mounted, queried, _, _, _, opened⟩
      · exact absurd (early.mem List.mem_cons_self) (before.notMem .dismounted (by decide) rfl)
  | remounted mounted before queried opened _ rewrapped rewraps after =>
      rw [List.append_assoc, List.cons_append] at dismounted
      have dismounted := suffix_of_cons
        (after.suffix_of_append dismounted .dismounted (by decide) rfl) nofun
      have dismounted := rewraps.suffix_of_append dismounted .dismounted (by decide) rfl
      rcases List.suffix_cons_iff.mp dismounted with same | early
      · obtain ⟨-, rfl⟩ := List.cons.inj same
        exact ⟨mounted, queried, _, _, _, opened⟩
      · exact absurd (early.mem List.mem_cons_self) (before.notMem .dismounted (by decide) rfl)

/-- A dismount that fails is the end of it. -/
theorem inUse_of_mem (course : MountCourse environment recommended world result events)
    {error : Error} (dismounted : .dismounted (.error error) ∈ events) :
    result = .error error ∧ ∀ event ∈ events, event.kind ≠ .wrote ∧ event.kind ≠ .mounted := by
  cases course with
  | early course => exact absurd dismounted (course.notMem .dismounted (by decide) rfl)
  | detached notMounted before rewraps =>
      have early := rewraps.mem_of_append dismounted .dismounted (by decide) rfl
      exact absurd early (before.notMem .dismounted (by decide) rfl)
  | inUse mounted before queried opened =>
      rcases List.mem_cons.mp dismounted with same | early
      · cases same
        refine ⟨rfl, List.forall_mem_cons.mpr ⟨⟨nofun, nofun⟩, fun event occurs => ?_⟩⟩
        exact ⟨before.kind_ne .wrote (by decide) event occurs,
          before.kind_ne .mounted (by decide) event occurs⟩
      · exact absurd early (before.notMem .dismounted (by decide) rfl)
  | remounted mounted before queried opened _ rewrapped rewraps after =>
      rw [List.append_assoc, List.cons_append] at dismounted
      have dismounted := after.mem_of_append dismounted .dismounted (by decide) rfl
      have dismounted := (List.mem_cons.mp dismounted).resolve_left nofun
      have dismounted := rewraps.mem_of_append dismounted .dismounted (by decide) rfl
      have dismounted := (List.mem_cons.mp dismounted).resolve_left nofun
      exact absurd dismounted (before.notMem .dismounted (by decide) rfl)

theorem mounts_once (course : MountCourse environment recommended world result events)
    (dismounted : .dismounted (.ok ()) ∈ events) :
    events.countP (·.kind = .mounted) = 1 ∧
      MountsAgain environment recommended world result events := by
  cases course with
  | early course => exact absurd dismounted (course.notMem .dismounted (by decide) rfl)
  | detached notMounted before rewraps =>
      have early := rewraps.mem_of_append dismounted .dismounted (by decide) rfl
      exact absurd early (before.notMem .dismounted (by decide) rfl)
  | inUse mounted before queried opened =>
      rcases List.mem_cons.mp dismounted with same | early
      · cases same
      · exact absurd early (before.notMem .dismounted (by decide) rfl)
  | remounted mounted before queried opened history rewrapped rewraps after =>
      refine ⟨?_, .intro opened history rewrapped (after.kind_ne .wrote (by decide))⟩
      rw [List.countP_append, List.countP_append, List.countP_cons, List.countP_cons,
        before.countP_eq_zero .mounted (by decide), rewraps.countP_eq_zero .mounted (by decide),
        after.countP_eq_zero .mounted (by decide)]
      simp [Event.kind]

/-- Whatever is mounted was dismounted before. -/
theorem dismounted_of_mounted (course : MountCourse environment recommended world result events)
    {event : Event} (occurs : event ∈ events) (mounts : event.kind = .mounted) :
    world.mounted = true ∧ .dismounted (.ok ()) ∈ events := by
  cases course with
  | early course => exact absurd mounts (course.kind_ne .mounted (by decide) _ occurs)
  | detached notMounted before rewraps =>
      have early := rewraps.mem_of_append occurs .mounted (by decide) mounts
      exact absurd mounts (before.kind_ne .mounted (by decide) _ early)
  | inUse mounted before queried opened =>
      rcases List.mem_cons.mp occurs with rfl | early
      · cases mounts
      · exact absurd mounts (before.kind_ne .mounted (by decide) _ early)
  | remounted mounted before queried opened dismounted rewrapped rewraps after =>
      exact ⟨mounted, List.mem_append_right _ List.mem_cons_self⟩

/-- A place is reported exactly if the volume was mounted and is mounted again there. -/
theorem place (course : MountCourse environment recommended world result events)
    {before reached : KdfParams} {remounted : Option String}
    (done : result = .ok (.upgraded before reached remounted)) (place : String) :
    remounted = some place ↔
      world.mounted = true ∧ ∃ credential, .mounted credential (.ok place) ∈ events := by
  cases course with
  | early course stopped => exact (stopped _ _ _ done).elim
  | detached notMounted earlier rewraps noPlace =>
      obtain rfl := noPlace _ _ _ done
      simp [notMounted]
  | inUse => cases done
  | @remounted credential former header report last rewrapping earlier ready mounted before queried
      opened dismounted rewrapped rewraps after =>
      rw [place_of_reportOf done]
      constructor
      · intro there
        refine ⟨mounted, credential, ?_⟩
        have there : report = .ok place := by
          cases report with
          | error error => cases there
          | ok target => rw [Option.some.inj there]
        rw [there]
        exact List.mem_append_left _ (List.mem_append_right _ List.mem_cons_self)
      · rintro ⟨-, given, occurs⟩
        rw [List.append_assoc, List.cons_append] at occurs
        have occurs := after.mem_of_append occurs .mounted (by decide) rfl
        rcases List.mem_cons.mp occurs with same | occurs
        · cases same
          rfl
        · have occurs := rewraps.mem_of_append occurs .mounted (by decide) rfl
          have occurs := (List.mem_cons.mp occurs).resolve_left nofun
          exact absurd occurs (before.notMem .mounted (by decide) rfl)

end MountCourse

/-- In every upgrade the mounting discipline is kept, whatever the operator, the device, the source
of random bytes and mounting do; and the volume is mounted afterwards as the events tell. -/
theorem upgrade_keeps_mount_discipline (recommended : KdfParams) :
    (upgrade recommended).Ends environment world fun result after =>
      world.Since (fun events => MountDiscipline environment recommended world result events ∧
        after.mounted = mountedAfter world.mounted events) after := by
  refine ((upgrade_course recommended).and ((leaves_upgrade recommended).ends _ _)).mono ?_
  rintro result after ⟨course, leaves⟩
  refine (course.and leaves).mono ?_
  rintro events ⟨course, -, mounted⟩
  refine ⟨?_, mounted⟩
  constructor
  · exact fun _ _ _ _ _ => course.writes
  · exact course.dismounts_once
  · exact fun _ _ => course.dismounts
  · exact fun _ => course.inUse_of_mem
  · exact fun dismounted => (course.mounts_once dismounted).1
  · exact fun dismounted => (course.mounts_once dismounted).2
  · exact fun never event occurs mounts => never (course.dismounted_of_mounted occurs mounts).2
  · intro notMounted event occurs
    constructor
    · intro dismounts
      obtain ⟨report, rfl⟩ := Event.eq_dismounted dismounts
      obtain ⟨later, earlier, rfl⟩ := List.append_of_mem occurs
      exact absurd (course.dismounts (List.suffix_append later _)).1 (by simp [notMounted])
    · intro mounts
      exact absurd (course.dismounted_of_mounted occurs mounts).1 (by simp [notMounted])
  · exact fun _ _ _ => course.place

end

end HeaderVault.Protocol
