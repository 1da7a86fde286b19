import HeaderVault.Proofs.Session.Operator

/-!
The course of a run: what kinds of events it leaves behind.

A `Course` is made of single events of some kinds, and of spells of work that begin and end with
nothing in between. `World.Leaves` holds a run to a course, and says that the volume is mounted
afterwards as the events tell. Each session has a lemma that names the kinds it may leave, in the
order of `HeaderVault.Session`; the kinds that a session does not name are what it never does.
-/

namespace HeaderVault

/-! ### Kinds of events -/

/-- What an event is about; beginning and ending a spell of work are of one kind. -/
inductive Event.Kind where
  | asked
  | told
  | busy
  | read
  | wrote
  | drew
  | queriedMount
  | dismounted
  | mounted
  | saved
  deriving DecidableEq, Repr

def Event.kind : Event → Event.Kind
  | .asked _ _ => .asked
  | .told (.beginBusy _) => .busy
  | .told .endBusy => .busy
  | .told _ => .told
  | .read _ _ => .read
  | .wrote _ _ _ _ => .wrote
  | .drew _ _ => .drew
  | .queriedMount _ => .queriedMount
  | .dismounted _ => .dismounted
  | .mounted _ _ => .mounted
  | .saved _ _ _ => .saved

theorem Event.eq_dismounted {event : Event} (dismounts : event.kind = .dismounted) :
    ∃ result, event = .dismounted result := by
  cases event with
  | dismounted result => exact ⟨result, rfl⟩
  | told notice => cases notice <;> cases dismounts
  | _ => cases dismounts

/-- What happened in the course of two spells of events happened in the later or in the earlier. -/
theorem suffix_append_cases {event : Event} {events later earlier : History}
    (suffix : event :: events <:+ later ++ earlier) :
    (∃ since, event :: since <:+ later ∧ events = since ++ earlier) ∨ event :: events <:+ earlier := by
  induction later with
  | nil => exact .inr suffix
  | cons last later rest =>
      rcases List.suffix_cons_iff.mp suffix with same | suffix
      · obtain ⟨rfl, rfl⟩ := List.cons.inj same
        exact .inl ⟨later, List.suffix_rfl, rfl⟩
      · rcases rest suffix with ⟨since, inside, rfl⟩ | before
        · exact .inl ⟨since, inside.trans (List.suffix_cons last later), rfl⟩
        · exact .inr before

theorem suffix_of_cons {event last : Event} {events earlier : History}
    (suffix : event :: events <:+ last :: earlier) (other : event ≠ last) :
    event :: events <:+ earlier := by
  rcases List.suffix_cons_iff.mp suffix with same | before
  · exact absurd (List.cons.inj same).1 other
  · exact before

/-- Single events of the given kinds, and spells of work with nothing in between, the newest
first. -/
inductive Course (kinds : List Event.Kind) : History → Prop
  | nothing : Course kinds []
  | event {event : Event} {earlier : History} (allowed : event.kind ∈ kinds)
      (single : event.kind ≠ .busy) (before : Course kinds earlier) : Course kinds (event :: earlier)
  | spell (message : String) {earlier : History} (before : Course kinds earlier) :
      Course kinds (.told .endBusy :: .told (.beginBusy message) :: earlier)

namespace Course

variable {kinds more : List Event.Kind} {later earlier events : History}

theorem append (after : Course kinds later) (before : Course kinds earlier) :
    Course kinds (later ++ earlier) := by
  induction after with
  | nothing => exact before
  | event allowed single _ rest => exact .event allowed single rest
  | spell message _ rest => exact .spell message rest

theorem mono (course : Course kinds events) (known : ∀ kind ∈ kinds, kind ∈ more) :
    Course more events := by
  induction course with
  | nothing => exact .nothing
  | event allowed single _ rest => exact .event (known _ allowed) single rest
  | spell message _ rest => exact .spell message rest

/-- Every notice but those that begin or end a spell of work. -/
theorem tells (before : Course kinds earlier) (named : .told ∈ kinds) {notice : Notice}
    (plain : (Event.told notice).kind = .told) : Course kinds (.told notice :: earlier) :=
  .event (plain.symm ▸ named) (plain.symm ▸ nofun) before

/-- What a course does not name does not happen. -/
theorem kind_ne (course : Course kinds events) (kind : Event.Kind) (unnamed : kind ∉ .busy :: kinds) :
    ∀ event ∈ events, event.kind ≠ kind := by
  rw [List.mem_cons, not_or] at unnamed
  obtain ⟨notBusy, unnamed⟩ := unnamed
  induction course with
  | nothing => simp
  | event allowed _ _ rest =>
      refine List.forall_mem_cons.mpr ⟨?_, rest⟩
      rintro rfl
      exact unnamed allowed
  | spell message _ rest =>
      have busy : .busy ≠ kind := fun same => notBusy same.symm
      exact List.forall_mem_cons.mpr ⟨busy, List.forall_mem_cons.mpr ⟨busy, rest⟩⟩

theorem notMem (course : Course kinds events) {event : Event} (kind : Event.Kind)
    (unnamed : kind ∉ .busy :: kinds) (same : event.kind = kind) : event ∉ events :=
  fun occurs => course.kind_ne kind unnamed event occurs same

theorem countP_eq_zero (course : Course kinds events) (kind : Event.Kind)
    (unnamed : kind ∉ .busy :: kinds) : events.countP (·.kind = kind) = 0 := by
  refine List.countP_eq_zero.mpr fun event occurs => ?_
  simpa using course.kind_ne kind unnamed event occurs

/-- An event of a kind that a course does not name happened before the course. -/
theorem mem_of_append (course : Course kinds later) {event : Event} (occurs : event ∈ later ++ earlier)
    (kind : Event.Kind) (unnamed : kind ∉ .busy :: kinds) (same : event.kind = kind) :
    event ∈ earlier :=
  (List.mem_append.mp occurs).resolve_left (course.notMem kind unnamed same)

theorem suffix_of_append (course : Course kinds later) {event : Event}
    (suffix : event :: events <:+ later ++ earlier) (kind : Event.Kind)
    (unnamed : kind ∉ .busy :: kinds) (same : event.kind = kind) : event :: events <:+ earlier := by
  rcases suffix_append_cases suffix with ⟨since, inside, -⟩ | before
  · exact absurd (inside.mem List.mem_cons_self) (course.notMem kind unnamed same)
  · exact before

end Course

/-! ### Mounting as the events tell -/

/-- Whether a volume is mounted after events, the newest first. -/
def mountedAfter (mounted : Bool) : History → Bool
  | [] => mounted
  | .dismounted (.ok ()) :: _ => false
  | .mounted _ (.ok _) :: _ => true
  | _ :: earlier => mountedAfter mounted earlier

theorem mountedAfter_append (mounted : Bool) (later earlier : History) :
    mountedAfter mounted (later ++ earlier) = mountedAfter (mountedAfter mounted earlier) later := by
  induction later with
  | nil => rfl
  | cons event later rest =>
      rcases event with _ | _ | _ | _ | _ | _ | (_ | ⟨⟨⟩⟩) | ⟨_, _ | _⟩ | _
      all_goals first
        | exact rest
        | rfl

/-- Other events change nothing about that. -/
theorem mountedAfter_of_kind {events : History} (mounted : Bool)
    (other : ∀ event ∈ events, event.kind ≠ .dismounted ∧ event.kind ≠ .mounted) :
    mountedAfter mounted events = mounted := by
  induction events with
  | nil => rfl
  | cons event earlier rest =>
      obtain ⟨here, before⟩ := List.forall_mem_cons.mp other
      cases event with
      | dismounted result => exact absurd rfl here.1
      | mounted credential result => exact absurd rfl here.2
      | _ => exact rest before

/-- At no point of a course that names neither does it change whether a volume is mounted. -/
theorem Course.mountedAfter {kinds : List Event.Kind} {events earlier : History}
    (course : Course kinds events) (undismounted : .dismounted ∉ .busy :: kinds)
    (unmounted : .mounted ∉ .busy :: kinds) (suffix : earlier <:+ events) (mounted : Bool) :
    mountedAfter mounted earlier = mounted :=
  mountedAfter_of_kind mounted fun event occurs =>
    ⟨course.kind_ne .dismounted undismounted event (suffix.mem occurs),
      course.kind_ne .mounted unmounted event (suffix.mem occurs)⟩

/-! ### What runs leave behind -/

/-- The events of a run keep to a course, and the volume is mounted as they tell. -/
def World.Leaves (kinds : List Event.Kind) (world after : World) : Prop :=
  world.Since (fun events => Course kinds events ∧
    after.mounted = mountedAfter world.mounted events) after

instance {kinds : List Event.Kind} : Session.Change (World.Leaves kinds) where
  refl _ := ⟨[], rfl, .nothing, rfl⟩
  trans := by
    rintro world middle after ⟨events, history, course, mounted⟩ ⟨later, historyAfter, goesOn, now⟩
    refine ⟨later ++ events, ?_, goesOn.append course, ?_⟩
    · rw [historyAfter, history, List.append_assoc]
    · rw [now, mounted, mountedAfter_append]

theorem World.Leaves.mono {kinds more : List Event.Kind} {world after : World}
    (leaves : world.Leaves kinds after) (known : ∀ kind ∈ kinds, kind ∈ more) :
    world.Leaves more after :=
  World.Since.mono leaves fun _ both => ⟨both.1.mono known, both.2⟩

/-- The slots and the files are as they were, and the events keep to a course. -/
structure World.Idle (kinds : List Event.Kind) (world after : World) : Prop where
  quiet : world.Quiet after
  leaves : world.Leaves kinds after

instance {kinds : List Event.Kind} : Session.Change (World.Idle kinds) where
  refl world := ⟨Session.Change.refl world, Session.Change.refl world⟩
  trans first second :=
    ⟨Session.Change.trans first.quiet second.quiet, Session.Change.trans first.leaves second.leaves⟩

/-- Storing a header does not mount or dismount anything. -/
theorem World.mounted_of_store {world after : World} {slot : HeaderSlot} {bytes : HeaderBytes}
    (ok : world.store slot bytes = .ok after) : after.mounted = world.mounted := by
  cases kind : world.volume with
  | memory primary backup =>
      unfold World.store at ok
      rw [kind] at ok
      cases slot <;> cases backup <;> cases ok <;> rfl
  | file volume =>
      rw [World.store_file kind] at ok
      cases written : volume.write world.files slot bytes with
      | error error => rw [written] at ok; cases ok
      | ok files => rw [written] at ok; cases ok; rfl

namespace Session

variable {α : Type} {kinds : List Event.Kind}

theorem Within.leaves_mono {more : List Event.Kind} {session : Session α}
    (within : Within (World.Leaves kinds) session) (known : ∀ kind ∈ kinds, kind ∈ more) :
    Within (World.Leaves more) session :=
  fun environment world => (within environment world).mono known

/-- An event that leaves the volume as it is, mounted or not. -/
theorem leaves_record {kind : Event.Kind} {event : Event} (allowed : kind ∈ kinds)
    (plain : kind ∉ [.busy, .dismounted, .mounted]) (same : event.kind = kind) :
    Within (World.Leaves kinds) (record event) := by
  intro environment world
  subst same
  simp only [List.mem_cons, List.not_mem_nil, or_false, not_or] at plain
  refine ⟨[event], rfl, .event allowed plain.1 .nothing, ?_⟩
  exact (mountedAfter_of_kind world.mounted (by simpa using plain.2)).symm

theorem leaves_modify {change : World → World}
    (still : ∀ world, (change world).history = world.history ∧
      (change world).mounted = world.mounted) :
    Within (World.Leaves kinds) (modify change : Session Unit) :=
  fun _ world => ⟨[], (still world).1, .nothing, (still world).2⟩

/-! ### The operator -/

/-- Every notice but those that begin or end a spell of work. -/
theorem leaves_tell (told : .told ∈ kinds) {notice : Notice}
    (plain : (Event.told notice).kind = .told) : Within (World.Leaves kinds) (tell notice) :=
  leaves_record told (by decide) plain

theorem leaves_ask (asked : .asked ∈ kinds) (told : .told ∈ kinds) (prompt : Prompt) :
    Within (World.Leaves kinds) (ask prompt) := by
  unfold ask
  refine within_read.bind fun environment => within_get.bind fun world => ?_
  have question : ∀ refusal, Within (World.Leaves kinds) (record (.asked prompt refusal)) :=
    fun _ => leaves_record asked (by decide) rfl
  split
  · exact (question _).bind fun _ => within_pure _
  · refine (question _).bind fun _ => .ite (fun _ => ?_) (fun _ => within_throw _)
    exact (leaves_tell told rfl).bind fun _ => within_throw _

theorem leaves_cancel (told : .told ∈ kinds) : Within (World.Leaves kinds) (cancel : Session α) :=
  (leaves_tell told rfl).bind fun _ => within_throw _

theorem leaves_requireConfirmation (asked : .asked ∈ kinds) (told : .told ∈ kinds)
    (message : String) (default warning : Bool) :
    Within (World.Leaves kinds) (requireConfirmation message default warning) :=
  (leaves_ask asked told _).bind fun _ => .ite (fun _ => leaves_cancel told) fun _ => within_pure _

theorem leaves_askCredential (asked : .asked ∈ kinds) (told : .told ∈ kinds) (text : String) :
    Within (World.Leaves kinds) (askCredential text) :=
  (leaves_ask asked told _).bind fun _ => (leaves_ask asked told _).bind fun _ => within_pure _

/-- A spell of work is closed, whether or not the work succeeds. -/
theorem leaves_busy (message : String) (result : Except Error α) :
    Within (World.Leaves kinds) (busy message result) := by
  intro environment world
  simp only [busy, runIn_bind, runIn_tell, runIn_ofExcept]
  exact ⟨[.told .endBusy, .told (.beginBusy message)], rfl, .spell message .nothing, rfl⟩

/-! ### Header slots -/

theorem leaves_readHeader (read : .read ∈ kinds) (slot : HeaderSlot) :
    Within (World.Leaves kinds) (readHeader slot) :=
  within_read.bind fun _ => within_get.bind fun _ =>
    (leaves_record read (by decide) rfl).bind fun _ => within_ofExcept _

theorem leaves_writeHeader (wrote : .wrote ∈ kinds) (slot : HeaderSlot) (bytes : HeaderBytes) :
    Within (World.Leaves kinds) (writeHeader slot bytes) := by
  intro environment world
  have one : ∀ kept result after, after.history = .wrote slot bytes kept result :: world.history →
      after.mounted = world.mounted → world.Leaves kinds after :=
    fun kept result after history mounted =>
      ⟨[.wrote slot bytes kept result], history, .event wrote nofun .nothing, mounted⟩
  rw [runIn_writeHeader]
  dsimp only
  split
  · exact one none _ _ rfl rfl
  · next stored _ =>
    split
    · exact one none _ _ rfl rfl
    · next changed ok =>
      exact one (some stored) _ _ (congrArg _ (World.store_elsewhere ok).2)
        (World.mounted_of_store ok :)

/-! ### Random bytes and mounting -/

theorem leaves_draw (drew : .drew ∈ kinds) (count : Nat) :
    Within (World.Leaves kinds) (draw count) := by
  unfold draw
  refine within_read.bind fun environment => within_get.bind fun world => ?_
  dsimp only
  split
  · refine (leaves_modify ?_).bind fun _ => ?_
    · exact fun _ => ⟨rfl, rfl⟩
    · exact (leaves_record drew (by decide) rfl).bind fun _ => within_throw _
  · refine (leaves_modify ?_).bind fun _ => ?_
    · exact fun _ => ⟨rfl, rfl⟩
    · exact (leaves_record drew (by decide) rfl).bind fun _ => within_pure _

theorem leaves_isMounted (queried : .queriedMount ∈ kinds) :
    Within (World.Leaves kinds) isMounted :=
  within_get.bind fun _ => (leaves_record queried (by decide) rfl).bind fun _ => within_pure _

theorem runIn_isMounted {environment : Environment} {world : World} :
    isMounted.runIn environment world =
      (.ok world.mounted, world.record (.queriedMount world.mounted)) := rfl

theorem runIn_dismount {environment : Environment} {world : World} :
    dismount.runIn environment world =
      match environment.mount.dismount world.history with
      | .ok () => (.ok (), { world.record (.dismounted (.ok ())) with mounted := false })
      | .error error => (.error error, world.record (.dismounted (.error error))) := by
  simp only [dismount, runIn_bind, runIn_read, runIn_get, runIn_record, runIn_ofExcept]
  cases environment.mount.dismount world.history with
  | error error => rfl
  | ok value => rfl

theorem runIn_mount {environment : Environment} {world : World} (credential : Credential) :
    (mount credential).runIn environment world =
      match environment.mount.mount world.history credential with
      | .ok target =>
          (.ok target, { world.record (.mounted credential (.ok target)) with mounted := true })
      | .error error => (.error error, world.record (.mounted credential (.error error))) := by
  simp only [mount, runIn_bind, runIn_read, runIn_get, runIn_record, runIn_ofExcept]
  cases environment.mount.mount world.history credential with
  | error error => rfl
  | ok target => rfl

theorem leaves_dismount (dismounted : .dismounted ∈ kinds) :
    Within (World.Leaves kinds) dismount := by
  intro environment world
  rw [runIn_dismount]
  cases environment.mount.dismount world.history with
  | error error => exact ⟨[.dismounted (.error error)], rfl, .event dismounted nofun .nothing, rfl⟩
  | ok value => exact ⟨[.dismounted (.ok ())], rfl, .event dismounted nofun .nothing, rfl⟩

theorem leaves_mount (mounted : .mounted ∈ kinds) (credential : Credential) :
    Within (World.Leaves kinds) (mount credential) := by
  intro environment world
  rw [runIn_mount]
  cases environment.mount.mount world.history credential with
  | error error =>
      exact ⟨[.mounted credential (.error error)], rfl, .event mounted nofun .nothing, rfl⟩
  | ok target =>
      exact ⟨[.mounted credential (.ok target)], rfl, .event mounted nofun .nothing, rfl⟩

/-! ### Files -/

theorem leaves_fileExists (path : Path) : Within (World.Leaves kinds) (fileExists path) :=
  within_get.bind fun _ => within_pure _

theorem leaves_loadBackup (path : Path) : Within (World.Leaves kinds) (loadBackup path) :=
  (within_get.bind fun _ => within_ofExcept _).bind fun _ => within_ofExcept _

theorem leaves_changeFiles (change : FileSystem → FileSystem × Except Error α) :
    Within (World.Leaves kinds) (changeFiles change) := by
  refine within_get.bind fun world => (leaves_modify ?_).bind fun _ => within_ofExcept _
  exact fun _ => ⟨rfl, rfl⟩

theorem leaves_saveFile (drew : .drew ∈ kinds) (saved : .saved ∈ kinds) (path : Path)
    (data : Bytes) : Within (World.Leaves kinds) (saveFile path data) := by
  refine Within.bind (.attempt ?_) fun _ =>
    (leaves_record saved (by decide) rfl).bind fun _ => within_ofExcept _
  exact (leaves_changeFiles _).bind fun _ => (leaves_draw drew _).bind fun _ =>
    (within_ofExcept _).bind fun _ => within_disk.bind fun _ => leaves_changeFiles _

/-! ### Runs that keep to a course quietly -/

theorem Within.idle {session : Session α} (quiet : Within World.Quiet session)
    (leaves : Within (World.Leaves kinds) session) : Within (World.Idle kinds) session :=
  fun environment world => ⟨quiet environment world, leaves environment world⟩

theorem idle_tell (told : .told ∈ kinds) {notice : Notice}
    (plain : (Event.told notice).kind = .told) : Within (World.Idle kinds) (tell notice) :=
  (quiet_tell _).idle (leaves_tell told plain)

theorem idle_requireConfirmation (asked : .asked ∈ kinds) (told : .told ∈ kinds) (message : String)
    (default warning : Bool) :
    Within (World.Idle kinds) (requireConfirmation message default warning) :=
  (quiet_requireConfirmation _ _ _).idle (leaves_requireConfirmation asked told _ _ _)

theorem idle_askCredential (asked : .asked ∈ kinds) (told : .told ∈ kinds) (text : String) :
    Within (World.Idle kinds) (askCredential text) :=
  (quiet_askCredential _).idle (leaves_askCredential asked told _)

theorem idle_readHeader (read : .read ∈ kinds) (slot : HeaderSlot) :
    Within (World.Idle kinds) (readHeader slot) :=
  (quiet_readHeader _).idle (leaves_readHeader read _)

end Session

end HeaderVault
