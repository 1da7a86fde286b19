import HeaderVault.Proofs.Protocol.Mounting
import HeaderVault.Proofs.Protocol.Restore
import HeaderVault.Proofs.Session.Asking

/-!
What the operator refuses is not done.

All questions of an operation come before it writes a header or a file. An operation in which a
question is refused ends with that error and has changed nothing, but for the volume that an upgrade
has dismounted: that is mounted again. Spells of work have nothing in between, whatever happens
(`operations_heed_prompts`).
-/

namespace HeaderVault.Protocol

open Session

/-- What can be relied on about the questions of an operation, and about its spells of work. -/
structure PromptDiscipline {α : Type} (environment : Environment) (start : World)
    (result : Except Error α) (after : World) (events : History) : Prop where
  /-- A question that is refused ends the operation with its error, and no header and no file was
  written. -/
  refusals : ∀ error, Refused environment start events error →
    result = .error error ∧ start.Quiet after
  /-- A volume that was dismounted is mounted again, or it was tried. -/
  remounts : .dismounted (.ok ()) ∈ events → events.countP (·.kind = .mounted) = 1
  /-- Nothing is asked after a header or a file was written. -/
  questions : ∀ prompt refusal earlier, .asked prompt refusal :: earlier <:+ events →
    ∀ event ∈ earlier, event.kind ≠ .wrote ∧ event.kind ≠ .saved
  /-- Every spell of work ends as soon as it has begun, and so before anything else happens. -/
  spells : Course [.asked, .told, .read, .wrote, .drew, .queriedMount, .dismounted, .mounted, .saved]
    events

theorem PromptDiscipline.of_heeds {α : Type} {environment : Environment} {start after : World}
    {result : Except Error α} {events : History} (heeds : Heeds environment start result after events)
    (remounts : .dismounted (.ok ()) ∈ events → events.countP (·.kind = .mounted) = 1) :
    PromptDiscipline environment start result after events := by
  obtain ⟨⟨acts, questions, rfl, acting, preparing⟩, refusals⟩ := heeds
  refine ⟨refusals, remounts, ?_, ?_⟩
  · intro prompt refusal earlier asked event occurs
    have before := acting.suffix_of_append asked .asked (by decide) rfl
    have inside := ((List.suffix_cons _ earlier).trans before).mem occurs
    exact ⟨preparing.kind_ne .wrote (by decide) event inside,
      preparing.kind_ne .saved (by decide) event inside⟩
  · exact (acting.mono (by decide)).append (preparing.mono (by decide))

section

variable {environment : Environment} {world : World} {credential : Credential}

/-! ### Formatting -/

theorem format_heeds (kdf : KdfParams) (dataSize : UInt64) :
    (format kdf dataSize).Ends environment world fun result after =>
      world.Since (Heeds environment world result after) after := by
  refine .bind_heard (askCredential_heard (.refl environment world) _) (fun _ _ => Heard.heeds) ?_
  intro credential _ heard
  refine .bind_heard (ask_heard_of_accepted heard nofun) (fun _ _ => Heard.heeds) ?_
  intro _ _ heard
  exact (leaves_formatAnswered (by decide) (by decide) (by decide) (by decide) credential kdf
    dataSize).acts heard

/-! ### Backing up -/

theorem backup_heeds :
    backup.Ends environment world fun result after =>
      world.Since (Heeds environment world result after) after := by
  refine .bind_heard (ask_heard_of_accepted (.refl environment world) nofun)
    (fun _ _ => Heard.heeds) ?_
  intro path _ heard
  refine .bind_heard (((quiet_fileExists _).idle (leaves_fileExists _)).heard heard)
    (fun _ _ => Heard.heeds) ?_
  intro there found heard
  refine .bind_heard_ite (heard.idle (Change.refl found)) (requireConfirmation_heard heard _ _ _)
    (fun _ _ => Heard.heeds) ?_
  intro _ heard
  refine .bind_heard (askCredential_heard heard _) (fun _ _ => Heard.heeds) ?_
  intro credential _ heard
  exact (leaves_backupAnswered (by decide) (by decide) (by decide) (by decide) path credential).acts
    heard

/-! ### Restoring -/

theorem chooseEmbedded_heard :
    chooseEmbedded.Ends environment world (Heard environment world) := by
  refine ends_hasBackupSlot_bind ?_
  split
  · refine .bind ((ask_heard Bool (.refl environment world) _).mono ?_)
    rintro (error | answer) after asked
    · exact asked
    · dsimp only
      split
      · exact asked _ nofun
      · exact asked _ nofun
      · exact asked _ nofun
      · exact cancel_heard (asked _ fun _ => rfl)
  · exact (Heard.refl environment world).idle (Change.refl world)

theorem findCandidate_heard :
    findCandidate.Ends environment world (Heard environment world) := by
  refine .bind_heard chooseEmbedded_heard (fun _ _ => id) ?_
  intro embedded _ heard
  cases embedded with
  | true =>
      refine .bind_heard ((idle_readHeader (by decide) _).heard heard)
        (fun _ _ => id) fun _ read heard => ?_
      exact heard.idle (Change.refl read)
  | false =>
      refine .bind_heard (ask_heard_of_accepted heard nofun) (fun _ _ => id) fun _ _ heard => ?_
      refine .bind_heard (((quiet_loadBackup _).idle (leaves_loadBackup _)).heard heard)
        (fun _ _ => id) fun _ loaded heard => ?_
      exact heard.idle (Change.refl loaded)

theorem restore_heeds :
    restore.Ends environment world fun result after =>
      world.Since (Heeds environment world result after) after := by
  refine .bind_heard findCandidate_heard (fun _ _ => Heard.heeds) ?_
  intro candidate _ heard
  refine .bind_heard (askCredential_heard heard _) (fun _ _ => Heard.heeds) ?_
  intro credential _ heard
  refine .bind_heard ((idle_unlock _ _).heard heard)
    (fun _ _ => Heard.heeds) ?_
  intro _ _ heard
  refine .bind_heard (((quiet_soundExtra _ _).idle (leaves_soundExtra (by decide) _ _)).heard heard)
    (fun _ _ => Heard.heeds) ?_
  intro extra _ heard
  refine .bind_heard (requireConfirmation_heard heard _ _ _) (fun _ _ => Heard.heeds) ?_
  intro _ _ heard
  exact (leaves_restoreAnswered (by decide) (by decide) (by decide) candidate extra).acts heard

/-! ### Upgrading -/

theorem rewrapAll_heeds {α : Type} {value : α} {start : World}
    (heard : Heard environment start (.ok value) world)
    (header : VolumeHeader) (former : HeaderBytes) (kdf : KdfParams) :
    (rewrapAll credential header former kdf).Ends environment world fun result after =>
      start.Since (Heeds environment start result after) after := by
  refine .bind_heard (ask_heard_of_accepted heard nofun) (fun _ _ => Heard.heeds) ?_
  intro _ _ heard
  refine Within.acts ?_ heard
  exact leaves_rewrapBoth (by decide) (by decide) (by decide) (by decide) _ _ _ _

/-- Mounting again and reporting take nothing back. -/
theorem report_heeds {start : World} {before recommended : KdfParams} {outcome : Except Error Unit}
    {mounting : Session (Option String)}
    (heeds : start.Since (Heeds environment start outcome world) world)
    (quiet : Within World.Quiet mounting) (leaves : Within (World.Leaves acting) mounting)
    (mounts : mounting.Ends environment world fun result _ => ∃ target, result = .ok target)
    (notice : Notice) (plain : (Event.told notice).kind = .told) :
    (do
      let remounted ← mounting
      Session.ofExcept outcome
      tell notice
      return UpgradeOutcome.upgraded before recommended remounted).Ends environment world
        fun result after => start.Since (Heeds environment start result after) after := by
  refine .bind ((((quiet.ends _ _).and (leaves.ends _ _)).and mounts).mono ?_)
  rintro _ settled ⟨⟨still, left⟩, target, rfl⟩
  cases outcome with
  | error error =>
      refine World.Since.heeds_later heeds still left ?_
      rintro _ ⟨⟩
      rfl
  | ok value =>
      have told : World.Leaves acting settled _ := leaves_tell (by decide) plain environment settled
      exact World.Since.heeds_later heeds (Change.trans still (quiet_tell notice environment settled))
        (Change.trans left told) nofun

theorem upgrade_heeds (recommended : KdfParams) :
    (upgrade recommended).Ends environment world fun result after =>
      world.Since (Heeds environment world result after) after := by
  have heard := Heard.refl environment world
  refine .bind_heard ((idle_readHeader (by decide) _).heard heard)
    (fun _ _ => Heard.heeds) ?_
  intro former _ heard
  refine .bind_heard ((within_ofExcept _).heard heard) (fun _ _ => Heard.heeds) ?_
  intro cleartext _ heard
  dsimp only
  split
  · exact Within.acts ((leaves_tell (by decide) rfl).bind fun _ => within_pure _) heard
  refine .bind_heard (requireConfirmation_heard heard _ _ _) (fun _ _ => Heard.heeds) ?_
  intro _ _ heard
  refine .bind_heard (askCredential_heard heard _) (fun _ _ => Heard.heeds) ?_
  intro credential _ heard
  refine .bind_heard ((idle_unlock _ _).heard heard)
    (fun _ _ => Heard.heeds) ?_
  intro header _ heard
  refine .bind_heard ((quiet_isMounted.idle (leaves_isMounted (by decide))).heard heard)
    (fun _ _ => Heard.heeds) ?_
  intro mounted ready heard
  cases mounted with
  | false =>
      refine .bind (.attempt ((rewrapAll_heeds heard header former recommended).mono ?_))
      intro outcome rewrapped heeds
      exact report_heeds heeds (within_pure none) (within_pure none) ⟨none, rfl⟩ _ rfl
  | true =>
      refine .bind_heard ((quiet_dismount.idle (leaves_dismount (by decide))).heard heard)
        (fun _ _ => Heard.heeds) ?_
      intro _ dismounted heard
      refine .bind (.attempt ((rewrapAll_heeds heard header former recommended).mono ?_))
      intro outcome rewrapped heeds
      exact report_heeds heeds (quiet_remount credential)
        (leaves_remount (by decide) (by decide) credential) remount_result _ rfl

/-! ### Every operation -/

/-- An operation that dismounts nothing needs to mount nothing. -/
theorem disciplined {α : Type} {operation : Session α} {kinds : List Event.Kind}
    (heeds : operation.Ends environment world fun result after =>
      world.Since (Heeds environment world result after) after)
    (leaves : Within (World.Leaves kinds) operation) (unnamed : .dismounted ∉ .busy :: kinds) :
    operation.Ends environment world fun result after =>
      world.Since (PromptDiscipline environment world result after) after := by
  refine (heeds.and (leaves.ends environment world)).mono ?_
  rintro result after ⟨heeds, left⟩
  refine (heeds.and left).mono ?_
  rintro events ⟨heeds, course, -⟩
  exact .of_heeds heeds fun dismounted =>
    absurd dismounted (course.notMem .dismounted unnamed rfl)

/-- Whatever the operator, the device, the source of random bytes and mounting do: questions come
first, a question that is refused ends an operation with its error and with nothing changed, and
spells of work have nothing in between. -/
theorem operations_heed_prompts (environment : Environment) (world : World) :
    (∀ kdf dataSize, (format kdf dataSize).Ends environment world fun result after =>
      world.Since (PromptDiscipline environment world result after) after) ∧
    (backup.Ends environment world fun result after =>
      world.Since (PromptDiscipline environment world result after) after) ∧
    (restore.Ends environment world fun result after =>
      world.Since (PromptDiscipline environment world result after) after) ∧
    ∀ recommended, (upgrade recommended).Ends environment world fun result after =>
      world.Since (PromptDiscipline environment world result after) after := by
  refine ⟨fun kdf dataSize => ?_, ?_, ?_, fun recommended => ?_⟩
  · exact disciplined (format_heeds kdf dataSize) (leaves_format kdf dataSize) (by decide)
  · exact disciplined backup_heeds leaves_backup (by decide)
  · exact disciplined restore_heeds leaves_restore (by decide)
  · refine ((upgrade_heeds recommended).and (upgrade_course recommended)).mono ?_
    rintro result after ⟨heeds, course⟩
    refine (heeds.and course).mono fun events both => ?_
    exact .of_heeds both.1 fun dismounted => (both.2.mounts_once dismounted).1

end

end HeaderVault.Protocol
