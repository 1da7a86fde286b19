import HeaderVault.Proofs.Protocol.GivingBack
import HeaderVault.Proofs.Protocol.Rewrapping

/-!
Protocols on a device that does what it is told.

There nothing can fail once a protocol has begun to write, as far as both slots can be read. So a
restore and an upgrade that fail have changed nothing at all (`restore_error_quiet`,
`upgrade_error_quiet`). Formatting is the exception: it may fail between its two headers.

A step that cannot be undone is not taken unless the operator agrees (`restore_agreed`).
-/

namespace HeaderVault

/-- A slot can be read if the other one can. -/
def World.ReadTogether (world : World) : Prop :=
  ∀ slot other bytes, world.stored slot = .ok bytes → ∃ found, world.stored other = .ok found

theorem World.Quiet.readTogether {world after : World} (quiet : world.Quiet after)
    (together : world.ReadTogether) : after.ReadTogether := by
  intro slot other bytes held
  rw [quiet.unharmed.stored slot] at held
  rw [quiet.unharmed.stored other]
  exact together slot other bytes held

namespace Protocol

open Session

variable {environment : Environment} {world : World}

theorem reads_of_faithful (faithful : environment.device = .faithful) (history : History)
    (slot : HeaderSlot) (stored : HeaderBytes) :
    environment.device.read history slot stored = .ok stored := by
  rw [faithful]
  rfl

theorem writes_of_faithful (faithful : environment.device = .faithful) (history : History)
    (slot : HeaderSlot) (old : Option HeaderBytes) (new : HeaderBytes) :
    environment.device.write history slot old new = ⟨some new, .ok ()⟩ := by
  rw [faithful]
  rfl

/-! ### Restoring -/

/-- A restore stops quietly, or goes on when the operator has agreed to it. -/
theorem restore_follows {post : Except Error RestoreSource → World → Prop}
    (fail : ∀ error after, world.Quiet after → post (.error error) after)
    (answered : ∀ candidate extra ready, world.Quiet ready →
      (∃ history files message,
        environment.operator history files (.confirm message false true) = .ok true) →
        (restoreAnswered candidate extra).Ends environment ready post) :
    restore.Ends environment world post := by
  refine .bind_quiet (Change.refl world) quiet_findCandidate fail ?_
  intro candidate _ since
  refine .bind_quiet since (quiet_askCredential _) fail ?_
  intro credential _ since
  refine .bind_quiet since (quiet_unlock _ _) fail ?_
  intro _ _ since
  refine .bind_quiet since (quiet_soundExtra _ _) fail ?_
  intro extra _ since
  refine .bind ((((quiet_requireConfirmation _ _ _).ends _ _).and
    (requireConfirmation_agreed _ _ _)).mono ?_)
  rintro (error | ⟨⟩) ready ⟨quiet, agreed⟩
  · exact fail error ready (Change.trans since quiet)
  · exact answered candidate extra ready (Change.trans since quiet) ⟨_, _, _, agreed rfl⟩

/-- No restore succeeds unless the operator agrees to it. -/
theorem restore_agreed :
    restore.Ends environment world fun result _ => ∀ source, result = .ok source →
      ∃ history files message,
        environment.operator history files (.confirm message false true) = .ok true :=
  restore_follows (fun _ _ _ _ => nofun) fun _ _ _ _ agreed _ _ => agreed

/-- Once it is agreed to a restore fails only before it writes. -/
theorem restoreAnswered_error_quiet (faithful : environment.device = .faithful)
    (apart : world.SlotsApart) (together : world.ReadTogether) (candidate : Candidate)
    (extra : Option HeaderBytes) :
    (restoreAnswered candidate extra).Ends environment world fun result after =>
      ∀ error, result = .error error → world.Quiet after := by
  cases held : world.stored .primary with
  | error fault =>
      refine .bind ((((quiet_readHeader _).ends _ _).and (readHeader_reads _)).mono ?_)
      rintro result after ⟨quiet, -, reads⟩
      rw [held] at reads
      rw [reads]
      exact fun _ _ => quiet
  | ok former =>
      refine (restoreAnswered_gives (reads_of_faithful faithful) (writes_of_faithful faithful) apart
        held candidate fun _ => together _ _ _ held).mono ?_
      rintro _ after ⟨rfl, -⟩
      exact fun _ => nofun

/-- A restore that fails has changed nothing. -/
theorem restore_error_quiet (faithful : environment.device = .faithful) (apart : world.SlotsApart)
    (together : world.ReadTogether) :
    restore.Ends environment world fun result after =>
      ∀ error, result = .error error → world.Quiet after := by
  refine restore_follows (fun _ _ quiet _ _ => quiet) ?_
  intro candidate extra ready since _
  refine (restoreAnswered_error_quiet faithful (since.unharmed.elsewhere.slotsApart apart)
    (since.readTogether together) candidate extra).mono ?_
  exact fun _ _ quiet error failed => Change.trans since (quiet error failed)

/-! ### Upgrading -/

/-- An upgrade that fails has changed nothing. -/
theorem upgrade_error_quiet {recommended : KdfParams} (faithful : environment.device = .faithful)
    (apart : world.SlotsApart) :
    (upgrade recommended).Ends environment world fun result after =>
      ∀ error, result = .error error → world.Quiet after := by
  have readsStored : environment.device.ReadsStored world.history := by
    rw [faithful]
    exact (DeviceBehaviour.recoverable_faithful world.history).readsStored
  refine upgrade_follows readsStored (fun _ _ quiet _ _ => quiet) (fun _ _ _ _ => nofun) ?_
  intro credential former header ready _ held opens since
  refine rewrapAll_follows readsStored since opens ?_ ?_
  · exact fun _ _ quiet _ still _ _ => Change.trans quiet still
  intro ready renewed embedded since _ found
  refine (commitBoth_succeeds (reads_of_faithful faithful) (writes_of_faithful faithful)
    (since.unharmed.elsewhere.slotsApart apart) ((since.unharmed.stored .primary).trans held)
    ?_).mono ?_
  · rintro both rfl
    exact (since.unharmed.stored .backup).trans found.1
  · rintro _ rewrapped rfl
    exact fun _ _ _ _ => nofun

end Protocol

end HeaderVault
