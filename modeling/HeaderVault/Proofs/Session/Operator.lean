import HeaderVault.Proofs.Session.Tracing

/-!
Where answers and random bytes come from: whatever a session is told, the operator has said, and
whatever it draws is what the source gives at that point. Questions do not use up random bytes. The
events of a run show whether a credential was gathered in it (`Gathered`).
-/

namespace HeaderVault

/-- A password and keyfiles that the operator may answer with. -/
def Environment.Gives (environment : Environment) (credential : Credential) : Prop :=
  (∃ history files text,
    environment.operator history files (.password text) = .ok credential.password) ∧
  ∃ history files, environment.operator history files .keyfiles = .ok credential.keyfiles

/-- Every password and all keyfiles that are given are those of a credential. -/
def Environment.OnlyGives (environment : Environment) (credential : Credential) : Prop :=
  (∀ history files text password, environment.operator history files (.password text) = .ok password →
    password = credential.password) ∧
  ∀ history files keyfiles, environment.operator history files .keyfiles = .ok keyfiles →
    keyfiles = credential.keyfiles

theorem Environment.OnlyGives.eq {environment : Environment} {credential given : Credential}
    (only : environment.OnlyGives credential) (gives : environment.Gives given) :
    given = credential := by
  obtain ⟨⟨history, files, text, password⟩, history', files', keyfiles⟩ := gives
  have samePassword := only.1 history files text _ password
  have sameKeyfiles := only.2 history' files' _ keyfiles
  cases given
  cases credential
  simp only at samePassword sameKeyfiles
  rw [samePassword, sameKeyfiles]

/-- In the course of these events since `start` the operator was asked for a password and for
keyfiles, and the answers make up the credential. -/
inductive Gathered (environment : Environment) (start : World) (credential : Credential) :
    History → Prop
  | now (text : String) (earlier : History)
      (password : environment.operator (earlier ++ start.history) start.files (.password text) =
        .ok credential.password)
      (keyfiles : environment.operator (.asked (.password text) none :: earlier ++ start.history)
        start.files .keyfiles = .ok credential.keyfiles) :
      Gathered environment start credential
        (.asked .keyfiles none :: .asked (.password text) none :: earlier)
  | before (event : Event) {earlier : History}
      (gathered : Gathered environment start credential earlier) :
      Gathered environment start credential (event :: earlier)

theorem Gathered.append {environment : Environment} {start : World} {credential : Credential}
    {earlier : History} (gathered : Gathered environment start credential earlier)
    (later : History) : Gathered environment start credential (later ++ earlier) := by
  induction later with
  | nil => exact gathered
  | cons event later rest => exact .before event rest

theorem Gathered.gives {environment : Environment} {start : World} {credential : Credential}
    {events : History} (gathered : Gathered environment start credential events) :
    environment.Gives credential := by
  induction gathered with
  | now text earlier password keyfiles => exact ⟨⟨_, _, text, password⟩, _, _, keyfiles⟩
  | before event _ gives => exact gives

/-- No random bytes were asked for. -/
def World.SameEntropy (world after : World) : Prop := after.entropy = world.entropy

instance : Session.Change World.SameEntropy where
  refl _ := rfl
  trans first second := Eq.trans second first

namespace Session

variable {environment : Environment} {world : World}

theorem runIn_ask (prompt : Prompt) :
    (ask prompt).runIn environment world =
      match environment.operator world.history world.files prompt with
      | .ok answer => (.ok answer, world.record (.asked prompt none))
      | .error refusal =>
          (.error refusal.error,
            if refusal.announced then
              (world.record (.asked prompt (some refusal.error))).record (.told .cancelled)
            else world.record (.asked prompt (some refusal.error))) := by
  rw [ask, runIn_bind, runIn_read]
  simp only [runIn_bind, runIn_get]
  cases environment.operator world.history world.files prompt with
  | ok answer => simp only [runIn_bind, runIn_record, runIn_pure]
  | error refusal =>
      simp only [runIn_bind, runIn_record]
      split
      · simp only [runIn_bind, runIn_tell, runIn_throw]
      · simp only [runIn_throw]

/-- An answer leaves its question behind, and nothing else. -/
theorem ask_ends (prompt : Prompt) :
    (ask prompt).Ends environment world fun result after => ∀ answer, result = .ok answer →
      environment.operator world.history world.files prompt = .ok answer ∧
        after = world.record (.asked prompt none) := by
  unfold Ends
  rw [runIn_ask]
  cases environment.operator world.history world.files prompt with
  | ok said =>
      rintro answer ⟨⟩
      exact ⟨rfl, rfl⟩
  | error refusal =>
      intro answer ok
      cases ok

/-- An answer is what the operator says to the question as things are. -/
theorem ask_answer (prompt : Prompt) :
    (ask prompt).Ends environment world fun result _ => ∀ answer, result = .ok answer →
      environment.operator world.history world.files prompt = .ok answer :=
  (ask_ends prompt).mono fun _ _ answered answer ok => (answered answer ok).1

/-- An operator who always gives the same answer gives it now. -/
theorem ask_succeeds {prompt : Prompt} {answer : prompt.Answer}
    (given : ∀ history files, environment.operator history files prompt = .ok answer) :
    ((ask prompt).runIn environment world).1 = .ok answer := by
  rw [runIn_ask, given]

theorem requireConfirmation_succeeds
    (confirm : ∀ history files message default warning,
      environment.operator history files (.confirm message default warning) = .ok true)
    (message : String) (default warning : Bool) :
    ((requireConfirmation message default warning).runIn environment world).1 = .ok () := by
  have agrees := fun history files => confirm history files message default warning
  rw [requireConfirmation, runIn_bind_ok (ask_succeeds agrees)]
  rfl

/-- A confirmation goes on only if the operator agrees. -/
theorem requireConfirmation_agreed (message : String) (default warning : Bool) :
    (requireConfirmation message default warning).Ends environment world fun result _ =>
      result = .ok () → environment.operator world.history world.files
        (.confirm message default warning) = .ok true := by
  refine .bind ((ask_answer _).mono ?_)
  rintro (error | agreed) asked said
  · exact nofun
  cases agreed with
  | false => exact nofun
  | true => exact fun _ => said true rfl

theorem askCredential_succeeds {credential : Credential}
    (password : ∀ history files text,
      environment.operator history files (.password text) = .ok credential.password)
    (keyfiles : ∀ history files, environment.operator history files .keyfiles = .ok credential.keyfiles)
    (text : String) : ((askCredential text).runIn environment world).1 = .ok credential := by
  rw [askCredential, runIn_bind_ok (ask_succeeds fun history files => password history files text),
    runIn_bind_ok (ask_succeeds keyfiles)]
  rfl

/-- A credential that comes out was gathered just now. -/
theorem askCredential_gathers {start : World} (since : start.Quiet world) (text : String) :
    (askCredential text).Ends environment world fun result after => start.Quiet after ∧
      ∀ credential, result = .ok credential →
        start.Since (Gathered environment start credential) after := by
  have gathers : (askCredential text).Ends environment world fun result after =>
      ∀ credential, result = .ok credential →
        start.Since (Gathered environment start credential) after := by
    refine .bind_yields (ask_ends _) ?_
    intro password asked answered
    obtain ⟨saidPassword, rfl⟩ := answered password rfl
    refine .bind_yields (ask_ends _) ?_
    intro keyfiles after answered
    obtain ⟨saidKeyfiles, rfl⟩ := answered keyfiles rfl
    rintro _ ⟨⟩
    obtain ⟨events, history, -⟩ := since.history
    rw [since.files, history] at saidPassword
    refine ⟨_, ?_, .now text events saidPassword ?_⟩
    · exact congrArg (.asked .keyfiles none :: .asked (.password text) none :: ·) history
    · rw [← since.files, List.cons_append, ← history]
      exact saidKeyfiles
  exact ⟨Change.trans since (quiet_askCredential text environment world), gathers⟩

theorem askCredential_gives (text : String) :
    (askCredential text).Ends environment world fun result _ =>
      ∀ credential, result = .ok credential → environment.Gives credential := by
  refine (askCredential_gathers (Change.refl world) text).mono ?_
  rintro result after ⟨-, gathers⟩ credential ok
  obtain ⟨events, -, gathered⟩ := gathers credential ok
  exact gathered.gives

theorem sameEntropy_ask (prompt : Prompt) : Within World.SameEntropy (ask prompt) := by
  intro environment world
  rw [runIn_ask]
  cases environment.operator world.history world.files prompt with
  | ok answer => rfl
  | error refusal =>
      dsimp only
      split <;> rfl

theorem sameEntropy_askCredential (text : String) :
    Within World.SameEntropy (askCredential text) :=
  (sameEntropy_ask _).bind fun _ => (sameEntropy_ask _).bind fun _ => within_pure _

/-! ### Random bytes -/

theorem runIn_draw (count : Nat) :
    (draw count).runIn environment world =
      let request := world.entropy.requests + 1
      match environment.entropy request world.entropy.taken count with
      | none =>
          (.error .random,
            { world with entropy := { world.entropy with requests := request } }.record
              (.drew count false))
      | some octets =>
          (.ok octets,
            { world with entropy := ⟨request, world.entropy.taken + count⟩ }.record
              (.drew count true)) := by
  rw [draw, runIn_bind, runIn_read]
  simp only [runIn_bind, runIn_get]
  cases environment.entropy (world.entropy.requests + 1) world.entropy.taken count with
  | none => simp only [runIn_bind, runIn_modify, runIn_record, runIn_throw]
  | some octets => simp only [runIn_bind, runIn_modify, runIn_record, runIn_pure]

theorem draw_result (count : Nat) :
    (draw count).Ends environment world fun result _ => ∀ octets, result = .ok octets →
      environment.entropy (world.entropy.requests + 1) world.entropy.taken count = some octets := by
  intro octets ok
  rw [runIn_draw] at ok
  cases drawn : environment.entropy (world.entropy.requests + 1) world.entropy.taken count with
  | none =>
      simp only [drawn] at ok
      cases ok
  | some found =>
      simp only [drawn] at ok
      exact congrArg some (Except.ok.inj ok)

end Session

end HeaderVault
