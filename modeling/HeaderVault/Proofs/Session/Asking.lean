import HeaderVault.Proofs.Session.Course

/-!
Sessions that ask before they act.

A question is refused when an error comes instead of an answer, and when the answer declines what
was to be done (`Refused`). As long as a session only asks, reads and prepares, a refusal is what it
ends with (`Heard`); sessions that go on from there without asking take nothing of that back
(`Heeds`). The rules follow a session bind by bind, in the order of `HeaderVault.Session`.
-/

namespace HeaderVault

/-! ### Refusals -/

/-- A confirmation that is declined, and a choice that is not made. -/
def Prompt.Declines : (prompt : Prompt) → prompt.Answer → Prop
  | .confirm _ _ _, answer => answer = false
  | .choose _ _, answer => answer = none
  | _, _ => False

/-- In the course of these events since `start` a question was refused, which comes to an error. -/
inductive Refused (environment : Environment) (start : World) (events : History) : Error → Prop
  | unanswered {prompt : Prompt} {error : Error} {earlier : History}
      (asked : .asked prompt (some error) :: earlier <:+ events) :
      Refused environment start events error
  | declined {prompt : Prompt} {answer : prompt.Answer} {earlier : History}
      (asked : .asked prompt none :: earlier <:+ events)
      (said : environment.operator (earlier ++ start.history) start.files prompt = .ok answer)
      (declines : prompt.Declines answer) : Refused environment start events .cancelled

namespace Refused

variable {environment : Environment} {start : World} {later events : History} {error : Error}

/-- What happens without a question refuses nothing. -/
theorem of_append (refused : Refused environment start (later ++ events) error)
    {kinds : List Event.Kind} (course : Course kinds later) (silent : .asked ∉ .busy :: kinds) :
    Refused environment start events error := by
  cases refused with
  | unanswered asked => exact .unanswered (course.suffix_of_append asked .asked silent rfl)
  | declined asked said declines =>
      exact .declined (course.suffix_of_append asked .asked silent rfl) said declines

/-- A question that is not answered, after others that were not refused. -/
theorem eq_of_unanswered {prompt : Prompt} {refusal : Error}
    (refused : Refused environment start (.asked prompt (some refusal) :: events) error)
    (answered : ¬Refused environment start events error) : error = refusal := by
  cases refused with
  | unanswered asked =>
      rcases List.suffix_cons_iff.mp asked with same | before
      · cases same
        rfl
      · exact absurd (.unanswered before) answered
  | declined asked said declines =>
      exact absurd (.declined (suffix_of_cons asked nofun) said declines) answered

/-- A question that is answered, after others that were not refused. -/
theorem declines_of_answered {prompt : Prompt} {answer : prompt.Answer}
    (refused : Refused environment start (.asked prompt none :: events) error)
    (answered : ¬Refused environment start events error)
    (said : environment.operator (events ++ start.history) start.files prompt = .ok answer) :
    prompt.Declines answer ∧ error = .cancelled := by
  cases refused with
  | unanswered asked => exact absurd (.unanswered (suffix_of_cons asked nofun)) answered
  | declined asked saidThen declines =>
      rcases List.suffix_cons_iff.mp asked with same | before
      · obtain ⟨⟨⟩, rfl⟩ := List.cons.inj same
        obtain ⟨⟩ := Except.ok.inj (said.symm.trans saidThen)
        exact ⟨declines, rfl⟩
      · exact absurd (.declined before saidThen declines) answered

end Refused

/-! ### Before anything is done -/

/-- What is done before anything is written. -/
def preparing : List Event.Kind := [.asked, .told, .read, .drew, .queriedMount, .dismounted]

/-- What needs no question. -/
def silent : List Event.Kind := [.told, .read, .drew, .queriedMount, .dismounted]

/-- What is done when all questions are asked. -/
def acting : List Event.Kind := [.told, .read, .wrote, .drew, .mounted, .saved]

/-- Nothing has been done yet, and a refusal is what has come of it. -/
structure Heard {α : Type} (environment : Environment) (start : World) (result : Except Error α)
    (after : World) : Prop where
  quiet : start.Quiet after
  since : start.Since (fun events => Course preparing events ∧
    ∀ error, Refused environment start events error → result = .error error) after

/-- Questions come before what is done, and nothing is done when a question is refused. -/
structure Heeds {α : Type} (environment : Environment) (start : World) (result : Except Error α)
    (after : World) (events : History) : Prop where
  order : ∃ acts questions, events = acts ++ questions ∧ Course acting acts ∧ Course preparing questions
  refusals : ∀ error, Refused environment start events error →
    result = .error error ∧ start.Quiet after

namespace Heard

variable {α β : Type} {environment : Environment} {start world after : World}

theorem refl (environment : Environment) (world : World) :
    Heard environment world (.ok ()) world := by
  refine ⟨Session.Change.refl world, [], rfl, .nothing, ?_⟩
  rintro error (⟨asked⟩ | ⟨asked⟩)
  · cases List.suffix_nil.mp asked
  · cases List.suffix_nil.mp asked

/-- An error stays what has come of it. -/
theorem error {fault : Error} (heard : Heard environment start (.error fault : Except Error α) after) :
    Heard environment start (.error fault : Except Error β) after := by
  refine ⟨heard.quiet, heard.since.mono ?_⟩
  rintro events ⟨course, refusals⟩
  refine ⟨course, fun error refused => ?_⟩
  cases refusals error refused
  rfl

/-- As long as nothing was refused a session may go on without asking, and end as it likes. -/
theorem idle {value : α} {result : Except Error β} (heard : Heard environment start (.ok value) world)
    (idle : world.Idle silent after) : Heard environment start result after := by
  obtain ⟨events, history, course, refusals⟩ := heard.since
  obtain ⟨later, historyAfter, goesOn, -⟩ := idle.leaves
  refine ⟨Session.Change.trans heard.quiet idle.quiet, later ++ events, ?_, ?_, ?_⟩
  · rw [historyAfter, history, List.append_assoc]
  · exact (goesOn.mono (by decide)).append course
  · intro error refused
    cases refusals error (refused.of_append goesOn (by decide))

/-- Nothing has been done when a question is refused. -/
theorem heeds {result : Except Error α} (heard : Heard environment start result after) :
    start.Since (Heeds environment start result after) after := by
  refine heard.since.mono ?_
  rintro events ⟨course, refusals⟩
  exact ⟨⟨[], events, rfl, .nothing, course⟩, fun error refused =>
    ⟨refusals error refused, heard.quiet⟩⟩

/-- What is done once all questions are answered. -/
theorem acts {value : α} {result : Except Error β} (heard : Heard environment start (.ok value) world)
    (leaves : world.Leaves acting after) :
    start.Since (Heeds environment start result after) after := by
  obtain ⟨events, history, course, refusals⟩ := heard.since
  obtain ⟨later, historyAfter, goesOn, -⟩ := leaves
  refine ⟨later ++ events, ?_, ⟨later, events, rfl, goesOn, course⟩, ?_⟩
  · rw [historyAfter, history, List.append_assoc]
  · intro error refused
    cases refusals error (refused.of_append goesOn (by decide))

/-- A question that is not answered. -/
theorem unanswered {value : α} (heard : Heard environment start (.ok value) world) (prompt : Prompt)
    (refusal : Error) : Heard environment start (.error refusal : Except Error β)
      (world.record (.asked prompt (some refusal))) := by
  obtain ⟨events, history, course, refusals⟩ := heard.since
  refine ⟨Session.Change.trans heard.quiet (.record id), _ :: events, congrArg _ history, ?_, ?_⟩
  · exact .event (show Event.Kind.asked ∈ preparing by decide) nofun course
  · intro error refused
    rw [refused.eq_of_unanswered fun before => nomatch refusals error before]

/-- An answer that does not decline. -/
theorem answered {value : α} {prompt : Prompt} {answer : prompt.Answer} {result : Except Error β}
    (heard : Heard environment start (.ok value) world)
    (said : environment.operator world.history world.files prompt = .ok answer)
    (accepted : prompt.Declines answer → result = .error .cancelled) :
    Heard environment start result (world.record (.asked prompt none)) := by
  obtain ⟨events, history, course, refusals⟩ := heard.since
  refine ⟨Session.Change.trans heard.quiet (.record id), _ :: events, congrArg _ history, ?_, ?_⟩
  · exact .event (show Event.Kind.asked ∈ preparing by decide) nofun course
  · intro error refused
    rw [history, heard.quiet.files] at said
    obtain ⟨declines, rfl⟩ :=
      refused.declines_of_answered (fun before => nomatch refusals error before) said
    exact accepted declines

/-- What is told after a refusal. -/
theorem told {fault : Error} (heard : Heard environment start (.error fault : Except Error α) world)
    {notice : Notice} (plain : (Event.told notice).kind = .told) :
    Heard environment start (.error fault : Except Error α) (world.record (.told notice)) := by
  obtain ⟨events, history, course, refusals⟩ := heard.since
  refine ⟨Session.Change.trans heard.quiet (.record id), _ :: events, congrArg _ history, ?_, ?_⟩
  · exact course.tells (by decide) plain
  · intro error refused
    have one : Course [.told] [.told notice] := .tells .nothing (by decide) plain
    have before : Refused environment start ([.told notice] ++ events) error := refused
    cases refusals error (before.of_append one (by decide))
    rfl

end Heard

/-- What follows without a question, and passes an error on, takes nothing back. -/
theorem World.Since.heeds_later {α β : Type} {environment : Environment} {start world after : World}
    {result : Except Error α} {final : Except Error β}
    (heeds : start.Since (Heeds environment start result world) world) (quiet : world.Quiet after)
    (leaves : world.Leaves acting after)
    (passes : ∀ error, result = .error error → final = .error error) :
    start.Since (Heeds environment start final after) after := by
  obtain ⟨events, history, ⟨acts, questions, rfl, acting, preparing⟩, refusals⟩ := heeds
  obtain ⟨later, historyAfter, goesOn, -⟩ := leaves
  refine ⟨later ++ (acts ++ questions), ?_, ⟨later ++ acts, questions, ?_, ?_, preparing⟩, ?_⟩
  · rw [historyAfter, history, List.append_assoc later]
  · rw [List.append_assoc]
  · exact goesOn.append acting
  · intro error refused
    obtain ⟨stopped, since⟩ := refusals error (refused.of_append goesOn (by decide))
    exact ⟨passes error stopped, Session.Change.trans since quiet⟩

namespace Session

variable {α β : Type} {environment : Environment} {start world : World}

/-! ### Rules -/

/-- Goes on as long as nothing is refused. -/
theorem Ends.bind_heard {first : Session α} {next : α → Session β}
    {post : Except Error β → World → Prop}
    (ends : first.Ends environment world (Heard environment start))
    (fail : ∀ error after, Heard environment start (.error error : Except Error β) after →
      post (.error error) after)
    (step : ∀ value after, Heard environment start (.ok value) after →
      (next value).Ends environment after post) :
    (first >>= next).Ends environment world post := by
  refine .bind (ends.mono ?_)
  rintro (error | value) after heard
  · exact fail error after heard.error
  · exact step value after heard

/-- Goes on as long as nothing is refused, after a step that may be left out. -/
theorem Ends.bind_heard_ite {condition : Prop} [Decidable condition] {first : Session Unit}
    {next : Unit → Session β} {post : Except Error β → World → Prop}
    (heard : Heard environment start (.ok ()) world)
    (ends : first.Ends environment world (Heard environment start))
    (fail : ∀ error after, Heard environment start (.error error : Except Error β) after →
      post (.error error) after)
    (step : ∀ after, Heard environment start (.ok ()) after →
      (next ()).Ends environment after post) :
    (if condition then first >>= next else next ()).Ends environment world post := by
  split
  · exact .bind_heard ends fail fun _ => step
  · exact step world heard

theorem Within.heard {session : Session β} (idle : Within (World.Idle silent) session) {value : α}
    (heard : Heard environment start (.ok value) world) :
    session.Ends environment world (Heard environment start) :=
  heard.idle (idle environment world)

/-- Whatever is done once all questions are answered. -/
theorem Within.acts {session : Session β} (leaves : Within (World.Leaves acting) session) {value : α}
    (heard : Heard environment start (.ok value) world) :
    session.Ends environment world fun result after =>
      start.Since (Heeds environment start result after) after :=
  heard.acts (leaves environment world)

/-- A question is refused, or its answer counts unless it declines. -/
theorem ask_heard (β : Type) {value : α} (heard : Heard environment start (.ok value) world)
    (prompt : Prompt) :
    (ask prompt).Ends environment world fun result after =>
      match result with
      | .error error => Heard environment start (.error error : Except Error β) after
      | .ok answer => ∀ result : Except Error β,
          (prompt.Declines answer → result = .error .cancelled) →
            Heard environment start result after := by
  unfold Ends
  rw [runIn_ask]
  cases said : environment.operator world.history world.files prompt with
  | ok answer => exact fun result accepted => heard.answered said accepted
  | error refusal =>
      dsimp only
      split
      · exact (heard.unanswered prompt refusal.error).told rfl
      · exact heard.unanswered prompt refusal.error

/-- A question to which every answer will do. -/
theorem ask_heard_of_accepted {value : α} (heard : Heard environment start (.ok value) world)
    {prompt : Prompt} (accepted : ∀ answer, ¬prompt.Declines answer) :
    (ask prompt).Ends environment world (Heard environment start) := by
  refine (ask_heard prompt.Answer heard prompt).mono ?_
  rintro (error | answer) after
  · exact id
  · exact fun asked => asked _ fun declines => absurd declines (accepted answer)

theorem cancel_heard (heard : Heard environment start (.error .cancelled : Except Error α) world) :
    (cancel : Session α).Ends environment world (Heard environment start) :=
  heard.told rfl

/-- A confirmation that is declined is a refusal. -/
theorem requireConfirmation_heard {value : α} (heard : Heard environment start (.ok value) world)
    (message : String) (default warning : Bool) :
    (requireConfirmation message default warning).Ends environment world
      (Heard environment start) := by
  refine .bind ((ask_heard Unit heard (.confirm message default warning)).mono ?_)
  rintro (error | answer) after asked
  · exact asked
  · cases answer with
    | false => exact cancel_heard (asked _ fun _ => rfl)
    | true => exact asked _ nofun

theorem askCredential_heard {value : α} (heard : Heard environment start (.ok value) world)
    (text : String) : (askCredential text).Ends environment world (Heard environment start) := by
  refine .bind_heard (ask_heard_of_accepted heard nofun) (fun _ _ => id) fun _ _ heard => ?_
  refine .bind_heard (ask_heard_of_accepted heard nofun) (fun _ _ => id) fun _ _ heard => ?_
  exact heard.idle (Change.refl _)

end Session

end HeaderVault
