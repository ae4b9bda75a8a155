import SqlGateway.Proofs.Scenario.Command

namespace SqlGateway
namespace Scenario

/-!
# Passwords are not told

Two scripts that differ in the passwords in them are run over one driver, which responds and fails
in both runs as it was told to.  By induction over the steps, and over the depth to which hooks are
nested, each step comes to one failure in both runs, or to replies that are the same but for the
password; the calls are the same but for the arguments that open connections; and what was
logged is the same.
-/

open Session (library driver)

/-! ## Answers inside a block -/

theorem redactedAnswers_eq (answers : List Answer) :
    redactedAnswers answers = answers.map Answer.redacted := by
  induction answers with
  | nil => rfl
  | cons answer rest inductionHypothesis =>
      rw [redactedAnswers, inductionHypothesis, List.map_cons]

theorem redactedActions_eq (actions : List HookAction) :
    redactedActions actions = actions.map HookAction.redacted := by
  induction actions with
  | nil => rfl
  | cons action rest inductionHypothesis =>
      rw [redactedActions, inductionHypothesis, List.map_cons]

def Answer.Same (first second : Answer) : Prop := first.redacted = second.redacted

theorem Answer.Same.outcome {answer other : Answer} (same : answer.Same other) :
    Corresponds Reply.Same answer.outcome other.outcome := by
  have seen : answer.outcome.map Reply.redacted = other.outcome.map Reply.redacted := by
    cases answer
    cases other
    exact (Answer.mk.inj same).1
  generalize answer.outcome = outcome at seen
  generalize other.outcome = otherOutcome at seen
  cases outcome with
  | ok reply =>
      cases otherOutcome with
      | ok other => exact .ok (Except.ok.inj seen)
      | error _ => cases seen
  | error fault =>
      cases otherOutcome with
      | ok _ => cases seen
      | error _ =>
          rw [Except.error.inj seen]
          exact .error _

/-- The answers inside a block are changed on both sides. -/
theorem changeSteps_discreet {change other : Client → Client}
    (changes : forall first second : Client, first.SameButPasswords second ->
      (change first).SameButPasswords (other second)) :
    (remember change).Alike State.SameButPasswords (remember other) :=
  Session.onCaller_discreet (.modify changes)

theorem addAnswer_discreet {answer other : Answer} (same : answer.Same other) :
    (addAnswer answer).Alike State.SameButPasswords (addAnswer other) := by
  refine changeSteps_discreet fun first second sameClient => ?_
  rcases sameClient with ⟨steps, rfl, sameSteps⟩
  refine ⟨_, rfl, congrArg some ?_⟩
  have before : redactedAnswers (first.steps.getD []) = redactedAnswers (steps.getD []) := by
    generalize first.steps = answers at sameSteps ⊢
    cases answers with
    | none =>
        cases steps with
        | none => rfl
        | some _ => cases sameSteps
    | some answers =>
        cases steps with
        | none => cases sameSteps
        | some others => exact Option.some.inj sameSteps
  simp only [redactedAnswers_eq, List.map_append, List.map_singleton] at before ⊢
  rw [before, same]

theorem goOn_discreet (target : Target) {answer other : Answer} (same : answer.Same other) :
    (goOn target answer).Alike State.SameButPasswords (goOn target other) := by
  refine .bind (addAnswer_discreet same) fun _ => ?_
  have outcomes := same.outcome
  generalize answer.outcome = outcome at outcomes ⊢
  generalize other.outcome = otherOutcome at outcomes ⊢
  cases outcomes with
  | ok _ => exact .pure ()
  | error fault =>
      dsimp only
      split
      · exact .throw fault
      · exact .pure ()

/-! ## Answering a step -/

theorem apart_matched {β γ : Type} {same : β → γ → Prop} {part : Play β} {other : Play γ}
    (matched : part.Matched State.SameButPasswords same other) :
    (apart part).Matched State.SameButPasswords same (apart other) := by
  refine .getBind fun first second sameState => ?_
  rcases sameState.caller with ⟨steps, sameCaller, sameSteps⟩
  rw [sameCaller]
  refine .afterAlike (changeSteps_discreet fun _ _ sameClient => ?_) fun _ =>
    .thenAlways matched (changeSteps_discreet fun _ _ sameClient => ?_)
  · rcases sameClient with ⟨_, rfl, -⟩
    exact ⟨none, rfl, rfl⟩
  · rcases sameClient with ⟨_, rfl, -⟩
    exact ⟨steps, rfl, sameSteps⟩

theorem tellAll_discreet : Discreet tellAll := by
  refine .getBind fun first second same => ?_
  rcases same.gateway with ⟨_, _, sameGateway, ⟨events, sameDriver, sameEvents⟩, -⟩
  have lengths : events.length = first.gateway.driver.events.length := by
    have lengths := congrArg List.length sameEvents
    rwa [List.length_map, List.length_map] at lengths
  rw [sameGateway, sameDriver]
  dsimp only
  rw [lengths]
  exact remember_discreet fun _ _ => rfl

theorem depthOf_same (name : String) {first second : State}
    (same : State.SameButPasswords first second) : depthOf name second = depthOf name first := by
  rcases same.caller with ⟨steps, sameCaller, -⟩
  rcases same.gateway with ⟨driver, entries, sameGateway, -, sameEntries⟩
  have depths (database : Database) :
      database.depth second.gateway = database.depth first.gateway := by
    have handles := (sameEntries.entry database.entry).handle
    unfold Database.depth Gateway.entry
    rw [sameGateway, handles]
    rfl
  unfold depthOf
  rw [sameCaller]
  exact congrArg (fun depth => (first.caller.databases.get? name).map depth) (funext depths)

theorem calls_same {events others : List Native.Event} (told : Nat)
    (same : others.map Native.Event.withoutArguments =
      events.map Native.Event.withoutArguments) :
    ((others.drop told).map Native.Event.call).map Native.Call.withoutArguments =
      ((events.drop told).map Native.Event.call).map Native.Call.withoutArguments := by
  have seen (events : List Native.Event) :
      ((events.drop told).map Native.Event.call).map Native.Call.withoutArguments =
        ((events.map Native.Event.withoutArguments).drop told).map Native.Event.call := by
    rw [← List.map_drop, List.map_map, List.map_map]
    rfl
  rw [seen, seen, same]

theorem answerOf_same (name : String) {first second : State}
    (same : State.SameButPasswords first second) {outcome other : Except Fault Reply}
    (corresponds : Corresponds Reply.Same outcome other) :
    (answerOf name first outcome).Same (answerOf name second other) := by
  have sameOutcome : outcome.map Reply.redacted = other.map Reply.redacted := by
    cases corresponds with
    | ok same => exact congrArg Except.ok same
    | error fault => rfl
  have depth := depthOf_same name same
  rcases same.caller with ⟨steps, sameCaller, sameSteps⟩
  rcases same.gateway with ⟨_, _, sameGateway, ⟨events, sameDriver, sameEvents⟩, -⟩
  unfold Answer.Same answerOf
  rw [depth, sameCaller, sameGateway, sameDriver]
  simp only [Answer.redacted]
  rw [sameOutcome, sameSteps, calls_same _ sameEvents]

theorem answering_matched (name : String) {part other : Play Reply} (replies : Replies part other) :
    (answering name part).Matched State.SameButPasswords Answer.Same (answering name other) :=
  apart_matched <| replies.observe.bind fun _ _ corresponds => .getBind fun _ _ same =>
    .afterAlike tellAll_discreet fun _ => .pure (answerOf_same name same corresponds)

/-! ## Blocks -/

theorem inside_discreet {steps others : Play Unit}
    (alike : steps.Alike State.SameButPasswords others) (ending : Ending) :
    (inside steps ending).Alike State.SameButPasswords (inside others ending) := by
  refine .bind (changeSteps_discreet fun _ _ sameClient => ?_) fun _ => .bind alike fun _ => ?_
  · rcases sameClient with ⟨_, rfl, -⟩
    exact ⟨some [], rfl, rfl⟩
  · cases ending with
    | raise fault => exact .throw fault
    | answer value => exact .pure value

theorem handlers_isDiscreet (reaction : Reaction) :
    Database.Handlers.IsDiscreet SameActions Client.SameButPasswords reaction.handlers where
  onRollback := by
    unfold Reaction.handlers
    cases reaction.onRollback with
    | none => exact .pure ()
    | some failure => exact Session.driver_discreet (Native.finish_alike (fun _ => rfl) failure)
  replacement fault := by
    unfold Reaction.handlers
    cases reaction.replacement with
    | none => exact .pure none
    | some replacement =>
        exact .bind (Session.driver_discreet (Native.note_alike _)) fun _ => .pure _

theorem surround_discreet (name : String) (surrounding : Surrounding) {work other : Play Value}
    (alike : work.Alike State.SameButPasswords other) :
    (surround name surrounding work).Alike State.SameButPasswords
      (surround name surrounding other) := by
  cases surrounding with
  | result result =>
      exact .bind (resultNumber_discreet result) fun number =>
        .thenAlways (.bind alike fun _ => .pure _) (freeResult_discreet number)
  | transaction =>
      exact .bind (databaseOf_discreet name) fun database =>
        .bind (Database.inBlock_discreet database alike) fun _ => .pure _
  | run reaction =>
      exact .bind (databaseOf_discreet name) fun database =>
        .bind (Database.runInTransaction_discreet database alike (handlers_isDiscreet reaction))
          fun _ => .pure _
  | attempt reaction kept =>
      refine .bind (databaseOf_discreet name) fun database => ?_
      have attempts :=
        Database.tryInTransaction_discreet database alike (handlers_isDiscreet reaction)
      refine .bind attempts fun _ => ?_
      refine .bind (remember_discreet fun _ _ => rfl) fun _ => ?_
      exact .pure _

/-! ## Steps -/

theorem sameActions_of_redacted {callback other : Option Callback}
    (same : redactedCallback callback = redactedCallback other) :
    Option.Rel SameActions callback other := by
  cases callback with
  | none =>
      cases other with
      | none => exact .none
      | some _ => cases same
  | some actions =>
      cases other with
      | none => cases same
      | some others => exact .some (Option.some.inj same)

theorem registerHook_discreet (name hookName : String)
    {before after otherBefore otherAfter : Option Callback}
    (sameBefore : redactedCallback before = redactedCallback otherBefore)
    (sameAfter : redactedCallback after = redactedCallback otherAfter) :
    (registerHook name hookName before after).Alike State.SameButPasswords
      (registerHook name hookName otherBefore otherAfter) := by
  refine .bind (databaseOf_discreet name) fun database =>
    (Session.library_matched (Database.registerHook_matched database hookName
      (sameActions_of_redacted sameBefore) (sameActions_of_redacted sameAfter))).bindAlike
      fun hook other sameHook => ?_
  rw [sameHook.id, sameHook.display]
  exact .bind (remember_discreet fun _ _ => rfl) fun _ => .pure _

theorem target_same {step other : Step} (same : step.redacted = other.redacted) :
    other.target = step.target := by
  have kept (step : Step) : step.redacted.target = step.target := by
    cases step <;> rfl
  rw [← kept other, ← same, kept]

variable {runner : Runner}

mutual

theorem play_replies (discreet : runner.IsDiscreet) : forall (step : Step) {other : Step},
    step.redacted = other.redacted -> Replies (play runner step) (play runner other)
  | .plain target command, other, same => by
      cases other with
      | plain otherTarget otherCommand =>
          rcases Step.plain.inj same with ⟨rfl, sameCommand⟩
          exact perform_replies discreet _ (Command.same_of_redacted sameCommand)
      | hook => cases same
      | block => cases same
  | .hook target name before after, other, same => by
      cases other with
      | plain => cases same
      | hook otherTarget otherName otherBefore otherAfter =>
          rcases Step.hook.inj same with ⟨rfl, rfl, sameBefore, sameAfter⟩
          exact .of_alike (registerHook_discreet _ _ sameBefore sameAfter)
      | block => cases same
  | .block target surrounding steps ending, other, same => by
      cases other with
      | plain => cases same
      | hook => cases same
      | block otherTarget otherSurrounding others otherEnding =>
          rcases Step.block.inj same with ⟨rfl, rfl, sameSteps, rfl⟩
          -- The answers to the steps inside are in the memory of the caller, not in the reply.
          exact .of_alike <| surround_discreet _ _ <|
            inside_discreet (playAll_discreet discreet steps sameSteps) _

theorem playAll_discreet (discreet : runner.IsDiscreet) : forall (steps : List Step)
    {others : List Step}, redactedSteps steps = redactedSteps others ->
    (playAll runner steps).Alike State.SameButPasswords (playAll runner others)
  | [], others, same => by
      cases others with
      | nil => exact .pure ()
      | cons => cases same
  | step :: rest, others, same => by
      cases others with
      | nil => cases same
      | cons other otherRest =>
          rcases List.cons.inj same with ⟨sameStep, sameRest⟩
          have targets := target_same sameStep
          unfold playAll
          rw [targets]
          have answered := answering_matched step.target.database
            (play_replies discreet step sameStep)
          exact answered.bindAlike fun _ _ sameAnswer =>
            .bind (goOn_discreet _ sameAnswer) fun _ => playAll_discreet discreet rest sameRest

end

theorem act_discreet (discreet : runner.IsDiscreet) {action other : HookAction}
    (same : action.redacted = other.redacted) :
    (act runner action).Alike State.SameButPasswords (act runner other) := by
  cases action with
  | raise fault =>
      cases other with
      | raise otherFault =>
          cases same
          exact .throw fault
      | step => cases same
  | step step =>
      cases other with
      | raise => cases same
      | step other =>
          have replies := play_replies discreet step (HookAction.step.inj same)
          exact (apart_matched (replies.bind fun _ _ _ => .pure rfl)).alike

/-! ## Hooks and runs -/

/-- Hooks run hooks of a lesser depth. -/
theorem hookRunner_isDiscreet (depth : Nat) : (hookRunner depth).IsDiscreet := by
  induction depth with
  | zero => exact fun _ _ _ _ _ _ => .throw _
  | succ depth inductionHypothesis =>
      intro name phase callback other sql same
      refine .bind (Session.driver_discreet (Native.note_alike _)) fun _ => ?_
      unfold SameActions at same
      rw [redactedActions_eq, redactedActions_eq] at same
      have members := forall₂_of_map_eq same
      clear same
      -- The second induction is on the actions of the two callbacks, pair by pair.
      induction members with
      | nil => exact .pure ()
      | cons sameAction _ rest =>
          exact .bind (act_discreet inductionHypothesis sameAction) fun _ => rest

theorem answers_matched (steps : List Step) {others : List Step}
    (same : redactedSteps steps = redactedSteps others) :
    (answers steps).Matched State.SameButPasswords
      (fun answers others => redactedAnswers answers = redactedAnswers others)
      (answers others) := by
  induction steps generalizing others with
  | nil =>
      cases others with
      | nil => exact .pure rfl
      | cons => cases same
  | cons step rest inductionHypothesis =>
      cases others with
      | nil => cases same
      | cons other otherRest =>
          rcases List.cons.inj same with ⟨sameStep, sameRest⟩
          have targets := target_same sameStep
          unfold answers
          rw [targets]
          have answered := answering_matched step.target.database
            (play_replies (hookRunner_isDiscreet hookDepth) step sameStep)
          exact answered.bind fun _ _ sameAnswer =>
            (inductionHypothesis sameRest).bind fun _ _ sameAnswers =>
            .pure (congrArg₂ List.cons sameAnswer sameAnswers)

theorem State.SameButPasswords.atStart (driver : Native.Driver) :
    State.SameButPasswords (State.ofDriver driver) (State.ofDriver driver) where
  gateway := ⟨driver, .empty, rfl, .refl _ driver, rfl, fun _ => ⟨.refl _, rfl, rfl, .nil⟩⟩
  caller := ⟨none, rfl, rfl⟩

/-- Over one driver, two scripts that differ in passwords have the same answers, but for the
parameters that the caller asks for and the arguments that opened connections.  The displayed form
of parameters has nothing of the password either. -/
theorem run_conceals (driver : Native.Driver) {steps others : List Step}
    (same : redactedSteps steps = redactedSteps others) :
    redactedAnswers (run driver steps) = redactedAnswers (run driver others) ∧
    forall params : ConnectionParams, params.withoutPassword.display = params.display := by
  refine ⟨?_, fun _ => rfl⟩
  have matched := (answers_matched steps same _ _ (State.SameButPasswords.atStart driver)).1
  unfold Operation.outcome at matched
  unfold run outcomeOf
  generalize answers steps (State.ofDriver driver) = ended at matched ⊢
  generalize answers others (State.ofDriver driver) = otherEnded at matched ⊢
  cases ended with
  | ok given left =>
      cases otherEnded with
      | ok otherGiven otherLeft =>
          cases matched with
          | ok sameAnswers => exact sameAnswers
      | error fault otherLeft => cases matched
  | error fault left =>
      cases otherEnded with
      | ok otherGiven otherLeft => cases matched
      | error otherFault otherLeft => rfl

/-- A caller that makes a database with a password and runs a query, before which a hook makes an
entry with the password too and connects it; then the caller shows the database. -/
def opening (password : String) : List Step :=
  let fields : List (String × Value) :=
    [("dbms", .text "odbc"), ("host", .text "server"), ("database", .text "shop"),
      ("username", .text "clerk"), ("password", .text password)]
  let shop : Target := ⟨"shop", false⟩
  [.plain shop (.makeDatabase fields none .shared .shared),
    .hook shop "spare" (some [.step (.plain shop (.makeEntry "spare" (.fields fields) true)),
      .step (.plain shop (.registryConnect .shared "spare"))]) none,
    .plain shop (.query "SELECT 1" [] "one"), .plain shop .showDatabase]

theorem run_conceals_opening :
    let driver := Native.Driver.ofScript [] [] [] (.int 0)
    redactedSteps (opening "one") = redactedSteps (opening "another") ∧
    redactedAnswers (run driver (opening "one")) =
      redactedAnswers (run driver (opening "another")) ∧
    forall params : ConnectionParams, params.withoutPassword.display = params.display :=
  ⟨rfl, run_conceals _ rfl⟩

end Scenario
end SqlGateway
