import SqlGateway.Scenario.Perform

namespace SqlGateway
namespace Scenario

/-!
Running scenarios.  Each step is answered, also inside a block; the answer tells the
calls and the records of the log that no answer has told before.  A failure inside a block
ends the block, unless the step keeps it to itself.  The steps of a hook are not answered.

A hook may run statements that run hooks, so the runner of hooks has a bound on how deep
they are nested; beyond it a hook fails as too deep.
-/

open Session (library driver)

/-! ## Answers -/

def depthOf (name : String) (state : State) : Option Nat :=
  (state.caller.databases.get? name).map fun database => database.depth state.gateway

/-- The answer to a step that came to an outcome. -/
def answerOf (name : String) (state : State) (outcome : Except Fault Reply) : Answer where
  outcome := outcome
  rows := state.caller.rows
  steps := state.caller.steps
  calls := (state.gateway.driver.events.drop state.caller.toldEvents).map Native.Event.call
  depth := depthOf name state
  log := state.gateway.log.drop state.caller.toldRecords

/-- Forget what the current step has read and answered. -/
def clearStep (client : Client) : Client := { client with rows := none, steps := none }

/-- Take the rows and answers of an outer step up again. -/
def resumeStep (outer client : Client) : Client :=
  { client with rows := outer.rows, steps := outer.steps }

/-- Run a part of a scenario with rows and answers of its own. -/
def apart {β : Type} (play : Play β) : Play β := do
  let outer := (← get).caller
  remember clearStep
  .thenAlways play (remember (resumeStep outer))

/-- Note that everything has been told. -/
def tellAll : Play Unit := do
  let gateway := (← get).gateway
  remember fun client =>
    { client with toldEvents := gateway.driver.events.length, toldRecords := gateway.log.length }

/-- Run a step and answer it. -/
def answering (name : String) (play : Play Reply) : Play Answer :=
  apart do
    let outcome ← Operation.observe play
    let answer := answerOf name (← get) outcome
    tellAll
    return answer

/-- Put an answer to those of the block. -/
def addAnswer (answer : Answer) : Play Unit :=
  remember fun client => { client with steps := some (client.steps.getD [] ++ [answer]) }

/-- Go on after the answer to a step of a block, or leave the block. -/
def goOn (target : Target) (answer : Answer) : Play Unit := do
  addAnswer answer
  match answer.outcome with
  | .error fault => if !target.catching then throw fault
  | .ok _ => pure ()

/-! ## Blocks -/

def Ending.play : Ending → Play Value
  | .raise fault => throw fault
  | .answer value => pure value

def inside (steps : Play Unit) (ending : Ending) : Play Value := do
  remember fun client => { client with steps := some [] }
  steps
  ending.play

/-- The fault that is given in place of an error, if it is another one. -/
def Replacement.fault? : Replacement → Option Fault
  | .nothing | .same => none
  | .other fault => some fault

/-- What the caller does about a failed transaction. -/
def Reaction.handlers (reaction : Reaction) : Database.Handlers Callback Client where
  onRollback :=
    match reaction.onRollback with
    | none => pure ()
    | some failure => driver (Native.finish .rolledBack failure)
  replacement fault :=
    match reaction.replacement with
    | none => pure none
    | some replacement => do
      driver (Native.note (.processError fault.kind))
      return replacement.fault?

/-- Run the inside of a block in its surrounding. -/
def surround (name : String) (surrounding : Surrounding) (work : Play Value) : Play Reply :=
  match surrounding with
  | .result result => do
    let number ← named Client.resultNumbers result
    .thenAlways (do let _ ← work; return .nothing) (freeResult number)
  | .transaction => do return .value (← (← databaseOf name).inBlock work)
  | .run reaction => do
    return .value (← (← databaseOf name).runInTransaction reaction.handlers work)
  | .attempt reaction kept => do
    let outcome ← (← databaseOf name).tryInTransaction reaction.handlers work
    keepOutcome kept outcome
    return .outcome outcome

def registerHook (name hookName : String) (before after : Option Callback) : Play Reply := do
  let database ← databaseOf name
  let hook ← library (database.registerHook hookName before after)
  keepHook hookName hook.id
  return text hook.display

/-! ## Steps -/

mutual

/-- What a step does. -/
def play (runner : Runner) : Step → Play Reply
  | .plain target command => perform runner target.database command
  | .hook target name before after => registerHook target.database name before after
  | .block target surrounding steps ending =>
    surround target.database surrounding (inside (playAll runner steps) ending)
termination_by structural step => step

/-- What the steps of a block do. -/
def playAll (runner : Runner) : List Step → Play Unit
  | [] => pure ()
  | step :: rest => do
    goOn step.target (← answering step.target.database (play runner step))
    playAll runner rest
termination_by structural steps => steps

end

/-! ## Hooks -/

/-- What an action of a hook does. -/
def act (runner : Runner) : HookAction → Play Unit
  | .raise fault => throw fault
  | .step step => apart do let _ ← play runner step

def hookRunner : Nat → Runner
  | 0, _, _, _, _ => throw (.bare .tooDeep)
  | depth + 1, name, phase, callback, sql => do
    driver (Native.note (.hook name phase sql))
    .forEach (act (hookRunner depth)) callback

/-- How deep hooks may be nested. -/
def hookDepth : Nat := 200

/-! ## Scenarios -/

/-- Answer steps one after the other; a failure stops none of those that follow. -/
def answers : List Step → Play (List Answer)
  | [] => pure []
  | step :: rest => do
    let answer ← answering step.target.database (play (hookRunner hookDepth) step)
    return answer :: (← answers rest)

/-- The outcome of a scenario over a driver. -/
def outcomeOf (driver : Native.Driver) (scenario : Play (List Answer)) : List Answer :=
  match scenario (State.ofDriver driver) with
  | .ok answers _ => answers
  | .error _ _ => []

/-- The answers to the steps of a caller over a driver. -/
def run (driver : Native.Driver) (steps : List Step) : List Answer :=
  outcomeOf driver (answers steps)

/-- The answers to the steps of a caller that was given a result. -/
def runOnResult (name : String) (result : QueryResult) (steps : List Step) : List Answer :=
  outcomeOf (.ofScript [] [] [] (.int 0)) do
    keepResult name result
    answers steps

end Scenario
end SqlGateway
