import SqlGateway.Proofs.Session.Redaction
import SqlGateway.Scenario.Run

namespace SqlGateway

/-!
# Scenarios with the passwords redacted

A scripted caller gives passwords where it makes databases and entries, also in the callbacks of its
hooks.  With these redacted, two scripts that differ in passwords become one.  Answers are redacted
where the caller asks for the parameters of a database, and where a connection was opened.
-/

namespace ConnectionParams

/-- The parameters with no password. -/
def withoutPassword (params : ConnectionParams) : ConnectionParams :=
  { params with password := .null }

end ConnectionParams

namespace Scenario

/-! ## Scripts -/

/-- The command with the passwords in it redacted. -/
def Command.redacted : Command → Command
  | .makeDatabase arguments params registry tracker =>
    .makeDatabase (arguments.map Database.Request.redactedArgument)
      (params.map ParamsSource.redacted) registry tracker
  | .makeEntry entry params nestable => .makeEntry entry params.redacted nestable
  | .registryGetOrMake registry key entry params nestable =>
    .registryGetOrMake registry key entry params.redacted nestable
  | command => command

mutual

def Step.redacted : Step → Step
  | .plain target command => .plain target command.redacted
  | .hook target name before after =>
    .hook target name (redactedCallback before) (redactedCallback after)
  | .block target surrounding steps ending =>
    .block target surrounding (redactedSteps steps) ending
termination_by structural step => step

def redactedSteps : List Step → List Step
  | [] => []
  | step :: rest => step.redacted :: redactedSteps rest
termination_by structural steps => steps

def HookAction.redacted : HookAction → HookAction
  | .raise fault => .raise fault
  | .step step => .step step.redacted
termination_by structural action => action

def redactedActions : List HookAction → List HookAction
  | [] => []
  | action :: rest => action.redacted :: redactedActions rest
termination_by structural actions => actions

def redactedCallback : Option (List HookAction) → Option (List HookAction)
  | none => none
  | some actions => some (redactedActions actions)
termination_by structural callback => callback

end

/-! ## Answers -/

def Reply.redacted : Reply → Reply
  | .database display nestable params => .database display nestable params.withoutPassword
  | reply => reply

mutual

/-- The answer without passwords, and without the arguments that opened connections. -/
def Answer.redacted : Answer → Answer
  | ⟨outcome, rows, steps, calls, depth, log⟩ =>
    ⟨outcome.map Reply.redacted, rows, redactedInside steps,
      calls.map Native.Call.withoutArguments, depth, log⟩
termination_by structural answer => answer

def redactedAnswers : List Answer → List Answer
  | [] => []
  | answer :: rest => answer.redacted :: redactedAnswers rest
termination_by structural answers => answers

/-- The answers inside a block without passwords. -/
def redactedInside : Option (List Answer) → Option (List Answer)
  | none => none
  | some answers => some (redactedAnswers answers)
termination_by structural answers => answers

end

end Scenario
end SqlGateway
