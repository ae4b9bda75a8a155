import SqlGateway.Logging.System

namespace SqlGateway
namespace Logging

/-!
Steps of a log on its own.  The answer to a step tells what was written since the answer
before.  A correlation may hold for a block of steps; a failure in the block ends it,
unless the step keeps the failure to itself.
-/

inductive Command where
  | configure (level : Value) (structured toFile : Bool)
  /-- Log a message with fields. -/
  | log (logger : Option String) (weight : Int) (template : String) (arguments : List Value)
      (fields : List (String × Value))
  | showLogger (name : Option String)
  | setCorrelation (correlation : Value)
  /-- Write a message as a document, after the filter if that is wanted. -/
  | format (message : Message) (filtering : Bool)

inductive Step where
  | plain (catching : Bool) (command : Command)
  /-- Steps with a correlation of their own; the fault is what the block ends with. -/
  | scope (catching : Bool) (correlation : Value) (steps : List Step) (fault : Option Fault)

/-- Whether the failure of a step stays inside its block. -/
def Step.catching : Step → Bool
  | .plain catching _ => catching
  | .scope catching _ _ _ => catching

inductive Reply where
  | nothing
  | value (value : Value)
  /-- The weight wanted and the count of handlers. -/
  | configured (weight : Int) (handlers : Nat)
  /-- The name of a logger, and how many filters add the correlation to its messages. -/
  | logger (name : String) (filters : Nat)

structure Answer where
  outcome : Except Fault Reply
  /-- The correlation of the message after the filter. -/
  filtered : Option Value
  /-- The answers to the steps of the block. -/
  steps : Option (List Answer)
  console : String
  file : Option String
  correlation : Value

/-- The log, with what the answers have told of it, and what the current step tells. -/
structure State where
  system : System
  toldConsole : Nat
  toldFile : Nat
  filtered : Option Value
  steps : Option (List Answer)

abbrev Play (β : Type) := Operation State β

/-- The names that a field cannot have, since an argument has it. -/
def takenNames : List String := ["logger", "level", "message"]

def onSystem {β : Type} (operation : Operation System β) : Play β :=
  .within State.system (fun state system => { state with system := system }) operation

def loggerNamed (name : Option String) : Play String := onSystem fun system =>
  match system.logger name with
  | (name, system) => .ok name system

def logMessage (name : Option String) (weight : Int) (template : String)
    (arguments : List Value) (fields : List (String × Value)) : Play Unit := do
  let logger ← loggerNamed name
  if fields.any fun field => takenNames.contains field.1 then throw (.bare .badType)
  onSystem (modify (System.log ⟨logger, weight, template, arguments, fields, .null, none⟩))

def formatMessage (message : Message) (filtering : Bool) : Play Reply := do
  let system := (← get).system
  let message := if filtering then system.filtered message else message
  if filtering then modify fun state => { state with filtered := some message.correlation }
  return .value (.text (← .ofExcept (document system.clock system.correlation message)))

/-- Configure the log, whose file starts anew if there is a new one. -/
def configure (level : Value) (structured toFile : Bool) : Play Reply := do
  onSystem (System.configure level structured toFile)
  if toFile then modify fun state => { state with toldFile := 0 }
  let system := (← get).system
  return .configured system.weight system.handlers.length

def perform : Command → Play Reply
  | .configure level structured toFile => configure level structured toFile
  | .log logger weight template arguments fields => do
    logMessage logger weight template arguments fields
    return .nothing
  | .showLogger name => do
    let logger ← loggerNamed name
    return .logger logger (if (← get).system.correlated.contains logger then 1 else 0)
  | .setCorrelation correlation => do
    onSystem (modify fun system => { system with correlation := correlation })
    return .nothing
  | .format message filtering => formatMessage message filtering

/-! ## Answers -/

/-- What was written after so many characters. -/
def textAfter (told : Nat) (written : String) : String :=
  String.ofList (written.toList.drop told)

/-- The answer to a step that came to an outcome. -/
def answerOf (state : State) (outcome : Except Fault Reply) : Answer where
  outcome := outcome
  filtered := state.filtered
  steps := state.steps
  console := textAfter state.toldConsole state.system.console
  file := state.system.file.map (textAfter state.toldFile)
  correlation := state.system.correlation

/-- Note that everything has been told. -/
def tellAll (state : State) : State :=
  { state with
    toldConsole := state.system.console.length
    toldFile := (state.system.file.getD "").length }

/-- Run a step and answer it. -/
def answering (play : Play Reply) : Play Answer := do
  let outer ← get
  modify fun state => { state with filtered := none, steps := none }
  let outcome ← Operation.observe play
  let answer := answerOf (← get) outcome
  modify fun state =>
    { tellAll state with filtered := outer.filtered, steps := outer.steps }
  return answer

/-- Go on after the answer to a step of a block, or leave the block. -/
def goOn (catching : Bool) (answer : Answer) : Play Unit := do
  modify fun state => { state with steps := some (state.steps.getD [] ++ [answer]) }
  match answer.outcome with
  | .error fault => if !catching then throw fault
  | .ok _ => pure ()

/-- Run steps with a correlation of their own. -/
def inScope (correlation : Value) (steps : Play Unit) (fault : Option Fault) : Play Reply := do
  let outer := (← get).system.correlation
  let correlate (correlation : Value) : Play Unit :=
    onSystem (modify fun system => { system with correlation := correlation })
  correlate correlation
  modify fun state => { state with steps := some [] }
  let inside : Play Reply := do
    steps
    match fault with
    | some fault => throw fault
    | none => return .value correlation
  .thenAlways inside (correlate outer)

mutual

/-- What a step does. -/
def play : Step → Play Reply
  | .plain _ command => perform command
  | .scope _ correlation steps fault => inScope correlation (playAll steps) fault
termination_by structural step => step

/-- What the steps of a block do. -/
def playAll : List Step → Play Unit
  | [] => pure ()
  | step :: rest => do
    goOn step.catching (← answering (play step))
    playAll rest
termination_by structural steps => steps

end

/-- Answer steps one after the other; a failure stops none of those that follow. -/
def answers : List Step → Play (List Answer)
  | [] => pure []
  | step :: rest => do
    let answer ← answering (play step)
    return answer :: (← answers rest)

/-- The answers to steps of a log. -/
def run (clock : Clock) (steps : List Step) : List Answer :=
  match answers steps ⟨.start clock, 0, 0, none, none⟩ with
  | .ok answers _ => answers
  | .error _ _ => []

end Logging
end SqlGateway
