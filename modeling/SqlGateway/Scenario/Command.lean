import SqlGateway.Connection.Source
import SqlGateway.Gateway
import SqlGateway.Result

namespace SqlGateway
namespace Scenario

/-!
What a scripted caller does.  A step is a command, or the registration of a hook, or a
block of further steps that runs inside a transaction or while a result is open.  Callers
refer to what they made by names of their own.
-/

inductive Command where
  | setConfig (source : Option ConfigSource)
  | setEnvironment (pairs : List (String × String))
  | showConfig
  /-- Make a database under the name of the step. -/
  | makeDatabase (arguments : List (String × Value)) (params : Option ParamsSource)
      (registry tracker : Scope)
  /-- Take the database that rejects nested transactions. -/
  | takeNonNestable
  | showDatabase
  | connect
  | disconnect
  /-- Run a template and keep the result under a name. -/
  | query (template : String) (values : List Value) (result : String)
  /-- Prepare a template and keep the statement under a name. -/
  | prepare (template : String) (statement : String)
  | execute (statement : String) (values : List Value) (result : String)
  | validate (dialect : DialectSource) (sql : String)
  | prepareNatively (dialect : DialectSource) (sql : String)
  | begin
  | commit
  | rollback
  | lastInsertId
  | quote (value : Value)
  | quoteIdentifier (identifier : String)
  | showPlaceholder (value : Value)
  /-- Unwrap the outcome of a transaction. -/
  | unwrap (outcome : String)
  | unwrapGiven (committed : Bool) (value : Value) (error : Option Fault)
  | fetchValue (template : String) (values : List Value)
  | fetchFirstRow (template : String) (values : List Value) (mode : FetchMode)
  | fetchAll (template : String) (values : List Value) (mode : Option FetchMode) (column : Value)
  | insert (table : String) (values : List (Value × Value))
  | update (table : String) (values : List (Value × Value)) (choice : Value)
  | insertOrUpdate (table : String) (values : List (Value × Value)) (choice : Value)
  | delete (table : String) (choice : Value) (reporting : Bool)
  | unregisterHook (hook : Option String)
  /-- Make a connection entry under a name. -/
  | makeEntry (entry : String) (params : ParamsSource) (nestable : Bool)
  | showEntry (entry : String)
  | registryGet (registry : Scope) (key : String)
  | registryPut (registry : Scope) (key entry : String)
  | registryGetOrMake (registry : Scope) (key entry : String) (params : ParamsSource)
      (nestable : Bool)
  | registryConnect (registry : Scope) (entry : String)
  | registryDisconnect (registry : Scope) (entry : String) (tracker : Option Scope)
  | showRegistry (registry : Scope) (keys : List String)
  | clearRegistry (registry : Scope)
  | clearCaches
  | showCacheStats
  | fetchRow (result : String) (mode : FetchMode)
  | fetchRows (result : String) (mode : FetchMode)
  | iterate (result : String) (limit : Option Nat)
  | free (result : String)
  | showResult (result : String)

/-- What the caller gives in place of an error. -/
inductive Replacement where
  | nothing
  | same
  | other (fault : Fault)

/-- What the caller does about a failed transaction: whether and how a callback fails
that is told of the rollback, and what is given in place of the error. -/
structure Reaction where
  onRollback : Option (Option Fault)
  replacement : Option Replacement

/-- What surrounds a block of steps. -/
inductive Surrounding where
  /-- A result is open, and is freed at the end. -/
  | result (name : String)
  /-- A transaction as a block of code. -/
  | transaction
  /-- A transaction around a callback. -/
  | run (reaction : Reaction)
  /-- A transaction around a callback that reports failure as a value, which is kept
  under a name. -/
  | attempt (reaction : Reaction) (outcome : String)

/-- How a block ends once its steps are done. -/
inductive Ending where
  | raise (fault : Fault)
  | answer (value : Value)

/-- Which database a step is about, and whether its failure stays inside its block. -/
structure Target where
  database : String
  catching : Bool

mutual

inductive Step where
  | plain (target : Target) (command : Command)
  | hook (target : Target) (name : String) (before after : Option (List HookAction))
  | block (target : Target) (surrounding : Surrounding) (steps : List Step) (ending : Ending)

/-- What a callback of a hook does. -/
inductive HookAction where
  | raise (fault : Fault)
  | step (step : Step)

end

def Step.target : Step → Target
  | .plain target _ => target
  | .hook target _ _ _ => target
  | .block target _ _ _ => target

/-- The callback of a hook: its actions in order. -/
abbrev Callback := List HookAction

end Scenario
end SqlGateway
