import SqlGateway.Database
import SqlGateway.Result

namespace SqlGateway

/-!
Running statements.  While a statement runs, the caller's hooks are called, and a hook
may do anything that the caller can do, so the operations here work on the state of the
library together with the state of the caller.  What a callback does is a parameter:
the runner of hooks.
-/

/-- The state of the library with the state of its caller. -/
structure Session (α σ : Type) where
  gateway : Gateway α
  caller : σ

/-- What happens when a callback of a hook is called: given are the name of the hook, the
phase, the callback and the native text. -/
abbrev HookRunner (α σ : Type) :=
  String → Native.HookPhase → α → String → Operation (Session α σ) Unit

namespace Session

variable {α σ β : Type}

def library (operation : Operation (Gateway α) β) : Operation (Session α σ) β :=
  .within Session.gateway (fun session gateway => { session with gateway := gateway }) operation

def driver (operation : Operation Native.Driver β) : Operation (Session α σ) β :=
  library (Gateway.onDriver operation)

def onCaller (operation : Operation σ β) : Operation (Session α σ) β :=
  .within Session.caller (fun session caller => { session with caller := caller }) operation

end Session

namespace Database

variable {α σ : Type}

open Session (library driver)

/-! ## Hooks around a statement -/

/-- Call the callback of a hook for a phase, if it has one. -/
def runHook (runner : HookRunner α σ) (phase : Native.HookPhase) (sql : String)
    (hook : Hook α) : Operation (Session α σ) Unit :=
  match hook.callback phase with
  | none => pure ()
  | some callback => do
    library (Gateway.write .debug "hooks" (hook.notice phase) none)
    runner hook.name phase callback sql

/-- Call the callbacks of hooks for a phase, in order. -/
def runHooks (runner : HookRunner α σ) (phase : Native.HookPhase) (sql : String)
    (hooks : List (Hook α)) : Operation (Session α σ) Unit :=
  .forEach (runHook runner phase sql) hooks

/-! ## Statements -/

/-- Remember what the driver said of the row inserted last, if the handle is still that
of the entry. -/
def rememberRow (database : Database) (handle : Handle) (lastRowId : Value) :
    Operation (Gateway α) Unit :=
  Gateway.changeEntry database.entry fun entry =>
    match entry.handle with
    | some current =>
      if current.id = handle.id then
        { entry with handle := some { current with lastRowId := lastRowId } }
      else entry
    | none => entry

/-- Whether a transaction is open on a connection. -/
def inTransaction (database : Database) (handle : Handle) : Operation (Gateway α) Bool := do
  return ((← get).tracker database.tracker).isActive handle.id

/-- Run a statement on a connection and do what is done after each statement. -/
def runStatement (database : Database) (handle : Handle) (sql : String)
    (parameters : List Value) : Operation (Gateway α) Native.Cursor :=
  .atBoundary "Failed executing query" (some Adapter.driverFaults) do
    let cursor ← Gateway.onDriver (Adapter.execute handle.connection sql parameters)
    database.rememberRow handle cursor.response.lastRowId
    Gateway.onDriver
      (handle.adapter.afterExecute handle.connection (← database.inTransaction handle))
    return cursor

/-- The result of a statement that was run on a cursor. -/
def resultOf (query : ParsedQuery) (params : ConnectionParams) (cursor : Native.Cursor) :
    QueryResult where
  cursor := cursor
  columnTypes := query.columnTypes
  stringified := params.stringifyFetches
  driverFaults := some Adapter.driverFaults
  closed := false
  sql := query.sql

/-- Write to the log that a statement is run. -/
def announceQuery (handle : Handle) (sql : String) : Operation (Gateway α) Unit :=
  Gateway.write .debug "base" "Executing query"
    (some [("connection_id", .int handle.id), ("sql", .text sql)])

/-- Give a compiled query its parameters and run it.  The hooks are those that were
registered when the parameters had been given. -/
def execute (runner : HookRunner α σ) (database : Database) (query : ParsedQuery)
    (values : List Value) : Operation (Session α σ) QueryResult := do
  let handle ← library database.handle
  let parameters ← .ofExcept (Parameter.bind query values handle.adapter.coercion)
  let entry ← library database.entryOf
  runHooks runner .before query.sql entry.hooks
  library (announceQuery handle query.sql)
  let cursor ← library (database.runStatement handle query.sql parameters)
  runHooks runner .after query.sql entry.hooks
  return resultOf query entry.params cursor

def compile (database : Database) (template : String) : Operation (Gateway α) ParsedQuery := do
  Gateway.compile template (← database.entryOf).params.dialect none

def query (runner : HookRunner α σ) (database : Database) (template : String)
    (values : List Value) : Operation (Session α σ) QueryResult := do
  let compiled ← library (database.compile template)
  database.execute runner compiled values

def free (result : QueryResult) : Operation (Session α σ) Unit := driver result.free

/-- Run a template whose result is of no interest. -/
def run (runner : HookRunner α σ) (database : Database) (template : String)
    (values : List Value) : Operation (Session α σ) Unit := do
  free (← database.query runner template values)

/-- Run a template, use its result, and close the cursor. -/
def withQuery {β : Type} (runner : HookRunner α σ) (database : Database) (template : String)
    (values : List Value) (use : QueryResult → Except Fault β) : Operation (Session α σ) β := do
  let result ← database.query runner template values
  .thenAlways (.ofExcept (use result)) (free result)

end Database
end SqlGateway
