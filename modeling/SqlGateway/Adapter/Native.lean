import SqlGateway.Adapter.Connect
import SqlGateway.Native.Driver

namespace SqlGateway
namespace Adapter

/-!
How each adapter uses its driver.  A cursor that an adapter opens for itself is
closed whatever happens; a connection without automatic commits is switched back to
them when its transaction ends.
-/

open Native (Connection Cursor Driver)
open Transaction (NativeCall)

/-- Which faults count as failures of the native driver. -/
def driverFaults : List FaultKind := [.foreign .driver]

/-- Have the driver write the name of the service, which only that of Oracle does. -/
def nameService (adapter : Adapter) (params : ConnectionParams) : Operation Driver Unit :=
  match adapter with
  | .oracle => Native.writeServiceName params.host (portOr params 1521) params.database
  | _ => pure ()

/-- Open a connection that commits after each statement. -/
def openConnection (adapter : Adapter) (params : ConnectionParams)
    (options : List (String × Value)) : Operation Driver Connection := do
  let arguments ← .ofExcept (adapter.connectArguments (← get).missing params options)
  adapter.nameService params
  let connection ← Native.connect arguments.positional arguments.sorted
  if adapter = .oracle then Native.setAutocommit connection true
  return connection

/-- Run a statement with parameters on a new cursor. -/
def execute (connection : Connection) (sql : String) (parameters : List Value) :
    Operation Driver Cursor := do
  let cursor ← Native.openCursor connection
  Native.execute cursor sql (some parameters)

/-- What is done after each statement: a driver without automatic commits commits,
unless a transaction is open, and keeps open cursors readable. -/
def afterExecute (adapter : Adapter) (connection : Connection) (inTransaction : Bool) :
    Operation Driver Unit := do
  if adapter = .firebird ∧ inTransaction = false ∧ (← get).isActive connection then
    Native.commit connection true

/-! ## Transactions -/

/-- Run a statement without parameters on a cursor of its own, and use the cursor.  It
is closed whatever happens, and a failure to close it hides any other. -/
def withStatement {α : Type} (connection : Connection) (sql : String)
    (use : Cursor → Except Fault α) : Operation Driver α := do
  let fresh ← Native.openCursor connection
  match ← Operation.observe (Native.execute fresh sql none) with
  | .ok cursor =>
    Native.closeCursor cursor
    .ofExcept (use cursor)
  | .error fault =>
    Native.closeCursor fresh
    throw fault

/-- Run a statement that begins or ends a transaction. -/
def runControl (connection : Connection) (sql : String) : Operation Driver Unit :=
  withStatement connection sql fun _ => .ok ()

/-- Begin or end a transaction by a statement. -/
def control (adapter : Adapter) (connection : Connection) : NativeCall → Operation Driver Unit
  | .begin => runControl connection adapter.controlStatements.begin
  | .commit => runControl connection adapter.controlStatements.commit
  | .rollback => runControl connection adapter.controlStatements.rollback

def transact (adapter : Adapter) (connection : Connection) (call : NativeCall) :
    Operation Driver Unit :=
  match adapter, call with
  | .firebird, .begin => do
    if (← get).isActive connection then Native.commit connection false
    Native.begin connection
  | .mysql, .begin => Native.begin connection
  | .sqlite, .begin => Native.runDirectly connection "BEGIN"
  | .firebird, .commit | .mysql, .commit | .sqlite, .commit => Native.commit connection false
  | .firebird, .rollback | .mysql, .rollback | .sqlite, .rollback => Native.rollback connection
  | .odbc, .begin | .oracle, .begin => Native.setAutocommit connection false
  | .odbc, .commit | .oracle, .commit =>
    .thenAlways (Native.commit connection false) (Native.setAutocommit connection true)
  | .odbc, .rollback | .oracle, .rollback =>
    .thenAlways (Native.rollback connection) (Native.setAutocommit connection true)
  | .mssql, call | .postgres, call => adapter.control connection call

/-- What holds of every way to begin or end a native transaction holds of the way of each
adapter. -/
theorem transact_cases {connection : Connection} {call : NativeCall}
    {motive : Operation Driver Unit → Prop}
    (control : ∀ adapter : Adapter, motive (adapter.control connection call))
    (direct : motive (Native.runDirectly connection "BEGIN"))
    (begin : motive (Native.begin connection))
    (restart : motive do
      if (← get).isActive connection then Native.commit connection false
      Native.begin connection)
    (commit : motive (Native.commit connection false))
    (rollback : motive (Native.rollback connection))
    (switchOff : motive (Native.setAutocommit connection false))
    (commitBack : motive
      (.thenAlways (Native.commit connection false) (Native.setAutocommit connection true)))
    (rollBack : motive
      (.thenAlways (Native.rollback connection) (Native.setAutocommit connection true)))
    (adapter : Adapter) : motive (adapter.transact connection call) := by
  cases adapter with
  | mssql => exact control .mssql
  | postgres => exact control .postgres
  | firebird => cases call <;> assumption
  | mysql => cases call <;> assumption
  | sqlite => cases call <;> assumption
  | odbc => cases call <;> assumption
  | oracle => cases call <;> assumption

/-! ## Prepared statements -/

/-- Have the server read a statement without running it. -/
def prepareNatively (adapter : Adapter) (connection : Connection) (sql : String) :
    Operation Driver Unit :=
  match adapter with
  | .firebird => do
    let cursor ← Native.openCursor connection
    .thenAlways (do Native.prepare cursor sql; Native.freePrepared cursor)
      (Native.closeCursor cursor)
  | .oracle => do
    let cursor ← Native.openCursor connection
    .thenAlways (Native.parse cursor sql) (Native.closeCursor cursor)
  | _ => throw (.of .notSupported (adapter.name ++ " has no native prepare"))

/-- A fault of the grammar checker as the caller sees it. -/
def grammarFault (fault : Fault) : Fault :=
  if fault.kind.isA (.foreign .grammar) || fault.kind.isA (.foreign .token) then
    (Fault.of .database ("Failed preparing statement: " ++ fault.message)).because fault
  else fault

/-- Check a statement against the grammar of its dialect, if there is one. -/
def validate (dialect : Dialect) (sql : String) : Operation Driver Unit :=
  match dialect.grammar with
  | none => pure ()
  | some grammar =>
    .mapFault grammarFault (Native.callAt .grammar (.checkGrammar sql grammar))

/-! ## The row inserted last -/

def cannotReport (adapter : Adapter) : Fault :=
  .of .notSupported (adapter.name ++ " cannot report the last inserted id")

def nothingInserted : Fault :=
  .of .notSupported "No identity value has been generated on this connection"

/-- The number in the first column of a row. -/
def firstNumber : Option (List Value) → Except Fault Int
  | none | some (.null :: _) => .error nothingInserted
  | some [] => .error (.bare .badIndex)
  | some (value :: _) => value.toInt

/-- The number of the row inserted last, from a query or from the cursor of the last
statement. -/
def lastInsertId (adapter : Adapter) (connection : Connection) (lastRowId : Value) :
    Operation Driver Int :=
  match adapter.lastInsertQuery?, lastRowId with
  | some sql, _ => do
    .ofExcept (firstNumber (← withStatement connection sql fun cursor => cursor.fetchRow.1))
  | none, .int number => pure number
  | none, _ => throw adapter.cannotReport

end Adapter
end SqlGateway
