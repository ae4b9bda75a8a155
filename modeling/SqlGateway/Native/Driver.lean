import SqlGateway.Native.Call
import SqlGateway.Operation

namespace SqlGateway
namespace Native

/-!
A driver without an engine behind it.  It answers statements with the responses of
a script, fails where it is told to, and records the calls.  Writing the name of a
service and opening a cursor are recorded only if they fail.
-/

/-- What a statement comes to. -/
structure Response where
  /-- The statement fails. -/
  error : Option Fault := none
  /-- The names of the columns, if the statement has a result set. -/
  columns : Option (List String) := none
  /-- The rows of the result set. -/
  rows : List (List Value) := []
  /-- How many rows the driver says were changed. -/
  rowCount : Value := .int (-1)
  /-- What the driver says of the row inserted last. -/
  lastRowId : Value := .null
  /-- Fetching fails. -/
  fetchError : Option Fault := none
  /-- Closing the cursor fails. -/
  closeError : Option Fault := none
deriving Inhabited

/-- A cursor, with what its statement came to. -/
structure Cursor where
  connection : Connection
  number : Nat
  response : Response
deriving Inhabited

/-- The driver: what it will do, and what was done with it. -/
structure Driver where
  /-- The responses to come. -/
  responses : List Response
  /-- The failures to come at each place. -/
  failures : Dictionary FailPoint (List (Option Fault))
  /-- The driver modules that are not installed. -/
  missing : List String
  /-- The current time in seconds. -/
  clock : Value
  /-- What happened, in order. -/
  events : List Event
  /-- How many connections were opened. -/
  connections : Nat
  /-- How many cursors were opened. -/
  cursors : Nat
  /-- The connections whose main transaction is active. -/
  active : List Connection
deriving Inhabited

namespace Driver

/-- A driver at rest. -/
def ofScript (responses : List Response) (failures : List (FailPoint × List (Option Fault)))
    (missing : List String) (clock : Value) : Driver :=
  ⟨responses, .ofList failures, missing, clock, [], 0, 0, []⟩

def record (driver : Driver) (call : Call) (failure : Option Fault) : Driver :=
  { driver with events := driver.events ++ [⟨call, failure⟩] }

def nextFailure (driver : Driver) (point : FailPoint) : Option Fault × Driver :=
  match driver.failures.get? point with
  | some (failure :: rest) => (failure, { driver with failures := driver.failures.put point rest })
  | some [] | none => (none, driver)

def nextResponse (driver : Driver) : Response × Driver :=
  match driver.responses with
  | response :: rest => (response, { driver with responses := rest })
  | [] => ({}, driver)

def isActive (driver : Driver) (connection : Connection) : Bool :=
  driver.active.contains connection

def setActive (driver : Driver) (connection : Connection) (isNow : Bool) : Driver :=
  let others := driver.active.filter fun other => other ≠ connection
  { driver with active := if isNow then connection :: others else others }

end Driver

/-- Finish a call: record it, and fail if it failed. -/
def finish (call : Call) (failure : Option Fault) : Operation Driver Unit := fun driver =>
  match failure with
  | none => .ok () (driver.record call none)
  | some fault => .error fault (driver.record call (some fault))

/-- Take the next failure of a place off the script. -/
def takeFailure (point : FailPoint) : Operation Driver (Option Fault) := fun driver =>
  .ok (driver.nextFailure point).1 (driver.nextFailure point).2

/-- A call that fails as the script says for its place. -/
def callAt (point : FailPoint) (call : Call) : Operation Driver Unit := do
  finish call (← takeFailure point)

/-- A call that cannot fail. -/
def note (call : Call) : Operation Driver Unit := finish call none

/-- A call that fails as the script says for its place and is recorded only then. -/
def attempt (point : FailPoint) (call : Call) : Operation Driver Unit := do
  match ← takeFailure point with
  | none => pure ()
  | some fault => finish call (some fault)

def setActive (connection : Connection) (isNow : Bool) : Operation Driver Unit :=
  modify fun driver => driver.setActive connection isNow

/-! ## Connections -/

def writeServiceName (host port service : Value) : Operation Driver Unit :=
  attempt .serviceName (.serviceName host port service)

def connect (positional : List Value) (keywords : List (String × Value)) :
    Operation Driver Connection := do
  callAt .connect (.connect positional keywords)
  let driver ← get
  set { driver with connections := driver.connections + 1 }
  return .opened (driver.connections + 1)

def close (connection : Connection) : Operation Driver Unit :=
  callAt .close (.close connection)

def begin (connection : Connection) : Operation Driver Unit := do
  callAt .begin (.begin connection)
  setActive connection true

/-- Commit the native transaction; a retaining commit leaves it as it is. -/
def commit (connection : Connection) (retaining : Bool) : Operation Driver Unit := do
  callAt .commit (.commit connection retaining)
  if !retaining then setActive connection false

/-- Roll the native transaction back. -/
def rollback (connection : Connection) : Operation Driver Unit := do
  callAt .rollback (.rollback connection)
  setActive connection false

/-- Switch commits after each statement on or off. -/
def setAutocommit (connection : Connection) (on : Bool) : Operation Driver Unit :=
  callAt .setAutocommit (.setAutocommit connection on)

/-- Run a statement on the connection itself. -/
def runDirectly (connection : Connection) (sql : String) : Operation Driver Unit :=
  callAt .runDirectly (.runDirectly connection sql)

/-! ## Cursors -/

def openCursor (connection : Connection) : Operation Driver Cursor := do
  attempt .openCursor (.openCursor connection)
  let driver ← get
  set { driver with cursors := driver.cursors + 1 }
  return ⟨connection, driver.cursors + 1, {}⟩

def takeResponse : Operation Driver Response := fun driver =>
  match driver.nextResponse with
  | (response, driver) => .ok response driver

/-- Run a statement on a cursor.  A statement that fails leaves the cursor as it was. -/
def execute (cursor : Cursor) (sql : String) (parameters : Option (List Value)) :
    Operation Driver Cursor := do
  let response ← takeResponse
  finish (.execute cursor.connection cursor.number sql parameters) response.error
  setActive cursor.connection true
  return { cursor with response := response }

/-- Close a cursor, which fails as its response or the script says. -/
def closeCursor (cursor : Cursor) : Operation Driver Unit := do
  let failure ← takeFailure .closeCursor
  finish (.closeCursor cursor.connection cursor.number) (cursor.response.closeError.or failure)

/-- Have the server prepare a statement on a cursor. -/
def prepare (cursor : Cursor) (sql : String) : Operation Driver Unit :=
  callAt .prepare (.prepare cursor.connection cursor.number sql)

/-- Free what the server prepared on a cursor. -/
def freePrepared (cursor : Cursor) : Operation Driver Unit :=
  callAt .freePrepared (.freePrepared cursor.connection cursor.number)

/-- Have the server parse a statement on a cursor. -/
def parse (cursor : Cursor) (sql : String) : Operation Driver Unit :=
  callAt .parse (.parse cursor.connection cursor.number sql)

namespace Cursor

/-- The cursor with other rows left. -/
def withRows (cursor : Cursor) (rows : List (List Value)) : Cursor :=
  { cursor with response := { cursor.response with rows := rows } }

def fetchRow (cursor : Cursor) : Except Fault (Option (List Value)) × Cursor :=
  match cursor.response.rows, cursor.response.fetchError with
  | row :: rest, _ => (.ok (some row), cursor.withRows rest)
  | [], some fault => (.error fault, cursor)
  | [], none => (.ok none, cursor)

/-- Fetch all rows that are left.  This may fail at once. -/
def fetchRows (cursor : Cursor) : Except Fault (List (List Value)) × Cursor :=
  match cursor.response.fetchError with
  | some fault => (.error fault, cursor)
  | none => (.ok cursor.response.rows, cursor.withRows [])

end Cursor

end Native
end SqlGateway
