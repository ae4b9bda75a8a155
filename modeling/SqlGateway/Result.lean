import SqlGateway.Column
import SqlGateway.Native.Driver
import SqlGateway.Value.Equality

namespace SqlGateway

/-!
Results of statements.  A result reads rows from the cursor of its statement and
converts each value as the column was declared.  Once it is free it has no rows.
-/

inductive FetchMode where
  /-- Values by their places. -/
  | ordered
  /-- Values under the names of their columns. -/
  | assoc
  /-- A record with a field for each column. -/
  | object
deriving DecidableEq, Repr, Inhabited

namespace FetchMode

def all : List FetchMode := [.ordered, .assoc, .object]

def name : FetchMode → String
  | .ordered => "ORDERED"
  | .assoc => "ASSOC"
  | .object => "OBJECT"

def ofName? (name : String) : Option FetchMode := all.find? fun mode => mode.name == name

end FetchMode

/-- The result of a statement. -/
structure QueryResult where
  cursor : Native.Cursor
  /-- The declared kinds of the columns. -/
  columnTypes : List (Option TypeCode)
  /-- Whether columns without a declared kind become text. -/
  stringified : Bool
  /-- Which faults of the cursor are failures of the driver; all ordinary ones if no
  kinds are named. -/
  driverFaults : Option (List FaultKind)
  /-- Whether the cursor was closed. -/
  closed : Bool
  /-- The native text of the statement. -/
  sql : String
deriving Inhabited

namespace QueryResult

def columnNames (result : QueryResult) : List String :=
  result.cursor.response.columns.getD []

def returnsRows (result : QueryResult) : Bool := !result.columnNames.isEmpty

/-- How many rows were changed: what the driver says, unless that is no count. -/
def rowsAffected (result : QueryResult) : Value :=
  match result.cursor.response.rowCount with
  | .int count => if 0 < count then .int count else .int 0
  | .bool true => .bool true
  | _ => .int 0

/-- What the driver says of the row inserted last. -/
def lastRowId (result : QueryResult) : Value := result.cursor.response.lastRowId

def display (result : QueryResult) : String :=
  "QueryResult(columns=[" ++ ", ".intercalate (result.columnNames.map Text.quoted) ++
    "], closed=" ++ (if result.closed then "True" else "False") ++ ")"

/-- The values of a row, each converted to the declared kind at its place. -/
def convertRow (stringified : Bool) : List (Option TypeCode) → List Value →
    Except Fault (List Value)
  | _, [] => .ok []
  | types, value :: rest => do
    return (← Column.convert value types.head?.join stringified) ::
      (← convertRow stringified types.tail rest)

/-- Names paired with values; a repeated name keeps its first place and its last
value. -/
def named (names : List String) (values : List Value) : List (String × Value) :=
  (Dictionary.ofList (names.zip values)).entries

/-- Converted values in the form in which they are handed out. -/
def shape (names : List String) (mode : FetchMode) (values : List Value) : Value :=
  match mode with
  | .ordered => .tuple values
  | .assoc => .table ((named names values).map fun (name, value) => (.text name, value))
  | .object => .record (named names values)

/-- A row of the driver as it is handed out. -/
def readRow (result : QueryResult) (mode : FetchMode) (row : List Value) : Except Fault Value := do
  return shape result.columnNames mode
    (← convertRow result.stringified result.columnTypes row)

/-- Rows of the driver as they are handed out. -/
def readRows (result : QueryResult) (mode : FetchMode) : List (List Value) →
    Except Fault (List Value)
  | [] => .ok []
  | row :: rest => do return (← readRow result mode row) :: (← readRows result mode rest)

/-- Whether no row will be handed out. -/
def isSpent (result : QueryResult) : Bool := result.closed || !result.returnsRows

/-- Outcome of a fetch as the caller sees it. -/
def fetched {α : Type} (result : QueryResult) (detail : String) (outcome : Except Fault α) :
    Except Fault α :=
  outcome.mapError (Fault.atBoundary detail result.driverFaults)

/-- The next row, if there is one.  The cursor moves on even if the row cannot be
converted. -/
def fetchRow? (result : QueryResult) (mode : FetchMode) :
    Except Fault (Option Value) × QueryResult :=
  if result.isSpent then (.ok none, result)
  else
    let (outcome, cursor) := result.cursor.fetchRow
    let outcome := do
      match ← result.fetched "Failed fetching row" outcome with
      | some row => return some (← result.readRow mode row)
      | none => return none
    (outcome, { result with cursor := cursor })

def fetchRow (result : QueryResult) (mode : FetchMode) : Except Fault Value × QueryResult :=
  let (outcome, result) := result.fetchRow? mode
  (outcome.map fun row => row.getD .null, result)

/-- All rows that are left. -/
def fetchAll (result : QueryResult) (mode : FetchMode) :
    Except Fault (List Value) × QueryResult :=
  if result.isSpent then (.ok [], result)
  else
    let (outcome, cursor) := result.cursor.fetchRows
    let outcome := do result.readRows mode (← result.fetched "Failed fetching rows" outcome)
    (outcome, { result with cursor := cursor })

/-- At most `count` rows, one after the other, and the fault that stopped them, if one
did. -/
def takeRows : Nat → QueryResult → List Value × Option Fault × QueryResult
  | 0, result => ([], none, result)
  | count + 1, result =>
    match result.fetchRow? .ordered with
    | (.ok (some row), result) =>
      let (rows, fault, result) := takeRows count result
      (row :: rows, fault, result)
    | (.ok none, result) => ([], none, result)
    | (.error fault, result) => ([], some fault, result)

/-- All rows that are left, one after the other, and what came of fetching the end. -/
def iterate (result : QueryResult) : List Value × Option Fault × QueryResult :=
  takeRows (result.cursor.response.rows.length + 1) result

/-- The result after its cursor was closed. -/
def freed (result : QueryResult) : QueryResult := { result with closed := true }

/-- Close the cursor, once.  Ordinary failures to do so are of no interest. -/
def free (result : QueryResult) : Operation Native.Driver Unit := do
  if !result.closed then
    match ← Operation.observe (Native.closeCursor result.cursor) with
    | .ok () => pure ()
    | .error fault => if !fault.kind.isOrdinary then throw fault

end QueryResult
end SqlGateway
