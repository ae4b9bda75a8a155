import SqlGateway.Session

namespace SqlGateway
namespace Database

/-!
Queries of which only a part of the result is wanted: the first row, its first value,
or one column of all rows.
-/

variable {α σ : Type}

def fetchFirstRow (runner : HookRunner α σ) (database : Database) (template : String)
    (values : List Value) (mode : FetchMode) : Operation (Session α σ) Value :=
  database.withQuery runner template values fun result => (result.fetchRow mode).1

/-- The first value of a row by places; a row without values has none. -/
def firstValue : Value → Value
  | .collection _ (value :: _) => value
  | _ => .null

/-- The first value of the first row of a query, or the missing value. -/
def fetchValue (runner : HookRunner α σ) (database : Database) (template : String)
    (values : List Value) : Operation (Session α σ) Value := do
  return firstValue (← database.fetchFirstRow runner template values .ordered)

/-- The place in a row that a value names, if it is a whole number. -/
def place? : Value → Option Int
  | .int place => some place
  | .bool truth => some (if truth then 1 else 0)
  | _ => none

def columnMismatch (mode : FetchMode) (column : Value) : Fault :=
  match column.display with
  | .ok shown =>
    .of .inconsistentParameters ("Invalid 'column' option: expected " ++
      (if mode = .ordered then "int" else "str") ++ "; found " ++ shown)
  | .error fault => fault

/-- The form of the rows for a wanted form and a wanted column: by places unless a
column is wanted by name.  Records have no columns, and a column by its place wants rows
by places. -/
def resolveMode (mode : Option FetchMode) (column : Value) : Except Fault FetchMode :=
  let byPlace := (place? column).isSome
  match mode with
  | none => .ok (if column.isNull || byPlace then .ordered else .assoc)
  | some mode =>
    if column.isNull then .ok mode
    else if mode = .object then
      .error (.of .inconsistentParameters
        "The 'column' option cannot be combined with FetchMode.OBJECT")
    else if byPlace = decide (mode = .ordered) then .ok mode
    else .error (columnMismatch mode column)

/-- The member of a row at a place, counted from the end if the place is negative. -/
def atPlace (row : List Value) (place : Int) : Value :=
  if 0 ≤ place then (row[place.toNat]?).getD .null
  else (row.reverse[(-place - 1).toNat]?).getD .null

def selectColumn (column row : Value) : Except Fault Value :=
  match place? column, row with
  | some place, .collection _ values => .ok (atPlace values place)
  | none, .mapping _ entries =>
    if column.isHashable then .ok ((Value.lookup column entries).getD .null)
    else .error (.bare .badType)
  | _, _ => .error (.bare .badType)

/-- One column of all rows; the missing value wants all columns. -/
def selectColumns (column : Value) (rows : List Value) : Except Fault (List Value) :=
  if column.isNull then .ok rows else rows.mapM (selectColumn column)

/-- All rows of a query, or one column of them. -/
def fetchAll (runner : HookRunner α σ) (database : Database) (template : String)
    (values : List Value) (mode : Option FetchMode) (column : Value) :
    Operation (Session α σ) (List Value) := do
  let mode ← .ofExcept (resolveMode mode column)
  let rows ← database.withQuery runner template values fun result => (result.fetchAll mode).1
  .ofExcept (selectColumns column rows)

end Database
end SqlGateway
