import SqlGateway.Database.Fetch

namespace SqlGateway
namespace Database

/-!
Rows of single tables: insert, update, insert or update, delete.  A statement is put
together as a template, so that the dialect quotes the names and every value is a
parameter of the kind of the value.  Rows are chosen by the number in their key column
or by the values of any columns.
-/

variable {α σ : Type}

/-- The column that holds the number of a row. -/
def keyColumn : String := "RecordID"

/-- The column that holds the time at which a row was made. -/
def timeColumn : String := "CreationDate"

/-- A name between brackets. -/
def bracketed (name : String) : String := "[" ++ name ++ "]"

/-- The columns that choose rows, with the values that they must have. -/
def conditions : Value → List (Value × Value)
  | .mapping _ entries => entries
  | key => [(.text keyColumn, key)]

/-- The name of a column that is safe between brackets. -/
def columnName (column : Value) : Except Fault String :=
  match column with
  | .text name =>
    if column.isColumnName then .ok name
    else .error (.of .invalidParameter ("Invalid column name: " ++ name))
  | column => do throw (.of .invalidParameter ("Invalid column name: " ++ (← column.toText)))

/-- Columns set equal to placeholders for their values. -/
def equations : List (Value × Value) → Except Fault (List String)
  | [] => .ok []
  | (column, value) :: rest => do
    let equation := bracketed (← columnName column) ++ " = " ++ Parameter.placeholderFor value
    return equation :: (← equations rest)

/-- Equations between separators. -/
def assignments (entries : List (Value × Value)) (separator : String) : Except Fault String := do
  return separator.intercalate (← equations entries)

def valuesOf (entries : List (Value × Value)) : List Value := entries.map Prod.snd

/-! ## Templates -/

def insertTemplate (table : String) (columns : List String) (placeholders : List String) :
    String :=
  "INSERT INTO " ++ bracketed table ++ " (" ++ bracketed ("],[".intercalate columns) ++
    ") VALUES (" ++ ",".intercalate placeholders ++ ")"

def countTemplate (table restriction : String) : String :=
  "SELECT COUNT(*)\x7bi\x7d FROM " ++ bracketed table ++ " WHERE " ++ restriction

def keyTemplate (table restriction : String) : String :=
  "SELECT " ++ bracketed keyColumn ++ "\x7bi\x7d FROM " ++ bracketed table ++ " WHERE " ++ restriction

def updateTemplate (table setting restriction : String) : String :=
  "UPDATE " ++ bracketed table ++ " SET " ++ setting ++ " WHERE " ++ restriction

def deleteTemplate (table restriction : String) : String :=
  "DELETE FROM " ++ bracketed table ++ " WHERE " ++ restriction

/-! ## Operations -/

/-- The names of columns as texts; anything else is no name. -/
def columnTexts : List (Value × Value) → Except Fault (List String)
  | [] => .ok []
  | (.text name, _) :: rest => do return name :: (← columnTexts rest)
  | (.brokenText name, _) :: rest => do return name.escaped :: (← columnTexts rest)
  | _ :: _ => .error (.bare .badType)

/-- The entries of a new row: the time comes first unless it is given. -/
def newRow (clock : Value) (values : List (Value × Value)) :
    Except Fault (List (Value × Value)) := do
  match Value.lookup (.text timeColumn) values with
  | some _ => return values
  | none => return (.text timeColumn, .int (← clock.toInt)) :: values

def insertion (table : String) (row : List (Value × Value)) : Except Fault String := do
  return insertTemplate table (← columnTexts row)
    (row.map fun entry => Parameter.placeholderFor entry.2)

/-- Insert a row and answer its number. -/
def insert (runner : HookRunner α σ) (database : Database) (table : String)
    (values : List (Value × Value)) : Operation (Session α σ) Int := do
  let row ← .ofExcept (newRow (← get).gateway.driver.clock values)
  database.run runner (← .ofExcept (insertion table row)) (valuesOf row)
  Session.library database.lastInsertId

/-- Set columns of the rows that meet conditions. -/
def setColumns (runner : HookRunner α σ) (database : Database) (table : String)
    (values chosen : List (Value × Value)) (restriction : String) : Operation (Session α σ) Unit := do
  let setting ← .ofExcept (assignments values ", ")
  database.run runner (updateTemplate table setting restriction) (valuesOf values ++ valuesOf chosen)

def noSuchRecord (table : String) : Fault :=
  .of .objectDoesNotExist ("Failed updating " ++ table ++ ": no such record")

/-- Update the chosen rows, of which there must be one. -/
def update (runner : HookRunner α σ) (database : Database) (table : String)
    (values : List (Value × Value)) (choice : Value) : Operation (Session α σ) Unit := do
  let chosen := conditions choice
  let restriction ← .ofExcept (assignments chosen " AND ")
  let count ← database.fetchValue runner (countTemplate table restriction) (valuesOf chosen)
  if !count.isTrue then throw (noSuchRecord table)
  database.setColumns runner table values chosen restriction

/-- The entries of a row that takes from the conditions what its values leave open. -/
def completed (values chosen : List (Value × Value)) : List (Value × Value) :=
  chosen.foldl
    (fun row entry =>
      match Value.lookup entry.1 row with
      | some _ => row
      | none => row ++ [entry])
    values

/-- Update the chosen rows, or insert one if there is none.  The answer is the number of
the new row or of the only row, or the list of the numbers of several rows. -/
def insertOrUpdate (runner : HookRunner α σ) (database : Database) (table : String)
    (values : List (Value × Value)) (choice : Value) : Operation (Session α σ) Value := do
  let chosen := conditions choice
  let restriction ← .ofExcept (assignments chosen " AND ")
  let keys ← database.fetchAll runner (keyTemplate table restriction) (valuesOf chosen) none (.int 0)
  match keys with
  | [] => return .int (← database.insert runner table (completed values chosen))
  | first :: rest =>
    if !values.isEmpty then database.setColumns runner table values chosen restriction
    return if rest.isEmpty then first else .list (first :: rest)

/-- Delete the chosen rows, whether there are any or not. -/
def deleteRows (runner : HookRunner α σ) (database : Database) (table : String)
    (choice : Value) : Operation (Session α σ) Unit := do
  let chosen := conditions choice
  let restriction ← .ofExcept (assignments chosen " AND ")
  database.run runner (deleteTemplate table restriction) (valuesOf chosen)

/-- Delete the chosen rows and answer whether that succeeded.  A fault of the library goes
on to the caller unless it is to be answered. -/
def delete (runner : HookRunner α σ) (database : Database) (table : String) (choice : Value)
    (reporting : Bool) : Operation (Session α σ) Bool := do
  match ← Operation.observe (database.deleteRows runner table choice) with
  | .ok () => return true
  | .error fault =>
    if fault.kind.isLibrary && reporting then
      Session.library
        (Gateway.write .debug "driver.crud" ("Delete from " ++ table ++ " failed") none)
      return false
    else throw fault

end Database
end SqlGateway
