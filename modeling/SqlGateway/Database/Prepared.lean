import SqlGateway.Session

namespace SqlGateway

/-!
Prepared statements: templates that are compiled once and run again and again.  Unless
preparing is emulated, a statement is checked when it is prepared.
-/

/-- A template that was compiled to be run again and again. -/
structure PreparedStatement where
  database : Database
  template : String
  query : ParsedQuery
deriving Inhabited

namespace PreparedStatement

def display (statement : PreparedStatement) : String :=
  "PreparedStatement(sql=" ++ Text.quoted statement.query.sql ++ ")"

def execute {α σ : Type} (runner : HookRunner α σ) (statement : PreparedStatement)
    (values : List Value) : Operation (Session α σ) QueryResult :=
  statement.database.execute runner statement.query values

end PreparedStatement

namespace Database

variable {α : Type}

/-- Have the server read a statement on the connection of a database. -/
def prepareOnServer (database : Database) (sql : String) : Operation (Gateway α) Unit := do
  let handle ← database.handle
  .atBoundary "Failed preparing statement" (some Adapter.driverFaults)
    (Gateway.onDriver (handle.adapter.prepareNatively handle.connection sql))

/-- Check a template against the grammar of a dialect, which knows only question marks. -/
def checkGrammar (template : String) (dialect : Dialect) : Operation (Gateway α) Unit := do
  let query ← Gateway.compile template dialect (some .question)
  Gateway.onDriver (Adapter.validate dialect query.sql)

/-- Compile a template to be run again and again.  Unless preparing is emulated, the
statement is checked now: by the server if the driver can ask it, and otherwise by the
grammar. -/
def prepare (database : Database) (template : String) :
    Operation (Gateway α) PreparedStatement := do
  let params := (← database.entryOf).params
  let query ← Gateway.compile template params.dialect none
  if !params.emulatePrepares then
    let adapter ← .ofExcept (Adapter.ofDialect params.dialect)
    if adapter.preparesNatively then database.prepareOnServer query.sql
    else checkGrammar template params.dialect
  return ⟨database, template, query⟩

end Database
end SqlGateway
