import SqlGateway.Database.Rows
import SqlGateway.Scenario.Client

namespace SqlGateway
namespace Scenario

/-!
Commands of a scripted caller.
-/

open Session (library driver)

/-- The connection of statements that are checked without a database. -/
def looseConnection : Native.Connection := .named "x"

def databaseOf (name : String) : Play Database := named Client.databases name

def text (content : String) : Reply := .value (.text content)

def makeDatabase (name : String) (arguments : List (String × Value))
    (params : Option ParamsSource) (registry tracker : Scope) : Play Reply := do
  let whole ← params.mapM fun source => .ofExcept source.params
  let request ← .ofExcept (Database.Request.ofArguments arguments)
  let request := match whole with
    | some params => { request with params := some (.checked params) }
    | none => request
  let database ← library (Database.ofRequest request registry tracker)
  keepDatabase name database
  return text (← .ofExcept (Database.display (← library database.entryOf)))

/-- Take the database that rejects nested transactions. -/
def takeNonNestable (name : String) : Play Reply := do
  let database ← library Database.nonNestable
  let names := ((← get).caller.databases.entries.filter fun kept => kept.2 = database).map Prod.fst
  keepDatabase name database
  let entry ← library database.entryOf
  return .nonNestable (← .ofExcept (Database.display entry)) entry.nestable names

def showDatabase (name : String) : Play Reply := do
  let entry ← library (← databaseOf name).entryOf
  return .database (← .ofExcept (Database.display entry)) entry.nestable entry.params

/-- Keep a result and show it. -/
def giveResult (name : String) (result : QueryResult) : Play Reply := do
  keepResult name result
  return .result result

def makeEntry (name : String) (params : ParamsSource) (nestable : Bool) : Play Nat := do
  let params ← .ofExcept params.params
  let id ← library (Gateway.addEntry (.ofParams params nestable))
  keepEntry name id
  return id

def showEntry (name : String) : Play Reply := do
  let entry ← library (Gateway.entryAt (← named Client.entries name))
  return .entry entry.display (← .ofExcept entry.adapter) entry.handle

/-- The first name of an entry as a reply, or the missing value. -/
def entryName (id : Nat) : Play Reply := do
  match (← get).caller.entries.entries.find? fun kept => kept.2 == id with
  | some (name, _) => return text name
  | none => return .value .null

/-- The entry under a fingerprint, which the caller makes if there is none. -/
def registryGetOrMake (registry : Scope) (key name : String) (params : ParamsSource)
    (nestable : Bool) : Play Reply := do
  match ← library (Gateway.registered? registry key) with
  | some id => entryName id
  | none =>
    driver (Native.note .makeEntry)
    let id ← makeEntry name params nestable
    library (Gateway.register registry key id)
    entryName id

def registryGet (registry : Scope) (key : String) : Play Reply := do
  match ← library (Gateway.registered? registry key) with
  | some id => entryName id
  | none => return .value .null

def showRegistry (registry : Scope) (keys : List String) : Play Reply := do
  let registry := (← get).gateway.registry registry
  return .registry registry.size (keys.map registry.has)

/-- Check a statement against the grammar of a dialect. -/
def validate (source : DialectSource) (sql : String) : Play Unit := do
  let _ ← .ofExcept source.adapter
  driver (Adapter.validate (← .ofExcept source.dialect) sql)

/-- Have a server read a statement. -/
def prepareNatively (source : DialectSource) (sql : String) : Play Unit := do
  let adapter ← .ofExcept source.adapter
  driver (adapter.prepareNatively looseConnection sql)

/-- Commands about transactions and small services of a database. -/
def performOn (name : String) (operation : Database → Operation (Gateway Callback) Unit) :
    Play Reply := do
  library (operation (← databaseOf name))
  return .nothing

def entryOf (name : String) : Play Nat := named Client.entries name

/-- Carry out a command about the database of a step. -/
def perform (runner : Runner) (name : String) : Command → Play Reply
  | .setConfig source => do
    library (Gateway.setConfig (source.map ConfigSource.config))
    return .nothing
  | .setEnvironment pairs => do library (Gateway.setEnvironment pairs); return .nothing
  | .showConfig => do return text (← get).gateway.currentConfig.display
  | .makeDatabase arguments params registry tracker =>
    makeDatabase name arguments params registry tracker
  | .takeNonNestable => takeNonNestable name
  | .showDatabase => showDatabase name
  | .connect => do return text (← library (← databaseOf name).handle).connection.label
  | .disconnect => performOn name Database.disconnect
  | .query template values result => do
    giveResult result (← (← databaseOf name).query runner template values)
  | .prepare template kept => do
    let statement ← library ((← databaseOf name).prepare template)
    keepStatement kept statement
    return .statement statement
  | .execute statement values result => do
    giveResult result (← (← named Client.statements statement).execute runner values)
  | .validate dialect sql => do validate dialect sql; return .nothing
  | .prepareNatively dialect sql => do prepareNatively dialect sql; return .nothing
  | .begin => performOn name Database.begin
  | .commit => performOn name Database.commit
  | .rollback => performOn name Database.rollback
  | .lastInsertId => do return .value (.int (← library (← databaseOf name).lastInsertId))
  | .quote value => do return text (← library ((← databaseOf name).quote value))
  | .quoteIdentifier identifier => do
    return text (← library ((← databaseOf name).quoteIdentifier identifier))
  | .showPlaceholder value => return text (Parameter.placeholderFor value)
  | .unwrap outcome => do
    return .value (← .ofExcept (← named Client.outcomes outcome).unwrap)
  | .unwrapGiven committed value error => do
    return .value (← .ofExcept (TransactionOutcome.mk committed value error).unwrap)
  | .fetchValue template values => do
    return .value (← (← databaseOf name).fetchValue runner template values)
  | .fetchFirstRow template values mode => do
    return .value (← (← databaseOf name).fetchFirstRow runner template values mode)
  | .fetchAll template values mode column => do
    return .value (.list (← (← databaseOf name).fetchAll runner template values mode column))
  | .insert table values => do
    return .value (.int (← (← databaseOf name).insert runner table values))
  | .update table values choice => do
    (← databaseOf name).update runner table values choice
    return .nothing
  | .insertOrUpdate table values choice => do
    return .value (← (← databaseOf name).insertOrUpdate runner table values choice)
  | .delete table choice reporting => do
    return .value (.bool (← (← databaseOf name).delete runner table choice reporting))
  | .unregisterHook hook => do
    let database ← databaseOf name
    let id ← match hook with
      | some hook => do pure (some (← named Client.hooks hook))
      | none => pure none
    library (database.unregisterHook id)
    return .nothing
  | .makeEntry entry params nestable => do
    let id ← makeEntry entry params nestable
    return text (← library (Gateway.entryAt id)).display
  | .showEntry entry => showEntry entry
  | .registryGet registry key => registryGet registry key
  | .registryPut registry key entry => do
    library (Gateway.register registry key (← entryOf entry))
    return .nothing
  | .registryGetOrMake registry key entry params nestable =>
    registryGetOrMake registry key entry params nestable
  | .registryConnect _ entry => do
    return .handle (← library (Gateway.connect (← entryOf entry)))
  | .registryDisconnect _ entry tracker => do
    library (Gateway.disconnect (← entryOf entry) tracker)
    return .nothing
  | .showRegistry registry keys => showRegistry registry keys
  | .clearRegistry registry => do library (Gateway.clearRegistry registry); return .nothing
  | .clearCaches => do library Gateway.clearCaches; return .nothing
  | .showCacheStats => do return text (← get).gateway.cache.stats.display
  | .fetchRow result mode => do
    return .value (← fetching result fun result => result.fetchRow mode)
  | .fetchRows result mode => do
    return .value (.list (← fetching result fun result => result.fetchAll mode))
  | .iterate result limit => do return .count (← iterate result limit)
  | .free result => do freeResult (← named Client.resultNumbers result); return .nothing
  | .showResult result => do return .result (← resultNamed result)

end Scenario
end SqlGateway
