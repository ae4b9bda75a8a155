import SqlGateway.Connection.Registry

namespace SqlGateway
namespace Database

/-!
Making databases.  Parameters are given as a whole, or field by field with the name
of a dialect, or not at all: then the configuration in force is used, and all
databases of one configuration share one connection entry unless they ask not to.
-/

variable {α : Type}

/-- Connection parameters given as a whole. -/
inductive WholeParams where
  | checked (params : ConnectionParams)
  | unchecked (value : Value)

/-- What a database is asked for.  A missing value counts as not given. -/
structure Request where
  params : Option WholeParams := none
  fields : ConnectionFields := {}
  /-- Whether to share the connection of the configuration. -/
  useCache : Value := .null

namespace Request

/-- Add a named argument.  A registry or a tracker that is missing is the shared one. -/
def set (request : Request) (name : String) (value : Value) : Except Fault Request :=
  match name, value with
  | "params", .null => .ok { request with params := none }
  | "params", value => .ok { request with params := some (.unchecked value) }
  | "registry", .null | "tracker", .null => .ok request
  | "use_cache", value => .ok { request with useCache := value }
  | "options", .null => .ok { request with fields := { request.fields with options := none } }
  | name, value =>
    if ConnectionFields.names.contains name then
      .ok { request with fields := request.fields.set name value }
    else .error (.bare .badType)

def ofArguments (arguments : List (String × Value)) : Except Fault Request :=
  arguments.foldlM (fun request argument => request.set argument.1 argument.2) {}

/-- Whether a field other than the dialect is given. -/
def hasFields (request : Request) : Bool :=
  let fields := request.fields
  fields.options.isSome ||
    [fields.host, fields.port, fields.username, fields.password, fields.database].any
      fun value => !value.isNull

/-- What does not go together in a request, if anything. -/
def conflict? (request : Request) : Option Fault :=
  let isWhole := request.params.isSome
  let hasDialect := !request.fields.dbms.isNull
  if isWhole && hasDialect then
    some (.of .inconsistentParameters "The options 'params' and 'dbms' are incompatible")
  else if isWhole && request.hasFields then
    some (.of .inconsistentParameters "Connection fields cannot be combined with 'params'")
  else if (isWhole || hasDialect) && !request.useCache.isNull then
    some (.of .invalidParameter
      "The option 'use_cache' is not supported when connection parameters are specified")
  else if !isWhole && !hasDialect && request.hasFields then
    some (.of .invalidParameter "Connection fields require the 'dbms' option")
  else none

/-- Options that count as false are no options. -/
def givenOptions (options : Option Value) : Value :=
  match options with
  | some options => if options.isTrue then options else .table []
  | none => .table []

/-- The connection parameters that a request gives, if it gives any. -/
def params? (request : Request) : Option (Except Fault ConnectionParams) :=
  match request.params with
  | some (.checked params) => some (.ok params)
  | some (.unchecked value) => some (ConnectionParams.ofValue value)
  | none =>
    if request.fields.dbms.isNull then none
    else
      let fields := request.fields
      some <| ConnectionParams.ofFields { fields with
        database := if fields.database.isNull then .text "" else fields.database
        options := some (givenOptions fields.options) }

/-- Whether the connection of the configuration is not to be shared. -/
def isPrivate (request : Request) : Bool :=
  match request.useCache with
  | .bool false => true
  | _ => false

end Request

open Gateway

/-- Make an entry for the configuration in force. -/
def configuredEntry (nestable : Bool) : Operation (Gateway α) Nat := do
  let params ← .ofExcept (ConnectionParams.ofConfig (← get).currentConfig)
  addEntry (.ofParams params nestable)

/-- The entry of a registry for the configuration in force, made if there is none. -/
def sharedEntry (registry : Scope) : Operation (Gateway α) Nat := do
  let fingerprint ← .ofExcept (← get).currentConfig.fingerprint
  match ← registered? registry fingerprint with
  | some id => return id
  | none =>
    let id ← configuredEntry true
    register registry fingerprint id
    return id

def ofRequest (request : Request) (registry tracker : Scope) :
    Operation (Gateway α) Database := do
  match request.conflict? with
  | some fault => throw fault
  | none =>
    let entry ← match request.params? with
      | some params => do addEntry (.ofParams (← .ofExcept params) true)
      | none => if request.isPrivate then configuredEntry true else sharedEntry registry
    return ⟨entry, registry, tracker⟩

/-- The database of the configuration that rejects nested transactions.  There is one
for the whole process, made when it is first asked for; its connection is not
shared. -/
def nonNestable : Operation (Gateway α) Database := do
  match (← get).nonNestable with
  | some database => return database
  | none =>
    let database : Database := ⟨← configuredEntry false, .shared, .shared⟩
    modify fun gateway => { gateway with nonNestable := some database }
    return database

/-! ## What a database is -/

def entryOf (database : Database) : Operation (Gateway α) (Entry α) := entryAt database.entry

def display (entry : Entry α) : Except Fault String := do
  return "Database(dbms=" ++ Text.quoted entry.params.dialect.name ++ ", database=" ++
    (← entry.params.database.display) ++ ", nestable=" ++ Entry.displayTruth entry.nestable ++ ")"

def handle (database : Database) : Operation (Gateway α) Handle := connect database.entry

/-- Close the connection of a database; its open transaction is forgotten. -/
def disconnect (database : Database) : Operation (Gateway α) Unit :=
  Gateway.disconnect database.entry (some database.tracker)

/-! ## Transactions -/

def depth (database : Database) (gateway : Gateway α) : Nat :=
  match (gateway.entry database.entry).handle with
  | some handle => (gateway.tracker database.tracker).depth handle.id
  | none => 0

def writeTransaction (message : String) : Operation (Gateway α) Unit :=
  write .debug "driver.transaction" message none

/-- Write about a transaction to the log, if there is anything to say. -/
def writeNotice : Option String → Operation (Gateway α) Unit
  | some message => writeTransaction message
  | none => pure ()

def setTracker (database : Database) (tracker : Tracker) : Operation (Gateway α) Unit :=
  modify fun gateway => gateway.setTracker database.tracker tracker

/-- Make the native call of a plan on a connection. -/
def callNative (handle : Handle) (call : Transaction.NativeCall) : Operation (Gateway α) Unit :=
  .atBoundary call.failure (some Adapter.driverFaults)
    (onDriver (handle.adapter.transact handle.connection call))

/-- Carry out a plan on a connection. -/
def carryOut (database : Database) (handle : Handle) (plan : Transaction.Plan) :
    Operation (Gateway α) Unit := do
  writeNotice plan.announcement
  match plan.call with
  | some call =>
    database.setTracker plan.failed
    callNative handle call
  | none => pure ()
  database.setTracker plan.succeeded
  writeNotice plan.confirmation

/-- Connect a database and carry out what the tracker plans for its connection. -/
def move (database : Database) (operation : Tracker → Nat → Except Fault Transaction.Plan) :
    Operation (Gateway α) Unit := do
  let handle ← database.handle
  let tracker := (← get).tracker database.tracker
  database.carryOut handle (← .ofExcept (operation tracker handle.id))

/-- Begin a transaction, or enter a nested one. -/
def begin (database : Database) : Operation (Gateway α) Unit := do
  let entry ← database.entryOf
  database.move fun tracker id => tracker.begin id entry.nestable

/-- Leave a level of the transaction; the last level commits, unless the transaction is
doomed. -/
def commit (database : Database) : Operation (Gateway α) Unit :=
  database.move fun tracker id => tracker.commit id

/-- Leave a level of the transaction; the last level rolls back. -/
def rollback (database : Database) : Operation (Gateway α) Unit :=
  database.move fun tracker id => tracker.rollback id

/-! ## Smaller services -/

def lastInsertId (database : Database) : Operation (Gateway α) Int := do
  let handle ← database.handle
  .atBoundary "Failed fetching last insert id" (some Adapter.driverFaults)
    (onDriver (handle.adapter.lastInsertId handle.connection handle.lastRowId))

/-- The string literal for the text of a value. -/
def quote (database : Database) (value : Value) : Operation (Gateway α) String := do
  let adapter ← .ofExcept (← database.entryOf).adapter
  return adapter.quoteLiteral (← .ofExcept value.toText)

def quoteIdentifier (database : Database) (identifier : String) : Operation (Gateway α) String := do
  .ofExcept ((← database.entryOf).params.dialect.quoteIdentifier identifier)

/-! ## Hooks -/

/-- Register callbacks that run around each statement on the connection. -/
def registerHook (database : Database) (name : String) (before after : Option α) :
    Operation (Gateway α) (Hook α) := do
  let gateway ← get
  let hook : Hook α := ⟨gateway.hookCount, name, before, after⟩
  set { gateway with hookCount := gateway.hookCount + 1 }
  changeEntry database.entry fun entry => { entry with hooks := entry.hooks ++ [hook] }
  return hook

/-- Take a hook out again. -/
def unregisterHook (database : Database) (id : Option Nat) : Operation (Gateway α) Unit := do
  let entry ← database.entryOf
  if entry.hooks.any fun hook => some hook.id == id then
    changeEntry database.entry fun entry =>
      { entry with hooks := entry.hooks.filter fun hook => some hook.id != id }
  else throw (.of .invalidParameter "Unknown hook")

end Database
end SqlGateway
