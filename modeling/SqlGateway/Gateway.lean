import SqlGateway.Connection.Entry
import SqlGateway.Logging.Record
import SqlGateway.Template.Cache
import SqlGateway.Transaction.Tracker

namespace SqlGateway

/-!
All that the library remembers: the compiled templates, the configuration, the
connection entries with the registries that share them, the depths of transactions,
and the log.  Entries, handles and hooks get their ids in order, and no id is given
twice.
-/

/-- Which registry or which tracker is meant: the one of the whole process or one of
the caller's own. -/
inductive Scope where
  | shared
  | named (name : String)
deriving DecidableEq, Repr, Inhabited

/-- Entries by the fingerprints of the configurations that they were made from. -/
abbrev Registry := Dictionary String Nat

/-- A database: a connection entry, with the registry and the tracker to use. -/
structure Database where
  entry : Nat
  registry : Scope
  tracker : Scope
deriving DecidableEq, Repr, Inhabited

/-- The state of the library over a driver. -/
structure Gateway (α : Type) where
  driver : Native.Driver
  cache : Template.Cache
  /-- The variables of the environment that configure the library. -/
  environment : List (String × String)
  /-- The current configuration, unless it is that of the environment. -/
  config : Option Config
  entries : Dictionary Nat (Entry α)
  /-- How many handles were made. -/
  handleCount : Nat
  /-- How many hooks were made. -/
  hookCount : Nat
  registries : Dictionary Scope Registry
  trackers : Dictionary Scope Tracker
  /-- The database that rejects nested transactions, once it was asked for. -/
  nonNestable : Option Database
  /-- What was logged, in order. -/
  log : List Logging.Record
deriving Inhabited

namespace Gateway

variable {α : Type}

/-- The state at the start. -/
def ofDriver (driver : Native.Driver) : Gateway α where
  driver := driver
  cache := .ofCapacity Template.Cache.sharedCapacity
  environment := []
  config := none
  entries := .empty
  handleCount := 0
  hookCount := 0
  registries := .empty
  trackers := .empty
  nonNestable := none
  log := []

/-! ## Parts of the state -/

def entry (gateway : Gateway α) (id : Nat) : Entry α := (gateway.entries.get? id).getD default

def setEntry (gateway : Gateway α) (id : Nat) (entry : Entry α) : Gateway α :=
  { gateway with entries := gateway.entries.put id entry }

/-- A registry, which is empty until it is used. -/
def registry (gateway : Gateway α) (scope : Scope) : Registry :=
  (gateway.registries.get? scope).getD .empty

def setRegistry (gateway : Gateway α) (scope : Scope) (registry : Registry) : Gateway α :=
  { gateway with registries := gateway.registries.put scope registry }

/-- A tracker, which is empty until it is used. -/
def tracker (gateway : Gateway α) (scope : Scope) : Tracker :=
  (gateway.trackers.get? scope).getD .empty

def setTracker (gateway : Gateway α) (scope : Scope) (tracker : Tracker) : Gateway α :=
  { gateway with trackers := gateway.trackers.put scope tracker }

/-- The configuration in force. -/
def currentConfig (gateway : Gateway α) : Config :=
  gateway.config.getD (Config.ofEnvironment gateway.environment)

/-! ## Operations on parts of the state -/

def onDriver {β : Type} (operation : Operation Native.Driver β) : Operation (Gateway α) β :=
  .within Gateway.driver (fun gateway driver => { gateway with driver := driver }) operation

def write (level : Logging.Level) (part message : String)
    (fields : Option (List (String × Value))) : Operation (Gateway α) Unit :=
  modify fun gateway =>
    { gateway with log := gateway.log ++ [⟨level, Logging.loggerName part, message, fields⟩] }

def entryAt (id : Nat) : Operation (Gateway α) (Entry α) := do return (← get).entry id

def changeEntry (id : Nat) (change : Entry α → Entry α) : Operation (Gateway α) Unit :=
  modify fun gateway => gateway.setEntry id (change (gateway.entry id))

def addEntry (entry : Entry α) : Operation (Gateway α) Nat := fun gateway =>
  let id := gateway.entries.size
  .ok id (gateway.setEntry id entry)

def compile (template : String) (dialect : Dialect) (style : Option ParameterStyle) :
    Operation (Gateway α) ParsedQuery := fun gateway =>
  match gateway.cache.compile template dialect style with
  | (.ok query, cache) => .ok query { gateway with cache := cache }
  | (.error fault, cache) => .error fault { gateway with cache := cache }

/-- Forget all compiled templates. -/
def clearCaches : Operation (Gateway α) Unit := do
  modify fun gateway => { gateway with cache := gateway.cache.clear }
  write .debug "core.cache" "Template cache cleared" none

/-- Set the configuration, or none to use that of the environment. -/
def setConfig (config : Option Config) : Operation (Gateway α) Unit :=
  modify fun gateway => { gateway with config := config }

/-- Set the variables of the environment and use their configuration. -/
def setEnvironment (pairs : List (String × String)) : Operation (Gateway α) Unit :=
  modify fun gateway => { gateway with environment := pairs, config := none }

end Gateway
end SqlGateway
