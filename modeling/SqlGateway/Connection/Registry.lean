import SqlGateway.Gateway

namespace SqlGateway
namespace Gateway

/-!
Opening and closing the connections of entries, and sharing entries through
registries.  An entry is connected on first use.  If any step towards a connection
fails, the entry stays unconnected; when it is disconnected, its handle is gone even
if closing the connection fails.
-/

variable {α : Type}

/-- A failure of the driver as a database fault with a fixed message. -/
def driverFault (message : String) (fault : Fault) : Fault :=
  if Fault.matchesAny (some Adapter.driverFaults) fault then
    (Fault.of .database message).because fault
  else fault

/-- What is logged when an entry was connected; nothing if the name of the database has
no text. -/
def announceConnected (params : ConnectionParams) (handle : Handle) :
    Operation (Gateway α) Unit :=
  match params.database.display with
  | .error _ => pure ()
  | .ok database =>
    write .info "driver.connection"
      ("Connected to " ++ params.dialect.nativeName ++ " database " ++ database)
      (some [("connection_id", .int handle.id), ("dbms", .text params.dialect.name)])

/-- Give an entry a handle on a new connection. -/
def attach (id : Nat) (connection : Native.Connection) (adapter : Adapter) :
    Operation (Gateway α) Handle := do
  let gateway ← get
  let handle : Handle := ⟨gateway.handleCount + 1, connection, adapter, .null⟩
  set { gateway with handleCount := gateway.handleCount + 1 }
  changeEntry id fun entry => { entry with handle := some handle }
  return handle

/-- Open a connection for an entry that has none. -/
def openEntry (id : Nat) (params : ConnectionParams) : Operation (Gateway α) Handle := do
  let adapter ← .ofExcept (Adapter.ofDialect params.dialect)
  let options ← .ofExcept (adapter.resolveOptions params)
  .ofExcept (Adapter.importDriver (← get).driver.missing adapter.driverModule
    adapter.installPackage?)
  let connection ← .mapFault (driverFault "Failed connecting to database")
    (onDriver (adapter.openConnection params options))
  let handle ← attach id connection adapter
  announceConnected params handle
  return handle

/-- The handle of an entry, which is connected if it was not. -/
def connect (id : Nat) : Operation (Gateway α) Handle := do
  let entry ← entryAt id
  match entry.handle with
  | some handle => return handle
  | none => openEntry id entry.params

def forgetHandle (scope : Scope) (handle : Handle) : Operation (Gateway α) Unit :=
  modify fun gateway => gateway.setTracker scope ((gateway.tracker scope).forget handle.id)

/-- Close the connection of an entry, if it has one. -/
def disconnect (id : Nat) (tracker : Option Scope) : Operation (Gateway α) Unit := do
  match (← entryAt id).handle with
  | none => return ()
  | some handle =>
    changeEntry id fun entry => { entry with handle := none }
    match tracker with
    | some scope => forgetHandle scope handle
    | none => pure ()
    .mapFault (driverFault "Failed closing database connection")
      (onDriver (Native.close handle.connection))
    write .info "driver.connection" ("Disconnected connection " ++ Nat.repr handle.id) none

def register (scope : Scope) (fingerprint : String) (id : Nat) : Operation (Gateway α) Unit :=
  modify fun gateway =>
    gateway.setRegistry scope ((gateway.registry scope).put fingerprint id)

def registered? (scope : Scope) (fingerprint : String) : Operation (Gateway α) (Option Nat) := do
  return ((← get).registry scope).get? fingerprint

/-- Forget all entries of a registry; their connections stay open. -/
def clearRegistry (scope : Scope) : Operation (Gateway α) Unit :=
  modify fun gateway => gateway.setRegistry scope .empty

end Gateway
end SqlGateway
