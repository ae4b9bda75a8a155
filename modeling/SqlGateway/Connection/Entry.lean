import SqlGateway.Adapter.Native

namespace SqlGateway

/-!
Connections as the library keeps them.  An entry holds parameters and, while it is
connected, a handle on the native connection.  It also holds the hooks that run
around each statement; what a hook does is the caller's affair, so its callbacks are
values of a type of the caller's choice.
-/

/-- An open native connection.  No two handles have the same id. -/
structure Handle where
  id : Nat
  connection : Native.Connection
  adapter : Adapter
  /-- What the driver said of the row inserted last. -/
  lastRowId : Value
deriving Inhabited

def Handle.display (handle : Handle) : String :=
  "ConnectionHandle(id=" ++ Nat.repr handle.id ++ ", adapter=" ++ handle.adapter.display ++ ")"

/-- A hook: what is called before and after each statement.  No two hooks have the
same id. -/
structure Hook (α : Type) where
  id : Nat
  name : String
  before : Option α
  after : Option α

namespace Hook

variable {α : Type}

def callback (hook : Hook α) : Native.HookPhase → Option α
  | .before => hook.before
  | .after => hook.after

def phaseName : Native.HookPhase → String
  | .before => "pre_query"
  | .after => "post_query"

def displayCallback (hook : Hook α) (phase : Native.HookPhase) : String :=
  phaseName phase ++ "=" ++
    (if (hook.callback phase).isSome then "<" ++ hook.name ++ "." ++ phaseName phase ++ ">"
     else "None")

def display (hook : Hook α) : String :=
  "Hook(" ++ hook.displayCallback .before ++ ", " ++ hook.displayCallback .after ++ ")"

/-- What is logged before a callback runs. -/
def notice (hook : Hook α) : Native.HookPhase → String
  | .before => "Running pre-query hook " ++ hook.display
  | .after => "Running post-query hook " ++ hook.display

end Hook

/-- Connection parameters with the connection, once it is open, and its hooks. -/
structure Entry (α : Type) where
  params : ConnectionParams
  handle : Option Handle
  /-- Whether transactions can be nested. -/
  nestable : Bool
  hooks : List (Hook α)
deriving Inhabited

namespace Entry

variable {α : Type}

/-- An entry that is not connected. -/
def ofParams (params : ConnectionParams) (nestable : Bool) : Entry α := ⟨params, none, nestable, []⟩

/-- The adapter that reaches the engine. -/
def adapter (entry : Entry α) : Except Fault Adapter := Adapter.ofDialect entry.params.dialect

/-- A truth value as it is displayed. -/
def displayTruth (truth : Bool) : String := if truth then "True" else "False"

def display (entry : Entry α) : String :=
  "ConnectionEntry(dbms=" ++ Text.quoted entry.params.dialect.name ++ ", connected=" ++
    displayTruth entry.handle.isSome ++ ", nestable=" ++ displayTruth entry.nestable ++ ")"

end Entry
end SqlGateway
