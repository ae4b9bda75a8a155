import SqlGateway.Transaction.Tracker
import SqlGateway.Value

namespace SqlGateway
namespace Native

/-!
What happens at the border of the library: calls to the native driver and to the
grammar checker, and calls back into the code of the caller.  An event is a call
together with the fault it failed with.
-/

/-- A connection of the driver: one that it opened, by its number, or one that was
there before and has a name. -/
inductive Connection where
  | opened (number : Nat)
  | named (label : String)
deriving DecidableEq, Repr, Inhabited

/-- The name of a connection in a record of events. -/
def Connection.label : Connection → String
  | .opened number => "c" ++ Nat.repr number
  | .named label => label

/-- Which callback of a hook is called: the one before a statement or the one after. -/
inductive HookPhase where
  | before
  | after
deriving DecidableEq, Repr, Inhabited

inductive Call where
  /-- Write the name of a service. -/
  | serviceName (host port service : Value)
  /-- Open a connection. -/
  | connect (positional : List Value) (keywords : List (String × Value))
  /-- Open a cursor. -/
  | openCursor (connection : Connection)
  /-- Run a statement on a cursor, with or without parameters. -/
  | execute (connection : Connection) (cursor : Nat) (sql : String)
      (parameters : Option (List Value))
  /-- Close a cursor. -/
  | closeCursor (connection : Connection) (cursor : Nat)
  /-- Run a statement on the connection itself. -/
  | runDirectly (connection : Connection) (sql : String)
  /-- Begin the native transaction. -/
  | begin (connection : Connection)
  /-- Commit the native transaction; a retaining commit leaves it open. -/
  | commit (connection : Connection) (retaining : Bool)
  /-- Roll the native transaction back. -/
  | rollback (connection : Connection)
  /-- Close the connection. -/
  | close (connection : Connection)
  /-- Switch commits after each statement on or off. -/
  | setAutocommit (connection : Connection) (on : Bool)
  /-- Have the server prepare a statement on a cursor. -/
  | prepare (connection : Connection) (cursor : Nat) (sql : String)
  /-- Free what the server prepared. -/
  | freePrepared (connection : Connection) (cursor : Nat)
  /-- Have the server parse a statement on a cursor. -/
  | parse (connection : Connection) (cursor : Nat) (sql : String)
  /-- Check a statement against a grammar. -/
  | checkGrammar (sql : String) (grammar : String)
  /-- Call a hook of the caller. -/
  | hook (name : String) (phase : HookPhase) (sql : String)
  /-- Tell the caller that a transaction was rolled back. -/
  | rolledBack
  /-- Let the caller replace an error. -/
  | processError (kind : FaultKind)
  /-- Have the caller make a connection entry. -/
  | makeEntry

/-- A call with the fault it failed with, if it failed. -/
structure Event where
  call : Call
  failure : Option Fault

/-- The places where a driver can be made to fail. -/
inductive FailPoint where
  | serviceName
  | connect
  | openCursor
  | closeCursor
  | runDirectly
  | begin
  | commit
  | rollback
  | close
  | setAutocommit
  | prepare
  | freePrepared
  | parse
  | grammar
deriving DecidableEq, Repr, Inhabited

namespace FailPoint

def all : List FailPoint :=
  [.serviceName, .connect, .openCursor, .closeCursor, .runDirectly, .begin, .commit, .rollback,
   .close, .setAutocommit, .prepare, .freePrepared, .parse, .grammar]

def name : FailPoint → String
  | .serviceName => "makedsn"
  | .connect => "connect"
  | .openCursor => "cursor"
  | .closeCursor => "cursor.close"
  | .runDirectly => "conn.execute"
  | .begin => "begin"
  | .commit => "commit"
  | .rollback => "rollback"
  | .close => "close"
  | .setAutocommit => "autocommit"
  | .prepare => "prepare"
  | .freePrepared => "prepare.free"
  | .parse => "parse"
  | .grammar => "sqlglot"

def ofName? (name : String) : Option FailPoint := all.find? fun point => point.name == name

end FailPoint

end Native
end SqlGateway
