import SqlGateway.Database.Managed
import SqlGateway.Database.Prepared

namespace SqlGateway
namespace Scenario

/-!
What a scripted caller observes of a step: what it gave or how it failed, the calls at
the border of the library, the depth of the transaction, and the log.
-/

inductive Reply where
  | nothing
  | value (value : Value)
  | result (result : QueryResult)
  /-- How many rows were read one after the other. -/
  | count (rows : Nat)
  | statement (statement : PreparedStatement)
  | database (display : String) (nestable : Bool) (params : ConnectionParams)
  /-- The database that rejects nested transactions, and its earlier names. -/
  | nonNestable (display : String) (nestable : Bool) (names : List String)
  | outcome (outcome : TransactionOutcome)
  | handle (handle : Handle)
  | entry (display : String) (adapter : Adapter) (handle : Option Handle)
  | registry (size : Nat) (contains : List Bool)

structure Answer where
  outcome : Except Fault Reply
  /-- The rows that were read, if the step reads rows one after the other. -/
  rows : Option (List Value)
  /-- The answers to the steps of the block, once it has started. -/
  steps : Option (List Answer)
  /-- The calls since the answer before. -/
  calls : List Native.Call
  /-- The depth of the transaction, if the database of the step exists. -/
  depth : Option Nat
  /-- What was logged since the answer before. -/
  log : List Logging.Record

end Scenario
end SqlGateway
