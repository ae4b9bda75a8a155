import SqlGateway.Session

namespace SqlGateway

/-!
Transactions around a piece of the caller's work.  The transaction commits when the
work is done and rolls back when it fails; the failure then goes on to the caller, as
it is or replaced by another.
-/

structure TransactionOutcome where
  committed : Bool
  value : Value
  error : Option Fault
deriving Inhabited

namespace TransactionOutcome

/-- The value, or the fault that there is instead. -/
def unwrap (outcome : TransactionOutcome) : Except Fault Value :=
  match outcome.error with
  | some fault => .error fault
  | none => .ok outcome.value

end TransactionOutcome

namespace Database

variable {α σ : Type}

open Session (library)

/-- What the caller does about a failed transaction. -/
structure Handlers (α σ : Type) where
  /-- Called after the transaction was rolled back. -/
  onRollback : Operation (Session α σ) Unit
  /-- Called with the fault; it may give another one to go on instead. -/
  replacement : Fault → Operation (Session α σ) (Option Fault)

namespace Handlers

/-- Nothing is done. -/
def none : Handlers α σ := ⟨pure (), fun _ => pure .none⟩

end Handlers

/-- The fault that goes on to the caller: the replacement, caused by the first fault, or
the first fault itself. -/
def passedOn (fault : Fault) : Option Fault → Fault
  | some replacement => replacement.because fault
  | none => fault

/-- Roll back after a fault and let it go on. -/
def abandon {β : Type} (database : Database) (handlers : Handlers α σ) (fault : Fault) :
    Operation (Session α σ) β := do
  library database.rollback
  handlers.onRollback
  throw (passedOn fault (← handlers.replacement fault))

/-- Do the work in a transaction, as a block of the caller's code. -/
def inBlock {β : Type} (database : Database) (work : Operation (Session α σ) β) :
    Operation (Session α σ) β := do
  library database.begin
  match ← Operation.observe work with
  | .ok value =>
    library database.commit
    return value
  | .error fault => database.abandon .none fault

/-- Do the work in a transaction. -/
def runInTransaction {β : Type} (database : Database) (handlers : Handlers α σ)
    (work : Operation (Session α σ) β) : Operation (Session α σ) β := do
  library database.begin
  match ← Operation.observe work with
  | .ok value =>
    library database.commit
    return value
  | .error fault =>
    library (writeTransaction ("Rolling back after " ++ fault.kind.name))
    database.abandon handlers fault

/-- Do the work in a transaction and report an ordinary failure as a value. -/
def tryInTransaction (database : Database) (handlers : Handlers α σ)
    (work : Operation (Session α σ) Value) : Operation (Session α σ) TransactionOutcome := do
  match ← Operation.observe (database.runInTransaction handlers work) with
  | .ok value => return ⟨true, value, none⟩
  | .error fault => if fault.kind.isOrdinary then return ⟨false, .null, some fault⟩ else throw fault

end Database
end SqlGateway
