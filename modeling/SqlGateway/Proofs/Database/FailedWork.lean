import SqlGateway.Database.Managed
import SqlGateway.Proofs.Database.Deed
import SqlGateway.Proofs.Session.Quiet

namespace SqlGateway
namespace Database

/-!
# What a caller is told after failed work

When the work in a managed transaction fails, the transaction is rolled back before the caller
is told.  The rollback of a nested level is a note in the tracker, which cannot fail.  The
rollback of the last level is a native call, and a fault of this call is not caught: it goes to
the caller in place of the fault of the work, and the callbacks of the caller are not called.
If the native call succeeds, or if there is none, then the callback for a rollback is called
once, the other one is asked for a replacement, and the fault of the work goes on, or else the
replacement with the fault of the work as its cause.

Only one thing is asked of the work, that a level of the transaction is still open when it
fails.  Then the tracker does not refuse the rollback.
-/

variable {α σ β : Type}

open Session (library)

/-! ## The rollback after the work -/

/-- The fault of the native call that a rollback makes, if it makes one and the call fails. -/
def rollbackFault? (database : Database) (gateway : Gateway α) : Option Fault :=
  match (gateway.entry database.entry).handle with
  | some handle =>
    if (gateway.tracker database.tracker).depth handle.id = 1 then
      nativeFault? handle .rollback gateway.driver
    else none
  | none => none

/-- The outcome of a rollback that the given fault befalls. -/
def rolledBack (fault : Option Fault) : Except Fault Unit :=
  match fault with
  | some native => .error (Transaction.callFault .rollback native)
  | none => .ok ()

/-- A level of a transaction is open on a connection only. -/
theorem handle_of_depth {database : Database} {gateway : Gateway α}
    (remains : 0 < database.depth gateway) :
    exists handle, (gateway.entry database.entry).handle = some handle ∧
      0 < (gateway.tracker database.tracker).depth handle.id := by
  unfold depth at remains
  cases held : (gateway.entry database.entry).handle with
  | none =>
      rw [held] at remains
      exact absurd remains (Nat.lt_irrefl 0)
  | some handle =>
      rw [held] at remains
      exact ⟨handle, rfl, remains⟩

/-- The rollback of an open level fails only as its native call does. -/
theorem outcome_rollback {database : Database} {gateway : Gateway α}
    (remains : 0 < database.depth gateway) :
    database.rollback.outcome gateway = rolledBack (database.rollbackFault? gateway) := by
  rcases handle_of_depth remains with ⟨handle, held, opened⟩
  have run := perform_of_handle (Gateway.connect_of_connected held) .rollback
  simp only [Action.perform, Action.plan] at run
  cases level : (gateway.tracker database.tracker).depth handle.id with
  | zero =>
      rw [level] at opened
      exact absurd opened (Nat.lt_irrefl 0)
  | succ below =>
      cases below with
      | zero =>
          let plan := (gateway.tracker database.tracker).ending handle.id .rollback
            ("Issuing native rollback on connection " ++ Nat.repr handle.id)
          have calls : plan.call = some .rollback := rfl
          simp only [Transaction.Tracker.rollback, level] at run
          rcases carryOut_of_call database handle calls gateway with ⟨left, called, -, -⟩
          rw [Operation.outcome_of_run (run.trans called)]
          simp only [rollbackFault?, held, level, if_true, nativeFault?, rolledBack]
          cases (handle.adapter.transact handle.connection .rollback).outcome gateway.driver <;> rfl
      | succ below =>
          let plan := Transaction.Tracker.quietly
            (((gateway.tracker database.tracker).setDepth handle.id (below + 1)).doom handle.id)
            (below + 1) none
          have quiet : plan.call = none := rfl
          simp only [Transaction.Tracker.rollback, level] at run
          rcases carryOut_of_quiet database handle quiet gateway with ⟨left, quietly, -, -⟩
          rw [Operation.outcome_of_ok (run.trans quietly)]
          simp [rollbackFault?, held, level, rolledBack]

/-! ## Letting the fault of the work go on -/

/-- A fault is told to the caller after the rollback, unless the native rollback fails. -/
theorem abandon_eq {database : Database} {session : Session α σ}
    (remains : 0 < database.depth session.gateway) (handlers : Handlers α σ) (fault : Fault) :
    (database.abandon handlers fault : Operation (Session α σ) β) session =
      match database.rollbackFault? session.gateway with
      | some native =>
        .error (Transaction.callFault .rollback native)
          ((library database.rollback : Operation (Session α σ) Unit).after session)
      | none =>
        (do
          handlers.onRollback
          throw (passedOn fault (← handlers.replacement fault)) : Operation (Session α σ) β)
          ((library database.rollback : Operation (Session α σ) Unit).after session) := by
  unfold abandon
  rw [Operation.bind_eq, Session.outcome_library, outcome_rollback remains]
  cases database.rollbackFault? session.gateway <;> rfl

section

variable {database : Database} {start begun worked : Session α σ}
variable {work : Operation (Session α σ) β} {fault : Fault}
variable (begins : (library database.begin : Operation (Session α σ) Unit) start = .ok () begun)
variable (fails : work begun = .error fault worked)
include begins fails

theorem inBlock_of_failed :
    database.inBlock work start = (database.abandon .none fault : Operation _ β) worked := by
  unfold inBlock
  rw [Operation.bind_of_ok begins, Operation.observe_bind, Operation.outcome, Operation.after, fails]

theorem runInTransaction_of_failed (handlers : Handlers α σ) :
    database.runInTransaction handlers work start =
      (database.abandon handlers fault : Operation _ β)
        ((library (writeTransaction ("Rolling back after " ++ fault.kind.name)) :
          Operation (Session α σ) Unit).after worked) := by
  unfold runInTransaction
  rw [Operation.bind_of_ok begins, Operation.observe_bind, Operation.outcome, Operation.after, fails]
  rfl

/-- Work that fails in a managed transaction, a level of which is still open then, is rolled
back first.  If that makes a native call that fails, then the fault of the call goes to the
caller of a block or of a run and nobody else is called.  If not, a block lets the fault of the
work go on; a run calls the callback for a rollback and then the one that may replace the
fault, and lets the fault go on or the replacement that it caused. -/
theorem failedWork_told (remains : 0 < database.depth worked.gateway)
    (handlers : Handlers α σ) :
    let noted := (library (writeTransaction ("Rolling back after " ++ fault.kind.name)) :
      Operation (Session α σ) Unit).after worked
    let undone := (library database.rollback : Operation (Session α σ) Unit).after noted
    let left := (library database.rollback : Operation (Session α σ) Unit).after worked
    undone.caller = worked.caller ∧
    match database.rollbackFault? worked.gateway with
    | some native =>
      database.runInTransaction handlers work start =
          .error (Transaction.callFault .rollback native) undone ∧
        database.inBlock work start =
          .error (Transaction.callFault .rollback native) left
    | none =>
      database.runInTransaction handlers work start =
          (do
            handlers.onRollback
            throw (passedOn fault (← handlers.replacement fault)) :
              Operation (Session α σ) β) undone ∧
        database.inBlock work start = .error fault left := by
  intro noted undone left
  refine ⟨?_, ?_⟩
  · exact (Session.caller_library database.rollback noted).trans (Session.caller_library _ worked)
  rw [runInTransaction_of_failed begins fails, inBlock_of_failed begins fails]
  -- Writing to the log changes neither the connection nor the driver.
  have notedRemains : 0 < database.depth noted.gateway := remains
  have sameFault : database.rollbackFault? noted.gateway =
      database.rollbackFault? worked.gateway := rfl
  rw [abandon_eq remains, abandon_eq notedRemains, sameFault]
  cases database.rollbackFault? worked.gateway <;> exact ⟨rfl, rfl⟩

end

/-- A session in which the driver fails as it is told and the caller keeps a list of the
callbacks that were called. -/
def listening (failures : List (Native.FailPoint × List (Option Fault))) :
    Session Unit (List String) :=
  ⟨Gateway.openMemory.after (.ofDriver (.ofScript [] failures [] (.int 0))), []⟩

/-- Callbacks that note that they were called and replace a fault by an interrupt. -/
def noting : Handlers Unit (List String) where
  onRollback := Session.onCaller (modify (· ++ ["rolled back"]))
  replacement fault := do
    Session.onCaller (modify (· ++ [fault.kind.name]))
    return some (.bare .interrupt)

theorem failedWork_told_of_replaced :
    let fault : Fault := .bare .badValue
    let work : Operation (Session Unit (List String)) Unit := throw fault
    exists begun left,
      (library memory.begin : Operation _ Unit) (listening []) = .ok () begun ∧
      work begun = .error fault begun ∧
      0 < memory.depth begun.gateway ∧
      memory.runInTransaction noting work (listening []) =
        .error ((Fault.bare .interrupt).because fault) left ∧
      left.caller = ["rolled back", "ValueError"] := by
  intro fault work
  let begun := (library memory.begin : Operation _ Unit).after (listening [])
  have begins : (library memory.begin : Operation _ Unit) (listening []) = .ok () begun := rfl
  have fails : work begun = .error fault begun := rfl
  have remains : 0 < memory.depth begun.gateway := by decide
  have healthy : memory.rollbackFault? begun.gateway = none := rfl
  have told := failedWork_told begins fails remains noting
  rw [healthy] at told
  rcases told with ⟨sameCaller, passesOn, -⟩
  have calls (session : Session Unit (List String)) :
      (do
        noting.onRollback
        throw (passedOn fault (← noting.replacement fault)) : Operation _ Unit) session =
        .error ((Fault.bare .interrupt).because fault)
          { session with caller := session.caller ++ ["rolled back"] ++ [fault.kind.name] } :=
    rfl
  refine ⟨begun, _, begins, fails, remains, passesOn.trans (calls _), ?_⟩
  simp only [sameCaller]
  rfl

/-- The native rollback fails after the work: its fault goes to the caller, and no callback is
called. -/
theorem failedWork_masked :
    let lost : Fault := .foreign .driver (some "lost") none
    let fault : Fault := .foreign .badValue (some "boom") none
    let work : Operation (Session Unit (List String)) Unit := throw fault
    let start := listening [(.rollback, [some lost])]
    let masking := (Fault.of .database "Failed rolling back transaction: lost").because lost
    (memory.runInTransaction noting work).outcome start = .error masking ∧
      ((memory.runInTransaction noting work).after start).caller = [] ∧
      (memory.inBlock work).outcome start = .error masking ∧
      masking.kind ≠ fault.kind ∧ masking.kind ≠ (Fault.bare .interrupt).kind := by
  refine ⟨rfl, rfl, rfl, by decide, by decide⟩

end Database
end SqlGateway
