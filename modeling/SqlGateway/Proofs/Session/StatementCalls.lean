import SqlGateway.Proofs.Session.Statement

namespace SqlGateway

/-!
# Calls that are made one after the other

A query calls the callbacks before its statement, the driver, and the callbacks after its statement.
It knows all these calls when the parameters of the statement have been given, and makes them in
order until one fails.  What was recorded then tells how far it came: all calls before the failed
one succeeded, none after it was made, and the fault of the failed one is the fault of the query.
-/

namespace Native

/-- A call that succeeded. -/
def Call.made (call : Call) : Event := ⟨call, none⟩

/-- A fault as a query raises it: that of a callback as it is, and that of the driver as it is seen
from outside. -/
def Call.raises (call : Call) (fault : Fault) : Fault :=
  match call with
  | .hook _ _ _ => fault
  | _ => Fault.atBoundary "Failed executing query" (some Adapter.driverFaults) fault

/-- Where a call fails: it is made itself, or it is a statement and there is no cursor for it. -/
inductive Call.FailsAt : Call → Call → Prop where
  | itself (call : Call) : FailsAt call call
  | unopened (connection : Connection) (cursor : Nat) (sql : String)
      (parameters : Option (List Value)) :
      FailsAt (.execute connection cursor sql parameters) (.openCursor connection)

/-- Calls are made in order until one fails: what is recorded of them, and the fault that is raised
if one fails. -/
inductive Proceeds (calls : List Call) : List Event → Option Fault → Prop where
  | completed : Proceeds calls (calls.map Call.made) none
  | stopped {earlier later : List Call} {call reached : Call}
      (split : calls = earlier ++ call :: later) (fails : call.FailsAt reached) (fault : Fault) :
      Proceeds calls (earlier.map Call.made ++ [⟨reached, some fault⟩])
        (some (reached.raises fault))

namespace Proceeds

variable {calls later : List Call} {trace rest : List Event} {stop : Option Fault} {fault : Fault}

theorem append (first : Proceeds calls trace none) (second : Proceeds later rest stop) :
    Proceeds (calls ++ later) (trace ++ rest) stop := by
  cases first
  cases second with
  | completed =>
      rw [← List.map_append]
      exact .completed
  | @stopped earlier unmade call reached split fails fault =>
      have whole : calls ++ later = (calls ++ earlier) ++ call :: unmade := by
        rw [split, List.append_assoc]
      rw [← List.append_assoc, ← List.map_append]
      exact .stopped whole fails fault

theorem appendUnmade (first : Proceeds calls trace (some fault)) (later : List Call) :
    Proceeds (calls ++ later) trace (some fault) := by
  cases first with
  | @stopped earlier unmade call reached split fails fault =>
      have whole : calls ++ later = earlier ++ call :: (unmade ++ later) := by
        rw [split, List.append_assoc, List.cons_append]
      exact .stopped whole fails fault

end Proceeds

end Native

namespace Session

variable {α σ β γ : Type}

open Native (Call Proceeds)

/-- An operation makes calls in order until one fails, and fails exactly with the fault of that
one. -/
def Proceeding (calls : List Call) (operation : Operation (Session α σ) β)
    (session : Session α σ) : Prop :=
  exists trace,
    (operation.after session).gateway.driver.events = session.gateway.driver.events ++ trace ∧
    Proceeds calls trace (Operation.failure? (operation.outcome session))

namespace Proceeding

variable {session : Session α σ} {calls later : List Call}

/-- An operation that makes no call and does not fail. -/
theorem of_silent {operation : Operation (Session α σ) β}
    (same : (operation.after session).gateway.driver.events = session.gateway.driver.events)
    (succeeds : Operation.failure? (operation.outcome session) = none) :
    Proceeding [] operation session := by
  refine ⟨[], ?_, ?_⟩
  · rw [same, List.append_nil]
  · rw [succeeds]
    exact .completed

/-- An operation that makes one call and raises its fault. -/
theorem of_call {operation : Operation (Session α σ) β} {call : Call} (failure : Option Fault)
    (added : (operation.after session).gateway.driver.events =
      session.gateway.driver.events ++ [⟨call, failure⟩])
    (raised : Operation.failure? (operation.outcome session) = failure.map call.raises) :
    Proceeding [call] operation session := by
  refine ⟨_, added, ?_⟩
  rw [raised]
  cases failure with
  | none => exact .completed
  | some reason => exact @Native.Proceeds.stopped _ [] [] call call rfl (.itself call) reason

/-- An operation that is to make one call, and raises the fault that it meets instead. -/
theorem of_failure {operation : Operation (Session α σ) β} {call reached : Call} (reason : Fault)
    (fails : call.FailsAt reached)
    (added : (operation.after session).gateway.driver.events =
      session.gateway.driver.events ++ [⟨reached, some reason⟩])
    (raised : Operation.failure? (operation.outcome session) = some (reached.raises reason)) :
    Proceeding [call] operation session := by
  refine ⟨_, added, ?_⟩
  rw [raised]
  exact @Native.Proceeds.stopped _ [] [] call reached rfl fails reason

/-- A call of the driver, whose fault is raised as it is seen from outside. -/
theorem of_nativeCall {operation : Operation (Gateway α) β} {call : Call}
    (raises : call.raises = Fault.atBoundary "Failed executing query" (some Adapter.driverFaults))
    (added : (operation.after session.gateway).driver.events =
      session.gateway.driver.events ++
        [⟨call, Operation.failure? (operation.outcome session.gateway)⟩]) :
    Proceeding [call] (library (operation.atBoundary "Failed executing query"
      (some Adapter.driverFaults))) session := by
  refine of_call (Operation.failure? (operation.outcome session.gateway)) ?_ ?_
  · rw [gateway_library, Operation.atBoundary, Operation.after_mapFault]
    exact added
  · rw [outcome_library, Operation.atBoundary, Operation.outcome_mapFault,
      Operation.failure?_mapError, raises]

theorem bind {first : Operation (Session α σ) β} {next : β → Operation (Session α σ) γ}
    (proceeds : Proceeding calls first session)
    (rest : forall value, first.outcome session = .ok value ->
      Proceeding later (next value) (first.after session)) :
    Proceeding (calls ++ later) (first >>= next) session := by
  rcases proceeds with ⟨trace, added, made⟩
  unfold Proceeding
  rw [Operation.after_bind, Operation.outcome_bind]
  cases given : first.outcome session with
  | error fault =>
      rw [given] at made
      exact ⟨trace, added, made.appendUnmade later⟩
  | ok value =>
      rw [given] at made
      rcases rest value given with ⟨traceLater, addedLater, madeLater⟩
      refine ⟨trace ++ traceLater, ?_, made.append madeLater⟩
      rw [addedLater, added, List.append_assoc]

/-- As `bind`, where the first part makes no call and does not fail. -/
theorem afterSilent {first : Operation (Session α σ) β} {next : β → Operation (Session α σ) γ}
    (silent : Proceeding [] first session)
    (rest : forall value, first.outcome session = .ok value ->
      Proceeding calls (next value) (first.after session)) :
    Proceeding calls (first >>= next) session :=
  silent.bind rest

/-- What is made of the value of an operation is no call. -/
theorem map {operation : Operation (Session α σ) β} (proceeds : Proceeding calls operation session)
    (function : β → γ) :
    Proceeding calls (operation >>= fun value => pure (function value)) session := by
  rcases proceeds with ⟨trace, added, made⟩
  unfold Proceeding
  rw [Operation.after_bind_pure, Operation.outcome_bind]
  refine ⟨trace, added, ?_⟩
  cases found : operation.outcome session with
  | ok value =>
      rw [found] at made
      exact made
  | error fault =>
      rw [found] at made
      exact made

end Proceeding

end Session

namespace Adapter

open Native (Connection Driver)

/-- After a statement of Firebird that is no part of a transaction, a commit is called. -/
theorem afterExecute_eq (adapter : Adapter) {connection : Connection} {driver : Driver}
    (inTransaction : Bool) (active : driver.isActive connection = true) :
    adapter.afterExecute connection inTransaction driver =
      if adapter = .firebird ∧ inTransaction = false then
        Native.callAt .commit (.commit connection true) driver
      else .ok () driver := by
  change (if adapter = .firebird ∧ inTransaction = false ∧ driver.isActive connection = true
    then Native.commit connection true else pure () : Operation Driver Unit) driver = _
  rw [active]
  by_cases late : adapter = .firebird ∧ inTransaction = false
  · rw [if_pos ⟨late.1, late.2, rfl⟩, if_pos late]
    exact congrFun (bind_pure_unit) driver
  · rw [if_neg fun ⟨first, second, _⟩ => late ⟨first, second⟩, if_neg late]
    rfl

end Adapter

namespace Database

variable {α σ : Type} {database : Database} {handle : Handle}

open Native (Call Driver Proceeds)
open Session (Proceeding library)

/-- What is called on the driver after a statement has succeeded: Firebird commits outside of
transactions, and keeps open cursors readable. -/
def concludingCalls (database : Database) (handle : Handle) (gateway : Gateway α) : List Call :=
  if handle.adapter = .firebird ∧ (gateway.tracker database.tracker).isActive handle.id = false
  then [.commit handle.connection true] else []

/-- What is called on the driver for one statement, on the next cursor. -/
def statementCalls (database : Database) (handle : Handle) (sql : String) (parameters : List Value)
    (gateway : Gateway α) : List Call :=
  .execute handle.connection (gateway.driver.cursors + 1) sql (some parameters) ::
    database.concludingCalls handle gateway

theorem conclude_proceeds (cursor : Native.Cursor) {session : Session α σ}
    (active : session.gateway.driver.isActive handle.connection = true) :
    Proceeding (database.concludingCalls handle session.gateway)
      (library ((database.conclude handle cursor).atBoundary "Failed executing query"
        (some Adapter.driverFaults))) session := by
  have ended := handle.adapter.afterExecute_eq
    ((session.gateway.tracker database.tracker).isActive handle.id) active
  unfold concludingCalls
  split
  · rename_i late
    rw [if_pos late] at ended
    refine .of_nativeCall rfl ?_
    rw [conclude_after, conclude_failure, Operation.after_congr ended, Operation.outcome_congr ended]
    exact Native.callAt_events _ _ _
  · rename_i early
    rw [if_neg early] at ended
    refine .of_silent ?_ ?_
    · rw [Session.gateway_library, Operation.atBoundary, Operation.after_mapFault, conclude_after,
        Operation.after_of_ok ended]
    · rw [Session.outcome_library, Operation.atBoundary, Operation.outcome_mapFault,
        Operation.failure?_mapError, conclude_failure, Operation.outcome_of_ok ended]
      rfl

theorem execute_proceeds (sql : String) (parameters : List Value) (session : Session α σ) :
    Proceeding [.execute handle.connection (session.gateway.driver.cursors + 1) sql
        (some parameters)]
      (library ((Gateway.onDriver (Adapter.execute handle.connection sql parameters)).atBoundary
        "Failed executing query" (some Adapter.driverFaults))) session := by
  rcases Native.execute_cases handle.connection sql parameters session.gateway.driver with
    ⟨reached, fault, left, stops, isReached, events, -⟩ | ⟨cursor, left, succeeds, events, -⟩
  · have fails : (Call.execute handle.connection (session.gateway.driver.cursors + 1) sql
        (some parameters)).FailsAt reached ∧ reached.raises =
          Fault.atBoundary "Failed executing query" (some Adapter.driverFaults) := by
      rcases isReached with rfl | rfl
      · exact ⟨.unopened _ _ _ _, rfl⟩
      · exact ⟨.itself _, rfl⟩
    refine .of_failure fault fails.1 ?_ ?_
    · rw [Session.gateway_library, Operation.atBoundary, Operation.after_mapFault,
        Gateway.onDriver, Operation.after_within, Operation.after_of_error stops]
      exact events
    · rw [Session.outcome_library, Operation.atBoundary, Operation.outcome_mapFault,
        Gateway.onDriver, Operation.outcome_within, Operation.outcome_of_error stops, fails.2]
      rfl
  · refine .of_nativeCall rfl ?_
    rw [Gateway.onDriver, Operation.after_within, Operation.outcome_within,
      Operation.after_of_ok succeeds, Operation.outcome_of_ok succeeds]
    exact events

/-- The calls for a statement are made in order until one fails. -/
theorem runStatement_proceeds (sql : String) (parameters : List Value) (session : Session α σ) :
    Proceeding (database.statementCalls handle sql parameters session.gateway)
      (library (database.runStatement handle sql parameters)) session := by
  rw [runStatement_eq, Operation.atBoundary_bind, Session.library_bind]
  refine Proceeding.bind (execute_proceeds sql parameters session) fun cursor given => ?_
  rw [Session.outcome_library, Operation.atBoundary, Operation.outcome_mapFault, Gateway.onDriver,
    Operation.outcome_within] at given
  have reached : ((Gateway.onDriver (Adapter.execute handle.connection sql parameters)).atBoundary
      "Failed executing query" (some Adapter.driverFaults)).after session.gateway =
      { session.gateway with
        driver := (Adapter.execute handle.connection sql parameters).after
          session.gateway.driver } :=
    (Operation.after_mapFault _ _ _).trans (Operation.after_within _ _ _ _)
  rw [Session.after_library, reached]
  rcases Native.execute_cases handle.connection sql parameters session.gateway.driver with
    ⟨reached, fault, left, fails, -⟩ | ⟨found, left, succeeds, -, active⟩
  · rw [Operation.outcome_of_error fails] at given
    cases given
  · rw [Operation.after_of_ok succeeds]
    exact conclude_proceeds cursor active

end Database
end SqlGateway
