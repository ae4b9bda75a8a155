import SqlGateway.Proofs.Native.Trace

namespace SqlGateway

/-!
# Work on one connection

What an adapter does with a connection is confined to it: whatever it calls, and whatever
fails, only the record of this connection grows, and no connection is opened.  The statements
hold for all adapters alike; a cursor that an adapter opens for itself belongs to the
connection that it was opened on.

Opening a connection is on the record of none: it touches those that are open in no way, and
it gives one that was not open before.
-/

namespace Native

/-- Only the record of one connection grew, and no connection was opened. -/
structure Driver.Confined (connection : Connection) (before after : Driver) : Prop where
  adds : before.Adds (fun event => event.call.connection? = some connection) after
  connections : after.connections = before.connections

namespace Driver.Confined

variable {connection : Connection} {before after : Driver}

instance : IsPreorder Driver (Driver.Confined connection) where
  refl driver := ⟨refl_of (Driver.Adds _) driver, rfl⟩
  trans _ _ _ first second :=
    ⟨trans_of (Driver.Adds _) first.adds second.adds,
      second.connections.trans first.connections⟩

/-- Other connections keep their record. -/
theorem recordOf (confined : before.Confined connection after) {other : Connection}
    (different : other ≠ connection) : after.recordOf other = before.recordOf other := by
  rcases confined.adds with ⟨added, same, on⟩
  have none_kept : added.filter (fun event => event.call.connection? = some other) = [] := by
    refine List.filter_eq_nil_iff.mpr fun event member kept => different ?_
    have elsewhere : event.call.connection? = some connection := on event member
    rw [of_decide_eq_true kept] at elsewhere
    exact Option.some.inj elsewhere
  unfold Driver.recordOf
  rw [same, List.filter_append, none_kept, List.append_nil]

end Driver.Confined

section Calls

variable {connection : Connection}

theorem finish_confined {call : Call} (on : call.connection? = some connection)
    (failure : Option Fault) : (finish call failure).Respects (Driver.Confined connection) := by
  intro driver
  refine ⟨finish_adds on driver, ?_⟩
  cases failure <;> rfl

theorem connections_nextFailure (driver : Driver) (point : FailPoint) :
    (driver.nextFailure point).2.connections = driver.connections := by
  unfold Driver.nextFailure
  split <;> rfl

theorem callAt_confined (point : FailPoint) {call : Call}
    (on : call.connection? = some connection) :
    (callAt point call).Respects (Driver.Confined connection) := by
  intro driver
  refine ⟨callAt_adds point (fun _ => on) driver, ?_⟩
  rw [callAt_after]
  exact (finish_confined on _ _).connections.trans (connections_nextFailure driver point)

theorem setActive_confined (other : Connection) (isNow : Bool) :
    (setActive other isNow).Respects (Driver.Confined connection) :=
  .modify fun _ => ⟨.of_same rfl, rfl⟩

theorem close_confined : (close connection).Respects (Driver.Confined connection) :=
  callAt_confined .close rfl

theorem begin_confined : (begin connection).Respects (Driver.Confined connection) :=
  .bind (callAt_confined .begin rfl) fun _ => setActive_confined _ _

theorem commit_confined (retaining : Bool) :
    (commit connection retaining).Respects (Driver.Confined connection) := by
  refine .bind (callAt_confined .commit rfl) fun _ => ?_
  cases retaining with
  | true => exact .pure ()
  | false => exact setActive_confined connection false

theorem rollback_confined : (rollback connection).Respects (Driver.Confined connection) :=
  .bind (callAt_confined .rollback rfl) fun _ => setActive_confined _ _

theorem setAutocommit_confined (on : Bool) :
    (setAutocommit connection on).Respects (Driver.Confined connection) :=
  callAt_confined .setAutocommit rfl

/-! ## Cursors of the connection -/

theorem takeFailure_confined (point : FailPoint) :
    (takeFailure point).Respects (Driver.Confined connection) :=
  fun driver =>
    ⟨.of_same (events_nextFailure driver point), connections_nextFailure driver point⟩

/-- A cursor that was just opened is one of the connection. -/
theorem openCursor_bind_confined {β : Type} {next : Cursor → Operation Driver β}
    (rest : forall number, (next ⟨connection, number, {}⟩).Respects (Driver.Confined connection)) :
    (openCursor connection >>= next).Respects (Driver.Confined connection) := by
  intro driver
  rcases openCursor_cases connection driver with ⟨failures, ⟨fault, refused⟩ | opened⟩
  · have recorded : driver.Confined connection
        (Driver.record { driver with failures := failures } (.openCursor connection)
          (some fault)) := by
      refine ⟨⟨[_], rfl, fun event member => ?_⟩, rfl⟩
      rw [List.mem_singleton.mp member]
      rfl
    rw [Operation.after, Operation.bind_of_error refused]
    exact recorded
  · have counted : driver.Confined connection
        { driver with failures := failures, cursors := driver.cursors + 1 } :=
      ⟨.of_same rfl, rfl⟩
    rw [Operation.after, Operation.bind_of_ok opened]
    exact trans_of (Driver.Confined connection) counted (rest _ _)

theorem takeResponse_confined : takeResponse.Respects (Driver.Confined connection) := by
  intro driver
  rcases driver with ⟨responses, _⟩
  cases responses <;> exact ⟨.of_same rfl, rfl⟩

theorem execute_confined (cursor : Cursor) (sql : String) (parameters : Option (List Value)) :
    (execute cursor sql parameters).Respects (Driver.Confined cursor.connection) := by
  refine .bind takeResponse_confined fun _ => ?_
  refine .bind (finish_confined rfl _) fun _ => ?_
  refine .bind (setActive_confined _ _) fun _ => ?_
  exact .pure _

/-- A statement that succeeds gives its cursor what it came to. -/
theorem cursor_of_execute {cursor found : Cursor} {sql : String}
    {parameters : Option (List Value)} {driver : Driver}
    (succeeds : (execute cursor sql parameters).outcome driver = .ok found) :
    found = { cursor with response := found.response } := by
  rcases Operation.ok_of_bind succeeds with ⟨response, taken, -, rest⟩
  rcases Operation.ok_of_bind rest with ⟨_, finished, -, rest⟩
  rcases Operation.ok_of_bind rest with ⟨_, activated, -, gives⟩
  cases gives
  rfl

theorem closeCursor_confined (cursor : Cursor) :
    (closeCursor cursor).Respects (Driver.Confined cursor.connection) :=
  .bind (takeFailure_confined _) fun _ => finish_confined rfl _

end Calls

end Native

namespace Adapter

open Native (Driver)

variable {connection : Native.Connection}

theorem execute_confined (sql : String) (parameters : List Value) :
    (Adapter.execute connection sql parameters).Respects (Driver.Confined connection) :=
  Native.openCursor_bind_confined fun number =>
    Native.execute_confined ⟨connection, number, {}⟩ sql parameters

theorem afterExecute_confined (adapter : Adapter) (inTransaction : Bool) :
    (adapter.afterExecute connection inTransaction).Respects (Driver.Confined connection) := by
  refine .bind .get fun driver => ?_
  split
  · exact Native.commit_confined true
  · exact .pure ()

/-- The cursor of a statement without parameters is opened and closed on the connection. -/
theorem withStatement_confined {α : Type} (sql : String) (use : Native.Cursor → Except Fault α) :
    (Adapter.withStatement connection sql use).Respects (Driver.Confined connection) := by
  refine Native.openCursor_bind_confined fun number => ?_
  have executes := Native.execute_confined ⟨connection, number, {}⟩ sql none
  have closesFresh := Native.closeCursor_confined ⟨connection, number, {}⟩
  refine .bindGiven executes.observe fun driver outcome observed => ?_
  rw [Operation.outcome, Operation.observe_eq] at observed
  cases observed
  split
  · rename_i cursor succeeds
    have same : cursor.connection = connection :=
      congrArg Native.Cursor.connection (Native.cursor_of_execute succeeds)
    have closes := Native.closeCursor_confined cursor
    rw [same] at closes
    exact Operation.Respects.bind closes (fun _ => .ofExcept _) _
  · exact Operation.Respects.bind closesFresh (fun _ => .throw _) _

/-- Beginning and ending a transaction works on its connection only. -/
theorem transact_confined (adapter : Adapter) (call : Transaction.NativeCall) :
    (adapter.transact connection call).Respects (Driver.Confined connection) := by
  have switchedBack {operation : Operation Driver Unit}
      (confined : operation.Respects (Driver.Confined connection)) :
      (operation.thenAlways (Native.setAutocommit connection true)).Respects
        (Driver.Confined connection) :=
    .thenAlways confined (Native.setAutocommit_confined true)
  refine transact_cases (motive := fun operation => operation.Respects (Driver.Confined connection))
    (fun adapter => ?_) (Native.callAt_confined _ rfl) Native.begin_confined ?_
    (Native.commit_confined false) Native.rollback_confined (Native.setAutocommit_confined false)
    (switchedBack (Native.commit_confined false)) (switchedBack Native.rollback_confined) adapter
  · cases call <;> exact withStatement_confined _ _
  · refine .bind .get fun driver => ?_
    simp only
    split
    · exact .bind (Native.commit_confined false) fun _ => Native.begin_confined
    · exact Native.begin_confined

end Adapter

namespace Native

/-! ## Opening a connection -/

/-- Connections may have been opened, and those that were open kept their record. -/
structure Driver.OpensMore (before after : Driver) : Prop where
  connections : before.connections ≤ after.connections
  recordOf : forall number, number ≤ before.connections ->
    after.recordOf (.opened number) = before.recordOf (.opened number)

instance : IsPreorder Driver Driver.OpensMore where
  refl _ := ⟨Nat.le_refl _, fun _ _ => rfl⟩
  trans _ _ _ first second :=
    ⟨Nat.le_trans first.connections second.connections, fun number known =>
      (second.recordOf number (Nat.le_trans known first.connections)).trans
        (first.recordOf number known)⟩

/-- A connection that was opened between two states of the driver. -/
def Connection.OpenedBetween (connection : Connection) (before after : Driver) : Prop :=
  exists number, connection = .opened number ∧ before.connections < number ∧
    number ≤ after.connections

/-- The driver after it opened a connection. -/
def Driver.counting (driver : Driver) (arguments : Adapter.ConnectArguments) : Driver :=
  { driver.record (.connect arguments.positional arguments.sorted) none with
    connections := driver.connections + 1 }

theorem connect_cases (arguments : Adapter.ConnectArguments) (driver : Driver) :
    exists failures, let left : Driver := { driver with failures := failures }
      (exists fault, connect arguments.positional arguments.sorted driver =
        .error fault (left.record (.connect arguments.positional arguments.sorted) (some fault))) ∨
      connect arguments.positional arguments.sorted driver =
        .ok (.opened (driver.connections + 1)) (left.counting arguments) := by
  rcases callAt_cases .connect (.connect arguments.positional arguments.sorted) driver with
    ⟨failures, ⟨fault, refused⟩ | granted⟩
  · exact ⟨failures, .inl ⟨fault, Operation.bind_of_error refused _⟩⟩
  · exact ⟨failures, .inr (Operation.bind_of_ok granted _)⟩

end Native

namespace Adapter

open Native (Driver Connection)

/-- What is done with a connection that was just opened. -/
def prepareOpened (adapter : Adapter) (connection : Connection) : Operation Driver Connection := do
  if adapter = .oracle then Native.setAutocommit connection true
  return connection

/-- How opening a connection ends.  Whatever was taken off the script, the driver is otherwise as
it was, but for the record of the call that failed or the connection that was opened. -/
inductive Opening (adapter : Adapter) (params : ConnectionParams)
    (options : List (String × Value)) (driver : Driver)
    (result : EStateM.Result Fault Driver Connection) : Prop where
  /-- The driver cannot be given what it needs. -/
  | unready (fault : Fault)
    (refuses : adapter.connectArguments driver.missing params options = .error fault)
    (comes : result = .error fault driver)
  /-- The driver of Oracle does not write the name of the service. -/
  | unnamed (oracle : adapter = .oracle) (host port service : Value) (fault : Fault)
    (failures : Dictionary Native.FailPoint (List (Option Fault)))
    (comes : result = .error fault (Driver.record { driver with failures := failures }
      (.serviceName host port service) (some fault)))
  /-- The driver does not connect. -/
  | refused (arguments : ConnectArguments)
    (given : adapter.connectArguments driver.missing params options = .ok arguments)
    (fault : Fault) (failures : Dictionary Native.FailPoint (List (Option Fault)))
    (comes : result = .error fault (Driver.record { driver with failures := failures }
      (.connect arguments.positional arguments.sorted) (some fault)))
  /-- There is a connection, which is made ready. -/
  | opened (arguments : ConnectArguments)
    (given : adapter.connectArguments driver.missing params options = .ok arguments)
    (failures : Dictionary Native.FailPoint (List (Option Fault)))
    (comes : result = adapter.prepareOpened (.opened (driver.connections + 1))
      (Driver.counting { driver with failures := failures } arguments))

theorem nameService_cases (adapter : Adapter) (params : ConnectionParams) (driver : Driver) :
    exists failures, let left : Driver := { driver with failures := failures }
      (adapter = .oracle ∧ exists host port service fault, adapter.nameService params driver =
        .error fault (left.record (.serviceName host port service) (some fault))) ∨
      adapter.nameService params driver = .ok () left := by
  cases adapter with
  | oracle =>
      rcases Native.attempt_cases .serviceName
        (.serviceName params.host (portOr params 1521) params.database) driver with
        ⟨failures, ⟨fault, refused⟩ | granted⟩
      · exact ⟨failures, .inl ⟨rfl, _, _, _, fault, refused⟩⟩
      · exact ⟨failures, .inr granted⟩
  | _ => exact ⟨driver.failures, .inr rfl⟩

theorem openConnection_opening (adapter : Adapter) (params : ConnectionParams)
    (options : List (String × Value)) (driver : Driver) :
    adapter.Opening params options driver (adapter.openConnection params options driver) := by
  have reached : adapter.openConnection params options driver =
      (.ofExcept (adapter.connectArguments driver.missing params options) >>= fun arguments =>
        adapter.nameService params >>= fun _ =>
          Native.connect arguments.positional arguments.sorted >>= adapter.prepareOpened) driver :=
    rfl
  rw [reached]
  cases given : adapter.connectArguments driver.missing params options with
  | error fault => exact .unready fault given rfl
  | ok arguments =>
      have ready : (Operation.ofExcept (.ok arguments) : Operation Driver ConnectArguments) driver =
        .ok arguments driver := rfl
      rw [Operation.bind_of_ok ready]
      rcases adapter.nameService_cases params driver with
        ⟨failures, ⟨oracle, host, port, service, fault, refused⟩ | named⟩
      · exact .unnamed oracle host port service fault failures (Operation.bind_of_error refused _)
      · rw [Operation.bind_of_ok named]
        rcases Native.connect_cases arguments { driver with failures := failures } with
          ⟨others, ⟨fault, refused⟩ | opened⟩
        · exact .refused arguments given fault others (Operation.bind_of_error refused _)
        · exact .opened arguments given others (Operation.bind_of_ok opened _)

theorem prepareOpened_confined (adapter : Adapter) (connection : Connection) :
    (adapter.prepareOpened connection).Respects (Driver.Confined connection) := by
  unfold prepareOpened
  split
  · exact .bind (Native.setAutocommit_confined true) fun _ => .pure _
  · exact .pure _

theorem prepareOpened_ok {adapter : Adapter} {connection found : Connection} {driver : Driver}
    (gives : (adapter.prepareOpened connection).outcome driver = .ok found) :
    found = connection := by
  unfold prepareOpened at gives
  split at gives
  · rcases Operation.ok_of_bind gives with ⟨_, _, -, returned⟩
    cases returned
    rfl
  · cases gives
    rfl

/-- Opening a connection touches no other, and gives one that was not open. -/
theorem openConnection_opens (adapter : Adapter) (params : ConnectionParams)
    (options : List (String × Value)) (driver : Driver) :
    driver.OpensMore ((adapter.openConnection params options).after driver) ∧
    forall connection, (adapter.openConnection params options).outcome driver = .ok connection ->
      connection.OpenedBetween driver ((adapter.openConnection params options).after driver) := by
  have failed {fault : Fault} {left : Driver}
      (comes : adapter.openConnection params options driver = .error fault left)
      (connections : left.connections = driver.connections)
      (record : forall connection, left.recordOf connection = driver.recordOf connection) :
      driver.OpensMore ((adapter.openConnection params options).after driver) ∧
      forall connection, (adapter.openConnection params options).outcome driver = .ok connection ->
        connection.OpenedBetween driver ((adapter.openConnection params options).after driver) := by
    rw [Operation.after_of_error comes, Operation.outcome_of_error comes]
    exact ⟨⟨Nat.le_of_eq connections.symm, fun number _ => record _⟩, nofun⟩
  cases adapter.openConnection_opening params options driver with
  | unready fault refuses comes => exact failed comes rfl fun _ => rfl
  | unnamed oracle host port service fault failures comes =>
      exact failed comes rfl (Native.recordOf_record_of_unlisted rfl _ _)
  | refused arguments given fault failures comes =>
      exact failed comes rfl (Native.recordOf_record_of_unlisted rfl _ _)
  | opened arguments given failures comes =>
      let connection : Connection := .opened (driver.connections + 1)
      let opened := Driver.counting { driver with failures := failures } arguments
      have record : forall other, opened.recordOf other = driver.recordOf other :=
        Native.recordOf_record_of_unlisted rfl _ _
      have confined := adapter.prepareOpened_confined connection opened
      rw [Operation.after, Operation.outcome, comes]
      change driver.OpensMore ((adapter.prepareOpened connection).after opened) ∧
        forall found, (adapter.prepareOpened connection).outcome opened = .ok found -> _
      have counted : ((adapter.prepareOpened connection).after opened).connections =
          driver.connections + 1 :=
        confined.connections
      refine ⟨⟨?_, fun number known => ?_⟩, fun found gives => ?_⟩
      · rw [counted]
        exact Nat.le_succ _
      · have different : Connection.opened number ≠ connection := by
          intro equal
          have numbers : number = driver.connections + 1 := Connection.opened.inj equal
          exact Nat.not_succ_le_self _ (numbers ▸ known)
        exact (confined.recordOf different).trans (record _)
      · exact ⟨driver.connections + 1, prepareOpened_ok gives, Nat.lt_succ_self _,
          Nat.le_of_eq counted.symm⟩

end Adapter
end SqlGateway
