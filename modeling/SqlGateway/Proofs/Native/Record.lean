import SqlGateway.Adapter.Native
import SqlGateway.Proofs.Operation.Matched
import SqlGateway.Result

namespace SqlGateway

/-!
# Drivers that differ in their records only

The driver records what is called, and never looks into the record.  A view of events may leave
something out of them.  Drivers that are the same but for what the view leaves out go on alike,
whatever an adapter does with them.  It may even make two calls, if the view shows no difference
between them.
-/

namespace Native

variable {α β : Type} {view : Event → Event}

/-- The drivers are the same but for what a view leaves out of the events in their records. -/
def Driver.SameBut (view : Event → Event) (first second : Driver) : Prop :=
  exists events, second = { first with events := events } ∧
    events.map view = first.events.map view

theorem Driver.SameBut.refl (view : Event → Event) (driver : Driver) : driver.SameBut view driver :=
  ⟨driver.events, rfl, rfl⟩

/-- The view shows no difference between two calls, whether they fail or not. -/
def Call.Seem (view : Event → Event) (call other : Call) : Prop :=
  forall failure, view ⟨call, failure⟩ = view ⟨other, failure⟩

theorem Driver.SameBut.record {first second : Driver} (same : first.SameBut view second)
    {call other : Call} (seem : call.Seem view other) (failure : Option Fault) :
    (first.record call failure).SameBut view (second.record other failure) := by
  rcases same with ⟨events, rfl, recorded⟩
  refine ⟨_, rfl, ?_⟩
  change (events ++ [(⟨other, failure⟩ : Event)]).map view =
    (first.events ++ [(⟨call, failure⟩ : Event)]).map view
  rw [List.map_append, List.map_append, recorded, List.map_singleton, List.map_singleton,
    seem failure]

open Driver (SameBut)

/-! ## Calls of the driver -/

/-- What is read from a driver may be used alike, unless it is the record. -/
theorem getBind_alike {next otherNext : Driver → Operation Driver β}
    (blind : forall driver events,
      otherNext { driver with events := events } = otherNext driver)
    (rest : forall driver, (next driver).Alike (SameBut view) (otherNext driver)) :
    (get >>= next).Alike (SameBut view) (get >>= otherNext) := by
  refine .getBind fun first second same => ?_
  rcases same with ⟨events, rfl, -⟩
  rw [blind first events]
  exact rest first

/-- A step neither looks at the record nor changes it. -/
structure Blind (step : Driver → β × Driver) : Prop where
  record : forall driver events, step { driver with events := events } =
    ((step driver).1, { (step driver).2 with events := events })
  silent : forall driver, (step driver).2.events = driver.events

/-- What a blind step gives may be used alike. -/
theorem Blind.alike {γ : Type} {step : Driver → β × Driver} (blind : Blind step)
    {next otherNext : β → Operation Driver γ}
    (rest : forall given, (next given).Alike (SameBut view) (otherNext given)) :
    Operation.Alike (SameBut view) (fun driver => next (step driver).1 (step driver).2)
      (fun driver => otherNext (step driver).1 (step driver).2) := by
  intro first second same
  rcases same with ⟨events, rfl, recorded⟩
  have left : (step first).2.SameBut view { (step first).2 with events := events } :=
    ⟨events, rfl, recorded.trans (congrArg _ (blind.silent first).symm)⟩
  have alike := rest (step first).1 _ _ left
  unfold Operation.AlikeOn Operation.outcome Operation.after at alike ⊢
  simp only [blind.record first events]
  exact alike

/-- A change that neither looks at the record nor changes it is made alike. -/
theorem modify_alike {change : Driver → Driver}
    (blind : Blind fun driver => ((), change driver)) :
    (modify change : Operation Driver Unit).Alike (SameBut view) (modify change) :=
  blind.alike fun _ => .pure ()

theorem nextFailure_blind (point : FailPoint) :
    Blind fun driver => driver.nextFailure point := by
  constructor <;> intro driver <;> unfold Driver.nextFailure
  · intro events
    rcases driver.failures.get? point with _ | _ | _ <;> rfl
  · rcases driver.failures.get? point with _ | _ | _ <;> rfl

theorem nextResponse_blind : Blind Driver.nextResponse := by
  constructor <;> intro driver <;> obtain ⟨responses⟩ := driver
  · intro events
    cases responses <;> rfl
  · cases responses <;> rfl

theorem finish_alike {call other : Call} (seem : call.Seem view other) (failure : Option Fault) :
    (finish call failure).Alike (SameBut view) (finish other failure) := by
  intro first second same
  cases failure with
  | none => exact ⟨rfl, same.record seem none⟩
  | some fault => exact ⟨rfl, same.record seem (some fault)⟩

theorem note_alike (call : Call) : (note call).Alike (SameBut view) (note call) :=
  finish_alike (fun _ => rfl) none

theorem takeFailure_alike (point : FailPoint) :
    (takeFailure point).Alike (SameBut view) (takeFailure point) :=
  (nextFailure_blind point).alike fun failure => .pure failure

theorem callsAt_alike (point : FailPoint) {call other : Call} (seem : call.Seem view other) :
    (callAt point call).Alike (SameBut view) (callAt point other) :=
  .bind (takeFailure_alike point) fun failure => finish_alike seem failure

theorem callAt_alike (point : FailPoint) (call : Call) :
    (callAt point call).Alike (SameBut view) (callAt point call) :=
  callsAt_alike point fun _ => rfl

theorem attempt_alike (point : FailPoint) (call : Call) :
    (attempt point call).Alike (SameBut view) (attempt point call) := by
  refine .bind (takeFailure_alike point) fun failure => ?_
  cases failure with
  | none => exact .pure ()
  | some fault => exact finish_alike (fun _ => rfl) (some fault)

theorem setActive_alike (connection : Connection) (isNow : Bool) :
    (setActive connection isNow).Alike (SameBut view) (setActive connection isNow) :=
  modify_alike ⟨fun _ _ => rfl, fun _ => rfl⟩

theorem setAutocommit_alike (connection : Connection) (on : Bool) :
    (setAutocommit connection on).Alike (SameBut view) (setAutocommit connection on) :=
  callAt_alike _ _

theorem connect_alike {positional others : List Value}
    {keywords otherKeywords : List (String × Value)}
    (seem : (Call.connect positional keywords).Seem view (.connect others otherKeywords)) :
    (connect positional keywords).Alike (SameBut view) (connect others otherKeywords) :=
  have counts : Blind fun driver : Driver =>
      (driver.connections + 1, { driver with connections := driver.connections + 1 }) :=
    ⟨fun _ _ => rfl, fun _ => rfl⟩
  .bind (callsAt_alike _ seem) fun _ => counts.alike fun number => .pure (Connection.opened number)

theorem begin_alike (connection : Connection) :
    (begin connection).Alike (SameBut view) (begin connection) :=
  .bind (callAt_alike _ _) fun _ => setActive_alike connection true

theorem commit_alike (connection : Connection) (retaining : Bool) :
    (commit connection retaining).Alike (SameBut view) (commit connection retaining) := by
  refine .bind (callAt_alike _ _) fun _ => ?_
  cases retaining with
  | false => exact setActive_alike connection false
  | true => exact .pure ()

theorem rollback_alike (connection : Connection) :
    (rollback connection).Alike (SameBut view) (rollback connection) :=
  .bind (callAt_alike _ _) fun _ => setActive_alike connection false

theorem openCursor_alike (connection : Connection) :
    (openCursor connection).Alike (SameBut view) (openCursor connection) :=
  have counts : Blind fun driver : Driver =>
      (driver.cursors + 1, { driver with cursors := driver.cursors + 1 }) :=
    ⟨fun _ _ => rfl, fun _ => rfl⟩
  .bind (attempt_alike _ _) fun _ =>
    counts.alike fun number => .pure (⟨connection, number, {}⟩ : Cursor)

theorem takeResponse_alike : takeResponse.Alike (SameBut view) takeResponse :=
  nextResponse_blind.alike fun response => .pure response

/-- A statement may be run with other parameters, if the view leaves them out. -/
theorem execute_alike (cursor : Cursor) (sql : String) {parameters others : Option (List Value)}
    (seem : (Call.execute cursor.connection cursor.number sql parameters).Seem view
      (.execute cursor.connection cursor.number sql others)) :
    (execute cursor sql parameters).Alike (SameBut view) (execute cursor sql others) := by
  refine .bind takeResponse_alike fun _ => ?_
  refine .bind (finish_alike seem _) fun _ => ?_
  refine .bind (setActive_alike _ _) fun _ => ?_
  exact .pure _

theorem closeCursor_alike (cursor : Cursor) :
    (closeCursor cursor).Alike (SameBut view) (closeCursor cursor) :=
  .bind (takeFailure_alike _) fun _ => finish_alike (fun _ => rfl) _

end Native

/-! ## Adapters -/

namespace Adapter

open Native (Connection Cursor Driver Event)
open Native.Driver (SameBut)

variable {α : Type} {view : Event → Event}

/-- The arguments that open a connection are made for both parameters, and the view shows no
difference between them, or making them fails with one fault.  A service has one name. -/
structure AskAlike (view : Event → Event) (adapter : Adapter) (params others : ConnectionParams)
    (options : List (String × Value)) : Prop where
  arguments : forall missing, Corresponds
    (fun arguments otherArguments =>
      (Native.Call.connect arguments.positional arguments.sorted).Seem view
        (.connect otherArguments.positional otherArguments.sorted))
    (adapter.connectArguments missing params options)
    (adapter.connectArguments missing others options)
  service : adapter.nameService params = adapter.nameService others

theorem AskAlike.refl (adapter : Adapter) (params : ConnectionParams)
    (options : List (String × Value)) : adapter.AskAlike view params params options where
  arguments missing := by
    cases adapter.connectArguments missing params options with
    | ok arguments => exact .ok fun _ => rfl
    | error fault => exact .error fault
  service := rfl

theorem nameService_alike (adapter : Adapter) (params : ConnectionParams) :
    (adapter.nameService params).Alike (SameBut view) (adapter.nameService params) := by
  cases adapter with
  | oracle => exact Native.attempt_alike _ _
  | _ => exact .pure ()

theorem openConnection_alike {adapter : Adapter} {params others : ConnectionParams}
    {options : List (String × Value)} (asks : adapter.AskAlike view params others options) :
    (adapter.openConnection params options).Alike (SameBut view)
      (adapter.openConnection others options) := by
  refine Native.getBind_alike (fun _ _ => rfl) fun driver =>
    (Operation.Matched.ofExcept (asks.arguments driver.missing)).bindAlike fun _ _ seem => ?_
  rw [asks.service]
  refine .bind (nameService_alike adapter others) fun _ =>
    .bind (Native.connect_alike seem) fun connection => ?_
  split
  · exact .bind (Native.setAutocommit_alike _ _) fun _ => .pure _
  · exact .pure _

theorem execute_alike (connection : Connection) (sql : String) {parameters others : List Value}
    (seem : forall cursor : Cursor,
      (Native.Call.execute cursor.connection cursor.number sql (some parameters)).Seem view
        (.execute cursor.connection cursor.number sql (some others))) :
    (execute connection sql parameters).Alike (SameBut view) (execute connection sql others) :=
  .bind (Native.openCursor_alike connection) fun cursor =>
    Native.execute_alike cursor sql (seem cursor)

theorem afterExecute_alike (adapter : Adapter) (connection : Connection) (inTransaction : Bool) :
    (adapter.afterExecute connection inTransaction).Alike (SameBut view)
      (adapter.afterExecute connection inTransaction) := by
  refine Native.getBind_alike (fun _ _ => rfl) fun driver => ?_
  split
  · exact Native.commit_alike connection true
  · exact .pure ()

theorem withStatement_alike (connection : Connection) (sql : String)
    (use : Cursor → Except Fault α) :
    (withStatement connection sql use).Alike (SameBut view) (withStatement connection sql use) := by
  refine .bind (Native.openCursor_alike connection) fun fresh =>
    .bind (Native.execute_alike fresh sql fun _ => rfl).observe fun outcome => ?_
  cases outcome with
  | ok cursor => exact .bind (Native.closeCursor_alike cursor) fun _ => .ofExcept _
  | error fault => exact .bind (Native.closeCursor_alike fresh) fun _ => .throw fault

theorem control_alike (adapter : Adapter) (connection : Connection)
    (call : Transaction.NativeCall) :
    (adapter.control connection call).Alike (SameBut view) (adapter.control connection call) := by
  cases call <;> exact withStatement_alike _ _ _

theorem transact_alike (adapter : Adapter) (connection : Connection)
    (call : Transaction.NativeCall) :
    (adapter.transact connection call).Alike (SameBut view)
      (adapter.transact connection call) := by
  have switches (on : Bool) : (Native.setAutocommit connection on).Alike (SameBut view)
      (Native.setAutocommit connection on) := Native.setAutocommit_alike connection on
  refine transact_cases (motive := fun operation => operation.Alike (SameBut view) operation)
    (fun adapter => control_alike adapter connection call) (Native.callAt_alike _ _)
    (Native.begin_alike connection) ?_ (Native.commit_alike connection false)
    (Native.rollback_alike connection) (switches false)
    (.thenAlways (Native.commit_alike connection false) (switches true))
    (.thenAlways (Native.rollback_alike connection) (switches true)) adapter
  refine Native.getBind_alike (fun _ _ => rfl) fun driver => ?_
  split
  · exact .bind (Native.commit_alike connection false) fun _ => Native.begin_alike connection
  · exact Native.begin_alike connection

theorem prepareNatively_alike (adapter : Adapter) (connection : Connection) (sql : String) :
    (adapter.prepareNatively connection sql).Alike (SameBut view)
      (adapter.prepareNatively connection sql) := by
  cases adapter with
  | firebird =>
      exact .bind (Native.openCursor_alike connection) fun cursor =>
        .thenAlways (.bind (Native.callAt_alike _ _) fun _ => Native.callAt_alike _ _)
          (Native.closeCursor_alike cursor)
  | oracle =>
      exact .bind (Native.openCursor_alike connection) fun cursor =>
        .thenAlways (Native.callAt_alike _ _) (Native.closeCursor_alike cursor)
  | mssql | mysql | odbc | postgres | sqlite => exact .throw _

theorem validate_alike (dialect : Dialect) (sql : String) :
    (validate dialect sql).Alike (SameBut view) (validate dialect sql) := by
  unfold validate
  cases dialect.grammar with
  | none => exact .pure ()
  | some grammar => exact .mapFault _ (Native.callAt_alike _ _)

theorem lastInsertId_alike (adapter : Adapter) (connection : Connection) (lastRowId : Value) :
    (adapter.lastInsertId connection lastRowId).Alike (SameBut view)
      (adapter.lastInsertId connection lastRowId) := by
  unfold lastInsertId
  split
  · exact .bind (withStatement_alike _ _ _) fun row => .ofExcept _
  · exact .pure _
  · exact .throw _

end Adapter

/-- The cursor of a result is closed alike, whether that fails or not. -/
theorem QueryResult.free_alike {view : Native.Event → Native.Event} (result : QueryResult) :
    result.free.Alike (Native.Driver.SameBut view) result.free := by
  unfold QueryResult.free
  split
  · refine .bind (Native.closeCursor_alike _).observe fun outcome => ?_
    cases outcome with
    | ok done => exact .pure ()
    | error fault =>
        simp only
        split
        · exact .throw fault
        · exact .pure ()
  · exact .pure ()

end SqlGateway
