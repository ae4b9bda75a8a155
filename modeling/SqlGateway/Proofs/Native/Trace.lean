import SqlGateway.Proofs.Gateway.DriverPart

namespace SqlGateway

/-!
# What an operation adds to the record of events

A driver records every call at the border of the library, in order, and forgets none.  An
operation therefore has a part of the record to itself: the events that it adds.  Which
events those may be is a relation between the state before and the state after, and a
sequence of operations adds what its parts add.

The relation is stated for drivers and lifted to the states around them.  Nothing is said here
about which events there must be; that needs the outcomes of the calls.
-/

namespace Native

/-- Every event that was added is an allowed one, and no event was taken away. -/
def Driver.Adds (allowed : Event → Prop) (before after : Driver) : Prop :=
  exists added, after.events = before.events ++ added ∧
    forall event, event ∈ added -> allowed event

namespace Driver.Adds

variable {allowed : Event → Prop} {before after : Driver}

theorem of_same (same : after.events = before.events) : before.Adds allowed after :=
  ⟨[], by rw [same, List.append_nil], nofun⟩

instance : IsPreorder Driver (Driver.Adds allowed) where
  refl _ := of_same rfl
  trans _ _ _ first second := by
    rcases first with ⟨earlier, earlierSame, earlierAllowed⟩
    rcases second with ⟨later, laterSame, laterAllowed⟩
    refine ⟨earlier ++ later, by rw [laterSame, earlierSame, List.append_assoc], ?_⟩
    intro event member
    rcases List.mem_append.mp member with early | late
    · exact earlierAllowed event early
    · exact laterAllowed event late

theorem mono {wider : Event → Prop} (adds : before.Adds allowed after)
    (implies : forall event, allowed event -> wider event) : before.Adds wider after := by
  rcases adds with ⟨added, same, all⟩
  exact ⟨added, same, fun event member => implies event (all event member)⟩

end Driver.Adds

/-- One event of a kind was added, with allowed ones before it and others after it. -/
def Driver.Sends (allowed sent later : Event → Prop) (before after : Driver) : Prop :=
  exists early event late, after.events = before.events ++ early ++ event :: late ∧
    (forall other, other ∈ early -> allowed other) ∧ sent event ∧
    forall other, other ∈ late -> later other

namespace Driver.Sends

variable {allowed sent later : Event → Prop} {before middle after : Driver}

theorem of_adds (adds : before.Adds allowed middle) (sends : middle.Sends allowed sent later after) :
    before.Sends allowed sent later after := by
  rcases adds with ⟨added, addedSame, addedAllowed⟩
  rcases sends with ⟨early, event, late, same, earlyAllowed, sentEvent, lateAllowed⟩
  refine ⟨added ++ early, event, late, ?_, ?_, sentEvent, lateAllowed⟩
  · rw [same, addedSame, List.append_assoc before.events]
  · intro other member
    rcases List.mem_append.mp member with first | second
    · exact addedAllowed other first
    · exact earlyAllowed other second

theorem adds_after (sends : before.Sends allowed sent later middle)
    (adds : middle.Adds later after) : before.Sends allowed sent later after := by
  rcases adds with ⟨added, addedSame, addedAllowed⟩
  rcases sends with ⟨early, event, late, same, earlyAllowed, sentEvent, lateAllowed⟩
  refine ⟨early, event, late ++ added, ?_, earlyAllowed, sentEvent, ?_⟩
  · rw [addedSame, same, List.append_assoc _ (event :: late), List.cons_append]
  · intro other member
    rcases List.mem_append.mp member with first | second
    · exact lateAllowed other first
    · exact addedAllowed other second

theorem mono {kind wider : Event → Prop} (sends : before.Sends allowed sent later after)
    (sentImplies : forall event, sent event -> kind event)
    (laterImplies : forall event, later event -> wider event) :
    before.Sends allowed kind wider after := by
  rcases sends with ⟨early, event, late, same, earlyAllowed, sentEvent, lateAllowed⟩
  exact ⟨early, event, late, same, earlyAllowed, sentImplies event sentEvent,
    fun other member => laterImplies other (lateAllowed other member)⟩

end Driver.Sends

/-! ## Calls of the driver -/

section Calls

variable {allowed : Event → Prop}

/-- The next failure is taken off the script, and nothing else changes. -/
theorem nextFailure_leaves (driver : Driver) (point : FailPoint) :
    exists failures, (driver.nextFailure point).2 = { driver with failures := failures } := by
  unfold Driver.nextFailure
  split
  · exact ⟨_, rfl⟩
  · exact ⟨driver.failures, rfl⟩
  · exact ⟨driver.failures, rfl⟩

theorem events_nextFailure (driver : Driver) (point : FailPoint) :
    (driver.nextFailure point).2.events = driver.events := by
  unfold Driver.nextFailure
  split <;> rfl

theorem finish_events (call : Call) (failure : Option Fault) (driver : Driver) :
    ((finish call failure).after driver).events = driver.events ++ [⟨call, failure⟩] := by
  cases failure <;> rfl

theorem finish_adds {call : Call} {failure : Option Fault} (permitted : allowed ⟨call, failure⟩) :
    (finish call failure).Respects (Driver.Adds allowed) := by
  intro driver
  refine ⟨[⟨call, failure⟩], finish_events call failure driver, ?_⟩
  intro event member
  rw [List.mem_singleton.mp member]
  exact permitted

/-- A call comes to the next failure of its place, and is recorded with it. -/
theorem callAt_run (point : FailPoint) (call : Call) (driver : Driver) :
    callAt point call driver =
      Operation.result ((driver.nextFailure point).1.elim (.ok ()) .error)
        ((driver.nextFailure point).2.record call (driver.nextFailure point).1) := by
  change finish call (driver.nextFailure point).1 (driver.nextFailure point).2 = _
  rcases driver.nextFailure point with ⟨_ | fault, left⟩
  · rfl
  · rfl

theorem callAt_cases (point : FailPoint) (call : Call) (driver : Driver) :
    exists failures, let left : Driver := { driver with failures := failures }
      (exists fault, callAt point call driver = .error fault (left.record call (some fault))) ∨
      callAt point call driver = .ok () (left.record call none) := by
  rcases nextFailure_leaves driver point with ⟨failures, left⟩
  have run := callAt_run point call driver
  rw [left] at run
  refine ⟨failures, ?_⟩
  cases failure : (driver.nextFailure point).1 with
  | none =>
      rw [failure] at run
      exact .inr run
  | some fault =>
      rw [failure] at run
      exact .inl ⟨fault, run⟩

theorem callAt_events (point : FailPoint) (call : Call) (driver : Driver) :
    ((callAt point call).after driver).events = driver.events ++
      [⟨call, Operation.failure? ((callAt point call).outcome driver)⟩] := by
  have run := callAt_run point call driver
  rw [Operation.after_of_run run, Operation.outcome_of_run run, ← events_nextFailure driver point]
  cases (driver.nextFailure point).1 <;> rfl

theorem callAt_after (point : FailPoint) (call : Call) (driver : Driver) :
    (callAt point call).after driver =
      (finish call (driver.nextFailure point).1).after (driver.nextFailure point).2 :=
  rfl

theorem callAt_adds {call : Call} (point : FailPoint)
    (permitted : forall failure, allowed ⟨call, failure⟩) :
    (callAt point call).Respects (Driver.Adds allowed) := by
  intro driver
  rw [callAt_after]
  have added := finish_adds (permitted (driver.nextFailure point).1) (driver.nextFailure point).2
  unfold Driver.Adds at added ⊢
  rw [events_nextFailure] at added
  exact added

theorem attempt_cases (point : FailPoint) (call : Call) (driver : Driver) :
    exists failures, let left : Driver := { driver with failures := failures }
      (exists fault, attempt point call driver = .error fault (left.record call (some fault))) ∨
      attempt point call driver = .ok () left := by
  rcases nextFailure_leaves driver point with ⟨failures, left⟩
  refine ⟨failures, ?_⟩
  rw [← left]
  have taken : takeFailure point driver =
      .ok (driver.nextFailure point).1 (driver.nextFailure point).2 := rfl
  have reached : attempt point call driver = _ := Operation.bind_of_ok taken _
  cases failure : (driver.nextFailure point).1 with
  | none =>
      rw [failure] at reached
      exact .inr reached
  | some fault =>
      rw [failure] at reached
      exact .inl ⟨fault, reached⟩

/-- A call that succeeds here leaves no record. -/
theorem attempt_adds {call : Call} (point : FailPoint)
    (permitted : forall fault, allowed ⟨call, some fault⟩) :
    (attempt point call).Respects (Driver.Adds allowed) := by
  refine .bind (fun driver => .of_same (events_nextFailure driver point)) fun failure => ?_
  cases failure with
  | none => exact .pure ()
  | some fault => exact finish_adds (permitted fault)

theorem setActive_adds (connection : Connection) (isNow : Bool) :
    (setActive connection isNow).Respects (Driver.Adds allowed) :=
  .modify fun _ => .of_same rfl

theorem connect_adds {positional : List Value} {keywords : List (String × Value)}
    (permitted : forall failure, allowed ⟨.connect positional keywords, failure⟩) :
    (connect positional keywords).Respects (Driver.Adds allowed) :=
  -- The driver is read again for its count, so the rest is one step and not three.
  .bind (callAt_adds .connect permitted) fun _ _ => .of_same rfl

theorem openCursor_adds {connection : Connection}
    (permitted : forall fault, allowed ⟨.openCursor connection, some fault⟩) :
    (openCursor connection).Respects (Driver.Adds allowed) :=
  .bind (attempt_adds .openCursor permitted) fun _ _ => .of_same rfl

theorem commit_adds {connection : Connection} {retaining : Bool}
    (permitted : forall failure, allowed ⟨.commit connection retaining, failure⟩) :
    (commit connection retaining).Respects (Driver.Adds allowed) := by
  refine .bind (callAt_adds .commit permitted) fun _ => ?_
  cases retaining with
  | true => exact .pure ()
  | false => exact setActive_adds connection false

theorem closeCursor_adds {cursor : Cursor}
    (permitted : forall failure,
      allowed ⟨.closeCursor cursor.connection cursor.number, failure⟩) :
    (closeCursor cursor).Respects (Driver.Adds allowed) :=
  .bind (fun driver => .of_same (events_nextFailure driver .closeCursor)) fun _ =>
    finish_adds (permitted _)

theorem execute_adds {cursor : Cursor} {sql : String} {parameters : Option (List Value)}
    (permitted : forall failure,
      allowed ⟨.execute cursor.connection cursor.number sql parameters, failure⟩) :
    (execute cursor sql parameters).Respects (Driver.Adds allowed) := by
  have takes : takeResponse.Respects (Driver.Adds allowed) := by
    intro driver
    rcases driver with ⟨responses, _⟩
    cases responses <;> exact .of_same rfl
  refine .bind takes fun _ => ?_
  refine .bind (finish_adds (permitted _)) fun _ => ?_
  refine .bind (setActive_adds _ _) fun _ => ?_
  exact .pure _

/-- A statement on a cursor of its own adds the statement and the end of the cursor, or that there
is no cursor for it. -/
theorem withStatement_adds {β : Type} {connection : Connection} {sql : String}
    (opens : forall other fault, allowed ⟨.openCursor other, some fault⟩)
    (executes : forall other cursor failure, allowed ⟨.execute other cursor sql none, failure⟩)
    (closes : forall other cursor failure, allowed ⟨.closeCursor other cursor, failure⟩)
    (use : Cursor → Except Fault β) :
    (Adapter.withStatement connection sql use).Respects (Driver.Adds allowed) := by
  refine .bind (openCursor_adds (opens connection)) fun fresh =>
    .bind (.observe (execute_adds (executes _ _))) fun outcome => ?_
  split
  · exact .bind (closeCursor_adds (closes _ _)) fun _ => .ofExcept _
  · exact .bind (closeCursor_adds (closes _ _)) fun _ => .throw _

/-- A cursor is opened and counted, or the failure to do so is recorded. -/
theorem openCursor_cases (connection : Connection) (driver : Driver) :
    exists failures, let left : Driver := { driver with failures := failures }
      (exists fault, openCursor connection driver =
        .error fault (left.record (.openCursor connection) (some fault))) ∨
      openCursor connection driver =
        .ok ⟨connection, driver.cursors + 1, {}⟩ { left with cursors := driver.cursors + 1 } := by
  rcases attempt_cases .openCursor (.openCursor connection) driver with
    ⟨failures, ⟨fault, refused⟩ | granted⟩
  · exact ⟨failures, .inl ⟨fault, Operation.bind_of_error refused _⟩⟩
  · exact ⟨failures, .inr (Operation.bind_of_ok granted _)⟩

/-- A statement with parameters on a new cursor is recorded once, with the fault that it fails
with, unless there is no cursor for it.  If it succeeds, the connection has an active
transaction. -/
theorem execute_cases (connection : Connection) (sql : String) (parameters : List Value)
    (driver : Driver) :
    let statement : Call := .execute connection (driver.cursors + 1) sql (some parameters)
    (exists call fault left, Adapter.execute connection sql parameters driver = .error fault left ∧
      (call = .openCursor connection ∨ call = statement) ∧
      left.events = driver.events ++ [⟨call, some fault⟩] ∧ left.active = driver.active) ∨
    (exists cursor left, Adapter.execute connection sql parameters driver = .ok cursor left ∧
      left.events = driver.events ++ [⟨statement, none⟩] ∧ left.isActive connection = true) := by
  have active (others : List Connection) : (connection :: others).contains connection = true := by
    simp
  rcases openCursor_cases connection driver with ⟨failures, ⟨fault, refused⟩ | opened⟩
  · exact .inl ⟨_, fault, _, Operation.bind_of_error refused _, .inl rfl, rfl, rfl⟩
  · have reached : Adapter.execute connection sql parameters driver = _ :=
      Operation.bind_of_ok opened _
    rw [reached]
    rcases driver with ⟨responses, -, missing, clock, events, connections, cursors, actives⟩
    cases responses with
    | nil => exact .inr ⟨_, _, rfl, rfl, active _⟩
    | cons response rest =>
        rcases response with ⟨error, _⟩
        cases error with
        | none => exact .inr ⟨_, _, rfl, rfl, active _⟩
        | some fault => exact .inl ⟨_, fault, _, rfl, .inr rfl, rfl, rfl⟩

end Calls

/-! ## The record of one connection -/

/-- The connection that a call is made on. -/
def Call.connection? : Call → Option Connection
  | .openCursor connection | .execute connection _ _ _ | .closeCursor connection _
  | .runDirectly connection _
  | .begin connection | .commit connection _ | .rollback connection | .close connection
  | .setAutocommit connection _ | .prepare connection _ _ | .freePrepared connection _
  | .parse connection _ _ => some connection
  | .serviceName _ _ _ | .connect _ _ | .checkGrammar _ _ | .hook _ _ _ | .rolledBack | .processError _
  | .makeEntry => none

def Driver.recordOf (driver : Driver) (connection : Connection) : List Event :=
  driver.events.filter fun event => event.call.connection? = some connection

theorem recordOf_of_event {connection : Connection} {before after : Driver} {event : Event}
    (on : event.call.connection? = some connection)
    (same : after.events = before.events ++ [event]) :
    after.recordOf connection = before.recordOf connection ++ [event] := by
  have kept : [event].filter (fun event => event.call.connection? = some connection) = [event] :=
    List.filter_cons_of_pos (decide_eq_true on)
  unfold Driver.recordOf
  rw [same, List.filter_append, kept]

/-- What is done on no connection is on the record of none. -/
theorem recordOf_record_of_unlisted {call : Call} (unlisted : call.connection? = none)
    (driver : Driver) (failure : Option Fault) (connection : Connection) :
    (driver.record call failure).recordOf connection = driver.recordOf connection := by
  have none_kept : [(⟨call, failure⟩ : Event)].filter
      (fun event => event.call.connection? = some connection) = [] := by
    apply List.filter_cons_of_neg
    rw [unlisted]
    exact Bool.false_ne_true
  unfold Driver.recordOf Driver.record
  rw [List.filter_append, none_kept, List.append_nil]

end Native

theorem Adapter.nameService_adds {allowed : Native.Event → Prop} (adapter : Adapter)
    (params : ConnectionParams)
    (names : forall host port service fault,
      allowed ⟨.serviceName host port service, some fault⟩) :
    (adapter.nameService params).Respects (Native.Driver.Adds allowed) := by
  cases adapter with
  | oracle => exact Native.attempt_adds _ (names _ _ _)
  | _ => exact .pure ()

/-- After a statement at most a commit that retains the transaction is added. -/
theorem Adapter.afterExecute_adds {allowed : Native.Event → Prop} (adapter : Adapter)
    {connection : Native.Connection}
    (commits : forall failure, allowed ⟨.commit connection true, failure⟩) (inTransaction : Bool) :
    (adapter.afterExecute connection inTransaction).Respects (Native.Driver.Adds allowed) := by
  refine .bind .get fun driver => ?_
  split
  · exact Native.commit_adds commits
  · exact .pure ()

/-- Opening a connection names its service, connects, and switches its commits on. -/
theorem Adapter.openConnection_adds {allowed : Native.Event → Prop}
    (names : forall host port service fault,
      allowed ⟨.serviceName host port service, some fault⟩)
    (connects : forall positional keywords failure,
      allowed ⟨.connect positional keywords, failure⟩)
    (switches : forall connection failure, allowed ⟨.setAutocommit connection true, failure⟩)
    (adapter : Adapter) (params : ConnectionParams) (options : List (String × Value)) :
    (adapter.openConnection params options).Respects (Native.Driver.Adds allowed) := by
  refine .bind .get fun _ => ?_
  refine .bind (.ofExcept _) fun _ => ?_
  refine .bind (nameService_adds adapter params names) fun _ => ?_
  refine .bind (Native.connect_adds (connects _ _)) fun connection => ?_
  dsimp only
  split
  · exact .bind (Native.callAt_adds _ (switches connection)) fun _ => .pure _
  · exact .pure _

/-! ## States around a driver -/

/-- What the driver of a state adds to its record. -/
def Gateway.Adds {α : Type} (allowed : Native.Event → Prop) (before after : Gateway α) : Prop :=
  before.driver.Adds allowed after.driver

namespace Gateway

variable {α β : Type} {allowed : Native.Event → Prop}

instance : IsPreorder (Gateway α) (Gateway.Adds allowed) :=
  inferInstanceAs (IsPreorder (Gateway α) (Database.OfDriver (Native.Driver.Adds allowed)))

theorem onDriver_adds {operation : Operation Native.Driver β}
    (adds : operation.Respects (Native.Driver.Adds allowed)) :
    (onDriver operation : Operation (Gateway α) β).Respects (Gateway.Adds allowed) :=
  onDriver_ofDriver adds

theorem modify_adds {change : Gateway α → Gateway α}
    (same : forall gateway, (change gateway).driver = gateway.driver) :
    (modify change : Operation (Gateway α) Unit).Respects (Gateway.Adds allowed) :=
  modify_ofDriver same

theorem write_adds (level : Logging.Level) (part message : String)
    (fields : Option (List (String × Value))) :
    (write level part message fields : Operation (Gateway α) Unit).Respects
      (Gateway.Adds allowed) :=
  write_ofDriver level part message fields

theorem changeEntry_adds (id : Nat) (change : Entry α → Entry α) :
    (changeEntry id change : Operation (Gateway α) Unit).Respects (Gateway.Adds allowed) :=
  modify_adds fun _ => rfl

theorem entryAt_adds (id : Nat) :
    (entryAt id : Operation (Gateway α) (Entry α)).Respects (Gateway.Adds allowed) :=
  entryAt_ofDriver id

theorem compile_adds (template : String) (dialect : Dialect) (style : Option ParameterStyle) :
    (compile template dialect style : Operation (Gateway α) ParsedQuery).Respects
      (Gateway.Adds allowed) :=
  compile_ofDriver template dialect style

/-- Connecting an entry adds what opening a connection does. -/
theorem connect_adds (id : Nat)
    (names : forall host port service fault,
      allowed ⟨.serviceName host port service, some fault⟩)
    (connects : forall positional keywords failure,
      allowed ⟨.connect positional keywords, failure⟩)
    (switches : forall connection failure, allowed ⟨.setAutocommit connection true, failure⟩) :
    (connect id : Operation (Gateway α) Handle).Respects (Gateway.Adds allowed) :=
  connect_ofDriver (Adapter.openConnection_adds names connects switches) id

end Gateway

theorem Database.compile_adds {α : Type} {allowed : Native.Event → Prop} (database : Database)
    (template : String) :
    (database.compile template : Operation (Gateway α) ParsedQuery).Respects
      (Gateway.Adds allowed) :=
  database.compile_ofDriver template

/-- What the driver of a session adds to its record. -/
def Session.Adds {α σ : Type} (allowed : Native.Event → Prop) (before after : Session α σ) :
    Prop :=
  before.gateway.Adds allowed after.gateway

namespace Session

variable {α σ β : Type} {allowed : Native.Event → Prop}

instance : IsPreorder (Session α σ) (Session.Adds allowed) where
  refl session := refl_of (Gateway.Adds allowed) session.gateway
  trans _ _ _ first second := trans_of (Gateway.Adds allowed) first second

theorem library_adds {operation : Operation (Gateway α) β}
    (adds : operation.Respects (Gateway.Adds allowed)) :
    (library operation : Operation (Session α σ) β).Respects (Session.Adds allowed) :=
  Operation.Respects.within adds fun _ _ added => added

end Session
end SqlGateway
