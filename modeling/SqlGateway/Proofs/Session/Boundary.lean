import SqlGateway.Database.Prepared
import SqlGateway.Database.Rows
import SqlGateway.Proofs.Database.Deed
import SqlGateway.Proofs.Native.Boundary
import SqlGateway.Proofs.Result.Unreadable
import SqlGateway.Proofs.Session.Quiet

namespace SqlGateway

/-!
# How faults of the driver leave the library

Nearly every part of the library that calls the driver sees its faults through a boundary: what
comes out is a database fault that was caused by the fault of the driver.  All other faults are the
library's own, or those of conversions; the driver has no part in them, and no call to it failed
but the end of a cursor, which the library does not mind.

There are two parts without a boundary.  Rows are handed out outside of it, and with them large
objects are read; and the check of a statement by a grammar only minds the faults of a grammar.
Operations that do either may pass faults of the driver on.

Statements hold for every dialect and every adapter.  No hook is registered: a hook is the caller's
code, and its faults go through as they are.
-/

/-- A fault that reports a failure of the driver: a database fault caused by it. -/
def Fault.ReportsDriver (fault : Fault) : Prop :=
  fault.kind = .library .database ∧
    exists cause, fault.cause = some cause ∧ cause.kind.isNative = true

/-- A fault that reports a failure of the driver, or is one. -/
def Fault.PassesDriver (fault : Fault) : Prop :=
  fault.ReportsDriver ∨ fault.kind.isNative = true

theorem Fault.ReportsDriver.isNative {fault : Fault} (reports : fault.ReportsDriver) :
    fault.kind.isNative = false := by
  rw [reports.1]
  rfl

/-! ## The boundary around the library -/

namespace Gateway

variable {α β : Type} {shows : Fault → Prop} {ensures : β → Prop}

/-- The driver fails with its own faults, and no hook is registered. -/
structure FailsNatively (gateway : Gateway α) : Prop where
  driver : gateway.driver.FailsNatively
  unhooked : forall id, (gateway.entry id).hooks = []

/-- The boundary around a state that shows failures of the driver in certain faults. -/
def boundary (shows : Fault → Prop) : Boundary (Gateway α) where
  ready := FailsNatively
  harmless := Gateway.Adds Native.Event.IsHarmless
  shows := shows

instance (shows : Fault → Prop) : IsPreorder (Gateway α) (boundary shows).harmless :=
  inferInstanceAs (IsPreorder (Gateway α) (Gateway.Adds Native.Event.IsHarmless))

/-- The boundary around the library. -/
def reporting : Boundary (Gateway α) := boundary Fault.ReportsDriver

instance : IsPreorder (Gateway α) reporting.harmless :=
  inferInstanceAs (IsPreorder (Gateway α) (Gateway.Adds Native.Event.IsHarmless))

/-- The boundary around the library where it passes faults of the driver on. -/
def passing : Boundary (Gateway α) := boundary Fault.PassesDriver

instance : IsPreorder (Gateway α) passing.harmless :=
  inferInstanceAs (IsPreorder (Gateway α) (Gateway.Adds Native.Event.IsHarmless))

theorem passes_of_reports {operation : Operation (Gateway α) β}
    (keeps : reporting.Keeps ensures operation) : passing.Keeps ensures operation :=
  keeps.widen rfl rfl fun _ => Or.inl

theorem onDriver_keeps {operation : Operation Native.Driver β}
    (keeps : (Native.boundary shows).Keeps ensures operation) :
    (boundary shows).Keeps ensures (onDriver operation : Operation (Gateway α) β) :=
  .within keeps (fun _ ready => ready.driver) (fun _ _ ready left => ⟨left, ready.unhooked⟩)
    (fun _ _ harmless => harmless) rfl

/-- A change beside the driver that registers no hook. -/
theorem modify_keeps {change : Gateway α → Gateway α}
    (driver : forall gateway, (change gateway).driver = gateway.driver)
    (unhooked : forall gateway, (forall id, (gateway.entry id).hooks = []) ->
      forall id, ((change gateway).entry id).hooks = []) :
    (boundary shows).Keeps (fun _ => True) (modify change : Operation (Gateway α) Unit) := by
  refine .modify (fun gateway ready => ⟨?_, unhooked gateway ready.unhooked⟩) fun gateway =>
    .of_same (congrArg Native.Driver.events (driver gateway))
  rw [driver]
  exact ready.driver

theorem write_keeps (level : Logging.Level) (part message : String)
    (fields : Option (List (String × Value))) :
    (boundary shows).Keeps (fun _ => True)
      (write level part message fields : Operation (Gateway α) Unit) :=
  modify_keeps (fun _ => rfl) fun _ unhooked => unhooked

theorem changeEntry_keeps (id : Nat) {change : Entry α → Entry α}
    (hooks : forall entry, (change entry).hooks = entry.hooks) :
    (boundary shows).Keeps (fun _ => True)
      (changeEntry id change : Operation (Gateway α) Unit) := by
  refine modify_keeps (fun _ => rfl) fun gateway unhooked other => ?_
  rw [entry_setEntry]
  split
  · rw [hooks]
    exact unhooked id
  · exact unhooked other

theorem entryAt_keeps (id : Nat) :
    (boundary shows).Keeps (fun entry => entry.hooks = [])
      (entryAt id : Operation (Gateway α) (Entry α)) :=
  .bind .get fun _ ready => .pure (ready.unhooked id)

theorem compile_keeps (template : String) (dialect : Dialect) (style : Option ParameterStyle) :
    (boundary shows).Keeps (fun _ => True)
      (compile template dialect style : Operation (Gateway α) ParsedQuery) := by
  intro gateway ready
  have tame := Template.compile_tame gateway.cache template dialect style
  unfold Operation.after Operation.outcome compile
  rcases compiled : gateway.cache.compile template dialect style with ⟨outcome, cache⟩
  rw [compiled] at tame
  cases outcome with
  | error fault => exact ⟨⟨ready.driver, ready.unhooked⟩, Or.inr ⟨tame.involvesDriver rfl, .of_same rfl⟩⟩
  | ok query => exact ⟨⟨ready.driver, ready.unhooked⟩, trivial, .of_same rfl⟩

/-! ## Seeing faults of the driver through a boundary -/

theorem driverFault_tame (message : String) (fault : Fault) (tame : fault.involvesDriver = false) :
    (driverFault message fault).involvesDriver = false := by
  unfold driverFault
  split
  · rw [Fault.involvesDriver_because, tame]
  · exact tame

theorem driverFault_reports (message : String) {fault : Fault}
    (native : fault.kind.isNative = true) : (driverFault message fault).ReportsDriver := by
  have seen : Fault.matchesAny (some Adapter.driverFaults) fault = true := by
    unfold Fault.matchesAny Adapter.driverFaults
    simp only [List.any_cons, List.any_nil, Bool.or_false]
    exact native
  unfold driverFault
  rw [if_pos seen]
  exact ⟨rfl, fault, rfl, native⟩

theorem atBoundary_tame (detail : String) (kinds : Option (List FaultKind)) (fault : Fault)
    (tame : fault.involvesDriver = false) :
    (fault.atBoundary detail kinds).involvesDriver = false := by
  unfold Fault.atBoundary
  split
  · exact tame
  · split
    · rw [Fault.involvesDriver_because, tame]
    · exact tame

theorem atBoundary_reports (detail : String) {fault : Fault}
    (native : fault.kind.isNative = true) :
    (fault.atBoundary detail (some Adapter.driverFaults)).ReportsDriver := by
  have foreign : ¬ fault.kind.isLibrary = true := by
    cases fault with
    | library kind arguments detail context cause => cases native
    | foreign kind text cause => exact nofun
  have seen : Fault.matchesAny (some Adapter.driverFaults) fault = true := by
    unfold Fault.matchesAny Adapter.driverFaults
    simp only [List.any_cons, List.any_nil, Bool.or_false]
    exact native
  unfold Fault.atBoundary
  rw [if_neg foreign, if_pos seen]
  exact ⟨rfl, fault, rfl, native⟩

theorem mapDriverFault_keeps (message : String) {operation : Operation (Gateway α) β}
    (keeps : (boundary fun fault => fault.kind.isNative = true).Keeps ensures operation) :
    reporting.Keeps ensures (operation.mapFault (driverFault message)) :=
  keeps.mapFault rfl rfl (fun _ => driverFault_reports message) (driverFault_tame message)

theorem atBoundary_keeps (detail : String) {operation : Operation (Gateway α) β}
    (keeps : (boundary fun fault => fault.kind.isNative = true).Keeps ensures operation) :
    reporting.Keeps ensures (operation.atBoundary detail (some Adapter.driverFaults)) :=
  keeps.mapFault rfl rfl (fun _ => atBoundary_reports detail) (atBoundary_tame detail _)

/-! ## Connections -/

theorem announceConnected_keeps (params : ConnectionParams) (handle : Handle) :
    (boundary shows).Keeps (fun _ => True)
      (announceConnected params handle : Operation (Gateway α) Unit) := by
  unfold announceConnected
  split
  · exact .pure trivial
  · exact write_keeps _ _ _ _

theorem attach_keeps (id : Nat) (connection : Native.Connection) (adapter : Adapter) :
    (boundary shows).Keeps (fun _ => True)
      (attach id connection adapter : Operation (Gateway α) Handle) := by
  intro gateway ready
  refine ⟨⟨⟨ready.driver.responses, ready.driver.failures⟩, fun other => ?_⟩, trivial,
    .of_same rfl⟩
  let counted : Gateway α := { gateway with handleCount := gateway.handleCount + 1 }
  let handle : Handle := ⟨gateway.handleCount + 1, connection, adapter, .null⟩
  change ((counted.setEntry id { counted.entry id with handle := some handle }).entry
    other).hooks = []
  rw [entry_setEntry]
  split
  · exact ready.unhooked id
  · exact ready.unhooked other

theorem connect_keeps (id : Nat) :
    reporting.Keeps (fun _ => True) (connect id : Operation (Gateway α) Handle) := by
  refine .bind (entryAt_keeps id) fun entry _ => ?_
  split
  · exact .pure trivial
  · refine .bind (.ofTame (Adapter.ofDialect_tame _)) fun adapter _ => ?_
    refine .bind (.ofTame (adapter.resolveOptions_tame _)) fun options _ => ?_
    refine .bind .get fun _ _ => ?_
    refine .bind (.ofTame (Adapter.importDriver_tame _ _ _)) fun _ _ => ?_
    have opens := onDriver_keeps (α := α) (adapter.openConnection_keeps entry.params options)
    refine .bind (mapDriverFault_keeps _ opens) fun connection _ => ?_
    refine .bind (attach_keeps id connection adapter) fun handle _ => ?_
    refine .bind (announceConnected_keeps _ handle) fun _ _ => ?_
    exact .pure trivial

theorem disconnect_keeps (id : Nat) (tracker : Option Scope) :
    reporting.Keeps (fun _ => True) (disconnect id tracker : Operation (Gateway α) Unit) := by
  refine .bind (entryAt_keeps id) fun entry _ => ?_
  split
  · exact .pure trivial
  · rename_i handle _
    have closes : reporting.Keeps (fun _ => True)
        (closeDropped handle : Operation (Gateway α) Unit) :=
      .bind (mapDriverFault_keeps _ (onDriver_keeps (Native.callAt_keeps _ _))) fun _ _ =>
        write_keeps _ _ _ _
    refine .bind (changeEntry_keeps id fun _ => rfl) fun _ _ => ?_
    simp only
    cases tracker with
    | none => exact closes
    | some scope =>
        exact .bind (modify_keeps (fun _ => rfl) fun _ unhooked => unhooked) fun _ _ => closes

end Gateway

namespace Session

variable {α σ β : Type} {shows : Fault → Prop} {ensures : β → Prop}

/-- The boundary around a session that shows failures of the driver in certain faults. -/
def boundary (shows : Fault → Prop) : Boundary (Session α σ) where
  ready session := session.gateway.FailsNatively
  harmless := Session.Adds Native.Event.IsHarmless
  shows := shows

/-- The boundary around the library, for sessions. -/
def reporting : Boundary (Session α σ) := boundary Fault.ReportsDriver

/-- The boundary where faults of the driver are passed on, for sessions. -/
def passing : Boundary (Session α σ) := boundary Fault.PassesDriver

instance : IsPreorder (Session α σ) reporting.harmless :=
  inferInstanceAs (IsPreorder (Session α σ) (Session.Adds Native.Event.IsHarmless))

instance : IsPreorder (Session α σ) passing.harmless :=
  inferInstanceAs (IsPreorder (Session α σ) (Session.Adds Native.Event.IsHarmless))

theorem passes_of_reports {operation : Operation (Session α σ) β}
    (keeps : reporting.Keeps ensures operation) : passing.Keeps ensures operation :=
  keeps.widen rfl rfl fun _ => Or.inl

theorem library_keeps_boundary {operation : Operation (Gateway α) β}
    (keeps : (Gateway.boundary shows).Keeps ensures operation) :
    (boundary shows).Keeps ensures (library operation : Operation (Session α σ) β) :=
  .within keeps (fun _ ready => ready) (fun _ _ _ left => left) (fun _ _ harmless => harmless) rfl

theorem library_keeps {operation : Operation (Gateway α) β}
    (keeps : Gateway.reporting.Keeps ensures operation) :
    reporting.Keeps ensures (library operation : Operation (Session α σ) β) :=
  library_keeps_boundary keeps

end Session

namespace Database

variable {α σ β : Type}

open Session (library)
open Gateway (boundary onDriver_keeps)

/-! ## Transactions -/

theorem perform_keeps (action : Action) (database : Database) :
    Gateway.reporting.Keeps (fun _ => True)
      (action.perform database : Operation (Gateway α) Unit) := by
  have notices (message : Option String) : Gateway.reporting.Keeps (fun _ => True)
      (writeNotice message : Operation (Gateway α) Unit) := by
    cases message with
    | none => exact .pure trivial
    | some message => exact Gateway.write_keeps _ _ _ _
  have replaces (tracker : Tracker) : Gateway.reporting.Keeps (fun _ => True)
      (database.setTracker tracker : Operation (Gateway α) Unit) :=
    Gateway.modify_keeps (fun _ => rfl) fun _ unhooked => unhooked
  have carries (handle : Handle) (plan : Transaction.Plan) :
      Gateway.reporting.Keeps (fun _ => True)
        (database.carryOut handle plan : Operation (Gateway α) Unit) := by
    refine .bind (notices _) fun _ _ => ?_
    have ends : Gateway.reporting.Keeps (fun _ => True) (do
        database.setTracker plan.succeeded
        writeNotice plan.confirmation : Operation (Gateway α) Unit) :=
      .bind (replaces _) fun _ _ => notices _
    simp only
    split
    · exact .bind (replaces _) fun _ _ =>
        .bind (Gateway.atBoundary_keeps _ (onDriver_keeps (Adapter.transact_keeps _ _ _)))
          fun _ _ => ends
    · exact ends
  have moves {plan : Tracker → Nat → Except Fault Transaction.Plan}
      (tame : forall tracker id, Tame (plan tracker id)) :
      Gateway.reporting.Keeps (fun _ => True)
        (database.move plan : Operation (Gateway α) Unit) := by
    refine .bind (Gateway.connect_keeps _) fun handle _ => ?_
    refine .bind .get fun gateway _ => ?_
    refine .bind (.ofTame (tame _ _)) fun plan _ => ?_
    exact carries handle plan
  cases action with
  | begin =>
      exact .bind (Gateway.entryAt_keeps _) fun entry _ =>
        moves fun tracker id => tracker.begin_tame id entry.nestable
  | commit => exact moves fun tracker id => tracker.commit_tame id
  | rollback => exact moves fun tracker id => tracker.rollback_tame id

theorem lastInsertId_keeps (database : Database) :
    Gateway.reporting.Keeps (fun _ => True)
      (database.lastInsertId : Operation (Gateway α) Int) :=
  .bind (Gateway.connect_keeps _) fun handle _ =>
    Gateway.atBoundary_keeps _ (onDriver_keeps (handle.adapter.lastInsertId_keeps _ _))

end Database

/-! ## Results -/

namespace Native.Cursor

variable {cursor : Cursor} (native : cursor.response.FailsNatively)
include native

theorem fetchRow_isNative {fault : Fault} (fails : cursor.fetchRow.1 = .error fault) :
    fault.kind.isNative = true := by
  unfold fetchRow at fails
  split at fails
  · cases fails
  · cases fails
    exact native.fetchError _ ‹_›
  · cases fails

theorem fetchRows_isNative {fault : Fault} (fails : cursor.fetchRows.1 = .error fault) :
    fault.kind.isNative = true := by
  unfold fetchRows at fails
  split at fails
  · cases fails
    exact native.fetchError _ ‹_›
  · cases fails

theorem withRows_failsNatively {rows : List (List Value)}
    (left : forall row, row ∈ rows -> row ∈ cursor.response.rows) :
    (cursor.withRows rows).response.FailsNatively :=
  ⟨native.error, native.fetchError, native.closeError,
    fun row fault member => native.rows row fault (left row member)⟩

theorem fetchRow_failsNatively : cursor.fetchRow.2.response.FailsNatively := by
  unfold fetchRow
  split
  · rename_i row rest same
    refine withRows_failsNatively native fun other member => ?_
    rw [same]
    exact List.mem_cons_of_mem row member
  · exact native
  · exact native

theorem fetchRows_failsNatively : cursor.fetchRows.2.response.FailsNatively := by
  unfold fetchRows
  split
  · exact native
  · exact withRows_failsNatively native nofun

/-- What cannot be read in a row that was fetched fails with a fault of the driver. -/
theorem fetchRow_unread {row : List Value} (fetched : cursor.fetchRow.1 = .ok (some row))
    (fault : Fault) (member : .locator (.error fault) ∈ row) : fault.kind.isNative = true := by
  unfold fetchRow at fetched
  split at fetched
  · rename_i rest same
    cases fetched
    refine native.rows row fault ?_ member
    rw [same]
    exact List.mem_cons_self
  · cases fetched
  · cases fetched

theorem fetchRows_unread {rows : List (List Value)} (fetched : cursor.fetchRows.1 = .ok rows)
    (row : List Value) (fault : Fault) (listed : row ∈ rows)
    (member : .locator (.error fault) ∈ row) : fault.kind.isNative = true := by
  unfold fetchRows at fetched
  split at fetched
  · cases fetched
  · cases fetched
    exact native.rows row fault listed member

end Native.Cursor

namespace QueryResult

/-- A result whose cursor fails with faults of the driver only. -/
structure FailsNatively (result : QueryResult) : Prop where
  response : result.cursor.response.FailsNatively
  driverFaults : result.driverFaults = some Adapter.driverFaults

variable {result : QueryResult}

/-- What a fetch comes to: a fault of the driver is reported, unless it is one of a large object that
cannot be read, and the driver has no part in any other. -/
theorem fetched_faults (native : result.FailsNatively) {α β : Type} (detail : String)
    {outcome : Except Fault α} {next : α → Except Fault β}
    (fetches : forall fault, outcome = .error fault -> fault.kind.isNative = true)
    (reads : forall value, outcome = .ok value -> FailsOnly LetsThrough (next value)) (fault : Fault)
    (fails : (result.fetched detail outcome >>= next) = .error fault) :
    fault.PassesDriver ∨ fault.involvesDriver = false := by
  cases outcome with
  | error reason =>
      have reported := Gateway.atBoundary_reports detail (fetches reason rfl)
      rw [← native.driverFaults] at reported
      cases fails
      exact Or.inl (Or.inl reported)
  | ok value => exact (reads value rfl fault fails).imp Or.inr id

theorem fetchRow?_faults (native : result.FailsNatively) (mode : FetchMode) (fault : Fault)
    (fails : (result.fetchRow? mode).1 = .error fault) :
    fault.PassesDriver ∨ fault.involvesDriver = false := by
  unfold fetchRow? at fails
  split at fails
  · cases fails
  · refine fetched_faults native _ (fun _ => Native.Cursor.fetchRow_isNative native.response)
      (fun row fetched => ?_) fault fails
    cases row with
    | none => exact .ok _
    | some row =>
        have unread := Native.Cursor.fetchRow_unread native.response fetched
        exact .bind (readRow_letsThrough result mode unread) fun _ => .ok _

/-- To fetch a row fails as to fetch a row that may be missing. -/
theorem fetchRow_eq_error_iff_fetchRow? (mode : FetchMode) (fault : Fault) :
    (result.fetchRow mode).1 = .error fault ↔ (result.fetchRow? mode).1 = .error fault := by
  have reached : (result.fetchRow mode).1 =
      (result.fetchRow? mode).1.map fun row => row.getD .null :=
    rfl
  rw [reached]
  cases (result.fetchRow? mode).1 with
  | error reason => exact ⟨fun fails => by cases fails; rfl, fun fails => by cases fails; rfl⟩
  | ok row => exact ⟨nofun, nofun⟩

theorem fetchRow_faults (native : result.FailsNatively) (mode : FetchMode) (fault : Fault)
    (fails : (result.fetchRow mode).1 = .error fault) :
    fault.PassesDriver ∨ fault.involvesDriver = false :=
  fetchRow?_faults native mode fault ((fetchRow_eq_error_iff_fetchRow? mode fault).mp fails)

theorem fetchAll_faults (native : result.FailsNatively) (mode : FetchMode) (fault : Fault)
    (fails : (result.fetchAll mode).1 = .error fault) :
    fault.PassesDriver ∨ fault.involvesDriver = false := by
  unfold fetchAll at fails
  split at fails
  · cases fails
  · refine fetched_faults native _ (fun _ => Native.Cursor.fetchRows_isNative native.response)
      (fun rows fetched => ?_) fault fails
    exact readRows_letsThrough result mode
      (Native.Cursor.fetchRows_unread native.response fetched)

/-- What is left of a result after a fetch. -/
theorem fetchRow_failsNatively (native : result.FailsNatively) (mode : FetchMode) :
    (result.fetchRow mode).2.FailsNatively := by
  have reached : (result.fetchRow mode).2 = (result.fetchRow? mode).2 := rfl
  rw [reached, fetchRow?]
  split
  · exact native
  · exact ⟨Native.Cursor.fetchRow_failsNatively native.response, native.driverFaults⟩

theorem fetchAll_failsNatively (native : result.FailsNatively) (mode : FetchMode) :
    (result.fetchAll mode).2.FailsNatively := by
  unfold fetchAll
  split
  · exact native
  · exact ⟨Native.Cursor.fetchRows_failsNatively native.response, native.driverFaults⟩

end QueryResult

namespace Database

variable {α σ β : Type}

open Session (library reporting passing library_keeps passes_of_reports)
open Gateway (onDriver_keeps)

/-! ## Queries -/

theorem runStatement_keeps (database : Database) (handle : Handle) (sql : String)
    (parameters : List Value) :
    Gateway.reporting.Keeps (fun cursor => cursor.response.FailsNatively)
      (database.runStatement handle sql parameters : Operation (Gateway α) Native.Cursor) := by
  refine Gateway.atBoundary_keeps _ <|
    .bind (onDriver_keeps (Adapter.execute_keeps _ _ _)) fun cursor native =>
    .bind (Gateway.changeEntry_keeps _ ?_) fun _ _ =>
    .bind (.bind .get fun _ _ => .pure trivial) fun _ (_ : True) =>
    .bind (onDriver_keeps (Adapter.afterExecute_keeps _ _ _)) fun _ _ => .pure native
  intro entry
  split
  · split <;> rfl
  · rfl

theorem execute_keeps (runner : HookRunner α σ) (database : Database) (query : ParsedQuery)
    (values : List Value) :
    reporting.Keeps QueryResult.FailsNatively (database.execute runner query values) := by
  refine .bind (library_keeps (Gateway.connect_keeps _)) fun handle _ => ?_
  refine .bind (.ofTame (Parameter.bind_tame _ _ _)) fun parameters _ => ?_
  refine .bind (library_keeps (Gateway.entryAt_keeps _)) fun entry unhooked => ?_
  rw [unhooked]
  refine .bind (.pure trivial : reporting.Keeps (fun _ => True) (pure ())) fun _ _ => ?_
  refine .bind (library_keeps (Gateway.write_keeps _ _ _ _)) fun _ _ => ?_
  refine .bind (library_keeps (runStatement_keeps _ _ _ _)) fun cursor native => ?_
  refine .bind (.pure trivial : reporting.Keeps (fun _ => True) (pure ())) fun _ _ => ?_
  exact .pure ⟨native, rfl⟩

theorem query_keeps (runner : HookRunner α σ) (database : Database) (template : String)
    (values : List Value) :
    reporting.Keeps QueryResult.FailsNatively (database.query runner template values) :=
  .bind (library_keeps (.bind (Gateway.entryAt_keeps _) fun _ _ => Gateway.compile_keeps _ _ _))
    fun query _ => execute_keeps runner database query values

/-- The end of a cursor goes unnoticed, even if it fails. -/
theorem free_ok {result : QueryResult} (native : result.FailsNatively) {driver : Native.Driver}
    (ready : driver.FailsNatively) :
    exists left, result.free driver = .ok () left ∧
      (left = driver ∨ left = (Native.closeCursor result.cursor).after driver) := by
  unfold QueryResult.free
  split
  · rw [Operation.observe_bind]
    cases failed : (Native.closeCursor result.cursor).outcome driver with
    | ok value => exact ⟨_, rfl, Or.inr rfl⟩
    | error fault =>
        have shown := Native.closeCursor_shows native.response ready failed
        have ordinary : fault.kind.isOrdinary = true := by
          cases fault with
          | library kind arguments detail context cause => rfl
          | foreign kind text cause => cases kind <;> first | rfl | cases shown
        simp only [ordinary]
        exact ⟨_, rfl, Or.inr rfl⟩
  · exact ⟨driver, rfl, Or.inl rfl⟩

theorem free_keeps {result : QueryResult} (native : result.FailsNatively) :
    reporting.Keeps (fun _ => True) (free result : Operation (Session α σ) Unit) := by
  have frees : (Native.boundary Fault.ReportsDriver).Keeps (fun _ => True) result.free := by
    intro driver ready
    have closed : driver.Adds Native.Event.IsHarmless
        ((Native.closeCursor result.cursor).after driver) :=
      Native.closeCursor_adds (fun _ _ _ _ => ⟨_, _, rfl⟩) driver
    have left := (Native.closeCursor_keeps native.response driver ready).1
    rcases free_ok native ready with ⟨after, frees, rfl | rfl⟩
    · rw [Operation.after_of_ok frees, Operation.outcome_of_ok frees]
      exact ⟨ready, trivial, refl_of (Native.Driver.Adds _) after⟩
    · rw [Operation.after_of_ok frees, Operation.outcome_of_ok frees]
      exact ⟨left, trivial, closed⟩
  exact library_keeps (onDriver_keeps frees)

theorem outcome_free {result : QueryResult} (native : result.FailsNatively)
    {session : Session α σ} (ready : session.gateway.FailsNatively) :
    (free result : Operation (Session α σ) Unit).outcome session = .ok () := by
  rcases free_ok native ready.driver with ⟨left, frees, -⟩
  exact (Operation.outcome_within _ _ _ session).trans
    ((Operation.outcome_within _ _ _ session.gateway).trans (Operation.outcome_of_ok frees))

theorem run_keeps (runner : HookRunner α σ) (database : Database) (template : String)
    (values : List Value) :
    reporting.Keeps (fun _ => True) (database.run runner template values) :=
  .bind (query_keeps runner database template values) fun _ native => free_keeps native

theorem withQuery_keeps (runner : HookRunner α σ) (database : Database) (template : String)
    (values : List Value) (use : QueryResult → Except Fault β)
    (uses : forall result fault, result.FailsNatively -> use result = .error fault ->
      fault.PassesDriver ∨ fault.involvesDriver = false) :
    passing.Keeps (fun _ => True) (database.withQuery runner template values use) :=
  .bind (passes_of_reports (query_keeps runner database template values)) fun result native =>
    .thenAlways (.ofExcept (fun fault fails => uses result fault native fails) fun _ _ => trivial)
      (passes_of_reports (free_keeps native)) fun session fault ready fails => by
        rw [outcome_free native ready] at fails
        cases fails

/-! ## Fetch helpers -/

theorem fetchFirstRow_keeps (runner : HookRunner α σ) (database : Database) (template : String)
    (values : List Value) (mode : FetchMode) :
    passing.Keeps (fun _ => True) (database.fetchFirstRow runner template values mode) :=
  withQuery_keeps runner database template values _ fun _ fault native fails =>
    QueryResult.fetchRow_faults native mode fault fails

theorem fetchValue_keeps (runner : HookRunner α σ) (database : Database) (template : String)
    (values : List Value) :
    passing.Keeps (fun _ => True) (database.fetchValue runner template values) :=
  .bind (fetchFirstRow_keeps runner database template values .ordered) fun _ _ => .pure trivial

theorem fetchAll_keeps (runner : HookRunner α σ) (database : Database) (template : String)
    (values : List Value) (mode : Option FetchMode) (column : Value) :
    passing.Keeps (fun _ => True) (database.fetchAll runner template values mode column) :=
  .bind (.ofTame (resolveMode_tame mode column)) fun mode _ =>
    .bind (withQuery_keeps runner database template values _ fun _ fault native fails =>
      QueryResult.fetchAll_faults native mode fault fails) fun rows _ =>
    .ofTame (selectColumns_tame column rows)

/-! ## Prepared statements -/

theorem prepareOnServer_keeps (database : Database) (sql : String) :
    Gateway.reporting.Keeps (fun _ => True)
      (database.prepareOnServer sql : Operation (Gateway α) Unit) :=
  .bind (Gateway.connect_keeps _) fun _ _ =>
    Gateway.atBoundary_keeps _ (onDriver_keeps (Adapter.prepareNatively_keeps _ _ _))

/-- The check of a grammar is behind no boundary. -/
theorem checkGrammar_keeps (template : String) (dialect : Dialect) :
    Gateway.passing.Keeps (fun _ => True)
      (checkGrammar template dialect : Operation (Gateway α) Unit) := by
  refine .bind (Gateway.compile_keeps _ _ _) fun query _ => ?_
  exact (onDriver_keeps (Adapter.validate_keeps dialect query.sql)).widen rfl rfl fun _ => Or.inr

theorem prepare_keeps (database : Database) (template : String) :
    Gateway.passing.Keeps (fun _ => True)
      (database.prepare template : Operation (Gateway α) PreparedStatement) := by
  refine .bind (Gateway.entryAt_keeps _) fun entry _ =>
    .bind (Gateway.compile_keeps _ _ _) fun query _ => ?_
  simp only
  split
  · refine .bind (.ofTame (Adapter.ofDialect_tame _)) fun adapter _ => ?_
    split
    · exact .bind (Gateway.passes_of_reports (prepareOnServer_keeps database query.sql))
        fun _ _ => .pure trivial
    · exact .bind (checkGrammar_keeps template entry.params.dialect) fun _ _ => .pure trivial
  · exact .pure trivial

/-! ## Rows of single tables -/

theorem insert_keeps (runner : HookRunner α σ) (database : Database) (table : String)
    (values : List (Value × Value)) :
    reporting.Keeps (fun _ => True) (database.insert runner table values) := by
  refine .bind .get fun _ _ => ?_
  refine .bind (.ofTame (newRow_tame _ _)) fun row _ => ?_
  refine .bind (.ofTame (insertion_tame table row)) fun template _ => ?_
  refine .bind (run_keeps runner database template _) fun _ _ => ?_
  exact library_keeps (lastInsertId_keeps database)

theorem setColumns_keeps (runner : HookRunner α σ) (database : Database) (table : String)
    (values chosen : List (Value × Value)) (restriction : String) :
    reporting.Keeps (fun _ => True)
      (database.setColumns runner table values chosen restriction) :=
  .bind (.ofTame (assignments_tame _ _)) fun _ _ => run_keeps runner database _ _

theorem update_keeps (runner : HookRunner α σ) (database : Database) (table : String)
    (values : List (Value × Value)) (choice : Value) :
    passing.Keeps (fun _ => True) (database.update runner table values choice) := by
  have sets (restriction : String) := passes_of_reports
    (setColumns_keeps runner database table values (conditions choice) restriction)
  refine .bind (.ofTame (assignments_tame _ _)) fun restriction _ =>
    .bind (fetchValue_keeps runner database _ _) fun count _ => ?_
  simp only
  split
  · exact .bind (.throw rfl : passing.Keeps (fun _ => True) (throw _)) fun _ _ => sets restriction
  · exact sets restriction

theorem insertOrUpdate_keeps (runner : HookRunner α σ) (database : Database) (table : String)
    (values : List (Value × Value)) (choice : Value) :
    passing.Keeps (fun _ => True) (database.insertOrUpdate runner table values choice) := by
  refine .bind (.ofTame (assignments_tame _ _)) fun restriction _ =>
    .bind (fetchAll_keeps runner database _ _ _ _) fun keys _ => ?_
  split
  · exact .bind (passes_of_reports (insert_keeps runner database _ _)) fun _ _ => .pure trivial
  · simp only
    split
    · exact .bind (passes_of_reports (setColumns_keeps runner database _ _ _ _)) fun _ _ =>
        .pure trivial
    · exact .pure trivial

theorem deleteRows_keeps (runner : HookRunner α σ) (database : Database) (table : String)
    (choice : Value) :
    reporting.Keeps (fun _ => True) (database.deleteRows runner table choice) :=
  .bind (.ofTame (assignments_tame _ _)) fun _ _ => run_keeps runner database _ _

end Database
end SqlGateway
