import SqlGateway.Proofs.Native.Trace
import SqlGateway.Proofs.Session.Quiet

namespace SqlGateway

/-!
# Running one statement

A query compiles its template, connects the database, gives the statement its parameters,
calls the hooks and writes to the log.  In between it runs one statement, unless one of
these fails first.  All the rest is beside the connection: the database stays connected as it
was, nothing is recorded for its connection, and its transaction stays at its level.

So whatever one statement does to a connection, a query does to it, or nothing.  Hooks are the
caller's; they are assumed to keep away from the connection as well.
-/

namespace Database

/-! ## The statement -/

section Statements

variable {α : Type}

theorem depth_of_connected {database : Database} {handle : Handle} {row : Value}
    {gateway : Gateway α}
    (held : (gateway.entry database.entry).handle = some { handle with lastRowId := row }) :
    database.depth gateway = (gateway.tracker database.tracker).depth handle.id := by
  unfold depth
  rw [held]

/-- What is done after a statement that succeeded. -/
def conclude (database : Database) (handle : Handle) (cursor : Native.Cursor) :
    Operation (Gateway α) Native.Cursor := do
  database.rememberRow handle cursor.response.lastRowId
  Gateway.onDriver
    (handle.adapter.afterExecute handle.connection (← database.inTransaction handle))
  return cursor

theorem runStatement_eq (database : Database) (handle : Handle) (sql : String)
    (parameters : List Value) :
    (database.runStatement handle sql parameters : Operation (Gateway α) Native.Cursor) =
      (Gateway.onDriver (Adapter.execute handle.connection sql parameters) >>=
        database.conclude handle).atBoundary "Failed executing query" (some Adapter.driverFaults) :=
  rfl

theorem runStatement_after (database : Database) (handle : Handle) (sql : String)
    (parameters : List Value) (gateway : Gateway α) :
    (database.runStatement handle sql parameters).after gateway =
      match Adapter.execute handle.connection sql parameters gateway.driver with
      | .ok cursor left => (database.conclude handle cursor).after { gateway with driver := left }
      | .error _ left => { gateway with driver := left } := by
  let executes : Operation (Gateway α) Native.Cursor :=
    Gateway.onDriver (Adapter.execute handle.connection sql parameters)
  have run : executes gateway = Operation.result _ _ := Operation.within_eq _ _ _ gateway
  rw [runStatement_eq, Operation.atBoundary, Operation.after_mapFault, Operation.after_bind,
    Operation.outcome_of_run run, Operation.after_of_run run]
  unfold Operation.outcome Operation.after
  cases Adapter.execute handle.connection sql parameters gateway.driver <;> rfl

/-- A statement that fails on the driver fails as it is seen from outside. -/
theorem runStatement_outcome_of_error {handle : Handle} {sql : String} {parameters : List Value}
    {gateway : Gateway α} {fault : Fault} {left : Native.Driver}
    (fails : Adapter.execute handle.connection sql parameters gateway.driver = .error fault left)
    (database : Database) :
    (database.runStatement handle sql parameters).outcome gateway =
      .error (fault.atBoundary "Failed executing query" (some Adapter.driverFaults)) := by
  let executes : Operation (Gateway α) Native.Cursor :=
    Gateway.onDriver (Adapter.execute handle.connection sql parameters)
  have run : executes gateway = Operation.result _ _ := Operation.within_eq _ _ _ gateway
  rw [runStatement_eq, Operation.atBoundary, Operation.outcome_mapFault, Operation.outcome_bind,
    Operation.outcome_of_run run, Operation.outcome_of_error fails]
  rfl

/-- The row is remembered before anything else is asked of the driver. -/
theorem conclude_run (database : Database) (handle : Handle) (cursor : Native.Cursor)
    (gateway : Gateway α) :
    database.conclude handle cursor gateway =
      (Gateway.onDriver (handle.adapter.afterExecute handle.connection
        ((gateway.tracker database.tracker).isActive handle.id)) >>= fun _ => pure cursor)
        ((database.rememberRow handle cursor.response.lastRowId).after gateway) :=
  rfl

theorem conclude_after (database : Database) (handle : Handle) (cursor : Native.Cursor)
    (gateway : Gateway α) :
    (database.conclude handle cursor).after gateway =
      { (database.rememberRow handle cursor.response.lastRowId).after gateway with
        driver := (handle.adapter.afterExecute handle.connection
          ((gateway.tracker database.tracker).isActive handle.id)).after gateway.driver } := by
  rw [Operation.after, conclude_run]
  exact (Operation.after_bind_pure _ _ _).trans (Operation.after_within _ _ _ _)

/-- The cursor is given unless what is asked of the driver fails. -/
theorem conclude_outcome (database : Database) (handle : Handle) (cursor : Native.Cursor)
    (gateway : Gateway α) :
    (database.conclude handle cursor).outcome gateway =
      ((handle.adapter.afterExecute handle.connection
        ((gateway.tracker database.tracker).isActive handle.id)).outcome gateway.driver).map
          fun _ => cursor := by
  let remembered := (database.rememberRow handle cursor.response.lastRowId).after gateway
  let ends : Operation (Gateway α) Unit := Gateway.onDriver
    (handle.adapter.afterExecute handle.connection
      ((gateway.tracker database.tracker).isActive handle.id))
  have ended : ends.outcome remembered =
      (handle.adapter.afterExecute handle.connection
        ((gateway.tracker database.tracker).isActive handle.id)).outcome gateway.driver :=
    Operation.outcome_within _ _ _ remembered
  have reached : (database.conclude handle cursor).outcome gateway =
      (ends >>= fun _ => pure cursor).outcome remembered :=
    rfl
  rw [reached, Operation.outcome_bind, ← ended]
  cases ends.outcome remembered <;> rfl

/-- To conclude a statement fails exactly as what is asked of the driver fails. -/
theorem conclude_failure (database : Database) (handle : Handle) (cursor : Native.Cursor)
    (gateway : Gateway α) :
    Operation.failure? ((database.conclude handle cursor).outcome gateway) =
      Operation.failure? ((handle.adapter.afterExecute handle.connection
        ((gateway.tracker database.tracker).isActive handle.id)).outcome gateway.driver) := by
  rw [conclude_outcome]
  cases (handle.adapter.afterExecute handle.connection
    ((gateway.tracker database.tracker).isActive handle.id)).outcome gateway.driver <;> rfl

theorem rememberRow_handle {database : Database} {current : Handle} {gateway : Gateway α}
    (held : (gateway.entry database.entry).handle = some current) (handle : Handle)
    (lastRowId : Value) :
    exists row, (((database.rememberRow handle lastRowId).after gateway).entry
      database.entry).handle = some { current with lastRowId := row } := by
  have changed (change : Entry α → Entry α) :
      ((Gateway.changeEntry database.entry change).after gateway).entry database.entry =
        change (gateway.entry database.entry) :=
    (Gateway.entry_setEntry gateway _ _ _).trans (if_pos rfl)
  unfold rememberRow
  rw [changed, held]
  simp only
  split
  · exact ⟨lastRowId, rfl⟩
  · exact ⟨current.lastRowId, held⟩

end Statements

/-! ## Beside the connection -/

/-- Between two states a connected database kept its connection and its transaction, and
nothing happened on the connection. -/
def Apart {α : Type} (database : Database) (before after : Gateway α) : Prop :=
  forall handle, (before.entry database.entry).handle = some handle ->
    (exists row,
      (after.entry database.entry).handle = some { handle with lastRowId := row }) ∧
    database.depth after = database.depth before ∧
    after.driver.recordOf handle.connection = before.driver.recordOf handle.connection ∧
    after.driver.isActive handle.connection = before.driver.isActive handle.connection

/-- The same for the sessions around the states. -/
def SessionApart {α σ : Type} (database : Database) (before after : Session α σ) : Prop :=
  database.Apart before.gateway after.gateway

section Beside

variable {α σ β : Type} {database : Database}

instance : IsPreorder (Gateway α) database.Apart where
  refl gateway handle held := ⟨⟨handle.lastRowId, held⟩, rfl, rfl, rfl⟩
  trans before middle after first second handle held := by
    rcases first handle held with ⟨⟨row, kept⟩, depth, record, active⟩
    rcases second _ kept with ⟨stillKept, stillDepth, stillRecord, stillActive⟩
    exact ⟨stillKept, stillDepth.trans depth, stillRecord.trans record,
      stillActive.trans active⟩

instance : IsPreorder (Session α σ) database.SessionApart where
  refl session := refl_of database.Apart session.gateway
  trans _ _ _ first second := trans_of database.Apart first second

theorem apart_of_untouched {before after : Gateway α} (untouched : Gateway.Untouched before after)
    (driver : after.driver = before.driver) : database.Apart before after := by
  intro handle held
  unfold depth
  rw [untouched.entry, untouched.tracker, driver]
  exact ⟨⟨handle.lastRowId, held⟩, rfl, rfl, rfl⟩

theorem library_apart {operation : Operation (Gateway α) β}
    (apart : operation.Respects database.Apart) :
    (Session.library operation : Operation (Session α σ) β).Respects database.SessionApart :=
  Operation.Respects.within apart fun _ _ kept => kept

theorem write_apart (level : Logging.Level) (part message : String)
    (fields : Option (List (String × Value))) :
    (Gateway.write level part message fields : Operation (Gateway α) Unit).Respects
      database.Apart :=
  fun gateway => apart_of_untouched (Gateway.write_untouched level part message fields gateway) rfl

theorem compile_apart (template : String) :
    (database.compile template : Operation (Gateway α) ParsedQuery).Respects database.Apart :=
  .bind (.bind .get fun _ => .pure _) fun _ gateway =>
    apart_of_untouched (Gateway.compile_untouched _ _ _ gateway) (Gateway.compile_driver _ _ _ _)

theorem runHooks_apart {runner : HookRunner α σ}
    (hooks : forall name phase callback sql,
      (runner name phase callback sql).Respects database.SessionApart)
    (phase : Native.HookPhase) (sql : String) (registered : List (Hook α)) :
    (runHooks runner phase sql registered).Respects database.SessionApart :=
  runHooks_respects (fun _ _ _ _ => library_apart (write_apart _ _ _ _)) (fun _ _ => hooks _ _ _ _)
    registered

/-! ## Queries -/

/-- An operation leaves the connection of a handle alone, but that it may run one statement
on it. -/
def RunsAtMostOne (database : Database) (handle : Handle)
    (operation : Operation (Session α σ) β) (session : Session α σ) : Prop :=
  database.SessionApart session (operation.after session) ∨
  exists sql parameters middle, database.Apart session.gateway middle ∧
    database.Apart ((database.runStatement handle sql parameters).after middle)
      (operation.after session).gateway

section Running

variable {γ : Type} {handle : Handle} {session : Session α σ}

theorem RunsAtMostOne.of_bind {first : Operation (Session α σ) γ}
    {next : γ → Operation (Session α σ) β} (apart : first.Respects database.SessionApart)
    (runs : forall value, first.outcome session = .ok value ->
      database.RunsAtMostOne handle (next value) (first.after session)) :
    database.RunsAtMostOne handle (first >>= next) session := by
  have reached := apart session
  unfold RunsAtMostOne
  rw [Operation.after_bind]
  cases found : first.outcome session with
  | error fault => exact Or.inl reached
  | ok value =>
      rcases runs value found with kept | ⟨sql, parameters, middle, kept, rest⟩
      · exact Or.inl (trans_of database.SessionApart reached kept)
      · exact Or.inr ⟨sql, parameters, middle, trans_of database.Apart reached kept, rest⟩

theorem RunsAtMostOne.bind {first : Operation (Session α σ) γ}
    {next : γ → Operation (Session α σ) β}
    (runs : database.RunsAtMostOne handle first session)
    (apart : forall value, (next value).Respects database.SessionApart) :
    database.RunsAtMostOne handle (first >>= next) session := by
  unfold RunsAtMostOne
  rw [Operation.after_bind]
  cases first.outcome session with
  | error fault => exact runs
  | ok value =>
      have rest := apart value (first.after session)
      rcases runs with kept | ⟨sql, parameters, middle, kept, ran⟩
      · exact Or.inl (trans_of database.SessionApart kept rest)
      · exact Or.inr ⟨sql, parameters, middle, kept, trans_of database.Apart ran rest⟩

theorem runStatement_runs (sql : String) (parameters : List Value) :
    database.RunsAtMostOne handle
      (Session.library (database.runStatement handle sql parameters)) session := by
  refine Or.inr ⟨sql, parameters, session.gateway, refl_of database.Apart _, ?_⟩
  rw [Session.gateway_library]
  exact refl_of database.Apart _

theorem handle_apart : (database.handle : Operation (Gateway α) Handle).Respects database.Apart := by
  intro gateway handle held
  have same : (database.handle : Operation (Gateway α) Handle).after gateway = gateway := by
    rw [Operation.after, Database.handle, Gateway.connect_of_connected held]
  rw [same]
  exact refl_of database.Apart gateway handle held

variable {runner : HookRunner α σ}
  (hooks : forall name phase callback sql,
    (runner name phase callback sql).Respects database.SessionApart)
include hooks

theorem execute_runs (held : (session.gateway.entry database.entry).handle = some handle)
    (query : ParsedQuery) (values : List Value) :
    database.RunsAtMostOne handle (database.execute runner query values) session := by
  refine .of_bind (library_apart handle_apart) fun given found => ?_
  rw [Session.outcome_library, Operation.outcome, Database.handle,
    Gateway.connect_of_connected held] at found
  cases found
  refine .of_bind (.ofExcept _) fun parameters _ => ?_
  refine .of_bind (library_apart (.bind .get fun _ => .pure _)) fun entry _ => ?_
  refine .of_bind (runHooks_apart hooks _ _ _) fun _ _ => ?_
  refine .of_bind (library_apart (write_apart _ _ _ _)) fun _ _ => ?_
  refine .bind (runStatement_runs _ _) fun cursor => ?_
  refine .bind (runHooks_apart hooks _ _ _) fun _ => ?_
  exact .pure _

/-- A query runs at most one statement, with the handle that the database has by then. -/
theorem query_runs (held : (session.gateway.entry database.entry).handle = some handle)
    (template : String) (values : List Value) :
    exists row, database.RunsAtMostOne { handle with lastRowId := row }
      (database.query runner template values) session := by
  have compiles : (Session.library (database.compile template) :
      Operation (Session α σ) ParsedQuery).Respects database.SessionApart :=
    library_apart (compile_apart template)
  rcases compiles session handle held with ⟨⟨row, stillHeld⟩, -⟩
  exact ⟨row, .of_bind compiles fun query _ => execute_runs hooks stillHeld query values⟩

end Running

end Beside

end Database
end SqlGateway
