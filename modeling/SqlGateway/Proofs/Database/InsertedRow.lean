import SqlGateway.Proofs.Database.ServiceRun
import SqlGateway.Proofs.Database.Serving

namespace SqlGateway

/-!
# The row that an insertion reports

The drivers of Firebird and Oracle say of every statement which row it inserted, and there is no
query to ask for it.  So the connection remembers what was said last, and an insertion reads the
number of its row from there when its statement has been sent and the callbacks of the hooks have
run.  A callback may run queries of its own on the same database, whose callbacks may do the same.
Each statement of theirs that succeeds is remembered in place of the one before it.

An insertion therefore reports what was said of the last statement that succeeded from its own on.
This is the row that it inserted if no query of a callback succeeds after its statement.
-/

namespace Native

/-! ## What was said of the row inserted last -/

/-- What is remembered of a row after the next statements: each one that succeeds replaces it. -/
def Driver.rowAfter (driver : Driver) (row : Value) : Nat → Value
  | 0 => row
  | count + 1 =>
    match (driver.answer count).error with
    | none => (driver.answer count).lastRowId
    | some _ => driver.rowAfter row count

/-- Of the next statements, the one at a place succeeds, and none after it does. -/
structure Driver.SucceedsLast (driver : Driver) (count place : Nat) : Prop where
  inside : place < count
  succeeds : (driver.answer place).error = none
  last : forall later, place < later -> later < count -> (driver.answer later).error ≠ none

/-- Of the next statements, one is wanted and succeeds. -/
def Driver.Grants (driver : Driver) (wanted : String × Option (List Value) → Prop)
    (asked : List (String × Option (List Value))) : Prop :=
  exists earlier statement later, asked = earlier ++ statement :: later ∧ wanted statement ∧
    (driver.answer earlier.length).error = none

section Remembering

variable {driver before after : Driver} {row : Value} {count place : Nat}
  {wanted : String × Option (List Value) → Prop}
  {first asked others : List (String × Option (List Value))}

theorem Driver.rowAfter_succ_of_success (succeeds : (driver.answer count).error = none) :
    driver.rowAfter row (count + 1) = (driver.answer count).lastRowId := by
  rw [Driver.rowAfter, succeeds]

theorem Driver.rowAfter_succ_of_failure (fails : (driver.answer count).error ≠ none) :
    driver.rowAfter row (count + 1) = driver.rowAfter row count := by
  rw [Driver.rowAfter]
  cases found : (driver.answer count).error with
  | none => exact absurd found fails
  | some fault => rfl

/-- What is remembered after some statements goes on from what was remembered before them. -/
theorem Driver.Answers.rowAfter (answers : Driver.Answers first before after) (row : Value)
    (count : Nat) :
    after.rowAfter (before.rowAfter row first.length) count =
      before.rowAfter row (first.length + count) := by
  induction count with
  | zero => rfl
  | succ count inductionHypothesis =>
      rw [Driver.rowAfter, answers.answer, inductionHypothesis, ← Nat.add_assoc, Driver.rowAfter]

/-- If one of the next statements succeeds, then the last one that does is remembered. -/
theorem Driver.rowAfter_of_success (row : Value) (inside : place < count)
    (succeeds : (driver.answer place).error = none) :
    exists last, place ≤ last ∧ driver.SucceedsLast count last ∧
      driver.rowAfter row count = (driver.answer last).lastRowId := by
  induction count with
  | zero => cases inside
  | succ count inductionHypothesis =>
      by_cases fine : (driver.answer count).error = none
      · refine ⟨count, Nat.le_of_lt_succ inside, ⟨Nat.lt_succ_self count, fine, ?_⟩,
          rowAfter_succ_of_success fine⟩
        exact fun later above below => absurd (Nat.le_of_lt_succ below) (Nat.not_le_of_lt above)
      · have earlier : place < count := by
          refine Nat.lt_of_le_of_ne (Nat.le_of_lt_succ inside) ?_
          rintro rfl
          exact fine succeeds
        rcases inductionHypothesis earlier with ⟨last, above, succeedsLast, remembered⟩
        refine ⟨last, above, ⟨Nat.lt_succ_of_lt succeedsLast.inside, succeedsLast.succeeds, ?_⟩,
          (rowAfter_succ_of_failure fine).trans remembered⟩
        intro later past below
        rcases Nat.lt_succ_iff_lt_or_eq.mp below with before | rfl
        · exact succeedsLast.last later past before
        · exact fine

/-- A statement is among more of them at a later place. -/
theorem Driver.Answers.grants (answers : Driver.Answers first before after)
    (grants : after.Grants wanted asked) : before.Grants wanted (first ++ asked) := by
  rcases grants with ⟨earlier, statement, later, rfl, isWanted, succeeds⟩
  refine ⟨first ++ earlier, statement, later, (List.append_assoc _ _ _).symm, isWanted, ?_⟩
  rw [List.length_append, ← answers.answer]
  exact succeeds

theorem Driver.Grants.mono {wider : String × Option (List Value) → Prop}
    (grants : driver.Grants wanted asked)
    (implies : forall statement, wanted statement -> wider statement) :
    driver.Grants wider asked := by
  rcases grants with ⟨earlier, statement, later, same, isWanted, succeeds⟩
  exact ⟨earlier, statement, later, same, implies statement isWanted, succeeds⟩

theorem Driver.Grants.append (grants : driver.Grants wanted asked) :
    driver.Grants wanted (asked ++ others) := by
  rcases grants with ⟨earlier, statement, later, rfl, isWanted, succeeds⟩
  exact ⟨earlier, statement, later ++ others, List.append_assoc _ _ _, isWanted, succeeds⟩

end Remembering

end Native

namespace Database

open Session (library)

variable {α σ β : Type} {database : Database} {handle : Handle} {row : Value}
  {before middle after : Gateway α}

/-! ## What a connected database remembers -/

/-- The database holds a handle whose driver itself says which row was inserted last. -/
structure Reports (database : Database) (handle : Handle) (row : Value) (gateway : Gateway α) :
    Prop where
  held : (gateway.entry database.entry).handle = some { handle with lastRowId := row }
  asksNothing : handle.adapter.lastInsertQuery? = none

/-- Statements were sent, and the database holds a handle that remembers the last of them that
succeeded, or the row from before them if none did. -/
structure Remembers (database : Database) (handle : Handle) (row : Value)
    (asked : List (String × Option (List Value))) (before after : Gateway α) : Prop where
  answers : before.driver.Answers asked after.driver
  held : (after.entry database.entry).handle =
    some { handle with lastRowId := before.driver.rowAfter row asked.length }

/-- Between two states a connected database was only asked statements. -/
def Queried (database : Database) (before after : Gateway α) : Prop :=
  forall handle row, database.Reports handle row before ->
    exists asked, database.Remembers handle row asked before after

/-- The same for the sessions around the states. -/
def SessionQueried (database : Database) (before after : Session α σ) : Prop :=
  database.Queried before.gateway after.gateway

theorem Remembers.reports {asked : List (String × Option (List Value))}
    (remembers : database.Remembers handle row asked before after)
    (reports : database.Reports handle row before) :
    database.Reports handle (before.driver.rowAfter row asked.length) after :=
  ⟨remembers.held, reports.asksNothing⟩

/-- What the later statements make of a row goes on from what the earlier ones made of it. -/
theorem Remembers.trans {first second : List (String × Option (List Value))}
    (remembers : database.Remembers handle row first before middle)
    (others : database.Remembers handle (before.driver.rowAfter row first.length) second
      middle after) :
    database.Remembers handle row (first ++ second) before after where
  answers := remembers.answers.trans others.answers
  held := by
    rw [others.held, List.length_append, ← remembers.answers.rowAfter]

/-- What sent nothing before the first statement changes nothing of what is remembered. -/
theorem Remembers.of_silent {asked : List (String × Option (List Value))}
    (silent : before.driver.Answers [] middle.driver)
    (remembers : database.Remembers handle row asked middle after) :
    database.Remembers handle row asked before after where
  answers := silent.trans remembers.answers
  held := by
    have same := silent.rowAfter row asked.length
    rw [List.length_nil, Nat.zero_add] at same
    rw [remembers.held, ← same]
    rfl

theorem Kept.queried (kept : database.Kept before after) : database.Queried before after :=
  fun _ _ reports => ⟨[], kept.answers, kept.handle _ reports.held⟩

instance : IsPreorder (Gateway α) database.Queried where
  refl gateway := (refl_of database.Kept gateway).queried
  trans _ _ _ first second handle row reports := by
    rcases first handle row reports with ⟨asked, remembers⟩
    rcases second handle _ (remembers.reports reports) with ⟨others, stillRemembers⟩
    exact ⟨asked ++ others, remembers.trans stillRemembers⟩

instance : IsPreorder (Session α σ) database.SessionQueried where
  refl session := refl_of database.Queried session.gateway
  trans _ _ _ first second := trans_of database.Queried first second

theorem library_queried {operation : Operation (Gateway α) β}
    (queried : operation.Respects database.Queried) :
    (library operation : Operation (Session α σ) β).Respects database.SessionQueried :=
  Operation.Respects.within queried fun _ _ known => known

theorem kept_queried {operation : Operation (Gateway α) β}
    (kept : operation.Respects database.Kept) :
    (library operation : Operation (Session α σ) β).Respects database.SessionQueried :=
  library_queried (kept.mono fun _ _ kept => kept.queried)

theorem write_kept (level : Logging.Level) (part message : String)
    (fields : Option (List (String × Value))) :
    (Gateway.write level part message fields : Operation (Gateway α) Unit).Respects
      database.Kept :=
  fun _ => kept_of_same rfl rfl rfl

/-- Compiling a template leaves the entries and the driver as they are. -/
theorem compile_same (database : Database) (template : String) (gateway : Gateway α) :
    Gateway.Untouched gateway ((database.compile template).after gateway) ∧
      ((database.compile template).after gateway).driver = gateway.driver :=
  ⟨Gateway.compile_untouched template _ none gateway, Gateway.compile_driver template _ none gateway⟩

theorem compile_queried (template : String) :
    (database.compile template : Operation (Gateway α) ParsedQuery).Respects
      database.Queried := by
  intro gateway handle row reports
  rcases database.compile_same template gateway with ⟨untouched, driver⟩
  refine ⟨[], ?_, ?_⟩
  · rw [driver]
    exact refl_of (Native.Driver.Answers []) gateway.driver
  · rw [untouched.entry]
    exact reports.held

/-- A connected database has its handle at hand. -/
theorem handle_queried :
    (database.handle : Operation (Gateway α) Handle).Respects database.Queried := by
  intro gateway handle row reports
  rw [Database.handle, Operation.after_of_ok (Gateway.connect_of_connected reports.held)]
  exact refl_of database.Queried gateway handle row reports

theorem free_kept (result : QueryResult) :
    (Gateway.onDriver result.free : Operation (Gateway α) Unit).Respects database.Kept :=
  .within (Native.free_answers result) fun _ _ answers => kept_of_driver answers

/-! ## Statements of a connected database -/

/-- A statement is sent on the handle that the database holds, unless there is no cursor for it.
What is said of the row is remembered if it succeeds, also if the commit after it fails. -/
theorem runStatement_remembers (reports : database.Reports handle row before) (sql : String)
    (parameters : List Value) :
    exists asked,
      database.Remembers handle row asked before
        ((database.runStatement handle sql parameters).after before) ∧
      forall cursor, (database.runStatement handle sql parameters).outcome before = .ok cursor ->
        asked = [(sql, some parameters)] ∧ (before.driver.answer 0).error = none := by
  rw [runStatement_after]
  rcases Native.executeAnew_answered handle.connection sql parameters before.driver with
    ⟨fault, left, fails, silent⟩ | ⟨fault, left, fails, answered, sent⟩ |
    ⟨cursor, left, succeeds, answered, given, sent⟩
  · rw [runStatement_outcome_of_error fails, fails]
    exact ⟨[], ⟨silent, reports.held⟩, nofun⟩
  · rw [runStatement_outcome_of_error fails, fails]
    have failed : (before.driver.answer 0).error ≠ none := by
      rw [answered]
      exact nofun
    refine ⟨[(sql, some parameters)], ⟨sent, ?_⟩, nofun⟩
    rw [List.length_singleton, Native.Driver.rowAfter_succ_of_failure failed]
    exact reports.held
  · let executed : Gateway α := { before with driver := left }
    have held : (executed.entry database.entry).handle =
        some { handle with lastRowId := row } :=
      reports.held
    have remembered : (database.rememberRow handle (before.driver.answer 0).lastRowId).after
        executed = _ :=
      rememberRow_eq held _
    rw [succeeds]
    simp only
    rw [conclude_after, given, remembered]
    refine ⟨[(sql, some parameters)],
      ⟨sent.trans (Native.afterExecute_answers _ _ _ _), ?_⟩, fun _ _ => ⟨rfl, answered⟩⟩
    rw [List.length_singleton, Native.Driver.rowAfter_succ_of_success answered]
    exact congrArg Entry.handle ((Gateway.entry_setEntry executed _ _ _).trans (if_pos rfl))

/-- An operation only asks statements.  If it succeeds, then one of them was wanted and
succeeded. -/
def Obtains (database : Database) (handle : Handle) (row : Value)
    (wanted : String × Option (List Value) → Prop) (operation : Operation (Session α σ) β)
    (session : Session α σ) : Prop :=
  exists asked,
    database.Remembers handle row asked session.gateway (operation.after session).gateway ∧
    forall value, operation.outcome session = .ok value ->
      session.gateway.driver.Grants wanted asked

section Obtaining

variable {γ : Type} {session : Session α σ} {wanted : String × Option (List Value) → Prop}
  (reports : database.Reports handle row session.gateway)
include reports

theorem Obtains.of_bind {first : Operation (Session α σ) γ}
    {next : γ → Operation (Session α σ) β} (queried : first.Respects database.SessionQueried)
    (rest : forall value row, first.outcome session = .ok value ->
      database.Reports handle row (first.after session).gateway ->
      database.Obtains handle row wanted (next value) (first.after session)) :
    database.Obtains handle row wanted (first >>= next) session := by
  rcases queried session handle row reports with ⟨asked, remembers⟩
  unfold Obtains
  rw [Operation.after_bind, Operation.outcome_bind]
  cases found : first.outcome session with
  | error fault => exact ⟨asked, remembers, nofun⟩
  | ok value =>
      rcases rest value _ found (remembers.reports reports) with ⟨others, stillRemembers, obtains⟩
      exact ⟨asked ++ others, remembers.trans stillRemembers, fun last succeeds =>
        remembers.answers.grants (obtains last succeeds)⟩

theorem Obtains.bind {first : Operation (Session α σ) γ}
    {next : γ → Operation (Session α σ) β}
    (obtains : database.Obtains handle row wanted first session)
    (queried : forall value, (next value).Respects database.SessionQueried) :
    database.Obtains handle row wanted (first >>= next) session := by
  rcases obtains with ⟨asked, remembers, obtains⟩
  unfold Obtains
  rw [Operation.after_bind, Operation.outcome_bind]
  cases found : first.outcome session with
  | error fault => exact ⟨asked, remembers, nofun⟩
  | ok value =>
      rcases queried value _ handle _ (remembers.reports reports) with ⟨others, stillRemembers⟩
      exact ⟨asked ++ others, remembers.trans stillRemembers, fun _ _ =>
        (obtains value found).append⟩

theorem runStatement_obtains {sql : String} {parameters : List Value}
    (isWanted : wanted (sql, some parameters)) :
    database.Obtains handle row wanted (library (database.runStatement handle sql parameters))
      session := by
  rcases runStatement_remembers reports sql parameters with ⟨asked, remembers, obtains⟩
  refine ⟨asked, ?_, fun cursor succeeds => ?_⟩
  · rw [Session.gateway_library]
    exact remembers
  · rw [Session.outcome_library] at succeeds
    rcases obtains cursor succeeds with ⟨rfl, answered⟩
    exact ⟨[], _, [], rfl, isWanted, answered⟩

variable {runner : HookRunner α σ}
  (callbacks : forall name phase callback sql,
    (runner name phase callback sql).Respects database.SessionQueried)
include callbacks

omit reports in
theorem runHooks_queried (phase : Native.HookPhase) (sql : String) (hooks : List (Hook α)) :
    (runHooks runner phase sql hooks).Respects database.SessionQueried :=
  runHooks_respects (fun _ _ _ _ => kept_queried (write_kept _ _ _ _))
    (fun _ _ => callbacks _ _ _ _) hooks

/-- A compiled query that succeeds is answered, whatever its callbacks ask. -/
theorem execute_obtains (query : ParsedQuery) (values : List Value) :
    database.Obtains handle row
      (fun statement => exists parameters,
        Parameter.bind query values handle.adapter.coercion = .ok parameters ∧
          statement = (query.sql, some parameters))
      (database.execute runner query values) session := by
  have gives := Operation.outcome_of_ok (Gateway.connect_of_connected reports.held)
  refine .of_bind reports (library_queried handle_queried) fun given _ found reports => ?_
  cases ((Session.outcome_library _ _).symm.trans found).symm.trans gives
  refine .of_bind reports (.ofExcept _) fun parameters _ found reports => ?_
  have bound := (Operation.outcome_ofExcept _ _).symm.trans found
  refine .of_bind reports (kept_queried (.bind .get fun _ => .pure _)) fun entry _ _ reports => ?_
  refine .of_bind reports (runHooks_queried callbacks _ _ _) fun _ _ _ reports => ?_
  refine .of_bind reports (kept_queried (write_kept _ _ _ _)) fun _ _ _ reports => ?_
  refine .bind reports ?_ fun cursor => .bind (runHooks_queried callbacks _ _ _) fun _ => .pure _
  exact runStatement_obtains reports ⟨parameters, bound, rfl⟩

omit reports in
theorem query_queried (template : String) (values : List Value) :
    (database.query runner template values).Respects database.SessionQueried := by
  refine .bind (library_queried (compile_queried template)) fun query session handle row reports => ?_
  rcases execute_obtains reports callbacks query values with ⟨asked, remembers, -⟩
  exact ⟨asked, remembers⟩

end Obtaining

/-! ## Callbacks that run queries -/

/-- Work that uses a database for queries only.  Between them it may do anything that sends no
statement and leaves a connected database with its handle.  The callbacks that are called during
the queries do work of the same kind. -/
inductive RunsQueries (database : Database) :
    {β : Type} → Operation (Session α σ) β → Prop where
  | query {runner : HookRunner α σ}
      (callbacks : forall name phase callback sql,
        RunsQueries database (runner name phase callback sql))
      (template : String) (values : List Value) :
      RunsQueries database (database.query runner template values)
  | aside {β : Type} {operation : Operation (Session α σ) β}
      (silent : forall session handle row, database.Reports handle row session.gateway ->
        database.Remembers handle row [] session.gateway (operation.after session).gateway) :
      RunsQueries database operation
  | bind {β γ : Type} {first : Operation (Session α σ) β}
      {next : β → Operation (Session α σ) γ} (runs : RunsQueries database first)
      (rest : forall value, RunsQueries database (next value)) :
      RunsQueries database (first >>= next)
  | observe {β : Type} {operation : Operation (Session α σ) β}
      (runs : RunsQueries database operation) :
      RunsQueries database (Operation.observe operation)

theorem RunsQueries.queried {operation : Operation (Session α σ) β}
    (runs : database.RunsQueries operation) : operation.Respects database.SessionQueried := by
  induction runs with
  | query callbacks template values inductionHypothesis =>
      exact query_queried inductionHypothesis template values
  | aside silent => exact fun session handle row reports => ⟨[], silent session handle row reports⟩
  | bind runs rest firstHypothesis restHypothesis => exact .bind firstHypothesis restHypothesis
  | observe runs inductionHypothesis => exact .observe inductionHypothesis

/-- A driver that says itself which row was inserted is not asked for it. -/
theorem lastInsertId_yields_row (reports : database.Reports handle row before) :
    database.lastInsertId.Yields before fun outcome left =>
      left = before ∧ forall id, outcome = .ok id -> row = .int id := by
  have run : database.handle before = .ok { handle with lastRowId := row } before :=
    Gateway.connect_of_connected reports.held
  refine .after_gives (.of_run run) ?_
  rintro _ _ ⟨rfl, rfl⟩
  refine .atBoundary _ _ (.within ?_)
  unfold Adapter.lastInsertId
  rw [reports.asksNothing]
  cases row with
  | int number =>
      refine ⟨rfl, ?_⟩
      rintro id ⟨⟩
      rfl
  | _ => exact ⟨rfl, nofun⟩

/-- Work with the library that sends no statement and keeps the handle. -/
theorem RunsQueries.of_kept {operation : Operation (Gateway α) β}
    (kept : operation.Respects database.Kept) :
    database.RunsQueries (library operation : Operation (Session α σ) β) := by
  refine .aside fun session handle row reports => ?_
  rw [Session.gateway_library]
  exact ⟨(kept session.gateway).answers, (kept session.gateway).handle _ reports.held⟩

/-- Work that leaves every state as it is. -/
theorem RunsQueries.of_unchanged {operation : Operation (Session α σ) β}
    (unchanged : forall session, operation.after session = session) :
    database.RunsQueries operation := by
  refine .aside fun session handle row reports => ?_
  rw [unchanged]
  exact ⟨refl_of (Native.Driver.Answers []) session.gateway.driver, reports.held⟩

/-- A callback may insert rows of its own. -/
theorem RunsQueries.insert {runner : HookRunner α σ}
    (callbacks : forall name phase callback sql,
      database.RunsQueries (runner name phase callback sql))
    (table : String) (values : List (Value × Value)) :
    database.RunsQueries (database.insert runner table values) := by
  refine .bind (.of_unchanged fun _ => rfl) fun _ => ?_
  refine .bind (.of_unchanged (Operation.after_ofExcept _)) fun entries => ?_
  refine .bind (.of_unchanged (Operation.after_ofExcept _)) fun template => ?_
  refine .bind (.bind (.query callbacks _ _) fun result => .of_kept (free_kept result)) fun _ => ?_
  refine .aside fun session handle row reports => ?_
  rw [Session.gateway_library, (lastInsertId_yields_row reports).1]
  exact ⟨refl_of (Native.Driver.Answers []) session.gateway.driver, reports.held⟩

/-! ## Insertions -/

/-- A database is connected by the adapter, or will be by its next use. -/
structure ConnectsBy (database : Database) (adapter : Adapter) (gateway : Gateway α) : Prop where
  known : Adapter.ofDialect (gateway.entry database.entry).params.dialect = .ok adapter
  held : forall handle, (gateway.entry database.entry).handle = some handle ->
    handle.adapter = adapter

/-- Statements were sent on a connection of the adapter, of which a wanted one succeeded, and the
database holds the handle that remembers the last of them that did. -/
def Granted (database : Database) (adapter : Adapter)
    (wanted : String × Option (List Value) → Prop) (before after : Gateway α) : Prop :=
  exists handle row asked, handle.adapter = adapter ∧
    database.Remembers handle row asked before after ∧ before.driver.Grants wanted asked

/-- The statement that runs a template, with its parameters. -/
def Runs (database : Database) (adapter : Adapter) (template : String) (values : List Value)
    (gateway : Gateway α) (statement : String × Option (List Value)) : Prop :=
  exists query parameters,
    (database.compile template).outcome gateway = .ok query ∧
    Parameter.bind query values adapter.coercion = .ok parameters ∧
    statement = (query.sql, some parameters)

/-- The statement that inserts a row into a table, with its parameters. -/
def Inserts (database : Database) (adapter : Adapter) (table : String)
    (values : List (Value × Value)) (gateway : Gateway α)
    (statement : String × Option (List Value)) : Prop :=
  exists entries template,
    newRow gateway.driver.clock values = .ok entries ∧
    insertion table entries = .ok template ∧
    database.Runs adapter template (valuesOf entries) gateway statement

section Insertions

variable {adapter : Adapter} {runner : HookRunner α σ} {session : Session α σ}

theorem ConnectsBy.gives (connects : database.ConnectsBy adapter before)
    (given : database.handle before = .ok handle after) : handle.adapter = adapter := by
  cases held : (before.entry database.entry).handle with
  | some current =>
      cases (Gateway.connect_of_connected held).symm.trans given
      exact connects.held _ held
  | none =>
      rcases handle_cases held with ⟨fault, left, fails, -⟩ | ⟨found, left, run, opened⟩
      · cases fails.symm.trans given
      · cases run.symm.trans given
        exact Except.ok.inj (opened.adapter.symm.trans connects.known)

variable (connects : database.ConnectsBy adapter session.gateway)
  (asksNothing : adapter.lastInsertQuery? = none)
  (callbacks : forall name phase callback sql,
    (runner name phase callback sql).Respects database.SessionQueried)
include connects asksNothing callbacks

/-- A query connects the database first if it is not connected.  The callbacks run after that. -/
theorem execute_granted (query : ParsedQuery) (values : List Value) :
    (database.execute runner query values).MayGive session fun _ left =>
      database.Granted adapter
        (fun statement => exists parameters,
          Parameter.bind query values adapter.coercion = .ok parameters ∧
            statement = (query.sql, some parameters))
        session.gateway left.gateway := by
  intro result left ran
  rcases Operation.ok_of_bind (Operation.outcome_of_ok ran) with ⟨handle, opened, gives, -⟩
  have lifted : (library database.handle : Operation (Session α σ) Handle).MayGive session
      fun handle left => database.handle session.gateway = .ok handle left.gateway :=
    .within (fun _ _ ran => ran) fun _ _ ran => ran
  have given := lifted handle opened gives
  cases connects.gives given
  rcases kept_of_handle given with ⟨held, kept⟩
  have again : (library database.handle : Operation (Session α σ) Handle) opened =
      .ok handle opened := by
    unfold library Operation.within
    rw [Database.handle, Gateway.connect_of_connected held]
  -- What follows is the same as when the database is connected already.
  have first : database.execute runner query values session = _ := Operation.bind_of_ok gives _
  have second : database.execute runner query values opened = _ := Operation.bind_of_ok again _
  have reran := second.trans (first.symm.trans ran)
  rcases execute_obtains ⟨held, asksNothing⟩ callbacks query values with
    ⟨asked, remembers, obtains⟩
  rw [Operation.after_of_ok reran] at remembers
  exact ⟨handle, handle.lastRowId, asked, rfl, remembers.of_silent kept.answers,
    kept.answers.grants (obtains result (Operation.outcome_of_ok reran))⟩

theorem query_granted (template : String) (values : List Value) :
    (database.query runner template values).MayGive session fun _ left =>
      database.Granted adapter (database.Runs adapter template values session.gateway)
        session.gateway left.gateway := by
  rcases database.compile_same template session.gateway with ⟨untouched, driver⟩
  refine .bind .self ?_
  rintro query compiled ⟨succeeds, rfl⟩
  rw [Session.outcome_library] at succeeds
  have stillConnects : database.ConnectsBy adapter
      ((library (database.compile template)).after session).gateway := by
    rw [Session.gateway_library]
    refine ⟨?_, ?_⟩ <;> rw [untouched.entry]
    · exact connects.known
    · exact connects.held
  have silent : session.gateway.driver.Answers []
      ((library (database.compile template)).after session).gateway.driver := by
    rw [Session.gateway_library, driver]
    exact refl_of (Native.Driver.Answers []) session.gateway.driver
  refine (execute_granted stillConnects asksNothing callbacks query values).mono ?_
  rintro result left ⟨handle, row, asked, isAdapter, remembers, grants⟩
  refine ⟨handle, row, asked, isAdapter, remembers.of_silent silent, ?_⟩
  refine (silent.grants grants).mono ?_
  rintro statement ⟨parameters, bound, same⟩
  exact ⟨query, parameters, succeeds, bound, same⟩

/-- The answer of a template is still remembered when its cursor is closed. -/
theorem run_granted (template : String) (values : List Value) :
    (database.run runner template values).MayGive session fun _ left =>
      database.Granted adapter (database.Runs adapter template values session.gateway)
        session.gateway left.gateway := by
  refine .bind (query_granted connects asksNothing callbacks template values) ?_
  rintro result answered ⟨handle, row, asked, isAdapter, remembers, grants⟩
  refine Operation.MayGive.self.mono ?_
  rintro _ _ ⟨-, rfl⟩
  have reports : database.Reports handle _ answered.gateway :=
    ⟨remembers.held, isAdapter ▸ asksNothing⟩
  rcases kept_queried (free_kept result) answered handle _ reports with ⟨others, stillRemembers⟩
  exact ⟨handle, row, asked ++ others, isAdapter, remembers.trans stillRemembers, grants.append⟩

end Insertions

/-- An insertion of a Firebird or Oracle database, whose hooks may run queries on it, succeeds only
if its statement did.  Its answer is what was said of the last statement that succeeded, from its
own on: the callbacks that follow its statement may have sent more. -/
theorem insert_reports_last {runner : HookRunner α σ} {session : Session α σ} {adapter : Adapter}
    (callbacks : forall name phase callback sql,
      database.RunsQueries (runner name phase callback sql))
    (connects : database.ConnectsBy adapter session.gateway)
    (reporting : adapter = .firebird ∨ adapter = .oracle)
    (table : String) (values : List (Value × Value)) :
    (database.insert runner table values).MayGive session fun id left =>
      exists earlier own later place,
        left.gateway.driver.statements =
          session.gateway.driver.statements ++ (earlier ++ own :: later) ∧
        database.Inserts adapter table values session.gateway own ∧
        (session.gateway.driver.answer earlier.length).error = none ∧
        earlier.length ≤ place ∧
        session.gateway.driver.SucceedsLast (earlier ++ own :: later).length place ∧
        (session.gateway.driver.answer place).lastRowId = .int id := by
  have asksNothing : adapter.lastInsertQuery? = none := by
    rcases reporting with rfl | rfl <;> rfl
  have queried name phase callback sql := (callbacks name phase callback sql).queried
  refine .bind .self ?_
  rintro _ _ ⟨⟨⟩, rfl⟩
  refine .bind .ofExcept ?_
  rintro entries _ ⟨made, rfl⟩
  refine .bind .ofExcept ?_
  rintro template _ ⟨put, rfl⟩
  refine .bind (run_granted connects asksNothing queried template (valuesOf entries)) ?_
  rintro _ answered ⟨handle, row, asked, isAdapter, remembers, grants⟩
  refine Operation.MayGive.self.mono ?_
  rintro id left ⟨succeeds, rfl⟩
  have reports : database.Reports handle _ answered.gateway :=
    ⟨remembers.held, isAdapter ▸ asksNothing⟩
  rcases lastInsertId_yields_row reports with ⟨same, read⟩
  rw [Session.outcome_library] at succeeds
  rw [Session.gateway_library, same]
  rcases grants with ⟨earlier, own, later, rfl, runs, answered⟩
  have inside : earlier.length < (earlier ++ own :: later).length := by simp
  rcases Native.Driver.rowAfter_of_success row inside answered with
    ⟨place, above, succeedsLast, remembered⟩
  exact ⟨earlier, own, later, place, remembers.answers.statements,
    ⟨entries, template, made, put, runs⟩, answered, above, succeedsLast,
    remembered.symm.trans (read id succeeds)⟩

def nameRow : List (Value × Value) := named [("name", .text "x")]

/-- A callback that enters a row in a log, without being called for this row. -/
def keepsLog : HookRunner Unit Unit := fun _ _ _ _ => do
  let _ ← memory.insert Session.idleHooks "log" nameRow

/-- A Firebird database with a hook that is called after each statement, over a driver that gives
the rows numbers of two tables. -/
def logged : Session Unit Unit :=
  let opened := unopened ⟨.firebird, .text "d", .text "h", none, .text "u", .text "p", []⟩
    (.ofScript [{ lastRowId := .int 5 }, { lastRowId := .int 99 }] [] [] (.int 0))
  ⟨(memory.registerHook "log" none (some ())).after opened.gateway, ()⟩

theorem insert_reports_last_of_logged :
    memory.ConnectsBy .firebird logged.gateway ∧
    (memory.insert keepsLog "t" nameRow).outcome logged = .ok 99 ∧
    exists earlier own later place,
      ((memory.insert keepsLog "t" nameRow).after logged).gateway.driver.statements =
        logged.gateway.driver.statements ++ (earlier ++ own :: later) ∧
      memory.Inserts .firebird "t" nameRow logged.gateway own ∧
      (logged.gateway.driver.answer earlier.length).error = none ∧
      earlier.length ≤ place ∧
      logged.gateway.driver.SucceedsLast (earlier ++ own :: later).length place ∧
      (logged.gateway.driver.answer place).lastRowId = .int 99 := by
  have callbacks (name : String) (phase : Native.HookPhase) (callback : Unit) (sql : String) :
      memory.RunsQueries (keepsLog name phase callback sql) :=
    .bind (.insert (fun _ _ _ _ => .of_unchanged fun _ => rfl) "log" nameRow)
      fun _ => .of_unchanged fun _ => rfl
  have connects : memory.ConnectsBy .firebird logged.gateway :=
    ⟨rfl, fun handle held => nomatch held⟩
  have answer : ((memory.insert keepsLog "t" nameRow).outcome logged).toOption = some 99 := by
    decide +kernel
  cases succeeds : (memory.insert keepsLog "t" nameRow).outcome logged with
  | error fault =>
      rw [succeeds] at answer
      cases answer
  | ok id =>
      rw [succeeds] at answer
      cases answer
      exact ⟨connects, rfl, insert_reports_last callbacks connects (Or.inl rfl) "t" nameRow 99 _
        (Operation.run_of_ok succeeds)⟩

/-- The number of the row in the log is answered for the row of the insertion. -/
theorem insert_of_logged :
    ((memory.insert keepsLog "t" nameRow).outcome logged).toOption = some 99 ∧
    ((memory.insert keepsLog "t" nameRow).after logged).gateway.driver.statements.map Prod.fst =
      ["INSERT INTO \x22t\x22 (\x22CreationDate\x22,\x22name\x22) VALUES (?,?)",
        "INSERT INTO \x22log\x22 (\x22CreationDate\x22,\x22name\x22) VALUES (?,?)"] ∧
    (logged.gateway.driver.answer 0).lastRowId = .int 5 :=
  ⟨by decide +kernel, by decide +kernel, rfl⟩

end Database
end SqlGateway
