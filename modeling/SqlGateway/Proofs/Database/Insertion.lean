import Mathlib.Data.List.Forall2
import SqlGateway.Proofs.Session.Statement
import SqlGateway.Proofs.Template.Insertion

namespace SqlGateway

/-!
# What an insertion sends

An insertion compiles its template, connects the database, gives the statement its
parameters, calls the hooks and runs the statement.  Everything up to the statement
may fail, and then nothing was sent.  Once the statement is run it is in the record, whatever
comes of it, and with it are exactly the names and values of the row.

Hooks are the caller's.  They may send statements of their own, so the record is only known
up to the events that hooks may add; with hooks that send nothing there is no such event.

The statement needs two things of the state that it is run in.  The store of compiled templates
must hold what the compiler makes, and no name may hold a closing bracket, which ends the
name in the template early.
-/

namespace Native

/-- The text that a call gives the engine to read, with the parameters that go with it. -/
def Call.statement? : Call → Option (String × Option (List Value))
  | .execute _ _ sql parameters => some (sql, parameters)
  | .runDirectly _ sql => some (sql, none)
  | .prepare _ _ sql => some (sql, none)
  | .parse _ _ sql => some (sql, none)
  | _ => none

/-- An event that sends no statement, or is one of the given kind. -/
def SendsOnly (foreign : Event → Prop) (event : Event) : Prop :=
  event.call.statement?.isSome -> foreign event

/-- An event that asks for the number of the row inserted last. -/
def AsksLastId (event : Event) : Prop :=
  exists (adapter : Adapter) (sql : String) (connection : Connection) (cursor : Nat),
    adapter.lastInsertQuery? = some sql ∧ event.call = .execute connection cursor sql none

end Native

namespace Database

open Native (Event SendsOnly AsksLastId)
open Template (insertStatement)

/-! ## Rows -/

/-- The row that is inserted for given values: they are preceded by the time, unless they
have one. -/
def NewRow (clock : Value) (values row : List (String × Value)) : Prop :=
  (timeColumn ∈ values.map Prod.fst ∧ row = values) ∨
  (timeColumn ∉ values.map Prod.fst ∧
    exists now, clock.toInt = .ok now ∧ row = (timeColumn, .int now) :: values)

/-- Entries under names. -/
def named (values : List (String × Value)) : List (Value × Value) :=
  values.map fun entry => (.text entry.1, entry.2)

theorem lookup_named (name : String) (values : List (String × Value)) :
    (Value.lookup (.text name) (named values)).isSome <-> name ∈ values.map Prod.fst := by
  induction values with
  | nil => simp [named, Value.lookup]
  | cons entry values inductionHypothesis =>
      have key : Value.isKey (.text name) (.text entry.1) = (name == entry.1) := rfl
      have step : Value.lookup (.text name) (named (entry :: values)) =
          if name == entry.1 then some entry.2
          else Value.lookup (.text name) (named values) := by
        rw [← key]
        rfl
      rw [step, List.map_cons, List.mem_cons]
      by_cases same : name = entry.1
      · simp [same]
      · simp [same, inductionHypothesis]

theorem newRow_sound {clock : Value} {values : List (String × Value)}
    {entries : List (Value × Value)} (made : newRow clock (named values) = .ok entries) :
    exists row, NewRow clock values row ∧ entries = named row := by
  have known := lookup_named timeColumn values
  unfold newRow at made
  cases found : Value.lookup (.text timeColumn) (named values) with
  | some time =>
      rw [found] at made known
      cases made
      exact ⟨values, Or.inl ⟨known.mp rfl, rfl⟩, rfl⟩
  | none =>
      rw [found] at made known
      cases now : clock.toInt with
      | error fault =>
          simp only [now] at made
          cases made
      | ok seconds =>
          simp only [now] at made
          cases made
          refine ⟨(timeColumn, .int seconds) :: values, Or.inr ⟨?_, seconds, now, rfl⟩, rfl⟩
          intro member
          cases known.mpr member

theorem NewRow.exists_cons {clock : Value} {values row : List (String × Value)}
    (made : NewRow clock values row) : exists first rest, row = first :: rest := by
  rcases made with ⟨member, rfl⟩ | ⟨-, now, -, rfl⟩
  · cases row with
    | nil => cases member
    | cons first rest => exact ⟨first, rest, rfl⟩
  · exact ⟨_, _, rfl⟩

theorem NewRow.closed {clock : Value} {values row : List (String × Value)}
    (made : NewRow clock values row)
    (closed : forall name, name ∈ values.map Prod.fst -> ']' ∉ name.toList) :
    forall name, name ∈ row.map Prod.fst -> ']' ∉ name.toList := by
  rcases made with ⟨-, rfl⟩ | ⟨-, now, -, rfl⟩
  · exact closed
  · have timeClosed : ']' ∉ timeColumn.toList := by decide
    intro name member
    rcases List.mem_cons.mp member with rfl | member
    · exact timeClosed
    · exact closed name member

theorem columnTexts_named (row : List (String × Value)) :
    columnTexts (named row) = .ok (row.map Prod.fst) := by
  induction row with
  | nil => rfl
  | cons entry row inductionHypothesis =>
      change (do return entry.1 :: (← columnTexts (named row))) = _
      rw [inductionHypothesis]
      rfl

/-- The kinds of the placeholders of a row. -/
def codesOf (row : List (String × Value)) : List TypeCode :=
  row.map fun entry => Parameter.inferCode entry.2

theorem insertion_named (table : String) (row : List (String × Value)) :
    insertion table (named row) =
      .ok (insertTemplate table (row.map Prod.fst) ((codesOf row).map TypeCode.placeholder)) := by
  have placeholders : (named row).map (fun entry => Parameter.placeholderFor entry.2) =
      (codesOf row).map TypeCode.placeholder := by
    rw [named, codesOf, List.map_map, List.map_map]
    rfl
  unfold insertion
  rw [columnTexts_named, placeholders]
  rfl

theorem coerceAll_inferCode {coercion : Coercion} {values parameters : List Value}
    (bound : Parameter.coerceAll coercion (values.map Parameter.inferCode) values =
      .ok parameters) :
    List.Forall₂ (fun value parameter =>
      Parameter.coerce (Parameter.inferCode value) value coercion = .ok parameter)
      values parameters := by
  induction values generalizing parameters with
  | nil =>
      cases bound
      exact .nil
  | cons value values inductionHypothesis =>
      rw [List.map_cons, Parameter.coerceAll] at bound
      cases first : Parameter.coerce (Parameter.inferCode value) value coercion with
      | error fault =>
          rw [first] at bound
          cases bound
      | ok parameter =>
          cases others : Parameter.coerceAll coercion (values.map Parameter.inferCode) values with
          | error fault =>
              rw [first, others] at bound
              cases bound
          | ok rest =>
              rw [first, others] at bound
              cases bound
              exact .cons first (inductionHypothesis others)

theorem valuesOf_named (row : List (String × Value)) :
    valuesOf (named row) = row.map Prod.snd := by
  rw [valuesOf, named, List.map_map]
  rfl

/-- A query for the placeholders of a row binds its values in their order. -/
theorem bind_row {query : ParsedQuery} {row : List (String × Value)} {coercion : Coercion}
    {parameters : List Value} (codes : query.placeholders = codesOf row)
    (bound : Parameter.bind query (row.map Prod.snd) coercion = .ok parameters) :
    List.Forall₂ (fun value parameter =>
      Parameter.coerce (Parameter.inferCode value) value coercion = .ok parameter)
      (row.map Prod.snd) parameters := by
  have sameLength : query.placeholders.length = (row.map Prod.snd).length := by
    rw [codes, codesOf, List.length_map, List.length_map]
  have inferred : codesOf row = (row.map Prod.snd).map Parameter.inferCode := by
    rw [codesOf, List.map_map]
    rfl
  unfold Parameter.bind at bound
  simp only [sameLength, Nat.lt_irrefl, if_false] at bound
  rw [codes, inferred] at bound
  exact coerceAll_inferCode bound

/-! ## Operations that send one statement -/

section Sending

variable {α σ β γ : Type} {allowed sent later : Event → Prop}

/-- An operation fails before it sends a statement of a kind, or sends one. -/
def Issues (allowed sent later : Event → Prop) (operation : Operation (Session α σ) β)
    (session : Session α σ) : Prop :=
  (exists fault, operation.outcome session = .error fault ∧
    session.Adds allowed (operation.after session)) ∨
  session.gateway.driver.Sends allowed sent later (operation.after session).gateway.driver

theorem Issues.of_bind {first : Operation (Session α σ) γ}
    {next : γ → Operation (Session α σ) β} {session : Session α σ}
    (adds : first.Respects (Session.Adds allowed))
    (issues : forall value, first.outcome session = .ok value ->
      Issues allowed sent later (next value) (first.after session)) :
    Issues allowed sent later (first >>= next) session := by
  have added := adds session
  unfold Issues
  rw [Operation.outcome_bind, Operation.after_bind]
  cases found : first.outcome session with
  | error fault => exact Or.inl ⟨fault, rfl, added⟩
  | ok value =>
      rcases issues value found with ⟨fault, fails, more⟩ | sends
      · exact Or.inl ⟨fault, fails, trans_of (Session.Adds allowed) added more⟩
      · exact Or.inr (sends.of_adds added)

theorem Issues.bind {first : Operation (Session α σ) γ} {next : γ → Operation (Session α σ) β}
    {session : Session α σ} (issues : Issues allowed sent later first session)
    (adds : forall value, (next value).Respects (Session.Adds later)) :
    Issues allowed sent later (first >>= next) session := by
  unfold Issues
  rw [Operation.outcome_bind, Operation.after_bind]
  rcases issues with ⟨fault, fails, added⟩ | sends
  · rw [fails]
    exact Or.inl ⟨fault, rfl, added⟩
  · right
    cases first.outcome session with
    | error fault => exact sends
    | ok value => exact sends.adds_after (adds value _)

theorem Issues.mono {kind wider : Event → Prop} {operation : Operation (Session α σ) β}
    {session : Session α σ} (issues : Issues allowed sent later operation session)
    (sentImplies : forall event, sent event -> kind event)
    (laterImplies : forall event, later event -> wider event) :
    Issues allowed kind wider operation session := by
  rcases issues with fails | sends
  · exact Or.inl fails
  · exact Or.inr (sends.mono sentImplies laterImplies)

end Sending

/-! ## Running a statement -/

section Statements

variable {α σ : Type} {foreign allowed : Event → Prop}

theorem outcome_compile (database : Database) (template : String) (gateway : Gateway α) :
    (database.compile template).outcome gateway =
      (gateway.cache.compile template (gateway.entry database.entry).params.dialect none).1 := by
  have reached : (database.compile template).outcome gateway =
      (Gateway.compile template (gateway.entry database.entry).params.dialect none).outcome
        gateway :=
    rfl
  rw [reached]
  simp only [Operation.outcome, Gateway.compile]
  rcases gateway.cache.compile template (gateway.entry database.entry).params.dialect none
    with ⟨outcome, cache⟩
  cases outcome <;> rfl

/-- After a statement at most a commit is added. -/
theorem conclude_adds (database : Database) {handle : Handle}
    (commits : forall failure, allowed ⟨.commit handle.connection true, failure⟩)
    (cursor : Native.Cursor) :
    (database.conclude handle cursor : Operation (Gateway α) Native.Cursor).Respects
      (Gateway.Adds allowed) := by
  refine .bind (Gateway.changeEntry_adds _ _) fun _ => ?_
  refine .bind (.bind .get fun _ => .pure _) fun _ => ?_
  refine .bind (Gateway.onDriver_adds (Adapter.afterExecute_adds _ commits _)) fun _ => ?_
  exact .pure cursor

/-- Running a statement sends it, whatever comes of it, unless there is no cursor for it. -/
theorem runStatement_issues (database : Database) (handle : Handle) (sql : String)
    (parameters : List Value) (session : Session α σ) :
    Issues (SendsOnly foreign)
      (fun event => exists cursor,
        event.call = .execute handle.connection cursor sql (some parameters))
      (SendsOnly foreign) (Session.library (database.runStatement handle sql parameters))
      session := by
  have sends {left : Native.Driver} {failure : Option Fault}
      (recorded : left.events = session.gateway.driver.events ++
        [⟨.execute handle.connection (session.gateway.driver.cursors + 1) sql (some parameters),
          failure⟩]) :
      session.gateway.driver.Sends (SendsOnly foreign)
        (fun event => exists cursor,
          event.call = .execute handle.connection cursor sql (some parameters))
        (SendsOnly foreign) left :=
    ⟨[], _, [], by rw [recorded, List.append_nil], nofun, ⟨_, rfl⟩, nofun⟩
  unfold Issues Session.Adds
  rw [Session.gateway_library, Session.outcome_library, runStatement_after]
  rcases Native.execute_cases handle.connection sql parameters session.gateway.driver with
    ⟨reached, fault, left, fails, isReached, recorded, -⟩ | ⟨cursor, left, succeeds, recorded, -⟩
  · rw [runStatement_outcome_of_error fails, fails]
    rcases isReached with rfl | rfl
    · refine Or.inl ⟨_, rfl, [_], recorded, fun event member => ?_⟩
      rw [List.mem_singleton.mp member]
      exact nofun
    · exact Or.inr (sends recorded)
  · rw [succeeds]
    exact Or.inr ((sends recorded).adds_after (conclude_adds database (fun _ => nofun) cursor _))

/-- Connecting a database sends no statement. -/
theorem handle_sendsOnly (database : Database) :
    (database.handle : Operation (Gateway α) Handle).Respects
      (Gateway.Adds (SendsOnly foreign)) :=
  Gateway.connect_adds _ (fun _ _ _ _ => nofun) (fun _ _ _ => nofun) (fun _ _ => nofun)

/-- The end of a result adds at most the end of its cursor. -/
theorem free_adds {result : QueryResult}
    (closes : forall failure,
      allowed ⟨.closeCursor result.cursor.connection result.cursor.number, failure⟩) :
    (free result : Operation (Session α σ) Unit).Respects (Session.Adds allowed) := by
  refine Session.library_adds (Gateway.onDriver_adds ?_)
  unfold QueryResult.free
  split
  · refine .bind (.observe (Native.closeCursor_adds closes)) fun outcome => ?_
    split
    · exact .pure ()
    · split
      · exact .throw _
      · exact .pure ()
  · exact .pure ()

theorem free_sendsOnly (result : QueryResult) :
    (free result : Operation (Session α σ) Unit).Respects (Session.Adds (SendsOnly foreign)) :=
  free_adds fun _ => nofun

section Hooks

variable {runner : HookRunner α σ}

/-- Hooks add what their callbacks do. -/
theorem runHooks_adds
    (hooks : forall name phase callback sql,
      (runner name phase callback sql).Respects (Session.Adds allowed))
    (phase : Native.HookPhase) (sql : String) (registered : List (Hook α)) :
    (runHooks runner phase sql registered).Respects (Session.Adds allowed) :=
  runHooks_respects (fun _ _ _ _ => Session.library_adds (Gateway.write_adds _ _ _ _))
    (fun _ _ => hooks _ _ _ _) registered

variable (hooks : forall name phase callback sql,
  (runner name phase callback sql).Respects (Session.Adds (SendsOnly foreign)))
include hooks

/-- Executing a query fails before its statement is sent, or sends it with its parameters. -/
theorem execute_issues (database : Database) (query : ParsedQuery) (values : List Value)
    (session : Session α σ) :
    Issues (SendsOnly foreign)
      (fun event => exists (handle : Handle) (cursor : Nat) (parameters : List Value),
        Parameter.bind query values handle.adapter.coercion = .ok parameters ∧
        event.call = .execute handle.connection cursor query.sql (some parameters))
      (SendsOnly foreign) (database.execute runner query values) session := by
  refine .of_bind (Session.library_adds (handle_sendsOnly database)) fun handle _ => ?_
  refine .of_bind (.ofExcept _) fun parameters bound => ?_
  refine .of_bind (Session.library_adds (Gateway.entryAt_adds _)) fun entry _ => ?_
  refine .of_bind (runHooks_adds hooks _ _ _) fun _ _ => ?_
  refine .of_bind (Session.library_adds (Gateway.write_adds _ _ _ _)) fun _ _ => ?_
  refine .bind ?_ fun cursor => .bind (runHooks_adds hooks _ _ _) fun _ => .pure _
  refine (runStatement_issues database handle query.sql parameters _).mono ?_ fun _ later => later
  intro event ⟨cursor, call⟩
  exact ⟨handle, cursor, parameters, (Operation.outcome_ofExcept _ _).symm.trans bound, call⟩

/-- With a sound store, running a template fails before its statement is sent, or sends what
the compiler makes of it. -/
theorem query_issues {database : Database} {session : Session α σ} {dialect : Dialect}
    (reached : (session.gateway.entry database.entry).params.dialect = dialect)
    (supported : dialect ∈ Dialect.builtin) (sound : session.gateway.cache.Sound)
    (template : String) (values : List Value) :
    Issues (SendsOnly foreign)
      (fun event => exists (query : ParsedQuery) (handle : Handle) (cursor : Nat)
          (parameters : List Value),
        Template.parse template dialect dialect.style = .ok query ∧
        Parameter.bind query values handle.adapter.coercion = .ok parameters ∧
        event.call = .execute handle.connection cursor query.sql (some parameters))
      (SendsOnly foreign) (database.query runner template values) session := by
  refine .of_bind (Session.library_adds (database.compile_adds template)) fun query found => ?_
  rw [Session.outcome_library, outcome_compile, reached,
    Template.Cache.compile_of_sound sound supported] at found
  refine (execute_issues hooks database query values _).mono ?_ fun _ later => later
  intro event ⟨handle, cursor, parameters, bound, call⟩
  exact ⟨query, handle, cursor, parameters, found, bound, call⟩

end Hooks

/-- To ask for the number of the row inserted last, the database is connected if it is not, and the
question is run on a cursor of its own. -/
theorem lastInsertId_adds (database : Database)
    (names : forall host port service fault,
      allowed ⟨.serviceName host port service, some fault⟩)
    (connects : forall positional keywords failure,
      allowed ⟨.connect positional keywords, failure⟩)
    (switches : forall connection failure, allowed ⟨.setAutocommit connection true, failure⟩)
    (opens : forall connection fault, allowed ⟨.openCursor connection, some fault⟩)
    (asks : forall (adapter : Adapter) sql, adapter.lastInsertQuery? = some sql ->
      forall connection cursor failure, allowed ⟨.execute connection cursor sql none, failure⟩)
    (closes : forall connection cursor failure, allowed ⟨.closeCursor connection cursor, failure⟩) :
    (database.lastInsertId : Operation (Gateway α) Int).Respects (Gateway.Adds allowed) := by
  refine .bind (Gateway.connect_adds _ names connects switches) fun handle =>
    .atBoundary _ _ (Gateway.onDriver_adds ?_)
  unfold Adapter.lastInsertId
  split
  · rename_i sql asked
    exact .bind (Native.withStatement_adds opens (asks _ sql asked) closes _) fun row => .ofExcept _
  · exact .pure _
  · exact .throw _

/-- Asking for the number of the row inserted last sends no other statement. -/
theorem lastInsertId_sendsOnly (database : Database) :
    (database.lastInsertId : Operation (Gateway α) Int).Respects
      (Gateway.Adds (SendsOnly fun event => foreign event ∨ AsksLastId event)) :=
  lastInsertId_adds database (fun _ _ _ _ => nofun) (fun _ _ _ => nofun) (fun _ _ => nofun)
    (fun _ _ => nofun) (fun adapter sql asked connection cursor _ _ =>
      Or.inr ⟨adapter, sql, connection, cursor, asked, rfl⟩) fun _ _ _ => nofun

end Statements

/-! ## Insertion -/

/-- An event that sends the statement that inserts a row with its values as parameters: every
name is quoted as the dialect quotes it, and there is one marker and one parameter a column. -/
def SendsInsertion (dialect : Dialect) (clock : Value) (table : String)
    (values : List (String × Value)) (event : Event) : Prop :=
  exists (row : List (String × Value)) (quotes : String → String) (handle : Handle)
      (cursor : Nat) (parameters : List Value),
    NewRow clock values row ∧
    (forall name, name ∈ table :: row.map Prod.fst ->
      dialect.quoteIdentifier name = .ok (quotes name)) ∧
    event.call = .execute handle.connection cursor
      (insertStatement dialect.style quotes table (row.map Prod.fst)) (some parameters) ∧
    List.Forall₂ (fun value parameter =>
      Parameter.coerce (Parameter.inferCode value) value handle.adapter.coercion = .ok parameter)
      (row.map Prod.snd) parameters

/-- Inserting a row fails before a statement is sent, or sends the statement that inserts it;
after that only the number of the new row is asked for. -/
theorem insert_issues {α σ : Type} {foreign : Event → Prop} {runner : HookRunner α σ}
    (hooks : forall name phase callback sql,
      (runner name phase callback sql).Respects (Session.Adds (SendsOnly foreign)))
    (database : Database) (session : Session α σ) {dialect : Dialect}
    (reached : (session.gateway.entry database.entry).params.dialect = dialect)
    (supported : dialect ∈ Dialect.builtin) (sound : session.gateway.cache.Sound)
    (table : String) (values : List (String × Value))
    (closed : forall name, name ∈ table :: values.map Prod.fst -> ']' ∉ name.toList) :
    Issues (SendsOnly foreign)
      (SendsInsertion dialect session.gateway.driver.clock table values)
      (SendsOnly fun event => foreign event ∨ AsksLastId event)
      (database.insert runner table (named values)) session := by
  have wider (event : Event) (sendsOnly : SendsOnly foreign event) :
      SendsOnly (fun event => foreign event ∨ AsksLastId event) event :=
    fun isStatement => Or.inl (sendsOnly isStatement)
  refine .of_bind .get fun _ got => ?_
  cases got
  refine .of_bind (.ofExcept _) fun entries made => ?_
  rw [Operation.outcome_ofExcept] at made
  rcases newRow_sound made with ⟨row, isRow, rfl⟩
  rw [Operation.after_ofExcept]
  refine .of_bind (.ofExcept _) fun template put => ?_
  rw [Operation.outcome_ofExcept, insertion_named] at put
  rw [Operation.after_ofExcept]
  cases put
  refine .bind ?_ fun _ => Session.library_adds (lastInsertId_sendsOnly database)
  refine .bind ?_ fun result => (free_sendsOnly result).mono fun _ _ adds => adds.mono wider
  refine (query_issues hooks reached supported sound _ _).mono ?_ wider
  rintro event ⟨query, handle, cursor, parameters, compiled, bound, call⟩
  rcases isRow.exists_cons with ⟨first, rest, rfl⟩
  have rowClosed : forall name, name ∈ table :: first.1 :: rest.map Prod.fst ->
      ']' ∉ name.toList := by
    intro name member
    rcases List.mem_cons.mp member with rfl | column
    · exact closed name List.mem_cons_self
    · exact isRow.closed (fun name member => closed name (List.mem_cons_of_mem _ member)) name
        column
  rcases Template.parse_insertTemplate rowClosed (codesOf (first :: rest))
      (by simp [codesOf]) dialect dialect.style with ⟨fault, refused⟩ |
      ⟨accepted, quotes, parsed, codes, quoted, sql⟩
  · cases refused.symm.trans compiled
  · cases parsed.symm.trans compiled
    rw [valuesOf_named] at bound
    exact ⟨first :: rest, quotes, handle, cursor, parameters, isRow, quoted, sql ▸ call,
      bind_row codes bound⟩

theorem insert_issues_of_memory :
    (forall name, name ∈ ["t", "name"] -> ']' ∉ name.toList) ∧
    Issues (SendsOnly fun _ => False)
      (SendsInsertion Gateway.memoryParams.dialect (.int 0) "t" [("name", .text "x")])
      (SendsOnly fun event => False ∨ AsksLastId event)
      (memory.insert Session.idleHooks "t" (named [("name", .text "x")])) Session.memory ∧
    (((memory.insert Session.idleHooks "t" (named [("name", .text "x")])).after
      Session.memory).gateway.driver.events.filterMap fun event => event.call.statement?) =
        [("INSERT INTO \x22t\x22 (\x22CreationDate\x22,\x22name\x22) VALUES (?,?)",
            some [.int 0, .text "x"]),
          ("SELECT last_insert_rowid()", none)] := by
  have closed : forall name, name ∈ ["t", "name"] -> ']' ∉ name.toList := by decide
  refine ⟨closed, ?_, rfl⟩
  exact insert_issues (fun _ _ _ _ => .pure ()) memory Session.memory rfl (by decide)
    (Template.Cache.sound_ofCapacity _) "t" [("name", .text "x")] closed

/-- A row with brackets in its only name. -/
def bracketRow : List (String × Value) := [("a],[b", .int 1)]

/-- An insertion of the row keeps the brackets in its one name. -/
theorem statement_of_bracketRow {event : Event}
    (sends : SendsInsertion Gateway.memoryParams.dialect (.int 0) "t" bracketRow event) :
    exists parameters, event.call.statement? =
      some (insertStatement .question (fun name => "\x22" ++ name ++ "\x22") "t"
        [timeColumn, "a],[b"], some parameters) := by
  rcases sends with ⟨row, quotes, handle, cursor, parameters, isRow, quoted, call, -⟩
  rcases isRow with ⟨inside, -⟩ | ⟨-, now, -, rfl⟩
  · exact absurd inside (by decide)
  · have asked : insertStatement .question quotes "t" [timeColumn, "a],[b"] =
        insertStatement .question (fun name => "\x22" ++ name ++ "\x22") "t"
          [timeColumn, "a],[b"] := by
      refine Template.insertStatement_congr _ fun name known => ?_
      have quotable := quoted name known
      simp only [List.mem_cons, List.not_mem_nil, or_false] at known
      rcases known with rfl | rfl | rfl <;> exact (Except.ok.inj quotable).symm
    have statement := congrArg Native.Call.statement? call
    refine ⟨parameters, ?_⟩
    rw [← asked]
    exact statement

/-- A name with brackets in it becomes two names. -/
theorem insert_of_bracket_in_name :
    ¬ Issues (SendsOnly fun _ => False)
      (SendsInsertion Gateway.memoryParams.dialect (.int 0) "t" bracketRow)
      (SendsOnly fun event => False ∨ AsksLastId event)
      (memory.insert Session.idleHooks "t" (named bracketRow)) Session.memory ∧
    (((memory.insert Session.idleHooks "t" (named bracketRow)).after
      Session.memory).gateway.driver.events.filterMap fun event => event.call.statement?) =
        [("INSERT INTO \x22t\x22 (\x22CreationDate\x22,\x22a\x22,\x22b\x22) VALUES (?,?)",
            some [.int 0, .int 1]),
          ("SELECT last_insert_rowid()", none)] := by
  have sent : ((memory.insert Session.idleHooks "t" (named bracketRow)).after
      Session.memory).gateway.driver.events.filterMap (fun event => event.call.statement?) =
        [("INSERT INTO \x22t\x22 (\x22CreationDate\x22,\x22a\x22,\x22b\x22) VALUES (?,?)",
            some [.int 0, .int 1]),
          ("SELECT last_insert_rowid()", none)] := rfl
  have none_before : Session.memory.gateway.driver.events.filterMap
      (fun event => event.call.statement?) = [] := rfl
  refine ⟨?_, sent⟩
  rintro (⟨fault, -, added, same, all⟩ | ⟨early, event, late, same, -, sends, -⟩)
  · -- The statement would be the caller's.
    rw [same, List.filterMap_append, none_before, List.nil_append] at sent
    have first := sent ▸ List.mem_cons_self
    rcases List.mem_filterMap.mp first with ⟨event, member, statement⟩
    exact all event member (by rw [statement]; rfl)
  · rcases statement_of_bracketRow sends with ⟨parameters, statement⟩
    have different : insertStatement .question (fun name => "\x22" ++ name ++ "\x22") "t"
        [timeColumn, "a],[b"] ≠
          "INSERT INTO \x22t\x22 (\x22CreationDate\x22,\x22a\x22,\x22b\x22) VALUES (?,?)" := by
      decide +kernel
    have member : event ∈ ((memory.insert Session.idleHooks "t" (named bracketRow)).after
        Session.memory).gateway.driver.events := by
      rw [same]
      simp
    have recorded := (List.mem_filterMap (f := fun event : Event => event.call.statement?)).mpr
      ⟨event, member, statement⟩
    rw [sent] at recorded
    rcases List.mem_cons.mp recorded with insertion | question
    · exact different (congrArg Prod.fst insertion)
    · cases congrArg Prod.snd (List.mem_singleton.mp question)

end Database
end SqlGateway
