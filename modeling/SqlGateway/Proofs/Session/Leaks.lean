import SqlGateway.Proofs.Operation.Success
import SqlGateway.Proofs.Session.Boundary

namespace SqlGateway

/-!
# The faults of the driver that leave the library as they are

A fault of the driver leaves an operation in two places only.  A large object that cannot be read
leaves the fetch of its row, and with it the fetch helpers and the helpers for single tables that
fetch rows themselves.  And a fault of the driver in the check of a statement by a grammar leaves
the preparation of the statement.  It is said here exactly when either happens.
-/

open Native (Event)

/-! ## Fetches -/

namespace QueryResult

variable {result : QueryResult} {fault : Fault}

/-- What the driver fails with in a fetch is not seen as it is. -/
theorem fetched_ne (native : result.FailsNatively) (isNative : fault.kind.isNative = true)
    {α : Type} (detail : String) {reason : Fault} (fails : reason.kind.isNative = true) :
    (result.fetched detail (.error reason) : Except Fault α) ≠ .error fault := by
  have reported := Gateway.atBoundary_reports detail fails
  rw [← native.driverFaults] at reported
  rintro ⟨⟩
  cases reported.isNative.symm.trans isNative

section Native

variable (native : result.FailsNatively) (isNative : fault.kind.isNative = true)
include native isNative

/-- A fault of the driver leaves the fetch of a row exactly if the row refuses. -/
theorem fetchRow_eq_error_iff (mode : FetchMode) :
    (result.fetchRow mode).1 = .error fault ↔ result.RefusesRow fault := by
  rw [fetchRow_eq_error_iff_fetchRow?, fetchRow?, RefusesRow]
  cases spent : result.isSpent with
  | true =>
      constructor
      · intro fails
        cases fails
      · rintro ⟨impossible, -⟩
        cases impossible
  | false =>
      simp only [Bool.false_eq_true, if_false, true_and]
      unfold Native.Cursor.fetchRow
      split
      · rename_i row rest same
        simp only [same]
        change (result.readRow mode row >>= fun shaped => pure (some shaped)) = _ ↔ _
        rw [bind_pure_eq_error_iff, readRow_eq_error_iff isNative]
        constructor
        · exact fun refuses => ⟨row, rest, rfl, refuses⟩
        · rintro ⟨first, others, ⟨⟩, refuses⟩
          exact refuses
      · rename_i reason rows fails
        simp only [rows]
        have shown := fetched_ne native isNative (α := Option (List Value)) "Failed fetching row"
          (native.response.fetchError reason fails)
        constructor
        · intro fails
          cases fails
          exact absurd rfl shown
        · rintro ⟨row, rest, ⟨⟩, -⟩
      · rename_i rows fails
        simp only [rows]
        constructor
        · intro fails
          cases fails
        · rintro ⟨row, rest, ⟨⟩, -⟩

/-- The same for the fetch of all rows that are left. -/
theorem fetchAll_eq_error_iff (mode : FetchMode) :
    (result.fetchAll mode).1 = .error fault ↔ result.RefusesRows fault := by
  rw [fetchAll, RefusesRows]
  cases spent : result.isSpent with
  | true =>
      constructor
      · intro fails
        cases fails
      · rintro ⟨impossible, -⟩
        cases impossible
  | false =>
      simp only [Bool.false_eq_true, if_false, true_and]
      unfold Native.Cursor.fetchRows
      split
      · rename_i reason fails
        have shown := fetched_ne native isNative (α := List (List Value)) "Failed fetching rows"
          (native.response.fetchError reason fails)
        constructor
        · intro fails
          cases fails
          exact absurd rfl shown
        · rintro ⟨impossible, -⟩
          cases fails.symm.trans impossible
      · rename_i fine
        change result.readRows mode result.cursor.response.rows = _ ↔ _
        rw [readRows_eq_error_iff isNative]
        exact ⟨fun refuses => ⟨fine, refuses⟩, And.right⟩

end Native

end QueryResult

/-! ## Preparation -/

/-- An event that is no check by a grammar. -/
def Native.Event.IsUnchecked (event : Event) : Prop :=
  forall sql grammar, event.call ≠ .checkGrammar sql grammar

namespace Gateway

variable {α β γ : Type}

/-- A single call was made, and it is the check of a statement by a grammar, which failed. -/
def ChecksInVain (operation : Operation (Gateway α) β) (gateway : Gateway α) (fault : Fault) :
    Prop :=
  exists checked grammar, (operation.after gateway).driver.events =
    gateway.driver.events ++ [⟨.checkGrammar checked grammar, some fault⟩]

variable {ensures : β → Prop}

theorem leaks_nothing {operation : Operation (Gateway α) β}
    (keeps : reporting.Keeps ensures operation) : passing.Leaks (fun _ _ => False) operation :=
  fun state ready => Boundary.Leaks.of_keeps keeps (fun _ reports => reports.isNative) state ready

/-- What makes other calls only and shows no fault of the driver checks nothing in vain. -/
theorem leaks_of_unchecked {operation : Operation (Gateway α) β}
    (keeps : reporting.Keeps ensures operation)
    (adds : operation.Respects (Gateway.Adds Event.IsUnchecked)) :
    passing.Leaks (ChecksInVain operation) operation := by
  refine (leaks_nothing keeps).congr fun gateway _ fault _ => ⟨False.elim, ?_⟩
  rintro ⟨checked, grammar, recorded⟩
  rcases adds gateway with ⟨added, same, unchecked⟩
  cases List.append_cancel_left (same.symm.trans recorded)
  exact unchecked _ List.mem_cons_self checked grammar rfl

/-- What comes before a check makes no call. -/
theorem leaks_bind {first : Operation (Gateway α) β} {next : β → Operation (Gateway α) γ}
    (keeps : reporting.Keeps ensures first)
    (same : forall gateway, (first.after gateway).driver.events = gateway.driver.events)
    (rest : forall value, ensures value -> passing.Leaks (ChecksInVain (next value)) (next value)) :
    passing.Leaks (ChecksInVain (first >>= next)) (first >>= next) := by
  refine (Boundary.Leaks.afterSilent (leaks_nothing keeps) (passes_of_reports keeps) rest).congr
    fun gateway ready fault native => ?_
  have kept := same gateway
  have ran := Operation.run_eq first gateway
  unfold ChecksInVain
  rw [Operation.after_bind]
  cases found : first.outcome gateway with
  | error reason =>
      rw [found] at ran
      constructor
      · rintro ⟨value, left, succeeds, -⟩
        cases ran.symm.trans succeeds
      · rintro ⟨checked, grammar, recorded⟩
        rw [kept] at recorded
        cases List.self_eq_append_right.mp recorded
  | ok value =>
      rw [found] at ran
      dsimp only
      rw [← kept]
      constructor
      · rintro ⟨given, left, succeeds, recorded⟩
        cases ran.symm.trans succeeds
        exact recorded
      · exact fun recorded => ⟨value, _, ran, recorded⟩

theorem leaks_map {operation : Operation (Gateway α) β} (function : β → γ)
    (leaks : passing.Leaks (ChecksInVain operation) operation)
    (keeps : passing.Keeps ensures operation) :
    passing.Leaks (ChecksInVain (operation >>= fun value => pure (function value)))
      (operation >>= fun value => pure (function value)) := by
  have silent (value : β) :
      passing.Leaks (fun _ _ => False) (pure (function value) : Operation (Gateway α) γ) :=
    fun _ _ _ _ => ⟨nofun, False.elim⟩
  refine (leaks.before keeps fun value _ => silent value).congr fun gateway _ fault _ => ?_
  unfold ChecksInVain
  rw [Operation.after_bind_pure]

end Gateway

namespace Adapter

open Native (bare)

/-- A fault of the driver is seen behind the check of a grammar only as it is. -/
theorem grammarFault_eq_iff {reason fault : Fault} (native : fault.kind.isNative = true) :
    grammarFault reason = fault ↔ reason = fault := by
  constructor
  · unfold grammarFault
    split
    · intro same
      rw [← same] at native
      cases native
    · exact id
  · rintro rfl
    exact grammarFault_of_isNative native

/-- A fault of the driver leaves the check of a statement exactly if the check fails with it. -/
theorem validate_eq_error_iff (dialect : Dialect) (sql : String) (driver : Native.Driver)
    {fault : Fault} (native : fault.kind.isNative = true) :
    (validate dialect sql).outcome driver = .error fault ↔
      exists checked grammar, ((validate dialect sql).after driver).events =
        driver.events ++ [⟨.checkGrammar checked grammar, some fault⟩] := by
  unfold validate
  split
  · constructor
    · nofun
    · rintro ⟨checked, grammar, recorded⟩
      cases List.self_eq_append_right.mp recorded
  · rename_i grammar _
    have recorded := Native.callAt_events .grammar (.checkGrammar sql grammar) driver
    simp only [Operation.outcome_mapFault, Operation.after_mapFault, recorded]
    cases (Native.callAt .grammar (.checkGrammar sql grammar)).outcome driver with
    | ok value =>
        constructor
        · nofun
        · rintro ⟨checked, used, same⟩
          cases List.append_cancel_left same
    | error reason =>
        constructor
        · intro seen
          rw [(grammarFault_eq_iff native).mp (Except.error.inj seen)]
          exact ⟨sql, grammar, rfl⟩
        · rintro ⟨checked, used, same⟩
          cases List.append_cancel_left same
          exact congrArg Except.error (grammarFault_of_isNative native)

theorem prepareNatively_unchecked (adapter : Adapter) (connection : Native.Connection)
    (sql : String) :
    (adapter.prepareNatively connection sql).Respects
      (Native.Driver.Adds Event.IsUnchecked) := by
  have onCursor {operation : Native.Cursor → Operation Native.Driver Unit}
      (adds : forall cursor,
        (operation cursor).Respects (Native.Driver.Adds Event.IsUnchecked)) :
      (Native.openCursor connection >>= fun cursor =>
        (operation cursor).thenAlways (Native.closeCursor cursor)).Respects
          (Native.Driver.Adds Event.IsUnchecked) :=
    .bind (Native.openCursor_adds fun _ => nofun) fun cursor =>
      .thenAlways (adds cursor) (Native.closeCursor_adds fun _ => nofun)
  cases adapter with
  | firebird =>
      refine onCursor fun cursor => .bind (Native.callAt_adds _ fun _ => nofun) fun _ => ?_
      exact Native.callAt_adds _ fun _ => nofun
  | oracle => exact onCursor fun cursor => Native.callAt_adds _ fun _ => nofun
  | mssql | mysql | odbc | postgres | sqlite => exact .throw _

end Adapter

namespace Database

variable {α σ β : Type}

open Gateway (ChecksInVain onDriver_keeps leaks_bind leaks_map leaks_of_unchecked)

theorem prepareOnServer_leaks (database : Database) (sql : String) :
    Gateway.passing.Leaks (ChecksInVain (database.prepareOnServer sql))
      (database.prepareOnServer sql : Operation (Gateway α) Unit) := by
  refine leaks_of_unchecked (prepareOnServer_keeps database sql) ?_
  refine .bind (Gateway.connect_adds _ (fun _ _ _ _ => nofun) (fun _ _ _ => nofun)
    fun _ _ => nofun) fun handle => ?_
  exact .atBoundary _ _ (Gateway.onDriver_adds (Adapter.prepareNatively_unchecked _ _ _))

theorem checkGrammar_leaks (template : String) (dialect : Dialect) :
    Gateway.passing.Leaks (ChecksInVain (checkGrammar template dialect))
      (checkGrammar template dialect : Operation (Gateway α) Unit) := by
  have same (gateway : Gateway α) :
      ((Gateway.compile template dialect (some .question)).after gateway).driver.events =
        gateway.driver.events :=
    congrArg Native.Driver.events (Gateway.compile_driver template dialect (some .question) gateway)
  refine leaks_bind (Gateway.compile_keeps template dialect (some .question)) same
    fun query _ gateway _ fault native => ?_
  unfold ChecksInVain
  rw [Gateway.onDriver, Operation.outcome_within, Operation.after_within]
  exact Adapter.validate_eq_error_iff dialect query.sql gateway.driver native

/-- A fault of the driver leaves the preparation of a statement exactly if the statement is checked
by a grammar, and the check fails with the fault. -/
theorem prepare_leaks (database : Database) (template : String) :
    Gateway.passing.Leaks (ChecksInVain (database.prepare template))
      (database.prepare template : Operation (Gateway α) PreparedStatement) := by
  refine leaks_bind (Gateway.entryAt_keeps database.entry) (fun _ => rfl) fun entry _ => ?_
  refine leaks_bind (Gateway.compile_keeps template entry.params.dialect none)
    (fun gateway => congrArg Native.Driver.events
      (Gateway.compile_driver template entry.params.dialect none gateway)) fun query _ => ?_
  simp only
  split
  · refine leaks_bind (.ofTame (Adapter.ofDialect_tame entry.params.dialect))
      (fun gateway => congrArg (fun left => left.driver.events) (Operation.after_ofExcept _ gateway))
      fun adapter _ => ?_
    split
    · exact leaks_map _ (prepareOnServer_leaks database query.sql)
        (Gateway.passes_of_reports (prepareOnServer_keeps database query.sql))
    · exact leaks_map _ (checkGrammar_leaks template entry.params.dialect)
        (checkGrammar_keeps template entry.params.dialect)
  · have nothing : Gateway.reporting.Keeps (fun _ => True)
        (pure ⟨database, template, query⟩ : Operation (Gateway α) PreparedStatement) :=
      .pure trivial
    exact leaks_of_unchecked nothing (.pure _)

end Database

/-! ## Queries -/

namespace Session

variable {α σ β : Type} {ensures : β → Prop}

theorem leaks_nothing {operation : Operation (Session α σ) β}
    (keeps : reporting.Keeps ensures operation) : passing.Leaks (fun _ _ => False) operation :=
  fun state ready => Boundary.Leaks.of_keeps keeps (fun _ reports => reports.isNative) state ready

theorem leaks_ofTame {found : Except Fault β} (tame : Tame found) :
    passing.Leaks (fun _ _ => False) (.ofExcept found : Operation (Session α σ) β) :=
  leaks_nothing (.ofTame tame)

end Session

namespace Database

variable {α σ β : Type} (runner : HookRunner α σ) (database : Database)

open Session (reporting passing passes_of_reports leaks_nothing leaks_ofTame)

/-- What leaves the use of a result leaves the query for it. -/
theorem withQuery_leaks (template : String) (values : List Value)
    (use : QueryResult → Except Fault β) {refuses : QueryResult → Fault → Prop}
    (uses : forall result, result.FailsNatively -> forall fault, fault.kind.isNative = true ->
      (use result = .error fault ↔ refuses result fault)) :
    passing.Leaks (fun session fault =>
      (database.query runner template values).Gives session fun result _ => refuses result fault)
      (database.withQuery runner template values use) := by
  have queries := query_keeps runner database template values
  refine .afterSilent (leaks_nothing queries) (passes_of_reports queries)
    fun result native session ready fault isNative => ?_
  let used : Operation (Session α σ) β := .ofExcept (use result)
  have ended : (used.thenAlways (free result)).outcome session = use result := by
    have freed : (free result : Operation (Session α σ) Unit).outcome (used.after session) =
        .ok () := outcome_free native (by rw [Operation.after_ofExcept]; exact ready)
    unfold Operation.thenAlways
    rw [Operation.outcome_observe_bind, Operation.outcome_bind, freed]
    simp only [Operation.outcome_ofExcept]
    exact Operation.outcome_ofExcept (use result) session
  change (used.thenAlways (free result)).outcome session = _ ↔ _
  rw [ended]
  exact uses result native fault isNative

theorem fetchFirstRow_leaks (template : String) (values : List Value) (mode : FetchMode) :
    passing.Leaks (fun session fault =>
      (database.query runner template values).Gives session fun result _ =>
        result.RefusesRow fault)
      (database.fetchFirstRow runner template values mode) :=
  withQuery_leaks runner database template values (fun result => (result.fetchRow mode).1)
    fun _ native _ isNative => QueryResult.fetchRow_eq_error_iff native isNative mode

theorem fetchValue_leaks (template : String) (values : List Value) :
    passing.Leaks (fun session fault =>
      (database.query runner template values).Gives session fun result _ =>
        result.RefusesRow fault)
      (database.fetchValue runner template values) :=
  .before (fetchFirstRow_leaks runner database template values .ordered)
    (fetchFirstRow_keeps runner database template values .ordered) fun _ _ =>
    leaks_nothing (.pure trivial : reporting.Keeps (fun _ => True) (pure _))

theorem fetchAll_leaks (template : String) (values : List Value) (mode : Option FetchMode)
    (column : Value) :
    passing.Leaks (fun session fault =>
      (exists form, resolveMode mode column = .ok form) ∧
        (database.query runner template values).Gives session fun result _ =>
          result.RefusesRows fault)
      (database.fetchAll runner template values mode column) := by
  have uses (form : FetchMode) := withQuery_leaks runner database template values
    (fun result => (result.fetchAll form).1) fun _ native _ isNative =>
      QueryResult.fetchAll_eq_error_iff native isNative form
  have keeps (form : FetchMode) := withQuery_keeps runner database template values
    (fun result => (result.fetchAll form).1) fun _ fault native fails =>
      QueryResult.fetchAll_faults native form fault fails
  have resolves := resolveMode_tame mode column
  refine (Boundary.Leaks.afterSilent (leaks_ofTame resolves) (.ofTame resolves) fun form _ =>
    (uses form).before (keeps form) fun rows _ =>
      leaks_ofTame (selectColumns_tame column rows)).congr fun session _ fault _ => ?_
  constructor
  · rintro ⟨form, left, resolved, refuses⟩
    rcases Operation.ofExcept_eq_ok.mp resolved with ⟨isForm, rfl⟩
    exact ⟨⟨form, isForm⟩, refuses⟩
  · rintro ⟨⟨form, isForm⟩, refuses⟩
    exact ⟨form, session, Operation.ofExcept_eq_ok.mpr ⟨isForm, rfl⟩, refuses⟩

/-! ## Rows of single tables -/

/-- A fault leaves what is asked of the rows that a choice restricts. -/
def LeaksChosen (choice : Value) (leaks : String → Prop) : Prop :=
  exists restriction, assignments (conditions choice) " AND " = .ok restriction ∧ leaks restriction

theorem chosen_leaks (choice : Value) {next : String → Operation (Session α σ) β}
    {leaks : String → Session α σ → Fault → Prop}
    (rest : forall restriction, passing.Leaks (leaks restriction) (next restriction)) :
    passing.Leaks (fun session fault =>
      LeaksChosen choice fun restriction => leaks restriction session fault)
      (.ofExcept (assignments (conditions choice) " AND ") >>= next) := by
  have assigns := assignments_tame (conditions choice) " AND "
  refine (Boundary.Leaks.afterSilent (leaks_ofTame assigns) (.ofTame assigns)
    fun restriction _ => rest restriction).congr fun session _ fault _ => ?_
  constructor
  · rintro ⟨restriction, left, assigned, leaked⟩
    rcases Operation.ofExcept_eq_ok.mp assigned with ⟨isRestriction, rfl⟩
    exact ⟨restriction, isRestriction, leaked⟩
  · rintro ⟨restriction, isRestriction, leaked⟩
    exact ⟨restriction, session, Operation.ofExcept_eq_ok.mpr ⟨isRestriction, rfl⟩, leaked⟩

/-- An update leaks what its count does. -/
theorem update_leaks (table : String) (values : List (Value × Value)) (choice : Value) :
    passing.Leaks (fun session fault =>
      LeaksChosen choice fun restriction =>
        (database.query runner (countTemplate table restriction)
          (valuesOf (conditions choice))).Gives session fun result _ => result.RefusesRow fault)
      (database.update runner table values choice) := by
  refine chosen_leaks choice fun restriction => ?_
  have sets := setColumns_keeps runner database table values (conditions choice) restriction
  refine (fetchValue_leaks runner database (countTemplate table restriction) _).before
    (fetchValue_keeps runner database _ _) fun count _ => ?_
  simp only
  split
  · have throws : reporting.Keeps (fun _ : Unit => True)
        (throw (noSuchRecord table) : Operation (Session α σ) Unit) :=
      .throw rfl
    exact leaks_nothing (.bind throws fun _ _ => sets)
  · exact leaks_nothing sets

/-- An update that may become an insertion leaks what the search for its rows does. -/
theorem insertOrUpdate_leaks (table : String) (values : List (Value × Value)) (choice : Value) :
    passing.Leaks (fun session fault =>
      LeaksChosen choice fun restriction =>
        (database.query runner (keyTemplate table restriction)
          (valuesOf (conditions choice))).Gives session fun result _ => result.RefusesRows fault)
      (database.insertOrUpdate runner table values choice) := by
  refine chosen_leaks choice fun restriction => ?_
  have searches := fetchAll_leaks runner database (keyTemplate table restriction)
    (valuesOf (conditions choice)) none (.int 0)
  refine (searches.congr fun session _ fault _ => ⟨And.right, fun leaked => ⟨⟨_, rfl⟩, leaked⟩⟩).before
    (fetchAll_keeps runner database _ _ _ _) fun keys _ => ?_
  have gives (key : Value) : reporting.Keeps (fun _ => True)
      (pure key : Operation (Session α σ) Value) :=
    .pure trivial
  split
  · exact leaks_nothing (.bind (insert_keeps runner database _ _) fun _ _ => gives _)
  · simp only
    split
    · exact leaks_nothing (.bind (setColumns_keeps runner database _ _ _ _) fun _ _ => gives _)
    · exact leaks_nothing (gives _)

end Database
end SqlGateway
