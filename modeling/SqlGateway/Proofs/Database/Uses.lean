import SqlGateway.Proofs.Session.Leaks

namespace SqlGateway

/-!
# Runs of operations over a failing driver

A caller uses databases one operation after the other, and fetches from results and runs
prepared statements that earlier operations gave.  The driver may fail in any of its calls, and when
a large object of it is read.  An operation that fails because of the driver fails with a database
fault that the fault of the driver caused, except that a deletion can be asked to report its failure
as an answer.

A fault of the driver leaves an operation as it is if a large object in a row that is handed out
cannot be read, and if it is met in the check of a statement by a grammar.  It does not otherwise.
-/

/-- What a caller has at hand: a session, with the results and the prepared statements that it
got so far. -/
structure Desk (α σ : Type) where
  session : Session α σ
  results : List QueryResult
  statements : List PreparedStatement

/-- An operation of a caller.  Results and prepared statements are named by their places. -/
inductive Use where
  | configure (config : Option Config)
  /-- Ask for a database, whatever comes of it. -/
  | make (request : Database.Request) (registry tracker : Scope)
  | query (database : Database) (template : String) (values : List Value)
  | prepare (database : Database) (template : String)
  | executePrepared (statement : Nat) (values : List Value)
  | fetchRow (result : Nat) (mode : FetchMode)
  | fetchAll (result : Nat) (mode : FetchMode)
  | free (result : Nat)
  | act (action : Action) (database : Database)
  | lastInsertId (database : Database)
  | disconnect (database : Database)
  | fetchFirstRow (database : Database) (template : String) (values : List Value)
      (mode : FetchMode)
  | fetchValue (database : Database) (template : String) (values : List Value)
  | fetchRows (database : Database) (template : String) (values : List Value)
      (mode : Option FetchMode) (column : Value)
  | insert (database : Database) (table : String) (values : List (Value × Value))
  | update (database : Database) (table : String) (values : List (Value × Value)) (choice : Value)
  | insertOrUpdate (database : Database) (table : String) (values : List (Value × Value))
      (choice : Value)
  | delete (database : Database) (table : String) (choice : Value) (reporting : Bool)

namespace Desk

variable {α σ β : Type}

def work (operation : Operation (Session α σ) β) : Operation (Desk α σ) β :=
  .within Desk.session (fun desk session => { desk with session := session }) operation

def keepResult (result : QueryResult) : Operation (Desk α σ) Unit :=
  modify fun desk => { desk with results := desk.results ++ [result] }

def keepStatement (statement : PreparedStatement) : Operation (Desk α σ) Unit :=
  modify fun desk => { desk with statements := desk.statements ++ [statement] }

def replaceResult (index : Nat) (result : QueryResult) : Operation (Desk α σ) Unit :=
  modify fun desk => { desk with results := desk.results.set index result }

/-- Read from a result, if there is one at the place. -/
def read (index : Nat) (reads : QueryResult → Except Fault β × QueryResult) :
    Operation (Desk α σ) Unit := do
  match (← get).results[index]? with
  | none => pure ()
  | some result =>
    replaceResult index (reads result).2
    let _ ← Operation.ofExcept (reads result).1

end Desk

namespace Use

variable {α σ : Type}

open Desk (work)
open Session (library)

/-- Whether a failure is to be reported as an answer. -/
def isReporting : Use → Bool
  | .delete _ _ _ reporting => reporting
  | _ => false

/-- Do what a use asks for.  The answer is whether it was done; only a deletion that reports its
failure may deny that. -/
def perform (runner : HookRunner α σ) : Use → Operation (Desk α σ) Bool
  | .configure config => do
    work (library (Gateway.setConfig config))
    return true
  | .make request registry tracker => do
    let _ ← Operation.observe (work (library (Database.ofRequest request registry tracker)))
    return true
  | .query database template values => do
    Desk.keepResult (← work (database.query runner template values))
    return true
  | .prepare database template => do
    Desk.keepStatement (← work (library (database.prepare template)))
    return true
  | .executePrepared index values => do
    match (← get).statements[index]? with
    | none => return true
    | some statement =>
      Desk.keepResult (← work (statement.execute runner values))
      return true
  | .fetchRow index mode => do
    Desk.read index fun result => result.fetchRow mode
    return true
  | .fetchAll index mode => do
    Desk.read index fun result => result.fetchAll mode
    return true
  | .free index => do
    match (← get).results[index]? with
    | none => return true
    | some result =>
      work (Database.free result)
      Desk.replaceResult index result.freed
      return true
  | .act action database => do
    work (library (action.perform database))
    return true
  | .lastInsertId database => do
    let _ ← work (library database.lastInsertId)
    return true
  | .disconnect database => do
    work (library database.disconnect)
    return true
  | .fetchFirstRow database template values mode => do
    let _ ← work (database.fetchFirstRow runner template values mode)
    return true
  | .fetchValue database template values => do
    let _ ← work (database.fetchValue runner template values)
    return true
  | .fetchRows database template values mode column => do
    let _ ← work (database.fetchAll runner template values mode column)
    return true
  | .insert database table values => do
    let _ ← work (database.insert runner table values)
    return true
  | .update database table values choice => do
    work (database.update runner table values choice)
    return true
  | .insertOrUpdate database table values choice => do
    let _ ← work (database.insertOrUpdate runner table values choice)
    return true
  | .delete database table choice reporting =>
    work (database.delete runner table choice reporting)

/-- The desk after uses, whatever came of each of them. -/
def performAll (runner : HookRunner α σ) (uses : List Use) (desk : Desk α σ) : Desk α σ :=
  uses.foldl (fun desk use => (use.perform runner).after desk) desk

end Use

/-! ## The boundary around a desk -/

namespace Desk

variable {α σ β : Type} {shows : Fault → Prop} {ensures : β → Prop}

/-- The driver fails with its own faults, also in what is left of results, and no hook is
registered. -/
structure FailsNatively (desk : Desk α σ) : Prop where
  gateway : desk.session.gateway.FailsNatively
  results : forall result, result ∈ desk.results -> result.FailsNatively

/-- The boundary around a desk that shows failures of the driver in certain faults. -/
def boundary (shows : Fault → Prop) : Boundary (Desk α σ) where
  ready := FailsNatively
  harmless before after := before.session.Adds Native.Event.IsHarmless after.session
  shows := shows

/-- The boundary around the library, for desks. -/
def reporting : Boundary (Desk α σ) := boundary Fault.ReportsDriver

/-- The boundary where faults of the driver are passed on, for desks. -/
def passing : Boundary (Desk α σ) := boundary Fault.PassesDriver

instance (shows : Fault → Prop) : IsPreorder (Desk α σ) (boundary shows).harmless where
  refl desk := refl_of (Session.Adds Native.Event.IsHarmless) desk.session
  trans _ _ _ first second := trans_of (Session.Adds Native.Event.IsHarmless) first second

instance : IsPreorder (Desk α σ) reporting.harmless :=
  inferInstanceAs (IsPreorder (Desk α σ) (boundary _).harmless)

instance : IsPreorder (Desk α σ) passing.harmless :=
  inferInstanceAs (IsPreorder (Desk α σ) (boundary _).harmless)

theorem work_keeps {operation : Operation (Session α σ) β}
    (keeps : (Session.boundary shows).Keeps ensures operation) :
    (boundary shows).Keeps ensures (work operation) :=
  .within keeps (fun _ ready => ready.gateway) (fun _ _ ready left => ⟨left, ready.results⟩)
    (fun _ _ harmless => harmless) rfl

/-- A change of the results that a caller has. -/
theorem modify_keeps {change : Desk α σ → Desk α σ}
    (session : forall desk, (change desk).session = desk.session)
    (results : forall desk, desk.FailsNatively ->
      forall result, result ∈ (change desk).results -> result.FailsNatively) :
    (boundary shows).Keeps (fun _ => True) (modify change : Operation (Desk α σ) Unit) := by
  refine .modify (fun desk ready => ⟨?_, results desk ready⟩) fun desk => ?_
  · rw [session]
    exact ready.gateway
  · change desk.session.Adds _ (change desk).session
    rw [session]
    exact refl_of (Session.Adds Native.Event.IsHarmless) desk.session

theorem keepResult_keeps {result : QueryResult} (native : result.FailsNatively) :
    (boundary shows).Keeps (fun _ => True) (keepResult result : Operation (Desk α σ) Unit) := by
  refine modify_keeps (fun _ => rfl) fun desk ready other member => ?_
  rcases List.mem_append.mp member with earlier | last
  · exact ready.results other earlier
  · rw [List.mem_singleton.mp last]
    exact native

theorem replaceResult_keeps (index : Nat) {result : QueryResult} (native : result.FailsNatively) :
    (boundary shows).Keeps (fun _ => True)
      (replaceResult index result : Operation (Desk α σ) Unit) := by
  refine modify_keeps (fun _ => rfl) fun desk ready other member => ?_
  rcases List.mem_or_eq_of_mem_set member with earlier | rfl
  · exact ready.results other earlier
  · exact native

theorem keepStatement_keeps (statement : PreparedStatement) :
    (boundary shows).Keeps (fun _ => True) (keepStatement statement : Operation (Desk α σ) Unit) :=
  modify_keeps (fun _ => rfl) fun _ ready => ready.results

theorem read_keeps (index : Nat) {reads : QueryResult → Except Fault β × QueryResult}
    (left : forall result, result.FailsNatively -> (reads result).2.FailsNatively)
    (faults : forall result, result.FailsNatively -> forall fault,
      (reads result).1 = .error fault -> fault.PassesDriver ∨ fault.involvesDriver = false) :
    passing.Keeps (fun _ => True) (read index reads : Operation (Desk α σ) Unit) := by
  refine .bind .get fun desk ready => ?_
  split
  · exact .pure trivial
  · rename_i result found
    have native := ready.results result (List.mem_of_getElem? found)
    have reading : passing.Keeps (fun _ => True)
        (.ofExcept (reads result).1 : Operation (Desk α σ) β) :=
      .ofExcept (faults result native) fun _ _ => trivial
    exact .bind (replaceResult_keeps index (left result native)) fun _ _ =>
      .bind reading fun _ _ => .pure trivial

theorem outcome_read (index : Nat) (reads : QueryResult → Except Fault β × QueryResult)
    (desk : Desk α σ) :
    (read index reads).outcome desk =
      desk.results[index]?.elim (.ok ()) fun result => (reads result).1.map fun _ => () := by
  have reached : read index reads desk = (match desk.results[index]? with
      | none => pure ()
      | some result => do
        replaceResult index (reads result).2
        let _ ← Operation.ofExcept (reads result).1 : Operation (Desk α σ) Unit) desk :=
    rfl
  rw [Operation.outcome, reached]
  cases desk.results[index]? with
  | none => rfl
  | some result =>
      dsimp only [Option.elim_some]
      rcases reads result with ⟨_ | value, left⟩ <;> rfl

/-- What leaves the reading of a result leaves the desk. -/
theorem read_leaks (index : Nat) {reads : QueryResult → Except Fault β × QueryResult}
    {refuses : QueryResult → Fault → Prop}
    (same : forall result, result.FailsNatively -> forall fault, fault.kind.isNative = true ->
      ((reads result).1 = .error fault ↔ refuses result fault)) :
    passing.Leaks (fun desk fault =>
      exists result, desk.results[index]? = some result ∧ refuses result fault)
      (read index reads : Operation (Desk α σ) Unit) := by
  intro desk ready fault native
  rw [outcome_read]
  cases found : desk.results[index]? with
  | none =>
      constructor
      · nofun
      · rintro ⟨result, impossible, -⟩
        cases found.symm.trans impossible
  | some result =>
      have known := same result (ready.results result (List.mem_of_getElem? found)) fault native
      rw [Option.elim_some]
      constructor
      · intro fails
        refine ⟨result, found, known.mp ?_⟩
        cases read : (reads result).1 with
        | error reason =>
            rw [read] at fails
            cases fails
            rfl
        | ok value =>
            rw [read] at fails
            cases fails
      · rintro ⟨given, isGiven, refused⟩
        cases found.symm.trans isGiven
        rw [known.mpr refused]
        rfl

/-- The driver is as it was, and no hook was registered. -/
structure Aside (before after : Gateway α) : Prop where
  driver : after.driver = before.driver
  unhooked : (forall id, (before.entry id).hooks = []) -> forall id, (after.entry id).hooks = []

instance : IsPreorder (Gateway α) Aside where
  refl _ := ⟨rfl, id⟩
  trans _ _ _ first second :=
    ⟨second.driver.trans first.driver, second.unhooked ∘ first.unhooked⟩

/-- Making a database is beside the driver. -/
theorem ofRequest_aside (request : Database.Request) (registry tracker : Scope) :
    (Database.ofRequest request registry tracker :
      Operation (Gateway α) Database).Respects Aside := by
  have adds (params : ConnectionParams) (nestable : Bool) :
      (Gateway.addEntry (.ofParams params nestable) : Operation (Gateway α) Nat).Respects
        Aside := by
    refine fun gateway => ⟨rfl, fun unhooked id => ?_⟩
    change ((gateway.setEntry gateway.entries.size (.ofParams params nestable)).entry id).hooks = []
    rw [Gateway.entry_setEntry]
    split
    · rfl
    · exact unhooked id
  have configured : (Database.configuredEntry true : Operation (Gateway α) Nat).Respects Aside :=
    .bind .get fun _ => .bind (.ofExcept _) fun params => adds params true
  have shared : (Database.sharedEntry registry : Operation (Gateway α) Nat).Respects Aside := by
    refine .bind .get fun _ => ?_
    refine .bind (.ofExcept _) fun _ => ?_
    refine .bind (.bind .get fun _ => .pure _) fun found => ?_
    split
    · exact .pure _
    · exact .bind configured fun _ => .bind (.modify fun _ => ⟨rfl, id⟩) fun _ => .pure _
  unfold Database.ofRequest
  split
  · exact .throw _
  · simp only
    split
    · exact .bind (.ofExcept _) fun params => .bind (adds params true) fun _ => .pure _
    · split
      · exact .bind configured fun _ => .pure _
      · exact .bind shared fun _ => .pure _

/-- What comes of an operation beside the driver may be ignored. -/
theorem observe_keeps {operation : Operation (Gateway α) β} (aside : operation.Respects Aside) :
    reporting.Keeps (fun _ => True) (Operation.observe
      (work (Session.library operation : Operation (Session α σ) β) : Operation (Desk α σ) β)) := by
  intro desk ready
  have changed := aside desk.session.gateway
  let working : Operation (Desk α σ) β := work (Session.library operation)
  have observed := Operation.observe_eq working desk
  have left : working.after desk =
      { desk with session := (Session.library operation).after desk.session } :=
    Operation.after_within _ _ _ desk
  have gateway : (working.after desk).session.gateway = operation.after desk.session.gateway := by
    rw [left]
    exact Session.gateway_library operation desk.session
  have results : (working.after desk).results = desk.results := by rw [left]
  rw [Operation.after_of_ok observed, Operation.outcome_of_ok observed]
  refine ⟨⟨⟨?_, ?_⟩, ?_⟩, trivial, .of_same ?_⟩
  · rw [gateway, changed.driver]
    exact ready.gateway.driver
  · rw [gateway]
    exact changed.unhooked ready.gateway.unhooked
  · rw [results]
    exact ready.results
  · rw [gateway, changed.driver]

end Desk

namespace Use

variable {α σ : Type}

/-! ## What leaves a use as it is -/

/-- A use meets a fault of the driver where nothing is in its way.  A row that is to be handed out
holds a large object that cannot be read: a row of a result that the caller has, of the result of
the query that a fetch helper runs, or of that of the query by which a helper for single tables asks
for rows.  Or a statement is prepared, and the grammar that it is checked by fails with the fault. -/
def Leaks (runner : HookRunner α σ) (fault : Fault) (desk : Desk α σ) : Use → Prop
  | .fetchRow index _ =>
    exists result, desk.results[index]? = some result ∧ result.RefusesRow fault
  | .fetchAll index _ =>
    exists result, desk.results[index]? = some result ∧ result.RefusesRows fault
  | .fetchFirstRow database template values _ | .fetchValue database template values =>
    (database.query runner template values).Gives desk.session fun result _ =>
      result.RefusesRow fault
  | .fetchRows database template values mode column =>
    (exists form, Database.resolveMode mode column = .ok form) ∧
      (database.query runner template values).Gives desk.session fun result _ =>
        result.RefusesRows fault
  | .update database table _ choice =>
    Database.LeaksChosen choice fun restriction =>
      (database.query runner (Database.countTemplate table restriction)
        (Database.valuesOf (Database.conditions choice))).Gives desk.session fun result _ =>
          result.RefusesRow fault
  | .insertOrUpdate database table _ choice =>
    Database.LeaksChosen choice fun restriction =>
      (database.query runner (Database.keyTemplate table restriction)
        (Database.valuesOf (Database.conditions choice))).Gives desk.session fun result _ =>
          result.RefusesRows fault
  | .prepare database template =>
    Gateway.ChecksInVain (database.prepare template) desk.session.gateway fault
  | _ => False

/-- An operation that keeps to the boundary where faults of the driver are passed on, and the faults
that it does pass on. -/
structure PassesOn {β : Type} (ensures : β → Prop) (leaks : Desk α σ → Fault → Prop)
    (operation : Operation (Desk α σ) β) : Prop where
  keeps : Desk.passing.Keeps ensures operation
  leaks : Desk.passing.Leaks leaks operation

namespace PassesOn

variable {β : Type} {ensures : β → Prop} {leaks : Desk α σ → Fault → Prop}

theorem of_reports {operation : Operation (Desk α σ) β}
    (keeps : Desk.reporting.Keeps ensures operation) :
    PassesOn ensures (fun _ _ => False) operation where
  keeps := keeps.widen rfl rfl fun _ => Or.inl
  leaks desk ready := Boundary.Leaks.of_keeps keeps (fun _ reports => reports.isNative) desk ready

theorem of_session {leaks : Session α σ → Fault → Prop} {operation : Operation (Session α σ) β}
    (keeps : Session.passing.Keeps ensures operation)
    (leaky : Session.passing.Leaks leaks operation) :
    PassesOn ensures (fun desk => leaks desk.session) (Desk.work operation) where
  keeps := Desk.work_keeps keeps
  leaks := .within leaky fun _ ready => ready.gateway

theorem bind {γ : Type} {promises : γ → Prop} {operation : Operation (Desk α σ) β}
    {next : β → Operation (Desk α σ) γ} (passes : PassesOn ensures leaks operation)
    (rest : forall value, ensures value -> Desk.reporting.Keeps promises (next value)) :
    PassesOn promises leaks (operation >>= next) where
  keeps := .bind passes.keeps fun value ensured => (of_reports (rest value ensured)).keeps
  leaks := .before passes.leaks passes.keeps fun value ensured =>
    (of_reports (rest value ensured)).leaks

/-- To say that there was something to do passes nothing on. -/
theorem done {operation : Operation (Desk α σ) β} (passes : PassesOn ensures leaks operation) :
    PassesOn (fun done => done = true) leaks (do let _ ← operation; return true) :=
  passes.bind fun _ _ => .pure rfl

end PassesOn

/-- Every use but a deletion keeps to the boundary, and passes on what it leaks. -/
theorem perform_passesOn (runner : HookRunner α σ) {use : Use}
    (noDeletion : forall database table choice reporting,
      use ≠ .delete database table choice reporting) :
    PassesOn (fun done => done = true) (fun desk fault => use.Leaks runner fault desk)
      (use.perform runner : Operation (Desk α σ) Bool) := by
  have reports {β : Type} {ensures : β → Prop} {operation : Operation (Session α σ) β}
      (keeps : Session.reporting.Keeps ensures operation) :
      PassesOn ensures (fun _ _ => False) (Desk.work operation) :=
    .of_reports (Desk.work_keeps keeps)
  have library {β : Type} {operation : Operation (Gateway α) β}
      (keeps : Gateway.reporting.Keeps (fun _ => True) operation) :
      PassesOn (fun done => done = true) (fun _ _ => False)
        (do let _ ← Desk.work (Session.library operation); return true) :=
    (reports (Session.library_keeps keeps)).done
  cases use with
  | configure config =>
      exact library (Gateway.modify_keeps (fun _ => rfl) fun _ unhooked => unhooked)
  | make request registry tracker =>
      exact (PassesOn.of_reports
        (Desk.observe_keeps (Desk.ofRequest_aside request registry tracker))).done
  | query database template values =>
      exact (reports (Database.query_keeps runner database template values)).bind
        fun result native => .bind (Desk.keepResult_keeps native) fun _ _ => .pure rfl
  | prepare database template =>
      have prepares : PassesOn (fun _ => True)
          (fun desk => Gateway.ChecksInVain (database.prepare template) desk.session.gateway)
          (Desk.work (Session.library (database.prepare template)) : Operation (Desk α σ) _) :=
        .of_session (Session.library_keeps_boundary (Database.prepare_keeps database template))
          (.within (Database.prepare_leaks database template) fun _ ready => ready)
      exact prepares.bind fun statement _ =>
        .bind (Desk.keepStatement_keeps statement) fun _ _ => .pure rfl
  | executePrepared index values =>
      refine .of_reports (.bind .get fun desk _ => ?_)
      split
      · exact .pure rfl
      · exact .bind (Desk.work_keeps (Database.execute_keeps runner _ _ values))
          fun result native => .bind (Desk.keepResult_keeps native) fun _ _ => .pure rfl
  | fetchRow index mode =>
      exact (PassesOn.mk
        (Desk.read_keeps index (fun _ native => QueryResult.fetchRow_failsNatively native mode)
          fun _ native => QueryResult.fetchRow_faults native mode)
        (Desk.read_leaks index fun _ native _ isNative =>
          QueryResult.fetchRow_eq_error_iff native isNative mode)).done
  | fetchAll index mode =>
      exact (PassesOn.mk
        (Desk.read_keeps index (fun _ native => QueryResult.fetchAll_failsNatively native mode)
          fun _ native => QueryResult.fetchAll_faults native mode)
        (Desk.read_leaks index fun _ native _ isNative =>
          QueryResult.fetchAll_eq_error_iff native isNative mode)).done
  | free index =>
      refine .of_reports (.bind .get fun desk ready => ?_)
      split
      · exact .pure rfl
      · rename_i result found
        have native := ready.results result (List.mem_of_getElem? found)
        exact .bind (Desk.work_keeps (Database.free_keeps native)) fun _ _ =>
          .bind (Desk.replaceResult_keeps index ⟨native.response, native.driverFaults⟩)
            fun _ _ => .pure rfl
  | act action database => exact library (Database.perform_keeps action database)
  | lastInsertId database => exact library (Database.lastInsertId_keeps database)
  | disconnect database => exact library (Gateway.disconnect_keeps _ _)
  | fetchFirstRow database template values mode =>
      exact (PassesOn.of_session (Database.fetchFirstRow_keeps runner database template values mode)
        (Database.fetchFirstRow_leaks runner database template values mode)).done
  | fetchValue database template values =>
      exact (PassesOn.of_session (Database.fetchValue_keeps runner database template values)
        (Database.fetchValue_leaks runner database template values)).done
  | fetchRows database template values mode column =>
      exact (PassesOn.of_session
        (Database.fetchAll_keeps runner database template values mode column)
        (Database.fetchAll_leaks runner database template values mode column)).done
  | insert database table values =>
      exact (reports (Database.insert_keeps runner database table values)).done
  | update database table values choice =>
      exact (PassesOn.of_session (Database.update_keeps runner database table values choice)
        (Database.update_leaks runner database table values choice)).done
  | insertOrUpdate database table values choice =>
      exact (PassesOn.of_session
        (Database.insertOrUpdate_keeps runner database table values choice)
        (Database.insertOrUpdate_leaks runner database table values choice)).done
  | delete database table choice reporting => exact absurd rfl (noDeletion _ _ _ _)

/-! ## What a use may come to -/

/-- What an operation may come to over a failing driver.  Its fault is one of the driver, or reports
one, or the driver has no part in it and no call failed but the end of a cursor.  An operation that
is to report its failure denies that it was done instead of reporting the driver. -/
def Answers (isReporting : Bool) (before after : Native.Driver) : Except Fault Bool → Prop
  | .ok true => before.Adds Native.Event.IsHarmless after
  | .ok false => isReporting = true
  | .error fault =>
    fault.kind.isNative = true ∨ isReporting = false ∧ fault.ReportsDriver ∨
      fault.involvesDriver = false ∧ before.Adds Native.Event.IsHarmless after

theorem answers_of_allows {before after : Desk α σ} {outcome : Except Fault Bool}
    (allowed : Desk.passing.Allows (fun done => done = true) before after outcome) :
    Answers false before.session.gateway.driver after.session.gateway.driver outcome := by
  cases outcome with
  | error fault =>
      rcases allowed with (reports | native) | silent
      · exact Or.inr (Or.inl ⟨rfl, reports⟩)
      · exact Or.inl native
      · exact Or.inr (Or.inr silent)
  | ok done =>
      rcases allowed with ⟨isDone, harmless⟩
      subst isDone
      exact harmless

/-- A deletion that is to report its failure answers every fault of the library, and so every
failure of the driver. -/
theorem delete_answers (runner : HookRunner α σ) (database : Database) (table : String)
    (choice : Value) (reporting : Bool) {session : Session α σ}
    (ready : session.gateway.FailsNatively) :
    let deletion := database.delete runner table choice reporting
    (deletion.after session).gateway.FailsNatively ∧
      Answers reporting session.gateway.driver (deletion.after session).gateway.driver
        (deletion.outcome session) ∧
      forall fault, fault.kind.isNative = true -> deletion.outcome session ≠ .error fault := by
  intro deletion
  let rows := database.deleteRows runner table choice
  rcases Database.deleteRows_keeps runner database table choice session ready with ⟨left, allowed⟩
  unfold deletion Database.delete
  rw [Operation.after_observe_bind, Operation.outcome_observe_bind]
  cases found : rows.outcome session with
  | ok done =>
      rw [found] at allowed
      exact ⟨left, allowed.2, fun _ _ => nofun⟩
  | error fault =>
      rw [found] at allowed
      by_cases answered : (fault.kind.isLibrary && reporting) = true
      · simp only [answered, if_true]
        refine ⟨⟨left.driver, left.unhooked⟩, ?_, fun _ _ => nofun⟩
        exact (Bool.and_eq_true_iff.mp answered).2
      · simp only [answered]
        rcases allowed with reports | ⟨tame, harmless⟩
        · have library : fault.kind.isLibrary = true := by
            rw [reports.1]
            rfl
          have refused : reporting = false := by
            rw [library, Bool.true_and] at answered
            exact Bool.eq_false_iff.mpr answered
          refine ⟨left, Or.inr (Or.inl ⟨refused, reports⟩), fun other native same => ?_⟩
          cases same
          cases reports.isNative.symm.trans native
        · refine ⟨left, Or.inr (Or.inr ⟨tame, harmless⟩), fun other native same => ?_⟩
          cases same
          cases (fault.isNative_of_tame tame).symm.trans native

/-- What a use comes to over a driver that fails with its own faults, which of these leave it as they
are, and what it leaves. -/
theorem perform_answers (runner : HookRunner α σ) (use : Use) {desk : Desk α σ}
    (ready : desk.FailsNatively) :
    ((use.perform runner).after desk).FailsNatively ∧
      Answers use.isReporting desk.session.gateway.driver
        ((use.perform runner).after desk).session.gateway.driver
        ((use.perform runner).outcome desk) ∧
      forall fault, fault.kind.isNative = true ->
        ((use.perform runner).outcome desk = .error fault ↔ use.Leaks runner fault desk) := by
  have plain {use : Use} (noDeletion : forall database table choice reporting,
      use ≠ .delete database table choice reporting) :
      ((use.perform runner).after desk).FailsNatively ∧
        Answers false desk.session.gateway.driver
          ((use.perform runner).after desk).session.gateway.driver
          ((use.perform runner).outcome desk) ∧
        forall fault, fault.kind.isNative = true ->
          ((use.perform runner).outcome desk = .error fault ↔ use.Leaks runner fault desk) := by
    have passes := perform_passesOn runner noDeletion
    rcases passes.keeps desk ready with ⟨left, allowed⟩
    exact ⟨left, answers_of_allows allowed, passes.leaks desk ready⟩
  cases use with
  | delete database table choice reporting =>
      obtain ⟨left, answers, silent⟩ :=
        delete_answers runner database table choice reporting ready.gateway
      let deletion := database.delete runner table choice reporting
      have after : (Desk.work deletion).after desk =
          { desk with session := deletion.after desk.session } :=
        Operation.after_within _ _ _ desk
      have outcome : (Desk.work deletion).outcome desk = deletion.outcome desk.session :=
        Operation.outcome_within _ _ _ desk
      change ((Desk.work deletion).after desk).FailsNatively ∧
        Answers reporting _ ((Desk.work deletion).after desk).session.gateway.driver
          ((Desk.work deletion).outcome desk) ∧
        forall fault, fault.kind.isNative = true ->
          ((Desk.work deletion).outcome desk = .error fault ↔ False)
      rw [after, outcome]
      exact ⟨⟨left, ready.results⟩, answers, fun fault native =>
        iff_false_intro (silent fault native)⟩
  | _ => exact plain nofun

theorem performAll_failsNatively (runner : HookRunner α σ) (uses : List Use) {desk : Desk α σ}
    (ready : desk.FailsNatively) : (performAll runner uses desk).FailsNatively := by
  induction uses generalizing desk with
  | nil => exact ready
  | cons use rest inductionHypothesis =>
      exact inductionHypothesis (use.perform_answers runner ready).1

/-- A fault of the driver. -/
def lost : Fault := .foreign .driver (some "connection lost") none

/-- A database in memory whose driver fails to read a large object in the answer to the second
statement, loses the connection in the third, and cannot close cursors. -/
def losing : Desk Unit Unit :=
  let unreadable : Native.Response := { columns := some ["b"], rows := [[.locator (.error lost)]] }
  let driver : Native.Driver :=
    .ofScript [{ closeError := some lost }, unreadable, { error := some lost }]
      [(.closeCursor, [some lost, some lost]), (.commit, [some lost])] [] (.int 0)
  ⟨⟨Gateway.openMemory.after (.ofDriver driver), ()⟩, [], []⟩

theorem losing_failsNatively : losing.FailsNatively where
  gateway := {
    driver := {
      responses := by
        intro response member
        have listed : response ∈ [({ closeError := some lost } : Native.Response),
            { columns := some ["b"], rows := [[.locator (.error lost)]] },
            { error := some lost }] := member
        rcases List.mem_cons.mp listed with rfl | listed
        · exact ⟨nofun, nofun, fun _ same => by cases same; rfl, nofun⟩
        · rcases List.mem_cons.mp listed with rfl | last
          · refine ⟨nofun, nofun, nofun, fun row fault inRows inRow => ?_⟩
            rw [List.mem_singleton.mp inRows] at inRow
            cases List.mem_singleton.mp inRow
            rfl
          · rw [List.mem_singleton.mp last]
            exact ⟨fun _ same => by cases same; rfl, nofun, nofun, nofun⟩
      failures := by
        intro point failures fault found member
        cases point <;> cases found
        · rcases List.mem_cons.mp member with same | last
          · cases same
            exact Or.inl rfl
          · cases List.mem_singleton.mp last
            exact Or.inl rfl
        · cases List.mem_singleton.mp member
          exact Or.inl rfl }
    unhooked := by
      intro id
      cases id <;> rfl }
  results := nofun

/-- What a caller did before the connection is lost. -/
def beforeLoss : List Use :=
  [.act .begin .memory, .query .memory "SELECT 1" [], .free 0,
    .query .memory "SELECT [b]\x7bb\x7d FROM t" []]

end Use
end SqlGateway
