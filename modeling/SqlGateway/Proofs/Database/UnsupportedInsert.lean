import SqlGateway.Proofs.Database.InsertedRow
import SqlGateway.Proofs.Native.Unsupported

namespace SqlGateway

/-!
# Insertions that are not supported

An insertion answers the number of its row, and not every driver can tell it.  Whether this one can
is seen from what it says of the statement, or from its answer to the question for the number, and
so only when the statement has been run.  Nothing is asked of the driver before that.

An insertion that fails as unsupported has therefore inserted its row.  It would be wrong to try it
again.  The exception is a driver, or a callback that is called before the statement, that fails in
this way itself.
-/

namespace Native

/-- Whether a call takes back what the statements of an open transaction did. -/
def Call.takesBack : Call → Bool
  | .rollback _ | .close _ => true
  | _ => false

/-- An event that is foreign or leaves the rows as they are: nothing is taken back, and no statement
is sent but the question for the number of the row inserted last. -/
def LeavesRows (foreign : Event → Prop) (event : Event) : Prop :=
  foreign event ∨
    event.call.takesBack = false ∧ (event.call.statement?.isSome -> AsksLastId event)

theorem LeavesRows.of_silent {foreign : Event → Prop} {call : Call} (kept : call.takesBack = false)
    (unsent : call.statement? = none) (failure : Option Fault) :
    LeavesRows foreign ⟨call, failure⟩ := by
  refine Or.inr ⟨kept, fun sent => ?_⟩
  rw [unsent] at sent
  cases sent

end Native

namespace Database

open Native (Event SendsOnly AsksLastId LeavesRows Relays TakesEffect)
open Session (library native library_adds library_relays)

variable {α σ β : Type}

/-! ## The statement of a query -/

/-- An event in which a wanted statement was run on the connection of a handle and succeeded. -/
def Executed (wanted : Adapter → String × Option (List Value) → Prop) (event : Event) : Prop :=
  exists (handle : Handle) (cursor : Nat) (sql : String) (parameters : List Value),
    wanted handle.adapter (sql, some parameters) ∧
      event = ⟨.execute handle.connection cursor sql (some parameters), none⟩

theorem Executed.mono {wanted wider : Adapter → String × Option (List Value) → Prop}
    {event : Event} (executed : Executed wanted event)
    (implies : forall adapter statement, wanted adapter statement -> wider adapter statement) :
    Executed wider event := by
  rcases executed with ⟨handle, cursor, sql, parameters, isWanted, same⟩
  exact ⟨handle, cursor, sql, parameters, implies _ _ isWanted, same⟩

section Queries

variable {allowed foreign : Event → Prop} {database : Database} {session : Session α σ}

/-- What follows the statement on its connection may fail in any way. -/
theorem runStatement_takesEffect (handle : Handle) (sql : String) (parameters : List Value)
    (gateway : Gateway α) :
    TakesEffect Gateway.driver allowed
      (fun event => exists cursor,
        event = ⟨.execute handle.connection cursor sql (some parameters), none⟩)
      (LeavesRows foreign) (database.runStatement handle sql parameters) gateway := by
  rw [runStatement_eq]
  refine .atBoundary _ _ (.bind (.within ?_ rfl fun _ => rfl)
    (conclude_adds database (.of_silent rfl rfl)))
  exact Adapter.execute_takesEffect handle.connection sql parameters gateway.driver

variable {runner : HookRunner α σ}
  (hooks : forall name phase callback sql,
    (runner name phase callback sql).Respects (Session.Adds foreign))
  (relays : forall name callback sql, Relays native (runner name .before callback sql))
include hooks relays

theorem execute_takesEffect (query : ParsedQuery) (values : List Value) :
    TakesEffect native (SendsOnly foreign)
      (Executed fun adapter statement => exists parameters,
        Parameter.bind query values adapter.coercion = .ok parameters ∧
          statement = (query.sql, some parameters))
      (LeavesRows foreign) (database.execute runner query values) session := by
  have early (name : String) (phase : Native.HookPhase) (callback : α) (sql : String) :
      (runner name phase callback sql).Respects (Session.Adds (SendsOnly foreign)) :=
    (hooks name phase callback sql).mono fun _ _ adds => adds.mono fun _ isForeign _ => isForeign
  have late (name : String) (phase : Native.HookPhase) (callback : α) (sql : String) :
      (runner name phase callback sql).Respects (Session.Adds (LeavesRows foreign)) :=
    (hooks name phase callback sql).mono fun _ _ adds => adds.mono fun _ => Or.inl
  refine .of_bind
      (library_relays (Gateway.connect_relays _))
      (library_adds (handle_sendsOnly database)) fun handle _ _ => ?_
  refine .of_bind (.ofTame (Parameter.bind_tame _ _ _)) (.ofExcept _) fun parameters _ bound => ?_
  refine .of_bind
      (library_relays (Gateway.entryAt_relays _))
      (library_adds (Gateway.entryAt_adds _)) fun entry _ _ => ?_
  refine .of_bind
      (Session.runHooks_relays (fun _ _ => relays _ _ _) _)
      (runHooks_adds early _ _ _) fun _ _ _ => ?_
  refine .of_bind
      (library_relays (Gateway.write_relays _ _ _ _))
      (library_adds (Gateway.write_adds _ _ _ _)) fun _ announced _ => ?_
  have runs : TakesEffect native (SendsOnly foreign) _ (LeavesRows foreign)
      (library (database.runStatement handle query.sql parameters)) announced :=
    .within (runStatement_takesEffect handle query.sql parameters announced.gateway) rfl
      fun _ => rfl
  refine (runs.mono ?_ fun _ later => later).bind fun cursor =>
    .bind (runHooks_adds late _ _ _) fun _ => .pure _
  rintro event ⟨cursor, same⟩
  exact ⟨handle, cursor, query.sql, parameters,
    ⟨parameters, (Operation.ofExcept_eq_ok.mp bound).1, rfl⟩, same⟩

theorem query_takesEffect (template : String) (values : List Value) :
    TakesEffect native (SendsOnly foreign)
      (Executed fun adapter => database.Runs adapter template values session.gateway)
      (LeavesRows foreign) (database.query runner template values) session := by
  refine .of_bind
    (library_relays (.bind (Gateway.entryAt_relays _) fun _ => Gateway.compile_relays _ _ _))
    (library_adds (database.compile_adds template)) fun query middle compiled => ?_
  have found := Operation.outcome_of_ok compiled
  rw [Session.outcome_library] at found
  refine (execute_takesEffect hooks relays query values).mono ?_ fun _ later => later
  intro event executed
  refine executed.mono ?_
  rintro adapter statement ⟨parameters, bound, same⟩
  exact ⟨query, parameters, found, bound, same⟩

end Queries

/-! ## Insertions -/

/-- Between two states the statement that inserts a row was run and succeeded.  It is the only one
that was sent, but that the number of the row may be asked for after it, and nothing was taken back
since.  All this is up to foreign events, which are those of callbacks. -/
def RowInserted (foreign : Event → Prop) (database : Database) (table : String)
    (values : List (Value × Value)) (before after : Session α σ) : Prop :=
  before.native.Sends (SendsOnly foreign)
    (Executed fun adapter => database.Inserts adapter table values before.gateway)
    (LeavesRows foreign) after.native

/-- The rows that are to be updated are asked for, and there is none. -/
def FindsNone (runner : HookRunner α σ) (database : Database) (table : String) (choice : Value)
    (before after : Session α σ) : Prop :=
  exists restriction, assignments (conditions choice) " AND " = .ok restriction ∧
    database.fetchAll runner (keyTemplate table restriction) (valuesOf (conditions choice)) none
      (.int 0) before = .ok [] after

section Insertions

variable {foreign : Event → Prop} {runner : HookRunner α σ}
  (hooks : forall name phase callback sql,
    (runner name phase callback sql).Respects (Session.Adds foreign))
  (relays : forall name callback sql, Relays native (runner name .before callback sql))
include hooks relays

theorem insert_takesEffect (database : Database) (session : Session α σ) (table : String)
    (values : List (Value × Value)) :
    TakesEffect native (SendsOnly foreign)
      (Executed fun adapter => database.Inserts adapter table values session.gateway)
      (LeavesRows foreign) (database.insert runner table values) session := by
  refine .of_bind .get .get ?_
  rintro _ _ ⟨⟩
  refine .of_bind (.ofTame (newRow_tame _ _)) (.ofExcept _) fun entries _ made => ?_
  rcases Operation.ofExcept_eq_ok.mp made with ⟨isNew, rfl⟩
  refine .of_bind (.ofTame (insertion_tame _ _)) (.ofExcept _) fun template _ put => ?_
  rcases Operation.ofExcept_eq_ok.mp put with ⟨isTemplate, rfl⟩
  refine .bind (.bind ?_ fun result => free_adds (.of_silent rfl rfl)) fun _ =>
    library_adds (lastInsertId_adds database (fun _ _ _ _ => .of_silent rfl rfl _)
      (fun _ _ => .of_silent rfl rfl) (fun _ => .of_silent rfl rfl)
      (fun _ _ => .of_silent rfl rfl _) (fun adapter sql asked connection cursor _ =>
        Or.inr ⟨rfl, fun _ => ⟨adapter, sql, connection, cursor, asked, rfl⟩⟩)
      fun _ _ => .of_silent rfl rfl)
  refine (query_takesEffect hooks relays template (valuesOf entries)).mono ?_ fun _ later => later
  intro event executed
  exact executed.mono fun _ _ runs => ⟨entries, template, isNew, isTemplate, runs⟩

/-- An insertion that fails as unsupported has inserted its row, and an update that becomes an
insertion has inserted the row that it completed, unless a call of the driver failed in this
way. -/
theorem unsupported_insert_inserted (database : Database) (session : Session α σ) (table : String)
    (values : List (Value × Value)) :
    (forall fault left, database.insert runner table values session = .error fault left ->
      fault.isUnsupported = true ->
      session.native.Declines left.native ∨
        database.RowInserted foreign table values session left) ∧
    (forall choice asked, database.FindsNone runner table choice session asked ->
      forall fault left,
        database.insertOrUpdate runner table values choice session = .error fault left ->
        fault.isUnsupported = true ->
        asked.native.Declines left.native ∨
          database.RowInserted foreign table (completed values (conditions choice)) asked left) := by
  constructor
  · exact (insert_takesEffect hooks relays database session table values).unsupported
  · rintro choice asked ⟨restriction, isRestriction, found⟩ fault left fails unsupported
    have reached : database.insertOrUpdate runner table values choice session =
        (database.insert runner table (completed values (conditions choice)) >>= fun id =>
          pure (.int id)) asked := by
      unfold insertOrUpdate
      dsimp only
      rw [isRestriction]
      exact Operation.bind_of_ok found _
    rw [reached] at fails
    rcases Operation.error_of_bind fails with failed | ⟨_, _, -, impossible⟩
    · exact (insert_takesEffect hooks relays database asked table _).unsupported fault left failed
        unsupported
    · cases impossible

end Insertions

/-- A Firebird database over a driver that says nothing of the rows that it inserts. -/
def unnumbered : Session Unit Unit :=
  unopened ⟨.firebird, .text "d", .text "h", none, .text "u", .text "p", []⟩
    (.ofScript [] [] [] (.int 0))

/-- An insertion fails as unsupported, although no call of the driver failed. -/
theorem unnumbered_insert :
    exists fault left,
      memory.insert Session.idleHooks "t" nameRow unnumbered = .error fault left ∧
      fault.isUnsupported = true ∧ ¬ unnumbered.native.Declines left.native := by
  let inserts : Operation (Session Unit Unit) Int := memory.insert Session.idleHooks "t" nameRow
  have refused : (Operation.failure? (inserts.outcome unnumbered)).map Fault.isUnsupported =
      some true := by
    decide +kernel
  have unfailing : (inserts.after unnumbered).native.events.all
      (fun event => event.failure.isNone) = true := by
    decide +kernel
  rcases Operation.error_of_failure? refused with ⟨fault, fails, unsupported⟩
  exact ⟨fault, _, fails, unsupported, Native.Driver.not_declines_of_unfailing unfailing⟩

/-- So does an update of a row that is not there, which becomes an insertion. -/
theorem unnumbered_insertOrUpdate :
    exists asked fault left,
      memory.FindsNone Session.idleHooks "t" (.int 7) unnumbered asked ∧
      memory.insertOrUpdate Session.idleHooks "t" nameRow (.int 7) unnumbered = .error fault left ∧
      fault.isUnsupported = true ∧ ¬ asked.native.Declines left.native := by
  let inserts : Operation (Session Unit Unit) Value :=
    memory.insertOrUpdate Session.idleHooks "t" nameRow (.int 7)
  let asks : Operation (Session Unit Unit) (List Value) :=
    memory.fetchAll Session.idleHooks (keyTemplate "t" "[RecordID] = %i") [.int 7] none (.int 0)
  have refused : (Operation.failure? (inserts.outcome unnumbered)).map Fault.isUnsupported =
      some true := by
    decide +kernel
  have unfailing : (inserts.after unnumbered).native.events.all
      (fun event => event.failure.isNone) = true := by
    decide +kernel
  have found : (asks.outcome unnumbered).toOption.map List.length = some 0 := by
    decide +kernel
  have asked : asks unnumbered = .ok [] (asks.after unnumbered) := by
    cases outcome : asks.outcome unnumbered with
    | error fault =>
        rw [outcome] at found
        cases found
    | ok keys =>
        rw [outcome] at found
        cases List.length_eq_zero_iff.mp (Option.some.inj found)
        exact Operation.run_of_ok outcome
  rcases Operation.error_of_failure? refused with ⟨fault, fails, unsupported⟩
  exact ⟨_, fault, _, ⟨"[RecordID] = %i", rfl, asked⟩, fails, unsupported,
    Native.Driver.not_declines_of_unfailing unfailing⟩

theorem unsupported_insert_inserted_of_unnumbered :
    (exists fault left,
      memory.insert Session.idleHooks "t" nameRow unnumbered = .error fault left ∧
      fault.isUnsupported = true ∧
      memory.RowInserted (fun _ => False) "t" nameRow unnumbered left) ∧
    exists asked fault left,
      memory.FindsNone Session.idleHooks "t" (.int 7) unnumbered asked ∧
      memory.insertOrUpdate Session.idleHooks "t" nameRow (.int 7) unnumbered = .error fault left ∧
      fault.isUnsupported = true ∧
      memory.RowInserted (fun _ => False) "t" (completed nameRow (conditions (.int 7))) asked
        left := by
  have silent (name : String) (phase : Native.HookPhase) (callback : Unit) (sql : String) :
      (Session.idleHooks name phase callback sql : Operation (Session Unit Unit) Unit).Respects
        (Session.Adds fun _ => False) :=
    .pure ()
  have known := unsupported_insert_inserted silent (fun _ _ _ => .pure) memory unnumbered "t"
    nameRow
  constructor
  · rcases unnumbered_insert with ⟨fault, left, fails, unsupported, undeclined⟩
    exact ⟨fault, left, fails, unsupported,
      (known.1 fault left fails unsupported).resolve_left undeclined⟩
  · rcases unnumbered_insertOrUpdate with
      ⟨asked, fault, left, findsNone, fails, unsupported, undeclined⟩
    exact ⟨asked, fault, left, findsNone, fails, unsupported,
      (known.2 _ asked findsNone fault left fails unsupported).resolve_left undeclined⟩

/-- The statement has succeeded when the insertion fails as unsupported. -/
theorem insert_of_unnumbered :
    (Operation.failure? ((memory.insert Session.idleHooks "t" nameRow).outcome unnumbered)).map
      Fault.kind = some (.library .notSupported) ∧
    ((memory.insert Session.idleHooks "t" nameRow).after unnumbered).native.events.map
        (fun event => (event.call.statement?.map Prod.fst, event.failure.isSome)) =
      [(none, false),
        (some "INSERT INTO \x22t\x22 (\x22CreationDate\x22,\x22name\x22) VALUES (?,?)", false),
        (none, false), (none, false)] := by
  constructor
  · decide +kernel
  · decide +kernel

end Database
end SqlGateway
