import SqlGateway.Proofs.Operation.Success
import SqlGateway.Proofs.Session.Registrations
import SqlGateway.Proofs.Session.Resemblance
import SqlGateway.Proofs.Session.StatementCalls

namespace SqlGateway

/-!
# The hooks around a query

A query looks once which hooks its entry has: when the parameters of its statement have been given.
It calls the callbacks of these hooks that come before the statement, then the driver, then the
callbacks that come after it, until one of the calls fails.  A callback may register hooks and take
hooks out at any time.  This does not change which callbacks the query calls, and when it is over
the hooks are those that the requests of the callbacks made of them.

If the template cannot be compiled, the database cannot be connected or a parameter cannot be given,
then nothing is called.
-/

open Native (Call Driver Event Proceeds)

/-- A call that opens a connection or prepares it. -/
def Native.Call.opens : Call → Prop
  | .serviceName _ _ _ | .connect _ _ | .setAutocommit _ _ => True
  | _ => False

/-! ## Callbacks on the record -/

/-- The runner of hooks that has each call recorded, with its fault, when the callback is done.  The
caller says how a callback is named there. -/
def HookRunner.told {α σ : Type} (label : String → α → String) (runner : HookRunner α σ) :
    HookRunner α σ :=
  fun name phase callback sql => do
    let outcome ← Operation.observe (runner name phase callback sql)
    Session.driver (Native.finish (.hook (label name callback) phase sql)
      (Operation.failure? outcome))

/-- The call of a hook in a phase, if it has a callback for it. -/
def Hook.call? {α : Type} (label : String → α → String) (phase : Native.HookPhase) (sql : String)
    (hook : Hook α) : Option Call :=
  (hook.callback phase).map fun callback => .hook (label hook.name callback) phase sql

namespace Session

variable {α σ : Type}

/-- No cursor was opened. -/
def KeepsCursors (before after : Session α σ) : Prop :=
  after.gateway.driver.cursors = before.gateway.driver.cursors

instance : IsPreorder (Session α σ) KeepsCursors where
  refl _ := rfl
  trans _ _ _ first second := second.trans first

/-- Connections may have been opened, and that is all that was done: the caller was not asked for
anything, and the hooks are what they were. -/
structure Readies (before after : Session α σ) : Prop where
  hooks : before.gateway.KeepsHooks after.gateway
  caller : after.caller = before.caller
  events : before.gateway.driver.Adds (fun event => event.call.opens) after.gateway.driver

instance : IsPreorder (Session α σ) Readies where
  refl _ := ⟨refl_of Gateway.KeepsHooks _, rfl, refl_of (Driver.Adds _) _⟩
  trans _ _ _ first second :=
    ⟨trans_of Gateway.KeepsHooks first.hooks second.hooks, second.caller.trans first.caller,
      trans_of (Driver.Adds _) first.events second.events⟩

theorem library_readies {β : Type} {operation : Operation (Gateway α) β}
    (hooks : operation.Respects Gateway.KeepsHooks)
    (events : operation.Respects (Gateway.Adds fun event => event.call.opens)) :
    (library operation : Operation (Session α σ) β).Respects Readies := by
  intro session
  refine ⟨?_, caller_library operation session, ?_⟩
  · rw [gateway_library]
    exact hooks session.gateway
  · rw [gateway_library]
    exact events session.gateway

end Session

namespace Database

open Session (ArrangesHooks Arranged Explained Proceeding KeepsCursors library)

variable {α σ : Type} {runner : HookRunner α (Diary α σ)} {label : String → α → String}

section Telling

variable (name : String) (phase : Native.HookPhase) (callback : α) (sql : String)

/-- Telling of a callback does not change what comes of it. -/
theorem told_outcome {σ : Type} (runner : HookRunner α σ) (session : Session α σ) :
    (runner.told label name phase callback sql).outcome session =
      (runner name phase callback sql).outcome session := by
  rw [HookRunner.told, Operation.outcome_observe_bind, Session.driver, Session.outcome_library,
    Gateway.onDriver, Operation.outcome_within]
  cases (runner name phase callback sql).outcome session <;> rfl

theorem told_driver {σ : Type} (runner : HookRunner α σ) (session : Session α σ) :
    ((runner.told label name phase callback sql).after session).gateway.driver =
      ((runner name phase callback sql).after session).gateway.driver.record
        (.hook (label name callback) phase sql)
        (Operation.failure? ((runner name phase callback sql).outcome session)) := by
  rw [HookRunner.told, Operation.after_observe_bind, Session.driver, Session.gateway_library,
    Gateway.onDriver, Operation.after_within]
  cases (runner name phase callback sql).outcome session <;> rfl

end Telling

section Callbacks

variable
  (callbacks : forall name phase callback sql, ArrangesHooks (runner name phase callback sql))
  (name : String) (phase : Native.HookPhase) (callback : α) (sql : String)
include callbacks

theorem told_proceeds (session : Session α (Diary α σ)) :
    Proceeding [.hook (label name callback) phase sql]
      (runner.told label name phase callback sql) session := by
  have silent := ((callbacks name phase callback sql).arranged session).driver
  refine .of_call (Operation.failure? ((runner name phase callback sql).outcome session)) ?_ ?_
  · rw [told_driver, silent]
    rfl
  · rw [told_outcome]
    cases (runner name phase callback sql).outcome session <;> rfl

theorem told_explained : (runner.told label name phase callback sql).Respects Explained :=
  .bind (.observe ((callbacks name phase callback sql).arranged.mono
    fun _ _ arranged => arranged.toExplained)) fun _ =>
    Session.library_explained (Gateway.respects_keepsHooks (Gateway.onDriver_untouched _))

theorem told_keepsCursors : (runner.told label name phase callback sql).Respects KeepsCursors := by
  refine .bind (.observe ((callbacks name phase callback sql).arranged.mono
    fun _ _ arranged => congrArg Driver.cursors arranged.driver)) fun outcome session => ?_
  rw [KeepsCursors, Session.driver, Session.gateway_library, Gateway.onDriver,
    Operation.after_within]
  cases Operation.failure? outcome <;> rfl

omit name callback

theorem runHook_proceeds (label : String → α → String) (hook : Hook α)
    (session : Session α (Diary α σ)) :
    Proceeding (hook.call? label phase sql).toList
      (runHook (runner.told label) phase sql hook) session := by
  unfold runHook Hook.call?
  cases hook.callback phase with
  | none => exact .of_silent rfl rfl
  | some callback =>
      exact .afterSilent (.of_silent rfl rfl) fun _ _ =>
        told_proceeds callbacks hook.name phase callback sql _

/-- The callbacks are called in the order of their hooks. -/
theorem runHooks_proceeds (label : String → α → String) (hooks : List (Hook α))
    (session : Session α (Diary α σ)) :
    Proceeding (hooks.filterMap (Hook.call? label phase sql))
      (runHooks (runner.told label) phase sql hooks) session := by
  induction hooks generalizing session with
  | nil => exact .of_silent rfl rfl
  | cons hook rest inductionHypothesis =>
      have first := runHook_proceeds callbacks phase sql label hook session
      rw [List.filterMap_cons]
      cases called : hook.call? label phase sql with
      | none =>
          rw [called] at first
          exact first.bind fun _ _ => inductionHypothesis _
      | some call =>
          rw [called] at first
          exact first.bind fun _ _ => inductionHypothesis _

omit phase sql

theorem runHooks_explained (phase : Native.HookPhase) (sql : String) (hooks : List (Hook α)) :
    (runHooks (runner.told label) phase sql hooks).Respects Explained :=
  runHooks_respects
    (fun _ _ _ _ => Session.library_explained
      (Gateway.respects_keepsHooks (Gateway.write_untouched _ _ _ _)))
    (fun _ _ => told_explained callbacks _ _ _ _) hooks

theorem runHooks_keepsCursors (phase : Native.HookPhase) (sql : String) (hooks : List (Hook α)) :
    (runHooks (runner.told label) phase sql hooks).Respects KeepsCursors :=
  runHooks_respects (fun _ _ _ _ _ => rfl) (fun _ _ => told_keepsCursors callbacks _ _ _ _) hooks

end Callbacks

/-! ## Queries -/

variable (database : Database)

/-- Compile a template, connect the database, and give the placeholders their values. -/
def bound (template : String) (values : List Value) :
    Operation (Session α σ) (ParsedQuery × Handle × List Value) := do
  let query ← library (database.compile template)
  let handle ← library database.handle
  let parameters ← .ofExcept (Parameter.bind query values handle.adapter.coercion)
  return (query, handle, parameters)

/-- The calls of a statement and of the hooks that are registered when its parameters have been
given. -/
def queryCalls (label : String → α → String) (query : ParsedQuery) (handle : Handle)
    (parameters : List Value) (gateway : Gateway α) : List Call :=
  (gateway.hooks database.entry).filterMap (Hook.call? label .before query.sql) ++
    (database.statementCalls handle query.sql parameters gateway ++
      (gateway.hooks database.entry).filterMap (Hook.call? label .after query.sql))

theorem query_eq (runner : HookRunner α σ) (template : String) (values : List Value) :
    database.query runner template values =
      database.bound template values >>= fun (query, handle, parameters) =>
        database.conduct runner query handle parameters := by
  unfold Database.query execute bound conduct
  simp only [bind_assoc, pure_bind]

theorem statementCalls_congr {handle : Handle} {sql : String} {parameters : List Value}
    {before after : Session α (Diary α σ)} (cursors : KeepsCursors before after)
    (explained : Explained before after) :
    database.statementCalls handle sql parameters after.gateway =
      database.statementCalls handle sql parameters before.gateway := by
  unfold statementCalls concludingCalls Gateway.tracker
  rw [cursors, explained.trackers]

section Conducting

variable
  (callbacks : forall name phase callback sql, ArrangesHooks (runner name phase callback sql))
  (query : ParsedQuery) (handle : Handle) (parameters : List Value)
include callbacks

/-- The calls of a query are made in order until one fails. -/
theorem conduct_proceeds (session : Session α (Diary α σ)) :
    Proceeding (database.queryCalls label query handle parameters session.gateway)
      (database.conduct (runner.told label) query handle parameters) session := by
  let hooks := session.gateway.hooks database.entry
  let called := (runHooks (runner.told label) .before query.sql hooks).after session
  have before := runHooks_proceeds callbacks .before query.sql label hooks session
  have same : database.statementCalls handle query.sql parameters called.gateway =
      database.statementCalls handle query.sql parameters session.gateway :=
    database.statementCalls_congr
      (runHooks_keepsCursors callbacks .before query.sql hooks session)
      (runHooks_explained callbacks .before query.sql hooks session)
  unfold conduct
  refine .afterSilent (.of_silent rfl rfl) fun entry read => ?_
  cases read
  refine before.bind fun _ _ => .afterSilent (.of_silent rfl rfl) fun _ _ => ?_
  rw [← same]
  refine (runStatement_proceeds query.sql parameters _).bind fun cursor _ => ?_
  exact (runHooks_proceeds callbacks .after query.sql label _ _).map _

theorem conduct_explained :
    (database.conduct (runner.told label) query handle parameters).Respects Explained := by
  have states : (database.runStatement handle query.sql parameters :
      Operation (Gateway α) Native.Cursor).Respects Gateway.KeepsHooks := by
    have lifts {β : Type} (operation : Operation Driver β) :
        (Gateway.onDriver operation : Operation (Gateway α) β).Respects Gateway.KeepsHooks :=
      Gateway.respects_keepsHooks (Gateway.onDriver_untouched _)
    refine .atBoundary _ _ (.bind (lifts _) fun cursor =>
      .bind (Gateway.changeEntry_keepsHooks _ fun entry => ?_) fun _ =>
      .bind (.bind .get fun _ => .pure _) fun _ => .bind (lifts _) fun _ => .pure _)
    split
    · split <;> rfl
    · rfl
  have writes (message : String) (fields : Option (List (String × Value))) :
      (Gateway.write .debug "base" message fields : Operation (Gateway α) Unit).Respects
        Gateway.KeepsHooks :=
    Gateway.respects_keepsHooks (Gateway.write_untouched _ _ _ _)
  refine .bind (Session.library_explained (.bind .get fun _ => .pure _)) fun entry => ?_
  refine .bind (runHooks_explained callbacks _ _ _) fun _ => ?_
  refine .bind (Session.library_explained (writes _ _)) fun _ => ?_
  refine .bind (Session.library_explained states) fun cursor => ?_
  refine .bind (runHooks_explained callbacks _ _ _) fun _ => ?_
  exact .pure _

end Conducting

/-- Until the parameters are given, nothing is called but what opens the connection. -/
theorem bound_readies (template : String) (values : List Value) :
    (database.bound template values : Operation (Session α σ) _).Respects Session.Readies := by
  have compiles : (database.compile template : Operation (Gateway α) ParsedQuery).Respects
      Gateway.KeepsHooks :=
    .bind (.bind .get fun _ => .pure _) fun _ =>
      Gateway.respects_keepsHooks (Gateway.compile_untouched _ _ _)
  have opens : (database.handle : Operation (Gateway α) Handle).Respects
      (Gateway.Adds fun event => event.call.opens) :=
    Gateway.connect_adds _ (fun _ _ _ _ => trivial) (fun _ _ _ => trivial) fun _ _ => trivial
  refine .bind (Session.library_readies compiles (database.compile_adds template)) fun _ => ?_
  refine .bind (Session.library_readies (Gateway.connect_keepsHooks _) opens) fun _ => ?_
  refine .bind (.ofExcept _) fun _ => ?_
  exact .pure _

/-- A query calls, in order and until one fails, the callbacks before its statement of the hooks
that are registered when its parameters have been given, the driver, and the callbacks after it of
the same hooks.  Until then it only opens the connection, and if that is not reached it calls
nothing.  In the end the hooks are what the requests of the callbacks made of them. -/
theorem query_follows_protocol
    (callbacks : forall name phase callback sql, ArrangesHooks (runner name phase callback sql))
    (label : String → α → String) (template : String) (values : List Value)
    (session : Session α (Diary α σ)) :
    let bound : Operation (Session α (Diary α σ)) _ := database.bound template values
    let reached := bound.after session
    session.Readies reached ∧
    (database.query (runner.told label) template values).Yields session fun outcome left =>
      match bound.outcome session with
      | .error fault => outcome = .error fault ∧ left = reached
      | .ok (query, handle, parameters) =>
        (exists trace, left.gateway.driver.events = reached.gateway.driver.events ++ trace ∧
          Proceeds (database.queryCalls label query handle parameters reached.gateway) trace
            (Operation.failure? outcome)) ∧
        exists notes, left.caller.notes = reached.caller.notes ++ notes ∧
          HookNote.Explain notes reached.gateway.hooks left.gateway.hooks := by
  intro bound reached
  refine ⟨database.bound_readies template values session, ?_⟩
  unfold Operation.Yields
  rw [query_eq, Operation.after_bind, Operation.outcome_bind]
  change match bound.outcome session with
    | .error fault => _
    | .ok (query, handle, parameters) => _
  cases bound.outcome session with
  | error fault => exact ⟨rfl, rfl⟩
  | ok given =>
      rcases given with ⟨query, handle, parameters⟩
      exact ⟨database.conduct_proceeds callbacks query handle parameters reached,
        (database.conduct_explained callbacks query handle parameters reached).notes⟩

/-- Callbacks of which the first takes the second hook out before the statement, and asks for it
again after the statement. -/
def dismissing : HookRunner Unit (Diary Unit Unit) := fun name _ _ _ =>
  if name = "first" then Session.takingOut memory (some 1) else pure ()

/-- A database in memory with two hooks, whose caller has an empty diary. -/
def attended : Session Unit (Diary Unit Unit) :=
  let gateway := (memory.registerHook "first" (some ()) (some ())).after Session.memory.gateway
  ⟨(memory.registerHook "second" (some ()) none).after gateway, ⟨[], ()⟩⟩

theorem query_follows_protocol_of_attended :
    (forall name phase callback sql, ArrangesHooks (dismissing name phase callback sql)) ∧
    exists reached,
      (memory.bound "SELECT 1" []).after attended = reached ∧ attended.Readies reached ∧
      (memory.query (dismissing.told fun name _ => name) "SELECT 1" []).Yields attended
        fun outcome left =>
          (exists trace, left.gateway.driver.events = reached.gateway.driver.events ++ trace ∧
            Proceeds [.hook "first" .before "SELECT 1", .hook "second" .before "SELECT 1",
              .execute (.opened 1) 1 "SELECT 1" (some []), .hook "first" .after "SELECT 1"] trace
              (Operation.failure? outcome)) ∧
          exists notes, left.caller.notes = reached.caller.notes ++ notes ∧
            HookNote.Explain notes reached.gateway.hooks left.gateway.hooks := by
  have callbacks (name : String) (phase : Native.HookPhase) (callback : Unit) (sql : String) :
      ArrangesHooks (dismissing name phase callback sql) := by
    unfold dismissing
    split
    · exact .takingOut memory (some 1)
    · exact .aside (fun session => ⟨refl_of Gateway.KeepsHooks _, rfl⟩) fun _ => rfl
  have follows := memory.query_follows_protocol callbacks (fun name _ => name) "SELECT 1" []
    attended
  exact ⟨callbacks, _, rfl, follows.1, follows.2⟩

end Database
end SqlGateway
