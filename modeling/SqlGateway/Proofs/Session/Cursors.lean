import SqlGateway.Database.Rows
import SqlGateway.Proofs.Native.Cursors
import SqlGateway.Proofs.Session.DriverWork
import SqlGateway.Proofs.Session.HookProtocol

namespace SqlGateway

/-!
# The cursors of queries

A query opens one cursor.  If it succeeds, the cursor is handed out with the result, and whoever
asked for the query closes it: the caller, or the operation of the library that needed the result.
If the query is broken off after its cursor was opened, nobody has the cursor, and it stays open.
All else that the library opens it closes, whatever fails.

Callbacks may open cursors if they close them again.
-/

open Native (Driver)

namespace Session

variable {α σ β γ : Type}

/-- An operation closes the cursors that it opens, unless a query is broken off in it: then it
fails, and one cursor is left open. -/
def ClosesUnlessBroken (ground : Nat) (operation : Operation (Session α σ) β) : Prop :=
  forall session, ground ≤ session.gateway.driver.cursors ->
    operation.Yields session fun outcome left =>
      OfDriver (Driver.Tidied ground) session left ∨
        (exists fault, outcome = .error fault) ∧
        exists number, session.gateway.driver.Abandons ground {number} left.gateway.driver

/-- An operation hands out a result whose cursor alone it leaves open.  If it fails, it leaves no
cursor open, unless a query is broken off in it. -/
def HandsOut (ground : Nat) (operation : Operation (Session α σ) QueryResult) : Prop :=
  forall session, ground ≤ session.gateway.driver.cursors ->
    operation.Yields session fun outcome left =>
      match outcome with
      | .ok result => result.closed = false ∧
          session.gateway.driver.Leaves ground {result.cursor.number} left.gateway.driver
      | .error _ => OfDriver (Driver.Tidied ground) session left ∨
          exists number, session.gateway.driver.Abandons ground {number} left.gateway.driver

/-- What follows a statement leaves no cursor open, and breaks the query off if it fails. -/
def Concludes (ground : Nat) (operation : Operation (Session α σ) β) : Prop :=
  forall session : Session α σ, session.gateway.driver.Concludes ground
    (operation.after session).gateway.driver (Operation.failure? (operation.outcome session))

variable {ground : Nat}

namespace ClosesUnlessBroken

theorem of_tidied {operation : Operation (Session α σ) β}
    (tidied : operation.Respects (OfDriver (Driver.Tidied ground))) :
    ClosesUnlessBroken ground operation :=
  fun session _ => Or.inl (tidied session)

theorem bind {first : Operation (Session α σ) β} {next : β → Operation (Session α σ) γ}
    (closes : ClosesUnlessBroken ground first)
    (rest : forall value, ClosesUnlessBroken ground (next value)) :
    ClosesUnlessBroken ground (first >>= next) := by
  intro session grounded
  have before := closes session grounded
  unfold Operation.Yields at before ⊢
  rw [Operation.outcome_bind, Operation.after_bind]
  cases made : first.outcome session with
  | error fault =>
      rw [made] at before
      exact before.imp id fun broken => ⟨⟨fault, rfl⟩, broken.2⟩
  | ok value =>
      rw [made] at before
      rcases before with tidied | ⟨⟨fault, impossible⟩, -⟩
      · have still := Nat.le_trans grounded (tidied grounded).1.cursors
        rcases rest value (first.after session) still with later | ⟨fails, number, abandons⟩
        · exact Or.inl (trans_of (OfDriver (Driver.Tidied ground)) tidied later)
        · exact Or.inr ⟨fails, number, Driver.Tidied.then_abandons tidied abandons grounded⟩
      · cases impossible

end ClosesUnlessBroken

namespace HandsOut

theorem afterTidied {first : Operation (Session α σ) β}
    {next : β → Operation (Session α σ) QueryResult}
    (tidied : first.Respects (OfDriver (Driver.Tidied ground)))
    (rest : forall value, HandsOut ground (next value)) : HandsOut ground (first >>= next) := by
  intro session grounded
  have before : session.gateway.driver.Tidied ground (first.after session).gateway.driver :=
    tidied session
  have still := Nat.le_trans grounded (before grounded).1.cursors
  unfold Operation.Yields
  rw [Operation.outcome_bind, Operation.after_bind]
  cases first.outcome session with
  | error fault => exact Or.inl before
  | ok value =>
      have later := rest value (first.after session) still
      unfold Operation.Yields at later
      dsimp only
      cases made : (next value).outcome (first.after session) with
      | ok result =>
          rw [made] at later
          exact ⟨later.1, before.then_leaves later.2 grounded⟩
      | error fault =>
          rw [made] at later
          rcases later with tidiedLater | ⟨number, abandons⟩
          · exact Or.inl (trans_of (OfDriver (Driver.Tidied ground)) before tidiedLater)
          · exact Or.inr ⟨number, before.then_abandons abandons grounded⟩

/-- Whoever asked for a result closes its cursor in the end. -/
theorem bind {query : Operation (Session α σ) QueryResult}
    {next : QueryResult → Operation (Session α σ) β} (hands : HandsOut ground query)
    (ends : forall result : QueryResult, result.closed = false -> forall session : Session α σ,
      session.gateway.driver.Ends ground result.cursor.number
        ((next result).after session).gateway.driver) :
    ClosesUnlessBroken ground (query >>= next) := by
  intro session grounded
  have handed := hands session grounded
  unfold Operation.Yields at handed ⊢
  rw [Operation.outcome_bind, Operation.after_bind]
  cases made : query.outcome session with
  | error fault =>
      rw [made] at handed
      exact handed.imp id fun broken => ⟨⟨fault, rfl⟩, broken⟩
  | ok result =>
      rw [made] at handed
      exact Or.inl (handed.2.ends (ends result handed.1 _))

end HandsOut

theorem Concludes.bind {first : Operation (Session α σ) β} {next : β → Operation (Session α σ) γ}
    (concludes : Concludes ground first) (rest : forall value, Concludes ground (next value)) :
    Concludes ground (first >>= next) := by
  intro session
  have before := concludes session
  rw [Operation.outcome_bind, Operation.after_bind]
  cases made : first.outcome session with
  | error fault =>
      rw [made] at before
      exact before
  | ok value =>
      rw [made] at before
      exact Driver.Tidied.then_concludes before (rest value (first.after session))

/-- A result is handed out if its statement and all that follows succeed. -/
theorem HandsOut.of_states {statement : Operation (Session α σ) Native.Cursor}
    {last : Operation (Session α σ) Unit} {make : Native.Cursor → QueryResult}
    (states : forall session : Session α σ, ground ≤ session.gateway.driver.cursors ->
      session.gateway.driver.States ground (statement.after session).gateway.driver
        (statement.outcome session))
    (concludes : Concludes ground last)
    (makes : forall cursor, (make cursor).closed = false ∧ (make cursor).cursor = cursor) :
    HandsOut ground (statement >>= fun cursor => last >>= fun _ => pure (make cursor)) := by
  intro session grounded
  have stated := states session grounded
  unfold Operation.Yields
  rw [Operation.outcome_bind, Operation.after_bind]
  cases ran : statement.outcome session with
  | error fault =>
      rw [ran] at stated
      exact stated
  | ok cursor =>
      rw [ran] at stated
      have concluded := concludes (statement.after session)
      have whole := Driver.Leaves.then_states stated concluded grounded
      dsimp only
      rw [Operation.outcome_bind, Operation.after_bind_pure]
      cases ended : last.outcome (statement.after session) with
      | error fault =>
          rw [ended] at whole
          exact whole
      | ok _ =>
          rw [ended] at whole
          refine ⟨(makes cursor).1, ?_⟩
          rw [(makes cursor).2]
          exact whole

end Session

namespace Database

open Session (library HandsOut ClosesUnlessBroken Concludes)
open Native (Cursor)

variable {α σ β : Type} {ground : Nat}

/-! ## Hooks -/

section Callbacks

variable {runner : HookRunner α σ} {label : String → α → String}
  (callbacks : forall name phase callback sql,
    (runner name phase callback sql).Respects (Session.OfDriver (Driver.ClosesOwn ground)))
include callbacks

/-- A callback before a statement comes before the cursor of the query. -/
theorem told_tidied (name : String) (callback : α) (sql : String) :
    (runner.told label name .before callback sql).Respects
      (Session.OfDriver (Driver.Tidied ground)) := by
  intro session
  have closes : session.gateway.driver.ClosesOwn ground _ :=
    callbacks name .before callback sql session
  rw [Session.OfDriver, OfDriver, told_driver]
  refine closes.then_tidied rfl rfl rfl ?_
  rintro ⟨impossible, -⟩
  cases impossible

theorem told_concludes (name : String) (callback : α) (sql : String) :
    Concludes ground (runner.told label name .after callback sql) := by
  intro session
  have closes : session.gateway.driver.ClosesOwn ground _ :=
    callbacks name .after callback sql session
  let failure := Operation.failure? ((runner name .after callback sql).outcome session)
  let event : Native.Event := ⟨.hook (label name callback) .after sql, failure⟩
  rw [told_driver, told_outcome]
  change session.gateway.driver.Concludes ground _ event.failure
  exact closes.then_concludes rfl rfl rfl rfl

theorem runHooks_tidied (sql : String) (hooks : List (Hook α)) :
    (runHooks (runner.told label) .before sql hooks).Respects
      (Session.OfDriver (Driver.Tidied ground)) :=
  runHooks_respects
    (fun _ _ _ _ => Session.library_ofDriver (Gateway.write_ofDriver _ _ _ _))
    (fun _ _ => told_tidied callbacks _ _ _) hooks

theorem runHooks_concludes (sql : String) (hooks : List (Hook α)) :
    Concludes ground (runHooks (runner.told label) .after sql hooks) := by
  have silent {γ : Type} {operation : Operation (Session α σ) γ}
      (tidied : operation.Respects (Session.OfDriver (Driver.Tidied ground)))
      (succeeds : forall session, exists value, operation.outcome session = .ok value) :
      Concludes ground operation := by
    intro session
    rcases succeeds session with ⟨value, same⟩
    rw [same]
    exact tidied session
  induction hooks with
  | nil => exact silent (.pure ()) fun _ => ⟨(), rfl⟩
  | cons hook rest inductionHypothesis =>
      refine Concludes.bind ?_ fun _ => inductionHypothesis
      unfold runHook
      split
      · exact silent (.pure ()) fun _ => ⟨(), rfl⟩
      · refine Concludes.bind (silent ?_ fun _ => ⟨(), rfl⟩) fun _ => told_concludes callbacks _ _ _
        exact Session.library_ofDriver (Gateway.write_ofDriver _ _ _ _)

end Callbacks

/-! ## Statements -/

theorem runStatement_states (database : Database) (handle : Handle) (sql : String)
    (parameters : List Value) (gateway : Gateway α) (grounded : ground ≤ gateway.driver.cursors) :
    gateway.driver.States ground
      ((database.runStatement handle sql parameters).after gateway).driver
      ((database.runStatement handle sql parameters).outcome gateway) := by
  let states := Adapter.execute handle.connection sql parameters
  let left := states.after gateway.driver
  let executes : Operation (Gateway α) Cursor := Gateway.onDriver states
  have outcome : executes.outcome gateway = states.outcome gateway.driver :=
    Operation.outcome_within _ _ _ gateway
  have after : executes.after gateway = { gateway with driver := left } :=
    Operation.after_within _ _ _ gateway
  have executed : gateway.driver.States ground left (states.outcome gateway.driver) :=
    Adapter.execute_states handle.connection sql parameters gateway.driver
  rw [runStatement_eq, Operation.atBoundary, Operation.outcome_mapFault, Operation.after_mapFault,
    Operation.outcome_bind, Operation.after_bind, outcome, after]
  apply Driver.States.mapError
  cases ran : states.outcome gateway.driver with
  | error fault =>
      rw [ran] at executed
      exact executed
  | ok cursor =>
      rw [ran] at executed
      dsimp only
      rw [conclude_outcome, conclude_after]
      refine Driver.Leaves.then_states executed ?_ grounded
      exact Adapter.afterExecute_concludes handle.connection handle.adapter
        ((gateway.tracker database.tracker).isActive handle.id) left

/-! ## Queries -/

section Queries

variable (database : Database)

theorem handle_tidied :
    (library database.handle : Operation (Session α σ) Handle).Respects
      (Session.OfDriver (Driver.Tidied ground)) :=
  Session.library_ofDriver (Gateway.connect_ofDriver Adapter.openConnection_tidied _)

/-- Freeing a result closes its cursor, if that was not done before. -/
theorem free_driver (result : QueryResult) (session : Session α σ) :
    ((free result : Operation (Session α σ) Unit).after session).gateway.driver =
      if result.closed then session.gateway.driver
      else (Native.closeCursor result.cursor).after session.gateway.driver := by
  rw [free, Session.driver, Session.gateway_library, Gateway.onDriver, Operation.after_within]
  unfold QueryResult.free
  cases result.closed with
  | true => rfl
  | false =>
      change (Operation.observe (Native.closeCursor result.cursor) >>= _).after _ = _
      rw [Operation.after_observe_bind]
      split
      · rfl
      · split <;> rfl

theorem free_ends {result : QueryResult} (isOpen : result.closed = false) (session : Session α σ) :
    session.gateway.driver.Ends ground result.cursor.number
      ((free result : Operation (Session α σ) Unit).after session).gateway.driver := by
  rw [free_driver, isOpen]
  exact Native.closeCursor_ends (refl_of (Driver.Tidied ground) _)

variable {runner : HookRunner α σ} {label : String → α → String}
  (callbacks : forall name phase callback sql,
    (runner name phase callback sql).Respects (Session.OfDriver (Driver.ClosesOwn ground)))
include callbacks

theorem execute_handsOut (query : ParsedQuery) (values : List Value) :
    HandsOut ground (database.execute (runner.told label) query values) := by
  refine .afterTidied (handle_tidied database) fun handle =>
    .afterTidied (.ofExcept _) fun parameters =>
    .afterTidied (Session.library_ofDriver (Gateway.entryAt_ofDriver _)) fun entry =>
    .afterTidied (runHooks_tidied callbacks _ _) fun _ =>
    .afterTidied (Session.library_ofDriver (Gateway.write_ofDriver _ _ _ _)) fun _ => ?_
  refine .of_states (fun session grounded => ?_) (runHooks_concludes callbacks _ _) fun _ => ⟨rfl, rfl⟩
  rw [Session.gateway_library, Session.outcome_library]
  exact runStatement_states database handle query.sql parameters session.gateway grounded

theorem query_handsOut (template : String) (values : List Value) :
    HandsOut ground (database.query (runner.told label) template values) :=
  .afterTidied (Session.library_ofDriver (compile_ofDriver database template)) fun query =>
    execute_handsOut database callbacks query values

end Queries

end Database
end SqlGateway
