import SqlGateway.Database.Managed
import SqlGateway.Proofs.Database.Deed
import SqlGateway.Proofs.Session.Quiet

namespace SqlGateway

/-!
# Programs over the library

A caller's work is any computation that uses the library now and then and goes on with what it
is told, failures included.  `Program` is such work: between two uses it may do whatever it
likes, and it may begin, commit and roll back on any database at any time, and disconnect.

What a program does natively is a list of happenings: native calls that begin or end a
transaction, and connections that are closed.  All happenings on a connection until the
first that ends its transaction decide what became of that transaction.

Whatever programs do, a handle that is still to be made has no transaction in any tracker, and
a connection without a transaction has no mark.
-/

inductive Program (α σ β : Type) : Type 1 where
  | done (value : β)
  | fail (fault : Fault)
  /-- A use of the library, or of the caller's own state, that is not about transactions. -/
  | use {γ : Type} (operation : Operation (Session α σ) γ)
      (undisturbed : operation.Respects Session.Undisturbed)
      (next : Except Fault γ → Program α σ β)
  | act (action : Action) (database : Database) (next : Except Fault Unit → Program α σ β)
  | disconnect (entry : Nat) (tracker : Option Scope)
      (next : Except Fault Unit → Program α σ β)

/-- What happens to native transactions. -/
inductive Happening where
  | native (deed : Deed)
  | closed (id : Nat)
deriving DecidableEq, Repr

namespace Happening

/-- Whether the transaction of a connection ends. -/
def ends (id : Nat) : Happening → Bool
  | .native deed => deed.id = id && deed.call ≠ .begin
  | .closed other => other = id

end Happening

/-- What ends the transaction of a connection first. -/
def ending? (id : Nat) (happenings : List Happening) : Option Happening :=
  happenings.find? (Happening.ends id)

/-- The transaction of a connection is ended by a commit that succeeds. -/
def CommittedOn (id : Nat) (happenings : List Happening) : Prop :=
  ending? id happenings = some (.native ⟨id, .commit, true⟩)

theorem ending?_append (id : Nat) (first second : List Happening) :
    ending? id (first ++ second) = (ending? id first).or (ending? id second) :=
  List.find?_append

/-- A begin ends nothing. -/
theorem ending?_begin (id other : Nat) (ok : Bool) (rest : List Happening) :
    ending? id (.native ⟨other, .begin, ok⟩ :: rest) = ending? id rest := by
  simp [ending?, Happening.ends]

theorem committedOn_deed? (id : Nat) (deed : Option Deed) :
    CommittedOn id (deed.map Happening.native).toList ↔ deed = some ⟨id, .commit, true⟩ := by
  cases deed with
  | none => simp [CommittedOn, ending?]
  | some deed =>
      constructor
      · intro committed
        have same := List.mem_singleton.mp (List.mem_of_find?_eq_some committed)
        rw [Happening.native.inj same]
      · rintro ⟨⟩
        simp [CommittedOn, ending?, Happening.ends]

/-- What happened first decides. -/
theorem committedOn_append (id : Nat) (first second : List Happening) :
    CommittedOn id (first ++ second) ↔
      CommittedOn id first ∨ ending? id first = none ∧ CommittedOn id second := by
  unfold CommittedOn
  rw [ending?_append]
  cases ending? id first <;> simp

namespace Program

variable {α σ β γ : Type}

open Session (library)

def run : Program α σ β → Operation (Session α σ) β
  | .done value => pure value
  | .fail fault => throw fault
  | .use operation _ next => do (next (← Operation.observe operation)).run
  | .act action database next => do
    (next (← Operation.observe (library (action.perform database)))).run
  | .disconnect entry tracker next => do
    (next (← Operation.observe (library (Gateway.disconnect entry tracker)))).run

/-- What happens when a program is run in a state. -/
def happenings : Program α σ β → Session α σ → List Happening
  | .done _, _ => []
  | .fail _, _ => []
  | .use operation _ next, session =>
    (next (operation.outcome session)).happenings (operation.after session)
  | .act action database next, session =>
    let operation : Operation (Session α σ) Unit := library (action.perform database)
    ((database.deed? action session.gateway).map .native).toList ++
      (next (operation.outcome session)).happenings (operation.after session)
  | .disconnect entry tracker next, session =>
    let operation : Operation (Session α σ) Unit := library (Gateway.disconnect entry tracker)
    ((session.gateway.entry entry).handle.map fun handle => .closed handle.id).toList ++
      (next (operation.outcome session)).happenings (operation.after session)

/-- The driver confirms what is told of a program that is run in a state: the deeds of its actions, and
the ends of the connections that it closes. -/
def Confirmed : Program α σ β → Session α σ → Prop
  | .done _, _ => True
  | .fail _, _ => True
  | .use operation _ next, session =>
    (next (operation.outcome session)).Confirmed (operation.after session)
  | .act action database next, session =>
    let operation : Operation (Session α σ) Unit := library (action.perform database)
    database.Confirms action session.gateway ∧
      (next (operation.outcome session)).Confirmed (operation.after session)
  | .disconnect entry tracker next, session =>
    let operation : Operation (Session α σ) Unit := library (Gateway.disconnect entry tracker)
    (operation.after session).gateway.driver =
        (match (session.gateway.entry entry).handle with
          | none => session.gateway.driver
          | some handle => (Native.close handle.connection).after session.gateway.driver) ∧
      (next (operation.outcome session)).Confirmed (operation.after session)

theorem run_confirmed (program : Program α σ β) (session : Session α σ) :
    program.Confirmed session := by
  induction program generalizing session with
  | done value => exact trivial
  | fail fault => exact trivial
  | use operation undisturbed next inductionHypothesis => exact inductionHypothesis _ _
  | act action database next inductionHypothesis =>
      exact ⟨database.perform_confirms action session.gateway, inductionHypothesis _ _⟩
  | disconnect entry tracker next inductionHypothesis =>
      refine ⟨?_, inductionHypothesis _ _⟩
      rw [Session.gateway_library]
      exact Gateway.disconnect_closes entry tracker session.gateway

/-- Go on after a program, whatever came of it. -/
def bind (program : Program α σ β) (next : Except Fault β → Program α σ γ) : Program α σ γ :=
  match program with
  | .done value => next (.ok value)
  | .fail fault => next (.error fault)
  | .use operation undisturbed rest =>
    .use operation undisturbed fun outcome => (rest outcome).bind next
  | .act action database rest => .act action database fun outcome => (rest outcome).bind next
  | .disconnect entry tracker rest =>
    .disconnect entry tracker fun outcome => (rest outcome).bind next

def andThen (program : Program α σ β) (next : β → Program α σ γ) : Program α σ γ :=
  program.bind fun outcome =>
    match outcome with
    | .ok value => next value
    | .error fault => .fail fault

theorem run_bind_at (program : Program α σ β) (next : Except Fault β → Program α σ γ)
    (session : Session α σ) :
    (program.bind next).run session =
      (next (program.run.outcome session)).run (program.run.after session) := by
  induction program generalizing session with
  | done value => rfl
  | fail fault => rfl
  | use operation undisturbed rest inductionHypothesis =>
      rw [bind, run, run, Operation.observe_bind, inductionHypothesis,
        Operation.outcome_observe_bind, Operation.after_observe_bind]
  | act action database rest inductionHypothesis =>
      rw [bind, run, run, Operation.observe_bind, inductionHypothesis,
        Operation.outcome_observe_bind, Operation.after_observe_bind]
  | disconnect entry tracker rest inductionHypothesis =>
      rw [bind, run, run, Operation.observe_bind, inductionHypothesis,
        Operation.outcome_observe_bind, Operation.after_observe_bind]

theorem run_bind (program : Program α σ β) (next : Except Fault β → Program α σ γ) :
    (program.bind next).run =
      Operation.observe program.run >>= fun outcome => (next outcome).run := by
  funext session
  rw [run_bind_at, Operation.observe_bind]

theorem run_andThen (program : Program α σ β) (next : β → Program α σ γ) :
    (program.andThen next).run = program.run >>= fun value => (next value).run := by
  funext session
  rw [andThen, run_bind, Operation.observe_bind, Operation.bind_eq]
  cases program.run.outcome session <;> rfl

theorem happenings_bind (program : Program α σ β) (next : Except Fault β → Program α σ γ)
    (session : Session α σ) :
    (program.bind next).happenings session =
      program.happenings session ++
        (next (program.run.outcome session)).happenings (program.run.after session) := by
  induction program generalizing session with
  | done value => rfl
  | fail fault => rfl
  | use operation undisturbed rest inductionHypothesis =>
      rw [bind, happenings, happenings, run, inductionHypothesis, Operation.outcome_observe_bind,
        Operation.after_observe_bind]
  | act action database rest inductionHypothesis =>
      rw [bind, happenings, happenings, run, inductionHypothesis, Operation.outcome_observe_bind,
        Operation.after_observe_bind, List.append_assoc]
  | disconnect entry tracker rest inductionHypothesis =>
      rw [bind, happenings, happenings, run, inductionHypothesis, Operation.outcome_observe_bind,
        Operation.after_observe_bind, List.append_assoc]

theorem happenings_andThen (program : Program α σ β) (next : β → Program α σ γ)
    {session : Session α σ} {value : β} (gives : program.run.outcome session = .ok value) :
    (program.andThen next).happenings session =
      program.happenings session ++ (next value).happenings (program.run.after session) := by
  rw [andThen, happenings_bind, gives]

theorem happenings_andThen_done (program : Program α σ β) (value : γ) (session : Session α σ) :
    (program.andThen fun _ => .done value).happenings session = program.happenings session := by
  rw [andThen, happenings_bind]
  cases program.run.outcome session <;> exact List.append_nil _

/-! ## Managed blocks are programs -/

/-- Do an action, and go on if it succeeds. -/
def acting (action : Action) (database : Database) : Program α σ Unit :=
  .act action database fun outcome =>
    match outcome with
    | .ok _ => .done ()
    | .error fault => .fail fault

/-- Write to the log that a transaction is rolled back. -/
def noticing (fault : Fault) : Program α σ Unit :=
  .use (library (Database.writeTransaction ("Rolling back after " ++ fault.kind.name)))
    ((Session.quiet_untouched (Gateway.write_untouched _ _ _ _)).mono
      fun _ _ steady => steady.toUndisturbed)
    fun _ => .done ()

/-- Roll back after a fault and let it go on. -/
def abandoning (database : Database) (onRollback : Program α σ Unit)
    (replacement : Fault → Program α σ (Option Fault)) (fault : Fault) : Program α σ β :=
  (acting .rollback database).andThen fun _ =>
  onRollback.andThen fun _ =>
  (replacement fault).andThen fun found => .fail (Database.passedOn fault found)

def inTransaction (database : Database) (onRollback : Program α σ Unit)
    (replacement : Fault → Program α σ (Option Fault)) (work : Program α σ β) :
    Program α σ β :=
  (acting .begin database).andThen fun _ =>
  work.bind fun outcome =>
    match outcome with
    | .ok value => (acting .commit database).andThen fun _ => .done value
    | .error fault =>
      (noticing fault).andThen fun _ => abandoning database onRollback replacement fault

/-- Do work in a transaction and report an ordinary failure as a value. -/
def attempting (database : Database) (onRollback : Program α σ Unit)
    (replacement : Fault → Program α σ (Option Fault)) (work : Program α σ Value) :
    Program α σ TransactionOutcome :=
  (inTransaction database onRollback replacement work).bind fun outcome =>
    match outcome with
    | .ok value => .done ⟨true, value, none⟩
    | .error fault => if fault.kind.isOrdinary then .done ⟨false, .null, some fault⟩ else .fail fault

theorem happenings_acting (action : Action) (database : Database) (session : Session α σ) :
    (acting action database : Program α σ Unit).happenings session =
      ((database.deed? action session.gateway).map .native).toList := by
  rw [acting, happenings]
  cases (library (action.perform database) : Operation (Session α σ) Unit).outcome session <;>
    exact List.append_nil _

theorem run_acting (action : Action) (database : Database) :
    (acting action database : Program α σ Unit).run = library (action.perform database) := by
  funext session
  rw [acting, run, Operation.observe_bind, Operation.run_eq (library (action.perform database))]
  cases (library (action.perform database) : Operation (Session α σ) Unit).outcome session <;> rfl

theorem run_noticing (fault : Fault) :
    (noticing fault : Program α σ Unit).run =
      library (Database.writeTransaction ("Rolling back after " ++ fault.kind.name)) :=
  rfl

theorem run_abandoning (database : Database) (onRollback : Program α σ Unit)
    (replacement : Fault → Program α σ (Option Fault)) (fault : Fault) :
    (abandoning database onRollback replacement fault : Program α σ β).run =
      database.abandon ⟨onRollback.run, fun fault => (replacement fault).run⟩ fault := by
  unfold abandoning Database.abandon
  simp only [run_andThen, run_acting]
  rfl

/-- A transaction around a program is a program, also with the caller's reactions to failure. -/
theorem run_inTransaction (database : Database) (onRollback : Program α σ Unit)
    (replacement : Fault → Program α σ (Option Fault)) (work : Program α σ β) :
    (inTransaction database onRollback replacement work).run =
      database.runInTransaction ⟨onRollback.run, fun fault => (replacement fault).run⟩
        work.run := by
  unfold inTransaction Database.runInTransaction
  simp only [run_andThen, run_acting, run_bind]
  refine congrArg _ (funext fun _ => congrArg _ (funext fun outcome => ?_))
  cases outcome with
  | ok value => simp only [run_andThen, run_acting]; rfl
  | error fault => simp only [run_andThen, run_noticing, run_abandoning]

theorem run_attempting (database : Database) (onRollback : Program α σ Unit)
    (replacement : Fault → Program α σ (Option Fault)) (work : Program α σ Value) :
    (attempting database onRollback replacement work).run =
      database.tryInTransaction ⟨onRollback.run, fun fault => (replacement fault).run⟩
        work.run := by
  unfold attempting Database.tryInTransaction
  rw [run_bind, run_inTransaction]
  refine congrArg _ (funext fun outcome => ?_)
  cases outcome with
  | ok value => rfl
  | error fault => cases ordinary : fault.kind.isOrdinary <;> simp [run, ordinary]

/-- What happens in a transaction whose work succeeds. -/
theorem happenings_inTransaction {database : Database} {onRollback : Program α σ Unit}
    {replacement : Fault → Program α σ (Option Fault)} {work : Program α σ β}
    {start begun worked : Session α σ} {value : β}
    (begins : (library database.begin : Operation (Session α σ) Unit) start = .ok () begun)
    (works : work.run begun = .ok value worked) :
    (inTransaction database onRollback replacement work).happenings start =
      ((database.deed? .begin start.gateway).map .native).toList ++
        (work.happenings begun ++
          ((database.deed? .commit worked.gateway).map .native).toList) := by
  have opened : (acting .begin database : Program α σ Unit).run start = .ok () begun := by
    rw [run_acting]
    exact begins
  have opens : (acting .begin database : Program α σ Unit).run.outcome start = .ok () := by
    rw [Operation.outcome, opened]
  have reached : (acting .begin database : Program α σ Unit).run.after start = begun := by
    rw [Operation.after, opened]
  have gives : work.run.outcome begun = .ok value := by rw [Operation.outcome, works]
  have left : work.run.after begun = worked := by rw [Operation.after, works]
  rw [inTransaction, happenings_andThen _ _ opens, happenings_acting, reached, happenings_bind,
    gives, left, happenings_andThen_done, happenings_acting]

theorem happenings_attempting (database : Database) (onRollback : Program α σ Unit)
    (replacement : Fault → Program α σ (Option Fault)) (work : Program α σ Value)
    (session : Session α σ) :
    (attempting database onRollback replacement work).happenings session =
      (inTransaction database onRollback replacement work).happenings session := by
  rw [attempting, happenings_bind]
  cases (inTransaction database onRollback replacement work).run.outcome session with
  | ok value => exact List.append_nil _
  | error fault => cases ordinary : fault.kind.isOrdinary <;> simp [happenings, ordinary]

/-! ## Queries are programs -/

/-- Use the library, or the caller's own state, and go on if that succeeds. -/
def doing (operation : Operation (Session α σ) β)
    (undisturbed : operation.Respects Session.Undisturbed) : Program α σ β :=
  .use operation undisturbed fun outcome =>
    match outcome with
    | .ok value => .done value
    | .error fault => .fail fault

theorem run_doing (operation : Operation (Session α σ) β)
    (undisturbed : operation.Respects Session.Undisturbed) :
    (doing operation undisturbed).run = operation := by
  funext session
  rw [doing, run, Operation.observe_bind, Operation.run_eq operation]
  cases operation.outcome session <;> rfl

/-- Do what is quiet. -/
def quietly (operation : Operation (Session α σ) β) (quiet : Session.Quiet operation) :
    Program α σ β :=
  doing operation (quiet.mono fun _ _ steady => steady.toUndisturbed)

theorem run_quietly (operation : Operation (Session α σ) β) (quiet : Session.Quiet operation) :
    (quietly operation quiet).run = operation :=
  run_doing operation _

section Hooks

variable (callbacks : String → Native.HookPhase → α → String → Program α σ Unit)

/-- Hooks whose callbacks are programs. -/
def runner : HookRunner α σ := fun name phase callback sql =>
  (callbacks name phase callback sql).run

/-- Call the callbacks of hooks for a phase. -/
def calling (phase : Native.HookPhase) (sql : String) : List (Hook α) → Program α σ Unit
  | [] => .done ()
  | hook :: rest =>
    Program.andThen
      (match hook.callback phase with
        | none => .done ()
        | some callback =>
          (quietly (library (Gateway.write .debug "hooks" (hook.notice phase) none))
            (Session.quiet_untouched (Gateway.write_untouched _ _ _ _))).andThen fun _ =>
          callbacks hook.name phase callback sql)
      fun _ => calling phase sql rest

def executing (database : Database) (query : ParsedQuery) (values : List Value) :
    Program α σ QueryResult :=
  (quietly (library database.handle)
    (Session.quiet_library (Gateway.connect_steady _))).andThen fun handle =>
  (doing (.ofExcept (Parameter.bind query values handle.adapter.coercion))
    (.ofExcept _)).andThen fun parameters =>
  (quietly (library database.entryOf)
    (Session.quiet_library (Database.entryOf_steady _))).andThen fun entry =>
  (calling callbacks .before query.sql entry.hooks).andThen fun _ =>
  (quietly (library (Database.announceQuery handle query.sql))
    (Session.quiet_untouched (Gateway.write_untouched _ _ _ _))).andThen fun _ =>
  (quietly (library (database.runStatement handle query.sql parameters))
    (Session.quiet_library (Database.runStatement_steady _ _ _ _))).andThen fun cursor =>
  (calling callbacks .after query.sql entry.hooks).andThen fun _ =>
  .done (Database.resultOf query entry.params cursor)

def querying (database : Database) (template : String) (values : List Value) :
    Program α σ QueryResult :=
  (quietly (library (database.compile template))
    (Session.quiet_library (Database.compile_steady _ _))).andThen fun query =>
  executing callbacks database query values

theorem run_calling (phase : Native.HookPhase) (sql : String) (hooks : List (Hook α)) :
    (calling callbacks phase sql hooks).run =
      Database.runHooks (runner callbacks) phase sql hooks := by
  induction hooks with
  | nil => rfl
  | cons hook rest inductionHypothesis =>
      rw [calling, run_andThen, inductionHypothesis]
      change _ = Database.runHook (runner callbacks) phase sql hook >>= fun _ =>
        Database.runHooks (runner callbacks) phase sql rest
      unfold Database.runHook
      cases hook.callback phase with
      | none => rfl
      | some callback => simp only [run_andThen, run_quietly, runner]

/-- A query around hooks whose callbacks are programs is a program: a callback may begin, commit,
roll back and disconnect while the statement runs. -/
theorem run_querying (database : Database) (template : String) (values : List Value) :
    (querying callbacks database template values).run =
      database.query (runner callbacks) template values := by
  unfold querying executing Database.query Database.execute
  simp only [run_andThen, run_doing, run_quietly, run_calling]
  rfl

end Hooks

end Program
end SqlGateway
