import SqlGateway.Database.Managed
import SqlGateway.Proofs.Database.Deed
import SqlGateway.Proofs.Session.DriverWork

namespace SqlGateway

/-!
# Managed blocks keep the depth and end their transaction once

A managed block begins, does its work, and commits or rolls back.  Blocks may be nested in
any way, the work may fail at any place, and a failure may be caught at any place around it.
`Body` is such a tree of work; every use of the library in it is answered by a continuation,
which goes on as it likes after a success and after a failure.

Running a body also gives a trace of each outermost block in it: which blocks were entered
inside, with the depths around them, whether they began and whether their work failed, and the
driver before and after all of them.  The invariant of a body is about the level of its
connection: below the first level it leaves the level idle, and deeper it leaves the depth
and adds the mark exactly if a block that had begun failed inside it.  What the driver is asked for
follows the level: from the ground a block begins and ends a native transaction, and deeper it asks
for nothing that begins or ends one.
-/

namespace Native

/-- Whether a call may be a part of how an adapter begins or ends a native transaction. -/
def Call.isControl : Call → Bool
  | .begin _ | .commit _ false | .rollback _ | .setAutocommit _ false | .runDirectly _ _
  | .execute _ _ _ none | .close _ => true
  | _ => false

/-- An event that has no part in beginning or ending a native transaction. -/
def Event.IsWork (event : Event) : Prop := event.call.isControl = false

end Native

namespace Database

variable {α σ : Type}

open Native (Driver Event)

open Session (library)
open Transaction (Level)

/-! ## Trees of blocks -/

/-- The three managed blocks: a block of code, a piece of work, and a piece of work whose
ordinary failure is a value. -/
inductive BlockKind where
  | block
  | run
  | attempt
deriving DecidableEq, Repr

/-- What a block gives to the work around it. -/
inductive BlockAnswer where
  | value (value : Value)
  | outcome (outcome : TransactionOutcome)

/-- Work that consists of queries, blocks, failures and their handling. -/
inductive Body where
  | done (value : Value)
  | raise (fault : Fault)
  | query (database : Database) (template : String) (values : List Value)
      (next : Except Fault QueryResult → Body)
  | block (kind : BlockKind) (body : Body) (next : Except Fault BlockAnswer → Body)

namespace BlockKind

/-- Do work in a block of a kind. -/
def around (kind : BlockKind) (database : Database) (work : Operation (Session α σ) Value) :
    Operation (Session α σ) BlockAnswer :=
  match kind with
  | .block => do return .value (← database.inBlock work)
  | .run => do return .value (← database.runInTransaction .none work)
  | .attempt => do return .outcome (← database.tryInTransaction .none work)

/-- What a block writes to the log before it rolls back. -/
def notice (kind : BlockKind) (fault : Fault) : Operation (Session α σ) Unit :=
  match kind with
  | .block => pure ()
  | .run | .attempt => library (writeTransaction ("Rolling back after " ++ fault.kind.name))

/-- The state in which a block is left, after work that came to an outcome. -/
def leaving (kind : BlockKind) (outcome : Except Fault Value) (worked : Session α σ) :
    Session α σ :=
  match outcome with
  | .ok _ => worked
  | .error fault => (kind.notice fault).after worked

end BlockKind

/-- How a block is left, after work that came to an outcome. -/
def closing (outcome : Except Fault Value) : Action :=
  match outcome with
  | .ok _ => .commit
  | .error _ => .rollback

def Body.run (runner : HookRunner α σ) (database : Database) :
    Body → Operation (Session α σ) Value
  | .done value => pure value
  | .raise fault => throw fault
  | .query other template values next => do
    (next (← Operation.observe (other.query runner template values))).run runner database
  | .block kind body next => do
    (next (← Operation.observe (kind.around database (body.run runner database)))).run
      runner database

/-! ## Traces -/

/-- What is recorded of a block: the depths before and after it, whether it began, and whether
its work failed. -/
structure BlockRecord where
  before : Nat
  after : Nat
  begun : Bool
  failed : Bool
deriving DecidableEq, Repr

/-- Whether a block had begun and its work failed. -/
def BlockRecord.spoils (record : BlockRecord) : Bool := record.begun && record.failed

/-- The records of a block and of all blocks inside it, and the driver before and after it. -/
structure BlockTrace where
  records : List BlockRecord
  entered : Driver
  left : Driver

/-- The trace of a block, given those of the blocks inside it. -/
def blockTrace (kind : BlockKind) (database : Database) (work : Operation (Session α σ) Value)
    (inner : List BlockTrace) (session : Session α σ) : BlockTrace :=
  let begins : Operation (Session α σ) Unit := library database.begin
  let left := ((kind.around database work).after session).gateway
  let record := BlockRecord.mk (database.depth session.gateway) (database.depth left)
  let records :=
    match begins.outcome session with
    | .error _ => [record false false]
    | .ok _ =>
      record true (!(work.outcome (begins.after session)).isOk) ::
        inner.flatMap BlockTrace.records
  ⟨records, session.gateway.driver, left.driver⟩

/-- The traces of the outermost blocks of a body, in the order in which they are run. -/
def Body.traces (runner : HookRunner α σ) (database : Database) :
    Body → Session α σ → List BlockTrace
  | .done _, _ => []
  | .raise _, _ => []
  | .query other template values next, session =>
    let operation := other.query runner template values
    (next (operation.outcome session)).traces runner database (operation.after session)
  | .block kind body next, session =>
    let work := body.run runner database
    let whole := kind.around database work
    let begun := (library database.begin : Operation (Session α σ) Unit).after session
    blockTrace kind database work (body.traces runner database begun) session ::
      (next (whole.outcome session)).traces runner database (whole.after session)

/-! ## How a block is left -/

section

variable (database : Database) (work : Operation (Session α σ) Value) (session : Session α σ)

/-- The state after a block: it failed to begin, or it was left as its work came out. -/
def BlockKind.left (kind : BlockKind) : Session α σ :=
  let begun := (library database.begin : Operation (Session α σ) Unit).after session
  match (library database.begin : Operation (Session α σ) Unit).outcome session with
  | .error _ => begun
  | .ok _ =>
    (library ((closing (work.outcome begun)).perform database) :
        Operation (Session α σ) Unit).after
      (kind.leaving (work.outcome begun) (work.after begun))

theorem after_keep (value : Value) :
    (do library database.commit; return value : Operation (Session α σ) Value).after session =
      (library database.commit : Operation (Session α σ) Unit).after session :=
  Operation.after_bind_pure _ (fun _ => value) session

theorem after_abandon (fault : Fault) :
    (database.abandon .none fault : Operation (Session α σ) Value).after session =
      (library database.rollback : Operation (Session α σ) Unit).after session := by
  unfold abandon
  rw [Operation.after_bind]
  cases (library database.rollback : Operation (Session α σ) Unit).outcome session <;> rfl

theorem after_inBlock :
    (database.inBlock work).after session = BlockKind.block.left database work session := by
  unfold inBlock BlockKind.left
  rw [Operation.after_bind]
  cases (library database.begin : Operation (Session α σ) Unit).outcome session with
  | error fault => rfl
  | ok _ =>
      simp only
      rw [Operation.after, Operation.observe_bind]
      cases work.outcome _ with
      | ok value => exact after_keep database _ value
      | error fault => exact after_abandon database _ fault

theorem after_runInTransaction :
    (database.runInTransaction .none work).after session =
      BlockKind.run.left database work session := by
  unfold runInTransaction BlockKind.left
  rw [Operation.after_bind]
  cases (library database.begin : Operation (Session α σ) Unit).outcome session with
  | error fault => rfl
  | ok _ =>
      simp only
      rw [Operation.after, Operation.observe_bind]
      cases work.outcome _ with
      | ok value => exact after_keep database _ value
      | error fault => exact after_abandon database _ fault

theorem after_tryInTransaction :
    (database.tryInTransaction .none work).after session =
      BlockKind.run.left database work session := by
  unfold tryInTransaction
  rw [Operation.after, Operation.observe_bind, ← after_runInTransaction]
  cases (database.runInTransaction .none work).outcome session with
  | ok value => rfl
  | error fault =>
      simp only
      cases fault.kind.isOrdinary <;> rfl

/-- Every kind of block is left in the same way, but for what it writes to the log. -/
theorem after_around (kind : BlockKind) :
    (kind.around database work).after session = kind.left database work session := by
  cases kind with
  | block => exact (Operation.after_bind_pure _ _ _).trans (after_inBlock database work session)
  | run =>
      exact (Operation.after_bind_pure _ _ _).trans (after_runInTransaction database work session)
  | attempt =>
      exact (Operation.after_bind_pure _ _ _).trans (after_tryInTransaction database work session)

end

theorem after_around_of_refused {database : Database} {session : Session α σ} {fault : Fault}
    (refused : database.begin.outcome session.gateway = .error fault) (kind : BlockKind)
    (work : Operation (Session α σ) Value) :
    ((kind.around database work).after session).gateway = database.begin.after session.gateway := by
  rw [after_around, BlockKind.left, Session.outcome_library, refused]
  exact Session.gateway_library _ _

theorem after_around_of_begun {database : Database} {session begun : Session α σ}
    (begins : database.begin.outcome session.gateway = .ok ())
    (reached : begun = (library database.begin : Operation (Session α σ) Unit).after session)
    (kind : BlockKind) (work : Operation (Session α σ) Value) :
    ((kind.around database work).after session).gateway =
      ((closing (work.outcome begun)).perform database).after
        (kind.leaving (work.outcome begun) (work.after begun)).gateway := by
  rw [after_around, BlockKind.left, Session.outcome_library, begins, reached]
  exact Session.gateway_library _ _

/-! ## The invariant -/

/-- Whether a block in a trace had begun and failed. -/
def BlockTrace.spoils (trace : BlockTrace) : Bool := trace.records.any BlockRecord.spoils

theorem BlockTrace.spoils_eq_false (trace : BlockTrace) :
    trace.spoils = false ↔
      forall record, record ∈ trace.records -> record.begun = true -> record.failed = false := by
  simp [BlockTrace.spoils, BlockRecord.spoils]

/-- The level after blocks that were entered at a level: the same, but for the mark. -/
def settled (level : Level) (spoiled : Bool) : Level :=
  if level.depth = 0 then .idle else ⟨level.depth, level.isDoomed || spoiled⟩

/-- What a driver was asked for by an outermost block: a begin that failed, or a begin, work, and one
call that ends what was begun.  The transaction is committed exactly if no block in the trace that
had begun failed. -/
inductive BlockTrace.Transacts (handle : Handle) (trace : BlockTrace) : Prop where
  | refused (fault : Fault)
      (fails : handle.adapter.transact handle.connection .begin trace.entered =
        .error fault trace.left)
  | ended (begun worked : Driver) (ending : Transaction.NativeCall)
      (begins : handle.adapter.transact handle.connection .begin trace.entered = .ok () begun)
      (works : begun.Adds Event.IsWork worked)
      (ends : (handle.adapter.transact handle.connection ending).after worked = trace.left)
      (isEnd : ending ≠ .begin)
      (commits : ending = .commit ↔ forall record, record ∈ trace.records ->
        record.begun = true -> record.failed = false)

/-- What ends the transaction of an outermost block. -/
def BlockTrace.ending (trace : BlockTrace) : Transaction.NativeCall :=
  if trace.spoils then .rollback else .commit

theorem BlockTrace.transacts_of_ended {handle : Handle} {trace : BlockTrace}
    {begun worked : Driver}
    (begins : handle.adapter.transact handle.connection .begin trace.entered = .ok () begun)
    (works : begun.Adds Event.IsWork worked)
    (ends : (handle.adapter.transact handle.connection trace.ending).after worked = trace.left) :
    trace.Transacts handle := by
  refine .ended begun worked trace.ending begins works ends ?_ ?_
  · unfold ending
    cases trace.spoils <;> exact nofun
  · rw [← BlockTrace.spoils_eq_false]
    unfold ending
    cases trace.spoils <;> simp

/-- From one driver to another went blocks with the given traces, with work between them. -/
inductive Threads : Driver → List BlockTrace → Driver → Prop where
  | rest {before after : Driver} (works : before.Adds Event.IsWork after) : Threads before [] after
  | block {before after : Driver} {trace : BlockTrace} {traces : List BlockTrace}
      (works : before.Adds Event.IsWork trace.entered) (rest : Threads trace.left traces after) :
      Threads before (trace :: traces) after

theorem Threads.after_work {before middle after : Driver} {traces : List BlockTrace}
    (works : before.Adds Event.IsWork middle) (threads : Threads middle traces after) :
    Threads before traces after := by
  cases threads with
  | rest later => exact .rest (trans_of (Driver.Adds Event.IsWork) works later)
  | block later rest => exact .block (trans_of (Driver.Adds Event.IsWork) works later) rest

/-- Blocks that are work themselves are work together. -/
theorem Threads.adds {before after : Driver} {traces : List BlockTrace}
    (threads : Threads before traces after)
    (works : forall trace, trace ∈ traces -> trace.entered.Adds Event.IsWork trace.left) :
    before.Adds Event.IsWork after := by
  induction threads with
  | rest added => exact added
  | block added _ inductionHypothesis =>
      have first := trans_of (Driver.Adds Event.IsWork) added (works _ List.mem_cons_self)
      exact trans_of (Driver.Adds Event.IsWork) first
        (inductionHypothesis fun trace member => works trace (List.mem_cons_of_mem _ member))

/-- What holds of the trace of a block that was entered at a depth. -/
structure BlockTrace.Sound (handle : Handle) (depth : Nat) (trace : BlockTrace) : Prop where
  depths : forall record, record ∈ trace.records -> record.after = record.before
  outermost : depth = 0 -> trace.Transacts handle
  inside : depth ≠ 0 -> trace.entered.Adds Event.IsWork trace.left

theorem leaving_steady (kind : BlockKind) (outcome : Except Fault Value)
    (worked : Session α σ) :
    Session.Steady worked (kind.leaving outcome worked) := by
  cases outcome with
  | ok value => exact refl_of Session.Steady worked
  | error fault =>
      have written (message : String) :
          Session.Quiet (library (writeTransaction message) : Operation (Session α σ) Unit) :=
        Session.quiet_untouched (Gateway.write_untouched _ _ _ _)
      cases kind with
      | block => exact refl_of Session.Steady worked
      | run => exact written _ worked
      | attempt => exact written _ worked

theorem leaving_driver (kind : BlockKind) (outcome : Except Fault Value)
    (worked : Session α σ) :
    (kind.leaving outcome worked).gateway.driver = worked.gateway.driver := by
  cases outcome with
  | ok value => rfl
  | error fault => cases kind <;> rfl

/-- A database is connected through a handle, whose transaction is at a level. -/
structure Stands (database : Database) (handle : Handle) (level : Level) (gateway : Gateway α) :
    Prop where
  holds : gateway.Holds database.entry handle
  held : database.At handle.id level gateway

namespace Stands

variable {database : Database} {handle : Handle} {level : Level} {before after : Gateway α}

theorem of_steady (stands : database.Stands handle level before)
    (steady : Gateway.Steady before after) : database.Stands handle level after :=
  ⟨steady.holds _ _ stands.holds, stands.held.of_steady steady⟩

/-- What is done to the driver is the native call of the action, if there is one. -/
theorem driver (stands : database.Stands handle level before) (action : Action) :
    (database.deed? action before = none ->
      ((action.perform database).after before).driver = before.driver) ∧
    forall deed, database.deed? action before = some deed ->
      deed.succeeded =
        ((handle.adapter.transact handle.connection deed.call).outcome before.driver).isOk ∧
      ((action.perform database).after before).driver =
        (handle.adapter.transact handle.connection deed.call).after before.driver := by
  rcases stands.holds with ⟨row, found⟩
  rcases perform_driver (Gateway.connect_of_connected found) action with ⟨quiet, called⟩
  exact ⟨quiet, fun deed made => (called deed made).2⟩

variable {depth : Nat} {doomed : Bool}

/-- A begin enters a level or fails; only from the ground the driver is asked for it. -/
theorem begin (stands : database.Stands handle ⟨depth, doomed⟩ before) :
    let isBegun := (database.begin.outcome before).isOk
    let called := handle.adapter.transact handle.connection .begin
    database.Stands handle ⟨if isBegun then depth + 1 else depth, doomed⟩
        (database.begin.after before) ∧
      (depth = 0 -> isBegun = (called.outcome before.driver).isOk ∧
        (database.begin.after before).driver = called.after before.driver) ∧
      (depth ≠ 0 -> (database.begin.after before).driver = before.driver) := by
  intro isBegun called
  rcases stands.held.begin with ⟨opening, reached⟩
  rcases stands.driver .begin with ⟨quiet, calls⟩
  refine ⟨⟨perform_holds stands.holds .begin, reached⟩, fun flat => ?_, fun nested => ?_⟩
  · rw [if_pos flat] at opening
    exact calls _ opening
  · rw [if_neg nested] at opening
    exact quiet opening

/-- A begin from the ground that succeeds is a native begin that succeeds. -/
theorem begin_opened (stands : database.Stands handle ⟨0, doomed⟩ before)
    (begins : database.begin.outcome before = .ok ()) :
    handle.adapter.transact handle.connection .begin before.driver =
      .ok () (database.begin.after before).driver := by
  rcases stands.begin.2.1 rfl with ⟨same, driver⟩
  rw [begins] at same
  rw [driver]
  cases native : (handle.adapter.transact handle.connection .begin).outcome before.driver with
  | ok _ => exact Operation.run_of_ok native
  | error fault =>
      rw [native] at same
      cases same

/-- A begin from the ground that fails is a native begin that fails. -/
theorem begin_refused {fault : Fault} (stands : database.Stands handle ⟨0, doomed⟩ before)
    (refused : database.begin.outcome before = .error fault) :
    exists native, handle.adapter.transact handle.connection .begin before.driver =
      .error native (database.begin.after before).driver := by
  rcases stands.begin.2.1 rfl with ⟨same, driver⟩
  rw [refused] at same
  rw [driver]
  cases native : (handle.adapter.transact handle.connection .begin).outcome before.driver with
  | ok _ =>
      rw [native] at same
      cases same
  | error reason => exact ⟨reason, Operation.run_of_error native⟩

/-- Leaving a level after work that came to an outcome.  On the last level the driver is asked for a
rollback if the level is marked or the work failed, and for a commit otherwise. -/
theorem leave (stands : database.Stands handle ⟨depth + 1, doomed⟩ before)
    (outcome : Except Fault Value) :
    let left := ((closing outcome).perform database).after before
    let ending := if doomed || !outcome.isOk then Transaction.NativeCall.rollback else .commit
    database.Stands handle (if depth = 0 then .idle else ⟨depth, doomed || !outcome.isOk⟩) left ∧
      (depth = 0 ->
        left.driver = (handle.adapter.transact handle.connection ending).after before.driver) ∧
      (depth ≠ 0 -> left.driver = before.driver) := by
  intro left ending
  have leaves : (exists ok, database.deed? (closing outcome) before =
        if depth = 0 then some ⟨handle.id, ending, ok⟩ else none) ∧
      database.At handle.id (if depth = 0 then .idle else ⟨depth, doomed || !outcome.isOk⟩)
        left := by
    cases outcome with
    | ok value =>
        have kept : (doomed || !(Except.ok value : Except Fault Value).isOk) = doomed :=
          Bool.or_false doomed
        simp only [ending, kept]
        exact stands.held.commit
    | error fault =>
        have undone : (doomed || !(Except.error fault : Except Fault Value).isOk) = true :=
          Bool.or_true doomed
        simp only [ending, undone, if_true]
        exact stands.held.rollback
  rcases leaves with ⟨⟨ok, deed⟩, reached⟩
  rcases stands.driver (closing outcome) with ⟨quiet, calls⟩
  refine ⟨⟨perform_holds stands.holds _, reached⟩, fun flat => ?_, fun nested => ?_⟩
  · rw [if_pos flat] at deed
    exact (calls _ deed).2
  · rw [if_neg nested] at deed
    exact quiet deed

end Stands

theorem settled_unspoiled {depth : Nat} {doomed : Bool} (unmarked : depth = 0 -> doomed = false) :
    settled ⟨depth, doomed⟩ false = ⟨depth, doomed⟩ := by
  unfold settled
  split
  · rename_i flat
    simp only at flat
    rw [flat, unmarked flat]
    rfl
  · rw [Bool.or_false]

theorem depth_settled (level : Level) (spoiled : Bool) :
    (settled level spoiled).depth = level.depth := by
  unfold settled
  split
  · rename_i flat
    exact flat.symm
  · rfl

theorem unmarked_settled (level : Level) (spoiled : Bool) :
    (settled level spoiled).depth = 0 -> (settled level spoiled).isDoomed = false := by
  intro flat
  rw [depth_settled] at flat
  rw [settled, if_pos flat]
  rfl

theorem settled_settled (level : Level) (first second : Bool) :
    settled (settled level first) second = settled level (first || second) := by
  by_cases flat : level.depth = 0
  · simp only [settled, flat, if_true]
    rfl
  · simp only [settled, flat, if_false, Bool.or_assoc]

section

variable {database : Database} {handle : Handle} {depth : Nat} {doomed : Bool}
variable {session : Session α σ}
variable (stands : database.Stands handle ⟨depth, doomed⟩ session.gateway)
variable (unmarked : depth = 0 -> doomed = false)
variable (kind : BlockKind) (work : Operation (Session α σ) Value) (inner : List BlockTrace)
include stands unmarked

/-- A block that does not begin changes nothing and makes at most a begin that fails. -/
theorem blockTrace_of_refused {fault : Fault}
    (refused : database.begin.outcome session.gateway = .error fault) :
    database.Stands handle
        (settled ⟨depth, doomed⟩ (blockTrace kind database work inner session).spoils)
        ((kind.around database work).after session).gateway ∧
      (blockTrace kind database work inner session).Sound handle depth := by
  rcases stands.begin with ⟨reached, -, inside⟩
  simp only [refused, Except.isOk, Except.toBool, Bool.false_eq_true, if_false] at reached
  have left := after_around_of_refused refused kind work
  have records : (blockTrace kind database work inner session).records =
      [⟨depth, depth, false, false⟩] := by
    unfold blockTrace
    simp only [Session.outcome_library, refused, left, stands.held.depth_eq, reached.held.depth_eq]
  have unspoiled : (blockTrace kind database work inner session).spoils = false := by
    rw [BlockTrace.spoils, records]
    rfl
  have changed : (blockTrace kind database work inner session).left =
      (database.begin.after session.gateway).driver :=
    congrArg Gateway.driver left
  rw [unspoiled, settled_unspoiled unmarked, left]
  refine ⟨reached, ?_, fun flat => ?_, fun nested => ?_⟩
  · intro record member
    rw [records] at member
    rw [List.mem_singleton.mp member]
  · subst flat
    rcases stands.begin_refused refused with ⟨native, fails⟩
    rw [← changed] at fails
    exact .refused native fails
  · exact .of_same (congrArg Driver.events (changed.trans (inside nested)))

/-- A block that begins keeps what its work keeps, and ends the transaction if it began it. -/
theorem blockTrace_of_begun {begun : Session α σ}
    (begins : database.begin.outcome session.gateway = .ok ())
    (reached : begun = (library database.begin : Operation (Session α σ) Unit).after session)
    (worked : database.Stands handle ⟨depth + 1, doomed || inner.any BlockTrace.spoils⟩
      (work.after begun).gateway)
    (sound : forall trace, trace ∈ inner -> trace.Sound handle (depth + 1))
    (threads : Threads begun.gateway.driver inner (work.after begun).gateway.driver) :
    database.Stands handle
        (settled ⟨depth, doomed⟩ (blockTrace kind database work inner session).spoils)
        ((kind.around database work).after session).gateway ∧
      (blockTrace kind database work inner session).Sound handle depth := by
  let outcome := work.outcome begun
  let left := kind.leaving outcome (work.after begun)
  have spoiled : (doomed || inner.any BlockTrace.spoils || !outcome.isOk) =
      (doomed || (!outcome.isOk || inner.any BlockTrace.spoils)) := by
    rw [Bool.or_assoc, Bool.or_comm (inner.any BlockTrace.spoils)]
  have stays : database.Stands handle ⟨depth + 1, doomed || inner.any BlockTrace.spoils⟩
      left.gateway :=
    worked.of_steady (leaving_steady kind outcome _)
  rcases stays.leave outcome with ⟨levelled, outermostEnd, insideEnd⟩
  rw [spoiled, ← after_around_of_begun begins reached] at levelled
  rw [spoiled, ← after_around_of_begun begins reached] at outermostEnd
  rw [← after_around_of_begun begins reached] at insideEnd
  have level : database.Stands handle
      (settled ⟨depth, doomed⟩ (!outcome.isOk || inner.any BlockTrace.spoils))
      ((kind.around database work).after session).gateway :=
    levelled
  have records : (blockTrace kind database work inner session).records =
      ⟨depth, depth, true, !outcome.isOk⟩ :: inner.flatMap BlockTrace.records := by
    unfold blockTrace
    simp only [Session.outcome_library, begins, ← reached, stands.held.depth_eq,
      level.held.depth_eq, depth_settled]
    rfl
  have spoils : (blockTrace kind database work inner session).spoils =
      (!outcome.isOk || inner.any BlockTrace.spoils) := by
    simp only [BlockTrace.spoils, records, List.any_cons, BlockRecord.spoils, Bool.true_and,
      List.any_flatMap]
    rfl
  -- The blocks inside start below the first level, so all that goes on inside is work.
  have works : begun.gateway.driver.Adds Event.IsWork left.gateway.driver := by
    rw [leaving_driver]
    exact threads.adds fun trace member => (sound trace member).inside (Nat.succ_ne_zero _)
  have insideBegin := stands.begin.2.2
  rw [← Session.gateway_library, ← reached] at insideBegin
  refine ⟨spoils ▸ level, ?_, fun flat => ?_, fun nested => ?_⟩
  · intro record member
    rw [records] at member
    rcases List.mem_cons.mp member with rfl | member
    · rfl
    · rcases List.mem_flatMap.mp member with ⟨trace, traceMember, recordMember⟩
      exact (sound trace traceMember).depths record recordMember
  · have ended := outermostEnd flat
    rw [unmarked flat, Bool.false_or, ← spoils] at ended
    subst flat
    have opened := stands.begin_opened begins
    rw [← Session.gateway_library, ← reached] at opened
    exact BlockTrace.transacts_of_ended opened works ended.symm
  · have entered := insideBegin nested
    have kept := insideEnd nested
    rw [entered] at works
    exact trans_of (Driver.Adds Event.IsWork) works (.of_same (congrArg Driver.events kept))

end

/-- A block keeps what its work keeps, however it goes. -/
theorem blockTrace_settled {database : Database} {handle : Handle} {level : Level}
    {session : Session α σ} (stands : database.Stands handle level session.gateway)
    (unmarked : level.depth = 0 -> level.isDoomed = false) (kind : BlockKind)
    (work : Operation (Session α σ) Value) (inner : List BlockTrace)
    (worked : forall begun, begun = (library database.begin :
        Operation (Session α σ) Unit).after session ->
      database.Stands handle ⟨level.depth + 1, level.isDoomed⟩ begun.gateway ->
      database.Stands handle ⟨level.depth + 1, level.isDoomed || inner.any BlockTrace.spoils⟩
          (work.after begun).gateway ∧
        (forall trace, trace ∈ inner -> trace.Sound handle (level.depth + 1)) ∧
        Threads begun.gateway.driver inner (work.after begun).gateway.driver) :
    database.Stands handle (settled level (blockTrace kind database work inner session).spoils)
        ((kind.around database work).after session).gateway ∧
      (blockTrace kind database work inner session).Sound handle level.depth := by
  have entered := stands.begin.1
  cases begins : database.begin.outcome session.gateway with
  | error fault => exact blockTrace_of_refused stands unmarked kind work inner begins
  | ok _ =>
      rw [begins, ← Session.gateway_library] at entered
      rcases worked _ rfl entered with ⟨reached, sound, threads⟩
      exact blockTrace_of_begun stands unmarked kind work inner begins rfl reached sound threads

section

variable {runner : HookRunner α σ} (quiet : Session.QuietHooks runner)
variable (working : forall name phase callback sql,
  (runner name phase callback sql).Respects (Session.Adds Event.IsWork))
include working

/-- A query is work: connecting switches commits on and not off, its statement has parameters, and a
commit after it retains the transaction. -/
theorem query_works (database : Database) (template : String) (values : List Value) :
    (database.query runner template values).Respects (Session.Adds Event.IsWork) := by
  have opens (adapter : Adapter) (params : ConnectionParams) (options : List (String × Value)) :
      (adapter.openConnection params options).Respects (Driver.Adds Event.IsWork) :=
    Adapter.openConnection_adds (fun _ _ _ _ => rfl) (fun _ _ _ => rfl) (fun _ _ => rfl) _ _ _
  refine query_ofDriver database opens (fun connection sql parameters => ?_)
    (fun adapter _ => adapter.afterExecute_adds fun _ => rfl) working template values
  exact .bind (Native.openCursor_adds fun _ => rfl) fun cursor =>
    Native.execute_adds fun _ => rfl

include quiet

/-- Running a body keeps the depth of its connection, and adds the mark to an open transaction
exactly if a block inside had begun and failed.  Every block in it has a sound trace, and between the
blocks only work goes on. -/
theorem Body.run_settled (database : Database) (handle : Handle) (body : Body)
    (session : Session α σ) (level : Level)
    (stands : database.Stands handle level session.gateway)
    (unmarked : level.depth = 0 -> level.isDoomed = false) :
    database.Stands handle
        (settled level ((body.traces runner database session).any BlockTrace.spoils))
        ((body.run runner database).after session).gateway ∧
      (forall trace, trace ∈ body.traces runner database session ->
        trace.Sound handle level.depth) ∧
      Threads session.gateway.driver (body.traces runner database session)
        ((body.run runner database).after session).gateway.driver := by
  induction body generalizing session level with
  | done value =>
      refine ⟨?_, fun trace member => absurd member List.not_mem_nil, .rest (.of_same rfl)⟩
      exact (settled_unspoiled unmarked).symm ▸ stands
  | raise fault =>
      refine ⟨?_, fun trace member => absurd member List.not_mem_nil, .rest (.of_same rfl)⟩
      exact (settled_unspoiled unmarked).symm ▸ stands
  | query other template values next inductionHypothesis =>
      have steady := query_quiet quiet other template values session
      have works := query_works working other template values session
      rw [Body.run, Operation.after_observe_bind, Body.traces]
      rcases inductionHypothesis ((other.query runner template values).outcome session) _ level
        (stands.of_steady steady) unmarked with ⟨reached, sound, threads⟩
      exact ⟨reached, sound, threads.after_work works⟩
  | block kind body next bodyHypothesis nextHypothesis =>
      -- The work starts one level deeper; what follows starts at the level that the block leaves.
      have block := blockTrace_settled stands unmarked kind (body.run runner database)
        (body.traces runner database
          ((library database.begin : Operation (Session α σ) Unit).after session))
        (fun begun same entered => same ▸ bodyHypothesis begun
          ⟨level.depth + 1, level.isDoomed⟩ entered fun flat => absurd flat (Nat.succ_ne_zero _))
      have rest := nextHypothesis ((kind.around database (body.run runner database)).outcome session)
        ((kind.around database (body.run runner database)).after session) _ block.1
        (unmarked_settled _ _)
      rw [settled_settled, depth_settled] at rest
      rw [Body.run, Operation.after_observe_bind, Body.traces, List.any_cons]
      refine ⟨rest.1, fun trace member => ?_, .block (.of_same rfl) rest.2.2⟩
      rcases List.mem_cons.mp member with rfl | member
      · exact block.2
      · exact rest.2.1 trace member

end

/-- Whatever fails on the way, a body that is run on a connected database without a
transaction leaves no transaction and no mark behind.  Every block in it has the depth after it
that it had before.  What the driver is asked for from the first state to the last is that of its
outermost blocks, one after the other, with work between them: each makes one begin that fails, or
one begin that succeeds and, after work, one call that ends what was begun.  The end is a commit
exactly if no block in it that had begun failed in its work. -/
theorem managed_blocks {runner : HookRunner α σ} (quiet : Session.QuietHooks runner)
    (working : forall name phase callback sql,
      (runner name phase callback sql).Respects (Session.Adds Event.IsWork))
    (database : Database) (body : Body) (session : Session α σ) (handle : Handle)
    (connected : (session.gateway.entry database.entry).handle = some handle)
    (flat : database.depth session.gateway = 0)
    (unmarked : (session.gateway.tracker database.tracker).isDoomed handle.id = false) :
    let after := ((body.run runner database).after session).gateway
    let traces := body.traces runner database session
    (database.depth after = 0 ∧
      (after.tracker database.tracker).isDoomed handle.id = false ∧
      after.Holds database.entry handle) ∧
    Threads session.gateway.driver traces after.driver ∧
    forall trace, trace ∈ traces ->
      (forall record, record ∈ trace.records -> record.after = record.before) ∧
      trace.Transacts handle := by
  intro after traces
  have idle : database.Stands handle .idle session.gateway := by
    refine ⟨⟨handle.lastRowId, connected⟩, ⟨handle, connected, rfl⟩, ?_⟩
    unfold depth at flat
    rw [connected] at flat
    rw [Transaction.Tracker.level_of_depth _ _ 0 flat, unmarked]
    rfl
  rcases Body.run_settled quiet working database handle body session .idle idle (fun _ => rfl) with
    ⟨reached, sound, threads⟩
  refine ⟨⟨reached.held.depth_eq, congrArg Level.isDoomed reached.held.level, reached.holds⟩,
    threads, fun trace member => ?_⟩
  exact ⟨(sound trace member).depths, (sound trace member).outermost rfl⟩

/-- Work that fails inside a block, where the failure is caught around the inner block. -/
def caughtInside : Body :=
  .block .run (.block .run (.raise (.bare .badValue)) fun _ => .done .null) fun _ => .done .null

/-- The driver begins a transaction and rolls it back, although the outer block did not fail. -/
theorem managed_blocks_of_caught :
    (forall name phase callback sql, (Session.idleHooks (α := Unit) (σ := Unit) name phase callback
        sql).Respects (Session.Adds Event.IsWork)) ∧
      exists handle, (Session.memory.gateway.entry memory.entry).handle = some handle ∧
        memory.depth Session.memory.gateway = 0 ∧
        (Session.memory.gateway.tracker memory.tracker).isDoomed handle.id = false ∧
        exists trace, caughtInside.traces Session.idleHooks memory Session.memory = [trace] ∧
          trace.Transacts handle ∧ trace.records.map BlockRecord.failed = [false, true] ∧
          (trace.left.events.drop trace.entered.events.length).map Event.call =
            [.runDirectly handle.connection "BEGIN", .rollback handle.connection] := by
  have working : forall name phase callback sql, (Session.idleHooks (α := Unit) (σ := Unit) name
      phase callback sql).Respects (Session.Adds Event.IsWork) :=
    fun _ _ _ _ => .pure ()
  have blocks := managed_blocks Session.quiet_idleHooks working memory caughtInside Session.memory
    ⟨1, .opened 1, .sqlite, .null⟩ rfl rfl rfl
  exact ⟨working, ⟨1, .opened 1, .sqlite, .null⟩, rfl, rfl, rfl, _, rfl,
    (blocks.2.2 _ (List.mem_singleton_self _)).2, rfl, rfl⟩

end Database
end SqlGateway
