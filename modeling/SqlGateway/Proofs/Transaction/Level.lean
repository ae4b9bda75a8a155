import SqlGateway.Transaction.Steps

namespace SqlGateway
namespace Transaction

/-!
# What a step does to the level of a connection

A tracker knows two things about a connection: how deep its transaction is nested,
and whether that transaction is doomed.  Together they are the level of the connection.

A step moves the level of its own connection in one of few ways and leaves every
other level alone.  `Tracker.step_movement` says once which ways there are, together
with the native call that is made and whether the step succeeds.  Results about runs of
steps follow from this statement alone; the tables inside the tracker are not opened again.
-/

/-- All that a tracker knows about a connection. -/
structure Level where
  depth : Nat
  isDoomed : Bool
deriving DecidableEq, Repr

/-- The level of a connection without a transaction. -/
def Level.idle : Level := ⟨0, false⟩

/-- The level of a connection. -/
def Tracker.level (tracker : Tracker) (id : Nat) : Level :=
  ⟨tracker.depth id, tracker.isDoomed id⟩

namespace Step

/-- The connection that a step is about. -/
def id : Step → Nat
  | .begin id _ _ | .commit id _ | .rollback id _ | .forget id => id

/-- Whether a step wants to keep the work of a level. -/
def isCommit : Step → Bool
  | .commit _ _ => true
  | _ => false

/-- Whether a step says that a connection was closed. -/
def forgets (step : Step) (id : Nat) : Bool :=
  match step with
  | .forget other => other = id
  | _ => false

end Step

namespace StepAnswer

/-- The native call that a step made on a connection, if it made one. -/
def callOn (answer : StepAnswer) (id : Nat) : Option NativeCall :=
  (answer.call.filter fun call => call.1 = id).map Prod.snd

def succeeded (answer : StepAnswer) : Bool := answer.outcome.isOk

end StepAnswer

/-- The ways in which a step moves the level of a connection.  Given are the step, the
level before it, the native call on the connection, whether the step succeeds, and the
level after it. -/
inductive Movement (id : Nat) : Step → Level → Option NativeCall → Bool → Level → Prop where
  /-- The step is about another connection. -/
  | elsewhere {step : Step} (level : Level) (ok : Bool) (other : step.id ≠ id) :
      Movement id step level none ok level
  | beginFailed (nestable : Bool) (fault : Fault) (doomed : Bool) :
      Movement id (.begin id nestable (some fault)) ⟨0, doomed⟩ (some .begin) false ⟨0, doomed⟩
  | began (nestable doomed : Bool) :
      Movement id (.begin id nestable none) ⟨0, doomed⟩ (some .begin) true ⟨1, doomed⟩
  | entered (fault : Option Fault) (depth : Nat) (doomed : Bool) :
      Movement id (.begin id true fault) ⟨depth + 1, doomed⟩ none true ⟨depth + 2, doomed⟩
  | notNestable (fault : Option Fault) (depth : Nat) (doomed : Bool) :
      Movement id (.begin id false fault) ⟨depth + 1, doomed⟩ none false ⟨depth + 1, doomed⟩
  | nothingToCommit (fault : Option Fault) (doomed : Bool) :
      Movement id (.commit id fault) ⟨0, doomed⟩ none false ⟨0, doomed⟩
  | nothingToRollBack (fault : Option Fault) (doomed : Bool) :
      Movement id (.rollback id fault) ⟨0, doomed⟩ none false ⟨0, doomed⟩
  /-- A level inside others is left, and its work is kept for now. -/
  | kept (fault : Option Fault) (depth : Nat) (doomed : Bool) :
      Movement id (.commit id fault) ⟨depth + 2, doomed⟩ none true ⟨depth + 1, doomed⟩
  /-- A level inside others is left, and its work must be undone. -/
  | undone (fault : Option Fault) (depth : Nat) (doomed : Bool) :
      Movement id (.rollback id fault) ⟨depth + 2, doomed⟩ none true ⟨depth + 1, true⟩
  /-- The last level is left; the native call follows the mark, not the wish. -/
  | committed (fault : Option Fault) (doomed : Bool) :
      Movement id (.commit id fault) ⟨1, doomed⟩
        (some (if doomed then .rollback else .commit)) fault.isNone ⟨0, false⟩
  | rolledBack (fault : Option Fault) (doomed : Bool) :
      Movement id (.rollback id fault) ⟨1, doomed⟩ (some .rollback) fault.isNone ⟨0, false⟩
  | forgotten (level : Level) : Movement id (.forget id) level none true ⟨0, false⟩

namespace Tracker

/-! ## Levels under the primitive changes of a tracker -/

theorem level_setDepth (tracker : Tracker) (id other depth : Nat) :
    (tracker.setDepth id depth).level other =
      if other = id then ⟨depth, tracker.isDoomed id⟩ else tracker.level other := by
  unfold level
  rw [depth_setDepth, isDoomed_setDepth]
  split
  · rename_i same
    rw [same]
  · rfl

theorem level_spare (tracker : Tracker) (id other : Nat) :
    (tracker.spare id).level other =
      if other = id then ⟨tracker.depth id, false⟩ else tracker.level other := by
  unfold level
  rw [depth_spare, isDoomed_spare]
  split
  · rename_i same
    rw [same]
  · rfl

theorem level_doom (tracker : Tracker) (id other : Nat) :
    (tracker.doom id).level other =
      if other = id then ⟨tracker.depth id, true⟩ else tracker.level other := by
  unfold level
  rw [depth_doom, isDoomed_doom]
  split
  · rename_i same
    rw [same]
  · rfl

theorem level_forget (tracker : Tracker) (id other : Nat) :
    (tracker.forget id).level other = if other = id then .idle else tracker.level other := by
  unfold level
  rw [depth_forget, isDoomed_forget]
  split <;> rfl

end Tracker

/-! ## Carrying out plans -/

theorem carryOut_callOn (id other : Nat) (plan : Plan) (fault : Option Fault) :
    (carryOut id plan fault).1.callOn other = if id = other then plan.call else none := by
  cases called : plan.call with
  | none => cases fault <;> simp [carryOut, called, StepAnswer.callOn]
  | some call =>
      by_cases same : id = other <;> cases fault <;>
        simp [carryOut, called, StepAnswer.callOn, same]

theorem carryOut_succeeded (id : Nat) (plan : Plan) (fault : Option Fault) :
    (carryOut id plan fault).1.succeeded = (plan.call.isNone || fault.isNone) := by
  cases called : plan.call <;> cases fault <;>
    simp [carryOut, called, StepAnswer.succeeded, Except.isOk, Except.toBool]

theorem carryOut_of_quiet (id : Nat) (plan : Plan) (fault : Option Fault)
    (quiet : plan.call = none) : (carryOut id plan fault).2 = plan.succeeded := by
  cases fault <;> simp only [carryOut, quiet]

theorem carryOut_of_indifferent (id : Nat) (plan : Plan) (fault : Option Fault)
    (indifferent : plan.failed = plan.succeeded) : (carryOut id plan fault).2 = plan.succeeded := by
  cases called : plan.call <;> cases fault <;> simp only [carryOut, called, indifferent]

namespace Tracker

/-- Every plan of an operation leaves the levels of other connections alone. -/
def Plans (tracker : Tracker) (id : Nat) (plan : Except Fault Plan) : Prop :=
  forall made, plan = .ok made -> forall other, other ≠ id ->
    made.failed.level other = tracker.level other ∧ made.succeeded.level other = tracker.level other

theorem begin_plans (tracker : Tracker) (id : Nat) (nestable : Bool) :
    tracker.Plans id (tracker.begin id nestable) := by
  intro made plan other different
  unfold Tracker.begin at plan
  split at plan
  · cases plan
    exact ⟨rfl, by rw [level_setDepth, if_neg different]⟩
  · split at plan
    · cases plan
      simp only [quietly, level_setDepth, if_neg different, and_self]
    · cases plan

theorem ending_level (tracker : Tracker) (id other : Nat) (call : NativeCall)
    (announcement : String) :
    (tracker.ending id call announcement).succeeded.level other =
      if other = id then .idle else tracker.level other := by
  simp only [ending, level_spare, depth_setDepth, level_setDepth, if_true]
  split <;> rfl

theorem ending_elsewhere (tracker : Tracker) (id other : Nat) (call : NativeCall)
    (announcement : String) (different : other ≠ id) :
    (tracker.ending id call announcement).failed.level other = tracker.level other ∧
      (tracker.ending id call announcement).succeeded.level other = tracker.level other := by
  have left := (ending_level tracker id other call announcement).trans (if_neg different)
  exact ⟨left, left⟩

theorem commit_plans (tracker : Tracker) (id : Nat) :
    tracker.Plans id (tracker.commit id) := by
  intro made plan other different
  unfold Tracker.commit at plan
  split at plan
  · cases plan
  · cases plan
    split
    · exact ending_elsewhere tracker id other _ _ different
    · exact ending_elsewhere tracker id other _ _ different
  · cases plan
    simp only [quietly, level_setDepth, if_neg different, and_self]

theorem rollback_plans (tracker : Tracker) (id : Nat) :
    tracker.Plans id (tracker.rollback id) := by
  intro made plan other different
  unfold Tracker.rollback at plan
  split at plan
  · cases plan
  · cases plan
    exact ending_elsewhere tracker id other _ _ different
  · cases plan
    simp only [quietly, level_doom, level_setDepth, if_neg different, and_self]

/-- An operation on one connection is not noticed on another. -/
theorem attempt_elsewhere (tracker : Tracker) (id other : Nat) (plan : Except Fault Plan)
    (fault : Option Fault) (plans : tracker.Plans id plan) (different : other ≠ id) :
    (attempt tracker id plan fault).1.callOn other = none ∧
      (attempt tracker id plan fault).2.level other = tracker.level other := by
  cases plan with
  | error refused => exact ⟨rfl, rfl⟩
  | ok made =>
      have levels := plans made rfl other different
      refine ⟨(carryOut_callOn id other made fault).trans (if_neg (Ne.symm different)), ?_⟩
      simp only [attempt, carryOut]
      split
      · exact levels.1
      · exact levels.2
      · exact levels.2

theorem step_elsewhere (tracker : Tracker) (step : Step) (other : Nat)
    (different : step.id ≠ other) :
    (tracker.step step).1.callOn other = none ∧
      (tracker.step step).2.level other = tracker.level other := by
  have apart : other ≠ step.id := Ne.symm different
  cases step with
  | begin id nestable fault =>
      exact attempt_elsewhere tracker id other _ fault (begin_plans tracker id nestable) apart
  | commit id fault =>
      exact attempt_elsewhere tracker id other _ fault (commit_plans tracker id) apart
  | rollback id fault =>
      exact attempt_elsewhere tracker id other _ fault (rollback_plans tracker id) apart
  | forget id => exact ⟨rfl, (level_forget tracker id other).trans (if_neg apart)⟩

/-! ## The plans of the three operations, by level -/

theorem begin_of_depth_zero (tracker : Tracker) (id : Nat) (nestable : Bool)
    (flat : tracker.depth id = 0) :
    exists confirmation, tracker.begin id nestable =
      .ok ⟨some .begin, tracker, tracker.setDepth id 1, 1, none, confirmation⟩ := by
  unfold Tracker.begin
  rw [flat]
  exact ⟨_, rfl⟩

theorem begin_of_depth_succ (tracker : Tracker) (id depth : Nat) (nestable : Bool)
    (nested : tracker.depth id = depth + 1) :
    exists announcement, tracker.begin id nestable =
      if nestable then .ok (quietly (tracker.setDepth id (depth + 2)) (depth + 2) announcement)
      else .error notNestable := by
  unfold Tracker.begin
  rw [nested]
  exact ⟨_, rfl⟩

theorem commit_of_depth_one (tracker : Tracker) (id : Nat) (last : tracker.depth id = 1) :
    exists announcement, tracker.commit id =
      .ok (tracker.ending id (if tracker.isDoomed id then .rollback else .commit)
        announcement) := by
  unfold Tracker.commit
  rw [last]
  by_cases doomed : tracker.isDoomed id
  · simp only [doomed, if_true]
    exact ⟨_, rfl⟩
  · simp only [doomed]
    exact ⟨_, rfl⟩

theorem level_of_depth (tracker : Tracker) (id depth : Nat) (known : tracker.depth id = depth) :
    tracker.level id = ⟨depth, tracker.isDoomed id⟩ := by
  rw [level, known]

theorem attempt_quietly (tracker changed : Tracker) (id depth : Nat)
    (announcement : Option String) (fault : Option Fault) :
    (attempt tracker id (.ok (quietly changed depth announcement)) fault).1.callOn id = none ∧
      (attempt tracker id (.ok (quietly changed depth announcement)) fault).1.succeeded = true ∧
      (attempt tracker id (.ok (quietly changed depth announcement)) fault).2 = changed := by
  have called := carryOut_callOn id id (quietly changed depth announcement) fault
  rw [if_pos rfl] at called
  exact ⟨called, carryOut_succeeded id _ fault, carryOut_of_quiet id _ fault rfl⟩

theorem attempt_ending (tracker : Tracker) (id : Nat) (call : NativeCall) (announcement : String)
    (fault : Option Fault) :
    (attempt tracker id (.ok (tracker.ending id call announcement)) fault).1.callOn id =
        some call ∧
      (attempt tracker id (.ok (tracker.ending id call announcement)) fault).1.succeeded =
        fault.isNone ∧
      (attempt tracker id (.ok (tracker.ending id call announcement)) fault).2.level id =
        .idle := by
  have called := carryOut_callOn id id (tracker.ending id call announcement) fault
  rw [if_pos rfl] at called
  have left := carryOut_of_indifferent id (tracker.ending id call announcement) fault rfl
  refine ⟨called, carryOut_succeeded id _ fault, ?_⟩
  exact (congrArg (fun after => Tracker.level after id) left).trans
    ((ending_level tracker id id call announcement).trans (if_pos rfl))

/-! ## What a step can do -/

/-- How an operation moves the level of its connection, as the step that makes it would. -/
def Moves (tracker : Tracker) (id : Nat) (step : Step) (plan : Except Fault Plan)
    (fault : Option Fault) : Prop :=
  Movement id step (tracker.level id) ((attempt tracker id plan fault).1.callOn id)
    (attempt tracker id plan fault).1.succeeded ((attempt tracker id plan fault).2.level id)

theorem begin_moves (tracker : Tracker) (id : Nat) (nestable : Bool) (fault : Option Fault) :
    tracker.Moves id (.begin id nestable fault) (tracker.begin id nestable) fault := by
  unfold Moves
  cases known : tracker.depth id with
  | zero =>
      rcases begin_of_depth_zero tracker id nestable known with ⟨confirmation, plan⟩
      rw [plan]
      simp only [attempt, carryOut_callOn, carryOut_succeeded, if_true]
      rw [level_of_depth tracker id 0 known]
      cases fault with
      | none =>
          simp only [carryOut, level_setDepth, if_true]
          exact .began nestable _
      | some fault =>
          simp only [carryOut]
          rw [level_of_depth tracker id 0 known]
          exact .beginFailed nestable fault _
  | succ depth =>
      rcases begin_of_depth_succ tracker id depth nestable known with ⟨announcement, plan⟩
      rw [plan, level_of_depth tracker id _ known]
      cases nestable with
      | true =>
          rcases attempt_quietly tracker (tracker.setDepth id (depth + 2)) id (depth + 2)
            announcement fault with ⟨called, succeeded, after⟩
          simp only [if_true]
          rw [called, succeeded, after, level_setDepth, if_pos rfl]
          exact .entered fault depth _
      | false =>
          simp only [Bool.false_eq_true, if_false, attempt]
          rw [level_of_depth tracker id _ known]
          exact .notNestable fault depth _

theorem commit_moves (tracker : Tracker) (id : Nat) (fault : Option Fault) :
    tracker.Moves id (.commit id fault) (tracker.commit id) fault := by
  unfold Moves
  match known : tracker.depth id with
  | 0 =>
      have refused : tracker.commit id = .error (notActive "commit") := by
        rw [Tracker.commit, known]
      rw [refused]
      simp only [attempt]
      rw [level_of_depth tracker id 0 known]
      exact .nothingToCommit fault _
  | 1 =>
      rcases commit_of_depth_one tracker id known with ⟨announcement, plan⟩
      rw [plan, level_of_depth tracker id 1 known]
      rcases attempt_ending tracker id (if tracker.isDoomed id then .rollback else .commit)
        announcement fault with ⟨called, succeeded, after⟩
      rw [called, succeeded, after]
      exact .committed fault _
  | depth + 2 =>
      have plan : tracker.commit id =
          .ok (quietly (tracker.setDepth id (depth + 1)) (depth + 1) none) := by
        rw [Tracker.commit, known]
      rcases attempt_quietly tracker (tracker.setDepth id (depth + 1)) id (depth + 1) none fault
        with ⟨called, succeeded, after⟩
      rw [plan, level_of_depth tracker id _ known, called, succeeded, after, level_setDepth,
        if_pos rfl]
      exact .kept fault depth _

theorem rollback_moves (tracker : Tracker) (id : Nat) (fault : Option Fault) :
    tracker.Moves id (.rollback id fault) (tracker.rollback id) fault := by
  unfold Moves
  match known : tracker.depth id with
  | 0 =>
      have refused : tracker.rollback id = .error (notActive "rollback") := by
        rw [Tracker.rollback, known]
      rw [refused]
      simp only [attempt]
      rw [level_of_depth tracker id 0 known]
      exact .nothingToRollBack fault _
  | 1 =>
      have plan : tracker.rollback id = .ok (tracker.ending id .rollback
          ("Issuing native rollback on connection " ++ Nat.repr id)) := by
        rw [Tracker.rollback, known]
      rcases attempt_ending tracker id .rollback
        ("Issuing native rollback on connection " ++ Nat.repr id) fault with
          ⟨called, succeeded, after⟩
      rw [plan, level_of_depth tracker id 1 known, called, succeeded, after]
      exact .rolledBack fault _
  | depth + 2 =>
      have plan : tracker.rollback id =
          .ok (quietly ((tracker.setDepth id (depth + 1)).doom id) (depth + 1) none) := by
        rw [Tracker.rollback, known]
      rcases attempt_quietly tracker ((tracker.setDepth id (depth + 1)).doom id) id (depth + 1)
        none fault with ⟨called, succeeded, after⟩
      rw [plan, level_of_depth tracker id _ known, called, succeeded, after, level_doom,
        if_pos rfl, depth_setDepth, if_pos rfl]
      exact .undone fault depth _

/-- A step moves the level of any given connection in one of the listed ways. -/
theorem step_movement (tracker : Tracker) (step : Step) (id : Nat) :
    Movement id step (tracker.level id) ((tracker.step step).1.callOn id)
      (tracker.step step).1.succeeded ((tracker.step step).2.level id) := by
  by_cases own : step.id = id
  · subst own
    cases step with
    | begin id nestable fault => exact begin_moves tracker id nestable fault
    | commit id fault => exact commit_moves tracker id fault
    | rollback id fault => exact rollback_moves tracker id fault
    | forget id =>
        have after := level_forget tracker id id
        rw [if_pos rfl] at after
        simp only [Tracker.step, Step.id]
        rw [after]
        exact .forgotten _
  · rcases step_elsewhere tracker step id own with ⟨called, after⟩
    rw [called, after]
    exact .elsewhere _ _ own

end Tracker

namespace Movement

variable {id : Nat} {step : Step} {call : Option NativeCall} {ok : Bool} {after : Level}

/-- From an idle level a step makes no native call or tries to begin a transaction. -/
theorem of_idle (moved : Movement id step .idle call ok after) :
    (call = none ∧ after = .idle) ∨
      (call = some .begin ∧ after = if ok then ⟨1, false⟩ else .idle) := by
  unfold Level.idle at moved
  cases moved with
  | elsewhere => exact Or.inl ⟨rfl, rfl⟩
  | beginFailed => exact Or.inr ⟨rfl, rfl⟩
  | began => exact Or.inr ⟨rfl, rfl⟩
  | nothingToCommit => exact Or.inl ⟨rfl, rfl⟩
  | nothingToRollBack => exact Or.inl ⟨rfl, rfl⟩
  | forgotten => exact Or.inl ⟨rfl, rfl⟩

/-- No step leaves a mark on a connection without a transaction. -/
theorem unmarked {level : Level} (moved : Movement id step level call ok after)
    (unmarked : level.depth = 0 -> level.isDoomed = false) :
    after.depth = 0 -> after.isDoomed = false := by
  cases moved with
  | elsewhere => exact unmarked
  | beginFailed => exact unmarked
  | nothingToCommit => exact unmarked
  | nothingToRollBack => exact unmarked
  | began => exact fun flat => absurd flat (Nat.succ_ne_zero _)
  | entered => exact fun flat => absurd flat (Nat.succ_ne_zero _)
  | notNestable => exact fun flat => absurd flat (Nat.succ_ne_zero _)
  | kept => exact fun flat => absurd flat (Nat.succ_ne_zero _)
  | undone => exact fun flat => absurd flat (Nat.succ_ne_zero _)
  | committed => exact fun _ => rfl
  | rolledBack => exact fun _ => rfl
  | forgotten => exact fun _ => rfl

/-- A step that makes a native call does not forget the connection. -/
theorem forgets_of_call {level : Level} {made : NativeCall}
    (moved : Movement id step level (some made) ok after) : step.forgets id = false := by
  cases moved <;> rfl

/-- A begin that succeeds on an idle connection opens a transaction. -/
theorem began_of_idle {nestable : Bool} {fault : Option Fault}
    (moved : Movement id (.begin id nestable fault) .idle call true after) :
    call = some .begin ∧ after = ⟨1, false⟩ := by
  unfold Level.idle at moved
  cases moved with
  | elsewhere _ _ other => exact absurd rfl other
  | began => exact ⟨rfl, rfl⟩

/-- A native commit is made only on the last level of a transaction without a mark. -/
theorem level_of_commit {level : Level} {fault : Option Fault}
    (moved : Movement id (.commit id fault) level (some .commit) ok after) :
    level = ⟨1, false⟩ := by
  generalize calls : some NativeCall.commit = call at moved
  cases moved with
  | elsewhere _ _ other => exact absurd rfl other
  | nothingToCommit => cases calls
  | kept => cases calls
  | committed fault doomed =>
      cases doomed with
      | false => rfl
      | true => cases calls

/-- From a level with a transaction a step that forgets nothing either stays inside that
transaction, where leaving a level without committing it dooms the rest, or ends it. -/
theorem of_busy {depth : Nat} {mark : Bool} (kept : step.forgets id = false)
    (moved : Movement id step ⟨depth + 1, mark⟩ call ok after) :
    (call = none ∧ 0 < after.depth ∧
        after.isDoomed = (mark || (decide (after.depth < depth + 1) && !step.isCommit))) ∨
      (call = some (if mark || !step.isCommit then .rollback else .commit) ∧ after = .idle ∧
        depth = 0) := by
  cases moved with
  | elsewhere => exact Or.inl ⟨rfl, Nat.succ_pos depth, by simp⟩
  | entered => exact Or.inl ⟨rfl, Nat.succ_pos _, by simp⟩
  | notNestable => exact Or.inl ⟨rfl, Nat.succ_pos depth, by simp⟩
  | kept => exact Or.inl ⟨rfl, Nat.succ_pos _, by simp [Step.isCommit]⟩
  | undone => exact Or.inl ⟨rfl, Nat.succ_pos _, by simp [Step.isCommit]⟩
  | committed => exact Or.inr ⟨by simp [Step.isCommit], rfl, rfl⟩
  | rolledBack => exact Or.inr ⟨by simp [Step.isCommit], rfl, rfl⟩
  | forgotten => simp [Step.forgets] at kept

end Movement

end Transaction
end SqlGateway
