import Mathlib.Computability.Language
import SqlGateway.Proofs.Transaction.Level

namespace SqlGateway
namespace Transaction

open scoped Computability

/-!
# The native calls of a tracker are whole transactions

A driver knows only flat transactions, so the calls that it sees on a connection must be
begins and ends in turn.  The allowed sequences are a regular language: any number of
failed begins, one successful begin, one commit or rollback, and so on from the start.

The main statement is about any run of steps on any number of connections, in which each
native call may succeed or fail.  Between two steps that forget a connection, the native
calls on it are a word of that language; the depth is positive exactly while a successful
begin has not been ended; and the call that ends it is a commit exactly if every step
that lowered the depth since then was a commit.

The invariant behind it is `Phase`: either the connection is idle, or a step can be named
that began its native transaction, and the mark records whether a level was rolled back since.
-/

/-- A native call with whether it succeeded. -/
structure LoggedCall where
  call : NativeCall
  succeeded : Bool
deriving DecidableEq, Repr

/-- The native call that a step made on a connection, with its success. -/
def StepAnswer.logged? (answer : StepAnswer) (id : Nat) : Option LoggedCall :=
  (answer.callOn id).map fun call => ⟨call, answer.succeeded⟩

/-! ## The language of native calls -/

def failedBegin : Language LoggedCall := {[⟨.begin, false⟩]}

def successfulBegin : Language LoggedCall := {[⟨.begin, true⟩]}

/-- A commit or a rollback; it ends the transaction even if it fails. -/
def nativeEnd : Language LoggedCall := {word | exists logged, word = [logged] ∧ logged.call ≠ .begin}

/-- Transactions that were begun and ended, one after the other. -/
def endedTransactions : Language LoggedCall := (failedBegin∗ * successfulBegin * nativeEnd)∗

/-- Ended transactions and perhaps failed attempts to begin another. -/
def idleCalls : Language LoggedCall := endedTransactions * failedBegin∗

/-- Ended transactions and one that was begun. -/
def openCalls : Language LoggedCall := endedTransactions * (failedBegin∗ * successfulBegin)

/-- Transactions one after the other, of which the last may be unfinished. -/
def nativeWords : Language LoggedCall := idleCalls + openCalls

/-- A successful begin was followed by no commit and no rollback. -/
def HasOpenTransaction (calls : List LoggedCall) : Prop :=
  exists before after, calls = before ++ ⟨.begin, true⟩ :: after ∧
    forall logged, logged ∈ after -> logged.call = .begin

theorem nil_mem_idleCalls : [] ∈ idleCalls :=
  Language.append_mem_mul (Language.nil_mem_kstar _) (Language.nil_mem_kstar _)

theorem idleCalls_failedBegin {calls : List LoggedCall} (idle : calls ∈ idleCalls) :
    calls ++ [⟨.begin, false⟩] ∈ idleCalls := by
  have appended : calls ++ [⟨.begin, false⟩] ∈ idleCalls * failedBegin :=
    Language.append_mem_mul idle rfl
  have absorbed : idleCalls * failedBegin ≤ idleCalls := by
    unfold idleCalls
    rw [mul_assoc]
    exact mul_le_mul_right kstar_mul_le_kstar _
  exact absorbed appended

theorem openCalls_of_idleCalls {calls : List LoggedCall} (idle : calls ∈ idleCalls) :
    calls ++ [⟨.begin, true⟩] ∈ openCalls := by
  have appended : calls ++ [⟨.begin, true⟩] ∈ idleCalls * successfulBegin :=
    Language.append_mem_mul idle rfl
  unfold idleCalls at appended
  rw [mul_assoc] at appended
  exact appended

theorem idleCalls_of_openCalls {calls : List LoggedCall} (logged : LoggedCall)
    (begun : calls ∈ openCalls) (ends : logged.call ≠ .begin) : calls ++ [logged] ∈ idleCalls := by
  have appended : calls ++ [logged] ∈ openCalls * nativeEnd :=
    Language.append_mem_mul begun ⟨logged, rfl, ends⟩
  have whole : openCalls * nativeEnd ≤ endedTransactions := by
    unfold openCalls
    rw [mul_assoc]
    exact kstar_mul_le_kstar
  have more : endedTransactions ≤ idleCalls := le_mul_of_one_le_right' one_le_kstar
  exact more (whole appended)

theorem not_hasOpenTransaction_nil : ¬ HasOpenTransaction [] := by
  rintro ⟨before, after, equal, -⟩
  cases before <;> cases equal

/-- The last call decides, unless it is a begin that failed. -/
theorem hasOpenTransaction_concat (calls : List LoggedCall) (logged : LoggedCall) :
    HasOpenTransaction (calls ++ [logged]) ↔
      logged = ⟨.begin, true⟩ ∨ (logged.call = .begin ∧ HasOpenTransaction calls) := by
  constructor
  · rintro ⟨before, after, equal, begins⟩
    rcases List.eq_nil_or_concat after with rfl | ⟨others, last, rfl⟩
    · exact Or.inl (List.append_inj_right' equal rfl |> List.cons.inj).1
    · rw [List.concat_eq_append, ← List.cons_append, ← List.append_assoc] at equal
      have parts := List.append_inj' equal rfl
      have same : logged = last := (List.cons.inj parts.2).1
      refine Or.inr ⟨same ▸ begins last (by simp), before, others, parts.1, ?_⟩
      intro other member
      exact begins other (by simp [member])
  · rintro (rfl | ⟨begins, before, after, rfl, others⟩)
    · exact ⟨calls, [], rfl, fun other member => absurd member List.not_mem_nil⟩
    · refine ⟨before, after ++ [logged], by simp, ?_⟩
      intro other member
      rcases List.mem_append.mp member with earlier | last
      · exact others other earlier
      · rw [List.mem_singleton.mp last]
        exact begins

/-! ## Runs of steps -/

namespace Tracker

def after (tracker : Tracker) (steps : List Step) : Tracker :=
  steps.foldl (fun tracker step => (tracker.step step).2) tracker

theorem after_append (tracker : Tracker) (first second : List Step) :
    tracker.after (first ++ second) = (tracker.after first).after second :=
  List.foldl_append

theorem after_concat (tracker : Tracker) (steps : List Step) (step : Step) :
    tracker.after (steps ++ [step]) = ((tracker.after steps).step step).2 := by
  simp only [after, List.foldl_append, List.foldl_cons, List.foldl_nil]

theorem run_append (tracker : Tracker) (first second : List Step) :
    tracker.run (first ++ second) = tracker.run first ++ (tracker.after first).run second := by
  induction first generalizing tracker with
  | nil => rfl
  | cons step rest inductionHypothesis =>
      simp only [List.cons_append, run, inductionHypothesis]
      rfl

end Tracker

/-- The native calls that a run of steps makes on a connection, in order. -/
def nativeCalls (id : Nat) (tracker : Tracker) (steps : List Step) : List LoggedCall :=
  (tracker.run steps).filterMap fun answered => answered.1.logged? id

/-- The steps of a run that lower the depth of a connection, in order. -/
def loweringSteps (id : Nat) : Tracker -> List Step -> List Step
  | _, [] => []
  | tracker, step :: rest =>
    if (tracker.step step).2.depth id < tracker.depth id then
      step :: loweringSteps id (tracker.step step).2 rest
    else loweringSteps id (tracker.step step).2 rest

theorem nativeCalls_concat (id : Nat) (tracker : Tracker) (steps : List Step) (step : Step) :
    nativeCalls id tracker (steps ++ [step]) =
      nativeCalls id tracker steps ++
        (((tracker.after steps).step step).1.logged? id).toList := by
  unfold nativeCalls
  rw [Tracker.run_append, List.filterMap_append]
  cases logged : ((tracker.after steps).step step).1.logged? id <;>
    simp only [Tracker.run, List.filterMap_cons, List.filterMap_nil, logged, Option.toList]

theorem loweringSteps_concat (id : Nat) (tracker : Tracker) (steps : List Step) (step : Step) :
    loweringSteps id tracker (steps ++ [step]) =
      loweringSteps id tracker steps ++
        (if ((tracker.after steps).step step).2.depth id < (tracker.after steps).depth id
          then [step] else []) := by
  induction steps generalizing tracker with
  | nil => rfl
  | cons first rest inductionHypothesis =>
      simp only [List.cons_append, loweringSteps, inductionHypothesis]
      split <;> rfl

/-! ## The invariant of a run -/

/-- A step of a run began the native transaction of a connection, and it is still open:
the steps inside made no native call, and the mark tells whether each level left was
committed. -/
structure OpenedBy (id : Nat) (start : Tracker) (steps outside : List Step) (opening : Step)
    (inside : List Step) : Prop where
  parts : steps = outside ++ opening :: inside
  began : ((start.after outside).step opening).1.logged? id = some ⟨.begin, true⟩
  quiet : nativeCalls id (start.after (outside ++ [opening])) inside = []
  nested : 0 < (start.after steps).depth id
  mark : (start.after steps).isDoomed id =
    !(loweringSteps id (start.after (outside ++ [opening])) inside).all Step.isCommit

theorem OpenedBy.reached {id : Nat} {start : Tracker} {steps outside inside : List Step}
    {opening : Step} (opened : OpenedBy id start steps outside opening inside) :
    (start.after (outside ++ [opening])).after inside = start.after steps := by
  rw [← Tracker.after_append, opened.parts, List.append_assoc, List.singleton_append]

/-- The steps that lowered the depth since the begin, when one more step is taken. -/
theorem OpenedBy.loweringSteps_concat {id : Nat} {start : Tracker}
    {steps outside inside : List Step} {opening : Step}
    (opened : OpenedBy id start steps outside opening inside) (step : Step) :
    loweringSteps id (start.after (outside ++ [opening])) (inside ++ [step]) =
      loweringSteps id (start.after (outside ++ [opening])) inside ++
        (if (start.after (steps ++ [step])).depth id < (start.after steps).depth id
          then [step] else []) := by
  rw [Transaction.loweringSteps_concat, opened.reached, Tracker.after_concat start steps]

/-- Where a connection is after steps, with the calls made on it so far. -/
inductive Phase (id : Nat) (start : Tracker) (steps : List Step) : Prop where
  | idle (level : (start.after steps).level id = .idle)
      (word : nativeCalls id start steps ∈ idleCalls)
      (ended : ¬ HasOpenTransaction (nativeCalls id start steps))
  | busy (outside : List Step) (opening : Step) (inside : List Step)
      (opened : OpenedBy id start steps outside opening inside)
      (word : nativeCalls id start steps ∈ openCalls)
      (begun : HasOpenTransaction (nativeCalls id start steps))

/-- What a run logs when one more step is taken. -/
theorem nativeCalls_concat_of_callOn {id : Nat} {tracker : Tracker} {steps : List Step}
    {step : Step} {call : Option NativeCall}
    (called : ((tracker.after steps).step step).1.callOn id = call) :
    nativeCalls id tracker (steps ++ [step]) = nativeCalls id tracker steps ++
      (call.map fun call =>
        LoggedCall.mk call ((tracker.after steps).step step).1.succeeded).toList := by
  rw [nativeCalls_concat, StepAnswer.logged?, called]

/-- From an idle connection a step can only try to begin a native transaction. -/
theorem Phase.step_of_idle {id : Nat} {start : Tracker} {steps : List Step} (step : Step)
    (level : (start.after steps).level id = .idle)
    (word : nativeCalls id start steps ∈ idleCalls)
    (ended : ¬ HasOpenTransaction (nativeCalls id start steps)) :
    Phase id start (steps ++ [step]) := by
  have moved := (start.after steps).step_movement step id
  rw [level, ← Tracker.after_concat] at moved
  rcases moved.of_idle with ⟨called, reached⟩ | ⟨called, reached⟩
  · have same : nativeCalls id start (steps ++ [step]) = nativeCalls id start steps := by
      rw [nativeCalls_concat_of_callOn called]
      exact List.append_nil _
    exact .idle reached (same ▸ word) (same ▸ ended)
  · have calls := nativeCalls_concat_of_callOn called
    cases succeeded : ((start.after steps).step step).1.succeeded with
    | false =>
        rw [succeeded] at calls reached
        refine .idle reached (calls ▸ idleCalls_failedBegin word) ?_
        rw [calls]
        intro begun
        rcases (hasOpenTransaction_concat _ _).mp begun with impossible | ⟨-, before⟩
        · cases impossible
        · exact ended before
    | true =>
        rw [succeeded] at calls reached
        have begun := (hasOpenTransaction_concat (nativeCalls id start steps)
          ⟨.begin, true⟩).mpr (Or.inl rfl)
        refine .busy steps step [] ⟨rfl, ?_, rfl, ?_, ?_⟩ (calls ▸ openCalls_of_idleCalls word)
          (calls ▸ begun)
        · rw [StepAnswer.logged?, called, succeeded]
          rfl
        · have depth : (start.after (steps ++ [step])).depth id = 1 := congrArg Level.depth reached
          rw [depth]
          exact Nat.one_pos
        · exact congrArg Level.isDoomed reached

/-- From an open native transaction a step stays inside it or ends it. -/
theorem Phase.step_of_busy {id : Nat} {start : Tracker} {steps outside inside : List Step}
    {opening : Step} (step : Step) (kept : step.forgets id = false)
    (opened : OpenedBy id start steps outside opening inside)
    (word : nativeCalls id start steps ∈ openCalls)
    (begun : HasOpenTransaction (nativeCalls id start steps)) :
    Phase id start (steps ++ [step]) := by
  have moved := (start.after steps).step_movement step id
  rcases Nat.exists_eq_succ_of_ne_zero (Nat.ne_of_gt opened.nested) with ⟨depth, nested⟩
  rw [Tracker.level_of_depth _ id _ nested, ← Tracker.after_concat] at moved
  rcases moved.of_busy kept with ⟨called, deep, mark⟩ | ⟨called, reached, -⟩
  · have same : nativeCalls id start (steps ++ [step]) = nativeCalls id start steps := by
      rw [nativeCalls_concat_of_callOn called]
      exact List.append_nil _
    refine .busy outside opening (inside ++ [step]) ⟨?_, opened.began, ?_, deep, ?_⟩
      (same ▸ word) (same ▸ begun)
    · rw [opened.parts, List.append_assoc, List.cons_append]
    · rw [← opened.reached] at called
      rw [nativeCalls_concat_of_callOn called, opened.quiet]
      rfl
    · have left := opened.loweringSteps_concat step
      rw [nested] at left
      have marked := opened.mark
      rw [marked] at mark
      rw [left, List.all_append, Bool.not_and]
      refine mark.trans (congrArg _ ?_)
      change (decide ((start.after (steps ++ [step])).depth id < depth + 1) && !step.isCommit) = _
      by_cases lower : (start.after (steps ++ [step])).depth id < depth + 1
      · simp only [lower, decide_true, Bool.true_and, if_true, List.all_cons, List.all_nil,
          Bool.and_true]
      · simp only [lower, decide_false, Bool.false_and, if_false, List.all_nil, Bool.not_true]
  · have calls := nativeCalls_concat_of_callOn called
    have ends : (if (start.after steps).isDoomed id || !step.isCommit then NativeCall.rollback
        else .commit) ≠ .begin := by
      split <;> decide
    refine .idle reached (calls ▸ idleCalls_of_openCalls _ word ends) ?_
    rw [calls]
    intro still
    rcases (hasOpenTransaction_concat _ _).mp still with impossible | ⟨impossible, -⟩
    · exact ends (congrArg LoggedCall.call impossible)
    · exact ends impossible

/-- Every run from an idle connection that does not forget it is in one of the phases. -/
theorem phase_of_run {id : Nat} {start : Tracker} (idle : start.level id = .idle)
    (steps : List Step) (kept : forall step, step ∈ steps -> step.forgets id = false) :
    Phase id start steps := by
  -- The phase after a run is that of the run without its last step, moved by that step.
  induction steps using List.reverseRecOn with
  | nil => exact .idle idle nil_mem_idleCalls not_hasOpenTransaction_nil
  | append_singleton steps step inductionHypothesis =>
      have phase := inductionHypothesis fun other member =>
        kept other (List.mem_append.mpr (Or.inl member))
      cases phase with
      | idle level word ended => exact Phase.step_of_idle step level word ended
      | busy outside opening inside opened word begun =>
          exact Phase.step_of_busy step (kept step (by simp)) opened word begun

/-- A connection is idle at the start of a run and after it was forgotten. -/
theorem level_of_fresh (id : Nat) (earlier : List Step)
    (fresh : earlier = [] ∨ exists before, earlier = before ++ [.forget id]) :
    (Tracker.empty.after earlier).level id = .idle := by
  rcases fresh with rfl | ⟨before, rfl⟩
  · rfl
  · rw [Tracker.after_concat]
    exact (Tracker.level_forget _ id id).trans (if_pos rfl)

/-- A call that ends the native transaction follows the steps that lowered the depth since
it was begun. -/
theorem OpenedBy.call_of_closing {id : Nat} {start : Tracker} {steps outside inside : List Step}
    {opening closing : Step} {call : NativeCall} {ok : Bool}
    (opened : OpenedBy id start steps outside opening inside)
    (logged : ((start.after steps).step closing).1.logged? id = some ⟨call, ok⟩) :
    call = if (loweringSteps id (start.after (outside ++ [opening]))
      (inside ++ [closing])).all Step.isCommit then .commit else .rollback := by
  rcases Option.map_eq_some_iff.mp logged with ⟨made, called, same⟩
  have moved := (start.after steps).step_movement closing id
  rcases Nat.exists_eq_succ_of_ne_zero (Nat.ne_of_gt opened.nested) with ⟨depth, nested⟩
  rw [Tracker.level_of_depth _ id _ nested, ← Tracker.after_concat, called] at moved
  rcases moved.of_busy moved.forgets_of_call with ⟨none, -⟩ | ⟨ends, reached, -⟩
  · cases none
  · have lower : (start.after (steps ++ [closing])).depth id < (start.after steps).depth id := by
      have flat : (start.after (steps ++ [closing])).depth id = 0 := congrArg Level.depth reached
      rw [flat]
      exact opened.nested
    have wish : call = made := (congrArg LoggedCall.call same).symm
    rw [wish, Option.some.inj ends, opened.mark, opened.loweringSteps_concat, if_pos lower,
      List.all_append]
    cases (loweringSteps id (start.after (outside ++ [opening])) inside).all Step.isCommit <;>
      cases committing : closing.isCommit <;> simp [committing]

/-- **Native transactions are flat and end as they must.**  Take any steps from the start, or
from a step that forgot the connection, up to any moment before it is next forgotten. -/
theorem nativeCalls_are_transactions (id : Nat) (earlier segment : List Step)
    (fresh : earlier = [] ∨ exists before, earlier = before ++ [.forget id])
    (kept : forall step, step ∈ segment -> step.forgets id = false) :
    let start := Tracker.empty.after earlier
    nativeCalls id start segment ∈ nativeWords ∧
      (0 < (start.after segment).depth id ↔ HasOpenTransaction (nativeCalls id start segment)) ∧
      forall closing call ok,
        ((start.after segment).step closing).1.logged? id = some ⟨call, ok⟩ -> call ≠ .begin ->
        exists outside opening inside, segment = outside ++ opening :: inside ∧
          ((start.after outside).step opening).1.logged? id = some ⟨.begin, true⟩ ∧
          nativeCalls id (start.after (outside ++ [opening])) inside = [] ∧
          call = if (loweringSteps id (start.after (outside ++ [opening]))
            (inside ++ [closing])).all Step.isCommit then .commit else .rollback := by
  intro start
  have phase : Phase id start segment := phase_of_run (level_of_fresh id earlier fresh) segment kept
  cases phase with
  | idle level word ended =>
      have flat : (start.after segment).depth id = 0 := congrArg Level.depth level
      refine ⟨Or.inl word, ?_, ?_⟩
      · rw [flat]
        exact ⟨fun impossible => absurd impossible (Nat.lt_irrefl 0),
          fun begun => absurd begun ended⟩
      · intro closing call ok logged ends
        rcases Option.map_eq_some_iff.mp logged with ⟨made, called, same⟩
        have moved := (start.after segment).step_movement closing id
        rw [level, called] at moved
        rcases moved.of_idle with ⟨none, -⟩ | ⟨begins, -⟩
        · cases none
        · exact absurd ((congrArg LoggedCall.call same).symm.trans (Option.some.inj begins)) ends
  | busy outside opening inside opened word begun =>
      refine ⟨Or.inr word, ⟨fun _ => begun, fun _ => opened.nested⟩, ?_⟩
      intro closing call ok logged _ends
      exact ⟨outside, opening, inside, opened.parts, opened.began, opened.quiet,
        opened.call_of_closing logged⟩

/-- A connection that was forgotten, a begin that fails, and one that succeeds; a level is
rolled back inside, so that the last commit becomes a native rollback. -/
theorem nativeCalls_of_doomed_transaction :
    let earlier : List Step := [.begin 1 true none, .forget 1]
    let segment : List Step := [.begin 1 true (some (.bare .interrupt)), .begin 1 true none,
      .begin 2 false none, .begin 1 true none, .rollback 1 none]
    let start := Tracker.empty.after earlier
    nativeCalls 1 start segment ∈ nativeWords ∧
      (0 < (start.after segment).depth 1 ↔ HasOpenTransaction (nativeCalls 1 start segment)) ∧
      exists outside opening inside, segment = outside ++ opening :: inside ∧
        ((start.after outside).step opening).1.logged? 1 = some ⟨.begin, true⟩ ∧
        nativeCalls 1 (start.after (outside ++ [opening])) inside = [] ∧
        NativeCall.rollback = if (loweringSteps 1 (start.after (outside ++ [opening]))
          (inside ++ [.commit 1 none])).all Step.isCommit then .commit else .rollback := by
  intro earlier segment start
  have whole := nativeCalls_are_transactions 1 earlier segment
    (Or.inr ⟨[.begin 1 true none], rfl⟩) (by decide)
  have closing := whole.2.2 (.commit 1 none) .rollback true rfl (by decide)
  exact ⟨whole.1, whole.2.1, closing⟩

end Transaction
end SqlGateway
