import Mathlib.Data.List.Induction
import SqlGateway.Proofs.Native.Trace

namespace SqlGateway

/-!
# Commits after a rollback was asked for

A native rollback may fail, and then the native transaction is still active although it was
asked to roll back.  A commit that is made while this is so is late.  Both are read off the
record of one connection: which events there are, in which order, and which of them failed.

A Firebird connection always works in a native transaction.  A begin first commits the one
that is active, and so does the end of a statement outside of transactions of the library.
Both look at the driver only, not at what became of the last transaction.  What they
add to the record, and whether it is late, is stated for each of the calls.
-/

namespace Native

/-! ## What was asked for -/

/-- Whether the native transaction is active although it was asked to roll back, after an
event on its connection. -/
def Event.leavesAsked (asked : Bool) (event : Event) : Bool :=
  match event.call with
  | .rollback _ => event.failure.isSome
  | .commit _ false => asked && event.failure.isSome
  | _ => asked

/-- Whether the native transaction is active although it was asked to roll back, after events
on its connection. -/
def isAsked (asked : Bool) (events : List Event) : Bool := events.foldl Event.leavesAsked asked

/-- Whether the native transaction of a connection is active although it was asked to roll
back. -/
def Driver.isAsked (driver : Driver) (connection : Connection) : Bool :=
  Native.isAsked false (driver.recordOf connection)

/-- Whether an event is a commit, even one that fails. -/
def Event.isCommit (event : Event) : Bool :=
  match event.call with
  | .commit _ _ => true
  | _ => false

/-- Whether an event is a statement that succeeded. -/
def Event.isExecution (event : Event) : Bool :=
  match event.call with
  | .execute _ _ _ _ => event.failure.isNone
  | _ => false

/-- The commits of a native transaction that was asked to roll back. -/
def lateCommits : Bool → List Event → List Event
  | _, [] => []
  | asked, event :: rest =>
    let later := lateCommits (event.leavesAsked asked) rest
    if asked && event.isCommit then event :: later else later

theorem isAsked_append (asked : Bool) (events added : List Event) :
    isAsked asked (events ++ added) = isAsked (isAsked asked events) added :=
  List.foldl_append

theorem isAsked_of_record {connection : Connection} {before after : Driver} {added : List Event}
    (record : after.recordOf connection = before.recordOf connection ++ added) :
    after.isAsked connection = isAsked (before.isAsked connection) added := by
  unfold Driver.isAsked
  rw [record, isAsked_append]

/-- Only a rollback that failed leaves a transaction that was asked to roll back. -/
theorem exists_rollback_of_isAsked {events : List Event} (asked : isAsked false events = true) :
    exists connection fault, ⟨.rollback connection, some fault⟩ ∈ events := by
  induction events using List.reverseRecOn with
  | nil => cases asked
  | append_singleton events event inductionHypothesis =>
      rw [isAsked_append] at asked
      change event.leavesAsked (isAsked false events) = true at asked
      rcases event with ⟨call, failure⟩
      have earlier (before : isAsked false events = true) :
          exists connection fault,
            ⟨.rollback connection, some fault⟩ ∈ events ++ [⟨call, failure⟩] := by
        rcases inductionHypothesis before with ⟨connection, fault, member⟩
        exact ⟨connection, fault, List.mem_append_left _ member⟩
      unfold Event.leavesAsked at asked
      split at asked
      · rename_i connection rolledBack
        rcases Option.isSome_iff_exists.mp asked with ⟨fault, failed⟩
        cases rolledBack
        cases failed
        exact ⟨connection, fault, List.mem_append_right _ List.mem_cons_self⟩
      · exact earlier (Bool.and_eq_true_iff.mp asked).1
      · exact earlier asked

/-! ## Calls on the connection -/

section Calls

variable {connection : Connection}

theorem isActive_setActive (driver : Driver) (isNow : Bool) :
    (driver.setActive connection isNow).isActive connection = isNow := by
  unfold Driver.isActive Driver.setActive
  cases isNow <;> simp

/-- A call on a connection is recorded, with its failure, and does not change by itself whether
the native transaction is active. -/
theorem callAt_record (point : FailPoint) (call : Call)
    (on : call.connection? = some connection) (driver : Driver) :
    exists failure left,
      callAt point call driver = Operation.result (failure.elim (.ok ()) .error) left ∧
      left.recordOf connection = driver.recordOf connection ++ [⟨call, failure⟩] ∧
      left.isActive connection = driver.isActive connection := by
  have record (failure : Option Fault) : ((driver.nextFailure point).2.record call failure).recordOf
      connection = driver.recordOf connection ++ [⟨call, failure⟩] :=
    recordOf_of_event on (congrArg (· ++ _) (events_nextFailure driver point))
  have active (failure : Option Fault) : ((driver.nextFailure point).2.record call
      failure).isActive connection = driver.isActive connection := by
    unfold Driver.nextFailure
    split <;> rfl
  exact ⟨(driver.nextFailure point).1, _, callAt_run point call driver, record _, active _⟩

/-- An operation is one call on a connection, and if it succeeds the native transaction is
active or not. -/
def Switches (connection : Connection) (call : Call) (isNow : Bool)
    (operation : Operation Driver Unit) : Prop :=
  forall driver, exists failure,
    operation.outcome driver = failure.elim (.ok ()) .error ∧
    (operation.after driver).recordOf connection =
      driver.recordOf connection ++ [⟨call, failure⟩] ∧
    (operation.after driver).isActive connection =
      if failure.isNone then isNow else driver.isActive connection

theorem callThenSet_switches (point : FailPoint) {call : Call}
    (on : call.connection? = some connection) (isNow : Bool) :
    Switches connection call isNow (do callAt point call; setActive connection isNow) := by
  intro driver
  rcases callAt_record point call on driver with ⟨failure, left, run, record, active⟩
  refine ⟨failure, ?_⟩
  rw [Operation.outcome_bind, Operation.after_bind, Operation.outcome_of_run run,
    Operation.after_of_run run]
  cases failure with
  | some fault => exact ⟨rfl, record, active⟩
  | none => exact ⟨rfl, record, isActive_setActive left isNow⟩

theorem begin_switches (connection : Connection) :
    Switches connection (.begin connection) true (begin connection) :=
  callThenSet_switches .begin rfl true

theorem commit_switches (connection : Connection) :
    Switches connection (.commit connection false) false (commit connection false) :=
  callThenSet_switches .commit rfl false

theorem rollback_switches (connection : Connection) :
    Switches connection (.rollback connection) false (rollback connection) :=
  callThenSet_switches .rollback rfl false

/-- A commit that retains the native transaction does not change whether it is active. -/
theorem commit_retaining_record (driver : Driver) :
    exists failure,
      ((commit connection true).after driver).recordOf connection =
        driver.recordOf connection ++ [⟨.commit connection true, failure⟩] ∧
      ((commit connection true).after driver).isActive connection =
        driver.isActive connection := by
  obtain ⟨failure, left, run, record, active⟩ :=
    callAt_record .commit (.commit connection true) rfl driver
  have same : (commit connection true).after driver = left := by
    unfold commit
    rw [Operation.after_bind, Operation.outcome_of_run run, Operation.after_of_run run]
    cases failure <;> rfl
  rw [same]
  exact ⟨failure, record, active⟩

end Calls

end Native

/-! ## Native transactions of Firebird -/

namespace Adapter

open Native (isAsked lateCommits)

variable {connection : Native.Connection} {driver : Native.Driver}

theorem firebird_begin_of_inactive (inactive : driver.isActive connection = false) :
    Adapter.firebird.transact connection .begin driver = Native.begin connection driver := by
  change (if driver.isActive connection then _ else _ : Operation Native.Driver Unit) driver = _
  rw [inactive]
  rfl

theorem firebird_begin_of_active (active : driver.isActive connection = true) :
    Adapter.firebird.transact connection .begin driver =
      (do Native.commit connection false; Native.begin connection) driver := by
  change (if driver.isActive connection then _ else _ : Operation Native.Driver Unit) driver = _
  rw [active]
  rfl

/-- An operation commits late exactly if the native transaction was asked to roll back.  If it
succeeds there is a new native transaction, and else the old one is still to roll back, or
none is. -/
def Begins (asked : Bool) (connection : Native.Connection) (operation : Operation Native.Driver Unit)
    (driver : Native.Driver) : Prop :=
  exists added,
    (operation.after driver).recordOf connection = driver.recordOf connection ++ added ∧
    (lateCommits asked added ≠ [] <-> asked = true) ∧
    (if (operation.outcome driver).isOk then
      isAsked asked added = false ∧ (operation.after driver).isActive connection = true
    else
      isAsked asked added = true -> (operation.after driver).isActive connection = true)

theorem begin_begins (connection : Native.Connection) (driver : Native.Driver) :
    Begins false connection (Native.begin connection) driver := by
  rcases Native.begin_switches connection driver with ⟨failure, outcome, record, isActive⟩
  unfold Begins
  rw [outcome]
  refine ⟨_, record, by simp [lateCommits], ?_⟩
  cases failure with
  | none => exact ⟨rfl, isActive⟩
  | some fault => exact nofun

theorem commitThenBegin_begins (asked : Bool) (active : driver.isActive connection = true) :
    Begins asked connection
      (do Native.commit connection false; Native.begin connection) driver := by
  rcases Native.commit_switches connection driver with ⟨failure, outcome, record, isActive⟩
  unfold Begins
  rw [Operation.after_bind, Operation.outcome_bind, outcome]
  cases failure with
  | some fault =>
      refine ⟨_, record, ?_, fun _ => isActive.trans active⟩
      cases asked <;> simp [lateCommits, Native.Event.isCommit]
  | none =>
      obtain ⟨later, laterOutcome, laterRecord, laterActive⟩ :=
        Native.begin_switches connection ((Native.commit connection false).after driver)
      have settled : isAsked asked
          [⟨.commit connection false, none⟩, ⟨.begin connection, later⟩] = false := by
        simp [isAsked, Native.Event.leavesAsked]
      simp only [Option.elim_none]
      refine ⟨[⟨.commit connection false, none⟩, ⟨.begin connection, later⟩], ?_, ?_, ?_⟩
      · rw [laterRecord, record, List.append_assoc]
        rfl
      · cases asked <;> simp [lateCommits, Native.Event.isCommit]
      · rw [laterOutcome, settled]
        cases later with
        | none => exact ⟨rfl, laterActive⟩
        | some fault => exact nofun

/-- A begin first commits the native transaction that is active, which is the one that was
asked to roll back if any was. -/
theorem firebird_begins {asked : Bool}
    (active : asked = true -> driver.isActive connection = true) :
    Begins asked connection (Adapter.firebird.transact connection .begin) driver := by
  unfold Begins
  cases known : driver.isActive connection with
  | true =>
      have run := firebird_begin_of_active known
      rw [Operation.after_congr run, Operation.outcome_congr run]
      exact commitThenBegin_begins asked known
  | false =>
      have run := firebird_begin_of_inactive known
      have unasked : asked = false :=
        Bool.eq_false_iff.mpr fun asks => Bool.noConfusion (known.symm.trans (active asks))
      rw [Operation.after_congr run, Operation.outcome_congr run, unasked]
      exact begin_begins connection driver

/-- The end of a native transaction that was not asked to roll back commits nothing late. -/
theorem firebird_ending_record {call : Transaction.NativeCall} (ends : call ≠ .begin)
    (active : driver.isActive connection = true) :
    let left := (Adapter.firebird.transact connection call).after driver
    exists added, left.recordOf connection = driver.recordOf connection ++ added ∧
      lateCommits false added = [] ∧
      (isAsked false added = true -> left.isActive connection = true) := by
  cases call with
  | begin => exact absurd rfl ends
  | commit =>
      rcases Native.commit_switches connection driver with ⟨failure, -, record, -⟩
      exact ⟨_, record, rfl, nofun⟩
  | rollback =>
      obtain ⟨failure, -, record, isActive⟩ :=
        Native.rollback_switches connection driver
      refine ⟨_, record, rfl, fun failed => isActive.trans ?_⟩
      cases failure with
      | none => cases failed
      | some fault => exact active

/-- The end of a statement outside of transactions is a commit that retains the native one. -/
theorem firebird_afterExecute_record (inTransaction : Bool)
    (active : driver.isActive connection = true) :
    let left := (Adapter.firebird.afterExecute connection inTransaction).after driver
    left.isActive connection = true ∧
    exists added, left.recordOf connection = driver.recordOf connection ++ added ∧
      forall asked, isAsked asked added = asked ∧
        (lateCommits asked added ≠ [] <-> asked = true ∧ inTransaction = false) := by
  cases inTransaction with
  | true =>
      have same : (Adapter.firebird.afterExecute connection true).after driver = driver := rfl
      simp only [same]
      exact ⟨active, [], (List.append_nil _).symm, fun asked => ⟨rfl, by simp [lateCommits]⟩⟩
  | false =>
      have holds : Adapter.firebird = .firebird ∧ false = false ∧
          driver.isActive connection = true :=
        ⟨rfl, rfl, active⟩
      have run : Adapter.firebird.afterExecute connection false driver =
          Native.commit connection true driver := by
        change (if Adapter.firebird = .firebird ∧ false = false ∧
          driver.isActive connection = true then _ else _ : Operation Native.Driver Unit)
            driver = _
        rw [if_pos holds]
      rcases Native.commit_retaining_record driver with ⟨failure, record, isActive⟩
      rw [← Operation.after_congr run] at record isActive
      refine ⟨isActive.trans active, _, record, fun asked => ⟨rfl, ?_⟩⟩
      cases asked <;> simp [lateCommits, Native.Event.isCommit]

end Adapter
end SqlGateway
