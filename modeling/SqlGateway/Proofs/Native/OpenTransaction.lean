import SqlGateway.Proofs.Native.LateCommit

namespace SqlGateway

/-!
# What Firebird is told inside and outside of transactions

The library counts how deep its transactions are nested; a native transaction of Firebird is
open while the count is positive.  Inside of it a connection is only told to run statements and
to prepare them.  The count returns to zero by exactly one attempt to end the native transaction,
or by an attempt to close the connection.

Outside of transactions every statement that succeeds is followed by one commit that retains the
native transaction.  A begin that succeeds is told last, after a commit of the native transaction
that was active.
-/

namespace Native

/-! ## Laws for what is told to a connection -/

/-- Whether an event begins or ends a native transaction, or tries to. -/
def Event.isBoundary (event : Event) : Bool :=
  match event.call with
  | .begin _ | .commit _ _ | .rollback _ | .close _ => true
  | _ => false

/-- Every statement that succeeds is followed by one retaining commit, and by nothing else. -/
def Retained (connection : Connection) (added : List Event) : Prop :=
  forall early event late, added = early ++ event :: late -> event.isExecution = true ->
    exists failure, late = [⟨.commit connection true, failure⟩]

/-- What may be told to a connection while the depth of its transactions goes from one number to
another. -/
inductive Told (connection : Connection) : Nat → List Event → Nat → Prop where
  /-- Inside of a transaction none is begun or ended. -/
  | inside {depth left : Nat} {added : List Event}
      (quiet : forall event, event ∈ added -> event.isBoundary = false) :
      Told connection (depth + 1) added (left + 1)
  /-- The transaction is left by one attempt to end it. -/
  | ends {depth : Nat} {event : Event}
      (ending : event.call = .commit connection false ∨ event.call = .rollback connection ∨
        event.call = .close connection) : Told connection (depth + 1) [event] 0
  /-- A transaction is entered by a begin that succeeds, perhaps after a commit of what was active
  outside of transactions. -/
  | begins {early : List Event}
      (renewed : early = [] ∨ early = [⟨.commit connection false, none⟩]) :
      Told connection 0 (early ++ [⟨.begin connection, none⟩]) 1
  /-- Outside of transactions no begin succeeds, and statements are committed at once. -/
  | outside {added : List Event} (unbegun : ⟨.begin connection, none⟩ ∉ added)
      (retained : Retained connection added) : Told connection 0 added 0

theorem retained_of_none {connection : Connection} {added : List Event}
    (unexecuted : forall event, event ∈ added -> event.isExecution = false) :
    Retained connection added := by
  intro early event late split executed
  have absent := unexecuted event (split ▸ List.mem_append_right _ List.mem_cons_self)
  cases absent.symm.trans executed

/-- What neither runs a statement nor begins or ends a transaction may be told at any depth. -/
theorem told_of_quiet {connection : Connection} {added : List Event} {depth left : Nat}
    (same : left = 0 <-> depth = 0)
    (quiet : forall event, event ∈ added -> event.isBoundary = false)
    (unexecuted : forall event, event ∈ added -> event.isExecution = false) :
    Told connection depth added left := by
  cases depth with
  | zero =>
      rw [same.mpr rfl]
      refine .outside (fun begun => ?_) (retained_of_none unexecuted)
      cases quiet _ begun
  | succ depth =>
      cases left with
      | zero => cases same.mp rfl
      | succ left => exact .inside quiet

/-- What is told from inside of a transaction to inside of it begins and ends none. -/
theorem Told.quiet {connection : Connection} {added : List Event} {depth left : Nat}
    (told : Told connection depth added left) (entered : 0 < depth) (stays : 0 < left) :
    forall event, event ∈ added -> event.isBoundary = false := by
  cases told with
  | inside quiet => exact quiet
  | ends ending => cases stays
  | begins renewed => cases entered
  | outside unbegun retained => cases entered

theorem told_nothing (connection : Connection) {depth left : Nat} (same : left = 0 <-> depth = 0) :
    Told connection depth [] left :=
  told_of_quiet same nofun nofun

/-! ## The record of one connection -/

/-- What is added to the record of a connection has a property if all that is added has it. -/
theorem record_of_adds {allowed : Event → Prop} {before after : Driver}
    (adds : before.Adds allowed after) (connection : Connection) :
    exists added, after.recordOf connection = before.recordOf connection ++ added ∧
      forall event, event ∈ added -> allowed event := by
  rcases adds with ⟨added, same, all⟩
  refine ⟨added.filter fun event => event.call.connection? = some connection, ?_, ?_⟩
  · unfold Driver.recordOf
    rw [same, List.filter_append]
  · intro event member
    exact all event (List.mem_filter.mp member).1

end Native

namespace Adapter

open Native (Connection Driver Event Told)

variable {connection : Connection} {driver : Driver}

/-! ## What the calls of Firebird tell -/

/-- Between two drivers a connection was told what its depths allow. -/
def TellsBetween (connection : Connection) (depth left : Nat) (before after : Driver) : Prop :=
  exists added, after.recordOf connection = before.recordOf connection ++ added ∧
    Told connection depth added left

theorem firebird_prepares_quietly (sql : String) {depth left : Nat}
    (same : left = 0 <-> depth = 0) :
    TellsBetween connection depth left driver
      ((Adapter.firebird.prepareNatively connection sql).after driver) := by
  have closes (cursor : Native.Cursor) : (Native.closeCursor cursor).Respects
      (Driver.Adds fun event => event.isBoundary = false ∧ event.isExecution = false) :=
    Native.closeCursor_adds fun _ => ⟨rfl, rfl⟩
  have frees (cursor : Native.Cursor) : (Native.freePrepared cursor).Respects
      (Driver.Adds fun event => event.isBoundary = false ∧ event.isExecution = false) :=
    Native.callAt_adds _ fun _ => ⟨rfl, rfl⟩
  have prepares : (Adapter.firebird.prepareNatively connection sql).Respects
      (Driver.Adds fun event => event.isBoundary = false ∧ event.isExecution = false) :=
    .bind (Native.openCursor_adds fun _ => ⟨rfl, rfl⟩) fun cursor =>
      .thenAlways
        (.bind (Native.callAt_adds _ fun _ => ⟨rfl, rfl⟩) fun _ => frees cursor)
        (closes cursor)
  rcases Native.record_of_adds (prepares driver) connection with ⟨added, record, quiet⟩
  exact ⟨added, record, Native.told_of_quiet same (fun event member => (quiet event member).1)
    fun event member => (quiet event member).2⟩

/-- The end of a transaction, or of the connection, is told once. -/
theorem firebird_ending_told {call : Transaction.NativeCall} (ends : call ≠ .begin) (depth : Nat) :
    TellsBetween connection (depth + 1) 0 driver
      ((Adapter.firebird.transact connection call).after driver) := by
  cases call with
  | begin => exact absurd rfl ends
  | commit =>
      rcases Native.commit_switches connection driver with ⟨failure, -, record, -⟩
      exact ⟨_, record, .ends (Or.inl rfl)⟩
  | rollback =>
      rcases Native.rollback_switches connection driver with ⟨failure, -, record, -⟩
      exact ⟨_, record, .ends (Or.inr (Or.inl rfl))⟩

theorem close_told (connection : Connection) (driver : Driver) (depth : Nat) :
    TellsBetween connection depth 0 driver ((Native.close connection).after driver) := by
  rcases Native.callAt_record .close (.close connection) rfl driver with
    ⟨failure, left, run, record, -⟩
  have reached : (Native.close connection).after driver = left := Operation.after_of_run run
  rw [reached]
  refine ⟨_, record, ?_⟩
  cases depth with
  | zero =>
      refine .outside (by simp) (Native.retained_of_none fun event member => ?_)
      rw [List.mem_singleton.mp member]
      rfl
  | succ depth => exact .ends (Or.inr (Or.inr rfl))

/-- A begin at the end is followed by nothing, and enters a transaction if it succeeds. -/
theorem told_of_begin {early : List Event}
    (renewed : early = [] ∨ early = [⟨.commit connection false, none⟩]) (failure : Option Fault) :
    Told connection 0 (early ++ [⟨.begin connection, failure⟩])
      (if failure.isNone then 1 else 0) := by
  cases failure with
  | none => exact .begins renewed
  | some fault =>
      rcases renewed with rfl | rfl <;>
        exact .outside (by simp) (Native.retained_of_none (by simp [Event.isExecution]))

/-- A begin outside of transactions enters one if it succeeds, and is told last. -/
theorem firebird_begin_told (connection : Connection) (driver : Driver) :
    TellsBetween connection 0
      (if ((Adapter.firebird.transact connection .begin).outcome driver).isOk then 1 else 0) driver
      ((Adapter.firebird.transact connection .begin).after driver) := by
  have succeeds (failure : Option Fault) :
      (failure.elim (Except.ok ()) Except.error : Except Fault Unit).isOk = failure.isNone := by
    cases failure <;> rfl
  cases known : driver.isActive connection with
  | false =>
      have run := firebird_begin_of_inactive known
      rcases Native.begin_switches connection driver with ⟨failure, outcome, record, -⟩
      rw [Operation.after_congr run, Operation.outcome_congr run, outcome, succeeds]
      exact ⟨_, record, told_of_begin (Or.inl rfl) failure⟩
  | true =>
      have run := firebird_begin_of_active known
      rcases Native.commit_switches connection driver with ⟨failure, outcome, record, -⟩
      rw [Operation.after_congr run, Operation.outcome_congr run, Operation.after_bind,
        Operation.outcome_bind, outcome]
      cases failure with
      | some fault =>
          refine ⟨_, record, .outside (by simp) (Native.retained_of_none ?_)⟩
          simp [Event.isExecution]
      | none =>
          rcases Native.begin_switches connection ((Native.commit connection false).after driver)
            with ⟨later, laterOutcome, laterRecord, -⟩
          have begun : TellsBetween connection 0 (if later.isNone then 1 else 0) driver
              ((Native.begin connection).after
                ((Native.commit connection false).after driver)) := by
            refine ⟨[⟨.commit connection false, none⟩] ++ [⟨.begin connection, later⟩], ?_,
              told_of_begin (Or.inr rfl) later⟩
            rw [laterRecord, record, List.append_assoc]
          simpa only [Option.elim_none, laterOutcome, succeeds] using begun

/-- After a statement that succeeded nothing is told inside of a transaction, and one retaining
commit outside. -/
theorem firebird_afterExecute_told (active : driver.isActive connection = true) :
    ((Adapter.firebird.afterExecute connection true).after driver).recordOf connection =
        driver.recordOf connection ∧
      exists failure,
        ((Adapter.firebird.afterExecute connection false).after driver).recordOf connection =
          driver.recordOf connection ++ [⟨.commit connection true, failure⟩] := by
  have holds : Adapter.firebird = .firebird ∧ false = false ∧
      driver.isActive connection = true :=
    ⟨rfl, rfl, active⟩
  have run : Adapter.firebird.afterExecute connection false driver =
      Native.commit connection true driver := by
    change (if Adapter.firebird = .firebird ∧ false = false ∧
      driver.isActive connection = true then _ else _ : Operation Native.Driver Unit) driver = _
    rw [if_pos holds]
  rcases Native.commit_retaining_record driver with ⟨failure, record, -⟩
  rw [← Operation.after_congr run] at record
  exact ⟨rfl, failure, record⟩

/-- A statement that succeeded outside of transactions is followed by its commit. -/
theorem retained_execution (connection : Connection) (cursor : Nat) (sql : String)
    (parameters : Option (List Value)) (failure : Option Fault) :
    Native.Retained connection [⟨.execute connection cursor sql parameters, none⟩,
      ⟨.commit connection true, failure⟩] := by
  intro early event late split executed
  cases early with
  | nil =>
      cases split
      exact ⟨failure, rfl⟩
  | cons first early =>
      have member : event ∈ [(⟨.commit connection true, failure⟩ : Event)] := by
        rw [(List.cons.inj split).2]
        exact List.mem_append_right _ List.mem_cons_self
      rw [List.mem_singleton.mp member] at executed
      cases executed

end Adapter
end SqlGateway
