import SqlGateway.Proofs.Native.LateCommit
import SqlGateway.Proofs.Native.Progress

namespace SqlGateway

/-!
# Whether a connection commits by itself

A driver can commit after each statement by itself.  Whether it does so on a connection is asked
for when the connection is opened and can be switched later.  Both are on the record: the keywords
of the opening, and the switches that succeeded since.

Adapters that switch do so when a transaction begins and switch back when it ends.  They
switch back even if the end of the transaction fails, so the mode afterwards depends on the
switches alone.
-/

namespace Native

/-! ## The mode of a connection -/

/-- Whether a connection is asked to commit by itself when it is opened. -/
def asksToCommit (keywords : List (String × Value)) : Bool :=
  keywords.any fun
    | ("autocommit", .bool true) => true
    | _ => false

/-- The mode after an event: what it switches to, if it switches and does not fail. -/
def Event.switch (on : Bool) (event : Event) : Bool :=
  match event.call, event.failure with
  | .setAutocommit _ mode, none => mode
  | _, _ => on

/-- The mode that a connection was opened in. -/
def Driver.opensCommitting (driver : Driver) : Connection → Bool
  | .opened (number + 1) => (driver.openings[number]?).any asksToCommit
  | _ => false

/-- Whether a connection commits after each statement. -/
def Driver.autocommits (driver : Driver) (connection : Connection) : Bool :=
  (driver.recordOf connection).foldl Event.switch (driver.opensCommitting connection)

/-- The script lets every switch succeed. -/
def Driver.SwitchesFreely (driver : Driver) : Prop :=
  forall failure, failure ∈ driver.failuresAt .setAutocommit -> failure = none

theorem Driver.SwitchesFreely.onward {before after : Driver} (free : before.SwitchesFreely)
    (onward : before.Onward after) : after.SwitchesFreely :=
  fun failure member => free failure ((onward.failures .setAutocommit).mem member)

/-- An event that opens no connection and switches none. -/
def Event.isModeless (event : Event) : Prop :=
  event.opening? = none ∧ forall on, event.switch on = on

section Modes

variable {connection : Connection} {before after : Driver}

theorem autocommits_of_adds (adds : before.Adds Event.isModeless after) :
    after.autocommits connection = before.autocommits connection := by
  rcases adds with ⟨added, same, modeless⟩
  have openings : after.openings = before.openings := by
    have opensNone : added.filterMap Event.opening? = [] :=
      List.filterMap_eq_nil_iff.mpr fun event member => (modeless event member).1
    unfold Driver.openings
    rw [same, List.filterMap_append, opensNone, List.append_nil]
  have keeps (on : Bool) (events : List Event)
      (within : forall event, event ∈ events -> event.isModeless) :
      events.foldl Event.switch on = on := by
    induction events with
    | nil => rfl
    | cons event events inductionHypothesis =>
        rw [List.foldl_cons, (within event List.mem_cons_self).2]
        exact inductionHypothesis fun other member => within other (List.mem_cons_of_mem _ member)
  have opened : after.opensCommitting connection = before.opensCommitting connection := by
    unfold Driver.opensCommitting
    rw [openings]
  unfold Driver.autocommits
  rw [opened]
  unfold Driver.recordOf
  rw [same, List.filter_append, List.foldl_append]
  exact keeps _ _ fun event member => modeless event (List.mem_filter.mp member).1

/-- A connection that was known keeps its mode while nothing is recorded for it. -/
theorem autocommits_of_record (known : before.Knows connection) (numbered : before.Numbered)
    (onward : before.Onward after)
    (record : after.recordOf connection = before.recordOf connection) :
    after.autocommits connection = before.autocommits connection := by
  have opened : after.opensCommitting connection = before.opensCommitting connection := by
    unfold Driver.opensCommitting
    split
    · rename_i number
      have earlier : number < before.openings.length := by
        rw [numbered.openings]
        exact known (number + 1) rfl
      rcases onward.openings with ⟨later, same⟩
      rw [← same, List.getElem?_append_left earlier]
    · rfl
  unfold Driver.autocommits
  rw [opened, record]

/-- A switch that succeeds sets the mode. -/
theorem autocommits_of_switch {on : Bool} {left : Driver}
    (switched : setAutocommit connection on before = .ok () left) :
    left.autocommits connection = on := by
  rcases callAt_record .setAutocommit (.setAutocommit connection on) rfl before with
    ⟨failure, reached, run, record, -⟩
  have same : Operation.result (failure.elim (.ok ()) .error) reached = .ok () left :=
    run.symm.trans switched
  cases failure with
  | some fault => cases same
  | none =>
      cases same
      unfold Driver.autocommits
      rw [record, List.foldl_append]
      rfl

theorem setAutocommit_of_free (free : before.SwitchesFreely) (connection : Connection)
    (on : Bool) :
    exists left, setAutocommit connection on before = .ok () left := by
  have succeeds : (before.nextFailure .setAutocommit).1 = none := by
    rw [nextFailure_eq]
    cases failures : before.failuresAt .setAutocommit with
    | nil => rfl
    | cons failure rest =>
        rw [free failure (failures ▸ List.mem_cons_self)]
        rfl
  refine ⟨(before.nextFailure .setAutocommit).2.record (.setAutocommit connection on) none, ?_⟩
  have called : setAutocommit connection on before =
      finish (.setAutocommit connection on) (before.nextFailure .setAutocommit).1
        (before.nextFailure .setAutocommit).2 :=
    rfl
  rw [called, succeeds]
  rfl

end Modes

end Native

/-- What is put under other keys leaves what there is under a key. -/
theorem Dictionary.get?_foldl_put {α β : Type} [DecidableEq α] {key : α} (pairs : List (α × β))
    (others : forall pair, pair ∈ pairs -> key ≠ pair.1) (table : Dictionary α β) :
    (pairs.foldl (fun table pair => table.put pair.1 pair.2) table).get? key = table.get? key := by
  induction pairs generalizing table with
  | nil => rfl
  | cons pair pairs inductionHypothesis =>
      rw [List.foldl_cons, inductionHypothesis fun other member =>
        others other (List.mem_cons_of_mem _ member), get?_put,
        if_neg (others pair List.mem_cons_self)]

namespace Adapter

open Native (Connection Driver Event)

/-! ## Adapters that switch the mode -/

/-- Whether an adapter begins a transaction by switching the mode. -/
def switches : Adapter → Bool
  | .odbc | .oracle => true
  | _ => false

section Modeless

variable {connection : Connection}

theorem execute_modeless (sql : String) (parameters : List Value) :
    (Adapter.execute connection sql parameters).Respects (Driver.Adds Event.isModeless) :=
  .bind (Native.openCursor_adds fun _ => ⟨rfl, fun _ => rfl⟩) fun _ =>
    Native.execute_adds fun _ => ⟨rfl, fun _ => rfl⟩

theorem afterExecute_modeless (adapter : Adapter) (inTransaction : Bool) :
    (adapter.afterExecute connection inTransaction).Respects (Driver.Adds Event.isModeless) := by
  refine .bind .get fun driver => ?_
  split
  · exact Native.commit_adds fun _ => ⟨rfl, fun _ => rfl⟩
  · exact .pure ()

theorem prepareNatively_modeless (adapter : Adapter) (sql : String) :
    (adapter.prepareNatively connection sql).Respects (Driver.Adds Event.isModeless) := by
  have closes (cursor : Native.Cursor) :
      (Native.closeCursor cursor).Respects (Driver.Adds Event.isModeless) :=
    Native.closeCursor_adds fun _ => ⟨rfl, fun _ => rfl⟩
  cases adapter with
  | firebird =>
      have calls (point : Native.FailPoint) {call : Native.Call}
          (modeless : forall failure, Event.isModeless ⟨call, failure⟩) :
          (Native.callAt point call).Respects (Driver.Adds Event.isModeless) :=
        Native.callAt_adds point modeless
      exact .bind (Native.openCursor_adds fun _ => ⟨rfl, fun _ => rfl⟩) fun cursor =>
        .thenAlways
          (.bind (calls _ fun _ => ⟨rfl, fun _ => rfl⟩) fun _ =>
            calls _ fun _ => ⟨rfl, fun _ => rfl⟩)
          (closes cursor)
  | oracle =>
      exact .bind (Native.openCursor_adds fun _ => ⟨rfl, fun _ => rfl⟩) fun cursor =>
        .thenAlways (Native.callAt_adds _ fun _ => ⟨rfl, fun _ => rfl⟩) (closes cursor)
  | mssql | mysql | odbc | postgres | sqlite => exact .throw _

end Modeless

/-- The options of an ODBC connection cannot take back that it is to commit by itself. -/
theorem odbc_asksToCommit {missing : List String} {params : ConnectionParams}
    {options : List (String × Value)} {arguments : ConnectArguments}
    (given : Adapter.odbc.connectArguments missing params options = .ok arguments) :
    Native.asksToCommit arguments.sorted = true := by
  have keywords : arguments.keywords = .ofList (("autocommit", .bool true) ::
      options.filter fun option => option.1 == "timeout") := by
    unfold connectArguments at given
    cases written : ConnectionText.ofParams params options with
    | error fault =>
        rw [written] at given
        cases given
    | ok text =>
        rw [written] at given
        cases given
        rfl
  have others : forall option, option ∈ options.filter (fun option => option.1 == "timeout") ->
      "autocommit" ≠ option.1 := by
    intro option member same
    have timeout := (List.mem_filter.mp member).2
    rw [← same] at timeout
    exact absurd timeout (by decide)
  have found : arguments.keywords.get? "autocommit" = some (.bool true) := by
    rw [keywords]
    exact (Dictionary.get?_foldl_put _ others _).trans rfl
  rcases List.lookup_eq_some_iff.mp found with ⟨before, after, split, -⟩
  have member : ("autocommit", .bool true) ∈ arguments.sorted := by
    unfold ConnectArguments.sorted
    rw [List.mem_mergeSort, split]
    exact List.mem_append_right _ List.mem_cons_self
  exact List.any_eq_true.mpr ⟨_, member, rfl⟩

section Switching

variable {adapter : Adapter} (switching : adapter.switches = true) {connection : Connection}
  {driver : Driver}
include switching

/-- A begin switches the mode off. -/
theorem transact_begin_switches (free : driver.SwitchesFreely) :
    exists left, adapter.transact connection .begin driver = .ok () left ∧
      left.autocommits connection = false := by
  have same : adapter.transact connection .begin = Native.setAutocommit connection false := by
    cases adapter <;> first | rfl | cases switching
  rcases Native.setAutocommit_of_free free connection false with ⟨left, switched⟩
  rw [same]
  exact ⟨left, switched, Native.autocommits_of_switch switched⟩

/-- The end of a transaction switches the mode on, whether it succeeds or not. -/
theorem transact_ending_switches (free : driver.SwitchesFreely) {call : Transaction.NativeCall}
    (ends : call ≠ .begin) :
    ((adapter.transact connection call).after driver).autocommits connection = true := by
  have switchesBack {ending : Operation Driver Unit} (onward : ending.Respects Driver.Onward) :
      ((ending.thenAlways (Native.setAutocommit connection true)).after driver).autocommits
        connection = true := by
    rw [Operation.after_thenAlways]
    rcases Native.setAutocommit_of_free (free.onward (onward driver)) connection true with
      ⟨left, switched⟩
    rw [Operation.after_of_ok switched]
    exact Native.autocommits_of_switch switched
  cases call with
  | begin => exact absurd rfl ends
  | commit =>
      have same : adapter.transact connection .commit =
          (Native.commit connection false).thenAlways (Native.setAutocommit connection true) := by
        cases adapter <;> first | rfl | cases switching
      rw [same]
      exact switchesBack (Native.commit_onward connection false)
  | rollback =>
      have same : adapter.transact connection .rollback =
          (Native.rollback connection).thenAlways (Native.setAutocommit connection true) := by
        cases adapter <;> first | rfl | cases switching
      rw [same]
      exact switchesBack (Native.rollback_onward connection)

/-- A connection that was just opened commits by itself. -/
theorem openConnection_switches {params : ConnectionParams} {options : List (String × Value)}
    (numbered : driver.Numbered) {left : Driver}
    (answered : adapter.openConnection params options driver = .ok connection left) :
    left.autocommits connection = true := by
  rcases openConnection_ok answered with
    ⟨rfl, arguments, opened, given, openings, record, prepared⟩
  cases adapter with
  | oracle =>
      rcases Operation.ok_of_bind (Operation.outcome_of_ok prepared) with ⟨_, switched, on, rest⟩
      have same := Operation.bind_of_ok on fun _ =>
        (pure (.opened (driver.connections + 1)) : Operation Driver Connection)
      cases prepared.symm.trans same
      exact Native.autocommits_of_switch on
  | odbc =>
      cases prepared
      have silent : left.recordOf (.opened (driver.connections + 1)) = [] := by
        rw [record]
        exact numbered.unopened _ (Nat.lt_succ_self _)
      have place : left.openings[driver.connections]? = some arguments.sorted := by
        rw [openings, ← numbered.openings, List.getElem?_concat_length]
      unfold Driver.autocommits
      rw [silent]
      change (left.openings[driver.connections]?).any Native.asksToCommit = true
      rw [place]
      exact odbc_asksToCommit given
  | firebird | mssql | mysql | postgres | sqlite => cases switching

end Switching

end Adapter
end SqlGateway
