import SqlGateway.Proofs.Native.Confined

namespace SqlGateway

/-!
# What a driver keeps whatever is done with it

A driver takes back nothing that it recorded, and it works off its script of failures in order.
It numbers its connections as it opens them, so the record tells with which keywords each of
them was opened, and nothing is recorded for a connection before it is opened.

The first of these facts is a relation between the driver before and after, which all calls
respect.  The second is kept by what is done with connections that are open, and by opening
one more.
-/

namespace Native

/-! ## Records that grow and scripts that are worked off -/

/-- The failures to come at a place. -/
def Driver.failuresAt (driver : Driver) (point : FailPoint) : List (Option Fault) :=
  (driver.failures.get? point).getD []

/-- Nothing recorded was taken back, and the failures to come were so before, at the same
place and in the same order. -/
structure Driver.Onward (before after : Driver) : Prop where
  events : before.events <+: after.events
  failures : forall point, after.failuresAt point <:+ before.failuresAt point

namespace Driver.Onward

variable {before after : Driver}

instance : IsPreorder Driver Driver.Onward where
  refl _ := ⟨List.prefix_rfl, fun _ => List.suffix_rfl⟩
  trans _ _ _ first second :=
    ⟨first.events.trans second.events,
      fun point => (second.failures point).trans (first.failures point)⟩

theorem of_same (events : after.events = before.events)
    (failures : after.failures = before.failures) : before.Onward after where
  events := events ▸ List.prefix_rfl
  failures point := by simp only [failuresAt, failures, List.suffix_rfl]

end Driver.Onward

section Calls

theorem nextFailure_eq (driver : Driver) (point : FailPoint) :
    (driver.nextFailure point).1 = (driver.failuresAt point).head?.join := by
  unfold Driver.nextFailure Driver.failuresAt
  split
  · rename_i failure rest found
    rw [found]
    rfl
  · rename_i found
    rw [found]
    rfl
  · rename_i found
    rw [found]
    rfl

theorem failuresAt_nextFailure (driver : Driver) (point other : FailPoint) :
    (driver.nextFailure point).2.failuresAt other <:+ driver.failuresAt other := by
  unfold Driver.nextFailure
  split
  · rename_i failure rest found
    unfold Driver.failuresAt
    rw [Dictionary.get?_put]
    split
    · rename_i same
      rw [same, found]
      exact List.suffix_cons failure rest
    · exact List.suffix_rfl
  · exact List.suffix_rfl
  · exact List.suffix_rfl

theorem nextFailure_onward (driver : Driver) (point : FailPoint) :
    driver.Onward (driver.nextFailure point).2 where
  events := events_nextFailure driver point ▸ List.prefix_rfl
  failures := failuresAt_nextFailure driver point

theorem finish_onward (call : Call) (failure : Option Fault) :
    (finish call failure).Respects Driver.Onward := by
  intro driver
  constructor
  · rw [finish_events]
    exact List.prefix_append _ _
  · intro point
    cases failure <;> exact List.suffix_rfl

theorem takeFailure_onward (point : FailPoint) :
    (takeFailure point).Respects Driver.Onward :=
  fun driver => nextFailure_onward driver point

theorem callAt_onward (point : FailPoint) (call : Call) :
    (callAt point call).Respects Driver.Onward :=
  .bind (takeFailure_onward point) fun _ => finish_onward call _

theorem attempt_onward (point : FailPoint) (call : Call) :
    (attempt point call).Respects Driver.Onward := by
  refine .bind (takeFailure_onward point) fun failure => ?_
  cases failure with
  | none => exact .pure ()
  | some fault => exact finish_onward call (some fault)

theorem setActive_onward (connection : Connection) (isNow : Bool) :
    (setActive connection isNow).Respects Driver.Onward :=
  .modify fun _ => .of_same rfl rfl

theorem connect_onward (positional : List Value) (keywords : List (String × Value)) :
    (connect positional keywords).Respects Driver.Onward :=
  .bind (callAt_onward _ _) fun _ _ => .of_same rfl rfl

theorem begin_onward (connection : Connection) : (begin connection).Respects Driver.Onward :=
  .bind (callAt_onward _ _) fun _ => setActive_onward _ _

theorem commit_onward (connection : Connection) (retaining : Bool) :
    (commit connection retaining).Respects Driver.Onward := by
  refine .bind (callAt_onward _ _) fun _ => ?_
  cases retaining with
  | true => exact .pure ()
  | false => exact setActive_onward connection false

theorem rollback_onward (connection : Connection) :
    (rollback connection).Respects Driver.Onward :=
  .bind (callAt_onward _ _) fun _ => setActive_onward _ _

theorem setAutocommit_onward (connection : Connection) (on : Bool) :
    (setAutocommit connection on).Respects Driver.Onward :=
  callAt_onward _ _

theorem openCursor_onward (connection : Connection) :
    (openCursor connection).Respects Driver.Onward :=
  .bind (attempt_onward _ _) fun _ _ => .of_same rfl rfl

theorem closeCursor_onward (cursor : Cursor) : (closeCursor cursor).Respects Driver.Onward :=
  .bind (takeFailure_onward _) fun _ => finish_onward _ _

theorem execute_onward (cursor : Cursor) (sql : String) (parameters : Option (List Value)) :
    (execute cursor sql parameters).Respects Driver.Onward := by
  have takes : takeResponse.Respects Driver.Onward := by
    intro driver
    rcases driver with ⟨responses, _⟩
    cases responses <;> exact .of_same rfl rfl
  refine .bind takes fun _ => ?_
  refine .bind (finish_onward _ _) fun _ => ?_
  refine .bind (setActive_onward _ _) fun _ => ?_
  exact .pure _

end Calls

end Native

namespace Adapter

open Native (Connection Driver)

theorem nameService_onward (adapter : Adapter) (params : ConnectionParams) :
    (adapter.nameService params).Respects Driver.Onward := by
  cases adapter with
  | oracle => exact Native.attempt_onward _ _
  | _ => exact .pure ()

theorem openConnection_onward (adapter : Adapter) (params : ConnectionParams)
    (options : List (String × Value)) :
    (adapter.openConnection params options).Respects Driver.Onward := by
  refine .bind .get fun driver => ?_
  refine .bind (.ofExcept _) fun arguments => ?_
  refine .bind (adapter.nameService_onward params) fun _ => ?_
  refine .bind (Native.connect_onward _ _) fun connection => ?_
  by_cases oracle : adapter = .oracle
  · rw [if_pos oracle]
    exact .bind (Native.setAutocommit_onward _ _) fun _ => .pure _
  · rw [if_neg oracle]
    exact .pure _

theorem execute_onward (connection : Connection) (sql : String) (parameters : List Value) :
    (Adapter.execute connection sql parameters).Respects Driver.Onward :=
  .bind (Native.openCursor_onward connection) fun _ => Native.execute_onward _ _ _

theorem afterExecute_onward (adapter : Adapter) (connection : Connection) (inTransaction : Bool) :
    (adapter.afterExecute connection inTransaction).Respects Driver.Onward := by
  refine .bind .get fun driver => ?_
  split
  · exact Native.commit_onward _ _
  · exact .pure ()

theorem withStatement_onward {α : Type} (connection : Connection) (sql : String)
    (use : Native.Cursor → Except Fault α) :
    (Adapter.withStatement connection sql use).Respects Driver.Onward := by
  refine .bind (Native.openCursor_onward connection) fun fresh => ?_
  refine .bind (Native.execute_onward _ _ _).observe fun outcome => ?_
  cases outcome with
  | ok cursor => exact .bind (Native.closeCursor_onward _) fun _ => .ofExcept _
  | error fault => exact .bind (Native.closeCursor_onward _) fun _ => .throw _

theorem transact_onward (adapter : Adapter) (connection : Connection)
    (call : Transaction.NativeCall) :
    (adapter.transact connection call).Respects Driver.Onward := by
  have switched (on : Bool) := Native.setAutocommit_onward connection on
  have commits := Native.commit_onward connection false
  have rollsBack := Native.rollback_onward connection
  have begins := Native.begin_onward connection
  apply transact_cases (motive := fun operation => operation.Respects Driver.Onward)
  case control =>
    intro adapter
    cases call <;> exact withStatement_onward _ _ _
  case direct => exact Native.callAt_onward _ _
  case begin => exact begins
  case restart =>
    refine .bind .get fun driver => ?_
    dsimp only
    split
    · exact .bind commits fun _ => begins
    · exact begins
  case commit => exact commits
  case rollback => exact rollsBack
  case switchOff => exact switched false
  case commitBack => exact .thenAlways commits (switched true)
  case rollBack => exact .thenAlways rollsBack (switched true)

theorem prepareNatively_onward (adapter : Adapter) (connection : Connection) (sql : String) :
    (adapter.prepareNatively connection sql).Respects Driver.Onward := by
  cases adapter with
  | firebird =>
      exact .bind (Native.openCursor_onward connection) fun cursor =>
        .thenAlways
          (.bind (Native.callAt_onward _ _) fun _ => Native.callAt_onward _ _)
          (Native.closeCursor_onward _)
  | oracle =>
      exact .bind (Native.openCursor_onward connection) fun _ =>
        .thenAlways (Native.callAt_onward _ _) (Native.closeCursor_onward _)
  | mssql | mysql | odbc | postgres | sqlite => exact .throw _

theorem validate_onward (dialect : Dialect) (sql : String) :
    (Adapter.validate dialect sql).Respects Driver.Onward := by
  unfold validate
  split
  · exact .pure ()
  · exact .mapFault _ (Native.callAt_onward _ _)

end Adapter

namespace Native

/-! ## Connections by their numbers -/

/-- The keywords that a connection was opened with, if an event opened one. -/
def Event.opening? (event : Event) : Option (List (String × Value)) :=
  match event.call, event.failure with
  | .connect _ keywords, none => some keywords
  | _, _ => none

/-- The keywords of all connections that were opened, in the order of their numbers. -/
def Driver.openings (driver : Driver) : List (List (String × Value)) :=
  driver.events.filterMap Event.opening?

/-- Every number belongs to a connection that was opened, and nothing is recorded for others. -/
structure Driver.Numbered (driver : Driver) : Prop where
  openings : driver.openings.length = driver.connections
  unopened : forall number, driver.connections < number -> driver.recordOf (.opened number) = []

/-- A connection that a driver did not still have to open. -/
def Driver.Knows (driver : Driver) (connection : Connection) : Prop :=
  forall number, connection = .opened number -> number ≤ driver.connections

theorem numbered_ofScript (responses : List Response)
    (failures : List (FailPoint × List (Option Fault))) (missing : List String) (clock : Value) :
    (Driver.ofScript responses failures missing clock).Numbered :=
  ⟨rfl, fun _ _ => rfl⟩

section Numbers

variable {connection : Connection} {before after : Driver}

theorem opening?_of_connection? {event : Event}
    (on : event.call.connection? = some connection) : event.opening? = none := by
  rcases event with ⟨call, failure⟩
  cases call <;> first | rfl | cases on

/-- What is done with one connection opens none. -/
theorem Driver.Confined.openings (confined : before.Confined connection after) :
    after.openings = before.openings := by
  rcases confined.adds with ⟨added, same, on⟩
  have opensNone : added.filterMap Event.opening? = [] :=
    List.filterMap_eq_nil_iff.mpr fun event member => opening?_of_connection? (on event member)
  unfold Driver.openings
  rw [same, List.filterMap_append, opensNone, List.append_nil]

theorem Driver.Numbered.confined (numbered : before.Numbered) (known : before.Knows connection)
    (confined : before.Confined connection after) : after.Numbered where
  openings := by rw [confined.openings, confined.connections, numbered.openings]
  unopened number later := by
    rw [confined.connections] at later
    have different : Connection.opened number ≠ connection := by
      intro same
      exact Nat.not_le.mpr later (known number same.symm)
    rw [confined.recordOf different]
    exact numbered.unopened number later

theorem Driver.Knows.confined {other : Connection} (known : before.Knows connection)
    (confined : before.Confined other after) : after.Knows connection := by
  intro number same
  rw [confined.connections]
  exact known number same

/-- What is on no connection keeps the numbers. -/
theorem Driver.Numbered.of_unlisted (numbered : before.Numbered)
    (openings : after.openings = before.openings)
    (connections : after.connections = before.connections)
    (record : forall connection, after.recordOf connection = before.recordOf connection) :
    after.Numbered where
  openings := by rw [openings, connections, numbered.openings]
  unopened number later := by
    rw [record]
    exact numbered.unopened number (connections ▸ later)

/-- Of the openings, those that there were keep their place. -/
theorem Driver.Onward.openings (onward : before.Onward after) :
    before.openings <+: after.openings :=
  onward.events.filterMap _

theorem Driver.Onward.connections_le (onward : before.Onward after) (numbered : before.Numbered)
    (stillNumbered : after.Numbered) : before.connections ≤ after.connections := by
  rw [← numbered.openings, ← stillNumbered.openings]
  exact onward.openings.length_le

theorem Driver.Knows.onward (known : before.Knows connection) (onward : before.Onward after)
    (numbered : before.Numbered) (stillNumbered : after.Numbered) : after.Knows connection :=
  fun number same =>
    Nat.le_trans (known number same) (onward.connections_le numbered stillNumbered)

end Numbers

theorem openings_record (driver : Driver) (call : Call) (failure : Option Fault) :
    (driver.record call failure).openings =
      driver.openings ++ (Event.opening? ⟨call, failure⟩).toList := by
  unfold Driver.openings Driver.record
  rw [List.filterMap_append, List.filterMap_cons]
  cases Event.opening? ⟨call, failure⟩ <;> rfl

/-- The grammar checker is asked about no connection, so none is touched. -/
theorem checkGrammar_after (sql grammar : String) (driver : Driver) :
    exists failure,
      (callAt .grammar (.checkGrammar sql grammar)).after driver =
        (driver.nextFailure .grammar).2.record (.checkGrammar sql grammar) failure := by
  rw [callAt_after]
  refine ⟨(driver.nextFailure .grammar).1, ?_⟩
  cases (driver.nextFailure .grammar).1 <;> rfl

theorem Driver.Numbered.of_record {driver : Driver} (numbered : driver.Numbered) {call : Call}
    (unlisted : call.connection? = none) {failure : Option Fault}
    (opensNone : Event.opening? ⟨call, failure⟩ = none) :
    (driver.record call failure).Numbered := by
  refine numbered.of_unlisted ?_ rfl (recordOf_record_of_unlisted unlisted driver failure)
  rw [openings_record, opensNone]
  exact List.append_nil _

/-- A connection that was opened has the next number. -/
theorem Driver.Numbered.counting {driver : Driver} (numbered : driver.Numbered)
    (arguments : Adapter.ConnectArguments) : (driver.counting arguments).Numbered where
  openings := by
    change (driver.record (.connect arguments.positional arguments.sorted) none).openings.length =
      driver.connections + 1
    rw [openings_record, List.length_append, numbered.openings]
    rfl
  unopened number later := by
    have unlisted : (Call.connect arguments.positional arguments.sorted).connection? = none := rfl
    have record := recordOf_record_of_unlisted unlisted driver none (.opened number)
    refine record.trans (numbered.unopened number ?_)
    exact Nat.lt_of_succ_lt later

end Native

namespace Adapter

open Native (Connection Driver)

/-- Opening a connection numbers it next, or it fails; either way the numbers are kept. -/
theorem openConnection_numbered (adapter : Adapter) (params : ConnectionParams)
    (options : List (String × Value)) {driver : Driver} (numbered : driver.Numbered) :
    ((adapter.openConnection params options).after driver).Numbered := by
  -- The failures to come do not count.
  have same (failures : Dictionary Native.FailPoint (List (Option Fault))) :
      Driver.Numbered { driver with failures := failures } :=
    ⟨numbered.openings, numbered.unopened⟩
  cases adapter.openConnection_opening params options driver with
  | unready fault refuses comes =>
      rw [Operation.after_of_error comes]
      exact numbered
  | unnamed oracle host port service fault failures comes =>
      rw [Operation.after_of_error comes]
      exact (same failures).of_record rfl rfl
  | refused arguments given fault failures comes =>
      rw [Operation.after_of_error comes]
      exact (same failures).of_record rfl rfl
  | opened arguments given failures comes =>
      let connection : Connection := .opened (driver.connections + 1)
      let opened := Driver.counting { driver with failures := failures } arguments
      have known : opened.Knows connection := by
        intro number found
        exact Nat.le_of_eq (Connection.opened.inj found).symm
      rw [Operation.after, comes]
      exact ((same failures).counting arguments).confined known
        (adapter.prepareOpened_confined connection opened)

/-- A connection that was opened has the next number.  Its keywords are recorded, and before it is
prepared nothing is recorded for a connection. -/
theorem openConnection_ok {adapter : Adapter} {params : ConnectionParams}
    {options : List (String × Value)} {connection : Connection} {driver left : Driver}
    (answered : adapter.openConnection params options driver = .ok connection left) :
    connection = .opened (driver.connections + 1) ∧
    exists arguments opened, adapter.connectArguments driver.missing params options =
        .ok arguments ∧
      opened.openings = driver.openings ++ [arguments.sorted] ∧
      (forall other, opened.recordOf other = driver.recordOf other) ∧
      adapter.prepareOpened connection opened = .ok connection left := by
  cases adapter.openConnection_opening params options driver with
  | unready fault refuses comes => cases answered.symm.trans comes
  | unnamed oracle host port service fault failures comes => cases answered.symm.trans comes
  | refused arguments given fault failures comes => cases answered.symm.trans comes
  | opened arguments given failures comes =>
      have prepared := comes.symm.trans answered
      have same := prepareOpened_ok (Operation.outcome_of_ok prepared)
      rw [← same] at prepared
      refine ⟨same, arguments, _, given, ?_, ?_, prepared⟩
      · exact Native.openings_record { driver with failures := failures }
          (.connect arguments.positional arguments.sorted) none
      · exact Native.recordOf_record_of_unlisted rfl { driver with failures := failures } none

/-- The grammar checker touches no connection. -/
theorem validate_unlisted (dialect : Dialect) (sql : String) (driver : Driver) :
    let left := (Adapter.validate dialect sql).after driver
    (forall connection, left.recordOf connection = driver.recordOf connection) ∧
      left.active = driver.active ∧ (driver.Numbered -> left.Numbered) := by
  unfold validate
  cases dialect.grammar with
  | none => exact ⟨fun _ => rfl, rfl, id⟩
  | some grammar =>
      dsimp only
      rw [Operation.after_mapFault]
      rcases Native.checkGrammar_after sql grammar driver with ⟨failure, reached⟩
      rw [reached]
      rcases Native.nextFailure_leaves driver .grammar with ⟨failures, left⟩
      rw [left]
      refine ⟨Native.recordOf_record_of_unlisted rfl _ failure, rfl, fun numbered => ?_⟩
      have same : Driver.Numbered { driver with failures := failures } :=
        ⟨numbered.openings, numbered.unopened⟩
      exact same.of_record rfl rfl

/-- A statement is prepared on a cursor of the connection. -/
theorem prepareNatively_confined (adapter : Adapter) (connection : Connection) (sql : String) :
    (adapter.prepareNatively connection sql).Respects (Driver.Confined connection) := by
  have closes (number : Nat) :
      (Native.closeCursor ⟨connection, number, {}⟩).Respects (Driver.Confined connection) :=
    Native.closeCursor_confined ⟨connection, number, {}⟩
  cases adapter with
  | firebird =>
      exact Native.openCursor_bind_confined fun number =>
        .thenAlways
          (.bind (Native.callAt_confined _ rfl) fun _ => Native.callAt_confined _ rfl)
          (closes number)
  | oracle =>
      exact Native.openCursor_bind_confined fun number =>
        .thenAlways (Native.callAt_confined _ rfl) (closes number)
  | mssql | mysql | odbc | postgres | sqlite => exact .throw _

end Adapter
end SqlGateway
