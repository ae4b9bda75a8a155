import SqlGateway.Proofs.Database.ServiceRun
import SqlGateway.Proofs.Native.Autocommit

namespace SqlGateway

/-!
# A connection commits by itself exactly outside of transactions

Oracle and ODBC have no native begin.  A transaction begins there by a switch to no commits and
ends by a switch back, and between them the depth of the tracker is positive.  The switch and
the depth change in different places and in a different order, and the native end of a transaction
may fail in between.

After every service of a database they agree nevertheless, as long as the switches themselves
succeed.  A connection that was just opened is at depth zero and commits by itself.
-/

namespace Database

variable {α σ : Type} {database : Database}

/-- What holds between the services of a database whose adapter switches. -/
structure Agrees (database : Database) (gateway : Gateway α) : Prop where
  regular : database.Regular gateway
  free : gateway.driver.SwitchesFreely
  adapter : exists adapter, adapter.switches = true ∧
    Adapter.ofDialect (gateway.entry database.entry).params.dialect = .ok adapter
  held : forall handle, (gateway.entry database.entry).handle = some handle ->
    handle.adapter.switches = true ∧
      (gateway.driver.autocommits handle.connection = true <-> database.depth gateway = 0)

section Steps

variable {handle : Handle} {before after : Gateway α}

theorem Agrees.beside (agrees : database.Agrees before)
    (beside : database.Beside before after) : database.Agrees after where
  regular := agrees.regular.beside beside
  free := agrees.free.onward beside.onward
  adapter := by
    rw [beside.params]
    exact agrees.adapter
  held handle held := by
    cases earlier : (before.entry database.entry).handle with
    | none =>
        rw [beside.unconnected earlier] at held
        cases held
    | some holding =>
        rcases beside.apart holding earlier with ⟨⟨row, stillHeld⟩, depth, record, -⟩
        cases stillHeld.symm.trans held
        have mode := Native.autocommits_of_record (agrees.regular.known holding earlier)
          agrees.regular.numbered beside.onward record
        dsimp only
        rw [mode, depth]
        exact agrees.held holding earlier

theorem Agrees.connects (agrees : database.Agrees before)
    (unconnected : (before.entry database.entry).handle = none)
    (connects : database.Connects handle before after) : database.Agrees after := by
  rcases connects.driver with ⟨options, answered⟩
  rcases agrees.adapter with ⟨adapter, switching, known⟩
  have same : adapter = handle.adapter := Except.ok.inj (known.symm.trans connects.adapter)
  rw [same] at switching
  have onward := handle.adapter.openConnection_onward (before.entry database.entry).params
    options before.driver
  rw [Operation.after_of_ok answered] at onward
  refine ⟨connects.regular unconnected agrees.regular, agrees.free.onward onward, ?_, ?_⟩
  · rw [connects.opened.entry, if_pos rfl]
    exact agrees.adapter
  · intro held found
    cases connects.held.symm.trans found
    have mode := Adapter.openConnection_switches switching agrees.regular.numbered answered
    exact ⟨switching, iff_of_true mode (connects.depth agrees.regular.sound)⟩

/-- A dealing leaves mode and depth agreed: without a switch both stay as they were, and a switch
follows the depth. -/
theorem mode_of_deals (holds : before.Holds database.entry handle)
    (switching : handle.adapter.switches = true) (free : before.driver.SwitchesFreely)
    (agreed : before.driver.autocommits handle.connection = true <-> database.depth before = 0)
    (deals : database.Deals handle before after) :
    after.driver.autocommits handle.connection = true <-> database.depth after = 0 := by
  cases deals with
  | states sql parameters =>
      have adds : before.driver.Adds Native.Event.isModeless
          ((database.runStatement handle sql parameters).after before).driver :=
        runStatement_ofDriver (Adapter.execute_modeless sql parameters)
          (Adapter.afterExecute_modeless handle.adapter) before
      rw [Native.autocommits_of_adds adds, runStatement_depth holds]
      exact agreed
  | readies sql =>
      rw [Gateway.onDriver, Operation.after_within]
      have adds : before.driver.Adds Native.Event.isModeless
          ((handle.adapter.prepareNatively handle.connection sql).after before.driver) :=
        Adapter.prepareNatively_modeless handle.adapter sql before.driver
      rw [Native.autocommits_of_adds adds]
      exact agreed
  | acts action =>
      cases (perform_acted holds action).2 with
      | quietly driver depth =>
          rw [driver, depth]
          exact agreed
      | began outside driver depth =>
          have switched : exists left,
              handle.adapter.transact handle.connection .begin before.driver = .ok () left ∧
                left.autocommits handle.connection = false :=
            Adapter.transact_begin_switches switching free
          rcases switched with ⟨left, begins, mode⟩
          rw [Operation.after_of_ok begins] at driver
          rw [Operation.outcome_of_ok begins] at depth
          rw [driver, mode, depth]
          exact iff_of_false Bool.false_ne_true Nat.one_ne_zero
      | ended call ends last driver depth =>
          rw [driver, Adapter.transact_ending_switches switching free ends, depth]
          exact iff_of_true rfl rfl

theorem Agrees.deals (agrees : database.Agrees before)
    (holds : before.Holds database.entry handle) (deals : database.Deals handle before after) :
    database.Agrees after := by
  refine ⟨deals.regular holds agrees.regular, agrees.free.onward (deals.onward holds), ?_, ?_⟩
  · rw [(deals.retains holds).params]
    exact agrees.adapter
  · intro current found
    rcases deals.stillHolds holds with ⟨later, stillHeld⟩
    cases stillHeld.symm.trans found
    rcases id holds with ⟨row, held⟩
    rcases agrees.held _ held with ⟨switching, agreed⟩
    have agree := mode_of_deals holds switching agrees.free agreed deals
    exact ⟨switching, agree⟩

theorem Agrees.disconnect (agrees : database.Agrees before)
    (holds : before.Holds database.entry handle) :
    database.Agrees (database.disconnect.after before) := by
  have entry := disconnect_entry holds
  refine ⟨agrees.regular.disconnect holds, ?_, ?_, ?_⟩
  · rw [disconnect_driver holds]
    exact agrees.free.onward (Native.callAt_onward _ _ before.driver)
  · rw [entry]
    exact agrees.adapter
  · intro current found
    rw [entry] at found
    cases found

end Steps

/-- In every run of services on a database of Oracle or ODBC, whatever fails but the switches
themselves, the connection that the database has after each of them commits by itself exactly
if no transaction is open. -/
theorem autocommits_iff_depth_zero {runner : HookRunner α σ}
    (hooks : forall name phase callback sql,
      (runner name phase callback sql).Respects database.SessionBeside)
    {session : Session α σ}
    (unconnected : (session.gateway.entry database.entry).handle = none)
    (sound : session.gateway.Sound) (numbered : session.gateway.driver.Numbered)
    (free : session.gateway.driver.SwitchesFreely)
    (adapter : exists adapter, (adapter = .oracle ∨ adapter = .odbc) ∧
      Adapter.ofDialect (session.gateway.entry database.entry).params.dialect = .ok adapter)
    (services : List (Scope × Service)) :
    let after := (serveAll runner database services session).gateway
    forall handle, (after.entry database.entry).handle = some handle ->
      (after.driver.autocommits handle.connection = true <-> database.depth after = 0) := by
  have start : database.Agrees session.gateway := by
    refine ⟨⟨sound, numbered, ?_⟩, free, ?_, ?_⟩
    · intro handle held
      cases unconnected.symm.trans held
    · rcases adapter with ⟨adapter, switching, known⟩
      refine ⟨adapter, ?_, known⟩
      rcases switching with rfl | rfl <;> rfl
    · intro handle held
      cases unconnected.symm.trans held
  have agrees : database.Agrees (serveAll runner database services session).gateway := by
    refine serveAll_preserves hooks ?_ ?_ services start
    · intro database gateway registry agrees
      exact ⟨agrees.regular.withRegistry registry, agrees.free, agrees.adapter, agrees.held⟩
    · intro database session service hooks agrees
      exact perform_preserves hooks (fun _ _ agrees beside => agrees.beside beside)
        (fun _ _ _ agrees unconnected connects => agrees.connects unconnected connects)
        (fun _ _ _ agrees holds deals => agrees.deals holds deals)
        (fun _ _ agrees holds => agrees.disconnect holds) agrees service
  intro after handle held
  exact (agrees.held handle held).2

/-- An ODBC database, over a driver whose first commit fails. -/
def switched : Session Unit Unit :=
  unopened ⟨.bracketQuoted "odbc" .question "odbc", .text "d", .text "h", none, .null, .null, []⟩
    (.ofScript [] [(.commit, [some (.foreign .driver (some "lost") none)])] [] (.int 0))

/-- Two transactions, of which the first fails to commit and the second is left open. -/
def restless : List (Scope × Service) :=
  [(.shared, .act .begin), (.shared, .query "DELETE FROM [t]" []), (.shared, .act .commit),
    (.shared, .act .begin), (.shared, .act .begin)]

theorem autocommits_iff_depth_zero_of_restless :
    let after := (serveAll Session.idleHooks memory restless switched).gateway
    (after.entry memory.entry).handle = some ⟨1, .opened 1, .odbc, .null⟩ ∧
      memory.depth after = 2 ∧
      (after.driver.autocommits (.opened 1) = true <-> memory.depth after = 0) := by
  have hooks : forall name phase callback sql, (Session.idleHooks name phase callback sql :
      Operation (Session Unit Unit) Unit).Respects memory.SessionBeside :=
    fun _ _ _ _ => .pure ()
  have numbered : switched.gateway.driver.Numbered := Native.numbered_ofScript _ _ _ _
  have free : switched.gateway.driver.SwitchesFreely := fun _ member => nomatch member
  have connected : ((serveAll Session.idleHooks memory restless switched).gateway.entry
      memory.entry).handle = some ⟨1, .opened 1, .odbc, .null⟩ :=
    rfl
  exact ⟨connected, rfl, autocommits_iff_depth_zero hooks rfl (unopened_sound _ _) numbered free
    ⟨.odbc, Or.inr rfl, rfl⟩ restless _ connected⟩

end Database
end SqlGateway
