import SqlGateway.Proofs.Database.ServiceRun
import SqlGateway.Proofs.Native.OpenTransaction

namespace SqlGateway

/-!
# Work in an open Firebird transaction is not committed early

Between a begin that succeeds and the attempt to end the transaction, nothing else may begin or
end one on the connection.  The decision is made in several places: the tracker counts, the end of
each statement asks it, and a begin asks the driver whether a native transaction is active.

One step is a service, and the depths before and after it say what the connection may be told
during it.  A run is a list of services.  While the depth stays positive after each of them, their
additions to the record are without any beginning or end.
-/

namespace Database

variable {α σ : Type} {database : Database} {handle : Handle} {before after : Gateway α}

open Adapter (TellsBetween)

/-! ## One service -/

/-- Between two states a connection was told what the depths of its transactions allow. -/
def Tells (database : Database) (connection : Native.Connection) (before after : Gateway α) :
    Prop :=
  TellsBetween connection (database.depth before) (database.depth after) before.driver after.driver

theorem depth_of_unconnected (unconnected : (before.entry database.entry).handle = none) :
    database.depth before = 0 := by
  unfold depth
  rw [unconnected]

section Steps

variable (holds : before.Holds database.entry handle)
include holds

theorem Beside.same (beside : database.Beside before after) :
    database.depth after = database.depth before ∧
      after.driver.recordOf handle.connection = before.driver.recordOf handle.connection := by
  rcases holds with ⟨row, held⟩
  rcases beside.apart _ held with ⟨-, depth, record, -⟩
  exact ⟨depth, record⟩

/-- A statement that succeeds outside of transactions is committed, and no other. -/
theorem tells_of_statement (firebird : handle.adapter = .firebird) (sql : String)
    (parameters : List Value) :
    database.Tells handle.connection before
      ((database.runStatement handle sql parameters).after before) := by
  have sameDepth := runStatement_depth holds sql parameters
  have reached := runStatement_after database handle sql parameters before
  unfold Tells
  rw [sameDepth]
  rcases Native.execute_cases handle.connection sql parameters before.driver with
    ⟨call, fault, left, fails, attempted, events, -⟩ | ⟨cursor, left, succeeds, events, active⟩
  · simp only [fails] at reached
    rw [reached]
    rcases attempted with rfl | rfl
    · exact ⟨_, Native.recordOf_of_event rfl events, Native.told_of_quiet Iff.rfl
        (by simp [Native.Event.isBoundary]) (by simp [Native.Event.isExecution])⟩
    · exact ⟨_, Native.recordOf_of_event rfl events, Native.told_of_quiet Iff.rfl
        (by simp [Native.Event.isBoundary]) (by simp [Native.Event.isExecution])⟩
  · have record := Native.recordOf_of_event rfl events
    rcases Adapter.firebird_afterExecute_told active with ⟨inside, failure, outside⟩
    have depth : (before.tracker database.tracker).depth handle.id = database.depth before := by
      rcases holds with ⟨row, held⟩
      exact (depth_of_connected held).symm
    have driver : ((database.runStatement handle sql parameters).after before).driver =
        (Adapter.firebird.afterExecute handle.connection
          (decide (0 < database.depth before))).after left := by
      simp only [succeeds] at reached
      rw [reached, conclude_after, firebird, ← depth]
      rfl
    rw [driver]
    cases database.depth before with
    | zero =>
        have added := outside.trans (congrArg (· ++ _) record)
        rw [List.append_assoc] at added
        exact ⟨_, added, .outside (by simp) (Adapter.retained_execution _ _ _ _ failure)⟩
    | succ depth =>
        have added := inside.trans record
        exact ⟨_, added, .inside (by simp [Native.Event.isBoundary])⟩

theorem Deals.tells (firebird : handle.adapter = .firebird)
    (deals : database.Deals handle before after) :
    database.Tells handle.connection before after := by
  cases deals with
  | states sql parameters => exact tells_of_statement holds firebird sql parameters
  | readies sql =>
      rw [firebird, Gateway.onDriver, Operation.after_within]
      exact Adapter.firebird_prepares_quietly sql Iff.rfl
  | acts action =>
      unfold Tells
      cases (perform_acted holds action).2 with
      | quietly driver same =>
          refine ⟨[], ?_, Native.told_nothing handle.connection same⟩
          rw [driver, List.append_nil]
      | began outside driver depth =>
          rw [firebird] at driver depth
          rw [outside, driver, depth]
          exact Adapter.firebird_begin_told handle.connection before.driver
      | ended call ends last driver depth =>
          rw [firebird] at driver
          rw [last, driver, depth]
          exact Adapter.firebird_ending_told ends 0

theorem Once.tells (firebird : handle.adapter = .firebird)
    (once : database.Once handle before after) :
    database.Tells handle.connection before after := by
  rcases once with ⟨middle, dealt, first, dealing, last⟩
  have middleHolds := first.holds holds
  rcases first.same holds with ⟨firstDepth, firstRecord⟩
  have told : database.Tells handle.connection middle dealt ∧
      dealt.Holds database.entry handle := by
    rcases dealing with rfl | deals
    · refine ⟨⟨[], ?_, Native.told_nothing handle.connection Iff.rfl⟩, middleHolds⟩
      rw [List.append_nil]
    · exact ⟨deals.tells middleHolds firebird, deals.stillHolds middleHolds⟩
  rcases told with ⟨told, dealtHolds⟩
  rcases last.same dealtHolds with ⟨lastDepth, lastRecord⟩
  unfold Tells TellsBetween at told ⊢
  rw [lastDepth, lastRecord, ← firstDepth, ← firstRecord]
  exact told

theorem disconnect_tells : database.Tells handle.connection before
    (database.disconnect.after before) := by
  have unconnected : ((database.disconnect.after before).entry database.entry).handle = none := by
    rw [disconnect_entry holds]
  unfold Tells
  rw [depth_of_unconnected unconnected, disconnect_driver holds]
  exact Adapter.close_told handle.connection before.driver (database.depth before)

end Steps

/-! ## Runs -/

/-- What holds between the services of a Firebird database. -/
structure Guarded (database : Database) (gateway : Gateway α) : Prop where
  regular : database.Regular gateway
  firebird : Adapter.ofDialect (gateway.entry database.entry).params.dialect = .ok .firebird
  held : forall handle, (gateway.entry database.entry).handle = some handle ->
    handle.adapter = .firebird

namespace Guarded

theorem beside (guarded : database.Guarded before) (beside : database.Beside before after) :
    database.Guarded after where
  regular := guarded.regular.beside beside
  firebird := by
    rw [beside.params]
    exact guarded.firebird
  held handle held := by
    cases earlier : (before.entry database.entry).handle with
    | none =>
        rw [beside.unconnected earlier] at held
        cases held
    | some holding =>
        rcases (beside.apart holding earlier).1 with ⟨row, stillHeld⟩
        cases stillHeld.symm.trans held
        exact guarded.held holding earlier

theorem connects (guarded : database.Guarded before)
    (unconnected : (before.entry database.entry).handle = none)
    (connects : database.Connects handle before after) : database.Guarded after where
  regular := connects.regular unconnected guarded.regular
  firebird := by
    rw [connects.opened.entry, if_pos rfl]
    exact guarded.firebird
  held current found := by
    cases connects.held.symm.trans found
    exact Except.ok.inj (connects.adapter.symm.trans guarded.firebird)

theorem deals (guarded : database.Guarded before) (holds : before.Holds database.entry handle)
    (deals : database.Deals handle before after) : database.Guarded after where
  regular := deals.regular holds guarded.regular
  firebird := by
    rw [(deals.retains holds).params]
    exact guarded.firebird
  held current found := by
    rcases deals.stillHolds holds with ⟨later, stillHeld⟩
    cases stillHeld.symm.trans found
    rcases id holds with ⟨row, held⟩
    have firebird := guarded.held _ held
    exact firebird

theorem disconnect (guarded : database.Guarded before)
    (holds : before.Holds database.entry handle) :
    database.Guarded (database.disconnect.after before) where
  regular := guarded.regular.disconnect holds
  firebird := by
    rw [disconnect_entry holds]
    exact guarded.firebird
  held current found := by
    rw [disconnect_entry holds] at found
    cases found

theorem withRegistry (guarded : database.Guarded before) (registry : Scope) :
    ({ database with registry := registry } : Database).Guarded before :=
  ⟨guarded.regular.withRegistry registry, guarded.firebird, guarded.held⟩

/-- Nothing is told to a connection while it is opened. -/
theorem connects_silently (guarded : database.Guarded before)
    (connects : database.Connects handle before after) :
    database.depth after = 0 ∧ handle.connection = .opened (before.driver.connections + 1) ∧
      after.driver.recordOf handle.connection = [] := by
  have firebird : handle.adapter = .firebird :=
    Except.ok.inj (connects.adapter.symm.trans guarded.firebird)
  rcases connects.driver with ⟨options, answered⟩
  rcases Adapter.openConnection_ok answered with ⟨fresh, _, opened, -, -, record, prepared⟩
  rw [firebird] at prepared
  cases prepared
  refine ⟨connects.depth guarded.regular.sound, fresh, ?_⟩
  rw [record, fresh]
  exact guarded.regular.numbered.unopened _ (Nat.lt_succ_self _)

section Serving

variable {runner : HookRunner α σ}
  (hooks : forall name phase callback sql,
    (runner name phase callback sql).Respects database.SessionBeside)
  {session : Session α σ} (guarded : database.Guarded session.gateway)
include hooks guarded

theorem perform (service : Service) :
    database.Guarded ((service.perform runner database).after session).gateway :=
  perform_preserves hooks (fun _ _ guarded beside => guarded.beside beside)
    (fun _ _ _ guarded unconnected connects => guarded.connects unconnected connects)
    (fun _ _ _ guarded holds deals => guarded.deals holds deals)
    (fun _ _ guarded holds => guarded.disconnect holds) guarded service

/-- A service tells the connection that the database had before what the depths allow, and leaves
the depth at zero or the connection with the database. -/
theorem tells_of_connected (holds : session.gateway.Holds database.entry handle)
    (service : Service) :
    let after := ((service.perform runner database).after session).gateway
    database.Tells handle.connection session.gateway after ∧
      (after.Holds database.entry handle ∨ (after.entry database.entry).handle = none) := by
  have firebird : handle.adapter = .firebird := by
    rcases holds with ⟨row, held⟩
    have firebird := guarded.held _ held
    exact firebird
  by_cases stays : service = .disconnect
  · rw [stays, perform_disconnect]
    refine ⟨disconnect_tells holds, Or.inr ?_⟩
    rw [disconnect_entry holds]
  · have once := perform_once hooks holds stays
    exact ⟨once.tells holds firebird, Or.inl (once.stillHolds holds)⟩

/-- A connection that a service opens was told nothing before, and then what the depths allow. -/
theorem tells_of_unconnected (unconnected : (session.gateway.entry database.entry).handle = none)
    (service : Service) :
    let after := ((service.perform runner database).after session).gateway
    after.Holds database.entry handle ->
      database.Tells handle.connection session.gateway after := by
  intro after opens
  rcases perform_opensFirst hooks unconnected service with
    beside | ⟨middle, fresh, opened, first, connects, once⟩
  · rcases opens with ⟨row, held⟩
    cases (beside.unconnected unconnected).symm.trans held
  · have opening := (guarded.beside first).connects_silently connects
    have guardedOpened := (guarded.beside first).connects (first.unconnected unconnected) connects
    have told := once.tells connects.holds (guardedOpened.held fresh connects.held)
    rcases once.stillHolds connects.holds with ⟨row, stillHeld⟩
    rcases opens with ⟨later, held⟩
    have same : fresh.connection = handle.connection := by
      have equal := congrArg Handle.connection (Option.some.inj (stillHeld.symm.trans held))
      exact equal
    have count := first.onward.connections_le guarded.regular.numbered
      (first.numbered guarded.regular.numbered)
    have silent : session.gateway.driver.recordOf fresh.connection = [] := by
      rw [opening.2.1]
      exact guarded.regular.numbered.unopened _ (Nat.lt_succ_of_le count)
    unfold Tells TellsBetween at told ⊢
    rw [depth_of_unconnected unconnected, ← same, silent]
    rw [opening.1, opening.2.2] at told
    exact told

/-- A service tells the connection that the database has before it or after it what the depths
allow. -/
theorem tells (service : Service) :
    let after := ((service.perform runner database).after session).gateway
    session.gateway.Holds database.entry handle ∨ after.Holds database.entry handle ->
      database.Tells handle.connection session.gateway after := by
  intro after attached
  cases earlier : (session.gateway.entry database.entry).handle with
  | none =>
      rcases attached with ⟨row, held⟩ | opens
      · cases earlier.symm.trans held
      · exact guarded.tells_of_unconnected hooks earlier service opens
  | some current =>
      have told := guarded.tells_of_connected hooks ⟨current.lastRowId, earlier⟩ service
      rcases attached with holds | ⟨row, held⟩
      · exact (guarded.tells_of_connected hooks holds service).1
      · rcases told with ⟨told, ⟨later, stillHeld⟩ | closed⟩
        · have same := congrArg Handle.connection (Option.some.inj (stillHeld.symm.trans held))
          rw [← show current.connection = handle.connection from same]
          exact told
        · cases closed.symm.trans held

end Serving

end Guarded

section Runs

variable {runner : HookRunner α σ}
  (hooks : forall name phase callback sql,
    (runner name phase callback sql).Respects database.SessionBeside)
  {session : Session α σ}
include hooks

theorem serveAll_guarded (guarded : database.Guarded session.gateway)
    (services : List (Scope × Service)) :
    database.Guarded (serveAll runner database services session).gateway := by
  refine serveAll_preserves hooks ?_ ?_ services guarded
  · exact fun _ _ registry guarded => guarded.withRegistry registry
  · exact fun _ _ service hooks guarded => guarded.perform hooks service

/-- While the depth stays positive the database keeps its connection, and no transaction is begun
or ended on it. -/
theorem serveAll_inside (guarded : database.Guarded session.gateway)
    (holds : session.gateway.Holds database.entry handle) (services : List (Scope × Service))
    (inside : forall early, early <+: services ->
      0 < database.depth (serveAll runner database early session).gateway) :
    let after := (serveAll runner database services session).gateway
    after.Holds database.entry handle ∧ exists added,
      after.driver.recordOf handle.connection =
        session.gateway.driver.recordOf handle.connection ++ added ∧
      forall event, event ∈ added -> event.isBoundary = false := by
  induction services generalizing session with
  | nil => exact ⟨holds, [], (List.append_nil _).symm, nofun⟩
  | cons service services inductionHypothesis =>
      let next := serveAll runner database [service] session
      have here := inside [] List.nil_prefix
      have there : 0 < database.depth next.gateway := inside [service] (by simp)
      have told := (guarded.withRegistry service.1).tells_of_connected
        (hooks_withRegistry hooks service.1) holds service.2
      have nextHolds : next.gateway.Holds database.entry handle := by
        rcases told.2 with nextHolds | closed
        · exact nextHolds
        · exact absurd (depth_of_unconnected closed) (Nat.ne_of_gt there)
      have rest := inductionHypothesis (serveAll_guarded hooks guarded [service]) nextHolds
        fun early leads => inside (service :: early) (List.cons_prefix_cons.mpr ⟨rfl, leads⟩)
      rcases told.1 with ⟨added, record, told⟩
      rcases rest with ⟨lastHolds, later, laterRecord, laterQuiet⟩
      refine ⟨lastHolds, added ++ later, ?_, ?_⟩
      · rw [← List.append_assoc, ← record]
        exact laterRecord
      · intro event member
        rcases List.mem_append.mp member with early | late
        · exact told.quiet here there event early
        · exact laterQuiet event late

/-- In every run of services on a Firebird database, whatever fails, each service tells the
connection what the depths before and after it allow.  A transaction is entered by a begin that
succeeds and is told last, and left by one attempt to end it; while the depth stays positive the
database keeps its connection and nothing on it begins or ends a transaction, so nothing commits
one.  Outside of transactions each statement that succeeds is followed by one retaining commit
before the service is over. -/
theorem firebird_commits_by_depth
    (unconnected : (session.gateway.entry database.entry).handle = none)
    (sound : session.gateway.Sound) (numbered : session.gateway.driver.Numbered)
    (firebird : Adapter.ofDialect (session.gateway.entry database.entry).params.dialect =
      .ok .firebird)
    (services : List (Scope × Service)) :
    let reached := serveAll runner database services session
    (forall (next : Scope × Service) (handle : Handle),
      let later := serveAll runner database [next] reached
      reached.gateway.Holds database.entry handle ∨ later.gateway.Holds database.entry handle ->
      database.Tells handle.connection reached.gateway later.gateway) ∧
    (forall (middle : List (Scope × Service)) (handle : Handle),
      reached.gateway.Holds database.entry handle ->
      (forall early, early <+: middle ->
        0 < database.depth (serveAll runner database early reached).gateway) ->
      let later := serveAll runner database middle reached
      later.gateway.Holds database.entry handle ∧ exists added,
        later.gateway.driver.recordOf handle.connection =
          reached.gateway.driver.recordOf handle.connection ++ added ∧
        forall event, event ∈ added -> event.isBoundary = false) := by
  have start : database.Guarded session.gateway := by
    refine ⟨⟨sound, numbered, ?_⟩, firebird, ?_⟩ <;>
      exact fun handle held => nomatch unconnected.symm.trans held
  have guarded := serveAll_guarded hooks start services
  constructor
  · intro next handle
    exact (guarded.withRegistry next.1).tells (hooks_withRegistry hooks next.1) next.2
  · exact fun middle handle holds inside => serveAll_inside hooks guarded holds middle inside

end Runs

/-- A Firebird database, over a driver whose first begin and whose first commit fail. -/
def besieged : Session Unit Unit :=
  let lost : List (Option Fault) := [some (.foreign .driver (some "lost") none)]
  unopened ⟨.firebird, .text "d", .text "h", none, .text "u", .text "p", []⟩
    (.ofScript [] [(.begin, lost), (.commit, lost)] [] (.int 0))

/-- A statement that fails to be committed, a begin that fails, and a transaction inside of
another. -/
def nested : List (Scope × Service) :=
  [(.shared, .query "DELETE FROM [t]" []), (.shared, .act .begin), (.shared, .act .begin),
    (.shared, .act .begin)]

/-- A statement in the inner transaction, which is rolled back. -/
def resumed : List (Scope × Service) :=
  [(.shared, .query "SELECT 1" []), (.shared, .act .rollback)]

theorem firebird_commits_by_depth_of_nested :
    let reached := serveAll Session.idleHooks memory nested besieged
    let later := serveAll Session.idleHooks memory resumed reached
    let left := serveAll Session.idleHooks memory [(.shared, .act .commit)] reached
    memory.depth reached.gateway = 2 ∧ memory.depth later.gateway = 1 ∧
      memory.Tells (.opened 1) reached.gateway left.gateway ∧
      later.gateway.Holds memory.entry ⟨1, .opened 1, .firebird, .null⟩ ∧
      exists added, later.gateway.driver.recordOf (.opened 1) =
          reached.gateway.driver.recordOf (.opened 1) ++ added ∧
        forall event, event ∈ added -> event.isBoundary = false := by
  have hooks : forall name phase callback sql, (Session.idleHooks name phase callback sql :
      Operation (Session Unit Unit) Unit).Respects memory.SessionBeside :=
    fun _ _ _ _ => .pure ()
  have sound : besieged.gateway.Sound := unopened_sound _ _
  have numbered : besieged.gateway.driver.Numbered := Native.numbered_ofScript _ _ _ _
  rcases firebird_commits_by_depth hooks rfl sound numbered rfl nested with ⟨told, quiet⟩
  let depthAfter (services : List (Scope × Service)) : Nat :=
    memory.depth (serveAll Session.idleHooks memory services
      (serveAll Session.idleHooks memory nested besieged)).gateway
  have two : depthAfter [] = 2 := rfl
  have stillTwo : depthAfter [(.shared, .query "SELECT 1" [])] = 2 := by decide +kernel
  have one : depthAfter resumed = 1 := by decide +kernel
  have inside (early : List (Scope × Service)) (leads : early <+: resumed) :
      0 < depthAfter early := by
    rcases List.prefix_cons_iff.mp leads with rfl | ⟨first, rfl, rest⟩
    · exact Nat.lt_of_lt_of_eq Nat.two_pos two.symm
    rcases List.prefix_cons_iff.mp rest with rfl | ⟨second, rfl, none⟩
    · exact Nat.lt_of_lt_of_eq Nat.two_pos stillTwo.symm
    cases List.prefix_nil.mp none
    exact Nat.lt_of_lt_of_eq Nat.one_pos one.symm
  exact ⟨two, one, told (.shared, .act .commit) ⟨1, .opened 1, .firebird, .null⟩ (Or.inl ⟨_, rfl⟩),
    quiet resumed ⟨1, .opened 1, .firebird, .null⟩ ⟨_, rfl⟩ inside⟩

end Database
end SqlGateway
