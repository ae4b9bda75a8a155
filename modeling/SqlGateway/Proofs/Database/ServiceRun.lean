import SqlGateway.Proofs.Database.Service

namespace SqlGateway

/-!
# Runs of services

Several databases can share an entry and a tracker, and their callers ask services of them in
any order, of which any may fail.  What is kept by each dealing with the connection, and by
connecting and disconnecting, is kept by all of them; it needs to be shown for these only.

A dealing is confined to the connection of its handle, and the database keeps this handle until it
is disconnected.
-/

namespace Database

variable {α σ : Type} {database : Database} {handle : Handle}

/-! ## What is known between services -/

/-- What is known of the state between services. -/
structure Regular (database : Database) (gateway : Gateway α) : Prop where
  sound : gateway.Sound
  numbered : gateway.driver.Numbered
  known : forall handle, (gateway.entry database.entry).handle = some handle ->
    gateway.driver.Knows handle.connection

section Regular

variable {before after : Gateway α}

theorem Regular.beside (regular : database.Regular before)
    (beside : database.Beside before after) : database.Regular after where
  sound := beside.sound regular.sound
  numbered := beside.numbered regular.numbered
  known handle held := by
    cases earlier : (before.entry database.entry).handle with
    | none =>
        rw [beside.unconnected earlier] at held
        cases held
    | some holding =>
        rcases (beside.apart holding earlier).1 with ⟨row, stillHeld⟩
        cases stillHeld.symm.trans held
        exact (regular.known holding earlier).onward beside.onward regular.numbered
          (beside.numbered regular.numbered)

theorem Connects.regular (connects : database.Connects handle before after)
    (unconnected : (before.entry database.entry).handle = none)
    (regular : database.Regular before) : database.Regular after := by
  rcases connects.driver with ⟨options, answered⟩
  have opened := handle.adapter.openConnection_numbered
    (before.entry database.entry).params options regular.numbered
  have opens := handle.adapter.openConnection_opens (before.entry database.entry).params options
    before.driver
  rw [Operation.after_of_ok answered] at opened
  rw [Operation.after_of_ok answered, Operation.outcome_of_ok answered] at opens
  refine ⟨regular.sound.undisturbed (connects.opened.steady unconnected).toUndisturbed, opened,
    fun held found => ?_⟩
  cases connects.held.symm.trans found
  rcases opens.2 handle.connection rfl with ⟨number, same, -, known⟩
  intro other equal
  cases same.symm.trans equal
  exact known

/-- The transactions of a connection that was just opened are at depth zero. -/
theorem Connects.depth (connects : database.Connects handle before after)
    (sound : before.Sound) : database.depth after = 0 := by
  have level : after.level database.tracker handle.id = .idle := by
    rw [connects.opened.level]
    exact sound.idle_of_made connects.opened.handleId database.tracker
  have depth : database.depth after = ((after.tracker database.tracker).level handle.id).depth :=
    depth_of_connected connects.held
  exact depth.trans (congrArg Transaction.Level.depth level)

/-! ## What a dealing does to the driver and to the entry -/

/-- The entry of a database keeps its parameters, and a handle that it holds, but for its row. -/
structure Retains (database : Database) (handle : Handle) (before after : Gateway α) : Prop where
  holds : before.Holds database.entry handle -> after.Holds database.entry handle
  params : (after.entry database.entry).params = (before.entry database.entry).params

instance (database : Database) (handle : Handle) :
    IsPreorder (Gateway α) (database.Retains handle) where
  refl _ := ⟨id, rfl⟩
  trans _ _ _ first second :=
    ⟨second.holds ∘ first.holds, second.params.trans first.params⟩

theorem runStatement_ofDriver {relation : Native.Driver → Native.Driver → Prop}
    [IsPreorder Native.Driver relation] {sql : String} {parameters : List Value}
    (executes : (Adapter.execute handle.connection sql parameters).Respects relation)
    (concludes : forall inTransaction,
      (handle.adapter.afterExecute handle.connection inTransaction).Respects relation) :
    (database.runStatement handle sql parameters : Operation (Gateway α) Native.Cursor).Respects
      (OfDriver relation) := by
  have remembers (row : Value) : (database.rememberRow handle row :
      Operation (Gateway α) Unit).Respects (OfDriver relation) :=
    Gateway.modify_ofDriver fun _ => rfl
  exact .atBoundary _ _ <|
    .bind (Gateway.onDriver_ofDriver executes) fun cursor => .bind (remembers _) fun _ =>
    .bind (.bind .get fun _ => .pure _) fun inTransaction =>
    .bind (Gateway.onDriver_ofDriver (concludes inTransaction)) fun _ => .pure _

theorem runStatement_retains (sql : String) (parameters : List Value) :
    (database.runStatement handle sql parameters : Operation (Gateway α) Native.Cursor).Respects
      (database.Retains handle) := by
  have lifts {β : Type} (operation : Operation Native.Driver β) :
      (Gateway.onDriver operation : Operation (Gateway α) β).Respects (database.Retains handle) :=
    .withinIgnored fun _ _ => ⟨id, rfl⟩
  have remembers (row : Value) : (database.rememberRow handle row :
      Operation (Gateway α) Unit).Respects (database.Retains handle) := by
    intro gateway
    constructor
    · intro holds
      rcases holds with ⟨earlier, held⟩
      exact rememberRow_handle held handle row
    · have changed (change : Entry α → Entry α) :
          ((Gateway.changeEntry database.entry change).after gateway).entry database.entry =
            change (gateway.entry database.entry) :=
        (Gateway.entry_setEntry gateway _ _ _).trans (if_pos rfl)
      unfold rememberRow
      rw [changed]
      split
      · split <;> rfl
      · rfl
  exact .atBoundary _ _ <|
    .bind (lifts _) fun cursor => .bind (remembers _) fun _ =>
    .bind (.bind .get fun _ => .pure _) fun inTransaction =>
    .bind (lifts _) fun _ => .pure _

section Dealing

variable (holds : before.Holds database.entry handle) (deals : database.Deals handle before after)
include holds deals

/-- A dealing does with the driver what its native calls do. -/
theorem Deals.ofDriver {relation : Native.Driver → Native.Driver → Prop}
    [IsPreorder Native.Driver relation]
    (executes : forall sql parameters,
      (Adapter.execute handle.connection sql parameters).Respects relation)
    (concludes : forall inTransaction,
      (handle.adapter.afterExecute handle.connection inTransaction).Respects relation)
    (readies : forall sql, (handle.adapter.prepareNatively handle.connection sql).Respects relation)
    (transacts : forall call, (handle.adapter.transact handle.connection call).Respects relation) :
    relation before.driver after.driver := by
  rcases holds with ⟨row, held⟩
  cases deals with
  | states sql parameters =>
      exact runStatement_ofDriver (executes sql parameters) concludes before
  | readies sql =>
      rw [Gateway.onDriver, Operation.after_within]
      exact readies sql before.driver
  | acts action =>
      have given := Gateway.connect_of_connected held
      rcases perform_driver given action with ⟨undone, done⟩
      cases made : database.deed? action before with
      | none =>
          rw [undone made]
          exact refl_of relation before.driver
      | some deed =>
          rw [(done deed made).2.2]
          exact transacts deed.call before.driver

omit deals in
/-- A statement stays at its depth. -/
theorem runStatement_depth (sql : String) (parameters : List Value) :
    database.depth ((database.runStatement handle sql parameters).after before) =
      database.depth before := by
  rcases id holds with ⟨row, held⟩
  rcases (runStatement_retains sql parameters before).holds holds with ⟨later, stillHeld⟩
  rw [depth_of_connected held, depth_of_connected stillHeld,
    (runStatement_steady database handle sql parameters before).tracker]

/-- Every dealing is confined to the connection of the handle. -/
theorem Deals.confined : before.driver.Confined handle.connection after.driver :=
  deals.ofDriver holds Adapter.execute_confined
    (Adapter.afterExecute_confined handle.adapter)
    (Adapter.prepareNatively_confined handle.adapter handle.connection)
    (Adapter.transact_confined handle.adapter)

theorem Deals.onward : before.driver.Onward after.driver :=
  deals.ofDriver holds (Adapter.execute_onward handle.connection)
    (Adapter.afterExecute_onward handle.adapter handle.connection)
    (Adapter.prepareNatively_onward handle.adapter handle.connection)
    (Adapter.transact_onward handle.adapter handle.connection)

omit holds in
theorem Deals.sound (sound : before.Sound) : after.Sound := by
  cases deals with
  | states sql parameters =>
      exact sound.undisturbed (runStatement_steady database handle sql parameters
        before).toUndisturbed
  | readies sql =>
      exact sound.undisturbed (Gateway.onDriver_untouched _ before).steady.toUndisturbed
  | acts action => exact sound.perform action database

/-- A dealing leaves the handle. -/
theorem Deals.retains : database.Retains handle before after := by
  rcases id holds with ⟨row, held⟩
  cases deals with
  | states sql parameters => exact runStatement_retains sql parameters before
  | readies sql =>
      rw [Gateway.onDriver, Operation.after_within]
      exact ⟨id, rfl⟩
  | acts action =>
      rcases perform_step (Gateway.connect_of_connected held) action with ⟨fault, performed⟩
      refine ⟨fun holds => perform_holds holds action, ?_⟩
      rw [performed.moved.entry]

theorem Deals.stillHolds : after.Holds database.entry handle :=
  (deals.retains holds).holds holds

theorem Deals.regular (regular : database.Regular before) : database.Regular after := by
  rcases id holds with ⟨row, held⟩
  have confined := deals.confined holds
  have known := regular.known _ held
  refine ⟨deals.sound regular.sound, regular.numbered.confined known confined, ?_⟩
  intro current found
  rcases deals.stillHolds holds with ⟨later, stillHeld⟩
  cases stillHeld.symm.trans found
  exact known.confined confined

end Dealing

theorem Once.stillHolds (holds : before.Holds database.entry handle)
    (once : database.Once handle before after) : after.Holds database.entry handle := by
  rcases once with ⟨middle, dealt, first, rfl | deals, last⟩
  · exact last.holds (first.holds holds)
  · exact last.holds (deals.stillHolds (first.holds holds))

/-! ## What a disconnection does -/

section Disconnecting

variable (holds : before.Holds database.entry handle)
include holds

theorem disconnect_driver : (database.disconnect.after before).driver =
    (Native.close handle.connection).after before.driver := by
  rcases holds with ⟨row, held⟩
  exact (Gateway.disconnect_closed held database.tracker).driver

theorem disconnect_entry : (database.disconnect.after before).entry database.entry =
    { before.entry database.entry with handle := none } := by
  rcases holds with ⟨row, held⟩
  exact ((Gateway.disconnect_closed held database.tracker).entry database.entry).trans (if_pos rfl)

theorem Regular.disconnect (regular : database.Regular before) :
    database.Regular (database.disconnect.after before) := by
  have driver := disconnect_driver holds
  have entry := disconnect_entry holds
  rcases holds with ⟨row, held⟩
  refine ⟨regular.sound.disconnect database.entry (some database.tracker), ?_, ?_⟩
  · rw [driver]
    exact regular.numbered.confined (regular.known _ held) (Native.close_confined _)
  · intro current found
    rw [entry] at found
    cases found

end Disconnecting

end Regular

/-! ## What an action does to the driver and to the depth -/

/-- A movement without a native call stays outside of transactions or inside of one.  A native call
begins at depth zero, or it ends the transaction at depth one. -/
theorem depth_of_movement {action : Action} {nestable : Bool} {id : Nat} {fault : Option Fault}
    {level moved : Transaction.Level} {call : Option Transaction.NativeCall} {ok : Bool}
    (movement : Transaction.Movement id (action.step nestable id fault) level call ok moved) :
    (call = none ∧ (moved.depth = 0 <-> level.depth = 0)) ∨
    (call = some .begin ∧ level.depth = 0 ∧ moved.depth = if ok then 1 else 0) ∨
    (exists ending, call = some ending ∧ ending ≠ .begin ∧ level.depth = 1 ∧ moved.depth = 0) := by
  have inside {first second : Nat} : first + 1 = 0 <-> second + 1 = 0 :=
    iff_of_false (Nat.succ_ne_zero first) (Nat.succ_ne_zero second)
  cases action with
  | begin =>
      cases movement with
      | elsewhere _ _ other => exact absurd rfl other
      | beginFailed => exact Or.inr (Or.inl ⟨rfl, rfl, rfl⟩)
      | began => exact Or.inr (Or.inl ⟨rfl, rfl, rfl⟩)
      | entered => exact Or.inl ⟨rfl, inside⟩
      | notNestable => exact Or.inl ⟨rfl, inside⟩
  | commit =>
      cases movement with
      | elsewhere _ _ other => exact absurd rfl other
      | nothingToCommit => exact Or.inl ⟨rfl, Iff.rfl⟩
      | kept => exact Or.inl ⟨rfl, inside⟩
      | committed _ doomed =>
          refine Or.inr (Or.inr ⟨_, rfl, ?_, rfl, rfl⟩)
          cases doomed <;> exact nofun
  | rollback =>
      cases movement with
      | elsewhere _ _ other => exact absurd rfl other
      | nothingToRollBack => exact Or.inl ⟨rfl, Iff.rfl⟩
      | undone => exact Or.inl ⟨rfl, inside⟩
      | rolledBack => exact Or.inr (Or.inr ⟨_, rfl, nofun, rfl, rfl⟩)

/-- What an action of a connected database did: nothing with the driver, or a native call that its
depth follows. -/
inductive Acted (database : Database) (handle : Handle) (before after : Gateway α) : Prop where
  | quietly (driver : after.driver = before.driver)
      (depth : database.depth after = 0 <-> database.depth before = 0)
  | began (outside : database.depth before = 0)
      (driver : after.driver = (handle.adapter.transact handle.connection .begin).after
        before.driver)
      (depth : database.depth after =
        if ((handle.adapter.transact handle.connection .begin).outcome before.driver).isOk
        then 1 else 0)
  | ended (call : Transaction.NativeCall) (ends : call ≠ .begin)
      (last : database.depth before = 1)
      (driver : after.driver = (handle.adapter.transact handle.connection call).after
        before.driver)
      (depth : database.depth after = 0)

theorem perform_acted {before : Gateway α} (holds : before.Holds database.entry handle)
    (action : Action) :
    ((action.perform database).after before).Holds database.entry handle ∧
      database.Acted handle before ((action.perform database).after before) := by
  rcases perform_holds holds action with ⟨later, stillHeld⟩
  rcases holds with ⟨row, held⟩
  have given := Gateway.connect_of_connected held
  rcases perform_step given action with ⟨fault, performed⟩
  rcases performed.movement with ⟨call, ok, movement, isOk, deed⟩
  rcases perform_driver given action with ⟨quiet, called⟩
  have ways := depth_of_movement movement
  have depthBefore : database.depth before =
      ((before.tracker database.tracker).level handle.id).depth :=
    depth_of_connected held
  have depthAfter : database.depth ((action.perform database).after before) =
      ((((action.perform database).after before).tracker database.tracker).level
        handle.id).depth :=
    depth_of_connected stillHeld
  rw [← depthBefore, ← depthAfter] at ways
  refine ⟨⟨later, stillHeld⟩, ?_⟩
  rcases ways with ⟨rfl, same⟩ | ⟨rfl, outside, begun⟩ | ⟨ending, rfl, ends, last, left⟩
  · exact .quietly (quiet deed) same
  · rcases called _ deed with ⟨-, succeeded, driver⟩
    refine .began outside driver ?_
    rw [begun]
    exact congrArg (if · = true then 1 else 0) succeeded
  · rcases called _ deed with ⟨-, -, driver⟩
    exact .ended ending ends last driver left

/-! ## What services keep -/

theorem perform_disconnect {runner : HookRunner α σ} (session : Session α σ) :
    ((Service.disconnect.perform runner database).after session).gateway =
      database.disconnect.after session.gateway :=
  Session.gateway_library _ session

/-- What is kept beside the connection, by connecting, by every dealing and by disconnecting, every
service keeps. -/
theorem perform_preserves {kept : Gateway α → Prop} {runner : HookRunner α σ}
    (hooks : forall name phase callback sql,
      (runner name phase callback sql).Respects database.SessionBeside)
    (besides : forall before after, kept before -> database.Beside before after -> kept after)
    (connects : forall handle before after, kept before ->
      (before.entry database.entry).handle = none -> database.Connects handle before after ->
      kept after)
    (deals : forall handle before after, kept before -> before.Holds database.entry handle ->
      database.Deals handle before after -> kept after)
    (closes : forall handle before, kept before -> before.Holds database.entry handle ->
      kept (database.disconnect.after before))
    {session : Session α σ} (start : kept session.gateway) (service : Service) :
    kept ((service.perform runner database).after session).gateway := by
  have keepsOnce {handle : Handle} {before after : Gateway α} (start : kept before)
      (holds : before.Holds database.entry handle) (once : database.Once handle before after) :
      kept after := by
    rcases once with ⟨middle, dealt, first, dealing, last⟩
    have reached := besides _ _ start first
    rcases dealing with rfl | dealing
    · exact besides _ _ reached last
    · exact besides _ _ (deals handle _ _ reached (first.holds holds) dealing) last
  cases held : (session.gateway.entry database.entry).handle with
  | some handle =>
      by_cases stays : service = .disconnect
      · rw [stays, perform_disconnect]
        exact closes handle _ start ⟨handle.lastRowId, held⟩
      · exact keepsOnce start ⟨handle.lastRowId, held⟩
          (perform_once hooks ⟨handle.lastRowId, held⟩ stays)
  | none =>
      rcases perform_opensFirst hooks held service with
        beside | ⟨middle, handle, opened, first, opens, once⟩
      · exact besides _ _ start beside
      · have opening := connects handle _ _ (besides _ _ start first) (first.unconnected held) opens
        exact keepsOnce opening opens.holds once

/-- The session after services of databases that share an entry and a tracker, of which any may
fail.  Each service comes with the registry of its database. -/
def serveAll (runner : HookRunner α σ) (database : Database) (services : List (Scope × Service))
    (session : Session α σ) : Session α σ :=
  services.foldl (fun session service =>
    (service.2.perform runner { database with registry := service.1 }).after session) session

/-- Which registry a database has does not matter to its connection. -/
theorem Beside.withRegistry {before after : Gateway α} (beside : database.Beside before after)
    (registry : Scope) : ({ database with registry := registry } : Database).Beside before after :=
  ⟨beside.apart, beside.unconnected, beside.params, beside.sound, beside.onward, beside.numbered⟩

theorem Regular.withRegistry {gateway : Gateway α} (regular : database.Regular gateway)
    (registry : Scope) : ({ database with registry := registry } : Database).Regular gateway :=
  ⟨regular.sound, regular.numbered, regular.known⟩

theorem hooks_withRegistry {runner : HookRunner α σ}
    (hooks : forall name phase callback sql,
      (runner name phase callback sql).Respects database.SessionBeside) (registry : Scope) :
    forall name phase callback sql, (runner name phase callback sql).Respects
      ({ database with registry := registry } : Database).SessionBeside :=
  fun name phase callback sql session =>
    Beside.withRegistry (hooks name phase callback sql session) registry

/-- What every service keeps, every run keeps, whatever the registries of its databases. -/
theorem serveAll_preserves {kept : Database → Gateway α → Prop} {runner : HookRunner α σ}
    (hooks : forall name phase callback sql,
      (runner name phase callback sql).Respects database.SessionBeside)
    (withRegistry : forall database gateway registry, kept database gateway ->
      kept { database with registry := registry } gateway)
    (keeps : forall (database : Database) (session : Session α σ) (service : Service),
      (forall name phase callback sql,
        (runner name phase callback sql).Respects database.SessionBeside) ->
      kept database session.gateway ->
      kept database ((service.perform runner database).after session).gateway)
    (services : List (Scope × Service)) {session : Session α σ}
    (start : kept database session.gateway) :
    kept database (serveAll runner database services session).gateway := by
  induction services generalizing session with
  | nil => exact start
  | cons service services inductionHypothesis =>
      let other : Database := { database with registry := service.1 }
      have served := keeps other session service.2 (hooks_withRegistry hooks service.1)
        (withRegistry database session.gateway service.1 start)
      exact inductionHypothesis (withRegistry other _ database.registry served)

/-! ## Before the first service -/

/-- A session whose only entry is a database that is not connected yet. -/
def unopened (params : ConnectionParams) (driver : Native.Driver) : Session Unit Unit :=
  ⟨(Gateway.addEntry (.ofParams params true)).after (.ofDriver driver), ()⟩

theorem unopened_handle (params : ConnectionParams) (driver : Native.Driver) (id : Nat) :
    ((unopened params driver).gateway.entry id).handle = none :=
  (congrArg Entry.handle (Gateway.entry_setEntry (.ofDriver driver) 0 id _)).trans
    (by split <;> rfl)

theorem unopened_sound (params : ConnectionParams) (driver : Native.Driver) :
    (unopened params driver).gateway.Sound where
  fresh _ _ _ := rfl
  unmarked _ _ _ := rfl
  counted id handle held := by cases (unopened_handle params driver id).symm.trans held

end Database
end SqlGateway
