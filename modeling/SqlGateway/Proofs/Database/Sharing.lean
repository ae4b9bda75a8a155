import SqlGateway.Proofs.Gateway.Custody
import SqlGateway.Proofs.Session.Quiet

namespace SqlGateway

/-!
# Databases that share a tracker

Several databases can use one registry and one tracker, and several of them one entry.  Their
callers take turns: they make databases, connect, query, begin, commit, roll back and
disconnect, in any order, and any native call can fail.  One turn does only what can be done
through one entry, so what is known of a turn is known of every run of turns by induction.

No hooks are registered here: what a hook does is not done through the entry that it is
registered on.
-/

namespace Session

variable {α σ β : Type}

/-- What is done through one entry, for the sessions around the states. -/
def Through (tracker : Scope) (entry : Nat) (before after : Session α σ) : Prop :=
  Gateway.Through tracker entry before.gateway after.gateway

/-- The use of a handle, for the sessions around the states. -/
def Serves (tracker : Scope) (entry : Nat) (handle : Handle) (before after : Session α σ) : Prop :=
  Gateway.Serves tracker entry handle before.gateway after.gateway

instance (tracker : Scope) (entry : Nat) : IsPreorder (Session α σ) (Through tracker entry) where
  refl session := refl_of (Gateway.Through tracker entry) session.gateway
  trans _ _ _ first second := trans_of (Gateway.Through tracker entry) first second

instance (tracker : Scope) (entry : Nat) (handle : Handle) :
    IsPreorder (Session α σ) (Serves tracker entry handle) where
  refl session := refl_of (Gateway.Serves tracker entry handle) session.gateway
  trans _ _ _ first second := trans_of (Gateway.Serves tracker entry handle) first second

theorem library_through {tracker : Scope} {entry : Nat} {operation : Operation (Gateway α) β}
    (through : operation.Respects (Gateway.Through tracker entry)) :
    (library operation : Operation (Session α σ) β).Respects (Through tracker entry) :=
  Operation.Respects.within through fun _ _ done => done

theorem library_serves {tracker : Scope} {entry : Nat} {handle : Handle}
    {operation : Operation (Gateway α) β}
    (serves : operation.Respects (Gateway.Serves tracker entry handle)) :
    (library operation : Operation (Session α σ) β).Respects (Serves tracker entry handle) :=
  Operation.Respects.within serves fun _ _ done => done

end Session

namespace Database

variable {α σ : Type} {tracker : Scope}

open Session (library)

/-! ## Queries -/

section Serving

variable {entry : Nat} {handle : Handle}

theorem write_serves (level : Logging.Level) (part message : String)
    (fields : Option (List (String × Value))) :
    (Gateway.write level part message fields : Operation (Gateway α) Unit).Respects
      (Gateway.Serves tracker entry handle) :=
  .modify fun gateway holds unhooked => ⟨holds, unhooked, fun _ _ => rfl, rfl, rfl,
    fun _ _ => rfl, refl_of (Native.Driver.Confined _) gateway.driver⟩

theorem onDriver_serves {β : Type} {operation : Operation Native.Driver β}
    (confined : operation.Respects (Native.Driver.Confined handle.connection)) :
    (Gateway.onDriver operation : Operation (Gateway α) β).Respects
      (Gateway.Serves tracker entry handle) :=
  .within confined fun _ _ confined holds unhooked =>
    ⟨holds, unhooked, fun _ _ => rfl, rfl, rfl, fun _ _ => rfl, confined⟩

/-- What the driver said of a row goes to the handle that the row was inserted with. -/
theorem rememberRow_serves (database : Database) (lastRowId : Value) :
    (database.rememberRow handle lastRowId : Operation (Gateway α) Unit).Respects
      (Gateway.Serves tracker database.entry handle) := by
  refine .modify fun gateway holds unhooked => ?_
  rcases holds with ⟨row, held⟩
  have made := Gateway.mem_keys_of_held held
  simp only [held, if_pos]
  refine ⟨⟨lastRowId, ?_⟩, ?_, fun other different => ?_, ?_, rfl, fun _ _ => rfl,
    refl_of (Native.Driver.Confined _) gateway.driver⟩
  · rw [Gateway.entry_setEntry, if_pos rfl]
  · rw [Gateway.entry_setEntry, if_pos rfl]
    exact unhooked
  · rw [Gateway.entry_setEntry, if_neg different]
  · exact (Dictionary.keys_put _ _ _).trans (if_pos made)

theorem runStatement_serves (database : Database) (sql : String) (parameters : List Value) :
    (database.runStatement handle sql parameters : Operation (Gateway α) Native.Cursor).Respects
      (Gateway.Serves tracker database.entry handle) :=
  .atBoundary _ _ <|
    .bind (onDriver_serves (Adapter.execute_confined sql parameters)) fun _ =>
    .bind (rememberRow_serves database _) fun _ =>
    .bind (.bind .get fun _ => .pure _) fun _ =>
    .bind (onDriver_serves (Adapter.afterExecute_confined _ _)) fun _ => .pure _

end Serving

/-- A database holds the handle that it is given. -/
theorem holds_of_handle {database : Database} {gateway : Gateway α} {handle : Handle}
    (given : database.handle.outcome gateway = .ok handle) :
    (database.handle.after gateway).Holds database.entry handle := by
  have gives : Gateway.connect database.entry gateway =
      .ok handle (database.handle.after gateway) := Operation.run_of_ok given
  exact ⟨handle.lastRowId, (Gateway.connect_ok gives).1⟩

/-- Between giving a handle and the result of the query, the handle is used. -/
theorem execute_through (runner : HookRunner α σ) (database : Database) (query : ParsedQuery)
    (values : List Value) :
    (database.execute runner query values).Respects (Session.Through tracker database.entry) := by
  refine .bindGiven (Session.library_through (Gateway.connect_through _ _))
    fun session handle given orderly => ?_
  rw [Session.outcome_library] at given
  have holds := holds_of_handle given
  rw [← Session.gateway_library] at holds
  refine Gateway.Served.doneThrough ?_ holds orderly
  refine (?_ : Operation.Respects (Session.Serves tracker database.entry handle) _) _ holds
    (orderly.unhooked database.entry)
  refine .bind (.ofExcept _) fun parameters => .bindGiven ?_ fun session entry read => ?_
  · exact Session.library_serves (.bind .get fun _ => .pure _)
  · intro holds unhooked
    have silent : entry.hooks = [] := by
      rw [Session.outcome_library] at read
      cases read
      exact unhooked
    refine (?_ : Operation.Respects (Session.Serves tracker database.entry handle) _) _ holds
      unhooked
    rw [silent]
    refine .bind (.pure ()) fun _ => ?_
    refine .bind (Session.library_serves (write_serves _ _ _ _)) fun _ => ?_
    refine .bind (Session.library_serves (runStatement_serves database _ _)) fun _ => ?_
    refine .bind (.pure ()) fun _ => ?_
    exact .pure _

theorem query_through (runner : HookRunner α σ) (database : Database) (template : String)
    (values : List Value) :
    (database.query runner template values).Respects (Session.Through tracker database.entry) := by
  refine .bind (Session.library_through ?_) fun query =>
    execute_through runner database query values
  refine .bind (.bind .get fun _ => .pure _) fun entry gateway => ?_
  refine Gateway.through_of_untouched (Gateway.compile_untouched _ _ _ gateway) ?_
  rw [Gateway.compile_driver]
  exact refl_of Native.Driver.OpensMore gateway.driver

/-! ## Transactions -/

/-- An action uses the handle of its database and moves the level of no other. -/
theorem perform_through (action : Action) (database : Database) :
    (action.perform database : Operation (Gateway α) Unit).Respects
      (Gateway.Through database.tracker database.entry) := by
  intro gateway orderly
  have connects := Gateway.connect_through database.tracker database.entry gateway orderly
  cases given : database.handle gateway with
  | error fault left =>
      have reached : (Gateway.connect database.entry).after gateway = left :=
        Operation.after_of_error given
      rw [Operation.after, (perform_of_unconnected given action).1]
      exact reached ▸ connects
  | ok handle connected =>
      have reached : (Gateway.connect database.entry).after gateway = connected :=
        Operation.after_of_ok given
      rw [reached] at connects
      have held := (Gateway.connect_ok given).1
      rcases perform_step given action with ⟨fault, performed⟩
      rcases perform_driver given action with ⟨undone, done⟩
      refine connects.trans (Gateway.Served.doneThrough ?_ ⟨handle.lastRowId, held⟩
        connects.orderly)
      refine ⟨⟨handle.lastRowId, ?_⟩, ?_, fun other _ => performed.moved.entry other, ?_,
        performed.moved.handleCount, fun id different => ?_, ?_⟩
      · rw [performed.moved.entry]
        exact held
      · rw [performed.moved.entry]
        exact connects.orderly.unhooked database.entry
      · rw [performed.moved.entries]
      · unfold Gateway.level
        rw [performed.moved.tracker, if_pos rfl]
        exact (Transaction.Tracker.step_elsewhere _ _ id
          (by rw [Action.id_step]; exact different.symm)).2
      · cases made : database.deed? action gateway with
        | none =>
            rw [undone made]
            exact refl_of (Native.Driver.Confined _) connected.driver
        | some deed =>
            rw [(done deed made).2.2]
            exact handle.adapter.transact_confined deed.call connected.driver

/-! ## Making databases -/

section Making

variable {entry : Nat}

/-- A change beside entries, trackers and driver. -/
theorem modify_through {change : Gateway α → Gateway α}
    (untouched : forall gateway, Gateway.Untouched gateway (change gateway))
    (driver : forall gateway, (change gateway).driver = gateway.driver) :
    (modify change : Operation (Gateway α) Unit).Respects (Gateway.Through tracker entry) := by
  refine .modify fun gateway => Gateway.through_of_untouched (untouched gateway) ?_
  rw [driver]
  exact refl_of Native.Driver.OpensMore gateway.driver

theorem configuredEntry_through (nestable : Bool) :
    (configuredEntry nestable : Operation (Gateway α) Nat).Respects
      (Gateway.Through tracker entry) :=
  .bind .get fun _ => .bind (.ofExcept _) fun _ => Gateway.addEntry_through _ _ rfl rfl

theorem sharedEntry_through (registry : Scope) :
    (sharedEntry registry : Operation (Gateway α) Nat).Respects
      (Gateway.Through tracker entry) := by
  refine .bind .get fun _ => ?_
  refine .bind (.ofExcept _) fun fingerprint => ?_
  refine .bind (.bind .get fun _ => .pure _) fun found => ?_
  split
  · exact .pure _
  · exact .bind (configuredEntry_through true) fun id =>
      .bind (modify_through (fun _ => ⟨rfl, rfl, rfl⟩) fun _ => rfl) fun _ => .pure _

/-- Making a database may make an entry; no handle changes. -/
theorem ofRequest_through (request : Request) (registry trackerOf : Scope) :
    (ofRequest request registry trackerOf : Operation (Gateway α) Database).Respects
      (Gateway.Through tracker entry) := by
  unfold ofRequest
  split
  · exact .throw _
  · simp only
    split
    · exact .bind (.ofExcept _) fun params =>
        .bind (Gateway.addEntry_through _ _ rfl rfl) fun _ => .pure _
    · split
      · exact .bind (configuredEntry_through true) fun _ => .pure _
      · exact .bind (sharedEntry_through registry) fun _ => .pure _

theorem nonNestable_through :
    (nonNestable : Operation (Gateway α) Database).Respects (Gateway.Through tracker entry) := by
  refine .bind .get fun gateway => ?_
  split
  · exact .pure _
  · exact .bind (configuredEntry_through false) fun id =>
      .bind (modify_through (fun _ => ⟨rfl, rfl, rfl⟩) fun _ => rfl) fun _ => .pure _

end Making

end Database

/-! ## Turns -/

/-- What a caller does in one turn.  All databases have the same registry and the same tracker,
so a database is known by its entry. -/
inductive Turn where
  | configure (config : Option Config)
  | make (request : Database.Request)
  /-- Ask for the database that rejects nested transactions. -/
  | makeUnnested
  | connect (entry : Nat)
  | query (entry : Nat) (template : String) (values : List Value)
  | act (action : Action) (entry : Nat)
  | disconnect (entry : Nat)

namespace Turn

variable {α σ : Type}

open Session (library)

/-- The entry that a turn goes through, if it goes through one. -/
def entry? : Turn → Option Nat
  | .configure _ | .make _ | .makeUnnested => none
  | .connect entry | .query entry _ _ | .act _ entry | .disconnect entry => some entry

def take (runner : HookRunner α σ) (registry tracker : Scope) : Turn → Operation (Session α σ) Unit
  | .configure config => library (Gateway.setConfig config)
  | .make request => do
    let _ ← library (Database.ofRequest request registry tracker)
  | .makeUnnested => do
    let _ ← library Database.nonNestable
  | .connect entry => do
    let _ ← library (Gateway.connect entry)
  | .query entry template values => do
    let _ ← Database.query runner ⟨entry, registry, tracker⟩ template values
  | .act action entry => library (action.perform ⟨entry, registry, tracker⟩)
  | .disconnect entry => library (Database.disconnect ⟨entry, registry, tracker⟩)

/-- The session after turns, whatever came of each of them. -/
def takeAll (runner : HookRunner α σ) (registry tracker : Scope) (turns : List Turn)
    (session : Session α σ) : Session α σ :=
  turns.foldl (fun session turn => (turn.take runner registry tracker).after session) session

variable (runner : HookRunner α σ) (registry tracker : Scope)

/-- A turn does only what can be done through its entry, or through any if it has none. -/
theorem take_through (turn : Turn) {entry : Nat}
    (own : forall other, turn.entry? = some other -> other = entry) :
    (turn.take runner registry tracker).Respects (Session.Through tracker entry) := by
  cases turn with
  | configure config =>
      exact Session.library_through
        (Database.modify_through (fun _ => ⟨rfl, rfl, rfl⟩) fun _ => rfl)
  | make request =>
      exact .bind (Session.library_through (Database.ofRequest_through request registry tracker))
        fun _ => .pure _
  | makeUnnested =>
      exact .bind (Session.library_through Database.nonNestable_through) fun _ => .pure _
  | connect through =>
      cases own through rfl
      exact .bind (Session.library_through (Gateway.connect_through tracker entry))
        fun _ => .pure _
  | query through template values =>
      cases own through rfl
      exact .bind (Database.query_through runner ⟨entry, registry, tracker⟩ template values)
        fun _ => .pure _
  | act action through =>
      cases own through rfl
      exact Session.library_through (Database.perform_through action ⟨entry, registry, tracker⟩)
  | disconnect through =>
      cases own through rfl
      exact Session.library_through (Gateway.disconnect_through tracker entry)

/-- Every run of turns continues an orderly state. -/
theorem takeAll_continued (turns : List Turn) {session : Session α σ}
    (orderly : session.gateway.Orderly tracker) :
    session.gateway.Continued tracker (takeAll runner registry tracker turns session).gateway := by
  induction turns generalizing session with
  | nil => exact .refl orderly
  | cons turn rest inductionHypothesis =>
      have taken : session.gateway.DoneThrough tracker (turn.entry?.getD 0)
          ((turn.take runner registry tracker).after session).gateway :=
        turn.take_through runner registry tracker
          (fun other goes => by rw [goes, Option.getD_some]) session orderly
      exact taken.toContinued.trans (inductionHypothesis taken.orderly)

end Turn

/-! ## Custody -/

/-- The entries of a session have the handles in custody: what the tracker knows belongs to one
of them, and it stays with it whatever turns are taken. -/
structure Session.Custody {α σ : Type} (runner : HookRunner α σ) (registry tracker : Scope)
    (session : Session α σ) : Prop where
  /-- A depth or a mark belongs to a handle that an entry holds. -/
  attached : forall id,
    0 < (session.gateway.tracker tracker).depth id ∨
      (session.gateway.tracker tracker).isDoomed id = true ->
    exists entry handle, (session.gateway.entry entry).handle = some handle ∧ handle.id = id
  /-- Whatever turns are taken, the id of a handle is given to no other handle. -/
  unique : forall turns entry handle other later,
    (session.gateway.entry entry).handle = some handle ->
    ((Turn.takeAll runner registry tracker turns session).gateway.entry other).handle =
      some later ->
    later.id = handle.id ->
    other = entry ∧ later.connection = handle.connection ∧ later.adapter = handle.adapter
  /-- A disconnected entry has no handle, even if the driver does not close the connection. -/
  unconnected : forall entry,
    ((((Turn.disconnect entry).take runner registry tracker).after session).gateway.entry
      entry).handle = none
  /-- The connection of an entry that is disconnected is closed, and that is the last call that
  is ever made on it. -/
  closed : forall entry handle, (session.gateway.entry entry).handle = some handle ->
    exists left failure,
      ((Turn.disconnect entry).take runner registry tracker).after session = left ∧
      left.gateway.driver.events =
        session.gateway.driver.events ++ [⟨.close handle.connection, failure⟩] ∧
      forall turns,
        (Turn.takeAll runner registry tracker turns left).gateway.driver.recordOf
          handle.connection = left.gateway.driver.recordOf handle.connection
  /-- A new handle has no depth and no mark, so that a transaction is begun natively. -/
  fresh : forall entry handle, (session.gateway.entry entry).handle = none ->
    (Gateway.connect entry).outcome session.gateway = .ok handle ->
    (((Gateway.connect entry).after session.gateway).tracker tracker).depth handle.id = 0 ∧
    (((Gateway.connect entry).after session.gateway).tracker tracker).isDoomed handle.id = false ∧
    exists succeeded, Database.deed? ⟨entry, registry, tracker⟩ .begin session.gateway =
      some ⟨handle.id, .begin, succeeded⟩
  /-- A turn through another entry changes neither the handle of an entry nor its level. -/
  apart : forall (turn : Turn) entry handle, turn.entry? ≠ some entry ->
    (session.gateway.entry entry).handle = some handle ->
    exists left, (turn.take runner registry tracker).after session = left ∧
      (left.gateway.entry entry).handle = some handle ∧
      (left.gateway.tracker tracker).depth handle.id =
        (session.gateway.tracker tracker).depth handle.id ∧
      (left.gateway.tracker tracker).isDoomed handle.id =
        (session.gateway.tracker tracker).isDoomed handle.id

namespace Session

variable {α σ : Type} {runner : HookRunner α σ} {registry tracker : Scope}
variable {session : Session α σ} (orderly : session.gateway.Orderly tracker)
include orderly

theorem unique_of_orderly {turns : List Turn} {entry other : Nat} {handle later : Handle}
    (held : (session.gateway.entry entry).handle = some handle)
    (laterHeld : ((Turn.takeAll runner registry tracker turns session).gateway.entry
      other).handle = some later)
    (same : later.id = handle.id) :
    other = entry ∧ later.connection = handle.connection ∧ later.adapter = handle.adapter := by
  rcases (Turn.takeAll_continued runner registry tracker turns orderly).handles other later
    laterHeld with ⟨earlier, earlierHeld, id, connection, adapter⟩ | ⟨made, -⟩
  · have here : other = entry :=
      orderly.distinct other entry earlier handle earlierHeld held (Or.inl (id.symm.trans same))
    rw [here, held] at earlierHeld
    cases earlierHeld
    exact ⟨here, connection, adapter⟩
  · have counted := orderly.counted entry handle held
    rw [same] at made
    exact absurd counted (Nat.not_le.mpr made)

omit orderly in
theorem unconnected_of_turn (entry : Nat) :
    ((((Turn.disconnect entry).take runner registry tracker).after session).gateway.entry
      entry).handle = none := by
  change ((((library (Gateway.disconnect entry (some tracker))).after session :
    Session α σ).gateway).entry entry).handle = none
  rw [gateway_library]
  cases held : (session.gateway.entry entry).handle with
  | none =>
      rw [Operation.after, Gateway.disconnect_eq, held]
      exact held
  | some handle =>
      rw [(Gateway.disconnect_closed held tracker).entry, if_pos rfl]

theorem closed_of_orderly {entry : Nat} {handle : Handle}
    (held : (session.gateway.entry entry).handle = some handle) :
    exists left failure,
      ((Turn.disconnect entry).take runner registry tracker).after session = left ∧
      left.gateway.driver.events =
        session.gateway.driver.events ++ [⟨.close handle.connection, failure⟩] ∧
      forall turns,
        (Turn.takeAll runner registry tracker turns left).gateway.driver.recordOf
          handle.connection = left.gateway.driver.recordOf handle.connection := by
  let left := ((Turn.disconnect entry).take runner registry tracker).after session
  have gateway : left.gateway = (Gateway.disconnect entry (some tracker)).after session.gateway :=
    gateway_library (Gateway.disconnect entry (some tracker)) session
  have closed := Gateway.disconnect_closed held tracker
  have done := Gateway.disconnect_through tracker entry session.gateway orderly
  rw [← gateway] at closed done
  rcases orderly.opened entry handle held with ⟨number, same, known⟩
  refine ⟨left, (session.gateway.driver.nextFailure .close).1, rfl, ?_, fun turns => ?_⟩
  · rw [closed.driver, Native.close, Native.callAt_after, Native.finish_events,
      Native.events_nextFailure]
  · rw [same]
    refine (Turn.takeAll_continued runner registry tracker turns done.orderly).retired number
      (Nat.le_trans known done.connections) fun holder current found equal => ?_
    by_cases here : holder = entry
    · rw [here, closed.entry, if_pos rfl] at found
      cases found
    · rw [closed.entry, if_neg here] at found
      exact here (orderly.distinct holder entry current handle found held
        (Or.inr (equal.trans same.symm)))

theorem fresh_of_orderly {entry : Nat} {handle : Handle}
    (unconnected : (session.gateway.entry entry).handle = none)
    (outcome : (Gateway.connect entry).outcome session.gateway = .ok handle) :
    ((Gateway.connect entry).after session.gateway).level tracker handle.id = .idle ∧
    exists succeeded, Database.deed? ⟨entry, registry, tracker⟩ .begin session.gateway =
      some ⟨handle.id, .begin, succeeded⟩ := by
  let database : Database := ⟨entry, registry, tracker⟩
  let connected := (Gateway.connect entry).after session.gateway
  have gives : Gateway.connect entry session.gateway = .ok handle connected :=
    Operation.run_of_ok outcome
  have made : handle.id = session.gateway.handleCount + 1 := by
    rcases (Gateway.connect_ok gives).2 with held | ⟨-, made⟩
    · rw [unconnected] at held
      cases held
    · exact made
  have unknown : session.gateway.level tracker handle.id = .idle := by
    refine Decidable.byContradiction fun active => ?_
    rcases orderly.attached handle.id active with ⟨holder, current, held, same⟩
    have counted := orderly.counted holder current held
    rw [same, made] at counted
    exact Nat.not_succ_le_self _ counted
  have idle : connected.level tracker handle.id = .idle := by
    rw [Gateway.level, (Gateway.connect_steady entry session.gateway).tracker]
    exact unknown
  refine ⟨idle, ?_⟩
  have ground : (connected.tracker tracker).depth handle.id = 0 :=
    congrArg Transaction.Level.depth idle
  refine ⟨(Database.nativeFault? handle .begin connected.driver).isNone, ?_⟩
  have given : database.handle session.gateway = .ok handle connected := gives
  rw [Database.deed?_of_handle given .begin]
  simp only [Action.plan, Transaction.Tracker.begin, database, ground, Option.map_some]

theorem apart_of_orderly {turn : Turn} {entry : Nat} {handle : Handle}
    (other : turn.entry? ≠ some entry)
    (held : (session.gateway.entry entry).handle = some handle) :
    ((((turn.take runner registry tracker).after session).gateway.entry entry).handle =
      some handle) ∧
    (((turn.take runner registry tracker).after session).gateway.level tracker handle.id =
      session.gateway.level tracker handle.id) := by
  -- A turn through no entry may be taken as one through an entry that is not this one.
  have different : turn.entry?.getD (entry + 1) ≠ entry := by
    cases goes : turn.entry? with
    | none => exact Nat.succ_ne_self entry
    | some through => exact fun same => other (goes.trans (congrArg some same))
  have through : (turn.take runner registry tracker).Respects
      (Session.Through tracker (turn.entry?.getD (entry + 1))) :=
    turn.take_through runner registry tracker
      fun through goes => by rw [goes, Option.getD_some]
  have done := through session orderly
  exact ⟨(done.others entry different.symm).trans held,
    done.levels entry handle different.symm held⟩

theorem custody_of_orderly : session.Custody runner registry tracker where
  attached id known := by
    refine orderly.attached id fun idle => ?_
    have depth : (session.gateway.tracker tracker).depth id = 0 :=
      congrArg Transaction.Level.depth idle
    have unmarked : (session.gateway.tracker tracker).isDoomed id = false :=
      congrArg Transaction.Level.isDoomed idle
    rcases known with active | marked
    · exact absurd depth (Nat.ne_of_gt active)
    · rw [unmarked] at marked
      cases marked
  unique _ _ _ _ _ held laterHeld same := unique_of_orderly orderly held laterHeld same
  unconnected := unconnected_of_turn
  closed _ _ held := closed_of_orderly orderly held
  fresh _ _ unconnected given := by
    rcases fresh_of_orderly orderly unconnected given with ⟨idle, begins⟩
    exact ⟨congrArg Transaction.Level.depth idle, congrArg Transaction.Level.isDoomed idle,
      begins⟩
  apart _ _ _ other held := by
    rcases apart_of_orderly orderly other held with ⟨kept, level⟩
    exact ⟨_, rfl, kept, congrArg Transaction.Level.depth level,
      congrArg Transaction.Level.isDoomed level⟩

end Session

/-- Databases that share a registry and a tracker, whatever turns their callers take from the
start on and whatever fails, have their handles in custody. -/
theorem Turn.takeAll_custody {α σ : Type} (runner : HookRunner α σ) (registry tracker : Scope)
    (driver : Native.Driver) (caller : σ) (turns : List Turn) :
    (Turn.takeAll runner registry tracker turns ⟨.ofDriver driver, caller⟩).Custody runner
      registry tracker :=
  Session.custody_of_orderly
    (Turn.takeAll_continued runner registry tracker turns
      (Gateway.orderly_ofDriver tracker driver)).orderly

/-- A transaction is abandoned on a connection that cannot even be closed.  The next one begins on
a new handle, at the first level. -/
example :
    let lost : Fault := .foreign .driver (some "lost") none
    let driver : Native.Driver := .ofScript [] [(.close, [some lost])] [] (.int 0)
    let memory : Database.Request :=
      { fields := { dbms := .text "sqlite", database := .text ":memory:" } }
    let session := Turn.takeAll (Session.idleHooks : HookRunner Unit Unit) .shared .shared
      [.make memory, .act .begin 0, .disconnect 0, .act .begin 0] ⟨.ofDriver driver, ()⟩
    (session.gateway.entry 0).handle.map Handle.id = some 2 ∧
      session.gateway.level .shared 1 = .idle ∧
      session.gateway.level .shared 2 = ⟨1, false⟩ := by
  decide

end SqlGateway
