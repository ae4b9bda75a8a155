import SqlGateway.Database
import SqlGateway.Proofs.Gateway.Steady
import SqlGateway.Proofs.Transaction.Level

namespace SqlGateway

/-!
# Transactions of a database are steps of its tracker

A database begins, commits and rolls back on the handle of its entry.  What the driver does
in the native call decides how the step ends, so the step of the tracker is known only in the
state in which it is taken.  `Database.perform_step` says that there is such a step for
every action in every state: the outcome, the native call and the tracker afterwards are
those of the step, and nothing else that concerns transactions or connections changes.

A native call is recorded as a deed: on which connection it was made and whether it succeeded.
-/

/-- A native call on a connection, with its success. -/
structure Deed where
  id : Nat
  call : Transaction.NativeCall
  succeeded : Bool
deriving DecidableEq, Repr

/-- What a caller can do about the transaction of a database. -/
inductive Action where
  | begin
  | commit
  | rollback
deriving DecidableEq, Repr

namespace Action

open Transaction (Plan Step)

/-- What a tracker plans for an action. -/
def plan (action : Action) (nestable : Bool) (tracker : Tracker) (id : Nat) : Except Fault Plan :=
  match action with
  | .begin => tracker.begin id nestable
  | .commit => tracker.commit id
  | .rollback => tracker.rollback id

/-- The step of a tracker for an action whose native call may fail. -/
def step (action : Action) (nestable : Bool) (id : Nat) (fault : Option Fault) : Step :=
  match action with
  | .begin => .begin id nestable fault
  | .commit => .commit id fault
  | .rollback => .rollback id fault

def perform {α : Type} (action : Action) (database : Database) : Operation (Gateway α) Unit :=
  match action with
  | .begin => database.begin
  | .commit => database.commit
  | .rollback => database.rollback

theorem id_step (action : Action) (nestable : Bool) (id : Nat) (fault : Option Fault) :
    (action.step nestable id fault).id = id := by
  cases action <;> rfl

theorem step_eq (action : Action) (nestable : Bool) (tracker : Tracker) (id : Nat)
    (fault : Option Fault) :
    tracker.step (action.step nestable id fault) =
      Transaction.attempt tracker id (action.plan nestable tracker id) fault := by
  cases action <;> rfl

theorem perform_eq {α : Type} (action : Action) (database : Database) (gateway : Gateway α) :
    action.perform database gateway =
      database.move (action.plan (gateway.entry database.entry).nestable) gateway := by
  cases action <;> rfl

end Action

namespace Transaction

/-- The native call of a step as a deed. -/
def StepAnswer.deed? (answer : StepAnswer) : Option Deed :=
  answer.call.map fun call => ⟨call.1, call.2, answer.succeeded⟩

theorem StepAnswer.isOk_outcome (answer : StepAnswer) :
    (answer.outcome.map fun _ => ()).isOk = answer.succeeded := by
  unfold succeeded
  cases answer.outcome <;> rfl

theorem carryOut_deed? (id : Nat) (plan : Plan) (fault : Option Fault) :
    (carryOut id plan fault).1.deed? =
      ((carryOut id plan fault).1.callOn id).map
        (⟨id, ·, (carryOut id plan fault).1.succeeded⟩) := by
  rw [carryOut_callOn, if_pos rfl]
  cases called : plan.call <;> cases fault <;> simp only [carryOut, called] <;> rfl

/-- The native call of an operation is made on its own connection. -/
theorem attempt_deed? (tracker : Tracker) (id : Nat) (plan : Except Fault Plan)
    (fault : Option Fault) :
    (attempt tracker id plan fault).1.deed? =
      ((attempt tracker id plan fault).1.callOn id).map
        (⟨id, ·, (attempt tracker id plan fault).1.succeeded⟩) := by
  cases plan with
  | error refused => rfl
  | ok plan => exact carryOut_deed? id plan fault

end Transaction

namespace Database

variable {α : Type}

open Transaction (NativeCall Plan)

/-- The fault of a native call on a handle, if it fails. -/
def nativeFault? (handle : Handle) (call : NativeCall) (driver : Native.Driver) : Option Fault :=
  match (handle.adapter.transact handle.connection call).outcome driver with
  | .ok _ => none
  | .error fault => some fault

/-- The native call that an action makes in a state, if it makes one. -/
def deed? (database : Database) (action : Action) (gateway : Gateway α) : Option Deed :=
  match database.handle gateway with
  | .error _ _ => none
  | .ok handle connected =>
    match action.plan (gateway.entry database.entry).nestable
        (connected.tracker database.tracker) handle.id with
    | .error _ => none
    | .ok plan =>
      plan.call.map fun call =>
        ⟨handle.id, call, (nativeFault? handle call connected.driver).isNone⟩

/-- Between two states the tracker of a database was replaced and no connection changed. -/
structure Moved (database : Database) (tracker : Tracker) (before after : Gateway α) : Prop where
  tracker : forall scope,
    after.tracker scope = if scope = database.tracker then tracker else before.tracker scope
  entries : after.entries = before.entries
  handleCount : after.handleCount = before.handleCount

namespace Moved

variable {database : Database} {tracker : Tracker} {before after : Gateway α}

theorem refl (gateway : Gateway α) :
    database.Moved (gateway.tracker database.tracker) gateway gateway where
  tracker scope := by
    split
    · rename_i same
      rw [same]
    · rfl
  entries := rfl
  handleCount := rfl

theorem entry (moved : database.Moved tracker before after) (id : Nat) :
    after.entry id = before.entry id := by
  unfold Gateway.entry
  rw [moved.entries]

/-- A change that touches nothing, before a tracker is replaced. -/
theorem of_untouched {middle : Gateway α} (untouched : Gateway.Untouched before middle)
    (moved : database.Moved tracker middle after) : database.Moved tracker before after where
  tracker scope := by rw [moved.tracker, untouched.tracker]
  entries := moved.entries.trans untouched.entries
  handleCount := moved.handleCount.trans untouched.handleCount

/-- A change that touches nothing, after a tracker was replaced. -/
theorem untouched_after {middle : Gateway α} (moved : database.Moved tracker before middle)
    (untouched : Gateway.Untouched middle after) : database.Moved tracker before after where
  tracker scope := by rw [untouched.tracker, moved.tracker]
  entries := untouched.entries.trans moved.entries
  handleCount := untouched.handleCount.trans moved.handleCount

/-- Only the last of two replacements counts. -/
theorem trans {earlier : Tracker} {middle : Gateway α}
    (first : database.Moved earlier before middle) (second : database.Moved tracker middle after) :
    database.Moved tracker before after where
  tracker scope := by
    rw [second.tracker, first.tracker]
    split <;> rfl
  entries := second.entries.trans first.entries
  handleCount := second.handleCount.trans first.handleCount

end Moved

theorem setTracker_moved (database : Database) (tracker : Tracker) (gateway : Gateway α) :
    database.Moved tracker gateway (gateway.setTracker database.tracker tracker) where
  tracker scope := Gateway.tracker_setTracker gateway _ scope tracker
  entries := rfl
  handleCount := rfl

theorem writeNotice_untouched (message : Option String) :
    (writeNotice message : Operation (Gateway α) Unit).Respects Gateway.Untouched := by
  cases message with
  | none => exact .pure ()
  | some message => exact Gateway.write_untouched _ _ _ _

theorem writeNotice_eq (message : Option String) (gateway : Gateway α) :
    writeNotice message gateway = .ok () ((writeNotice message).after gateway) := by
  cases message <;> rfl

theorem writeNotice_driver (message : Option String) (gateway : Gateway α) :
    ((writeNotice message).after gateway).driver = gateway.driver := by
  cases message <;> rfl

theorem callNative_outcome (handle : Handle) (call : NativeCall) (gateway : Gateway α) :
    (callNative handle call).outcome gateway =
      ((handle.adapter.transact handle.connection call).outcome gateway.driver).mapError
        (Transaction.callFault call) := by
  unfold callNative Operation.atBoundary
  rw [Operation.outcome_mapFault, Gateway.onDriver, Operation.outcome_within]
  rfl

theorem callNative_driver (handle : Handle) (call : NativeCall) (gateway : Gateway α) :
    ((callNative handle call).after gateway).driver =
      (handle.adapter.transact handle.connection call).after gateway.driver := by
  unfold callNative Operation.atBoundary
  rw [Operation.after_mapFault, Gateway.onDriver, Operation.after_within]

theorem callNative_untouched (handle : Handle) (call : NativeCall) :
    (callNative handle call : Operation (Gateway α) Unit).Respects Gateway.Untouched :=
  .atBoundary _ _ (Gateway.onDriver_untouched _)

/-- The last part of a plan that succeeds. -/
theorem conclude_eq (database : Database) (plan : Plan) (gateway : Gateway α) :
    exists left,
      (do database.setTracker plan.succeeded; writeNotice plan.confirmation) gateway =
        .ok () left ∧
      database.Moved plan.succeeded gateway left ∧ left.driver = gateway.driver := by
  let moved := gateway.setTracker database.tracker plan.succeeded
  refine ⟨(writeNotice plan.confirmation).after moved, writeNotice_eq plan.confirmation moved,
    ?_, writeNotice_driver plan.confirmation moved⟩
  exact (setTracker_moved database plan.succeeded gateway).untouched_after
    (writeNotice_untouched plan.confirmation moved)

theorem carryOut_of_quiet (database : Database) (handle : Handle) {plan : Plan}
    (quiet : plan.call = none) (gateway : Gateway α) :
    exists left, database.carryOut handle plan gateway = .ok () left ∧
      database.Moved plan.succeeded gateway left ∧ left.driver = gateway.driver := by
  let noticed := (writeNotice plan.announcement).after gateway
  have sameDriver : noticed.driver = gateway.driver := writeNotice_driver _ _
  rcases conclude_eq database plan noticed with ⟨left, concludes, moved, driver⟩
  refine ⟨left, ?_, .of_untouched (writeNotice_untouched plan.announcement gateway) moved,
    driver.trans sameDriver⟩
  unfold carryOut
  rw [quiet, Operation.bind_eq, Operation.outcome, writeNotice_eq]
  exact concludes

theorem carryOut_of_call (database : Database) (handle : Handle) {plan : Plan} {call : NativeCall}
    (calls : plan.call = some call) (gateway : Gateway α) :
    exists left, database.carryOut handle plan gateway =
        Operation.result
          (((handle.adapter.transact handle.connection call).outcome gateway.driver).mapError
            (Transaction.callFault call)) left ∧
      database.Moved
        (if (nativeFault? handle call gateway.driver).isNone then plan.succeeded else plan.failed)
        gateway left ∧
      left.driver = (handle.adapter.transact handle.connection call).after gateway.driver := by
  let noticed := (writeNotice plan.announcement).after gateway
  let failing := noticed.setTracker database.tracker plan.failed
  let called := (callNative handle call).after failing
  have sameDriver : failing.driver = gateway.driver := writeNotice_driver _ _
  have settled : database.Moved plan.failed gateway failing :=
    .of_untouched (writeNotice_untouched plan.announcement gateway)
      (setTracker_moved database plan.failed noticed)
  have moved : database.Moved plan.failed gateway called :=
    settled.untouched_after (callNative_untouched handle call failing)
  have calledDriver : called.driver =
      (handle.adapter.transact handle.connection call).after gateway.driver := by
    rw [← sameDriver]
    exact callNative_driver handle call failing
  have unfolded : database.carryOut handle plan gateway =
      (callNative handle call >>= fun _ => do
        database.setTracker plan.succeeded
        writeNotice plan.confirmation) failing := by
    unfold carryOut
    rw [calls, Operation.bind_eq, Operation.outcome, writeNotice_eq]
    rfl
  rw [unfolded, Operation.bind_eq, callNative_outcome, sameDriver]
  unfold nativeFault?
  cases (handle.adapter.transact handle.connection call).outcome gateway.driver with
  | error fault => exact ⟨called, rfl, moved, calledDriver⟩
  | ok value =>
      rcases conclude_eq database plan called with ⟨left, concludes, after, driver⟩
      exact ⟨left, concludes, moved.trans after, driver.trans calledDriver⟩

/-! ## An action as a step -/

theorem move_of_handle {database : Database} {gateway connected : Gateway α} {handle : Handle}
    (given : database.handle gateway = .ok handle connected)
    (operation : Tracker → Nat → Except Fault Plan) :
    database.move operation gateway =
      match operation (connected.tracker database.tracker) handle.id with
      | .error fault => .error fault connected
      | .ok plan => database.carryOut handle plan connected := by
  have reached : database.move operation gateway =
      (.ofExcept (operation (connected.tracker database.tracker) handle.id) >>=
        database.carryOut handle) connected := by
    unfold move
    rw [Operation.bind_eq, Operation.outcome, Operation.after, given]
    rfl
  rw [reached, Operation.bind_eq]
  cases operation (connected.tracker database.tracker) handle.id <;> rfl

/-- An action ended as an answered step of the tracker did. -/
structure Performed (database : Database) (action : Action) (before connected : Gateway α)
    (answered : Transaction.StepAnswer × Tracker) : Prop where
  outcome : (action.perform database).outcome before = answered.1.outcome.map fun _ => ()
  deed : database.deed? action before = answered.1.deed?
  moved : database.Moved answered.2 connected ((action.perform database).after before)

theorem Performed.of_run {database : Database} {action : Action} {before connected left : Gateway α}
    {answered : Transaction.StepAnswer × Tracker}
    (run : action.perform database before =
      Operation.result (answered.1.outcome.map fun _ => ()) left)
    (deed : database.deed? action before = answered.1.deed?)
    (moved : database.Moved answered.2 connected left) :
    database.Performed action before connected answered where
  outcome := Operation.outcome_of_run run
  deed := deed
  moved := by rw [Operation.after_of_run run]; exact moved

section

variable {database : Database} {gateway connected : Gateway α} {handle : Handle}
variable (given : database.handle gateway = .ok handle connected) (action : Action)
include given

theorem perform_of_handle :
    action.perform database gateway =
      match action.plan (gateway.entry database.entry).nestable
          (connected.tracker database.tracker) handle.id with
      | .error fault => .error fault connected
      | .ok plan => database.carryOut handle plan connected :=
  (action.perform_eq database gateway).trans (move_of_handle given _)

theorem deed?_of_handle :
    database.deed? action gateway =
      match action.plan (gateway.entry database.entry).nestable
          (connected.tracker database.tracker) handle.id with
      | .error _ => none
      | .ok plan => plan.call.map fun call =>
          ⟨handle.id, call, (nativeFault? handle call connected.driver).isNone⟩ := by
  unfold deed?
  rw [given]

/-- An action that the tracker refuses changes nothing. -/
theorem performed_of_refused {refused : Fault}
    (planned : action.plan (gateway.entry database.entry).nestable
      (connected.tracker database.tracker) handle.id = .error refused) :
    database.Performed action gateway connected
      (Transaction.attempt (connected.tracker database.tracker) handle.id (.error refused)
        none) := by
  have run := perform_of_handle given action
  have deed := deed?_of_handle given action
  rw [planned] at run deed
  exact .of_run run deed (.refl connected)

/-- An action without a native call succeeds. -/
theorem performed_of_quiet {plan : Plan}
    (planned : action.plan (gateway.entry database.entry).nestable
      (connected.tracker database.tracker) handle.id = .ok plan)
    (quiet : plan.call = none) :
    database.Performed action gateway connected
      (Transaction.attempt (connected.tracker database.tracker) handle.id (.ok plan) none) := by
  have run := perform_of_handle given action
  have deed := deed?_of_handle given action
  rcases carryOut_of_quiet database handle quiet connected with ⟨left, quietly, moved, -⟩
  rw [planned] at run deed
  simp only [quietly] at run
  simp only [quiet, Option.map_none] at deed
  simp only [Transaction.attempt, Transaction.carryOut, quiet]
  exact .of_run run deed moved

/-- An action with a native call ends as the driver ends that call. -/
theorem performed_of_call {plan : Plan} {call : NativeCall}
    (planned : action.plan (gateway.entry database.entry).nestable
      (connected.tracker database.tracker) handle.id = .ok plan)
    (calls : plan.call = some call) :
    database.Performed action gateway connected
      (Transaction.attempt (connected.tracker database.tracker) handle.id (.ok plan)
        (nativeFault? handle call connected.driver)) := by
  have run := perform_of_handle given action
  have deed := deed?_of_handle given action
  rcases carryOut_of_call database handle calls connected with ⟨left, called, moved, -⟩
  rw [planned] at run deed
  simp only [called] at run
  simp only [calls, Option.map_some] at deed
  unfold nativeFault? at moved deed ⊢
  simp only [Transaction.attempt, Transaction.carryOut, calls]
  cases outcome : (handle.adapter.transact handle.connection call).outcome connected.driver with
  | error fault =>
      rw [outcome] at run moved deed
      exact .of_run run deed moved
  | ok value =>
      rw [outcome] at run moved deed
      exact .of_run run deed moved

/-- With a handle, an action is a step of the tracker on that handle. -/
theorem perform_step :
    exists fault, database.Performed action gateway connected
      ((connected.tracker database.tracker).step
        (action.step (gateway.entry database.entry).nestable handle.id fault)) := by
  simp only [Action.step_eq]
  cases planned : action.plan (gateway.entry database.entry).nestable
      (connected.tracker database.tracker) handle.id with
  | error refused => exact ⟨none, performed_of_refused given action planned⟩
  | ok plan =>
      cases calls : plan.call with
      | none => exact ⟨none, performed_of_quiet given action planned calls⟩
      | some call => exact ⟨_, performed_of_call given action planned calls⟩

/-- A deed is what the driver is asked for: its success is the driver's, and the driver is
asked for nothing else. -/
theorem perform_driver :
    (database.deed? action gateway = none ->
      ((action.perform database).after gateway).driver = connected.driver) ∧
    forall deed, database.deed? action gateway = some deed ->
      deed.id = handle.id ∧
      deed.succeeded =
        ((handle.adapter.transact handle.connection deed.call).outcome connected.driver).isOk ∧
      ((action.perform database).after gateway).driver =
        (handle.adapter.transact handle.connection deed.call).after connected.driver := by
  have run := perform_of_handle given action
  rw [deed?_of_handle given action]
  cases planned : action.plan (gateway.entry database.entry).nestable
      (connected.tracker database.tracker) handle.id with
  | error refused =>
      rw [planned] at run
      refine ⟨fun _ => ?_, fun deed made => by cases made⟩
      rw [Operation.after, run]
  | ok plan =>
      rw [planned] at run
      cases calls : plan.call with
      | none =>
          rcases carryOut_of_quiet database handle calls connected with ⟨left, quietly, -, driver⟩
          refine ⟨fun _ => ?_, fun deed made => by simp [calls] at made⟩
          rw [Operation.after, run]
          simp only [quietly]
          exact driver
      | some call =>
          rcases carryOut_of_call database handle calls connected with ⟨left, called, -, driver⟩
          refine ⟨fun unmade => by simp [calls] at unmade, fun deed made => ?_⟩
          simp only [calls, Option.map_some, Option.some.injEq] at made
          subst made
          refine ⟨rfl, ?_, ?_⟩
          · unfold nativeFault?
            cases (handle.adapter.transact handle.connection call).outcome connected.driver <;> rfl
          · rw [Operation.after_of_run (run.trans called)]
            exact driver

end

/-- An action leaves the handle through which a database is connected. -/
theorem perform_holds {database : Database} {handle : Handle} {gateway : Gateway α}
    (holds : gateway.Holds database.entry handle) (action : Action) :
    ((action.perform database).after gateway).Holds database.entry handle := by
  rcases holds with ⟨row, held⟩
  rcases perform_step (Gateway.connect_of_connected held) action with ⟨fault, performed⟩
  refine ⟨row, ?_⟩
  rw [performed.moved.entry]
  exact held

/-- The step of an action moves the level of its connection, and its native call is the deed. -/
theorem Performed.movement {database : Database} {action : Action} {before connected : Gateway α}
    {nestable : Bool} {id : Nat} {fault : Option Fault}
    (performed : database.Performed action before connected
      ((connected.tracker database.tracker).step (action.step nestable id fault))) :
    exists call ok,
      Transaction.Movement id (action.step nestable id fault)
        ((connected.tracker database.tracker).level id) call ok
        ((((action.perform database).after before).tracker database.tracker).level id) ∧
      ((action.perform database).outcome before).isOk = ok ∧
      database.deed? action before = call.map (⟨id, ·, ok⟩) := by
  let answered := (connected.tracker database.tracker).step (action.step nestable id fault)
  have movement := Transaction.Tracker.step_movement (connected.tracker database.tracker)
    (action.step nestable id fault) id
  refine ⟨answered.1.callOn id, answered.1.succeeded, ?_, ?_, ?_⟩
  · rw [performed.moved.tracker, if_pos rfl]
    exact movement
  · rw [performed.outcome]
    exact Transaction.StepAnswer.isOk_outcome _
  · rw [performed.deed]
    simp only [answered, Action.step_eq]
    exact Transaction.attempt_deed? _ _ _ _

/-- Without a handle nothing is done. -/
theorem perform_of_unconnected {database : Database} {gateway left : Gateway α} {fault : Fault}
    (fails : database.handle gateway = .error fault left) (action : Action) :
    action.perform database gateway = .error fault left ∧ database.deed? action gateway = none := by
  refine ⟨?_, ?_⟩
  · rw [Action.perform_eq, move, Operation.bind_eq, Operation.outcome, Operation.after, fails]
  · unfold deed?
    rw [fails]

/-- The driver confirms what is told of an action: once the database is connected, the driver is asked
for the native call of the deed, which succeeds as the deed says, and for nothing if there is no
deed. -/
def Confirms (database : Database) (action : Action) (before : Gateway α) : Prop :=
  let left := (action.perform database).after before
  match database.handle before, database.deed? action before with
  | .error _ unconnected, deed => deed = none ∧ left = unconnected
  | .ok _ connected, none => left.driver = connected.driver
  | .ok handle connected, some deed =>
    let call := handle.adapter.transact handle.connection deed.call
    deed.id = handle.id ∧ deed.succeeded = (call.outcome connected.driver).isOk ∧
      left.driver = call.after connected.driver

theorem perform_confirms (database : Database) (action : Action) (before : Gateway α) :
    database.Confirms action before := by
  unfold Confirms
  cases given : database.handle before with
  | error fault unconnected =>
      rcases perform_of_unconnected given action with ⟨run, undone⟩
      exact ⟨undone, Operation.after_of_error run⟩
  | ok handle connected =>
      rcases perform_driver given action with ⟨quiet, called⟩
      cases made : database.deed? action before with
      | none => exact quiet made
      | some deed => exact called deed made

/-! ## The level of the connection of a database -/

/-- A database is connected through the handle with an id, whose transaction is at a level. -/
structure At (database : Database) (id : Nat) (level : Transaction.Level)
    (gateway : Gateway α) : Prop where
  connected : exists handle, (gateway.entry database.entry).handle = some handle ∧ handle.id = id
  level : (gateway.tracker database.tracker).level id = level

namespace At

variable {database : Database} {id : Nat} {level : Transaction.Level} {before after : Gateway α}

theorem of_steady (held : database.At id level before) (steady : Gateway.Steady before after) :
    database.At id level after := by
  rcases held.connected with ⟨handle, found, same⟩
  rcases steady.holds _ handle ⟨handle.lastRowId, found⟩ with ⟨row, stillFound⟩
  refine ⟨⟨_, stillFound, same⟩, ?_⟩
  rw [steady.tracker]
  exact held.level

theorem depth_eq (held : database.At id level before) : database.depth before = level.depth := by
  rcases held.connected with ⟨handle, found, rfl⟩
  unfold depth
  rw [found, ← held.level]
  rfl

/-- An action moves the level of the connection as its step does; its native call is that of
the step. -/
theorem perform (held : database.At id level before) (action : Action) :
    exists nestable fault call ok changed,
      Transaction.Movement id (action.step nestable id fault) level call ok changed ∧
      database.At id changed ((action.perform database).after before) ∧
      ((action.perform database).outcome before).isOk = ok ∧
      database.deed? action before = call.map (⟨id, ·, ok⟩) := by
  rcases held with ⟨⟨handle, found, rfl⟩, rfl⟩
  rcases perform_step (Gateway.connect_of_connected found) action with ⟨fault, performed⟩
  rcases performed.movement with ⟨call, ok, movement, isOk, deed⟩
  refine ⟨_, fault, call, ok, _, movement, ⟨⟨handle, ?_, rfl⟩, rfl⟩, isOk, deed⟩
  rw [performed.moved.entry]
  exact found

/-- A begin enters a level or fails; only from the ground it makes a native call. -/
theorem begin {depth : Nat} {doomed : Bool} (held : database.At id ⟨depth, doomed⟩ before) :
    database.deed? .begin before =
        (if depth = 0 then some ⟨id, .begin, (database.begin.outcome before).isOk⟩ else none) ∧
      database.At id
        ⟨if (database.begin.outcome before).isOk then depth + 1 else depth, doomed⟩
        (database.begin.after before) := by
  rcases held.perform .begin with
    ⟨nestable, fault, call, ok, changed, movement, after, isOk, deed⟩
  simp only [Action.perform] at after isOk
  rw [isOk, deed]
  cases movement with
  | elsewhere _ _ other => exact absurd rfl other
  | beginFailed => exact ⟨rfl, after⟩
  | began => exact ⟨rfl, after⟩
  | entered => exact ⟨rfl, after⟩
  | notNestable => exact ⟨rfl, after⟩

/-- A commit leaves a level; on the last one its native call follows the mark. -/
theorem commit {depth : Nat} {doomed : Bool} (held : database.At id ⟨depth + 1, doomed⟩ before) :
    (exists ok, database.deed? .commit before =
        if depth = 0 then some ⟨id, if doomed then .rollback else .commit, ok⟩ else none) ∧
      database.At id (if depth = 0 then .idle else ⟨depth, doomed⟩)
        (database.commit.after before) := by
  rcases held.perform .commit with
    ⟨nestable, fault, call, ok, changed, movement, after, isOk, deed⟩
  simp only [Action.perform] at after
  rw [deed]
  cases movement with
  | elsewhere _ _ other => exact absurd rfl other
  | kept => exact ⟨⟨true, rfl⟩, after⟩
  | committed => exact ⟨⟨_, rfl⟩, after⟩

/-- A rollback leaves a level and marks the levels around it, or ends the transaction. -/
theorem rollback {depth : Nat} {doomed : Bool}
    (held : database.At id ⟨depth + 1, doomed⟩ before) :
    (exists ok, database.deed? .rollback before =
        if depth = 0 then some ⟨id, .rollback, ok⟩ else none) ∧
      database.At id (if depth = 0 then .idle else ⟨depth, true⟩)
        (database.rollback.after before) := by
  rcases held.perform .rollback with
    ⟨nestable, fault, call, ok, changed, movement, after, isOk, deed⟩
  simp only [Action.perform] at after
  rw [deed]
  cases movement with
  | elsewhere _ _ other => exact absurd rfl other
  | undone => exact ⟨⟨true, rfl⟩, after⟩
  | rolledBack => exact ⟨⟨_, rfl⟩, after⟩

end At

end Database
end SqlGateway
