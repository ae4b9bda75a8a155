import SqlGateway.Proofs.Database.ServiceRun
import SqlGateway.Proofs.Gateway.FailedConnect

namespace SqlGateway

/-!
# Ending a transaction that was not begun

The tracker refuses to leave a level where there is none, and its refusal changes nothing.  But a
database asks its tracker about a connection, so that it must be connected first.  A database that
is not connected opens a connection only to be told that no transaction is active on it, and if
the connection cannot be opened the caller is told that instead.

That the depth of a database is zero says the same of both: it is not connected, or its tracker
knows of no level.  In a state that programs reach, no tracker knows a handle that is still to be
made, so that a connection that was just opened has no transaction either.
-/

namespace Native

/-- A call that opens a connection, or that makes it ready when it was opened. -/
inductive Event.IsOpening : Event → Prop where
  | serviceName (host port service : Value) (fault : Fault) :
      IsOpening ⟨.serviceName host port service, some fault⟩
  | connect (positional : List Value) (keywords : List (String × Value))
      (failure : Option Fault) : IsOpening ⟨.connect positional keywords, failure⟩
  | setAutocommit (connection : Connection) (on : Bool) (failure : Option Fault) :
      IsOpening ⟨.setAutocommit connection on, failure⟩

end Native

namespace Adapter

open Native (Connection Driver Event)

theorem prepareOpened_adds (adapter : Adapter) (connection : Connection) :
    (adapter.prepareOpened connection).Respects (Driver.Adds Event.IsOpening) := by
  unfold prepareOpened
  split
  · exact .bind (Native.callAt_adds _ (.setAutocommit connection true)) fun _ => .pure _
  · exact .pure _

/-- A connection that was opened was asked for first, with success. -/
theorem openConnection_asks {adapter : Adapter} {params : ConnectionParams}
    {options : List (String × Value)} {connection : Connection} {driver left : Driver}
    (opens : adapter.openConnection params options driver = .ok connection left) :
    exists positional keywords,
      driver.events ++ [⟨.connect positional keywords, none⟩] <+: left.events := by
  cases adapter.openConnection_opening params options driver with
  | unready fault refuses comes => cases opens.symm.trans comes
  | unnamed oracle host port service fault failures comes => cases opens.symm.trans comes
  | refused arguments given fault failures comes => cases opens.symm.trans comes
  | opened arguments given failures comes =>
      let counted := Driver.counting { driver with failures := failures } arguments
      rcases prepareOpened_adds adapter (.opened (driver.connections + 1)) counted with
        ⟨added, same, -⟩
      refine ⟨arguments.positional, arguments.sorted, added, ?_⟩
      rw [Operation.after_of_ok (comes.symm.trans opens)] at same
      exact same.symm

end Adapter

/-- How the tracker calls an action. -/
def Action.word : Action → String
  | .begin => "begin"
  | .commit => "commit"
  | .rollback => "rollback"

/-- No tracker plans to end a transaction that is not there. -/
theorem Action.plan_of_closed {action : Action} (ends : action ≠ .begin) (nestable : Bool)
    {tracker : Tracker} {id : Nat} (closed : tracker.depth id = 0) :
    action.plan nestable tracker id = .error (Transaction.Tracker.notActive action.word) := by
  cases action with
  | begin => exact absurd rfl ends
  | commit =>
      unfold plan Transaction.Tracker.commit
      simp only [closed]
      rfl
  | rollback =>
      unfold plan Transaction.Tracker.rollback
      simp only [closed]
      rfl

namespace Database

variable {α σ : Type} {database : Database}

open Native (Driver Event)

/-- What comes of ending a transaction that is not open, where this is refused for a reason. -/
inductive EndsNothing (database : Database) (reason : Fault) (before : Gateway α) :
    EStateM.Result Fault (Gateway α) Unit → Prop where
  /-- A connected database refuses, and nothing was done. -/
  | refused (connected : (before.entry database.entry).handle.isSome = true) :
      EndsNothing database reason before (.error reason before)
  /-- A database that was not connected refuses after it has been connected. -/
  | refusedLate (handle : Handle) (after : Gateway α)
      (unconnected : (before.entry database.entry).handle = none)
      (opened : Gateway.Opened database.entry handle before after)
      (asked : exists positional keywords,
        before.driver.events ++ [⟨.connect positional keywords, none⟩] <+: after.driver.events) :
      EndsNothing database reason before (.error reason after)
  /-- A database that cannot be connected says why. -/
  | unconnected (fault : Fault) (driver : Driver)
      (unconnected : (before.entry database.entry).handle = none)
      (fails : database.handle before = .error fault { before with driver := driver }) :
      EndsNothing database reason before (.error fault { before with driver := driver })

section Closed

variable {gateway : Gateway α} (sound : gateway.Sound) (closed : database.depth gateway = 0)
include sound closed

/-- No transaction is open on the connection that a database gets. -/
theorem depth_of_given {handle : Handle} {connected : Gateway α}
    (given : database.handle gateway = .ok handle connected) :
    (connected.tracker database.tracker).depth handle.id = 0 := by
  rw [(steady_of_given given).tracker]
  rcases (Gateway.connect_ok given).2 with held | ⟨-, made⟩
  · unfold depth at closed
    rw [held] at closed
    exact closed
  · exact congrArg Transaction.Level.depth (sound.idle_of_made made database.tracker)

/-- To end a transaction that is not open is to ask for the handle and to refuse. -/
theorem perform_of_closed {action : Action} (ends : action ≠ .begin) :
    action.perform database gateway =
      (database.handle >>= fun _ => throw (Transaction.Tracker.notActive action.word))
        gateway := by
  cases given : database.handle gateway with
  | error fault left =>
      rw [(perform_of_unconnected given action).1, Operation.bind_of_error given]
  | ok handle connected =>
      have planned := action.plan_of_closed ends (gateway.entry database.entry).nestable
        (depth_of_given sound closed given)
      rw [perform_of_handle given action, planned, Operation.bind_of_ok given]
      rfl

theorem endsNothing_of_closed {action : Action} (ends : action ≠ .begin) :
    database.EndsNothing (Transaction.Tracker.notActive action.word) gateway
      (action.perform database gateway) := by
  rw [perform_of_closed sound closed ends]
  cases held : (gateway.entry database.entry).handle with
  | some handle =>
      have given : database.handle gateway = .ok handle gateway :=
        Gateway.connect_of_connected held
      rw [Operation.bind_of_ok given]
      exact .refused (by rw [held]; rfl)
  | none =>
      rcases handle_cases held with ⟨fault, left, fails, -⟩ | ⟨handle, after, gives, connects⟩
      · have opening : Gateway.openEntry database.entry (gateway.entry database.entry).params
            gateway = .error fault left :=
          (Gateway.connect_of_unconnected held).symm.trans fails
        rw [Operation.bind_of_error fails]
        rw [(Gateway.openEntry_error opening).1] at fails ⊢
        exact .unconnected fault left.driver held fails
      · rw [Operation.bind_of_ok gives]
        rcases connects.driver with ⟨options, opens⟩
        exact .refusedLate handle after held connects.opened (Adapter.openConnection_asks opens)

end Closed

/-- In every reachable state, ending a transaction that is not open is refused, and nothing is done
at all, if the database is connected.  If it is not, it is connected before this is refused, or it
fails as connecting does.  In any case the trackers stay as they are, and the driver is asked for
nothing but the connection. -/
theorem end_of_closed {session : Session α σ} (reachable : session.Reachable)
    (closed : database.depth session.gateway = 0) {action : Action} (ends : action ≠ .begin) :
    let ended := action.perform database
    database.EndsNothing (Transaction.Tracker.notActive action.word) session.gateway
      (ended session.gateway) ∧
    (forall scope,
      (ended.after session.gateway).tracker scope = session.gateway.tracker scope) ∧
    session.gateway.driver.Adds Event.IsOpening (ended.after session.gateway).driver := by
  have asked : (action.perform database).after session.gateway =
      database.handle.after session.gateway := by
    rw [Operation.after_congr (perform_of_closed reachable.sound closed ends),
      Operation.after_bind]
    cases database.handle.outcome session.gateway <;> rfl
  dsimp only
  rw [asked]
  refine ⟨endsNothing_of_closed reachable.sound closed ends, ?_, ?_⟩
  · exact (Gateway.connect_steady database.entry session.gateway).tracker
  · exact Gateway.connect_adds database.entry (fun _ _ _ _ => .serviceName _ _ _ _)
      (fun _ _ _ => .connect _ _ _)
      (fun _ _ => .setAutocommit _ _ _) session.gateway

/-- A database that was disconnected in a transaction. -/
def cutOff : Session Unit Unit :=
  ((Program.acting .begin memory).andThen fun _ =>
    .disconnect memory.entry (some memory.tracker) fun _ => .done ()).run.after Session.memory

/-- The same database after a query, which has connected it again. -/
def rejoined : Session Unit Unit :=
  (memory.query (Program.runner fun _ _ _ _ => .done ()) "SELECT 1" []).after cutOff

theorem end_of_closed_of_cutOff :
    memory.depth cutOff.gateway = 0 ∧ memory.depth rejoined.gateway = 0 ∧
      memory.EndsNothing (Transaction.Tracker.notActive "commit") cutOff.gateway
        (Action.commit.perform memory cutOff.gateway) ∧
      memory.EndsNothing (Transaction.Tracker.notActive "rollback") rejoined.gateway
        (Action.rollback.perform memory rejoined.gateway) := by
  have reachable : cutOff.Reachable := Session.reachable_memory.after _
  have closed : memory.depth cutOff.gateway = 0 := rfl
  have stillClosed : memory.depth rejoined.gateway = 0 := rfl
  have committed := end_of_closed reachable closed (show Action.commit ≠ .begin from nofun)
  have undone := end_of_closed (reachable.query (fun _ _ _ _ => .done ()) memory "SELECT 1" [])
    stillClosed (show Action.rollback ≠ .begin from nofun)
  exact ⟨closed, stillClosed, committed.1, undone.1⟩

/-- A database was made, and the driver will refuse to connect it. -/
def unreachableServer : Session Unit Unit :=
  unopened Gateway.memoryParams
    (.ofScript [] [(.connect, [some (.foreign .driver (some "refused") none)])] [] (.int 0))

theorem reachable_unopened (params : ConnectionParams) (driver : Driver) :
    (unopened params driver).Reachable :=
  ⟨driver, (), Nat, .doing (Session.library (Gateway.addEntry (.ofParams params true)))
    (.within (Gateway.addEntry_undisturbed params true) fun _ _ lifted => lifted), rfl⟩

/-- The commit calls the driver, and it is not the missing transaction that it reports. -/
theorem commit_connects :
    unreachableServer.Reachable ∧ memory.depth unreachableServer.gateway = 0 ∧
      exists fault left event,
        memory.commit unreachableServer.gateway = .error fault left ∧
        fault.kind = .library .database ∧ left.driver.events = [event] :=
  ⟨reachable_unopened _ _, rfl, _, _, _, rfl, rfl, rfl⟩

end Database
end SqlGateway
