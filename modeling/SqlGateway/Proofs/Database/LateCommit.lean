import SqlGateway.Proofs.Database.Deed
import SqlGateway.Proofs.Native.LateCommit
import SqlGateway.Proofs.Session.Statement

namespace SqlGateway

/-!
# What a Firebird database commits late

A caller runs queries on a database and begins, commits and rolls back its transactions.  When a
native rollback fails, the library has left its transaction already, but the native one is
still active.  The statements here say which uses of the database commit it nevertheless: the
next begin, and every query whose statement succeeds until then.

The invariant is that a native transaction that is to roll back is active, and that the library
is outside of transactions meanwhile.  Every use keeps it, so it holds in all runs, and what
the next use does is known from it.
-/

namespace Database

open Native (isAsked lateCommits)

/-! ## Uses and what holds between them -/

/-- What callers do with a database. -/
inductive Use where
  | query (template : String) (values : List Value)
  | act (action : Action)

def Use.perform {α σ : Type} (runner : HookRunner α σ) (database : Database) :
    Use → Operation (Session α σ) Unit
  | .query template values => do
    let _ ← database.query runner template values
  | .act action => Session.library (action.perform database)

/-- The session after uses of a database, of which any may fail. -/
def performAll {α σ : Type} (runner : HookRunner α σ) (database : Database) (uses : List Use)
    (session : Session α σ) : Session α σ :=
  uses.foldl (fun session use => (use.perform runner database).after session) session

/-- Outside of transactions, a use that commits the native transaction that is active: a begin,
or a query whose statement succeeds. -/
def Use.Settles (added : List Native.Event) : Use → Prop
  | .query _ _ => exists event, event ∈ added ∧ event.isExecution = true
  | .act action => action = .begin

/-- What holds between the uses of a database with a Firebird connection. -/
structure Watched {α : Type} (database : Database) (handle : Handle) (gateway : Gateway α) :
    Prop where
  connected : exists row,
    (gateway.entry database.entry).handle = some { handle with lastRowId := row }
  firebird : handle.adapter = .firebird
  inside : 0 < database.depth gateway -> gateway.driver.isActive handle.connection = true
  asked : gateway.driver.isAsked handle.connection = true ->
    database.depth gateway = 0 ∧ gateway.driver.isActive handle.connection = true

/-- Something was added to the record of a connection, with a late commit exactly if the native
transaction was to roll back and a condition on the additions holds. -/
def CommitsLateIff (connection : Native.Connection) (settles : List Native.Event → Prop)
    (before after : Native.Driver) : Prop :=
  exists added, after.recordOf connection = before.recordOf connection ++ added ∧
    (lateCommits (before.isAsked connection) added ≠ [] <->
      before.isAsked connection = true ∧ settles added)

section Watching

variable {α : Type} {database : Database} {handle : Handle} {before after : Gateway α}

/-- What the driver said of a row does not matter. -/
theorem Watched.withRow (watched : database.Watched handle before) (row : Value) :
    database.Watched { handle with lastRowId := row } before :=
  ⟨watched.connected, watched.firebird, watched.inside, watched.asked⟩

/-- Events after which the native transaction is to roll back as much as before. -/
theorem Watched.extend (watched : database.Watched handle before) (added : List Native.Event)
    (connected : exists row,
      (after.entry database.entry).handle = some { handle with lastRowId := row })
    (depth : database.depth after = database.depth before)
    (record : after.driver.recordOf handle.connection =
      before.driver.recordOf handle.connection ++ added)
    (active : before.driver.isActive handle.connection = true ->
      after.driver.isActive handle.connection = true)
    (calm : isAsked (before.driver.isAsked handle.connection) added =
      before.driver.isAsked handle.connection) : database.Watched handle after where
  connected := connected
  firebird := watched.firebird
  inside positive := active (watched.inside (depth ▸ positive))
  asked asked := by
    rw [Native.isAsked_of_record record, calm] at asked
    exact ⟨depth.trans (watched.asked asked).1, active (watched.asked asked).2⟩

/-- What happens beside the connection keeps the invariant. -/
theorem Watched.of_apart (watched : database.Watched handle before)
    (apart : database.Apart before after) :
    database.Watched handle after ∧
      after.driver.recordOf handle.connection = before.driver.recordOf handle.connection := by
  rcases watched.connected with ⟨row, held⟩
  rcases apart _ held with ⟨stillHeld, depth, record, active⟩
  refine ⟨watched.extend [] stillHeld depth ?_ ?_ rfl, record⟩
  · rw [record, List.append_nil]
  · exact fun known => active.trans known

/-! ## Actions -/

/-- The step of an action makes no native call, or begins at depth zero, or ends the
transaction at depth one. -/
theorem movement_of_action {action : Action} {nestable : Bool} {id : Nat} {fault : Option Fault}
    {level moved : Transaction.Level} {call : Option Transaction.NativeCall} {ok : Bool}
    (movement : Transaction.Movement id (action.step nestable id fault) level call ok moved) :
    (call = none ∧ (0 < moved.depth -> 0 < level.depth) ∧
      (level.depth = 0 -> moved.depth = 0 ∧ action ≠ .begin)) ∨
    (call = some .begin ∧ action = .begin ∧ level.depth = 0 ∧
      moved.depth = if ok then 1 else 0) ∨
    (exists ending, call = some ending ∧ ending ≠ .begin ∧ action ≠ .begin ∧ level.depth = 1 ∧
      moved.depth = 0) := by
  cases action with
  | begin =>
      cases movement with
      | elsewhere _ _ other => exact absurd rfl other
      | beginFailed => exact Or.inr (Or.inl ⟨rfl, rfl, rfl, rfl⟩)
      | began => exact Or.inr (Or.inl ⟨rfl, rfl, rfl, rfl⟩)
      | entered _ depth => exact Or.inl ⟨rfl, fun _ => Nat.succ_pos depth, nofun⟩
      | notNestable _ depth => exact Or.inl ⟨rfl, fun _ => Nat.succ_pos depth, nofun⟩
  | commit =>
      cases movement with
      | elsewhere _ _ other => exact absurd rfl other
      | nothingToCommit => exact Or.inl ⟨rfl, fun open_ => open_, fun _ => ⟨rfl, nofun⟩⟩
      | kept _ depth => exact Or.inl ⟨rfl, fun _ => Nat.succ_pos _, nofun⟩
      | committed _ doomed =>
          refine Or.inr (Or.inr ⟨_, rfl, ?_, nofun, rfl, rfl⟩)
          cases doomed <;> exact nofun
  | rollback =>
      cases movement with
      | elsewhere _ _ other => exact absurd rfl other
      | nothingToRollBack => exact Or.inl ⟨rfl, fun open_ => open_, fun _ => ⟨rfl, nofun⟩⟩
      | undone _ depth => exact Or.inl ⟨rfl, fun _ => Nat.succ_pos _, nofun⟩
      | rolledBack => exact Or.inr (Or.inr ⟨_, rfl, nofun, nofun, rfl, rfl⟩)

section Steps

variable (watched : database.Watched handle before)
  (connected : exists row,
    (after.entry database.entry).handle = some { handle with lastRowId := row })
include watched connected

theorem Watched.of_quiet (sameDriver : after.driver = before.driver)
    (entered : 0 < database.depth after -> 0 < database.depth before)
    (flat : database.depth before = 0 -> database.depth after = 0) :
    database.Watched handle after where
  connected := connected
  firebird := watched.firebird
  inside positive := by
    rw [sameDriver]
    exact watched.inside (entered positive)
  asked asked := by
    rw [sameDriver] at asked ⊢
    exact ⟨flat (watched.asked asked).1, (watched.asked asked).2⟩

/-- A begin at depth zero is where the driver may be asked to commit first. -/
theorem Watched.of_begin {ok : Bool} {settles : List Native.Event → Prop}
    (sameDriver : after.driver =
      (Adapter.firebird.transact handle.connection .begin).after before.driver)
    (succeeded : ok =
      ((Adapter.firebird.transact handle.connection .begin).outcome before.driver).isOk)
    (begun : database.depth after = if ok then 1 else 0) (always : forall added, settles added) :
    database.Watched handle after ∧
      CommitsLateIff handle.connection settles before.driver after.driver := by
  obtain ⟨added, record, late, settled⟩ :=
    Adapter.firebird_begins fun asked => (watched.asked asked).2
  rw [← sameDriver] at record settled
  rw [← Native.isAsked_of_record record, ← succeeded] at settled
  refine ⟨⟨connected, watched.firebird, ?_, ?_⟩, added, record, ?_⟩
  · intro positive
    cases ok with
    | true => exact settled.2
    | false => exact absurd begun (Nat.ne_of_gt positive)
  · intro asked
    cases ok with
    | true => cases settled.1.symm.trans asked
    | false => exact ⟨begun, settled asked⟩
  · rw [late]
    exact (and_iff_left (always added)).symm

/-- Inside a transaction nothing is to roll back yet, so its end is never late. -/
theorem Watched.of_ending {ending : Transaction.NativeCall} {settles : List Native.Event → Prop}
    (ends : ending ≠ .begin)
    (sameDriver : after.driver =
      (Adapter.firebird.transact handle.connection ending).after before.driver)
    (last : database.depth before = 1) (left : database.depth after = 0) :
    database.Watched handle after ∧
      CommitsLateIff handle.connection settles before.driver after.driver := by
  have active := watched.inside (by rw [last]; exact Nat.one_pos)
  have unasked : before.driver.isAsked handle.connection = false := by
    refine Bool.eq_false_iff.mpr fun asked => ?_
    cases last.symm.trans (watched.asked asked).1
  rcases Adapter.firebird_ending_record ends active with ⟨added, record, late, stillActive⟩
  rw [← sameDriver] at record stillActive
  have askedAfter := Native.isAsked_of_record record
  rw [unasked] at askedAfter
  refine ⟨⟨connected, watched.firebird, ?_, ?_⟩, added, record, ?_⟩
  · exact fun positive => absurd left (Nat.ne_of_gt positive)
  · exact fun asked => ⟨left, stillActive (askedAfter.symm.trans asked)⟩
  · simp [unasked, late]

end Steps

/-- An action keeps the invariant.  It commits late exactly if it is a begin while a native
transaction is to roll back. -/
theorem Watched.perform (watched : database.Watched handle before) (action : Action) :
    let after := (action.perform database).after before
    database.Watched handle after ∧
      CommitsLateIff handle.connection (fun _ => action = .begin) before.driver after.driver := by
  intro after
  rcases watched.connected with ⟨row, held⟩
  have given : database.handle before = .ok { handle with lastRowId := row } before :=
    Gateway.connect_of_connected held
  rcases perform_step given action with ⟨fault, performed⟩
  rcases performed.movement with ⟨call, ok, movement, isOk, deed⟩
  rcases perform_driver given action with ⟨quiet, called⟩
  have stillHeld : (after.entry database.entry).handle =
      some { handle with lastRowId := row } := by
    rw [performed.moved.entry]
    exact held
  have ways := movement_of_action movement
  have depthBefore : database.depth before =
      ((before.tracker database.tracker).level handle.id).depth :=
    depth_of_connected held
  have depthAfter : database.depth after =
      ((after.tracker database.tracker).level handle.id).depth :=
    depth_of_connected stillHeld
  rw [← depthBefore, ← depthAfter] at ways
  simp only [watched.firebird] at called
  rcases ways with
    ⟨rfl, entered, flat⟩ | ⟨rfl, rfl, -, begun⟩ | ⟨ending, rfl, ends, -, last, left⟩
  · have sameDriver : after.driver = before.driver := quiet deed
    refine ⟨watched.of_quiet ⟨row, stillHeld⟩ sameDriver entered fun zero => (flat zero).1, [],
      by rw [sameDriver, List.append_nil], fun late => absurd rfl late, fun ⟨asked, begins⟩ => ?_⟩
    exact absurd begins (flat (watched.asked asked).1).2
  · rcases called _ deed with ⟨-, succeeded, sameDriver⟩
    exact watched.of_begin ⟨row, stillHeld⟩ sameDriver succeeded begun fun _ => rfl
  · rcases called _ deed with ⟨-, -, sameDriver⟩
    exact watched.of_ending ⟨row, stillHeld⟩ ends sameDriver last left

/-! ## Queries -/

/-- What is done after a statement outside of transactions commits the native transaction, and
this is late if that is to roll back. -/
theorem Watched.conclude (watched : database.Watched handle before)
    (active : before.driver.isActive handle.connection = true) (cursor : Native.Cursor) :
    let after := (database.conclude handle cursor).after before
    database.Watched handle after ∧
      CommitsLateIff handle.connection (fun _ => True) before.driver after.driver := by
  intro after
  rcases watched.connected with ⟨row, held⟩
  rcases rememberRow_handle held handle cursor.response.lastRowId with ⟨now, stillHeld⟩
  let inTransaction := (before.tracker database.tracker).isActive handle.id
  obtain ⟨stillActive, added, record, calm⟩ :=
    Adapter.firebird_afterExecute_record inTransaction active
  have reached := conclude_after database handle cursor before
  rw [watched.firebird] at reached
  have outside (asked : before.driver.isAsked handle.connection = true) :
      inTransaction = false := by
    have flat := (watched.asked asked).1
    rw [depth_of_connected held] at flat
    exact decide_eq_false (Nat.not_lt.mpr (Nat.le_of_eq flat))
  have sameDepth : database.depth after = database.depth before := by
    unfold after
    rw [reached, depth_of_connected held]
    exact depth_of_connected stillHeld
  unfold after at sameDepth ⊢
  rw [reached] at sameDepth ⊢
  refine ⟨watched.extend added ⟨now, stillHeld⟩ sameDepth record (fun _ => stillActive)
    (calm _).1, added, record, ?_⟩
  rw [(calm _).2]
  exact ⟨fun late => ⟨late.1, trivial⟩, fun late => ⟨late.1, outside late.1⟩⟩

/-- A statement keeps the invariant.  It commits late exactly if it succeeds while a native
transaction is to roll back. -/
theorem Watched.runStatement (watched : database.Watched handle before) (sql : String)
    (parameters : List Value) :
    let after := (database.runStatement handle sql parameters).after before
    database.Watched handle after ∧
      CommitsLateIff handle.connection
        (fun added => exists event, event ∈ added ∧ event.isExecution = true)
        before.driver after.driver := by
  intro after
  rcases watched.connected with ⟨row, held⟩
  have reached := runStatement_after database handle sql parameters before
  rcases Native.execute_cases handle.connection sql parameters before.driver with
    ⟨call, fault, left, fails, attempted, events, active⟩ |
      ⟨cursor, left, succeeds, events, active⟩
  · have sameActive : left.isActive handle.connection =
        before.driver.isActive handle.connection := by
      unfold Native.Driver.isActive
      rw [active]
    simp only [fails] at reached
    simp only [after, reached]
    rcases attempted with rfl | rfl
    · have record := Native.recordOf_of_event rfl events
      refine ⟨watched.extend _ ⟨row, held⟩ rfl record (fun known => sameActive.trans known) rfl, _,
        record, ?_⟩
      simp [lateCommits, Native.Event.isCommit, Native.Event.isExecution]
    · have record := Native.recordOf_of_event rfl events
      refine ⟨watched.extend _ ⟨row, held⟩ rfl record (fun known => sameActive.trans known) rfl, _,
        record, ?_⟩
      simp [lateCommits, Native.Event.isCommit, Native.Event.isExecution]
  · have record := Native.recordOf_of_event rfl events
    let ran : Gateway α := { before with driver := left }
    have ready : database.Watched handle ran :=
      watched.extend _ ⟨row, held⟩ rfl record (fun _ => active) rfl
    have sameAsked : ran.driver.isAsked handle.connection =
        before.driver.isAsked handle.connection :=
      Native.isAsked_of_record record
    rcases ready.conclude active cursor with ⟨still, added, recordAfter, late⟩
    rw [sameAsked] at late
    simp only [succeeds] at reached
    simp only [after, reached]
    let executed : Native.Event :=
      ⟨.execute handle.connection (before.driver.cursors + 1) sql (some parameters), none⟩
    have uncommitted : lateCommits (before.driver.isAsked handle.connection) (executed :: added) =
        lateCommits (before.driver.isAsked handle.connection) added :=
      if_neg (by simp [executed, Native.Event.isCommit])
    refine ⟨still, executed :: added, ?_, ?_⟩
    · rw [recordAfter, record, List.append_assoc]
      rfl
    · rw [uncommitted, late]
      exact and_congr_right fun _ => iff_of_true trivial ⟨executed, List.mem_cons_self, rfl⟩

end Watching

/-! ## Runs -/

section Using

variable {α σ β : Type} {database : Database} {handle : Handle} {session : Session α σ}

/-- An operation that runs at most one statement keeps the invariant.  It commits late exactly
if the statement succeeds while a native transaction is to roll back. -/
theorem Watched.of_runs {operation : Operation (Session α σ) β}
    (watched : database.Watched handle session.gateway) {row : Value}
    (runs : database.RunsAtMostOne { handle with lastRowId := row } operation session) :
    let after := (operation.after session).gateway
    database.Watched handle after ∧
      CommitsLateIff handle.connection
        (fun added => exists event, event ∈ added ∧ event.isExecution = true)
        session.gateway.driver after.driver := by
  intro after
  rcases runs with kept | ⟨sql, parameters, middle, kept, rest⟩
  · rcases watched.of_apart kept with ⟨still, record⟩
    exact ⟨still, [], by rw [record, List.append_nil], by simp [lateCommits]⟩
  · rcases watched.of_apart kept with ⟨ready, recordReady⟩
    rcases (ready.withRow row).runStatement sql parameters with ⟨ran, added, recordRan, late⟩
    rcases ran.of_apart rest with ⟨still, record⟩
    have sameAsked : middle.driver.isAsked handle.connection =
        session.gateway.driver.isAsked handle.connection :=
      congrArg (isAsked false) recordReady
    rw [sameAsked] at late
    exact ⟨still.withRow handle.lastRowId, added, by rw [record, recordRan, recordReady], late⟩

variable {runner : HookRunner α σ}
  (hooks : forall name phase callback sql,
    (runner name phase callback sql).Respects database.SessionApart)
include hooks

/-- A use keeps the invariant.  It commits late exactly if it settles while a native transaction
is to roll back. -/
theorem Watched.use (watched : database.Watched handle session.gateway) (use : Use) :
    let after := ((use.perform runner database).after session).gateway
    database.Watched handle after ∧
      CommitsLateIff handle.connection (fun added => use.Settles added) session.gateway.driver
        after.driver := by
  cases use with
  | query template values =>
      have sameAfter : (Use.perform runner database (.query template values)).after session =
          (database.query runner template values).after session :=
        Operation.after_bind_pure _ _ session
      rcases watched.connected with ⟨row, held⟩
      rcases query_runs hooks held template values with ⟨now, runs⟩
      rw [sameAfter]
      exact watched.of_runs runs
  | act action =>
      simp only [Use.perform, Session.gateway_library]
      exact watched.perform action

theorem Watched.performAll (watched : database.Watched handle session.gateway)
    (uses : List Use) :
    database.Watched handle (performAll runner database uses session).gateway := by
  induction uses generalizing session with
  | nil => exact watched
  | cons use uses inductionHypothesis => exact inductionHypothesis (watched.use hooks use).1

/-- As long as no native rollback has failed, nothing is committed late. -/
theorem Watched.commits_nothing_late (watched : database.Watched handle session.gateway)
    (succeed : forall connection fault, ⟨.rollback connection, some fault⟩ ∉
      session.gateway.driver.recordOf handle.connection) (use : Use) :
    let after := ((use.perform runner database).after session).gateway
    exists added, after.driver.recordOf handle.connection =
        session.gateway.driver.recordOf handle.connection ++ added ∧
      lateCommits (session.gateway.driver.isAsked handle.connection) added = [] := by
  rcases watched.use hooks use with ⟨-, added, record, late⟩
  refine ⟨added, record, ?_⟩
  by_contra committed
  obtain ⟨connection, fault, member⟩ :=
    Native.exists_rollback_of_isAsked (late.mp committed).1
  exact succeed connection fault member

end Using

/-- In every run of queries and actions on a Firebird connection, a use commits a native
transaction that was asked to roll back exactly if it is a begin, or a query whose statement
succeeds. -/
theorem commits_late_iff {α σ : Type} {database : Database} {runner : HookRunner α σ}
    (hooks : forall name phase callback sql,
      (runner name phase callback sql).Respects database.SessionApart)
    {handle : Handle} {session : Session α σ}
    (connected : (session.gateway.entry database.entry).handle = some handle)
    (firebird : handle.adapter = .firebird)
    (inside : 0 < database.depth session.gateway ->
      session.gateway.driver.isActive handle.connection = true)
    (unasked : session.gateway.driver.isAsked handle.connection = false)
    (uses : List Use) (use : Use) :
    let before := performAll runner database uses session
    let after := (use.perform runner database).after before
    exists added,
      after.gateway.driver.recordOf handle.connection =
        before.gateway.driver.recordOf handle.connection ++ added ∧
      (lateCommits (before.gateway.driver.isAsked handle.connection) added ≠ [] <->
        before.gateway.driver.isAsked handle.connection = true ∧ use.Settles added) := by
  have watched : database.Watched handle session.gateway :=
    ⟨⟨handle.lastRowId, connected⟩, firebird, inside,
      fun asked => by cases unasked.symm.trans asked⟩
  exact ((watched.performAll hooks uses).use hooks use).2

/-- A session whose only entry is a Firebird database, which is connected and whose first native
rollback fails. -/
def lossy : Session Unit Unit :=
  let params : ConnectionParams :=
    ⟨.firebird, .text "d", .text "h", none, .text "u", .text "p", []⟩
  let opens : Operation (Gateway Unit) Handle := do
    Gateway.connect (← Gateway.addEntry (.ofParams params true))
  let failures := [(Native.FailPoint.rollback, [some (Fault.foreign .driver (some "lost") none)])]
  ⟨opens.after (.ofDriver (.ofScript [] failures [] (.int 0))), ()⟩

/-- A transaction that is rolled back, although the driver fails to. -/
def abandoned : List Use :=
  [.act .begin, .query "DELETE FROM [t]" [], .act .rollback]

theorem commits_late_iff_of_abandoned :
    let before := performAll Session.idleHooks memory abandoned lossy
    let after := ((Use.query "SELECT 1" []).perform Session.idleHooks memory).after before
    (lossy.gateway.entry memory.entry).handle = some ⟨1, .opened 1, .firebird, .null⟩ ∧
    memory.depth lossy.gateway = 0 ∧ lossy.gateway.driver.isAsked (.opened 1) = false ∧
    before.gateway.driver.isAsked (.opened 1) = true ∧
    exists added,
      after.gateway.driver.recordOf (.opened 1) =
        before.gateway.driver.recordOf (.opened 1) ++ added ∧
      lateCommits true added ≠ [] := by
  intro before after
  have asked : before.gateway.driver.isAsked (.opened 1) = true := rfl
  have connected : (lossy.gateway.entry memory.entry).handle =
      some ⟨1, .opened 1, .firebird, .null⟩ :=
    rfl
  have hooks : forall name phase callback sql, (Session.idleHooks name phase callback sql :
      Operation (Session Unit Unit) Unit).Respects memory.SessionApart :=
    fun _ _ _ _ => .pure ()
  obtain ⟨added, record, late⟩ := commits_late_iff hooks connected rfl
    (fun positive => nomatch positive) rfl abandoned (.query "SELECT 1" [])
  refine ⟨rfl, rfl, rfl, asked, added, record, ?_⟩
  rw [← asked]
  refine late.mpr ⟨asked, ⟨.execute (.opened 1) 2 "SELECT 1" (some []), none⟩, ?_, rfl⟩
  have same : before.gateway.driver.recordOf (.opened 1) ++
      [⟨.execute (.opened 1) 2 "SELECT 1" (some []), none⟩, ⟨.commit (.opened 1) true, none⟩] =
        before.gateway.driver.recordOf (.opened 1) ++ added :=
    record
  rw [← List.append_cancel_left same]
  exact List.mem_cons_self

/-- The statement of a transaction that was rolled back is committed after the next query. -/
theorem commit_of_abandoned :
    let left := performAll Session.idleHooks memory (abandoned ++ [.query "SELECT 1" []]) lossy
    left.gateway.driver.recordOf (.opened 1) =
      [⟨.begin (.opened 1), none⟩,
        ⟨.execute (.opened 1) 1 "DELETE FROM \x22t\x22" (some []), none⟩,
        ⟨.rollback (.opened 1), some (.foreign .driver (some "lost") none)⟩,
        ⟨.execute (.opened 1) 2 "SELECT 1" (some []), none⟩,
        ⟨.commit (.opened 1) true, none⟩] ∧
    lateCommits false (left.gateway.driver.recordOf (.opened 1)) =
      [⟨.commit (.opened 1) true, none⟩] := by
  exact ⟨rfl, rfl⟩

end Database
end SqlGateway
