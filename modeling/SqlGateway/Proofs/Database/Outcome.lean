import SqlGateway.Proofs.Database.Reachable

namespace SqlGateway

/-!
# When a reported commit is a commit

Work in a transaction that reports its failure as a value says that it committed whenever no
failure left it.  The commit at its end, however, may be a native rollback: an inner level
that was rolled back, and whose failure was caught, has marked the transaction.  The report is
also wrong if the work left a level open, or ended the transaction itself.

The main statement gives the exact condition under which the report is true, for every work
of a caller that starts in a state that the library can reach.
-/

namespace Database

variable {α σ : Type}

open Session (library)
open Transaction (Level)

/-- The handle of a database without a transaction is idle in its tracker, also if it is new. -/
theorem idle_of_given {database : Database} {gateway connected : Gateway α} {handle : Handle}
    (sound : gateway.Sound) (flat : database.depth gateway = 0)
    (given : database.handle gateway = .ok handle connected) :
    gateway.level database.tracker handle.id = .idle := by
  rcases (Gateway.connect_ok given).2 with held | ⟨-, fresh⟩
  · unfold depth at flat
    rw [held] at flat
    have unmarked := sound.unmarked database.tracker handle.id flat
    rw [Gateway.level, Transaction.Tracker.level_of_depth _ _ 0 flat]
    exact congrArg (Level.mk 0) unmarked
  · exact sound.idle_of_made fresh database.tracker

/-- A begin that succeeds on a database without a transaction opens a native one. -/
theorem begin_opens {database : Database} {gateway : Gateway α} (sound : gateway.Sound)
    (flat : database.depth gateway = 0) (begins : database.begin.outcome gateway = .ok ()) :
    exists handle,
      ((database.begin.after gateway).entry database.entry).handle = some handle ∧
      (database.begin.after gateway).level database.tracker handle.id = ⟨1, false⟩ ∧
      database.deed? .begin gateway = some ⟨handle.id, .begin, true⟩ := by
  cases given : database.handle gateway with
  | error fault left =>
      have failed := (perform_of_unconnected given .begin).1
      rw [Operation.outcome, show database.begin gateway = _ from failed] at begins
      cases begins
  | ok handle connected =>
      rcases perform_step given .begin with ⟨fault, performed⟩
      rcases performed.movement with ⟨call, ok, movement, isOk, deed⟩
      have idle := idle_of_given sound flat given
      rw [Gateway.level, ← (steady_of_given given).tracker] at idle
      have succeeded : ok = true := by
        rw [← isOk, show (Action.begin.perform database).outcome gateway = _ from begins]
        rfl
      rw [idle, succeeded] at movement
      rcases movement.began_of_idle with ⟨calls, entered⟩
      refine ⟨handle, ?_, entered, ?_⟩
      · have kept := performed.moved.entry database.entry
        exact (congrArg Entry.handle kept).trans (Gateway.connect_ok given).1
      · rw [deed, calls, succeeded]
        rfl

/-- A native commit on a connection with an open transaction leaves its last level, unmarked.
The database is still on that connection, since a new one has no transaction. -/
theorem at_of_commit_deed {database : Database} {gateway : Gateway α} {id : Nat} {ok : Bool}
    (sound : gateway.Sound) (opened : 0 < (gateway.level database.tracker id).depth)
    (made : database.deed? .commit gateway = some ⟨id, .commit, ok⟩) :
    database.At id ⟨1, false⟩ gateway := by
  cases given : database.handle gateway with
  | error fault left =>
      rw [(perform_of_unconnected given .commit).2] at made
      cases made
  | ok handle connected =>
      rcases perform_step given .commit with ⟨fault, performed⟩
      rcases performed.movement with ⟨call, answer, movement, -, deed⟩
      rw [made] at deed
      cases called : call with
      | none =>
          rw [called] at deed
          cases deed
      | some native =>
          rw [called] at deed movement
          cases deed
          have level := movement.level_of_commit
          rw [(steady_of_given given).tracker] at level
          rcases (Gateway.connect_ok given).2 with held | ⟨-, fresh⟩
          · exact ⟨⟨handle, held, rfl⟩, level⟩
          · rw [sound.idle_of_made fresh database.tracker] at opened
            exact absurd opened (Nat.lt_irrefl 0)

/-- A commit that succeeds on the last level, unmarked, is a native commit that succeeds. -/
theorem At.commit_deed {database : Database} {gateway : Gateway α} {id : Nat}
    (held : database.At id ⟨1, false⟩ gateway)
    (commits : database.commit.outcome gateway = .ok ()) :
    database.deed? .commit gateway = some ⟨id, .commit, true⟩ := by
  rcases held.perform .commit with
    ⟨nestable, fault, call, ok, changed, movement, -, isOk, deed⟩
  rw [show (Action.commit.perform database).outcome gateway = _ from commits] at isOk
  rw [deed, ← isOk]
  cases movement with
  | elsewhere _ _ other => exact absurd rfl other
  | committed => rfl

/-- Abandoned work never succeeds. -/
theorem abandon_fails {β : Type} (database : Database) (handlers : Handlers α σ) (fault : Fault)
    (session : Session α σ) (value : β) :
    (database.abandon handlers fault : Operation (Session α σ) β).outcome session ≠ .ok value := by
  intro succeeds
  rcases Operation.ok_of_bind succeeds with ⟨_, undone, -, succeeds⟩
  rcases Operation.ok_of_bind succeeds with ⟨_, told, -, succeeds⟩
  rcases Operation.ok_of_bind succeeds with ⟨replacement, replaced, -, fails⟩
  cases fails

section

variable {database : Database} {handlers : Handlers α σ} {work : Operation (Session α σ) Value}
variable {start : Session α σ}

/-- Work in a transaction that succeeds began, did its work, and left its level. -/
theorem runInTransaction_ok {value : Value}
    (succeeds : (database.runInTransaction handlers work).outcome start = .ok value) :
    exists begun worked,
      (library database.begin : Operation (Session α σ) Unit) start = .ok () begun ∧
      work begun = .ok value worked ∧
      database.commit.outcome worked.gateway = .ok () := by
  rcases Operation.ok_of_bind succeeds with ⟨_, begun, begins, succeeds⟩
  rw [Operation.outcome_observe_bind] at succeeds
  cases works : work begun with
  | error fault worked =>
      simp only [Operation.outcome, Operation.after, works] at succeeds
      rcases Operation.ok_of_bind succeeds with ⟨_, noticed, -, succeeds⟩
      exact absurd succeeds (abandon_fails database handlers fault noticed value)
  | ok found worked =>
      simp only [Operation.outcome, Operation.after, works] at succeeds
      rcases Operation.ok_of_bind succeeds with ⟨_, left, commits, gives⟩
      cases gives
      refine ⟨begun, worked, begins, works, ?_⟩
      rw [← Session.outcome_library, Operation.outcome, commits]

/-- A reported commit means that no failure left the transaction. -/
theorem tryInTransaction_ok {outcome : TransactionOutcome} {finish : Session α σ}
    (returned : database.tryInTransaction handlers work start = .ok outcome finish)
    (reported : outcome.committed = true) :
    (database.runInTransaction handlers work).outcome start = .ok outcome.value := by
  unfold tryInTransaction at returned
  rw [Operation.observe_bind] at returned
  cases ran : (database.runInTransaction handlers work).outcome start with
  | ok value =>
      rw [ran] at returned
      cases returned
      rfl
  | error fault =>
      rw [ran] at returned
      simp only at returned
      split at returned
      · cases returned
        cases reported
      · cases returned

end

/-- A transaction of a caller's work reports a commit although it may have been rolled back.
The report is true exactly if the work itself ended the transaction by a native commit, or
left it open with the database on the same connection, at the first level, and without the
mark of a level that was rolled back.  What happened is what the driver was asked for in this
run. -/
theorem tryInTransaction_committed_iff {start : Session α σ} (reachable : start.Reachable)
    (database : Database) (flat : database.depth start.gateway = 0)
    (onRollback : Program α σ Unit) (replacement : Fault → Program α σ (Option Fault))
    (work : Program α σ Value) {outcome : TransactionOutcome} {finish : Session α σ}
    (returned : database.tryInTransaction
      ⟨onRollback.run, fun fault => (replacement fault).run⟩ work.run start = .ok outcome finish)
    (reported : outcome.committed = true) :
    let whole := Program.attempting database onRollback replacement work
    (whole.run start = .ok outcome finish ∧ whole.Confirmed start) ∧
    exists handle begun worked,
      (library database.begin : Operation (Session α σ) Unit) start = .ok () begun ∧
      work.run begun = .ok outcome.value worked ∧
      (begun.gateway.entry database.entry).handle = some handle ∧
      database.deed? .begin start.gateway = some ⟨handle.id, .begin, true⟩ ∧
      (CommittedOn handle.id (whole.happenings start) ↔
        CommittedOn handle.id (work.happenings begun) ∨
        ending? handle.id (work.happenings begun) = none ∧
          database.At handle.id ⟨1, false⟩ worked.gateway) := by
  intro whole
  refine ⟨⟨?_, whole.run_confirmed start⟩, ?_⟩
  · rw [Program.run_attempting]
    exact returned
  have ran := tryInTransaction_ok returned reported
  rcases runInTransaction_ok ran with ⟨begun, worked, begins, works, commits⟩
  have sound := reachable.sound
  have opens : database.begin.outcome start.gateway = .ok () := by
    rw [← Session.outcome_library (σ := σ), Operation.outcome, begins]
  have begunEqual : begun.gateway = database.begin.after start.gateway := by
    rw [← Session.gateway_library, Operation.after, begins]
  rcases begin_opens sound flat opens with ⟨handle, held, level, deed⟩
  rw [← begunEqual] at held level
  refine ⟨handle, begun, worked, begins, works, held, deed, ?_⟩
  have happened : whole.happenings start =
      .native ⟨handle.id, .begin, true⟩ :: (work.happenings begun ++
        ((database.deed? .commit worked.gateway).map Happening.native).toList) := by
    rw [Program.happenings_attempting, Program.happenings_inTransaction begins works, deed]
    rfl
  rw [happened, CommittedOn, ending?_begin, ← CommittedOn, committedOn_append, committedOn_deed?]
  refine or_congr Iff.rfl (and_congr_right fun unended => ?_)
  -- What the work did not end is still open, so the commit at the end decides.
  have workedEqual : work.run.after begun = worked := by rw [Operation.after, works]
  have stillOpen := work.depth_pos_of_run begun database.tracker handle.id
    (by rw [level]; exact Nat.succ_pos 0) unended
  have stillSound := work.run_sound begun (begunEqual ▸ sound.perform .begin database)
  rw [workedEqual] at stillOpen stillSound
  exact ⟨at_of_commit_deed stillSound stillOpen, fun held => held.commit_deed commits⟩

theorem committed_of_work_done :
    Session.memory.Reachable ∧ memory.depth Session.memory.gateway = 0 ∧
      exists finish handle,
        memory.tryInTransaction ⟨pure (), fun _ => pure none⟩ (pure .null) Session.memory =
          .ok ⟨true, .null, none⟩ finish ∧
        memory.deed? .begin Session.memory.gateway = some ⟨handle, .begin, true⟩ ∧
        CommittedOn handle ((Program.attempting memory (.done ()) (fun _ => .done none)
          (.done .null)).happenings Session.memory) := by
  rcases tryInTransaction_committed_iff Session.reachable_memory memory rfl (.done ())
    (fun _ => .done none) (.done .null) rfl rfl with
      ⟨-, handle, begun, worked, begins, works, held, deed, truthful⟩
  refine ⟨Session.reachable_memory, rfl, _, handle.id, rfl, deed, truthful.mpr (Or.inr ⟨rfl, ?_⟩)⟩
  cases begins
  cases works
  cases held
  exact ⟨⟨_, rfl, rfl⟩, rfl⟩

/-- Work in which the failure of a transaction inside is caught. -/
def caughtFailure : Program Unit Unit Value :=
  let failing : Program Unit Unit Value :=
    .inTransaction memory (.done ()) (fun _ => .done none) (.fail (.bare .badValue))
  failing.bind fun _ => .done .null

/-- The report of a commit is wrong: the driver has seen a begin and a rollback. -/
theorem committed_after_rollback :
    (Session.memory.gateway.entry memory.entry).nestable = true ∧
      memory.depth Session.memory.gateway = 0 ∧
      exists finish,
        memory.tryInTransaction .none caughtFailure.run Session.memory =
          .ok ⟨true, .null, none⟩ finish ∧
        (finish.gateway.driver.events.drop 1).map Native.Event.call =
          [.runDirectly (.opened 1) "BEGIN", .rollback (.opened 1)] := by
  refine ⟨rfl, rfl, _, rfl, rfl⟩

end Database
end SqlGateway
