import SqlGateway.Proofs.Database.Uses
import SqlGateway.Proofs.Session.Cursors

namespace SqlGateway

/-!
# What uses leave open

A caller of the library works with results; cursors are the library's.  A use either hands out one
result, and then the cursor of this result is all that it leaves open, or it hands out none, and
then it leaves no cursor open.

There is one exception.  The cursor of a query is not closed if the query is broken off after it was
opened: in its statement, in the commit after the statement, or in a callback after the statement.
No result is handed out then, and nobody can close the cursor.  This is told by the last event of
the record.
-/

open Native (Driver)

namespace Database

open Session (library HandsOut ClosesUnlessBroken)

variable {α σ β : Type} {ground : Nat}

/-! ## Operations that close their cursors -/

section Operations

variable (database : Database) {runner : HookRunner α σ} {label : String → α → String}
  (callbacks : forall name phase callback sql,
    (runner name phase callback sql).Respects (Session.OfDriver (Driver.ClosesOwn ground)))
include callbacks

theorem run_closes (template : String) (values : List Value) :
    ClosesUnlessBroken ground (database.run (runner.told label) template values) :=
  HandsOut.bind (query_handsOut database callbacks template values) fun _ isOpen =>
    free_ends isOpen

theorem withQuery_closes (template : String) (values : List Value)
    (use : QueryResult → Except Fault β) :
    ClosesUnlessBroken ground (database.withQuery (runner.told label) template values use) := by
  apply HandsOut.bind (query_handsOut database callbacks template values)
  intro result isOpen session
  rw [Operation.after_thenAlways, Operation.after_ofExcept]
  exact free_ends isOpen session

theorem fetchFirstRow_closes (template : String) (values : List Value) (mode : FetchMode) :
    ClosesUnlessBroken ground
      (database.fetchFirstRow (runner.told label) template values mode) :=
  withQuery_closes database callbacks _ _ _

theorem fetchValue_closes (template : String) (values : List Value) :
    ClosesUnlessBroken ground (database.fetchValue (runner.told label) template values) :=
  .bind (fetchFirstRow_closes database callbacks _ _ _) fun _ => .of_tidied (.pure _)

theorem fetchAll_closes (template : String) (values : List Value) (mode : Option FetchMode)
    (column : Value) :
    ClosesUnlessBroken ground
      (database.fetchAll (runner.told label) template values mode column) :=
  .bind (.of_tidied (.ofExcept _)) fun _ =>
    .bind (withQuery_closes database callbacks _ _ _) fun _ => .of_tidied (.ofExcept _)

omit callbacks in
theorem lastInsertId_tidied :
    (database.lastInsertId : Operation (Gateway α) Int).Respects
      (OfDriver (Driver.Tidied ground)) :=
  lastInsertId_ofDriver database Adapter.openConnection_tidied fun adapter connection row =>
    Adapter.lastInsertId_tidied connection adapter row

theorem insert_closes (table : String) (values : List (Value × Value)) :
    ClosesUnlessBroken ground (database.insert (runner.told label) table values) := by
  refine .bind (.of_tidied .get) fun _ => ?_
  refine .bind (.of_tidied (.ofExcept _)) fun _ => ?_
  refine .bind (.of_tidied (.ofExcept _)) fun _ => ?_
  refine .bind (run_closes database callbacks _ _) fun _ => ?_
  exact .of_tidied (Session.library_ofDriver (lastInsertId_tidied database))

theorem setColumns_closes (table : String) (values chosen : List (Value × Value))
    (restriction : String) :
    ClosesUnlessBroken ground
      (database.setColumns (runner.told label) table values chosen restriction) :=
  .bind (.of_tidied (.ofExcept _)) fun _ => run_closes database callbacks _ _

theorem update_closes (table : String) (values : List (Value × Value)) (choice : Value) :
    ClosesUnlessBroken ground (database.update (runner.told label) table values choice) := by
  refine .bind (.of_tidied (.ofExcept _)) fun _ =>
    .bind (fetchValue_closes database callbacks _ _) fun count => ?_
  dsimp only
  split
  · exact .bind (.of_tidied (.throw _)) fun _ => setColumns_closes database callbacks _ _ _ _
  · exact setColumns_closes database callbacks _ _ _ _

theorem insertOrUpdate_closes (table : String) (values : List (Value × Value)) (choice : Value) :
    ClosesUnlessBroken ground
      (database.insertOrUpdate (runner.told label) table values choice) := by
  refine .bind (.of_tidied (.ofExcept _)) fun _ =>
    .bind (fetchAll_closes database callbacks _ _ _ _) fun keys => ?_
  split
  · exact .bind (insert_closes database callbacks _ _) fun _ => .of_tidied (.pure _)
  · dsimp only
    split
    · exact .bind (setColumns_closes database callbacks _ _ _ _) fun _ => .of_tidied (.pure _)
    · exact .of_tidied (.pure _)

theorem deleteRows_closes (table : String) (choice : Value) :
    ClosesUnlessBroken ground (database.deleteRows (runner.told label) table choice) :=
  .bind (.of_tidied (.ofExcept _)) fun _ => run_closes database callbacks _ _

omit callbacks in
/-- To report a failure is beside the driver. -/
theorem delete_driver (runner : HookRunner α σ) (table : String) (choice : Value)
    (reporting : Bool) (session : Session α σ) :
    ((database.delete runner table choice reporting).after session).gateway.driver =
      ((database.deleteRows runner table choice).after session).gateway.driver := by
  unfold delete
  rw [Operation.after_observe_bind]
  split
  · rfl
  · split <;> rfl

end Operations

end Database

/-! ## Uses of a caller -/

namespace Desk

open Session (HandsOut ClosesUnlessBroken)

variable {α σ β : Type} {ground : Nat}

/-- What a use left open. -/
inductive Leaves (before after : Desk α σ) : Prop where
  /-- A result was handed out, and the cursor of this result was left open. -/
  | handedOut (result : QueryResult) (results : after.results = before.results ++ [result])
      (left : forall number,
        before.session.gateway.driver.LeavesCursor number after.session.gateway.driver ↔
          number = result.cursor.number)
  /-- No result was handed out, and no cursor was left open. -/
  | tidied (results : after.results.length = before.results.length)
      (left : forall number,
        ¬ before.session.gateway.driver.LeavesCursor number after.session.gateway.driver)
      (whole : ¬ before.session.gateway.driver.BrokenOff after.session.gateway.driver)
  /-- No result was handed out, and a query was broken off, whose cursor was left open. -/
  | abandoned (results : after.results.length = before.results.length) (number : Nat)
      (left : forall other,
        before.session.gateway.driver.LeavesCursor other after.session.gateway.driver ↔
          other = number)
      (broken : before.session.gateway.driver.BrokenOff after.session.gateway.driver)

/-- No result was handed out, and no cursor was left open. -/
structure Tidied (ground : Nat) (before after : Desk α σ) : Prop where
  results : after.results.length = before.results.length
  driver : before.session.OfDriver (Driver.Tidied ground) after.session

instance : IsPreorder (Desk α σ) (Tidied ground) where
  refl desk := ⟨rfl, refl_of (Session.OfDriver (Driver.Tidied ground)) desk.session⟩
  trans _ _ _ first second :=
    ⟨second.results.trans first.results,
      trans_of (Session.OfDriver (Driver.Tidied ground)) first.driver second.driver⟩

theorem work_tidied {operation : Operation (Session α σ) β}
    (tidied : operation.Respects (Session.OfDriver (Driver.Tidied ground))) :
    (work operation).Respects (Tidied ground) :=
  .within tidied fun _ _ related => ⟨rfl, related⟩

theorem library_tidied {operation : Operation (Gateway α) β}
    (tidied : operation.Respects (Database.OfDriver (Driver.Tidied ground))) :
    (work (Session.library operation) : Operation (Desk α σ) β).Respects (Tidied ground) :=
  work_tidied (Session.library_ofDriver tidied)

/-- To say that there was something to do is beside the driver. -/
theorem done_tidied {operation : Operation (Desk α σ) β}
    (tidied : operation.Respects (Tidied ground)) :
    (do let _ ← operation; return true : Operation (Desk α σ) Bool).Respects (Tidied ground) :=
  .bind tidied fun _ => .pure true

theorem modify_tidied {change : Desk α σ → Desk α σ}
    (session : forall desk, (change desk).session = desk.session)
    (results : forall desk, (change desk).results.length = desk.results.length) :
    (modify change : Operation (Desk α σ) Unit).Respects (Tidied ground) := by
  refine .modify fun desk => ⟨results desk, ?_⟩
  rw [session]
  exact refl_of (Session.OfDriver (Driver.Tidied ground)) desk.session

theorem replaceResult_tidied (index : Nat) (result : QueryResult) :
    (replaceResult index result : Operation (Desk α σ) Unit).Respects (Tidied ground) :=
  modify_tidied (fun _ => rfl) fun _ => List.length_set

theorem read_tidied (index : Nat) (reads : QueryResult → Except Fault β × QueryResult) :
    (read index reads : Operation (Desk α σ) Unit).Respects (Tidied ground) := by
  refine .bind .get fun desk => ?_
  split
  · exact .pure ()
  · exact .bind (replaceResult_tidied _ _) fun _ => .bind (.ofExcept _) fun _ => .pure ()

section Leaving

variable {before after : Desk α σ}
  (grounded : ground ≤ before.session.gateway.driver.cursors)
include grounded

theorem Tidied.leaves (tidied : before.Tidied ground after) : before.Leaves after := by
  rcases tidied.driver grounded with ⟨leaves, whole⟩
  exact .tidied tidied.results (fun number left => (leaves.left number).mp left) whole

/-- An operation that hands out no result. -/
theorem leaves_of_session (results : after.results.length = before.results.length)
    (left : before.session.OfDriver (Driver.Tidied ground) after.session ∨
      exists number, before.session.gateway.driver.Abandons ground {number}
        after.session.gateway.driver) : before.Leaves after := by
  rcases left with tidied | ⟨number, abandons⟩
  · exact Tidied.leaves grounded ⟨results, tidied⟩
  · exact .abandoned results number abandons.leaves.left abandons.broken

/-- What is made of a value of the session leaves no more open than the operation did. -/
theorem closing_leaves {γ : Type} {operation : Operation (Session α σ) β}
    (closes : ClosesUnlessBroken ground operation) (function : β → γ) :
    before.Leaves ((do return function (← work operation) : Operation (Desk α σ) γ).after
      before) := by
  have left := (closes before.session grounded).imp id And.right
  rw [Operation.after_bind_pure, work, Operation.after_within]
  exact leaves_of_session grounded rfl left

theorem handing_leaves {operation : Operation (Session α σ) QueryResult}
    (hands : HandsOut ground operation) :
    before.Leaves ((do keepResult (← work operation); return true :
      Operation (Desk α σ) Bool).after before) := by
  have handed := hands before.session grounded
  unfold Operation.Yields at handed
  rw [Operation.after_bind, work, Operation.outcome_within, Operation.after_within]
  cases made : operation.outcome before.session with
  | ok result =>
      rw [made] at handed
      refine .handedOut result rfl fun number => ?_
      exact (handed.2.left number).trans Set.mem_singleton_iff
  | error fault =>
      rw [made] at handed
      exact leaves_of_session grounded rfl handed

/-- A deletion leaves open what its statement does, whether its failure is reported or raised. -/
theorem delete_leaves {runner : HookRunner α σ} {database : Database} {table : String}
    {choice : Value} (closes : ClosesUnlessBroken ground (database.deleteRows runner table choice))
    (reporting : Bool) :
    before.Leaves ((work (database.delete runner table choice reporting)).after before) := by
  have left := (closes before.session grounded).imp id And.right
  rw [work, Operation.after_within]
  refine leaves_of_session grounded rfl ?_
  rw [Session.OfDriver, Database.OfDriver, Database.delete_driver]
  exact left

end Leaving

/-- To close the cursor of a result opens none. -/
theorem freed_leaves {before after : Desk α σ} (result : QueryResult)
    (results : after.results.length = before.results.length)
    (session : after.session =
      (Database.free result : Operation (Session α σ) Unit).after before.session) :
    before.Leaves after := by
  have driver := Database.free_driver result before.session
  let first := before.session.gateway.driver
  rw [← session] at driver
  cases closed : result.closed with
  | true =>
      rw [closed] at driver
      have same : first.Tidied first.cursors after.session.gateway.driver :=
        .of_same (congrArg Driver.events driver) (congrArg Driver.cursors driver)
      exact Tidied.leaves (Nat.le_refl _) ⟨results, same⟩
  | false =>
      rw [closed] at driver
      rcases Native.closeCursor_recorded result.cursor first with ⟨failure, events, cursors⟩
      have closes : after.session.gateway.driver = (Native.closeCursor result.cursor).after first :=
        driver
      rw [← closes] at events cursors
      refine .tidied results (fun number left => ?_) ?_
      · have opened := left.opened
        rw [cursors] at opened
        exact Nat.not_le.mpr opened.1 opened.2
      · rw [Driver.brokenOff_iff List.prefix_rfl events]
        rintro ⟨impossible, -⟩
        cases impossible

end Desk

namespace Use

variable {α σ : Type}

open Desk (work library_tidied done_tidied closing_leaves handing_leaves delete_leaves)

/-- A use hands out a result with the cursor that it leaves open, or it leaves no cursor open,
unless a query is broken off in it. -/
theorem perform_leaves {runner : HookRunner α σ} (label : String → α → String) {desk : Desk α σ}
    (callbacks : forall name phase callback sql, (runner name phase callback sql).Respects
      (Session.OfDriver (Driver.ClosesOwn desk.session.gateway.driver.cursors)))
    (use : Use) : desk.Leaves ((use.perform (runner.told label)).after desk) := by
  have grounded := Nat.le_refl desk.session.gateway.driver.cursors
  have idle : desk.Leaves desk := (refl_of (Desk.Tidied _) desk).leaves grounded
  have tidied {use : Use} (tidies : (use.perform (runner.told label)).Respects
      (Desk.Tidied desk.session.gateway.driver.cursors)) :
      desk.Leaves ((use.perform (runner.told label)).after desk) :=
    (tidies desk).leaves grounded
  cases use with
  | configure config =>
      exact tidied (done_tidied (library_tidied (Gateway.modify_ofDriver fun _ => rfl)))
  | make request registry tracker =>
      refine tidied (done_tidied (.observe (library_tidied ?_)))
      exact (Desk.ofRequest_aside request registry tracker).mono fun before after aside =>
        .of_same (congrArg Driver.events aside.driver) (congrArg Driver.cursors aside.driver)
  | query database template values =>
      exact handing_leaves grounded (Database.query_handsOut database callbacks template values)
  | prepare database template =>
      refine tidied (.bind (library_tidied ?_) fun _ =>
        done_tidied (Desk.modify_tidied (fun _ => rfl) fun _ => rfl))
      exact Database.prepare_ofDriver database Adapter.openConnection_tidied
        (fun adapter connection sql => Adapter.prepareNatively_tidied connection adapter sql)
        Adapter.validate_tidied template
  | executePrepared index values =>
      unfold perform
      rw [Operation.after_get_bind]
      split
      · exact idle
      · exact handing_leaves grounded (Database.execute_handsOut _ callbacks _ values)
  | fetchRow index mode => exact tidied (done_tidied (Desk.read_tidied _ _))
  | fetchAll index mode => exact tidied (done_tidied (Desk.read_tidied _ _))
  | free index =>
      unfold perform
      rw [Operation.after_get_bind]
      split
      · exact idle
      · rename_i result _
        rw [Operation.after_bind, work, Operation.outcome_within, Operation.after_within]
        split
        · exact Desk.freed_leaves result List.length_set rfl
        · exact Desk.freed_leaves result rfl rfl
  | act action database =>
      exact tidied (done_tidied (library_tidied (Database.perform_ofDriver database
        Adapter.openConnection_tidied (fun adapter connection call =>
          Adapter.transact_tidied connection adapter call) action)))
  | lastInsertId database =>
      exact tidied (done_tidied (library_tidied (Database.lastInsertId_tidied database)))
  | disconnect database =>
      exact tidied (done_tidied (library_tidied (Gateway.disconnect_ofDriver (fun _ =>
        Native.callAt_tidied rfl rfl _) _ _)))
  | fetchFirstRow database template values mode =>
      exact closing_leaves grounded (Database.fetchFirstRow_closes database callbacks _ _ _) _
  | fetchValue database template values =>
      exact closing_leaves grounded (Database.fetchValue_closes database callbacks _ _) _
  | fetchRows database template values mode column =>
      exact closing_leaves grounded (Database.fetchAll_closes database callbacks _ _ _ _) _
  | insert database table values =>
      exact closing_leaves grounded (Database.insert_closes database callbacks _ _) _
  | update database table values choice =>
      exact closing_leaves grounded (Database.update_closes database callbacks _ _ _) _
  | insertOrUpdate database table values choice =>
      exact closing_leaves grounded (Database.insertOrUpdate_closes database callbacks _ _ _) _
  | delete database table choice reporting =>
      exact delete_leaves grounded (Database.deleteRows_closes database callbacks table choice)
        reporting

/-- Callbacks of which those after a statement fail. -/
def alarming : HookRunner Unit Unit := fun _ phase _ _ =>
  match phase with
  | .before => pure ()
  | .after => throw lost

/-- A database in memory with a hook around its statements. -/
def alarmed : Desk Unit Unit :=
  let gateway := (Database.memory.registerHook "alarm" (some ()) (some ())).after
    Session.memory.gateway
  ⟨⟨gateway, ()⟩, [], []⟩

theorem perform_leaves_of_alarmed :
    let query : Use := .query Database.memory "SELECT 1" []
    let left := (query.perform (alarming.told fun name _ => name)).after alarmed
    (forall name phase callback sql, (alarming name phase callback sql).Respects
      (Session.OfDriver (Driver.ClosesOwn alarmed.session.gateway.driver.cursors))) ∧
    exists number, forall other,
      alarmed.session.gateway.driver.LeavesCursor other left.session.gateway.driver ↔
        other = number := by
  intro query left
  have callbacks (name : String) (phase : Native.HookPhase) (callback : Unit) (sql : String) :
      (alarming name phase callback sql).Respects
        (Session.OfDriver (Driver.ClosesOwn alarmed.session.gateway.driver.cursors)) := by
    cases phase with
    | before => exact .pure ()
    | after => exact .throw lost
  refine ⟨callbacks, ?_⟩
  rcases perform_leaves (fun name _ => name) callbacks query with
    ⟨result, results, -⟩ | ⟨-, -, whole⟩ | ⟨-, number, left, -⟩
  · cases results
  · exact absurd ⟨_, rfl, rfl, rfl⟩ whole
  · exact ⟨number, left⟩

/-- A database in memory whose driver refuses the first statement. -/
def refusing : Desk Unit Unit :=
  let driver : Driver := .ofScript [{ error := some lost }] [] [] (.int 0)
  ⟨⟨Gateway.openMemory.after (.ofDriver driver), ()⟩, [], []⟩

/-- The query raises, and the cursor that it opened is not closed. -/
theorem refused_leavesCursor :
    let query : Use := .query Database.memory "SELECT 1" []
    let left := (query.perform Session.idleHooks).after refusing
    (exists fault, (query.perform Session.idleHooks).outcome refusing = .error fault) ∧
      refusing.session.gateway.driver.LeavesCursor 1 left.session.gateway.driver := by
  intro query left
  have recorded : refusing.session.gateway.driver.since left.session.gateway.driver =
      [⟨.execute (.opened 1) 1 "SELECT 1" (some []), some lost⟩] :=
    rfl
  refine ⟨⟨_, rfl⟩, by decide, fun event member => ?_⟩
  rw [recorded] at member
  rw [List.mem_singleton.mp member]
  nofun

end Use
end SqlGateway
