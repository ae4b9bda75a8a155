import Mathlib.Data.Set.Insert
import SqlGateway.Proofs.Native.Confined

namespace SqlGateway

/-!
# Cursors that are left open

A driver numbers the cursors that it opens, and records the calls that close them.  What an
operation leaves open are the cursors that it opened and did not close.  A sequence of operations
leaves open what its parts do, as long as each closes only its own cursors and those that were open
before all of them; the latter are said by a ground, the number of the last one.

An adapter closes a cursor that it opens for itself whatever happens.  The cursor of a statement
with parameters is handed out if the statement succeeds.  If it fails, nobody has the cursor and it
stays open; the failure is then the last event of the record.  If there is no cursor for a statement,
none is left open.
-/

namespace Native

/-- The number of the cursor that a call is to close. -/
def Call.closing? : Call → Option Nat
  | .closeCursor _ number => some number
  | _ => none

/-- Whether a call is made for a query whose cursor has been opened: its statement, the commit that
keeps the cursor readable, and the callbacks after the statement. -/
def Call.isMidQuery : Call → Bool
  | .execute _ _ _ (some _) | .commit _ true | .hook _ .after _ => true
  | _ => false

theorem Call.isMidQuery_of_closing {call : Call} {number : Nat}
    (closes : call.closing? = some number) : call.isMidQuery = false := by
  cases call <;> first | rfl | cases closes

/-- An event broke a query off after its cursor had been opened. -/
def Event.BreaksOff (event : Event) : Prop :=
  event.call.isMidQuery = true ∧ event.failure.isSome = true

/-- What was recorded between two states of the driver. -/
def Driver.since (before after : Driver) : List Event :=
  after.events.drop before.events.length

/-- A cursor was opened between two states of the driver, and it was not closed there. -/
structure Driver.LeavesCursor (number : Nat) (before after : Driver) : Prop where
  opened : before.cursors < number ∧ number ≤ after.cursors
  unclosed : forall event, event ∈ before.since after -> event.call.closing? ≠ some number

/-- The last event between two states of the driver broke a query off. -/
def Driver.BrokenOff (before after : Driver) : Prop :=
  exists event, (before.since after).getLast? = some event ∧ event.BreaksOff

/-- The cursors of a set were left open, and no others.  None was closed but those that were opened
here, and those up to the ground. -/
structure Driver.Leaves (ground : Nat) (unclosed : Set Nat) (before after : Driver) : Prop where
  events : before.events <+: after.events
  cursors : before.cursors ≤ after.cursors
  closings : forall event number, event ∈ before.since after -> event.call.closing? = some number ->
    number ≤ ground ∨ number ≤ after.cursors ∧ before.cursors < number
  left : forall number, before.LeavesCursor number after ↔ number ∈ unclosed

/-- No cursor was left open. -/
def Driver.ClosesOwn (ground : Nat) (before after : Driver) : Prop :=
  ground ≤ before.cursors -> before.Leaves ground ∅ after

/-- No cursor was left open, and no query was broken off. -/
def Driver.Tidied (ground : Nat) (before after : Driver) : Prop :=
  ground ≤ before.cursors -> before.Leaves ground ∅ after ∧ ¬ before.BrokenOff after

/-- A query was broken off, and the cursors of a set were left open. -/
structure Driver.Abandons (ground : Nat) (unclosed : Set Nat) (before after : Driver) : Prop where
  leaves : before.Leaves ground unclosed after
  broken : before.BrokenOff after

/-- What follows a statement left no cursor open, and broke the query off if it failed. -/
def Driver.Concludes (ground : Nat) (before after : Driver) : Option Fault → Prop
  | none => before.Tidied ground after
  | some _ => ground ≤ before.cursors -> before.Abandons ground ∅ after

/-- A statement left its cursor open, and broke the query off if it failed.  It may fail without a
cursor. -/
def Driver.States (ground : Nat) (before after : Driver) : Except Fault Cursor → Prop
  | .ok cursor => before.Leaves ground {cursor.number} after
  | .error _ => before.Tidied ground after ∨ exists number, before.Abandons ground {number} after

namespace Driver

variable {ground number : Nat} {unclosed others : Set Nat} {added : List Event} {event : Event}
  {before middle after : Driver}

theorem since_of_events (same : after.events = before.events ++ added) :
    before.since after = added := by
  unfold since
  rw [same, List.drop_left]

theorem since_trans (first : before.events <+: middle.events)
    (second : middle.events <+: after.events) :
    before.since after = before.since middle ++ middle.since after := by
  rcases first with ⟨early, first⟩
  rcases second with ⟨late, second⟩
  rw [since_of_events first.symm, since_of_events second.symm]
  apply since_of_events
  rw [← List.append_assoc, first, second]

/-- The last event decides. -/
theorem brokenOff_iff (earlier : before.events <+: middle.events)
    (same : after.events = middle.events ++ [event]) : before.BrokenOff after ↔ event.BreaksOff := by
  have last : (before.since after).getLast? = some event := by
    rw [since_trans earlier ⟨[event], same.symm⟩, since_of_events same, List.getLast?_concat]
  constructor
  · rintro ⟨found, isLast, breaks⟩
    cases last.symm.trans isLast
    exact breaks
  · intro breaks
    exact ⟨event, last, breaks⟩

/-- What is broken off by the second of two operations is broken off by both. -/
theorem BrokenOff.of_second (broken : middle.BrokenOff after)
    (first : before.events <+: middle.events) (second : middle.events <+: after.events) :
    before.BrokenOff after := by
  rcases broken with ⟨event, last, breaks⟩
  refine ⟨event, ?_, breaks⟩
  rw [since_trans first second, List.getLast?_append, last]
  rfl

theorem BrokenOff.cases (broken : before.BrokenOff after)
    (first : before.events <+: middle.events) (second : middle.events <+: after.events) :
    before.BrokenOff middle ∨ middle.BrokenOff after := by
  rcases broken with ⟨event, last, breaks⟩
  rw [since_trans first second, List.getLast?_append] at last
  cases later : (middle.since after).getLast? with
  | none =>
      rw [later] at last
      exact Or.inl ⟨event, last, breaks⟩
  | some other =>
      rw [later] at last
      cases last
      exact Or.inr ⟨event, later, breaks⟩

namespace Leaves

/-- Neither of two operations closes what the other leaves open. -/
theorem trans (first : before.Leaves ground unclosed middle)
    (second : middle.Leaves ground others after) (grounded : ground ≤ before.cursors) :
    before.Leaves ground (unclosed ∪ others) after where
  events := first.events.trans second.events
  cursors := Nat.le_trans first.cursors second.cursors
  closings event number member closes := by
    have firstCursors := first.cursors
    have secondCursors := second.cursors
    rw [since_trans first.events second.events] at member
    rcases List.mem_append.mp member with early | late
    · have own := first.closings event number early closes
      omega
    · have own := second.closings event number late closes
      omega
  left number := by
    have firstCursors := first.cursors
    have secondCursors := second.cursors
    have inFirst := first.left number
    have inSecond := second.left number
    constructor
    · rintro ⟨opened, unclosed⟩
      rw [since_trans first.events second.events] at unclosed
      by_cases early : number ≤ middle.cursors
      · refine Or.inl (inFirst.mp ⟨⟨opened.1, early⟩, fun event member => ?_⟩)
        exact unclosed event (List.mem_append_left _ member)
      · refine Or.inr (inSecond.mp ⟨⟨Nat.lt_of_not_le early, opened.2⟩, fun event member => ?_⟩)
        exact unclosed event (List.mem_append_right _ member)
    · intro member
      have left : before.LeavesCursor number middle ∨ middle.LeavesCursor number after :=
        member.imp inFirst.mpr inSecond.mpr
      constructor
      · rcases left with ⟨opened, -⟩ | ⟨opened, -⟩
        · omega
        · omega
      · intro event member closes
        rw [since_trans first.events second.events] at member
        rcases left with ⟨opened, unclosed⟩ | ⟨opened, unclosed⟩
        · rcases List.mem_append.mp member with early | late
          · exact unclosed event early closes
          · have own := second.closings event number late closes
            omega
        · rcases List.mem_append.mp member with early | late
          · have own := first.closings event number early closes
            omega
          · exact unclosed event late closes

/-- What closes no cursor leaves open all that it opens. -/
theorem of_events (same : after.events = before.events ++ added)
    (cursors : before.cursors ≤ after.cursors)
    (closesNone : forall event, event ∈ added -> event.call.closing? = none) :
    before.Leaves ground {number | before.cursors < number ∧ number ≤ after.cursors} after where
  events := ⟨added, same.symm⟩
  cursors := cursors
  closings event number member closes := by
    rw [since_of_events same] at member
    cases (closesNone event member).symm.trans closes
  left number := by
    refine ⟨fun leaves => leaves.opened, fun opened => ⟨opened, fun event member closes => ?_⟩⟩
    rw [since_of_events same] at member
    cases (closesNone event member).symm.trans closes

theorem of_kept (same : after.events = before.events ++ added)
    (cursors : after.cursors = before.cursors)
    (closesNone : forall event, event ∈ added -> event.call.closing? = none) :
    before.Leaves ground ∅ after := by
  have leaves : before.Leaves ground _ after := of_events same (Nat.le_of_eq cursors.symm) closesNone
  refine ⟨leaves.events, leaves.cursors, leaves.closings, fun number => ?_⟩
  constructor
  · intro left
    have opened := left.opened
    omega
  · exact nofun

theorem of_opened (same : after.events = before.events ++ added)
    (cursors : after.cursors = before.cursors + 1)
    (closesNone : forall event, event ∈ added -> event.call.closing? = none) :
    before.Leaves ground {before.cursors + 1} after := by
  have more : before.cursors ≤ after.cursors := by omega
  have leaves : before.Leaves ground _ after := of_events same more closesNone
  refine ⟨leaves.events, leaves.cursors, leaves.closings, fun number => ?_⟩
  constructor
  · intro left
    have opened := left.opened
    exact Set.mem_singleton_iff.mpr (by omega)
  · intro member
    apply (leaves.left number).mpr
    rw [Set.mem_singleton_iff.mp member, cursors]
    exact ⟨Nat.lt_succ_self _, Nat.le_refl _⟩

/-- A cursor that was opened and is closed last is not left open. -/
theorem closed (leaves : before.Leaves ground {number} middle)
    (same : after.events = middle.events ++ [event]) (closes : event.call.closing? = some number)
    (cursors : after.cursors = middle.cursors) : before.Leaves ground ∅ after := by
  have second : middle.events <+: after.events := ⟨[event], same.symm⟩
  have whole := since_trans leaves.events second
  have own := ((leaves.left number).mpr rfl).opened
  rw [since_of_events same] at whole
  refine ⟨leaves.events.trans second, cursors ▸ leaves.cursors, ?_, fun other => ?_⟩
  · intro done found member closesFound
    rw [cursors]
    rw [whole] at member
    rcases List.mem_append.mp member with early | late
    · exact leaves.closings done found early closesFound
    · rw [List.mem_singleton.mp late, closes] at closesFound
      cases closesFound
      omega
  · refine ⟨fun left => ?_, nofun⟩
    have earlier : before.LeavesCursor other middle := by
      refine ⟨cursors ▸ left.opened, fun done member => ?_⟩
      apply left.unclosed
      rw [whole]
      exact List.mem_append_left _ member
    rw [Set.mem_singleton_iff.mp ((leaves.left other).mp earlier)] at left
    refine left.unclosed event ?_ closes
    rw [whole]
    exact List.mem_append_right _ List.mem_cons_self

end Leaves

/-! ## Operations that leave nothing open -/

theorem ClosesOwn.of_same (same : after.events = before.events)
    (cursors : after.cursors = before.cursors) : before.ClosesOwn ground after :=
  fun _ => .of_kept (same.trans (List.append_nil _).symm) cursors nofun

theorem Tidied.of_same (same : after.events = before.events)
    (cursors : after.cursors = before.cursors) : before.Tidied ground after := by
  refine fun grounded => ⟨ClosesOwn.of_same same cursors grounded, ?_⟩
  rintro ⟨event, last, -⟩
  rw [since_of_events (same.trans (List.append_nil _).symm)] at last
  cases last

instance : IsPreorder Driver (Driver.ClosesOwn ground) where
  refl _ := .of_same rfl rfl
  trans before middle after first second grounded := by
    have leaves := (first grounded).trans
      (second (Nat.le_trans grounded (first grounded).cursors)) grounded
    rw [Set.empty_union] at leaves
    exact leaves

instance : IsPreorder Driver (Driver.Tidied ground) where
  refl _ := .of_same rfl rfl
  trans before middle after first second grounded := by
    rcases first grounded with ⟨firstLeaves, firstGoesOn⟩
    rcases second (Nat.le_trans grounded firstLeaves.cursors) with ⟨secondLeaves, secondGoesOn⟩
    have leaves := firstLeaves.trans secondLeaves grounded
    rw [Set.empty_union] at leaves
    refine ⟨leaves, fun broken => ?_⟩
    rcases broken.cases firstLeaves.events secondLeaves.events with early | late
    · exact firstGoesOn early
    · exact secondGoesOn late

section Events

variable (closes : before.ClosesOwn ground middle) (same : after.events = middle.events ++ [event])
  (cursors : after.cursors = middle.cursors) (closesNone : event.call.closing? = none)
include closes same cursors closesNone

theorem ClosesOwn.then_event : before.ClosesOwn ground after := by
  refine trans_of (ClosesOwn ground) closes fun _ => .of_kept same cursors fun other member => ?_
  rw [List.mem_singleton.mp member]
  exact closesNone

theorem ClosesOwn.then_tidied (goesOn : ¬ event.BreaksOff) : before.Tidied ground after := by
  intro grounded
  have broken := brokenOff_iff (closes grounded).events same
  exact ⟨closes.then_event same cursors closesNone grounded, goesOn ∘ broken.mp⟩

/-- A call for a query breaks it off exactly if it fails. -/
theorem ClosesOwn.then_concludes (isMid : event.call.isMidQuery = true) :
    before.Concludes ground after event.failure := by
  rcases event with ⟨call, failure⟩
  cases failure with
  | none => exact closes.then_tidied same cursors closesNone fun breaks => nomatch breaks.2
  | some fault =>
      intro grounded
      have broken := brokenOff_iff (closes grounded).events same
      exact ⟨closes.then_event same cursors closesNone grounded, broken.mpr ⟨isMid, rfl⟩⟩

end Events

/-- What closes its own cursors later does not touch those that were left open. -/
theorem Leaves.then_closesOwn (leaves : before.Leaves ground unclosed middle)
    (closes : middle.ClosesOwn ground after) (grounded : ground ≤ before.cursors) :
    before.Leaves ground unclosed after := by
  have both := leaves.trans (closes (Nat.le_trans grounded leaves.cursors)) grounded
  rw [Set.union_empty] at both
  exact both

theorem Leaves.then_tidied (leaves : before.Leaves ground unclosed middle)
    (tidied : middle.Tidied ground after) (grounded : ground ≤ before.cursors) :
    before.Leaves ground unclosed after :=
  leaves.then_closesOwn (fun still => (tidied still).1) grounded

theorem Leaves.then_abandons (leaves : before.Leaves ground unclosed middle)
    (abandons : middle.Abandons ground ∅ after) (grounded : ground ≤ before.cursors) :
    before.Abandons ground unclosed after where
  leaves := leaves.then_closesOwn (fun _ => abandons.leaves) grounded
  broken := abandons.broken.of_second leaves.events abandons.leaves.events

theorem Tidied.then_leaves (tidied : before.Tidied ground middle)
    (leaves : middle.Leaves ground unclosed after) (grounded : ground ≤ before.cursors) :
    before.Leaves ground unclosed after := by
  have both := (tidied grounded).1.trans leaves grounded
  rw [Set.empty_union] at both
  exact both

theorem Tidied.then_abandons (tidied : before.Tidied ground middle)
    (abandons : middle.Abandons ground unclosed after) (grounded : ground ≤ before.cursors) :
    before.Abandons ground unclosed after where
  leaves := tidied.then_leaves abandons.leaves grounded
  broken := abandons.broken.of_second (tidied grounded).1.events abandons.leaves.events

theorem Tidied.then_concludes {failure : Option Fault} (tidied : before.Tidied ground middle)
    (concludes : middle.Concludes ground after failure) :
    before.Concludes ground after failure := by
  cases failure with
  | none => exact trans_of (Tidied ground) tidied concludes
  | some fault =>
      intro grounded
      have still := Nat.le_trans grounded (tidied grounded).1.cursors
      exact tidied.then_abandons (concludes still) grounded

/-- What follows a statement decides whether its cursor is given. -/
theorem Leaves.then_states {α : Type} {cursor : Cursor} {outcome : Except Fault α}
    (leaves : before.Leaves ground {cursor.number} middle)
    (concludes : middle.Concludes ground after (Operation.failure? outcome))
    (grounded : ground ≤ before.cursors) :
    before.States ground after (outcome.map fun _ => cursor) := by
  cases outcome with
  | ok _ => exact leaves.then_tidied concludes grounded
  | error fault =>
      have still := Nat.le_trans grounded leaves.cursors
      exact Or.inr ⟨_, leaves.then_abandons (concludes still) grounded⟩

theorem States.mapError {outcome : Except Fault Cursor} (view : Fault → Fault)
    (states : before.States ground after outcome) :
    before.States ground after (outcome.mapError view) := by
  cases outcome with
  | ok cursor => exact states
  | error fault => exact states

end Driver

/-! ## Calls of the driver -/

section Calls

variable {ground : Nat}

theorem cursors_nextFailure (driver : Driver) (point : FailPoint) :
    (driver.nextFailure point).2.cursors = driver.cursors := by
  unfold Driver.nextFailure
  split <;> rfl

theorem finish_cursors (call : Call) (failure : Option Fault) (driver : Driver) :
    ((finish call failure).after driver).cursors = driver.cursors := by
  cases failure <;> rfl

theorem callAt_cursors (point : FailPoint) (call : Call) (driver : Driver) :
    ((callAt point call).after driver).cursors = driver.cursors := by
  rw [callAt_after, finish_cursors, cursors_nextFailure]

variable {call : Call} (closesNone : call.closing? = none) (isApart : call.isMidQuery = false)
include closesNone isApart

theorem finish_tidied (failure : Option Fault) :
    (finish call failure).Respects (Driver.Tidied ground) := by
  intro driver
  refine (refl_of (Driver.ClosesOwn ground) driver).then_tidied (finish_events call failure driver)
    (finish_cursors call failure driver) closesNone ?_
  rintro ⟨within, -⟩
  cases isApart.symm.trans within

theorem callAt_tidied (point : FailPoint) :
    (callAt point call).Respects (Driver.Tidied ground) := by
  intro driver
  refine (refl_of (Driver.ClosesOwn ground) driver).then_tidied (callAt_events point call driver)
    (callAt_cursors point call driver) closesNone ?_
  rintro ⟨within, -⟩
  cases isApart.symm.trans within

theorem attempt_tidied (point : FailPoint) :
    (attempt point call).Respects (Driver.Tidied ground) := by
  intro driver
  rcases attempt_cases point call driver with ⟨failures, ⟨fault, fails⟩ | succeeds⟩
  · rw [Operation.after_of_error fails]
    refine (refl_of (Driver.ClosesOwn ground) driver).then_tidied rfl rfl closesNone ?_
    rintro ⟨within, -⟩
    cases isApart.symm.trans within
  · rw [Operation.after_of_ok succeeds]
    exact .of_same rfl rfl

omit isApart

theorem callAt_concludes (isMid : call.isMidQuery = true) (point : FailPoint) (driver : Driver) :
    driver.Concludes ground ((callAt point call).after driver)
      (Operation.failure? ((callAt point call).outcome driver)) :=
  (refl_of (Driver.ClosesOwn ground) driver).then_concludes (callAt_events point call driver)
    (callAt_cursors point call driver) closesNone isMid

omit closesNone

theorem setActive_tidied (connection : Connection) (isNow : Bool) :
    (setActive connection isNow).Respects (Driver.Tidied ground) :=
  .modify fun _ => .of_same rfl rfl

theorem connect_tidied (positional : List Value) (keywords : List (String × Value)) :
    (connect positional keywords).Respects (Driver.Tidied ground) :=
  -- The driver is read again for its count, so the rest is one step and not three.
  .bind (callAt_tidied rfl rfl _) fun _ _ => .of_same rfl rfl

theorem begin_tidied (connection : Connection) :
    (begin connection).Respects (Driver.Tidied ground) :=
  .bind (callAt_tidied rfl rfl _) fun _ => setActive_tidied _ _

/-- A commit that ends the transaction is no part of a query. -/
theorem commit_tidied (connection : Connection) :
    (commit connection false).Respects (Driver.Tidied ground) :=
  .bind (callAt_tidied rfl rfl _) fun _ => setActive_tidied _ _

theorem rollback_tidied (connection : Connection) :
    (rollback connection).Respects (Driver.Tidied ground) :=
  .bind (callAt_tidied rfl rfl _) fun _ => setActive_tidied _ _

/-- A statement without parameters is no part of a query. -/
theorem execute_tidied (cursor : Cursor) (sql : String) :
    (execute cursor sql none).Respects (Driver.Tidied ground) := by
  have takes : takeResponse.Respects (Driver.Tidied ground) := by
    intro driver
    rcases driver with ⟨responses, _⟩
    cases responses <;> exact .of_same rfl rfl
  refine .bind takes fun _ => ?_
  refine .bind (finish_tidied rfl rfl _) fun _ => ?_
  refine .bind (setActive_tidied _ _) fun _ => ?_
  exact .pure _

/-! ### Cursors that are closed in the end -/

/-- The cursor with a number is closed last, and before that no cursor is left open. -/
def Driver.Ends (ground number : Nat) (before after : Driver) : Prop :=
  exists middle event, before.Tidied ground middle ∧ after.events = middle.events ++ [event] ∧
    event.call.closing? = some number ∧ after.cursors = middle.cursors

/-- The end of a cursor is recorded, whether it fails or not, and no cursor is opened by it. -/
theorem closeCursor_recorded (cursor : Cursor) (driver : Driver) :
    exists failure, ((closeCursor cursor).after driver).events =
        driver.events ++ [⟨.closeCursor cursor.connection cursor.number, failure⟩] ∧
      ((closeCursor cursor).after driver).cursors = driver.cursors := by
  let failure := cursor.response.closeError.or (driver.nextFailure .closeCursor).1
  have reached : (closeCursor cursor).after driver =
      (finish (.closeCursor cursor.connection cursor.number) failure).after
        (driver.nextFailure .closeCursor).2 :=
    rfl
  refine ⟨failure, ?_, ?_⟩
  · rw [reached, finish_events, events_nextFailure]
  · rw [reached, finish_cursors, cursors_nextFailure]

theorem closeCursor_ends {cursor : Cursor} {before middle : Driver}
    (tidied : before.Tidied ground middle) :
    before.Ends ground cursor.number ((closeCursor cursor).after middle) := by
  rcases closeCursor_recorded cursor middle with ⟨failure, events, cursors⟩
  exact ⟨middle, _, tidied, events, rfl, cursors⟩

/-- A cursor that was opened is not left open if it is closed in the end. -/
theorem Driver.Leaves.ends {number : Nat} {before middle after : Driver}
    (leaves : before.Leaves ground {number} middle) (ends : middle.Ends ground number after) :
    before.Tidied ground after := by
  intro grounded
  rcases ends with ⟨last, event, tidied, same, closes, cursors⟩
  have left := leaves.then_tidied tidied grounded
  refine ⟨left.closed same closes cursors, ?_⟩
  rw [Driver.brokenOff_iff left.events same]
  rintro ⟨within, -⟩
  cases (Call.isMidQuery_of_closing closes).symm.trans within

/-- A cursor that cannot be opened leaves nothing to close. -/
theorem refused_tidied {driver left : Driver} {connection : Connection} {fault : Fault}
    (same : left.events = driver.events ++ [⟨.openCursor connection, some fault⟩])
    (cursors : left.cursors = driver.cursors) : driver.Tidied ground left := by
  refine (refl_of (Driver.ClosesOwn ground) driver).then_tidied same cursors rfl ?_
  rintro ⟨impossible, -⟩
  cases impossible

theorem openCursor_bind_tidied {connection : Connection} {β : Type}
    {next : Cursor → Operation Driver β}
    (ends : forall (number : Nat) (driver : Driver),
      driver.Ends ground number ((next ⟨connection, number, {}⟩).after driver)) :
    (openCursor connection >>= next).Respects (Driver.Tidied ground) := by
  intro driver
  rw [Operation.after_bind]
  rcases openCursor_cases connection driver with ⟨failures, ⟨fault, refused⟩ | opened⟩
  · rw [Operation.outcome_of_error refused, Operation.after_of_error refused]
    exact refused_tidied rfl rfl
  · rw [Operation.outcome_of_ok opened, Operation.after_of_ok opened]
    refine Driver.Leaves.ends ?_ (ends (driver.cursors + 1) _)
    exact .of_opened (List.append_nil _).symm rfl nofun

end Calls

end Native

namespace Adapter

open Native (Connection Driver)

variable {ground : Nat} (connection : Connection)

theorem execute_states (sql : String) (parameters : List Value) (driver : Driver) :
    driver.States ground ((Adapter.execute connection sql parameters).after driver)
      ((Adapter.execute connection sql parameters).outcome driver) := by
  let call : Native.Call := .execute connection (driver.cursors + 1) sql (some parameters)
  have opens (failure : Option Fault) {left : Driver}
      (same : left.events = driver.events ++ [⟨call, failure⟩])
      (cursors : left.cursors = driver.cursors + 1) :
      driver.Leaves ground {driver.cursors + 1} left := by
    refine .of_opened same cursors fun event member => ?_
    rw [List.mem_singleton.mp member]
    rfl
  rcases Native.openCursor_cases connection driver with ⟨failures, ⟨fault, refused⟩ | opened⟩
  · have fails : Adapter.execute connection sql parameters driver = _ :=
      Operation.bind_of_error refused _
    rw [Operation.outcome_of_error fails, Operation.after_of_error fails]
    exact Or.inl (Native.refused_tidied rfl rfl)
  · have reached : Adapter.execute connection sql parameters driver = _ :=
      Operation.bind_of_ok opened _
    unfold Operation.outcome Operation.after
    rw [reached]
    rcases driver with ⟨responses, _⟩
    cases responses with
    | nil => exact opens none rfl rfl
    | cons response rest =>
        rcases response with ⟨error, _⟩
        cases error with
        | none => exact opens none rfl rfl
        | some fault =>
            refine Or.inr ⟨_, opens (some fault) rfl rfl, ?_⟩
            exact (Native.Driver.brokenOff_iff List.prefix_rfl rfl).mpr ⟨rfl, rfl⟩

/-- What follows a statement closes no cursor.  If it fails, a query was broken off. -/
theorem afterExecute_concludes (adapter : Adapter) (inTransaction : Bool) (driver : Driver) :
    driver.Concludes ground ((adapter.afterExecute connection inTransaction).after driver)
      (Operation.failure? ((adapter.afterExecute connection inTransaction).outcome driver)) := by
  let ends : Operation Driver Unit :=
    if adapter = .firebird ∧ inTransaction = false ∧ driver.isActive connection = true
    then Native.commit connection true else pure ()
  change driver.Concludes ground (ends.after driver) (Operation.failure? (ends.outcome driver))
  unfold ends
  split
  · have retains : Native.commit connection true =
        Native.callAt .commit (.commit connection true) :=
      bind_pure_unit
    rw [retains]
    exact Native.callAt_concludes rfl rfl .commit driver
  · exact refl_of (Driver.Tidied ground) driver

theorem withStatement_tidied {α : Type} (sql : String) (use : Native.Cursor → Except Fault α) :
    (Adapter.withStatement connection sql use).Respects (Driver.Tidied ground) := by
  refine Native.openCursor_bind_tidied fun number driver => ?_
  let fresh : Native.Cursor := ⟨connection, number, {}⟩
  let left := (Native.execute fresh sql none).after driver
  have executed : driver.Tidied ground left := Native.execute_tidied fresh sql driver
  have closes (cursor : Native.Cursor) :
      driver.Ends ground cursor.number ((Native.closeCursor cursor).after left) :=
    Native.closeCursor_ends executed
  rw [Operation.after_observe_bind]
  cases given : (Native.execute fresh sql none).outcome driver with
  | ok cursor =>
      have same : cursor.number = number :=
        congrArg Native.Cursor.number (Native.cursor_of_execute given)
      change driver.Ends ground number
        ((Native.closeCursor cursor >>= fun _ => .ofExcept (use cursor)).after left)
      rw [Operation.after_bind_ofExcept, ← same]
      exact closes cursor
  | error fault =>
      change driver.Ends ground fresh.number
        ((Native.closeCursor fresh >>= fun _ => .ofExcept (.error fault)).after left)
      rw [Operation.after_bind_ofExcept]
      exact closes fresh

theorem transact_tidied (adapter : Adapter) (call : Transaction.NativeCall) :
    (adapter.transact connection call).Respects (Driver.Tidied ground) := by
  have switched (on : Bool) :
      (Native.setAutocommit connection on).Respects (Driver.Tidied ground) :=
    Native.callAt_tidied rfl rfl _
  have commits : (Native.commit connection false).Respects (Driver.Tidied ground) :=
    Native.commit_tidied connection
  have rollsBack : (Native.rollback connection).Respects (Driver.Tidied ground) :=
    Native.rollback_tidied connection
  have begins : (Native.begin connection).Respects (Driver.Tidied ground) :=
    Native.begin_tidied connection
  apply transact_cases (motive := fun operation => operation.Respects (Driver.Tidied ground))
  case control =>
    intro adapter
    cases call <;> exact withStatement_tidied _ _ _
  case direct => exact Native.callAt_tidied rfl rfl _
  case begin => exact begins
  case restart =>
    refine .bind .get fun driver => ?_
    dsimp only
    split
    · exact .bind commits fun _ => begins
    · exact begins
  case commit => exact commits
  case rollback => exact rollsBack
  case switchOff => exact switched false
  case commitBack => exact .thenAlways commits (switched true)
  case rollBack => exact .thenAlways rollsBack (switched true)

theorem prepareNatively_tidied (adapter : Adapter) (sql : String) :
    (adapter.prepareNatively connection sql).Respects (Driver.Tidied ground) := by
  have closesAlways {operation : Native.Cursor → Operation Driver Unit}
      (tidied : forall cursor, (operation cursor).Respects (Driver.Tidied ground)) :
      (Native.openCursor connection >>= fun cursor =>
        (operation cursor).thenAlways (Native.closeCursor cursor)).Respects
          (Driver.Tidied ground) := by
    refine Native.openCursor_bind_tidied fun number driver => ?_
    rw [Operation.after_thenAlways]
    exact Native.closeCursor_ends (tidied _ driver)
  cases adapter with
  | firebird =>
      exact closesAlways fun cursor =>
        .bind (Native.callAt_tidied rfl rfl _) fun _ => Native.callAt_tidied rfl rfl _
  | oracle => exact closesAlways fun cursor => Native.callAt_tidied rfl rfl _
  | mssql | mysql | odbc | postgres | sqlite => exact .throw _

theorem validate_tidied (dialect : Dialect) (sql : String) :
    (Adapter.validate dialect sql).Respects (Driver.Tidied ground) := by
  unfold validate
  split
  · exact .pure ()
  · exact .mapFault _ (Native.callAt_tidied rfl rfl _)

theorem nameService_tidied (adapter : Adapter) (params : ConnectionParams) :
    (adapter.nameService params).Respects (Driver.Tidied ground) := by
  cases adapter with
  | oracle => exact Native.attempt_tidied rfl rfl _
  | _ => exact .pure ()

theorem openConnection_tidied (adapter : Adapter) (params : ConnectionParams)
    (options : List (String × Value)) :
    (adapter.openConnection params options).Respects (Driver.Tidied ground) := by
  refine .bind .get fun _ => ?_
  refine .bind (.ofExcept _) fun _ => ?_
  refine .bind (nameService_tidied adapter params) fun _ => ?_
  refine .bind (Native.connect_tidied _ _) fun connection => ?_
  dsimp only
  split
  · exact .bind (Native.callAt_tidied rfl rfl _) fun _ => .pure _
  · exact .pure _

theorem lastInsertId_tidied (adapter : Adapter) (lastRowId : Value) :
    (adapter.lastInsertId connection lastRowId).Respects (Driver.Tidied ground) := by
  unfold lastInsertId
  split
  · exact .bind (withStatement_tidied _ _ _) fun _ => .ofExcept _
  · exact .pure _
  · exact .throw _

end Adapter
end SqlGateway
