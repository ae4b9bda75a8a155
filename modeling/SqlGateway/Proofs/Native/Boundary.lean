import SqlGateway.Proofs.Fault.Tame
import SqlGateway.Proofs.Native.Trace

namespace SqlGateway

/-!
# What a failing driver can do to an operation

A driver fails with faults of its own kinds.  A boundary says what may be seen of that on the
other side: in which faults such a failure shows, and which events are harmless, so that an
operation may go on after them.  An operation keeps to a boundary if every failure of the driver
that is not harmless ends it with a fault that shows the failure.

The statements here are about the driver itself, before its faults are seen through any
boundary of the library.  Reading a large object is no call on the record: what it fails with is
part of the row that the object stands in.
-/

/-! ## Boundaries -/

/-- What may be seen of failures of the driver. -/
structure Boundary (σ : Type) where
  /-- The states from which the driver only fails with its own faults. -/
  ready : σ → Prop
  /-- What may happen between two states without a fault that shows it. -/
  harmless : σ → σ → Prop
  /-- The faults that show a failure of the driver. -/
  shows : Fault → Prop

namespace Boundary

variable {σ α β : Type}

/-- What a boundary allows an operation to come to. -/
def Allows (boundary : Boundary σ) (ensures : α → Prop) (before after : σ) :
    Except Fault α → Prop
  | .ok value => ensures value ∧ boundary.harmless before after
  | .error fault =>
    boundary.shows fault ∨ fault.involvesDriver = false ∧ boundary.harmless before after

/-- An operation that keeps to a boundary and ensures something of the value that it gives. -/
def Keeps (boundary : Boundary σ) (ensures : α → Prop) (operation : Operation σ α) : Prop :=
  forall state, boundary.ready state -> boundary.ready (operation.after state) ∧
    boundary.Allows ensures state (operation.after state) (operation.outcome state)

/-- The faults of the driver that leave an operation as they are. -/
def Leaks (boundary : Boundary σ) (leaks : σ → Fault → Prop) (operation : Operation σ α) : Prop :=
  forall state, boundary.ready state -> forall fault, fault.kind.isNative = true ->
    (operation.outcome state = .error fault ↔ leaks state fault)

end Boundary

namespace Boundary.Keeps

variable {σ τ α β : Type} {boundary : Boundary σ} {ensures : α → Prop} {promises : β → Prop}

/-- A wider boundary shows more. -/
theorem widen {wider : Boundary σ} {operation : Operation σ α}
    (keeps : boundary.Keeps ensures operation) (ready : wider.ready = boundary.ready)
    (harmless : wider.harmless = boundary.harmless)
    (shown : forall fault, boundary.shows fault -> wider.shows fault) :
    wider.Keeps ensures operation := by
  intro state started
  rw [ready] at started ⊢
  rcases keeps state started with ⟨left, allowed⟩
  refine ⟨left, ?_⟩
  unfold Boundary.Allows at allowed ⊢
  rw [harmless]
  cases found : operation.outcome state with
  | error fault =>
      rw [found] at allowed
      exact allowed.imp (shown fault) id
  | ok value =>
      rw [found] at allowed
      exact allowed

/-- The same operation seen through a function on faults. -/
theorem mapFault {outer : Boundary σ} {operation : Operation σ α} {view : Fault → Fault}
    (keeps : boundary.Keeps ensures operation) (ready : outer.ready = boundary.ready)
    (harmless : outer.harmless = boundary.harmless)
    (shown : forall fault, boundary.shows fault -> outer.shows (view fault))
    (tame : forall fault, fault.involvesDriver = false -> (view fault).involvesDriver = false) :
    outer.Keeps ensures (operation.mapFault view) := by
  intro state started
  rw [ready] at started ⊢
  rcases keeps state started with ⟨left, allowed⟩
  rw [Operation.after_mapFault, Operation.outcome_mapFault]
  refine ⟨left, ?_⟩
  cases found : operation.outcome state with
  | error fault =>
      rw [found] at allowed
      refine allowed.imp (shown fault) fun silent => ⟨tame fault silent.1, ?_⟩
      rw [harmless]
      exact silent.2
  | ok value =>
      rw [found] at allowed
      refine ⟨allowed.1, ?_⟩
      rw [harmless]
      exact allowed.2

/-- An operation on a part of the state keeps to the boundary around that part. -/
theorem within {inner : Boundary τ} {part : σ → τ} {replace : σ → τ → σ}
    {operation : Operation τ α} (keeps : inner.Keeps ensures operation)
    (enters : forall state, boundary.ready state -> inner.ready (part state))
    (leaves : forall state changed, boundary.ready state -> inner.ready changed ->
      boundary.ready (replace state changed))
    (harmless : forall state changed, inner.harmless (part state) changed ->
      boundary.harmless state (replace state changed))
    (shows : inner.shows = boundary.shows) :
    boundary.Keeps ensures (Operation.within part replace operation) := by
  intro state ready
  rcases keeps (part state) (enters state ready) with ⟨left, allowed⟩
  rw [Operation.after_within, Operation.outcome_within]
  refine ⟨leaves state _ ready left, ?_⟩
  cases found : operation.outcome (part state) with
  | error fault =>
      rw [found] at allowed
      exact allowed.imp (fun shown => shows ▸ shown)
        fun silent => ⟨silent.1, harmless state _ silent.2⟩
  | ok value =>
      rw [found] at allowed
      exact ⟨allowed.1, harmless state _ allowed.2⟩

theorem modify {change : σ → σ}
    (ready : forall state, boundary.ready state -> boundary.ready (change state))
    (harmless : forall state, boundary.harmless state (change state)) :
    boundary.Keeps (fun _ => True) (modify change : Operation σ Unit) :=
  fun state started => ⟨ready state started, trivial, harmless state⟩

variable [IsPreorder σ boundary.harmless]

theorem pure {value : α} (ensured : ensures value) :
    boundary.Keeps ensures (pure value : Operation σ α) :=
  fun state ready => ⟨ready, ensured, refl_of boundary.harmless state⟩

theorem throw {fault : Fault} (tame : fault.involvesDriver = false) :
    boundary.Keeps ensures (throw fault : Operation σ α) :=
  fun state ready => ⟨ready, Or.inr ⟨tame, refl_of boundary.harmless state⟩⟩

/-- The state that is read is one that the boundary is around. -/
theorem get : boundary.Keeps boundary.ready (get : Operation σ σ) :=
  fun state ready => ⟨ready, ready, refl_of boundary.harmless state⟩

theorem ofExcept {found : Except Fault α}
    (faults : forall fault, found = .error fault ->
      boundary.shows fault ∨ fault.involvesDriver = false)
    (values : forall value, found = .ok value -> ensures value) :
    boundary.Keeps ensures (Operation.ofExcept found : Operation σ α) := by
  intro state ready
  rw [Operation.after_ofExcept, Operation.outcome_ofExcept]
  refine ⟨ready, ?_⟩
  cases found with
  | error fault =>
      exact (faults fault rfl).imp id fun tame => ⟨tame, refl_of boundary.harmless state⟩
  | ok value => exact ⟨values value rfl, refl_of boundary.harmless state⟩

theorem ofTame {found : Except Fault α} (tame : Tame found) :
    boundary.Keeps (fun _ => True) (Operation.ofExcept found : Operation σ α) :=
  ofExcept (fun _ fails => Or.inr (tame.involvesDriver fails)) fun _ _ => trivial

/-- What an operation comes to after something harmless. -/
theorem after {operation : Operation σ α} (keeps : boundary.Keeps ensures operation)
    {state reached : σ} (harmless : boundary.harmless state reached)
    (ready : boundary.ready reached) :
    boundary.ready (operation.after reached) ∧
      boundary.Allows ensures state (operation.after reached) (operation.outcome reached) := by
  rcases keeps reached ready with ⟨left, allowed⟩
  refine ⟨left, ?_⟩
  cases found : operation.outcome reached with
  | error fault =>
      rw [found] at allowed
      exact allowed.imp id fun silent => ⟨silent.1, trans_of boundary.harmless harmless silent.2⟩
  | ok value =>
      rw [found] at allowed
      exact ⟨allowed.1, trans_of boundary.harmless harmless allowed.2⟩

theorem bind {first : Operation σ α} {next : α → Operation σ β}
    (keeps : boundary.Keeps ensures first)
    (rest : forall value, ensures value -> boundary.Keeps promises (next value)) :
    boundary.Keeps promises (first >>= next) := by
  intro state ready
  rcases keeps state ready with ⟨left, allowed⟩
  rw [Operation.after_bind, Operation.outcome_bind]
  cases found : first.outcome state with
  | error fault =>
      rw [found] at allowed
      exact ⟨left, allowed⟩
  | ok value =>
      rw [found] at allowed
      exact (rest value allowed.1).after allowed.2 left

/-- An operation that is done whatever came of the first hides its failure only behind a failure
of the driver. -/
theorem thenAlways {operation : Operation σ α} {last : Operation σ Unit}
    (keeps : boundary.Keeps ensures operation)
    (ends : boundary.Keeps (fun _ => True) last)
    (shown : forall state fault, boundary.ready state -> last.outcome state = .error fault ->
      boundary.shows fault) : boundary.Keeps ensures (operation.thenAlways last) := by
  intro state ready
  rcases keeps state ready with ⟨left, allowed⟩
  rcases ends _ left with ⟨after, allowedAfter⟩
  unfold Operation.thenAlways
  rw [Operation.after_observe_bind, Operation.outcome_observe_bind, Operation.after_bind,
    Operation.outcome_bind]
  cases ended : last.outcome (operation.after state) with
  | error fault => exact ⟨after, Or.inl (shown _ fault left ended)⟩
  | ok value =>
      rw [ended] at allowedAfter
      simp only
      rw [Operation.after_ofExcept, Operation.outcome_ofExcept]
      refine ⟨after, ?_⟩
      cases found : operation.outcome state with
      | error fault =>
          rw [found] at allowed
          exact allowed.imp id fun silent =>
            ⟨silent.1, trans_of boundary.harmless silent.2 allowedAfter.2⟩
      | ok value =>
          rw [found] at allowed
          exact ⟨allowed.1, trans_of boundary.harmless allowed.2 allowedAfter.2⟩

end Boundary.Keeps

namespace Boundary.Leaks

variable {σ τ α β : Type} {boundary : Boundary σ} {ensures : α → Prop}
  {leaks : σ → Fault → Prop}

/-- No fault of the driver leaves an operation that shows none of them. -/
theorem of_keeps {operation : Operation σ α} (keeps : boundary.Keeps ensures operation)
    (foreign : forall fault, boundary.shows fault -> fault.kind.isNative = false) :
    boundary.Leaks (fun _ _ => False) operation := by
  intro state ready fault native
  refine ⟨fun fails => ?_, False.elim⟩
  rcases keeps state ready with ⟨-, allowed⟩
  rw [fails] at allowed
  have known : fault.kind.isNative = false := by
    rcases allowed with shown | ⟨tame, -⟩
    · exact foreign fault shown
    · exact fault.isNative_of_tame tame
  cases native.symm.trans known

theorem congr {others : σ → Fault → Prop} {operation : Operation σ α}
    (leaky : boundary.Leaks leaks operation)
    (same : forall state, boundary.ready state -> forall fault, fault.kind.isNative = true ->
      (leaks state fault ↔ others state fault)) : boundary.Leaks others operation :=
  fun state ready fault native => (leaky state ready fault native).trans
    (same state ready fault native)

/-- What leaves a sequence leaves its first part, or what follows on its value. -/
theorem bind {first : Operation σ α} {next : α → Operation σ β}
    {others : α → σ → Fault → Prop} (leaky : boundary.Leaks leaks first)
    (keeps : boundary.Keeps ensures first)
    (rest : forall value, ensures value -> boundary.Leaks (others value) (next value)) :
    boundary.Leaks (fun state fault => leaks state fault ∨
      exists value left, first state = .ok value left ∧ others value left fault)
      (first >>= next) := by
  intro state ready fault native
  have early := leaky state ready fault native
  rcases keeps state ready with ⟨left, allowed⟩
  have ran := Operation.run_eq first state
  rw [Operation.outcome_bind]
  cases found : first.outcome state with
  | error reason =>
      rw [found] at early ran
      constructor
      · intro fails
        cases fails
        exact Or.inl (early.mp rfl)
      · rintro (here | ⟨value, reached, succeeds, -⟩)
        · cases early.mpr here
          rfl
        · cases ran.symm.trans succeeds
  | ok value =>
      rw [found] at early allowed ran
      have late := rest value allowed.1 (first.after state) left fault native
      refine late.trans ⟨fun leaked => Or.inr ⟨value, _, ran, leaked⟩, fun leaked => ?_⟩
      rcases leaked with here | ⟨given, reached, succeeds, leaked⟩
      · cases early.mpr here
      · cases ran.symm.trans succeeds
        exact leaked

/-- Nothing leaves what follows. -/
theorem before {first : Operation σ α} {next : α → Operation σ β}
    (leaky : boundary.Leaks leaks first) (keeps : boundary.Keeps ensures first)
    (silent : forall value, ensures value -> boundary.Leaks (fun _ _ => False) (next value)) :
    boundary.Leaks leaks (first >>= next) := by
  refine (leaky.bind keeps silent).congr fun state _ fault _ => ⟨fun leaked => ?_, Or.inl⟩
  rcases leaked with here | ⟨value, left, -, impossible⟩
  · exact here
  · exact impossible.elim

/-- Nothing leaves what comes first. -/
theorem afterSilent {first : Operation σ α} {next : α → Operation σ β}
    {others : α → σ → Fault → Prop} (silent : boundary.Leaks (fun _ _ => False) first)
    (keeps : boundary.Keeps ensures first)
    (rest : forall value, ensures value -> boundary.Leaks (others value) (next value)) :
    boundary.Leaks (fun state fault =>
      exists value left, first state = .ok value left ∧ others value left fault)
      (first >>= next) :=
  (silent.bind keeps rest).congr fun _ _ _ _ =>
    ⟨fun leaked => leaked.resolve_left id, Or.inr⟩

/-- An operation on a part of the state. -/
theorem within {inner : Boundary τ} {part : σ → τ} {replace : σ → τ → σ}
    {leaks : τ → Fault → Prop} {operation : Operation τ α} (leaky : inner.Leaks leaks operation)
    (enters : forall state, boundary.ready state -> inner.ready (part state)) :
    boundary.Leaks (fun state => leaks (part state))
      (Operation.within part replace operation) := by
  intro state ready fault native
  rw [Operation.outcome_within]
  exact leaky (part state) (enters state ready) fault native

end Boundary.Leaks

/-! ## A driver that fails with its own faults -/

namespace Native

/-- Everything that can fail about a response fails with a fault of the driver. -/
structure Response.FailsNatively (response : Response) : Prop where
  error : forall fault, response.error = some fault -> fault.kind.isNative = true
  fetchError : forall fault, response.fetchError = some fault -> fault.kind.isNative = true
  closeError : forall fault, response.closeError = some fault -> fault.kind.isNative = true
  /-- A large object that cannot be read fails with a fault of the driver. -/
  rows : forall row fault, row ∈ response.rows -> .locator (.error fault) ∈ row ->
    fault.kind.isNative = true

theorem Response.failsNatively_default : ({} : Response).FailsNatively :=
  ⟨nofun, nofun, nofun, nofun⟩

/-- The faults of a place in a driver that fails with its own faults.  The check of a grammar may
fail with faults that have nothing to do with the driver as well. -/
def FailPoint.IsProper (point : FailPoint) (fault : Fault) : Prop :=
  fault.kind.isNative = true ∨ point = .grammar ∧ fault.involvesDriver = false

/-- All failures to come are faults of the driver. -/
structure Driver.FailsNatively (driver : Driver) : Prop where
  responses : forall response, response ∈ driver.responses -> response.FailsNatively
  failures : forall point failures fault, driver.failures.get? point = some failures ->
    some fault ∈ failures -> point.IsProper fault

/-- An event that can be met in an operation whose outcome does not show it: a call that did not
fail with a fault of the driver, or the end of a cursor. -/
def Event.IsHarmless (event : Event) : Prop :=
  forall fault, event.failure = some fault -> fault.kind.isNative = true ->
    exists connection cursor, event.call = .closeCursor connection cursor

/-- The boundary around a driver that shows its failures in certain faults. -/
def boundary (shows : Fault → Prop) : Boundary Driver where
  ready := Driver.FailsNatively
  harmless := Driver.Adds Event.IsHarmless
  shows := shows

instance (shows : Fault → Prop) : IsPreorder Driver (boundary shows).harmless :=
  inferInstanceAs (IsPreorder Driver (Driver.Adds Event.IsHarmless))

/-- The boundary around a driver that is used as it is. -/
def bare : Boundary Driver := boundary fun fault => fault.kind.isNative = true

instance : IsPreorder Driver bare.harmless :=
  inferInstanceAs (IsPreorder Driver (Driver.Adds Event.IsHarmless))

section Calls

variable {shows : Fault → Prop}

/-- A change of the driver that is neither recorded nor about failures. -/
theorem unrecorded_keeps {α : Type} {ensures : α → Prop} {value : α}
    {operation : Operation Driver α} {driver left : Driver}
    (run : operation driver = .ok value left) (ensured : ensures value)
    (ready : left.FailsNatively) (same : left.events = driver.events) :
    (boundary shows).ready (operation.after driver) ∧
      (boundary shows).Allows ensures driver (operation.after driver)
        (operation.outcome driver) := by
  rw [Operation.after_of_ok run, Operation.outcome_of_ok run]
  exact ⟨ready, ensured, .of_same same⟩

/-- The next failure of a place is one of that place, and so are those that are left. -/
theorem Driver.FailsNatively.nextFailure {driver : Driver} (ready : driver.FailsNatively)
    (point : FailPoint) :
    (driver.nextFailure point).2.FailsNatively ∧
      forall fault, (driver.nextFailure point).1 = some fault -> point.IsProper fault := by
  unfold Driver.nextFailure
  split
  · rename_i failure rest found
    refine ⟨⟨ready.responses, fun other failures fault listed member => ?_⟩, fun fault same => ?_⟩
    · rw [Dictionary.get?_put] at listed
      split at listed
      · rename_i here
        cases listed
        exact ready.failures other _ fault (here ▸ found) (List.mem_cons_of_mem _ member)
      · exact ready.failures other failures fault listed member
    · cases same
      exact ready.failures point _ fault found List.mem_cons_self
  all_goals
    refine ⟨ready, fun fault same => ?_⟩
    cases same

/-- Only the check of a grammar fails with other faults than those of the driver. -/
theorem FailPoint.IsProper.isNative {point : FailPoint} {fault : Fault}
    (proper : point.IsProper fault) (isDriver : point ≠ .grammar) : fault.kind.isNative = true :=
  proper.resolve_right fun ⟨impossible, _⟩ => isDriver impossible

theorem takeFailure_keeps (point : FailPoint) :
    (boundary shows).Keeps
      (fun failure => forall fault, failure = some fault -> point.IsProper fault)
      (takeFailure point) := by
  intro driver ready
  rcases ready.nextFailure point with ⟨left, proper⟩
  exact unrecorded_keeps rfl proper left (events_nextFailure driver point)

/-- A call that fails as the boundary shows, or in a way that the driver has no part in. -/
theorem finish_keeps (call : Call) {failure : Option Fault}
    (faults : forall fault, failure = some fault ->
      shows fault ∨ fault.involvesDriver = false ∧ fault.kind.isNative = false) :
    (boundary shows).Keeps (fun _ => True) (finish call failure) := by
  intro driver ready
  have left (failure : Option Fault) : (driver.record call failure).FailsNatively :=
    ⟨ready.responses, ready.failures⟩
  have recorded (failure : Option Fault)
      (harmless : forall fault, failure = some fault -> fault.kind.isNative = false) :
      driver.Adds Event.IsHarmless (driver.record call failure) := by
    refine ⟨[⟨call, failure⟩], rfl, fun event member fault failed native => ?_⟩
    rw [List.mem_singleton.mp member] at failed
    rw [harmless fault failed] at native
    cases native
  cases failure with
  | none => exact ⟨left none, trivial, recorded none nofun⟩
  | some fault =>
      refine ⟨left (some fault), (faults fault rfl).imp id fun tame => ⟨tame.1, recorded _ ?_⟩⟩
      intro other same
      cases same
      exact tame.2

theorem finish_keeps_of_proper (call : Call) {point : FailPoint} {failure : Option Fault}
    (proper : forall fault, failure = some fault -> point.IsProper fault) :
    bare.Keeps (fun _ => True) (finish call failure) :=
  finish_keeps call fun fault fails => (proper fault fails).imp id fun known =>
    ⟨known.2, fault.isNative_of_tame known.2⟩

theorem callAt_keeps (point : FailPoint) (call : Call) :
    bare.Keeps (fun _ => True) (callAt point call) :=
  .bind (takeFailure_keeps point) fun _ proper => finish_keeps_of_proper call proper

theorem attempt_keeps (point : FailPoint) (call : Call) :
    bare.Keeps (fun _ => True) (attempt point call) := by
  refine .bind (takeFailure_keeps point) fun failure proper => ?_
  cases failure with
  | none => exact .pure trivial
  | some fault => exact finish_keeps_of_proper call proper

theorem setActive_keeps (connection : Connection) (isNow : Bool) :
    (boundary shows).Keeps (fun _ => True) (setActive connection isNow) :=
  .modify (fun _ ready => ⟨ready.responses, ready.failures⟩) fun _ => .of_same rfl

theorem connect_keeps (positional : List Value) (keywords : List (String × Value)) :
    bare.Keeps (fun _ => True) (connect positional keywords) :=
  .bind (callAt_keeps _ _) fun _ _ _ ready =>
    unrecorded_keeps rfl trivial ⟨ready.responses, ready.failures⟩ rfl

theorem begin_keeps (connection : Connection) : bare.Keeps (fun _ => True) (begin connection) :=
  .bind (callAt_keeps _ _) fun _ _ => setActive_keeps _ _

theorem commit_keeps (connection : Connection) (retaining : Bool) :
    bare.Keeps (fun _ => True) (commit connection retaining) := by
  refine .bind (callAt_keeps _ _) fun _ _ => ?_
  cases retaining with
  | true => exact .pure trivial
  | false => exact setActive_keeps connection false

theorem rollback_keeps (connection : Connection) :
    bare.Keeps (fun _ => True) (rollback connection) :=
  .bind (callAt_keeps _ _) fun _ _ => setActive_keeps _ _

theorem openCursor_keeps (connection : Connection) :
    bare.Keeps (fun cursor => cursor.response.FailsNatively) (openCursor connection) :=
  .bind (attempt_keeps _ _) fun _ _ _ ready =>
    unrecorded_keeps rfl Response.failsNatively_default ⟨ready.responses, ready.failures⟩ rfl

theorem takeResponse_keeps : bare.Keeps Response.FailsNatively takeResponse := by
  intro driver ready
  rcases driver with ⟨responses, _⟩
  cases responses with
  | nil =>
      exact unrecorded_keeps rfl Response.failsNatively_default
        ⟨ready.responses, ready.failures⟩ rfl
  | cons response rest =>
      exact unrecorded_keeps rfl (ready.responses response List.mem_cons_self)
        ⟨fun other member => ready.responses other (List.mem_cons_of_mem _ member),
          ready.failures⟩ rfl

/-- A statement leaves a cursor whose fetches and end fail with faults of the driver. -/
theorem execute_keeps (cursor : Cursor) (sql : String) (parameters : Option (List Value)) :
    bare.Keeps (fun cursor => cursor.response.FailsNatively) (execute cursor sql parameters) := by
  refine .bind takeResponse_keeps fun _ native => ?_
  refine .bind (finish_keeps _ fun fault fails => Or.inl (native.error fault fails)) fun _ _ => ?_
  refine .bind (setActive_keeps _ _) fun _ _ => ?_
  exact .pure native

/-- What the end of a cursor fails with. -/
theorem closing_isProper {cursor : Cursor} (native : cursor.response.FailsNatively)
    {failure : Option Fault}
    (proper : forall fault, failure = some fault -> FailPoint.closeCursor.IsProper fault)
    (fault : Fault) (fails : cursor.response.closeError.or failure = some fault) :
    FailPoint.closeCursor.IsProper fault := by
  rcases Option.or_eq_some_iff.mp fails with here | ⟨-, scripted⟩
  · exact Or.inl (native.closeError fault here)
  · exact proper fault scripted

theorem closeCursor_keeps {cursor : Cursor} (native : cursor.response.FailsNatively) :
    bare.Keeps (fun _ => True) (closeCursor cursor) :=
  .bind (takeFailure_keeps .closeCursor) fun _ proper =>
    finish_keeps_of_proper _ (closing_isProper native proper)

theorem failure_of_finish {call : Call} {failure : Option Fault} (driver : Driver) {fault : Fault}
    (fails : (finish call failure).outcome driver = .error fault) : failure = some fault := by
  cases failure with
  | none => cases fails
  | some reason =>
      cases fails
      rfl

/-- The end of a cursor fails with faults of the driver only. -/
theorem closeCursor_shows {cursor : Cursor} (native : cursor.response.FailsNatively)
    {driver : Driver} (ready : driver.FailsNatively) {fault : Fault}
    (fails : (closeCursor cursor).outcome driver = .error fault) : fault.kind.isNative = true := by
  have closing : cursor.response.closeError.or (driver.nextFailure .closeCursor).1 = some fault :=
    failure_of_finish (driver.nextFailure .closeCursor).2 fails
  exact (closing_isProper native (ready.nextFailure .closeCursor).2 fault closing).isNative nofun

/-- A call that fails, fails with a fault of the driver. -/
theorem callAt_shows {point : FailPoint} {call : Call} (isDriver : point ≠ .grammar)
    {driver : Driver} (ready : driver.FailsNatively) {fault : Fault}
    (fails : (callAt point call).outcome driver = .error fault) : fault.kind.isNative = true := by
  have failing : (driver.nextFailure point).1 = some fault :=
    failure_of_finish (driver.nextFailure point).2 fails
  exact ((ready.nextFailure point).2 fault failing).isNative isDriver

end Calls
end Native

/-! ## What adapters do with the driver -/

namespace Adapter

open Native (Driver Connection Cursor bare closeCursor_keeps closeCursor_shows)

variable {shows : Fault → Prop}

theorem nameService_keeps (adapter : Adapter) (params : ConnectionParams) :
    bare.Keeps (fun _ => True) (adapter.nameService params) := by
  cases adapter with
  | oracle => exact Native.attempt_keeps _ _
  | _ => exact .pure trivial

theorem openConnection_keeps (adapter : Adapter) (params : ConnectionParams)
    (options : List (String × Value)) :
    bare.Keeps (fun _ => True) (adapter.openConnection params options) := by
  refine .bind .get fun driver _ => ?_
  refine .bind (.ofTame (connectArguments_tame _ _ _ _)) fun _ _ => ?_
  refine .bind (nameService_keeps adapter params) fun _ _ => ?_
  refine .bind (Native.connect_keeps _ _) fun connection _ => ?_
  simp only
  split
  · exact .bind (Native.callAt_keeps _ _) fun _ _ => .pure trivial
  · exact .pure trivial

theorem execute_keeps (connection : Connection) (sql : String) (parameters : List Value) :
    bare.Keeps (fun cursor => cursor.response.FailsNatively)
      (Adapter.execute connection sql parameters) :=
  .bind (Native.openCursor_keeps connection) fun cursor _ => Native.execute_keeps cursor _ _

theorem afterExecute_keeps (adapter : Adapter) (connection : Connection) (inTransaction : Bool) :
    bare.Keeps (fun _ => True) (adapter.afterExecute connection inTransaction) := by
  refine .bind .get fun driver _ => ?_
  split
  · exact Native.commit_keeps _ _
  · exact .pure trivial

/-- A statement on a cursor of its own fails with a fault of the driver, or it is used in vain. -/
theorem withStatement_keeps {α : Type} (connection : Connection) (sql : String)
    {use : Cursor → Except Fault α}
    (uses : forall cursor fault, cursor.response.FailsNatively -> use cursor = .error fault ->
      fault.kind.isNative = true) :
    bare.Keeps (fun _ => True) (Adapter.withStatement connection sql use) := by
  refine .bind (Native.openCursor_keeps connection) fun fresh native driver ready => ?_
  let executing := Native.execute fresh sql none
  have executes := Native.execute_keeps fresh sql none
  have reads (cursor : Cursor) (native : cursor.response.FailsNatively) :
      bare.Keeps (fun _ => True) (.ofExcept (use cursor)) :=
    .ofExcept (fun fault fails => Or.inl (uses cursor fault native fails)) fun _ _ => trivial
  rw [Operation.after_observe_bind, Operation.outcome_observe_bind]
  cases found : executing.outcome driver with
  | error fault =>
      -- The statement failed, so its cursor is closed as after any operation that comes to this.
      let read : Operation Driver α := executing >>= fun cursor => .ofExcept (use cursor)
      have reading : read.outcome driver = .error fault ∧
          read.after driver = executing.after driver := by
        rw [Operation.outcome_bind, Operation.after_bind, found]
        exact ⟨rfl, rfl⟩
      have closed := Boundary.Keeps.thenAlways (.bind executes reads) (closeCursor_keeps native)
        (fun _ _ ready fails => closeCursor_shows native ready fails) driver ready
      have reached : (read.thenAlways (Native.closeCursor fresh)) driver =
          (Native.closeCursor fresh >>= fun _ => throw fault) (executing.after driver) := by
        unfold Operation.thenAlways
        rw [Operation.observe_bind, reading.1, reading.2]
        rfl
      rw [Operation.after, Operation.outcome, reached] at closed
      exact closed
  | ok cursor =>
      rcases executes driver ready with ⟨left, allowed⟩
      rw [found] at allowed
      exact (Boundary.Keeps.bind (closeCursor_keeps allowed.1) fun _ _ =>
        reads cursor allowed.1).after allowed.2 left

/-- Beginning and ending a transaction fails with faults of the driver. -/
theorem transact_keeps (adapter : Adapter) (connection : Connection)
    (call : Transaction.NativeCall) :
    bare.Keeps (fun _ => True) (adapter.transact connection call) := by
  have isDriver : Native.FailPoint.setAutocommit ≠ .grammar := nofun
  have switched (on : Bool) : bare.Keeps (fun _ => True) (Native.setAutocommit connection on) :=
    Native.callAt_keeps _ _
  have switchedBack {operation : Operation Driver Unit}
      (keeps : bare.Keeps (fun _ => True) operation) :
      bare.Keeps (fun _ => True)
        (operation.thenAlways (Native.setAutocommit connection true)) :=
    .thenAlways keeps (switched true) fun _ _ ready fails =>
      Native.callAt_shows isDriver ready fails
  refine transact_cases (motive := bare.Keeps fun _ => True) (fun adapter => ?_)
    (Native.callAt_keeps _ _) (Native.begin_keeps _) ?_ (Native.commit_keeps _ _)
    (Native.rollback_keeps _) (switched false) (switchedBack (Native.commit_keeps _ _))
    (switchedBack (Native.rollback_keeps _)) adapter
  · cases call <;> exact withStatement_keeps _ _ nofun
  · refine .bind .get fun driver _ => ?_
    simp only
    split
    · exact .bind (Native.commit_keeps _ _) fun _ _ => Native.begin_keeps _
    · exact Native.begin_keeps _

theorem prepareNatively_keeps (adapter : Adapter) (connection : Connection) (sql : String) :
    bare.Keeps (fun _ => True) (adapter.prepareNatively connection sql) := by
  have onCursor {operation : Cursor → Operation Driver Unit}
      (keeps : forall cursor, bare.Keeps (fun _ => True) (operation cursor)) :
      bare.Keeps (fun _ => True) (Native.openCursor connection >>= fun cursor =>
        (operation cursor).thenAlways (Native.closeCursor cursor)) :=
    .bind (Native.openCursor_keeps connection) fun cursor native =>
      .thenAlways (keeps cursor) (closeCursor_keeps native) fun _ _ ready fails =>
        closeCursor_shows native ready fails
  cases adapter with
  | firebird =>
      exact onCursor fun cursor =>
        .bind (Native.callAt_keeps _ _) fun _ _ => Native.callAt_keeps _ _
  | oracle => exact onCursor fun cursor => Native.callAt_keeps _ _
  | _ => exact .throw rfl

/-- A fault of the driver in the check of a grammar is let through. -/
theorem grammarFault_of_isNative {fault : Fault} (native : fault.kind.isNative = true) :
    grammarFault fault = fault := by
  have neither (kind : FaultKind) (native : kind.isNative = true) :
      (kind.isA (.foreign .grammar) || kind.isA (.foreign .token)) = false := by
    cases kind with
    | library kind => cases native
    | foreign kind =>
        revert native
        cases kind <;> decide
  unfold grammarFault
  rw [neither fault.kind native, if_neg Bool.false_ne_true]

theorem validate_keeps (dialect : Dialect) (sql : String) :
    bare.Keeps (fun _ => True) (Adapter.validate dialect sql) := by
  unfold Adapter.validate
  split
  · exact .pure trivial
  · refine (Native.callAt_keeps .grammar _).mapFault rfl rfl (fun fault native => ?_)
      fun fault tame => ?_
    · rw [grammarFault_of_isNative native]
      exact native
    · unfold grammarFault
      split
      · rw [Fault.involvesDriver_because, tame]
      · exact tame

theorem lastInsertId_keeps (adapter : Adapter) (connection : Connection) (lastRowId : Value) :
    bare.Keeps (fun _ => True) (adapter.lastInsertId connection lastRowId) := by
  have fetches (cursor : Cursor) (fault : Fault) (native : cursor.response.FailsNatively)
      (fails : cursor.fetchRow.1 = .error fault) : fault.kind.isNative = true := by
    unfold Native.Cursor.fetchRow at fails
    split at fails
    · cases fails
    · rename_i reason _ _
      cases fails
      exact native.fetchError _ ‹_›
    · cases fails
  unfold Adapter.lastInsertId
  split
  · exact .bind (withStatement_keeps _ _ fetches) fun row _ =>
      .ofExcept (fun fault fails => Or.inr (firstNumber_silent row fault fails)) fun _ _ => trivial
  · exact .pure trivial
  · exact .throw rfl

end Adapter
end SqlGateway
