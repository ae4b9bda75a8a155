import SqlGateway.Proofs.Fault.Tame
import SqlGateway.Proofs.Native.Trace
import SqlGateway.Proofs.Operation.Success

namespace SqlGateway

/-!
# What fails as unsupported

The library has a fault of its own for what a driver cannot do.  A driver that is built on the
library may raise it as well, and the library passes it on.  An operation relays the fault if it
never raises it itself: where it fails in this way, a call that it made of the driver did.

What follows a statement may fail in this way when the statement has been run.  An operation takes
effect if it sent its statement wherever it comes so far, that is, wherever it succeeds or fails as
unsupported by itself.  It does if everything before the statement relays, whatever comes after it.
-/

namespace Native

variable {σ τ α β : Type}

/-- A call that failed as unsupported. -/
def Event.IsDeclined (event : Event) : Prop :=
  exists fault, event.failure = some fault ∧ fault.isUnsupported = true

/-- A call of the driver failed as unsupported. -/
def Driver.Declines (before after : Driver) : Prop :=
  before.Sends (fun _ => True) Event.IsDeclined (fun _ => True) after

/-- What the driver within a state adds to its record. -/
def Adding (driver : σ → Driver) (allowed : Event → Prop) (before after : σ) : Prop :=
  (driver before).Adds allowed (driver after)

instance (driver : σ → Driver) (allowed : Event → Prop) : IsPreorder σ (Adding driver allowed) where
  refl state := refl_of (Driver.Adds _) (driver state)
  trans _ _ _ first second := trans_of (Driver.Adds _) first second

/-- An operation that fails as unsupported only if a call of the driver did. -/
structure Relays (driver : σ → Driver) (operation : Operation σ α) : Prop where
  adds : operation.Respects (Adding driver fun _ => True)
  declines : forall state fault left, operation state = .error fault left ->
    fault.isUnsupported = true -> (driver state).Declines (driver left)

/-- Where an operation succeeds it sent a statement of a kind.  So it did where it fails as
unsupported, unless a call of the driver failed in this way. -/
structure TakesEffect (driver : σ → Driver) (allowed sent later : Event → Prop)
    (operation : Operation σ α) (state : σ) : Prop where
  succeeds : operation.MayGive state fun _ left =>
    (driver state).Sends allowed sent later (driver left)
  unsupported : forall fault left, operation state = .error fault left ->
    fault.isUnsupported = true -> (driver state).Declines (driver left) ∨
      (driver state).Sends allowed sent later (driver left)

/-! ## Operations that relay -/

namespace Relays

variable {driver : σ → Driver} {operation : Operation σ α}

/-- An operation that never fails as unsupported. -/
theorem of_supported (adds : operation.Respects (Adding driver fun _ => True))
    (supported : forall state fault left, operation state = .error fault left ->
      fault.isUnsupported = false) : Relays driver operation := by
  refine ⟨adds, fun state fault left fails unsupported => ?_⟩
  cases unsupported.symm.trans (supported state fault left fails)

theorem of_unfailing (adds : operation.Respects (Adding driver fun _ => True))
    (unfailing : forall state fault left, operation state ≠ .error fault left) :
    Relays driver operation :=
  of_supported adds fun state fault left fails => absurd fails (unfailing state fault left)

theorem pure {value : α} : Relays driver (pure value : Operation σ α) :=
  of_unfailing (.pure value) nofun

theorem get : Relays driver (get : Operation σ σ) := of_unfailing .get nofun

theorem modify {change : σ → σ} (same : forall state, driver (change state) = driver state) :
    Relays driver (modify change : Operation σ Unit) := by
  refine of_unfailing (.modify fun state => ?_) nofun
  rw [Adding, same]
  exact refl_of (Driver.Adds _) (driver state)

theorem ofTame {found : Except Fault α} (tame : Tame found) :
    Relays driver (Operation.ofExcept found : Operation σ α) :=
  of_supported (.ofExcept found) fun _ _ _ fails =>
    tame.isUnsupported (Operation.ofExcept_eq_error.mp fails).1

theorem bind {next : α → Operation σ β} (relays : Relays driver operation)
    (rest : forall value, Relays driver (next value)) : Relays driver (operation >>= next) := by
  refine ⟨.bind relays.adds fun value => (rest value).adds, ?_⟩
  intro state fault left fails declined
  rcases Operation.error_of_bind fails with early | ⟨value, middle, ran, late⟩
  · exact relays.declines state fault left early declined
  · have added := relays.adds state
    rw [Operation.after_of_ok ran] at added
    exact ((rest value).declines middle fault left late declined).of_adds added

/-- A view of faults that makes none unsupported. -/
theorem mapFault {view : Fault → Fault} (relays : Relays driver operation)
    (passes : forall fault, (view fault).isUnsupported = true -> fault.isUnsupported = true) :
    Relays driver (operation.mapFault view) := by
  refine ⟨.mapFault view relays.adds, fun state fault left fails declined => ?_⟩
  rcases Operation.error_of_mapFault fails with ⟨reason, failed, rfl⟩
  exact relays.declines state reason left failed (passes reason declined)

/-- An operation on a part of the state with the same driver in it. -/
theorem within {inner : τ → Driver} {part : σ → τ} {replace : σ → τ → σ}
    {operation : Operation τ α} (relays : Relays inner operation)
    (enters : forall state, inner (part state) = driver state)
    (leaves : forall state changed, driver (replace state changed) = inner changed) :
    Relays driver (Operation.within part replace operation) := by
  refine ⟨.within relays.adds fun state changed added => ?_, ?_⟩
  · rw [Adding, leaves, ← enters]
    exact added
  · intro state fault left fails declined
    rcases Operation.error_of_within fails with ⟨changed, failed, rfl⟩
    rw [leaves, ← enters]
    exact relays.declines (part state) fault changed failed declined

theorem forEach {operation : β → Operation σ Unit}
    (relays : forall member, Relays driver (operation member)) (members : List β) :
    Relays driver (Operation.forEach operation members) := by
  induction members with
  | nil => exact pure
  | cons member rest inductionHypothesis =>
      exact bind (relays member) fun _ => inductionHypothesis

end Relays

/-! ## Operations that take effect -/

namespace TakesEffect

variable {driver : σ → Driver} {allowed sent later : Event → Prop} {state : σ}

/-- What comes before the statement must not fail as unsupported by itself. -/
theorem of_bind {first : Operation σ α} {next : α → Operation σ β} (relays : Relays driver first)
    (adds : first.Respects (Adding driver allowed))
    (takes : forall value middle, first state = .ok value middle ->
      TakesEffect driver allowed sent later (next value) middle) :
    TakesEffect driver allowed sent later (first >>= next) state := by
  have added {value : α} {middle : σ} (ran : first state = .ok value middle) :
      Adding driver allowed state middle := by
    rw [← Operation.after_of_ok ran]
    exact adds state
  constructor
  · have runs : first.MayGive state fun value middle => first state = .ok value middle :=
      fun _ _ ran => ran
    refine runs.bind fun value middle ran last left rest => ?_
    exact ((takes value middle ran).succeeds last left rest).of_adds (added ran)
  · intro fault left fails declined
    rcases Operation.error_of_bind fails with early | ⟨value, middle, ran, late⟩
    · exact Or.inl (relays.declines state fault left early declined)
    · refine ((takes value middle ran).unsupported fault left late declined).imp ?_ ?_
      · exact fun declines => declines.of_adds ((added ran).mono fun _ _ => trivial)
      · exact fun sends => sends.of_adds (added ran)

/-- What comes after the statement may fail in any way. -/
theorem bind {first : Operation σ α} {next : α → Operation σ β}
    (takes : TakesEffect driver allowed sent later first state)
    (adds : forall value, (next value).Respects (Adding driver later)) :
    TakesEffect driver allowed sent later (first >>= next) state := by
  constructor
  · refine takes.succeeds.bind fun value middle sends last left ran => ?_
    rw [← Operation.after_of_ok ran]
    exact sends.adds_after (adds value middle)
  · intro fault left fails declined
    rcases Operation.error_of_bind fails with early | ⟨value, middle, ran, late⟩
    · exact takes.unsupported fault left early declined
    · right
      rw [← Operation.after_of_error late]
      exact (takes.succeeds value middle ran).adds_after (adds value middle)

theorem mono {kind wider : Event → Prop} {operation : Operation σ α}
    (takes : TakesEffect driver allowed sent later operation state)
    (sentImplies : forall event, sent event -> kind event)
    (laterImplies : forall event, later event -> wider event) :
    TakesEffect driver allowed kind wider operation state where
  succeeds := takes.succeeds.mono fun _ _ sends => sends.mono sentImplies laterImplies
  unsupported fault left fails declined :=
    (takes.unsupported fault left fails declined).imp_right fun sends =>
      sends.mono sentImplies laterImplies

/-- A failure of the driver becomes a database fault at a boundary, or it is passed on. -/
theorem atBoundary {operation : Operation σ α} (detail : String) (kinds : Option (List FaultKind))
    (takes : TakesEffect driver allowed sent later operation state) :
    TakesEffect driver allowed sent later (operation.atBoundary detail kinds) state := by
  have passes (fault : Fault) (declined : (fault.atBoundary detail kinds).isUnsupported = true) :
      fault.isUnsupported = true := by
    unfold Fault.atBoundary at declined
    split at declined
    · exact declined
    · split at declined
      · cases declined
      · exact declined
  refine ⟨.atBoundary detail kinds takes.succeeds, fun fault left fails declined => ?_⟩
  rcases Operation.error_of_mapFault fails with ⟨reason, failed, rfl⟩
  exact takes.unsupported reason left failed (passes reason declined)

/-- An operation on a part of the state with the same driver in it. -/
theorem within {inner : τ → Driver} {part : σ → τ} {replace : σ → τ → σ}
    {operation : Operation τ α}
    (takes : TakesEffect inner allowed sent later operation (part state))
    (enters : inner (part state) = driver state)
    (leaves : forall changed, driver (replace state changed) = inner changed) :
    TakesEffect driver allowed sent later (Operation.within part replace operation) state := by
  constructor
  · refine .within takes.succeeds fun value changed sends => ?_
    rw [leaves, ← enters]
    exact sends
  · intro fault left fails declined
    rcases Operation.error_of_within fails with ⟨changed, failed, rfl⟩
    rw [leaves, ← enters]
    exact takes.unsupported fault changed failed declined

end TakesEffect

/-! ## Calls -/

theorem Driver.declines_of_event {before after : Driver} {event : Event}
    (same : after.events = before.events ++ [event]) (declined : event.IsDeclined) :
    before.Declines after :=
  ⟨[], event, [], by rw [same, List.append_nil], nofun, declined, nofun⟩

/-- Where no call failed at all, none failed as unsupported. -/
theorem Driver.not_declines_of_unfailing {before after : Driver}
    (unfailing : after.events.all (fun event => event.failure.isNone) = true) :
    ¬ before.Declines after := by
  rintro ⟨early, event, late, same, -, ⟨fault, failed, -⟩, -⟩
  have member : event ∈ after.events := by
    rw [same]
    exact List.mem_append_right _ List.mem_cons_self
  have fine := List.all_eq_true.mp unfailing event member
  rw [failed] at fine
  cases fine

theorem callAt_relays (point : FailPoint) (call : Call) : Relays id (callAt point call) := by
  refine ⟨callAt_adds point fun _ => trivial, fun driver fault left fails declined => ?_⟩
  have recorded := callAt_events point call driver
  rw [Operation.outcome_of_error fails, Operation.after_of_error fails] at recorded
  exact Driver.declines_of_event recorded ⟨fault, rfl, declined⟩

theorem attempt_relays (point : FailPoint) (call : Call) : Relays id (attempt point call) := by
  refine ⟨attempt_adds point fun _ => trivial, fun driver fault left fails declined => ?_⟩
  rcases attempt_cases point call driver with ⟨failures, ⟨reason, refused⟩ | granted⟩
  · cases refused.symm.trans fails
    exact Driver.declines_of_event rfl ⟨_, rfl, declined⟩
  · cases granted.symm.trans fails

theorem connect_relays (positional : List Value) (keywords : List (String × Value)) :
    Relays id (connect positional keywords) :=
  -- The driver is read again for its count, so the rest is one step and not three.
  .bind (callAt_relays .connect _) fun _ => .of_unfailing (fun _ => .of_same rfl) nofun

end Native

namespace Adapter

open Native (Connection Event Relays TakesEffect)

/-- A statement is recorded as failed, or it has been run. -/
theorem execute_takesEffect {allowed later : Event → Prop} (connection : Connection) (sql : String)
    (parameters : List Value) (driver : Native.Driver) :
    TakesEffect id allowed
      (fun event => exists cursor, event = ⟨.execute connection cursor sql (some parameters), none⟩)
      later (Adapter.execute connection sql parameters) driver := by
  rcases Native.execute_cases connection sql parameters driver with
    ⟨call, reason, reached, fails, -, recorded, -⟩ | ⟨cursor, reached, ran, recorded, -⟩
  · constructor
    · intro cursor left succeeds
      cases fails.symm.trans succeeds
    · intro fault left stops declined
      cases fails.symm.trans stops
      exact Or.inl (Native.Driver.declines_of_event recorded ⟨_, rfl, declined⟩)
  · constructor
    · intro given left succeeds
      cases ran.symm.trans succeeds
      exact ⟨[], _, [], by rw [id, recorded, List.append_nil]; rfl, nofun, ⟨_, rfl⟩, nofun⟩
    · intro fault left stops declined
      cases ran.symm.trans stops

theorem nameService_relays (adapter : Adapter) (params : ConnectionParams) :
    Relays id (adapter.nameService params) := by
  cases adapter with
  | oracle => exact Native.attempt_relays _ _
  | _ => exact .pure

theorem openConnection_relays (adapter : Adapter) (params : ConnectionParams)
    (options : List (String × Value)) : Relays id (adapter.openConnection params options) := by
  refine .bind .get fun driver => ?_
  refine .bind (.ofTame (connectArguments_tame _ _ _ _)) fun _ => ?_
  refine .bind (nameService_relays adapter params) fun _ => ?_
  refine .bind (Native.connect_relays _ _) fun connection => ?_
  dsimp only
  split
  · exact .bind (Native.callAt_relays _ _) fun _ => .pure
  · exact .pure

end Adapter

/-! ## The library around the driver -/

namespace Gateway

variable {α β : Type}

open Native (Relays)

theorem onDriver_relays {operation : Operation Native.Driver β} (relays : Relays id operation) :
    Relays Gateway.driver (onDriver operation : Operation (Gateway α) β) :=
  .within relays (fun _ => rfl) fun _ _ => rfl

theorem write_relays (level : Logging.Level) (part message : String)
    (fields : Option (List (String × Value))) :
    Relays Gateway.driver (write level part message fields : Operation (Gateway α) Unit) :=
  .modify fun _ => rfl

theorem entryAt_relays (id : Nat) :
    Relays Gateway.driver (entryAt id : Operation (Gateway α) (Entry α)) :=
  .bind .get fun _ => .pure

/-- A failure of the driver to connect becomes a database fault, or it is passed on. -/
theorem unsupported_of_driverFault {message : String} {fault : Fault}
    (declined : (driverFault message fault).isUnsupported = true) :
    fault.isUnsupported = true := by
  unfold driverFault at declined
  split at declined
  · cases declined
  · exact declined

theorem connect_relays (id : Nat) :
    Relays Gateway.driver (connect id : Operation (Gateway α) Handle) := by
  have announces (params : ConnectionParams) (handle : Handle) :
      Relays Gateway.driver (announceConnected params handle : Operation (Gateway α) Unit) := by
    unfold announceConnected
    split
    · exact .pure
    · exact write_relays _ _ _ _
  have attaches (connection : Native.Connection) (adapter : Adapter) :
      Relays Gateway.driver (attach id connection adapter : Operation (Gateway α) Handle) :=
    .of_unfailing (fun _ => .of_same rfl) nofun
  refine .bind (entryAt_relays id) fun entry => ?_
  split
  · exact .pure
  · refine .bind (.ofTame (Adapter.ofDialect_tame _)) fun adapter => ?_
    refine .bind (.ofTame (adapter.resolveOptions_tame _)) fun options => ?_
    refine .bind .get fun _ => ?_
    refine .bind (.ofTame (Adapter.importDriver_tame _ _ _)) fun _ => ?_
    have opens := onDriver_relays (α := α) (adapter.openConnection_relays entry.params options)
    refine .bind (.mapFault opens fun _ => unsupported_of_driverFault) fun connection => ?_
    refine .bind (attaches connection adapter) fun handle => ?_
    refine .bind (announces _ handle) fun _ => ?_
    exact .pure

theorem compile_relays (template : String) (dialect : Dialect) (style : Option ParameterStyle) :
    Relays Gateway.driver
      (compile template dialect style : Operation (Gateway α) ParsedQuery) := by
  refine .of_supported (compile_adds template dialect style) fun gateway fault left fails => ?_
  have tame := Template.compile_tame gateway.cache template dialect style
  unfold compile at fails
  rcases compiled : gateway.cache.compile template dialect style with ⟨_ | query, cache⟩
  · rw [compiled] at fails tame
    cases fails
    exact tame.isUnsupported rfl
  · rw [compiled] at fails
    cases fails

end Gateway

namespace Session

variable {α σ β : Type}

open Native (Relays)

/-- The driver of a session. -/
def native (session : Session α σ) : Native.Driver := session.gateway.driver

theorem library_relays {operation : Operation (Gateway α) β}
    (relays : Relays Gateway.driver operation) :
    Relays native (library operation : Operation (Session α σ) β) :=
  .within relays (fun _ => rfl) fun _ _ => rfl

/-- Hooks relay if their callbacks do. -/
theorem runHooks_relays {runner : HookRunner α σ} {phase : Native.HookPhase} {sql : String}
    (relays : forall name callback, Relays native (runner name phase callback sql))
    (hooks : List (Hook α)) : Relays native (Database.runHooks runner phase sql hooks) := by
  refine .forEach (fun hook => ?_) hooks
  unfold Database.runHook
  split
  · exact .pure
  · exact .bind (library_relays (Gateway.write_relays _ _ _ _)) fun _ => relays _ _

end Session
end SqlGateway
