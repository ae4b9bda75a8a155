import SqlGateway.Proofs.Gateway.Steady
import SqlGateway.Session

namespace SqlGateway

/-!
# Running statements leaves transactions alone

A query compiles a template, binds its parameters, runs the hooks and runs the statement.
None of these is about transactions.  The hooks are the caller's, so the
statement needs that they are quiet themselves; the library's own part is quiet in every state.
-/

namespace Session

variable {α σ β : Type}

theorem outcome_library (operation : Operation (Gateway α) β) (session : Session α σ) :
    (library operation).outcome session = operation.outcome session.gateway :=
  Operation.outcome_within _ _ operation session

theorem after_library (operation : Operation (Gateway α) β) (session : Session α σ) :
    (library operation).after session =
      { session with gateway := operation.after session.gateway } :=
  Operation.after_within _ _ operation session

theorem gateway_library (operation : Operation (Gateway α) β) (session : Session α σ) :
    ((library operation).after session).gateway = operation.after session.gateway :=
  congrArg Session.gateway (after_library operation session)

theorem caller_library (operation : Operation (Gateway α) β) (session : Session α σ) :
    ((library operation : Operation (Session α σ) β).after session).caller = session.caller := by
  rw [library, Operation.after_within]

theorem library_bind (first : Operation (Gateway α) β) {γ : Type}
    (next : β → Operation (Gateway α) γ) :
    (library (first >>= next) : Operation (Session α σ) γ) =
      library first >>= fun value => library (next value) := by
  funext session
  simp only [library, Operation.within, bind, EStateM.bind]
  cases first session.gateway <;> rfl

/-- Between two states of a session no transaction and no connection was touched. -/
def Steady (before after : Session α σ) : Prop :=
  Gateway.Steady before.gateway after.gateway

/-- Between two states of a session no transaction was touched. -/
def Undisturbed (before after : Session α σ) : Prop :=
  Gateway.Undisturbed before.gateway after.gateway

instance : IsPreorder (Session α σ) Steady where
  refl session := refl_of Gateway.Steady session.gateway
  trans _ _ _ first second := trans_of Gateway.Steady first second

instance : IsPreorder (Session α σ) Undisturbed where
  refl session := refl_of Gateway.Undisturbed session.gateway
  trans _ _ _ first second := trans_of Gateway.Undisturbed first second

/-- Work that leaves transactions and connections as they are. -/
def Quiet (operation : Operation (Session α σ) β) : Prop := operation.Respects Steady

theorem quiet_library {operation : Operation (Gateway α) β}
    (steady : operation.Respects Gateway.Steady) :
    Quiet (library operation : Operation (Session α σ) β) :=
  Operation.Respects.within steady fun _ _ lifted => lifted

theorem quiet_untouched {operation : Operation (Gateway α) β}
    (untouched : operation.Respects Gateway.Untouched) :
    Quiet (library operation : Operation (Session α σ) β) :=
  quiet_library (Gateway.respects_steady untouched)

/-- A runner of hooks that never touches a transaction. -/
def QuietHooks (runner : HookRunner α σ) : Prop :=
  forall name phase callback sql, Quiet (runner name phase callback sql)

/-- A runner for sessions in which no hook does anything. -/
def idleHooks : HookRunner α σ := fun _ _ _ _ => pure ()

theorem quiet_idleHooks : QuietHooks (idleHooks : HookRunner α σ) := fun _ _ _ _ => .pure ()

/-- A session whose only entry is a database in memory, which is connected. -/
def memory : Session Unit Unit :=
  ⟨Gateway.openMemory.after (.ofDriver (.ofScript [] [] [] (.int 0))), ()⟩

end Session

namespace Database

/-- The database of the first entry. -/
def memory : Database := ⟨0, .shared, .shared⟩

variable {α σ β : Type}

open Session (library driver Quiet QuietHooks)

theorem entryOf_steady (database : Database) :
    (database.entryOf : Operation (Gateway α) (Entry α)).Respects Gateway.Steady :=
  Gateway.respects_steady (Gateway.entryAt_untouched _)

theorem compile_steady (database : Database) (template : String) :
    (database.compile template : Operation (Gateway α) ParsedQuery).Respects Gateway.Steady :=
  .bind (entryOf_steady database) fun _ =>
    Gateway.respects_steady (Gateway.compile_untouched _ _ _)

theorem rememberRow_steady (database : Database) (handle : Handle) (lastRowId : Value) :
    (database.rememberRow handle lastRowId : Operation (Gateway α) Unit).Respects
      Gateway.Steady := by
  refine Gateway.changeEntry_steady _ _ ?_ ?_ ?_
  · intro entry
    cases held : entry.handle with
    | none => rfl
    | some current =>
        simp only
        split <;> rfl
  · intro entry unconnected
    simp only [unconnected]
  · intro entry current connected
    simp only [connected]
    split
    · exact ⟨lastRowId, rfl⟩
    · exact ⟨current.lastRowId, connected⟩

theorem runStatement_steady (database : Database) (handle : Handle) (sql : String)
    (parameters : List Value) :
    (database.runStatement handle sql parameters :
      Operation (Gateway α) Native.Cursor).Respects Gateway.Steady := by
  refine .atBoundary _ _ (.bind (Gateway.respects_steady (Gateway.onDriver_untouched _))
    fun cursor => .bind (rememberRow_steady _ _ _) fun _ => .bind ?_ fun _ =>
      .bind (Gateway.respects_steady (Gateway.onDriver_untouched _)) fun _ => .pure cursor)
  exact .bind .get fun _ => .pure _

/-- What writing to the log and every callback of a phase keep, the hooks of the phase keep. -/
theorem runHooks_respects {relation : Session α σ → Session α σ → Prop}
    [IsPreorder (Session α σ) relation] {runner : HookRunner α σ} {phase : Native.HookPhase}
    {sql : String}
    (writes : forall level part message fields,
      (library (Gateway.write level part message fields) :
        Operation (Session α σ) Unit).Respects relation)
    (hooks : forall name callback, (runner name phase callback sql).Respects relation)
    (registered : List (Hook α)) :
    (runHooks runner phase sql registered).Respects relation := by
  refine .forEach (fun hook => ?_) registered
  unfold runHook
  split
  · exact .pure ()
  · exact .bind (writes _ _ _ _) fun _ => hooks _ _

section

variable {runner : HookRunner α σ} (hooks : QuietHooks runner)
include hooks

theorem runHooks_quiet (phase : Native.HookPhase) (sql : String) (registered : List (Hook α)) :
    Quiet (runHooks runner phase sql registered) :=
  runHooks_respects (fun _ _ _ _ => Session.quiet_untouched (Gateway.write_untouched _ _ _ _))
    (fun _ _ => hooks _ _ _ _) registered

theorem execute_quiet (database : Database) (query : ParsedQuery) (values : List Value) :
    Quiet (database.execute runner query values) := by
  refine .bind (Session.quiet_library (Gateway.connect_steady _)) fun _ => ?_
  refine .bind (.ofExcept _) fun _ => ?_
  refine .bind (Session.quiet_library (entryOf_steady _)) fun _ => ?_
  refine .bind (runHooks_quiet hooks _ _ _) fun _ => ?_
  refine .bind (Session.quiet_untouched (Gateway.write_untouched _ _ _ _)) fun _ => ?_
  refine .bind (Session.quiet_library (runStatement_steady _ _ _ _)) fun _ => ?_
  refine .bind (runHooks_quiet hooks _ _ _) fun _ => ?_
  exact .pure _

/-- A query touches no transaction and no connection, whatever comes of it. -/
theorem query_quiet (database : Database) (template : String) (values : List Value) :
    Quiet (database.query runner template values) :=
  .bind (Session.quiet_library (compile_steady database template)) fun _ =>
    execute_quiet hooks database _ values

end

end Database
end SqlGateway
