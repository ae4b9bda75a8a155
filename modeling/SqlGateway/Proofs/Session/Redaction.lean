import SqlGateway.Database.Prepared
import SqlGateway.Database.Managed
import SqlGateway.Database.Rows
import SqlGateway.Proofs.Database.Redaction

namespace SqlGateway

/-!
# Sessions that differ in passwords

A session is the state of the library with that of its caller.  Two sessions are the same but for
passwords if the states of the library are, and the states of the callers are related.  How they are
related is left open, as it is for the callbacks of hooks: a callback may know a password itself.
What is asked of the caller is that related callbacks do the same to related sessions.

Then all that a database does is alike in both sessions.
-/

namespace Session

variable {α σ β : Type}

structure SameButPasswords (callbacks : α → α → Prop) (callers : σ → σ → Prop)
    (first second : Session α σ) : Prop where
  gateway : first.gateway.SameButPasswords callbacks second.gateway
  caller : callers first.caller second.caller

/-- The operation does the same whichever the passwords are. -/
abbrev Discreet (callbacks : α → α → Prop) (callers : σ → σ → Prop)
    (operation : Operation (Session α σ) β) : Prop :=
  operation.Alike (SameButPasswords callbacks callers) operation

variable {callbacks : α → α → Prop} {callers : σ → σ → Prop}

theorem library_discreet {operation other : Operation (Gateway α) β}
    (alike : operation.Alike (Gateway.SameButPasswords callbacks) other) :
    (library operation : Operation (Session α σ) β).Alike (SameButPasswords callbacks callers)
      (library other) :=
  .within alike (fun _ _ same => same.gateway) fun _ _ _ _ same sameGateway =>
    ⟨sameGateway, same.caller⟩

theorem library_matched {γ δ : Type} {sameValue : γ → δ → Prop}
    {operation : Operation (Gateway α) γ} {other : Operation (Gateway α) δ}
    (matched : operation.Matched (Gateway.SameButPasswords callbacks) sameValue other) :
    Operation.Matched (SameButPasswords callbacks callers) sameValue
      (library operation : Operation (Session α σ) γ) (library other) :=
  .within matched (fun _ _ same => same.gateway) fun _ _ _ _ same sameGateway =>
    ⟨sameGateway, same.caller⟩

theorem driver_discreet {operation : Operation Native.Driver β}
    (alike : operation.Alike (Native.Driver.SameBut Native.Event.withoutArguments) operation) :
    Discreet callbacks callers (driver operation) :=
  library_discreet (Gateway.onDriver_discreet alike)

theorem onCaller_discreet {operation other : Operation σ β}
    (alike : operation.Alike callers other) :
    (onCaller operation : Operation (Session α σ) β).Alike (SameButPasswords callbacks callers)
      (onCaller other) :=
  .within alike (fun _ _ same => same.caller) fun _ _ _ _ same sameCaller =>
    ⟨same.gateway, sameCaller⟩

end Session

/-- The runner runs related callbacks alike. -/
def HookRunner.IsDiscreet {α σ : Type} (callbacks : α → α → Prop) (callers : σ → σ → Prop)
    (runner : HookRunner α σ) : Prop :=
  forall name phase callback other sql, callbacks callback other ->
    (runner name phase callback sql).Alike (Session.SameButPasswords callbacks callers)
      (runner name phase other sql)

section Hooks

variable {α : Type} {callbacks : α → α → Prop} {hook other : Hook α}

theorem Hook.Same.callback (same : hook.Same callbacks other) (phase : Native.HookPhase) :
    Option.Rel callbacks (hook.callback phase) (other.callback phase) := by
  cases phase with
  | before => exact same.before
  | after => exact same.after

theorem isSome_of_rel {first second : Option α} (same : Option.Rel callbacks first second) :
    second.isSome = first.isSome := by
  cases same <;> rfl

/-- Of a callback no more is displayed than that there is one. -/
theorem Hook.Same.display (same : hook.Same callbacks other) : other.display = hook.display := by
  have displayed (phase : Native.HookPhase) :
      other.displayCallback phase = hook.displayCallback phase := by
    unfold Hook.displayCallback
    rw [same.name, isSome_of_rel (same.callback phase)]
  unfold Hook.display
  rw [displayed, displayed]

theorem Hook.Same.notice (same : hook.Same callbacks other) (phase : Native.HookPhase) :
    other.notice phase = hook.notice phase := by
  cases phase <;> exact congrArg (_ ++ ·) same.display

end Hooks

namespace Database

open Session (SameButPasswords Discreet library library_discreet)

variable {α σ β : Type} {callbacks : α → α → Prop} {callers : σ → σ → Prop}
  {runner : HookRunner α σ} (discreet : runner.IsDiscreet callbacks callers) (database : Database)

theorem write_discreet (level : Logging.Level) (part message : String)
    (fields : Option (List (String × Value))) :
    Discreet callbacks callers (library (Gateway.write level part message fields) :
      Operation (Session α σ) Unit) :=
  library_discreet (Gateway.write_discreet _ _ _ _)

/-! ## Statements -/

include discreet in
theorem runHooks_discreet (phase : Native.HookPhase) (sql : String) {hooks others : List (Hook α)}
    (same : List.Forall₂ (Hook.Same callbacks) hooks others) :
    (runHooks runner phase sql hooks).Alike (SameButPasswords callbacks callers)
      (runHooks runner phase sql others) := by
  induction same with
  | nil => exact .pure ()
  | @cons hook other _ _ sameHook _ inductionHypothesis =>
      refine .bind ?_ fun _ => inductionHypothesis
      have sameCallback := sameHook.callback phase
      unfold runHook
      rw [sameHook.notice phase, sameHook.name]
      generalize hook.callback phase = callback at sameCallback ⊢
      generalize other.callback phase = otherCallback at sameCallback ⊢
      cases sameCallback with
      | none => exact .pure ()
      | some sameCallback =>
          exact .bind (write_discreet _ _ _ _) fun _ => discreet _ _ _ _ _ sameCallback

theorem free_discreet (result : QueryResult) :
    Discreet callbacks callers (free result : Operation (Session α σ) Unit) :=
  Session.driver_discreet result.free_alike

section Queries

include discreet

theorem execute_discreet (query : ParsedQuery) (values : List Value) :
    Discreet callbacks callers (database.execute runner query values) := by
  refine .bind (library_discreet (Gateway.connect_discreet _)) fun handle =>
    .bind (.ofExcept _) fun parameters =>
    (Session.library_matched (entryOf_matched database)).bindAlike fun entry other same => ?_
  have sameResult (cursor : Native.Cursor) :
      resultOf query other.params cursor = resultOf query entry.params cursor := by
    rcases same.params with ⟨password, sameParams, -⟩
    rw [sameParams]
    rfl
  simp only [sameResult]
  refine .bind (runHooks_discreet discreet _ _ same.hooks) fun _ => ?_
  refine .bind (write_discreet _ _ _ _) fun _ => ?_
  refine .bind (library_discreet (runStatement_discreet database _ _ _)) fun cursor => ?_
  refine .bind (runHooks_discreet discreet _ _ same.hooks) fun _ => ?_
  exact .pure _

theorem query_discreet (template : String) (values : List Value) :
    Discreet callbacks callers (database.query runner template values) :=
  .bind (library_discreet (compile_discreet database template)) fun _ =>
    execute_discreet discreet database _ _

theorem run_discreet (template : String) (values : List Value) :
    Discreet callbacks callers (database.run runner template values) :=
  .bind (query_discreet discreet database _ _) fun result => free_discreet result

theorem withQuery_discreet (template : String) (values : List Value)
    (use : QueryResult → Except Fault β) :
    Discreet callbacks callers (database.withQuery runner template values use) :=
  .bind (query_discreet discreet database _ _) fun result =>
    .thenAlways (.ofExcept _) (free_discreet result)

theorem fetchFirstRow_discreet (template : String) (values : List Value) (mode : FetchMode) :
    Discreet callbacks callers (database.fetchFirstRow runner template values mode) :=
  withQuery_discreet discreet database _ _ _

theorem fetchValue_discreet (template : String) (values : List Value) :
    Discreet callbacks callers (database.fetchValue runner template values) :=
  .bind (fetchFirstRow_discreet discreet database _ _ _) fun _ => .pure _

theorem fetchAll_discreet (template : String) (values : List Value) (mode : Option FetchMode)
    (column : Value) :
    Discreet callbacks callers (database.fetchAll runner template values mode column) :=
  .bind (.ofExcept _) fun _ => .bind (withQuery_discreet discreet database _ _ _) fun _ =>
    .ofExcept _

/-! ## Rows -/

theorem insert_discreet (table : String) (values : List (Value × Value)) :
    Discreet callbacks callers (database.insert runner table values) := by
  refine .getBind fun first second same => ?_
  rcases same.gateway with ⟨_, _, sameGateway, ⟨events, sameDriver, -⟩, -⟩
  rw [sameGateway, sameDriver]
  refine .bind (.ofExcept _) fun row => ?_
  refine .bind (.ofExcept _) fun template => ?_
  refine .bind (run_discreet discreet database _ _) fun _ => ?_
  exact library_discreet (lastInsertId_discreet database)

theorem setColumns_discreet (table : String) (values chosen : List (Value × Value))
    (restriction : String) :
    Discreet callbacks callers (database.setColumns runner table values chosen restriction) :=
  .bind (.ofExcept _) fun _ => run_discreet discreet database _ _

theorem update_discreet (table : String) (values : List (Value × Value)) (choice : Value) :
    Discreet callbacks callers (database.update runner table values choice) := by
  refine .bind (.ofExcept _) fun restriction =>
    .bind (fetchValue_discreet discreet database _ _) fun count => ?_
  split
  · exact .bind (.throw _) fun _ => setColumns_discreet discreet database _ _ _ _
  · exact setColumns_discreet discreet database _ _ _ _

theorem insertOrUpdate_discreet (table : String) (values : List (Value × Value))
    (choice : Value) :
    Discreet callbacks callers (database.insertOrUpdate runner table values choice) := by
  refine .bind (.ofExcept _) fun restriction =>
    .bind (fetchAll_discreet discreet database _ _ _ _) fun keys => ?_
  cases keys with
  | nil => exact .bind (insert_discreet discreet database _ _) fun _ => .pure _
  | cons first rest =>
      dsimp only
      split
      · exact .bind (setColumns_discreet discreet database _ _ _ _) fun _ => .pure _
      · exact .pure _

theorem deleteRows_discreet (table : String) (choice : Value) :
    Discreet callbacks callers (database.deleteRows runner table choice) :=
  .bind (.ofExcept _) fun _ => run_discreet discreet database _ _

theorem delete_discreet (table : String) (choice : Value) (reporting : Bool) :
    Discreet callbacks callers (database.delete runner table choice reporting) := by
  refine .bind (deleteRows_discreet discreet database table choice).observe fun outcome => ?_
  cases outcome with
  | ok _ => exact .pure _
  | error fault =>
      dsimp only
      split
      · exact .bind (write_discreet _ _ _ _) fun _ => .pure _
      · exact .throw _

end Queries

/-! ## Transactions around work -/

section Work

variable {handlers : Handlers α σ} {work other : Operation (Session α σ) β}
  (alike : work.Alike (SameButPasswords callbacks callers) other)

theorem begins_discreet : Discreet callbacks callers (library database.begin) :=
  library_discreet (begin_discreet database)

theorem commits_discreet : Discreet callbacks callers (library database.commit) :=
  library_discreet (move_discreet database _)

/-- What the caller does about a failed transaction is the same in related sessions. -/
structure Handlers.IsDiscreet (callbacks : α → α → Prop) (callers : σ → σ → Prop)
    (handlers : Handlers α σ) : Prop where
  onRollback : Discreet callbacks callers handlers.onRollback
  replacement : forall fault, Discreet callbacks callers (handlers.replacement fault)

theorem Handlers.none_isDiscreet :
    (Handlers.none : Handlers α σ).IsDiscreet callbacks callers :=
  ⟨.pure (), fun _ => .pure _⟩

theorem abandon_discreet (isDiscreet : handlers.IsDiscreet callbacks callers) (fault : Fault) :
    Discreet callbacks callers (database.abandon handlers fault :
      Operation (Session α σ) β) := by
  refine .bind (library_discreet (move_discreet database _)) fun _ => ?_
  refine .bind isDiscreet.onRollback fun _ => ?_
  refine .bind (isDiscreet.replacement fault) fun _ => ?_
  exact .throw _

include alike

theorem inBlock_discreet :
    (database.inBlock work).Alike (SameButPasswords callbacks callers)
      (database.inBlock other) := by
  refine .bind (begins_discreet database) fun _ => .bind alike.observe fun outcome => ?_
  cases outcome with
  | ok value => exact .bind (commits_discreet database) fun _ => .pure value
  | error fault => exact abandon_discreet database Handlers.none_isDiscreet fault

theorem runInTransaction_discreet (isDiscreet : handlers.IsDiscreet callbacks callers) :
    (database.runInTransaction handlers work).Alike (SameButPasswords callbacks callers)
      (database.runInTransaction handlers other) := by
  refine .bind (begins_discreet database) fun _ => .bind alike.observe fun outcome => ?_
  cases outcome with
  | ok value => exact .bind (commits_discreet database) fun _ => .pure value
  | error fault =>
      exact .bind (write_discreet _ _ _ _) fun _ => abandon_discreet database isDiscreet fault

end Work

theorem tryInTransaction_discreet {handlers : Handlers α σ}
    {work other : Operation (Session α σ) Value}
    (alike : work.Alike (SameButPasswords callbacks callers) other)
    (isDiscreet : handlers.IsDiscreet callbacks callers) :
    (database.tryInTransaction handlers work).Alike (SameButPasswords callbacks callers)
      (database.tryInTransaction handlers other) := by
  refine .bind (runInTransaction_discreet database alike isDiscreet).observe fun outcome => ?_
  cases outcome with
  | ok value => exact .pure _
  | error fault =>
      dsimp only
      split
      · exact .pure _
      · exact .throw fault

end Database
end SqlGateway
