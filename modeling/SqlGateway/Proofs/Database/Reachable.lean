import SqlGateway.Proofs.Database.Program

namespace SqlGateway

/-!
# What holds in every state that programs reach

A tracker remembers a connection by the number of its handle.  Two facts keep this sound
whatever a program does: no tracker knows the number of a handle that is still to be made,
and a connection without a transaction carries no mark.  One action moves the level of one
connection as a step of its tracker does, so both facts survive it; a program is a sequence of
actions, disconnections, and uses that disturb no tracker.

An open transaction, moreover, stays open until a happening on its connection ends it.
-/

namespace Gateway

variable {α : Type}

open Transaction (Level)

/-- The level of a connection in a tracker. -/
def level (gateway : Gateway α) (scope : Scope) (id : Nat) : Level :=
  (gateway.tracker scope).level id

/-- What holds in every state that programs reach. -/
structure Sound (gateway : Gateway α) : Prop where
  /-- No tracker knows a handle that is still to be made. -/
  fresh : forall scope id, gateway.handleCount < id -> gateway.level scope id = .idle
  /-- A connection without a transaction has no mark. -/
  unmarked : forall scope id, (gateway.level scope id).depth = 0 ->
    (gateway.level scope id).isDoomed = false
  counted : gateway.HandlesCounted

namespace Sound

variable {before after : Gateway α}

theorem undisturbed (sound : Sound before) (undisturbed : Undisturbed before after) :
    Sound after where
  fresh scope id later := by
    rw [level, undisturbed.tracker]
    exact sound.fresh scope id (Nat.lt_of_le_of_lt undisturbed.handleCount later)
  unmarked scope id := by
    rw [level, undisturbed.tracker]
    exact sound.unmarked scope id
  counted := undisturbed.counted sound.counted

/-- A handle that was just made is idle in every tracker. -/
theorem idle_of_made (sound : Sound before) {id : Nat} (made : id = before.handleCount + 1)
    (scope : Scope) : before.level scope id = .idle :=
  sound.fresh scope id (made ▸ Nat.lt_succ_self _)

/-- A change of the levels of connections that are held. -/
theorem of_levels (sound : Sound before) (handleCount : before.handleCount ≤ after.handleCount)
    (counted : after.HandlesCounted)
    (levels : forall scope id, after.level scope id = before.level scope id ∨
      id ≤ after.handleCount ∧
        ((after.level scope id).depth = 0 -> (after.level scope id).isDoomed = false)) :
    Sound after where
  fresh scope id later := by
    rcases levels scope id with same | ⟨held, -⟩
    · rw [same]
      exact sound.fresh scope id (Nat.lt_of_le_of_lt handleCount later)
    · exact absurd later (Nat.not_lt.mpr held)
  unmarked scope id := by
    rcases levels scope id with same | ⟨-, unmarked⟩
    · rw [same]
      exact sound.unmarked scope id
    · exact unmarked
  counted := counted

end Sound

theorem sound_ofDriver (driver : Native.Driver) : Sound (ofDriver driver : Gateway α) where
  fresh _ _ _ := rfl
  unmarked _ _ _ := rfl
  counted id handle held := by
    have absent : ((ofDriver driver : Gateway α).entry id).handle = none := rfl
    rw [absent] at held
    cases held

end Gateway

namespace Database

variable {α : Type}

open Transaction (Movement)

theorem steady_of_given {database : Database} {gateway connected : Gateway α} {handle : Handle}
    (given : database.handle gateway = .ok handle connected) :
    Gateway.Steady gateway connected := by
  have steady := Gateway.connect_steady database.entry gateway
  rw [Operation.after, show Gateway.connect database.entry gateway = _ from given] at steady
  exact steady

theorem steady_of_failed {database : Database} {gateway left : Gateway α} {fault : Fault}
    (fails : database.handle gateway = .error fault left) : Gateway.Steady gateway left := by
  have steady := Gateway.connect_steady database.entry gateway
  rw [Operation.after, show Gateway.connect database.entry gateway = _ from fails] at steady
  exact steady

/-- An action changes at most the level of its own connection, as its step does. -/
theorem perform_level (database : Database) (action : Action) (gateway : Gateway α)
    (scope : Scope) (id : Nat) :
    ((action.perform database).after gateway).level scope id = gateway.level scope id ∨
      exists handle nestable fault call ok,
        (((action.perform database).after gateway).entry database.entry).handle = some handle ∧
        handle.id = id ∧
        Movement id (action.step nestable id fault) (gateway.level scope id) call ok
          (((action.perform database).after gateway).level scope id) ∧
        database.deed? action gateway = call.map (⟨id, ·, ok⟩) := by
  cases given : database.handle gateway with
  | error fault left =>
      refine Or.inl ?_
      rw [Operation.after, (perform_of_unconnected given action).1]
      unfold Gateway.level
      rw [(steady_of_failed given).tracker]
  | ok handle connected =>
      rcases perform_step given action with ⟨fault, performed⟩
      unfold Gateway.level
      rw [← (steady_of_given given).tracker scope]
      -- The step concerns one connection in one tracker; the movement is about that level.
      by_cases own : scope = database.tracker ∧ handle.id = id
      · rcases own with ⟨rfl, rfl⟩
        rcases performed.movement with ⟨call, ok, movement, -, deed⟩
        refine Or.inr ⟨handle, _, fault, call, ok, ?_, rfl, movement, deed⟩
        rw [performed.moved.entry]
        exact (Gateway.connect_ok given).1
      · refine Or.inl ?_
        rw [performed.moved.tracker]
        split
        · rename_i same
          have different : handle.id ≠ id := fun equal => own ⟨same, equal⟩
          rw [same]
          exact (Transaction.Tracker.step_elsewhere _ _ id
            (by rw [Action.id_step]; exact different)).2
        · rfl

/-- An action keeps the count of handles right. -/
theorem perform_counted (database : Database) (action : Action) (gateway : Gateway α) :
    gateway.handleCount ≤ ((action.perform database).after gateway).handleCount ∧
      (gateway.HandlesCounted -> ((action.perform database).after gateway).HandlesCounted) := by
  cases given : database.handle gateway with
  | error fault left =>
      rw [Operation.after, (perform_of_unconnected given action).1]
      exact ⟨(steady_of_failed given).handleCount, (steady_of_failed given).counted⟩
  | ok handle connected =>
      rcases perform_step given action with ⟨fault, performed⟩
      refine ⟨?_, fun counted id held found => ?_⟩
      · rw [performed.moved.handleCount]
        exact (steady_of_given given).handleCount
      · rw [performed.moved.entry] at found
        rw [performed.moved.handleCount]
        exact (steady_of_given given).counted counted id held found

end Database

namespace Gateway

variable {α : Type}

theorem Sound.perform {gateway : Gateway α} (sound : Sound gateway) (action : Action)
    (database : Database) : Sound ((action.perform database).after gateway) := by
  rcases Database.perform_counted database action gateway with ⟨handleCount, counted⟩
  refine sound.of_levels handleCount (counted sound.counted) fun scope id => ?_
  rcases Database.perform_level database action gateway scope id with
    same | ⟨handle, nestable, fault, call, ok, held, rfl, movement, -⟩
  · exact Or.inl same
  · exact Or.inr ⟨counted sound.counted _ handle held,
      movement.unmarked (sound.unmarked scope handle.id)⟩

theorem level_dropped (gateway : Gateway α) (entry : Nat) (handle : Handle)
    (tracker : Option Scope) (scope : Scope) (id : Nat) :
    (gateway.dropped entry handle tracker).level scope id = gateway.level scope id ∨
      handle.id = id ∧ (gateway.dropped entry handle tracker).level scope id = .idle := by
  cases tracker with
  | none => exact Or.inl rfl
  | some forgetful =>
      unfold dropped level
      simp only [tracker_setTracker]
      split
      · rename_i same
        rw [Transaction.Tracker.level_forget, same]
        split
        · rename_i own
          exact Or.inr ⟨own.symm, rfl⟩
        · exact Or.inl rfl
      · exact Or.inl rfl

theorem handleCount_dropped (gateway : Gateway α) (entry : Nat) (handle : Handle)
    (tracker : Option Scope) :
    (gateway.dropped entry handle tracker).handleCount = gateway.handleCount := by
  cases tracker <;> rfl

theorem counted_dropped {gateway : Gateway α} (counted : gateway.HandlesCounted) (entry : Nat)
    (handle : Handle) (tracker : Option Scope) :
    (gateway.dropped entry handle tracker).HandlesCounted := by
  intro id held found
  have kept : (gateway.entry id).handle = some held := by
    have entries : (gateway.dropped entry handle tracker).entry id =
        (gateway.setEntry entry { gateway.entry entry with handle := none }).entry id := by
      cases tracker <;> rfl
    rw [entries, entry_setEntry] at found
    split at found
    · cases found
    · exact found
  rw [handleCount_dropped]
  exact counted id held kept

theorem disconnect_level (entry : Nat) (tracker : Option Scope) (gateway : Gateway α)
    (scope : Scope) (id : Nat) :
    ((disconnect entry tracker).after gateway).level scope id = gateway.level scope id ∨
      exists handle, (gateway.entry entry).handle = some handle ∧ handle.id = id ∧
        ((disconnect entry tracker).after gateway).level scope id = .idle := by
  cases held : (gateway.entry entry).handle with
  | none =>
      rw [Operation.after, disconnect_eq, held]
      exact Or.inl rfl
  | some handle =>
      unfold level
      rw [(disconnect_untouched held tracker).tracker]
      rcases level_dropped gateway entry handle tracker scope id with same | ⟨own, idle⟩
      · exact Or.inl same
      · exact Or.inr ⟨handle, rfl, own, idle⟩

theorem Sound.disconnect {gateway : Gateway α} (sound : Sound gateway) (entry : Nat)
    (tracker : Option Scope) : Sound ((disconnect entry tracker).after gateway) := by
  cases held : (gateway.entry entry).handle with
  | none =>
      rw [Operation.after, disconnect_eq, held]
      exact sound
  | some handle =>
      refine Sound.undisturbed ?_ (disconnect_untouched held tracker).steady.toUndisturbed
      have handleCount := handleCount_dropped gateway entry handle tracker
      refine sound.of_levels (Nat.le_of_eq handleCount.symm)
        (counted_dropped sound.counted entry handle tracker) fun scope id => ?_
      rcases level_dropped gateway entry handle tracker scope id with same | ⟨rfl, idle⟩
      · exact Or.inl same
      · rw [handleCount, idle]
        exact Or.inr ⟨sound.counted entry handle held, fun _ => rfl⟩

end Gateway

namespace Program

variable {α σ β : Type}

open Session (library)

/-- Whatever a program does, it leaves a sound state. -/
theorem run_sound (program : Program α σ β) (session : Session α σ)
    (sound : session.gateway.Sound) : (program.run.after session).gateway.Sound := by
  induction program generalizing session with
  | done value => exact sound
  | fail fault => exact sound
  | use operation undisturbed next inductionHypothesis =>
      rw [run, Operation.after_observe_bind]
      exact inductionHypothesis _ _ (sound.undisturbed (undisturbed session))
  | act action database next inductionHypothesis =>
      rw [run, Operation.after_observe_bind]
      refine inductionHypothesis _ _ ?_
      rw [Session.gateway_library]
      exact sound.perform action database
  | disconnect entry tracker next inductionHypothesis =>
      rw [run, Operation.after_observe_bind]
      refine inductionHypothesis _ _ ?_
      rw [Session.gateway_library]
      exact sound.disconnect entry tracker

/-- An open transaction stays open under an action that does not end it. -/
theorem depth_pos_of_perform {gateway : Gateway α} {scope : Scope} {id : Nat}
    (opened : 0 < (gateway.level scope id).depth) (action : Action) (database : Database)
    (unended : ending? id ((database.deed? action gateway).map .native).toList = none) :
    0 < (((action.perform database).after gateway).level scope id).depth := by
  rcases Database.perform_level database action gateway scope id with
    same | ⟨handle, nestable, fault, call, ok, -, -, movement, deed⟩
  · rw [same]
    exact opened
  · rcases level : gateway.level scope id with ⟨depth, doomed⟩
    rw [level] at opened movement
    cases depth with
    | zero => exact absurd opened (Nat.lt_irrefl 0)
    | succ depth =>
        have kept : (action.step nestable id fault).forgets id = false := by
          cases action <;> rfl
        rcases movement.of_busy kept with ⟨-, stays, -⟩ | ⟨called, -, -⟩
        · exact stays
        · rw [deed, called] at unended
          split at unended <;> simp [ending?, Happening.ends] at unended

/-- An open transaction stays open until something ends it. -/
theorem depth_pos_of_run (program : Program α σ β) (session : Session α σ) (scope : Scope)
    (id : Nat) (opened : 0 < (session.gateway.level scope id).depth)
    (unended : ending? id (program.happenings session) = none) :
    0 < ((program.run.after session).gateway.level scope id).depth := by
  induction program generalizing session with
  | done value => exact opened
  | fail fault => exact opened
  | use operation undisturbed next inductionHypothesis =>
      rw [run, Operation.after_observe_bind]
      refine inductionHypothesis _ _ ?_ unended
      rw [Gateway.level, (undisturbed session).tracker]
      exact opened
  | act action database next inductionHypothesis =>
      rw [happenings, ending?_append, Option.or_eq_none_iff] at unended
      rw [run, Operation.after_observe_bind]
      refine inductionHypothesis _ _ ?_ unended.2
      rw [Session.gateway_library]
      exact depth_pos_of_perform opened action database unended.1
  | disconnect entry tracker next inductionHypothesis =>
      rw [happenings, ending?_append, Option.or_eq_none_iff] at unended
      rw [run, Operation.after_observe_bind]
      refine inductionHypothesis _ _ ?_ unended.2
      rw [Session.gateway_library]
      rcases Gateway.disconnect_level entry tracker session.gateway scope id with
        same | ⟨handle, held, own, -⟩
      · rw [same]
        exact opened
      · rw [held, Option.map_some, Option.toList_some] at unended
        simp [ending?, Happening.ends, own] at unended

end Program

/-! ## Reachable states -/

/-- A state that some work of a caller leaves, over a driver that was not used before. -/
def Session.Reachable {α σ : Type} (session : Session α σ) : Prop :=
  exists (driver : Native.Driver) (caller : σ) (β : Type) (program : Program α σ β),
    session = program.run.after ⟨.ofDriver driver, caller⟩

theorem Session.Reachable.sound {α σ : Type} {session : Session α σ}
    (reachable : session.Reachable) : session.gateway.Sound := by
  rcases reachable with ⟨driver, caller, β, program, rfl⟩
  exact program.run_sound _ (Gateway.sound_ofDriver driver)

/-- Any work in a reachable state leaves a reachable one. -/
theorem Session.Reachable.after {α σ β : Type} {session : Session α σ}
    (reachable : session.Reachable) (program : Program α σ β) :
    (program.run.after session).Reachable := by
  rcases reachable with ⟨driver, caller, γ, earlier, rfl⟩
  refine ⟨driver, caller, β, earlier.bind fun _ => program, ?_⟩
  rw [Program.run_bind, Operation.after_observe_bind]

/-- So does a query, whatever its hooks do with the library. -/
theorem Session.Reachable.query {α σ : Type} {session : Session α σ}
    (reachable : session.Reachable)
    (callbacks : String → Native.HookPhase → α → String → Program α σ Unit)
    (database : Database) (template : String) (values : List Value) :
    ((database.query (Program.runner callbacks) template values).after session).Reachable := by
  rw [← Program.run_querying]
  exact reachable.after _

/-- The session over a database in memory is reached by opening that database. -/
theorem Session.reachable_memory : Session.memory.Reachable :=
  ⟨.ofScript [] [] [] (.int 0), (), Unit,
    .use (Session.library Gateway.openMemory)
      (Operation.Respects.within Gateway.openMemory_undisturbed fun _ _ lifted => lifted)
      fun _ => .done (),
    rfl⟩

end SqlGateway
