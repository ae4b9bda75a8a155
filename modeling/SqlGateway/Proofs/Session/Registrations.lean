import Mathlib.Logic.Function.Basic
import SqlGateway.Proofs.Session.Quiet

namespace SqlGateway

/-!
# Hooks that callbacks register and take out

The callbacks of hooks may register hooks themselves and take hooks out, on the entry whose
statement is run and on any other.  So that what they did can be told afterwards, the caller keeps a
diary: each such request is written down with what came of it, in the order in which the requests
were made.  The notes of a diary explain how the hooks of all entries changed.

A registered hook comes last.  Taking a hook out leaves the others in their order.  To take out a
hook that the entry does not have is refused and changes nothing.
-/

/-- A note on a request about the hooks of an entry. -/
inductive HookNote (α : Type) where
  | registered (entry : Nat) (hook : Hook α)
  | takenOut (entry : Nat) (id : Option Nat)
  | refused (entry : Nat) (id : Option Nat) (fault : Fault)

def unknownHook : Fault := .of .invalidParameter "Unknown hook"

namespace HookNote

variable {α : Type}

/-- The notes tell, in order, all that became of the hooks of every entry. -/
inductive Explain : List (HookNote α) → (Nat → List (Hook α)) → (Nat → List (Hook α)) → Prop where
  | unchanged (hooks : Nat → List (Hook α)) : Explain [] hooks hooks
  | registered {notes : List (HookNote α)} {first middle : Nat → List (Hook α)}
      (earlier : Explain notes first middle) (entry : Nat) (hook : Hook α) :
      Explain (notes ++ [.registered entry hook]) first
        (Function.update middle entry (middle entry ++ [hook]))
  | takenOut {notes : List (HookNote α)} {first middle : Nat → List (Hook α)}
      (earlier : Explain notes first middle) (entry : Nat) (id : Option Nat)
      (present : exists hook, hook ∈ middle entry ∧ some hook.id = id) :
      Explain (notes ++ [.takenOut entry id]) first
        (Function.update middle entry ((middle entry).filter fun hook => some hook.id != id))
  | refused {notes : List (HookNote α)} {first middle : Nat → List (Hook α)}
      (earlier : Explain notes first middle) (entry : Nat) (id : Option Nat)
      (absent : forall hook, hook ∈ middle entry -> some hook.id ≠ id) :
      Explain (notes ++ [.refused entry id unknownHook]) first middle

theorem Explain.append {notes later : List (HookNote α)}
    {first middle last : Nat → List (Hook α)} (earlier : Explain notes first middle)
    (rest : Explain later middle last) : Explain (notes ++ later) first last := by
  induction rest with
  | unchanged hooks =>
      rw [List.append_nil]
      exact earlier
  | registered _ entry hook inductionHypothesis =>
      rw [← List.append_assoc]
      exact .registered (inductionHypothesis earlier) entry hook
  | takenOut _ entry id present inductionHypothesis =>
      rw [← List.append_assoc]
      exact .takenOut (inductionHypothesis earlier) entry id present
  | refused _ entry id absent inductionHypothesis =>
      rw [← List.append_assoc]
      exact .refused (inductionHypothesis earlier) entry id absent

end HookNote

/-- The state of a caller who keeps a diary of requests about hooks. -/
structure Diary (α σ : Type) where
  notes : List (HookNote α)
  rest : σ

/-! ## Requests about hooks -/

namespace Gateway

variable {α β : Type}

def hooks (gateway : Gateway α) (id : Nat) : List (Hook α) := (gateway.entry id).hooks

/-- The hooks of every entry and all trackers are what they were. -/
structure KeepsHooks (before after : Gateway α) : Prop where
  hooks : after.hooks = before.hooks
  trackers : after.trackers = before.trackers

instance : IsPreorder (Gateway α) KeepsHooks where
  refl _ := ⟨rfl, rfl⟩
  trans _ _ _ first second :=
    ⟨second.hooks.trans first.hooks, second.trackers.trans first.trackers⟩

theorem Untouched.keepsHooks {before after : Gateway α} (untouched : Untouched before after) :
    KeepsHooks before after where
  hooks := by
    funext id
    unfold Gateway.hooks
    rw [untouched.entry]
  trackers := untouched.trackers

theorem respects_keepsHooks {operation : Operation (Gateway α) β}
    (untouched : operation.Respects Untouched) : operation.Respects KeepsHooks :=
  untouched.mono fun _ _ => Untouched.keepsHooks

theorem hooks_setEntry (gateway : Gateway α) (id : Nat) (entry : Entry α) :
    (gateway.setEntry id entry).hooks = Function.update gateway.hooks id entry.hooks := by
  funext other
  unfold Gateway.hooks
  rw [entry_setEntry, Function.update_apply]
  split <;> rfl

theorem changeEntry_keepsHooks (id : Nat) {change : Entry α → Entry α}
    (kept : forall entry, (change entry).hooks = entry.hooks) :
    (changeEntry id change : Operation (Gateway α) Unit).Respects KeepsHooks := by
  refine Operation.Respects.modify fun gateway => ⟨?_, rfl⟩
  rw [hooks_setEntry, kept]
  exact Function.update_eq_self id gateway.hooks

/-- Connecting an entry is not about hooks. -/
theorem connect_keepsHooks (id : Nat) :
    (connect id : Operation (Gateway α) Handle).Respects KeepsHooks := by
  intro gateway
  cases held : (gateway.entry id).handle with
  | some current =>
      rw [Operation.after, connect_of_connected held]
      exact refl_of KeepsHooks gateway
  | none =>
      rw [Operation.after, connect_of_unconnected held]
      rcases openEntry_opens id (gateway.entry id).params gateway with
        ⟨fault, left, fails, untouched⟩ | ⟨handle, left, opens, opened⟩
      · rw [fails]
        exact untouched.keepsHooks
      · rw [opens]
        refine ⟨?_, opened.trackers⟩
        funext other
        unfold Gateway.hooks
        rw [opened.entry]
        split
        · rename_i same
          rw [same]
        · rfl

end Gateway

namespace Database

variable {α : Type} {database : Database} {gateway : Gateway α}

theorem registerHook_hooks (name : String) (before after : Option α) :
    ((database.registerHook name before after).after gateway).hooks =
      Function.update gateway.hooks database.entry
        (gateway.hooks database.entry ++ [⟨gateway.hookCount, name, before, after⟩]) := by
  let counted : Gateway α := { gateway with hookCount := gateway.hookCount + 1 }
  exact Gateway.hooks_setEntry counted database.entry _

theorem unregisterHook_of_present {id : Option Nat}
    (present : exists hook, hook ∈ gateway.hooks database.entry ∧ some hook.id = id) :
    exists left, database.unregisterHook id gateway = .ok () left ∧
      left.driver = gateway.driver ∧ left.trackers = gateway.trackers ∧
      left.hooks = Function.update gateway.hooks database.entry
        ((gateway.hooks database.entry).filter fun hook => some hook.id != id) := by
  have found : (gateway.hooks database.entry).any (fun hook => some hook.id == id) = true := by
    rcases present with ⟨hook, member, same⟩
    exact List.any_eq_true.mpr ⟨hook, member, beq_iff_eq.mpr same⟩
  let change (entry : Entry α) : Entry α :=
    { entry with hooks := entry.hooks.filter fun hook => some hook.id != id }
  refine ⟨(Gateway.changeEntry database.entry change).after gateway, ?_, rfl, rfl,
    Gateway.hooks_setEntry gateway _ _⟩
  change (if (gateway.hooks database.entry).any (fun hook => some hook.id == id) = true
    then Gateway.changeEntry database.entry change else throw unknownHook :
      Operation (Gateway α) Unit) gateway = _
  rw [if_pos found]
  rfl

theorem unregisterHook_of_absent {id : Option Nat}
    (absent : forall hook, hook ∈ gateway.hooks database.entry -> some hook.id ≠ id) :
    database.unregisterHook id gateway = .error unknownHook gateway := by
  have missing : ¬ (gateway.hooks database.entry).any (fun hook => some hook.id == id) = true := by
    intro found
    rcases List.any_eq_true.mp found with ⟨hook, member, same⟩
    exact absent hook member (beq_iff_eq.mp same)
  change (if (gateway.hooks database.entry).any (fun hook => some hook.id == id) = true
    then Gateway.changeEntry database.entry _ else throw unknownHook :
      Operation (Gateway α) Unit) gateway = _
  rw [if_neg missing]
  rfl

end Database

/-! ## Callbacks that only make requests about hooks -/

namespace Session

variable {α σ β : Type}

/-- Write a note into the caller's diary. -/
def write (note : HookNote α) : Operation (Session α (Diary α σ)) Unit :=
  onCaller (modify fun diary => { diary with notes := diary.notes ++ [note] })

/-- Register a hook and write it down. -/
def registering (database : Database) (name : String) (before after : Option α) :
    Operation (Session α (Diary α σ)) (Hook α) := do
  let hook ← library (database.registerHook name before after)
  write (.registered database.entry ⟨hook.id, name, before, after⟩)
  return hook

/-- Take a hook out, and write down whether it was there. -/
def takingOut (database : Database) (id : Option Nat) :
    Operation (Session α (Diary α σ)) Unit := do
  match ← Operation.observe (library (database.unregisterHook id)) with
  | .ok () => write (.takenOut database.entry id)
  | .error fault =>
    write (.refused database.entry id fault)
    throw fault

/-- All that became of hooks is explained by what was added to the diary, and no transaction was
begun or ended. -/
structure Explained (before after : Session α (Diary α σ)) : Prop where
  notes : exists notes, after.caller.notes = before.caller.notes ++ notes ∧
    HookNote.Explain notes before.gateway.hooks after.gateway.hooks
  trackers : after.gateway.trackers = before.gateway.trackers

/-- Moreover nothing was asked of the driver. -/
structure Arranged (before after : Session α (Diary α σ)) : Prop extends Explained before after where
  driver : after.gateway.driver = before.gateway.driver

theorem Explained.of_kept {before after : Session α (Diary α σ)}
    (kept : before.gateway.KeepsHooks after.gateway)
    (unwritten : after.caller.notes = before.caller.notes) : Explained before after where
  notes := by
    refine ⟨[], ?_, ?_⟩
    · rw [unwritten, List.append_nil]
    · rw [kept.hooks]
      exact .unchanged _
  trackers := kept.trackers

instance : IsPreorder (Session α (Diary α σ)) Explained where
  refl _ := .of_kept (refl_of Gateway.KeepsHooks _) rfl
  trans _ _ _ first second := by
    rcases first.notes with ⟨notes, added, explain⟩
    rcases second.notes with ⟨later, addedLater, explainLater⟩
    refine ⟨⟨notes ++ later, ?_, explain.append explainLater⟩,
      second.trackers.trans first.trackers⟩
    rw [addedLater, added, List.append_assoc]

instance : IsPreorder (Session α (Diary α σ)) Arranged where
  refl session := ⟨refl_of Explained session, rfl⟩
  trans _ _ _ first second :=
    ⟨trans_of Explained first.toExplained second.toExplained, second.driver.trans first.driver⟩

theorem library_explained {operation : Operation (Gateway α) β}
    (kept : operation.Respects Gateway.KeepsHooks) :
    (library operation : Operation (Session α (Diary α σ)) β).Respects Explained :=
  .within kept fun _ _ known => .of_kept known rfl

theorem registering_arranged (database : Database) (name : String) (before after : Option α) :
    (registering database name before after :
      Operation (Session α (Diary α σ)) (Hook α)).Respects Arranged := by
  intro session
  refine ⟨⟨⟨[.registered database.entry ⟨session.gateway.hookCount, name, before, after⟩], rfl,
    ?_⟩, rfl⟩, rfl⟩
  have explain := HookNote.Explain.registered (.unchanged session.gateway.hooks) database.entry
    ⟨session.gateway.hookCount, name, before, after⟩
  rw [← database.registerHook_hooks] at explain
  exact explain

theorem takingOut_arranged (database : Database) (id : Option Nat) :
    (takingOut database id : Operation (Session α (Diary α σ)) Unit).Respects Arranged := by
  intro session
  by_cases present : exists hook, hook ∈ session.gateway.hooks database.entry ∧ some hook.id = id
  · rcases Database.unregisterHook_of_present present with ⟨left, ran, driver, trackers, hooks⟩
    have asked : (library (database.unregisterHook id) :
        Operation (Session α (Diary α σ)) Unit) session = .ok () { session with gateway := left } := by
      unfold library Operation.within
      rw [ran]
    rw [takingOut, Operation.after_observe_bind, Operation.outcome_of_ok asked,
      Operation.after_of_ok asked]
    refine ⟨⟨⟨[.takenOut database.entry id], rfl, ?_⟩, trackers⟩, driver⟩
    have explain := HookNote.Explain.takenOut (.unchanged session.gateway.hooks) database.entry id
      present
    rw [← hooks] at explain
    exact explain
  · have absent : forall hook, hook ∈ session.gateway.hooks database.entry -> some hook.id ≠ id :=
      fun hook member same => present ⟨hook, member, same⟩
    have asked : (library (database.unregisterHook id) :
        Operation (Session α (Diary α σ)) Unit) session = .error unknownHook session := by
      unfold library Operation.within
      rw [Database.unregisterHook_of_absent absent]
    rw [takingOut, Operation.after_observe_bind, Operation.outcome_of_error asked,
      Operation.after_of_error asked]
    exact ⟨⟨⟨[.refused database.entry id unknownHook], rfl,
      .refused (.unchanged session.gateway.hooks) database.entry id absent⟩, rfl⟩, rfl⟩

/-- Work that makes requests about hooks and writes them down.  Between them it may do anything
that asks nothing of the driver and is not about hooks or transactions, such as reading the state,
failing, and stopping a failure. -/
inductive ArrangesHooks :
    {β : Type} → Operation (Session α (Diary α σ)) β → Prop where
  | registering (database : Database) (name : String) (before after : Option α) :
      ArrangesHooks (registering database name before after)
  | takingOut (database : Database) (id : Option Nat) : ArrangesHooks (takingOut database id)
  | aside {β : Type} {operation : Operation (Session α (Diary α σ)) β}
      (gateway : forall session, session.gateway.KeepsHooks (operation.after session).gateway ∧
        (operation.after session).gateway.driver = session.gateway.driver)
      (notes : forall session, (operation.after session).caller.notes = session.caller.notes) :
      ArrangesHooks operation
  | bind {β γ : Type} {first : Operation (Session α (Diary α σ)) β}
      {next : β → Operation (Session α (Diary α σ)) γ} (arranges : ArrangesHooks first)
      (rest : forall value, ArrangesHooks (next value)) :
      ArrangesHooks (first >>= next)
  | observe {β : Type} {operation : Operation (Session α (Diary α σ)) β}
      (arranges : ArrangesHooks operation) : ArrangesHooks (Operation.observe operation)

theorem ArrangesHooks.arranged {operation : Operation (Session α (Diary α σ)) β}
    (arranges : ArrangesHooks operation) : operation.Respects Arranged := by
  induction arranges with
  | registering database name before after =>
      exact registering_arranged database name before after
  | takingOut database id => exact takingOut_arranged database id
  | aside gateway notes =>
      intro session
      rcases gateway session with ⟨kept, driver⟩
      exact ⟨.of_kept kept (notes session), driver⟩
  | bind _ _ firstHypothesis restHypothesis => exact .bind firstHypothesis restHypothesis
  | observe _ inductionHypothesis => exact .observe inductionHypothesis

end Session

end SqlGateway
