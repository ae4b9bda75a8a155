import Mathlib.Order.Defs.Unbundled
import SqlGateway.Operation

namespace SqlGateway
namespace Operation

/-!
# What an operation leaves behind

An operation is run on a state and comes to an outcome and to another state.  Most
operations leave most of the state alone, whatever their outcome.  Such a fact is a relation
between the state before and the state after; if the relation is reflexive and transitive,
it needs to be shown for the smallest operations only.
-/

variable {σ τ α β : Type}

/-- What an operation comes to. -/
def outcome (operation : Operation σ α) (state : σ) : Except Fault α :=
  match operation state with
  | .ok value _ => .ok value
  | .error fault _ => .error fault

/-- The state that an operation leaves. -/
def after (operation : Operation σ α) (state : σ) : σ :=
  match operation state with
  | .ok _ left => left
  | .error _ left => left

/-- The fault of an outcome that is a failure. -/
def failure? : Except Fault α → Option Fault
  | .ok _ => none
  | .error fault => some fault

theorem failure?_mapError (view : Fault → Fault) (found : Except Fault α) :
    failure? (found.mapError view) = (failure? found).map view := by
  cases found <;> rfl

/-- The outcome together with the state that is left. -/
def result (outcome : Except Fault α) (left : σ) : EStateM.Result Fault σ α :=
  match outcome with
  | .ok value => .ok value left
  | .error fault => .error fault left

theorem run_eq (operation : Operation σ α) (state : σ) :
    operation state = result (operation.outcome state) (operation.after state) := by
  simp only [outcome, after]
  cases operation state <;> rfl

theorem outcome_of_run {operation : Operation σ α} {state left : σ} {found : Except Fault α}
    (run : operation state = result found left) : operation.outcome state = found := by
  rw [outcome, run]
  cases found <;> rfl

theorem after_of_run {operation : Operation σ α} {state left : σ} {found : Except Fault α}
    (run : operation state = result found left) : operation.after state = left := by
  rw [after, run]
  cases found <;> rfl

theorem after_of_ok {operation : Operation σ α} {state left : σ} {value : α}
    (run : operation state = .ok value left) : operation.after state = left := by
  rw [after, run]

theorem outcome_of_ok {operation : Operation σ α} {state left : σ} {value : α}
    (run : operation state = .ok value left) : operation.outcome state = .ok value := by
  rw [outcome, run]

theorem after_of_error {operation : Operation σ α} {state left : σ} {fault : Fault}
    (run : operation state = .error fault left) : operation.after state = left := by
  rw [after, run]

theorem outcome_of_error {operation : Operation σ α} {state left : σ} {fault : Fault}
    (run : operation state = .error fault left) : operation.outcome state = .error fault := by
  rw [outcome, run]

theorem run_of_ok {operation : Operation σ α} {state : σ} {value : α}
    (succeeds : operation.outcome state = .ok value) :
    operation state = .ok value (operation.after state) := by
  rw [operation.run_eq state, succeeds]
  rfl

theorem run_of_error {operation : Operation σ α} {state : σ} {fault : Fault}
    (fails : operation.outcome state = .error fault) :
    operation state = .error fault (operation.after state) := by
  rw [operation.run_eq state, fails]
  rfl

/-- An operation whose failure is known fails. -/
theorem error_of_failure? {operation : Operation σ α} {state : σ} {function : Fault → β} {value : β}
    (known : (failure? (operation.outcome state)).map function = some value) :
    exists fault, operation state = .error fault (operation.after state) ∧
      function fault = value := by
  cases found : operation.outcome state with
  | ok given =>
      rw [found] at known
      cases known
  | error fault =>
      rw [found] at known
      exact ⟨fault, run_of_error found, Option.some.inj known⟩

theorem outcome_congr {operation other : Operation σ α} {state : σ}
    (same : operation state = other state) : operation.outcome state = other.outcome state := by
  rw [outcome, same, outcome]

theorem after_congr {operation other : Operation σ α} {state : σ}
    (same : operation state = other state) : operation.after state = other.after state := by
  rw [after, same, after]

theorem bind_eq (first : Operation σ α) (next : α → Operation σ β) (state : σ) :
    (first >>= next) state =
      match first.outcome state with
      | .ok value => next value (first.after state)
      | .error fault => .error fault (first.after state) := by
  simp only [bind, EStateM.bind, outcome, after]
  cases first state <;> rfl

theorem after_bind (first : Operation σ α) (next : α → Operation σ β) (state : σ) :
    (first >>= next).after state =
      match first.outcome state with
      | .ok value => (next value).after (first.after state)
      | .error _ => first.after state := by
  rw [after, bind_eq]
  cases first.outcome state <;> rfl

theorem outcome_bind (first : Operation σ α) (next : α → Operation σ β) (state : σ) :
    (first >>= next).outcome state =
      match first.outcome state with
      | .ok value => (next value).outcome (first.after state)
      | .error fault => .error fault := by
  rw [outcome, bind_eq]
  cases first.outcome state <;> rfl

theorem bind_of_ok {first : Operation σ α} {state left : σ} {value : α}
    (ran : first state = .ok value left) (next : α → Operation σ β) :
    (first >>= next) state = next value left := by
  simp only [bind, EStateM.bind, ran]

theorem bind_of_error {first : Operation σ α} {state left : σ} {fault : Fault}
    (ran : first state = .error fault left) (next : α → Operation σ β) :
    (first >>= next) state = .error fault left := by
  simp only [bind, EStateM.bind, ran]

/-- What a successful sequence of operations did first. -/
theorem ok_of_bind {first : Operation σ α} {next : α → Operation σ β} {state : σ} {value : β}
    (succeeds : (first >>= next).outcome state = .ok value) :
    exists found left, first state = .ok found left ∧ (next found).outcome left = .ok value := by
  rw [outcome_bind] at succeeds
  simp only [outcome, after] at succeeds
  cases ran : first state with
  | error fault left =>
      rw [ran] at succeeds
      cases succeeds
  | ok found left =>
      rw [ran] at succeeds
      exact ⟨found, left, rfl, succeeds⟩

/-- A sequence of operations fails where its first part fails, or where what follows does. -/
theorem error_of_bind {first : Operation σ α} {next : α → Operation σ β} {state left : σ}
    {fault : Fault} (fails : (first >>= next) state = .error fault left) :
    first state = .error fault left ∨
      exists found middle, first state = .ok found middle ∧
        next found middle = .error fault left := by
  cases ran : first state with
  | error other reached =>
      cases (bind_of_error ran next).symm.trans fails
      exact Or.inl rfl
  | ok found middle =>
      exact Or.inr ⟨found, middle, rfl, (bind_of_ok ran next).symm.trans fails⟩

theorem observe_eq (operation : Operation σ α) (state : σ) :
    observe operation state = .ok (operation.outcome state) (operation.after state) := by
  simp only [observe, outcome, after]
  cases operation state <;> rfl

theorem mapFault_eq (view : Fault → Fault) (operation : Operation σ α) (state : σ) :
    mapFault view operation state =
      result ((operation.outcome state).mapError view) (operation.after state) := by
  simp only [mapFault, outcome, after]
  cases operation state <;> rfl

theorem outcome_mapFault (view : Fault → Fault) (operation : Operation σ α) (state : σ) :
    (mapFault view operation).outcome state = (operation.outcome state).mapError view :=
  outcome_of_run (mapFault_eq view operation state)

theorem after_mapFault (view : Fault → Fault) (operation : Operation σ α) (state : σ) :
    (mapFault view operation).after state = operation.after state :=
  after_of_run (mapFault_eq view operation state)

/-- The boundary around a sequence of operations is one around each of its parts. -/
theorem atBoundary_bind (detail : String) (kinds : Option (List FaultKind))
    (first : Operation σ α) (next : α → Operation σ β) :
    (first >>= next).atBoundary detail kinds =
      first.atBoundary detail kinds >>= fun value => (next value).atBoundary detail kinds := by
  funext state
  simp only [atBoundary, mapFault, bind, EStateM.bind]
  cases first state <;> rfl

theorem within_eq (part : σ → τ) (replace : σ → τ → σ) (operation : Operation τ α) (state : σ) :
    within part replace operation state =
      result (operation.outcome (part state)) (replace state (operation.after (part state))) := by
  simp only [within, outcome, after]
  cases operation (part state) <;> rfl

theorem outcome_within (part : σ → τ) (replace : σ → τ → σ) (operation : Operation τ α)
    (state : σ) :
    (within part replace operation).outcome state = operation.outcome (part state) :=
  outcome_of_run (within_eq part replace operation state)

theorem after_within (part : σ → τ) (replace : σ → τ → σ) (operation : Operation τ α)
    (state : σ) :
    (within part replace operation).after state =
      replace state (operation.after (part state)) :=
  after_of_run (within_eq part replace operation state)

theorem outcome_ofExcept (found : Except Fault α) (state : σ) :
    (ofExcept found).outcome state = found := by
  cases found <;> rfl

theorem after_ofExcept (found : Except Fault α) (state : σ) :
    (ofExcept found).after state = state := by
  cases found <;> rfl

theorem error_of_mapFault {view : Fault → Fault} {operation : Operation σ α} {state left : σ}
    {fault : Fault} (fails : mapFault view operation state = .error fault left) :
    exists reason, operation state = .error reason left ∧ fault = view reason := by
  unfold mapFault at fails
  cases ran : operation state with
  | ok value reached =>
      rw [ran] at fails
      cases fails
  | error reason reached =>
      rw [ran] at fails
      cases fails
      exact ⟨reason, rfl, rfl⟩

theorem error_of_within {part : σ → τ} {replace : σ → τ → σ} {operation : Operation τ α}
    {state left : σ} {fault : Fault}
    (fails : within part replace operation state = .error fault left) :
    exists changed, operation (part state) = .error fault changed ∧
      left = replace state changed := by
  unfold within at fails
  cases ran : operation (part state) with
  | ok value changed =>
      rw [ran] at fails
      cases fails
  | error reason changed =>
      rw [ran] at fails
      cases fails
      exact ⟨changed, rfl, rfl⟩

theorem ofExcept_eq_ok {found : Except Fault α} {state left : σ} {value : α} :
    ofExcept found state = .ok value left ↔ found = .ok value ∧ left = state := by
  cases found with
  | error fault => exact ⟨nofun, fun ⟨impossible, _⟩ => nomatch impossible⟩
  | ok given =>
      constructor
      · rintro ⟨⟩
        exact ⟨rfl, rfl⟩
      · rintro ⟨⟨⟩, rfl⟩
        rfl

theorem ofExcept_eq_error {found : Except Fault α} {state left : σ} {fault : Fault} :
    ofExcept found state = .error fault left ↔ found = .error fault ∧ left = state := by
  cases found with
  | ok given => exact ⟨nofun, fun ⟨impossible, _⟩ => nomatch impossible⟩
  | error other =>
      constructor
      · rintro ⟨⟩
        exact ⟨rfl, rfl⟩
      · rintro ⟨⟨⟩, rfl⟩
        rfl

/-- An operation on the value of another leaves nothing more behind. -/
theorem after_bind_pure (operation : Operation σ α) (function : α → β) (state : σ) :
    (operation >>= fun value => pure (function value)).after state = operation.after state := by
  rw [after_bind]
  cases operation.outcome state <;> rfl

/-- Going on after an observed operation, which does not fail. -/
theorem observe_bind (operation : Operation σ α) (next : Except Fault α → Operation σ β)
    (state : σ) :
    (observe operation >>= next) state =
      next (operation.outcome state) (operation.after state) := by
  rw [bind_eq, outcome, after, observe_eq]

theorem outcome_observe_bind (operation : Operation σ α) (next : Except Fault α → Operation σ β)
    (state : σ) :
    (observe operation >>= next).outcome state =
      (next (operation.outcome state)).outcome (operation.after state) := by
  rw [outcome, observe_bind]
  rfl

theorem after_observe_bind (operation : Operation σ α) (next : Except Fault α → Operation σ β)
    (state : σ) :
    (observe operation >>= next).after state =
      (next (operation.outcome state)).after (operation.after state) := by
  rw [after, observe_bind]
  rfl

theorem after_get_bind (next : σ → Operation σ β) (state : σ) :
    (get >>= next).after state = (next state).after state :=
  rfl

/-- What is decided by the value of an operation leaves nothing more behind. -/
theorem after_bind_ofExcept (operation : Operation σ α) (function : α → Except Fault β)
    (state : σ) :
    (operation >>= fun value => ofExcept (function value)).after state = operation.after state := by
  rw [after_bind]
  cases operation.outcome state with
  | error fault => rfl
  | ok value => exact after_ofExcept _ _

theorem after_thenAlways (operation : Operation σ α) (last : Operation σ Unit) (state : σ) :
    (operation.thenAlways last).after state = last.after (operation.after state) := by
  unfold thenAlways
  rw [after_observe_bind]
  exact after_bind_ofExcept _ _ _

/-! ## Relations between the state before and the state after -/

/-- An operation leaves a state that is related to the one that it was run on. -/
def Respects (relation : σ → σ → Prop) (operation : Operation σ α) : Prop :=
  forall state, relation state (operation.after state)

namespace Respects

/-- A weaker relation is respected as well. -/
theorem mono {stronger weaker : σ → σ → Prop} {operation : Operation σ α}
    (respects : Respects stronger operation)
    (implies : forall before after, stronger before after -> weaker before after) :
    Respects weaker operation :=
  fun state => implies _ _ (respects state)

variable {relation : σ → σ → Prop}

theorem mapFault {operation : Operation σ α} (view : Fault → Fault)
    (respects : Respects relation operation) :
    Respects relation (operation.mapFault view) := by
  intro state
  rw [after_mapFault]
  exact respects state

theorem atBoundary {operation : Operation σ α} (detail : String)
    (kinds : Option (List FaultKind)) (respects : Respects relation operation) :
    Respects relation (operation.atBoundary detail kinds) :=
  mapFault _ respects

theorem observe {operation : Operation σ α} (respects : Respects relation operation) :
    Respects relation (Operation.observe operation) := by
  intro state
  rw [after, observe_eq]
  exact respects state

theorem modify {change : σ → σ} (changes : forall state, relation state (change state)) :
    Respects relation (modify change : Operation σ Unit) :=
  changes

/-- An operation on a part of the state does what it does to that part. -/
theorem within {part : σ → τ} {replace : σ → τ → σ} {inner : τ → τ → Prop}
    {operation : Operation τ α} (respects : Respects inner operation)
    (lifts : forall state changed, inner (part state) changed ->
      relation state (replace state changed)) :
    Respects relation (Operation.within part replace operation) := by
  intro state
  rw [after_within]
  exact lifts state _ (respects (part state))

/-- An operation on a part of the state that the relation says nothing about. -/
theorem withinIgnored {part : σ → τ} {replace : σ → τ → σ} {operation : Operation τ α}
    (ignores : forall state changed, relation state (replace state changed)) :
    Respects relation (Operation.within part replace operation) := by
  intro state
  rw [after_within]
  exact ignores state _

variable [IsPreorder σ relation]

theorem pure (value : α) : Respects relation (pure value : Operation σ α) :=
  fun state => refl_of relation state

theorem throw (fault : Fault) : Respects relation (throw fault : Operation σ α) :=
  fun state => refl_of relation state

theorem get : Respects relation (get : Operation σ σ) :=
  fun state => refl_of relation state

theorem ofExcept (outcome : Except Fault α) :
    Respects relation (Operation.ofExcept outcome : Operation σ α) := by
  cases outcome with
  | ok value => exact pure value
  | error fault => exact throw fault

theorem bind {first : Operation σ α} {next : α → Operation σ β}
    (respects : Respects relation first) (rest : forall value, Respects relation (next value)) :
    Respects relation (first >>= next) := by
  intro state
  rw [after_bind]
  cases first.outcome state with
  | ok value => exact trans_of relation (respects state) (rest value _)
  | error fault => exact respects state

/-- As `bind`, where what follows is known to go on from a value that the first part gave. -/
theorem bindGiven {first : Operation σ α} {next : α → Operation σ β}
    (respects : Respects relation first)
    (rest : forall state value, first.outcome state = .ok value ->
      relation (first.after state) ((next value).after (first.after state))) :
    Respects relation (first >>= next) := by
  intro state
  rw [after_bind]
  cases given : first.outcome state with
  | ok value => exact trans_of relation (respects state) (rest state value given)
  | error fault => exact respects state

theorem thenAlways {operation : Operation σ α} {last : Operation σ Unit}
    (respects : Respects relation operation) (lastRespects : Respects relation last) :
    Respects relation (operation.thenAlways last) :=
  bind respects.observe fun outcome => bind lastRespects fun _ => ofExcept outcome

theorem forEach {operation : β → Operation σ Unit}
    (respects : forall member, Respects relation (operation member)) (members : List β) :
    Respects relation (Operation.forEach operation members) := by
  induction members with
  | nil => exact pure ()
  | cons member rest inductionHypothesis =>
      exact bind (respects member) fun _ => inductionHypothesis

end Respects

end Operation
end SqlGateway
