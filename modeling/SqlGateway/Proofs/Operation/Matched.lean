import SqlGateway.Proofs.Operation.Alike

namespace SqlGateway

/-!
# Outcomes that are taken for the same

Alike operations come to one outcome.  Some operations give a thing that has a secret in it.  Side
by side they fail with one fault, or they give two things that a relation takes for the same.
What follows has to be shown for any two such things; where nothing of the secret is given on, the
operations are alike again.
-/

/-- One failure, or two values that are taken for the same. -/
inductive Corresponds {α β : Type} (same : α → β → Prop) :
    Except Fault α → Except Fault β → Prop
  | ok {value : α} {other : β} (taken : same value other) :
      Corresponds same (.ok value) (.ok other)
  | error (fault : Fault) : Corresponds same (.error fault) (.error fault)

namespace Corresponds

variable {α β γ δ : Type} {same : α → β → Prop} {later : γ → δ → Prop}

theorem of_eq (outcome : Except Fault α) : Corresponds Eq outcome outcome := by
  cases outcome with
  | ok value => exact .ok rfl
  | error fault => exact .error fault

theorem eq {outcome other : Except Fault α} (corresponds : Corresponds Eq outcome other) :
    outcome = other := by
  cases corresponds with
  | ok taken => rw [taken]
  | error fault => rfl

theorem bind {outcome : Except Fault α} {other : Except Fault β} {next : α → Except Fault γ}
    {otherNext : β → Except Fault δ} (corresponds : Corresponds same outcome other)
    (rest : forall value other, same value other ->
      Corresponds later (next value) (otherNext other)) :
    Corresponds later (outcome >>= next) (other >>= otherNext) := by
  cases corresponds with
  | ok taken => exact rest _ _ taken
  | error fault => exact .error fault

theorem afterSame (outcome : Except Fault α) {next : α → Except Fault γ}
    {otherNext : α → Except Fault δ}
    (rest : forall value, Corresponds later (next value) (otherNext value)) :
    Corresponds later (outcome >>= next) (outcome >>= otherNext) := by
  cases outcome with
  | ok value => exact rest value
  | error fault => exact .error fault

end Corresponds

namespace Operation

variable {σ τ α β γ : Type} {relation : σ → σ → Prop}

/-- On related states the operations come to outcomes that are taken for the same, and leave
related states. -/
def Matched (relation : σ → σ → Prop) (same : α → β → Prop) (operation : Operation σ α)
    (other : Operation σ β) : Prop :=
  forall first second, relation first second ->
    Corresponds same (operation.outcome first) (other.outcome second) ∧
      relation (operation.after first) (other.after second)

namespace Matched

theorem alike {operation other : Operation σ α} (matched : Matched relation Eq operation other) :
    Alike relation operation other :=
  fun first second related =>
    ⟨(matched first second related).1.eq, (matched first second related).2⟩

theorem of_alike {operation other : Operation σ α} (alike : Alike relation operation other) :
    Matched relation Eq operation other := by
  intro first second related
  rcases alike first second related with ⟨sameOutcome, stillRelated⟩
  rw [sameOutcome]
  exact ⟨.of_eq _, stillRelated⟩

variable {same : α → β → Prop} {γ δ : Type} {later : γ → δ → Prop}

theorem bind {operation : Operation σ α} {other : Operation σ β} {next : α → Operation σ γ}
    {otherNext : β → Operation σ δ} (matched : Matched relation same operation other)
    (rest : forall value other, same value other ->
      Matched relation later (next value) (otherNext other)) :
    Matched relation later (operation >>= next) (other >>= otherNext) := by
  intro first second related
  rcases matched first second related with ⟨corresponds, stillRelated⟩
  rw [outcome_bind, outcome_bind, after_bind, after_bind]
  generalize operation.outcome first = outcome at corresponds
  generalize other.outcome second = otherOutcome at corresponds
  cases corresponds with
  | ok taken => exact rest _ _ taken _ _ stillRelated
  | error fault => exact ⟨.error fault, stillRelated⟩

/-- Nothing of the secret is given on. -/
theorem bindAlike {operation : Operation σ α} {other : Operation σ β} {next : α → Operation σ γ}
    {otherNext : β → Operation σ γ} (matched : Matched relation same operation other)
    (rest : forall value other, same value other ->
      Alike relation (next value) (otherNext other)) :
    Alike relation (operation >>= next) (other >>= otherNext) :=
  (matched.bind fun value other taken => of_alike (rest value other taken)).alike

/-- The secret is not met before. -/
theorem afterAlike {operation other : Operation σ α} {next : α → Operation σ γ}
    {otherNext : α → Operation σ δ} (alike : Alike relation operation other)
    (rest : forall value, Matched relation later (next value) (otherNext value)) :
    Matched relation later (operation >>= next) (other >>= otherNext) := by
  refine (of_alike alike).bind fun value other equal => ?_
  rw [← equal]
  exact rest value

theorem getBind {next : σ → Operation σ α} {otherNext : σ → Operation σ β}
    (rest : forall first second, relation first second ->
      Matched relation same (next first) (otherNext second)) :
    Matched relation same (get >>= next) (get >>= otherNext) :=
  fun first second related => rest first second related first second related

theorem ofExcept {outcome : Except Fault α} {other : Except Fault β}
    (corresponds : Corresponds same outcome other) :
    Matched relation same (Operation.ofExcept outcome) (Operation.ofExcept other) := by
  intro first second related
  rw [outcome_ofExcept, outcome_ofExcept, after_ofExcept, after_ofExcept]
  exact ⟨corresponds, related⟩

theorem pure {value : α} {other : β} (taken : same value other) :
    Matched relation same (pure value : Operation σ α) (pure other : Operation σ β) :=
  ofExcept (.ok taken)

theorem observe {operation : Operation σ α} {other : Operation σ β}
    (matched : Matched relation same operation other) :
    Matched relation (Corresponds same) (Operation.observe operation)
      (Operation.observe other) := by
  intro first second related
  rcases matched first second related with ⟨corresponds, stillRelated⟩
  rw [outcome_of_ok (observe_eq operation first), outcome_of_ok (observe_eq other second),
    after_of_ok (observe_eq operation first), after_of_ok (observe_eq other second)]
  exact ⟨.ok corresponds, stillRelated⟩

theorem thenAlways {operation : Operation σ α} {other : Operation σ β}
    {last otherLast : Operation σ Unit} (matched : Matched relation same operation other)
    (lastAlike : Alike relation last otherLast) :
    Matched relation same (operation.thenAlways last) (other.thenAlways otherLast) :=
  matched.observe.bind fun _ _ corresponds => afterAlike lastAlike fun _ => ofExcept corresponds

/-- Operations on a part of the state, which has a relation of its own. -/
theorem within {part : σ → τ} {replace : σ → τ → σ} {inner : τ → τ → Prop}
    {operation : Operation τ α} {other : Operation τ β}
    (matched : Matched inner same operation other)
    (parts : forall first second, relation first second -> inner (part first) (part second))
    (replaced : forall first second changed otherChanged, relation first second ->
      inner changed otherChanged ->
        relation (replace first changed) (replace second otherChanged)) :
    Matched relation same (Operation.within part replace operation)
      (Operation.within part replace other) := by
  intro first second related
  rcases matched _ _ (parts first second related) with ⟨corresponds, stillRelated⟩
  rw [outcome_within, outcome_within, after_within, after_within]
  exact ⟨corresponds, replaced first second _ _ related stillRelated⟩

end Matched
end Operation
end SqlGateway
