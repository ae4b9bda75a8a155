import SqlGateway.Proofs.Operation

namespace SqlGateway
namespace Operation

/-!
# Two runs side by side

Two operations are run, each on a state of its own.  They are alike if, from states that are
related, they come to one outcome and leave states that are related again.  What the relation
keeps silent about has then no influence on the outcomes.

Operations that are put together from alike operations are alike.  So the relation needs to be
looked at only where the state is read or changed.
-/

variable {σ τ α β : Type}

/-- On two states the operations come to one outcome and leave related states. -/
def AlikeOn (relation : σ → σ → Prop) (operation other : Operation σ α) (first second : σ) : Prop :=
  operation.outcome first = other.outcome second ∧
  relation (operation.after first) (other.after second)

/-- On related states the operations come to one outcome and leave related states. -/
def Alike (relation : σ → σ → Prop) (operation other : Operation σ α) : Prop :=
  forall first second, relation first second -> AlikeOn relation operation other first second

/-- What follows needs to be alike only where the first parts have left the states, and only
for a value that they gave. -/
theorem AlikeOn.bind {relation : σ → σ → Prop} {operation other : Operation σ α}
    {next otherNext : α → Operation σ β} {first second : σ}
    (alike : AlikeOn relation operation other first second)
    (rest : forall value, operation.outcome first = .ok value -> other.outcome second = .ok value ->
      relation (operation.after first) (other.after second) ->
      AlikeOn relation (next value) (otherNext value) (operation.after first)
        (other.after second)) :
    AlikeOn relation (operation >>= next) (other >>= otherNext) first second := by
  rcases alike with ⟨sameOutcome, related⟩
  unfold AlikeOn
  rw [outcome_bind, outcome_bind, after_bind, after_bind, sameOutcome]
  cases given : other.outcome second with
  | ok value => exact rest value (sameOutcome.trans given) given related
  | error fault => exact ⟨rfl, related⟩

/-- Going on after observed operations, which do not fail. -/
theorem AlikeOn.observeBind {relation : σ → σ → Prop} {operation other : Operation σ α}
    {next otherNext : Except Fault α → Operation σ β} {first second : σ}
    (alike : AlikeOn relation operation other first second)
    (rest : relation (operation.after first) (other.after second) ->
      AlikeOn relation (next (operation.outcome first)) (otherNext (operation.outcome first))
        (operation.after first) (other.after second)) :
    AlikeOn relation (observe operation >>= next) (observe other >>= otherNext) first second := by
  rcases alike with ⟨sameOutcome, related⟩
  unfold AlikeOn
  rw [outcome_observe_bind, outcome_observe_bind, after_observe_bind, after_observe_bind,
    ← sameOutcome]
  exact rest related

namespace Alike

variable {relation : σ → σ → Prop}

theorem ofExcept (outcome : Except Fault α) :
    Alike relation (Operation.ofExcept outcome) (Operation.ofExcept outcome) := by
  intro first second related
  unfold AlikeOn
  rw [outcome_ofExcept, outcome_ofExcept, after_ofExcept, after_ofExcept]
  exact ⟨rfl, related⟩

theorem pure (value : α) :
    Alike relation (pure value : Operation σ α) (pure value : Operation σ α) :=
  ofExcept (.ok value)

theorem throw (fault : Fault) :
    Alike relation (throw fault : Operation σ α) (throw fault : Operation σ α) :=
  ofExcept (.error fault)

theorem bind {operation other : Operation σ α} {next otherNext : α → Operation σ β}
    (alike : Alike relation operation other)
    (rest : forall value, Alike relation (next value) (otherNext value)) :
    Alike relation (operation >>= next) (other >>= otherNext) :=
  fun first second related => (alike first second related).bind fun value _ _ stillRelated =>
    rest value _ _ stillRelated

/-- What is read from related states may be used alike. -/
theorem getBind {next otherNext : σ → Operation σ β}
    (rest : forall first second, relation first second ->
      Alike relation (next first) (otherNext second)) :
    Alike relation (get >>= next) (get >>= otherNext) :=
  fun first second related => rest first second related first second related

theorem modify {change otherChange : σ → σ}
    (changes : forall first second, relation first second ->
      relation (change first) (otherChange second)) :
    Alike relation (modify change : Operation σ Unit) (modify otherChange : Operation σ Unit) :=
  fun first second related => ⟨rfl, changes first second related⟩

theorem observe {operation other : Operation σ α} (alike : Alike relation operation other) :
    Alike relation (Operation.observe operation) (Operation.observe other) := by
  intro first second related
  rcases alike first second related with ⟨sameOutcome, stillRelated⟩
  unfold AlikeOn
  rw [outcome_of_ok (observe_eq operation first), outcome_of_ok (observe_eq other second),
    after_of_ok (observe_eq operation first), after_of_ok (observe_eq other second)]
  exact ⟨congrArg Except.ok sameOutcome, stillRelated⟩

theorem mapFault {operation other : Operation σ α} (view : Fault → Fault)
    (alike : Alike relation operation other) :
    Alike relation (operation.mapFault view) (other.mapFault view) := by
  intro first second related
  rcases alike first second related with ⟨sameOutcome, stillRelated⟩
  unfold AlikeOn
  rw [outcome_mapFault, outcome_mapFault, after_mapFault, after_mapFault, sameOutcome]
  exact ⟨rfl, stillRelated⟩

theorem atBoundary {operation other : Operation σ α} (detail : String)
    (kinds : Option (List FaultKind)) (alike : Alike relation operation other) :
    Alike relation (operation.atBoundary detail kinds) (other.atBoundary detail kinds) :=
  mapFault _ alike

theorem thenAlways {operation other : Operation σ α} {last otherLast : Operation σ Unit}
    (alike : Alike relation operation other) (lastAlike : Alike relation last otherLast) :
    Alike relation (operation.thenAlways last) (other.thenAlways otherLast) :=
  bind alike.observe fun outcome => bind lastAlike fun _ => ofExcept outcome

theorem forEach {operation other : β → Operation σ Unit}
    (alike : forall member, Alike relation (operation member) (other member)) (members : List β) :
    Alike relation (Operation.forEach operation members) (Operation.forEach other members) := by
  induction members with
  | nil => exact pure ()
  | cons member rest inductionHypothesis =>
      exact bind (alike member) fun _ => inductionHypothesis

/-- Operations on a part of the state, which has a relation of its own. -/
theorem within {part : σ → τ} {replace : σ → τ → σ} {inner : τ → τ → Prop}
    {operation other : Operation τ α} (alike : Alike inner operation other)
    (parts : forall first second, relation first second -> inner (part first) (part second))
    (replaced : forall first second changed otherChanged, relation first second ->
      inner changed otherChanged ->
        relation (replace first changed) (replace second otherChanged)) :
    Alike relation (Operation.within part replace operation)
      (Operation.within part replace other) := by
  intro first second related
  rcases alike _ _ (parts first second related) with ⟨sameOutcome, stillRelated⟩
  unfold AlikeOn
  rw [outcome_within, outcome_within, after_within, after_within]
  exact ⟨sameOutcome, replaced first second _ _ related stillRelated⟩

end Alike
end Operation
end SqlGateway
