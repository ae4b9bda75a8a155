import SqlGateway.Proofs.Operation

namespace SqlGateway
namespace Operation

/-!
# Operations that succeed

Most laws hold of an operation whatever comes of it.  Some are about operations that succeed: they
say that there is a value, what it is, and which state is left.  What an operation gives is
described for its value and the state together, and a sequence of operations gives what its last
part gives in the states that the earlier parts leave.

Where an operation succeeds up to its last step, whose outcome depends on what was answered, the
description is of the outcome.  Where it may fail at any step and nothing is said of its failures,
the description is of what it gives if it succeeds.
-/

variable {σ τ α β : Type}

/-- The operation succeeds, and its value and the state that it leaves are as described. -/
def Gives (operation : Operation σ α) (state : σ) (described : α -> σ -> Prop) : Prop :=
  exists value left, operation state = .ok value left ∧ described value left

namespace Gives

variable {operation : Operation σ α} {state : σ} {described : α -> σ -> Prop}

theorem of_outcome {value : α} (succeeds : operation.outcome state = .ok value)
    (leaves : described value (operation.after state)) : Gives operation state described :=
  ⟨value, _, run_of_ok succeeds, leaves⟩

/-- An operation that succeeds and keeps a relation. -/
theorem of_respects {relation : σ -> σ -> Prop} {value : α}
    (succeeds : operation.outcome state = .ok value) (respects : operation.Respects relation) :
    Gives operation state fun found left => found = value ∧ relation state left :=
  of_outcome succeeds ⟨rfl, respects state⟩

theorem of_run {value : α} {left : σ} (ran : operation state = .ok value left) :
    Gives operation state fun found reached => found = value ∧ reached = left :=
  ⟨value, left, ran, rfl, rfl⟩

theorem get : Gives (get : Operation σ σ) state fun found left => found = state ∧ left = state :=
  ⟨state, state, rfl, rfl, rfl⟩

theorem mono {wider : α -> σ -> Prop} (gives : Gives operation state described)
    (implies : forall value left, described value left -> wider value left) :
    Gives operation state wider := by
  rcases gives with ⟨value, left, ran, leaves⟩
  exact ⟨value, left, ran, implies value left leaves⟩

/-- What follows is described in every state that the first part may leave. -/
theorem bind {next : α -> Operation σ β} {wanted : β -> σ -> Prop}
    (gives : Gives operation state described)
    (rest : forall value left, described value left -> Gives (next value) left wanted) :
    Gives (operation >>= next) state wanted := by
  rcases gives with ⟨value, left, ran, leaves⟩
  rcases rest value left leaves with ⟨last, final, follows, wants⟩
  exact ⟨last, final, (bind_of_ok ran next).trans follows, wants⟩

theorem pure {value : α} (leaves : described value state) :
    Gives (pure value : Operation σ α) state described :=
  ⟨value, state, rfl, leaves⟩

theorem ofExcept {found : Except Fault α} {value : α} (known : found = .ok value) :
    Gives (Operation.ofExcept found : Operation σ α) state fun made left =>
      made = value ∧ left = state := by
  rw [known]
  exact ⟨value, state, rfl, rfl, rfl⟩

theorem atBoundary (detail : String) (kinds : Option (List FaultKind))
    (gives : Gives operation state described) :
    Gives (operation.atBoundary detail kinds) state described := by
  rcases gives with ⟨value, left, ran, leaves⟩
  refine ⟨value, left, ?_, leaves⟩
  rw [Operation.atBoundary, Operation.mapFault, ran]

theorem observe (gives : Gives operation state described) :
    Gives (Operation.observe operation) state fun found left =>
      exists value, found = .ok value ∧ described value left := by
  rcases gives with ⟨value, left, ran, leaves⟩
  refine ⟨.ok value, left, ?_, value, rfl, leaves⟩
  rw [observe_eq, outcome_of_ok ran, after_of_ok ran]

/-- An operation on a part of the state. -/
theorem within {part : σ -> τ} {replace : σ -> τ -> σ} {inner : Operation τ α}
    {wanted : α -> σ -> Prop} {partly : α -> τ -> Prop} (gives : Gives inner (part state) partly)
    (lifts : forall value changed, partly value changed -> wanted value (replace state changed)) :
    Gives (Operation.within part replace inner) state wanted := by
  rcases gives with ⟨value, changed, ran, leaves⟩
  refine ⟨value, replace state changed, ?_, lifts value changed leaves⟩
  rw [Operation.within, ran]

/-- What every member does from states of a kind, the whole list does. -/
theorem forEach {relation : σ -> σ -> Prop} [IsPreorder σ relation]
    {operation : β -> Operation σ Unit}
    (gives : forall member state, Gives (operation member) state fun _ left => relation state left)
    (members : List β) (state : σ) :
    Gives (Operation.forEach operation members) state fun _ left => relation state left := by
  induction members generalizing state with
  | nil => exact pure (refl_of relation state)
  | cons member rest inductionHypothesis =>
      refine bind (gives member state) fun _ middle first => ?_
      exact (inductionHypothesis middle).mono fun _ left second =>
        trans_of relation first second

end Gives

/-- The outcome and the state that is left are as described. -/
def Yields (operation : Operation σ α) (state : σ) (described : Except Fault α -> σ -> Prop) :
    Prop :=
  described (operation.outcome state) (operation.after state)

namespace Yields

variable {operation : Operation σ α} {state : σ} {described : Except Fault α -> σ -> Prop}

theorem of_gives (gives : Gives operation state fun value left => described (.ok value) left) :
    Yields operation state described := by
  rcases gives with ⟨value, left, ran, leaves⟩
  unfold Yields
  rw [outcome_of_ok ran, after_of_ok ran]
  exact leaves

theorem ofExcept {found : Except Fault α} (leaves : described found state) :
    Yields (Operation.ofExcept found) state described := by
  unfold Yields
  rw [outcome_ofExcept, after_ofExcept]
  exact leaves

theorem mono {wider : Except Fault α -> σ -> Prop} (yields : Yields operation state described)
    (implies : forall outcome left, described outcome left -> wider outcome left) :
    Yields operation state wider :=
  implies _ _ yields

/-- What follows an operation that succeeds decides the outcome. -/
theorem after_gives {next : α -> Operation σ β} {wanted : Except Fault β -> σ -> Prop}
    {known : α -> σ -> Prop} (gives : Gives operation state known)
    (rest : forall value left, known value left -> Yields (next value) left wanted) :
    Yields (operation >>= next) state wanted := by
  rcases gives with ⟨value, left, ran, leaves⟩
  have follows := rest value left leaves
  unfold Yields at follows ⊢
  rw [outcome_bind, after_bind, outcome_of_ok ran, after_of_ok ran]
  exact follows

theorem bind {next : α -> Operation σ β} {wanted : Except Fault β -> σ -> Prop}
    (yields : Yields operation state described)
    (rest : forall outcome left, described outcome left ->
      match outcome with
      | .ok value => Yields (next value) left wanted
      | .error fault => wanted (.error fault) left) :
    Yields (operation >>= next) state wanted := by
  have follows := rest _ _ yields
  unfold Yields
  rw [outcome_bind, after_bind]
  cases found : operation.outcome state with
  | ok value =>
      rw [found] at follows
      exact follows
  | error fault =>
      rw [found] at follows
      exact follows

/-- What is made of the outcome by a function. -/
theorem map {function : α -> β} {wanted : Except Fault β -> σ -> Prop}
    (yields : Yields operation state fun outcome left => wanted (outcome.map function) left) :
    Yields (operation >>= fun value => Pure.pure (function value)) state wanted := by
  refine bind yields fun outcome left known => ?_
  cases outcome with
  | ok value => exact known
  | error fault => exact known

/-- What is made of the outcome by a function that may fail. -/
theorem bindExcept {function : α -> Except Fault β} {wanted : Except Fault β -> σ -> Prop}
    (yields : Yields operation state fun outcome left => wanted (outcome >>= function) left) :
    Yields (operation >>= fun value => Operation.ofExcept (function value)) state wanted := by
  refine bind yields fun outcome left known => ?_
  cases outcome with
  | ok value => exact ofExcept known
  | error fault => exact known

theorem atBoundary (detail : String) (kinds : Option (List FaultKind))
    (yields : Yields operation state fun outcome left =>
      described (outcome.mapError (Fault.atBoundary detail kinds)) left) :
    Yields (operation.atBoundary detail kinds) state described := by
  unfold Yields Operation.atBoundary
  rw [outcome_mapFault, after_mapFault]
  exact yields

/-- An operation on a part of the state. -/
theorem within {part : σ -> τ} {replace : σ -> τ -> σ} {inner : Operation τ α}
    (yields : Yields inner (part state) fun outcome changed =>
      described outcome (replace state changed)) :
    Yields (Operation.within part replace inner) state described := by
  unfold Yields
  rw [outcome_within, after_within]
  exact yields

/-- A known outcome is the outcome of both parts if the second part succeeds. -/
theorem thenAlways {last : Operation σ Unit} {found : Except Fault α}
    (gives : Gives last state fun _ left => described found left) :
    Yields (Operation.thenAlways (.ofExcept found) last) state described := by
  have observed : Operation.observe (.ofExcept found) state = .ok found state := by
    rw [observe_eq, outcome_ofExcept, after_ofExcept]
  unfold Operation.thenAlways Yields
  rw [outcome_congr (bind_of_ok observed _), after_congr (bind_of_ok observed _)]
  exact after_gives gives fun _ _ leaves => ofExcept leaves

end Yields

/-- If the operation succeeds, its value and the state that it leaves are as described. -/
def MayGive (operation : Operation σ α) (state : σ) (described : α -> σ -> Prop) : Prop :=
  forall value left, operation state = .ok value left -> described value left

namespace MayGive

variable {operation : Operation σ α} {state : σ} {described : α -> σ -> Prop}

theorem self : MayGive operation state fun value left =>
    operation.outcome state = .ok value ∧ left = operation.after state :=
  fun _ _ ran => ⟨outcome_of_ok ran, (after_of_ok ran).symm⟩

theorem mono {wider : α -> σ -> Prop} (gives : MayGive operation state described)
    (implies : forall value left, described value left -> wider value left) :
    MayGive operation state wider :=
  fun value left ran => implies value left (gives value left ran)

/-- What follows is described in every state that the first part may leave. -/
theorem bind {next : α -> Operation σ β} {wanted : β -> σ -> Prop}
    (gives : MayGive operation state described)
    (rest : forall value left, described value left -> MayGive (next value) left wanted) :
    MayGive (operation >>= next) state wanted := by
  intro last final ran
  cases first : operation state with
  | ok value left =>
      have follows := (bind_of_ok first next).symm.trans ran
      exact rest value left (gives value left first) last final follows
  | error fault left => cases (bind_of_error first next).symm.trans ran

theorem ofExcept {found : Except Fault α} :
    MayGive (Operation.ofExcept found : Operation σ α) state fun value left =>
      found = .ok value ∧ left = state := by
  refine self.mono fun value left known => ?_
  rw [outcome_ofExcept, after_ofExcept] at known
  exact known

theorem atBoundary (detail : String) (kinds : Option (List FaultKind))
    (gives : MayGive operation state described) :
    MayGive (operation.atBoundary detail kinds) state described := by
  intro value left ran
  rw [Operation.atBoundary, Operation.mapFault] at ran
  cases found : operation state with
  | ok given reached =>
      rw [found] at ran
      cases ran
      exact gives _ _ found
  | error fault reached =>
      rw [found] at ran
      cases ran

/-- An operation on a part of the state. -/
theorem within {part : σ -> τ} {replace : σ -> τ -> σ} {inner : Operation τ α}
    {partly : α -> τ -> Prop} (gives : MayGive inner (part state) partly)
    (lifts : forall value changed, partly value changed ->
      described value (replace state changed)) :
    MayGive (Operation.within part replace inner) state described := by
  intro value left ran
  rw [Operation.within] at ran
  cases found : inner (part state) with
  | ok given changed =>
      rw [found] at ran
      cases ran
      exact lifts _ _ (gives _ _ found)
  | error fault changed =>
      rw [found] at ran
      cases ran

end MayGive

end Operation
end SqlGateway
