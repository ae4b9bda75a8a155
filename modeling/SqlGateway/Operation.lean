import SqlGateway.Fault

namespace SqlGateway

/-!
Operations that change a state and may fail.  What an operation did to the state
stays done when it fails.
-/

abbrev Operation (σ α : Type) := EStateM Fault σ α

namespace Operation

variable {σ τ α : Type}

def ofExcept : Except Fault α → Operation σ α
  | .ok value => pure value
  | .error fault => throw fault

/-- Run an operation and keep its outcome, which then is no failure. -/
def observe (operation : Operation σ α) : Operation σ (Except Fault α) := fun state =>
  match operation state with
  | .ok value state => .ok (.ok value) state
  | .error fault state => .ok (.error fault) state

/-- Run an operation, then another one whatever came of the first.  A failure of the
second is the failure of both. -/
def thenAlways (operation : Operation σ α) (last : Operation σ Unit) : Operation σ α := do
  let outcome ← observe operation
  last
  ofExcept outcome

/-- Run an operation with its fault, if there is one, seen through a function. -/
def mapFault (view : Fault → Fault) (operation : Operation σ α) : Operation σ α := fun state =>
  match operation state with
  | .ok value state => .ok value state
  | .error fault state => .error (view fault) state

/-- Run native calls: the faults of the named kinds become database faults with a
detail. -/
def atBoundary (detail : String) (kinds : Option (List FaultKind)) (operation : Operation σ α) :
    Operation σ α :=
  mapFault (Fault.atBoundary detail kinds) operation

/-- Run an operation on a part of the state. -/
def within (part : σ → τ) (replace : σ → τ → σ) (operation : Operation τ α) : Operation σ α :=
  fun state =>
    match operation (part state) with
    | .ok value changed => .ok value (replace state changed)
    | .error fault changed => .error fault (replace state changed)

/-- Run an operation for each member of a list, until one fails. -/
def forEach {β : Type} (operation : β → Operation σ Unit) : List β → Operation σ Unit
  | [] => pure ()
  | member :: rest => do
    operation member
    forEach operation rest

end Operation
end SqlGateway
