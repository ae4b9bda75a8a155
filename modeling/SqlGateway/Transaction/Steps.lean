import SqlGateway.Transaction.Tracker

namespace SqlGateway
namespace Transaction

/-!
Steps of a tracker on its own, where every native call succeeds or fails as the
step says.  A run keeps the native calls in order.
-/

/-- A step on one connection; the fault is what a native call fails with. -/
inductive Step where
  | begin (id : Nat) (nestable : Bool) (fault : Option Fault)
  | commit (id : Nat) (fault : Option Fault)
  | rollback (id : Nat) (fault : Option Fault)
  | forget (id : Nat)

/-- What a step answers: the new depth if it has one, or a fault; and its native call. -/
structure StepAnswer where
  outcome : Except Fault (Option Nat)
  call : Option (Nat × NativeCall)

/-- The fault of a native call as the caller sees it: driver faults become database
faults. -/
def callFault (call : NativeCall) (fault : Fault) : Fault :=
  fault.atBoundary call.failure (some [.foreign .driver])

/-- Carry out a plan whose native call, if it has one, fails with the given fault. -/
def carryOut (id : Nat) (plan : Plan) (fault : Option Fault) : StepAnswer × Tracker :=
  match plan.call, fault with
  | some call, some fault => (⟨.error (callFault call fault), some (id, call)⟩, plan.failed)
  | some call, none => (⟨.ok (some plan.depth), some (id, call)⟩, plan.succeeded)
  | none, _ => (⟨.ok (some plan.depth), none⟩, plan.succeeded)

/-- Carry out an operation; one that is refused changes nothing. -/
def attempt (tracker : Tracker) (id : Nat) (plan : Except Fault Plan) (fault : Option Fault) :
    StepAnswer × Tracker :=
  match plan with
  | .ok plan => carryOut id plan fault
  | .error refused => (⟨.error refused, none⟩, tracker)

def Tracker.step (tracker : Tracker) : Step → StepAnswer × Tracker
  | .begin id nestable fault => attempt tracker id (tracker.begin id nestable) fault
  | .commit id fault => attempt tracker id (tracker.commit id) fault
  | .rollback id fault => attempt tracker id (tracker.rollback id) fault
  | .forget id => (⟨.ok none, none⟩, tracker.forget id)

/-- Take steps one after the other; each answer comes with the tracker after it. -/
def Tracker.run (tracker : Tracker) : List Step → List (StepAnswer × Tracker)
  | [] => []
  | step :: rest =>
    let answered := tracker.step step
    answered :: answered.2.run rest

end Transaction
end SqlGateway
