import SqlGateway.Dictionary
import SqlGateway.Fault

namespace SqlGateway
namespace Transaction

/-!
Nested transactions over drivers that know only flat ones.  The tracker keeps a
depth for each connection.  Only the step that enters the first level begins a
native transaction, and only the step that leaves the last level ends it.  A level
that is rolled back while others are open dooms the whole transaction: it then ends
with a native rollback, whatever the last step asked for.

An operation is a plan: at most one native call, and the tracker as it is left when
that call fails and when it succeeds.
-/

/-- A call to the driver that begins or ends its transaction. -/
inductive NativeCall where
  | begin
  | commit
  | rollback
deriving DecidableEq, Repr, Inhabited

namespace NativeCall

def name : NativeCall → String
  | .begin => "begin"
  | .commit => "commit"
  | .rollback => "rollback"

/-- What has failed when the driver fails in a call. -/
def failure : NativeCall → String
  | .begin => "Failed beginning transaction"
  | .commit => "Failed committing transaction"
  | .rollback => "Failed rolling back transaction"

end NativeCall

/-- Depths of connections, and the connections whose transaction is doomed. -/
structure Tracker where
  depths : Dictionary Nat Nat
  doomed : List Nat
deriving Inhabited

/-- What an operation does. -/
structure Plan where
  /-- The native call, if one is needed. -/
  call : Option NativeCall
  /-- The tracker if that call fails. -/
  failed : Tracker
  /-- The tracker if that call succeeds or none is needed. -/
  succeeded : Tracker
  /-- The new depth. -/
  depth : Nat
  /-- What is logged before the call. -/
  announcement : Option String
  /-- What is logged after the call. -/
  confirmation : Option String

namespace Tracker

def empty : Tracker := ⟨.empty, []⟩

def depth (tracker : Tracker) (id : Nat) : Nat := (tracker.depths.get? id).getD 0

def isActive (tracker : Tracker) (id : Nat) : Bool := 0 < tracker.depth id

/-- Whether the transaction of a connection can only be rolled back. -/
def isDoomed (tracker : Tracker) (id : Nat) : Bool := tracker.doomed.contains id

def size (tracker : Tracker) : Nat :=
  (tracker.depths.entries.filter fun entry => 0 < entry.2).length

/-- The tracker with another depth for a connection. -/
def setDepth (tracker : Tracker) (id depth : Nat) : Tracker :=
  { tracker with depths := tracker.depths.put id depth }

/-- The tracker in which the transaction of a connection is doomed. -/
def doom (tracker : Tracker) (id : Nat) : Tracker :=
  if tracker.isDoomed id then tracker else { tracker with doomed := tracker.doomed ++ [id] }

/-- The tracker in which the transaction of a connection is not doomed. -/
def spare (tracker : Tracker) (id : Nat) : Tracker :=
  { tracker with doomed := tracker.doomed.filter fun other => other ≠ id }

/-- The tracker without a connection that was closed. -/
def forget (tracker : Tracker) (id : Nat) : Tracker :=
  { tracker.spare id with depths := tracker.depths.erase id }

/-- A plan without a native call. -/
def quietly (tracker : Tracker) (depth : Nat) (announcement : Option String) : Plan :=
  ⟨none, tracker, tracker, depth, announcement, none⟩

/-- The fault for entering a level where levels cannot be nested. -/
def notNestable : Fault := .of .state "Nested transactions are not supported by this instance"

/-- The fault for leaving a level where there is none. -/
def notActive (action : String) : Fault :=
  .of .state ("Cannot " ++ action ++ ": no transaction is active")

def begin (tracker : Tracker) (id : Nat) (nestable : Bool) : Except Fault Plan :=
  match tracker.depth id with
  | 0 => .ok {
      call := some .begin
      failed := tracker
      succeeded := tracker.setDepth id 1
      depth := 1
      announcement := none
      confirmation := some ("Began native transaction on connection " ++ Nat.repr id) }
  | depth + 1 =>
    if nestable then
      .ok (quietly (tracker.setDepth id (depth + 2)) (depth + 2)
        (some ("Entered nested transaction on connection " ++ Nat.repr id ++ " (depth " ++
          Nat.repr (depth + 2) ++ ")")))
    else .error notNestable

/-- Leave the last level with a native call; the connection has no transaction then,
whether or not the call succeeds. -/
def ending (tracker : Tracker) (id : Nat) (call : NativeCall) (announcement : String) : Plan :=
  let left := (tracker.setDepth id 0).spare id
  ⟨some call, left, left, 0, some announcement, none⟩

/-- Leave a level, wanting to keep its work. -/
def commit (tracker : Tracker) (id : Nat) : Except Fault Plan :=
  match tracker.depth id with
  | 0 => .error (notActive "commit")
  | 1 =>
    .ok <|
      if tracker.isDoomed id then
        tracker.ending id .rollback
          ("Rolling back connection " ++ Nat.repr id ++ ": an inner transaction rolled back")
      else tracker.ending id .commit ("Issuing native commit on connection " ++ Nat.repr id)
  | depth + 2 => .ok (quietly (tracker.setDepth id (depth + 1)) (depth + 1) none)

/-- Leave a level, wanting to undo its work. -/
def rollback (tracker : Tracker) (id : Nat) : Except Fault Plan :=
  match tracker.depth id with
  | 0 => .error (notActive "rollback")
  | 1 => .ok (tracker.ending id .rollback ("Issuing native rollback on connection " ++ Nat.repr id))
  | depth + 2 =>
    .ok (quietly ((tracker.setDepth id (depth + 1)).doom id) (depth + 1) none)

theorem depth_setDepth (tracker : Tracker) (id other depth : Nat) :
    (tracker.setDepth id depth).depth other = if other = id then depth else tracker.depth other := by
  unfold Tracker.depth setDepth
  rw [Dictionary.get?_put]
  split <;> rfl

theorem depth_spare (tracker : Tracker) (id other : Nat) :
    (tracker.spare id).depth other = tracker.depth other := rfl

theorem depth_doom (tracker : Tracker) (id other : Nat) :
    (tracker.doom id).depth other = tracker.depth other := by
  unfold doom
  split <;> rfl

theorem depth_forget (tracker : Tracker) (id other : Nat) :
    (tracker.forget id).depth other = if other = id then 0 else tracker.depth other := by
  unfold Tracker.depth forget
  rw [Dictionary.get?_erase]
  split <;> rfl

theorem isDoomed_setDepth (tracker : Tracker) (id other depth : Nat) :
    (tracker.setDepth id depth).isDoomed other = tracker.isDoomed other := rfl

theorem isDoomed_spare (tracker : Tracker) (id other : Nat) :
    (tracker.spare id).isDoomed other = if other = id then false else tracker.isDoomed other := by
  by_cases same : other = id <;> simp [isDoomed, spare, same]

theorem isDoomed_doom (tracker : Tracker) (id other : Nat) :
    (tracker.doom id).isDoomed other = if other = id then true else tracker.isDoomed other := by
  unfold doom
  split
  · rename_i marked
    by_cases same : other = id
    · subst same
      rw [if_pos rfl, marked]
    · rw [if_neg same]
  · by_cases same : other = id <;> simp [isDoomed, same]

theorem isDoomed_forget (tracker : Tracker) (id other : Nat) :
    (tracker.forget id).isDoomed other = if other = id then false else tracker.isDoomed other :=
  isDoomed_spare tracker id other

end Tracker
end Transaction

export Transaction (Tracker)

end SqlGateway
