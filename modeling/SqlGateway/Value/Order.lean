import SqlGateway.Value.Equality

namespace SqlGateway
namespace Value

/-!
The order of values.  Numbers of all types are ordered as numbers, texts by their code
points, byte strings by their bytes, days and times by time, sequences by the first items
that differ, and sets by inclusion.  A comparison of values that have no order among each
other fails.
-/

def isDecimal : Value → Bool
  | .decimal _ => true
  | _ => false

/-- Whether one number is less than another.  A NaN has no order among decimals; in double
precision alone it is neither less nor greater. -/
def lessNumber (first second : Value) : Except Fault Bool :=
  match exactDecimal? first, exactDecimal? second with
  | some left, some right =>
    if (isDecimal first || isDecimal second) && (left.isNan || right.isNan) then
      .error (.bare .badNumber)
    else .ok (left.less right)
  | _, _ => .error (.bare .badType)

/-- Whether one byte string comes before another; a view of memory has no order. -/
def lessBytes : BytesForm → BytesForm → Bytes → Bytes → Except Fault Bool
  | .view, _, _, _ | _, .view, _, _ => .error (.bare .badType)
  | _, _, first, second => .ok (first < second)

def lessTime (first second : TimeOfDay) : Except Fault Bool :=
  if first.isComparable second then .ok (first.isBefore second) else .error (.bare .badType)

def lessMoment (first second : DateTime) : Except Fault Bool :=
  if first.time.isComparable second.time then .ok (first.isBefore second)
  else .error (.bare .badType)

/-- Whether one set is part of another that has more members. -/
def lessSet (members others : List Value) : Except Fault Bool :=
  if members.length < others.length then allAmong members others else .ok false

mutual

def less (first second : Value) : Except Fault Bool :=
  match first, second with
  | .text left, .text right => .ok (left < right)
  | .text left, .brokenText right => .ok (Text.precedes (Text.points left) right.points)
  | .brokenText left, .text right => .ok (Text.precedes left.points (Text.points right))
  | .brokenText left, .brokenText right => .ok (Text.precedes left.points right.points)
  | .bytes form left, .bytes form' right => lessBytes form form' left right
  | .date left, .date right => .ok (left.isBefore right)
  | .time left, .time right => lessTime left right
  | .dateTime left, .dateTime right => lessMoment left right
  | .collection form items, .collection form' items' =>
    if !sameForm form form' then .error (.bare .badType)
    else if isUnordered form then lessSet items items'
    else lessItems items items'
  | left, right => lessNumber left right
termination_by structural first

/-- Whether one sequence is less than another: the first items that differ decide, and
if there are none, the shorter sequence is less. -/
def lessItems (items others : List Value) : Except Fault Bool :=
  match items, others with
  | _, [] => .ok false
  | [], _ :: _ => .ok true
  | item :: rest, other :: others => do
    if ← same item other then lessItems rest others else less item other
termination_by structural items

end

section Sorting

variable {α : Type}

/-- Put an item into a sorted list, after all items whose key is not greater. -/
def insertSorted (key : α → Value) (item : α) : List α → Except Fault (List α)
  | [] => .ok [item]
  | other :: rest => do
    if ← less (key item) (key other) then return item :: other :: rest
    else return other :: (← insertSorted key item rest)

/-- Items in the order of their keys; items with equal keys keep their order. -/
def sortedBy (key : α → Value) (items : List α) : Except Fault (List α) :=
  items.foldlM (fun sorted item => insertSorted key item sorted) []

end Sorting

end Value
end SqlGateway
