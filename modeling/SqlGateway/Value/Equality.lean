import SqlGateway.Value

namespace SqlGateway
namespace Value

/-!
Equality of values.  Numbers of all types are equal if they are the same number,
byte strings if they hold the same bytes, mappings and sets whatever their order.
A comparison with a signalling NaN fails.

Keys of mappings and members of sets are compared more strictly: equal times of day
that are a fraction of a second apart are different keys.
-/

/-- How strictly values are compared: as values or as keys. -/
inductive Strictness where
  | asValues
  | asKeys
deriving DecidableEq

/-- A number of any type as a decimal, exactly; `none` for a NaN or an infinity of
double precision, and for everything that is no number. -/
def exactDecimal? : Value → Option Decimal
  | .bool value => some (.ofInt (if value then 1 else 0))
  | .int value => some (.ofInt value)
  | .float (.finite negative significand exponent) =>
    let (coefficient, power) := Binary64.toDecimal significand exponent
    some (.finite negative coefficient power)
  | .float (.infinite negative) => some (.infinite negative)
  | .float .nan => some (.nan false false 0)
  | .decimal value => some value
  | _ => none

def isSignaling : Value → Bool
  | .decimal (.nan _ true _) => true
  | _ => false

def sameNumber (first second : Value) : Except Fault Bool :=
  match exactDecimal? first, exactDecimal? second with
  | some left, some right =>
    if isSignaling first || isSignaling second then .error (.bare .badNumber)
    else .ok (left.sameNumber right)
  | _, _ => .ok false

/-- Whether two forms of collection can be equal: sets of both forms can. -/
def sameForm : CollectionForm → CollectionForm → Bool
  | .list, .list | .tuple, .tuple => true
  | .set, .set | .set, .frozenSet | .frozenSet, .set | .frozenSet, .frozenSet => true
  | _, _ => false

/-- Whether a form of collection has no order. -/
def isUnordered : CollectionForm → Bool
  | .set | .frozenSet => true
  | .list | .tuple => false

/-- Whether one of the values passes a test. -/
def someOf (test : Value → Except Fault Bool) : List Value → Except Fault Bool
  | [] => .ok false
  | value :: rest => do
    if ← test value then return true else someOf test rest

/-- Whether the first entry whose key passes one test has a value that passes the
other. -/
def entryOf (testKey testValue : Value → Except Fault Bool) :
    List (Value × Value) → Except Fault Bool
  | [] => .ok false
  | (key, value) :: rest => do
    if ← testKey key then testValue value else entryOf testKey testValue rest

def Strictness.sameTime : Strictness → TimeOfDay → TimeOfDay → Bool
  | .asValues, first, second => first.same second
  | .asKeys, first, second => first.same second && first.sameInstant second

mutual

def sameAt (strictness : Strictness) (first second : Value) : Except Fault Bool :=
  match first, second with
  | .null, .null => .ok true
  | .text left, .text right => .ok (left == right)
  | .brokenText left, .brokenText right => .ok (left == right)
  | .bytes _ left, .bytes _ right => .ok (left == right)
  | .date left, .date right => .ok (left == right)
  | .time left, .time right => .ok (strictness.sameTime left right)
  | .dateTime left, .dateTime right => .ok (left.same right)
  | .collection form items, .collection form' items' =>
    if !sameForm form form' then .ok false
    else if form = .tuple then do
      return (← sameItems strictness items items') && items.length == items'.length
    else if items.length != items'.length then .ok false
    else if isUnordered form then allAmong items items'
    else sameItems strictness items items'
  | .mapping _ entries, .mapping _ entries' =>
    if entries.length == entries'.length then allEntriesAmong strictness entries entries'
    else .ok false
  | .bound code value, .bound code' value' =>
    if code = code' then sameAt strictness value value' else .ok false
  | left, right => sameNumber left right
termination_by structural first

/-- Whether two lists hold equal items as far as both go. -/
def sameItems (strictness : Strictness) (items others : List Value) : Except Fault Bool :=
  match items, others with
  | item :: rest, other :: others => do
    if ← sameAt strictness item other then sameItems strictness rest others else return false
  | _, _ => .ok true
termination_by structural items

/-- Whether every member is among the others. -/
def allAmong (items others : List Value) : Except Fault Bool :=
  match items with
  | [] => .ok true
  | item :: rest => do
    if ← someOf (fun other => sameAt .asKeys item other) others then allAmong rest others
    else return false
termination_by structural items

/-- Whether every entry is among the others. -/
def allEntriesAmong (strictness : Strictness) (entries others : List (Value × Value)) :
    Except Fault Bool :=
  match entries with
  | [] => .ok true
  | (key, value) :: rest => do
    if ← entryOf (fun other => sameAt .asKeys key other)
        (fun other => sameAt strictness value other) others then
      allEntriesAmong strictness rest others
    else return false
termination_by structural entries

end

def same (first second : Value) : Except Fault Bool := sameAt .asValues first second

/-- Whether two keys are one. -/
def isKey (first second : Value) : Bool :=
  match sameAt .asKeys first second with
  | .ok answer => answer
  | .error _ => false

mutual

/-- Whether the value can be a key: containers that can change cannot. -/
def isHashable : Value → Bool
  | .bytes .growable _ => false
  | .collection .list _ | .collection .set _ | .mapping _ _ => false
  | .collection _ items => allHashable items
  | .decimal (.nan _ true _) => false
  | .bound _ value => isHashable value
  | .record _ => false
  | _ => true

/-- Whether all values can be keys. -/
def allHashable : List Value → Bool
  | [] => true
  | value :: rest => isHashable value && allHashable rest

end

/-- The value under a key. -/
def lookup (key : Value) : List (Value × Value) → Option Value
  | [] => none
  | (other, value) :: rest => if isKey key other then some value else lookup key rest

/-- Entries with the value under the key replaced, or the pair put at the end. -/
def putEntry (key value : Value) : List (Value × Value) → List (Value × Value)
  | [] => [(key, value)]
  | (other, old) :: rest =>
    if isKey key other then (other, value) :: rest else (other, old) :: putEntry key value rest

/-- Entries put one after the other: a repeated key keeps its first place and its
last value. -/
def entriesOf (pairs : List (Value × Value)) : List (Value × Value) :=
  pairs.foldl (fun entries pair => putEntry pair.1 pair.2 entries) []

/-- Items without repetitions. -/
def itemsOf (values : List Value) : List Value :=
  values.foldl (fun items value => if items.any (isKey value) then items else items ++ [value]) []

/-- Whether two values are equal and, if they are, whether they may be used as the
same key; values that cannot be keys make the question fail. -/
def sameAndHash (first second : Value) : Except Fault (Bool × Option Bool) := do
  if ← same first second then
    if isHashable first && isHashable second then return (true, some (isKey first second))
    else throw (.bare .badType)
  else return (false, none)

end Value
end SqlGateway
