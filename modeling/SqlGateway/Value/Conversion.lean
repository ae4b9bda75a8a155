import SqlGateway.Column
import SqlGateway.Text.Lowercase
import SqlGateway.Value.Equality

namespace SqlGateway
namespace Value

/-!
Values where a whole number, a truth value, items or a table are wanted.
-/

/-- The whole number that bytes spell in digits of the seven-bit range. -/
def intOfBytes (content : Bytes) : Except Fault Int :=
  let characters := content.map fun byte => Char.ofNat byte.toNat
  if characters.all fun character => character.toNat < 0x80 then
    match Numeral.read? characters with
    | some value => .ok value
    | none => .error (.bare .badValue)
  else .error (.bare .badValue)

/-- A value as a whole number: numbers lose their fraction, texts and bytes must be
numerals. -/
def toInt : Value → Except Fault Int
  | .bool truth => .ok (if truth then 1 else 0)
  | .int value => .ok value
  | .float value => Column.intOfFloat value
  | .decimal value => Column.intOfDecimal value
  | .text value =>
    match Numeral.read? value.toList with
    | some value => .ok value
    | none => .error (.bare .badValue)
  | .brokenText _ => .error (.bare .badValue)
  | .bytes _ content => intOfBytes content
  | _ => .error (.bare .badType)

/-- The texts that stand for false. -/
def falseTexts : List String := ["", "0", "false", "no", "off"]

/-- A value as the setting of a switch.  A text is off if, without blanks and in lower
case, it is one of a few words; any other value is on if it counts as true. -/
def asSwitch : Value → Bool
  | .text value => !falseTexts.contains (Text.lower (Text.trim value))
  | value => value.isTrue

def ofPoint : CodePoint → Value
  | .character value => .text (String.singleton value)
  | .surrogate place => .brokenText (.ofSurrogate place)

/-- An item that stands for an entry: exactly two values. -/
def toPair : Value → Except Fault (Value × Value)
  | .collection _ [key, value] => .ok (key, value)
  | .mapping _ [(key, _), (value, _)] => .ok (key, value)
  | .text value =>
    match value.toList with
    | [first, second] => .ok (.text (String.singleton first), .text (String.singleton second))
    | _ => .error (.bare .badValue)
  | .brokenText value =>
    match value.points with
    | [first, second] => .ok (ofPoint first, ofPoint second)
    | _ => .error (.bare .badValue)
  | .bytes _ [first, second] => .ok (.int first.toNat, .int second.toNat)
  | .collection _ _ | .mapping _ _ | .bytes _ _ => .error (.bare .badValue)
  | _ => .error (.bare .badType)

/-- Items that stand for entries. -/
def toPairs : List Value → Except Fault (List (Value × Value))
  | [] => .ok []
  | item :: rest => do
    let (key, value) ← toPair item
    if !key.isHashable then throw (.bare .badType)
    return (key, value) :: (← toPairs rest)

/-- The items of a value: the characters of a text, the numbers of bytes, the keys of a
mapping. -/
def toItems : Value → Except Fault (List Value)
  | .text value => .ok (value.toList.map fun character => .text (String.singleton character))
  | .brokenText value => .ok (value.points.map ofPoint)
  | .bytes _ content => .ok (content.map fun byte => .int byte.toNat)
  | .collection _ items => .ok items
  | .mapping _ entries => .ok (entries.map Prod.fst)
  | _ => .error (.bare .badType)

/-- A value as a table: a mapping, or a collection of pairs. -/
def toEntries : Value → Except Fault (List (Value × Value))
  | .mapping _ entries => .ok entries
  | .collection _ items => do return entriesOf (← toPairs items)
  | .text value => if value.isEmpty then .ok [] else .error (.bare .badValue)
  | .brokenText _ => .error (.bare .badValue)
  | .bytes _ content => if content.isEmpty then .ok [] else .error (.bare .badType)
  | _ => .error (.bare .badType)

end Value
end SqlGateway
