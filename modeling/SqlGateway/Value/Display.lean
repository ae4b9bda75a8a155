import SqlGateway.Value

namespace SqlGateway
namespace Value

/-!
Values as text.  The displayed form shows what a value is, with quotes and type
names; the plain text of a text is the text itself.  A whole number with more
digits than the limit has no text, and neither has anything that holds one.
-/

def intText (value : Int) : Except Fault String :=
  match Numeral.write? value with
  | some written => .ok written
  | none => .error (.bare .badValue)

def bytesDisplay : BytesForm → Bytes → String
  | .fixed, content => Text.quotedBytes content
  | .growable, content => Text.quotedByteArray content
  | .view, _ => "<memory>"

/-- The displayed form of a collection of displayed items. -/
def collectionDisplay : CollectionForm → List String → String
  | .list, items => "[" ++ ", ".intercalate items ++ "]"
  | .tuple, [item] => "(" ++ item ++ ",)"
  | .tuple, items => "(" ++ ", ".intercalate items ++ ")"
  | .set, [] => "set()"
  | .set, items => "\x7b" ++ ", ".intercalate items ++ "\x7d"
  | .frozenSet, [] => "frozenset()"
  | .frozenSet, items => "frozenset(\x7b" ++ ", ".intercalate items ++ "\x7d)"

/-- The displayed form of the entries of a mapping. -/
def entriesDisplay (entries : List String) : String :=
  "\x7b" ++ ", ".intercalate entries ++ "\x7d"

/-- The displayed form of a mapping with displayed entries. -/
def mappingDisplay : MappingForm → List String → String
  | .table, entries => entriesDisplay entries
  | .readOnly, entries => "mappingproxy(" ++ entriesDisplay entries ++ ")"

mutual

def display : Value → Except Fault String
  | .null => .ok "None"
  | .bool value => .ok (if value then "True" else "False")
  | .int value => intText value
  | .float value => .ok value.write
  | .decimal value => .ok ("Decimal('" ++ value.write ++ "')")
  | .text value => .ok (Text.quoted value)
  | .brokenText value => .ok value.display
  | .bytes form content => .ok (bytesDisplay form content)
  | .date value => .ok value.display
  | .time value => .ok value.display
  | .dateTime value => .ok value.display
  | .collection form items => do return collectionDisplay form (← displayItems items)
  | .mapping form entries => do return mappingDisplay form (← displayEntries entries)
  | .record fields => do return "namespace(" ++ ", ".intercalate (← displayFields fields) ++ ")"
  | .bound code value => do return "BoundValue(" ++ code.name ++ ", " ++ (← display value) ++ ")"
  | .locator _ => .ok "<lob>"
  | .foreign label => .ok ("<" ++ label ++ ">")

def displayItems : List Value → Except Fault (List String)
  | [] => .ok []
  | item :: rest => do return (← display item) :: (← displayItems rest)

def displayEntries : List (Value × Value) → Except Fault (List String)
  | [] => .ok []
  | (key, value) :: rest => do
    return ((← display key) ++ ": " ++ (← display value)) :: (← displayEntries rest)

def displayFields : List (String × Value) → Except Fault (List String)
  | [] => .ok []
  | (name, value) :: rest => do
    return (name ++ "=" ++ (← display value)) :: (← displayFields rest)

end

/-- The plain text of a value. -/
def toText : Value → Except Fault String
  | .text value => .ok value
  | .brokenText value => .ok value.escaped
  | .decimal value => .ok value.write
  | .date value => .ok value.write
  | .time value => .ok value.write
  | .dateTime value => .ok (value.writeWith ' ')
  | .mapping _ entries => do return entriesDisplay (← displayEntries entries)
  | .locator _ => .ok "lob"
  | .foreign label => .ok label
  | value => display value

end Value
end SqlGateway
