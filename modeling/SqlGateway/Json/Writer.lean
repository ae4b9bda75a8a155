import SqlGateway.Text.Base64
import SqlGateway.Value.Display
import SqlGateway.Value.Order

namespace SqlGateway
namespace Json

/-!
Values as JSON documents: compact, with the members of an object in the order of
their names and those of a set in the order of values, and characters outside the
seven-bit range written as they are.  Values that JSON has no form for are written as
the string of their text.
-/

/-- The letter of the short escape of a control character, if it has one. -/
def shortEscape? (character : Char) : Option Char :=
  if character = '\x08' then some 'b'
  else if character = '\t' then some 't'
  else if character = '\n' then some 'n'
  else if character = '\x0c' then some 'f'
  else if character = '\r' then some 'r'
  else none

def stringChar (character : Char) : List Char :=
  if character = Text.doubleQuote ∨ character = Text.backslash then [Text.backslash, character]
  else match shortEscape? character with
    | some letter => [Text.backslash, letter]
    | none =>
      if character.toNat < 0x20 then
        Text.backslash :: 'u' :: Bytes.hexDigits character.toNat 4
      else [character]

def stringChars (characters : List Char) : List Char :=
  Text.doubleQuote :: (characters.flatMap stringChar ++ [Text.doubleQuote])

def string (content : String) : String := String.ofList (stringChars content.toList)

/-- A double precision number; infinities and NaN have no form and become null. -/
def float : Binary64 → String
  | .finite negative significand exponent =>
    String.ofList (Binary64.documentLayout.finiteChars negative significand exponent)
  | .infinite _ | .nan => "null"

/-- An offset from universal time, cut down to seconds and then rounded to minutes of a
day; none is the letter Z. -/
def offsetChars (offset : Int) : List Char :=
  let seconds := (offset / 1000000).natAbs
  let minutes := (seconds / 60 + (if 30 < seconds % 60 then 1 else 0)) % 1440
  if minutes = 0 then ['Z']
  else (if offset < 0 then '-' else '+') ::
    (Calendar.padded 2 (minutes / 60) ++ ':' :: Calendar.padded 2 (minutes % 60))

def timeChars (time : TimeOfDay) : List Char :=
  Calendar.clockChars true time.microseconds ++
    (match time.offset with
     | some offset => offsetChars offset
     | none => [])

def array (items : List String) : String := "[" ++ ",".intercalate items ++ "]"

def object (members : List String) : String := "\x7b" ++ ",".intercalate members ++ "\x7d"

/-- A value or a name with its document, if it has one. -/
abbrev Written (α : Type) : Type := α × Except Fault String

/-- The document of an array whose items have these documents. -/
def arrayOf (items : List (Written Value)) : Except Fault String := do
  return array (← items.mapM Prod.snd)

/-- The members of an object, by their names; a name that is no text, or has no encoding,
makes it fail. -/
def named : List (Written Value) → Except Fault (List (Written String))
  | [] => .ok []
  | (.text name, document) :: rest => do return (name, document) :: (← named rest)
  | (.brokenText _, _) :: _ => .error (.bare .unencodable)
  | _ => .error (.bare .badType)

/-- Whether one member comes before another or has the same name. -/
def memberLe (first second : Written String) : Bool := first.1 ≤ second.1

/-- A member of an object. -/
def member : Written String → Except Fault String
  | (name, document) => do return string name ++ ":" ++ (← document)

/-- The document of an object whose members have these documents, in the order of their
names. -/
def objectOf (members : List (Written Value)) : Except Fault String := do
  return object (← ((← named members).mergeSort memberLe).mapM member)

mutual

/-- The document of a value. -/
def write : Value → Except Fault String
  | .null => .ok "null"
  | .bool value => .ok (if value then "true" else "false")
  | .int value => Value.intText value
  | .float value => .ok (float value)
  | .decimal value => .ok (string value.write)
  | .text value => .ok (string value)
  | .brokenText _ => .error (.bare .unencodable)
  | .bytes _ content => .ok (String.ofList
      (Text.doubleQuote :: (Bytes.base64Chars content ++ [Text.doubleQuote])))
  | .date value => .ok (string value.write)
  | .time value => .ok (string (String.ofList (timeChars value)))
  | .dateTime value =>
    .ok (string (String.ofList (value.date.chars ++ 'T' :: timeChars value.time)))
  | .collection form items =>
    if Value.isUnordered form then do arrayOf (← Value.sortedBy Prod.fst (writeItems items))
    else arrayOf (writeItems items)
  | .mapping .table entries => objectOf (writeEntries entries)
  | value => do return string (← value.toText)

/-- The items of a collection with their documents. -/
def writeItems : List Value → List (Written Value)
  | [] => []
  | item :: rest => (item, write item) :: writeItems rest

/-- The keys of a mapping with the documents of their values. -/
def writeEntries : List (Value × Value) → List (Written Value)
  | [] => []
  | (key, value) :: rest => (key, write value) :: writeEntries rest

end

/-- The failure reported for a value that has no document. -/
def encodingFault (reason : Fault) : Fault :=
  (Fault.of .serialization "Failed encoding value as JSON").because reason

/-- The document of a value.  A mapping whose keys are not all texts is reported as
a failure of the encoding; other failures pass. -/
def encode (value : Value) : Except Fault String :=
  match write value with
  | .ok document => .ok document
  | .error reason =>
    if reason.kind = .foreign .badType then .error (encodingFault reason) else .error reason

end Json
end SqlGateway
