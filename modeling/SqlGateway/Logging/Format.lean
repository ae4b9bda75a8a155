import SqlGateway.Column
import SqlGateway.Dictionary
import SqlGateway.Json.Writer
import SqlGateway.Logging.Record

namespace SqlGateway
namespace Logging

/-!
Log messages as text.  A message may have places for arguments; it is written with its
time, level and logger either as a line of text or as a document, which also holds the
fields, the correlation of the message and the fault that it is about.
-/

structure Message where
  logger : String
  /-- The weight of the level. -/
  weight : Int
  template : String
  arguments : List Value
  fields : List (String × Value)
  /-- The correlation that the message carries itself. -/
  correlation : Value
  fault : Option Fault

/-- The time of all messages: seconds since the beginning of 1970, and milliseconds. -/
structure Clock where
  seconds : Int
  milliseconds : Nat

/-! ## Levels -/

/-- The names of levels with their weights. -/
def levelWeights : List (String × Int) :=
  [("CRITICAL", 50), ("FATAL", 50), ("ERROR", 40), ("WARN", 30), ("WARNING", 30), ("INFO", 20),
   ("DEBUG", 10), ("NOTSET", 0)]

def weightOf? (name : String) : Option Int := levelWeights.lookup name

def levelName (weight : Int) : String :=
  match Level.all.find? fun level => (level.weight : Int) == weight with
  | some level => level.name
  | none => if weight = 0 then "NOTSET" else "Level " ++ String.ofList (Numeral.chars weight)

/-! ## Places for arguments -/

/-- The whole number that stands at a place for numbers. -/
def placeNumber : Value → Except Fault Int
  | .bool truth => .ok (if truth then 1 else 0)
  | .int value => .ok value
  | .float value => Column.intOfFloat value
  | .decimal value => Column.intOfDecimal value
  | _ => .error (.bare .badType)

/-- The text at a place for an argument: `s` for any value, `d` for numbers. -/
def placeText (letter : Char) (value : Value) : Except Fault String :=
  if letter = 's' then value.toText
  else if letter = 'd' then do Value.intText (← placeNumber value)
  else .error (.bare .badValue)

/-- A template with arguments at its places, and the arguments that are left over. -/
def fillPlaces : List Char → List Value → Except Fault (List Char × List Value)
  | [], arguments => .ok ([], arguments)
  | '%' :: '%' :: rest, arguments => do
    let (filled, left) ← fillPlaces rest arguments
    return ('%' :: filled, left)
  | '%' :: letter :: rest, argument :: arguments => do
    let text ← placeText letter argument
    let (filled, left) ← fillPlaces rest arguments
    return (text.toList ++ filled, left)
  | '%' :: letter :: _, [] =>
    .error (.bare (if letter = 's' || letter = 'd' then .badType else .badValue))
  | ['%'], _ => .error (.bare .badValue)
  | character :: rest, arguments => do
    let (filled, left) ← fillPlaces rest arguments
    return (character :: filled, left)

/-- Whether arguments need not all have a place: a single mapping that is not empty. -/
def mayBeLeft : List Value → Bool
  | [.mapping _ entries] => !entries.isEmpty
  | _ => false

/-- The text of a message.  Without arguments a template stands for itself. -/
def Message.text (message : Message) : Except Fault String := do
  if message.arguments.isEmpty then return message.template
  let (filled, left) ← fillPlaces message.template.toList message.arguments
  if !left.isEmpty && !mayBeLeft message.arguments then throw (.bare .badType)
  return String.ofList filled

/-! ## Forms -/

/-- The time in universal time, with milliseconds after a comma.  The year has no leading
zeros. -/
def Clock.write (clock : Clock) : String :=
  let epoch := Calendar.dayNumber ⟨1970, 1, 1⟩
  let (year, month, day) := Calendar.ofDayNumber (epoch + Int.fdiv clock.seconds 86400)
  let second := (Int.fmod clock.seconds 86400).toNat
  String.ofList (Numeral.chars year ++ '-' :: Calendar.padded 2 month ++
    '-' :: Calendar.padded 2 day ++ ' ' :: Calendar.clockChars true (second * 1000000) ++
    ',' :: Calendar.padded 3 clock.milliseconds)

/-- A fault as it is shown in the log. -/
def faultText (fault : Fault) : String :=
  if fault.message = "" then fault.kind.name else fault.kind.name ++ ": " ++ fault.message

/-- The correlation of a message: its own, or else the current one. -/
def correlationOf (message : Message) (current : Value) : Value :=
  if message.correlation.isTrue then message.correlation else current

/-- The members of the document of a message.  Fields replace what else is there, but the
fault replaces a field. -/
def members (clock : Clock) (current : Value) (message : Message) (text : String) :
    Dictionary String Value :=
  let correlation := correlationOf message current
  let fixed := [("timestamp", Value.text clock.write), ("level", .text (levelName message.weight)),
    ("logger", .text message.logger), ("message", .text text)]
  let correlated := if correlation.isTrue then [("correlation_id", correlation)] else []
  let faults := match message.fault with
    | some fault => [("exception", Value.text (faultText fault))]
    | none => []
  .ofList (fixed ++ correlated ++ message.fields ++ faults)

def document (clock : Clock) (current : Value) (message : Message) : Except Fault String := do
  let members := members clock current message (← message.text)
  Json.encode (.table (members.entries.map fun (name, value) => (.text name, value)))

def line (clock : Clock) (message : Message) : Except Fault String := do
  return clock.write ++ " " ++ levelName message.weight ++ " [" ++ message.logger ++ "] " ++
    (← message.text)

end Logging
end SqlGateway
