import SqlGateway.Value.Display

namespace SqlGateway
namespace Column

/-!
Fetched values.  A column whose kind is declared is converted to that kind; any
other is left as the driver gave it, or turned into text if the connection wants
all columns as text.  A value that has no form of the declared kind is a database
fault that names the value.
-/

def bytesText (content : Bytes) : Except Fault String :=
  match Bytes.toText? content with
  | some text => .ok text
  | none => .error (.bare .badText)

def intOfDecimal : Decimal → Except Fault Int
  | .finite negative coefficient exponent => .ok (Decimal.truncate negative coefficient exponent)
  | .infinite _ => .error (.bare .outOfRange)
  | .nan _ _ _ => .error (.bare .badValue)

def intOfFloat : Binary64 → Except Fault Int
  | .finite negative significand exponent => .ok (Binary64.truncate negative significand exponent)
  | .infinite _ => .error (.bare .outOfRange)
  | .nan => .error (.bare .badValue)

def decimalOfText (text : String) : Except Fault Decimal :=
  match Decimal.read? text with
  | some number => .ok number
  | none => .error (.bare .badNumber)

/-- The whole number of a text: a numeral, or else any decimal without its fraction. -/
def intOfText (text : String) : Except Fault Int :=
  match Numeral.read? text.toList with
  | some value => .ok value
  | none => do intOfDecimal (← decimalOfText text)

def floatOfText (text : String) : Except Fault Binary64 :=
  match Binary64.read? text with
  | some number => .ok number
  | none => .error (.bare .badValue)

def floatOfInt (value : Int) : Except Fault Binary64 :=
  match Binary64.ofInt value with
  | .infinite _ => .error (.bare .outOfRange)
  | number => .ok number

def floatOfDecimal : Decimal → Except Fault Binary64
  | .finite negative coefficient exponent => .ok (Binary64.ofDecimal negative coefficient exponent)
  | .infinite negative => .ok (.infinite negative)
  | .nan _ signaling _ => if signaling then .error (.bare .badValue) else .ok .nan

def truthNumber (truth : Bool) : Int := if truth then 1 else 0

def toInteger : Value → Except Fault Int
  | .bool truth => .ok (truthNumber truth)
  | .int value => .ok value
  | .float value => intOfFloat value
  | .decimal value => intOfDecimal value
  | .bytes _ content => do intOfText (Text.trim (← bytesText content))
  | value => do intOfText (Text.trim (← value.toText))

def toFloat : Value → Except Fault Binary64
  | .bool truth => floatOfInt (truthNumber truth)
  | .int value => floatOfInt value
  | .float value => .ok value
  | .decimal value => floatOfDecimal value
  | .text value => floatOfText value
  | .brokenText _ => .error (.bare .badValue)
  | .bytes _ content => do floatOfText (← bytesText content)
  | _ => .error (.bare .badType)

def toDecimal : Value → Except Fault Decimal
  | .decimal value => .ok value
  | .bool truth => .ok (.ofInt (truthNumber truth))
  | .int value => .ok (.ofInt value)
  | .float value => decimalOfText value.write
  | .bytes _ content => do decimalOfText (Text.trim (← bytesText content))
  | value => do decimalOfText (Text.trim (← value.toText))

/-- A value as a driver would give it that turns everything but bytes into text. -/
def stringify : Value → Except Fault Value
  | .null => .ok .null
  | .text value => .ok (.text value)
  | .brokenText value => .ok (.brokenText value)
  | .bool truth => .ok (.text (String.ofList (Numeral.chars (truthNumber truth))))
  | .bytes _ content => .ok (.fixedBytes content)
  | value => do return .text (← value.toText)

def toText : Value → Except Fault Value
  | .bytes _ content => do return .text (← bytesText content)
  | value => stringify value

/-- The bytes that numbers stand for, each below 256. -/
def bytesOfNumbers : List Value → Except Fault Bytes
  | [] => .ok []
  | value :: rest => do
    let number ← match value with
      | .bool truth => .ok (truthNumber truth)
      | .int value => .ok value
      | _ => .error (.bare .badType)
    if number < 0 ∨ 255 < number then throw (.bare .badValue)
    return UInt8.ofNat number.toNat :: (← bytesOfNumbers rest)

/-- The least count that is no size of anything: sizes have 63 bits. -/
def sizeLimit : Int := 0x8000000000000000

/-- So many bytes of zero.  A count beyond the range of sizes of either sign is out of
range before it is negative. -/
def zeroBytes (count : Int) : Except Fault Bytes :=
  if count < -sizeLimit ∨ sizeLimit ≤ count then .error (.bare .outOfRange)
  else if count < 0 then .error (.bare .badValue)
  else .ok (List.replicate count.toNat 0)

/-- The bytes of what was read from a large object. -/
def bytesOfContent : Value → Except Fault Bytes
  | .text value => .ok (Bytes.ofText value)
  | .brokenText _ => .error (.bare .unencodable)
  | .bytes _ content => .ok content
  | .bool truth => zeroBytes (truthNumber truth)
  | .int value => zeroBytes value
  | .collection _ items => bytesOfNumbers items
  | .mapping _ entries => bytesOfNumbers (entries.map Prod.fst)
  | _ => .error (.bare .badType)

/-- A value as bytes; a large object is read first. -/
def toBytes : Value → Except Fault Bytes
  | .bytes _ content => .ok content
  | .text value => .ok (Bytes.ofText value)
  | .brokenText _ => .error (.bare .unencodable)
  | .locator content => do bytesOfContent (← content)
  | value => do return Bytes.ofText (← value.toText)

/-- A value in a declared kind. -/
def convertTo : TypeCode → Value → Except Fault Value
  | .integer, value => do return .int (← toInteger value)
  | .float, value => do return .float (← toFloat value)
  | .decimal, value => do return .decimal (← toDecimal value)
  | .string, value => toText value
  | .blob, value => do return .fixedBytes (← toBytes value)

/-- The fault for a value that has no form of the declared kind.  Its message shows
the value, so there is none if the value itself has no text. -/
def conversionFault (value : Value) (code : TypeCode) (reason : Fault) : Fault :=
  match value.display with
  | .ok shown =>
    (Fault.of .database ("Cannot convert column value " ++ shown ++ " to " ++
      code.columnName)).because reason
  | .error fault => fault

/-- One fetched value.  A fault that is not about the conversion, such as one of a large
object that cannot be read, is let through. -/
def convert (value : Value) (code : Option TypeCode) (stringified : Bool) : Except Fault Value :=
  if value.isNull then .ok .null
  else
    match code with
    | none => if stringified then stringify value else .ok value
    | some code =>
      match convertTo code value with
      | .ok converted => .ok converted
      | .error reason =>
        .error (if reason.kind.isConversion then conversionFault value code reason else reason)

end Column
end SqlGateway
