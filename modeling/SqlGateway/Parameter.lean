import SqlGateway.Template.Query
import SqlGateway.Value.Display

namespace SqlGateway

/-!
Values for placeholders.  A value is paired with the placeholder at its place and
made ready for the driver: normalised for the kind of the placeholder, then
converted as the adapter wants it.  The kind is advice; only containers and, for
most kinds, byte strings are refused.
-/

/-- Whether an adapter converts values that its driver does not take: truth values
to whole numbers, decimals, dates and times to text. -/
structure Coercion where
  convertsScalars : Bool
deriving DecidableEq, Repr, Inhabited

namespace Coercion

/-- Every value is handed on. -/
def none : Coercion := ⟨false⟩

/-- Values that the driver does not take are converted. -/
def scalars : Coercion := ⟨true⟩

/-- The names of the types that are converted, in order. -/
def typeNames (coercion : Coercion) : List String :=
  if coercion.convertsScalars then ["Decimal", "bool", "date", "datetime", "time"] else []

def apply (coercion : Coercion) (value : Value) : Value :=
  if coercion.convertsScalars then
    match value with
    | .bool truth => .int (if truth then 1 else 0)
    | .decimal number => .text number.write
    | .dateTime moment => .text moment.write
    | .date day => .text day.write
    | .time clock => .text clock.write
    | value => value
  else value

end Coercion

namespace Parameter

/-- The kind of placeholder for a value: its tag, or the kind of its number, or text. -/
def inferCode : Value → TypeCode
  | .bound code _ => code
  | .bool _ | .int _ => .integer
  | .float _ => .float
  | _ => .string

/-- The placeholder for a value. -/
def placeholderFor (value : Value) : String := (inferCode value).placeholder

/-- A value tagged with the kind of its placeholder. -/
def tagged : Value → Value
  | .bound code value => .bound code value
  | value => .bound (inferCode value) value

def truthNumber (truth : Bool) : Int := if truth then 1 else 0

/-- The double precision number of a whole number, unless it is out of range. -/
def floatOfInt (value : Int) : Except Fault Value :=
  match Binary64.ofInt value with
  | .infinite _ => .error (.bare .outOfRange)
  | number => .ok (.float number)

def textForm : Value → Except Fault Value
  | .bool truth => .ok (.text (String.ofList (Numeral.chars (truthNumber truth))))
  | .int value => do return .text (← Value.intText value)
  | .float value => .ok (.text value.write)
  | .decimal value => .ok (.text value.write)
  | .dateTime value => .ok (.text value.write)
  | .date value => .ok (.text value.write)
  | .time value => .ok (.text value.write)
  | value => .ok value

/-- The decimal that a value binds as; a double precision number goes through its
shortest text. -/
def decimalForm : Value → Value
  | .bool truth => .decimal (.ofInt (truthNumber truth))
  | .int value => .decimal (.ofInt value)
  | .float value =>
    match Decimal.read? value.write with
    | some number => .decimal number
    | none => .float value
  | value => value

/-- The bytes that a value binds as, which a text with surrogates does not have. -/
def blobForm : Value → Except Fault Value
  | .text content => .ok (.fixedBytes (Bytes.ofText content))
  | .brokenText _ => .error (.bare .unencodable)
  | .bytes _ content => .ok (.fixedBytes content)
  | value => .ok value

/-- Normalise a value for a kind of placeholder. -/
def normalize : TypeCode → Value → Except Fault Value
  | .integer, .bool truth => .ok (.int (truthNumber truth))
  | .integer, value => .ok value
  | .float, .int value => floatOfInt value
  | .float, value => .ok value
  | .decimal, value => .ok (decimalForm value)
  | .string, value => textForm value
  | .blob, value => blobForm value

/-- Whether no placeholder of the kind takes the value. -/
def isRefused (code : TypeCode) (value : Value) : Bool :=
  value.isContainer || (value.isBytes && code ≠ .blob && code ≠ .string)

/-- The fault for a value that is refused. -/
def refusal (code : TypeCode) (value : Value) : Fault :=
  .parameter .parameter
    ("Cannot bind " ++ value.typeName ++ " value to placeholder " ++ code.placeholder) none

/-- Make one value ready for the driver.  A tag is taken off first, and a missing
value stays missing. -/
def coerce (code : TypeCode) (value : Value) (coercion : Coercion) : Except Fault Value :=
  let value := value.untag
  if value.isNull then .ok .null
  else if isRefused code value then .error (refusal code value)
  else do return coercion.apply (← normalize code value)

/-- The fault for a wrong count of values. -/
def countFault (kind : LibraryKind) (expected supplied : Nat) (sql : String) : Fault :=
  .parameter kind ("Expected " ++ Nat.repr expected ++ " parameter(s) but " ++
    Nat.repr supplied ++ " supplied") (some sql)

/-- Make values ready for placeholders at the same places, from the first on. -/
def coerceAll (coercion : Coercion) : List TypeCode → List Value → Except Fault (List Value)
  | code :: codes, value :: values => do
    return (← coerce code value coercion) :: (← coerceAll coercion codes values)
  | _, _ => .ok []

/-- Pair the placeholders of a query with values, one for each. -/
def bind (query : ParsedQuery) (values : List Value) (coercion : Coercion) :
    Except Fault (List Value) :=
  let expected := query.placeholders.length
  let supplied := values.length
  if supplied < expected then .error (countFault .missingParameter expected supplied query.sql)
  else if expected < supplied then .error (countFault .extraParameter expected supplied query.sql)
  else coerceAll coercion query.placeholders values

end Parameter
end SqlGateway
