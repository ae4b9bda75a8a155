import SqlGateway.Calendar
import SqlGateway.Fault
import SqlGateway.Number.Binary64
import SqlGateway.Number.Decimal
import SqlGateway.Text.Broken
import SqlGateway.TypeCode

namespace SqlGateway

/-!
Values that callers bind to placeholders and that drivers return.  Which kind of
value arrives is known only when it arrives, so one type holds them all: scalars,
byte strings, collections, mappings, and values tagged with a placeholder kind.
-/

/-- The forms of a byte string: fixed, growable, and a view of foreign memory. -/
inductive BytesForm where
  | fixed
  | growable
  | view
deriving DecidableEq, Repr, Inhabited

/-- The forms of a collection. -/
inductive CollectionForm where
  | list
  | tuple
  | set
  | frozenSet
deriving DecidableEq, Repr, Inhabited

/-- The forms of a mapping: one that can change and a view that cannot. -/
inductive MappingForm where
  | table
  | readOnly
deriving DecidableEq, Repr, Inhabited

inductive Value where
  | null
  | bool (value : Bool)
  | int (value : Int)
  | float (value : Binary64)
  | decimal (value : Decimal)
  | text (value : String)
  /-- A text with surrogates in it. -/
  | brokenText (value : BrokenText)
  | bytes (form : BytesForm) (content : Bytes)
  | date (value : Date)
  | time (value : TimeOfDay)
  | dateTime (value : DateTime)
  | collection (form : CollectionForm) (items : List Value)
  | mapping (form : MappingForm) (entries : List (Value × Value))
  /-- A row whose columns are reached by name. -/
  | record (fields : List (String × Value))
  /-- A value tagged with the kind of placeholder that it binds to. -/
  | bound (code : TypeCode) (value : Value)
  /-- A large object, which has to be read before its content is known and may refuse
  to be. -/
  | locator (content : Except Fault Value)
  /-- An object that is known only by its text. -/
  | foreign (label : String)
deriving Repr, Inhabited

namespace Value

def tuple (items : List Value) : Value := .collection .tuple items

def list (items : List Value) : Value := .collection .list items

def table (entries : List (Value × Value)) : Value := .mapping .table entries

def fixedBytes (content : Bytes) : Value := .bytes .fixed content

def isNull : Value → Bool
  | .null => true
  | _ => false

/-- Whether the value is a byte string of any form. -/
def isBytes : Value → Bool
  | .bytes _ _ => true
  | _ => false

/-- Whether the value is a container, which no scalar placeholder takes. -/
def isContainer : Value → Bool
  | .collection _ _ => true
  | .mapping _ _ => true
  | _ => false

/-- Whether the value is a set that can change. -/
def isSet : Value → Bool
  | .collection .set _ => true
  | _ => false

/-- Whether the value may name a column: letters and digits of the seven-bit range,
at least one. -/
def isColumnName : Value → Bool
  | .text name => !name.isEmpty && name.toList.all Char.isAlphanum
  | _ => false

def typeName : Value → String
  | .null => "NoneType"
  | .bool _ => "bool"
  | .int _ => "int"
  | .float _ => "float"
  | .decimal _ => "Decimal"
  | .text _ | .brokenText _ => "str"
  | .bytes .fixed _ => "bytes"
  | .bytes .growable _ => "bytearray"
  | .bytes .view _ => "memoryview"
  | .date _ => "date"
  | .time _ => "time"
  | .dateTime _ => "datetime"
  | .collection .list _ => "list"
  | .collection .tuple _ => "tuple"
  | .collection .set _ => "set"
  | .collection .frozenSet _ => "frozenset"
  | .mapping .table _ => "dict"
  | .mapping .readOnly _ => "mappingproxy"
  | .record _ => "SimpleNamespace"
  | .bound _ _ => "BoundValue"
  | .locator _ => "Lob"
  | .foreign _ => "Opaque"

/-- Whether the value counts as true: zeros, empty texts and empty containers do
not, and neither does the missing value. -/
def isTrue : Value → Bool
  | .null => false
  | .bool value => value
  | .int value => value ≠ 0
  | .float value => value.isTrue
  | .decimal value => value.isTrue
  | .text value => !value.isEmpty
  | .bytes _ content => !content.isEmpty
  | .collection _ items => !items.isEmpty
  | .mapping _ entries => !entries.isEmpty
  | .brokenText _ => true
  | .date _ | .time _ | .dateTime _ | .record _ | .bound _ _ | .locator _ | .foreign _ => true

/-- The value itself, or the value inside a tag. -/
def untag : Value → Value
  | .bound _ value => value
  | value => value

end Value

end SqlGateway
