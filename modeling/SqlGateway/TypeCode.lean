namespace SqlGateway

/-!
The five kinds of value that a template names, by one letter each: as a
placeholder after a percent sign, as a column mark between braces.
-/

inductive TypeCode where
  | integer
  | float
  | decimal
  | string
  | blob
deriving DecidableEq, Repr, Inhabited

namespace TypeCode

/-- Every kind, in the order of documentation. -/
def all : List TypeCode := [.integer, .float, .decimal, .string, .blob]

def letter : TypeCode → Char
  | .integer => 'i'
  | .float => 'f'
  | .decimal => 'd'
  | .string => 's'
  | .blob => 'b'

def ofLetter? (character : Char) : Option TypeCode :=
  all.find? fun code => code.letter == character

def name : TypeCode → String
  | .integer => "INTEGER"
  | .float => "FLOAT"
  | .decimal => "DECIMAL"
  | .string => "STRING"
  | .blob => "BLOB"

/-- The name of a kind in a message about a column. -/
def columnName : TypeCode → String
  | .integer => "integer"
  | .float => "float"
  | .decimal => "decimal"
  | .string => "string"
  | .blob => "blob"

def placeholder (code : TypeCode) : String := String.ofList ['%', code.letter]

theorem ofLetter?_letter (code : TypeCode) : ofLetter? code.letter = some code := by
  cases code <;> decide

theorem letter_of_ofLetter? {character : Char} {code : TypeCode}
    (found : ofLetter? character = some code) : code.letter = character := by
  have matched := List.find?_some found
  simpa using matched

end TypeCode
end SqlGateway
