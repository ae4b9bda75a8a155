import SqlGateway.Text.Blank
import SqlGateway.Text.Digit

namespace SqlGateway
namespace Numeral

/-!
Whole numbers as text.  Reading accepts blanks around the numeral, one sign,
digits of any script and single group marks (underscores) between digits.  Text
and whole number are converted only up to a fixed count of digits, because the
work grows with the square of the length.
-/

/-- The largest count of digits converted between text and whole number. -/
def digitLimit : Nat := 4300

/-- The decimal digits of a number, most significant first. -/
def digits (value : Nat) : List Char := Nat.toDigits 10 value

/-- The number that a list of decimal digits stands for. -/
def ofDigits (characters : List Char) : Nat := Nat.ofDigitChars 10 characters 0

theorem ofDigits_digits (value : Nat) : ofDigits (digits value) = value :=
  Nat.ofDigitChars_ten_toDigits

/-- A power of a base; a negative exponent counts as zero. -/
def raised (base : Nat) (exponent : Int) : Nat := Nat.pow base exponent.toNat

def signChars (negative : Bool) : List Char := if negative then ['-'] else []

/-- The text of a whole number, however long. -/
def chars (value : Int) : List Char := signChars (value < 0) ++ digits value.natAbs

/-- The text of a whole number; `none` beyond the limit on digits. -/
def write? (value : Int) : Option String :=
  if (digits value.natAbs).length ≤ digitLimit then some (String.ofList (chars value)) else none

/-- The digits of the other scripts replaced by those of the seven-bit range. -/
def plainDigits (characters : List Char) : List Char :=
  characters.map fun character =>
    if character.toNat < 0x80 then character
    else match Text.digitValue? character with
      | some value => Text.digitChar value
      | none => character

/-- Blanks that may stand around a numeral: all but the information separators. -/
def isMargin (character : Char) : Bool :=
  Text.isBlank character && !(0x1c ≤ character.toNat && character.toNat ≤ 0x1f)

/-- A numeral without the blanks around it, in digits of the seven-bit range. -/
def body (characters : List Char) : List Char :=
  plainDigits ((characters.dropWhile isMargin).reverse.dropWhile isMargin).reverse

/-- Drop the group marks.  A mark must stand between two digits; `afterDigit`
says whether a digit was passed just before. -/
def dropGroupMarks? (afterDigit : Bool) : List Char → Option (List Char)
  | [] => some []
  | ['_'] => none
  | '_' :: next :: rest =>
    if afterDigit && next.isDigit then (dropGroupMarks? true rest).map (next :: ·) else none
  | character :: rest => (dropGroupMarks? character.isDigit rest).map (character :: ·)

/-- Split off one sign: whether it is a minus, and what follows. -/
def splitSign : List Char → Bool × List Char
  | '-' :: rest => (true, rest)
  | '+' :: rest => (false, rest)
  | characters => (false, characters)

def signed (negative : Bool) (magnitude : Nat) : Int :=
  if negative then -(magnitude : Int) else magnitude

/-- Read a whole number from characters that already are a numeral's body. -/
def readBody? (characters : List Char) : Option Int := do
  let (negative, magnitude) := splitSign (← dropGroupMarks? false characters)
  if magnitude ≠ [] ∧ magnitude.all Char.isDigit ∧ magnitude.length ≤ digitLimit then
    some (signed negative (ofDigits magnitude))
  else none

/-- Read a whole number; `none` if the text is no numeral or has too many digits. -/
def read? (characters : List Char) : Option Int := readBody? (body characters)

end Numeral
end SqlGateway
