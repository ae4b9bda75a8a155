import SqlGateway.Number.Numeral

namespace SqlGateway
namespace Numeral

/-!
Unsigned numerals with a point and an exponent, as decimals and double precision
numbers both write them: digits, then perhaps a point and digits, then perhaps
the letter e, a sign and digits.  At least one digit stands before the exponent.
-/

/-- Read an exponent part that follows the digits: nothing, or the letter, an
optional sign and digits. -/
def readExponent? : List Char → Option Int
  | [] => some 0
  | letter :: rest =>
    if letter.toLower = 'e' then
      let (negative, magnitude) := splitSign rest
      if magnitude ≠ [] ∧ magnitude.all Char.isDigit then
        some (signed negative (ofDigits magnitude))
      else none
    else none

/-- The digits after a point, if there is one, and what follows them. -/
def splitFraction : List Char → List Char × List Char
  | '.' :: rest => (rest.takeWhile Char.isDigit, rest.dropWhile Char.isDigit)
  | characters => ([], characters)

/-- Read digits with an optional point and an optional exponent: the coefficient
and the power of ten of its last digit. -/
def readScientific? (characters : List Char) : Option (Nat × Int) := do
  let whole := characters.takeWhile Char.isDigit
  let (fraction, rest) := splitFraction (characters.dropWhile Char.isDigit)
  let exponent ← readExponent? rest
  if whole ++ fraction ≠ [] then
    some (ofDigits (whole ++ fraction), exponent - fraction.length)
  else none

end Numeral
end SqlGateway
