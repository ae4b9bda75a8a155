import SqlGateway.Number.Scientific

namespace SqlGateway

/-!
Exact decimal numbers in the sense of the general decimal arithmetic standard: a
sign, a coefficient and a power of ten, kept apart so that `1.0` and `1.00` stay
different texts, or an infinity, or a quiet or signalling NaN with a payload.

Reading ignores blanks around the numeral and every underscore; writing is the
standard's scientific form.
-/

/-- A decimal number; the value of `finite negative coefficient exponent` is the
coefficient times that power of ten. -/
inductive Decimal where
  | finite (negative : Bool) (coefficient : Nat) (exponent : Int)
  | infinite (negative : Bool)
  | nan (negative : Bool) (signaling : Bool) (payload : Nat)
deriving DecidableEq, Repr, Inhabited

namespace Decimal

open Numeral (raised)

/-- The largest power of ten of the leading digit. -/
def highestExponent : Int := 999999999999999999

/-- The lowest power of ten of the last digit. -/
def lowestExponent : Int := -1999999999999999997

/-- The power of ten of the leading digit. -/
def adjusted (coefficient : Nat) (exponent : Int) : Int :=
  exponent + (Numeral.digits coefficient).length - 1

/-- Whether a coefficient and an exponent are within the limits of the format. -/
def inRange (coefficient : Nat) (exponent : Int) : Bool :=
  lowestExponent ≤ exponent &&
    (if coefficient = 0 then exponent ≤ highestExponent
     else adjusted coefficient exponent ≤ highestExponent)

def ofInt (value : Int) : Decimal := .finite (value < 0) value.natAbs 0

/-- Whether the number counts as true: everything but a zero does. -/
def isTrue : Decimal → Bool
  | .finite _ coefficient _ => coefficient ≠ 0
  | .infinite _ => true
  | .nan _ _ _ => true

def isNan : Decimal → Bool
  | .nan _ _ _ => true
  | _ => false

/-! ## Writing -/

/-- The exponent part of the scientific form, with its sign always written. -/
def exponentChars (exponent : Int) : List Char :=
  'E' :: (if exponent < 0 then '-' else '+') :: Numeral.digits exponent.natAbs

/-- The digits of a coefficient with a point, or in scientific form if the point
would stand to the right of the last digit or more than six places to the left. -/
def unsignedChars (coefficient : Nat) (exponent : Int) : List Char :=
  let digits := Numeral.digits coefficient
  let point : Int := exponent + digits.length
  if exponent ≤ 0 ∧ -6 < point then
    if exponent = 0 then digits
    else if 0 < point then digits.take point.toNat ++ '.' :: digits.drop point.toNat
    else '0' :: '.' :: (List.replicate (-point).toNat '0' ++ digits)
  else
    match digits with
    | [] => exponentChars (point - 1)
    | [digit] => digit :: exponentChars (point - 1)
    | digit :: rest => digit :: '.' :: (rest ++ exponentChars (point - 1))

/-- The payload of a NaN; none is written for zero. -/
def payloadChars (payload : Nat) : List Char :=
  if payload = 0 then [] else Numeral.digits payload

def chars : Decimal → List Char
  | .finite negative coefficient exponent =>
    Numeral.signChars negative ++ unsignedChars coefficient exponent
  | .infinite negative => Numeral.signChars negative ++ "Infinity".toList
  | .nan negative signaling payload =>
    Numeral.signChars negative ++ (if signaling then ['s'] else []) ++ "NaN".toList ++
      payloadChars payload

def write (value : Decimal) : String := String.ofList (chars value)

/-! ## Reading -/

/-- Read the part of a numeral after its sign. -/
def readUnsigned? (negative : Bool) (characters : List Char) : Option Decimal :=
  let letters := (characters.takeWhile Char.isAlpha).map Char.toLower
  let rest := characters.dropWhile Char.isAlpha
  if letters = "inf".toList ∨ letters = "infinity".toList then
    if rest = [] then some (.infinite negative) else none
  else if letters = "nan".toList ∨ letters = "snan".toList then
    if rest.all Char.isDigit then
      some (.nan negative (letters = "snan".toList) (Numeral.ofDigits rest))
    else none
  else
    (Numeral.readScientific? characters).bind fun (coefficient, exponent) =>
      if inRange coefficient exponent then some (.finite negative coefficient exponent) else none

def readChars? (characters : List Char) : Option Decimal :=
  let body := Numeral.plainDigits ((Text.trimChars characters).filter (· ≠ '_'))
  let (negative, rest) := Numeral.splitSign body
  readUnsigned? negative rest

/-- Read a decimal; `none` if the text is no numeral or outside the format's limits. -/
def read? (text : String) : Option Decimal := readChars? text.toList

/-! ## Truncation and comparison -/

/-- The whole number next to a finite decimal on the side of zero. -/
def truncate (negative : Bool) (coefficient : Nat) (exponent : Int) : Int :=
  Numeral.signed negative <|
    if 0 ≤ exponent then coefficient * raised 10 exponent
    else if (Numeral.digits coefficient).length ≤ (-exponent).toNat then 0
    else coefficient / raised 10 (-exponent)

/-- The coefficient without its trailing zeros, and the exponent that belongs to it. -/
def reduce (coefficient : Nat) (exponent : Int) : Nat × Int :=
  if coefficient = 0 then (0, 0)
  else
    let zeros := ((Numeral.digits coefficient).reverse.takeWhile (· == '0')).length
    (coefficient / raised 10 zeros, exponent + zeros)

/-- Whether two decimals are the same number; a NaN equals nothing. -/
def sameNumber : Decimal → Decimal → Bool
  | .finite negative coefficient exponent, .finite negative' coefficient' exponent' =>
    reduce coefficient exponent == reduce coefficient' exponent' &&
      (coefficient == 0 || negative == negative')
  | .infinite negative, .infinite negative' => negative == negative'
  | _, _ => false

/-- Whether one magnitude is below another.  Numbers with leading digits at different
places are not aligned, so the work is bounded by the digits that are written. -/
def lessMagnitude (coefficient : Nat) (exponent : Int) (coefficient' : Nat) (exponent' : Int) :
    Bool :=
  if coefficient' = 0 then false
  else if coefficient = 0 then true
  else
    let place := adjusted coefficient exponent
    let place' := adjusted coefficient' exponent'
    if place ≠ place' then place < place'
    else coefficient * raised 10 (exponent - exponent') < coefficient' * raised 10 (exponent' - exponent)

/-- Whether one decimal is less than another; a NaN is not less than anything, nor is
anything less than it. -/
def less : Decimal → Decimal → Bool
  | .nan _ _ _, _ | _, .nan _ _ _ => false
  | .infinite negative, .infinite negative' => negative && !negative'
  | .infinite negative, .finite _ _ _ => negative
  | .finite _ _ _, .infinite negative => !negative
  | .finite negative coefficient exponent, .finite negative' coefficient' exponent' =>
    match negative && coefficient ≠ 0, negative' && coefficient' ≠ 0 with
    | false, false => lessMagnitude coefficient exponent coefficient' exponent'
    | true, true => lessMagnitude coefficient' exponent' coefficient exponent
    | isNegative, _ => isNegative

end Decimal
end SqlGateway
