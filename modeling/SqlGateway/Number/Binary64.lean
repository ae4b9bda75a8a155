import SqlGateway.Number.Scientific

namespace SqlGateway

/-!
Double precision numbers, computed exactly.  A finite number is a significand
times a power of two; nothing here is left to the machine's own arithmetic, so a
text and its number can be reasoned about.  Values are only read, written, made
from whole numbers and ratios, and compared.

Rounding goes to the nearest number and, half way, to the even significand.  The
written form has the fewest digits that read back as the same number.
-/

/-- A double precision number.  The value of `finite negative significand exponent`
is the significand times two to the exponent.  In the numbers made here the
significand is below two to the 53, and at least two to the 52 unless the
exponent is the least one, -1074. -/
inductive Binary64 where
  | finite (negative : Bool) (significand : Nat) (exponent : Int)
  | infinite (negative : Bool)
  | nan
deriving DecidableEq, Repr, Inhabited

namespace Binary64

open Numeral (raised)

/-- The exponent of the numbers nearest to zero. -/
def lowestExponent : Int := -1074

/-- The exponent of the largest numbers. -/
def highestExponent : Int := 971

def zeroOf (negative : Bool) : Binary64 := .finite negative 0 lowestExponent

/-- The least significand of 53 binary digits. -/
def leastFull : Nat := 0x10000000000000

/-- The least significand of 54 binary digits, which is one too many. -/
def overflowing : Nat := 0x20000000000000

/-- The quotient rounded to the nearest whole number; half way to the even one. -/
def roundDiv (numerator denominator : Nat) : Nat :=
  let quotient := numerator / denominator
  let doubled := 2 * (numerator % denominator)
  if doubled < denominator then quotient
  else if denominator < doubled then quotient + 1
  else quotient + quotient % 2

/-- The exponent at which the quotient of two positive numbers has 53 binary
digits, or the least exponent if that is higher. -/
def exponentOf (numerator denominator : Nat) : Int :=
  let guess : Int := numerator.log2 - denominator.log2 - 52
  let exact :=
    if numerator * raised 2 (-guess) < denominator * raised 2 guess * leastFull then guess - 1
    else guess
  max exact lowestExponent

/-- The number nearest to a ratio. -/
def ofRatio (negative : Bool) (numerator denominator : Nat) : Binary64 :=
  if numerator = 0 then zeroOf negative
  else
    let exponent := exponentOf numerator denominator
    let significand := roundDiv (numerator * raised 2 (-exponent)) (denominator * raised 2 exponent)
    let (significand, exponent) :=
      if significand = overflowing then (leastFull, exponent + 1) else (significand, exponent)
    if highestExponent < exponent then .infinite negative
    else .finite negative significand exponent

def ofInt (value : Int) : Binary64 := ofRatio (value < 0) value.natAbs 1

/-- The number nearest to a coefficient times a power of ten.  Far outside the
range the answer is known from the count of digits alone. -/
def ofDecimal (negative : Bool) (coefficient : Nat) (exponent : Int) : Binary64 :=
  let point := exponent + (Numeral.digits coefficient).length
  if coefficient = 0 ∨ point < -330 then zeroOf negative
  else if 310 < point then .infinite negative
  else ofRatio negative (coefficient * raised 10 exponent) (raised 10 (-exponent))

/-- The size of a finite number as a ratio of whole numbers. -/
def ratio (significand : Nat) (exponent : Int) : Nat × Nat :=
  (significand * raised 2 exponent, raised 2 (-exponent))

/-- Whether the number counts as true: everything but a zero does. -/
def isTrue : Binary64 → Bool
  | .finite _ significand _ => significand ≠ 0
  | .infinite _ => true
  | .nan => true

/-- The whole number next to a finite number on the side of zero. -/
def truncate (negative : Bool) (significand : Nat) (exponent : Int) : Int :=
  let (numerator, denominator) := ratio significand exponent
  Numeral.signed negative (numerator / denominator)

/-- A finite number as a coefficient and a power of ten, exactly. -/
def toDecimal (significand : Nat) (exponent : Int) : Nat × Int :=
  if exponent < 0 then (significand * raised 5 (-exponent), exponent)
  else (significand * raised 2 exponent, 0)

/-! ## Shortest digits -/

/-- The place of the decimal point: the number is below ten to this power and not
below the tenth of it. -/
def pointOf (numerator denominator : Nat) : Int :=
  let guess : Int :=
    ((Numeral.digits numerator).length : Int) - (Numeral.digits denominator).length
  if denominator * raised 10 guess ≤ numerator * raised 10 (-guess) then guess + 1 else guess

/-- The reals that round to a number, as bounds in quarters of its last binary
place: half a place to either side, and only a quarter below where a power of two
has closer neighbours underneath. -/
def quarterBounds (significand : Nat) (exponent : Int) : Nat × Nat :=
  (if significand = leastFull ∧ lowestExponent < exponent then 4 * significand - 1
   else 4 * significand - 2, 4 * significand + 2)

/-- Whether a coefficient times a power of ten rounds to the number; the bounds
themselves do if the significand is even. -/
def readsBack (significand : Nat) (exponent : Int) (coefficient : Nat) (power : Int) : Bool :=
  let (low, high) := quarterBounds significand exponent
  let quarter := exponent - 2
  let point := coefficient * raised 10 power * raised 2 (-quarter)
  let unit := raised 2 quarter * raised 10 (-power)
  if significand % 2 = 0 then low * unit ≤ point && point ≤ high * unit
  else low * unit < point && point < high * unit

/-- The better of the two neighbours of a number on the grid of a power of ten, if
one of them reads back: the nearer, and the even one half way. -/
def nearestOnGrid? (significand : Nat) (exponent power : Int) : Option Nat :=
  let (numerator, denominator) := ratio significand exponent
  let scaled := numerator * raised 10 (-power)
  let unit := denominator * raised 10 power
  let below := scaled / unit
  let nearest := roundDiv scaled unit
  let other := if nearest = below then below + 1 else below
  if readsBack significand exponent nearest power then some nearest
  else if readsBack significand exponent other power then some other
  else none

/-- Look for the shortest digits from `count` digits on, at most `fuel` counts. -/
def searchDigits (significand : Nat) (exponent point : Int) (count : Nat) : Nat → Nat × Int
  | 0 => (significand, exponent)
  | fuel + 1 =>
    match nearestOnGrid? significand exponent (point - count) with
    | some coefficient => (coefficient, point - count)
    | none => searchDigits significand exponent point (count + 1) fuel

/-- The shortest digits that read back as a positive number, and the place of the
decimal point before them. -/
def shortest (significand : Nat) (exponent : Int) : List Char × Int :=
  let (numerator, denominator) := ratio significand exponent
  let point := pointOf numerator denominator
  let (coefficient, power) := searchDigits significand exponent point 1 17
  let digits := Numeral.digits coefficient
  let significant := (digits.reverse.dropWhile (· == '0')).reverse
  (significant, power + digits.length)

/-! ## Written forms -/

/-- How a number is laid out: up to which place of the point it is written without
an exponent, and how the exponent is written. -/
structure Layout where
  /-- The point must lie above this place for the positional form. -/
  above : Int
  /-- The point must not lie above this place for the positional form. -/
  upTo : Int
  /-- Whether a positive exponent has a plus sign. -/
  plus : Bool
  /-- The least count of digits of an exponent. -/
  width : Nat
deriving Repr

/-- The layout of a displayed number: an exponent has a sign and two digits. -/
def displayLayout : Layout := ⟨-4, 16, true, 2⟩

/-- The layout of a number in a JSON document. -/
def documentLayout : Layout := ⟨-5, 16, false, 1⟩

/-- An exponent in a layout. -/
def Layout.exponentChars (layout : Layout) (exponent : Int) : List Char :=
  let digits := Numeral.digits exponent.natAbs
  'e' :: (if exponent < 0 then ['-'] else if layout.plus then ['+'] else []) ++
    (List.replicate (layout.width - digits.length) '0' ++ digits)

/-- Digits with the point at a place, in a layout. -/
def Layout.chars (layout : Layout) (digits : List Char) (point : Int) : List Char :=
  if layout.above < point ∧ point ≤ layout.upTo then
    if point ≤ 0 then '0' :: '.' :: (List.replicate (-point).toNat '0' ++ digits)
    else if (digits.length : Int) ≤ point then
      digits ++ List.replicate (point.toNat - digits.length) '0' ++ ['.', '0']
    else digits.take point.toNat ++ '.' :: digits.drop point.toNat
  else
    match digits with
    | [] => []
    | [digit] => digit :: layout.exponentChars (point - 1)
    | digit :: rest => digit :: '.' :: (rest ++ layout.exponentChars (point - 1))

/-- A finite number in a layout. -/
def Layout.finiteChars (layout : Layout) (negative : Bool) (significand : Nat) (exponent : Int) :
    List Char :=
  Numeral.signChars negative ++
    (if significand = 0 then ['0', '.', '0']
     else
      let (digits, point) := shortest significand exponent
      layout.chars digits point)

def write : Binary64 → String
  | .finite negative significand exponent =>
    String.ofList (displayLayout.finiteChars negative significand exponent)
  | .infinite negative => if negative then "-inf" else "inf"
  | .nan => "nan"

/-- A number with one digit after the point. -/
def writeTenths : Binary64 → String
  | .finite negative significand exponent =>
    let (numerator, denominator) := ratio significand exponent
    let tenths := roundDiv (numerator * 10) denominator
    String.ofList (Numeral.signChars negative ++ Numeral.digits (tenths / 10) ++
      '.' :: Numeral.digits (tenths % 10))
  | value => value.write

/-! ## Reading -/

/-- Read the part of a numeral after its sign. -/
def readUnsigned? (negative : Bool) (characters : List Char) : Option Binary64 := do
  let letters := characters.map Char.toLower
  if letters = "inf".toList ∨ letters = "infinity".toList then return .infinite negative
  if letters = "nan".toList then return .nan
  let (coefficient, exponent) ← Numeral.readScientific? characters
  return ofDecimal negative coefficient exponent

/-- Read a number; `none` if the text is no numeral. -/
def read? (text : String) : Option Binary64 := do
  let plain ← Numeral.dropGroupMarks? false (Numeral.body text.toList)
  let (negative, rest) := Numeral.splitSign plain
  readUnsigned? negative rest

end Binary64
end SqlGateway
