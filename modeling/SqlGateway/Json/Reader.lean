import SqlGateway.Value.Equality

namespace SqlGateway
namespace Json

/-!
Reading JSON documents.  The reader works on octets, each taken as the character
with its number, because a document may arrive as bytes and only the strings in it
have to spell text.  Nothing beyond the standard's grammar is accepted.
-/

/-- Why a document cannot be read: it breaks the grammar, a number in it is outside
the range of numbers, a string in it spells no text, or its values are nested too
deeply. -/
inductive ReadError where
  | malformed
  | outOfRange
  | unreadable
  | tooDeep
deriving DecidableEq, Repr

def isSpace (octet : Char) : Bool := octet == ' ' || octet == '\t' || octet == '\n' || octet == '\r'

/-- The octets after white space. -/
def skipSpace (octets : List Char) : List Char := octets.dropWhile isSpace

def octetsOfText (document : String) : List Char :=
  (Bytes.ofText document).map fun byte => Char.ofNat byte.toNat

def octetsOfBytes (document : Bytes) : List Char := document.map fun byte => Char.ofNat byte.toNat

/-- The text that octets spell. -/
def textOfOctets? (octets : List Char) : Option String :=
  Bytes.toText? (octets.map fun octet => UInt8.ofNat octet.toNat)

def octetsOfChar (code : Nat) : List Char :=
  octetsOfText (String.ofList [Char.ofNat code])

def readHex4? : List Char → Option (Nat × List Char)
  | a :: b :: c :: d :: rest => do
    let value := 4096 * (← Bytes.hexValue? a) + 256 * (← Bytes.hexValue? b) +
      16 * (← Bytes.hexValue? c) + (← Bytes.hexValue? d)
    return (value, rest)
  | _ => none

/-- Read an escaped code point after its backslash and letter; two escapes in a row
make up a code point beyond the first plane. -/
def readCodePoint? (octets : List Char) : Option (Nat × List Char) := do
  let (high, rest) ← readHex4? octets
  if 0xdc00 ≤ high ∧ high ≤ 0xdfff then none
  else if 0xd800 ≤ high ∧ high ≤ 0xdbff then
    match rest with
    | '\x5c' :: 'u' :: rest =>
      let (low, rest) ← readHex4? rest
      if 0xdc00 ≤ low ∧ low ≤ 0xdfff then
        some (0x10000 + (high - 0xd800) * 0x400 + (low - 0xdc00), rest)
      else none
    | _ => none
  else some (high, rest)

/-- The character that a one-letter escape stands for. -/
def escapedChar? (letter : Char) : Option Char :=
  if letter = Text.doubleQuote ∨ letter = Text.backslash ∨ letter = '/' then some letter
  else if letter = 'b' then some '\x08'
  else if letter = 'f' then some '\x0c'
  else if letter = 'n' then some '\n'
  else if letter = 'r' then some '\r'
  else if letter = 't' then some '\t'
  else none

/-- Read the octets of a string up to its closing quote; at most `fuel` steps. -/
def readStringOctets : Nat → List Char → Option (List Char × List Char)
  | 0, _ => none
  | fuel + 1, octets =>
    match octets with
    | '\x22' :: rest => some ([], rest)
    | '\x5c' :: 'u' :: rest => do
      let (code, rest) ← readCodePoint? rest
      let (content, rest) ← readStringOctets fuel rest
      return (octetsOfChar code ++ content, rest)
    | '\x5c' :: letter :: rest => do
      let character ← escapedChar? letter
      let (content, rest) ← readStringOctets fuel rest
      return (character :: content, rest)
    | octet :: rest =>
      if octet = Text.backslash ∨ octet.toNat < 0x20 then none
      else do
        let (content, rest) ← readStringOctets fuel rest
        return (octet :: content, rest)
    | [] => none

/-- Read a string after its opening quote. -/
def readString (octets : List Char) : Except ReadError (String × List Char) :=
  match readStringOctets (octets.length + 1) octets with
  | none => .error .malformed
  | some (content, rest) =>
    match textOfOctets? content with
    | some text => .ok (text, rest)
    | none => .error .unreadable

/-- The digits before the point: a single zero, or digits that start with another. -/
def isWhole : List Char → Bool
  | ['0'] => true
  | digits => digits.head?.any fun digit => digit.isDigit && digit ≠ '0'

/-- Read a fraction: a point and at least one digit, or nothing. -/
def readFraction? : List Char → Option (List Char × List Char)
  | '.' :: rest =>
    let digits := rest.takeWhile Char.isDigit
    if digits = [] then none else some (digits, rest.dropWhile Char.isDigit)
  | rest => some ([], rest)

/-- Read an exponent: the letter, an optional sign and at least one digit, or nothing. -/
def readExponent? : List Char → Option (Option Int × List Char)
  | letter :: rest =>
    if letter = 'e' ∨ letter = 'E' then
      let (negative, rest) := Numeral.splitSign rest
      let digits := rest.takeWhile Char.isDigit
      if digits = [] then none
      else some (some (Numeral.signed negative (Numeral.ofDigits digits)), rest.dropWhile Char.isDigit)
    else some (none, letter :: rest)
  | [] => some (none, [])

/-- A number without point and exponent is whole.  Its sign counts as a digit. -/
def wholeNumber (negative : Bool) (digits : List Char) : Except ReadError Value :=
  if Numeral.digitLimit < (Numeral.signChars negative ++ digits).length then .error .outOfRange
  else .ok (.int (Numeral.signed negative (Numeral.ofDigits digits)))

/-- A number with a point or an exponent has double precision. -/
def pointNumber (negative : Bool) (digits : List Char) (exponent : Int) : Except ReadError Value :=
  match Binary64.ofDecimal negative (Numeral.ofDigits digits) exponent with
  | .infinite _ => .error .outOfRange
  | number => .ok (.float number)

/-- Read a number after its sign. -/
def readNumber (negative : Bool) (octets : List Char) : Except ReadError (Value × List Char) := do
  let whole := octets.takeWhile Char.isDigit
  if !isWhole whole then throw .malformed
  match readFraction? (octets.dropWhile Char.isDigit) with
  | none => throw .malformed
  | some (fraction, rest) =>
    match readExponent? rest with
    | none => throw .malformed
    | some (exponent, rest) =>
      if fraction = [] ∧ exponent = none then return (← wholeNumber negative whole, rest)
      else return (← pointNumber negative (whole ++ fraction) (exponent.getD 0 - fraction.length), rest)

/-- Read a word that stands for a value. -/
def readWord (word : String) (value : Value) (octets : List Char) : Except ReadError (Value × List Char) :=
  if octets.take word.length = word.toList then .ok (value, octets.drop word.length)
  else .error .malformed

/-- The greatest count of arrays and objects inside each other. -/
def nestingLimit : Nat := 992

mutual

/-- Read a value in at most `fuel` steps; `room` more arrays and objects may be nested in
each other. -/
def readValue : Nat → Nat → List Char → Except ReadError (Value × List Char)
  | 0, _, _ => .error .malformed
  | fuel + 1, room, octets =>
    match skipSpace octets with
    | '\x22' :: rest => do
      let (content, rest) ← readString rest
      return (.text content, rest)
    | '[' :: rest => do
      if room = 0 then throw .tooDeep
      match skipSpace rest with
      | ']' :: rest => return (.list [], rest)
      | rest =>
        let (items, rest) ← readItems fuel (room - 1) rest
        return (.list items, rest)
    | '\x7b' :: rest => do
      if room = 0 then throw .tooDeep
      match skipSpace rest with
      | '\x7d' :: rest => return (.table [], rest)
      | rest =>
        let (members, rest) ← readMembers fuel (room - 1) rest
        return (.table (Value.entriesOf members), rest)
    | '-' :: rest => readNumber true rest
    | 'n' :: rest => readWord "null" .null ('n' :: rest)
    | 't' :: rest => readWord "true" (.bool true) ('t' :: rest)
    | 'f' :: rest => readWord "false" (.bool false) ('f' :: rest)
    | rest => readNumber false rest

/-- Read the items of an array up to its closing bracket. -/
def readItems : Nat → Nat → List Char → Except ReadError (List Value × List Char)
  | 0, _, _ => .error .malformed
  | fuel + 1, room, octets => do
    let (item, rest) ← readValue fuel room octets
    match skipSpace rest with
    | ',' :: rest =>
      let (items, rest) ← readItems fuel room rest
      return (item :: items, rest)
    | ']' :: rest => return ([item], rest)
    | _ => throw .malformed

/-- Read the members of an object up to its closing brace. -/
def readMembers : Nat → Nat → List Char → Except ReadError (List (Value × Value) × List Char)
  | 0, _, _ => .error .malformed
  | fuel + 1, room, octets =>
    match skipSpace octets with
    | '\x22' :: rest => do
      let (name, rest) ← readString rest
      match skipSpace rest with
      | ':' :: rest =>
        let (value, rest) ← readValue fuel room rest
        match skipSpace rest with
        | ',' :: rest =>
          let (members, rest) ← readMembers fuel room rest
          return ((.text name, value) :: members, rest)
        | '\x7d' :: rest => return ([(.text name, value)], rest)
        | _ => throw .malformed
      | _ => throw .malformed
    | _ => .error .malformed

end

/-- Read a whole document: one value, and nothing but white space around it. -/
def readDocument (octets : List Char) : Except ReadError Value := do
  let (value, rest) ← readValue (2 * octets.length + 2) nestingLimit octets
  if skipSpace rest = [] then return value else throw .malformed

/-- The failure reported for a document that cannot be read. -/
def decodingFault (reason : ForeignKind) : Fault :=
  (Fault.of .serialization "Failed decoding JSON").because (.bare reason)

/-- The value of a document.  A string that spells no text is a failure of its own, and so
is a document that is nested too deeply. -/
def decode (octets : List Char) : Except Fault Value :=
  match readDocument octets with
  | .ok value => .ok value
  | .error .malformed => .error (decodingFault .badDocument)
  | .error .outOfRange => .error (decodingFault .badDocumentNumber)
  | .error .unreadable => .error (.bare .badText)
  | .error .tooDeep => .error (.bare .tooDeep)

end Json
end SqlGateway
