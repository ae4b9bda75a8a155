import SqlGateway.Text.Bytes
import SqlGateway.Text.Printable

namespace SqlGateway
namespace Text

/-!
The displayed form of text and bytes: between quotes, with the quote, the
backslash and everything unprintable as escapes.  The single quote is used unless
the text holds single quotes and no double ones.
-/

def singleQuote : Char := '\x27'

def doubleQuote : Char := '\x22'

def backslash : Char := '\x5c'

/-- The quote that needs the fewest escapes. -/
def chooseQuote (characters : List Char) : Char :=
  if singleQuote ∈ characters ∧ doubleQuote ∉ characters then doubleQuote else singleQuote

/-- The escape of a line or tab control, if there is a short one. -/
def shortEscape? (character : Char) : Option Char :=
  if character = '\n' then some 'n'
  else if character = '\r' then some 'r'
  else if character = '\t' then some 't'
  else none

/-- The escape by code point, in the shortest of the three widths that holds it. -/
def codeEscape (code : Nat) : List Char :=
  if code ≤ 0xff then backslash :: 'x' :: Bytes.hexDigits code 2
  else if code ≤ 0xffff then backslash :: 'u' :: Bytes.hexDigits code 4
  else backslash :: 'U' :: Bytes.hexDigits code 8

/-- One character between the given quotes. -/
def quotedChar (quote character : Char) : List Char :=
  if character = quote ∨ character = backslash then [backslash, character]
  else match shortEscape? character with
    | some letter => [backslash, letter]
    | none => if isPrintable character then [character] else codeEscape character.toNat

def quoted (text : String) : String :=
  let quote := chooseQuote text.toList
  String.ofList (quote :: (text.toList.flatMap (quotedChar quote) ++ [quote]))

/-- One byte between quotes; `escapes` are the characters written after a backslash. -/
def quotedByte (escapes : List Char) (byte : UInt8) : List Char :=
  let character := Char.ofNat byte.toNat
  if character ∈ escapes then [backslash, character]
  else match shortEscape? character with
    | some letter => [backslash, letter]
    | none =>
      if 0x20 ≤ byte.toNat ∧ byte.toNat < 0x7f then [character] else codeEscape byte.toNat

/-- Bytes between quotes, after the letter that marks them. -/
def quotedBytesWith (alwaysEscapeSingle : Bool) (bytes : Bytes) : String :=
  let quote := chooseQuote (bytes.map fun byte => Char.ofNat byte.toNat)
  let escapes := [backslash, quote] ++ if alwaysEscapeSingle then [singleQuote] else []
  String.ofList ('b' :: quote :: (bytes.flatMap (quotedByte escapes) ++ [quote]))

/-- The displayed form of a fixed byte string. -/
def quotedBytes (bytes : Bytes) : String := quotedBytesWith false bytes

/-- The displayed form of a growable byte string, which escapes every single quote. -/
def quotedByteArray (bytes : Bytes) : String :=
  "bytearray(" ++ quotedBytesWith true bytes ++ ")"

end Text
end SqlGateway
