import SqlGateway.Text.Quoted

namespace SqlGateway

/-!
Texts that hold surrogates.  A text is a row of code points, and some of those are
surrogates, which stand for no character.  A text that holds one has no encoding and so
no bytes; wherever it is written into another text it is written with escapes.
-/

/-- A code point: a character, or one of the 2048 surrogates. -/
inductive CodePoint where
  | character (value : Char)
  | surrogate (place : Fin 2048)
deriving DecidableEq, Repr, Inhabited

namespace CodePoint

def code : CodePoint → Nat
  | .character value => value.toNat
  | .surrogate place => 0xd800 + place

def isSurrogate : CodePoint → Bool
  | .character _ => false
  | .surrogate _ => true

def character? : CodePoint → Option Char
  | .character value => some value
  | .surrogate _ => none

/-- A code point with its character, if it has one, written in some way. -/
def writeWith (write : Char → List Char) : CodePoint → List Char
  | .character value => write value
  | .surrogate place => Text.codeEscape (surrogate place).code

end CodePoint

/-- A text that holds a surrogate. -/
structure BrokenText where
  points : List CodePoint
  holdsSurrogate : points.any CodePoint.isSurrogate = true
deriving DecidableEq, Repr

namespace BrokenText

def ofSurrogate (place : Fin 2048) : BrokenText := ⟨[.surrogate place], rfl⟩

instance : Inhabited BrokenText := ⟨ofSurrogate 0⟩

/-- The text with its surrogates escaped. -/
def escaped (text : BrokenText) : String :=
  String.ofList (text.points.flatMap (CodePoint.writeWith fun character => [character]))

def display (text : BrokenText) : String :=
  let quote := Text.chooseQuote (text.points.filterMap CodePoint.character?)
  String.ofList
    (quote :: (text.points.flatMap (CodePoint.writeWith (Text.quotedChar quote)) ++ [quote]))

end BrokenText

namespace Text

/-- The code points of a text without surrogates. -/
def points (text : String) : List CodePoint := text.toList.map .character

/-- Whether one text comes before another by the numbers of their code points. -/
def precedes (first second : List CodePoint) : Bool :=
  first.map CodePoint.code < second.map CodePoint.code

end Text
end SqlGateway
