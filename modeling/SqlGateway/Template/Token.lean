import SqlGateway.Text.Quoted
import SqlGateway.Text.Word
import SqlGateway.TypeCode

namespace SqlGateway
namespace Template

/-!
Tokens of a template.  From left to right, the longest construct that starts at a
place is one token; a character that starts none is a token of its own.  The texts
of the tokens in order are the template, so nothing is lost and every place
belongs to one token.

A construct without its end is a token too, of one character: whether it is a
mistake is not for the scanner to say.
-/

inductive TokenKind where
  /-- A character without meaning of its own. -/
  | plain
  /-- A string literal, a name in double quotes or a comment. -/
  | verbatim
  /-- A single quote that no quote closes. -/
  | openLiteral
  /-- A name in brackets. -/
  | identifier
  /-- A bracket that no bracket closes. -/
  | openIdentifier
  /-- A place for a parameter. -/
  | placeholder (code : TypeCode)
  /-- A percent sign that starts no placeholder. -/
  | percent
  /-- The declared kind of a result column. -/
  | columnMark (code : TypeCode)
  /-- A brace that starts no column mark. -/
  | openBrace
  | openParenthesis
  | closeParenthesis
  | comma
  /-- The word that starts a list of result columns. -/
  | selectWord
deriving DecidableEq, Repr, Inhabited

structure Token where
  kind : TokenKind
  text : List Char
deriving DecidableEq, Repr, Inhabited

/-! ## How far a construct reaches -/

/-- How far a literal reaches after its opening quote.  A pair of quotes stands for
one quote and the first other quote closes the literal.  If no quote closes it, the
first quote of the last pair does. -/
def closeLiteral? : List Char → Option Nat
  | [] => none
  | '\x27' :: '\x27' :: rest =>
    match closeLiteral? rest with
    | some length => some (length + 2)
    | none => some 1
  | '\x27' :: _ => some 1
  | _ :: rest => (closeLiteral? rest).map (· + 1)

/-- How far a construct reaches that ends with the first occurrence of a character. -/
def closeAt? (stop : Char) : List Char → Option Nat
  | [] => none
  | character :: rest =>
    if character = stop then some 1 else (closeAt? stop rest).map (· + 1)

/-- How far a block comment reaches after its opening. -/
def closeComment? : List Char → Option Nat
  | [] => none
  | '*' :: '/' :: _ => some 2
  | _ :: rest => (closeComment? rest).map (· + 1)

/-- How far a line comment reaches after its opening. -/
def lineLength (characters : List Char) : Nat :=
  (characters.takeWhile fun character => character ≠ '\r' && character ≠ '\n').length

/-- The spellings of each letter of the word that starts a list of columns; the
long s counts as an s. -/
def selectLetters : List (List Char) :=
  [['s', 'S', Char.ofNat 0x17f], ['e', 'E'], ['l', 'L'], ['e', 'E'], ['c', 'C'], ['t', 'T']]

/-- Whether the characters start with one spelling of each letter, and what follows. -/
def afterLetters? : List (List Char) → List Char → Option (List Char)
  | [], rest => some rest
  | _ :: _, [] => none
  | spellings :: letters, character :: rest =>
    if character ∈ spellings then afterLetters? letters rest else none

/-- Whether there is no word character at a place. -/
def isGap : Option Char → Bool
  | none => true
  | some character => !Text.isWord character

/-- Whether the word that starts a list of columns stands here, as a whole word. -/
def isSelect (previous : Option Char) (characters : List Char) : Bool :=
  match afterLetters? selectLetters characters with
  | some rest => isGap previous && isGap rest.head?
  | none => false

/-! ## Scanning -/

/-- A construct with a known length, or a single character of another kind. -/
def orElse (found : Option Nat) (kind : TokenKind) (extra : Nat) (other : TokenKind) :
    TokenKind × Nat :=
  match found with
  | some length => (kind, length + extra)
  | none => (other, 1)

/-- What a percent sign starts. -/
def percentAt : List Char → TokenKind × Nat
  | letter :: _ =>
    match TypeCode.ofLetter? letter with
    | some code => (.placeholder code, 2)
    | none => (.percent, 1)
  | [] => (.percent, 1)

/-- What an opening brace starts. -/
def braceAt : List Char → TokenKind × Nat
  | letter :: '\x7d' :: _ =>
    match TypeCode.ofLetter? letter with
    | some code => (.columnMark code, 3)
    | none => (.openBrace, 1)
  | _ => (.openBrace, 1)

/-- The kind and the length of the token that starts with a character, given the
character before it and those after it. -/
def tokenAt (previous : Option Char) (character : Char) (rest : List Char) : TokenKind × Nat :=
  if character = Text.singleQuote then orElse (closeLiteral? rest) .verbatim 1 .openLiteral
  else if character = Text.doubleQuote then orElse (closeAt? Text.doubleQuote rest) .verbatim 1 .plain
  else if character = '-' then
    match rest with
    | '-' :: line => (.verbatim, lineLength line + 2)
    | _ => (.plain, 1)
  else if character = '/' then
    match rest with
    | '*' :: comment => orElse (closeComment? comment) .verbatim 2 .plain
    | _ => (.plain, 1)
  else if character = '[' then orElse (closeAt? ']' rest) .identifier 1 .openIdentifier
  else if character = '%' then percentAt rest
  else if character = '\x7b' then braceAt rest
  else if character = '(' then (.openParenthesis, 1)
  else if character = ')' then (.closeParenthesis, 1)
  else if character = ',' then (.comma, 1)
  else if isSelect previous (character :: rest) then (.selectWord, 6)
  else (.plain, 1)

/-- The tokens of a template after `skip` characters of a token already found, given
the character before. -/
def scanFrom : Nat → Option Char → List Char → List Token
  | _, _, [] => []
  | skip + 1, _, character :: rest => scanFrom skip (some character) rest
  | 0, previous, character :: rest =>
    let (kind, length) := tokenAt previous character rest
    ⟨kind, (character :: rest).take length⟩ :: scanFrom (length - 1) (some character) rest

def scan (characters : List Char) : List Token := scanFrom 0 none characters

end Template
end SqlGateway
