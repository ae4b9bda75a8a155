import SqlGateway.Dialect
import SqlGateway.Template.Token

namespace SqlGateway
namespace Template

/-!
From tokens to a native query.  Each token has an image: literal text, a place for
a parameter, or nothing; the images in order make up the native text in any
parameter style.  A token may be a mistake, and the first mistake in the template
is the one that is reported.

The declared kind of a column belongs to the column whose place is the count of
commas outside parentheses since the last list of columns began.
-/

/-- A query in a native dialect. -/
structure ParsedQuery where
  /-- The native text. -/
  sql : String
  /-- The kinds of the parameters, in order. -/
  placeholders : List TypeCode
  /-- The declared kinds of the result columns, up to the last declared one. -/
  columnTypes : List (Option TypeCode)
deriving DecidableEq, Repr, Inhabited

namespace ParsedQuery

def parameterCount (query : ParsedQuery) : Nat := query.placeholders.length

/-- The declared kind of a column, if there is one. -/
def columnType (query : ParsedQuery) (index : Int) : Option TypeCode :=
  if 0 ≤ index then (query.columnTypes[index.toNat]?).join else none

end ParsedQuery

/-- A part of a native text: literal text, or the place of a parameter. -/
inductive Piece where
  | literal (characters : List Char)
  | parameter (code : TypeCode)
deriving DecidableEq, Repr, Inhabited

/-- What can be wrong with a token. -/
inductive Mistake where
  /-- A string literal that is not closed. -/
  | openLiteral
  /-- A bracket that is not closed. -/
  | openIdentifier
  /-- A bracket inside a name, in a dialect that quotes with brackets. -/
  | nestedBracket
  /-- A name that the dialect has no quoted form for. -/
  | unquotable (name : List Char)
  /-- A brace that starts no column mark. -/
  | openBrace
  /-- The declared kind of a column inside parentheses. -/
  | markInParentheses
deriving DecidableEq, Repr, Inhabited

def Mistake.fault (dialect : Dialect) (template : List Char) (offset : Nat) : Mistake → Fault
  | .openLiteral => located "Unterminated string literal"
  | .openIdentifier => located "Unterminated identifier bracket"
  | .nestedBracket => located "Nested '[' in bracket-quoted identifier"
  | .unquotable name => dialect.unquotable (String.ofList name)
  | .openBrace =>
    located ("Invalid column type annotation; expected one of \x7bi\x7d, \x7bf\x7d, \x7bd\x7d, " ++
      "\x7bs\x7d, \x7bb\x7d")
  | .markInParentheses => located "Column type annotation inside parentheses"
where
  located (message : String) : Fault :=
    .templateSyntax message (some (String.ofList template)) (some offset)

/-- Where a token stands: how many characters come before it, how many parentheses
are open, and which column of the list it belongs to. -/
structure Place where
  offset : Nat
  depth : Nat
  column : Nat
deriving DecidableEq, Repr, Inhabited

namespace Place

def start : Place := ⟨0, 0, 0⟩

/-- The place after a token.  A closing parenthesis without an opening one is
ignored; commas and the word that starts a list of columns count only outside
parentheses. -/
def after (place : Place) (token : Token) : Place :=
  let offset := place.offset + token.text.length
  match token.kind with
  | .openParenthesis => ⟨offset, place.depth + 1, place.column⟩
  | .closeParenthesis => ⟨offset, place.depth - 1, place.column⟩
  | .comma => ⟨offset, place.depth, if place.depth = 0 then place.column + 1 else place.column⟩
  | .selectWord => ⟨offset, place.depth, if place.depth = 0 then 0 else place.column⟩
  | _ => ⟨offset, place.depth, place.column⟩

end Place

namespace Token

/-- The name between the brackets of an identifier token. -/
def name (token : Token) : List Char := token.text.tail.dropLast

/-- What is wrong with a token in a dialect at a depth of parentheses. -/
def mistake? (dialect : Dialect) (depth : Nat) (token : Token) : Option Mistake :=
  match token.kind with
  | .openLiteral => some .openLiteral
  | .openIdentifier => some .openIdentifier
  | .openBrace => some .openBrace
  | .columnMark _ => if depth = 0 then none else some .markInParentheses
  | .identifier =>
    if '[' ∈ token.name ∧ dialect.quoteBegin = "[" then some .nestedBracket
    else if (dialect.quoteChars? token.name).isNone then some (.unquotable token.name)
    else none
  | _ => none

/-- What a token contributes to the native text. -/
def image (dialect : Dialect) (token : Token) : List Piece :=
  match token.kind with
  | .identifier => [.literal ((dialect.quoteChars? token.name).getD [])]
  | .placeholder code => [.parameter code]
  | .columnMark _ => []
  | _ => [.literal token.text]

/-- The declared kind of a column, if the token declares one at its place. -/
def columnMark? (place : Place) (token : Token) : Option (Nat × TypeCode) :=
  match token.kind with
  | .columnMark code => some (place.column, code)
  | _ => none

end Token

/-- The first mistake among tokens that start at a place, with its offset. -/
def firstMistake? (dialect : Dialect) : Place → List Token → Option (Mistake × Nat)
  | _, [] => none
  | place, token :: rest =>
    match token.mistake? dialect place.depth with
    | some mistake => some (mistake, place.offset)
    | none => firstMistake? dialect (place.after token) rest

/-- The pieces of the native text. -/
def pieces (dialect : Dialect) (tokens : List Token) : List Piece :=
  tokens.flatMap (Token.image dialect)

/-- The declared kinds of columns among tokens that start at a place, in order. -/
def columnMarks : Place → List Token → List (Nat × TypeCode)
  | _, [] => []
  | place, token :: rest =>
    (token.columnMark? place).toList ++ columnMarks (place.after token) rest

/-- The kinds of the parameters of pieces. -/
def parameters (pieces : List Piece) : List TypeCode :=
  pieces.filterMap fun piece =>
    match piece with
    | .parameter code => some code
    | .literal _ => none

/-- The native text of pieces in a style, with the parameters counted from `ordinal`. -/
def render (style : ParameterStyle) : Nat → List Piece → List Char
  | _, [] => []
  | ordinal, .literal characters :: rest => style.literal characters ++ render style ordinal rest
  | ordinal, .parameter _ :: rest => style.marker ordinal ++ render style (ordinal + 1) rest

/-- The kind declared last for a column. -/
def declared (marks : List (Nat × TypeCode)) (column : Nat) : Option TypeCode :=
  marks.reverse.lookup column

/-- One more than the greatest column with a declared kind. -/
def width (marks : List (Nat × TypeCode)) : Nat :=
  marks.foldl (fun widest mark => max widest (mark.1 + 1)) 0

def columnTypes (marks : List (Nat × TypeCode)) : List (Option TypeCode) :=
  (List.range (width marks)).map (declared marks)

/-- The query of a template in a dialect and a parameter style. -/
def parse (template : String) (dialect : Dialect) (style : ParameterStyle) :
    Except Fault ParsedQuery :=
  let tokens := scan template.toList
  match firstMistake? dialect .start tokens with
  | some (mistake, offset) => .error (mistake.fault dialect template.toList offset)
  | none =>
    let pieces := pieces dialect tokens
    .ok {
      sql := String.ofList (render style 0 pieces)
      placeholders := parameters pieces
      columnTypes := columnTypes (columnMarks .start tokens) }

end Template

export Template (ParsedQuery)

end SqlGateway
