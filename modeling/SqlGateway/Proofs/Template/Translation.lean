import Mathlib.Data.List.Forall2
import SqlGateway.Proofs.Template.Grammar
import SqlGateway.Proofs.Template.Memo

namespace SqlGateway

/-!
# What the compiler makes of a reading

The grammar says which readings a template has.  Here stands what a reading is worth: which of
its parts is refused first and with which message, and what text each part contributes.  Neither
needs tokens or offsets.

The scanner spells a reading.  Most tokens are parts of the reading; a word that starts a list
of columns is one token for several plain characters, and an unclosed quote may come after a
text that the scanner takes for a literal.  The first difference leaves no trace in the native
text, and the second none in the message.
-/

/-- Whether a name holds the closing quote of an engine that has no way to write it. -/
def Dialect.cannotQuote (dialect : Dialect) (name : List Char) : Bool :=
  dialect.quoteEscape.isNone && Text.occurs dialect.quoteEnd.toList name

/-- The quoted form of a name that can be quoted. -/
def Dialect.quotedName (dialect : Dialect) (name : List Char) : List Char :=
  dialect.quoteBegin.toList ++
    (match dialect.quoteEscape with
    | none => name
    | some escape =>
      Text.replace dialect.quoteEnd.toList (escape.toList ++ dialect.quoteEnd.toList) name) ++
    dialect.quoteEnd.toList

theorem Dialect.quoteChars?_eq (dialect : Dialect) (name : List Char) :
    dialect.quoteChars? name =
      if dialect.cannotQuote name then none else some (dialect.quotedName name) := by
  unfold quoteChars? cannotQuote quotedName
  cases dialect.quoteEscape with
  | none => simp
  | some escape => simp

namespace Template

/-! ## What a reading is worth -/

/-- Why a template is refused: it cannot be read, or it holds a name that cannot be quoted. -/
inductive Refusal where
  | syntaxError (message : String)
  | invalidName (message : String)
deriving DecidableEq, Repr

/-- Whether a fault reports a refusal of a template, wherever it says that the template is
wrong. -/
def Refusal.Describes (template : String) (fault : Fault) : Refusal → Prop
  | .syntaxError message =>
    exists offset : Nat, fault = .templateSyntax message (some template) (some offset)
  | .invalidName message => fault = .of .invalidParameter message

namespace Lexeme

/-- Why a part of a reading is refused inside `depth` parentheses, if it is. -/
def refusal? (dialect : Dialect) (depth : Nat) : Lexeme → Option Refusal
  | .plain character =>
    if character = Text.singleQuote then some (.syntaxError "Unterminated string literal")
    else if character = '[' then some (.syntaxError "Unterminated identifier bracket")
    else if character = '\x7b' then
      some (.syntaxError ("Invalid column type annotation; expected one of " ++
        "\x7bi\x7d, \x7bf\x7d, \x7bd\x7d, \x7bs\x7d, \x7bb\x7d"))
    else none
  | .construct (.columnMark _) =>
    if depth = 0 then none
    else some (.syntaxError "Column type annotation inside parentheses")
  | .construct (.identifier name) =>
    if '[' ∈ name ∧ dialect.quoteBegin = "[" then
      some (.syntaxError "Nested '[' in bracket-quoted identifier")
    else if dialect.cannotQuote name then
      some (.invalidName ("Identifier " ++ Text.quoted (String.ofList name) ++ " contains " ++
        Text.quoted dialect.quoteEnd ++ ", which cannot be quoted for " ++ dialect.name))
    else none
  | .construct _ => none

/-- How many parentheses are open after a part of a reading. -/
def depthAfter (depth : Nat) : Lexeme → Nat
  | .plain character =>
    if character = '(' then depth + 1 else if character = ')' then depth - 1 else depth
  | .construct _ => depth

/-- The kind of the parameter for which a part of a reading holds a place. -/
def placeholder? : Lexeme → Option TypeCode
  | .construct (.placeholder code) => some code
  | _ => none

/-- What a part of a reading contributes to the native text, if `ordinal` parameters stand
before it. -/
def image (dialect : Dialect) (style : ParameterStyle) (ordinal : Nat) : Lexeme → List Char
  | .plain character => style.literal [character]
  | .construct (.identifier name) => style.literal (dialect.quotedName name)
  | .construct (.placeholder _) => style.marker ordinal
  | .construct (.columnMark _) => []
  | .construct verbatim => style.literal verbatim.text

end Lexeme

/-- Why a reading is refused that starts inside `depth` parentheses: the first reason counts. -/
def firstRefusal? (dialect : Dialect) : Nat → List Lexeme → Option Refusal
  | _, [] => none
  | depth, lexeme :: rest =>
    match lexeme.refusal? dialect depth with
    | some refusal => some refusal
    | none => firstRefusal? dialect (lexeme.depthAfter depth) rest

/-- The kinds of the parameters of a reading, in order. -/
def placeholders (lexemes : List Lexeme) : List TypeCode :=
  lexemes.filterMap Lexeme.placeholder?

/-- The native text of a reading, with the parameters counted from `ordinal`. -/
def translate (dialect : Dialect) (style : ParameterStyle) : Nat → List Lexeme → List Char
  | _, [] => []
  | ordinal, lexeme :: rest =>
    let next := if lexeme.placeholder?.isSome then ordinal + 1 else ordinal
    lexeme.image dialect style ordinal ++ translate dialect style next rest

/-! ## Tokens that spell a reading -/

/-- The ways in which tokens stand for a reading. -/
inductive Spells : List Token → List Lexeme → Prop where
  | nil : Spells [] []
  | construct {tokens : List Token} {lexemes : List Lexeme} (construct : Construct)
      (later : Spells tokens lexemes) :
      Spells (⟨construct.kind, construct.text⟩ :: tokens) (.construct construct :: lexemes)
  | plain {tokens : List Token} {lexemes : List Lexeme} (character : Char)
      (later : Spells tokens lexemes) :
      Spells (⟨plainKind character, [character]⟩ :: tokens) (.plain character :: lexemes)
  /-- A word that starts a list of columns is one token. -/
  | word {tokens : List Token} {lexemes : List Lexeme} (letters : List Char)
      (inert : forall letter, letter ∈ letters -> plainKind letter = .plain)
      (later : Spells tokens lexemes) :
      Spells (⟨.selectWord, letters⟩ :: tokens) (letters.map .plain ++ lexemes)
  /-- The scanner takes the text up to the last pair of quotes for a literal. -/
  | unclosed (text : List Char) (tokens : List Token) (lexemes : List Lexeme) :
      Spells (⟨.verbatim, text⟩ :: ⟨.openLiteral, [Text.singleQuote]⟩ :: tokens)
        (.plain Text.singleQuote :: lexemes)

/-- The scanner passes over characters and remembers the last of them. -/
theorem scanFrom_skip_getLast (first : Char) (skipped rest : List Char) :
    scanFrom skipped.length (some first) (skipped ++ rest) =
      scanFrom 0 (first :: skipped).getLast? rest := by
  induction skipped generalizing first with
  | nil => rfl
  | cons character skipped inductionHypothesis =>
      rw [List.getLast?_cons_cons]
      exact inductionHypothesis character

/-- After a token the scanner goes on from its last character. -/
theorem scanFrom_token {kind : TokenKind} {character : Char} {previous : Option Char}
    (more rest : List Char)
    (taken : tokenAt previous character (more ++ rest) = (kind, more.length + 1)) :
    scanFrom 0 previous (character :: (more ++ rest)) =
      ⟨kind, character :: more⟩ :: scanFrom 0 (character :: more).getLast? rest := by
  rw [scanFrom, taken, ← scanFrom_skip_getLast]
  simp only [Nat.add_sub_cancel, List.take_succ_cons, List.take_left]

/-- A character that is a token of its own. -/
theorem scanFrom_single {kind : TokenKind} {character : Char} {previous : Option Char}
    {rest : List Char} (taken : tokenAt previous character rest = (kind, 1)) :
    scanFrom 0 previous (character :: rest) =
      ⟨kind, [character]⟩ :: scanFrom 0 (some character) rest :=
  scanFrom_token [] rest taken

/-- A word is taken if each of its letters is one of the spellings at its place. -/
theorem afterLetters?_eq_some_iff {letters : List (List Char)} {characters rest : List Char} :
    afterLetters? letters characters = some rest ↔
      exists word, characters = word ++ rest ∧
        List.Forall₂ (fun spellings letter => letter ∈ spellings) letters word := by
  induction letters generalizing characters with
  | nil =>
      constructor
      · intro found
        exact ⟨[], Option.some.inj found, .nil⟩
      · rintro ⟨word, rfl, ⟨⟩⟩
        rfl
  | cons spellings letters inductionHypothesis =>
      cases characters with
      | nil =>
          constructor
          · nofun
          · rintro ⟨word, same, ⟨⟩⟩
            cases same
      | cons character characters =>
          rw [afterLetters?]
          constructor
          · intro found
            split at found
            · rename_i spelled
              rcases inductionHypothesis.mp found with ⟨word, rfl, spelledLater⟩
              exact ⟨character :: word, rfl, .cons spelled spelledLater⟩
            · cases found
          · rintro ⟨_, same, ⟨⟩⟩
            rename_i letter word spelled spelledLater
            rcases List.cons.inj same with ⟨rfl, rfl⟩
            rw [if_pos spelled]
            exact inductionHypothesis.mpr ⟨word, rfl, spelledLater⟩

/-- The letters of the word that starts a list of columns are word characters and have no meaning
of their own. -/
theorem letter_of_spelled {word : List Char}
    (spelled : List.Forall₂ (fun spellings letter => letter ∈ spellings) selectLetters word) :
    forall letter, letter ∈ word ->
      letter ∉ openings ∧ plainKind letter = .plain ∧ Text.isWord letter = true := by
  have checked : (selectLetters.all fun spellings => spellings.all fun letter =>
      decide (letter ∉ openings ∧ plainKind letter = .plain ∧ Text.isWord letter = true)) = true :=
    rfl
  simp only [List.all_eq_true, decide_eq_true_eq] at checked
  intro letter member
  rcases List.mem_iff_getElem.mp member with ⟨place, bound, rfl⟩
  have within : place < selectLetters.length := spelled.length_eq ▸ bound
  exact checked _ (List.getElem_mem within) _ (spelled.get within bound)

theorem isSelect_sound {previous : Option Char} {characters : List Char}
    (starts : isSelect previous characters = true) :
    exists word rest, characters = word ++ rest ∧ word.length = 6 ∧
      forall letter, letter ∈ word -> letter ∉ openings ∧ plainKind letter = .plain := by
  unfold isSelect at starts
  split at starts
  · rename_i rest found
    rcases afterLetters?_eq_some_iff.mp found with ⟨word, same, spelled⟩
    refine ⟨word, rest, same, spelled.length_eq.symm, fun letter member => ?_⟩
    rcases letter_of_spelled spelled letter member with ⟨inert, plain, -⟩
    exact ⟨inert, plain⟩
  · cases starts

/-- Characters that start no construct are read one by one. -/
theorem Reading.of_append_plain {word rest : List Char} {lexemes : List Lexeme}
    (inert : forall letter, letter ∈ word -> letter ∉ openings)
    (reading : Reading (word ++ rest) lexemes) :
    exists later, lexemes = word.map .plain ++ later ∧ Reading rest later := by
  induction word generalizing lexemes with
  | nil => exact ⟨lexemes, rfl, reading⟩
  | cons letter word inductionHypothesis =>
      cases reading with
      | construct stands _ => exact absurd stands.mem_openings (inert letter List.mem_cons_self)
      | plain _ laterReading =>
          have others : forall other, other ∈ word -> other ∉ openings :=
            fun other member => inert other (List.mem_cons_of_mem _ member)
          rcases inductionHypothesis others laterReading with ⟨later, rfl, readingRest⟩
          exact ⟨later, rfl, readingRest⟩

/-- A construct is one token, and the scanner goes on after its last character. -/
theorem scanFrom_construct_append (construct : Construct) {rest : List Char}
    (ends : construct.EndsBefore rest) (previous : Option Char) :
    scanFrom 0 previous (construct.text ++ rest) =
      ⟨construct.kind, construct.text⟩ :: scanFrom 0 construct.text.getLast? rest := by
  have stands : construct.StandsAt (construct.text ++ rest) rest := ⟨rfl, ends⟩
  rcases List.exists_cons_of_ne_nil construct.text_ne_nil with ⟨first, more, text⟩
  rw [text, List.cons_append] at stands ⊢
  have taken := tokenAt_construct stands previous
  rw [text, List.length_cons] at taken
  exact scanFrom_token more rest taken

/-- After a literal that a pair of quotes closes, an unclosed quote follows. -/
theorem scanFrom_unclosed {content after : List Char} {previous : Option Char}
    (unclosed : closeLiteral? after = none)
    (taken : tokenAt previous Text.singleQuote
      (paired content ++ Text.singleQuote :: Text.singleQuote :: after) =
        (.verbatim, (paired content).length + 2)) :
    scanFrom 0 previous (Text.singleQuote ::
      (paired content ++ Text.singleQuote :: Text.singleQuote :: after)) =
        ⟨.verbatim, Text.singleQuote :: (paired content ++ [Text.singleQuote])⟩ ::
          ⟨.openLiteral, [Text.singleQuote]⟩ :: scanFrom 0 (some Text.singleQuote) after := by
  have split : paired content ++ Text.singleQuote :: Text.singleQuote :: after =
      (paired content ++ [Text.singleQuote]) ++ Text.singleQuote :: after := by
    rw [List.append_assoc]
    rfl
  have reach : (paired content).length + 2 =
      (paired content ++ [Text.singleQuote]).length + 1 := by
    rw [List.length_append]
    rfl
  rw [split, reach] at taken
  have opened (before : Option Char) :
      tokenAt before Text.singleQuote after = (.openLiteral, 1) := by
    rw [tokenAt_singleQuote, unclosed]
    rfl
  rw [split, scanFrom_token _ _ taken, scanFrom_single (opened _)]

/-- How the scanner goes through a text that has a reading, coming from a character: the tokens
that it makes of the parts of the reading. -/
inductive Scanned : Option Char → List Char → List Lexeme → List Token → Prop where
  | nil (previous : Option Char) : Scanned previous [] [] []
  | construct {previous : Option Char} {rest : List Char} {lexemes : List Lexeme}
      {tokens : List Token} (construct : Construct)
      (later : Scanned construct.text.getLast? rest lexemes tokens) :
      Scanned previous (construct.text ++ rest) (.construct construct :: lexemes)
        (⟨construct.kind, construct.text⟩ :: tokens)
  | plain {previous : Option Char} {rest : List Char} {lexemes : List Lexeme}
      {tokens : List Token} (character : Char)
      (taken : tokenAt previous character rest = (plainKind character, 1))
      (later : Scanned (some character) rest lexemes tokens) :
      Scanned previous (character :: rest) (.plain character :: lexemes)
        (⟨plainKind character, [character]⟩ :: tokens)
  /-- A word that starts a list of columns is one token. -/
  | word {previous : Option Char} {rest : List Char} {lexemes : List Lexeme}
      {tokens : List Token} (letters : List Char) (sixLetters : letters.length = 6)
      (inert : forall letter, letter ∈ letters -> plainKind letter = .plain)
      (starts : isSelect previous (letters ++ rest) = true)
      (later : Scanned letters.getLast? rest lexemes tokens) :
      Scanned previous (letters ++ rest) (letters.map .plain ++ lexemes)
        (⟨.selectWord, letters⟩ :: tokens)
  /-- The scanner takes the text up to the last pair of quotes for a literal. -/
  | unclosed (previous : Option Char) (content after : List Char) (lexemes : List Lexeme)
      (tokens : List Token) (unclosed : closeLiteral? after = none) :
      Scanned previous
        (Text.singleQuote :: (paired content ++ Text.singleQuote :: Text.singleQuote :: after))
        (.plain Text.singleQuote :: lexemes)
        (⟨.verbatim, Text.singleQuote :: (paired content ++ [Text.singleQuote])⟩ ::
          ⟨.openLiteral, [Text.singleQuote]⟩ :: tokens)

theorem Reading.scanned_of_length_le (bound : Nat) (characters : List Char)
    (short : characters.length ≤ bound) {lexemes : List Lexeme}
    (reading : Reading characters lexemes) (previous : Option Char) :
    Scanned previous characters lexemes (scanFrom 0 previous characters) := by
  -- A word takes several characters, so the induction is on the length and not on the reading.
  induction bound generalizing characters lexemes previous with
  | zero =>
      rw [List.length_eq_zero_iff.mp (Nat.le_zero.mp short)] at reading ⊢
      cases reading with
      | nil => exact .nil previous
      | construct stands _ => exact absurd stands Construct.not_standsAt_nil
  | succ bound inductionHypothesis =>
      have within {rest : List Char} (shorter : rest.length < characters.length) :
          rest.length ≤ bound :=
        Nat.le_of_lt_succ (Nat.lt_of_lt_of_le shorter short)
      cases reading with
      | nil => exact .nil previous
      | @construct construct _ rest lexemes stands later =>
          have shorter := stands.rest_shorter
          rcases stands with ⟨rfl, ends⟩
          rw [scanFrom_construct_append construct ends]
          exact .construct construct (inductionHypothesis rest (within shorter) later _)
      | @plain character tail lexemes alone later =>
          rcases tokenAt_alone alone previous with taken | ⟨inert, word, taken⟩ |
            ⟨quote, content, after, same, unclosed, taken⟩
          · rw [scanFrom_single taken]
            exact .plain character taken
              (inductionHypothesis tail (within (Nat.lt_succ_self _)) later _)
          · rcases isSelect_sound word with ⟨letters, rest, same, sixLetters, plain⟩
            have shorter : rest.length < (character :: tail).length := by
              rw [same, List.length_append]
              omega
            have whole : Reading (letters ++ rest) (.plain character :: lexemes) :=
              same ▸ .plain alone later
            rcases whole.of_append_plain fun letter member => (plain letter member).1 with
              ⟨laterLexemes, spelled, readingRest⟩
            have laterScanned := inductionHypothesis rest (within shorter) readingRest
            cases letters with
            | nil => cases sixLetters
            | cons letter more =>
                rw [List.cons_append] at same
                rcases List.cons.inj same with ⟨rfl, rfl⟩
                rw [← sixLetters] at taken
                rw [scanFrom_token more rest taken, spelled]
                exact .word (character :: more) sixLetters
                  (fun letter member => (plain letter member).2) word (laterScanned _)
          · subst quote same
            rw [scanFrom_unclosed unclosed taken]
            exact .unclosed previous content after lexemes _ unclosed

theorem Reading.scanned {characters : List Char} {lexemes : List Lexeme}
    (reading : Reading characters lexemes) (previous : Option Char) :
    Scanned previous characters lexemes (scanFrom 0 previous characters) :=
  scanned_of_length_le characters.length characters (Nat.le_refl _) reading previous

theorem Scanned.spells {previous : Option Char} {characters : List Char} {lexemes : List Lexeme}
    {tokens : List Token} (scanned : Scanned previous characters lexemes tokens) :
    Spells tokens lexemes := by
  induction scanned with
  | nil previous => exact .nil
  | construct construct later inductionHypothesis => exact .construct construct inductionHypothesis
  | plain character taken later inductionHypothesis => exact .plain character inductionHypothesis
  | word letters sixLetters inert starts later inductionHypothesis =>
      exact .word letters inert inductionHypothesis
  | unclosed previous content after lexemes tokens unclosed => exact .unclosed _ _ _

/-- The tokens of a text spell its reading. -/
theorem Reading.spells {characters : List Char} {lexemes : List Lexeme}
    (reading : Reading characters lexemes) : Spells (scan characters) lexemes :=
  (reading.scanned none).spells

/-! ## Refusals -/

/-- The refusal that goes with a mistake. -/
def Refusal.ofMistake (dialect : Dialect) : Mistake → Refusal
  | .openLiteral => .syntaxError "Unterminated string literal"
  | .openIdentifier => .syntaxError "Unterminated identifier bracket"
  | .nestedBracket => .syntaxError "Nested '[' in bracket-quoted identifier"
  | .unquotable name =>
    .invalidName ("Identifier " ++ Text.quoted (String.ofList name) ++ " contains " ++
      Text.quoted dialect.quoteEnd ++ ", which cannot be quoted for " ++ dialect.name)
  | .openBrace =>
    .syntaxError ("Invalid column type annotation; expected one of " ++
      "\x7bi\x7d, \x7bf\x7d, \x7bd\x7d, \x7bs\x7d, \x7bb\x7d")
  | .markInParentheses => .syntaxError "Column type annotation inside parentheses"

theorem Refusal.describes_fault (dialect : Dialect) (template : String) (offset : Nat)
    (mistake : Mistake) :
    (ofMistake dialect mistake).Describes template
      (mistake.fault dialect template.toList offset) := by
  have located (message : String) : Mistake.fault.located template.toList offset message =
      .templateSyntax message (some template) (some offset) := by
    rw [Mistake.fault.located, String.ofList_toList]
  cases mistake with
  | unquotable name => rfl
  | _ => exact ⟨offset, located _⟩

theorem mistake?_construct (dialect : Dialect) (depth : Nat) (construct : Construct) :
    (Token.mistake? dialect depth ⟨construct.kind, construct.text⟩).map
      (Refusal.ofMistake dialect) = (Lexeme.construct construct).refusal? dialect depth := by
  cases construct with
  | identifier name =>
      have named : Token.name ⟨.identifier, (Construct.identifier name).text⟩ = name := by
        simp [Token.name, Construct.text]
      simp only [Token.mistake?, Construct.kind, named, Lexeme.refusal?, Dialect.quoteChars?_eq]
      by_cases nested : '[' ∈ name ∧ dialect.quoteBegin = "["
      · rw [if_pos nested, if_pos nested]
        rfl
      · rw [if_neg nested, if_neg nested]
        cases dialect.cannotQuote name <;> rfl
  | columnMark code =>
      simp only [Token.mistake?, Construct.kind, Lexeme.refusal?]
      split <;> rfl
  | _ => rfl

theorem mistake?_plain (dialect : Dialect) (depth : Nat) (character : Char) :
    (Token.mistake? dialect depth ⟨plainKind character, [character]⟩).map
      (Refusal.ofMistake dialect) = (Lexeme.plain character).refusal? dialect depth := by
  by_cases singleQuote : character = Text.singleQuote
  · subst singleQuote
    rfl
  by_cases bracket : character = '['
  · subst bracket
    rfl
  by_cases brace : character = '\x7b'
  · subst brace
    rfl
  have accepted : (Lexeme.plain character).refusal? dialect depth = none := by
    simp only [Lexeme.refusal?, singleQuote, bracket, brace, if_false]
  rw [accepted]
  unfold plainKind
  rw [if_neg singleQuote, if_neg bracket, if_neg brace]
  repeat' split
  all_goals rfl

theorem depth_after_construct (place : Place) (construct : Construct) :
    (place.after ⟨construct.kind, construct.text⟩).depth = place.depth := by
  cases construct <;> rfl

theorem depth_after_plain (place : Place) (character : Char) :
    (place.after ⟨plainKind character, [character]⟩).depth =
      (Lexeme.plain character).depthAfter place.depth := by
  by_cases openParenthesis : character = '('
  · subst openParenthesis
    rfl
  by_cases closeParenthesis : character = ')'
  · subst closeParenthesis
    rfl
  have same : (Lexeme.plain character).depthAfter place.depth = place.depth := by
    simp only [Lexeme.depthAfter, openParenthesis, closeParenthesis, if_false]
  rw [same]
  unfold plainKind
  rw [if_neg openParenthesis, if_neg closeParenthesis]
  repeat' split
  all_goals rfl

/-- The first refusal is in the first part of a reading, or in the second part at the depth that the
first one leaves. -/
theorem firstRefusal?_append (dialect : Dialect) (depth : Nat) (first second : List Lexeme) :
    firstRefusal? dialect depth (first ++ second) =
      (firstRefusal? dialect depth first).or
        (firstRefusal? dialect (first.foldl Lexeme.depthAfter depth) second) := by
  induction first generalizing depth with
  | nil => rfl
  | cons lexeme first inductionHypothesis =>
      rw [List.cons_append, firstRefusal?, firstRefusal?, List.foldl_cons]
      cases lexeme.refusal? dialect depth with
      | some refusal => rfl
      | none => exact inductionHypothesis _

/-- Characters without a meaning are not refused and open no parentheses. -/
theorem firstRefusal?_inert {dialect : Dialect} {depth : Nat} {word : List Char}
    (inert : forall letter, letter ∈ word -> plainKind letter = .plain) (lexemes : List Lexeme) :
    firstRefusal? dialect depth (word.map .plain ++ lexemes) =
      firstRefusal? dialect depth lexemes := by
  induction word with
  | nil => rfl
  | cons letter word inductionHypothesis =>
      have plain := inert letter List.mem_cons_self
      have accepted := mistake?_plain dialect depth letter
      have sameDepth := depth_after_plain ⟨0, depth, 0⟩ letter
      rw [plain] at accepted sameDepth
      have others : forall other, other ∈ word -> plainKind other = .plain :=
        fun other member => inert other (List.mem_cons_of_mem _ member)
      rw [List.map_cons, List.cons_append, firstRefusal?, ← accepted, ← sameDepth]
      exact inductionHypothesis others

/-- A token that is judged as a part of the reading is, and opens as many parentheses, can be
put before tokens that are judged as the rest of the reading is. -/
theorem firstMistake?_cons {dialect : Dialect} {place : Place} {token : Token} {lexeme : Lexeme}
    {tokens : List Token} {lexemes : List Lexeme}
    (judged : (token.mistake? dialect place.depth).map (Refusal.ofMistake dialect) =
      lexeme.refusal? dialect place.depth)
    (sameDepth : (place.after token).depth = lexeme.depthAfter place.depth)
    (later : (firstMistake? dialect (place.after token) tokens).map
      (fun found => Refusal.ofMistake dialect found.1) =
        firstRefusal? dialect (place.after token).depth lexemes) :
    (firstMistake? dialect place (token :: tokens)).map
      (fun found => Refusal.ofMistake dialect found.1) =
        firstRefusal? dialect place.depth (lexeme :: lexemes) := by
  rw [firstMistake?, firstRefusal?, ← judged, ← sameDepth]
  cases token.mistake? dialect place.depth with
  | none => exact later
  | some mistake => rfl

/-- The first mistake among the tokens is the first refusal of the reading. -/
theorem Spells.refused {tokens : List Token} {lexemes : List Lexeme}
    (spells : Spells tokens lexemes) (dialect : Dialect) (place : Place) :
    (firstMistake? dialect place tokens).map (fun found => Refusal.ofMistake dialect found.1) =
      firstRefusal? dialect place.depth lexemes := by
  induction spells generalizing place with
  | nil => rfl
  | construct construct later inductionHypothesis =>
      exact firstMistake?_cons (mistake?_construct dialect place.depth construct)
        (depth_after_construct place construct) (inductionHypothesis _)
  | plain character later inductionHypothesis =>
      exact firstMistake?_cons (mistake?_plain dialect place.depth character)
        (depth_after_plain place character) (inductionHypothesis _)
  | word letters inert later inductionHypothesis =>
      rw [firstRefusal?_inert inert]
      exact inductionHypothesis _
  | unclosed text tokens lexemes => rfl

/-! ## Native text -/

/-- Plain characters are written as literal text. -/
theorem translate_plain (dialect : Dialect) (style : ParameterStyle) (ordinal : Nat)
    (word : List Char) (lexemes : List Lexeme) :
    translate dialect style ordinal (word.map .plain ++ lexemes) =
      style.literal word ++ translate dialect style ordinal lexemes := by
  induction word with
  | nil => cases style <;> rfl
  | cons letter word inductionHypothesis =>
      have split : letter :: word = [letter] ++ word := rfl
      rw [split, ParameterStyle.literal_append, List.append_assoc, ← inductionHypothesis]
      rfl

/-- Words without percent signs are written as they are. -/
theorem translate_word (dialect : Dialect) (style : ParameterStyle) (ordinal : Nat)
    {word : List Char} (free : '%' ∉ word) (lexemes : List Lexeme) :
    translate dialect style ordinal (word.map .plain ++ lexemes) =
      word ++ translate dialect style ordinal lexemes := by
  rw [translate_plain, style.literal_eq_self free]

theorem placeholders_plain (word : List Char) (lexemes : List Lexeme) :
    placeholders (word.map .plain ++ lexemes) = placeholders lexemes := by
  induction word with
  | nil => rfl
  | cons letter word inductionHypothesis => exact inductionHypothesis

/-- A name that is not refused can be quoted. -/
theorem cannotQuote_of_accepted {dialect : Dialect} {depth : Nat} {name : List Char}
    (accepted : (Lexeme.construct (.identifier name)).refusal? dialect depth = none) :
    dialect.cannotQuote name = false := by
  cases refused : dialect.cannotQuote name with
  | false => rfl
  | true =>
      simp only [Lexeme.refusal?, refused, if_true] at accepted
      split at accepted <;> cases accepted

/-- A name that can be quoted is written as the engine quotes it. -/
theorem image_identifier {dialect : Dialect} {name : List Char}
    (quotable : dialect.cannotQuote name = false) :
    Token.image dialect ⟨.identifier, (Construct.identifier name).text⟩ =
      [.literal (dialect.quotedName name)] := by
  have named : Token.name ⟨.identifier, (Construct.identifier name).text⟩ = name := by
    simp [Token.name, Construct.text]
  simp only [Token.image, named, Dialect.quoteChars?_eq, quotable]
  rfl

/-- An accepted construct contributes one and the same piece as a token and as a part of the
reading. -/
theorem render_construct {dialect : Dialect} {depth : Nat} {construct : Construct}
    (accepted : (Lexeme.construct construct).refusal? dialect depth = none)
    (style : ParameterStyle) (ordinal : Nat) (later : List Piece) :
    render style ordinal
        (Token.image dialect ⟨construct.kind, construct.text⟩ ++ later) =
      (Lexeme.construct construct).image dialect style ordinal ++
        render style
          (if (Lexeme.construct construct).placeholder?.isSome then ordinal + 1 else ordinal)
          later := by
  cases construct with
  | identifier name =>
      change render style ordinal (Token.image dialect ⟨.identifier, _⟩ ++ later) = _
      rw [image_identifier (cannotQuote_of_accepted accepted)]
      rfl
  | _ => rfl

theorem parameters_construct (dialect : Dialect) (construct : Construct) (tokens : List Token)
    (lexemes : List Lexeme)
    (later : parameters (pieces dialect tokens) = placeholders lexemes) :
    parameters (pieces dialect (⟨construct.kind, construct.text⟩ :: tokens)) =
      placeholders (.construct construct :: lexemes) := by
  cases construct with
  | placeholder code => exact congrArg (code :: ·) later
  | _ => exact later

/-- A single token of plain characters contributes them as literal text. -/
theorem image_plain (dialect : Dialect) {character : Char} :
    Token.image dialect ⟨plainKind character, [character]⟩ = [.literal [character]] := by
  unfold plainKind
  repeat' split
  all_goals rfl

/-- A reading that is not refused is translated as the tokens that spell it are. -/
theorem Spells.translated {tokens : List Token} {lexemes : List Lexeme}
    (spells : Spells tokens lexemes) {dialect : Dialect} {depth : Nat}
    (accepted : firstRefusal? dialect depth lexemes = none) (style : ParameterStyle)
    (ordinal : Nat) :
    render style ordinal (pieces dialect tokens) = translate dialect style ordinal lexemes ∧
    parameters (pieces dialect tokens) = placeholders lexemes := by
  induction spells generalizing depth ordinal with
  | nil => exact ⟨rfl, rfl⟩
  | construct construct later inductionHypothesis =>
      rw [firstRefusal?] at accepted
      split at accepted
      · cases accepted
      · rename_i acceptedFirst
        obtain ⟨translated, sameParameters⟩ := inductionHypothesis accepted
          (if (Lexeme.construct construct).placeholder?.isSome then ordinal + 1 else ordinal)
        refine ⟨?_, parameters_construct dialect construct _ _ sameParameters⟩
        rw [pieces, List.flatMap_cons, render_construct acceptedFirst, ← pieces, translated]
        rfl
  | plain character later inductionHypothesis =>
      rw [firstRefusal?] at accepted
      split at accepted
      · cases accepted
      · rcases inductionHypothesis accepted ordinal with ⟨translated, sameParameters⟩
        have image : forall tokens,
            pieces dialect (⟨plainKind character, [character]⟩ :: tokens) =
              .literal [character] :: pieces dialect tokens := by
          intro tokens
          rw [pieces, List.flatMap_cons, image_plain, ← pieces]
          rfl
        rw [image]
        exact ⟨congrArg (style.literal [character] ++ ·) translated, sameParameters⟩
  | word letters inert later inductionHypothesis =>
      rw [firstRefusal?_inert inert] at accepted
      rcases inductionHypothesis accepted ordinal with ⟨translated, sameParameters⟩
      rw [translate_plain, placeholders_plain]
      exact ⟨congrArg (style.literal letters ++ ·) translated, sameParameters⟩
  | unclosed text tokens lexemes => cases accepted

/-! ## Compilation -/

/-- What the compiler makes of a template with a reading. -/
theorem parse_of_reading {template : String} {lexemes : List Lexeme}
    (reading : Reading template.toList lexemes) (dialect : Dialect) (style : ParameterStyle) :
    match firstRefusal? dialect 0 lexemes with
    | some refusal => exists fault,
        parse template dialect style = .error fault ∧ refusal.Describes template fault
    | none => exists columnTypes, parse template dialect style =
        .ok ⟨String.ofList (translate dialect style 0 lexemes), placeholders lexemes,
          columnTypes⟩ := by
  have spells := reading.spells
  have refused := spells.refused dialect .start
  change _ = firstRefusal? dialect 0 lexemes at refused
  rw [← refused]
  cases found : firstMistake? dialect .start (scan template.toList) with
  | some mistake =>
      refine ⟨_, ?_, Refusal.describes_fault dialect template mistake.2 mistake.1⟩
      simp only [parse, found]
  | none =>
      have accepted : firstRefusal? dialect 0 lexemes = none := by
        rw [← refused, found]
        rfl
      rcases spells.translated accepted style 0 with ⟨translated, sameParameters⟩
      refine ⟨columnTypes (columnMarks .start (scan template.toList)), ?_⟩
      simp only [parse, found, translated, sameParameters]

/-- Every template has one reading, and the compiler makes of it what the reading is worth: if
a part of the reading is refused, the fault reports the first such part; otherwise the native
text is what the parts contribute in order, and the parameters are listed in order too. -/
theorem compile_translates (template : String) :
    exists lexemes : List Lexeme,
      (forall other, Reading template.toList other <-> other = lexemes) ∧
      forall (capacity : Nat) (dialect : Dialect) (style : Option ParameterStyle),
        match firstRefusal? dialect 0 lexemes with
        | some refusal => exists fault,
            ((Cache.ofCapacity capacity).compile template dialect style).1 = .error fault ∧
            refusal.Describes template fault
        | none => exists columnTypes,
            ((Cache.ofCapacity capacity).compile template dialect style).1 =
              .ok ⟨String.ofList (translate dialect (style.getD dialect.style) 0 lexemes),
                placeholders lexemes, columnTypes⟩ := by
  rcases Reading.total template.toList with ⟨lexemes, reading⟩
  refine ⟨lexemes, fun other => ⟨fun found => found.unique reading, fun same => ?_⟩, ?_⟩
  · rw [same]
    exact reading
  · intro capacity dialect style
    rw [Cache.compile_ofCapacity]
    exact parse_of_reading reading dialect (style.getD dialect.style)

end Template
end SqlGateway
