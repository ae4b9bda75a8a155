import SqlGateway.Template.Token

namespace SqlGateway
namespace Template

/-!
# The grammar of templates

A template is a sequence of constructs and plain characters, read from left to right.  Where a
construct stands it is read, and where none stands one character is.  The relation
`Reading` says just this; it knows nothing of tokens, of lengths or of the order in which a
scanner tries things.

A construct need not look alike to the scanner: the scanner counts characters up to an end,
and after a literal that is never closed it takes up again at the last quote that could have
closed it.  The lemmas here say how far the scanner goes where a construct stands, and what it
does where none stands.  From the first follows that a template has one reading only.
-/

/-! ## Constructs -/

/-- What a template may hold besides plain characters. -/
inductive Construct where
  /-- A text between single quotes; a quote in it is written twice. -/
  | literal (content : List Char)
  /-- A name between double quotes. -/
  | quotedName (content : List Char)
  /-- Two dashes and the rest of the line. -/
  | lineComment (content : List Char)
  | blockComment (content : List Char)
  /-- A name between brackets. -/
  | identifier (name : List Char)
  | placeholder (code : TypeCode)
  /-- The declared kind of a result column. -/
  | columnMark (code : TypeCode)
deriving DecidableEq, Repr

/-- Text in which every single quote is written twice. -/
def paired (content : List Char) : List Char :=
  content.flatMap fun character =>
    if character = Text.singleQuote then [character, character] else [character]

namespace Construct

def text : Construct → List Char
  | .literal content => Text.singleQuote :: (paired content ++ [Text.singleQuote])
  | .quotedName content => Text.doubleQuote :: (content ++ [Text.doubleQuote])
  | .lineComment content => '-' :: '-' :: content
  | .blockComment content => '/' :: '*' :: (content ++ ['*', '/'])
  | .identifier name => '[' :: (name ++ [']'])
  | .placeholder code => ['%', code.letter]
  | .columnMark code => ['\x7b', code.letter, '\x7d']

/-- Whether a construct ends where it should, if `rest` follows: a literal ends at the first
quote that no quote follows, a line comment at the end of the line, and every other construct
at the first place where it can. -/
def EndsBefore (construct : Construct) (rest : List Char) : Prop :=
  match construct with
  | .literal _ => rest.head? ≠ some Text.singleQuote
  | .quotedName content => Text.doubleQuote ∉ content
  | .lineComment content =>
      (forall character, character ∈ content -> character ≠ '\r' ∧ character ≠ '\n') ∧
      (forall character, rest.head? = some character -> character = '\r' ∨ character = '\n')
  | .blockComment content => ¬ ['*', '/'] <:+: content ++ ['*']
  | .identifier name => ']' ∉ name
  | .placeholder _ => True
  | .columnMark _ => True

/-- Whether a construct stands at the start of a text, with `rest` after it. -/
def StandsAt (construct : Construct) (characters rest : List Char) : Prop :=
  characters = construct.text ++ rest ∧ construct.EndsBefore rest

/-- What a construct is to the scanner. -/
def kind : Construct → TokenKind
  | .literal _ => .verbatim
  | .quotedName _ => .verbatim
  | .lineComment _ => .verbatim
  | .blockComment _ => .verbatim
  | .identifier _ => .identifier
  | .placeholder code => .placeholder code
  | .columnMark code => .columnMark code

theorem text_ne_nil (construct : Construct) : construct.text ≠ [] := by
  cases construct <;> exact List.cons_ne_nil _ _

theorem StandsAt.rest_shorter {construct : Construct} {characters rest : List Char}
    (stands : construct.StandsAt characters rest) : rest.length < characters.length := by
  have nonempty := List.length_pos_iff.mpr construct.text_ne_nil
  rw [stands.1, List.length_append]
  omega

theorem not_standsAt_nil {construct : Construct} {rest : List Char} :
    ¬ construct.StandsAt [] rest :=
  fun stands => Nat.not_lt_zero _ stands.rest_shorter

end Construct

/-- No construct stands at a character. -/
def StandsAlone (character : Char) (tail : List Char) : Prop :=
  forall construct rest, ¬ Construct.StandsAt construct (character :: tail) rest

/-- A part of a reading. -/
inductive Lexeme where
  | construct (construct : Construct)
  | plain (character : Char)
deriving DecidableEq, Repr

/-- The readings of a text: constructs where they stand, and plain characters elsewhere. -/
inductive Reading : List Char → List Lexeme → Prop where
  | nil : Reading [] []
  | construct {construct : Construct} {characters rest : List Char} {lexemes : List Lexeme}
      (stands : construct.StandsAt characters rest) (later : Reading rest lexemes) :
      Reading characters (.construct construct :: lexemes)
  | plain {character : Char} {rest : List Char} {lexemes : List Lexeme}
      (alone : StandsAlone character rest)
      (later : Reading rest lexemes) : Reading (character :: rest) (.plain character :: lexemes)

/-! ## Ends of constructs -/

theorem closeAt?_complete {stop : Char} {content : List Char} (absent : stop ∉ content)
    (rest : List Char) : closeAt? stop (content ++ stop :: rest) = some (content.length + 1) := by
  induction content with
  | nil => simp [closeAt?]
  | cons character content inductionHypothesis =>
      rw [List.mem_cons, not_or] at absent
      have passed : character ≠ stop := fun same => absent.1 same.symm
      rw [List.cons_append, closeAt?, if_neg passed, inductionHypothesis absent.2]
      rfl

theorem closeAt?_sound {stop : Char} {characters : List Char} {length : Nat}
    (found : closeAt? stop characters = some length) :
    exists content rest, characters = content ++ stop :: rest ∧ stop ∉ content := by
  induction characters generalizing length with
  | nil => cases found
  | cons character characters inductionHypothesis =>
      rw [closeAt?] at found
      by_cases closes : character = stop
      · exact ⟨[], characters, by rw [closes]; rfl, List.not_mem_nil⟩
      · rw [if_neg closes] at found
        rcases Option.map_eq_some_iff.mp found with ⟨_, foundLater, -⟩
        rcases inductionHypothesis foundLater with ⟨content, rest, same, absent⟩
        refine ⟨character :: content, rest, by rw [same]; rfl, ?_⟩
        rw [List.mem_cons, not_or]
        exact ⟨fun same => closes same.symm, absent⟩

theorem closeComment?_complete {content : List Char}
    (unclosed : ¬ ['*', '/'] <:+: content ++ ['*']) (rest : List Char) :
    closeComment? (content ++ '*' :: '/' :: rest) = some (content.length + 2) := by
  induction content with
  | nil => rfl
  | cons character content inductionHypothesis =>
      rw [List.cons_append, List.infix_cons_iff, not_or] at unclosed
      have passed : forall tail, character = '*' ->
          content ++ '*' :: '/' :: rest = '/' :: tail -> False := by
        intro tail star slash
        apply unclosed.1
        cases content with
        | nil => cases slash
        | cons next content =>
            rw [star, (List.cons.inj slash).1]
            exact ⟨content ++ ['*'], rfl⟩
      rw [List.cons_append, closeComment?.eq_3 _ _ passed, inductionHypothesis unclosed.2]
      rfl

theorem closeComment?_sound {characters : List Char} {length : Nat}
    (found : closeComment? characters = some length) :
    exists content rest, characters = content ++ '*' :: '/' :: rest ∧
      ¬ ['*', '/'] <:+: content ++ ['*'] := by
  induction characters generalizing length with
  | nil => cases found
  | cons character characters inductionHypothesis =>
      by_cases closes : exists tail, character = '*' ∧ characters = '/' :: tail
      · rcases closes with ⟨tail, rfl, rfl⟩
        exact ⟨[], tail, rfl, by decide⟩
      · have passed : forall tail, character = '*' -> characters = '/' :: tail -> False :=
          fun tail star slash => closes ⟨tail, star, slash⟩
        rw [closeComment?.eq_3 _ _ passed] at found
        rcases Option.map_eq_some_iff.mp found with ⟨_, foundLater, -⟩
        rcases inductionHypothesis foundLater with ⟨content, rest, same, unclosed⟩
        refine ⟨character :: content, rest, by rw [same]; rfl, ?_⟩
        rw [List.cons_append, List.infix_cons_iff, not_or]
        refine ⟨fun starts => ?_, unclosed⟩
        rcases starts with ⟨tail, joined⟩
        rcases List.cons.inj joined with ⟨star, slash⟩
        cases content with
        | nil => cases slash
        | cons next content =>
            rw [List.cons_append] at same slash
            rw [← (List.cons.inj slash).1] at same
            exact passed _ star.symm same

/-- A line comment reaches up to the end of its line. -/
theorem lineLength_append {content rest : List Char}
    (ends : (Construct.lineComment content).EndsBefore rest) :
    lineLength (content ++ rest) = content.length := by
  rcases ends with ⟨inside, boundary⟩
  have kept : forall character, character ∈ content ->
      (character ≠ '\r' && character ≠ '\n') = true := by
    intro character member
    simpa using inside character member
  have stopped : rest.takeWhile (fun character => character ≠ '\r' && character ≠ '\n') = [] := by
    cases rest with
    | nil => rfl
    | cons character rest =>
        rcases boundary character rfl with carriageReturn | newline
        · simp [carriageReturn]
        · simp [newline]
  rw [lineLength, List.takeWhile_append_of_pos kept, stopped, List.append_nil]

theorem exists_lineComment (line : List Char) :
    exists content rest, (Construct.lineComment content).StandsAt ('-' :: '-' :: line) rest := by
  let inside : Char -> Bool := fun character => character ≠ '\r' && character ≠ '\n'
  refine ⟨line.takeWhile inside, line.dropWhile inside, ?_, ?_, ?_⟩
  · simp [Construct.text]
  · intro character member
    have all := List.all_eq_true.mp (List.all_takeWhile (p := inside) (l := line))
    simpa [inside] using all character member
  · intro character starts
    have stopped := List.head?_dropWhile_not inside line
    rw [starts] at stopped
    have ends : ¬ (character ≠ '\r' ∧ character ≠ '\n') := by
      simpa [inside] using stopped
    by_cases carriageReturn : character = '\r'
    · exact Or.inl carriageReturn
    · refine Or.inr (Decidable.byContradiction fun newline => ends ⟨carriageReturn, newline⟩)

theorem paired_quote (content : List Char) :
    paired (Text.singleQuote :: content) =
      Text.singleQuote :: Text.singleQuote :: paired content := by
  simp [paired]

theorem paired_other {character : Char} (other : character ≠ Text.singleQuote)
    (content : List Char) : paired (character :: content) = character :: paired content := by
  simp [paired, other]

/-- A literal reaches up to the first quote that no quote follows. -/
theorem closeLiteral?_complete (content : List Char) {rest : List Char}
    (ends : rest.head? ≠ some Text.singleQuote) :
    closeLiteral? (paired content ++ Text.singleQuote :: rest) =
      some ((paired content).length + 1) := by
  induction content with
  | nil =>
      have single : forall tail, rest = '\x27' :: tail -> False := by
        intro tail same
        rw [same] at ends
        exact ends rfl
      exact closeLiteral?.eq_3 rest single
  | cons character content inductionHypothesis =>
      by_cases quote : character = Text.singleQuote
      · rw [quote, paired_quote]
        change closeLiteral? ('\x27' :: '\x27' :: (paired content ++ Text.singleQuote :: rest)) = _
        rw [closeLiteral?, inductionHypothesis]
        rfl
      · rw [paired_other quote, List.cons_append,
          closeLiteral?.eq_4 _ _ (fun _ same _ => quote same) quote, inductionHypothesis]
        rfl

/-- Where the scanner closes a literal, the literal ends in the sense of the grammar, or its
closing quote is the first of a pair and nothing closes what the second one opens. -/
theorem closeLiteral?_sound {characters : List Char} {length : Nat}
    (found : closeLiteral? characters = some length) :
    exists content rest, characters = paired content ++ Text.singleQuote :: rest ∧
      length = (paired content).length + 1 ∧
      forall after, rest = Text.singleQuote :: after -> closeLiteral? after = none := by
  induction characters using closeLiteral?.induct generalizing length with
  | case1 => cases found
  | case2 characters inner foundInner inductionHypothesis =>
      rw [closeLiteral?, foundInner] at found
      rcases inductionHypothesis foundInner with ⟨content, rest, same, reach, unclosed⟩
      refine ⟨Text.singleQuote :: content, rest, ?_, ?_, unclosed⟩
      · rw [paired_quote, same]
        rfl
      · rw [paired_quote, ← Option.some.inj found, reach]
        rfl
  | case3 characters notFound _ =>
      rw [closeLiteral?, notFound] at found
      refine ⟨[], '\x27' :: characters, rfl, (Option.some.inj found).symm, ?_⟩
      intro after same
      rw [← (List.cons.inj same).2]
      exact notFound
  | case4 characters single =>
      rw [closeLiteral?.eq_3 characters single] at found
      refine ⟨[], characters, rfl, (Option.some.inj found).symm, ?_⟩
      intro after same
      exact absurd same (single after)
  | case5 character characters pair quote inductionHypothesis =>
      rw [closeLiteral?.eq_4 character characters pair quote] at found
      rcases Option.map_eq_some_iff.mp found with ⟨inner, foundInner, reached⟩
      rcases inductionHypothesis foundInner with ⟨content, rest, same, reach, unclosed⟩
      refine ⟨character :: content, rest, ?_, ?_, unclosed⟩
      · rw [paired_other quote, same]
        rfl
      · rw [paired_other quote, ← reached, reach]
        rfl

/-! ## What a character starts -/

section Openings

variable (previous : Option Char) (rest : List Char)

theorem tokenAt_singleQuote :
    tokenAt previous Text.singleQuote rest =
      orElse (closeLiteral? rest) .verbatim 1 .openLiteral :=
  rfl

theorem tokenAt_doubleQuote :
    tokenAt previous Text.doubleQuote rest =
      orElse (closeAt? Text.doubleQuote rest) .verbatim 1 .plain :=
  rfl

theorem tokenAt_dashes :
    tokenAt previous '-' ('-' :: rest) = (.verbatim, lineLength rest + 2) :=
  rfl

theorem tokenAt_slashStar :
    tokenAt previous '/' ('*' :: rest) = orElse (closeComment? rest) .verbatim 2 .plain :=
  rfl

theorem tokenAt_bracket :
    tokenAt previous '[' rest = orElse (closeAt? ']' rest) .identifier 1 .openIdentifier :=
  rfl

theorem tokenAt_percent : tokenAt previous '%' rest = percentAt rest :=
  rfl

theorem tokenAt_brace : tokenAt previous '\x7b' rest = braceAt rest :=
  rfl

end Openings

/-- What a character is to the scanner where it stands alone. -/
def plainKind (character : Char) : TokenKind :=
  if character = Text.singleQuote then .openLiteral
  else if character = '[' then .openIdentifier
  else if character = '%' then .percent
  else if character = '\x7b' then .openBrace
  else if character = '(' then .openParenthesis
  else if character = ')' then .closeParenthesis
  else if character = ',' then .comma
  else .plain

/-- The characters with which a construct can start. -/
def openings : List Char := [Text.singleQuote, Text.doubleQuote, '-', '/', '[', '%', '\x7b']

/-- A character that starts no construct is taken alone, or with a word that it starts. -/
theorem tokenAt_other {character : Char} (other : character ∉ openings)
    (previous : Option Char) (rest : List Char) :
    tokenAt previous character rest = (plainKind character, 1) ∨
    (isSelect previous (character :: rest) ∧
      tokenAt previous character rest = (.selectWord, 6)) := by
  simp only [openings, List.mem_cons, List.not_mem_nil, or_false, not_or] at other
  rcases other with ⟨singleQuote, doubleQuote, dash, slash, bracket, percent, brace⟩
  simp only [tokenAt, plainKind, singleQuote, doubleQuote, dash, slash, bracket, percent, brace,
    if_false]
  by_cases openParenthesis : character = '('
  · simp [openParenthesis]
  by_cases closeParenthesis : character = ')'
  · simp [closeParenthesis]
  by_cases comma : character = ','
  · simp [comma]
  by_cases word : isSelect previous (character :: rest)
  · simp [openParenthesis, closeParenthesis, comma, word]
  · simp [openParenthesis, closeParenthesis, comma, word]

/-! ## Where a construct stands -/

theorem Construct.StandsAt.mem_openings {construct : Construct} {character : Char}
    {tail rest : List Char} (stands : construct.StandsAt (character :: tail) rest) :
    character ∈ openings := by
  rcases stands with ⟨same, -⟩
  cases construct <;> rw [(List.cons.inj same).1] <;> decide

/-- Where a construct stands, the scanner takes the whole of it. -/
theorem tokenAt_construct {construct : Construct} {character : Char} {tail rest : List Char}
    (stands : construct.StandsAt (character :: tail) rest) (previous : Option Char) :
    tokenAt previous character tail = (construct.kind, construct.text.length) := by
  rcases stands with ⟨same, ends⟩
  cases construct <;>
    simp only [Construct.text, List.cons_append, List.append_assoc, List.nil_append,
      List.cons.injEq] at same <;>
    rcases same with ⟨rfl, rfl⟩
  case literal content =>
    rw [tokenAt_singleQuote, closeLiteral?_complete content ends]
    simp [orElse, Construct.kind, Construct.text]
  case quotedName content =>
    rw [tokenAt_doubleQuote, closeAt?_complete ends]
    simp [orElse, Construct.kind, Construct.text]
  case lineComment content =>
    rw [tokenAt_dashes, lineLength_append ends]
    rfl
  case blockComment content =>
    rw [tokenAt_slashStar, closeComment?_complete ends]
    simp [orElse, Construct.kind, Construct.text]
  case identifier name =>
    rw [tokenAt_bracket, closeAt?_complete ends]
    simp [orElse, Construct.kind, Construct.text]
  case placeholder code =>
    rw [tokenAt_percent, percentAt, TypeCode.ofLetter?_letter]
    rfl
  case columnMark code =>
    rw [tokenAt_brace, braceAt, TypeCode.ofLetter?_letter]
    rfl

/-! ## Where no construct stands -/

section Alone

variable {tail : List Char} (previous : Option Char)

/-- A text after a quote that the scanner takes for a literal although none stands there. -/
theorem tokenAt_singleQuote_alone (alone : StandsAlone Text.singleQuote tail) :
    tokenAt previous Text.singleQuote tail = (.openLiteral, 1) ∨
    exists content after,
      tail = paired content ++ Text.singleQuote :: Text.singleQuote :: after ∧
      closeLiteral? after = none ∧
      tokenAt previous Text.singleQuote tail = (.verbatim, (paired content).length + 2) := by
  rw [tokenAt_singleQuote]
  cases found : closeLiteral? tail with
  | none => exact Or.inl rfl
  | some length =>
      rcases closeLiteral?_sound found with ⟨content, rest, same, reach, unclosed⟩
      by_cases ends : rest.head? = some Text.singleQuote
      · rcases List.head?_eq_some_iff.mp ends with ⟨after, rfl⟩
        refine Or.inr ⟨content, after, same, unclosed after rfl, ?_⟩
        rw [reach]
        rfl
      · refine absurd ⟨?_, ends⟩ (alone (.literal content) rest)
        rw [same]
        simp [Construct.text]

theorem tokenAt_doubleQuote_alone (alone : StandsAlone Text.doubleQuote tail) :
    tokenAt previous Text.doubleQuote tail = (.plain, 1) := by
  rw [tokenAt_doubleQuote]
  cases found : closeAt? Text.doubleQuote tail with
  | none => rfl
  | some length =>
      rcases closeAt?_sound found with ⟨content, rest, same, absent⟩
      refine absurd ⟨?_, absent⟩ (alone (.quotedName content) rest)
      rw [same]
      simp [Construct.text]

theorem tokenAt_dash_alone (alone : StandsAlone '-' tail) :
    tokenAt previous '-' tail = (.plain, 1) := by
  cases tail with
  | nil => rfl
  | cons next line =>
      by_cases second : next = '-'
      · subst second
        rcases exists_lineComment line with ⟨content, rest, stands⟩
        exact absurd stands (alone _ _)
      · simp [tokenAt, Text.singleQuote, Text.doubleQuote, second]

theorem tokenAt_slash_alone (alone : StandsAlone '/' tail) :
    tokenAt previous '/' tail = (.plain, 1) := by
  cases tail with
  | nil => rfl
  | cons next comment =>
      by_cases star : next = '*'
      · subst star
        rw [tokenAt_slashStar]
        cases found : closeComment? comment with
        | none => rfl
        | some length =>
            rcases closeComment?_sound found with ⟨content, rest, same, first⟩
            refine absurd ⟨?_, first⟩ (alone (.blockComment content) rest)
            rw [same]
            simp [Construct.text]
      · simp [tokenAt, Text.singleQuote, Text.doubleQuote, star]

theorem tokenAt_bracket_alone (alone : StandsAlone '[' tail) :
    tokenAt previous '[' tail = (.openIdentifier, 1) := by
  rw [tokenAt_bracket]
  cases found : closeAt? ']' tail with
  | none => rfl
  | some length =>
      rcases closeAt?_sound found with ⟨name, rest, same, absent⟩
      refine absurd ⟨?_, absent⟩ (alone (.identifier name) rest)
      rw [same]
      simp [Construct.text]

theorem tokenAt_percent_alone (alone : StandsAlone '%' tail) :
    tokenAt previous '%' tail = (.percent, 1) := by
  rw [tokenAt_percent]
  cases tail with
  | nil => rfl
  | cons letter rest =>
      rw [percentAt]
      cases found : TypeCode.ofLetter? letter with
      | none => rfl
      | some code =>
          refine absurd ⟨?_, trivial⟩ (alone (.placeholder code) rest)
          rw [← TypeCode.letter_of_ofLetter? found]
          rfl

theorem tokenAt_brace_alone (alone : StandsAlone '\x7b' tail) :
    tokenAt previous '\x7b' tail = (.openBrace, 1) := by
  rw [tokenAt_brace]
  unfold braceAt
  split
  · rename_i letter rest
    cases found : TypeCode.ofLetter? letter with
    | none => rfl
    | some code =>
        refine absurd ⟨?_, trivial⟩ (alone (.columnMark code) rest)
        rw [← TypeCode.letter_of_ofLetter? found]
        rfl
  · rfl

end Alone

/-- What the scanner does with a character where no construct stands: it takes the character
alone, or a whole word that starts a list of columns, or a text between quotes of which the
closing one is the first of a pair that nothing closes. -/
theorem tokenAt_alone {character : Char} {tail : List Char} (alone : StandsAlone character tail)
    (previous : Option Char) :
    tokenAt previous character tail = (plainKind character, 1) ∨
    (character ∉ openings ∧ isSelect previous (character :: tail) ∧
      tokenAt previous character tail = (.selectWord, 6)) ∨
    (character = Text.singleQuote ∧ exists content after,
      tail = paired content ++ Text.singleQuote :: Text.singleQuote :: after ∧
      closeLiteral? after = none ∧
      tokenAt previous character tail = (.verbatim, (paired content).length + 2)) := by
  by_cases opening : character ∈ openings
  · simp only [openings, List.mem_cons, List.not_mem_nil, or_false] at opening
    rcases opening with rfl | rfl | rfl | rfl | rfl | rfl | rfl
    · rcases tokenAt_singleQuote_alone previous alone with single | unclosed
      · exact Or.inl single
      · exact Or.inr (Or.inr ⟨rfl, unclosed⟩)
    · exact Or.inl (tokenAt_doubleQuote_alone previous alone)
    · exact Or.inl (tokenAt_dash_alone previous alone)
    · exact Or.inl (tokenAt_slash_alone previous alone)
    · exact Or.inl (tokenAt_bracket_alone previous alone)
    · exact Or.inl (tokenAt_percent_alone previous alone)
    · exact Or.inl (tokenAt_brace_alone previous alone)
  · rcases tokenAt_other opening previous tail with single | word
    · exact Or.inl single
    · exact Or.inr (Or.inl ⟨opening, word⟩)

/-! ## One reading -/

/-- Text in which a pair of single quotes is read as one. -/
def unpaired : List Char → List Char
  | [] => []
  | '\x27' :: '\x27' :: rest => Text.singleQuote :: unpaired rest
  | character :: rest => character :: unpaired rest

theorem unpaired_paired (content : List Char) : unpaired (paired content) = content := by
  induction content with
  | nil => rfl
  | cons character content inductionHypothesis =>
      by_cases quote : character = Text.singleQuote
      · rw [quote, paired_quote]
        change Text.singleQuote :: unpaired (paired content) = _
        rw [inductionHypothesis]
      · rw [paired_other quote, unpaired.eq_3 _ _ (fun _ same _ => quote same),
          inductionHypothesis]

/-- The characters of a construct say which one it is. -/
theorem Construct.text_injective : Function.Injective Construct.text := by
  have letters {first second : TypeCode} (same : first.letter = second.letter) :
      first = second := by
    apply Option.some.inj
    rw [← TypeCode.ofLetter?_letter first, same, TypeCode.ofLetter?_letter]
  intro first second same
  -- Different constructs differ in their first two characters.
  cases first <;> cases second <;>
    simp only [Construct.text, Text.singleQuote, Text.doubleQuote, List.cons.injEq,
      List.append_cancel_right_eq, reduceCtorEq, Char.reduceEq, false_and, true_and, and_true,
      literal.injEq, quotedName.injEq, lineComment.injEq, blockComment.injEq, identifier.injEq,
      placeholder.injEq, columnMark.injEq] at same ⊢
  case literal.literal content other =>
    rw [← unpaired_paired content, same, unpaired_paired]
  case placeholder.placeholder => exact letters same
  case columnMark.columnMark => exact letters same
  all_goals exact same

/-- At most one construct stands at a place. -/
theorem Construct.StandsAt.unique {first second : Construct}
    {characters rest otherRest : List Char} (stands : first.StandsAt characters rest)
    (otherStands : second.StandsAt characters otherRest) :
    first = second ∧ rest = otherRest := by
  cases characters with
  | nil => exact absurd stands Construct.not_standsAt_nil
  | cons character tail =>
      have taken := tokenAt_construct stands none
      rw [tokenAt_construct otherStands none] at taken
      have sameLength : first.text.length = second.text.length := (Prod.mk.inj taken).2.symm
      have joined : first.text ++ rest = second.text ++ otherRest :=
        stands.1.symm.trans otherStands.1
      rcases List.append_inj joined sameLength with ⟨sameText, sameRest⟩
      exact ⟨Construct.text_injective sameText, sameRest⟩

namespace Reading

theorem unique {characters : List Char} {first second : List Lexeme}
    (reading : Reading characters first) (other : Reading characters second) :
    first = second := by
  induction reading generalizing second with
  | nil =>
      cases other with
      | nil => rfl
      | construct stands later => exact absurd stands Construct.not_standsAt_nil
  | construct stands later inductionHypothesis =>
      cases other with
      | nil => exact absurd stands Construct.not_standsAt_nil
      | construct otherStands otherLater =>
          rcases stands.unique otherStands with ⟨rfl, rfl⟩
          rw [inductionHypothesis otherLater]
      | plain alone otherLater => exact absurd stands (alone _ _)
  | plain alone later inductionHypothesis =>
      cases other with
      | construct stands otherLater => exact absurd stands (alone _ _)
      | plain _ otherLater => rw [inductionHypothesis otherLater]

theorem exists_of_length_le (bound : Nat) (characters : List Char)
    (short : characters.length ≤ bound) : exists lexemes, Reading characters lexemes := by
  induction bound generalizing characters with
  | zero =>
      rw [List.length_eq_zero_iff.mp (Nat.le_zero.mp short)]
      exact ⟨[], .nil⟩
  | succ bound inductionHypothesis =>
      cases characters with
      | nil => exact ⟨[], .nil⟩
      | cons character tail =>
          by_cases stands : exists construct rest,
              Construct.StandsAt construct (character :: tail) rest
          · rcases stands with ⟨construct, rest, stands⟩
            have shorter : rest.length ≤ bound :=
              Nat.le_of_lt_succ (Nat.lt_of_lt_of_le stands.rest_shorter short)
            rcases inductionHypothesis rest shorter with ⟨lexemes, later⟩
            exact ⟨_, .construct stands later⟩
          · have alone : StandsAlone character tail :=
              fun construct rest found => stands ⟨construct, rest, found⟩
            obtain ⟨lexemes, later⟩ :=
              inductionHypothesis tail (Nat.le_of_succ_le_succ short)
            exact ⟨_, .plain alone later⟩

/-- Every text has a reading. -/
theorem total (characters : List Char) : exists lexemes, Reading characters lexemes :=
  exists_of_length_le characters.length characters (Nat.le_refl _)

end Reading

end Template
end SqlGateway
