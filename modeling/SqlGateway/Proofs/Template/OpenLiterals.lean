import SqlGateway.Proofs.Template.Copied

namespace SqlGateway
namespace Template

/-!
# Literals that are not closed

A literal is opened where a single quote stands alone in the reading: every later quote is then one
of a pair.  The compiler refuses such a template, and tells a place in it.  The place is that of the
last quote of the template, which is the quote that opens the literal only if no pair follows: the
scanner has taken the first quote of the last pair for the end of a literal, and meets the second one
as if it opened another.
-/

/-! ## Quotes -/

/-- Whether the last single quote of a text stands at an offset. -/
def IsLastQuote (characters : List Char) (offset : Nat) : Prop :=
  exists before after, characters = before ++ Text.singleQuote :: after ∧
    before.length = offset ∧ Text.singleQuote ∉ after

theorem IsLastQuote.append {characters : List Char} {offset : Nat}
    (last : IsLastQuote characters offset) (front : List Char) :
    IsLastQuote (front ++ characters) (front.length + offset) := by
  rcases last with ⟨before, after, rfl, rfl, absent⟩
  refine ⟨front ++ before, after, ?_, List.length_append, absent⟩
  rw [List.append_assoc]

theorem IsLastQuote.unique {characters : List Char} {first second : Nat}
    (isFirst : IsLastQuote characters first) (isSecond : IsLastQuote characters second) :
    first = second := by
  rcases isFirst with ⟨before, after, rfl, rfl, absent⟩
  rcases isSecond with ⟨otherBefore, otherAfter, same, rfl, otherAbsent⟩
  rcases List.append_eq_append_iff.mp same with ⟨more, rfl, later⟩ | ⟨more, rfl, later⟩
  · cases more with
    | nil => simp
    | cons character more =>
        rw [(List.cons.inj later).2] at absent
        simp at absent
  · cases more with
    | nil => simp
    | cons character more =>
        rw [(List.cons.inj later).2] at otherAbsent
        simp at otherAbsent

/-- Without a quote there is nothing that closes a literal, and with one there is. -/
theorem closeLiteral?_eq_none_iff (characters : List Char) :
    closeLiteral? characters = none <-> Text.singleQuote ∉ characters := by
  induction characters using closeLiteral?.induct with
  | case1 => exact iff_of_true rfl List.not_mem_nil
  | case2 rest length found inductionHypothesis =>
      rw [closeLiteral?, found]
      exact iff_of_false (Option.some_ne_none _) (not_not_intro List.mem_cons_self)
  | case3 rest found inductionHypothesis =>
      rw [closeLiteral?, found]
      exact iff_of_false (Option.some_ne_none _) (not_not_intro List.mem_cons_self)
  | case4 rest single =>
      rw [closeLiteral?.eq_3 rest single]
      exact iff_of_false (Option.some_ne_none _) (not_not_intro List.mem_cons_self)
  | case5 character rest pair quote inductionHypothesis =>
      rw [closeLiteral?.eq_4 character rest pair quote, Option.map_eq_none_iff,
        inductionHypothesis, List.mem_cons, not_or, and_iff_right fun same => quote same.symm]

theorem paired_eq_self {content : List Char} (absent : Text.singleQuote ∉ content) :
    paired content = content := by
  induction content with
  | nil => rfl
  | cons character content inductionHypothesis =>
      rw [List.mem_cons, not_or] at absent
      rw [paired_other fun same => absent.1 same.symm, inductionHypothesis absent.2]

theorem paired_append (first second : List Char) :
    paired (first ++ second) = paired first ++ paired second :=
  List.flatMap_append

theorem mem_paired_iff (content : List Char) :
    Text.singleQuote ∈ paired content <-> Text.singleQuote ∈ content := by
  constructor
  · intro member
    by_contra absent
    rw [paired_eq_self absent] at member
    exact absent member
  · exact fun member => List.mem_flatMap.mpr ⟨_, member, by simp⟩

/-! ## The scanner -/

/-- The refusal of a literal that is not closed. -/
def openLiteralRefusal : Refusal := .syntaxError "Unterminated string literal"

/-- Only a quote that stands alone is refused as a literal that is not closed. -/
theorem refusal?_eq_openLiteral_iff (dialect : Dialect) (depth : Nat) (lexeme : Lexeme) :
    lexeme.refusal? dialect depth = some openLiteralRefusal <->
      lexeme = .plain Text.singleQuote := by
  constructor
  · intro refused
    cases lexeme with
    | plain character =>
        by_cases quote : character = Text.singleQuote
        · rw [quote]
        · rw [Lexeme.refusal?, if_neg quote] at refused
          split at refused
          · exact absurd refused (by decide)
          · split at refused
            · exact absurd refused (by decide)
            · cases refused
    | construct construct =>
        cases construct with
        | columnMark code =>
            rw [Lexeme.refusal?] at refused
            split at refused
            · cases refused
            · exact absurd refused (by decide)
        | identifier name =>
            rw [Lexeme.refusal?] at refused
            split at refused
            · exact absurd refused (by decide)
            · split at refused <;> cases refused
        | _ => cases refused
  · rintro rfl
    rfl

/-- A token that is a part of the reading, and no quote, opens no literal. -/
theorem mistake?_ne_openLiteral {dialect : Dialect} {depth : Nat} {token : Token}
    {lexeme : Lexeme} (other : lexeme ≠ .plain Text.singleQuote)
    (judged : (token.mistake? dialect depth).map (Refusal.ofMistake dialect) =
      lexeme.refusal? dialect depth) : token.mistake? dialect depth ≠ some .openLiteral := by
  intro opened
  rw [opened] at judged
  exact other ((refusal?_eq_openLiteral_iff dialect depth lexeme).mp judged.symm)

theorem offset_after (place : Place) (token : Token) :
    (place.after token).offset = place.offset + token.text.length := by
  unfold Place.after
  split <;> rfl

/-- A token that opens no literal is passed, if nothing else is wrong with it. -/
theorem firstMistake?_openLiteral_cons {dialect : Dialect} {place : Place} {token : Token}
    {tokens : List Token} {offset : Nat}
    (other : token.mistake? dialect place.depth ≠ some .openLiteral)
    (found : firstMistake? dialect place (token :: tokens) = some (.openLiteral, offset)) :
    firstMistake? dialect (place.after token) tokens = some (.openLiteral, offset) := by
  rw [firstMistake?] at found
  split at found
  · rename_i mistake judged
    rcases Prod.mk.inj (Option.some.inj found) with ⟨rfl, -⟩
    exact absurd judged other
  · exact found

/-- A quote opens a literal by itself only if no quote follows. -/
theorem quote_not_mem_of_openLiteral {previous : Option Char} {rest : List Char}
    (taken : tokenAt previous Text.singleQuote rest = (.openLiteral, 1)) :
    Text.singleQuote ∉ rest := by
  rw [← closeLiteral?_eq_none_iff]
  rw [tokenAt_singleQuote] at taken
  cases closed : closeLiteral? rest with
  | none => rfl
  | some length =>
      rw [closed] at taken
      cases taken

/-- The last quote after a token is the last one from the token on. -/
theorem lastQuote_after {token : Token} {rest : List Char} {place : Place} {offset : Nat}
    (later : exists reach, IsLastQuote rest reach ∧ offset = (place.after token).offset + reach) :
    exists reach, IsLastQuote (token.text ++ rest) reach ∧ offset = place.offset + reach := by
  rcases later with ⟨reach, last, rfl⟩
  refine ⟨_, last.append token.text, ?_⟩
  rw [offset_after, Nat.add_assoc]

/-- The place that the scanner tells is that of the last quote. -/
theorem Scanned.lastQuote {previous : Option Char} {characters : List Char}
    {lexemes : List Lexeme} {tokens : List Token}
    (scanned : Scanned previous characters lexemes tokens) {dialect : Dialect} {place : Place}
    {offset : Nat} (found : firstMistake? dialect place tokens = some (.openLiteral, offset)) :
    exists reach, IsLastQuote characters reach ∧ offset = place.offset + reach := by
  induction scanned generalizing place with
  | nil previous => cases found
  | construct construct later inductionHypothesis =>
      have noQuote : Lexeme.construct construct ≠ .plain Text.singleQuote := nofun
      have other := mistake?_ne_openLiteral noQuote
        (mistake?_construct dialect place.depth construct)
      exact lastQuote_after (inductionHypothesis (firstMistake?_openLiteral_cons other found))
  | @plain previous rest lexemes tokens character taken later inductionHypothesis =>
      by_cases quote : character = Text.singleQuote
      · subst quote
        cases found
        exact ⟨0, ⟨[], rest, rfl, rfl, quote_not_mem_of_openLiteral taken⟩, rfl⟩
      · have other := mistake?_ne_openLiteral (fun same => quote (Lexeme.plain.inj same))
          (mistake?_plain dialect place.depth character)
        exact lastQuote_after (inductionHypothesis (firstMistake?_openLiteral_cons other found))
  | word letters sixLetters inert starts later inductionHypothesis =>
      have other : Token.mistake? dialect place.depth ⟨.selectWord, letters⟩ ≠
          some .openLiteral := by
        change none ≠ _
        nofun
      exact lastQuote_after (inductionHypothesis (firstMistake?_openLiteral_cons other found))
  | unclosed previous content after lexemes tokens unclosed =>
      cases found
      rw [closeLiteral?_eq_none_iff] at unclosed
      refine ⟨_, ⟨Text.singleQuote :: (paired content ++ [Text.singleQuote]), after, ?_, rfl,
        unclosed⟩, offset_after _ _⟩
      simp

/-! ## The reading -/

/-- A literal is opened after a part of a reading and is not closed: what follows is some content
with its quotes in pairs. -/
def OpensLiteral (lexemes front : List Lexeme) (content : List Char) : Prop :=
  exists back, lexemes = front ++ .plain Text.singleQuote :: back ∧
    back.flatMap Lexeme.text = paired content

theorem Reading.after_front {front lexemes : List Lexeme} {characters : List Char}
    (reading : Reading characters (front ++ lexemes)) : exists rest, Reading rest lexemes := by
  induction front generalizing characters with
  | nil => exact ⟨characters, reading⟩
  | cons lexeme front inductionHypothesis =>
      cases reading with
      | construct stands later => exact inductionHypothesis later
      | plain alone later => exact inductionHypothesis later

/-- After a quote that stands alone all quotes come in pairs. -/
theorem Reading.opensLiteral {front back : List Lexeme} {characters : List Char}
    (reading : Reading characters (front ++ .plain Text.singleQuote :: back)) :
    exists content, OpensLiteral (front ++ .plain Text.singleQuote :: back) front content := by
  rcases reading.after_front with ⟨rest, readingRest⟩
  cases readingRest with
  | @plain _ tail _ alone later =>
      rcases tokenAt_singleQuote_alone none alone with taken | ⟨content, after, same, unclosed, -⟩
      · refine ⟨tail, back, rfl, ?_⟩
        rw [later.flatMap_text, paired_eq_self (quote_not_mem_of_openLiteral taken)]
      · rw [closeLiteral?_eq_none_iff] at unclosed
        refine ⟨content ++ Text.singleQuote :: after, back, rfl, ?_⟩
        rw [later.flatMap_text, same, paired_append, paired_quote, paired_eq_self unclosed]

/-- A reading is refused for a literal that is not closed if a quote stands alone in it and the part
before is not refused. -/
theorem firstRefusal?_eq_openLiteral_iff (dialect : Dialect) (depth : Nat)
    (lexemes : List Lexeme) :
    firstRefusal? dialect depth lexemes = some openLiteralRefusal <->
      exists front back, lexemes = front ++ .plain Text.singleQuote :: back ∧
        firstRefusal? dialect depth front = none := by
  constructor
  · intro refused
    induction lexemes generalizing depth with
    | nil => cases refused
    | cons lexeme lexemes inductionHypothesis =>
        rw [firstRefusal?] at refused
        split at refused
        · rename_i judged
          rw [refused, refusal?_eq_openLiteral_iff] at judged
          exact ⟨[], lexemes, by rw [judged]; rfl, rfl⟩
        · rename_i judged
          rcases inductionHypothesis _ refused with ⟨front, back, rfl, accepted⟩
          refine ⟨lexeme :: front, back, rfl, ?_⟩
          rw [firstRefusal?, judged]
          exact accepted
  · rintro ⟨front, back, rfl, accepted⟩
    rw [firstRefusal?_append, accepted]
    rfl

/-- Where the literal is opened, and where the last quote stands, is the same if no pair follows. -/
theorem OpensLiteral.offset_iff {lexemes front : List Lexeme} {content characters : List Char}
    {offset : Nat} (opens : OpensLiteral lexemes front content)
    (written : lexemes.flatMap Lexeme.text = characters) (last : IsLastQuote characters offset) :
    offset = (front.flatMap Lexeme.text).length <-> Text.singleQuote ∉ content := by
  rcases opens with ⟨back, rfl, follows⟩
  rw [List.flatMap_append, List.flatMap_cons, follows] at written
  constructor
  · rintro rfl
    rcases last with ⟨before, after, same, sameLength, absent⟩
    rw [same] at written
    rcases List.append_inj written sameLength.symm with ⟨-, later⟩
    have alike : paired content = after := (List.cons.inj later).2
    rw [← mem_paired_iff, alike]
    exact absent
  · intro absent
    rw [paired_eq_self absent] at written
    exact last.unique ⟨_, content, written.symm, rfl, absent⟩

/-! ## The compiler -/

theorem Fault.withSql_injective (sql : Option String) :
    Function.Injective fun message => Fault.withSql message sql := by
  intro message other same
  simp only [Fault.withSql] at same
  split at same
  · exact same
  · exact same
  · exact (String.append_left_inj _).mp ((String.append_left_inj _).mp same)

/-- A fault about a template tells its message, the template and the place. -/
theorem Fault.templateSyntax_inj {message other : String} {template shown : Option String}
    {position place : Option Int}
    (same : Fault.templateSyntax message template position = .templateSyntax other shown place) :
    message = other ∧ template = shown ∧ position = place := by
  rcases Fault.library.inj same with ⟨-, -, detail, context, -⟩
  rcases FaultContext.mk.inj context with ⟨rfl, rfl, -⟩
  have located := Fault.withSql_injective template detail
  refine ⟨?_, rfl, rfl⟩
  cases position with
  | none => exact located
  | some position => exact (String.append_left_inj _).mp ((String.append_left_inj _).mp located)

/-- One mistake alone is told as a literal that is not closed. -/
theorem ofMistake_eq_openLiteral {dialect : Dialect} {mistake : Mistake}
    (same : Refusal.ofMistake dialect mistake = openLiteralRefusal) : mistake = .openLiteral := by
  have unlike {message : String} (different : message ≠ "Unterminated string literal")
      (same : Refusal.syntaxError message = openLiteralRefusal) : False :=
    different (Refusal.syntaxError.inj same)
  cases mistake with
  | openLiteral => rfl
  | unquotable name => cases same
  | openIdentifier => exact (unlike (by decide) same).elim
  | nestedBracket => exact (unlike (by decide) same).elim
  | openBrace => exact (unlike (by decide) same).elim
  | markInParentheses => exact (unlike (by decide) same).elim

/-- The fault tells what is refused, the template and a place. -/
theorem Refusal.Describes.eq_openLiteral {template : String} {refusal : Refusal}
    {shown : Option String} {position : Option Int}
    (describes : refusal.Describes template
      (.templateSyntax "Unterminated string literal" shown position)) :
    refusal = openLiteralRefusal ∧ shown = some template := by
  cases refusal with
  | syntaxError message =>
      rcases describes with ⟨offset, told⟩
      rcases Fault.templateSyntax_inj told with ⟨rfl, rfl, -⟩
      exact ⟨rfl, rfl⟩
  | invalidName message => cases describes

/-- The compiler tells that a literal is not closed if this is the first mistake, and where. -/
theorem parse_eq_openLiteral_iff (template : String) (dialect : Dialect) (style : ParameterStyle)
    (shown : Option String) (position : Option Int) :
    parse template dialect style =
        .error (.templateSyntax "Unterminated string literal" shown position) <->
      exists offset : Nat,
        firstMistake? dialect .start (scan template.toList) = some (.openLiteral, offset) ∧
        shown = some template ∧ position = some (offset : Int) := by
  have fault (offset : Nat) : Mistake.fault dialect template.toList offset .openLiteral =
      .templateSyntax "Unterminated string literal" (some template) (some (offset : Int)) := by
    rw [Mistake.fault, Mistake.fault.located, String.ofList_toList]
  cases found : firstMistake? dialect .start (scan template.toList) with
  | none =>
      refine iff_of_false (fun failed => ?_) ?_
      · simp only [parse, found] at failed
        cases failed
      · rintro ⟨offset, ⟨⟩, -⟩
  | some first =>
      rcases first with ⟨mistake, offset⟩
      have told : parse template dialect style =
          .error (mistake.fault dialect template.toList offset) := by
        simp only [parse, found]
      rw [told, Except.error.injEq]
      constructor
      · intro same
        have describes := Refusal.describes_fault dialect template offset mistake
        rw [same] at describes
        rcases describes.eq_openLiteral with ⟨sameRefusal, rfl⟩
        cases ofMistake_eq_openLiteral sameRefusal
        rcases Fault.templateSyntax_inj ((fault offset).symm.trans same) with ⟨-, -, rfl⟩
        exact ⟨offset, rfl, rfl, rfl⟩
      · rintro ⟨_, ⟨⟩, rfl, rfl⟩
        exact fault offset

section Compiler

variable {template : String} {lexemes : List Lexeme} (reading : Reading template.toList lexemes)
include reading

/-- When an open literal is the first mistake of a template, and where. -/
theorem firstMistake?_openLiteral_iff (dialect : Dialect) (offset : Nat) :
    firstMistake? dialect .start (scan template.toList) = some (.openLiteral, offset) <->
      IsLastQuote template.toList offset ∧
      exists front content, OpensLiteral lexemes front content ∧
        firstRefusal? dialect 0 front = none := by
  have refused := reading.spells.refused dialect .start
  change _ = firstRefusal? dialect 0 lexemes at refused
  have lastQuote {place : Nat} (found : firstMistake? dialect .start (scan template.toList) =
      some (.openLiteral, place)) : IsLastQuote template.toList place := by
    rcases (reading.scanned none).lastQuote found with ⟨reach, last, rfl⟩
    rwa [← Nat.zero_add reach] at last
  constructor
  · intro found
    rw [found] at refused
    rcases (firstRefusal?_eq_openLiteral_iff dialect 0 lexemes).mp refused.symm with
      ⟨front, back, rfl, accepted⟩
    rcases reading.opensLiteral with ⟨content, opens⟩
    exact ⟨lastQuote found, front, content, opens, accepted⟩
  · rintro ⟨isLast, front, content, ⟨back, same, -⟩, accepted⟩
    have judged := (firstRefusal?_eq_openLiteral_iff dialect 0 lexemes).mpr
      ⟨front, back, same, accepted⟩
    rcases Option.map_eq_some_iff.mp (refused.trans judged) with ⟨⟨mistake, place⟩, found, opened⟩
    cases ofMistake_eq_openLiteral opened
    rw [found, (lastQuote found).unique isLast]

/-- When the compiler tells that a literal is not closed, and where. -/
theorem parse_openLiteral_iff (dialect : Dialect) (style : ParameterStyle)
    (shown : Option String) (position : Option Int) :
    parse template dialect style =
        .error (.templateSyntax "Unterminated string literal" shown position) <->
      shown = some template ∧
      (exists offset : Nat, position = some (offset : Int) ∧ IsLastQuote template.toList offset) ∧
      exists front content, OpensLiteral lexemes front content ∧
        firstRefusal? dialect 0 front = none := by
  rw [parse_eq_openLiteral_iff]
  constructor
  · rintro ⟨offset, found, same, place⟩
    rcases (firstMistake?_openLiteral_iff reading dialect offset).mp found with ⟨last, opened⟩
    exact ⟨same, ⟨offset, place, last⟩, opened⟩
  · rintro ⟨same, ⟨offset, place, last⟩, opened⟩
    exact ⟨offset, (firstMistake?_openLiteral_iff reading dialect offset).mpr ⟨last, opened⟩, same,
      place⟩

/-- No compiler accepts a literal that is not closed. -/
theorem parse_ne_ok_of_opensLiteral {front : List Lexeme} {content : List Char}
    (opens : OpensLiteral lexemes front content) (dialect : Dialect) (style : ParameterStyle)
    (query : ParsedQuery) : parse template dialect style ≠ .ok query := by
  intro parsed
  rcases opens with ⟨back, rfl, -⟩
  have refused : (firstRefusal? dialect 0 (front ++ .plain Text.singleQuote :: back)).isSome := by
    rw [firstRefusal?_append]
    cases firstRefusal? dialect 0 front <;> rfl
  have made := parse_of_reading reading dialect style
  rcases Option.isSome_iff_exists.mp refused with ⟨refusal, judged⟩
  rw [judged] at made
  rcases made with ⟨fault, failed, -⟩
  rw [parsed] at failed
  cases failed

end Compiler

/-- A template has one reading.  The compiler tells that a literal is not closed if a quote stands
alone in the reading and the part before it is not refused.  The place that it tells is that of the
last quote of the template, and this quote opens the literal only if no other quote follows. -/
theorem openLiteral_told {cache : Cache} {requests : List CompileRequest}
    (remembers : cache.Remembers requests) (template : String) :
    exists lexemes : List Lexeme,
      (forall other, Reading template.toList other <-> other = lexemes) ∧
      (forall dialect style shown position,
        (cache.compile template dialect style).1 =
            .error (.templateSyntax "Unterminated string literal" shown position) <->
          shown = some template ∧
          (exists offset : Nat, position = some (offset : Int) ∧
            IsLastQuote template.toList offset) ∧
          exists front content, OpensLiteral lexemes front content ∧
            firstRefusal? dialect 0 front = none) ∧
      forall front content offset, OpensLiteral lexemes front content ->
        IsLastQuote template.toList offset ->
          (offset = (front.flatMap Lexeme.text).length <-> Text.singleQuote ∉ content) := by
  rcases Reading.total template.toList with ⟨lexemes, reading⟩
  refine ⟨lexemes, fun other => ⟨fun found => found.unique reading, fun same => same ▸ reading⟩,
    fun dialect style shown position => ?_,
    fun front content offset opens last => opens.offset_iff reading.flatMap_text last⟩
  rw [← parse_openLiteral_iff reading dialect (style.getD dialect.style)]
  rcases (Cache.compile_cases cache template dialect style).1 with made | ⟨query, -, answered⟩
  · rw [made]
  · refine iff_of_false (fun failed => ?_) (fun failed => ?_)
    · rw [answered] at failed
      cases failed
    · rcases remembers.exists_parse answered with ⟨other, used, parsed⟩
      rcases ((parse_openLiteral_iff reading dialect _ shown position).mp failed).2.2 with
        ⟨front, content, opens, -⟩
      exact parse_ne_ok_of_opensLiteral reading opens other used query parsed

/-- Without pairs, the place is that of the opening quote. -/
theorem openLiteral_told_of_single :
    ((Cache.ofCapacity 4).compile "SELECT 'x" .firebird none).1 =
      .error (.templateSyntax "Unterminated string literal" (some "SELECT 'x") (some 7)) ∧
    exists lexemes : List Lexeme,
      (forall other, Reading "SELECT 'x".toList other <-> other = lexemes) ∧
      exists front content, OpensLiteral lexemes front content ∧
        firstRefusal? .firebird 0 front = none ∧
        (7 = (front.flatMap Lexeme.text).length <-> Text.singleQuote ∉ content) := by
  have told : ((Cache.ofCapacity 4).compile "SELECT 'x" .firebird none).1 =
      .error (.templateSyntax "Unterminated string literal" (some "SELECT 'x") (some 7)) :=
    rfl
  rcases openLiteral_told (Cache.remembers_empty 4) "SELECT 'x" with ⟨lexemes, one, tells, place⟩
  rcases (tells .firebird none _ _).mp told with
    ⟨-, ⟨offset, same, last⟩, front, content, opens, accepted⟩
  cases same
  exact ⟨told, lexemes, one, front, content, opens, accepted, place front content 7 opens last⟩

/-- The first quote of this template opens a literal in which the pair stands for one quote, but
the place that is told is that of the last quote. -/
theorem openLiteral_of_pair :
    ((Cache.ofCapacity 4).compile "'a''b" .firebird none).1 =
      .error (.templateSyntax "Unterminated string literal" (some "'a''b") (some 3)) ∧
    exists lexemes : List Lexeme,
      Reading "'a''b".toList lexemes ∧ OpensLiteral lexemes [] "a'b".toList ∧
      3 ≠ (([] : List Lexeme).flatMap Lexeme.text).length := by
  refine ⟨rfl, ?_⟩
  rcases Reading.total "'a''b".toList with ⟨lexemes, reading⟩
  have reading' : Reading (Text.singleQuote :: "a''b".toList) lexemes := reading
  refine ⟨lexemes, reading, ?_, by decide⟩
  cases reading' with
  | @construct part _ rest later stands _ =>
      -- The text up to the pair is too short for a literal, because a quote follows.
      have short : part.text.length = 3 :=
        (Prod.mk.inj (tokenAt_construct stands none)).2.symm
      have follows : [Text.singleQuote, 'b'] = rest := by
        have same := congrArg (List.drop 3) stands.1
        rwa [List.drop_left' short] at same
      rcases stands with ⟨same, ends⟩
      cases part with
      | literal content => exact absurd (congrArg List.head? follows.symm) ends
      | _ => exact absurd (List.cons.inj same).1 (by decide)
  | @plain _ _ back alone later =>
      refine ⟨back, rfl, ?_⟩
      rw [later.flatMap_text]
      rfl

end Template
end SqlGateway
