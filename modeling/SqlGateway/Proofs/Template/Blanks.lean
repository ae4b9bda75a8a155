import SqlGateway.Proofs.Template.Literal

namespace SqlGateway
namespace Template

/-!
# Texts between blanks

A template may be put together of texts with blanks between them.  As long as no construct reaches
across a blank, the scanner takes each text by itself: it is done with the text when it comes to
the blank, and goes on after the blank as at the start of a template.

Some texts are kept by the compiler as they stand, and tell it nothing about parameters or columns.
Such a text can be put between two blanks of any template.  The compiler makes of the new template
what it made of the old one, with the text in its place, or refuses both for the same reason.
-/

/-! ## Scanning up to a blank -/

/-- Whether the scanner makes certain tokens of a text, coming from a character, and is done with
it at the blank that follows. -/
def ScansTo (previous : Option Char) (text : List Char) (tokens : List Token) : Prop :=
  forall rest, scanFrom 0 previous (text ++ ' ' :: rest) = tokens ++ scan (' ' :: rest)

/-- Whether the scanner takes a text by itself, if a blank follows. -/
def IsApart (text : String) : Prop := exists tokens, ScansTo none text.toList tokens

/-- The token of a blank. -/
def blank : Token := ⟨.plain, [' ']⟩

/-- Nothing is known of the character before a blank. -/
theorem scanFrom_blank (previous : Option Char) (rest : List Char) :
    scanFrom 0 previous (' ' :: rest) = blank :: scan rest := by
  have afresh : scanFrom 0 (some ' ') rest = scan rest := scanFrom_of_isGap rfl rfl rest
  rw [← afresh]
  rfl

variable {previous : Option Char} {text other : List Char} {tokens others : List Token}

theorem ScansTo.nil (previous : Option Char) : ScansTo previous [] [] := by
  intro rest
  exact (scanFrom_blank previous rest).trans (scanFrom_blank none rest).symm

theorem ScansTo.scan_append_blank (scans : ScansTo none text tokens) (rest : List Char) :
    scan (text ++ ' ' :: rest) = tokens ++ ([blank] ++ scan rest) := by
  rw [scan, scans rest, scan, scanFrom_blank]
  rfl

/-- A construct that ends where it should, whatever follows. -/
theorem ScansTo.construct (construct : Construct) (previous : Option Char)
    (ends : forall rest, construct.EndsBefore (text ++ ' ' :: rest))
    (later : ScansTo construct.text.getLast? text tokens) :
    ScansTo previous (construct.text ++ text) (⟨construct.kind, construct.text⟩ :: tokens) := by
  intro rest
  rw [List.append_assoc, scanFrom_construct_append construct (ends rest), later rest]
  rfl

/-- No token is empty. -/
theorem tokenAt_length_pos (previous : Option Char) (character : Char) (rest : List Char) :
    0 < (tokenAt previous character rest).2 := by
  by_cases starts : exists construct after,
      Construct.StandsAt construct (character :: rest) after
  · rcases starts with ⟨construct, after, stands⟩
    rw [tokenAt_construct stands]
    exact List.length_pos_iff.mpr construct.text_ne_nil
  · have alone : StandsAlone character rest :=
      fun construct after stands => starts ⟨construct, after, stands⟩
    rcases tokenAt_alone alone previous with taken | ⟨-, -, taken⟩ | ⟨-, content, after, -, -, taken⟩
    all_goals
      rw [taken]
      exact Nat.succ_pos _

/-- The texts of the tokens are the text that is scanned. -/
theorem flatMap_scanFrom (skip : Nat) (previous : Option Char) (characters : List Char) :
    (scanFrom skip previous characters).flatMap Token.text = characters.drop skip := by
  induction characters generalizing skip previous with
  | nil =>
      rw [scanFrom, List.drop_nil]
      rfl
  | cons character rest inductionHypothesis =>
      cases skip with
      | succ skip => exact inductionHypothesis skip (some character)
      | zero =>
          have positive := tokenAt_length_pos previous character rest
          rcases Nat.exists_eq_add_one_of_ne_zero (Nat.ne_of_gt positive) with ⟨more, length⟩
          rw [scanFrom, List.flatMap_cons, length, Nat.add_sub_cancel, inductionHypothesis,
            List.take_succ_cons, List.cons_append, List.take_append_drop]
          rfl

theorem ScansTo.flatMap_text (scans : ScansTo previous text tokens) :
    tokens.flatMap Token.text = text := by
  have whole := flatMap_scanFrom 0 previous (text ++ [' '])
  rw [scans [], List.flatMap_append, scan, flatMap_scanFrom, List.drop_zero, List.drop_zero] at whole
  exact List.append_cancel_right whole

/-! ## Texts that are kept -/

/-- Whether a text is kept as it stands, if blanks are around it. -/
def IsKept (dialect : Dialect) (text : String) : Prop :=
  exists tokens, ScansTo none text.toList tokens ∧
    forall token, token ∈ tokens -> token.IsKept dialect

/-! ## Between two blanks -/

/-- A text that is kept can be put between two blanks of a template, after a text that the scanner
takes by itself. -/
theorem parse_between_blanks {dialect : Dialect} {before text : String} (apart : IsApart before)
    (isKept : IsKept dialect text) (after : String) (style : ParameterStyle) :
    let without := before ++ "  " ++ after
    let whole := before ++ " " ++ text ++ " " ++ after
    match parse without dialect style with
    | .ok query => exists (first : ParsedQuery) (back : String),
        parse (before ++ " ") dialect style = .ok first ∧
        query.sql = first.sql ++ " " ++ back ∧
        parse whole dialect style =
          .ok { query with sql :=
            first.sql ++ String.ofList (style.literal text.toList) ++ " " ++ back }
    | .error fault => exists refusal other, parse whole dialect style = .error other ∧
        Refusal.Describes without fault refusal ∧ Refusal.Describes whole other refusal := by
  intro without whole
  rcases apart with ⟨front, scansFront⟩
  rcases isKept with ⟨tokens, scansText, kept⟩
  have firstTokens : scan (before ++ " ").toList = front ++ [blank] := by
    rw [String.toList_append]
    exact scansFront.scan_append_blank []
  have withoutTokens : scan without.toList = (front ++ [blank]) ++ (blank :: scan after.toList) := by
    have gap : scan (' ' :: after.toList) = blank :: scan after.toList := scanFrom_blank none _
    rw [List.append_assoc, ← gap, ← scansFront.scan_append_blank]
    simp only [without, String.toList_append, List.append_assoc]
    rfl
  have wholeTokens : scan whole.toList =
      (front ++ [blank]) ++ (tokens ++ (blank :: scan after.toList)) := by
    have gap : tokens ++ blank :: scan after.toList = scan (text.toList ++ ' ' :: after.toList) :=
      (scansText.scan_append_blank after.toList).symm
    rw [List.append_assoc, gap, ← scansFront.scan_append_blank]
    simp only [whole, String.toList_append, List.append_assoc]
    rfl
  have made := parse_insert withoutTokens wholeTokens kept style
  have rest (ordinal : Nat) : render style ordinal (pieces dialect (blank :: scan after.toList)) =
      [' '] ++ render style ordinal (pieces dialect (scan after.toList)) :=
    congrArg (· ++ render style ordinal (pieces dialect (scan after.toList)))
      (style.literal_eq_self (by decide) : style.literal [' '] = [' '])
  cases compiled : parse without dialect style with
  | error fault =>
      rw [compiled] at made
      exact made
  | ok query =>
      rcases parse_front firstTokens withoutTokens compiled with ⟨first, found, firstSql⟩
      rw [compiled] at made
      rcases made with ⟨sql, made⟩
      rw [scansText.flatMap_text, rest, String.ofList_append, String.ofList_append,
        String.ofList_append, ← firstSql, ← String.append_assoc, ← String.append_assoc] at made
      rw [rest, String.ofList_append, String.ofList_append, ← firstSql,
        ← String.append_assoc] at sql
      exact ⟨first, _, found, sql, made⟩

end Template
end SqlGateway
