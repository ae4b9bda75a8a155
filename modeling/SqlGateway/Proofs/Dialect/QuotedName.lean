import SqlGateway.Proofs.Template.Translation

namespace SqlGateway

/-!
# Quoted identifiers end where they should

An identifier may hold any character, also the quote that closes it.  The engines read a pair of
closing quotes as one, and the first closing quote that is not one of a pair ends the identifier.
So an identifier can consist of closing quotes, or end with one, and still is read back, as long as
what follows does not start with another closing quote.

The engine of one dialect has no pairs.  There an identifier with a closing quote is refused.
-/

namespace Dialect

/-! ## Reading -/

/-- Read an identifier after its opening quote: the identifier, and what follows its closing
quote. -/
def readName (closing : Char) : List Char -> Option (List Char × List Char)
  | [] => none
  | character :: rest =>
    if character = closing then
      match rest with
      | [] => some ([], [])
      | next :: after =>
        if next = closing then
          (readName closing after).map fun found => (closing :: found.1, found.2)
        else some ([], next :: after)
    else (readName closing rest).map fun found => (character :: found.1, found.2)

/-- Read a text that starts with a quoted identifier: the identifier, and what follows it.  The
quotes are single characters. -/
def readQuoted (dialect : Dialect) (characters : List Char) : Option (List Char × List Char) :=
  match dialect.quoteBegin.toList, dialect.quoteEnd.toList, characters with
  | [opening], [closing], character :: rest =>
    if character = opening then readName closing rest else none
  | _, _, _ => none

/-- An identifier in which every closing quote is written twice. -/
def doubled (closing : Char) (identifier : List Char) : List Char :=
  identifier.flatMap fun character =>
    if character = closing then [closing, closing] else [character]

variable {dialect : Dialect} {opening closing : Char} {identifier : List Char}

theorem doubled_cons_closing (closing : Char) (identifier : List Char) :
    doubled closing (closing :: identifier) = closing :: closing :: doubled closing identifier := by
  simp [doubled]

theorem doubled_cons_other {character : Char} (other : character ≠ closing)
    (identifier : List Char) :
    doubled closing (character :: identifier) = character :: doubled closing identifier := by
  simp [doubled, other]

theorem doubled_eq_self (absent : closing ∉ identifier) : doubled closing identifier = identifier := by
  induction identifier with
  | nil => rfl
  | cons character identifier inductionHypothesis =>
      rw [List.mem_cons, not_or] at absent
      rw [doubled_cons_other fun same => absent.1 same.symm, inductionHypothesis absent.2]

theorem readName_pair (closing : Char) (rest : List Char) :
    readName closing (closing :: closing :: rest) =
      (readName closing rest).map fun found => (closing :: found.1, found.2) := by
  rw [readName, if_pos rfl]
  exact if_pos rfl

theorem readName_end {rest : List Char} (ends : rest.head? ≠ some closing) :
    readName closing (closing :: rest) = some ([], rest) := by
  cases rest with
  | nil => rw [readName, if_pos rfl]
  | cons next after =>
      rw [readName, if_pos rfl]
      exact if_neg fun same => ends (congrArg some same)

theorem readName_other {character : Char} (other : character ≠ closing) (rest : List Char) :
    readName closing (character :: rest) =
      (readName closing rest).map fun found => (character :: found.1, found.2) := by
  rw [readName.eq_def]
  exact if_neg other

/-- Doubled quotes are read as one each, and the quote after them ends the identifier. -/
theorem readName_doubled (identifier : List Char) {rest : List Char}
    (ends : rest.head? ≠ some closing) :
    readName closing (doubled closing identifier ++ closing :: rest) = some (identifier, rest) := by
  induction identifier with
  | nil => exact readName_end ends
  | cons character identifier inductionHypothesis =>
      by_cases quote : character = closing
      · rw [quote, doubled_cons_closing, List.cons_append, List.cons_append, readName_pair,
          inductionHypothesis]
        rfl
      · rw [doubled_cons_other quote, List.cons_append, readName_other quote, inductionHypothesis]
        rfl

/-! ## Quoting -/

/-- Whether a dialect has two characters as quotes, and writes the closing one twice inside an
identifier if it can write it at all. -/
structure QuotesWith (dialect : Dialect) (opening closing : Char) : Prop where
  begins : dialect.quoteBegin.toList = [opening]
  ends : dialect.quoteEnd.toList = [closing]
  escapes : forall escape, dialect.quoteEscape = some escape -> escape = dialect.quoteEnd

theorem QuotesWith.quotedName_eq (quotes : dialect.QuotesWith opening closing)
    (quotable : dialect.cannotQuote identifier = false) :
    dialect.quotedName identifier = opening :: (doubled closing identifier ++ [closing]) := by
  unfold cannotQuote at quotable
  unfold quotedName
  cases escaped : dialect.quoteEscape with
  | none =>
      have absent : closing ∉ identifier := by
        rw [escaped, quotes.ends] at quotable
        rw [← Text.occurs_single]
        exact Bool.eq_false_iff.mp quotable
      rw [quotes.begins, quotes.ends, doubled_eq_self absent]
      rfl
  | some escape =>
      have same : escape.toList = [closing] := by
        rw [quotes.escapes escape escaped, quotes.ends]
      simp only [quotes.begins, quotes.ends, same, Text.replace_single, List.append_assoc]
      rfl

/-- What is quoted can be read back. -/
theorem QuotesWith.readQuoted_quotedName (quotes : dialect.QuotesWith opening closing)
    (quotable : dialect.cannotQuote identifier = false) {rest : List Char}
    (ends : ¬ dialect.quoteEnd.toList <+: rest) :
    dialect.readQuoted (dialect.quotedName identifier ++ rest) = some (identifier, rest) := by
  have single : rest.head? ≠ some closing := by
    intro starts
    rcases List.head?_eq_some_iff.mp starts with ⟨after, same⟩
    rw [quotes.ends, same] at ends
    exact ends ⟨after, rfl⟩
  have split : dialect.quotedName identifier ++ rest =
      opening :: (doubled closing identifier ++ closing :: rest) := by
    rw [quotes.quotedName_eq quotable, List.cons_append, List.append_assoc]
    rfl
  simp only [split, readQuoted, quotes.begins, quotes.ends, if_true]
  exact readName_doubled identifier single

/-- The pairs of quotes that the supported engines use. -/
def quotePairs : List (Char × Char) :=
  [('\x60', '\x60'), ('[', ']'), (Text.doubleQuote, Text.doubleQuote)]

theorem quotesWith_of_builtin (supported : dialect ∈ builtin) :
    exists opening closing, dialect.QuotesWith opening closing ∧ (opening, closing) ∈ quotePairs := by
  simp only [builtin, List.mem_cons, List.not_mem_nil, or_false] at supported
  rcases supported with rfl | rfl | rfl | rfl | rfl | rfl | rfl | rfl | rfl
  case inr.inr.inr.inr.inr.inl => exact ⟨_, _, ⟨rfl, rfl, nofun⟩, by decide⟩
  all_goals
    exact ⟨_, _, ⟨rfl, rfl, fun _ escaped => (Option.some.inj escaped).symm⟩, by decide⟩

/-- The opening quote of an engine says which its closing quote is. -/
theorem quotesWith_of_begins (supported : dialect ∈ builtin)
    (begins : dialect.quoteBegin.toList = [opening]) (pair : (opening, closing) ∈ quotePairs) :
    dialect.QuotesWith opening closing := by
  rcases quotesWith_of_builtin supported with ⟨other, otherClosing, quotes, known⟩
  have same : other = opening := (List.cons.inj (quotes.begins.symm.trans begins)).1
  have unique : forall first, first ∈ quotePairs -> forall second, second ∈ quotePairs ->
      first.1 = second.1 -> first.2 = second.2 := by
    decide
  have sameClosing : otherClosing = closing := unique _ known _ pair same
  rw [← same, ← sameClosing]
  exact quotes

/-- Only one engine has no way to write a closing quote. -/
theorem cannotQuote_iff (supported : dialect ∈ builtin) (identifier : List Char) :
    dialect.cannotQuote identifier = true ↔ dialect = firebird ∧ Text.doubleQuote ∈ identifier := by
  by_cases only : dialect = firebird
  · subst only
    rw [← Text.occurs_single]
    exact (and_iff_right rfl).symm
  · have escapes : dialect.quoteEscape.isNone = false := by
      simp only [builtin, List.mem_cons, List.not_mem_nil, or_false] at supported
      rcases supported with rfl | rfl | rfl | rfl | rfl | rfl | rfl | rfl | rfl
      case inr.inr.inr.inr.inr.inl => exact absurd rfl only
      all_goals rfl
    rw [cannotQuote, escapes, Bool.false_and]
    exact iff_of_false Bool.false_ne_true fun found => only found.1

theorem quoteIdentifier_eq {identifier : String}
    (quotable : dialect.cannotQuote identifier.toList = false) :
    dialect.quoteIdentifier identifier =
      .ok (String.ofList (dialect.quotedName identifier.toList)) := by
  unfold quoteIdentifier
  rw [quoteChars?_eq, quotable]
  rfl

theorem quoteIdentifier_refused {identifier : String}
    (refused : dialect.cannotQuote identifier.toList = true) :
    dialect.quoteIdentifier identifier = .error (dialect.unquotable identifier) := by
  unfold quoteIdentifier
  rw [quoteChars?_eq, refused]
  rfl

theorem toList_of_quoteIdentifier {identifier quoted : String}
    (quoting : dialect.quoteIdentifier identifier = .ok quoted) :
    dialect.cannotQuote identifier.toList = false ∧
      quoted.toList = dialect.quotedName identifier.toList := by
  cases refused : dialect.cannotQuote identifier.toList with
  | true =>
      rw [quoteIdentifier_refused refused] at quoting
      cases quoting
  | false =>
      rw [quoteIdentifier_eq refused] at quoting
      rw [← Except.ok.inj quoting, String.toList_ofList]
      exact ⟨rfl, rfl⟩

/-- Quoting fails in one dialect only, for identifiers with the quote, and otherwise the quoted
identifier can be told from whatever follows it: it is read as the identifier, and the rest is left.
So no two identifiers are quoted alike. -/
theorem quoteIdentifier_selfDelimiting (dialect : Dialect) (supported : dialect ∈ builtin)
    (identifier : String) :
    ((exists fault, dialect.quoteIdentifier identifier = .error fault) ↔
      dialect = firebird ∧ Text.doubleQuote ∈ identifier.toList) ∧
    forall quoted, dialect.quoteIdentifier identifier = .ok quoted ->
      (forall rest : String, ¬ dialect.quoteEnd.toList <+: rest.toList ->
        dialect.readQuoted (quoted ++ rest).toList = some (identifier.toList, rest.toList)) ∧
      forall other, dialect.quoteIdentifier other = .ok quoted -> other = identifier := by
  rcases quotesWith_of_builtin supported with ⟨opening, closing, quotes, -⟩
  have readBack {name quoted : String} (quoting : dialect.quoteIdentifier name = .ok quoted)
      (rest : String) (ends : ¬ dialect.quoteEnd.toList <+: rest.toList) :
      dialect.readQuoted (quoted ++ rest).toList = some (name.toList, rest.toList) := by
    rcases toList_of_quoteIdentifier quoting with ⟨quotable, same⟩
    rw [String.toList_append, same]
    exact quotes.readQuoted_quotedName quotable ends
  constructor
  · rw [← cannotQuote_iff supported]
    cases refused : dialect.cannotQuote identifier.toList with
    | true => exact iff_of_true ⟨_, quoteIdentifier_refused refused⟩ rfl
    | false =>
        rw [quoteIdentifier_eq refused]
        exact iff_of_false (fun ⟨_, failed⟩ => nomatch failed) Bool.false_ne_true
  · intro quoted quoting
    refine ⟨readBack quoting, fun other otherQuoting => ?_⟩
    have nothing : ¬ dialect.quoteEnd.toList <+: "".toList := by
      rw [quotes.ends]
      exact fun starts => absurd starts.length_le (Nat.not_succ_le_zero 0)
    have same := (readBack otherQuoting "" nothing).symm.trans (readBack quoting "" nothing)
    exact String.toList_injective (Prod.mk.inj (Option.some.inj same)).1

/-- An identifier that is one closing bracket, with text after it that starts with a bracket of the
other kind. -/
theorem readQuoted_bracket :
    (bracketQuoted "odbc" .question "odbc").readQuoted ("[]]]" ++ "[a]").toList =
      some ("]".toList, "[a]".toList) :=
  ((quoteIdentifier_selfDelimiting (bracketQuoted "odbc" .question "odbc") (by decide) "]").2
    "[]]]" rfl).1 "[a]" (by decide)

end Dialect
end SqlGateway
