import SqlGateway.Adapter
import SqlGateway.Proofs.Template.Kept

namespace SqlGateway

/-!
# Literals that end where they should

A text is put into a statement as a literal: between quotes, with every quote in it doubled.  Two
readers meet such a literal, one after the other.  The compiler knows nothing of backslashes, and
the engine may know them.  Both must find its end at the same place, whatever the text is, or a
part of the text would be read as a part of the statement.

To the compiler, the literal is one construct of the grammar, so the scanner goes on after it as at
the start of a template.  To the engine of MySQL a backslash takes the character after it along;
there the adapter doubles backslashes, so none is left to take a quote along.

What follows the literal must not start with a quote, which would be one of a pair.
-/

/-! ## How engines read literals -/

namespace Adapter

/-- Whether a backslash in a literal has a meaning to the engine. -/
def readsBackslashes : Adapter → Bool
  | .mysql => true
  | _ => false

/-- What a backslash and the character after it stand for in a literal.  Signs of patterns keep
their backslash. -/
def unescaped : Char → List Char
  | '0' => [Char.ofNat 0x00]
  | 'b' => [Char.ofNat 0x08]
  | 't' => ['\t']
  | 'n' => ['\n']
  | 'r' => ['\r']
  | 'Z' => [Char.ofNat 0x1a]
  | '%' => [Text.backslash, '%']
  | '_' => [Text.backslash, '_']
  | character => [character]

/-- Characters in front of the content that is read after them. -/
def precededBy (characters : List Char) (read : Option (List Char × List Char)) :
    Option (List Char × List Char) :=
  read.map fun found => (characters ++ found.1, found.2)

/-- Read a literal after its opening quote: the content, and what follows the closing quote.  A
pair of quotes stands for one. -/
def readContent (backslashes : Bool) : List Char → Option (List Char × List Char)
  | [] => none
  | character :: rest =>
    if character = Text.singleQuote then
      match rest with
      | [] => some ([], [])
      | next :: after =>
        if next = Text.singleQuote then precededBy [next] (readContent backslashes after)
        else some ([], next :: after)
    else if backslashes && character = Text.backslash then
      match rest with
      | [] => none
      | next :: after => precededBy (unescaped next) (readContent backslashes after)
    else precededBy [character] (readContent backslashes rest)

/-- Read a text that starts with a literal, as the engine of an adapter does: the content of the
literal, and what follows it. -/
def readLiteral (adapter : Adapter) : List Char → Option (List Char × List Char)
  | [] => none
  | character :: rest =>
    if character = Text.singleQuote then readContent adapter.readsBackslashes rest else none

theorem readContent_pair (backslashes : Bool) (rest : List Char) :
    readContent backslashes (Text.singleQuote :: Text.singleQuote :: rest) =
      precededBy [Text.singleQuote] (readContent backslashes rest) := by
  rw [readContent, if_pos rfl]
  exact if_pos rfl

theorem readContent_end (backslashes : Bool) {rest : List Char}
    (ends : rest.head? ≠ some Text.singleQuote) :
    readContent backslashes (Text.singleQuote :: rest) = some ([], rest) := by
  cases rest with
  | nil => rfl
  | cons next after =>
      have single : next ≠ Text.singleQuote := fun same => ends (congrArg some same)
      rw [readContent, if_pos rfl]
      exact if_neg single

theorem readContent_escape (next : Char) (rest : List Char) :
    readContent true (Text.backslash :: next :: rest) =
      precededBy (unescaped next) (readContent true rest) := by
  have apart : Text.backslash ≠ Text.singleQuote := by decide
  rw [readContent, if_neg apart]
  rfl

theorem readContent_plain {backslashes : Bool} {character : Char}
    (quote : character ≠ Text.singleQuote)
    (plain : backslashes = true -> character ≠ Text.backslash) (rest : List Char) :
    readContent backslashes (character :: rest) =
      precededBy [character] (readContent backslashes rest) := by
  have passed : ¬ (backslashes && decide (character = Text.backslash)) = true := by
    rw [Bool.and_eq_true, decide_eq_true_eq]
    exact fun taken => plain taken.1 taken.2
  rw [readContent.eq_def]
  simp only [if_neg quote, if_neg passed]

/-- The content of a literal before quotes are doubled. -/
def guarded (backslashes : Bool) (content : List Char) : List Char :=
  content.flatMap fun character =>
    if backslashes ∧ character = Text.backslash then [character, character] else [character]

theorem guarded_backslash (content : List Char) :
    guarded true (Text.backslash :: content) =
      Text.backslash :: Text.backslash :: guarded true content := by
  simp [guarded]

theorem guarded_plain {backslashes : Bool} {character : Char}
    (plain : backslashes = true -> character ≠ Text.backslash) (content : List Char) :
    guarded backslashes (character :: content) = character :: guarded backslashes content := by
  have passed : ¬ (backslashes = true ∧ character = Text.backslash) :=
    fun taken => plain taken.1 taken.2
  simp [guarded, passed]

/-- The engine reads the content back, and stops at the closing quote. -/
theorem readContent_paired (backslashes : Bool) (content : List Char) {rest : List Char}
    (ends : rest.head? ≠ some Text.singleQuote) :
    readContent backslashes
        (Template.paired (guarded backslashes content) ++ Text.singleQuote :: rest) =
      some (content, rest) := by
  induction content with
  | nil => exact readContent_end backslashes ends
  | cons character content inductionHypothesis =>
      by_cases quote : character = Text.singleQuote
      · subst quote
        have plain : backslashes = true -> Text.singleQuote ≠ Text.backslash := fun _ => by decide
        rw [guarded_plain plain, Template.paired_quote, List.cons_append, List.cons_append,
          readContent_pair, inductionHypothesis]
        rfl
      · by_cases taken : backslashes = true ∧ character = Text.backslash
        · rcases taken with ⟨rfl, rfl⟩
          rw [guarded_backslash, Template.paired_other quote, Template.paired_other quote,
            List.cons_append, List.cons_append, readContent_escape, inductionHypothesis]
          rfl
        · have plain : backslashes = true -> character ≠ Text.backslash :=
            fun reads same => taken ⟨reads, same⟩
          rw [guarded_plain plain, Template.paired_other quote, List.cons_append,
            readContent_plain quote plain, inductionHypothesis]
          rfl

/-- A literal is a literal of templates, whose content is guarded for the engine. -/
theorem literalChars_eq (adapter : Adapter) (content : List Char) :
    adapter.literalChars content =
      (Template.Construct.literal (guarded adapter.readsBackslashes content)).text := by
  have doubling (mark : Char) (characters : List Char) :
      Text.replace [mark] [mark, mark] characters = characters.flatMap fun character =>
        if character = mark then [character, character] else [character] := by
    rw [Text.replace_single]
    congr 1
    funext character
    by_cases marked : character = mark
    · rw [if_pos marked, if_pos marked, marked]
    · rw [if_neg marked, if_neg marked]
  cases adapter with
  | mysql =>
      simp only [literalChars, doubling, Template.Construct.text, Template.paired, guarded,
        readsBackslashes, true_and]
  | _ =>
      simp [literalChars, doubling, Template.Construct.text, Template.paired, guarded,
        readsBackslashes]

theorem readLiteral_literalChars (adapter : Adapter) (content : List Char) {rest : List Char}
    (ends : rest.head? ≠ some Text.singleQuote) :
    adapter.readLiteral (adapter.literalChars content ++ rest) = some (content, rest) := by
  have same : adapter.literalChars content ++ rest =
      Text.singleQuote :: (Template.paired (guarded adapter.readsBackslashes content) ++
        Text.singleQuote :: rest) := by
    simp [literalChars_eq, Template.Construct.text]
  rw [same, readLiteral, if_pos rfl]
  exact readContent_paired adapter.readsBackslashes content ends

end Adapter

/-! ## What the compiler makes of a literal and what follows it -/

namespace Template

/-- What starts at a place does not depend on the character before, if neither is one of a
word. -/
theorem scanFrom_of_isGap {previous other : Option Char} (gap : isGap previous = true)
    (otherGap : isGap other = true) (characters : List Char) :
    scanFrom 0 previous characters = scanFrom 0 other characters := by
  cases characters with
  | nil => rfl
  | cons character rest =>
      have sameToken : tokenAt previous character rest = tokenAt other character rest := by
        simp only [tokenAt, isSelect, gap, otherGap]
      rw [scanFrom, scanFrom, sameToken]

/-- A literal is one token, and the scanner goes on after it as at the start of a template. -/
theorem scan_literal (content : List Char) {rest : List Char}
    (ends : rest.head? ≠ some Text.singleQuote) :
    scan ((Construct.literal content).text ++ rest) =
      ⟨.verbatim, (Construct.literal content).text⟩ :: scan rest := by
  have last : (Construct.literal content).text.getLast? = some Text.singleQuote :=
    (List.getLast?_concat (l := Text.singleQuote :: paired content))
  have afresh : scanFrom 0 (some Text.singleQuote) rest = scan rest :=
    scanFrom_of_isGap rfl rfl rest
  rw [scan, scanFrom_construct_append (.literal content) ends, last, afresh]
  rfl

/-- The compiler makes of a literal and what follows it what it makes of that alone, with the
literal before it. -/
theorem parse_literal (content : List Char) {rest : String}
    (ends : rest.toList.head? ≠ some Text.singleQuote) (dialect : Dialect)
    (style : ParameterStyle) :
    let literal := (Construct.literal content).text
    let whole := String.ofList literal ++ rest
    match parse rest dialect style with
    | .ok query => parse whole dialect style =
        .ok { query with sql := String.ofList (style.literal literal) ++ query.sql }
    | .error fault => exists refusal other, parse whole dialect style = .error other ∧
        Refusal.Describes rest fault refusal ∧ Refusal.Describes whole other refusal := by
  intro literal whole
  have tokens : scan whole.toList = [] ++ ([⟨.verbatim, literal⟩] ++ scan rest.toList) := by
    rw [String.toList_append, String.toList_ofList]
    exact scan_literal content ends
  have text : [Token.mk .verbatim literal].flatMap Token.text = literal := List.append_nil literal
  have made := parse_insert (List.nil_append (scan rest.toList)).symm tokens
    (List.forall_mem_singleton.mpr (isKept_verbatim dialect literal)) style
  cases compiled : parse rest dialect style with
  | error fault =>
      rw [compiled] at made
      exact made
  | ok query =>
      rw [compiled] at made
      rcases made with ⟨sql, made⟩
      have joined : String.ofList (style.literal literal) ++ query.sql =
          String.ofList ([] ++ (style.literal literal ++
            ([] ++ render style 0 (pieces dialect (scan rest.toList))))) := by
        rw [sql, ← String.ofList_append]
        rfl
      rw [text] at made
      simp only [made, joined]
      rfl

end Template

/-! ## Literals in templates -/

namespace Adapter

open Template (Cache Refusal)

/-- A literal that an adapter writes is ended by its own last quote, whatever text it holds and
whatever follows but another quote.  The compiler makes of both together what it makes of the
second alone, with the literal before it, or refuses both for the same reason.  And the
engine of the adapter reads the text back, and what follows it is left. -/
theorem quoteLiteral_selfDelimiting (adapter : Adapter) (content : String) {rest : String}
    (ends : rest.toList.head? ≠ some Text.singleQuote) :
    (forall (cache : Cache) (dialect : Dialect) (style : Option ParameterStyle),
      cache.Sound -> dialect ∈ Dialect.builtin ->
      let literal := adapter.quoteLiteral content
      let written := String.ofList ((style.getD dialect.style).literal literal.toList)
      let together := (cache.compile (literal ++ rest) dialect style).1
      match (cache.compile rest dialect style).1 with
      | .ok query => together = .ok { query with sql := written ++ query.sql }
      | .error fault => exists refusal other, together = .error other ∧
          Refusal.Describes rest fault refusal ∧
          Refusal.Describes (literal ++ rest) other refusal) ∧
    adapter.readLiteral (adapter.quoteLiteral content ++ rest).toList =
      some (content.toList, rest.toList) := by
  have isLiteral : (adapter.quoteLiteral content).toList =
      (Template.Construct.literal (guarded adapter.readsBackslashes content.toList)).text := by
    rw [quoteLiteral, String.toList_ofList, literalChars_eq]
  constructor
  · intro cache dialect style sound supported literal written together
    have compiled := Template.parse_literal (guarded adapter.readsBackslashes content.toList) ends
      dialect (style.getD dialect.style)
    simp only [← isLiteral, String.ofList_toList] at compiled
    simp only [together, written, literal, Cache.compile_of_sound sound supported]
    exact compiled
  · rw [String.toList_append, quoteLiteral, String.toList_ofList]
    exact readLiteral_literalChars adapter content.toList ends

/-- A backslash before a quote does not take the quote along, and nothing in the text is read as
a placeholder, a name or a comment. -/
theorem quoteLiteral_selfDelimiting_backslash :
    " OR [name] = %s".toList.head? ≠ some Text.singleQuote ∧
    (Cache.ofCapacity 0).Sound ∧ Dialect.graveQuoted "mysql" ∈ Dialect.builtin ∧
    Adapter.mysql.quoteLiteral "\\' OR 1=1 -- %s [" = "'\\\\'' OR 1=1 -- %s ['" ∧
    ((Cache.ofCapacity 0).compile ("'\\\\'' OR 1=1 -- %s ['" ++ " OR [name] = %s")
      (Dialect.graveQuoted "mysql") none).1 =
        .ok ⟨"'\\\\'' OR 1=1 -- %%s [' OR \x60name\x60 = %s", [.string], []⟩ ∧
    Adapter.mysql.readLiteral ("'\\\\'' OR 1=1 -- %s ['" ++ " OR [name] = %s").toList =
      some ("\\' OR 1=1 -- %s [".toList, " OR [name] = %s".toList) := by
  have ends : " OR [name] = %s".toList.head? ≠ some Text.singleQuote := by decide
  have sound : (Cache.ofCapacity 0).Sound := Template.Cache.sound_ofCapacity 0
  have supported : Dialect.graveQuoted "mysql" ∈ Dialect.builtin := by decide
  have quoted : Adapter.mysql.quoteLiteral "\\' OR 1=1 -- %s [" = "'\\\\'' OR 1=1 -- %s ['" := by
    decide +kernel
  have alone : ((Cache.ofCapacity 0).compile " OR [name] = %s" (Dialect.graveQuoted "mysql")
      none).1 = .ok ⟨" OR \x60name\x60 = %s", [.string], []⟩ :=
    rfl
  have both := quoteLiteral_selfDelimiting .mysql "\\' OR 1=1 -- %s [" ends
  rw [quoted] at both
  have together := both.1 _ _ none sound supported
  simp only [alone] at together
  exact ⟨ends, sound, supported, quoted, together, both.2⟩

end Adapter
end SqlGateway
