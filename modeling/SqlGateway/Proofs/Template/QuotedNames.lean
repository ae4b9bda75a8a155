import SqlGateway.Proofs.Template.Blanks
import SqlGateway.Proofs.Template.Copied

namespace SqlGateway
namespace Template

/-!
# Quoted identifiers in templates

An identifier is quoted for an engine, and the quoted text may then be put into a template, which
the compiler reads before the engine does.  The two do not have the same quotes.  Double quotes are
quotes to both, so between them nothing has a meaning to the compiler; a pair of them ends one name
and starts the next.  Brackets are quotes to both as well, but the compiler knows no pairs of
brackets and, for such an engine, refuses a bracket between brackets.  Grave accents are plain
characters to the compiler, and the identifier between them is read like any other text.
-/

/-! ## Texts without a meaning -/

/-- Whether a construct could start with a character, if a certain one follows. -/
def opens (character : Char) (next : Option Char) : Bool :=
  character ∈ [Text.singleQuote, Text.doubleQuote, '[', '\x7b'] ||
    (character = '-' && next = some '-') ||
    (character = '/' && next = some '*') ||
    (character = '%' && (next.bind TypeCode.ofLetter?).isSome)

/-- Whether a text has no meaning to templates after a certain character: no construct could start
in it, and neither a column nor a list of columns does. -/
def isMeaningless (previous : Option Char) : List Char -> Bool
  | [] => true
  | character :: rest =>
    !opens character rest.head? && character ∉ ['(', ')', ','] &&
      !isSelect previous (character :: rest) && isMeaningless (some character) rest

variable {dialect : Dialect} {previous : Option Char} {text : List Char}

theorem standsAlone_of_opens {character : Char} {tail : List Char}
    (closed : opens character tail.head? = false) : StandsAlone character tail := by
  rintro construct rest ⟨same, -⟩
  cases construct with
  | placeholder code =>
      rcases List.cons.inj same with ⟨rfl, rfl⟩
      cases code <;> cases closed
  | _ =>
      rcases List.cons.inj same with ⟨rfl, rfl⟩
      cases closed

theorem opens_append_blank (character : Char) (text rest : List Char) :
    opens character (text ++ ' ' :: rest).head? = opens character text.head? := by
  cases text with
  | cons next text => rfl
  | nil =>
      have code : TypeCode.ofLetter? ' ' = none := by decide
      simp [opens, code]

theorem afterLetters?_append_blank {letters : List (List Char)}
    (blankless : forall spellings, spellings ∈ letters -> ' ' ∉ spellings) (text rest : List Char) :
    afterLetters? letters (text ++ ' ' :: rest) =
      (afterLetters? letters text).map fun left => left ++ ' ' :: rest := by
  induction letters generalizing text with
  | nil => rfl
  | cons spellings letters inductionHypothesis =>
      cases text with
      | nil => exact if_neg (blankless spellings List.mem_cons_self)
      | cons character text =>
          rw [List.cons_append, afterLetters?, afterLetters?]
          split
          · exact inductionHypothesis
              (fun other member => blankless other (List.mem_cons_of_mem spellings member)) text
          · rfl

/-- A blank ends a word as the end of a text does. -/
theorem isSelect_append_blank (previous : Option Char) (text rest : List Char) :
    isSelect previous (text ++ ' ' :: rest) = isSelect previous text := by
  have blankless : forall spellings, spellings ∈ selectLetters -> ' ' ∉ spellings := by decide
  rw [isSelect, isSelect, afterLetters?_append_blank blankless]
  cases afterLetters? selectLetters text with
  | none => rfl
  | some left => cases left <;> rfl

theorem isKept_plain {character : Char}
    (free : character ∉ [Text.singleQuote, '[', '\x7b', '(', ')', ',']) :
    Token.IsKept dialect ⟨plainKind character, [character]⟩ := by
  have kind : plainKind character = .plain ∨ plainKind character = .percent := by
    simp only [List.mem_cons, List.not_mem_nil, or_false, not_or] at free
    rcases free with ⟨quote, bracket, brace, opening, closing, comma⟩
    unfold plainKind
    rw [if_neg quote, if_neg bracket, if_neg brace, if_neg opening, if_neg closing, if_neg comma]
    split
    · exact .inr rfl
    · exact .inl rfl
  rcases kind with plain | percent
  · rw [plain]
    exact ⟨fun _ => rfl, rfl, fun _ => rfl, fun _ => rfl⟩
  · rw [percent]
    exact ⟨fun _ => rfl, rfl, fun _ => rfl, fun _ => rfl⟩

/-- A text without a meaning is taken one character at a time, and each is kept. -/
theorem scansTo_of_isMeaningless (dialect : Dialect)
    (meaningless : isMeaningless previous text = true) :
    exists tokens, (forall token, token ∈ tokens -> token.IsKept dialect) ∧
      ScansTo previous text tokens := by
  induction text generalizing previous with
  | nil => exact ⟨[], List.forall_mem_nil _, .nil previous⟩
  | cons character text inductionHypothesis =>
      rw [isMeaningless] at meaningless
      simp only [Bool.and_eq_true, Bool.not_eq_true', decide_eq_true_eq] at meaningless
      rcases meaningless with ⟨⟨⟨closed, still⟩, noWord⟩, meaninglessLater⟩
      rcases inductionHypothesis meaninglessLater with ⟨tokens, keptLater, later⟩
      have kept : Token.IsKept dialect ⟨plainKind character, [character]⟩ := by
        apply isKept_plain
        intro known
        simp only [List.mem_cons, List.not_mem_nil, or_false] at known still
        rcases known with rfl | rfl | rfl | known
        iterate 3 cases closed
        exact still known
      have taken (rest : List Char) :
          tokenAt previous character (text ++ ' ' :: rest) = (plainKind character, 1) := by
        have alone : StandsAlone character (text ++ ' ' :: rest) :=
          standsAlone_of_opens ((opens_append_blank character text rest).trans closed)
        rcases tokenAt_alone alone previous with single | ⟨-, word, -⟩ | ⟨quote, -⟩
        · exact single
        · rw [← List.cons_append, isSelect_append_blank, noWord] at word
          cases word
        · rw [quote] at closed
          cases closed
      refine ⟨_, List.forall_mem_cons.mpr ⟨kept, keptLater⟩, fun rest => ?_⟩
      rw [List.cons_append, scanFrom, taken]
      exact congrArg (_ :: ·) (later rest)

/-- Marks that start nothing, in a name between grave accents. -/
example : isMeaningless none "\x60share-of 100%\x60".toList = true := by decide

/-! ## Texts that are quoted -/

/-- A name between double quotes ends where the first of a pair stands, and another name starts
with the second.  What stands between the pairs before is in `content`. -/
theorem scansTo_doubleQuoted (identifier : List Char) {content : List Char}
    (absent : Text.doubleQuote ∉ content) (previous : Option Char) :
    exists tokens, (forall token, token ∈ tokens -> token.IsKept dialect) ∧
      ScansTo previous (Text.doubleQuote ::
        (content ++ (Dialect.doubled Text.doubleQuote identifier ++ [Text.doubleQuote]))) tokens := by
  have kept (content : List Char) : Token.IsKept dialect
      ⟨(Construct.quotedName content).kind, (Construct.quotedName content).text⟩ :=
    isKept_verbatim dialect _
  induction identifier generalizing content previous with
  | nil =>
      refine ⟨_, List.forall_mem_singleton.mpr (kept content), ?_⟩
      have scans := ScansTo.construct (.quotedName content) previous (fun _ => absent) (.nil _)
      rwa [List.append_nil] at scans
  | cons character identifier inductionHypothesis =>
      by_cases quote : character = Text.doubleQuote
      · rw [quote, Dialect.doubled_cons_closing]
        rcases inductionHypothesis (List.not_mem_nil (a := Text.doubleQuote))
          (Construct.quotedName content).text.getLast? with ⟨tokens, keptLater, later⟩
        refine ⟨_, List.forall_mem_cons.mpr ⟨kept content, keptLater⟩, ?_⟩
        have scans := ScansTo.construct (.quotedName content) previous (fun _ => absent) later
        simpa only [Construct.text, List.cons_append, List.append_assoc, List.nil_append] using scans
      · have longer : Text.doubleQuote ∉ content ++ [character] := by
          rw [List.mem_append, List.mem_singleton, not_or]
          exact ⟨absent, fun same => quote same.symm⟩
        have moved := inductionHypothesis longer previous
        rw [Dialect.doubled_cons_other quote]
        simpa only [List.append_assoc, List.cons_append, List.nil_append] using moved

/-- A name between brackets is kept by an engine that quotes with brackets. -/
theorem isKept_identifier (supported : dialect ∈ Dialect.builtin)
    (quotes : dialect.quoteBegin = "[") {name : List Char} (opening : '[' ∉ name)
    (closing : ']' ∉ name) :
    Token.IsKept dialect ⟨.identifier, (Construct.identifier name).text⟩ := by
  rcases quotedName_bracket supported quotes closing with ⟨quotable, same⟩
  have copied : (Lexeme.construct (.identifier name)).IsCopied dialect :=
    .identifier quotes opening closing
  refine ⟨fun depth => ?_, ?_, fun _ => rfl, fun _ => rfl⟩
  · have judged := mistake?_construct dialect depth (.identifier name)
    rw [copied.accepted supported depth] at judged
    exact Option.map_eq_none_iff.mp judged
  · rw [image_identifier quotable, same]

/-- The quoted identifiers of which the compiler takes the whole as it stands: between double
quotes all, between brackets those without brackets, and in any case a quoted text that has no
meaning. -/
inductive IsSettled (dialect : Dialect) (identifier : List Char) (quoted : List Char) : Prop where
  | doubleQuoted (quotes : dialect.quoteBegin = "\x22")
  | bracketed (quotes : dialect.quoteBegin = "[") (opening : '[' ∉ identifier)
      (closing : ']' ∉ identifier)
  | meaningless (nothing : isMeaningless none quoted = true)

theorem isKept_of_isSettled (supported : dialect ∈ Dialect.builtin) {identifier quoted : String}
    (quoting : dialect.quoteIdentifier identifier = .ok quoted)
    (settled : IsSettled dialect identifier.toList quoted.toList) : IsKept dialect quoted := by
  rcases Dialect.toList_of_quoteIdentifier quoting with ⟨quotable, same⟩
  cases settled with
  | doubleQuoted quotes =>
      have begins : dialect.quoteBegin.toList = [Text.doubleQuote] := by
        rw [quotes]
        rfl
      have pair := Dialect.quotesWith_of_begins supported begins (by decide : (_, Text.doubleQuote) ∈ _)
      rcases scansTo_doubleQuoted identifier.toList (List.not_mem_nil (a := Text.doubleQuote)) none with
        ⟨tokens, kept, scans⟩
      refine ⟨tokens, ?_, kept⟩
      rw [same, pair.quotedName_eq quotable]
      exact scans
  | bracketed quotes opening closing =>
      have sameText := (quotedName_bracket supported quotes closing).2
      have scans := ScansTo.construct (.identifier identifier.toList) none (fun _ => closing)
        (.nil _)
      have kept := isKept_identifier supported quotes opening closing
      rw [List.append_nil] at scans
      rw [← sameText, ← same] at scans kept
      exact ⟨_, scans, List.forall_mem_singleton.mpr kept⟩
  | meaningless nothing =>
      rcases scansTo_of_isMeaningless dialect nothing with ⟨tokens, kept, scans⟩
      exact ⟨tokens, scans, kept⟩

/-! ## Quoted identifiers in templates -/

/-- Grave accents do not keep what is between them from the compiler: a part of the identifier
becomes a placeholder. -/
theorem quotedIdentifier_placeholder :
    (Dialect.graveQuoted "mysql").quoteIdentifier "a%i" = .ok "\x60a%i\x60" ∧
    ((Cache.ofCapacity 0).compile (" " ++ "\x60a%i\x60" ++ " ") (Dialect.graveQuoted "mysql")
      none).1 = .ok ⟨" \x60a%s\x60 ", [.integer], []⟩ := by
  constructor <;> rfl

/-- What becomes of a quoted identifier in a template.  Alone between blanks it is its own native
text, without parameters and columns, if and only if all parts of its reading are copied.  If it is
kept, it can stand between two blanks of any template, after a text that the compiler reads by
itself, and nothing but the text itself is added to the query.  And it is kept whatever the
identifier is if the engine quotes with double quotes; if the identifier has no brackets and the
engine quotes with brackets; and if its text has no meaning to templates. -/
theorem quotedIdentifier_inTemplates (dialect : Dialect) (supported : dialect ∈ Dialect.builtin)
    (identifier quoted : String) (quoting : dialect.quoteIdentifier identifier = .ok quoted)
    (cache : Cache) (sound : cache.Sound) (style : Option ParameterStyle) :
    let written (text : String) := String.ofList ((style.getD dialect.style).literal text.toList)
    let compile (template : String) := (cache.compile template dialect style).1
    let alone := " " ++ quoted ++ " "
    (compile alone = .ok ⟨written alone, [], []⟩ ↔
      exists lexemes, Reading alone.toList lexemes ∧
        forall lexeme, lexeme ∈ lexemes -> lexeme.IsCopied dialect) ∧
    (IsSettled dialect identifier.toList quoted.toList -> IsKept dialect quoted) ∧
    (IsKept dialect quoted -> forall before after, IsApart before ->
      let without := before ++ "  " ++ after
      let whole := before ++ " " ++ quoted ++ " " ++ after
      match compile without with
      | .ok query => exists (first : ParsedQuery) (back : String),
          compile (before ++ " ") = .ok first ∧ query.sql = first.sql ++ " " ++ back ∧
          compile whole =
            .ok { query with sql := first.sql ++ written quoted ++ " " ++ back }
      | .error fault => exists refusal other, compile whole = .error other ∧
          Refusal.Describes without fault refusal ∧ Refusal.Describes whole other refusal) := by
  intro written compile alone
  have compiled (template : String) :
      compile template = parse template dialect (style.getD dialect.style) :=
    Cache.compile_of_sound sound supported template style
  refine ⟨?_, isKept_of_isSettled supported quoting, fun kept before after apart => ?_⟩
  · rcases Reading.total alone.toList with ⟨lexemes, reading⟩
    rw [compiled, parse_eq_self_iff supported reading]
    constructor
    · exact fun copied => ⟨lexemes, reading, copied⟩
    · rintro ⟨other, otherReading, copied⟩
      rwa [reading.unique otherReading]
  · simp only [compiled]
    exact parse_between_blanks apart kept after (style.getD dialect.style)

/-- Between a placeholder and a column mark, a name with a quote and a placeholder in it. -/
theorem quotedIdentifier_inTemplates_select :
    Dialect.doubleQuoted "pgsql" "pgsql" .percent "postgres" "postgres" true ∈ Dialect.builtin ∧
    (Cache.ofCapacity 0).Sound ∧
    (Dialect.doubleQuoted "pgsql" "pgsql" .percent "postgres" "postgres" true).quoteIdentifier
      "a\x22%s" = .ok "\x22a\x22\x22%s\x22" ∧
    IsKept (Dialect.doubleQuoted "pgsql" "pgsql" .percent "postgres" "postgres" true)
      "\x22a\x22\x22%s\x22" ∧
    IsApart "SELECT %i," ∧
    ((Cache.ofCapacity 0).compile
      ("SELECT %i," ++ " " ++ "\x22a\x22\x22%s\x22" ++ " " ++ "\x7bd\x7d FROM [t]")
      (Dialect.doubleQuoted "pgsql" "pgsql" .percent "postgres" "postgres" true) none).1 =
        .ok ⟨"SELECT %s, \x22a\x22\x22%%s\x22  FROM \x22t\x22", [.integer],
          [none, some .decimal]⟩ := by
  have quoting :
      (Dialect.doubleQuoted "pgsql" "pgsql" .percent "postgres" "postgres" true).quoteIdentifier
        "a\x22%s" = .ok "\x22a\x22\x22%s\x22" :=
    rfl
  have without : ((Cache.ofCapacity 0).compile ("SELECT %i," ++ "  " ++ "\x7bd\x7d FROM [t]")
      (Dialect.doubleQuoted "pgsql" "pgsql" .percent "postgres" "postgres" true) none).1 =
        .ok ⟨"SELECT %s,   FROM \x22t\x22", [.integer], [none, some .decimal]⟩ :=
    rfl
  have front : ((Cache.ofCapacity 0).compile ("SELECT %i," ++ " ")
      (Dialect.doubleQuoted "pgsql" "pgsql" .percent "postgres" "postgres" true) none).1 =
        .ok ⟨"SELECT %s, ", [.integer], []⟩ :=
    rfl
  have written : String.ofList ((none.getD (Dialect.doubleQuoted "pgsql" "pgsql" .percent "postgres"
      "postgres" true).style).literal "\x22a\x22\x22%s\x22".toList) =
        "\x22a\x22\x22%%s\x22" :=
    rfl
  generalize same : Dialect.doubleQuoted "pgsql" "pgsql" .percent "postgres" "postgres" true =
    dialect at quoting without front written ⊢
  have supported : dialect ∈ Dialect.builtin := by
    rw [← same]
    decide
  have quotes : dialect.quoteBegin = "\x22" := by
    rw [← same]
    rfl
  have sound : (Cache.ofCapacity 0).Sound := Cache.sound_ofCapacity 0
  have apart : IsApart "SELECT %i," :=
    ⟨[⟨.selectWord, ['S', 'E', 'L', 'E', 'C', 'T']⟩, blank, ⟨.placeholder .integer, ['%', 'i']⟩,
      ⟨.comma, [',']⟩], fun _ => rfl⟩
  have made := quotedIdentifier_inTemplates dialect supported _ _ quoting _ sound none
  have kept := made.2.1 (.doubleQuoted quotes)
  have inserted := made.2.2 kept "SELECT %i," "\x7bd\x7d FROM [t]" apart
  simp only [without, front] at inserted
  rcases inserted with ⟨first, back, found, sql, whole⟩
  rw [← Except.ok.inj found] at sql whole
  have rest : "SELECT %s,  " ++ back = "SELECT %s,  " ++ " FROM \x22t\x22" := sql.symm
  rw [(String.append_right_inj _).mp rest, written] at whole
  exact ⟨supported, sound, quoting, kept, apart, whole⟩

end Template
end SqlGateway
