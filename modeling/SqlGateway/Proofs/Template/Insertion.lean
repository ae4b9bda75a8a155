import SqlGateway.Database.Rows
import SqlGateway.Proofs.Dialect.QuotedName

namespace SqlGateway
namespace Template

/-!
# The template of an insertion

An insertion is put together as text and then read again by the compiler.  It says what it
should only if the text reads back as the names and placeholders that went into it.  The names
stand between brackets, so a name that holds a closing bracket ends early; every other
name, whatever quotes, percent signs or comments it holds, is read back as it was.

The reading is given outright and shown to be a reading of the text.  What the
compiler makes of the text is then known from the reading alone.
-/

/-! ## Parts with commas between them -/

/-- Constructs with plain commas between them. -/
def commaSeparated (parts : List Construct) : List Lexeme :=
  (parts.map Lexeme.construct).intersperse (.plain ',')

/-- What constructs contribute to the native text, one after the other. -/
def images (dialect : Dialect) (style : ParameterStyle) : Nat → List Construct → List (List Char)
  | _, [] => []
  | ordinal, part :: rest =>
    let next := if (Lexeme.construct part).placeholder?.isSome then ordinal + 1 else ordinal
    (Lexeme.construct part).image dialect style ordinal :: images dialect style next rest

theorem inert_of_all {word barred : List Char}
    (checked : (word.all fun letter => decide (letter ∉ barred)) = true) :
    forall letter, letter ∈ word -> letter ∉ barred := by
  simp only [List.all_eq_true, decide_eq_true_eq] at checked
  exact checked

/-- Characters that start no construct can be put before any text. -/
theorem Reading.append_plain (word : List Char) {rest : List Char} {lexemes : List Lexeme}
    (inert : forall letter, letter ∈ word -> letter ∉ openings) (later : Reading rest lexemes) :
    Reading (word ++ rest) (word.map .plain ++ lexemes) := by
  induction word with
  | nil => exact later
  | cons letter word inductionHypothesis =>
      have alone : StandsAlone letter (word ++ rest) :=
        fun construct after stands => inert letter List.mem_cons_self stands.mem_openings
      exact .plain alone
        (inductionHypothesis fun other member => inert other (List.mem_cons_of_mem _ member))

theorem Reading.append_construct (part : Construct) {rest : List Char} {lexemes : List Lexeme}
    (ends : part.EndsBefore rest) (later : Reading rest lexemes) :
    Reading (part.text ++ rest) (.construct part :: lexemes) :=
  .construct ⟨rfl, ends⟩ later

theorem Reading.append_commaSeparated (parts : List Construct) {rest : List Char}
    {lexemes : List Lexeme}
    (closed : forall part, part ∈ parts -> forall after, part.EndsBefore after)
    (later : Reading rest lexemes) :
    Reading ([','].intercalate (parts.map Construct.text) ++ rest)
      (commaSeparated parts ++ lexemes) := by
  induction parts with
  | nil => exact later
  | cons part parts inductionHypothesis =>
      have ends := closed part List.mem_cons_self
      have others := inductionHypothesis
        fun other member => closed other (List.mem_cons_of_mem _ member)
      cases parts with
      | nil =>
          rw [List.map_singleton, List.intercalate_singleton]
          exact later.append_construct part (ends rest)
      | cons next parts =>
          have comma := others.append_plain [','] (inert_of_all rfl)
          rw [List.map_cons, List.map_cons, List.intercalate_cons_cons, List.append_assoc,
            List.append_assoc]
          exact comma.append_construct part (ends _)

theorem ordinal_cons (ordinal : Nat) (lexeme : Lexeme) (rest : List Lexeme) :
    (if lexeme.placeholder?.isSome then ordinal + 1 else ordinal) + (placeholders rest).length =
      ordinal + (placeholders (lexeme :: rest)).length := by
  unfold placeholders
  cases found : lexeme.placeholder? with
  | none => simp [found]
  | some code =>
      simp only [Option.isSome_some, if_true, List.filterMap_cons, found, List.length_cons]
      omega

theorem translate_commaSeparated (dialect : Dialect) (style : ParameterStyle) (ordinal : Nat)
    (parts : List Construct) (lexemes : List Lexeme) :
    translate dialect style ordinal (commaSeparated parts ++ lexemes) =
      [','].intercalate (images dialect style ordinal parts) ++
        translate dialect style
          (ordinal + (placeholders (parts.map Lexeme.construct)).length) lexemes := by
  induction parts generalizing ordinal with
  | nil => rfl
  | cons part parts inductionHypothesis =>
      let next := if (Lexeme.construct part).placeholder?.isSome then ordinal + 1 else ordinal
      have others := inductionHypothesis next
      rw [List.map_cons, ← ordinal_cons]
      cases parts with
      | nil =>
          rw [images, images, List.intercalate_singleton]
          rfl
      | cons second parts =>
          have comma : forall following, translate dialect style next (.plain ',' :: following) =
              [','] ++ translate dialect style next following := by
            intro following
            cases style <;> rfl
          have split : commaSeparated (part :: second :: parts) =
              .construct part :: .plain ',' :: commaSeparated (second :: parts) :=
            rfl
          have joined : [','].intercalate (images dialect style ordinal (part :: second :: parts)) =
              (Lexeme.construct part).image dialect style ordinal ++ [','] ++
                [','].intercalate (images dialect style next (second :: parts)) :=
            List.intercalate_cons_cons
          rw [joined, List.append_assoc, List.append_assoc, ← others, split, ← comma]
          rfl

theorem images_identifiers (dialect : Dialect) (style : ParameterStyle) (ordinal : Nat)
    (names : List (List Char)) :
    images dialect style ordinal (names.map .identifier) =
      names.map fun name => style.literal (dialect.quotedName name) := by
  induction names with
  | nil => rfl
  | cons name names inductionHypothesis => exact congrArg (_ :: ·) inductionHypothesis

theorem images_placeholders (dialect : Dialect) (style : ParameterStyle) (ordinal : Nat)
    (codes : List TypeCode) :
    images dialect style ordinal (codes.map .placeholder) =
      (List.range' ordinal codes.length).map style.marker := by
  induction codes generalizing ordinal with
  | nil => rfl
  | cons code codes inductionHypothesis =>
      exact congrArg (style.marker ordinal :: ·) (inductionHypothesis (ordinal + 1))

theorem placeholders_commaSeparated (parts : List Construct) (lexemes : List Lexeme) :
    placeholders (commaSeparated parts ++ lexemes) =
      placeholders (parts.map Lexeme.construct) ++ placeholders lexemes := by
  unfold placeholders
  rw [List.filterMap_append]
  congr 1
  induction parts with
  | nil => rfl
  | cons part parts inductionHypothesis =>
      cases parts with
      | nil => rfl
      | cons second parts =>
          change (Lexeme.construct part :: .plain ',' ::
            commaSeparated (second :: parts)).filterMap Lexeme.placeholder? = _
          rw [List.filterMap_cons, List.filterMap_cons, inductionHypothesis, List.map_cons,
            List.filterMap_cons]
          rfl

theorem placeholders_identifiers (names : List (List Char)) :
    placeholders ((names.map Construct.identifier).map Lexeme.construct) = [] := by
  induction names with
  | nil => rfl
  | cons name names inductionHypothesis => exact inductionHypothesis

theorem placeholders_placeholders (codes : List TypeCode) :
    placeholders ((codes.map Construct.placeholder).map Lexeme.construct) = codes := by
  induction codes with
  | nil => rfl
  | cons code codes inductionHypothesis => exact congrArg (code :: ·) inductionHypothesis

/-! ## The template -/

/-- The parts of the template that inserts a row. -/
def insertionReading (table : String) (columns : List String) (codes : List TypeCode) :
    List Lexeme :=
  "INSERT INTO ".toList.map .plain ++ .construct (.identifier table.toList) ::
    (" (".toList.map .plain ++
      (commaSeparated ((columns.map String.toList).map .identifier) ++
        (") VALUES (".toList.map .plain ++
          (commaSeparated (codes.map .placeholder) ++ [.plain ')']))))

/-- The native statement that inserts a row: quoted names and as many markers. -/
def insertStatement (style : ParameterStyle) (quotes : String → String) (table : String)
    (columns : List String) : String :=
  let name (identifier : String) : List Char := style.literal (quotes identifier).toList
  String.ofList ("INSERT INTO ".toList ++ name table ++ " (".toList ++
    [','].intercalate (columns.map name) ++ ") VALUES (".toList ++
    [','].intercalate ((List.range columns.length).map style.marker) ++ [')'])

theorem insertStatement_congr (style : ParameterStyle) {quotes others : String → String}
    {table : String} {columns : List String}
    (agree : forall name, name ∈ table :: columns -> quotes name = others name) :
    insertStatement style quotes table columns = insertStatement style others table columns := by
  have sameColumns : columns.map quotes = columns.map others :=
    List.map_congr_left fun name known => agree name (List.mem_cons_of_mem _ known)
  have names (quotes : String → String) :
      columns.map (fun name => style.literal (quotes name).toList) =
        (columns.map quotes).map fun quoted => style.literal quoted.toList := by
    rw [List.map_map]
    rfl
  unfold insertStatement
  simp only [names, sameColumns, agree table List.mem_cons_self]

/-- Brackets around each name make the same text as brackets around all names with
brackets at each comma. -/
theorem bracketed_intercalate (column : String) (columns : List String) :
    '[' :: ("],[".toList.intercalate ((column :: columns).map String.toList) ++ [']']) =
      [','].intercalate ((((column :: columns).map String.toList).map Construct.identifier).map
        Construct.text) := by
  induction columns generalizing column with
  | nil => simp [List.intercalate_singleton, Construct.text]
  | cons second columns inductionHypothesis =>
      have others := inductionHypothesis second
      simp only [List.map_cons] at others ⊢
      rw [List.intercalate_cons_cons, List.intercalate_cons_cons, ← others]
      simp [Construct.text]

/-- The text of the template, by its parts. -/
theorem insertTemplate_toList (table : String) (column : String) (columns : List String)
    (codes : List TypeCode) :
    (Database.insertTemplate table (column :: columns)
      (codes.map TypeCode.placeholder)).toList =
      "INSERT INTO ".toList ++ ((Construct.identifier table.toList).text ++
        (" (".toList ++
          ([','].intercalate ((((column :: columns).map String.toList).map
            Construct.identifier).map Construct.text) ++
          (") VALUES (".toList ++
            ([','].intercalate ((codes.map Construct.placeholder).map Construct.text) ++
              [')']))))) := by
  have letters : (codes.map TypeCode.placeholder).map String.toList =
      (codes.map Construct.placeholder).map Construct.text := by
    rw [List.map_map, List.map_map]
    exact List.map_congr_left fun code _ => String.toList_ofList
  have openBracket : "[".toList = ['['] := rfl
  have closeBracket : "]".toList = [']'] := rfl
  have comma : ",".toList = [','] := rfl
  have closeParenthesis : ")".toList = [')'] := rfl
  rw [← bracketed_intercalate]
  unfold Database.insertTemplate Database.bracketed
  simp only [String.toList_append, String.toList_intercalate, letters, openBracket, closeBracket,
    comma, closeParenthesis, Construct.text, List.append_assoc, List.cons_append,
    List.nil_append]

/-- The template reads back as the names and placeholders that it was made of. -/
theorem reading_insertTemplate {table : String} {column : String} {columns : List String}
    (closed : forall name, name ∈ table :: column :: columns -> ']' ∉ name.toList)
    (codes : List TypeCode) :
    Reading (Database.insertTemplate table (column :: columns)
      (codes.map TypeCode.placeholder)).toList
      (insertionReading table (column :: columns) codes) := by
  have parenthesis : Reading [')'] [.plain ')'] :=
    Reading.nil.append_plain [')'] (inert_of_all rfl)
  have values := parenthesis.append_commaSeparated (codes.map Construct.placeholder) (by
    intro part member after
    rcases List.mem_map.mp member with ⟨code, -, rfl⟩
    trivial)
  have between := values.append_plain ") VALUES (".toList (inert_of_all rfl)
  have names := between.append_commaSeparated
    (((column :: columns).map String.toList).map .identifier) (by
      intro part member after
      rw [List.map_map] at member
      rcases List.mem_map.mp member with ⟨name, known, rfl⟩
      exact closed name (List.mem_cons_of_mem _ known))
  have opening := names.append_plain " (".toList (inert_of_all rfl)
  have named := opening.append_construct (.identifier table.toList)
    (closed table List.mem_cons_self)
  have whole := named.append_plain "INSERT INTO ".toList (inert_of_all rfl)
  rw [insertTemplate_toList]
  exact whole

/-- A name in an accepted reading can be quoted. -/
theorem cannotQuote_of_mem {dialect : Dialect} {depth : Nat} {lexemes : List Lexeme}
    {name : List Char} (accepted : firstRefusal? dialect depth lexemes = none)
    (member : .construct (.identifier name) ∈ lexemes) : dialect.cannotQuote name = false := by
  induction lexemes generalizing depth with
  | nil => cases member
  | cons lexeme lexemes inductionHypothesis =>
      rw [firstRefusal?] at accepted
      split at accepted
      · cases accepted
      · rename_i acceptedFirst
        rcases List.mem_cons.mp member with rfl | member
        · exact cannotQuote_of_accepted acceptedFirst
        · exact inductionHypothesis accepted member

theorem mem_commaSeparated {part : Construct} {parts : List Construct} (member : part ∈ parts) :
    .construct part ∈ commaSeparated parts := by
  induction parts with
  | nil => cases member
  | cons first parts inductionHypothesis =>
      cases parts with
      | nil => exact List.mem_singleton.mpr (congrArg _ (List.mem_singleton.mp member))
      | cons second parts =>
          rcases List.mem_cons.mp member with rfl | member
          · exact List.mem_cons_self
          · exact List.mem_cons_of_mem _ (List.mem_cons_of_mem _ (inductionHypothesis member))

/-- The translation of the template. -/
theorem translate_insertionReading (dialect : Dialect) (style : ParameterStyle) (table : String)
    (columns : List String) (codes : List TypeCode) (counted : codes.length = columns.length) :
    String.ofList (translate dialect style 0 (insertionReading table columns codes)) =
      insertStatement style (fun name => String.ofList (dialect.quotedName name.toList)) table
        columns := by
  have opening : '%' ∉ "INSERT INTO ".toList := by decide
  have between : '%' ∉ " (".toList := by decide
  have values : '%' ∉ ") VALUES (".toList := by decide
  have closing (ordinal : Nat) : translate dialect style ordinal [.plain ')'] = [')'] := by
    cases style <;> rfl
  have named (rest : List Lexeme) :
      translate dialect style 0 (.construct (.identifier table.toList) :: rest) =
        style.literal (dialect.quotedName table.toList) ++ translate dialect style 0 rest :=
    rfl
  unfold insertionReading
  rw [translate_word dialect style 0 opening, named, translate_word dialect style 0 between,
    translate_commaSeparated, placeholders_identifiers, translate_word dialect style _ values,
    translate_commaSeparated, closing, images_identifiers, images_placeholders, counted]
  unfold insertStatement
  rw [List.range_eq_range', List.map_map]
  simp only [List.append_assoc, String.toList_ofList, List.length_nil, Nat.add_zero]
  rfl

theorem placeholders_insertionReading (table : String) (columns : List String)
    (codes : List TypeCode) : placeholders (insertionReading table columns codes) = codes := by
  have named (rest : List Lexeme) :
      placeholders (.construct (.identifier table.toList) :: rest) = placeholders rest :=
    rfl
  have closing : placeholders [.plain ')'] = [] := rfl
  unfold insertionReading
  rw [placeholders_plain, named, placeholders_plain, placeholders_commaSeparated,
    placeholders_identifiers, placeholders_plain, placeholders_commaSeparated,
    placeholders_placeholders, closing, List.append_nil]
  rfl

theorem mem_insertionReading {table name : String} {columns : List String}
    (known : name ∈ table :: columns) (codes : List TypeCode) :
    .construct (.identifier name.toList) ∈ insertionReading table columns codes := by
  unfold insertionReading
  apply List.mem_append_right
  rcases List.mem_cons.mp known with rfl | column
  · exact List.mem_cons_self
  · apply List.mem_cons_of_mem
    apply List.mem_append_right
    apply List.mem_append_left
    apply mem_commaSeparated
    exact List.mem_map_of_mem (List.mem_map_of_mem column)

/-- The compiler refuses the template of an insertion, or makes the statement of it. -/
theorem parse_insertTemplate {table : String} {column : String} {columns : List String}
    (closed : forall name, name ∈ table :: column :: columns -> ']' ∉ name.toList)
    (codes : List TypeCode) (counted : codes.length = (column :: columns).length)
    (dialect : Dialect) (style : ParameterStyle) :
    let template := Database.insertTemplate table (column :: columns)
      (codes.map TypeCode.placeholder)
    (exists fault, parse template dialect style = .error fault) ∨
    exists query quotes, parse template dialect style = .ok query ∧
      query.placeholders = codes ∧
      (forall name, name ∈ table :: column :: columns ->
        dialect.quoteIdentifier name = .ok (quotes name)) ∧
      query.sql = insertStatement style quotes table (column :: columns) := by
  intro template
  have made := parse_of_reading (reading_insertTemplate closed codes) dialect style
  cases judged : firstRefusal? dialect 0 (insertionReading table (column :: columns) codes) with
  | some refusal =>
      rw [judged] at made
      rcases made with ⟨fault, failed, -⟩
      exact Or.inl ⟨fault, failed⟩
  | none =>
      rw [judged] at made
      rcases made with ⟨columnTypes, compiled⟩
      refine Or.inr ⟨_, fun name => String.ofList (dialect.quotedName name.toList), compiled, ?_,
        ?_, translate_insertionReading dialect style table _ codes counted⟩
      · exact placeholders_insertionReading table _ codes
      · intro name known
        exact Dialect.quoteIdentifier_eq (cannotQuote_of_mem judged (mem_insertionReading known codes))

end Template
end SqlGateway
