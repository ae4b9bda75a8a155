import SqlGateway.Proofs.Template.Insertion

namespace SqlGateway
namespace Template

/-!
# The templates of single tables

The statements about the rows of one table are put together of plain words, names between
brackets and placeholders.  The rows are chosen by equations between names and placeholders, and
an update sets columns by equations as well.

As with an insertion, the reading of a template is given outright, and what the compiler makes of
it is known from the reading.  The order of the placeholders decides which value goes to which
column, so the native statements are written here with each marker at its name: the marker of an
equation is that of its place in the list, counted on from the equations before.
-/

/-! ## Ordinary parts -/

/-- The parts of templates of single tables: characters but for the barred ones, names that can be
quoted, and placeholders. -/
inductive Lexeme.IsOrdinary (dialect : Dialect) (barred : List Char) : Lexeme -> Prop where
  | plain {character : Char} (free : character ∉ barred) :
      IsOrdinary dialect barred (.plain character)
  | identifier {name : List Char} (plain : '[' ∉ name)
      (quotable : dialect.cannotQuote name = false) :
      IsOrdinary dialect barred (.construct (.identifier name))
  | placeholder (code : TypeCode) : IsOrdinary dialect barred (.construct (.placeholder code))

/-- The kind of a column that a part of a reading declares. -/
def Lexeme.mark? : Lexeme -> Option TypeCode
  | .construct (.columnMark code) => some code
  | _ => none

/-- The characters that start a construct or end a column. -/
def separators : List Char := ',' :: openings

variable {dialect : Dialect} {barred : List Char} {lexeme : Lexeme} {lexemes : List Lexeme}

theorem Lexeme.IsOrdinary.mono {fewer : List Char} (ordinary : lexeme.IsOrdinary dialect barred)
    (included : fewer ⊆ barred) : lexeme.IsOrdinary dialect fewer := by
  cases ordinary with
  | plain free => exact .plain fun member => free (included member)
  | identifier plain quotable => exact .identifier plain quotable
  | placeholder code => exact .placeholder code

theorem Lexeme.IsOrdinary.accepted (ordinary : lexeme.IsOrdinary dialect openings) (depth : Nat) :
    lexeme.refusal? dialect depth = none := by
  cases ordinary with
  | plain free =>
      simp only [openings, List.mem_cons, List.not_mem_nil, or_false, not_or] at free
      simp only [refusal?, free.1, free.2.2.2.2.1, free.2.2.2.2.2.2, if_false]
  | identifier plain quotable =>
      simp only [refusal?, plain, quotable, false_and, if_false]
      rfl
  | placeholder code => rfl

theorem firstRefusal?_ordinary (ordinary : forall lexeme, lexeme ∈ lexemes ->
    lexeme.IsOrdinary dialect openings) (depth : Nat) :
    firstRefusal? dialect depth lexemes = none := by
  induction lexemes generalizing depth with
  | nil => rfl
  | cons lexeme lexemes inductionHypothesis =>
      rw [firstRefusal?, (ordinary lexeme List.mem_cons_self).accepted depth]
      apply inductionHypothesis
      intro other member
      exact ordinary other (List.mem_cons_of_mem _ member)

/-! ## Declared columns -/

theorem column_after_plain {character : Char} (noComma : character ≠ ',') (place : Place) :
    (place.after ⟨plainKind character, [character]⟩).column = place.column := by
  unfold plainKind
  rw [if_neg noComma]
  repeat' split
  all_goals rfl

theorem columnMark?_plain (place : Place) (character : Char) :
    Token.columnMark? place ⟨plainKind character, [character]⟩ = none := by
  unfold plainKind
  repeat' split
  all_goals rfl

theorem filterMap_mark?_plain (letters : List Char) :
    (letters.map Lexeme.plain).filterMap Lexeme.mark? = [] := by
  rw [List.filterMap_map]
  exact List.filterMap_eq_nil_iff.mpr fun _ _ => rfl

/-- Without a comma there is one column, and all declarations are about it. -/
theorem columnMarks_unseparated {tokens : List Token} (spells : Spells tokens lexemes)
    (ordinary : forall lexeme, lexeme ∈ lexemes ->
      lexeme.mark?.isSome ∨ lexeme.IsOrdinary dialect separators)
    (place : Place) (first : place.column = 0) :
    columnMarks place tokens = (lexemes.filterMap Lexeme.mark?).map fun code => (0, code) := by
  induction spells generalizing place with
  | nil => rfl
  | construct construct later inductionHypothesis =>
      have rest := inductionHypothesis fun other member =>
        ordinary other (List.mem_cons_of_mem _ member)
      have still : (place.after ⟨construct.kind, construct.text⟩).column = 0 := by
        cases construct <;> exact first
      rw [columnMarks, rest _ still]
      cases construct with
      | columnMark code =>
          simp only [Token.columnMark?, Construct.kind, first]
          rfl
      | _ => rfl
  | plain character later inductionHypothesis =>
      have rest := inductionHypothesis fun other member =>
        ordinary other (List.mem_cons_of_mem _ member)
      have noComma : character ≠ ',' := by
        rintro rfl
        rcases ordinary _ List.mem_cons_self with marked | free
        · cases marked
        · cases free with
          | plain free => exact free List.mem_cons_self
      rw [columnMarks, columnMark?_plain, rest _ ((column_after_plain noComma place).trans first)]
      rfl
  | word letters inert later inductionHypothesis =>
      have rest := inductionHypothesis fun other member =>
        ordinary other (List.mem_append_right _ member)
      have still : (place.after ⟨.selectWord, letters⟩).column = 0 := by
        simp only [Place.after, first, ite_self]
      rw [columnMarks, rest _ still, List.filterMap_append, filterMap_mark?_plain]
      rfl
  | unclosed text tokens lexemes =>
      have quoted : Text.singleQuote ∈ separators := by decide
      rcases ordinary _ List.mem_cons_self with marked | free
      · cases marked
      · cases free with
        | plain free => exact absurd quoted free

/-- The compiler translates every reading that is not refused. -/
theorem parse_of_accepted {template : String} (reading : Reading template.toList lexemes)
    (accepted : firstRefusal? dialect 0 lexemes = none) (style : ParameterStyle) :
    parse template dialect style =
      .ok ⟨String.ofList (translate dialect style 0 lexemes), placeholders lexemes,
        columnTypes (columnMarks .start (scan template.toList))⟩ := by
  have made := parse_of_reading reading dialect style
  rw [accepted] at made
  rcases made with ⟨types, compiled⟩
  have known := compiled
  unfold parse at known
  simp only at known
  split at known
  · cases known
  · have same : _ = types := congrArg ParsedQuery.columnTypes (Except.ok.inj known)
    rw [compiled, ← same]

theorem marks_ordinary (ordinary : forall lexeme, lexeme ∈ lexemes ->
    lexeme.IsOrdinary dialect barred) : lexemes.filterMap Lexeme.mark? = [] := by
  apply List.filterMap_eq_nil_iff.mpr
  intro lexeme member
  cases ordinary lexeme member <;> rfl

/-! ## Equations -/

/-- The text of a column that is set equal to a placeholder. -/
def equationText (column : String × TypeCode) : List Char :=
  (Construct.identifier column.1.toList).text ++
    (" = ".toList ++ (Construct.placeholder column.2).text)

def equationReading (column : String × TypeCode) : List Lexeme :=
  .construct (.identifier column.1.toList) ::
    (" = ".toList.map .plain ++ [.construct (.placeholder column.2)])

def equationsReading (separator : List Char) (columns : List (String × TypeCode)) : List Lexeme :=
  (separator.map Lexeme.plain).intercalate (columns.map equationReading)

/-- Names that are set equal to markers, which are counted from `ordinal`. -/
def equations (style : ParameterStyle) (quotes : String -> String) (separator : String)
    (ordinal : Nat) (names : List String) : List Char :=
  separator.toList.intercalate ((names.zipIdx ordinal).map fun entry =>
    style.literal (quotes entry.1).toList ++ " = ".toList ++ style.marker entry.2)

def quotedForm (dialect : Dialect) (name : String) : String :=
  String.ofList (dialect.quotedName name.toList)

section Equations

variable {separator rest : List Char} {columns : List (String × TypeCode)}

theorem Reading.append_equation (column : String × TypeCode) (closed : ']' ∉ column.1.toList)
    (later : Reading rest lexemes) :
    Reading (equationText column ++ rest) (equationReading column ++ lexemes) := by
  have marker := later.append_construct (.placeholder column.2) trivial
  have sign := marker.append_plain " = ".toList (inert_of_all rfl)
  have named := sign.append_construct (.identifier column.1.toList) closed
  simp only [equationText, equationReading, List.append_assoc, List.cons_append,
    List.nil_append] at named ⊢
  exact named

theorem Reading.append_equations (inert : forall letter, letter ∈ separator -> letter ∉ openings)
    (closed : forall column, column ∈ columns -> ']' ∉ column.1.toList)
    (later : Reading rest lexemes) :
    Reading (separator.intercalate (columns.map equationText) ++ rest)
      (equationsReading separator columns ++ lexemes) := by
  induction columns with
  | nil => exact later
  | cons column columns inductionHypothesis =>
      have first := closed column List.mem_cons_self
      have others := inductionHypothesis fun other member =>
        closed other (List.mem_cons_of_mem _ member)
      cases columns with
      | nil =>
          rw [equationsReading, List.map_singleton, List.map_singleton,
            List.intercalate_singleton, List.intercalate_singleton]
          exact later.append_equation column first
      | cons next columns =>
          have separated := (others.append_plain separator inert).append_equation column first
          simp only [equationsReading, List.map_cons, List.intercalate_cons_cons,
            List.append_assoc] at separated ⊢
          exact separated

theorem ordinary_plain {word : List Char} (free : forall letter, letter ∈ word -> letter ∉ barred)
    (member : lexeme ∈ word.map Lexeme.plain) : lexeme.IsOrdinary dialect barred := by
  rcases List.mem_map.mp member with ⟨letter, known, rfl⟩
  exact .plain (free letter known)

/-- Whether a name is read back from brackets as it is and can be quoted. -/
structure IsNameable (dialect : Dialect) (name : String) : Prop where
  plain : '[' ∉ name.toList
  closed : ']' ∉ name.toList
  quotable : dialect.cannotQuote name.toList = false

/-- Letters and digits are read back as they are, and every engine can quote them. -/
theorem isNameable_of_isAlphanum {name : String} (supported : dialect ∈ Dialect.builtin)
    (plain : forall character, character ∈ name.toList -> character.isAlphanum = true) :
    IsNameable dialect name := by
  have absent (character : Char) (other : character.isAlphanum = false) :
      character ∉ name.toList := by
    intro member
    rw [plain character member] at other
    cases other
  refine ⟨absent '[' rfl, absent ']' rfl, ?_⟩
  rw [Bool.eq_false_iff, Ne, Dialect.cannotQuote_iff supported]
  exact fun refused => absent Text.doubleQuote rfl refused.2

/-- A name that can be quoted, with its quoted form. -/
theorem IsNameable.quoteIdentifier {name : String} (nameable : IsNameable dialect name) :
    dialect.quoteIdentifier name = .ok (quotedForm dialect name) :=
  Dialect.quoteIdentifier_eq nameable.quotable

theorem isNameable_of_quoteIdentifier {name quoted : String} (plain : '[' ∉ name.toList)
    (closed : ']' ∉ name.toList) (quotable : dialect.quoteIdentifier name = .ok quoted) :
    IsNameable dialect name :=
  ⟨plain, closed, (Dialect.toList_of_quoteIdentifier quotable).1⟩

theorem IsNameable.ordinary {name : String} (nameable : IsNameable dialect name) :
    Lexeme.IsOrdinary dialect barred (.construct (.identifier name.toList)) :=
  .identifier nameable.plain nameable.quotable

theorem ordinary_equation {column : String × TypeCode} (nameable : IsNameable dialect column.1)
    (member : lexeme ∈ equationReading column) : lexeme.IsOrdinary dialect separators := by
  rcases List.mem_cons.mp member with rfl | later
  · exact nameable.ordinary
  · rcases List.mem_append.mp later with sign | marker
    · exact ordinary_plain (inert_of_all rfl) sign
    · rw [List.mem_singleton.mp marker]
      exact .placeholder column.2

theorem ordinary_equations (included : barred ⊆ separators)
    (free : forall letter, letter ∈ separator -> letter ∉ barred)
    (nameable : forall column, column ∈ columns -> IsNameable dialect column.1)
    (member : lexeme ∈ equationsReading separator columns) :
    lexeme.IsOrdinary dialect barred := by
  induction columns with
  | nil => cases member
  | cons column columns inductionHypothesis =>
      have first := nameable column List.mem_cons_self
      have others := inductionHypothesis fun other known =>
        nameable other (List.mem_cons_of_mem _ known)
      cases columns with
      | nil =>
          rw [equationsReading, List.map_singleton, List.intercalate_singleton] at member
          exact (ordinary_equation first member).mono included
      | cons next columns =>
          rw [equationsReading, List.map_cons, List.map_cons, List.intercalate_cons_cons,
            List.append_assoc] at member
          rcases List.mem_append.mp member with here | later
          · exact (ordinary_equation first here).mono included
          · rcases List.mem_append.mp later with between | after
            · exact ordinary_plain free between
            · exact others after

theorem translate_identifier (style : ParameterStyle) (ordinal : Nat) (name : String)
    (lexemes : List Lexeme) :
    translate dialect style ordinal (.construct (.identifier name.toList) :: lexemes) =
      style.literal (quotedForm dialect name).toList ++ translate dialect style ordinal lexemes := by
  rw [quotedForm, String.toList_ofList]
  rfl

theorem translate_equation (style : ParameterStyle) (ordinal : Nat) (column : String × TypeCode)
    (lexemes : List Lexeme) :
    translate dialect style ordinal (equationReading column ++ lexemes) =
      style.literal (quotedForm dialect column.1).toList ++ " = ".toList ++ style.marker ordinal ++
        translate dialect style (ordinal + 1) lexemes := by
  have sign : '%' ∉ " = ".toList := by decide
  have marker : translate dialect style ordinal (.construct (.placeholder column.2) :: lexemes) =
      style.marker ordinal ++ translate dialect style (ordinal + 1) lexemes :=
    rfl
  simp only [equationReading, List.cons_append, List.append_assoc, List.nil_append,
    translate_identifier, translate_word dialect style ordinal sign, marker]

/-- Each name is set equal to the marker of its place. -/
theorem translate_equations (dialect : Dialect) (style : ParameterStyle) (ordinal : Nat)
    {separator : String} (free : '%' ∉ separator.toList)
    (columns : List (String × TypeCode)) (lexemes : List Lexeme) :
    translate dialect style ordinal (equationsReading separator.toList columns ++ lexemes) =
      equations style (quotedForm dialect) separator ordinal (columns.map Prod.fst) ++
        translate dialect style (ordinal + columns.length) lexemes := by
  induction columns generalizing ordinal with
  | nil => rfl
  | cons column columns inductionHypothesis =>
      have others := inductionHypothesis (ordinal + 1)
      have count : ordinal + 1 + columns.length = ordinal + (columns.length + 1) := by omega
      cases columns with
      | nil =>
          simp only [equationsReading, equations, List.map_cons, List.map_nil, List.zipIdx_cons,
            List.zipIdx_nil, List.intercalate_singleton, List.length_cons, List.length_nil,
            translate_equation]
      | cons next columns =>
          rw [List.length_cons, ← count]
          simp only [equationsReading, equations, List.map_cons, List.zipIdx_cons,
            List.intercalate_cons_cons, List.append_assoc] at others ⊢
          rw [translate_equation, translate_word dialect style _ free, others]
          simp only [List.append_assoc]

theorem placeholders_equation (column : String × TypeCode) (lexemes : List Lexeme) :
    placeholders (equationReading column ++ lexemes) = column.2 :: placeholders lexemes :=
  placeholders_plain " = ".toList (.construct (.placeholder column.2) :: lexemes)

theorem placeholders_equations (separator : List Char) (columns : List (String × TypeCode))
    (lexemes : List Lexeme) :
    placeholders (equationsReading separator columns ++ lexemes) =
      columns.map Prod.snd ++ placeholders lexemes := by
  induction columns with
  | nil => rfl
  | cons column columns inductionHypothesis =>
      cases columns with
      | nil =>
          rw [equationsReading, List.map_singleton, List.intercalate_singleton,
            placeholders_equation]
          rfl
      | cons next columns =>
          simp only [equationsReading, List.map_cons, List.intercalate_cons_cons,
            List.append_assoc] at inductionHypothesis ⊢
          rw [placeholders_equation, placeholders_plain, inductionHypothesis]
          rfl

end Equations

/-! ## Statements -/

section Statements

variable (style : ParameterStyle) (quotes : String -> String) (table : String)

/-- The part of a native statement that chooses rows by equations. -/
def choice (ordinal : Nat) (conditions : List String) : List Char :=
  " WHERE ".toList ++ equations style quotes " AND " ordinal conditions

def countStatement (conditions : List String) : String :=
  String.ofList ("SELECT COUNT(*) FROM ".toList ++
    (style.literal (quotes table).toList ++ choice style quotes 0 conditions))

def keyStatement (conditions : List String) : String :=
  String.ofList ("SELECT ".toList ++ (style.literal (quotes Database.keyColumn).toList ++
    (" FROM ".toList ++ (style.literal (quotes table).toList ++
      choice style quotes 0 conditions))))

def updateStatement (columns conditions : List String) : String :=
  String.ofList ("UPDATE ".toList ++ (style.literal (quotes table).toList ++
    (" SET ".toList ++ (equations style quotes ", " 0 columns ++
      choice style quotes columns.length conditions))))

def deleteStatement (conditions : List String) : String :=
  String.ofList ("DELETE FROM ".toList ++
    (style.literal (quotes table).toList ++ choice style quotes 0 conditions))

end Statements

/-! ## Templates -/

/-- The text of equations as it is put together for a template. -/
def equationsText (separator : String) (columns : List (String × TypeCode)) : String :=
  separator.intercalate
    (columns.map fun column => Database.bracketed column.1 ++ " = " ++ column.2.placeholder)

theorem bracketed_toList (name : String) :
    (Database.bracketed name).toList = (Construct.identifier name.toList).text := by
  have opening : "[".toList = ['['] := rfl
  have closing : "]".toList = [']'] := rfl
  simp only [Database.bracketed, String.toList_append, opening, closing, Construct.text,
    List.cons_append, List.nil_append]

theorem equationsText_toList (separator : String) (columns : List (String × TypeCode)) :
    (equationsText separator columns).toList =
      separator.toList.intercalate (columns.map equationText) := by
  have texts : (fun column : String × TypeCode =>
      (Database.bracketed column.1 ++ " = " ++ column.2.placeholder).toList) = equationText := by
    funext column
    have marker : column.2.placeholder.toList = (Construct.placeholder column.2).text :=
      String.toList_ofList
    rw [String.toList_append, String.toList_append, bracketed_toList, List.append_assoc, marker]
    rfl
  rw [equationsText, String.toList_intercalate, List.map_map, ← texts]
  rfl

/-- The reading of the part that chooses rows. -/
def choiceReading (conditions : List (String × TypeCode)) : List Lexeme :=
  " WHERE ".toList.map .plain ++ equationsReading " AND ".toList conditions

/-- The reading of a table and the choice of its rows. -/
def rowsReading (table : String) (conditions : List (String × TypeCode)) : List Lexeme :=
  .construct (.identifier table.toList) :: choiceReading conditions

section Templates

variable {table : String} {columns conditions : List (String × TypeCode)}
  (tableNameable : IsNameable dialect table)
  (columnsNameable : forall column, column ∈ columns -> IsNameable dialect column.1)
  (conditionsNameable : forall column, column ∈ conditions -> IsNameable dialect column.1)

include conditionsNameable in
theorem reading_choice : Reading
    (" WHERE ".toList ++ (equationsText " AND " conditions).toList) (choiceReading conditions) := by
  have inert : forall letter, letter ∈ " AND ".toList -> letter ∉ openings := inert_of_all rfl
  have read := Reading.nil.append_equations inert fun column member =>
    (conditionsNameable column member).closed
  rw [List.append_nil, List.append_nil, ← equationsText_toList] at read
  exact read.append_plain " WHERE ".toList (inert_of_all rfl)

include conditionsNameable in
theorem ordinary_choice (member : lexeme ∈ choiceReading conditions) :
    lexeme.IsOrdinary dialect separators := by
  rcases List.mem_append.mp member with word | equations
  · exact ordinary_plain (inert_of_all rfl) word
  · exact ordinary_equations (List.Subset.refl _) (inert_of_all rfl) conditionsNameable equations

theorem translate_choice (style : ParameterStyle) (ordinal : Nat) :
    translate dialect style ordinal (choiceReading conditions) =
      choice style (quotedForm dialect) ordinal (conditions.map Prod.fst) := by
  have word : '%' ∉ " WHERE ".toList := by decide
  have separator : '%' ∉ " AND ".toList := by decide
  have translated := translate_equations dialect style ordinal separator conditions []
  simp only [translate, List.append_nil] at translated
  unfold choiceReading choice
  rw [translate_word dialect style ordinal word, translated]

theorem placeholders_choice : placeholders (choiceReading conditions) = conditions.map Prod.snd := by
  have listed := placeholders_equations " AND ".toList conditions []
  have nothing : placeholders [] = [] := rfl
  rw [nothing, List.append_nil, List.append_nil] at listed
  unfold choiceReading
  rw [placeholders_plain, listed]

include tableNameable conditionsNameable in
theorem reading_rows : Reading
    ((Database.bracketed table).toList ++
      (" WHERE ".toList ++ (equationsText " AND " conditions).toList))
    (rowsReading table conditions) := by
  rw [bracketed_toList]
  exact (reading_choice conditionsNameable).append_construct (.identifier table.toList)
    tableNameable.closed

include tableNameable conditionsNameable in
theorem ordinary_rows (member : lexeme ∈ rowsReading table conditions) :
    lexeme.IsOrdinary dialect separators := by
  rcases List.mem_cons.mp member with rfl | chosen
  · exact tableNameable.ordinary
  · exact ordinary_choice conditionsNameable chosen

theorem translate_rows (style : ParameterStyle) :
    translate dialect style 0 (rowsReading table conditions) =
      style.literal (quotedForm dialect table).toList ++
        choice style (quotedForm dialect) 0 (conditions.map Prod.fst) := by
  rw [rowsReading, translate_identifier, translate_choice]

theorem placeholders_rows :
    placeholders (rowsReading table conditions) = conditions.map Prod.snd :=
  placeholders_choice

theorem openings_subset : openings ⊆ separators := List.subset_cons_self _ _

/-- The reading of a question about one column, which is declared as whole numbers. -/
def questionReading (column : List Lexeme) (table : String)
    (conditions : List (String × TypeCode)) : List Lexeme :=
  column ++ .construct (.columnMark .integer) ::
    (" FROM ".toList.map .plain ++ rowsReading table conditions)

include tableNameable conditionsNameable in
/-- What follows the declaration of a question is ordinary. -/
theorem ordinary_source (member : lexeme ∈ " FROM ".toList.map .plain ++
    rowsReading table conditions) : lexeme.IsOrdinary dialect separators := by
  rcases List.mem_append.mp member with word | rows
  · exact ordinary_plain (inert_of_all rfl) word
  · exact ordinary_rows tableNameable conditionsNameable rows

theorem placeholders_append (first second : List Lexeme) :
    placeholders (first ++ second) = placeholders first ++ placeholders second :=
  List.filterMap_append

section Questions

variable {template : String} {column : List Lexeme}
  (reading : Reading template.toList (questionReading column table conditions))
  (ordinary : forall lexeme, lexeme ∈ column -> lexeme.IsOrdinary dialect separators)
include tableNameable conditionsNameable reading ordinary

theorem columnTypes_question :
    columnTypes (columnMarks .start (scan template.toList)) = [some .integer] := by
  have spells := reading.spells
  have source : forall lexeme, lexeme ∈ " FROM ".toList.map Lexeme.plain ++
      rowsReading table conditions -> lexeme.IsOrdinary dialect separators :=
    fun _ member => ordinary_source tableNameable conditionsNameable member
  have parts : forall lexeme, lexeme ∈ questionReading column table conditions ->
      lexeme.mark?.isSome ∨ lexeme.IsOrdinary dialect separators := by
    intro lexeme member
    rcases List.mem_append.mp member with before | later
    · exact .inr (ordinary lexeme before)
    · rcases List.mem_cons.mp later with rfl | after
      · exact .inl rfl
      · exact .inr (source lexeme after)
  have declares : (questionReading column table conditions).filterMap Lexeme.mark? =
      [.integer] := by
    unfold questionReading
    rw [List.filterMap_append, List.filterMap_cons, marks_ordinary ordinary,
      marks_ordinary source]
    rfl
  rw [columnMarks_unseparated spells parts .start rfl, declares]
  rfl

/-- The compiler accepts a question, and its answer is a whole number. -/
theorem parse_question (closes : column.foldl Lexeme.depthAfter 0 = 0)
    (unnumbered : placeholders column = []) (style : ParameterStyle) :
    parse template dialect style =
      .ok ⟨String.ofList (translate dialect style 0 (questionReading column table conditions)),
        conditions.map Prod.snd, [some .integer]⟩ := by
  have accepted : firstRefusal? dialect 0 (questionReading column table conditions) = none := by
    unfold questionReading
    rw [firstRefusal?_append,
      firstRefusal?_ordinary fun _ member => (ordinary _ member).mono openings_subset,
      Option.none_or, closes]
    have source : firstRefusal? dialect 0 (" FROM ".toList.map .plain ++
        rowsReading table conditions) = none :=
      firstRefusal?_ordinary (fun _ member =>
        (ordinary_source tableNameable conditionsNameable member).mono openings_subset) 0
    exact source
  have listed : placeholders (questionReading column table conditions) =
      conditions.map Prod.snd := by
    unfold questionReading
    rw [placeholders_append, unnumbered, List.nil_append]
    have chosen : placeholders (rowsReading table conditions) = _ := placeholders_rows
    exact (placeholders_plain " FROM ".toList _).trans chosen
  rw [parse_of_accepted reading accepted, listed,
    columnTypes_question tableNameable conditionsNameable reading ordinary]

end Questions

/-- What a question says after its column. -/
theorem translate_source (style : ParameterStyle) :
    translate dialect style 0 (.construct (.columnMark .integer) ::
      (" FROM ".toList.map .plain ++ rowsReading table conditions)) =
      " FROM ".toList ++ (style.literal (quotedForm dialect table).toList ++
        choice style (quotedForm dialect) 0 (conditions.map Prod.fst)) := by
  have word : '%' ∉ " FROM ".toList := by decide
  have unwritten (rest : List Lexeme) :
      translate dialect style 0 (.construct (.columnMark .integer) :: rest) =
        translate dialect style 0 rest :=
    rfl
  rw [unwritten, translate_word dialect style 0 word, translate_rows]

include tableNameable conditionsNameable

/-- The compiler makes the statement that counts rows. -/
theorem parse_countTemplate (style : ParameterStyle) :
    parse (Database.countTemplate table (equationsText " AND " conditions)) dialect style =
      .ok ⟨countStatement style (quotedForm dialect) table (conditions.map Prod.fst),
        conditions.map Prod.snd, [some .integer]⟩ := by
  let column : List Lexeme := "SELECT COUNT(*)".toList.map .plain
  have opening : "SELECT COUNT(*)\x7bi\x7d FROM ".toList =
      "SELECT COUNT(*)".toList ++ ((Construct.columnMark .integer).text ++ " FROM ".toList) := rfl
  have rows := reading_rows tableNameable conditionsNameable
  have source := rows.append_plain " FROM ".toList (inert_of_all rfl)
  have declared := source.append_construct (.columnMark .integer) trivial
  have read := declared.append_plain "SELECT COUNT(*)".toList (inert_of_all rfl)
  have reading : Reading (Database.countTemplate table (equationsText " AND " conditions)).toList
      (questionReading column table conditions) := by
    unfold Database.countTemplate
    rw [String.toList_append, String.toList_append, String.toList_append, opening]
    simp only [List.append_assoc] at read ⊢
    exact read
  have ordinary : forall lexeme, lexeme ∈ column -> lexeme.IsOrdinary dialect separators :=
    fun _ member => ordinary_plain (inert_of_all rfl) member
  have word : '%' ∉ "SELECT COUNT(*)".toList := by decide
  rw [parse_question tableNameable conditionsNameable reading ordinary rfl rfl]
  unfold questionReading countStatement
  rw [translate_word dialect style 0 word, translate_source]
  rfl

/-- The compiler makes the statement for the numbers of rows. -/
theorem parse_keyTemplate (keyNameable : IsNameable dialect Database.keyColumn)
    (style : ParameterStyle) :
    parse (Database.keyTemplate table (equationsText " AND " conditions)) dialect style =
      .ok ⟨keyStatement style (quotedForm dialect) table (conditions.map Prod.fst),
        conditions.map Prod.snd, [some .integer]⟩ := by
  let column : List Lexeme := "SELECT ".toList.map .plain ++
    [.construct (.identifier Database.keyColumn.toList)]
  have opening : "\x7bi\x7d FROM ".toList =
      (Construct.columnMark .integer).text ++ " FROM ".toList := rfl
  have rows := reading_rows tableNameable conditionsNameable
  have source := rows.append_plain " FROM ".toList (inert_of_all rfl)
  have declared := source.append_construct (.columnMark .integer) trivial
  have key := declared.append_construct (.identifier Database.keyColumn.toList)
    keyNameable.closed
  have read := key.append_plain "SELECT ".toList (inert_of_all rfl)
  have reading : Reading (Database.keyTemplate table (equationsText " AND " conditions)).toList
      (questionReading column table conditions) := by
    unfold Database.keyTemplate questionReading
    rw [String.toList_append, String.toList_append, String.toList_append, String.toList_append,
      String.toList_append, opening, bracketed_toList Database.keyColumn]
    simp only [List.append_assoc] at read ⊢
    exact read
  have ordinary : forall lexeme, lexeme ∈ column -> lexeme.IsOrdinary dialect separators := by
    intro lexeme member
    rcases List.mem_append.mp member with word | name
    · exact ordinary_plain (inert_of_all rfl) word
    · rw [List.mem_singleton.mp name]
      exact keyNameable.ordinary
  have word : '%' ∉ "SELECT ".toList := by decide
  rw [parse_question tableNameable conditionsNameable reading ordinary rfl rfl]
  unfold questionReading keyStatement
  rw [List.append_assoc, translate_word dialect style 0 word, List.singleton_append,
    translate_identifier, translate_source]

/-- The compiler makes the statement that deletes rows. -/
theorem parse_deleteTemplate (style : ParameterStyle) :
    exists types,
      parse (Database.deleteTemplate table (equationsText " AND " conditions)) dialect style =
        .ok ⟨deleteStatement style (quotedForm dialect) table (conditions.map Prod.fst),
          conditions.map Prod.snd, types⟩ := by
  have rows := reading_rows tableNameable conditionsNameable
  have read := rows.append_plain "DELETE FROM ".toList (inert_of_all rfl)
  have reading : Reading (Database.deleteTemplate table (equationsText " AND " conditions)).toList
      ("DELETE FROM ".toList.map .plain ++ rowsReading table conditions) := by
    unfold Database.deleteTemplate
    rw [String.toList_append, String.toList_append, String.toList_append]
    simp only [List.append_assoc] at read ⊢
    exact read
  have word : '%' ∉ "DELETE FROM ".toList := by decide
  have accepted : firstRefusal? dialect 0
      ("DELETE FROM ".toList.map .plain ++ rowsReading table conditions) = none := by
    apply firstRefusal?_ordinary
    intro lexeme member
    rcases List.mem_append.mp member with plain | rows
    · exact ordinary_plain (inert_of_all rfl) plain
    · exact (ordinary_rows tableNameable conditionsNameable rows).mono openings_subset
  have parsed := parse_of_accepted reading accepted style
  rw [translate_word dialect style 0 word, translate_rows, placeholders_plain,
    placeholders_rows] at parsed
  exact ⟨_, parsed⟩

include columnsNameable in
/-- The compiler makes the statement that updates rows, with the placeholders of the set columns
before those of the conditions. -/
theorem parse_updateTemplate (style : ParameterStyle) :
    exists types,
      parse (Database.updateTemplate table (equationsText ", " columns)
        (equationsText " AND " conditions)) dialect style =
        .ok ⟨updateStatement style (quotedForm dialect) table (columns.map Prod.fst)
            (conditions.map Prod.fst),
          columns.map Prod.snd ++ conditions.map Prod.snd, types⟩ := by
  let lexemes : List Lexeme := "UPDATE ".toList.map .plain ++
    .construct (.identifier table.toList) :: (" SET ".toList.map .plain ++
      (equationsReading ", ".toList columns ++ choiceReading conditions))
  have chosen := reading_choice conditionsNameable
  have comma : forall letter, letter ∈ ", ".toList -> letter ∉ openings := inert_of_all rfl
  have settings := chosen.append_equations comma fun column member =>
    (columnsNameable column member).closed
  have sets := settings.append_plain " SET ".toList (inert_of_all rfl)
  have named := sets.append_construct (.identifier table.toList) tableNameable.closed
  have read := named.append_plain "UPDATE ".toList (inert_of_all rfl)
  have reading : Reading (Database.updateTemplate table (equationsText ", " columns)
      (equationsText " AND " conditions)).toList lexemes := by
    unfold Database.updateTemplate
    rw [String.toList_append, String.toList_append, String.toList_append, String.toList_append,
      String.toList_append, bracketed_toList, equationsText_toList ", "]
    simp only [List.append_assoc] at read ⊢
    exact read
  have ordinary : forall lexeme, lexeme ∈ lexemes -> lexeme.IsOrdinary dialect openings := by
    intro lexeme member
    rcases List.mem_append.mp member with plain | rest
    · exact ordinary_plain (inert_of_all rfl) plain
    · rcases List.mem_cons.mp rest with rfl | later
      · exact tableNameable.ordinary
      · rcases List.mem_append.mp later with word | after
        · exact ordinary_plain (inert_of_all rfl) word
        · rcases List.mem_append.mp after with set | chosen
          · exact ordinary_equations openings_subset (inert_of_all rfl) columnsNameable set
          · exact (ordinary_choice conditionsNameable chosen).mono openings_subset
  have update : '%' ∉ "UPDATE ".toList := by decide
  have set : '%' ∉ " SET ".toList := by decide
  have separator : '%' ∉ ", ".toList := by decide
  have translated : translate dialect style 0 lexemes =
      "UPDATE ".toList ++ (style.literal (quotedForm dialect table).toList ++ (" SET ".toList ++
        (equations style (quotedForm dialect) ", " 0 (columns.map Prod.fst) ++
          choice style (quotedForm dialect) (columns.map Prod.fst).length
            (conditions.map Prod.fst)))) := by
    rw [translate_word dialect style 0 update, translate_identifier,
      translate_word dialect style 0 set, translate_equations dialect style 0 separator,
      translate_choice, Nat.zero_add, List.length_map]
  have listed : placeholders lexemes = columns.map Prod.snd ++ conditions.map Prod.snd := by
    have table : placeholders lexemes = placeholders (" SET ".toList.map .plain ++
        (equationsReading ", ".toList columns ++ choiceReading conditions)) :=
      placeholders_plain "UPDATE ".toList _
    rw [table, placeholders_plain, placeholders_equations, placeholders_choice]
  have parsed := parse_of_accepted reading (firstRefusal?_ordinary ordinary 0) style
  rw [translated, listed] at parsed
  exact ⟨_, parsed⟩

end Templates

/-! ## Insertions -/

theorem mem_of_commaSeparated {parts : List Construct} (member : lexeme ∈ commaSeparated parts) :
    lexeme = .plain ',' ∨ lexeme ∈ parts.map Lexeme.construct := by
  induction parts with
  | nil => cases member
  | cons part parts inductionHypothesis =>
      cases parts with
      | nil => exact .inr member
      | cons next parts =>
          rcases List.mem_cons.mp member with rfl | later
          · exact .inr List.mem_cons_self
          · rcases List.mem_cons.mp later with rfl | after
            · exact .inl rfl
            · rcases inductionHypothesis after with comma | known
              · exact .inl comma
              · exact .inr (List.mem_cons_of_mem _ known)

theorem ordinary_commaSeparated {parts : List Construct}
    (ordinary : forall part, part ∈ parts -> Lexeme.IsOrdinary dialect openings (.construct part))
    (member : lexeme ∈ commaSeparated parts) : lexeme.IsOrdinary dialect openings := by
  rcases mem_of_commaSeparated member with rfl | known
  · exact .plain (by decide)
  · rcases List.mem_map.mp known with ⟨part, listed, rfl⟩
    exact ordinary part listed

theorem ordinary_insertionReading {table : String} {columns : List String}
    (nameable : forall name, name ∈ table :: columns -> IsNameable dialect name)
    {codes : List TypeCode} (member : lexeme ∈ insertionReading table columns codes) :
    lexeme.IsOrdinary dialect openings := by
  have names : forall part, part ∈ (columns.map String.toList).map Construct.identifier ->
      Lexeme.IsOrdinary dialect openings (.construct part) := by
    intro part known
    rw [List.map_map] at known
    rcases List.mem_map.mp known with ⟨name, listed, rfl⟩
    exact (nameable name (List.mem_cons_of_mem _ listed)).ordinary
  have markers : forall part, part ∈ codes.map Construct.placeholder ->
      Lexeme.IsOrdinary dialect openings (.construct part) := by
    intro part known
    rcases List.mem_map.mp known with ⟨code, -, rfl⟩
    exact .placeholder code
  rcases List.mem_append.mp member with word | named
  · exact ordinary_plain (inert_of_all rfl) word
  · rcases List.mem_cons.mp named with rfl | opening
    · exact (nameable table List.mem_cons_self).ordinary
    · rcases List.mem_append.mp opening with word | listing
      · exact ordinary_plain (inert_of_all rfl) word
      · rcases List.mem_append.mp listing with columns | between
        · exact ordinary_commaSeparated names columns
        · rcases List.mem_append.mp between with word | values
          · exact ordinary_plain (inert_of_all rfl) word
          · rcases List.mem_append.mp values with codes | closing
            · exact ordinary_commaSeparated markers codes
            · rw [List.mem_singleton.mp closing]
              exact .plain (by decide)

/-- The compiler makes the statement that inserts a row. -/
theorem parse_insertion {table column : String} {columns : List String}
    (nameable : forall name, name ∈ table :: column :: columns -> IsNameable dialect name)
    (codes : List TypeCode) (counted : codes.length = (column :: columns).length)
    (style : ParameterStyle) :
    exists types,
      parse (Database.insertTemplate table (column :: columns) (codes.map TypeCode.placeholder))
          dialect style =
        .ok ⟨insertStatement style (quotedForm dialect) table (column :: columns), codes,
          types⟩ := by
  have reading := reading_insertTemplate (fun name known => (nameable name known).closed) codes
  have accepted : firstRefusal? dialect 0 (insertionReading table (column :: columns) codes) =
      none :=
    firstRefusal?_ordinary (fun _ member => ordinary_insertionReading nameable member) 0
  have parsed := parse_of_accepted reading accepted style
  rw [translate_insertionReading dialect style table _ codes counted,
    placeholders_insertionReading] at parsed
  exact ⟨_, parsed⟩

end Template
end SqlGateway
