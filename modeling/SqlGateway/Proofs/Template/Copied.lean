import SqlGateway.Proofs.Template.RowStatements

namespace SqlGateway
namespace Template

/-!
# Templates that are their own native text

The compiler copies plain characters, literals, names between double quotes and comments.  It does
not copy placeholders and column marks.  A name between brackets is written as the engine quotes
it, which is the same text for the engines that quote with brackets, and no other.

So a template compiles to itself, without parameters and columns, if and only if its reading has
only parts that are copied.  In one direction this is plain.  In the other, each part has to be told
from its image: a part that is not copied either leaves a parameter or a column behind, or is a name
whose image starts with another quote, and then the native text differs from there on.
-/

/-! ## Parts that are copied -/

namespace Lexeme

def text : Lexeme -> List Char
  | .construct part => part.text
  | .plain character => [character]

/-- The parts of a reading that the compiler copies. -/
inductive IsCopied (dialect : Dialect) : Lexeme -> Prop where
  | plain {character : Char} (free : character ∉ [Text.singleQuote, '[', '\x7b']) :
      IsCopied dialect (.plain character)
  | verbatim {part : Construct} (verbatim : part.kind = .verbatim) :
      IsCopied dialect (.construct part)
  | identifier {name : List Char} (quotes : dialect.quoteBegin = "[") (opening : '[' ∉ name)
      (closing : ']' ∉ name) : IsCopied dialect (.construct (.identifier name))

end Lexeme

theorem Reading.flatMap_text {characters : List Char} {lexemes : List Lexeme}
    (reading : Reading characters lexemes) : lexemes.flatMap Lexeme.text = characters := by
  induction reading with
  | nil => rfl
  | construct stands later inductionHypothesis =>
      rw [List.flatMap_cons, inductionHypothesis]
      exact stands.1.symm
  | plain alone later inductionHypothesis =>
      rw [List.flatMap_cons, inductionHypothesis]
      rfl

variable {dialect : Dialect} {lexeme : Lexeme} {lexemes : List Lexeme} {characters : List Char}

/-- An engine that quotes with brackets quotes a name as a template does. -/
theorem quotedName_bracket (supported : dialect ∈ Dialect.builtin)
    (quotes : dialect.quoteBegin = "[") {name : List Char} (closing : ']' ∉ name) :
    dialect.cannotQuote name = false ∧
      dialect.quotedName name = (Construct.identifier name).text := by
  have quotable : dialect.cannotQuote name = false := by
    rw [Bool.eq_false_iff, Ne, Dialect.cannotQuote_iff supported]
    rintro ⟨rfl, -⟩
    exact absurd quotes (by decide)
  have begins : dialect.quoteBegin.toList = ['['] := by
    rw [quotes]
    rfl
  have pair := Dialect.quotesWith_of_begins supported begins (by decide : (_, ']') ∈ _)
  refine ⟨quotable, ?_⟩
  rw [pair.quotedName_eq quotable, Dialect.doubled_eq_self closing]
  rfl

/-- Every other engine quotes a name with another quote. -/
theorem head?_literal_quotedName (supported : dialect ∈ Dialect.builtin)
    (quotes : dialect.quoteBegin ≠ "[") {name : List Char}
    (quotable : dialect.cannotQuote name = false) (style : ParameterStyle) (rest : List Char) :
    (style.literal (dialect.quotedName name) ++ rest).head? ≠ some '[' := by
  rcases Dialect.quotesWith_of_builtin supported with ⟨opening, closing, pair, known⟩
  have other : opening ≠ '[' := by
    rintro rfl
    apply quotes
    rw [← String.toList_inj, pair.begins]
    rfl
  have unescaped : '%' ∉ [opening] := by
    simp only [Dialect.quotePairs, List.mem_cons, Prod.mk.injEq, List.not_mem_nil, or_false] at known
    rcases known with ⟨rfl, -⟩ | ⟨rfl, -⟩ | ⟨rfl, -⟩ <;> decide
  rw [pair.quotedName_eq quotable, ← List.singleton_append, style.literal_append,
    style.literal_eq_self unescaped]
  exact fun same => other (Option.some.inj same)

/-! ## From the parts to the native text -/

section Parts

variable (supported : dialect ∈ Dialect.builtin)
include supported

namespace Lexeme

theorem IsCopied.accepted (copied : lexeme.IsCopied dialect) (depth : Nat) :
    lexeme.refusal? dialect depth = none := by
  cases copied with
  | plain free =>
      simp only [List.mem_cons, List.not_mem_nil, or_false, not_or] at free
      simp only [refusal?, free.1, free.2.1, free.2.2, if_false]
  | @verbatim part verbatim => cases part <;> first | rfl | cases verbatim
  | identifier quotes opening closing =>
      have quotable := (quotedName_bracket supported quotes closing).1
      simp only [refusal?, opening, quotable, false_and, if_false]
      rfl

theorem IsCopied.image_eq (copied : lexeme.IsCopied dialect) (style : ParameterStyle)
    (ordinal : Nat) : lexeme.image dialect style ordinal = style.literal lexeme.text := by
  cases copied with
  | plain free => rfl
  | @verbatim part verbatim => cases part <;> first | rfl | cases verbatim
  | identifier quotes opening closing =>
      exact congrArg style.literal (quotedName_bracket supported quotes closing).2

omit supported in
theorem IsCopied.silent (copied : lexeme.IsCopied dialect) :
    lexeme.placeholder? = none ∧ lexeme.mark? = none := by
  cases copied with
  | plain free => exact ⟨rfl, rfl⟩
  | @verbatim part verbatim => cases part <;> first | exact ⟨rfl, rfl⟩ | cases verbatim
  | identifier quotes opening closing => exact ⟨rfl, rfl⟩

end Lexeme

/-- A copied part adds its own text to the native text, and nothing else. -/
theorem translate_copied_cons (copied : lexeme.IsCopied dialect) (style : ParameterStyle)
    (ordinal : Nat) (lexemes : List Lexeme) :
    translate dialect style ordinal (lexeme :: lexemes) =
      style.literal lexeme.text ++ translate dialect style ordinal lexemes := by
  rw [translate, copied.image_eq supported, copied.silent.1]
  rfl

theorem firstRefusal?_copied_cons (copied : lexeme.IsCopied dialect) (depth : Nat)
    (lexemes : List Lexeme) :
    firstRefusal? dialect depth (lexeme :: lexemes) =
      firstRefusal? dialect (lexeme.depthAfter depth) lexemes := by
  rw [firstRefusal?, copied.accepted supported]

theorem translate_copied (copied : forall lexeme, lexeme ∈ lexemes -> lexeme.IsCopied dialect)
    (style : ParameterStyle) (ordinal : Nat) :
    translate dialect style ordinal lexemes = style.literal (lexemes.flatMap Lexeme.text) := by
  induction lexemes with
  | nil => cases style <;> rfl
  | cons lexeme lexemes inductionHypothesis =>
      rw [translate_copied_cons supported (copied lexeme List.mem_cons_self),
        inductionHypothesis fun other member => copied other (List.mem_cons_of_mem lexeme member),
        List.flatMap_cons, style.literal_append]

theorem firstRefusal?_copied (copied : forall lexeme, lexeme ∈ lexemes -> lexeme.IsCopied dialect)
    (depth : Nat) : firstRefusal? dialect depth lexemes = none := by
  induction lexemes generalizing depth with
  | nil => rfl
  | cons lexeme lexemes inductionHypothesis =>
      rw [firstRefusal?_copied_cons supported (copied lexeme List.mem_cons_self)]
      exact inductionHypothesis
        (fun other member => copied other (List.mem_cons_of_mem lexeme member)) _

/-! ## From the native text to the parts -/

/-- A construct is copied if it is accepted, declares nothing, and its image starts with a bracket
if it does itself. -/
theorem isCopied_construct {part : Construct} {rest : List Char}
    (stands : part.StandsAt characters rest) {depth : Nat}
    (accepted : (Lexeme.construct part).refusal? dialect depth = none)
    (unbound : (Lexeme.construct part).placeholder? = none)
    (unmarked : (Lexeme.construct part).mark? = none) {style : ParameterStyle} {ordinal : Nat}
    {after other : List Char}
    (same : (Lexeme.construct part).image dialect style ordinal ++ after =
      style.literal part.text ++ other) : (Lexeme.construct part).IsCopied dialect := by
  cases part with
  | placeholder code => cases unbound
  | columnMark code => cases unmarked
  | identifier name =>
      have quotable := cannotQuote_of_accepted accepted
      by_cases quotes : dialect.quoteBegin = "["
      · refine .identifier quotes (fun nested => ?_) stands.2
        rw [Lexeme.refusal?, if_pos ⟨nested, quotes⟩] at accepted
        cases accepted
      · have starts : (style.literal (Construct.identifier name).text ++ other).head? = some '[' := by
          rw [Construct.text, ← List.singleton_append, style.literal_append,
            style.literal_eq_self (by decide)]
          rfl
        rw [← same] at starts
        exact absurd starts (head?_literal_quotedName supported quotes quotable style after)
  | _ => exact .verbatim rfl

/-- Where the native text is the text that is read, and nothing is declared, all is copied. -/
theorem Reading.isCopied {depth ordinal : Nat} {style : ParameterStyle}
    (reading : Reading characters lexemes)
    (accepted : firstRefusal? dialect depth lexemes = none)
    (unbound : placeholders lexemes = []) (unmarked : lexemes.filterMap Lexeme.mark? = [])
    (same : translate dialect style ordinal lexemes = style.literal characters) :
    forall lexeme, lexeme ∈ lexemes -> lexeme.IsCopied dialect := by
  induction reading generalizing depth with
  | nil => exact List.forall_mem_nil _
  | @construct part characters rest lexemes stands later inductionHypothesis =>
      have silent := List.filterMap_eq_nil_iff.mp unbound
      have undeclared := List.filterMap_eq_nil_iff.mp unmarked
      have acceptedFirst : (Lexeme.construct part).refusal? dialect depth = none := by
        rw [firstRefusal?] at accepted
        split at accepted
        · cases accepted
        · assumption
      have split : style.literal characters = style.literal part.text ++ style.literal rest := by
        rw [stands.1, style.literal_append]
      have copied : (Lexeme.construct part).IsCopied dialect :=
        isCopied_construct supported stands acceptedFirst (silent _ List.mem_cons_self)
          (undeclared _ List.mem_cons_self) (same.trans split)
      rw [firstRefusal?_copied_cons supported copied] at accepted
      rw [translate_copied_cons supported copied, split] at same
      exact List.forall_mem_cons.mpr ⟨copied, inductionHypothesis accepted
        (List.filterMap_eq_nil_iff.mpr fun other member =>
          silent other (List.mem_cons_of_mem _ member))
        (List.filterMap_eq_nil_iff.mpr fun other member =>
          undeclared other (List.mem_cons_of_mem _ member))
        (List.append_cancel_left same)⟩
  | @plain character rest lexemes alone later inductionHypothesis =>
      have copied : (Lexeme.plain character).IsCopied dialect := by
        refine .plain fun member => ?_
        simp only [List.mem_cons, List.not_mem_nil, or_false] at member
        rcases member with rfl | rfl | rfl <;> cases accepted
      rw [firstRefusal?_copied_cons supported copied] at accepted
      rw [translate_copied_cons supported copied, ← List.singleton_append (l := rest),
        style.literal_append] at same
      exact List.forall_mem_cons.mpr ⟨copied, inductionHypothesis accepted unbound unmarked
        (List.append_cancel_left same)⟩

end Parts

/-! ## Columns -/

/-- The declared kinds are those of the reading, whatever columns they belong to. -/
theorem Spells.marks {tokens : List Token} (spells : Spells tokens lexemes) {depth : Nat}
    (accepted : firstRefusal? dialect depth lexemes = none) (place : Place) :
    (columnMarks place tokens).map Prod.snd = lexemes.filterMap Lexeme.mark? := by
  induction spells generalizing depth place with
  | nil => rfl
  | @construct tokens lexemes part later inductionHypothesis =>
      rw [firstRefusal?] at accepted
      split at accepted
      · cases accepted
      · rw [columnMarks, List.map_append, inductionHypothesis accepted]
        cases part <;> rfl
  | plain character later inductionHypothesis =>
      rw [firstRefusal?] at accepted
      split at accepted
      · cases accepted
      · rw [columnMarks, columnMark?_plain]
        exact inductionHypothesis accepted _
  | word letters inert later inductionHypothesis =>
      rw [firstRefusal?_inert inert] at accepted
      rw [columnMarks, List.filterMap_append, filterMap_mark?_plain]
      exact inductionHypothesis accepted _
  | unclosed text tokens lexemes => cases accepted

/-- Every declaration widens the list of columns up to its own column. -/
theorem lt_width_iff (marks : List (Nat × TypeCode)) (column : Nat) :
    column < width marks ↔ exists mark, mark ∈ marks ∧ column ≤ mark.1 := by
  have widens (start : Nat) :
      column < marks.foldl (fun widest mark => max widest (mark.1 + 1)) start ↔
        column < start ∨ exists mark, mark ∈ marks ∧ column ≤ mark.1 := by
    induction marks generalizing start with
    | nil => simp
    | cons mark marks inductionHypothesis =>
        rw [List.foldl_cons, inductionHypothesis, List.exists_mem_cons_iff, ← or_assoc]
        refine or_congr_left ?_
        omega
  rw [width, widens, or_iff_right (Nat.not_lt_zero column)]

theorem columnTypes_eq_nil_iff (marks : List (Nat × TypeCode)) :
    columnTypes marks = [] ↔ marks = [] := by
  cases marks with
  | nil => exact iff_of_true rfl rfl
  | cons mark marks =>
      refine iff_of_false (fun empty => ?_) (List.cons_ne_nil mark marks)
      have narrow : width (mark :: marks) = 0 :=
        List.range_eq_nil.mp (List.map_eq_nil_iff.mp empty)
      have wide : 0 < width (mark :: marks) :=
        (lt_width_iff _ 0).mpr ⟨mark, List.mem_cons_self, Nat.zero_le _⟩
      exact Nat.ne_of_gt wide narrow

/-- The templates that are their own native text, without parameters and columns, are those whose
parts are all copied. -/
theorem parse_eq_self_iff (supported : dialect ∈ Dialect.builtin) {template : String}
    (reading : Reading template.toList lexemes) (style : ParameterStyle) :
    parse template dialect style = .ok ⟨String.ofList (style.literal template.toList), [], []⟩ ↔
      forall lexeme, lexeme ∈ lexemes -> lexeme.IsCopied dialect := by
  have spells := reading.spells
  constructor
  · intro compiled
    have made := parse_of_reading reading dialect style
    cases judged : firstRefusal? dialect 0 lexemes with
    | some refusal =>
        rw [judged] at made
        rcases made with ⟨fault, failed, -⟩
        rw [failed] at compiled
        cases compiled
    | none =>
        rw [parse_of_accepted reading judged] at compiled
        rcases ParsedQuery.mk.inj (Except.ok.inj compiled) with ⟨sql, unbound, untyped⟩
        have unmarked : lexemes.filterMap Lexeme.mark? = [] := by
          rw [← spells.marks judged .start, (columnTypes_eq_nil_iff _).mp untyped]
          rfl
        exact reading.isCopied supported judged unbound unmarked (String.ofList_injective sql)
  · intro copied
    have accepted := firstRefusal?_copied supported copied 0
    have unbound : placeholders lexemes = [] :=
      List.filterMap_eq_nil_iff.mpr fun lexeme member => (copied lexeme member).silent.1
    have unmarked : lexemes.filterMap Lexeme.mark? = [] :=
      List.filterMap_eq_nil_iff.mpr fun lexeme member => (copied lexeme member).silent.2
    have untyped : columnTypes (columnMarks .start (scan template.toList)) = [] := by
      rw [columnTypes_eq_nil_iff, ← List.map_eq_nil_iff (f := Prod.snd),
        spells.marks accepted .start, unmarked]
    rw [parse_of_accepted reading accepted, translate_copied supported copied, reading.flatMap_text,
      unbound, untyped]

end Template
end SqlGateway
