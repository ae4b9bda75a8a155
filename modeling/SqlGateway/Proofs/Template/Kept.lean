import SqlGateway.Proofs.Template.Translation

namespace SqlGateway
namespace Template

/-!
# Tokens that are kept as they stand

What the compiler makes of a template is put together from its tokens: the first mistake, the
pieces of the native text, and the declared columns.  Of some tokens only their text shows in the
result, wherever they stand.  They can be put between any other tokens, and the result differs by
their text, or, if there is a mistake behind them, by its offset.
-/

/-! ## Places and what comes before them -/

/-- The same place in a template with more characters before it. -/
def Place.later (count : Nat) (place : Place) : Place :=
  { place with offset := place.offset + count }

theorem Place.after_later (count : Nat) (place : Place) (token : Token) :
    (place.later count).after token = (place.after token).later count := by
  have moved : place.offset + count + token.text.length =
      place.offset + token.text.length + count := by
    omega
  unfold Place.after Place.later
  cases token.kind <;> simp only [moved]

/-- More characters before the tokens change the offset of a mistake and nothing else. -/
theorem firstMistake?_later (dialect : Dialect) (count : Nat) (place : Place)
    (tokens : List Token) :
    firstMistake? dialect (place.later count) tokens =
      (firstMistake? dialect place tokens).map fun found => (found.1, found.2 + count) := by
  induction tokens generalizing place with
  | nil => rfl
  | cons token rest inductionHypothesis =>
      have sameDepth : (place.later count).depth = place.depth := rfl
      rw [firstMistake?, firstMistake?, sameDepth, Place.after_later, inductionHypothesis]
      cases token.mistake? dialect place.depth <;> rfl

theorem columnMarks_later (count : Nat) (place : Place) (tokens : List Token) :
    columnMarks (place.later count) tokens = columnMarks place tokens := by
  induction tokens generalizing place with
  | nil => rfl
  | cons token rest inductionHypothesis =>
      have sameMark : token.columnMark? (place.later count) = token.columnMark? place := rfl
      rw [columnMarks, columnMarks, sameMark, Place.after_later, inductionHypothesis]

/-! ## Tokens one after the other -/

theorem firstMistake?_append (dialect : Dialect) (place : Place) (tokens others : List Token) :
    firstMistake? dialect place (tokens ++ others) =
      (firstMistake? dialect place tokens).or
        (firstMistake? dialect (tokens.foldl Place.after place) others) := by
  induction tokens generalizing place with
  | nil => rfl
  | cons token tokens inductionHypothesis =>
      rw [List.cons_append, firstMistake?, firstMistake?, inductionHypothesis]
      cases token.mistake? dialect place.depth <;> rfl

theorem columnMarks_append (place : Place) (tokens others : List Token) :
    columnMarks place (tokens ++ others) =
      columnMarks place tokens ++ columnMarks (tokens.foldl Place.after place) others := by
  induction tokens generalizing place with
  | nil => rfl
  | cons token tokens inductionHypothesis =>
      rw [List.cons_append, columnMarks, columnMarks, inductionHypothesis, List.append_assoc]
      rfl

theorem parameters_append (first second : List Piece) :
    parameters (first ++ second) = parameters first ++ parameters second :=
  List.filterMap_append

theorem render_append (style : ParameterStyle) (ordinal : Nat) (first second : List Piece) :
    render style ordinal (first ++ second) =
      render style ordinal first ++ render style (ordinal + (parameters first).length) second := by
  induction first generalizing ordinal with
  | nil => rfl
  | cons piece first inductionHypothesis =>
      cases piece with
      | literal characters =>
          rw [List.cons_append, render, render, inductionHypothesis, List.append_assoc]
          rfl
      | parameter code =>
          have listed : parameters (.parameter code :: first) = code :: parameters first := rfl
          rw [List.cons_append, render, render, inductionHypothesis, List.append_assoc, listed,
            List.length_cons, Nat.add_right_comm, Nat.add_assoc]

/-! ## Tokens that are kept -/

/-- Whether a token is kept as it stands, wherever it stands, and tells nothing about columns. -/
structure Token.IsKept (dialect : Dialect) (token : Token) : Prop where
  accepted : forall depth, token.mistake? dialect depth = none
  image : token.image dialect = [.literal token.text]
  still : forall place : Place, place.after token = place.later token.text.length
  unmarked : forall place, token.columnMark? place = none

theorem isKept_verbatim (dialect : Dialect) (text : List Char) :
    Token.IsKept dialect ⟨.verbatim, text⟩ :=
  ⟨fun _ => rfl, rfl, fun _ => rfl, fun _ => rfl⟩

variable {tokens : List Token}

section Kept

variable {dialect : Dialect} (kept : forall token, token ∈ tokens -> token.IsKept dialect)
include kept

theorem foldl_after_kept (place : Place) :
    tokens.foldl Place.after place = place.later (tokens.flatMap Token.text).length := by
  induction tokens generalizing place with
  | nil => rfl
  | cons token tokens inductionHypothesis =>
      have sum : (place.later token.text.length).later (tokens.flatMap Token.text).length =
          place.later ((token :: tokens).flatMap Token.text).length := by
        simp only [Place.later, List.flatMap_cons, List.length_append, Nat.add_assoc]
      rw [List.foldl_cons, (kept token List.mem_cons_self).still place,
        inductionHypothesis fun other member => kept other (List.mem_cons_of_mem token member), sum]

theorem firstMistake?_kept (place : Place) : firstMistake? dialect place tokens = none := by
  induction tokens generalizing place with
  | nil => rfl
  | cons token tokens inductionHypothesis =>
      rw [firstMistake?, (kept token List.mem_cons_self).accepted place.depth]
      exact inductionHypothesis (fun other member => kept other (List.mem_cons_of_mem token member)) _

theorem columnMarks_kept (place : Place) : columnMarks place tokens = [] := by
  induction tokens generalizing place with
  | nil => rfl
  | cons token tokens inductionHypothesis =>
      rw [columnMarks, (kept token List.mem_cons_self).unmarked place,
        inductionHypothesis fun other member => kept other (List.mem_cons_of_mem token member)]
      rfl

theorem pieces_kept : pieces dialect tokens = tokens.map fun token => .literal token.text := by
  induction tokens with
  | nil => rfl
  | cons token tokens inductionHypothesis =>
      rw [pieces, List.flatMap_cons, (kept token List.mem_cons_self).image, ← pieces,
        inductionHypothesis fun other member => kept other (List.mem_cons_of_mem token member)]
      rfl

end Kept

theorem parameters_literals (tokens : List Token) :
    parameters (tokens.map fun token => .literal token.text) = [] := by
  rw [parameters, List.filterMap_map]
  exact List.filterMap_eq_nil_iff.mpr fun _ _ => rfl

theorem render_literals (style : ParameterStyle) (ordinal : Nat) (tokens : List Token) :
    render style ordinal (tokens.map fun token => .literal token.text) =
      style.literal (tokens.flatMap Token.text) := by
  induction tokens with
  | nil => cases style <;> rfl
  | cons token tokens inductionHypothesis =>
      rw [List.map_cons, render, inductionHypothesis, List.flatMap_cons,
        ParameterStyle.literal_append]

section Insertion

variable {dialect : Dialect} {template longer : String} {front middle back : List Token}

/-- Kept tokens that are put between others show in the native text, where they are, and otherwise
the compiler makes of the longer template what it makes of the other one. -/
theorem parse_insert (scanned : scan template.toList = front ++ back)
    (scannedLonger : scan longer.toList = front ++ (middle ++ back))
    (kept : forall token, token ∈ middle -> token.IsKept dialect) (style : ParameterStyle) :
    let sqlFront := render style 0 (pieces dialect front)
    let sqlBack := render style (parameters (pieces dialect front)).length (pieces dialect back)
    match parse template dialect style with
    | .ok query => query.sql = String.ofList (sqlFront ++ sqlBack) ∧
        parse longer dialect style = .ok { query with
          sql := String.ofList
            (sqlFront ++ (style.literal (middle.flatMap Token.text) ++ sqlBack)) }
    | .error fault => exists refusal other, parse longer dialect style = .error other ∧
        Refusal.Describes template fault refusal ∧ Refusal.Describes longer other refusal := by
  intro sqlFront sqlBack
  have judged : firstMistake? dialect .start (scan template.toList) =
      (firstMistake? dialect .start front).or
        (firstMistake? dialect (front.foldl Place.after .start) back) := by
    rw [scanned, firstMistake?_append]
  have judgedLonger : firstMistake? dialect .start (scan longer.toList) =
      (firstMistake? dialect .start front).or
        ((firstMistake? dialect (front.foldl Place.after .start) back).map fun found =>
          (found.1, found.2 + (middle.flatMap Token.text).length)) := by
    rw [scannedLonger, firstMistake?_append, firstMistake?_append, firstMistake?_kept kept,
      foldl_after_kept kept, firstMistake?_later]
    rfl
  have marks : columnMarks .start (scan longer.toList) =
      columnMarks .start (scan template.toList) := by
    rw [scanned, scannedLonger, columnMarks_append, columnMarks_append, columnMarks_append,
      columnMarks_kept kept, foldl_after_kept kept, columnMarks_later]
    rfl
  have made : pieces dialect (scan template.toList) = pieces dialect front ++ pieces dialect back := by
    rw [scanned]
    exact List.flatMap_append
  have madeLonger : pieces dialect (scan longer.toList) = pieces dialect front ++
      ((middle.map fun token => .literal token.text) ++ pieces dialect back) := by
    rw [← pieces_kept kept, scannedLonger]
    exact List.flatMap_append.trans (congrArg (pieces dialect front ++ ·) List.flatMap_append)
  have codes : parameters (pieces dialect (scan longer.toList)) =
      parameters (pieces dialect (scan template.toList)) := by
    rw [made, madeLonger, parameters_append, parameters_append, parameters_append,
      parameters_literals]
    rfl
  have sql : render style 0 (pieces dialect (scan template.toList)) = sqlFront ++ sqlBack := by
    rw [made, render_append, Nat.zero_add]
  have sqlLonger : render style 0 (pieces dialect (scan longer.toList)) =
      sqlFront ++ (style.literal (middle.flatMap Token.text) ++ sqlBack) := by
    rw [madeLonger, render_append, render_append, render_literals, parameters_literals,
      List.length_nil, Nat.add_zero, Nat.zero_add]
  unfold parse
  simp only [judged, judgedLonger, marks, codes, sql, sqlLonger]
  cases firstMistake? dialect .start front with
  | some found =>
      exact ⟨Refusal.ofMistake dialect found.1, _, rfl,
        Refusal.describes_fault dialect template _ found.1,
        Refusal.describes_fault dialect longer _ found.1⟩
  | none =>
      cases firstMistake? dialect (front.foldl Place.after .start) back with
      | some found =>
          exact ⟨Refusal.ofMistake dialect found.1, _, rfl,
            Refusal.describes_fault dialect template _ found.1,
            Refusal.describes_fault dialect longer _ found.1⟩
      | none => exact ⟨rfl, rfl⟩

/-- If a template is accepted, so is every template of the tokens at its start. -/
theorem parse_front {first : String} (scannedFirst : scan first.toList = front)
    (scanned : scan template.toList = front ++ back) {style : ParameterStyle} {query : ParsedQuery}
    (accepted : parse template dialect style = .ok query) :
    exists other, parse first dialect style = .ok other ∧
      other.sql = String.ofList (render style 0 (pieces dialect front)) := by
  cases judged : firstMistake? dialect .start front with
  | some found =>
      unfold parse at accepted
      simp only [scanned, firstMistake?_append, judged, Option.some_or] at accepted
      cases accepted
  | none =>
      have parsed : parse first dialect style = .ok
          ⟨String.ofList (render style 0 (pieces dialect front)),
            parameters (pieces dialect front), columnTypes (columnMarks .start front)⟩ := by
        unfold parse
        simp only [scannedFirst, judged]
      exact ⟨_, parsed, rfl⟩

end Insertion

end Template
end SqlGateway
