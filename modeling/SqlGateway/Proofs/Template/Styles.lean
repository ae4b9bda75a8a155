import SqlGateway.Template.Cache

namespace SqlGateway
namespace Template

/-!
# One template in three parameter styles

A connection may compile a template in the style of its driver and, when it prepares a
statement, once more with question marks.  Both texts must put the same parameters between
the same pieces of text, or every bound value after the first difference moves to another place.

The text between parameters is a list of segments, one more than there are parameters,
that depends on the template and the dialect alone.  Each style weaves its own markers into
them.  A driver that formats statements reads the percent sign as its own, so that style
doubles it in every segment; the main statement says that such a driver gets every
argument to its place and every segment back as it was.
-/

/-! ## Text between parameters -/

/-- The texts around the places of parameters: one more than there are places. -/
structure Segments where
  first : List Char
  later : List (List Char)
deriving DecidableEq, Repr

namespace Segments

/-- The count of places between the segments. -/
def places (segments : Segments) : Nat := segments.later.length

/-- Text put before the first segment. -/
def prepend (text : List Char) (segments : Segments) : Segments :=
  ⟨text ++ segments.first, segments.later⟩

/-- One more place, before the first segment. -/
def afterPlace (segments : Segments) : Segments := ⟨[], segments.first :: segments.later⟩

/-- A function of each segment. -/
def map (function : List Char → List Char) (segments : Segments) : Segments :=
  ⟨function segments.first, segments.later.map function⟩

/-- The segments in order, with one filler at each place. -/
def weave (segments : Segments) (fillers : List (List Char)) : List Char :=
  segments.first ++ (List.zipWith (· ++ ·) fillers segments.later).flatten

/-- The literal text of pieces, cut at each parameter. -/
def ofPieces : List Piece → Segments
  | [] => ⟨[], []⟩
  | .literal characters :: rest => (ofPieces rest).prepend characters
  | .parameter _ :: rest => (ofPieces rest).afterPlace

/-- The segments of a template in a dialect. -/
def ofTemplate (template : String) (dialect : Dialect) : Segments :=
  ofPieces (pieces dialect (scan template.toList))

@[simp] theorem places_prepend (text : List Char) (segments : Segments) :
    (segments.prepend text).places = segments.places :=
  rfl

@[simp] theorem places_afterPlace (segments : Segments) :
    segments.afterPlace.places = segments.places + 1 :=
  rfl

/-- Only the style that doubles percent signs changes the segments. -/
theorem map_literal {style : ParameterStyle} (single : style.doublesPercent = false)
    (segments : Segments) : segments.map style.literal = segments := by
  have unchanged : style.literal = id := by
    funext text
    simp [ParameterStyle.literal, single]
  simp [map, unchanged]

@[simp] theorem weave_prepend (text : List Char) (segments : Segments)
    (fillers : List (List Char)) :
    (segments.prepend text).weave fillers = text ++ segments.weave fillers := by
  simp [prepend, weave]

@[simp] theorem weave_afterPlace (segments : Segments) (filler : List Char)
    (fillers : List (List Char)) :
    segments.afterPlace.weave (filler :: fillers) = filler ++ segments.weave fillers := by
  simp [afterPlace, weave]

theorem places_ofPieces (pieces : List Piece) :
    (ofPieces pieces).places = (parameters pieces).length := by
  induction pieces with
  | nil => rfl
  | cons piece rest inductionHypothesis =>
      cases piece with
      | literal characters => exact inductionHypothesis
      | parameter code => exact congrArg (· + 1) inductionHypothesis

end Segments

/-! ## Rendering -/

/-- A style writes its literal form of each segment and its marker at each place. -/
theorem render_eq_weave (style : ParameterStyle) (ordinal : Nat) (pieces : List Piece) :
    render style ordinal pieces =
      ((Segments.ofPieces pieces).map style.literal).weave
        ((List.range' ordinal (Segments.ofPieces pieces).places).map style.marker) := by
  induction pieces generalizing ordinal with
  | nil =>
      have empty : style.literal [] = [] := by cases style <;> rfl
      simp [render, Segments.ofPieces, Segments.places, Segments.map, Segments.weave, empty]
  | cons piece rest inductionHypothesis =>
      cases piece with
      | literal characters =>
          have moved : (((Segments.ofPieces rest).prepend characters).map style.literal) =
              ((Segments.ofPieces rest).map style.literal).prepend (style.literal characters) := by
            simp [Segments.map, Segments.prepend, ParameterStyle.literal_append]
          simp [render, Segments.ofPieces, moved, inductionHypothesis]
      | parameter code =>
          have moved : ((Segments.ofPieces rest).afterPlace.map style.literal) =
              ((Segments.ofPieces rest).map style.literal).afterPlace := by
            cases style <;> rfl
          simp [render, Segments.ofPieces, moved, List.range'_succ, inductionHypothesis]

/-! ## A driver that formats statements -/

/-- The text that a formatting driver sends: a pair of percent signs stands for one, a
percent sign and the letter s for the next argument.  Any other percent sign, a missing
argument and an argument left over are mistakes. -/
def interpolate : List Char → List (List Char) → Option (List Char)
  | [], [] => some []
  | [], _ :: _ => none
  | '%' :: '%' :: rest, arguments => (interpolate rest arguments).map ('%' :: ·)
  | '%' :: 's' :: rest, argument :: arguments => (interpolate rest arguments).map (argument ++ ·)
  | '%' :: _, _ => none
  | character :: rest, arguments => (interpolate rest arguments).map (character :: ·)

theorem interpolate_plain {character : Char} (plain : character ≠ '%') (rest : List Char)
    (arguments : List (List Char)) :
    interpolate (character :: rest) arguments =
      (interpolate rest arguments).map (character :: ·) := by
  rw [interpolate]
  all_goals simp [plain]

/-- Doubled text comes back as it was. -/
theorem interpolate_doubled (text rest : List Char) (arguments : List (List Char)) :
    interpolate (ParameterStyle.doubled text ++ rest) arguments =
      (interpolate rest arguments).map (text ++ ·) := by
  induction text with
  | nil =>
      rw [show ParameterStyle.doubled [] ++ rest = rest from rfl]
      cases interpolate rest arguments <;> rfl
  | cons character text inductionHypothesis =>
      have joined (found : Option (List Char)) :
          (found.map (text ++ ·)).map (character :: ·) = found.map (character :: text ++ ·) := by
        cases found <;> rfl
      -- Only a percent sign becomes a pair; the formatter reads any other character as it is.
      by_cases percent : character = '%'
      · subst percent
        rw [← joined, ← inductionHypothesis]
        rfl
      · have single : ParameterStyle.doubled (character :: text) =
            character :: ParameterStyle.doubled text := by
          simp [ParameterStyle.doubled, percent]
        rw [single, List.cons_append, interpolate_plain percent, inductionHypothesis, joined]

/-- Formatting needs one argument for each place, and puts it there. -/
theorem interpolate_render (ordinal : Nat) (pieces : List Piece) (arguments : List (List Char)) :
    interpolate (render .percent ordinal pieces) arguments =
      if arguments.length = (Segments.ofPieces pieces).places then
        some ((Segments.ofPieces pieces).weave arguments)
      else none := by
  induction pieces generalizing ordinal arguments with
  | nil => cases arguments <;> rfl
  | cons piece rest inductionHypothesis =>
      cases piece with
      | literal characters =>
          have rendered : render .percent ordinal (.literal characters :: rest) =
              ParameterStyle.doubled characters ++ render .percent ordinal rest :=
            rfl
          rw [rendered, interpolate_doubled, inductionHypothesis]
          simp only [Segments.ofPieces, Segments.places_prepend, Segments.weave_prepend]
          split <;> rfl
      | parameter code =>
          cases arguments with
          | nil => rfl
          | cons argument others =>
              have formatted : interpolate (render .percent ordinal (.parameter code :: rest))
                  (argument :: others) =
                  (interpolate (render .percent (ordinal + 1) rest) others).map
                    (argument ++ ·) :=
                rfl
              rw [formatted, inductionHypothesis]
              simp only [Segments.ofPieces, Segments.places_afterPlace, Segments.weave_afterPlace,
                List.length_cons, Nat.add_right_cancel_iff]
              split <;> rfl

/-! ## Compilation -/

theorem compile_empty (capacity : Nat) (template : String) (dialect : Dialect)
    (style : ParameterStyle) :
    ((Cache.ofCapacity capacity).compile template dialect (some style)).1 =
      parse template dialect style := by
  simp only [Cache.compile, Option.getD_some]
  cases parse template dialect style <;> rfl

/-- Whether a template is a mistake, and which, does not depend on the style; neither do the
parameters and the columns of a query. -/
theorem parse_eq (template : String) (dialect : Dialect) :
    (exists fault, forall style, parse template dialect style = .error fault) ∨
    (exists placeholders columnTypes,
      (Segments.ofTemplate template dialect).places = placeholders.length ∧
      forall style, parse template dialect style =
        .ok ⟨String.ofList (render style 0 (pieces dialect (scan template.toList))),
          placeholders, columnTypes⟩) := by
  cases found : firstMistake? dialect .start (scan template.toList) with
  | some mistake =>
      refine Or.inl ⟨mistake.1.fault dialect template.toList mistake.2, fun style => ?_⟩
      simp only [parse, found]
  | none =>
      refine Or.inr ⟨parameters (pieces dialect (scan template.toList)),
        columnTypes (columnMarks .start (scan template.toList)), Segments.places_ofPieces _,
        fun style => ?_⟩
      simp only [parse, found]

/-- A template either fails in every style with one fault, or it has segments into which each
style weaves its markers, with the same parameters and columns in every style.  A formatting
driver then takes exactly as many arguments as there are parameters, and what it sends has
every argument between the segments that belong there. -/
theorem compile_agrees (template : String) (dialect : Dialect) :
    (exists fault, forall (capacity : Nat) (style : ParameterStyle),
      ((Cache.ofCapacity capacity).compile template dialect (some style)).1 = .error fault) ∨
    (exists (placeholders : List TypeCode) (columnTypes : List (Option TypeCode))
        (segments : Segments) (percentSql : List Char),
      segments.places = placeholders.length ∧
      percentSql = (segments.map ParameterStyle.doubled).weave
        (List.replicate placeholders.length ['%', 's']) ∧
      (forall capacity : Nat,
        ((Cache.ofCapacity capacity).compile template dialect (some .question)).1 =
          .ok ⟨String.ofList (segments.weave (List.replicate placeholders.length ['?'])),
            placeholders, columnTypes⟩ ∧
        ((Cache.ofCapacity capacity).compile template dialect (some .colon)).1 =
          .ok ⟨String.ofList (segments.weave ((List.range placeholders.length).map
            fun place => ':' :: Nat.toDigits 10 (place + 1))), placeholders, columnTypes⟩ ∧
        ((Cache.ofCapacity capacity).compile template dialect (some .percent)).1 =
          .ok ⟨String.ofList percentSql, placeholders, columnTypes⟩) ∧
      forall arguments : List (List Char), interpolate percentSql arguments =
        if arguments.length = placeholders.length then some (segments.weave arguments)
        else none) := by
  rcases parse_eq template dialect with ⟨fault, fails⟩ |
    ⟨placeholders, columnTypes, placesEqual, compiles⟩
  · exact Or.inl ⟨fault, fun capacity style => (compile_empty _ _ _ style).trans (fails style)⟩
  have woven (style : ParameterStyle) :
      render style 0 (pieces dialect (scan template.toList)) =
        ((Segments.ofTemplate template dialect).map style.literal).weave
          ((List.range placeholders.length).map style.marker) := by
    rw [render_eq_weave, List.range_eq_range', ← placesEqual]
    rfl
  have repeated (marker : List Char) :
      ((List.range placeholders.length).map fun _ => marker) =
        List.replicate placeholders.length marker := by
    rw [List.map_const', List.length_range]
  refine Or.inr ⟨placeholders, columnTypes, Segments.ofTemplate template dialect,
    render .percent 0 (pieces dialect (scan template.toList)), placesEqual, ?_, ?_, ?_⟩
  · rw [woven, ← repeated]
    rfl
  · intro capacity
    refine ⟨?_, ?_, ?_⟩
    · rw [compile_empty, compiles, woven, Segments.map_literal rfl, ← repeated]
      rfl
    · rw [compile_empty, compiles, woven, Segments.map_literal rfl]
      rfl
    · rw [compile_empty, compiles]
  · intro arguments
    rw [interpolate_render, ← placesEqual]
    rfl

/-- A percent sign in a bracketed name is doubled once, and no place is made of it. -/
example : parse "[a%s] = %i" (.graveQuoted "mysql") .percent =
    .ok ⟨"\x60a%%s\x60 = %s", [.integer], []⟩ := by
  rfl

end Template
end SqlGateway
