import Mathlib.Order.Interval.Finset.Nat
import SqlGateway.Proofs.Template.Copied

namespace SqlGateway
namespace Template

/-!
# Columns of declared kinds

The compiler goes through the tokens once and keeps two counts, of the open parentheses and of the
commas since the last list of columns began.  A closing parenthesis lowers the first count if it can,
and the word that starts a list sets the second one back.

What the counts are for can be said without counting along.  A parenthesis is open at a place if
nothing before the place closes it.  A list of columns starts where the word stands and no parenthesis
is open.  The column of a place is the number of commas outside parentheses since the last list
started.  All of this is about the parts of the reading, so that literals, names and comments have no
share in it.

The proof carries the two counts from place to place.  Only the word takes several steps: after its
first letter no list can start, because a letter comes before.
-/

/-! ## Open parentheses -/

/-- Whether a parenthesis that is opened before a text is closed in it: some start of the text closes
more parentheses than it opens. -/
def isClosedIn (part : List Lexeme) : Bool :=
  part.inits.any fun start =>
    decide (start.count (.plain '(') < start.count (.plain ')'))

/-- How many parentheses of a text are not closed in the rest of it. -/
def openCount : List Lexeme → Nat
  | [] => 0
  | lexeme :: rest =>
    openCount rest + if lexeme = .plain '(' ∧ isClosedIn rest = false then 1 else 0

/-- How many parentheses that are opened before a text it closes. -/
def surplus : List Lexeme → Nat
  | [] => 0
  | lexeme :: rest =>
    if lexeme = .plain '(' then surplus rest - 1
    else if lexeme = .plain ')' then surplus rest + 1
    else surplus rest

/-- A text has a start with so many more closing than opening parentheses, if it closes more than
that. -/
theorem exists_excess_iff (part : List Lexeme) (bound : Nat) :
    (exists start, start ∈ part.inits ∧
      start.count (.plain '(') + bound < start.count (.plain ')')) <-> bound < surplus part := by
  induction part generalizing bound with
  | nil => simp [surplus]
  | cons lexeme rest inductionHypothesis =>
      have shorter : (exists start, start ∈ (lexeme :: rest).inits ∧
          start.count (.plain '(') + bound < start.count (.plain ')')) <->
          exists start, start ∈ rest.inits ∧ (lexeme :: start).count (.plain '(') + bound <
            (lexeme :: start).count (.plain ')') := by
        simp [List.inits]
      rw [shorter, surplus]
      by_cases opens : lexeme = .plain '('
      · subst opens
        have counted (start : List Lexeme) :
            (Lexeme.plain '(' :: start).count (.plain '(') + bound <
              (Lexeme.plain '(' :: start).count (.plain ')') <->
            start.count (.plain '(') + (bound + 1) < start.count (.plain ')') := by
          simp [Nat.add_assoc, Nat.add_comm 1]
        simp only [counted, inductionHypothesis, if_true]
        omega
      · rw [if_neg opens]
        by_cases closes : lexeme = .plain ')'
        · subst closes
          cases bound with
          | zero =>
              refine iff_of_true ⟨[], by simp, by simp⟩ (Nat.succ_pos _)
          | succ bound =>
              have counted (start : List Lexeme) :
                  (Lexeme.plain ')' :: start).count (.plain '(') + (bound + 1) <
                    (Lexeme.plain ')' :: start).count (.plain ')') <->
                  start.count (.plain '(') + bound < start.count (.plain ')') := by
                simp [← Nat.add_assoc]
              simp only [counted, inductionHypothesis, if_true]
              omega
        · have counted (start : List Lexeme) :
              (lexeme :: start).count (.plain '(') = start.count (.plain '(') ∧
              (lexeme :: start).count (.plain ')') = start.count (.plain ')') :=
            ⟨List.count_cons_of_ne opens, List.count_cons_of_ne closes⟩
          simp only [fun start => (counted start).1, fun start => (counted start).2,
            inductionHypothesis, if_neg closes]

theorem isClosedIn_eq_false_iff (part : List Lexeme) :
    isClosedIn part = false <-> surplus part = 0 := by
  have closed : isClosedIn part = true <-> 0 < surplus part := by
    rw [← exists_excess_iff part 0]
    simp [isClosedIn]
  rw [← Bool.not_eq_true, closed, Nat.not_lt, Nat.le_zero]

/-- Going through a text, the parentheses that were open before are closed as far as the text closes
any, and its own that it does not close are added. -/
theorem foldl_depthAfter (part : List Lexeme) (depth : Nat) :
    part.foldl Lexeme.depthAfter depth = openCount part + (depth - surplus part) := by
  induction part generalizing depth with
  | nil => exact (Nat.zero_add depth).symm
  | cons lexeme rest inductionHypothesis =>
      rw [List.foldl_cons, inductionHypothesis, openCount, surplus]
      simp only [isClosedIn_eq_false_iff]
      cases lexeme with
      | construct construct => simp [Lexeme.depthAfter]
      | plain character =>
          by_cases opens : character = '('
          · subst opens
            simp only [Lexeme.depthAfter, if_true, true_and]
            split <;> omega
          · by_cases closes : character = ')'
            · subst closes
              simp [Lexeme.depthAfter, Nat.sub_sub, Nat.add_comm]
            · simp [Lexeme.depthAfter, opens, closes]

/-- The open parentheses are those that the compiler counts. -/
theorem openCount_concat (before : List Lexeme) (lexeme : Lexeme) :
    openCount (before ++ [lexeme]) = lexeme.depthAfter (openCount before) := by
  have counted (part : List Lexeme) : openCount part = part.foldl Lexeme.depthAfter 0 := by
    rw [foldl_depthAfter, Nat.zero_sub, Nat.add_zero]
  rw [counted, counted, List.foldl_concat]

/-! ## Lists of columns -/

/-- The ways to write a letter of the word that starts a list of columns; the long s counts as
an s. -/
def formsOf (letter : Char) : List Char :=
  letter :: letter.toUpper :: if letter = 's' then [Char.ofNat 0x17f] else []

/-- Whether the word that starts a list of columns stands at a place, as a whole word. -/
def IsSelectAt (lexemes : List Lexeme) (place : Nat) : Prop :=
  exists word after, lexemes.drop place = word.map .plain ++ after ∧
    List.Forall₂ (fun letter spelling => spelling ∈ formsOf letter) "select".toList word ∧
    isGap ((lexemes.take place).flatMap Lexeme.text).getLast? = true ∧
    isGap (after.flatMap Lexeme.text).head? = true

/-- Whether no parenthesis is open at a place. -/
def IsOutside (lexemes : List Lexeme) (place : Nat) : Prop :=
  openCount (lexemes.take place) = 0

instance (lexemes : List Lexeme) (place : Nat) : Decidable (IsOutside lexemes place) :=
  inferInstanceAs (Decidable (openCount (lexemes.take place) = 0))

/-- Whether a list of columns starts at a place. -/
def StartsList (lexemes : List Lexeme) (place : Nat) : Prop :=
  IsSelectAt lexemes place ∧ IsOutside lexemes place

/-- The start of the last list of columns before a place, or of the reading if there is none. -/
structure IsListStart (lexemes : List Lexeme) (place start : Nat) : Prop where
  starts : start = 0 ∨ (start < place ∧ StartsList lexemes start)
  last : forall other, start < other -> other < place -> ¬ StartsList lexemes other

/-- The number of commas outside parentheses between two places. -/
def commaCount (lexemes : List Lexeme) (start place : Nat) : Nat :=
  ((Finset.Ico start place).filter fun other =>
    lexemes[other]? = some (.plain ',') ∧ IsOutside lexemes other).card

/-- The column to which a place belongs. -/
def IsInColumn (lexemes : List Lexeme) (place column : Nat) : Prop :=
  exists start, IsListStart lexemes place start ∧ commaCount lexemes start place = column

/-- Whether the kind of a column is declared at a place. -/
structure Declares (lexemes : List Lexeme) (place column : Nat) (code : TypeCode) : Prop where
  mark : lexemes[place]? = some (.construct (.columnMark code))
  inColumn : IsInColumn lexemes place column

section Places

variable {lexemes : List Lexeme} {place column : Nat}

theorem IsListStart.le {start : Nat} (isStart : IsListStart lexemes place start) : start ≤ place := by
  rcases isStart.starts with rfl | ⟨before, -⟩
  · exact Nat.zero_le place
  · exact Nat.le_of_lt before

theorem IsListStart.unique {first second : Nat} (isFirst : IsListStart lexemes place first)
    (isSecond : IsListStart lexemes place second) : first = second := by
  have notLater {earlier later : Nat} (isEarlier : IsListStart lexemes place earlier)
      (isLater : IsListStart lexemes place later) : ¬ earlier < later := by
    intro before
    rcases isLater.starts with rfl | ⟨within, starts⟩
    · exact Nat.not_lt_zero _ before
    · exact isEarlier.last later before within starts
  exact Nat.le_antisymm (Nat.not_lt.mp (notLater isSecond isFirst))
    (Nat.not_lt.mp (notLater isFirst isSecond))

/-- A place belongs to one column. -/
theorem IsInColumn.unique {other : Nat} (inColumn : IsInColumn lexemes place column)
    (inOther : IsInColumn lexemes place other) : column = other := by
  rcases inColumn with ⟨start, isStart, rfl⟩
  rcases inOther with ⟨otherStart, isOther, rfl⟩
  rw [isStart.unique isOther]

theorem isInColumn_start (lexemes : List Lexeme) : IsInColumn lexemes 0 0 :=
  ⟨0, ⟨Or.inl rfl, fun other _ before => absurd before (Nat.not_lt_zero other)⟩, rfl⟩

theorem commaCount_succ {start : Nat} (before : start ≤ place) :
    commaCount lexemes start (place + 1) = commaCount lexemes start place +
      if lexemes[place]? = some (.plain ',') ∧ IsOutside lexemes place then 1 else 0 := by
  have longer : Finset.Ico start (place + 1) = insert place (Finset.Ico start place) :=
    Nat.Ico_succ_right_eq_insert_Ico before
  unfold commaCount
  rw [longer, Finset.filter_insert]
  split
  · exact Finset.card_insert_of_notMem fun member =>
      Finset.right_notMem_Ico (Finset.mem_filter.mp member).1
  · rfl

/-- Where no list starts, the next place is in the same column, or in the next one after a comma
outside parentheses. -/
theorem IsInColumn.next (inColumn : IsInColumn lexemes place column)
    (noList : ¬ StartsList lexemes place) :
    IsInColumn lexemes (place + 1) (column +
      if lexemes[place]? = some (.plain ',') ∧ IsOutside lexemes place then 1 else 0) := by
  rcases inColumn with ⟨start, isStart, rfl⟩
  refine ⟨start, ⟨?_, fun other after before => ?_⟩, commaCount_succ isStart.le⟩
  · exact isStart.starts.imp_right fun found => ⟨Nat.lt_succ_of_lt found.1, found.2⟩
  · rcases Nat.lt_succ_iff_lt_or_eq.mp before with earlier | rfl
    · exact isStart.last other after earlier
    · exact noList

/-- After the first letter of the word that starts a list, the columns are counted anew. -/
theorem isInColumn_of_startsList (starts : StartsList lexemes place)
    (noComma : lexemes[place]? ≠ some (.plain ',')) : IsInColumn lexemes (place + 1) 0 := by
  refine ⟨place, ⟨Or.inr ⟨Nat.lt_succ_self place, starts⟩, fun other after before => ?_⟩, ?_⟩
  · exact absurd after (Nat.not_lt.mpr (Nat.lt_succ_iff.mp before))
  · rw [commaCount_succ (Nat.le_refl place), if_neg fun both => noComma both.1, commaCount,
      Finset.Ico_self]
    rfl

end Places

/-! ## The word -/

/-- The scanner looks for the word as the reading does. -/
theorem isSelect_iff {previous : Option Char} {characters : List Char} :
    isSelect previous characters = true <->
      exists word rest, characters = word ++ rest ∧
        List.Forall₂ (fun letter spelling => spelling ∈ formsOf letter) "select".toList word ∧
        isGap previous = true ∧ isGap rest.head? = true := by
  have letters : selectLetters = "select".toList.map formsOf := rfl
  unfold isSelect
  constructor
  · intro starts
    split at starts
    · rename_i rest found
      rcases afterLetters?_eq_some_iff.mp found with ⟨word, same, spelled⟩
      rw [letters, List.forall₂_map_left_iff] at spelled
      exact ⟨word, rest, same, spelled, Bool.and_eq_true_iff.mp starts⟩
    · cases starts
  · rintro ⟨word, rest, same, spelled, gaps⟩
    rw [← List.forall₂_map_left_iff (f := formsOf), ← letters] at spelled
    rw [afterLetters?_eq_some_iff.mpr ⟨word, same, spelled⟩]
    exact Bool.and_eq_true_iff.mpr gaps

/-- Where the word stands, the scanner takes it. -/
theorem tokenAt_of_isSelect {previous : Option Char} {character : Char} {rest : List Char}
    (starts : isSelect previous (character :: rest) = true) :
    tokenAt previous character rest = (.selectWord, 6) := by
  rcases isSelect_sound starts with ⟨word, after, same, sixLetters, inert⟩
  cases word with
  | nil => cases sixLetters
  | cons letter more =>
      rcases List.cons.inj same with ⟨rfl, rfl⟩
      rcases inert character List.mem_cons_self with ⟨noOpening, plain⟩
      have unlike (other : Char) (meaning : plainKind other ≠ .plain) : character ≠ other := by
        rintro rfl
        exact meaning plain
      simp only [openings, List.mem_cons, List.not_mem_nil, or_false, not_or] at noOpening
      rcases noOpening with ⟨singleQuote, doubleQuote, dash, slash, bracket, percent, brace⟩
      simp only [tokenAt, singleQuote, doubleQuote, dash, slash, bracket, percent, brace,
        unlike '(' (by decide), unlike ')' (by decide), unlike ',' (by decide), starts, if_false,
        if_true]

section Reading

variable {lexemes rest : List Lexeme} {lexeme : Lexeme} {place : Nat}

/-- What stands at a place, and what comes before and after it. -/
theorem place_of_drop (ahead : lexemes.drop place = lexeme :: rest) :
    lexemes[place]? = some lexeme ∧ lexemes.drop (place + 1) = rest ∧
      lexemes.take (place + 1) = lexemes.take place ++ [lexeme] := by
  have here : lexemes[place]? = some lexeme := by
    rw [← List.head?_drop, ahead]
    rfl
  refine ⟨here, ?_, ?_⟩
  · rw [← List.tail_drop, ahead]
    rfl
  · rw [List.take_add_one, here]
    rfl

/-- The word does not stand after a letter. -/
theorem not_isSelectAt_after {letter : Char} (ahead : lexemes.drop place = .plain letter :: rest)
    (isWord : Text.isWord letter = true) : ¬ IsSelectAt lexemes (place + 1) := by
  rintro ⟨word, after, -, -, gap, -⟩
  rw [(place_of_drop ahead).2.2, List.flatMap_append, List.getLast?_append] at gap
  simp [Lexeme.text, isGap, isWord] at gap

theorem flatMap_text_plain (letters : List Char) :
    (letters.map Lexeme.plain).flatMap Lexeme.text = letters := by
  rw [List.flatMap_map]
  exact List.flatMap_singleton' letters

/-- Where the word stands the scanner finds it. -/
theorem IsSelectAt.isSelect (isSelectAt : IsSelectAt lexemes place) :
    isSelect ((lexemes.take place).flatMap Lexeme.text).getLast?
      ((lexemes.drop place).flatMap Lexeme.text) = true := by
  rcases isSelectAt with ⟨word, after, ahead, spelled, gapBefore, gapAfter⟩
  refine isSelect_iff.mpr ⟨word, after.flatMap Lexeme.text, ?_, spelled, gapBefore, gapAfter⟩
  rw [ahead, List.flatMap_append, flatMap_text_plain]

/-- Where the scanner finds the word it stands. -/
theorem isSelectAt_of_isSelect {letters : List Char}
    (ahead : lexemes.drop place = letters.map .plain ++ rest) (sixLetters : letters.length = 6)
    (starts : isSelect ((lexemes.take place).flatMap Lexeme.text).getLast?
      (letters ++ rest.flatMap Lexeme.text) = true) :
    IsSelectAt lexemes place ∧ forall letter, letter ∈ letters -> Text.isWord letter = true := by
  rcases isSelect_iff.mp starts with ⟨word, after, same, spelled, gapBefore, gapAfter⟩
  rcases List.append_inj same (sixLetters.trans spelled.length_eq) with ⟨rfl, rfl⟩
  refine ⟨⟨letters, rest, ahead, spelled, gapBefore, gapAfter⟩, fun letter member => ?_⟩
  rw [← List.forall₂_map_left_iff (f := formsOf)] at spelled
  exact (letter_of_spelled spelled letter member).2.2

/-- A character without a meaning changes no count. -/
theorem not_counted_of_plain {letter : Char} (plain : plainKind letter = .plain) :
    Lexeme.plain letter ≠ .plain ',' ∧
      forall depth, (Lexeme.plain letter).depthAfter depth = depth := by
  constructor
  · intro comma
    rw [Lexeme.plain.inj comma] at plain
    exact absurd plain (by decide)
  · intro depth
    rw [← depth_after_plain ⟨0, depth, 0⟩ letter, plain]
    rfl

/-- The two counts of a place. -/
structure Counts (lexemes : List Lexeme) (place depth column : Nat) : Prop where
  depth : openCount (lexemes.take place) = depth
  column : IsInColumn lexemes place column

namespace Counts

variable {depth column : Nat}

/-- One part on, where no list starts. -/
theorem next (counts : Counts lexemes place depth column)
    (ahead : lexemes.drop place = lexeme :: rest) (noList : ¬ StartsList lexemes place) :
    Counts lexemes (place + 1) (lexeme.depthAfter depth)
      (column + if lexeme = .plain ',' ∧ depth = 0 then 1 else 0) := by
  rcases place_of_drop ahead with ⟨here, -, before⟩
  constructor
  · rw [before, openCount_concat, counts.depth]
  · have moved := counts.column.next noList
    rw [here] at moved
    simpa only [IsOutside, counts.depth, Option.some.injEq] using moved

/-- Past letters, if no list starts at the first of them. -/
theorem pastLetters {letters : List Char} (counts : Counts lexemes place depth column)
    (ahead : lexemes.drop place = letters.map .plain ++ rest)
    (plain : forall letter, letter ∈ letters -> plainKind letter = .plain)
    (isWord : forall letter, letter ∈ letters -> Text.isWord letter = true)
    (noList : ¬ StartsList lexemes place) :
    Counts lexemes (place + letters.length) depth column := by
  induction letters generalizing place with
  | nil => exact counts
  | cons letter letters inductionHypothesis =>
      have moved := counts.next ahead noList
      rcases not_counted_of_plain (plain letter List.mem_cons_self) with ⟨noComma, sameDepth⟩
      rw [sameDepth, if_neg fun both => noComma both.1, Nat.add_zero] at moved
      have noLater : ¬ StartsList lexemes (place + 1) := fun starts =>
        not_isSelectAt_after ahead (isWord letter List.mem_cons_self) starts.1
      have past := inductionHypothesis moved (place_of_drop ahead).2.1
        (fun other member => plain other (List.mem_cons_of_mem _ member))
        (fun other member => isWord other (List.mem_cons_of_mem _ member)) noLater
      rw [List.length_cons, Nat.add_comm letters.length, ← Nat.add_assoc]
      exact past

/-- Past the word, which starts a list if no parenthesis is open. -/
theorem pastWord {letters : List Char} (counts : Counts lexemes place depth column)
    (ahead : lexemes.drop place = letters.map .plain ++ rest) (sixLetters : letters.length = 6)
    (plain : forall letter, letter ∈ letters -> plainKind letter = .plain)
    (isWord : forall letter, letter ∈ letters -> Text.isWord letter = true)
    (isSelectAt : IsSelectAt lexemes place) :
    Counts lexemes (place + letters.length) depth (if depth = 0 then 0 else column) := by
  by_cases outside : depth = 0
  · cases letters with
    | nil => cases sixLetters
    | cons letter letters =>
        rcases place_of_drop ahead with ⟨here, later, before⟩
        rcases not_counted_of_plain (plain letter List.mem_cons_self) with ⟨noComma, sameDepth⟩
        have starts : StartsList lexemes place := ⟨isSelectAt, counts.depth.trans outside⟩
        have first : Counts lexemes (place + 1) depth 0 := by
          constructor
          · rw [before, openCount_concat, counts.depth, sameDepth]
          · exact isInColumn_of_startsList starts fun comma =>
              noComma (Option.some.inj (here.symm.trans comma))
        rw [if_pos outside, List.length_cons, Nat.add_comm letters.length, ← Nat.add_assoc]
        exact first.pastLetters later
          (fun other member => plain other (List.mem_cons_of_mem _ member))
          (fun other member => isWord other (List.mem_cons_of_mem _ member))
          fun again => not_isSelectAt_after ahead (isWord letter List.mem_cons_self) again.1
  · rw [if_neg outside]
    have noList : ¬ StartsList lexemes place := fun starts =>
      outside (counts.depth.symm.trans starts.2)
    exact counts.pastLetters ahead plain isWord noList

end Counts

/-! ## Declarations -/

/-- The declarations from a place on, in order. -/
inductive Declarations (lexemes : List Lexeme) : Nat → List (Nat × TypeCode) → Prop where
  | past {place : Nat} (past : lexemes.length ≤ place) : Declarations lexemes place []
  | declared {place column : Nat} {code : TypeCode} {marks : List (Nat × TypeCode)}
      (declares : Declares lexemes place column code)
      (later : Declarations lexemes (place + 1) marks) :
      Declarations lexemes place ((column, code) :: marks)
  | undeclared {place : Nat} {marks : List (Nat × TypeCode)}
      (unmarked : (lexemes[place]?).bind Lexeme.mark? = none)
      (later : Declarations lexemes (place + 1) marks) : Declarations lexemes place marks

theorem Declares.mark?_eq {column : Nat} {code : TypeCode}
    (declares : Declares lexemes place column code) :
    (lexemes[place]?).bind Lexeme.mark? = some code := by
  rw [declares.mark]
  rfl

/-- At most one kind of one column is declared at a place. -/
theorem Declares.unique {column other : Nat} {code otherCode : TypeCode}
    (declares : Declares lexemes place column code)
    (again : Declares lexemes place other otherCode) : column = other ∧ code = otherCode :=
  ⟨declares.inColumn.unique again.inColumn,
    Option.some.inj (declares.mark?_eq.symm.trans again.mark?_eq)⟩

theorem Declarations.pastLetters {letters : List Char} {marks : List (Nat × TypeCode)}
    (ahead : lexemes.drop place = letters.map .plain ++ rest)
    (later : Declarations lexemes (place + letters.length) marks) :
    Declarations lexemes place marks := by
  induction letters generalizing place with
  | nil => exact later
  | cons letter letters inductionHypothesis =>
      rcases place_of_drop ahead with ⟨here, next, -⟩
      rw [List.length_cons, Nat.add_comm letters.length, ← Nat.add_assoc] at later
      refine .undeclared ?_ (inductionHypothesis next later)
      rw [here]
      rfl

/-- The text before the next place ends as the part before it does. -/
theorem getLast?_text (ahead : lexemes.drop place = lexeme :: rest) (nonempty : lexeme.text ≠ []) :
    ((lexemes.take (place + 1)).flatMap Lexeme.text).getLast? = lexeme.text.getLast? := by
  rw [(place_of_drop ahead).2.2, List.flatMap_append, List.flatMap_singleton,
    List.getLast?_append_of_ne_nil _ nonempty]

/-- A comma outside parentheses is counted, and no other character is. -/
theorem column_after_single (reached : Place) (character : Char) :
    (reached.after ⟨plainKind character, [character]⟩).column =
      reached.column + if Lexeme.plain character = .plain ',' ∧ reached.depth = 0 then 1 else 0 := by
  by_cases comma : character = ','
  · subst comma
    change (if reached.depth = 0 then reached.column + 1 else reached.column) = _
    split <;> simp_all
  · rw [column_after_plain comma, if_neg fun both => comma (Lexeme.plain.inj both.1), Nat.add_zero]

/-- A construct starts no list, and is no parenthesis and no comma. -/
theorem Counts.pastConstruct {construct : Construct} {reached : Place}
    (counts : Counts lexemes place reached.depth reached.column)
    (ahead : lexemes.drop place = .construct construct :: rest) :
    Counts lexemes (place + 1) (reached.after ⟨construct.kind, construct.text⟩).depth
      (reached.after ⟨construct.kind, construct.text⟩).column := by
  have noList : ¬ StartsList lexemes place := by
    rintro ⟨⟨word, after, same, spelled, -⟩, -⟩
    rw [ahead] at same
    cases spelled
    cases same
  have moved := counts.next ahead noList
  rw [if_neg fun both => nomatch both.1] at moved
  cases construct <;> exact moved

/-- No list starts at a character that the scanner takes alone. -/
theorem Counts.pastPlain {previous : Option Char} {character : Char} {characters : List Char}
    {reached : Place} (counts : Counts lexemes place reached.depth reached.column)
    (ahead : lexemes.drop place = .plain character :: rest)
    (arrived : previous = ((lexemes.take place).flatMap Lexeme.text).getLast?)
    (written : rest.flatMap Lexeme.text = characters)
    (taken : tokenAt previous character characters = (plainKind character, 1)) :
    Counts lexemes (place + 1) (reached.after ⟨plainKind character, [character]⟩).depth
      (reached.after ⟨plainKind character, [character]⟩).column := by
  have noList : ¬ StartsList lexemes place := by
    rintro ⟨isSelectAt, -⟩
    have starts := isSelectAt.isSelect
    rw [← arrived, ahead, List.flatMap_cons, written] at starts
    have whole : tokenAt previous character characters = (.selectWord, 6) :=
      tokenAt_of_isSelect starts
    rw [whole] at taken
    exact absurd (Prod.mk.inj taken).2 (by decide)
  have moved := counts.next ahead noList
  rw [← depth_after_plain, ← column_after_single] at moved
  exact moved

/-- What comes after letters, and how the text before that ends. -/
theorem pastLetters_of_drop {letters : List Char} (nonempty : letters ≠ [])
    (ahead : lexemes.drop place = letters.map .plain ++ rest) :
    lexemes.drop (place + letters.length) = rest ∧
      ((lexemes.take (place + letters.length)).flatMap Lexeme.text).getLast? =
        letters.getLast? := by
  have taken : (lexemes.drop place).take letters.length = letters.map .plain := by
    rw [ahead, List.take_left' (List.length_map _)]
  constructor
  · rw [← List.drop_drop, ahead, List.drop_left' (List.length_map _)]
  · rw [List.take_add, taken, List.flatMap_append, flatMap_text_plain,
      List.getLast?_append_of_ne_nil _ nonempty]

/-- The compiler lists the declarations of the reading. -/
theorem Scanned.declarations {previous : Option Char} {characters : List Char}
    {tokens : List Token} (scanned : Scanned previous characters rest tokens) {reached : Place}
    (ahead : lexemes.drop place = rest)
    (arrived : previous = ((lexemes.take place).flatMap Lexeme.text).getLast?)
    (written : rest.flatMap Lexeme.text = characters)
    (counts : Counts lexemes place reached.depth reached.column) {dialect : Dialect}
    (accepted : firstRefusal? dialect reached.depth rest = none) :
    Declarations lexemes place (columnMarks reached tokens) := by
  induction scanned generalizing place reached with
  | nil previous => exact .past (List.drop_eq_nil_iff.mp ahead)
  | @construct previous characters rest tokens construct later inductionHypothesis =>
      rcases place_of_drop ahead with ⟨here, next, -⟩
      rw [List.flatMap_cons] at written
      rw [firstRefusal?] at accepted
      split at accepted
      · cases accepted
      · rw [← depth_after_construct] at accepted
        have found := inductionHypothesis next (getLast?_text ahead construct.text_ne_nil).symm
          (List.append_cancel_left written) (counts.pastConstruct ahead) accepted
        cases construct with
        | columnMark code => exact .declared ⟨here, counts.column⟩ found
        | _ =>
            refine .undeclared ?_ found
            rw [here]
            rfl
  | @plain previous characters rest tokens character taken later inductionHypothesis =>
      rcases place_of_drop ahead with ⟨here, next, -⟩
      have writtenLater := (List.cons.inj written).2
      rw [firstRefusal?] at accepted
      split at accepted
      · cases accepted
      · rw [← depth_after_plain] at accepted
        have found := inductionHypothesis next (getLast?_text ahead (List.cons_ne_nil _ _)).symm
          writtenLater (counts.pastPlain ahead arrived writtenLater taken) accepted
        rw [columnMarks, columnMark?_plain]
        refine .undeclared ?_ found
        rw [here]
        rfl
  | @word previous characters rest tokens letters sixLetters inert starts later
      inductionHypothesis =>
      have nonempty : letters ≠ [] := by
        rintro rfl
        cases sixLetters
      rcases pastLetters_of_drop nonempty ahead with ⟨next, arrivedLater⟩
      have writtenLater : rest.flatMap Lexeme.text = characters := by
        rw [List.flatMap_append, flatMap_text_plain] at written
        exact List.append_cancel_left written
      rw [arrived, ← writtenLater] at starts
      rcases isSelectAt_of_isSelect ahead sixLetters starts with ⟨isSelectAt, isWord⟩
      rw [firstRefusal?_inert inert] at accepted
      exact .pastLetters ahead (inductionHypothesis next arrivedLater.symm writtenLater
        (counts.pastWord ahead sixLetters inert isWord isSelectAt) accepted)
  | unclosed previous content after lexemes tokens unclosed => cases accepted

end Reading

/-! ## The list of columns -/

/-- A declaration counts if no later one is about its column. -/
theorem declared_cons (mark : Nat × TypeCode) (marks : List (Nat × TypeCode)) (column : Nat) :
    declared (mark :: marks) column =
      (declared marks column).or (if column = mark.1 then some mark.2 else none) := by
  rw [declared, List.reverse_cons, List.lookup_append, ← declared, List.lookup_cons]
  by_cases same : column = mark.1
  · simp [same]
  · simp [same, beq_false_of_ne same]

theorem declared_eq_none_iff (marks : List (Nat × TypeCode)) (column : Nat) :
    declared marks column = none <-> forall code, (column, code) ∉ marks := by
  simp only [declared, List.lookup_eq_none_iff, List.mem_reverse, bne_iff_ne]
  constructor
  · exact fun others code member => others _ member rfl
  · rintro absent ⟨first, code⟩ member rfl
    exact absent code member

section Marks

variable {lexemes : List Lexeme} {place : Nat} {marks : List (Nat × TypeCode)}

/-- What is so from a place on is so there or later. -/
theorem exists_from_iff (holds : Nat → Prop) (place : Nat) :
    (exists position, place ≤ position ∧ holds position) <->
      holds place ∨ exists position, place + 1 ≤ position ∧ holds position := by
  constructor
  · rintro ⟨position, after, found⟩
    rcases Nat.eq_or_lt_of_le after with rfl | after
    · exact Or.inl found
    · exact Or.inr ⟨position, after, found⟩
  · rintro (found | ⟨position, after, found⟩)
    · exact ⟨place, Nat.le_refl place, found⟩
    · exact ⟨position, Nat.le_of_succ_le after, found⟩

namespace Declarations

theorem mem_iff (declarations : Declarations lexemes place marks) (column : Nat)
    (code : TypeCode) : (column, code) ∈ marks <->
      exists position, place ≤ position ∧ Declares lexemes position column code := by
  induction declarations with
  | past past =>
      refine iff_of_false List.not_mem_nil ?_
      rintro ⟨position, after, declares⟩
      rcases List.getElem?_eq_some_iff.mp declares.mark with ⟨within, -⟩
      exact Nat.not_lt.mpr (Nat.le_trans past after) within
  | @declared place first firstCode marks declares later inductionHypothesis =>
      have here : (column, code) = (first, firstCode) <-> Declares lexemes place column code := by
        constructor
        · rintro ⟨⟩
          exact declares
        · intro again
          rcases again.unique declares with ⟨rfl, rfl⟩
          rfl
      rw [List.mem_cons, inductionHypothesis, exists_from_iff _ place, here]
  | @undeclared place marks unmarked later inductionHypothesis =>
      rw [inductionHypothesis, exists_from_iff _ place, or_iff_right]
      intro found
      rw [found.mark?_eq] at unmarked
      cases unmarked

/-- The declaration of a column that counts is the last one. -/
theorem declared_iff (declarations : Declarations lexemes place marks) (column : Nat)
    (code : TypeCode) : Template.declared marks column = some code <->
      exists position, place ≤ position ∧ Declares lexemes position column code ∧
        forall later other, position < later -> ¬ Declares lexemes later column other := by
  induction declarations generalizing code with
  | past past =>
      refine iff_of_false nofun ?_
      rintro ⟨position, after, declares, -⟩
      exact List.not_mem_nil ((mem_iff (.past past) column code).mpr ⟨position, after, declares⟩)
  | @declared place first firstCode marks declares later inductionHypothesis =>
      rw [declared_cons, exists_from_iff _ place]
      cases found : Template.declared marks column with
      | some lastCode =>
          rw [Option.some_or, ← found, inductionHypothesis, or_iff_right]
          rintro ⟨-, last⟩
          rcases (inductionHypothesis lastCode).mp found with ⟨position, after, again, -⟩
          exact last position lastCode after again
      | none =>
          have noLater (position : Nat) (other : TypeCode) (after : place < position) :
              ¬ Declares lexemes position column other := fun again =>
            (declared_eq_none_iff marks column).mp found other
              ((later.mem_iff column other).mpr ⟨position, after, again⟩)
          rw [Option.none_or, or_iff_left]
          · constructor
            · intro same
              split at same
              · rename_i sameColumn
                cases same
                exact ⟨sameColumn ▸ declares, noLater⟩
              · cases same
            · rintro ⟨declared, -⟩
              rcases declared.unique declares with ⟨rfl, rfl⟩
              exact if_pos rfl
          · rintro ⟨position, after, declared, -⟩
            exact noLater position code after declared
  | @undeclared place marks unmarked later inductionHypothesis =>
      rw [inductionHypothesis, exists_from_iff _ place, or_iff_right]
      rintro ⟨found, -⟩
      rw [found.mark?_eq] at unmarked
      cases unmarked

end Declarations

end Marks

/-- The list of columns ends with the last declared one. -/
theorem getLast?_columnTypes (marks : List (Nat × TypeCode)) :
    (columnTypes marks).getLast? ≠ some none := by
  cases wide : width marks with
  | zero =>
      rw [columnTypes, wide]
      nofun
  | succ last =>
      rcases (lt_width_iff marks last).mp (by rw [wide]; exact Nat.lt_succ_self last) with
        ⟨⟨column, code⟩, member, after⟩
      have within : column < last + 1 := by
        rw [← wide]
        exact (lt_width_iff marks column).mpr ⟨_, member, Nat.le_refl _⟩
      have same : column = last := Nat.le_antisymm (Nat.lt_succ_iff.mp within) after
      rw [columnTypes, wide, List.range_succ, List.map_append, List.map_singleton,
        List.getLast?_concat]
      intro undeclared
      rw [Option.some.injEq, declared_eq_none_iff] at undeclared
      exact undeclared code (same ▸ member)

theorem join_columnTypes (marks : List (Nat × TypeCode)) (column : Nat) :
    ((columnTypes marks)[column]?).join = declared marks column := by
  by_cases within : column < width marks
  · simp [columnTypes, within]
  · have undeclared : declared marks column = none := by
      rw [declared_eq_none_iff]
      exact fun code member => within ((lt_width_iff marks column).mpr ⟨_, member, Nat.le_refl _⟩)
    simp [columnTypes, within, undeclared]

/-- What the compiler lists as the kinds of columns is what the reading declares. -/
theorem declarations_of_accepted {template : String} {lexemes : List Lexeme}
    (reading : Reading template.toList lexemes) {dialect : Dialect}
    (accepted : firstRefusal? dialect 0 lexemes = none) :
    Declarations lexemes 0 (columnMarks .start (scan template.toList)) :=
  (reading.scanned none).declarations rfl rfl reading.flatMap_text
    ⟨rfl, isInColumn_start lexemes⟩ accepted

/-- The kinds of columns that a reading declares: of each column the last one, and no more columns
than up to the last declared one. -/
structure ColumnKinds (lexemes : List Lexeme) (types : List (Option TypeCode)) : Prop where
  last : forall column code, (types[column]?).join = some code <->
    exists place, Declares lexemes place column code ∧
      forall later other, place < later -> ¬ Declares lexemes later column other
  length : forall column, column < types.length <->
    exists place wider code, column ≤ wider ∧ Declares lexemes place wider code
  ends : types.getLast? ≠ some none

theorem Declarations.columnKinds {lexemes : List Lexeme} {marks : List (Nat × TypeCode)}
    (declarations : Declarations lexemes 0 marks) : ColumnKinds lexemes (columnTypes marks) := by
  constructor
  · intro column code
    rw [join_columnTypes, declarations.declared_iff]
    simp only [Nat.zero_le, true_and]
  · intro column
    rw [columnTypes, List.length_map, List.length_range, lt_width_iff]
    constructor
    · rintro ⟨⟨wider, code⟩, member, before⟩
      rcases (declarations.mem_iff wider code).mp member with ⟨place, -, declares⟩
      exact ⟨place, wider, code, before, declares⟩
    · rintro ⟨place, wider, code, before, declares⟩
      exact ⟨_, (declarations.mem_iff wider code).mpr ⟨place, Nat.zero_le place, declares⟩, before⟩
  · exact getLast?_columnTypes marks

/-- A template that compiles has one reading, and the kinds of its columns are those that the
reading declares. -/
theorem columnTypes_are_declared {cache : Cache} {requests : List CompileRequest}
    (remembers : cache.Remembers requests) {template : String} {dialect : Dialect}
    {style : Option ParameterStyle} {query : ParsedQuery}
    (compiled : (cache.compile template dialect style).1 = .ok query) :
    exists lexemes : List Lexeme,
      (forall other, Reading template.toList other <-> other = lexemes) ∧
      ColumnKinds lexemes query.columnTypes := by
  rcases Reading.total template.toList with ⟨lexemes, reading⟩
  refine ⟨lexemes, fun other => ⟨fun found => found.unique reading, fun same => same ▸ reading⟩, ?_⟩
  rcases remembers.exists_parse compiled with ⟨maker, used, parsed⟩
  have made := parse_of_reading reading maker used
  cases judged : firstRefusal? maker 0 lexemes with
  | some refusal =>
      rw [judged] at made
      rcases made with ⟨fault, refused, -⟩
      rw [parsed] at refused
      cases refused
  | none =>
      rw [parse_of_accepted reading judged] at parsed
      rw [← Except.ok.inj parsed]
      exact (declarations_of_accepted reading judged).columnKinds

/-- The commas and the word in parentheses do not count, nor does the comma in the literal, and the
second list starts anew. -/
theorem columnTypes_are_declared_of_union :
    ((Cache.ofCapacity 4).compile
      "SELECT a, (SELECT b, c), d\x7bs\x7d UNION SELECT ',', e\x7bi\x7d" .firebird none).1 =
      .ok ⟨"SELECT a, (SELECT b, c), d UNION SELECT ',', e", [],
        [none, some .integer, some .string]⟩ ∧
    exists lexemes : List Lexeme,
      (forall other, Reading
        "SELECT a, (SELECT b, c), d\x7bs\x7d UNION SELECT ',', e\x7bi\x7d".toList other <->
          other = lexemes) ∧
      ColumnKinds lexemes [none, some .integer, some .string] := by
  have compiled : ((Cache.ofCapacity 4).compile
      "SELECT a, (SELECT b, c), d\x7bs\x7d UNION SELECT ',', e\x7bi\x7d" .firebird none).1 =
      .ok ⟨"SELECT a, (SELECT b, c), d UNION SELECT ',', e", [],
        [none, some .integer, some .string]⟩ :=
    rfl
  exact ⟨compiled, columnTypes_are_declared (Cache.remembers_empty 4) compiled⟩

end Template
end SqlGateway
