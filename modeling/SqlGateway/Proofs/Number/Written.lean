import Mathlib.Data.List.TakeWhile
import SqlGateway.Proofs.Number.Shortest

namespace SqlGateway

/-!
# Written numbers are read as their digits

In every layout, the written form of a number is read as the decimal of its shortest digits.  Since
the digits tell numbers apart, so do the written forms, together with the sign.
-/

namespace Numeral

/-! ## Digits -/

theorem isDigit_digits (value : Nat) : forall character, character ∈ digits value ->
    character.isDigit = true :=
  fun _ => Nat.isDigit_of_mem_toDigits (by decide) (by decide)

/-- There is at least one digit. -/
theorem exists_cons_digits (value : Nat) :
    exists digit rest, digits value = digit :: rest ∧ digit.isDigit = true := by
  have allDigits := isDigit_digits value
  cases same : digits value with
  | nil => exact absurd same Nat.toDigits_ne_nil
  | cons digit rest => exact ⟨digit, rest, rfl, allDigits digit (same ▸ List.mem_cons_self)⟩

theorem isDigit_zeros (count : Nat) : forall character, character ∈ List.replicate count '0' ->
    character.isDigit = true := by
  intro character member
  rw [List.eq_of_mem_replicate member]
  rfl

theorem isDigit_append {first second : List Char}
    (firstDigits : forall character, character ∈ first -> character.isDigit = true)
    (secondDigits : forall character, character ∈ second -> character.isDigit = true) :
    forall character, character ∈ first ++ second -> character.isDigit = true :=
  fun character member => (List.mem_append.mp member).elim (firstDigits character)
    (secondDigits character)

theorem ofDigits_append (first second : List Char) :
    ofDigits (first ++ second) = ofDigits first * 10 ^ second.length + ofDigits second := by
  unfold ofDigits
  rw [Nat.ofDigitChars_append, Nat.ofDigitChars_eq_ofDigitChars_zero, Nat.mul_comm]

theorem ofDigits_zeros (count : Nat) : ofDigits (List.replicate count '0') = 0 := by
  unfold ofDigits
  rw [Nat.ofDigitChars_replicate_zero, Nat.mul_zero]

/-- Text that starts with neither sign has none. -/
theorem splitSign_unsigned {characters : List Char} (minus : characters.head? ≠ some '-')
    (plus : characters.head? ≠ some '+') : splitSign characters = (false, characters) := by
  unfold splitSign
  split
  next rest => exact absurd rfl minus
  next rest => exact absurd rfl plus
  next => rfl

theorem splitSign_of_isDigit {digit : Char} (isDigit : digit.isDigit = true) (rest : List Char) :
    splitSign (digit :: rest) = (false, digit :: rest) := by
  apply splitSign_unsigned
  · rintro ⟨⟩
    cases isDigit
  · rintro ⟨⟩
    cases isDigit

/-- Digits have no sign. -/
theorem splitSign_digits {characters : List Char}
    (allDigits : forall character, character ∈ characters -> character.isDigit = true) :
    splitSign characters = (false, characters) := by
  cases characters with
  | nil => rfl
  | cons digit rest => exact splitSign_of_isDigit (allDigits digit List.mem_cons_self) rest

/-! ## Reading -/

/-- Reading digits stops at once. -/
def Stops (characters : List Char) : Prop := characters.takeWhile Char.isDigit = []

theorem Stops.dropWhile {characters : List Char} (stops : Stops characters) :
    characters.dropWhile Char.isDigit = characters := by
  have split := List.takeWhile_append_dropWhile (p := Char.isDigit) (l := characters)
  rwa [stops, List.nil_append] at split

section Reading

variable {whole fraction rest : List Char} {exponent : Int}
  (wholeDigits : forall character, character ∈ whole -> character.isDigit = true)
  (stops : Stops rest) (reads : readExponent? rest = some exponent)
include wholeDigits stops reads

theorem readScientific?_point
    (fractionDigits : forall character, character ∈ fraction -> character.isDigit = true)
    (some : whole ≠ []) :
    readScientific? (whole ++ '.' :: (fraction ++ rest)) =
      .some (ofDigits (whole ++ fraction), exponent - fraction.length) := by
  have wholeRead : (whole ++ '.' :: (fraction ++ rest)).takeWhile Char.isDigit = whole := by
    rw [List.takeWhile_append_of_pos wholeDigits]
    exact List.append_nil whole
  have wholeLeft : (whole ++ '.' :: (fraction ++ rest)).dropWhile Char.isDigit =
      '.' :: (fraction ++ rest) := by
    rw [List.dropWhile_append_of_pos wholeDigits]
    rfl
  have fractionRead : (fraction ++ rest).takeWhile Char.isDigit = fraction := by
    rw [List.takeWhile_append_of_pos fractionDigits, stops, List.append_nil]
  have fractionLeft : (fraction ++ rest).dropWhile Char.isDigit = rest := by
    rw [List.dropWhile_append_of_pos fractionDigits, stops.dropWhile]
  simp [readScientific?, wholeRead, wholeLeft, splitFraction, fractionRead, fractionLeft, reads,
    some]

theorem readScientific?_whole (some : whole ≠ []) (pointless : rest.head? ≠ .some '.') :
    readScientific? (whole ++ rest) = .some (ofDigits whole, exponent) := by
  have wholeRead : (whole ++ rest).takeWhile Char.isDigit = whole := by
    rw [List.takeWhile_append_of_pos wholeDigits, stops, List.append_nil]
  have wholeLeft : (whole ++ rest).dropWhile Char.isDigit = rest := by
    rw [List.dropWhile_append_of_pos wholeDigits, stops.dropWhile]
  have unsplit : splitFraction rest = ([], rest) := by
    unfold splitFraction
    split
    next => exact absurd rfl pointless
    next => rfl
  simp [readScientific?, wholeRead, wholeLeft, unsplit, reads, some]

end Reading

/-- A whole number is its size with its sign. -/
theorem signed_natAbs (value : Int) : signed (value < 0) value.natAbs = value := by
  by_cases negative : value < 0
  · simp only [signed, negative, decide_true, if_true]
    omega
  · simp only [signed, negative, decide_false, Bool.false_eq_true, if_false]
    omega

/-- An exponent part with a sign, or none, before its digits. -/
theorem readExponent?_signed {letter : Char} (marks : letter.toLower = 'e')
    {sign written : List Char} {negative : Bool}
    (parts : splitSign (sign ++ written) = (negative, written))
    (allDigits : forall character, character ∈ written -> character.isDigit = true)
    (nonempty : written ≠ []) :
    readExponent? (letter :: (sign ++ written)) = some (signed negative (ofDigits written)) := by
  simp only [readExponent?, marks, if_true, parts]
  rw [if_pos ⟨nonempty, List.all_eq_true.mpr allDigits⟩]

end Numeral

namespace Binary64

open Numeral (digits ofDigits readScientific? readExponent? splitSign isDigit_digits isDigit_zeros
  isDigit_append ofDigits_append ofDigits_zeros)

/-! ## Layouts -/

theorem readExponent?_exponentChars (layout : Layout) (exponent : Int) :
    readExponent? (layout.exponentChars exponent) = some exponent := by
  have allDigits := isDigit_append
    (isDigit_zeros (layout.width - (digits exponent.natAbs).length))
    (isDigit_digits exponent.natAbs)
  have nonempty : List.replicate (layout.width - (digits exponent.natAbs).length) '0' ++
      digits exponent.natAbs ≠ [] := fun empty =>
    Nat.toDigits_ne_nil (List.append_eq_nil_iff.mp empty).2
  have value : ofDigits (List.replicate (layout.width - (digits exponent.natAbs).length) '0' ++
      digits exponent.natAbs) = exponent.natAbs := by
    rw [ofDigits_append, ofDigits_zeros, Nat.zero_mul, Nat.zero_add, Numeral.ofDigits_digits]
  unfold Layout.exponentChars
  simp only [List.cons_append]
  generalize List.replicate (layout.width - (digits exponent.natAbs).length) '0' ++
    digits exponent.natAbs = written at allDigits nonempty value ⊢
  have parts : splitSign ((if exponent < 0 then ['-'] else if layout.plus then ['+'] else []) ++
      written) = (decide (exponent < 0), written) := by
    by_cases negative : exponent < 0
    · simp only [negative, if_true, decide_true]
      rfl
    · simp only [negative, if_false, decide_false]
      cases layout.plus with
      | true => rfl
      | false => exact Numeral.splitSign_digits allDigits
  rw [Numeral.readExponent?_signed rfl parts allDigits nonempty, value, Numeral.signed_natAbs]

/-- The value of digits with the point at a place. -/
def pointed (written : List Char) (point : Int) : ℚ :=
  ofDigits written * 10 ^ (point - written.length)

/-- The decimal that a numeral is read as. -/
def Reads (characters : List Char) (value : ℚ) : Prop :=
  exists coefficient exponent, readScientific? characters = some (coefficient, exponent) ∧
    (coefficient : ℚ) * 10 ^ exponent = value

section Layouts

variable (layout : Layout) {written : List Char}
  (allDigits : forall character, character ∈ written -> character.isDigit = true)
  (nonempty : written ≠ []) (point : Int)
include allDigits nonempty

omit nonempty in
/-- Digits after the point, with zeros in front of them. -/
theorem reads_fraction (small : point ≤ 0) :
    Reads ('0' :: '.' :: (List.replicate (-point).toNat '0' ++ written))
      (pointed written point) := by
  have read := Numeral.readScientific?_point (isDigit_digits 0) (rfl : Numeral.Stops [])
    (rfl : readExponent? [] = some 0) (isDigit_append (isDigit_zeros (-point).toNat) allDigits)
    (by decide)
  rw [List.append_nil] at read
  refine ⟨_, _, read, ?_⟩
  rw [ofDigits_append, ofDigits_append, Numeral.ofDigits_digits, ofDigits_zeros, Nat.zero_mul,
    Nat.zero_mul, Nat.zero_add, Nat.zero_add, List.length_append, List.length_replicate, pointed]
  congr 2
  omega

/-- Digits before the point, with zeros behind them. -/
theorem reads_whole (long : (written.length : Int) ≤ point) :
    Reads (written ++ List.replicate (point.toNat - written.length) '0' ++ ['.', '0'])
      (pointed written point) := by
  have read := Numeral.readScientific?_point
    (isDigit_append allDigits (isDigit_zeros (point.toNat - written.length)))
    (rfl : Numeral.Stops []) (rfl : readExponent? [] = some 0) (isDigit_digits 0)
    (fun empty => nonempty (List.append_eq_nil_iff.mp empty).1)
  refine ⟨_, _, read, ?_⟩
  have zero : digits 0 = ['0'] := rfl
  rw [ofDigits_append, ofDigits_append, Numeral.ofDigits_digits, ofDigits_zeros, zero,
    List.length_replicate, List.length_singleton, Nat.add_zero, Nat.add_zero, pointed]
  push_cast
  rw [mul_assoc, mul_assoc, show (10 : ℚ) * 10 ^ (-1 : Int) = 1 by norm_num, mul_one,
    ← zpow_natCast]
  congr 2
  omega

omit nonempty in
/-- Digits around the point. -/
theorem reads_split (inside : 0 < point ∧ point < written.length) :
    Reads (written.take point.toNat ++ '.' :: written.drop point.toNat)
      (pointed written point) := by
  have some : written.take point.toNat ≠ [] := by
    intro empty
    have short := congrArg List.length empty
    rw [List.length_take, List.length_nil] at short
    omega
  have read := Numeral.readScientific?_point
    (fun character member => allDigits character (List.mem_of_mem_take member))
    (rfl : Numeral.Stops []) (rfl : readExponent? [] = .some 0)
    (fun character member =>
      allDigits character (List.mem_of_mem_drop (i := point.toNat) member)) some
  rw [List.append_nil] at read
  refine ⟨_, _, read, ?_⟩
  rw [List.take_append_drop, List.length_drop, pointed]
  congr 2
  omega

theorem reads_positional (positional : layout.above < point ∧ point ≤ layout.upTo) :
    Reads (layout.chars written point) (pointed written point) := by
  unfold Layout.chars
  rw [if_pos positional]
  split
  next small => exact reads_fraction allDigits point small
  next large =>
    split
    next long => exact reads_whole allDigits nonempty point long
    next inside =>
      exact reads_split allDigits point ⟨not_le.mp large, not_le.mp inside⟩

theorem reads_chars : Reads (layout.chars written point) (pointed written point) := by
  by_cases positional : layout.above < point ∧ point ≤ layout.upTo
  · exact reads_positional layout allDigits nonempty point positional
  have stops : Numeral.Stops (layout.exponentChars (point - 1)) := rfl
  have tail := readExponent?_exponentChars layout (point - 1)
  unfold Layout.chars pointed
  rw [if_neg positional]
  match written with
  | [] => exact absurd rfl nonempty
  | [digit] =>
      exact ⟨_, _, Numeral.readScientific?_whole allDigits stops tail nonempty (by simp),
        by simp⟩
  | digit :: next :: rest =>
      have read := Numeral.readScientific?_point
        (fun character member => allDigits character
          (List.mem_cons.mpr (.inl (List.mem_singleton.mp member)))) stops tail
        (fun character member => allDigits character (List.mem_cons_of_mem digit member))
        (List.cons_ne_nil digit [])
      refine ⟨_, _, read, ?_⟩
      simp only [List.cons_append, List.nil_append, List.length_cons]
      congr 2
      push_cast
      omega

end Layouts

/-! ## Shortest digits -/

/-- Zeros at the end of digits only move the point. -/
theorem dropWhile_zeros (written : List Char) :
    exists zeros, written =
      (written.reverse.dropWhile (· == '0')).reverse ++ List.replicate zeros '0' := by
  have split := List.takeWhile_append_dropWhile (p := (· == '0')) (l := written.reverse)
  have zeros : written.reverse.takeWhile (· == '0') =
      List.replicate (written.reverse.takeWhile (· == '0')).length '0' :=
    List.eq_replicate_iff.mpr ⟨rfl, fun character member => by
      simpa using List.mem_takeWhile_imp member⟩
  refine ⟨(written.reverse.takeWhile (· == '0')).length, ?_⟩
  rw [← List.reverse_replicate, ← zeros, ← List.reverse_append, split, List.reverse_reverse]

/-- The shortest digits of a positive number are digits of a decimal that rounds to it. -/
theorem shortest_roundsTo {significand : Nat} {exponent : Int}
    (double : IsDouble significand exponent) (positive : 0 < significand) :
    let found := shortest significand exponent
    (forall character, character ∈ found.1 -> character.isDigit = true) ∧ found.1 ≠ [] ∧
      RoundsTo significand exponent (pointed found.1 found.2) := by
  have rounds := searchDigits_roundsTo double positive
  unfold shortest
  simp only at rounds ⊢
  generalize searchDigits significand exponent _ 1 17 = decimal at rounds ⊢
  rcases decimal with ⟨coefficient, power⟩
  rcases dropWhile_zeros (digits coefficient) with ⟨zeros, split⟩
  generalize ((digits coefficient).reverse.dropWhile (· == '0')).reverse = significant
    at split ⊢
  have value : (ofDigits significant : ℚ) * 10 ^ zeros = coefficient := by
    have whole := congrArg ofDigits split
    rw [Numeral.ofDigits_digits, ofDigits_append, ofDigits_zeros, Nat.add_zero,
      List.length_replicate] at whole
    exact_mod_cast whole.symm
  have length : ((digits coefficient).length : Int) = significant.length + zeros := by
    rw [split, List.length_append, List.length_replicate]
    push_cast
    rfl
  have same : pointed significant (power + (digits coefficient).length) =
      coefficient * 10 ^ power := by
    rw [pointed, ← value, mul_assoc, ← zpow_natCast, ← zpow_add₀ (by norm_num)]
    congr 2
    omega
  refine ⟨fun character member => ?_, ?_, same ▸ rounds⟩
  · refine isDigit_digits coefficient character ?_
    rw [split]
    exact List.mem_append_left _ member
  · rintro rfl
    have zero : (coefficient : ℚ) = 0 := by simpa [ofDigits] using value.symm
    have above := rounds.low
    rw [zero, zero_mul] at above
    exact absurd above (not_le.mpr (low_pos positive exponent))

/-! ## Numbers -/

/-- The written form of the size of a finite number. -/
def Layout.sizeChars (layout : Layout) (significand : Nat) (exponent : Int) : List Char :=
  if significand = 0 then ['0', '.', '0']
  else
    let (digits, point) := shortest significand exponent
    layout.chars digits point

theorem Layout.finiteChars_eq (layout : Layout) (negative : Bool) (significand : Nat)
    (exponent : Int) :
    layout.finiteChars negative significand exponent =
      Numeral.signChars negative ++ layout.sizeChars significand exponent :=
  rfl

/-- The written size is read as zero or as a decimal that rounds to the number. -/
theorem reads_sizeChars (layout : Layout) {significand : Nat} {exponent : Int}
    (double : IsDouble significand exponent) :
    exists value, Reads (layout.sizeChars significand exponent) value ∧
      (significand = 0 ∧ value = 0 ∨ 0 < significand ∧ RoundsTo significand exponent value) := by
  unfold Layout.sizeChars
  rcases Nat.eq_zero_or_pos significand with zero | positive
  · rw [if_pos zero]
    exact ⟨0, ⟨0, -1, rfl, by norm_num⟩, .inl ⟨zero, rfl⟩⟩
  · rw [if_neg positive.ne']
    rcases shortest_roundsTo double positive with ⟨allDigits, nonempty, rounds⟩
    exact ⟨_, reads_chars layout allDigits nonempty _, .inr ⟨positive, rounds⟩⟩

/-- What is read without a sign has none. -/
theorem Reads.unsigned {characters : List Char} {value : ℚ} (reads : Reads characters value)
    (rest : List Char) : characters ≠ '-' :: rest := by
  rintro rfl
  rcases reads with ⟨coefficient, exponent, read, -⟩
  cases read

/-- Numbers whose sizes are written alike are of one size. -/
theorem sizeChars_injective (layout : Layout) {significand other : Nat}
    {exponent otherExponent : Int} (double : IsDouble significand exponent)
    (otherDouble : IsDouble other otherExponent)
    (same : layout.sizeChars significand exponent = layout.sizeChars other otherExponent) :
    significand = other ∧ exponent = otherExponent := by
  rcases reads_sizeChars layout double with ⟨value, reads, sizes⟩
  rcases reads_sizeChars layout otherDouble with ⟨otherValue, otherReads, otherSizes⟩
  have sameValue : value = otherValue := by
    rcases reads with ⟨coefficient, power, read, rfl⟩
    rcases otherReads with ⟨otherCoefficient, otherPower, otherRead, rfl⟩
    rw [same, otherRead] at read
    rcases Prod.mk.inj (Option.some.inj read) with ⟨rfl, rfl⟩
    rfl
  subst sameValue
  have nonzero {significand : Nat} {exponent : Int} (positive : 0 < significand)
      (rounds : RoundsTo significand exponent value) : value ≠ 0 :=
    ((low_pos positive exponent).trans_le rounds.low).ne'
  rcases sizes with ⟨zero, isZero⟩ | ⟨positive, rounds⟩
  · rcases otherSizes with ⟨otherZero, -⟩ | ⟨otherPositive, otherRounds⟩
    · exact ⟨zero.trans otherZero.symm, (double.zero zero).trans (otherDouble.zero otherZero).symm⟩
    · exact absurd isZero (nonzero otherPositive otherRounds)
  · rcases otherSizes with ⟨-, isZero⟩ | ⟨-, otherRounds⟩
    · exact absurd isZero (nonzero positive rounds)
    · exact rounds.unique double otherDouble otherRounds

/-- Numbers that are written alike are one number. -/
theorem finiteChars_injective (layout : Layout) {negative otherNegative : Bool}
    {significand other : Nat} {exponent otherExponent : Int}
    (double : IsDouble significand exponent) (otherDouble : IsDouble other otherExponent)
    (same : layout.finiteChars negative significand exponent =
      layout.finiteChars otherNegative other otherExponent) :
    negative = otherNegative ∧ significand = other ∧ exponent = otherExponent := by
  rcases reads_sizeChars layout double with ⟨_, reads, -⟩
  rcases reads_sizeChars layout otherDouble with ⟨_, otherReads, -⟩
  rw [Layout.finiteChars_eq, Layout.finiteChars_eq] at same
  cases negative with
  | true =>
      cases otherNegative with
      | true =>
          exact ⟨rfl,
            sizeChars_injective layout double otherDouble (List.tail_eq_of_cons_eq same)⟩
      | false => exact absurd same.symm (otherReads.unsigned _)
  | false =>
      cases otherNegative with
      | true => exact absurd same (reads.unsigned _)
      | false => exact ⟨rfl, sizeChars_injective layout double otherDouble same⟩

/-- The characters of a written number. -/
def IsNumeric (character : Char) : Prop :=
  character.isDigit = true ∨ character ∈ ['-', '+', '.', 'e']

section Characters

variable (layout : Layout)

theorem numeric_exponentChars (exponent : Int) :
    forall character, character ∈ layout.exponentChars exponent -> IsNumeric character := by
  intro character member
  unfold Layout.exponentChars at member
  simp only [List.cons_append, List.mem_cons, List.mem_append] at member
  rcases member with rfl | sign | zeros | digit
  · exact .inr (by decide)
  · refine .inr ?_
    split at sign
    · rcases List.mem_singleton.mp sign with rfl
      decide
    · split at sign
      · rcases List.mem_singleton.mp sign with rfl
        decide
      · cases sign
  · exact .inl (isDigit_zeros _ character zeros)
  · exact .inl (isDigit_digits _ character digit)

theorem numeric_chars {written : List Char}
    (allDigits : forall character, character ∈ written -> character.isDigit = true) (point : Int) :
    forall character, character ∈ layout.chars written point -> IsNumeric character := by
  have ofDigit {character : Char} (member : character ∈ written) : IsNumeric character :=
    .inl (allDigits character member)
  have ofZero {character : Char} {count : Nat} (member : character ∈ List.replicate count '0') :
      IsNumeric character :=
    .inl (isDigit_zeros count character member)
  intro character member
  unfold Layout.chars at member
  split at member
  · split at member
    · simp only [List.mem_cons, List.mem_append] at member
      rcases member with rfl | rfl | zero | digit
      · exact .inl rfl
      · exact .inr (by decide)
      · exact ofZero zero
      · exact ofDigit digit
    · split at member
      · simp only [List.mem_cons, List.mem_append, List.not_mem_nil, or_false] at member
        rcases member with (digit | zero) | rfl | rfl
        · exact ofDigit digit
        · exact ofZero zero
        · exact .inr (by decide)
        · exact .inl rfl
      · simp only [List.mem_cons, List.mem_append] at member
        rcases member with digit | rfl | digit
        · exact ofDigit (List.mem_of_mem_take digit)
        · exact .inr (by decide)
        · exact ofDigit (List.mem_of_mem_drop digit)
  · split at member
    · cases member
    · rcases List.mem_cons.mp member with rfl | inExponent
      · exact ofDigit List.mem_cons_self
      · exact numeric_exponentChars layout _ character inExponent
    · simp only [List.mem_cons, List.mem_append] at member
      rcases member with rfl | rfl | digit | inExponent
      · exact ofDigit List.mem_cons_self
      · exact .inr (by decide)
      · exact ofDigit (List.mem_cons_of_mem _ digit)
      · exact numeric_exponentChars layout _ character inExponent

/-- A written number has a point or an exponent. -/
theorem marked_chars {written : List Char} (nonempty : written ≠ []) (point : Int) :
    '.' ∈ layout.chars written point ∨ 'e' ∈ layout.chars written point := by
  unfold Layout.chars
  split
  · split
    · simp
    · split <;> simp
  · match written with
    | [] => exact absurd rfl nonempty
    | [digit] => simp [Layout.exponentChars]
    | digit :: next :: rest => simp

end Characters

/-- A written number consists of digits, signs, a point and an exponent letter, and it has
a point or an exponent letter. -/
theorem numeric_finiteChars (layout : Layout) (negative : Bool) {significand : Nat}
    {exponent : Int} (double : IsDouble significand exponent) :
    (forall character, character ∈ layout.finiteChars negative significand exponent ->
      IsNumeric character) ∧
    ('.' ∈ layout.finiteChars negative significand exponent ∨
      'e' ∈ layout.finiteChars negative significand exponent) := by
  have sizes : (forall character, character ∈ layout.sizeChars significand exponent ->
        IsNumeric character) ∧
      ('.' ∈ layout.sizeChars significand exponent ∨
        'e' ∈ layout.sizeChars significand exponent) := by
    unfold Layout.sizeChars
    rcases Nat.eq_zero_or_pos significand with zero | positive
    · rw [if_pos zero]
      refine ⟨fun character member => ?_, .inl (by decide)⟩
      rcases List.mem_cons.mp member with rfl | member
      · exact .inl rfl
      rcases List.mem_cons.mp member with rfl | member
      · exact .inr (by decide)
      rcases List.mem_singleton.mp member with rfl
      exact .inl rfl
    · rw [if_neg positive.ne']
      rcases shortest_roundsTo double positive with ⟨allDigits, nonempty, -⟩
      exact ⟨numeric_chars layout allDigits _, marked_chars layout nonempty _⟩
  rw [Layout.finiteChars_eq]
  refine ⟨fun character member => ?_,
    sizes.2.imp (List.mem_append_right _) (List.mem_append_right _)⟩
  rcases List.mem_append.mp member with sign | size
  · cases negative with
    | true =>
        rcases List.mem_singleton.mp sign with rfl
        exact .inr (by decide)
    | false => cases sign
  · exact sizes.1 character size

end Binary64
end SqlGateway
