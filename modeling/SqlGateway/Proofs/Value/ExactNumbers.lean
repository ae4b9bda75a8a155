import SqlGateway.Adapter
import SqlGateway.Column
import SqlGateway.Proofs.Number.DecimalText

namespace SqlGateway

/-!
# Numbers that are fetched exactly

Two kinds of column hold exact numbers.  The driver of SQLite takes no decimals, so a decimal is
bound as its text, and the column gives it back as it was.

A column of whole numbers may give the number itself, a decimal, or a text in which the number has
a sign, blanks around it, or a point and zeros after it.  Two readers share the texts: the first
takes numerals, up to a limit on their digits, and whatever it leaves is read as a decimal, whose
fraction is dropped.  No number that both readers could read may come out differently, and none
that is left to the second may lose a digit.
-/

/-! ## Decimals as text -/

namespace Column

/-- A column of decimals reads a text without the blanks around it. -/
theorem convert_decimal_text {text : String} {value : Decimal}
    (read : Decimal.read? (Text.trim text) = some value) (stringified : Bool) :
    convert (.text text) (some .decimal) stringified = .ok (.decimal value) := by
  have converted : toDecimal (.text text) = .ok value := by
    simp only [toDecimal, Value.toText, decimalOfText, read, bind, Except.bind]
  have shown : (Value.text text).isNull = false := rfl
  rw [convert, shown, convertTo, converted]
  rfl

/-- A decimal is bound as its text, from which a column of decimals reads the same sign, the same
digits and the same exponent. -/
theorem decimal_survives (value : Decimal) (within : value.IsWithinLimits) (stringified : Bool) :
    Parameter.coerce .decimal (.decimal value) Adapter.sqlite.coercion =
        .ok (.text value.write) ∧
      convert (.text value.write) (some .decimal) stringified = .ok (.decimal value) := by
  refine ⟨rfl, convert_decimal_text ?_ stringified⟩
  have trimmed : Text.trim value.write = value.write := by
    rw [Text.trim, Decimal.write, String.toList_ofList,
      Numeral.trimChars_of_ordinary value.isOrdinary_chars]
  rw [trimmed]
  exact value.read?_write_iff.mpr within

/-- A zero with a minus sign whose exponent puts it into scientific form. -/
theorem decimal_survives_zero :
    Parameter.coerce .decimal (.decimal (.finite true 0 (-7))) Adapter.sqlite.coercion =
        .ok (.text "-0E-7") ∧
      convert (.text "-0E-7") (some .decimal) false = .ok (.decimal (.finite true 0 (-7))) :=
  decimal_survives (.finite true 0 (-7)) (by decide) false

end Column

/-! ## Whole numbers as text -/

namespace Numeral

/-- The signs with which a whole number can be written: zero has either. -/
inductive IsSignOf (number : Int) : List Char -> Prop where
  | unsigned (notNegative : 0 ≤ number) : IsSignOf number []
  | plus (notNegative : 0 ≤ number) : IsSignOf number ['+']
  | minus (notPositive : number ≤ 0) : IsSignOf number ['-']

/-- What may stand after the digits of a whole number: nothing, or a point and zeros. -/
def fractionChars : Option Nat -> List Char
  | none => []
  | some zeros => '.' :: List.replicate zeros '0'

/-- The texts of a whole number, with blanks around them.  They have no more digits than the
exponent of a decimal can count, which is more than fit into any memory. -/
inductive IsTextOf (number : Int) : List Char -> Prop where
  | intro {before sign after : List Char} {zeros : Option Nat}
      (blankBefore : forall character, character ∈ before -> Text.isBlank character = true)
      (isSign : IsSignOf number sign)
      (blankAfter : forall character, character ∈ after -> Text.isBlank character = true)
      (fits : ((digits number.natAbs).length + zeros.getD 0 : Int) ≤ Decimal.highestExponent) :
      IsTextOf number
        (before ++ (sign ++ (digits number.natAbs ++ fractionChars zeros) ++ after))

variable {number : Int} {sign characters : List Char}

theorem IsSignOf.ordinary (isSign : IsSignOf number sign) :
    forall character, character ∈ sign -> IsOrdinary character := by
  cases isSign <;> exact isOrdinary_of_all rfl

/-- The sign is split off, and it is that of the number. -/
theorem IsSignOf.splitSign (isSign : IsSignOf number sign)
    (unsigned : splitSign characters = (false, characters)) :
    exists negative, Numeral.splitSign (sign ++ characters) = (negative, characters) ∧
      signed negative number.natAbs = number := by
  cases isSign with
  | unsigned notNegative =>
      exact ⟨false, unsigned, Int.natAbs_of_nonneg notNegative⟩
  | plus notNegative =>
      exact ⟨false, rfl, Int.natAbs_of_nonneg notNegative⟩
  | minus notPositive =>
      refine ⟨true, rfl, ?_⟩
      simp only [signed, if_true]
      omega

theorem isDigit_fractionChars_iff (zeros : Option Nat) :
    (forall character, character ∈ fractionChars zeros -> character.isDigit = true) ↔
      zeros = none := by
  cases zeros with
  | none => exact iff_of_true (List.forall_mem_nil _) rfl
  | some count =>
      refine iff_of_false (fun allDigits => ?_) (Option.some_ne_none count)
      cases allDigits '.' List.mem_cons_self

theorem isOrdinary_unsigned (magnitude : Nat) (zeros : Option Nat) :
    forall character, character ∈ digits magnitude ++ fractionChars zeros ->
      IsOrdinary character := by
  refine List.forall_mem_append.mpr ⟨fun character member => ?_, ?_⟩
  · exact isOrdinary_of_isDigit (isDigit_digits magnitude character member)
  · cases zeros with
    | none => exact List.forall_mem_nil _
    | some count =>
        have point : IsOrdinary '.' := by decide
        exact List.forall_mem_cons.mpr ⟨point, fun character member =>
          isOrdinary_of_isDigit (isDigit_zeros count character member)⟩

/-! ## The two readers -/

/-- What is read as a numeral is the number that is written. -/
theorem eq_of_read? {zeros : Option Nat} (isSign : IsSignOf number sign) {value : Int}
    (read : read? (sign ++ (digits number.natAbs ++ fractionChars zeros)) = some value) :
    value = number := by
  have ordinary := List.forall_mem_append.mpr
    ⟨isSign.ordinary, isOrdinary_unsigned number.natAbs zeros⟩
  rcases exists_cons_digits number.natAbs with ⟨digit, rest, same, isDigit⟩
  have unsigned : splitSign (digits number.natAbs ++ fractionChars zeros) =
      (false, digits number.natAbs ++ fractionChars zeros) := by
    rw [same, List.cons_append]
    exact splitSign_of_isDigit isDigit _
  rcases isSign.splitSign unsigned with ⟨negative, split, isNumber⟩
  rw [read?, body_of_ordinary ordinary, readBody?, dropGroupMarks?_of_ordinary false ordinary] at read
  simp only [bind, Option.bind_some, split] at read
  split at read
  next accepted =>
    have wholly := (isDigit_fractionChars_iff zeros).mp fun character member =>
      List.all_eq_true.mp accepted.2.1 character (List.mem_append_right _ member)
    rw [wholly, fractionChars, List.append_nil, ofDigits_digits, isNumber] at read
    exact (Option.some.inj read).symm
  next => cases read

/-- Zeros after the point are digits of the coefficient, which the exponent takes back. -/
theorem readScientific?_zeros (magnitude : Nat) (zeros : Option Nat) :
    readScientific? (digits magnitude ++ fractionChars zeros) =
      some (magnitude * 10 ^ zeros.getD 0, -(zeros.getD 0 : Int)) := by
  have allDigits := isDigit_digits magnitude
  have nonempty : digits magnitude ≠ [] := Nat.toDigits_ne_nil
  cases zeros with
  | none =>
      have read := readScientific?_whole allDigits (rfl : Stops [])
        (rfl : readExponent? [] = some 0) nonempty nofun
      rw [ofDigits_digits] at read
      rw [fractionChars, read, Option.getD_none, Nat.pow_zero, Nat.mul_one]
      rfl
  | some count =>
      have read := readScientific?_point allDigits (rfl : Stops [])
        (rfl : readExponent? [] = some 0) (isDigit_zeros count) nonempty
      rw [List.append_nil, ofDigits_append, ofDigits_digits, ofDigits_zeros, List.length_replicate,
        Nat.add_zero] at read
      rw [fractionChars, read, Option.getD_some, Int.zero_sub]

end Numeral

namespace Decimal

open Numeral (digits fractionChars signed)

/-- A coefficient with zeros at its end is within the limits. -/
theorem inRange_zeros {magnitude zeros : Nat}
    (fits : ((digits magnitude).length + zeros : Int) ≤ highestExponent) :
    inRange (magnitude * 10 ^ zeros) (-(zeros : Int)) = true := by
  have some : 0 < (digits magnitude).length := Nat.length_toDigits_pos
  have length : (digits (magnitude * 10 ^ zeros)).length ≤ (digits magnitude).length + zeros := by
    refine (Nat.length_toDigits_le_iff (by decide) (by omega)).mpr ?_
    rw [Nat.pow_add]
    exact Nat.mul_lt_mul_of_pos_right (Binary64.lt_pow_digits magnitude) (by positivity)
  have lowest : lowestExponent = -1999999999999999997 := rfl
  have highest : highestExponent = 999999999999999999 := rfl
  rw [inRange, Bool.and_eq_true, decide_eq_true_iff, adjusted]
  refine ⟨by omega, ?_⟩
  split
  · exact decide_eq_true (by omega)
  · exact decide_eq_true (by omega)

/-- Without its fraction, such a number is what stands before the point. -/
theorem truncate_zeros (negative : Bool) (magnitude zeros : Nat) :
    truncate negative (magnitude * 10 ^ zeros) (-(zeros : Int)) = signed negative magnitude := by
  unfold truncate
  congr 1
  split
  next whole =>
    have none : zeros = 0 := by omega
    subst none
    simp [Numeral.raised]
  next =>
    have place : (-(-(zeros : Int))).toNat = zeros := by omega
    simp only [Numeral.raised, place, Nat.pow_eq]
    split
    next short =>
      -- No more digits than there are zeros: nothing stands before the point.
      have below : magnitude * 10 ^ zeros < 1 * 10 ^ zeros := by
        rw [Nat.one_mul]
        exact (Binary64.lt_pow_digits _).trans_le (Nat.pow_le_pow_right (by decide) short)
      have zero : magnitude = 0 := Nat.lt_one_iff.mp (Nat.lt_of_mul_lt_mul_right below)
      rw [zero]
    next => rw [Nat.mul_div_cancel _ (by positivity)]

end Decimal

namespace Column

open Numeral (IsSignOf IsTextOf digits fractionChars signed)

variable {number : Int} {characters : List Char}

/-- What is no numeral is read as a decimal, and its fraction is dropped. -/
theorem intOfText_ofList {sign : List Char} {zeros : Option Nat} (isSign : IsSignOf number sign)
    (fits : ((digits number.natAbs).length + zeros.getD 0 : Int) ≤ Decimal.highestExponent) :
    intOfText (String.ofList (sign ++ (digits number.natAbs ++ fractionChars zeros))) =
      .ok number := by
  unfold intOfText
  rw [String.toList_ofList]
  split
  next value read => rw [Numeral.eq_of_read? isSign read]
  next =>
    have ordinary := List.forall_mem_append.mpr
      ⟨isSign.ordinary, Numeral.isOrdinary_unsigned number.natAbs zeros⟩
    have read := Numeral.readScientific?_zeros number.natAbs zeros
    rcases Numeral.exists_cons_digits number.natAbs with ⟨digit, rest, same, isDigit⟩
    have start : digits number.natAbs ++ fractionChars zeros = digit :: (rest ++ fractionChars zeros) :=
      congrArg (· ++ fractionChars zeros) same
    rw [start] at read ordinary ⊢
    rcases isSign.splitSign (Numeral.splitSign_of_isDigit isDigit _) with
      ⟨negative, split, isNumber⟩
    have decimal : Decimal.read? (String.ofList (sign ++ digit :: (rest ++ fractionChars zeros))) =
        some (.finite negative (number.natAbs * 10 ^ zeros.getD 0) (-(zeros.getD 0 : Int))) := by
      rw [Decimal.read?, String.toList_ofList, Decimal.readChars?_of_ordinary ordinary, split,
        Decimal.readUnsigned?_of_isDigit negative isDigit, read, Option.bind_some]
      exact if_pos (Decimal.inRange_zeros fits)
    rw [decimalOfText, decimal]
    change Except.ok (Decimal.truncate _ _ _) = _
    rw [Decimal.truncate_zeros, isNumber]

/-- The blanks around a number are not read. -/
theorem intOfText_trim (isText : IsTextOf number characters) :
    intOfText (Text.trim (String.ofList characters)) = .ok number := by
  cases isText with
  | @intro before sign after zeros blankBefore isSign blankAfter fits =>
      have marked : forall character,
          character ∈ sign ++ (digits number.natAbs ++ fractionChars zeros) ->
            Text.isBlank character = false := fun character member =>
        (List.forall_mem_append.mpr ⟨isSign.ordinary,
          Numeral.isOrdinary_unsigned number.natAbs zeros⟩ character member).2.1
      rw [Text.trim, String.toList_ofList, Text.trimChars_margins blankBefore blankAfter marked]
      exact intOfText_ofList isSign fits

/-- The decimal of a whole number is that number. -/
theorem intOfDecimal_ofInt (number : Int) : intOfDecimal (.ofInt number) = .ok number := by
  have whole := Decimal.truncate_zeros (number < 0) number.natAbs 0
  rw [Nat.pow_zero, Nat.mul_one, Numeral.signed_natAbs] at whole
  exact congrArg Except.ok whole

end Column

namespace Value

/-- The values that stand for a whole number: the number, its decimal, and its texts, also as bytes
of any form. -/
inductive IsWhole (number : Int) : Value -> Prop where
  | int : IsWhole number (.int number)
  | decimal : IsWhole number (.decimal (.ofInt number))
  | text {characters : List Char} (isText : Numeral.IsTextOf number characters) :
      IsWhole number (.text (String.ofList characters))
  | bytes (form : BytesForm) {characters : List Char}
      (isText : Numeral.IsTextOf number characters) :
      IsWhole number (.bytes form (Bytes.ofText (String.ofList characters)))

end Value

namespace Column

open Numeral (IsTextOf digits fractionChars)

theorem toInteger_text (text : String) :
    toInteger (.text text) = intOfText (Text.trim text) := by
  unfold toInteger
  simp only [Value.toText, bind, Except.bind]

/-- Bytes that are a text are read as the text. -/
theorem toInteger_bytes (form : BytesForm) (text : String) :
    toInteger (.bytes form (Bytes.ofText text)) = intOfText (Text.trim text) := by
  unfold toInteger
  simp only [bytesText, Bytes.toText?_ofText, bind, Except.bind]

/-- A column of whole numbers gives the number for every value that stands for it. -/
theorem convert_integer_of_isWhole (number : Int) (value : Value) (isWhole : value.IsWhole number)
    (stringified : Bool) :
    convert value (some .integer) stringified = .ok (.int number) := by
  have read : toInteger value = .ok number := by
    cases isWhole with
    | int => rfl
    | decimal => exact intOfDecimal_ofInt number
    | text isText =>
        rw [toInteger_text]
        exact intOfText_trim isText
    | bytes form isText =>
        rw [toInteger_bytes]
        exact intOfText_trim isText
  have shown : value.isNull = false := by
    cases isWhole <;> rfl
  rw [convert, shown, convertTo, read]
  rfl

/-- A negative number with more digits than a numeral may have, as bytes with blanks around it and
two zeros after the point. -/
theorem convert_integer_long :
    convert (.bytes .view (Bytes.ofText (String.ofList ([' ', '\t'] ++
      (['-'] ++ (digits (10 ^ 4400) ++ ['.', '0', '0']) ++ ['\n']))))) (some .integer) true =
      .ok (.int (-10 ^ 4400)) := by
  have size (count : Nat) : (-10 ^ count : Int).natAbs = 10 ^ count := by
    rw [Int.natAbs_neg, Int.natAbs_pow]
    rfl
  have notPositive : (-10 ^ 4400 : Int) ≤ 0 := Int.neg_nonpos_of_nonneg (by positivity)
  have length (count : Nat) : (digits (10 ^ count)).length ≤ count + 1 :=
    (Nat.length_toDigits_le_iff (by decide) count.succ_pos).mpr
      (Nat.pow_lt_pow_right (by decide) count.lt_succ_self)
  have isText : IsTextOf (-10 ^ 4400) ([' ', '\t'] ++
      (['-'] ++ (digits (-10 ^ 4400 : Int).natAbs ++ fractionChars (some 2)) ++ ['\n'])) := by
    refine .intro (List.all_eq_true.mp rfl) (.minus notPositive) (List.all_eq_true.mp rfl) ?_
    rw [size, Option.getD_some, Decimal.highestExponent]
    have short := length 4400
    omega
  rw [size] at isText
  exact convert_integer_of_isWhole _ _ (.bytes .view isText) true

end Column
end SqlGateway
