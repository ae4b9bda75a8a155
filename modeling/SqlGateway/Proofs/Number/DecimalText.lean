import SqlGateway.Number.Decimal
import SqlGateway.Proofs.Number.NumeralText

namespace SqlGateway

/-!
# Decimals are read back as they were written

A decimal is more than its value: `1.0` and `1.00` are different decimals, and so are the zeros of
both signs.  The written form keeps all of this.  It has digits alone, digits with a point, or
digits with an exponent, and in each case the power of ten of the last digit can be told from the
place of the point and the exponent.  An infinity or a NaN is a word, which the payload follows.

Reading has limits for the exponent, which the type does not have.  Whatever is read is within
them, and every decimal within them is read back.
-/

namespace Decimal

open Numeral (digits ofDigits signChars IsOrdinary readScientific? readExponent? splitSign)

/-! ## Limits -/

/-- Whether a decimal is within the limits of the format.  An infinity or a NaN has no exponent to
limit. -/
def IsWithinLimits : Decimal -> Prop
  | .finite _ coefficient exponent => inRange coefficient exponent = true
  | .infinite _ => True
  | .nan _ _ _ => True

instance : (value : Decimal) -> Decidable value.IsWithinLimits
  | .finite _ coefficient exponent =>
      inferInstanceAs (Decidable (inRange coefficient exponent = true))
  | .infinite _ => inferInstanceAs (Decidable True)
  | .nan _ _ _ => inferInstanceAs (Decidable True)

/-- Whatever is read is within the limits. -/
theorem isWithinLimits_of_readUnsigned? {negative : Bool} {characters : List Char}
    {value : Decimal} (read : readUnsigned? negative characters = some value) :
    value.IsWithinLimits := by
  unfold readUnsigned? at read
  simp only at read
  split at read
  · split at read
    · cases read
      exact trivial
    · cases read
  · split at read
    · split at read
      · cases read
        exact trivial
      · cases read
    · rcases Option.bind_eq_some_iff.mp read with ⟨⟨coefficient, exponent⟩, -, limited⟩
      simp only at limited
      split at limited
      · next within =>
        cases limited
        exact within
      · cases limited

/-! ## Digits, points and exponents -/

theorem readExponent?_exponentChars (exponent : Int) :
    readExponent? (exponentChars exponent) = some exponent := by
  have letter : 'E'.toLower = 'e' := rfl
  have parts : splitSign ([if exponent < 0 then '-' else '+'] ++ digits exponent.natAbs) =
      (decide (exponent < 0), digits exponent.natAbs) := by
    by_cases negative : exponent < 0
    · simp only [negative, if_true, decide_true]
      rfl
    · simp only [negative, if_false, decide_false]
      rfl
  have read := Numeral.readExponent?_signed letter parts (Numeral.isDigit_digits exponent.natAbs)
    Nat.toDigits_ne_nil
  rw [Numeral.ofDigits_digits, Numeral.signed_natAbs] at read
  exact read

section Layouts

variable {written : List Char}
  (allDigits : forall character, character ∈ written -> character.isDigit = true)
include allDigits

/-- Digits around a point. -/
theorem readScientific?_split {point : Nat} (inside : 0 < point ∧ point < written.length) :
    readScientific? (written.take point ++ '.' :: written.drop point) =
      some (ofDigits written, (point : Int) - written.length) := by
  have some : written.take point ≠ [] := by
    intro empty
    have short := congrArg List.length empty
    rw [List.length_take, List.length_nil] at short
    omega
  have read := Numeral.readScientific?_point
    (fun character member => allDigits character (List.mem_of_mem_take member))
    (rfl : Numeral.Stops []) (rfl : readExponent? [] = .some 0)
    (fun character member =>
      allDigits character (List.mem_of_mem_drop (i := point) member)) some
  rw [List.append_nil, List.take_append_drop, List.length_drop] at read
  rw [read]
  congr 2
  omega

/-- Digits after the point, with zeros in front of them. -/
theorem readScientific?_fraction (zeros : Nat) :
    readScientific? ('0' :: '.' :: (List.replicate zeros '0' ++ written)) =
      some (ofDigits written, -(zeros + written.length : Int)) := by
  have read := Numeral.readScientific?_point (Numeral.isDigit_digits 0) (rfl : Numeral.Stops [])
    (rfl : readExponent? [] = some 0)
    (Numeral.isDigit_append (Numeral.isDigit_zeros zeros) allDigits) (by decide)
  rw [List.append_nil, Numeral.ofDigits_append, Numeral.ofDigits_append, Numeral.ofDigits_digits,
    Numeral.ofDigits_zeros, Nat.zero_mul, Nat.zero_mul, Nat.zero_add, Nat.zero_add,
    List.length_append, List.length_replicate] at read
  refine read.trans ?_
  congr 2
  omega

/-- Digits and an exponent, which is that of the first of them. -/
theorem readScientific?_exponent {digit : Char} {rest : List Char} (same : written = digit :: rest)
    (exponent : Int) :
    readScientific? (digit :: '.' :: (rest ++ exponentChars exponent)) =
      some (ofDigits written, exponent - rest.length) := by
  subst same
  exact Numeral.readScientific?_point
    (fun character member => allDigits character
      (List.mem_cons.mpr (.inl (List.mem_singleton.mp member))))
    (rfl : Numeral.Stops (exponentChars exponent)) (readExponent?_exponentChars exponent)
    (fun character member => allDigits character (List.mem_cons_of_mem digit member))
    (List.cons_ne_nil digit [])

end Layouts

/-- The digits of a decimal are read as its coefficient, and the point and the exponent as its
exponent. -/
theorem readScientific?_unsignedChars (coefficient : Nat) (exponent : Int) :
    readScientific? (unsignedChars coefficient exponent) = some (coefficient, exponent) := by
  have allDigits := Numeral.isDigit_digits coefficient
  have value := Numeral.ofDigits_digits coefficient
  have nonempty : digits coefficient ≠ [] := Nat.toDigits_ne_nil
  unfold unsignedChars
  generalize digits coefficient = written at allDigits value nonempty ⊢
  have some : 0 < written.length := List.length_pos_iff.mpr nonempty
  simp only
  split
  next positional =>
    split
    next whole =>
      have read := Numeral.readScientific?_whole allDigits (rfl : Numeral.Stops [])
        (rfl : readExponent? [] = .some 0) nonempty nofun
      rw [List.append_nil, value] at read
      rw [read, whole]
    next fractional =>
      split
      next inside =>
        have read := readScientific?_split allDigits
          (⟨by omega, by omega⟩ : 0 < (exponent + written.length).toNat ∧
            (exponent + written.length).toNat < written.length)
        rw [read, value]
        congr 2
        omega
      next small =>
        rw [readScientific?_fraction allDigits, value]
        congr 2
        omega
  next scientific =>
    match written with
    | [] => exact absurd rfl nonempty
    | [digit] =>
        have place : exponent + ([digit].length : Int) - 1 = exponent := by
          rw [List.length_singleton]
          omega
        have read := Numeral.readScientific?_whole allDigits
          (rfl : Numeral.Stops (exponentChars exponent)) (readExponent?_exponentChars exponent)
          nonempty nofun
        rw [value] at read
        change readScientific? (digit :: exponentChars (exponent + ([digit].length : Int) - 1)) = _
        rw [place]
        exact read
    | digit :: next :: rest =>
        refine (readScientific?_exponent allDigits rfl _).trans ?_
        rw [value, List.length_cons, List.length_cons]
        congr 2
        push_cast
        omega

/-! ## Whole texts -/

/-- A text of ordinary characters is read after its sign. -/
theorem readChars?_of_ordinary {characters : List Char}
    (ordinary : forall character, character ∈ characters -> IsOrdinary character) :
    readChars? characters =
      readUnsigned? (splitSign characters).1 (splitSign characters).2 := by
  have unmarked : characters.filter (fun character => decide (character ≠ '_')) = characters :=
    List.filter_eq_self.mpr fun character member => decide_eq_true (ordinary character member).2.2
  unfold readChars?
  rw [Numeral.trimChars_of_ordinary ordinary, unmarked, Numeral.plainDigits_of_ordinary ordinary]

/-- A number that starts with a digit is no word. -/
theorem readUnsigned?_of_isDigit (negative : Bool) {digit : Char}
    (isDigit : digit.isDigit = true) (rest : List Char) :
    readUnsigned? negative (digit :: rest) =
      (readScientific? (digit :: rest)).bind fun read =>
        if inRange read.1 read.2 then some (.finite negative read.1 read.2) else none := by
  have wordless : (digit :: rest).takeWhile Char.isAlpha = [] := by
    apply List.takeWhile_cons_of_neg
    rw [Numeral.not_isAlpha_of_isDigit isDigit]
    exact Bool.false_ne_true
  unfold readUnsigned?
  rw [wordless]
  rfl

theorem isOrdinary_exponentChars (exponent : Int) :
    forall character, character ∈ exponentChars exponent -> IsOrdinary character := by
  have letter : IsOrdinary 'E' := by decide
  have sign : IsOrdinary (if exponent < 0 then '-' else '+') := by
    split <;> decide
  exact List.forall_mem_cons.mpr ⟨letter, List.forall_mem_cons.mpr ⟨sign,
    fun character member => Numeral.isOrdinary_of_isDigit
      (Numeral.isDigit_digits _ character member)⟩⟩

/-- The text of a decimal starts with a digit, and all its characters are ordinary. -/
theorem unsignedChars_eq_cons (coefficient : Nat) (exponent : Int) :
    exists digit rest, unsignedChars coefficient exponent = digit :: rest ∧
      digit.isDigit = true ∧ forall character, character ∈ rest -> IsOrdinary character := by
  have allDigits := Numeral.isDigit_digits coefficient
  have nonempty : digits coefficient ≠ [] := Nat.toDigits_ne_nil
  unfold unsignedChars
  generalize digits coefficient = written at allDigits nonempty ⊢
  have ordinary : forall character, character ∈ written -> IsOrdinary character :=
    fun character member => Numeral.isOrdinary_of_isDigit (allDigits character member)
  have point : IsOrdinary '.' := by decide
  cases written with
  | nil => exact absurd rfl nonempty
  | cons digit rest =>
      have isDigit : digit.isDigit = true := allDigits digit List.mem_cons_self
      have others : forall character, character ∈ rest -> IsOrdinary character :=
        fun character member => ordinary character (List.mem_cons_of_mem digit member)
      simp only
      split
      next positional =>
        split
        next whole => exact ⟨digit, rest, rfl, isDigit, others⟩
        next fractional =>
          split
          next inside =>
            have several : (exponent + (digit :: rest).length).toNat ≠ 0 := by omega
            rcases Nat.exists_eq_add_one_of_ne_zero several with ⟨count, same⟩
            rw [same]
            refine ⟨digit, rest.take count ++ '.' :: rest.drop count, rfl, isDigit,
              List.forall_mem_append.mpr ⟨?_, List.forall_mem_cons.mpr ⟨point, ?_⟩⟩⟩
            · exact fun character member => others character (List.mem_of_mem_take member)
            · exact fun character member => others character (List.mem_of_mem_drop member)
          next small =>
            refine ⟨'0', _, rfl, rfl, List.forall_mem_cons.mpr ⟨point,
              List.forall_mem_append.mpr ⟨fun character member => ?_, ordinary⟩⟩⟩
            exact Numeral.isOrdinary_of_isDigit (Numeral.isDigit_zeros _ character member)
      next scientific =>
        cases rest with
        | nil => exact ⟨digit, _, rfl, isDigit, isOrdinary_exponentChars _⟩
        | cons next rest =>
            exact ⟨digit, _, rfl, isDigit, List.forall_mem_cons.mpr ⟨point,
              List.forall_mem_append.mpr ⟨others, isOrdinary_exponentChars _⟩⟩⟩

/-- A number is read back if it is within the limits. -/
theorem readUnsigned?_unsignedChars (negative : Bool) (coefficient : Nat) (exponent : Int) :
    readUnsigned? negative (unsignedChars coefficient exponent) =
      if inRange coefficient exponent then some (.finite negative coefficient exponent)
      else none := by
  have read := readScientific?_unsignedChars coefficient exponent
  rcases unsignedChars_eq_cons coefficient exponent with ⟨digit, rest, same, isDigit, -⟩
  rw [same] at read ⊢
  rw [readUnsigned?_of_isDigit negative isDigit, read]
  rfl

/-- The word for a NaN. -/
def nanWord (signaling : Bool) : List Char := (if signaling then ['s'] else []) ++ "NaN".toList

theorem isDigit_payloadChars (payload : Nat) :
    forall character, character ∈ payloadChars payload -> character.isDigit = true := by
  unfold payloadChars
  split
  · exact List.forall_mem_nil _
  · exact Numeral.isDigit_digits payload

theorem ofDigits_payloadChars (payload : Nat) : ofDigits (payloadChars payload) = payload := by
  unfold payloadChars
  split
  next zero =>
    rw [zero]
    rfl
  next => exact Numeral.ofDigits_digits payload

/-- The word of a NaN ends where its payload begins. -/
theorem readUnsigned?_nan (negative signaling : Bool) (payload : Nat) :
    readUnsigned? negative (nanWord signaling ++ payloadChars payload) =
      some (.nan negative signaling payload) := by
  have allDigits := isDigit_payloadChars payload
  have value := ofDigits_payloadChars payload
  generalize payloadChars payload = written at allDigits value ⊢
  have letters : forall character, character ∈ nanWord signaling -> character.isAlpha = true := by
    cases signaling <;> exact List.all_eq_true.mp rfl
  have wordless : written.takeWhile Char.isAlpha = [] ∧ written.dropWhile Char.isAlpha = written := by
    cases written with
    | nil => exact ⟨rfl, rfl⟩
    | cons digit written =>
        have digitless : ¬ digit.isAlpha = true := by
          rw [Numeral.not_isAlpha_of_isDigit (allDigits digit List.mem_cons_self)]
          exact Bool.false_ne_true
        exact ⟨List.takeWhile_cons_of_neg digitless, List.dropWhile_cons_of_neg digitless⟩
  have accepted : written.all Char.isDigit = true := List.all_eq_true.mpr allDigits
  unfold readUnsigned?
  rw [List.takeWhile_append_of_pos letters, List.dropWhile_append_of_pos letters, wordless.1,
    wordless.2, List.append_nil]
  simp only [accepted, value, if_true]
  cases signaling <;> rfl

/-- A decimal without its sign. -/
def sizeChars : Decimal -> List Char
  | .finite _ coefficient exponent => unsignedChars coefficient exponent
  | .infinite _ => ['I', 'n', 'f', 'i', 'n', 'i', 't', 'y']
  | .nan _ signaling payload => nanWord signaling ++ payloadChars payload

/-- Whether a decimal has a minus sign. -/
def isNegative : Decimal -> Bool
  | .finite negative _ _ => negative
  | .infinite negative => negative
  | .nan negative _ _ => negative

theorem chars_eq (value : Decimal) : value.chars = signChars value.isNegative ++ value.sizeChars := by
  cases value with
  | nan negative signaling payload =>
      simp only [chars, isNegative, sizeChars, nanWord, List.append_assoc]
  | _ => rfl

theorem isOrdinary_sizeChars (value : Decimal) :
    forall character, character ∈ value.sizeChars -> IsOrdinary character := by
  cases value with
  | finite negative coefficient exponent =>
      rcases unsignedChars_eq_cons coefficient exponent with ⟨digit, rest, same, isDigit, ordinary⟩
      rw [sizeChars, same]
      exact List.forall_mem_cons.mpr ⟨Numeral.isOrdinary_of_isDigit isDigit, ordinary⟩
  | infinite negative =>
      rw [sizeChars]
      exact Numeral.isOrdinary_of_all rfl
  | nan negative signaling payload =>
      have word : forall character, character ∈ nanWord signaling -> IsOrdinary character := by
        cases signaling <;> exact Numeral.isOrdinary_of_all rfl
      exact List.forall_mem_append.mpr ⟨word, fun character member =>
        Numeral.isOrdinary_of_isDigit (isDigit_payloadChars payload character member)⟩

/-- The size of a decimal starts with no sign. -/
theorem splitSign_sizeChars (value : Decimal) :
    splitSign value.sizeChars = (false, value.sizeChars) := by
  cases value with
  | finite negative coefficient exponent =>
      rcases unsignedChars_eq_cons coefficient exponent with ⟨digit, rest, same, isDigit, -⟩
      rw [sizeChars, same]
      exact Numeral.splitSign_of_isDigit isDigit rest
  | infinite negative => rfl
  | nan negative signaling payload => cases signaling <;> rfl

/-- A decimal without its sign is read as that decimal if it is within the limits. -/
theorem readUnsigned?_sizeChars (value : Decimal) (within : value.IsWithinLimits) :
    readUnsigned? value.isNegative value.sizeChars = some value := by
  cases value with
  | finite negative coefficient exponent =>
      rw [sizeChars, readUnsigned?_unsignedChars]
      exact if_pos within
  | infinite negative => rfl
  | nan negative signaling payload => exact readUnsigned?_nan negative signaling payload

theorem isOrdinary_chars (value : Decimal) :
    forall character, character ∈ value.chars -> IsOrdinary character := by
  rw [chars_eq]
  exact List.forall_mem_append.mpr
    ⟨Numeral.isOrdinary_signChars value.isNegative, isOrdinary_sizeChars value⟩

/-- The decimals that are read back as they were written are those within the limits. -/
theorem read?_write_iff (value : Decimal) :
    read? value.write = some value ↔ value.IsWithinLimits := by
  have read : read? value.write = readUnsigned? value.isNegative value.sizeChars := by
    rw [read?, write, String.toList_ofList, readChars?_of_ordinary value.isOrdinary_chars, chars_eq,
      Numeral.splitSign_signChars value.isNegative (splitSign_sizeChars value)]
  rw [read]
  exact ⟨isWithinLimits_of_readUnsigned?, readUnsigned?_sizeChars value⟩

end Decimal
end SqlGateway
