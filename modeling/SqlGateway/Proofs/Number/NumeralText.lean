import SqlGateway.Number.Decimal
import SqlGateway.Proofs.Number.Written

namespace SqlGateway

/-!
# Characters of numerals

Whole numbers and decimals are read from a text in steps: the blanks around it are taken off, the
group marks are dropped, digits of other scripts are replaced.  None of these steps changes the
text of ordinary characters, which are those of written numbers.  What is left to read then starts
with a sign or with a digit.
-/

/-! ## Blanks around a text -/

namespace Text

variable {before core after : List Char}

theorem dropWhile_marked (marked : forall character, character ∈ core -> isBlank character = false)
    (nonempty : core ≠ []) (rest : List Char) :
    (core ++ rest).dropWhile isBlank = core ++ rest := by
  cases core with
  | nil => exact absurd rfl nonempty
  | cons character core =>
      apply List.dropWhile_cons_of_neg
      rw [marked character List.mem_cons_self]
      exact Bool.false_ne_true

/-- Trimming takes the blanks off that stand around a text without blanks. -/
theorem trimChars_margins
    (blankBefore : forall character, character ∈ before -> isBlank character = true)
    (blankAfter : forall character, character ∈ after -> isBlank character = true)
    (marked : forall character, character ∈ core -> isBlank character = false) :
    trimChars (before ++ (core ++ after)) = core := by
  unfold trimChars
  rw [List.dropWhile_append_of_pos blankBefore]
  by_cases empty : core = []
  · rw [empty, List.nil_append, List.dropWhile_eq_nil_iff.mpr blankAfter]
    rfl
  · have blankEnd : forall character, character ∈ after.reverse -> isBlank character = true :=
      fun character member => blankAfter character (List.mem_reverse.mp member)
    have markedEnd : forall character, character ∈ core.reverse -> isBlank character = false :=
      fun character member => marked character (List.mem_reverse.mp member)
    have kept := dropWhile_marked markedEnd (fun none => empty (List.reverse_eq_nil_iff.mp none)) []
    rw [List.append_nil] at kept
    rw [dropWhile_marked marked empty, List.reverse_append, List.dropWhile_append_of_pos blankEnd,
      kept, List.reverse_reverse]

theorem trimChars_marked
    (marked : forall character, character ∈ core -> isBlank character = false) :
    trimChars core = core := by
  have trimmed := trimChars_margins (List.forall_mem_nil _) (List.forall_mem_nil _) marked
  rwa [List.nil_append, List.append_nil] at trimmed

end Text

namespace Numeral

/-! ## Ordinary characters -/

/-- Whether a character is read as itself in a numeral: it is of the seven-bit range, and neither
a blank nor a group mark. -/
def IsOrdinary (character : Char) : Prop :=
  character.toNat < 0x80 ∧ Text.isBlank character = false ∧ character ≠ '_'

instance (character : Char) : Decidable (IsOrdinary character) :=
  inferInstanceAs (Decidable (_ ∧ _ ∧ _))

/-- The numbers of the code points of digits. -/
theorem toNat_of_isDigit {character : Char} (digit : character.isDigit = true) :
    48 ≤ character.toNat ∧ character.toNat ≤ 57 :=
  Char.isDigit_iff_toNat.mp digit

/-- No digit is a letter. -/
theorem not_isAlpha_of_isDigit {character : Char} (digit : character.isDigit = true) :
    character.isAlpha = false := by
  have range := toNat_of_isDigit digit
  rw [Bool.eq_false_iff]
  intro letter
  rcases Bool.or_eq_true_iff.mp letter with upper | lower
  · have first : 65 ≤ character.toNat := (of_decide_eq_true upper).1
    omega
  · have first : 97 ≤ character.toNat := of_decide_eq_true (Bool.and_eq_true_iff.mp lower).1
    omega

theorem isOrdinary_of_isDigit {character : Char} (digit : character.isDigit = true) :
    IsOrdinary character := by
  have range := toNat_of_isDigit digit
  refine ⟨by omega, ?_, ?_⟩
  · simp only [Text.isBlank, Bool.or_eq_false_iff, Bool.and_eq_false_iff, decide_eq_false_iff_not,
      beq_eq_false_iff_ne]
    omega
  · rintro rfl
    cases digit

variable {characters : List Char}

theorem isOrdinary_of_all
    (checked : (characters.all fun character => decide (IsOrdinary character)) = true) :
    forall character, character ∈ characters -> IsOrdinary character :=
  fun character member => of_decide_eq_true (List.all_eq_true.mp checked character member)

/-- In text of ordinary characters there are no digits of other scripts. -/
theorem plainDigits_of_ordinary
    (ordinary : forall character, character ∈ characters -> IsOrdinary character) :
    plainDigits characters = characters := by
  calc plainDigits characters
      = characters.map id := by
        apply List.map_congr_left
        intro character member
        rw [if_pos (ordinary character member).1]
        rfl
    _ = characters := List.map_id characters

theorem trimChars_of_ordinary
    (ordinary : forall character, character ∈ characters -> IsOrdinary character) :
    Text.trimChars characters = characters :=
  Text.trimChars_marked fun character member => (ordinary character member).2.1

/-- The sign of a number is split off again. -/
theorem splitSign_signChars (negative : Bool) (unsigned : splitSign characters = (false, characters)) :
    splitSign (signChars negative ++ characters) = (negative, characters) := by
  cases negative with
  | true => rfl
  | false => exact unsigned

theorem isOrdinary_signChars (negative : Bool) :
    forall character, character ∈ signChars negative -> IsOrdinary character := by
  cases negative <;> exact isOrdinary_of_all rfl

theorem body_of_ordinary
    (ordinary : forall character, character ∈ characters -> IsOrdinary character) :
    body characters = characters := by
  have inside : forall character, character ∈ characters -> ¬ isMargin character = true := by
    intro character member
    rw [isMargin, (ordinary character member).2.1, Bool.false_and]
    exact Bool.false_ne_true
  have front : characters.dropWhile isMargin = characters :=
    List.dropWhile_eq_self_iff.mpr fun _ => inside _ (List.getElem_mem _)
  have back : characters.reverse.dropWhile isMargin = characters.reverse :=
    List.dropWhile_eq_self_iff.mpr fun _ => inside _ (List.mem_reverse.mp (List.getElem_mem _))
  rw [body, front, back, List.reverse_reverse, plainDigits_of_ordinary ordinary]

/-- Without group marks there is nothing to drop. -/
theorem dropGroupMarks?_of_ordinary (afterDigit : Bool)
    (ordinary : forall character, character ∈ characters -> IsOrdinary character) :
    dropGroupMarks? afterDigit characters = some characters := by
  induction characters generalizing afterDigit with
  | nil => rfl
  | cons character rest inductionHypothesis =>
      have unmarked := (ordinary character List.mem_cons_self).2.2
      have others : forall other, other ∈ rest -> IsOrdinary other :=
        fun other member => ordinary other (List.mem_cons_of_mem character member)
      rw [dropGroupMarks?.eq_4 _ _ _ (fun mark _ => unmarked mark) (fun _ _ mark _ => unmarked mark),
        inductionHypothesis _ others]
      rfl

/-! ## Numbers that were read -/

theorem ofDigits_lt_pow (digits : forall character, character ∈ characters -> character.isDigit) :
    ofDigits characters < 10 ^ characters.length := by
  induction characters with
  | nil => exact Nat.one_pos
  | cons character rest inductionHypothesis =>
      have below := inductionHypothesis fun other member =>
        digits other (List.mem_cons_of_mem character member)
      have first : ofDigits [character] ≤ 9 := by
        have range := toNat_of_isDigit (digits character List.mem_cons_self)
        change 10 * 0 + (character.toNat - '0'.toNat) ≤ 9
        have zero : '0'.toNat = 48 := rfl
        omega
      rw [← List.singleton_append, ofDigits_append, List.singleton_append, List.length_cons]
      calc ofDigits [character] * 10 ^ rest.length + ofDigits rest
          < ofDigits [character] * 10 ^ rest.length + 10 ^ rest.length :=
            Nat.add_lt_add_left below _
        _ ≤ 9 * 10 ^ rest.length + 10 ^ rest.length :=
            Nat.add_le_add_right (Nat.mul_le_mul_right _ first) _
        _ = 10 ^ (rest.length + 1) := by ring

/-- A number that can be read is short enough to be written. -/
theorem write?_of_read? {value : Int} (reads : read? characters = some value) :
    exists text, write? value = some text := by
  unfold read? readBody? at reads
  rcases Option.bind_eq_some_iff.mp reads with ⟨unmarked, -, reads⟩
  rcases split : splitSign unmarked with ⟨negative, magnitude⟩
  rw [split] at reads
  dsimp only at reads
  split at reads
  next proper =>
    cases reads
    have below := ofDigits_lt_pow (List.all_eq_true.mp proper.2.1)
    have absolute : (signed negative (ofDigits magnitude)).natAbs = ofDigits magnitude := by
      unfold signed
      cases negative <;> simp
    have short : (digits (ofDigits magnitude)).length ≤ digitLimit :=
      ((Nat.length_toDigits_le_iff (by decide) (List.length_pos_iff.mpr proper.1)).mpr
        below).trans proper.2.2
    unfold write?
    rw [absolute, if_pos short]
    exact ⟨_, rfl⟩
  next => cases reads

end Numeral
end SqlGateway
