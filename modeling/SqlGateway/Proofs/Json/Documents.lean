import SqlGateway.Json.Writer
import SqlGateway.Proofs.Number.Written

namespace SqlGateway

/-!
# Documents tell plain values apart

The document of an object shows the names and the values of its members: whatever characters
names and texts hold, two objects with one document have the same members.  A string ends at the
first double quote outside an escape, and every other document of a plain value ends before the
first comma or brace.

The members are ordered by their names before they are written, so the document shows nothing of
the order in which they were given.
-/

/-- A value without parts: nothing, a truth value, a whole number, a text or a finite number of
double precision. -/
inductive Value.IsPlain : Value -> Prop
  | null : IsPlain .null
  | bool (value : Bool) : IsPlain (.bool value)
  | int (value : Int) : IsPlain (.int value)
  | text (value : String) : IsPlain (.text value)
  | float (negative : Bool) {significand : Nat} {exponent : Int}
      (double : Binary64.IsDouble significand exponent) :
      IsPlain (.float (.finite negative significand exponent))

namespace Json

/-! ## Strings -/

/-- The characters that a string holds as escapes. -/
def escapedChars : List Char :=
  Text.doubleQuote :: Text.backslash :: (List.range 0x20).map Char.ofNat

theorem stringChar_of_not_escaped {character : Char} (plain : character ∉ escapedChars) :
    stringChar character = [character] := by
  have different {other : Char} (escaped : other ∈ escapedChars) : character ≠ other :=
    fun same => plain (same ▸ escaped)
  have high : ¬ character.toNat < 0x20 := by
    intro low
    refine plain (List.mem_cons_of_mem _ (List.mem_cons_of_mem _ ?_))
    exact List.mem_map.mpr ⟨character.toNat, List.mem_range.mpr low, Char.ofNat_toNat character⟩
  have unquoted : ¬ (character = Text.doubleQuote ∨ character = Text.backslash) :=
    not_or.mpr ⟨different (by decide), different (by decide)⟩
  have long : shortEscape? character = none := by
    unfold shortEscape?
    rw [if_neg (different (by decide)), if_neg (different (by decide)),
      if_neg (different (by decide)), if_neg (different (by decide)),
      if_neg (different (by decide))]
  simp only [stringChar, if_neg unquoted, long, if_neg high]

theorem head_stringChar (character : Char) (escaped : character ∈ escapedChars) :
    (stringChar character).head? = some Text.backslash := by
  have all : (escapedChars.all fun character =>
      (stringChar character).head? == some Text.backslash) = true := by decide
  exact beq_iff_eq.mp (List.all_eq_true.mp all character escaped)

/-- No escape is the beginning of another. -/
theorem escapes_prefixFree {first second : Char} (firstEscaped : first ∈ escapedChars)
    (secondEscaped : second ∈ escapedChars)
    (begins : stringChar first <+: stringChar second) : first = second := by
  have all : (escapedChars.all fun first => escapedChars.all fun second =>
      !(stringChar first).isPrefixOf (stringChar second) || first == second) = true := by
    decide +kernel
  have here := List.all_eq_true.mp (List.all_eq_true.mp all first firstEscaped) second secondEscaped
  rw [List.isPrefixOf_iff_prefix.mpr begins] at here
  simpa using here

theorem head_escaped {character : Char} (escaped : character ∈ escapedChars) (rest : List Char) :
    (stringChar character ++ rest).head? = some Text.backslash := by
  rw [List.head?_append, head_stringChar character escaped]
  rfl

/-- What begins with the written form of a character shows the character and what follows. -/
theorem stringChar_unique {first second : Char} {rest others : List Char}
    (same : stringChar first ++ rest = stringChar second ++ others) :
    first = second ∧ rest = others := by
  have sameChar : first = second := by
    by_cases firstEscaped : first ∈ escapedChars
    · by_cases secondEscaped : second ∈ escapedChars
      · rcases List.append_eq_append_iff.mp same with ⟨more, longer, -⟩ | ⟨more, longer, -⟩
        · exact escapes_prefixFree firstEscaped secondEscaped ⟨more, longer.symm⟩
        · exact (escapes_prefixFree secondEscaped firstEscaped ⟨more, longer.symm⟩).symm
      · have head := head_escaped firstEscaped rest
        rw [same, stringChar_of_not_escaped secondEscaped] at head
        exact absurd (Option.some.inj head ▸ secondEscaped) (by decide)
    · by_cases secondEscaped : second ∈ escapedChars
      · have head := head_escaped secondEscaped others
        rw [← same, stringChar_of_not_escaped firstEscaped] at head
        exact absurd (Option.some.inj head ▸ firstEscaped) (by decide)
      · rw [stringChar_of_not_escaped firstEscaped, stringChar_of_not_escaped secondEscaped] at same
        exact (List.cons.inj same).1
  subst sameChar
  exact ⟨rfl, List.append_cancel_left same⟩

/-- The written form of a character does not begin as the end of a string does. -/
theorem stringChar_ne_quote (character : Char) (rest others : List Char) :
    stringChar character ++ rest ≠ Text.doubleQuote :: others := by
  intro same
  by_cases escaped : character ∈ escapedChars
  · have head := head_escaped escaped rest
    rw [same] at head
    exact absurd (Option.some.inj head) (by decide)
  · rw [stringChar_of_not_escaped escaped] at same
    exact escaped ((List.cons.inj same).1 ▸ List.mem_cons_self)

theorem stringTail_unique {first second rest others : List Char}
    (same : first.flatMap stringChar ++ Text.doubleQuote :: rest =
      second.flatMap stringChar ++ Text.doubleQuote :: others) :
    first = second ∧ rest = others := by
  induction first generalizing second with
  | nil =>
      cases second with
      | nil => exact ⟨rfl, (List.cons.inj same).2⟩
      | cons character second =>
          rw [List.flatMap_cons, List.append_assoc] at same
          exact absurd same.symm (stringChar_ne_quote character _ _)
  | cons character first inductionHypothesis =>
      rw [List.flatMap_cons, List.append_assoc] at same
      cases second with
      | nil => exact absurd same (stringChar_ne_quote character _ _)
      | cons other second =>
          rw [List.flatMap_cons, List.append_assoc] at same
          rcases stringChar_unique same with ⟨rfl, tail⟩
          rcases inductionHypothesis tail with ⟨rfl, sameRest⟩
          exact ⟨rfl, sameRest⟩

theorem toList_string (content : String) :
    (string content).toList = stringChars content.toList :=
  String.toList_ofList

/-- What begins with a string shows the text and what follows. -/
theorem string_unique {first second : String} {rest others : List Char}
    (same : (string first).toList ++ rest = (string second).toList ++ others) :
    first = second ∧ rest = others := by
  rw [toList_string, toList_string] at same
  unfold stringChars at same
  rw [List.cons_append, List.cons_append, List.append_assoc, List.append_assoc] at same
  rcases stringTail_unique (List.cons.inj same).2 with ⟨sameChars, sameRest⟩
  exact ⟨String.toList_injective sameChars, sameRest⟩

theorem string_injective {first second : String} (same : string first = string second) :
    first = second := by
  have chars : (string first).toList ++ [] = (string second).toList ++ [] := by rw [same]
  exact (string_unique chars).1

theorem head_string (content : String) (rest : List Char) :
    ((string content).toList ++ rest).head? = some Text.doubleQuote := by
  rw [toList_string]
  rfl

/-! ## Other documents -/

/-- The characters that no document of a number, a truth value or nothing has. -/
def borders : List Char := [Text.doubleQuote, ',', '\x7d']

/-- A document that is no string. -/
structure IsBare (characters : List Char) : Prop where
  nonempty : characters ≠ []
  apart : forall character, character ∈ characters -> character ∉ borders

/-- What follows a member of an object. -/
def Closes (characters : List Char) : Prop :=
  exists character rest, characters = character :: rest ∧ character ∈ borders

theorem IsBare.takeWhile {characters rest : List Char} (bare : IsBare characters)
    (closes : Closes rest) : (characters ++ rest).takeWhile (· ∉ borders) = characters := by
  rcases closes with ⟨character, rest, rfl, border⟩
  rw [List.takeWhile_append_of_pos fun character member =>
    decide_eq_true (bare.apart character member), List.takeWhile_cons_of_neg, List.append_nil]
  simpa using border

theorem IsBare.head {characters : List Char} (bare : IsBare characters) (rest : List Char) :
    (characters ++ rest).head? ≠ some Text.doubleQuote := by
  rcases List.exists_cons_of_ne_nil bare.nonempty with ⟨character, others, rfl⟩
  intro head
  exact bare.apart character List.mem_cons_self (Option.some.inj head ▸ List.mem_cons_self)

theorem isBare_of_all {characters : List Char} (nonempty : characters ≠ [])
    (all : (characters.all fun character => !borders.contains character) = true) :
    IsBare characters := by
  refine ⟨nonempty, fun character member border => ?_⟩
  have apart := List.all_eq_true.mp all character member
  rw [List.contains_iff_mem.mpr border] at apart
  cases apart

theorem isBare_of_numeric {characters : List Char} (nonempty : characters ≠ [])
    (numeric : forall character, character ∈ characters -> Binary64.IsNumeric character) :
    IsBare characters := by
  refine ⟨nonempty, fun character member border => ?_⟩
  have isNumeric := numeric character member
  unfold Binary64.IsNumeric at isNumeric
  simp only [borders, List.mem_cons, List.not_mem_nil, or_false] at border
  rcases border with rfl | rfl | rfl <;> exact absurd isNumeric (by decide)

/-! ## Documents of plain values -/

theorem intText_eq {value : Int} {document : String} (writes : Value.intText value = .ok document) :
    document.toList = Numeral.chars value := by
  unfold Value.intText Numeral.write? at writes
  split at writes
  next written found =>
    split at found
    · cases found
      cases writes
      exact String.toList_ofList
    · cases found
  next => cases writes

theorem numeric_intChars (value : Int) : forall character, character ∈ Numeral.chars value ->
    character.isDigit = true ∨ character = '-' := by
  intro character member
  rcases List.mem_append.mp member with sign | digit
  · refine .inr ?_
    unfold Numeral.signChars at sign
    split at sign
    · exact List.mem_singleton.mp sign
    · cases sign
  · exact .inl (Numeral.isDigit_digits _ character digit)

theorem intChars_ne_nil (value : Int) : Numeral.chars value ≠ [] :=
  fun empty => Nat.toDigits_ne_nil (List.append_eq_nil_iff.mp empty).2

theorem intChars_injective {first second : Int}
    (same : Numeral.chars first = Numeral.chars second) : first = second := by
  have sign (value : Int) : Numeral.splitSign (Numeral.chars value) =
      (decide (value < 0), Numeral.digits value.natAbs) := by
    unfold Numeral.chars Numeral.signChars
    by_cases negative : value < 0
    · simp only [negative, decide_true, if_true]
      rfl
    · simp only [negative, decide_false, Bool.false_eq_true, if_false, List.nil_append]
      exact Numeral.splitSign_digits (Numeral.isDigit_digits _)
  have parts := congrArg Numeral.splitSign same
  rw [sign, sign] at parts
  rcases Prod.mk.inj parts with ⟨sameSign, sameDigits⟩
  have sameSize := congrArg Numeral.ofDigits sameDigits
  rw [Numeral.ofDigits_digits, Numeral.ofDigits_digits] at sameSize
  have sameNegative := decide_eq_decide.mp sameSign
  omega

/-- The type of the value that a document is of. -/
def typeOf (characters : List Char) : String :=
  if characters.head? = some Text.doubleQuote then "str"
  else if characters.head? = some 'n' then "NoneType"
  else if characters.head? = some 't' ∨ characters.head? = some 'f' then "bool"
  else if '.' ∈ characters ∨ 'e' ∈ characters then "float"
  else "int"

theorem typeOf_numeric {characters : List Char}
    (numeric : forall character, character ∈ characters -> Binary64.IsNumeric character) :
    typeOf characters = if '.' ∈ characters ∨ 'e' ∈ characters then "float" else "int" := by
  have head {character : Char} (other : ¬ Binary64.IsNumeric character) :
      characters.head? ≠ some character :=
    fun found => other (numeric character (List.mem_of_mem_head? found))
  have quote : characters.head? ≠ some Text.doubleQuote :=
    head (by unfold Binary64.IsNumeric; decide)
  have nothing : characters.head? ≠ some 'n' := head (by unfold Binary64.IsNumeric; decide)
  have yes : characters.head? ≠ some 't' := head (by unfold Binary64.IsNumeric; decide)
  have no : characters.head? ≠ some 'f' := head (by unfold Binary64.IsNumeric; decide)
  simp only [typeOf, quote, nothing, yes, no, or_self, if_false]

/-- The document of a plain value shows its type, and it is a string or it is bare. -/
theorem write_plain {value : Value} (plain : value.IsPlain) {document : String}
    (writes : write value = .ok document) :
    typeOf document.toList = value.typeName ∧
      ((exists content, value = .text content ∧ document = string content) ∨
        IsBare document.toList) := by
  cases plain with
  | null =>
      cases writes
      exact ⟨by decide, .inr (isBare_of_all (by decide) (by decide))⟩
  | bool value =>
      cases writes
      cases value <;> exact ⟨by decide, .inr (isBare_of_all (by decide) (by decide))⟩
  | int value =>
      have digits : forall character, character ∈ Numeral.chars value ->
          Binary64.IsNumeric character :=
        fun character member => (numeric_intChars value character member).imp id
          fun minus => List.mem_cons.mpr (.inl minus)
      rw [intText_eq writes]
      refine ⟨?_, .inr (isBare_of_numeric (intChars_ne_nil value) digits)⟩
      have pointless : ¬ ('.' ∈ Numeral.chars value ∨ 'e' ∈ Numeral.chars value) := by
        rintro (point | letter)
        · exact absurd (numeric_intChars value '.' point) (by decide)
        · exact absurd (numeric_intChars value 'e' letter) (by decide)
      rw [typeOf_numeric digits, if_neg pointless]
      rfl
  | text content =>
      cases writes
      refine ⟨?_, .inl ⟨content, rfl, rfl⟩⟩
      rw [toList_string]
      rfl
  | @float negative significand exponent double =>
      obtain ⟨numeric, marked⟩ :=
        Binary64.numeric_finiteChars Binary64.documentLayout negative double
      cases writes
      simp only [float, String.toList_ofList]
      refine ⟨?_, .inr (isBare_of_numeric ?_ numeric)⟩
      · rw [typeOf_numeric numeric, if_pos marked]
        rfl
      · exact marked.elim List.ne_nil_of_mem List.ne_nil_of_mem

/-- Finite numbers of double precision with one shortest text are one number. -/
theorem float_injective {negative otherNegative : Bool} {significand other : Nat}
    {exponent otherExponent : Int} (double : Binary64.IsDouble significand exponent)
    (otherDouble : Binary64.IsDouble other otherExponent)
    (same : float (.finite negative significand exponent) =
      float (.finite otherNegative other otherExponent)) :
    Binary64.finite negative significand exponent =
      .finite otherNegative other otherExponent := by
  obtain ⟨rfl, rfl, rfl⟩ := Binary64.finiteChars_injective Binary64.documentLayout double
    otherDouble (String.ofList_injective same)
  rfl

/-- Plain values with one document are one value. -/
theorem write_injective {first second : Value} (firstPlain : first.IsPlain)
    (secondPlain : second.IsPlain) {document : String} (firstWrites : write first = .ok document)
    (secondWrites : write second = .ok document) : first = second := by
  have sameType := (write_plain firstPlain firstWrites).1.symm.trans
    (write_plain secondPlain secondWrites).1
  cases firstPlain <;> cases secondPlain <;>
    try (simp [Value.typeName] at sameType; done)
  case null.null => rfl
  case bool.bool value other =>
    cases firstWrites
    cases value <;> cases other <;>
      first | rfl | exact absurd (Except.ok.inj secondWrites) (by decide)
  case int.int value other =>
    exact congrArg Value.int
      (intChars_injective ((intText_eq firstWrites).symm.trans (intText_eq secondWrites)))
  case text.text content other =>
    exact congrArg Value.text
      (string_injective (Except.ok.inj (firstWrites.trans secondWrites.symm)))
  case float.float double _ _ _ otherDouble =>
    exact congrArg Value.float
      (float_injective double otherDouble (Except.ok.inj (firstWrites.trans secondWrites.symm)))

/-- What begins with the document of a plain value shows the value and what follows. -/
theorem write_unique {first second : Value} (firstPlain : first.IsPlain)
    (secondPlain : second.IsPlain) {document other : String} {rest others : List Char}
    (firstWrites : write first = .ok document) (secondWrites : write second = .ok other)
    (closes : Closes rest) (otherCloses : Closes others)
    (same : document.toList ++ rest = other.toList ++ others) :
    first = second ∧ rest = others := by
  rcases (write_plain firstPlain firstWrites).2 with ⟨content, rfl, rfl⟩ | bare
  · rcases (write_plain secondPlain secondWrites).2 with ⟨otherContent, rfl, rfl⟩ | otherBare
    · rcases string_unique same with ⟨rfl, sameRest⟩
      exact ⟨rfl, sameRest⟩
    · exact absurd (same ▸ head_string content rest) (otherBare.head others)
  · rcases (write_plain secondPlain secondWrites).2 with ⟨otherContent, rfl, rfl⟩ | otherBare
    · exact absurd (same.symm ▸ head_string otherContent others) (bare.head rest)
    · have sameDocument : document.toList = other.toList := by
        rw [← bare.takeWhile closes, same, otherBare.takeWhile otherCloses]
      rcases String.toList_injective sameDocument with rfl
      exact ⟨write_injective firstPlain secondPlain firstWrites secondWrites,
        List.append_cancel_left same⟩

/-! ## Objects -/

def writeMember (entry : String × Value) : Except Fault String := member (entry.1, write entry.2)

/-- The characters after a member of an object, if these members follow. -/
def afterMember : List String → List Char
  | [] => ['\x7d']
  | next :: rest => ',' :: (next.toList ++ afterMember rest)

theorem closes_afterMember (members : List String) : Closes (afterMember members) := by
  cases members with
  | nil => exact ⟨_, _, rfl, by decide⟩
  | cons next rest => exact ⟨_, _, rfl, by decide⟩

theorem intercalate_afterMember (first : String) (rest : List String) :
    [','].intercalate ((first :: rest).map String.toList) ++ ['\x7d'] =
      first.toList ++ afterMember rest := by
  induction rest generalizing first with
  | nil => simp [afterMember]
  | cons next rest inductionHypothesis =>
      have tail := inductionHypothesis next
      rw [List.map_cons, List.map_cons, List.intercalate_cons_cons, List.append_assoc,
        List.append_assoc, ← List.map_cons, tail]
      rfl

theorem toList_object (members : List String) :
    (object members).toList = '\x7b' :: match members with
      | [] => ['\x7d']
      | first :: rest => first.toList ++ afterMember rest := by
  have parts : (object members).toList =
      '\x7b' :: ([','].intercalate (members.map String.toList) ++ ['\x7d']) := by
    unfold object
    rw [String.toList_append, String.toList_append, String.toList_intercalate]
    rfl
  rw [parts]
  cases members with
  | nil => rfl
  | cons first rest => exact congrArg ('\x7b' :: ·) (intercalate_afterMember first rest)

theorem writeMember_eq {entry : String × Value} {written : String}
    (writes : writeMember entry = .ok written) :
    exists document, write entry.2 = .ok document ∧
      written.toList = (string entry.1).toList ++ ':' :: document.toList := by
  unfold writeMember member at writes
  cases document : write entry.2 with
  | error fault =>
      rw [document] at writes
      cases writes
  | ok content =>
      rw [document] at writes
      cases writes
      refine ⟨content, rfl, ?_⟩
      rw [String.toList_append, String.toList_append, List.append_assoc]
      rfl

theorem head_member {entry : String × Value} {written : String}
    (writes : writeMember entry = .ok written) (rest : List Char) :
    (written.toList ++ rest).head? = some Text.doubleQuote := by
  rcases writeMember_eq writes with ⟨document, -, form⟩
  rw [form, List.append_assoc]
  exact head_string entry.1 _

/-- What begins with a member shows the name, the value and what follows. -/
theorem member_unique {first second : String × Value} (firstPlain : first.2.IsPlain)
    (secondPlain : second.2.IsPlain) {written other : String} {rest others : List Char}
    (firstWrites : writeMember first = .ok written) (secondWrites : writeMember second = .ok other)
    (closes : Closes rest) (otherCloses : Closes others)
    (same : written.toList ++ rest = other.toList ++ others) :
    first = second ∧ rest = others := by
  rcases writeMember_eq firstWrites with ⟨document, writes, form⟩
  rcases writeMember_eq secondWrites with ⟨otherDocument, otherWrites, otherForm⟩
  rw [form, otherForm, List.append_assoc, List.append_assoc] at same
  rcases string_unique same with ⟨sameName, sameTail⟩
  obtain ⟨sameValue, sameRest⟩ := write_unique firstPlain secondPlain writes otherWrites closes
    otherCloses (List.cons.inj sameTail).2
  exact ⟨Prod.ext sameName sameValue, sameRest⟩

/-- Names and values with their members. -/
abbrev WritesMembers (entries : List (String × Value)) (members : List String) : Prop :=
  List.Forall₂ (fun entry written => writeMember entry = .ok written) entries members

theorem members_unique {first second : List (String × Value)} {members others : List String}
    (firstPlain : forall entry, entry ∈ first -> entry.2.IsPlain)
    (secondPlain : forall entry, entry ∈ second -> entry.2.IsPlain)
    (firstWrites : WritesMembers first members) (secondWrites : WritesMembers second others)
    (same : afterMember members = afterMember others) : first = second := by
  induction firstWrites generalizing second others with
  | nil =>
      cases secondWrites with
      | nil => rfl
      | cons _ _ => exact absurd (List.cons.inj same).1 (by decide)
  | cons writes _ inductionHypothesis =>
      cases secondWrites with
      | nil => exact absurd (List.cons.inj same).1 (by decide)
      | cons otherWrites rest =>
          obtain ⟨rfl, sameRest⟩ := member_unique (firstPlain _ List.mem_cons_self)
            (secondPlain _ List.mem_cons_self) writes otherWrites (closes_afterMember _)
            (closes_afterMember _) (List.cons.inj same).2
          rw [inductionHypothesis
            (fun entry member => firstPlain entry (List.mem_cons_of_mem _ member))
            (fun entry member => secondPlain entry (List.mem_cons_of_mem _ member)) rest sameRest]

/-- Objects with one document have the same members. -/
theorem object_unique {first second : List (String × Value)} {members others : List String}
    (firstPlain : forall entry, entry ∈ first -> entry.2.IsPlain)
    (secondPlain : forall entry, entry ∈ second -> entry.2.IsPlain)
    (firstWrites : WritesMembers first members) (secondWrites : WritesMembers second others)
    (same : object members = object others) : first = second := by
  have brace {entry : String × Value} {written : String} (writes : writeMember entry = .ok written)
      (rest : List Char) : ['\x7d'] ≠ written.toList ++ rest := by
    intro closed
    have head := head_member writes rest
    rw [← closed] at head
    exact absurd (Option.some.inj head) (by decide)
  have chars := congrArg String.toList same
  rw [toList_object, toList_object] at chars
  have tail := (List.cons.inj chars).2
  -- A comma before the first member makes both objects tails of longer ones.
  cases firstWrites with
  | nil =>
      cases secondWrites with
      | nil => rfl
      | cons writes _ => exact absurd tail (brace writes _)
  | cons writes rest =>
      cases secondWrites with
      | nil => exact absurd tail.symm (brace writes _)
      | cons otherWrites otherRest =>
          exact members_unique firstPlain secondPlain (.cons writes rest)
            (.cons otherWrites otherRest) (congrArg (',' :: ·) tail)

/-! ## Tables -/

/-- Names and values in the order in which they are written. -/
def inOrder (entries : List (String × Value)) : List (String × Value) :=
  entries.mergeSort fun first second => first.1 ≤ second.1

/-- The value that has these names and values as its entries. -/
def tableOf (entries : List (String × Value)) : Value :=
  .table (entries.map fun entry => (.text entry.1, entry.2))

theorem named_writeEntries (entries : List (String × Value)) :
    named (writeEntries (entries.map fun entry => (.text entry.1, entry.2))) =
      .ok (entries.map fun entry => (entry.1, write entry.2)) := by
  induction entries with
  | nil => rfl
  | cons entry rest inductionHypothesis =>
      simp only [List.map_cons, writeEntries, named, inductionHypothesis]
      rfl

theorem write_tableOf (entries : List (String × Value)) :
    write (tableOf entries) = object <$> (inOrder entries).mapM writeMember := by
  have sorted : (entries.map fun entry => (entry.1, write entry.2)).mergeSort memberLe =
      (inOrder entries).map fun entry => (entry.1, write entry.2) :=
    (List.map_mergeSort (r := fun first second : String × Value => first.1 ≤ second.1)
      (s := memberLe) (f := fun entry => (entry.1, write entry.2)) fun _ _ _ _ => rfl).symm
  simp only [tableOf, Value.table, write, objectOf, named_writeEntries]
  change object <$> List.mapM member _ = _
  rw [sorted, List.mapM_map]
  rfl

theorem writesMembers_of_mapM {entries : List (String × Value)} {members : List String}
    (writes : entries.mapM writeMember = .ok members) : WritesMembers entries members := by
  induction entries generalizing members with
  | nil =>
      cases writes
      exact .nil
  | cons entry rest inductionHypothesis =>
      rw [List.mapM_cons] at writes
      cases first : writeMember entry with
      | error fault =>
          rw [first] at writes
          cases writes
      | ok written =>
          rw [first] at writes
          cases others : rest.mapM writeMember with
          | error fault =>
              rw [others] at writes
              cases writes
          | ok later =>
              rw [others] at writes
              cases writes
              exact .cons first (inductionHypothesis others)

theorem mapM_of_writesMembers {entries : List (String × Value)} {members : List String}
    (writes : WritesMembers entries members) : entries.mapM writeMember = .ok members := by
  induction writes with
  | nil => rfl
  | cons first _ inductionHypothesis =>
      rw [List.mapM_cons, first, inductionHypothesis]
      rfl

/-- A table has a document if and only if its entries have members, which make the document. -/
theorem encode_tableOf {entries : List (String × Value)} {document : String} :
    encode (tableOf entries) = .ok document ↔
      exists members, WritesMembers (inOrder entries) members ∧ document = object members := by
  unfold encode
  rw [write_tableOf]
  constructor
  · intro encodes
    cases writes : (inOrder entries).mapM writeMember with
    | error fault =>
        simp only [writes, Functor.map, Except.map] at encodes
        split at encodes <;> cases encodes
    | ok members =>
        rw [writes] at encodes
        cases encodes
        exact ⟨members, writesMembers_of_mapM writes, rfl⟩
  · rintro ⟨members, writes, rfl⟩
    rw [mapM_of_writesMembers writes]
    rfl

theorem inOrder_perm (entries : List (String × Value)) : (inOrder entries).Perm entries :=
  List.mergeSort_perm _ _

/-- The order of the names is the order of the entries, as no name is given twice. -/
theorem inOrder_congr {first second : List (String × Value)}
    (distinct : (first.map Prod.fst).Nodup) (same : first.Perm second) :
    inOrder first = inOrder second := by
  have sorted (entries : List (String × Value)) :
      (inOrder entries).Pairwise fun entry other => entry.1 ≤ other.1 := by
    refine (List.pairwise_mergeSort ?_ ?_ entries).imp fun le => of_decide_eq_true le
    · intro entry middle other below above
      exact decide_eq_true (String.le_trans (of_decide_eq_true below) (of_decide_eq_true above))
    · intro entry other
      simpa using String.le_total entry.1 other.1
  refine List.Perm.eq_of_pairwise ?_ (sorted first) (sorted second)
    ((inOrder_perm first).trans (same.trans (inOrder_perm second).symm))
  intro entry other member otherMember below above
  refine List.inj_on_of_nodup_map distinct ((inOrder_perm first).mem_iff.mp member) ?_
    (String.le_antisymm below above)
  exact same.mem_iff.mpr ((inOrder_perm second).mem_iff.mp otherMember)

/-- Two tables of plain values have one document if and only if their entries are the same, in
whatever order. -/
theorem encode_tableOf_eq_iff {first second : List (String × Value)}
    (firstPlain : forall entry, entry ∈ first -> entry.2.IsPlain)
    (secondPlain : forall entry, entry ∈ second -> entry.2.IsPlain)
    (distinct : (first.map Prod.fst).Nodup) {document other : String}
    (firstEncodes : encode (tableOf first) = .ok document)
    (secondEncodes : encode (tableOf second) = .ok other) :
    document = other ↔ first.Perm second := by
  constructor
  · rcases encode_tableOf.mp firstEncodes with ⟨members, writes, rfl⟩
    rcases encode_tableOf.mp secondEncodes with ⟨others, otherWrites, rfl⟩
    intro same
    have sameEntries := object_unique
      (fun entry member => firstPlain entry ((inOrder_perm first).mem_iff.mp member))
      (fun entry member => secondPlain entry ((inOrder_perm second).mem_iff.mp member))
      writes otherWrites same
    exact (inOrder_perm first).symm.trans (sameEntries ▸ inOrder_perm second)
  · intro same
    have tables : encode (tableOf first) = encode (tableOf second) := by
      unfold encode
      rw [write_tableOf, write_tableOf, inOrder_congr distinct same]
    exact Except.ok.inj (firstEncodes.symm.trans (tables.trans secondEncodes))

/-- A whole number that is not too long to be written. -/
def IsWritable (value : Value) : Prop :=
  forall number, value = .int number ->
    (Numeral.digits number.natAbs).length ≤ Numeral.digitLimit

theorem exists_write_iff {value : Value} (plain : value.IsPlain) :
    (exists document, write value = .ok document) ↔ IsWritable value := by
  cases plain with
  | int number =>
      have text : write (.int number) = Value.intText number := rfl
      rw [text]
      unfold Value.intText Numeral.write? IsWritable
      by_cases short : (Numeral.digits number.natAbs).length ≤ Numeral.digitLimit
      · rw [if_pos short]
        refine ⟨fun _ other same => ?_, fun _ => ⟨_, rfl⟩⟩
        cases same
        exact short
      · rw [if_neg short]
        refine ⟨fun ⟨_, writes⟩ => ?_, fun all => absurd (all number rfl) short⟩
        cases writes
  | null => exact ⟨fun _ _ same => (nomatch same), fun _ => ⟨_, rfl⟩⟩
  | bool _ => exact ⟨fun _ _ same => (nomatch same), fun _ => ⟨_, rfl⟩⟩
  | text _ => exact ⟨fun _ _ same => (nomatch same), fun _ => ⟨_, rfl⟩⟩
  | float _ _ => exact ⟨fun _ _ same => (nomatch same), fun _ => ⟨_, rfl⟩⟩

theorem exists_writeMember_iff {entry : String × Value} :
    (exists written, writeMember entry = .ok written) ↔
      exists document, write entry.2 = .ok document := by
  constructor
  · rintro ⟨written, writes⟩
    rcases writeMember_eq writes with ⟨document, found, -⟩
    exact ⟨document, found⟩
  · rintro ⟨document, writes⟩
    unfold writeMember member
    rw [writes]
    exact ⟨_, rfl⟩

theorem exists_writesMembers_iff {entries : List (String × Value)} :
    (exists members, WritesMembers entries members) ↔
      forall entry, entry ∈ entries -> exists written, writeMember entry = .ok written := by
  induction entries with
  | nil => exact ⟨fun _ entry member => (nomatch member), fun _ => ⟨[], .nil⟩⟩
  | cons first rest inductionHypothesis =>
      rw [List.forall_mem_cons, ← inductionHypothesis]
      constructor
      · rintro ⟨members, writes⟩
        cases writes with
        | cons writes others => exact ⟨⟨_, writes⟩, _, others⟩
      · rintro ⟨⟨written, writes⟩, members, others⟩
        exact ⟨written :: members, .cons writes others⟩

/-- A table of plain values has a document unless a whole number in it is too long. -/
theorem exists_encode_tableOf_iff {entries : List (String × Value)}
    (plain : forall entry, entry ∈ entries -> entry.2.IsPlain) :
    (exists document, encode (tableOf entries) = .ok document) ↔
      forall entry, entry ∈ entries -> IsWritable entry.2 := by
  have writes : (exists document, encode (tableOf entries) = .ok document) ↔
      exists members, WritesMembers (inOrder entries) members := by
    simp only [encode_tableOf]
    exact ⟨fun ⟨_, members, writes, _⟩ => ⟨members, writes⟩,
      fun ⟨members, writes⟩ => ⟨_, members, writes, rfl⟩⟩
  rw [writes, exists_writesMembers_iff]
  refine forall_congr' fun entry => ?_
  rw [(inOrder_perm entries).mem_iff, exists_writeMember_iff]
  exact forall_congr' fun member => exists_write_iff (plain entry member)

end Json
end SqlGateway
