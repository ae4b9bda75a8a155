import SqlGateway.Column
import SqlGateway.Parameter

namespace SqlGateway

/-!
# Texts that are bound and texts that are fetched

A value can become text in three ways: it is bound to a placeholder for text, it is fetched
from a column that is declared as text, or it is fetched from an undeclared column of a
connection that wants all columns as text.

The two ways of fetching are one: both end in `Column.stringify`.  Binding has a conversion of
its own.  It writes every value as `Column.stringify` does, with one exception: a moment is
bound with the letter T between day and time of day, and fetched with a blank there.  The texts
of a moment that differ in this character only are never equal, so a moment that was read as
text does not bind as the moment itself.
-/

namespace DateTime

/-- The separator can be told from the text. -/
theorem writeWith_inj (moment : DateTime) (first second : Char) :
    moment.writeWith first = moment.writeWith second ↔ first = second := by
  constructor
  · intro same
    have sameChars := String.ofList_injective same
    exact (List.cons.inj (List.append_cancel_left sameChars)).1
  · intro same
    rw [same]

end DateTime

namespace Value

/-- Scalars that have a text: texts, truth values, numbers, days, times of day and moments.
A whole number must not have more digits than are converted to text. -/
inductive IsWritten : Value → Prop where
  | text (value : String) : IsWritten (.text value)
  | brokenText (value : BrokenText) : IsWritten (.brokenText value)
  | bool (value : Bool) : IsWritten (.bool value)
  | int (value : Int) (short : (Numeral.digits value.natAbs).length ≤ Numeral.digitLimit) :
      IsWritten (.int value)
  | float (value : Binary64) : IsWritten (.float value)
  | decimal (value : Decimal) : IsWritten (.decimal value)
  | date (value : Date) : IsWritten (.date value)
  | time (value : TimeOfDay) : IsWritten (.time value)
  | dateTime (value : DateTime) : IsWritten (.dateTime value)

/-- The texts that a value may become; only a text with surrogates becomes one. -/
inductive IsTextOf (value : Value) : Value → Prop where
  | text (written : String) : IsTextOf value (.text written)
  | brokenText (written : BrokenText) (same : value = .brokenText written) :
    IsTextOf value (.brokenText written)

/-- Whether the value is a moment, a day together with a time of day. -/
def IsMoment (value : Value) : Prop := exists moment, value = .dateTime moment

theorem intText_of_short {value : Int}
    (short : (Numeral.digits value.natAbs).length ≤ Numeral.digitLimit) :
    intText value = .ok (String.ofList (Numeral.chars value)) := by
  rw [intText, Numeral.write?, if_pos short]

end Value

variable {value : Value}

namespace Column

/-- Scalars with a text are stringified to a text. -/
theorem stringify_of_isWritten (written : value.IsWritten) :
    exists fetched, stringify value = .ok fetched ∧ value.IsTextOf fetched := by
  cases written with
  | int number short =>
      refine ⟨.text (String.ofList (Numeral.chars number)), ?_, .text _⟩
      simp only [stringify, Value.toText, Value.display, Value.intText_of_short short]
      rfl
  | brokenText content => exact ⟨_, rfl, .brokenText content rfl⟩
  | _ => exact ⟨_, rfl, .text _⟩

/-- Declared or not, a column that is fetched as text is stringified. -/
theorem convert_of_isWritten (written : value.IsWritten) {fetched : Value}
    (stringified : stringify value = .ok fetched) :
    (forall setting, convert value (some .string) setting = .ok fetched) ∧
      convert value none true = .ok fetched := by
  have present : value.isNull = false := by
    cases written <;> rfl
  have sameText : toText value = stringify value := by
    cases written <;> rfl
  constructor
  · intro setting
    simp only [convert, present, convertTo, sameText, stringified, Bool.false_eq_true, if_false]
  · simp only [convert, present, stringified, Bool.false_eq_true, if_false, if_true]

end Column

namespace Parameter

/-- A scalar binds as its text form. -/
theorem coerce_of_isWritten (written : value.IsWritten) :
    coerce .string value .none = textForm value := by
  cases written with
  | int number short =>
      change (do return Coercion.none.apply (← textForm (.int number))) = _
      rw [textForm, Value.intText_of_short short]
      rfl
  | _ => rfl

/-- Only moments have a text form of their own. -/
theorem textForm_eq_stringify (written : value.IsWritten) (noMoment : ¬ value.IsMoment) :
    textForm value = Column.stringify value := by
  cases written with
  | int number short => simp only [textForm, Column.stringify, Value.toText, Value.display]
  | dateTime moment => exact absurd ⟨moment, rfl⟩ noMoment
  | _ => rfl

/-- A text binds as it is. -/
theorem coerce_of_isTextOf {text : Value} (isText : value.IsTextOf text) :
    coerce .string text .none = .ok text := by
  cases isText <;> rfl

/-- A scalar with a text is bound as text and fetched as text, from a declared column as from
an undeclared one that is stringified.  The bound text and the fetched text are the same, and
what was fetched binds as the scalar itself, if and only if the scalar is no moment. -/
theorem bound_eq_fetched_iff (value : Value) (written : value.IsWritten) :
    exists bound fetched : Value,
      value.IsTextOf bound ∧ value.IsTextOf fetched ∧
      coerce .string value .none = .ok bound ∧
      (forall setting, Column.convert value (some .string) setting = .ok fetched) ∧
      Column.convert value none true = .ok fetched ∧
      (bound = fetched ↔ ¬ value.IsMoment) ∧
      (forall moment, value = .dateTime moment ->
        bound = .text (moment.writeWith 'T') ∧ fetched = .text (moment.writeWith ' ')) ∧
      (coerce .string fetched .none = coerce .string value .none ↔ ¬ value.IsMoment) := by
  rcases Column.stringify_of_isWritten written with ⟨fetched, stringified, isText⟩
  rcases Column.convert_of_isWritten written stringified with ⟨declared, undeclared⟩
  have bindsAsItself := coerce_of_isTextOf isText
  by_cases isMoment : value.IsMoment
  · rcases isMoment with ⟨moment, rfl⟩
    cases stringified
    have different : Value.text (moment.writeWith 'T') ≠ .text (moment.writeWith ' ') := by
      rw [Ne, Value.text.injEq, moment.writeWith_inj]
      decide
    have moments : (Value.dateTime moment).IsMoment := ⟨moment, rfl⟩
    refine ⟨.text (moment.writeWith 'T'), .text (moment.writeWith ' '), .text _, isText, rfl,
      declared, undeclared, ?_, ?_, ?_⟩
    · exact iff_of_false different (not_not_intro moments)
    · intro other same
      cases same
      exact ⟨rfl, rfl⟩
    · apply iff_of_false _ (not_not_intro moments)
      intro same
      rw [bindsAsItself, coerce_of_isWritten written] at same
      exact different (Except.ok.inj same).symm
  · have bindsAlike : coerce .string value .none = .ok fetched := by
      rw [coerce_of_isWritten written, textForm_eq_stringify written isMoment, stringified]
    refine ⟨fetched, fetched, isText, isText, bindsAlike, declared, undeclared, ?_, ?_, ?_⟩
    · exact iff_of_true rfl isMoment
    · intro moment same
      exact absurd ⟨moment, same⟩ isMoment
    · rw [bindsAsItself, bindsAlike]
      exact iff_of_true rfl isMoment

/-- The numeral of a whole number is fetched as it was bound. -/
theorem bound_eq_fetched_int :
    (Value.int (-7)).IsWritten ∧
      exists bound fetched : Value,
        coerce .string (.int (-7)) .none = .ok bound ∧
        Column.convert (.int (-7)) none true = .ok fetched ∧ bound = fetched := by
  have written : (Value.int (-7)).IsWritten := .int (-7) (by decide)
  rcases bound_eq_fetched_iff (.int (-7)) written with
    ⟨bound, fetched, -, -, binds, -, undeclared, same, -, -⟩
  refine ⟨written, bound, fetched, binds, undeclared, same.mpr ?_⟩
  rintro ⟨moment, isMoment⟩
  cases isMoment

/-- The text of a moment is fetched with a blank and bound with a letter. -/
theorem bound_ne_fetched_moment :
    let moment : Value := .dateTime ⟨⟨2024, 1, 2⟩, ⟨3, 4, 5, 0, none⟩⟩
    coerce .string moment .none = .ok (.text "2024-01-02T03:04:05") ∧
      Column.convert moment (some .string) false = .ok (.text "2024-01-02 03:04:05") ∧
      Column.convert moment none true = .ok (.text "2024-01-02 03:04:05") ∧
      "2024-01-02T03:04:05" ≠ "2024-01-02 03:04:05" := by
  refine ⟨rfl, rfl, rfl, by decide⟩

end Parameter
end SqlGateway
