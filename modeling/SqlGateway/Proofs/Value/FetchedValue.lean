import SqlGateway.Proofs.Number.Overflow
import SqlGateway.Proofs.Fault.Conversion

namespace SqlGateway

/-!
# Faults of fetched values

A scalar that has no form of the kind of its column is to be reported as a fault of the database.
All converters keep to that: whatever goes wrong in them is the reason of such a fault.

The report itself shows the value, however, and a whole number with too many digits cannot be
shown.  If such a number has no form of the kind, the failed report takes the place of the fault.
A number of that size has no text, and it is out of the range of double precision numbers, so of
the five kinds only whole numbers and decimals take it.  It escapes as well from an undeclared
column that is stringified, where nothing stands around the conversion.
-/

namespace TypeCode

/-- The name of the type of fetched values of a kind. -/
def fetchedName : TypeCode -> String
  | .integer => "int"
  | .float => "float"
  | .decimal => "Decimal"
  | .string => "str"
  | .blob => "bytes"

end TypeCode

namespace Value

/-- Scalars: what a column can hold. -/
inductive IsScalar : Value -> Prop where
  | null : IsScalar .null
  | bool (value : Bool) : IsScalar (.bool value)
  | int (value : Int) : IsScalar (.int value)
  | float (value : Binary64) : IsScalar (.float value)
  | decimal (value : Decimal) : IsScalar (.decimal value)
  | text (value : String) : IsScalar (.text value)
  | brokenText (value : BrokenText) : IsScalar (.brokenText value)
  | bytes (form : BytesForm) (content : Bytes) : IsScalar (.bytes form content)
  | date (value : Date) : IsScalar (.date value)
  | time (value : TimeOfDay) : IsScalar (.time value)
  | dateTime (value : DateTime) : IsScalar (.dateTime value)

/-- Whether the value is a whole number with more digits than are converted to text. -/
def IsLong : Value -> Prop
  | .int value => Numeral.digitLimit < (Numeral.digits value.natAbs).length
  | _ => False

instance (value : Value) : Decidable value.IsLong := by
  cases value <;> unfold IsLong <;> infer_instance

theorem intText_of_long {value : Int} (long : (Value.int value).IsLong) :
    intText value = .error (.bare .badValue) := by
  rw [intText, Numeral.write?, if_neg (not_le.mpr long)]

/-- Every other scalar can be shown. -/
theorem display_of_isScalar {value : Value} (scalar : value.IsScalar) (short : ¬ value.IsLong) :
    exists shown, value.display = .ok shown := by
  cases scalar with
  | int number =>
      refine ⟨String.ofList (Numeral.chars number), ?_⟩
      rw [display, intText, Numeral.write?, if_pos (not_lt.mp short)]
  | _ => exact ⟨_, rfl⟩

end Value

namespace Column

variable {value : Value}

/-! ## Values of a kind -/

/-- A value that is made from a content in one form has that form. -/
theorem exists_form {content : Except Fault α} {form : α -> Value} {converted : Value}
    (made : (do return form (← content)) = Except.ok converted) :
    exists found, form found = converted := by
  cases content with
  | error fault => cases made
  | ok found => exact ⟨found, Except.ok.inj made⟩

theorem typeName_of_toText {converted : Value} (present : value.isNull = false)
    (made : toText value = .ok converted) : converted.typeName = "str" := by
  cases value with
  | null => cases present
  | text | brokenText | bool =>
      cases made
      rfl
  | _ =>
      rcases exists_form made with ⟨found, rfl⟩
      rfl

/-- Every value of a column is of the type of the column's kind. -/
theorem typeName_of_convertTo {converted : Value} (declared : TypeCode)
    (present : value.isNull = false) (made : convertTo declared value = .ok converted) :
    converted.typeName = declared.fetchedName := by
  cases declared with
  | string => exact typeName_of_toText present made
  | integer | float | decimal | blob =>
      rcases exists_form made with ⟨found, rfl⟩
      rfl

/-! ## Failed conversions -/

/-- The fault of a scalar is one of those that are reported. -/
theorem isConversion_of_isScalar (scalar : value.IsScalar) {declared : TypeCode} {reason : Fault}
    (failed : convertTo declared value = .error reason) : reason.kind.isConversion = true := by
  rcases convertTo_fails declared value reason failed with conversion | ⟨-, refuses⟩
  · exact conversion.kind_isConversion
  · rw [refuses] at scalar
    cases scalar

/-- A failed conversion is a fault of the database if the value can be shown. -/
theorem kind_of_conversionFault (scalar : value.IsScalar) (short : ¬ value.IsLong)
    (declared : TypeCode) (reason : Fault) :
    (conversionFault value declared reason).kind = .library .database := by
  rcases Value.display_of_isScalar scalar short with ⟨shown, displayed⟩
  rw [conversionFault, displayed]
  rfl

/-- If the value is too long to be shown, this is the fault that is left. -/
theorem conversionFault_of_long {number : Int} (long : (Value.int number).IsLong)
    (declared : TypeCode) (reason : Fault) :
    conversionFault (.int number) declared reason = .bare .badValue := by
  rw [conversionFault, Value.display, Value.intText_of_long long]

theorem toText_of_long {number : Int} (long : (Value.int number).IsLong) :
    (Value.int number).toText = .error (.bare .badValue) := by
  simp only [Value.toText, Value.display, Value.intText_of_long long]

/-- A number that is too long to be shown is out of the range of double precision numbers. -/
theorem floatOfInt_of_long {number : Int} (long : (Value.int number).IsLong) :
    floatOfInt number = .error (.bare .outOfRange) := by
  rcases (Binary64.ofInt_infinite_iff number).mpr (Binary64.overflowBound_le_of_long long)
    with ⟨negative, infinite⟩
  rw [floatOfInt, infinite]

/-- Whether a column of the kind takes no whole number that is too long to be written. -/
def refusesLong : Option TypeCode -> Bool -> Bool
  | none, stringified => stringified
  | some .integer, _ => false
  | some .decimal, _ => false
  | some _, _ => true

theorem convertTo_of_long {number : Int} (long : (Value.int number).IsLong) (declared : TypeCode)
    (stringified : Bool) :
    (exists reason, convertTo declared (.int number) = .error reason) ↔
      refusesLong (some declared) stringified = true := by
  cases declared with
  | integer | decimal => exact iff_of_false (fun ⟨_, failed⟩ => nomatch failed) Bool.false_ne_true
  | float =>
      refine iff_of_true ⟨.bare .outOfRange, ?_⟩ rfl
      simp only [convertTo, toFloat, floatOfInt_of_long long]
      rfl
  | string =>
      refine iff_of_true ⟨.bare .badValue, ?_⟩ rfl
      simp only [convertTo, toText, stringify, toText_of_long long]
      rfl
  | blob =>
      refine iff_of_true ⟨.bare .badValue, ?_⟩ rfl
      simp only [convertTo, toBytes, toText_of_long long]
      rfl

/-- Where no long number is taken, it is not reported as a fault of the database. -/
theorem convert_of_long {number : Int} (long : (Value.int number).IsLong)
    {declared : Option TypeCode} {stringified : Bool}
    (refused : refusesLong declared stringified = true) :
    convert (.int number) declared stringified = .error (.bare .badValue) := by
  have present : (Value.int number).isNull = false := rfl
  cases declared with
  | none =>
      have wanted : stringified = true := refused
      simp only [convert, present, wanted, stringify, toText_of_long long]
      rfl
  | some code =>
      rcases (convertTo_of_long long code stringified).mpr refused with ⟨reason, failed⟩
      have reported := isConversion_of_isScalar (.int number) failed
      simp only [convert, present, failed, reported, conversionFault_of_long long, if_true]
      rfl

/-- Every other failure is a fault of the database. -/
theorem kind_of_convert (scalar : value.IsScalar) {declared : Option TypeCode}
    {stringified : Bool} (taken : ¬ (value.IsLong ∧ refusesLong declared stringified = true))
    {fault : Fault} (failed : convert value declared stringified = .error fault) :
    fault.kind = .library .database := by
  unfold convert at failed
  split at failed
  · cases failed
  · cases declared with
    | none =>
        cases stringified with
        | false => cases failed
        | true =>
            have short : ¬ value.IsLong := fun long => taken ⟨long, rfl⟩
            change stringify value = .error fault at failed
            cases scalar with
            | int number =>
                rcases Value.display_of_isScalar (.int number) short with ⟨shown, displayed⟩
                simp only [stringify, Value.toText, displayed] at failed
                cases failed
            | _ => cases failed
    | some code =>
        dsimp only at failed
        split at failed
        · cases failed
        · next reason unconverted =>
          have short : ¬ value.IsLong := by
            intro long
            cases scalar with
            | int number =>
                exact taken ⟨long, (convertTo_of_long long code stringified).mp ⟨_, unconverted⟩⟩
            | _ => exact long
          rw [if_pos (isConversion_of_isScalar scalar unconverted)] at failed
          cases failed
          exact kind_of_conversionFault scalar short code reason

end Column
end SqlGateway
