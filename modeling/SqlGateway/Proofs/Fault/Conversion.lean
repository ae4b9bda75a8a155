import SqlGateway.Column
import SqlGateway.Value.Conversion

namespace SqlGateway

/-!
# Faults of conversions

A value that has no form of some kind makes its conversion fail with a fault of one of the kinds
for that, which was caused by nothing else.  A fetched value is converted behind a guard that
turns these faults into reports.  One conversion may fail otherwise: for bytes a large object is
read first, and the guard lets through what the driver fails with then.
-/

/-- A result whose fault, if it is one, has a property. -/
def FailsOnly {α : Type} (allowed : Fault → Prop) (found : Except Fault α) : Prop :=
  forall fault, found = .error fault -> allowed fault

namespace FailsOnly

variable {α β : Type} {allowed wider : Fault → Prop} {found : Except Fault α} {fault : Fault}

theorem ok (value : α) : FailsOnly allowed (.ok value : Except Fault α) := nofun

theorem error (free : allowed fault) : FailsOnly allowed (.error fault : Except Fault α) := by
  intro other same
  cases same
  exact free

theorem bind {next : α → Except Fault β} (fails : FailsOnly allowed found)
    (rest : forall value, FailsOnly allowed (next value)) :
    FailsOnly allowed (found >>= next) := by
  cases found with
  | error fault => exact error (fails fault rfl)
  | ok value => exact rest value

theorem mono (fails : FailsOnly allowed found)
    (weaker : forall fault, allowed fault -> wider fault) : FailsOnly wider found :=
  fun fault same => weaker fault (fails fault same)

end FailsOnly

/-- A fault of a conversion: of one of the kinds for that, and caused by nothing. -/
inductive Fault.IsConversion : Fault → Prop where
  | bare (kind : ForeignKind) (isConversion : (FaultKind.foreign kind).isConversion = true) :
    IsConversion (.bare kind)

theorem Fault.IsConversion.kind_isConversion {fault : Fault} (conversion : fault.IsConversion) :
    fault.kind.isConversion = true := by
  cases conversion with
  | bare kind isConversion => exact isConversion

/-- A result that is no fault but one of a conversion. -/
abbrev Converts {α : Type} (found : Except Fault α) : Prop := FailsOnly Fault.IsConversion found

theorem Converts.error {α : Type} {kind : ForeignKind}
    (isConversion : (FaultKind.foreign kind).isConversion = true) :
    Converts (.error (.bare kind) : Except Fault α) :=
  FailsOnly.error (.bare kind isConversion)

/-! ## Values as texts and as numbers -/

namespace Value

theorem intText_converts (value : Int) : Converts (intText value) := by
  unfold intText
  split
  · exact .ok _
  · exact .error rfl

mutual

theorem display_converts : forall value : Value, Converts value.display
  | .null | .bool _ | .float _ | .decimal _ | .text _ | .brokenText _ | .bytes _ _ | .date _
  | .time _ | .dateTime _ | .locator _ | .foreign _ => .ok _
  | .int value => intText_converts value
  | .collection _ items => .bind (displayItems_converts items) fun _ => .ok _
  | .mapping _ entries => .bind (displayEntries_converts entries) fun _ => .ok _
  | .record fields => .bind (displayFields_converts fields) fun _ => .ok _
  | .bound _ value => .bind (display_converts value) fun _ => .ok _

theorem displayItems_converts : forall items : List Value, Converts (displayItems items)
  | [] => .ok _
  | item :: rest =>
    .bind (display_converts item) fun _ => .bind (displayItems_converts rest) fun _ => .ok _

theorem displayEntries_converts : forall entries : List (Value × Value), Converts (displayEntries entries)
  | [] => .ok _
  | (key, value) :: rest =>
    .bind (display_converts key) fun _ => .bind (display_converts value) fun _ =>
      .bind (displayEntries_converts rest) fun _ => .ok _

theorem displayFields_converts : forall fields : List (String × Value), Converts (displayFields fields)
  | [] => .ok _
  | (_, value) :: rest =>
    .bind (display_converts value) fun _ => .bind (displayFields_converts rest) fun _ => .ok _

end

theorem toText_converts (value : Value) : Converts value.toText := by
  cases value with
  | mapping form entries => exact .bind (displayEntries_converts entries) fun _ => .ok _
  | text | brokenText | decimal | date | time | dateTime | locator | foreign => exact .ok _
  | _ => exact display_converts _

theorem intOfBytes_converts (content : Bytes) : Converts (intOfBytes content) := by
  unfold intOfBytes
  simp only
  split
  · split
    · exact .ok _
    · exact .error rfl
  · exact .error rfl

end Value

namespace Column

open Value (toText_converts)

theorem bytesText_converts (content : Bytes) : Converts (bytesText content) := by
  unfold bytesText
  split
  · exact .ok _
  · exact .error rfl

theorem intOfDecimal_converts (value : Decimal) : Converts (intOfDecimal value) := by
  cases value with
  | finite negative coefficient exponent => exact .ok _
  | infinite negative => exact .error rfl
  | nan negative signaling payload => exact .error rfl

theorem intOfFloat_converts (value : Binary64) : Converts (intOfFloat value) := by
  cases value with
  | finite negative significand exponent => exact .ok _
  | infinite negative => exact .error rfl
  | nan => exact .error rfl

theorem decimalOfText_converts (text : String) : Converts (decimalOfText text) := by
  unfold decimalOfText
  split
  · exact .ok _
  · exact .error rfl

theorem intOfText_converts (text : String) : Converts (intOfText text) := by
  unfold intOfText
  split
  · exact .ok _
  · exact .bind (decimalOfText_converts text) fun number => intOfDecimal_converts number

theorem floatOfText_converts (text : String) : Converts (floatOfText text) := by
  unfold floatOfText
  split
  · exact .ok _
  · exact .error rfl

theorem floatOfInt_converts (value : Int) : Converts (floatOfInt value) := by
  unfold floatOfInt
  split
  · exact .error rfl
  · exact .ok _

theorem floatOfDecimal_converts (value : Decimal) : Converts (floatOfDecimal value) := by
  cases value with
  | finite negative coefficient exponent => exact .ok _
  | infinite negative => exact .ok _
  | nan negative signaling payload =>
      cases signaling with
      | true => exact .error rfl
      | false => exact .ok _

theorem toInteger_converts (value : Value) : Converts (toInteger value) := by
  unfold toInteger
  split
  · exact .ok _
  · exact .ok _
  · exact intOfFloat_converts _
  · exact intOfDecimal_converts _
  · exact .bind (bytesText_converts _) fun text => intOfText_converts _
  · exact .bind (toText_converts _) fun text => intOfText_converts _

theorem toFloat_converts (value : Value) : Converts (toFloat value) := by
  cases value with
  | bool | int => exact floatOfInt_converts _
  | float => exact .ok _
  | decimal number => exact floatOfDecimal_converts number
  | text content => exact floatOfText_converts content
  | bytes form content =>
      exact .bind (bytesText_converts content) fun text => floatOfText_converts text
  | _ => exact .error rfl

theorem toDecimal_converts (value : Value) : Converts (toDecimal value) := by
  unfold toDecimal
  split
  · exact .ok _
  · exact .ok _
  · exact .ok _
  · exact decimalOfText_converts _
  · exact .bind (bytesText_converts _) fun text => decimalOfText_converts _
  · exact .bind (toText_converts _) fun text => decimalOfText_converts _

theorem stringify_converts (value : Value) : Converts (stringify value) := by
  cases value with
  | null | bool | text | brokenText | bytes => exact .ok _
  | _ => exact .bind (toText_converts _) fun _ => .ok _

theorem toText_converts (value : Value) : Converts (Column.toText value) := by
  unfold Column.toText
  split
  · exact .bind (bytesText_converts _) fun _ => .ok _
  · exact stringify_converts _

theorem bytesOfNumbers_converts (values : List Value) : Converts (bytesOfNumbers values) := by
  induction values with
  | nil => exact .ok _
  | cons value rest inductionHypothesis =>
      have checked (number : Int) : Converts (do
          if number < 0 ∨ 255 < number then throw (Fault.bare .badValue)
          return UInt8.ofNat number.toNat :: (← bytesOfNumbers rest)) := by
        split
        · exact .error rfl
        · exact .bind inductionHypothesis fun _ => .ok _
      unfold bytesOfNumbers
      split
      · exact checked _
      · exact checked _
      · exact .error rfl

theorem zeroBytes_converts (count : Int) : Converts (zeroBytes count) := by
  unfold zeroBytes
  split
  · exact .error rfl
  · split
    · exact .error rfl
    · exact .ok _

theorem bytesOfContent_converts (value : Value) : Converts (bytesOfContent value) := by
  cases value with
  | text | bytes => exact .ok _
  | bool | int => exact zeroBytes_converts _
  | collection | mapping => exact bytesOfNumbers_converts _
  | _ => exact .error rfl

/-- A large object that cannot be read lets its own fault through. -/
theorem toBytes_fails (value : Value) :
    FailsOnly (fun fault => fault.IsConversion ∨ value = .locator (.error fault))
      (toBytes value) := by
  cases value with
  | locator content =>
      cases content with
      | error fault => exact .error (.inr rfl)
      | ok content => exact (bytesOfContent_converts content).mono fun _ => .inl
  | text | bytes => exact .ok _
  | brokenText => exact .error (.inl (.bare _ rfl))
  | _ => exact .bind ((Value.toText_converts _).mono fun _ => .inl) fun _ => .ok _

theorem convertTo_fails (code : TypeCode) (value : Value) :
    FailsOnly
      (fun fault => fault.IsConversion ∨ code = .blob ∧ value = .locator (.error fault))
      (convertTo code value) := by
  have converts {found : Except Fault Value} (fails : Converts found) :
      FailsOnly (fun fault => fault.IsConversion ∨ code = .blob ∧ value = .locator (.error fault))
        found :=
    fails.mono fun _ => .inl
  cases code with
  | integer => exact converts (.bind (toInteger_converts value) fun _ => .ok _)
  | float => exact converts (.bind (toFloat_converts value) fun _ => .ok _)
  | decimal => exact converts (.bind (toDecimal_converts value) fun _ => .ok _)
  | string => exact converts (toText_converts value)
  | blob =>
      refine .bind ((toBytes_fails value).mono fun fault fails => ?_) fun _ => .ok _
      exact fails.imp id fun unread => ⟨rfl, unread⟩

/-- How a fetched value fails to convert. -/
inductive Fails (value : Value) (code : Option TypeCode) : Fault → Prop where
  /-- The value has no text. -/
  | untold {fault : Fault} (conversion : fault.IsConversion) : Fails value code fault
  /-- The value has no form of the declared kind, which is reported. -/
  | reported (message : String) {reason : Fault} (converts : reason.kind.isConversion = true)
    (source : reason.IsConversion ∨ value = .locator (.error reason)) :
    Fails value code ((Fault.of .database message).because reason)
  /-- A large object in a column of bytes cannot be read. -/
  | unread {fault : Fault} (isBlob : code = some .blob) (refuses : value = .locator (.error fault))
    (foreign : fault.kind.isConversion = false) : Fails value code fault

theorem conversionFault_fails (value : Value) (code : TypeCode) {reason : Fault}
    (converts : reason.kind.isConversion = true)
    (source : reason.IsConversion ∨ value = .locator (.error reason)) :
    Fails value (some code) (conversionFault value code reason) := by
  unfold conversionFault
  split
  · exact .reported _ converts source
  · next fault fails => exact .untold (Value.display_converts value fault fails)

theorem convert_fails (value : Value) (code : Option TypeCode) (stringified : Bool) :
    FailsOnly (Fails value code) (convert value code stringified) := by
  unfold convert
  split
  · exact .ok _
  · cases code with
    | none =>
        cases stringified with
        | false => exact .ok _
        | true => exact (stringify_converts value).mono fun _ => .untold
    | some code =>
        dsimp only
        split
        · exact .ok _
        · next reason fails =>
          have source := convertTo_fails code value reason fails
          refine .error ?_
          split
          · next converts => exact conversionFault_fails value code converts (source.imp id And.right)
          · next foreign =>
            rcases source with conversion | ⟨rfl, refuses⟩
            · exact absurd conversion.kind_isConversion foreign
            · exact .unread rfl refuses (Bool.eq_false_iff.mpr foreign)

/-- No fault of the driver is taken for one of a conversion. -/
theorem isConversion_of_isNative {kind : FaultKind} (native : kind.isNative = true) :
    kind.isConversion = false := by
  cases kind with
  | library kind => cases native
  | foreign kind =>
      revert native
      cases kind <;> decide

/-- A fault of the driver leaves the conversion of a value if and only if the value is a large
object that fails with it, in a column of bytes. -/
theorem convert_eq_error_iff {value : Value} {code : Option TypeCode} {stringified : Bool}
    {fault : Fault} (native : fault.kind.isNative = true) :
    convert value code stringified = .error fault ↔
      code = some .blob ∧ value = .locator (.error fault) := by
  have foreign := isConversion_of_isNative native
  constructor
  · intro fails
    cases convert_fails value code stringified fault fails with
    | untold conversion =>
        rw [conversion.kind_isConversion] at foreign
        cases foreign
    | reported message converts source => cases native
    | unread isBlob refuses => exact ⟨isBlob, refuses⟩
  · rintro ⟨rfl, rfl⟩
    change Except.error (if fault.kind.isConversion = true then _ else fault) = _
    rw [if_neg (Bool.eq_false_iff.mp foreign)]

end Column

theorem Value.toInt_converts (value : Value) : Converts value.toInt := by
  cases value with
  | bool | int => exact .ok _
  | float number => exact Column.intOfFloat_converts number
  | decimal number => exact Column.intOfDecimal_converts number
  | text content =>
      simp only [Value.toInt]
      split
      · exact .ok _
      · exact .error rfl
  | bytes form content => exact intOfBytes_converts content
  | _ => exact .error rfl

end SqlGateway
