import SqlGateway.Parameter
import SqlGateway.Proofs.Value.FetchedValue

namespace SqlGateway
namespace Parameter

/-!
# Faults of bound values

A list of values that cannot be bound is to be reported as a fault of the parameters: too few
values, too many values, or the first value that no placeholder of its kind takes.

Binding refuses containers, and byte strings for most kinds.  Whole numbers and texts are never
refused, though three kinds change the form of some and cannot do so for all of them.  For texts a
number must not be too long to be written, for double precision numbers it must be in range, and
for bytes a text must not hold a surrogate.  A value beyond that is met by the conversion itself,
and the fault of the conversion escapes.
-/

variable {code : TypeCode} {value : Value} {coercion : Coercion}

/-- Whether the value has no form of the kind: a whole number that is too large for the kind, or a
text without an encoding where bytes are wanted. -/
def IsFormless : TypeCode -> Value -> Prop
  | .string, value => value.IsLong
  | .float, .int value => Binary64.overflowBound ≤ value.natAbs
  | .blob, .brokenText _ => True
  | _, _ => False

/-- Whether a placeholder takes the value, with or without its tag. -/
def Fits (code : TypeCode) (value : Value) : Prop :=
  isRefused code value.untag = false ∧ ¬ IsFormless code value.untag

/-- What is wrong with a value that does not fit: it is refused with a fault of the parameters, or
it has no form of the kind and the fault is not one of the library. -/
def Misfit (code : TypeCode) (value : Value) (fault : Fault) : Prop :=
  (isRefused code value.untag = true ∧ fault.kind = .library .parameter) ∨
    (IsFormless code value.untag ∧ fault.kind.isLibrary = false)

/-! ## One value -/

theorem floatOfInt_contained (number : Int) :
    match floatOfInt number with
    | .ok _ => ¬ Binary64.overflowBound ≤ number.natAbs
    | .error fault => Binary64.overflowBound ≤ number.natAbs ∧ fault.kind.isLibrary = false := by
  rw [← Binary64.ofInt_infinite_iff, floatOfInt]
  cases Binary64.ofInt number with
  | infinite sign => exact ⟨⟨sign, rfl⟩, rfl⟩
  | finite | nan =>
      rintro ⟨sign, infinite⟩
      cases infinite

theorem textForm_contained (value : Value) :
    match textForm value with
    | .ok _ => ¬ value.IsLong
    | .error fault => value.IsLong ∧ fault.kind.isLibrary = false := by
  cases value with
  | int number =>
      by_cases long : (Value.int number).IsLong
      · simp only [textForm, Value.intText_of_long long]
        exact ⟨long, rfl⟩
      · simp only [textForm, Value.intText, Numeral.write?, if_pos (not_lt.mp long)]
        exact long
  | _ => exact not_false

theorem blobForm_contained (value : Value) :
    match blobForm value with
    | .ok _ => ¬ IsFormless .blob value
    | .error fault => IsFormless .blob value ∧ fault.kind.isLibrary = false := by
  cases value with
  | brokenText text => exact ⟨trivial, rfl⟩
  | _ => exact not_false

/-- Every value is normalised that has a form of the kind. -/
theorem normalize_contained (code : TypeCode) (value : Value) :
    match normalize code value with
    | .ok _ => ¬ IsFormless code value
    | .error fault => IsFormless code value ∧ fault.kind.isLibrary = false := by
  cases code with
  | string => exact textForm_contained value
  | float =>
      cases value with
      | int number => exact floatOfInt_contained number
      | _ => exact not_false
  | integer => cases value <;> exact not_false
  | decimal => exact not_false
  | blob => exact blobForm_contained value

/-- A missing value fits every kind. -/
theorem fits_of_isNull (code : TypeCode) (missing : value.untag.isNull = true) :
    Fits code value := by
  unfold Fits
  cases untagged : value.untag with
  | null => cases code <;> exact ⟨rfl, not_false⟩
  | _ =>
      rw [untagged] at missing
      cases missing

/-- A value binds if it fits, and otherwise it is a misfit. -/
theorem coerce_contained (code : TypeCode) (value : Value) (coercion : Coercion) :
    match coerce code value coercion with
    | .ok _ => Fits code value
    | .error fault => Misfit code value fault := by
  by_cases missing : value.untag.isNull = true
  · simp only [coerce, missing, if_true]
    exact fits_of_isNull code missing
  · by_cases refused : isRefused code value.untag = true
    · simp only [coerce, missing, refused, Bool.false_eq_true, if_false, if_true]
      exact .inl ⟨refused, rfl⟩
    · have normal := normalize_contained code value.untag
      simp only [coerce, missing, refused, Bool.false_eq_true, if_false]
      cases normalized : normalize code value.untag with
      | ok form =>
          rw [normalized] at normal
          exact ⟨Bool.eq_false_of_not_eq_true refused, normal⟩
      | error fault =>
          rw [normalized] at normal
          exact .inr normal

/-! ## Lists of values -/

/-- The first value that does not fit decides about the list. -/
theorem coerceAll_contained (coercion : Coercion) (codes : List TypeCode) (values : List Value) :
    match coerceAll coercion codes values with
    | .ok bound =>
        bound.length = (codes.zip values).length ∧
          forall pair, pair ∈ codes.zip values -> Fits pair.1 pair.2
    | .error fault =>
        exists fitting code value rest, codes.zip values = fitting ++ (code, value) :: rest ∧
          (forall pair, pair ∈ fitting -> Fits pair.1 pair.2) ∧ Misfit code value fault := by
  induction codes generalizing values with
  | nil => exact ⟨rfl, List.forall_mem_nil _⟩
  | cons code codes induction =>
      cases values with
      | nil => exact ⟨rfl, List.forall_mem_nil _⟩
      | cons value values =>
          have first := coerce_contained code value coercion
          have others := induction values
          rw [coerceAll]
          cases coerced : coerce code value coercion with
          | error fault =>
              rw [coerced] at first
              exact ⟨[], code, value, codes.zip values, rfl, List.forall_mem_nil _, first⟩
          | ok form =>
              rw [coerced] at first
              cases bound : coerceAll coercion codes values with
              | ok forms =>
                  rw [bound] at others
                  exact ⟨congrArg (· + 1) others.left,
                    List.forall_mem_cons.mpr ⟨first, others.right⟩⟩
              | error fault =>
                  rw [bound] at others
                  rcases others with ⟨fitting, misfit, unfit, rest, split, fit, told⟩
                  exact ⟨(code, value) :: fitting, misfit, unfit, rest,
                    congrArg ((code, value) :: ·) split, List.forall_mem_cons.mpr ⟨first, fit⟩, told⟩

/-- A number out of range for a placeholder of double precision numbers. -/
theorem bind_of_overflow {number : Int} (large : Binary64.overflowBound ≤ number.natAbs)
    (sql : String) (columns : List (Option TypeCode)) (coercion : Coercion) :
    bind ⟨sql, [.float], columns⟩ [.int number] coercion = .error (.bare .outOfRange) := by
  rcases (Binary64.ofInt_infinite_iff number).mpr large with ⟨sign, infinite⟩
  have failed : coerce .float (.int number) coercion = .error (.bare .outOfRange) := by
    simp only [coerce, Value.untag, normalize, floatOfInt, infinite]
    rfl
  change coerceAll coercion [.float] [.int number] = _
  rw [coerceAll, failed]
  rfl

end Parameter
end SqlGateway
