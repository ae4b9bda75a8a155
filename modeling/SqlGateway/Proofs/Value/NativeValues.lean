import SqlGateway.Adapter
import SqlGateway.Proofs.Value.BoundValues

namespace SqlGateway

/-!
# Values that reach SQLite

The driver of SQLite takes the missing value, whole numbers, double precision numbers, texts and
byte strings, and nothing else.  Two steps make a value ready for it.  The kind of the placeholder
refuses containers and changes the form of some scalars, and then the adapter converts the scalars
that the driver does not take.  Between them they cover all scalars, whatever the kind.

A tag is taken off once, before anything is refused, and neither step looks at the tag of a value
that was tagged twice.  Such a value reaches the driver with its inner tag, whatever it holds, and
a container in it is not refused.
-/

namespace Value

/-- Values that the driver of SQLite takes. -/
inductive IsNative : Value -> Prop where
  | null : IsNative .null
  | int (value : Int) : IsNative (.int value)
  | float (value : Binary64) : IsNative (.float value)
  | text (value : String) : IsNative (.text value)
  | brokenText (value : BrokenText) : IsNative (.brokenText value)
  | bytes (form : BytesForm) (content : Bytes) : IsNative (.bytes form content)

/-- Values that carry a tag. -/
inductive IsTagged : Value -> Prop where
  | bound (code : TypeCode) (value : Value) : IsTagged (.bound code value)

/-- Objects of a caller or of a driver, which the library never looks into when it binds. -/
inductive IsObject : Value -> Prop where
  | record (fields : List (String × Value)) : IsObject (.record fields)
  | locator (content : Except Fault Value) : IsObject (.locator content)
  | foreign (label : String) : IsObject (.foreign label)

/-- Values that binding hands on as they are: what carries a tag, and objects. -/
def IsHandedOn (value : Value) : Prop := value.IsTagged ∨ value.IsObject

theorem shape_cases (value : Value) :
    value.IsScalar ∨ value.isContainer = true ∨ value.IsHandedOn := by
  cases value with
  | collection | mapping => exact .inr (.inl rfl)
  | bound code content => exact .inr (.inr (.inl (.bound code content)))
  | record fields => exact .inr (.inr (.inr (.record fields)))
  | locator content => exact .inr (.inr (.inr (.locator content)))
  | foreign label => exact .inr (.inr (.inr (.foreign label)))
  | _ => exact .inl (by constructor)

end Value

namespace Parameter

variable {code : TypeCode} {value form : Value}

/-! ## Scalars -/

theorem floatOfInt_isScalar {number : Int} (formed : floatOfInt number = .ok form) :
    form.IsScalar := by
  unfold floatOfInt at formed
  split at formed
  · cases formed
  · cases formed
    exact .float _

theorem textForm_isScalar (scalar : value.IsScalar) (formed : textForm value = .ok form) :
    form.IsScalar := by
  cases scalar with
  | int number =>
      rcases Column.exists_form formed with ⟨text, rfl⟩
      exact .text text
  | _ =>
      cases formed
      constructor

theorem decimalForm_isScalar (scalar : value.IsScalar) : (decimalForm value).IsScalar := by
  cases scalar with
  | float number =>
      simp only [decimalForm]
      split
      · exact .decimal _
      · exact .float number
  | _ => constructor

theorem blobForm_isScalar (scalar : value.IsScalar) (formed : blobForm value = .ok form) :
    form.IsScalar := by
  cases scalar <;> cases formed <;> constructor

/-- Every form of a scalar is a scalar. -/
theorem normalize_isScalar (scalar : value.IsScalar) (formed : normalize code value = .ok form) :
    form.IsScalar := by
  cases code with
  | integer =>
      cases scalar <;> cases formed <;> constructor
  | float =>
      cases scalar with
      | int number => exact floatOfInt_isScalar formed
      | _ => cases formed; constructor
  | decimal =>
      cases formed
      exact decimalForm_isScalar scalar
  | string => exact textForm_isScalar scalar formed
  | blob => exact blobForm_isScalar scalar formed

/-- The adapter leaves no scalar that the driver does not take. -/
theorem apply_isNative (scalar : value.IsScalar) :
    (Adapter.sqlite.coercion.apply value).IsNative := by
  cases scalar <;> constructor

theorem coerce_isNative {given : Value} (scalar : value.untag.IsScalar)
    (coerced : coerce code value Adapter.sqlite.coercion = .ok given) : given.IsNative := by
  unfold coerce at coerced
  cases missing : value.untag.isNull with
  | true =>
      simp only [missing, if_true] at coerced
      cases coerced
      exact .null
  | false =>
      simp only [missing, Bool.false_eq_true, if_false] at coerced
      split at coerced
      · cases coerced
      · cases formed : normalize code value.untag with
        | error fault =>
            rw [formed] at coerced
            cases coerced
        | ok form =>
            rw [formed] at coerced
            cases coerced
            exact apply_isNative (normalize_isScalar scalar formed)

/-! ## What is handed on -/

/-- No kind refuses what carries a tag, or an object, and nothing is done with it. -/
theorem coerce_of_isHandedOn (handedOn : value.untag.IsHandedOn) :
    coerce code value Adapter.sqlite.coercion = .ok value.untag := by
  unfold coerce
  generalize value.untag = content at handedOn ⊢
  rcases handedOn with tagged | object
  · cases tagged
    cases code <;> rfl
  · cases object <;> cases code <;> rfl

/-- For every kind of placeholder and every value, what reaches SQLite is a value that its driver
takes, or the value itself without its outer tag: then this carries another tag, with anything in
it, or it is an object.  Whatever carries two tags reaches the driver so.  A value that binds fits
its placeholder, and one that does not bind is told as a misfit. -/
theorem bound_natively_unless_retagged (code : TypeCode) (value : Value) :
    (match coerce code value Adapter.sqlite.coercion with
      | .ok given =>
          Fits code value ∧
            (given.IsNative ∨
              (value.untag.IsTagged ∨ value.untag.IsObject) ∧ given = value.untag)
      | .error fault => Misfit code value fault) ∧
    (value.untag.IsTagged -> coerce code value Adapter.sqlite.coercion = .ok value.untag) := by
  refine ⟨?_, fun tagged => coerce_of_isHandedOn (.inl tagged)⟩
  have contained := coerce_contained code value Adapter.sqlite.coercion
  cases coerced : coerce code value Adapter.sqlite.coercion with
  | error fault =>
      rw [coerced] at contained
      exact contained
  | ok given =>
      rw [coerced] at contained
      refine ⟨contained, ?_⟩
      rcases value.untag.shape_cases with scalar | container | handedOn
      · exact .inl (coerce_isNative scalar coerced)
      · have refused : isRefused code value.untag = true := by
          rw [isRefused, container, Bool.true_or]
        exact absurd refused (Bool.eq_false_iff.mp contained.left)
      · cases (coerce_of_isHandedOn handedOn).symm.trans coerced
        exact .inr ⟨handedOn, rfl⟩

/-- A list behind two tags reaches the driver, where behind one it is refused. -/
theorem retagged_reaches_driver :
    let items : Value := .bound .string (.list [.int 1])
    coerce .string (.bound .string items) Adapter.sqlite.coercion = .ok items ∧
      ¬ items.IsNative ∧
      exists fault, coerce .string items Adapter.sqlite.coercion = .error fault ∧
        fault.kind = .library .parameter := by
  refine ⟨rfl, nofun, _, rfl, rfl⟩

end Parameter
end SqlGateway
