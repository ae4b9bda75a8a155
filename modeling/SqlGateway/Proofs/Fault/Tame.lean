import SqlGateway.Database.Rows
import SqlGateway.Database.Prepared
import SqlGateway.Proofs.Fault.Conversion

namespace SqlGateway

/-!
# Faults that the driver has no part in

Most of what the library does never meets the driver: it reads templates, converts values and
checks arguments.  Where this fails, neither the fault nor any that it was caused by is one of
the driver, and the fault does not say what the driver cannot do either.  Such results are called
tame, and they stay tame under everything that is built from them.
-/

/-- Whether a fault, or one that it was caused by, is one of the driver. -/
def Fault.involvesDriver : Fault → Bool
  | .library _ _ _ _ none => false
  | .library _ _ _ _ (some cause) => cause.involvesDriver
  | .foreign kind _ none => (FaultKind.foreign kind).isNative
  | .foreign kind _ (some cause) => (FaultKind.foreign kind).isNative || cause.involvesDriver

/-- Whether a fault says that something is not supported. -/
def Fault.isUnsupported (fault : Fault) : Bool := fault.kind == .library .notSupported

/-- Whether the driver has no part in a fault: it did not fail, and nothing is asked of it that it
cannot do. -/
def Fault.isTame (fault : Fault) : Bool := !fault.involvesDriver && !fault.isUnsupported

/-- A result that is no fault in which the driver has a part. -/
abbrev Tame {α : Type} (found : Except Fault α) : Prop :=
  FailsOnly (fun fault => fault.isTame = true) found

namespace Tame

variable {α : Type} {found : Except Fault α} {fault : Fault}

theorem involvesDriver (tame : Tame found) (fails : found = .error fault) :
    fault.involvesDriver = false := by
  have free : fault.isTame = true := tame fault fails
  rw [Fault.isTame, Bool.and_eq_true, Bool.not_eq_true'] at free
  exact free.1

theorem isUnsupported (tame : Tame found) (fails : found = .error fault) :
    fault.isUnsupported = false := by
  have free : fault.isTame = true := tame fault fails
  rw [Fault.isTame, Bool.and_eq_true, Bool.not_eq_true', Bool.not_eq_true'] at free
  exact free.2

end Tame

namespace Fault

theorem isNative_of_tame (fault : Fault) (tame : fault.involvesDriver = false) :
    fault.kind.isNative = false := by
  cases fault with
  | library kind arguments detail context cause => rfl
  | foreign kind text cause =>
      cases cause with
      | none =>
          rw [involvesDriver] at tame
          exact tame
      | some cause =>
          rw [involvesDriver, Bool.or_eq_false_iff] at tame
          exact tame.1

theorem involvesDriver_because (kind : LibraryKind) (message : String) (reason : Fault) :
    ((Fault.of kind message).because reason).involvesDriver = reason.involvesDriver := by
  rw [Fault.of, Fault.because, involvesDriver]

end Fault

/-! ## Conversions -/

theorem Fault.IsConversion.isTame {fault : Fault} (conversion : fault.IsConversion) :
    fault.isTame = true := by
  cases conversion with
  | bare kind isConversion =>
      revert isConversion
      cases kind <;> decide

theorem Fault.IsConversion.involvesDriver {fault : Fault} (conversion : fault.IsConversion) :
    fault.involvesDriver = false := by
  cases conversion with
  | bare kind isConversion =>
      revert isConversion
      cases kind <;> decide

theorem Converts.tame {α : Type} {found : Except Fault α} (converts : Converts found) :
    Tame found :=
  converts.mono fun _ conversion => conversion.isTame

/-! ## Templates and parameters -/

namespace Template

theorem mistake_tame (dialect : Dialect) (template : List Char) (offset : Nat)
    (mistake : Mistake) : (mistake.fault dialect template offset).isTame = true := by
  cases mistake <;> rfl

theorem parse_tame (template : String) (dialect : Dialect) (style : ParameterStyle) :
    Tame (parse template dialect style) := by
  unfold parse
  simp only
  split
  · exact .error (mistake_tame _ _ _ _)
  · exact .ok _

theorem compile_tame (cache : Cache) (template : String) (dialect : Dialect)
    (style : Option ParameterStyle) : Tame (cache.compile template dialect style).1 := by
  unfold Cache.compile
  simp only
  split
  · exact .ok _
  · split
    · exact .ok _
    · rename_i fault fails
      exact .error (parse_tame template dialect _ fault fails)

end Template

namespace Parameter

theorem normalize_tame (code : TypeCode) (value : Value) : Tame (normalize code value) := by
  have floats (value : Int) : Tame (floatOfInt value) := by
    unfold floatOfInt
    split
    · exact .error rfl
    · exact .ok _
  have texts : Tame (textForm value) := by
    unfold textForm
    split
    case h_2 => exact .bind (Value.intText_converts _).tame fun _ => .ok _
    all_goals exact .ok _
  cases code with
  | integer => cases value <;> exact .ok _
  | float =>
      cases value with
      | int number => exact floats number
      | _ => exact .ok _
  | decimal => exact .ok _
  | string => exact texts
  | blob =>
      cases value with
      | brokenText => exact .error rfl
      | _ => exact .ok _

theorem coerce_tame (code : TypeCode) (value : Value) (coercion : Coercion) :
    Tame (coerce code value coercion) := by
  unfold coerce
  simp only
  split
  · exact .ok _
  · split
    · exact .error rfl
    · exact .bind (normalize_tame _ _) fun _ => .ok _

theorem coerceAll_tame (coercion : Coercion) (codes : List TypeCode) (values : List Value) :
    Tame (coerceAll coercion codes values) := by
  induction codes generalizing values with
  | nil => exact .ok _
  | cons code codes inductionHypothesis =>
      cases values with
      | nil => exact .ok _
      | cons value values =>
          exact .bind (coerce_tame code value coercion) fun _ =>
            .bind (inductionHypothesis values) fun _ => .ok _

theorem bind_tame (query : ParsedQuery) (values : List Value) (coercion : Coercion) :
    Tame (bind query values coercion) := by
  unfold bind
  simp only
  split
  · exact .error rfl
  · split
    · exact .error rfl
    · exact coerceAll_tame _ _ _

end Parameter

/-! ## Adapters -/

namespace Adapter

open Value (toText_converts)

theorem ofDialect_tame (dialect : Dialect) : Tame (ofDialect dialect) := by
  unfold ofDialect
  split
  · exact .ok _
  · exact .error rfl

theorem importDriver_tame (missing : List String) (moduleName : String)
    (installPackage : Option String) : Tame (importDriver missing moduleName installPackage) := by
  unfold importDriver
  split
  · exact .ok _
  · exact .error rfl

theorem resolveOptions_tame (adapter : Adapter) (params : ConnectionParams) :
    Tame (adapter.resolveOptions params) := by
  unfold resolveOptions
  induction params.options with
  | nil => exact .ok _
  | cons option rest inductionHypothesis =>
      rcases option with ⟨name, value⟩
      unfold driverOptions
      split
      · rename_i same
        cases same
      · rename_i same
        cases same
        split
        · exact inductionHypothesis
        · split
          · exact .bind inductionHypothesis fun _ => .ok _
          · exact .error rfl
      · rename_i same
        cases same
        exact .bind (toText_converts _).tame fun _ => .error rfl

theorem written_tame (fields : List (String × Value)) : Tame (ConnectionText.written fields) := by
  induction fields with
  | nil => exact .ok _
  | cons field rest inductionHypothesis =>
      exact .bind (toText_converts field.2).tame fun _ => .bind inductionHypothesis fun _ => .ok _

theorem connectionText_tame (params : ConnectionParams) (options : List (String × Value)) :
    Tame (ConnectionText.ofParams params options) := by
  have server : Tame (ConnectionText.server params) := by
    unfold ConnectionText.server
    split
    · exact .bind (toText_converts _).tame fun _ => .bind (toText_converts _).tame fun _ => .ok _
    · exact .ok _
  exact .bind (.bind server fun _ => .ok _) fun fields => .bind (written_tame fields) fun _ => .ok _

theorem connectKeywords_tame (adapter : Adapter) (missing : List String)
    (params : ConnectionParams) (options : List (String × Value)) :
    Tame (adapter.connectKeywords missing params options) := by
  have firebird : Tame (firebirdServer params) := by
    unfold firebirdServer
    split
    · exact .bind (toText_converts _).tame fun _ => .bind (toText_converts _).tame fun _ => .ok _
    · exact (toText_converts _).tame
  cases adapter with
  | firebird => exact .bind firebird fun _ => .bind (toText_converts _).tame fun _ => .ok _
  | mssql => exact .bind (toText_converts _).tame fun _ => .ok _
  | mysql => exact .ok _
  | odbc => exact .ok _
  | oracle =>
      exact .bind (.bind (importDriver_tame _ _ _) fun _ => .bind (toText_converts _).tame fun _ =>
        .bind (toText_converts _).tame fun _ => .bind (toText_converts _).tame fun _ => .ok _) fun _ => .ok _
  | postgres => exact .ok _
  | sqlite =>
      refine .bind (toText_converts _).tame fun _ => ?_
      split
      · exact .ok _
      · exact .ok _

theorem connectArguments_tame (adapter : Adapter) (missing : List String)
    (params : ConnectionParams) (options : List (String × Value)) :
    Tame (adapter.connectArguments missing params options) := by
  have keywords (positional : List Value) : Tame (do
      return ConnectArguments.mk positional
        (← adapter.connectKeywords missing params options)) :=
    .bind (connectKeywords_tame adapter missing params options) fun _ => .ok _
  unfold connectArguments
  simp only
  split
  · exact .bind (connectionText_tame params options) fun _ => keywords _
  · exact keywords _

/-- A driver that gives a row without a number has not failed, whatever is said of that. -/
theorem firstNumber_silent (row : Option (List Value)) (fault : Fault)
    (fails : firstNumber row = .error fault) : fault.involvesDriver = false := by
  unfold firstNumber at fails
  split at fails
  · cases fails
    rfl
  · cases fails
    rfl
  · cases fails
    rfl
  · exact (Value.toInt_converts _).tame.involvesDriver fails

end Adapter

/-! ## Transactions -/

namespace Transaction.Tracker

theorem begin_tame (tracker : Tracker) (id : Nat) (nestable : Bool) :
    Tame (tracker.begin id nestable) := by
  unfold begin
  split
  · exact .ok _
  · split
    · exact .ok _
    · exact .error rfl

theorem commit_tame (tracker : Tracker) (id : Nat) : Tame (tracker.commit id) := by
  unfold commit
  split
  · exact .error rfl
  · exact .ok _
  · exact .ok _

theorem rollback_tame (tracker : Tracker) (id : Nat) : Tame (tracker.rollback id) := by
  unfold rollback
  split
  · exact .error rfl
  · exact .ok _
  · exact .ok _

end Transaction.Tracker

/-! ## Rows -/

namespace Database

theorem resolveMode_tame (mode : Option FetchMode) (column : Value) :
    Tame (resolveMode mode column) := by
  have mismatch (mode : FetchMode) : (columnMismatch mode column).isTame = true := by
    unfold columnMismatch
    split
    · rfl
    · rename_i fault fails
      exact (Value.display_converts column).tame fault fails
  unfold resolveMode
  simp only
  split
  · exact .ok _
  · split
    · exact .ok _
    · split
      · exact .error rfl
      · split
        · exact .ok _
        · exact .error (mismatch _)

theorem selectColumns_tame (column : Value) (rows : List Value) :
    Tame (selectColumns column rows) := by
  have one (row : Value) : Tame (selectColumn column row) := by
    unfold selectColumn
    split
    · exact .ok _
    · split
      · exact .ok _
      · exact .error rfl
    · exact .error rfl
  unfold selectColumns
  split
  · exact .ok _
  · induction rows with
    | nil => exact .ok _
    | cons row rest inductionHypothesis =>
        rw [List.mapM_cons]
        exact .bind (one row) fun _ => .bind inductionHypothesis fun _ => .ok _

theorem columnName_tame (column : Value) : Tame (columnName column) := by
  unfold columnName
  split
  · split
    · exact .ok _
    · exact .error rfl
  · exact .bind (Value.toText_converts _).tame fun _ => .error rfl

theorem assignments_tame (entries : List (Value × Value)) (separator : String) :
    Tame (assignments entries separator) := by
  have written : Tame (equations entries) := by
    induction entries with
    | nil => exact .ok _
    | cons entry rest inductionHypothesis =>
        exact .bind (columnName_tame entry.1) fun _ => .bind inductionHypothesis fun _ => .ok _
  exact .bind written fun _ => .ok _

theorem newRow_tame (clock : Value) (values : List (Value × Value)) :
    Tame (newRow clock values) := by
  unfold newRow
  split
  · exact .ok _
  · exact .bind (Value.toInt_converts clock).tame fun _ => .ok _

theorem insertion_tame (table : String) (row : List (Value × Value)) :
    Tame (insertion table row) := by
  have texts : Tame (columnTexts row) := by
    induction row with
    | nil => exact .ok _
    | cons entry rest inductionHypothesis =>
        rcases entry with ⟨column, value⟩
        cases column with
        | text | brokenText => exact .bind inductionHypothesis fun _ => .ok _
        | _ => exact .error rfl
  exact .bind texts fun _ => .ok _

end Database
end SqlGateway
