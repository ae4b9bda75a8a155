import SqlGateway.Proofs.Fault.Tame
import SqlGateway.Result

namespace SqlGateway

/-!
# Large objects that cannot be read

A large object is read when the row that it stands in is handed out, and the driver may fail then.
No boundary is around this, so the fault leaves the fetch as it is.  A row refuses with a fault of
the driver exactly if it has such an object in a column of bytes, and all values before it have
forms of their declared kinds.

A fetch hands out its rows in order.  It comes to the first row that refuses only if all rows before
it can be handed out.
-/

namespace QueryResult

/-- A row cannot be handed out: a large object in a column of bytes fails with a fault, and the
values before it can be converted. -/
inductive Refuses (stringified : Bool) (fault : Fault) :
    List (Option TypeCode) → List Value → Prop where
  | here (types : List (Option TypeCode)) (rest : List Value) :
    Refuses stringified fault (some .blob :: types) (.locator (.error fault) :: rest)
  | later {types : List (Option TypeCode)} {value converted : Value} {rest : List Value}
    (converts : Column.convert value types.head?.join stringified = .ok converted)
    (refuses : Refuses stringified fault types.tail rest) :
    Refuses stringified fault types (value :: rest)

/-- Of some rows one refuses, and those before it can be handed out. -/
inductive RefusesAmong (stringified : Bool) (types : List (Option TypeCode)) (fault : Fault) :
    List (List Value) → Prop where
  | here {row : List Value} (refuses : Refuses stringified fault types row)
      (rest : List (List Value)) : RefusesAmong stringified types fault (row :: rest)
  | later {row values : List Value} {rest : List (List Value)}
      (converts : convertRow stringified types row = .ok values)
      (refuses : RefusesAmong stringified types fault rest) :
      RefusesAmong stringified types fault (row :: rest)

/-- The next row cannot be handed out. -/
def RefusesRow (result : QueryResult) (fault : Fault) : Prop :=
  result.isSpent = false ∧ exists row rest, result.cursor.response.rows = row :: rest ∧
    Refuses result.stringified fault result.columnTypes row

/-- Not all rows that are left can be handed out. -/
def RefusesRows (result : QueryResult) (fault : Fault) : Prop :=
  result.isSpent = false ∧ result.cursor.response.fetchError = none ∧
    RefusesAmong result.stringified result.columnTypes fault result.cursor.response.rows

variable {α β : Type} {stringified : Bool} {types : List (Option TypeCode)} {fault : Fault}

/-- A sequence fails with a fault if its first part does, or what follows on its value. -/
theorem bind_eq_error_iff {found : Except Fault α} {next : α → Except Fault β} :
    (found >>= next) = .error fault ↔
      found = .error fault ∨ exists value, found = .ok value ∧ next value = .error fault := by
  cases found with
  | error reason =>
      constructor
      · rintro ⟨⟩
        exact Or.inl rfl
      · rintro (⟨⟨⟩⟩ | ⟨value, impossible, -⟩)
        · rfl
        · cases impossible
  | ok value =>
      constructor
      · exact fun fails => Or.inr ⟨value, rfl, fails⟩
      · rintro (impossible | ⟨given, ⟨⟩, fails⟩)
        · cases impossible
        · exact fails

theorem bind_pure_eq_error_iff {found : Except Fault α} {function : α → β} :
    (found >>= fun value => pure (function value)) = .error fault ↔ found = .error fault := by
  refine bind_eq_error_iff.trans (or_iff_left ?_)
  rintro ⟨value, -, impossible⟩
  cases impossible

section Native

variable (native : fault.kind.isNative = true)
include native

/-- A fault of the driver leaves the conversion of a row exactly if the row refuses with it. -/
theorem convertRow_eq_error_iff (row : List Value) :
    convertRow stringified types row = .error fault ↔ Refuses stringified fault types row := by
  induction row generalizing types with
  | nil => exact ⟨nofun, nofun⟩
  | cons value rest inductionHypothesis =>
      rw [convertRow, bind_eq_error_iff]
      simp only [bind_pure_eq_error_iff, inductionHypothesis]
      constructor
      · rintro (stops | ⟨converted, converts, refuses⟩)
        · rcases (Column.convert_eq_error_iff native).mp stops with ⟨isBlob, rfl⟩
          rcases types with - | ⟨code, types⟩
          · cases isBlob
          · cases isBlob
            exact .here types rest
        · exact .later converts refuses
      · intro refuses
        cases refuses with
        | here types rest => exact Or.inl ((Column.convert_eq_error_iff native).mpr ⟨rfl, rfl⟩)
        | later converts refuses => exact Or.inr ⟨_, converts, refuses⟩

theorem readRow_eq_error_iff (result : QueryResult) (mode : FetchMode) (row : List Value) :
    result.readRow mode row = .error fault ↔
      Refuses result.stringified fault result.columnTypes row :=
  bind_pure_eq_error_iff.trans (convertRow_eq_error_iff native row)

/-- Rows are handed out in order until one refuses. -/
theorem readRows_eq_error_iff (result : QueryResult) (mode : FetchMode)
    (rows : List (List Value)) :
    result.readRows mode rows = .error fault ↔
      RefusesAmong result.stringified result.columnTypes fault rows := by
  induction rows with
  | nil => exact ⟨nofun, nofun⟩
  | cons row rest inductionHypothesis =>
      rw [readRows, bind_eq_error_iff, readRow_eq_error_iff native]
      simp only [bind_pure_eq_error_iff, inductionHypothesis]
      constructor
      · rintro (refuses | ⟨shaped, reads, refuses⟩)
        · exact .here refuses rest
        · cases converts : convertRow result.stringified result.columnTypes row with
          | error reason =>
              rw [readRow, converts] at reads
              cases reads
          | ok values => exact .later converts refuses
      · intro refuses
        cases refuses with
        | here refuses rest => exact Or.inl refuses
        | @later _ values _ converts refuses =>
            refine Or.inr ⟨shape result.columnNames mode values, ?_, refuses⟩
            rw [readRow, converts]
            rfl

end Native

/-! ## The other faults -/

/-- A fault of the driver that is let through, or one that the driver has no part in. -/
def LetsThrough (fault : Fault) : Prop :=
  fault.kind.isNative = true ∨ fault.involvesDriver = false

theorem convertRow_letsThrough {row : List Value}
    (unread : forall fault, .locator (.error fault) ∈ row -> fault.kind.isNative = true) :
    FailsOnly LetsThrough (convertRow stringified types row) := by
  induction row generalizing types with
  | nil => exact .ok _
  | cons value rest inductionHypothesis =>
      have converts : FailsOnly LetsThrough
          (Column.convert value types.head?.join stringified) := by
        refine (Column.convert_fails value types.head?.join stringified).mono fun fault fails => ?_
        cases fails with
        | untold conversion => exact Or.inr conversion.involvesDriver
        | reported message converts source =>
            right
            rw [Fault.involvesDriver_because]
            rcases source with conversion | rfl
            · exact conversion.involvesDriver
            · have native := unread _ List.mem_cons_self
              rw [Column.isConversion_of_isNative native] at converts
              cases converts
        | unread isBlob refuses foreign => exact Or.inl (unread fault (refuses ▸ List.mem_cons_self))
      exact .bind converts fun _ =>
        .bind (inductionHypothesis fun fault member => unread fault (List.mem_cons_of_mem _ member))
          fun _ => .ok _

theorem readRow_letsThrough (result : QueryResult) (mode : FetchMode) {row : List Value}
    (unread : forall fault, .locator (.error fault) ∈ row -> fault.kind.isNative = true) :
    FailsOnly LetsThrough (result.readRow mode row) :=
  .bind (convertRow_letsThrough unread) fun _ => .ok _

theorem readRows_letsThrough (result : QueryResult) (mode : FetchMode) {rows : List (List Value)}
    (unread : forall row fault, row ∈ rows -> .locator (.error fault) ∈ row ->
      fault.kind.isNative = true) :
    FailsOnly LetsThrough (result.readRows mode rows) := by
  induction rows with
  | nil => exact .ok _
  | cons row rest inductionHypothesis =>
      exact .bind (readRow_letsThrough result mode fun fault => unread row fault List.mem_cons_self)
        fun _ => .bind (inductionHypothesis fun other fault member =>
          unread other fault (List.mem_cons_of_mem _ member)) fun _ => .ok _

end QueryResult
end SqlGateway
