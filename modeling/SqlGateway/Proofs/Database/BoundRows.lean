import SqlGateway.Proofs.Database.ColumnNames
import SqlGateway.Proofs.Database.Serving
import SqlGateway.Proofs.Template.RowStatements

namespace SqlGateway
namespace Database

/-!
# Values are bound to their own columns

An update, an update or insertion, and a deletion choose rows by equations, and the first two set
columns as well.  The text of a statement and its parameters are made separately: the equations
of an update stand in the order of the columns and then of the conditions, and so must the values.
If they did not, values would be written into the wrong columns without any fault.

Here the statements are given with their parameters, for tables and columns of any names
that can be written and for any values that can be bound, over a driver whose calls do not fail.
-/

open Native (Response)
open Operation (Gives Yields)
open Session (library)
open Template (IsNameable equationsText quotedForm insertStatement countStatement keyStatement
  updateStatement deleteStatement)

variable {α σ : Type}

/-! ## Rows and their parameters -/

/-- Each parameter is what the value at its place binds as, by the kind of the value. -/
def BoundAs (coercion : Coercion) (row : List (String × Value)) (parameters : List Value) : Prop :=
  List.Forall₂ (fun entry parameter =>
    Parameter.coerce (Parameter.inferCode entry.2) entry.2 coercion = .ok parameter) row parameters

/-- The value of an entry binds as something. -/
def IsBindable (coercion : Coercion) (entry : String × Value) : Prop :=
  exists parameter,
    Parameter.coerce (Parameter.inferCode entry.2) entry.2 coercion = .ok parameter

section Rows

variable {coercion : Coercion} {row : List (String × Value)} {parameters : List Value}

theorem exists_boundAs (bindable : forall entry, entry ∈ row -> IsBindable coercion entry) :
    exists parameters, BoundAs coercion row parameters := by
  induction row with
  | nil => exact ⟨[], .nil⟩
  | cons entry row inductionHypothesis =>
      rcases bindable entry List.mem_cons_self with ⟨parameter, bound⟩
      rcases inductionHypothesis fun other member =>
        bindable other (List.mem_cons_of_mem _ member) with ⟨parameters, others⟩
      exact ⟨parameter :: parameters, .cons bound others⟩

/-- The parameters of a row are known from its values. -/
theorem BoundAs.unique {others : List Value} (bound : BoundAs coercion row parameters)
    (otherBound : BoundAs coercion row others) : parameters = others := by
  refine List.right_unique_forall₂' ?_ bound otherBound
  intro entry first second isFirst isSecond
  exact Except.ok.inj (isFirst.symm.trans isSecond)

theorem coerceAll_of_boundAs (bound : BoundAs coercion row parameters) :
    Parameter.coerceAll coercion (codesOf row) (row.map Prod.snd) = .ok parameters := by
  induction bound with
  | nil => rfl
  | cons first others inductionHypothesis =>
      simp only [codesOf, List.map_cons, Parameter.coerceAll, first] at inductionHypothesis ⊢
      rw [inductionHypothesis]
      rfl

/-- A query with placeholders of the kinds of values takes the values at their places. -/
theorem bind_of_boundAs {query : ParsedQuery} (codes : query.placeholders = codesOf row)
    (bound : BoundAs coercion row parameters) :
    Parameter.bind query (row.map Prod.snd) coercion = .ok parameters := by
  have counted : query.placeholders.length = (row.map Prod.snd).length := by
    rw [codes, codesOf, List.length_map, List.length_map]
  unfold Parameter.bind
  simp only [counted, Nat.lt_irrefl, if_false]
  rw [codes]
  exact coerceAll_of_boundAs bound

theorem isBindable_int (coercion : Coercion) (name : String) (number : Int) :
    IsBindable coercion (name, .int number) := by
  rcases coercion with ⟨converts⟩
  cases converts <;> exact ⟨.int number, rfl⟩

def columnsOf (row : List (String × Value)) : List (String × TypeCode) :=
  row.map fun entry => (entry.1, Parameter.inferCode entry.2)

theorem columnsOf_names (row : List (String × Value)) :
    (columnsOf row).map Prod.fst = row.map Prod.fst := by
  rw [columnsOf, List.map_map]
  rfl

theorem columnsOf_codes (row : List (String × Value)) :
    (columnsOf row).map Prod.snd = codesOf row := by
  rw [columnsOf, codesOf, List.map_map]
  rfl

/-- Names of columns may stand in equations. -/
theorem assignments_columns (good : forall entry, entry ∈ row ->
    (Value.text entry.1).isColumnName = true) (separator : String) :
    assignments (named row) separator = .ok (equationsText separator (columnsOf row)) := by
  have noBad : badName? row = none := by
    apply List.find?_eq_none.mpr
    intro name member
    rcases List.mem_map.mp member with ⟨entry, known, rfl⟩
    simp only [good entry known, Bool.not_true, Bool.false_eq_true, not_false_eq_true]
  have made := equations_named row
  rw [noBad] at made
  unfold assignments equationsText columnsOf
  rw [made, List.map_map]
  rfl

theorem isNameable_of_isColumnName {dialect : Dialect} (supported : dialect ∈ Dialect.builtin)
    {name : String} (good : (Value.text name).isColumnName = true) : IsNameable dialect name := by
  simp only [Value.isColumnName, Bool.and_eq_true, List.all_eq_true] at good
  exact Template.isNameable_of_isAlphanum supported good.2

theorem isColumnName_keyColumn : (Value.text keyColumn).isColumnName = true := by decide

theorem isColumnName_timeColumn : (Value.text timeColumn).isColumnName = true := by decide

theorem isNameable_columns {dialect : Dialect} (supported : dialect ∈ Dialect.builtin)
    (good : forall entry, entry ∈ row -> (Value.text entry.1).isColumnName = true)
    (column : String × TypeCode) (member : column ∈ columnsOf row) :
    IsNameable dialect column.1 := by
  rcases List.mem_map.mp member with ⟨entry, known, rfl⟩
  exact isNameable_of_isColumnName supported (good entry known)

/-- The dialect quotes a table that it can name, the columns that the library fills in, and the
columns of a row. -/
theorem quoteIdentifier_columns {dialect : Dialect} (supported : dialect ∈ Dialect.builtin)
    {table : String} (nameable : IsNameable dialect table)
    (good : forall entry, entry ∈ row -> (Value.text entry.1).isColumnName = true) (name : String)
    (member : name ∈ [table, keyColumn, timeColumn] ++ row.map Prod.fst) :
    dialect.quoteIdentifier name = .ok (quotedForm dialect name) := by
  apply IsNameable.quoteIdentifier
  rcases List.mem_append.mp member with known | column
  · simp only [List.mem_cons, List.not_mem_nil, or_false] at known
    rcases known with rfl | rfl | rfl
    · exact nameable
    · exact isNameable_of_isColumnName supported isColumnName_keyColumn
    · exact isNameable_of_isColumnName supported isColumnName_timeColumn
  · rcases List.mem_map.mp column with ⟨entry, listed, rfl⟩
    exact isNameable_of_isColumnName supported (good entry listed)

end Rows

/-! ## The row of an insertion -/

/-- The entries of the conditions whose names the values lack. -/
def lacking (values chosen : List (String × Value)) : List (String × Value) :=
  chosen.filter fun entry => decide (entry.1 ∉ values.map Prod.fst)

theorem isBindable_of_lacking {coercion : Coercion} {values chosen : List (String × Value)}
    (bindable : forall entry, entry ∈ values ++ chosen -> IsBindable coercion entry)
    (entry : String × Value) (member : entry ∈ values ++ lacking values chosen) :
    IsBindable coercion entry := by
  rcases List.mem_append.mp member with value | taken
  · exact bindable entry (List.mem_append_left _ value)
  · exact bindable entry (List.mem_append_right _ (List.mem_of_mem_filter taken))

section Completion

variable {row rest : List (Value × Value)} {entry : Value × Value}

theorem completed_of_found {value : Value} (found : Value.lookup entry.1 row = some value) :
    completed row (entry :: rest) = completed row rest := by
  unfold completed
  rw [List.foldl_cons, found]

theorem completed_of_missing (missing : Value.lookup entry.1 row = none) :
    completed row (entry :: rest) = completed (row ++ [entry]) rest := by
  unfold completed
  rw [List.foldl_cons, missing]

end Completion

/-- What values leave open is taken from the conditions, in their order. -/
theorem completed_named {chosen : List (String × Value)}
    (distinct : (chosen.map Prod.fst).Nodup) (values : List (String × Value)) :
    completed (named values) (named chosen) = named (values ++ lacking values chosen) := by
  induction chosen generalizing values with
  | nil => rw [lacking, List.filter_nil, List.append_nil]; rfl
  | cons entry chosen inductionHypothesis =>
      rw [List.map_cons, List.nodup_cons] at distinct
      have known := lookup_named entry.1 values
      have listed : named (entry :: chosen) = (.text entry.1, entry.2) :: named chosen := rfl
      rw [listed]
      cases found : Value.lookup (.text entry.1) (named values) with
      | some value =>
          rw [found] at known
          have member : entry.1 ∈ values.map Prod.fst := known.mp rfl
          have same : lacking values (entry :: chosen) = lacking values chosen := by
            simp only [lacking, List.filter_cons, member, not_true_eq_false, decide_false,
              Bool.false_eq_true, if_false]
          rw [completed_of_found found, same]
          exact inductionHypothesis distinct.2 values
      | none =>
          rw [found] at known
          have absent : entry.1 ∉ values.map Prod.fst := fun member => by
            cases known.mpr member
          have grown : named values ++ [(.text entry.1, entry.2)] = named (values ++ [entry]) := by
            unfold named
            rw [List.map_append]
            rfl
          have rest : lacking (values ++ [entry]) chosen = lacking values chosen := by
            apply List.filter_congr
            intro other member
            have different : other.1 ≠ entry.1 := by
              intro same
              exact distinct.1 (same ▸ List.mem_map_of_mem member)
            simp only [List.map_append, List.map_cons, List.map_nil, List.mem_append,
              List.mem_singleton, different, or_false]
          have more : lacking values (entry :: chosen) = entry :: lacking values chosen := by
            simp only [lacking, List.filter_cons, absent, not_false_eq_true, decide_true, if_true]
          have regrouped : values ++ entry :: lacking values chosen =
              (values ++ [entry]) ++ lacking (values ++ [entry]) chosen := by
            rw [rest, List.append_assoc, List.singleton_append]
          rw [completed_of_missing found, more, regrouped, grown]
          exact inductionHypothesis distinct.2 (values ++ [entry])

theorem newRow_of_isRow {clock : Value} {values row : List (String × Value)}
    (isRow : NewRow clock values row) : newRow clock (named values) = .ok (named row) := by
  have known := lookup_named timeColumn values
  unfold newRow
  rcases isRow with ⟨member, rfl⟩ | ⟨absent, now, tells, rfl⟩
  · rcases Option.isSome_iff_exists.mp (known.mpr member) with ⟨time, found⟩
    rw [found]
    rfl
  · cases found : Value.lookup (.text timeColumn) (named values) with
    | some time =>
        rw [found] at known
        exact absurd (known.mp rfl) absent
    | none =>
        rw [tells]
        rfl

/-- If the clock tells the time, there is a row to insert. -/
theorem exists_newRow {clock : Value} {now : Int} (tells : clock.toInt = .ok now)
    (values : List (String × Value)) : exists row, NewRow clock values row := by
  by_cases member : timeColumn ∈ values.map Prod.fst
  · exact ⟨values, .inl ⟨member, rfl⟩⟩
  · exact ⟨(timeColumn, .int now) :: values, .inr ⟨member, now, tells, rfl⟩⟩

/-- What holds of the given entries and of the time holds of the new row. -/
theorem NewRow.forall_mem {clock : Value} {values row : List (String × Value)}
    (isRow : NewRow clock values row) {property : String × Value -> Prop}
    (given : forall entry, entry ∈ values -> property entry)
    (time : forall now, property (timeColumn, .int now)) :
    forall entry, entry ∈ row -> property entry := by
  rcases isRow with ⟨-, rfl⟩ | ⟨-, now, -, rfl⟩
  · exact given
  · intro entry member
    rcases List.mem_cons.mp member with rfl | known
    · exact time now
    · exact given entry known

/-! ## Answers -/

/-- The rows of a response; without columns there are none. -/
def listed (response : Response) : List (List Value) :=
  if (response.columns.getD []).isEmpty then [] else response.rows

/-- The first value of a row, as a whole number. -/
def leading (stringified : Bool) (row : List Value) : Except Fault Value := do
  return (← QueryResult.convertRow stringified [some .integer] row).headD .null

/-- The count that a response tells; without a row it is missing. -/
def countOf (stringified : Bool) (response : Response) : Except Fault Value :=
  match listed response with
  | [] => .ok .null
  | row :: _ => leading stringified row

/-- The numbers of rows that a response tells. -/
def keysOf (stringified : Bool) (response : Response) : Except Fault (List Value) :=
  (listed response).mapM (leading stringified)

/-- An update counts the rows first, and is sent if there are any. -/
def Updated (database : Database) (before : Session α σ) (table : String)
    (counts updates : String × Option (List Value)) (outcome : Except Fault Unit)
    (left : Session α σ) : Prop :=
  match countOf (before.gateway.entry database.entry).params.stringifyFetches
      (before.gateway.driver.answer 0) with
  | .error fault => outcome = .error fault ∧ database.Asked [counts] before.gateway left.gateway
  | .ok count =>
    if count.isTrue then
      outcome = .ok () ∧ database.Asked [counts, updates] before.gateway left.gateway
    else
      outcome = .error (noSuchRecord table) ∧
        database.Asked [counts] before.gateway left.gateway

/-- An update or insertion asks for the numbers of the rows.  If there are none, a row is inserted
and its number asked for; otherwise the updates are sent, and the numbers were known. -/
def Upserted (database : Database) (before : Session α σ) (adapter : Adapter)
    (chooses inserts : String × Option (List Value))
    (updates : List (String × Option (List Value))) (outcome : Except Fault Value)
    (left : Session α σ) : Prop :=
  match keysOf (before.gateway.entry database.entry).params.stringifyFetches
      (before.gateway.driver.answer 0) with
  | .error fault => outcome = .error fault ∧ database.Asked [chooses] before.gateway left.gateway
  | .ok [] =>
    outcome = (insertedId adapter (before.gateway.driver.answer 1).lastRowId
        (before.gateway.driver.answer 2)).map .int ∧
      database.Asked (chooses :: inserts :: idQuestions adapter) before.gateway left.gateway
  | .ok (first :: rest) =>
    outcome = .ok (if rest.isEmpty then first else .list (first :: rest)) ∧
      database.Asked (chooses :: updates) before.gateway left.gateway

theorem isSpent_resultOf (query : ParsedQuery) (params : ConnectionParams)
    (cursor : Native.Cursor) :
    (resultOf query params cursor).isSpent = (cursor.response.columns.getD []).isEmpty := by
  simp only [QueryResult.isSpent, QueryResult.returnsRows, QueryResult.columnNames, resultOf,
    Bool.false_or, Bool.not_not]

section Answers

variable {query : ParsedQuery} {params : ConnectionParams} {cursor : Native.Cursor}
  (whole : query.columnTypes = [some .integer])
include whole

theorem readRow_of_resultOf (row : List Value) :
    (resultOf query params cursor).readRow .ordered row =
      (QueryResult.convertRow params.stringifyFetches [some .integer] row).map .tuple := by
  unfold QueryResult.readRow resultOf
  rw [whole]
  cases QueryResult.convertRow params.stringifyFetches [some .integer] row <;> rfl

theorem firstValue_of_resultOf (row : List Value) :
    ((resultOf query params cursor).readRow .ordered row).map firstValue =
      leading params.stringifyFetches row := by
  rw [readRow_of_resultOf whole, leading]
  cases QueryResult.convertRow params.stringifyFetches [some .integer] row with
  | error fault => rfl
  | ok values => cases values <;> rfl

/-- All rows are read before a column is selected, but selecting one does not fail. -/
theorem readRows_of_resultOf (rows : List (List Value)) :
    ((resultOf query params cursor).readRows .ordered rows >>= selectColumns (.int 0)) =
      rows.mapM (leading params.stringifyFetches) := by
  have selects (rows : List Value) : selectColumns (.int 0) rows =
      rows.mapM (selectColumn (.int 0)) :=
    rfl
  induction rows with
  | nil => rfl
  | cons row rest inductionHypothesis =>
      rw [List.mapM_cons, ← inductionHypothesis, QueryResult.readRows,
        readRow_of_resultOf whole, leading]
      cases QueryResult.convertRow params.stringifyFetches [some .integer] row with
      | error fault => rfl
      | ok values =>
          have selected : selectColumn (.int 0) (.tuple values) = .ok (values.headD .null) := by
            cases values <;> rfl
          cases (resultOf query params cursor).readRows .ordered rest with
          | error fault => rfl
          | ok others =>
              change selectColumns (.int 0) (.tuple values :: others) = _
              rw [selects, List.mapM_cons, selected]
              rfl

variable (fine : cursor.response.fetchError = none)
include fine

theorem fetchRow_of_resultOf :
    ((resultOf query params cursor).fetchRow .ordered).1.map firstValue =
      countOf params.stringifyFetches cursor.response := by
  unfold QueryResult.fetchRow QueryResult.fetchRow? countOf listed
  rw [isSpent_resultOf]
  cases (cursor.response.columns.getD []).isEmpty with
  | true => rfl
  | false =>
      have fetched : (resultOf query params cursor).cursor.fetchRow.1 =
          .ok cursor.response.rows.head? :=
        fetchRow_of_answer fine
      simp only [Bool.false_eq_true, if_false, fetched]
      cases cursor.response.rows with
      | nil => rfl
      | cons row rest =>
          have first : ((resultOf query params cursor).readRow .ordered row).map firstValue =
              leading params.stringifyFetches row :=
            firstValue_of_resultOf whole row
          simp only [← first]
          change (((resultOf query params cursor).readRow .ordered row >>=
            fun value => pure (some value)).map fun row => row.getD .null).map firstValue = _
          cases (resultOf query params cursor).readRow .ordered row <;> rfl

theorem fetchAll_of_resultOf :
    (((resultOf query params cursor).fetchAll .ordered).1 >>= selectColumns (.int 0)) =
      keysOf params.stringifyFetches cursor.response := by
  unfold QueryResult.fetchAll keysOf listed
  rw [isSpent_resultOf]
  cases (cursor.response.columns.getD []).isEmpty with
  | true => rfl
  | false =>
      have fetched : (resultOf query params cursor).cursor.fetchRows.1 =
          .ok cursor.response.rows :=
        fetchRows_of_answer fine
      simp only [Bool.false_eq_true, if_false, fetched]
      exact readRows_of_resultOf whole cursor.response.rows

end Answers

/-! ## Statements about rows -/

section Statements

variable {runner : HookRunner α σ} {database : Database} (keeps : runner.Keeps database)
  {session : Session α σ} {dialect : Dialect} {adapter : Adapter}
  (serves : database.Serves dialect adapter session.gateway)
  (supported : dialect ∈ Dialect.builtin) {table : String} (nameable : IsNameable dialect table)

section Chosen

variable {chosen : List (String × Value)}
  (good : forall entry, entry ∈ chosen -> (Value.text entry.1).isColumnName = true)
  {restricting : List Value} (restricts : BoundAs adapter.coercion chosen restricting)
include keeps serves supported nameable good restricts

theorem counting_yields :
    (counting runner database table (equationsText " AND " (columnsOf chosen)) chosen).Yields
      session fun outcome left =>
        outcome = countOf (session.gateway.entry database.entry).params.stringifyFetches
          (session.gateway.driver.answer 0) ∧
        database.Responded adapter
          (countStatement dialect.style (quotedForm dialect) table (chosen.map Prod.fst),
            some restricting) session.gateway left.gateway := by
  have parsed := Template.parse_countTemplate nameable (isNameable_columns supported good)
    dialect.style
  rw [columnsOf_names, columnsOf_codes] at parsed
  refine .map ((serves.withQuery_yields keeps supported parsed
    (bind_of_boundAs rfl restricts) _).mono ?_)
  rintro _ left ⟨⟨cursor, isAnswer, rfl⟩, responded⟩
  have fine := serves.obliges.fetches isAnswer
  exact ⟨(fetchRow_of_resultOf rfl fine).trans (by rw [isAnswer]), responded⟩

theorem choosing_yields :
    (choosing runner database table (equationsText " AND " (columnsOf chosen)) chosen).Yields
      session fun outcome left =>
        outcome = keysOf (session.gateway.entry database.entry).params.stringifyFetches
          (session.gateway.driver.answer 0) ∧
        database.Responded adapter
          (keyStatement dialect.style (quotedForm dialect) table (chosen.map Prod.fst),
            some restricting) session.gateway left.gateway := by
  have key : IsNameable dialect keyColumn :=
    isNameable_of_isColumnName supported isColumnName_keyColumn
  have parsed := Template.parse_keyTemplate nameable (isNameable_columns supported good) key
    dialect.style
  rw [columnsOf_names, columnsOf_codes] at parsed
  have mode : (Operation.ofExcept (resolveMode none (.int 0)) :
      Operation (Session α σ) FetchMode) = pure .ordered := rfl
  rw [choosing, fetchAll, mode, pure_bind]
  refine .bindExcept ((serves.withQuery_yields keeps supported parsed
    (bind_of_boundAs rfl restricts) _).mono ?_)
  rintro _ left ⟨⟨cursor, isAnswer, rfl⟩, responded⟩
  have fine := serves.obliges.fetches isAnswer
  exact ⟨(fetchAll_of_resultOf rfl fine).trans (by rw [isAnswer]), responded⟩

/-- An update sends the values of the columns before those of the conditions, as the columns
stand in its text. -/
theorem setColumns_gives {values : List (String × Value)}
    (goodValues : forall entry, entry ∈ values -> (Value.text entry.1).isColumnName = true)
    {setting : List Value} (sets : BoundAs adapter.coercion values setting) :
    (database.setColumns runner table (named values) (named chosen)
      (equationsText " AND " (columnsOf chosen))).Gives session fun _ left =>
        database.Responded adapter
          (updateStatement dialect.style (quotedForm dialect) table (values.map Prod.fst)
            (chosen.map Prod.fst), some (setting ++ restricting)) session.gateway left.gateway := by
  have parsed := Template.parse_updateTemplate nameable (isNameable_columns supported goodValues)
    (isNameable_columns supported good) dialect.style
  rcases parsed with ⟨types, parsed⟩
  rw [columnsOf_names, columnsOf_names, columnsOf_codes, columnsOf_codes] at parsed
  have codes : codesOf values ++ codesOf chosen = codesOf (values ++ chosen) :=
    List.map_append.symm
  have bound : BoundAs adapter.coercion (values ++ chosen) (setting ++ restricting) :=
    List.rel_append sets restricts
  unfold setColumns
  rw [assignments_columns goodValues, valuesOf_named, valuesOf_named, ← List.map_append]
  exact serves.run_gives keeps supported parsed (bind_of_boundAs codes bound)

/-- A deletion sends its one statement. -/
theorem deleteRows_gives {choice : Value} (chooses : conditions choice = named chosen) :
    (database.deleteRows runner table choice).Gives session fun _ left =>
      database.Responded adapter
        (deleteStatement dialect.style (quotedForm dialect) table (chosen.map Prod.fst),
          some restricting) session.gateway left.gateway := by
  have parsed := Template.parse_deleteTemplate nameable (isNameable_columns supported good)
    dialect.style
  rcases parsed with ⟨types, parsed⟩
  rw [columnsOf_names, columnsOf_codes] at parsed
  unfold deleteRows
  rw [chooses]
  simp only [assignments_columns good, valuesOf_named]
  exact serves.run_gives keeps supported parsed (bind_of_boundAs rfl restricts)

/-- A deletion succeeds, whether faults are reported or not. -/
theorem delete_yields {choice : Value} (chooses : conditions choice = named chosen)
    (reporting : Bool) :
    (database.delete runner table choice reporting).Yields session fun outcome left =>
      outcome = .ok true ∧
        database.Asked [(deleteStatement dialect.style (quotedForm dialect) table
          (chosen.map Prod.fst), some restricting)] session.gateway left.gateway := by
  have deletes := deleteRows_gives keeps serves supported nameable good restricts chooses
  refine .of_gives (.bind deletes.observe ?_)
  rintro _ left ⟨_, rfl, responded⟩
  exact .pure ⟨rfl, responded.toAsked⟩

end Chosen

/-! ## Changes of rows -/

section Changes

variable {values chosen row : List (String × Value)} {setting restricting parameters : List Value}
  (goodValues : forall entry, entry ∈ values -> (Value.text entry.1).isColumnName = true)

include keeps serves supported nameable goodValues in
/-- An insertion sends its statement with the values of the row, and then asks for its number. -/
theorem insert_yields (isRow : NewRow session.gateway.driver.clock values row)
    (bound : BoundAs adapter.coercion row parameters) :
    (database.insert runner table (named values)).Yields session fun outcome left =>
      outcome = insertedId adapter (session.gateway.driver.answer 0).lastRowId
        (session.gateway.driver.answer 1) ∧
      database.Asked
        ((insertStatement dialect.style (quotedForm dialect) table (row.map Prod.fst),
          some parameters) :: idQuestions adapter) session.gateway left.gateway := by
  have goodRow : forall entry, entry ∈ row -> (Value.text entry.1).isColumnName = true :=
    isRow.forall_mem goodValues fun _ => isColumnName_timeColumn
  have names : forall name, name ∈ table :: row.map Prod.fst -> IsNameable dialect name := by
    intro name member
    rcases List.mem_cons.mp member with rfl | column
    · exact nameable
    · rcases List.mem_map.mp column with ⟨entry, known, rfl⟩
      exact isNameable_of_isColumnName supported (goodRow entry known)
  rcases isRow.exists_cons with ⟨first, rest, rfl⟩
  have counted : (codesOf (first :: rest)).length = (first.1 :: rest.map Prod.fst).length := by
    rw [codesOf, List.length_map, List.length_cons, List.length_cons, List.length_map]
  rcases Template.parse_insertion names (codesOf (first :: rest)) counted dialect.style with
    ⟨types, parsed⟩
  refine .after_gives .get ?_
  rintro current _ ⟨isCurrent, rfl⟩
  rw [isCurrent]
  refine .after_gives (.ofExcept (newRow_of_isRow isRow)) ?_
  rintro _ _ ⟨rfl, rfl⟩
  refine .after_gives (.ofExcept (insertion_named table (first :: rest))) ?_
  rintro _ _ ⟨rfl, rfl⟩
  rw [valuesOf_named]
  refine .after_gives (serves.run_gives keeps supported parsed (bind_of_boundAs rfl bound)) ?_
  intro _ inserted responded
  rcases responded.connected with ⟨handle, held, isAdapter, isLast⟩
  have asks := askLastInsertId_yields held (responded.answers.obliges serves.obliges)
  rw [isAdapter, isLast, responded.answers.answer] at asks
  refine (library_yields asks).mono ?_
  rintro _ left ⟨isOutcome, asked⟩
  exact ⟨isOutcome, responded.toAsked.trans asked⟩

variable (good : forall entry, entry ∈ chosen -> (Value.text entry.1).isColumnName = true)
  (sets : BoundAs adapter.coercion values setting)
  (restricts : BoundAs adapter.coercion chosen restricting) {choice : Value}
  (chooses : conditions choice = named chosen)
include keeps serves supported nameable goodValues good sets restricts chooses

theorem update_yields :
    (database.update runner table (named values) choice).Yields session
      (database.Updated session table
        (countStatement dialect.style (quotedForm dialect) table (chosen.map Prod.fst),
          some restricting)
        (updateStatement dialect.style (quotedForm dialect) table (values.map Prod.fst)
          (chosen.map Prod.fst), some (setting ++ restricting))) := by
  unfold update Updated
  rw [chooses]
  refine .after_gives (.ofExcept (assignments_columns good " AND ")) ?_
  rintro restriction left ⟨isRestriction, isLeft⟩
  rw [isRestriction, isLeft, valuesOf_named]
  refine .bind (counting_yields keeps serves supported nameable good restricts) ?_
  rintro outcome counted ⟨isOutcome, responded⟩
  rw [← isOutcome]
  cases outcome with
  | error fault => exact ⟨rfl, responded.toAsked⟩
  | ok count =>
      cases truth : count.isTrue with
      | false =>
          simp only [truth]
          exact ⟨rfl, responded.toAsked⟩
      | true =>
          have updates := setColumns_gives keeps (serves.after_responded responded) supported
            nameable good restricts goodValues sets
          simp only [truth]
          refine .of_gives (updates.mono fun _ left updated => ?_)
          exact ⟨rfl, responded.toAsked.trans updated.toAsked⟩

theorem insertOrUpdate_yields (distinct : (chosen.map Prod.fst).Nodup)
    (isRow : NewRow session.gateway.driver.clock (values ++ lacking values chosen) row)
    (bound : BoundAs adapter.coercion row parameters) :
    (database.insertOrUpdate runner table (named values) choice).Yields session
      (database.Upserted session adapter
        (keyStatement dialect.style (quotedForm dialect) table (chosen.map Prod.fst),
          some restricting)
        (insertStatement dialect.style (quotedForm dialect) table (row.map Prod.fst),
          some parameters)
        (if values.isEmpty then []
        else [(updateStatement dialect.style (quotedForm dialect) table (values.map Prod.fst)
          (chosen.map Prod.fst), some (setting ++ restricting))])) := by
  unfold insertOrUpdate Upserted
  rw [chooses]
  refine .after_gives (.ofExcept (assignments_columns good " AND ")) ?_
  rintro restriction left ⟨isRestriction, isLeft⟩
  rw [isRestriction, isLeft, valuesOf_named]
  refine .bind (choosing_yields keeps serves supported nameable good restricts) ?_
  rintro outcome asked ⟨isOutcome, responded⟩
  have stillServes := serves.after_responded responded
  rw [← isOutcome]
  cases outcome with
  | error fault => exact ⟨rfl, responded.toAsked⟩
  | ok keys =>
      cases keys with
      | nil =>
          have all : forall entry, entry ∈ values ++ lacking values chosen ->
              (Value.text entry.1).isColumnName = true := by
            intro entry member
            rcases List.mem_append.mp member with given | taken
            · exact goodValues entry given
            · exact good entry (List.mem_of_mem_filter taken)
          rw [← responded.answers.clock] at isRow
          have inserts := insert_yields keeps stillServes supported nameable all isRow bound
          rw [responded.answers.answer, responded.answers.answer] at inserts
          simp only [completed_named distinct]
          refine .map (inserts.mono ?_)
          rintro found left ⟨isFound, sent⟩
          exact ⟨congrArg _ isFound, responded.toAsked.trans sent⟩
      | cons first rest =>
          cases values with
          | nil => exact .of_gives (.pure ⟨rfl, responded.toAsked⟩)
          | cons entry values =>
              have updates := setColumns_gives keeps stillServes supported nameable good restricts
                goodValues sets
              refine .of_gives (.bind updates fun _ left updated => .pure ?_)
              exact ⟨rfl, responded.toAsked.trans updated.toAsked⟩

end Changes

end Statements

/-! ## All changes -/

/-- The table has a name without brackets that can be quoted, the columns have names of letters and
digits, and the values can be bound; the rows are chosen by entries, or by a number in the key
column.  Then an update, an update or insertion, and a deletion send these statements, in which
every name stands quoted before the marker of its value: the parameters of an update are those of
its values and then those of its conditions, and the row that is inserted has the values and what
they lack of the conditions. -/
theorem values_bound_to_columns {runner : HookRunner α σ} {database : Database}
    (keeps : runner.Keeps database) {session : Session α σ} {dialect : Dialect}
    (supported : dialect ∈ Dialect.builtin) {adapter : Adapter}
    (serves : database.Serves dialect adapter session.gateway) {table quoted : String}
    (plain : '[' ∉ table.toList) (closed : ']' ∉ table.toList)
    (quotable : dialect.quoteIdentifier table = .ok quoted)
    {values chosen : List (String × Value)}
    (good : forall entry, entry ∈ values ++ chosen -> (Value.text entry.1).isColumnName = true)
    (bindable : forall entry, entry ∈ values ++ chosen -> IsBindable adapter.coercion entry)
    (distinct : (chosen.map Prod.fst).Nodup) {choice : Value}
    (chooses : conditions choice = named chosen) :
    exists (quotes : String → String) (setting restricting : List Value)
        (row : List (String × Value)) (parameters : List Value),
      (forall name, name ∈ [table, keyColumn, timeColumn] ++ (values ++ chosen).map Prod.fst ->
        dialect.quoteIdentifier name = .ok (quotes name)) ∧
      BoundAs adapter.coercion values setting ∧
      BoundAs adapter.coercion chosen restricting ∧
      NewRow session.gateway.driver.clock (values ++ lacking values chosen) row ∧
      BoundAs adapter.coercion row parameters ∧
      let style := dialect.style
      let columns := values.map Prod.fst
      let conditions := chosen.map Prod.fst
      let counts := (countStatement style quotes table conditions, some restricting)
      let asks := (keyStatement style quotes table conditions, some restricting)
      let updates := (updateStatement style quotes table columns conditions,
        some (setting ++ restricting))
      let inserts := (insertStatement style quotes table (row.map Prod.fst), some parameters)
      let deletes := (deleteStatement style quotes table conditions, some restricting)
      (database.update runner table (named values) choice).Yields session
        (database.Updated session table counts updates) ∧
      (database.insertOrUpdate runner table (named values) choice).Yields session
        (database.Upserted session adapter asks inserts
          (if values.isEmpty then [] else [updates])) ∧
      forall reporting, (database.delete runner table choice reporting).Yields session
        fun outcome left =>
          outcome = .ok true ∧ database.Asked [deletes] session.gateway left.gateway := by
  have goodValues : forall entry, entry ∈ values -> (Value.text entry.1).isColumnName = true :=
    fun entry member => good entry (List.mem_append_left _ member)
  have goodChosen : forall entry, entry ∈ chosen -> (Value.text entry.1).isColumnName = true :=
    fun entry member => good entry (List.mem_append_right _ member)
  have nameable : IsNameable dialect table :=
    Template.isNameable_of_quoteIdentifier plain closed quotable
  rcases exists_boundAs fun entry member => bindable entry (List.mem_append_left _ member) with
    ⟨setting, sets⟩
  rcases exists_boundAs fun entry member => bindable entry (List.mem_append_right _ member) with
    ⟨restricting, restricts⟩
  rcases serves.obliges.tells with ⟨now, tells⟩
  rcases exists_newRow tells (values ++ lacking values chosen) with ⟨row, isRow⟩
  have given := isBindable_of_lacking bindable
  rcases exists_boundAs (isRow.forall_mem given (isBindable_int adapter.coercion timeColumn)) with
    ⟨parameters, bound⟩
  refine ⟨quotedForm dialect, setting, restricting, row, parameters,
    quoteIdentifier_columns supported nameable good, sets, restricts, isRow, bound, ?_, ?_, ?_⟩
  · exact update_yields keeps serves supported nameable goodValues goodChosen sets restricts
      chooses
  · exact insertOrUpdate_yields keeps serves supported nameable goodValues goodChosen sets
      restricts chooses distinct isRow bound
  · exact delete_yields keeps serves supported nameable goodChosen restricts chooses

/-- The database in memory serves over responses without faults. -/
theorem serves_scripted {responses : List Response}
    (fine : forall response, response ∈ responses ->
      response.error = none ∧ response.fetchError = none ∧ response.closeError = none) :
    memory.Serves Gateway.memoryParams.dialect .sqlite (scripted responses).gateway where
  dialect := rfl
  sound := Template.Cache.sound_ofCapacity _
  obliges := ⟨fine, (fun _ _ listed => nomatch listed), 0, rfl⟩
  connects := ⟨_, rfl, rfl⟩

theorem keeps_idleHooks (database : Database) :
    (Session.idleHooks : HookRunner α σ).Keeps database :=
  fun _ _ _ _ session => .pure (refl_of database.Kept session.gateway)

/-- A session with an answer of two rows. -/
def twoRows : Session Unit Unit :=
  scripted [{ columns := some [keyColumn], rows := [[.int 3], [.int 8]] }]

/-- Values for two columns. -/
def sizedRow : List (String × Value) := [("name", .text "x"), ("size", .int 2)]

/-- The choice of rows by a name. -/
def namesakes : List (String × Value) := [("name", .text "y")]

/-- There are two rows, which are updated. -/
theorem values_bound_to_columns_of_two :
    memory.Serves Gateway.memoryParams.dialect .sqlite twoRows.gateway ∧
    (memory.insertOrUpdate Session.idleHooks "t" (named sizedRow)
      (.mapping .table (named namesakes))).outcome twoRows = .ok (.list [.int 3, .int 8]) ∧
    ((memory.insertOrUpdate Session.idleHooks "t" (named sizedRow)
      (.mapping .table (named namesakes))).after twoRows).gateway.driver.statements =
        [("SELECT \x22RecordID\x22 FROM \x22t\x22 WHERE \x22name\x22 = ?", some [.text "y"]),
          ("UPDATE \x22t\x22 SET \x22name\x22 = ?, \x22size\x22 = ? WHERE \x22name\x22 = ?",
            some [.text "x", .int 2, .text "y"])] := by
  have serves : memory.Serves Gateway.memoryParams.dialect .sqlite twoRows.gateway := by
    apply serves_scripted
    intro response member
    rw [List.mem_singleton.mp member]
    exact ⟨rfl, rfl, rfl⟩
  have entries : forall entry, entry ∈ sizedRow ++ namesakes ->
      (Value.text entry.1).isColumnName = true ∧ IsBindable Adapter.sqlite.coercion entry := by
    intro entry member
    simp only [sizedRow, namesakes, List.cons_append, List.nil_append, List.mem_cons,
      List.not_mem_nil, or_false] at member
    rcases member with rfl | rfl | rfl
    · exact ⟨by decide, .text "x", rfl⟩
    · exact ⟨by decide, .int 2, rfl⟩
    · exact ⟨by decide, .text "y", rfl⟩
  have goodNames (entry : String × Value) (member : entry ∈ sizedRow ++ namesakes) :=
    (entries entry member).1
  have bindable (entry : String × Value) (member : entry ∈ sizedRow ++ namesakes) :=
    (entries entry member).2
  have plain : '[' ∉ "t".toList := by decide
  have closed : ']' ∉ "t".toList := by decide
  have supported : Gateway.memoryParams.dialect ∈ Dialect.builtin := by decide
  have quotable : Gateway.memoryParams.dialect.quoteIdentifier "t" = .ok "\x22t\x22" := rfl
  have distinct : (namesakes.map Prod.fst).Nodup := by decide
  have chooses : conditions (.mapping .table (named namesakes)) = named namesakes := rfl
  rcases values_bound_to_columns (keeps_idleHooks memory) supported serves plain closed quotable
    goodNames bindable distinct chooses with
    ⟨quotes, setting, restricting, row, parameters, quoted, sets, restricts, -, -, -, upserts, -⟩
  have known : keysOf (twoRows.gateway.entry memory.entry).params.stringifyFetches
      (twoRows.gateway.driver.answer 0) = .ok [.int 3, .int 8] := rfl
  unfold Operation.Yields Upserted at upserts
  rw [known] at upserts
  have before : twoRows.gateway.driver.statements = [] := rfl
  have sent := upserts.2.answers.statements
  rw [before, sets.unique (.cons rfl (.cons rfl .nil)), restricts.unique (.cons rfl .nil)] at sent
  have isTable : quotes "t" = "\x22t\x22" :=
    Except.ok.inj ((quoted "t" (by decide)).symm.trans rfl)
  have isKey : quotes keyColumn = "\x22RecordID\x22" :=
    Except.ok.inj ((quoted keyColumn (by decide)).symm.trans rfl)
  have isName : quotes "name" = "\x22name\x22" :=
    Except.ok.inj ((quoted "name" (by decide)).symm.trans rfl)
  have isSize : quotes "size" = "\x22size\x22" :=
    Except.ok.inj ((quoted "size" (by decide)).symm.trans rfl)
  refine ⟨serves, upserts.1, sent.trans ?_⟩
  unfold keyStatement updateStatement Template.choice Template.equations namesakes sizedRow
  simp only [List.map_cons, List.map_nil, List.zipIdx_cons, List.zipIdx_nil, isTable, isKey,
    isName, isSize]
  rfl

end Database
end SqlGateway
