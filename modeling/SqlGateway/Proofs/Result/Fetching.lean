import Mathlib.Data.List.Forall2
import SqlGateway.Result

namespace SqlGateway

/-!
# Rows one by one and all at once

A result hands out its rows in two ways, and each way moves the same cursor.  A single fetch reads
one row, converts its values and moves on by one row, whether the values could be converted or not.
A fetch of all rows takes what is left and then converts it, up to the first row that cannot be
converted.

So one step is said once: what a single fetch gives is decided by the first row that is left, and
what it leaves is the result without that row.  Everything else is an induction on the rows.
-/

namespace QueryResult

/-! ## Converted rows -/

/-- The values of a row, each in the kind that is declared at its place.  Nothing is declared beyond
the end of the list of kinds. -/
def converted (result : QueryResult) (row : List Value) : Except Fault (List Value) :=
  row.zipIdx.mapM fun entry =>
    Column.convert entry.1 (result.columnTypes[entry.2]?).join result.stringified

/-- A row as it is handed out. -/
def handedOut (result : QueryResult) (mode : FetchMode) (row : List Value) : Except Fault Value :=
  (result.converted row).map (shape result.columnNames mode)

section HandedOut

variable {result : QueryResult} {row : List Value}

theorem handedOut_of_ok {values : List Value} (converted : result.converted row = .ok values)
    (mode : FetchMode) :
    result.handedOut mode row = .ok (shape result.columnNames mode values) := by
  rw [handedOut, converted]
  rfl

theorem handedOut_of_error {fault : Fault} (failed : result.converted row = .error fault)
    (mode : FetchMode) : result.handedOut mode row = .error fault := by
  rw [handedOut, failed]
  rfl

end HandedOut

theorem convertRow_eq (stringified : Bool) (types : List (Option TypeCode)) (row : List Value)
    (place : Nat) :
    convertRow stringified (types.drop place) row = (row.zipIdx place).mapM fun entry =>
      Column.convert entry.1 (types[entry.2]?).join stringified := by
  induction row generalizing place with
  | nil => rfl
  | cons value row inductionHypothesis =>
      rw [List.zipIdx_cons, List.mapM_cons, ← inductionHypothesis, convertRow, List.head?_drop,
        List.tail_drop]

theorem readRow_eq (result : QueryResult) (mode : FetchMode) (row : List Value) :
    result.readRow mode row = result.handedOut mode row := by
  have same := convertRow_eq result.stringified result.columnTypes row 0
  rw [List.drop_zero] at same
  unfold readRow handedOut converted
  rw [← same]
  cases convertRow result.stringified result.columnTypes row <;> rfl

theorem readRows_eq (result : QueryResult) (mode : FetchMode) (rows : List (List Value)) :
    result.readRows mode rows = rows.mapM (result.handedOut mode) := by
  induction rows with
  | nil => rfl
  | cons row rows inductionHypothesis =>
      rw [readRows, List.mapM_cons, readRow_eq, inductionHypothesis]

/-- No row is handed out as the missing value. -/
theorem shape_ne_null (names : List String) (mode : FetchMode) (values : List Value) :
    shape names mode values ≠ .null := by
  cases mode <;> nofun

/-! ## One step -/

def rows (result : QueryResult) : List (List Value) := result.cursor.response.rows

/-- The result when so many of its rows were fetched. -/
def past (result : QueryResult) (count : Nat) : QueryResult :=
  { result with cursor := result.cursor.withRows (result.rows.drop count) }

/-- A result that was not freed, has a column and does not fail when rows are fetched. -/
structure IsFetchable (result : QueryResult) : Prop where
  unclosed : result.closed = false
  named : result.columnNames ≠ []
  fine : result.cursor.response.fetchError = none

section Past

variable (result : QueryResult) (count : Nat)

@[simp] theorem rows_past : (result.past count).rows = result.rows.drop count :=
  rfl

theorem past_past (more : Nat) : (result.past count).past more = result.past (count + more) := by
  unfold past
  rw [← List.drop_drop]
  rfl

variable {result}

/-- When the first row was fetched, the others are still converted as they were. -/
theorem converts_past {table : List (List Value)}
    (converts : List.Forall₂ (fun row values => result.converted row = .ok values)
      result.rows table) :
    List.Forall₂ (fun row values => (result.past 1).converted row = .ok values)
      (result.past 1).rows (table.drop 1) :=
  List.forall₂_drop 1 converts

theorem IsFetchable.past (fetchable : result.IsFetchable) : (result.past count).IsFetchable :=
  ⟨fetchable.unclosed, fetchable.named, fetchable.fine⟩

end Past

section Steps

variable {result : QueryResult} (fetchable : result.IsFetchable)
include fetchable

theorem IsFetchable.isSpent : result.isSpent = false := by
  have unnamed : result.columnNames.isEmpty = false := List.isEmpty_eq_false_iff.mpr fetchable.named
  rw [QueryResult.isSpent, returnsRows, unnamed, fetchable.unclosed]
  rfl

/-- A single fetch hands out the first row that is left, and leaves the others. -/
theorem IsFetchable.fetchRow? (mode : FetchMode) :
    result.fetchRow? mode =
      (match result.rows with
        | [] => .ok none
        | row :: _ => (result.handedOut mode row).map some,
      result.past 1) := by
  have fine := fetchable.fine
  unfold QueryResult.fetchRow? Native.Cursor.fetchRow QueryResult.past rows
  rw [fetchable.isSpent, fine]
  cases left : result.cursor.response.rows with
  | nil =>
      have kept : result.cursor.withRows [] = result.cursor := by
        rw [← left]
        rfl
      rw [List.drop_nil, kept]
      rfl
  | cons row rest =>
      refine Prod.ext ?_ rfl
      change (do return some (← result.readRow mode row)) = (result.handedOut mode row).map some
      rw [readRow_eq]
      cases result.handedOut mode row <;> rfl

/-- A fetch of all rows hands out those that are left, up to the first that fails. -/
theorem IsFetchable.fetchAll (mode : FetchMode) :
    result.fetchAll mode =
      (result.rows.mapM (result.handedOut mode), result.past result.rows.length) := by
  have fine := fetchable.fine
  unfold QueryResult.fetchAll Native.Cursor.fetchRows QueryResult.past rows
  rw [fetchable.isSpent, fine, ← readRows_eq, List.drop_length]
  rfl

/-- What a single fetch gives the caller. -/
theorem IsFetchable.fetchRow (mode : FetchMode) :
    result.fetchRow mode =
      (match result.rows with
        | [] => .ok .null
        | row :: _ => result.handedOut mode row,
      result.past 1) := by
  rw [QueryResult.fetchRow, fetchable.fetchRow?]
  cases result.rows with
  | nil => rfl
  | cons row rest =>
      refine Prod.ext ?_ rfl
      change ((result.handedOut mode row).map some).map (fun row => row.getD .null) =
        result.handedOut mode row
      cases result.handedOut mode row <;> rfl

/-- When no row is left, a single fetch gives nothing and changes nothing. -/
theorem IsFetchable.fetchRow_of_drained (drained : result.rows = []) (mode : FetchMode) :
    result.fetchRow mode = (.ok .null, result) := by
  have same : result.past 1 = result := by
    have kept : result.cursor.withRows [] = result.cursor := by
      rw [← drained]
      rfl
    rw [QueryResult.past, drained, List.drop_nil, kept]
  rw [fetchable.fetchRow, drained, same]

end Steps

/-! ## Runs -/

/-- Fetch a row in each of the given forms, and keep what came of each fetch. -/
def fetchEach : List FetchMode → QueryResult → List (Except Fault Value) × QueryResult
  | [], result => ([], result)
  | mode :: modes, result =>
    let (outcome, left) := result.fetchRow mode
    let (outcomes, left) := fetchEach modes left
    (outcome :: outcomes, left)

/-- The fault that an outcome tells. -/
def fault? {α : Type} : Except Fault α → Option Fault
  | .ok _ => none
  | .error fault => some fault

section Runs

variable {result : QueryResult} (fetchable : result.IsFetchable) (modes : List FetchMode)
include fetchable

/-- So many single fetches leave the result without so many rows. -/
theorem IsFetchable.left_of_fetchEach :
    (fetchEach modes result).2 = result.past modes.length := by
  induction modes generalizing result with
  | nil => rfl
  | cons mode modes inductionHypothesis =>
      rw [fetchEach, fetchable.fetchRow mode, inductionHypothesis (fetchable.past 1), past_past,
        List.length_cons, Nat.add_comm]

/-- If the rows can be converted, single fetches hand them out in order, and then nothing. -/
theorem IsFetchable.fetchEach_of_converted {table : List (List Value)}
    (converts : List.Forall₂ (fun row values => result.converted row = .ok values)
      result.rows table) :
    (fetchEach modes result).1 =
      List.zipWith (fun mode values => .ok (shape result.columnNames mode values)) modes table ++
        List.replicate (modes.length - table.length) (.ok .null) := by
  induction modes generalizing result table with
  | nil => simp [fetchEach]
  | cons mode modes inductionHypothesis =>
      have rest := inductionHypothesis (fetchable.past 1) (converts_past converts)
      rw [fetchEach, fetchable.fetchRow mode]
      cases left : result.rows with
      | nil =>
          rw [left] at converts
          cases converts
          rw [List.drop_nil, List.zipWith_nil_right, List.nil_append] at rest
          rw [List.zipWith_nil_right, List.nil_append]
          exact congrArg (.ok .null :: ·) rest
      | cons row rows =>
          rw [left] at converts
          cases converts with
          | @cons _ values _ table converted later =>
              rw [List.zipWith_cons_cons, List.length_cons, List.length_cons, Nat.add_sub_add_right,
                List.cons_append, ← handedOut_of_ok converted mode]
              exact congrArg (result.handedOut mode row :: ·) rest

/-- Enough single fetches meet the fault of a fetch of all rows as their first one. -/
theorem IsFetchable.findSome?_fetchEach (mode : FetchMode)
    (enough : result.rows.length ≤ modes.length) :
    (fetchEach modes result).1.findSome? fault? = fault? (result.fetchAll mode).1 := by
  rw [fetchable.fetchAll]
  induction modes generalizing result with
  | nil =>
      rw [List.eq_nil_of_length_eq_zero (Nat.le_zero.mp enough)]
      rfl
  | cons each modes inductionHypothesis =>
      rw [List.length_cons] at enough
      have fewer : (result.past 1).rows.length ≤ modes.length := by
        rw [rows_past, List.length_drop]
        exact Nat.sub_le_of_le_add enough
      have rest := inductionHypothesis (fetchable.past 1) fewer
      rw [rows_past] at rest
      rw [fetchEach, fetchable.fetchRow each]
      cases left : result.rows with
      | nil =>
          rw [left] at rest
          exact rest
      | cons row rows =>
          rw [left] at rest
          rw [List.mapM_cons]
          change (result.handedOut each row :: (fetchEach modes (result.past 1)).1).findSome? fault? = _
          rw [List.findSome?_cons, rest]
          cases found : result.converted row with
          | error fault =>
              rw [handedOut_of_error found each, handedOut_of_error found mode]
              rfl
          | ok values =>
              rw [handedOut_of_ok found each, handedOut_of_ok found mode]
              change fault? (rows.mapM (result.handedOut mode)) = _
              cases rows.mapM (result.handedOut mode) <;> rfl

theorem IsFetchable.takeRows_of_converted {table : List (List Value)}
    (converts : List.Forall₂ (fun row values => result.converted row = .ok values)
      result.rows table) :
    takeRows (table.length + 1) result =
      (table.map .tuple, none, result.past (table.length + 1)) := by
  induction table generalizing result with
  | nil =>
      have drained : result.rows = [] := List.forall₂_nil_right_iff.mp converts
      rw [takeRows, fetchable.fetchRow?, drained]
      rfl
  | cons values table inductionHypothesis =>
      have rest := inductionHypothesis (fetchable.past 1) (converts_past converts)
      rcases List.forall₂_cons_right_iff.mp converts with ⟨row, rows, converted, later, left⟩
      have first : result.handedOut .ordered row = .ok (.tuple values) :=
        handedOut_of_ok converted .ordered
      rw [takeRows, fetchable.fetchRow?, left]
      simp only [first, Except.map, List.length_cons, rest, past_past, Nat.add_comm 1]
      rfl

/-- If the rows can be converted, reading them one after the other gives all of them as tuples. -/
theorem IsFetchable.iterate_of_converted {table : List (List Value)}
    (converts : List.Forall₂ (fun row values => result.converted row = .ok values)
      result.rows table) :
    result.iterate = (table.map .tuple, none, result.past (result.rows.length + 1)) := by
  have taken := fetchable.takeRows_of_converted converts
  rw [← converts.length_eq] at taken
  exact taken

end Runs

/-- The values of rows that can be converted, in one form. -/
theorem mapM_handedOut (result : QueryResult) (mode : FetchMode) {rows : List (List Value)}
    {table : List (List Value)}
    (converts : List.Forall₂ (fun row values => result.converted row = .ok values) rows table) :
    rows.mapM (result.handedOut mode) = .ok (table.map (shape result.columnNames mode)) := by
  induction converts with
  | nil => rfl
  | cons converted _ inductionHypothesis =>
      rw [List.mapM_cons, inductionHypothesis, handedOut_of_ok converted]
      rfl

/-- If a row cannot be converted, a fetch of all rows fails. -/
theorem mapM_handedOut_of_error (result : QueryResult) (mode : FetchMode)
    {rows : List (List Value)} {row : List Value} {fault : Fault} (member : row ∈ rows)
    (failed : result.converted row = .error fault) :
    exists raised, rows.mapM (result.handedOut mode) = .error raised := by
  induction rows with
  | nil => cases member
  | cons first rows inductionHypothesis =>
      rw [List.mapM_cons]
      cases found : result.handedOut mode first with
      | error raised => exact ⟨raised, rfl⟩
      | ok value =>
          rcases List.mem_cons.mp member with rfl | later
          · cases (handedOut_of_error failed mode).symm.trans found
          · rcases inductionHypothesis later with ⟨raised, refused⟩
            rw [refused]
            exact ⟨raised, rfl⟩

/-! ## Both ways -/

/-- What fetching gives of a result of which all rows can be converted: single fetches hand them out in
order, a fetch of all rows hands out the others, and then there are none; reading them one after the
other gives the same rows as tuples. -/
structure HandsOut (result : QueryResult) (table : List (List Value)) (modes : List FetchMode)
    (mode : FetchMode) : Prop where
  singly : (fetchEach modes result).1 =
    List.zipWith (fun each values => .ok (shape result.columnNames each values)) modes table ++
      List.replicate (modes.length - table.length) (.ok .null)
  others : ((fetchEach modes result).2.fetchAll mode).1 =
    .ok ((table.drop modes.length).map (shape result.columnNames mode))
  spent : forall each, ((fetchEach modes result).2.fetchAll mode).2.fetchRow each =
    (.ok .null, ((fetchEach modes result).2.fetchAll mode).2)
  iterated : exists left, result.iterate = (table.map .tuple, none, left)

/-- A result that was freed has no rows, stays as it is, and does not close its cursor again. -/
structure IsDead (result : QueryResult) : Prop where
  noRow : forall mode, result.fetchRow mode = (.ok .null, result)
  noRows : forall mode, result.fetchAll mode = (.ok [], result)
  noIteration : result.iterate = ([], none, result)
  noCall : forall driver, result.free driver = .ok () driver

theorem isDead_freed (result : QueryResult) : result.freed.IsDead :=
  ⟨fun _ => rfl, fun _ => rfl, rfl, fun _ => rfl⟩

theorem IsFetchable.handsOut {result : QueryResult} (fetchable : result.IsFetchable)
    {table : List (List Value)}
    (converts : List.Forall₂ (fun row values => result.converted row = .ok values)
      result.rows table) (modes : List FetchMode) (mode : FetchMode) :
    result.HandsOut table modes mode := by
  have after : ((fetchEach modes result).2.fetchAll mode) =
      (.ok ((table.drop modes.length).map (shape result.columnNames mode)),
        (result.past modes.length).past (result.past modes.length).rows.length) := by
    rw [fetchable.left_of_fetchEach, (fetchable.past _).fetchAll]
    refine Prod.ext ?_ rfl
    exact mapM_handedOut result mode (List.forall₂_drop modes.length converts)
  constructor
  · exact fetchable.fetchEach_of_converted modes converts
  · rw [after]
  · intro each
    rw [after]
    refine ((fetchable.past _).past _).fetchRow_of_drained ?_ each
    rw [rows_past, List.drop_length]
  · exact ⟨_, fetchable.iterate_of_converted converts⟩

/-- Single fetches and fetches of all rows agree.  If all rows can be converted, they hand out the
converted rows in order, wherever the one way is left for the other.  If a row cannot be converted, a
fetch of all rows fails as the first single fetch does that fails.  A row is never the missing value,
with which single fetches tell the end, and a result that was freed has no rows. -/
theorem fetches_agree {result : QueryResult} (fetchable : result.IsFetchable)
    (modes : List FetchMode) (mode : FetchMode) :
    (forall table, List.Forall₂ (fun row values => result.converted row = .ok values)
      result.rows table -> result.HandsOut table modes mode) ∧
    (forall row fault, row ∈ result.rows -> result.converted row = .error fault ->
      result.rows.length ≤ modes.length ->
        exists raised, (result.fetchAll mode).1 = .error raised ∧
          (fetchEach modes result).1.findSome? fault? = some raised) ∧
    (forall values, shape result.columnNames mode values ≠ .null) ∧
    result.freed.IsDead := by
  refine ⟨fun table converts => fetchable.handsOut converts modes mode, ?_,
    shape_ne_null result.columnNames mode, isDead_freed result⟩
  intro row fault member failed enough
  rw [fetchable.findSome?_fetchEach modes mode enough, fetchable.fetchAll]
  rcases mapM_handedOut_of_error result mode member failed with ⟨raised, refused⟩
  refine ⟨raised, refused, ?_⟩
  rw [refused]
  rfl

/-- One row is fetched as a table and the other as a tuple; the second column is not declared. -/
theorem fetches_agree_of_two_rows :
    let result : QueryResult := {
      cursor := ⟨default, 1, {
        columns := some ["a", "b"]
        rows := [[.text "1", .text "x"], [.null, .int 2]] }⟩
      columnTypes := [some .integer]
      stringified := false
      driverFaults := none
      closed := false
      sql := "" }
    result.IsFetchable ∧ result.HandsOut [[.int 1, .text "x"], [.null, .int 2]] [.assoc] .ordered ∧
      result.freed.IsDead := by
  intro result
  have fetchable : result.IsFetchable := ⟨rfl, List.cons_ne_nil "a" ["b"], rfl⟩
  rcases fetches_agree fetchable [.assoc] .ordered with ⟨handsOut, -, -, dead⟩
  exact ⟨fetchable, handsOut _ (.cons rfl (.cons rfl .nil)), dead⟩

end QueryResult
end SqlGateway
