import Mathlib.Data.List.Forall2
import SqlGateway.Database.Rows
import SqlGateway.Proofs.Database.Dialogue
import SqlGateway.Proofs.Session.Quiet

namespace SqlGateway

/-!
# Changes of rows do not tell their values

A change of rows is a dialogue with the database.  Its templates are put together from the names
of columns and from the kinds of values, and how it goes on depends on them and on the answers.
The values themselves only go to the placeholders.  So changes of the same columns with
values of the same kinds are alike, in both ways that an update or insertion may go.

They are run side by side, from one session and with the same responses to come.  The native
texts are then the same, hooks are told the same, and what is left differs in the recorded
parameters only.
-/

open Session (library)

namespace Database

/-! ## Entries of the same columns -/

/-- The entries are of one column, and their values of one kind. -/
def SameKind (entry other : Value × Value) : Prop :=
  entry.1 = other.1 ∧ Parameter.inferCode entry.2 = Parameter.inferCode other.2

/-- The same columns in the same order, with values of the same kinds. -/
def Matching (entries others : List (Value × Value)) : Prop :=
  List.Forall₂ SameKind entries others

namespace Matching

variable {entries others : List (Value × Value)}

theorem equations (matching : Matching entries others) : equations entries = equations others := by
  induction matching with
  | nil => rfl
  | @cons entry other rest otherRest same _ inductionHypothesis =>
      rcases entry with ⟨column, value⟩
      rcases other with ⟨_, otherValue⟩
      rcases same with ⟨rfl, sameCode⟩
      have placeholder : Parameter.placeholderFor value = Parameter.placeholderFor otherValue :=
        congrArg TypeCode.placeholder sameCode
      simp only [Database.equations, inductionHypothesis, placeholder]

theorem assignments (matching : Matching entries others) (separator : String) :
    assignments entries separator = assignments others separator := by
  rw [Database.assignments, Database.assignments, matching.equations]

theorem columnTexts (matching : Matching entries others) :
    columnTexts entries = columnTexts others := by
  induction matching with
  | nil => rfl
  | @cons entry other rest otherRest same _ inductionHypothesis =>
      rcases entry with ⟨column, value⟩
      rcases other with ⟨_, otherValue⟩
      rcases same with ⟨rfl, -⟩
      cases column <;> simp only [Database.columnTexts, inductionHypothesis]

theorem insertion (matching : Matching entries others) (table : String) :
    insertion table entries = insertion table others := by
  have placeholders : (entries.map fun entry => Parameter.placeholderFor entry.2) =
      others.map fun entry => Parameter.placeholderFor entry.2 := by
    induction matching with
    | nil => rfl
    | cons same _ inductionHypothesis =>
        rw [List.map_cons, List.map_cons, inductionHypothesis]
        exact congrArg (fun code => TypeCode.placeholder code :: _) same.2
  rw [Database.insertion, Database.insertion, matching.columnTexts, placeholders]

/-- A key is in both or in neither. -/
theorem lookup (matching : Matching entries others) (key : Value) :
    (exists value otherValue, Value.lookup key entries = some value ∧
      Value.lookup key others = some otherValue) ∨
    Value.lookup key entries = none ∧ Value.lookup key others = none := by
  induction matching with
  | nil => exact Or.inr ⟨rfl, rfl⟩
  | @cons entry other rest otherRest same _ inductionHypothesis =>
      rcases entry with ⟨column, value⟩
      rcases other with ⟨_, otherValue⟩
      rcases same with ⟨rfl, -⟩
      unfold Value.lookup
      by_cases found : Value.isKey key column
      · rw [if_pos found, if_pos found]
        exact Or.inl ⟨value, otherValue, rfl, rfl⟩
      · rw [if_neg found, if_neg found]
        exact inductionHypothesis

theorem isEmpty (matching : Matching entries others) : entries.isEmpty = others.isEmpty := by
  cases matching <;> rfl

/-- New rows are made of both, or of neither. -/
theorem newRow (matching : Matching entries others) (clock : Value) :
    (exists fault, newRow clock entries = .error fault ∧ newRow clock others = .error fault) ∨
    exists row otherRow, newRow clock entries = .ok row ∧ newRow clock others = .ok otherRow ∧
      Matching row otherRow := by
  unfold Database.newRow
  rcases matching.lookup (.text timeColumn) with ⟨_, _, found, otherFound⟩ | ⟨found, otherFound⟩
  · rw [found, otherFound]
    exact Or.inr ⟨entries, others, rfl, rfl, matching⟩
  · rw [found, otherFound]
    cases clock.toInt with
    | error fault => exact Or.inl ⟨fault, rfl, rfl⟩
    | ok now => exact Or.inr ⟨_, _, rfl, rfl, .cons ⟨rfl, rfl⟩ matching⟩

/-- Conditions complete both rows by the same columns. -/
theorem completed (matching : Matching entries others) {chosen otherChosen : List (Value × Value)}
    (chosenMatching : Matching chosen otherChosen) :
    Matching (completed entries chosen) (completed others otherChosen) := by
  induction chosenMatching generalizing entries others with
  | nil => exact matching
  | @cons entry other rest otherRest same _ inductionHypothesis =>
      unfold Database.completed
      rw [List.foldl_cons, List.foldl_cons, ← same.1]
      refine inductionHypothesis ?_
      rcases matching.lookup entry.1 with ⟨_, _, found, otherFound⟩ | ⟨found, otherFound⟩
      · rw [found, otherFound]
        exact matching
      · rw [found, otherFound]
        exact List.rel_append matching (.cons same .nil)

end Matching

/-! ## Changes as dialogues -/

section Dialogues

variable {α σ β : Type} (runner : HookRunner α σ) (database : Database) (table : String)

def inserting (values : List (Value × Value)) (next : Int → Dialogue α σ β) : Dialogue α σ β :=
  .useThen (do return (← get).gateway.driver.clock) fun clock =>
  .attempt (newRow clock values) fun row =>
  .attempt (insertion table row) fun template =>
  .tell template (valuesOf row) <|
  .useThen (library database.lastInsertId) next

/-- Set columns of the rows that meet conditions, and go on. -/
def settingColumns (values chosen : List (Value × Value)) (restriction : String)
    (next : Dialogue α σ β) : Dialogue α σ β :=
  .attempt (assignments values ", ") fun setting =>
  .tell (updateTemplate table setting restriction) (valuesOf values ++ valuesOf chosen) next

theorem run_inserting (values : List (Value × Value)) (next : Int → Dialogue α σ β) :
    (inserting database table values next).run runner database =
      database.insert runner table values >>= fun number => (next number).run runner database := by
  simp only [inserting, insert, Dialogue.run_useThen, Dialogue.run_attempt, Dialogue.run_tell,
    bind_assoc, pure_bind]

theorem run_settingColumns (values chosen : List (Value × Value)) (restriction : String)
    (next : Dialogue α σ β) :
    (settingColumns table values chosen restriction next).run runner database =
      database.setColumns runner table values chosen restriction >>= fun _ =>
        next.run runner database := by
  simp only [settingColumns, setColumns, Dialogue.run_attempt, Dialogue.run_tell, bind_assoc]

variable {database table}

theorem inserting_alike {values others : List (Value × Value)} (matching : Matching values others)
    {next otherNext : Int → Dialogue α σ β}
    (rest : forall number, (next number).Alike (otherNext number)) :
    (inserting database table values next).Alike
      (inserting database table others otherNext) := by
  refine .useThen (.getBind fun first second resemble => ?_) fun clock => ?_
  · rcases resemble with ⟨_, rfl, _, rfl, _, rfl, -⟩
    exact .pure _
  rcases matching.newRow clock with
    ⟨fault, failed, otherFailed⟩ | ⟨row, otherRow, made, otherMade, rows⟩
  · rw [failed, otherFailed]
    exact .fail fault
  · rw [made, otherMade]
    change (Dialogue.attempt (insertion table row) _).Alike
      (Dialogue.attempt (insertion table otherRow) _)
    rw [rows.insertion table]
    exact .attempt _ fun _ => .tell <|
      .useThen (Session.library_alike (lastInsertId_alike database)) rest

theorem settingColumns_alike {values others chosen otherChosen : List (Value × Value)}
    (matching : Matching values others) (restriction : String) {next otherNext : Dialogue α σ β}
    (rest : next.Alike otherNext) :
    (settingColumns table values chosen restriction next).Alike
      (settingColumns table others otherChosen restriction otherNext) := by
  unfold settingColumns
  rw [matching.assignments]
  exact .attempt _ fun _ => .tell rest

end Dialogues

end Database

/-! ## Changes of rows -/

/-- A change of rows of a table, by values and by a choice of rows. -/
inductive RowChange where
  | insert (table : String) (values : List (Value × Value))
  | update (table : String) (values : List (Value × Value)) (choice : Value)
  | insertOrUpdate (table : String) (values : List (Value × Value)) (choice : Value)
  | delete (table : String) (choice : Value) (reporting : Bool)

namespace RowChange

open Database

variable {α σ : Type}

def perform (runner : HookRunner α σ) (database : Database) :
    RowChange → Operation (Session α σ) Value
  | .insert table values => return .int (← database.insert runner table values)
  | .update table values choice => do
    database.update runner table values choice
    return .null
  | .insertOrUpdate table values choice => database.insertOrUpdate runner table values choice
  | .delete table choice reporting => return .bool (← database.delete runner table choice reporting)

/-- What is answered instead of a failure to delete. -/
def excuse (table : String) (reporting : Bool) (fault : Fault) : Dialogue α σ Value :=
  if fault.kind.isLibrary && reporting then
    .useThen
      (library (Gateway.write .debug "driver.crud" ("Delete from " ++ table ++ " failed") none))
      fun _ => .done (.bool false)
  else .fail fault

/-- A change as a dialogue. -/
def dialogue (database : Database) : RowChange → Dialogue α σ Value
  | .insert table values => inserting database table values fun number => .done (.int number)
  | .update table values choice =>
    .attempt (assignments (conditions choice) " AND ") fun restriction =>
    .askThen (countTemplate table restriction) (valuesOf (conditions choice))
      (fun result => (result.fetchRow .ordered).1) fun row =>
    if !(firstValue row).isTrue then .fail (noSuchRecord table)
    else settingColumns table values (conditions choice) restriction (.done .null)
  | .insertOrUpdate table values choice =>
    .attempt (assignments (conditions choice) " AND ") fun restriction =>
    .askThen (keyTemplate table restriction) (valuesOf (conditions choice))
      (fun result => (result.fetchAll .ordered).1) fun rows =>
    .attempt (selectColumns (.int 0) rows) fun
    | [] =>
      inserting database table (completed values (conditions choice)) fun number =>
        .done (.int number)
    | first :: rest =>
      let answer := if rest.isEmpty then first else .list (first :: rest)
      if !values.isEmpty then
        settingColumns table values (conditions choice) restriction (.done answer)
      else .done answer
  | .delete table choice reporting =>
    match assignments (conditions choice) " AND " with
    | .error fault => excuse table reporting fault
    | .ok restriction =>
      .ask (deleteTemplate table restriction) (valuesOf (conditions choice)) (fun _ => .ok ()) fun
      | .ok () => .done (.bool true)
      | .error fault => excuse table reporting fault

theorem run_excuse (runner : HookRunner α σ) (database : Database) (table : String)
    (reporting : Bool) (fault : Fault) :
    (excuse table reporting fault).run runner database =
      (if fault.kind.isLibrary && reporting then do
        library
          (Gateway.write .debug "driver.crud" ("Delete from " ++ table ++ " failed") none)
        return false
      else throw fault : Operation (Session α σ) Bool) >>= fun deleted => pure (.bool deleted) := by
  unfold excuse
  split
  · rw [Dialogue.run_useThen, bind_assoc]
    rfl
  · rfl

/-- The dialogue of a change is the change. -/
theorem run_dialogue (runner : HookRunner α σ) (database : Database) (change : RowChange) :
    (change.dialogue database).run runner database = change.perform runner database := by
  cases change with
  | insert table values => exact run_inserting runner database table values _
  | update table values choice =>
      simp only [dialogue, perform, Database.update, fetchValue, fetchFirstRow,
        Dialogue.run_attempt, Dialogue.run_askThen, bind_assoc, pure_bind]
      refine congrArg _ (funext fun restriction => congrArg _ (funext fun row => ?_))
      cases (firstValue row).isTrue with
      | false => rfl
      | true => exact run_settingColumns runner database table values _ restriction _
  | insertOrUpdate table values choice =>
      have mode : (Operation.ofExcept (resolveMode none (.int 0)) :
          Operation (Session α σ) FetchMode) = pure .ordered := rfl
      simp only [dialogue, perform, Database.insertOrUpdate, Database.fetchAll, mode,
        Dialogue.run_attempt, Dialogue.run_askThen, bind_assoc, pure_bind]
      refine congrArg _ (funext fun restriction => congrArg _ (funext fun rows =>
        congrArg _ (funext fun keys => ?_)))
      cases keys with
      | nil => exact run_inserting runner database table _ _
      | cons first rest =>
          cases values.isEmpty with
          | true => rfl
          | false => exact run_settingColumns runner database table values _ restriction _
  | delete table choice reporting =>
      simp only [dialogue, perform, Database.delete, deleteRows]
      cases assignments (conditions choice) " AND " with
      | error fault => exact run_excuse runner database table reporting fault
      | ok restriction =>
          rw [Dialogue.run, Dialogue.withQuery_unread, bind_assoc]
          refine congrArg _ (funext fun outcome => ?_)
          cases outcome with
          | ok done => rfl
          | error fault => exact run_excuse runner database table reporting fault

/-! ## Changes that differ in values only -/

/-- The changes are of one sort, of one table and of the same columns, and their values are of
the same kinds. -/
inductive Alike : RowChange → RowChange → Prop
  | insert {table : String} {values others : List (Value × Value)}
      (matching : Matching values others) : Alike (.insert table values) (.insert table others)
  | update {table : String} {values others : List (Value × Value)} {choice otherChoice : Value}
      (matching : Matching values others)
      (chosen : Matching (conditions choice) (conditions otherChoice)) :
      Alike (.update table values choice) (.update table others otherChoice)
  | insertOrUpdate {table : String} {values others : List (Value × Value)}
      {choice otherChoice : Value} (matching : Matching values others)
      (chosen : Matching (conditions choice) (conditions otherChoice)) :
      Alike (.insertOrUpdate table values choice) (.insertOrUpdate table others otherChoice)
  | delete {table : String} {choice otherChoice : Value} {reporting : Bool}
      (chosen : Matching (conditions choice) (conditions otherChoice)) :
      Alike (.delete table choice reporting) (.delete table otherChoice reporting)

theorem excuse_alike (table : String) (reporting : Bool) (fault : Fault) :
    (excuse table reporting fault : Dialogue α σ Value).Alike (excuse table reporting fault) := by
  unfold excuse
  split
  · exact .useThen (Session.library_alike (Gateway.write_alike _ _ _ _)) fun _ => .done _
  · exact .fail fault

/-- Changes that differ in values only are dialogues that differ in values only. -/
theorem Alike.dialogue {change other : RowChange} (alike : change.Alike other)
    (database : Database) :
    (change.dialogue database : Dialogue α σ Value).Alike (other.dialogue database) := by
  cases alike with
  | insert matching => exact inserting_alike matching fun number => .done _
  | update matching chosen =>
      simp only [RowChange.dialogue, chosen.assignments]
      refine .attempt _ fun restriction => .askThen fun row => ?_
      cases (firstValue row).isTrue with
      | false => exact .fail _
      | true => exact settingColumns_alike matching restriction (.done _)
  | insertOrUpdate matching chosen =>
      simp only [RowChange.dialogue, chosen.assignments, matching.isEmpty]
      refine .attempt _ fun restriction => .askThen fun rows => .attempt _ fun keys => ?_
      cases keys with
      | nil => exact inserting_alike (matching.completed chosen) fun number => .done _
      | cons first rest =>
          simp only
          split
          · exact settingColumns_alike matching restriction (.done _)
          · exact .done _
  | delete chosen =>
      simp only [RowChange.dialogue, chosen.assignments]
      split
      · exact excuse_alike _ _ _
      · refine .ask fun outcome => ?_
        cases outcome with
        | ok done => exact .done _
        | error fault => exact excuse_alike _ _ _

/-- All values that a change gives to placeholders, when it is carried out in a session, can be
given to them. -/
def Binds (runner : HookRunner α σ) (database : Database) (change : RowChange)
    (session : Session α σ) : Prop :=
  (change.dialogue database).Binds runner database session

/-- Two changes that differ in values only, in one session, have the same native texts sent and
told to hooks, come to the same outcome, and leave sessions that differ in recorded parameters
only. -/
theorem perform_conceals {runner : HookRunner α σ} (blind : runner.IsBlind) (database : Database)
    {change other : RowChange} (alike : change.Alike other) {session : Session α σ}
    (binds : change.Binds runner.recorded database session)
    (otherBinds : other.Binds runner.recorded database session) :
    let carried := change.perform runner.recorded database
    let otherCarried := other.perform runner.recorded database
    (carried.after session).gateway.driver.texts =
      (otherCarried.after session).gateway.driver.texts ∧
    carried.outcome session = otherCarried.outcome session ∧
    (carried.after session).Resembles (otherCarried.after session) := by
  have run := (alike.dialogue database).run blind.recorded binds otherBinds (.refl session)
  rw [run_dialogue, run_dialogue] at run
  rcases run with ⟨sameOutcome, resemble⟩
  exact ⟨resemble.texts.symm, sameOutcome, resemble⟩

/-- A session with a database in memory that has a hook. -/
def audited : Session Unit Unit :=
  ⟨(Database.memory.registerHook "audit" (some ()) none).after Session.memory.gateway, ()⟩

def deletion (key : String) : RowChange := .delete "t" (.text key) false

/-- Quotes, placeholders and braces in a key do not get into the texts: the hook and the driver
are given the text for any other key. -/
theorem perform_conceals_quotes :
    (((deletion "7' OR '1'='1' -- %s\x7bi\x7d").perform Session.idleHooks.recorded
      .memory).after audited).gateway.driver.texts =
        ["DELETE FROM \x22t\x22 WHERE \x22RecordID\x22 = ?",
          "DELETE FROM \x22t\x22 WHERE \x22RecordID\x22 = ?"] := by
  have blind : (Session.idleHooks : HookRunner Unit Unit).IsBlind := fun _ _ _ _ => .pure ()
  have binds (key : String) :
      (deletion key).Binds Session.idleHooks.recorded .memory audited := by
    have given : Database.memory.Binds (deleteTemplate "t" "[RecordID] = %s") [.text key]
        audited :=
      .of_readied rfl rfl
    refine ⟨given, ?_⟩
    simp only
    split
    · trivial
    · unfold excuse
      split <;> trivial
  have alike : (deletion "7").Alike (deletion "7' OR '1'='1' -- %s\x7bi\x7d") :=
    .delete (.cons ⟨rfl, rfl⟩ .nil)
  rw [← (perform_conceals blind .memory alike (binds _) (binds _)).1]
  rfl

end RowChange
end SqlGateway
