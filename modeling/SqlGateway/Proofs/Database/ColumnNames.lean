import SqlGateway.Proofs.Database.Insertion

namespace SqlGateway

/-!
# Names of columns that are refused

A name that is to stand between brackets may only have letters and digits of the seven-bit
range.  An update and an update or insertion check the names of their conditions first, and
then ask by a `SELECT` statement for the rows that there are.  The names of the values are
checked where the `UPDATE` statement is put together, so after the question was answered, and
only if a row is to be updated.

Thus a bad name in the conditions is told before anything is done.  A bad name in the values is
told once a row was found; if the question fails or finds no row, then an update tells that
instead.  An update never writes.  But an update or insertion that finds no row inserts one,
and an insertion takes names as they are.
-/

/-! ## The question -/

namespace Template

/-- A template that starts with a plain word is translated to a text that starts with it. -/
theorem starts_of_parse {word rest : List Char}
    (inert : forall letter, letter ∈ word -> letter ∉ openings) {template : String}
    (starts : template.toList = word ++ rest) {dialect : Dialect} {style : ParameterStyle}
    (literal : style.literal word = word) {query : ParsedQuery}
    (compiled : parse template dialect style = .ok query) :
    exists text, query.sql.toList = word ++ text := by
  rcases Reading.total template.toList with ⟨lexemes, reading⟩
  have made := parse_of_reading reading dialect style
  rw [starts] at reading
  rcases reading.of_append_plain inert with ⟨later, split, -⟩
  split at made
  · rcases made with ⟨fault, refused, -⟩
    rw [refused] at compiled
    cases compiled
  · rcases made with ⟨columnTypes, accepted⟩
    rw [accepted] at compiled
    cases compiled
    refine ⟨translate dialect style 0 later, ?_⟩
    rw [String.toList_ofList, split, translate_plain, literal]

end Template

namespace Native

/-- What was sent is added. -/
theorem Driver.Sends.adds {allowed sent later wider : Event → Prop} {before after : Driver}
    (sends : before.Sends allowed sent later after)
    (allowedImplies : forall event, allowed event -> wider event)
    (sentImplies : forall event, sent event -> wider event)
    (laterImplies : forall event, later event -> wider event) : before.Adds wider after := by
  rcases sends with ⟨early, event, late, same, earlyAllowed, sentEvent, lateAllowed⟩
  refine ⟨early ++ event :: late, by rw [same, List.append_assoc], ?_⟩
  intro other member
  rcases List.mem_append.mp member with first | second
  · exact allowedImplies other (earlyAllowed other first)
  · rcases List.mem_cons.mp second with isSent | last
    · rw [isSent]
      exact sentImplies event sentEvent
    · exact laterImplies other (lateAllowed other last)

def selectWord : List Char := ['S', 'E', 'L', 'E', 'C', 'T', ' ']

def Selects (event : Event) : Prop :=
  exists (connection : Connection) (cursor : Nat) (sql : String)
      (parameters : Option (List Value)),
    event.call = .execute connection cursor sql parameters ∧ selectWord <+: sql.toList

/-- An event that sends a question, if it sends a statement and is not foreign. -/
def AsksOnly (foreign : Event → Prop) : Event → Prop :=
  SendsOnly fun event => foreign event ∨ Selects event

theorem AsksOnly.of_sendsOnly {foreign : Event → Prop} (event : Event)
    (sendsOnly : SendsOnly foreign event) : AsksOnly foreign event :=
  fun isStatement => Or.inl (sendsOnly isStatement)

end Native

namespace Database

open Native (Event SendsOnly AsksOnly Selects selectWord)

variable {α σ β : Type}

section Questions

variable {foreign : Event → Prop} {runner : HookRunner α σ}
  (hooks : forall name phase callback sql,
    (runner name phase callback sql).Respects (Session.Adds (SendsOnly foreign)))
variable {database : Database} {session : Session α σ} {dialect : Dialect}
  (reached : (session.gateway.entry database.entry).params.dialect = dialect)
  (supported : dialect ∈ Dialect.builtin) (sound : session.gateway.cache.Sound)
  {template : String} (asks : selectWord <+: template.toList)
include hooks reached supported sound asks

/-- Running a question sends no other statement. -/
theorem query_asksOnly (values : List Value) :
    session.Adds (AsksOnly foreign) ((database.query runner template values).after session) := by
  rcases query_issues hooks reached supported sound template values with
    ⟨fault, -, added⟩ | sends
  · exact added.mono AsksOnly.of_sendsOnly
  · apply sends.adds AsksOnly.of_sendsOnly _ AsksOnly.of_sendsOnly
    rintro event ⟨query, handle, cursor, parameters, compiled, -, call⟩ -
    rcases asks with ⟨rest, starts⟩
    have plain : forall letter, letter ∈ selectWord -> letter ∉ Template.openings :=
      Template.inert_of_all rfl
    have literal : dialect.style.literal selectWord = selectWord := by
      cases dialect.style <;> rfl
    rcases Template.starts_of_parse plain starts.symm literal compiled with ⟨text, sql⟩
    exact Or.inr ⟨handle.connection, cursor, query.sql, some parameters, call, text, sql.symm⟩

/-- Reading its result sends nothing more. -/
theorem withQuery_asksOnly (values : List Value) (use : QueryResult → Except Fault β) :
    session.Adds (AsksOnly foreign)
      ((database.withQuery runner template values use).after session) := by
  have asked := query_asksOnly hooks reached supported sound asks values
  rw [withQuery, Operation.after_bind]
  cases (database.query runner template values).outcome session with
  | error fault => exact asked
  | ok result =>
      have closes : (free result : Operation (Session α σ) Unit).Respects
          (Session.Adds (AsksOnly foreign)) :=
        free_sendsOnly result
      have reads : (Operation.thenAlways (.ofExcept (use result)) (free result) :
          Operation (Session α σ) β).Respects (Session.Adds (AsksOnly foreign)) :=
        .thenAlways (.ofExcept _) closes
      exact trans_of (Session.Adds (AsksOnly foreign)) asked (reads _)

end Questions

/-! ## Names -/

def invalidName (name : String) : Fault :=
  .of .invalidParameter ("Invalid column name: " ++ name)

/-- The first name that is no name of a column. -/
def badName? (entries : List (String × Value)) : Option String :=
  (entries.map Prod.fst).find? fun name => !(Value.text name).isColumnName

theorem badName?_cons (entry : String × Value) (rest : List (String × Value)) :
    badName? (entry :: rest) =
      if (Value.text entry.1).isColumnName then badName? rest else some entry.1 := by
  rw [badName?, List.map_cons, List.find?_cons]
  cases (Value.text entry.1).isColumnName <;> rfl

theorem badName?_eq_none {entries : List (String × Value)} (good : badName? entries = none)
    (entry : String × Value) (member : entry ∈ entries) :
    (Value.text entry.1).isColumnName = true := by
  have known := List.find?_eq_none.mp good entry.1 (List.mem_map_of_mem member)
  simpa using known

theorem columnName_text (name : String) :
    columnName (.text name) =
      if (Value.text name).isColumnName then .ok name else .error (invalidName name) := by
  rw [columnName]
  rfl

theorem equations_named (entries : List (String × Value)) :
    equations (named entries) =
      match badName? entries with
      | some name => .error (invalidName name)
      | none => .ok (entries.map fun entry =>
          bracketed entry.1 ++ " = " ++ Parameter.placeholderFor entry.2) := by
  induction entries with
  | nil => rfl
  | cons entry rest inductionHypothesis =>
      have first : equations (named (entry :: rest)) = do
          let equation :=
            bracketed (← columnName (.text entry.1)) ++ " = " ++ Parameter.placeholderFor entry.2
          return equation :: (← equations (named rest)) :=
        rfl
      rw [first, columnName_text, inductionHypothesis, badName?_cons]
      cases (Value.text entry.1).isColumnName with
      | false => rfl
      | true => cases badName? rest <;> rfl

/-- Equations are put together of good names only, and the first bad name is told. -/
theorem assignments_named (entries : List (String × Value)) (separator : String) :
    match badName? entries with
    | some name => assignments (named entries) separator = .error (invalidName name)
    | none => exists text, assignments (named entries) separator = .ok text := by
  have made := equations_named entries
  cases bad : badName? entries with
  | some name =>
      rw [bad] at made
      simp only [assignments, made]
      rfl
  | none =>
      rw [bad] at made
      exact ⟨_, by simp only [assignments, made]; rfl⟩

/-! ## Changes -/

section Changes

variable {values chosen : List (String × Value)} {name restriction : String}
variable (runner : HookRunner α σ) (database : Database) (table : String) (form : MappingForm)

/-- What is asked before an update: how many rows there are. -/
def counting (restriction : String) (chosen : List (String × Value)) :
    Operation (Session α σ) Value :=
  database.fetchValue runner (countTemplate table restriction) (chosen.map Prod.snd)

/-- What is asked before an update or insertion: which rows there are. -/
def choosing (restriction : String) (chosen : List (String × Value)) :
    Operation (Session α σ) (List Value) :=
  database.fetchAll runner (keyTemplate table restriction) (chosen.map Prod.snd) none (.int 0)

theorem asks_append {first : String} (asks : selectWord <+: first.toList) (rest : String) :
    selectWord <+: (first ++ rest).toList := by
  rw [String.toList_append]
  exact asks.trans (List.prefix_append _ _)

theorem asks_countTemplate (restriction : String) :
    selectWord <+: (countTemplate table restriction).toList := by
  have asks : selectWord <+: "SELECT COUNT(*)\x7bi\x7d FROM ".toList := ⟨_, rfl⟩
  exact asks_append (asks_append (asks_append asks _) _) _

theorem asks_keyTemplate (restriction : String) :
    selectWord <+: (keyTemplate table restriction).toList := by
  have asks : selectWord <+: "SELECT ".toList := ⟨_, rfl⟩
  exact asks_append (asks_append (asks_append (asks_append (asks_append asks _) _) _) _) _

section Asking

variable {foreign : Event → Prop} {runner}
  (hooks : forall name phase callback sql,
    (runner name phase callback sql).Respects (Session.Adds (SendsOnly foreign)))
variable {database} {session : Session α σ} {dialect : Dialect}
  (reached : (session.gateway.entry database.entry).params.dialect = dialect)
  (supported : dialect ∈ Dialect.builtin) (sound : session.gateway.cache.Sound)
include hooks reached supported sound

theorem counting_asksOnly :
    session.Adds (AsksOnly foreign)
      ((counting runner database table restriction chosen).after session) := by
  rw [counting, fetchValue, Operation.after_bind_pure]
  exact withQuery_asksOnly hooks reached supported sound (asks_countTemplate table restriction) _ _

theorem choosing_asksOnly :
    session.Adds (AsksOnly foreign)
      ((choosing runner database table restriction chosen).after session) := by
  have mode : (Operation.ofExcept (resolveMode none (.int 0)) :
      Operation (Session α σ) FetchMode) = pure .ordered := rfl
  have asked := withQuery_asksOnly hooks reached supported sound
    (asks_keyTemplate table restriction) (chosen.map Prod.snd)
    fun result => (result.fetchAll .ordered).1
  rw [choosing, fetchAll, mode, pure_bind, Operation.after_bind]
  cases (database.withQuery runner (keyTemplate table restriction) (chosen.map Prod.snd)
      fun result => (result.fetchAll .ordered).1).outcome session with
  | error fault => exact asked
  | ok rows =>
      simp only
      rw [Operation.after_ofExcept]
      exact asked

end Asking

/-- A bad name in the conditions is told before anything is done. -/
theorem changes_of_bad_condition (bad : badName? chosen = some name)
    (entries : List (Value × Value)) :
    database.update runner table entries (.mapping form (named chosen)) =
        throw (invalidName name) ∧
      database.insertOrUpdate runner table entries (.mapping form (named chosen)) =
        throw (invalidName name) := by
  have refused := assignments_named chosen " AND "
  rw [bad] at refused
  constructor
  · simp only [update, conditions, refused]
    rfl
  · simp only [insertOrUpdate, conditions, refused]
    rfl

/-- Names of values are checked before a statement is put together from them. -/
theorem setColumns_of_bad_value (bad : badName? values = some name)
    (entries : List (Value × Value)) :
    (database.setColumns runner table (named values) entries restriction :
      Operation (Session α σ) Unit) = throw (invalidName name) := by
  have refused := assignments_named values ", "
  rw [bad] at refused
  simp only [setColumns, refused]
  rfl

variable (good : assignments (named chosen) " AND " = .ok restriction)
  (bad : badName? values = some name)
include good bad

theorem update_of_bad_value :
    database.update runner table (named values) (.mapping form (named chosen)) =
      counting runner database table restriction chosen >>= fun count =>
        throw (if count.isTrue then invalidName name else noSuchRecord table) := by
  simp only [update, conditions, good, valuesOf_named]
  change counting runner database table restriction chosen >>= _ = _
  apply congrArg
  funext count
  rw [setColumns_of_bad_value runner database table bad]
  cases count.isTrue <;> rfl

theorem insertOrUpdate_of_bad_value :
    database.insertOrUpdate runner table (named values) (.mapping form (named chosen)) =
      choosing runner database table restriction chosen >>= fun keys =>
        if keys.isEmpty then do
          return .int (← database.insert runner table (completed (named values) (named chosen)))
        else throw (invalidName name) := by
  have some_values : (named values).isEmpty = false := by
    cases values with
    | nil => cases bad
    | cons entry rest => rfl
  simp only [insertOrUpdate, conditions, good, valuesOf_named]
  change choosing runner database table restriction chosen >>= _ = _
  apply congrArg
  funext keys
  cases keys with
  | nil => rfl
  | cons first rest =>
      simp only [setColumns_of_bad_value runner database table bad, some_values]
      rfl

end Changes

/-- The columns of an update and of an update or insertion are named by `values` and `chosen`,
and one of the names is bad.  If it is in the conditions, then both fail with the first bad name
there before they do anything.  Otherwise both ask a question, and no other statement is sent
up to its answer.  After that an update sends nothing and fails: with the first bad name of the
values if there is a row, and else with the fault of the question or for want of a row.  An update
or insertion fails with the fault of the question, or with the bad name and without
sending anything more if there is a row; but if there is none, then it is the insertion of the
row, which does not check the names. -/
theorem badName_told {foreign : Event → Prop} {runner : HookRunner α σ}
    (hooks : forall name phase callback sql,
      (runner name phase callback sql).Respects (Session.Adds (SendsOnly foreign)))
    (database : Database) (session : Session α σ) {dialect : Dialect}
    (reached : (session.gateway.entry database.entry).params.dialect = dialect)
    (supported : dialect ∈ Dialect.builtin) (sound : session.gateway.cache.Sound)
    (table : String) (values chosen : List (String × Value)) (form : MappingForm)
    (bad : exists entry, entry ∈ chosen ++ values ∧
      (Value.text entry.1).isColumnName = false) :
    let update := database.update runner table (named values) (.mapping form (named chosen))
    let upsert :=
      database.insertOrUpdate runner table (named values) (.mapping form (named chosen))
    match badName? chosen with
    | some name => update = throw (invalidName name) ∧ upsert = throw (invalidName name)
    | none =>
      exists name restriction, badName? values = some name ∧
        assignments (named chosen) " AND " = .ok restriction ∧
        let counts := counting runner database table restriction chosen
        let chooses := choosing runner database table restriction chosen
        session.Adds (AsksOnly foreign) (counts.after session) ∧
        update session =
          .error
            (match counts.outcome session with
            | .ok count => if count.isTrue then invalidName name else noSuchRecord table
            | .error fault => fault)
            (counts.after session) ∧
        session.Adds (AsksOnly foreign) (chooses.after session) ∧
        upsert session =
          match chooses.outcome session with
          | .ok [] =>
            (do return .int (← database.insert runner table
              (completed (named values) (named chosen))) : Operation (Session α σ) Value)
                (chooses.after session)
          | .ok (_ :: _) => .error (invalidName name) (chooses.after session)
          | .error fault => .error fault (chooses.after session) := by
  intro update upsert
  cases badChosen : badName? chosen with
  | some name =>
      exact changes_of_bad_condition runner database table form badChosen (named values)
  | none =>
      have made := assignments_named chosen " AND "
      rw [badChosen] at made
      rcases made with ⟨restriction, good⟩
      have found : exists name, badName? values = some name := by
        apply Option.ne_none_iff_exists'.mp
        intro allGood
        rcases bad with ⟨entry, member, refused⟩
        rcases List.mem_append.mp member with isChosen | isValue
        · rw [badName?_eq_none badChosen entry isChosen] at refused
          cases refused
        · rw [badName?_eq_none allGood entry isValue] at refused
          cases refused
      rcases found with ⟨name, badValue⟩
      refine ⟨name, restriction, badValue, good, ?_, ?_, ?_, ?_⟩
      · exact counting_asksOnly table hooks reached supported sound
      · rw [show update = _ from
          update_of_bad_value runner database table form good badValue, Operation.bind_eq]
        cases (counting runner database table restriction chosen).outcome session <;> rfl
      · exact choosing_asksOnly table hooks reached supported sound
      · rw [show upsert = _ from
          insertOrUpdate_of_bad_value runner database table form good badValue, Operation.bind_eq]
        cases (choosing runner database table restriction chosen).outcome session with
        | error fault => rfl
        | ok keys => cases keys <;> rfl

/-- A session with a database in memory whose driver answers statements with responses. -/
def scripted (responses : List Native.Response) : Session Unit Unit :=
  ⟨Gateway.openMemory.after (.ofDriver (.ofScript responses [] [] (.int 0))), ()⟩

/-- Values under a name with a blank in it. -/
def blankRow : List (String × Value) := [("a b", .int 1)]

/-- The choice of the row with the number five. -/
def fifthRow : List (String × Value) := [(keyColumn, .int 5)]

/-- There is a row, so the bad name is told. -/
theorem badName_told_of_row :
    let session := scripted [{ columns := some ["COUNT(*)"], rows := [[.int 1]] }]
    (exists entry, entry ∈ fifthRow ++ blankRow ∧ (Value.text entry.1).isColumnName = false) ∧
      (memory.update Session.idleHooks "t" (named blankRow)
        (.mapping .table (named fifthRow))).outcome session = .error (invalidName "a b") := by
  intro session
  have bad : exists entry, entry ∈ fifthRow ++ blankRow ∧
      (Value.text entry.1).isColumnName = false :=
    ⟨("a b", .int 1), List.mem_cons_of_mem _ List.mem_cons_self, rfl⟩
  have idle : forall name phase callback sql,
      (Session.idleHooks name phase callback sql : Operation (Session Unit Unit) Unit).Respects
        (Session.Adds (SendsOnly fun _ => False)) :=
    fun _ _ _ _ => .pure ()
  have told := badName_told idle memory session rfl (by decide)
    (Template.Cache.sound_ofCapacity _) "t" blankRow fifthRow .table bad
  have goodChosen : badName? fifthRow = none := rfl
  rw [goodChosen] at told
  rcases told with ⟨name, restriction, isBad, made, -, updates, -⟩
  have isName : name = "a b" := Option.some.inj (isBad.symm.trans rfl)
  have isRestriction : restriction = "[RecordID] = %i" := Except.ok.inj (made.symm.trans rfl)
  have counted : (counting Session.idleHooks memory "t" "[RecordID] = %i" fifthRow).outcome
      session = .ok (.int 1) := rfl
  refine ⟨bad, ?_⟩
  rw [isName, isRestriction] at updates
  rw [Operation.outcome, updates, counted]
  rfl

/-- There is no row, so one is inserted under the bad name. -/
theorem badName_inserted :
    let session := scripted [{ columns := some [keyColumn] }, { lastRowId := .int 5 },
      { columns := some ["id"], rows := [[.int 5]] }]
    let upsert := memory.insertOrUpdate Session.idleHooks "t" (named blankRow)
      (.mapping .table (named fifthRow))
    (Value.text "a b").isColumnName = false ∧
      (upsert.outcome session).isOk = true ∧
      ((upsert.after session).gateway.driver.events.filterMap fun event =>
          event.call.statement?.map Prod.fst) =
        ["SELECT \x22RecordID\x22 FROM \x22t\x22 WHERE \x22RecordID\x22 = ?",
          "INSERT INTO \x22t\x22 (\x22CreationDate\x22,\x22a b\x22,\x22RecordID\x22) " ++
            "VALUES (?,?,?)",
          "SELECT last_insert_rowid()"] := by
  refine ⟨rfl, ?_, ?_⟩
  · decide +kernel
  · decide +kernel

end Database
end SqlGateway
