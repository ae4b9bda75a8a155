import SqlGateway.Proofs.Database.Insertion
import SqlGateway.Proofs.Database.Service
import SqlGateway.Proofs.Operation.Alike
import SqlGateway.Proofs.Operation.Success

namespace SqlGateway

/-!
# Queries that are answered

A driver obliges if none of its calls fails.  Over such a driver every query of a supported dialect
that is compiled and whose values can be bound is answered: its one statement is sent with its
parameters, the response is the next one that the driver has, and the database stays connected.

So a sequence of queries sends the sequence of their statements, and the answers come in the order
of the responses.  The record is known exactly here, and not up to some events, because the hooks
are assumed to send nothing.
-/

namespace Native

/-! ## Drivers whose calls do not fail -/

/-- The statements that the engine was given, with their parameters. -/
def Driver.statements (driver : Driver) : List (String × Option (List Value)) :=
  driver.events.filterMap fun event => event.call.statement?

/-- The response that a statement to come gets, by how many come before it. -/
def Driver.answer (driver : Driver) (place : Nat) : Response := driver.responses.getD place {}

/-- No call fails, and the clock tells the time. -/
structure Driver.Obliges (driver : Driver) : Prop where
  responds : forall response, response ∈ driver.responses ->
    response.error = none ∧ response.fetchError = none ∧ response.closeError = none
  works : forall point failures, driver.failures.get? point = some failures ->
    forall failure, failure ∈ failures -> failure = none
  tells : exists now, driver.clock.toInt = .ok now

/-- Exactly the given statements were sent, and each was answered by the next response. -/
structure Driver.Answers (asked : List (String × Option (List Value))) (before after : Driver) :
    Prop where
  obliges : before.Obliges -> after.Obliges
  clock : after.clock = before.clock
  responses : after.responses = before.responses.drop asked.length
  statements : after.statements = before.statements ++ asked

section Drivers

variable {driver before middle after : Driver} {first second : List (String × Option (List Value))}

theorem Driver.Answers.trans (answers : Driver.Answers first before middle)
    (others : Driver.Answers second middle after) :
    Driver.Answers (first ++ second) before after where
  obliges obliges := others.obliges (answers.obliges obliges)
  clock := others.clock.trans answers.clock
  responses := by
    rw [others.responses, answers.responses, List.drop_drop, List.length_append]
  statements := by
    rw [others.statements, answers.statements, List.append_assoc]

/-- What changes nothing that is said of the driver sends nothing. -/
theorem Driver.Answers.of_same (responses : after.responses = before.responses)
    (failures : after.failures = before.failures) (clock : after.clock = before.clock)
    (events : after.events = before.events) : Driver.Answers [] before after where
  obliges obliges := by
    refine ⟨?_, ?_, ?_⟩
    · rw [responses]
      exact obliges.responds
    · rw [failures]
      exact obliges.works
    · rw [clock]
      exact obliges.tells
  clock := clock
  responses := responses
  statements := by
    unfold Driver.statements
    rw [events, List.append_nil]

instance : IsPreorder Driver (Driver.Answers []) where
  refl _ := .of_same rfl rfl rfl rfl
  trans _ _ _ answers others := answers.trans others

/-- The responses that were given are not given again. -/
theorem Driver.Answers.answer (answers : Driver.Answers first before after) (place : Nat) :
    after.answer place = before.answer (first.length + place) := by
  unfold Driver.answer
  rw [answers.responses, List.getD_eq_getElem?_getD, List.getD_eq_getElem?_getD,
    List.getElem?_drop]

theorem Driver.Answers.silent (answers : Driver.Answers [] before after) (place : Nat) :
    after.answer place = before.answer place := by
  rw [answers.answer, List.length_nil, Nat.zero_add]

theorem Driver.Obliges.answer (obliges : driver.Obliges) (place : Nat) :
    (driver.answer place).error = none ∧ (driver.answer place).fetchError = none ∧
      (driver.answer place).closeError = none := by
  unfold Driver.answer
  rw [List.getD_eq_getElem?_getD]
  cases found : driver.responses[place]? with
  | none => exact ⟨rfl, rfl, rfl⟩
  | some response => exact obliges.responds response (List.mem_of_getElem? found)

theorem Driver.Obliges.fetches (obliges : driver.Obliges) {response : Response} {place : Nat}
    (given : response = driver.answer place) : response.fetchError = none :=
  given ▸ (obliges.answer place).2.1

theorem Driver.Obliges.closes (obliges : driver.Obliges) {response : Response} {place : Nat}
    (given : response = driver.answer place) : response.closeError = none :=
  given ▸ (obliges.answer place).2.2

/-! ### Calls that send no statement -/

theorem finish_answers {call : Call} (silent : call.statement? = none)
    (failure : Option Fault) : (finish call failure).Respects (Driver.Answers []) := by
  intro driver
  have recorded := finish_events call failure driver
  have same : ((finish call failure).after driver).responses = driver.responses ∧
      ((finish call failure).after driver).failures = driver.failures ∧
      ((finish call failure).after driver).clock = driver.clock := by
    cases failure <;> exact ⟨rfl, rfl, rfl⟩
  have kept : Driver.Answers [] driver
      { (finish call failure).after driver with events := driver.events } :=
    .of_same same.1 same.2.1 same.2.2 rfl
  refine ⟨fun obliges => ?_, same.2.2, same.1, ?_⟩
  · rcases kept.obliges obliges with ⟨responds, works, tells⟩
    exact ⟨responds, works, tells⟩
  · unfold Driver.statements
    rw [recorded, List.filterMap_append, List.filterMap_cons, silent]
    rfl

theorem nextFailure_answers (driver : Driver) (point : FailPoint) :
    Driver.Answers [] driver (driver.nextFailure point).2 := by
  unfold Driver.nextFailure
  split
  · rename_i failure rest found
    refine ⟨fun obliges => ⟨obliges.responds, ?_, obliges.tells⟩, rfl, rfl,
      (List.append_nil _).symm⟩
    intro other failures listed
    simp only [Dictionary.get?_put] at listed
    split at listed
    · cases listed
      intro later member
      exact obliges.works point _ found later (List.mem_cons_of_mem _ member)
    · exact obliges.works other failures listed
  · exact refl_of (Driver.Answers []) driver
  · exact refl_of (Driver.Answers []) driver

theorem Driver.Obliges.nextFailure (obliges : driver.Obliges) (point : FailPoint) :
    (driver.nextFailure point).1 = none := by
  unfold Driver.nextFailure
  split
  · rename_i failure rest found
    exact obliges.works point _ found failure List.mem_cons_self
  · rfl
  · rfl

theorem callAt_answers {call : Call} (point : FailPoint) (silent : call.statement? = none) :
    (callAt point call).Respects (Driver.Answers []) := by
  intro driver
  rw [callAt_after]
  exact trans_of (Driver.Answers []) (nextFailure_answers driver point)
    (finish_answers silent _ _)

theorem Driver.Obliges.callAt {call : Call} (obliges : driver.Obliges) (point : FailPoint) :
    (Native.callAt point call).outcome driver = .ok () := by
  have reached : (Native.callAt point call).outcome driver =
      (finish call (driver.nextFailure point).1).outcome (driver.nextFailure point).2 :=
    rfl
  rw [reached, obliges.nextFailure point]
  rfl

theorem takeFailure_answers (point : FailPoint) :
    (takeFailure point).Respects (Driver.Answers []) :=
  fun driver => nextFailure_answers driver point

theorem attempt_answers {call : Call} (point : FailPoint) (silent : call.statement? = none) :
    (attempt point call).Respects (Driver.Answers []) := by
  refine .bind (takeFailure_answers point) fun failure => ?_
  cases failure with
  | none => exact .pure ()
  | some fault => exact finish_answers silent (some fault)

theorem openCursor_answers (connection : Connection) :
    (openCursor connection).Respects (Driver.Answers []) :=
  .bind (attempt_answers .openCursor rfl) fun _ _ => .of_same rfl rfl rfl rfl

theorem Driver.Obliges.openCursor (obliges : driver.Obliges) (connection : Connection) :
    (Native.openCursor connection).outcome driver =
      .ok ⟨connection, driver.cursors + 1, {}⟩ := by
  have granted : attempt .openCursor (.openCursor connection) driver =
      .ok () (driver.nextFailure .openCursor).2 := by
    have taken : takeFailure .openCursor driver =
        .ok (driver.nextFailure .openCursor).1 (driver.nextFailure .openCursor).2 := rfl
    rw [obliges.nextFailure] at taken
    exact Operation.bind_of_ok taken _
  rcases openCursor_cases connection driver with ⟨failures, ⟨fault, refused⟩ | opened⟩
  · have reached : Native.openCursor connection driver = _ := Operation.bind_of_ok granted _
    cases refused.symm.trans reached
  · exact Operation.outcome_of_ok opened

theorem closeCursor_answers (cursor : Cursor) :
    (closeCursor cursor).Respects (Driver.Answers []) :=
  .bind (takeFailure_answers .closeCursor) fun _ => finish_answers rfl _

theorem Driver.Obliges.closeCursor {cursor : Cursor} (obliges : driver.Obliges)
    (fine : cursor.response.closeError = none) :
    (Native.closeCursor cursor).outcome driver = .ok () := by
  have reached : (Native.closeCursor cursor).outcome driver =
      (finish (.closeCursor cursor.connection cursor.number)
        (cursor.response.closeError.or (driver.nextFailure .closeCursor).1)).outcome
        (driver.nextFailure .closeCursor).2 :=
    rfl
  rw [reached, fine, obliges.nextFailure]
  rfl

/-- Closing the cursor of a result sends nothing. -/
theorem free_answers (result : QueryResult) : result.free.Respects (Driver.Answers []) := by
  unfold QueryResult.free
  split
  · refine .bind (.observe (closeCursor_answers result.cursor)) fun outcome => ?_
    split
    · exact .pure ()
    · split
      · exact .throw _
      · exact .pure ()
  · exact .pure ()

theorem openConnection_answers (adapter : Adapter) (params : ConnectionParams)
    (options : List (String × Value)) :
    (adapter.openConnection params options).Respects (Driver.Answers []) := by
  have named : (adapter.nameService params).Respects (Driver.Answers []) := by
    cases adapter with
    | oracle => exact attempt_answers _ rfl
    | _ => exact .pure ()
  refine .bind .get fun _ => ?_
  refine .bind (.ofExcept _) fun _ => ?_
  refine .bind named fun _ => ?_
  refine .bind
      (.bind (callAt_answers _ rfl) fun _ _ => .of_same rfl rfl rfl rfl) fun connection => ?_
  simp only
  split
  · exact .bind (callAt_answers _ rfl) fun _ => .pure _
  · exact .pure _

/-- What is done after a statement succeeds. -/
theorem afterExecute_answers (adapter : Adapter) (connection : Connection)
    (inTransaction : Bool) :
    (adapter.afterExecute connection inTransaction).Respects (Driver.Answers []) := by
  refine .bind .get fun driver => ?_
  split
  · exact .bind (callAt_answers .commit rfl) fun _ => .pure ()
  · exact .pure ()

theorem afterExecute_gives (adapter : Adapter) (connection : Connection) (inTransaction : Bool)
    (obliges : driver.Obliges) :
    (adapter.afterExecute connection inTransaction).Gives driver fun _ left =>
      Driver.Answers [] driver left := by
  have same : Driver.Answers [] driver driver := refl_of (Driver.Answers []) driver
  refine .bind .get fun current left ⟨isCurrent, isLeft⟩ => ?_
  rw [isLeft]
  split
  · refine .bind (.of_respects (obliges.callAt .commit) (callAt_answers .commit rfl)) ?_
    intro _ committed ⟨_, answers⟩
    exact .pure answers
  · exact .pure same

/-! ### Statements -/

/-- A statement takes the next response and is recorded, whether it succeeds or fails. -/
theorem answers_of_recorded {call : Call} {statement : String × Option (List Value)}
    (sent : call.statement? = some statement) (failure : Option Fault) :
    Driver.Answers [statement] driver
      ({ driver with responses := driver.responses.drop 1 }.record call failure) where
  obliges obliges := by
    refine ⟨fun response member => ?_, obliges.works, obliges.tells⟩
    exact obliges.responds response (List.mem_of_mem_drop member)
  clock := rfl
  responses := rfl
  statements := by
    unfold Driver.statements Driver.record
    rw [List.filterMap_append, List.filterMap_cons, sent]
    rfl

/-- A statement is answered by the next response, and fails exactly if this is a failure. -/
theorem execute_answered (cursor : Cursor) (sql : String) (parameters : Option (List Value))
    (driver : Driver) :
    (exists fault left, execute cursor sql parameters driver = .error fault left ∧
      (driver.answer 0).error = some fault ∧ Driver.Answers [(sql, parameters)] driver left) ∨
    (exists left, execute cursor sql parameters driver =
        .ok { cursor with response := driver.answer 0 } left ∧
      (driver.answer 0).error = none ∧ Driver.Answers [(sql, parameters)] driver left) := by
  let call : Call := .execute cursor.connection cursor.number sql parameters
  let left (failure : Option Fault) : Driver :=
    { driver with responses := driver.responses.drop 1 }.record call failure
  have sends (failure : Option Fault) :
      Driver.Answers [(sql, parameters)] driver (left failure) :=
    answers_of_recorded rfl failure
  have succeeds : Driver.Answers [(sql, parameters)] driver
      ((left none).setActive cursor.connection true) :=
    (sends none).trans (.of_same rfl rfl rfl rfl)
  rcases driver with ⟨responses, _⟩
  rcases responses with - | ⟨⟨error, _⟩, rest⟩
  · exact Or.inr ⟨_, rfl, rfl, succeeds⟩
  · cases error with
    | some fault => exact Or.inl ⟨fault, _, rfl, rfl, sends (some fault)⟩
    | none => exact Or.inr ⟨_, rfl, rfl, succeeds⟩

/-- The same for a statement with parameters on a new cursor, which is not sent at all if there is no
cursor for it. -/
theorem executeAnew_answered (connection : Connection) (sql : String) (parameters : List Value)
    (driver : Driver) :
    (exists fault left, Adapter.execute connection sql parameters driver = .error fault left ∧
      Driver.Answers [] driver left) ∨
    (exists fault left, Adapter.execute connection sql parameters driver = .error fault left ∧
      (driver.answer 0).error = some fault ∧
      Driver.Answers [(sql, some parameters)] driver left) ∨
    (exists cursor left, Adapter.execute connection sql parameters driver = .ok cursor left ∧
      (driver.answer 0).error = none ∧ cursor.response = driver.answer 0 ∧
      Driver.Answers [(sql, some parameters)] driver left) := by
  have opens := openCursor_answers connection driver
  cases made : openCursor connection driver with
  | error fault left =>
      rw [Operation.after_of_error made] at opens
      exact Or.inl ⟨fault, left, Operation.bind_of_error made _, opens⟩
  | ok fresh opened =>
      rw [Operation.after_of_ok made] at opens
      have same := opens.silent 0
      have reached : Adapter.execute connection sql parameters driver =
          execute fresh sql (some parameters) opened :=
        Operation.bind_of_ok made _
      rw [reached]
      rcases execute_answered fresh sql (some parameters) opened with
        ⟨fault, left, fails, answered, sent⟩ | ⟨left, succeeds, answered, sent⟩
      · exact Or.inr (Or.inl ⟨fault, left, fails, same ▸ answered, opens.trans sent⟩)
      · exact Or.inr (Or.inr ⟨_, left, succeeds, same ▸ answered, same, opens.trans sent⟩)

theorem execute_gives (cursor : Cursor) (sql : String) (parameters : Option (List Value))
    (obliges : driver.Obliges) :
    (execute cursor sql parameters).Gives driver fun ran left =>
      ran = { cursor with response := driver.answer 0 } ∧
        Driver.Answers [(sql, parameters)] driver left := by
  rcases execute_answered cursor sql parameters driver with
    ⟨fault, left, -, answered, -⟩ | ⟨left, succeeds, -, sent⟩
  · cases (obliges.answer 0).1.symm.trans answered
  · exact ⟨_, left, succeeds, rfl, sent⟩

theorem executeAnew_gives (connection : Connection) (sql : String) (parameters : List Value)
    (obliges : driver.Obliges) :
    (Adapter.execute connection sql parameters).Gives driver fun ran left =>
      ran.response = driver.answer 0 ∧ Driver.Answers [(sql, some parameters)] driver left := by
  refine .bind (.of_respects (obliges.openCursor connection) (openCursor_answers connection)) ?_
  rintro fresh opened ⟨-, answers⟩
  refine (execute_gives fresh sql (some parameters) (answers.obliges obliges)).mono ?_
  rintro ran left ⟨rfl, sends⟩
  exact ⟨answers.silent 0, answers.trans sends⟩

/-- A statement on a cursor of its own comes to what is made of its answer. -/
theorem withStatement_yields {β : Type} (connection : Connection) (sql : String)
    (use : Cursor -> Except Fault β) (obliges : driver.Obliges) :
    (Adapter.withStatement connection sql use).Yields driver fun outcome left =>
      (exists cursor, cursor.response = driver.answer 0 ∧ outcome = use cursor) ∧
        Driver.Answers [(sql, none)] driver left := by
  have opens := obliges.openCursor connection
  refine .after_gives (.of_respects opens (openCursor_answers connection)) ?_
  intro cursor opened ⟨isFresh, answers⟩
  have executes := execute_gives cursor sql none (answers.obliges obliges)
  refine .after_gives executes.observe fun found left ⟨ran, isRan, isCursor, sends⟩ => ?_
  have answered : ran.response = driver.answer 0 := by
    rw [isCursor]
    exact answers.silent 0
  have closes : (closeCursor ran).outcome left = .ok () :=
    (sends.obliges (answers.obliges obliges)).closeCursor (obliges.closes answered)
  rw [isRan]
  refine .after_gives (.of_respects closes (closeCursor_answers ran)) fun _ closed ⟨_, silent⟩ => ?_
  have all := (answers.trans sends).trans silent
  exact .ofExcept ⟨⟨ran, answered, rfl⟩, all⟩

end Drivers

end Native

namespace Gateway

variable {α β : Type}

/-! ## Connecting with another store of templates -/

/-- The second state is the first one with a store of compiled templates. -/
def WithCache (cache : Template.Cache) (first second : Gateway α) : Prop :=
  second = { first with cache := cache }

section WithCache

variable {cache : Template.Cache}

theorem onDriver_withCache (operation : Operation Native.Driver β) :
    (onDriver operation : Operation (Gateway α) β).Alike (WithCache cache)
      (onDriver operation) := by
  rintro first _ rfl
  unfold Operation.AlikeOn onDriver
  rw [Operation.outcome_within, Operation.outcome_within, Operation.after_within,
    Operation.after_within]
  exact ⟨rfl, rfl⟩

theorem write_withCache (level : Logging.Level) (part message : String)
    (fields : Option (List (String × Value))) :
    (write level part message fields : Operation (Gateway α) Unit).Alike (WithCache cache)
      (write level part message fields) := by
  rintro first _ rfl
  exact ⟨rfl, rfl⟩

theorem attach_withCache (id : Nat) (connection : Native.Connection) (adapter : Adapter) :
    (attach id connection adapter : Operation (Gateway α) Handle).Alike (WithCache cache)
      (attach id connection adapter) := by
  rintro first _ rfl
  exact ⟨rfl, rfl⟩

/-- What is read from a state may be used alike, unless it is the store. -/
theorem getBind_withCache {next : Gateway α -> Operation (Gateway α) β}
    (blind : forall gateway : Gateway α, next { gateway with cache := cache } = next gateway)
    (rest : forall gateway, (next gateway).Alike (WithCache cache) (next gateway)) :
    (get >>= next).Alike (WithCache cache) (get >>= next) := by
  apply Operation.Alike.getBind
  rintro first _ rfl
  rw [blind first]
  exact rest first

theorem openEntry_withCache (id : Nat) (params : ConnectionParams) :
    (openEntry id params : Operation (Gateway α) Handle).Alike (WithCache cache)
      (openEntry id params) := by
  have announces (handle : Handle) :
      (announceConnected params handle : Operation (Gateway α) Unit).Alike (WithCache cache)
        (announceConnected params handle) := by
    unfold announceConnected
    split
    · exact .pure ()
    · exact write_withCache _ _ _ _
  exact .bind (.ofExcept _) fun adapter => .bind (.ofExcept _) fun options =>
    getBind_withCache (fun _ => rfl) fun _ => .bind (.ofExcept _) fun _ =>
    .bind (.mapFault _ (onDriver_withCache _)) fun connection =>
    .bind (attach_withCache id connection adapter) fun handle =>
    .bind (announces handle) fun _ => .pure handle

theorem connect_withCache (id : Nat) :
    (connect id : Operation (Gateway α) Handle).Alike (WithCache cache) (connect id) := by
  have reads : (entryAt id : Operation (Gateway α) (Entry α)).Alike (WithCache cache)
      (entryAt id) :=
    getBind_withCache (fun _ => rfl) fun _ => .pure _
  refine .bind reads fun entry => ?_
  cases entry.handle with
  | some handle => exact .pure handle
  | none => exact openEntry_withCache id entry.params

theorem outcome_connect_withCache (id : Nat) (gateway : Gateway α) :
    (connect id).outcome { gateway with cache := cache } = (connect id).outcome gateway :=
  (connect_withCache id gateway _ rfl).1.symm

/-- Connecting compiles nothing. -/
theorem connect_cache (id : Nat) (gateway : Gateway α) :
    ((connect id).after gateway).cache = gateway.cache := by
  have same : (connect id).after gateway = { (connect id).after gateway with
      cache := gateway.cache } :=
    (connect_withCache id gateway gateway rfl).2
  rw [same]

end WithCache

end Gateway

namespace Database

open Session (library)

variable {α σ β : Type} (database : Database)

/-! ## What happens between two states -/

/-- Exactly the given statements were sent, with an answer to each. -/
structure Asked (asked : List (String × Option (List Value))) (before after : Gateway α) :
    Prop where
  params : (after.entry database.entry).params = (before.entry database.entry).params
  sound : before.cache.Sound -> after.cache.Sound
  answers : before.driver.Answers asked after.driver

/-- No statement was sent, and a connected database kept its handle. -/
structure Kept (before after : Gateway α) : Prop extends database.Asked [] before after where
  handle : forall handle, (before.entry database.entry).handle = some handle ->
    (after.entry database.entry).handle = some handle

/-- A statement was sent and answered, and the database is connected with what was said of the
row. -/
structure Responded (adapter : Adapter) (statement : String × Option (List Value))
    (before after : Gateway α) : Prop extends database.Asked [statement] before after where
  connected : exists handle, (after.entry database.entry).handle = some handle ∧
    handle.adapter = adapter ∧ handle.lastRowId = (before.driver.answer 0).lastRowId

/-- A database of a dialect over a driver whose calls do not fail.  It is connected by an adapter,
or will be by its next use. -/
structure Serves (dialect : Dialect) (adapter : Adapter) (gateway : Gateway α) : Prop where
  dialect : (gateway.entry database.entry).params.dialect = dialect
  sound : gateway.cache.Sound
  obliges : gateway.driver.Obliges
  connects : exists handle,
    database.handle.outcome gateway = .ok handle ∧ handle.adapter = adapter

end Database

/-- Callbacks that succeed, send nothing and keep the connection of a database. -/
def HookRunner.Keeps {α σ : Type} (runner : HookRunner α σ) (database : Database) : Prop :=
  forall name phase callback sql session,
    (runner name phase callback sql).Gives session fun _ left =>
      database.Kept session.gateway left.gateway

namespace Database

open Session (library)

variable {α σ β : Type} {database : Database} {before middle after gateway : Gateway α}
  {dialect : Dialect} {adapter : Adapter}

theorem Asked.trans {first second : List (String × Option (List Value))}
    (asked : database.Asked first before middle) (others : database.Asked second middle after) :
    database.Asked (first ++ second) before after where
  params := others.params.trans asked.params
  sound sound := others.sound (asked.sound sound)
  answers := asked.answers.trans others.answers

theorem kept_of_same (entries : after.entries = before.entries)
    (cache : after.cache = before.cache) (driver : after.driver = before.driver) :
    database.Kept before after := by
  have same : after.entry database.entry = before.entry database.entry := by
    unfold Gateway.entry
    rw [entries]
  refine ⟨⟨?_, ?_, ?_⟩, ?_⟩
  · rw [same]
  · rw [cache]
    exact id
  · rw [driver]
    exact refl_of (Native.Driver.Answers []) before.driver
  · rw [same]
    exact fun _ held => held

instance : IsPreorder (Gateway α) database.Kept where
  refl _ := kept_of_same rfl rfl rfl
  trans _ _ _ first second :=
    ⟨first.toAsked.trans second.toAsked,
      fun handle held => second.handle handle (first.handle handle held)⟩

theorem Responded.of_kept {statement : String × Option (List Value)}
    (kept : database.Kept before middle)
    (responded : database.Responded adapter statement middle after) :
    database.Responded adapter statement before after := by
  refine ⟨kept.toAsked.trans responded.toAsked, ?_⟩
  rw [← kept.answers.silent]
  exact responded.connected

theorem Responded.kept_after {statement : String × Option (List Value)}
    (responded : database.Responded adapter statement before middle)
    (kept : database.Kept middle after) :
    database.Responded adapter statement before after := by
  rcases responded.connected with ⟨handle, held, same⟩
  exact ⟨responded.toAsked.trans kept.toAsked, handle, kept.handle handle held, same⟩

/-- A database that was asked something serves further questions if it is connected. -/
theorem Serves.after_responded {statement : String × Option (List Value)}
    (serves : database.Serves dialect adapter before)
    (responded : database.Responded adapter statement before after) :
    database.Serves dialect adapter after := by
  rcases responded.connected with ⟨handle, held, same, -⟩
  refine ⟨responded.params ▸ serves.dialect, responded.sound serves.sound,
    responded.answers.obliges serves.obliges, handle, ?_, same⟩
  exact Operation.outcome_of_ok (Gateway.connect_of_connected held)

/-! ## The parts of a query -/

theorem library_gives {operation : Operation (Gateway α) β} {session : Session α σ}
    {described : β -> Gateway α -> Prop} (gives : operation.Gives session.gateway described) :
    (library operation).Gives session fun value left => described value left.gateway :=
  .within gives fun _ _ known => known

theorem library_yields {operation : Operation (Gateway α) β} {session : Session α σ}
    {described : Except Fault β -> Gateway α -> Prop}
    (yields : operation.Yields session.gateway described) :
    (library operation).Yields session fun outcome left => described outcome left.gateway :=
  .within yields

theorem onDriver_gives {operation : Operation Native.Driver β}
    {described : β -> Native.Driver -> Prop} (gives : operation.Gives gateway.driver described) :
    (Gateway.onDriver operation).Gives gateway fun value left =>
      exists driver, left = { gateway with driver := driver } ∧ described value driver :=
  .within gives fun _ driver known => ⟨driver, rfl, known⟩

theorem kept_of_driver {driver : Native.Driver} (answers : gateway.driver.Answers [] driver) :
    database.Kept gateway { gateway with driver := driver } :=
  ⟨⟨rfl, id, answers⟩, fun _ held => held⟩

/-- The handle that a database gives is its own, and giving it sends no statement. -/
theorem kept_of_handle {handle : Handle} (given : database.handle before = .ok handle after) :
    (after.entry database.entry).handle = some handle ∧ database.Kept before after := by
  cases held : (before.entry database.entry).handle with
  | some current =>
      cases (Gateway.connect_of_connected held).symm.trans given
      exact ⟨held, refl_of database.Kept before⟩
  | none =>
      rcases handle_cases held with ⟨fault, left, fails, -⟩ | ⟨found, left, run, connects⟩
      · cases fails.symm.trans given
      · cases run.symm.trans given
        have cache := Gateway.connect_cache database.entry before
        rw [← Database.handle, Operation.after_of_ok given] at cache
        refine ⟨connects.held, ⟨?_, ?_, ?_⟩, ?_⟩
        · rw [connects.opened.entry, if_pos rfl]
        · rw [cache]
          exact id
        · rcases connects.driver with ⟨options, opens⟩
          have answers := Native.openConnection_answers handle.adapter
            (before.entry database.entry).params options before.driver
          rw [Operation.after_of_ok opens] at answers
          exact answers
        · intro other otherHeld
          cases held.symm.trans otherHeld

/-- A database that serves gives its handle. -/
theorem Serves.handle_gives (serves : database.Serves dialect adapter gateway) :
    database.handle.Gives gateway fun handle left =>
      handle.adapter = adapter ∧ (left.entry database.entry).handle = some handle ∧
        database.Kept gateway left := by
  rcases serves.connects with ⟨handle, gives, same⟩
  have run := Operation.run_of_ok gives
  exact ⟨handle, _, run, same, kept_of_handle run⟩

theorem write_gives (database : Database) (level : Logging.Level) (part message : String)
    (fields : Option (List (String × Value))) :
    (Gateway.write level part message fields).Gives gateway fun _ left =>
      database.Kept gateway left :=
  ⟨(), _, rfl, kept_of_same rfl rfl rfl⟩

theorem runHooks_gives {runner : HookRunner α σ} (keeps : runner.Keeps database)
    (phase : Native.HookPhase) (sql : String) (hooks : List (Hook α)) (session : Session α σ) :
    (runHooks runner phase sql hooks).Gives session fun _ left =>
      database.Kept session.gateway left.gateway := by
  let relation (first second : Session α σ) : Prop := database.Kept first.gateway second.gateway
  have preorder : IsPreorder (Session α σ) relation :=
    { refl := fun session => refl_of database.Kept session.gateway
      trans := fun _ _ _ first second => trans_of database.Kept first second }
  have calls : forall hook session,
      (runHook runner phase sql hook).Gives session fun _ left => relation session left := by
    intro hook session
    unfold runHook
    split
    · exact .pure (refl_of relation session)
    · rename_i callback _
      refine .bind (library_gives (database.write_gives _ _ _ _)) fun _ written kept => ?_
      exact (keeps hook.name phase callback sql written).mono fun _ _ called =>
        trans_of database.Kept kept called
  exact .forEach calls hooks session

theorem rememberRow_eq {handle : Handle}
    (held : (gateway.entry database.entry).handle = some handle) (lastRowId : Value) :
    (database.rememberRow handle lastRowId).after gateway =
      gateway.setEntry database.entry { gateway.entry database.entry with
        handle := some { handle with lastRowId := lastRowId } } := by
  have changed (change : Entry α → Entry α) :
      (Gateway.changeEntry database.entry change).after gateway =
        gateway.setEntry database.entry (change (gateway.entry database.entry)) :=
    rfl
  unfold rememberRow
  rw [changed, held]
  simp only [if_true]

/-- A statement on the connection of a database is answered by the next response. -/
theorem runStatement_gives {handle : Handle}
    (held : (gateway.entry database.entry).handle = some handle)
    (obliges : gateway.driver.Obliges) (sql : String) (parameters : List Value) :
    (database.runStatement handle sql parameters).Gives gateway fun cursor left =>
      cursor.response = gateway.driver.answer 0 ∧
        database.Responded handle.adapter (sql, some parameters) gateway left := by
  have executes := Native.executeAnew_gives handle.connection sql parameters obliges
  refine .atBoundary _ _ (.bind (onDriver_gives executes) ?_)
  rintro cursor _ ⟨driver, rfl, answered, sent⟩
  let executed : Gateway α := { gateway with driver := driver }
  let current : Entry α := { gateway.entry database.entry with
    handle := some { handle with lastRowId := cursor.response.lastRowId } }
  let remembered := executed.setEntry database.entry current
  have stillHeld : (executed.entry database.entry).handle = some handle := held
  have remembers : (database.rememberRow handle cursor.response.lastRowId) executed =
      .ok () remembered :=
    congrArg (EStateM.Result.ok ()) (rememberRow_eq stillHeld cursor.response.lastRowId)
  have entry : remembered.entry database.entry = current := by
    rw [Gateway.entry_setEntry, if_pos rfl]
  have responded : database.Responded handle.adapter (sql, some parameters) gateway remembered := by
    refine ⟨⟨?_, id, sent⟩, { handle with lastRowId := cursor.response.lastRowId }, ?_, rfl, ?_⟩
    · rw [entry]
    · rw [entry]
    · exact congrArg Native.Response.lastRowId answered
  have asks : database.inTransaction handle remembered =
      .ok ((remembered.tracker database.tracker).isActive handle.id) remembered :=
    rfl
  refine .bind (.of_run remembers) fun _ left ⟨_, isLeft⟩ => ?_
  rw [isLeft]
  refine .bind (.of_run asks) fun isActive reached ⟨_, isReached⟩ => ?_
  rw [isReached]
  have ends := Native.afterExecute_gives handle.adapter handle.connection isActive
    (responded.answers.obliges obliges)
  refine .bind (onDriver_gives ends) ?_
  rintro _ _ ⟨ended, rfl, answers⟩
  exact .pure ⟨answered, responded.kept_after (kept_of_driver answers)⟩

/-! ## Queries -/

section Queries

variable {runner : HookRunner α σ} (keeps : runner.Keeps database) {session : Session α σ}
  (serves : database.Serves dialect adapter session.gateway)
include keeps serves

/-- A compiled query whose values can be bound is answered. -/
theorem Serves.execute_gives {query : ParsedQuery} {values parameters : List Value}
    (bound : Parameter.bind query values adapter.coercion = .ok parameters) :
    (database.execute runner query values).Gives session fun result left =>
      (exists cursor, cursor.response = session.gateway.driver.answer 0 ∧
        result = resultOf query (session.gateway.entry database.entry).params cursor) ∧
      database.Responded adapter (query.sql, some parameters) session.gateway left.gateway := by
  refine .bind (library_gives serves.handle_gives) ?_
  rintro handle connected ⟨isAdapter, held, connects⟩
  rw [← isAdapter] at bound
  refine .bind (.ofExcept bound) fun bindings left ⟨isBound, isLeft⟩ => ?_
  rw [isBound, isLeft]
  have reads : (library database.entryOf : Operation (Session α σ) (Entry α)) connected =
      .ok (connected.gateway.entry database.entry) connected :=
    rfl
  refine .bind (.of_run reads) fun entry read ⟨isEntry, isRead⟩ => ?_
  rw [isRead]
  refine .bind (runHooks_gives keeps _ _ _ _) fun _ prepared before => ?_
  refine .bind (library_gives (database.write_gives _ _ _ _)) fun _ announced writes => ?_
  have kept := trans_of database.Kept (trans_of database.Kept connects before) writes
  have stillHeld := writes.handle handle (before.handle handle held)
  have obliges := kept.answers.obliges serves.obliges
  refine .bind (library_gives (runStatement_gives stillHeld obliges _ _)) ?_
  rintro cursor answered ⟨isAnswer, responded⟩
  refine .bind (runHooks_gives keeps _ _ _ _) fun _ left after => .pure ?_
  rw [isAdapter] at responded
  refine ⟨⟨cursor, ?_, ?_⟩, .kept_after (.of_kept kept responded) after⟩
  · rw [isAnswer, kept.answers.silent]
  · rw [isEntry, connects.params]

/-- A template whose values can be bound is compiled and answered. -/
theorem Serves.query_gives (supported : dialect ∈ Dialect.builtin) {template : String}
    {query : ParsedQuery} (parsed : Template.parse template dialect dialect.style = .ok query)
    {values parameters : List Value}
    (bound : Parameter.bind query values adapter.coercion = .ok parameters) :
    (database.query runner template values).Gives session fun result left =>
      (exists cursor, cursor.response = session.gateway.driver.answer 0 ∧
        result = resultOf query (session.gateway.entry database.entry).params cursor) ∧
      database.Responded adapter (query.sql, some parameters) session.gateway left.gateway := by
  let cache := (session.gateway.cache.compile template dialect none).2
  have sound : cache.Sound :=
    Template.Cache.sound_compile serves.sound supported template none
  have compiles : database.compile template session.gateway =
      .ok query { session.gateway with cache := cache } := by
    have found := Template.Cache.compile_of_sound serves.sound supported template none
    rw [Option.getD_none, parsed] at found
    have pair : session.gateway.cache.compile template dialect none = (.ok query, cache) :=
      Prod.ext found rfl
    have reached : database.compile template session.gateway =
        Gateway.compile template (session.gateway.entry database.entry).params.dialect none
          session.gateway :=
      rfl
    rw [reached, serves.dialect]
    unfold Gateway.compile
    rw [pair]
  refine .bind (library_gives (.of_run compiles)) ?_
  rintro _ compiled ⟨rfl, isCompiled⟩
  have kept : database.Kept session.gateway compiled.gateway := by
    rw [isCompiled]
    exact ⟨⟨rfl, fun _ => sound, refl_of (Native.Driver.Answers []) _⟩, fun _ held => held⟩
  have stillServes : database.Serves dialect adapter compiled.gateway := by
    rw [isCompiled]
    rcases serves.connects with ⟨handle, gives, same⟩
    exact ⟨serves.dialect, sound, serves.obliges, handle,
      (Gateway.outcome_connect_withCache _ _).trans gives, same⟩
  refine (execute_gives keeps stillServes bound).mono ?_
  rintro result left ⟨⟨cursor, isAnswer, isResult⟩, responded⟩
  refine ⟨⟨cursor, ?_, ?_⟩, .of_kept kept responded⟩
  · rw [isAnswer, kept.answers.silent]
  · rw [isResult, kept.params]

omit keeps serves in
/-- The cursor of an answered statement is closed. -/
theorem free_gives {query : ParsedQuery} {params : ConnectionParams} {cursor : Native.Cursor}
    (fine : cursor.response.closeError = none) {answered : Session α σ}
    (obliges : answered.gateway.driver.Obliges) :
    (free (resultOf query params cursor)).Gives answered fun _ left =>
      database.Kept answered.gateway left.gateway := by
  have closes := obliges.closeCursor fine
  have frees : (resultOf query params cursor).free.Gives answered.gateway.driver fun _ left =>
      Native.Driver.Answers [] answered.gateway.driver left := by
    refine .bind (Operation.Gives.of_respects closes (Native.closeCursor_answers cursor)).observe ?_
    rintro _ left ⟨_, rfl, _, answers⟩
    exact .pure answers
  refine (library_gives (onDriver_gives frees)).mono ?_
  rintro _ left ⟨driver, isLeft, answers⟩
  rw [isLeft]
  exact kept_of_driver answers

/-- A statement whose result is of no interest. -/
theorem Serves.run_gives (supported : dialect ∈ Dialect.builtin) {template : String}
    {query : ParsedQuery} (parsed : Template.parse template dialect dialect.style = .ok query)
    {values parameters : List Value}
    (bound : Parameter.bind query values adapter.coercion = .ok parameters) :
    (database.run runner template values).Gives session fun _ left =>
      database.Responded adapter (query.sql, some parameters) session.gateway left.gateway := by
  refine .bind (query_gives keeps serves supported parsed bound) ?_
  rintro _ answered ⟨⟨cursor, isAnswer, rfl⟩, responded⟩
  have fine := serves.obliges.closes isAnswer
  exact (free_gives fine (responded.answers.obliges serves.obliges)).mono fun _ _ kept => responded.kept_after kept

/-- A query comes to what is made of its answer. -/
theorem Serves.withQuery_yields (supported : dialect ∈ Dialect.builtin) {template : String}
    {query : ParsedQuery} (parsed : Template.parse template dialect dialect.style = .ok query)
    {values parameters : List Value}
    (bound : Parameter.bind query values adapter.coercion = .ok parameters)
    (use : QueryResult -> Except Fault β) :
    (database.withQuery runner template values use).Yields session fun outcome left =>
      (exists cursor, cursor.response = session.gateway.driver.answer 0 ∧
        outcome =
          use (resultOf query (session.gateway.entry database.entry).params cursor)) ∧
      database.Responded adapter (query.sql, some parameters) session.gateway left.gateway := by
  refine .after_gives (query_gives keeps serves supported parsed bound) ?_
  rintro _ answered ⟨⟨cursor, isAnswer, rfl⟩, responded⟩
  have fine := serves.obliges.closes isAnswer
  exact .thenAlways ((free_gives fine (responded.answers.obliges serves.obliges)).mono fun _ _ kept =>
    ⟨⟨cursor, isAnswer, rfl⟩, responded.kept_after kept⟩)

end Queries

/-! ## The row inserted last -/

/-- The question for the number of the row inserted last, if the adapter asks one. -/
def idQuestions (adapter : Adapter) : List (String × Option (List Value)) :=
  adapter.lastInsertQuery?.toList.map fun sql => (sql, none)

/-- The number of the row inserted last: from the answer to the question for it, or from what was
said of the row. -/
def reportedId (adapter : Adapter) (lastRowId : Value) (answer : Native.Response) :
    Except Fault Int :=
  match adapter.lastInsertQuery?, lastRowId with
  | some _, _ => Adapter.firstNumber answer.rows.head?
  | none, .int number => .ok number
  | none, _ => .error adapter.cannotReport

theorem fetchRow_of_answer {cursor : Native.Cursor} (fine : cursor.response.fetchError = none) :
    cursor.fetchRow.1 = .ok cursor.response.rows.head? := by
  unfold Native.Cursor.fetchRow
  rw [fine]
  cases cursor.response.rows <;> rfl

theorem fetchRows_of_answer {cursor : Native.Cursor} (fine : cursor.response.fetchError = none) :
    cursor.fetchRows.1 = .ok cursor.response.rows := by
  unfold Native.Cursor.fetchRows
  rw [fine]

theorem lastInsertId_yields (adapter : Adapter) (connection : Native.Connection)
    (lastRowId : Value) {driver : Native.Driver} (obliges : driver.Obliges) :
    (adapter.lastInsertId connection lastRowId).Yields driver fun outcome left =>
      outcome = reportedId adapter lastRowId (driver.answer 0) ∧
        Native.Driver.Answers (idQuestions adapter) driver left := by
  have same : Native.Driver.Answers [] driver driver := refl_of (Native.Driver.Answers []) driver
  unfold Adapter.lastInsertId reportedId idQuestions
  cases asked : adapter.lastInsertQuery? with
  | some sql =>
      refine .bind (Native.withStatement_yields connection sql _ obliges) ?_
      rintro _ left ⟨⟨cursor, isAnswer, rfl⟩, answers⟩
      rw [fetchRow_of_answer (obliges.fetches isAnswer), isAnswer]
      exact .ofExcept ⟨rfl, answers⟩
  | none =>
      cases lastRowId with
      | int number => exact ⟨rfl, same⟩
      | _ => exact ⟨rfl, same⟩

/-- The number of the row inserted last, with its fault as the caller sees it. -/
def insertedId (adapter : Adapter) (lastRowId : Value) (answer : Native.Response) :
    Except Fault Int :=
  (reportedId adapter lastRowId answer).mapError
    (Fault.atBoundary "Failed fetching last insert id" (some Adapter.driverFaults))

/-- A connected database asks for the number of the row as its adapter does. -/
theorem askLastInsertId_yields {handle : Handle}
    (held : (gateway.entry database.entry).handle = some handle)
    (obliges : gateway.driver.Obliges) :
    database.lastInsertId.Yields gateway fun outcome left =>
      outcome = insertedId handle.adapter handle.lastRowId (gateway.driver.answer 0) ∧
        database.Asked (idQuestions handle.adapter) gateway left := by
  have run : database.handle gateway = .ok handle gateway := Gateway.connect_of_connected held
  refine .after_gives (.of_run run) fun given left ⟨isGiven, isLeft⟩ => ?_
  rw [isGiven, isLeft]
  refine .atBoundary _ _ (.within ?_)
  refine (lastInsertId_yields handle.adapter handle.connection handle.lastRowId obliges).mono ?_
  rintro _ driver ⟨rfl, answers⟩
  exact ⟨rfl, rfl, id, answers⟩

end Database
end SqlGateway
