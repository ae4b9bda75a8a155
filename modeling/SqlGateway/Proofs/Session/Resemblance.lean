import SqlGateway.Proofs.Native.Resemblance
import SqlGateway.Session

namespace SqlGateway

/-!
# Statements with other parameters

The state of the library and a session resemble others if they are the same but for parameters in
the records of their drivers.  Connecting, compiling, hooks and what is done after a statement
are alike in sessions that resemble each other.

A query gives its values to the placeholders before anything is sent.  If that works for the
values of two runs, then nothing that follows depends on them: the native text is that of the
compiled template, and the values are in the record only.  Hooks are the caller's; they are told the
native text, and are assumed not to look into the record.
-/

namespace Gateway

variable {α β : Type}

/-- The states are the same but for parameters in the records of their drivers. -/
def Resembles (first second : Gateway α) : Prop :=
  exists driver, second = { first with driver := driver } ∧ first.driver.Resembles driver

theorem onDriver_alike {operation other : Operation Native.Driver β}
    (alike : operation.Alike Native.Driver.Resembles other) :
    (onDriver operation : Operation (Gateway α) β).Alike Resembles (onDriver other) := by
  refine .within alike ?_ ?_
  · rintro first _ ⟨driver, rfl, resemble⟩
    exact resemble
  · rintro first _ changed otherChanged ⟨driver, rfl, -⟩ resemble
    exact ⟨otherChanged, rfl, resemble⟩

/-- What is read from a state may be used alike, unless it is the record. -/
theorem getBind_alike {next : Gateway α → Operation (Gateway α) β}
    (blind : forall (gateway : Gateway α) (events : List Native.Event),
      next { gateway with driver := { gateway.driver with events := events } } = next gateway)
    (rest : forall gateway, (next gateway).Alike Resembles (next gateway)) :
    (get >>= next).Alike Resembles (get >>= next) := by
  refine .getBind fun first second resemble => ?_
  rcases resemble with ⟨_, rfl, events, rfl, -⟩
  rw [blind first events]
  exact rest first

/-- A change of anything but the driver is made alike. -/
theorem modify_alike {change : Gateway α → Gateway α}
    (apart : forall gateway driver,
      change { gateway with driver := driver } = { change gateway with driver := driver }) :
    (modify change : Operation (Gateway α) Unit).Alike Resembles (modify change) := by
  refine .modify fun first second resemble => ?_
  rcases resemble with ⟨driver, rfl, resemble⟩
  have kept : change first = { change first with driver := first.driver } :=
    apart first first.driver
  have same : (change first).driver = first.driver := by rw [kept]
  exact ⟨driver, apart first driver, same ▸ resemble⟩

theorem write_alike (level : Logging.Level) (part message : String)
    (fields : Option (List (String × Value))) :
    (write level part message fields : Operation (Gateway α) Unit).Alike Resembles
      (write level part message fields) :=
  modify_alike fun _ _ => rfl

theorem changeEntry_alike (id : Nat) (change : Entry α → Entry α) :
    (changeEntry id change).Alike Resembles (changeEntry id change) :=
  modify_alike fun _ _ => rfl

theorem entryAt_alike (id : Nat) :
    (entryAt id : Operation (Gateway α) (Entry α)).Alike Resembles (entryAt id) :=
  getBind_alike (fun _ _ => rfl) fun _ => .pure _

theorem compile_alike (template : String) (dialect : Dialect) (style : Option ParameterStyle) :
    (compile template dialect style : Operation (Gateway α) ParsedQuery).Alike Resembles
      (compile template dialect style) := by
  rintro first _ ⟨driver, rfl, resemble⟩
  rcases found : first.cache.compile template dialect style with ⟨outcome, cache⟩
  simp only [Operation.AlikeOn, Operation.outcome, Operation.after, compile, found]
  cases outcome with
  | ok query => exact ⟨rfl, driver, rfl, resemble⟩
  | error fault => exact ⟨rfl, driver, rfl, resemble⟩

theorem attach_alike (id : Nat) (connection : Native.Connection) (adapter : Adapter) :
    (attach id connection adapter : Operation (Gateway α) Handle).Alike Resembles
      (attach id connection adapter) := by
  rintro first _ ⟨driver, rfl, resemble⟩
  exact ⟨rfl, driver, rfl, resemble⟩

theorem announceConnected_alike (params : ConnectionParams) (handle : Handle) :
    (announceConnected params handle : Operation (Gateway α) Unit).Alike Resembles
      (announceConnected params handle) := by
  unfold announceConnected
  split
  · exact .pure ()
  · exact write_alike _ _ _ _

theorem openEntry_alike (id : Nat) (params : ConnectionParams) :
    (openEntry id params : Operation (Gateway α) Handle).Alike Resembles (openEntry id params) :=
  .bind (.ofExcept _) fun adapter => .bind (.ofExcept _) fun options =>
    getBind_alike (fun _ _ => rfl) fun _ => .bind (.ofExcept _) fun _ =>
    .bind (.mapFault _ <| onDriver_alike <|
      Adapter.openConnection_alike (.refl adapter params options)) fun connection =>
    .bind (attach_alike id connection adapter) fun handle =>
    .bind (announceConnected_alike params handle) fun _ => .pure handle

theorem connect_alike (id : Nat) :
    (connect id : Operation (Gateway α) Handle).Alike Resembles (connect id) := by
  refine .bind (entryAt_alike id) fun entry => ?_
  cases entry.handle with
  | some handle => exact .pure handle
  | none => exact openEntry_alike id entry.params

end Gateway

namespace Database

open Gateway (Resembles)

variable {α : Type} (database : Database)

theorem compile_alike (template : String) :
    (database.compile template : Operation (Gateway α) ParsedQuery).Alike Resembles
      (database.compile template) :=
  .bind (Gateway.entryAt_alike _) fun _ => Gateway.compile_alike _ _ _

theorem runStatement_alike (handle : Handle) (sql : String) (parameters others : List Value) :
    (database.runStatement handle sql parameters : Operation (Gateway α) Native.Cursor).Alike
      Resembles (database.runStatement handle sql others) :=
  .atBoundary _ _ <|
    .bind (Gateway.onDriver_alike (Adapter.execute_alike _ _ fun _ _ => rfl)) fun _ =>
    .bind (Gateway.changeEntry_alike _ _) fun _ =>
    .bind (Gateway.getBind_alike (fun _ _ => rfl) fun _ => .pure _) fun _ =>
    .bind (Gateway.onDriver_alike (Adapter.afterExecute_alike _ _ _)) fun _ => .pure _

theorem lastInsertId_alike :
    (database.lastInsertId : Operation (Gateway α) Int).Alike Resembles database.lastInsertId :=
  .bind (Gateway.connect_alike _) fun _ =>
    .atBoundary _ _ (Gateway.onDriver_alike (Adapter.lastInsertId_alike _ _ _))

end Database

/-! ## Sessions -/

namespace Session

variable {α σ β : Type}

/-- The sessions are the same but for parameters in the records of their drivers. -/
def Resembles (first second : Session α σ) : Prop :=
  exists gateway, second = { first with gateway := gateway } ∧ first.gateway.Resembles gateway

theorem Resembles.refl (session : Session α σ) : session.Resembles session :=
  ⟨session.gateway, rfl, session.gateway.driver, rfl, .refl _⟩

theorem Resembles.texts {first second : Session α σ} (resemble : first.Resembles second) :
    second.gateway.driver.texts = first.gateway.driver.texts := by
  rcases resemble with ⟨_, rfl, driver, rfl, resemble⟩
  exact resemble.texts

theorem library_alike {operation other : Operation (Gateway α) β}
    (alike : operation.Alike Gateway.Resembles other) :
    (library operation : Operation (Session α σ) β).Alike Resembles (library other) := by
  refine .within alike ?_ ?_
  · rintro first _ ⟨gateway, rfl, resemble⟩
    exact resemble
  · rintro first _ changed otherChanged ⟨gateway, rfl, -⟩ resemble
    exact ⟨otherChanged, rfl, resemble⟩

theorem driver_alike {operation other : Operation Native.Driver β}
    (alike : operation.Alike Native.Driver.Resembles other) :
    (driver operation : Operation (Session α σ) β).Alike Resembles (driver other) :=
  library_alike (Gateway.onDriver_alike alike)

end Session

/-- Hooks that do the same whatever parameters are in the record. -/
def HookRunner.IsBlind {α σ : Type} (runner : HookRunner α σ) : Prop :=
  forall name phase callback sql,
    (runner name phase callback sql).Alike Session.Resembles (runner name phase callback sql)

/-- The runner of hooks that also has the texts recorded that they are told. -/
def HookRunner.recorded {α σ : Type} (runner : HookRunner α σ) : HookRunner α σ :=
  fun name phase callback sql => do
    Session.driver (Native.note (.hook name phase sql))
    runner name phase callback sql

theorem HookRunner.IsBlind.recorded {α σ : Type} {runner : HookRunner α σ}
    (blind : runner.IsBlind) : runner.recorded.IsBlind :=
  fun name phase callback sql =>
    .bind (Session.driver_alike (Native.note_alike _)) fun _ => blind name phase callback sql

namespace Database

open Session (Resembles library)

variable {α σ β : Type} {runner : HookRunner α σ} (blind : runner.IsBlind) (database : Database)

include blind in
theorem runHooks_alike (phase : Native.HookPhase) (sql : String) (hooks : List (Hook α)) :
    (runHooks runner phase sql hooks).Alike Resembles (runHooks runner phase sql hooks) := by
  refine .forEach (fun hook => ?_) hooks
  unfold runHook
  cases hook.callback phase with
  | none => exact .pure ()
  | some callback =>
      exact .bind (Session.library_alike (Gateway.write_alike _ _ _ _)) fun _ =>
        blind _ _ _ _

theorem free_alike (result : QueryResult) :
    (free result : Operation (Session α σ) Unit).Alike Resembles (free result) :=
  Session.driver_alike result.free_alike

/-! ## Queries -/

/-- Compile a template and connect the database. -/
def readied (template : String) : Operation (Session α σ) (ParsedQuery × Handle) := do
  let query ← library (database.compile template)
  return (query, ← library database.handle)

/-- If the template compiles and the database connects, then each placeholder can be given its
value. -/
def Binds (template : String) (values : List Value) (session : Session α σ) : Prop :=
  forall query handle, (database.readied template).outcome session = .ok (query, handle) ->
    exists parameters, Parameter.bind query values handle.adapter.coercion = .ok parameters

theorem Binds.of_readied {database : Database} {template : String} {values parameters : List Value}
    {session : Session α σ} {query : ParsedQuery} {handle : Handle}
    (readied : (database.readied template).outcome session = .ok (query, handle))
    (bound : Parameter.bind query values handle.adapter.coercion = .ok parameters) :
    database.Binds template values session := by
  intro other otherHandle otherReadied
  cases readied.symm.trans otherReadied
  exact ⟨parameters, bound⟩

/-- Run a statement on a connection with parameters, between the calls of the hooks. -/
def conduct (runner : HookRunner α σ) (query : ParsedQuery) (handle : Handle)
    (parameters : List Value) : Operation (Session α σ) QueryResult := do
  let entry ← library database.entryOf
  runHooks runner .before query.sql entry.hooks
  library (announceQuery handle query.sql)
  let cursor ← library (database.runStatement handle query.sql parameters)
  runHooks runner .after query.sql entry.hooks
  return resultOf query entry.params cursor

section Queries

variable {database} {template : String} {values others : List Value}
  {first second : Session α σ}

theorem Binds.bound (binds : database.Binds template values first) {query : ParsedQuery}
    {handle : Handle}
    (compiled : (library (database.compile template) :
      Operation (Session α σ) ParsedQuery).outcome first = .ok query)
    (connected : (library database.handle : Operation (Session α σ) Handle).outcome
      ((library (database.compile template) : Operation (Session α σ) ParsedQuery).after first) =
        .ok handle) :
    exists parameters, Parameter.bind query values handle.adapter.coercion = .ok parameters := by
  refine binds query handle ?_
  rw [readied, Operation.outcome_bind, compiled]
  simp only
  rw [Operation.outcome_bind, connected]
  rfl

include blind

/-- Two queries of one template are alike, if each can be given its values. -/
theorem query_alike (binds : database.Binds template values first)
    (othersBind : database.Binds template others second) (resemble : first.Resembles second) :
    Operation.AlikeOn Resembles (database.query runner template values)
      (database.query runner template others) first second := by
  have compile : (library (database.compile template) :
      Operation (Session α σ) ParsedQuery).Alike Resembles (library (database.compile template)) :=
    Session.library_alike (database.compile_alike template)
  have connect : (library database.handle : Operation (Session α σ) Handle).Alike Resembles
      (library database.handle) :=
    Session.library_alike (Gateway.connect_alike _)
  refine (compile _ _ resemble).bind fun query compiled otherCompiled resemble =>
    (connect _ _ resemble).bind fun handle connected otherConnected resemble => ?_
  rcases binds.bound compiled connected with ⟨parameters, bound⟩
  rcases othersBind.bound otherCompiled otherConnected with ⟨otherParameters, otherBound⟩
  rw [bound, otherBound]
  have rest : Operation.Alike Resembles (database.conduct runner query handle parameters)
      (database.conduct runner query handle otherParameters) := by
    refine .bind (Session.library_alike (Gateway.entryAt_alike _)) fun entry => ?_
    refine .bind (runHooks_alike blind _ _ _) fun _ => ?_
    refine .bind (Session.library_alike (Gateway.write_alike _ _ _ _)) fun _ => ?_
    refine .bind (Session.library_alike (database.runStatement_alike _ _ _ _)) fun cursor => ?_
    refine .bind (runHooks_alike blind _ _ _) fun _ => ?_
    exact .pure _
  exact rest _ _ resemble

theorem withQuery_alike (use : QueryResult → Except Fault β)
    (binds : database.Binds template values first)
    (othersBind : database.Binds template others second) (resemble : first.Resembles second) :
    Operation.AlikeOn Resembles (database.withQuery runner template values use)
      (database.withQuery runner template others use) first second :=
  (query_alike blind binds othersBind resemble).bind fun result _ _ resemble =>
    Operation.Alike.thenAlways (.ofExcept (use result)) (free_alike result) _ _ resemble

end Queries

end Database
end SqlGateway
