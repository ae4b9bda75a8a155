import SqlGateway.Database.Prepared
import SqlGateway.Proofs.Gateway.Custody
import SqlGateway.Proofs.Native.Progress
import SqlGateway.Proofs.Session.Statement

namespace SqlGateway

/-!
# What a service of a database does with its connection

Callers query, run what was prepared, prepare, begin, commit, roll back and disconnect.  Each of
these services but the last connects the database first if it has to.  Then it does at most one
thing with the connection: it runs a statement, has the server read one, or carries out an action.
All the rest happens beside the connection.

So a law about connections needs to be shown for these few dealings only, and for the connection
that is opened or closed.  Hooks are the caller's; they are assumed to keep away from the
connection.
-/

namespace Database

variable {α σ : Type}

open Session (library)

/-! ## Beside the connection -/

/-- Between two states nothing was done with the connection of a database, and what is known of
every state that the library reaches was not lost. -/
structure Beside (database : Database) (before after : Gateway α) : Prop where
  apart : database.Apart before after
  unconnected : (before.entry database.entry).handle = none ->
    (after.entry database.entry).handle = none
  params : (after.entry database.entry).params = (before.entry database.entry).params
  sound : before.Sound -> after.Sound
  onward : before.driver.Onward after.driver
  numbered : before.driver.Numbered -> after.driver.Numbered

/-- The same for states that states of the library are seen in. -/
def BesideIn {τ : Type} (database : Database) (view : τ → Gateway α) (before after : τ) : Prop :=
  database.Beside (view before) (view after)

/-- The same for the sessions around the states. -/
abbrev SessionBeside (database : Database) : Session α σ → Session α σ → Prop :=
  database.BesideIn Session.gateway

instance (database : Database) : IsPreorder (Gateway α) database.Beside where
  refl gateway := ⟨refl_of database.Apart gateway, id, rfl, id,
    refl_of Native.Driver.Onward gateway.driver, id⟩
  trans _ _ _ first second :=
    ⟨trans_of database.Apart first.apart second.apart, second.unconnected ∘ first.unconnected,
      second.params.trans first.params, second.sound ∘ first.sound,
      trans_of Native.Driver.Onward first.onward second.onward,
      second.numbered ∘ first.numbered⟩

instance {τ : Type} (database : Database) (view : τ → Gateway α) :
    IsPreorder τ (database.BesideIn view) where
  refl state := refl_of database.Beside (view state)
  trans _ _ _ first second := trans_of database.Beside first second

section Beside

variable {database : Database} {before after : Gateway α}

theorem beside_of_untouched (untouched : Gateway.Untouched before after)
    (driver : after.driver = before.driver) : database.Beside before after where
  apart := apart_of_untouched untouched driver
  unconnected unconnected := by
    rw [untouched.entry]
    exact unconnected
  params := by rw [untouched.entry]
  sound sound := sound.undisturbed untouched.steady.toUndisturbed
  onward := by
    rw [driver]
    exact refl_of Native.Driver.Onward before.driver
  numbered numbered := by
    rw [driver]
    exact numbered

/-- What an unconnected database does with the driver is beside the connection that it has not. -/
theorem beside_of_unconnected (unconnected : (before.entry database.entry).handle = none)
    (untouched : Gateway.Untouched before after) (onward : before.driver.Onward after.driver)
    (numbered : before.driver.Numbered -> after.driver.Numbered) :
    database.Beside before after where
  apart handle held := by
    rw [unconnected] at held
    cases held
  unconnected _ := by
    rw [untouched.entry]
    exact unconnected
  params := by rw [untouched.entry]
  sound sound := sound.undisturbed untouched.steady.toUndisturbed
  onward := onward
  numbered := numbered

theorem library_beside {β : Type} {operation : Operation (Gateway α) β}
    (beside : operation.Respects database.Beside) :
    (library operation : Operation (Session α σ) β).Respects database.SessionBeside :=
  Operation.Respects.within beside fun _ _ kept => kept

theorem write_beside (level : Logging.Level) (part message : String)
    (fields : Option (List (String × Value))) :
    (Gateway.write level part message fields : Operation (Gateway α) Unit).Respects
      database.Beside :=
  fun gateway => beside_of_untouched (Gateway.write_untouched level part message fields gateway) rfl

theorem compileTemplate_beside (template : String) (dialect : Dialect)
    (style : Option ParameterStyle) :
    (Gateway.compile template dialect style : Operation (Gateway α) ParsedQuery).Respects
      database.Beside :=
  fun gateway => beside_of_untouched (Gateway.compile_untouched _ _ _ gateway)
    (Gateway.compile_driver _ _ _ _)

theorem entryOf_beside :
    (database.entryOf : Operation (Gateway α) (Entry α)).Respects database.Beside :=
  .bind .get fun _ => .pure _

theorem runHooks_beside {runner : HookRunner α σ}
    (hooks : forall name phase callback sql,
      (runner name phase callback sql).Respects database.SessionBeside)
    (phase : Native.HookPhase) (sql : String) (registered : List (Hook α)) :
    (runHooks runner phase sql registered).Respects database.SessionBeside :=
  runHooks_respects (fun _ _ _ _ => library_beside (write_beside _ _ _ _))
    (fun _ _ => hooks _ _ _ _) registered

/-- The grammar checker is asked about no connection. -/
theorem validate_beside (dialect : Dialect) (sql : String) :
    (Gateway.onDriver (Adapter.validate dialect sql) : Operation (Gateway α) Unit).Respects
      database.Beside := by
  intro gateway
  rcases Adapter.validate_unlisted dialect sql gateway.driver with ⟨record, active, numbered⟩
  have onward := Adapter.validate_onward dialect sql gateway.driver
  rw [Gateway.onDriver, Operation.after_within]
  refine ⟨fun handle held => ⟨⟨handle.lastRowId, held⟩, rfl, record _, ?_⟩, id, rfl, ?_, onward,
    numbered⟩
  · unfold Native.Driver.isActive
    rw [active]
  · exact fun sound => sound.undisturbed ⟨fun _ => rfl, Nat.le_refl _, id⟩

end Beside

/-! ## Dealings with the connection -/

/-- What is done at once with the connection of a handle, other than to close it. -/
inductive Deals (database : Database) (handle : Handle) : Gateway α → Gateway α → Prop where
  | states (sql : String) (parameters : List Value) (gateway : Gateway α) :
      Deals database handle gateway ((database.runStatement handle sql parameters).after gateway)
  | readies (sql : String) (gateway : Gateway α) :
      Deals database handle gateway ((Gateway.onDriver
        (handle.adapter.prepareNatively handle.connection sql)).after gateway)
  | acts (action : Action) (gateway : Gateway α) :
      Deals database handle gateway ((action.perform database).after gateway)

/-- At most one dealing, and all the rest beside the connection. -/
def Once (database : Database) (handle : Handle) (before after : Gateway α) : Prop :=
  exists middle dealt, database.Beside before middle ∧
    (dealt = middle ∨ database.Deals handle middle dealt) ∧ database.Beside dealt after

/-- A course of things that has room for what happens beside the connection. -/
structure Absorbs (database : Database) (course : Gateway α → Gateway α → Prop) : Prop where
  of_beside {before after : Gateway α} (beside : database.Beside before after) :
    course before after
  after_beside {before middle after : Gateway α} (beside : database.Beside before middle)
    (rest : course middle after) : course before after
  beside_after {before middle after : Gateway α} (first : course before middle)
    (beside : database.Beside middle after) : course before after

theorem once_absorbs (database : Database) (handle : Handle) :
    database.Absorbs (database.Once handle : Gateway α → Gateway α → Prop) where
  of_beside {_ after} beside := ⟨after, after, beside, Or.inl rfl, refl_of database.Beside after⟩
  after_beside beside rest := by
    rcases rest with ⟨dealing, dealt, first, deals, last⟩
    exact ⟨dealing, dealt, trans_of database.Beside beside first, deals, last⟩
  beside_after first beside := by
    rcases first with ⟨dealing, dealt, first, deals, last⟩
    exact ⟨dealing, dealt, first, deals, trans_of database.Beside last beside⟩

theorem Once.of_deals {database : Database} {handle : Handle} {before after : Gateway α}
    (deals : database.Deals handle before after) : database.Once handle before after :=
  ⟨before, after, refl_of database.Beside before, Or.inr deals, refl_of database.Beside after⟩

/-- An operation on states of the library, or on states around them, takes a course. -/
def Follows {τ β : Type} (view : τ → Gateway α) (course : Gateway α → Gateway α → Prop)
    (operation : Operation τ β) (state : τ) : Prop :=
  course (view state) (view (operation.after state))

section Following

variable {τ β γ : Type} {database : Database} {course : Gateway α → Gateway α → Prop}
  (absorbs : database.Absorbs course) {view : τ → Gateway α} {state : τ}

include absorbs

theorem follows_of_bind {first : Operation τ γ} {next : γ → Operation τ β}
    (beside : database.BesideIn view state (first.after state))
    (rest : forall value, first.outcome state = .ok value ->
      Follows view course (next value) (first.after state)) :
    Follows view course (first >>= next) state := by
  unfold Follows
  rw [Operation.after_bind]
  cases found : first.outcome state with
  | error fault => exact absorbs.of_beside beside
  | ok value => exact absorbs.after_beside beside (rest value found)

theorem follows_bind {first : Operation τ γ} {next : γ → Operation τ β}
    (follows : Follows view course first state)
    (beside : forall value, (next value).Respects (database.BesideIn view)) :
    Follows view course (first >>= next) state := by
  unfold Follows
  rw [Operation.after_bind]
  cases first.outcome state with
  | error fault => exact follows
  | ok value => exact absorbs.beside_after follows (beside value (first.after state))

end Following

theorem follows_library {β : Type} {course : Gateway α → Gateway α → Prop}
    {operation : Operation (Gateway α) β} {session : Session α σ}
    (follows : course session.gateway (operation.after session.gateway)) :
    Follows Session.gateway course (library operation) session := by
  unfold Follows
  rw [Session.gateway_library]
  exact follows

end Database

/-! ## Services -/

/-- What callers ask of a database. -/
inductive Service where
  | query (template : String) (values : List Value)
  /-- Run what was prepared. -/
  | execute (prepared : ParsedQuery) (values : List Value)
  | prepare (template : String)
  | act (action : Action)
  | disconnect

def Service.perform {α σ : Type} (runner : HookRunner α σ) (database : Database) :
    Service → Operation (Session α σ) Unit
  | .query template values => do
    let _ ← database.query runner template values
  | .execute prepared values => do
    let _ ← database.execute runner prepared values
  | .prepare template => do
    let _ ← Session.library (database.prepare template)
  | .act action => Session.library (action.perform database)
  | .disconnect => Session.library database.disconnect

namespace Database

variable {α σ : Type} {database : Database} {handle : Handle}

open Session (library)

section Parts

variable {course : Gateway α → Gateway α → Prop} (absorbs : database.Absorbs course)
include absorbs

theorem prepare_follows {before : Gateway α}
    (readies : forall gateway sql, database.Beside before gateway ->
      course gateway ((database.prepareOnServer sql).after gateway)) (template : String) :
    course before ((database.prepare template).after before) := by
  change Follows id course (database.prepare template) before
  refine follows_of_bind absorbs (entryOf_beside before) fun entry _ => ?_
  have compiles : database.Beside before
      ((Gateway.compile template entry.params.dialect none).after before) :=
    compileTemplate_beside _ _ _ before
  refine follows_of_bind absorbs compiles fun query _ => ?_
  split
  · refine follows_of_bind absorbs (Operation.Respects.ofExcept _ _) fun adapter _ => ?_
    rw [Operation.after_ofExcept]
    split
    · exact follows_bind absorbs (readies _ _ compiles) fun _ => .pure _
    · have checks : (checkGrammar template entry.params.dialect :
          Operation (Gateway α) Unit).Respects database.Beside :=
        .bind (compileTemplate_beside _ _ _) fun _ => validate_beside _ _
      exact follows_bind absorbs (absorbs.of_beside (checks _)) fun _ => .pure _
  · exact absorbs.of_beside (refl_of database.Beside _)

/-- A service does what running a query, asking the server, an action or a disconnection does,
and all the rest beside the connection. -/
theorem perform_follows {runner : HookRunner α σ} {session : Session α σ}
    (executes : forall later prepared values, database.SessionBeside session later ->
      Follows Session.gateway course (database.execute runner prepared values) later)
    (readies : forall gateway sql, database.Beside session.gateway gateway ->
      course gateway ((database.prepareOnServer sql).after gateway))
    (acts : forall action : Action,
      course session.gateway ((action.perform database).after session.gateway))
    (service : Service) (closes : service = .disconnect ->
      course session.gateway (database.disconnect.after session.gateway)) :
    Follows Session.gateway course (service.perform runner database) session := by
  cases service with
  | query template values =>
      have compiles : (library (database.compile template) :
          Operation (Session α σ) ParsedQuery).Respects database.SessionBeside :=
        library_beside (.bind entryOf_beside fun _ => compileTemplate_beside _ _ _)
      exact follows_bind absorbs
        (follows_of_bind absorbs (compiles session) fun prepared _ =>
          executes _ prepared values (compiles session))
        fun _ => .pure _
  | execute prepared values =>
      exact follows_bind absorbs
        (executes session prepared values (refl_of database.SessionBeside session))
        fun _ => .pure _
  | prepare template =>
      exact follows_bind absorbs (follows_library (prepare_follows absorbs readies template))
        fun _ => .pure _
  | act action => exact follows_library (acts action)
  | disconnect => exact follows_library (closes rfl)

end Parts

/-! ### Services of a connected database -/

section Connected

variable {before after : Gateway α} {session : Session α σ}

theorem Beside.holds (beside : database.Beside before after)
    (holds : before.Holds database.entry handle) : after.Holds database.entry handle := by
  rcases holds with ⟨row, held⟩
  exact (beside.apart _ held).1

/-- A connected database gives the handle that it holds. -/
theorem handle_of_holds (holds : before.Holds database.entry handle) :
    exists row, database.handle before = .ok { handle with lastRowId := row } before := by
  rcases holds with ⟨row, held⟩
  exact ⟨row, Gateway.connect_of_connected held⟩

theorem prepareOnServer_once (holds : before.Holds database.entry handle) (sql : String) :
    database.Once handle before ((database.prepareOnServer sql).after before) := by
  rcases handle_of_holds holds with ⟨row, gives⟩
  have reached : (database.prepareOnServer sql).after before =
      (Gateway.onDriver (handle.adapter.prepareNatively handle.connection sql) :
        Operation (Gateway α) Unit).after before := by
    unfold prepareOnServer
    rw [Operation.after_bind, Operation.outcome_of_ok gives, Operation.after_of_ok gives]
    exact Operation.after_mapFault _ _ before
  rw [reached]
  exact .of_deals (.readies sql before)

variable {runner : HookRunner α σ}
  (hooks : forall name phase callback sql,
    (runner name phase callback sql).Respects database.SessionBeside)
include hooks

theorem execute_once (holds : session.gateway.Holds database.entry handle)
    (prepared : ParsedQuery) (values : List Value) :
    Follows Session.gateway (database.Once handle) (database.execute runner prepared values)
      session := by
  rcases handle_of_holds holds with ⟨row, gives⟩
  have absorbs := once_absorbs (α := α) database handle
  have beside : database.SessionBeside session
      ((library database.handle : Operation (Session α σ) Handle).after session) := by
    unfold SessionBeside BesideIn
    rw [Session.gateway_library, Operation.after_of_ok gives]
    exact refl_of database.Beside session.gateway
  refine follows_of_bind absorbs beside fun given found => ?_
  rw [Session.outcome_library, Operation.outcome_of_ok gives] at found
  cases found
  exact follows_of_bind absorbs (Operation.Respects.ofExcept _ _) fun parameters _ =>
    follows_of_bind absorbs (library_beside entryOf_beside _) fun entry _ =>
    follows_of_bind absorbs (runHooks_beside hooks _ _ _ _) fun _ _ =>
    follows_of_bind absorbs (library_beside (write_beside _ _ _ _) _) fun _ _ =>
    follows_bind absorbs (follows_library (.of_deals (.states _ _ _))) fun cursor =>
    .bind (runHooks_beside hooks _ _ _) fun _ => .pure _

/-- A service of a connected database that does not disconnect it deals at most once with its
connection. -/
theorem perform_once (holds : session.gateway.Holds database.entry handle) {service : Service}
    (stays : service ≠ .disconnect) :
    database.Once handle session.gateway
      ((service.perform runner database).after session).gateway := by
  refine perform_follows (once_absorbs database handle) ?_ ?_ ?_ service (absurd · stays)
  · intro later prepared values beside
    exact execute_once hooks (Beside.holds beside holds) prepared values
  · intro gateway sql beside
    exact prepareOnServer_once (beside.holds holds) sql
  · exact fun action => .of_deals (.acts action session.gateway)

end Connected

end Database

/-! ### Services of an unconnected database -/

namespace Gateway

variable {α : Type}

/-- Ask the driver for a connection and give it to an entry. -/
def openWith (id : Nat) (params : ConnectionParams) (adapter : Adapter)
    (options : List (String × Value)) : Operation (Gateway α) Handle := do
  let connection ← .mapFault (driverFault "Failed connecting to database")
    (onDriver (adapter.openConnection params options))
  let handle ← attach id connection adapter
  announceConnected params handle
  return handle

/-- Opening an entry fails before the driver is asked, or it is left to the driver. -/
theorem openEntry_cases (id : Nat) (params : ConnectionParams) (gateway : Gateway α) :
    (exists fault, openEntry id params gateway = .error fault gateway) ∨
    exists adapter options, Adapter.ofDialect params.dialect = .ok adapter ∧
      openEntry id params gateway = openWith id params adapter options gateway := by
  unfold openEntry
  cases known : Adapter.ofDialect params.dialect with
  | error fault => exact Or.inl ⟨fault, rfl⟩
  | ok adapter =>
      cases resolved : adapter.resolveOptions params with
      | error fault =>
          refine Or.inl ⟨fault, ?_⟩
          change (.ofExcept (adapter.resolveOptions params) >>= _ :
            Operation (Gateway α) Handle) gateway = _
          rw [resolved]
          rfl
      | ok options =>
          have reached : (do
              let adapter ← (.ofExcept (.ok adapter) : Operation (Gateway α) Adapter)
              let options ← .ofExcept (adapter.resolveOptions params)
              .ofExcept (Adapter.importDriver (← get).driver.missing adapter.driverModule
                adapter.installPackage?)
              openWith id params adapter options) gateway =
            (.ofExcept (Adapter.importDriver gateway.driver.missing adapter.driverModule
                adapter.installPackage?) >>= fun _ => openWith id params adapter options :
              Operation (Gateway α) Handle) gateway := by
            change (.ofExcept (adapter.resolveOptions params) >>= _ :
              Operation (Gateway α) Handle) gateway = _
            rw [resolved]
            rfl
          cases imports : Adapter.importDriver gateway.driver.missing adapter.driverModule
              adapter.installPackage? with
          | error fault =>
              rw [imports] at reached
              exact Or.inl ⟨fault, reached⟩
          | ok _ =>
              rw [imports] at reached
              exact Or.inr ⟨adapter, options, rfl, reached⟩

theorem openWith_eq (id : Nat) (params : ConnectionParams) (adapter : Adapter)
    (options : List (String × Value)) (gateway : Gateway α) :
    match adapter.openConnection params options gateway.driver with
    | .error _ left => exists shown,
        openWith id params adapter options gateway = .error shown { gateway with driver := left }
    | .ok connection left => exists handle opened,
        openWith id params adapter options gateway = .ok handle opened ∧
          handle.connection = connection ∧ handle.adapter = adapter ∧ opened.driver = left := by
  have asked : (.mapFault (driverFault "Failed connecting to database")
      (onDriver (adapter.openConnection params options)) : Operation (Gateway α) _) gateway =
        match adapter.openConnection params options gateway.driver with
        | .ok connection left => .ok connection { gateway with driver := left }
        | .error fault left =>
          .error (driverFault "Failed connecting to database" fault)
            { gateway with driver := left } := by
    unfold onDriver Operation.mapFault Operation.within
    cases adapter.openConnection params options gateway.driver <;> rfl
  cases answered : adapter.openConnection params options gateway.driver with
  | error fault left =>
      rw [answered] at asked
      exact ⟨_, Operation.bind_of_error asked _⟩
  | ok connection left =>
      rw [answered] at asked
      have attaches : openWith id params adapter options gateway = (do
          let handle ← attach id connection adapter
          announceConnected params handle
          return handle) { gateway with driver := left } :=
        Operation.bind_of_ok asked _
      rw [attaches]
      unfold announceConnected
      cases params.database.display <;> exact ⟨_, _, rfl, rfl, rfl, rfl⟩

end Gateway

namespace Database

variable {α σ : Type} {database : Database} {handle : Handle}

open Session (library)

/-- A database got a handle on a connection that was opened for it. -/
structure Connects (database : Database) (handle : Handle) (before after : Gateway α) :
    Prop where
  opened : Gateway.Opened database.entry handle before after
  adapter : Adapter.ofDialect (before.entry database.entry).params.dialect = .ok handle.adapter
  driver : exists options, handle.adapter.openConnection (before.entry database.entry).params
    options before.driver = .ok handle.connection after.driver

section Unconnected

variable {before : Gateway α} (unconnected : (before.entry database.entry).handle = none)
include unconnected

theorem handle_cases :
    (exists fault left, database.handle before = .error fault left ∧
      database.Beside before left) ∨
    exists handle left, database.handle before = .ok handle left ∧
      database.Connects handle before left := by
  have reached : database.handle before =
      Gateway.openEntry database.entry (before.entry database.entry).params before :=
    Gateway.connect_of_unconnected unconnected
  rw [reached]
  rcases Gateway.openEntry_cases database.entry (before.entry database.entry).params before with
    ⟨fault, fails⟩ | ⟨adapter, options, known, asks⟩
  · exact Or.inl ⟨fault, before, fails, refl_of database.Beside before⟩
  · have opens := Gateway.openEntry_opens database.entry (before.entry database.entry).params before
    have asked := Gateway.openWith_eq database.entry (before.entry database.entry).params adapter
      options before
    rw [asks] at opens ⊢
    cases answered : adapter.openConnection (before.entry database.entry).params options
        before.driver with
    | error fault left =>
        rw [answered] at asked
        rcases asked with ⟨shown, fails⟩
        have onward := adapter.openConnection_onward (before.entry database.entry).params options
          before.driver
        have numbered : before.driver.Numbered -> left.Numbered := by
          intro numbered
          have kept := adapter.openConnection_numbered (before.entry database.entry).params
            options numbered
          rw [Operation.after_of_error answered] at kept
          exact kept
        rw [Operation.after_of_error answered] at onward
        exact Or.inl ⟨shown, _, fails,
          beside_of_unconnected unconnected ⟨rfl, rfl, rfl⟩ onward numbered⟩
    | ok connection left =>
        rw [answered] at asked
        rcases asked with ⟨handle, opened, gives, rfl, rfl, rfl⟩
        rcases opens with ⟨fault, _, fails, -⟩ | ⟨found, _, finds, opens⟩
        · cases gives.symm.trans fails
        · cases gives.symm.trans finds
          exact Or.inr ⟨handle, opened, gives, opens, known, options, answered⟩

end Unconnected

section Opened

variable {before after : Gateway α} (connects : database.Connects handle before after)
include connects

theorem Connects.held : (after.entry database.entry).handle = some handle := by
  rw [connects.opened.entry, if_pos rfl]

theorem Connects.holds : after.Holds database.entry handle :=
  ⟨handle.lastRowId, connects.held⟩

end Opened

/-- All is beside the connection that a database has not, or it is connected and then dealt with
at most once. -/
def OpensFirst (database : Database) (before after : Gateway α) : Prop :=
  database.Beside before after ∨
  exists middle handle opened, database.Beside before middle ∧
    database.Connects handle middle opened ∧ database.Once handle opened after

theorem opensFirst_absorbs (database : Database) :
    database.Absorbs (database.OpensFirst : Gateway α → Gateway α → Prop) where
  of_beside beside := Or.inl beside
  after_beside beside rest := by
    rcases rest with rest | ⟨asked, handle, opened, first, connects, once⟩
    · exact Or.inl (trans_of database.Beside beside rest)
    · exact Or.inr ⟨asked, handle, opened, trans_of database.Beside beside first, connects, once⟩
  beside_after first beside := by
    rcases first with rest | ⟨asked, handle, opened, first, connects, once⟩
    · exact Or.inl (trans_of database.Beside rest beside)
    · exact Or.inr ⟨asked, handle, opened, first, connects,
        (once_absorbs database handle).beside_after once beside⟩

/-- What asks for the handle first fails with it, or goes on as if the database had been connected
before. -/
theorem opensFirst_of_handle {τ β : Type} (view : τ → Gateway α) (replace : τ → Gateway α → τ)
    (seen : forall state gateway, view (replace state gateway) = gateway)
    {asks : Operation τ Handle}
    (asked : forall state, asks state = match database.handle (view state) with
      | .ok handle left => .ok handle (replace state left)
      | .error fault left => .error fault (replace state left))
    (next : Handle → Operation τ β) {state : τ}
    (replaced : forall first second, replace (replace state first) second = replace state second)
    (unconnected : ((view state).entry database.entry).handle = none)
    (once : forall handle opened, database.Connects handle (view state) opened ->
      Follows view (database.Once handle) (asks >>= next) (replace state opened)) :
    Follows view database.OpensFirst (asks >>= next) state := by
  have given := asked state
  unfold Follows
  rcases handle_cases unconnected with
    ⟨fault, left, fails, beside⟩ | ⟨handle, left, gives, connects⟩
  · rw [fails] at given
    rw [Operation.after_of_error (Operation.bind_of_error given next), seen]
    exact Or.inl beside
  · rw [gives] at given
    have again := asked (replace state left)
    have stillGives : database.handle left = .ok handle left :=
      Gateway.connect_of_connected connects.held
    simp only [seen, stillGives, replaced] at again
    have same : (asks >>= next) state = (asks >>= next) (replace state left) := by
      rw [Operation.bind_of_ok given, Operation.bind_of_ok again]
    have dealt := once handle left connects
    unfold Follows at dealt
    rw [Operation.after] at dealt ⊢
    rw [same]
    rw [seen] at dealt
    exact Or.inr ⟨view state, handle, left, refl_of database.Beside _, connects, dealt⟩

section Unconnected

variable {before : Gateway α} {session : Session α σ}

theorem handle_asked (gateway : Gateway α) : database.handle gateway =
    match database.handle gateway with
    | .ok handle left => .ok handle left
    | .error fault left => .error fault left := by
  cases database.handle gateway <;> rfl

theorem handle_opensFirst (unconnected : (before.entry database.entry).handle = none)
    {next : Handle → Operation (Gateway α) Unit}
    (once : forall handle opened, database.Connects handle before opened ->
      database.Once handle opened ((database.handle >>= next).after opened)) :
    database.OpensFirst before ((database.handle >>= next).after before) :=
  opensFirst_of_handle id (fun _ gateway => gateway) (fun _ _ => rfl)
    handle_asked next (fun _ _ => rfl) unconnected once

theorem act_opensFirst (unconnected : (before.entry database.entry).handle = none)
    (action : Action) : database.OpensFirst before ((action.perform database).after before) := by
  have planned (gateway : Gateway α) : (action.perform database).after gateway =
      (database.move (action.plan (gateway.entry database.entry).nestable)).after gateway :=
    Operation.after_congr (action.perform_eq database gateway)
  rw [planned]
  refine handle_opensFirst unconnected fun handle opened connects => ?_
  have nestable : (opened.entry database.entry).nestable =
      (before.entry database.entry).nestable := by
    rw [connects.opened.entry, if_pos rfl]
  have acts := planned opened
  rw [nestable] at acts
  change database.Once handle opened ((database.move _).after opened)
  rw [← acts]
  exact .of_deals (.acts action opened)

variable {runner : HookRunner α σ}
  (hooks : forall name phase callback sql,
    (runner name phase callback sql).Respects database.SessionBeside)
include hooks

/-- A service of an unconnected database connects it first, or does nothing with a connection. -/
theorem perform_opensFirst (unconnected : (session.gateway.entry database.entry).handle = none)
    (service : Service) :
    database.OpensFirst session.gateway
      ((service.perform runner database).after session).gateway := by
  have stays {gateway : Gateway α} (beside : database.Beside session.gateway gateway) :
      (gateway.entry database.entry).handle = none :=
    beside.unconnected unconnected
  refine perform_follows (opensFirst_absorbs database) ?_ ?_ ?_ service fun _ => ?_
  · intro later prepared values beside
    refine opensFirst_of_handle Session.gateway
      (fun session gateway => { session with gateway := gateway }) (fun _ _ => rfl) ?_ _
      (fun _ _ => rfl) (stays beside) ?_
    · intro state
      unfold library Operation.within
      cases database.handle state.gateway <;> rfl
    · exact fun handle opened connects =>
        execute_once hooks (Connects.holds connects) prepared values
  · intro gateway sql beside
    exact handle_opensFirst (stays beside) fun handle opened connects =>
      prepareOnServer_once connects.holds sql
  · exact act_opensFirst unconnected
  · have nothing : database.disconnect session.gateway = .ok () session.gateway := by
      unfold Database.disconnect
      rw [Gateway.disconnect_eq, unconnected]
    rw [Operation.after_of_ok nothing]
    exact Or.inl (refl_of database.Beside _)

end Unconnected

end Database
end SqlGateway
