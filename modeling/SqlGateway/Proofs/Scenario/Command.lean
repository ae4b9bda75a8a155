import SqlGateway.Proofs.Scenario.Redaction

namespace SqlGateway
namespace Scenario

/-!
# Commands of two callers

Two callers remember the same, except that their answers inside a block may tell passwords apart.
Commands that differ in the passwords in them are carried out alike on such states.  The
parameters of a database are the one reply in which a password is seen.
-/

open Session (library driver)

/-! ## States -/

/-- The callbacks do the same but for passwords. -/
def SameActions (first second : Callback) : Prop :=
  redactedActions first = redactedActions second

def Client.SameButPasswords (first second : Client) : Prop :=
  exists steps, second = { first with steps := steps } ∧
    redactedInside first.steps = redactedInside steps

abbrev State.SameButPasswords : State → State → Prop :=
  Session.SameButPasswords SameActions Client.SameButPasswords

/-- The runner of hooks cannot tell passwords apart. -/
abbrev Runner.IsDiscreet (runner : Runner) : Prop :=
  HookRunner.IsDiscreet SameActions Client.SameButPasswords runner

/-- The part of a scenario does the same whichever the passwords are. -/
abbrev Discreet {β : Type} (part : Play β) : Prop := part.Alike State.SameButPasswords part

def Reply.Same (first second : Reply) : Prop := first.redacted = second.redacted

/-- The parts of a scenario come to one failure, or to replies that are the same but for
passwords. -/
abbrev Replies (part other : Play Reply) : Prop :=
  part.Matched State.SameButPasswords Reply.Same other

variable {β : Type}

theorem Replies.of_alike {part other : Play Reply}
    (alike : part.Alike State.SameButPasswords other) : Replies part other := by
  intro first second same
  rcases alike first second same with ⟨sameOutcome, stillSame⟩
  rw [sameOutcome]
  generalize other.outcome second = outcome
  cases outcome with
  | ok reply => exact ⟨.ok rfl, stillSame⟩
  | error fault => exact ⟨.error fault, stillSame⟩

/-! ## The memory of the caller -/

/-- A change of anything but the answers inside a block is made alike. -/
theorem remember_discreet {change : Client → Client}
    (apart : forall client steps,
      change { client with steps := steps } = { change client with steps := steps }) :
    Discreet (remember change) := by
  refine Session.onCaller_discreet (.modify fun first second same => ?_)
  rcases same with ⟨steps, rfl, sameSteps⟩
  have kept : (change first).steps = first.steps := by
    have changed : change first = { change first with steps := first.steps } :=
      apart first first.steps
    rw [changed]
  exact ⟨steps, apart first steps, kept ▸ sameSteps⟩

theorem named_discreet {table : Client → Dictionary String β}
    (apart : forall client steps, table { client with steps := steps } = table client)
    (name : String) : Discreet (named table name) := by
  refine .getBind fun first second same => ?_
  rcases same.caller with ⟨steps, sameCaller, -⟩
  rw [sameCaller, apart first.caller steps]
  cases (table first.caller).get? name with
  | some found => exact .pure found
  | none => exact .throw _

theorem databaseOf_discreet (name : String) : Discreet (databaseOf name) :=
  named_discreet (fun _ _ => rfl) name

theorem keepDatabase_discreet (name : String) (database : Database) :
    Discreet (keepDatabase name database) :=
  remember_discreet fun _ _ => rfl

theorem keepResult_discreet (name : String) (result : QueryResult) :
    Discreet (keepResult name result) :=
  remember_discreet fun _ _ => rfl

theorem giveResult_discreet (name : String) (result : QueryResult) :
    Discreet (giveResult name result) :=
  .bind (keepResult_discreet name result) fun _ => .pure _

/-! ## Results -/

theorem resultAt_discreet (number : Nat) : Discreet (resultAt number) := by
  refine .getBind fun first second same => ?_
  rcases same.caller with ⟨steps, sameCaller, -⟩
  rw [sameCaller]
  cases first.caller.results.get? number with
  | some result => exact .pure result
  | none => exact .throw _

theorem setResult_discreet (number : Nat) (result : QueryResult) :
    Discreet (setResult number result) :=
  remember_discreet fun _ _ => rfl

theorem resultNumber_discreet (name : String) : Discreet (named Client.resultNumbers name) :=
  named_discreet (fun _ _ => rfl) name

theorem resultNamed_discreet (name : String) : Discreet (resultNamed name) :=
  .bind (resultNumber_discreet name) fun number => resultAt_discreet number

theorem fetching_discreet (name : String) (fetch : QueryResult → Except Fault β × QueryResult) :
    Discreet (fetching name fetch) := by
  refine .bind (resultNumber_discreet name) fun number => ?_
  refine .bind (resultAt_discreet number) fun _ => ?_
  refine .bind (setResult_discreet number _) fun _ => ?_
  exact .ofExcept _

theorem freeResult_discreet (number : Nat) : Discreet (freeResult number) :=
  .bind (resultAt_discreet number) fun result => .bind (setResult_discreet number _) fun _ =>
    Session.driver_discreet result.free_alike

theorem iterate_discreet (name : String) (limit : Option Nat) : Discreet (iterate name limit) := by
  refine .bind (resultNumber_discreet name) fun number =>
    .bind (resultAt_discreet number) fun result => ?_
  rcases readRows limit result with ⟨rows, fault, left⟩
  refine .bind (setResult_discreet number left) fun _ =>
    .bind (remember_discreet fun _ _ => rfl) fun _ => ?_
  cases fault with
  | some fault => exact .throw fault
  | none => exact .pure _

/-! ## Databases and entries -/

theorem displayed_discreet (database : Database) :
    Discreet (do return text (← .ofExcept (Database.display (← library database.entryOf)))) := by
  refine (Session.library_matched (Database.entryOf_matched database)).bindAlike
    fun entry other same => ?_
  rw [Database.display_same same]
  exact .bind (.ofExcept _) fun _ => .pure _

theorem givenParams_matched {source other : Option ParamsSource}
    (same : source.map ParamsSource.redacted = other.map ParamsSource.redacted) :
    Operation.Matched State.SameButPasswords (Option.Rel ConnectionParams.SameButPassword)
      (source.mapM fun source => (.ofExcept source.params : Play ConnectionParams))
      (other.mapM fun source => (.ofExcept source.params : Play ConnectionParams)) := by
  cases source with
  | none =>
      cases other with
      | none => exact .pure .none
      | some _ => cases same
  | some source =>
      cases other with
      | none => cases same
      | some other =>
          have sameParams := ParamsSource.params_same (Option.some.inj same)
          exact (Operation.Matched.ofExcept sameParams).bind fun _ _ same => .pure (.some same)

theorem makeDatabase_discreet (name : String) {arguments others : List (String × Value)}
    (sameArguments : arguments.map Database.Request.redactedArgument =
      others.map Database.Request.redactedArgument)
    {params otherParams : Option ParamsSource}
    (sameParams : params.map ParamsSource.redacted = otherParams.map ParamsSource.redacted)
    (registry tracker : Scope) :
    (makeDatabase name arguments params registry tracker).Alike State.SameButPasswords
      (makeDatabase name others otherParams registry tracker) := by
  have requests := Database.Request.ofArguments_same sameArguments
  refine (givenParams_matched sameParams).bindAlike fun whole otherWhole sameWhole =>
    (Operation.Matched.ofExcept requests).bindAlike fun request other same => ?_
  have finishes (database : Database) : Discreet (do
      keepDatabase name database
      return text (← .ofExcept (Database.display (← library database.entryOf)))) :=
    .bind (keepDatabase_discreet name database) fun _ => displayed_discreet database
  cases sameWhole with
  | none =>
      exact .bind (Session.library_discreet (Database.ofRequest_discreet same registry tracker))
        finishes
  | some sameWhole =>
      have sameRequest : Database.Request.SameButPassword
          { request with params := some (.checked _) }
          { other with params := some (.checked _) } :=
        ⟨.some (.checked sameWhole), same.fields, same.useCache⟩
      exact .bind
        (Session.library_discreet (Database.ofRequest_discreet sameRequest registry tracker))
        finishes

theorem takeNonNestable_discreet (name : String) : Discreet (takeNonNestable name) := by
  refine .bind (Session.library_discreet Database.nonNestable_discreet) fun database =>
    .getBind fun first second same => ?_
  rcases same.caller with ⟨steps, sameCaller, -⟩
  rw [sameCaller]
  refine .bind (keepDatabase_discreet name database) fun _ =>
    (Session.library_matched (Database.entryOf_matched database)).bindAlike
      fun entry other same => ?_
  rw [Database.display_same same, same.nestable]
  exact .bind (.ofExcept _) fun _ => .pure _

theorem showDatabase_replies (name : String) : Replies (showDatabase name) (showDatabase name) := by
  refine .afterAlike (databaseOf_discreet name) fun database =>
    (Session.library_matched (Database.entryOf_matched database)).bind fun entry other same => ?_
  rw [Database.display_same same, same.nestable]
  refine .afterAlike (.ofExcept _) fun display => .pure ?_
  rcases same.params with ⟨password, sameParams, -⟩
  unfold Reply.Same
  rw [sameParams]
  rfl

theorem makeEntry_discreet (name : String) {params others : ParamsSource}
    (same : params.redacted = others.redacted) (nestable : Bool) :
    (makeEntry name params nestable).Alike State.SameButPasswords
      (makeEntry name others nestable) :=
  (Operation.Matched.ofExcept (ParamsSource.params_same same)).bindAlike fun _ _ same =>
    .bind (Session.library_discreet (Gateway.addEntry_discreet (Database.ofParams_same same _)))
      fun _ => .bind (remember_discreet fun _ _ => rfl) fun _ => .pure _

theorem entryName_discreet (id : Nat) : Discreet (entryName id) := by
  refine .getBind fun first second same => ?_
  rcases same.caller with ⟨steps, sameCaller, -⟩
  rw [sameCaller]
  dsimp only
  split
  · exact .pure _
  · exact .pure _

theorem registryGetOrMake_discreet (registry : Scope) (key name : String)
    {params others : ParamsSource} (same : params.redacted = others.redacted) (nestable : Bool) :
    (registryGetOrMake registry key name params nestable).Alike State.SameButPasswords
      (registryGetOrMake registry key name others nestable) := by
  refine .bind (Session.library_discreet (Gateway.registered?_discreet _ _)) fun found => ?_
  cases found with
  | some id => exact entryName_discreet id
  | none =>
      refine .bind (Session.driver_discreet (Native.note_alike _)) fun _ => ?_
      refine .bind (makeEntry_discreet name same nestable) fun id => ?_
      refine .bind (Session.library_discreet (Gateway.register_discreet _ _ _)) fun _ => ?_
      exact entryName_discreet id

theorem registryGet_discreet (registry : Scope) (key : String) :
    Discreet (registryGet registry key) := by
  refine .bind (Session.library_discreet (Gateway.registered?_discreet _ _)) fun found => ?_
  cases found with
  | some id => exact entryName_discreet id
  | none => exact .pure _

theorem display_entry_same {entry other : Entry Callback}
    (same : entry.SameButPassword SameActions other) : other.display = entry.display := by
  unfold Entry.display
  rw [Database.dialect_same same, same.handle, same.nestable]

theorem displayedEntry_discreet (id : Nat) :
    Discreet (do return text (← library (Gateway.entryAt id)).display) := by
  refine (Session.library_matched (Gateway.entryAt_matched id)).bindAlike
    fun entry other same => ?_
  rw [display_entry_same same]
  exact .pure _

theorem showEntry_discreet (name : String) : Discreet (showEntry name) := by
  refine .bind (named_discreet (fun _ _ => rfl) name) fun id =>
    (Session.library_matched (Gateway.entryAt_matched id)).bindAlike fun entry other same => ?_
  unfold Entry.adapter
  rw [display_entry_same same, Database.dialect_same same, same.handle]
  exact .bind (.ofExcept _) fun _ => .pure _

/-- What the library remembers may be shown, unless it is the driver or an entry. -/
theorem shown_discreet (shown : Gateway Callback → Reply)
    (apart : forall gateway driver entries,
      shown { gateway with driver := driver, entries := entries } = shown gateway) :
    Discreet (do return shown (← get).gateway) := by
  refine .getBind fun first second same => ?_
  rcases same.gateway with ⟨driver, entries, sameGateway, -⟩
  rw [sameGateway, apart first.gateway driver entries]
  exact .pure _

theorem showRegistry_discreet (registry : Scope) (keys : List String) :
    Discreet (showRegistry registry keys) :=
  shown_discreet (fun gateway =>
    .registry (gateway.registry registry).size (keys.map (gateway.registry registry).has))
    fun _ _ _ => rfl

theorem entryOf_discreet (name : String) : Discreet (entryOf name) :=
  named_discreet (fun _ _ => rfl) name

/-! ## Replies -/

section Replying

variable {part : Play β} (reply : β → Reply)

/-- A reply tells what a part came to. -/
theorem replying_discreet (discreet : Discreet part) :
    Discreet (part >>= fun found => pure (reply found)) :=
  .bind discreet fun _ => .pure _

/-- A reply tells what was done with a database. -/
theorem withDatabase_discreet (name : String) {work : Database → Play β}
    (discreet : forall database, Discreet (work database)) :
    Discreet (databaseOf name >>= fun database =>
      work database >>= fun found => pure (reply found)) :=
  .bind (databaseOf_discreet name) fun database => replying_discreet reply (discreet database)

/-- A reply tells what the library did with a database. -/
theorem askingDatabase_discreet (name : String)
    {operation : Database → Operation (Gateway Callback) β}
    (discreet : forall database, Gateway.Discreet SameActions (operation database)) :
    Discreet (databaseOf name >>= fun database =>
      library (operation database) >>= fun found => pure (reply found)) :=
  withDatabase_discreet reply name fun database => Session.library_discreet (discreet database)

/-- A reply tells what the library did with an entry. -/
theorem askingEntry_discreet (entry : String) {operation : Nat → Operation (Gateway Callback) β}
    (discreet : forall id, Gateway.Discreet SameActions (operation id)) :
    Discreet (entryOf entry >>= fun id =>
      library (operation id) >>= fun found => pure (reply found)) :=
  .bind (entryOf_discreet entry) fun id =>
    replying_discreet reply (Session.library_discreet (discreet id))

end Replying

theorem performOn_discreet (name : String)
    {operation : Database → Operation (Gateway Callback) Unit}
    (discreet : forall database, Gateway.Discreet SameActions (operation database)) :
    Discreet (performOn name operation) :=
  askingDatabase_discreet (fun _ => .nothing) name discreet

/-! ## Statements without a database -/

theorem validate_discreet (source : DialectSource) (sql : String) :
    Discreet (validate source sql) :=
  .bind (.ofExcept _) fun _ => .bind (.ofExcept _) fun _ =>
    Session.driver_discreet (Adapter.validate_alike _ _)

theorem prepareNatively_discreet (source : DialectSource) (sql : String) :
    Discreet (prepareNatively source sql) :=
  .bind (.ofExcept _) fun adapter =>
    Session.driver_discreet (Adapter.prepareNatively_alike adapter _ _)

/-! ## Commands -/

/-- The commands are one command, or make one thing with parameters that are the same but for the
password. -/
inductive Command.SameButPassword : Command → Command → Prop
  | refl (command : Command) : SameButPassword command command
  | makeDatabase {arguments others : List (String × Value)}
      {params otherParams : Option ParamsSource}
      (sameArguments : arguments.map Database.Request.redactedArgument =
        others.map Database.Request.redactedArgument)
      (sameParams : params.map ParamsSource.redacted = otherParams.map ParamsSource.redacted)
      (registry tracker : Scope) :
      SameButPassword (.makeDatabase arguments params registry tracker)
        (.makeDatabase others otherParams registry tracker)
  | makeEntry (entry : String) {params others : ParamsSource}
      (same : params.redacted = others.redacted) (nestable : Bool) :
      SameButPassword (.makeEntry entry params nestable) (.makeEntry entry others nestable)
  | registryGetOrMake (registry : Scope) (key entry : String) {params others : ParamsSource}
      (same : params.redacted = others.redacted) (nestable : Bool) :
      SameButPassword (.registryGetOrMake registry key entry params nestable)
        (.registryGetOrMake registry key entry others nestable)

theorem Command.same_of_redacted {command other : Command}
    (same : command.redacted = other.redacted) : command.SameButPassword other := by
  unfold Command.redacted at same
  -- Commands of different forms are not the same, even with their passwords redacted.
  split at same
  · split at same
    · rcases Command.makeDatabase.inj same with ⟨sameArguments, sameParams, rfl, rfl⟩
      exact .makeDatabase sameArguments sameParams _ _
    · cases same
    · cases same
    · rename_i noDatabase _ _
      exact absurd same.symm (noDatabase _ _ _ _)
  · split at same
    · cases same
    · rcases Command.makeEntry.inj same with ⟨rfl, sameParams, rfl⟩
      exact .makeEntry _ sameParams _
    · cases same
    · rename_i _ noEntry _
      exact absurd same.symm (noEntry _ _ _)
  · split at same
    · cases same
    · cases same
    · rcases Command.registryGetOrMake.inj same with ⟨rfl, rfl, rfl, sameParams, rfl⟩
      exact .registryGetOrMake _ _ _ sameParams _
    · rename_i _ _ noSharedEntry
      exact absurd same.symm (noSharedEntry _ _ _ _ _)
  · rename_i noDatabase noEntry noSharedEntry
    split at same
    · exact absurd same (noDatabase _ _ _ _)
    · exact absurd same (noEntry _ _ _)
    · exact absurd same (noSharedEntry _ _ _ _ _)
    · rw [same]
      exact .refl _

theorem unregisterHook_discreet (name : String) (hook : Option String) (runner : Runner) :
    Discreet (perform runner name (.unregisterHook hook)) := by
  refine .bind (databaseOf_discreet name) fun database => ?_
  have finishes (id : Option Nat) : Discreet (do
      library (database.unregisterHook id)
      return Reply.nothing) :=
    replying_discreet (fun _ => .nothing)
      (Session.library_discreet (Database.unregisterHook_discreet database id))
  cases hook with
  | some hook => exact .bind (named_discreet (fun _ _ => rfl) hook) fun _ => finishes _
  | none => exact finishes _

section Perform

variable {runner : Runner} (discreet : runner.IsDiscreet) (name : String)
include discreet

/-- A command that shows no parameters gives one reply whichever the passwords are. -/
theorem perform_discreet {command : Command} (shows : command ≠ .showDatabase) :
    Discreet (perform runner name command) := by
  cases command with
  | setConfig source =>
      exact replying_discreet _ (Session.library_discreet (Gateway.setConfig_discreet _))
  | setEnvironment pairs =>
      exact replying_discreet _ (Session.library_discreet (Gateway.setEnvironment_discreet _))
  | showConfig =>
      exact shown_discreet (fun gateway => text gateway.currentConfig.display) fun _ _ _ => rfl
  | makeDatabase arguments params registry tracker =>
      exact makeDatabase_discreet name rfl rfl registry tracker
  | takeNonNestable => exact takeNonNestable_discreet name
  | showDatabase => exact absurd rfl shows
  | connect => exact askingDatabase_discreet _ name fun _ => Gateway.connect_discreet _
  | disconnect => exact performOn_discreet name fun _ => Gateway.disconnect_discreet _ _
  | query template values result =>
      exact .bind (databaseOf_discreet name) fun database =>
        .bind (Database.query_discreet discreet database _ _) fun _ => giveResult_discreet _ _
  | prepare template kept =>
      refine .bind (databaseOf_discreet name) fun database => ?_
      refine .bind (Session.library_discreet (Database.prepare_discreet database _)) fun _ => ?_
      refine .bind (remember_discreet fun _ _ => rfl) fun _ => ?_
      exact .pure _
  | execute statement values result =>
      exact .bind (named_discreet (fun _ _ => rfl) statement) fun statement =>
        .bind (Database.execute_discreet discreet _ _ _) fun _ => giveResult_discreet _ _
  | validate dialect sql => exact replying_discreet _ (validate_discreet dialect sql)
  | prepareNatively dialect sql => exact replying_discreet _ (prepareNatively_discreet dialect sql)
  | begin => exact performOn_discreet name Database.begin_discreet
  | commit => exact performOn_discreet name fun _ => Database.move_discreet _ _
  | rollback => exact performOn_discreet name fun _ => Database.move_discreet _ _
  | lastInsertId => exact askingDatabase_discreet _ name Database.lastInsertId_discreet
  | quote value =>
      exact askingDatabase_discreet _ name fun database => Database.quote_discreet database value
  | quoteIdentifier identifier =>
      exact askingDatabase_discreet _ name fun database =>
        Database.quoteIdentifier_discreet database identifier
  | showPlaceholder value => exact .pure _
  | unwrap outcome =>
      exact .bind (named_discreet (fun _ _ => rfl) outcome) fun _ =>
        replying_discreet _ (.ofExcept _)
  | unwrapGiven committed value error => exact replying_discreet _ (.ofExcept _)
  | fetchValue template values =>
      exact withDatabase_discreet _ name fun database =>
        Database.fetchValue_discreet discreet database _ _
  | fetchFirstRow template values mode =>
      exact withDatabase_discreet _ name fun database =>
        Database.fetchFirstRow_discreet discreet database _ _ _
  | fetchAll template values mode column =>
      exact withDatabase_discreet _ name fun database =>
        Database.fetchAll_discreet discreet database _ _ _ _
  | insert table values =>
      exact withDatabase_discreet _ name fun database =>
        Database.insert_discreet discreet database _ _
  | update table values choice =>
      exact withDatabase_discreet _ name fun database =>
        Database.update_discreet discreet database _ _ _
  | insertOrUpdate table values choice =>
      exact withDatabase_discreet _ name fun database =>
        Database.insertOrUpdate_discreet discreet database _ _ _
  | delete table choice reporting =>
      exact withDatabase_discreet _ name fun database =>
        Database.delete_discreet discreet database _ _ _
  | unregisterHook hook => exact unregisterHook_discreet name hook runner
  | makeEntry entry params nestable =>
      exact .bind (makeEntry_discreet entry rfl nestable) displayedEntry_discreet
  | showEntry entry => exact showEntry_discreet entry
  | registryGet registry key => exact registryGet_discreet registry key
  | registryPut registry key entry =>
      exact askingEntry_discreet _ entry fun id => Gateway.register_discreet registry key id
  | registryGetOrMake registry key entry params nestable =>
      exact registryGetOrMake_discreet registry key entry rfl nestable
  | registryConnect registry entry => exact askingEntry_discreet _ entry Gateway.connect_discreet
  | registryDisconnect registry entry tracker =>
      exact askingEntry_discreet _ entry fun id => Gateway.disconnect_discreet id tracker
  | showRegistry registry keys => exact showRegistry_discreet registry keys
  | clearRegistry registry =>
      exact replying_discreet _ (Session.library_discreet (Gateway.clearRegistry_discreet _))
  | clearCaches =>
      exact replying_discreet _ (Session.library_discreet Gateway.clearCaches_discreet)
  | showCacheStats =>
      exact shown_discreet (fun gateway => text gateway.cache.stats.display) fun _ _ _ => rfl
  | fetchRow result mode => exact replying_discreet _ (fetching_discreet result _)
  | fetchRows result mode => exact replying_discreet _ (fetching_discreet result _)
  | iterate result limit => exact replying_discreet _ (iterate_discreet result limit)
  | free result =>
      exact .bind (resultNumber_discreet result) fun number =>
        replying_discreet _ (freeResult_discreet number)
  | showResult result => exact replying_discreet _ (resultNamed_discreet result)

theorem perform_replies {command other : Command} (same : command.SameButPassword other) :
    Replies (perform runner name command) (perform runner name other) := by
  cases same with
  | refl =>
      by_cases shows : command = .showDatabase
      · rw [shows]
        exact showDatabase_replies name
      · exact .of_alike (perform_discreet discreet name shows)
  | makeDatabase sameArguments sameParams registry tracker =>
      exact .of_alike (makeDatabase_discreet name sameArguments sameParams registry tracker)
  | makeEntry entry same nestable =>
      exact .of_alike (.bind (makeEntry_discreet entry same nestable) displayedEntry_discreet)
  | registryGetOrMake registry key entry same nestable =>
      exact .of_alike (registryGetOrMake_discreet registry key entry same nestable)

end Perform

end Scenario
end SqlGateway
