import SqlGateway.Database.Prepared
import SqlGateway.Proofs.Connection.Password
import SqlGateway.Proofs.Native.Record

namespace SqlGateway

/-!
# The library does not tell passwords

A password is kept with the parameters of an entry, and it is given to the driver when the entry
is connected.  Two states of the library are the same but for passwords if they differ in the
passwords of their entries and in the arguments of recorded calls that opened connections, and
in nothing else.  Callbacks of hooks may differ too, as far as a relation allows it.

Whatever the library does from two such states comes to one outcome, and leaves two such states.
-/

namespace Native

/-- The call with nothing left of the arguments that open a connection. -/
def Call.withoutArguments : Call → Call
  | .connect _ _ => .connect [] []
  | call => call

/-- The event without the arguments that open a connection. -/
def Event.withoutArguments (event : Event) : Event :=
  { event with call := event.call.withoutArguments }

end Native

variable {α β : Type}

/-- The hooks are the same, and their callbacks are related. -/
structure Hook.Same (callbacks : α → α → Prop) (first second : Hook α) : Prop where
  id : second.id = first.id
  name : second.name = first.name
  before : Option.Rel callbacks first.before second.before
  after : Option.Rel callbacks first.after second.after

/-- The entries are the same but for the password, and their callbacks are related. -/
structure Entry.SameButPassword (callbacks : α → α → Prop) (first second : Entry α) : Prop where
  params : first.params.SameButPassword second.params
  handle : second.handle = first.handle
  nestable : second.nestable = first.nestable
  hooks : List.Forall₂ (Hook.Same callbacks) first.hooks second.hooks

/-- The tables have the same keys, and under each key entries that are the same but for the
password. -/
structure EntriesSame (callbacks : α → α → Prop) (first second : Dictionary Nat (Entry α)) :
    Prop where
  keys : second.keys = first.keys
  entry : forall id, Entry.SameButPassword callbacks ((first.get? id).getD default)
    ((second.get? id).getD default)

theorem EntriesSame.put {callbacks : α → α → Prop} {first second : Dictionary Nat (Entry α)}
    (same : EntriesSame callbacks first second) (id : Nat) {entry other : Entry α}
    (sameEntry : entry.SameButPassword callbacks other) :
    EntriesSame callbacks (first.put id entry) (second.put id other) where
  keys := by rw [Dictionary.keys_put, Dictionary.keys_put, same.keys]
  entry sought := by
    rw [Dictionary.get?_put, Dictionary.get?_put]
    split
    · exact sameEntry
    · exact same.entry sought

namespace Gateway

open Native (Event)

/-- The states are the same but for passwords: in their entries, and in the recorded arguments that
opened connections. -/
def SameButPasswords (callbacks : α → α → Prop) (first second : Gateway α) : Prop :=
  exists driver entries, second = { first with driver := driver, entries := entries } ∧
    first.driver.SameBut Event.withoutArguments driver ∧
    EntriesSame callbacks first.entries entries

/-- The operation does the same whichever the passwords are. -/
abbrev Discreet (callbacks : α → α → Prop) (operation : Operation (Gateway α) β) : Prop :=
  operation.Alike (SameButPasswords callbacks) operation

variable {callbacks : α → α → Prop}

/-! ## Parts of the state -/

theorem onDriver_discreet {operation other : Operation Native.Driver β}
    (alike : operation.Alike (Native.Driver.SameBut Event.withoutArguments) other) :
    (onDriver operation : Operation (Gateway α) β).Alike (SameButPasswords callbacks)
      (onDriver other) := by
  refine .within alike ?_ ?_
  · rintro first _ ⟨driver, entries, rfl, same, -⟩
    exact same
  · rintro first _ changed otherChanged ⟨driver, entries, rfl, -, sameEntries⟩ same
    exact ⟨otherChanged, entries, rfl, same, sameEntries⟩

/-- What is read from a state may be used alike, unless it is the driver or an entry. -/
theorem getBind_discreet {next otherNext : Gateway α → Operation (Gateway α) β}
    (apart : forall gateway driver entries,
      otherNext { gateway with driver := driver, entries := entries } = otherNext gateway)
    (rest : forall gateway, (next gateway).Alike (SameButPasswords callbacks)
      (otherNext gateway)) :
    (get >>= next).Alike (SameButPasswords callbacks) (get >>= otherNext) := by
  refine .getBind fun first second same => ?_
  rcases same with ⟨driver, entries, rfl, -⟩
  rw [apart first driver entries]
  exact rest first

/-- A change of anything but the driver and the entries is made alike. -/
theorem modify_discreet {change : Gateway α → Gateway α}
    (apart : forall gateway driver entries,
      change { gateway with driver := driver, entries := entries } =
        { change gateway with driver := driver, entries := entries }) :
    Discreet callbacks (modify change) := by
  refine .modify fun first second same => ?_
  rcases same with ⟨driver, entries, rfl, sameDriver, sameEntries⟩
  have kept : change first =
      { change first with driver := first.driver, entries := first.entries } :=
    apart first first.driver first.entries
  have keptDriver : (change first).driver = first.driver := by rw [kept]
  have keptEntries : (change first).entries = first.entries := by rw [kept]
  exact ⟨driver, entries, apart first driver entries, keptDriver ▸ sameDriver,
    keptEntries ▸ sameEntries⟩

theorem entryAt_matched (id : Nat) :
    Operation.Matched (SameButPasswords callbacks) (Entry.SameButPassword callbacks)
      (entryAt id : Operation (Gateway α) (Entry α)) (entryAt id) := by
  intro first second same
  have related := same
  rcases same with ⟨driver, entries, rfl, -, sameEntries⟩
  exact ⟨.ok (sameEntries.entry id), related⟩

theorem changeEntry_discreet (id : Nat) {change otherChange : Entry α → Entry α}
    (changes : forall entry other, entry.SameButPassword callbacks other ->
      (change entry).SameButPassword callbacks (otherChange other)) :
    (changeEntry id change).Alike (SameButPasswords callbacks) (changeEntry id otherChange) := by
  refine .modify fun first second same => ?_
  rcases same with ⟨driver, entries, rfl, sameDriver, sameEntries⟩
  exact ⟨driver, _, rfl, sameDriver, sameEntries.put id (changes _ _ (sameEntries.entry id))⟩

theorem addEntry_discreet {entry other : Entry α} (same : entry.SameButPassword callbacks other) :
    (addEntry entry).Alike (SameButPasswords callbacks) (addEntry other) := by
  rintro first _ ⟨driver, entries, rfl, sameDriver, sameEntries⟩
  have size : entries.size = first.entries.size := by
    have lengths := congrArg List.length sameEntries.keys
    unfold Dictionary.keys at lengths
    rw [List.length_map, List.length_map] at lengths
    exact lengths
  refine ⟨congrArg Except.ok size.symm, driver, entries.put entries.size other, rfl, sameDriver, ?_⟩
  rw [size]
  exact sameEntries.put first.entries.size same

theorem write_discreet (level : Logging.Level) (part message : String)
    (fields : Option (List (String × Value))) :
    Discreet callbacks (write level part message fields) :=
  modify_discreet fun _ _ _ => rfl

theorem compile_discreet (template : String) (dialect : Dialect) (style : Option ParameterStyle) :
    Discreet callbacks (compile template dialect style) := by
  rintro first _ ⟨driver, entries, rfl, sameDriver, sameEntries⟩
  rcases found : first.cache.compile template dialect style with ⟨outcome, cache⟩
  simp only [Operation.AlikeOn, Operation.outcome, Operation.after, compile, found]
  cases outcome with
  | ok query => exact ⟨rfl, driver, entries, rfl, sameDriver, sameEntries⟩
  | error fault => exact ⟨rfl, driver, entries, rfl, sameDriver, sameEntries⟩

theorem clearCaches_discreet : Discreet callbacks (clearCaches : Operation (Gateway α) Unit) :=
  .bind (modify_discreet fun _ _ _ => rfl) fun _ => write_discreet _ _ _ _

/-! ## Connections -/

theorem announceConnected_discreet {params others : ConnectionParams}
    (same : params.SameButPassword others) (handle : Handle) :
    (announceConnected params handle : Operation (Gateway α) Unit).Alike
      (SameButPasswords callbacks) (announceConnected others handle) := by
  rcases same with ⟨password, rfl, -⟩
  change Discreet callbacks (announceConnected params handle)
  unfold announceConnected
  split
  · exact .pure ()
  · exact write_discreet _ _ _ _

/-- Give an entry a handle that it keeps. -/
theorem attach_discreet (id : Nat) (connection : Native.Connection) (adapter : Adapter) :
    Discreet callbacks (attach id connection adapter) := by
  rintro first _ ⟨driver, entries, rfl, sameDriver, sameEntries⟩
  have sameEntry := sameEntries.entry id
  exact ⟨rfl, driver, _, rfl, sameDriver,
    sameEntries.put id ⟨sameEntry.params, rfl, sameEntry.nestable, sameEntry.hooks⟩⟩

theorem openConnection_discreet (adapter : Adapter) {params others : ConnectionParams}
    (same : params.SameButPassword others) (options : List (String × Value)) :
    (adapter.openConnection params options).Alike
      (Native.Driver.SameBut Event.withoutArguments) (adapter.openConnection others options) := by
  refine Adapter.openConnection_alike ⟨fun missing => ?_, ?_⟩
  · have made := Adapter.connectArguments_same same adapter missing options
    generalize adapter.connectArguments missing params options = arguments at made ⊢
    generalize adapter.connectArguments missing others options = otherArguments at made ⊢
    cases made with
    | ok _ => exact .ok fun _ => rfl
    | error fault => exact .error fault
  · rcases same with ⟨password, rfl, -⟩
    rfl

/-- An entry is connected with one password as with the other; only the driver is given it. -/
theorem openEntry_discreet (id : Nat) {params others : ConnectionParams}
    (same : params.SameButPassword others) :
    (openEntry id params : Operation (Gateway α) Handle).Alike (SameButPasswords callbacks)
      (openEntry id others) := by
  have dialect : others.dialect = params.dialect := by
    rcases same with ⟨password, rfl, -⟩
    rfl
  unfold openEntry
  rw [dialect]
  refine .bind (.ofExcept _) fun adapter => ?_
  rw [Adapter.resolveOptions_same same adapter]
  refine .bind (.ofExcept _) fun options => .getBind fun first second sameState => ?_
  rcases sameState with ⟨_, _, rfl, ⟨events, rfl, -⟩, -⟩
  refine .bind (.ofExcept _) fun _ => ?_
  have opens := openConnection_discreet adapter same options
  refine .bind (.mapFault _ (onDriver_discreet opens)) fun connection => ?_
  refine .bind (attach_discreet id connection adapter) fun handle => ?_
  refine .bind (announceConnected_discreet same handle) fun _ => ?_
  exact .pure handle

theorem connect_discreet (id : Nat) :
    Discreet callbacks (connect id : Operation (Gateway α) Handle) := by
  refine (entryAt_matched id).bindAlike fun entry other same => ?_
  rw [same.handle]
  cases entry.handle with
  | some handle => exact .pure handle
  | none => exact openEntry_discreet id same.params

theorem forgetHandle_discreet (scope : Scope) (handle : Handle) :
    Discreet callbacks (forgetHandle scope handle) :=
  modify_discreet fun _ _ _ => rfl

theorem disconnect_discreet (id : Nat) (tracker : Option Scope) :
    Discreet callbacks (disconnect id tracker) := by
  refine (entryAt_matched id).bindAlike fun entry other same => ?_
  rw [same.handle]
  cases entry.handle with
  | none => exact .pure ()
  | some handle =>
      refine .bind (changeEntry_discreet id fun _ _ same =>
        ⟨same.params, rfl, same.nestable, same.hooks⟩) fun _ => ?_
      have closes : Discreet callbacks
          (Operation.mapFault (driverFault "Failed closing database connection")
            (onDriver (Native.close handle.connection))) :=
        .mapFault _ (onDriver_discreet (Native.callAt_alike _ _))
      cases tracker with
      | some scope =>
          exact .bind (forgetHandle_discreet scope handle) fun _ => .bind closes fun _ =>
            write_discreet _ _ _ _
      | none => exact .bind closes fun _ => write_discreet _ _ _ _

/-! ## Registries and configurations -/

theorem register_discreet (scope : Scope) (fingerprint : String) (id : Nat) :
    Discreet callbacks (register scope fingerprint id) :=
  modify_discreet fun _ _ _ => rfl

theorem registered?_discreet (scope : Scope) (fingerprint : String) :
    Discreet callbacks (registered? scope fingerprint) :=
  getBind_discreet (fun _ _ _ => rfl) fun _ => .pure _

theorem clearRegistry_discreet (scope : Scope) : Discreet callbacks (clearRegistry scope) :=
  modify_discreet fun _ _ _ => rfl

theorem setConfig_discreet (config : Option Config) : Discreet callbacks (setConfig config) :=
  modify_discreet fun _ _ _ => rfl

theorem setEnvironment_discreet (pairs : List (String × String)) :
    Discreet callbacks (setEnvironment pairs) :=
  modify_discreet fun _ _ _ => rfl

end Gateway
end SqlGateway
