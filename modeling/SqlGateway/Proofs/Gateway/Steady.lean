import SqlGateway.Connection.Registry
import SqlGateway.Proofs.Operation

namespace SqlGateway

/-!
# What the library does beside transactions

Most uses of the library have nothing to do with transactions.  Such a use may open the
connection of an entry that has none, but it changes no tracker, closes no connection and
changes no entry's way with nested transactions.  This is the relation `Steady`.

A weaker relation, `Undisturbed`, is also kept by the uses that make new entries.  It only
says that trackers stay as they are and that a handle that an entry holds was counted; both
are what the fresh ids of later handles rest on.
-/

namespace Gateway

variable {α : Type}

/-! ## Entries and trackers under the primitive changes -/

theorem entry_setEntry (gateway : Gateway α) (id other : Nat) (entry : Entry α) :
    (gateway.setEntry id entry).entry other =
      if other = id then entry else gateway.entry other := by
  unfold Gateway.entry setEntry
  rw [Dictionary.get?_put]
  split <;> rfl

theorem tracker_setTracker (gateway : Gateway α) (scope other : Scope) (tracker : Tracker) :
    (gateway.setTracker scope tracker).tracker other =
      if other = scope then tracker else gateway.tracker other := by
  unfold Gateway.tracker setTracker
  rw [Dictionary.get?_put]
  split <;> rfl

/-! ## Three relations, from the strongest to the weakest -/

/-- Entries, trackers and the count of handles are what they were. -/
structure Untouched (before after : Gateway α) : Prop where
  entries : after.entries = before.entries
  trackers : after.trackers = before.trackers
  handleCount : after.handleCount = before.handleCount

/-- Every handle that an entry holds was counted, and so has an id that none later has. -/
def HandlesCounted (gateway : Gateway α) : Prop :=
  forall id handle, (gateway.entry id).handle = some handle -> handle.id ≤ gateway.handleCount

/-- No transaction was begun, ended or forgotten. -/
structure Undisturbed (before after : Gateway α) : Prop where
  tracker : forall scope, after.tracker scope = before.tracker scope
  handleCount : before.handleCount ≤ after.handleCount
  counted : before.HandlesCounted -> after.HandlesCounted

/-- An entry holds a handle, whatever the driver said of the row inserted last. -/
def Holds (gateway : Gateway α) (entry : Nat) (handle : Handle) : Prop :=
  exists row, (gateway.entry entry).handle = some { handle with lastRowId := row }

/-- Moreover no connection was lost, and nested transactions are allowed where they were. -/
structure Steady (before after : Gateway α) : Prop extends Undisturbed before after where
  holds : forall id handle, before.Holds id handle -> after.Holds id handle
  nestable : forall id, (after.entry id).nestable = (before.entry id).nestable

instance : IsPreorder (Gateway α) Untouched where
  refl _ := ⟨rfl, rfl, rfl⟩
  trans _ _ _ first second :=
    ⟨second.entries.trans first.entries, second.trackers.trans first.trackers,
      second.handleCount.trans first.handleCount⟩

instance : IsPreorder (Gateway α) Undisturbed where
  refl _ := ⟨fun _ => rfl, Nat.le_refl _, id⟩
  trans _ _ _ first second :=
    ⟨fun scope => (second.tracker scope).trans (first.tracker scope),
      Nat.le_trans first.handleCount second.handleCount,
      second.counted ∘ first.counted⟩

instance : IsPreorder (Gateway α) Steady where
  refl gateway :=
    ⟨refl_of Undisturbed gateway, fun _ _ holds => holds, fun _ => rfl⟩
  trans _ _ _ first second :=
    ⟨trans_of Undisturbed first.toUndisturbed second.toUndisturbed,
      fun id handle holds => second.holds id handle (first.holds id handle holds),
      fun id => (second.nestable id).trans (first.nestable id)⟩

namespace Untouched

variable {before after : Gateway α}

theorem entry (untouched : Untouched before after) (id : Nat) :
    after.entry id = before.entry id := by
  unfold Gateway.entry
  rw [untouched.entries]

theorem tracker (untouched : Untouched before after) (scope : Scope) :
    after.tracker scope = before.tracker scope := by
  unfold Gateway.tracker
  rw [untouched.trackers]

theorem steady (untouched : Untouched before after) : Steady before after where
  tracker := untouched.tracker
  handleCount := Nat.le_of_eq untouched.handleCount.symm
  counted counted id handle held := by
    rw [untouched.entry] at held
    rw [untouched.handleCount]
    exact counted id handle held
  holds id handle holds := by
    unfold Holds
    rw [untouched.entry]
    exact holds
  nestable id := by rw [untouched.entry]

end Untouched

/-! ## Operations that touch nothing of the kind -/

theorem onDriver_untouched {β : Type} (operation : Operation Native.Driver β) :
    (onDriver operation : Operation (Gateway α) β).Respects Untouched :=
  Operation.Respects.withinIgnored fun _ _ => ⟨rfl, rfl, rfl⟩

theorem write_untouched (level : Logging.Level) (part message : String)
    (fields : Option (List (String × Value))) :
    (write level part message fields : Operation (Gateway α) Unit).Respects Untouched :=
  Operation.Respects.modify fun _ => ⟨rfl, rfl, rfl⟩

theorem compile_untouched (template : String) (dialect : Dialect)
    (style : Option ParameterStyle) :
    (compile template dialect style : Operation (Gateway α) ParsedQuery).Respects Untouched := by
  intro gateway
  simp only [Operation.after, compile]
  rcases gateway.cache.compile template dialect style with ⟨outcome, cache⟩
  cases outcome <;> exact ⟨rfl, rfl, rfl⟩

theorem entryAt_untouched (id : Nat) :
    (entryAt id : Operation (Gateway α) (Entry α)).Respects Untouched :=
  Operation.Respects.bind .get fun _ => .pure _

theorem announceConnected_untouched (params : ConnectionParams) (handle : Handle) :
    (announceConnected params handle : Operation (Gateway α) Unit).Respects Untouched := by
  unfold announceConnected
  split
  · exact .pure ()
  · exact write_untouched _ _ _ _

theorem announceConnected_outcome (params : ConnectionParams) (handle : Handle)
    (gateway : Gateway α) : (announceConnected params handle).outcome gateway = .ok () := by
  unfold announceConnected
  cases params.database.display <;> rfl

theorem respects_steady {β : Type} {operation : Operation (Gateway α) β}
    (untouched : operation.Respects Untouched) : operation.Respects Steady :=
  untouched.mono fun _ _ => Untouched.steady

/-- A change of an entry that keeps its handle, up to what the driver said of a row. -/
theorem changeEntry_steady (id : Nat) (change : Entry α → Entry α)
    (nestable : forall entry, (change entry).nestable = entry.nestable)
    (unconnected : forall entry, entry.handle = none -> (change entry).handle = none)
    (connected : forall entry handle, entry.handle = some handle ->
      exists row, (change entry).handle = some { handle with lastRowId := row }) :
    (changeEntry id change : Operation (Gateway α) Unit).Respects Steady := by
  refine Operation.Respects.modify fun gateway => ?_
  let entry := gateway.entry id
  have changed (other : Nat) : (gateway.setEntry id (change entry)).entry other =
      if other = id then change entry else gateway.entry other :=
    entry_setEntry gateway id other (change entry)
  refine ⟨⟨fun _ => rfl, Nat.le_refl _, ?_⟩, ?_, ?_⟩
  · intro counted other handle held
    rw [changed] at held
    split at held
    · cases present : entry.handle with
      | none =>
          rw [unconnected entry present] at held
          cases held
      | some old =>
          rcases connected entry old present with ⟨row, kept⟩
          cases kept.symm.trans held
          exact counted id old present
    · exact counted other handle held
  · rintro other handle ⟨row, held⟩
    unfold Holds
    rw [changed]
    split
    · rename_i equal
      rw [equal] at held
      rcases connected entry _ held with ⟨later, kept⟩
      exact ⟨later, kept⟩
    · exact ⟨row, held⟩
  · intro other
    rw [changed]
    split
    · rename_i equal
      rw [nestable, equal]
    · rfl

/-! ## Connecting -/

/-- The entry of an id was given a handle that no entry had before. -/
structure Opened (id : Nat) (handle : Handle) (before after : Gateway α) : Prop where
  handleId : handle.id = before.handleCount + 1
  handleCount : after.handleCount = before.handleCount + 1
  trackers : after.trackers = before.trackers
  entry : forall other, after.entry other =
    if other = id then { before.entry id with handle := some handle } else before.entry other

namespace Opened

variable {id : Nat} {handle : Handle} {before after : Gateway α}

theorem steady (opened : Opened id handle before after)
    (unconnected : (before.entry id).handle = none) : Steady before after := by
  refine ⟨⟨?_, ?_, ?_⟩, ?_, ?_⟩
  · intro scope
    unfold Gateway.tracker
    rw [opened.trackers]
  · rw [opened.handleCount]
    exact Nat.le_succ _
  · intro counted other held found
    rw [opened.entry] at found
    rw [opened.handleCount]
    split at found
    · cases found
      exact Nat.le_of_eq opened.handleId
    · exact Nat.le_succ_of_le (counted other held found)
  · rintro other held ⟨row, found⟩
    have different : other ≠ id := by
      rintro rfl
      rw [unconnected] at found
      cases found
    unfold Holds
    rw [opened.entry, if_neg different]
    exact ⟨row, found⟩
  · intro other
    rw [opened.entry]
    split
    · rename_i equal
      rw [equal]
    · rfl

end Opened

/-- An operation fails and touches nothing, or gives an entry a new handle. -/
def Opens (id : Nat) (operation : Operation (Gateway α) Handle) : Prop :=
  forall gateway,
    (exists fault left, operation gateway = .error fault left ∧ Untouched gateway left) ∨
    (exists handle left, operation gateway = .ok handle left ∧ Opened id handle gateway left)

theorem Opened.of_untouched {id : Nat} {handle : Handle} {before middle after : Gateway α}
    (untouched : Untouched before middle) (opened : Opened id handle middle after) :
    Opened id handle before after where
  handleId := by rw [opened.handleId, untouched.handleCount]
  handleCount := by rw [opened.handleCount, untouched.handleCount]
  trackers := opened.trackers.trans untouched.trackers
  entry other := by rw [opened.entry, untouched.entry, untouched.entry]

theorem Opened.untouched_after {id : Nat} {handle : Handle} {before middle after : Gateway α}
    (opened : Opened id handle before middle) (untouched : Untouched middle after) :
    Opened id handle before after where
  handleId := opened.handleId
  handleCount := by rw [untouched.handleCount, opened.handleCount]
  trackers := untouched.trackers.trans opened.trackers
  entry other := by rw [untouched.entry, opened.entry]

theorem Opens.of_bind {id : Nat} {β : Type} {first : Operation (Gateway α) β}
    {next : β → Operation (Gateway α) Handle} (untouched : first.Respects Untouched)
    (opens : forall value, Opens id (next value)) : Opens id (first >>= next) := by
  intro gateway
  have reached := untouched gateway
  rw [Operation.bind_eq]
  cases first.outcome gateway with
  | error fault => exact Or.inl ⟨fault, _, rfl, reached⟩
  | ok value =>
      rcases opens value (first.after gateway) with ⟨fault, left, fails, same⟩ |
        ⟨handle, left, gives, opened⟩
      · exact Or.inl ⟨fault, left, fails, trans_of Untouched reached same⟩
      · exact Or.inr ⟨handle, left, gives, .of_untouched reached opened⟩

theorem attach_opens (id : Nat) (connection : Native.Connection) (adapter : Adapter)
    (params : ConnectionParams) :
    Opens id (do
      let handle ← (attach id connection adapter : Operation (Gateway α) Handle)
      announceConnected params handle
      return handle) := by
  intro gateway
  let handle : Handle := ⟨gateway.handleCount + 1, connection, adapter, .null⟩
  let counted : Gateway α := { gateway with handleCount := gateway.handleCount + 1 }
  let attached := counted.setEntry id { counted.entry id with handle := some handle }
  have opened : Opened id handle gateway attached :=
    ⟨rfl, rfl, rfl, fun other => entry_setEntry counted id other _⟩
  have announced := announceConnected_untouched params handle attached
  have silent := announceConnected_outcome params handle attached
  refine Or.inr ⟨handle, _, ?_, opened.untouched_after announced⟩
  have gives : (do announceConnected params handle; return handle) attached =
      .ok handle ((announceConnected params handle).after attached) := by
    rw [Operation.bind_eq, silent]
    rfl
  exact gives

/-- Opening an entry fails and touches nothing, or gives the entry a new handle. -/
theorem openEntry_opens (id : Nat) (params : ConnectionParams) :
    Opens id (openEntry id params : Operation (Gateway α) Handle) := by
  refine .of_bind (.ofExcept _) fun adapter => ?_
  refine .of_bind (.ofExcept _) fun _ => ?_
  refine .of_bind .get fun _ => ?_
  refine .of_bind (.ofExcept _) fun _ => ?_
  refine .of_bind (.mapFault _ (onDriver_untouched _)) fun connection => ?_
  exact attach_opens id connection adapter params

theorem connect_eq (id : Nat) (gateway : Gateway α) :
    connect id gateway =
      (match (gateway.entry id).handle with
        | some handle => (pure handle : Operation (Gateway α) Handle)
        | none => openEntry id (gateway.entry id).params) gateway :=
  rfl

theorem connect_of_connected {id : Nat} {handle : Handle} {gateway : Gateway α}
    (held : (gateway.entry id).handle = some handle) :
    connect id gateway = .ok handle gateway := by
  rw [connect_eq, held]
  rfl

theorem connect_of_unconnected {id : Nat} {gateway : Gateway α}
    (unconnected : (gateway.entry id).handle = none) :
    connect id gateway = openEntry id (gateway.entry id).params gateway := by
  rw [connect_eq, unconnected]

/-- After a successful connection the entry holds the handle, which it held before or which
is new. -/
theorem connect_ok {id : Nat} {handle : Handle} {gateway connected : Gateway α}
    (gives : connect id gateway = .ok handle connected) :
    (connected.entry id).handle = some handle ∧
      ((gateway.entry id).handle = some handle ∨
        (gateway.entry id).handle = none ∧ handle.id = gateway.handleCount + 1) := by
  cases held : (gateway.entry id).handle with
  | some current =>
      rw [connect_of_connected held] at gives
      cases gives
      exact ⟨held, Or.inl rfl⟩
  | none =>
      rw [connect_of_unconnected held] at gives
      rcases openEntry_opens id (gateway.entry id).params gateway with
        ⟨fault, left, fails, -⟩ | ⟨fresh, left, opens, opened⟩
      · rw [fails] at gives
        cases gives
      · rw [opens] at gives
        cases gives
        refine ⟨?_, Or.inr ⟨rfl, opened.handleId⟩⟩
        rw [opened.entry, if_pos rfl]

theorem connect_steady (id : Nat) :
    (connect id : Operation (Gateway α) Handle).Respects Steady := by
  intro gateway
  cases held : (gateway.entry id).handle with
  | some current =>
      rw [Operation.after, connect_of_connected held]
      exact refl_of Steady gateway
  | none =>
      rw [Operation.after, connect_of_unconnected held]
      rcases openEntry_opens id (gateway.entry id).params gateway with
        ⟨fault, left, fails, untouched⟩ | ⟨fresh, left, opens, opened⟩
      · rw [fails]
        exact untouched.steady
      · rw [opens]
        exact opened.steady held

/-! ## Disconnecting -/

/-- The state in which an entry has lost its handle, and a tracker has forgotten it. -/
def dropped (gateway : Gateway α) (id : Nat) (handle : Handle) (tracker : Option Scope) :
    Gateway α :=
  let unconnected := gateway.setEntry id { gateway.entry id with handle := none }
  match tracker with
  | some scope =>
    unconnected.setTracker scope ((unconnected.tracker scope).forget handle.id)
  | none => unconnected

/-- Close the native connection of a handle that was dropped. -/
def closeDropped (handle : Handle) : Operation (Gateway α) Unit := do
  .mapFault (driverFault "Failed closing database connection")
    (onDriver (Native.close handle.connection))
  write .info "driver.connection" ("Disconnected connection " ++ Nat.repr handle.id) none

theorem disconnect_eq (id : Nat) (tracker : Option Scope) (gateway : Gateway α) :
    disconnect id tracker gateway =
      match (gateway.entry id).handle with
      | none => .ok () gateway
      | some handle => closeDropped handle (gateway.dropped id handle tracker) := by
  have reached : disconnect id tracker gateway =
      (match (gateway.entry id).handle with
        | none => (pure () : Operation (Gateway α) Unit)
        | some handle => do
          changeEntry id fun entry => { entry with handle := none }
          match tracker with
          | some scope => forgetHandle scope handle
          | none => pure ()
          closeDropped handle) gateway :=
    rfl
  rw [reached]
  cases (gateway.entry id).handle with
  | none => rfl
  | some handle => cases tracker <;> rfl

theorem disconnect_untouched {id : Nat} {handle : Handle} {gateway : Gateway α}
    (held : (gateway.entry id).handle = some handle) (tracker : Option Scope) :
    Untouched (gateway.dropped id handle tracker) ((disconnect id tracker).after gateway) := by
  have untouched : (closeDropped handle : Operation (Gateway α) Unit).Respects Untouched :=
    .bind (.mapFault _ (onDriver_untouched _)) fun _ => write_untouched _ _ _ _
  rw [Operation.after, disconnect_eq, held]
  exact untouched _

/-- The driver is asked to close the connection, if there is one, and for nothing else. -/
theorem disconnect_closes (id : Nat) (tracker : Option Scope) (gateway : Gateway α) :
    ((disconnect id tracker).after gateway).driver =
      match (gateway.entry id).handle with
      | none => gateway.driver
      | some handle => (Native.close handle.connection).after gateway.driver := by
  rw [Operation.after, disconnect_eq]
  cases (gateway.entry id).handle with
  | none => rfl
  | some handle =>
      let dropping := gateway.dropped id handle tracker
      have sameDriver : dropping.driver = gateway.driver := by
        unfold dropping dropped
        cases tracker <;> rfl
      have closes : ((closeDropped handle).after dropping).driver =
          (((.mapFault (driverFault "Failed closing database connection")
            (onDriver (Native.close handle.connection)) : Operation (Gateway α) Unit)).after
              dropping).driver := by
        rw [closeDropped, Operation.after_bind]
        split <;> rfl
      rw [Operation.after_mapFault, onDriver, Operation.after_within, sameDriver] at closes
      exact closes

/-! ## A state to start from -/

/-- An entry that is added has no handle. -/
theorem addEntry_undisturbed (params : ConnectionParams) (nestable : Bool) :
    (addEntry (.ofParams params nestable) : Operation (Gateway α) Nat).Respects Undisturbed := by
  refine fun gateway => ⟨fun _ => rfl, Nat.le_refl _, fun counted id handle held => ?_⟩
  have found : ((gateway.setEntry gateway.entries.size (.ofParams params nestable)).entry
      id).handle = some handle := held
  rw [entry_setEntry] at found
  split at found
  · cases found
  · exact counted id handle found

/-- The parameters of a database in memory. -/
def memoryParams : ConnectionParams :=
  ⟨.doubleQuoted "sqlite" "sqlite" .question "sqlite" "sqlite" false, .text ":memory:", .null,
    none, .null, .null, []⟩

/-- Keep an entry for a database in memory and connect it. -/
def openMemory : Operation (Gateway α) Handle := do
  connect (← addEntry (.ofParams memoryParams true))

theorem openMemory_undisturbed :
    (openMemory : Operation (Gateway α) Handle).Respects Undisturbed :=
  .bind (addEntry_undisturbed memoryParams true) fun id =>
    (connect_steady id).mono fun _ _ steady => steady.toUndisturbed

end Gateway
end SqlGateway
