import SqlGateway.Proofs.Database.Reachable
import SqlGateway.Proofs.Gateway.Parameters
import SqlGateway.Proofs.Native.Confined

namespace SqlGateway

/-!
# Which entry holds which handle

The library remembers a connection in three places: the entry that holds its handle, the
counter that numbers handles, and the tracker, which knows the handle by its number only.
`Orderly` says how these belong together: what the tracker knows is about a handle that some
entry holds, and no handle is held twice.  A new handle is then idle whatever happened before.

What is done through one entry keeps this, and it reaches nothing that other entries hold.
It makes no new handle with an old number, and a native connection that no entry holds any
more is not used again.
-/

namespace Gateway

variable {α : Type}

open Native (Connection)

/-! ## Orderly states -/

/-- Handles, entries, the counter and a tracker belong together, and no hook is registered. -/
structure Orderly (tracker : Scope) (gateway : Gateway α) : Prop where
  /-- The tracker knows only handles that are held. -/
  attached : forall id, gateway.level tracker id ≠ .idle ->
    exists entry handle, (gateway.entry entry).handle = some handle ∧ handle.id = id
  /-- Two entries share neither a handle nor a connection. -/
  distinct : forall entry other handle otherHandle,
    (gateway.entry entry).handle = some handle ->
    (gateway.entry other).handle = some otherHandle ->
    handle.id = otherHandle.id ∨ handle.connection = otherHandle.connection -> entry = other
  counted : gateway.HandlesCounted
  /-- A handle that is held has a connection that the driver opened. -/
  opened : forall entry handle, (gateway.entry entry).handle = some handle ->
    exists number, handle.connection = .opened number ∧ number ≤ gateway.driver.connections
  /-- Entries are numbered in order. -/
  numbered : gateway.entries.keys = List.range gateway.entries.keys.length
  unhooked : forall entry, (gateway.entry entry).hooks = []

theorem entry_of_not_mem_keys {gateway : Gateway α} {id : Nat}
    (absent : id ∉ gateway.entries.keys) : gateway.entry id = default := by
  unfold Gateway.entry
  rw [Dictionary.get?_of_not_mem_keys absent]
  rfl

/-- Only entries that were made hold handles. -/
theorem mem_keys_of_held {gateway : Gateway α} {id : Nat} {handle : Handle}
    (held : (gateway.entry id).handle = some handle) : id ∈ gateway.entries.keys := by
  refine Decidable.byContradiction fun absent => ?_
  rw [entry_of_not_mem_keys absent] at held
  cases held

theorem orderly_ofDriver (tracker : Scope) (driver : Native.Driver) :
    (ofDriver driver : Gateway α).Orderly tracker where
  attached _ active := absurd rfl active
  distinct _ _ _ _ held _ _ := nomatch held
  counted _ _ held := nomatch held
  opened _ _ held := nomatch held
  numbered := rfl
  unhooked _ := rfl

/-! ## What is done through an entry -/

/-- An orderly state was left orderly: no handle got an old number, and no connection that no
entry holds was used. -/
structure Continued (tracker : Scope) (before after : Gateway α) : Prop where
  orderly : after.Orderly tracker
  handleCount : before.handleCount ≤ after.handleCount
  connections : before.driver.connections ≤ after.driver.connections
  /-- A handle that is held was held by the same entry, or it is new as its connection is. -/
  handles : forall holder handle, (after.entry holder).handle = some handle ->
    (exists earlier, (before.entry holder).handle = some earlier ∧ handle.id = earlier.id ∧
      handle.connection = earlier.connection ∧ handle.adapter = earlier.adapter) ∨
    before.handleCount < handle.id ∧
      handle.connection.OpenedBetween before.driver after.driver
  /-- A connection that no entry holds is not used. -/
  retired : forall number, number ≤ before.driver.connections ->
    (forall holder handle, (before.entry holder).handle = some handle ->
      handle.connection ≠ .opened number) ->
    after.driver.recordOf (.opened number) = before.driver.recordOf (.opened number)

/-- An orderly state was left orderly by something that was done through one entry. -/
structure DoneThrough (tracker : Scope) (entry : Nat) (before after : Gateway α) : Prop
    extends Continued tracker before after where
  /-- Other entries keep their handles. -/
  others : forall other, other ≠ entry ->
    (after.entry other).handle = (before.entry other).handle
  /-- The handles of other entries keep their levels. -/
  levels : forall other handle, other ≠ entry -> (before.entry other).handle = some handle ->
    after.level tracker handle.id = before.level tracker handle.id

/-- From an orderly state only what can be done through one entry is done. -/
def Through (tracker : Scope) (entry : Nat) (before after : Gateway α) : Prop :=
  before.Orderly tracker -> DoneThrough tracker entry before after

section Sequences

variable {tracker : Scope} {entry : Nat} {before middle after : Gateway α}

theorem Continued.refl (orderly : before.Orderly tracker) : Continued tracker before before where
  orderly := orderly
  handleCount := Nat.le_refl _
  connections := Nat.le_refl _
  handles _ handle held := Or.inl ⟨handle, held, rfl, rfl, rfl⟩
  retired _ _ _ := rfl

theorem Continued.trans (first : Continued tracker before middle)
    (second : Continued tracker middle after) : Continued tracker before after where
  orderly := second.orderly
  handleCount := Nat.le_trans first.handleCount second.handleCount
  connections := Nat.le_trans first.connections second.connections
  handles holder handle held := by
    rcases second.handles holder handle held with
      ⟨later, laterHeld, laterId, laterConnection, laterAdapter⟩ | ⟨made, number, same, more, known⟩
    · rcases first.handles holder later laterHeld with
        ⟨earlier, earlierHeld, id, connection, adapter⟩ | ⟨made, number, same, more, known⟩
      · exact Or.inl ⟨earlier, earlierHeld, laterId.trans id, laterConnection.trans connection,
          laterAdapter.trans adapter⟩
      · exact Or.inr ⟨laterId ▸ made, number, laterConnection.trans same, more,
          Nat.le_trans known second.connections⟩
    · exact Or.inr ⟨Nat.lt_of_le_of_lt first.handleCount made, number, same,
        Nat.lt_of_le_of_lt first.connections more, known⟩
  retired number known unheld := by
    have stillUnheld : forall holder handle, (middle.entry holder).handle = some handle ->
        handle.connection ≠ .opened number := by
      intro holder handle held equal
      rcases first.handles holder handle held with
        ⟨earlier, earlierHeld, -, connection, -⟩ | ⟨-, fresh, same, more, -⟩
      · exact unheld holder earlier earlierHeld (connection.symm.trans equal)
      · have numbers : fresh = number := Connection.opened.inj (same.symm.trans equal)
        exact absurd known (Nat.not_le.mpr (numbers ▸ more))
    exact (second.retired number (Nat.le_trans known first.connections) stillUnheld).trans
      (first.retired number known unheld)

theorem DoneThrough.refl (orderly : before.Orderly tracker) :
    DoneThrough tracker entry before before where
  toContinued := .refl orderly
  others _ _ := rfl
  levels _ _ _ _ := rfl

theorem DoneThrough.trans (first : DoneThrough tracker entry before middle)
    (second : DoneThrough tracker entry middle after) :
    DoneThrough tracker entry before after where
  toContinued := first.toContinued.trans second.toContinued
  others other different :=
    (second.others other different).trans (first.others other different)
  levels other handle different held := by
    have kept := (first.others other different).trans held
    exact (second.levels other handle different kept).trans
      (first.levels other handle different held)

end Sequences

instance (tracker : Scope) (entry : Nat) : IsPreorder (Gateway α) (Through tracker entry) where
  refl _ orderly := .refl orderly
  trans _ _ _ first second orderly :=
    (first orderly).trans (second (first orderly).orderly)

/-! ## Handles that stay as they are -/

/-- No handle and no level changed; entries may have been made. -/
theorem DoneThrough.of_kept {tracker : Scope} {entry : Nat} {before after : Gateway α}
    (orderly : before.Orderly tracker)
    (handle : forall id, (after.entry id).handle = (before.entry id).handle)
    (unhooked : forall id, (after.entry id).hooks = [])
    (numbered : after.entries.keys = List.range after.entries.keys.length)
    (level : forall id, after.level tracker id = before.level tracker id)
    (handleCount : after.handleCount = before.handleCount)
    (opens : before.driver.OpensMore after.driver) : DoneThrough tracker entry before after where
  orderly := {
    attached := by
      intro id active
      rw [level] at active
      rcases orderly.attached id active with ⟨holder, held, found, same⟩
      exact ⟨holder, held, (handle holder).trans found, same⟩
    distinct := by
      intro holder other held otherHeld found otherFound
      rw [handle] at found otherFound
      exact orderly.distinct holder other held otherHeld found otherFound
    counted := by
      intro id held found
      rw [handle] at found
      rw [handleCount]
      exact orderly.counted id held found
    opened := by
      intro holder held found
      rw [handle] at found
      rcases orderly.opened holder held found with ⟨number, same, known⟩
      exact ⟨number, same, Nat.le_trans known opens.connections⟩
    numbered := numbered
    unhooked := unhooked }
  handleCount := Nat.le_of_eq handleCount.symm
  connections := opens.connections
  handles holder held found := Or.inl ⟨held, (handle holder).symm.trans found, rfl, rfl, rfl⟩
  retired number known _ := opens.recordOf number known
  others other _ := handle other
  levels _ held _ _ := level held.id

theorem through_of_untouched {tracker : Scope} {entry : Nat} {before after : Gateway α}
    (untouched : Untouched before after) (opens : before.driver.OpensMore after.driver) :
    Through tracker entry before after := by
  intro orderly
  refine .of_kept orderly (fun id => by rw [untouched.entry]) (fun id => ?_) ?_ (fun id => ?_)
    untouched.handleCount opens
  · rw [untouched.entry]
    exact orderly.unhooked id
  · rw [untouched.entries]
    exact orderly.numbered
  · rw [level, untouched.tracker]
    rfl

/-- A new entry gets the next number, under which no handle is held. -/
theorem addEntry_through (tracker : Scope) (entry : Nat) {fresh : Entry α}
    (unconnected : fresh.handle = none) (unhooked : fresh.hooks = []) :
    (addEntry fresh).Respects (Through tracker entry) := by
  intro gateway orderly
  let id := gateway.entries.keys.length
  have added : (addEntry fresh).after gateway = gateway.setEntry id fresh := by
    have size : gateway.entries.size = id := (List.length_map _).symm
    exact congrArg (gateway.setEntry · fresh) size
  have absent : id ∉ gateway.entries.keys := by
    rw [orderly.numbered, List.mem_range]
    exact Nat.lt_irrefl _
  rw [added]
  refine .of_kept orderly (fun other => ?_) (fun other => ?_) ?_ (fun _ => rfl) rfl
    (refl_of Native.Driver.OpensMore gateway.driver)
  · rw [entry_setEntry]
    split
    · rename_i same
      rw [unconnected, same, entry_of_not_mem_keys absent]
      rfl
    · rfl
  · rw [entry_setEntry]
    split
    · exact unhooked
    · exact orderly.unhooked other
  · have keys : (gateway.setEntry id fresh).entries.keys = gateway.entries.keys ++ [id] :=
      (Dictionary.keys_put gateway.entries id fresh).trans (if_neg absent)
    rw [keys, List.length_append, List.length_singleton, List.range_succ, ← orderly.numbered]

/-! ## Connecting an entry -/

/-- An operation may open a connection; a handle that it gives is on such a connection. -/
def ConnectsAnew (operation : Operation (Gateway α) Handle) : Prop :=
  forall gateway,
    gateway.driver.OpensMore (operation.after gateway).driver ∧
    forall handle, operation.outcome gateway = .ok handle ->
      handle.connection.OpenedBetween gateway.driver (operation.after gateway).driver

theorem ConnectsAnew.of_bind {β : Type} {first : Operation (Gateway α) β}
    {next : β → Operation (Gateway α) Handle}
    (kept : forall gateway, (first.after gateway).driver = gateway.driver)
    (connects : forall value, ConnectsAnew (next value)) : ConnectsAnew (first >>= next) := by
  intro gateway
  rw [Operation.after_bind, Operation.outcome_bind, ← kept gateway]
  cases first.outcome gateway with
  | error fault => exact ⟨refl_of Native.Driver.OpensMore _, nofun⟩
  | ok value => exact connects value (first.after gateway)

/-- A handle is given to the connection that was opened for it. -/
theorem attach_eq (id : Nat) (connection : Connection) (adapter : Adapter)
    (params : ConnectionParams) (gateway : Gateway α) :
    exists handle left, (do
      let handle ← (attach id connection adapter : Operation (Gateway α) Handle)
      announceConnected params handle
      return handle) gateway = .ok handle left ∧
      handle.connection = connection ∧ left.driver = gateway.driver := by
  unfold announceConnected
  cases params.database.display with
  | error fault => exact ⟨_, _, rfl, rfl, rfl⟩
  | ok name => exact ⟨_, _, rfl, rfl, rfl⟩

theorem ConnectsAnew.of_opening {opening : Operation (Gateway α) Connection}
    {attaching : Connection → Operation (Gateway α) Handle}
    (opens : forall gateway, gateway.driver.OpensMore (opening.after gateway).driver ∧
      forall connection, opening.outcome gateway = .ok connection ->
        connection.OpenedBetween gateway.driver (opening.after gateway).driver)
    (attaches : forall connection gateway, exists handle left,
      attaching connection gateway = .ok handle left ∧ handle.connection = connection ∧
        left.driver = gateway.driver) : ConnectsAnew (opening >>= attaching) := by
  intro gateway
  rcases opens gateway with ⟨opensMore, fresh⟩
  rw [Operation.after_bind, Operation.outcome_bind]
  cases found : opening.outcome gateway with
  | error fault => exact ⟨opensMore, nofun⟩
  | ok connection =>
      obtain ⟨handle, left, gives, same, driver⟩ :=
        attaches connection (opening.after gateway)
      have reached : (attaching connection).after (opening.after gateway) = left :=
        Operation.after_of_ok gives
      have given : (attaching connection).outcome (opening.after gateway) = .ok handle :=
        Operation.outcome_of_ok gives
      simp only
      rw [reached, given, driver]
      refine ⟨opensMore, fun other returned => ?_⟩
      cases returned
      exact same ▸ fresh connection found

theorem openEntry_connectsAnew (id : Nat) (params : ConnectionParams) :
    ConnectsAnew (openEntry id params : Operation (Gateway α) Handle) := by
  have unmoved {β : Type} (found : Except Fault β) (gateway : Gateway α) :
      ((.ofExcept found : Operation (Gateway α) β).after gateway).driver = gateway.driver := by
    rw [Operation.after_ofExcept]
  refine .of_bind (unmoved _) fun adapter => ?_
  refine .of_bind (unmoved _) fun options => ?_
  refine .of_bind (fun _ => rfl) fun _ => ?_
  refine .of_bind (unmoved _) fun _ => ?_
  refine .of_opening (fun gateway => ?_) (attach_eq id · adapter params ·)
  rw [Operation.outcome_mapFault, Operation.after_mapFault, onDriver, Operation.outcome_within,
    Operation.after_within]
  rcases adapter.openConnection_opens params options gateway.driver with ⟨opens, fresh⟩
  refine ⟨opens, fun connection gives => fresh connection ?_⟩
  cases outcome : (adapter.openConnection params options).outcome gateway.driver with
  | error fault =>
      rw [outcome] at gives
      cases gives
  | ok found =>
      rw [outcome] at gives
      exact gives

/-- An entry that was not made has the parameters of no engine. -/
theorem openEntry_of_unmade (id : Nat) (gateway : Gateway α) :
    exists fault, openEntry id (default : Entry α).params gateway = .error fault gateway :=
  ⟨_, rfl⟩

section Opening

variable {tracker : Scope} {entry : Nat} {handle : Handle} {before after : Gateway α}
  (opened : Opened entry handle before after)
include opened

theorem Opened.level (id : Nat) : after.level tracker id = before.level tracker id := by
  unfold Gateway.level Gateway.tracker
  rw [opened.trackers]

theorem Opened.others (other : Nat) (different : other ≠ entry) :
    after.entry other = before.entry other := by
  rw [opened.entry, if_neg different]

/-- A handle that is held afterwards is the new one, or it was held before. -/
theorem Opened.held_cases {holder : Nat} {held : Handle}
    (found : (after.entry holder).handle = some held) :
    holder = entry ∧ held = handle ∨ (before.entry holder).handle = some held := by
  by_cases here : holder = entry
  · rw [opened.entry, if_pos here] at found
    exact Or.inl ⟨here, (Option.some.inj found).symm⟩
  · rw [opened.others holder here] at found
    exact Or.inr found

/-- The new handle has neither the id nor the connection of one that was held before. -/
theorem Opened.unused (orderly : before.Orderly tracker)
    (fresh : handle.connection.OpenedBetween before.driver after.driver) {holder : Nat}
    {held : Handle} (found : (before.entry holder).handle = some held) :
    ¬ (handle.id = held.id ∨ handle.connection = held.connection) := by
  rintro (ids | connections)
  · have counted := orderly.counted holder held found
    rw [← ids, opened.handleId] at counted
    exact Nat.not_succ_le_self _ counted
  · rcases fresh with ⟨number, same, more, -⟩
    rcases orderly.opened holder held found with ⟨earlier, earlierSame, earlierKnown⟩
    have numbers : number = earlier :=
      Connection.opened.inj (same.symm.trans (connections.trans earlierSame))
    exact absurd earlierKnown (Nat.not_le.mpr (numbers ▸ more))

variable (unconnected : (before.entry entry).handle = none) (orderly : before.Orderly tracker)
  (keys : after.entries.keys = before.entries.keys)
  (opens : before.driver.OpensMore after.driver)
  (fresh : handle.connection.OpenedBetween before.driver after.driver)
include unconnected orderly keys opens fresh

theorem Opened.orderly_after : after.Orderly tracker where
  attached id active := by
    rw [opened.level] at active
    rcases orderly.attached id active with ⟨holder, held, found, sameId⟩
    have elsewhere : holder ≠ entry := by
      rintro rfl
      rw [unconnected] at found
      cases found
    exact ⟨holder, held, by rw [opened.others holder elsewhere, found], sameId⟩
  distinct holder other held otherHeld found otherFound shared := by
    rcases opened.held_cases found with ⟨rfl, rfl⟩ | earlier <;>
      rcases opened.held_cases otherFound with ⟨rfl, rfl⟩ | otherEarlier
    · rfl
    · exact absurd shared (opened.unused orderly fresh otherEarlier)
    · exact absurd (shared.imp Eq.symm Eq.symm) (opened.unused orderly fresh earlier)
    · exact orderly.distinct holder other held otherHeld earlier otherEarlier shared
  counted := (opened.steady unconnected).counted orderly.counted
  opened holder held found := by
    rcases opened.held_cases found with ⟨rfl, rfl⟩ | earlier
    · rcases fresh with ⟨number, same, -, known⟩
      exact ⟨number, same, known⟩
    · rcases orderly.opened holder held earlier with ⟨old, oldSame, oldKnown⟩
      exact ⟨old, oldSame, Nat.le_trans oldKnown opens.connections⟩
  numbered := by
    rw [keys]
    exact orderly.numbered
  unhooked holder := by
    rw [opened.entry]
    split
    · exact orderly.unhooked entry
    · exact orderly.unhooked holder

theorem Opened.doneThrough : DoneThrough tracker entry before after where
  orderly := opened.orderly_after unconnected orderly keys opens fresh
  handleCount := by
    rw [opened.handleCount]
    exact Nat.le_succ _
  connections := opens.connections
  handles holder held found := by
    rcases opened.held_cases found with ⟨rfl, rfl⟩ | earlier
    · refine Or.inr ⟨?_, fresh⟩
      rw [opened.handleId]
      exact Nat.lt_succ_self _
    · exact Or.inl ⟨held, earlier, rfl, rfl, rfl⟩
  retired old earlier _ := opens.recordOf old earlier
  others other different := by rw [opened.others other different]
  levels _ held _ _ := opened.level held.id

end Opening

theorem connect_through (tracker : Scope) (entry : Nat) :
    (connect entry : Operation (Gateway α) Handle).Respects (Through tracker entry) := by
  intro gateway orderly
  cases held : (gateway.entry entry).handle with
  | some current =>
      rw [Operation.after, connect_of_connected held]
      exact .refl orderly
  | none =>
      have reached := connect_of_unconnected held
      by_cases made : entry ∈ gateway.entries.keys
      · rw [Operation.after_congr reached]
        rcases openEntry_connectsAnew entry (gateway.entry entry).params gateway with ⟨opens, fresh⟩
        rcases openEntry_opens entry (gateway.entry entry).params gateway with
          ⟨fault, left, fails, untouched⟩ | ⟨handle, left, gives, opened⟩
        · have after := Operation.after_of_error fails
          rw [after] at opens ⊢
          exact through_of_untouched untouched opens orderly
        · have after := Operation.after_of_ok gives
          have keys := (openEntry_atEntry entry (gateway.entry entry).params gateway made).keys
          rw [after] at opens fresh keys ⊢
          exact opened.doneThrough held orderly keys opens
            (fresh handle (Operation.outcome_of_ok gives))
      · rcases openEntry_of_unmade entry gateway with ⟨fault, fails⟩
        rw [entry_of_not_mem_keys made, fails] at reached
        rw [Operation.after_of_error reached]
        exact .refl orderly

/-! ## Using a handle that an entry holds -/

/-- A handle was used by the entry that holds it: nothing else changed. -/
structure Served (tracker : Scope) (entry : Nat) (handle : Handle) (before after : Gateway α) :
    Prop where
  holds : after.Holds entry handle
  unhooked : (after.entry entry).hooks = []
  others : forall other, other ≠ entry -> after.entry other = before.entry other
  keys : after.entries.keys = before.entries.keys
  handleCount : after.handleCount = before.handleCount
  levels : forall id, id ≠ handle.id -> after.level tracker id = before.level tracker id
  driver : before.driver.Confined handle.connection after.driver

/-- An entry without hooks that holds a handle does nothing but use it. -/
def Serves (tracker : Scope) (entry : Nat) (handle : Handle) (before after : Gateway α) : Prop :=
  before.Holds entry handle -> (before.entry entry).hooks = [] ->
    Served tracker entry handle before after

instance (tracker : Scope) (entry : Nat) (handle : Handle) :
    IsPreorder (Gateway α) (Serves tracker entry handle) where
  refl gateway holds unhooked :=
    ⟨holds, unhooked, fun _ _ => rfl, rfl, rfl, fun _ _ => rfl,
      refl_of (Native.Driver.Confined _) gateway.driver⟩
  trans _ _ _ first second holds unhooked := by
    have earlier := first holds unhooked
    have later := second earlier.holds earlier.unhooked
    exact ⟨later.holds, later.unhooked,
      fun other different => (later.others other different).trans (earlier.others other different),
      later.keys.trans earlier.keys, later.handleCount.trans earlier.handleCount,
      fun id different => (later.levels id different).trans (earlier.levels id different),
      trans_of (Native.Driver.Confined _) earlier.driver later.driver⟩

section Serving

variable {tracker : Scope} {entry : Nat} {handle : Handle} {before after : Gateway α}
  (served : Served tracker entry handle before after) (holds : before.Holds entry handle)
include served holds

/-- A handle is the same but for its row, so all that is asked of it is asked of the earlier one. -/
theorem Served.earlier {holder : Nat} {current : Handle}
    (found : (after.entry holder).handle = some current) :
    exists old, (before.entry holder).handle = some old ∧ current.id = old.id ∧
      current.connection = old.connection ∧ current.adapter = old.adapter := by
  by_cases own : holder = entry
  · rcases holds with ⟨row, held⟩
    rcases served.holds with ⟨laterRow, laterHeld⟩
    rw [own, laterHeld] at found
    cases found
    exact ⟨{ handle with lastRowId := row }, own ▸ held, rfl, rfl, rfl⟩
  · rw [served.others holder own] at found
    exact ⟨current, found, rfl, rfl, rfl⟩

variable (orderly : before.Orderly tracker)
include orderly

theorem Served.orderly_after : after.Orderly tracker where
  attached id active := by
    rcases holds with ⟨row, held⟩
    by_cases own : id = handle.id
    · rcases served.holds with ⟨laterRow, laterHeld⟩
      exact ⟨entry, _, laterHeld, own.symm⟩
    · rw [served.levels id own] at active
      rcases orderly.attached id active with ⟨holder, current, found, same⟩
      have different : holder ≠ entry := by
        rintro rfl
        rw [held] at found
        cases found
        exact own same.symm
      exact ⟨holder, current, by rw [served.others holder different, found], same⟩
  distinct holder other current otherCurrent found otherFound shared := by
    rcases served.earlier holds found with ⟨old, oldFound, id, connection, -⟩
    obtain ⟨otherOld, otherOldFound, otherId, otherConnection, -⟩ := served.earlier holds otherFound
    rw [id, otherId, connection, otherConnection] at shared
    exact orderly.distinct holder other old otherOld oldFound otherOldFound shared
  counted holder current found := by
    rcases served.earlier holds found with ⟨old, oldFound, id, -, -⟩
    rw [id, served.handleCount]
    exact orderly.counted holder old oldFound
  opened holder current found := by
    rcases served.earlier holds found with ⟨old, oldFound, -, connection, -⟩
    rw [connection, served.driver.connections]
    exact orderly.opened holder old oldFound
  numbered := by
    rw [served.keys]
    exact orderly.numbered
  unhooked holder := by
    by_cases own : holder = entry
    · rw [own]
      exact served.unhooked
    · rw [served.others holder own]
      exact orderly.unhooked holder

theorem Served.doneThrough : DoneThrough tracker entry before after := by
  rcases id holds with ⟨row, held⟩
  exact {
    orderly := served.orderly_after holds orderly
    handleCount := Nat.le_of_eq served.handleCount.symm
    connections := Nat.le_of_eq served.driver.connections.symm
    handles := fun holder current found => Or.inl (served.earlier holds found)
    retired := fun number _ unheld => served.driver.recordOf (unheld entry _ held).symm
    others := fun other different => by rw [served.others other different]
    levels := fun other current different found =>
      served.levels current.id fun same =>
        different (orderly.distinct other entry current _ found held (Or.inl same)) }

end Serving

/-! ## Disconnecting an entry -/

theorem dropped_entry (gateway : Gateway α) (entry : Nat) (handle : Handle)
    (tracker : Option Scope) (other : Nat) :
    (gateway.dropped entry handle tracker).entry other =
      if other = entry then { gateway.entry entry with handle := none }
      else gateway.entry other := by
  cases tracker <;> exact entry_setEntry gateway entry other _

theorem dropped_level (gateway : Gateway α) (entry : Nat) (handle : Handle) (tracker : Scope)
    (id : Nat) :
    (gateway.dropped entry handle (some tracker)).level tracker id =
      if id = handle.id then .idle else gateway.level tracker id := by
  unfold dropped level
  rw [tracker_setTracker, if_pos rfl, Transaction.Tracker.level_forget]
  rfl

/-- A handle was dropped and its connection closed, or an attempt was made to close it. -/
structure Closed (tracker : Scope) (entry : Nat) (handle : Handle) (before after : Gateway α) :
    Prop where
  entry : forall other, after.entry other =
    if other = entry then { before.entry entry with handle := none } else before.entry other
  keys : after.entries.keys = before.entries.keys
  handleCount : after.handleCount = before.handleCount
  level : forall id, after.level tracker id =
    if id = handle.id then .idle else before.level tracker id
  driver : after.driver = (Native.close handle.connection).after before.driver

/-- What disconnecting a connected entry comes to, whether or not the driver closes the
connection. -/
theorem disconnect_closed {entry : Nat} {handle : Handle} {gateway : Gateway α}
    (held : (gateway.entry entry).handle = some handle) (tracker : Scope) :
    Closed tracker entry handle gateway ((disconnect entry (some tracker)).after gateway) := by
  have untouched := disconnect_untouched held (some tracker)
  have driver := disconnect_closes entry (some tracker) gateway
  simp only [held] at driver
  refine ⟨fun other => ?_, ?_, ?_, fun id => ?_, driver⟩
  · rw [untouched.entry]
    exact dropped_entry gateway entry handle (some tracker) other
  · rw [untouched.entries]
    exact (Dictionary.keys_put _ _ _).trans (if_pos (mem_keys_of_held held))
  · rw [untouched.handleCount]
    rfl
  · unfold level
    rw [untouched.tracker]
    exact dropped_level gateway entry handle tracker id

section Closing

variable {tracker : Scope} {entry : Nat} {handle : Handle} {before after : Gateway α}
  (closed : Closed tracker entry handle before after)
include closed

theorem Closed.others (other : Nat) (different : other ≠ entry) :
    after.entry other = before.entry other := by
  rw [closed.entry, if_neg different]

/-- No handle is new. -/
theorem Closed.kept {holder : Nat} {current : Handle}
    (found : (after.entry holder).handle = some current) :
    (before.entry holder).handle = some current := by
  by_cases here : holder = entry
  · rw [closed.entry, if_pos here] at found
    cases found
  · exact closed.others holder here ▸ found

theorem Closed.confined : before.driver.Confined handle.connection after.driver := by
  rw [closed.driver]
  exact Native.close_confined before.driver

variable (held : (before.entry entry).handle = some handle) (orderly : before.Orderly tracker)
include held orderly

theorem Closed.orderly_after : after.Orderly tracker where
  attached id active := by
    rw [closed.level] at active
    split at active
    next => exact absurd rfl active
    next elsewhere =>
      rcases orderly.attached id active with ⟨holder, current, found, same⟩
      have different : holder ≠ entry := by
        rintro rfl
        rw [held] at found
        cases found
        exact elsewhere same.symm
      exact ⟨holder, current, by rw [closed.others holder different, found], same⟩
  distinct holder other current otherCurrent found otherFound :=
    orderly.distinct holder other current otherCurrent (closed.kept found) (closed.kept otherFound)
  counted holder current found := by
    rw [closed.handleCount]
    exact orderly.counted holder current (closed.kept found)
  opened holder current found := by
    rw [closed.confined.connections]
    exact orderly.opened holder current (closed.kept found)
  numbered := by
    rw [closed.keys]
    exact orderly.numbered
  unhooked holder := by
    rw [closed.entry]
    split
    · exact orderly.unhooked entry
    · exact orderly.unhooked holder

theorem Closed.doneThrough : DoneThrough tracker entry before after where
  orderly := closed.orderly_after held orderly
  handleCount := Nat.le_of_eq closed.handleCount.symm
  connections := Nat.le_of_eq closed.confined.connections.symm
  handles holder current found := Or.inl ⟨current, closed.kept found, rfl, rfl, rfl⟩
  retired number _ unheld := closed.confined.recordOf (unheld entry handle held).symm
  others other different := by rw [closed.others other different]
  levels other current different found := by
    rw [closed.level, if_neg]
    exact fun same =>
      different (orderly.distinct other entry current handle found held (Or.inl same))

end Closing

theorem disconnect_through (tracker : Scope) (entry : Nat) :
    (disconnect entry (some tracker) : Operation (Gateway α) Unit).Respects
      (Through tracker entry) := by
  intro gateway orderly
  cases held : (gateway.entry entry).handle with
  | none =>
      rw [Operation.after, disconnect_eq, held]
      exact .refl orderly
  | some handle => exact (disconnect_closed held tracker).doneThrough held orderly

end Gateway
end SqlGateway
