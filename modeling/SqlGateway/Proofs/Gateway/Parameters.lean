import SqlGateway.Proofs.Gateway.Steady

namespace SqlGateway

/-!
# Connections come and go, parameters stay

An entry has its parameters from when it is made.  Connecting and disconnecting it makes no entry,
changes the parameters of none, and leaves registries and configuration alone.  This asks for an
entry that was made; connecting another one would make it.
-/

namespace Gateway

variable {α : Type}

/-- Entries keep their parameters, and registries and configuration are what they were. -/
structure Unchanged (before after : Gateway α) : Prop where
  params : forall id, (after.entry id).params = (before.entry id).params
  keys : after.entries.keys = before.entries.keys
  registries : after.registries = before.registries
  config : after.config = before.config
  environment : after.environment = before.environment

/-- What is done with the connection of an entry that was made. -/
def AtEntry (id : Nat) (before after : Gateway α) : Prop :=
  id ∈ before.entries.keys -> Unchanged before after

instance (id : Nat) : IsPreorder (Gateway α) (AtEntry id) where
  refl _ _ := ⟨fun _ => rfl, rfl, rfl, rfl, rfl⟩
  trans _ _ _ first second known := by
    have earlier := first known
    have later := second (earlier.keys ▸ known)
    exact ⟨fun id => (later.params id).trans (earlier.params id), later.keys.trans earlier.keys,
      later.registries.trans earlier.registries, later.config.trans earlier.config,
      later.environment.trans earlier.environment⟩

variable {id : Nat}

theorem onDriver_atEntry {β : Type} (operation : Operation Native.Driver β) :
    (onDriver operation : Operation (Gateway α) β).Respects (AtEntry id) :=
  Operation.Respects.withinIgnored fun _ _ _ => ⟨fun _ => rfl, rfl, rfl, rfl, rfl⟩

theorem write_atEntry (level : Logging.Level) (part message : String)
    (fields : Option (List (String × Value))) :
    (write level part message fields : Operation (Gateway α) Unit).Respects (AtEntry id) :=
  Operation.Respects.modify fun _ _ => ⟨fun _ => rfl, rfl, rfl, rfl, rfl⟩

/-- An entry may get another handle. -/
theorem unchanged_setEntry {gateway : Gateway α} {entry : Entry α}
    (params : entry.params = (gateway.entry id).params) (known : id ∈ gateway.entries.keys) :
    Unchanged gateway (gateway.setEntry id entry) where
  params other := by
    rw [entry_setEntry]
    split
    next same => rw [params, same]
    next => rfl
  keys := (Dictionary.keys_put _ _ _).trans (if_pos known)
  registries := rfl
  config := rfl
  environment := rfl

theorem attach_atEntry (connection : Native.Connection) (adapter : Adapter) :
    (attach id connection adapter : Operation (Gateway α) Handle).Respects (AtEntry id) := by
  intro gateway known
  let counted : Gateway α := { gateway with handleCount := gateway.handleCount + 1 }
  have attached : Unchanged counted (counted.setEntry id { counted.entry id with
      handle := some ⟨gateway.handleCount + 1, connection, adapter, .null⟩ }) :=
    unchanged_setEntry rfl known
  exact ⟨attached.params, attached.keys, attached.registries, attached.config,
    attached.environment⟩

theorem announceConnected_atEntry (params : ConnectionParams) (handle : Handle) :
    (announceConnected params handle : Operation (Gateway α) Unit).Respects (AtEntry id) := by
  unfold announceConnected
  split
  · exact .pure ()
  · exact write_atEntry _ _ _ _

theorem openEntry_atEntry (id : Nat) (params : ConnectionParams) :
    (openEntry id params : Operation (Gateway α) Handle).Respects (AtEntry id) := by
  refine .bind (.ofExcept _) fun _ => ?_
  refine .bind (.ofExcept _) fun _ => ?_
  refine .bind .get fun _ => ?_
  refine .bind (.ofExcept _) fun _ => ?_
  refine .bind (.mapFault _ (onDriver_atEntry _)) fun _ => ?_
  refine .bind (attach_atEntry _ _) fun _ => ?_
  refine .bind (announceConnected_atEntry _ _) fun _ => ?_
  exact .pure _

theorem connect_atEntry (id : Nat) :
    (connect id : Operation (Gateway α) Handle).Respects (AtEntry id) := by
  refine .bind (.bind .get fun _ => .pure _) fun entry => ?_
  split
  · exact .pure _
  · exact openEntry_atEntry id entry.params

theorem disconnect_atEntry (id : Nat) (tracker : Option Scope) :
    (disconnect id tracker : Operation (Gateway α) Unit).Respects (AtEntry id) := by
  refine .bind (.bind .get fun _ => .pure _) fun entry => ?_
  split
  · exact .pure _
  next handle _ =>
    have closes : (closeDropped handle : Operation (Gateway α) Unit).Respects (AtEntry id) :=
      .bind (.mapFault _ (onDriver_atEntry _)) fun _ => write_atEntry _ _ _ _
    refine .bind (.modify fun gateway => unchanged_setEntry rfl) fun _ => ?_
    cases tracker with
    | none => exact closes
    | some scope =>
        exact .bind (.modify fun _ _ => ⟨fun _ => rfl, rfl, rfl, rfl, rfl⟩) fun _ => closes

end Gateway

end SqlGateway
