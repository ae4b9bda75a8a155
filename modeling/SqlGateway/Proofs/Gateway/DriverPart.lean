import SqlGateway.Proofs.Operation
import SqlGateway.Session

namespace SqlGateway

/-!
# The driver of a state

The library works on its driver only through adapters.  Compiling, logging and what is kept of
entries are beside it.  So a relation that the work of the adapters respects is one that the
operations on the state respect, read at the driver; a relation is lifted here once, whatever it
says.
-/

variable {α β : Type} {relation : Native.Driver → Native.Driver → Prop}

/-- What happened to the driver of a state. -/
def Database.OfDriver (relation : Native.Driver → Native.Driver → Prop)
    (before after : Gateway α) : Prop :=
  relation before.driver after.driver

open Database (OfDriver)

theorem Gateway.onDriver_ofDriver {operation : Operation Native.Driver β}
    (respects : operation.Respects relation) :
    (onDriver operation : Operation (Gateway α) β).Respects (OfDriver relation) :=
  .within respects fun _ _ related => related

theorem Gateway.compile_driver (template : String) (dialect : Dialect)
    (style : Option ParameterStyle) (gateway : Gateway α) :
    ((compile template dialect style).after gateway).driver = gateway.driver := by
  simp only [Operation.after, compile]
  rcases gateway.cache.compile template dialect style with ⟨outcome, cache⟩
  cases outcome <;> rfl

variable [IsPreorder Native.Driver relation]

instance : IsPreorder (Gateway α) (OfDriver relation) where
  refl gateway := refl_of relation gateway.driver
  trans _ _ _ first second := trans_of relation first second

namespace Gateway

/-- A change beside the driver. -/
theorem modify_ofDriver {change : Gateway α → Gateway α}
    (same : forall gateway, (change gateway).driver = gateway.driver) :
    (modify change : Operation (Gateway α) Unit).Respects (OfDriver relation) := by
  refine .modify fun gateway => ?_
  rw [OfDriver, same]
  exact refl_of relation gateway.driver

theorem write_ofDriver (level : Logging.Level) (part message : String)
    (fields : Option (List (String × Value))) :
    (write level part message fields : Operation (Gateway α) Unit).Respects (OfDriver relation) :=
  modify_ofDriver fun _ => rfl

theorem entryAt_ofDriver (id : Nat) :
    (entryAt id : Operation (Gateway α) (Entry α)).Respects (OfDriver relation) :=
  .bind .get fun _ => .pure _

theorem compile_ofDriver (template : String) (dialect : Dialect) (style : Option ParameterStyle) :
    (compile template dialect style : Operation (Gateway α) ParsedQuery).Respects
      (OfDriver relation) := by
  intro gateway
  rw [OfDriver, compile_driver]
  exact refl_of relation gateway.driver

/-- Connecting an entry does to the driver what opening a connection does. -/
theorem connect_ofDriver
    (opens : forall (adapter : Adapter) params options,
      (adapter.openConnection params options).Respects relation) (id : Nat) :
    (connect id : Operation (Gateway α) Handle).Respects (OfDriver relation) := by
  have announces (params : ConnectionParams) (handle : Handle) :
      (announceConnected params handle : Operation (Gateway α) Unit).Respects
        (OfDriver relation) := by
    unfold announceConnected
    split
    · exact .pure ()
    · exact write_ofDriver _ _ _ _
  refine .bind (entryAt_ofDriver id) fun entry => ?_
  split
  · exact .pure _
  · refine .bind (.ofExcept _) fun adapter => .bind (.ofExcept _) fun options =>
      .bind .get fun _ => .bind (.ofExcept _) fun _ =>
      .bind (.mapFault _ (onDriver_ofDriver (opens adapter _ options))) fun connection =>
      .bind ?_ fun handle => .bind (announces _ handle) fun _ => .pure handle
    exact fun gateway => refl_of relation gateway.driver

end Gateway

theorem Database.compile_ofDriver (database : Database) (template : String) :
    (database.compile template : Operation (Gateway α) ParsedQuery).Respects
      (OfDriver relation) :=
  .bind (Gateway.entryAt_ofDriver _) fun _ => Gateway.compile_ofDriver _ _ _

end SqlGateway
