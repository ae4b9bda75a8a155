import SqlGateway.Database
import SqlGateway.Proofs.Operation

namespace SqlGateway

/-!
# Requests for databases

A request for a database of the configuration in force looks in a registry for the entry of the
configuration.  It finds the entry, makes one and registers it, or fails; the relation `Shared`
lists these ways.  Whatever is requested, a request that fails has changed nothing.
-/

namespace Database

variable {α : Type}

open Gateway

/-! ## Making databases of the configuration in force -/

/-- A request for a database of the configuration in force that shares its connection, whether
or not it says so. -/
def cachedRequest (explicit : Bool) : Request where
  useCache := if explicit then .bool true else .null

theorem ofRequest_cached (explicit : Bool) (registry tracker : Scope) :
    (ofRequest (cachedRequest explicit) registry tracker : Operation (Gateway α) Database) =
      sharedEntry registry >>= fun entry => pure ⟨entry, registry, tracker⟩ := by
  cases explicit <;> rfl

/-- The state with a new entry, which a registry has under a fingerprint. -/
def joined (gateway : Gateway α) (registry : Scope) (fingerprint : String)
    (params : ConnectionParams) : Gateway α :=
  (gateway.setEntry gateway.entries.size (.ofParams params true)).setRegistry registry
    ((gateway.registry registry).put fingerprint gateway.entries.size)

theorem registry_joined (gateway : Gateway α) (registry : Scope) (fingerprint : String)
    (params : ConnectionParams) :
    (joined gateway registry fingerprint params).registry registry =
      (gateway.registry registry).put fingerprint gateway.entries.size := by
  unfold joined Gateway.setRegistry
  generalize (gateway.registry registry).put fingerprint gateway.entries.size = later
  unfold Gateway.registry
  rw [Dictionary.get?_put, if_pos rfl]
  rfl

/-- Under a fingerprint there is the new entry, or what was there before. -/
theorem joined_cases {gateway : Gateway α} {registry : Scope} {fingerprint known : String}
    {params : ConnectionParams} {id : Nat}
    (found : ((joined gateway registry fingerprint params).registry registry).get? known =
      some id) :
    known = fingerprint ∧ id = gateway.entries.size ∨
      (gateway.registry registry).get? known = some id := by
  rw [registry_joined, Dictionary.get?_put] at found
  split at found
  next same => exact .inl ⟨same, (Option.some.inj found).symm⟩
  next => exact .inr found

/-- The ways in which a request for a shared entry ends. -/
inductive Shared (registry : Scope) (gateway : Gateway α) :
    EStateM.Result Fault (Gateway α) Nat -> Prop
  /-- The configuration has no fingerprint. -/
  | unwritable {fault : Fault} (fails : gateway.currentConfig.fingerprint = .error fault) :
      Shared registry gateway (.error fault gateway)
  /-- The registry has no entry, and the configuration gives no parameters for one. -/
  | improper {fingerprint : String} {fault : Fault}
      (given : gateway.currentConfig.fingerprint = .ok fingerprint)
      (absent : (gateway.registry registry).get? fingerprint = none)
      (fails : ConnectionParams.ofConfig gateway.currentConfig = .error fault) :
      Shared registry gateway (.error fault gateway)
  /-- The registry has the entry. -/
  | found {fingerprint : String} {id : Nat}
      (given : gateway.currentConfig.fingerprint = .ok fingerprint)
      (known : (gateway.registry registry).get? fingerprint = some id) :
      Shared registry gateway (.ok id gateway)
  /-- The entry is made. -/
  | made {fingerprint : String} {params : ConnectionParams}
      (given : gateway.currentConfig.fingerprint = .ok fingerprint)
      (absent : (gateway.registry registry).get? fingerprint = none)
      (proper : ConnectionParams.ofConfig gateway.currentConfig = .ok params) :
      Shared registry gateway
        (.ok gateway.entries.size (joined gateway registry fingerprint params))

/-- Make an entry for the configuration in force, and put it under a fingerprint. -/
def registerConfigured (registry : Scope) (fingerprint : String) : Operation (Gateway α) Nat := do
  let id ← configuredEntry true
  register registry fingerprint id
  return id

/-- The entry under a fingerprint, made if there is none. -/
def entryUnder (registry : Scope) (fingerprint : String) : Operation (Gateway α) Nat := do
  match ← registered? registry fingerprint with
  | some id => return id
  | none => registerConfigured registry fingerprint

theorem sharedEntry_eq (registry : Scope) (gateway : Gateway α) :
    sharedEntry registry gateway =
      (Operation.ofExcept gateway.currentConfig.fingerprint >>= entryUnder registry) gateway :=
  rfl

theorem configuredEntry_eq (nestable : Bool) (gateway : Gateway α) :
    configuredEntry nestable gateway =
      (Operation.ofExcept (ConnectionParams.ofConfig gateway.currentConfig) >>= fun params =>
        addEntry (.ofParams params nestable)) gateway :=
  rfl

theorem sharedEntry_shared (registry : Scope) (gateway : Gateway α) :
    Shared registry gateway (sharedEntry registry gateway) := by
  rw [sharedEntry_eq]
  cases given : gateway.currentConfig.fingerprint with
  | error fault => exact .unwritable given
  | ok fingerprint =>
      have look : entryUnder registry fingerprint gateway =
          (match (gateway.registry registry).get? fingerprint with
            | some id => pure id
            | none => registerConfigured registry fingerprint :
              Operation (Gateway α) Nat) gateway :=
        rfl
      refine (congrArg (Shared registry gateway) look).mpr ?_
      cases known : (gateway.registry registry).get? fingerprint with
      | some id => exact .found given known
      | none =>
          have make := configuredEntry_eq true gateway
          cases proper : ConnectionParams.ofConfig gateway.currentConfig with
          | error fault =>
              rw [proper] at make
              exact (congrArg (Shared registry gateway) (Operation.bind_of_error make _)).mpr
                (.improper given known proper)
          | ok params =>
              rw [proper] at make
              exact (congrArg (Shared registry gateway) (Operation.bind_of_ok make _)).mpr
                (.made given known proper)

/-! ## Requests that fail -/

/-- An operation that fails has done nothing. -/
def FailsIdle {β : Type} (operation : Operation (Gateway α) β) : Prop :=
  forall gateway fault, operation.outcome gateway = .error fault ->
    operation.after gateway = gateway

/-- Only the first part of an operation can fail. -/
theorem FailsIdle.bind {β δ : Type} {first : Operation (Gateway α) β}
    {next : β → Operation (Gateway α) δ} (idle : FailsIdle first)
    (succeeds : forall value gateway, exists result, (next value).outcome gateway = .ok result) :
    FailsIdle (first >>= next) := by
  intro gateway fault fails
  rw [Operation.outcome_bind] at fails
  rw [Operation.after_bind]
  cases given : first.outcome gateway with
  | error reason => exact idle gateway reason given
  | ok value =>
      rcases succeeds value (first.after gateway) with ⟨result, ran⟩
      rw [given] at fails
      exact absurd (fails.symm.trans ran) (by simp)

theorem ofExcept_failsIdle {β : Type} (outcome : Except Fault β) :
    FailsIdle (Operation.ofExcept outcome : Operation (Gateway α) β) :=
  fun gateway _ _ => Operation.after_ofExcept outcome gateway

theorem sharedEntry_failsIdle (registry : Scope) :
    FailsIdle (sharedEntry registry : Operation (Gateway α) Nat) := by
  intro gateway fault fails
  have shared := sharedEntry_shared registry gateway
  unfold Operation.outcome at fails
  unfold Operation.after
  generalize sharedEntry registry gateway = result at shared fails ⊢
  cases shared with
  | unwritable _ => rfl
  | improper _ _ _ => rfl
  | found _ _ => cases fails
  | made _ _ _ => cases fails

/-- A request that fails leaves everything as it was, the registries as well. -/
theorem ofRequest_failsIdle (request : Request) (registry tracker : Scope) :
    FailsIdle (ofRequest request registry tracker : Operation (Gateway α) Database) := by
  have configured : FailsIdle (configuredEntry true : Operation (Gateway α) Nat) := by
    intro gateway
    have given : FailsIdle (Operation.ofExcept (ConnectionParams.ofConfig gateway.currentConfig) >>=
        fun params => addEntry (.ofParams params true) : Operation (Gateway α) Nat) :=
      (ofExcept_failsIdle _).bind fun _ _ => ⟨_, rfl⟩
    exact given gateway
  unfold ofRequest
  cases request.conflict? with
  | some fault => exact fun _ _ _ => rfl
  | none =>
      dsimp only
      cases request.params? with
      | some params =>
          exact (ofExcept_failsIdle params).bind fun _ gateway =>
            ⟨⟨gateway.entries.size, registry, tracker⟩, rfl⟩
      | none =>
          dsimp only
          split
          · exact configured.bind fun _ _ => ⟨_, rfl⟩
          · exact (sharedEntry_failsIdle registry).bind fun _ _ => ⟨_, rfl⟩

end Database

end SqlGateway
