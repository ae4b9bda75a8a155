import SqlGateway.Proofs.Config.Fingerprint
import SqlGateway.Proofs.Database.Request
import SqlGateway.Proofs.Gateway.Parameters

namespace SqlGateway

/-!
# Connections are shared as the configuration says

A project changes its configuration, asks one registry for databases of the configuration in
force, connects and disconnects them, in any order.  A database keeps the parameters that the
configuration gave when the database was made, whatever is configured later.  Two databases use one
connection entry if and only if their configurations set the same properties of the connection.

The argument is about the registry alone: it maps the fingerprints of configurations to entries, no
two fingerprints to one entry, and each entry has the parameters of a configuration with that
fingerprint.  What a fingerprint says of a configuration is known from its characters.

The built-in configuration is that of the environment, which does not change here.  It may be in
force before a configuration is set and whenever none is.
-/

/-! ## What a registry knows -/

/-- A configuration that may be in force: a plain one, or that of the environment. -/
def Config.MayApply (environment : List (String × String)) (config : Config) : Prop :=
  config.IsPlain ∨ config = Config.ofEnvironment environment

namespace Config

variable {environment : List (String × String)} {config other : Config}

theorem MayApply.distinct (applies : config.MayApply environment) :
    config.properties.keys.Nodup := by
  rcases applies with plain | rfl
  · exact plain.distinct
  · exact Dictionary.nodup_keys_ofList _

/-- One fingerprint is that of configurations of one connection. -/
theorem MayApply.fingerprint_eq_iff (applies : config.MayApply environment)
    (otherApplies : other.MayApply environment) {fingerprint otherFingerprint : String}
    (given : config.fingerprint = .ok fingerprint)
    (otherGiven : other.fingerprint = .ok otherFingerprint) :
    fingerprint = otherFingerprint ↔
      config.builtin = other.builtin ∧ config.SameConnection other := by
  have builtin : (ofEnvironment environment).builtin = true := rfl
  rcases applies with plain | rfl
  · rcases otherApplies with otherPlain | rfl
    · rw [Config.fingerprint_eq_iff plain otherPlain given otherGiven, plain.external,
        otherPlain.external]
      exact (and_iff_right rfl).symm
    · cases otherGiven
      rw [plain.external, builtin]
      exact iff_of_false (fingerprint_ne_empty plain given) (by simp)
  · rcases otherApplies with otherPlain | rfl
    · cases given
      rw [otherPlain.external, builtin]
      exact iff_of_false (fingerprint_ne_empty otherPlain otherGiven).symm (by simp)
    · cases given
      cases otherGiven
      exact iff_of_true rfl ⟨rfl, fun _ _ => rfl⟩

end Config

namespace Gateway

variable {α : Type}

/-- A registry has one entry for each fingerprint that it knows. -/
structure RegistersBy (registry : Scope) (environment : List (String × String))
    (gateway : Gateway α) : Prop where
  numbered : gateway.entries.keys = List.range gateway.entries.size
  surrounded : gateway.environment = environment
  applies : gateway.currentConfig.MayApply environment
  /-- An entry has the parameters of a configuration with its fingerprint. -/
  known : forall fingerprint id, (gateway.registry registry).get? fingerprint = some id ->
    id < gateway.entries.size ∧ exists config, Config.MayApply environment config ∧
      config.fingerprint = .ok fingerprint ∧
      ConnectionParams.ofConfig config = .ok (gateway.entry id).params
  /-- No entry has two fingerprints. -/
  apart : forall fingerprint other id,
    (gateway.registry registry).get? fingerprint = some id ->
    (gateway.registry registry).get? other = some id -> fingerprint = other

namespace RegistersBy

variable {registry : Scope} {environment : List (String × String)} {gateway after : Gateway α}
  (registers : gateway.RegistersBy registry environment)

include registers in
theorem mem_keys {fingerprint : String} {id : Nat}
    (found : (gateway.registry registry).get? fingerprint = some id) :
    id ∈ gateway.entries.keys := by
  rw [registers.numbered]
  exact List.mem_range.mpr (registers.known fingerprint id found).1

include registers in
theorem unchanged (unchanged : Unchanged gateway after) :
    after.RegistersBy registry environment ∧
      after.registry registry = gateway.registry registry := by
  have size : after.entries.size = gateway.entries.size := by
    have keys := congrArg List.length unchanged.keys
    simpa [Dictionary.keys, Dictionary.size] using keys
  have same : after.registry registry = gateway.registry registry := by
    unfold Gateway.registry
    rw [unchanged.registries]
  refine ⟨⟨?_, unchanged.environment.trans registers.surrounded, ?_, ?_, ?_⟩, same⟩
  · rw [unchanged.keys, size]
    exact registers.numbered
  · unfold Gateway.currentConfig
    rw [unchanged.config, unchanged.environment]
    exact registers.applies
  · intro fingerprint id found
    rw [same] at found
    rw [size, unchanged.params]
    exact registers.known fingerprint id found
  · rw [same]
    exact registers.apart

include registers in
theorem setConfig (config : Option Config)
    (plain : forall chosen, config = some chosen -> chosen.IsPlain) :
    ((Gateway.setConfig config).after gateway).RegistersBy registry environment where
  numbered := registers.numbered
  surrounded := registers.surrounded
  applies := by
    change (config.getD (Config.ofEnvironment gateway.environment)).MayApply environment
    cases config with
    | none => exact .inr (congrArg Config.ofEnvironment registers.surrounded)
    | some chosen => exact .inl (plain chosen rfl)
  known := registers.known
  apart := registers.apart

include registers in
theorem size_joined (fingerprint : String) (params : ConnectionParams) :
    (Database.joined gateway registry fingerprint params).entries.keys =
        List.range (gateway.entries.size + 1) ∧
      (Database.joined gateway registry fingerprint params).entries.size =
        gateway.entries.size + 1 := by
  have fresh : gateway.entries.size ∉ gateway.entries.keys := by
    rw [registers.numbered, List.mem_range]
    exact Nat.lt_irrefl _
  have keys : (Database.joined gateway registry fingerprint params).entries.keys =
      gateway.entries.keys ++ [gateway.entries.size] :=
    (Dictionary.keys_put _ _ _).trans (if_neg fresh)
  have size := congrArg List.length keys
  rw [registers.numbered, ← List.range_succ] at keys
  exact ⟨keys, by simpa [Dictionary.keys, Dictionary.size] using size⟩

include registers in
/-- A new entry is registered for the configuration in force. -/
theorem joined {fingerprint : String} {params : ConnectionParams}
    (given : gateway.currentConfig.fingerprint = .ok fingerprint)
    (proper : ConnectionParams.ofConfig gateway.currentConfig = .ok params) :
    (Database.joined gateway registry fingerprint params).RegistersBy registry environment := by
  rcases registers.size_joined fingerprint params with ⟨keys, size⟩
  have entry (id : Nat) : (Database.joined gateway registry fingerprint params).entry id =
      if id = gateway.entries.size then .ofParams params true else gateway.entry id :=
    entry_setEntry gateway gateway.entries.size id _
  have old {known : String} {id : Nat}
      (found : (gateway.registry registry).get? known = some id) : id ≠ gateway.entries.size :=
    Nat.ne_of_lt (registers.known known id found).1
  refine ⟨by rw [keys, size], registers.surrounded, registers.applies, ?_, ?_⟩
  · intro known id found
    rw [size, entry]
    rcases Database.joined_cases found with ⟨rfl, rfl⟩ | earlier
    · rw [if_pos rfl]
      exact ⟨Nat.lt_succ_self _, gateway.currentConfig, registers.applies, given, proper⟩
    · rcases registers.known known id earlier with ⟨made, config⟩
      rw [if_neg (old earlier)]
      exact ⟨Nat.lt_succ_of_lt made, config⟩
  · intro known other id found otherFound
    rcases Database.joined_cases found with ⟨rfl, rfl⟩ | earlier <;>
      rcases Database.joined_cases otherFound with ⟨rfl, same⟩ | otherEarlier
    · rfl
    · exact absurd rfl (old otherEarlier)
    · exact absurd same (old earlier)
    · exact registers.apart known other id earlier otherEarlier

/-! ### What follows -/

include registers in
/-- The parameters of an entry are those of every configuration with its fingerprint. -/
theorem params_of_registered {config : Config} (applies : config.MayApply environment)
    {fingerprint : String} (given : config.fingerprint = .ok fingerprint) {id : Nat}
    (found : (gateway.registry registry).get? fingerprint = some id) :
    exists params, ConnectionParams.ofConfig config = .ok params ∧
      (gateway.entry id).params.Matches params := by
  obtain ⟨-, original, originalApplies, originalGiven, proper⟩ :=
    registers.known fingerprint id found
  rcases (originalApplies.fingerprint_eq_iff applies originalGiven given).mp rfl with ⟨-, same⟩
  exact ConnectionParams.ofConfig_matches originalApplies.distinct applies.distinct same proper

include registers in
/-- Two configurations have one entry if and only if they are configurations of one connection. -/
theorem entry_eq_iff {config other : Config} (applies : config.MayApply environment)
    (otherApplies : other.MayApply environment) {fingerprint otherFingerprint : String}
    (given : config.fingerprint = .ok fingerprint)
    (otherGiven : other.fingerprint = .ok otherFingerprint) {id otherId : Nat}
    (found : (gateway.registry registry).get? fingerprint = some id)
    (otherFound : (gateway.registry registry).get? otherFingerprint = some otherId) :
    id = otherId ↔ config.builtin = other.builtin ∧ config.SameConnection other := by
  rw [← applies.fingerprint_eq_iff otherApplies given otherGiven]
  constructor
  · rintro rfl
    exact registers.apart fingerprint otherFingerprint id found otherFound
  · rintro rfl
    exact Option.some.inj (found.symm.trans otherFound)

end RegistersBy

end Gateway

/-! ## Projects -/

/-- A configuration that a project may set. -/
abbrev PlainConfig : Type := { config : Config // config.IsPlain }

/-- A database with the configuration that was in force when it was made. -/
structure ConfiguredDatabase where
  config : Config
  database : Database

/-- A project: the state of the library and the databases made so far. -/
structure Project (α : Type) where
  gateway : Gateway α
  made : List ConfiguredDatabase

/-- What a project does.  A failure is noticed, and the project goes on. -/
inductive Errand where
  /-- Set a configuration, or none to use that of the environment. -/
  | configure (config : Option PlainConfig)
  /-- Ask for a database that shares the connection of its configuration. -/
  | make (explicit : Bool) (tracker : Scope)
  | connect (index : Nat)
  | disconnect (index : Nat)

namespace Project

variable {α : Type}

def start (driver : Native.Driver) (environment : List (String × String)) : Project α where
  gateway := { Gateway.ofDriver driver with environment := environment }
  made := []

def use {β : Type} (project : Project α) (operation : Operation (Gateway α) β) : Project α :=
  { project with gateway := operation.after project.gateway }

/-- Use a database that was made, if there is one at the place. -/
def useMade {β : Type} (project : Project α) (index : Nat)
    (operation : Database → Operation (Gateway α) β) : Project α :=
  match project.made[index]? with
  | some made => project.use (operation made.database)
  | none => project

/-- Keep a database with the configuration that is in force. -/
def keep (project : Project α) (outcome : Except Fault Database) : List ConfiguredDatabase :=
  match outcome with
  | .ok database => project.made ++ [⟨project.gateway.currentConfig, database⟩]
  | .error _ => project.made

def run (registry : Scope) (project : Project α) : Errand → Project α
  | .configure config => project.use (Gateway.setConfig (config.map Subtype.val))
  | .make explicit tracker =>
    let request := Database.ofRequest (Database.cachedRequest explicit) registry tracker
    { gateway := request.after project.gateway
      made := project.keep (request.outcome project.gateway) }
  | .connect index => project.useMade index fun database => database.handle
  | .disconnect index => project.useMade index fun database => database.disconnect

def runAll (registry : Scope) (project : Project α) (errands : List Errand) : Project α :=
  errands.foldl (run registry) project

/-- The registry knows the databases that were made, each by the fingerprint of its
configuration. -/
structure Faithful (registry : Scope) (environment : List (String × String))
    (project : Project α) : Prop where
  registers : project.gateway.RegistersBy registry environment
  made : forall made, made ∈ project.made -> made.config.MayApply environment ∧
    exists fingerprint, made.config.fingerprint = .ok fingerprint ∧
      (project.gateway.registry registry).get? fingerprint = some made.database.entry

variable {registry : Scope} {environment : List (String × String)}

theorem faithful_start (registry : Scope) (driver : Native.Driver)
    (environment : List (String × String)) :
    (start driver environment : Project α).Faithful registry environment where
  registers := {
    numbered := rfl
    surrounded := rfl
    applies := .inr rfl
    known _ _ found := nomatch found
    apart _ _ _ found := nomatch found }
  made _ member := nomatch member

/-- What is done with the connection of a database that was made. -/
theorem Faithful.useMade {β : Type} {project : Project α}
    (faithful : project.Faithful registry environment) (index : Nat)
    {operation : Database → Operation (Gateway α) β}
    (atEntry : forall database, (operation database).Respects (Gateway.AtEntry database.entry)) :
    (project.useMade index operation).Faithful registry environment := by
  unfold Project.useMade
  cases found : project.made[index]? with
  | none => exact faithful
  | some made =>
      rcases faithful.made made (List.mem_of_getElem? found) with ⟨-, fingerprint, -, registered⟩
      have unchanged := atEntry made.database project.gateway
        (faithful.registers.mem_keys registered)
      rcases faithful.registers.unchanged unchanged with ⟨registers, same⟩
      refine ⟨registers, fun other member => ?_⟩
      rcases faithful.made other member with ⟨applies, known, given, otherRegistered⟩
      exact ⟨applies, known, given, same ▸ otherRegistered⟩

/-- A request for a shared entry decides what asking for a database does. -/
theorem run_make (project : Project α) (explicit : Bool) (tracker : Scope) :
    project.run registry (.make explicit tracker) =
      match Database.sharedEntry registry project.gateway with
      | .ok id after =>
        ⟨after, project.made ++ [⟨project.gateway.currentConfig, id, registry, tracker⟩]⟩
      | .error _ after => ⟨after, project.made⟩ := by
  unfold Project.run
  simp only [Database.ofRequest_cached, Operation.after_bind_pure, Operation.outcome_bind]
  unfold Operation.after Operation.outcome
  cases Database.sharedEntry registry project.gateway <;> rfl

theorem Faithful.run {project : Project α} (faithful : project.Faithful registry environment)
    (errand : Errand) : (project.run registry errand).Faithful registry environment := by
  cases errand with
  | configure config =>
      refine ⟨faithful.registers.setConfig _ ?_, faithful.made⟩
      intro chosen same
      cases config with
      | none => cases same
      | some config => exact Option.some.inj same ▸ config.property
  | connect index => exact faithful.useMade index fun database => Gateway.connect_atEntry _
  | disconnect index =>
      exact faithful.useMade index fun database => Gateway.disconnect_atEntry _ _
  | make explicit tracker =>
      rw [run_make]
      have shared := Database.sharedEntry_shared registry project.gateway
      generalize Database.sharedEntry registry project.gateway = result at shared ⊢
      cases shared with
      | unwritable _ => exact faithful
      | improper _ _ _ => exact faithful
      | found given known =>
          refine ⟨faithful.registers, fun made member => ?_⟩
          rcases List.mem_append.mp member with old | new
          · exact faithful.made made old
          · rcases List.mem_singleton.mp new with rfl
            exact ⟨faithful.registers.applies, _, given, known⟩
      | made given absent proper =>
          refine ⟨faithful.registers.joined given proper, fun made member => ?_⟩
          dsimp only
          rw [Database.registry_joined]
          rcases List.mem_append.mp member with old | new
          · rcases faithful.made made old with ⟨applies, fingerprint, known, found⟩
            refine ⟨applies, fingerprint, known, ?_⟩
            rw [Dictionary.get?_put, if_neg, found]
            rintro rfl
            exact absurd (absent.symm.trans found) (by simp)
          · rcases List.mem_singleton.mp new with rfl
            refine ⟨faithful.registers.applies, _, given, ?_⟩
            rw [Dictionary.get?_put, if_pos rfl]

theorem Faithful.runAll (errands : List Errand) {project : Project α}
    (faithful : project.Faithful registry environment) :
    (project.runAll registry errands).Faithful registry environment := by
  induction errands generalizing project with
  | nil => exact faithful
  | cons errand rest inductionHypothesis => exact inductionHypothesis (faithful.run errand)

/-! ## The result -/

/-- A database is given if and only if the configuration in force can be written and gives
parameters. -/
theorem Faithful.given_iff {project : Project α} (faithful : project.Faithful registry environment)
    (explicit : Bool) (tracker : Scope) :
    (exists database, (Database.ofRequest (Database.cachedRequest explicit) registry
        tracker).outcome project.gateway = .ok database) ↔
      (exists fingerprint, project.gateway.currentConfig.fingerprint = .ok fingerprint) ∧
        exists params, ConnectionParams.ofConfig project.gateway.currentConfig = .ok params := by
  have shared := Database.sharedEntry_shared registry project.gateway
  rw [Database.ofRequest_cached, Operation.outcome_bind]
  unfold Operation.outcome
  generalize Database.sharedEntry registry project.gateway = result at shared ⊢
  cases shared with
  | unwritable fails => simp [fails]
  | improper _ _ fails => simp [fails]
  | found given known =>
      obtain ⟨params, proper, -⟩ :=
        faithful.registers.params_of_registered faithful.registers.applies given known
      exact iff_of_true ⟨_, rfl⟩ ⟨⟨_, given⟩, params, proper⟩
  | made given _ proper => exact iff_of_true ⟨_, rfl⟩ ⟨⟨_, given⟩, _, proper⟩

/-- Databases are made and shared as the configuration says. -/
structure Follows (registry : Scope) (project : Project α) : Prop where
  /-- A database has the parameters of the configuration that was in force when it was made. -/
  params : forall made, made ∈ project.made ->
    exists params, ConnectionParams.ofConfig made.config = .ok params ∧
      (project.gateway.entry made.database.entry).params.Matches params
  /-- Two databases use one entry if and only if their configurations describe one connection. -/
  shared : forall first second, first ∈ project.made -> second ∈ project.made ->
    (first.database.entry = second.database.entry ↔
      first.config.builtin = second.config.builtin ∧ first.config.SameConnection second.config)
  /-- Another database is given whenever the configuration in force allows it. -/
  given : forall explicit tracker,
    (exists database, (Database.ofRequest (Database.cachedRequest explicit) registry
        tracker).outcome project.gateway = .ok database) ↔
      (exists fingerprint, project.gateway.currentConfig.fingerprint = .ok fingerprint) ∧
        exists params, ConnectionParams.ofConfig project.gateway.currentConfig = .ok params
  /-- A request that fails changes nothing, the registries included. -/
  refused : forall request scope tracker fault,
    (Database.ofRequest request scope tracker).outcome project.gateway = .error fault ->
      (Database.ofRequest request scope tracker).after project.gateway = project.gateway

theorem Faithful.follows {project : Project α} (faithful : project.Faithful registry environment) :
    project.Follows registry where
  params made member := by
    rcases faithful.made made member with ⟨applies, fingerprint, given, found⟩
    exact faithful.registers.params_of_registered applies given found
  shared first second firstMember secondMember := by
    rcases faithful.made first firstMember with ⟨applies, fingerprint, given, found⟩
    rcases faithful.made second secondMember with ⟨otherApplies, other, otherGiven, otherFound⟩
    exact faithful.registers.entry_eq_iff applies otherApplies given otherGiven found otherFound
  given := faithful.given_iff
  refused request scope tracker fault :=
    Database.ofRequest_failsIdle request scope tracker project.gateway fault

/-- Fingerprints are equal if and only if the properties of the connection are, and whatever a
project has done, its databases are made and shared as its configurations say. -/
theorem runAll_follows (driver : Native.Driver) (environment : List (String × String))
    (registry : Scope) (errands : List Errand) :
    (forall (config other : PlainConfig) (fingerprint otherFingerprint : String),
      config.val.fingerprint = .ok fingerprint -> other.val.fingerprint = .ok otherFingerprint ->
        (fingerprint = otherFingerprint ↔ config.val.SameConnection other.val)) ∧
    (forall config : PlainConfig,
      (exists fingerprint, config.val.fingerprint = .ok fingerprint) ↔
        forall name value, Config.isConnectionName name = true ->
          config.val.properties.get? name = some value -> Json.IsWritable value) ∧
    ((start driver environment : Project α).runAll registry errands).Follows registry :=
  ⟨fun config other _ _ => Config.fingerprint_eq_iff config.property other.property,
    fun config => Config.exists_fingerprint_iff config.property,
    ((faithful_start registry driver environment).runAll errands).follows⟩

end Project
end SqlGateway
