import SqlGateway.Proofs.Connection.Checked
import SqlGateway.Proofs.Database.Request
import SqlGateway.Proofs.Gateway.Steady

namespace SqlGateway

/-!
# Three ways to describe a connection

A connection is described by a mapping, by the properties of a configuration, or by the arguments
with which a database is made.  Each way has its own idea of what is missing: a mapping and the
arguments may leave a field out or set it to the missing value, a configuration may do either, and
each tells of missing fields in its own order and its own words.

All the same they agree.  The three ways come to the same checks of the same fields, so that all of
them give the same parameters, or all fail with faults of one kind.
-/

theorem Value.eq_null {value : Value} (missing : value.isNull = true) : value = .null := by
  cases value with
  | null => rfl
  | _ => cases missing

/-! ## Fields set one after the other -/

namespace ConnectionFields

/-- The fields that names are given values for.  A missing value counts as not given. -/
def given (pairs : List (String × Value)) : ConnectionFields where
  dbms := (pairs.lookup "dbms").getD .null
  database := (pairs.lookup "database").getD .null
  host := (pairs.lookup "host").getD .null
  port := (pairs.lookup "port").getD .null
  username := (pairs.lookup "username").getD .null
  password := (pairs.lookup "password").getD .null
  options := (pairs.lookup "options").filter fun value => !value.isNull

section Given

variable {pairs : List (String × Value)} {name : String}

theorem given_append (fresh : pairs.lookup name = none) (listed : name ∈ names) {value : Value}
    (proper : name = "options" -> value.isNull = false) :
    given (pairs ++ [(name, value)]) = (given pairs).set name value := by
  simp only [names, List.mem_cons, List.not_mem_nil, or_false] at listed
  rcases listed with rfl | rfl | rfl | rfl | rfl | rfl | rfl
  case inr.inr.inr.inr.inr.inr =>
    simp [given, set, List.lookup_append, fresh, List.lookup_cons, proper rfl]
  all_goals simp [given, set, List.lookup_append, fresh, List.lookup_cons]

theorem lookup_append_fresh (fresh : pairs.lookup name = none) (value : Value) (other : String) :
    (pairs ++ [(name, value)]).lookup other =
      if other = name then some value else pairs.lookup other := by
  rw [List.lookup_append, List.lookup_cons]
  by_cases same : other = name
  · rw [if_pos same, same, fresh, beq_self_eq_true]
    rfl
  · rw [if_neg same, beq_false_of_ne same]
    exact Option.or_none

/-- To set a field to the missing value is not to set it. -/
theorem given_append_null (fresh : pairs.lookup name = none) :
    given (pairs ++ [(name, .null)]) = given pairs := by
  have field (other : String) : ((pairs ++ [(name, Value.null)]).lookup other).getD .null =
      (pairs.lookup other).getD .null := by
    rw [lookup_append_fresh fresh]
    split
    next same => rw [same, fresh]; rfl
    next => rfl
  have options : ((pairs ++ [(name, Value.null)]).lookup "options").filter
      (fun value => !value.isNull) = (pairs.lookup "options").filter fun value => !value.isNull := by
    rw [lookup_append_fresh fresh]
    split
    next same => rw [same, fresh]; rfl
    next => rfl
  unfold given
  rw [field, field, field, field, field, field, options]

end Given

/-- What comes after names that are distinct from those before is fresh. -/
theorem lookup_of_distinct {before rest : List (String × Value)} {pair : String × Value}
    (distinct : ((before ++ pair :: rest).map Prod.fst).Nodup) :
    before.lookup pair.1 = none := by
  rw [List.lookup_eq_none_iff]
  intro other member
  rw [List.map_append, List.nodup_append] at distinct
  have different := distinct.2.2 other.1 (List.mem_map_of_mem member) pair.1
    (List.mem_map_of_mem List.mem_cons_self)
  exact bne_iff_ne.mpr different.symm

/-- Setting the fields that are given, in any order, with the missing ones left out. -/
theorem ofList_eq_given {pairs : List (String × Value)}
    (listed : forall pair, pair ∈ pairs -> pair.1 ∈ names)
    (distinct : (pairs.map Prod.fst).Nodup) :
    ofList (pairs.filter fun pair => !pair.2.isNull) = given pairs := by
  suffices all : forall before : List (String × Value),
      ((before ++ pairs).map Prod.fst).Nodup ->
        (pairs.filter fun pair => !pair.2.isNull).foldl
          (fun fields pair => fields.set pair.1 pair.2) (given before) = given (before ++ pairs) from
    all [] distinct
  clear distinct
  induction pairs with
  | nil => exact fun before _ => by rw [List.append_nil]; rfl
  | cons pair rest inductionHypothesis =>
      intro before distinct
      rcases pair with ⟨name, value⟩
      have fresh := lookup_of_distinct distinct
      have later := inductionHypothesis
        (fun other member => listed other (List.mem_cons_of_mem _ member))
        (before ++ [(name, value)]) (by rwa [List.append_assoc, List.singleton_append])
      rw [List.append_assoc, List.singleton_append] at later
      cases missing : value.isNull with
      | true =>
          rw [List.filter_cons_of_neg (by simp [missing]), ← later, Value.eq_null missing,
            given_append_null fresh]
      | false =>
          rw [List.filter_cons_of_pos (by simp [missing]), List.foldl_cons, ← later,
            given_append fresh (listed _ List.mem_cons_self) fun _ => missing]

end ConnectionFields

namespace Database.Request

open ConnectionFields (given names)

/-- An argument that is the name of a field sets the field, unless it is missing. -/
theorem set_field {request : Request} {name : String} (listed : name ∈ names) (value : Value) :
    request.set name value = .ok { request with
      fields := if name = "options" ∧ value.isNull = true then { request.fields with options := none }
        else request.fields.set name value } := by
  simp only [names, List.mem_cons, List.not_mem_nil, or_false] at listed
  rcases listed with rfl | rfl | rfl | rfl | rfl | rfl | rfl <;> cases value <;> rfl

/-- Arguments that are names of fields give the fields. -/
theorem ofArguments_eq_given {arguments : List (String × Value)}
    (listed : forall argument, argument ∈ arguments -> argument.1 ∈ names)
    (distinct : (arguments.map Prod.fst).Nodup) :
    ofArguments arguments = .ok { fields := given arguments } := by
  suffices all : forall before : List (String × Value),
      ((before ++ arguments).map Prod.fst).Nodup ->
        arguments.foldlM (fun request argument => Request.set request argument.1 argument.2)
          ({ fields := given before } : Request) =
            .ok { fields := given (before ++ arguments) } from
    all [] distinct
  clear distinct
  induction arguments with
  | nil => exact fun before _ => by rw [List.append_nil]; rfl
  | cons argument rest inductionHypothesis =>
      intro before distinct
      rcases argument with ⟨name, value⟩
      have fresh := ConnectionFields.lookup_of_distinct distinct
      have later := inductionHypothesis
        (fun other member => listed other (List.mem_cons_of_mem _ member))
        (before ++ [(name, value)]) (by rwa [List.append_assoc, List.singleton_append])
      rw [List.append_assoc, List.singleton_append] at later
      have first : Request.set { fields := given before } name value =
          .ok { fields := given (before ++ [(name, value)]) } := by
        rw [set_field (listed _ List.mem_cons_self)]
        by_cases unset : name = "options" ∧ value.isNull = true
        · rcases unset with ⟨rfl, missing⟩
          have none : (given before).options = none := by
            unfold given
            rw [fresh]
            rfl
          rw [if_pos ⟨rfl, missing⟩, Value.eq_null missing,
            ConnectionFields.given_append_null fresh, ← none]
        · rw [if_neg unset, ConnectionFields.given_append fresh (listed _ List.mem_cons_self)
            fun same => Bool.eq_false_iff.mpr fun missing => unset ⟨same, missing⟩]
      rw [List.foldlM_cons]
      change (Request.set { fields := given before } name value >>= _) = _
      rw [first]
      exact later

end Database.Request

/-! ## Descriptions -/

/-- A connection as it is described: the name of a dialect, the fields, where one that is not given
is the missing value, and driver options by their names. -/
structure Description where
  dbms : String
  database : Value
  host : Value
  port : Value
  username : Value
  password : Value
  options : List (String × Value)
  distinct : (options.map Prod.fst).Nodup

namespace Description

open Config (connectionHead optionHead)
open ConnectionParams (Checked checkConfigured configuredFields dialectOf portOf)

/-- The driver options as parameters keep them. -/
def entries (description : Description) : List (Value × Value) :=
  description.options.map fun option => (.text option.1, option.2)

def field (description : Description) (name : String) : Value :=
  match name with
  | "dbms" => .text description.dbms
  | "database" => description.database
  | "host" => description.host
  | "port" => description.port
  | "username" => description.username
  | "password" => description.password
  | _ => .null

def fieldNames : List String := ["dbms", "database", "host", "port", "username", "password"]

/-- The driver options as a value, if they are given at all.  Where there are none, the value may
be missing. -/
inductive GivesOptions (description : Description) : Option Value → Prop where
  | absent (without : description.options = []) : GivesOptions description none
  | null (without : description.options = []) : GivesOptions description (some .null)
  | table (form : MappingForm) (entries : List (Value × Value))
      (same : description.entries.Perm entries) :
      GivesOptions description (some (.mapping form entries))

/-- Names with values give a description, in any order. -/
structure GivenBy (description : Description) (pairs : List (String × Value)) : Prop where
  listed : forall pair, pair ∈ pairs -> pair.1 ∈ ConnectionFields.names
  distinct : (pairs.map Prod.fst).Nodup
  field : forall name, name ∈ fieldNames ->
    (pairs.lookup name).getD .null = description.field name
  options : description.GivesOptions (pairs.lookup "options")

/-- A configuration gives a description, whatever else it sets. -/
structure ConfiguredBy (description : Description) (config : Config) : Prop where
  distinct : config.properties.keys.Nodup
  field : forall name, name ∈ fieldNames ->
    config.get (connectionHead ++ name) = description.field name
  options : forall name,
    config.properties.get? (optionHead ++ name) = description.options.lookup name

/-- Parameters are those of a description, which is in order: the dialect is supported, the
database is named, so is a server where the dialect needs one, and the port is a number. -/
structure Yields (description : Description) (params : ConnectionParams) : Prop where
  supported : params.dialect ∈ Dialect.builtin
  dialect : params.dialect.name = description.dbms
  database : params.database = description.database
  named : params.database.isTrue = true
  host : params.host = description.host
  served : params.dialect.requiresHost = true -> params.host.isTrue = true
  port : portOf description.port = .ok params.port
  username : params.username = description.username
  password : params.password = description.password
  options : params.options = description.entries

/-! ## The checks of a description -/

/-- The fields that are checked: a database that is not given has the empty name. -/
def fields (description : Description) : ConnectionFields where
  dbms := .text description.dbms
  database := if description.database.isNull then .text "" else description.database
  host := description.host
  port := description.port
  username := description.username
  password := description.password

/-- Every supported dialect is found by its name, and nothing else is. -/
theorem get_eq_ok {name : String} {dialect : Dialect} :
    Dialect.get name = .ok dialect ↔ dialect ∈ Dialect.builtin ∧ dialect.name = name := by
  have unique : forall dialect, dialect ∈ Dialect.builtin ->
      Dialect.find? dialect.name = some dialect := by decide
  unfold Dialect.get
  constructor
  · intro given
    cases found : Dialect.find? name with
    | none =>
        rw [found] at given
        cases given
    | some other =>
        rw [found] at given
        cases given
        have first : Dialect.builtin.find? (fun dialect => dialect.name == name) = some dialect :=
          found
        have matched := List.find?_some first
        exact ⟨List.mem_of_find?_eq_some first, beq_iff_eq.mp matched⟩
  · rintro ⟨supported, rfl⟩
    rw [unique dialect supported]

theorem yields_iff {description : Description} {params : ConnectionParams} :
    description.Yields params ↔
      Checked description.fields params ∧ params.options = description.entries := by
  have database : description.fields.database = params.database ∧ params.database.isTrue = true ↔
      params.database = description.database ∧ params.database.isTrue = true := by
    unfold fields
    split
    next missing =>
      rw [Value.eq_null missing]
      constructor
      · rintro ⟨same, named⟩
        rw [← same] at named
        cases named
      · rintro ⟨same, named⟩
        rw [same] at named
        cases named
    next => rw [eq_comm]
  constructor
  · rintro ⟨supported, dialect, named, isTrue, host, served, port, username, password, options⟩
    have both := database.mpr ⟨named, isTrue⟩
    exact ⟨⟨get_eq_ok.mpr ⟨supported, dialect⟩, both.1, both.2, host.symm, served, port,
      username.symm, password.symm⟩, options⟩
  · rintro ⟨⟨dialect, named, isTrue, host, served, port, username, password⟩, options⟩
    have both := database.mp ⟨named, isTrue⟩
    have known := get_eq_ok.mp dialect
    exact ⟨known.1, known.2, both.1, both.2, host.symm, served, port, username.symm,
      password.symm, options⟩

/-- What a way to describe a connection comes to: the parameters that pass the checks, up to the
order of the driver options, or a fault of the kind that the checks fail with. -/
inductive Agrees (description : Description) (found : Except Fault ConnectionParams) : Prop where
  | passes (params : ConnectionParams)
      (checked : ConnectionParams.ofFields description.fields = .ok params)
      (entries : List (Value × Value)) (same : description.entries.Perm entries)
      (gives : found = .ok { params with options := entries })
  | fails (fault other : Fault)
      (unchecked : ConnectionParams.ofFields description.fields = .error fault)
      (kind : other.kind = fault.kind) (fails : found = .error other)

theorem Agrees.of_map {description : Description} {entries : List (Value × Value)}
    (same : description.entries.Perm entries) :
    description.Agrees ((ConnectionParams.ofFields description.fields).map fun params =>
      { params with options := entries }) := by
  cases checked : ConnectionParams.ofFields description.fields with
  | ok params => exact .passes params checked entries same rfl
  | error fault => exact .fails fault fault checked rfl rfl

variable {description : Description}

theorem nil_perm (without : description.options = []) : description.entries.Perm [] := by
  rw [entries, without]
  exact .nil

/-- Without driver options there is nothing to add to the checks. -/
theorem Agrees.of_unset (without : description.options = []) :
    description.Agrees (ConnectionParams.ofFields description.fields) := by
  cases checked : ConnectionParams.ofFields description.fields with
  | ok params =>
      have none := ((ConnectionParams.ofFields_eq_ok rfl).mp checked).2
      exact .passes params checked [] (nil_perm without) (by rw [← none])
  | error fault => exact .fails fault fault checked rfl rfl

/-! ## A mapping and arguments -/

theorem GivenBy.given_eq {pairs : List (String × Value)} (given : description.GivenBy pairs) :
    ConnectionFields.given pairs =
      { description.fields with
        database := description.database
        options := (pairs.lookup "options").filter fun value => !value.isNull } := by
  unfold ConnectionFields.given
  rw [given.field "dbms" (by decide), given.field "database" (by decide),
    given.field "host" (by decide), given.field "port" (by decide),
    given.field "username" (by decide), given.field "password" (by decide)]
  rfl

/-- The entries of a mapping that sets fields. -/
def mapping (pairs : List (String × Value)) : List (Value × Value) :=
  pairs.map fun pair => (.text pair.1, pair.2)

theorem checkNames_mapping {pairs : List (String × Value)}
    (listed : forall pair, pair ∈ pairs -> pair.1 ∈ ConnectionFields.names) :
    ((mapping pairs).forM fun entry => ConnectionParams.checkName entry.1) = .ok () := by
  induction pairs with
  | nil => rfl
  | cons pair rest inductionHypothesis =>
      have known : ConnectionParams.checkName (.text pair.1) = .ok () := by
        have isName : ConnectionParams.isFieldName (.text pair.1) = true :=
          List.contains_iff_mem.mpr (listed pair List.mem_cons_self)
        rw [ConnectionParams.checkName, if_pos isName]
      change (ConnectionParams.checkName (.text pair.1) >>= fun _ =>
        (mapping rest).forM fun entry => ConnectionParams.checkName entry.1) = .ok ()
      rw [known]
      exact inductionHypothesis fun other member => listed other (List.mem_cons_of_mem pair member)

theorem givenFields_mapping (pairs : List (String × Value)) :
    ConnectionParams.givenFields (mapping pairs) = pairs.filter fun pair => !pair.2.isNull := by
  unfold mapping ConnectionParams.givenFields
  rw [List.filterMap_map, ← List.filterMap_eq_filter]
  refine List.filterMap_congr fun pair _ => ?_
  cases missing : pair.2.isNull <;> simp [Option.guard, missing]

theorem GivenBy.names_dbms {pairs : List (String × Value)} (given : description.GivenBy pairs) :
    (((pairs.filter fun pair => !pair.2.isNull).map Prod.fst).contains "dbms") = true := by
  have named := given.field "dbms" (by decide)
  cases found : pairs.lookup "dbms" with
  | none =>
      rw [found] at named
      cases named
  | some value =>
      rw [found] at named
      rcases List.lookup_eq_some_iff.mp found with ⟨before, after, split, -⟩
      have member : ("dbms", value) ∈ pairs.filter fun pair => !pair.2.isNull := by
        rw [List.mem_filter, split]
        refine ⟨List.mem_append_right before List.mem_cons_self, ?_⟩
        rw [show value = .text description.dbms from named]
        rfl
      exact List.contains_iff_mem.mpr (List.mem_map_of_mem member)

theorem ofMapping_agrees {pairs : List (String × Value)} (given : description.GivenBy pairs) :
    description.Agrees (ConnectionParams.ofMapping (mapping pairs)) := by
  have reached : ConnectionParams.ofMapping (mapping pairs) =
      ConnectionParams.ofFields { description.fields with
        options := (pairs.lookup "options").filter fun value => !value.isNull } := by
    unfold ConnectionParams.ofMapping
    rw [checkNames_mapping given.listed, givenFields_mapping]
    change (if !((pairs.filter fun pair => !pair.2.isNull).map Prod.fst).contains "dbms" then _
      else _) = _
    rw [given.names_dbms, ConnectionFields.ofList_eq_given given.listed given.distinct,
      given.given_eq]
    rfl
  rw [reached]
  have options := given.options
  generalize pairs.lookup "options" = found at options ⊢
  cases options with
  | absent without => exact .of_unset without
  | null without => exact .of_unset without
  | table form entries same =>
      have table : (Value.mapping form entries).toEntries = .ok entries := rfl
      exact ConnectionParams.ofFields_given description.fields table ▸ .of_map same

/-- Arguments that describe a connection go together, and parameters are made of them. -/
theorem GivenBy.request {arguments : List (String × Value)}
    (given : description.GivenBy arguments) :
    exists request, Database.Request.ofArguments arguments = .ok request ∧
      request.conflict? = none ∧
      exists found, request.params? = some found ∧ description.Agrees found := by
  refine ⟨{ fields := ConnectionFields.given arguments },
    Database.Request.ofArguments_eq_given given.listed given.distinct, ?_⟩
  rw [given.given_eq]
  refine ⟨rfl, _, rfl, ?_⟩
  have options := given.options
  generalize arguments.lookup "options" = found at options ⊢
  have empty : (Value.table []).toEntries = .ok [] := rfl
  cases options with
  | absent without =>
      exact ConnectionParams.ofFields_given description.fields empty ▸ .of_map (nil_perm without)
  | null without =>
      exact ConnectionParams.ofFields_given description.fields empty ▸ .of_map (nil_perm without)
  | table form entries same =>
      have table : (Database.Request.givenOptions (some (.mapping form entries))).toEntries =
          .ok entries := by
        cases entries <;> rfl
      exact ConnectionParams.ofFields_given description.fields table ▸ .of_map same

/-! ## A configuration -/

theorem ConfiguredBy.configuredFields_eq {config : Config}
    (configured : description.ConfiguredBy config) :
    configuredFields config = { description.fields with database := description.database } := by
  unfold configuredFields
  rw [configured.field "dbms" (by decide), configured.field "database" (by decide),
    configured.field "host" (by decide), configured.field "port" (by decide),
    configured.field "username" (by decide), configured.field "password" (by decide)]
  rfl

/-- The options of a configuration have distinct names, as its properties have. -/
theorem nodup_options {config : Config} (distinct : config.properties.keys.Nodup) :
    (config.options.map Prod.fst).Nodup := by
  have names : config.options.map Prod.fst =
      config.properties.keys.filterMap (Text.afterHead? optionHead) := by
    unfold Config.options Dictionary.keys
    rw [List.map_filterMap, List.filterMap_map]
    refine List.filterMap_congr fun entry _ => ?_
    dsimp only [Function.comp]
    cases Text.afterHead? optionHead entry.1 <;> rfl
  rw [names]
  refine distinct.filterMap fun first second option here there => ?_
  rw [Text.afterHead?_eq_some_iff.mp here, Text.afterHead?_eq_some_iff.mp there]

theorem lookup_eq_some_iff {options : List (String × Value)}
    (distinct : (options.map Prod.fst).Nodup) {name : String} {value : Value} :
    options.lookup name = some value ↔ (name, value) ∈ options :=
  show (Dictionary.mk options).get? name = some value ↔ (name, value) ∈ options from
    Dictionary.get?_eq_some_iff distinct

theorem ConfiguredBy.options_perm {config : Config}
    (configured : description.ConfiguredBy config) :
    description.options.Perm config.options := by
  have distinct := nodup_options configured.distinct
  rw [List.perm_ext_iff_of_nodup description.distinct.of_map distinct.of_map]
  rintro ⟨name, value⟩
  rw [← lookup_eq_some_iff description.distinct, ← lookup_eq_some_iff distinct,
    Config.lookup_options, configured.options]

/-- A database that is not given fails like a dialect that is not supported. -/
theorem ofFields_unnamed (missing : description.database.isNull = true) :
    exists fault, ConnectionParams.ofFields description.fields = .error fault ∧
      fault.kind = .library .improperConfiguration := by
  have named : dialectOf description.fields.dbms = Dialect.get description.dbms := rfl
  have empty : description.fields.database = .text "" := by
    unfold fields
    rw [missing]
    rfl
  unfold ConnectionParams.ofFields
  rw [named, empty]
  unfold Dialect.get
  cases Dialect.find? description.dbms with
  | none => exact ⟨Dialect.unsupported description.dbms, rfl, rfl⟩
  | some dialect =>
      exact ⟨ConnectionParams.missing "connection parameter: database", rfl, rfl⟩

theorem ofConfig_agrees {config : Config} (configured : description.ConfiguredBy config) :
    description.Agrees (ConnectionParams.ofConfig config) := by
  rw [ConnectionParams.ofConfig_eq, configured.configuredFields_eq]
  cases missing : description.database.isNull with
  | true =>
      rcases ofFields_unnamed missing with ⟨fault, fails, kind⟩
      have unset : checkConfigured { description.fields with database := description.database } =
          .error (ConnectionParams.missing "configuration property: db.database") := by
        rw [Value.eq_null missing]
        rfl
      rw [unset]
      exact .fails fault (ConnectionParams.missing "configuration property: db.database") fails
        kind.symm rfl
  | false =>
      have named : { description.fields with database := description.database } =
          description.fields := by
        unfold fields
        rw [missing]
        rfl
      have checks : checkConfigured description.fields =
          ConnectionParams.ofFields description.fields := by
        have given : description.fields.database.isNull = false := by
          rw [← named]
          exact missing
        unfold checkConfigured
        rw [given]
        rfl
      rw [named, checks]
      exact .of_map (configured.options_perm.map _)

/-! ## The three ways -/

/-- The ways to describe a connection come to parameters that are those described, or all of them
fail with a fault of one kind. -/
inductive Settles {α : Type} (description : Description)
    (mapped configured : Except Fault ConnectionParams)
    (made : EStateM.Result Fault (Gateway α) Database) : Prop where
  | yields (params : ConnectionParams) (yields : description.Yields params)
      (mapped : exists same, mapped = .ok same ∧ params.Matches same)
      (configured : exists same, configured = .ok same ∧ params.Matches same)
      (made : exists database gateway, made = .ok database gateway ∧
        params.Matches (gateway.entry database.entry).params)
  | fails (kind : FaultKind) (unfit : forall params, ¬ description.Yields params)
      (mapped : exists fault, mapped = .error fault ∧ fault.kind = kind)
      (configured : exists fault, configured = .error fault ∧ fault.kind = kind)
      (made : exists fault gateway, made = .error fault gateway ∧ fault.kind = kind)

def make {α : Type} (arguments : List (String × Value)) (registry tracker : Scope) :
    Operation (Gateway α) Database := do
  Database.ofRequest (← .ofExcept (Database.Request.ofArguments arguments)) registry tracker

/-- Arguments that go together and describe a connection make a gateway entry of its parameters. -/
theorem ofRequest_of_params {α : Type} {request : Database.Request}
    (together : request.conflict? = none) {found : Except Fault ConnectionParams}
    (described : request.params? = some found) (registry tracker : Scope) :
    (Database.ofRequest request registry tracker : Operation (Gateway α) Database) = do
      let params ← .ofExcept found
      let entry ← Gateway.addEntry (.ofParams params true)
      return ⟨entry, registry, tracker⟩ := by
  unfold Database.ofRequest
  rw [together]
  dsimp only
  rw [described]

/-- A database is made of the parameters that its arguments describe. -/
theorem make_eq {α : Type} {arguments : List (String × Value)}
    (given : description.GivenBy arguments) (registry tracker : Scope) (gateway : Gateway α) :
    exists found, description.Agrees found ∧
      (forall fault, found = .error fault ->
        make arguments registry tracker gateway = .error fault gateway) ∧
      forall params, found = .ok params -> exists database after,
        make arguments registry tracker gateway = .ok database after ∧
          (after.entry database.entry).params = params := by
  rcases given.request with ⟨request, asked, together, found, described, agrees⟩
  have reached : make arguments registry tracker gateway =
      (Database.ofRequest request registry tracker : Operation (Gateway α) Database) gateway := by
    unfold make
    rw [asked]
    rfl
  rw [reached, ofRequest_of_params together described]
  refine ⟨found, agrees, ?_, ?_⟩
  · rintro fault rfl
    rfl
  · rintro params rfl
    refine ⟨⟨gateway.entries.size, registry, tracker⟩,
      gateway.setEntry gateway.entries.size (.ofParams params true), rfl, ?_⟩
    rw [Gateway.entry_setEntry, if_pos rfl]
    rfl

section Outcomes

variable {found : Except Fault ConnectionParams} (agrees : description.Agrees found)
include agrees

theorem Agrees.matched {params : ConnectionParams} (yields : description.Yields params) :
    exists same, found = .ok same ∧ params.Matches same := by
  have bare : ConnectionParams.ofFields description.fields =
      .ok { params with options := [] } :=
    (ConnectionParams.ofFields_eq_ok rfl).mpr ⟨(yields_iff.mp yields).1.withOptions [], rfl⟩
  cases agrees with
  | fails fault other unchecked kind fails => cases unchecked.symm.trans bare
  | passes other checked entries same gives =>
      cases checked.symm.trans bare
      exact ⟨_, gives, entries, rfl, yields.options ▸ same⟩

theorem Agrees.failed {fault : Fault}
    (unchecked : ConnectionParams.ofFields description.fields = .error fault) :
    exists other, found = .error other ∧ other.kind = fault.kind := by
  cases agrees with
  | passes params checked entries same gives => cases unchecked.symm.trans checked
  | fails reason other unpassed kind fails =>
      cases unchecked.symm.trans unpassed
      exact ⟨other, fails, kind⟩

end Outcomes

/-- A mapping, a configuration and arguments that describe one connection give parameters that are
the same up to the order of the driver options, and the parameters are those that are described and
in order.  If there are no such parameters, all three fail with faults of one kind. -/
theorem descriptions_agree {α : Type} {pairs arguments : List (String × Value)} {config : Config}
    (mapped : description.GivenBy pairs) (configured : description.ConfiguredBy config)
    (called : description.GivenBy arguments) (registry tracker : Scope) (gateway : Gateway α) :
    description.Settles (ConnectionParams.ofMapping (mapping pairs))
      (ConnectionParams.ofConfig config) (make arguments registry tracker gateway) := by
  have byMapping := ofMapping_agrees mapped
  have byConfig := ofConfig_agrees configured
  rcases make_eq called registry tracker gateway with ⟨found, byArguments, fails, makes⟩
  cases passed : ConnectionParams.ofFields description.fields with
  | ok params =>
      have checked := ((ConnectionParams.ofFields_eq_ok rfl).mp passed).1
      have yields := yields_iff.mpr ⟨checked.withOptions description.entries, rfl⟩
      refine .yields _ yields (byMapping.matched yields) (byConfig.matched yields) ?_
      rcases byArguments.matched yields with ⟨same, rfl, matched⟩
      rcases makes same rfl with ⟨database, after, made, rfl⟩
      exact ⟨database, after, made, matched⟩
  | error fault =>
      refine .fails fault.kind (fun params yields => ?_) (byMapping.failed passed)
        (byConfig.failed passed) ?_
      · rcases byMapping.matched yields with ⟨same, gives, -⟩
        rcases byMapping.failed passed with ⟨other, fails, -⟩
        cases gives.symm.trans fails
      · rcases byArguments.failed passed with ⟨other, rfl, kind⟩
        exact ⟨other, gateway, fails other rfl, kind⟩

/-! ### An example -/

/-- A server with two driver options. -/
def warehouse : Description where
  dbms := "pgsql"
  database := .text "sales"
  host := .text "db.local"
  port := .text "5432"
  username := .null
  password := .null
  options := [("sslmode", .text "require"), ("connect_timeout", .int 3)]
  distinct := by decide

/-- A mapping that sets the user to the missing value and has the driver options first. -/
def warehousePairs : List (String × Value) :=
  [("options", .table [(.text "connect_timeout", .int 3), (.text "sslmode", .text "require")]),
    ("username", .null), ("port", .text "5432"), ("host", .text "db.local"),
    ("dbms", .text "pgsql"), ("database", .text "sales")]

/-- Arguments without a user. -/
def warehouseArguments : List (String × Value) :=
  [("dbms", .text "pgsql"), ("host", .text "db.local"), ("port", .text "5432"),
    ("password", .null), ("database", .text "sales"),
    ("options", .mapping .readOnly warehouse.entries)]

/-- A configuration that sets more than the connection. -/
def warehouseConfig : Config := .ofProperties false
  [("db.options.sslmode", .text "require"), ("db.dbms", .text "pgsql"),
    ("db.host", .text "db.local"), ("db.port", .text "5432"), ("owner", .text "sales team"),
    ("db.database", .text "sales"), ("db.password", .null), ("db.options.connect_timeout", .int 3)]

theorem given_warehousePairs : warehouse.GivenBy warehousePairs where
  listed := by decide
  distinct := by decide
  field name listed := by
    simp only [fieldNames, List.mem_cons, List.not_mem_nil, or_false] at listed
    rcases listed with rfl | rfl | rfl | rfl | rfl | rfl <;> rfl
  options := .table .table _ (.swap _ _ _)

theorem given_warehouseArguments : warehouse.GivenBy warehouseArguments where
  listed := by decide
  distinct := by decide
  field name listed := by
    simp only [fieldNames, List.mem_cons, List.not_mem_nil, or_false] at listed
    rcases listed with rfl | rfl | rfl | rfl | rfl | rfl <;> rfl
  options := .table .readOnly _ (.refl _)

theorem configured_warehouseConfig : warehouse.ConfiguredBy warehouseConfig where
  distinct := by decide
  field name listed := by
    simp only [fieldNames, List.mem_cons, List.not_mem_nil, or_false] at listed
    rcases listed with rfl | rfl | rfl | rfl | rfl | rfl <;> rfl
  options name := by
    rw [← Config.lookup_options]
    rfl

theorem descriptions_agree_warehouse :
    warehouse.Settles (ConnectionParams.ofMapping (mapping warehousePairs))
      (ConnectionParams.ofConfig warehouseConfig)
      (make warehouseArguments .shared .shared
        (.ofDriver (.ofScript [] [] [] (.int 0)) : Gateway Unit)) :=
  descriptions_agree given_warehousePairs configured_warehouseConfig given_warehouseArguments
    .shared .shared _

end Description
end SqlGateway
