import SqlGateway.Proofs.Config.Fingerprint

namespace SqlGateway

/-!
# What is checked of a connection

Fields give parameters if and only if they pass every check.  The parameters then are the fields,
but for the dialect that is named and the number of the port.  Driver options are not checked; any
value that is a table will do, and it is kept with the parameters.

A configuration gives its fields and its driver options under names of their own, so that an option
is found in the parameters as it is set in the configuration.
-/

namespace Text

theorem afterHead?_eq_some_iff {head text rest : String} :
    afterHead? head text = some rest ↔ text = head ++ rest := by
  unfold afterHead?
  constructor
  · intro found
    split at found
    next begins =>
      rcases List.isPrefixOf_iff_prefix.mp begins with ⟨others, same⟩
      cases found
      rw [← same, List.drop_left, ← String.toList_inj, String.toList_append,
        String.toList_ofList, same]
    next => cases found
  · rintro rfl
    have begins : head.toList.isPrefixOf (head ++ rest).toList = true := by
      rw [String.toList_append]
      exact List.isPrefixOf_iff_prefix.mpr (List.prefix_append _ _)
    rw [if_pos begins, String.toList_append, List.drop_left, String.ofList_toList]

end Text

/-- What is put last under a key is found there. -/
theorem Dictionary.get?_ofList_last {α β : Type} [DecidableEq α] (before : List (α × β))
    {after : List (α × β)} {key : α} (value : β)
    (last : forall entry, entry ∈ after -> entry.1 ≠ key) :
    (ofList (before ++ (key, value) :: after)).get? key = some value := by
  have kept : forall table : Dictionary α β,
      (after.foldl (fun table pair => table.put pair.1 pair.2) table).get? key =
        table.get? key := by
    induction after with
    | nil => exact fun table => rfl
    | cons entry rest inductionHypothesis =>
        intro table
        have others := inductionHypothesis fun other member =>
          last other (List.mem_cons_of_mem entry member)
        rw [List.foldl_cons, others, get?_put, if_neg (last entry List.mem_cons_self).symm]
  unfold ofList
  rw [List.foldl_append, List.foldl_cons, kept, get?_put, if_pos rfl]

namespace Config

/-- The name of an option without its head is the option, and no other name is. -/
theorem lookup_options (config : Config) (option : String) :
    config.options.lookup option = config.properties.get? (optionHead ++ option) := by
  suffices all : forall entries : List (String × Value),
      (entries.filterMap fun entry =>
        (Text.afterHead? optionHead entry.1).map fun option => (option, entry.2)).lookup option =
      entries.lookup (optionHead ++ option) from
    all config.properties.entries
  intro entries
  induction entries with
  | nil => rfl
  | cons entry rest inductionHypothesis =>
      rcases entry with ⟨name, value⟩
      cases head : Text.afterHead? optionHead name with
      | none =>
          have different : optionHead ++ option ≠ name := by
            intro same
            cases head.symm.trans (Text.afterHead?_eq_some_iff.mpr same.symm)
          rw [List.filterMap_cons_none (by rw [head]; rfl), inductionHypothesis, List.lookup_cons,
            beq_false_of_ne different]
      | some other =>
          rw [List.filterMap_cons_some (by rw [head]; rfl), List.lookup_cons, List.lookup_cons,
            inductionHypothesis, Text.afterHead?_eq_some_iff.mp head]
          by_cases same : option = other
          · rw [same, beq_self_eq_true, beq_self_eq_true]
          · have different : optionHead ++ option ≠ optionHead ++ other :=
              fun equal => same ((String.append_right_inj optionHead).mp equal)
            rw [beq_false_of_ne same, beq_false_of_ne different]

end Config

namespace ConnectionParams

open Config (connectionHead)

/-- Parameters that fields give, but for the driver options. -/
structure Checked (fields : ConnectionFields) (params : ConnectionParams) : Prop where
  dialect : dialectOf fields.dbms = .ok params.dialect
  database : fields.database = params.database
  named : params.database.isTrue = true
  host : fields.host = params.host
  served : params.dialect.requiresHost = true -> params.host.isTrue = true
  port : portOf fields.port = .ok params.port
  username : fields.username = params.username
  password : fields.password = params.password

theorem Checked.withOptions {fields : ConnectionFields} {params : ConnectionParams}
    (checked : Checked fields params) (options : List (Value × Value)) :
    Checked fields { params with options := options } :=
  ⟨checked.dialect, checked.database, checked.named, checked.host, checked.served, checked.port,
    checked.username, checked.password⟩

theorem ofFields_eq_ok {fields : ConnectionFields} (unset : fields.options = none)
    {params : ConnectionParams} :
    ofFields fields = .ok params ↔ Checked fields params ∧ params.options = [] := by
  rcases params with ⟨dialect, database, host, port, username, password, options⟩
  unfold ofFields
  rw [unset]
  constructor
  · intro checked
    cases known : dialectOf fields.dbms with
    | error fault =>
        rw [known] at checked
        cases checked
    | ok found =>
        rw [known] at checked
        simp only [bind, Except.bind] at checked
        cases named : fields.database.isTrue with
        | false =>
            rw [named] at checked
            cases checked
        | true =>
            cases unserved : found.requiresHost && !fields.host.isTrue with
            | true =>
                rw [named, unserved] at checked
                cases checked
            | false =>
                rw [named, unserved] at checked
                cases number : portOf fields.port with
                | error fault =>
                    rw [number] at checked
                    cases checked
                | ok found =>
                    rw [number] at checked
                    cases checked
                    refine ⟨⟨known, rfl, named, rfl, fun needed => ?_, number, rfl, rfl⟩, rfl⟩
                    rw [show dialect.requiresHost = true from needed, Bool.true_and] at unserved
                    exact (Bool.not_eq_false' _).mp unserved
  · rintro ⟨checked, rfl⟩
    have unserved : (dialect.requiresHost && !fields.host.isTrue) = false := by
      cases needed : dialect.requiresHost with
      | false => rfl
      | true => rw [checked.host, checked.served needed]; rfl
    have named : fields.database.isTrue = true := by rw [checked.database, checked.named]
    rw [checked.dialect]
    simp only [bind, Except.bind, named, unserved, checked.port, Bool.not_true,
      Bool.false_eq_true, if_false]
    rw [checked.database, checked.host, checked.username, checked.password]
    rfl

/-- Any value that is a table is taken for the driver options. -/
theorem ofFields_given (fields : ConnectionFields) {options : Value}
    {entries : List (Value × Value)} (given : options.toEntries = .ok entries) :
    ofFields { fields with options := some options } =
      (ofFields { fields with options := none }).map fun params =>
        { params with options := entries } := by
  rw [← ofFields_options fields entries]
  unfold ofFields
  simp only [given]
  rfl

/-- Whatever the driver options are, the checks are those of the other fields. -/
theorem map_options_eq_ok {found : Except Fault ConnectionParams} {fields : ConnectionFields}
    (checks : forall params, found = .ok params ↔ Checked fields params ∧ params.options = [])
    {entries : List (Value × Value)} {params : ConnectionParams} :
    (found.map fun params => { params with options := entries }) = .ok params ↔
      Checked fields params ∧ params.options = entries := by
  constructor
  · intro given
    cases found with
    | error fault => cases given
    | ok bare =>
        cases given
        exact ⟨((checks bare).mp rfl).1.withOptions entries, rfl⟩
  · rintro ⟨checked, rfl⟩
    have bare : found = .ok { params with options := [] } :=
      (checks _).mpr ⟨checked.withOptions [], rfl⟩
    rw [bare]
    rfl

/-- Missing fields are told in words of their own, but they would not pass the checks either. -/
theorem checkConfigured_eq_ok {fields : ConnectionFields} (unset : fields.options = none)
    {params : ConnectionParams} :
    checkConfigured fields = .ok params ↔ Checked fields params ∧ params.options = [] := by
  rw [← ofFields_eq_ok unset]
  unfold checkConfigured
  cases dbms : fields.dbms.isNull with
  | true =>
      have impossible : ofFields fields ≠ .ok params := by
        intro given
        have known := ((ofFields_eq_ok unset).mp given).1.dialect
        cases missing : fields.dbms with
        | null => rw [missing] at known; cases known
        | _ => rw [missing] at dbms; cases dbms
      exact ⟨nofun, fun given => absurd given impossible⟩
  | false =>
      cases database : fields.database.isNull with
      | true =>
          have impossible : ofFields fields ≠ .ok params := by
            intro given
            have checked := ((ofFields_eq_ok unset).mp given).1
            have named := checked.named
            rw [← checked.database] at named
            cases missing : fields.database with
            | null => rw [missing] at named; cases named
            | _ => rw [missing] at database; cases database
          exact ⟨nofun, fun given => absurd given impossible⟩
      | false => rfl

/-- A configuration gives parameters if and only if its fields pass the checks. -/
theorem ofConfig_eq_ok {config : Config} {params : ConnectionParams} :
    ofConfig config = .ok params ↔ Checked (configuredFields config) params ∧
      params.options = config.options.map fun option => (.text option.1, option.2) := by
  rw [ofConfig_eq]
  exact map_options_eq_ok fun params => checkConfigured_eq_ok rfl

end ConnectionParams
end SqlGateway
