import SqlGateway.Connection.Params
import SqlGateway.Proofs.Json.Documents

namespace SqlGateway

/-!
# Fingerprints tell connections apart

Two configurations with plain values have one fingerprint if and only if they set the same
properties of the connection to the same values.  Neither the order of the properties nor those
that do not describe the connection show in a fingerprint.

What a fingerprint does show is all that connection parameters are made of, up to the order of the
driver options.

Numbers of different types are different values here, as are the two zeros of double precision.
Numbers of double precision are one value if and only if they have one shortest text; this is
`Json.float_injective`.
-/

namespace Dictionary

variable {α β : Type} [DecidableEq α]

theorem nodup_keys_put {table : Dictionary α β} (distinct : table.keys.Nodup) (key : α)
    (value : β) : (table.put key value).keys.Nodup := by
  rw [keys_put]
  split
  next => exact distinct
  next absent =>
    refine List.nodup_append.mpr ⟨distinct, List.nodup_singleton key, fun old known new fresh => ?_⟩
    rw [List.mem_singleton.mp fresh]
    rintro rfl
    exact absent known

/-- No key is put twice. -/
theorem nodup_keys_ofList (pairs : List (α × β)) : (ofList pairs).keys.Nodup := by
  suffices all : forall table : Dictionary α β, table.keys.Nodup ->
      (pairs.foldl (fun table pair => table.put pair.1 pair.2) table).keys.Nodup from
    all empty List.nodup_nil
  induction pairs with
  | nil => exact fun table distinct => distinct
  | cons pair rest inductionHypothesis =>
      exact fun table distinct => inductionHypothesis _ (nodup_keys_put distinct pair.1 pair.2)

/-- What is found in a table that was made from pairs is among them. -/
theorem mem_of_get?_ofList {pairs : List (α × β)} {key : α} {value : β}
    (found : (ofList pairs).get? key = some value) : (key, value) ∈ pairs := by
  suffices all : forall table : Dictionary α β,
      (pairs.foldl (fun table pair => table.put pair.1 pair.2) table).get? key = some value ->
        table.get? key = some value ∨ (key, value) ∈ pairs by
    refine (all empty found).resolve_left fun nothing => ?_
    cases nothing
  clear found
  induction pairs with
  | nil => exact fun table found => .inl found
  | cons pair rest inductionHypothesis =>
      intro table found
      rcases inductionHypothesis (table.put pair.1 pair.2) found with here | later
      · rw [get?_put] at here
        split at here
        next same =>
          cases here
          exact .inr (same ▸ List.mem_cons_self)
        next => exact .inl here
      · exact .inr (List.mem_cons_of_mem pair later)

theorem get?_eq_some_iff {table : Dictionary α β} (distinct : table.keys.Nodup) {key : α}
    {value : β} : table.get? key = some value ↔ (key, value) ∈ table.entries := by
  constructor
  · intro found
    rcases List.lookup_eq_some_iff.mp found with ⟨before, after, split, -⟩
    exact split ▸ List.mem_append_right before List.mem_cons_self
  · intro member
    cases found : table.get? key with
    | none =>
        have absent := List.lookup_eq_none_iff.mp found (key, value) member
        simp at absent
    | some other =>
        rcases List.lookup_eq_some_iff.mp found with ⟨before, after, split, -⟩
        have otherMember : (key, other) ∈ table.entries :=
          split ▸ List.mem_append_right before List.mem_cons_self
        exact congrArg (some ·.2) (List.inj_on_of_nodup_map distinct otherMember member rfl)

end Dictionary

namespace Config

/-! ## Properties of the connection -/

/-- Whether a name is that of a property of the connection. -/
def isConnectionName (name : String) : Bool := (Text.afterHead? connectionHead name).isSome

/-- Configurations that set the same properties of the connection to the same values. -/
def SameConnection (config other : Config) : Prop :=
  forall name, isConnectionName name = true ->
    config.properties.get? name = other.properties.get? name

/-- A configuration that is not built in, with plain values for the properties of the
connection. -/
structure IsPlain (config : Config) : Prop where
  external : config.builtin = false
  distinct : config.properties.keys.Nodup
  plain : forall name value, isConnectionName name = true ->
    config.properties.get? name = some value -> value.IsPlain

/-- The properties of the connection, in the order in which they were set. -/
def connection (config : Config) : List (String × Value) :=
  config.properties.entries.filter fun entry => isConnectionName entry.1

section Connection

variable {config other : Config} (distinct : config.properties.keys.Nodup)
  (otherDistinct : other.properties.keys.Nodup)

include distinct in
theorem mem_connection {entry : String × Value} : entry ∈ config.connection ↔
    isConnectionName entry.1 = true ∧ config.properties.get? entry.1 = some entry.2 := by
  unfold connection
  rw [List.mem_filter, Dictionary.get?_eq_some_iff distinct]
  exact and_comm

include distinct in
theorem nodup_connection : (config.connection.map Prod.fst).Nodup :=
  distinct.sublist (List.filter_sublist.map Prod.fst)

include distinct otherDistinct in
theorem connection_perm_iff :
    config.connection.Perm other.connection ↔ config.SameConnection other := by
  rw [List.perm_ext_iff_of_nodup (nodup_connection distinct).of_map
    (nodup_connection otherDistinct).of_map]
  simp only [mem_connection distinct, mem_connection otherDistinct]
  constructor
  · intro same name isName
    refine Option.ext fun value => ?_
    have here := same (name, value)
    simpa only [isName, true_and] using here
  · rintro same ⟨name, value⟩
    refine and_congr_right fun isName => ?_
    rw [same name isName]

end Connection

/-! ## Fingerprints -/

theorem fingerprint_eq {config : Config} (external : config.builtin = false) :
    config.fingerprint = Json.encode (Json.tableOf config.connection) := by
  have members (entries : List (String × Value)) :
      (entries.filterMap fun entry =>
        (Text.afterHead? connectionHead entry.1).map fun _ => (Value.text entry.1, entry.2)) =
      (entries.filter fun entry => isConnectionName entry.1).map fun entry =>
        (Value.text entry.1, entry.2) := by
    induction entries with
    | nil => rfl
    | cons entry rest inductionHypothesis =>
        cases head : Text.afterHead? connectionHead entry.1 with
        | none =>
            rw [List.filterMap_cons_none (by rw [head]; rfl), inductionHypothesis,
              List.filter_cons_of_neg (by simp [isConnectionName, head])]
        | some found =>
            rw [List.filterMap_cons_some (by rw [head]; rfl), inductionHypothesis,
              List.filter_cons_of_pos (by simp [isConnectionName, head])]
            rfl
  unfold fingerprint
  rw [external]
  exact congrArg (fun entries => Json.encode (.table entries)) (members config.properties.entries)

section Fingerprints

variable {config other : Config} (plain : config.IsPlain)

include plain in
theorem IsPlain.of_mem_connection : forall entry, entry ∈ config.connection ->
    entry.2.IsPlain :=
  fun entry member =>
    plain.plain entry.1 entry.2 ((mem_connection plain.distinct).mp member).1
      ((mem_connection plain.distinct).mp member).2

include plain in
/-- Fingerprints are equal if and only if the properties of the connection are. -/
theorem fingerprint_eq_iff (otherPlain : other.IsPlain) {fingerprint otherFingerprint : String}
    (given : config.fingerprint = .ok fingerprint)
    (otherGiven : other.fingerprint = .ok otherFingerprint) :
    fingerprint = otherFingerprint ↔ config.SameConnection other := by
  rw [fingerprint_eq plain.external] at given
  rw [fingerprint_eq otherPlain.external] at otherGiven
  rw [Json.encode_tableOf_eq_iff plain.of_mem_connection otherPlain.of_mem_connection
    (nodup_connection plain.distinct) given otherGiven]
  exact connection_perm_iff plain.distinct otherPlain.distinct

include plain in
/-- There is a fingerprint unless a whole number is too long to be written. -/
theorem exists_fingerprint_iff : (exists fingerprint, config.fingerprint = .ok fingerprint) ↔
    forall name value, isConnectionName name = true ->
      config.properties.get? name = some value -> Json.IsWritable value := by
  rw [fingerprint_eq plain.external, Json.exists_encode_tableOf_iff plain.of_mem_connection]
  simp only [mem_connection plain.distinct, Prod.forall, and_imp]

include plain in
/-- No fingerprint is that of the built-in configuration. -/
theorem fingerprint_ne_empty {fingerprint : String} (given : config.fingerprint = .ok fingerprint) :
    fingerprint ≠ "" := by
  rw [fingerprint_eq plain.external] at given
  rcases Json.encode_tableOf.mp given with ⟨members, -, rfl⟩
  intro empty
  have chars := congrArg String.toList empty
  rw [Json.toList_object] at chars
  cases chars

end Fingerprints

end Config

namespace ConnectionParams

open Config (SameConnection connectionHead optionHead isConnectionName)

/-! ## Parameters -/

/-- Parameters that differ at most in the order of the driver options. -/
def Matches (params other : ConnectionParams) : Prop :=
  exists options, other = { params with options := options } ∧ params.options.Perm options

/-- Nothing is checked of the driver options. -/
theorem ofFields_options (fields : ConnectionFields) (options : List (Value × Value)) :
    ofFields { fields with options := some (.table options) } =
      (ofFields { fields with options := none }).map fun params =>
        { params with options := options } := by
  unfold ofFields
  cases dialectOf fields.dbms with
  | error fault => rfl
  | ok dialect =>
      dsimp only [bind, Except.bind]
      cases !fields.database.isTrue with
      | true => rfl
      | false =>
          cases dialect.requiresHost && !fields.host.isTrue with
          | true => rfl
          | false => cases portOf fields.port <;> rfl

/-- The fields that a configuration sets, but for the driver options. -/
def configuredFields (config : Config) : ConnectionFields where
  dbms := config.get (connectionHead ++ "dbms")
  database := config.get (connectionHead ++ "database")
  host := config.get (connectionHead ++ "host")
  port := config.get (connectionHead ++ "port")
  username := config.get (connectionHead ++ "username")
  password := config.get (connectionHead ++ "password")

/-- The check of the fields that a configuration sets. -/
def checkConfigured (fields : ConnectionFields) : Except Fault ConnectionParams := do
  if fields.dbms.isNull then throw (missing "configuration property: db.dbms")
  if fields.database.isNull then throw (missing "configuration property: db.database")
  ofFields fields

theorem ofConfig_eq (config : Config) : ofConfig config =
    (checkConfigured (configuredFields config)).map fun params =>
      { params with options := config.options.map fun option => (.text option.1, option.2) } := by
  have checked := ofFields_options (configuredFields config)
    (config.options.map fun option => (.text option.1, option.2))
  unfold ofConfig checkConfigured
  dsimp only [configuredFields] at checked ⊢
  by_cases dbms : (config.get (connectionHead ++ "dbms")).isNull = true
  · simp only [dbms, if_true]
    rfl
  · simp only [dbms, Bool.false_eq_true, if_false]
    by_cases database : (config.get (connectionHead ++ "database")).isNull = true
    · simp only [database, if_true]
      rfl
    · simp only [database, Bool.false_eq_true, if_false]
      exact checked

theorem isConnectionName_append (name : String) :
    isConnectionName (connectionHead ++ name) = true := by
  have head : connectionHead.toList.isPrefixOf (connectionHead ++ name).toList = true := by
    rw [String.toList_append, List.isPrefixOf_iff_prefix]
    exact List.prefix_append _ _
  unfold isConnectionName Text.afterHead?
  rw [if_pos head]
  rfl

/-- The name of a driver option is that of a property of the connection. -/
theorem isConnectionName_of_option {name option : String}
    (head : Text.afterHead? optionHead name = some option) : isConnectionName name = true := by
  unfold Text.afterHead? at head
  split at head
  next begins =>
    have longer : connectionHead.toList <+: optionHead.toList := by decide
    have begun := longer.trans (List.isPrefixOf_iff_prefix.mp begins)
    unfold isConnectionName Text.afterHead?
    rw [if_pos (List.isPrefixOf_iff_prefix.mpr begun)]
    rfl
  next => cases head

theorem options_eq (config : Config) :
    config.options = config.connection.filterMap fun entry =>
      (Text.afterHead? optionHead entry.1).map fun option => (option, entry.2) := by
  unfold Config.options Config.connection
  rw [List.filterMap_filter]
  refine List.filterMap_congr fun entry _ => ?_
  cases head : Text.afterHead? optionHead entry.1 with
  | none => simp [head]
  | some option => simp [head, isConnectionName_of_option head]

/-- Configurations of one connection give the same parameters, or neither gives any. -/
theorem ofConfig_matches {config other : Config} (distinct : config.properties.keys.Nodup)
    (otherDistinct : other.properties.keys.Nodup) (same : config.SameConnection other)
    {params : ConnectionParams} (given : ofConfig config = .ok params) :
    exists otherParams, ofConfig other = .ok otherParams ∧ params.Matches otherParams := by
  have fields : configuredFields config = configuredFields other := by
    have field (name : String) :
        config.get (connectionHead ++ name) = other.get (connectionHead ++ name) := by
      unfold Config.get
      rw [same _ (isConnectionName_append name)]
    simp only [configuredFields, field]
  have options : config.options.Perm other.options := by
    rw [options_eq, options_eq]
    exact ((Config.connection_perm_iff distinct otherDistinct).mpr same).filterMap _
  rw [ofConfig_eq, fields] at given
  rw [ofConfig_eq]
  cases checked : checkConfigured (configuredFields other) with
  | error fault =>
      rw [checked] at given
      cases given
  | ok params =>
      rw [checked] at given
      cases given
      exact ⟨_, rfl, _, rfl, options.map _⟩

end ConnectionParams
end SqlGateway
