import Mathlib.Data.List.Forall2
import SqlGateway.Connection.Source
import SqlGateway.Adapter.Connect
import SqlGateway.Proofs.Operation.Matched

namespace SqlGateway

/-!
# Connection parameters that differ in the password

Whoever gives connection parameters gives a password with them, or none.  What is made of them
depends on whether there is one, and on whether it has a text, but not on which it is.  So all
ways to give parameters succeed with both of two passwords or fail with one fault, and so do the
arguments that the drivers are opened with.
-/

/-! ## Passwords -/

namespace Value

/-- A password with nothing left of it but that it is given.  A value that is missing or has no text
is kept. -/
def redacted (password : Value) : Value :=
  if password.isNull then password
  else
    match password.toText with
    | .ok _ => .text ""
    | .error _ => password

/-- Both passwords are missing, or both are given; if they are not the same, both have texts. -/
def SamePassword (first second : Value) : Prop := second.redacted = first.redacted

theorem isNull_redacted (password : Value) : password.redacted.isNull = password.isNull := by
  unfold redacted
  by_cases missing : password.isNull
  · rw [if_pos missing]
  · rw [if_neg missing]
    cases password.toText with
    | ok text => exact (Bool.eq_false_iff.mpr missing).symm
    | error fault => rfl

theorem SamePassword.isNull {first second : Value} (same : first.SamePassword second) :
    second.isNull = first.isNull := by
  rw [← isNull_redacted second, same, isNull_redacted]

theorem toText_redacted (password : Value) :
    Corresponds (fun _ _ => True) password.redacted.toText password.toText := by
  unfold redacted
  split
  · cases password.toText with
    | ok text => exact .ok trivial
    | error fault => exact .error fault
  · cases written : password.toText with
    | ok text => exact .ok trivial
    | error fault =>
        dsimp only
        rw [written]
        exact .error fault

theorem SamePassword.toText {first second : Value} (same : first.SamePassword second) :
    Corresponds (fun _ _ => True) first.toText second.toText := by
  have one := toText_redacted first
  have other := toText_redacted second
  rw [same] at other
  generalize first.redacted.toText = shown at one other
  generalize first.toText = text at one ⊢
  generalize second.toText = otherText at other ⊢
  cases one with
  | ok _ =>
      cases other with
      | ok _ => exact .ok trivial
  | error fault =>
      cases other with
      | error fault => exact .error fault

end Value

/-- The parameters are the same but for the password. -/
def ConnectionParams.SameButPassword (first second : ConnectionParams) : Prop :=
  exists password, second = { first with password := password } ∧
    first.password.SamePassword password

theorem ConnectionParams.SameButPassword.refl (params : ConnectionParams) :
    params.SameButPassword params :=
  ⟨params.password, rfl, rfl⟩

/-! ## Fields -/

namespace ConnectionFields

def SameButPassword (first second : ConnectionFields) : Prop :=
  exists password, second = { first with password := password } ∧
    first.password.SamePassword password

theorem SameButPassword.refl (fields : ConnectionFields) : fields.SameButPassword fields :=
  ⟨fields.password, rfl, rfl⟩

def redactedPair (pair : String × Value) : String × Value :=
  if pair.1 = "password" then (pair.1, pair.2.redacted) else pair

/-- The pairs set one field to one value, or to one of two passwords. -/
theorem redactedPair_cases {pair other : String × Value}
    (same : redactedPair pair = redactedPair other) :
    pair = other ∨ pair.1 = "password" ∧ other.1 = "password" ∧ pair.2.SamePassword other.2 := by
  have names : other.1 = pair.1 := by
    have kept (pair : String × Value) : (redactedPair pair).1 = pair.1 := by
      unfold redactedPair
      split <;> rfl
    rw [← kept other, ← same, kept]
  unfold redactedPair at same
  rw [names] at same
  by_cases named : pair.1 = "password"
  · rw [if_pos named, if_pos named] at same
    exact Or.inr ⟨named, names.trans named, (congrArg Prod.snd same).symm⟩
  · rw [if_neg named, if_neg named] at same
    exact Or.inl same

/-- Every field but the password is set to one side and to the other. -/
theorem SameButPassword.set {fields others : ConnectionFields}
    (same : fields.SameButPassword others) {pair other : String × Value}
    (samePair : redactedPair pair = redactedPair other) :
    (fields.set pair.1 pair.2).SameButPassword (others.set other.1 other.2) := by
  rcases same with ⟨password, rfl, same⟩
  rcases redactedPair_cases samePair with rfl | ⟨named, otherNamed, samePassword⟩
  · unfold ConnectionFields.set
    split
    case h_6 => exact ⟨pair.2, rfl, rfl⟩
    all_goals exact ⟨password, rfl, same⟩
  · rw [named, otherNamed]
    exact ⟨other.2, rfl, samePassword⟩

theorem ofList_same {pairs others : List (String × Value)}
    (same : List.Forall₂ (fun pair other => redactedPair pair = redactedPair other) pairs others) :
    (ofList pairs).SameButPassword (ofList others) :=
  List.rel_foldl (fun _ _ same _ _ samePair => same.set samePair) (.refl {}) same

theorem names_same {pairs others : List (String × Value)}
    (same : List.Forall₂ (fun pair other => redactedPair pair = redactedPair other) pairs others) :
    others.map Prod.fst = pairs.map Prod.fst := by
  induction same with
  | nil => rfl
  | @cons pair other pairs others samePair _ inductionHypothesis =>
      have name : other.1 = pair.1 := by
        rcases redactedPair_cases samePair with rfl | ⟨named, otherNamed, -⟩
        · rfl
        · rw [named, otherNamed]
      rw [List.map_cons, List.map_cons, name, inductionHypothesis]

end ConnectionFields

/-- Lists that look the same through a function, member by member. -/
theorem forall₂_of_map_eq {α β : Type} {view : α → β} {first second : List α}
    (same : first.map view = second.map view) :
    List.Forall₂ (fun member other => view member = view other) first second := by
  have members : List.Forall₂ Eq (first.map view) (second.map view) := by
    rw [List.forall₂_eq_eq_eq]
    exact same
  exact List.forall₂_map_left_iff.mp (List.forall₂_map_right_iff.mp members)

namespace ConnectionParams

open ConnectionFields (redactedPair)

/-- The password is checked for nothing. -/
theorem ofFields_same {fields others : ConnectionFields} (same : fields.SameButPassword others) :
    Corresponds SameButPassword (ofFields fields) (ofFields others) := by
  rcases same with ⟨password, rfl, same⟩
  unfold ofFields
  refine .afterSame _ fun dialect => ?_
  dsimp only
  split
  · exact .error _
  split
  · exact .error _
  refine .afterSame (portOf fields.port) fun port => ?_
  split <;> exact .afterSame _ fun options => .ok ⟨password, rfl, same⟩

theorem ofNamedFields_same {pairs others : List (String × Value)}
    (same : pairs.map redactedPair = others.map redactedPair) :
    Corresponds SameButPassword (ofNamedFields pairs) (ofNamedFields others) := by
  have members := forall₂_of_map_eq same
  unfold ofNamedFields
  rw [ConnectionFields.names_same members]
  dsimp only
  split
  · exact ofFields_same (ConnectionFields.ofList_same members)
  · exact .error _

/-! ## Mappings -/

def redactedEntry (entry : Value × Value) : Value × Value :=
  match entry.1 with
  | .text "password" => (entry.1, entry.2.redacted)
  | _ => entry

/-- The field that an entry of a mapping sets to something. -/
def givenField? (entry : Value × Value) : Option (String × Value) :=
  match entry.1 with
  | .text name => if entry.2.isNull then none else some (name, entry.2)
  | _ => none

theorem redactedEntry_cases {entry other : Value × Value}
    (same : redactedEntry entry = redactedEntry other) :
    entry = other ∨
      entry.1 = .text "password" ∧ other.1 = .text "password" ∧ entry.2.SamePassword other.2 := by
  have keys : other.1 = entry.1 := by
    have kept (entry : Value × Value) : (redactedEntry entry).1 = entry.1 := by
      unfold redactedEntry
      split <;> rfl
    rw [← kept other, ← same, kept]
  unfold redactedEntry at same
  rw [keys] at same
  split at same
  · rename_i named
    exact Or.inr ⟨named, keys.trans named, (congrArg Prod.snd same).symm⟩
  · exact Or.inl same

theorem givenField?_same {entry other : Value × Value}
    (same : redactedEntry entry = redactedEntry other) :
    Option.Rel (fun pair other => redactedPair pair = redactedPair other)
      (givenField? entry) (givenField? other) := by
  rcases redactedEntry_cases same with rfl | ⟨named, otherNamed, samePassword⟩
  · cases givenField? entry with
    | none => exact .none
    | some pair => exact .some rfl
  · unfold givenField?
    rw [named, otherNamed]
    dsimp only
    rw [samePassword.isNull]
    split
    · exact .none
    · exact .some (congrArg (Prod.mk "password") samePassword.symm)

theorem givenFields_same {entries others : List (Value × Value)}
    (same : List.Forall₂ (fun entry other => redactedEntry entry = redactedEntry other)
      entries others) :
    List.Forall₂ (fun pair other => redactedPair pair = redactedPair other)
      (givenFields entries) (givenFields others) :=
  List.rel_filterMap (fun _ _ sameEntry => givenField?_same sameEntry) same

/-- The names are checked alike. -/
theorem checkNames_same {entries others : List (Value × Value)}
    (same : List.Forall₂ (fun entry other => redactedEntry entry = redactedEntry other)
      entries others) :
    (others.forM fun entry => checkName entry.1) = entries.forM fun entry => checkName entry.1 := by
  induction same with
  | nil => rfl
  | @cons entry other entries others sameEntry _ inductionHypothesis =>
      have key : other.1 = entry.1 := by
        rcases redactedEntry_cases sameEntry with rfl | ⟨named, otherNamed, -⟩
        · rfl
        · rw [named, otherNamed]
      change (checkName other.1 >>= fun _ => others.forM fun entry => checkName entry.1) =
        (checkName entry.1 >>= fun _ => entries.forM fun entry => checkName entry.1)
      rw [key, inductionHypothesis]

theorem ofMapping_same {entries others : List (Value × Value)}
    (same : entries.map redactedEntry = others.map redactedEntry) :
    Corresponds SameButPassword (ofMapping entries) (ofMapping others) := by
  have members := forall₂_of_map_eq same
  have given := givenFields_same members
  rcases ConnectionFields.ofList_same given with ⟨password, ofOthers, samePassword⟩
  unfold ofMapping
  rw [checkNames_same members]
  refine .afterSame _ fun _ => ?_
  dsimp only
  rw [ConnectionFields.names_same given, ofOthers]
  split
  · exact .error _
  · exact ofFields_same ⟨password, rfl, samePassword⟩

/-- A mapping with the password in it redacted; another value is kept. -/
def redactedMapping : Value → Value
  | .mapping form entries => .mapping form (entries.map redactedEntry)
  | value => value

theorem ofValue_same {value other : Value} (same : redactedMapping value = redactedMapping other) :
    Corresponds SameButPassword (ofValue value) (ofValue other) := by
  have refl (value : Value) : Corresponds SameButPassword (ofValue value) (ofValue value) := by
    cases ofValue value with
    | ok params => exact .ok (.refl params)
    | error fault => exact .error fault
  unfold redactedMapping at same
  split at same <;> split at same
  · rcases Value.mapping.inj same with ⟨rfl, sameEntries⟩
    exact ofMapping_same sameEntries
  · rename_i noMapping
    exact absurd same.symm (noMapping _ _)
  · rename_i noMapping _ _ _
    exact absurd same (noMapping _ _)
  · rw [same]
    exact refl _

end ConnectionParams

/-- A description of a connection with the password redacted, unless it is in a configuration. -/
def ParamsSource.redacted : ParamsSource → ParamsSource
  | .mapping entries => .mapping (entries.map ConnectionParams.redactedEntry)
  | .config source => .config source
  | .fields given => .fields (given.map ConnectionFields.redactedPair)

theorem ParamsSource.params_same {source other : ParamsSource}
    (same : source.redacted = other.redacted) :
    Corresponds ConnectionParams.SameButPassword source.params other.params := by
  cases source with
  | mapping entries =>
      cases other with
      | mapping others => exact ConnectionParams.ofMapping_same (ParamsSource.mapping.inj same)
      | config _ => cases same
      | fields _ => cases same
  | config source =>
      cases other with
      | mapping _ => cases same
      | config other =>
          cases same
          change Corresponds _ (ConnectionParams.ofConfig source.config)
            (ConnectionParams.ofConfig source.config)
          cases ConnectionParams.ofConfig source.config with
          | ok params => exact .ok (.refl params)
          | error fault => exact .error fault
      | fields _ => cases same
  | fields given =>
      cases other with
      | mapping _ => cases same
      | config _ => cases same
      | fields others => exact ConnectionParams.ofNamedFields_same (ParamsSource.fields.inj same)

/-! ## Opening a connection -/

namespace Adapter

section Text

/-- Two fields of a connection text with one keyword, and with one value or two passwords. -/
def SameField (field other : String × Value) : Prop :=
  field.1 = other.1 ∧ field.2.SamePassword other.2

theorem written_same {fields others : List (String × Value)}
    (same : List.Forall₂ SameField fields others) :
    Corresponds (fun _ _ => True) (ConnectionText.written fields)
      (ConnectionText.written others) := by
  induction same with
  | nil => exact .ok trivial
  | cons sameField _ inductionHypothesis =>
      exact .bind sameField.2.toText fun _ _ _ =>
        .bind inductionHypothesis fun _ _ _ => .ok trivial

/-- Whether a field is left out does not depend on which password it has. -/
theorem present_same {fields others : List (String × Value)}
    (same : List.Forall₂ SameField fields others) :
    List.Forall₂ SameField (fields.filter fun field => !field.2.isNull)
      (others.filter fun field => !field.2.isNull) := by
  refine List.rel_filter (fun field other sameField => ?_) same
  dsimp only
  rw [sameField.2.isNull]

theorem fields_refl (fields : List (String × Value)) : List.Forall₂ SameField fields fields :=
  List.forall₂_same.mpr fun _ _ => ⟨rfl, rfl⟩

end Text

variable {params others : ConnectionParams} (same : params.SameButPassword others)
include same

theorem resolveOptions_same (adapter : Adapter) :
    adapter.resolveOptions others = adapter.resolveOptions params := by
  rcases same with ⟨password, rfl, -⟩
  have handed (options : List (Value × Value)) :
      adapter.driverOptions { params with password := password } options =
        adapter.driverOptions params options := by
    induction options with
    | nil => rfl
    | cons option options inductionHypothesis =>
        rcases option with ⟨name, value⟩
        cases name
        case text name => simp only [driverOptions, inductionHypothesis, unsupportedOption]
        all_goals rfl
  exact handed params.options

theorem connectionText_same (options : List (String × Value)) :
    Corresponds (fun _ _ => True) (ConnectionText.ofParams params options)
      (ConnectionText.ofParams others options) := by
  rcases same with ⟨password, rfl, samePassword⟩
  have keywords : Corresponds (List.Forall₂ SameField) (ConnectionText.keywords params options)
      (ConnectionText.keywords { params with password := password } options) := by
    refine .afterSame (ConnectionText.server params) fun server => .ok ?_
    refine List.rel_append (present_same ?_) (fields_refl _)
    exact .cons ⟨rfl, rfl⟩ <| .cons ⟨rfl, rfl⟩ <| .cons ⟨rfl, rfl⟩ <| .cons ⟨rfl, rfl⟩ <|
      .cons ⟨rfl, rfl⟩ <| .cons ⟨rfl, samePassword⟩ .nil
  exact .bind keywords fun _ _ sameFields => .bind (written_same sameFields) fun _ _ _ =>
    .ok trivial

theorem connectKeywords_same (adapter : Adapter) (missing : List String)
    (options : List (String × Value)) :
    Corresponds (fun _ _ => True) (adapter.connectKeywords missing params options)
      (adapter.connectKeywords missing others options) := by
  rcases same with ⟨password, rfl, -⟩
  cases adapter with
  | firebird =>
      exact .afterSame (firebirdServer params) fun _ => .afterSame params.database.toText fun _ =>
        .ok trivial
  | mssql => exact .afterSame (portOr params 1433).toText fun _ => .ok trivial
  | mysql | odbc | postgres => exact .ok trivial
  | oracle => exact .afterSame (serviceName missing params) fun _ => .ok trivial
  | sqlite =>
      change Corresponds _ (Adapter.sqlite.connectKeywords missing params options)
        (Adapter.sqlite.connectKeywords missing params options)
      cases Adapter.sqlite.connectKeywords missing params options with
      | ok keywords => exact .ok trivial
      | error fault => exact .error fault

theorem connectArguments_same (adapter : Adapter) (missing : List String)
    (options : List (String × Value)) :
    Corresponds (fun _ _ => True) (adapter.connectArguments missing params options)
      (adapter.connectArguments missing others options) := by
  have keywords := connectKeywords_same same adapter missing options
  have rest (positional otherPositional : List Value) :
      Corresponds (fun _ _ : ConnectArguments => True)
      (do return ⟨positional, ← adapter.connectKeywords missing params options⟩)
      (do return ⟨otherPositional, ← adapter.connectKeywords missing others options⟩) :=
    .bind keywords fun _ _ _ => .ok trivial
  cases adapter with
  | odbc => exact .bind (connectionText_same same options) fun _ _ _ => rest _ _
  | firebird | mssql | mysql | oracle | postgres | sqlite => exact rest [] []

end Adapter
end SqlGateway
