import SqlGateway.Adapter.Connect
import SqlGateway.Connection.Source
import SqlGateway.Proofs.Connection.Checked
import SqlGateway.Proofs.Connection.TextReading
import SqlGateway.Proofs.Number.NumeralText

namespace SqlGateway

/-!
# Switches that are set by texts

Variables of the environment, and often properties as well, set a driver option to a text.  The
library reads a text by its words where it sets one of the library's own switches, so that `no` is
off.  For the two switches of an ODBC connection text it does not: there every text is on but the
empty one.

The setting is followed from its source to the connection text.  It becomes a property of the
configuration, an option of the connection parameters and one of the options for the driver, and
it ends as the answer to a keyword, where a driver reads it.
-/

/-! ## From a source to the options of the driver -/

namespace ConfigSource

open Config (optionHead propertyName variableHead)

/-- A source sets a driver option to a text, by a property or by a variable of the environment.
What is set last counts. -/
inductive Sets (option setting : String) : ConfigSource → Prop where
  | byProperty (builtin : Bool) (before after : List (String × Value))
      (last : forall entry, entry ∈ after -> entry.1 ≠ optionHead ++ option) :
      Sets option setting
        (.properties builtin (before ++ (optionHead ++ option, .text setting) :: after))
  | byVariable (rest : String) (named : propertyName rest = optionHead ++ option)
      (before after : List (String × String))
      (last : forall entry, entry ∈ after -> forall rest, entry.1 = variableHead ++ rest ->
        propertyName rest ≠ optionHead ++ option) :
      Sets option setting (.environment (before ++ (variableHead ++ rest, setting) :: after))

/-- A source with nothing but texts, as every environment is. -/
def IsTextual : ConfigSource → Prop
  | .properties _ given => forall entry, entry ∈ given -> exists content, entry.2 = .text content
  | .environment _ => True

/-- The property that a variable of the environment sets, if it sets one. -/
def propertyOf (entry : String × String) : Option (String × Value) :=
  (Text.afterHead? variableHead entry.1).map fun rest => (propertyName rest, .text entry.2)

theorem propertyOf_eq_some {entry : String × String} {property : String × Value} :
    propertyOf entry = some property ↔
      exists rest, entry.1 = variableHead ++ rest ∧ (propertyName rest, .text entry.2) = property := by
  unfold propertyOf
  rw [Option.map_eq_some_iff]
  simp only [Text.afterHead?_eq_some_iff]

theorem config_environment (pairs : List (String × String)) :
    (environment pairs).config.properties = Dictionary.ofList (pairs.filterMap propertyOf) :=
  rfl

theorem Sets.get? {option setting : String} {source : ConfigSource}
    (sets : source.Sets option setting) :
    source.config.properties.get? (optionHead ++ option) = some (.text setting) := by
  cases sets with
  | byProperty builtin before after last =>
      exact Dictionary.get?_ofList_last before (.text setting) last
  | byVariable rest named before after last =>
      have own : propertyOf (variableHead ++ rest, setting) =
          some (optionHead ++ option, .text setting) :=
        propertyOf_eq_some.mpr ⟨rest, rfl, by rw [named]⟩
      rw [config_environment, List.filterMap_append, List.filterMap_cons_some own]
      refine Dictionary.get?_ofList_last _ _ fun property member => ?_
      rcases List.mem_filterMap.mp member with ⟨entry, listed, isSet⟩
      rcases propertyOf_eq_some.mp isSet with ⟨other, same, rfl⟩
      exact last entry listed other same

theorem IsTextual.get {source : ConfigSource} (textual : source.IsTextual) (name : String) :
    ConnectionText.IsTextual (source.config.get name) := by
  unfold Config.get
  cases found : source.config.properties.get? name with
  | none => exact .inl rfl
  | some value =>
      refine .inr ?_
      cases source with
      | properties builtin given => exact textual _ (Dictionary.mem_of_get?_ofList found)
      | environment pairs =>
          rcases List.mem_filterMap.mp (Dictionary.mem_of_get?_ofList found) with ⟨entry, -, isSet⟩
          rcases propertyOf_eq_some.mp isSet with ⟨rest, -, same⟩
          exact ⟨entry.2, (congrArg Prod.snd same).symm⟩

/-- An ODBC configuration comes to parameters and to options for the driver. -/
structure Reaches (source : ConfigSource) (params : ConnectionParams)
    (options : List (String × Value)) : Prop where
  configured : ConnectionParams.ofConfig source.config = .ok params
  adapter : Adapter.ofDialect params.dialect = .ok .odbc
  resolved : Adapter.odbc.resolveOptions params = .ok options

end ConfigSource

/-- The options of the library are taken out, and the others stay as they are. -/
theorem Adapter.lookup_driverOptions {adapter : Adapter} {params : ConnectionParams}
    {given options : List (String × Value)}
    (resolved : adapter.driverOptions params (given.map fun option => (.text option.1, option.2)) =
      .ok options) {name : String} (others : ConnectionParams.ownOptions.lookup name = none) :
    options.lookup name = given.lookup name := by
  induction given generalizing options with
  | nil =>
      cases resolved
      rfl
  | cons option rest inductionHypothesis =>
      rcases option with ⟨other, value⟩
      rw [List.map_cons, driverOptions] at resolved
      split at resolved
      next own =>
        have different : name ≠ other := by
          rintro rfl
          rw [others] at own
          cases own
        rw [inductionHypothesis resolved, List.lookup_cons, beq_false_of_ne different]
      next =>
        split at resolved
        next =>
          cases later : adapter.driverOptions params
              (rest.map fun option => (.text option.1, option.2)) with
          | error fault =>
              rw [later] at resolved
              cases resolved
          | ok found =>
              rw [later] at resolved
              cases resolved
              rw [List.lookup_cons, List.lookup_cons, inductionHypothesis later]
        next => cases resolved

theorem ConfigSource.Reaches.lookup {source : ConfigSource} {params : ConnectionParams}
    {options : List (String × Value)} (reaches : source.Reaches params options) {option : String}
    (others : ConnectionParams.ownOptions.lookup option = none) :
    options.lookup option = source.config.properties.get? (Config.optionHead ++ option) := by
  have resolved := reaches.resolved
  unfold Adapter.resolveOptions at resolved
  rw [(ConnectionParams.ofConfig_eq_ok.mp reaches.configured).2] at resolved
  rw [Adapter.lookup_driverOptions resolved others, Config.lookup_options]

namespace ConnectionText

/-! ## From the options to the connection text -/

/-- A keyword of a connection text is the switch for an option. -/
inductive Switches : String → String → Prop where
  | encryption : Switches "encrypt" "Encrypt"
  | trust : Switches "trust_server_certificate" "TrustServerCertificate"

variable {params : ConnectionParams} {options fields : List (String × Value)}
  {option keyword : String}

theorem Switches.others (switches : Switches option keyword) :
    ConnectionParams.ownOptions.lookup option = none := by
  cases switches <;> rfl

/-- The keyword of a switch that is set stands once among the keywords. -/
theorem keywords_switch (switches : Switches option keyword)
    (asks : keywords params options = .ok fields) {setting : Value}
    (set : options.lookup option = some setting) :
    fields.filter (fun field => field.1 == keyword) = [(keyword, switchText setting)] := by
  unfold keywords at asks
  cases named : server params with
  | error fault =>
      rw [named] at asks
      cases asks
  | ok server =>
      rw [named] at asks
      cases asks
      rw [List.filter_append, List.filter_comm]
      cases switches with
      | encryption => cases trust : options.lookup "trust_server_certificate" <;> simp [set, trust]
      | trust => cases encryption : options.lookup "encrypt" <;> simp [set, encryption]

/-- What is written of a keyword does not depend on the others. -/
theorem written_filter {entries : List (String × List Char)} (writes : written fields = .ok entries)
    (keyword : String) :
    written (fields.filter fun field => field.1 == keyword) =
      .ok (entries.filter fun entry => entry.1 == keyword) := by
  induction fields generalizing entries with
  | nil =>
      cases writes
      rfl
  | cons field fields inductionHypothesis =>
      rcases field with ⟨other, value⟩
      rw [written] at writes
      cases text : value.toText with
      | error fault =>
          rw [text] at writes
          cases writes
      | ok content =>
          cases rest : written fields with
          | error fault =>
              rw [text, rest] at writes
              cases writes
          | ok others =>
              rw [text, rest] at writes
              cases writes
              have later := inductionHypothesis rest
              by_cases same : other = keyword
              · have matched : (other == keyword) = true := beq_iff_eq.mpr same
                simp only [List.filter_cons, matched, if_true, written, text, later]
                rfl
              · have unmatched : (other == keyword) = false := beq_false_of_ne same
                simp only [List.filter_cons, unmatched, Bool.false_eq_true, if_false, later]

/-- A driver reads the keywords that were written. -/
theorem read_of_made {blank : Char → Bool}
    (within : forall character, blank character = true -> Text.isBlank character = true)
    {text : String} (made : ofParams params options = .ok text) :
    exists fields entries, keywords params options = .ok fields ∧ written fields = .ok entries ∧
      read blank text = some (shown entries) := by
  unfold ofParams at made
  cases asks : keywords params options with
  | error fault =>
      rw [asks] at made
      cases made
  | ok fields =>
      rw [asks] at made
      cases writes : written fields with
      | error fault =>
          change (written fields >>= _ : Except Fault String) = _ at made
          rw [writes] at made
          cases made
      | ok entries =>
          change (written fields >>= _ : Except Fault String) = _ at made
          rw [writes] at made
          cases made
          refine ⟨fields, entries, rfl, writes, ?_⟩
          rw [read, String.toList_ofList]
          refine readFrom_chars within entries fun entry member => keywords_free asks _ ?_
          rw [← written_names writes]
          exact List.mem_map_of_mem member

/-! ## There is a connection text -/

theorem IsTextual.toText {value : Value} (textual : IsTextual value) :
    exists text, value.toText = .ok text := by
  rcases textual with rfl | ⟨content, rfl⟩
  · exact ⟨_, rfl⟩
  · exact ⟨_, rfl⟩

theorem exists_written (textual : forall field, field ∈ fields -> IsTextual field.2) :
    exists entries, written fields = .ok entries := by
  induction fields with
  | nil => exact ⟨[], rfl⟩
  | cons field fields inductionHypothesis =>
      rcases (textual field List.mem_cons_self).toText with ⟨text, isText⟩
      rcases inductionHypothesis fun other member =>
        textual other (List.mem_cons_of_mem field member) with ⟨entries, writes⟩
      rw [written, isText, writes]
      exact ⟨_, rfl⟩

theorem exists_server (textual : IsTextual params.host)
    (numbered : forall number, params.port = some number ->
      exists text, Numeral.write? number = some text) :
    exists named, server params = .ok named ∧ IsTextual named := by
  unfold server
  split
  next present =>
    cases given : params.port with
    | none =>
        rw [ConnectionParams.hasPort, given] at present
        cases present
    | some number =>
        rcases numbered number given with ⟨port, isPort⟩
        rcases textual.toText with ⟨host, isHost⟩
        have isText : params.portValue.toText = .ok port := by
          rw [ConnectionParams.portValue, given]
          change Value.intText number = .ok port
          rw [Value.intText, isPort]
        rw [isHost, isText]
        exact ⟨_, rfl, .inr ⟨_, rfl⟩⟩
  next => exact ⟨params.host, rfl, textual⟩

/-- Where nothing but texts is given, there is a connection text. -/
theorem exists_ofParams
    (textual : forall value, value ∈ [optionValue options "driver", optionValue options "dsn",
      params.host, params.database, params.username, params.password] -> IsTextual value)
    (numbered : forall number, params.port = some number ->
      exists text, Numeral.write? number = some text) :
    exists text, ofParams params options = .ok text := by
  rcases exists_server (textual params.host (by simp)) numbered with ⟨named, isNamed, server⟩
  cases asks : keywords params options with
  | error fault =>
      unfold keywords at asks
      rw [isNamed] at asks
      cases asks
  | ok fields =>
      have texts : forall field, field ∈ fields -> IsTextual field.2 := by
        unfold keywords at asks
        rw [isNamed] at asks
        cases asks
        intro field member
        rcases List.mem_append.mp member with listed | switch
        · have among := (List.mem_filter.mp listed).1
          simp only [List.mem_cons, List.not_mem_nil, or_false] at among
          rcases among with rfl | rfl | rfl | rfl | rfl | rfl
          case inr.inr.inl => exact server
          all_goals exact textual _ (by simp)
        · rcases List.mem_filterMap.mp switch with ⟨source, -, set⟩
          rcases Option.map_eq_some_iff.mp set with ⟨setting, -, rfl⟩
          exact .inr ⟨_, rfl⟩
      rcases exists_written texts with ⟨entries, writes⟩
      unfold ofParams
      rw [asks]
      change exists text, (written fields >>= _ : Except Fault String) = .ok text
      rw [writes]
      exact ⟨_, rfl⟩

/-- The number of a port that was a text can be written. -/
theorem write?_of_portOf {port : Value} (textual : IsTextual port) {number : Int}
    (checked : ConnectionParams.portOf port = .ok (some number)) :
    exists text, Numeral.write? number = some text := by
  rcases textual with rfl | ⟨content, rfl⟩
  · cases checked
  · unfold ConnectionParams.portOf at checked
    split at checked
    next => cases checked
    next => cases checked
    next => cases checked
    next =>
      cases reads : Numeral.read? content.toList with
      | none =>
          rw [Value.toInt, reads] at checked
          cases checked
      | some found =>
          rw [Value.toInt, reads] at checked
          cases checked
          exact Numeral.write?_of_read? reads

/-! ## What a switch that is set comes to -/

theorem exists_ofParams_of_reaches {source : ConfigSource} (reaches : source.Reaches params options)
    (textual : source.IsTextual) : exists text, ofParams params options = .ok text := by
  have checked := (ConnectionParams.ofConfig_eq_ok.mp reaches.configured).1
  have option (name : String) (others : ConnectionParams.ownOptions.lookup name = none) :
      IsTextual (optionValue options name) := by
    unfold optionValue
    rw [reaches.lookup others]
    exact textual.get _
  apply exists_ofParams
  · intro value listed
    simp only [List.mem_cons, List.not_mem_nil, or_false] at listed
    rcases listed with rfl | rfl | rfl | rfl | rfl | rfl
    · exact option "driver" rfl
    · exact option "dsn" rfl
    · exact checked.host ▸ textual.get _
    · exact checked.database ▸ textual.get _
    · exact checked.username ▸ textual.get _
    · exact checked.password ▸ textual.get _
  · intro number given
    exact write?_of_portOf (textual.get _) (given ▸ checked.port)

def answer (on : Bool) : String := if on then "yes" else "no"

/-- Where a source sets the switch of an ODBC connection to a text, every driver reads one answer to
the keyword in the connection text: yes, unless the text is empty.  There is a connection text if
the source has nothing but texts.  The answer is that of the library's own switches only if the
text is empty or they are on with it. -/
theorem switched_on_unless_empty {blank : Char → Bool}
    (within : forall character, blank character = true -> Text.isBlank character = true)
    {source : ConfigSource} (reaches : source.Reaches params options)
    (switches : Switches option keyword) {setting : String} (sets : source.Sets option setting) :
    (forall text, ofParams params options = .ok text ->
      exists entries, read blank text = some entries ∧
        entries.filter (fun entry => entry.1 == keyword) =
          [(keyword, answer (setting ≠ ""))]) ∧
    (source.IsTextual -> exists text, ofParams params options = .ok text) ∧
    (answer (setting ≠ "") = answer (Value.text setting).asSwitch ↔
      setting = "" ∨ (Value.text setting).asSwitch = true) := by
  refine ⟨fun text made => ?_, exists_ofParams_of_reaches reaches, ?_⟩
  · rcases read_of_made within made with ⟨fields, entries, asks, writes, reads⟩
    refine ⟨shown entries, reads, ?_⟩
    have set : options.lookup option = some (.text setting) := by
      rw [reaches.lookup switches.others, sets.get?]
    have alone := written_filter writes keyword
    rw [keywords_switch switches asks set] at alone
    have answered : entries.filter (fun entry => entry.1 == keyword) =
        [(keyword, (answer (Value.text setting).isTrue).toList)] :=
      (Except.ok.inj alone).symm
    have on : (Value.text setting).isTrue = decide (setting ≠ "") := by
      rw [Value.isTrue, decide_not, ← Bool.decide_coe setting.isEmpty,
        decide_eq_decide.mpr String.isEmpty_iff]
    unfold shown
    rw [List.filter_map]
    change shown (entries.filter fun entry => entry.1 == keyword) = _
    rw [answered, shown_cons, on]
    rfl
  · by_cases empty : setting = ""
    · subst empty
      decide
    · cases (Value.text setting).asSwitch <;> simp [answer, empty]

/-- An environment whose operator wants certificates to be checked. -/
def careful : ConfigSource := .environment [("SQLBRIDGE_DB_DBMS", "odbc"),
  ("SQLBRIDGE_DB_HOST", "h"), ("SQLBRIDGE_DB_DATABASE", "d"),
  ("SQLBRIDGE_DB_OPTIONS_TRUST_SERVER_CERTIFICATE", "no")]

/-- The parameters that it comes to. -/
def carefulParams : ConnectionParams where
  dialect := .bracketQuoted "odbc" .question "odbc"
  database := .text "d"
  host := .text "h"
  port := none
  username := .null
  password := .null
  options := [(.text "trust_server_certificate", .text "no")]

theorem careful_reaches :
    careful.Reaches carefulParams [("trust_server_certificate", .text "no")] :=
  ⟨rfl, rfl, rfl⟩

theorem careful_sets : careful.Sets "trust_server_certificate" "no" :=
  .byVariable "OPTIONS_TRUST_SERVER_CERTIFICATE" rfl [_, _, _] [] nofun

/-- Certificates are not checked: the switch is off for the library, and on for the driver. -/
theorem switched_on_of_careful :
    (exists text entries,
      ofParams carefulParams [("trust_server_certificate", .text "no")] = .ok text ∧
        read Char.isWhitespace text = some entries ∧
        entries.filter (fun entry => entry.1 == "TrustServerCertificate") =
          [("TrustServerCertificate", answer true)]) ∧
      answer true ≠ answer (Value.text "no").asSwitch := by
  rcases switched_on_unless_empty Text.isBlank_of_isWhitespace careful_reaches .trust
    careful_sets with ⟨reads, made, agrees⟩
  rcases made trivial with ⟨text, makes⟩
  rcases reads text makes with ⟨entries, read, answered⟩
  exact ⟨⟨text, entries, makes, read, answered⟩, fun same => absurd (agrees.mp same) (by decide)⟩

/-- What the driver of that environment is told. -/
theorem careful_text :
    careful.Sets "trust_server_certificate" "no" ∧
      careful.Reaches carefulParams [("trust_server_certificate", .text "no")] ∧
      ofParams carefulParams [("trust_server_certificate", .text "no")] =
        .ok "SERVER=h;DATABASE=d;TrustServerCertificate=yes" ∧
      (Value.text "no").asSwitch = false :=
  ⟨careful_sets, careful_reaches, rfl, by decide⟩

end ConnectionText
end SqlGateway
