import SqlGateway.Dictionary
import SqlGateway.Json.Writer
import SqlGateway.Text.Lowercase

namespace SqlGateway

/-!
The configuration of a project: named properties, of which those whose names begin
with `db.` describe the database connection.  Without a configuration of its own a
project is configured by variables of its environment.
-/

namespace Text

/-- What follows a head at the start of a text; `none` if the text starts otherwise. -/
def afterHead? (head text : String) : Option String :=
  if head.toList.isPrefixOf text.toList then
    some (String.ofList (text.toList.drop head.toList.length))
  else none

end Text

/-- A configuration.  The built-in one comes from the environment. -/
structure Config where
  builtin : Bool
  properties : Dictionary String Value
deriving Inhabited

namespace Config

/-- How the name of a property of the connection begins. -/
def connectionHead : String := "db."

def optionHead : String := "db.options."

/-- How the name of a variable of the environment begins that sets a property. -/
def variableHead : String := "SQLBRIDGE_DB_"

/-- A configuration from named properties. -/
def ofProperties (builtin : Bool) (properties : List (String × Value)) : Config :=
  ⟨builtin, Dictionary.ofList properties⟩

/-- The property that a variable sets, by the rest of the variable's name. -/
def propertyName (rest : String) : String :=
  let lowered := Text.lower rest
  match Text.afterHead? "options_" lowered with
  | some option => optionHead ++ option
  | none => connectionHead ++ lowered

/-- The built-in configuration of an environment. -/
def ofEnvironment (pairs : List (String × String)) : Config :=
  ofProperties true <| pairs.filterMap fun (name, value) =>
    (Text.afterHead? variableHead name).map fun rest => (propertyName rest, .text value)

def get (config : Config) (name : String) : Value := (config.properties.get? name).getD .null

def has (config : Config) (name : String) : Bool := config.properties.has name

def sortedNames (names : List String) : List String :=
  names.mergeSort fun first second => first ≤ second

/-- The displayed form of a configuration: the names of its properties. -/
def display (config : Config) : String :=
  (if config.builtin then "BuiltinConfig([" else "Config([") ++
    ", ".intercalate ((sortedNames config.properties.keys).map Text.quoted) ++ "])"

/-- The driver options of a configuration, by their names without the head. -/
def options (config : Config) : List (String × Value) :=
  config.properties.entries.filterMap fun (name, value) =>
    (Text.afterHead? optionHead name).map fun option => (option, value)

/-- The text under which connections of a configuration are shared: the document of
the properties that describe the connection.  All built-in configurations share the
empty text. -/
def fingerprint (config : Config) : Except Fault String :=
  if config.builtin then .ok ""
  else
    Json.encode <| .table <| config.properties.entries.filterMap fun (name, value) =>
      (Text.afterHead? connectionHead name).map fun _ => (.text name, value)

end Config
end SqlGateway
