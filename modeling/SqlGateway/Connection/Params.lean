import SqlGateway.Config
import SqlGateway.Dialect
import SqlGateway.Value.Conversion

namespace SqlGateway

/-!
Connection parameters.  They come from named fields, from a mapping or from a
configuration, and are checked the same way in all three cases: the dialect is
supported, the database is named, a server is named where the dialect needs one,
and the port is a number.
-/

structure ConnectionFields where
  dbms : Value := .null
  database : Value := .null
  host : Value := .null
  port : Value := .null
  username : Value := .null
  password : Value := .null
  options : Option Value := none
deriving Inhabited

/-- Checked connection parameters. -/
structure ConnectionParams where
  dialect : Dialect
  database : Value
  host : Value
  port : Option Int
  username : Value
  password : Value
  options : List (Value × Value)
deriving Inhabited

namespace ConnectionFields

def names : List String :=
  ["dbms", "database", "host", "port", "username", "password", "options"]

def set (fields : ConnectionFields) (name : String) (value : Value) : ConnectionFields :=
  match name with
  | "dbms" => { fields with dbms := value }
  | "database" => { fields with database := value }
  | "host" => { fields with host := value }
  | "port" => { fields with port := value }
  | "username" => { fields with username := value }
  | "password" => { fields with password := value }
  | "options" => { fields with options := some value }
  | _ => fields

/-- Fields set one after the other. -/
def ofList (pairs : List (String × Value)) : ConnectionFields :=
  pairs.foldl (fun fields pair => fields.set pair.1 pair.2) {}

end ConnectionFields

namespace ConnectionParams

/-- The fault for a field that is missing or empty. -/
def missing (description : String) : Fault :=
  .of .improperConfiguration ("Missing " ++ description)

/-- The dialect that a value names. -/
def dialectOf (dbms : Value) : Except Fault Dialect :=
  match dbms with
  | .text name => Dialect.get name
  | value =>
    if value.isHashable then do throw (Dialect.unsupported (← value.toText))
    else .error (.bare .badType)

def invalidPort (port : Value) (reason : Option Fault) : Fault :=
  match port.display with
  | .ok shown =>
    let fault := Fault.of .improperConfiguration ("Invalid port: " ++ shown)
    match reason with
    | some reason => fault.because reason
    | none => fault
  | .error fault => fault

/-- The number of a port: none if it is missing or empty.  A truth value is no port. -/
def portOf (port : Value) : Except Fault (Option Int) :=
  match port with
  | .null | .text "" => .ok none
  | .bool _ => .error (invalidPort port none)
  | port =>
    match port.toInt with
    | .ok number => .ok (some number)
    | .error reason =>
      if reason.kind = .foreign .badType ∨ reason.kind = .foreign .badValue then
        .error (invalidPort port (some reason))
      else .error reason

/-- Check the fields of a connection. -/
def ofFields (fields : ConnectionFields) : Except Fault ConnectionParams := do
  let dialect ← dialectOf fields.dbms
  if !fields.database.isTrue then throw (missing "connection parameter: database")
  if dialect.requiresHost && !fields.host.isTrue then
    throw (missing ("connection parameter: host (required for " ++ dialect.name ++ ")"))
  let port ← portOf fields.port
  let options ← match fields.options with
    | some options => options.toEntries
    | none => .ok []
  return ⟨dialect, fields.database, fields.host, port, fields.username, fields.password, options⟩

/-- Connection parameters from fields given by name; the dialect and the database
must be among them, and no other names. -/
def ofNamedFields (pairs : List (String × Value)) : Except Fault ConnectionParams :=
  let given := pairs.map Prod.fst
  if given.all ConnectionFields.names.contains && given.contains "dbms" &&
      given.contains "database" then
    ofFields (.ofList pairs)
  else .error (.bare .badType)

def isFieldName : Value → Bool
  | .text name => ConnectionFields.names.contains name
  | _ => false

/-- Check that a value is the name of a field.  A name must be able to be a key; a set is
taken for the key of its members. -/
def checkName (name : Value) : Except Fault Unit :=
  if isFieldName name then .ok ()
  else if name.isHashable || name.isSet then do
    throw (.of .invalidParameter ("Unsupported option: " ++ (← name.toText)))
  else .error (.bare .badType)

/-- The entries of a mapping that set a field to something. -/
def givenFields (entries : List (Value × Value)) : List (String × Value) :=
  entries.filterMap fun (key, value) =>
    match key with
    | .text name => if value.isNull then none else some (name, value)
    | _ => none

/-- Connection parameters from a mapping.  Missing values count as not given. -/
def ofMapping (entries : List (Value × Value)) : Except Fault ConnectionParams := do
  entries.forM fun entry => checkName entry.1
  let given := givenFields entries
  if !(given.map Prod.fst).contains "dbms" then throw (missing "connection parameter: dbms")
  let fields := ConnectionFields.ofList given
  ofFields { fields with database := if fields.database.isNull then .text "" else fields.database }

/-- Connection parameters from a value that should be a mapping.  Of another value the
items are taken for names first, and a value that has none but names of fields still lacks
what they are set to. -/
def ofValue : Value → Except Fault ConnectionParams
  | .mapping _ entries => ofMapping entries
  | value => do
    (← value.toItems).forM checkName
    throw (.bare .noMember)

def ofConfig (config : Config) : Except Fault ConnectionParams := do
  let field (name : String) : Value := config.get (Config.connectionHead ++ name)
  if (field "dbms").isNull then throw (missing "configuration property: db.dbms")
  if (field "database").isNull then throw (missing "configuration property: db.database")
  ofFields {
    dbms := field "dbms"
    database := field "database"
    host := field "host"
    port := field "port"
    username := field "username"
    password := field "password"
    options := some (.table (config.options.map fun (name, value) => (.text name, value))) }

def portValue (params : ConnectionParams) : Value :=
  match params.port with
  | some number => .int number
  | none => .null

/-- Whether a port is given that is not zero. -/
def hasPort (params : ConnectionParams) : Bool := params.port.any fun number => number ≠ 0

def option? (params : ConnectionParams) (name : String) : Option Value :=
  Value.lookup (.text name) params.options

/-- The displayed form of connection parameters; the password is left out. -/
def display (params : ConnectionParams) : Except Fault String := do
  let options := Value.mapping .readOnly params.options
  return "ConnectionParams(dbms=" ++ Text.quoted params.dialect.name ++
    ", database=" ++ (← params.database.display) ++ ", host=" ++ (← params.host.display) ++
    ", port=" ++ (← params.portValue.display) ++ ", username=" ++ (← params.username.display) ++
    ", options=" ++ (← options.display) ++ ")"

/-! ## Options of the library itself -/

/-- The options that the library takes for itself, with their settings by default. -/
def ownOptions : List (String × Bool) :=
  [("stringify_fetches", true), ("emulate_prepares", false)]

def setting (params : ConnectionParams) (name : String) : Bool :=
  match params.option? name with
  | some value => value.asSwitch
  | none => (ownOptions.lookup name).getD false

/-- Whether columns without a declared kind are fetched as text. -/
def stringifyFetches (params : ConnectionParams) : Bool := params.setting "stringify_fetches"

/-- Whether statements are prepared without asking the server or the grammar. -/
def emulatePrepares (params : ConnectionParams) : Bool := params.setting "emulate_prepares"

end ConnectionParams
end SqlGateway
