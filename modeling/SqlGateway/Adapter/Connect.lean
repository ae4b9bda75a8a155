import SqlGateway.Adapter
import SqlGateway.Connection.Text

namespace SqlGateway
namespace Adapter

/-!
What a driver is called with to open a connection.  The library keeps its own
options for itself; the others must be options of the driver and are handed on.
-/

structure ConnectArguments where
  positional : List Value
  keywords : Dictionary String Value

/-- The keyword arguments by name. -/
def ConnectArguments.sorted (arguments : ConnectArguments) : List (String × Value) :=
  arguments.keywords.entries.mergeSort fun first second => first.1 ≤ second.1

/-- The fault for an option that neither the library nor the driver takes. -/
def unsupportedOption (params : ConnectionParams) (name : String) : Fault :=
  .of .improperConfiguration
    ("Unsupported driver option for " ++ params.dialect.name ++ ": " ++ name)

/-- The options that are handed to the driver, among those given. -/
def driverOptions (adapter : Adapter) (params : ConnectionParams) :
    List (Value × Value) → Except Fault (List (String × Value))
  | [] => .ok []
  | (.text name, value) :: rest =>
    if (ConnectionParams.ownOptions.lookup name).isSome then driverOptions adapter params rest
    else if adapter.connectOptions.contains name then do
      return (name, value) :: (← driverOptions adapter params rest)
    else .error (unsupportedOption params name)
  | (name, _) :: _ => do throw (unsupportedOption params (← name.toText))

def resolveOptions (adapter : Adapter) (params : ConnectionParams) :
    Except Fault (List (String × Value)) :=
  driverOptions adapter params params.options

def portOr (params : ConnectionParams) (default : Int) : Value :=
  if params.hasPort then params.portValue else .int default

/-- The server with its port, if there is one, in the notation of Firebird. -/
def firebirdServer (params : ConnectionParams) : Except Fault String :=
  if params.hasPort then do
    return (← params.host.toText) ++ "/" ++ (← params.portValue.toText)
  else params.host.toText

/-- The name of a service in the notation of Oracle, which its driver writes and which
thus needs the driver. -/
def serviceName (missing : List String) (params : ConnectionParams) : Except Fault String := do
  importDriver missing Adapter.oracle.driverModule Adapter.oracle.installPackage?
  return "dsn(" ++ (← params.host.toText) ++ "|" ++ (← (portOr params 1521).toText) ++ "|" ++
    (← params.database.toText) ++ ")"

/-- The password, or the empty text if there is none. -/
def passwordOrEmpty (params : ConnectionParams) : Value :=
  if params.password.isTrue then params.password else .text ""

/-- Whether a database of SQLite is given by a resource name. -/
def isResourceName (database : String) : Bool := (Text.afterHead? "file:" database).isSome

/-- The keyword arguments, where some driver modules are not installed. -/
def connectKeywords (adapter : Adapter) (missing : List String) (params : ConnectionParams)
    (options : List (String × Value)) : Except Fault (Dictionary String Value) :=
  match adapter with
  | .firebird => do
    let database := (← firebirdServer params) ++ ":" ++ (← params.database.toText)
    return .ofList ([("database", .text database), ("user", params.username),
      ("password", params.password)] ++ options)
  | .mssql => do
    let port ← (portOr params 1433).toText
    return .ofList ([("server", params.host), ("port", .text port), ("user", params.username),
      ("password", params.password), ("database", params.database),
      ("autocommit", .bool true)] ++ options)
  | .mysql =>
    .ok (.ofList ([("host", params.host), ("port", portOr params 3306),
      ("user", params.username), ("password", passwordOrEmpty params),
      ("database", params.database), ("autocommit", .bool true)] ++ options))
  | .odbc =>
    .ok (.ofList (("autocommit", .bool true) ::
      options.filter fun option => option.1 == "timeout"))
  | .oracle => do
    return .ofList ([("user", params.username), ("password", params.password),
      ("dsn", .text (← serviceName missing params))] ++ options)
  | .postgres =>
    let port := match params.port with
      | some number => [("port", Value.int number)]
      | none => []
    .ok (.ofList (([("host", params.host), ("dbname", params.database),
      ("user", params.username), ("password", params.password),
      ("autocommit", .bool true)] ++ port ++ options).filter fun entry => !entry.2.isNull))
  | .sqlite => do
    let keywords := Dictionary.ofList
      ([("database", params.database), ("isolation_level", .null)] ++ options)
    if isResourceName (← params.database.toText) && !keywords.has "uri" then
      return keywords.put "uri" (.bool true)
    else return keywords

/-- The arguments of the call that opens a connection, where some driver modules are not
installed. -/
def connectArguments (adapter : Adapter) (missing : List String) (params : ConnectionParams)
    (options : List (String × Value)) : Except Fault ConnectArguments := do
  let positional ← match adapter with
    | .odbc => do pure [Value.text (← ConnectionText.ofParams params options)]
    | _ => pure []
  return ⟨positional, ← adapter.connectKeywords missing params options⟩

end Adapter
end SqlGateway
