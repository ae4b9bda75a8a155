import SqlGateway.Connection.Params
import SqlGateway.Parameter

namespace SqlGateway

/-!
Adapters, one for each native driver.  An adapter knows which package holds its
driver, which options the driver takes, how the driver begins and ends a
transaction, how it reports the row inserted last, and how the engine writes a
string literal.
-/

inductive Adapter where
  | firebird
  | mssql
  | mysql
  | odbc
  | oracle
  | postgres
  | sqlite
deriving DecidableEq, Repr, Inhabited

/-- The statements that begin and end a transaction where the driver has no calls
for it. -/
structure ControlStatements where
  begin : String
  commit : String
  rollback : String
deriving DecidableEq, Repr

namespace Adapter

/-- Every adapter. -/
def all : List Adapter := [.firebird, .mssql, .mysql, .odbc, .oracle, .postgres, .sqlite]

/-- The key under which dialects name an adapter. -/
def key : Adapter → String
  | .firebird => "firebird"
  | .mssql => "mssql"
  | .mysql => "mysql"
  | .odbc => "odbc"
  | .oracle => "oracle"
  | .postgres => "postgres"
  | .sqlite => "sqlite"

def name : Adapter → String
  | .firebird => "FirebirdAdapter"
  | .mssql => "MssqlAdapter"
  | .mysql => "MysqlAdapter"
  | .odbc => "OdbcAdapter"
  | .oracle => "OracleAdapter"
  | .postgres => "PostgresAdapter"
  | .sqlite => "SqliteAdapter"

/-- The module that holds the driver. -/
def driverModule : Adapter → String
  | .firebird => "firebird.driver"
  | .mssql => "pymssql"
  | .mysql => "pymysql"
  | .odbc => "pyodbc"
  | .oracle => "oracledb"
  | .postgres => "psycopg"
  | .sqlite => "sqlite3"

/-- The name under which the driver is installed; the driver of SQLite is always
there. -/
def installPackage? : Adapter → Option String
  | .firebird => some "firebird"
  | .mssql => some "mssql"
  | .mysql => some "mysql"
  | .odbc => some "odbc"
  | .oracle => some "oracledb"
  | .postgres => some "psycopg"
  | .sqlite => none

/-- The options that the driver takes, in order. -/
def connectOptions : Adapter → List String
  | .firebird => ["charset", "no_db_triggers", "no_gc", "role", "session_time_zone"]
  | .mssql => ["appname", "charset", "login_timeout", "tds_version", "timeout"]
  | .mysql =>
    ["charset", "connect_timeout", "init_command", "read_timeout", "sql_mode", "ssl",
     "unix_socket", "write_timeout"]
  | .odbc => ["driver", "dsn", "encrypt", "timeout", "trust_server_certificate"]
  | .oracle => ["config_dir", "expire_time", "stmtcachesize", "tcp_connect_timeout"]
  | .postgres => ["application_name", "connect_timeout", "options", "sslmode", "sslrootcert"]
  | .sqlite => ["cached_statements", "check_same_thread", "detect_types", "timeout", "uri"]

def coercion : Adapter → Coercion
  | .sqlite => .scalars
  | _ => .none

/-- The statements that begin and end a transaction. -/
def controlStatements : Adapter → ControlStatements
  | .mssql => ⟨"BEGIN TRANSACTION", "COMMIT TRANSACTION", "ROLLBACK TRANSACTION"⟩
  | _ => ⟨"BEGIN", "COMMIT", "ROLLBACK"⟩

/-- The query for the row inserted last, unless the cursor reports it. -/
def lastInsertQuery? : Adapter → Option String
  | .mssql => some "SELECT CAST(@@IDENTITY AS BIGINT)"
  | .mysql => some "SELECT LAST_INSERT_ID()"
  | .odbc => some "SELECT @@IDENTITY"
  | .postgres => some "SELECT lastval()"
  | .sqlite => some "SELECT last_insert_rowid()"
  | .firebird | .oracle => none

/-- Whether the server can read a statement without running it. -/
def preparesNatively : Adapter → Bool
  | .firebird | .oracle => true
  | _ => false

def display (adapter : Adapter) : String :=
  adapter.name ++ "(driver=" ++ Text.quoted adapter.driverModule ++ ")"

/-! ## Which adapter reaches a dialect -/

def ofKey? (key : String) : Option Adapter := all.find? fun adapter => adapter.key == key

/-- The adapter that a dialect names. -/
def ofDialect (dialect : Dialect) : Except Fault Adapter :=
  match ofKey? dialect.adapterKey with
  | some adapter => .ok adapter
  | none =>
    .error (.of .improperConfiguration
      ("No driver adapter registered for " ++ Text.quoted dialect.adapterKey))

/-- The adapter of a name, which is the key of an adapter or the name of a dialect. -/
def ofName (name : String) : Except Fault Adapter :=
  match ofKey? name with
  | some adapter => .ok adapter
  | none => do ofDialect (← Dialect.get name)

/-! ## Drivers -/

/-- The driver modules that exist. -/
def driverModules : List String :=
  ["sqlite3", "pymysql", "psycopg", "oracledb", "pymssql", "pyodbc", "firebird.driver"]

/-- The package of a module: the part before the first point. -/
def packageOf (moduleName : String) : String :=
  String.ofList (moduleName.toList.takeWhile fun character => character ≠ '.')

/-- Make a driver module available, where some modules are not installed. -/
def importDriver (missing : List String) (moduleName : String) (installPackage : Option String) :
    Except Fault Unit :=
  if driverModules.contains moduleName && !missing.contains moduleName then .ok ()
  else
    .error ((Fault.missingDependency (packageOf moduleName) installPackage).because
      (.bare .moduleMissing))

/-! ## String literals -/

/-- The literal for a text: a quote inside is doubled, and MySQL doubles backslashes
as well. -/
def literalChars (adapter : Adapter) (content : List Char) : List Char :=
  let escaped := match adapter with
    | .mysql => Text.replace [Text.backslash] [Text.backslash, Text.backslash] content
    | _ => content
  Text.singleQuote ::
    (Text.replace [Text.singleQuote] [Text.singleQuote, Text.singleQuote] escaped ++
      [Text.singleQuote])

def quoteLiteral (adapter : Adapter) (content : String) : String :=
  String.ofList (adapter.literalChars content.toList)

end Adapter
end SqlGateway
