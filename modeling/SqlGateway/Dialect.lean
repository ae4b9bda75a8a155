import SqlGateway.Fault
import SqlGateway.Parameter.Style
import SqlGateway.Text.Replace

namespace SqlGateway

/-!
Dialects of the database engines: how each writes identifiers, marks parameters
and is reached.  Quoting an identifier escapes the closing quote in it; an engine
without an escape has no quoted form for an identifier that holds the quote.
-/

/-- The conventions of one engine. -/
structure Dialect where
  /-- The name that callers use. -/
  name : String
  /-- The name of the native driver. -/
  nativeName : String
  /-- The opening quote of an identifier. -/
  quoteBegin : String
  /-- The closing quote of an identifier. -/
  quoteEnd : String
  /-- What is written before a closing quote inside an identifier; `none` if the
  engine has no way to write it. -/
  quoteEscape : Option String
  /-- How parameters are marked. -/
  style : ParameterStyle
  /-- The grammar that checks statements of the engine, if there is one. -/
  grammar : Option String
  /-- The key of the adapter that reaches the engine. -/
  adapterKey : String
  /-- Whether a connection needs the name of a server. -/
  requiresHost : Bool
deriving DecidableEq, Repr, Inhabited

namespace Dialect

/-- Quoted with grave accents, which are doubled inside. -/
def graveQuoted (name : String) : Dialect :=
  ⟨name, "mysql", "\x60", "\x60", some "\x60", .percent, some "mysql", "mysql", true⟩

/-- Quoted with brackets, of which the closing one is doubled inside. -/
def bracketQuoted (name : String) (style : ParameterStyle) (adapterKey : String) : Dialect :=
  ⟨name, name, "[", "]", some "]", style, some "tsql", adapterKey, true⟩

/-- Quoted with double quotes, which are doubled inside. -/
def doubleQuoted (name nativeName : String) (style : ParameterStyle)
    (grammar adapterKey : String) (requiresHost : Bool) : Dialect :=
  ⟨name, nativeName, "\x22", "\x22", some "\x22", style, some grammar, adapterKey, requiresHost⟩

/-- The Firebird dialect has no way to write a quote inside an identifier, and no
grammar checks it. -/
def firebird : Dialect :=
  ⟨"ibase", "firebird", "\x22", "\x22", none, .question, none, "firebird", true⟩

/-- The dialects that are supported, in the order in which they are listed. -/
def builtin : List Dialect :=
  [graveQuoted "mysql",
   graveQuoted "mysqli",
   bracketQuoted "mssql" .percent "mssql",
   bracketQuoted "sqlsrv" .percent "mssql",
   bracketQuoted "odbc" .question "odbc",
   firebird,
   doubleQuoted "oci8" "oci" .colon "oracle" "oracle" true,
   doubleQuoted "pgsql" "pgsql" .percent "postgres" "postgres" true,
   doubleQuoted "sqlite" "sqlite" .question "sqlite" "sqlite" false]

def names : List String := builtin.map Dialect.name

def find? (name : String) : Option Dialect := builtin.find? fun dialect => dialect.name == name

def unsupported (name : String) : Fault :=
  .of .improperConfiguration ("Unsupported DBMS: " ++ name)

/-- The supported dialect with a name, or the fault that there is none. -/
def get (name : String) : Except Fault Dialect :=
  match find? name with
  | some dialect => .ok dialect
  | none => .error (unsupported name)

/-- The quoted form of an identifier; `none` if it cannot be written. -/
def quoteChars? (dialect : Dialect) (identifier : List Char) : Option (List Char) :=
  match dialect.quoteEscape with
  | none =>
    if Text.occurs dialect.quoteEnd.toList identifier then none
    else some (dialect.quoteBegin.toList ++ identifier ++ dialect.quoteEnd.toList)
  | some escape =>
    some (dialect.quoteBegin.toList ++
      Text.replace dialect.quoteEnd.toList (escape.toList ++ dialect.quoteEnd.toList) identifier ++
      dialect.quoteEnd.toList)

/-- The fault for an identifier that cannot be written. -/
def unquotable (dialect : Dialect) (identifier : String) : Fault :=
  .of .invalidParameter ("Identifier " ++ Text.quoted identifier ++ " contains " ++
    Text.quoted dialect.quoteEnd ++ ", which cannot be quoted for " ++ dialect.name)

def quoteIdentifier (dialect : Dialect) (identifier : String) : Except Fault String :=
  match dialect.quoteChars? identifier.toList with
  | some quoted => .ok (String.ofList quoted)
  | none => .error (dialect.unquotable identifier)

end Dialect
end SqlGateway
