import SqlGateway.Adapter

namespace SqlGateway

/-!
The ways to describe a dialect, a configuration and a connection.
-/

/-- A description of a dialect: a value that should be its name, or the dialect itself. -/
inductive DialectSource where
  | named (name : Value)
  | given (dialect : Dialect)

def DialectSource.dialect : DialectSource → Except Fault Dialect
  | .named name => ConnectionParams.dialectOf name
  | .given dialect => .ok dialect

/-- The adapter that is described; its name may also be the key of the adapter. -/
def DialectSource.adapter : DialectSource → Except Fault Adapter
  | .named (.text name) => Adapter.ofName name
  | source => do Adapter.ofDialect (← source.dialect)

inductive ConfigSource where
  | properties (builtin : Bool) (properties : List (String × Value))
  | environment (pairs : List (String × String))

def ConfigSource.config : ConfigSource → Config
  | .properties builtin given => .ofProperties builtin given
  | .environment pairs => .ofEnvironment pairs

inductive ParamsSource where
  | mapping (entries : List (Value × Value))
  | config (source : ConfigSource)
  | fields (fields : List (String × Value))

def ParamsSource.params : ParamsSource → Except Fault ConnectionParams
  | .mapping entries => ConnectionParams.ofMapping entries
  | .config source => ConnectionParams.ofConfig source.config
  | .fields given => ConnectionParams.ofNamedFields given

end SqlGateway
