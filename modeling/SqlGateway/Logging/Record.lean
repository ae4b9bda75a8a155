import SqlGateway.Value

namespace SqlGateway
namespace Logging

/-!
What is written to the log: a level, the name of the logger, a message, and named
fields where the message has any.
-/

inductive Level where
  | debug
  | info
  | warning
  | error
  | critical
deriving DecidableEq, Repr, Inhabited

namespace Level

def all : List Level := [.debug, .info, .warning, .error, .critical]

def name : Level → String
  | .debug => "DEBUG"
  | .info => "INFO"
  | .warning => "WARNING"
  | .error => "ERROR"
  | .critical => "CRITICAL"

def weight : Level → Nat
  | .debug => 10
  | .info => 20
  | .warning => 30
  | .error => 40
  | .critical => 50

def ofName? (name : String) : Option Level := all.find? fun level => level.name == name

end Level

/-- The name above all loggers of the library. -/
def rootName : String := "sqlbridge"

/-- The name of a logger of the library, by the part of the library that it serves. -/
def loggerName (part : String) : String := rootName ++ "." ++ part

structure Record where
  level : Level
  logger : String
  message : String
  fields : Option (List (String × Value))

end Logging
end SqlGateway
