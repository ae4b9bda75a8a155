import SqlGateway.Config
import SqlGateway.Logging.Format
import SqlGateway.Operation

namespace SqlGateway
namespace Logging

/-!
Where log messages go.  Loggers have names joined by points; the loggers of the library
are those below its own name, and only they have handlers.  A message is written if its
level has at least the weight that is wanted; each handler writes it in its own form, and
a message that has no text in that form is not written.
-/

/-- A place that messages are written to. -/
inductive Handler where
  /-- The console, with documents or lines of text. -/
  | console (structured : Bool)
  /-- A file of documents. -/
  | file
deriving DecidableEq, Repr

structure System where
  clock : Clock
  /-- The wanted weight; zero if none was set. -/
  weight : Int
  handlers : List Handler
  /-- The loggers whose messages carry the current correlation. -/
  correlated : List String
  /-- The current correlation. -/
  correlation : Value
  /-- What was written to the console. -/
  console : String
  /-- What was written to the newest file, if there is one. -/
  file : Option String

namespace System

/-- A log without handlers. -/
def start (clock : Clock) : System := ⟨clock, 0, [], [], .null, "", none⟩

/-- The weight that is wanted of messages where none was set. -/
def defaultWeight : Int := 30

/-- Whether a logger belongs to the library. -/
def isOwn (logger : String) : Bool :=
  logger == rootName || (Text.afterHead? (rootName ++ ".") logger).isSome

/-- The weight that is wanted of the messages of a logger. -/
def wanted (system : System) (logger : String) : Int :=
  if isOwn logger && system.weight ≠ 0 then system.weight else defaultWeight

/-- Whether messages of a weight are written. -/
def isEnabled (system : System) (logger : String) (weight : Int) : Bool :=
  0 < weight && system.wanted logger ≤ weight

/-- A text with something written at its end, if it could be written. -/
def extended (written : String) : Except Fault String → String
  | .ok text => written ++ text ++ "\n"
  | .error _ => written

/-- Write a message with a handler. -/
def handle (message : Message) (system : System) : Handler → System
  | .console true =>
    { system with
      console := extended system.console (document system.clock system.correlation message) }
  | .console false =>
    { system with console := extended system.console (line system.clock message) }
  | .file =>
    { system with
      file := some (extended (system.file.getD "")
        (document system.clock system.correlation message)) }

def log (message : Message) (system : System) : System :=
  if system.isEnabled message.logger message.weight && isOwn message.logger then
    system.handlers.foldl (handle message) system
  else system

/-! ## Loggers -/

/-- The full name of a logger, by its name below that of the library. -/
def fullName (name : String) : String :=
  if (Text.afterHead? rootName name).isSome then name else rootName ++ "." ++ name

/-- The logger with a name, or that of the whole library.  Messages of a logger that was
asked for by name carry the current correlation. -/
def logger (name : Option String) (system : System) : String × System :=
  match name with
  | none => (rootName, system)
  | some name =>
    let name := fullName name
    (name, { system with
      correlated :=
        if system.correlated.contains name then system.correlated
        else system.correlated ++ [name] })

/-- The correlation of a message after the filter: the current one, if there is one. -/
def filtered (system : System) (message : Message) : Message :=
  if system.correlation.isTrue then { message with correlation := system.correlation } else message

/-! ## Configuration -/

/-- The capital of a letter, where that is one of the seven-bit range. -/
def capital (character : Char) : Char :=
  if character = 'ı' then 'I' else if character = 'ſ' then 'S' else character.toUpper

/-- The weight that a value stands for. -/
def weightOfValue : Value → Except Fault Int
  | .text name =>
    match weightOf? (String.ofList (name.toList.map capital)) with
    | some weight => .ok weight
    | none => .error (.bare .badValue)
  | .brokenText _ => .error (.bare .badValue)
  | .int weight => .ok weight
  | .bool truth => .ok (if truth then 1 else 0)
  | _ => .error (.bare .badType)

/-- Set the wanted level and put new handlers in place of the old ones. -/
def configure (level : Value) (structured toFile : Bool) : Operation System Unit := do
  let weight ← .ofExcept (weightOfValue level)
  modify fun system =>
    { system with
      weight := weight
      handlers := .console structured :: (if toFile then [.file] else [])
      file := if toFile then some "" else system.file }

end System

end Logging
end SqlGateway
