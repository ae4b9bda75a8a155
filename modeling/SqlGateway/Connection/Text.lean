import SqlGateway.Connection.Params

namespace SqlGateway
namespace ConnectionText

/-!
Connection texts of ODBC: keywords with values, separated by semicolons.  A value
that holds one of the marks of this notation, or that has blanks at either end, is
written between braces, where a closing brace is doubled.
-/

/-- Whether the character is a mark of the notation. -/
def isMark (character : Char) : Bool :=
  character == ';' || character == '\x7b' || character == '\x7d' || character == '='

/-- Whether a value can stand as it is. -/
def isPlain (value : List Char) : Bool := !value.any isMark && Text.trimChars value == value

/-- A value as it is written. -/
def valueChars (value : List Char) : List Char :=
  if isPlain value then value
  else '\x7b' :: (Text.replace ['\x7d'] ['\x7d', '\x7d'] value ++ ['\x7d'])

/-- Keywords with values as they are written. -/
def chars : List (String × List Char) → List Char
  | [] => []
  | [(keyword, value)] => keyword.toList ++ '=' :: valueChars value
  | (keyword, value) :: rest => keyword.toList ++ '=' :: (valueChars value ++ ';' :: chars rest)

def switchText (setting : Value) : Value := .text (if setting.isTrue then "yes" else "no")

/-- The value under the name of an option, or the missing value. -/
def optionValue (options : List (String × Value)) (name : String) : Value :=
  (options.lookup name).getD .null

def server (params : ConnectionParams) : Except Fault Value :=
  if params.hasPort then do
    return .text ((← params.host.toText) ++ "," ++ (← params.portValue.toText))
  else .ok params.host

/-- The keywords of a connection in order; a missing value leaves its keyword out. -/
def keywords (params : ConnectionParams) (options : List (String × Value)) :
    Except Fault (List (String × Value)) := do
  let fields := [
    ("DRIVER", optionValue options "driver"),
    ("DSN", optionValue options "dsn"),
    ("SERVER", ← server params),
    ("DATABASE", params.database),
    ("UID", params.username),
    ("PWD", params.password)]
  let switches := [("Encrypt", "encrypt"), ("TrustServerCertificate", "trust_server_certificate")]
  return (fields.filter fun field => !field.2.isNull) ++
    switches.filterMap fun (keyword, name) =>
      (options.lookup name).map fun setting => (keyword, switchText setting)

/-- Keywords with the texts of their values. -/
def written : List (String × Value) → Except Fault (List (String × List Char))
  | [] => .ok []
  | (keyword, value) :: rest => do
    return (keyword, (← value.toText).toList) :: (← written rest)

def ofParams (params : ConnectionParams) (options : List (String × Value)) :
    Except Fault String := do
  return String.ofList (chars (← written (← keywords params options)))

end ConnectionText
end SqlGateway
