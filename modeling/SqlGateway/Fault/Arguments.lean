import SqlGateway.Value.Display

namespace SqlGateway
namespace Fault

/-!
Making faults of the library from arguments, as callers may do.  Most kinds take any
arguments: those that count as true become texts, of which the first is the detail
unless a detail is given.  The others have named arguments.
-/

/-- A fault with what it remembers of its arguments. -/
structure Made where
  kind : LibraryKind
  /-- The leading texts. -/
  texts : List String
  detail : String
  /-- The arguments that are kept as they were given, by name. -/
  kept : List (String × Value)

namespace Made

def fault (made : Made) : Fault := .library made.kind made.texts made.detail {} none

end Made

/-- The names of the arguments of a kind that has named arguments; the first must be
given. -/
def argumentNames? (kind : LibraryKind) : Option (List String) :=
  if kind = .templateSyntax then some ["message", "template", "position"]
  else if kind = .missingDependency then some ["package", "install_package"]
  else if kind.isParameter then some ["message", "sql"]
  else none

def givenTexts : List Value → Except Fault (List String)
  | [] => .ok []
  | value :: rest => do
    if value.isTrue then return (← value.toText) :: (← givenTexts rest) else givenTexts rest

/-- A detail that may be missing; it must be a text when it is the detail in the end. -/
def detailOf (texts : List String) (detail : Value) : Except Fault (List String × String) :=
  if detail.isTrue then
    match detail with
    | .text given => .ok (texts, given)
    | .brokenText given => .ok (texts, given.escaped)
    | _ => .error (.bare .badType)
  else
    match texts, detail with
    | first :: rest, _ => .ok (rest, first)
    | [], .text given => .ok ([], given)
    | [], _ => .error (.bare .badType)

/-- Make a fault of a kind that takes any arguments. -/
def makeOpen (kind : LibraryKind) (positional : List Value) (named : List (String × Value)) :
    Except Fault Made := do
  if !named.all fun argument => argument.1 == "detail" then throw (.bare .badType)
  let texts ← givenTexts positional
  let (texts, detail) ← detailOf texts ((named.lookup "detail").getD (.text ""))
  return ⟨kind, texts, detail, []⟩

/-- Named arguments for names, given by place and then by name; a name without an argument
has the missing value. -/
def bindNames (names : List String) (positional : List Value) (named : List (String × Value)) :
    Except Fault (List (String × Value)) :=
  let left := names.drop positional.length
  let isGiven (name : String) : Bool := (named.lookup name).isSome
  if names.length < positional.length || !named.all (fun argument => left.contains argument.1) ||
      (positional.isEmpty && !(names.take 1).all isGiven) then
    .error (.bare .badType)
  else
    .ok (names.zip positional ++
      left.map fun name => (name, (named.lookup name).getD .null))

/-- A message with its place and its context added, where they are given. -/
def located (message position context : Value) : Except Fault Value := do
  let message ← if position.isNull then pure message
    else pure (.text ((← message.toText) ++ " at offset " ++ (← position.toText)))
  if context.isTrue then
    return .text ((← message.toText) ++ "\nSQL: " ++ (← context.toText))
  else return message

def missingPackage (package installPackage : Value) : Except Fault Value := do
  let install ← (if installPackage.isTrue then installPackage else package).toText
  return .text ("Package " ++ (← package.display) ++ " is not installed but required. You can " ++
    "install it by running 'pip install sqlbridge[" ++ install ++ "]' to install sqlbridge with " ++
    "the required extra or 'pip install " ++ install ++ "' to install the package separately")

/-- Make a fault of a kind that has named arguments. -/
def makeNamed (kind : LibraryKind) (arguments : List (String × Value)) : Except Fault Made := do
  let argument (name : String) : Value := (arguments.lookup name).getD .null
  let kept := arguments.drop 1
  if kind = .missingDependency then
    let message ← missingPackage (argument "package") (argument "install_package")
    let (texts, detail) ← detailOf [] message
    return ⟨kind, texts, detail, []⟩
  else
    let context := if kind = .templateSyntax then argument "template" else argument "sql"
    let message ← located (argument "message") (argument "position") context
    let (texts, detail) ← detailOf [] message
    return ⟨kind, texts, detail, kept⟩

/-- Make a fault from arguments. -/
def make (kind : LibraryKind) (positional : List Value) (named : List (String × Value)) :
    Except Fault Made := do
  match argumentNames? kind with
  | none => makeOpen kind positional named
  | some names => makeNamed kind (← bindNames names positional named)

end Fault
end SqlGateway
