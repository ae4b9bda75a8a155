import SqlGateway.Number.Numeral
import SqlGateway.Text.Quoted

namespace SqlGateway

/-!
Failures.  The library raises faults of its own kinds, ordered in a hierarchy with
a status text for each branch, and lets through faults that arose elsewhere: in
the native driver, in the grammar checker, or while a value was converted.

A fault of the library keeps a detail and further texts; its message is the texts
followed by the detail.  A fault may keep the fault that caused it.
-/

/-- The kinds of fault that the library raises itself. -/
inductive LibraryKind where
  | base
  | missingDependency
  | invalidParameter
  | improperConfiguration
  | inconsistentParameters
  | templateSyntax
  | parameter
  | missingParameter
  | extraParameter
  | state
  | notSupported
  | database
  | serialization
  | repository
  | notFound
  | objectDoesNotExist
deriving DecidableEq, Repr, Inhabited

/-- The kinds of fault that arise elsewhere: in the native driver (`driver`, and
`operational` as a special case of it), in the grammar checker (`grammar`,
`token`), in the caller's code, or in a conversion; `interrupt` alone is no
ordinary failure. -/
inductive ForeignKind where
  | driver
  | operational
  | grammar
  | token
  | badValue
  | badType
  | badText
  | unencodable
  | outOfRange
  | badNumber
  | badIndex
  | badKey
  | badDocument
  | badDocumentNumber
  | moduleMissing
  | noMember
  | general
  | tooDeep
  | interrupt
deriving DecidableEq, Repr, Inhabited

inductive FaultKind where
  | library (kind : LibraryKind)
  | foreign (kind : ForeignKind)
deriving DecidableEq, Repr, Inhabited

namespace LibraryKind

def all : List LibraryKind :=
  [.base, .missingDependency, .invalidParameter, .improperConfiguration, .inconsistentParameters,
   .templateSyntax, .parameter, .missingParameter, .extraParameter, .state, .notSupported,
   .database, .serialization, .repository, .notFound, .objectDoesNotExist]

def name : LibraryKind → String
  | .base => "SQLBridgeError"
  | .missingDependency => "MissingDependencyError"
  | .invalidParameter => "InvalidParameterError"
  | .improperConfiguration => "ImproperConfigurationError"
  | .inconsistentParameters => "InconsistentParametersError"
  | .templateSyntax => "TemplateSyntaxError"
  | .parameter => "ParameterError"
  | .missingParameter => "MissingParameterError"
  | .extraParameter => "ExtraParameterError"
  | .state => "StateError"
  | .notSupported => "NotSupportedError"
  | .database => "DatabaseError"
  | .serialization => "SerializationError"
  | .repository => "RepositoryError"
  | .notFound => "NotFoundError"
  | .objectDoesNotExist => "ObjectDoesNotExistError"

/-- The kind and the more general kinds above it, up to the base. -/
def lineage : LibraryKind → List LibraryKind
  | .base => [.base]
  | .missingDependency => [.missingDependency, .base]
  | .invalidParameter => [.invalidParameter, .base]
  | .improperConfiguration => [.improperConfiguration, .invalidParameter, .base]
  | .inconsistentParameters => [.inconsistentParameters, .invalidParameter, .base]
  | .templateSyntax => [.templateSyntax, .invalidParameter, .base]
  | .parameter => [.parameter, .invalidParameter, .base]
  | .missingParameter => [.missingParameter, .parameter, .invalidParameter, .base]
  | .extraParameter => [.extraParameter, .parameter, .invalidParameter, .base]
  | .state => [.state, .base]
  | .notSupported => [.notSupported, .base]
  | .database => [.database, .base]
  | .serialization => [.serialization, .base]
  | .repository => [.repository, .base]
  | .notFound => [.notFound, .repository, .base]
  | .objectDoesNotExist => [.objectDoesNotExist, .notFound, .repository, .base]

/-- The status that a kind reports. -/
def status : LibraryKind → String
  | .base | .serialization | .repository => "INTERNAL_ERROR"
  | .missingDependency => "CONFIGURATION_ERROR"
  | .invalidParameter | .improperConfiguration | .templateSyntax | .parameter
  | .missingParameter | .extraParameter => "INVALID_PARAMETER"
  | .inconsistentParameters => "INCONSISTENT_PARAMETERS"
  | .state => "STATE_ERROR"
  | .notSupported => "NOT_SUPPORTED"
  | .database => "DATABASE_ERROR"
  | .notFound | .objectDoesNotExist => "OBJECT_DOES_NOT_EXIST"

/-- Whether the kind is about a parameter and so carries the native text. -/
def isParameter (kind : LibraryKind) : Bool := kind.lineage.contains .parameter

/-- The names of all kinds that a fault of this kind belongs to. -/
def bases (kind : LibraryKind) : List String :=
  kind.lineage.map name ++ (if kind = .missingDependency then ["ImportError"] else []) ++
    ["Exception"]

end LibraryKind

namespace ForeignKind

/-- Every kind that arises elsewhere. -/
def all : List ForeignKind :=
  [.driver, .operational, .grammar, .token, .badValue, .badType, .badText, .unencodable,
   .outOfRange, .badNumber, .badIndex, .badKey, .badDocument, .badDocumentNumber, .moduleMissing, .noMember, .general,
   .tooDeep, .interrupt]

def name : ForeignKind → String
  | .driver => "DriverError"
  | .operational => "OperationalError"
  | .grammar => "ParseError"
  | .token => "TokenError"
  | .badValue => "ValueError"
  | .badType => "TypeError"
  | .badText => "UnicodeDecodeError"
  | .unencodable => "UnicodeEncodeError"
  | .outOfRange => "OverflowError"
  | .badNumber => "InvalidOperation"
  | .badIndex => "IndexError"
  | .badKey => "KeyError"
  | .badDocument => "DecodeError"
  | .badDocumentNumber => "ValidationError"
  | .moduleMissing => "ModuleNotFoundError"
  | .noMember => "AttributeError"
  | .general => "RuntimeError"
  | .tooDeep => "RecursionError"
  | .interrupt => "KeyboardInterrupt"

def parent? : ForeignKind → Option ForeignKind
  | .operational => some .driver
  | .badText | .unencodable => some .badValue
  | .badDocumentNumber => some .badDocument
  | .tooDeep => some .general
  | _ => none

end ForeignKind

namespace FaultKind

def name : FaultKind → String
  | .library kind => kind.name
  | .foreign kind => kind.name

def ofName? (name : String) : Option FaultKind :=
  match LibraryKind.all.find? fun kind => kind.name == name with
  | some kind => some (.library kind)
  | none => (ForeignKind.all.find? fun kind => kind.name == name).map .foreign

/-- Whether a fault of the first kind also is one of the second. -/
def isA : FaultKind → FaultKind → Bool
  | .library kind, .library wider => kind.lineage.contains wider
  | .foreign kind, .foreign wider => kind == wider || kind.parent? == some wider
  | _, _ => false

/-- Whether a fault of the kind is an ordinary failure, which general handlers stop. -/
def isOrdinary (kind : FaultKind) : Bool := kind ≠ .foreign .interrupt

/-- Whether the kind is one that the native driver raises. -/
def isNative (kind : FaultKind) : Bool := kind.isA (.foreign .driver)

/-- Whether a fault of the kind says that a value cannot be converted. -/
def isConversion (kind : FaultKind) : Bool :=
  [ForeignKind.badValue, .badType, .outOfRange, .badNumber].any fun wider =>
    kind.isA (.foreign wider)

/-- Whether the library itself raises the kind. -/
def isLibrary : FaultKind → Bool
  | .library _ => true
  | .foreign _ => false

end FaultKind

/-- What a fault of the library knows besides its message. -/
structure FaultContext where
  /-- The template that could not be read. -/
  template : Option String := none
  /-- The place in that template, counted in characters. -/
  position : Option Int := none
  /-- The native text that could not be given its parameters. -/
  sql : Option String := none
deriving DecidableEq, Repr, Inhabited

/-- A failure. -/
inductive Fault where
  | library (kind : LibraryKind) (arguments : List String) (detail : String)
      (context : FaultContext) (cause : Option Fault)
  | foreign (kind : ForeignKind) (text : Option String) (cause : Option Fault)
deriving Repr, Inhabited

namespace Fault

def kind : Fault → FaultKind
  | .library kind _ _ _ _ => .library kind
  | .foreign kind _ _ => .foreign kind

def cause : Fault → Option Fault
  | .library _ _ _ _ cause => cause
  | .foreign _ _ cause => cause

/-- The same fault, caused by another. -/
def because (fault reason : Fault) : Fault :=
  match fault with
  | .library kind arguments detail context _ => .library kind arguments detail context (some reason)
  | .foreign kind text _ => .foreign kind text (some reason)

/-- The message of a fault; a fault that arose in a conversion has none. -/
def message? : Fault → Option String
  | .library _ arguments detail _ _ => some (Text.trim (" ".intercalate (arguments ++ [detail])))
  | .foreign _ text _ => text

def message (fault : Fault) : String := fault.message?.getD ""

/-- The displayed form of a fault of the library: its kind and its detail. -/
def display (kind : LibraryKind) (detail : String) : String :=
  if detail = "" then kind.name else kind.name ++ " - " ++ detail

/-- A fault of the library with leading texts and a detail.  Without a detail the
first text is the detail. -/
def ofTexts (kind : LibraryKind) (texts : List String) (detail : String) : Fault :=
  match detail, texts with
  | "", first :: rest => .library kind rest first {} none
  | detail, texts => .library kind texts detail {} none

/-- A fault of the library with a message. -/
def of (kind : LibraryKind) (message : String) : Fault := .library kind [] message {} none

/-- A fault of a conversion. -/
def bare (kind : ForeignKind) : Fault := .foreign kind none none

/-- The given context after a message: nothing if it is missing or empty. -/
def withSql (message : String) (sql : Option String) : String :=
  match sql with
  | none | some "" => message
  | some sql => message ++ "\nSQL: " ++ sql

/-- A template that cannot be read, with the place of the first mistake. -/
def templateSyntax (message : String) (template : Option String) (position : Option Int) : Fault :=
  let located := match position with
    | some position => message ++ " at offset " ++ String.ofList (Numeral.chars position)
    | none => message
  .library .templateSyntax [] (withSql located template) ⟨template, position, none⟩ none

def parameter (kind : LibraryKind) (message : String) (sql : Option String) : Fault :=
  .library kind [] (withSql message sql) ⟨none, none, sql⟩ none

/-- A driver package that is not installed, and how to install it. -/
def missingDependency (package : String) (installPackage : Option String) : Fault :=
  let install := match installPackage with
    | none | some "" => package
    | some name => name
  of .missingDependency
    ("Package " ++ Text.quoted package ++ " is not installed but required. You can install it by " ++
      "running 'pip install sqlbridge[" ++ install ++ "]' to install sqlbridge with the required " ++
      "extra or 'pip install " ++ install ++ "' to install the package separately")

def ofMessage (kind : FaultKind) (message : String) : Fault :=
  match kind with
  | .foreign kind => .foreign kind (some message) none
  | .library .templateSyntax => templateSyntax message none none
  | .library .missingDependency => missingDependency message none
  | .library kind =>
    if kind.isParameter then parameter kind message none
    else ofTexts kind (if message = "" then [] else [message]) ""

/-- Which faults a boundary takes for failures of the native driver: all ordinary
ones if no kinds are named. -/
def matchesAny (kinds : Option (List FaultKind)) (fault : Fault) : Bool :=
  match kinds with
  | none => fault.kind.isOrdinary
  | some kinds => kinds.any fault.kind.isA

/-- A fault as it leaves a boundary around native calls.  Faults of the library
pass, those of the named kinds become database faults caused by them, and all
others pass. -/
def atBoundary (detail : String) (kinds : Option (List FaultKind)) (fault : Fault) : Fault :=
  if fault.kind.isLibrary then fault
  else if matchesAny kinds fault then
    (of .database (detail ++ ": " ++ fault.message)).because fault
  else fault

end Fault

end SqlGateway
