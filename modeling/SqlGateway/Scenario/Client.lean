import SqlGateway.Scenario.Answer
import SqlGateway.Scenario.Command

namespace SqlGateway
namespace Scenario

/-!
The memory of a scripted caller: what it made, by name, and how much of the calls and of
the log its answers have told so far.  Results are kept by number, so that a block that
holds a result open frees that result, even if its name was given to another.
-/

/-- The memory of a caller. -/
structure Client where
  databases : Dictionary String Database
  entries : Dictionary String Nat
  statements : Dictionary String PreparedStatement
  resultNumbers : Dictionary String Nat
  results : Dictionary Nat QueryResult
  outcomes : Dictionary String TransactionOutcome
  hooks : Dictionary String Nat
  /-- How many events the answers have told. -/
  toldEvents : Nat
  /-- How many records of the log the answers have told. -/
  toldRecords : Nat
  /-- The rows that the current step has read one after the other. -/
  rows : Option (List Value)
  /-- The answers inside the block of the current step, once it has started. -/
  steps : Option (List Answer)

/-- A caller that has made nothing. -/
def Client.fresh : Client :=
  ⟨.empty, .empty, .empty, .empty, .empty, .empty, .empty, 0, 0, none, none⟩

abbrev State := Session Callback Client

abbrev Play (β : Type) := Operation State β

abbrev Runner := HookRunner Callback Client

/-- The start of a scenario over a driver. -/
def State.ofDriver (driver : Native.Driver) : State := ⟨.ofDriver driver, .fresh⟩

variable {β : Type}

def remember (change : Client → Client) : Play Unit := Session.onCaller (modify change)

/-- What the caller keeps in one of its tables under a name. -/
def named (table : Client → Dictionary String β) (name : String) : Play β := do
  match (table (← get).caller).get? name with
  | some found => return found
  | none => throw (.bare .badKey)

def keepDatabase (name : String) (database : Database) : Play Unit :=
  remember fun client => { client with databases := client.databases.put name database }

def keepEntry (name : String) (id : Nat) : Play Unit :=
  remember fun client => { client with entries := client.entries.put name id }

def keepStatement (name : String) (statement : PreparedStatement) : Play Unit :=
  remember fun client => { client with statements := client.statements.put name statement }

def keepOutcome (name : String) (outcome : TransactionOutcome) : Play Unit :=
  remember fun client => { client with outcomes := client.outcomes.put name outcome }

def keepHook (name : String) (id : Nat) : Play Unit :=
  remember fun client => { client with hooks := client.hooks.put name id }

def keepResult (name : String) (result : QueryResult) : Play Unit :=
  remember fun client =>
    let number := client.results.size
    { client with
      results := client.results.put number result
      resultNumbers := client.resultNumbers.put name number }

/-! ## Results -/

def resultAt (number : Nat) : Play QueryResult := do
  match (← get).caller.results.get? number with
  | some result => return result
  | none => throw (.bare .badKey)

def setResult (number : Nat) (result : QueryResult) : Play Unit :=
  remember fun client => { client with results := client.results.put number result }

def resultNamed (name : String) : Play QueryResult := do
  resultAt (← named Client.resultNumbers name)

def fetching (name : String) (fetch : QueryResult → Except Fault β × QueryResult) : Play β := do
  let number ← named Client.resultNumbers name
  let (outcome, result) := fetch (← resultAt number)
  setResult number result
  .ofExcept outcome

def freeResult (number : Nat) : Play Unit := do
  let result ← resultAt number
  setResult number result.freed
  Session.driver result.free

/-- Read rows one after the other, at most so many if a limit is given. -/
def readRows (limit : Option Nat) (result : QueryResult) :
    List Value × Option Fault × QueryResult :=
  match limit with
  | some limit => result.takeRows limit
  | none => result.iterate

/-- Read rows one after the other from the result with a name. -/
def iterate (name : String) (limit : Option Nat) : Play Nat := do
  let number ← named Client.resultNumbers name
  let (rows, fault, result) := readRows limit (← resultAt number)
  setResult number result
  remember fun client => { client with rows := some rows }
  match fault with
  | some fault => throw fault
  | none => return rows.length

end Scenario
end SqlGateway
