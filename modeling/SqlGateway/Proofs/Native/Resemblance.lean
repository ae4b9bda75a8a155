import SqlGateway.Proofs.Native.Record

namespace SqlGateway

/-!
# Parameters that only the record knows

The driver records the parameters of a statement, and does nothing else with them.  Two drivers
resemble each other if they are the same but for the parameters in their records.  Whatever
an adapter does, it does alike with drivers that resemble each other, also if it runs a
statement with other parameters on the one than on the other.

The record also has the native texts in it: those that are given to the engine or to the grammar
checker, and those that hooks are told.  Drivers that resemble each other recorded the same texts.
-/

namespace Native

/-- The call with nothing left of its parameters but whether there were any. -/
def Call.withoutParameters : Call → Call
  | .execute connection cursor sql parameters =>
    .execute connection cursor sql (parameters.map fun _ => [])
  | call => call

def Call.text? : Call → Option String
  | .execute _ _ sql _ | .runDirectly _ sql | .prepare _ _ sql | .parse _ _ sql => some sql
  | .checkGrammar sql _ => some sql
  | .hook _ _ sql => some sql
  | _ => none

/-- The event without the parameters of its call. -/
def Event.withoutParameters (event : Event) : Event :=
  { event with call := event.call.withoutParameters }

theorem Call.text?_withoutParameters (call : Call) : call.withoutParameters.text? = call.text? := by
  cases call <;> rfl

def Driver.texts (driver : Driver) : List String :=
  driver.events.filterMap fun event => event.call.text?

/-- The drivers are the same but for parameters in their records. -/
def Driver.Resembles (first second : Driver) : Prop :=
  exists events, second = { first with events := events } ∧
    events.map Event.withoutParameters = first.events.map Event.withoutParameters

namespace Driver.Resembles

theorem refl (driver : Driver) : driver.Resembles driver := ⟨driver.events, rfl, rfl⟩

theorem texts {first second : Driver} (resemble : first.Resembles second) :
    second.texts = first.texts := by
  have blind (driver : Driver) : driver.texts =
      (driver.events.map Event.withoutParameters).filterMap fun event => event.call.text? := by
    rw [List.filterMap_map]
    exact congrArg (fun text? => driver.events.filterMap text?)
      (funext fun event => event.call.text?_withoutParameters.symm)
  rcases resemble with ⟨events, rfl, same⟩
  rw [blind, blind, same]

end Driver.Resembles

end Native
end SqlGateway
