import SqlGateway.Proofs.Session.Resemblance

namespace SqlGateway

/-!
# Dialogues with a database

What a caller does by queries is a dialogue: it asks one template after the other and goes on
as it is answered.  Two dialogues are alike if they ask the same templates as long as they get the
same answers.  The values that go with the templates may differ.

Whether a value can be given to a placeholder depends on the value, so a dialogue may end with a
fault there.  Dialogues that are alike and do not end so are run with the same outcome, and they
leave sessions that resemble each other.
-/

/-- What is done with a database, as far as it asks templates. -/
inductive Dialogue (α σ β : Type) : Type 1 where
  | done (value : β)
  | fail (fault : Fault)
  /-- Do something that asks no template with values. -/
  | use {γ : Type} (operation : Operation (Session α σ) γ)
      (next : Except Fault γ → Dialogue α σ β)
  /-- Ask a template, read the result and close it. -/
  | ask {γ : Type} (template : String) (values : List Value)
      (read : QueryResult → Except Fault γ) (next : Except Fault γ → Dialogue α σ β)

namespace Dialogue

variable {α σ β γ : Type}

def run (runner : HookRunner α σ) (database : Database) :
    Dialogue α σ β → Operation (Session α σ) β
  | .done value => pure value
  | .fail fault => throw fault
  | .use operation next => do (next (← Operation.observe operation)).run runner database
  | .ask template values read next => do
    (next (← Operation.observe (database.withQuery runner template values read))).run
      runner database

/-- Each template that is asked can be given its values. -/
def Binds (runner : HookRunner α σ) (database : Database) :
    Dialogue α σ β → Session α σ → Prop
  | .done _, _ | .fail _, _ => True
  | .use operation next, session =>
    (next (operation.outcome session)).Binds runner database (operation.after session)
  | .ask template values read next, session =>
    let operation := database.withQuery runner template values read
    database.Binds template values session ∧
      (next (operation.outcome session)).Binds runner database (operation.after session)

/-- The dialogues differ only in the values that go with their templates. -/
inductive Alike : Dialogue α σ β → Dialogue α σ β → Prop
  | done (value : β) : Alike (.done value) (.done value)
  | fail (fault : Fault) : Alike (.fail fault) (.fail fault)
  | use {γ : Type} {operation : Operation (Session α σ) γ}
      {next otherNext : Except Fault γ → Dialogue α σ β}
      (blind : operation.Alike Session.Resembles operation)
      (rest : forall outcome, Alike (next outcome) (otherNext outcome)) :
      Alike (.use operation next) (.use operation otherNext)
  | ask {γ : Type} {template : String} {values others : List Value}
      {read : QueryResult → Except Fault γ} {next otherNext : Except Fault γ → Dialogue α σ β}
      (rest : forall outcome, Alike (next outcome) (otherNext outcome)) :
      Alike (.ask template values read next) (.ask template others read otherNext)

/-- Dialogues that are alike are alike when they are run, if all values can be given. -/
theorem Alike.run {runner : HookRunner α σ} (blind : runner.IsBlind) {database : Database}
    {dialogue other : Dialogue α σ β} (alike : dialogue.Alike other) {first second : Session α σ}
    (binds : dialogue.Binds runner database first)
    (otherBinds : other.Binds runner database second) (resemble : first.Resembles second) :
    Operation.AlikeOn Session.Resembles (dialogue.run runner database)
      (other.run runner database) first second := by
  induction alike generalizing first second with
  | done value => exact Operation.Alike.pure value _ _ resemble
  | fail fault => exact Operation.Alike.throw fault _ _ resemble
  | use operationBlind _ inductionHypothesis =>
      have alike := operationBlind _ _ resemble
      exact alike.observeBind fun resemble =>
        inductionHypothesis _ binds (alike.1 ▸ otherBinds) resemble
  | @ask _ _ _ _ read _ _ _ inductionHypothesis =>
      have alike := Database.withQuery_alike blind read binds.1 otherBinds.1 resemble
      exact alike.observeBind fun resemble =>
        inductionHypothesis _ binds.2 (alike.1 ▸ otherBinds.2) resemble

/-! ## Going on from values -/

/-- Go on from a value; a fault is the fault of all. -/
def attempt (outcome : Except Fault γ) (next : γ → Dialogue α σ β) : Dialogue α σ β :=
  match outcome with
  | .ok value => next value
  | .error fault => .fail fault

/-- Do something and go on from its value. -/
def useThen (operation : Operation (Session α σ) γ) (next : γ → Dialogue α σ β) :
    Dialogue α σ β :=
  .use operation fun outcome => attempt outcome next

/-- Ask a template and go on from what was read. -/
def askThen (template : String) (values : List Value) (read : QueryResult → Except Fault γ)
    (next : γ → Dialogue α σ β) : Dialogue α σ β :=
  .ask template values read fun outcome => attempt outcome next

def tell (template : String) (values : List Value) (next : Dialogue α σ β) : Dialogue α σ β :=
  askThen template values (fun _ => .ok ()) fun _ => next

theorem Alike.attempt (outcome : Except Fault γ) {next otherNext : γ → Dialogue α σ β}
    (rest : forall value, (next value).Alike (otherNext value)) :
    (Dialogue.attempt outcome next).Alike (Dialogue.attempt outcome otherNext) := by
  cases outcome with
  | ok value => exact rest value
  | error fault => exact .fail fault

theorem Alike.useThen {operation : Operation (Session α σ) γ}
    (blind : operation.Alike Session.Resembles operation) {next otherNext : γ → Dialogue α σ β}
    (rest : forall value, (next value).Alike (otherNext value)) :
    (Dialogue.useThen operation next).Alike (Dialogue.useThen operation otherNext) :=
  .use blind fun outcome => .attempt outcome rest

theorem Alike.askThen {template : String} {values others : List Value}
    {read : QueryResult → Except Fault γ} {next otherNext : γ → Dialogue α σ β}
    (rest : forall value, (next value).Alike (otherNext value)) :
    (Dialogue.askThen template values read next).Alike
      (Dialogue.askThen template others read otherNext) :=
  .ask fun outcome => .attempt outcome rest

theorem Alike.tell {template : String} {values others : List Value}
    {next otherNext : Dialogue α σ β} (rest : next.Alike otherNext) :
    (Dialogue.tell template values next).Alike (Dialogue.tell template others otherNext) :=
  .askThen fun _ => rest

section Running

variable (runner : HookRunner α σ) (database : Database)

theorem run_attempt (outcome : Except Fault γ) (next : γ → Dialogue α σ β) :
    (attempt outcome next).run runner database =
      Operation.ofExcept outcome >>= fun value => (next value).run runner database := by
  cases outcome <;> rfl

theorem run_useThen (operation : Operation (Session α σ) γ) (next : γ → Dialogue α σ β) :
    (useThen operation next).run runner database =
      operation >>= fun value => (next value).run runner database := by
  funext session
  rw [useThen, run, Operation.observe_bind, run_attempt, Operation.bind_eq operation]
  cases operation.outcome session <;> rfl

theorem run_askThen (template : String) (values : List Value)
    (read : QueryResult → Except Fault γ) (next : γ → Dialogue α σ β) :
    (askThen template values read next).run runner database =
      database.withQuery runner template values read >>= fun value =>
        (next value).run runner database :=
  run_useThen runner database (database.withQuery runner template values read) next

/-- A result of which nothing is read. -/
theorem withQuery_unread (template : String) (values : List Value) :
    database.withQuery runner template values (fun _ => .ok ()) =
      database.run runner template values := by
  funext session
  rw [Database.withQuery, Database.run, Operation.bind_eq, Operation.bind_eq]
  cases (database.query runner template values).outcome session with
  | error fault => rfl
  | ok result =>
      simp only [Operation.thenAlways]
      rw [Operation.observe_bind, Operation.bind_eq]
      exact (Operation.run_eq _ _).symm

theorem run_tell (template : String) (values : List Value) (next : Dialogue α σ β) :
    (tell template values next).run runner database =
      database.run runner template values >>= fun _ => next.run runner database := by
  rw [tell, run_askThen, withQuery_unread]

end Running

end Dialogue
end SqlGateway
