import SqlGateway.Database.Prepared
import SqlGateway.Proofs.Database.ServiceRun

namespace SqlGateway

/-!
# What the library does with its driver

The library works on its driver only through adapters.  Compiling, logging and what is kept of
entries, hooks and transactions are beside it.  So what the work of the adapters does to the driver,
the operations of the library do to it, whatever comes of them.
-/

open Database (OfDriver)
open Native (Driver)

variable {α σ β : Type} {relation : Driver → Driver → Prop}

/-- What happened to the driver of a session. -/
def Session.OfDriver (relation : Driver → Driver → Prop) (before after : Session α σ) : Prop :=
  Database.OfDriver relation before.gateway after.gateway

theorem Session.library_ofDriver {operation : Operation (Gateway α) β}
    (respects : operation.Respects (Database.OfDriver relation)) :
    (library operation : Operation (Session α σ) β).Respects (Session.OfDriver relation) :=
  .within respects fun _ _ related => related

variable [IsPreorder Driver relation]

instance : IsPreorder (Session α σ) (Session.OfDriver relation) where
  refl session := refl_of (Database.OfDriver relation) session.gateway
  trans _ _ _ first second := trans_of (Database.OfDriver relation) first second

namespace Gateway

theorem disconnect_ofDriver
    (closes : forall connection, (Native.close connection).Respects relation)
    (id : Nat) (tracker : Option Scope) :
    (disconnect id tracker : Operation (Gateway α) Unit).Respects (OfDriver relation) := by
  refine .bind (entryAt_ofDriver id) fun entry => ?_
  split
  · exact .pure ()
  · rename_i handle _
    have ends : (closeDropped handle : Operation (Gateway α) Unit).Respects (OfDriver relation) :=
      .bind (.mapFault _ (onDriver_ofDriver (closes _))) fun _ => write_ofDriver _ _ _ _
    refine .bind (modify_ofDriver fun _ => rfl) fun _ => ?_
    dsimp only
    split
    · exact .bind (modify_ofDriver fun _ => rfl) fun _ => ends
    · exact ends

end Gateway

namespace Database

open Gateway (onDriver_ofDriver modify_ofDriver write_ofDriver entryAt_ofDriver connect_ofDriver)

variable (database : Database)
variable (opens : forall (adapter : Adapter) params options,
  (adapter.openConnection params options).Respects relation)
include opens

theorem perform_ofDriver
    (transacts : forall (adapter : Adapter) connection call,
      (adapter.transact connection call).Respects relation) (action : Action) :
    (action.perform database : Operation (Gateway α) Unit).Respects (OfDriver relation) := by
  have notices (message : Option String) :
      (writeNotice message : Operation (Gateway α) Unit).Respects (OfDriver relation) := by
    cases message with
    | none => exact .pure ()
    | some message => exact write_ofDriver _ _ _ _
  have replaces (tracker : Tracker) :
      (database.setTracker tracker : Operation (Gateway α) Unit).Respects (OfDriver relation) :=
    modify_ofDriver fun _ => rfl
  have carries (handle : Handle) (plan : Transaction.Plan) :
      (database.carryOut handle plan : Operation (Gateway α) Unit).Respects
        (OfDriver relation) := by
    have ends : (do
        database.setTracker plan.succeeded
        writeNotice plan.confirmation : Operation (Gateway α) Unit).Respects (OfDriver relation) :=
      .bind (replaces _) fun _ => notices _
    refine .bind (notices _) fun _ => ?_
    dsimp only
    split
    · exact .bind (replaces _) fun _ =>
        .bind (.atBoundary _ _ (onDriver_ofDriver (transacts _ _ _))) fun _ => ends
    · exact ends
  have moves (plan : Tracker → Nat → Except Fault Transaction.Plan) :
      (database.move plan : Operation (Gateway α) Unit).Respects (OfDriver relation) := by
    refine .bind (connect_ofDriver opens _) fun handle => ?_
    refine .bind .get fun _ => ?_
    refine .bind (.ofExcept _) fun plan => ?_
    exact carries handle plan
  cases action with
  | begin => exact .bind (entryAt_ofDriver _) fun _ => moves _
  | commit => exact moves _
  | rollback => exact moves _

/-- A query does with the driver what connecting, its statement, what follows the statement, and
the callbacks around it do. -/
theorem query_ofDriver {runner : HookRunner α σ}
    (executes : forall connection sql parameters,
      (Adapter.execute connection sql parameters).Respects relation)
    (concludes : forall (adapter : Adapter) connection inTransaction,
      (adapter.afterExecute connection inTransaction).Respects relation)
    (hooks : forall name phase callback sql,
      (runner name phase callback sql).Respects (Session.OfDriver relation))
    (template : String) (values : List Value) :
    (database.query runner template values).Respects (Session.OfDriver relation) := by
  have calls (phase : Native.HookPhase) (sql : String) (registered : List (Hook α)) :
      (runHooks runner phase sql registered).Respects (Session.OfDriver relation) :=
    runHooks_respects (fun _ _ _ _ => Session.library_ofDriver (write_ofDriver _ _ _ _))
      (fun _ _ => hooks _ _ _ _) registered
  refine .bind (Session.library_ofDriver (database.compile_ofDriver template)) fun query => ?_
  refine .bind (Session.library_ofDriver (connect_ofDriver opens _)) fun handle => ?_
  refine .bind (.ofExcept _) fun _ => ?_
  refine .bind (Session.library_ofDriver (entryAt_ofDriver _)) fun _ => ?_
  refine .bind (calls _ _ _) fun _ => ?_
  refine .bind (Session.library_ofDriver (write_ofDriver _ _ _ _)) fun _ => ?_
  refine .bind (Session.library_ofDriver (runStatement_ofDriver (executes _ _ _) (concludes _ _)))
    fun _ => ?_
  refine .bind (calls _ _ _) fun _ => ?_
  exact .pure _

theorem lastInsertId_ofDriver
    (reports : forall (adapter : Adapter) connection row,
      (adapter.lastInsertId connection row).Respects relation) :
    (database.lastInsertId : Operation (Gateway α) Int).Respects (OfDriver relation) :=
  .bind (connect_ofDriver opens _) fun _ => .atBoundary _ _ (onDriver_ofDriver (reports _ _ _))

theorem prepare_ofDriver
    (readies : forall (adapter : Adapter) connection sql,
      (adapter.prepareNatively connection sql).Respects relation)
    (validates : forall dialect sql, (Adapter.validate dialect sql).Respects relation)
    (template : String) :
    (database.prepare template : Operation (Gateway α) PreparedStatement).Respects
      (OfDriver relation) := by
  have byServer (sql : String) :
      (database.prepareOnServer sql : Operation (Gateway α) Unit).Respects (OfDriver relation) :=
    .bind (connect_ofDriver opens _) fun _ => .atBoundary _ _ (onDriver_ofDriver (readies _ _ _))
  have byGrammar (dialect : Dialect) :
      (checkGrammar template dialect : Operation (Gateway α) Unit).Respects (OfDriver relation) :=
    .bind (Gateway.compile_ofDriver _ _ _) fun _ => onDriver_ofDriver (validates _ _)
  refine .bind (entryAt_ofDriver _) fun _ => .bind (Gateway.compile_ofDriver _ _ _) fun query => ?_
  dsimp only
  split
  · refine .bind (.ofExcept _) fun adapter => ?_
    split
    · exact .bind (byServer _) fun _ => .pure _
    · exact .bind (byGrammar _) fun _ => .pure _
  · exact .pure _

end Database
end SqlGateway
