import SqlGateway.Proofs.Gateway.Steady
import SqlGateway.Proofs.Native.Confined

namespace SqlGateway

/-!
# Connecting that fails

To connect an entry its adapter is found, its options are checked, the driver is made available
and opens a connection, and the entry is given a handle on it.  The handle comes last, so whatever
fails, the entry has none and no id of a handle was used: nothing but the driver has changed.

A connection that was opened needs more, since nothing refers to it yet and nobody else can close
it.  The adapter of Oracle switches automatic commits on before it gives the connection away.  If
that fails the connection stays open.  No other adapter does anything at that point, so that every
other failure comes before there is a connection.
-/

namespace Native

/-- A connection was opened between two states of the driver, and it was not closed there. -/
structure Driver.StaysOpen (connection : Connection) (before after : Driver) : Prop where
  opened : connection.OpenedBetween before after
  unclosed : forall failure,
    (⟨.close connection, failure⟩ : Event) ∉ after.events.drop before.events.length

/-- A connection was opened, and nothing was done with it but that automatic commits were to be
switched on, which failed. -/
structure Driver.FailsToSwitch (reason : Fault) (before after : Driver) : Prop where
  connections : after.connections = before.connections + 1
  events : exists positional keywords,
    after.events = before.events ++ [⟨.connect positional keywords, none⟩,
      ⟨.setAutocommit (.opened (before.connections + 1)) true, some reason⟩]

section Opening

variable {connection : Connection} {before after : Driver} {reason fault : Fault}

theorem Driver.FailsToSwitch.staysOpen (fails : before.FailsToSwitch reason after) :
    Driver.StaysOpen (.opened (before.connections + 1)) before after := by
  constructor
  · exact ⟨_, rfl, Nat.lt_succ_self _, Nat.le_of_eq fails.connections.symm⟩
  · intro failure member
    rcases fails.events with ⟨positional, keywords, same⟩
    rw [same, List.drop_left] at member
    rcases List.mem_cons.mp member with impossible | member
    · cases impossible
    · cases List.mem_singleton.mp member

theorem Driver.StaysOpen.connections_lt (staysOpen : Driver.StaysOpen connection before after) :
    before.connections < after.connections := by
  rcases staysOpen.opened with ⟨number, -, later, known⟩
  exact Nat.lt_of_lt_of_le later known

/-- A call at a place of the script that fails is recorded with its fault. -/
theorem callAt_error {point : FailPoint} {call : Call}
    (fails : callAt point call before = .error fault after) :
    after.events = before.events ++ [⟨call, some fault⟩] ∧
      after.connections = before.connections := by
  have events := events_nextFailure before point
  have connections := connections_nextFailure before point
  rw [callAt_run] at fails
  rcases tried : before.nextFailure point with ⟨_ | other, left⟩
  · rw [tried] at fails
    cases fails
  · rw [tried] at fails events connections
    cases fails
    rw [← events, ← connections]
    exact ⟨rfl, rfl⟩

end Opening

end Native

namespace Adapter

open Native (Driver)

/-- Opening a connection fails before there is one, or when Oracle is to switch automatic commits
on. -/
theorem openConnection_error {adapter : Adapter} {params : ConnectionParams}
    {options : List (String × Value)} {driver left : Driver} {fault : Fault}
    (fails : adapter.openConnection params options driver = .error fault left) :
    left.connections = driver.connections ∨
      adapter = .oracle ∧ driver.FailsToSwitch fault left := by
  cases adapter.openConnection_opening params options driver with
  | unready reason refuses comes =>
      cases fails.symm.trans comes
      exact Or.inl rfl
  | unnamed oracle host port service reason failures comes =>
      cases fails.symm.trans comes
      exact Or.inl rfl
  | refused arguments given reason failures comes =>
      cases fails.symm.trans comes
      exact Or.inl rfl
  | opened arguments given failures comes =>
      have unready := comes.symm.trans fails
      unfold prepareOpened at unready
      by_cases oracle : adapter = .oracle
      · right
        rw [if_pos oracle] at unready
        rcases Operation.error_of_bind unready with unswitched | ⟨_, _, -, impossible⟩
        · rcases Native.callAt_error unswitched with ⟨added, kept⟩
          refine ⟨oracle, kept, arguments.positional, arguments.sorted, ?_⟩
          rw [added]
          exact List.append_assoc _ _ _
        · cases impossible
      · rw [if_neg oracle] at unready
        cases unready

end Adapter

namespace Gateway

variable {α : Type} {id : Nat} {gateway left : Gateway α} {fault : Fault}

open Native (Driver)

/-- Giving an entry a handle and announcing it cannot fail. -/
theorem attached_ne_error {connection : Native.Connection} {adapter : Adapter}
    {params : ConnectionParams} :
    (do
      let handle ← (attach id connection adapter : Operation (Gateway α) Handle)
      announceConnected params handle
      return handle) gateway ≠ .error fault left := by
  intro fails
  rcases Operation.error_of_bind fails with impossible | ⟨handle, attached, -, fails⟩
  · cases impossible
  · rcases Operation.error_of_bind fails with announced | ⟨_, _, -, impossible⟩
    · have silent := announceConnected_outcome params handle attached
      rw [Operation.outcome_of_error announced] at silent
      cases silent
    · cases impossible

/-- Where opening the connection of an entry fails, only the driver has changed, and a connection
was opened only if Oracle could not switch automatic commits on. -/
theorem openEntry_error {params : ConnectionParams}
    (fails : openEntry id params gateway = .error fault left) :
    left = { gateway with driver := left.driver } ∧
      (left.driver.connections = gateway.driver.connections ∨
        Adapter.ofDialect params.dialect = .ok .oracle ∧
          exists reason, gateway.driver.FailsToSwitch reason left.driver ∧
            fault = driverFault "Failed connecting to database" reason) := by
  rcases Operation.error_of_bind fails with unknown | ⟨adapter, _, known, afterAdapter⟩
  · rcases Operation.ofExcept_eq_error.mp unknown with ⟨-, rfl⟩
    exact ⟨rfl, Or.inl rfl⟩
  rcases Operation.ofExcept_eq_ok.mp known with ⟨found, rfl⟩
  rcases Operation.error_of_bind afterAdapter with unsettled | ⟨options, _, settled, afterOptions⟩
  · rcases Operation.ofExcept_eq_error.mp unsettled with ⟨-, rfl⟩
    exact ⟨rfl, Or.inl rfl⟩
  rcases Operation.ofExcept_eq_ok.mp settled with ⟨-, rfl⟩
  rcases Operation.error_of_bind afterOptions with impossible | ⟨current, _, read, afterRead⟩
  · cases impossible
  cases read
  rcases Operation.error_of_bind afterRead with missing | ⟨_, _, imported, afterImport⟩
  · rcases Operation.ofExcept_eq_error.mp missing with ⟨-, rfl⟩
    exact ⟨rfl, Or.inl rfl⟩
  rcases Operation.ofExcept_eq_ok.mp imported with ⟨-, rfl⟩
  rcases Operation.error_of_bind afterImport with refused | ⟨connection, _, -, afterOpening⟩
  · rcases Operation.error_of_mapFault refused with ⟨reason, unopened, rfl⟩
    rcases Operation.error_of_within unopened with ⟨changed, refusal, rfl⟩
    refine ⟨rfl, (Adapter.openConnection_error refusal).imp_right ?_⟩
    rintro ⟨rfl, unswitched⟩
    exact ⟨found, reason, unswitched, rfl⟩
  · exact absurd afterOpening attached_ne_error

/-- If connecting an entry fails, the entry has no handle, no id of a handle was used, and nothing
but the driver has changed.  A connection stays open exactly if the driver of Oracle opened it and
then could not switch automatic commits on, which is what the fault reports. -/
theorem failed_connect_staysOpen_iff (fails : connect id gateway = .error fault left) :
    left = { gateway with driver := left.driver } ∧ (left.entry id).handle = none ∧
    ((exists connection, Driver.StaysOpen connection gateway.driver left.driver) ↔
      Adapter.ofDialect (gateway.entry id).params.dialect = .ok .oracle ∧
      exists reason, gateway.driver.FailsToSwitch reason left.driver ∧
        fault = driverFault "Failed connecting to database" reason) := by
  have unconnected : (gateway.entry id).handle = none := by
    cases held : (gateway.entry id).handle with
    | none => rfl
    | some handle => cases (connect_of_connected held).symm.trans fails
  rw [connect_of_unconnected unconnected] at fails
  rcases openEntry_error fails with ⟨same, cases⟩
  refine ⟨same, ?_, ?_, ?_⟩
  · rw [same]
    exact unconnected
  · rintro ⟨connection, staysOpen⟩
    rcases cases with unopened | unswitched
    · exact absurd staysOpen.connections_lt (Nat.not_lt.mpr (Nat.le_of_eq unopened))
    · exact unswitched
  · rintro ⟨-, reason, unswitched, -⟩
    exact ⟨_, unswitched.staysOpen⟩

/-- An entry for an Oracle database, over a driver that connects and then is lost. -/
def adrift : Gateway Unit :=
  let params : ConnectionParams :=
    ⟨.doubleQuoted "oci8" "oci" .colon "oracle" "oracle" true, .text "d", .text "h", none,
      .text "u", .text "p", []⟩
  (addEntry (.ofParams params true)).after
    (.ofDriver (.ofScript [] [(.setAutocommit, [some (.foreign .driver (some "lost") none)])] []
      (.int 0)))

theorem adrift_failsToSwitch :
    exists reason left,
      connect 0 adrift = .error (driverFault "Failed connecting to database" reason) left ∧
        adrift.driver.FailsToSwitch reason left.driver :=
  ⟨_, _, rfl, rfl, _, _, rfl⟩

theorem failed_connect_staysOpen_of_adrift :
    exists fault left, connect 0 adrift = .error fault left ∧
      left = { adrift with driver := left.driver } ∧ (left.entry 0).handle = none ∧
      exists connection, Driver.StaysOpen connection adrift.driver left.driver := by
  rcases adrift_failsToSwitch with ⟨reason, left, fails, unswitched⟩
  rcases failed_connect_staysOpen_iff fails with ⟨same, unconnected, staysOpen⟩
  exact ⟨_, left, fails, same, unconnected, staysOpen.mpr ⟨rfl, reason, unswitched, rfl⟩⟩

/-- The first connection is open when connecting has failed. -/
theorem adrift_staysOpen :
    exists fault left, connect 0 adrift = .error fault left ∧
      Driver.StaysOpen (.opened 1) adrift.driver left.driver := by
  rcases adrift_failsToSwitch with ⟨reason, left, fails, unswitched⟩
  exact ⟨_, left, fails, unswitched.staysOpen⟩

end Gateway
end SqlGateway
