import SqlGateway.Proofs.Gateway.Redaction

namespace SqlGateway
namespace Database

/-!
# Databases that differ in the password

A database is asked for with the parameters of its connection, or with their fields.  Of two
requests that differ in the password in them, both conflict with themselves or neither does, and
they are answered with one database.  From then on all services of the database are alike.
-/

variable {α : Type} {callbacks : α → α → Prop}

open Gateway (Discreet SameButPasswords)

/-! ## Requests -/

/-- Parameters given as a whole in the same way, the same but for the password. -/
inductive WholeParams.SameButPassword : WholeParams → WholeParams → Prop
  | checked {params others : ConnectionParams} (same : params.SameButPassword others) :
      SameButPassword (.checked params) (.checked others)
  | unchecked {value other : Value}
      (same : ConnectionParams.redactedMapping value = ConnectionParams.redactedMapping other) :
      SameButPassword (.unchecked value) (.unchecked other)

namespace Request

structure SameButPassword (request other : Request) : Prop where
  params : Option.Rel WholeParams.SameButPassword request.params other.params
  fields : request.fields.SameButPassword other.fields
  useCache : other.useCache = request.useCache

def redactedArgument (argument : String × Value) : String × Value :=
  match argument.1 with
  | "password" => (argument.1, argument.2.redacted)
  | "params" => (argument.1, ConnectionParams.redactedMapping argument.2)
  | _ => argument

/-- Two arguments are one argument, or a password each, or parameters as a whole each. -/
theorem redactedArgument_cases {argument other : String × Value}
    (same : redactedArgument argument = redactedArgument other) :
    argument = other ∨
      (argument.1 = "password" ∧ other.1 = "password" ∧ argument.2.SamePassword other.2) ∨
      (argument.1 = "params" ∧ other.1 = "params" ∧
        ConnectionParams.redactedMapping argument.2 =
          ConnectionParams.redactedMapping other.2) := by
  have names : other.1 = argument.1 := by
    have kept (argument : String × Value) : (redactedArgument argument).1 = argument.1 := by
      unfold redactedArgument
      split <;> rfl
    rw [← kept other, ← same, kept]
  unfold redactedArgument at same
  rw [names] at same
  split at same
  · rename_i named
    exact Or.inr (Or.inl ⟨named, names.trans named, (congrArg Prod.snd same).symm⟩)
  · rename_i named
    exact Or.inr (Or.inr ⟨named, names.trans named, congrArg Prod.snd same⟩)
  · exact Or.inl same

/-- Parameters that are missing are missing on both sides. -/
theorem set_params_same {request others : Request} (same : request.SameButPassword others)
    {value other : Value}
    (sameValue : ConnectionParams.redactedMapping value = ConnectionParams.redactedMapping other) :
    Corresponds SameButPassword (request.set "params" value) (others.set "params" other) := by
  by_cases missing : value = .null
  · subst missing
    have otherMissing : other = .null := by
      cases other with
      | mapping _ _ => cases sameValue
      | _ => exact sameValue.symm
    rw [otherMissing]
    exact .ok ⟨.none, same.fields, same.useCache⟩
  · have otherGiven : other ≠ .null := by
      intro otherMissing
      subst otherMissing
      cases value with
      | mapping _ _ => cases sameValue
      | _ => exact missing sameValue
    unfold set
    simp only
    exact .ok ⟨.some (.unchecked sameValue), same.fields, same.useCache⟩

theorem set_same {request others : Request} (same : request.SameButPassword others)
    {argument other : String × Value}
    (sameArgument : redactedArgument argument = redactedArgument other) :
    Corresponds SameButPassword (request.set argument.1 argument.2)
      (others.set other.1 other.2) := by
  rcases redactedArgument_cases sameArgument with
    rfl | ⟨named, otherNamed, samePassword⟩ | ⟨named, otherNamed, sameParams⟩
  · have sameFields (name : String) (value : Value) :
        (request.fields.set name value).SameButPassword (others.fields.set name value) :=
      have samePair : ConnectionFields.redactedPair (name, value) =
          ConnectionFields.redactedPair (name, value) := rfl
      same.fields.set samePair
    unfold set
    split
    · exact .ok ⟨.none, same.fields, same.useCache⟩
    · exact .ok ⟨.some (.unchecked rfl), same.fields, same.useCache⟩
    · exact .ok same
    · exact .ok same
    · exact .ok ⟨same.params, same.fields, rfl⟩
    · rcases same.fields with ⟨password, otherFields, samePassword⟩
      exact .ok ⟨same.params, ⟨password, by rw [otherFields], samePassword⟩, same.useCache⟩
    · split
      · exact .ok ⟨same.params, sameFields _ _, same.useCache⟩
      · exact .error _
  · rw [named, otherNamed]
    have sameFields : (request.fields.set "password" argument.2).SameButPassword
        (others.fields.set "password" other.2) := by
      rcases same.fields with ⟨password, otherFields, -⟩
      rw [otherFields]
      exact ⟨other.2, rfl, samePassword⟩
    exact .ok ⟨same.params, sameFields, same.useCache⟩
  · rw [named, otherNamed]
    exact set_params_same same sameParams

theorem ofArguments_same {arguments others : List (String × Value)}
    (same : arguments.map redactedArgument = others.map redactedArgument) :
    Corresponds SameButPassword (ofArguments arguments) (ofArguments others) := by
  have members := forall₂_of_map_eq same
  have start : SameButPassword ({} : Request) {} := ⟨.none, .refl {}, rfl⟩
  clear same
  have added (request other : Request) (sameRequest : request.SameButPassword other) :
      Corresponds SameButPassword
        (arguments.foldlM (fun request argument => request.set argument.1 argument.2) request)
        (others.foldlM (fun request argument => request.set argument.1 argument.2) other) := by
    induction members generalizing request other with
    | nil => exact .ok sameRequest
    | cons sameArgument _ inductionHypothesis =>
        rw [List.foldlM_cons, List.foldlM_cons]
        exact .bind (set_same sameRequest sameArgument) inductionHypothesis
  exact added {} {} start

theorem hasFields_same {request other : Request} (same : request.SameButPassword other) :
    other.hasFields = request.hasFields := by
  rcases same.fields with ⟨password, sameFields, samePassword⟩
  unfold hasFields
  rw [sameFields]
  simp only [List.any_cons, samePassword.isNull]

theorem isSome_same {request other : Request} (same : request.SameButPassword other) :
    other.params.isSome = request.params.isSome := by
  have sameParams := same.params
  generalize request.params = params at sameParams ⊢
  generalize other.params = others at sameParams ⊢
  cases sameParams <;> rfl

theorem dbms_same {request other : Request} (same : request.SameButPassword other) :
    other.fields.dbms = request.fields.dbms := by
  rcases same.fields with ⟨password, sameFields, -⟩
  rw [sameFields]

theorem conflict?_same {request other : Request} (same : request.SameButPassword other) :
    other.conflict? = request.conflict? := by
  unfold conflict?
  rw [hasFields_same same, isSome_same same, dbms_same same, same.useCache]

theorem isPrivate_same {request other : Request} (same : request.SameButPassword other) :
    other.isPrivate = request.isPrivate := by
  unfold isPrivate
  rw [same.useCache]

/-- Both requests give parameters, which are the same but for the password, or neither does. -/
theorem params?_same {request other : Request} (same : request.SameButPassword other) :
    Option.Rel (Corresponds ConnectionParams.SameButPassword) request.params? other.params? := by
  have sameParams := same.params
  have dbms := dbms_same same
  unfold params?
  generalize request.params = params at sameParams ⊢
  generalize other.params = others at sameParams ⊢
  cases sameParams with
  | none =>
      dsimp only
      rw [dbms]
      split
      · exact .none
      · rcases same.fields with ⟨password, sameFields, samePassword⟩
        rw [sameFields]
        exact .some (ConnectionParams.ofFields_same ⟨password, rfl, samePassword⟩)
  | some sameWhole =>
      cases sameWhole with
      | checked same => exact .some (.ok same)
      | unchecked same => exact .some (ConnectionParams.ofValue_same same)

end Request

/-! ## Making databases -/

theorem ofParams_same {params others : ConnectionParams} (same : params.SameButPassword others)
    (nestable : Bool) :
    (Entry.ofParams params nestable : Entry α).SameButPassword callbacks
      (.ofParams others nestable) :=
  ⟨same, rfl, rfl, .nil⟩

/-- The configuration has one password. -/
theorem configuredEntry_discreet (nestable : Bool) :
    Discreet callbacks (configuredEntry nestable : Operation (Gateway α) Nat) :=
  Gateway.getBind_discreet (fun _ _ _ => rfl) fun _ => .bind (.ofExcept _) fun params =>
    Gateway.addEntry_discreet (ofParams_same (.refl params) nestable)

theorem sharedEntry_discreet (registry : Scope) :
    Discreet callbacks (sharedEntry registry : Operation (Gateway α) Nat) := by
  refine Gateway.getBind_discreet (fun _ _ _ => rfl) fun _ => .bind (.ofExcept _) fun fingerprint =>
    .bind (Gateway.registered?_discreet _ _) fun found => ?_
  cases found with
  | some id => exact .pure id
  | none =>
      exact .bind (configuredEntry_discreet true) fun id =>
        .bind (Gateway.register_discreet _ _ _) fun _ => .pure id

theorem ofRequest_discreet {request other : Request} (same : request.SameButPassword other)
    (registry tracker : Scope) :
    (ofRequest request registry tracker : Operation (Gateway α) Database).Alike
      (SameButPasswords callbacks) (ofRequest other registry tracker) := by
  have sameParams := Request.params?_same same
  unfold ofRequest
  rw [Request.conflict?_same same, Request.isPrivate_same same]
  split
  · exact .throw _
  generalize request.params? = params at sameParams ⊢
  generalize other.params? = others at sameParams ⊢
  cases sameParams with
  | none =>
      dsimp only
      split
      · exact .bind (configuredEntry_discreet true) fun _ => .pure _
      · exact .bind (sharedEntry_discreet registry) fun _ => .pure _
  | some sameParams =>
      exact (Operation.Matched.ofExcept sameParams).bindAlike fun _ _ same =>
        .bind (Gateway.addEntry_discreet (ofParams_same same true)) fun _ => .pure _

theorem nonNestable_discreet :
    Discreet callbacks (nonNestable : Operation (Gateway α) Database) := by
  refine Gateway.getBind_discreet (fun _ _ _ => rfl) fun gateway => ?_
  cases gateway.nonNestable with
  | some database => exact .pure database
  | none =>
      exact .bind (configuredEntry_discreet false) fun _ =>
        .bind (Gateway.modify_discreet fun _ _ _ => rfl) fun _ => .pure _

/-! ## Services -/

/-- Of an entry, the displayed form of the database shows the parameters without the password. -/
theorem display_same {entry other : Entry α} (same : entry.SameButPassword callbacks other) :
    display other = display entry := by
  rcases same.params with ⟨password, sameParams, -⟩
  unfold display
  rw [sameParams, same.nestable]

theorem dialect_same {entry other : Entry α} (same : entry.SameButPassword callbacks other) :
    other.params.dialect = entry.params.dialect := by
  rcases same.params with ⟨password, sameParams, -⟩
  rw [sameParams]

section Services

variable (database : Database)

theorem entryOf_matched :
    Operation.Matched (SameButPasswords callbacks) (Entry.SameButPassword callbacks)
      database.entryOf database.entryOf :=
  Gateway.entryAt_matched database.entry

theorem setTracker_discreet (tracker : Tracker) :
    Discreet callbacks (database.setTracker tracker) :=
  Gateway.modify_discreet fun _ _ _ => rfl

theorem writeNotice_discreet (notice : Option String) :
    Discreet callbacks (writeNotice notice) := by
  cases notice with
  | some message => exact Gateway.write_discreet _ _ _ _
  | none => exact .pure ()

theorem callNative_discreet (handle : Handle) (call : Transaction.NativeCall) :
    Discreet callbacks (callNative handle call) :=
  .atBoundary _ _ (Gateway.onDriver_discreet (Adapter.transact_alike _ _ _))

theorem carryOut_discreet (handle : Handle) (plan : Transaction.Plan) :
    Discreet callbacks (database.carryOut handle plan) := by
  refine .bind (writeNotice_discreet _) fun _ => ?_
  have ends : Discreet callbacks (do
      database.setTracker plan.succeeded
      writeNotice plan.confirmation) :=
    .bind (setTracker_discreet database _) fun _ => writeNotice_discreet _
  cases plan.call with
  | some call =>
      exact .bind (setTracker_discreet database _) fun _ =>
        .bind (callNative_discreet handle call) fun _ => ends
  | none => exact ends

theorem move_discreet (operation : Tracker → Nat → Except Fault Transaction.Plan) :
    Discreet callbacks (database.move operation) :=
  .bind (Gateway.connect_discreet _) fun handle => Gateway.getBind_discreet (fun _ _ _ => rfl)
    fun _ => .bind (.ofExcept _) fun plan => carryOut_discreet database handle plan

theorem begin_discreet : Discreet callbacks database.begin := by
  refine (entryOf_matched database).bindAlike fun entry other same => ?_
  rw [same.nestable]
  exact move_discreet database _

theorem lastInsertId_discreet : Discreet callbacks database.lastInsertId :=
  .bind (Gateway.connect_discreet _) fun _ =>
    .atBoundary _ _ (Gateway.onDriver_discreet (Adapter.lastInsertId_alike _ _ _))

theorem quote_discreet (value : Value) : Discreet callbacks (database.quote value) := by
  refine (entryOf_matched database).bindAlike fun entry other same => ?_
  unfold Entry.adapter
  rw [dialect_same same]
  exact .bind (.ofExcept _) fun _ => .bind (.ofExcept _) fun _ => .pure _

theorem quoteIdentifier_discreet (identifier : String) :
    Discreet callbacks (database.quoteIdentifier identifier) := by
  refine (entryOf_matched database).bindAlike fun entry other same => ?_
  rw [dialect_same same]
  exact .ofExcept _

/-! ## Statements -/

theorem compile_discreet (template : String) :
    Discreet callbacks (database.compile template) := by
  refine (entryOf_matched database).bindAlike fun entry other same => ?_
  rw [dialect_same same]
  exact Gateway.compile_discreet _ _ _

theorem prepareOnServer_discreet (sql : String) :
    Discreet callbacks (database.prepareOnServer sql) :=
  .bind (Gateway.connect_discreet _) fun _ =>
    .atBoundary _ _ (Gateway.onDriver_discreet (Adapter.prepareNatively_alike _ _ _))

theorem checkGrammar_discreet (template : String) (dialect : Dialect) :
    Discreet callbacks (checkGrammar template dialect) :=
  .bind (Gateway.compile_discreet _ _ _) fun _ =>
    Gateway.onDriver_discreet (Adapter.validate_alike _ _)

theorem prepare_discreet (template : String) :
    Discreet callbacks (database.prepare template) := by
  refine (entryOf_matched database).bindAlike fun entry other same => ?_
  rcases same.params with ⟨password, sameParams, -⟩
  rw [sameParams]
  refine .bind (Gateway.compile_discreet _ _ _) fun query => ?_
  have emulates : ({ entry.params with password := password } : ConnectionParams).emulatePrepares =
      entry.params.emulatePrepares := rfl
  rw [emulates]
  split
  · refine .bind (.ofExcept _) fun adapter => ?_
    split
    · exact .bind (prepareOnServer_discreet database _) fun _ => .pure _
    · exact .bind (checkGrammar_discreet _ _) fun _ => .pure _
  · exact .pure _

theorem runStatement_discreet (handle : Handle) (sql : String) (parameters : List Value) :
    Discreet callbacks (database.runStatement handle sql parameters) := by
  refine .atBoundary _ _ <|
    .bind (Gateway.onDriver_discreet (Adapter.execute_alike _ _ fun _ _ => rfl)) fun _ =>
    .bind (Gateway.changeEntry_discreet _ fun entry other same => ?_) fun _ =>
    .bind (Gateway.getBind_discreet (fun _ _ _ => rfl) fun _ => .pure _) fun _ =>
    .bind (Gateway.onDriver_discreet (Adapter.afterExecute_alike _ _ _)) fun _ => .pure _
  rw [same.handle]
  cases entry.handle with
  | none => exact same
  | some current =>
      dsimp only
      split
      · exact ⟨same.params, rfl, same.nestable, same.hooks⟩
      · exact same

/-! ## Hooks -/

theorem registerHook_matched (name : String) {before after otherBefore otherAfter : Option α}
    (sameBefore : Option.Rel callbacks before otherBefore)
    (sameAfter : Option.Rel callbacks after otherAfter) :
    Operation.Matched (SameButPasswords callbacks) (Hook.Same callbacks)
      (database.registerHook name before after)
      (database.registerHook name otherBefore otherAfter) := by
  rintro first _ ⟨driver, entries, rfl, sameDriver, sameEntries⟩
  have sameHook : Hook.Same callbacks ⟨first.hookCount, name, before, after⟩
      ⟨first.hookCount, name, otherBefore, otherAfter⟩ := ⟨rfl, rfl, sameBefore, sameAfter⟩
  have sameEntry := sameEntries.entry database.entry
  exact ⟨.ok sameHook, driver, _, rfl, sameDriver, sameEntries.put database.entry
    ⟨sameEntry.params, sameEntry.handle, sameEntry.nestable,
      List.rel_append sameEntry.hooks (.cons sameHook .nil)⟩⟩

/-- Hooks are known by their ids. -/
theorem hooks_same {hooks others : List (Hook α)}
    (same : List.Forall₂ (Hook.Same callbacks) hooks others) (chosen : Nat → Bool) :
    (others.any fun hook => chosen hook.id) = hooks.any fun hook => chosen hook.id := by
  induction same with
  | nil => rfl
  | cons sameHook _ inductionHypothesis =>
      rw [List.any_cons, List.any_cons, sameHook.id, inductionHypothesis]

theorem unregisterHook_discreet (id : Option Nat) :
    Discreet callbacks (database.unregisterHook id) := by
  refine (entryOf_matched database).bindAlike fun entry other same => ?_
  rw [hooks_same same.hooks fun number => some number == id]
  split
  · refine Gateway.changeEntry_discreet _ fun entry other same => ?_
    refine ⟨same.params, same.handle, same.nestable, List.rel_filter (fun hook other sameHook => ?_)
      same.hooks⟩
    change (some hook.id != id) = true ↔ (some other.id != id) = true
    rw [sameHook.id]
  · exact .throw _

end Services
end Database
end SqlGateway
