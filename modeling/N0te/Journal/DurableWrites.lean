import N0te.Journal.Invariant
import N0te.Journal.Transactions

/-!
# Durable writes

`Store.write` adds the rows of one committed transaction, and `Write.Accepted` is what the database
asks of the texts in them. `Performs` says that a program performs a list of entries: it does all of
them and returns, or it raises at a write the database refuses and has done exactly those before it.
`Performs.bind` composes such programs, and the lemmas after it say which write each primitive of the
coordinator performs: an event of a plan (`commitEvent_performs`), the outcome of the operation
(`recordTerminal_performs`) and the registration of a plan (`registerPlan_performs`).
-/

set_option autoImplicit false
set_option relaxedAutoImplicit false

namespace N0te.Journal

open Library Governance

/-! ### Durable writes -/

/-- The store after a write. -/
def Store.write (s : Store) (w : Write) : Store :=
  { s with
    operationEvents := s.operationEvents ++ w.operationEvents
    transactions := s.transactions ++ w.transactions
    transactionSteps := s.transactionSteps ++ w.transactionSteps
    transactionEvents := s.transactionEvents ++ w.transactionEvents }

/-- The store after some writes. -/
def Store.replay (s : Store) (writes : List Write) : Store := writes.foldl Store.write s

def eventWrite (event : TransactionEvent) : Write :=
  ⟨[], [], [], [{ event with evidenceRef := strip event.evidenceRef }]⟩

def operationWrite (event : OperationEvent) : Write := ⟨[event], [], [], []⟩

def registrationWrite (rt : Runtime) (plan : TransactionPlan) : Write :=
  ⟨[], [plan.row rt], plan.steps.mapIdx plan.stepRow,
    [{ registrationEvent rt plan with
        evidenceRef := strip (registrationEvent rt plan).evidenceRef }]⟩

/-- The constraints on the texts of a step row. -/
def TransactionStepRow.Storable (row : TransactionStepRow) : Prop :=
  sqlNonblank row.stepId ∧ sqlNonblank row.description ∧ sqlNonblank row.postconditionRef

instance (row : TransactionStepRow) : Decidable row.Storable :=
  inferInstanceAs (Decidable (_ ∧ _ ∧ _))

/-- The constraints on the texts of a write. -/
def Write.Accepted (w : Write) : Prop :=
  (∀ row ∈ w.transactions, sqlNonblank row.planFingerprint) ∧
  (∀ row ∈ w.transactionSteps, row.Storable) ∧
  ∀ event ∈ w.transactionEvents, sqlNonblank event.evidenceRef

instance (w : Write) : Decidable w.Accepted := inferInstanceAs (Decidable (_ ∧ _ ∧ _))

theorem accepted_eventWrite {event : TransactionEvent} :
    (eventWrite event).Accepted ↔ sqlNonblank (strip event.evidenceRef) := by
  simp [Write.Accepted, eventWrite]

theorem accepted_operationWrite (event : OperationEvent) : (operationWrite event).Accepted := by
  simp [Write.Accepted, operationWrite]

/-- The writes among the entries of a trace. -/
def writesOf (entries : List Entry) : List Write :=
  entries.filterMap fun
    | .call _ => none
    | .wrote w => some w

@[simp] theorem writesOf_nil : writesOf [] = [] := rfl

@[simp] theorem writesOf_call (c : DriverCall) (entries : List Entry) :
    writesOf (.call c :: entries) = writesOf entries := rfl

@[simp] theorem writesOf_wrote (w : Write) (entries : List Entry) :
    writesOf (.wrote w :: entries) = w :: writesOf entries := rfl

@[simp] theorem writesOf_append (entries more : List Entry) :
    writesOf (entries ++ more) = writesOf entries ++ writesOf more := List.filterMap_append ..

/-- A run after some more entries. -/
def Run.perform (r : Run) (entries : List Entry) : Run :=
  ⟨r.store.replay (writesOf entries), r.trace ++ entries⟩

@[simp] theorem perform_nil (r : Run) : r.perform [] = r := by
  simp [Run.perform, Store.replay]

theorem perform_append (r : Run) (entries more : List Entry) :
    r.perform (entries ++ more) = (r.perform entries).perform more := by
  simp [Run.perform, Store.replay, List.append_assoc]

@[simp] theorem store_perform_call (r : Run) (c : DriverCall) :
    (r.perform [.call c]).store = r.store := rfl

@[simp] theorem store_perform_wrote (r : Run) (w : Write) :
    (r.perform [.wrote w]).store = r.store.write w := rfl

/-! ### Performing entries -/

/-- A program performs all the entries and returns, or stops before the first write the database
refuses and raises. -/
def Performs {α : Type} (r : Run) (p : RunProgram α) (entries : List Entry) (Q : α → Prop) : Prop :=
  (∃ a, exec p r = (.ok a, r.perform entries) ∧ Q a ∧ ∀ w ∈ writesOf entries, w.Accepted) ∨
  ∃ e done w rest, exec p r = (.error e, r.perform done) ∧ entries = done ++ .wrote w :: rest ∧
    ¬ w.Accepted

namespace Performs

variable {α β : Type} {r : Run} {p : RunProgram α} {entries more : List Entry} {Q : α → Prop}
  {R : β → Prop}

theorem of_eq_ok {a : α} (hrun : exec p r = (.ok a, r.perform entries)) (hq : Q a)
    (haccepted : ∀ w ∈ writesOf entries, w.Accepted) : Performs r p entries Q :=
  .inl ⟨a, hrun, hq, haccepted⟩

theorem pure {a : α} (hq : Q a) : Performs r (Pure.pure a : RunProgram α) [] Q :=
  of_eq_ok (by simp) hq (by simp)

/-- Programs in sequence perform their entries in sequence. -/
theorem bind {k : α → RunProgram β} (hp : Performs r p entries Q)
    (hk : ∀ a, Q a → Performs (r.perform entries) (k a) more R) :
    Performs r (p >>= k) (entries ++ more) R := by
  rcases hp with ⟨a, hrun, hq, haccepted⟩ | ⟨e, done, w, rest, hrun, rfl, hrefused⟩
  · rcases hk a hq with ⟨b, hrest, hr, hmore⟩ | ⟨e, done, w, rest, hrest, rfl, hrefused⟩
    · refine .inl ⟨b, ?_, hr, ?_⟩
      · rw [exec_bind_of_ok hrun, hrest, perform_append]
      · rw [writesOf_append, List.forall_mem_append]
        exact ⟨haccepted, hmore⟩
    · refine .inr ⟨e, entries ++ done, w, rest, ?_, by rw [List.append_assoc], hrefused⟩
      rw [exec_bind_of_ok hrun, hrest, perform_append]
  · refine .inr ⟨e, done, w, rest ++ more, ?_, ?_, hrefused⟩
    · rw [exec_bind_of_error hrun]
    · rw [List.append_assoc, List.cons_append]

/-- A program that performs one entry, and another that performs the rest. -/
theorem step {k : α → RunProgram β} {entry : Entry} (hp : Performs r p [entry] Q)
    (hk : ∀ a, Q a → Performs (r.perform [entry]) (k a) more R) :
    Performs r (p >>= k) (entry :: more) R := hp.bind hk

/-- What is returned may be weakened. -/
theorem mono {Q' : α → Prop} (hp : Performs r p entries Q) (h : ∀ a, Q a → Q' a) :
    Performs r p entries Q' := by
  rcases hp with ⟨a, hrun, hq, haccepted⟩ | hrefused
  · exact .inl ⟨a, hrun, h a hq, haccepted⟩
  · exact .inr hrefused

/-- A program performs the entries all of whose writes are accepted. -/
theorem returns (hp : Performs r p entries Q) (haccepted : ∀ w ∈ writesOf entries, w.Accepted) :
    ∃ a, exec p r = (.ok a, r.perform entries) ∧ Q a := by
  rcases hp with ⟨a, hrun, hq, -⟩ | ⟨e, done, w, rest, hrun, rfl, hrefused⟩
  · exact ⟨a, hrun, hq⟩
  · exact absurd (haccepted w (by simp)) hrefused

end Performs

theorem called_performs (r : Run) (c : DriverCall) :
    Performs r (called c) [.call c] fun _ ↦ True :=
  .of_eq_ok rfl trivial (by simp)

/-! ### Writing durably -/

theorem added_write (s : Store) (w : Write) : s.added (s.write w) = w := by
  simp [Store.added, Store.write]

/-- A program that leaves the store is not a durable write. -/
theorem exec_durably_unchanged {α : Type} {p : StoreProgram α} {r : Run} {outcome : Checked α}
    (h : exec p r.store = (outcome, r.store)) : exec (durably p) r = (outcome, r) := by
  change ((exec p r.store).1, Run.mk (exec p r.store).2 _) = _
  rw [h]
  simp

/-- A program that adds rows to the store is a durable write of them. -/
theorem exec_durably_write {α : Type} {p : StoreProgram α} {r : Run} {outcome : Checked α}
    {w : Write} (h : exec p r.store = (outcome, r.store.write w)) (hne : r.store.write w ≠ r.store) :
    exec (durably p) r = (outcome, r.perform [.wrote w]) := by
  change ((exec p r.store).1, Run.mk (exec p r.store).2 _) = _
  rw [h]
  simp only [added_write, if_neg hne]
  rfl

theorem write_eventWrite_ne (s : Store) (event : TransactionEvent) :
    s.write (eventWrite event) ≠ s := by
  intro h
  have hlength := congrArg (fun t : Store ↦ t.transactionEvents.length) h
  simp [Store.write, eventWrite] at hlength

theorem write_operationWrite_ne (s : Store) (event : OperationEvent) :
    s.write (operationWrite event) ≠ s := by
  intro h
  have hlength := congrArg (fun t : Store ↦ t.operationEvents.length) h
  simp [Store.write, operationWrite] at hlength

/-- What a registered plan of an executing operation looks like in the store. -/
structure Underway (plan : TransactionPlan) (s : Store) : Prop where
  transaction : ∃ row ∈ s.transactions, row.id = plan.transactionId.val
  steps : ∀ step ∈ plan.steps, ∃ row ∈ s.transactionSteps,
    row.transactionId = plan.transactionId.val ∧ row.stepId = step.stepId.val
  executing : ∃ op, getOperation s plan.operationId.val = .ok op ∧ op.recordedState = .executing

/-- An event of a plan: it names the transaction, and no other step than those of the plan. -/
structure EventOf (plan : TransactionPlan) (event : TransactionEvent) : Prop where
  transaction : event.transactionId = plan.transactionId.val
  step : ∀ stepId ∈ event.stepId, ∃ step ∈ plan.steps, step.stepId.val = stepId

theorem exec_require_bind {σ β : Type} (condition : Prop) [Decidable condition]
    (e : Raised ErrorClass) (k : Unit → Raising σ (Raised ErrorClass) β) (s : σ) :
    exec (fromExcept (require condition e) >>= k) s =
      if condition then exec (k ()) s else (.error e, s) := by
  unfold require
  split_ifs
  · exact exec_fromExcept_ok () k s
  · exact exec_fromExcept_error e k s

/-- An event of a registered plan is inserted unless its evidence is blank. -/
theorem exec_appendEvent {plan : TransactionPlan} {s : Store} {event : TransactionEvent}
    (hs : Underway plan s) (hevent : EventOf plan event) :
    exec (appendEvent event) s = (.ok ⟨⟩, s.write (eventWrite event)) ∧
        (eventWrite event).Accepted ∨
      ∃ e t, exec (appendEvent event) s = (.error e, t) ∧ ¬ (eventWrite event).Accepted := by
  have hreferences : (∃ row ∈ s.transactions, row.id = event.transactionId) ∧
      ∀ stepId ∈ event.stepId, ∃ row ∈ s.transactionSteps,
        row.transactionId = event.transactionId ∧ row.stepId = stepId := by
    rw [hevent.transaction]
    refine ⟨hs.transaction, fun stepId hstep ↦ ?_⟩
    obtain ⟨step, hmem, rfl⟩ := hevent.step stepId hstep
    exact hs.steps step hmem
  rw [accepted_eventWrite, appendEvent, transactionText]
  rcases htext : Text.ofString event.evidenceRef with _ | evidence
  · refine .inr ⟨_, _, exec_fromExcept_error .., fun hblank ↦ ?_⟩
    unfold Text.ofString at htext
    split_ifs at htext with hempty
    exact ne_empty_of_sqlNonblank hblank hempty
  · have hval := (Text.ofString_eq_some.mp htext).1
    simp only [orRaise]
    rw [exec_fromExcept_ok, exec_get_bind, exec_require_bind, exec_require_bind, if_pos hreferences,
      hval]
    split_ifs with hnonblank
    · refine .inl ⟨?_, hnonblank⟩
      rw [exec_set]
      simp [Store.write, eventWrite, hval]
    · exact .inr ⟨_, _, rfl, hnonblank⟩

theorem commitEvent_performs {plan : TransactionPlan} {r : Run} {event : TransactionEvent}
    (hr : Underway plan r.store) (hevent : EventOf plan event) :
    Performs r (commitEvent event) [.wrote (eventWrite event)]
      fun _ ↦ sqlNonblank (strip event.evidenceRef) := by
  rcases exec_appendEvent hr hevent with ⟨hrun, haccepted⟩ | ⟨e, t, hrun, hrefused⟩
  · refine .of_eq_ok (a := ⟨⟩) ?_ (accepted_eventWrite.mp haccepted) (by simpa using haccepted)
    apply exec_durably_write _ (write_eventWrite_ne _ _)
    rw [exec_atomic, hrun]
  · refine .inr ⟨e, [], eventWrite event, [], ?_, rfl, hrefused⟩
    rw [perform_nil]
    apply exec_durably_unchanged
    rw [exec_atomic, hrun]

/-! ### Staying underway -/

/-- An operation is read from the operation tables alone. -/
theorem getOperation_congr {s t : Store} (hoperations : t.operations = s.operations)
    (hevents : t.operationEvents = s.operationEvents) : getOperation t = getOperation s := by
  funext operationId
  simp only [getOperation, operationRecord, Store.findOperation, Store.operationEventsOf,
    hoperations, hevents]

theorem getOperation_write_event (s : Store) (event : TransactionEvent) :
    getOperation (s.write (eventWrite event)) = getOperation s :=
  getOperation_congr rfl (by simp [Store.write, eventWrite])

/-- An event changes nothing about the registration or the operation. -/
theorem Underway.write_event {plan : TransactionPlan} {s : Store} (h : Underway plan s)
    (event : TransactionEvent) : Underway plan (s.write (eventWrite event)) where
  transaction := by simpa [Store.write, eventWrite] using h.transaction
  steps := by simpa [Store.write, eventWrite] using h.steps
  executing := by
    rw [getOperation_write_event]
    exact h.executing

/-- A call changes nothing in the store. -/
theorem Underway.call {plan : TransactionPlan} {r : Run} (h : Underway plan r.store)
    (c : DriverCall) : Underway plan (r.perform [.call c]).store := h

/-! ### Ending the operation -/

/-- The operation after an outcome was added to its events. -/
theorem getOperation_write_outcome {s : Store} {operationId : String} {outcome : Outcome}
    {event : OperationEvent} {op : OperationRecord} (hop : getOperation s operationId = .ok op)
    (hstate : op.recordedState = .executing) (hid : event.operationId = operationId)
    (htype : event.eventType = outcome.eventType) :
    ∃ ended, getOperation (s.write (operationWrite event)) operationId = .ok ended ∧
      ended.recordedState = outcome.state ∧ ended.reconciled = false := by
  simp only [getOperation, operationRecord, bind_eq_ok, orRaise_eq_ok, pure_eq_ok] at hop
  obtain ⟨row, hfind, d, hderive, rfl⟩ := hop
  have hrow := (findOperation_spec hfind).2
  have hevents : (s.write (operationWrite event)).operationEventsOf row.id =
      s.operationEventsOf row.id ++ [event] := by
    simp [Store.operationEventsOf, Store.write, operationWrite, hid, hrow]
  have hended : derive ((s.write (operationWrite event)).operationEventsOf row.id) =
      .ok ⟨outcome.state, some outcome.effective, 1, false⟩ := by
    have hlegal := derive_eq_ok.mp hderive
    rw [hevents, derive_eq_ok, List.map_append]
    generalize (s.operationEventsOf row.id).map OperationEvent.eventType = kinds at hlegal
    change d.state = .executing at hstate
    simp only [List.map_cons, List.map_nil, htype]
    cases hlegal with
    | claimed => exact .ended outcome
    | ended earlier => cases earlier <;> cases hstate
    | _ => cases hstate
  exact ⟨_, bind_eq_ok.mpr ⟨row, orRaise_eq_ok.mpr hfind, bind_eq_ok.mpr ⟨_, hended, rfl⟩⟩, rfl, rfl⟩

/-- Recording the outcome of an executing operation. -/
theorem exec_recordTerminal {s : Store} {operationId : String} {outcome : Outcome}
    {refs : OutcomeRefs} {event : OperationEvent} {op : OperationRecord}
    (hop : getOperation s operationId = .ok op) (hstate : op.recordedState = .executing)
    (hevent : ∀ e, outcomeEvent operationId outcome.eventType refs e = .ok event) :
    ∃ ended, exec (recordTerminal operationId outcome refs) s =
        (.ok ended, s.write (operationWrite event)) ∧
      getOperation (s.write (operationWrite event)) operationId = .ok ended ∧
      ended.recordedState = outcome.state ∧ ended.reconciled = false := by
  obtain ⟨hid, htype, -⟩ := outcomeEvent_spec (hevent (operationError ""))
  have hread : ∃ ended, getOperation (s.write (operationWrite event)) operationId = .ok ended ∧
      ended.recordedState = outcome.state ∧ ended.reconciled = false :=
    getOperation_write_outcome hop hstate hid htype
  obtain ⟨ended, hended, hrecorded, hreconciled⟩ := hread
  refine ⟨ended, ?_, hended, hrecorded, hreconciled⟩
  have howner : ∃ row ∈ s.operations, row.id = event.operationId := by
    obtain ⟨hmem, hopid, -⟩ := getOperation_spec hop
    exact ⟨_, hmem, hopid.trans hid.symm⟩
  have happend : exec (appendOperationEvent event) s =
      (.ok ⟨⟩, s.write (operationWrite event)) := by
    rw [exec_appendOperationEvent, if_pos howner]
    simp [Store.addOperationEvent, Store.write, operationWrite]
  have hread : exec (reading fun t ↦ getOperation t operationId) s = (.ok op, s) := by
    rw [exec_reading, hop]
  rw [recordTerminal, hevent, exec_fromExcept_ok]
  refine (exec_bind_of_ok (a := ⟨⟩) (t := s.write (operationWrite event)) ?_).trans ?_
  · rw [exec_atomic, exec_bind_of_ok hread, exec_require_bind, if_pos hstate, happend]
  · rw [exec_reading, hended]

/-- The operation has ended as its last event says. -/
def EndedAs (plan : TransactionPlan) (outcome : Outcome) (s : Store) (op : OperationRecord) : Prop :=
  getOperation s plan.operationId.val = .ok op ∧ op.recordedState = outcome.state ∧
    op.reconciled = false

theorem recordTerminal_performs {plan : TransactionPlan} {r : Run} {outcome : Outcome}
    {refs : OutcomeRefs} {event : OperationEvent} (hr : Underway plan r.store)
    (hevent : ∀ e, outcomeEvent plan.operationId.val outcome.eventType refs e = .ok event) :
    Performs r (durably (recordTerminal plan.operationId.val outcome refs))
      [.wrote (operationWrite event)]
      (EndedAs plan outcome (r.store.write (operationWrite event))) := by
  obtain ⟨op, hop, hstate⟩ := hr.executing
  obtain ⟨ended, hrun, hended⟩ := exec_recordTerminal hop hstate hevent
  refine .of_eq_ok (exec_durably_write hrun (write_operationWrite_ne _ _)) hended ?_
  simpa using accepted_operationWrite event

/-! ### Registering a plan -/

/-- What the database keeps true of the transaction tables. -/
structure Referential (s : Store) : Prop where
  /-- Transaction ids are unique. -/
  ids : (s.transactions.map TransactionRow.id).Nodup
  /-- A step row belongs to a transaction. -/
  steps : ∀ row ∈ s.transactionSteps, ∃ owner ∈ s.transactions, owner.id = row.transactionId
  /-- An event row belongs to a transaction. -/
  events : ∀ row ∈ s.transactionEvents, ∃ owner ∈ s.transactions, owner.id = row.transactionId

/-- The texts of a step pass the constraints of its row. -/
def StorableStep (step : TransactionStep) : Prop :=
  sqlNonblank step.stepId.val ∧ sqlNonblank step.description.val ∧
    sqlNonblank step.postconditionRef.val

/-- A store with more step rows. -/
def Store.addSteps (s : Store) (rows : List TransactionStepRow) : Store :=
  { s with transactionSteps := s.transactionSteps ++ rows }

theorem mapIdx_stepRow_cons (plan : TransactionPlan) (n : ℕ) (step : TransactionStep)
    (rest : List TransactionStep) :
    (step :: rest).mapIdx (fun i ↦ plan.stepRow (n + i)) =
      plan.stepRow n step :: rest.mapIdx fun i ↦ plan.stepRow (n + 1 + i) := by
  simp [List.mapIdx_cons, Nat.add_assoc, Nat.add_comm 1]

theorem exec_insertStep {s : Store} {row : TransactionStepRow}
    (hunique : ∀ other ∈ s.transactionSteps, other.transactionId = row.transactionId →
      other.ordinal ≠ row.ordinal ∧ other.stepId ≠ row.stepId)
    (htransaction : ∃ transaction ∈ s.transactions, transaction.id = row.transactionId) :
    exec (insertStep row) s = (.ok ⟨⟩, s.addSteps [row]) ∧ row.Storable ∨
      ∃ e, exec (insertStep row) s = (.error e, s) ∧ ¬ row.Storable := by
  rw [insertStep, exec_get_bind, exec_require_bind]
  by_cases hstorable : row.Storable
  · refine .inl ⟨(if_pos hstorable).trans ?_, hstorable⟩
    rw [exec_require_bind, if_pos hunique, exec_require_bind, if_pos htransaction]
    rfl
  · exact .inr ⟨_, if_neg hstorable, hstorable⟩

/-- The rows of the steps of a plan are inserted unless a text of one is blank. -/
theorem exec_insertSteps {plan : TransactionPlan} {s : Store} {n : ℕ}
    {steps : List TransactionStep}
    (htransaction : ∃ row ∈ s.transactions, row.id = plan.transactionId.val)
    (hbefore : ∀ row ∈ s.transactionSteps, row.transactionId = plan.transactionId.val →
      row.ordinal < n ∧ row.stepId ∉ steps.map fun step ↦ step.stepId.val)
    (hids : (steps.map fun step ↦ step.stepId.val).Nodup) :
    exec (insertSteps plan n steps) s =
        (.ok ⟨⟩, s.addSteps (steps.mapIdx fun i ↦ plan.stepRow (n + i))) ∧
        (∀ step ∈ steps, StorableStep step) ∨
      ∃ e t, exec (insertSteps plan n steps) s = (.error e, t) ∧
        ∃ step ∈ steps, ¬ StorableStep step := by
  induction steps generalizing n s with
  | nil =>
    refine .inl ⟨?_, by simp⟩
    simp [insertSteps, Store.addSteps]
  | cons step rest ih =>
    have hunique : ∀ other ∈ s.transactionSteps,
        other.transactionId = (plan.stepRow n step).transactionId →
        other.ordinal ≠ (plan.stepRow n step).ordinal ∧
          other.stepId ≠ (plan.stepRow n step).stepId := by
      intro other hother hid
      obtain ⟨hless, hnew⟩ := hbefore other hother hid
      exact ⟨hless.ne, fun heq ↦ hnew (by simp [heq, TransactionPlan.stepRow])⟩
    rw [insertSteps]
    rcases exec_insertStep hunique htransaction with ⟨hinsert, hstorable⟩ | ⟨e, hinsert, hblank⟩
    · rw [exec_bind_of_ok hinsert]
      have hnext : ∀ row ∈ (s.addSteps [plan.stepRow n step]).transactionSteps,
          row.transactionId = plan.transactionId.val →
          row.ordinal < n + 1 ∧ row.stepId ∉ rest.map fun step ↦ step.stepId.val := by
        intro row hrow hid
        rcases List.mem_append.mp hrow with hold | hnew
        · obtain ⟨hless, hother⟩ := hbefore row hold hid
          exact ⟨by omega, fun hmem ↦ hother (List.mem_cons_of_mem _ hmem)⟩
        · rw [List.mem_singleton.mp hnew]
          exact ⟨Nat.lt_succ_self n, (List.nodup_cons.mp hids).1⟩
      rcases ih (s := s.addSteps [plan.stepRow n step]) htransaction hnext
        (List.nodup_cons.mp hids).2 with ⟨hrun, hrest⟩ | ⟨e, t, hrun, bad, hbad, hblank⟩
      · refine .inl ⟨?_, List.forall_mem_cons.mpr ⟨hstorable, hrest⟩⟩
        rw [hrun, mapIdx_stepRow_cons]
        simp [Store.addSteps]
      · exact .inr ⟨e, t, hrun, bad, List.mem_cons_of_mem _ hbad, hblank⟩
    · exact .inr ⟨e, s, exec_bind_of_error hinsert, step, List.mem_cons_self, hblank⟩

/-- The texts of a plan pass the constraints of its rows. -/
def StorablePlan (plan : TransactionPlan) : Prop := ∀ step ∈ plan.steps, StorableStep step

/-- The operation is executing and the plan is new to the store. -/
structure Ready (plan : TransactionPlan) (s : Store) : Prop where
  executing : ∃ op, getOperation s plan.operationId.val = .ok op ∧ op.recordedState = .executing
  /-- Neither the transaction nor its operation is registered. -/
  unregistered : ¬ s.Registered plan

/-- A store with one more transaction row. -/
def Store.addTransaction (s : Store) (row : TransactionRow) : Store :=
  { s with transactions := s.transactions ++ [row] }

/-- The rows of a plan make it underway. -/
theorem underway_register {plan : TransactionPlan} {s : Store} (rt : Runtime)
    (hexecuting : ∃ op, getOperation s plan.operationId.val = .ok op ∧
      op.recordedState = .executing) :
    Underway plan ((s.addTransaction (plan.row rt)).addSteps
      (plan.steps.mapIdx fun i ↦ plan.stepRow (0 + i))) where
  transaction := ⟨plan.row rt, by simp [Store.addTransaction, Store.addSteps], rfl⟩
  steps step hstep := by
    obtain ⟨i, hi, rfl⟩ := List.mem_iff_getElem.mp hstep
    refine ⟨plan.stepRow (0 + i) plan.steps[i], List.mem_append_right _ ?_, rfl, rfl⟩
    exact List.mem_mapIdx.mpr ⟨i, hi, rfl⟩
  executing := by
    have hsame : getOperation ((s.addTransaction (plan.row rt)).addSteps
        (plan.steps.mapIdx fun i ↦ plan.stepRow (0 + i))) = getOperation s :=
      getOperation_congr rfl rfl
    rw [hsame]
    exact hexecuting

theorem exec_insertTransaction {s : Store} {row : TransactionRow}
    (hunique : ∀ other ∈ s.transactions, other.id ≠ row.id ∧ other.operationId ≠ row.operationId)
    (hfingerprint : sqlNonblank row.planFingerprint)
    (hoperation : ∃ operation ∈ s.operations, operation.id = row.operationId) :
    exec (insertTransaction row) s = (.ok ⟨⟩, s.addTransaction row) := by
  rw [insertTransaction, exec_get_bind, exec_require_bind, if_pos hunique, exec_require_bind,
    if_pos hfingerprint, exec_require_bind, if_pos hoperation]
  rfl

/-- A new plan is registered unless a text of a step is blank.
Assumes: the hash writes no blank text. -/
theorem exec_registerPlan {rt : Runtime} {plan : TransactionPlan} {s : Store}
    (hsha : ∀ text, sqlNonblank (rt.sha256 text)) (hs : Referential s) (hready : Ready plan s) :
    exec (registerPlan rt plan) s = (.ok ⟨⟩, s.write (registrationWrite rt plan)) ∧
        StorablePlan plan ∨
      ∃ e, exec (registerPlan rt plan) s = (.error e, s) ∧ ¬ StorablePlan plan := by
  have hnew : ∀ row ∈ s.transactions, row.id ≠ plan.transactionId.val ∧
      row.operationId ≠ plan.operationId.val := by
    intro row hrow
    constructor <;> intro heq <;> exact hready.unregistered ⟨row, hrow, by simp [heq]⟩
  have hoperation : ∃ operation ∈ s.operations, operation.id = plan.operationId.val := by
    obtain ⟨op, hop, -⟩ := hready.executing
    obtain ⟨hmem, hid, -⟩ := getOperation_spec hop
    exact ⟨_, hmem, hid⟩
  have hinsert : exec (insertTransaction (plan.row rt)) s =
      (.ok ⟨⟩, s.addTransaction (plan.row rt)) :=
    exec_insertTransaction hnew (hsha _) hoperation
  have hids : (plan.steps.map fun step ↦ step.stepId.val).Nodup := by
    have hnodup := plan.stepIds.map (f := Text.val) fun _ _ ↦ Text.ext
    rwa [List.map_map] at hnodup
  have hnorows : ∀ row ∈ (s.addTransaction (plan.row rt)).transactionSteps,
      row.transactionId = plan.transactionId.val →
      row.ordinal < 0 ∧ row.stepId ∉ plan.steps.map fun step ↦ step.stepId.val := by
    intro row hrow hid
    obtain ⟨owner, howner, hownerId⟩ := hs.steps row hrow
    exact absurd (hownerId.trans hid) (hnew owner howner).1
  rw [registerPlan, exec_get_bind, exec_require_bind, if_pos hready.unregistered, exec_atomic,
    exec_bind_of_ok hinsert]
  have htransaction : ∃ row ∈ (s.addTransaction (plan.row rt)).transactions,
      row.id = plan.transactionId.val := ⟨plan.row rt, by simp [Store.addTransaction], rfl⟩
  rcases exec_insertSteps htransaction hnorows hids with
    ⟨hsteps, hstorable⟩ | ⟨e, t, hsteps, step, hstep, hblank⟩
  · have hunderway := underway_register rt hready.executing
    have hevent : EventOf plan (registrationEvent rt plan) := ⟨rfl, fun _ h ↦ nomatch h⟩
    have haccepted : (eventWrite (registrationEvent rt plan)).Accepted :=
      accepted_eventWrite.mpr (plan.sqlNonblank_ref _)
    rw [exec_bind_of_ok hsteps]
    rcases exec_appendEvent hunderway hevent with ⟨hrun, -⟩ | ⟨e, t, -, hrefused⟩
    · refine .inl ⟨?_, hstorable⟩
      rw [hrun]
      simp [Store.addTransaction, Store.addSteps, Store.write, eventWrite, registrationWrite]
    · exact absurd haccepted hrefused
  · refine .inr ⟨e, ?_, fun h ↦ hblank (h step hstep)⟩
    rw [exec_bind_of_error hsteps]

theorem accepted_registrationWrite {rt : Runtime} {plan : TransactionPlan}
    (hsha : ∀ text, sqlNonblank (rt.sha256 text)) :
    (registrationWrite rt plan).Accepted ↔ StorablePlan plan := by
  have hrows : (∀ row ∈ plan.steps.mapIdx plan.stepRow, row.Storable) ↔ StorablePlan plan := by
    constructor
    · intro h step hstep
      obtain ⟨i, hi, rfl⟩ := List.mem_iff_getElem.mp hstep
      exact h (plan.stepRow i plan.steps[i]) (List.mem_mapIdx.mpr ⟨i, hi, rfl⟩)
    · intro h row hrow
      obtain ⟨i, hi, rfl⟩ := List.mem_mapIdx.mp hrow
      exact h _ (List.getElem_mem hi)
  have hfingerprint : ∀ row ∈ [plan.row rt], sqlNonblank row.planFingerprint :=
    fun row hrow ↦ List.mem_singleton.mp hrow ▸ hsha _
  have hevidence : sqlNonblank (strip (registrationEvent rt plan).evidenceRef) :=
    plan.sqlNonblank_ref _
  simp only [Write.Accepted, registrationWrite, List.mem_singleton, forall_eq, hrows, hevidence,
    and_true]
  exact and_iff_right (hsha _)

theorem write_registrationWrite_ne (s : Store) (rt : Runtime) (plan : TransactionPlan) :
    s.write (registrationWrite rt plan) ≠ s := by
  intro h
  have hlength := congrArg (fun t : Store ↦ t.transactions.length) h
  simp [Store.write, registrationWrite] at hlength

/-- Registering a new plan makes it underway. -/
theorem registerPlan_performs {rt : Runtime} {plan : TransactionPlan} {r : Run}
    (hsha : ∀ text, sqlNonblank (rt.sha256 text)) (hr : Referential r.store)
    (hready : Ready plan r.store) :
    Performs r (durably (registerPlan rt plan)) [.wrote (registrationWrite rt plan)]
      fun _ ↦ Underway plan (r.store.write (registrationWrite rt plan)) := by
  rcases exec_registerPlan hsha hr hready with ⟨hrun, hstorable⟩ | ⟨e, hrun, hblank⟩
  · refine .of_eq_ok (a := ⟨⟩) (exec_durably_write hrun (write_registrationWrite_ne _ _ _)) ?_ ?_
    · have hunderway := (underway_register rt hready.executing).write_event
        (registrationEvent rt plan)
      simpa [Store.addTransaction, Store.addSteps, Store.write, eventWrite, registrationWrite]
        using hunderway
    · simpa using (accepted_registrationWrite hsha).mpr hstorable
  · refine .inr ⟨e, [], _, [], ?_, rfl, fun h ↦ hblank ((accepted_registrationWrite hsha).mp h)⟩
    rw [perform_nil]
    exact exec_durably_unchanged hrun

end N0te.Journal
