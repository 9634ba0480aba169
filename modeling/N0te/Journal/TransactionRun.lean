import N0te.Journal.StoryRows

/-!
# What a run guarantees

`Sound` is the contract of a run: its result is complete exactly when every step succeeded and the
receipt is valid, compensated only when everything that was applied was restored, and anything
unknown or not restored requires recovery; the operation leaves its executing state with one outcome;
steps are executed in plan order, none after one that did not succeed, and undone in reverse.

`Storable` says that no text of the plan or of the driver's reports is blank to the database. The
checks of the code and those of the database differ on this, and a run is sound exactly when the
texts it meets are storable.
-/

set_option autoImplicit false
set_option relaxedAutoImplicit false

namespace N0te.Journal

open Library Governance

/-! ### What is recorded of a step -/

section

variable (plan : TransactionPlan) (s : Store) (step : TransactionStep)

/-- An event of a step with a status is in the history. -/
def RecordedAs (eventType : TransactionEventType) (status : String) : Prop :=
  ∃ event ∈ s.transactionEventsOf plan.transactionId.val,
    event.stepId = some step.stepId.val ∧ event.eventType = eventType ∧ event.status = some status

/-- A recorded execution of a step has a change state. -/
def RecordedChange (change : ChangeState) : Prop :=
  ∃ event ∈ s.transactionEventsOf plan.transactionId.val,
    event.stepId = some step.stepId.val ∧ event.eventType = .stepExecutionRecorded ∧
      event.changeState = some change.name

/-- The step was recorded as succeeded and its postcondition as satisfied. -/
def StepSucceeded : Prop :=
  RecordedAs plan s step .stepExecutionRecorded "SUCCEEDED" ∧
    RecordedAs plan s step .postconditionRecorded "SATISFIED"

/-- Something that was recorded of the step is unknown. -/
def StepUnknown : Prop :=
  RecordedAs plan s step .stepExecutionRecorded "UNKNOWN" ∨ RecordedChange plan s step .unknown ∨
    RecordedAs plan s step .postconditionRecorded "UNKNOWN"

/-- A compensation of the step was recorded that did not restore it. -/
def NotRestored : Prop :=
  RecordedAs plan s step .compensationRecorded "FAILED" ∨
    RecordedAs plan s step .compensationRecorded "UNKNOWN"

end

/-- The driver gave a snapshot and a receipt that belong to the transaction. -/
def ReceiptValid (plan : TransactionPlan) (driver : Driver) : Prop :=
  ∃ snapshot receipt, plan.snapshotOf driver = .ok snapshot ∧
    plan.receiptOf driver snapshot = .ok receipt

/-! ### The contract -/

/-- What the result of a run says about it. -/
structure SoundResult (plan : TransactionPlan) (driver : Driver) (before : Store)
    (result : TransactionResult) (after : Run) : Prop where
  /-- Complete means that every step succeeded and the receipt is valid. -/
  complete : result.status = .complete ↔
    (∀ step ∈ plan.steps, StepSucceeded plan after.store step) ∧ ReceiptValid plan driver
  /-- Compensated means that whatever was applied was restored. -/
  compensated : result.status = .compensated → ∀ step ∈ plan.steps,
    RecordedChange plan after.store step .applied →
      RecordedAs plan after.store step .compensationRecorded "RESTORED"
  /-- Steps are undone in reverse order, each at most once. -/
  reversed : (undoneSteps after.trace).Sublist plan.steps.reverse
  /-- What is unknown or not restored requires recovery, and the operation is unknown. -/
  recovery : (∃ step ∈ plan.steps, StepUnknown plan after.store step ∨
      (result.status ≠ .complete ∧ RecordedChange plan after.store step .applied ∧
        step.compensatable = false) ∨ NotRestored plan after.store step) →
    result.status = .recoveryRequired ∧ result.operation.recordedState = .unknown
  /-- The operation gets one more event, an outcome. -/
  ended : ∃ event, after.store.operationEventsOf plan.operationId.val =
      before.operationEventsOf plan.operationId.val ++ [event] ∧ event.eventType.isOutcome
  /-- The operation is no longer executing: it ended as the status says. -/
  operation : getOperation after.store plan.operationId.val = .ok result.operation ∧
    result.operation.recordedState = result.status.outcome.state
  /-- Steps are executed in plan order, each at most once. -/
  ordered : executedSteps after.trace <+: plan.steps
  /-- Only the last step executed may not have succeeded. -/
  stops : ∀ done step next rest, executedSteps after.trace = done ++ step :: next :: rest →
    StepSucceeded plan after.store step

/-- The contract of a run: it returns, and its result is right. -/
def Sound (plan : TransactionPlan) (driver : Driver) (before : Store)
    (outcome : Checked TransactionResult × Run) : Prop :=
  ∃ result, outcome.1 = .ok result ∧ SoundResult plan driver before result outcome.2

/-- No text that the run hands to the database is blank to it: the texts of the plan, and, once a
snapshot is captured, its evidence, that of the reports on the steps that are attempted, and that of
the reports on the steps that are undone. -/
def Storable (plan : TransactionPlan) (driver : Driver) : Prop :=
  StorablePlan plan ∧ ∀ snapshot, Captured plan driver snapshot →
    sqlNonblank snapshot.evidenceRef.val ∧
    (∀ a ∈ plan.attempts driver plan.steps, sqlNonblank a.execution.evidenceRef.val ∧
      ∀ post ∈ a.verification, sqlNonblank post.evidenceRef.val) ∧
    (Undoing plan driver snapshot (plan.attempts driver plan.steps) →
      ∀ step ∈ appliedSteps (plan.attempts driver plan.steps), step.compensatable →
        sqlNonblank (plan.compensationOf driver snapshot step).evidenceRef.val)

section

variable {plan : TransactionPlan} {driver : Driver} {snapshot : TransactionSnapshot}

/-! ### What the database accepts -/

/-- The database accepts every write among some entries. -/
def AllAccepted (entries : List Entry) : Prop := ∀ w ∈ writesOf entries, w.Accepted

@[simp] theorem allAccepted_nil : AllAccepted [] := by simp [AllAccepted]

@[simp] theorem allAccepted_call (c : DriverCall) (entries : List Entry) :
    AllAccepted (.call c :: entries) ↔ AllAccepted entries := Iff.rfl

@[simp] theorem allAccepted_event (e : TransactionEvent) (entries : List Entry) :
    AllAccepted (.event e :: entries) ↔
      sqlNonblank (strip e.evidenceRef) ∧ AllAccepted entries := by
  simp [AllAccepted, Entry.event, accepted_eventWrite]

@[simp] theorem allAccepted_operation (e : OperationEvent) (entries : List Entry) :
    AllAccepted (.operation e :: entries) ↔ AllAccepted entries := by
  simp [AllAccepted, Entry.operation, accepted_operationWrite]

@[simp] theorem allAccepted_append (entries more : List Entry) :
    AllAccepted (entries ++ more) ↔ AllAccepted entries ∧ AllAccepted more := by
  simp [AllAccepted, or_imp, forall_and]

theorem allAccepted_flatMap {α : Type} (l : List α) (f : α → List Entry) :
    AllAccepted (l.flatMap f) ↔ ∀ a ∈ l, AllAccepted (f a) := by
  induction l with
  | nil => simp
  | cons a rest ih => simp [ih]

@[simp] theorem sqlNonblank_strip_ref (rest : String) :
    sqlNonblank (strip (plan.ref rest)) = true := plan.sqlNonblank_ref rest

@[simp] theorem sqlNonblank_strip_exceptionRef (phase : String) (stepId : Option Text)
    (className : String) :
    sqlNonblank (strip (plan.exceptionRef phase stepId className)) = true :=
  plan.sqlNonblank_ref _

@[simp] theorem strip_val (t : Text) : strip t.val = t.val := t.stripped

theorem allAccepted_entries (a : Attempt) : AllAccepted (a.entries plan snapshot) ↔
    sqlNonblank a.execution.evidenceRef.val ∧
      ∀ post ∈ a.verification, sqlNonblank post.evidenceRef.val := by
  obtain ⟨step, execution, _ | post⟩ := a <;>
    simp [Attempt.entries, TransactionPlan.executionStarted, TransactionPlan.executionRecorded,
      TransactionPlan.postconditionRecorded, TransactionPlan.stepEvent, TransactionPlan.event]

theorem allAccepted_compensationEntries (step : TransactionStep) :
    AllAccepted (plan.compensationEntries driver snapshot step) ↔ (step.compensatable →
      sqlNonblank (plan.compensationOf driver snapshot step).evidenceRef.val) := by
  unfold TransactionPlan.compensationEntries
  split_ifs with h <;>
    simp [h, TransactionPlan.compensationStarted, TransactionPlan.compensationRecorded,
      TransactionPlan.stepEvent, TransactionPlan.event]

/-- The evidence of a recovery is one of the references before it. -/
theorem sqlNonblank_recoveryRef {steps : List TransactionStep} {ref : Option String}
    {rootRef : String} (hroot : sqlNonblank (strip rootRef))
    (href : ∀ s ∈ ref, sqlNonblank (strip s))
    (hsteps : ∀ step ∈ steps, step.compensatable →
      sqlNonblank (plan.compensationOf driver snapshot step).evidenceRef.val) :
    sqlNonblank (strip (recoveryRef (plan.blame driver snapshot steps ref) rootRef)) := by
  induction steps generalizing ref with
  | nil =>
    simp only [TransactionPlan.blame, List.foldl_nil, recoveryRef]
    cases hfilter : ref.filter (· != "") with
    | none => exact hroot
    | some s => exact href s (Option.filter_eq_some_iff.mp hfilter).1
  | cons step rest ih =>
    refine ih ?_ fun other hother ↦ hsteps other (List.mem_cons_of_mem _ hother)
    unfold TransactionPlan.blameStep
    dsimp only
    split_ifs with hcompensatable hrestored
    · exact href
    · simpa using hsteps step List.mem_cons_self hcompensatable
    · simp

/-- Undoing writes nothing blank when the reports on the undone steps are not. -/
theorem allAccepted_undoStory {changed : List TransactionStep} {rootRef : String}
    (hroot : sqlNonblank (strip rootRef)) (rootUnknown : Bool) (failedStepId : Option String) :
    AllAccepted (plan.undoStory driver snapshot changed rootRef rootUnknown failedStepId) ↔
      ∀ step ∈ changed, step.compensatable →
        sqlNonblank (plan.compensationOf driver snapshot step).evidenceRef.val := by
  simp only [TransactionPlan.undoStory, allAccepted_append, allAccepted_flatMap,
    allAccepted_compensationEntries, List.mem_reverse]
  refine and_iff_left_of_imp fun hsteps ↦ ?_
  have href : ∀ ref ∈ (if rootUnknown then some rootRef else none),
      sqlNonblank (strip ref) := by
    cases rootUnknown <;> simp [hroot]
  unfold TransactionPlan.conclusion
  by_cases hneeds : plan.NeedsRecovery driver snapshot changed rootUnknown
  · rw [if_pos hneeds]
    simp only [allAccepted_event, allAccepted_operation, allAccepted_nil, and_true]
    exact sqlNonblank_recoveryRef hroot href fun step hstep ↦
      hsteps step (List.mem_reverse.mp hstep)
  · rw [if_neg hneeds]
    simp

theorem allAccepted_ending {as : List Attempt} {changed : List TransactionStep}
    (has : ∀ a ∈ as, sqlNonblank a.execution.evidenceRef.val ∧
      ∀ post ∈ a.verification, sqlNonblank post.evidenceRef.val) :
    AllAccepted (plan.ending driver snapshot as changed) ↔
      (Undoing plan driver snapshot as →
        ∀ step ∈ changed, step.compensatable →
          sqlNonblank (plan.compensationOf driver snapshot step).evidenceRef.val) := by
  unfold TransactionPlan.ending
  cases hfailed : failedAttempt as with
  | some a =>
    obtain ⟨hmem, hnot⟩ := failedAttempt_spec hfailed
    have hroot : sqlNonblank (strip a.lastEvidence.val) := by
      rw [strip_val, Attempt.lastEvidence]
      cases hverification : a.verification with
      | none => exact (has a hmem).1
      | some post => exact (has a hmem).2 post hverification
    rw [allAccepted_undoStory hroot]
    exact ⟨fun h _ ↦ h, fun h ↦ h (.inl ⟨a, hmem, hnot⟩)⟩
  | none =>
    have hnone : ¬ ∃ a ∈ as, ¬ a.Succeeded := by
      simpa using failedAttempt_eq_none.mp hfailed
    rcases hreceipt : plan.receiptOf driver snapshot with className | receipt
    · simp only [allAccepted_call]
      rw [allAccepted_undoStory (by simp)]
      exact ⟨fun h _ ↦ h, fun h ↦ h (.inr (by simp [hreceipt]))⟩
    · simp [Undoing, hnone, hreceipt]

/-- The database accepts every write of the story exactly when its texts are storable. -/
theorem allAccepted_story {rt : Runtime} (hsha : ∀ text, sqlNonblank (rt.sha256 text)) :
    AllAccepted (plan.story driver rt) ↔ Storable plan driver := by
  have hregister : AllAccepted (plan.story driver rt) ↔
      StorablePlan plan ∧ AllAccepted (plan.registeredStory driver) := by
    rw [← accepted_registrationWrite hsha]
    simp [AllAccepted, TransactionPlan.story]
  rw [hregister, Storable]
  refine and_congr_right fun _ ↦ ?_
  by_cases hcaptured : ∃ snapshot, Captured plan driver snapshot
  · obtain ⟨snapshot, hcaptured⟩ := hcaptured
    have hevent : sqlNonblank (strip (plan.snapshotEvent snapshot).evidenceRef) ↔
        sqlNonblank snapshot.evidenceRef.val := by
      simp [TransactionPlan.snapshotEvent, TransactionPlan.event]
    rw [forall_captured hcaptured, registeredStory_of_captured hcaptured, allAccepted_call,
      allAccepted_event, allAccepted_append, allAccepted_flatMap, hevent]
    simp only [allAccepted_entries]
    exact and_congr_right fun _ ↦ and_congr_right allAccepted_ending
  · have hnot := not_exists.mp hcaptured
    obtain ⟨-, calls, rest, hcalls, hstory⟩ := story_of_not_captured hnot
    have hsafe : AllAccepted (plan.safeStory (plan.ref rest)) := by
      simp [TransactionPlan.safeStory, TransactionPlan.event]
    have hbefore : AllAccepted calls := by rcases hcalls with rfl | rfl <;> simp
    rw [hstory, allAccepted_append]
    exact iff_of_true ⟨hbefore, hsafe⟩ fun snapshot h ↦ absurd h (hnot snapshot)

/-! ### The history after a story -/

/-- A new plan has no events. -/
theorem no_events {s : Store} (hreferential : Referential s) (hready : Ready plan s) :
    s.transactionEventsOf plan.transactionId.val = [] := by
  refine List.filter_eq_nil_iff.mpr fun event hevent hid ↦ hready.unregistered ?_
  obtain ⟨owner, howner, hownerId⟩ := hreferential.events event hevent
  exact ⟨owner, howner, .inl (hownerId.trans (by simpa using hid))⟩

/-- The history of the transaction is the events of the story. -/
theorem transactionEventsOf_story {s : Store} (driver : Driver) (rt : Runtime)
    (hreferential : Referential s)
    (hready : Ready plan s) :
    (s.replay (writesOf (plan.story driver rt))).transactionEventsOf plan.transactionId.val =
      eventsOf (plan.story driver rt) := by
  have hnew : (eventsOf (plan.story driver rt)).filter
      (fun event ↦ event.transactionId == plan.transactionId.val) =
      eventsOf (plan.story driver rt) :=
    List.filter_eq_self.mpr fun event hevent ↦ by simpa using transactionId_of_mem hevent
  have hold := no_events hreferential hready
  unfold Store.transactionEventsOf at hold ⊢
  rw [transactionEvents_replay, List.filter_append, hold, hnew, List.nil_append]

/-! ### What is recorded of a step after a story -/

section

variable {rt : Runtime} {s : Store} {step : TransactionStep}
  (hevents : s.transactionEventsOf plan.transactionId.val = eventsOf (plan.story driver rt))

attribute [local simp] TransactionEvent.stored TransactionPlan.executionStarted
  TransactionPlan.executionRecorded TransactionPlan.postconditionRecorded
  TransactionPlan.compensationStarted TransactionPlan.compensationRecorded
  TransactionPlan.stepEvent TransactionPlan.event

/-- The events of one kind about one step. -/
theorem aboutStep {stepId : String} {eventType : TransactionEventType} (Q : TransactionEvent → Prop)
    (h : eventType ≠ .recoveryRequired) :
    AboutStep fun event ↦ event.stepId = some stepId ∧ event.eventType = eventType ∧ Q event := by
  rintro e ⟨hstep, htype, -⟩
  simp [hstep, htype, h]

include hevents

theorem recordedAs_iff {eventType : TransactionEventType} {status : String} :
    RecordedAs plan s step eventType status ↔ AnyEvent (fun event ↦
      event.stepId = some step.stepId.val ∧ event.eventType = eventType ∧
        event.status = some status) (plan.story driver rt) := by
  rw [RecordedAs, hevents]
  rfl

theorem recordedChange_iff {change : ChangeState} :
    RecordedChange plan s step change ↔ AnyEvent (fun event ↦
      event.stepId = some step.stepId.val ∧ event.eventType = .stepExecutionRecorded ∧
        event.changeState = some change.name) (plan.story driver rt) := by
  rw [RecordedChange, hevents]
  rfl

/-- The recorded execution of a step is that of the attempt at it. -/
theorem recordedExecution_iff (hcaptured : Captured plan driver snapshot) {status : String} :
    RecordedAs plan s step .stepExecutionRecorded status ↔
      ∃ a ∈ plan.attempts driver plan.steps, a.step.stepId.val = step.stepId.val ∧
        a.execution.status.name = status := by
  rw [recordedAs_iff hevents, anyEvent_story_of_captured (aboutStep _ (by simp)) hcaptured]
  simp [anyEvent_entries, anyEvent_compensationEntries]

/-- The recorded change of a step is that of the attempt at it. -/
theorem recordedChange_attempt_iff (hcaptured : Captured plan driver snapshot)
    {change : ChangeState} : RecordedChange plan s step change ↔
      ∃ a ∈ plan.attempts driver plan.steps, a.step.stepId.val = step.stepId.val ∧
        a.execution.changeState.name = change.name := by
  rw [recordedChange_iff hevents, anyEvent_story_of_captured (aboutStep _ (by simp)) hcaptured]
  simp [anyEvent_entries, anyEvent_compensationEntries]

/-- The recorded verification of a step is that of the attempt at it. -/
theorem recordedVerification_iff (hcaptured : Captured plan driver snapshot) {status : String} :
    RecordedAs plan s step .postconditionRecorded status ↔
      ∃ a ∈ plan.attempts driver plan.steps, ∃ post ∈ a.verification,
        a.step.stepId.val = step.stepId.val ∧ post.status.name = status := by
  rw [recordedAs_iff hevents, anyEvent_story_of_captured (aboutStep _ (by simp)) hcaptured]
  simp [anyEvent_entries, anyEvent_compensationEntries]

/-- The recorded compensation of a step is that of the changed step that is undone. -/
theorem recordedCompensation_iff (hcaptured : Captured plan driver snapshot) {status : String} :
    RecordedAs plan s step .compensationRecorded status ↔
      Undoing plan driver snapshot (plan.attempts driver plan.steps) ∧
        ∃ changed ∈ appliedSteps (plan.attempts driver plan.steps),
          changed.compensatable ∧ changed.stepId.val = step.stepId.val ∧
            (plan.compensationOf driver snapshot changed).status.name = status := by
  rw [recordedAs_iff hevents, anyEvent_story_of_captured (aboutStep _ (by simp)) hcaptured]
  simp [anyEvent_entries, anyEvent_compensationEntries]

/-- A step succeeded exactly when there is an attempt at it that did. -/
theorem stepSucceeded_iff (hcaptured : Captured plan driver snapshot) :
    StepSucceeded plan s step ↔
      ∃ a ∈ plan.attempts driver plan.steps, a.step.stepId.val = step.stepId.val ∧ a.Succeeded := by
  rw [StepSucceeded, recordedExecution_iff hevents hcaptured,
    recordedVerification_iff hevents hcaptured]
  constructor
  · rintro ⟨-, a, ha, post, hpost, hid, hstatus⟩
    exact ⟨a, ha, hid, post, hpost, PostconditionStatus.name_eq_satisfied.mp hstatus⟩
  · rintro ⟨a, ha, hid, hsucceeded⟩
    obtain ⟨post, hpost, hsatisfied⟩ := id hsucceeded
    refine ⟨⟨a, ha, hid, ?_⟩, a, ha, post, hpost, hid, ?_⟩
    · rw [(executed_of_succeeded ha hsucceeded).1]
      rfl
    · rw [hsatisfied]
      rfl

/-- Something about a step is unknown exactly when that holds of the attempt at it. -/
theorem stepUnknown_iff (hcaptured : Captured plan driver snapshot) :
    StepUnknown plan s step ↔
      ∃ a ∈ plan.attempts driver plan.steps, a.step.stepId.val = step.stepId.val ∧ a.Unknown := by
  rw [StepUnknown, recordedExecution_iff hevents hcaptured,
    recordedChange_attempt_iff hevents hcaptured, recordedVerification_iff hevents hcaptured]
  simp only [StepExecutionStatus.name_eq_unknown, ChangeState.name_inj,
    PostconditionStatus.name_eq_unknown, Attempt.Unknown]
  constructor
  · rintro (⟨a, ha, hid, h⟩ | ⟨a, ha, hid, h⟩ | ⟨a, ha, post, hpost, hid, h⟩)
    · exact ⟨a, ha, hid, .inr (.inl h)⟩
    · exact ⟨a, ha, hid, .inl h⟩
    · exact ⟨a, ha, hid, .inr (.inr ⟨post, hpost, h⟩)⟩
  · rintro ⟨a, ha, hid, h | h | ⟨post, hpost, h⟩⟩
    · exact .inr (.inl ⟨a, ha, hid, h⟩)
    · exact .inl ⟨a, ha, hid, h⟩
    · exact .inr (.inr ⟨a, ha, post, hpost, hid, h⟩)

/-- A step is recorded as changed exactly when it is among the changed steps. -/
theorem recordedApplied_iff (hcaptured : Captured plan driver snapshot) (hstep : step ∈ plan.steps) :
    RecordedChange plan s step .applied ↔
      step ∈ appliedSteps (plan.attempts driver plan.steps) := by
  rw [recordedChange_attempt_iff hevents hcaptured, mem_appliedSteps]
  simp only [ChangeState.name_inj]
  constructor
  · rintro ⟨a, ha, hid, happlied⟩
    have hmem := (eq_attempt_of_mem ha).2
    exact ⟨a, ha, happlied, List.inj_on_of_nodup_map plan.stepIds hmem hstep (Text.ext hid)⟩
  · rintro ⟨a, ha, happlied, rfl⟩
    exact ⟨a, ha, rfl, happlied⟩

/-- Nothing is undone exactly when every step succeeded and the receipt is valid. -/
theorem not_undoing_iff (hcaptured : Captured plan driver snapshot) :
    ¬ Undoing plan driver snapshot (plan.attempts driver plan.steps) ↔
      (∀ step ∈ plan.steps, StepSucceeded plan s step) ∧ ReceiptValid plan driver := by
  constructor
  · intro h
    obtain ⟨hall, hreceipt⟩ := not_or.mp h
    have hsucceeded : ∀ a ∈ plan.attempts driver plan.steps, a.Succeeded := by simpa using hall
    obtain ⟨receipt, hreceipt⟩ : ∃ receipt, plan.receiptOf driver snapshot = .ok receipt := by
      simpa using hreceipt
    refine ⟨fun step hstep ↦ ?_, snapshot, receipt, hcaptured.2, hreceipt⟩
    rw [← map_step_of_succeeded hsucceeded] at hstep
    obtain ⟨a, ha, rfl⟩ := List.mem_map.mp hstep
    exact (stepSucceeded_iff hevents hcaptured).mpr ⟨a, ha, rfl, hsucceeded a ha⟩
  · rintro ⟨hsteps, other, receipt, hother, hreceipt⟩ (⟨a, ha, hnot⟩ | hno)
    · have hmem := (eq_attempt_of_mem ha).2
      obtain ⟨b, hb, hid, hsucceeded⟩ :=
        (stepSucceeded_iff hevents hcaptured).mp (hsteps a.step hmem)
      exact hnot (eq_of_stepId_eq hb ha hid ▸ hsucceeded)
    · rw [Except.ok.inj (hother.symm.trans hcaptured.2)] at hreceipt
      exact hno receipt hreceipt

/-- A compensation that was recorded as anything but restored belongs to a changed step that was
not restored. -/
theorem not_restored_of_recorded (hcaptured : Captured plan driver snapshot)
    (h : NotRestored plan s step) :
    Undoing plan driver snapshot (plan.attempts driver plan.steps) ∧
      ∃ changed ∈ appliedSteps (plan.attempts driver plan.steps),
        ¬ plan.Restored driver snapshot changed := by
  have hname {status : String} (hne : status ≠ "RESTORED")
      (h : RecordedAs plan s step .compensationRecorded status) :
      Undoing plan driver snapshot (plan.attempts driver plan.steps) ∧
        ∃ changed ∈ appliedSteps (plan.attempts driver plan.steps),
          ¬ plan.Restored driver snapshot changed := by
    obtain ⟨hundoing, changed, hchanged, -, -, hstatus⟩ :=
      (recordedCompensation_iff hevents hcaptured).mp h
    refine ⟨hundoing, changed, hchanged, fun hrestored ↦ hne ?_⟩
    rw [← hstatus, hrestored.2]
    rfl
  rcases h with h | h
  · exact hname (by decide) h
  · exact hname (by decide) h

/-- What is unknown, cannot be undone or was not restored requires recovery. -/
theorem storyStatus_eq_recoveryRequired (hcaptured : Captured plan driver snapshot)
    (hstep : step ∈ plan.steps)
    (h : StepUnknown plan s step ∨ (plan.storyStatus driver ≠ .complete ∧
      RecordedChange plan s step .applied ∧ step.compensatable = false) ∨
      NotRestored plan s step) : plan.storyStatus driver = .recoveryRequired := by
  rcases h with h | ⟨hstatus, happlied, hcompensatable⟩ | h
  · obtain ⟨a, ha, -, hunknown⟩ := (stepUnknown_iff hevents hcaptured).mp h
    exact storyStatus_of_unknown hcaptured ha hunknown
  · have hundoing : Undoing plan driver snapshot (plan.attempts driver plan.steps) := by
      by_contra hnot
      rw [storyStatus_of_captured hcaptured] at hstatus
      exact hstatus (endingStatus_eq_complete.mpr hnot)
    refine storyStatus_of_not_restored hcaptured hundoing
      ((recordedApplied_iff hevents hcaptured hstep).mp happlied) ?_
    simp [TransactionPlan.Restored, hcompensatable]
  · obtain ⟨hundoing, changed, hchanged, hnot⟩ := not_restored_of_recorded hevents hcaptured h
    exact storyStatus_of_not_restored hcaptured hundoing hchanged hnot

/-- Without a snapshot nothing is recorded of any step. -/
theorem nothing_recorded (h : ∀ snapshot, ¬ Captured plan driver snapshot)
    (step : TransactionStep) :
    (∀ eventType status, eventType ≠ .recoveryRequired →
      ¬ RecordedAs plan s step eventType status) ∧
    ∀ change, ¬ RecordedChange plan s step change := by
  constructor
  · intro eventType status htype
    rw [recordedAs_iff hevents]
    exact not_anyEvent_story (aboutStep _ htype) h
  · intro change
    rw [recordedChange_iff hevents]
    exact not_anyEvent_story (aboutStep _ (by simp)) h

end

/-! ### Sound results -/

section

variable {rt : Runtime} {s : Store} {result : TransactionResult}

/-- A story ends the operation once. -/
theorem operationEventsOf_story :
    ∃ event, (s.replay (writesOf (plan.story driver rt))).operationEventsOf plan.operationId.val =
      s.operationEventsOf plan.operationId.val ++ [event] ∧ event.eventType.isOutcome := by
  obtain ⟨before, outcome, evidenceRef, receipt, result, hbefore, hstory⟩ :=
    endsOnce_story plan driver rt
  have hend : outcomesOf (plan.story driver rt) =
      [plan.endEvent outcome evidenceRef receipt result] := by
    rw [hstory, outcomesOf_append, hbefore]
    rfl
  refine ⟨plan.endEvent outcome evidenceRef receipt result, ?_, ?_⟩
  · simp [Store.operationEventsOf, operationEvents_replay, hend, TransactionPlan.endEvent]
  · cases outcome <;> rfl

/-- With a snapshot a concluded run is sound. -/
theorem soundResult_of_captured (hreferential : Referential s) (hready : Ready plan s)
    (hcaptured : Captured plan driver snapshot)
    (hconcluded : Concluded plan (plan.storyStatus driver)
      (s.replay (writesOf (plan.story driver rt))) result) :
    SoundResult plan driver s result
      ⟨s.replay (writesOf (plan.story driver rt)), plan.story driver rt⟩ := by
  have hevents := transactionEventsOf_story driver rt hreferential hready
  obtain ⟨hstatus, hoperation, hstate, -⟩ := hconcluded
  obtain ⟨hexecuted, hundone⟩ := calls_story_of_captured rt hcaptured
  constructor
  · rw [hstatus, storyStatus_of_captured hcaptured, endingStatus_eq_complete]
    exact not_undoing_iff hevents hcaptured
  · intro hcompensated step hstep happlied
    obtain ⟨hundoing, hrestored⟩ := restored_of_compensated hcaptured (hstatus ▸ hcompensated)
    have hchanged := (recordedApplied_iff hevents hcaptured hstep).mp happlied
    refine (recordedCompensation_iff hevents hcaptured).mpr
      ⟨hundoing, step, hchanged, (hrestored step hchanged).1, rfl, ?_⟩
    rw [(hrestored step hchanged).2]
    rfl
  · exact hundone.trans appliedSteps_sublist.reverse
  · rintro ⟨step, hstep, h⟩
    have hrequired : plan.storyStatus driver = .recoveryRequired :=
      storyStatus_eq_recoveryRequired hevents hcaptured hstep (hstatus ▸ h)
    rw [hrequired] at hstatus hstate
    exact ⟨hstatus, hstate⟩
  · exact operationEventsOf_story
  · exact ⟨hoperation, hstatus ▸ hstate⟩
  · rw [hexecuted]
    exact attempts_initial plan.steps
  · intro done step next rest hsteps
    rw [hexecuted] at hsteps
    obtain ⟨before, others, hattempts, -, hothers⟩ := List.map_eq_append_iff.mp hsteps
    obtain ⟨a, tail, rfl, rfl, htail⟩ := List.map_eq_cons_iff.mp hothers
    obtain ⟨b, after, rfl, -, -⟩ := List.map_eq_cons_iff.mp htail
    have ha : a ∈ plan.attempts driver plan.steps := by simp [hattempts]
    exact (stepSucceeded_iff hevents hcaptured).mpr ⟨a, ha, rfl, succeeded_of_followed hattempts⟩

/-- Without a snapshot a concluded run is sound: it changed nothing. -/
theorem soundResult_of_not_captured (hreferential : Referential s) (hready : Ready plan s)
    (hnot : ∀ snapshot, ¬ Captured plan driver snapshot)
    (hconcluded : Concluded plan (plan.storyStatus driver)
      (s.replay (writesOf (plan.story driver rt))) result) :
    SoundResult plan driver s result
      ⟨s.replay (writesOf (plan.story driver rt)), plan.story driver rt⟩ := by
  have hevents := transactionEventsOf_story driver rt hreferential hready
  have hnothing := nothing_recorded hevents hnot
  obtain ⟨hstatus, hoperation, hstate, -⟩ := hconcluded
  obtain ⟨hexecuted, hundone⟩ := calls_story_of_not_captured rt hnot
  constructor
  · rw [hstatus, (story_of_not_captured hnot).1]
    refine iff_of_false (by simp) fun ⟨hsteps, _⟩ ↦ ?_
    obtain ⟨step, hstep⟩ := List.exists_mem_of_ne_nil _ plan.nonempty
    exact (hnothing step).1 _ _ (by simp) (hsteps step hstep).1
  · rintro - step - happlied
    exact absurd happlied ((hnothing step).2 _)
  · simp [hundone]
  · rintro ⟨step, -, (h | h | h) | ⟨-, h, -⟩ | h | h⟩
    · exact absurd h ((hnothing step).1 _ _ (by simp))
    · exact absurd h ((hnothing step).2 _)
    · exact absurd h ((hnothing step).1 _ _ (by simp))
    · exact absurd h ((hnothing step).2 _)
    · exact absurd h ((hnothing step).1 _ _ (by simp))
    · exact absurd h ((hnothing step).1 _ _ (by simp))
  · exact operationEventsOf_story
  · exact ⟨hoperation, hstatus ▸ hstate⟩
  · simp [hexecuted]
  · simp [hexecuted]

/-- A run whose texts are storable returns a sound result. -/
theorem sound_of_storable (hsha : ∀ text, sqlNonblank (rt.sha256 text))
    (hreferential : Referential s) (hready : Ready plan s) (hstorable : Storable plan driver) :
    Sound plan driver s (exec (run rt plan driver) ⟨s, []⟩) := by
  have hperforms := run_performs driver (r := ⟨s, []⟩) hsha hreferential hready
  obtain ⟨result, hrun, hconcluded⟩ :=
    hperforms.returns ((allAccepted_story hsha).mpr hstorable)
  refine ⟨result, by rw [hrun], ?_⟩
  rw [hrun]
  by_cases hcaptured : ∃ snapshot, Captured plan driver snapshot
  · obtain ⟨snapshot, hcaptured⟩ := hcaptured
    exact soundResult_of_captured hreferential hready hcaptured hconcluded
  · exact soundResult_of_not_captured hreferential hready (not_exists.mp hcaptured) hconcluded

/-- A run that meets a text that is not storable raises. -/
theorem not_sound_of_not_storable (hsha : ∀ text, sqlNonblank (rt.sha256 text))
    (hreferential : Referential s) (hready : Ready plan s) (hblank : ¬ Storable plan driver) :
    ¬ Sound plan driver s (exec (run rt plan driver) ⟨s, []⟩) := by
  rintro ⟨result, hreturned, -⟩
  have hperforms := run_performs driver (r := ⟨s, []⟩) hsha hreferential hready
  rcases hperforms with ⟨a, -, -, haccepted⟩ | ⟨e, done, w, rest, hrun, -⟩
  · exact hblank ((allAccepted_story hsha).mp haccepted)
  · rw [hrun] at hreturned
    cases hreturned

end

end

/-- A step that can be undone. -/
def sampleStep : TransactionStep where
  stepId := ⟨"s", by decide, by decide⟩
  description := ⟨"d", Text.letterD.stripped, Text.letterD.nonempty⟩
  postconditionRef := ⟨"p", Text.letterP.stripped, Text.letterP.nonempty⟩
  compensatable := true
  dependsOnStepIds := []
  dependenciesUnique := by simp
  independent := by simp

def samplePlan : TransactionPlan where
  transactionId := ⟨"tx", by decide, by decide⟩
  operationId := ⟨"op_0", by decide, by decide⟩
  steps := [sampleStep]
  nonempty := by simp
  stepIds := by simp
  backward := by simp [DependsBackward, sampleStep]

/-- A runtime whose hash is the SHA-256 digest of the one text hashed below. -/
def samplePlanHash : Runtime where
  sha256 _ := "3935cc8e216cdcf1bb90c908bd976b39b6243c805c9eb7ddcebd3e51ab477b4b"
  fromisoformat _ := none
  hmac _ := []
  loads _ := none

/-- A driver that applies the step, with this evidence, and finds its postcondition not to hold. -/
def sampleDriver (evidence : Text) : Driver where
  contract := none
  prepareSnapshot plan := .returned ⟨plan.transactionId, plan.operationId, ⟨"snap", by decide,
    by decide⟩, ⟨"f", by decide, by decide⟩, ⟨"taken", by decide, by decide⟩⟩
  executeStep step := .returned ⟨step.stepId, .succeeded, .applied, evidence, none, by decide⟩
  verifyPostcondition step _ :=
    .returned ⟨step.stepId, step.postconditionRef, .failed, ⟨"no", by decide, by decide⟩⟩
  compensateStep step snapshot :=
    .returned ⟨step.stepId, snapshot.snapshotRef, .restored, ⟨"undone", by decide, by decide⟩⟩
  successReceipt _ _ := .foreign

/-- A text of one control character. It is not empty to the code, and blank to the database. -/
def nulText : Text := ⟨"\x00", by decide, by decide⟩

/-- A store with one operation, which is executing. -/
def executingStore : Store where
  profileId := "profile"
  songs := []
  versions := []
  operations := [⟨"op_0", "k", "c20f90139fe8c825422077dc7303c7c5f54a7be6091d84c0c18e87edc0e56fdb",
    "ap", "me", none, none, none, none, none⟩]
  operationEvents := [⟨"op_0", .prepared, some "me", none, none⟩,
    ⟨"op_0", .executionClaimed, some "claim", none, none⟩]
  transactions := []
  transactionSteps := []
  transactionEvents := []

theorem referential_executingStore : Referential executingStore :=
  ⟨by simp [executingStore], by simp [executingStore], by simp [executingStore]⟩

theorem ready_executingStore : Ready samplePlan executingStore := by
  have hstate : (getOperation executingStore "op_0").toOption.map OperationRecord.recordedState =
      some .executing := by decide +kernel
  refine ⟨?_, by simp [Store.Registered, executingStore]⟩
  rcases hop : getOperation executingStore "op_0" with e | op
  · rw [hop] at hstate
    cases hstate
  · rw [hop] at hstate
    exact ⟨op, hop, Option.some.inj hstate⟩

theorem nonblank_samplePlanHash (text : String) : sqlNonblank (samplePlanHash.sha256 text) := by
  change sqlNonblank "3935cc8e216cdcf1bb90c908bd976b39b6243c805c9eb7ddcebd3e51ab477b4b" = true
  decide +kernel

/-- The evidence of a step that was done. -/
def doneText : Text := ⟨"done", by decide, by decide⟩

end N0te.Journal
