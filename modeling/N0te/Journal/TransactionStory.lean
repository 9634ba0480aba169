import N0te.Journal.DurableWrites

/-!
# What a run does

The story of a run is the list of everything it does when no write is refused: the driver calls and
the durable writes, in order. It is computed from the plan and the driver alone. Its middle part is
one `Attempt` for each step that is executed, up to the first that does not succeed.

`run_performs` is the refinement: `run` performs its story, and returns the status the story ends
with.
-/

set_option autoImplicit false
set_option relaxedAutoImplicit false

namespace N0te.Journal

open Library Governance

/-- The entry of one committed event. -/
def Entry.event (e : TransactionEvent) : Entry := .wrote (eventWrite e)

def Entry.operation (e : OperationEvent) : Entry := .wrote (operationWrite e)

/-! ### Attempts -/

/-- A step that is executed, and what is recorded of it. -/
structure Attempt where
  step : TransactionStep
  execution : StepExecution
  /-- Its verification, when the execution succeeded. -/
  verification : Option PostconditionResult

namespace Attempt

/-- The step was executed and its postcondition holds. -/
def Succeeded (a : Attempt) : Prop := ∃ post ∈ a.verification, post.status = .satisfied

/-- The step changed something. -/
def Applied (a : Attempt) : Prop := a.execution.changeState = .applied

/-- Something about the step is not known. -/
def Unknown (a : Attempt) : Prop :=
  a.execution.changeState = .unknown ∨ a.execution.status = .unknown ∨
    ∃ post ∈ a.verification, post.status = .unknown

instance (a : Attempt) : Decidable a.Succeeded :=
  inferInstanceAs (Decidable (∃ post ∈ a.verification, post.status = .satisfied))

instance (a : Attempt) : Decidable a.Applied :=
  inferInstanceAs (Decidable (a.execution.changeState = .applied))

instance (a : Attempt) : Decidable a.Unknown :=
  inferInstanceAs (Decidable (_ ∨ _ ∨ ∃ post ∈ a.verification, post.status = .unknown))

/-- The evidence of the last report. -/
def lastEvidence (a : Attempt) : Text :=
  a.verification.elim a.execution.evidenceRef PostconditionResult.evidenceRef

def entries (plan : TransactionPlan) (snapshot : TransactionSnapshot) (a : Attempt) : List Entry :=
  .event (plan.executionStarted snapshot a.step) :: .call (.executeStep a.step) ::
    .event (plan.executionRecorded snapshot a.step a.execution) ::
    a.verification.elim [] fun post ↦
      [.call (.verifyPostcondition a.step a.execution),
        .event (plan.postconditionRecorded snapshot a.step post)]

end Attempt

/-- The steps that changed something, in the order they were executed. -/
def appliedSteps (as : List Attempt) : List TransactionStep :=
  (as.filter fun a ↦ a.Applied).map Attempt.step

/-- The attempt that did not succeed. -/
def failedAttempt (as : List Attempt) : Option Attempt := as.find? fun a ↦ ¬ a.Succeeded

namespace TransactionPlan

variable (plan : TransactionPlan) (driver : Driver) (snapshot : TransactionSnapshot)

def attempt (step : TransactionStep) : Attempt :=
  let execution := plan.executionOf driver step
  ⟨step, execution,
    if execution.status = .succeeded then some (plan.verificationOf driver step execution)
    else none⟩

/-- The attempts at some steps, up to the first that does not succeed. -/
def attempts : List TransactionStep → List Attempt
  | [] => []
  | step :: rest =>
    let a := plan.attempt driver step
    if a.Succeeded then a :: attempts rest else [a]

/-! ### Compensations -/

/-- The step can be undone and was. -/
def Restored (step : TransactionStep) : Prop :=
  step.compensatable = true ∧ (plan.compensationOf driver snapshot step).status = .restored

instance (step : TransactionStep) : Decidable (plan.Restored driver snapshot step) :=
  inferInstanceAs (Decidable (_ ∧ _))

/-- The entries of the attempt to undo a step. -/
def compensationEntries (step : TransactionStep) : List Entry :=
  if step.compensatable then
    [.event (plan.compensationStarted snapshot step), .call (.compensateStep step snapshot),
      .event (plan.compensationRecorded snapshot step
        (plan.compensationOf driver snapshot step))]
  else []

/-- The evidence why recovery is required, after one more step. -/
def blameStep (ref : Option String) (step : TransactionStep) : Option String :=
  if step.compensatable then
    let result := plan.compensationOf driver snapshot step
    if result.status = .restored then ref else some result.evidenceRef.val
  else some (plan.ref ("noncompensatable:" ++ step.stepId.val))

/-- The evidence why recovery is required: that of the last step that could not be undone. -/
def blame (steps : List TransactionStep) (ref : Option String) : Option String :=
  steps.foldl (plan.blameStep driver snapshot) ref

/-! ### Endings -/

/-- The event of the operation at an ending. -/
def endEvent (outcome : Outcome) (evidenceRef : String)
    (receiptRef resultFingerprint : Option String) : OperationEvent :=
  ⟨plan.operationId.val, outcome.eventType, some (strip evidenceRef), receiptRef.map strip,
    resultFingerprint.map strip⟩

/-- The entries of a failure before anything was changed. -/
def safeStory (evidenceRef : String) : List Entry :=
  [.event (plan.event .safeFailure evidenceRef),
    .operation (plan.endEvent .failed evidenceRef none none)]

/-- Whether undoing the changed steps leaves something to recover. -/
def NeedsRecovery (changed : List TransactionStep) (rootUnknown : Bool) : Prop :=
  rootUnknown = true ∨ ∃ step ∈ changed, ¬ plan.Restored driver snapshot step

instance (changed : List TransactionStep) (rootUnknown : Bool) :
    Decidable (plan.NeedsRecovery driver snapshot changed rootUnknown) :=
  inferInstanceAs (Decidable (_ ∨ _))

/-- The entries after the changed steps were undone. -/
def conclusion (changed : List TransactionStep) (rootRef : String) (rootUnknown : Bool)
    (failedStepId : Option String) : List Entry :=
  if plan.NeedsRecovery driver snapshot changed rootUnknown then
    let ref := recoveryRef (plan.blame driver snapshot changed.reverse
      (if rootUnknown then some rootRef else none)) rootRef
    [.event (plan.recoveryEvent snapshot failedStepId ref),
      .operation (plan.endEvent .unknown ref none none)]
  else
    [.operation (plan.endEvent .failed rootRef none
      (some ("compensated:" ++ snapshot.snapshotFingerprint.val)))]

/-- The entries of undoing the changed steps, last first. -/
def undoStory (changed : List TransactionStep) (rootRef : String) (rootUnknown : Bool)
    (failedStepId : Option String) : List Entry :=
  changed.reverse.flatMap (plan.compensationEntries driver snapshot) ++
    plan.conclusion driver snapshot changed rootRef rootUnknown failedStepId

/-- The entries after the attempts. -/
def ending (as : List Attempt) (changed : List TransactionStep) : List Entry :=
  match failedAttempt as with
  | some a =>
    plan.undoStory driver snapshot changed a.lastEvidence.val a.Unknown (some a.step.stepId.val)
  | none => .call (.successReceipt plan snapshot) ::
    match plan.receiptOf driver snapshot with
    | .error className =>
      plan.undoStory driver snapshot changed (plan.exceptionRef "receipt" none className) true none
    | .ok receipt => [.operation (plan.endEvent .succeeded receipt.evidenceRef.val
        (some receipt.receiptRef.val) (some receipt.resultFingerprint.val))]

/-- The entries of a run after the registration of its plan. -/
def registeredStory : List Entry :=
  match driver.contract with
  | some className => plan.safeStory (plan.exceptionRef "driver-contract" none className)
  | none => .call (.prepareSnapshot plan) ::
    match plan.snapshotOf driver with
    | .error className => plan.safeStory (plan.exceptionRef "snapshot" none className)
    | .ok snapshot =>
      let as := plan.attempts driver plan.steps
      .event (plan.snapshotEvent snapshot) ::
        (as.flatMap (Attempt.entries plan snapshot) ++
          plan.ending driver snapshot as (appliedSteps as))

/-- The entries of a run. -/
def story (rt : Runtime) : List Entry :=
  .wrote (registrationWrite rt plan) :: plan.registeredStory driver

/-! ### The status of a story -/

/-- The status after the changed steps were undone. -/
def undoStatus (changed : List TransactionStep) (rootUnknown : Bool) : TransactionStatus :=
  if plan.NeedsRecovery driver snapshot changed rootUnknown then .recoveryRequired
  else .compensated

/-- The status after the attempts. -/
def endingStatus (as : List Attempt) (changed : List TransactionStep) : TransactionStatus :=
  match failedAttempt as with
  | some a => plan.undoStatus driver snapshot changed a.Unknown
  | none =>
    match plan.receiptOf driver snapshot with
    | .error _ => plan.undoStatus driver snapshot changed true
    | .ok _ => .complete

/-- The status of a run. -/
def storyStatus : TransactionStatus :=
  match driver.contract with
  | some _ => .compensated
  | none =>
    match plan.snapshotOf driver with
    | .error _ => .compensated
    | .ok snapshot =>
      let as := plan.attempts driver plan.steps
      plan.endingStatus driver snapshot as (appliedSteps as)

end TransactionPlan

/-- The outcome of the operation for a status. -/
def TransactionStatus.outcome : TransactionStatus → Outcome
  | complete => .succeeded
  | compensated => .failed
  | recoveryRequired => .unknown

/-- A result has a status, and the operation in the store ended the same way. -/
def Concluded (plan : TransactionPlan) (status : TransactionStatus) (s : Store)
    (result : TransactionResult) : Prop :=
  result.status = status ∧ EndedAs plan status.outcome s result.operation

/-! ### Performing the story -/

section

variable {plan : TransactionPlan} {driver : Driver} {snapshot : TransactionSnapshot} {r : Run}

theorem operationText_of_ne {value field : String} (h : strip value ≠ "") :
    operationText value field = .ok ⟨strip value, strip_strip _, h⟩ := by
  rw [operationText, orRaise_eq_ok, Text.ofString_eq_some]
  exact ⟨rfl, h⟩

theorem optionalOperationText_of_ne (field : String) {value : Option String}
    (h : ∀ s ∈ value, strip s ≠ "") : ∃ text, optionalOperationText value field = .ok text ∧
      text.map Text.val = value.map strip ∧ (value ≠ none → text ≠ none) := by
  cases value with
  | none => exact ⟨none, rfl, rfl, fun h ↦ absurd rfl h⟩
  | some s =>
    refine ⟨some ⟨strip s, strip_strip _, h s rfl⟩, ?_, rfl, fun _ ↦ nofun⟩
    simp only [optionalOperationText, operationText_of_ne (h s rfl)]
    rfl

/-- Ending the operation performs the write of its last event.
Assumes: no reference is blank, and a success has all of them. -/
theorem end_performs (hr : Underway plan r.store) {outcome : Outcome} {evidenceRef : String}
    {receiptRef resultFingerprint : Option String} (hevidence : strip evidenceRef ≠ "")
    (hreceipt : ∀ s ∈ receiptRef, strip s ≠ "") (hresult : ∀ s ∈ resultFingerprint, strip s ≠ "")
    (hcomplete : outcome = .succeeded → receiptRef ≠ none ∧ resultFingerprint ≠ none) :
    Performs r (durably (recordTerminal plan.operationId.val outcome
        ⟨evidenceRef, receiptRef, resultFingerprint⟩))
      [.operation (plan.endEvent outcome evidenceRef receiptRef resultFingerprint)]
      (EndedAs plan outcome (r.perform
        [.operation (plan.endEvent outcome evidenceRef receiptRef resultFingerprint)]).store) := by
  refine recordTerminal_performs hr fun e ↦ ?_
  obtain ⟨receipt, hreceipt, hreceiptVal, hreceiptSome⟩ :=
    optionalOperationText_of_ne "receipt_ref" hreceipt
  obtain ⟨result, hresult, hresultVal, hresultSome⟩ :=
    optionalOperationText_of_ne "result_fingerprint" hresult
  simp only [outcomeEvent, operationText_of_ne hevidence, hreceipt, hresult, bind_eq_ok,
    require_eq_ok, pure_eq_ok]
  refine ⟨_, rfl, receipt, rfl, result, rfl, (), fun hkind ↦ ?_, ?_⟩
  · have hsucceeded : outcome = .succeeded := by
      cases outcome <;> simp [Outcome.eventType] at hkind ⊢
    obtain ⟨hreceiptNe, hresultNe⟩ := hcomplete hsucceeded
    exact ⟨hreceiptSome hreceiptNe, hresultSome hresultNe⟩
  · rw [hreceiptVal, hresultVal]
    rfl

theorem eventOf_snapshotEvent (snapshot : TransactionSnapshot) :
    EventOf plan (plan.snapshotEvent snapshot) := ⟨rfl, fun _ h ↦ nomatch h⟩

/-- Ending the operation with another outcome than a success. -/
theorem failure_performs (hr : Underway plan r.store) {outcome : Outcome} {evidenceRef : String}
    (hevidence : strip evidenceRef ≠ "") (houtcome : outcome ≠ .succeeded)
    (resultFingerprint : Option String) (hresult : ∀ s ∈ resultFingerprint, strip s ≠ "") :
    Performs r (durably (recordTerminal plan.operationId.val outcome
        ⟨evidenceRef, none, resultFingerprint⟩))
      [.operation (plan.endEvent outcome evidenceRef none resultFingerprint)]
      (EndedAs plan outcome (r.perform
        [.operation (plan.endEvent outcome evidenceRef none resultFingerprint)]).store) :=
  end_performs hr hevidence (by simp) hresult fun h ↦ absurd h houtcome

theorem eventOf_event (eventType : TransactionEventType) (evidenceRef : String) :
    EventOf plan (plan.event eventType evidenceRef) := ⟨rfl, fun _ h ↦ nomatch h⟩

/-- A failure before anything was changed. -/
theorem safeFailure_performs (hr : Underway plan r.store) (rest : String) :
    Performs r (safeFailure plan (plan.ref rest)) (plan.safeStory (plan.ref rest))
      (Concluded plan .compensated (r.perform (plan.safeStory (plan.ref rest))).store) := by
  refine (commitEvent_performs hr (eventOf_event _ _)).step fun _ hevidence ↦ ?_
  refine (failure_performs (hr.write_event _) (ne_empty_of_sqlNonblank hevidence) (by decide)
    none (by simp)).step fun op hended ↦ ?_
  exact .pure ⟨rfl, hended⟩

/-! ### Undoing -/

theorem mem_stepEvent {step : TransactionStep} (hstep : step ∈ plan.steps) {stepId : String}
    (h : stepId ∈ (some step.stepId.val : Option String)) :
    ∃ other ∈ plan.steps, other.stepId.val = stepId := ⟨step, hstep, Option.some.inj h⟩

theorem Underway.undone (hr : Underway plan r.store) (steps : List TransactionStep) :
    Underway plan
      (r.perform (steps.flatMap (plan.compensationEntries driver snapshot))).store := by
  induction steps generalizing r with
  | nil => simpa using hr
  | cons step rest ih =>
    rw [List.flatMap_cons, perform_append]
    apply ih
    unfold TransactionPlan.compensationEntries
    split_ifs
    · exact (hr.write_event _).write_event _
    · simpa using hr

/-- What the pass over the changed steps comes to. -/
structure PassResult (plan : TransactionPlan) (driver : Driver) (snapshot : TransactionSnapshot)
    (steps : List TransactionStep) (pass result : CompensationPass) : Prop where
  /-- Recovery is required when it was, or when a step could not be undone. -/
  required : result.recoveryRequired = true ↔
    plan.NeedsRecovery driver snapshot steps pass.recoveryRequired
  /-- The evidence is that of the last step that could not be undone. -/
  blame : result.recoveryEvidenceRef = plan.blame driver snapshot steps pass.recoveryEvidenceRef

theorem PassResult.cons {step : TransactionStep} {rest : List TransactionStep}
    {pass next result : CompensationPass} (h : PassResult plan driver snapshot rest next result)
    (hrequired : next.recoveryRequired = true ↔
      pass.recoveryRequired = true ∨ ¬ plan.Restored driver snapshot step)
    (hblame : next.recoveryEvidenceRef =
      plan.blameStep driver snapshot pass.recoveryEvidenceRef step) :
    PassResult plan driver snapshot (step :: rest) pass result where
  required := by
    rw [h.required]
    simp only [TransactionPlan.NeedsRecovery, hrequired, List.exists_mem_cons_iff, or_assoc]
  blame := by
    rw [h.blame, hblame]
    rfl

theorem compensateSteps_performs (hr : Underway plan r.store) {steps : List TransactionStep}
    (hsteps : ∀ step ∈ steps, step ∈ plan.steps) (pass : CompensationPass) :
    Performs r (compensateSteps plan driver snapshot steps pass)
      (steps.flatMap (plan.compensationEntries driver snapshot))
      (PassResult plan driver snapshot steps pass) := by
  induction steps generalizing r pass with
  | nil =>
    rw [compensateSteps]
    exact .pure ⟨by simp [TransactionPlan.NeedsRecovery], rfl⟩
  | cons step rest ih =>
    have hstep : step ∈ plan.steps := hsteps step List.mem_cons_self
    have hrest : ∀ other ∈ rest, other ∈ plan.steps :=
      fun other hother ↦ hsteps other (List.mem_cons_of_mem _ hother)
    rw [compensateSteps, List.flatMap_cons, TransactionPlan.compensationEntries]
    by_cases hcompensatable : step.compensatable = true
    · rw [if_pos hcompensatable, if_pos hcompensatable]
      have hnext := ((hr.write_event (plan.compensationStarted snapshot step)).write_event
        (plan.compensationRecorded snapshot step (plan.compensationOf driver snapshot step)))
      refine (commitEvent_performs hr ⟨rfl, fun _ ↦ mem_stepEvent hstep⟩).step fun _ _ ↦ ?_
      refine (called_performs _ _).step fun _ _ ↦ ?_
      refine (commitEvent_performs (hr.write_event _) ⟨rfl, fun _ ↦ mem_stepEvent hstep⟩).step
        fun _ _ ↦ ?_
      refine (ih hnext hrest _).mono fun result hresult ↦ hresult.cons ?_ ?_
      · split_ifs with hrestored <;> simp [TransactionPlan.Restored, hcompensatable, hrestored]
      · rw [TransactionPlan.blameStep, if_pos hcompensatable]
        dsimp only
        split_ifs <;> rfl
    · rw [if_neg hcompensatable, if_neg hcompensatable]
      refine (ih hr hrest _).mono fun result hresult ↦ hresult.cons ?_ ?_
      · simp [TransactionPlan.Restored, hcompensatable]
      · rw [TransactionPlan.blameStep, if_neg hcompensatable]

theorem needsRecovery_reverse (changed : List TransactionStep) (rootUnknown : Bool) :
    plan.NeedsRecovery driver snapshot changed.reverse rootUnknown ↔
      plan.NeedsRecovery driver snapshot changed rootUnknown := by
  simp [TransactionPlan.NeedsRecovery]

theorem strip_compensated_ne (fingerprint : String) :
    strip ("compensated:" ++ fingerprint) ≠ "" := by
  have hhead : ("compensated:" ++ fingerprint).toList =
      'c' :: ("ompensated:".toList ++ fingerprint.toList) := by
    simp
  exact ne_empty_of_sqlNonblank (sqlNonblank_strip hhead (by decide) (by decide))

/-- The end of undoing. -/
theorem concludeCompensation_performs (hr : Underway plan r.store)
    {changed : List TransactionStep} {evidence : List String} {rootRef : String}
    {rootUnknown : Bool} {failedStepId : Option String} {pass : CompensationPass}
    (hroot : strip rootRef ≠ "")
    (hfailed : ∀ stepId ∈ failedStepId, ∃ step ∈ plan.steps, step.stepId.val = stepId)
    (hpass : PassResult plan driver snapshot changed.reverse
      ⟨evidence, [], if rootUnknown then some rootRef else none, rootUnknown⟩ pass) :
    Performs r (concludeCompensation plan snapshot changed failedStepId rootRef pass)
      (plan.conclusion driver snapshot changed rootRef rootUnknown failedStepId)
      (Concluded plan (plan.undoStatus driver snapshot changed rootUnknown)
        (r.perform (plan.conclusion driver snapshot changed rootRef rootUnknown
          failedStepId)).store) := by
  have hrequired := hpass.required.trans (needsRecovery_reverse changed rootUnknown)
  unfold concludeCompensation TransactionPlan.conclusion TransactionPlan.undoStatus
  by_cases hneeds : plan.NeedsRecovery driver snapshot changed rootUnknown
  · rw [if_pos (hrequired.mpr hneeds), if_pos hneeds, if_pos hneeds, hpass.blame]
    refine (commitEvent_performs hr ⟨rfl, hfailed⟩).step fun _ hevidence ↦ ?_
    refine (failure_performs (hr.write_event _) (ne_empty_of_sqlNonblank hevidence) (by decide)
      none (by simp)).step fun op hended ↦ ?_
    exact .pure ⟨rfl, hended⟩
  · rw [if_neg fun h ↦ hneeds (hrequired.mp h), if_neg hneeds, if_neg hneeds]
    refine (failure_performs hr hroot (by decide) _ ?_).step fun op hended ↦ ?_
    · simpa using strip_compensated_ne _
    · exact .pure ⟨rfl, hended⟩

/-- Undoing the changed steps performs the entries of undoing them. -/
theorem compensate_performs (hr : Underway plan r.store) {changed : List TransactionStep}
    (hchanged : ∀ step ∈ changed, step ∈ plan.steps) (evidence : List String) {rootRef : String}
    (rootUnknown : Bool) {failedStepId : Option String} (hroot : strip rootRef ≠ "")
    (hfailed : ∀ stepId ∈ failedStepId, ∃ step ∈ plan.steps, step.stepId.val = stepId) :
    Performs r (compensate plan driver snapshot changed (evidence ++ [rootRef]) rootUnknown
        failedStepId)
      (plan.undoStory driver snapshot changed rootRef rootUnknown failedStepId)
      (Concluded plan (plan.undoStatus driver snapshot changed rootUnknown)
        (r.perform (plan.undoStory driver snapshot changed rootRef rootUnknown
          failedStepId)).store) := by
  have hreverse : ∀ step ∈ changed.reverse, step ∈ plan.steps :=
    fun step hstep ↦ hchanged step (List.mem_reverse.mp hstep)
  unfold compensate TransactionPlan.undoStory
  rw [List.getLastD_concat]
  refine (compensateSteps_performs hr hreverse _).bind fun pass hpass ↦ ?_
  rw [perform_append]
  exact concludeCompensation_performs (hr.undone _) hroot hfailed hpass

/-! ### Running -/

theorem strip_val_ne (t : Text) : strip t.val ≠ "" := t.stripped.symm ▸ t.nonempty

/-- The end of a run in which every step succeeded. -/
theorem concludeSteps_performs (hr : Underway plan r.store) {changed : List TransactionStep}
    (hchanged : ∀ step ∈ changed, step ∈ plan.steps) (evidence : List String) :
    Performs r (concludeSteps plan driver snapshot changed evidence)
      (plan.ending driver snapshot [] changed)
      (Concluded plan (plan.endingStatus driver snapshot [] changed)
        (r.perform (plan.ending driver snapshot [] changed)).store) := by
  unfold concludeSteps TransactionPlan.ending TransactionPlan.endingStatus
  refine (called_performs _ _).step fun _ _ ↦ ?_
  rcases plan.receiptOf driver snapshot with className | receipt
  · refine compensate_performs (hr.call _) hchanged evidence true ?_ ?_
    · exact ne_empty_of_sqlNonblank (plan.sqlNonblank_ref _)
    · simp
  · refine (end_performs (hr.call _) (strip_val_ne _) ?_ ?_ ?_).step fun op hended ↦ ?_
    · simpa using strip_val_ne receipt.receiptRef
    · simpa using strip_val_ne receipt.resultFingerprint
    · simp
    · exact .pure ⟨rfl, hended⟩

theorem failedAttempt_singleton {a : Attempt} (h : ¬ a.Succeeded) : failedAttempt [a] = some a := by
  simp [failedAttempt, h]

theorem failedAttempt_cons {a : Attempt} (h : a.Succeeded) (rest : List Attempt) :
    failedAttempt (a :: rest) = failedAttempt rest := by
  simp [failedAttempt, h]

theorem appliedSteps_cons (a : Attempt) (rest : List Attempt) :
    appliedSteps (a :: rest) = appliedSteps [a] ++ appliedSteps rest := by
  by_cases h : a.Applied <;> simp [appliedSteps, h]

theorem changed_append (changed : List TransactionStep) (a : Attempt) :
    (if a.execution.changeState = .applied then changed ++ [a.step] else changed) =
      changed ++ appliedSteps [a] := by
  by_cases h : a.execution.changeState = .applied <;> simp [appliedSteps, Attempt.Applied, h]

theorem attempt_of_executed {step : TransactionStep}
    (h : (plan.executionOf driver step).status = .succeeded) :
    plan.attempt driver step = ⟨step, plan.executionOf driver step,
      some (plan.verificationOf driver step (plan.executionOf driver step))⟩ := by
  simp [TransactionPlan.attempt, h]

theorem attempt_of_not_executed {step : TransactionStep}
    (h : (plan.executionOf driver step).status ≠ .succeeded) :
    plan.attempt driver step = ⟨step, plan.executionOf driver step, none⟩ := by
  simp [TransactionPlan.attempt, h]

theorem attempts_of_succeeded {step : TransactionStep}
    (h : (plan.attempt driver step).Succeeded) (rest : List TransactionStep) :
    plan.attempts driver (step :: rest) =
      plan.attempt driver step :: plan.attempts driver rest := by
  simp [TransactionPlan.attempts, h]

theorem attempts_of_not_succeeded {step : TransactionStep}
    (h : ¬ (plan.attempt driver step).Succeeded) (rest : List TransactionStep) :
    plan.attempts driver (step :: rest) = [plan.attempt driver step] := by
  simp [TransactionPlan.attempts, h]

/-- Running steps performs their attempts and the ending. -/
theorem runSteps_performs (hr : Underway plan r.store) {steps : List TransactionStep}
    (hsteps : ∀ step ∈ steps, step ∈ plan.steps) {changed : List TransactionStep}
    (hchanged : ∀ step ∈ changed, step ∈ plan.steps) (evidence : List String) :
    Performs r (runSteps plan driver snapshot steps changed evidence)
      ((plan.attempts driver steps).flatMap (Attempt.entries plan snapshot) ++
        plan.ending driver snapshot (plan.attempts driver steps)
          (changed ++ appliedSteps (plan.attempts driver steps)))
      (Concluded plan (plan.endingStatus driver snapshot (plan.attempts driver steps)
          (changed ++ appliedSteps (plan.attempts driver steps)))
        (r.perform ((plan.attempts driver steps).flatMap (Attempt.entries plan snapshot) ++
          plan.ending driver snapshot (plan.attempts driver steps)
            (changed ++ appliedSteps (plan.attempts driver steps)))).store) := by
  induction steps generalizing r changed evidence with
  | nil =>
    simp only [TransactionPlan.attempts, appliedSteps, List.filter_nil, List.map_nil,
      List.append_nil, List.flatMap_nil, List.nil_append]
    exact concludeSteps_performs hr hchanged evidence
  | cons step rest ih =>
    have hstep : step ∈ plan.steps := hsteps step List.mem_cons_self
    have hrest : ∀ other ∈ rest, other ∈ plan.steps :=
      fun other hother ↦ hsteps other (List.mem_cons_of_mem _ hother)
    have hof {e : TransactionEvent} (h : e.stepId = some step.stepId.val)
        (ht : e.transactionId = plan.transactionId.val) : EventOf plan e :=
      ⟨ht, fun _ hmem ↦ mem_stepEvent hstep (h ▸ hmem)⟩
    have hchanged' : ∀ other ∈ changed ++ appliedSteps [plan.attempt driver step],
        other ∈ plan.steps := by
      intro other hother
      rcases List.mem_append.mp hother with hold | hnew
      · exact hchanged other hold
      · obtain ⟨a, ha, rfl⟩ := List.mem_map.mp hnew
        rw [List.mem_singleton.mp (List.mem_of_mem_filter ha)]
        exact hstep
    have hfailed : ∀ stepId ∈ some step.stepId.val, ∃ other ∈ plan.steps,
        other.stepId.val = stepId := fun _ ↦ mem_stepEvent hstep
    have happlied := changed_append changed (plan.attempt driver step)
    rw [runSteps]
    dsimp only
    by_cases hexecuted : (plan.executionOf driver step).status = .succeeded
    · have hattempt := attempt_of_executed hexecuted
      have hknown := (plan.executionOf driver step).known hexecuted
      by_cases hsatisfied : (plan.verificationOf driver step
          (plan.executionOf driver step)).status = .satisfied
      · have hsucceeded : (plan.attempt driver step).Succeeded := by
          rw [hattempt]
          exact ⟨_, rfl, hsatisfied⟩
        rw [attempts_of_succeeded hsucceeded, List.flatMap_cons, List.append_assoc,
          TransactionPlan.ending, TransactionPlan.endingStatus, failedAttempt_cons hsucceeded,
          appliedSteps_cons, ← List.append_assoc changed]
        rw [hattempt] at happlied hchanged' ⊢
        refine (commitEvent_performs hr (hof rfl rfl)).step fun _ _ ↦ ?_
        refine (called_performs _ _).step fun _ _ ↦ ?_
        refine (commitEvent_performs (hr.write_event _) (hof rfl rfl)).step fun _ _ ↦ ?_
        rw [happlied, if_neg hknown, if_neg (not_not.mpr hexecuted)]
        refine (called_performs _ _).step fun _ _ ↦ ?_
        refine (commitEvent_performs ((hr.write_event _).write_event _) (hof rfl rfl)).step
          fun _ _ ↦ ?_
        rw [if_neg (not_not.mpr hsatisfied)]
        exact ih (((hr.write_event _).write_event _).write_event _) hrest hchanged' _
      · have hnot : ¬ (plan.attempt driver step).Succeeded := by
          rw [hattempt]
          rintro ⟨post, hpost, hstatus⟩
          rw [← Option.some.inj hpost] at hstatus
          exact hsatisfied hstatus
        have hunknown : decide (plan.attempt driver step).Unknown =
            decide ((plan.verificationOf driver step
              (plan.executionOf driver step)).status = .unknown) := by
          rw [hattempt]
          simp [Attempt.Unknown, hknown, hexecuted]
        rw [attempts_of_not_succeeded hnot, TransactionPlan.ending, TransactionPlan.endingStatus,
          failedAttempt_singleton hnot]
        dsimp only
        rw [hunknown]
        rw [hattempt] at happlied hchanged' ⊢
        refine (commitEvent_performs hr (hof rfl rfl)).step fun _ _ ↦ ?_
        refine (called_performs _ _).step fun _ _ ↦ ?_
        refine (commitEvent_performs (hr.write_event _) (hof rfl rfl)).step fun _ _ ↦ ?_
        rw [happlied, if_neg hknown, if_neg (not_not.mpr hexecuted)]
        refine (called_performs _ _).step fun _ _ ↦ ?_
        refine (commitEvent_performs ((hr.write_event _).write_event _) (hof rfl rfl)).step
          fun _ _ ↦ ?_
        rw [if_pos hsatisfied]
        exact compensate_performs (((hr.write_event _).write_event _).write_event _) hchanged' _ _
          (strip_val_ne _) hfailed
    · have hattempt := attempt_of_not_executed hexecuted
      have hnot : ¬ (plan.attempt driver step).Succeeded := by
        rw [hattempt]
        rintro ⟨post, hpost, -⟩
        cases hpost
      rw [attempts_of_not_succeeded hnot]
      rw [hattempt] at happlied hnot hchanged' ⊢
      refine (commitEvent_performs hr (hof rfl rfl)).step fun _ _ ↦ ?_
      refine (called_performs _ _).step fun _ _ ↦ ?_
      refine (commitEvent_performs (hr.write_event _) (hof rfl rfl)).step fun _ _ ↦ ?_
      rw [happlied, TransactionPlan.ending, TransactionPlan.endingStatus,
        failedAttempt_singleton hnot]
      dsimp only
      have hnext := (hr.write_event (plan.executionStarted snapshot step)).write_event
        (plan.executionRecorded snapshot step (plan.executionOf driver step))
      by_cases hchange : (plan.executionOf driver step).changeState = .unknown
      · have hunknown : decide (Attempt.Unknown ⟨step, plan.executionOf driver step, none⟩) = true :=
          decide_eq_true (.inl hchange)
        rw [if_pos hchange, hunknown]
        exact compensate_performs hnext hchanged' _ _ (strip_val_ne _) hfailed
      · have hunknown : decide (Attempt.Unknown ⟨step, plan.executionOf driver step, none⟩) =
            decide ((plan.executionOf driver step).status = .unknown) := by
          simp [Attempt.Unknown, hchange]
        rw [if_neg hchange, if_pos hexecuted, hunknown]
        exact compensate_performs hnext hchanged' _ _ (strip_val_ne _) hfailed

/-- A registered run performs the rest of its story. -/
theorem runRegistered_performs (driver : Driver) (hr : Underway plan r.store) :
    Performs r (runRegistered plan driver) (plan.registeredStory driver)
      (Concluded plan (plan.storyStatus driver)
        (r.perform (plan.registeredStory driver)).store) := by
  unfold runRegistered TransactionPlan.registeredStory TransactionPlan.storyStatus
  rcases driver.contract with _ | className
  · dsimp only
    refine (called_performs _ _).step fun _ _ ↦ ?_
    rcases plan.snapshotOf driver with className | snapshot
    · exact safeFailure_performs (hr.call _) _
    · refine (commitEvent_performs (hr.call _) (eventOf_snapshotEvent snapshot)).step fun _ _ ↦ ?_
      exact runSteps_performs ((hr.call _).write_event _) (fun _ h ↦ h) (by simp) _
  · exact safeFailure_performs hr _

theorem exec_readOperation {op : OperationRecord}
    (hop : getOperation r.store plan.operationId.val = .ok op) :
    exec (durably (reading fun s ↦ getOperation s plan.operationId.val)) r = (.ok op, r) := by
  apply exec_durably_unchanged
  rw [exec_reading, hop]

/-- A ready run performs its story and returns the status the story ends with.
Assumes: the hash writes no blank text. -/
theorem run_performs {rt : Runtime} (driver : Driver) (hsha : ∀ text, sqlNonblank (rt.sha256 text))
    (hreferential : Referential r.store) (hready : Ready plan r.store) :
    Performs r (run rt plan driver) (plan.story driver rt)
      (Concluded plan (plan.storyStatus driver) (r.perform (plan.story driver rt)).store) := by
  obtain ⟨op, hop, hstate⟩ := hready.executing
  have hregister := registerPlan_performs hsha hreferential hready
  have hrun := hregister.step fun _ hunderway ↦ runRegistered_performs driver hunderway
  unfold Performs at hrun ⊢
  rw [run, exec_bind_of_ok (exec_readOperation hop), exec_require_bind, if_pos hstate]
  exact hrun

/-- A run that is not ready raises, and neither calls the driver nor writes. -/
theorem run_refuses (driver : Driver) (rt : Runtime) (hready : ¬ Ready plan r.store) :
    ∃ e, exec (run rt plan driver) r = (.error e, r) := by
  rcases hop : getOperation r.store plan.operationId.val with e | op
  · refine ⟨e, exec_bind_of_error ?_⟩
    apply exec_durably_unchanged
    rw [exec_reading, hop]
  · rw [run, exec_bind_of_ok (exec_readOperation hop), exec_require_bind]
    split_ifs with hstate
    · have hregistered : ¬ ¬ r.store.Registered plan := fun h ↦ hready ⟨⟨op, hop, hstate⟩, h⟩
      have hregister : ∃ e, exec (registerPlan rt plan) r.store = (.error e, r.store) := by
        rw [registerPlan, exec_get_bind, exec_require_bind, if_neg hregistered]
        exact ⟨_, rfl⟩
      obtain ⟨e, hregister⟩ := hregister
      exact ⟨e, exec_bind_of_error (exec_durably_unchanged hregister)⟩
    · exact ⟨_, rfl⟩

end

end N0te.Journal
