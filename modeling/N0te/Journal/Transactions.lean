import N0te.Journal.Operations
import N0te.Journal.Plans

/-!
# The transaction coordinator

`TransactionCoordinator.run` executes the steps of a plan in order, verifies each, and undoes what
was applied when one does not succeed. Before and after every call of the driver it commits an event,
so that the history tells which step was attempted whatever happens next. `run` is written over a
`Run`: the store, and a trace of the driver calls and the durable writes in their order. The trace is
read by theorems only.

`validateTransactions` is what opening the store again checks, and `history` is the report on one
transaction.
-/

set_option autoImplicit false
set_option relaxedAutoImplicit false

namespace N0te.Journal

open Library Governance

/-! ### Rows -/

/-- `_append_event`: insert a row into `transaction_events`. -/
def appendEvent (event : TransactionEvent) : StoreProgram PUnit := do
  let evidence ← fromExcept (transactionText event.evidenceRef "event.evidence_ref")
  let s ← get
  fromExcept (require (sqlNonblank evidence.val) (integrityError
    "CHECK constraint failed: length(trim(evidence_ref)) > 0"))
  fromExcept (require ((∃ row ∈ s.transactions, row.id = event.transactionId) ∧
      ∀ stepId ∈ event.stepId, ∃ row ∈ s.transactionSteps,
        row.transactionId = event.transactionId ∧ row.stepId = stepId)
    (integrityError "FOREIGN KEY constraint failed"))
  set { s with transactionEvents :=
          s.transactionEvents ++ [{ event with evidenceRef := evidence.val }] }

/-- Insert a row into `transactions`. -/
def insertTransaction (row : TransactionRow) : StoreProgram PUnit := do
  let s ← get
  fromExcept (require (∀ other ∈ s.transactions, other.id ≠ row.id ∧
      other.operationId ≠ row.operationId)
    (integrityError "UNIQUE constraint failed: transactions"))
  fromExcept (require (sqlNonblank row.planFingerprint)
    (integrityError "CHECK constraint failed: length(trim(plan_fingerprint)) > 0"))
  fromExcept (require (∃ operation ∈ s.operations, operation.id = row.operationId)
    (integrityError "FOREIGN KEY constraint failed"))
  set { s with transactions := s.transactions ++ [row] }

/-- Insert a row into `transaction_steps`. -/
def insertStep (row : TransactionStepRow) : StoreProgram PUnit := do
  let s ← get
  fromExcept (require (sqlNonblank row.stepId ∧ sqlNonblank row.description ∧
      sqlNonblank row.postconditionRef) (integrityError "CHECK constraint failed"))
  fromExcept (require (∀ other ∈ s.transactionSteps, other.transactionId = row.transactionId →
      other.ordinal ≠ row.ordinal ∧ other.stepId ≠ row.stepId)
    (integrityError "UNIQUE constraint failed: transaction_steps"))
  fromExcept (require (∃ transaction ∈ s.transactions, transaction.id = row.transactionId)
    (integrityError "FOREIGN KEY constraint failed"))
  set { s with transactionSteps := s.transactionSteps ++ [row] }

namespace TransactionPlan

variable (plan : TransactionPlan)

/-- The row of a plan. -/
def row (rt : Runtime) : TransactionRow :=
  ⟨plan.transactionId.val, plan.operationId.val, plan.planFingerprint rt⟩

/-- The row of a step at a position. -/
def stepRow (ordinal : ℕ) (step : TransactionStep) : TransactionStepRow where
  transactionId := plan.transactionId.val
  ordinal := ordinal
  stepId := step.stepId.val
  description := step.description.val
  postconditionRef := step.postconditionRef.val
  compensatable := step.compensatable
  dependencies := step.dependsOnStepIds.map Text.val

/-- A reference the coordinator makes up itself. -/
def ref (rest : String) : String := "transaction:" ++ plan.transactionId.val ++ ":" ++ rest

/-- `_exception_ref`. -/
def exceptionRef (phase : String) (stepId : Option Text) (className : String) : String :=
  plan.ref (phase ++ ":" ++ (stepId.elim "none" Text.val) ++ ":exception:" ++ className)

/-- An event that is not about a step. -/
def event (eventType : TransactionEventType) (evidenceRef : String) : TransactionEvent where
  transactionId := plan.transactionId.val
  stepId := none
  eventType := eventType
  status := none
  changeState := none
  snapshotRef := none
  snapshotFingerprint := none
  evidenceRef := evidenceRef
  receiptRef := none
  resultFingerprint := none

end TransactionPlan

/-- Insert the rows of steps from a position on. -/
def insertSteps (plan : TransactionPlan) : ℕ → List TransactionStep → StoreProgram PUnit
  | _, [] => pure ⟨⟩
  | ordinal, step :: rest => do
    insertStep (plan.stepRow ordinal step)
    insertSteps plan (ordinal + 1) rest

/-- A transaction or its operation is in the store. -/
def Store.Registered (s : Store) (plan : TransactionPlan) : Prop :=
  ∃ row ∈ s.transactions, row.id = plan.transactionId.val ∨ row.operationId = plan.operationId.val

instance (s : Store) (plan : TransactionPlan) : Decidable (s.Registered plan) :=
  inferInstanceAs (Decidable (∃ _ ∈ _, _))

def registrationEvent (rt : Runtime) (plan : TransactionPlan) : TransactionEvent :=
  plan.event .planRegistered (plan.ref ("plan:" ++ plan.planFingerprint rt))

/-- `_register_plan`. -/
def registerPlan (rt : Runtime) (plan : TransactionPlan) : StoreProgram PUnit := do
  let s ← get
  fromExcept (require (¬ s.Registered plan) (transactionError
    ("transaction or operation is already registered; inspect recovery state instead of " ++
      "rerunning")))
  atomic do
    insertTransaction (plan.row rt)
    insertSteps plan 0 plan.steps
    appendEvent (registrationEvent rt plan)

/-! ### Runs -/

/-- The calls of a driver. -/
inductive DriverCall where
  | prepareSnapshot (plan : TransactionPlan)
  | executeStep (step : TransactionStep)
  | verifyPostcondition (step : TransactionStep) (execution : StepExecution)
  | compensateStep (step : TransactionStep) (snapshot : TransactionSnapshot)
  | successReceipt (plan : TransactionPlan) (snapshot : TransactionSnapshot)

/-- The rows one committed transaction adds. -/
structure Write where
  /-- Rows of `operation_events`. -/
  operationEvents : List OperationEvent
  /-- Rows of `transactions`. -/
  transactions : List TransactionRow
  /-- Rows of `transaction_steps`. -/
  transactionSteps : List TransactionStepRow
  /-- Rows of `transaction_events`. -/
  transactionEvents : List TransactionEvent

/-- What happens in a run. -/
inductive Entry where
  /-- The driver is called. -/
  | call (driverCall : DriverCall)
  /-- A transaction commits. -/
  | wrote (write : Write)

/-- The store, and what happened in the run so far. -/
structure Run where
  store : Store
  /-- The driver calls and durable writes, in order. -/
  trace : List Entry

/-- A program of the coordinator. -/
abbrev RunProgram (α : Type) := Raising Run (Raised ErrorClass) α

/-- The rows that one store has after those of another. -/
def Store.added (s t : Store) : Write where
  operationEvents := t.operationEvents.drop s.operationEvents.length
  transactions := t.transactions.drop s.transactions.length
  transactionSteps := t.transactionSteps.drop s.transactionSteps.length
  transactionEvents := t.transactionEvents.drop s.transactionEvents.length

/-- Run a program on the store. What it changed is a durable write. -/
def durably {α : Type} (p : StoreProgram α) : RunProgram α := ExceptT.mk fun r ↦
  let outcome := exec p r.store
  let written := if outcome.2 = r.store then [] else [.wrote (r.store.added outcome.2)]
  (outcome.1, ⟨outcome.2, r.trace ++ written⟩)

/-- Note a call of the driver. -/
def called (driverCall : DriverCall) : RunProgram PUnit :=
  modify fun r ↦ { r with trace := r.trace ++ [.call driverCall] }

def commitEvent (event : TransactionEvent) : RunProgram PUnit := durably (atomic (appendEvent event))

/-! ### Calling the driver -/

/-- A reply as the handlers of `run` see it: a value that identifies itself, or the name of the
class of the exception that was caught. -/
def observe {α : Type} (reply : Reply α) (identifies : α → Prop) [DecidablePred identifies] :
    Except String α :=
  match reply with
  | .returned value => if identifies value then .ok value else .error "TransactionError"
  | .foreign => .error "TypeError"
  | .raised className => .error className

namespace TransactionPlan

variable (plan : TransactionPlan)

/-- A reference the coordinator makes up is not blank. -/
theorem sqlNonblank_ref (rest : String) : sqlNonblank (strip (plan.ref rest)) = true := by
  have hhead : ∃ l, (plan.ref rest).toList = 't' :: l := by
    refine ⟨"ransaction:".toList ++ (plan.transactionId.val ++ ":" ++ rest).toList, ?_⟩
    simp [ref]
  obtain ⟨l, hl⟩ := hhead
  exact sqlNonblank_strip hl (by decide) (by decide)

/-- `_exception_ref` as the text a report takes. -/
def exceptionText (phase : String) (stepId : Option Text) (className : String) : Text :=
  ⟨strip (plan.exceptionRef phase stepId className), strip_strip _,
    ne_empty_of_sqlNonblank (plan.sqlNonblank_ref _)⟩

variable (driver : Driver) (snapshot : TransactionSnapshot) (step : TransactionStep)

/-- The execution that is recorded: an exception makes it unknown. -/
def executionOf : StepExecution :=
  match observe (driver.executeStep step) fun execution ↦ execution.stepId = step.stepId with
  | .ok execution => execution
  | .error className =>
    ⟨step.stepId, .unknown, .unknown, plan.exceptionText "execute" step.stepId className, none,
      fun h ↦ nomatch h⟩

/-- The verification that is recorded: an exception makes it unknown. -/
def verificationOf (execution : StepExecution) : PostconditionResult :=
  match observe (driver.verifyPostcondition step execution) fun post ↦
      post.stepId = step.stepId ∧ post.postconditionRef = step.postconditionRef with
  | .ok post => post
  | .error className =>
    ⟨step.stepId, step.postconditionRef, .unknown,
      plan.exceptionText "verify" step.stepId className⟩

/-- The compensation that is recorded: an exception makes it unknown. -/
def compensationOf : CompensationResult :=
  match observe (driver.compensateStep step snapshot) fun result ↦
      result.stepId = step.stepId ∧ result.snapshotRef = snapshot.snapshotRef with
  | .ok result => result
  | .error className =>
    ⟨step.stepId, snapshot.snapshotRef, .unknown,
      plan.exceptionText "compensate" step.stepId className⟩

/-- The recovery snapshot, or the name of the class of the exception that stood in its place. -/
def snapshotOf : Except String TransactionSnapshot :=
  observe (driver.prepareSnapshot plan) fun snapshot ↦
    snapshot.transactionId = plan.transactionId ∧ snapshot.operationId = plan.operationId

/-- The receipt, or the name of the class of the exception that stood in its place. -/
def receiptOf : Except String TransactionReceipt :=
  observe (driver.successReceipt plan snapshot) fun receipt ↦
    receipt.transactionId = plan.transactionId ∧ receipt.operationId = plan.operationId ∧
      receipt.snapshotRef = snapshot.snapshotRef

/-! ### Events -/

/-- An event about a step. -/
def stepEvent (eventType : TransactionEventType) (evidenceRef : String) : TransactionEvent :=
  { plan.event eventType evidenceRef with
    stepId := step.stepId.val
    snapshotRef := snapshot.snapshotRef.val }

/-- `SNAPSHOT_CAPTURED`. -/
def snapshotEvent : TransactionEvent :=
  { plan.event .snapshotCaptured snapshot.evidenceRef.val with
    snapshotRef := snapshot.snapshotRef.val
    snapshotFingerprint := snapshot.snapshotFingerprint.val }

/-- `STEP_EXECUTION_STARTED`. -/
def executionStarted : TransactionEvent :=
  plan.stepEvent snapshot step .stepExecutionStarted
    (plan.ref ("execution-started:" ++ step.stepId.val))

/-- `STEP_EXECUTION_RECORDED`. -/
def executionRecorded (execution : StepExecution) : TransactionEvent :=
  { plan.stepEvent snapshot step .stepExecutionRecorded execution.evidenceRef.val with
    status := execution.status.name
    changeState := execution.changeState.name
    resultFingerprint := execution.resultFingerprint.map Text.val }

/-- `POSTCONDITION_RECORDED`. -/
def postconditionRecorded (post : PostconditionResult) : TransactionEvent :=
  { plan.stepEvent snapshot step .postconditionRecorded post.evidenceRef.val with
    status := post.status.name }

/-- `COMPENSATION_STARTED`. -/
def compensationStarted : TransactionEvent :=
  plan.stepEvent snapshot step .compensationStarted
    (plan.ref ("compensation-started:" ++ step.stepId.val))

/-- `COMPENSATION_RECORDED`. -/
def compensationRecorded (result : CompensationResult) : TransactionEvent :=
  { plan.stepEvent snapshot step .compensationRecorded result.evidenceRef.val with
    status := result.status.name
    snapshotRef := result.snapshotRef.val }

/-- `RECOVERY_REQUIRED`. -/
def recoveryEvent (failedStepId : Option String) (evidenceRef : String) : TransactionEvent :=
  { plan.event .recoveryRequired evidenceRef with
    stepId := failedStepId
    snapshotRef := snapshot.snapshotRef.val }

end TransactionPlan

/-! ### Results -/

/-- How a transaction ended. -/
inductive TransactionStatus where
  | complete
  | compensated
  | recoveryRequired
  deriving DecidableEq

/-- The result of a transaction. -/
structure TransactionResult where
  status : TransactionStatus
  transactionId : String
  operationId : String
  /-- The recovery snapshot, if one was taken. -/
  snapshotRef : Option String
  /-- The steps that changed something. -/
  executedStepIds : List String
  compensatedStepIds : List String
  /-- The step that did not succeed. -/
  failedStepId : Option String
  evidenceRefs : List String
  operation : OperationRecord

/-! ### Compensation -/

section

variable (plan : TransactionPlan) (driver : Driver) (snapshot : TransactionSnapshot)

/-- `_safe_failure`. -/
def safeFailure (evidenceRef : String) : RunProgram TransactionResult := do
  commitEvent (plan.event .safeFailure evidenceRef)
  let operation ← durably (completeFailure plan.operationId.val evidenceRef none none)
  return ⟨.compensated, plan.transactionId.val, plan.operationId.val, none, [], [], none,
    [evidenceRef], operation⟩

/-- The variables of the loop over the steps to undo. -/
structure CompensationPass where
  /-- The evidence so far. -/
  evidence : List String
  /-- The steps restored so far. -/
  restored : List String
  /-- Why recovery is required. -/
  recoveryEvidenceRef : Option String
  recoveryRequired : Bool

/-- The loop over the steps to undo. -/
def compensateSteps : List TransactionStep → CompensationPass → RunProgram CompensationPass
  | [], pass => pure pass
  | step :: rest, pass =>
    if step.compensatable then do
      commitEvent (plan.compensationStarted snapshot step)
      called (.compensateStep step snapshot)
      let result := plan.compensationOf driver snapshot step
      commitEvent (plan.compensationRecorded snapshot step result)
      compensateSteps rest <|
        if result.status = .restored then
          { pass with
            evidence := pass.evidence ++ [result.evidenceRef.val]
            restored := pass.restored ++ [step.stepId.val] }
        else
          { pass with
            evidence := pass.evidence ++ [result.evidenceRef.val]
            recoveryEvidenceRef := some result.evidenceRef.val
            recoveryRequired := true }
    else
      let ref := plan.ref ("noncompensatable:" ++ step.stepId.val)
      compensateSteps rest
        { pass with
          evidence := pass.evidence ++ [ref]
          recoveryEvidenceRef := some ref
          recoveryRequired := true }

/-- `recovery_evidence_ref or root_failure_ref`. -/
def recoveryRef (recoveryEvidenceRef : Option String) (rootFailureRef : String) : String :=
  (recoveryEvidenceRef.filter (· != "")).getD rootFailureRef

/-- The end of `_compensate`. -/
def concludeCompensation (changed : List TransactionStep) (failedStepId : Option String)
    (rootFailureRef : String) (pass : CompensationPass) : RunProgram TransactionResult :=
  if pass.recoveryRequired then do
    let evidenceRef := recoveryRef pass.recoveryEvidenceRef rootFailureRef
    commitEvent (plan.recoveryEvent snapshot failedStepId evidenceRef)
    let operation ← durably (markUnknown plan.operationId.val evidenceRef none)
    return ⟨.recoveryRequired, plan.transactionId.val, plan.operationId.val,
      snapshot.snapshotRef.val, changed.map fun step ↦ step.stepId.val, pass.restored, failedStepId,
      pass.evidence, operation⟩
  else do
    let operation ← durably (completeFailure plan.operationId.val rootFailureRef none
      (some ("compensated:" ++ snapshot.snapshotFingerprint.val)))
    return ⟨.compensated, plan.transactionId.val, plan.operationId.val, snapshot.snapshotRef.val,
      changed.map fun step ↦ step.stepId.val, pass.restored, failedStepId, pass.evidence, operation⟩

/-- `_compensate`. The evidence is never empty: it starts with the snapshot's. -/
def compensate (changed : List TransactionStep) (evidence : List String) (rootUnknown : Bool)
    (failedStepId : Option String) : RunProgram TransactionResult := do
  let rootFailureRef := evidence.getLastD ""
  let pass ← compensateSteps plan driver snapshot changed.reverse
    ⟨evidence, [], if rootUnknown then some rootFailureRef else none, rootUnknown⟩
  concludeCompensation plan snapshot changed failedStepId rootFailureRef pass

/-! ### Running a plan -/

/-- The end of `run` when every step succeeded. -/
def concludeSteps (changed : List TransactionStep) (evidence : List String) :
    RunProgram TransactionResult := do
  called (.successReceipt plan snapshot)
  match plan.receiptOf driver snapshot with
  | .error className =>
    compensate plan driver snapshot changed
      (evidence ++ [plan.exceptionRef "receipt" none className]) true none
  | .ok receipt => do
    let operation ← durably (completeSuccess plan.operationId.val receipt.receiptRef.val
      receipt.evidenceRef.val receipt.resultFingerprint.val)
    return ⟨.complete, plan.transactionId.val, plan.operationId.val, snapshot.snapshotRef.val,
      changed.map fun step ↦ step.stepId.val, [], none, evidence ++ [receipt.evidenceRef.val],
      operation⟩

/-- The loop over the steps of a plan. -/
def runSteps : List TransactionStep → List TransactionStep → List String →
    RunProgram TransactionResult
  | [], changed, evidence => concludeSteps plan driver snapshot changed evidence
  | step :: rest, changed, evidence => do
    commitEvent (plan.executionStarted snapshot step)
    called (.executeStep step)
    let execution := plan.executionOf driver step
    let evidence := evidence ++ [execution.evidenceRef.val]
    commitEvent (plan.executionRecorded snapshot step execution)
    let changed := if execution.changeState = .applied then changed ++ [step] else changed
    if execution.changeState = .unknown then
      compensate plan driver snapshot changed evidence true (some step.stepId.val)
    else if execution.status ≠ .succeeded then
      compensate plan driver snapshot changed evidence (execution.status = .unknown)
        (some step.stepId.val)
    else do
      called (.verifyPostcondition step execution)
      let post := plan.verificationOf driver step execution
      let evidence := evidence ++ [post.evidenceRef.val]
      commitEvent (plan.postconditionRecorded snapshot step post)
      if post.status ≠ .satisfied then
        compensate plan driver snapshot changed evidence (post.status = .unknown)
          (some step.stepId.val)
      else runSteps rest changed evidence

/-- `run` from the registration of the plan on. -/
def runRegistered : RunProgram TransactionResult :=
  match driver.contract with
  | some className => safeFailure plan (plan.exceptionRef "driver-contract" none className)
  | none => do
    called (.prepareSnapshot plan)
    match plan.snapshotOf driver with
    | .error className => safeFailure plan (plan.exceptionRef "snapshot" none className)
    | .ok snapshot => do
      commitEvent (plan.snapshotEvent snapshot)
      runSteps plan driver snapshot plan.steps [] [snapshot.evidenceRef.val]

end

/-- `run`. The plan is registered whether or not the driver has its methods. -/
def run (rt : Runtime) (plan : TransactionPlan) (driver : Driver) :
    RunProgram TransactionResult := do
  let operation ← durably (reading fun s ↦ getOperation s plan.operationId.val)
  fromExcept (require (operation.recordedState = .executing) (transactionError
    ("transaction requires already-claimed EXECUTING operation, got " ++
      operation.recordedState.name)))
  durably (registerPlan rt plan)
  runRegistered plan driver

/-! ### Opening the store again -/

/-- `_steps`: the steps of a transaction, read back from their rows. -/
def readSteps (s : Store) (transactionId : String) : Checked (List TransactionStep) :=
  checkEach (fun _ row ↦ TransactionStep.create row.stepId row.description row.postconditionRef
      row.compensatable row.dependencies) 0
    ((s.transactionSteps.filter fun row ↦ row.transactionId == transactionId).mergeSort
      fun a b ↦ a.ordinal ≤ b.ordinal)

/-- The variables of the loop over the events of a transaction. -/
structure Scan where
  /-- Executions started and not recorded. -/
  executionBalance : String → ℤ
  /-- Compensations started and not recorded. -/
  compensationBalance : String → ℤ
  /-- The position of the last step started. -/
  lastExecutionOrdinal : ℤ
  /-- Whether the snapshot was captured. -/
  snapshotSeen : Bool

/-- Nothing was seen yet. -/
def Scan.initial : Scan := ⟨fun _ ↦ 0, fun _ ↦ 0, -1, false⟩

/-- The id of the step an event is about. -/
def eventStep (event : TransactionEvent) (message : String) : Checked String :=
  orRaise event.stepId (corruption message)

/-- The loop body over the events of a transaction: the shape of one event, and what it may follow. -/
def scanEvent (stepIds : List String) (scan : Scan) (event : TransactionEvent) : Checked Scan := do
  require (∀ stepId ∈ event.stepId, stepId ∈ stepIds)
    (corruption "transaction event references an unknown step")
  match event.eventType with
  | .planRegistered => do
    require (event.stepId = none ∧ event.status = none ∧ event.changeState = none)
      (corruption "PLAN_REGISTERED event shape is invalid")
    return scan
  | .snapshotCaptured => do
    require (scan.snapshotSeen = false ∧ event.stepId = none ∧ present event.snapshotRef ∧
        present event.snapshotFingerprint)
      (corruption "SNAPSHOT_CAPTURED event shape is invalid")
    return { scan with snapshotSeen := true }
  | .safeFailure => do
    require (event.stepId = none ∧ scan.snapshotSeen = false)
      (corruption "SAFE_FAILURE must occur before snapshot/mutation")
    return scan
  | .stepExecutionStarted => do
    let stepId ← eventStep event "STEP_EXECUTION_STARTED event shape is invalid"
    require (scan.snapshotSeen = true ∧ present event.snapshotRef)
      (corruption "STEP_EXECUTION_STARTED event shape is invalid")
    let ordinal : ℤ := stepIds.idxOf stepId
    require (scan.lastExecutionOrdinal ≤ ordinal) (corruption "forward execution order regressed")
    let balance := scan.executionBalance stepId + 1
    require (balance = 1) (corruption "transaction step execution started more than once")
    return { scan with
      executionBalance := Function.update scan.executionBalance stepId balance
      lastExecutionOrdinal := ordinal }
  | .stepExecutionRecorded => do
    let stepId ← eventStep event "STEP_EXECUTION_RECORDED event shape is invalid"
    require (event.status ∈ ["SUCCEEDED", "FAILED", "UNKNOWN"].map some ∧
        event.changeState ∈ ["APPLIED", "NOT_APPLIED", "UNKNOWN"].map some)
      (corruption "STEP_EXECUTION_RECORDED event shape is invalid")
    let balance := scan.executionBalance stepId - 1
    require (balance = 0) (corruption "step execution recorded without exactly one start")
    return { scan with executionBalance := Function.update scan.executionBalance stepId balance }
  | .postconditionRecorded => do
    let stepId ← eventStep event "POSTCONDITION_RECORDED event shape is invalid"
    require (event.status ∈ ["SATISFIED", "FAILED", "UNKNOWN"].map some ∧ event.changeState = none)
      (corruption "POSTCONDITION_RECORDED event shape is invalid")
    require (scan.executionBalance stepId = 0)
      (corruption "postcondition recorded before execution result")
    return scan
  | .compensationStarted => do
    let stepId ← eventStep event "COMPENSATION_STARTED event shape is invalid"
    require (present event.snapshotRef) (corruption "COMPENSATION_STARTED event shape is invalid")
    let balance := scan.compensationBalance stepId + 1
    require (balance = 1) (corruption "compensation started more than once for a step")
    return { scan with
      compensationBalance := Function.update scan.compensationBalance stepId balance }
  | .compensationRecorded => do
    let stepId ← eventStep event "COMPENSATION_RECORDED event shape is invalid"
    require (event.status ∈ ["RESTORED", "FAILED", "UNKNOWN"].map some ∧ present event.snapshotRef)
      (corruption "COMPENSATION_RECORDED event shape is invalid")
    let balance := scan.compensationBalance stepId - 1
    require (balance = 0) (corruption "compensation recorded without exactly one start")
    return { scan with
      compensationBalance := Function.update scan.compensationBalance stepId balance }
  | .recoveryRequired => do
    require (present event.snapshotRef)
      (corruption "RECOVERY_REQUIRED requires snapshot reference")
    return scan

/-- The checks on the history of one transaction. -/
def validateEvents (stepIds : List String) (events : List TransactionEvent) : Checked Unit := do
  require (events.head?.any fun event ↦ event.eventType = .planRegistered)
    (corruption "transaction history must begin with PLAN_REGISTERED")
  require (events.countP (fun event ↦ event.eventType = .planRegistered) = 1)
    (corruption "transaction history must contain one PLAN_REGISTERED event")
  let _ ← events.foldlM (scanEvent stepIds) .initial
  return ()

/-- The exceptions of the checks that are not corruption errors are turned into one. -/
def asCorruption {α : Type} (r : Checked α) : Checked α :=
  match r with
  | .ok a => .ok a
  | .error e =>
    if e.cls = .lineageCorruptionError then .error e
    else .error (corruption "transaction journal is unreadable or corrupt")

def validateTransaction (rt : Runtime) (s : Store) (row : TransactionRow) : Checked Unit := do
  let steps ← readSteps s row.id
  require (steps ≠ []) (corruption "transaction plan unexpectedly has no steps")
  let plan ← TransactionPlan.create row.id row.operationId steps
  require (plan.planFingerprint rt = row.planFingerprint)
    (corruption "transaction plan fingerprint mismatch")
  validateEvents (steps.map fun step ↦ step.stepId.val) (s.transactionEventsOf row.id)

/-- `TransactionCoordinator._validate_existing`. -/
def validateTransactions (rt : Runtime) (s : Store) : Checked Unit := asCorruption do
  require (∀ row ∈ s.transactions, ∃ operation ∈ s.operations, operation.id = row.operationId)
    (corruption "transaction references a missing operation")
  let _ ← checkEach (fun _ ↦ validateTransaction rt s) 0
    (s.transactions.mergeSort fun a b ↦ a.id ≤ b.id)
  return ()

/-! ### Reports -/

/-- The loop of `_unresolved` for one step: what was started less what was recorded. -/
def unresolvedCount (started recorded : TransactionEventType) (stepId : String)
    (events : List TransactionEvent) : ℤ :=
  events.foldl (fun count event ↦
    if event.stepId = some stepId then
      if event.eventType = started then count + 1
      else if event.eventType = recorded then count - 1
      else count
    else count) 0

/-- `_unresolved`. -/
def unresolved (events : List TransactionEvent) (started recorded : TransactionEventType) :
    List String :=
  ((events.filterMap TransactionEvent.stepId).dedup.filter fun stepId ↦
    0 < unresolvedCount started recorded stepId events).mergeSort (· ≤ ·)

/-- The report on one transaction. -/
structure TransactionHistory where
  transactionId : String
  operationId : String
  planFingerprint : String
  steps : List TransactionStep
  events : List TransactionEvent
  operation : OperationRecord
  /-- The steps whose execution started and was not recorded. -/
  unresolvedExecutionStepIds : List String
  /-- The steps whose compensation started and was not recorded. -/
  unresolvedCompensationStepIds : List String
  /-- Whether somebody has to look at it. -/
  requiresRecoveryReview : Bool

/-- `history`. -/
def history (s : Store) (transactionId : String) : Checked TransactionHistory := do
  let transactionId ← transactionText transactionId "transaction_id"
  let row ← orRaise (s.transactions.find? fun row ↦ row.id == transactionId.val)
    (transactionError ("transaction not found: " ++ transactionId.val))
  let steps ← readSteps s transactionId.val
  let events := s.transactionEventsOf transactionId.val
  let operation ← getOperation s row.operationId
  return {
    transactionId := transactionId.val
    operationId := row.operationId
    planFingerprint := row.planFingerprint
    steps := steps
    events := events
    operation := operation
    unresolvedExecutionStepIds := unresolved events .stepExecutionStarted .stepExecutionRecorded
    unresolvedCompensationStepIds := unresolved events .compensationStarted .compensationRecorded
    requiresRecoveryReview := operation.recordedState = .executing ∨
      operation.recordedState = .unknown ∧ operation.reconciled = false }

end N0te.Journal
