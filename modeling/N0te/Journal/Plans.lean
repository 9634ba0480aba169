import N0te.Journal.Store

/-!
# Transaction plans and what a driver reports

A `TransactionPlan` is a non-empty list of steps with distinct ids in which every step depends only
on earlier ones. `TransactionStep.create` and `TransactionPlan.create` are the constructors with
their checks, and the structures carry what they establish, so a plan read back from its rows is the
plan that was stored exactly when the constructors accept it (`TransactionPlan.create_self`).

The values a driver reports are structures of checked texts and statuses in the same way. The code
also refuses a success whose change is unknown, which is a field of `StepExecution`.
-/

set_option autoImplicit false
set_option relaxedAutoImplicit false

namespace N0te.Journal

open Library Governance

/-- A `TransactionError`. -/
def transactionError (message : String) : Raised ErrorClass := ⟨.transactionError, message⟩

/-- `_text`. -/
def transactionText (value field : String) : Checked Text :=
  orRaise (Text.ofString value) (transactionError (field ++ " must not be empty"))

theorem transactionText_val (t : Text) (field : String) :
    transactionText t.val field = .ok t := by
  simp [transactionText]

/-! ### Steps -/

/-- A step of a plan. -/
structure TransactionStep where
  stepId : Text
  description : Text
  /-- The postcondition it is verified against. -/
  postconditionRef : Text
  /-- Whether it can be undone. -/
  compensatable : Bool
  dependsOnStepIds : List Text
  /-- No dependency is listed twice. -/
  dependenciesUnique : dependsOnStepIds.Nodup
  independent : stepId ∉ dependsOnStepIds
  deriving DecidableEq

/-- The constructor of a step, with its checks in their order. -/
def TransactionStep.create (stepId description postconditionRef : String) (compensatable : Bool)
    (dependsOnStepIds : List String) : Checked TransactionStep := do
  let stepId ← transactionText stepId "step.step_id"
  let description ← transactionText description "step.description"
  let postconditionRef ← transactionText postconditionRef "step.postcondition_ref"
  let deps ← checkEach (fun _ value ↦ transactionText value "step.depends_on_step_ids") 0
    dependsOnStepIds
  if hunique : deps.Nodup then
    if hself : stepId ∉ deps then
      return ⟨stepId, description, postconditionRef, compensatable, deps, hunique, hself⟩
    else throw (transactionError "step cannot depend on itself")
  else throw (transactionError "step dependencies must be unique")

theorem checkEach_transactionText (texts : List Text) (n : ℕ) (field : String) :
    checkEach (fun _ value ↦ transactionText value field) n (texts.map Text.val) = .ok texts := by
  induction texts generalizing n with
  | nil => rfl
  | cons t rest ih =>
    simp only [List.map_cons, checkEach, bind_eq_ok, pure_eq_ok, List.cons.injEq]
    exact ⟨t, transactionText_val t field, rest, ih (n + 1), rfl, rfl⟩

/-- A step passes its own checks. -/
theorem TransactionStep.create_self (step : TransactionStep) :
    TransactionStep.create step.stepId.val step.description.val step.postconditionRef.val
      step.compensatable (step.dependsOnStepIds.map Text.val) = .ok step := by
  have hdeps := checkEach_transactionText step.dependsOnStepIds 0 "step.depends_on_step_ids"
  simp only [TransactionStep.create, transactionText_val, bind_eq_ok]
  refine ⟨_, rfl, _, rfl, _, rfl, _, hdeps, ?_⟩
  rw [dif_pos step.dependenciesUnique, dif_pos step.independent]
  rfl

/-! ### Plans -/

/-- Every step depends only on ids seen before it. -/
def DependsBackward : List Text → List TransactionStep → Prop
  | _, [] => True
  | seen, step :: rest =>
    (∀ dep ∈ step.dependsOnStepIds, dep ∈ seen) ∧ DependsBackward (seen ++ [step.stepId]) rest

/-- A plan. -/
structure TransactionPlan where
  transactionId : Text
  /-- The operation it carries out. -/
  operationId : Text
  steps : List TransactionStep
  nonempty : steps ≠ []
  /-- Step ids are distinct. -/
  stepIds : (steps.map TransactionStep.stepId).Nodup
  /-- Dependencies point backward. -/
  backward : DependsBackward [] steps

/-- The loop over the dependencies of a plan. -/
def checkDependencies : List Text → List TransactionStep → Checked Unit
  | _, [] => .ok ()
  | seen, step :: rest => do
    let missing := step.dependsOnStepIds.filter (· ∉ seen)
    require (missing = []) (transactionError ("step " ++ step.stepId.val ++
      " has unknown or forward dependencies: " ++ reprList (missing.map Text.val)))
    checkDependencies (seen ++ [step.stepId]) rest

theorem checkDependencies_eq_ok {seen : List Text} {steps : List TransactionStep} :
    checkDependencies seen steps = .ok () ↔ DependsBackward seen steps := by
  induction steps generalizing seen with
  | nil => simp [checkDependencies, DependsBackward]
  | cons step rest ih =>
    simp only [checkDependencies, bind_eq_ok, require_eq_ok, exists_const, ih, DependsBackward]
    simp

/-- The constructor of a plan, with its checks in their order. -/
def TransactionPlan.create (transactionId operationId : String) (steps : List TransactionStep) :
    Checked TransactionPlan := do
  let transactionId ← transactionText transactionId "plan.transaction_id"
  let operationId ← transactionText operationId "plan.operation_id"
  if hnonempty : steps ≠ [] then
    if hids : (steps.map TransactionStep.stepId).Nodup then
      match hback : checkDependencies [] steps with
      | .error e => throw e
      | .ok () =>
        return ⟨transactionId, operationId, steps, hnonempty, hids,
          checkDependencies_eq_ok.mp hback⟩
    else throw (transactionError "transaction step IDs must be unique")
  else throw (transactionError "transaction plan requires at least one step")

/-- A plan passes its own checks. -/
theorem TransactionPlan.create_self (plan : TransactionPlan) :
    TransactionPlan.create plan.transactionId.val plan.operationId.val plan.steps = .ok plan := by
  have hback := checkDependencies_eq_ok.mpr plan.backward
  simp only [TransactionPlan.create, transactionText_val, bind_eq_ok]
  refine ⟨_, rfl, _, rfl, ?_⟩
  rw [dif_pos plan.nonempty, dif_pos plan.stepIds]
  split
  · simp_all
  · rfl

/-- A step as it enters the fingerprint of its plan. -/
def TransactionStep.payload (step : TransactionStep) : Json := .obj [
  ("step_id", .str step.stepId.val),
  ("description", .str step.description.val),
  ("postcondition_ref", .str step.postconditionRef.val),
  ("compensatable", .bool step.compensatable),
  ("depends_on_step_ids", .arr (step.dependsOnStepIds.map fun dep ↦ .str dep.val))]

/-- `plan_fingerprint`. -/
def TransactionPlan.planFingerprint (rt : Runtime) (plan : TransactionPlan) : String :=
  rt.sha256 (Json.dumpsAscii (.obj [
    ("transaction_id", .str plan.transactionId.val),
    ("operation_id", .str plan.operationId.val),
    ("steps", .arr (plan.steps.map TransactionStep.payload))]))

/-! ### What a driver reports -/

/-- How the execution of a step ended. -/
inductive StepExecutionStatus where
  | succeeded
  | failed
  | unknown
  deriving DecidableEq

def StepExecutionStatus.name : StepExecutionStatus → String
  | succeeded => "SUCCEEDED"
  | failed => "FAILED"
  | unknown => "UNKNOWN"

theorem StepExecutionStatus.name_eq_unknown {status : StepExecutionStatus} :
    status.name = "UNKNOWN" ↔ status = .unknown := by cases status <;> decide

/-- Whether a step changed anything. -/
inductive ChangeState where
  | applied
  | notApplied
  | unknown
  deriving DecidableEq

def ChangeState.name : ChangeState → String
  | applied => "APPLIED"
  | notApplied => "NOT_APPLIED"
  | unknown => "UNKNOWN"

theorem ChangeState.name_inj {a b : ChangeState} : a.name = b.name ↔ a = b := by
  cases a <;> cases b <;> decide

/-- Whether a postcondition holds. -/
inductive PostconditionStatus where
  | satisfied
  | failed
  | unknown
  deriving DecidableEq

def PostconditionStatus.name : PostconditionStatus → String
  | satisfied => "SATISFIED"
  | failed => "FAILED"
  | unknown => "UNKNOWN"

theorem PostconditionStatus.name_eq_satisfied {status : PostconditionStatus} :
    status.name = "SATISFIED" ↔ status = .satisfied := by cases status <;> decide

theorem PostconditionStatus.name_eq_unknown {status : PostconditionStatus} :
    status.name = "UNKNOWN" ↔ status = .unknown := by cases status <;> decide

/-- How a compensation ended. -/
inductive CompensationStatus where
  | restored
  | failed
  | unknown
  deriving DecidableEq

def CompensationStatus.name : CompensationStatus → String
  | restored => "RESTORED"
  | failed => "FAILED"
  | unknown => "UNKNOWN"

/-- The state a transaction can be taken back to. -/
structure TransactionSnapshot where
  transactionId : Text
  operationId : Text
  snapshotRef : Text
  snapshotFingerprint : Text
  evidenceRef : Text

/-- The report on an execution. -/
structure StepExecution where
  stepId : Text
  status : StepExecutionStatus
  changeState : ChangeState
  evidenceRef : Text
  resultFingerprint : Option Text
  /-- A success knows whether it changed anything. -/
  known : status = .succeeded → changeState ≠ .unknown

/-- The report on a postcondition. -/
structure PostconditionResult where
  stepId : Text
  postconditionRef : Text
  status : PostconditionStatus
  evidenceRef : Text

/-- The report on a compensation. -/
structure CompensationResult where
  stepId : Text
  /-- The snapshot it went back to. -/
  snapshotRef : Text
  status : CompensationStatus
  evidenceRef : Text

/-- The receipt of a transaction. -/
structure TransactionReceipt where
  transactionId : Text
  operationId : Text
  snapshotRef : Text
  receiptRef : Text
  evidenceRef : Text
  resultFingerprint : Text

/-- What a call of a driver method comes to. -/
inductive Reply (α : Type) where
  /-- It returned a value of the declared type. -/
  | returned (value : α)
  /-- It returned something else. -/
  | foreign
  /-- It raised an exception of a class with this name. -/
  | raised (className : String)

/-- A driver: what each of its methods comes to on each argument. A run calls a method at most once
on an argument, so a driver that keeps state of its own behaves like one of these in any one run. -/
structure Driver where
  /-- The class of the exception that looking up the methods raises, if it raises. -/
  contract : Option String
  /-- `prepare_snapshot`. -/
  prepareSnapshot : TransactionPlan → Reply TransactionSnapshot
  /-- `execute_step`. -/
  executeStep : TransactionStep → Reply StepExecution
  /-- `verify_postcondition`. -/
  verifyPostcondition : TransactionStep → StepExecution → Reply PostconditionResult
  /-- `compensate_step`. -/
  compensateStep : TransactionStep → TransactionSnapshot → Reply CompensationResult
  /-- `success_receipt`. -/
  successReceipt : TransactionPlan → TransactionSnapshot → Reply TransactionReceipt

end N0te.Journal
