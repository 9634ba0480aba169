import N0te.Journal.Transactions
import N0te.Library.JsonAscii
import N0te.Musical.MusicalPlan

/-!
# Musical transactions

`MusicalTransactionService` takes a plan and its compilation to the journals. `prepare` derives the
intent, checks its approval, prepares and claims an operation for the active song, and returns a
witness of what was claimed. `run` derives the intent again, compares everything with the witness, and
hands the compiled actions to the transaction coordinator through `SongTransactionService`, which
compares the operation, the active song and its current version with what was bound.

The scene, the active song and the observed workspaces, is what it is when a call is made.

Scope. `isinstance` checks are the types of the arguments. That the metadata of the active song is
there and names a song is an invariant of the song lineage.
-/

set_option autoImplicit false
set_option relaxedAutoImplicit false

namespace N0te.Musical

open Library Governance Journal

/-- A program over the store. -/
abbrev MusicalProgram (α : Type) := Raising Store (Raised ErrorClass) α

/-- A program over a run of the coordinator. -/
abbrev MusicalRun (α : Type) := Raising Run (Raised ErrorClass) α

/-- A result of the journals, as it passes through. -/
def asJournal {α : Type} (r : Journal.Checked α) : Checked α := r.mapError ofJournal

/-- A `MusicalTransactionError`. -/
def musicalError (message : String) : Raised ErrorClass := ⟨.musicalTransactionError, message⟩

/-- A `SongTransactionError`. -/
def songError (message : String) : Raised ErrorClass := ⟨.songTransactionError, message⟩

/-- A `StaleSongTransactionError`. -/
def staleSong (message : String) : Raised ErrorClass := ⟨.staleSongTransactionError, message⟩

/-- `_text` of the musical transactions. -/
def musicalText (value field : String) : Checked Line :=
  orRaise (Line.ofString value) (musicalError (field ++ " must not be empty"))

/-- `_text` of the song transactions. -/
def songText (value field : String) : Checked Text :=
  orRaise (Text.ofString value) (songError (field ++ " must not be empty"))

/-- An optional text of a binding. -/
def optionalSongText (value : Option String) (field : String) : Checked (Option Text) :=
  match value with
  | none => .ok none
  | some s => some <$> songText s field

/-! ### Binding a transaction to the active song -/

/-- What the caller saw when an operation was connected to a transaction plan. -/
structure SongTransactionBinding where
  profileId : Text
  songId : Text
  /-- The version the operation acts on. -/
  targetVersionId : Option Text
  expectedCurrentVersionId : Option Text
  operationId : Text
  transactionId : Text
  planFingerprint : Text
  /-- The fingerprint of the approved intent. -/
  intentFingerprint : Text
  approvalId : Text
  approvalSourceRef : Text

/-- `_active_song_for`. -/
def activeSongFor (scene : Scene) (songId : String) : Checked ActiveSong := do
  let active ← orRaise scene.activeSong
    (staleSong "No Song is active; select the bound Song before using this transaction.")
  require (active.id.val = songId)
    (staleSong "The active Song changed after transaction ownership was prepared.")
  return active

/-- The constructor of a binding, with its checks in their order. -/
def createBinding (rt : Runtime) (profileId songId : String)
    (targetVersionId expectedCurrentVersionId : Option String) (plan : TransactionPlan)
    (operation : OperationRecord) : Checked SongTransactionBinding := do
  let profileId ← songText profileId "profile_id"
  let songId ← songText songId "song_id"
  let operationId ← songText operation.id "operation_id"
  let transactionId ← songText plan.transactionId.val "transaction_id"
  let planFingerprint ← songText (plan.planFingerprint rt) "plan_fingerprint"
  let intentFingerprint ← songText operation.intentFingerprint "intent_fingerprint"
  let approvalId ← songText operation.approvalId "approval_id"
  let approvalSourceRef ← songText operation.approvalSourceRef "approval_source_ref"
  let targetVersionId ← optionalSongText targetVersionId "target_version_id"
  let expectedCurrentVersionId ←
    optionalSongText expectedCurrentVersionId "expected_current_version_id"
  return ⟨profileId, songId, targetVersionId, expectedCurrentVersionId, operationId, transactionId,
    planFingerprint, intentFingerprint, approvalId, approvalSourceRef⟩

/-- `SongTransactionService.bind`. -/
def bind (rt : Runtime) (scene : Scene) (plan : TransactionPlan) (s : Store) :
    Checked SongTransactionBinding := do
  let operation ← asJournal (getOperation s plan.operationId.val)
  require (operation.recordedState = .executing) (songError
    "Song transaction binding requires an already-claimed EXECUTING operation.")
  let songId ← orRaise operation.songId (songError
    "SongTransactionService requires an operation explicitly bound to a Song.")
  let active ← activeSongFor scene songId
  require (∀ version ∈ operation.versionId, s.versions.lookup version = some songId)
    (songError "The operation target Version is no longer valid for its bound Song.")
  createBinding rt s.profileId songId operation.versionId
    (active.currentVersionId.map Text.val) plan operation

/-- `_validate_execution_binding`. -/
def validateExecutionBinding (rt : Runtime) (scene : Scene) (binding : SongTransactionBinding)
    (plan : TransactionPlan) (s : Store) : Checked Unit := do
  require (binding.profileId.val = s.profileId)
    (songError "Song transaction binding belongs to a different Artist profile.")
  require (binding.transactionId = plan.transactionId ∧ binding.operationId = plan.operationId ∧
      binding.planFingerprint.val = plan.planFingerprint rt)
    (songError "Song transaction binding does not match this exact plan.")
  let operation ← asJournal (getOperation s binding.operationId.val)
  require (operation.recordedState = .executing) (staleSong
    ("The bound operation is no longer executable from state " ++ operation.recordedState.name ++
      "."))
  require (operation.songId = some binding.songId.val ∧
      operation.versionId = binding.targetVersionId.map Text.val ∧
      operation.intentFingerprint = binding.intentFingerprint.val ∧
      operation.approvalId = binding.approvalId.val ∧
      operation.approvalSourceRef = binding.approvalSourceRef.val)
    (songError "Song transaction ownership no longer matches the immutable operation identity.")
  let active ← activeSongFor scene binding.songId.val
  require (active.currentVersionId = binding.expectedCurrentVersionId)
    (staleSong "The Song current Version changed after transaction ownership was prepared.")

/-- `SongTransactionService.run`. -/
def songRun (rt : Runtime) (scene : Scene) (binding : SongTransactionBinding)
    (plan : TransactionPlan) (driver : Driver) : MusicalRun TransactionResult := do
  let r ← get
  fromExcept (validateExecutionBinding rt scene binding plan r.store)
  raisingAs ofJournal (Journal.run rt plan driver)

/-! ### Compiled actions as transaction steps -/

/-- `_step_description`. -/
def stepDescription (action : CompiledHostAction) : String :=
  action.capability.val ++ " via " ++ action.routeKind.name ++ " using " ++ action.payloadRef.val

/-- The step an action is executed as. -/
def actionStep (action : CompiledHostAction) : Checked TransactionStep :=
  asJournal (TransactionStep.create action.actionId.val (stepDescription action)
    action.postconditionRef.val action.compensatable (action.dependsOnActionIds.map Line.val))

/-- `_steps`. -/
def compiledSteps (compilation : HostCompilation) : Checked (List TransactionStep) :=
  checkEach (fun _ ↦ actionStep) 0 compilation.actions

/-- A driver that receives compiled actions: the methods it lacks, and what each of its methods comes
to on each argument. -/
structure CompiledActionDriver where
  /-- The methods it lacks. -/
  missing : List String
  /-- `prepare_snapshot`. -/
  prepareSnapshot : TransactionPlan → MusicalPlan → HostCompilation → Reply TransactionSnapshot
  /-- `execute_action`. -/
  executeAction : CompiledHostAction → Reply StepExecution
  /-- `verify_action`. -/
  verifyAction : CompiledHostAction → StepExecution → Reply PostconditionResult
  /-- `compensate_action`. -/
  compensateAction : CompiledHostAction → TransactionSnapshot → Reply CompensationResult
  /-- `success_receipt`. -/
  successReceipt : TransactionPlan → MusicalPlan → HostCompilation → TransactionSnapshot →
    Reply TransactionReceipt

/-- `_CompiledDriverAdapter._action`. -/
def actionOf (compilation : HostCompilation) (step : TransactionStep) :
    Checked CompiledHostAction := do
  let action ← orRaise
    (compilation.actions.find? fun action ↦ action.actionId.val == step.stepId.val)
    (musicalError ("transaction step has no exact compiled action: " ++ step.stepId.val))
  let expected ← actionStep action
  require (expected = step) (musicalError
    ("transaction step no longer matches compiled action: " ++ step.stepId.val))
  return action

/-- Call a method with the compiled action of a step. An exception of the lookup is one of the
method. -/
def withAction {α : Type} (action : Checked CompiledHostAction) (method : CompiledHostAction → Reply α) :
    Reply α :=
  match action with
  | .ok action => method action
  | .error _ => .raised "MusicalTransactionError"

/-- `_CompiledDriverAdapter`. -/
def compiledAdapter (driver : CompiledActionDriver) (plan : MusicalPlan)
    (compilation : HostCompilation) : Checked Driver := do
  require (driver.missing = [])
    (musicalError ("compiled action driver is missing methods: " ++ reprList driver.missing))
  return {
    contract := none
    prepareSnapshot := fun transactionPlan ↦ driver.prepareSnapshot transactionPlan plan compilation
    executeStep := fun step ↦ withAction (actionOf compilation step) driver.executeAction
    verifyPostcondition := fun step execution ↦
      withAction (actionOf compilation step) fun action ↦ driver.verifyAction action execution
    compensateStep := fun step snapshot ↦
      withAction (actionOf compilation step) fun action ↦ driver.compensateAction action snapshot
    successReceipt := fun transactionPlan snapshot ↦
      driver.successReceipt transactionPlan plan compilation snapshot }

/-- The calls of a compiled driver. -/
inductive HostCall where
  | prepareSnapshot (transactionPlan : TransactionPlan)
  | executeAction (action : CompiledHostAction)
  | verifyAction (action : CompiledHostAction) (execution : StepExecution)
  | compensateAction (action : CompiledHostAction) (snapshot : TransactionSnapshot)
  | successReceipt (transactionPlan : TransactionPlan) (snapshot : TransactionSnapshot)

/-- The call of the compiled driver that a call of its adapter makes, if it makes one. -/
def hostCall (compilation : HostCompilation) : DriverCall → Option HostCall
  | .prepareSnapshot plan => some (.prepareSnapshot plan)
  | .executeStep step => (actionOf compilation step).toOption.map .executeAction
  | .verifyPostcondition step execution =>
    (actionOf compilation step).toOption.map fun action ↦ .verifyAction action execution
  | .compensateStep step snapshot =>
    (actionOf compilation step).toOption.map fun action ↦ .compensateAction action snapshot
  | .successReceipt plan snapshot => some (.successReceipt plan snapshot)

/-! ### Previews -/

/-- `_validate_pair`. -/
def validatePair (rt : Runtime) (plan : MusicalPlan) (compilation : HostCompilation) :
    Checked String := do
  require (compilation.planId = plan.planId)
    (musicalError "compilation does not match Musical Plan plan_id")
  require (compilation.planFingerprint.val = plan.fingerprint rt)
    (musicalError "compilation does not match Musical Plan plan_fingerprint")
  require (compilation.hostRuntimeFingerprint = plan.hostRuntimeFingerprint)
    (musicalError "compilation does not match Musical Plan host_runtime_fingerprint")
  let noncompensatable := (compilation.actions.filter fun action ↦ !action.compensatable).map
    fun action ↦ action.actionId.val
  require (noncompensatable = []) (musicalError
    ("WP-090 reversible-write bridge refuses noncompensatable compiled actions: " ++
      reprList noncompensatable))
  return compilationFingerprint rt compilation

/-- `preview`. -/
def preview (rt : Runtime) (scene : Scene) (plan : MusicalPlan) (context : FocusContext)
    (compilation : HostCompilation) : Checked ActionIntent := do
  validateCurrent scene plan context
  let compiledFingerprint ← validatePair rt plan compilation
  (ActionIntent.create ("musical-plan:" ++ plan.planId.val) ("produce:" ++ plan.songId.val)
    "REVERSIBLE" plan.desiredChange.val
    ("song:" ++ plan.songId.val ++ "/musical-plan:" ++ plan.planId.val) (plan.fingerprint rt)
    compiledFingerprint none none []).mapError fun e ↦ ⟨.authorityValidationError, e.text⟩

/-! ### Prepared transactions -/

/-- The witness of one claimed operation and its song. -/
structure PreparedMusicalTransaction (rt : Runtime) where
  planId : Line
  planFingerprint : Line
  compilationFingerprint : Line
  /-- The fingerprint of the approved intent. -/
  intentFingerprint : Line
  transactionPlan : TransactionPlan
  songBinding : SongTransactionBinding
  matching : songBinding.operationId = transactionPlan.operationId ∧
    songBinding.transactionId = transactionPlan.transactionId ∧
    songBinding.planFingerprint.val = transactionPlan.planFingerprint rt
  approved : songBinding.intentFingerprint.val = intentFingerprint.val

/-- The constructor of a witness, with its checks in their order. -/
def PreparedMusicalTransaction.create (rt : Runtime) (planId planFingerprint compilationFingerprint
    intentFingerprint : String) (transactionPlan : TransactionPlan)
    (songBinding : SongTransactionBinding) : Checked (PreparedMusicalTransaction rt) := do
  let planId ← musicalText planId "plan_id"
  let planFingerprint ← musicalText planFingerprint "plan_fingerprint"
  let compilationFingerprint ← musicalText compilationFingerprint "compilation_fingerprint"
  let intentFingerprint ← musicalText intentFingerprint "intent_fingerprint"
  if hmatching : songBinding.operationId = transactionPlan.operationId ∧
      songBinding.transactionId = transactionPlan.transactionId ∧
      songBinding.planFingerprint.val = transactionPlan.planFingerprint rt then
    if happroved : songBinding.intentFingerprint.val = intentFingerprint.val then
      return ⟨planId, planFingerprint, compilationFingerprint, intentFingerprint, transactionPlan,
        songBinding, hmatching, happroved⟩
    else throw (musicalError "Song transaction binding must match the exact approved intent")
  else throw (musicalError "Song transaction binding must match the exact transaction plan")

/-- What `prepare` is called with. -/
structure Preparation where
  plan : MusicalPlan
  context : FocusContext
  compilation : HostCompilation
  approval : ApprovalBinding
  /-- The key under which the operation is executed once. -/
  idempotencyKey : String
  claimEvidenceRef : String
  /-- The version that has to be current. -/
  targetVersionId : Option String

/-- `_active_target_version`. -/
def activeTargetVersion (scene : Scene) (plan : MusicalPlan) (targetVersionId : Option String) :
    Checked (Option String) := do
  let active ← orRaise (scene.activeSong.filter fun active ↦ active.id.val = plan.songId.val)
    (musicalError "the Musical Plan Song must be active before operation preparation")
  let current := active.currentVersionId.map Text.val
  match targetVersionId with
  | none => return current
  | some targetVersionId =>
    let target ← musicalText targetVersionId "target_version_id"
    require (current = some target.val)
      (musicalError "target_version_id must equal the active Song current Version")
    return some target.val

/-- `_transaction_id`. -/
def musicalTransactionId (rt : Runtime) (operationId planFingerprint compiledFingerprint : String) :
    String :=
  let digest := rt.sha256 ("\x00".intercalate [operationId, planFingerprint, compiledFingerprint])
  "txn_musical_" ++ String.ofList (digest.toList.take 32)

/-- What `prepare` has after the claim. -/
structure ClaimedOperation where
  intent : ActionIntent
  steps : List TransactionStep
  operation : OperationRecord

/-- `prepare` up to the claim. Assumes: `newId` is the fresh random id a new operation takes. -/
def claimOperation (rt : Runtime) (scene : Scene) (request : Preparation) (newId : String) :
    MusicalProgram ClaimedOperation := do
  let intent ← fromExcept (preview rt scene request.plan request.context request.compilation)
  fromExcept (require (validateApproval rt intent request.approval = .valid)
    (musicalError "approval is stale for this exact Musical Plan compilation"))
  let steps ← fromExcept (compiledSteps request.compilation)
  let versionId ← fromExcept (activeTargetVersion scene request.plan request.targetVersionId)
  let key ← fromExcept (musicalText request.idempotencyKey "idempotency_key")
  let operation ← raisingAs ofJournal (Journal.prepare rt
    ⟨key.val, intent, request.approval, some request.plan.songId.val, versionId, none, none, none⟩
    newId)
  let evidence ← fromExcept (musicalText request.claimEvidenceRef "claim_evidence_ref")
  let operation ← raisingAs ofJournal (claimExecution rt
    ⟨operation.id, intent, request.approval, evidence.val, none, none⟩)
  return ⟨intent, steps, operation⟩

/-- `prepare` after the claim. -/
def witnessClaim (rt : Runtime) (scene : Scene) (request : Preparation)
    (claimed : ClaimedOperation) (s : Store) : Checked (PreparedMusicalTransaction rt) := do
  let compiledFingerprint := compilationFingerprint rt request.compilation
  let transactionPlan ← asJournal (TransactionPlan.create
    (musicalTransactionId rt claimed.operation.id (request.plan.fingerprint rt) compiledFingerprint)
    claimed.operation.id claimed.steps)
  let songBinding ← bind rt scene transactionPlan s
  PreparedMusicalTransaction.create rt request.plan.planId.val (request.plan.fingerprint rt)
    compiledFingerprint (claimed.intent.intentFingerprint rt) transactionPlan songBinding

/-- `prepare`. -/
def prepare (rt : Runtime) (scene : Scene) (request : Preparation) (newId : String) :
    MusicalProgram (PreparedMusicalTransaction rt) := do
  let claimed ← claimOperation rt scene request newId
  let s ← get
  fromExcept (witnessClaim rt scene request claimed s)

/-! ### Running -/

/-- What `run` is called with. -/
structure Execution (rt : Runtime) where
  prepared : PreparedMusicalTransaction rt
  plan : MusicalPlan
  context : FocusContext
  compilation : HostCompilation
  driver : CompiledActionDriver

/-- `_validate_prepared`. -/
def validatePrepared (rt : Runtime) (scene : Scene) (request : Execution rt) : Checked Unit := do
  let intent ← preview rt scene request.plan request.context request.compilation
  require (request.prepared.planId = request.plan.planId ∧
      request.prepared.planFingerprint.val = request.plan.fingerprint rt ∧
      request.prepared.compilationFingerprint.val = compilationFingerprint rt request.compilation ∧
      request.prepared.intentFingerprint.val = intent.intentFingerprint rt)
    (musicalError "prepared transaction does not match the exact current plan/compilation")
  let steps ← compiledSteps request.compilation
  let expected ← asJournal (TransactionPlan.create
    request.prepared.transactionPlan.transactionId.val
    request.prepared.transactionPlan.operationId.val steps)
  require (expected.planFingerprint rt = request.prepared.transactionPlan.planFingerprint rt)
    (musicalError "transaction plan no longer matches the exact host compilation")

/-- `run`. -/
def run (rt : Runtime) (scene : Scene) (request : Execution rt) : MusicalRun TransactionResult := do
  fromExcept (validatePrepared rt scene request)
  let adapter ← fromExcept (compiledAdapter request.driver request.plan request.compilation)
  songRun rt scene request.prepared.songBinding request.prepared.transactionPlan adapter

end N0te.Musical
