import N0te.Journal.Store

/-!
# The operation journal

`OperationJournal`: an operation is prepared under an idempotency key, claimed once, ends with one
terminal outcome, and an unknown outcome may be reconciled once. The state of an operation is
nowhere stored: `derive` computes it from the operation's events, and every write reads it first,
in the same transaction.

`prepare` is not one transaction. It reads the song lineage, looks its key up, and inserts, and
`prepareIdentity`, `prepareLookup`, `insertOperation` and `prepareConflict` are those sections.

Scope. `isinstance` checks are the types of the arguments.
-/

set_option autoImplicit false
set_option relaxedAutoImplicit false

namespace N0te.Journal

open Library Governance

/-- A program over the store. -/
abbrev StoreProgram (α : Type) := Raising Store (Raised ErrorClass) α

/-- An `OperationError`. -/
def operationError (message : String) : Raised ErrorClass := ⟨.operationError, message⟩

/-- A required text: stripped, and not empty. -/
def operationText (value field : String) : Checked Text :=
  orRaise (Text.ofString value) ⟨.validationError, field ++ " must not be empty"⟩

def optionalOperationText (value : Option String) (field : String) : Checked (Option Text) :=
  match value with
  | none => .ok none
  | some s => some <$> operationText s field

/-! ### The state of an operation -/

/-- The recorded states of an operation. -/
inductive RecordedState where
  | prepared
  | executing
  | succeeded
  | failed
  | unknown
  deriving DecidableEq

def RecordedState.name : RecordedState → String
  | prepared => "PREPARED"
  | executing => "EXECUTING"
  | succeeded => "SUCCEEDED"
  | failed => "FAILED"
  | unknown => "UNKNOWN"

/-- What an operation is known to have done. -/
inductive EffectiveOutcome where
  | succeeded
  | failed
  | unknown
  deriving DecidableEq

/-- What the events of an operation add up to. -/
structure Derived where
  state : RecordedState
  /-- The outcome, after reconciliation. -/
  effective : Option EffectiveOutcome
  /-- How often execution was claimed. -/
  attempts : ℕ
  /-- Whether an unknown outcome was reconciled. -/
  reconciled : Bool
  deriving DecidableEq

namespace Derived

/-- The state after `PREPARED`. -/
def initial : Derived := ⟨.prepared, none, 0, false⟩

/-- The state after one more event, if the event may follow. -/
def transition (d : Derived) : OperationEventType → Option Derived
  | .executionClaimed =>
    if d.state = .prepared ∧ d.attempts = 0 then some { d with state := .executing, attempts := 1 }
    else none
  | .succeeded => outcome .succeeded .succeeded
  | .failed => outcome .failed .failed
  | .unknown => outcome .unknown .unknown
  | .reconciledSucceeded => reconciliation .succeeded
  | .reconciledFailed => reconciliation .failed
  | .prepared => none
where
  /-- A terminal outcome of an executing operation. -/
  outcome (state : RecordedState) (effective : EffectiveOutcome) : Option Derived :=
    if d.state = .executing ∧ d.effective = none then
      some { d with state := state, effective := some effective }
    else none
  /-- A reconciliation of an unknown outcome. -/
  reconciliation (effective : EffectiveOutcome) : Option Derived :=
    if d.state = .unknown ∧ d.effective = some .unknown ∧ d.reconciled = false then
      some { d with effective := some effective, reconciled := true }
    else none

/-- Nothing may follow: the operation succeeded or failed, or was reconciled. -/
def Closed (d : Derived) : Prop := d.reconciled = true ∨ d.state = .succeeded ∨ d.state = .failed

instance (d : Derived) : Decidable d.Closed := inferInstanceAs (Decidable (_ ∨ _))

end Derived

/-- The loop of `_derive` over the events after the first. -/
def deriveFrom : Derived → List OperationEvent → Checked Derived
  | d, [] => .ok d
  | d, event :: rest => do
    let next ← orRaise (d.transition event.eventType)
      (corruption "operation lifecycle sequence is invalid")
    require (next.Closed → rest = [])
      (corruption "operation history continues after terminal outcome")
    deriveFrom next rest

/-- `_derive`. -/
def derive : List OperationEvent → Checked Derived
  | [] => .error (corruption "operation history must begin with PREPARED")
  | event :: rest =>
    if event.eventType = .prepared then deriveFrom .initial rest
    else .error (corruption "operation history must begin with PREPARED")

/-- Whether an optional text is there and not empty. -/
def present (value : Option String) : Bool := value.any (· != "")

/-- `_validate_evidence` on one event. -/
def validateEventEvidence (event : OperationEvent) : Checked Unit :=
  match event.eventType with
  | .succeeded | .reconciledSucceeded =>
    require (present event.receiptRef && present event.evidenceRef &&
        present event.resultFingerprint)
      (corruption (event.eventType.name ++ " requires receipt, evidence and result fingerprint"))
  | _ =>
    require (present event.evidenceRef)
      (corruption (event.eventType.name ++ " operation event requires evidence"))

/-- `_validate_evidence`. -/
def validateEvidence (events : List OperationEvent) : Checked Unit := do
  let _ ← checkEach (fun _ ↦ validateEventEvidence) 0 events
  return ()

/-! ### Reading -/

/-- An operation as it is read: its identity, its state, and the references of its last event. -/
structure OperationRecord extends OperationRow where
  recordedState : RecordedState
  /-- The outcome, after reconciliation. -/
  effectiveOutcome : Option EffectiveOutcome
  /-- How often execution was claimed. -/
  attemptCount : ℕ
  /-- The receipt of the last event. -/
  receiptRef : Option String
  /-- The evidence of the last event. -/
  evidenceRef : Option String
  /-- The result fingerprint of the last event. -/
  resultFingerprint : Option String
  /-- Whether an unknown outcome was reconciled. -/
  reconciled : Bool
  reconciliationEvidenceRef : Option String
  deriving DecidableEq

def OperationEvent.reconciliationEvidence (event : OperationEvent) : Option String :=
  match event.eventType with
  | .reconciledSucceeded | .reconciledFailed => event.evidenceRef
  | _ => none

/-- `_record`. -/
def operationRecord (s : Store) (row : OperationRow) : Checked OperationRecord := do
  let events := s.operationEventsOf row.id
  let derived ← derive events
  let terminal := events.getLast?
  return {
    row with
    recordedState := derived.state
    effectiveOutcome := derived.effective
    attemptCount := derived.attempts
    receiptRef := terminal.bind OperationEvent.receiptRef
    evidenceRef := terminal.bind OperationEvent.evidenceRef
    resultFingerprint := terminal.bind OperationEvent.resultFingerprint
    reconciled := derived.reconciled
    reconciliationEvidenceRef := terminal.bind OperationEvent.reconciliationEvidence }

/-- `get`. -/
def getOperation (s : Store) (operationId : String) : Checked OperationRecord := do
  let row ← orRaise (s.findOperation operationId)
    ⟨.notFoundError, "operation not found: " ++ operationId⟩
  operationRecord s row

/-- `by_idempotency_key`, for a key that passed its check. -/
def byIdempotencyKey (s : Store) (key : String) : Checked (Option OperationRecord) :=
  match s.findKey key with
  | none => .ok none
  | some row => some <$> operationRecord s row

def reading {α : Type} (read : Store → Checked α) : StoreProgram α := do
  let s ← get
  fromExcept (read s)

/-! ### Checks -/

/-- `_song_version`. -/
def songVersion (s : Store) (songId versionId : Option String) :
    Checked (Option String × Option String) := do
  require (songId = none → versionId = none) ⟨.validationError, "version_id requires song_id"⟩
  match songId with
  | none => return (none, none)
  | some song =>
    require (song ∈ s.songs)
      ⟨.notFoundError, "Song not found in profile " ++ s.profileId ++ ": " ++ song⟩
    match versionId with
    | none => return (some song, none)
    | some version =>
      let owner ← orRaise (s.versions.lookup version)
        ⟨.notFoundError, "version not found: " ++ version⟩
      require (owner = song) ⟨.validationError, "version belongs to a different Song"⟩
      return (some song, some version)

/-- `_approval`. -/
def requireApproval (rt : Runtime) (intent : ActionIntent) (approval : ApprovalBinding) :
    Checked Unit :=
  require (validateApproval rt intent approval = .valid)
    (operationError "approval is stale for the current action intent")

/-- The route, the subject and the capability an outbound operation is bound to. -/
abbrev ExecutionIdentity := Option String × Option String × Option String

/-- `_execution_identity`. -/
def executionIdentity (intent : ActionIntent) (route subject capability : Option String) :
    Checked ExecutionIdentity := do
  let route ← optionalOperationText route "transport_route_id"
  let subject ← optionalOperationText subject "eligibility_subject_id"
  let capability ← optionalOperationText capability "eligibility_capability"
  if intent.destination = none then
    require (route = none ∧ subject = none ∧ capability = none)
      (operationError "local operation cannot bind outbound execution eligibility identity")
    return (none, none, none)
  else
    require (route ≠ none ∧ subject ≠ none ∧ capability ≠ none) (operationError
      ("outbound operation requires transport_route_id, eligibility_subject_id and " ++
        "eligibility_capability"))
    return (route.map Text.val, subject.map Text.val, capability.map Text.val)

/-- The decision of the network policy on a route. -/
structure TransportDecision where
  /-- Whether the status is `ALLOW`. -/
  allowed : Bool
  routeId : String
  /-- Whether it claims to grant authority to act. -/
  actionAuthorityGranted : Bool

/-- The statuses of an eligibility decision. -/
inductive EligibilityStatus where
  | allow
  | deny
  | stale
  deriving DecidableEq

/-- The decision whether a job may run on a route. -/
structure ExecutionEligibilityDecision where
  status : EligibilityStatus
  jobId : Text
  routeId : Text
  subjectId : Text
  capability : Text
  /-- Whether it claims to grant authority to act. -/
  actionAuthorityGranted : Bool

/-- `_gates` for an operation bound to a route. -/
def outboundGates (operation : OperationRecord) (route : String) (intent : ActionIntent)
    (transport : Option TransportDecision) (eligibility : Option ExecutionEligibilityDecision) :
    Checked Unit := do
  require (intent.destination ≠ none)
    (operationError "transport-bound operation cannot claim a local intent")
  require (operation.eligibilitySubjectId ≠ none ∧ operation.eligibilityCapability ≠ none)
    (operationError
      "legacy outbound operation lacks eligibility identity and must be prepared again")
  let transport ← orRaise transport
    (operationError "outbound operation requires an explicit transport decision")
  require (transport.allowed ∧ transport.routeId = route ∧ transport.actionAuthorityGranted = false)
    (operationError "transport decision does not allow this exact route without authority")
  let eligibility ← orRaise eligibility
    (operationError "outbound operation requires an explicit eligibility decision")
  require (eligibility.status = .allow)
    (operationError "execution eligibility denies or marks this route stale")
  require (eligibility.jobId = intent.jobId ∧ eligibility.routeId.val = route ∧
      some eligibility.subjectId.val = operation.eligibilitySubjectId ∧
      some eligibility.capability.val = operation.eligibilityCapability)
    (operationError
      "eligibility decision does not match the exact prepared execution identity")
  require (eligibility.actionAuthorityGranted = false)
    (operationError "eligibility decision must not grant action authority")

/-- `_gates`. -/
def gates (operation : OperationRecord) (intent : ActionIntent)
    (transport : Option TransportDecision) (eligibility : Option ExecutionEligibilityDecision) :
    Checked Unit :=
  match operation.transportRouteId with
  | some route => outboundGates operation route intent transport eligibility
  | none => do
    require (intent.destination = none)
      (operationError "outbound intent is missing its prepared transport route")
    require (transport.isNone ∧ eligibility.isNone)
      (operationError "local operation has no bound outbound execution gates")

/-! ### Writing -/

/-- Insert a row into `operations` under its constraints. -/
def insertOperationRow (row : OperationRow) (s : Store) : Checked Store := do
  require (∀ version ∈ row.versionId, ∃ song ∈ row.songId, s.VersionOf version song)
    (integrityError "operation version belongs to a different Song")
  require (∀ other ∈ s.operations, other.id ≠ row.id)
    (integrityError "UNIQUE constraint failed: operations.id")
  require (∀ other ∈ s.operations, other.idempotencyKey ≠ row.idempotencyKey)
    (integrityError "UNIQUE constraint failed: operations.idempotency_key")
  require (sqlNonblank row.idempotencyKey ∧ sqlNonblank row.intentFingerprint ∧
      sqlNonblank row.approvalId ∧ sqlNonblank row.approvalSourceRef ∧
      (∀ route ∈ row.transportRouteId, sqlNonblank route) ∧
      (∀ subject ∈ row.eligibilitySubjectId, sqlNonblank subject) ∧
      (∀ capability ∈ row.eligibilityCapability, sqlNonblank capability))
    (integrityError "CHECK constraint failed: operations")
  require ((∀ song ∈ row.songId, song ∈ s.songs) ∧
      (∀ version ∈ row.versionId, version ∈ s.versions.map Prod.fst))
    (integrityError "FOREIGN KEY constraint failed")
  return { s with operations := s.operations ++ [row] }

/-- `_append`: insert a row into `operation_events`. -/
def appendOperationEvent (event : OperationEvent) : StoreProgram PUnit := do
  let s ← get
  if ∃ row ∈ s.operations, row.id = event.operationId then
    set { s with operationEvents := s.operationEvents ++ [event] }
  else
    throw (integrityError "FOREIGN KEY constraint failed")

/-- What `prepare` is called with. -/
structure PrepareRequest where
  /-- The key under which the operation is executed once. -/
  idempotencyKey : String
  intent : ActionIntent
  approval : ApprovalBinding
  songId : Option String
  versionId : Option String
  /-- The route of an outbound operation. -/
  transportRouteId : Option String
  /-- The subject of an outbound operation. -/
  eligibilitySubjectId : Option String
  /-- The capability of an outbound operation. -/
  eligibilityCapability : Option String

/-- The checks of `prepare` and the identity they resolve, under the id a new operation takes. -/
def prepareIdentity (rt : Runtime) (request : PrepareRequest) (newId : String) (s : Store) :
    Checked OperationRow := do
  let key ← operationText request.idempotencyKey "idempotency_key"
  requireApproval rt request.intent request.approval
  let (song, version) ← songVersion s request.songId request.versionId
  let (route, subject, capability) ← executionIdentity request.intent request.transportRouteId
    request.eligibilitySubjectId request.eligibilityCapability
  return {
    id := newId
    idempotencyKey := key.val
    intentFingerprint := request.intent.intentFingerprint rt
    approvalId := request.approval.approvalId.val
    approvalSourceRef := request.approval.sourceRef.val
    songId := song
    versionId := version
    transportRouteId := route
    eligibilitySubjectId := subject
    eligibilityCapability := capability }

/-- Two rows agree on everything but their ids and keys. -/
def OperationRow.Exact (a b : OperationRow) : Prop :=
  { a with id := b.id, idempotencyKey := b.idempotencyKey } = b

instance (a b : OperationRow) : Decidable (a.Exact b) := inferInstanceAs (Decidable (_ = _))

/-- The lookup of `prepare` before it inserts. -/
def prepareLookup (row : OperationRow) (s : Store) : Checked (Option OperationRecord) := do
  match ← byIdempotencyKey s row.idempotencyKey with
  | none => return none
  | some existing =>
    require (existing.toOperationRow.Exact row)
      (operationError "idempotency key is already bound to a different operation")
    return some existing

/-- The transaction of `prepare`. -/
def insertOperation (row : OperationRow) : StoreProgram PUnit := atomic do
  let s ← get
  let inserted ← fromExcept (insertOperationRow row s)
  set inserted
  appendOperationEvent ⟨row.id, .prepared, some row.approvalSourceRef, none, none⟩

/-- The lookup of `prepare` after a constraint refused its row. -/
def prepareConflict (row : OperationRow) (s : Store) : Checked OperationRecord := do
  let existing ← orRaise (← byIdempotencyKey s row.idempotencyKey)
    (operationError "cannot prepare operation with this idempotency key")
  require (existing.toOperationRow.Exact row)
    (operationError "cannot prepare operation with this idempotency key")
  return existing

/-- The insert of `prepare` and its handler. -/
def prepareInsert (row : OperationRow) : StoreProgram (Option OperationRecord) :=
  tryCatch (do insertOperation row; return none) fun e ↦
    if e.cls = .integrityError then do return some (← reading (prepareConflict row)) else throw e

/-- The end of `prepare` when its key was free. -/
def prepareNew (row : OperationRow) : StoreProgram OperationRecord := do
  match ← prepareInsert row with
  | some existing => return existing
  | none => reading fun s ↦ getOperation s row.id

/-- `prepare`. Assumes: `newId` is the fresh random id a new operation takes. -/
def prepare (rt : Runtime) (request : PrepareRequest) (newId : String) :
    StoreProgram OperationRecord := do
  let row ← reading (prepareIdentity rt request newId)
  match ← reading (prepareLookup row) with
  | some existing => return existing
  | none => prepareNew row

/-- What `claim_execution` is called with. -/
structure ClaimRequest where
  operationId : String
  intent : ActionIntent
  approval : ApprovalBinding
  claimEvidenceRef : String
  /-- The transport decision of an outbound operation. -/
  transportDecision : Option TransportDecision
  /-- The eligibility decision of an outbound operation. -/
  eligibilityDecision : Option ExecutionEligibilityDecision

/-- The checks `claim_execution` makes in its transaction. -/
def claimChecks (rt : Runtime) (request : ClaimRequest) (s : Store) : Checked Unit := do
  let op ← getOperation s request.operationId
  requireApproval rt request.intent request.approval
  require (op.intentFingerprint = request.intent.intentFingerprint rt ∧
      op.approvalId = request.approval.approvalId.val ∧
      op.approvalSourceRef = request.approval.sourceRef.val)
    (operationError "operation is bound to a different intent or approval")
  gates op request.intent request.transportDecision request.eligibilityDecision
  require (op.recordedState = .prepared) ⟨.duplicateExecutionError,
    "operation cannot be claimed from state " ++ op.recordedState.name⟩

/-- `claim_execution`. -/
def claimExecution (rt : Runtime) (request : ClaimRequest) : StoreProgram OperationRecord := do
  let evidence ← fromExcept (operationText request.claimEvidenceRef "claim_evidence_ref")
  atomic do
    reading (claimChecks rt request)
    appendOperationEvent ⟨request.operationId, .executionClaimed, some evidence.val, none, none⟩
  reading fun s ↦ getOperation s request.operationId

/-- The references a terminal or a reconciliation event carries. -/
structure OutcomeRefs where
  evidenceRef : String
  receiptRef : Option String
  resultFingerprint : Option String

/-- The checks of the references, and the event they make. A success needs all three. -/
def outcomeEvent (operationId : String) (kind : OperationEventType) (refs : OutcomeRefs)
    (needsReceipt : Raised ErrorClass) : Checked OperationEvent := do
  let evidence ← operationText refs.evidenceRef "evidence_ref"
  let receipt ← optionalOperationText refs.receiptRef "receipt_ref"
  let result ← optionalOperationText refs.resultFingerprint "result_fingerprint"
  require (kind = .succeeded ∨ kind = .reconciledSucceeded → receipt ≠ none ∧ result ≠ none)
    needsReceipt
  return ⟨operationId, kind, some evidence.val, receipt.map Text.val, result.map Text.val⟩

/-- The terminal outcomes. -/
inductive Outcome where
  | succeeded
  | failed
  | unknown
  deriving DecidableEq

/-- The event that records an outcome. -/
def Outcome.eventType : Outcome → OperationEventType
  | succeeded => .succeeded
  | failed => .failed
  | unknown => .unknown

/-- `_terminal`. -/
def recordTerminal (operationId : String) (outcome : Outcome) (refs : OutcomeRefs) :
    StoreProgram OperationRecord := do
  let event ← fromExcept (outcomeEvent operationId outcome.eventType refs
    ⟨.validationError, "successful operation requires receipt_ref and result_fingerprint"⟩)
  atomic do
    let op ← reading fun s ↦ getOperation s operationId
    fromExcept (require (op.recordedState = .executing) (operationError
      (outcome.eventType.name ++ " cannot be recorded from state " ++ op.recordedState.name)))
    appendOperationEvent event
  reading fun s ↦ getOperation s operationId

/-- `complete_success`. -/
def completeSuccess (operationId receiptRef evidenceRef resultFingerprint : String) :
    StoreProgram OperationRecord :=
  recordTerminal operationId .succeeded ⟨evidenceRef, some receiptRef, some resultFingerprint⟩

/-- `complete_failure`. -/
def completeFailure (operationId evidenceRef : String)
    (receiptRef resultFingerprint : Option String) : StoreProgram OperationRecord :=
  recordTerminal operationId .failed ⟨evidenceRef, receiptRef, resultFingerprint⟩

/-- `mark_unknown`. -/
def markUnknown (operationId evidenceRef : String) (receiptRef : Option String) :
    StoreProgram OperationRecord :=
  recordTerminal operationId .unknown ⟨evidenceRef, receiptRef, none⟩

/-- The reconciliation event an observed outcome is recorded as. -/
def reconciliationType (observedOutcome : String) : Checked OperationEventType :=
  let outcome := upper (strip observedOutcome)
  if outcome = "SUCCEEDED" then .ok .reconciledSucceeded
  else if outcome = "FAILED" then .ok .reconciledFailed
  else .error (operationError "observed_outcome must be SUCCEEDED or FAILED")

/-- `reconcile_unknown`. -/
def reconcileUnknown (operationId observedOutcome : String) (refs : OutcomeRefs) :
    StoreProgram OperationRecord := do
  let kind ← fromExcept (reconciliationType observedOutcome)
  let event ← fromExcept (outcomeEvent operationId kind refs
    (operationError "reconciled success requires receipt_ref and result_fingerprint"))
  atomic do
    let op ← reading fun s ↦ getOperation s operationId
    fromExcept (require (op.recordedState = .unknown ∧ op.reconciled = false)
      (operationError "only unreconciled UNKNOWN operations may be reconciled"))
    appendOperationEvent event
  reading fun s ↦ getOperation s operationId

/-! ### Opening the store again -/

/-- Whether a row refers to a song or a version that is not there, or holds a blank identity. -/
def OperationRow.Dangling (row : OperationRow) (s : Store) : Prop :=
  (∃ song ∈ row.songId, song ∉ s.songs) ∨
    (∃ version ∈ row.versionId, ¬ ∃ song ∈ row.songId, s.VersionOf version song) ∨
    (∃ route ∈ row.transportRouteId, ¬ sqlNonblank route) ∨
    (∃ subject ∈ row.eligibilitySubjectId, ¬ sqlNonblank subject) ∨
    ∃ capability ∈ row.eligibilityCapability, ¬ sqlNonblank capability

instance (row : OperationRow) (s : Store) : Decidable (row.Dangling s) :=
  inferInstanceAs (Decidable (_ ∨ _))

/-- The history of one operation is legal and has its evidence. -/
def validateOperation (s : Store) (row : OperationRow) : Checked Unit := do
  let events := s.operationEventsOf row.id
  let _ ← derive events
  validateEvidence events

/-- `OperationJournal._validate_existing`. -/
def validateOperations (s : Store) : Checked Unit := do
  require (∀ row ∈ s.operations, ¬ row.Dangling s)
    (corruption "operation history contains invalid identity references")
  let _ ← checkEach (fun _ ↦ validateOperation s) 0
    (s.operations.mergeSort fun a b ↦ a.id ≤ b.id)
  return ()

end N0te.Journal
