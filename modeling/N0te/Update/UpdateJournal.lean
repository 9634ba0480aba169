import N0te.Library.Stopping
import N0te.Library.Words

/-!
# The journal of an update

Every change of an application update is written to its journal: the plan, the states it went
through, the receipts of the package driver and the hash of the creative state that was restored.
What is written and what is read is validated (`UpdateJournal.validate`).

Scope. The JSON text of a journal with its integrity digest is left out: a journal is what is read
from it. Texts and hashes of plans, requests and receipts are those that their constructors leave,
and fingerprints are a parameter.
-/

set_option autoImplicit false
set_option relaxedAutoImplicit false

namespace N0te.Updating

open Library

/-! ### Exceptions -/

/-- The exception classes. -/
inductive UpdateErrorClass where
  | applicationUpdateError
  | updateRejectedError
  | updateExecuteOnceError
  | updateJournalCorruptionError
  | updateBusyError
  /-- Any other subclass of `Exception`. -/
  | other
  deriving DecidableEq

/-- A result or an exception. -/
abbrev Checked (α : Type) := Except (Raised UpdateErrorClass) α

/-- An `ApplicationUpdateError`. -/
def updateError (message : String) : Raised UpdateErrorClass := ⟨.applicationUpdateError, message⟩

/-- An `UpdateRejectedError`. -/
def rejected (message : String) : Raised UpdateErrorClass := ⟨.updateRejectedError, message⟩

/-- An `UpdateExecuteOnceError`. -/
def executeOnce (message : String) : Raised UpdateErrorClass := ⟨.updateExecuteOnceError, message⟩

/-- An `UpdateJournalCorruptionError`. -/
def corruption (message : String) : Raised UpdateErrorClass :=
  ⟨.updateJournalCorruptionError, message⟩

/-- `_text`. -/
def updateText (value field : String) : Checked String := do
  require (collapse value ≠ "") (updateError (field ++ " must not be empty"))
  return collapse value

/-! ### States -/

/-- `UPDATE_STATES`. -/
inductive UpdateState where
  | prepared
  | installing
  | validating
  | rollingBack
  | restoring
  | finalizing
  | succeeded
  | failedSafe
  | rolledBack
  | recoveryRequired
  deriving DecidableEq

namespace UpdateState

def name : UpdateState → String
  | prepared => "PREPARED"
  | installing => "INSTALLING"
  | validating => "VALIDATING"
  | rollingBack => "ROLLING_BACK"
  | restoring => "RESTORING"
  | finalizing => "FINALIZING"
  | succeeded => "SUCCEEDED"
  | failedSafe => "FAILED_SAFE"
  | rolledBack => "ROLLED_BACK"
  | recoveryRequired => "RECOVERY_REQUIRED"

/-- `SETTLED_UPDATE_STATES`. -/
def settled : List UpdateState := [succeeded, failedSafe, rolledBack]

/-- `TERMINAL_UPDATE_STATES`. -/
def terminal : List UpdateState := settled ++ [recoveryRequired]

/-- `IN_FLIGHT_UPDATE_STATES`. -/
def inFlight : List UpdateState := [installing, validating, rollingBack, restoring, finalizing]

/-- `_ALLOWED_TRANSITIONS`. -/
def allowed : UpdateState → List UpdateState
  | prepared => [installing, recoveryRequired]
  | installing => [validating, rollingBack, finalizing, recoveryRequired]
  | validating => [rollingBack, finalizing, recoveryRequired]
  | rollingBack => [restoring, recoveryRequired]
  | restoring => [finalizing, recoveryRequired]
  | finalizing => [succeeded, failedSafe, rolledBack, recoveryRequired]
  | succeeded | failedSafe | rolledBack | recoveryRequired => []

end UpdateState

/-! ### Plans, requests and receipts -/

/-- `UpdatePlan`. -/
structure UpdatePlan where
  updateId : String
  profileId : String
  currentReleaseId : String
  targetReleaseId : String
  targetVersion : String
  manifestFingerprint : String
  artifactId : String
  artifactSha256 : String
  targetFingerprint : String
  dataRootFingerprint : String
  snapshotSha256 : String
  snapshotLogicalSha256 : String
  snapshotSizeBytes : ℕ
  snapshotLineageSchemaVersion : String
  deriving DecidableEq

/-- `PACKAGE_ACTIONS`. -/
inductive PackageAction where
  | install
  | rollback
  deriving DecidableEq

/-- `PackageActionRequest`. -/
structure PackageActionRequest where
  updateId : String
  planFingerprint : String
  action : PackageAction
  profileId : String
  currentReleaseId : String
  targetReleaseId : String
  artifactId : String
  artifactSha256 : String
  targetFingerprint : String
  deriving DecidableEq

/-- `PACKAGE_INSTALL_STATES` and `PACKAGE_ROLLBACK_STATES`. -/
inductive ReceiptState where
  | succeeded
  | failedSafe
  | failedChanged
  | failed
  | unknown
  deriving DecidableEq

def ReceiptState.name : ReceiptState → String
  | succeeded => "SUCCEEDED"
  | failedSafe => "FAILED_SAFE"
  | failedChanged => "FAILED_CHANGED"
  | failed => "FAILED"
  | unknown => "UNKNOWN"

/-- The states that a receipt of an action may have. -/
def PackageAction.states : PackageAction → List ReceiptState
  | install => [.succeeded, .failedSafe, .failedChanged, .unknown]
  | rollback => [.succeeded, .failed, .unknown]

/-- `PackageActionReceipt`. -/
structure PackageActionReceipt where
  requestFingerprint : String
  action : PackageAction
  state : ReceiptState
  evidenceRef : String
  resultingReleaseId : Option String
  states : state ∈ action.states
  deriving DecidableEq

/-- How plans and requests are fingerprinted. -/
structure UpdateDigests where
  plan : UpdatePlan → String
  request : PackageActionRequest → String

section

variable (digests : UpdateDigests)

/-- `_request`. -/
def packageRequest (plan : UpdatePlan) (action : PackageAction) : PackageActionRequest where
  updateId := plan.updateId
  planFingerprint := digests.plan plan
  action := action
  profileId := plan.profileId
  currentReleaseId := plan.currentReleaseId
  targetReleaseId := plan.targetReleaseId
  artifactId := plan.artifactId
  artifactSha256 := plan.artifactSha256
  targetFingerprint := plan.targetFingerprint

/-- `_validate_receipt` of what may be no receipt. -/
def validateReceipt (receipt : Option PackageActionReceipt) (request : PackageActionRequest) :
    Checked PackageActionReceipt := do
  let receipt ← orRaise receipt (updateError "package driver returned invalid receipt type")
  require (receipt.action = request.action)
    (updateError "package receipt action does not match request")
  require (receipt.requestFingerprint = digests.request request)
    (updateError "package receipt belongs to a different request")
  match request.action with
  | .install =>
    require (receipt.state = .succeeded → receipt.resultingReleaseId = some request.targetReleaseId)
      (updateError "successful install receipt does not prove the target release")
    require (receipt.state = .failedSafe →
        receipt.resultingReleaseId = some request.currentReleaseId)
      (updateError "safe install failure does not prove the original release remained installed")
  | .rollback =>
    require (receipt.state = .succeeded →
        receipt.resultingReleaseId = some request.currentReleaseId)
      (updateError "successful rollback receipt does not prove the original release")
  return receipt

end

/-! ### The journal -/

/-- An entry of the history. -/
structure HistoryEntry where
  state : UpdateState
  evidence : String
  deriving DecidableEq

/-- `_Journal`. -/
structure UpdateJournal where
  plan : UpdatePlan
  state : UpdateState
  history : List HistoryEntry
  installReceipt : Option PackageActionReceipt
  rollbackReceipt : Option PackageActionReceipt
  restoredSha256 : Option String
  reason : Option String
  deriving DecidableEq

namespace UpdateJournal

/-- The states of the history follow one another as is allowed. -/
def checkTransitions : List UpdateState → Checked Unit
  | previous :: current :: rest => do
    require (current ∈ previous.allowed)
      (corruption ("illegal update journal transition: " ++ previous.name ++ "->" ++ current.name))
    checkTransitions (current :: rest)
  | _ => .ok ()

/-- A receipt that is stored is one for the plan. -/
def checkReceipt (digests : UpdateDigests) (receipt : Option PackageActionReceipt)
    (request : PackageActionRequest) (message : String) : Checked Unit :=
  match receipt with
  | none => .ok ()
  | some receipt =>
    match validateReceipt digests (some receipt) request with
    | .ok _ => .ok ()
    | .error _ => .error (corruption message)

variable (journal : UpdateJournal)

def installState : Option ReceiptState := journal.installReceipt.map PackageActionReceipt.state

def rollbackState : Option ReceiptState := journal.rollbackReceipt.map PackageActionReceipt.state

/-- The package was changed. -/
def changed : Bool :=
  journal.installState = some .succeeded ∨ journal.installState = some .failedChanged

/-- The package was rolled back and the snapshot restored. -/
def compensated : Bool :=
  journal.changed ∧ journal.rollbackState = some .succeeded ∧
    journal.restoredSha256 = some journal.plan.snapshotSha256

/-- The evidence that a state asks for. -/
def checkEvidence : Checked Unit :=
  match journal.state with
  | .prepared =>
    require (journal.installReceipt = none ∧ journal.rollbackReceipt = none ∧
        journal.restoredSha256 = none)
      (corruption "PREPARED update carries execution evidence")
  | .installing =>
    require (journal.rollbackReceipt = none ∧ journal.restoredSha256 = none)
      (corruption "INSTALLING update carries later-phase evidence")
  | .validating =>
    require (journal.installState = some .succeeded ∧ journal.rollbackReceipt = none)
      (corruption "VALIDATING update lacks successful install evidence")
  | .rollingBack => do
    require (journal.changed = true)
      (corruption "ROLLING_BACK update lacks changed-package evidence")
    require (journal.rollbackReceipt = none ∧ journal.restoredSha256 = none)
      (corruption "ROLLING_BACK update carries later-phase evidence")
  | .restoring =>
    require (journal.changed = true ∧ journal.rollbackState = some .succeeded)
      (corruption "RESTORING update lacks successful rollback evidence")
  | .finalizing =>
    require (journal.installState = some .failedSafe ∨
        (journal.installState = some .succeeded ∧ journal.rollbackReceipt = none) ∨
        journal.compensated = true)
      (corruption "FINALIZING outcome is not fully evidenced")
  | .succeeded => do
    require (journal.installState = some .succeeded ∧ journal.rollbackReceipt = none)
      (corruption "SUCCEEDED update lacks target-install evidence")
    require (journal.restoredSha256 = none)
      (corruption "SUCCEEDED update restored old creative state")
  | .failedSafe => do
    require (journal.installState = some .failedSafe)
      (corruption "FAILED_SAFE update lacks unchanged-package evidence")
    require (journal.rollbackReceipt = none ∧ journal.restoredSha256 = none)
      (corruption "FAILED_SAFE update carries compensation evidence")
  | .rolledBack =>
    require (journal.compensated = true)
      (corruption "ROLLED_BACK update lacks exact compensation evidence")
  | .recoveryRequired => .ok ()

/-- `_validate_journal_semantics`. -/
def validate (digests : UpdateDigests) : Checked Unit := do
  let states := journal.history.map HistoryEntry.state
  require (states.head? = some .prepared ∧ states.getLast? = some journal.state)
    (corruption "update journal history endpoints are invalid")
  checkTransitions states
  checkReceipt digests journal.installReceipt (packageRequest digests journal.plan .install)
    "stored install receipt is inconsistent with the plan"
  checkReceipt digests journal.rollbackReceipt (packageRequest digests journal.plan .rollback)
    "stored rollback receipt is inconsistent with the plan"
  require (∀ restored ∈ journal.restoredSha256, restored = journal.plan.snapshotSha256)
    (corruption "restored creative-state hash differs from the prepared snapshot")
  journal.checkEvidence
  require (journal.state ∈ UpdateState.terminal → journal.reason.getD "" ≠ "")
    (corruption "terminal update state requires a reason")

end UpdateJournal

end N0te.Updating
