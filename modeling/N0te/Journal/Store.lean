import N0te.Governance.Authority
import N0te.Library.Raising

/-!
# The profile database of the operation and transaction journals

The rows of the two journals, in the order they were inserted, and the part of the song lineage
they refer to. Both journals are append-only: triggers refuse every update and delete, so a table
is the list of its rows and a row's sequence number is its position.

`operationEventsOf` and `transactionEventsOf` are the history queries. `Write` is what one committed
transaction adds and `Store.write` adds it.

Scope. The random ids of event rows, the activity feed that triggers copy the events into, and the
schema version metadata are left out.
-/

set_option autoImplicit false
set_option relaxedAutoImplicit false

namespace N0te.Journal

open Library

/-- The exception classes the journals raise. -/
inductive ErrorClass where
  | validationError
  | notFoundError
  | operationError
  | duplicateExecutionError
  | transactionError
  | lineageCorruptionError
  | integrityError
  | typeError
  deriving DecidableEq

/-- A result or an exception of the journals. -/
abbrev Checked (α : Type) := Except (Raised ErrorClass) α

/-- A `LineageCorruptionError`. -/
def corruption (message : String) : Raised ErrorClass := ⟨.lineageCorruptionError, message⟩

/-- The `sqlite3.IntegrityError` of a violated constraint. -/
def integrityError (message : String) : Raised ErrorClass := ⟨.integrityError, message⟩

/-! ### Operation rows -/

/-- The types of operation events. -/
inductive OperationEventType where
  | prepared
  | executionClaimed
  | succeeded
  | failed
  | unknown
  | reconciledSucceeded
  | reconciledFailed
  deriving DecidableEq

namespace OperationEventType

def name : OperationEventType → String
  | prepared => "PREPARED"
  | executionClaimed => "EXECUTION_CLAIMED"
  | succeeded => "SUCCEEDED"
  | failed => "FAILED"
  | unknown => "UNKNOWN"
  | reconciledSucceeded => "RECONCILED_SUCCEEDED"
  | reconciledFailed => "RECONCILED_FAILED"

end OperationEventType

/-- A row of `operation_events`. -/
structure OperationEvent where
  operationId : String
  eventType : OperationEventType
  evidenceRef : Option String
  receiptRef : Option String
  resultFingerprint : Option String
  deriving DecidableEq

/-- A row of `operations`: the identity of an operation. -/
structure OperationRow where
  id : String
  /-- The key under which the operation is executed once. -/
  idempotencyKey : String
  /-- The fingerprint of the approved intent. -/
  intentFingerprint : String
  approvalId : String
  approvalSourceRef : String
  songId : Option String
  versionId : Option String
  /-- The route an outbound operation takes. -/
  transportRouteId : Option String
  /-- The subject an outbound operation is eligible for. -/
  eligibilitySubjectId : Option String
  /-- The capability an outbound operation uses. -/
  eligibilityCapability : Option String
  deriving DecidableEq

/-! ### Transaction rows -/

/-- The types of transaction events. -/
inductive TransactionEventType where
  | planRegistered
  | snapshotCaptured
  | safeFailure
  | stepExecutionStarted
  | stepExecutionRecorded
  | postconditionRecorded
  | compensationStarted
  | compensationRecorded
  | recoveryRequired
  deriving DecidableEq

/-- A row of `transaction_events`. No event of the coordinator has a receipt. -/
structure TransactionEvent where
  transactionId : String
  stepId : Option String
  eventType : TransactionEventType
  /-- The status a driver reported. -/
  status : Option String
  /-- The change state a driver reported. -/
  changeState : Option String
  snapshotRef : Option String
  /-- The fingerprint of the recovery snapshot. -/
  snapshotFingerprint : Option String
  evidenceRef : String
  receiptRef : Option String
  resultFingerprint : Option String
  deriving DecidableEq

/-- A row of `transactions`. -/
structure TransactionRow where
  id : String
  /-- The operation it carries out. -/
  operationId : String
  planFingerprint : String
  deriving DecidableEq

/-- A row of `transaction_steps`. The dependency column holds the JSON text of a list of strings and
is read back as that list. -/
structure TransactionStepRow where
  transactionId : String
  /-- The position in the plan. -/
  ordinal : ℕ
  stepId : String
  description : String
  /-- The postcondition it is verified against. -/
  postconditionRef : String
  /-- Whether it can be undone. -/
  compensatable : Bool
  dependencies : List String
  deriving DecidableEq

/-! ### The store -/

/-- The tables the journals read and write. -/
structure Store where
  profileId : String
  songs : List String
  /-- The ids of the versions, each with its song. -/
  versions : List (String × String)
  /-- `operations`. -/
  operations : List OperationRow
  /-- `operation_events`. -/
  operationEvents : List OperationEvent
  /-- `transactions`. -/
  transactions : List TransactionRow
  /-- `transaction_steps`. -/
  transactionSteps : List TransactionStepRow
  /-- `transaction_events`. -/
  transactionEvents : List TransactionEvent
  deriving DecidableEq

namespace Store

/-- The events of one operation, in order. -/
def operationEventsOf (s : Store) (operationId : String) : List OperationEvent :=
  s.operationEvents.filter fun event ↦ event.operationId == operationId

/-- The events of one transaction, in order. -/
def transactionEventsOf (s : Store) (transactionId : String) : List TransactionEvent :=
  s.transactionEvents.filter fun event ↦ event.transactionId == transactionId

def findOperation (s : Store) (operationId : String) : Option OperationRow :=
  s.operations.find? fun row ↦ row.id == operationId

/-- The operation row with an idempotency key. -/
def findKey (s : Store) (key : String) : Option OperationRow :=
  s.operations.find? fun row ↦ row.idempotencyKey == key

/-- Whether a version belongs to a song. -/
def VersionOf (s : Store) (versionId songId : String) : Prop := (versionId, songId) ∈ s.versions

instance (s : Store) (versionId songId : String) : Decidable (s.VersionOf versionId songId) :=
  inferInstanceAs (Decidable (_ ∈ _))

end Store

end N0te.Journal
