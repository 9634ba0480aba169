import N0te.Update.UpdateJournal

/-!
# The update coordinator

`apply` takes a prepared update through the package driver, the validation of what was installed
and, if need be, the rollback of the package and the restore of the creative state, and writes every
step to the journal before it goes on. `prepare` writes the journal of a new update.

Scope. What the environment answers is part of the call: the verification of the artifact, the
leases, the snapshot, the package driver and the validation. Journals are read and written whole,
and a lease counts only as the hold on the profile that it is.
-/

set_option autoImplicit false
set_option relaxedAutoImplicit false

namespace N0te.Updating

open Library

/-! ### The store -/

/-- A call of the package driver. -/
structure Invocation where
  updateId : String
  action : PackageAction
  /-- What it returned, if that is a receipt, or raised. -/
  response : Checked (Option PackageActionReceipt)

/-- What outlives the process. -/
structure UpdateStore where
  journals : List UpdateJournal
  /-- The calls of the package driver. -/
  invocations : List Invocation
  /-- The profiles that are held for maintenance. -/
  holds : List String

/-- A call on the store. -/
abbrev UpdateCall (α : Type) := Call UpdateStore (Raised UpdateErrorClass) α

namespace UpdateStore

variable (store : UpdateStore)

def find (updateId : String) : Option UpdateJournal :=
  store.journals.find? fun journal ↦ journal.plan.updateId = updateId

/-- Replace the journal of an update. -/
def put (journal : UpdateJournal) : UpdateStore :=
  { store with
    journals := store.journals.map fun other ↦
      if other.plan.updateId = journal.plan.updateId then journal else other }

end UpdateStore

section

variable (digests : UpdateDigests)

/-! ### Journals -/

/-- `_read_journal`. -/
def readJournal (updateId : String) : UpdateCall UpdateJournal :=
  .ask fun store ↦ do
    let journal ← orRaise (store.find updateId)
      (corruption "update journal is missing or not a real file")
    journal.validate digests
    return journal

/-- `_write_journal` of a new journal. -/
def createJournal (journal : UpdateJournal) : UpdateCall Unit := do
  .fromExcept (journal.validate digests)
  .transaction fun store ↦ do
    require (store.find journal.plan.updateId = none) (corruption "update journal already exists")
    return { store with journals := store.journals ++ [journal] }

/-- `_write_journal` of a journal that was read. -/
def writeJournal (journal : UpdateJournal) : UpdateCall Unit := do
  .fromExcept (journal.validate digests)
  .transaction fun store ↦ .ok (store.put journal)

/-- The evidence that a transition adds. -/
structure Evidence where
  installReceipt : Option PackageActionReceipt
  rollbackReceipt : Option PackageActionReceipt
  restoredSha256 : Option String
  reason : Option String

def noEvidence : Evidence := ⟨none, none, none, none⟩

def optionalUpdateText (value : Option String) (field : String) : Checked (Option String) :=
  match value with
  | none => .ok none
  | some value => some <$> updateText value field

/-- What `_transition` makes of the journal it has read. -/
def UpdateJournal.advance (journal : UpdateJournal) (expected : List UpdateState)
    (newState : UpdateState) (evidence : String) (added : Evidence) : Checked UpdateJournal := do
  require (journal.state ∈ expected) (executeOnce ("update state is " ++ journal.state.name ++
    ", expected one of " ++ reprList (expected.map UpdateState.name)))
  require (newState ∈ journal.state.allowed) (updateError ("illegal update transition: " ++
    journal.state.name ++ "->" ++ newState.name))
  let evidence ← updateText evidence "evidence"
  let reason ← optionalUpdateText added.reason "reason"
  return {
    plan := journal.plan
    state := newState
    history := journal.history ++ [⟨newState, evidence⟩]
    installReceipt := added.installReceipt.or journal.installReceipt
    rollbackReceipt := added.rollbackReceipt.or journal.rollbackReceipt
    restoredSha256 := added.restoredSha256.or journal.restoredSha256
    reason := reason.or journal.reason }

/-- `_transition`. -/
def transition (updateId : String) (expected : List UpdateState) (newState : UpdateState)
    (evidence : String) (added : Evidence) : UpdateCall UpdateJournal := do
  let journal ← readJournal digests updateId
  let journal ← .fromExcept (journal.advance expected newState evidence added)
  writeJournal digests journal
  return journal

/-! ### Results -/

/-- `UpdateResult`. -/
structure UpdateResult where
  state : UpdateState
  plan : UpdatePlan
  installReceipt : Option PackageActionReceipt
  rollbackReceipt : Option PackageActionReceipt
  restoredSha256 : Option String
  reason : String

/-- `_to_result`. -/
def toResult (journal : UpdateJournal) : Checked UpdateResult := do
  require (journal.state ∈ UpdateState.terminal) (updateError "journal is not terminal")
  return ⟨journal.state, journal.plan, journal.installReceipt, journal.rollbackReceipt,
    journal.restoredSha256, journal.reason.getD ("update ended in " ++ journal.state.name)⟩

/-! ### Applying an update -/

/-- A call of `apply`, with what the environment answers to it. -/
structure ApplyInput where
  plan : UpdatePlan
  /-- `_verify_artifact`. -/
  verification : Checked Unit
  /-- `_acquire_coordination`. -/
  coordination : Checked Unit
  /-- `_acquire_profile_hold`. -/
  profileHold : Checked Unit
  /-- `_verify_snapshot_and_live`. -/
  liveState : Checked Unit
  /-- `driver.perform`. -/
  driver : PackageActionRequest → Checked (Option PackageActionReceipt)
  /-- `_validate_installed_headquarters`. -/
  validation : Checked Unit
  /-- `RecoveryManager.restore_snapshot`: the hash of what it installed. -/
  restore : Checked String
  /-- `_release_profile_hold`. -/
  profileRelease : Checked Unit
  /-- `_release_coordination`. -/
  coordinationRelease : Checked Unit

namespace ApplyInput

variable (input : ApplyInput)

/-- `_acquire_profile_hold`. -/
def acquireHold : UpdateCall Unit := .transaction fun store ↦ do
  input.profileHold
  return { store with holds := input.plan.profileId :: store.holds }

/-- `_release_profile_hold`. -/
def releaseHold : UpdateCall Unit := .transaction fun store ↦ do
  input.profileRelease
  return { store with holds := store.holds.filter (· ≠ input.plan.profileId) }

/-- A call of the package driver whose receipt is validated. -/
def perform (action : PackageAction) : UpdateCall PackageActionReceipt := do
  let request := packageRequest digests input.plan action
  .transaction fun store ↦
    .ok { store with
      invocations := store.invocations ++ [⟨input.plan.updateId, action, input.driver request⟩] }
  .fromExcept do
    let receipt ← input.driver request
    validateReceipt digests receipt request

/-- `_mark_recovery`. -/
def markRecovery (expected : List UpdateState) (evidence reason : String)
    (installReceipt rollbackReceipt : Option PackageActionReceipt) : UpdateCall UpdateJournal :=
  transition digests input.plan.updateId expected .recoveryRequired evidence
    ⟨installReceipt, rollbackReceipt, none, some reason⟩

/-- `_finish_recovery` with the profile hold retained. -/
def finishRecovery (journal : UpdateJournal) : UpdateCall UpdateResult :=
  .fromExcept (toResult journal)

/-- `_finalize`. -/
def finalize (terminalState : UpdateState) (terminalEvidence : String) :
    UpdateCall UpdateResult := do
  match ← input.releaseHold.attempt with
  | .error e =>
    let journal ← input.markRecovery digests [.finalizing] "finalize:profile-hold-release-failed"
      ("package/creative-state outcome is known, but the maintenance " ++
        "profile hold could not be released: " ++ e.text) none none
    .fromExcept (toResult journal)
  | .ok ⟨⟩ =>
    match input.coordinationRelease with
    | .error e =>
      let journal ← input.markRecovery digests [.finalizing] "finalize:coordination-release-failed"
        ("package/creative-state outcome is known, but profile update " ++
          "coordination could not be released: " ++ e.text) none none
      .fromExcept (toResult journal)
    | .ok ⟨⟩ =>
      let journal ← transition digests input.plan.updateId [.finalizing] terminalState
        terminalEvidence noEvidence
      .fromExcept (toResult journal)

/-- `_compensate`. -/
def compensate (startingState : UpdateState) (installReceipt : PackageActionReceipt)
    (reason : String) : UpdateCall UpdateResult := do
  let _ ← transition digests input.plan.updateId [startingState] .rollingBack
    ("compensate:" ++ reason) ⟨some installReceipt, none, none, some reason⟩
  match ← (input.perform digests .rollback).attempt with
  | .error e =>
    let journal ← input.markRecovery digests [.rollingBack] "rollback:exception"
      ("package rollback outcome is ambiguous: " ++ e.text) (some installReceipt) none
    finishRecovery journal
  | .ok rollbackReceipt =>
    if rollbackReceipt.state ≠ .succeeded then do
      let journal ← input.markRecovery digests [.rollingBack]
        ("rollback:" ++ rollbackReceipt.evidenceRef)
        ("package rollback did not succeed: " ++ rollbackReceipt.state.name) (some installReceipt)
        (some rollbackReceipt)
      finishRecovery journal
    else do
      let _ ← transition digests input.plan.updateId [.rollingBack] .restoring
        ("rollback:" ++ rollbackReceipt.evidenceRef)
        ⟨some installReceipt, some rollbackReceipt, none, some reason⟩
      match input.restore with
      | .error e =>
        let journal ← input.markRecovery digests [.restoring] "restore:exception"
          ("creative-state snapshot restore failed: " ++ e.text) (some installReceipt)
          (some rollbackReceipt)
        finishRecovery journal
      | .ok installed =>
        if installed ≠ input.plan.snapshotSha256 then do
          let journal ← input.markRecovery digests [.restoring] "restore:hash-mismatch"
            "restored creative state does not match the prepared snapshot" (some installReceipt)
            (some rollbackReceipt)
          finishRecovery journal
        else do
          let _ ← transition digests input.plan.updateId [.restoring] .finalizing
            ("restore:" ++ installed)
            ⟨some installReceipt, some rollbackReceipt, some installed, some reason⟩
          input.finalize digests .rolledBack "finalize:rolled-back"

/-- `apply` once the package was installed. -/
def validateInstalled (installReceipt : PackageActionReceipt) : UpdateCall UpdateResult := do
  let _ ← transition digests input.plan.updateId [.installing] .validating
    ("install:" ++ installReceipt.evidenceRef) ⟨some installReceipt, none, none, none⟩
  match input.validation with
  | .error e =>
    input.compensate digests .validating installReceipt
      ("post-update Headquarters validation failed: " ++ e.text)
  | .ok ⟨⟩ =>
    let _ ← transition digests input.plan.updateId [.validating] .finalizing
      "validation:headquarters-open-integrity-close" ⟨some installReceipt, none, none,
        some "package install and canonical Headquarters validation succeeded"⟩
    input.finalize digests .succeeded "finalize:succeeded"

/-- `apply` once the receipt of the install is there. -/
def installed (installReceipt : PackageActionReceipt) : UpdateCall UpdateResult :=
  match installReceipt.state with
  | .unknown => do
    let journal ← input.markRecovery digests [.installing]
      ("install:" ++ installReceipt.evidenceRef)
      "package install outcome is UNKNOWN; blind retry and rollback are forbidden"
      (some installReceipt) none
    finishRecovery journal
  | .failedSafe => do
    let _ ← transition digests input.plan.updateId [.installing] .finalizing
      ("install:" ++ installReceipt.evidenceRef) ⟨some installReceipt, none, none,
        some "package driver proved install failed before changing package state"⟩
    input.finalize digests .failedSafe "finalize:failed-safe"
  | .failedChanged => input.compensate digests .installing installReceipt
      "package install failed after changing package state"
  | _ => input.validateInstalled digests installReceipt

/-- `apply` with the profile held. -/
def install : UpdateCall UpdateResult := do
  .fromExcept input.liveState
  let _ ← transition digests input.plan.updateId [.prepared] .installing "install:started"
    noEvidence
  match ← (input.perform digests .install).attempt with
  | .error e =>
    let journal ← input.markRecovery digests [.installing] "install:exception"
      ("package install outcome is ambiguous: " ++ e.text) none none
    finishRecovery journal
  | .ok installReceipt => input.installed digests installReceipt

/-- The exceptions that `apply` raises again after it has released what it owns. -/
def passesOn (e : Raised UpdateErrorClass) : Bool :=
  e.cls = .updateRejectedError ∨ e.cls = .updateBusyError ∨ e.cls = .updateExecuteOnceError

/-- Release what the call owns, whatever that raises. -/
def releaseOwned (held : Bool) : UpdateCall Unit :=
  if held then input.releaseHold.rescue fun _ ↦ pure ⟨⟩ else pure ⟨⟩

/-- The journal after an exception that was not expected, marked for recovery if the update is in
flight. -/
def markUnexpected (current : UpdateJournal) (e : Raised UpdateErrorClass) :
    UpdateCall UpdateJournal :=
  if current.state ∈ UpdateState.inFlight then
    (input.markRecovery digests [current.state] "coordinator:unexpected-exception"
      ("update coordinator failed after mutation may have started: " ++ e.text)
      current.installReceipt current.rollbackReceipt).rescue fun _ ↦ pure current
  else pure current

/-- What `apply` does about an exception. -/
def handle (held : Bool) (e : Raised UpdateErrorClass) : UpdateCall UpdateResult :=
  if passesOn e then do
    input.releaseOwned held
    .fromExcept (.error e)
  else do
    let current ← readJournal digests input.plan.updateId
    let current ← input.markUnexpected digests current e
    if current.state = .recoveryRequired then
      finishRecovery current
    else do
      input.releaseOwned held
      .fromExcept (.error e)

/-- `apply` until the profile is held. -/
def hold : UpdateCall Unit := do
  let current ← readJournal digests input.plan.updateId
  .fromExcept (require (current.state = .prepared ∧ current.plan = input.plan)
    (executeOnce "update changed while execution ownership was acquired"))
  input.acquireHold

/-- `apply`. -/
def apply : UpdateCall UpdateResult := do
  let journal ← readJournal digests input.plan.updateId
  .fromExcept (require (journal.plan = input.plan)
    (rejected "supplied update plan differs from durable journal"))
  .fromExcept (require (journal.state = .prepared)
    (executeOnce ("update is execute-once and durable state is already " ++ journal.state.name)))
  .fromExcept input.verification
  .fromExcept input.coordination
  match ← (input.hold digests).attempt with
  | .error e => input.handle digests false e
  | .ok ⟨⟩ => (input.install digests).rescue (input.handle digests true)

end ApplyInput

/-! ### Preparing an update -/

/-- `SnapshotInfo`. -/
structure UpdateSnapshot where
  sha256 : String
  sizeBytes : ℕ
  lineageSchemaVersion : String

/-- A call of `prepare`, with what the environment answers to it. -/
structure PrepareInput where
  profileId : String
  currentReleaseId : String
  /-- The release, version and fingerprint of the manifest. -/
  releaseId : String
  version : String
  manifestFingerprint : String
  artifactId : String
  targetFingerprint : String
  dataRootFingerprint : String
  /-- The checks of the runtime and its process. -/
  runtime : Checked Unit
  /-- `_verify_artifact`: the hash of the artifact. -/
  verification : Checked String
  /-- `_acquire_coordination`. -/
  coordination : Checked Unit
  /-- `RecoveryManager.create_snapshot`. -/
  snapshot : Checked UpdateSnapshot
  /-- `_snapshot_logical_fingerprint`. -/
  snapshotLogical : Checked String
  /-- `runtime.quit`: its status. -/
  quit : Checked String
  /-- `_logical_database_fingerprint` of the live database. -/
  liveLogical : Checked String
  updateId : String
  /-- `_release_coordination`. -/
  coordinationRelease : Checked Unit

/-- `_blocking_updates`. -/
def blockingUpdates (profileId : String) : UpdateCall (List UpdateJournal) :=
  .ask fun store ↦ do
    let _ ← store.journals.mapM (fun journal ↦ journal.validate digests)
    return store.journals.filter fun journal ↦
      journal.plan.profileId = profileId ∧ journal.state ∉ UpdateState.settled

/-- The first journal of an update. -/
def preparedJournal (plan : UpdatePlan) : UpdateJournal where
  plan := plan
  state := .prepared
  history := [⟨.prepared, "snapshot:" ++ plan.snapshotSha256⟩]
  installReceipt := none
  rollbackReceipt := none
  restoredSha256 := none
  reason := none

namespace PrepareInput

variable (input : PrepareInput)

def plan (artifactSha256 snapshotLogical : String) (snapshot : UpdateSnapshot) : UpdatePlan where
  updateId := input.updateId
  profileId := input.profileId
  currentReleaseId := input.currentReleaseId
  targetReleaseId := input.releaseId
  targetVersion := input.version
  manifestFingerprint := input.manifestFingerprint
  artifactId := input.artifactId
  artifactSha256 := artifactSha256
  targetFingerprint := input.targetFingerprint
  dataRootFingerprint := input.dataRootFingerprint
  snapshotSha256 := snapshot.sha256
  snapshotLogicalSha256 := snapshotLogical
  snapshotSizeBytes := snapshot.sizeBytes
  snapshotLineageSchemaVersion := snapshot.lineageSchemaVersion

/-- The plan that `prepare` makes if nothing blocks it. -/
def makePlan (artifactSha256 : String) : UpdateCall UpdatePlan := do
  let blocking ← blockingUpdates digests input.profileId
  .fromExcept do
    require (blocking = []) (rejected "profile already has unresolved or prepared update work")
    let snapshot ← input.snapshot
    let snapshotLogical ← input.snapshotLogical
    let status ← input.quit
    require (status = "STOPPED")
      (rejected ("runtime could not reach STOPPED before update preparation: " ++ status))
    let liveLogical ← input.liveLogical
    require (liveLogical = snapshotLogical)
      (rejected "creative state changed while update preparation was stopping the runtime")
    return input.plan artifactSha256 snapshotLogical snapshot

/-- `prepare` when the plan was made and the journal written, or that raised. -/
def release (plan : UpdatePlan) (written : Checked Unit) : UpdateCall UpdatePlan :=
  match input.coordinationRelease, written with
  | .error e, _ => do
    let _ ← (transition digests plan.updateId [.prepared] .recoveryRequired
      "prepare:coordination-release-failed" ⟨none, none, none,
        some ("no package mutation started, but profile update ownership " ++
          "could not be released after preparation: " ++ e.text)⟩).attempt
    .fromExcept (.error (rejected ("update " ++ plan.updateId ++
      " requires recovery after preparation cleanup failed")))
  | .ok ⟨⟩, .error e => .fromExcept (.error e)
  | .ok ⟨⟩, .ok ⟨⟩ => return plan

/-- `prepare` when no plan was made. -/
def failed (e : Raised UpdateErrorClass) : UpdateCall UpdatePlan :=
  match input.coordinationRelease with
  | .error release => .fromExcept (.error (rejected
      ("update preparation failed and update ownership cleanup also failed: " ++ release.text)))
  | .ok ⟨⟩ => .fromExcept (.error e)

/-- `prepare`. -/
def prepare : UpdateCall UpdatePlan := do
  .fromExcept input.runtime
  let artifactSha256 ← .fromExcept input.verification
  .fromExcept input.coordination
  match ← (input.makePlan digests artifactSha256).attempt with
  | .error e => input.failed e
  | .ok plan =>
    let written ← (createJournal digests (preparedJournal plan)).attempt
    input.release digests plan written

end PrepareInput

/-! ### Operations -/

/-- An operation on updates. -/
inductive UpdateOperation where
  | prepare (input : PrepareInput)
  | apply (input : ApplyInput)

/-- What an operation returns. -/
inductive UpdateReply where
  | prepared (plan : UpdatePlan)
  | applied (result : UpdateResult)

def updateProgram : UpdateOperation → UpdateCall UpdateReply
  | .prepare input => .prepared <$> input.prepare digests
  | .apply input => .applied <$> input.apply digests

end

end N0te.Updating
