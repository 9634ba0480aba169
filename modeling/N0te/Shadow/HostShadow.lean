import Mathlib.Data.List.AList
import Mathlib.Data.Prod.Lex
import Mathlib.Data.String.Basic
import N0te.Library.Json
import N0te.Shadow.Workspaces

/-!
# The Host Shadow

`recordBatch` appends a batch of events to the log, bound to the current observation of a workspace, and
`hostShadowState` computes from the log what is known of the workspace: it replays the batches from the
last `FULL` batch of the current observation on.

Scope. A value is held as its canonical JSON text, which `json.loads` reads back. Of the ids, those of
event rows are left out, which nothing reads.
-/

set_option autoImplicit false
set_option relaxedAutoImplicit false

namespace N0te.Shadow

open Library Lineage

/-! ### Events -/

/-- `_enum`: the member with a name. -/
def enum {α : Type} (value field : String) (names : List (String × α)) : Checked α := do
  let value ← text .hostShadowError value field
  let name := underscored (upper value.val)
  orRaise (names.lookup name) (shadowError s!"unsupported {field}: {name}")

/-- `SHADOW_OBJECT_KINDS`. -/
def objectKinds : List (String × ObjectKind) :=
  [ObjectKind.track, .clipRegion, .devicePlugin, .automation, .routing, .tempo, .marker,
    .transport].map fun kind ↦ (kind.name, kind)

/-- `SHADOW_ACTIONS`. -/
def shadowActions : List (String × ShadowAction) := [("SET", .set), ("REMOVE", .remove)]

/-- `SHADOW_COVERAGE`. -/
def shadowCoverage : List (String × Coverage) := [("FULL", .full), ("INCREMENTAL", .incremental)]

/-- `SHADOW_ACTORS`. -/
def shadowActors : List (String × ShadowActor) :=
  [("HUMAN", .human), ("N0TE", .n0te), ("EXTERNAL", .external)]

/-- `_canonical_json`. -/
def canonicalJson (value : Json) : Checked String :=
  if value.finite then .ok (Json.dumps value)
  else .error (shadowError "shadow SET value must be canonical JSON data")

/-- What an event does, with the canonical text of the value it sets. -/
inductive Change where
  | set (valueJson : String)
  | remove
  deriving DecidableEq

/-- `ShadowEventInput`, after its checks. -/
structure ShadowEventInput where
  objectKind : ObjectKind
  objectRef : Text
  field : Text
  change : Change
  /-- The evidence, when it is not that of the batch. -/
  evidenceRef : Option Text

/-- `ShadowEventInput.__post_init__`. -/
def ShadowEventInput.new (objectKind objectRef field action : String) (value : Json)
    (evidenceRef : Option String) : Checked ShadowEventInput := do
  let kind ← enum objectKind "object_kind" objectKinds
  let objectRef ← text .hostShadowError objectRef "object_ref"
  let field ← text .hostShadowError field "field"
  let action ← enum action "action" shadowActions
  let evidence ← optionalText .hostShadowError evidenceRef "evidence_ref"
  match action, value with
  | .remove, .null => .ok ⟨kind, objectRef, field, .remove, evidence⟩
  | .remove, _ => .error (shadowError "REMOVE events must not carry a value")
  | .set, value => do
    let valueJson ← canonicalJson value
    .ok ⟨kind, objectRef, field, .set valueJson, evidence⟩

/-- What a field of an object is known by. -/
abbrev ShadowKey := String ×ₗ String ×ₗ String

def ShadowEventInput.key (item : ShadowEventInput) : ShadowKey :=
  toLex (item.objectKind.name, toLex (item.objectRef.val, item.field.val))

def ShadowEvent.key (row : ShadowEvent) : ShadowKey :=
  toLex (row.objectKind.name, toLex (row.objectRef, row.field))

def ShadowEventInput.row (batchId : String) (item : ShadowEventInput) : ShadowEvent where
  batchId := batchId
  objectKind := item.objectKind
  objectRef := item.objectRef.val
  field := item.field.val
  action := match item.change with
    | .set _ => .set
    | .remove => .remove
  valueJson := match item.change with
    | .set valueJson => some valueJson
    | .remove => none
  evidenceRef := item.evidenceRef.map Text.val

/-! ### Recording a batch -/

namespace ShadowDb

variable (db : ShadowDb)

/-- Whether an observation of a workspace has a `FULL` batch. -/
def HasFull (workspaceId observationId : String) : Prop :=
  ∃ batch ∈ db.batches, batch.workspaceId = workspaceId ∧
    batch.workspaceObservationId = observationId ∧ batch.coverage = .full

instance (workspaceId observationId : String) : Decidable (db.HasFull workspaceId observationId) :=
  inferInstanceAs (Decidable (∃ _ ∈ _, _))

/-- `INSERT INTO host_shadow_batches`, with the triggers
`host_shadow_batch_matches_workspace_observation` and `host_shadow_incremental_requires_full`. -/
def insertBatch (row : ShadowBatch) : Checked ShadowDb := do
  require (∃ observation ∈ db.latestObservation row.workspaceId,
      observation.id = row.workspaceObservationId ∧
      observation.hostRuntimeFingerprint = row.hostRuntimeFingerprint)
    (integrityError "Host Shadow batch is not bound to the current workspace observation")
  require (row.coverage = .incremental → db.HasFull row.workspaceId row.workspaceObservationId)
    (integrityError "incremental Host Shadow requires a current FULL baseline")
  require (∀ batch ∈ db.batches, batch.id ≠ row.id)
    (integrityError "UNIQUE constraint failed: host_shadow_batches.id")
  require (∃ workspace ∈ db.workspaces, workspace.id = row.workspaceId)
    (integrityError "FOREIGN KEY constraint failed")
  require (sqlNonblank row.hostRuntimeFingerprint = true ∧ sqlNonblank row.evidenceRef = true)
    (integrityError "CHECK constraint failed: host_shadow_batches")
  .ok { db with batches := db.batches ++ [row] }

/-- `INSERT INTO host_shadow_events`. -/
def insertEvent (row : ShadowEvent) : Checked ShadowDb := do
  require (∃ batch ∈ db.batches, batch.id = row.batchId)
    (integrityError "FOREIGN KEY constraint failed")
  require (sqlNonblank row.objectRef = true ∧ sqlNonblank row.field = true)
    (integrityError "CHECK constraint failed: host_shadow_events")
  require (row.action = .set ↔ row.valueJson.isSome = true)
    (integrityError "CHECK constraint failed: host_shadow_events")
  require (∀ event ∈ db.events, ¬ (event.batchId = row.batchId ∧ event.key = row.key))
    (integrityError "UNIQUE constraint failed: host_shadow_events")
  .ok { db with events := db.events ++ [row] }

/-- `INSERT INTO host_shadow_events` for each event. -/
def insertEvents : List ShadowEvent → ShadowDb → Checked ShadowDb
  | [], db => .ok db
  | row :: rest, db => do
    let db ← db.insertEvent row
    insertEvents rest db

/-- The batch with the next sequence number, and its events. -/
def appendBatch (row : ℕ → ShadowBatch) (items : List ShadowEventInput) : Checked ShadowDb := do
  let batch := row (db.batches.length + 1)
  let db ← db.insertBatch batch
  insertEvents (items.map (ShadowEventInput.row batch.id)) db

end ShadowDb

/-- What `record_batch` is given. -/
structure BatchInput where
  workspaceObservationId : String
  hostRuntimeFingerprint : String
  coverage : String
  /-- Who made the changes. -/
  actor : String
  evidenceRef : String
  verified : Bool
  events : List ShadowEventInput

/-- `record_batch`. -/
def recordBatch (uuid : Uuid) (workspaceId : String) (input : BatchInput) :
    ShadowCall ShadowBatch := do
  let workspace ← requireWorkspace workspaceId
  let (observationId, runtimeFingerprint, coverage, actor, evidence) ← .fromExcept do
    let observationId ←
      text .hostShadowError input.workspaceObservationId "workspace_observation_id"
    let runtimeFingerprint ←
      text .hostShadowError input.hostRuntimeFingerprint "host_runtime_fingerprint"
    let coverage ← enum input.coverage "coverage" shadowCoverage
    let actor ← enum input.actor "actor" shadowActors
    let evidence ← text .hostShadowError input.evidenceRef "evidence_ref"
    require (input.verified = true)
      (shadowError "Host Shadow accepts only verified observations")
    .ok (observationId, runtimeFingerprint, coverage, actor, evidence)
  let current ← currentObservation workspace.id
  .fromExcept do
    require (observationId.val = current.id ∧
        runtimeFingerprint.val = current.hostRuntimeFingerprint)
      (shadowError "Host Shadow batch is stale relative to the current workspace observation")
    require (coverage = .incremental → input.events ≠ [])
      (shadowError "INCREMENTAL Host Shadow batch must contain changes")
    require (input.events.map ShadowEventInput.key).Nodup
      (shadowError "one Host Shadow batch may update each object field at most once")
  let full ← .select fun db ↦
    decide (coverage = .incremental → db.HasFull workspace.id observationId.val)
  .fromExcept (require (full = true) (shadowError
    "INCREMENTAL Host Shadow requires a FULL baseline for the current workspace observation"))
  let batchId := newId "shb" uuid
  .transaction fun db ↦ db.appendBatch (fun sequence ↦ {
    sequence := sequence
    id := batchId
    workspaceId := workspace.id
    workspaceObservationId := observationId.val
    hostRuntimeFingerprint := runtimeFingerprint.val
    coverage := coverage
    actor := actor
    evidenceRef := evidence.val }) input.events
  let row ← .select fun db ↦ db.batches.find? fun batch ↦ batch.id = batchId
  .fromExcept (orRaise row (corruption "Host Shadow batch disappeared"))

/-! ### The projection -/

/-- A fact of the projection. -/
structure ShadowFact where
  objectKind : ObjectKind
  objectRef : String
  field : String
  /-- The value, as its canonical text. -/
  valueJson : String
  batchId : String
  actor : ShadowActor
  evidenceRef : String
  deriving DecidableEq

def ShadowFact.key (fact : ShadowFact) : ShadowKey :=
  toLex (fact.objectKind.name, toLex (fact.objectRef, fact.field))

/-- What is known of a workspace. -/
inductive ShadowStatus where
  | empty
  | current
  | stale
  deriving DecidableEq

/-- What `state` returns. -/
structure HostShadowState where
  /-- Whether the projection is current. -/
  status : ShadowStatus
  workspaceId : String
  currentWorkspaceObservationId : String
  /-- The `FULL` batch that the projection starts from. -/
  baselineBatchId : Option String
  latestBatchId : Option String
  facts : List ShadowFact
  deriving DecidableEq

/-- The dictionary that `state` fills. -/
abbrev Projection := AList fun _ : ShadowKey ↦ ShadowFact

/-- The fact that an event of a batch sets: a `SET` event has a value. -/
def ShadowBatch.fact (batch : ShadowBatch) (row : ShadowEvent) : ShadowFact where
  objectKind := row.objectKind
  objectRef := row.objectRef
  field := row.field
  valueJson := row.valueJson.getD "None"
  batchId := batch.id
  actor := batch.actor
  evidenceRef := row.evidenceRef.getD batch.evidenceRef

/-- Replay an event: `projection.pop(key, None)` or `projection[key] = ...`. -/
def replayEvent (batch : ShadowBatch) (projection : Projection) (row : ShadowEvent) : Projection :=
  match row.action with
  | .remove => projection.erase row.key
  | .set => projection.insert row.key (batch.fact row)

namespace ShadowDb

variable (db : ShadowDb)

def eventsOf (batchId : String) : List ShadowEvent :=
  db.events.filter fun row ↦ row.batchId = batchId

/-- The last `FULL` batch of an observation. -/
def baseline (workspaceId : String) (observation : WorkspaceObservation) : Option ShadowBatch :=
  (db.batches.filter fun batch ↦ batch.workspaceId = workspaceId ∧
    batch.workspaceObservationId = observation.id ∧
    batch.hostRuntimeFingerprint = observation.hostRuntimeFingerprint ∧
    batch.coverage = .full).getLast?

/-- The batches of an observation from a sequence number on. -/
def batchesFrom (workspaceId observationId : String) (sequence : ℕ) : List ShadowBatch :=
  db.batches.filter fun batch ↦ batch.workspaceId = workspaceId ∧
    batch.workspaceObservationId = observationId ∧ sequence ≤ batch.sequence

end ShadowDb

/-- Replay the events of batches, which are read batch by batch. -/
def replayBatches : List ShadowBatch → Projection → ShadowCall Projection
  | [], projection => pure projection
  | batch :: rest, projection => do
    let rows ← .select fun db ↦ db.eventsOf batch.id
    replayBatches rest (rows.foldl (replayEvent batch) projection)

/-- `tuple(projection[key] for key in sorted(projection))`. -/
def sortedFacts (projection : Projection) : List ShadowFact :=
  (projection.keys.mergeSort fun a b ↦ decide (a ≤ b)).filterMap projection.lookup

/-- `state`. -/
def hostShadowState (workspaceId : String) : ShadowCall HostShadowState := do
  let workspace ← requireWorkspace workspaceId
  let current ← currentObservation workspace.id
  let anyBatch ← .select fun db ↦ db.batches.any fun batch ↦ batch.workspaceId = workspace.id
  if anyBatch = false then
    return ⟨.empty, workspace.id, current.id, none, none, []⟩
  let baseline ← .select fun db ↦ db.baseline workspace.id current
  match baseline with
  | none => return ⟨.stale, workspace.id, current.id, none, none, []⟩
  | some baseline =>
    let batches ← .select fun db ↦ db.batchesFrom workspace.id current.id baseline.sequence
    let projection ← replayBatches batches ∅
    return ⟨.current, workspace.id, current.id, some baseline.id,
      batches.getLast?.map ShadowBatch.id, sortedFacts projection⟩

/-! ### Operations -/

/-- The operations, with the ids they draw. -/
inductive ShadowOperation where
  | create (workspace observation : Uuid) (songId : String) (input : ObservationInput)
  | reconcileExisting (observation : Uuid) (workspaceId songId relation : String)
      (input : ObservationInput)
  | derive (workspace observation : Uuid) (sourceWorkspaceId songId relation : String)
      (input : ObservationInput)
  | recordBatch (uuid : Uuid) (workspaceId : String) (input : BatchInput)
  | state (workspaceId : String)

/-- What an operation returns. -/
inductive ShadowAnswer where
  | workspace (workspace : WorkspaceIdentity)
  | batch (batch : ShadowBatch)
  | state (state : HostShadowState)
  deriving DecidableEq

def shadowProgram : ShadowOperation → ShadowCall ShadowAnswer
  | .create workspace observation songId input =>
    .workspace <$> create workspace observation songId input
  | .reconcileExisting observation workspaceId songId relation input =>
    .workspace <$> reconcileExisting observation workspaceId songId relation input
  | .derive workspace observation sourceWorkspaceId songId relation input =>
    .workspace <$> derive workspace observation sourceWorkspaceId songId relation input
  | .recordBatch uuid workspaceId input => .batch <$> recordBatch uuid workspaceId input
  | .state workspaceId => .state <$> hostShadowState workspaceId

end N0te.Shadow
