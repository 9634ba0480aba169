import N0te.Lineage.LineageStore

/-!
# Workspaces and the log of their observations

A workspace is a project of a host. Where it is and which host runtime it was seen in is a log of
observations, and the last of a workspace is its current one. The log is append-only, and so are the
tables of the Host Shadow, which are part of the same database: rows are held in the order of their
sequence numbers.

Scope. The activity feed that triggers fill and the parsed runtime identity of an observation are left
out: a runtime is its family, its fingerprint and its identity payload as text.
-/

set_option autoImplicit false
set_option relaxedAutoImplicit false

namespace N0te.Shadow

open Library Lineage

/-- The exception classes. -/
inductive ShadowErrorClass where
  | workspaceError
  | hostShadowError
  | validationError
  | notFoundError
  | lineageCorruptionError
  | integrityError
  | operationalError
  deriving DecidableEq

/-- A result or an exception. -/
abbrev Checked (α : Type) := Except (Raised ShadowErrorClass) α

/-- A `WorkspaceError`. -/
def workspaceError (message : String) : Raised ShadowErrorClass := ⟨.workspaceError, message⟩

/-- A `HostShadowError`. -/
def shadowError (message : String) : Raised ShadowErrorClass := ⟨.hostShadowError, message⟩

/-- A `ValidationError`. -/
def validationError (message : String) : Raised ShadowErrorClass := ⟨.validationError, message⟩

/-- A `LineageCorruptionError`. -/
def corruption (message : String) : Raised ShadowErrorClass := ⟨.lineageCorruptionError, message⟩

/-- The `sqlite3.IntegrityError` of a violated constraint or a trigger. -/
def integrityError (message : String) : Raised ShadowErrorClass := ⟨.integrityError, message⟩

/-- `_text`. -/
def text (cls : ShadowErrorClass) (value field : String) : Checked Text :=
  orRaise (Text.ofString value) ⟨cls, s!"{field} must not be empty"⟩

/-- `_optional_text`. -/
def optionalText (cls : ShadowErrorClass) (value : Option String) (field : String) :
    Checked (Option Text) :=
  match value with
  | none => .ok none
  | some value => some <$> text cls value field

/-! ### Tables -/

/-- A host runtime. -/
structure HostRuntimeIdentity where
  family : String
  fingerprint : String
  /-- `_runtime_json`. -/
  identityJson : String
  deriving DecidableEq

/-- How a workspace was derived from another. -/
inductive WorkspaceRelation where
  | duplicate
  | fork
  deriving DecidableEq

/-- A row of `workspaces`. -/
structure WorkspaceIdentity where
  id : String
  songId : String
  hostFamily : String
  /-- The workspace it was derived from, and how. -/
  source : Option (String × WorkspaceRelation)
  deriving DecidableEq

/-- The kinds of observations. -/
inductive ObservationKind where
  | created
  | sameOrMoved
  | recovered
  | duplicated
  | forked
  deriving DecidableEq

/-- A row of `workspace_observations`. -/
structure WorkspaceObservation where
  id : String
  workspaceId : String
  observationKind : ObservationKind
  locationRef : String
  displayName : Option String
  hostRuntimeFingerprint : String
  runtimeIdentityJson : String
  stateFingerprint : Option String
  deriving DecidableEq

/-- How much of a workspace a batch covers. -/
inductive Coverage where
  | full
  | incremental
  deriving DecidableEq

/-- Who made a change. -/
inductive ShadowActor where
  | human
  | n0te
  | external
  deriving DecidableEq

/-- A row of `host_shadow_batches`. Every batch is verified. -/
structure ShadowBatch where
  sequence : ℕ
  id : String
  workspaceId : String
  workspaceObservationId : String
  hostRuntimeFingerprint : String
  coverage : Coverage
  /-- Who made the changes. -/
  actor : ShadowActor
  evidenceRef : String
  deriving DecidableEq

/-- The kinds of objects. -/
inductive ObjectKind where
  | track
  | clipRegion
  | devicePlugin
  | automation
  | routing
  | tempo
  | marker
  | transport
  deriving DecidableEq

def ObjectKind.name : ObjectKind → String
  | track => "TRACK"
  | clipRegion => "CLIP_REGION"
  | devicePlugin => "DEVICE_PLUGIN"
  | automation => "AUTOMATION"
  | routing => "ROUTING"
  | tempo => "TEMPO"
  | marker => "MARKER"
  | transport => "TRANSPORT"

/-- What an event does to a field of an object. -/
inductive ShadowAction where
  | set
  | remove
  deriving DecidableEq

/-- A row of `host_shadow_events`. -/
structure ShadowEvent where
  batchId : String
  objectKind : ObjectKind
  objectRef : String
  field : String
  action : ShadowAction
  /-- The value, as its canonical text. -/
  valueJson : Option String
  /-- The evidence, when it is not that of the batch. -/
  evidenceRef : Option String
  deriving DecidableEq

/-- The part of the database that workspaces and their shadow use. -/
structure ShadowDb where
  /-- `songs`. -/
  songs : List Song
  /-- `workspaces`. -/
  workspaces : List WorkspaceIdentity
  /-- `workspace_observations`. -/
  observations : List WorkspaceObservation
  /-- `host_shadow_batches`. -/
  batches : List ShadowBatch
  /-- `host_shadow_events`. -/
  events : List ShadowEvent

namespace ShadowDb

/-- A database with these songs and no workspace. -/
def withSongs (songs : List Song) : ShadowDb := ⟨songs, [], [], [], []⟩

variable (db : ShadowDb)

/-! ### Statements -/

def history (workspaceId : String) : List WorkspaceObservation :=
  db.observations.filter fun observation ↦ observation.workspaceId = workspaceId

/-- The observation of a workspace with the greatest sequence number. -/
def latestObservation (workspaceId : String) : Option WorkspaceObservation :=
  (db.history workspaceId).getLast?

/-- `INSERT INTO workspaces`, with the trigger `workspace_source_same_song`. -/
def insertWorkspace (row : WorkspaceIdentity) : Checked ShadowDb := do
  require (∀ source ∈ row.source, ∃ workspace ∈ db.workspaces,
      workspace.id = source.1 ∧ workspace.songId = row.songId)
    (integrityError "source workspace belongs to a different Song or is missing")
  require (∀ workspace ∈ db.workspaces, workspace.id ≠ row.id)
    (integrityError "UNIQUE constraint failed: workspaces.id")
  require (∃ song ∈ db.songs, song.id = row.songId) (integrityError "FOREIGN KEY constraint failed")
  require (sqlNonblank row.hostFamily = true) (integrityError "CHECK constraint failed: host_family")
  .ok { db with workspaces := db.workspaces ++ [row] }

/-- `INSERT INTO workspace_observations`, with the trigger `workspace_location_current_unique`. -/
def insertObservation (row : WorkspaceObservation) : Checked ShadowDb := do
  require (∀ prior ∈ db.observations, ¬ (prior.workspaceId ≠ row.workspaceId ∧
      prior.locationRef = row.locationRef ∧
      db.latestObservation prior.workspaceId = some prior))
    (integrityError "location is currently associated with another workspace")
  require (∀ observation ∈ db.observations, observation.id ≠ row.id)
    (integrityError "UNIQUE constraint failed: workspace_observations.id")
  require (∃ workspace ∈ db.workspaces, workspace.id = row.workspaceId)
    (integrityError "FOREIGN KEY constraint failed")
  require (sqlNonblank row.locationRef = true ∧ sqlNonblank row.hostRuntimeFingerprint = true ∧
      sqlNonblank row.runtimeIdentityJson = true)
    (integrityError "CHECK constraint failed: workspace_observations")
  .ok { db with observations := db.observations ++ [row] }

end ShadowDb

/-! ### Workspace memory -/

/-- A call on the database. -/
abbrev ShadowCall (α : Type) := Call ShadowDb (Raised ShadowErrorClass) α

/-- `LineageStore._require_song`. -/
def requireSong (songId : String) : ShadowCall Unit := do
  let song ← .select fun db ↦ db.songs.find? fun song ↦ song.id = songId
  .fromExcept (discard (orRaise song ⟨.notFoundError, s!"Song not found in profile: {songId}"⟩))

/-- `WorkspaceMemory._require`. -/
def requireWorkspace (workspaceId : String) : ShadowCall WorkspaceIdentity := do
  let workspace ← .select fun db ↦ db.workspaces.find? fun workspace ↦ workspace.id = workspaceId
  .fromExcept (orRaise workspace ⟨.notFoundError, s!"workspace not found: {workspaceId}"⟩)

/-- The current observation of `WorkspaceMemory.state`. -/
def currentObservation (workspaceId : String) : ShadowCall WorkspaceObservation := do
  let _ ← requireWorkspace workspaceId
  let latest ← .select fun db ↦ db.latestObservation workspaceId
  .fromExcept (orRaise latest (corruption "workspace has no observation history"))

/-- `current_candidates_at_location`: the ids of the workspaces. -/
def currentCandidatesAtLocation (locationRef : String) : ShadowCall (List String) := do
  let location ← .fromExcept (text .workspaceError locationRef "location_ref")
  .select fun db ↦ (db.workspaces.filter fun workspace ↦
    (db.latestObservation workspace.id).any fun observation ↦
      observation.locationRef = location.val).map WorkspaceIdentity.id

/-- What an observation is made of. -/
structure ObservationInput where
  runtime : HostRuntimeIdentity
  locationRef : String
  displayName : Option String
  stateFingerprint : Option String

/-- `_append_observation`. -/
def appendObservation (uuid : Uuid) (workspaceId : String) (kind : ObservationKind)
    (input : ObservationInput) (db : ShadowDb) : Checked ShadowDb := do
  let location ← text .workspaceError input.locationRef "location_ref"
  let display ← optionalText .workspaceError input.displayName "display_name"
  let state ← optionalText .workspaceError input.stateFingerprint "state_fingerprint"
  db.insertObservation {
    id := newId "wobs" uuid
    workspaceId := workspaceId
    observationKind := kind
    locationRef := location.val
    displayName := display.map Text.val
    hostRuntimeFingerprint := input.runtime.fingerprint
    runtimeIdentityJson := input.runtime.identityJson
    stateFingerprint := state.map Text.val }

/-- `create`. -/
def create (workspace observation : Uuid) (songId : String) (input : ObservationInput) :
    ShadowCall WorkspaceIdentity := do
  requireSong songId
  let candidates ← currentCandidatesAtLocation input.locationRef
  .fromExcept (require (candidates = []) (workspaceError
    "location is already claimed by a current workspace; reconcile explicitly"))
  let workspaceId := newId "wsp" workspace
  .transaction fun db ↦ do
    let db ← db.insertWorkspace ⟨workspaceId, songId, input.runtime.family, none⟩
    appendObservation observation workspaceId .created input db
  requireWorkspace workspaceId

/-- The reconciliations of an existing workspace. -/
def existingReconciliation (relation : String) : Option ObservationKind :=
  match upper (strip relation) with
  | "SAME_OR_MOVED" => some .sameOrMoved
  | "RECOVERED" => some .recovered
  | _ => none

/-- `reconcile_existing`. -/
def reconcileExisting (observation : Uuid) (workspaceId songId relation : String)
    (input : ObservationInput) : ShadowCall WorkspaceIdentity := do
  let workspace ← requireWorkspace workspaceId
  let kind ← .fromExcept do
    require (workspace.songId = songId)
      (validationError "workspace belongs to a different Song")
    let kind ← orRaise (existingReconciliation relation) (workspaceError
      "existing workspace reconciliation requires SAME_OR_MOVED or RECOVERED")
    require (input.runtime.family = workspace.hostFamily) (workspaceError
      "an existing workspace cannot silently change host family; create a fork instead")
    .ok kind
  let candidates ← currentCandidatesAtLocation input.locationRef
  .fromExcept (require (∀ candidate ∈ candidates, candidate = workspace.id)
    (workspaceError "target location is currently claimed by another workspace"))
  .transaction fun db ↦ appendObservation observation workspace.id kind input db
  pure workspace

/-- The relations of a derived workspace, with the kind of its first observation. -/
def workspaceRelation (relation : String) : Option (WorkspaceRelation × ObservationKind) :=
  match upper (strip relation) with
  | "DUPLICATE" => some (.duplicate, .duplicated)
  | "FORK" => some (.fork, .forked)
  | _ => none

/-- `derive`. -/
def derive (workspace observation : Uuid) (sourceWorkspaceId songId relation : String)
    (input : ObservationInput) : ShadowCall WorkspaceIdentity := do
  let source ← requireWorkspace sourceWorkspaceId
  let (relation, kind) ← .fromExcept do
    require (source.songId = songId)
      (validationError "source workspace belongs to a different Song")
    orRaise (workspaceRelation relation)
      (workspaceError "derived workspace requires explicit DUPLICATE or FORK relation")
  let candidates ← currentCandidatesAtLocation input.locationRef
  .fromExcept (require (candidates = []) (workspaceError
    "derived workspace location is already claimed; reconcile the existing workspace instead"))
  let workspaceId := newId "wsp" workspace
  .transaction fun db ↦ do
    let db ← db.insertWorkspace
      ⟨workspaceId, songId, input.runtime.family, some (source.id, relation)⟩
    appendObservation observation workspaceId kind input db
  requireWorkspace workspaceId

end N0te.Shadow
