import N0te.Library.Amid
import N0te.Shadow.Workspaces

/-!
# Attaching a host session

`HostSessionHandshake.attach` reads the active song, looks for a workspace at the location of the
host project or for the one that the host knows, checks that it belongs to the song, and creates it,
leaves it as it is or records where it is now. After that it reads the workspace again and binds the
session to its current observation.

Scope. Candidates are in no order: of two or more the handshake raises.
-/

set_option autoImplicit false
set_option relaxedAutoImplicit false

namespace N0te.Shadow

open Library Lineage

/-! ### Exceptions -/

/-- The exception classes of the handshake. -/
inductive HandshakeErrorClass where
  | shadow (cls : ShadowErrorClass)
  | lineage (cls : LineageErrorClass)
  | hostSessionHandshakeError
  | hostObservationError
  deriving DecidableEq

/-- A result or an exception. -/
abbrev Attached (α : Type) := Except (Raised HandshakeErrorClass) α

/-- A `HostSessionHandshakeError`. -/
def handshakeError (message : String) : Raised HandshakeErrorClass :=
  ⟨.hostSessionHandshakeError, message⟩

/-- A `HostObservationError`. -/
def observationError (message : String) : Raised HandshakeErrorClass :=
  ⟨.hostObservationError, message⟩

/-- A call on the workspaces. -/
abbrev HandshakeCall (α : Type) := Call ShadowDb (Raised HandshakeErrorClass) α

/-- An exception of the workspaces. -/
def fromShadow (e : Raised ShadowErrorClass) : Raised HandshakeErrorClass := ⟨.shadow e.cls, e.text⟩

/-- The exception of the workspaces that an exception is, if it is one. -/
def toShadow (e : Raised HandshakeErrorClass) : Option (Raised ShadowErrorClass) :=
  match e.cls with
  | .shadow cls => some ⟨cls, e.text⟩
  | _ => none

/-- A call of the workspaces. -/
def ofShadow {α : Type} (call : ShadowCall α) : HandshakeCall α := call.mapError fromShadow toShadow

/-! ### What is asked and returned -/

/-- The arguments of `attach`. -/
structure AttachInput where
  runtime : HostRuntimeIdentity
  locationRef : String
  knownWorkspaceId : Option String
  displayName : Option String
  stateFingerprint : Option String

/-- The arguments of `attach` once they are checked. -/
structure AttachRequest where
  runtime : HostRuntimeIdentity
  location : Text
  known : Option Text
  display : Option Text
  stateFingerprint : Option Text

/-- `_text`. -/
def handshakeText (value field : String) : Attached Text :=
  orRaise (Text.ofString value) (handshakeError (field ++ " must not be empty"))

/-- `_optional_text`. -/
def optionalHandshakeText (value : Option String) (field : String) : Attached (Option Text) :=
  match value with
  | none => .ok none
  | some value => some <$> handshakeText value field

/-- The checks of the arguments. -/
def AttachInput.request (input : AttachInput) : Attached AttachRequest := do
  let location ← handshakeText input.locationRef "location_ref"
  let known ← optionalHandshakeText input.knownWorkspaceId "known_workspace_id"
  let display ← optionalHandshakeText input.displayName "display_name"
  let stateFingerprint ← optionalHandshakeText input.stateFingerprint "state_fingerprint"
  return ⟨input.runtime, location, known, display, stateFingerprint⟩

/-- `WorkspaceState`. -/
structure WorkspaceState where
  workspace : WorkspaceIdentity
  currentObservation : WorkspaceObservation
  history : List WorkspaceObservation

/-- `HostObservationBinding`. -/
structure HostObservationBinding where
  workspaceId : Text
  songId : Text
  workspaceObservationId : Text
  hostRuntimeFingerprint : Text
  runtime : HostRuntimeIdentity

/-- `HOST_SESSION_HANDSHAKE_STATUSES`. -/
inductive HandshakeStatus where
  | created
  | reused
  | reconciled
  deriving DecidableEq

/-- `HostSessionHandshakeResult`. -/
structure HostSessionHandshakeResult where
  status : HandshakeStatus
  binding : HostObservationBinding
  workspace : WorkspaceState

/-- `_text` of a binding. -/
def bindingText (value field : String) : Attached Text :=
  orRaise (Text.ofString value) (observationError (field ++ " must not be empty"))

/-- `HostObservationBinding.__post_init__`. -/
def HostObservationBinding.new (workspaceId songId observationId fingerprint : String)
    (runtime : HostRuntimeIdentity) : Attached HostObservationBinding := do
  let workspaceId ← bindingText workspaceId "workspace_id"
  let songId ← bindingText songId "song_id"
  let observationId ← bindingText observationId "workspace_observation_id"
  let fingerprint ← bindingText fingerprint "host_runtime_fingerprint"
  require (runtime.fingerprint = fingerprint.val)
    (observationError "binding runtime fingerprint does not match its HostRuntimeIdentity")
  return ⟨workspaceId, songId, observationId, fingerprint, runtime⟩

/-- `HostSessionHandshakeResult.__post_init__`. -/
def HostSessionHandshakeResult.new (status : HandshakeStatus) (binding : HostObservationBinding)
    (state : WorkspaceState) : Attached HostSessionHandshakeResult := do
  require (binding.workspaceId.val = state.workspace.id)
    (handshakeError "handshake binding/workspace identity mismatch")
  require (binding.songId.val = state.workspace.songId)
    (handshakeError "handshake binding/workspace crossed Song identity")
  return ⟨status, binding, state⟩

/-! ### Reads -/

/-- `WorkspaceMemory.state`. -/
def workspaceState (workspaceId : String) : ShadowCall WorkspaceState := do
  let workspace ← requireWorkspace workspaceId
  let history ← .select fun db ↦ db.history workspaceId
  let current ← .fromExcept (orRaise history.getLast?
    (corruption "workspace has no observation history"))
  pure ⟨workspace, current, history⟩

/-- The workspaces that are at a location now. -/
def ShadowDb.candidatesAt (db : ShadowDb) (location : String) : List WorkspaceIdentity :=
  db.workspaces.filter fun workspace ↦
    (db.latestObservation workspace.id).any fun observation ↦ observation.locationRef = location

/-- `current_candidates_at_location`. -/
def candidatesAtLocation (locationRef : String) : ShadowCall (List WorkspaceIdentity) := do
  let location ← .fromExcept (text .workspaceError locationRef "location_ref")
  .select fun db ↦ db.candidatesAt location.val

/-- `WorkspaceMemory.get`. -/
def getWorkspace (workspaceId : String) : ShadowCall (Option WorkspaceIdentity) :=
  .select fun db ↦ db.workspaces.find? fun workspace ↦ workspace.id = workspaceId

/-! ### The handshake -/

/-- `_validate_workspace_owner`. -/
def validateWorkspaceOwner (workspace : WorkspaceIdentity) (activeSongId : String)
    (runtime : HostRuntimeIdentity) : Attached Unit := do
  require (workspace.songId = activeSongId) (handshakeError
    "DAW project is already bound to a different Song; select that Song explicitly")
  require (workspace.hostFamily = runtime.family)
    (handshakeError "DAW project workspace belongs to a different host family")

/-- What `_resolve_existing` makes of the candidates and of the workspace that the host knows. -/
def resolveKnown (activeSongId : String) (runtime : HostRuntimeIdentity)
    (candidates : List WorkspaceIdentity) (found : Option WorkspaceIdentity) :
    Attached WorkspaceIdentity := do
  let workspace ← orRaise found
    (handshakeError "known workspace ID is not present in the active N0TE profile")
  validateWorkspaceOwner workspace activeSongId runtime
  require (∀ candidate ∈ candidates.head?, candidate.id = workspace.id)
    (handshakeError "target DAW project location is owned by another workspace")
  return workspace

/-- What `_resolve_existing` makes of the candidates alone. -/
def resolveCandidate (activeSongId : String) (runtime : HostRuntimeIdentity) :
    Option WorkspaceIdentity → Attached (Option WorkspaceIdentity)
  | none => .ok none
  | some workspace => do
    validateWorkspaceOwner workspace activeSongId runtime
    return some workspace

/-- `_resolve_existing`. -/
def resolveExisting (activeSongId : String) (request : AttachRequest) :
    HandshakeCall (Option WorkspaceIdentity) := do
  let candidates ← ofShadow (candidatesAtLocation request.location.val)
  .fromExcept (require (candidates.length ≤ 1) (handshakeError
    "multiple current workspaces claim the same DAW project location"))
  match request.known with
  | some known => do
    let found ← ofShadow (getWorkspace known.val)
    some <$> .fromExcept (resolveKnown activeSongId request.runtime candidates found)
  | none => .fromExcept (resolveCandidate activeSongId request.runtime candidates.head?)

/-- `HostObservationCoordinator.begin` once the state is read. -/
def bindingOf (songId : String) (runtime : HostRuntimeIdentity) (state : WorkspaceState) :
    Attached HostObservationBinding := do
  require (state.workspace.songId = songId)
    (fromShadow (validationError "workspace belongs to a different Song"))
  require (state.workspace.hostFamily = runtime.family)
    (observationError "runtime belongs to a different host family")
  require (state.currentObservation.hostRuntimeFingerprint = runtime.fingerprint)
    (observationError "runtime is stale relative to the workspace")
  HostObservationBinding.new state.workspace.id state.workspace.songId state.currentObservation.id
    state.currentObservation.hostRuntimeFingerprint runtime

/-- `HostObservationCoordinator.begin`. -/
def beginObservation (workspaceId songId : String) (runtime : HostRuntimeIdentity) :
    HandshakeCall HostObservationBinding := do
  let state ← ofShadow (workspaceState workspaceId)
  .fromExcept (bindingOf songId runtime state)

/-- The end of `attach`. -/
def bindSession (activeSongId : String) (runtime : HostRuntimeIdentity) (status : HandshakeStatus)
    (workspaceId : String) : HandshakeCall HostSessionHandshakeResult := do
  let state ← ofShadow (workspaceState workspaceId)
  let binding ← beginObservation workspaceId activeSongId runtime
  .fromExcept (HostSessionHandshakeResult.new status binding state)

/-- What the host reports is what is observed: of what it does not report, what was observed last.
-/
def AttachRequest.unchanged (request : AttachRequest) (current : WorkspaceObservation) : Bool :=
  current.locationRef = request.location.val ∧
    current.hostRuntimeFingerprint = request.runtime.fingerprint ∧
    (∀ display ∈ request.display, current.displayName = some display.val) ∧
    ∀ state ∈ request.stateFingerprint, current.stateFingerprint = some state.val

/-- A new observation of a request. -/
def AttachRequest.observation (request : AttachRequest) : ObservationInput where
  runtime := request.runtime
  locationRef := request.location.val
  displayName := request.display.map Text.val
  stateFingerprint := request.stateFingerprint.map Text.val

/-- An observation of a request after another. -/
def AttachRequest.observationAfter (request : AttachRequest) (current : WorkspaceObservation) :
    ObservationInput where
  runtime := request.runtime
  locationRef := request.location.val
  displayName := (request.display.map Text.val).or current.displayName
  stateFingerprint := (request.stateFingerprint.map Text.val).or current.stateFingerprint

/-- The ids that an attachment may give. -/
structure AttachIds where
  workspace : Uuid
  observation : Uuid

/-- `attach` from the workspace on that is there. -/
def attachExisting (ids : AttachIds) (activeSongId : String) (request : AttachRequest)
    (workspace : WorkspaceIdentity) : HandshakeCall HostSessionHandshakeResult := do
  let state ← ofShadow (workspaceState workspace.id)
  if request.unchanged state.currentObservation = true then
    bindSession activeSongId request.runtime .reused workspace.id
  else do
    let workspace ← ofShadow (reconcileExisting ids.observation workspace.id activeSongId
      "SAME_OR_MOVED" (request.observationAfter state.currentObservation))
    bindSession activeSongId request.runtime .reconciled workspace.id

/-- `attach` of a workspace that is not there. -/
def attachNew (ids : AttachIds) (activeSongId : String) (request : AttachRequest) :
    HandshakeCall HostSessionHandshakeResult := do
  let workspace ← ofShadow
    (create ids.workspace ids.observation activeSongId request.observation)
  bindSession activeSongId request.runtime .created workspace.id

/-- `attach` once the active song is read. -/
def attachTo (ids : AttachIds) (activeSongId : String) (request : AttachRequest) :
    HandshakeCall HostSessionHandshakeResult := do
  let existing ← resolveExisting activeSongId request
  match existing with
  | none => attachNew ids activeSongId request
  | some workspace => attachExisting ids activeSongId request workspace

/-! ### The active song -/

/-- `LineageStore.active_song`. -/
def activeSong : LineageCall (Option Song) := do
  let songId ← .ask fun db ↦ orRaise (db.metadata.lookup "active_song_id")
    (Lineage.corruption "active Song metadata disappeared")
  if songId = "" then pure none
  else do
    let song ← getSong songId
    some <$> .fromExcept (orRaise song (Lineage.corruption "active Song identity is missing"))

/-- The lineage and the workspaces, which share their songs. -/
structure AttachDb where
  lineage : LineageDb
  shadow : ShadowDb
  songs : shadow.songs = lineage.songs

/-- The workspaces after a transaction on them. -/
def AttachDb.withShadow (db : AttachDb) (shadow : ShadowDb) : AttachDb :=
  ⟨{ db.lineage with songs := shadow.songs }, shadow, rfl⟩

/-- The lineage after a transaction on it. -/
def AttachDb.withLineage (db : AttachDb) (lineage : LineageDb) : AttachDb :=
  ⟨lineage, { db.shadow with songs := lineage.songs }, rfl⟩

/-- A call on the whole. -/
abbrev AttachCall (α : Type) := Call AttachDb (Raised HandshakeErrorClass) α

/-- An exception of the lineage. -/
def fromLineage (e : Raised LineageErrorClass) : Raised HandshakeErrorClass :=
  ⟨.lineage e.cls, e.text⟩

/-- The exception of the lineage that an exception is, if it is one. -/
def toLineage (e : Raised HandshakeErrorClass) : Option (Raised LineageErrorClass) :=
  match e.cls with
  | .lineage cls => some ⟨cls, e.text⟩
  | _ => none

/-- `_active_song_id`. -/
def activeSongId : AttachCall String := do
  let active ← (activeSong.mapError fromLineage toLineage).within AttachDb.lineage
    AttachDb.withLineage
  .fromExcept (Song.id <$> orRaise active
    (handshakeError "host session attachment requires an explicitly active Song"))

/-- `HostSessionHandshake.attach`. -/
def attach (ids : AttachIds) (input : AttachInput) : AttachCall HostSessionHandshakeResult := do
  let request ← .fromExcept input.request
  let activeSongId ← activeSongId
  (attachTo ids activeSongId request).within AttachDb.shadow AttachDb.withShadow

end N0te.Shadow
