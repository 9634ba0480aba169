import N0te.Calibration.SessionEvidence
import N0te.Shadow.HostShadow

/-!
# Bundles of session evidence

`buildSessionReferenceEvidenceBundle` writes the evidence of a session as JSON, once a calibration
can be derived from it, and `sessionEvidence` is how the coordinator reads such an object: it asks
for the fields by their names, strips every text and does not take a blank one, and brings the kind
and the actor of a fact to upper case.

Scope. Of the objects that a shadow fact may have as its value, JSON values are modelled. What
`int()` raises is not told apart from a size that is not positive.
-/

set_option autoImplicit false
set_option relaxedAutoImplicit false

namespace N0te.Calibration

open Library Hosts

/-! ### The bundle -/

/-- `SHADOW_OBJECT_KINDS`. -/
def shadowObjectKinds : List String := Shadow.objectKinds.map Prod.fst

/-- `SHADOW_ACTORS`. -/
def shadowActors : List String := Shadow.shadowActors.map Prod.fst

/-- A fact as it is sent. -/
def ShadowFact.json (fact : ShadowFact) : Json := .obj [
  ("object_kind", .str fact.objectKind),
  ("object_ref", .str fact.objectRef),
  ("field", .str fact.field),
  ("value", fact.value),
  ("batch_id", .str fact.batchId),
  ("actor", .str fact.actor),
  ("evidence_ref", .str fact.evidenceRef)]

/-- A shadow as it is sent. -/
def HostShadowState.json (shadow : HostShadowState) : Json := .obj [
  ("status", .str shadow.status),
  ("workspace_id", .str shadow.workspaceId),
  ("current_workspace_observation_id", .str shadow.currentWorkspaceObservationId),
  ("baseline_batch_id", .ofOption shadow.baselineBatchId),
  ("latest_batch_id", .ofOption shadow.latestBatchId),
  ("facts", .arr (shadow.facts.map ShadowFact.json))]

section

variable (rt : EvidenceRuntime)

/-- A runtime as it is sent. -/
def runtimeJson (runtime : HostRuntimeIdentity) : Json := .obj [
  ("host_family", .str runtime.family.name),
  ("version", .str runtime.version.val),
  ("edition", .str runtime.edition.val),
  ("os_name", .str runtime.platform.rawOsName.val),
  ("machine", .str runtime.platform.rawMachine.val),
  ("translation_mode", .str runtime.translationMode.name),
  ("display_name", .ofOption (runtime.displayName.map Line.val)),
  ("generic_host_label", .ofOption (runtime.genericHostLabel.map Line.val)),
  ("fingerprint", .str (runtime.fingerprint rt.toTextRuntime))]

variable {rt}

/-- A binding as it is sent. -/
def HostObservationBinding.json (binding : HostObservationBinding rt) : Json := .obj [
  ("workspace_id", .str binding.workspaceId.val),
  ("song_id", .str binding.songId.val),
  ("workspace_observation_id", .str binding.workspaceObservationId.val),
  ("host_runtime_fingerprint", .str binding.hostRuntimeFingerprint.val),
  ("runtime", runtimeJson rt binding.runtime)]

/-- What a report is about, as it is sent. -/
def EngineeringEvidenceBinding.json (binding : EngineeringEvidenceBinding rt) : Json := .obj [
  ("song_id", .str binding.songId),
  ("version_id", .str binding.versionId),
  ("asset_id", .str binding.assetId),
  ("sha256", .str binding.sha256),
  ("source_size_bytes", binding.sourceSizeBytes)]

/-- `_engineering_snapshot_payload`. -/
def EngineeringSnapshot.json (snapshot : EngineeringSnapshot rt) : Json := .obj [
  ("binding", snapshot.binding.json),
  ("analyzer_version", .str snapshot.analyzerVersion),
  ("sample_rate_hz", snapshot.sampleRateHz),
  ("channels", snapshot.channels),
  ("bits_per_sample", snapshot.bitsPerSample),
  ("frame_count", snapshot.frameCount),
  ("duration_seconds", snapshot.durationSeconds),
  ("sample_peak_dbfs", snapshot.samplePeakDbfs),
  ("rms_dbfs", snapshot.rmsDbfs),
  ("crest_factor_db", snapshot.crestFactorDb),
  ("dc_offset_percent", snapshot.dcOffsetPercent),
  ("stereo_correlation", snapshot.stereoCorrelation),
  ("integrated_lufs", snapshot.integratedLufs),
  ("loudness_state", .str snapshot.loudnessState),
  ("loudness_standard", .str snapshot.loudnessStandard),
  ("loudness_backend", .str snapshot.loudnessBackend)]

/-- The evidence of a session as it is sent. -/
def SessionEvidence.json (session : SessionEvidence rt) : Json := .obj (
  ("binding", session.binding.json) :: ("shadow", session.shadow.json) ::
    (session.engineeringSnapshot.map fun snapshot ↦ ("engineering_snapshot", snapshot.json)).toList)

variable (rt)

/-- `build_session_reference_evidence_bundle`. -/
def buildSessionReferenceEvidenceBundle (session : SessionEvidence rt) :
    CalibrationChecked Json := do
  let _ ← deriveSessionCalibration rt session []
  require (session.json.finite = true) "session reference evidence is not JSON-transportable"
  return session.json

end

/-! ### Reading texts and objects -/

/-- `_strict_object`. -/
def strictObject (raw : Json) (field : String) (allowed required : List String) :
    Except String Unit := do
  require (raw.isObj = true) s!"{field} must be an object"
  let unknown := rankBy id (raw.keys.filter fun key ↦ key ∉ allowed)
  require (unknown = []) (field ++ " contains unsupported fields: " ++ reprList unknown)
  let missing := rankBy id (required.filter fun key ↦ key ∉ raw.keys)
  require (missing = []) (field ++ " is missing required fields: " ++ reprList missing)

/-- `_required_text`. -/
def requiredText (value : Json) (field : String) : Except String Text :=
  match value with
  | .str s => orRaise (Text.ofString s) s!"{field} must be non-empty text"
  | _ => .error s!"{field} must be non-empty text"

/-- `_optional_text`. -/
def optionalText (value : Json) (field : String) : Except String (Option Text) :=
  match value with
  | .null => .ok none
  | value => some <$> requiredText value field

/-! ### Reading a binding -/

section

variable (rt : EvidenceRuntime)

/-- The fields that a runtime may have. -/
def runtimeFields : List String :=
  ["host_family", "version", "edition", "os_name", "machine", "translation_mode", "display_name",
    "generic_host_label", "fingerprint"]

/-- `_runtime_identity`. -/
def runtimeIdentity (raw : Json) : Except String HostRuntimeIdentity := do
  strictObject raw "session.binding.runtime" runtimeFields
    ["host_family", "version", "edition", "os_name", "machine"]
  let hostFamily ← requiredText (raw.get "host_family") "runtime.host_family"
  let version ← requiredText (raw.get "version") "runtime.version"
  let edition ← requiredText (raw.get "edition") "runtime.edition"
  let osName ← requiredText (raw.get "os_name") "runtime.os_name"
  let machine ← requiredText (raw.get "machine") "runtime.machine"
  let mode ← requiredText ((raw.get? "translation_mode").getD (.str "NATIVE"))
    "runtime.translation_mode"
  let displayName ← optionalText (raw.get "display_name") "runtime.display_name"
  let label ← optionalText (raw.get "generic_host_label") "runtime.generic_host_label"
  let runtime ← HostRuntimeIdentity.fromRuntimeLabels rt.toTextRuntime {
    hostFamily := hostFamily.val
    version := version.val
    edition := edition.val
    osName := osName.val
    machine := machine.val
    translationMode := mode.val
    displayName := displayName.map Text.val
    genericHostLabel := label.map Text.val }
  let supplied ← optionalText (raw.get "fingerprint") "runtime.fingerprint"
  require (∀ text ∈ supplied, text.val = runtime.fingerprint rt.toTextRuntime)
    "session runtime fingerprint does not match runtime identity"
  return runtime

def bindingFields : List String :=
  ["workspace_id", "song_id", "workspace_observation_id", "host_runtime_fingerprint", "runtime"]

/-- `_session_binding`. -/
def sessionBinding (raw : Json) : Except String (HostObservationBinding rt) := do
  strictObject raw "session.binding" bindingFields bindingFields
  let runtime ← runtimeIdentity rt (raw.get "runtime")
  let workspaceId ← requiredText (raw.get "workspace_id") "binding.workspace_id"
  let songId ← requiredText (raw.get "song_id") "binding.song_id"
  let observation ← requiredText (raw.get "workspace_observation_id")
    "binding.workspace_observation_id"
  let fingerprint ← requiredText (raw.get "host_runtime_fingerprint")
    "binding.host_runtime_fingerprint"
  let hbound ← ensure (runtime.fingerprint rt.toTextRuntime = fingerprint.val)
    "binding runtime fingerprint does not match its HostRuntimeIdentity"
  return {
    workspaceId, songId, runtime
    workspaceObservationId := observation
    hostRuntimeFingerprint := fingerprint
    bound := hbound.down }

end

/-! ### Reading a shadow -/

def factFields : List String :=
  ["object_kind", "object_ref", "field", "value", "batch_id", "actor", "evidence_ref"]

/-- `_shadow_fact`. -/
def shadowFact (index : ℕ) (raw : Json) : Except String ShadowFact := do
  strictObject raw ("session.shadow.facts[" ++ toString index ++ "]") factFields factFields
  let kind ← requiredText (raw.get "object_kind") "shadow.fact.object_kind"
  let actor ← requiredText (raw.get "actor") "shadow.fact.actor"
  let objectKind := upper kind.val
  let actorName := upper actor.val
  require (objectKind ∈ shadowObjectKinds) s!"unsupported shadow fact object_kind: {objectKind}"
  require (actorName ∈ shadowActors) s!"unsupported shadow fact actor: {actorName}"
  let objectRef ← requiredText (raw.get "object_ref") "shadow.fact.object_ref"
  let field ← requiredText (raw.get "field") "shadow.fact.field"
  let batchId ← requiredText (raw.get "batch_id") "shadow.fact.batch_id"
  let evidenceRef ← requiredText (raw.get "evidence_ref") "shadow.fact.evidence_ref"
  return {
    objectKind
    objectRef := objectRef.val
    field := field.val
    value := raw.get "value"
    batchId := batchId.val
    actor := actorName
    evidenceRef := evidenceRef.val }

def factItems : Json → Except String (List Json)
  | .arr items => .ok items
  | _ => .error "session.shadow.facts must be a list"

def shadowFields : List String :=
  ["status", "workspace_id", "current_workspace_observation_id", "baseline_batch_id",
    "latest_batch_id", "facts"]

/-- `_session_shadow`. -/
def sessionShadow (raw : Json) : Except String HostShadowState := do
  strictObject raw "session.shadow" shadowFields shadowFields
  let items ← factItems (raw.get "facts")
  let status ← requiredText (raw.get "status") "shadow.status"
  let workspaceId ← requiredText (raw.get "workspace_id") "shadow.workspace_id"
  let observation ← requiredText (raw.get "current_workspace_observation_id")
    "shadow.current_workspace_observation_id"
  let baseline ← optionalText (raw.get "baseline_batch_id") "shadow.baseline_batch_id"
  let latest ← optionalText (raw.get "latest_batch_id") "shadow.latest_batch_id"
  let facts ← checkEach shadowFact 0 items
  return {
    status := upper status.val
    workspaceId := workspaceId.val
    currentWorkspaceObservationId := observation.val
    baselineBatchId := baseline.map Text.val
    latestBatchId := latest.map Text.val
    facts }

/-! ### Reading a report -/

section

variable (rt : EvidenceRuntime)

/-- `EngineeringEvidenceBinding`, of texts that were checked. -/
def EngineeringEvidenceBinding.new (songId versionId assetId sha256 : Text) (size : Json) :
    Except String (EngineeringEvidenceBinding rt) := do
  let hdigest ← ensure (IsDigest rt sha256.val) "sha256 must be a lowercase 64-character hex digest"
  let hsize ← ensure (isPositiveSize rt size = true) "source_size_bytes must be positive"
  return {
    songId := songId.val
    versionId := versionId.val
    assetId := assetId.val
    sha256 := sha256.val
    sourceSizeBytes := size
    named := ⟨songId.stripped.symm ▸ songId.nonempty, versionId.stripped.symm ▸ versionId.nonempty,
      assetId.stripped.symm ▸ assetId.nonempty⟩
    digest := hdigest.down
    positive := hsize.down }

/-- The fields of what a report is about. -/
def evidenceFields : List String :=
  ["song_id", "version_id", "asset_id", "sha256", "source_size_bytes"]

/-- The fields of a report. -/
def snapshotFields : List String :=
  ["binding", "analyzer_version", "sample_rate_hz", "channels", "bits_per_sample", "frame_count",
    "duration_seconds", "sample_peak_dbfs", "rms_dbfs", "crest_factor_db", "dc_offset_percent",
    "stereo_correlation", "integrated_lufs", "loudness_state", "loudness_standard",
    "loudness_backend"]

/-- `_engineering_snapshot`, of what is not `None`. -/
def readSnapshot (raw : Json) : Except String (EngineeringSnapshot rt) := do
  strictObject raw "session.engineering_snapshot" snapshotFields snapshotFields
  let about := raw.get "binding"
  strictObject about "session.engineering_snapshot.binding" evidenceFields evidenceFields
  let songId ← requiredText (about.get "song_id") "engineering.binding.song_id"
  let versionId ← requiredText (about.get "version_id") "engineering.binding.version_id"
  let assetId ← requiredText (about.get "asset_id") "engineering.binding.asset_id"
  let sha256 ← requiredText (about.get "sha256") "engineering.binding.sha256"
  let binding ← EngineeringEvidenceBinding.new rt songId versionId assetId sha256
    (about.get "source_size_bytes")
  let analyzerVersion ← requiredText (raw.get "analyzer_version") "engineering.analyzer_version"
  let state ← requiredText (raw.get "loudness_state") "engineering.loudness_state"
  let standard ← requiredText (raw.get "loudness_standard") "engineering.loudness_standard"
  let backend ← requiredText (raw.get "loudness_backend") "engineering.loudness_backend"
  return {
    binding
    analyzerVersion := analyzerVersion.val
    sampleRateHz := raw.get "sample_rate_hz"
    channels := raw.get "channels"
    bitsPerSample := raw.get "bits_per_sample"
    frameCount := raw.get "frame_count"
    durationSeconds := raw.get "duration_seconds"
    samplePeakDbfs := raw.get "sample_peak_dbfs"
    rmsDbfs := raw.get "rms_dbfs"
    crestFactorDb := raw.get "crest_factor_db"
    dcOffsetPercent := raw.get "dc_offset_percent"
    stereoCorrelation := raw.get "stereo_correlation"
    integratedLufs := raw.get "integrated_lufs"
    loudnessState := state.val
    loudnessStandard := standard.val
    loudnessBackend := backend.val }

/-- `_engineering_snapshot`. -/
def engineeringSnapshot (raw : Json) : Except String (Option (EngineeringSnapshot rt)) :=
  match raw with
  | .null => .ok none
  | raw => some <$> readSnapshot rt raw

/-- `_session_evidence`. -/
def sessionEvidence (raw : Json) : Except String (SessionEvidence rt) := do
  strictObject raw "session" ["binding", "shadow", "engineering_snapshot"] ["binding", "shadow"]
  let binding ← sessionBinding rt (raw.get "binding")
  let shadow ← sessionShadow (raw.get "shadow")
  let engineeringSnapshot ← engineeringSnapshot rt (raw.get "engineering_snapshot")
  return { binding, shadow, engineeringSnapshot }

end

end N0te.Calibration
