import N0te.Capabilities.EntitlementTruth
import N0te.Capabilities.EvidenceFreshness

/-!
# Negotiating one capability route

Before routes are ranked, `negotiate` decides whether one of them can be: what was observed of it, how
fresh that is, what it supports, and what access the artist has to it. `exists_rankable_iff` says when
it is rankable. What the bindings leave out is the time of the access snapshot and the environment of
its facts: `negotiation_sound_iff` says that rankable routes are sound exactly when these agree.
-/

set_option autoImplicit false
set_option relaxedAutoImplicit false

namespace N0te.Capabilities

open Library Lineage People Evidence

/-! ### Candidates -/

/-- The exception classes of the negotiation. -/
inductive NegotiationErrorClass where
  | capabilityNegotiationError
  | capabilityEvidenceError
  | capabilityResolutionError
  deriving DecidableEq

/-- A result or an exception. -/
abbrev NegotiationChecked (α : Type) := Except (Raised NegotiationErrorClass) α

/-- A `CapabilityNegotiationError`. -/
def negotiationError (message : String) : Raised NegotiationErrorClass :=
  ⟨.capabilityNegotiationError, message⟩

/-- A `CapabilityResolutionError`. -/
def resolutionError (message : String) : Raised NegotiationErrorClass :=
  ⟨.capabilityResolutionError, message⟩

/-- What a route is rated by. -/
structure CapabilityScores where
  /-- How well it fits the task. -/
  taskFit : ℚ
  /-- How well its result can be edited. -/
  editability : ℚ
  locality : ℚ
  privacy : ℚ
  latency : ℚ
  /-- How well it can be undone. -/
  reversibility : ℚ
  costEfficiency : ℚ
  portability : ℚ

def CapabilityScores.fields (scores : CapabilityScores) : List (String × ℚ) :=
  [("task_fit", scores.taskFit), ("editability", scores.editability), ("locality", scores.locality),
    ("privacy", scores.privacy), ("latency", scores.latency),
    ("reversibility", scores.reversibility), ("cost_efficiency", scores.costEfficiency),
    ("portability", scores.portability)]

/-- `CapabilityObservation`. -/
structure CapabilityObservation where
  sequence : ℕ
  id : String
  workspaceId : String
  /-- The observation of the workspace that it was made on. -/
  workspaceObservationId : String
  /-- The host runtime that it was made on. -/
  hostRuntimeFingerprint : String
  routeId : String
  routeKind : String
  capability : String
  displayName : String
  brand : Option String
  availability : String
  evidenceKind : String
  /-- A reference to what it is known from. -/
  evidenceRef : Option String
  observedAtEpochSeconds : ℤ
  scores : CapabilityScores
  paid : Bool

/-- `CapabilityCandidate`. -/
structure CapabilityCandidate where
  candidateId : String
  routeKind : String
  capability : String
  displayName : String
  brand : Option String
  /-- Whether availability is known. -/
  verified : Bool
  compatible : Bool
  /-- A reference to what it is known from. -/
  evidenceRef : Option String
  evidenceAgeSeconds : ℤ
  scores : CapabilityScores
  /-- How much the artist likes it. -/
  userPreference : ℚ
  paid : Bool

/-- `ROUTE_KINDS`. -/
def routeKinds : List String := ["HOST_NATIVE", "N0TE_NATIVE", "OWNED_TOOL", "PROVIDER", "GUIDED"]

/-- `_required_text`. -/
def requiredText (value field : String) : NegotiationChecked String := do
  require (strip value ≠ "") (resolutionError s!"{field} must not be empty")
  .ok (strip value)

/-- `_required_text` unless there is no value. -/
def optionalRequiredText (value : Option String) (field : String) :
    NegotiationChecked (Option String) :=
  match value with
  | none => .ok none
  | some value => some <$> requiredText value field

/-- `_unit_interval` of each rating. -/
def checkScores : List (String × ℚ) → NegotiationChecked Unit
  | [] => .ok ⟨⟩
  | (field, score) :: rest => do
    require (0 ≤ score ∧ score ≤ 1)
      (resolutionError s!"candidate.{field} must be between 0 and 1")
    checkScores rest

section

variable (rt : AccessRuntime) (observation : CapabilityObservation)

/-- `candidate_id`. -/
def candidateId : String :=
  let separator := String.singleton (Char.ofNat 0)
  "caproute_" ++ rt.sha256 ("n0te-capability-route/v1" ++ separator ++ observation.routeKind ++
    separator ++ observation.routeId ++ separator ++ observation.capability)

/-- `to_candidate`, with the checks of `CapabilityCandidate`. -/
def toCandidate (now : ℤ) : NegotiationChecked CapabilityCandidate := do
  require (0 ≤ now)
    ⟨.capabilityEvidenceError, "now_epoch_seconds must be a non-negative integer"⟩
  require (observation.observedAtEpochSeconds ≤ now)
    ⟨.capabilityEvidenceError, "now_epoch_seconds predates the capability observation"⟩
  let candidateId ← requiredText (candidateId rt observation) "candidate.candidate_id"
  let routeKind := upper (strip observation.routeKind)
  require (routeKind ∈ routeKinds) (resolutionError s!"unsupported route kind: {routeKind}")
  let capability ← requiredText observation.capability "candidate.capability"
  let displayName ← requiredText observation.displayName "candidate.display_name"
  let brand ← optionalRequiredText observation.brand "candidate.brand"
  let evidenceRef ← optionalRequiredText observation.evidenceRef "candidate.evidence_ref"
  let verified := decide (observation.availability ≠ "UNKNOWN")
  require (verified = true → evidenceRef ≠ none)
    (resolutionError "verified candidate requires an explicit evidence_ref")
  checkScores observation.scores.fields
  .ok {
    candidateId := candidateId
    routeKind := routeKind
    capability := capability
    displayName := displayName
    brand := brand
    verified := verified
    compatible := decide (observation.availability ≠ "UNAVAILABLE")
    evidenceRef := evidenceRef
    evidenceAgeSeconds := now - observation.observedAtEpochSeconds
    scores := observation.scores
    userPreference := 1 / 2
    paid := observation.paid }

end

/-! ### Requests and routes -/

/-- `OperationDepth`. -/
structure OperationDepth where
  operation : Text
  /-- How deep it goes. -/
  depth : Text
  deriving DecidableEq

/-- `N0TEableJob`. -/
structure N0TEableJob where
  id : Text
  capability : Text
  description : Text

/-- `CapabilityNegotiationRequest`. -/
structure CapabilityNegotiationRequest where
  job : N0TEableJob
  profileId : Text
  subjectId : Text
  workspaceObservationId : Text
  environmentFingerprint : Text
  /-- The acceptable paths, the strongest first. -/
  acceptablePaths : List OperationDepth
  /-- No path is there twice. -/
  paths_nodup : acceptablePaths.Nodup
  paths_ne : acceptablePaths ≠ []

/-- `CapabilityRouteCharacterization`. -/
structure CapabilityRouteCharacterization where
  observation : CapabilityObservation
  supportedPaths : List OperationDepth
  /-- A reference to the characterization. -/
  characterizationRef : Text
  /-- The kind of access that it needs. -/
  accessKind : Option AccessKind
  entitlementRequired : Bool
  permissionRequired : Bool
  /-- No path is there twice. -/
  paths_nodup : supportedPaths.Nodup
  /-- A kind of access is named if and only if access is needed. -/
  accessKind_iff : accessKind.isSome = true ↔ entitlementRequired = true ∨ permissionRequired = true

/-- `_text`. -/
def negotiationText (value field : String) : NegotiationChecked Text :=
  orRaise (Text.ofString value) (negotiationError s!"{field} must not be empty")

/-- `OperationDepth(operation, depth)`. -/
def operationDepth (operation depth : String) : NegotiationChecked OperationDepth := do
  let operation ← negotiationText operation "path.operation"
  let depth ← negotiationText depth "path.depth"
  .ok ⟨operation, depth⟩

/-- `_normalize_paths`. -/
def normalizePaths (paths : List OperationDepth) (field : String) :
    NegotiationChecked {paths : List OperationDepth // paths.Nodup} :=
  if h : paths.Nodup then .ok ⟨paths, h⟩
  else .error (negotiationError s!"{field} must not contain duplicates")

/-- `CapabilityNegotiationRequest(…)`. -/
def negotiationRequest (job : N0TEableJob)
    (profileId subjectId workspaceObservationId environmentFingerprint : String)
    (acceptablePaths : List OperationDepth) : NegotiationChecked CapabilityNegotiationRequest := do
  let profileId ← negotiationText profileId "request.profile_id"
  let subjectId ← negotiationText subjectId "request.subject_id"
  let workspaceObservationId ←
    negotiationText workspaceObservationId "request.workspace_observation_id"
  let environmentFingerprint ←
    negotiationText environmentFingerprint "request.environment_fingerprint"
  let paths ← normalizePaths acceptablePaths "request.acceptable_paths"
  if h : paths.val ≠ [] then
    .ok ⟨job, profileId, subjectId, workspaceObservationId, environmentFingerprint, paths.val,
      paths.property, h⟩
  else .error (negotiationError "request.acceptable_paths must contain at least one path")

def characterizationKind (required : Bool) (accessKind : Option String) :
    NegotiationChecked {kind : Option AccessKind // kind.isSome = required} :=
  match required, accessKind with
  | true, none => .error
      (negotiationError "characterization.access_kind is required when access is required")
  | true, some value => do
    let text ← negotiationText value "characterization.access_kind"
    let name := upper text.val
    let kind ← orRaise (AccessKind.ofName name)
      (negotiationError s!"unsupported characterization.access_kind: {name}")
    .ok ⟨some kind, rfl⟩
  | false, none => .ok ⟨none, rfl⟩
  | false, some _ => .error (negotiationError
      "characterization.access_kind must be omitted when access is not required")

/-- `CapabilityRouteCharacterization(…)`. -/
def routeCharacterization (observation : CapabilityObservation) (supportedPaths : List OperationDepth)
    (characterizationRef : String) (accessKind : Option String)
    (entitlementRequired permissionRequired : Bool) :
    NegotiationChecked CapabilityRouteCharacterization := do
  let paths ← normalizePaths supportedPaths "characterization.supported_paths"
  let characterizationRef ←
    negotiationText characterizationRef "characterization.characterization_ref"
  let kind ← characterizationKind (entitlementRequired || permissionRequired) accessKind
  .ok ⟨observation, paths.val, characterizationRef, kind.val, entitlementRequired,
    permissionRequired, paths.property, by rw [kind.property, Bool.or_eq_true]⟩

/-! ### Bindings -/

/-- `dependency_map.get` of the dependencies of an assessment. -/
def dependencyOf (freshness : EvidenceFreshnessAssessment) (kind : DependencyKind) (key : String) :
    Option DependencyFreshness :=
  freshness.dependencyStates.reverse.find? fun item ↦ item.kind = kind ∧ item.key.val = key

section

variable (request : CapabilityNegotiationRequest) (characterization : CapabilityRouteCharacterization)
  (freshness : EvidenceFreshnessAssessment) (access : Option EntitlementSnapshot)

def CapabilityRouteCharacterization.accessRequired : Bool :=
  characterization.entitlementRequired || characterization.permissionRequired

/-- The checks of `_validate_bindings` on the assessment. -/
def validateFreshness : NegotiationChecked Unit := do
  let observation := characterization.observation
  require (observation.capability = request.job.capability.val)
    (negotiationError "route capability does not match the requested job capability")
  require (freshness.observedAtEpochSeconds = observation.observedAtEpochSeconds)
    (negotiationError "freshness assessment does not describe the route observation time")
  let unbound :=
    negotiationError "freshness assessment must bind workspace observation and host runtime"
  let workspace ←
    orRaise (dependencyOf freshness .workspaceObservation "workspace_observation") unbound
  let runtime ← orRaise (dependencyOf freshness .hostRuntime "host_runtime") unbound
  require (workspace.observedFingerprint.val = observation.workspaceObservationId)
    (negotiationError "freshness workspace evidence does not describe the route observation")
  require (workspace.currentFingerprint = some request.workspaceObservationId)
    (negotiationError "freshness workspace current state does not match the negotiation case")
  require (runtime.observedFingerprint.val = observation.hostRuntimeFingerprint)
    (negotiationError "freshness runtime evidence does not describe the route observation")
  require (runtime.currentFingerprint = some request.environmentFingerprint)
    (negotiationError "freshness runtime current state does not match the negotiation case")

/-- The checks of `_validate_bindings` on the access snapshot. -/
def validateAccess : NegotiationChecked Unit :=
  match characterization.accessRequired, access with
  | false, none => .ok ⟨⟩
  | false, some _ => .error (negotiationError
      "access evidence must be omitted when the route requires no access gate")
  | true, none => .ok ⟨⟩
  | true, some access => do
    require (access.profileId = request.profileId.val)
      (negotiationError "access evidence does not match the requested profile")
    require (access.routeId.val = characterization.observation.routeId)
      (negotiationError "access evidence does not match the characterized route")
    require (access.capability = request.job.capability)
      (negotiationError "access evidence does not match the requested capability")
    require (some access.accessKind = characterization.accessKind)
      (negotiationError "access evidence does not match the characterized access kind")

/-- `_validate_bindings`. -/
def validateBindings : NegotiationChecked Unit := do
  validateFreshness request characterization freshness
  validateAccess request characterization access

/-! ### Findings -/

/-- What a finding means for a route. -/
inductive Verdict where
  | fine
  | unknown
  | revalidationRequired
  | conflict
  | hardUnavailable
  deriving DecidableEq

/-- A reason code and what it means. -/
abbrev Finding : Type := String × Verdict

def availabilityFinding : Finding :=
  if characterization.observation.availability = "AVAILABLE" then ("CAPABILITY_AVAILABLE", .fine)
  else if characterization.observation.availability = "UNAVAILABLE" then
    ("CAPABILITY_UNAVAILABLE", .hardUnavailable)
  else ("CAPABILITY_AVAILABILITY_UNKNOWN", .unknown)

def freshnessFinding : FreshnessState → Finding
  | .current => ("EVIDENCE_CURRENT", .fine)
  | .revalidationRequired => ("EVIDENCE_REVALIDATION_REQUIRED", .revalidationRequired)
  | .expired => ("EVIDENCE_EXPIRED", .revalidationRequired)
  | .unknown => ("EVIDENCE_FRESHNESS_UNKNOWN", .unknown)

/-- Whether the access facts agree. -/
def resolutionFinding : ResolutionStatus → Finding
  | .conflict => ("ACCESS_CONFLICT", .conflict)
  | .unknown => ("ACCESS_RESOLUTION_UNKNOWN", .unknown)
  | .resolved => ("ACCESS_RESOLVED", .fine)

/-- Whether the access facts are current. -/
def validityFinding : ValidityState → Finding
  | .expired => ("ACCESS_EXPIRED", .revalidationRequired)
  | .unknown => ("ACCESS_VALIDITY_UNKNOWN", .unknown)
  | .current => ("ACCESS_CURRENT", .fine)

def requirementFindings (name : String) (required : Bool) (state : AccessState) : List Finding :=
  if required then
    match state with
    | .denied => [(name ++ "_DENIED", .hardUnavailable)]
    | .unknown => [(name ++ "_ELIGIBILITY_UNKNOWN", .unknown)]
    | .notRequired => [(name ++ "_REQUIREMENT_CONFLICT", .conflict)]
    | .granted => [(name ++ "_ELIGIBLE_GRANTED", .fine)]
  else []

/-- What is found about access. -/
def accessFindings : List Finding :=
  match characterization.accessRequired, access with
  | false, _ => [("ACCESS_NOT_REQUIRED", .fine)]
  | true, none => [("ACCESS_EVIDENCE_MISSING", .unknown)]
  | true, some access =>
    [resolutionFinding access.resolutionStatus, validityFinding access.validityState] ++
    requirementFindings "ENTITLEMENT" characterization.entitlementRequired
      access.eligibilityEntitlementState ++
    requirementFindings "PERMISSION" characterization.permissionRequired
      access.eligibilityPermissionState

/-- The first acceptable path that the route supports. -/
def commonIndex : Option ℕ :=
  request.acceptablePaths.findIdx? fun path ↦ path ∈ characterization.supportedPaths

def pathFinding : Option ℕ → Finding
  | none => ("NO_COMMON_OPERATION_DEPTH", .hardUnavailable)
  | some 0 => ("STRONGEST_REQUESTED_PATH_SUPPORTED", .fine)
  | some _ => ("STRONGEST_COMMON_PATH_IS_DEGRADED", .fine)

/-- Everything that is found. -/
def findings : List Finding :=
  [("ROUTE_CHARACTERIZATION_BOUND", .fine), availabilityFinding characterization,
    freshnessFinding freshness.state] ++
  freshness.reasonCodes.map (fun reason ↦ ("FRESHNESS:" ++ reason, .fine)) ++
  accessFindings characterization access ++
  [pathFinding (commonIndex request characterization)]

/-! ### Negotiation -/

/-- `NEGOTIATION_STATUSES`. -/
inductive NegotiationStatus where
  | negotiable
  | degraded
  | unavailable
  | unknown
  | conflict
  | revalidationRequired
  deriving DecidableEq

/-- A status that lets a route be ranked. -/
def NegotiationStatus.rankable (status : NegotiationStatus) : Bool :=
  status = .negotiable ∨ status = .degraded

def negotiationStatus (found : List Finding) (index : Option ℕ) : NegotiationStatus :=
  let verdicts := found.map Prod.snd
  if .hardUnavailable ∈ verdicts then .unavailable
  else if .conflict ∈ verdicts then .conflict
  else if .revalidationRequired ∈ verdicts then .revalidationRequired
  else if .unknown ∈ verdicts then .unknown
  else if index.any (0 < ·) then .degraded
  else .negotiable

/-- `CapabilityNegotiationResult`. -/
structure CapabilityNegotiationResult where
  status : NegotiationStatus
  jobId : Text
  profileId : Text
  subjectId : Text
  routeId : String
  routeKind : String
  capability : Text
  workspaceObservationId : Text
  environmentFingerprint : Text
  requestedPaths : List OperationDepth
  /-- The paths that the route supports. -/
  supportedPaths : List OperationDepth
  /-- The first of the former among the latter. -/
  strongestCommonPath : Option OperationDepth
  strongestCommonPathIndex : Option ℕ
  availability : String
  /-- Whether the access facts agree, if access is needed. -/
  accessResolutionStatus : Option ResolutionStatus
  entitlementState : AccessState
  permissionState : AccessState
  /-- The entitlement that makes eligible. -/
  eligibilityEntitlementState : AccessState
  /-- The permission that makes eligible. -/
  eligibilityPermissionState : AccessState
  freshnessState : FreshnessState
  /-- What the observation refers to. -/
  capabilityEvidenceRef : Option String
  /-- What the characterization refers to. -/
  characterizationRef : Text
  /-- The fingerprint of the access snapshot. -/
  accessFingerprint : Option String
  /-- What can be ranked. -/
  candidate : Option CapabilityCandidate
  reasonCodes : List String

/-- `rankable`. -/
def CapabilityNegotiationResult.rankable (result : CapabilityNegotiationResult) : Bool :=
  result.status.rankable

def missingState (required : Bool) : AccessState := if required then .unknown else .notRequired

/-- A field of the access snapshot, if access is needed and known. -/
def accessField {α : Type} (notRequired missing : α) (field : EntitlementSnapshot → α) : α :=
  match characterization.accessRequired, access with
  | false, _ => notRequired
  | true, none => missing
  | true, some access => field access

/-- What a rankable route exposes. -/
def exposedCandidate (rt : AccessRuntime) (status : NegotiationStatus) :
    NegotiationChecked (Option CapabilityCandidate) :=
  if status.rankable then
    some <$> toCandidate rt characterization.observation freshness.asOfEpochSeconds
  else .ok none

/-- `negotiate`. -/
def negotiate (rt : AccessRuntime) : NegotiationChecked CapabilityNegotiationResult := do
  validateBindings request characterization freshness access
  let observation := characterization.observation
  let index := commonIndex request characterization
  let path := index.bind fun i ↦ request.acceptablePaths[i]?
  let found := findings request characterization freshness access
  let status := negotiationStatus found index
  let candidate ← exposedCandidate characterization freshness rt status
  require (status.rankable = true → path ≠ none)
    (negotiationError "rankable negotiation result requires a common path and candidate")
  let exposed := if status.rankable then "RANKING_CANDIDATE_EXPOSED_AFTER_NEGOTIATION"
    else "NO_RANKING_CANDIDATE"
  let missingEntitlement := missingState characterization.entitlementRequired
  let missingPermission := missingState characterization.permissionRequired
  .ok {
    status := status
    jobId := request.job.id
    profileId := request.profileId
    subjectId := request.subjectId
    routeId := observation.routeId
    routeKind := observation.routeKind
    capability := request.job.capability
    workspaceObservationId := request.workspaceObservationId
    environmentFingerprint := request.environmentFingerprint
    requestedPaths := request.acceptablePaths
    supportedPaths := characterization.supportedPaths
    strongestCommonPath := path
    strongestCommonPathIndex := index
    availability := observation.availability
    accessResolutionStatus := accessField characterization access none (some .unknown)
      fun access ↦ some access.resolutionStatus
    entitlementState := accessField characterization access .notRequired missingEntitlement
      EntitlementSnapshot.entitlementState
    permissionState := accessField characterization access .notRequired missingPermission
      EntitlementSnapshot.permissionState
    eligibilityEntitlementState := accessField characterization access .notRequired
      missingEntitlement EntitlementSnapshot.eligibilityEntitlementState
    eligibilityPermissionState := accessField characterization access .notRequired missingPermission
      EntitlementSnapshot.eligibilityPermissionState
    freshnessState := freshness.state
    capabilityEvidenceRef := observation.evidenceRef
    characterizationRef := characterization.characterizationRef
    accessFingerprint := accessField characterization access none none
      fun access ↦ some access.fingerprint
    candidate := candidate
    reasonCodes := (found.map Prod.fst ++
      [exposed, "NEGOTIATION_ONLY_NO_ACTION_AUTHORITY"]).eraseDups }

end

/-! ### When a route is rankable -/

theorem rankable_negotiationStatus {found : List Finding} {index : Option ℕ} :
    (negotiationStatus found index).rankable = true ↔ ∀ finding ∈ found, finding.2 = .fine := by
  unfold negotiationStatus
  have hfine : (∀ finding ∈ found, finding.2 = .fine) ↔
      .hardUnavailable ∉ found.map Prod.snd ∧ .conflict ∉ found.map Prod.snd ∧
        .revalidationRequired ∉ found.map Prod.snd ∧ .unknown ∉ found.map Prod.snd := by
    simp only [List.mem_map, not_exists, not_and]
    constructor
    · intro h
      refine ⟨?_, ?_, ?_, ?_⟩
      all_goals
        intro finding hfinding hverdict
        rw [h finding hfinding] at hverdict
        cases hverdict
    · rintro ⟨hhard, hconflict, hrevalidate, hunknown⟩ finding hfinding
      cases hverdict : finding.2 with
      | fine => rfl
      | unknown => exact absurd hverdict (hunknown finding hfinding)
      | revalidationRequired => exact absurd hverdict (hrevalidate finding hfinding)
      | conflict => exact absurd hverdict (hconflict finding hfinding)
      | hardUnavailable => exact absurd hverdict (hhard finding hfinding)
  rw [hfine]
  dsimp only
  split_ifs with hhard hconflict hrevalidate hunknown hdegraded
  · simp [NegotiationStatus.rankable, hhard]
  · simp [NegotiationStatus.rankable, hconflict]
  · simp [NegotiationStatus.rankable, hrevalidate]
  · simp [NegotiationStatus.rankable, hunknown]
  · exact ⟨fun _ ↦ ⟨hhard, hconflict, hrevalidate, hunknown⟩, fun _ ↦ rfl⟩
  · exact ⟨fun _ ↦ ⟨hhard, hconflict, hrevalidate, hunknown⟩, fun _ ↦ rfl⟩

/-- The access that a route needs is eligible as granted. -/
structure AccessEligible (characterization : CapabilityRouteCharacterization)
    (access : EntitlementSnapshot) : Prop where
  /-- The facts agree. -/
  resolved : access.resolutionStatus = .resolved
  /-- There are current facts. -/
  current : access.validityState = .current
  /-- The entitlement is eligible. -/
  entitlement : characterization.entitlementRequired = true →
    access.eligibilityEntitlementState = .granted
  /-- The permission is eligible. -/
  permission : characterization.permissionRequired = true →
    access.eligibilityPermissionState = .granted

section

variable {request : CapabilityNegotiationRequest} {characterization : CapabilityRouteCharacterization}
  {freshness : EvidenceFreshnessAssessment} {access : Option EntitlementSnapshot}

theorem fine_requirementFindings {name : String} {required : Bool} {state : AccessState} :
    (∀ finding ∈ requirementFindings name required state, finding.2 = .fine) ↔
      (required = true → state = .granted) := by
  cases required <;> cases state <;> simp [requirementFindings]

theorem fine_accessFindings :
    (∀ finding ∈ accessFindings characterization access, finding.2 = .fine) ↔
      (characterization.accessRequired = true →
        ∃ snapshot, access = some snapshot ∧ AccessEligible characterization snapshot) := by
  unfold accessFindings
  cases hrequired : characterization.accessRequired with
  | false => simp
  | true =>
    cases access with
    | none => simp
    | some access =>
      have hresolved : (resolutionFinding access.resolutionStatus).2 = .fine ↔
          access.resolutionStatus = .resolved := by
        cases access.resolutionStatus <;> simp [resolutionFinding]
      have hcurrent : (validityFinding access.validityState).2 = .fine ↔
          access.validityState = .current := by
        cases access.validityState <;> simp [validityFinding]
      simp only [List.forall_mem_append, fine_requirementFindings, List.forall_mem_cons, hresolved,
        hcurrent]
      constructor
      · rintro ⟨⟨⟨hresolved, hcurrent, -⟩, hentitlement⟩, hpermission⟩ -
        exact ⟨access, rfl, hresolved, hcurrent, hentitlement, hpermission⟩
      · intro h
        obtain ⟨snapshot, hsame, heligible⟩ := h trivial
        obtain rfl := Option.some.inj hsame
        exact ⟨⟨⟨heligible.resolved, heligible.current, List.forall_mem_nil _⟩,
          heligible.entitlement⟩, heligible.permission⟩

/-- When a route is rankable. -/
structure Eligible (rt : AccessRuntime) (request : CapabilityNegotiationRequest)
    (characterization : CapabilityRouteCharacterization) (freshness : EvidenceFreshnessAssessment)
    (access : Option EntitlementSnapshot) : Prop where
  /-- What was given fits together. -/
  bindings : validateBindings request characterization freshness access = .ok ⟨⟩
  /-- The route is available. -/
  available : characterization.observation.availability = "AVAILABLE"
  /-- What is known of it is fresh. -/
  fresh : freshness.state = .current
  /-- The access that it needs is eligible as granted. -/
  access : characterization.accessRequired = true →
    ∃ snapshot, access = some snapshot ∧ AccessEligible characterization snapshot
  /-- It supports an acceptable path. -/
  path : commonIndex request characterization ≠ none
  candidate : ∃ candidate,
    toCandidate rt characterization.observation freshness.asOfEpochSeconds = .ok candidate

theorem fine_findings :
    (∀ finding ∈ findings request characterization freshness access, finding.2 = .fine) ↔
      characterization.observation.availability = "AVAILABLE" ∧ freshness.state = .current ∧
        (characterization.accessRequired = true →
          ∃ snapshot, access = some snapshot ∧ AccessEligible characterization snapshot) ∧
        commonIndex request characterization ≠ none := by
  have havailable : (availabilityFinding characterization).2 = .fine ↔
      characterization.observation.availability = "AVAILABLE" := by
    unfold availabilityFinding
    split_ifs with h h'
    · simp [h]
    · simp [h]
    · simp [h]
  have hfresh : (freshnessFinding freshness.state).2 = .fine ↔ freshness.state = .current := by
    cases freshness.state <;> simp [freshnessFinding]
  have hpath : ∀ index, (pathFinding index).2 = .fine ↔ index ≠ none := by
    intro index
    unfold pathFinding
    split <;> simp
  have hreasons : ∀ finding ∈ freshness.reasonCodes.map
      (fun reason ↦ (("FRESHNESS:" ++ reason, .fine) : Finding)), finding.2 = .fine := by
    simp
  simp only [findings, List.forall_mem_append, List.forall_mem_cons, fine_accessFindings, havailable,
    hfresh, hpath]
  constructor
  · rintro ⟨⟨⟨⟨-, havailable, hfresh, -⟩, -⟩, haccess⟩, hpath, -⟩
    exact ⟨havailable, hfresh, haccess, hpath⟩
  · rintro ⟨havailable, hfresh, haccess, hpath⟩
    exact ⟨⟨⟨⟨trivial, havailable, hfresh, List.forall_mem_nil _⟩, hreasons⟩, haccess⟩, hpath,
      List.forall_mem_nil _⟩

/-- A common path is acceptable and supported, and no stronger one is supported. -/
theorem commonIndex_spec {index : ℕ} (h : commonIndex request characterization = some index) :
    ∃ path, request.acceptablePaths[index]? = some path ∧ path ∈ characterization.supportedPaths ∧
      ∀ stronger ∈ request.acceptablePaths.take index,
        stronger ∉ characterization.supportedPaths := by
  obtain ⟨hlt, hsupported, hnone⟩ := List.findIdx?_eq_some_iff_getElem.mp h
  refine ⟨request.acceptablePaths[index], List.getElem?_eq_getElem hlt, by simpa using hsupported, ?_⟩
  intro stronger hstronger
  obtain ⟨j, hj, rfl⟩ := List.mem_take_iff_getElem.mp hstronger
  simpa using hnone j (by omega)

/-- What a result says when a route is rankable. -/
theorem negotiate_rankable {rt : AccessRuntime} {result : CapabilityNegotiationResult}
    (h : negotiate request characterization freshness access rt = .ok result)
    (hrankable : result.rankable = true) :
    Eligible rt request characterization freshness access ∧
      ∃ index path, commonIndex request characterization = some index ∧
        request.acceptablePaths[index]? = some path ∧ result.strongestCommonPath = some path ∧
        (result.status = .degraded ↔ 0 < index) := by
  simp only [negotiate, bind_eq_ok, require_eq_ok, Except.ok.injEq] at h
  obtain ⟨_, hbindings, candidate, hcandidate, _, -, rfl⟩ := h
  have hstatus : (negotiationStatus (findings request characterization freshness access)
      (commonIndex request characterization)).rankable = true := hrankable
  have hfine := rankable_negotiationStatus.mp hstatus
  obtain ⟨havailable, hfresh, haccess, hpath⟩ := fine_findings.mp hfine
  rw [exposedCandidate, if_pos hstatus, map_eq_ok] at hcandidate
  obtain ⟨exposed, hexposed, -⟩ := hcandidate
  refine ⟨⟨hbindings, havailable, hfresh, haccess, hpath, exposed, hexposed⟩, ?_⟩
  obtain ⟨index, hindex⟩ := Option.ne_none_iff_exists'.mp hpath
  obtain ⟨path, hfound, -, -⟩ := commonIndex_spec hindex
  refine ⟨index, path, hindex, hfound, ?_, ?_⟩
  · simp only [hindex, Option.bind_some, hfound]
  · have hnone : ∀ verdict : Verdict, verdict ≠ .fine →
        verdict ∉ (findings request characterization freshness access).map Prod.snd := by
      intro verdict hverdict hmem
      obtain ⟨finding, hfinding, rfl⟩ := List.mem_map.mp hmem
      exact hverdict (hfine finding hfinding)
    simp only [negotiationStatus, hindex, Option.any_some]
    rw [if_neg (hnone .hardUnavailable (by rintro ⟨⟩)), if_neg (hnone .conflict (by rintro ⟨⟩)),
      if_neg (hnone .revalidationRequired (by rintro ⟨⟩)), if_neg (hnone .unknown (by rintro ⟨⟩))]
    by_cases hpos : 0 < index
    · simp [hpos]
    · simp [hpos]

/-- A route is rankable if and only if it is eligible. -/
theorem exists_rankable_iff {rt : AccessRuntime} :
    (∃ result, negotiate request characterization freshness access rt = .ok result ∧
      result.rankable = true) ↔ Eligible rt request characterization freshness access := by
  constructor
  · rintro ⟨result, hresult, hrankable⟩
    exact (negotiate_rankable hresult hrankable).1
  · intro heligible
    have hstatus : (negotiationStatus (findings request characterization freshness access)
        (commonIndex request characterization)).rankable = true :=
      rankable_negotiationStatus.mpr (fine_findings.mpr
        ⟨heligible.available, heligible.fresh, heligible.access, heligible.path⟩)
    obtain ⟨index, hindex⟩ := Option.ne_none_iff_exists'.mp heligible.path
    obtain ⟨path, hfound, -, -⟩ := commonIndex_spec hindex
    obtain ⟨candidate, hcandidate⟩ := heligible.candidate
    have hexposed : exposedCandidate characterization freshness rt
        (negotiationStatus (findings request characterization freshness access)
          (commonIndex request characterization)) = .ok (some candidate) := by
      rw [exposedCandidate, if_pos hstatus, hcandidate]
      rfl
    have hreturns : ∃ result, negotiate request characterization freshness access rt = .ok result ∧
        result.status = negotiationStatus (findings request characterization freshness access)
          (commonIndex request characterization) := by
      simp only [negotiate, bind_eq_ok, require_eq_ok]
      exact ⟨_, ⟨⟨⟩, heligible.bindings, some candidate, hexposed, ⟨⟩,
        fun _ ↦ by simp [hindex, hfound], rfl⟩, rfl⟩
    obtain ⟨result, hresult, hsame⟩ := hreturns
    exact ⟨result, hresult, by rw [CapabilityNegotiationResult.rankable, hsame, hstatus]⟩

/-! ### What a rankable route promises -/

/-- An assessment that fits a route describes the route: what the route was observed on is what the
request is about, if the evidence is current. -/
theorem current_bindings (hbindings : validateFreshness request characterization freshness = .ok ⟨⟩)
    (hcurrent : CurrentEvidence freshness) :
    characterization.observation.workspaceObservationId = request.workspaceObservationId.val ∧
      characterization.observation.hostRuntimeFingerprint = request.environmentFingerprint.val := by
  simp only [validateFreshness, bind_eq_ok, require_eq_ok, orRaise_eq_ok] at hbindings
  obtain ⟨_, -, _, -, workspace, hworkspace, runtime, hruntime, _, hobserved, _, hnow, _, hran,
    hruns⟩ := hbindings
  have hunchanged : ∀ {kind key item}, dependencyOf freshness kind key = some item →
      item.Unchanged := fun hfound ↦
    hcurrent.unchanged _ (List.mem_reverse.mp (List.mem_of_find?_eq_some hfound))
  have hsame := Option.some.inj (hnow.symm.trans (hunchanged hworkspace))
  have hsameRuntime := Option.some.inj (hruns.symm.trans (hunchanged hruntime))
  rw [hsame, hsameRuntime]
  exact ⟨hobserved.symm, hran.symm⟩

/-- A snapshot that fits a route is about the profile, the route, the capability and the access. -/
theorem access_bindings {snapshot : EntitlementSnapshot}
    (hrequired : characterization.accessRequired = true)
    (hbindings : validateAccess request characterization (some snapshot) = .ok ⟨⟩) :
    snapshot.profileId = request.profileId.val ∧
      snapshot.routeId.val = characterization.observation.routeId ∧
      snapshot.capability = request.job.capability ∧
      some snapshot.accessKind = characterization.accessKind := by
  simp only [validateAccess, hrequired, bind_eq_ok, require_eq_ok] at hbindings
  obtain ⟨_, hprofile, _, hroute, _, hcapability, hkind⟩ := hbindings
  exact ⟨hprofile, hroute, hcapability, hkind⟩

/-- A fact is about what was requested and holds at a time. -/
structure FactHolds (request : CapabilityNegotiationRequest)
    (characterization : CapabilityRouteCharacterization) (now : ℤ) (fact : EntitlementFact) : Prop where
  /-- It is about the profile. -/
  profile : fact.profileId = request.profileId.val
  /-- It is about the route. -/
  route : fact.payload.routeId.val = characterization.observation.routeId
  /-- It is about the capability. -/
  capability : fact.payload.capability = request.job.capability
  /-- It is about the kind of access. -/
  accessKind : some fact.payload.accessKind = characterization.accessKind
  observed : fact.payload.observedAtEpochSeconds ≤ now
  unexpired : ∀ expiresAt ∈ fact.payload.expiresAtEpochSeconds, now < expiresAt
  /-- It is bound to no other environment. -/
  environment : ∀ fingerprint ∈ fact.payload.environmentFingerprint,
    fingerprint = request.environmentFingerprint

/-- At a time, the facts of a snapshot grant what a route needs. -/
structure AccessHolds (request : CapabilityNegotiationRequest)
    (characterization : CapabilityRouteCharacterization) (now : ℤ) (snapshot : EntitlementSnapshot) :
    Prop where
  time : snapshot.asOfEpochSeconds = now
  /-- Its current facts hold. -/
  facts : ∀ fact ∈ currentFacts snapshot.asOfEpochSeconds snapshot.facts,
    FactHolds request characterization now fact
  /-- They grant the entitlement. -/
  entitlement : characterization.entitlementRequired = true →
    Grants (currentFacts now snapshot.facts) EntitlementPayload.entitlementState
  /-- They grant the permission. -/
  permission : characterization.permissionRequired = true →
    Grants (currentFacts now snapshot.facts) EntitlementPayload.permissionState

/-- What a rankable result promises, at the time of the assessment. -/
structure SoundNegotiation (request : CapabilityNegotiationRequest)
    (characterization : CapabilityRouteCharacterization) (freshness : EvidenceFreshnessAssessment)
    (access : Option EntitlementSnapshot) (result : CapabilityNegotiationResult) : Prop where
  /-- The route is available. -/
  available : characterization.observation.availability = "AVAILABLE"
  /-- It was observed on the requested workspace observation. -/
  workspace :
    characterization.observation.workspaceObservationId = request.workspaceObservationId.val
  /-- It was observed on the requested runtime. -/
  runtime :
    characterization.observation.hostRuntimeFingerprint = request.environmentFingerprint.val
  current : CurrentEvidence freshness
  /-- The access that it needs is granted. -/
  access : characterization.accessRequired = true → ∃ snapshot, access = some snapshot ∧
    AccessHolds request characterization freshness.asOfEpochSeconds snapshot
  /-- The path is the first acceptable one that is supported. -/
  path : ∃ index path, request.acceptablePaths[index]? = some path ∧
    result.strongestCommonPath = some path ∧ path ∈ characterization.supportedPaths ∧
    (∀ stronger ∈ request.acceptablePaths.take index, stronger ∉ characterization.supportedPaths) ∧
    (result.status = .degraded ↔ 0 < index)

/-- An access snapshot is of the time of the assessment, and its current facts are bound to no other
environment than the requested one. -/
def AccessMatches (request : CapabilityNegotiationRequest) (freshness : EvidenceFreshnessAssessment)
    (snapshot : EntitlementSnapshot) : Prop :=
  snapshot.asOfEpochSeconds = freshness.asOfEpochSeconds ∧
    ∀ fact ∈ currentFacts snapshot.asOfEpochSeconds snapshot.facts,
      ∀ fingerprint ∈ fact.payload.environmentFingerprint,
        fingerprint = request.environmentFingerprint

/-- The access of an eligible route holds if the snapshot matches. -/
theorem accessHolds_of_matches {rt : AccessRuntime} {profile : Profile} {db : EvidenceDb}
    {routeId capability accessKind : String} {asOf : ℤ} {taken : EntitlementSnapshot}
    (hrequired : characterization.accessRequired = true)
    (hbindings : validateAccess request characterization (some taken) = .ok ⟨⟩)
    (heligible : AccessEligible characterization taken)
    (htaken : snapshot rt profile db routeId capability accessKind asOf = .ok taken)
    (hmatches : AccessMatches request freshness taken) :
    AccessHolds request characterization freshness.asOfEpochSeconds taken := by
  obtain ⟨hresolve, hfacts⟩ := snapshot_spec htaken
  obtain ⟨hprofile, hroute, hcapability, hkind⟩ := access_bindings hrequired hbindings
  obtain ⟨htime, henvironment⟩ := hmatches
  obtain ⟨hentitlement, hpermission⟩ := eligibility_granted_iff hresolve
  have hsameProfile : taken.profileId = profile.profileId := by
    rw [hresolve]
    rfl
  refine ⟨htime, fun fact hfact ↦ ?_, fun hneeded ↦ ?_, fun hneeded ↦ ?_⟩
  · have hmatch := henvironment fact hfact
    simp only [currentFacts, observedFacts, List.mem_filter, decide_eq_true_eq] at hfact
    obtain ⟨⟨hmem, hobserved⟩, hunexpired⟩ := hfact
    have hof := hfacts fact hmem
    refine ⟨by rw [hof.profile, ← hsameProfile, hprofile], by rw [hof.route, hroute],
      by rw [hof.capability, hcapability], by rw [hof.accessKind, hkind], htime ▸ hobserved, ?_, hmatch⟩
    intro expiresAt hexpires
    rw [Option.mem_def] at hexpires
    rw [EntitlementFact.isExpired, hexpires, htime] at hunexpired
    simpa using hunexpired
  · rw [← htime]
    exact (hentitlement.mp (heligible.entitlement hneeded)).2.2
  · rw [← htime]
    exact (hpermission.mp (heligible.permission hneeded)).2.2

/-- Rankable results are sound if and only if, where the route is eligible and needs access, the access
snapshot is of the time of the assessment and its current facts are bound to no other environment.
Assumes: the assessment and the snapshot are what the two services return. -/
theorem negotiation_sound_iff {rt : AccessRuntime} {profile : Profile} {input : FreshnessInput}
    (hfresh : assessEvidenceFreshness input = .ok freshness)
    (haccess : ∀ taken ∈ access, ∃ db routeId capability accessKind asOf,
      snapshot rt profile db routeId capability accessKind asOf = .ok taken) :
    (∀ result, negotiate request characterization freshness access rt = .ok result →
      result.rankable = true →
        SoundNegotiation request characterization freshness access result) ↔
    (Eligible rt request characterization freshness access →
      characterization.accessRequired = true →
        ∀ taken ∈ access, AccessMatches request freshness taken) := by
  constructor
  · intro hsound heligible hrequired taken htaken
    obtain ⟨result, hresult, hrankable⟩ := exists_rankable_iff.mpr heligible
    obtain ⟨snapshot, hsame, hholds⟩ := (hsound result hresult hrankable).access hrequired
    obtain rfl := Option.some.inj (hsame.symm.trans htaken)
    exact ⟨hholds.time, fun fact hfact ↦ (hholds.facts fact hfact).environment⟩
  · intro hmatches result hresult hrankable
    obtain ⟨heligible, index, path, hindex, hfound, hpath, hdegraded⟩ :=
      negotiate_rankable hresult hrankable
    have hcurrent := (current_iff hfresh).mp heligible.fresh
    have hbindings := heligible.bindings
    simp only [validateBindings, bind_eq_ok] at hbindings
    obtain ⟨_, hfreshness, hvalidAccess⟩ := hbindings
    obtain ⟨hworkspace, hruntime⟩ := current_bindings hfreshness hcurrent
    obtain ⟨same, hsame, hsupported, hstronger⟩ := commonIndex_spec hindex
    obtain rfl := Option.some.inj (hsame.symm.trans hfound)
    refine ⟨heligible.available, hworkspace, hruntime, hcurrent, fun hrequired ↦ ?_,
      index, same, hfound, hpath, hsupported, hstronger, hdegraded⟩
    obtain ⟨taken, rfl, hgranted⟩ := heligible.access hrequired
    obtain ⟨db, routeId, capability, accessKind, asOf, htaken⟩ := haccess taken rfl
    exact ⟨taken, rfl, accessHolds_of_matches hrequired hvalidAccess hgranted htaken
      (hmatches heligible hrequired taken rfl)⟩

end

/-! ### Two negotiations -/

/-- A runtime that knows the digests of three texts by their lengths. -/
def reverbRuntime : AccessRuntime where
  sha256 text := (([(44, "15648a2fbc9687c1be795f30e3a9468ea0cfa0fb7fcbc6720e9e72bdec79befd"),
    (49, "3a95a0d9493d668044be4d37be63ef0be47b61e6686ca869bd74eff7721e74b7"),
    (500, "e48cd126528dd1f9bd1dcf8f3a8c439c10741513ef5d59670485a207e20d8c31")] :
      List (ℕ × String)).lookup text.length).getD ""
  toFloat _ := none
  confidenceText _ := ⟨['1', '.', '0'], FloatText.one.number, FloatText.one.float, FloatText.one.head⟩

/-- A profile without songs. -/
def reverbProfile : Profile where
  profileId := newId "prf" (uuidEnding 0)
  primaryArtistId := newId "art" (uuidEnding 1)
  songs := []
  people := []
  versions := []
  songs_created := Profile.blank.songs_created
  people_created := Profile.blank.people_created
  versions_created := Profile.blank.versions_created
  version_ids := List.nodup_nil

/-- The name of a plugin. -/
def reverb : Text := ⟨"reverb", by decide +kernel, by decide⟩

/-- Access to it was granted from 50 until 100. -/
def reverbPayload : EntitlementPayload :=
  ⟨reverb, reverb, .plugin, .granted, .notRequired, 50, some 100, none, none, none⟩

def reverbDb : EvidenceDb where
  claims := [⟨newId "claim" (uuidEnding 2), .profile, newId "prf" (uuidEnding 0),
    claimKey reverbRuntime reverb reverb .plugin, reverbPayload.json, .observed, some "scan", 1,
    .technical⟩]
  supersessions := []

def reverbObservation : CapabilityObservation where
  sequence := 0
  id := "obs_1"
  workspaceId := "wsp_1"
  workspaceObservationId := "wobs_1"
  hostRuntimeFingerprint := "env_1"
  routeId := "reverb"
  routeKind := "OWNED_TOOL"
  capability := "reverb"
  displayName := "Reverb"
  brand := none
  availability := "AVAILABLE"
  evidenceKind := "PROBE"
  evidenceRef := some "probe"
  observedAtEpochSeconds := 50
  scores := ⟨1, 1, 1, 1, 1, 1, 1, 1⟩
  paid := false

/-- The freshness of that observation at some time. -/
def reverbFreshness (asOf : ℤ) : FreshnessInput where
  observedAtEpochSeconds := 50
  asOfEpochSeconds := asOf
  dependencies :=
    [⟨.workspaceObservation, ⟨"workspace_observation", by decide +kernel, by decide⟩,
      ⟨"wobs_1", by decide +kernel, by decide⟩, some ⟨"wobs_1", by decide +kernel, by decide⟩⟩,
    ⟨.hostRuntime, ⟨"host_runtime", by decide +kernel, by decide⟩,
      ⟨"env_1", by decide +kernel, by decide⟩, some ⟨"env_1", by decide +kernel, by decide⟩⟩]
  sourceCurrent := some true
  expiresAtEpochSeconds := none
  maxAgeSeconds := none

/-- Put reverb on something. -/
def reverbPath : OperationDepth := ⟨reverb, reverb⟩

def reverbRequest : CapabilityNegotiationRequest where
  job := ⟨reverb, reverb, reverb⟩
  profileId := ⟨newId "prf" (uuidEnding 0), by decide +kernel, by decide +kernel⟩
  subjectId := reverb
  workspaceObservationId := ⟨"wobs_1", by decide +kernel, by decide⟩
  environmentFingerprint := ⟨"env_1", by decide +kernel, by decide⟩
  acceptablePaths := [reverbPath]
  paths_nodup := List.nodup_singleton _
  paths_ne := List.cons_ne_nil _ _

/-- The plugin needs an entitlement. -/
def reverbRoute : CapabilityRouteCharacterization where
  observation := reverbObservation
  supportedPaths := [reverbPath]
  characterizationRef := reverb
  accessKind := some .plugin
  entitlementRequired := true
  permissionRequired := false
  paths_nodup := List.nodup_singleton _
  accessKind_iff := by decide

/-- The claim that records the access. -/
def reverbClaim : EvidenceClaim :=
  ⟨newId "claim" (uuidEnding 2), .profile, newId "prf" (uuidEnding 0),
    claimKey reverbRuntime reverb reverb .plugin, reverbPayload.json, .observed, some "scan", 1,
    .technical⟩

/-- The fact that claim states. -/
def reverbFact : EntitlementFact :=
  ⟨reverbClaim.id, reverbDb.sequenceOf reverbClaim.id, reverbClaim.scopeId, reverbPayload,
    .observed, some "scan", 1⟩

def reverbTaken : EntitlementSnapshot :=
  resolveFacts reverbRuntime reverbProfile reverb reverb .plugin 60 [reverbFact]

/-- The recorded payload is read back. -/
theorem reverbPayload_read :
    evidencePayload reverbRuntime reverbPayload.json = .ok reverbPayload := by
  rfl

theorem factOf_reverbClaim :
    factOf reverbRuntime reverbProfile reverbDb reverb reverb .plugin reverbClaim =
      .ok reverbFact := by
  simp only [factOf, bind_eq_ok, require_eq_ok, malformedAs_eq_ok]
  exact ⟨(), ⟨rfl, rfl⟩, (), rfl, (), by simp [reverbClaim], (), rfl, (),
    ⟨List.Subset.refl _, List.Subset.refl _⟩, (), rfl, reverbPayload, reverbPayload_read,
    (), rfl, (), rfl, (), rfl, (), rfl, (), rfl, rfl⟩

/-- It is the only fact of the evidence. -/
theorem factsFromClaims_reverb :
    factsFromClaims reverbRuntime reverbProfile reverbDb reverb reverb .plugin [reverbClaim] =
      .ok [reverbFact] := by
  simp only [factsFromClaims, factFromClaim, factOf_reverbClaim, bind_eq_ok]
  exact ⟨reverbFact, ⟨reverbFact, rfl, (), rfl, rfl⟩, [], rfl, rfl⟩

/-- The claim is active under its key. -/
theorem activeClaims_reverb :
    activeClaims reverbProfile .profile reverbProfile.profileId
      (claimKey reverbRuntime reverb reverb .plugin) reverbDb = .ok [reverbClaim] := by
  have hkey : strip (claimKey reverbRuntime reverb reverb .plugin) =
      claimKey reverbRuntime reverb reverb .plugin := by decide +kernel
  have hne : claimKey reverbRuntime reverb reverb .plugin ≠ "" := by decide +kernel
  have hactive : reverbDb.Active reverbClaim.id := List.forall_mem_nil _
  simp only [activeClaims, validateScope, bind_eq_ok, require_eq_ok, Except.ok.injEq, hkey]
  exact ⟨(), hne, (), rfl, List.filter_eq_self.mpr
    (List.forall_mem_singleton.mpr (decide_eq_true ⟨rfl, rfl, hactive, rfl⟩))⟩

/-- So the snapshot of the evidence as of 60 is the one above. -/
theorem snapshot_reverb :
    snapshot reverbRuntime reverbProfile reverbDb "reverb" "reverb" "PLUGIN" 60 =
      .ok reverbTaken := by
  simp only [snapshot, bind_eq_ok]
  refine ⟨reverb, rfl, reverb, rfl, .plugin, rfl, 60, rfl, [reverbClaim], ?_, [reverbFact],
    factsFromClaims_reverb, rfl⟩
  rw [activeClaims_reverb]
  rfl

/-- The negotiation at some time with the access snapshot of 60. -/
def reverbNegotiation (asOf : ℤ) :
    Option (EvidenceFreshnessAssessment × CapabilityNegotiationResult) := do
  let freshness ← (assessEvidenceFreshness (reverbFreshness asOf)).toOption
  let result ← (negotiate reverbRequest reverbRoute freshness (some reverbTaken)
    reverbRuntime).toOption
  some (freshness, result)

/-- What a negotiation returns, step by step. -/
theorem reverbNegotiation_eq_some {asOf : ℤ} {freshness : EvidenceFreshnessAssessment}
    {result : CapabilityNegotiationResult}
    (h : reverbNegotiation asOf = some (freshness, result)) :
    assessEvidenceFreshness (reverbFreshness asOf) = .ok freshness ∧
      negotiate reverbRequest reverbRoute freshness (some reverbTaken) reverbRuntime =
        .ok result := by
  simp only [reverbNegotiation, Option.bind_eq_bind, Option.bind_eq_some_iff, toOption_eq_some,
    Option.some.injEq, Prod.mk.injEq] at h
  obtain ⟨_, hfresh, _, hresult, rfl, rfl⟩ := h
  exact ⟨hfresh, hresult⟩

/-- At the time of the access snapshot, the route is rankable and this is sound. -/
theorem sample_negotiation : ∃ freshness taken result,
    negotiate reverbRequest reverbRoute freshness (some taken) reverbRuntime = .ok result ∧
      result.rankable = true ∧
      SoundNegotiation reverbRequest reverbRoute freshness (some taken) result := by
  have hruns : (reverbNegotiation 60).map (fun outcome ↦ (outcome.2.rankable,
      outcome.1.asOfEpochSeconds)) = some (true, 60) := by
    decide +kernel
  obtain ⟨⟨freshness, result⟩, houtcome, hvalues⟩ := Option.map_eq_some_iff.mp hruns
  obtain ⟨hfresh, hresult⟩ := reverbNegotiation_eq_some houtcome
  simp only [Prod.mk.injEq] at hvalues
  obtain ⟨hrankable, hasOf⟩ := hvalues
  have hmatches : AccessMatches reverbRequest freshness reverbTaken := by
    refine ⟨hasOf.symm, fun fact hfact fingerprint hfingerprint ↦ ?_⟩
    have hmem : fact ∈ [reverbFact] := List.mem_of_mem_filter (List.mem_of_mem_filter hfact)
    rw [List.mem_singleton.mp hmem] at hfingerprint
    exact absurd hfingerprint (Option.not_mem_none _)
  have haccess : ∀ same ∈ some reverbTaken, ∃ db routeId capability accessKind asOf,
      snapshot reverbRuntime reverbProfile db routeId capability accessKind asOf = .ok same := by
    intro same hsame
    obtain rfl := Option.some.inj hsame
    exact ⟨reverbDb, "reverb", "reverb", "PLUGIN", 60, snapshot_reverb⟩
  have hsound : ∀ result,
      negotiate reverbRequest reverbRoute freshness (some reverbTaken) reverbRuntime =
        .ok result → result.rankable = true →
          SoundNegotiation reverbRequest reverbRoute freshness (some reverbTaken) result := by
    refine (negotiation_sound_iff hfresh haccess).mpr fun _ _ same hsame ↦ ?_
    obtain rfl := Option.some.inj hsame
    exact hmatches
  exact ⟨freshness, reverbTaken, result, hresult, hrankable, hsound result hresult hrankable⟩

/-- At 120 the route is rankable although access was granted until 100 and looked at as of 60. -/
theorem stale_access_negotiated : ∃ freshness taken result,
    assessEvidenceFreshness (reverbFreshness 120) = .ok freshness ∧
      snapshot reverbRuntime reverbProfile reverbDb "reverb" "reverb" "PLUGIN" 60 = .ok taken ∧
      negotiate reverbRequest reverbRoute freshness (some taken) reverbRuntime = .ok result ∧
      result.rankable = true ∧
      ¬ SoundNegotiation reverbRequest reverbRoute freshness (some taken) result ∧
      (currentFacts 120 taken.facts) = [] := by
  have hruns : (reverbNegotiation 120).map (fun outcome ↦ (outcome.2.rankable,
      outcome.1.asOfEpochSeconds)) = some (true, 120) := by
    decide +kernel
  obtain ⟨⟨freshness, result⟩, houtcome, hvalues⟩ := Option.map_eq_some_iff.mp hruns
  obtain ⟨hfresh, hresult⟩ := reverbNegotiation_eq_some houtcome
  simp only [Prod.mk.injEq] at hvalues
  obtain ⟨hrankable, hasOf⟩ := hvalues
  refine ⟨freshness, reverbTaken, result, hfresh, snapshot_reverb, hresult, hrankable,
    fun hsound ↦ ?_, rfl⟩
  obtain ⟨same, hsame, hholds⟩ := hsound.access rfl
  obtain rfl := Option.some.inj hsame
  have hcontra : (60 : ℤ) = freshness.asOfEpochSeconds := hholds.time
  rw [hasOf] at hcontra
  omega

end N0te.Capabilities
