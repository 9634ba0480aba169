import Mathlib.Data.List.Sort
import N0te.Evidence.EvidenceStore
import N0te.Library.JsonAscii

/-!
# What an artist has access to

Facts about access are claims of the evidence of a profile: for one route, capability and kind of access
a fact says what was granted, when that was observed, when it expires, and in which environment. A
snapshot reads the active facts at some time and says what they agree on. `snapshot_spec` says which
facts there are, and `eligibility_granted_iff` when what they say makes a route eligible.

Scope. The numbers of quotas are texts, and `float` is a parameter, as the digest is.
-/

set_option autoImplicit false
set_option relaxedAutoImplicit false

namespace N0te.Capabilities

open Library Lineage People Evidence

/-! ### Values -/

/-- The exception classes of the service. -/
inductive AccessErrorClass where
  | entitlementTruthError
  | lineage (cls : LineageErrorClass)
  deriving DecidableEq

/-- A result or an exception. -/
abbrev AccessChecked (α : Type) := Except (Raised AccessErrorClass) α

/-- An `EntitlementTruthError`. -/
def truthError (message : String) : Raised AccessErrorClass := ⟨.entitlementTruthError, message⟩

/-- A `LineageCorruptionError`. -/
def accessCorruption (message : String) : Raised AccessErrorClass :=
  ⟨.lineage .lineageCorruptionError, message⟩

def ofEvidence {α : Type} (result : Checked α) : AccessChecked α :=
  result.mapError fun e ↦ ⟨.lineage e.cls, e.text⟩

/-- `except EntitlementTruthError as exc: raise LineageCorruptionError(message) from exc`. -/
def malformedAs {α : Type} (message : String) : AccessChecked α → AccessChecked α
  | .error ⟨.entitlementTruthError, _⟩ => .error (accessCorruption message)
  | result => result

@[simp] theorem ofEvidence_eq_ok {α : Type} {result : Checked α} {a : α} :
    ofEvidence result = .ok a ↔ result = .ok a := by
  cases result <;> simp [ofEvidence, Except.mapError]

@[simp] theorem malformedAs_eq_ok {α : Type} {message : String} {result : AccessChecked α} {a : α} :
    malformedAs message result = .ok a ↔ result = .ok a := by
  unfold malformedAs
  split <;> simp

/-- `ACCESS_KINDS`. -/
inductive AccessKind where
  | dawEdition
  | dawFeature
  | plugin
  | instrument
  | providerPlan
  | providerQuota
  | trial
  | activation
  | license
  | permission
  deriving DecidableEq

def AccessKind.ofName : String → Option AccessKind
  | "DAW_EDITION" => some dawEdition
  | "DAW_FEATURE" => some dawFeature
  | "PLUGIN" => some plugin
  | "INSTRUMENT" => some instrument
  | "PROVIDER_PLAN" => some providerPlan
  | "PROVIDER_QUOTA" => some providerQuota
  | "TRIAL" => some trial
  | "ACTIVATION" => some activation
  | "LICENSE" => some license
  | "PERMISSION" => some permission
  | _ => none

def AccessKind.name : AccessKind → String
  | dawEdition => "DAW_EDITION"
  | dawFeature => "DAW_FEATURE"
  | plugin => "PLUGIN"
  | instrument => "INSTRUMENT"
  | providerPlan => "PROVIDER_PLAN"
  | providerQuota => "PROVIDER_QUOTA"
  | trial => "TRIAL"
  | activation => "ACTIVATION"
  | license => "LICENSE"
  | permission => "PERMISSION"

/-- `ENTITLEMENT_STATES`, which are the `PERMISSION_STATES` as well. -/
inductive AccessState where
  | granted
  | denied
  | unknown
  | notRequired
  deriving DecidableEq

def AccessState.ofName : String → Option AccessState
  | "GRANTED" => some granted
  | "DENIED" => some denied
  | "UNKNOWN" => some unknown
  | "NOT_REQUIRED" => some notRequired
  | _ => none

def AccessState.name : AccessState → String
  | granted => "GRANTED"
  | denied => "DENIED"
  | unknown => "UNKNOWN"
  | notRequired => "NOT_REQUIRED"

/-- `RESOLUTION_STATUSES`, which are the `QUOTA_STATUSES` as well. -/
inductive ResolutionStatus where
  | unknown
  | resolved
  | conflict
  deriving DecidableEq

/-- `VALIDITY_STATES`. -/
inductive ValidityState where
  | unknown
  | current
  | expired
  deriving DecidableEq

/-- What the service takes from the runtime. -/
structure AccessRuntime where
  /-- The hexadecimal SHA-256 digest of the UTF-8 bytes of a text. -/
  sha256 : String → String
  /-- `float` of a JSON value, unless it raises. -/
  toFloat : Json → Option FloatText
  confidenceText : ℚ → FloatText

/-- A float that is no zero. -/
def nonzeroFloat (f : FloatText) : Bool := f.chars.any fun c ↦ c.isDigit && c != '0'

/-- A float below zero. -/
def negativeFloat (f : FloatText) : Bool := f.chars.head? == some '-' && nonzeroFloat f

/-- Two floats are equal. -/
def sameFloat (f g : FloatText) : Bool := f == g || !nonzeroFloat f && !nonzeroFloat g

/-! ### Payloads -/

/-- `_text`. -/
def truthText (value : Json) (field : String) : AccessChecked Text :=
  orRaise (Text.ofString value.pyStr) (truthError s!"{field} must not be empty")

/-- `_optional_text`. -/
def optionalTruthText (value : Json) (field : String) : AccessChecked (Option Text) :=
  match value with
  | .null => .ok none
  | value => some <$> truthText value field

/-- `_enum`. -/
def truthEnum {α : Type} (ofName : String → Option α) (value : Json) (field : String) :
    AccessChecked α := do
  let text ← truthText value field
  let name := underscored (upper text.val)
  orRaise (ofName name) (truthError s!"unsupported {field}: {name}")

/-- `_nonnegative_int`. -/
def nonnegativeInt (value : Json) (field : String) : AccessChecked ℤ :=
  match value with
  | .int n => do
    require (0 ≤ n) (truthError s!"{field} must be a non-negative integer")
    .ok n
  | _ => .error (truthError s!"{field} must be a non-negative integer")

def expiryAfter (observedAt : ℤ) (value : Json) : AccessChecked (Option ℤ) :=
  match value with
  | .null => .ok none
  | value => do
    let expiresAt ← nonnegativeInt value "expires_at_epoch_seconds"
    require (observedAt < expiresAt)
      (truthError "expires_at_epoch_seconds must be after observed_at_epoch_seconds")
    .ok (some expiresAt)

section

variable (rt : AccessRuntime)

/-- `_quota`. -/
def quotaNumber (value : Json) : AccessChecked (Option FloatText) :=
  let invalid := truthError "quota_remaining must be a non-negative number"
  match value with
  | .null => .ok none
  | .bool _ => .error invalid
  | value => do
    let number ← orRaise (rt.toFloat value) invalid
    require (Json.finiteFloat number = true ∧ negativeFloat number = false) invalid
    .ok (some number)

/-- The fields of a payload. -/
structure EntitlementPayload where
  routeId : Text
  capability : Text
  accessKind : AccessKind
  entitlementState : AccessState
  permissionState : AccessState
  observedAtEpochSeconds : ℤ
  expiresAtEpochSeconds : Option ℤ
  quotaRemaining : Option FloatText
  quotaUnit : Option Text
  /-- The environment that it is bound to. -/
  environmentFingerprint : Option Text

/-- `evidence_payload` of the fields of an object. -/
def evidencePayload (fields : Json) : AccessChecked EntitlementPayload := do
  let routeId ← truthText (fields.get "route_id") "route_id"
  let capability ← truthText (fields.get "capability") "capability"
  let accessKind ← truthEnum AccessKind.ofName (fields.get "access_kind") "access_kind"
  let entitlementState ←
    truthEnum AccessState.ofName (fields.get "entitlement_state") "entitlement_state"
  let permissionState ←
    truthEnum AccessState.ofName (fields.get "permission_state") "permission_state"
  let observedAt ←
    nonnegativeInt (fields.get "observed_at_epoch_seconds") "observed_at_epoch_seconds"
  let expiresAt ← expiryAfter observedAt (fields.get "expires_at_epoch_seconds")
  let quotaRemaining ← quotaNumber rt (fields.get "quota_remaining")
  let quotaUnit ← optionalTruthText (fields.get "quota_unit") "quota_unit"
  require (quotaRemaining.isSome = quotaUnit.isSome)
    (truthError "quota_remaining and quota_unit must be provided together")
  let environment ←
    optionalTruthText (fields.get "environment_fingerprint") "environment_fingerprint"
  .ok ⟨routeId, capability, accessKind, entitlementState, permissionState, observedAt, expiresAt,
    quotaRemaining, quotaUnit, environment⟩

def optionalJson (value : Option Text) : Json := (value.map fun text ↦ Json.str text.val).getD .null

/-- The fields about the state of access, as JSON. -/
def EntitlementPayload.stateFields (payload : EntitlementPayload) : List (String × Json) :=
  [("entitlement_state", .str payload.entitlementState.name),
    ("permission_state", .str payload.permissionState.name),
    ("observed_at_epoch_seconds", .int payload.observedAtEpochSeconds),
    ("expires_at_epoch_seconds", (payload.expiresAtEpochSeconds.map Json.int).getD .null),
    ("quota_remaining", (payload.quotaRemaining.map Json.float).getD .null),
    ("quota_unit", optionalJson payload.quotaUnit),
    ("environment_fingerprint", optionalJson payload.environmentFingerprint)]

def EntitlementPayload.json (payload : EntitlementPayload) : Json :=
  .obj ([("schema_version", .int 1), ("route_id", .str payload.routeId.val),
    ("capability", .str payload.capability.val),
    ("access_kind", .str payload.accessKind.name)] ++ payload.stateFields)

def payloadKeys : List String :=
  ["schema_version", "route_id", "capability", "access_kind", "entitlement_state",
    "permission_state", "observed_at_epoch_seconds", "expires_at_epoch_seconds", "quota_remaining",
    "quota_unit", "environment_fingerprint"]

/-- `claim_key` of texts that were checked. -/
def claimKey (routeId capability : Text) (accessKind : AccessKind) : String :=
  let separator := String.singleton (Char.ofNat 0)
  "studio.entitlement.v1." ++ rt.sha256 ("n0te-entitlement-key/v1" ++ separator ++ routeId.val ++
    separator ++ capability.val ++ separator ++ accessKind.name)

/-! ### Facts -/

/-- `EntitlementFact`. -/
structure EntitlementFact where
  claimId : String
  sequence : ℕ
  profileId : String
  payload : EntitlementPayload
  sourceKind : Evidence.SourceKind
  sourceRef : Option String
  confidence : ℚ

/-- `strong_access_evidence`. -/
def EntitlementFact.strongAccessEvidence (fact : EntitlementFact) : Bool :=
  fact.sourceKind = .observed ∨ fact.sourceKind = .providerVerified

/-- `provider_verified`. -/
def EntitlementFact.providerVerified (fact : EntitlementFact) : Bool :=
  fact.sourceKind = .providerVerified

/-- `is_expired`. -/
def EntitlementFact.isExpired (fact : EntitlementFact) (asOf : ℤ) : Bool :=
  fact.payload.expiresAtEpochSeconds.any fun expiresAt ↦ expiresAt ≤ asOf

variable (profile : Profile) (db : EvidenceDb)

/-- The checks of `_fact_from_claim` on a claim alone. -/
def factOf (routeId capability : Text) (accessKind : AccessKind) (claim : EvidenceClaim) :
    AccessChecked EntitlementFact := do
  require (claim.scopeKind = .profile ∧ claim.scopeId = profile.profileId)
    (accessCorruption "entitlement evidence must be scoped to the active profile")
  require (claim.twinDomain = .technical)
    (accessCorruption "entitlement evidence must use the TECHNICAL Twin domain")
  require (¬ (claim.sourceKind ≠ .userDeclared ∧ (claim.sourceRef = none ∨ claim.sourceRef = some "")))
    (accessCorruption "non-declared entitlement evidence requires source_ref provenance")
  require (claim.value.isObj = true)
    (accessCorruption "entitlement evidence payload must be an object")
  require (claim.value.keys ⊆ payloadKeys ∧ payloadKeys ⊆ claim.value.keys)
    (accessCorruption "entitlement evidence payload shape does not match schema v1")
  require (claim.value.get "schema_version" = .int 1)
    (accessCorruption "unsupported entitlement evidence schema version")
  let canonical ← malformedAs "malformed entitlement evidence payload"
    (evidencePayload rt claim.value)
  require (canonical.json.dumpsAscii = claim.value.dumpsAscii)
    (accessCorruption "entitlement evidence payload is non-canonical")
  require (claim.key = claimKey rt canonical.routeId canonical.capability canonical.accessKind)
    (accessCorruption "entitlement evidence key does not match its route/capability binding")
  require (canonical.routeId = routeId) (accessCorruption "entitlement route binding mismatch")
  require (canonical.capability = capability)
    (accessCorruption "entitlement capability binding mismatch")
  require (canonical.accessKind = accessKind)
    (accessCorruption "entitlement access-kind binding mismatch")
  .ok ⟨claim.id, db.sequenceOf claim.id, claim.scopeId, canonical, claim.sourceKind, claim.sourceRef,
    claim.confidence⟩

/-- The checks of `_fact_from_claim` on the claims that a claim supersedes. -/
def checkRegression (fact : EntitlementFact) : List String → AccessChecked Unit
  | [] => .ok ⟨⟩
  | oldId :: rest => do
    let old ← orRaise (db.getClaim oldId)
      (accessCorruption "entitlement supersession references missing evidence")
    let oldFact ←
      factOf rt profile db fact.payload.routeId fact.payload.capability fact.payload.accessKind old
    require (oldFact.payload.observedAtEpochSeconds ≤ fact.payload.observedAtEpochSeconds)
      (accessCorruption "entitlement observation time regressed across supersession")
    checkRegression fact rest

/-- The claims that a claim supersedes, ordered by their ids. -/
def supersededIds (claimId : String) : List String :=
  ((db.supersessions.filter fun edge ↦ edge.newClaimId = claimId).map
    EvidenceSupersession.oldClaimId).insertionSort (· ≤ ·)

/-- `_fact_from_claim`. -/
def factFromClaim (routeId capability : Text) (accessKind : AccessKind) (claim : EvidenceClaim) :
    AccessChecked EntitlementFact := do
  let fact ← factOf rt profile db routeId capability accessKind claim
  checkRegression rt profile db fact (supersededIds db claim.id)
  .ok fact

/-- `_fact_from_claim` of each claim. -/
def factsFromClaims (routeId capability : Text) (accessKind : AccessKind) :
    List EvidenceClaim → AccessChecked (List EntitlementFact)
  | [] => .ok []
  | claim :: rest => do
    let fact ← factFromClaim rt profile db routeId capability accessKind claim
    let facts ← factsFromClaims routeId capability accessKind rest
    .ok (fact :: facts)

/-! ### Snapshots -/

/-- `EntitlementSnapshot`. -/
structure EntitlementSnapshot where
  profileId : String
  routeId : Text
  capability : Text
  accessKind : AccessKind
  asOfEpochSeconds : ℤ
  /-- Whether the facts agree. -/
  resolutionStatus : ResolutionStatus
  /-- Whether there are current facts. -/
  validityState : ValidityState
  /-- The entitlement that they agree on. -/
  entitlementState : AccessState
  /-- The permission that they agree on. -/
  permissionState : AccessState
  /-- The entitlement that makes eligible. -/
  eligibilityEntitlementState : AccessState
  /-- The permission that makes eligible. -/
  eligibilityPermissionState : AccessState
  /-- Whether the facts agree on a quota. -/
  quotaStatus : ResolutionStatus
  /-- What is left of the quota, and in which unit. -/
  quota : Option (FloatText × Option Text)
  /-- The strongest source of a current fact. -/
  strongestSource : Option Evidence.SourceKind
  /-- A current fact was verified by its provider. -/
  providerVerified : Bool
  /-- A current fact is strong. -/
  strongAccessEvidence : Bool
  facts : List EntitlementFact
  /-- The digest of what was read. -/
  fingerprint : String

/-- `_SOURCE_STRENGTH`. -/
def sourceStrength : Evidence.SourceKind → ℕ
  | .inferred => 0
  | .remembered => 1
  | .userDeclared => 2
  | .measured => 3
  | .observed => 4
  | .providerVerified => 5

/-- `_source_class`, as the source whose class it is. -/
def strongestSource : List EntitlementFact → Option Evidence.SourceKind
  | [] => none
  | fact :: rest => some (rest.foldl
    (fun best other ↦ if sourceStrength best < sourceStrength other.sourceKind then other.sourceKind
      else best) fact.sourceKind)

/-- `_state_resolution`: what the facts agree on, and whether they disagree. -/
def stateResolution : List AccessState → AccessState × Bool
  | [] => (.unknown, false)
  | state :: rest => if rest.all (· == state) then (state, false) else (.unknown, true)

/-- Two quotas are equal. -/
def sameQuota (a b : FloatText × Option Text) : Bool := sameFloat a.1 b.1 && a.2 == b.2

/-- `_quota_resolution`. -/
def quotaResolution (facts : List EntitlementFact) :
    ResolutionStatus × Option (FloatText × Option Text) :=
  match facts.filterMap fun fact ↦ fact.payload.quotaRemaining.map (·, fact.payload.quotaUnit) with
  | [] => (.unknown, none)
  | quota :: rest => if rest.all (sameQuota quota) then (.resolved, some quota) else (.conflict, none)

/-- `_eligibility_state`. -/
def eligibilityState (state : AccessState) (resolved current strong : Bool) : AccessState :=
  if resolved = false ∨ current = false then .unknown
  else
    match state with
    | .denied => .denied
    | .granted => if strong then .granted else .unknown
    | .notRequired => if strong then .notRequired else .unknown
    | .unknown => .unknown

def observedFacts (asOf : ℤ) (facts : List EntitlementFact) : List EntitlementFact :=
  facts.filter fun fact ↦ fact.payload.observedAtEpochSeconds ≤ asOf

def currentFacts (asOf : ℤ) (facts : List EntitlementFact) : List EntitlementFact :=
  (observedFacts asOf facts).filter fun fact ↦ !fact.isExpired asOf

/-- A fact in the fingerprint. -/
def EntitlementFact.json (fact : EntitlementFact) : Json :=
  .obj [("claim_id", .str fact.claimId), ("sequence", .int fact.sequence),
    ("source_kind", .str fact.sourceKind.name),
    ("source_ref", (fact.sourceRef.map Json.str).getD .null),
    ("confidence", .float (rt.confidenceText fact.confidence)),
    ("payload", .obj fact.payload.stateFields)]

/-- What the fingerprint is the digest of. -/
def fingerprintPayload (routeId capability : Text) (accessKind : AccessKind) (asOf : ℤ)
    (facts : List EntitlementFact) : Json :=
  .obj [("profile_id", .str profile.profileId), ("route_id", .str routeId.val),
    ("capability", .str capability.val), ("access_kind", .str accessKind.name),
    ("as_of_epoch_seconds", .int asOf), ("active_claims", .arr (facts.map fun fact ↦ fact.json rt))]

/-- What a snapshot makes of the active facts. -/
def resolveFacts (routeId capability : Text) (accessKind : AccessKind) (asOf : ℤ)
    (facts : List EntitlementFact) : EntitlementSnapshot :=
  let observed := observedFacts asOf facts
  let current := currentFacts asOf facts
  let validity : ValidityState :=
    if observed = [] then .unknown else if current = [] then .expired else .current
  let entitlement := stateResolution (current.map fun fact ↦ fact.payload.entitlementState)
  let permission := stateResolution (current.map fun fact ↦ fact.payload.permissionState)
  let quota := quotaResolution current
  let conflict := entitlement.2 || permission.2 || decide (quota.1 = .conflict)
  let resolution : ResolutionStatus :=
    if current = [] then (if observed = [] then .unknown else .resolved)
    else if conflict then .conflict else .resolved
  let strong := current.any EntitlementFact.strongAccessEvidence
  let eligibility := fun state ↦ eligibilityState state (decide (resolution = .resolved))
    (decide (validity = .current)) strong
  { profileId := profile.profileId
    routeId := routeId
    capability := capability
    accessKind := accessKind
    asOfEpochSeconds := asOf
    resolutionStatus := resolution
    validityState := validity
    entitlementState := entitlement.1
    permissionState := permission.1
    eligibilityEntitlementState := eligibility entitlement.1
    eligibilityPermissionState := eligibility permission.1
    quotaStatus := quota.1
    quota := quota.2
    strongestSource := strongestSource current
    providerVerified := current.any EntitlementFact.providerVerified
    strongAccessEvidence := strong
    facts := facts
    fingerprint := rt.sha256
      (fingerprintPayload rt profile routeId capability accessKind asOf facts).dumpsAscii }

/-- `snapshot`. -/
def snapshot (routeId capability accessKind : String) (asOf : ℤ) :
    AccessChecked EntitlementSnapshot := do
  let routeId ← truthText (.str routeId) "route_id"
  let capability ← truthText (.str capability) "capability"
  let accessKind ← truthEnum AccessKind.ofName (.str accessKind) "access_kind"
  let asOf ← nonnegativeInt (.int asOf) "as_of_epoch_seconds"
  let claims ← ofEvidence (activeClaims profile .profile profile.profileId
    (claimKey rt routeId capability accessKind) db)
  let facts ← factsFromClaims rt profile db routeId capability accessKind claims
  .ok (resolveFacts rt profile routeId capability accessKind asOf facts)

/-! ### What a snapshot says -/

/-- A fact of the store about a route, a capability and a kind of access. -/
structure FactOf (routeId capability : Text) (accessKind : AccessKind) (fact : EntitlementFact) :
    Prop where
  /-- It is about the profile. -/
  profile : fact.profileId = profile.profileId
  /-- It is about the route. -/
  route : fact.payload.routeId = routeId
  /-- It is about the capability. -/
  capability : fact.payload.capability = capability
  /-- It is about the kind of access. -/
  accessKind : fact.payload.accessKind = accessKind
  active : ∃ claim ∈ db.claims, claim.id = fact.claimId ∧ db.Active claim.id

variable {rt profile db}

theorem factOf_spec {routeId capability : Text} {accessKind : AccessKind} {claim : EvidenceClaim}
    {fact : EntitlementFact} (hclaim : claim ∈ db.claims) (hactive : db.Active claim.id)
    (h : factOf rt profile db routeId capability accessKind claim = .ok fact) :
    FactOf profile db routeId capability accessKind fact := by
  simp only [factOf, bind_eq_ok, require_eq_ok, malformedAs_eq_ok, Except.ok.injEq] at h
  obtain ⟨_, hscope, _, -, _, -, _, -, _, -, _, -, payload, -, _, -, _, -, _, hroute, _, hcapability,
    _, hkind, rfl⟩ := h
  exact ⟨hscope.2, hroute, hcapability, hkind, claim, hclaim, rfl, hactive⟩

theorem factsFromClaims_spec {routeId capability : Text} {accessKind : AccessKind}
    {claims : List EvidenceClaim} {facts : List EntitlementFact}
    (hclaims : ∀ claim ∈ claims, claim ∈ db.claims ∧ db.Active claim.id)
    (h : factsFromClaims rt profile db routeId capability accessKind claims = .ok facts) :
    ∀ fact ∈ facts, FactOf profile db routeId capability accessKind fact := by
  induction claims generalizing facts with
  | nil =>
    cases h
    exact List.forall_mem_nil _
  | cons claim rest ih =>
    simp only [factsFromClaims, factFromClaim, bind_eq_ok, Except.ok.injEq] at h
    obtain ⟨fact, ⟨_, hfact, _, -, rfl⟩, others, hothers, rfl⟩ := h
    rw [List.forall_mem_cons] at hclaims ⊢
    exact ⟨factOf_spec hclaims.1.1 hclaims.1.2 hfact, ih hclaims.2 hothers⟩

/-- A snapshot is made of active facts about what was asked for. -/
theorem snapshot_spec {routeId capability accessKind : String} {asOf : ℤ}
    {access : EntitlementSnapshot}
    (h : snapshot rt profile db routeId capability accessKind asOf = .ok access) :
    access = resolveFacts rt profile access.routeId access.capability access.accessKind
      access.asOfEpochSeconds access.facts ∧
    ∀ fact ∈ access.facts, FactOf profile db access.routeId access.capability access.accessKind fact := by
  simp only [snapshot, activeClaims, bind_eq_ok, ofEvidence_eq_ok, require_eq_ok,
    Except.ok.injEq] at h
  obtain ⟨route, -, cap, -, kind, -, time, -, claims, ⟨_, -, _, -, rfl⟩, facts, hfacts, rfl⟩ := h
  refine ⟨rfl, factsFromClaims_spec (fun claim hclaim ↦ ?_) hfacts⟩
  rw [List.mem_filter, decide_eq_true_eq] at hclaim
  exact ⟨hclaim.1, hclaim.2.2.2.1⟩

/-- Some facts agree that something was granted, and one of them is strong. -/
structure Grants (facts : List EntitlementFact) (state : EntitlementPayload → AccessState) : Prop where
  /-- They all say so. -/
  all : ∀ fact ∈ facts, state fact.payload = .granted
  strong : ∃ fact ∈ facts, fact.strongAccessEvidence = true

theorem stateResolution_eq_granted {states : List AccessState} :
    (stateResolution states).1 = .granted ↔ states ≠ [] ∧ ∀ state ∈ states, state = .granted := by
  cases states with
  | nil => simp [stateResolution]
  | cons state rest =>
    rw [stateResolution]
    by_cases hall : rest.all (· == state) = true
    · rw [if_pos hall]
      simp only [List.all_eq_true, beq_iff_eq] at hall
      constructor
      · rintro rfl
        exact ⟨List.cons_ne_nil _ _, List.forall_mem_cons.mpr ⟨rfl, hall⟩⟩
      · rintro ⟨-, hgranted⟩
        exact hgranted state List.mem_cons_self
    · rw [if_neg hall]
      refine ⟨nofun, fun h ↦ absurd ?_ hall⟩
      have hgranted := h.2
      rw [List.forall_mem_cons] at hgranted
      simp only [List.all_eq_true, beq_iff_eq]
      exact fun other hother ↦ (hgranted.2 other hother).trans hgranted.1.symm

theorem eligibilityState_eq_granted {state : AccessState} {resolved current strong : Bool} :
    eligibilityState state resolved current strong = .granted ↔
      state = .granted ∧ resolved = true ∧ current = true ∧ strong = true := by
  cases state <;> cases resolved <;> cases current <;> cases strong <;> simp [eligibilityState]

/-- A snapshot makes a state eligible as granted if and only if it is resolved and current, and its
current facts grant it. -/
theorem eligibility_granted_iff {routeId capability : Text} {accessKind : AccessKind} {asOf : ℤ}
    {facts : List EntitlementFact} {access : EntitlementSnapshot}
    (h : access = resolveFacts rt profile routeId capability accessKind asOf facts) :
    (access.eligibilityEntitlementState = .granted ↔
      access.resolutionStatus = .resolved ∧ access.validityState = .current ∧
        Grants (currentFacts asOf facts) EntitlementPayload.entitlementState) ∧
    (access.eligibilityPermissionState = .granted ↔
      access.resolutionStatus = .resolved ∧ access.validityState = .current ∧
        Grants (currentFacts asOf facts) EntitlementPayload.permissionState) := by
  have hvalid : access.validityState = .current → currentFacts asOf facts ≠ [] := by
    rw [h]
    intro hcurrent hnil
    simp only [resolveFacts, hnil, if_true] at hcurrent
    split_ifs at hcurrent
  have hstrong : access.strongAccessEvidence = true ↔
      ∃ fact ∈ currentFacts asOf facts, fact.strongAccessEvidence = true := by
    rw [h]
    exact List.any_eq_true
  have hgrants : ∀ state : EntitlementPayload → AccessState,
      eligibilityState (stateResolution ((currentFacts asOf facts).map fun fact ↦ state fact.payload)).1
        (decide (access.resolutionStatus = .resolved)) (decide (access.validityState = .current))
        access.strongAccessEvidence = .granted ↔
      access.resolutionStatus = .resolved ∧ access.validityState = .current ∧
        Grants (currentFacts asOf facts) state := by
    intro state
    rw [eligibilityState_eq_granted, stateResolution_eq_granted, hstrong, decide_eq_true_iff,
      decide_eq_true_iff, List.forall_mem_map]
    constructor
    · rintro ⟨⟨-, hall⟩, hresolved, hcurrent, hsome⟩
      exact ⟨hresolved, hcurrent, hall, hsome⟩
    · rintro ⟨hresolved, hcurrent, hall, hsome⟩
      exact ⟨⟨by simpa using hvalid hcurrent, hall⟩, hresolved, hcurrent, hsome⟩
  constructor
  · rw [← hgrants EntitlementPayload.entitlementState, h]
    rfl
  · rw [← hgrants EntitlementPayload.permissionState, h]
    rfl

end

end N0te.Capabilities
