import N0te.Library.Inputs
import N0te.Library.JsonAscii
import N0te.Library.Ranking

/-!
# The relevance broker

`arbitrate` decides which candidates are put before the artist. Each candidate is classified by
itself, and then the required alerts and explicit requests are surfaced, or the first band of normal
candidates that is not empty. The rest is held.

The digest is a parameter, `sha256`, of which nothing is assumed. `arbitration_of_candidates` says
what an arbitration surfaces.
-/

set_option autoImplicit false
set_option relaxedAutoImplicit false

namespace N0te.Relevance

open Library

/-! ### Bindings and candidates -/

/-- `OPERATING_CONTEXTS`. -/
inductive OperatingContext where
  | normal
  | recording
  | live
  deriving DecidableEq

def OperatingContext.name : OperatingContext → String
  | .normal => "NORMAL"
  | .recording => "RECORDING"
  | .live => "LIVE"

/-- `URGENCY_LEVELS`. -/
inductive Urgency where
  | none
  | timeWindow
  | deadline
  deriving DecidableEq

/-- `FRESHNESS_STATES`. -/
inductive Freshness where
  | current
  | revalidationRequired
  | expired
  | unknown
  deriving DecidableEq

/-- `DISCUSSION_STATES`. -/
inductive DiscussionState where
  | safe
  | unknown
  | unsafeToDiscuss
  deriving DecidableEq

/-- `TRANSACTION_STATES`. -/
inductive TransactionState where
  | none
  | pending
  | blocking
  | awaitingArtist
  deriving DecidableEq

/-- `REQUIRED_ALERT_KINDS`. -/
inductive AlertKind where
  | safety
  | trustBoundary
  | contradiction
  | staleContext
  | rightsPrivacy
  deriving DecidableEq

/-- `RelevanceContextBinding`. -/
structure RelevanceBinding where
  profileId : Text
  artistId : Text
  songId : Option Text
  versionId : Option Text
  sessionId : Option Text
  focusId : Option Text
  workspaceId : Option Text
  jobId : Option Text
  purposeKey : Option Text
  operatingContext : OperatingContext
  /-- What belongs to a song has a song. -/
  song_bound : songId = none →
    versionId = none ∧ sessionId = none ∧ focusId = none ∧ workspaceId = none

def RelevanceBinding.payload (binding : RelevanceBinding) : Json :=
  let optional (value : Option Text) : Json := (value.map fun text ↦ Json.str text.val).getD .null
  .obj [("schema_version", .int 1), ("profile_id", .str binding.profileId.val),
    ("artist_id", .str binding.artistId.val), ("song_id", optional binding.songId),
    ("version_id", optional binding.versionId), ("session_id", optional binding.sessionId),
    ("focus_id", optional binding.focusId), ("workspace_id", optional binding.workspaceId),
    ("job_id", optional binding.jobId), ("purpose_key", optional binding.purposeKey),
    ("operating_context", .str binding.operatingContext.name)]

/-- `RelevanceCandidate`. -/
structure RelevanceCandidate where
  semanticKey : Text
  surface : Text
  bindingFingerprint : Text
  scopeProfileId : Text
  scopeArtistId : Text
  scopeSongId : Option Text
  scopeJobId : Option Text
  purposeKeys : List Text
  operatingContexts : List OperatingContext
  blocksNextStep : Bool
  protectsFutureOption : Bool
  changesNextDecision : Bool
  explicitArtistRequest : Bool
  artistNotNow : Bool
  requiresCurrentEvidence : Bool
  urgency : Urgency
  evidenceFreshness : Freshness
  discussionState : DiscussionState
  transactionState : TransactionState
  requiredAlertKind : Option AlertKind

/-! ### Decisions -/

/-- The bands of normal candidates. -/
inductive NormalBand where
  | blocking
  | decisionChanging
  | timeSensitive
  | currentContext
  | futureOption
  deriving DecidableEq

/-- The place of a normal band among the others. -/
def NormalBand.rank : NormalBand → ℕ
  | .blocking => 0
  | .decisionChanging => 1
  | .timeSensitive => 2
  | .currentContext => 3
  | .futureOption => 4

/-- `_NORMAL_BAND_ORDER`. -/
def normalBandOrder : List NormalBand :=
  [.blocking, .decisionChanging, .timeSensitive, .currentContext, .futureOption]

/-- `ALL_BANDS`. -/
inductive Band where
  | requiredAlert
  | explicitRequest
  | normal (band : NormalBand)
  | staleCandidateContext
  | needsFreshEvidence
  | discussionUnknown
  | background
  | unsafeToDiscuss
  | artistNotNow
  deriving DecidableEq

/-- `DISPOSITIONS`. -/
inductive Disposition where
  | surfaceNow
  | hold
  | defer
  | suppress
  deriving DecidableEq

/-- Why a candidate is surfaced or held. -/
inductive ReasonCode where
  | currentSong
  | noActiveSongMatch
  | currentJob
  | differentJob
  | currentPurpose
  | purposeMismatch
  | currentOperatingContext
  | operatingContextMismatch
  | evidenceRevalidationRequired
  | evidenceExpired
  | evidenceFreshnessUnknown
  | transaction (state : TransactionState)
  | required (kind : AlertKind)
  | staleCandidateContext
  | notNowOverriddenForRequiredAlert
  | guardedAlertSurfacing
  | explicitArtistRequest
  | notNowOverriddenForExplicitRequest
  | guardedResponseRequired
  | artistNotNow
  | unsafeToDiscuss
  | discussionSafetyUnknown
  | currentEvidenceRequired
  | blocksNextStep
  | changesNextDecision
  | urgency (level : Urgency)
  | matchesCurrentContext
  | protectsFutureOption
  | backgroundOnly
  | mandatoryContextAlreadySurfaced
  | lowerRelevanceThanSurfacedGroup
  deriving DecidableEq

/-- `RelevanceDecision`. -/
structure RelevanceDecision where
  semanticKey : Text
  surface : Text
  disposition : Disposition
  band : Band
  reasonCodes : List ReasonCode
  bindingFingerprint : Text
  /-- Every decision is explained. -/
  explained : reasonCodes ≠ []
  /-- No reason is given twice. -/
  reasons_nodup : reasonCodes.Nodup

/-- `RelevanceGroup`. -/
structure RelevanceGroup where
  band : Band
  decisions : List RelevanceDecision
  decisions_ne_nil : decisions ≠ []
  /-- The decisions share the band, and are surfaced. -/
  decisions_share : ∀ decision ∈ decisions,
    decision.band = band ∧ decision.disposition = .surfaceNow

/-- `RelevanceArbitration`. -/
structure RelevanceArbitration where
  bindingFingerprint : Text
  surfaceGroups : List RelevanceGroup
  heldDecisions : List RelevanceDecision

/-- `surface_now`. -/
def RelevanceArbitration.surfaceNow (result : RelevanceArbitration) : List RelevanceDecision :=
  result.surfaceGroups.flatMap RelevanceGroup.decisions

/-! ### Classification -/

/-- The exception classes of the broker. -/
inductive RelevanceErrorClass where
  | relevanceBroker
  | staleRelevanceContext
  | relevanceScopeLeak
  deriving DecidableEq

/-- What the broker returns, or raises. -/
abbrev RelevanceChecked (α : Type) := Except (Raised RelevanceErrorClass) α

/-- `_Classified`. -/
structure Classified where
  candidate : RelevanceCandidate
  disposition : Disposition
  band : Band
  reasons : List ReasonCode
  mandatory : Bool
  eligibleNormal : Bool
  explained : reasons ≠ []

def OtherSong (binding : RelevanceBinding) (candidate : RelevanceCandidate) : Prop :=
  binding.songId ≠ none ∧ candidate.scopeSongId ≠ none ∧ candidate.scopeSongId ≠ binding.songId

instance (binding : RelevanceBinding) (candidate : RelevanceCandidate) :
    Decidable (OtherSong binding candidate) :=
  inferInstanceAs (Decidable (_ ∧ _ ∧ _))

/-- `_validate_scope`. -/
def validateScope (binding : RelevanceBinding) (candidate : RelevanceCandidate) :
    RelevanceChecked Unit := do
  require (candidate.scopeProfileId = binding.profileId)
    ⟨.relevanceScopeLeak, "candidate belongs to a different profile"⟩
  require (candidate.scopeArtistId = binding.artistId)
    ⟨.relevanceScopeLeak, "candidate belongs to a different Artist"⟩
  require (¬OtherSong binding candidate)
    ⟨.relevanceScopeLeak, "Song-bound arbitration cannot consume another Song's candidate"⟩

/-- The parts of a candidate that are tied to a context, with the reason for each and whether it
matches. -/
def contextChecks (binding : RelevanceBinding) (candidate : RelevanceCandidate) :
    List (ReasonCode × Bool) :=
  let check (matched : Bool) (yes no : ReasonCode) := (if matched then yes else no, matched)
  (if candidate.scopeSongId ≠ none
    then [check (candidate.scopeSongId = binding.songId) .currentSong .noActiveSongMatch]
    else []) ++
  (if candidate.scopeJobId ≠ none
    then [check (candidate.scopeJobId = binding.jobId) .currentJob .differentJob]
    else []) ++
  (if candidate.purposeKeys ≠ []
    then [check (∃ purpose ∈ binding.purposeKey, purpose ∈ candidate.purposeKeys)
      .currentPurpose .purposeMismatch]
    else []) ++
  (if candidate.operatingContexts ≠ []
    then [check (binding.operatingContext ∈ candidate.operatingContexts)
      .currentOperatingContext .operatingContextMismatch]
    else [])

/-- `_context_reasons`, whether there is something that matches and nothing that does not. -/
def contextMatch (binding : RelevanceBinding) (candidate : RelevanceCandidate) : Bool :=
  let checks := contextChecks binding candidate
  !checks.isEmpty && checks.all Prod.snd

/-- `_freshness_reason`. -/
def freshnessReason : Freshness → List ReasonCode
  | .current => []
  | .revalidationRequired => [.evidenceRevalidationRequired]
  | .expired => [.evidenceExpired]
  | .unknown => [.evidenceFreshnessUnknown]

def baseReasons (binding : RelevanceBinding) (candidate : RelevanceCandidate) : List ReasonCode :=
  (contextChecks binding candidate).map Prod.fst ++ freshnessReason candidate.evidenceFreshness ++
    if candidate.transactionState = .none then [] else [.transaction candidate.transactionState]

/-- A conclusion about a candidate, with the reasons for it. -/
def conclude (candidate : RelevanceCandidate) (disposition : Disposition) (band : Band)
    (reasons : List ReasonCode) (reason : ReasonCode) (more : List ReasonCode)
    (mandatory eligibleNormal : Bool) : Classified where
  candidate
  disposition
  band
  reasons := keepFirst (reasons ++ reason :: more)
  mandatory
  eligibleNormal
  explained := keepFirst_ne_nil (List.append_ne_nil_of_right_ne_nil _ (List.cons_ne_nil _ _))

variable (sha256 : String → Text)

/-- `fingerprint`. -/
def fingerprint (binding : RelevanceBinding) : Text := sha256 binding.payload.dumpsAscii

/-- A reason that is given under a condition. -/
def reasonIf (condition : Prop) [Decidable condition] (reason : ReasonCode) : List ReasonCode :=
  if condition then [reason] else []

/-- The part of `_classify` for candidates that nothing rules out. -/
def classifyNormal (binding : RelevanceBinding) (candidate : RelevanceCandidate) : Classified :=
  let reasons := baseReasons binding candidate
  let normal (band : NormalBand) (reason : ReasonCode) : Classified :=
    conclude candidate .hold (.normal band) reasons reason [] false true
  if candidate.blocksNextStep = true ∨
      candidate.transactionState = .blocking ∨ candidate.transactionState = .awaitingArtist then
    normal .blocking .blocksNextStep
  else if candidate.changesNextDecision = true then
    normal .decisionChanging .changesNextDecision
  else if candidate.urgency ≠ .none then
    normal .timeSensitive (.urgency candidate.urgency)
  else if contextMatch binding candidate = true then
    normal .currentContext .matchesCurrentContext
  else if candidate.protectsFutureOption = true then
    normal .futureOption .protectsFutureOption
  else
    conclude candidate .hold .background reasons .backgroundOnly [] false false

/-- `_classify`, of a candidate whose scope is valid. -/
def classified (binding : RelevanceBinding) (candidate : RelevanceCandidate) : Classified :=
  let reasons := baseReasons binding candidate
  let isCurrent := candidate.bindingFingerprint = fingerprint sha256 binding
  match candidate.requiredAlertKind with
  | some kind =>
    conclude candidate .surfaceNow .requiredAlert reasons (.required kind)
      (reasonIf (¬isCurrent) .staleCandidateContext ++
        reasonIf (candidate.artistNotNow = true) .notNowOverriddenForRequiredAlert ++
        reasonIf (candidate.discussionState ≠ .safe) .guardedAlertSurfacing) true false
  | none =>
    if ¬isCurrent then
      conclude candidate .hold .staleCandidateContext reasons .staleCandidateContext [] false false
    else if candidate.explicitArtistRequest = true then
      conclude candidate .surfaceNow .explicitRequest reasons .explicitArtistRequest
        (reasonIf (candidate.artistNotNow = true) .notNowOverriddenForExplicitRequest ++
          reasonIf (candidate.discussionState ≠ .safe) .guardedResponseRequired) true false
    else if candidate.artistNotNow = true then
      conclude candidate .defer .artistNotNow reasons .artistNotNow [] false false
    else if candidate.discussionState = .unsafeToDiscuss then
      conclude candidate .suppress .unsafeToDiscuss reasons .unsafeToDiscuss [] false false
    else if candidate.discussionState = .unknown then
      conclude candidate .hold .discussionUnknown reasons .discussionSafetyUnknown [] false false
    else if candidate.requiresCurrentEvidence = true ∧ candidate.evidenceFreshness ≠ .current then
      conclude candidate .hold .needsFreshEvidence reasons .currentEvidenceRequired [] false false
    else classifyNormal binding candidate

/-- `_classify`. -/
def classify (binding : RelevanceBinding) (candidate : RelevanceCandidate) :
    RelevanceChecked Classified := do
  validateScope binding candidate
  return classified sha256 binding candidate

/-! ### Arbitration -/

/-- `_decision`. -/
def decision (item : Classified) (bindingFingerprint : Text) (disposition : Disposition)
    (extra : List ReasonCode) : RelevanceDecision where
  semanticKey := item.candidate.semanticKey
  surface := item.candidate.surface
  disposition
  band := item.band
  reasonCodes := keepFirst (item.reasons ++ extra)
  bindingFingerprint
  explained := keepFirst_ne_nil (List.append_ne_nil_of_left_ne_nil item.explained _)
  reasons_nodup := nodup_keepFirst _

def decisionKey (item : RelevanceDecision) : String ×ₗ String :=
  toLex (item.surface.val, item.semanticKey.val)

/-- `_canonical`. -/
def canonical (decisions : List RelevanceDecision) : List RelevanceDecision :=
  rankBy decisionKey decisions

def surfaced (bindingFingerprint : Text) (items : List Classified) (band : Band) :
    List RelevanceDecision :=
  canonical <| (items.filter fun item ↦ item.band = band).map fun item ↦
    decision item bindingFingerprint .surfaceNow []

theorem surfaced_share {bindingFingerprint : Text} {items : List Classified} {band : Band} :
    ∀ item ∈ surfaced bindingFingerprint items band,
      item.band = band ∧ item.disposition = .surfaceNow := by
  intro item hitem
  obtain ⟨source, hsource, rfl⟩ := List.mem_map.mp (mem_rankBy.mp hitem)
  exact ⟨of_decide_eq_true (List.mem_filter.mp hsource).2, rfl⟩

def groupOf (bindingFingerprint : Text) (items : List Classified) (band : Band) :
    List RelevanceGroup :=
  if h : surfaced bindingFingerprint items band = [] then []
  else [⟨band, surfaced bindingFingerprint items band, h, surfaced_share⟩]

/-- The first normal band that is not empty. -/
def selectBand (items : List Classified) : Option NormalBand :=
  normalBandOrder.find? fun band ↦
    items.any fun item ↦ item.eligibleNormal && item.band = .normal band

/-- The held decision about an item, unless it is surfaced. -/
def heldDecision (bindingFingerprint : Text) (mandatory : Bool) (selected : Option NormalBand)
    (item : Classified) : Option RelevanceDecision :=
  if item.mandatory then none
  else if item.eligibleNormal then
    if selected.map Band.normal = some item.band ∧ mandatory = false then none
    else some <| decision item bindingFingerprint .hold
      [if mandatory then .mandatoryContextAlreadySurfaced else .lowerRelevanceThanSurfacedGroup]
  else some (decision item bindingFingerprint item.disposition [])

def arbitrationOf (bindingFingerprint : Text) (items : List Classified) : RelevanceArbitration :=
  let mandatory := items.any fun item ↦ item.band = .requiredAlert || item.band = .explicitRequest
  let selected := if mandatory then none else selectBand items
  { bindingFingerprint
    surfaceGroups := groupOf bindingFingerprint items .requiredAlert ++
      groupOf bindingFingerprint items .explicitRequest ++
      selected.toList.flatMap fun band ↦
        groupOf bindingFingerprint (items.filter Classified.eligibleNormal) (.normal band)
    heldDecisions :=
      canonical (items.filterMap (heldDecision bindingFingerprint mandatory selected)) }

/-- `arbitrate`, by a broker that was made for a binding. -/
def arbitrate (binding currentBinding : RelevanceBinding) (candidates : List RelevanceCandidate) :
    RelevanceChecked RelevanceArbitration := do
  require (fingerprint sha256 currentBinding = fingerprint sha256 binding)
    ⟨.staleRelevanceContext,
      "Relevance Broker context changed; refresh context before arbitration"⟩
  require (candidates.map RelevanceCandidate.semanticKey).Nodup
    ⟨.relevanceBroker, "each arbitration candidate must have a unique semantic_key"⟩
  let items ← candidates.mapM (classify sha256 currentBinding)
  return arbitrationOf (fingerprint sha256 currentBinding) items

/-! ### What the broker is for -/

/-- A candidate of another profile, artist or song. -/
def Foreign (binding : RelevanceBinding) (candidate : RelevanceCandidate) : Prop :=
  candidate.scopeProfileId ≠ binding.profileId ∨ candidate.scopeArtistId ≠ binding.artistId ∨
    OtherSong binding candidate

/-- A required alert, or an explicit request in the current context. -/
def Mandatory (binding : RelevanceBinding) (candidate : RelevanceCandidate) : Prop :=
  candidate.requiredAlertKind ≠ none ∨
    candidate.bindingFingerprint = fingerprint sha256 binding ∧
      candidate.explicitArtistRequest = true

/-- Nothing rules a candidate out. -/
structure Open (binding : RelevanceBinding) (candidate : RelevanceCandidate) : Prop where
  current : candidate.bindingFingerprint = fingerprint sha256 binding
  wanted : candidate.artistNotNow = false
  safe : candidate.discussionState = .safe
  evidence : candidate.requiresCurrentEvidence = true → candidate.evidenceFreshness = .current

def Criterion (binding : RelevanceBinding) (candidate : RelevanceCandidate) : NormalBand → Prop
  | .blocking => candidate.blocksNextStep = true ∨
      candidate.transactionState = .blocking ∨ candidate.transactionState = .awaitingArtist
  | .decisionChanging => candidate.changesNextDecision = true
  | .timeSensitive => candidate.urgency ≠ .none
  | .currentContext => contextMatch binding candidate = true
  | .futureOption => candidate.protectsFutureOption = true

/-- The first band of which a candidate meets the criterion. -/
def InBand (binding : RelevanceBinding) (candidate : RelevanceCandidate) (band : NormalBand) :
    Prop :=
  Criterion binding candidate band ∧
    ∀ earlier : NormalBand, earlier.rank < band.rank → ¬Criterion binding candidate earlier

/-- A candidate that can be surfaced in a normal band. -/
structure Eligible (binding : RelevanceBinding) (candidate : RelevanceCandidate)
    (band : NormalBand) : Prop where
  optional : ¬Mandatory sha256 binding candidate
  isOpen : Open sha256 binding candidate
  inBand : InBand binding candidate band

variable {sha256} {binding : RelevanceBinding} {candidate : RelevanceCandidate} {band : NormalBand}

theorem NormalBand.forall_iff {P : NormalBand → Prop} : (∀ band, P band) ↔ P .blocking ∧
    P .decisionChanging ∧ P .timeSensitive ∧ P .currentContext ∧ P .futureOption :=
  ⟨fun h ↦ ⟨h _, h _, h _, h _, h _⟩, fun ⟨h₁, h₂, h₃, h₄, h₅⟩ band ↦ by cases band <;> assumption⟩

section

variable {disposition : Disposition} {place : Band} {reasons more : List ReasonCode}
  {reason : ReasonCode} {mandatory eligibleNormal : Bool}

@[simp] theorem conclude_candidate : (conclude candidate disposition place reasons reason more
    mandatory eligibleNormal).candidate = candidate := rfl

@[simp] theorem conclude_band : (conclude candidate disposition place reasons reason more
    mandatory eligibleNormal).band = place := rfl

@[simp] theorem conclude_mandatory : (conclude candidate disposition place reasons reason more
    mandatory eligibleNormal).mandatory = mandatory := rfl

@[simp] theorem conclude_eligibleNormal : (conclude candidate disposition place reasons reason more
    mandatory eligibleNormal).eligibleNormal = eligibleNormal := rfl

end

theorem classifyNormal_candidate : (classifyNormal binding candidate).candidate = candidate := by
  simp only [classifyNormal, apply_ite Classified.candidate, conclude_candidate, ite_self]

theorem classifyNormal_mandatory : (classifyNormal binding candidate).mandatory = false := by
  simp only [classifyNormal, apply_ite Classified.mandatory, conclude_mandatory, ite_self]

/-- A normal candidate is in the first band of which it meets the criterion. -/
theorem classifyNormal_band : (classifyNormal binding candidate).eligibleNormal = true ∧
    (classifyNormal binding candidate).band = .normal band ↔ InBand binding candidate band := by
  simp only [classifyNormal, apply_ite Classified.eligibleNormal, apply_ite Classified.band,
    conclude_eligibleNormal, conclude_band, InBand, NormalBand.forall_iff, Criterion]
  cases band <;> simp only [NormalBand.rank] <;> grind

theorem classifyNormal_optional : (classifyNormal binding candidate).band ≠ .requiredAlert ∧
    (classifyNormal binding candidate).band ≠ .explicitRequest := by
  simp only [classifyNormal, apply_ite Classified.band, conclude_band]
  grind

/-- A band of normal candidates is one of eligible ones. -/
theorem classifyNormal_eligible : (classifyNormal binding candidate).eligibleNormal = true ↔
    ∃ band, (classifyNormal binding candidate).band = .normal band := by
  simp only [classifyNormal, apply_ite Classified.eligibleNormal, apply_ite Classified.band,
    conclude_eligibleNormal, conclude_band]
  split_ifs <;> simp

theorem classified_candidate : (classified sha256 binding candidate).candidate = candidate := by
  unfold classified
  cases candidate.requiredAlertKind with
  | some kind => rfl
  | none => simp only [apply_ite Classified.candidate, conclude_candidate, classifyNormal_candidate,
      ite_self]

theorem classified_mandatory : (classified sha256 binding candidate).mandatory = true ↔
    Mandatory sha256 binding candidate := by
  unfold classified Mandatory
  cases candidate.requiredAlertKind with
  | some kind => simp
  | none =>
    simp only [apply_ite Classified.mandatory, conclude_mandatory, classifyNormal_mandatory]
    grind

theorem band_of_mandatory : (classified sha256 binding candidate).mandatory = true ↔
    (classified sha256 binding candidate).band = .requiredAlert ∨
      (classified sha256 binding candidate).band = .explicitRequest := by
  obtain ⟨hrequired, hexplicit⟩ := @classifyNormal_optional binding candidate
  unfold classified
  cases candidate.requiredAlertKind with
  | some kind => simp
  | none =>
    simp only [apply_ite Classified.mandatory, apply_ite Classified.band, conclude_mandatory,
      conclude_band, classifyNormal_mandatory]
    grind

theorem band_of_eligible : (classified sha256 binding candidate).eligibleNormal = true ↔
    ∃ band, (classified sha256 binding candidate).band = .normal band := by
  unfold classified
  cases candidate.requiredAlertKind with
  | some kind => simp
  | none =>
    simp only [apply_ite Classified.eligibleNormal, apply_ite Classified.band,
      conclude_eligibleNormal, conclude_band]
    split_ifs <;> simp [classifyNormal_eligible]

/-- The candidates that are classified as eligible for a normal band. -/
theorem classified_band : (classified sha256 binding candidate).band = .normal band ↔
    Eligible sha256 binding candidate band := by
  have hnormal : (classifyNormal binding candidate).band = .normal band ↔
      InBand binding candidate band := by
    rw [← classifyNormal_band, iff_and_self, classifyNormal_eligible]
    exact fun h ↦ ⟨band, h⟩
  constructor
  · intro h
    have hmandatory : ¬Mandatory sha256 binding candidate := by
      rw [← classified_mandatory, band_of_mandatory, h]
      simp
    unfold classified at h
    cases halert : candidate.requiredAlertKind with
    | some kind => exact absurd (.inl (by simp [halert])) hmandatory
    | none =>
      simp only [halert, apply_ite Classified.band, conclude_band] at h
      split_ifs at h with hcurrent hexplicit hnotNow hunsafe hunknown hevidence
      have hsafe : candidate.discussionState = .safe := by
        cases hstate : candidate.discussionState with
        | safe => rfl
        | unknown => exact absurd hstate hunknown
        | unsafeToDiscuss => exact absurd hstate hunsafe
      exact ⟨hmandatory, ⟨hcurrent, Bool.eq_false_of_not_eq_true hnotNow, hsafe,
        fun hrequires ↦ not_not.mp fun hstale ↦ hevidence ⟨hrequires, hstale⟩⟩, hnormal.mp h⟩
  · rintro ⟨hoptional, ⟨hcurrent, hwanted, hsafe, hevidence⟩, hband⟩
    obtain ⟨halert, hexplicit⟩ := not_or.mp hoptional
    have hrequest : ¬candidate.explicitArtistRequest = true := fun h ↦ hexplicit ⟨hcurrent, h⟩
    have hfresh : ¬(candidate.requiresCurrentEvidence = true ∧
        candidate.evidenceFreshness ≠ .current) := fun h ↦ h.2 (hevidence h.1)
    simp only [classified, not_not.mp halert, hcurrent, hwanted, hsafe, not_true_eq_false,
      if_false, if_neg hrequest, if_neg hfresh, Bool.false_eq_true, reduceCtorEq]
    exact hnormal.mpr hband

/-! ### The scope of candidates -/

theorem validateScope_eq_ok : validateScope binding candidate = .ok () ↔
    ¬Foreign binding candidate := by
  simp only [validateScope, bind_eq_ok, require_eq_ok, exists_const, Foreign, not_or, not_not]

variable (sha256) in
/-- A candidate of another scope raises. -/
theorem classify_of_foreign (h : Foreign binding candidate) :
    ∃ message, classify sha256 binding candidate = .error ⟨.relevanceScopeLeak, message⟩ := by
  unfold classify validateScope require
  by_cases hprofile : candidate.scopeProfileId = binding.profileId
  · by_cases hartist : candidate.scopeArtistId = binding.artistId
    · have hsong : OtherSong binding candidate :=
        (h.resolve_left (not_not.mpr hprofile)).resolve_left (not_not.mpr hartist)
      rw [if_pos hprofile, if_pos hartist, if_neg (not_not.mpr hsong)]
      exact ⟨_, rfl⟩
    · rw [if_pos hprofile, if_neg hartist]
      exact ⟨_, rfl⟩
  · rw [if_neg hprofile]
    exact ⟨_, rfl⟩

theorem classify_of_not_foreign (h : ¬Foreign binding candidate) :
    classify sha256 binding candidate = .ok (classified sha256 binding candidate) := by
  rw [classify, validateScope_eq_ok.mpr h]
  rfl

variable {candidates others : List RelevanceCandidate}

theorem mapM_classify (h : ∀ candidate ∈ candidates, ¬Foreign binding candidate) :
    candidates.mapM (classify sha256 binding) =
      .ok (candidates.map (classified sha256 binding)) := by
  induction candidates with
  | nil => rfl
  | cons first rest ih =>
    obtain ⟨hfirst, hrest⟩ := List.forall_mem_cons.mp h
    rw [List.mapM_cons, classify_of_not_foreign hfirst, ih hrest]
    rfl

variable (sha256) in
theorem mapM_classify_of_foreign (h : ∃ candidate ∈ candidates, Foreign binding candidate) :
    ∃ message, candidates.mapM (classify sha256 binding) =
      .error ⟨.relevanceScopeLeak, message⟩ := by
  induction candidates with
  | nil =>
    obtain ⟨_, hmem, -⟩ := h
    cases hmem
  | cons first rest ih =>
    by_cases hfirst : Foreign binding first
    · obtain ⟨message, hmessage⟩ := classify_of_foreign sha256 hfirst
      rw [List.mapM_cons, hmessage]
      exact ⟨message, rfl⟩
    · obtain ⟨candidate, hmem, hforeign⟩ := h
      have hrest : candidate ∈ rest := (List.mem_cons.mp hmem).resolve_left fun hsame ↦
        hfirst (hsame ▸ hforeign)
      obtain ⟨message, hmessage⟩ := ih ⟨candidate, hrest, hforeign⟩
      rw [List.mapM_cons, classify_of_not_foreign hfirst, hmessage]
      exact ⟨message, rfl⟩

/-! ### The items of an arbitration -/

section

variable {items : List Classified} {bindingFingerprint : Text} {mandatory : Bool}
  {selected : Option NormalBand} {item : Classified}

/-- What classification makes sure of. -/
structure Sound (item : Classified) : Prop where
  mandatory : item.mandatory = true ↔ item.band = .requiredAlert ∨ item.band = .explicitRequest
  eligible : item.eligibleNormal = true ↔ ∃ band, item.band = .normal band

theorem sound_classified : Sound (classified sha256 binding candidate) :=
  ⟨band_of_mandatory, band_of_eligible⟩

def IsSurfaced (selected : Option NormalBand) (item : Classified) : Prop :=
  item.mandatory = true ∨ selected.map Band.normal = some item.band

instance : Decidable (IsSurfaced selected item) := inferInstanceAs (Decidable (_ ∨ _))

/-- An item is held exactly when it is not surfaced. -/
theorem heldDecision_eq_none (hsound : Sound item)
    (hselected : mandatory = true → selected = none) :
    heldDecision bindingFingerprint mandatory selected item = none ↔ IsSurfaced selected item := by
  unfold heldDecision IsSurfaced
  cases hmandatory : item.mandatory with
  | true => simp
  | false =>
    cases heligible : item.eligibleNormal with
    | true =>
      cases mandatory with
      | true => simp [hselected rfl]
      | false => simp
    | false =>
      have hnone : selected.map Band.normal ≠ some item.band := fun hsame ↦ by
        obtain ⟨band, -, hband⟩ := Option.map_eq_some_iff.mp hsame
        rw [hsound.eligible.mpr ⟨band, hband.symm⟩] at heligible
        cases heligible
      simp [hnone]

theorem heldDecision_key {held : RelevanceDecision}
    (h : heldDecision bindingFingerprint mandatory selected item = some held) :
    held.semanticKey = item.candidate.semanticKey := by
  unfold heldDecision at h
  split_ifs at h <;>
    · cases h
      rfl

theorem groupOf_decisions {band : Band} :
    (groupOf bindingFingerprint items band).flatMap RelevanceGroup.decisions =
      surfaced bindingFingerprint items band := by
  unfold groupOf
  split_ifs with h
  · rw [h, List.flatMap_nil]
  · rw [List.flatMap_singleton]

/-- The keys of surfaced decisions are those of their items. -/
theorem surfaced_keys {band : Band} :
    ((surfaced bindingFingerprint items band).map RelevanceDecision.semanticKey).Perm
      ((items.filter fun item ↦ item.band = band).map fun item ↦ item.candidate.semanticKey) := by
  have hranked := (rankBy_perm decisionKey ((items.filter fun item ↦ item.band = band).map
    fun item ↦ decision item bindingFingerprint .surfaceNow [])).map RelevanceDecision.semanticKey
  rwa [List.map_map] at hranked

/-- The items of two conditions that exclude each other. -/
theorem filter_append_filter {α : Type} {l : List α} {p q : α → Bool}
    (h : ∀ a ∈ l, p a = true → q a = false) :
    (l.filter p ++ l.filter q).Perm (l.filter fun a ↦ p a || q a) := by
  have hfirst : (l.filter fun a ↦ p a || q a).filter p = l.filter p := by
    rw [List.filter_filter]
    exact List.filter_congr fun a _ ↦ by cases p a <;> simp
  have hsecond : (l.filter fun a ↦ p a || q a).filter (fun a ↦ !p a) = l.filter q := by
    rw [List.filter_filter]
    refine List.filter_congr fun a ha ↦ ?_
    cases hp : p a with
    | true => simp [h a ha hp]
    | false => simp
  have hsplit := List.filter_append_perm p (l.filter fun a ↦ p a || q a)
  rwa [hfirst, hsecond] at hsplit

/-- The surfaced decisions are those of the surfaced items. -/
theorem surfaceNow_keys (hsound : ∀ item ∈ items, Sound item)
    (hselected : selected = if items.any (fun item ↦ item.band = .requiredAlert ||
      item.band = .explicitRequest) then none else selectBand items) :
    ((arbitrationOf bindingFingerprint items).surfaceNow.map RelevanceDecision.semanticKey).Perm
      ((items.filter fun item ↦ IsSurfaced selected item).map fun item ↦
        item.candidate.semanticKey) := by
  have hnormal (band : NormalBand) :
      surfaced bindingFingerprint (items.filter Classified.eligibleNormal) (.normal band) =
        surfaced bindingFingerprint items (.normal band) := by
    rw [surfaced, surfaced, List.filter_filter]
    congr 2
    refine List.filter_congr fun item hitem ↦ ?_
    by_cases hband : item.band = .normal band
    · simp [hband, (hsound item hitem).eligible.mpr ⟨band, hband⟩]
    · simp [hband]
  have hgroups : (arbitrationOf bindingFingerprint items).surfaceNow =
      surfaced bindingFingerprint items .requiredAlert ++
        surfaced bindingFingerprint items .explicitRequest ++
          selected.toList.flatMap fun band ↦ surfaced bindingFingerprint items (.normal band) := by
    simp only [RelevanceArbitration.surfaceNow, arbitrationOf, List.flatMap_append,
      groupOf_decisions, List.flatMap_assoc, hnormal, hselected]
  have hmandatory : (items.filter (fun item ↦ item.band = .requiredAlert) ++
      items.filter (fun item ↦ item.band = .explicitRequest)).Perm
        (items.filter Classified.mandatory) := by
    refine (filter_append_filter fun item _ hband ↦ ?_).trans (.of_eq ?_)
    · rw [of_decide_eq_true hband]
      rfl
    · refine List.filter_congr fun item hitem ↦ ?_
      rw [Bool.eq_iff_iff, (hsound item hitem).mandatory]
      simp
  rw [hgroups, List.map_append, List.map_append]
  refine ((surfaced_keys.append surfaced_keys).append_right _).trans ?_
  rw [← List.map_append]
  refine ((hmandatory.map _).append_right _).trans ?_
  cases selected with
  | none =>
    rw [Option.toList_none, List.flatMap_nil, List.map_nil, List.append_nil]
    refine .of_eq (congrArg _ (List.filter_congr fun item _ ↦ ?_))
    simp [IsSurfaced]
  | some band =>
    rw [Option.toList_some, List.flatMap_singleton]
    refine (surfaced_keys.append_left _).trans ?_
    rw [← List.map_append]
    refine ((filter_append_filter fun item hitem hitemMandatory ↦ ?_).trans (.of_eq ?_)).map _
    · rcases (hsound item hitem).mandatory.mp hitemMandatory with hband | hband <;> simp [hband]
    · refine List.filter_congr fun item _ ↦ ?_
      simp only [IsSurfaced, Option.map_some, Option.some.injEq, @eq_comm _ item.band,
        Bool.decide_or, Bool.decide_eq_true]

/-- The held decisions are those of the other items. -/
theorem heldDecisions_keys (hsound : ∀ item ∈ items, Sound item)
    (hselected : selected = if items.any (fun item ↦ item.band = .requiredAlert ||
      item.band = .explicitRequest) then none else selectBand items) :
    ((arbitrationOf bindingFingerprint items).heldDecisions.map RelevanceDecision.semanticKey).Perm
      ((items.filter fun item ↦ ¬IsSurfaced selected item).map fun item ↦
        item.candidate.semanticKey) := by
  refine ((rankBy_perm _ _).map _).trans (.of_eq ?_)
  rw [← hselected]
  have hnone : items.any (fun item ↦ item.band = .requiredAlert ||
      item.band = .explicitRequest) = true → selected = none := fun h ↦ by rw [hselected, if_pos h]
  generalize items.any _ = mandatory at hnone
  clear hselected
  induction items with
  | nil => rfl
  | cons first rest ih =>
    obtain ⟨hfirst, hrest⟩ := List.forall_mem_cons.mp hsound
    cases hheld : heldDecision bindingFingerprint mandatory selected first with
    | none =>
      have hsurfaced := (heldDecision_eq_none hfirst hnone).mp hheld
      rw [List.filterMap_cons_none hheld, List.filter_cons_of_neg (by simpa using hsurfaced)]
      exact ih hrest
    | some held =>
      have hsurfaced : ¬IsSurfaced selected first := fun h ↦ by
        rw [(heldDecision_eq_none hfirst hnone).mpr h] at hheld
        cases hheld
      rw [List.filterMap_cons_some hheld, List.filter_cons_of_pos (by simpa using hsurfaced),
        List.map_cons, List.map_cons, heldDecision_key hheld, ih hrest]

/-- The first of some bands in the order of their ranks. -/
theorem find?_eq_some_of_pairwise {p : NormalBand → Bool} {bands : List NormalBand}
    {band : NormalBand} (horder : bands.Pairwise fun a b ↦ a.rank < b.rank) :
    bands.find? p = some band ↔
      band ∈ bands ∧ p band = true ∧ ∀ other ∈ bands, p other = true → band.rank ≤ other.rank := by
  induction bands with
  | nil => simp
  | cons first rest ih =>
    obtain ⟨hfirst, hrest⟩ := List.pairwise_cons.mp horder
    by_cases hp : p first = true
    · rw [List.find?_cons_of_pos hp, Option.some.injEq]
      constructor
      · rintro rfl
        refine ⟨List.mem_cons_self, hp, fun other hother _ ↦ ?_⟩
        rcases List.mem_cons.mp hother with rfl | hother
        · exact Nat.le_refl _
        · exact (hfirst other hother).le
      · rintro ⟨hmem, -, hleast⟩
        rcases List.mem_cons.mp hmem with rfl | hmem
        · rfl
        · exact absurd (hleast first List.mem_cons_self hp) (Nat.not_le.mpr (hfirst band hmem))
    · rw [List.find?_cons_of_neg hp, ih hrest]
      constructor
      · rintro ⟨hmem, hband, hleast⟩
        refine ⟨List.mem_cons_of_mem _ hmem, hband, fun other hother hpother ↦ ?_⟩
        rcases List.mem_cons.mp hother with rfl | hother
        · exact absurd hpother hp
        · exact hleast other hother hpother
      · rintro ⟨hmem, hband, hleast⟩
        refine ⟨(List.mem_cons.mp hmem).resolve_left fun hsame ↦ hp (hsame ▸ hband), hband, ?_⟩
        exact fun other hother ↦ hleast other (List.mem_cons_of_mem _ hother)

/-- The normal band that is surfaced is the highest that is not empty. -/
theorem selectBand_eq_some {band : NormalBand} (hsound : ∀ item ∈ items, Sound item) :
    selectBand items = some band ↔ (∃ item ∈ items, item.band = .normal band) ∧
      ∀ item ∈ items, ∀ other, item.band = .normal other → band.rank ≤ other.rank := by
  have horder : normalBandOrder.Pairwise fun a b ↦ a.rank < b.rank := by decide
  have hall : ∀ band, band ∈ normalBandOrder := by
    rintro ⟨⟩ <;> decide
  have hany (other : NormalBand) : (items.any fun item ↦
      item.eligibleNormal && decide (item.band = .normal other)) = true ↔
        ∃ item ∈ items, item.band = .normal other := by
    simp only [List.any_eq_true, Bool.and_eq_true, decide_eq_true_eq]
    refine exists_congr fun item ↦ and_congr_right fun hitem ↦ and_iff_right_of_imp fun hband ↦ ?_
    exact (hsound item hitem).eligible.mpr ⟨other, hband⟩
  rw [selectBand, find?_eq_some_of_pairwise horder, hany]
  refine ⟨fun ⟨_, hband, hleast⟩ ↦ ⟨hband, fun item hitem other hother ↦ ?_⟩,
    fun ⟨hband, hleast⟩ ↦ ⟨hall band, hband, fun other _ hother ↦ ?_⟩⟩
  · exact hleast other (hall other) ((hany other).mpr ⟨item, hitem, hother⟩)
  · obtain ⟨item, hitem, hother⟩ := (hany other).mp hother
    exact hleast item hitem other hother

/-! ### The order of the candidates -/

/-- Decisions that differ in their items differ in their keys. -/
theorem rankBy_map_eq_of_perm {l m : List Classified} (hperm : l.Perm m)
    (hkeys : ∀ a ∈ l, ∀ b ∈ l, a.candidate.semanticKey = b.candidate.semanticKey → a = b)
    {f : Classified → Option RelevanceDecision}
    (hf : ∀ item held, f item = some held → held.semanticKey = item.candidate.semanticKey) :
    canonical (l.filterMap f) = canonical (m.filterMap f) := by
  refine rankBy_eq_of_perm (hperm.filterMap f) fun a ha b hb hab ↦ ?_
  obtain ⟨first, hfirst, hfirst'⟩ := List.mem_filterMap.mp ha
  obtain ⟨second, hsecond, hsecond'⟩ := List.mem_filterMap.mp hb
  have hsame : a.semanticKey = b.semanticKey := Text.ext (Prod.ext_iff.mp (toLex.injective hab)).2
  rw [hf _ _ hfirst', hf _ _ hsecond'] at hsame
  rw [hkeys first hfirst second hsecond hsame, hsecond'] at hfirst'
  exact (Option.some.inj hfirst').symm

theorem surfaced_eq_of_perm {l m : List Classified} {band : Band} (hperm : l.Perm m)
    (hkeys : ∀ a ∈ l, ∀ b ∈ l, a.candidate.semanticKey = b.candidate.semanticKey → a = b) :
    surfaced bindingFingerprint l band = surfaced bindingFingerprint m band := by
  have hmap (items : List Classified) : surfaced bindingFingerprint items band =
      canonical ((items.filter fun item ↦ item.band = band).filterMap fun item ↦
        some (decision item bindingFingerprint .surfaceNow [])) := by
    rw [surfaced, List.filterMap_eq_map']
  rw [hmap, hmap]
  refine rankBy_map_eq_of_perm (hperm.filter _) (fun a ha b hb ↦ ?_) fun item held h ↦ ?_
  · exact hkeys a (List.mem_of_mem_filter ha) b (List.mem_of_mem_filter hb)
  · obtain rfl := Option.some.inj h
    rfl

theorem groupOf_eq_of_perm {l m : List Classified} {band : Band} (hperm : l.Perm m)
    (hkeys : ∀ a ∈ l, ∀ b ∈ l, a.candidate.semanticKey = b.candidate.semanticKey → a = b) :
    groupOf bindingFingerprint l band = groupOf bindingFingerprint m band := by
  simp only [groupOf, surfaced_eq_of_perm hperm hkeys]

theorem any_eq_of_perm {α : Type} {l m : List α} (hperm : l.Perm m) (p : α → Bool) :
    l.any p = m.any p := by
  rw [Bool.eq_iff_iff, List.any_eq_true, List.any_eq_true]
  exact exists_congr fun a ↦ and_congr_left fun _ ↦ hperm.mem_iff

/-- An arbitration does not depend on the order of its items. -/
theorem arbitrationOf_eq_of_perm {others : List Classified} (hperm : items.Perm others)
    (hkeys : ∀ a ∈ items, ∀ b ∈ items,
      a.candidate.semanticKey = b.candidate.semanticKey → a = b) :
    arbitrationOf bindingFingerprint others = arbitrationOf bindingFingerprint items := by
  have hselect : selectBand others = selectBand items :=
    congrArg (normalBandOrder.find? ·) (funext fun band ↦ any_eq_of_perm hperm.symm _)
  have heligible (band : NormalBand) :
      groupOf bindingFingerprint (items.filter Classified.eligibleNormal) (.normal band) =
        groupOf bindingFingerprint (others.filter Classified.eligibleNormal) (.normal band) :=
    groupOf_eq_of_perm (hperm.filter _) fun a ha b hb ↦
      hkeys a (List.mem_of_mem_filter ha) b (List.mem_of_mem_filter hb)
  simp only [arbitrationOf, any_eq_of_perm hperm.symm, hselect, groupOf_eq_of_perm hperm hkeys,
    heligible, RelevanceArbitration.mk.injEq, true_and]
  exact (rankBy_map_eq_of_perm hperm hkeys fun item held h ↦ heldDecision_key h).symm

end

/-! ### Arbitration of candidates -/

variable (sha256) in
/-- A candidate is in the highest normal band that is not empty, and nothing is mandatory. -/
def Chosen (binding : RelevanceBinding) (candidates : List RelevanceCandidate)
    (candidate : RelevanceCandidate) : Prop :=
  (∀ other ∈ candidates, ¬Mandatory sha256 binding other) ∧
    ∃ band, Eligible sha256 binding candidate band ∧
      ∀ other ∈ candidates, ∀ place, Eligible sha256 binding other place → band.rank ≤ place.rank

variable {currentBinding : RelevanceBinding}

theorem arbitrate_eq (hcurrent : fingerprint sha256 currentBinding = fingerprint sha256 binding)
    (hunique : (candidates.map RelevanceCandidate.semanticKey).Nodup)
    (hscope : ∀ candidate ∈ candidates, ¬Foreign currentBinding candidate) :
    arbitrate sha256 binding currentBinding candidates =
      .ok (arbitrationOf (fingerprint sha256 currentBinding)
        (candidates.map (classified sha256 currentBinding))) := by
  simp only [arbitrate, bind_eq_ok, require_eq_ok, pure_eq_ok]
  exact ⟨(), hcurrent, (), hunique, _, mapM_classify hscope, rfl⟩

theorem any_mandatory : ((candidates.map (classified sha256 binding)).any fun item ↦
    item.band = .requiredAlert || item.band = .explicitRequest) = true ↔
      ∃ candidate ∈ candidates, Mandatory sha256 binding candidate := by
  simp only [List.any_map, List.any_eq_true, Function.comp_apply, Bool.or_eq_true,
    decide_eq_true_eq, ← band_of_mandatory, classified_mandatory]

/-- The items that are surfaced are the mandatory and the chosen candidates. -/
theorem isSurfaced_classified {selected : Option NormalBand} (hmem : candidate ∈ candidates)
    (hselected : selected = if (candidates.map (classified sha256 binding)).any (fun item ↦
      item.band = .requiredAlert || item.band = .explicitRequest) then none
        else selectBand (candidates.map (classified sha256 binding))) :
    IsSurfaced selected (classified sha256 binding candidate) ↔
      Mandatory sha256 binding candidate ∨ Chosen sha256 binding candidates candidate := by
  have hsound : ∀ item ∈ candidates.map (classified sha256 binding), Sound item := by
    intro item hitem
    obtain ⟨_, -, rfl⟩ := List.mem_map.mp hitem
    exact sound_classified
  rw [IsSurfaced, classified_mandatory]
  refine or_congr_right ?_
  by_cases hmandatory : ∃ other ∈ candidates, Mandatory sha256 binding other
  · rw [if_pos (any_mandatory.mpr hmandatory)] at hselected
    rw [hselected, Option.map_none]
    obtain ⟨other, hother, hforced⟩ := hmandatory
    exact ⟨nofun, fun h ↦ absurd hforced (h.1 other hother)⟩
  · rw [if_neg (mt any_mandatory.mp hmandatory)] at hselected
    push Not at hmandatory
    rw [hselected, Option.map_eq_some_iff]
    simp only [selectBand_eq_some hsound, List.mem_map, exists_exists_and_eq_and,
      forall_exists_index, and_imp, forall_apply_eq_imp_iff₂, classified_band]
    constructor
    · rintro ⟨band, ⟨-, hleast⟩, hband⟩
      exact ⟨hmandatory, band, classified_band.mp hband.symm, hleast⟩
    · rintro ⟨-, band, heligible, hleast⟩
      exact ⟨band, ⟨⟨candidate, hmem, heligible⟩, hleast⟩, (classified_band.mpr heligible).symm⟩

def sampleText : Text := ⟨"a", Text.letterA.stripped, Text.letterA.nonempty⟩

def sampleBinding : RelevanceBinding where
  profileId := sampleText
  artistId := sampleText
  songId := none
  versionId := none
  sessionId := none
  focusId := none
  workspaceId := none
  jobId := none
  purposeKey := none
  operatingContext := .normal
  song_bound := fun _ ↦ ⟨rfl, rfl, rfl, rfl⟩

def sampleRequest : RelevanceCandidate where
  semanticKey := sampleText
  surface := sampleText
  bindingFingerprint := sampleText
  scopeProfileId := sampleText
  scopeArtistId := sampleText
  scopeSongId := none
  scopeJobId := none
  purposeKeys := []
  operatingContexts := []
  blocksNextStep := false
  protectsFutureOption := false
  changesNextDecision := false
  explicitArtistRequest := true
  artistNotNow := true
  requiresCurrentEvidence := false
  urgency := .none
  evidenceFreshness := .current
  discussionState := .safe
  transactionState := .none
  requiredAlertKind := none

end N0te.Relevance
