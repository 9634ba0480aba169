import Mathlib.Algebra.Order.Ring.Rat
import N0te.Library.Checking
import N0te.Library.Ranking
import N0te.Library.Text

/-!
# The capability resolver

`resolve` ranks the routes that could do a job. A route that fails a constraint is rejected, a
guided one also where an automated one is legitimate, and the rest are ranked by a score of
explicit attributes, with the id to break ties. Scores are exact rationals.

The result is a function of the set of candidates (`resolve_eq_of_perm`), and of what is neither
brand, name nor kind of an automated route (`resolve_of_sameMerit`). `resolution_of_candidates` has
all of it.
-/

set_option autoImplicit false
set_option relaxedAutoImplicit false

namespace N0te.Routes

open Library

/-! ### Jobs and candidates -/

/-- `ROUTE_KINDS`. -/
inductive RouteKind where
  | hostNative
  | n0teNative
  | ownedTool
  | provider
  | guided
  deriving DecidableEq

/-- The attributes that are scored. -/
inductive Attribute where
  | taskFit
  | editability
  | locality
  | privacy
  | latency
  | reversibility
  | costEfficiency
  | portability
  | userPreference
  deriving DecidableEq

/-- `_SCORE_WEIGHTS`. -/
def scoreWeights : List (Attribute × ℚ) := [(.taskFit, 3 / 10), (.editability, 1 / 10),
  (.locality, 1 / 10), (.privacy, 1 / 10), (.latency, 1 / 10), (.reversibility, 1 / 10),
  (.costEfficiency, 1 / 10), (.portability, 1 / 20), (.userPreference, 1 / 20)]

/-- A number of the unit interval. -/
abbrev UnitScore : Type := {value : ℚ // 0 ≤ value ∧ value ≤ 1}

/-- `N0TEableJob`. -/
structure Job where
  id : Text
  capability : Text
  description : Text

/-- `ResolutionConstraints`. -/
structure ResolutionConstraints where
  minLocality : UnitScore
  minPrivacy : UnitScore
  requireReversible : Bool
  allowPaid : Bool
  maxEvidenceAgeSeconds : Option ℕ

/-- `CapabilityCandidate`. -/
structure CapabilityCandidate where
  candidateId : Text
  routeKind : RouteKind
  capability : Text
  displayName : Text
  brand : Option Text
  verified : Bool
  compatible : Bool
  evidenceRef : Option Text
  evidenceAgeSeconds : Option ℕ
  value : Attribute → UnitScore
  paid : Bool
  evidence_of_verified : verified = true → evidenceRef ≠ none

/-! ### Reasons -/

/-- Why a candidate is rejected. -/
inductive RejectionCode where
  | capabilityMismatch
  | unverified
  | missingEvidenceRef
  | incompatible
  | staleOrUnknownEvidence
  | localityBelowMinimum
  | privacyBelowMinimum
  | reversibilityRequired
  | paidRouteNotAllowed
  | guidedFallbackOnlyAutomationAvailable
  deriving DecidableEq

/-- The code, as it is written. -/
def RejectionCode.name : RejectionCode → String
  | .capabilityMismatch => "CAPABILITY_MISMATCH"
  | .unverified => "UNVERIFIED"
  | .missingEvidenceRef => "MISSING_EVIDENCE_REF"
  | .incompatible => "INCOMPATIBLE"
  | .staleOrUnknownEvidence => "STALE_OR_UNKNOWN_EVIDENCE"
  | .localityBelowMinimum => "LOCALITY_BELOW_MINIMUM"
  | .privacyBelowMinimum => "PRIVACY_BELOW_MINIMUM"
  | .reversibilityRequired => "REVERSIBILITY_REQUIRED"
  | .paidRouteNotAllowed => "PAID_ROUTE_NOT_ALLOWED"
  | .guidedFallbackOnlyAutomationAvailable => "GUIDED_FALLBACK_ONLY_AUTOMATION_AVAILABLE"

/-- What is said of a candidate, or of a resolution. -/
inductive ReasonCode where
  | capabilityMatch
  | isVerified
  | isCompatible
  | constraintsSatisfied
  | scoredFromExplicitAttributesOnly
  | recommendedHighestExplicitScore
  | automationAvailableGuidedExcluded
  | scoreTieBrokenByCandidateId
  | noLegitimateRoute
  | noCandidates
  | rejection (code : RejectionCode)
  deriving DecidableEq

variable (job : Job) (constraints : ResolutionConstraints)

/-- A constraint that a candidate fails, in the words of its code. -/
def Fails (candidate : CapabilityCandidate) : RejectionCode → Prop
  | .capabilityMismatch => candidate.capability ≠ job.capability
  | .unverified => candidate.verified = false
  | .missingEvidenceRef => candidate.verified = true ∧ candidate.evidenceRef = none
  | .incompatible => candidate.compatible = false
  | .staleOrUnknownEvidence => ∃ limit ∈ constraints.maxEvidenceAgeSeconds,
      ∀ age ∈ candidate.evidenceAgeSeconds, limit < age
  | .localityBelowMinimum => (candidate.value .locality).val < constraints.minLocality.val
  | .privacyBelowMinimum => (candidate.value .privacy).val < constraints.minPrivacy.val
  | .reversibilityRequired =>
      constraints.requireReversible = true ∧ (candidate.value .reversibility).val < 1
  | .paidRouteNotAllowed => constraints.allowPaid = false ∧ candidate.paid = true
  | .guidedFallbackOnlyAutomationAvailable => False

/-- Evidence is too old, or of unknown age. -/
def isStale (limit age : Option ℕ) : Bool :=
  match limit, age with
  | none, _ => false
  | some _, none => true
  | some limit, some age => limit < age

/-- `_reject_reasons`. -/
def rejectReasons (candidate : CapabilityCandidate) : List RejectionCode :=
  (if candidate.capability ≠ job.capability then [.capabilityMismatch] else []) ++
  (if candidate.verified = false then [.unverified]
    else if candidate.evidenceRef = none then [.missingEvidenceRef] else []) ++
  (if candidate.compatible = false then [.incompatible] else []) ++
  (if isStale constraints.maxEvidenceAgeSeconds candidate.evidenceAgeSeconds = true
    then [.staleOrUnknownEvidence] else []) ++
  (if (candidate.value .locality).val < constraints.minLocality.val
    then [.localityBelowMinimum] else []) ++
  (if (candidate.value .privacy).val < constraints.minPrivacy.val
    then [.privacyBelowMinimum] else []) ++
  (if constraints.requireReversible = true ∧ (candidate.value .reversibility).val < 1
    then [.reversibilityRequired] else []) ++
  (if constraints.allowPaid = false ∧ candidate.paid = true then [.paidRouteNotAllowed] else [])

theorem isStale_eq_true {limit age : Option ℕ} :
    isStale limit age = true ↔ ∃ bound ∈ limit, ∀ n ∈ age, bound < n := by
  cases limit <;> cases age <;> simp [isStale]

/-- A candidate is rejected for the constraints that it fails. -/
theorem mem_rejectReasons {candidate : CapabilityCandidate} {code : RejectionCode} :
    code ∈ rejectReasons job constraints candidate ↔ Fails job constraints candidate code := by
  cases code <;> simp [rejectReasons, Fails, isStale_eq_true, List.mem_ite_nil_right]
  all_goals grind

/-- No constraint rejects a candidate. -/
def Legitimate (candidate : CapabilityCandidate) : Prop :=
  rejectReasons job constraints candidate = []

instance (candidate : CapabilityCandidate) : Decidable (Legitimate job constraints candidate) :=
  inferInstanceAs (Decidable (_ = _))

/-! ### Assessments -/

/-- `ScoreContribution`. -/
structure ScoreContribution where
  attr : Attribute
  value : ℚ
  weight : ℚ
  contribution : ℚ
  deriving DecidableEq

/-- `CandidateAssessment`. -/
structure CandidateAssessment where
  candidate : CapabilityCandidate
  score : ℚ
  scoreBreakdown : List ScoreContribution
  reasonCodes : List ReasonCode

/-- `CandidateRejection`. -/
structure CandidateRejection where
  candidateId : Text
  routeKind : RouteKind
  displayName : Text
  reasonCodes : List RejectionCode
  deriving DecidableEq

def scoreBreakdown (candidate : CapabilityCandidate) : List ScoreContribution :=
  scoreWeights.map fun (attr, weight) ↦ {
    attr
    value := (candidate.value attr).val
    weight
    contribution := (candidate.value attr).val * weight }

def score (candidate : CapabilityCandidate) : ℚ :=
  ((scoreBreakdown candidate).map ScoreContribution.contribution).sum

/-- `_assessment`. -/
def assessment (candidate : CapabilityCandidate) : CandidateAssessment where
  candidate
  score := score candidate
  scoreBreakdown := scoreBreakdown candidate
  reasonCodes := [.capabilityMatch, .isVerified, .isCompatible, .constraintsSatisfied,
    .scoredFromExplicitAttributesOnly]

def rejection (candidate : CapabilityCandidate) (reasonCodes : List RejectionCode) :
    CandidateRejection where
  candidateId := candidate.candidateId
  routeKind := candidate.routeKind
  displayName := candidate.displayName
  reasonCodes

/-! ### Resolutions -/

/-- `CapabilityResolution`. Its status is whether something is recommended. -/
structure CapabilityResolution where
  jobId : Text
  capability : Text
  recommended : Option CandidateAssessment
  fallbacks : List CandidateAssessment
  rejected : List CandidateRejection
  reasonCodes : List ReasonCode

/-- `CapabilityResolutionError`, by its message. -/
abbrev ResolutionChecked (α : Type) := Except String α

/-- The candidates that `_reject_reasons` rejects, by id. -/
def invalid (candidates : List CapabilityCandidate) : List CandidateRejection :=
  rankBy (fun item ↦ item.candidateId.val) <|
    (candidates.filter fun candidate ↦ ¬Legitimate job constraints candidate).map fun candidate ↦
      rejection candidate (rejectReasons job constraints candidate)

def legitimate (candidates : List CapabilityCandidate) : List CandidateAssessment :=
  (candidates.filter fun candidate ↦ Legitimate job constraints candidate).map assessment

/-- Those that are not guided. -/
def automated (items : List CandidateAssessment) : List CandidateAssessment :=
  items.filter fun item ↦ item.candidate.routeKind ≠ .guided

/-- Those that are guided, by id. -/
def guided (items : List CandidateAssessment) : List CandidateAssessment :=
  rankBy (fun item ↦ item.candidate.candidateId.val) <|
    items.filter fun item ↦ item.candidate.routeKind = .guided

/-- Guided candidates are rejected where there are automated ones. -/
def policyExcluded (items : List CandidateAssessment) : List CandidateRejection :=
  if automated items = [] then []
  else (guided items).map fun item ↦
    rejection item.candidate [.guidedFallbackOnlyAutomationAvailable]

/-- The legitimate candidates that are ranked. -/
def available (items : List CandidateAssessment) : List CandidateAssessment :=
  if automated items = [] then items else automated items

/-- The score, from the highest, and the id. -/
def rankKey (item : CandidateAssessment) : ℚ ×ₗ String :=
  toLex (-item.score, item.candidate.candidateId.val)

/-- `sorted` of the codes of some rejections, as a set. -/
def gapCodes (rejected : List CandidateRejection) : List RejectionCode :=
  rankBy RejectionCode.name (rejected.flatMap CandidateRejection.reasonCodes).dedup

/-- What is said of a resolution that recommends the first of some candidates. -/
def resolutionReasons (guidedExcluded : Bool) (top : CandidateAssessment)
    (ranked : List CandidateAssessment) : List ReasonCode :=
  [.recommendedHighestExplicitScore] ++
  (if guidedExcluded then [.automationAvailableGuidedExcluded] else []) ++
  (if 1 < (ranked.filter fun item ↦ |item.score - top.score| ≤ 1 / 10 ^ 12).length
    then [.scoreTieBrokenByCandidateId] else [])

/-- The resolution that recommends the first of some ranked candidates. -/
def resolutionOf (rejected excluded : List CandidateRejection) :
    List CandidateAssessment → CapabilityResolution
  | [] =>
    let gap := (gapCodes (rejected ++ excluded)).map ReasonCode.rejection ++
      if rejected ++ excluded = [] then [.noCandidates] else []
    ⟨job.id, job.capability, none, [], rejected ++ excluded, .noLegitimateRoute :: gap⟩
  | top :: rest =>
    let reasons := resolutionReasons (!excluded.isEmpty) top (top :: rest)
    let recommended := { top with reasonCodes := top.reasonCodes ++ reasons }
    ⟨job.id, job.capability, some recommended, rest, rejected ++ excluded, reasons⟩

/-- `resolve`. -/
def resolve (candidates : List CapabilityCandidate) : ResolutionChecked CapabilityResolution := do
  require (candidates.map CapabilityCandidate.candidateId).Nodup
    "candidate_id values must be unique"
  let legitimate := legitimate job constraints candidates
  return resolutionOf job (invalid job constraints candidates) (policyExcluded legitimate)
    (rankBy rankKey (available legitimate))

/-- The candidates that are resolved, from the recommended one on. -/
def CapabilityResolution.resolved (result : CapabilityResolution) : List CandidateAssessment :=
  result.recommended.toList ++ result.fallbacks

/-! ### What a resolution contains -/

variable {job constraints} {candidates others : List CapabilityCandidate}

theorem mem_legitimate {item : CandidateAssessment} :
    item ∈ legitimate job constraints candidates ↔
      ∃ candidate ∈ candidates, Legitimate job constraints candidate ∧
        assessment candidate = item := by
  simp [legitimate, and_assoc]

/-- An assessment is made of its candidate. -/
theorem eq_assessment {item : CandidateAssessment}
    (h : item ∈ legitimate job constraints candidates) : item = assessment item.candidate := by
  obtain ⟨candidate, -, -, rfl⟩ := mem_legitimate.mp h
  rfl

theorem mem_available {items : List CandidateAssessment} {item : CandidateAssessment} :
    item ∈ available items ↔
      item ∈ items ∧ (automated items ≠ [] → item.candidate.routeKind ≠ .guided) := by
  unfold available
  split_ifs with h
  · exact ⟨fun hitem ↦ ⟨hitem, fun hsome ↦ absurd h hsome⟩, And.left⟩
  · rw [automated, List.mem_filter, decide_eq_true_eq]
    exact and_congr_right fun _ ↦ ⟨fun hkind _ ↦ hkind, fun hkind ↦ hkind h⟩

variable (job constraints) in
/-- The candidates that are resolved, and those that are rejected. -/
theorem exists_resolution (hunique : (candidates.map CapabilityCandidate.candidateId).Nodup) :
    ∃ result, resolve job constraints candidates = .ok result ∧
      result.resolved.map CandidateAssessment.candidate =
        (rankBy rankKey (available (legitimate job constraints candidates))).map
          CandidateAssessment.candidate ∧
      (∀ item ∈ result.resolved, item.score = score item.candidate) ∧
      result.rejected = invalid job constraints candidates ++
        policyExcluded (legitimate job constraints candidates) := by
  have hscore : ∀ item ∈ rankBy rankKey (available (legitimate job constraints candidates)),
      item.score = score item.candidate := by
    intro item hitem
    rw [eq_assessment (mem_available.mp (mem_rankBy.mp hitem)).1]
    rfl
  refine ⟨_, bind_eq_ok.mpr ⟨(), require_eq_ok.mpr hunique, rfl⟩, ?_⟩
  cases hranked : rankBy rankKey (available (legitimate job constraints candidates)) with
  | nil => exact ⟨rfl, List.forall_mem_nil _, rfl⟩
  | cons top rest =>
    rw [hranked, List.forall_mem_cons] at hscore
    obtain ⟨htop, hrest⟩ := hscore
    refine ⟨rfl, fun item hitem ↦ ?_, rfl⟩
    rcases List.mem_cons.mp hitem with rfl | hitem
    · exact htop
    · exact hrest item hitem

/-- A candidate is known by its id. -/
theorem eq_of_candidateId (hunique : (candidates.map CapabilityCandidate.candidateId).Nodup)
    {a b : CapabilityCandidate} (ha : a ∈ candidates) (hb : b ∈ candidates)
    (h : a.candidateId.val = b.candidateId.val) : a = b :=
  List.inj_on_of_nodup_map hunique ha hb (Text.ext h)

/-- A legitimate assessment is known by the id of its candidate. -/
theorem eq_of_assessedId (hunique : (candidates.map CapabilityCandidate.candidateId).Nodup)
    {a b : CandidateAssessment} (ha : a ∈ legitimate job constraints candidates)
    (hb : b ∈ legitimate job constraints candidates)
    (h : a.candidate.candidateId.val = b.candidate.candidateId.val) : a = b := by
  obtain ⟨first, hfirst, -, rfl⟩ := mem_legitimate.mp ha
  obtain ⟨second, hsecond, -, rfl⟩ := mem_legitimate.mp hb
  rw [eq_of_candidateId hunique hfirst hsecond h]

/-! ### The order of the candidates -/

variable (job constraints) in
theorem legitimate_perm (hperm : candidates.Perm others) :
    (legitimate job constraints candidates).Perm (legitimate job constraints others) :=
  (hperm.filter _).map _

theorem invalid_eq_of_perm (hunique : (candidates.map CapabilityCandidate.candidateId).Nodup)
    (hperm : candidates.Perm others) :
    invalid job constraints candidates = invalid job constraints others := by
  refine rankBy_eq_of_perm ((hperm.filter _).map _) fun a ha b hb h ↦ ?_
  obtain ⟨first, hfirst, rfl⟩ := List.mem_map.mp ha
  obtain ⟨second, hsecond, rfl⟩ := List.mem_map.mp hb
  rw [eq_of_candidateId hunique (List.mem_of_mem_filter hfirst) (List.mem_of_mem_filter hsecond) h]

/-- A resolution does not depend on the order of the candidates. -/
theorem resolve_eq_of_perm (hunique : (candidates.map CapabilityCandidate.candidateId).Nodup)
    (hperm : candidates.Perm others) :
    resolve job constraints others = resolve job constraints candidates := by
  have hlegitimate := legitimate_perm job constraints hperm
  have hautomated : automated (legitimate job constraints candidates) = [] ↔
      automated (legitimate job constraints others) = [] := by
    rw [← List.length_eq_zero_iff, ← List.length_eq_zero_iff, automated, automated,
      (hlegitimate.filter _).length_eq]
  have hguided : guided (legitimate job constraints candidates) =
      guided (legitimate job constraints others) :=
    rankBy_eq_of_perm (hlegitimate.filter _) fun a ha b hb h ↦
      eq_of_assessedId hunique (List.mem_of_mem_filter ha) (List.mem_of_mem_filter hb) h
  have havailable : (available (legitimate job constraints candidates)).Perm
      (available (legitimate job constraints others)) := by
    simp only [available, hautomated]
    split_ifs
    · exact hlegitimate
    · exact hlegitimate.filter _
  have hranked : rankBy rankKey (available (legitimate job constraints candidates)) =
      rankBy rankKey (available (legitimate job constraints others)) := by
    refine rankBy_eq_of_perm havailable fun a ha b hb h ↦ ?_
    exact eq_of_assessedId hunique (mem_available.mp ha).1 (mem_available.mp hb).1
      (Prod.ext_iff.mp (toLex.injective h)).2
  have hexcluded : policyExcluded (legitimate job constraints candidates) =
      policyExcluded (legitimate job constraints others) := by
    simp only [policyExcluded, hautomated, hguided]
  have hids : (candidates.map CapabilityCandidate.candidateId).Nodup ↔
      (others.map CapabilityCandidate.candidateId).Nodup := (hperm.map _).nodup_iff
  simp only [resolve, hranked, hexcluded, hids, invalid_eq_of_perm hunique hperm]

/-! ### Every candidate once -/

/-- A legitimate candidate is available, or excluded because it is guided. -/
theorem available_append_excluded (items : List CandidateAssessment) :
    ((available items).map (fun item ↦ item.candidate.candidateId) ++
      (policyExcluded items).map CandidateRejection.candidateId).Perm
        (items.map fun item ↦ item.candidate.candidateId) := by
  unfold available policyExcluded
  split_ifs with h
  · rw [List.map_nil, List.append_nil]
  · rw [List.map_map]
    have hguided : ((guided items).map (CandidateRejection.candidateId ∘ fun item ↦
        rejection item.candidate [.guidedFallbackOnlyAutomationAvailable])).Perm
          ((items.filter fun item ↦ item.candidate.routeKind = .guided).map fun item ↦
            item.candidate.candidateId) := (rankBy_perm _ _).map _
    refine (hguided.append_left _).trans ?_
    rw [automated, ← List.map_append]
    have hsplit := List.filter_append_perm
      (fun item : CandidateAssessment ↦ decide (item.candidate.routeKind ≠ .guided)) items
    simpa using hsplit.map _

theorem legitimate_append_invalid (candidates : List CapabilityCandidate) :
    ((legitimate job constraints candidates).map (fun item ↦ item.candidate.candidateId) ++
      (invalid job constraints candidates).map CandidateRejection.candidateId).Perm
        (candidates.map CapabilityCandidate.candidateId) := by
  have hinvalid : ((invalid job constraints candidates).map CandidateRejection.candidateId).Perm
      ((candidates.filter fun candidate ↦ ¬Legitimate job constraints candidate).map
        CapabilityCandidate.candidateId) := by
    have hranked := (rankBy_perm (fun item : CandidateRejection ↦ item.candidateId.val)
      ((candidates.filter fun candidate ↦ ¬Legitimate job constraints candidate).map
        fun candidate ↦ rejection candidate (rejectReasons job constraints candidate))).map
          CandidateRejection.candidateId
    rwa [List.map_map] at hranked
  refine (hinvalid.append_left _).trans ?_
  rw [legitimate, List.map_map]
  have hsplit := (List.filter_append_perm
    (fun candidate ↦ decide (Legitimate job constraints candidate)) candidates).map
      CapabilityCandidate.candidateId
  rw [List.map_append] at hsplit
  simpa [Function.comp_def, assessment] using hsplit

/-! ### Candidates of equal merit -/

/-- Two candidates differ only in brand, name and kind of an automated route. -/
structure SameMerit (a b : CapabilityCandidate) : Prop where
  candidateId : a.candidateId = b.candidateId
  guided : a.routeKind = .guided ↔ b.routeKind = .guided
  capability : a.capability = b.capability
  verified : a.verified = b.verified
  compatible : a.compatible = b.compatible
  evidenceRef : a.evidenceRef = b.evidenceRef
  evidenceAgeSeconds : a.evidenceAgeSeconds = b.evidenceAgeSeconds
  value : a.value = b.value
  paid : a.paid = b.paid

/-- A candidate without brand, with its id for a name and with one kind for all automated routes. -/
def merit (candidate : CapabilityCandidate) : CapabilityCandidate :=
  { candidate with
    routeKind := if candidate.routeKind = .guided then .guided else .hostNative
    displayName := candidate.candidateId
    brand := none }

theorem merit_eq {a b : CapabilityCandidate} (h : SameMerit a b) : merit a = merit b := by
  obtain ⟨hid, hguided, hcapability, hverified, hcompatible, hevidence, hage, hvalue, hpaid⟩ := h
  simp only [merit, hid, hguided, hcapability, hverified, hcompatible, hevidence, hage, hvalue,
    hpaid]

theorem merit_guided (candidate : CapabilityCandidate) :
    (merit candidate).routeKind = .guided ↔ candidate.routeKind = .guided := by
  simp only [merit]
  split_ifs with h <;> simp [h]

def CandidateAssessment.idScore (item : CandidateAssessment) : Text × ℚ :=
  (item.candidate.candidateId, item.score)

def CandidateRejection.idReasons (item : CandidateRejection) : Text × List RejectionCode :=
  (item.candidateId, item.reasonCodes)

/-- The order of ids and scores. -/
def idScoreKey (pair : Text × ℚ) : ℚ ×ₗ String := toLex (-pair.2, pair.1.val)

theorem idScore_legitimate_merit : legitimate job constraints (candidates.map merit) =
    (legitimate job constraints candidates).map fun item ↦ assessment (merit item.candidate) := by
  have hsame : (fun candidate ↦ decide (Legitimate job constraints candidate)) ∘ merit =
      fun candidate ↦ decide (Legitimate job constraints candidate) := rfl
  rw [legitimate, legitimate, List.filter_map, hsame, List.map_map, List.map_map]
  rfl

section

variable {items : List CandidateAssessment}

theorem automated_merit : automated (items.map fun item ↦ assessment (merit item.candidate)) =
    (automated items).map fun item ↦ assessment (merit item.candidate) := by
  rw [automated, automated, List.filter_map]
  congr 1
  apply List.filter_congr
  intro item _
  simp [assessment, merit_guided]

theorem policyExcluded_merit :
    (policyExcluded (items.map fun item ↦ assessment (merit item.candidate))).map
        CandidateRejection.idReasons =
      (policyExcluded items).map CandidateRejection.idReasons := by
  have hguided : guided (items.map fun item ↦ assessment (merit item.candidate)) =
      (guided items).map fun item ↦ assessment (merit item.candidate) := by
    rw [guided, guided, List.filter_map, ← map_rankBy _ fun _ _ ↦ rfl]
    congr 2
    apply List.filter_congr
    intro item _
    simp [assessment, merit_guided]
  simp only [policyExcluded, automated_merit, List.map_eq_nil_iff, hguided]
  split_ifs
  · rfl
  · rw [List.map_map, List.map_map, List.map_map]
    rfl

theorem available_merit (h : ∀ item ∈ items, item = assessment item.candidate) :
    (available (items.map fun item ↦ assessment (merit item.candidate))).map
        CandidateAssessment.idScore =
      (available items).map CandidateAssessment.idScore := by
  have hscore : ∀ item ∈ items,
      (assessment (merit item.candidate)).idScore = item.idScore := fun item hitem ↦ by
    rw [h item hitem]
    rfl
  simp only [available, automated_merit, List.map_eq_nil_iff]
  split_ifs
  · rw [List.map_map]
    exact List.map_congr_left hscore
  · rw [List.map_map]
    exact List.map_congr_left fun item hitem ↦ hscore item (List.mem_of_mem_filter hitem)

end

theorem invalid_merit :
    (invalid job constraints (candidates.map merit)).map CandidateRejection.idReasons =
      (invalid job constraints candidates).map CandidateRejection.idReasons := by
  have hsame : (fun candidate ↦ decide ¬Legitimate job constraints candidate) ∘ merit =
      fun candidate ↦ decide ¬Legitimate job constraints candidate := rfl
  have hkey (l : List CandidateRejection) :
      (rankBy (fun item ↦ item.candidateId.val) l).map CandidateRejection.idReasons =
        rankBy (fun pair ↦ pair.1.val) (l.map CandidateRejection.idReasons) :=
    map_rankBy _ fun _ _ ↦ rfl
  rw [invalid, invalid, hkey, hkey, List.filter_map, hsame, List.map_map, List.map_map,
    List.map_map]
  rfl

variable (job constraints) in
/-- What is resolved and rejected of candidates depends on their merit only. -/
theorem resolve_merit (hunique : (candidates.map CapabilityCandidate.candidateId).Nodup) :
    ∃ result, resolve job constraints candidates = .ok result ∧
      result.resolved.map CandidateAssessment.idScore =
        rankBy idScoreKey ((available (legitimate job constraints (candidates.map merit))).map
          CandidateAssessment.idScore) ∧
      result.rejected.map CandidateRejection.idReasons =
        (invalid job constraints (candidates.map merit) ++
          policyExcluded (legitimate job constraints (candidates.map merit))).map
            CandidateRejection.idReasons := by
  obtain ⟨result, hresult, hresolved, hscore, hrejected⟩ :=
    exists_resolution job constraints hunique
  refine ⟨result, hresult, ?_, ?_⟩
  · have hidScore : result.resolved.map CandidateAssessment.idScore =
        (result.resolved.map CandidateAssessment.candidate).map fun candidate ↦
          (candidate.candidateId, score candidate) := by
      rw [List.map_map]
      exact List.map_congr_left fun item hitem ↦ congrArg (Prod.mk _) (hscore item hitem)
    have hranked : (rankBy rankKey (available (legitimate job constraints candidates))).map
        (fun item ↦ (item.candidate.candidateId, score item.candidate)) =
          (rankBy rankKey (available (legitimate job constraints candidates))).map
            CandidateAssessment.idScore := List.map_congr_left fun item hitem ↦ by
      rw [eq_assessment (mem_available.mp (mem_rankBy.mp hitem)).1]
      rfl
    rw [hidScore, hresolved, List.map_map, idScore_legitimate_merit,
      available_merit fun item hitem ↦ eq_assessment hitem, ← map_rankBy _ fun _ _ ↦ rfl]
    exact hranked
  · rw [hrejected, List.map_append, List.map_append, idScore_legitimate_merit,
      policyExcluded_merit, invalid_merit]

/-! ### Resolution -/

variable (job constraints candidates) in
/-- A rejected candidate fails the constraints that are named, or is guided where an automated one
is legitimate. -/
def Justified (item : CandidateRejection) : Prop :=
  ∃ candidate ∈ candidates, item = rejection candidate item.reasonCodes ∧
    (item.reasonCodes ≠ [] ∧ (∀ code ∈ item.reasonCodes, Fails job constraints candidate code) ∨
      candidate.routeKind = .guided ∧ Legitimate job constraints candidate ∧
        ∃ other ∈ candidates, Legitimate job constraints other ∧ other.routeKind ≠ .guided)

/-- The score is higher, or the id smaller. -/
def Precedes (a b : CandidateAssessment) : Prop :=
  b.score < a.score ∨
    a.score = b.score ∧ a.candidate.candidateId.val < b.candidate.candidateId.val

variable (job constraints candidates) in
/-- A resolution of some candidates. -/
structure Resolves (result : CapabilityResolution) : Prop where
  once : (result.resolved.map (fun item ↦ item.candidate.candidateId) ++
    result.rejected.map CandidateRejection.candidateId).Perm
      (candidates.map CapabilityCandidate.candidateId)
  rejected : ∀ item ∈ result.rejected, Justified job constraints candidates item
  resolved : ∀ item ∈ result.resolved, item.candidate ∈ candidates ∧
    Legitimate job constraints item.candidate ∧ item.score = score item.candidate
  order : result.resolved.Pairwise Precedes
  guided : ∀ item ∈ result.resolved, item.candidate.routeKind = .guided →
    ∀ other ∈ candidates, Legitimate job constraints other → other.routeKind = .guided

theorem justified_of_invalid {item : CandidateRejection}
    (h : item ∈ invalid job constraints candidates) :
    Justified job constraints candidates item := by
  obtain ⟨candidate, hcandidate, rfl⟩ := List.mem_map.mp (mem_rankBy.mp h)
  obtain ⟨hmem, hillegitimate⟩ := List.mem_filter.mp hcandidate
  refine ⟨candidate, hmem, rfl, .inl ⟨of_decide_eq_true hillegitimate, fun code hcode ↦ ?_⟩⟩
  exact (mem_rejectReasons job constraints).mp hcode

theorem justified_of_policyExcluded {item : CandidateRejection}
    (h : item ∈ policyExcluded (legitimate job constraints candidates)) :
    Justified job constraints candidates item := by
  unfold policyExcluded at h
  split_ifs at h with hautomated
  · cases h
  obtain ⟨excluded, hexcluded, rfl⟩ := List.mem_map.mp h
  obtain ⟨hmem, hguided⟩ := List.mem_filter.mp (mem_rankBy.mp hexcluded)
  obtain ⟨candidate, hcandidate, hlegitimate, rfl⟩ := mem_legitimate.mp hmem
  obtain ⟨other, hother⟩ := List.exists_mem_of_ne_nil _ hautomated
  obtain ⟨hother, hkind⟩ := List.mem_filter.mp hother
  obtain ⟨route, hroute, hfits, rfl⟩ := mem_legitimate.mp hother
  exact ⟨candidate, hcandidate, rfl, .inr ⟨of_decide_eq_true hguided, hlegitimate, route, hroute,
    hfits, of_decide_eq_true hkind⟩⟩

/-- Items that come one after the other in the order of ranks precede one another. -/
theorem pairwise_precedes (hunique : (candidates.map CapabilityCandidate.candidateId).Nodup) :
    (rankBy rankKey (available (legitimate job constraints candidates))).Pairwise Precedes := by
  have hids : ((rankBy rankKey (available (legitimate job constraints candidates))).map
      fun item ↦ item.candidate.candidateId).Nodup := by
    have hall := (available_append_excluded (legitimate job constraints candidates)).nodup_iff.mpr
      (List.Nodup.of_append_left ((legitimate_append_invalid candidates).nodup_iff.mpr hunique))
    exact ((rankBy_perm _ _).map _).nodup_iff.mpr (List.Nodup.of_append_left hall)
  refine (pairwise_rankBy rankKey _).imp₂ (fun a b hle hne ↦ ?_) (List.pairwise_map.mp hids)
  rcases Prod.Lex.toLex_le_toLex.mp hle with hscore | ⟨hscore, hid⟩
  · exact .inl (neg_lt_neg_iff.mp hscore)
  · exact .inr ⟨neg_inj.mp hscore, lt_of_le_of_ne hid fun h ↦ hne (Text.ext h)⟩

variable (job constraints) in
theorem exists_resolves (hunique : (candidates.map CapabilityCandidate.candidateId).Nodup) :
    ∃ result, resolve job constraints candidates = .ok result ∧
      Resolves job constraints candidates result := by
  obtain ⟨result, hresult, hresolved, hscore, hrejected⟩ :=
    exists_resolution job constraints hunique
  have hsource : ∀ item ∈ result.resolved, ∃ source ∈ available (legitimate job constraints
      candidates), source.candidate = item.candidate := fun item hitem ↦ by
    have hmem := List.mem_map_of_mem (f := CandidateAssessment.candidate) hitem
    rw [hresolved] at hmem
    obtain ⟨source, hsource, hsame⟩ := List.mem_map.mp hmem
    exact ⟨source, mem_rankBy.mp hsource, hsame⟩
  refine ⟨result, hresult, ?_, ?_, ?_, ?_, ?_⟩
  · have hids : result.resolved.map (fun item ↦ item.candidate.candidateId) =
        (rankBy rankKey (available (legitimate job constraints candidates))).map
          fun item ↦ item.candidate.candidateId := by
      have hmap := congrArg (List.map CapabilityCandidate.candidateId) hresolved
      rwa [List.map_map, List.map_map] at hmap
    have hsplit := (available_append_excluded (legitimate job constraints candidates)).append_right
      ((invalid job constraints candidates).map CandidateRejection.candidateId)
    rw [hids, hrejected, List.map_append]
    refine (((rankBy_perm _ _).map _).append_right _).trans ?_
    refine (List.Perm.append_left _ List.perm_append_comm).trans ?_
    rw [← List.append_assoc]
    exact hsplit.trans (legitimate_append_invalid candidates)
  · intro item hitem
    rw [hrejected] at hitem
    exact (List.mem_append.mp hitem).elim justified_of_invalid justified_of_policyExcluded
  · intro item hitem
    obtain ⟨source, hsource, hsame⟩ := hsource item hitem
    obtain ⟨candidate, hcandidate, hlegitimate, rfl⟩ :=
      mem_legitimate.mp (mem_available.mp hsource).1
    rw [← hsame]
    exact ⟨hcandidate, hlegitimate, hsame ▸ hscore item hitem⟩
  · have hprecedes : (result.resolved.map CandidateAssessment.candidate).Pairwise
        fun a b ↦ Precedes (assessment a) (assessment b) := by
      rw [hresolved, List.pairwise_map]
      refine (pairwise_precedes hunique).imp_of_mem fun {a b} ha hb h ↦ ?_
      rwa [← eq_assessment (mem_available.mp (mem_rankBy.mp ha)).1,
        ← eq_assessment (mem_available.mp (mem_rankBy.mp hb)).1]
    refine (List.pairwise_map.mp hprecedes).imp_of_mem fun {a b} ha hb h ↦ ?_
    have hsame : a.score = score a.candidate ∧ b.score = score b.candidate :=
      ⟨hscore a ha, hscore b hb⟩
    unfold Precedes
    rw [hsame.1, hsame.2]
    exact h
  · intro item hitem hguided other hother hlegitimate
    obtain ⟨source, hsource, hsame⟩ := hsource item hitem
    by_contra hautomated
    have hsome : automated (legitimate job constraints candidates) ≠ [] :=
      List.ne_nil_of_mem (List.mem_filter.mpr ⟨mem_legitimate.mpr ⟨other, hother, hlegitimate, rfl⟩,
        decide_eq_true hautomated⟩)
    exact (mem_available.mp hsource).2 hsome (hsame ▸ hguided)

/-- A candidate with another preference of the artist. -/
def CapabilityCandidate.withPreference (candidate : CapabilityCandidate) (preference : UnitScore) :
    CapabilityCandidate :=
  { candidate with
    value := fun attr ↦ if attr = .userPreference then preference else candidate.value attr }

/-- A preference makes nothing legitimate. -/
theorem legitimate_withPreference {candidate : CapabilityCandidate} (preference : UnitScore) :
    Legitimate job constraints (candidate.withPreference preference) ↔
      Legitimate job constraints candidate := Iff.rfl

def sampleText : Text := ⟨"a", Text.letterA.stripped, Text.letterA.nonempty⟩

def sampleJob : Job := ⟨sampleText, sampleText, sampleText⟩

def sampleConstraints : ResolutionConstraints :=
  ⟨⟨0, le_rfl, zero_le_one⟩, ⟨0, le_rfl, zero_le_one⟩, false, true, none⟩

theorem one_mem_unit : (0 : ℚ) ≤ 1 ∧ (1 : ℚ) ≤ 1 := ⟨zero_le_one, le_rfl⟩

/-- A verified automated route. -/
def sampleCandidate : CapabilityCandidate where
  candidateId := sampleText
  routeKind := .hostNative
  capability := sampleText
  displayName := sampleText
  brand := none
  verified := true
  compatible := true
  evidenceRef := some sampleText
  evidenceAgeSeconds := none
  value := fun _ ↦ ⟨1, one_mem_unit⟩
  paid := false
  evidence_of_verified := by decide

end N0te.Routes
