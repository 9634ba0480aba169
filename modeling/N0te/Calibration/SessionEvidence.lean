import N0te.Calibration.ReferenceRanking
import N0te.Hosts.HostRuntime

/-!
# Calibration from session evidence

`deriveSessionCalibration` makes a profile of what was observed of a session: the tempo that the
Host Shadow shows, and the dynamics and the stereo width that an engineering report of the song
measured. What was not observed is absent from the profile. A shadow that is not current or not of
the bound observation, and a report of another song, are refused (`Coherent`).

Scope. Numbers are exact rationals. What Python reads a text as when it asks for a number is a
parameter.
-/

set_option autoImplicit false
set_option relaxedAutoImplicit false

namespace N0te.Calibration

open Library References Hosts

/-- What the runtime does with text, also with texts of numbers. -/
structure EvidenceRuntime extends TextRuntime where
  /-- `float()` of a text. Nothing is inside when the number is infinite or `NaN`. -/
  textFloat : String → Option (Option ℚ)
  /-- `int()` of a text. -/
  textInt : String → Option ℤ

/-! ### Evidence -/

/-- `ShadowFact`, whose fields are not checked. -/
structure ShadowFact where
  objectKind : String
  objectRef : String
  field : String
  value : Json
  batchId : String
  actor : String
  evidenceRef : String

/-- `HostShadowState`, whose fields are not checked. -/
structure HostShadowState where
  status : String
  workspaceId : String
  currentWorkspaceObservationId : String
  baselineBatchId : Option String
  latestBatchId : Option String
  facts : List ShadowFact

/-- The digits of a digest. -/
def hexDigits : List Char := "0123456789abcdef".toList

section

variable (rt : EvidenceRuntime)

/-- `HostObservationBinding`. -/
structure HostObservationBinding where
  workspaceId : Text
  songId : Text
  workspaceObservationId : Text
  hostRuntimeFingerprint : Text
  runtime : HostRuntimeIdentity
  bound : runtime.fingerprint rt.toTextRuntime = hostRuntimeFingerprint.val

/-- The text of a digest, in lower case or not. -/
def IsDigest (sha256 : String) : Prop :=
  (rt.table.lower (strip sha256)).toList.length = 64 ∧
    ∀ c ∈ (rt.table.lower (strip sha256)).toList, c ∈ hexDigits

instance (sha256 : String) : Decidable (IsDigest rt sha256) := inferInstanceAs (Decidable (_ ∧ _))

/-- `int(value) > 0`, for what is no `bool`. -/
def isPositiveSize : Json → Bool
  | .int n => 0 < n
  | .float f => (Json.decimal f).any (1 ≤ ·)
  | .str s => (rt.textInt s).any (0 < ·)
  | _ => false

/-- `EngineeringEvidenceBinding`. The fields are kept as they are given. -/
structure EngineeringEvidenceBinding where
  songId : String
  versionId : String
  assetId : String
  sha256 : String
  sourceSizeBytes : Json
  named : strip songId ≠ "" ∧ strip versionId ≠ "" ∧ strip assetId ≠ ""
  digest : IsDigest rt sha256
  positive : isPositiveSize rt sourceSizeBytes = true

/-- `EngineeringSnapshot`, whose fields are not checked. -/
structure EngineeringSnapshot where
  binding : EngineeringEvidenceBinding rt
  analyzerVersion : String
  sampleRateHz : Json
  channels : Json
  bitsPerSample : Json
  frameCount : Json
  durationSeconds : Json
  samplePeakDbfs : Json
  rmsDbfs : Json
  crestFactorDb : Json
  dcOffsetPercent : Json
  stereoCorrelation : Json
  integratedLufs : Json
  loudnessState : String
  loudnessStandard : String
  loudnessBackend : String

/-- What a session is calibrated from. -/
structure SessionEvidence where
  binding : HostObservationBinding rt
  shadow : HostShadowState
  engineeringSnapshot : Option (EngineeringSnapshot rt)

end

/-! ### Numbers -/

/-- The integers from here on are too large for a float. -/
def floatLimit : ℕ := 2 ^ 1024 - 2 ^ 970

section

variable (rt : EvidenceRuntime)

/-- `_finite`. -/
def finiteNumber (value : Json) (field : String) : CalibrationChecked ℚ :=
  match value with
  | .int n => do
    require (n.natAbs < floatLimit) "int too large to convert to float"
    return n
  | .float f => orRaise (Json.decimal f) s!"{field} must be finite"
  | .str s => do
    let number ← orRaise (rt.textFloat s) s!"{field} must be numeric"
    orRaise number s!"{field} must be finite"
  | _ => .error s!"{field} must be numeric"

/-- `round(value, 9)`. -/
def roundNine (value : ℚ) : ℚ := roundHalfEven (value * 10 ^ 9) / 10 ^ 9

/-! ### Features -/

/-- `CalibrationFeatureEvidence`. -/
structure FeatureEvidence where
  feature : Feature
  value : ℚ
  sourceRefs : List String
  deriving DecidableEq

/-- `SessionCalibrationDerivation`. -/
structure SessionDerivation where
  profile : CalibrationProfile
  evidence : List FeatureEvidence

/-- `_TEMPO_FIELDS`. -/
def tempoFields : List String := ["BPM", "TEMPO", "TEMPO_BPM"]

/-- `_normalized_field`. -/
def normalizedField (value : String) : String := underscored (upper (strip value))

/-- A fact holds a tempo, if it is of the kind of tempos. -/
def ShadowFact.HoldsTempo (fact : ShadowFact) : Prop := normalizedField fact.field ∈ tempoFields

instance (fact : ShadowFact) : Decidable fact.HoldsTempo := inferInstanceAs (Decidable (_ ∈ _))

/-- A fact from which the tempo is read. -/
def ShadowFact.isTempo (fact : ShadowFact) : Bool :=
  decide (fact.objectKind = "TEMPO" ∧ fact.HoldsTempo)

/-- What a fact says of the tempo, and its source. -/
def tempoMatch (fact : ShadowFact) : CalibrationChecked (ℚ × String) := do
  let bpm ← finiteNumber rt fact.value "tempo BPM"
  require (20 ≤ bpm ∧ bpm ≤ 400) "observed tempo BPM must be between 20 and 400"
  require (strip fact.evidenceRef ≠ "") "observed tempo requires provenance"
  return (bpm, strip fact.evidenceRef)

/-- `_tempo_evidence`. -/
def tempoEvidence (shadow : HostShadowState) : CalibrationChecked (Option FeatureEvidence) := do
  let found ← (shadow.facts.filter ShadowFact.isTempo).mapM (tempoMatch rt)
  match found with
  | [] => return none
  | (value, _) :: _ =>
    require (∀ item ∈ found, roundNine item.1 = roundNine value)
      "current Host Shadow contains conflicting tempo evidence"
    return some {
      feature := .tempoBpm
      value
      sourceRefs := rankBy id (keepFirst (found.map Prod.snd)) }

variable {rt} in
/-- `_engineering_source`. -/
def engineeringSource (snapshot : EngineeringSnapshot rt) : String :=
  "engineering:" ++ snapshot.binding.assetId ++ ":" ++ snapshot.binding.versionId ++ ":sha256:" ++
    snapshot.binding.sha256

/-- The dynamics that a crest factor stands for. -/
def dynamicsOf (crest : ℚ) : ℚ := min (max crest 0) 24 / 24

/-- The stereo width that a correlation stands for. -/
def widthOf (correlation : ℚ) : ℚ := (1 - correlation) / 2

/-- A feature that was measured, unless it was not. -/
def measured (value : Json) (field : String) (feature : Feature) (source : String)
    (accept : ℚ → CalibrationChecked ℚ) : CalibrationChecked (List FeatureEvidence) :=
  match value with
  | .null => return []
  | value => do
    let number ← finiteNumber rt value field
    let value ← accept number
    return [{ feature, value, sourceRefs := [source] }]

/-- `_engineering_evidence`. -/
def engineeringEvidence (binding : HostObservationBinding rt) :
    Option (EngineeringSnapshot rt) → CalibrationChecked (List FeatureEvidence)
  | none => return []
  | some snapshot => do
    require (snapshot.binding.songId = binding.songId.val)
      "engineering evidence belongs to a different Song"
    let source := engineeringSource snapshot
    let dynamics ← measured rt snapshot.crestFactorDb "crest_factor_db" .dynamics source
      fun crest ↦ return dynamicsOf crest
    let width ← measured rt snapshot.stereoCorrelation "stereo_correlation" .stereoWidth source
      fun correlation ↦ do
        require (-1 ≤ correlation ∧ correlation ≤ 1) "stereo_correlation must be between -1 and 1"
        return widthOf correlation
    return dynamics ++ width

/-! ### Profiles -/

theorem Feature.name_injective : Function.Injective Feature.name := by
  intro a b h
  cases a <;> cases b
  all_goals first
    | rfl
    | exact absurd h (by decide)

instance (feature : Feature) (value : ℚ) : Decidable (feature.Accepts value) :=
  inferInstanceAs (Decidable (if feature = .tempoBpm then 20 ≤ value ∧ value ≤ 400
    else 0 ≤ value ∧ value ≤ 1))

/-- What is raised for a value that `_feature_value` does not accept. -/
def featureError (item : Feature × ℚ) : String :=
  if item.1 = .tempoBpm then "tempo_bpm must be between 20 and 400"
  else item.1.name.toLower ++ " must be normalized between 0 and 1"

theorem features_sorted_rankBy {features : List (Feature × ℚ)}
    (hunique : (features.map Prod.fst).Nodup) :
    (rankBy (fun item ↦ item.1.name) features).Pairwise fun a b ↦ a.1.name < b.1.name := by
  have hperm := rankBy_perm (fun item : Feature × ℚ ↦ item.1.name) features
  have hnodup : ((rankBy (fun item : Feature × ℚ ↦ item.1.name) features).map Prod.fst).Nodup :=
    (hperm.map Prod.fst).nodup_iff.mpr hunique
  refine ((pairwise_rankBy _ features).and (List.pairwise_map.mp hnodup)).imp ?_
  rintro a b ⟨hle, hne⟩
  exact lt_of_le_of_ne hle fun heq ↦ hne (Feature.name_injective heq)

theorem nodup_tags (tags : List Dimension) : (keepFirst tags).Nodup := nodup_keepFirst tags

/-- `ReferenceCalibrationProfile`, of features that a dictionary has. -/
def CalibrationProfile.new (features : List (Feature × ℚ))
    (hunique : (features.map Prod.fst).Nodup) (semanticTags : List String) :
    CalibrationChecked CalibrationProfile := do
  let haccepted ← ensureEach (fun item : Feature × ℚ ↦ item.1.Accepts item.2) featureError features
  let hne ← ensure (features ≠ []) "calibration profile requires at least one feature"
  let tags ← semanticTags.mapM fun value ↦ token value "semantic tag"
  return {
    features := rankBy (fun item ↦ item.1.name) features
    semanticTags := keepFirst tags
    features_ne_nil := fun hnil ↦ hne.down
      (List.length_eq_zero_iff.mp (length_rankBy.symm.trans (congrArg List.length hnil)))
    features_sorted := features_sorted_rankBy hunique
    features_accepted := fun item hitem ↦ haccepted.down item (mem_rankBy.mp hitem)
    tags_nodup := nodup_tags tags }

/-! ### The derivation -/

/-- `_validate_shadow_binding`. -/
def validateShadowBinding (binding : HostObservationBinding rt) (shadow : HostShadowState) :
    CalibrationChecked Unit := do
  require (shadow.status = "CURRENT") "reference calibration requires a CURRENT Host Shadow"
  require (shadow.workspaceId = binding.workspaceId.val)
    "Host Shadow belongs to a different workspace"
  require (shadow.currentWorkspaceObservationId = binding.workspaceObservationId.val)
    "Host Shadow is stale relative to the bound workspace observation"

/-- `derive_session_calibration`, from the features that were observed. -/
def deriveProfile (evidence : List FeatureEvidence) (semanticTags : List String) :
    CalibrationChecked SessionDerivation := do
  require (evidence ≠ []) "current session has no defensible reference-calibration features"
  let hunique ← ensure (evidence.map FeatureEvidence.feature).Nodup
    "session calibration produced duplicate feature evidence"
  let profile ← CalibrationProfile.new (evidence.map fun item ↦ (item.feature, item.value))
    (by rw [List.map_map]; exact hunique.down) semanticTags
  return { profile, evidence := rankBy (fun item ↦ item.feature.name) evidence }

/-- `derive_session_calibration`. -/
def deriveSessionCalibration (session : SessionEvidence rt) (semanticTags : List String) :
    CalibrationChecked SessionDerivation := do
  validateShadowBinding rt session.binding session.shadow
  let tempo ← tempoEvidence rt session.shadow
  let engineering ← engineeringEvidence rt session.binding session.engineeringSnapshot
  deriveProfile (tempo.toList ++ engineering) semanticTags

variable {rt}

/-- Evidence of one session: a current shadow of the bound observation, and a report of the song. -/
structure Coherent (session : SessionEvidence rt) : Prop where
  current : session.shadow.status = "CURRENT"
  workspace : session.shadow.workspaceId = session.binding.workspaceId.val
  observation : session.shadow.currentWorkspaceObservationId =
    session.binding.workspaceObservationId.val
  song : ∀ snapshot ∈ session.engineeringSnapshot,
    snapshot.binding.songId = session.binding.songId.val

/-- What a calibration is derived from is the evidence of one session. -/
theorem coherent_of_derived {session : SessionEvidence rt} {semanticTags : List String}
    {derivation : SessionDerivation}
    (h : deriveSessionCalibration rt session semanticTags = .ok derivation) : Coherent session := by
  simp only [deriveSessionCalibration, validateShadowBinding, bind_eq_ok, require_eq_ok] at h
  obtain ⟨_, ⟨_, hcurrent, _, hworkspace, hobservation⟩, _, -, engineering, hengineering, -⟩ := h
  refine ⟨hcurrent, hworkspace, hobservation, fun snapshot hsnapshot ↦ ?_⟩
  rw [Option.mem_def.mp hsnapshot] at hengineering
  simp only [engineeringEvidence, bind_eq_ok, require_eq_ok] at hengineering
  obtain ⟨_, hsong, -⟩ := hengineering
  exact hsong

end

end N0te.Calibration
