import Mathlib.Algebra.Order.Ring.Rat
import N0te.Library.Ranking
import N0te.References.ReferenceDefinition

/-!
# Ranking of reference candidates

`rankReferenceCandidates` ranks references that a provider discovered by how similar they are to a
target profile. Features and weights are exact rationals; `str.casefold` is a parameter.

The result is the beginning of the candidates that have the required features, in the order of a
key. Candidates of one key keep the order in which they were discovered, so that the result depends
on that order exactly where such candidates differ and are among the first (`ranking_iff`).
-/

set_option autoImplicit false
set_option relaxedAutoImplicit false

namespace N0te.Calibration

open Library References

/-! ### Profiles -/

/-- `ReferenceCalibrationError`, by its message. -/
abbrev CalibrationChecked (α : Type) := Except String α

/-- `CALIBRATION_FEATURES`. -/
inductive Feature where
  | tempoBpm
  | energy
  | lowEnd
  | brightness
  | density
  | dynamics
  | stereoWidth
  deriving DecidableEq

def Feature.name : Feature → String
  | .tempoBpm => "TEMPO_BPM"
  | .energy => "ENERGY"
  | .lowEnd => "LOW_END"
  | .brightness => "BRIGHTNESS"
  | .density => "DENSITY"
  | .dynamics => "DYNAMICS"
  | .stereoWidth => "STEREO_WIDTH"

def Feature.ofName : String → Option Feature
  | "TEMPO_BPM" => some .tempoBpm
  | "ENERGY" => some .energy
  | "LOW_END" => some .lowEnd
  | "BRIGHTNESS" => some .brightness
  | "DENSITY" => some .density
  | "DYNAMICS" => some .dynamics
  | "STEREO_WIDTH" => some .stereoWidth
  | _ => none

/-- `_FEATURE_DISTANCE_SCALE`. -/
def Feature.scale : Feature → ℚ
  | .tempoBpm => 40
  | _ => 1

/-- What `_feature_value` accepts. -/
def Feature.Accepts (feature : Feature) (value : ℚ) : Prop :=
  if feature = .tempoBpm then 20 ≤ value ∧ value ≤ 400 else 0 ≤ value ∧ value ≤ 1

/-- `ReferenceCalibrationProfile`. -/
structure CalibrationProfile where
  features : List (Feature × ℚ)
  semanticTags : List Dimension
  features_ne_nil : features ≠ []
  /-- The features are sorted, and none is given twice. -/
  features_sorted : features.Pairwise fun a b ↦ a.1.name < b.1.name
  features_accepted : ∀ item ∈ features, item.1.Accepts item.2
  tags_nodup : semanticTags.Nodup

def CalibrationProfile.get (profile : CalibrationProfile) (feature : Feature) : Option ℚ :=
  (profile.features.find? fun item ↦ item.1 = feature).map Prod.snd

/-- `ReferenceCandidate`. -/
structure ReferenceCandidate where
  title : Text
  sourceType : SourceType
  sourceLocator : Text
  profile : CalibrationProfile
  comparisonDimensions : List Dimension
  sourceKind : SourceEvidenceKind
  sourceRef : Option String
  confidence : ℚ
  dimensions_ne_nil : comparisonDimensions ≠ []
  dimensions_nodup : comparisonDimensions.Nodup
  provenance : sourceKind ≠ .userDeclared → ∃ ref ∈ sourceRef, ref ≠ ""
  confidence_unit : 0 ≤ confidence ∧ confidence ≤ 1

/-- `RankedReferenceCandidate`. -/
structure RankedCandidate where
  candidate : ReferenceCandidate
  similarity : ℚ
  matchedFeatures : List Feature
  featureDistances : List (Feature × ℚ)
  matchedTags : List Dimension

/-! ### Queries -/

/-- `_token`. -/
def token (value field : String) : CalibrationChecked Dimension := do
  require (strip value ≠ "") s!"{field} must be non-empty text"
  let h ← ensure (isDimension (tokenOf (strip value)) = true) s!"invalid {field}: {value}"
  return ⟨tokenOf (strip value), h.down⟩

/-- `_canonical_tokens`. -/
def canonicalTokens (values : List String) (field : String) :
    CalibrationChecked (List Dimension) := do
  let tokens ← values.mapM fun value ↦ token value field
  return keepFirst tokens

/-- The arguments of `rank_reference_candidates`, as they are given. -/
structure QueryArguments where
  requiredFeatures : List String
  desiredTags : List String
  featureWeights : List (String × ℚ)
  limit : ℤ

/-- What is left of the arguments when the checks passed. -/
structure Query where
  required : List Feature
  desired : List Dimension
  weights : List (Feature × ℚ)
  limit : ℕ

def checkWeight (item : String × ℚ) : CalibrationChecked (Feature × ℚ) := do
  let name ← token item.1 "feature weight"
  let feature ← orRaise (Feature.ofName name.val) ("unsupported feature weight: " ++ name.val)
  require (0 < item.2) "feature weights must be positive"
  return (feature, item.2)

/-- The checks of the arguments. -/
def parseQuery (target : CalibrationProfile) (arguments : QueryArguments) :
    CalibrationChecked Query := do
  require (1 ≤ arguments.limit ∧ arguments.limit ≤ 25) "limit must be an integer between 1 and 25"
  let required ← canonicalTokens arguments.requiredFeatures "required feature"
  let unknown := (required.map Subtype.val).filter fun name ↦ Feature.ofName name = none
  require (unknown = []) ("unsupported required calibration features: " ++
    reprList (rankBy id unknown))
  let features := required.filterMap fun name ↦ Feature.ofName name.val
  require (∀ feature ∈ features, target.get feature ≠ none)
    "required features must exist in the target calibration profile"
  let desired ← canonicalTokens arguments.desiredTags "desired tag"
  let weights ← arguments.featureWeights.mapM checkWeight
  return { required := features, desired, weights, limit := arguments.limit.toNat }

/-- `weights.get(name, 1.0)`. -/
def Query.weight (query : Query) (feature : Feature) : ℚ :=
  ((query.weights.reverse.find? fun item ↦ item.1 = feature).map Prod.snd).getD 1

/-! ### Similarity -/

/-- The nearest integer, and of two the even one. -/
def roundHalfEven (x : ℚ) : ℤ :=
  let rest := x - x.floor
  if rest < 1 / 2 then x.floor
  else if 1 / 2 < rest then x.floor + 1
  else if x.floor % 2 = 0 then x.floor else x.floor + 1

/-- `round(value, 6)`. -/
def roundSix (value : ℚ) : ℚ := roundHalfEven (value * 10 ^ 6) / 10 ^ 6

/-- `_distance`. -/
def distance (feature : Feature) (target candidate : ℚ) : ℚ :=
  min (|target - candidate| / feature.scale) 1

variable (target : CalibrationProfile) (query : Query)

/-- The features that are compared: the required ones, or those of the target. -/
def comparedFeatures : List Feature :=
  if query.required = [] then target.features.map Prod.fst else query.required

def distances (candidate : ReferenceCandidate) : List (Feature × ℚ) :=
  (comparedFeatures target query).filterMap fun feature ↦ do
    let wanted ← target.get feature
    let value ← candidate.profile.get feature
    return (feature, distance feature wanted value)

/-- The tags that are desired and that a candidate has. -/
def matchedTags (candidate : ReferenceCandidate) : List Dimension :=
  rankBy Subtype.val (query.desired.filter fun tag ↦ tag ∈ candidate.profile.semanticTags)

/-- How similar a candidate is in its features. -/
def numericSimilarity (items : List (Feature × ℚ)) : ℚ :=
  let totalWeight := (items.map fun item ↦ query.weight item.1).sum
  let meanDistance := (items.map fun item ↦ item.2 * query.weight item.1).sum / totalWeight
  let coverage := (items.length : ℚ) / (comparedFeatures target query).length
  max 0 (1 - meanDistance) * coverage

def similarity (candidate : ReferenceCandidate) : ℚ :=
  let numeric := numericSimilarity target query (distances target query candidate)
  if query.desired = [] then numeric
  else
    let tags := ((matchedTags query candidate).length : ℚ) / query.desired.length
    4 / 5 * numeric + 1 / 5 * tags

/-- A candidate with its similarity, unless it lacks a required feature or there is nothing to
compare. -/
def rankCandidate (candidate : ReferenceCandidate) : Option RankedCandidate :=
  let items := distances target query candidate
  if ∃ feature ∈ query.required, candidate.profile.get feature = none then none
  else if items = [] then none
  else some {
    candidate
    similarity := roundSix (similarity target query candidate)
    matchedFeatures := items.map Prod.fst
    featureDistances := items.map fun item ↦ (item.1, roundSix item.2)
    matchedTags := matchedTags query candidate }

/-- The candidates that are ranked, as they were discovered. -/
def scored (candidates : List ReferenceCandidate) : List RankedCandidate :=
  candidates.filterMap (rankCandidate target query)

variable (casefold : String → String)

def sortKey (item : RankedCandidate) : ℚ ×ₗ ℚ ×ₗ String ×ₗ String :=
  toLex (-item.similarity, toLex (-item.candidate.confidence,
    toLex (casefold item.candidate.title.val, item.candidate.sourceLocator.val)))

/-- `rank_reference_candidates`. -/
def rankReferenceCandidates (candidates : List ReferenceCandidate) (arguments : QueryArguments) :
    CalibrationChecked (List RankedCandidate) := do
  let query ← parseQuery target arguments
  return (rankBy (sortKey casefold) (scored target query candidates)).take query.limit

/-! ### What the ranking depends on -/

/-- Candidates of one key that could be among the first do not differ. -/
def TiesDecided (candidates : List ReferenceCandidate) : Prop :=
  ∀ a ∈ scored target query candidates, ∀ b ∈ scored target query candidates,
    sortKey casefold a = sortKey casefold b →
    (scored target query candidates).countP (fun c ↦ sortKey casefold c < sortKey casefold a) <
      query.limit → a = b

/-- The first items of a list in the order of the key. -/
structure IsTop (limit : ℕ) (all result : List RankedCandidate) : Prop where
  sorted : result.Pairwise fun a b ↦ sortKey casefold a ≤ sortKey casefold b
  first : ∃ rest, (result ++ rest).Perm all ∧
    ∀ a ∈ result, ∀ b ∈ rest, sortKey casefold a ≤ sortKey casefold b
  length : result.length = min limit all.length

variable {target query casefold} {candidates others : List ReferenceCandidate}

variable (target query) in
theorem scored_perm (h : candidates.Perm others) :
    (scored target query candidates).Perm (scored target query others) :=
  h.filterMap _

theorem isTop_take (limit : ℕ) (all : List RankedCandidate) :
    IsTop casefold limit all ((rankBy (sortKey casefold) all).take limit) := by
  have hsorted := pairwise_rankBy (sortKey casefold) all
  refine ⟨hsorted.sublist (List.take_sublist _ _),
    ⟨(rankBy (sortKey casefold) all).drop limit, ?_, ?_⟩, ?_⟩
  · rw [List.take_append_drop]
    exact rankBy_perm _ _
  · rw [← List.take_append_drop limit (rankBy (sortKey casefold) all)] at hsorted
    exact (List.pairwise_append.mp hsorted).2.2
  · rw [List.length_take, length_rankBy]

/-- A candidate that is ranked has the required features. -/
theorem get_of_mem_scored {item : RankedCandidate} (h : item ∈ scored target query candidates) :
    ∀ feature ∈ query.required, item.candidate.profile.get feature ≠ none := by
  obtain ⟨candidate, -, hranked⟩ := List.mem_filterMap.mp h
  simp only [rankCandidate] at hranked
  split_ifs at hranked with hmissing
  obtain rfl := Option.some.inj hranked
  exact fun feature hfeature hnone ↦ hmissing ⟨feature, hfeature, hnone⟩

/-- The first place of a key is that of the candidate of the key that was discovered first. -/
theorem getElem?_of_first {candidate : ReferenceCandidate} {item : RankedCandidate}
    (h : rankCandidate target query candidate = some item) (hperm : candidates.Perm
      (candidate :: others))
    (hlimit : (scored target query candidates).countP
      (fun c ↦ sortKey casefold c < sortKey casefold item) < query.limit) :
    ((rankBy (sortKey casefold) (scored target query (candidate :: others))).take query.limit)[
      (scored target query candidates).countP fun c ↦ sortKey casefold c < sortKey casefold item]? =
        some item := by
  have hscored : scored target query (candidate :: others) = item :: scored target query others :=
    List.filterMap_cons_some h
  have hcount := (scored_perm target query hperm).countP_eq fun c ↦
    decide (sortKey casefold c < sortKey casefold item)
  rw [List.getElem?_take_of_lt hlimit, hcount,
    getElem?_rankBy_countP (hscored ▸ List.mem_cons_self), hscored,
    List.filter_cons_of_pos (by simp), List.head?_cons]

/-- A permutation that brings a ranked candidate to the front. -/
theorem exists_perm_cons {item : RankedCandidate} (h : item ∈ scored target query candidates) :
    ∃ candidate rest, rankCandidate target query candidate = some item ∧
      candidates.Perm (candidate :: rest) := by
  obtain ⟨candidate, hmem, hranked⟩ := List.mem_filterMap.mp h
  obtain ⟨before, after, rfl⟩ := List.append_of_mem hmem
  exact ⟨candidate, before ++ after, hranked, List.perm_middle⟩

variable (target casefold candidates) in
/-- A ranking has the first of the candidates that have the required features. It depends on the
set of candidates only, exactly where candidates of one key that are among the first do not
differ. -/
theorem ranking_iff (arguments : QueryArguments) :
    ((∀ others, candidates.Perm others →
        rankReferenceCandidates target casefold others arguments =
          rankReferenceCandidates target casefold candidates arguments) ∧
      ∀ query result, parseQuery target arguments = .ok query →
        rankReferenceCandidates target casefold candidates arguments = .ok result →
        IsTop casefold query.limit (scored target query candidates) result ∧
          ∀ item ∈ result, ∀ feature ∈ query.required,
            item.candidate.profile.get feature ≠ none) ↔
      ∀ query, parseQuery target arguments = .ok query →
        TiesDecided target query casefold candidates := by
  have hrank {query : Query} (hquery : parseQuery target arguments = .ok query)
      (candidates : List ReferenceCandidate) :
      rankReferenceCandidates target casefold candidates arguments =
        .ok ((rankBy (sortKey casefold) (scored target query candidates)).take query.limit) := by
    rw [rankReferenceCandidates, hquery]
    rfl
  constructor
  · rintro ⟨hinvariant, -⟩ query hquery a ha b hb hkey hlimit
    obtain ⟨first, rest, hfirst, hperm⟩ := exists_perm_cons ha
    obtain ⟨second, rest', hsecond, hperm'⟩ := exists_perm_cons hb
    have hsame := (hinvariant _ hperm).trans (hinvariant _ hperm').symm
    rw [hrank hquery, hrank hquery, Except.ok.injEq] at hsame
    have hplace := getElem?_of_first hfirst hperm hlimit
    have hplace' := getElem?_of_first hsecond hperm' (hkey ▸ hlimit)
    rw [← hkey, ← hsame, hplace] at hplace'
    exact Option.some.inj hplace'
  · refine fun hties ↦ ⟨fun others hperm ↦ ?_, fun query result hquery hresult ↦ ?_⟩
    · cases hquery : parseQuery target arguments with
      | error message => simp only [rankReferenceCandidates, hquery]; rfl
      | ok query =>
        rw [hrank hquery, hrank hquery,
          take_rankBy_eq_of_perm (scored_perm target query hperm) (hties query hquery)]
    · rw [hrank hquery, Except.ok.injEq] at hresult
      subst hresult
      refine ⟨isTop_take _ _, fun item hitem ↦ ?_⟩
      exact get_of_mem_scored (mem_rankBy.mp (List.mem_of_mem_take hitem))

/-! ### Two candidates of one key -/

/-- A recording, or a link to it. -/
def sampleCandidate (sourceType : SourceType) : ReferenceCandidate where
  title := ⟨"a", Text.letterA.stripped, Text.letterA.nonempty⟩
  sourceType
  sourceLocator := ⟨"a", Text.letterA.stripped, Text.letterA.nonempty⟩
  profile := {
    features := [(.energy, 1)]
    semanticTags := []
    features_ne_nil := by decide
    features_sorted := List.pairwise_singleton _ _
    features_accepted := by simp [Feature.Accepts]
    tags_nodup := List.nodup_nil }
  comparisonDimensions := [⟨"MIX", by decide⟩]
  sourceKind := .userDeclared
  sourceRef := none
  confidence := 1
  dimensions_ne_nil := by decide
  dimensions_nodup := List.nodup_singleton _
  provenance := fun h ↦ absurd rfl h
  confidence_unit := ⟨zero_le_one, le_rfl⟩

/-- The order in which two candidates were discovered decides which of them is the reference. -/
theorem ranking_after_swap :
    let rank candidates := ((rankReferenceCandidates (sampleCandidate .localAudio).profile id
      candidates ⟨[], [], [], 1⟩).toOption.map (List.map fun item ↦ item.candidate.sourceType))
    rank [sampleCandidate .localAudio, sampleCandidate .streamingLink] = some [.localAudio] ∧
      rank [sampleCandidate .streamingLink, sampleCandidate .localAudio] =
        some [.streamingLink] := by
  decide +kernel

end N0te.Calibration
