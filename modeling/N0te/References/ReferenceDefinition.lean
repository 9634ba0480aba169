import N0te.Evidence.EvidenceStore
import N0te.Library.Inputs
import N0te.Library.JsonShape

/-!
# Definitions of song references

A reference names a source that a song is compared with, what is compared, and how the source was
established. `ReferenceDefinition` and `ReferenceSource` are what is left of the arguments when the checks
passed. A definition is stored as JSON and reads back as the same definition
(`decodeDefinition_json`), whatever order the fields of the stored object have.

Scope. The songs and versions of the profile do not change. A confidence is the rational number that the
float is.
-/

set_option autoImplicit false
set_option relaxedAutoImplicit false

namespace N0te.References

open Library Lineage People Evidence

/-! ### Exceptions -/

/-- The exception classes of song references. -/
inductive ReferenceErrorClass where
  | songReferenceError
  | songReferenceIntegrityError
  | lineage (cls : LineageErrorClass)
  deriving DecidableEq

/-- An exception. -/
abbrev ReferenceRaised : Type := Raised ReferenceErrorClass

/-- A result or an exception. -/
abbrev ReferenceChecked (α : Type) := Except ReferenceRaised α

/-- A `SongReferenceError`. -/
def referenceError (message : String) : ReferenceRaised := ⟨.songReferenceError, message⟩

/-- A `SongReferenceIntegrityError`. -/
def referenceIntegrity (message : String) : ReferenceRaised :=
  ⟨.songReferenceIntegrityError, message⟩

/-- An exception of the store. -/
def ofLineage (e : Raised LineageErrorClass) : ReferenceRaised := ⟨.lineage e.cls, e.text⟩

/-- The exception of the store that an exception is. -/
def toLineage (e : ReferenceRaised) : Option (Raised LineageErrorClass) :=
  match e.cls with
  | .lineage cls => some ⟨cls, e.text⟩
  | _ => none

/-- `except (SongReferenceError, NotFoundError, ValidationError) as exc: raise
SongReferenceIntegrityError(message) from exc`, after `except SongReferenceIntegrityError: raise`. -/
def asReferenceIntegrity {α : Type} (message : String) : ReferenceChecked α → ReferenceChecked α
  | .error ⟨.songReferenceError, _⟩ => .error (referenceIntegrity message)
  | .error ⟨.lineage .notFoundError, _⟩ => .error (referenceIntegrity message)
  | .error ⟨.lineage .validationError, _⟩ => .error (referenceIntegrity message)
  | result => result

@[simp] theorem asReferenceIntegrity_eq_ok {α : Type} {message : String}
    {result : ReferenceChecked α} {a : α} :
    asReferenceIntegrity message result = .ok a ↔ result = .ok a := by
  unfold asReferenceIntegrity
  split <;> simp

/-! ### Checks -/

/-- `_text`. -/
def text (value : Json) (field : String) (maximum : ℕ) : ReferenceChecked (BoundedText maximum) :=
  checkText maximum (referenceError s!"{field} must be text")
    (referenceError s!"{field} must not be empty") (referenceError s!"{field} is too long") value

/-- `_optional_text`. -/
def optionalText (value : Json) (field : String) (maximum : ℕ) :
    ReferenceChecked (Option (BoundedText maximum)) :=
  checkOptional (fun value ↦ text value field maximum) value

/-- `_enum`, the allowed values given by their names. -/
def enum {α : Type} (ofName : String → Option α) (value : Json) (field : String) :
    ReferenceChecked α := do
  let text ← text value field 80
  orRaise (ofName (upper text.val)) (referenceError s!"unsupported {field}: {upper text.val}")

/-- `_confidence`. -/
def confidence (value : ℚ) : ReferenceChecked (PLift (0 ≤ value ∧ value ≤ 1)) :=
  ensure (0 ≤ value ∧ value ≤ 1) (referenceError "confidence must be between 0 and 1")

theorem text_json {maximum : ℕ} (field : String) (value : BoundedText maximum) :
    text value.json field maximum = .ok value := checkText_json _ _ _ value

theorem optionalText_optionJson {maximum : ℕ} (field : String) (value : Option (BoundedText maximum)) :
    optionalText (optionJson BoundedText.json value) field maximum = .ok value :=
  checkOptional_text _ _ _ value

/-- A name that is short and has no whitespace at its ends is read. -/
theorem enum_name {α : Type} {ofName : String → Option α} {name : String} {a : α} (field : String)
    (hname : ofName (upper name) = some a) (hstrip : strip name = name) (hne : name ≠ "")
    (hshort : name.toList.length ≤ 80) : enum ofName (.str name) field = .ok a := by
  have htext : text (.str name) field 80 = .ok ⟨⟨name, hstrip, hne⟩, hshort⟩ :=
    text_json field ⟨⟨name, hstrip, hne⟩, hshort⟩
  rw [enum, htext]
  show orRaise (ofName (upper name)) _ = _
  rw [hname]
  rfl

/-! ### Enumerations -/

/-- `SOURCE_TYPES`. -/
inductive SourceType where
  | localAudio
  | streamingLink
  | catalogRecording
  | other
  deriving DecidableEq

/-- `SOURCE_EVIDENCE_KINDS`. -/
inductive SourceEvidenceKind where
  | userDeclared
  | observed
  | providerVerified
  deriving DecidableEq

/-- `LOUDNESS_MATCH_POLICIES`. -/
inductive LoudnessMatchPolicy where
  | unspecified
  | matchBeforeComparison
  | doNotMatch
  deriving DecidableEq

/-- `REFERENCE_DECISIONS`. -/
inductive DecisionKind where
  | keepReference
  | stopUsingReference
  | adjustReferenceScope
  | inconclusive
  deriving DecidableEq

def SourceType.ofName : String → Option SourceType
  | "LOCAL_AUDIO" => some localAudio
  | "STREAMING_LINK" => some streamingLink
  | "CATALOG_RECORDING" => some catalogRecording
  | "OTHER" => some other
  | _ => none

def SourceType.name : SourceType → String
  | localAudio => "LOCAL_AUDIO"
  | streamingLink => "STREAMING_LINK"
  | catalogRecording => "CATALOG_RECORDING"
  | other => "OTHER"

def SourceEvidenceKind.ofName : String → Option SourceEvidenceKind
  | "USER_DECLARED" => some userDeclared
  | "OBSERVED" => some observed
  | "PROVIDER_VERIFIED" => some providerVerified
  | _ => none

/-- The source of a claim of a kind. -/
def SourceEvidenceKind.kind : SourceEvidenceKind → Evidence.SourceKind
  | userDeclared => .userDeclared
  | observed => .observed
  | providerVerified => .providerVerified

/-- The kind of the source of a claim. -/
def SourceEvidenceKind.ofKind : Evidence.SourceKind → Option SourceEvidenceKind
  | .userDeclared => some userDeclared
  | .observed => some observed
  | .providerVerified => some providerVerified
  | _ => none

def LoudnessMatchPolicy.ofName : String → Option LoudnessMatchPolicy
  | "UNSPECIFIED" => some unspecified
  | "MATCH_BEFORE_COMPARISON" => some matchBeforeComparison
  | "DO_NOT_MATCH" => some doNotMatch
  | _ => none

def LoudnessMatchPolicy.name : LoudnessMatchPolicy → String
  | unspecified => "UNSPECIFIED"
  | matchBeforeComparison => "MATCH_BEFORE_COMPARISON"
  | doNotMatch => "DO_NOT_MATCH"

def DecisionKind.ofName : String → Option DecisionKind
  | "KEEP_REFERENCE" => some keepReference
  | "STOP_USING_REFERENCE" => some stopUsingReference
  | "ADJUST_REFERENCE_SCOPE" => some adjustReferenceScope
  | "INCONCLUSIVE" => some inconclusive
  | _ => none

def DecisionKind.name : DecisionKind → String
  | keepReference => "KEEP_REFERENCE"
  | stopUsingReference => "STOP_USING_REFERENCE"
  | adjustReferenceScope => "ADJUST_REFERENCE_SCOPE"
  | inconclusive => "INCONCLUSIVE"

theorem enum_sourceType (sourceType : SourceType) (field : String) :
    enum SourceType.ofName (.str sourceType.name) field = .ok sourceType := by
  cases sourceType <;> exact enum_name field (by decide +kernel) (by decide) (by decide) (by decide)

theorem enum_loudnessMatchPolicy (policy : LoudnessMatchPolicy) (field : String) :
    enum LoudnessMatchPolicy.ofName (.str policy.name) field = .ok policy := by
  cases policy <;> exact enum_name field (by decide +kernel) (by decide) (by decide) (by decide)

theorem enum_decisionKind (decision : DecisionKind) (field : String) :
    enum DecisionKind.ofName (.str decision.name) field = .ok decision := by
  cases decision <;> exact enum_name field (by decide +kernel) (by decide) (by decide) (by decide)

@[simp] theorem SourceEvidenceKind.ofKind_kind (kind : SourceEvidenceKind) :
    ofKind kind.kind = some kind := by
  cases kind <;> rfl

/-! ### Comparison dimensions -/

/-- `re.sub(r"[\s-]+", "_", …)` of some characters, after one that was replaced or not. -/
def joinRuns : Bool → List Char → List Char
  | _, [] => []
  | joined, c :: rest =>
    if isSpace c || c == '-' then
      if joined then joinRuns true rest else '_' :: joinRuns true rest
    else c :: joinRuns false rest

/-- `[A-Z0-9_]`. -/
def isDimensionChar (c : Char) : Bool := c.isUpper || c.isDigit || c == '_'

/-- `_DIMENSION.fullmatch`. -/
def isDimension (token : String) : Bool :=
  match token.toList with
  | [] => false
  | c :: rest => c.isUpper && decide (rest.length ≤ 63) && rest.all isDimensionChar

/-- A label of what is compared. -/
abbrev Dimension : Type := {token : String // isDimension token = true}

/-- The label that a text stands for. -/
def tokenOf (label : String) : String := String.ofList (joinRuns false (upper label).toList)

/-- A raw label in `_dimensions`. -/
def dimension (raw : Json) : ReferenceChecked Dimension := do
  let label ← text raw "comparison dimension" 64
  let h ← ensure (isDimension (tokenOf label.val) = true)
    (referenceError s!"invalid comparison dimension: {raw.pyStr}")
  .ok ⟨tokenOf label.val, h.down⟩

/-- What is compared. -/
structure Dimensions where
  labels : List Dimension
  nonempty : labels ≠ []
  /-- There are at most 16. -/
  bounded : labels.length ≤ 16
  /-- None is given twice. -/
  nodup : labels.Nodup

/-- `tuple(values)` in `_dimensions`. -/
def rawDimensions : Json → ReferenceChecked (List Json)
  | .arr items => .ok items
  | .obj fields => .ok (fields.map fun field ↦ .str field.1)
  | _ => .error (referenceError "comparison_dimensions must be a sequence")

/-- The labels of a list, each where it comes first. -/
def dimensionsOf (labels : List Dimension) (h : labels.length ≠ 0 ∧ labels.length ≤ 16) :
    Dimensions where
  labels := keepFirst labels
  nonempty := keepFirst_ne_nil (mt (congrArg List.length) h.1)
  bounded := (length_keepFirst_le labels).trans h.2
  nodup := nodup_keepFirst labels

/-- `_dimensions`. -/
def dimensions (value : Json) : ReferenceChecked Dimensions := do
  let raw ← rawDimensions value
  let h ← ensure (raw.length ≠ 0 ∧ raw.length ≤ 16)
    (referenceError "comparison_dimensions must contain between 1 and 16 labels")
  let labels ← checkItems dimension raw
  .ok (dimensionsOf labels.val (by rw [labels.property]; exact h.down))

/-! ### Labels are read back -/

section

variable {c : Char}

/-- A character of a label is what it is in upper case, and no whitespace. -/
theorem isDimensionChar_spec (h : isDimensionChar c = true) :
    upperChar c = [c] ∧ isSpace c = false ∧ (c == '-') = false := by
  have hall : ∀ n < 96, 48 ≤ n → upperChar (Char.ofNat n) = [Char.ofNat n] ∧
      isSpace (Char.ofNat n) = false ∧ (Char.ofNat n == '-') = false := by
    decide
  have hrange : 48 ≤ c.toNat ∧ c.toNat < 96 := by
    have hupper : c.isUpper = decide (c.val ≥ 'A'.val ∧ c.val ≤ 'Z'.val) := rfl
    simp only [isDimensionChar, Bool.or_eq_true, hupper, Char.isDigit, Bool.and_eq_true,
      decide_eq_true_eq, beq_iff_eq] at h
    rcases h with (⟨hlow, hhigh⟩ | ⟨hlow, hhigh⟩) | rfl
    · exact ⟨le_trans (by decide) (UInt32.le_iff_toNat_le.mp hlow),
        lt_of_le_of_lt (UInt32.le_iff_toNat_le.mp hhigh) (by decide)⟩
    · exact ⟨UInt32.le_iff_toNat_le.mp hlow,
        lt_of_le_of_lt (UInt32.le_iff_toNat_le.mp hhigh) (by decide)⟩
    · decide
  have hc := hall c.toNat hrange.2 hrange.1
  rwa [Char.ofNat_toNat] at hc

theorem joinRuns_eq_self {l : List Char} (h : ∀ c ∈ l, isDimensionChar c = true) (joined : Bool) :
    joinRuns joined l = l := by
  induction l generalizing joined with
  | nil => rfl
  | cons c rest ih =>
    obtain ⟨hc, hrest⟩ := List.forall_mem_cons.mp h
    obtain ⟨-, hspace, hhyphen⟩ := isDimensionChar_spec hc
    rw [joinRuns, if_neg (by rw [hspace, hhyphen]; decide), ih hrest]

theorem upper_eq_self {l : List Char} (h : ∀ c ∈ l, isDimensionChar c = true) :
    l.flatMap upperChar = l := by
  induction l with
  | nil => rfl
  | cons c rest ih =>
    obtain ⟨hc, hrest⟩ := List.forall_mem_cons.mp h
    rw [List.flatMap_cons, (isDimensionChar_spec hc).1, ih hrest]
    rfl

end

/-- What is known of a label. -/
theorem isDimension_spec {token : String} (h : isDimension token = true) :
    (∀ c ∈ token.toList, isDimensionChar c = true) ∧ token.toList.length ≤ 64 ∧ token ≠ "" := by
  unfold isDimension at h
  rcases htoken : token.toList with _ | ⟨c, rest⟩
  · rw [htoken] at h
    cases h
  · rw [htoken] at h
    simp only [Bool.and_eq_true, decide_eq_true_eq, List.all_eq_true] at h
    refine ⟨List.forall_mem_cons.mpr ⟨?_, h.2⟩, Nat.succ_le_succ h.1.2, ?_⟩
    · rw [isDimensionChar, h.1.1]
      rfl
    · rintro rfl
      cases htoken

theorem tokenOf_label (label : Dimension) : tokenOf label.val = label.val := by
  obtain ⟨hchars, -, -⟩ := isDimension_spec label.property
  rw [tokenOf, upper, String.toList_ofList, upper_eq_self hchars, joinRuns_eq_self hchars,
    String.ofList_toList]

def labelText (label : Dimension) : BoundedText 64 where
  text :=
    { val := label.val
      stripped := strip_eq_self (List.all_eq_true.mpr fun c hc ↦ by
        rw [(isDimensionChar_spec ((isDimension_spec label.property).1 c hc)).2.1]
        rfl)
      nonempty := (isDimension_spec label.property).2.2 }
  bounded := (isDimension_spec label.property).2.1

/-- A label is read back as itself. -/
theorem dimension_json (label : Dimension) : dimension (.str label.val) = .ok label := by
  have htext : text (.str label.val) "comparison dimension" 64 = .ok (labelText label) :=
    text_json _ (labelText label)
  have htoken : tokenOf (labelText label).val = label.val := tokenOf_label label
  have hlabel : isDimension (tokenOf (labelText label).val) = true := htoken.symm ▸ label.property
  simp only [dimension, bind_eq_ok, Except.ok.injEq]
  exact ⟨_, htext, _, ensure_of hlabel, Subtype.ext htoken⟩

/-- The JSON of what is compared. -/
def Dimensions.json (dimensions : Dimensions) : Json :=
  .arr (dimensions.labels.map fun label ↦ .str label.val)

theorem Dimensions.ext {a b : Dimensions} (h : a.labels = b.labels) : a = b := by
  cases a
  cases b
  cases h
  rfl

/-- What is compared is read back as itself. -/
theorem dimensions_json (value : Dimensions) : dimensions value.json = .ok value := by
  have hlength : (value.labels.map fun label : Dimension ↦ Json.str label.val).length ≠ 0 ∧
      (value.labels.map fun label : Dimension ↦ Json.str label.val).length ≤ 16 := by
    rw [List.length_map]
    exact ⟨fun hzero ↦ value.nonempty (List.length_eq_zero_iff.mp hzero), value.bounded⟩
  rw [Dimensions.json, dimensions, rawDimensions]
  show (ensure _ _ >>= fun h ↦ _) = _
  rw [ensure_of hlength]
  show (checkItems dimension _ >>= fun labels ↦ _) = _
  rw [checkItems_map dimension_json]
  exact congrArg Except.ok (Dimensions.ext (keepFirst_eq_self value.nodup))

/-! ### Definitions -/

section

variable (profile : Profile)

/-- `_song`. -/
def song (songId : String) : ReferenceChecked String := do
  let songId ← text (.str songId) "song_id" 96
  require ((profile.getSong songId.val).isSome = true)
    (ofLineage (notFound s!"Song not found in profile {profile.profileId}: {songId.val}"))
  .ok songId.val

/-- A version of a song. -/
structure VersionOf (songId : String) where
  id : BoundedText 96
  belongs : (profile.getVersion id.val).map Version.songId = some songId

/-- `_version` of a version that is given. -/
def givenVersion (songId : String) (value : Json) : ReferenceChecked (VersionOf profile songId) := do
  let id ← text value "version_id" 96
  require ((profile.getVersion id.val).isSome = true)
    (ofLineage (notFound s!"version not found: {id.val}"))
  let h ← ensure ((profile.getVersion id.val).map Version.songId = some songId)
    (referenceError "version belongs to a different Song")
  .ok ⟨id, h.down⟩

/-- `_version`. -/
def version (songId : String) (value : Json) :
    ReferenceChecked (Option (VersionOf profile songId)) :=
  checkOptional (givenVersion profile songId) value

/-- What `_definition` makes of the arguments. -/
structure ReferenceDefinition (songId : String) where
  title : BoundedText 240
  sourceType : SourceType
  sourceLocator : BoundedText 2048
  /-- The version that it is a reference for. -/
  versionId : Option (VersionOf profile songId)
  /-- The section that it is a reference for. -/
  sectionLocator : Option (BoundedText 240)
  comparisonDimensions : Dimensions
  /-- Whether loudness is matched before. -/
  loudnessMatchPolicy : LoudnessMatchPolicy

/-- The arguments of `create_reference` and `revise_reference`. -/
structure ReferenceInput where
  title : String
  sourceType : String
  sourceLocator : String
  comparisonDimensions : List String
  /-- Whether loudness is matched before. -/
  loudnessMatchPolicy : String
  /-- The version that it is a reference for. -/
  versionId : Option String
  /-- The section that it is a reference for. -/
  sectionLocator : Option String
  sourceKind : String
  sourceRef : Option String
  confidence : ℚ

/-- `_definition`. -/
def definition (songId : String) (input : ReferenceInput) :
    ReferenceChecked (ReferenceDefinition profile songId) := do
  let title ← text (.str input.title) "title" 240
  let sourceType ← enum SourceType.ofName (.str input.sourceType) "source_type"
  let sourceLocator ← text (.str input.sourceLocator) "source_locator" 2048
  let versionId ← version profile songId (Json.ofOption input.versionId)
  let sectionLocator ← optionalText (Json.ofOption input.sectionLocator) "section_locator" 240
  let comparisonDimensions ← dimensions (Json.ofTexts input.comparisonDimensions)
  let loudnessMatchPolicy ←
    enum LoudnessMatchPolicy.ofName (.str input.loudnessMatchPolicy) "loudness_match_policy"
  .ok ⟨title, sourceType, sourceLocator, versionId, sectionLocator, comparisonDimensions,
    loudnessMatchPolicy⟩

end

/-- How the source of a reference was established. -/
structure ReferenceSource where
  kind : SourceEvidenceKind
  ref : Option (BoundedText 2048)
  confidence : ℚ
  /-- What was observed or verified has a reference. -/
  provenance : kind ≠ .userDeclared → ref.isSome = true
  inRange : 0 ≤ confidence ∧ confidence ≤ 1

/-- `_source`. -/
def source (input : ReferenceInput) : ReferenceChecked ReferenceSource := do
  let kind ← enum SourceEvidenceKind.ofName (.str input.sourceKind) "source_kind"
  let ref ← optionalText (Json.ofOption input.sourceRef) "source_ref" 2048
  let hprovenance ← ensure (kind ≠ .userDeclared → ref.isSome = true)
    (referenceError s!"{kind.kind.name} reference source requires source_ref provenance")
  let hrange ← confidence input.confidence
  .ok ⟨kind, ref, input.confidence, hprovenance.down, hrange.down⟩

/-! ### JSON -/

section

variable {profile : Profile} {songId : String}

def VersionOf.json (version : VersionOf profile songId) : Json := version.id.json

theorem version_json (field : Option (VersionOf profile songId)) :
    version profile songId (optionJson VersionOf.json field) = .ok field := by
  have hread : ∀ given : VersionOf profile songId, givenVersion profile songId given.json = .ok given := by
    intro given
    obtain ⟨found, hfound, -⟩ := Option.map_eq_some_iff.mp given.belongs
    have hsome : (profile.getVersion given.id.val).isSome = true := by rw [hfound]; rfl
    simp only [givenVersion, bind_eq_ok, require_eq_ok]
    exact ⟨given.id, text_json _ _, ⟨⟩, hsome, _, ensure_of given.belongs, rfl⟩
  exact checkOptional_optionJson hread (fun _ h ↦ by cases h) field

/-- The value that `_definition` returns. -/
def ReferenceDefinition.json (given : ReferenceDefinition profile songId) (referenceId : String) : Json :=
  .obj [("schema_version", .int 1), ("reference_id", .str referenceId), ("title", given.title.json),
    ("source_type", .str given.sourceType.name), ("source_locator", given.sourceLocator.json),
    ("version_id", optionJson VersionOf.json given.versionId),
    ("section_locator", optionJson BoundedText.json given.sectionLocator),
    ("comparison_dimensions", given.comparisonDimensions.json),
    ("loudness_match_policy", .str given.loudnessMatchPolicy.name)]

/-- `_REFERENCE_KEYS`. -/
def referenceKeys : List String :=
  ["schema_version", "reference_id", "title", "source_type", "source_locator", "version_id",
    "section_locator", "comparison_dimensions", "loudness_match_policy"]

variable (profile songId) in
/-- What `_decode_reference` does with the value of a claim. -/
def decodeDefinition (referenceId : String) (value : Json) :
    ReferenceChecked (ReferenceDefinition profile songId) := do
  require (value.HasKeys referenceKeys) (referenceIntegrity "invalid Song reference value shape")
  require ((value.get "schema_version").equalsInt 1 = true)
    (referenceIntegrity "unsupported Song reference schema version")
  require (value.get "reference_id" = .str referenceId)
    (referenceIntegrity "Song reference identity disagrees with evidence key")
  let comparisonDimensions ← dimensions (value.get "comparison_dimensions")
  require (comparisonDimensions.json = value.get "comparison_dimensions")
    (referenceIntegrity "stored comparison dimensions are not canonical")
  let title ← text (value.get "title") "title" 240
  let sourceType ← enum SourceType.ofName (value.get "source_type") "source_type"
  let sourceLocator ← text (value.get "source_locator") "source_locator" 2048
  let versionId ← version profile songId (value.get "version_id")
  let sectionLocator ← optionalText (value.get "section_locator") "section_locator" 240
  let loudnessMatchPolicy ←
    enum LoudnessMatchPolicy.ofName (value.get "loudness_match_policy") "loudness_match_policy"
  .ok ⟨title, sourceType, sourceLocator, versionId, sectionLocator, comparisonDimensions,
    loudnessMatchPolicy⟩

theorem Dimensions.canonical_json (dimensions : Dimensions) :
    dimensions.json.canonical = dimensions.json := by
  rw [Dimensions.json, Json.canonical_arr, List.map_map]
  rfl

/-- A definition that was stored is read back as itself. -/
theorem decodeDefinition_json (given : ReferenceDefinition profile songId) (referenceId : String) :
    decodeDefinition profile songId referenceId (given.json referenceId).canonical = .ok given := by
  have hget : ∀ (key : String) (v : Json), (given.json referenceId).get key = v → v.canonical = v →
      (given.json referenceId).canonical.get key = v := fun key v ↦ Json.get_canonical_stored key
  have hversion := hget "version_id" _ rfl (canonical_optionJson (fun _ ↦ rfl) given.versionId)
  have hsection := hget "section_locator" _ rfl
    (canonical_optionJson (fun _ ↦ rfl) given.sectionLocator)
  have hdimensions := hget "comparison_dimensions" _ rfl given.comparisonDimensions.canonical_json
  have hkeys : (given.json referenceId).canonical.HasKeys referenceKeys :=
    Json.hasKeys_canonical.mpr (Json.hasKeys_obj _)
  simp only [decodeDefinition, bind_eq_ok, require_eq_ok, hversion, hsection, hdimensions,
    hget "schema_version" (.int 1) rfl rfl, hget "reference_id" (.str referenceId) rfl rfl,
    hget "title" given.title.json rfl rfl, hget "source_type" (.str given.sourceType.name) rfl rfl,
    hget "source_locator" given.sourceLocator.json rfl rfl,
    hget "loudness_match_policy" (.str given.loudnessMatchPolicy.name) rfl rfl]
  exact ⟨⟨⟩, hkeys, ⟨⟩, Json.equalsInt_int 1, ⟨⟩, trivial, _, dimensions_json _, ⟨⟩, rfl,
    _, text_json _ _, _, enum_sourceType _ _, _, text_json _ _, _, version_json _,
    _, optionalText_optionJson _ _, _, enum_loudnessMatchPolicy _ _, rfl⟩

end

end N0te.References
