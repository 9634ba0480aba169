import Mathlib.Data.Int.Notation
import Mathlib.Data.List.Sort
import N0te.Library.Checking
import N0te.Library.Text

/-!
# Whether evidence is still fresh

Evidence was observed at some time, from a source and under dependencies that may have changed since.
`assessEvidenceFreshness` says at another time whether it may still be presented as current truth.
`current_iff` is when it may: it has not expired, its source is current, it is not too old, and no
dependency has changed.
-/

set_option autoImplicit false
set_option relaxedAutoImplicit false

namespace N0te.Capabilities

open Library

/-! ### Values -/

/-- The exception class of the module. -/
inductive FreshnessErrorClass where
  | evidenceFreshnessError
  deriving DecidableEq

/-- An `EvidenceFreshnessError`. -/
def freshnessError (message : String) : Raised FreshnessErrorClass :=
  ⟨.evidenceFreshnessError, message⟩

/-- `FRESHNESS_STATES`. -/
inductive FreshnessState where
  | current
  | revalidationRequired
  | expired
  | unknown
  deriving DecidableEq

/-- `DEPENDENCY_STATES`. -/
inductive DependencyState where
  | current
  | changed
  | unknown
  deriving DecidableEq

/-- `DEPENDENCY_KINDS`. -/
inductive DependencyKind where
  | workspaceObservation
  | hostRuntime
  | hostEdition
  | os
  | binary
  | plugin
  | providerVersion
  | authScope
  | permission
  | entitlement
  | other
  deriving DecidableEq

def DependencyKind.ofName : String → Option DependencyKind
  | "WORKSPACE_OBSERVATION" => some workspaceObservation
  | "HOST_RUNTIME" => some hostRuntime
  | "HOST_EDITION" => some hostEdition
  | "OS" => some os
  | "BINARY" => some binary
  | "PLUGIN" => some plugin
  | "PROVIDER_VERSION" => some providerVersion
  | "AUTH_SCOPE" => some authScope
  | "PERMISSION" => some permission
  | "ENTITLEMENT" => some entitlement
  | "OTHER" => some other
  | _ => none

def DependencyKind.name : DependencyKind → String
  | workspaceObservation => "WORKSPACE_OBSERVATION"
  | hostRuntime => "HOST_RUNTIME"
  | hostEdition => "HOST_EDITION"
  | os => "OS"
  | binary => "BINARY"
  | plugin => "PLUGIN"
  | providerVersion => "PROVIDER_VERSION"
  | authScope => "AUTH_SCOPE"
  | permission => "PERMISSION"
  | entitlement => "ENTITLEMENT"
  | other => "OTHER"

/-- `FreshnessDependency`. -/
structure FreshnessDependency where
  kind : DependencyKind
  key : Text
  /-- What it was when the evidence was observed. -/
  observedFingerprint : Text
  /-- What it is now, if that is known. -/
  currentFingerprint : Option Text

/-- `DependencyFreshness`. -/
structure DependencyFreshness where
  kind : DependencyKind
  key : Text
  state : DependencyState
  /-- What it was when the evidence was observed. -/
  observedFingerprint : Text
  /-- What it is now, if that is known. -/
  currentFingerprint : Option Text

/-- `EvidenceFreshnessAssessment`. -/
structure EvidenceFreshnessAssessment where
  state : FreshnessState
  observedAtEpochSeconds : ℤ
  /-- The time of the assessment. -/
  asOfEpochSeconds : ℤ
  /-- The time in between. -/
  ageSeconds : ℤ
  expiresAtEpochSeconds : Option ℤ
  /-- How old it may be. -/
  maxAgeSeconds : Option ℤ
  sourceCurrent : Option Bool
  dependencyStates : List DependencyFreshness
  /-- What speaks against it. -/
  reasonCodes : List String

/-! ### Checks -/

/-- A result or an exception. -/
abbrev FreshnessChecked (α : Type) := Except (Raised FreshnessErrorClass) α

/-- `_text`. -/
def freshnessText (value field : String) : FreshnessChecked Text :=
  orRaise (Text.ofString value) (freshnessError s!"{field} must not be empty")

/-- `_optional_text`. -/
def optionalFreshnessText (value : Option String) (field : String) :
    FreshnessChecked (Option Text) :=
  match value with
  | none => .ok none
  | some value => some <$> freshnessText value field

/-- `_nonnegative_int`. -/
def nonnegativeSeconds (value : ℤ) (field : String) : FreshnessChecked Unit :=
  require (0 ≤ value) (freshnessError s!"{field} must be a non-negative integer")

/-- `FreshnessDependency(kind, key, observed_fingerprint, current_fingerprint)`. -/
def freshnessDependency (kind key observedFingerprint : String) (currentFingerprint : Option String) :
    FreshnessChecked FreshnessDependency := do
  let kindText ← freshnessText kind "dependency kind"
  let name := underscored (upper kindText.val)
  let kind ← orRaise (DependencyKind.ofName name)
    (freshnessError s!"unsupported dependency kind: {name}")
  let key ← freshnessText key "dependency key"
  let observedFingerprint ← freshnessText observedFingerprint "observed_fingerprint"
  let currentFingerprint ← optionalFreshnessText currentFingerprint "current_fingerprint"
  .ok ⟨kind, key, observedFingerprint, currentFingerprint⟩

/-- What a dependency is known by. -/
def FreshnessDependency.identity (item : FreshnessDependency) : DependencyKind × String :=
  (item.kind, item.key.val)

/-- The order of dependencies. -/
def FreshnessDependency.Before (item other : FreshnessDependency) : Prop :=
  item.kind.name < other.kind.name ∨ item.kind = other.kind ∧ item.key.val ≤ other.key.val

instance : DecidableRel FreshnessDependency.Before := fun _ _ ↦ inferInstanceAs (Decidable (_ ∨ _))

/-- Refuse a dependency that has been seen. -/
def refuseDuplicates : List (DependencyKind × String) → List FreshnessDependency →
    FreshnessChecked Unit
  | _, [] => .ok ⟨⟩
  | seen, item :: rest => do
    let kind := item.kind.name
    let key := item.key.val
    require (item.identity ∉ seen) (freshnessError s!"duplicate freshness dependency: {kind}:{key}")
    refuseDuplicates (item.identity :: seen) rest

/-- `_normalize_dependencies`. -/
def normalizeDependencies (dependencies : List FreshnessDependency) :
    FreshnessChecked (List FreshnessDependency) := do
  let ordered := dependencies.insertionSort FreshnessDependency.Before
  refuseDuplicates [] ordered
  .ok ordered

/-! ### The assessment -/

/-- What has become of a dependency. -/
def FreshnessDependency.freshness (item : FreshnessDependency) : DependencyFreshness where
  kind := item.kind
  key := item.key
  state :=
    match item.currentFingerprint with
    | none => .unknown
    | some fingerprint => if fingerprint.val = item.observedFingerprint.val then .current else .changed
  observedFingerprint := item.observedFingerprint
  currentFingerprint := item.currentFingerprint

/-- The reason codes of the dependencies in a state. -/
def dependencyReasons (reason : String) (state : DependencyState) (states : List DependencyFreshness) :
    List String :=
  (states.filter fun item ↦ item.state = state).map fun item ↦
    s!"{reason}:{item.kind.name}:{item.key.val}"

/-- The arguments of `assess_evidence_freshness`. -/
structure FreshnessInput where
  observedAtEpochSeconds : ℤ
  /-- The time of the assessment. -/
  asOfEpochSeconds : ℤ
  dependencies : List FreshnessDependency
  sourceCurrent : Option Bool
  expiresAtEpochSeconds : Option ℤ
  /-- How old it may be. -/
  maxAgeSeconds : Option ℤ

section

variable (input : FreshnessInput)

/-- The evidence has expired. -/
def FreshnessInput.explicitExpired : Bool :=
  input.expiresAtEpochSeconds.any fun expiresAt ↦ expiresAt ≤ input.asOfEpochSeconds

/-- The evidence is too old. -/
def FreshnessInput.ageExceeded : Bool :=
  input.maxAgeSeconds.any fun maxAge ↦
    maxAge < input.asOfEpochSeconds - input.observedAtEpochSeconds

/-- The reason codes of an assessment. -/
def freshnessReasons (states : List DependencyFreshness) : List String :=
  (if input.explicitExpired then ["EXPLICIT_EXPIRY_REACHED"] else []) ++
  (if input.sourceCurrent = some false then ["SOURCE_SUPERSEDED"] else []) ++
  dependencyReasons "DEPENDENCY_CHANGED" .changed states ++
  (if input.ageExceeded then ["MAX_AGE_EXCEEDED"] else []) ++
  dependencyReasons "DEPENDENCY_UNKNOWN" .unknown states ++
  (if input.sourceCurrent = none then ["SOURCE_CURRENT_UNKNOWN"] else [])

/-- The verdict of an assessment. -/
def freshnessState (states : List DependencyFreshness) : FreshnessState :=
  if input.explicitExpired then .expired
  else if input.sourceCurrent = some false ∨ (∃ item ∈ states, item.state = .changed) ∨
      input.ageExceeded = true then .revalidationRequired
  else if input.sourceCurrent = none ∨ ∃ item ∈ states, item.state = .unknown then .unknown
  else .current

/-- `assess_evidence_freshness`. -/
def assessEvidenceFreshness : FreshnessChecked EvidenceFreshnessAssessment := do
  nonnegativeSeconds input.observedAtEpochSeconds "observed_at_epoch_seconds"
  nonnegativeSeconds input.asOfEpochSeconds "as_of_epoch_seconds"
  require (input.observedAtEpochSeconds ≤ input.asOfEpochSeconds)
    (freshnessError "as_of_epoch_seconds predates the evidence observation")
  let expiresAt := input.expiresAtEpochSeconds.getD 0
  nonnegativeSeconds expiresAt "expires_at_epoch_seconds"
  require (∀ expiresAt ∈ input.expiresAtEpochSeconds, input.observedAtEpochSeconds ≤ expiresAt)
    (freshnessError "expires_at_epoch_seconds predates the evidence observation")
  nonnegativeSeconds (input.maxAgeSeconds.getD 0) "max_age_seconds"
  let normalized ← normalizeDependencies input.dependencies
  let states := normalized.map FreshnessDependency.freshness
  .ok {
    state := freshnessState input states
    observedAtEpochSeconds := input.observedAtEpochSeconds
    asOfEpochSeconds := input.asOfEpochSeconds
    ageSeconds := input.asOfEpochSeconds - input.observedAtEpochSeconds
    expiresAtEpochSeconds := input.expiresAtEpochSeconds
    maxAgeSeconds := input.maxAgeSeconds
    sourceCurrent := input.sourceCurrent
    dependencyStates := states
    reasonCodes := freshnessReasons input states }

end

/-! ### What an assessment says -/

def DependencyFreshness.Unchanged (item : DependencyFreshness) : Prop :=
  item.currentFingerprint = some item.observedFingerprint

theorem FreshnessDependency.freshness_state_iff (item : FreshnessDependency) :
    item.freshness.state = .current ↔ item.freshness.Unchanged := by
  unfold freshness DependencyFreshness.Unchanged
  cases item.currentFingerprint with
  | none => simp
  | some fingerprint =>
    by_cases hsame : fingerprint.val = item.observedFingerprint.val
    · simp [Text.ext hsame]
    · have hne : fingerprint ≠ item.observedFingerprint := fun heq ↦ hsame (congrArg Text.val heq)
      simp [hsame, hne]

/-- What makes evidence current at the time of its assessment. -/
structure CurrentEvidence (assessment : EvidenceFreshnessAssessment) : Prop where
  unexpired : ∀ expiresAt ∈ assessment.expiresAtEpochSeconds,
    assessment.asOfEpochSeconds < expiresAt
  /-- Its source has not been superseded. -/
  source : assessment.sourceCurrent = some true
  /-- It is not too old. -/
  age : ∀ maxAge ∈ assessment.maxAgeSeconds,
    assessment.asOfEpochSeconds - assessment.observedAtEpochSeconds ≤ maxAge
  /-- Nothing that it depends on has changed. -/
  unchanged : ∀ item ∈ assessment.dependencyStates, item.Unchanged

section

variable {input : FreshnessInput} {assessment : EvidenceFreshnessAssessment}

/-- An assessment says that evidence is current if and only if it is. -/
theorem current_iff (h : assessEvidenceFreshness input = .ok assessment) :
    assessment.state = .current ↔ CurrentEvidence assessment := by
  simp only [assessEvidenceFreshness, bind_eq_ok, require_eq_ok, Except.ok.injEq] at h
  obtain ⟨_, -, _, -, _, -, _, -, _, -, _, -, normalized, -, rfl⟩ := h
  have hexpired : input.explicitExpired = false ↔
      ∀ expiresAt ∈ input.expiresAtEpochSeconds, input.asOfEpochSeconds < expiresAt := by
    cases hexpires : input.expiresAtEpochSeconds <;> simp [FreshnessInput.explicitExpired, hexpires]
  have hage : input.ageExceeded = false ↔ ∀ maxAge ∈ input.maxAgeSeconds,
      input.asOfEpochSeconds - input.observedAtEpochSeconds ≤ maxAge := by
    cases hmax : input.maxAgeSeconds <;> simp [FreshnessInput.ageExceeded, hmax]
  have hstates : (∀ item ∈ normalized.map FreshnessDependency.freshness, item.Unchanged) ↔
      ∀ item ∈ normalized.map FreshnessDependency.freshness, item.state = .current := by
    simp only [List.forall_mem_map, FreshnessDependency.freshness_state_iff]
  constructor
  · intro hcurrent
    simp only [freshnessState] at hcurrent
    split_ifs at hcurrent with hexplicit hchanged hunknown
    simp only [not_or, not_exists, not_and] at hchanged hunknown
    refine ⟨hexpired.mp (by simpa using hexplicit), ?_, hage.mp (by simpa using hchanged.2.2),
      hstates.mpr fun item hitem ↦ ?_⟩
    · rcases hsource : input.sourceCurrent with _ | _ | _
      · exact absurd hsource hunknown.1
      · exact absurd hsource hchanged.1
      · rfl
    · have hnotChanged := hchanged.2.1 item hitem
      have hnotUnknown := hunknown.2 item hitem
      cases hitem' : item.state with
      | current => rfl
      | changed => exact absurd hitem' hnotChanged
      | unknown => exact absurd hitem' hnotUnknown
  · intro hcurrent
    have hall := hstates.mp hcurrent.unchanged
    have hsource : input.sourceCurrent = some true := hcurrent.source
    show freshnessState input _ = _
    simp only [freshnessState, hexpired.mpr hcurrent.unexpired, hage.mpr hcurrent.age, hsource]
    rw [if_neg Bool.false_ne_true, if_neg, if_neg]
    · rintro (hnone | ⟨item, hitem, hunknown⟩)
      · cases hnone
      · rw [hall item hitem] at hunknown
        cases hunknown
    · rintro (hfalse | ⟨item, hitem, hchanged⟩ | hexceeded)
      · cases hfalse
      · rw [hall item hitem] at hchanged
        cases hchanged
      · cases hexceeded

end

end N0te.Capabilities
