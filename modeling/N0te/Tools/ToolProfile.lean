import Mathlib.Data.List.Sort
import Mathlib.Data.Prod.Lex
import Mathlib.Data.String.Basic
import N0te.Library.Checking
import N0te.Library.JsonShape
import N0te.Library.JsonText

/-!
# Profiles of owned tools

A profile is the identity of a tool that an artist owns: the endpoints by which hosts know it, and what
was declared of them. Its constructor sorts every collection and refuses two members of one identity;
`SemanticToolProfile` keeps what it establishes. A profile is stored as canonical JSON, and
`profileFromJson_json` says that this reads back as the same profile.

Scope. Flags are Booleans and ages integers, as they are declared. A score is a number that is written
as `json` writes it; `float` of a text is left out.
-/

set_option autoImplicit false
set_option relaxedAutoImplicit false

namespace N0te.Tools

open Library

/-! ### Checks -/

/-- The exception classes of tools. -/
inductive ToolErrorClass where
  | toolIdentityError
  | capabilityResolutionError
  | toolInventoryError
  | valueError
  | typeError
  | notFoundError
  | lineageCorruptionError
  deriving DecidableEq

/-- An exception. -/
abbrev ToolRaised : Type := Raised ToolErrorClass

/-- A result or an exception. -/
abbrev ToolChecked (α : Type) := Except ToolRaised α

/-- A `ToolIdentityError`. -/
def identityError (message : String) : ToolRaised := ⟨.toolIdentityError, message⟩

/-- A `CapabilityResolutionError`. -/
def resolutionError (message : String) : ToolRaised := ⟨.capabilityResolutionError, message⟩

/-- `_text` of `tools.py`. -/
def toolText (value : Json) (field : String) : ToolChecked Text :=
  orRaise (Text.ofString value.pyStr) (identityError s!"{field} must not be empty")

/-- `_required_text`. -/
def requiredText (value : Json) (field : String) : ToolChecked Text :=
  orRaise (Text.ofString value.pyStr) (resolutionError s!"{field} must not be empty")

/-- `_required_text` of a value that is not `None`. -/
def optionalText (value : Json) (field : String) : ToolChecked (Option Text) :=
  match value with
  | .null => .ok none
  | value => some <$> requiredText value field

/-- `_real_bool`. -/
def realBool (value : Json) (field : String) : ToolChecked Bool :=
  match value with
  | .bool b => .ok b
  | _ => .error ⟨.typeError, s!"{field} must be bool"⟩

/-- A flag that the constructor does not look at. -/
def declaredBool (value : Json) : ToolChecked Bool := realBool value "candidate"

theorem toolText_val (text : Text) (field : String) :
    toolText (.str text.val) field = .ok text := by
  rw [toolText, Json.pyStr, Text.ofString_val]
  rfl

theorem requiredText_val (text : Text) (field : String) :
    requiredText (.str text.val) field = .ok text := by
  rw [requiredText, Json.pyStr, Text.ofString_val]
  rfl

/-! ### Capabilities -/

/-- `ROUTE_KINDS`. -/
inductive RouteKind where
  | hostNative
  | n0teNative
  | ownedTool
  | provider
  | guided
  deriving DecidableEq

def RouteKind.ofName : String → Option RouteKind
  | "HOST_NATIVE" => some hostNative
  | "N0TE_NATIVE" => some n0teNative
  | "OWNED_TOOL" => some ownedTool
  | "PROVIDER" => some provider
  | "GUIDED" => some guided
  | _ => none

def RouteKind.name : RouteKind → String
  | hostNative => "HOST_NATIVE"
  | n0teNative => "N0TE_NATIVE"
  | ownedTool => "OWNED_TOOL"
  | provider => "PROVIDER"
  | guided => "GUIDED"

theorem RouteKind.ofName_name (kind : RouteKind) : ofName (upper (strip kind.name)) = some kind := by
  cases kind <;> decide +kernel

/-- A float between 0 and 1. -/
def InUnitInterval (f : FloatText) : Prop := ∃ x ∈ Json.decimal f, 0 ≤ x ∧ x ≤ 1

instance (f : FloatText) : Decidable (InUnitInterval f) :=
  match h : Json.decimal f with
  | none => .isFalse (by simp [InUnitInterval, h])
  | some x => decidable_of_iff (0 ≤ x ∧ x ≤ 1) (by simp [InUnitInterval, h])

/-- A rating. -/
abbrev Score : Type := {f : FloatText // InUnitInterval f}

/-- `float` of a number. -/
def floatOf : Json → Option FloatText
  | .float f => some f
  | .int 0 => some ⟨['0', '.', '0'], by decide, by decide, by decide⟩
  | .int 1 => some ⟨['1', '.', '0'], FloatText.one.number, FloatText.one.float, FloatText.one.head⟩
  | _ => none

/-- `_unit_interval`. -/
def unitInterval (value : Json) (field : String) : ToolChecked Score := do
  let error := resolutionError s!"{field} must be between 0 and 1"
  let number ← orRaise (floatOf value) error
  let h ← ensure (InUnitInterval number) error
  .ok ⟨number, h.down⟩

theorem unitInterval_val (score : Score) (field : String) :
    unitInterval (.float score.val) field = .ok score := by
  simp only [unitInterval, floatOf, orRaise]
  show (ensure (InUnitInterval score.val) _ >>= _) = _
  rw [ensure_of score.property]
  rfl

/-- The fields of a candidate that are ratings. -/
structure CandidateScores where
  /-- How well it fits the task. -/
  taskFit : Score
  /-- How well its result can be edited. -/
  editability : Score
  locality : Score
  privacy : Score
  latency : Score
  /-- How well it can be undone. -/
  reversibility : Score
  costEfficiency : Score
  portability : Score
  /-- How much the artist likes it. -/
  userPreference : Score

/-- `CapabilityCandidate`. -/
structure CapabilityCandidate where
  candidateId : Text
  routeKind : RouteKind
  capability : Text
  displayName : Text
  brand : Option Text
  /-- Whether availability is known. -/
  verified : Bool
  compatible : Bool
  /-- A reference to what it is known from. -/
  evidenceRef : Option Text
  evidenceAgeSeconds : Option ℕ
  scores : CandidateScores
  paid : Bool
  evidence_of_verified : verified = true → evidenceRef ≠ none

/-- `_SCORE_WEIGHTS`, checked in its order. -/
def candidateScores (value : Json) : ToolChecked CandidateScores := do
  let taskFit ← unitInterval (value.get "task_fit") "candidate.task_fit"
  let editability ← unitInterval (value.get "editability") "candidate.editability"
  let locality ← unitInterval (value.get "locality") "candidate.locality"
  let privacy ← unitInterval (value.get "privacy") "candidate.privacy"
  let latency ← unitInterval (value.get "latency") "candidate.latency"
  let reversibility ← unitInterval (value.get "reversibility") "candidate.reversibility"
  let costEfficiency ← unitInterval (value.get "cost_efficiency") "candidate.cost_efficiency"
  let portability ← unitInterval (value.get "portability") "candidate.portability"
  let userPreference ← unitInterval (value.get "user_preference") "candidate.user_preference"
  .ok ⟨taskFit, editability, locality, privacy, latency, reversibility, costEfficiency, portability,
    userPreference⟩

def evidenceAge (value : Json) : ToolChecked (Option ℕ) :=
  let error := resolutionError "candidate.evidence_age_seconds must be >= 0"
  match value with
  | .null => .ok none
  | .int n => do
    require (0 ≤ n) error
    .ok (some n.toNat)
  | _ => .error error

/-- `CapabilityCandidate(**fields)`. -/
def capabilityCandidate (fields : Json) : ToolChecked CapabilityCandidate := do
  let verified ← declaredBool (fields.get "verified")
  let compatible ← declaredBool (fields.get "compatible")
  let paid ← declaredBool (fields.get "paid")
  let candidateId ← requiredText (fields.get "candidate_id") "candidate.candidate_id"
  let route := upper (strip (fields.get "route_kind").pyStr)
  let routeKind ← orRaise (RouteKind.ofName route)
    (resolutionError s!"unsupported route kind: {route}")
  let capability ← requiredText (fields.get "capability") "candidate.capability"
  let displayName ← requiredText (fields.get "display_name") "candidate.display_name"
  let brand ← optionalText (fields.get "brand") "candidate.brand"
  let evidenceRef ← optionalText (fields.get "evidence_ref") "candidate.evidence_ref"
  let h ← ensure (verified = true → evidenceRef ≠ none)
    (resolutionError "verified candidate requires an explicit evidence_ref")
  let age ← evidenceAge (fields.get "evidence_age_seconds")
  let scores ← candidateScores fields
  .ok ⟨candidateId, routeKind, capability, displayName, brand, verified, compatible, evidenceRef, age,
    scores, paid, h.down⟩

def optionalJson (value : Option Text) : Json := (value.map fun text ↦ Json.str text.val).getD .null

theorem optionalText_optionalJson (value : Option Text) (field : String) :
    optionalText (optionalJson value) field = .ok value := by
  cases value with
  | none => rfl
  | some text =>
    show some <$> requiredText (.str text.val) field = _
    rw [requiredText_val]
    rfl

/-- The age of evidence as JSON. -/
def ageJson (value : Option ℕ) : Json := (value.map fun n ↦ Json.int n).getD .null

theorem evidenceAge_ageJson (value : Option ℕ) : evidenceAge (ageJson value) = .ok value := by
  cases value with
  | none => rfl
  | some n => rfl

/-- The fields of a candidate in `_profile_payload`. -/
def CapabilityCandidate.fields (candidate : CapabilityCandidate) : List (String × Json) :=
  [("candidate_id", .str candidate.candidateId.val),
    ("route_kind", .str candidate.routeKind.name),
    ("capability", .str candidate.capability.val),
    ("display_name", .str candidate.displayName.val),
    ("brand", optionalJson candidate.brand),
    ("verified", .bool candidate.verified),
    ("compatible", .bool candidate.compatible),
    ("evidence_ref", optionalJson candidate.evidenceRef),
    ("evidence_age_seconds", ageJson candidate.evidenceAgeSeconds),
    ("task_fit", .float candidate.scores.taskFit.val),
    ("editability", .float candidate.scores.editability.val),
    ("locality", .float candidate.scores.locality.val),
    ("privacy", .float candidate.scores.privacy.val),
    ("latency", .float candidate.scores.latency.val),
    ("reversibility", .float candidate.scores.reversibility.val),
    ("cost_efficiency", .float candidate.scores.costEfficiency.val),
    ("portability", .float candidate.scores.portability.val),
    ("user_preference", .float candidate.scores.userPreference.val),
    ("paid", .bool candidate.paid)]

@[simp] theorem canonical_optionalJson (value : Option Text) :
    (optionalJson value).canonical = optionalJson value := by
  cases value <;> rfl

@[simp] theorem canonical_ageJson (value : Option ℕ) : (ageJson value).canonical = ageJson value := by
  cases value <;> rfl

/-- The ratings of a candidate read back as themselves. -/
theorem candidateScores_fields (candidate : CapabilityCandidate) :
    candidateScores (Json.obj candidate.fields).canonical = .ok candidate.scores := by
  have hscore : ∀ (key field : String) (score : Score),
      (Json.obj candidate.fields).get key = .float score.val →
        unitInterval ((Json.obj candidate.fields).canonical.get key) field = .ok score := by
    intro key field score h
    rw [Json.get_canonical_obj key h, Json.canonical_float]
    exact unitInterval_val score field
  simp only [candidateScores, bind_eq_ok]
  exact ⟨_, hscore _ _ candidate.scores.taskFit rfl, _, hscore _ _ candidate.scores.editability rfl,
    _, hscore _ _ candidate.scores.locality rfl, _, hscore _ _ candidate.scores.privacy rfl,
    _, hscore _ _ candidate.scores.latency rfl, _, hscore _ _ candidate.scores.reversibility rfl,
    _, hscore _ _ candidate.scores.costEfficiency rfl,
    _, hscore _ _ candidate.scores.portability rfl,
    _, hscore _ _ candidate.scores.userPreference rfl, rfl⟩

/-- A candidate reads back as itself. -/
theorem capabilityCandidate_fields (candidate : CapabilityCandidate) :
    capabilityCandidate (Json.obj candidate.fields).canonical = .ok candidate := by
  have hflag : ∀ (key : String) (b : Bool), (Json.obj candidate.fields).get key = .bool b →
      declaredBool ((Json.obj candidate.fields).canonical.get key) = .ok b := by
    intro key b h
    rw [Json.get_canonical_obj key h]
    rfl
  have htext : ∀ (key field : String) (text : Text),
      (Json.obj candidate.fields).get key = .str text.val →
        requiredText ((Json.obj candidate.fields).canonical.get key) field = .ok text := by
    intro key field text h
    rw [Json.get_canonical_obj key h, Json.canonical_str]
    exact requiredText_val text field
  have hoptional : ∀ (key field : String) (text : Option Text),
      (Json.obj candidate.fields).get key = optionalJson text →
        optionalText ((Json.obj candidate.fields).canonical.get key) field = .ok text := by
    intro key field text h
    rw [Json.get_canonical_obj key h, canonical_optionalJson]
    exact optionalText_optionalJson text field
  have hroute : (Json.obj candidate.fields).canonical.get "route_kind" =
      .str candidate.routeKind.name := Json.get_canonical_obj "route_kind" rfl
  have hage : (Json.obj candidate.fields).canonical.get "evidence_age_seconds" =
      ageJson candidate.evidenceAgeSeconds := by
    rw [Json.get_canonical_obj "evidence_age_seconds" rfl]
    exact canonical_ageJson _
  simp only [capabilityCandidate, bind_eq_ok, orRaise_eq_ok]
  refine ⟨_, hflag _ candidate.verified rfl, _, hflag _ candidate.compatible rfl,
    _, hflag _ candidate.paid rfl, _, htext _ _ candidate.candidateId rfl, candidate.routeKind, ?_,
    _, htext _ _ candidate.capability rfl, _, htext _ _ candidate.displayName rfl,
    _, hoptional _ _ candidate.brand rfl, _, hoptional _ _ candidate.evidenceRef rfl,
    _, ensure_of candidate.evidence_of_verified, candidate.evidenceAgeSeconds, ?_,
    _, candidateScores_fields candidate, rfl⟩
  · rw [hroute]
    exact candidate.routeKind.ofName_name
  · rw [hage]
    exact evidenceAge_ageJson _

/-! ### Endpoints and bindings -/

/-- `TOOL_FORMAT_KINDS`. -/
inductive ToolFormat where
  | vst3
  | au
  | aax
  | clap
  | lv2
  | ladspa
  | other
  deriving DecidableEq

def ToolFormat.ofName : String → Option ToolFormat
  | "VST3" => some vst3
  | "AU" => some au
  | "AAX" => some aax
  | "CLAP" => some clap
  | "LV2" => some lv2
  | "LADSPA" => some ladspa
  | "OTHER" => some other
  | _ => none

def ToolFormat.name : ToolFormat → String
  | vst3 => "VST3"
  | au => "AU"
  | aax => "AAX"
  | clap => "CLAP"
  | lv2 => "LV2"
  | ladspa => "LADSPA"
  | other => "OTHER"

theorem ToolFormat.ofName_name (format : ToolFormat) :
    ofName (upper (strip format.name)) = some format := by
  cases format <;> decide +kernel

theorem ToolFormat.name_injective : Function.Injective ToolFormat.name := by
  intro a b h
  have hsame := congrArg (fun name ↦ ofName (upper (strip name))) h
  simpa only [ofName_name, Option.some.injEq] using hsame

/-- `ToolEndpoint`. -/
structure ToolEndpoint where
  endpointId : Text
  formatKind : ToolFormat
  /-- What a host calls it. -/
  nativeIdentity : Text
  /-- A reference to what it is known from. -/
  evidenceRef : Text
  deriving DecidableEq

/-- `ToolCapabilityBinding`. -/
structure ToolCapabilityBinding where
  endpointId : Text
  /-- What can be done there. -/
  candidate : CapabilityCandidate
  owned : candidate.routeKind = .ownedTool

/-- `ToolParameterBinding`. -/
structure ToolParameterBinding where
  endpointId : Text
  /-- What the parameter means. -/
  semanticKey : Text
  /-- What the tool calls it. -/
  nativeParameterRef : Text
  /-- Whether it can be read. -/
  readable : Bool
  /-- Whether it can be written. -/
  writable : Bool
  /-- A reference to what it is known from. -/
  evidenceRef : Text
  /-- It is readable, writable, or both. -/
  usable : readable = true ∨ writable = true

/-- `ToolStateBinding`. -/
structure ToolStateBinding where
  endpointId : Text
  /-- Whether its state can be read. -/
  readable : Bool
  /-- Whether its state can be written. -/
  writable : Bool
  /-- A reference to what it is known from. -/
  evidenceRef : Text
  /-- It is readable, writable, or both. -/
  usable : readable = true ∨ writable = true

/-- `ToolEndpoint(**fields)`. -/
def toolEndpoint (fields : Json) : ToolChecked ToolEndpoint := do
  let endpointId ← toolText (fields.get "endpoint_id") "endpoint.endpoint_id"
  let format := upper (strip (fields.get "format_kind").pyStr)
  let formatKind ← orRaise (ToolFormat.ofName format)
    (identityError s!"unsupported tool format: {format}")
  let nativeIdentity ← toolText (fields.get "native_identity") "endpoint.native_identity"
  let evidenceRef ← toolText (fields.get "evidence_ref") "endpoint.evidence_ref"
  .ok ⟨endpointId, formatKind, nativeIdentity, evidenceRef⟩

/-- `ToolCapabilityBinding(endpoint_id, candidate)`. -/
def toolCapabilityBinding (endpointId : Json) (candidate : CapabilityCandidate) :
    ToolChecked ToolCapabilityBinding := do
  let endpointId ← toolText endpointId "capability.endpoint_id"
  let h ← ensure (candidate.routeKind = .ownedTool)
    (identityError "ToolCapabilityBinding requires an OWNED_TOOL CapabilityCandidate")
  .ok ⟨endpointId, candidate, h.down⟩

/-- `ToolParameterBinding(**fields)`. -/
def toolParameterBinding (fields : Json) : ToolChecked ToolParameterBinding := do
  let endpointId ← toolText (fields.get "endpoint_id") "parameter.endpoint_id"
  let semanticKey ← toolText (fields.get "semantic_key") "parameter.semantic_key"
  let nativeRef ← toolText (fields.get "native_parameter_ref") "parameter.native_parameter_ref"
  let readable ← realBool (fields.get "readable") "parameter.readable"
  let writable ← realBool (fields.get "writable") "parameter.writable"
  let h ← ensure (readable = true ∨ writable = true)
    (identityError "parameter binding must be readable, writable, or both")
  let evidenceRef ← toolText (fields.get "evidence_ref") "parameter.evidence_ref"
  .ok ⟨endpointId, semanticKey, nativeRef, readable, writable, evidenceRef, h.down⟩

/-- `ToolStateBinding(**fields)`. -/
def toolStateBinding (fields : Json) : ToolChecked ToolStateBinding := do
  let endpointId ← toolText (fields.get "endpoint_id") "state.endpoint_id"
  let readable ← realBool (fields.get "readable") "state.readable"
  let writable ← realBool (fields.get "writable") "state.writable"
  let h ← ensure (readable = true ∨ writable = true)
    (identityError "state binding must be readable, writable, or both")
  let evidenceRef ← toolText (fields.get "evidence_ref") "state.evidence_ref"
  .ok ⟨endpointId, readable, writable, evidenceRef, h.down⟩

/-! ### Profiles -/

def ToolParameterBinding.sortKey (binding : ToolParameterBinding) : Lex (String × String) :=
  toLex (binding.semanticKey.val, binding.endpointId.val)

/-- `SemanticToolProfile`. -/
@[ext] structure SemanticToolProfile where
  toolId : Text
  displayName : Text
  endpoints : List ToolEndpoint
  /-- What can be done with the tool. -/
  capabilities : List ToolCapabilityBinding
  parameters : List ToolParameterBinding
  stateBindings : List ToolStateBinding
  endpoints_ne : endpoints ≠ []
  /-- No two endpoints have one id. -/
  endpoints_nodup : (endpoints.map ToolEndpoint.endpointId).Nodup
  /-- No two endpoints have one format and one name. -/
  natives_nodup :
    (endpoints.map fun item ↦ (item.formatKind, item.nativeIdentity)).Nodup
  endpoints_sorted : endpoints.Pairwise fun a b ↦ a.endpointId.val ≤ b.endpointId.val
  /-- No two candidates have one id. -/
  candidates_nodup : (capabilities.map fun item ↦ item.candidate.candidateId).Nodup
  capabilities_known : ∀ item ∈ capabilities, item.endpointId ∈ endpoints.map ToolEndpoint.endpointId
  capabilities_sorted :
    capabilities.Pairwise fun a b ↦ a.candidate.candidateId.val ≤ b.candidate.candidateId.val
  /-- A meaning is bound once at an endpoint. -/
  parameters_nodup : (parameters.map fun item ↦ (item.endpointId, item.semanticKey)).Nodup
  parameters_known : ∀ item ∈ parameters, item.endpointId ∈ endpoints.map ToolEndpoint.endpointId
  parameters_sorted : parameters.Pairwise fun a b ↦ a.sortKey ≤ b.sortKey
  /-- A state is bound once at an endpoint. -/
  states_nodup : (stateBindings.map ToolStateBinding.endpointId).Nodup
  states_known : ∀ item ∈ stateBindings, item.endpointId ∈ endpoints.map ToolEndpoint.endpointId
  states_sorted : stateBindings.Pairwise fun a b ↦ a.endpointId.val ≤ b.endpointId.val

section

variable {α κ : Type} [LinearOrder κ]

/-- `sorted(items, key=key)`. -/
def sortedBy (key : α → κ) (items : List α) : List α :=
  items.insertionSort fun a b ↦ key a ≤ key b

theorem perm_sortedBy (key : α → κ) (items : List α) : (sortedBy key items).Perm items :=
  List.perm_insertionSort _ _

theorem sortedBy_ne_nil (key : α → κ) {items : List α} (h : items ≠ []) : sortedBy key items ≠ [] :=
  fun hnil ↦ h (List.nil_perm.mp (hnil ▸ perm_sortedBy key items))

theorem pairwise_sortedBy (key : α → κ) (items : List α) :
    (sortedBy key items).Pairwise fun a b ↦ key a ≤ key b := by
  have htotal : Std.Total fun a b : α ↦ key a ≤ key b := ⟨fun a b ↦ le_total (key a) (key b)⟩
  have htrans : IsTrans α fun a b ↦ key a ≤ key b := ⟨fun _ _ _ h h' ↦ le_trans h h'⟩
  exact List.pairwise_insertionSort _ _

theorem sortedBy_eq_self {key : α → κ} {items : List α}
    (h : items.Pairwise fun a b ↦ key a ≤ key b) : sortedBy key items = items :=
  List.Pairwise.insertionSort_eq h

theorem nodup_map_sortedBy {β : Type} {f : α → β} {items : List α} (key : α → κ)
    (h : (items.map f).Nodup) : ((sortedBy key items).map f).Nodup :=
  (((perm_sortedBy key items).map f).nodup_iff).mpr h

theorem mem_map_sortedBy {β : Type} {f : α → β} {items : List α} (key : α → κ) {b : β} :
    b ∈ (sortedBy key items).map f ↔ b ∈ items.map f :=
  ((perm_sortedBy key items).map f).mem_iff

end

/-- `SemanticToolProfile(…)`. -/
def semanticToolProfile (toolId displayName : Json) (endpoints : List ToolEndpoint)
    (capabilities : List ToolCapabilityBinding) (parameters : List ToolParameterBinding)
    (stateBindings : List ToolStateBinding) : ToolChecked SemanticToolProfile := do
  let toolId ← toolText toolId "tool.tool_id"
  let displayName ← toolText displayName "tool.display_name"
  let known := endpoints.map ToolEndpoint.endpointId
  let hne ← ensure (endpoints ≠ [])
    (identityError "tool.endpoints must contain at least one endpoint")
  let hids ← ensure (endpoints.map ToolEndpoint.endpointId).Nodup
    (identityError "tool endpoint_id values must be unique")
  let hnatives ← ensure (endpoints.map fun item ↦ (item.formatKind, item.nativeIdentity)).Nodup
    (identityError "tool format/native_identity endpoint pairs must be unique")
  let hcandidates ← ensure (capabilities.map fun item ↦ item.candidate.candidateId).Nodup
    (identityError "tool capability candidate IDs must be unique")
  let hcapabilities ← ensureEach (fun item ↦ item.endpointId ∈ known) (fun item ↦ identityError
    s!"capability binding references unknown endpoint: {item.endpointId.val}") capabilities
  let hparameters ← ensure (parameters.map fun item ↦ (item.endpointId, item.semanticKey)).Nodup
    (identityError "semantic parameter key may bind only once per endpoint")
  let hplaces ← ensureEach (fun item ↦ item.endpointId ∈ known) (fun item ↦ identityError
    s!"parameter binding references unknown endpoint: {item.endpointId.val}") parameters
  let hstates ← ensure (stateBindings.map ToolStateBinding.endpointId).Nodup
    (identityError "tool state may bind only once per endpoint")
  let hstatePlaces ← ensureEach (fun item ↦ item.endpointId ∈ known) (fun item ↦ identityError
    s!"state binding references unknown endpoint: {item.endpointId.val}") stateBindings
  .ok {
    toolId := toolId
    displayName := displayName
    endpoints := sortedBy (fun item ↦ item.endpointId.val) endpoints
    capabilities := sortedBy (fun item ↦ item.candidate.candidateId.val) capabilities
    parameters := sortedBy ToolParameterBinding.sortKey parameters
    stateBindings := sortedBy (fun item ↦ item.endpointId.val) stateBindings
    endpoints_ne := sortedBy_ne_nil _ hne.down
    endpoints_nodup := nodup_map_sortedBy _ hids.down
    natives_nodup := nodup_map_sortedBy _ hnatives.down
    endpoints_sorted := pairwise_sortedBy _ _
    candidates_nodup := nodup_map_sortedBy _ hcandidates.down
    capabilities_known := fun item hitem ↦ (mem_map_sortedBy _).mpr
      (hcapabilities.down item ((perm_sortedBy _ _).mem_iff.mp hitem))
    capabilities_sorted := pairwise_sortedBy _ _
    parameters_nodup := nodup_map_sortedBy _ hparameters.down
    parameters_known := fun item hitem ↦ (mem_map_sortedBy _).mpr
      (hplaces.down item ((perm_sortedBy _ _).mem_iff.mp hitem))
    parameters_sorted := pairwise_sortedBy _ _
    states_nodup := nodup_map_sortedBy _ hstates.down
    states_known := fun item hitem ↦ (mem_map_sortedBy _).mpr
      (hstatePlaces.down item ((perm_sortedBy _ _).mem_iff.mp hitem))
    states_sorted := pairwise_sortedBy _ _ }

/-- What a profile is made of makes the profile. -/
theorem semanticToolProfile_self (profile : SemanticToolProfile) :
    semanticToolProfile (.str profile.toolId.val) (.str profile.displayName.val) profile.endpoints
      profile.capabilities profile.parameters profile.stateBindings = .ok profile := by
  simp only [semanticToolProfile, bind_eq_ok]
  refine ⟨_, toolText_val _ _, _, toolText_val _ _, _, ensure_of profile.endpoints_ne,
    _, ensure_of profile.endpoints_nodup, _, ensure_of profile.natives_nodup,
    _, ensure_of profile.candidates_nodup, _, ensureEach_of profile.capabilities_known,
    _, ensure_of profile.parameters_nodup, _, ensureEach_of profile.parameters_known,
    _, ensure_of profile.states_nodup, _, ensureEach_of profile.states_known, ?_⟩
  rw [Except.ok.injEq]
  ext1
  · rfl
  · rfl
  · exact sortedBy_eq_self profile.endpoints_sorted
  · exact sortedBy_eq_self profile.capabilities_sorted
  · exact sortedBy_eq_self profile.parameters_sorted
  · exact sortedBy_eq_self profile.states_sorted

/-! ### JSON -/

/-- An endpoint in `_profile_payload`. -/
def ToolEndpoint.json (item : ToolEndpoint) : Json :=
  .obj [("endpoint_id", .str item.endpointId.val), ("format_kind", .str item.formatKind.name),
    ("native_identity", .str item.nativeIdentity.val), ("evidence_ref", .str item.evidenceRef.val)]

/-- A capability in `_profile_payload`. -/
def ToolCapabilityBinding.json (item : ToolCapabilityBinding) : Json :=
  .obj [("endpoint_id", .str item.endpointId.val), ("candidate", .obj item.candidate.fields)]

/-- A parameter in `_profile_payload`. -/
def ToolParameterBinding.json (item : ToolParameterBinding) : Json :=
  .obj [("endpoint_id", .str item.endpointId.val), ("semantic_key", .str item.semanticKey.val),
    ("native_parameter_ref", .str item.nativeParameterRef.val), ("readable", .bool item.readable),
    ("writable", .bool item.writable), ("evidence_ref", .str item.evidenceRef.val)]

/-- A state in `_profile_payload`. -/
def ToolStateBinding.json (item : ToolStateBinding) : Json :=
  .obj [("endpoint_id", .str item.endpointId.val), ("readable", .bool item.readable),
    ("writable", .bool item.writable), ("evidence_ref", .str item.evidenceRef.val)]

/-- `_profile_payload`. -/
def SemanticToolProfile.json (profile : SemanticToolProfile) : Json :=
  .obj [("tool_id", .str profile.toolId.val), ("display_name", .str profile.displayName.val),
    ("endpoints", .arr (profile.endpoints.map ToolEndpoint.json)),
    ("capabilities", .arr (profile.capabilities.map ToolCapabilityBinding.json)),
    ("parameters", .arr (profile.parameters.map ToolParameterBinding.json)),
    ("state_bindings", .arr (profile.stateBindings.map ToolStateBinding.json))]

/-- `_exact_keys`. -/
def exactKeys (value : Json) (expected : List String) (field : String) : ToolChecked Unit :=
  require (value.HasKeys expected) ⟨.valueError, s!"{field} shape is invalid"⟩

def arrayItems : Json → ToolChecked (List Json)
  | .arr items => .ok items
  | _ => .error ⟨.valueError, "tool profile collections must be arrays"⟩

def endpointKeys : List String := ["endpoint_id", "format_kind", "native_identity", "evidence_ref"]

/-- The keys of a candidate. -/
def candidateFields : List String :=
  ["candidate_id", "route_kind", "capability", "display_name", "brand", "verified", "compatible",
    "evidence_ref", "evidence_age_seconds", "task_fit", "editability", "locality", "privacy",
    "latency", "reversibility", "cost_efficiency", "portability", "user_preference", "paid"]

def parameterKeys : List String :=
  ["endpoint_id", "semantic_key", "native_parameter_ref", "readable", "writable", "evidence_ref"]

def stateKeys : List String := ["endpoint_id", "readable", "writable", "evidence_ref"]

def profileKeys : List String :=
  ["tool_id", "display_name", "endpoints", "capabilities", "parameters", "state_bindings"]

/-- An endpoint of `_profile_from_json`. -/
def endpointFromJson (item : Json) : ToolChecked ToolEndpoint := do
  exactKeys item endpointKeys "endpoint"
  toolEndpoint item

/-- A capability of `_profile_from_json`. -/
def capabilityFromJson (item : Json) : ToolChecked ToolCapabilityBinding := do
  exactKeys item ["endpoint_id", "candidate"] "capability"
  exactKeys (item.get "candidate") candidateFields "candidate"
  let candidate ← capabilityCandidate (item.get "candidate")
  toolCapabilityBinding (item.get "endpoint_id") candidate

/-- A parameter of `_profile_from_json`. -/
def parameterFromJson (item : Json) : ToolChecked ToolParameterBinding := do
  exactKeys item parameterKeys "parameter"
  toolParameterBinding item

/-- A state of `_profile_from_json`. -/
def stateFromJson (item : Json) : ToolChecked ToolStateBinding := do
  exactKeys item stateKeys "state binding"
  toolStateBinding item

/-- `_profile_from_json`. -/
def profileFromJson (raw : Json) : ToolChecked SemanticToolProfile := do
  exactKeys raw profileKeys "profile"
  let endpoints ← arrayItems (raw.get "endpoints")
  let capabilities ← arrayItems (raw.get "capabilities")
  let parameters ← arrayItems (raw.get "parameters")
  let stateBindings ← arrayItems (raw.get "state_bindings")
  let endpoints ← checkEach (fun _ ↦ endpointFromJson) 0 endpoints
  let capabilities ← checkEach (fun _ ↦ capabilityFromJson) 0 capabilities
  let parameters ← checkEach (fun _ ↦ parameterFromJson) 0 parameters
  let stateBindings ← checkEach (fun _ ↦ stateFromJson) 0 stateBindings
  let profile ← semanticToolProfile (raw.get "tool_id") (raw.get "display_name") endpoints
    capabilities parameters stateBindings
  require (profile.json.canonical = raw) ⟨.valueError, "tool profile JSON is not canonical"⟩
  .ok profile

/-! ### Reading back -/

theorem exactKeys_canonical {fields : List (String × Json)} {expected : List String}
    (h : fields.map Prod.fst = expected) (field : String) :
    exactKeys (Json.obj fields).canonical expected field = .ok ⟨⟩ := by
  rw [exactKeys, require_eq_ok, Json.hasKeys_canonical, ← h]
  exact Json.hasKeys_obj fields

section

variable {fields : List (String × Json)}

theorem toolText_canonical (key field : String) {text : Text}
    (h : (Json.obj fields).get key = .str text.val) :
    toolText ((Json.obj fields).canonical.get key) field = .ok text := by
  rw [Json.get_canonical_obj key h, Json.canonical_str]
  exact toolText_val text field

theorem realBool_canonical (key field : String) {b : Bool}
    (h : (Json.obj fields).get key = .bool b) :
    realBool ((Json.obj fields).canonical.get key) field = .ok b := by
  rw [Json.get_canonical_obj key h]
  rfl

end

theorem endpointFromJson_json (item : ToolEndpoint) :
    endpointFromJson item.json.canonical = .ok item := by
  have hformat : (item.json.canonical.get "format_kind") = .str item.formatKind.name :=
    Json.get_canonical_obj "format_kind" rfl
  simp only [endpointFromJson, toolEndpoint, bind_eq_ok, orRaise_eq_ok]
  refine ⟨⟨⟩, exactKeys_canonical rfl _, item.endpointId, toolText_canonical _ _ rfl,
    item.formatKind, ?_, item.nativeIdentity, toolText_canonical _ _ rfl,
    item.evidenceRef, toolText_canonical _ _ rfl, rfl⟩
  rw [hformat]
  exact item.formatKind.ofName_name

theorem capabilityFromJson_json (item : ToolCapabilityBinding) :
    capabilityFromJson item.json.canonical = .ok item := by
  have hcandidate : item.json.canonical.get "candidate" =
      (Json.obj item.candidate.fields).canonical := Json.get_canonical_obj "candidate" rfl
  simp only [capabilityFromJson, toolCapabilityBinding, bind_eq_ok, hcandidate]
  exact ⟨⟨⟩, exactKeys_canonical rfl _, ⟨⟩, exactKeys_canonical rfl _,
    item.candidate, capabilityCandidate_fields _, item.endpointId, toolText_canonical _ _ rfl,
    _, ensure_of item.owned, rfl⟩

theorem parameterFromJson_json (item : ToolParameterBinding) :
    parameterFromJson item.json.canonical = .ok item := by
  simp only [parameterFromJson, toolParameterBinding, bind_eq_ok]
  exact ⟨⟨⟩, exactKeys_canonical rfl _, item.endpointId, toolText_canonical _ _ rfl,
    item.semanticKey, toolText_canonical _ _ rfl, item.nativeParameterRef,
    toolText_canonical _ _ rfl, item.readable, realBool_canonical _ _ rfl,
    item.writable, realBool_canonical _ _ rfl, _, ensure_of item.usable,
    item.evidenceRef, toolText_canonical _ _ rfl, rfl⟩

theorem stateFromJson_json (item : ToolStateBinding) :
    stateFromJson item.json.canonical = .ok item := by
  simp only [stateFromJson, toolStateBinding, bind_eq_ok]
  exact ⟨⟨⟩, exactKeys_canonical rfl _, item.endpointId, toolText_canonical _ _ rfl,
    item.readable, realBool_canonical _ _ rfl, item.writable, realBool_canonical _ _ rfl,
    _, ensure_of item.usable, item.evidenceRef, toolText_canonical _ _ rfl, rfl⟩

/-- The items of a stored array read back as what they were written from. -/
theorem checkEach_canonical {α : Type} {read : Json → ToolChecked α} {write : α → Json}
    (h : ∀ item, read (write item).canonical = .ok item) (items : List α) :
    checkEach (fun _ ↦ read) 0 ((items.map write).map Json.canonical) = .ok items := by
  rw [List.map_map]
  exact checkEach_map h 0 items

/-- A profile is stored and reads back as itself. -/
theorem profileFromJson_json (profile : SemanticToolProfile) :
    profileFromJson profile.json.canonical = .ok profile := by
  have hitems : ∀ (key : String) (items : List Json), profile.json.get key = .arr items →
      arrayItems (profile.json.canonical.get key) = .ok (items.map Json.canonical) := by
    intro key items h
    rw [Json.get_canonical, h, Json.canonical_arr]
    rfl
  have htool : profile.json.canonical.get "tool_id" = .str profile.toolId.val :=
    Json.get_canonical_obj "tool_id" rfl
  have hname : profile.json.canonical.get "display_name" = .str profile.displayName.val :=
    Json.get_canonical_obj "display_name" rfl
  simp only [profileFromJson, bind_eq_ok, require_eq_ok, htool, hname]
  exact ⟨⟨⟩, exactKeys_canonical rfl _, _, hitems "endpoints" _ rfl, _, hitems "capabilities" _ rfl,
    _, hitems "parameters" _ rfl, _, hitems "state_bindings" _ rfl,
    _, checkEach_canonical endpointFromJson_json _, _, checkEach_canonical capabilityFromJson_json _,
    _, checkEach_canonical parameterFromJson_json _, _, checkEach_canonical stateFromJson_json _,
    profile, semanticToolProfile_self profile, ⟨⟩, rfl, rfl⟩

end N0te.Tools
