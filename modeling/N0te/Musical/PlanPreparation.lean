import N0te.Library.Checking
import N0te.Library.Inputs
import N0te.Musical.MusicalPlan

/-!
# The preparation of musical plans

`prepare` makes a plan of the exact focus of a workspace and of what the artist asks for. The texts
of a focus are stripped, those of a plan collapsed. Every text of a plan is one that collapsing
leaves as it is, so a plan that is built again from its fields is the same plan (`create_rebuild`).

`prepared_plan_current` says when a prepared plan is current later on: while the workspace is
observed as it was, and the focus has the ids of the plan and its exact targets. It is stated for a
focus whose ids and targets have single spaces, as `NormalizedFocus` says.
-/

set_option autoImplicit false
set_option relaxedAutoImplicit false

namespace N0te.Musical

open Library Governance

/-! ### Errors -/

/-- The exception classes of the preparation of plans. -/
inductive PlanErrorClass where
  | focusError
  | musicalPlanError
  /-- An exception of the validation of plans. -/
  | validation (cls : ErrorClass)
  deriving DecidableEq

/-- A result or an exception. -/
abbrev Prepared (α : Type) := Except (Raised PlanErrorClass) α

/-- A `FocusError`. -/
def focusError (message : String) : Raised PlanErrorClass := ⟨.focusError, message⟩

/-- A `MusicalPlanError`. -/
def musicalPlanError (message : String) : Raised PlanErrorClass := ⟨.musicalPlanError, message⟩

/-- An exception of the validation, as it passes through. -/
def ofValidation (e : Raised ErrorClass) : Raised PlanErrorClass := ⟨.validation e.cls, e.text⟩

/-! ### Focus -/

/-- `FOCUS_DIMENSIONS`. -/
def focusDimensions : List Dimension := [.track, .clipRegion, .timeRange, .midiNotes, .devicePlugin,
  .automation, .playhead, .activeEditor, .songSection]

def FocusState.name : FocusState → String
  | observedExact => "OBSERVED_EXACT"
  | observedAmbiguous => "OBSERVED_AMBIGUOUS"
  | inferred => "INFERRED"
  | unknown => "UNKNOWN"

/-- `FOCUS_STATES`. -/
def focusStates : List FocusState := [.observedExact, .observedAmbiguous, .inferred, .unknown]

/-- `_text` of the focus. -/
def focusText (value field : String) : Prepared Text :=
  orRaise (Text.ofString value) (focusError (field ++ " must not be empty"))

/-- `_dimension`. -/
def focusDimension (value : String) : Prepared Dimension := do
  let text ← focusText value "dimension"
  let name := underscored (upper text.val)
  orRaise (focusDimensions.find? fun dimension ↦ dimension.name = name)
    (focusError ("unsupported focus dimension: " ++ name))

/-- `_state`. -/
def focusState (value : String) : Prepared FocusState := do
  let text ← focusText value "state"
  let name := underscored (upper text.val)
  orRaise (focusStates.find? fun state ↦ state.name = name)
    (focusError ("unsupported focus state: " ++ name))

/-- How many references a dimension has in a state. -/
def RefsFit (dimension : Dimension) (state : FocusState) (refs : List Text) : Prop :=
  match state with
  | .unknown => refs = []
  | .observedAmbiguous => 2 ≤ refs.length
  | .inferred => refs ≠ []
  | .observedExact => refs ≠ [] ∧ (dimension ≠ .midiNotes → refs.length = 1)

instance (dimension : Dimension) (state : FocusState) (refs : List Text) :
    Decidable (RefsFit dimension state refs) := by
  unfold RefsFit
  cases state <;> infer_instance

/-- What is raised for references that do not fit. -/
def refsMessage (dimension : Dimension) (state : FocusState) (refs : List Text) : String :=
  match state with
  | .unknown => "UNKNOWN focus must not carry candidate refs"
  | .observedAmbiguous => "OBSERVED_AMBIGUOUS focus requires at least two candidate refs"
  | .inferred => "INFERRED focus requires at least one ref"
  | .observedExact =>
    if refs = [] then "OBSERVED_EXACT focus requires at least one ref"
    else dimension.name ++ " exact focus requires exactly one ref"

/-- `FocusDimension`, with the evidence it was observed with. -/
structure EvidencedDimension extends FocusDimension where
  evidenceRef : Text
  refsUnique : refs.Nodup
  refsFit : RefsFit dimension state refs

/-- `FocusDimension.__post_init__`. -/
def EvidencedDimension.create (dimension state : String) (refs : List String)
    (evidenceRef : String) : Prepared EvidencedDimension := do
  let dimension ← focusDimension dimension
  let state ← focusState state
  let refs ← checkEach (fun _ ref ↦ focusText ref "focus ref") 0 refs
  let hunique ← ensure refs.Nodup (focusError "focus refs must be unique")
  let evidenceRef ← focusText evidenceRef "evidence_ref"
  let hfit ← ensure (RefsFit dimension state refs) (focusError (refsMessage dimension state refs))
  return { dimension, state, refs, evidenceRef, refsUnique := hunique.down, refsFit := hfit.down }

/-- `FocusContext`, with the evidence it was observed with. -/
structure EvidencedFocus where
  workspaceId : Text
  songId : Text
  workspaceObservationId : Text
  hostRuntimeFingerprint : Text
  observationEvidenceRef : Text
  dimensions : List EvidencedDimension
  dimensionsUnique : (dimensions.map fun item ↦ item.dimension).Nodup

/-- `FocusContext.__post_init__`. -/
def EvidencedFocus.create (workspaceId songId workspaceObservationId hostRuntimeFingerprint
    observationEvidenceRef : String) (dimensions : List EvidencedDimension) :
    Prepared EvidencedFocus := do
  let workspaceId ← focusText workspaceId "workspace_id"
  let songId ← focusText songId "song_id"
  let workspaceObservationId ← focusText workspaceObservationId "workspace_observation_id"
  let hostRuntimeFingerprint ← focusText hostRuntimeFingerprint "host_runtime_fingerprint"
  let observationEvidenceRef ← focusText observationEvidenceRef "observation_evidence_ref"
  let hunique ← ensure (dimensions.map fun item ↦ item.dimension).Nodup
    (focusError "FocusContext may contain each dimension at most once")
  return {
    workspaceId
    songId
    workspaceObservationId
    hostRuntimeFingerprint
    observationEvidenceRef
    dimensions
    dimensionsUnique := hunique.down }

def EvidencedFocus.context (focus : EvidencedFocus) : FocusContext where
  workspaceId := focus.workspaceId
  songId := focus.songId
  workspaceObservationId := focus.workspaceObservationId
  hostRuntimeFingerprint := focus.hostRuntimeFingerprint
  dimensions := focus.dimensions.map EvidencedDimension.toFocusDimension
  dimensionsUnique := by
    rw [List.map_map]
    exact focus.dimensionsUnique

/-- `FocusContext.get`. -/
def EvidencedFocus.get (focus : EvidencedFocus) (dimension : Dimension) :
    Option EvidencedDimension :=
  focus.dimensions.find? fun item ↦ item.dimension = dimension

/-- Why a dimension is not exact. -/
def EvidencedFocus.unsafeReason (focus : EvidencedFocus) (dimension : Dimension) : Option String :=
  match focus.get dimension with
  | none => some "UNKNOWN"
  | some item => if item.state = .observedExact then none else some item.state.name

/-- The sorted reasons that dimensions are not exact for. -/
def sortedReasons : List String := ["INFERRED", "OBSERVED_AMBIGUOUS", "UNKNOWN"]

/-- `require_exact`. -/
def requireExact (scene : Scene) (focus : EvidencedFocus) (requested : List Dimension) :
    Prepared (List EvidencedDimension) := do
  (validateFocus scene focus.context).mapError ofValidation
  require (requested ≠ []) (focusError "require_exact requires at least one focus dimension")
  require requested.Nodup (focusError "required focus dimensions must be unique")
  let reasons := requested.filterMap focus.unsafeReason
  require (reasons = []) (ofValidation (focusUncertain
    ("UNSAFE_TARGET_" ++ "_".intercalate (sortedReasons.filter fun reason ↦ reason ∈ reasons))
    ((requested.filter fun dimension ↦ (focus.unsafeReason dimension).isSome).map Dimension.name)))
  return requested.filterMap focus.get

/-! ### Plans -/

/-- `_text` of the plans. -/
def planText (value field : String) : Prepared Line :=
  orRaise (Line.ofString value) (musicalPlanError (field ++ " must not be empty"))

/-- `_text_tuple`. -/
def textTuple (values : List String) (field : String) (allowEmpty : Bool) :
    Prepared (List Line) := do
  let normalized ← checkEach (fun _ value ↦ planText value field) 0 values
  require (allowEmpty = true ∨ normalized ≠ []) (musicalPlanError (field ++ " must not be empty"))
  require normalized.Nodup (musicalPlanError (field ++ " must not contain duplicates"))
  return normalized

/-- `_focus_dimension`. -/
def planDimension (value : String) : Prepared Dimension := do
  let text ← planText value "dimension"
  let name := underscored (upper text.val)
  orRaise (focusDimensions.find? fun dimension ↦ dimension.name = name)
    (musicalPlanError ("unsupported focus dimension: " ++ name))

/-- `MusicalPlanService._dimensions`. -/
def planDimensions (values : List String) : Prepared (List Dimension) := do
  let dimensions ← checkEach (fun _ ↦ planDimension) 0 values
  require (dimensions ≠ []) (musicalPlanError "required_dimensions must not be empty")
  require dimensions.Nodup (musicalPlanError "required_dimensions must not contain duplicates")
  return dimensions

/-- `MusicalTarget.__post_init__`, for the name of a dimension. -/
def MusicalTarget.create (dimension : Dimension) (refs : List String) : Prepared MusicalTarget := do
  let refs ← textTuple refs "target.refs" false
  let hnonempty ← ensure (refs ≠ []) (musicalPlanError "target.refs must not be empty")
  let hunique ← ensure refs.Nodup (musicalPlanError "target.refs must not contain duplicates")
  return { dimension, refs, nonempty := hnonempty.down, refsUnique := hunique.down }

/-- The arguments of `MusicalPlan`. -/
structure PlanFields where
  planId : String
  songId : String
  workspaceId : String
  workspaceObservationId : String
  hostRuntimeFingerprint : String
  artistIntent : String
  targets : List MusicalTarget
  sectionRef : Option String
  constraints : List String
  lockedElementRefs : List String
  editableElementRefs : List String
  desiredChange : String
  verificationRefs : List String
  provenanceRefs : List String

/-- `_optional_text`. -/
def optionalPlanText (value : Option String) (field : String) : Prepared (Option Line) :=
  match value with
  | none => return none
  | some text => some <$> planText text field

/-- The section of a plan is its exact section target, if it has one. -/
def SectionFits (targets : List MusicalTarget) (sectionRef : Option Line) : Prop :=
  (targets.filter fun target ↦ target.dimension = .songSection).map MusicalTarget.refs =
    sectionRef.toList.map fun ref ↦ [ref]

instance (targets : List MusicalTarget) (sectionRef : Option Line) :
    Decidable (SectionFits targets sectionRef) :=
  inferInstanceAs (Decidable (_ = _))

/-- `MusicalPlan.__post_init__`. -/
def MusicalPlan.create (fields : PlanFields) : Prepared MusicalPlan := do
  let planId ← planText fields.planId "plan_id"
  let songId ← planText fields.songId "song_id"
  let workspaceId ← planText fields.workspaceId "workspace_id"
  let workspaceObservationId ← planText fields.workspaceObservationId "workspace_observation_id"
  let hostRuntimeFingerprint ← planText fields.hostRuntimeFingerprint "host_runtime_fingerprint"
  let artistIntent ← planText fields.artistIntent "artist_intent"
  let desiredChange ← planText fields.desiredChange "desired_change"
  let htargeted ← ensure (fields.targets ≠ [])
    (musicalPlanError "targets must contain at least one MusicalTarget")
  let hunique ← ensure (fields.targets.map MusicalTarget.dimension).Nodup
    (musicalPlanError "targets must not repeat a focus dimension")
  let sectionRef ← optionalPlanText fields.sectionRef "section_ref"
  let hsection ← ensure (SectionFits fields.targets sectionRef)
    (musicalPlanError (if sectionRef = none then "SONG_SECTION target requires section_ref"
      else "section_ref must equal the exact SONG_SECTION target"))
  let constraints ← textTuple fields.constraints "constraints" true
  let lockedElementRefs ← textTuple fields.lockedElementRefs "locked_element_refs" true
  let editableElementRefs ← textTuple fields.editableElementRefs "editable_element_refs" true
  let hdisjoint ← ensure (∀ ref ∈ lockedElementRefs, ref ∉ editableElementRefs)
    (musicalPlanError "an element cannot be both locked and editable")
  let verificationRefs ← textTuple fields.verificationRefs "verification_refs" false
  let provenanceRefs ← textTuple fields.provenanceRefs "provenance_refs" false
  return {
    planId
    songId
    workspaceId
    workspaceObservationId
    hostRuntimeFingerprint
    artistIntent
    targets := fields.targets
    sectionRef
    constraints
    lockedElementRefs
    editableElementRefs
    desiredChange
    verificationRefs
    provenanceRefs
    targeted := htargeted.down
    targetsUnique := hunique.down
    sectionTarget := hsection.down
    disjoint := hdisjoint.down }

def MusicalPlan.fields (plan : MusicalPlan) : PlanFields where
  planId := plan.planId.val
  songId := plan.songId.val
  workspaceId := plan.workspaceId.val
  workspaceObservationId := plan.workspaceObservationId.val
  hostRuntimeFingerprint := plan.hostRuntimeFingerprint.val
  artistIntent := plan.artistIntent.val
  targets := plan.targets
  sectionRef := plan.sectionRef.map Line.val
  constraints := plan.constraints.map Line.val
  lockedElementRefs := plan.lockedElementRefs.map Line.val
  editableElementRefs := plan.editableElementRefs.map Line.val
  desiredChange := plan.desiredChange.val
  verificationRefs := plan.verificationRefs.map Line.val
  provenanceRefs := plan.provenanceRefs.map Line.val

/-! ### Preparation -/

/-- What the artist asks for. -/
structure PlanRequest where
  artistIntent : String
  requiredDimensions : List String
  desiredChange : String
  constraints : List String
  lockedElementRefs : List String
  editableElementRefs : List String
  verificationRefs : List String
  provenanceRefs : List String
  planId : Option String

/-- The id that is asked for, unless it is empty. -/
def PlanRequest.idOr (request : PlanRequest) (newId : String) : String :=
  match request.planId with
  | some planId => if planId = "" then newId else planId
  | none => newId

/-- `MusicalPlanService.prepare`. -/
def preparePlan (scene : Scene) (focus : EvidencedFocus) (request : PlanRequest) (newId : String) :
    Prepared MusicalPlan := do
  let dimensions ← planDimensions request.requiredDimensions
  (validateFocus scene focus.context).mapError ofValidation
  let exact ← requireExact scene focus dimensions
  let targets ← checkEach (fun _ item ↦
    MusicalTarget.create item.dimension (item.refs.map Text.val)) 0 exact
  let sectionTarget := targets.find? fun target ↦ target.dimension = .songSection
  let constraints ← textTuple request.constraints "constraints" true
  let locked ← textTuple request.lockedElementRefs "locked_element_refs" true
  let editable ← textTuple request.editableElementRefs "editable_element_refs" true
  let verification ← textTuple request.verificationRefs "verification_refs" false
  let automatic := focus.observationEvidenceRef.val :: exact.map fun item ↦ item.evidenceRef.val
  let supplied ← textTuple request.provenanceRefs "provenance_refs" true
  MusicalPlan.create {
    planId := request.idOr newId
    songId := focus.songId.val
    workspaceId := focus.workspaceId.val
    workspaceObservationId := focus.workspaceObservationId.val
    hostRuntimeFingerprint := focus.hostRuntimeFingerprint.val
    artistIntent := request.artistIntent
    targets
    sectionRef := sectionTarget.bind fun target ↦ target.refs.head?.map Line.val
    constraints := constraints.map Line.val
    lockedElementRefs := locked.map Line.val
    editableElementRefs := editable.map Line.val
    desiredChange := request.desiredChange
    verificationRefs := verification.map Line.val
    provenanceRefs := keepFirst (automatic ++ supplied.map Line.val) }

/-! ### Fixpoints of normalization -/

theorem planText_eq_ok {value field : String} {line : Line} :
    planText value field = .ok line ↔ collapse value = line.val ∧ collapse value ≠ "" := by
  rw [planText, orRaise_eq_ok, Line.ofString_eq_some]

/-- A normalized text passes unchanged. -/
theorem planText_val (line : Line) (field : String) : planText line.val field = .ok line := by
  rw [planText_eq_ok, line.collapsed]
  exact ⟨rfl, line.nonempty⟩

theorem textTuple_eq_ok {values : List String} {field : String} {allowEmpty : Bool}
    {lines : List Line} (h : textTuple values field allowEmpty = .ok lines) :
    checkEach (fun _ value ↦ planText value field) 0 values = .ok lines ∧
      (allowEmpty = true ∨ lines ≠ []) ∧ lines.Nodup := by
  simp only [textTuple, bind_eq_ok, require_eq_ok, pure_eq_ok] at h
  obtain ⟨lines, hlines, _, hempty, _, hnodup, rfl⟩ := h
  exact ⟨hlines, hempty, hnodup⟩

/-- Normalized texts pass unchanged. -/
theorem textTuple_val {lines : List Line} {allowEmpty : Bool}
    (hempty : allowEmpty = true ∨ lines ≠ []) (hnodup : lines.Nodup) (field : String) :
    textTuple (lines.map Line.val) field allowEmpty = .ok lines := by
  simp only [textTuple, bind_eq_ok, require_eq_ok, pure_eq_ok]
  exact ⟨lines, checkEach_map (fun line ↦ planText_val line field) 0 lines, (), hempty, (), hnodup,
    rfl⟩

theorem optionalPlanText_val (line : Option Line) (field : String) :
    optionalPlanText (line.map Line.val) field = .ok line := by
  cases line with
  | none => rfl
  | some line =>
    simp only [optionalPlanText, Option.map_some, map_eq_ok]
    exact ⟨line, planText_val line field, rfl⟩

/-- A plan that is built again from its fields is the same plan. -/
theorem create_rebuild {fields : PlanFields} {plan : MusicalPlan}
    (h : MusicalPlan.create fields = .ok plan) : MusicalPlan.create plan.fields = .ok plan := by
  simp only [MusicalPlan.create, bind_eq_ok, pure_eq_ok] at h
  obtain ⟨planId, -, songId, -, workspaceId, -, observationId, -, runtime, -, intent, -, change, -,
    htargeted, -, hunique, -, sectionRef, -, hsection, -, constraints, hconstraints, locked,
    hlocked, editable, heditable, hdisjoint, -, verification, hverification, provenance,
    hprovenance, rfl⟩ := h
  simp only [MusicalPlan.create, MusicalPlan.fields, planText_val, optionalPlanText_val,
    textTuple_val (textTuple_eq_ok hconstraints).2.1 (textTuple_eq_ok hconstraints).2.2,
    textTuple_val (textTuple_eq_ok hlocked).2.1 (textTuple_eq_ok hlocked).2.2,
    textTuple_val (textTuple_eq_ok heditable).2.1 (textTuple_eq_ok heditable).2.2,
    textTuple_val (textTuple_eq_ok hverification).2.1 (textTuple_eq_ok hverification).2.2,
    textTuple_val (textTuple_eq_ok hprovenance).2.1 (textTuple_eq_ok hprovenance).2.2,
    bind_eq_ok, pure_eq_ok, Except.ok.injEq, exists_eq_left']
  exact ⟨_, ensure_of htargeted.down, _, ensure_of hunique.down, _, ensure_of hsection.down, _,
    ensure_of hdisjoint.down, trivial⟩

/-! ### Prepared plans -/

theorem ids_of_create {fields : PlanFields} {plan : MusicalPlan}
    (h : MusicalPlan.create fields = .ok plan) :
    (plan.songId.val = collapse fields.songId ∧ plan.workspaceId.val = collapse fields.workspaceId ∧
      plan.workspaceObservationId.val = collapse fields.workspaceObservationId ∧
      plan.hostRuntimeFingerprint.val = collapse fields.hostRuntimeFingerprint) ∧
      plan.targets = fields.targets := by
  simp only [MusicalPlan.create, bind_eq_ok, pure_eq_ok, planText_eq_ok] at h
  obtain ⟨planId, -, songId, hsong, workspaceId, hworkspace, observationId, hobservation, runtime,
    hruntime, intent, -, change, -, htargeted, -, hunique, -, sectionRef, -, hsection, -,
    constraints, -, locked, -, editable, -, hdisjoint, -, verification, -, provenance, -, rfl⟩ := h
  exact ⟨⟨hsong.1.symm, hworkspace.1.symm, hobservation.1.symm, hruntime.1.symm⟩, rfl⟩

theorem requireExact_eq_ok {scene : Scene} {focus : EvidencedFocus} {requested : List Dimension}
    {exact : List EvidencedDimension} (h : requireExact scene focus requested = .ok exact) :
    ∀ item ∈ exact, focus.get item.dimension = some item ∧ item.state = .observedExact := by
  simp only [requireExact, bind_eq_ok, require_eq_ok, pure_eq_ok, List.filterMap_eq_nil_iff] at h
  obtain ⟨_, -, _, -, _, -, _, hreasons, rfl⟩ := h
  intro item hitem
  obtain ⟨dimension, hdimension, hget⟩ := List.mem_filterMap.mp hitem
  have hname : item.dimension = dimension := by simpa using List.find?_some hget
  have hreason := hreasons dimension hdimension
  rw [EvidencedFocus.unsafeReason, hget] at hreason
  rw [hname]
  exact ⟨hget, by simpa using hreason⟩

theorem map_val_of_texts {values : List String} {field : String} {n : ℕ} {lines : List Line}
    (h : checkEach (fun _ value ↦ planText value field) n values = .ok lines) :
    lines.map Line.val = values.map collapse := by
  induction values generalizing n lines with
  | nil =>
    cases h
    rfl
  | cons value rest ih =>
    simp only [checkEach, bind_eq_ok, pure_eq_ok, planText_eq_ok] at h
    obtain ⟨line, ⟨hline, -⟩, others, hothers, rfl⟩ := h
    rw [List.map_cons, List.map_cons, ih hothers, hline]

theorem target_of_create {dimension : Dimension} {refs : List String} {target : MusicalTarget}
    (h : MusicalTarget.create dimension refs = .ok target) :
    target.dimension = dimension ∧ target.refs.map Line.val = refs.map collapse := by
  simp only [MusicalTarget.create, bind_eq_ok, pure_eq_ok] at h
  obtain ⟨lines, hlines, _, -, _, -, rfl⟩ := h
  exact ⟨rfl, map_val_of_texts (textTuple_eq_ok hlines).1⟩

/-- The ids and the references of some dimensions of a focus have single spaces. -/
structure NormalizedFocus (focus : EvidencedFocus) (dimensions : List Dimension) : Prop where
  song : collapse focus.songId.val = focus.songId.val
  workspace : collapse focus.workspaceId.val = focus.workspaceId.val
  observation : collapse focus.workspaceObservationId.val = focus.workspaceObservationId.val
  runtime : collapse focus.hostRuntimeFingerprint.val = focus.hostRuntimeFingerprint.val
  refs : ∀ item ∈ focus.dimensions, item.dimension ∈ dimensions →
    ∀ ref ∈ item.refs, collapse ref.val = ref.val

/-- Two contexts have the same ids, and the second has in some dimensions exactly the references of
the first. -/
structure SameFocus (dimensions : List Dimension) (a b : FocusContext) : Prop where
  song : a.songId = b.songId
  workspace : a.workspaceId = b.workspaceId
  observation : a.workspaceObservationId = b.workspaceObservationId
  runtime : a.hostRuntimeFingerprint = b.hostRuntimeFingerprint
  targets : ∀ dimension ∈ dimensions, ∃ before ∈ a.get dimension, ∃ after ∈ b.get dimension,
    after.state = .observedExact ∧ after.refs = before.refs

variable {scene : Scene} {focus : EvidencedFocus} {request : PlanRequest} {newId : String}
  {plan : MusicalPlan}

theorem get_context (focus : EvidencedFocus) (dimension : Dimension) :
    focus.context.get dimension =
      (focus.get dimension).map EvidencedDimension.toFocusDimension := by
  rw [FocusContext.get, EvidencedFocus.context, List.find?_map]
  rfl

theorem facts_of_prepare (h : preparePlan scene focus request newId = .ok plan) :
    MusicalPlan.create plan.fields = .ok plan ∧
    (plan.songId.val = collapse focus.songId.val ∧
      plan.workspaceId.val = collapse focus.workspaceId.val ∧
      plan.workspaceObservationId.val = collapse focus.workspaceObservationId.val ∧
      plan.hostRuntimeFingerprint.val = collapse focus.hostRuntimeFingerprint.val) ∧
    ∀ target ∈ plan.targets, ∃ item ∈ focus.get target.dimension, item.state = .observedExact ∧
      target.refs.map Line.val = item.refs.map fun ref ↦ collapse ref.val := by
  simp only [preparePlan, bind_eq_ok] at h
  obtain ⟨_, -, _, -, exact, hexact, targets, htargets, _, -, _, -, _, -, _, -, _, -, hcreate⟩ := h
  obtain ⟨hids, htargetsEq⟩ := ids_of_create hcreate
  refine ⟨create_rebuild hcreate, hids, ?_⟩
  rw [htargetsEq]
  intro target htarget
  obtain ⟨item, hitem, hmade⟩ := (mem_checkEach htargets).mp htarget
  obtain ⟨hget, hstate⟩ := requireExact_eq_ok hexact item hitem
  obtain ⟨hdimension, hrefs⟩ := target_of_create hmade
  refine ⟨item, by rw [hdimension]; exact hget, hstate, ?_⟩
  rw [hrefs, List.map_map]
  rfl

/-- The references of a target are those of the focus, where these have single spaces. -/
theorem refs_of_normalized {target : MusicalTarget} {item : EvidencedDimension}
    (hnormalized : NormalizedFocus focus (plan.targets.map MusicalTarget.dimension))
    (htarget : target ∈ plan.targets) (hitem : focus.get target.dimension = some item)
    (hrefs : target.refs.map Line.val = item.refs.map fun ref ↦ collapse ref.val) :
    target.refs.map Line.val = item.refs.map Text.val := by
  have hname : item.dimension = target.dimension := by simpa using List.find?_some hitem
  have hmem : item.dimension ∈ plan.targets.map MusicalTarget.dimension :=
    hname ▸ List.mem_map_of_mem htarget
  rw [hrefs]
  exact List.map_congr_left (hnormalized.refs item (List.mem_of_find?_eq_some hitem) hmem)

theorem validateCurrent_iff (h : preparePlan scene focus request newId = .ok plan)
    (hnormalized : NormalizedFocus focus (plan.targets.map MusicalTarget.dimension)) {later : Scene}
    {other : FocusContext} : validateCurrent later plan other = .ok () ↔
      validateFocus later other = .ok () ∧
        SameFocus (plan.targets.map MusicalTarget.dimension) focus.context other := by
  obtain ⟨-, ⟨hsong, hworkspace, hobservation, hruntime⟩, htargets⟩ := facts_of_prepare h
  rw [hnormalized.song] at hsong
  rw [hnormalized.workspace] at hworkspace
  rw [hnormalized.observation] at hobservation
  rw [hnormalized.runtime] at hruntime
  have hobserved {target : MusicalTarget} (htarget : target ∈ plan.targets) :
      target.ObservedIn other ↔ ∃ before ∈ focus.context.get target.dimension,
        ∃ after ∈ other.get target.dimension,
          after.state = .observedExact ∧ after.refs = before.refs := by
    obtain ⟨item, hitem, -, hrefs⟩ := htargets target htarget
    have hsame := refs_of_normalized hnormalized htarget hitem hrefs
    have hget : focus.context.get target.dimension = some item.toFocusDimension := by
      rw [get_context, hitem]
      rfl
    have hval : Function.Injective Text.val := fun _ _ ↦ Text.ext
    unfold MusicalTarget.ObservedIn
    rw [hget, hsame]
    simp only [Option.mem_some_iff, exists_eq_left', (List.map_injective_iff.mpr hval).eq_iff]
  simp only [validateCurrent, bind_eq_ok, require_eq_ok, pure_eq_ok, hsong, hworkspace,
    hobservation, hruntime]
  constructor
  · rintro ⟨_, hfocus, _, hsongSame, _, hworkspaceSame, _, hobservationSame, _, hruntimeSame, _,
      hall, -⟩
    refine ⟨hfocus, Text.ext hsongSame, Text.ext hworkspaceSame, Text.ext hobservationSame,
      Text.ext hruntimeSame, ?_⟩
    intro dimension hdimension
    obtain ⟨target, htarget, rfl⟩ := List.mem_map.mp hdimension
    exact (hobserved htarget).mp (checkEach_require hall target htarget)
  · rintro ⟨hfocus, hsame⟩
    have hall : ∀ target ∈ plan.targets, target.ObservedIn other := fun target htarget ↦
      (hobserved htarget).mpr (hsame.targets _ (List.mem_map_of_mem htarget))
    obtain ⟨result, hresult⟩ := exists_checkEach_require hall
    exact ⟨(), hfocus, (), congrArg Text.val hsame.song, (), congrArg Text.val hsame.workspace, (),
      congrArg Text.val hsame.observation, (), congrArg Text.val hsame.runtime, result, hresult,
      trivial⟩

theorem sameFocus_self (h : preparePlan scene focus request newId = .ok plan) :
    SameFocus (plan.targets.map MusicalTarget.dimension) focus.context focus.context := by
  refine ⟨rfl, rfl, rfl, rfl, fun dimension hdimension ↦ ?_⟩
  obtain ⟨target, htarget, rfl⟩ := List.mem_map.mp hdimension
  obtain ⟨item, hitem, hstate, -⟩ := (facts_of_prepare h).2.2 target htarget
  have hget : focus.context.get target.dimension = some item.toFocusDimension := by
    rw [get_context, hitem]
    rfl
  exact ⟨_, hget, _, hget, hstate, rfl⟩

/-- A prepared plan is the one its fields make again. From a focus with single spaces it stays
current while the workspace is observed as it was and the focus is the same, and it is refused when
an id, a target or the observation of the workspace has changed. The active song plays no part. -/
theorem prepared_plan_current (hprepared : preparePlan scene focus request newId = .ok plan) :
    MusicalPlan.create plan.fields = .ok plan ∧
    (NormalizedFocus focus (plan.targets.map MusicalTarget.dimension) →
      (∀ later, validateFocus later focus.context = .ok () →
        validateCurrent later plan focus.context = .ok ()) ∧
      ∀ later other, ¬(validateFocus later other = .ok () ∧
          SameFocus (plan.targets.map MusicalTarget.dimension) focus.context other) →
        ∃ e, validateCurrent later plan other = .error e) ∧
    ∀ later activeSong other, validateCurrent { later with activeSong } plan other =
      validateCurrent later plan other := by
  refine ⟨(facts_of_prepare hprepared).1, fun hnormalized ↦ ⟨fun later hfocus ↦ ?_, ?_⟩,
    fun _ _ _ ↦ rfl⟩
  · exact (validateCurrent_iff hprepared hnormalized).mpr ⟨hfocus, sameFocus_self hprepared⟩
  · intro later other hchanged
    rw [← validateCurrent_iff hprepared hnormalized] at hchanged
    cases hresult : validateCurrent later plan other with
    | error e => exact ⟨e, rfl⟩
    | ok result => exact absurd hresult hchanged

/-! ### A plan and a new version -/

def sampleId : Text := ⟨"a", Text.letterA.stripped, Text.letterA.nonempty⟩

def sampleFocus : EvidencedFocus where
  workspaceId := sampleId
  songId := sampleId
  workspaceObservationId := sampleId
  hostRuntimeFingerprint := sampleId
  observationEvidenceRef := sampleId
  dimensions := [{
    dimension := .track
    state := .observedExact
    refs := [sampleId]
    evidenceRef := sampleId
    refsUnique := by decide
    refsFit := by decide }]
  dimensionsUnique := by decide

/-- The song with a current version, and the workspace. -/
def sceneOf (version : Option Text) : Scene :=
  ⟨some ⟨sampleId, version⟩, [⟨"a", "a", "a", "a"⟩]⟩

def samplePlanRequest : PlanRequest where
  artistIntent := "make it  wider"
  requiredDimensions := ["track"]
  desiredChange := "wider"
  constraints := []
  lockedElementRefs := []
  editableElementRefs := []
  verificationRefs := ["listen"]
  provenanceRefs := []
  planId := none

/-- A prepared plan is current although the song has another version by then. -/
theorem plan_current_after_new_version :
    ((preparePlan (sceneOf none) sampleFocus samplePlanRequest "plan_0").toOption.map fun plan ↦
      decide ((validateCurrent (sceneOf (some sampleId)) plan sampleFocus.context).toOption =
        some ())) = some true := by
  decide +kernel

theorem sample_plan_current : ∃ plan,
    preparePlan (sceneOf none) sampleFocus samplePlanRequest "plan_0" = .ok plan ∧
      MusicalPlan.create plan.fields = .ok plan ∧
      validateCurrent (sceneOf none) plan sampleFocus.context = .ok () := by
  have hsome : (preparePlan (sceneOf none) sampleFocus samplePlanRequest
      "plan_0").toOption.isSome = true := by decide +kernel
  obtain ⟨plan, hplan⟩ := Option.isSome_iff_exists.mp hsome
  have hprepared := toOption_eq_some.mp hplan
  obtain ⟨hrebuild, hcurrent, -⟩ := prepared_plan_current hprepared
  have hcollapse : collapse sampleId.val = sampleId.val := by decide +kernel
  have hnormalized : NormalizedFocus sampleFocus (plan.targets.map MusicalTarget.dimension) := by
    refine ⟨hcollapse, hcollapse, hcollapse, hcollapse, ?_⟩
    intro item hitem _ ref href
    rw [List.mem_singleton.mp hitem] at href
    rw [List.mem_singleton.mp href]
    exact hcollapse
  have hfocus : validateFocus (sceneOf none) sampleFocus.context = .ok () :=
    toOption_eq_some.mp (by decide +kernel)
  exact ⟨plan, hprepared, hrebuild, (hcurrent hnormalized).1 _ hfocus⟩

end N0te.Musical
