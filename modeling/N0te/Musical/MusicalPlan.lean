import N0te.Hosts.HostRuntime
import N0te.Journal.Plans
import N0te.Library.Words

/-!
# Musical plans and host compilations

A `MusicalPlan` says what is to change in a song, in terms of targets that were observed in the focus
of a workspace. A `HostCompilation` is the list of host actions a compiler made of it, each depending
on earlier ones only. Both are identified by the hash of their canonical JSON text.

`validateCurrent` compares a plan with the focus it was made from and with the workspace as it is
observed now.

Scope. Values that are built by the checks of a constructor carry what the checks establish; the
constructors of plans, focus contexts and compilations are not modelled. Provenance of a focus
dimension and the state fingerprints of workspaces are left out.
-/

set_option autoImplicit false
set_option relaxedAutoImplicit false

namespace N0te.Musical

open Library Governance
open Hosts (HostFamily)

/-- The exception classes of the musical transaction path. -/
inductive ErrorClass where
  /-- An exception of the journals. -/
  | journal (cls : Journal.ErrorClass)
  | authorityValidationError
  | focusUncertainError
  | musicalPlanStaleError
  | musicalTransactionError
  | songTransactionError
  | staleSongTransactionError
  deriving DecidableEq

/-- A result or an exception. -/
abbrev Checked (α : Type) := Except (Raised ErrorClass) α

/-- An exception of the journals, as it passes through. -/
def ofJournal (e : Raised Journal.ErrorClass) : Raised ErrorClass := ⟨.journal e.cls, e.text⟩

/-! ### Focus -/

/-- The dimensions of focus. -/
inductive Dimension where
  | track
  | clipRegion
  | timeRange
  | midiNotes
  | devicePlugin
  | automation
  | playhead
  | activeEditor
  | songSection
  deriving DecidableEq

def Dimension.name : Dimension → String
  | track => "TRACK"
  | clipRegion => "CLIP_REGION"
  | timeRange => "TIME_RANGE"
  | midiNotes => "MIDI_NOTES"
  | devicePlugin => "DEVICE_PLUGIN"
  | automation => "AUTOMATION"
  | playhead => "PLAYHEAD"
  | activeEditor => "ACTIVE_EDITOR"
  | songSection => "SONG_SECTION"

/-- How well a dimension is known. -/
inductive FocusState where
  | observedExact
  | observedAmbiguous
  | inferred
  | unknown
  deriving DecidableEq

/-- What is in focus in one dimension. -/
structure FocusDimension where
  dimension : Dimension
  /-- How well it is known. -/
  state : FocusState
  refs : List Text

/-- The focus of a workspace at one observation. -/
structure FocusContext where
  workspaceId : Text
  songId : Text
  workspaceObservationId : Text
  hostRuntimeFingerprint : Text
  dimensions : List FocusDimension
  /-- No dimension is listed twice. -/
  dimensionsUnique : (dimensions.map FocusDimension.dimension).Nodup

/-- `FocusContext.get`. -/
def FocusContext.get (context : FocusContext) (dimension : Dimension) : Option FocusDimension :=
  context.dimensions.find? fun item ↦ item.dimension = dimension

/-! ### Plans -/

/-- A target of a plan. -/
structure MusicalTarget where
  dimension : Dimension
  refs : List Line
  /-- Something is targeted. -/
  nonempty : refs ≠ []
  /-- Nothing is targeted twice. -/
  refsUnique : refs.Nodup

/-- What is to change in a song. -/
structure MusicalPlan where
  planId : Line
  songId : Line
  workspaceId : Line
  /-- The observation the plan was made from. -/
  workspaceObservationId : Line
  /-- The host runtime of the observation. -/
  hostRuntimeFingerprint : Line
  artistIntent : Line
  targets : List MusicalTarget
  sectionRef : Option Line
  /-- What has to stay true. -/
  constraints : List Line
  /-- What may not be touched. -/
  lockedElementRefs : List Line
  /-- What may be changed. -/
  editableElementRefs : List Line
  desiredChange : Line
  verificationRefs : List Line
  provenanceRefs : List Line
  targeted : targets ≠ []
  /-- No dimension is targeted twice. -/
  targetsUnique : (targets.map MusicalTarget.dimension).Nodup
  /-- The section is the exact section target. -/
  sectionTarget : (targets.filter fun target ↦ target.dimension = .songSection).map
    MusicalTarget.refs = sectionRef.toList.map fun ref ↦ [ref]
  /-- What may not be touched may not be changed. -/
  disjoint : ∀ ref ∈ lockedElementRefs, ref ∉ editableElementRefs

def textsJson (lines : List Line) : Json := .arr (lines.map fun line ↦ .str line.val)

namespace MusicalPlan

/-- The fields that identify a plan. -/
def payload (plan : MusicalPlan) : Json := .obj [
  ("schema", .str "n0te.musical-plan/v1"),
  ("plan_id", .str plan.planId.val),
  ("song_id", .str plan.songId.val),
  ("workspace_id", .str plan.workspaceId.val),
  ("workspace_observation_id", .str plan.workspaceObservationId.val),
  ("host_runtime_fingerprint", .str plan.hostRuntimeFingerprint.val),
  ("artist_intent", .str plan.artistIntent.val),
  ("targets", .arr (plan.targets.map fun target ↦ .obj [
    ("dimension", .str target.dimension.name), ("refs", textsJson target.refs)])),
  ("section_ref", plan.sectionRef.elim .null fun ref ↦ .str ref.val),
  ("constraints", textsJson plan.constraints),
  ("locked_element_refs", textsJson plan.lockedElementRefs),
  ("editable_element_refs", textsJson plan.editableElementRefs),
  ("desired_change", .str plan.desiredChange.val),
  ("verification_refs", textsJson plan.verificationRefs),
  ("provenance_refs", textsJson plan.provenanceRefs)]

/-- `fingerprint`. -/
def fingerprint (rt : Runtime) (plan : MusicalPlan) : String := rt.sha256 plan.payload.dumpsAscii

end MusicalPlan

/-! ### Compilations -/

/-- The kinds of routes. -/
inductive RouteKind where
  | hostNative
  | n0teNative
  | ownedTool
  | provider
  | guided
  deriving DecidableEq

def RouteKind.name : RouteKind → String
  | hostNative => "HOST_NATIVE"
  | n0teNative => "N0TE_NATIVE"
  | ownedTool => "OWNED_TOOL"
  | provider => "PROVIDER"
  | guided => "GUIDED"

/-- An action a host is asked to do. -/
structure CompiledHostAction where
  actionId : Line
  routeKind : RouteKind
  capability : Line
  payloadRef : Line
  /-- What holds afterwards. -/
  postconditionRef : Line
  /-- Whether it can be undone. -/
  compensatable : Bool
  dependsOnActionIds : List Line
  /-- No dependency is listed twice. -/
  dependenciesUnique : dependsOnActionIds.Nodup
  independent : actionId ∉ dependsOnActionIds
  deriving DecidableEq

/-- Every action depends only on ids seen before it. -/
def ActionsBackward : List Line → List CompiledHostAction → Prop
  | _, [] => True
  | seen, action :: rest =>
    (∀ dep ∈ action.dependsOnActionIds, dep ∈ seen) ∧ ActionsBackward (seen ++ [action.actionId]) rest

/-- What a compiler made of a plan. -/
structure HostCompilation where
  planId : Line
  planFingerprint : Line
  compilerId : Line
  compilerVersion : Line
  hostFamily : HostFamily
  hostRuntimeFingerprint : Line
  actions : List CompiledHostAction
  /-- There is an action. -/
  nonempty : actions ≠ []
  /-- Action ids are distinct. -/
  actionIds : (actions.map CompiledHostAction.actionId).Nodup
  /-- Dependencies point backward. -/
  backward : ActionsBackward [] actions

/-- An action as it enters the fingerprint of its compilation. -/
def CompiledHostAction.payload (action : CompiledHostAction) : Json := .obj [
  ("action_id", .str action.actionId.val),
  ("route_kind", .str action.routeKind.name),
  ("capability", .str action.capability.val),
  ("payload_ref", .str action.payloadRef.val),
  ("postcondition_ref", .str action.postconditionRef.val),
  ("compensatable", .bool action.compensatable),
  ("depends_on_action_ids", textsJson action.dependsOnActionIds)]

/-- The fields that identify a compilation. -/
def HostCompilation.payload (compilation : HostCompilation) : Json := .obj [
  ("schema", .str "n0te.host-compilation-authority/v1"),
  ("plan_id", .str compilation.planId.val),
  ("plan_fingerprint", .str compilation.planFingerprint.val),
  ("compiler_id", .str compilation.compilerId.val),
  ("compiler_version", .str compilation.compilerVersion.val),
  ("host_family", .str compilation.hostFamily.name),
  ("host_runtime_fingerprint", .str compilation.hostRuntimeFingerprint.val),
  ("actions", .arr (compilation.actions.map CompiledHostAction.payload))]

/-- `compilation_fingerprint`. -/
def compilationFingerprint (rt : Runtime) (compilation : HostCompilation) : String :=
  rt.sha256 compilation.payload.dumpsAscii

/-! ### The scene -/

/-- A workspace and its current observation. -/
structure ObservedWorkspace where
  id : String
  songId : String
  observationId : String
  /-- The host runtime it was seen in. -/
  hostRuntimeFingerprint : String

/-- The active song. -/
structure ActiveSong where
  id : Text
  currentVersionId : Option Text

/-- What the artist and the host are at: the active song, and the workspaces as they were last
observed. -/
structure Scene where
  activeSong : Option ActiveSong
  workspaces : List ObservedWorkspace

/-- A `FocusUncertainError`. -/
def focusUncertain (reason : String) (dimensions : List String) : Raised ErrorClass :=
  ⟨.focusUncertainError, "focus is " ++ reason ++ ": " ++ ", ".intercalate dimensions⟩

/-- `WorkspaceMemory.state`. -/
def workspaceState (scene : Scene) (workspaceId : String) : Checked ObservedWorkspace :=
  orRaise (scene.workspaces.find? fun workspace ↦ workspace.id == workspaceId)
    (ofJournal ⟨.notFoundError, "workspace not found: " ++ workspaceId⟩)

/-- `FocusContextService.validate_current`. -/
def validateFocus (scene : Scene) (context : FocusContext) : Checked Unit := do
  let state ← workspaceState scene context.workspaceId.val
  require (state.songId = context.songId.val) (focusUncertain "STALE_WORKSPACE" ["WORKSPACE"])
  require (state.observationId = context.workspaceObservationId.val ∧
      state.hostRuntimeFingerprint = context.hostRuntimeFingerprint.val)
    (focusUncertain "STALE_WORKSPACE" ["WORKSPACE"])

/-- A `MusicalPlanStaleError`. -/
def planStale (reason : String) : Raised ErrorClass := ⟨.musicalPlanStaleError, reason⟩

/-- A target is what is exactly observed in its dimension. -/
def MusicalTarget.ObservedIn (target : MusicalTarget) (context : FocusContext) : Prop :=
  ∃ observed ∈ context.get target.dimension, observed.state = .observedExact ∧
    observed.refs.map Text.val = target.refs.map Line.val

instance (target : MusicalTarget) (context : FocusContext) :
    Decidable (target.ObservedIn context) :=
  inferInstanceAs (Decidable (∃ _ ∈ _, _))

/-- `MusicalPlanService.validate_current`. -/
def validateCurrent (scene : Scene) (plan : MusicalPlan) (context : FocusContext) :
    Checked Unit := do
  validateFocus scene context
  require (plan.songId.val = context.songId.val) (planStale "STALE_SONG_ID")
  require (plan.workspaceId.val = context.workspaceId.val) (planStale "STALE_WORKSPACE_ID")
  require (plan.workspaceObservationId.val = context.workspaceObservationId.val)
    (planStale "STALE_WORKSPACE_OBSERVATION_ID")
  require (plan.hostRuntimeFingerprint.val = context.hostRuntimeFingerprint.val)
    (planStale "STALE_HOST_RUNTIME_FINGERPRINT")
  let _ ← checkEach (fun _ target ↦ require (target.ObservedIn context)
    (planStale ("STALE_TARGET_" ++ target.dimension.name))) 0 plan.targets
  return ()

end N0te.Musical
