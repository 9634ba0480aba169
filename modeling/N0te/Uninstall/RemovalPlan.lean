import N0te.Library.Casing
import N0te.Library.Checking
import N0te.Library.Places
import N0te.Lineage.LineageStore
import N0te.Platforms.PlatformRoots

/-!
# What an uninstaller may remove

`plan` classifies the roots of an application for removal. What overlaps the data root is retained, and
a runtime root is removable when the application has stopped and evidence says that the root is no
symlink. A runtime root within one that is listed before it is covered by that one.

The spec lemmas say which roots have an entry (`mem_classifyRoots`, `mem_classifyManaged`), and what a
root is classified as (`classifyRoot_spec`).
-/

set_option autoImplicit false
set_option relaxedAutoImplicit false

namespace N0te.Uninstall

open Library Lineage Platforms

/-! ### Paths -/

instance lawfulPathKeys : LawfulBEq (List String) := inferInstance

/-- What the planner takes from the runtime. -/
structure RemovalRuntime where
  /-- The lowercase mappings. -/
  table : CaseTable
  /-- `str.casefold`. -/
  casefold : String → String

/-- `_path_key`. -/
def pathKey (rt : RemovalRuntime) (path : PurePath) : List String :=
  match path.flavour with
  | .windows => path.parts.map rt.casefold
  | .posix => path.parts

/-- `_is_same_or_within`. -/
def IsSameOrWithin (rt : RemovalRuntime) (path parent : PurePath) : Prop :=
  pathKey rt parent <+: pathKey rt path

instance (rt : RemovalRuntime) (path parent : PurePath) :
    Decidable (IsSameOrWithin rt path parent) :=
  inferInstanceAs (Decidable (_ <+: _))

/-- `_overlap`. -/
def Overlaps (rt : RemovalRuntime) (a b : PurePath) : Prop :=
  Overlap (pathKey rt a) (pathKey rt b)

instance (rt : RemovalRuntime) (a b : PurePath) : Decidable (Overlaps rt a b) :=
  inferInstanceAs (Decidable (Overlap _ _))

/-! ### Values -/

/-- An `UninstallPlanError`. -/
structure PlanError where
  message : String
  deriving DecidableEq

/-- A result or an exception. -/
abbrev PlanChecked (α : Type) := Except PlanError α

/-- `ResolvedPathEvidence`. -/
structure ResolvedPathEvidence where
  declaredPath : PurePath
  resolvedPath : PurePath
  isSymlink : Bool
  evidenceRef : Line
  /-- The paths are of one class. -/
  sameType : declaredPath.flavour = resolvedPath.flavour
  absolute : declaredPath.absolute = true ∧ resolvedPath.absolute = true
  /-- They do not go up. -/
  noTraversal : ".." ∉ declaredPath.parts ∧ ".." ∉ resolvedPath.parts

/-- `canonical`. -/
def ResolvedPathEvidence.Canonical (rt : RemovalRuntime) (item : ResolvedPathEvidence) : Prop :=
  item.isSymlink = false ∧ pathKey rt item.declaredPath = pathKey rt item.resolvedPath

instance (rt : RemovalRuntime) (item : ResolvedPathEvidence) : Decidable (item.Canonical rt) :=
  inferInstanceAs (Decidable (_ ∧ _))

/-- `REMOVAL_CLASSES`. -/
inductive RemovalClass where
  | retainDurableData
  | retainOverlap
  | removableRuntimeState
  | coveredRuntimeState
  | blockedRuntimeActive
  | blockedUnverifiedPath
  | platformManaged
  deriving DecidableEq

def RemovalClass.name : RemovalClass → String
  | retainDurableData => "RETAIN_DURABLE_DATA"
  | retainOverlap => "RETAIN_OVERLAP"
  | removableRuntimeState => "REMOVABLE_RUNTIME_STATE"
  | coveredRuntimeState => "COVERED_RUNTIME_STATE"
  | blockedRuntimeActive => "BLOCKED_RUNTIME_ACTIVE"
  | blockedUnverifiedPath => "BLOCKED_UNVERIFIED_PATH"
  | platformManaged => "PLATFORM_MANAGED"

/-- `RUNTIME_STATES`. -/
inductive RuntimeState where
  | stopped
  | running
  | recoveryRequired
  deriving DecidableEq

def RuntimeState.ofName : String → Option RuntimeState
  | "STOPPED" => some stopped
  | "RUNNING" => some running
  | "RECOVERY_REQUIRED" => some recoveryRequired
  | _ => none

/-- `RemovalEntry`. -/
structure RemovalEntry where
  path : PurePath
  classification : RemovalClass
  reason : Line
  eligibleForRemoval : Bool
  pathEvidenceRef : Option Line
  /-- Nothing else can be a direct removal candidate. -/
  candidate : eligibleForRemoval = true → classification = .removableRuntimeState

/-- The constructor of `RemovalEntry`. -/
def RemovalEntry.create (path : PurePath) (classification : RemovalClass) (reason : String)
    (eligible : Bool) (evidenceRef : Option Line) : PlanChecked RemovalEntry := do
  let reason ← orRaise (Line.ofString reason) ⟨"reason must not be empty"⟩
  let hcandidate ← ensure (eligible = true → classification = .removableRuntimeState)
    ⟨classification.name ++ " paths cannot be direct removal candidates"⟩
  .ok ⟨path, classification, reason, eligible, evidenceRef, hcandidate.down⟩

/-- `UninstallPlan`. -/
structure UninstallPlan where
  profileId : String
  osFamily : OsFamily
  runtimeState : RuntimeState
  entries : List RemovalEntry

/-- `removal_candidates`. -/
def UninstallPlan.removalCandidates (plan : UninstallPlan) : List RemovalEntry :=
  plan.entries.filter RemovalEntry.eligibleForRemoval

/-! ### The planner -/

/-- The arguments of `plan`. -/
structure RemovalRequest where
  roots : PlatformRoots
  profileId : String
  runtimeState : String
  pathEvidence : List ResolvedPathEvidence
  platformManagedPaths : List PurePath

/-- The runtime roots, in the order in which they are classified. -/
def runtimeRoots (roots : PlatformRoots) : List (String × PurePath) :=
  [("config_root", roots.configRoot), ("state_root", roots.stateRoot),
    ("cache_root", roots.cacheRoot), ("log_root", roots.logRoot)]

/-- `_validate_path`. -/
def validatePath (roots : PlatformRoots) (path : PurePath) (field : String) : PlanChecked Unit := do
  let expected := roots.osFamily.flavour
  require (path.flavour = expected) ⟨field ++ " must use " ++ expected.className⟩
  require (path.absolute = true) ⟨field ++ " must be absolute"⟩
  require (".." ∉ path.parts) ⟨field ++ " must not contain parent traversal"⟩

def validateEvidence (roots : PlatformRoots) : List ResolvedPathEvidence → PlanChecked Unit
  | [] => .ok ⟨⟩
  | item :: rest => do
    validatePath roots item.declaredPath "declared_path"
    validatePath roots item.resolvedPath "resolved_path"
    validateEvidence roots rest

section

variable (rt : RemovalRuntime)

/-- `_evidence_for`. -/
def evidenceFor (path : PurePath) (evidence : List ResolvedPathEvidence) :
    PlanChecked (Option ResolvedPathEvidence) :=
  match evidence.filter fun item ↦ pathKey rt item.declaredPath = pathKey rt path with
  | [] => .ok none
  | [item] => .ok (some item)
  | _ => .error ⟨"duplicate path evidence for " ++ path.text⟩

def verifiedEntry (evidence : List ResolvedPathEvidence) (path : PurePath)
    (classification : RemovalClass) (eligible : Bool) (verified unverified : String) :
    PlanChecked RemovalEntry := do
  match ← evidenceFor rt path evidence with
  | none => RemovalEntry.create path .blockedUnverifiedPath unverified false none
  | some physical =>
    if physical.Canonical rt then
      RemovalEntry.create path classification verified eligible (some physical.evidenceRef)
    else
      RemovalEntry.create path .blockedUnverifiedPath unverified false (some physical.evidenceRef)

variable (request : RemovalRequest) (state : RuntimeState)

/-- The entry of a runtime root, after the runtime roots that have one already. -/
def classifyRoot (prior : List PurePath) (name : String) (path : PurePath) :
    PlanChecked RemovalEntry :=
  if Overlaps rt path request.roots.dataRoot then
    RemovalEntry.create path .retainOverlap
      (name ++ " overlaps retained data_root; shared uninstall policy must bias toward retention")
      false none
  else
    match prior.find? fun parent ↦ IsSameOrWithin rt path parent with
    | some parent =>
      RemovalEntry.create path .coveredRuntimeState
        (name ++ " is nested under another runtime root (" ++ parent.text ++
          "); only the parent may be a removal candidate") false none
    | none => do
      require (∀ parent ∈ prior, ¬ IsSameOrWithin rt parent path)
        ⟨"runtime root " ++ name ++ " contains a previously classified runtime root"⟩
      if state ≠ .stopped then
        RemovalEntry.create path .blockedRuntimeActive
          (name ++ " may be considered removable only after the application is STOPPED") false none
      else
        verifiedEntry rt request.pathEvidence path .removableRuntimeState true
          (name ++ " is disjoint from retained creative data, app is STOPPED and path identity is " ++
            "verified")
          (name ++ " lacks canonical non-symlink physical-path evidence")

/-- The entries of the runtime roots: of those whose keys were seen there is none. -/
def classifyRoots : List (List String) → List PurePath → List (String × PurePath) →
    PlanChecked (List RemovalEntry)
  | _, _, [] => .ok []
  | seen, prior, (name, path) :: rest => do
    validatePath request.roots path name
    if pathKey rt path ∈ seen then classifyRoots seen prior rest
    else do
      let entry ← classifyRoot rt request state prior name path
      let entries ← classifyRoots (pathKey rt path :: seen) (prior ++ [path]) rest
      .ok (entry :: entries)

/-- The entries of the paths that the platform manages, after the paths that are known. -/
def classifyManaged : List PurePath → List PurePath → PlanChecked (List RemovalEntry)
  | _, [] => .ok []
  | known, path :: rest => do
    validatePath request.roots path "platform_managed_path"
    require (∀ other ∈ known, ¬ Overlaps rt path other)
      ⟨"platform-managed application path overlaps retained/runtime/another package path"⟩
    let entry ← verifiedEntry rt request.pathEvidence path .platformManaged false
      "application/package path may be removed only by a later platform-specific uninstaller"
      "platform-managed path is not canonical/non-symlink verified"
    let entries ← classifyManaged (known ++ [path]) rest
    .ok (entry :: entries)

/-- The entries of what is retained by default. -/
def durableEntries (profileRoot : PurePath) : PlanChecked (List RemovalEntry) := do
  let dataEntry ← RemovalEntry.create request.roots.dataRoot .retainDurableData
    ("application data root contains canonical Artist/profile/Song state and is retained by " ++
      "default") false none
  let profileEntry ← RemovalEntry.create profileRoot .retainDurableData
    "canonical profile data is Artist-owned durable creative state" false none
  let recoveryEntry ← RemovalEntry.create (profileRoot.join ["recovery"]) .retainDurableData
    "recovery snapshots are retained with the Artist profile" false none
  .ok [dataEntry, profileEntry, recoveryEntry]

/-- `plan`. -/
def plan : PlanChecked UninstallPlan := do
  let profile := rt.table.lower (strip request.profileId)
  require (isProfileId profile = true) ⟨"profile_id must be a canonical prf_ identity"⟩
  let text ← orRaise (Line.ofString request.runtimeState) ⟨"runtime_state must not be empty"⟩
  let state ← orRaise (RuntimeState.ofName (upper text.val))
    ⟨"unsupported runtime_state: " ++ upper text.val⟩
  validateEvidence request.roots request.pathEvidence
  let dataRoot := request.roots.dataRoot
  let profileRoot := request.roots.profileDataRoot profile
  let recoveryRoot := profileRoot.join ["recovery"]
  validatePath request.roots dataRoot "data_root"
  validatePath request.roots profileRoot "profile_data_root"
  validatePath request.roots recoveryRoot "profile_recovery_root"
  let durable ← durableEntries request profileRoot
  let runtime ← classifyRoots rt request state
    [pathKey rt dataRoot, pathKey rt profileRoot, pathKey rt recoveryRoot] []
    (runtimeRoots request.roots)
  let managed ← classifyManaged rt request ((durable ++ runtime).map RemovalEntry.path)
    request.platformManagedPaths
  .ok ⟨profile, request.roots.osFamily, state, durable ++ runtime ++ managed⟩

end

end N0te.Uninstall
