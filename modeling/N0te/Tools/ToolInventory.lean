import N0te.Library.EventLog
import N0te.Library.Interference
import N0te.Lineage.LineageStore
import N0te.Tools.ToolProfile

/-!
# The tool inventory

The inventory is an append-only table of revisions: a tool is registered, corrected and retired. What
active tools must not share is checked on what a call has read (`validateCandidateState`), in no
transaction with the insertion. `validateExisting` is the check of a store that is opened.
-/

set_option autoImplicit false
set_option relaxedAutoImplicit false

namespace N0te.Tools

open Library Lineage

/-! ### Rows -/

/-- `TOOL_INVENTORY_STATES`. -/
inductive ToolState where
  | active
  | retired
  deriving DecidableEq

/-- `TOOL_INVENTORY_SOURCE_KINDS`. -/
inductive ToolSourceKind where
  | artistDeclared
  | explicitImport
  | artistCorrection
  deriving DecidableEq

def ToolSourceKind.ofName : String → Option ToolSourceKind
  | "ARTIST_DECLARED" => some artistDeclared
  | "EXPLICIT_IMPORT" => some explicitImport
  | "ARTIST_CORRECTION" => some artistCorrection
  | _ => none

/-- A row of `tool_inventory_revisions`. -/
structure ToolInventoryRow where
  seq : ℕ
  id : String
  toolId : String
  state : ToolState
  sourceKind : ToolSourceKind
  sourceRef : String
  reason : Option String
  profileJson : Json
  deriving DecidableEq

/-- `tool_inventory_revisions`, in the order of `seq`. -/
abbrev ToolDb : Type := List ToolInventoryRow

/-- `ToolInventoryRevision`. -/
structure ToolInventoryRevision where
  sequence : ℕ
  id : String
  toolId : String
  state : ToolState
  sourceKind : ToolSourceKind
  sourceRef : String
  reason : Option String
  profile : SemanticToolProfile

/-- A `ToolInventoryError`. -/
def inventoryError (message : String) : ToolRaised := ⟨.toolInventoryError, message⟩

/-- A `LineageCorruptionError`. -/
def toolCorruption (message : String) : ToolRaised := ⟨.lineageCorruptionError, message⟩

/-- `_text` of `tool_inventory.py`. -/
def inventoryText (value field : String) : ToolChecked Text :=
  orRaise (Text.ofString value) (inventoryError s!"{field} must not be empty")

/-- `_source_kind`. -/
def sourceKindOf (value : String) : ToolChecked ToolSourceKind := do
  let text ← inventoryText value "source_kind"
  let name := underscored (upper text.val)
  orRaise (ToolSourceKind.ofName name)
    (inventoryError s!"unsupported tool inventory source_kind: {name}")

/-- How many digits an integer may have that is written as text. -/
def intMaxStrDigits : ℕ := 4300

/-- `_canonical_profile_json`. -/
def canonicalProfileJson (profile : SemanticToolProfile) : ToolChecked Json := do
  require (∀ item ∈ profile.capabilities, ∀ age ∈ item.candidate.evidenceAgeSeconds,
    age < 10 ^ intMaxStrDigits)
    ⟨.valueError, "Exceeds the limit (4300 digits) for integer string conversion"⟩
  .ok profile.json.canonical

/-! ### Reads -/

/-- `_revision`. -/
def revisionOf (row : ToolInventoryRow) : ToolChecked ToolInventoryRevision := do
  let profile ← profileFromJson row.profileJson
  require (profile.toolId.val = row.toolId)
    (toolCorruption "Tool inventory revision/profile identity mismatch")
  .ok ⟨row.seq, row.id, row.toolId, row.state, row.sourceKind, row.sourceRef, row.reason, profile⟩

namespace ToolDb

variable (db : ToolDb)

/-- The rows of `_rows_for` a tool. -/
def rowsFor (toolId : String) : List ToolInventoryRow := historyOf ToolInventoryRow.toolId toolId db

/-- `_latest_rows`. -/
def latestRows : List ToolInventoryRow :=
  sortedBy ToolInventoryRow.toolId
    (db.filter fun row ↦ ∀ other ∈ db, other.toolId = row.toolId → other.seq ≤ row.seq)

/-- `_revision` of each of the latest rows. -/
def latestRevisions : ToolChecked (List ToolInventoryRevision) :=
  checkEach (fun _ ↦ revisionOf) 0 (latestRows db)

/-- `active_profiles`. -/
def activeProfiles : ToolChecked (List SemanticToolProfile) := do
  let revisions ← latestRevisions db
  .ok ((revisions.filter fun item ↦ item.state = .active).map ToolInventoryRevision.profile)

end ToolDb

/-! ### What active tools do not share -/

/-- What identifies something of a tool: a key of one of the three dictionaries of
`_validate_active_uniqueness`. -/
inductive ToolKey where
  | endpoint (endpointId : Text)
  | native (formatKind : ToolFormat) (nativeIdentity : Text)
  | candidate (candidateId : Text)
  deriving DecidableEq

/-- What is said of two tools with one key. -/
def ToolKey.message : ToolKey → String
  | .endpoint endpointId => s!"active tool endpoint_id collision: {endpointId.val}"
  | .native _ _ => "active tools claim the same format/native endpoint identity"
  | .candidate candidateId => s!"active tool capability candidate collision: {candidateId.val}"

def ToolEndpoint.keys (item : ToolEndpoint) : List ToolKey :=
  [.endpoint item.endpointId, .native item.formatKind item.nativeIdentity]

/-- The keys of a profile, in the order of the loops. -/
def SemanticToolProfile.keys (profile : SemanticToolProfile) : List ToolKey :=
  profile.endpoints.flatMap ToolEndpoint.keys ++
    profile.capabilities.map fun item ↦ .candidate item.candidate.candidateId

/-- `setdefault` of each key, and the comparison of the owner with the tool. -/
def claimKeys (error : String → ToolRaised) :
    List (ToolKey × Text) → List (ToolKey × Text) → ToolChecked Unit
  | _, [] => .ok ⟨⟩
  | owners, (key, toolId) :: rest =>
    match owners.lookup key with
    | some owner => do
      require (owner = toolId) (error key.message)
      claimKeys error owners rest
    | none => claimKeys error ((key, toolId) :: owners) rest

def activeKeys (revisions : List ToolInventoryRevision) : List (ToolKey × Text) :=
  (revisions.filter fun item ↦ item.state = .active).flatMap fun item ↦
    item.profile.keys.map fun key ↦ (key, item.profile.toolId)

/-- `_validate_active_uniqueness`. -/
def validateActiveUniqueness (error : String → ToolRaised) (revisions : List ToolInventoryRevision) :
    ToolChecked Unit :=
  claimKeys error [] (activeKeys revisions)

/-- The revision that stands for a profile that is not stored. -/
def candidateRevision (profile : SemanticToolProfile) : ToolInventoryRevision :=
  ⟨0, "candidate", profile.toolId.val, .active, .artistDeclared, "validation", none, profile⟩

/-- `_validate_candidate_state`. -/
def validateCandidateState (profile : SemanticToolProfile) (replacing : Option Text) (db : ToolDb) :
    ToolChecked Unit := do
  let revisions ← db.latestRevisions
  validateActiveUniqueness inventoryError
    (revisions.filter (fun item ↦ replacing.all fun toolId ↦ item.toolId ≠ toolId.val) ++
      [candidateRevision profile])

/-! ### Opening -/

/-- The checks of `_validate_existing` on a row. -/
def validateRow (row : ToolInventoryRow) : ToolChecked Unit := do
  let revision ← revisionOf row
  require (revision.sourceKind = .artistCorrection →
    revision.reason ≠ none ∧ revision.reason ≠ some "")
    (toolCorruption "Tool inventory correction lacks reason")

/-- `except (DatabaseError, ValueError, TypeError, ToolIdentityError)`. -/
def unreadableAs {α : Type} : ToolChecked α → ToolChecked α
  | .error ⟨.lineageCorruptionError, text⟩ => .error ⟨.lineageCorruptionError, text⟩
  | .error _ => .error (toolCorruption "Tool inventory is unreadable or corrupt")
  | .ok a => .ok a

/-- `_validate_existing`. -/
def ToolDb.validateExisting (db : ToolDb) : ToolChecked Unit :=
  unreadableAs do
    let _ ← checkEach (fun _ ↦ validateRow) 0 db
    let latest ← db.latestRevisions
    validateActiveUniqueness toolCorruption latest

/-! ### Calls -/

/-- A call on the inventory. -/
abbrev ToolCall (α : Type) := Call ToolDb ToolRaised α

/-- What a row to be inserted says, except for its number. -/
structure NewRevision where
  id : String
  profile : SemanticToolProfile
  state : ToolState
  sourceKind : ToolSourceKind
  sourceRef : Text
  reason : Option Text

/-- The row that is inserted. -/
def NewRevision.row (revision : NewRevision) (db : ToolDb) (profileJson : Json) : ToolInventoryRow :=
  ⟨db.length + 1, revision.id, revision.profile.toolId.val, revision.state, revision.sourceKind,
    revision.sourceRef.val, revision.reason.map Text.val, profileJson⟩

/-- `INSERT INTO tool_inventory_revisions`. -/
def insertRevision (revision : NewRevision) (profileJson : Json) (db : ToolDb) :
    ToolChecked ToolDb := do
  let error := inventoryError "cannot append Tool inventory revision"
  require (∀ other ∈ db, other.id ≠ revision.id) error
  require (sqlNonblank revision.profile.toolId.val = true) error
  require (sqlNonblank revision.sourceRef.val = true) error
  .ok (db ++ [revision.row db profileJson])

/-- The revision that was appended. -/
def readRevision (id : String) (db : ToolDb) : ToolChecked ToolInventoryRevision := do
  let row ← orRaise (db.find? fun row ↦ row.id = id)
    (toolCorruption "Tool inventory revision disappeared")
  revisionOf row

/-- `_append`. -/
def appendRevision (revision : NewRevision) : ToolCall ToolInventoryRevision := do
  let profileJson ← .fromExcept (canonicalProfileJson revision.profile)
  .transaction (insertRevision revision profileJson)
  .ask (readRevision revision.id)

/-- `register`. -/
def register (uuid : Uuid) (profile : SemanticToolProfile) (sourceKind sourceRef : String) :
    ToolCall ToolInventoryRevision := do
  let source ← .fromExcept do
    let source ← sourceKindOf sourceKind
    require (source ≠ .artistCorrection)
      (inventoryError "ARTIST_CORRECTION requires correct(), not initial registration")
    .ok source
  .ask fun db ↦ require (db.rowsFor profile.toolId.val = [])
    (inventoryError s!"semantic tool already exists: {profile.toolId.val}; use correct()")
  let sourceRef ← .fromExcept (inventoryText sourceRef "source_ref")
  .ask (validateCandidateState profile none)
  appendRevision ⟨newId "tir" uuid, profile, .active, source, sourceRef, none⟩

/-- `correct`. -/
def correct (uuid : Uuid) (profile : SemanticToolProfile) (sourceRef reason : String) :
    ToolCall ToolInventoryRevision := do
  .ask fun db ↦ require (db.rowsFor profile.toolId.val ≠ [])
    ⟨.notFoundError, s!"unknown semantic tool: {profile.toolId.val}"⟩
  let sourceRef ← .fromExcept (inventoryText sourceRef "source_ref")
  let reason ← .fromExcept (inventoryText reason "reason")
  .ask (validateCandidateState profile (some profile.toolId))
  appendRevision ⟨newId "tir" uuid, profile, .active, .artistCorrection, sourceRef, some reason⟩

/-- `state`, as its latest revision. -/
def toolState (toolId : String) (db : ToolDb) : ToolChecked ToolInventoryRevision := do
  let toolId ← inventoryText toolId "tool_id"
  let row ← orRaise (db.rowsFor toolId.val).getLast?
    ⟨.notFoundError, s!"unknown semantic tool: {toolId.val}"⟩
  revisionOf row

/-- `retire`. -/
def retire (uuid : Uuid) (toolId sourceRef reason : String) : ToolCall ToolInventoryRevision := do
  let current ← .ask (toolState toolId)
  let (sourceRef, reason) ← .fromExcept do
    require (current.state = .active)
      (inventoryError s!"semantic tool is already retired: {current.toolId}")
    let sourceRef ← inventoryText sourceRef "source_ref"
    let reason ← inventoryText reason "reason"
    .ok (sourceRef, reason)
  appendRevision
    ⟨newId "tir" uuid, current.profile, .retired, .artistCorrection, sourceRef, some reason⟩

def nativeEndpoint (formatName : String) (native : Text) (profile : SemanticToolProfile) :
    Option (SemanticToolProfile × ToolEndpoint) :=
  (profile.endpoints.find? fun item ↦
    item.formatKind.name = formatName ∧ item.nativeIdentity = native).map (profile, ·)

/-- `by_native_identity`. -/
def byNativeIdentity (formatKind nativeIdentity : String) (db : ToolDb) :
    ToolChecked (Option (SemanticToolProfile × ToolEndpoint)) := do
  let format ← inventoryText formatKind "format_kind"
  let native ← inventoryText nativeIdentity "native_identity"
  let profiles ← db.activeProfiles
  .ok (profiles.findSome? (nativeEndpoint (upper format.val) native))

/-- What can be asked of the inventory. -/
inductive ToolOperation where
  /-- `register`. -/
  | register (uuid : Uuid) (profile : SemanticToolProfile) (sourceKind sourceRef : String)
  /-- `correct`. -/
  | correct (uuid : Uuid) (profile : SemanticToolProfile) (sourceRef reason : String)
  /-- `retire`. -/
  | retire (uuid : Uuid) (toolId sourceRef reason : String)

def toolProgram : ToolOperation → ToolCall ToolInventoryRevision
  | .register uuid profile sourceKind sourceRef => register uuid profile sourceKind sourceRef
  | .correct uuid profile sourceRef reason => correct uuid profile sourceRef reason
  | .retire uuid toolId sourceRef reason => retire uuid toolId sourceRef reason

end N0te.Tools
