import Mathlib.Data.List.Sort
import Mathlib.Data.Rat.Defs
import N0te.Library.BoundLog
import N0te.Library.Statements
import N0te.Library.Words
import N0te.Lineage.LineageStore

/-!
# Skills and the career state

`SkillModelService.declare` and `correct` append to the assessments of a skill, and
`CareerStateMemory.record_state` to the career states of the artist. Each is bound to the entry that
the artist was shown: it checks in the transaction that this is still the latest one, appends, and
reads what it appended after the commit.

Scope. The tables are created. The services insert no session, no song and no evidence, so the
triggers on these do not apply; the activity events of the inserts are left out.
-/

set_option autoImplicit false
set_option relaxedAutoImplicit false

namespace N0te.Artist

open Library Lineage

/-! ### Exceptions -/

/-- The classes of the exceptions. -/
inductive ArtistErrorClass where
  | lineage (cls : LineageErrorClass)
  | skillModelError
  | staleSkillModelError
  | staleCareerStateError
  deriving DecidableEq

/-- A result or an exception. -/
abbrev Bound (α : Type) := Except (Raised ArtistErrorClass) α

/-- A `ValidationError`. -/
def invalid (message : String) : Raised ArtistErrorClass := ⟨.lineage .validationError, message⟩

/-- A `LineageCorruptionError`. -/
def corrupt (message : String) : Raised ArtistErrorClass :=
  ⟨.lineage .lineageCorruptionError, message⟩

/-- A `sqlite3.IntegrityError`. -/
def violated (message : String) : Raised ArtistErrorClass := ⟨.lineage .integrityError, message⟩

/-- An `IntegrityError` is translated, and everything else raised again. -/
def rejected (translated : ArtistErrorClass) (message : String) (e : Raised ArtistErrorClass) :
    Raised ArtistErrorClass :=
  if e.cls = .lineage .integrityError then ⟨translated, message ++ e.text⟩ else e

/-! ### Tables -/

/-- `SKILL_LEVELS`. -/
inductive SkillLevel where
  | unknown
  | introduced
  | practiced
  | applied
  | independent
  deriving DecidableEq

def SkillLevel.text : SkillLevel → String
  | .unknown => "UNKNOWN"
  | .introduced => "INTRODUCED"
  | .practiced => "PRACTICED"
  | .applied => "APPLIED"
  | .independent => "INDEPENDENT"

/-- `_ARTIST_DECLARATION_LEVELS`. -/
def artistDeclarationLevels : List SkillLevel := [.introduced, .practiced, .applied, .independent]

/-- `SKILL_LEVELS`. -/
def skillLevels : List SkillLevel := .unknown :: artistDeclarationLevels

/-- `SKILL_SOURCE_KINDS`. -/
inductive SkillSourceKind where
  | artistDeclared
  | artistCorrection
  | n0teAssessed
  | observed
  deriving DecidableEq

/-- The columns of `skill_assessments` that an insert gives. -/
structure SkillColumns where
  id : String
  skillId : String
  level : SkillLevel
  sourceKind : SkillSourceKind
  sourceRef : String
  confidence : ℚ
  assistanceLevel : ℚ
  sessionId : Option String
  songId : Option String
  note : Option String
  deriving DecidableEq

/-- A row of `skill_assessments`. -/
structure SkillRow extends SkillColumns where
  sequence : ℕ
  deriving DecidableEq

/-- A row of `skill_assessment_evidence`. -/
structure SkillEvidence where
  assessmentId : String
  claimId : String

/-- `SkillAssessment`. -/
structure SkillAssessment where
  row : SkillRow
  evidenceClaimIds : List String
  deriving DecidableEq

/-- `SkillState`. -/
structure SkillState where
  skillId : String
  level : SkillLevel
  latestAssessment : Option SkillAssessment

/-- `CAREER_STATES`. -/
inductive CareerState where
  | survival
  | building
  | creating
  | releasing
  | growing
  | touring
  | clientHeavy
  | recovery
  | experimenting
  deriving DecidableEq

def CareerState.text : CareerState → String
  | .survival => "SURVIVAL"
  | .building => "BUILDING"
  | .creating => "CREATING"
  | .releasing => "RELEASING"
  | .growing => "GROWING"
  | .touring => "TOURING"
  | .clientHeavy => "CLIENT_HEAVY"
  | .recovery => "RECOVERY"
  | .experimenting => "EXPERIMENTING"

/-- `CAREER_STATES`. -/
def careerStates : List CareerState :=
  [.survival, .building, .creating, .releasing, .growing, .touring, .clientHeavy, .recovery,
    .experimenting]

/-- `CAREER_STATE_TRUTH_TYPE`. -/
def careerStateTruthType : String := "USER_DECLARED"

/-- `CareerStateEntry`, a row of `career_state_entries`. -/
structure CareerStateEntry where
  sequence : ℕ
  id : String
  artistId : String
  state : CareerState
  rationale : Option String
  truthType : String
  deriving DecidableEq

/-- The tables that the services use, each in the order of `seq`. -/
structure ArtistDb where
  artists : List String
  primaryArtistId : String
  skills : List SkillRow
  skillEvidence : List SkillEvidence
  careerStates : List CareerStateEntry

/-- A call of one of the services. -/
abbrev ArtistCall (α : Type) := Call ArtistDb (Raised ArtistErrorClass) α

/-! ### What is read -/

def ArtistDb.latestRow (db : ArtistDb) (skillId : String) : Option SkillRow :=
  latest (fun row : SkillRow ↦ row.skillId) db.skills skillId

/-- `_evidence_ids`. -/
def ArtistDb.evidenceIds (db : ArtistDb) (assessmentId : String) : List String :=
  ((db.skillEvidence.filter fun link ↦ link.assessmentId = assessmentId).map
    SkillEvidence.claimId).insertionSort (· ≤ ·)

/-- `SkillMemory._text`. -/
def text (value field : String) : Bound String := do
  require (strip value ≠ "") (invalid (field ++ " must not be empty"))
  return strip value

/-- `SkillMemory.state` once the rows are read. -/
def stateOf (skillId : String) : Option SkillRow → ArtistCall SkillState
  | none => pure ⟨skillId, .unknown, none⟩
  | some row => do
    let evidenceIds ← .select fun db ↦ db.evidenceIds row.id
    pure ⟨skillId, row.level, some ⟨row, evidenceIds⟩⟩

/-- `SkillMemory.state`. -/
def skillState (skillId : String) : ArtistCall SkillState := do
  let skillId ← .fromExcept (text skillId "skill_id")
  let row ← .select fun db ↦ db.latestRow skillId
  stateOf skillId row

/-- `CareerStateMemory.current_state`. -/
def ArtistDb.currentState (db : ArtistDb) : Option CareerStateEntry :=
  latest CareerStateEntry.artistId db.careerStates db.primaryArtistId

/-! ### The arguments of the skill model -/

/-- `_skill_name`. -/
def skillName (value : String) : Bound String := do
  let name := collapse value
  require (name ≠ "") (invalid "Skill name must not be empty")
  require (name.length ≤ 120) (invalid "Skill name is too long")
  return name

/-- `_level`. -/
def levelOf (value : String) (correction : Bool) : Bound SkillLevel :=
  let level := upper (strip value)
  let allowed := if correction then skillLevels else artistDeclarationLevels
  orRaise (allowed.find? fun known ↦ known.text = level)
    (invalid ("unsupported artist Skill level: " ++ level))

/-- `_ASSISTANCE_LEVELS`. -/
def assistanceLevels : List (String × ℚ) := [("NONE", 0), ("SOME", 1 / 2), ("HIGH", 1)]

/-- `_assistance`. -/
def assistanceOf (value : String) (level : SkillLevel) : Bound ℚ :=
  if level = .unknown then .ok 1
  else do
    let assistance ← orRaise (assistanceLevels.lookup (upper (strip value)))
      (invalid "unsupported assistance level")
    require (level = .independent → assistance = 0) (invalid "INDEPENDENT means no assistance")
    return assistance

/-- `_CONFIDENCE_LEVELS`. -/
def confidenceLevels : List (String × ℚ) := [("LOW", 2 / 5), ("MEDIUM", 7 / 10), ("HIGH", 1)]

/-- `_confidence`. -/
def confidenceOf (value : String) : Bound ℚ :=
  orRaise (confidenceLevels.lookup (upper (strip value))) (invalid "unsupported confidence level")

def correctionReason (value : String) : Bound String := do
  let reason := collapse value
  require (reason ≠ "") (invalid "Skill correction reason must not be empty")
  require (reason.length ≤ 500) (invalid "Skill correction reason is too long")
  return reason

/-- A source reference: its kind, a colon and `uuid4().hex`. -/
def sourceRef (kind : String) (uuid : Uuid) : String := String.ofList (kind.toList ++ ':' :: uuid.hex)

/-! ### Appending an assessment -/

/-- `INSERT INTO skill_assessments`, with the triggers that apply. -/
def ArtistDb.insertAssessment (db : ArtistDb) (columns : SkillColumns) : Bound ArtistDb := do
  require (columns.level = .independent → columns.assistanceLevel = 0)
    (violated "INDEPENDENT requires zero assistance")
  require (columns.level = .unknown → columns.sourceKind = .artistCorrection)
    (violated "UNKNOWN may be written only as an artist correction")
  require (columns.sourceKind = .artistCorrection → columns.note.any sqlNonblank = true)
    (violated "artist Skill correction requires a reason")
  require (sqlNonblank columns.skillId = true ∧ sqlNonblank columns.sourceRef = true ∧
      (0 ≤ columns.confidence ∧ columns.confidence ≤ 1) ∧
      0 ≤ columns.assistanceLevel ∧ columns.assistanceLevel ≤ 1)
    (violated "CHECK constraint failed")
  require (columns.id ∉ db.skills.map fun row ↦ row.id)
    (violated "UNIQUE constraint failed: skill_assessments.id")
  let sequence := (db.skills.getLast?.elim 0 SkillRow.sequence) + 1
  return { db with skills := db.skills ++ [⟨columns, sequence⟩] }

/-- What a call of the skill model appends: its row, the id of the assessment that must be the
latest one, and its messages. -/
structure SkillAppend where
  columns : SkillColumns
  expected : Option String
  stale : String
  refused : String
  unsettled : String

/-- The transaction of an append. -/
def SkillAppend.change (append : SkillAppend) (db : ArtistDb) : Bound ArtistDb := do
  require ((db.latestRow append.columns.skillId).map (fun row ↦ row.id) = append.expected)
    ⟨.staleSkillModelError, append.stale⟩
  db.insertAssessment append.columns

/-- The check of what is read back. -/
def SkillAppend.settled (append : SkillAppend) (state : SkillState) : Bound SkillAssessment := do
  let latest ← orRaise state.latestAssessment (corrupt append.unsettled)
  require (latest.row.id = append.columns.id) (corrupt append.unsettled)
  return latest

/-- What an append does after its commit. -/
def SkillAppend.readBack (append : SkillAppend) : ArtistCall SkillAssessment := do
  let state ← skillState append.columns.skillId
  .fromExcept (append.settled state)

def SkillAppend.call (append : SkillAppend) : ArtistCall SkillAssessment := do
  (Call.transaction append.change).rescue fun e ↦
    .fromExcept (.error (rejected .skillModelError append.refused e))
  append.readBack

/-- What `declare` appends. -/
def declaration (assessment source : Uuid) (skillId level assistance confidence : String) :
    Bound SkillAppend := do
  let skillId ← skillName skillId
  let level ← levelOf level false
  let assistance ← assistanceOf assistance level
  let confidence ← confidenceOf confidence
  return {
    columns := ⟨newId "skillassess" assessment, skillId, level, .artistDeclared,
      sourceRef "consumer-skill-declaration" source, confidence, assistance, none, none, none⟩
    expected := none
    stale := "That Skill is already recorded. Reload and correct its current state instead."
    refused := "Skill declaration was rejected safely: "
    unsettled := "declared Skill assessment did not become canonical latest state" }

/-- `SkillModelService.declare`. -/
def declare (assessment source : Uuid) (skillId level assistance confidence : String) :
    ArtistCall SkillAssessment := do
  let append ← .fromExcept (declaration assessment source skillId level assistance confidence)
  append.call

/-- `SkillModelBinding`. -/
structure SkillModelBinding where
  skillId : String
  expectedLatestAssessmentId : String

/-- What `correct` appends. -/
def correction (assessment source : Uuid) (binding : SkillModelBinding)
    (level assistance reason confidence : String) : Bound SkillAppend := do
  let skillId ← skillName binding.skillId
  let level ← levelOf level true
  let assistance ← assistanceOf assistance level
  let confidence ← confidenceOf confidence
  let reason ← correctionReason reason
  return {
    columns := ⟨newId "skillassess" assessment, skillId, level, .artistCorrection,
      sourceRef "consumer-skill-correction" source, confidence, assistance, none, none, some reason⟩
    expected := some binding.expectedLatestAssessmentId
    stale := "That Skill changed after this page was prepared. Reload before correcting it."
    refused := "Skill correction was rejected safely: "
    unsettled := "corrected Skill assessment did not become canonical latest state" }

/-- `SkillModelService.correct`. -/
def correct (assessment source : Uuid) (binding : SkillModelBinding)
    (level assistance reason confidence : String) : ArtistCall SkillAssessment := do
  let append ← .fromExcept (correction assessment source binding level assistance reason confidence)
  append.call

/-! ### Recording a career state -/

/-- `normalize_career_state`. -/
def normalizeCareerState (value : String) : Bound CareerState :=
  let state := underscored (upper (strip value))
  orRaise (careerStates.find? fun known ↦ known.text = state)
    (invalid ("unsupported Career State: " ++ state))

/-- `_optional_rationale`. -/
def optionalRationale : Option String → Bound (Option String)
  | none => .ok none
  | some value =>
    let text := collapse value
    if text = "" then .ok none
    else if 1000 < text.length then .error (invalid "Career State context is too long")
    else .ok (some text)

/-- What is recorded: its id, the state and the context, and the id of the entry that must be
current. -/
structure StateAppend where
  id : String
  state : CareerState
  rationale : Option String
  expected : Option String

/-- An entry fits what is to be recorded. -/
def StateAppend.fits (append : StateAppend) (entry : CareerStateEntry) : Bool :=
  entry.state = append.state ∧ entry.rationale = append.rationale

/-- `INSERT INTO career_state_entries`. -/
def ArtistDb.insertCareerState (db : ArtistDb) (append : StateAppend) : Bound ArtistDb := do
  require (∀ rationale ∈ append.rationale, sqlNonblank rationale = true)
    (violated "CHECK constraint failed")
  require (append.id ∉ db.careerStates.map CareerStateEntry.id)
    (violated "UNIQUE constraint failed: career_state_entries.id")
  require (db.primaryArtistId ∈ db.artists) (violated "FOREIGN KEY constraint failed")
  let sequence := (db.careerStates.getLast?.elim 0 CareerStateEntry.sequence) + 1
  return { db with
    careerStates := db.careerStates ++ [⟨sequence, append.id, db.primaryArtistId, append.state,
      append.rationale, careerStateTruthType⟩] }

/-- The transaction of `record_state`. -/
def StateAppend.change (append : StateAppend) (db : ArtistDb) : Bound ArtistDb := do
  require (db.currentState.map CareerStateEntry.id = append.expected)
    ⟨.staleCareerStateError, "Career State changed while the new context was being recorded"⟩
  db.insertCareerState append

/-- What `record_state` does after its commit. -/
def StateAppend.readBack (append : StateAppend) : ArtistCall CareerStateEntry := do
  let result ← .select ArtistDb.currentState
  .fromExcept do
    let result ← orRaise result (corrupt "new Career State did not become current")
    require (result.id = append.id) (corrupt "new Career State did not become current")
    return result

/-- `record_state` from its transaction on. -/
def StateAppend.record (append : StateAppend) : ArtistCall CareerStateEntry := do
  (Call.transaction append.change).rescue fun e ↦
    .fromExcept (.error (rejected (.lineage .validationError) "cannot record Career State: " e))
  append.readBack

/-- `record_state` once the current entry is read. -/
def StateAppend.review (append : StateAppend) (current : Option CareerStateEntry) :
    ArtistCall CareerStateEntry :=
  if current.map CareerStateEntry.id = append.expected then
    match current.filter append.fits with
    | some current => pure current
    | none => append.record
  else .fromExcept (.error ⟨.staleCareerStateError,
    "Career State changed after it was reviewed; reload before replacing newer context"⟩)

/-- The arguments of `record_state`. -/
def stateAppend (uuid : Uuid) (state : String) (rationale expectedCurrentId : Option String) :
    Bound StateAppend := do
  let state ← normalizeCareerState state
  let rationale ← optionalRationale rationale
  return ⟨newId "career_state" uuid, state, rationale, expectedCurrentId⟩

/-- `CareerStateMemory.record_state`. -/
def recordState (uuid : Uuid) (state : String) (rationale expectedCurrentId : Option String) :
    ArtistCall CareerStateEntry := do
  let append ← .fromExcept (stateAppend uuid state rationale expectedCurrentId)
  let current ← .select ArtistDb.currentState
  append.review current

/-! ### Programs -/

/-- The operations of the skill model. -/
inductive SkillRequest where
  | declare (assessment source : Uuid) (skillId level assistance confidence : String)
  | correct (assessment source : Uuid) (binding : SkillModelBinding)
      (level assistance reason confidence : String)

/-- What an operation of the skill model appends. -/
def SkillRequest.append : SkillRequest → Bound SkillAppend
  | .declare assessment source skillId level assistance confidence =>
    declaration assessment source skillId level assistance confidence
  | .correct assessment source binding level assistance reason confidence =>
    correction assessment source binding level assistance reason confidence

/-- The call of an operation of the skill model. -/
def SkillRequest.call : SkillRequest → ArtistCall SkillAssessment
  | .declare assessment source skillId level assistance confidence =>
    Artist.declare assessment source skillId level assistance confidence
  | .correct assessment source binding level assistance reason confidence =>
    Artist.correct assessment source binding level assistance reason confidence

/-- The operations. -/
inductive ArtistOperation where
  | skill (request : SkillRequest)
  | career (uuid : Uuid) (state : String) (rationale expectedCurrentId : Option String)

/-- What an operation returns. -/
inductive ArtistAnswer where
  | assessed (assessment : SkillAssessment)
  | recorded (entry : CareerStateEntry)
  deriving DecidableEq

def artistProgram : ArtistOperation → ArtistCall ArtistAnswer
  | .skill request => .assessed <$> request.call
  | .career uuid state rationale expectedCurrentId =>
    .recorded <$> recordState uuid state rationale expectedCurrentId

end N0te.Artist
