import N0te.Library.Statements
import N0te.Library.Words
import N0te.Lineage.LineageStore

/-!
# Approving and comparing versions

`VersionApprovalService.approve` and `VersionCompareDecisionMemory.record` check what the artist was
shown against the song in one transaction, write, and read what they wrote after it. `lineageProgram`
is the rest of what moves songs and versions; every transaction on the lineage appends the activity
events of its triggers.

Scope. The memory is created. Random ids of activity events are left out.
-/

set_option autoImplicit false
set_option relaxedAutoImplicit false

namespace N0te.Decisions

open Library Lineage

/-! ### Exceptions -/

/-- The classes of the exceptions. -/
inductive DecisionErrorClass where
  | lineage (cls : LineageErrorClass)
  | versionApprovalError
  | staleVersionApprovalError
  | versionCompareDecisionError
  | staleVersionCompareDecisionError
  deriving DecidableEq

/-- A result or an exception. -/
abbrev Decided (α : Type) := Except (Raised DecisionErrorClass) α

/-- An exception of the lineage store. -/
def ofLineage (e : Raised LineageErrorClass) : Raised DecisionErrorClass := ⟨.lineage e.cls, e.text⟩

/-- The exception of the lineage store that an exception is, if it is one. -/
def toLineage (e : Raised DecisionErrorClass) : Option (Raised LineageErrorClass) :=
  match e.cls with
  | .lineage cls => some ⟨cls, e.text⟩
  | _ => none

/-- A `VersionApprovalError`. -/
def approvalError (message : String) : Raised DecisionErrorClass := ⟨.versionApprovalError, message⟩

/-- A `StaleVersionApprovalError`. -/
def staleApproval (message : String) : Raised DecisionErrorClass :=
  ⟨.staleVersionApprovalError, message⟩

/-- A `VersionCompareDecisionError`. -/
def compareError (message : String) : Raised DecisionErrorClass :=
  ⟨.versionCompareDecisionError, message⟩

/-- A `StaleVersionCompareDecisionError`. -/
def staleCompare (message : String) : Raised DecisionErrorClass :=
  ⟨.staleVersionCompareDecisionError, message⟩

/-! ### Tables -/

/-- `event_type`. -/
inductive ActivityType where
  | songCreated
  | songSelected
  | assetAttached
  | versionCreated
  | currentVersionChanged
  | versionApproved
  | versionCompareDecisionRecorded
  deriving DecidableEq

/-- A row of `activity_events`. -/
structure ActivityEvent where
  eventType : ActivityType
  artistId : String
  songId : String
  versionId : Option String
  objectType : String
  objectId : String
  deriving DecidableEq

/-- `DECISION_KINDS`. -/
inductive DecisionKind where
  | keep
  | revert
  | revise
  | inconclusive
  deriving DecidableEq

def DecisionKind.text : DecisionKind → String
  | .keep => "KEEP"
  | .revert => "REVERT"
  | .revise => "REVISE"
  | .inconclusive => "INCONCLUSIVE"

/-- All kinds. -/
def decisionKinds : List DecisionKind := [.keep, .revert, .revise, .inconclusive]

/-- `VersionCompareDecision`, a row of `version_compare_decisions`. -/
structure VersionCompareDecision where
  sequence : ℕ
  id : String
  artistId : String
  songId : String
  referenceVersionId : String
  currentVersionId : String
  decision : DecisionKind
  rationale : Option String
  deriving DecidableEq

/-- The tables that the two services use. -/
structure DecisionDb where
  lineage : LineageDb
  activity : List ActivityEvent
  decisions : List VersionCompareDecision

/-! ### Triggers -/

/-- `activity_song_selected`. -/
def selectedEvents (before after : LineageDb) : List ActivityEvent :=
  match after.metadata.lookup "active_song_id" with
  | none => []
  | some songId =>
    if songId ≠ "" ∧ before.metadata.lookup "active_song_id" ≠ some songId then
      (after.songs.filter fun song ↦ song.id = songId).map fun song ↦
        ⟨.songSelected, song.artistId, song.id, song.currentVersionId, "SONG", song.id⟩
    else []

/-- A trigger on a version of a song, for the rows of which it changed. -/
def pointerEvents (eventType : ActivityType) (pointer : Song → Option String)
    (before after : LineageDb) : List ActivityEvent :=
  (before.songs.zip after.songs).filterMap fun rows ↦
    if pointer rows.2 = pointer rows.1 then none
    else (pointer rows.2).map fun versionId ↦
      ⟨eventType, rows.2.artistId, rows.2.id, some versionId, "VERSION", versionId⟩

/-- The activity events of a transaction on the lineage, in the order of its statements. -/
def triggered (before after : LineageDb) : List ActivityEvent :=
  let artistOf (songId : String) : List String :=
    (after.songs.filter fun song ↦ song.id = songId).map Song.artistId
  (after.songs.drop before.songs.length).map (fun song ↦
      ⟨.songCreated, song.artistId, song.id, none, "SONG", song.id⟩) ++
    selectedEvents before after ++
    (after.assets.drop before.assets.length).flatMap (fun asset ↦
      (artistOf asset.songId).map fun artistId ↦
        ⟨.assetAttached, artistId, asset.songId, none, "ASSET", asset.id⟩) ++
    (after.versions.drop before.versions.length).flatMap (fun version ↦
      (artistOf version.songId).map fun artistId ↦
        ⟨.versionCreated, artistId, version.songId, some version.id, "VERSION", version.id⟩) ++
    pointerEvents .currentVersionChanged Song.currentVersionId before after ++
    pointerEvents .versionApproved Song.approvedVersionId before after

/-- The tables after a transaction on the lineage. -/
def DecisionDb.withLineage (db : DecisionDb) (lineage : LineageDb) : DecisionDb :=
  { db with lineage := lineage, activity := db.activity ++ triggered db.lineage lineage }

/-! ### Approval -/

/-- `VersionApprovalBinding`. -/
structure VersionApprovalBinding where
  songId : String
  targetVersionId : String
  expectedCurrentVersionId : Option String
  expectedApprovedVersionId : Option String

/-- `VersionApprovalResult`. -/
structure VersionApprovalResult where
  song : Song
  approvedVersion : Version
  deriving DecidableEq

/-- The rows that the `UPDATE` of `approve` changes. -/
def VersionApprovalBinding.fits (binding : VersionApprovalBinding) (song : Song) : Bool :=
  song.id = binding.songId ∧ song.currentVersionId = binding.expectedCurrentVersionId ∧
    song.approvedVersionId = binding.expectedApprovedVersionId

/-- A row after the `UPDATE` of `approve`. -/
def VersionApprovalBinding.change (binding : VersionApprovalBinding) (song : Song) : Song :=
  if binding.fits song = true then
    { song with approvedVersionId := some binding.targetVersionId }
  else song

/-- The `UPDATE` of `approve`, with the trigger `song_approved_same_song`. -/
def updateExact (binding : VersionApprovalBinding) (lineage : LineageDb) : Decided LineageDb := do
  require (∀ song ∈ lineage.songs, binding.fits song = true →
      ∃ version ∈ lineage.versions, version.id = binding.targetVersionId ∧ version.songId = song.id)
    (ofLineage (integrityError "approved version belongs to a different song"))
  return { lineage with songs := lineage.songs.map binding.change }

/-- The transaction of `approve`. -/
def approveChange (binding : VersionApprovalBinding) (db : DecisionDb) : Decided DecisionDb := do
  let active ← orRaise (db.lineage.metadata.lookup "active_song_id")
    (ofLineage (corruption "active Song metadata disappeared"))
  require (active = binding.songId)
    (staleApproval "active Song changed after approval was prepared")
  let song ← orRaise (db.lineage.songs.find? fun song ↦ song.id = binding.songId)
    (staleApproval "active Song disappeared after approval was prepared")
  require (song.currentVersionId = binding.expectedCurrentVersionId)
    (staleApproval "current Version changed after approval was prepared")
  require (song.approvedVersionId = binding.expectedApprovedVersionId)
    (staleApproval "approved Version changed after approval was prepared")
  let target := db.lineage.versions.find? fun version ↦ version.id = binding.targetVersionId
  require (target.map Version.songId = some binding.songId)
    (approvalError "approval target is not a Version of the active Song")
  require (song.approvedVersionId ≠ some binding.targetVersionId)
    (staleApproval "that exact Version is already approved")
  let lineage ← updateExact binding db.lineage
  require ((db.lineage.songs.filter binding.fits).length = 1)
    (staleApproval "Song Version state changed before approval committed")
  return db.withLineage lineage

/-- What `approve` makes of what it reads after the commit. -/
def approvalResult (binding : VersionApprovalBinding) (song : Option Song) (target : Option Version) :
    Decided VersionApprovalResult := do
  let disappeared := ofLineage (corruption "approved Version lineage disappeared after commit")
  let song ← orRaise song disappeared
  let target ← orRaise target disappeared
  require (song.currentVersionId = binding.expectedCurrentVersionId)
    (approvalError "approval unexpectedly changed the current Version")
  require (song.approvedVersionId = some target.id)
    (approvalError "canonical approval pointer did not match the target Version")
  return ⟨song, target⟩

/-- A call of one of the services. -/
abbrev DecisionCall (α : Type) := Call DecisionDb (Raised DecisionErrorClass) α

/-- The second read after the commit. -/
def readTarget (binding : VersionApprovalBinding) (song : Option Song) :
    DecisionCall VersionApprovalResult := do
  let target ← .select fun db ↦
    db.lineage.versions.find? fun version ↦ version.id = binding.targetVersionId
  .fromExcept (approvalResult binding song target)

/-- What `approve` reads after the commit. -/
def readApproved (binding : VersionApprovalBinding) : DecisionCall VersionApprovalResult := do
  let song ← .select fun db ↦ db.lineage.songs.find? fun song ↦ song.id = binding.songId
  readTarget binding song

/-- `VersionApprovalService.approve`. -/
def approve (binding : VersionApprovalBinding) : DecisionCall VersionApprovalResult := do
  .transaction (approveChange binding)
  readApproved binding

/-! ### Comparison -/

/-- `VersionCompareDecisionBinding`. -/
structure VersionCompareDecisionBinding where
  songId : String
  referenceVersionId : String
  currentVersionId : String

def decisionKind (decision : String) : Decided DecisionKind :=
  let kind := upper (strip decision)
  orRaise (decisionKinds.find? fun known ↦ known.text = kind)
    (ofLineage ⟨.validationError, "unsupported comparison decision: " ++ kind⟩)

/-- `_optional_rationale`. -/
def optionalRationale : Option String → Decided (Option String)
  | none => .ok none
  | some value =>
    let text := collapse value
    if text = "" then .ok none
    else if 1200 < text.length then
      .error (ofLineage ⟨.validationError, "comparison decision rationale is too long"⟩)
    else .ok (some text)

/-- `INSERT INTO version_compare_decisions`, with its triggers. -/
def insertDecision (row : VersionCompareDecision) (db : DecisionDb) : Decided DecisionDb := do
  require ((∃ version ∈ db.lineage.versions, version.id = row.referenceVersionId ∧
        version.songId = row.songId) ∧
      (∃ version ∈ db.lineage.versions, version.id = row.currentVersionId ∧
        version.songId = row.songId) ∧
      ∃ song ∈ db.lineage.songs, song.id = row.songId ∧ song.artistId = row.artistId)
    (ofLineage (integrityError "Version comparison decision pair crosses Song or Artist"))
  require (∀ decision ∈ db.decisions, decision.id ≠ row.id)
    (ofLineage (integrityError "UNIQUE constraint failed: version_compare_decisions.id"))
  require (row.referenceVersionId ≠ row.currentVersionId ∧
      ∀ rationale ∈ row.rationale, sqlNonblank rationale = true)
    (ofLineage (integrityError "CHECK constraint failed"))
  require (∃ artist ∈ db.lineage.artists, artist.id = row.artistId)
    (ofLineage (integrityError "FOREIGN KEY constraint failed"))
  return { db with
    decisions := db.decisions ++ [row]
    activity := db.activity ++ [⟨.versionCompareDecisionRecorded, row.artistId, row.songId,
      some row.currentVersionId, "VERSION_COMPARE_DECISION", row.id⟩] }

/-- `SELECT COUNT(*) FROM versions WHERE song_id=? AND id IN (?,?)`. -/
def pairCount (binding : VersionCompareDecisionBinding) (lineage : LineageDb) : ℕ :=
  (lineage.versions.filter fun version ↦ version.songId = binding.songId ∧
    (version.id = binding.referenceVersionId ∨ version.id = binding.currentVersionId)).length

/-- The transaction of `record`. -/
def recordChange (id : String) (binding : VersionCompareDecisionBinding) (kind : DecisionKind)
    (note : Option String) (db : DecisionDb) : Decided DecisionDb := do
  require (db.lineage.metadata.lookup "active_song_id" = some binding.songId)
    (staleCompare "The active Song changed after this A/B decision was prepared.")
  let song ← orRaise (db.lineage.songs.find? fun song ↦ song.id = binding.songId)
    (staleCompare "The compared Song no longer exists.")
  require (song.currentVersionId = some binding.currentVersionId)
    (staleCompare "The current Version changed after this A/B decision was prepared.")
  require (binding.referenceVersionId ≠ binding.currentVersionId)
    (compareError "A comparison decision requires two distinct Versions.")
  require (pairCount binding db.lineage = 2)
    (staleCompare "The exact A/B pair is no longer valid for this Song.")
  insertDecision ⟨db.decisions.length + 1, id, song.artistId, binding.songId,
    binding.referenceVersionId, binding.currentVersionId, kind, note⟩ db

/-- The exceptions of the transaction of `record`. -/
def recordRaised (e : Raised DecisionErrorClass) : Raised DecisionErrorClass :=
  if e.cls = .lineage .integrityError then
    compareError ("Version comparison decision was rejected safely: " ++ e.text)
  else e

/-- What `record` reads after the commit. -/
def readRecorded (id : String) (kind : DecisionKind) : DecisionCall VersionCompareDecision := do
  let row ← .select fun db ↦ db.decisions.find? fun decision ↦ decision.id = id
  .fromExcept do
    let row ← orRaise row
      (ofLineage (corruption "Version comparison decision disappeared after commit"))
    require (row.decision = kind)
      (ofLineage (corruption "Version comparison decision changed after commit"))
    return row

/-- `VersionCompareDecisionMemory.record`. -/
def record (uuid : Uuid) (binding : VersionCompareDecisionBinding) (decision : String)
    (rationale : Option String) : DecisionCall VersionCompareDecision := do
  let kind ← .fromExcept (decisionKind decision)
  let note ← .fromExcept (optionalRationale rationale)
  let id := newId "vcd" uuid
  (Call.transaction (recordChange id binding kind note)).rescue fun e ↦
    .fromExcept (.error (recordRaised e))
  readRecorded id kind

/-- `latest_for_pair`. -/
def DecisionDb.latestForPair (db : DecisionDb) (binding : VersionCompareDecisionBinding) :
    Option VersionCompareDecision :=
  (db.decisions.filter fun decision ↦ decision.songId = binding.songId ∧
    decision.referenceVersionId = binding.referenceVersionId ∧
    decision.currentVersionId = binding.currentVersionId).getLast?

/-! ### Programs -/

/-- The operations. -/
inductive DecisionOperation where
  | lineage (operation : LineageOperation)
  | approve (binding : VersionApprovalBinding)
  | record (uuid : Uuid) (binding : VersionCompareDecisionBinding) (decision : String)
      (rationale : Option String)

/-- What an operation returns. -/
inductive DecisionAnswer where
  | lineage (answer : LineageAnswer)
  | approved (result : VersionApprovalResult)
  | recorded (decision : VersionCompareDecision)
  deriving DecidableEq

def decisionProgram (profileId : String) : DecisionOperation → DecisionCall DecisionAnswer
  | .lineage operation =>
    ((.lineage <$> lineageProgram profileId operation).within DecisionDb.lineage
      DecisionDb.withLineage).mapError ofLineage toLineage
  | .approve binding => .approved <$> approve binding
  | .record uuid binding decision rationale => .recorded <$> record uuid binding decision rationale

end N0te.Decisions
