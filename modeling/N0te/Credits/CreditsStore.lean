import Mathlib.Algebra.Ring.Int.Defs
import N0te.Library.EventLog
import N0te.People.Profile

/-!
# Composition splits

A split sheet of a song says who has which share of its composition, in basis points. A draft is edited,
then submitted, and from then on its participants confirm or dispute it; a sheet that is not voided is
active. Sheets are updated in place, the allocations of a draft are replaced, and the confirmations are
append-only.

An operation checks what it reads outside of any transaction, and the triggers of its one transaction
check again.

Scope. Song credits, which no split reads, the activity feed that triggers fill, and the triggers' names
are left out.
-/

set_option autoImplicit false
set_option relaxedAutoImplicit false

namespace N0te.Credits

open Library Lineage People

/-! ### Rows -/

/-- `SPLIT_STATES`. -/
inductive SplitState where
  | draft
  | openConfirmation
  | voided
  deriving DecidableEq

/-- `CONFIRMATION_STATUSES`. -/
inductive ConfirmationStatus where
  | recordedConfirmed
  | recordedDisputed
  deriving DecidableEq

/-- The states of an active sheet. -/
def SplitState.active : SplitState → Bool
  | draft => true
  | openConfirmation => true
  | voided => false

def ConfirmationStatus.ofName : String → Option ConfirmationStatus
  | "RECORDED_CONFIRMED" => some recordedConfirmed
  | "RECORDED_DISPUTED" => some recordedDisputed
  | _ => none

/-- A row of `composition_split_sheets`. -/
structure CompositionSplitSheet where
  id : String
  artistId : String
  songId : String
  state : SplitState
  /-- Why it was voided. -/
  closureNote : Option String
  deriving DecidableEq

/-- A row of `composition_split_allocations`. -/
structure CompositionSplitAllocation where
  id : String
  sheetId : String
  artistId : String
  songId : String
  personId : String
  basisPoints : ℤ
  deriving DecidableEq

/-- A row of `composition_split_confirmations`. -/
structure SplitConfirmation where
  id : String
  sheetId : String
  artistId : String
  songId : String
  personId : String
  /-- What the participant said. -/
  status : ConfirmationStatus
  note : String
  deriving DecidableEq

/-- The tables. -/
structure CreditsDb where
  /-- `composition_split_sheets`. -/
  sheets : List CompositionSplitSheet
  /-- `composition_split_allocations`. -/
  allocations : List CompositionSplitAllocation
  /-- `composition_split_confirmations`. -/
  confirmations : List SplitConfirmation

namespace CreditsDb

variable (db : CreditsDb)

/-- The tables of a new store. -/
def empty : CreditsDb := ⟨[], [], []⟩

/-! ### Reads -/

def allocationsOf (sheetId : String) : List CompositionSplitAllocation :=
  historyOf CompositionSplitAllocation.sheetId sheetId db.allocations

def confirmationsOf (sheetId : String) : List SplitConfirmation :=
  historyOf SplitConfirmation.sheetId sheetId db.confirmations

/-- The last confirmation of a participant. -/
def latestOf (sheetId personId : String) : Option SplitConfirmation :=
  (historyOf (fun row : SplitConfirmation ↦ (row.sheetId, row.personId)) (sheetId, personId)
    db.confirmations).getLast?

/-- The basis points of a sheet. -/
def totalOf (sheetId : String) : ℤ :=
  ((db.allocationsOf sheetId).map CompositionSplitAllocation.basisPoints).sum

def HasSheet (sheetId : String) (state : SplitState) : Prop :=
  ∃ sheet ∈ db.sheets, sheet.id = sheetId ∧ sheet.state = state

instance (sheetId : String) (state : SplitState) : Decidable (db.HasSheet sheetId state) :=
  inferInstanceAs (Decidable (∃ sheet ∈ db.sheets, _))

def activeSheetsOf (songId : String) : List CompositionSplitSheet :=
  db.sheets.filter fun sheet ↦ sheet.songId = songId ∧ sheet.state.active = true

/-- `get_split_sheet`. -/
def getSplitSheet (sheetId : String) : Option CompositionSplitSheet :=
  db.sheets.find? fun sheet ↦ sheet.id = strip sheetId

/-! ### Statements -/

variable (profile : Profile)

/-- `INSERT INTO composition_split_sheets`, with the trigger `credits_split_song_valid` and the index
`composition_split_one_active_per_song`. -/
def insertSheet (row : CompositionSplitSheet) : Checked CreditsDb := do
  require (∃ song ∈ profile.songs, song.id = row.songId ∧ song.artistId = row.artistId)
    (integrityError "split Song belongs to a different Artist")
  require (∀ other ∈ db.sheets, other.id ≠ row.id)
    (integrityError "UNIQUE constraint failed: composition_split_sheets.id")
  require (row.state.active = true → db.activeSheetsOf row.songId = [])
    (integrityError "UNIQUE constraint failed: composition_split_sheets.song_id")
  .ok { db with sheets := db.sheets ++ [row] }

/-- The triggers of an update of a sheet. -/
def checkUpdate (old new : CompositionSplitSheet) : Checked Unit := do
  require (new.id = old.id ∧ new.artistId = old.artistId ∧ new.songId = old.songId)
    (integrityError "split identity and Song binding are immutable")
  require (old.state = .draft ∧ new.state = .openConfirmation ∧ new.closureNote = none ∨
      old.state.active = true ∧ new.state = .voided ∧
        ∃ note ∈ new.closureNote, sqlNonblank note = true)
    (integrityError "invalid composition split state transition")
  require (old.state = .draft ∧ new.state = .openConfirmation →
      db.allocationsOf old.id ≠ [] ∧ db.totalOf old.id = 10000)
    (integrityError "composition split must total exactly 100 percent")

/-- `UPDATE composition_split_sheets SET … WHERE id = ? AND state IN …`: the store and how many rows
changed. -/
def updateSheets (sheetId : String) (states : List SplitState)
    (change : CompositionSplitSheet → CompositionSplitSheet) : Checked (CreditsDb × ℕ) := do
  -- The triggers let no update make a sheet active, so the index on active sheets refuses none.
  let rows := db.sheets.filter fun sheet ↦ sheet.id = sheetId ∧ sheet.state ∈ states
  let _ ← checkEach (fun _ old ↦ db.checkUpdate old (change old)) 0 rows
  .ok ({ db with sheets := db.sheets.map fun sheet ↦
    if sheet.id = sheetId ∧ sheet.state ∈ states then change sheet else sheet }, rows.length)

/-- `DELETE FROM composition_split_allocations WHERE sheet_id = ?`, with the trigger
`credits_allocation_delete_draft_only`. -/
def deleteAllocations (sheetId : String) : Checked CreditsDb := do
  require (∀ row ∈ db.allocations, row.sheetId = sheetId → db.HasSheet row.sheetId .draft)
    (integrityError "submitted split allocations are immutable")
  .ok { db with allocations := db.allocations.filter fun row ↦ row.sheetId ≠ sheetId }

/-- `INSERT INTO composition_split_allocations`, with the triggers `credits_allocation_binding_valid`
and `credits_allocation_insert_draft_only`. -/
def insertAllocation (row : CompositionSplitAllocation) : Checked CreditsDb := do
  require ((∃ sheet ∈ db.sheets, sheet.id = row.sheetId ∧ sheet.artistId = row.artistId ∧
      sheet.songId = row.songId) ∧
        ∃ person ∈ profile.people, person.id = row.personId ∧ person.artistId = row.artistId)
    (integrityError "split allocation binding is invalid")
  require (db.HasSheet row.sheetId .draft)
    (integrityError "submitted split allocations are immutable")
  require (1 ≤ row.basisPoints ∧ row.basisPoints ≤ 10000)
    (integrityError "CHECK constraint failed: basis_points")
  require (∀ other ∈ db.allocations, other.id ≠ row.id)
    (integrityError "UNIQUE constraint failed: composition_split_allocations.id")
  require (∀ other ∈ db.allocations, ¬ (other.sheetId = row.sheetId ∧ other.personId = row.personId))
    (integrityError "UNIQUE constraint failed: composition_split_allocations.sheet_id")
  .ok { db with allocations := db.allocations ++ [row] }

/-- `INSERT INTO composition_split_confirmations`, with the triggers
`credits_confirmation_binding_valid` and `credits_confirmation_participant_only`. -/
def insertConfirmation (row : SplitConfirmation) : Checked CreditsDb := do
  require ((∃ sheet ∈ db.sheets, sheet.id = row.sheetId ∧ sheet.artistId = row.artistId ∧
      sheet.songId = row.songId ∧ sheet.state = .openConfirmation) ∧
        ∃ person ∈ profile.people, person.id = row.personId ∧ person.artistId = row.artistId)
    (integrityError "split confirmation binding is invalid or closed")
  require (∃ allocation ∈ db.allocations, allocation.sheetId = row.sheetId ∧
      allocation.personId = row.personId)
    (integrityError "only split participants can have confirmation records")
  require (sqlNonblank row.note = true) (integrityError "CHECK constraint failed: note")
  require (∀ other ∈ db.confirmations, other.id ≠ row.id)
    (integrityError "UNIQUE constraint failed: composition_split_confirmations.id")
  .ok { db with confirmations := db.confirmations ++ [row] }

end CreditsDb

/-! ### Songs and people -/

section

variable (profile : Profile)

/-- `_require_song`. -/
def requireSong (songId : String) : Checked Song := do
  let song ← orRaise (profile.getSong (strip songId))
    (notFound s!"Song not found in profile {profile.profileId}: {strip songId}")
  require (song.artistId = profile.primaryArtistId) (validation "Song belongs to a different Artist")
  .ok song

/-- `_require_person`. -/
def requirePerson (personId : String) : Checked Person := do
  let person ← orRaise (profile.getPerson (strip personId))
    (notFound s!"person not found in profile {profile.profileId}: {strip personId}")
  require (person.artistId = profile.primaryArtistId)
    (validation "person belongs to a different Artist")
  .ok person

/-! ### Opening -/

namespace CreditsDb

variable (db : CreditsDb)

/-- The checks of `_validate_existing` on an allocation of a sheet. -/
def validateAllocation (sheet : CompositionSplitSheet) (allocation : CompositionSplitAllocation) :
    Checked Unit := do
  let person ← requirePerson profile allocation.personId
  require (allocation.artistId = sheet.artistId ∧ allocation.songId = sheet.songId ∧
      person.artistId = sheet.artistId)
    (corruption "split allocation binding is invalid")

/-- The checks of `_validate_existing` on a confirmation of a sheet with some participants. -/
def validateConfirmation (sheet : CompositionSplitSheet) (participants : List String)
    (confirmation : SplitConfirmation) : Checked Unit := do
  require (confirmation.personId ∈ participants)
    (corruption "split confirmation belongs to a non-participant")
  require (confirmation.artistId = sheet.artistId ∧ confirmation.songId = sheet.songId)
    (corruption "split confirmation binding is invalid")

/-- The checks of `_validate_existing` on a sheet. -/
def validateSheet (sheet : CompositionSplitSheet) : Checked Unit := do
  let song ← requireSong profile sheet.songId
  require (sheet.artistId = song.artistId) (corruption "split binding does not match its Artist")
  let allocations := db.allocationsOf (strip sheet.id)
  let total := (allocations.map CompositionSplitAllocation.basisPoints).sum
  require (total ≤ 10000) (corruption "split allocations exceed 100 percent")
  require (sheet.state = .openConfirmation → allocations ≠ [] ∧ total = 10000)
    (corruption "submitted split is not arithmetically complete")
  require (sheet.state = .voided → sheet.closureNote.isSome = true)
    (corruption "voided split is missing a reason")
  require (sheet.state ≠ .voided → sheet.closureNote = none)
    (corruption "open split unexpectedly has a closure note")
  let participants := allocations.map CompositionSplitAllocation.personId
  let _ ← checkEach (fun _ ↦ validateAllocation profile sheet) 0 allocations
  let _ ← checkEach (fun _ ↦ validateConfirmation sheet participants) 0
    (db.confirmationsOf (strip sheet.id))

/-- `_validate_existing`. -/
def validateExisting : Checked Unit :=
  asCorruption "Credits memory is unreadable or corrupt" do
    let _ ← checkEach (fun _ ↦ db.validateSheet profile) 0 db.sheets

end CreditsDb

/-! ### Operations -/

/-- A call on the store. -/
abbrev CreditsCall (α : Type) := Call CreditsDb (Raised LineageErrorClass) α

/-- `get_split_sheet`. -/
def getSplitSheet (sheetId : String) : CreditsCall (Option CompositionSplitSheet) :=
  .select fun db ↦ db.getSplitSheet sheetId

/-- `get_split_sheet` of a sheet that has to be there. -/
def requireSplitSheet (sheetId : String) : CreditsCall CompositionSplitSheet := do
  let sheet ← getSplitSheet sheetId
  .fromExcept (orRaise sheet
    (notFound s!"composition split not found in profile {profile.profileId}: {sheetId}"))

/-- `split_allocations`. -/
def splitAllocations (sheetId : String) : CreditsCall (List CompositionSplitAllocation) :=
  .select fun db ↦ db.allocationsOf (strip sheetId)

/-- `create_split_draft`. -/
def createSplitDraft (uuid : Uuid) (songId : String) : CreditsCall CompositionSplitSheet := do
  let song ← .fromExcept (requireSong profile songId)
  let sheetId := newId "split" uuid
  .transaction fun db ↦ integrityAs
    (fun _ ↦ "this Song already has an active composition split proposal")
    (db.insertSheet profile ⟨sheetId, profile.primaryArtistId, song.id, .draft, none⟩)
  let sheet ← getSplitSheet sheetId
  .fromExcept (orRaise sheet (corruption "new split draft disappeared after creation"))

/-- A share of a person, with the id that its row gets. -/
structure Share where
  personId : String
  basisPoints : ℤ
  uuid : Uuid

/-- The loop of `set_draft_allocations`: the shares of the people that were found. -/
def normalizeShares : List String → List Share → Checked (List Share)
  | _, [] => .ok []
  | seen, share :: rest => do
    let person ← requirePerson profile share.personId
    require (person.id ∉ seen) (validation "a split participant may appear only once")
    require (0 < share.basisPoints ∧ share.basisPoints ≤ 10000)
      (validation "split shares must be between 0.01 and 100 percent")
    let shares ← normalizeShares (person.id :: seen) rest
    .ok (⟨person.id, share.basisPoints, share.uuid⟩ :: shares)

/-- The checks of `set_draft_allocations`. -/
def normalizeAllocations (allocations : List Share) : Checked (List Share) := do
  let normalized ← normalizeShares profile [] allocations
  require ((normalized.map Share.basisPoints).sum ≤ 10000)
    (validation "draft composition split exceeds 100 percent")
  .ok normalized

/-- The row of a share. -/
def allocationOf (sheet : CompositionSplitSheet) (share : Share) : CompositionSplitAllocation :=
  ⟨newId "allocation" share.uuid, sheet.id, sheet.artistId, sheet.songId, share.personId,
    share.basisPoints⟩

/-- `INSERT INTO composition_split_allocations` for each share. -/
def insertAllocations (sheet : CompositionSplitSheet) : List Share → CreditsDb → Checked CreditsDb
  | [], db => .ok db
  | share :: rest, db => do
    let db ← db.insertAllocation profile (allocationOf sheet share)
    insertAllocations sheet rest db

/-- The transaction of `set_draft_allocations`. -/
def replaceAllocations (sheet : CompositionSplitSheet) (normalized : List Share) (db : CreditsDb) :
    Checked CreditsDb :=
  integrityAs (fun text ↦ s!"cannot save composition split draft: {text}") do
    let db ← db.deleteAllocations sheet.id
    insertAllocations profile sheet normalized db

/-- `set_draft_allocations`. -/
def setDraftAllocations (sheetId : String) (allocations : List Share) :
    CreditsCall (List CompositionSplitAllocation) := do
  let sheet ← requireSplitSheet profile sheetId
  .fromExcept (require (sheet.state = .draft)
    (validation "submitted composition split allocations are immutable"))
  let normalized ← .fromExcept (normalizeAllocations profile allocations)
  .transaction (replaceAllocations profile sheet normalized)
  splitAllocations sheet.id

/-- The transaction of an operation that updates one sheet. -/
def updateSheet (sheetId : String) (states : List SplitState)
    (change : CompositionSplitSheet → CompositionSplitSheet) (changed refused : String)
    (db : CreditsDb) : Checked CreditsDb :=
  integrityAs (fun text ↦ s!"{refused}: {text}") do
    let (db, rowcount) ← db.updateSheets sheetId states change
    require (rowcount = 1) (corruption changed)
    .ok db

/-- `submit_split`. -/
def submitSplit (sheetId : String) : CreditsCall CompositionSplitSheet := do
  let sheet ← requireSplitSheet profile sheetId
  .fromExcept (require (sheet.state = .draft)
    (validation "only a draft composition split can be submitted"))
  let allocations ← splitAllocations sheet.id
  .fromExcept (require (allocations ≠ [] ∧
      (allocations.map CompositionSplitAllocation.basisPoints).sum = 10000)
    (validation "composition split must total exactly 100.00 percent"))
  .transaction (updateSheet sheet.id [.draft] (fun row ↦ { row with state := .openConfirmation })
    "composition split changed while it was being submitted" "cannot submit composition split")
  let result ← getSplitSheet sheet.id
  .fromExcept do
    let result ← orRaise result (corruption "submitted composition split could not be read back")
    require (result.state = .openConfirmation)
      (corruption "submitted composition split could not be read back")
    .ok result

/-- `latest_confirmation`. -/
def latestConfirmation (sheetId personId : String) : CreditsCall (Option SplitConfirmation) := do
  let person ← .fromExcept (requirePerson profile personId)
  .select fun db ↦ db.latestOf (strip sheetId) person.id

/-- `record_confirmation`. -/
def recordConfirmation (uuid : Uuid) (sheetId personId status note : String) :
    CreditsCall SplitConfirmation := do
  let sheet ← requireSplitSheet profile sheetId
  .fromExcept (require (sheet.state = .openConfirmation)
    (validation "split confirmations can only be recorded after submission"))
  let person ← .fromExcept (requirePerson profile personId)
  let allocations ← splitAllocations sheet.id
  let status ← .fromExcept do
    require (person.id ∈ allocations.map CompositionSplitAllocation.personId)
      (validation "only split participants can have confirmation records")
    orRaise (ConfirmationStatus.ofName (upper (strip status)))
      (validation s!"unsupported split confirmation status: {upper (strip status)}")
  let note ← .fromExcept (strictText note "confirmation note" 1000)
  let latest ← latestConfirmation profile sheet.id person.id
  .fromExcept (require (latest.map SplitConfirmation.status ≠ some status)
    (validation "that confirmation state is already the latest recorded state"))
  let confirmationId := newId "confirmation" uuid
  .transaction fun db ↦ integrityAs (fun text ↦ s!"cannot record split confirmation: {text}")
    (db.insertConfirmation profile ⟨confirmationId, sheet.id, sheet.artistId, sheet.songId, person.id,
      status, note⟩)
  let result ← latestConfirmation profile sheet.id person.id
  .fromExcept do
    let result ← orRaise result (corruption "split confirmation disappeared after creation")
    require (result.id = confirmationId)
      (corruption "split confirmation disappeared after creation")
    .ok result

/-- `confirmation_state`, without the name of a missing one. -/
def confirmationState (sheetId personId : String) : CreditsCall (Option ConfirmationStatus) := do
  let latest ← latestConfirmation profile sheetId personId
  pure (latest.map SplitConfirmation.status)

/-- Whether every participant of some allocations has confirmed. -/
def allConfirmed (sheetId : String) : List CompositionSplitAllocation → CreditsCall Bool
  | [] => pure true
  | allocation :: rest => do
    let state ← confirmationState profile sheetId allocation.personId
    if state = some .recordedConfirmed then allConfirmed sheetId rest else pure false

/-- `all_recorded_confirmed` of an open sheet. -/
def openSheetConfirmed (sheetId : String) : CreditsCall Bool := do
  let allocations ← splitAllocations sheetId
  if allocations = [] then pure false else allConfirmed profile sheetId allocations

/-- `all_recorded_confirmed`. -/
def allRecordedConfirmed (sheetId : String) : CreditsCall Bool := do
  let sheet ← getSplitSheet sheetId
  match sheet with
  | none => pure false
  | some sheet =>
    if sheet.state = .openConfirmation then openSheetConfirmed profile sheet.id else pure false

/-- `void_split`. -/
def voidSplit (sheetId reason : String) : CreditsCall CompositionSplitSheet := do
  let sheet ← requireSplitSheet profile sheetId
  let reason ← .fromExcept do
    require (sheet.state ≠ .voided) (validation "composition split is already voided")
    strictText reason "void reason" 1000
  .transaction (updateSheet sheet.id [.draft, .openConfirmation]
    (fun row ↦ { row with state := .voided, closureNote := some reason })
    "composition split changed while it was being voided" "cannot void composition split")
  let result ← getSplitSheet sheet.id
  .fromExcept do
    let result ← orRaise result (corruption "voided composition split could not be read back")
    require (result.state = .voided) (corruption "voided composition split could not be read back")
    .ok result

/-! ### The operations of a run -/

/-- An operation, with the random ids that it draws. -/
inductive CreditsOperation where
  | createSplitDraft (uuid : Uuid) (songId : String)
  | setDraftAllocations (sheetId : String) (allocations : List Share)
  | submitSplit (sheetId : String)
  | recordConfirmation (uuid : Uuid) (sheetId personId status note : String)
  | allRecordedConfirmed (sheetId : String)
  | voidSplit (sheetId reason : String)

/-- What an operation returns. -/
inductive CreditsAnswer where
  | sheet (value : CompositionSplitSheet)
  | allocations (value : List CompositionSplitAllocation)
  | confirmation (value : SplitConfirmation)
  | truth (value : Bool)

def creditsProgram : CreditsOperation → CreditsCall CreditsAnswer
  | .createSplitDraft uuid songId => .sheet <$> createSplitDraft profile uuid songId
  | .setDraftAllocations sheetId allocations =>
    .allocations <$> setDraftAllocations profile sheetId allocations
  | .submitSplit sheetId => .sheet <$> submitSplit profile sheetId
  | .recordConfirmation uuid sheetId personId status note =>
    .confirmation <$> recordConfirmation profile uuid sheetId personId status note
  | .allRecordedConfirmed sheetId => .truth <$> allRecordedConfirmed profile sheetId
  | .voidSplit sheetId reason => .sheet <$> voidSplit profile sheetId reason

end

end N0te.Credits
