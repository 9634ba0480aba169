import N0te.Library.Raising
import N0te.Sessions.SessionStore

/-!
# Deferring suggestions

An artist defers a suggestion until later in a song, until the next song, or for good. What is deferred
now is not stored: `isDeferredNow` reads the recorded deferrals, the latest session of the active song,
and the activity log, in which a trigger notes every change of the active song.

Scope. Calls run one after another. Of the activity log the type, the artist, the song and the object
of an event are modelled, and its place in the log is its sequence number.
-/

set_option autoImplicit false
set_option relaxedAutoImplicit false

namespace N0te.Suggestions

open Library Lineage People Sessions

/-! ### Rows -/

/-- The types of the events that the operations below cause. -/
inductive ActivityEventType where
  | activityTrackingEnabled
  | songCreated
  | songSelected
  | sessionStarted
  | sessionClosed
  | suggestionDeferred
  deriving DecidableEq

/-- What an event is about. -/
inductive ActivityObjectType where
  | profile
  | song
  | session
  | suggestionDeferral
  deriving DecidableEq

/-- A row of `activity_events`. -/
structure ActivityEvent where
  eventType : ActivityEventType
  artistId : String
  songId : Option String
  objectType : ActivityObjectType
  objectId : String
  deriving DecidableEq

/-- `SUGGESTION_DEFERRAL_SCOPES`. -/
inductive DeferralScope where
  | laterThisSong
  | nextSong
  | neverSuggestAgain
  deriving DecidableEq

/-- A row of `suggestion_deferrals`. -/
structure SuggestionDeferral where
  id : String
  artistId : String
  songId : String
  /-- The latest session of that song. -/
  sessionId : Option String
  semanticKey : String
  scope : DeferralScope
  deriving DecidableEq

/-- The tables. -/
structure SuggestionDb where
  /-- The songs and their versions. -/
  lineage : LineageDb
  /-- `sessions`. -/
  sessions : List SongSession
  /-- `activity_events`. -/
  activity : List ActivityEvent
  /-- `suggestion_deferrals`. -/
  deferrals : List SuggestionDeferral

namespace SuggestionDb

/-- A new store: the activity log begins with its own event. -/
def create (profile artist : Uuid) (artistName : String) : Checked (String × SuggestionDb) := do
  let (profileId, lineage) ← LineageDb.create profile artist artistName
  let tracking : ActivityEvent :=
    ⟨.activityTrackingEnabled, newId "art" artist, none, .profile, profileId⟩
  .ok (profileId, ⟨lineage, [], [tracking], []⟩)

variable (db : SuggestionDb)

/-! ### Reads -/

/-- `primary_artist_id`. -/
def primaryArtistId : Checked String :=
  orRaise (db.lineage.metadata.lookup "primary_artist_id")
    (corruption "primary artist metadata disappeared")

/-- `get_song`. -/
def getSong (songId : String) : Option Song := db.lineage.songs.find? fun song ↦ song.id = songId

/-- `_require_song`. -/
def requireSong (profileId songId : String) : Checked Song :=
  orRaise (db.getSong songId) (notFound s!"Song not found in profile {profileId}: {songId}")

/-- `active_song`. -/
def activeSong : Checked (Option Song) := do
  let songId ← orRaise (db.lineage.metadata.lookup "active_song_id")
    (corruption "active Song metadata disappeared")
  if songId = "" then .ok none
  else some <$> orRaise (db.getSong songId) (corruption "active Song identity is missing")

/-- `get_version`. -/
def getVersion (versionId : String) : Option Version :=
  db.lineage.versions.find? fun version ↦ version.id = versionId

/-- `get_session`. -/
def getSession (sessionId : String) : Option SongSession :=
  db.sessions.find? fun session ↦ session.id = sessionId

/-- `_require_session`. -/
def requireSession (profileId sessionId : String) : Checked SongSession :=
  orRaise (db.getSession sessionId)
    (notFound s!"Session not found in profile {profileId}: {sessionId}")

def sessionsOf (songId : String) : List SongSession :=
  db.sessions.filter fun session ↦ session.songId = songId

/-- `latest_for_song`. -/
def latestForSong (profileId songId : String) : Checked (Option SongSession) := do
  let _ ← db.requireSong profileId songId
  .ok (db.sessionsOf songId).getLast?

/-! ### Statements -/

/-- A row of the activity log, which a trigger inserts. -/
def log (event : ActivityEvent) : SuggestionDb := { db with activity := db.activity ++ [event] }

/-- `INSERT INTO songs`, with the trigger `activity_song_created`. -/
def insertSong (row : Song) : Checked SuggestionDb := do
  let lineage ← db.lineage.insertSong row
  .ok ({ db with lineage := lineage }.log ⟨.songCreated, row.artistId, some row.id, .song, row.id⟩)

/-- What the trigger `activity_song_selected` inserts. -/
def selectionEvents (value : String) : List ActivityEvent :=
  if value ≠ "" ∧ db.lineage.metadata.lookup "active_song_id" ≠ some value then
    (db.lineage.songs.filter fun song ↦ song.id = value).map fun song ↦
      ⟨.songSelected, song.artistId, some song.id, .song, song.id⟩
  else []

/-- `UPDATE metadata SET value = ? WHERE key = 'active_song_id'`, with its trigger. -/
def setActiveSong (value : String) : SuggestionDb :=
  { db with
    lineage := db.lineage.setMetadata "active_song_id" value
    activity := db.activity ++ db.selectionEvents value }

/-- `INSERT INTO sessions`, with the triggers `session_version_same_song` and
`session_started_activity` and the index `session_one_open_per_song`. -/
def insertSession (row : SongSession) : Checked SuggestionDb := do
  require (∀ versionId ∈ row.versionId,
      ∃ version ∈ db.lineage.versions, version.id = versionId ∧ version.songId = row.songId)
    (integrityError "Session version belongs to a different Song")
  require (∀ other ∈ db.sessions, other.id ≠ row.id)
    (integrityError "UNIQUE constraint failed: sessions.id")
  require (row.state = .opened → ∀ other ∈ db.sessionsOf row.songId, other.state ≠ .opened)
    (integrityError "UNIQUE constraint failed: sessions.song_id")
  require (sqlNonblank row.objective = true) (integrityError "CHECK constraint failed: objective")
  require (∃ song ∈ db.lineage.songs, song.id = row.songId)
    (integrityError "FOREIGN KEY constraint failed")
  .ok ({ db with sessions := db.sessions ++ [row] }.log
    ⟨.sessionStarted, row.artistId, some row.songId, .session, row.id⟩)

/-- The rows that `UPDATE sessions … WHERE id=? AND state='OPEN'` changes. -/
def openRows (sessionId : String) : List SongSession :=
  db.sessions.filter fun session ↦ session.id = sessionId ∧ session.state = .opened

/-- `UPDATE sessions SET state='CLOSED', … WHERE id=? AND state='OPEN'`, with its triggers. -/
def closeOpen (sessionId debriefSummary nextAction : String) : Checked SuggestionDb := do
  require (db.openRows sessionId ≠ [] →
      sqlNonblank debriefSummary = true ∧ sqlNonblank nextAction = true)
    (integrityError "closing Session requires debrief and next action")
  .ok { db with
    sessions := db.sessions.map fun session ↦
      if session.id = sessionId ∧ session.state = .opened then
        { session with
          state := .closed
          debriefSummary := some debriefSummary
          nextAction := some nextAction }
      else session
    activity := db.activity ++ (db.openRows sessionId).map fun session ↦
      ⟨.sessionClosed, session.artistId, some session.songId, .session, session.id⟩ }

/-- The condition of the trigger `suggestion_deferral_binding_valid`. -/
def BindingValid (row : SuggestionDeferral) : Prop :=
  (∃ song ∈ db.lineage.songs, song.id = row.songId ∧ song.artistId = row.artistId) ∧
  (∀ sessionId ∈ row.sessionId,
    ∃ session ∈ db.sessions, session.id = sessionId ∧ session.songId = row.songId) ∧
  (row.scope = .laterThisSong → row.sessionId ≠ none)

instance (row : SuggestionDeferral) : Decidable (db.BindingValid row) :=
  inferInstanceAs (Decidable (_ ∧ _))

/-- Two rows may not both be in one of the unique indexes. -/
def Conflicts (row other : SuggestionDeferral) : Prop :=
  row.scope = other.scope ∧ row.artistId = other.artistId ∧ row.semanticKey = other.semanticKey ∧
    (row.scope = .neverSuggestAgain ∨
      row.scope = .laterThisSong ∧ row.songId = other.songId ∧ row.sessionId = other.sessionId)

instance (row other : SuggestionDeferral) : Decidable (Conflicts row other) :=
  inferInstanceAs (Decidable (_ ∧ _))

/-- `INSERT INTO suggestion_deferrals`, with the triggers `suggestion_deferral_binding_valid` and
`suggestion_deferral_activity` and the unique indexes. -/
def insertDeferral (row : SuggestionDeferral) : Checked SuggestionDb := do
  require (db.BindingValid row) (integrityError "Suggestion deferral binding is invalid")
  require (∀ other ∈ db.deferrals, other.id ≠ row.id)
    (integrityError "UNIQUE constraint failed: suggestion_deferrals.id")
  require (∀ other ∈ db.deferrals, ¬ Conflicts row other)
    (integrityError "UNIQUE constraint failed: suggestion_deferrals")
  .ok ({ db with deferrals := db.deferrals ++ [row] }.log
    ⟨.suggestionDeferred, row.artistId, some row.songId, .suggestionDeferral, row.id⟩)

/-! ### What is deferred -/

/-- The event that a deferral caused. -/
def IsOrigin (record : SuggestionDeferral) (event : ActivityEvent) : Prop :=
  event.artistId = record.artistId ∧ event.eventType = .suggestionDeferred ∧
    event.objectType = .suggestionDeferral ∧ event.objectId = record.id

instance (record : SuggestionDeferral) : DecidablePred (IsOrigin record) := fun _ ↦
  inferInstanceAs (Decidable (_ ∧ _))

/-- An event selects another song than the one of a deferral. -/
def selectsOther (record : SuggestionDeferral) (event : ActivityEvent) : Bool :=
  decide (event.artistId = record.artistId ∧ event.eventType = .songSelected) &&
    event.songId.any fun songId ↦ songId != record.songId

/-- `_next_song_horizon_crossed` of a deferral until the next song. -/
def nextSongHorizonCrossed (record : SuggestionDeferral) : Checked Bool := do
  let origin ← orRaise (db.activity.findIdx? fun event ↦ IsOrigin record event)
    (corruption "Next-Song suggestion deferral lost its Activity provenance")
  .ok ((db.activity.drop (origin + 1)).any (selectsOther record))

/-- The first of some deferrals whose horizon has not been crossed. -/
def firstUncrossed : List SuggestionDeferral → Checked (Option SuggestionDeferral)
  | [] => .ok none
  | record :: rest => do
    let crossed ← db.nextSongHorizonCrossed record
    if crossed then firstUncrossed rest else .ok (some record)

/-- `_existing`. -/
def existing (semanticKey songId : String) (sessionId : Option String) :
    DeferralScope → Checked (Option SuggestionDeferral)
  | .laterThisSong => do
    let artistId ← db.primaryArtistId
    .ok (db.deferrals.find? fun row ↦ row.artistId = artistId ∧ row.songId = songId ∧
      (sessionId ≠ none ∧ row.sessionId = sessionId) ∧ row.semanticKey = semanticKey ∧
      row.scope = .laterThisSong)
  | .nextSong => do
    let artistId ← db.primaryArtistId
    db.firstUncrossed (db.deferrals.filter fun row ↦ row.artistId = artistId ∧ row.songId = songId ∧
      row.semanticKey = semanticKey ∧ row.scope = .nextSong).reverse
  | .neverSuggestAgain => do
    let artistId ← db.primaryArtistId
    .ok (db.deferrals.find? fun row ↦ row.artistId = artistId ∧ row.semanticKey = semanticKey ∧
      row.scope = .neverSuggestAgain)

def holdsNow (songId : String) (sessionId : Option String) (record : SuggestionDeferral) :
    Checked Bool :=
  match record.scope with
  | .neverSuggestAgain => .ok true
  | .nextSong => not <$> db.nextSongHorizonCrossed record
  | .laterThisSong => .ok (decide (record.songId = songId ∧ record.sessionId = sessionId ∧
      sessionId ≠ none))

/-- Some of the deferrals holds now. -/
def anyHoldsNow (songId : String) (sessionId : Option String) :
    List SuggestionDeferral → Checked Bool
  | [] => .ok false
  | record :: rest => do
    let holds ← db.holdsNow songId sessionId record
    if holds then .ok true else anyHoldsNow songId sessionId rest

end SuggestionDb

/-- `_normalize_key`. -/
def normalizeKey (value : String) : Checked String := do
  require (strip value ≠ "" ∧ (strip value).toList.length ≤ 200)
    (validation "suggestion semantic key must be 1 through 200 characters")
  .ok (strip value)

/-! ### Operations -/

/-- A call on the store. -/
abbrev Suggesting (α : Type) := Raising SuggestionDb (Raised LineageErrorClass) α

section

variable (profileId : String)

/-- `is_deferred_now`. -/
def isDeferredNow (semanticKey : String) (db : SuggestionDb) : Checked Bool := do
  let key ← normalizeKey semanticKey
  match ← db.activeSong with
  | none => .ok false
  | some song => do
    let session ← db.latestForSong profileId song.id
    let artistId ← db.primaryArtistId
    db.anyHoldsNow song.id (session.map SongSession.id)
      (db.deferrals.filter fun row ↦ row.artistId = artistId ∧ row.semanticKey = key).reverse

/-- The transaction of `create_song`. -/
def insertActiveSong (songId title : String) (db : SuggestionDb) : Checked (Unit × SuggestionDb) := do
  let artistId ← db.primaryArtistId
  let db ← db.insertSong ⟨songId, artistId, title, none, none⟩
  .ok ((), db.setActiveSong songId)

/-- `create_song`. -/
def createSong (uuid : Uuid) (title : String) : Suggesting Song := do
  let title ← fromExcept (requireText title "title")
  let songId := newId "song" uuid
  transacting (insertActiveSong songId title)
  asking fun db ↦ orRaise (db.getSong songId) ⟨.assertionError, ""⟩

/-- `select_song`. -/
def selectSong (songId : String) : Suggesting Song := do
  let song ← asking fun db ↦ db.requireSong profileId songId
  transacting fun db ↦ .ok ((), db.setActiveSong song.id)
  pure song

/-- The version of a new session. -/
def sessionVersion (db : SuggestionDb) (song : Song) (versionId : Option String) :
    Checked (Option String) := do
  let requested := versionId.getD ""
  require (∀ id ∈ versionId, (db.getVersion id).isSome = true)
    (notFound s!"version not found: {requested}")
  match versionId.or song.currentVersionId with
  | none => .ok none
  | some versionId => do
    let version ← orRaise (db.getVersion versionId) ⟨.assertionError, ""⟩
    require (version.songId = song.id) (validation "Session version belongs to a different Song")
    .ok (some versionId)

/-- The row that `start_session` inserts. -/
def normalizeSession (uuid : Uuid) (songId objective : String) (versionId : Option String)
    (db : SuggestionDb) : Checked SongSession := do
  let song ← db.requireSong profileId songId
  let objective ← cleanText objective "objective"
  let versionId ← sessionVersion db song versionId
  let artistId ← db.primaryArtistId
  .ok ⟨newId "sess" uuid, artistId, song.id, versionId, objective, .opened, none, none⟩

/-- The transaction of `start_session`. -/
def insertStarted (row : SongSession) (db : SuggestionDb) : Checked (Unit × SuggestionDb) := do
  let db ← integrityAs (fun text ↦ s!"cannot start Session: {text}") (db.insertSession row)
  .ok ((), db)

/-- `start_session`. -/
def startSession (uuid : Uuid) (songId objective : String) (versionId : Option String) :
    Suggesting SongSession := do
  let row ← asking (normalizeSession profileId uuid songId objective versionId)
  transacting (insertStarted row)
  asking fun db ↦ db.requireSession profileId row.id

/-- What `close_session` closes, and with which texts. -/
def normalizeClosing (sessionId debriefSummary nextAction : String) (db : SuggestionDb) :
    Checked (SongSession × String × String) := do
  let session ← db.requireSession profileId sessionId
  require (session.state = .opened) (validation "Session is already closed")
  let debriefSummary ← cleanText debriefSummary "debrief_summary"
  let nextAction ← cleanText nextAction "next_action"
  .ok (session, debriefSummary, nextAction)

/-- The transaction of `close_session`. -/
def updateClosed (sessionId debriefSummary nextAction : String) (db : SuggestionDb) :
    Checked (Unit × SuggestionDb) := do
  let db ← integrityAs (fun text ↦ s!"cannot close Session: {text}")
    (db.closeOpen sessionId debriefSummary nextAction)
  .ok ((), db)

/-- `close_session`. -/
def closeSession (sessionId debriefSummary nextAction : String) : Suggesting SongSession := do
  let (session, debriefSummary, nextAction) ←
    asking (normalizeClosing profileId sessionId debriefSummary nextAction)
  transacting (updateClosed session.id debriefSummary nextAction)
  asking fun db ↦ db.requireSession profileId session.id

/-- What a new deferral is bound to. -/
def deferralBinding (semanticKey : String) (scope : DeferralScope) (db : SuggestionDb) :
    Checked (String × String × Option String) := do
  let key ← normalizeKey semanticKey
  let song ← orRaise (← db.activeSong)
    (validation "Start or select a Song before deferring a suggestion")
  let session ← db.latestForSong profileId song.id
  require (¬ (scope = .laterThisSong ∧ session = none))
    (validation "Start a work Session before deferring a suggestion until later this Song")
  .ok (key, song.id, session.map SongSession.id)

/-- The transaction of `_defer`: the deferral that holds already, or else a new one. -/
def deferOnce (deferralId key songId : String) (sessionId : Option String) (scope : DeferralScope)
    (db : SuggestionDb) : Checked (Option SuggestionDeferral × SuggestionDb) := do
  match ← db.existing key songId sessionId scope with
  | some record => .ok (some record, db)
  | none => do
    let artistId ← db.primaryArtistId
    let db ← db.insertDeferral ⟨deferralId, artistId, songId, sessionId, key, scope⟩
    .ok (none, db)

/-- `except sqlite3.IntegrityError` of `_defer`. -/
def afterConflict (key songId : String) (sessionId : Option String) (scope : DeferralScope)
    (e : Raised LineageErrorClass) : Suggesting (Option SuggestionDeferral) :=
  match e.cls with
  | .integrityError => asking fun db ↦ do
    let record ← db.existing key songId sessionId scope
    some <$> orRaise record (validation "cannot persist suggestion deferral safely")
  | _ => throw e

/-- What `_defer` returns: the deferral it found, or the new row. -/
def deferredRow (deferralId : String) : Option SuggestionDeferral → Suggesting SuggestionDeferral
  | some record => pure record
  | none => asking fun db ↦ orRaise (db.deferrals.find? fun row ↦ row.id = deferralId)
      (corruption "new suggestion deferral disappeared")

/-- `_defer`. -/
def defer (uuid : Uuid) (semanticKey : String) (scope : DeferralScope) :
    Suggesting SuggestionDeferral := do
  let (key, songId, sessionId) ← asking (deferralBinding profileId semanticKey scope)
  let deferralId := newId "defer" uuid
  let found ← tryCatch (transacting (deferOnce deferralId key songId sessionId scope))
    (afterConflict key songId sessionId scope)
  deferredRow deferralId found

/-- `defer_later_this_song`. -/
def deferLaterThisSong (uuid : Uuid) (semanticKey : String) : Suggesting SuggestionDeferral :=
  defer profileId uuid semanticKey .laterThisSong

/-- `defer_until_next_song`. -/
def deferUntilNextSong (uuid : Uuid) (semanticKey : String) : Suggesting SuggestionDeferral :=
  defer profileId uuid semanticKey .nextSong

/-- `never_suggest_again`. -/
def neverSuggestAgain (uuid : Uuid) (semanticKey : String) : Suggesting SuggestionDeferral :=
  defer profileId uuid semanticKey .neverSuggestAgain

/-! ### Histories -/

/-- The operations of a history. -/
inductive SuggestionOperation where
  | createSong (uuid : Uuid) (title : String)
  | selectSong (songId : String)
  | startSession (uuid : Uuid) (songId objective : String) (versionId : Option String)
  | closeSession (sessionId debriefSummary nextAction : String)
  | deferLaterThisSong (uuid : Uuid) (semanticKey : String)
  | deferUntilNextSong (uuid : Uuid) (semanticKey : String)
  | neverSuggestAgain (uuid : Uuid) (semanticKey : String)

/-- The call of an operation. -/
def suggestionProgram : SuggestionOperation → Suggesting Unit
  | .createSong uuid title => do let _ ← createSong uuid title
  | .selectSong songId => do let _ ← selectSong profileId songId
  | .startSession uuid songId objective versionId => do
    let _ ← startSession profileId uuid songId objective versionId
  | .closeSession sessionId debriefSummary nextAction => do
    let _ ← closeSession profileId sessionId debriefSummary nextAction
  | .deferLaterThisSong uuid key => do let _ ← deferLaterThisSong profileId uuid key
  | .deferUntilNextSong uuid key => do let _ ← deferUntilNextSong profileId uuid key
  | .neverSuggestAgain uuid key => do let _ ← neverSuggestAgain profileId uuid key

end

end N0te.Suggestions
