import N0te.Evidence.EvidenceStore

/-!
# Work sessions

A session of a song is open until it is closed with a debrief and a next action. While it is open items
are appended to it. An item may be promoted: a request fixes what is to be claimed, once for an item,
and the claim is recorded with the reference of the request, upon which a trigger links it to the item.

The operations read outside of their transactions. `closeSession` updates the session if it is open and
does not look at how many rows that changed; `promoteItem` goes on when another call was faster.

Scope. The activity feed that triggers fill and the names of the triggers are left out, and so is
`_validate_existing`. Songs and versions were created before.
-/

set_option autoImplicit false
set_option relaxedAutoImplicit false

namespace N0te.Sessions

open Library Lineage People Evidence

/-! ### Rows -/

/-- `SESSION_STATES`. -/
inductive SessionState where
  | opened
  | closed
  deriving DecidableEq

/-- `SESSION_ITEM_KINDS`. -/
inductive SessionItemKind where
  | observation
  | decision
  | rejectedIdea
  | unresolved
  | mark
  deriving DecidableEq

def SessionItemKind.ofName : String → Option SessionItemKind
  | "OBSERVATION" => some observation
  | "DECISION" => some decision
  | "REJECTED_IDEA" => some rejectedIdea
  | "UNRESOLVED" => some unresolved
  | "MARK" => some mark
  | _ => none

/-- A row of `sessions`. -/
structure SongSession where
  id : String
  artistId : String
  songId : String
  versionId : Option String
  objective : String
  state : SessionState
  debriefSummary : Option String
  nextAction : Option String
  deriving DecidableEq

/-- A row of `session_items`. -/
structure SessionItem where
  id : String
  sessionId : String
  kind : SessionItemKind
  body : String
  deriving DecidableEq

/-- What is to be claimed. -/
structure PromotionFields where
  /-- What the claim is about. -/
  scopeKind : ScopeKind
  scopeId : String
  key : String
  value : Json
  sourceKind : Evidence.SourceKind
  twinDomain : TwinDomain
  confidence : ℚ
  deriving DecidableEq

/-- A row of `session_promotion_requests`. -/
structure PromotionRequest where
  id : String
  itemId : String
  /-- The reference that the claim will have. -/
  sourceRef : String
  fields : PromotionFields
  deriving DecidableEq

/-- A row of `session_promotions`. -/
structure SessionPromotion where
  itemId : String
  claimId : String
  deriving DecidableEq

/-- The tables. -/
structure SessionDb where
  evidence : EvidenceDb
  /-- `sessions`. -/
  sessions : List SongSession
  /-- `session_items`. -/
  items : List SessionItem
  /-- `session_promotion_requests`. -/
  requests : List PromotionRequest
  /-- `session_promotions`. -/
  promotions : List SessionPromotion

def claimFields (claim : EvidenceClaim) : PromotionFields :=
  ⟨claim.scopeKind, claim.scopeId, claim.key, claim.value, claim.sourceKind, claim.twinDomain,
    claim.confidence⟩

def Fulfils (claim : EvidenceClaim) (request : PromotionRequest) : Prop :=
  claim.sourceRef = some request.sourceRef ∧ claimFields claim = request.fields

instance (claim : EvidenceClaim) (request : PromotionRequest) : Decidable (Fulfils claim request) :=
  inferInstanceAs (Decidable (_ ∧ _))

/-- The beginning of the references of promoted claims. -/
def promotionPrefix : String := "session-promotion:"

/-- `source_ref LIKE 'session-promotion:%'`. -/
def isPromotionRef (ref : String) : Bool :=
  (ref.toList.take promotionPrefix.toList.length).map Char.toLower == promotionPrefix.toList

namespace SessionDb

variable (db : SessionDb)

/-- The tables of a new store. -/
def empty : SessionDb := ⟨.empty, [], [], [], []⟩

/-! ### Reads -/

/-- `get_session`. -/
def getSession (sessionId : String) : Option SongSession :=
  db.sessions.find? fun session ↦ session.id = sessionId

def getItem (itemId : String) : Option SessionItem := db.items.find? fun item ↦ item.id = itemId

def requestFor (itemId : String) : Option PromotionRequest :=
  db.requests.find? fun request ↦ request.itemId = itemId

/-- `promotion_for_item`. -/
def promotionFor (itemId : String) : Option SessionPromotion :=
  db.promotions.find? fun promotion ↦ promotion.itemId = itemId

def openSessionsOf (songId : String) : List SongSession :=
  db.sessions.filter fun session ↦ session.songId = songId ∧ session.state = .opened

def IsOpen (sessionId : String) : Prop :=
  ∃ session ∈ db.sessions, session.id = sessionId ∧ session.state = .opened

instance (sessionId : String) : Decidable (db.IsOpen sessionId) :=
  inferInstanceAs (Decidable (∃ session ∈ db.sessions, _))

/-! ### Statements -/

variable (profile : Profile)

/-- `INSERT INTO sessions`, with the trigger `session_version_same_song` and the index
`session_one_open_per_song`. -/
def insertSession (row : SongSession) : Checked SessionDb := do
  require (∀ versionId ∈ row.versionId,
      ∃ version ∈ profile.versions, version.id = versionId ∧ version.songId = row.songId)
    (integrityError "Session version belongs to a different Song")
  require (∀ other ∈ db.sessions, other.id ≠ row.id)
    (integrityError "UNIQUE constraint failed: sessions.id")
  require (row.state = .opened → db.openSessionsOf row.songId = [])
    (integrityError "UNIQUE constraint failed: sessions.song_id")
  require (sqlNonblank row.objective = true) (integrityError "CHECK constraint failed: objective")
  require (∃ song ∈ profile.songs, song.id = row.songId)
    (integrityError "FOREIGN KEY constraint failed")
  .ok { db with sessions := db.sessions ++ [row] }

/-- `INSERT INTO session_items`, with the trigger `session_items_open_only`. -/
def insertItem (row : SessionItem) : Checked SessionDb := do
  require (db.IsOpen row.sessionId)
    (integrityError "scratch can be appended only to an open Session")
  require (∀ other ∈ db.items, other.id ≠ row.id)
    (integrityError "UNIQUE constraint failed: session_items.id")
  require (sqlNonblank row.body = true) (integrityError "CHECK constraint failed: body")
  .ok { db with items := db.items ++ [row] }

/-- `UPDATE sessions SET state='CLOSED', … WHERE id=? AND state='OPEN'`, with its triggers. -/
def closeOpen (sessionId debriefSummary nextAction : String) : Checked SessionDb := do
  require (db.IsOpen sessionId → sqlNonblank debriefSummary = true ∧ sqlNonblank nextAction = true)
    (integrityError "closing Session requires debrief and next action")
  .ok { db with sessions := db.sessions.map fun session ↦
    if session.id = sessionId ∧ session.state = .opened then
      { session with
        state := .closed
        debriefSummary := some debriefSummary
        nextAction := some nextAction }
    else session }

/-- The condition of the trigger `session_promotion_scope_matches_session`. -/
def ScopeOfItem (itemId : String) (kind : ScopeKind) (scopeId : String) : Prop :=
  ∃ item ∈ db.items, ∃ session ∈ db.sessions, item.id = itemId ∧ session.id = item.sessionId ∧
    (kind = .song ∧ scopeId = session.songId ∨ kind = .version ∧ session.versionId = some scopeId)

instance (itemId : String) (kind : ScopeKind) (scopeId : String) :
    Decidable (db.ScopeOfItem itemId kind scopeId) :=
  inferInstanceAs (Decidable (∃ item ∈ db.items, _))

/-- `INSERT INTO session_promotion_requests`, with its trigger. -/
def insertRequest (row : PromotionRequest) : Checked SessionDb := do
  require (db.ScopeOfItem row.itemId row.fields.scopeKind row.fields.scopeId)
    (integrityError "Session promotion scope crosses Session binding")
  require (∀ other ∈ db.requests, other.id ≠ row.id)
    (integrityError "UNIQUE constraint failed: session_promotion_requests.id")
  require (∀ other ∈ db.requests, other.itemId ≠ row.itemId)
    (integrityError "UNIQUE constraint failed: session_promotion_requests.item_id")
  require (∀ other ∈ db.requests, other.sourceRef ≠ row.sourceRef)
    (integrityError "UNIQUE constraint failed: session_promotion_requests.source_ref")
  require (sqlNonblank row.fields.key = true) (integrityError "CHECK constraint failed: key")
  require (0 ≤ row.fields.confidence ∧ row.fields.confidence ≤ 1)
    (integrityError "CHECK constraint failed: confidence")
  .ok { db with requests := db.requests ++ [row] }

/-- `INSERT INTO session_promotions`. -/
def insertPromotion (row : SessionPromotion) : Checked SessionDb := do
  require (∀ other ∈ db.promotions, other.itemId ≠ row.itemId)
    (integrityError "UNIQUE constraint failed: session_promotions.item_id")
  require (∀ other ∈ db.promotions, other.claimId ≠ row.claimId)
    (integrityError "UNIQUE constraint failed: session_promotions.claim_id")
  .ok { db with promotions := db.promotions ++ [row] }

/-- `INSERT INTO session_promotions` for each request that a claim fulfils. -/
def insertPromotions (claimId : String) : List PromotionRequest → SessionDb → Checked SessionDb
  | [], db => .ok db
  | request :: rest, db => do
    let db ← db.insertPromotion ⟨request.itemId, claimId⟩
    insertPromotions claimId rest db

/-- The index `session_promotion_claim_source` and the trigger `session_promotion_claim_link`. -/
def linkClaim (claim : EvidenceClaim) : Checked SessionDb := do
  require (∀ ref ∈ claim.sourceRef, isPromotionRef ref = true →
      (db.evidence.claims.filter fun other ↦ other.sourceRef = some ref).length ≤ 1)
    (integrityError "UNIQUE constraint failed: evidence_claims.source_ref")
  insertPromotions claim.id (db.requests.filter fun request ↦ Fulfils claim request) db

end SessionDb

theorem evidence_insertPromotions {claimId : String} {requests : List PromotionRequest}
    {db after : SessionDb} (h : SessionDb.insertPromotions claimId requests db = .ok after) :
    after.evidence = db.evidence := by
  induction requests generalizing db with
  | nil =>
    cases h
    rfl
  | cons request rest ih =>
    simp only [SessionDb.insertPromotions, SessionDb.insertPromotion, bind_eq_ok, require_eq_ok,
      Except.ok.injEq] at h
    obtain ⟨_, ⟨_, -, _, -, rfl⟩, hrest⟩ := h
    have hsame := ih hrest
    exact hsame

/-- The store as one that holds evidence. -/
def sessionHost : EvidenceHost SessionDb where
  evidence := SessionDb.evidence
  withEvidence evidence db := { db with evidence := evidence }
  afterClaim claim db := db.linkClaim claim
  evidence_withEvidence _ _ := rfl
  evidence_afterClaim _ _ _ h := by
    simp only [SessionDb.linkClaim, bind_eq_ok, require_eq_ok] at h
    obtain ⟨_, -, h⟩ := h
    exact evidence_insertPromotions h

/-! ### Operations -/

section

variable (profile : Profile)

/-- `_clean_text`. -/
def cleanText (value field : String) : Checked String := do
  require (strip value ≠ "") (validation s!"{field} must not be empty")
  .ok (strip value)

/-- A call on the store. -/
abbrev SessionCall (α : Type) := Call SessionDb (Raised LineageErrorClass) α

/-- `_require_session`. -/
def requireSession (sessionId : String) : SessionCall SongSession :=
  .ask fun db ↦ orRaise (db.getSession sessionId)
    (notFound s!"Session not found in profile {profile.profileId}: {sessionId}")

/-- The version of a new session. -/
def sessionVersion (song : Song) (versionId : Option String) : Checked (Option String) := do
  let requested := versionId.getD ""
  require (∀ id ∈ versionId, (profile.getVersion id).isSome = true)
    (notFound s!"version not found: {requested}")
  match versionId.or song.currentVersionId with
  | none => .ok none
  | some versionId => do
    let version ← orRaise (profile.getVersion versionId) ⟨.assertionError, ""⟩
    require (version.songId = song.id) (validation "Session version belongs to a different Song")
    .ok (some versionId)

/-- The row that `start_session` inserts. -/
def normalizeSession (sessionId songId objective : String) (versionId : Option String) :
    Checked SongSession := do
  let song ← orRaise (profile.getSong songId)
    (notFound s!"Song not found in profile {profile.profileId}: {songId}")
  let objective ← cleanText objective "objective"
  let versionId ← sessionVersion profile song versionId
  .ok ⟨sessionId, profile.primaryArtistId, song.id, versionId, objective, .opened, none, none⟩

/-- `start_session`. -/
def startSession (uuid : Uuid) (songId objective : String) (versionId : Option String) :
    SessionCall SongSession := do
  let row ← .fromExcept (normalizeSession profile (newId "sess" uuid) songId objective versionId)
  .transaction fun db ↦ integrityAs (fun text ↦ s!"cannot start Session: {text}")
    (db.insertSession profile row)
  requireSession profile row.id

/-- `append_scratch`. -/
def appendScratch (uuid : Uuid) (sessionId kind body : String) : SessionCall SessionItem := do
  let session ← requireSession profile sessionId
  let row ← .fromExcept do
    require (session.state = .opened) (validation "cannot append scratch to a closed Session")
    let kind ← orRaise (SessionItemKind.ofName (upper (strip kind)))
      (validation s!"unsupported Session scratch kind: {upper (strip kind)}")
    let body ← cleanText body "body"
    .ok ⟨newId "sitem" uuid, session.id, kind, body⟩
  .transaction fun db ↦ integrityAs (fun text ↦ s!"cannot append Session scratch: {text}")
    (db.insertItem row)
  .ask fun db ↦ orRaise (db.getItem row.id) ⟨.assertionError, ""⟩

/-- `close_session`. -/
def closeSession (sessionId debriefSummary nextAction : String) : SessionCall SongSession := do
  let session ← requireSession profile sessionId
  let (debriefSummary, nextAction) ← .fromExcept do
    require (session.state = .opened) (validation "Session is already closed")
    let debriefSummary ← cleanText debriefSummary "debrief_summary"
    let nextAction ← cleanText nextAction "next_action"
    .ok (debriefSummary, nextAction)
  .transaction fun db ↦ integrityAs (fun text ↦ s!"cannot close Session: {text}")
    (db.closeOpen session.id debriefSummary nextAction)
  requireSession profile session.id

/-! ### Promotion -/

/-- The arguments of `promote_item`. -/
structure PromotionInput where
  /-- What the claim is about. -/
  scopeKind : String
  key : String
  sourceKind : String
  twinDomain : String
  confidence : ℚ

/-- `_item_with_session`. -/
def itemWithSession (itemId : String) (db : SessionDb) : Checked (SessionItem × SongSession) := do
  let missing := notFound s!"Session item not found in profile {profile.profileId}: {itemId}"
  let item ← orRaise (db.getItem itemId) missing
  let session ← orRaise (db.getSession item.sessionId) missing
  .ok (item, session)

def promotionScope (session : SongSession) : ScopeKind → Checked String
  | .version => orRaise session.versionId
    (validation "Session has no bound Version to promote into")
  | _ => .ok session.songId

/-- The checks of `promote_item`. -/
def normalizePromotion (item : SessionItem) (session : SongSession) (input : PromotionInput) :
    Checked PromotionFields := do
  let key ← cleanText input.key "key"
  let unsupported := validation s!"unsupported Session promotion scope: {upper (strip input.scopeKind)}"
  let scopeKind ← orRaise (ScopeKind.ofName (upper (strip input.scopeKind))) unsupported
  require (scopeKind = .song ∨ scopeKind = .version) unsupported
  let sourceKind ← orRaise (Evidence.SourceKind.ofName (upper (strip input.sourceKind)))
    (validation s!"unsupported evidence source: {upper (strip input.sourceKind)}")
  let twinDomain ← normalizeTwinDomain input.twinDomain
  require (0 ≤ input.confidence ∧ input.confidence ≤ 1)
    (validation "confidence must be between 0 and 1")
  let scopeId ← promotionScope session scopeKind
  .ok ⟨scopeKind, scopeId, key, .str item.body, sourceKind, twinDomain, input.confidence⟩

/-- The request for an item, which is made unless there is one. -/
def requestPromotion (uuid : Uuid) (itemId : String) (fields : PromotionFields) :
    SessionCall PromotionRequest := do
  let request ← .select fun db ↦ db.requestFor itemId
  match request with
  | some request => do
    .fromExcept (require (request.fields = fields)
      (validation "Session item already has a different immutable promotion request"))
    pure request
  | none => do
    let requestId := newId "spr" uuid
    .transaction fun db ↦ integrityAs (fun text ↦ s!"cannot request Session promotion: {text}")
      (db.insertRequest ⟨requestId, itemId, promotionPrefix ++ requestId, fields⟩)
    .ask fun db ↦ orRaise (db.requestFor itemId) ⟨.assertionError, ""⟩

def linkedClaim (itemId : String) : SessionCall (Option EvidenceClaim) := do
  let linked ← .select fun db ↦ db.promotionFor itemId
  match linked with
  | none => pure none
  | some linked => do
    let claim ← getClaim sessionHost linked.claimId
    .fromExcept (some <$> orRaise claim (corruption "Session promotion lost its EvidenceClaim"))

/-- The arguments of `record_claim` for a request. -/
def requestedClaim (fields : PromotionFields) (sourceRef : String) : ClaimInput :=
  ⟨fields.scopeKind.name, fields.scopeId, fields.key, fields.value, fields.sourceKind.name,
    some sourceRef, fields.confidence, fields.twinDomain.name, []⟩

/-- A new claim, or the one that another call has linked meanwhile. -/
def recordLinked (uuid : Uuid) (itemId : String) (fields : PromotionFields) (sourceRef : String) :
    SessionCall (EvidenceClaim × Bool) :=
  ((·, true) <$> recordClaim profile sessionHost uuid (requestedClaim fields sourceRef)).rescue
    fun e ↦
      match e.cls with
      | .validationError => do
        let linked ← linkedClaim itemId
        .fromExcept ((·, false) <$> orRaise linked e)
      | _ => .fromExcept (.error e)

/-- `promote_item` once there is a request. -/
def finishPromotion (uuid : Uuid) (itemId : String) (fields : PromotionFields) (sourceRef : String) :
    SessionCall EvidenceClaim := do
  let linked ← linkedClaim itemId
  match linked with
  | some claim => pure claim
  | none => do
    let recorded ← recordLinked profile uuid itemId fields sourceRef
    match recorded with
    | (claim, false) => pure claim
    | (claim, true) => do
      let linked ← .select fun db ↦ db.promotionFor itemId
      .fromExcept (require (linked.map SessionPromotion.claimId = some claim.id)
        (corruption "Evidence promotion committed without matching Session link"))
      pure claim

/-- `promote_item`. -/
def promoteItem (uuid claimUuid : Uuid) (itemId : String) (input : PromotionInput) :
    SessionCall EvidenceClaim := do
  let (item, session) ← .ask (itemWithSession profile itemId)
  let fields ← .fromExcept (normalizePromotion item session input)
  let request ← requestPromotion uuid item.id fields
  finishPromotion profile claimUuid item.id fields request.sourceRef

/-! ### The operations of a run -/

/-- An operation, with the random ids that it draws. -/
inductive SessionOperation where
  | startSession (uuid : Uuid) (songId objective : String) (versionId : Option String)
  | appendScratch (uuid : Uuid) (sessionId kind body : String)
  | promoteItem (uuid claimUuid : Uuid) (itemId : String) (input : PromotionInput)
  | closeSession (sessionId debriefSummary nextAction : String)

/-- What an operation returns. -/
inductive SessionAnswer where
  | session (value : SongSession)
  | item (value : SessionItem)
  | claim (value : EvidenceClaim)
  deriving DecidableEq

def sessionProgram : SessionOperation → SessionCall SessionAnswer
  | .startSession uuid songId objective versionId =>
    .session <$> startSession profile uuid songId objective versionId
  | .appendScratch uuid sessionId kind body =>
    .item <$> appendScratch profile uuid sessionId kind body
  | .promoteItem uuid claimUuid itemId input =>
    .claim <$> promoteItem profile uuid claimUuid itemId input
  | .closeSession sessionId debriefSummary nextAction =>
    .session <$> closeSession profile sessionId debriefSummary nextAction

end

end N0te.Sessions
