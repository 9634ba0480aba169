import N0te.Evidence.EvidenceStore
import N0te.Library.EventLog
import N0te.Library.IsoDate

/-!
# Business obligations

An obligation of a person is bound to a claim of the evidence. Its lifecycle and what triggered it are
two append-only tables, and every row of them is bound to a claim as well.

An operation checks outside of its transaction whether the obligation is still going on and whether the
claim is active. The triggers of the tables check the scope of the claim and the transition of the
lifecycle again; neither the obligation of a trigger row nor the activity of a claim is checked again.

Scope. The activity feed that triggers fill and the names of the triggers are left out. Follow-ups were
created before.
-/

set_option autoImplicit false
set_option relaxedAutoImplicit false

namespace N0te.Obligations

open Library Lineage People Evidence

/-! ### Rows -/

/-- `OBLIGATION_KINDS`. -/
inductive ObligationKind where
  | deliverable
  | deadline
  | license
  | payment
  | other
  deriving DecidableEq

/-- `OBLIGATION_STATUSES`. -/
inductive ObligationStatus where
  | opened
  | blocked
  | disputed
  | satisfied
  | waived
  | canceled
  deriving DecidableEq

/-- `FOLLOWUP_RESPONSIBILITIES`. -/
inductive Responsibility where
  | artistOwes
  | waitingOnOther
  | mutually
  deriving DecidableEq

/-- `FOLLOWUP_STATES`. -/
inductive FollowupState where
  | opened
  | resolved
  | canceled
  deriving DecidableEq

def ObligationKind.ofName : String → Option ObligationKind
  | "DELIVERABLE" => some deliverable
  | "DEADLINE" => some deadline
  | "LICENSE" => some license
  | "PAYMENT" => some payment
  | "OTHER" => some other
  | _ => none

def ObligationStatus.ofName : String → Option ObligationStatus
  | "OPEN" => some opened
  | "BLOCKED" => some blocked
  | "DISPUTED" => some disputed
  | "SATISFIED" => some satisfied
  | "WAIVED" => some waived
  | "CANCELED" => some canceled
  | _ => none

/-- `TERMINAL_OBLIGATION_STATUSES`. -/
def ObligationStatus.terminal : ObligationStatus → Bool
  | satisfied => true
  | waived => true
  | canceled => true
  | _ => false

def Responsibility.ofName : String → Option Responsibility
  | "ARTIST_OWES" => some artistOwes
  | "WAITING_ON_OTHER" => some waitingOnOther
  | "MUTUAL" => some mutually
  | _ => none

/-- `_PROVENANCE_REQUIRED`. -/
def provenanceRequired : SourceKind → Bool
  | .observed => true
  | .measured => true
  | .providerVerified => true
  | .inferred => true
  | _ => false

/-- A row of `people_followups`. -/
structure Followup where
  id : String
  artistId : String
  personId : String
  songId : Option String
  responsibility : Responsibility
  dueOn : Option String
  state : FollowupState
  deriving DecidableEq

/-- A profile with its follow-ups. -/
structure ObligationProfile extends Profile where
  /-- `people_followups`. -/
  followups : List Followup
  /-- The store made their ids. -/
  followups_created : ∀ followup ∈ followups, Created "followup" followup.id

/-- `get_followup`. -/
def ObligationProfile.getFollowup (profile : ObligationProfile) (followupId : String) :
    Option Followup :=
  profile.followups.find? fun followup ↦ followup.id = strip followupId

/-- A row of `business_obligations`. -/
structure BusinessObligation where
  id : String
  artistId : String
  personId : String
  songId : Option String
  followupId : Option String
  kind : ObligationKind
  responsibility : Responsibility
  summary : String
  dueOn : Option String
  triggerRef : Option String
  /-- The claim that says so. -/
  sourceClaimId : String
  /-- What follows otherwise. -/
  consequenceNote : Option String
  deriving DecidableEq

/-- A row of `business_obligation_events`. -/
structure ObligationEventRow where
  id : String
  obligationId : String
  status : ObligationStatus
  /-- The claim that says so. -/
  evidenceClaimId : String
  note : Option String
  deriving DecidableEq

/-- A row of `business_obligation_triggers`. -/
structure ObligationTriggerRow where
  id : String
  obligationId : String
  /-- The claim that says that it was triggered. -/
  evidenceClaimId : String
  note : String
  deriving DecidableEq

/-- The tables. -/
structure ObligationDb where
  evidence : EvidenceDb
  /-- `business_obligations`. -/
  obligations : List BusinessObligation
  /-- `business_obligation_events`. -/
  events : List ObligationEventRow
  /-- `business_obligation_triggers`. -/
  triggers : List ObligationTriggerRow

/-- The store as one that holds evidence. -/
def obligationHost : EvidenceHost ObligationDb where
  evidence := ObligationDb.evidence
  withEvidence evidence db := { db with evidence := evidence }
  afterClaim _ db := .ok db
  evidence_withEvidence _ _ := rfl
  evidence_afterClaim _ _ _ h := by
    cases h
    rfl

/-! ### Scopes -/

section

variable (profile : ObligationProfile)

/-- `_claim_compatible`. -/
def ClaimCompatible (claim : EvidenceClaim) (songId : Option String) : Prop :=
  match claim.scopeKind with
  | .artist => claim.scopeId = profile.primaryArtistId
  | .song => songId = some claim.scopeId
  | .version => ∃ version ∈ profile.getVersion claim.scopeId, songId = some version.songId
  | .profile => False

instance (claim : EvidenceClaim) (songId : Option String) :
    Decidable (ClaimCompatible profile claim songId) := by
  unfold ClaimCompatible
  cases claim.scopeKind <;> infer_instance

/-- The condition of the triggers on the scope of a claim. -/
def ScopeMatches (claim : EvidenceClaim) (artistId : String) (songId : Option String) : Prop :=
  claim.scopeKind = .artist ∧ claim.scopeId = artistId ∨
    claim.scopeKind = .song ∧ songId = some claim.scopeId ∨
    claim.scopeKind = .version ∧
      ∃ version ∈ profile.versions, version.id = claim.scopeId ∧ songId = some version.songId

instance (claim : EvidenceClaim) (artistId : String) (songId : Option String) :
    Decidable (ScopeMatches profile claim artistId songId) :=
  inferInstanceAs (Decidable (_ ∨ _))

end

namespace ObligationDb

variable (db : ObligationDb)

/-- The tables of a new store. -/
def empty : ObligationDb := ⟨.empty, [], [], []⟩

/-! ### Reads -/

def find (obligationId : String) : Option BusinessObligation :=
  db.obligations.find? fun row ↦ row.id = obligationId

/-- The lifecycle of an obligation. -/
def eventsOf (obligationId : String) : List ObligationEventRow :=
  historyOf ObligationEventRow.obligationId obligationId db.events

def statusesOf (obligationId : String) : List ObligationStatus :=
  (db.eventsOf obligationId).map ObligationEventRow.status

def triggersOf (obligationId : String) : List ObligationTriggerRow :=
  historyOf ObligationTriggerRow.obligationId obligationId db.triggers

/-- The lifecycle of an obligation has ended. -/
def Terminal (obligationId : String) : Prop :=
  ∃ status ∈ (db.statusesOf obligationId).getLast?, status.terminal = true

instance (obligationId : String) : Decidable (db.Terminal obligationId) :=
  inferInstanceAs (Decidable (∃ status ∈ (db.statusesOf obligationId).getLast?, _))

/-! ### Statements -/

variable (profile : ObligationProfile)

/-- A claim has a scope that matches an obligation. -/
def ClaimMatches (claimId artistId : String) (songId : Option String) : Prop :=
  ∃ claim ∈ db.evidence.claims, claim.id = claimId ∧ ScopeMatches profile claim artistId songId

instance (claimId artistId : String) (songId : Option String) :
    Decidable (db.ClaimMatches profile claimId artistId songId) :=
  inferInstanceAs (Decidable (∃ claim ∈ db.evidence.claims, _))

/-- The condition of the trigger `obligation_followup_binding_matches`. -/
def FollowupMatches (row : BusinessObligation) (followupId : String) : Prop :=
  ∃ followup ∈ profile.followups, followup.id = followupId ∧ followup.artistId = row.artistId ∧
    followup.personId = row.personId ∧ followup.songId = row.songId ∧
      followup.responsibility = row.responsibility ∧
        (followup.dueOn = none ∨ followup.dueOn = row.dueOn)

instance (row : BusinessObligation) (followupId : String) :
    Decidable (FollowupMatches profile row followupId) :=
  inferInstanceAs (Decidable (∃ followup ∈ profile.followups, _))

/-- `INSERT INTO business_obligations`, with its triggers. -/
def insertObligation (row : BusinessObligation) : Checked ObligationDb := do
  require (∃ person ∈ profile.people, person.id = row.personId ∧ person.artistId = row.artistId)
    (integrityError "obligation person belongs to a different Artist")
  require (∀ songId ∈ row.songId,
      ∃ song ∈ profile.songs, song.id = songId ∧ song.artistId = row.artistId)
    (integrityError "obligation Song belongs to a different Artist")
  require (∀ followupId ∈ row.followupId, FollowupMatches profile row followupId)
    (integrityError "obligation follow-up binding does not match")
  require (db.ClaimMatches profile row.sourceClaimId row.artistId row.songId)
    (integrityError "obligation source evidence scope does not match")
  require (∀ other ∈ db.obligations, other.id ≠ row.id)
    (integrityError "UNIQUE constraint failed: business_obligations.id")
  require (sqlNonblank row.summary = true ∧ (∀ text ∈ row.triggerRef, sqlNonblank text = true) ∧
      ∀ text ∈ row.consequenceNote, sqlNonblank text = true)
    (integrityError "CHECK constraint failed")
  .ok { db with obligations := db.obligations ++ [row] }

/-- The condition of the trigger `obligation_event_transition_shape`. -/
def TransitionShape (last : Option ObligationStatus) (status : ObligationStatus) : Prop :=
  match last with
  | none => status = .opened
  | some last => last.terminal = false ∧ status ≠ last ∧
    (status = .opened → last = .blocked ∨ last = .disputed)

instance (last : Option ObligationStatus) (status : ObligationStatus) :
    Decidable (TransitionShape last status) := by
  unfold TransitionShape
  cases last <;> infer_instance

/-- `INSERT INTO business_obligation_events`, with its triggers. -/
def insertEvent (row : ObligationEventRow) : Checked ObligationDb := do
  require (∃ obligation ∈ db.obligations, obligation.id = row.obligationId ∧
      db.ClaimMatches profile row.evidenceClaimId obligation.artistId obligation.songId)
    (integrityError "obligation lifecycle evidence scope does not match")
  require (TransitionShape (db.statusesOf row.obligationId).getLast? row.status)
    (integrityError "invalid obligation lifecycle transition")
  require (∀ other ∈ db.events, other.id ≠ row.id)
    (integrityError "UNIQUE constraint failed: business_obligation_events.id")
  require (∀ note ∈ row.note, sqlNonblank note = true) (integrityError "CHECK constraint failed: note")
  .ok { db with events := db.events ++ [row] }

/-- `INSERT INTO business_obligation_triggers`, with its trigger. -/
def insertTrigger (row : ObligationTriggerRow) : Checked ObligationDb := do
  require (∃ obligation ∈ db.obligations, obligation.id = row.obligationId ∧
      obligation.triggerRef.isSome = true ∧
      db.ClaimMatches profile row.evidenceClaimId obligation.artistId obligation.songId)
    (integrityError "obligation trigger evidence scope does not match")
  require (∀ other ∈ db.triggers, other.id ≠ row.id)
    (integrityError "UNIQUE constraint failed: business_obligation_triggers.id")
  require (sqlNonblank row.note = true) (integrityError "CHECK constraint failed: note")
  .ok { db with triggers := db.triggers ++ [row] }

end ObligationDb

/-! ### Snapshots -/

/-- An event with the source of its claim. -/
structure ObligationEvent where
  row : ObligationEventRow
  /-- Where the claim comes from. -/
  sourceKind : SourceKind
  sourceRef : Option String

/-- A trigger with the source of its claim. -/
structure ObligationTriggerEvent where
  row : ObligationTriggerRow
  /-- Where the claim comes from. -/
  sourceKind : SourceKind
  sourceRef : Option String

/-- An obligation as it was read. -/
structure ObligationSnapshot where
  row : BusinessObligation
  /-- The state of the follow-up. -/
  followupState : Option FollowupState
  /-- Where its claim comes from. -/
  sourceKind : SourceKind
  sourceRef : Option String
  /-- Whether nothing superseded its claim. -/
  sourceCurrent : Bool
  events : List ObligationEvent
  triggerEvents : List ObligationTriggerEvent
  /-- The lifecycle begins open. -/
  begins : ∃ event ∈ events.head?, event.row.status = .opened

namespace ObligationSnapshot

variable (snapshot : ObligationSnapshot)

theorem events_ne : snapshot.events ≠ [] := by
  intro hempty
  obtain ⟨event, hevent, -⟩ := snapshot.begins
  rw [hempty] at hevent
  cases hevent

/-- `status`. -/
def status : ObligationStatus := (snapshot.events.getLast snapshot.events_ne).row.status

/-- `terminal`. -/
def terminal : Bool := snapshot.status.terminal

end ObligationSnapshot

/-! ### Checks -/

/-- `_optional_text`: a blank text is none. -/
def optionalText (value : Option String) (field : String) (maximum : ℕ) : Checked (Option String) :=
  match value with
  | none => .ok none
  | some value => if collapse value = "" then .ok none else some <$> strictText value field maximum

/-- `_enum`. -/
def enumOf {α : Type} (value field : String) (ofName : String → Option α) : Checked α :=
  orRaise (ofName (underscored (upper (strip value))))
    (validation s!"unsupported {field}: {underscored (upper (strip value))}")

/-- A text that is given, without whitespace at its ends. -/
def given (value : Option String) : Option String :=
  (value.map strip).filter fun text ↦ text ≠ ""

/-- `_due_on`. -/
def normalizeDueOn (value : Option String) : Checked (Option String) :=
  match given value with
  | none => .ok none
  | some text => (fun date ↦ some date.isoFormat) <$> orRaise (fromIsoFormat text)
    (validation "due_on must be an ISO calendar date (YYYY-MM-DD)")

section

variable (profile : ObligationProfile)

/-- `_person`. -/
def requirePerson (personId : String) : Checked Person := do
  let person ← orRaise (profile.getPerson (strip personId)) (notFound s!"person not found: {personId}")
  require (person.artistId = profile.primaryArtistId)
    (validation "obligation person belongs to a different Artist")
  .ok person

/-- `_song`. -/
def normalizeSong (songId : Option String) : Checked (Option String) :=
  match given songId with
  | none => .ok none
  | some value => do
    let song ← orRaise (profile.getSong value) (notFound s!"Song not found: {value}")
    require (song.artistId = profile.primaryArtistId)
      (validation "obligation Song belongs to a different Artist")
    .ok (some value)

/-- `_followup`. -/
def normalizeFollowup (followupId : Option String) (personId : String) (songId : Option String)
    (responsibility : Responsibility) (dueOn : Option String) : Checked (Option String) :=
  match given followupId with
  | none => .ok none
  | some value => do
    let followup ← orRaise (profile.getFollowup value) (notFound s!"follow-up not found: {value}")
    require (followup.artistId = profile.primaryArtistId ∧ followup.personId = personId ∧
        followup.songId = songId ∧ followup.responsibility = responsibility)
      (validation "obligation follow-up binding does not match")
    require (followup.dueOn = none ∨ followup.dueOn = dueOn)
      (validation "obligation due_on conflicts with linked follow-up")
    .ok (some value)

/-- The checks of `_evidence_claim` on the claim that it reads. -/
def bindableClaim (claimId : String) (songId : Option String) (claim : Option EvidenceClaim) :
    Checked EvidenceClaim := do
  let claim ← orRaise claim (notFound s!"evidence claim not found: {claimId}")
  require (ClaimCompatible profile claim songId)
    (validation "obligation evidence scope does not match Artist/Song binding")
  require (provenanceRequired claim.sourceKind = true → ∃ ref ∈ claim.sourceRef, strip ref ≠ "")
    (validation s!"{claim.sourceKind.name} obligation evidence requires source_ref provenance")
  .ok claim

/-! ### Reading an obligation -/

/-- A call on the store. -/
abbrev ObligationCall (α : Type) := Call ObligationDb (Raised LineageErrorClass) α

/-- `_claim_current`. -/
def claimCurrent (claim : EvidenceClaim) (db : ObligationDb) : Checked Bool := do
  let active ← activeClaims profile.toProfile claim.scopeKind claim.scopeId claim.key db.evidence
  .ok (decide (claim.id ∈ active.map EvidenceClaim.id))

/-- `_evidence_claim`. -/
def evidenceClaim (claimId : String) (songId : Option String) : ObligationCall EvidenceClaim := do
  let claim ← getClaim obligationHost (strip claimId)
  let claim ← .fromExcept (bindableClaim profile claimId songId claim)
  let current ← .ask (claimCurrent profile claim)
  .fromExcept (require (current = true)
    (validation "obligation may bind only currently active evidence"))
  pure claim

/-- `_event`. -/
def readEvent (db : ObligationDb) (row : ObligationEventRow) : Checked ObligationEvent := do
  let claim ← orRaise (db.evidence.getClaim row.evidenceClaimId)
    (corruption "obligation event lost source evidence")
  .ok ⟨row, claim.sourceKind, claim.sourceRef⟩

/-- `_trigger_event`. -/
def readTrigger (db : ObligationDb) (row : ObligationTriggerRow) : Checked ObligationTriggerEvent := do
  let claim ← orRaise (db.evidence.getClaim row.evidenceClaimId)
    (corruption "obligation trigger lost source evidence")
  .ok ⟨row, claim.sourceKind, claim.sourceRef⟩

/-- The state of the follow-up of an obligation. -/
def followupState (row : BusinessObligation) : Checked (Option FollowupState) :=
  match row.followupId with
  | none => .ok none
  | some followupId => (fun followup ↦ some followup.state) <$>
    orRaise (profile.getFollowup followupId) (corruption "obligation lost linked follow-up")

/-- The last checks of `get`. -/
def takeSnapshot (row : BusinessObligation) (followupState : Option FollowupState)
    (source : EvidenceClaim) (current : Bool) (events : List ObligationEvent)
    (triggers : List ObligationTriggerEvent) : Checked ObligationSnapshot := do
  require (row.artistId = profile.primaryArtistId)
    (corruption "obligation Artist does not match active profile")
  if h : ∃ event ∈ events.head?, event.row.status = .opened then
    .ok ⟨row, followupState, source.sourceKind, source.sourceRef, current, events, triggers, h⟩
  else
    .error (corruption "obligation lifecycle does not begin OPEN")

/-- `get`. -/
def get (obligationId : String) : ObligationCall ObligationSnapshot := do
  let row ← .ask fun db ↦ orRaise (db.find (strip obligationId))
    (notFound s!"obligation not found: {obligationId}")
  let _ ← .fromExcept (requirePerson profile row.personId)
  let source ← getClaim obligationHost row.sourceClaimId
  let source ← .fromExcept do
    let source ← orRaise source (corruption "obligation lost compatible source evidence")
    require (ClaimCompatible profile source row.songId)
      (corruption "obligation lost compatible source evidence")
    .ok source
  let events ← .ask fun db ↦ checkEach (fun _ ↦ readEvent db) 0 (db.eventsOf row.id)
  let triggers ← .ask fun db ↦ checkEach (fun _ ↦ readTrigger db) 0 (db.triggersOf row.id)
  let followup ← .fromExcept (followupState profile row)
  let current ← .ask (claimCurrent profile source)
  .fromExcept (takeSnapshot profile row followup source current events triggers)

/-! ### Operations -/

/-- The arguments of `create_obligation`. -/
structure ObligationInput where
  personId : String
  kind : String
  responsibility : String
  summary : String
  /-- The claim that says so. -/
  sourceClaimId : String
  songId : Option String
  followupId : Option String
  dueOn : Option String
  triggerRef : Option String
  /-- What follows otherwise. -/
  consequenceNote : Option String

/-- What `create_obligation` checks before it reads the claim: the row without its follow-up. -/
def normalizeObligation (obligationId : String) (input : ObligationInput) :
    Checked BusinessObligation := do
  let person ← requirePerson profile input.personId
  let song ← normalizeSong profile input.songId
  let kind ← enumOf input.kind "obligation kind" ObligationKind.ofName
  let responsibility ←
    enumOf input.responsibility "obligation responsibility" Responsibility.ofName
  let summary ← strictText input.summary "summary" 1200
  let due ← normalizeDueOn input.dueOn
  let trigger ← optionalText input.triggerRef "trigger_ref" 800
  let consequence ← optionalText input.consequenceNote "consequence_note" 1200
  .ok ⟨obligationId, profile.primaryArtistId, person.id, song, none, kind, responsibility, summary,
    due, trigger, input.sourceClaimId, consequence⟩

/-- The transaction of `create_obligation`. -/
def insertNew (row : BusinessObligation) (event : ObligationEventRow) (db : ObligationDb) :
    Checked ObligationDb :=
  integrityAs (fun text ↦ s!"cannot create obligation: {text}") do
    let db ← db.insertObligation profile row
    db.insertEvent profile event

/-- `create_obligation`. -/
def createObligation (uuid eventUuid : Uuid) (input : ObligationInput) :
    ObligationCall ObligationSnapshot := do
  let obligationId := newId "obl" uuid
  let row ← .fromExcept (normalizeObligation profile obligationId input)
  let source ← evidenceClaim profile input.sourceClaimId row.songId
  let followup ← .fromExcept (normalizeFollowup profile input.followupId row.personId row.songId
    row.responsibility row.dueOn)
  .transaction (insertNew profile { row with followupId := followup, sourceClaimId := source.id }
    ⟨newId "oble" eventUuid, obligationId, .opened, source.id, none⟩)
  get profile obligationId

/-- `record_trigger`. -/
def recordTrigger (uuid : Uuid) (obligationId evidenceClaimId note : String) :
    ObligationCall ObligationSnapshot := do
  let current ← get profile obligationId
  .fromExcept do
    require (current.row.triggerRef.isSome = true)
      (validation "obligation has no explicit trigger to observe")
    require (current.terminal = false)
      (validation "terminal obligation cannot receive trigger evidence")
  let claim ← evidenceClaim profile evidenceClaimId current.row.songId
  let note ← .fromExcept (strictText note "note" 1200)
  .transaction fun db ↦ integrityAs (fun text ↦ s!"cannot record obligation trigger: {text}")
    (db.insertTrigger profile ⟨newId "oblt" uuid, current.row.id, claim.id, note⟩)
  get profile current.row.id

/-- The checks of `transition` on the status. -/
def normalizeTransition (current : ObligationSnapshot) (status : String) :
    Checked ObligationStatus := do
  let status ← enumOf status "obligation status" ObligationStatus.ofName
  require (current.terminal = false) (validation "terminal obligation lifecycle is immutable")
  require (status ≠ current.status)
    (validation "obligation lifecycle transition must change status")
  require (status = .opened → current.status = .blocked ∨ current.status = .disputed)
    (validation "OPEN may only reopen BLOCKED or DISPUTED obligations")
  .ok status

/-- `transition`. -/
def transition (uuid : Uuid) (obligationId status evidenceClaimId note : String) :
    ObligationCall ObligationSnapshot := do
  let current ← get profile obligationId
  let status ← .fromExcept (normalizeTransition current status)
  let claim ← evidenceClaim profile evidenceClaimId current.row.songId
  let note ← .fromExcept (strictText note "note" 1200)
  .transaction fun db ↦ integrityAs (fun text ↦ s!"cannot transition obligation: {text}")
    (db.insertEvent profile ⟨newId "oble" uuid, current.row.id, status, claim.id, some note⟩)
  get profile current.row.id

/-! ### Opening -/

/-- The checks of `_validate_existing` on the claim of an event or a trigger. -/
def validateBinding (db : ObligationDb) (songId : Option String) (claimId message : String) :
    Checked Unit := do
  let claim ← orRaise (db.evidence.getClaim claimId) (corruption message)
  require (ClaimCompatible profile claim songId) (corruption message)

/-- The checks of `_validate_existing` on the events that follow a status. -/
def validateEvents (db : ObligationDb) (songId : Option String) :
    Option ObligationStatus → List ObligationEvent → Checked Unit
  | _, [] => .ok ⟨⟩
  | previous, event :: rest => do
    validateBinding profile db songId event.row.evidenceClaimId
      "obligation lifecycle evidence binding is invalid"
    require (∀ status ∈ previous, status.terminal = false)
      (corruption "terminal obligation has later lifecycle evidence")
    require (previous ≠ some event.row.status)
      (corruption "obligation lifecycle repeats the same status")
    require (event.row.status = .opened → ∀ status ∈ previous, status = .blocked ∨ status = .disputed)
      (corruption "obligation OPEN transition is invalid")
    validateEvents db songId (some event.row.status) rest

/-- The checks of `_validate_existing` on a trigger. -/
def validateTrigger (db : ObligationDb) (row : BusinessObligation)
    (trigger : ObligationTriggerEvent) : Checked Unit := do
  require (row.triggerRef.isSome = true)
    (corruption "obligation has trigger evidence without a trigger")
  validateBinding profile db row.songId trigger.row.evidenceClaimId
    "obligation trigger evidence binding is invalid"

/-- The checks of `_validate_existing` on an obligation. -/
def validateObligation (db : ObligationDb) (row : BusinessObligation) : Checked Unit := do
  let snapshot ← ((get profile row.id).alone db).1
  let _ ← normalizeDueOn snapshot.row.dueOn
  validateEvents profile db snapshot.row.songId none snapshot.events
  let _ ← checkEach (fun _ ↦ validateTrigger profile db snapshot.row) 0 snapshot.triggerEvents

/-- `except (sqlite3.DatabaseError, ValidationError, …)`. A `NotFoundError` is raised as it is. -/
def asUnreadable {α : Type} : Checked α → Checked α
  | .error ⟨.notFoundError, text⟩ => .error (notFound text)
  | result => asCorruption "Obligation memory is unreadable or corrupt" result

/-- `EvidenceMemory` and `ObligationMemory` are opened. -/
def ObligationDb.validateExisting (db : ObligationDb) : Checked Unit := do
  db.evidence.validateExisting profile.toProfile
  asUnreadable do
    let _ ← checkEach (fun _ ↦ validateObligation profile db) 0 db.obligations

/-! ### The operations of a run -/

/-- An operation, with the random ids that it draws. -/
inductive ObligationOperation where
  | createObligation (uuid eventUuid : Uuid) (input : ObligationInput)
  | recordTrigger (uuid : Uuid) (obligationId evidenceClaimId note : String)
  | transition (uuid : Uuid) (obligationId status evidenceClaimId note : String)
  | recordClaim (uuid : Uuid) (input : ClaimInput)

/-- What an operation returns. -/
inductive ObligationAnswer where
  | snapshot (value : ObligationSnapshot)
  | claim (value : EvidenceClaim)

def obligationProgram : ObligationOperation → ObligationCall ObligationAnswer
  | .createObligation uuid eventUuid input =>
    .snapshot <$> createObligation profile uuid eventUuid input
  | .recordTrigger uuid obligationId evidenceClaimId note =>
    .snapshot <$> recordTrigger profile uuid obligationId evidenceClaimId note
  | .transition uuid obligationId status evidenceClaimId note =>
    .snapshot <$> transition profile uuid obligationId status evidenceClaimId note
  | .recordClaim uuid input => .claim <$> recordClaim profile.toProfile obligationHost uuid input

end

end N0te.Obligations
