import N0te.Library.Casing
import N0te.Library.EventLog
import N0te.People.Profile

/-!
# External identities and their reviews

An external identity is a row that a provider or the artist named a person by. A review proposes that it
is one of the people of the profile, and the log of its events says what was decided. All three tables
are append-only: triggers refuse updates and deletions.

An operation normalizes its texts and checks what it reads outside of any transaction, and then runs
one transaction, whose triggers check again.

Scope. The activity feed that triggers fill is left out, and so are the triggers' and indexes' names,
which opening compares with the schema.
-/

set_option autoImplicit false
set_option relaxedAutoImplicit false

namespace N0te.People

open Library Lineage

/-! ### Rows -/

/-- `IDENTITY_REALMS`. -/
inductive Realm where
  | contacts
  | gmail
  | social
  | credits
  | collaborator
  | opportunity
  | other
  deriving DecidableEq

/-- `IDENTITY_SOURCE_KINDS`. -/
inductive SourceKind where
  | userDeclared
  | observed
  deriving DecidableEq

/-- `REVIEW_STATES`. -/
inductive ReviewState where
  | reviewRequired
  | linked
  | rejected
  | split
  deriving DecidableEq

def Realm.ofName : String → Option Realm
  | "CONTACTS" => some contacts
  | "GMAIL" => some gmail
  | "SOCIAL" => some social
  | "CREDITS" => some credits
  | "COLLABORATOR" => some collaborator
  | "OPPORTUNITY" => some opportunity
  | "OTHER" => some other
  | _ => none

def SourceKind.ofName : String → Option SourceKind
  | "USER_DECLARED" => some userDeclared
  | "OBSERVED" => some observed
  | _ => none

/-- `ACTIVE_REVIEW_STATES`. -/
def ReviewState.active : ReviewState → Bool
  | reviewRequired => true
  | linked => true
  | rejected => false
  | split => false

/-- A row of `person_external_identities`. -/
structure ExternalIdentity where
  id : String
  artistId : String
  realm : Realm
  namespaceName : String
  subject : String
  displayLabel : Option String
  sourceKind : SourceKind
  sourceRef : Option String
  deriving DecidableEq

/-- A row of `person_identity_reviews`. -/
structure IdentityReview where
  id : String
  artistId : String
  externalIdentityId : String
  personId : String
  deriving DecidableEq

/-- A row of `person_identity_review_events`. -/
structure IdentityReviewEvent where
  id : String
  reviewId : String
  state : ReviewState
  note : Option String
  deriving DecidableEq

/-- What a review says at present. -/
structure IdentityResolution where
  reviewId : String
  externalIdentity : ExternalIdentity
  personId : String
  state : ReviewState
  note : Option String
  eventCount : ℕ
  deriving DecidableEq

/-- The tables. -/
structure IdentityDb where
  /-- `person_external_identities`. -/
  externals : List ExternalIdentity
  /-- `person_identity_reviews`. -/
  reviews : List IdentityReview
  /-- `person_identity_review_events`. -/
  events : List IdentityReviewEvent

namespace IdentityDb

variable (db : IdentityDb)

/-- The tables of a new store. -/
def empty : IdentityDb := ⟨[], [], []⟩

/-! ### Statements -/

def eventsOf (reviewId : String) : List IdentityReviewEvent :=
  historyOf IdentityReviewEvent.reviewId reviewId db.events

def statesOf (reviewId : String) : List ReviewState :=
  (db.eventsOf reviewId).map IdentityReviewEvent.state

/-- Whether a review is in an active state. -/
def IsActive (reviewId : String) : Prop :=
  ∃ state ∈ (db.statesOf reviewId).getLast?, state.active = true

instance (reviewId : String) : Decidable (db.IsActive reviewId) :=
  inferInstanceAs (Decidable (∃ state ∈ (_ : Option ReviewState), _))

/-- The active reviews of an external identity. -/
def activeReviewsOf (identityId : String) : List IdentityReview :=
  db.reviews.filter fun review ↦ review.externalIdentityId = identityId ∧ db.IsActive review.id

/-- `INSERT INTO person_external_identities`. -/
def insertExternal (row : ExternalIdentity) : Checked IdentityDb := do
  require (sqlNonblank row.namespaceName = true)
    (integrityError "CHECK constraint failed: namespace")
  require (sqlNonblank row.subject = true) (integrityError "CHECK constraint failed: subject")
  require (∀ label ∈ row.displayLabel, sqlNonblank label = true)
    (integrityError "CHECK constraint failed: display_label")
  require (∀ ref ∈ row.sourceRef, sqlNonblank ref = true)
    (integrityError "CHECK constraint failed: source_ref")
  require (row.sourceKind = .observed → row.sourceRef.isSome = true)
    (integrityError "CHECK constraint failed: source_kind")
  require (∀ other ∈ db.externals, other.id ≠ row.id)
    (integrityError "UNIQUE constraint failed: person_external_identities.id")
  require (∀ other ∈ db.externals, ¬ (other.artistId = row.artistId ∧ other.realm = row.realm ∧
      other.namespaceName = row.namespaceName ∧ other.subject = row.subject))
    (integrityError "UNIQUE constraint failed: person_identity_external_key")
  .ok { db with externals := db.externals ++ [row] }

/-- `INSERT INTO person_identity_reviews`, with the triggers `person_identity_review_same_artist` and
`person_identity_review_one_active`. -/
def insertReview (profile : Profile) (row : IdentityReview) : Checked IdentityDb := do
  require (∃ external ∈ db.externals, ∃ person ∈ profile.people, person.id = row.personId ∧
      external.id = row.externalIdentityId ∧ external.artistId = row.artistId ∧
      person.artistId = row.artistId)
    (integrityError "identity review crosses Artist boundary")
  require (db.activeReviewsOf row.externalIdentityId = [])
    (integrityError "external identity already has an active review")
  require (∀ other ∈ db.reviews, other.id ≠ row.id)
    (integrityError "UNIQUE constraint failed: person_identity_reviews.id")
  .ok { db with reviews := db.reviews ++ [row] }

/-- `INSERT INTO person_identity_review_events`, with the triggers
`person_identity_event_first_state` and `person_identity_event_transition`. -/
def insertEvent (row : IdentityReviewEvent) : Checked IdentityDb := do
  require (db.statesOf row.reviewId = [] → row.state = .reviewRequired)
    (integrityError "identity review must begin as REVIEW_REQUIRED")
  require (∀ last ∈ (db.statesOf row.reviewId).getLast?,
      last = .reviewRequired ∧ (row.state = .linked ∨ row.state = .rejected) ∨
        last = .linked ∧ row.state = .split)
    (integrityError "invalid identity review transition")
  require (∀ note ∈ row.note, sqlNonblank note = true) (integrityError "CHECK constraint failed: note")
  require (∀ other ∈ db.events, other.id ≠ row.id)
    (integrityError "UNIQUE constraint failed: person_identity_review_events.id")
  require (∃ review ∈ db.reviews, review.id = row.reviewId)
    (integrityError "FOREIGN KEY constraint failed")
  .ok { db with events := db.events ++ [row] }

/-! ### Reads -/

/-- `get_external_identity`. -/
def getExternalIdentity (identityId : String) : Checked (Option ExternalIdentity) := do
  let identityId ← strictText identityId "identity_id" 100
  .ok (db.externals.find? fun row ↦ row.id = identityId)

/-- `review_events`. -/
def reviewEvents (reviewId : String) : Checked (List IdentityReviewEvent) := do
  let reviewId ← strictText reviewId "review_id" 100
  .ok (db.eventsOf reviewId)

/-- `_review_row`. -/
def reviewRow (reviewId : String) : Checked (Option IdentityReview) := do
  let reviewId ← strictText reviewId "review_id" 100
  .ok (db.reviews.find? fun row ↦ row.id = reviewId)

/-! ### Opening -/

variable (profile : Profile)

/-- The checks of `_validate_existing` on an external identity. -/
def validateExternal (row : ExternalIdentity) : Checked Unit := do
  require (row.artistId = profile.primaryArtistId)
    (corruption "external identity Artist does not match active profile")
  require (row.sourceKind = .observed → row.sourceRef.isSome = true)
    (corruption "observed external identity is missing source provenance")
  let _ ← strictText row.namespaceName "namespace" 120
  let _ ← strictText row.subject "subject" 500

/-- The histories that a review may have. -/
def validSequences : List (List ReviewState) :=
  [[.reviewRequired], [.reviewRequired, .linked], [.reviewRequired, .rejected],
    [.reviewRequired, .linked, .split]]

/-- The checks of `_validate_existing` on a review. -/
def validateReview (row : IdentityReview) : Checked Unit := do
  require (row.artistId = profile.primaryArtistId)
    (corruption "identity review Artist does not match active profile")
  require (∃ external ∈ db.externals, external.id = row.externalIdentityId)
    (corruption "identity review references missing external identity")
  let identity ← db.getExternalIdentity row.externalIdentityId
  require (∃ external ∈ identity, external.artistId = row.artistId)
    (corruption "identity review external identity crosses Artist boundary")
  require (∃ person ∈ profile.getPerson row.personId, person.artistId = row.artistId)
    (corruption "identity review Person crosses Artist boundary")
  let events ← db.reviewEvents row.id
  let states := events.map IdentityReviewEvent.state
  require (states.head? = some .reviewRequired)
    (corruption "identity review is missing REVIEW_REQUIRED origin")
  require (states ∈ validSequences)
    (corruption "identity review contains an invalid transition history")
  require (∀ event ∈ events, event.state ≠ .reviewRequired → event.note.isSome = true)
    (corruption "identity review decision is missing its reason")

/-- `_validate_existing`. -/
def validateExisting : Checked Unit :=
  asCorruption "Person identity reconciliation is unreadable or corrupt" do
    let _ ← checkEach (fun _ ↦ validateExternal profile) 0 db.externals
    let _ ← checkEach (fun _ ↦ db.validateReview profile) 0 db.reviews
    require (∀ review ∈ db.reviews, (db.activeReviewsOf review.externalIdentityId).length ≤ 1)
      (corruption "external identity has multiple active review paths")

end IdentityDb

/-! ### Operations -/

/-- A call on the store. -/
abbrev IdentityCall (α : Type) := Call IdentityDb (Raised LineageErrorClass) α

/-- What an external identity is recorded from. -/
structure IdentityInput where
  realm : String
  namespaceName : String
  subject : String
  sourceKind : String
  sourceRef : Option String
  displayLabel : Option String

/-- `_normalize_realm`. -/
def normalizeRealm (value : String) : Checked Realm := do
  let realm ← strictText value "realm" 40
  orRaise (Realm.ofName (upper realm)) (validation s!"unsupported identity realm: {upper realm}")

/-- `_normalize_source_kind`. -/
def normalizeSourceKind (value : String) : Checked SourceKind := do
  let sourceKind ← strictText value "source_kind" 40
  orRaise (SourceKind.ofName (upper sourceKind))
    (validation "identity source_kind must be USER_DECLARED or OBSERVED")

section

variable (profile : Profile) (table : CaseTable)

/-- The row that `record_external_identity` inserts. -/
def normalizeIdentity (identityId : String) (input : IdentityInput) : Checked ExternalIdentity := do
  let realm ← normalizeRealm input.realm
  let namespaceName ← strictText input.namespaceName "namespace" 120
  let subject ← strictText input.subject "subject" 500
  let sourceKind ← normalizeSourceKind input.sourceKind
  let sourceRef ← optionalStrictText input.sourceRef "source_ref" 1000
  let displayLabel ← optionalStrictText input.displayLabel "display_label" 240
  require (sourceKind = .observed → sourceRef.isSome = true)
    (validation "OBSERVED identity requires source_ref provenance")
  .ok ⟨identityId, profile.primaryArtistId, realm, table.lower namespaceName, subject, displayLabel,
    sourceKind, sourceRef⟩

/-- `get_external_identity`. -/
def getExternalIdentity (identityId : String) : IdentityCall (Option ExternalIdentity) :=
  .ask fun db ↦ db.getExternalIdentity identityId

/-- `record_external_identity`. -/
def recordExternalIdentity (uuid : Uuid) (input : IdentityInput) : IdentityCall ExternalIdentity := do
  let row ← .fromExcept (normalizeIdentity profile table (newId "extid" uuid) input)
  .transaction fun db ↦ integrityAs
    (fun _ ↦ "external identity already exists or violates reconciliation bounds")
    (db.insertExternal row)
  let result ← getExternalIdentity row.id
  .fromExcept (orRaise result (corruption "new external identity disappeared after recording"))

/-- `_require_external_identity`. -/
def requireExternalIdentity (identityId : String) : IdentityCall ExternalIdentity := do
  let identity ← getExternalIdentity identityId
  .fromExcept do
    let identity ← orRaise identity
      (notFound s!"external identity not found in profile {profile.profileId}: {identityId}")
    require (identity.artistId = profile.primaryArtistId)
      (validation "external identity belongs to a different Artist")
    .ok identity

/-- `_require_person`. -/
def requirePerson (personId : String) : Checked Person := do
  let personId ← strictText personId "person_id" 100
  let person ← orRaise (profile.getPerson personId)
    (notFound s!"person not found in profile {profile.profileId}: {personId}")
  require (person.artistId = profile.primaryArtistId)
    (validation "Person belongs to a different Artist")
  .ok person

/-- `_resolution_from_row`. -/
def resolutionFromRow (row : IdentityReview) : IdentityCall IdentityResolution := do
  let events ← .ask fun db ↦ db.reviewEvents row.id
  let last ← .fromExcept (orRaise events.getLast?
    (corruption "identity review has no state history"))
  let identity ← requireExternalIdentity profile row.externalIdentityId
  pure ⟨row.id, identity, row.personId, last.state, last.note, events.length⟩

/-- `_resolution_from_row` of some rows. -/
def resolutionsFromRows : List IdentityReview → IdentityCall (List IdentityResolution)
  | [] => pure []
  | row :: rest => do
    let resolution ← resolutionFromRow profile row
    let resolutions ← resolutionsFromRows rest
    pure (resolution :: resolutions)

/-- `get_review`. -/
def getReview (reviewId : String) : IdentityCall (Option IdentityResolution) := do
  let row ← .ask fun db ↦ db.reviewRow reviewId
  match row with
  | none => pure none
  | some row => some <$> resolutionFromRow profile row

/-- `get_review` of a review that has to be there. -/
def requireReview (reviewId : String) : IdentityCall IdentityResolution := do
  let current ← getReview profile reviewId
  .fromExcept (orRaise current
    (notFound s!"identity review not found in profile {profile.profileId}: {reviewId}"))

/-- `reviews_for_identity`. -/
def reviewsForIdentity (identityId : String) : IdentityCall (List IdentityResolution) := do
  let identity ← requireExternalIdentity profile identityId
  let rows ← .select fun db ↦ db.reviews.filter fun row ↦ row.externalIdentityId = identity.id
  resolutionsFromRows profile rows

/-- `current_resolution`. -/
def currentResolution (identityId : String) : IdentityCall (Option IdentityResolution) := do
  let reviews ← reviewsForIdentity profile identityId
  let active := reviews.filter fun review ↦ review.state.active
  .fromExcept do
    require (active.length ≤ 1) (corruption "external identity has multiple active review paths")
    .ok active.head?

/-- The transaction of `propose_link`. -/
def openReview (review : IdentityReview) (eventId : String) (db : IdentityDb) : Checked IdentityDb :=
  integrityAs (fun text ↦ s!"cannot open identity review: {text}") do
    let db ← db.insertReview profile review
    db.insertEvent ⟨eventId, review.id, .reviewRequired, none⟩

/-- `propose_link`. -/
def proposeLink (review event : Uuid) (identityId personId : String) :
    IdentityCall IdentityResolution := do
  let identity ← requireExternalIdentity profile identityId
  let person ← .fromExcept (requirePerson profile personId)
  let current ← currentResolution profile identity.id
  .fromExcept (require (current = none)
    (validation "external identity already has an unresolved or linked review"))
  let reviewId := newId "idreview" review
  .transaction (openReview profile ⟨reviewId, profile.primaryArtistId, identity.id, person.id⟩
    (newId "idevent" event))
  let result ← getReview profile reviewId
  .fromExcept (orRaise result (corruption "new identity review disappeared after creation"))

/-- `_append_decision`. -/
def appendDecision (event : Uuid) (reviewId : String) (state : ReviewState) (note : String) :
    IdentityCall IdentityResolution := do
  let current ← requireReview profile reviewId
  let note ← .fromExcept (strictText note "decision_note" 1200)
  .transaction fun db ↦ integrityAs (fun text ↦ s!"invalid identity review transition: {text}")
    (db.insertEvent ⟨newId "idevent" event, current.reviewId, state, some note⟩)
  let result ← getReview profile current.reviewId
  .fromExcept (orRaise result (corruption "identity review disappeared after decision"))

/-- A decision on a review that has to be in a state. -/
def decideReview (required state : ReviewState) (refusal : String) (event : Uuid)
    (reviewId reason : String) : IdentityCall IdentityResolution := do
  let current ← requireReview profile reviewId
  .fromExcept (require (current.state = required) (validation refusal))
  appendDecision profile event current.reviewId state reason

/-- `link`. -/
def link : Uuid → String → String → IdentityCall IdentityResolution :=
  decideReview profile .reviewRequired .linked "only REVIEW_REQUIRED identity can be linked"

/-- `reject`. -/
def reject : Uuid → String → String → IdentityCall IdentityResolution :=
  decideReview profile .reviewRequired .rejected "only REVIEW_REQUIRED identity can be rejected"

/-- `split`. -/
def split : Uuid → String → String → IdentityCall IdentityResolution :=
  decideReview profile .linked .split "only LINKED identity can be split"

/-! ### The operations of a run -/

/-- An operation, with the random ids that it draws. -/
inductive IdentityOperation where
  | recordExternalIdentity (uuid : Uuid) (input : IdentityInput)
  | proposeLink (review event : Uuid) (identityId personId : String)
  | link (event : Uuid) (reviewId reason : String)
  | reject (event : Uuid) (reviewId reason : String)
  | split (event : Uuid) (reviewId reason : String)

/-- What an operation returns. -/
inductive IdentityAnswer where
  | identity (value : ExternalIdentity)
  | resolution (value : IdentityResolution)

def identityProgram : IdentityOperation → IdentityCall IdentityAnswer
  | .recordExternalIdentity uuid input =>
    .identity <$> recordExternalIdentity profile table uuid input
  | .proposeLink review event identityId personId =>
    .resolution <$> proposeLink profile review event identityId personId
  | .link event reviewId reason => .resolution <$> link profile event reviewId reason
  | .reject event reviewId reason => .resolution <$> reject profile event reviewId reason
  | .split event reviewId reason => .resolution <$> split profile event reviewId reason

end

end N0te.People
