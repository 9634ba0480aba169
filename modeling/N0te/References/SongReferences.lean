import Mathlib.Data.List.Sort
import N0te.Evidence.Revisions
import N0te.References.ReferenceDefinition

/-!
# Song references

A reference is a chain of claims at one key of the evidence of a song, the last of which is current. Notes
and decisions are claims of their own, each with the id of the revision that was current when it was
made. Everything is read back from the claims: `decodeReference`, `decodeNote` and `decodeDecision`.

Scope. A read of the store is one statement, as in the source; the profile does not change.
-/

set_option autoImplicit false
set_option relaxedAutoImplicit false

namespace N0te.References

open Library Lineage People Evidence

/-! ### Ids and keys -/

/-- An id of a kind: the kind and 32 hexadecimal digits. -/
def isIdOf (kind id : String) : Bool :=
  match afterPrefix (kind ++ "_") id with
  | some digits => digits.toList.length == 32 && digits.toList.all isHexDigit
  | none => false

/-- `REFERENCE_KEY_PREFIX`. -/
def referenceKeyPrefix : String := "song.reference."

/-- `REFERENCE_NOTE_KEY_PREFIX`. -/
def noteKeyPrefix : String := "song.reference-note."

/-- `REFERENCE_DECISION_KEY_PREFIX`. -/
def decisionKeyPrefix : String := "song.reference-decision."

def referenceKey (referenceId : String) : String := referenceKeyPrefix ++ referenceId

/-- `_ref_id`. -/
def refId (referenceId : String) : ReferenceChecked String := do
  let referenceId ← text (.str referenceId) "reference_id" 96
  require (isIdOf "ref" referenceId.val = true) (referenceError "invalid reference_id")
  .ok referenceId.val

/-! ### What is read back -/

section

variable (profile : Profile)

/-- A `SongReference`. -/
structure SongReference where
  referenceId : String
  referenceClaimId : String
  /-- Its position in the table. -/
  sequence : ℕ
  songId : String
  definition : ReferenceDefinition profile songId
  sourceKind : SourceEvidenceKind
  sourceRef : Option String
  confidence : ℚ

/-- A `ReferenceNote`. -/
structure ReferenceNote where
  noteId : String
  claimId : String
  /-- Its position in the table. -/
  sequence : ℕ
  songId : String
  referenceId : String
  /-- The revision that was current. -/
  referenceClaimId : String
  text : BoundedText 4000

/-- A `ReferenceDecision`. -/
structure ReferenceDecision where
  decisionId : String
  claimId : String
  /-- Its position in the table. -/
  sequence : ℕ
  songId : String
  referenceId : String
  /-- The revision that was current. -/
  referenceClaimId : String
  decision : DecisionKind
  reason : BoundedText 4000

/-- `_decode_reference`, of a claim of some store. -/
def decodeReference (db : EvidenceDb) (claim : EvidenceClaim) :
    ReferenceChecked (SongReference profile) :=
  asReferenceIntegrity "persisted Song reference evidence is invalid" do
    require (claim.scopeKind = .song) (referenceIntegrity "invalid Song reference scope/key")
    let referenceId ← orRaise (afterPrefix referenceKeyPrefix claim.key)
      (referenceIntegrity "invalid Song reference scope/key")
    require (isIdOf "ref" referenceId = true) (referenceIntegrity "invalid Song reference identity")
    require (claim.twinDomain = .unspecified) (referenceIntegrity "invalid reference Twin domain")
    let sourceKind ← orRaise (SourceEvidenceKind.ofKind claim.sourceKind)
      (referenceIntegrity "unsupported reference source evidence kind")
    require (sourceKind ≠ .userDeclared → claim.sourceRef.isSome = true ∧ claim.sourceRef ≠ some "")
      (referenceIntegrity "observed/provider reference lacks provenance")
    let definition ← decodeDefinition profile claim.scopeId referenceId claim.value
    let _ ← confidence claim.confidence
    .ok ⟨referenceId, claim.id, db.sequenceOf claim.id, claim.scopeId, definition, sourceKind,
      claim.sourceRef, claim.confidence⟩

/-- `reference_revision`. -/
def referenceRevision (songId : String) (claimId : Json) (db : EvidenceDb) :
    ReferenceChecked (SongReference profile) := do
  let songId ← song profile songId
  let claimId ← text claimId "claim_id" 96
  let missing := ofLineage (notFound s!"reference revision not found: {claimId.val}")
  let claim ← orRaise (db.getClaim claimId.val) missing
  require (claim.scopeKind = .song ∧ claim.scopeId = songId ∧
    (afterPrefix referenceKeyPrefix claim.key).isSome = true) missing
  decodeReference profile db claim

/-- The keys of the value of a note. -/
def noteKeys : List String :=
  ["schema_version", "note_id", "reference_id", "reference_claim_id", "text"]

/-- The keys of the value of a decision. -/
def decisionKeys : List String :=
  ["schema_version", "decision_id", "reference_id", "reference_claim_id", "decision", "reason"]

/-- The id that a note or a decision has, its kind given. -/
def eventId (kind : String) : Json → ReferenceChecked String
  | .str id => do
    require ((isIdOf "note" id || isIdOf "decision" id) = true ∧
        (afterPrefix (kind ++ "_") id).isSome = true)
      (referenceIntegrity s!"reference {kind} identity is invalid")
    .ok id
  | _ => .error (referenceIntegrity s!"reference {kind} identity is invalid")

/-- `_event_value`: the id of the event. -/
def eventValue (claim : EvidenceClaim) (keys : List String) (kind start : String) :
    ReferenceChecked String := do
  require (claim.scopeKind = .song ∧ claim.sourceKind = .userDeclared ∧ claim.twinDomain = .creative)
    (referenceIntegrity s!"reference {kind} provenance is invalid")
  require (claim.value.HasKeys keys) (referenceIntegrity s!"reference {kind} value shape is invalid")
  require ((claim.value.get "schema_version").equalsInt 1 = true)
    (referenceIntegrity s!"unsupported reference {kind} schema version")
  let id ← eventId kind (claim.value.get (kind ++ "_id"))
  require (claim.key = start ++ (claim.value.get "reference_id").pyStr ++ "." ++ id)
    (referenceIntegrity s!"reference {kind} key disagrees with value")
  .ok id

/-- The revision that a note or a decision is bound to. -/
def boundRevision (claim : EvidenceClaim) (message : String) (db : EvidenceDb) :
    ReferenceChecked (SongReference profile) := do
  let reference ← referenceRevision profile claim.scopeId (claim.value.get "reference_claim_id") db
  require (claim.value.get "reference_id" = .str reference.referenceId) (referenceIntegrity message)
  .ok reference

/-- `_decode_note`. -/
def decodeNote (claim : EvidenceClaim) (db : EvidenceDb) : ReferenceChecked ReferenceNote :=
  asReferenceIntegrity "persisted reference note is invalid" do
    let noteId ← eventValue claim noteKeys "note" noteKeyPrefix
    let reference ← boundRevision profile claim "reference note binding is invalid" db
    let noted ← text (claim.value.get "text") "text" 4000
    .ok ⟨noteId, claim.id, db.sequenceOf claim.id, claim.scopeId, reference.referenceId,
      reference.referenceClaimId, noted⟩

/-- `_decode_decision`. -/
def decodeDecision (claim : EvidenceClaim) (db : EvidenceDb) : ReferenceChecked ReferenceDecision :=
  asReferenceIntegrity "persisted reference decision is invalid" do
    let decisionId ← eventValue claim decisionKeys "decision" decisionKeyPrefix
    let reference ← boundRevision profile claim "reference decision binding is invalid" db
    let decision ← enum DecisionKind.ofName (claim.value.get "decision") "decision"
    let reason ← text (claim.value.get "reason") "reason" 4000
    .ok ⟨decisionId, claim.id, db.sequenceOf claim.id, claim.scopeId, reference.referenceId,
      reference.referenceClaimId, decision, reason⟩

/-! ### Readers -/

/-- `active_claims_for_scope` of a song. -/
def activeClaimsForSong (songId : String) (db : EvidenceDb) : ReferenceChecked (List EvidenceClaim) := do
  (validateScope profile validation .song songId).mapError ofLineage
  .ok (db.claims.filter fun claim ↦ claim.scopeKind = .song ∧ claim.scopeId = songId ∧
    db.Active claim.id)

/-- `get_reference`. -/
def getReference (songId referenceId : String) (db : EvidenceDb) :
    ReferenceChecked (SongReference profile) := do
  let songId ← song profile songId
  let referenceId ← refId referenceId
  let claims ← (activeClaims profile .song songId (referenceKey referenceId) db).mapError ofLineage
  match claims with
  | [] => .error (ofLineage (notFound s!"Song reference not found: {referenceId}"))
  | [claim] => decodeReference profile db claim
  | _ => .error (referenceIntegrity "Song reference has conflicting active revisions")

/-- The active claims of a key of `references_for_song`. -/
def currentOf (db : EvidenceDb) (claims : List EvidenceClaim) (key : String) :
    ReferenceChecked (SongReference profile) :=
  match claims.filter fun claim ↦ claim.key = key with
  | [claim] => decodeReference profile db claim
  | _ => .error (referenceIntegrity s!"Song reference has conflicting active revisions: {key}")

/-- The order of references: by position, then by id. -/
def comesBefore (a b : SongReference profile) : Prop :=
  a.sequence < b.sequence ∨ a.sequence = b.sequence ∧ a.referenceId ≤ b.referenceId

instance (a b : SongReference profile) : Decidable (comesBefore profile a b) :=
  inferInstanceAs (Decidable (_ ∨ _))

/-- `references_for_song`. -/
def referencesForSong (songId : String) (db : EvidenceDb) :
    ReferenceChecked (List (SongReference profile)) := do
  let songId ← song profile songId
  let claims ← activeClaimsForSong profile songId db
  let grouped := claims.filter fun claim ↦ (afterPrefix referenceKeyPrefix claim.key).isSome
  let references ← checkItems (currentOf profile db grouped)
    (keepFirst (grouped.map EvidenceClaim.key))
  .ok (references.val.insertionSort (comesBefore profile))

/-! ### Calls -/

/-- A call on the store. -/
abbrev ReferenceCall (α : Type) := Call EvidenceDb ReferenceRaised α

/-- `EvidenceMemory.record_claim`. -/
def record (uuid : Uuid) (input : ClaimInput) : ReferenceCall EvidenceClaim :=
  (recordClaim profile plainHost uuid input).mapError ofLineage toLineage

variable {profile} in
/-- The arguments of `record_claim` for a revision. -/
def referenceClaim {songId : String} (referenceId : String)
    (definition : ReferenceDefinition profile songId) (source : ReferenceSource)
    (supersedes : List String) : ClaimInput :=
  ⟨"SONG", songId, referenceKey referenceId, definition.json referenceId, source.kind.kind.name,
    source.ref.map BoundedText.val, source.confidence, "UNSPECIFIED", supersedes⟩

/-- `create_reference`. -/
def createReference (referenceUuid claimUuid : Uuid) (songId : String) (input : ReferenceInput) :
    ReferenceCall (SongReference profile) := do
  let songId ← .fromExcept (song profile songId)
  let definition ← .fromExcept (definition profile songId input)
  let source ← .fromExcept (source input)
  let claim ← record profile claimUuid
    (referenceClaim (newId "ref" referenceUuid) definition source [])
  .ask fun db ↦ decodeReference profile db claim

/-- `revise_reference`. -/
def reviseReference (claimUuid : Uuid) (songId referenceId : String) (input : ReferenceInput) :
    ReferenceCall (SongReference profile) := do
  let current ← .ask (getReference profile songId referenceId)
  let definition ← .fromExcept (definition profile current.songId input)
  let source ← .fromExcept (source input)
  let claim ← record profile claimUuid
    (referenceClaim current.referenceId definition source [current.referenceClaimId])
  .ask fun db ↦ decodeReference profile db claim

/-- The value of a note. -/
def noteJson (noteId referenceId referenceClaimId : String) (noted : BoundedText 4000) : Json :=
  .obj [("schema_version", .int 1), ("note_id", .str noteId), ("reference_id", .str referenceId),
    ("reference_claim_id", .str referenceClaimId), ("text", noted.json)]

/-- The value of a decision. -/
def decisionJson (decisionId referenceId referenceClaimId : String) (decision : DecisionKind)
    (reason : BoundedText 4000) : Json :=
  .obj [("schema_version", .int 1), ("decision_id", .str decisionId),
    ("reference_id", .str referenceId), ("reference_claim_id", .str referenceClaimId),
    ("decision", .str decision.name), ("reason", reason.json)]

/-- The key of a note or a decision. -/
def eventKey (start referenceId id : String) : String := start ++ referenceId ++ "." ++ id

/-- The arguments of `record_claim` for a note or a decision. -/
def eventClaim (songId key : String) (value : Json) : ClaimInput :=
  ⟨"SONG", songId, key, value, "USER_DECLARED", none, 1, "CREATIVE", []⟩

/-- `record_note`. -/
def recordNote (noteUuid claimUuid : Uuid) (songId referenceId noted : String) :
    ReferenceCall ReferenceNote := do
  let reference ← .ask (getReference profile songId referenceId)
  let noted ← .fromExcept (text (.str noted) "text" 4000)
  let noteId := newId "note" noteUuid
  let claim ← record profile claimUuid
    (eventClaim reference.songId (eventKey noteKeyPrefix reference.referenceId noteId)
      (noteJson noteId reference.referenceId reference.referenceClaimId noted))
  .ask (decodeNote profile claim)

/-- `record_decision`. -/
def recordDecision (decisionUuid claimUuid : Uuid) (songId referenceId decision reason : String) :
    ReferenceCall ReferenceDecision := do
  let reference ← .ask (getReference profile songId referenceId)
  let decision ← .fromExcept (enum DecisionKind.ofName (.str decision) "decision")
  let reason ← .fromExcept (text (.str reason) "reason" 4000)
  let decisionId := newId "decision" decisionUuid
  let claim ← record profile claimUuid
    (eventClaim reference.songId (eventKey decisionKeyPrefix reference.referenceId decisionId)
      (decisionJson decisionId reference.referenceId reference.referenceClaimId decision reason))
  .ask (decodeDecision profile claim)

/-- A call. -/
inductive ReferenceOperation where
  | createReference (referenceUuid claimUuid : Uuid) (songId : String) (input : ReferenceInput)
  | reviseReference (claimUuid : Uuid) (songId referenceId : String) (input : ReferenceInput)
  | recordNote (noteUuid claimUuid : Uuid) (songId referenceId noted : String)
  | recordDecision (decisionUuid claimUuid : Uuid) (songId referenceId decision reason : String)

/-- What a call returns. -/
inductive ReferenceAnswer where
  | reference (reference : SongReference profile)
  | note (note : ReferenceNote)
  | decision (decision : ReferenceDecision)

def referenceProgram : ReferenceOperation → ReferenceCall (ReferenceAnswer profile)
  | .createReference referenceUuid claimUuid songId input =>
    .reference <$> createReference profile referenceUuid claimUuid songId input
  | .reviseReference claimUuid songId referenceId input =>
    .reference <$> reviseReference profile claimUuid songId referenceId input
  | .recordNote noteUuid claimUuid songId referenceId noted =>
    .note <$> recordNote profile noteUuid claimUuid songId referenceId noted
  | .recordDecision decisionUuid claimUuid songId referenceId decision reason =>
    .decision <$> recordDecision profile decisionUuid claimUuid songId referenceId decision reason

end

end N0te.References
