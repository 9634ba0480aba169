import N0te.References.ReferenceCalls

/-!
# Song references over whole runs

In every run the rows of the store are read back as what was accepted, and go on to be (`ReadBack`,
`KeepsReadings`). `get_reference` finds the current revision before the transaction that supersedes it or
binds to it. In the runs where no other call commits a revision of the reference meanwhile, and a created
reference has a new id, the revisions of every reference are one chain (`ReferencesInOrder`), and what is
recorded is bound to the current revision (`BindsCurrent`). In `forkedEvents` two calls revise one
revision, and the reference cannot be read any more.
-/

set_option autoImplicit false
set_option relaxedAutoImplicit false

namespace N0te.References

open Library Lineage People Evidence

/-! ### Reading back -/

section

variable (profile : Profile)

/-- A claim is read back as what it was written from. -/
inductive ReadBack (db : EvidenceDb) (claim : EvidenceClaim) : Prop
  /-- A revision, with the identity of its key. -/
  | revision (songId referenceId : String) (definition : ReferenceDefinition profile songId)
    (source : ReferenceSource)
    (hwritten : claim = referenceRow claim.id referenceId definition source)
    (hread : decodeReference profile db claim =
      .ok (referenceOf db claim.id referenceId definition source))
  /-- A note, with its revision. -/
  | note (note : ReferenceNote) (revision : SongReference profile) (hactive : db.Active claim.id)
    (hread : decodeNote profile claim db = .ok note)
    (hrevision : referenceRevision profile note.songId (.str note.referenceClaimId) db = .ok revision)
    (hsame : revision.referenceId = note.referenceId)
  /-- A decision, with its revision. -/
  | decision (decision : ReferenceDecision) (revision : SongReference profile)
    (hactive : db.Active claim.id) (hread : decodeDecision profile claim db = .ok decision)
    (hrevision : referenceRevision profile decision.songId (.str decision.referenceClaimId) db =
      .ok revision)
    (hsame : revision.referenceId = decision.referenceId)

/-- What was read of a store is read of another. -/
structure KeepsReadings (db after : EvidenceDb) : Prop where
  claims : ∀ claim ∈ db.claims, claim ∈ after.claims
  /-- The revisions. -/
  references : ∀ claim ∈ db.claims, decodeReference profile after claim = decodeReference profile db claim
  /-- The revisions by their ids. -/
  revisions : ∀ songId claimId reference, referenceRevision profile songId claimId db = .ok reference →
    referenceRevision profile songId claimId after = .ok reference
  notes : ∀ claim ∈ db.claims, ∀ note, decodeNote profile claim db = .ok note →
    decodeNote profile claim after = .ok note
  decisions : ∀ claim ∈ db.claims, ∀ decision, decodeDecision profile claim db = .ok decision →
    decodeDecision profile claim after = .ok decision

variable {profile} {db after : EvidenceDb}

theorem keepsReadings_of_grows (h : Grows db after) : KeepsReadings profile db after where
  claims _ := h.mem
  references _ := decodeReference_grows h
  revisions _ _ _ := referenceRevision_grows h
  notes _ hclaim _ := decodeNote_grows h hclaim
  decisions _ hclaim _ := decodeDecision_grows h hclaim

theorem ReferenceRows.readBack (h : ReferenceRows profile db) {claim : EvidenceClaim}
    (hclaim : claim ∈ db.claims) : ReadBack profile db claim := by
  cases h.written claim hclaim with
  | reference hsong claimId uuid definition source =>
    exact .revision _ _ definition source rfl (decodeReference_row db claimId uuid definition source)
  | note hsong hrow claimId noteUuid noted =>
    exact .note _ _ (h.active_event hclaim (not_isReferenceKey_eventKey (.inl rfl) _ _))
      (decodeNote_row h.evidence hsong hrow claimId noteUuid noted)
      (referenceRevision_row h.evidence hsong hrow) rfl
  | decision hsong hrow claimId decisionUuid decision reason =>
    exact .decision _ _ (h.active_event hclaim (not_isReferenceKey_eventKey (.inr rfl) _ _))
      (decodeDecision_row h.evidence hsong hrow claimId decisionUuid decision reason)
      (referenceRevision_row h.evidence hsong hrow) rfl

end

/-! ### Chains of revisions -/

section

variable (profile : Profile)

/-- The revisions of every reference are one chain, and every reference can be read. -/
structure ReferencesInOrder (db : EvidenceDb) : Prop where
  /-- Each revision supersedes the one before it and no other. -/
  chained : ∀ songId referenceId, Chained db (referencePlace songId referenceId)
  /-- The last revision of a reference is active and no other is, and `get_reference` returns it. -/
  current : ∀ songId referenceId, db.revisionsOf (referencePlace songId referenceId) ≠ [] →
    ∃ claim reference,
      (db.revisionsOf (referencePlace songId referenceId)).getLast? = some claim ∧
      ((db.revisionsOf (referencePlace songId referenceId)).filter fun other ↦ db.Active other.id) =
        [claim] ∧
      getReference profile songId referenceId db = .ok reference ∧ reference.referenceClaimId = claim.id
  /-- `get_reference` finds no conflict. -/
  readable : ∀ songId referenceId message,
    getReference profile songId referenceId db ≠ .error (referenceIntegrity message)
  /-- The references of a song are listed. -/
  listed : ∀ given songId, song profile given = .ok songId →
    ∃ references, referencesForSong profile given db = .ok references
  /-- `references_for_song` finds no conflict. -/
  listable : ∀ songId message,
    referencesForSong profile songId db ≠ .error (referenceIntegrity message)

/-- A new note or decision is bound to an active revision. -/
structure BindsCurrent (db after : EvidenceDb) : Prop where
  notes : ∀ claim ∈ after.claims, claim ∉ db.claims → ∀ note,
    decodeNote profile claim after = .ok note → db.Active note.referenceClaimId
  decisions : ∀ claim ∈ after.claims, claim ∉ db.claims → ∀ decision,
    decodeDecision profile claim after = .ok decision → db.Active decision.referenceClaimId

/-- The rows of a store, where the revisions of a reference are a chain. -/
structure LinearRows (db : EvidenceDb) : Prop where
  rows : ReferenceRows profile db
  chained : ∀ songId referenceId, Chained db (referencePlace songId referenceId)

variable {profile} {db after : EvidenceDb} {songId referenceId : String}

theorem linearRows_empty : LinearRows profile .empty := ⟨referenceRows_empty, fun _ _ ↦ chained_empty⟩

/-- The key of a reference is one that `active_claims` takes. -/
theorem referencePlace_key (songId : String) (uuid : Uuid) :
    strip (referencePlace songId (newId "ref" uuid)).key =
      (referencePlace songId (newId "ref" uuid)).key ∧
    (referencePlace songId (newId "ref" uuid)).key ≠ "" := by
  simp only [referencePlace]
  refine ⟨(unspaced_referenceKey uuid).strip_eq, fun hempty ↦ ?_⟩
  have hreference := isReferenceKey_referenceKey (newId "ref" uuid)
  rw [hempty] at hreference
  exact absurd hreference (by decide)

theorem inProfile_of_song (h : song profile songId = .ok songId) :
    InProfile profile .song songId := by
  have hstrip := (song_spec h).1
  simp only [song, bind_eq_ok, require_eq_ok, Except.ok.injEq] at h
  obtain ⟨id, -, -, hfound, hid⟩ := h
  rw [InProfile, ← hstrip]
  rwa [hid] at hfound

theorem LinearRows.activeClaims (h : LinearRows profile db) (hsong : song profile songId = .ok songId)
    (uuid : Uuid) : activeClaims profile .song songId (referenceKey (newId "ref" uuid)) db =
      .ok (db.revisionsOf (referencePlace songId (newId "ref" uuid))).getLast?.toList := by
  obtain ⟨hstrip, hne⟩ := referencePlace_key songId uuid
  have hactive := (h.chained songId (newId "ref" uuid)).activeClaims h.rows.evidence hstrip hne
    (inProfile_of_song hsong)
  simp only [referencePlace] at hactive ⊢
  exact hactive

theorem LinearRows.active_last (h : LinearRows profile db) {claim : EvidenceClaim}
    (hlast : (db.revisionsOf (referencePlace songId referenceId)).getLast? = some claim) :
    db.Active claim.id := by
  have hfilter := (h.chained songId referenceId).filter_active h.rows.evidence
  have hmem : claim ∈ (db.revisionsOf (referencePlace songId referenceId)).filter
      fun other ↦ db.Active other.id := by
    rw [hfilter, hlast]
    exact List.mem_singleton_self claim
  exact of_decide_eq_true (List.mem_filter.mp hmem).2

/-- `get_reference` of a reference that has revisions. -/
theorem LinearRows.getReference_eq (h : LinearRows profile db)
    (hne : db.revisionsOf (referencePlace songId referenceId) ≠ []) : ∃ claim reference,
      (db.revisionsOf (referencePlace songId referenceId)).getLast? = some claim ∧
      getReference profile songId referenceId db = .ok reference ∧
      reference.referenceClaimId = claim.id := by
  obtain ⟨claim, hlast⟩ : ∃ claim,
      (db.revisionsOf (referencePlace songId referenceId)).getLast? = some claim :=
    ⟨_, List.getLast?_eq_some_getLast hne⟩
  obtain ⟨hmem, hplace⟩ := mem_revisionsOf.mp (List.mem_of_getLast? hlast)
  obtain ⟨uuid, definition, source, rfl, hsong, hrow⟩ := h.rows.row_of_place hmem hplace
  have hdecoded := decodeReference_row db claim.id uuid definition source
  rw [← hrow] at hdecoded
  have hactive := h.activeClaims hsong uuid
  rw [hlast] at hactive
  refine ⟨claim, referenceOf db claim.id (newId "ref" uuid) definition source, hlast, ?_, rfl⟩
  simp only [getReference, bind_eq_ok, mapError_eq_ok]
  exact ⟨songId, hsong, _, refId_newId uuid, _, hactive, hdecoded⟩

/-! ### Exceptions of the readers -/

theorem song_error {given : String} {e : ReferenceRaised} (h : song profile given = .error e)
    (message : String) : e ≠ referenceIntegrity message := by
  rintro rfl
  rcases bind_eq_error.mp h with htext | ⟨_, -, h⟩
  · rcases checkText_eq_error htext with hsame | hsame | hsame <;> cases hsame
  · rcases bind_eq_error.mp h with hmissing | ⟨_, -, h⟩
    · cases require_eq_error hmissing
    · cases h

theorem refId_error {given : String} {e : ReferenceRaised} (h : refId given = .error e)
    (message : String) : e ≠ referenceIntegrity message := by
  rintro rfl
  rcases bind_eq_error.mp h with htext | ⟨_, -, h⟩
  · rcases checkText_eq_error htext with hsame | hsame | hsame <;> cases hsame
  · rcases bind_eq_error.mp h with hform | ⟨_, -, h⟩
    · cases require_eq_error hform
    · cases h

/-- `get_reference` finds no conflict. -/
theorem LinearRows.readable (h : LinearRows profile db) (given message : String) :
    getReference profile given referenceId db ≠ .error (referenceIntegrity message) := by
  intro herror
  rcases bind_eq_error.mp herror with hsong | ⟨song, hsong, herror⟩
  · exact song_error hsong message rfl
  rcases bind_eq_error.mp herror with hid | ⟨id, hid, herror⟩
  · exact refId_error hid message rfl
  obtain ⟨-, uuid, rfl⟩ := refId_spec hid
  have hactive := h.activeClaims (song_spec hsong).2 uuid
  rw [hactive] at herror
  rcases hlast : (db.revisionsOf (referencePlace song (newId "ref" uuid))).getLast? with _ | claim
  · rw [hlast] at herror
    cases herror
  · rw [hlast] at herror
    obtain ⟨hmem, hplace⟩ := mem_revisionsOf.mp (List.mem_of_getLast? hlast)
    obtain ⟨other, definition, source, -, -, hrow⟩ := h.rows.row_of_place hmem hplace
    have hdecoded := decodeReference_row db claim.id other definition source
    rw [← hrow] at hdecoded
    cases (show decodeReference profile db claim = _ from herror).symm.trans hdecoded

/-- The active claims of a song at keys of references. -/
def groupedClaims (db : EvidenceDb) (songId : String) : List EvidenceClaim :=
  (db.claims.filter fun claim ↦ claim.scopeKind = .song ∧ claim.scopeId = songId ∧
    db.Active claim.id).filter fun claim ↦ (afterPrefix referenceKeyPrefix claim.key).isSome

/-- Those at one key are the active revisions of a reference. -/
theorem filter_groupedClaims (db : EvidenceDb) (songId referenceId : String) :
    ((groupedClaims db songId).filter fun claim ↦ claim.key = referenceKey referenceId) =
      (db.revisionsOf (referencePlace songId referenceId)).filter fun claim ↦ db.Active claim.id := by
  rw [groupedClaims, EvidenceDb.revisionsOf, historyOf, List.filter_filter, List.filter_filter,
    List.filter_filter]
  refine List.filter_congr fun claim _ ↦ ?_
  have hreference := isReferenceKey_referenceKey referenceId
  rw [IsReferenceKey] at hreference
  have hplace : claim.place = referencePlace songId referenceId ↔
      claim.scopeKind = .song ∧ claim.scopeId = songId ∧ claim.key = referenceKey referenceId :=
    EvidenceClaim.place_eq
  rw [Bool.eq_iff_iff]
  simp only [Bool.and_eq_true, decide_eq_true_eq, hplace]
  constructor
  · rintro ⟨⟨hkey, -⟩, hkind, hscope, hactive⟩
    exact ⟨hactive, hkind, hscope, hkey⟩
  · rintro ⟨hactive, hkind, hscope, hkey⟩
    exact ⟨⟨hkey, hkey.symm ▸ hreference⟩, hkind, hscope, hactive⟩

/-- The current revision of each key is read. -/
theorem LinearRows.exists_currentOf (h : LinearRows profile db) {key : String}
    (hkey : key ∈ (groupedClaims db songId).map EvidenceClaim.key) :
    ∃ reference, currentOf profile db (groupedClaims db songId) key = .ok reference := by
  obtain ⟨member, hmember, rfl⟩ := List.mem_map.mp hkey
  obtain ⟨referenceId, hreference⟩ := Option.isSome_iff_exists.mp (List.mem_filter.mp hmember).2
  have hkeyed : member.key = referenceKey referenceId := afterPrefix_eq_some hreference
  have hfilter := filter_groupedClaims db songId referenceId
  rw [(h.chained songId referenceId).filter_active h.rows.evidence] at hfilter
  have hnonempty : member ∈ (groupedClaims db songId).filter
      fun claim ↦ claim.key = referenceKey referenceId :=
    List.mem_filter.mpr ⟨hmember, decide_eq_true hkeyed⟩
  rw [hfilter, Option.mem_toList] at hnonempty
  obtain ⟨hmem, hplace⟩ := mem_revisionsOf.mp (List.mem_of_getLast? hnonempty)
  obtain ⟨uuid, definition, source, -, -, hrow⟩ := h.rows.row_of_place hmem hplace
  have hdecoded := decodeReference_row db member.id uuid definition source
  rw [← hrow] at hdecoded
  rw [hnonempty, Option.toList_some] at hfilter
  refine ⟨referenceOf db member.id (newId "ref" uuid) definition source, ?_⟩
  rw [currentOf, hkeyed, hfilter]
  exact hdecoded

/-- `references_for_song` lists the references of a song. -/
theorem LinearRows.listed (h : LinearRows profile db) {given : String}
    (hsong : song profile given = .ok songId) :
    ∃ references, referencesForSong profile given db = .ok references := by
  have hscope : (validateScope profile validation .song songId).mapError ofLineage = .ok ⟨⟩ := by
    rw [mapError_eq_ok, validateScope, require_eq_ok]
    exact inProfile_of_song (song_spec hsong).2
  obtain ⟨items, hitems⟩ := exists_checkItems fun key hkey ↦
    h.exists_currentOf (mem_of_mem_keepFirst hkey)
  simp only [referencesForSong, activeClaimsForSong, bind_eq_ok, Except.ok.injEq]
  exact ⟨_, songId, hsong, _, ⟨⟨⟩, hscope, rfl⟩, items, hitems, rfl⟩

theorem LinearRows.inOrder (h : LinearRows profile db) : ReferencesInOrder profile db where
  chained := h.chained
  current songId referenceId hne := by
    obtain ⟨claim, reference, hlast, hread, hid⟩ := h.getReference_eq hne
    refine ⟨claim, reference, hlast, ?_, hread, hid⟩
    rw [(h.chained songId referenceId).filter_active h.rows.evidence, hlast, Option.toList_some]
  readable := fun given _ message ↦ h.readable given message
  listed := fun _ _ hsong ↦ h.listed hsong
  listable := by
    intro given message herror
    rcases hsong : song profile given with e | songId
    · rw [referencesForSong, hsong] at herror
      cases herror
      exact song_error hsong message rfl
    · obtain ⟨references, hlisted⟩ := h.listed hsong
      cases hlisted.symm.trans herror

end

/-! ### Calls that are not disturbed -/

def ReferenceOperation.place : ReferenceOperation → Place
  | .createReference referenceUuid _ songId _ => referencePlace (strip songId) (newId "ref" referenceUuid)
  | .reviseReference _ songId referenceId _ => referencePlace (strip songId) (strip referenceId)
  | .recordNote _ _ songId referenceId _ => referencePlace (strip songId) (strip referenceId)
  | .recordDecision _ _ songId referenceId _ _ => referencePlace (strip songId) (strip referenceId)

/-- The revisions of the reference of a call stay what they are. -/
def KeepsRevisions (operation : ReferenceOperation) (db after : EvidenceDb) : Prop :=
  after.revisionsOf operation.place = db.revisionsOf operation.place

/-- A reference is created with an id that no other has. -/
def StartsFresh (operation : ReferenceOperation) (db : EvidenceDb) : Prop :=
  match operation with
  | .createReference _ _ _ _ => db.revisionsOf operation.place = []
  | _ => True

instance (operation : ReferenceOperation) (db : EvidenceDb) : Decidable (StartsFresh operation db) := by
  cases operation <;> unfold StartsFresh <;> infer_instance

section

variable {profile : Profile} {db after : EvidenceDb} {row : EvidenceClaim} {oldIds : List String}
  {operation : ReferenceOperation}

/-- The revision that `get_reference` finds is the last. -/
theorem Current.getLast? (h : LinearRows profile db) {given referenceId songId claimId : String}
    {uuid : Uuid} {definition : ReferenceDefinition profile songId} {source : ReferenceSource}
    (hcurrent : Current db given referenceId songId uuid claimId definition source) :
    (db.revisionsOf (referencePlace songId (newId "ref" uuid))).getLast? =
      some (referenceRow claimId (newId "ref" uuid) definition source) := by
  have hactive := h.activeClaims (song_spec hcurrent.song).2 uuid
  have hlists := Except.ok.inj (hcurrent.active.symm.trans hactive)
  rcases hlast : (db.revisionsOf (referencePlace songId (newId "ref" uuid))).getLast? with _ | claim
  · rw [hlast] at hlists
    cases hlists
  · rw [hlast] at hlists
    rw [List.head_eq_of_cons_eq hlists]

theorem Current.place_eq {given referenceId songId claimId : String} {uuid : Uuid}
    {definition : ReferenceDefinition profile songId} {source : ReferenceSource}
    (hcurrent : Current db given referenceId songId uuid claimId definition source) :
    referencePlace (strip given) (strip referenceId) = referencePlace songId (newId "ref" uuid) := by
  rw [hcurrent.id, (song_spec hcurrent.song).1]

/-- A commit of a row that supersedes the last revision of its place. -/
theorem LinearRows.commit (h : LinearRows profile db) (hnormal : NormalClaim profile row)
    (hcommitted : ClaimCommitted row oldIds db after) (hwritten : Written profile db row)
    (hold : oldIds ≠ [] → IsReferenceKey row.key)
    (hlast : IsReferenceKey row.key → oldIds = (db.revisionIds row.place).getLast?.toList) :
    LinearRows profile after where
  rows := h.rows.commit hnormal hcommitted hwritten hold
  chained songId referenceId := by
    by_cases hplace : row.place = referencePlace songId referenceId
    · have hkey : IsReferenceKey row.key := by
        rw [(EvidenceClaim.place_eq.mp hplace).2.2]
        exact isReferenceKey_referenceKey referenceId
      have hchained := h.chained songId referenceId
      rw [← hplace] at hchained ⊢
      exact hchained.commit h.rows.evidence hcommitted (hlast hkey)
    · exact (h.chained songId referenceId).commit_of_ne hcommitted hplace

/-- What a call prepared supersedes the last revision, when the revisions are those that it read. -/
theorem Prepared.old_eq (h : Prepared profile db row oldIds operation) (hlinear : LinearRows profile db)
    (hfresh : StartsFresh operation db) (hkept : KeepsRevisions operation db after)
    (hkey : IsReferenceKey row.key) : oldIds = (after.revisionIds row.place).getLast?.toList := by
  cases operation with
  | createReference referenceUuid claimUuid given input =>
    obtain ⟨songId, definition, source, hsong, -, rfl, rfl⟩ := h
    have hplace : (referenceRow (newId "claim" claimUuid) (newId "ref" referenceUuid) definition
        source).place = referencePlace (strip given) (newId "ref" referenceUuid) := by
      rw [← (song_spec hsong).1]
      rfl
    have hnone : after.revisionsOf (referencePlace (strip given) (newId "ref" referenceUuid)) = [] :=
      Eq.trans hkept hfresh
    rw [hplace, EvidenceDb.revisionIds, hnone]
    rfl
  | reviseReference claimUuid given referenceId input =>
    obtain ⟨songId, uuid, revisionId, current, definition, currentSource, source, hcurrent, rfl, rfl⟩ := h
    have hlast := hcurrent.getLast? hlinear
    have hsame : after.revisionsOf (referencePlace songId (newId "ref" uuid)) =
        db.revisionsOf (referencePlace songId (newId "ref" uuid)) := by
      rw [← hcurrent.place_eq]
      exact hkept
    show [revisionId] = (after.revisionIds (referencePlace songId (newId "ref" uuid))).getLast?.toList
    rw [EvidenceDb.revisionIds, hsame, List.getLast?_map, hlast]
    rfl
  | recordNote noteUuid claimUuid given referenceId noted =>
    obtain ⟨songId, uuid, revisionId, current, currentSource, noted, hcurrent, rfl, -⟩ := h
    exact absurd hkey (not_isReferenceKey_eventKey (.inl rfl) _ _)
  | recordDecision decisionUuid claimUuid given referenceId decision reason =>
    obtain ⟨songId, uuid, revisionId, current, currentSource, decision, reason, hcurrent, rfl, -⟩ := h
    exact absurd hkey (not_isReferenceKey_eventKey (.inr rfl) _ _)

/-- The revision that was read is still active, when the revisions are those that were read. -/
theorem Current.active_of_kept (hlinear : LinearRows profile db) (hafter : LinearRows profile after)
    {given referenceId songId claimId : String} {uuid : Uuid}
    {definition : ReferenceDefinition profile songId} {source : ReferenceSource}
    (hcurrent : Current db given referenceId songId uuid claimId definition source)
    (hkept : after.revisionsOf (referencePlace (strip given) (strip referenceId)) =
      db.revisionsOf (referencePlace (strip given) (strip referenceId))) : after.Active claimId := by
  have hlast := hcurrent.getLast? hlinear
  rw [← hcurrent.place_eq, ← hkept] at hlast
  exact hafter.active_last hlast

theorem decodeNote_eq_ok {claim : EvidenceClaim} {note : ReferenceNote}
    (h : decodeNote profile claim db = .ok note) : claim.twinDomain = .creative ∧
      ∃ id, eventId "note" (claim.value.get "note_id") = .ok id := by
  simp only [decodeNote, eventValue, asReferenceIntegrity_eq_ok, bind_eq_ok, require_eq_ok] at h
  obtain ⟨-, ⟨-, hprovenance, -, -, -, -, id, hid, -⟩, -⟩ := h
  exact ⟨hprovenance.2.2, id, hid⟩

theorem decodeDecision_eq_ok {claim : EvidenceClaim} {decision : ReferenceDecision}
    (h : decodeDecision profile claim db = .ok decision) : claim.twinDomain = .creative ∧
      ∃ id, eventId "decision" (claim.value.get "decision_id") = .ok id := by
  simp only [decodeDecision, eventValue, asReferenceIntegrity_eq_ok, bind_eq_ok, require_eq_ok] at h
  obtain ⟨-, ⟨-, hprovenance, -, -, -, -, id, hid, -⟩, -⟩ := h
  exact ⟨hprovenance.2.2, id, hid⟩

/-- A revision is neither a note nor a decision. -/
theorem bindsCurrent_of_reference {songId claimId referenceId : String}
    {definition : ReferenceDefinition profile songId} {source : ReferenceSource}
    (hnew : ∀ claim ∈ after.claims, claim ∉ db.claims →
      claim = referenceRow claimId referenceId definition source) : BindsCurrent profile db after where
  notes claim hclaim hfresh note hread := by
    have htwin := (decodeNote_eq_ok hread).1
    rw [hnew claim hclaim hfresh] at htwin
    cases htwin
  decisions claim hclaim hfresh decision hread := by
    have htwin := (decodeDecision_eq_ok hread).1
    rw [hnew claim hclaim hfresh] at htwin
    cases htwin

/-- What a call prepared is bound to a revision that is active, when the revisions are those that it
read. -/
theorem Prepared.binds {last : EvidenceDb} (h : Prepared profile db row oldIds operation)
    (hlinear : LinearRows profile db) (hkept : KeepsRevisions operation db after)
    (hgrows : Grows db after) (hafter : LinearRows profile after)
    (hcommitted : ClaimCommitted row oldIds after last) (hlast : ReferenceRows profile last) :
    BindsCurrent profile after last := by
  have hnew : ∀ claim ∈ last.claims, claim ∉ after.claims → claim = row := by
    intro claim hclaim hfresh
    rw [hcommitted.claims] at hclaim
    exact List.mem_singleton.mp ((List.mem_append.mp hclaim).resolve_left hfresh)
  cases operation with
  | createReference referenceUuid claimUuid given input =>
    obtain ⟨songId, definition, source, -, -, rfl, -⟩ := h
    exact bindsCurrent_of_reference hnew
  | reviseReference claimUuid given referenceId input =>
    obtain ⟨songId, uuid, revisionId, current, definition, currentSource, source, -, rfl, -⟩ := h
    exact bindsCurrent_of_reference hnew
  | recordNote noteUuid claimUuid given referenceId noted =>
    obtain ⟨songId, uuid, revisionId, current, currentSource, noted, hcurrent, rfl, -⟩ := h
    have hrow := hcommitted.grows.mem (hgrows.mem hcurrent.row)
    have hdecoded := decodeNote_row hlast.evidence (song_spec hcurrent.song).2 hrow
      (newId "claim" claimUuid) noteUuid noted
    constructor
    · intro claim hclaim hfresh note hread
      rw [hnew claim hclaim hfresh] at hread
      cases hdecoded.symm.trans hread
      exact hcurrent.active_of_kept hlinear hafter hkept
    · intro claim hclaim hfresh decision hread
      obtain ⟨-, id, hid⟩ := decodeDecision_eq_ok hread
      have hmissing : (noteRow (newId "claim" claimUuid) songId (newId "note" noteUuid)
          (newId "ref" uuid) revisionId noted).value.get "decision_id" = .null :=
        Json.get_canonical_stored "decision_id" rfl rfl
      rw [hnew claim hclaim hfresh, hmissing] at hid
      cases hid
  | recordDecision decisionUuid claimUuid given referenceId decision reason =>
    obtain ⟨songId, uuid, revisionId, current, currentSource, decision, reason, hcurrent, rfl, -⟩ := h
    have hrow := hcommitted.grows.mem (hgrows.mem hcurrent.row)
    have hdecoded := decodeDecision_row hlast.evidence (song_spec hcurrent.song).2 hrow
      (newId "claim" claimUuid) decisionUuid decision reason
    constructor
    · intro claim hclaim hfresh note hread
      obtain ⟨-, id, hid⟩ := decodeNote_eq_ok hread
      have hmissing : (decisionRow (newId "claim" claimUuid) songId (newId "decision" decisionUuid)
          (newId "ref" uuid) revisionId decision reason).value.get "note_id" = .null :=
        Json.get_canonical_stored "note_id" rfl rfl
      rw [hnew claim hclaim hfresh, hmissing] at hid
      cases hid
    · intro claim hclaim hfresh answer hread
      rw [hnew claim hclaim hfresh] at hread
      cases hdecoded.symm.trans hread
      exact hcurrent.active_of_kept hlinear hafter hkept

end

/-! ### Runs -/

/-- Connections to a store, and their calls. -/
abbrev ReferenceWorld (profile : Profile) : Type :=
  Labelled ReferenceOperation EvidenceDb ReferenceRaised (ReferenceAnswer profile)

/-- Something that happens to them. -/
abbrev ReferenceOccurrence : Type := SharedEvent ReferenceOperation ReferenceRaised

def newWorld (profile : Profile) : ReferenceWorld profile := ⟨⟨.empty, []⟩, []⟩

section

variable (profile : Profile)

/-- What happens next. -/
def stepReferences : ReferenceWorld profile → ReferenceOccurrence → Option (ReferenceWorld profile) :=
  stepLabelled (referenceProgram profile)

/-- What was read is read after what happens next. -/
def GoesOnReading (w : ReferenceWorld profile) (event : ReferenceOccurrence) : Prop :=
  ∀ w', stepReferences profile w event = some w' → KeepsReadings profile w.shared.store w'.shared.store

/-- What is committed next is bound to an active revision. -/
def CommitsBinding (w : ReferenceWorld profile) (event : ReferenceOccurrence) : Prop :=
  ∀ w', stepReferences profile w event = some w' → BindsCurrent profile w.shared.store w'.shared.store

/-- While a call on a reference has not committed, no other commits a revision of the reference, and a
reference is created with an id that no other has. -/
def ReferencesUndisturbed (w : ReferenceWorld profile) (event : ReferenceOccurrence) : Prop :=
  Undisturbed KeepsRevisions KeepsRevisions (referenceProgram profile) w event ∧
    StartsAs StartsFresh w event

variable {profile}

/-- A call whatever the others commit. -/
theorem rows_referenceProgram (operation : ReferenceOperation) {s : EvidenceDb}
    (hs : ReferenceRows profile s) :
    KeepsUnder (ReferenceRows profile) Grows (fun _ _ ↦ True) (fun _ _ ↦ True)
      (fun _ result t ↦ ∀ answer, result = .ok answer → Answered profile t operation answer) false
      (referenceProgram profile operation) s := by
  refine keepsUnder_referenceProgram (fun _ h ↦ h) (fun _ _ h ↦ h) hs ?_
  intro db t u row oldIds _ _ hprepared ht hrows hnormal hcommitted
  have hgrown : Grows db t := grows_of_commits (fun _ _ h ↦ h) (commits_of_allowed ht)
  exact ⟨hcommitted.grows, hrows.commit hnormal hcommitted (hprepared.written.mono hgrown)
    hprepared.isReferenceKey⟩

/-- A call that is not disturbed. -/
theorem linear_referenceProgram (operation : ReferenceOperation) {s : EvidenceDb}
    (hs : LinearRows profile s) (hfresh : StartsFresh operation s) :
    KeepsUnder (LinearRows profile) (fun db after ↦ Grows db after ∧ BindsCurrent profile db after)
      (KeepsRevisions operation) (KeepsRevisions operation) (fun _ _ _ ↦ True) false
      (referenceProgram profile operation) s := by
  have hcommits : ∀ db after : EvidenceDb, Grows db after ∧ BindsCurrent profile db after →
      Grows db after := fun _ _ h ↦ h.1
  refine (keepsUnder_referenceProgram (fun _ h ↦ h.rows) hcommits hs ?_).mono fun _ _ _ _ ↦ trivial
  intro db t u row oldIds hdb hlinear hprepared ht hafter hnormal hcommitted
  have hkeeps : ∀ {a b : EvidenceDb}, Relation.ReflTransGen (Allowed
      (fun db after ↦ Grows db after ∧ BindsCurrent profile db after) (KeepsRevisions operation) false)
      a b → KeepsRevisions operation a b := fun {a b} h ↦
    kept_of_allowed (KeepsRevisions operation a) (fun _ _ hnext hc ↦ Eq.trans hnext hc) h rfl
  have hstarted : StartsFresh operation db := by
    cases operation with
    | createReference referenceUuid claimUuid given input => exact Eq.trans (hkeeps hdb) hfresh
    | reviseReference claimUuid given referenceId input => trivial
    | recordNote noteUuid claimUuid given referenceId noted => trivial
    | recordDecision decisionUuid claimUuid given referenceId decision reason => trivial
  have hgrown : Grows db t := grows_of_commits hcommits (commits_of_allowed ht)
  have hlast : LinearRows profile u := hafter.commit hnormal hcommitted
    (hprepared.written.mono hgrown) hprepared.isReferenceKey
    (hprepared.old_eq hlinear hstarted (hkeeps ht))
  exact ⟨⟨hcommitted.grows,
    hprepared.binds hlinear (hkeeps ht) hgrown hafter hcommitted hlast.rows⟩, hlast⟩

end

/-- In every run of calls on a new store, whatever their interleaving, every claim is read back as what it
was written from, every call has answered what can be read, and what was read goes on to be read. In every
such run that disturbs no call, the revisions of every reference are one chain, every reference can be read
and every note and decision is bound to the revision that was active when it was committed. -/
theorem song_references {profile : Profile} {events : List ReferenceOccurrence}
    {w : ReferenceWorld profile}
    (hrun : runEvents (stepReferences profile) (newWorld profile) events = some w) :
    (∀ claim ∈ w.shared.store.claims, ReadBack profile w.shared.store claim) ∧
    (∀ (j : ℕ) operation answer, w.operations[j]? = some operation → w.returned j = some answer →
      Answered profile w.shared.store operation answer) ∧
    EveryStep (stepReferences profile) (GoesOnReading profile) (newWorld profile) events ∧
    (EveryStep (stepReferences profile) (ReferencesUndisturbed profile) (newWorld profile) events →
      ReferencesInOrder profile w.shared.store ∧
      EveryStep (stepReferences profile) (CommitsBinding profile) (newWorld profile) events) := by
  have hfree := everyStep_undisturbed (referenceProgram profile) (newWorld profile) events
  have hrows : (newWorld profile).KeptUnder (fun _ _ _ ↦ True) (fun _ _ _ ↦ True)
      (ReferenceRows profile) Grows (fun operation _ result t ↦ ∀ answer, result = .ok answer →
        Answered profile t operation answer) := keptUnder_new referenceRows_empty
  have hprogram := fun operation (s : EvidenceDb) (hs : ReferenceRows profile s) ↦
    rows_referenceProgram operation hs
  obtain ⟨-, hkept⟩ := keptUnder_of_run hprogram hrows hfree hrun
  refine ⟨fun claim hclaim ↦ hkept.store.readBack hclaim, ?_, ?_, fun hundisturbed ↦ ⟨?_, ?_⟩⟩
  · intro j operation answer hoperation hreturned
    obtain ⟨s, committed, hreached, hanswered⟩ := hkept.returned hoperation hreturned
    exact (hanswered answer rfl).mono (grows_of_commits (fun _ _ h ↦ h) hreached)
  · refine (everyStep_commits hprogram hrows hfree).mono fun w event hcommits w' hstep ↦ ?_
    rcases (Relation.reflGen_iff _ _ _).mp (hcommits w' hstep) with hsame | hgrown
    · rw [hsame]
      exact keepsReadings_of_grows (.refl _)
    · exact keepsReadings_of_grows hgrown
  · exact (keptUnder_of_run_of_starts (fun operation s hs ↦ linear_referenceProgram operation hs)
      (keptUnder_new linearRows_empty) hundisturbed hrun).2.store.inOrder
  · refine (everyStep_commits_of_starts (fun operation s hs ↦ linear_referenceProgram operation hs)
      (keptUnder_new linearRows_empty) hundisturbed).mono fun w event hcommits w' hstep ↦ ?_
    rcases (Relation.reflGen_iff _ _ _).mp (hcommits w' hstep) with hsame | hbound
    · rw [hsame]
      exact ⟨fun _ hclaim hfresh ↦ absurd hclaim hfresh, fun _ hclaim hfresh ↦ absurd hclaim hfresh⟩
    · exact hbound.2

/-! ### Two runs -/

def sampleProfile : Profile where
  profileId := newId "prf" (uuidEnding 0)
  primaryArtistId := newId "art" (uuidEnding 1)
  songs := [⟨newId "song" (uuidEnding 2), newId "art" (uuidEnding 1), "song", none, none⟩]
  people := []
  versions := []
  songs_created := Profile.ofSong.songs_created
  people_created := Profile.ofSong.people_created
  versions_created := Profile.ofSong.versions_created
  version_ids := List.nodup_nil

def sampleSong : String := newId "song" (uuidEnding 2)

def sampleReference : String := newId "ref" (uuidEnding 3)

def sampleInput : ReferenceInput :=
  ⟨"first", "OTHER", "shelf", ["low end"], "UNSPECIFIED", none, none, "USER_DECLARED", none, 1⟩

def createdEvents : List ReferenceOccurrence :=
  .start (.createReference (uuidEnding 3) (uuidEnding 4) sampleSong sampleInput) ::
    List.replicate 4 (.advance 0)

def sampleRevision (claimUuid : Uuid) : ReferenceOperation :=
  .reviseReference claimUuid sampleSong sampleReference sampleInput

/-- The reference is revised, then a note is made. -/
def linearEvents : List ReferenceOccurrence :=
  createdEvents ++ .start (sampleRevision (uuidEnding 5)) :: List.replicate 6 (.advance 1) ++
    .start (.recordNote (uuidEnding 6) (uuidEnding 7) sampleSong sampleReference "close") ::
      List.replicate 5 (.advance 2)

/-- Two calls check that the first revision is active, and both supersede it. -/
def forkedEvents : List ReferenceOccurrence :=
  createdEvents ++ [.start (sampleRevision (uuidEnding 5)), .start (sampleRevision (uuidEnding 6))] ++
    List.replicate 3 (.advance 1) ++ List.replicate 4 (.advance 2) ++ [.advance 1]

/-- A result is an exception with a message. -/
def raisesIntegrity {α : Type} (message : String) : ReferenceChecked α → Bool
  | .error e => decide (e = referenceIntegrity message)
  | .ok _ => false

theorem eq_error_of_raisesIntegrity {α : Type} {message : String} {result : ReferenceChecked α}
    (h : raisesIntegrity message result = true) : result = .error (referenceIntegrity message) := by
  cases result with
  | error e => exact congrArg Except.error (of_decide_eq_true h)
  | ok a => cases h

/-- The message of `get_reference` about a conflict. -/
def conflictMessage : String := "Song reference has conflicting active revisions"

/-- Two calls revise one revision: the reference has two active revisions, and can neither be read nor
be listed. -/
theorem forked_reference : ∃ w,
    runEvents (stepReferences sampleProfile) (newWorld sampleProfile) forkedEvents = some w ∧
    ((w.shared.store.revisionsOf (referencePlace sampleSong sampleReference)).filter
      fun claim ↦ w.shared.store.Active claim.id).length = 2 ∧
    getReference sampleProfile sampleSong sampleReference w.shared.store =
      .error (referenceIntegrity conflictMessage) ∧
    referencesForSong sampleProfile sampleSong w.shared.store = .error
      (referenceIntegrity s!"{conflictMessage}: {referenceKey sampleReference}") := by
  have hruns : (runEvents (stepReferences sampleProfile) (newWorld sampleProfile) forkedEvents).map
      (fun w ↦ decide (((w.shared.store.revisionsOf (referencePlace sampleSong sampleReference)).filter
        fun claim ↦ w.shared.store.Active claim.id).length = 2) &&
        raisesIntegrity conflictMessage
          (getReference sampleProfile sampleSong sampleReference w.shared.store) &&
        raisesIntegrity (conflictMessage ++ ": " ++ referenceKey sampleReference)
          (referencesForSong sampleProfile sampleSong w.shared.store)) = some true := by
    decide +kernel
  obtain ⟨w, hrun, hstate⟩ := Option.map_eq_some_iff.mp hruns
  rw [Bool.and_eq_true, Bool.and_eq_true] at hstate
  exact ⟨w, hrun, of_decide_eq_true hstate.1.1, eq_error_of_raisesIntegrity hstate.1.2,
    eq_error_of_raisesIntegrity hstate.2⟩

/-- Calls are started as they may be started. -/
def startsFresh (w : ReferenceWorld sampleProfile) : ReferenceOccurrence → Bool
  | .start operation => decide (StartsFresh operation w.shared.store)
  | _ => true

theorem undisturbed_of_checks {w : ReferenceWorld sampleProfile} {event : ReferenceOccurrence}
    (h : (soloStep w event && startsFresh w event) = true) :
    ReferencesUndisturbed sampleProfile w event := by
  rw [Bool.and_eq_true] at h
  refine ⟨undisturbed_of_solo h.1, ?_⟩
  rintro operation rfl
  exact of_decide_eq_true h.2

/-- In the run where the calls are made one after another the note is bound to the second revision. -/
theorem sample_references : ∃ w,
    runEvents (stepReferences sampleProfile) (newWorld sampleProfile) linearEvents = some w ∧
    w.shared.store.claims.length = 3 ∧
    (∀ claim ∈ w.shared.store.claims, ReadBack sampleProfile w.shared.store claim) ∧
    ReferencesInOrder sampleProfile w.shared.store ∧
    EveryStep (stepReferences sampleProfile) (CommitsBinding sampleProfile) (newWorld sampleProfile)
      linearEvents := by
  have hruns : (runChecked (stepReferences sampleProfile)
      (fun w event ↦ soloStep w event && startsFresh w event) (newWorld sampleProfile)
      linearEvents).map (fun w ↦ decide (w.shared.store.claims.length = 3)) = some true := by
    decide +kernel
  obtain ⟨w, hchecked, hstate⟩ := Option.map_eq_some_iff.mp hruns
  obtain ⟨hrun, hsteps⟩ := run_of_runChecked hchecked
  obtain ⟨hread, -, -, hlinear⟩ := song_references hrun
  have hundisturbed := hsteps.mono fun _ _ ↦ undisturbed_of_checks
  obtain ⟨horder, hbinds⟩ := hlinear hundisturbed
  exact ⟨w, hrun, of_decide_eq_true hstate, hread, horder, hbinds⟩

end N0te.References
