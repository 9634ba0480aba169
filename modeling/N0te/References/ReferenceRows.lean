import N0te.References.SongReferences

/-!
# What references leave in the store

The calls write rows of three forms: `referenceRow`, `noteRow` and `decisionRow`. A row of a revision is
read back as the definition that it was written from (`decodeReference_row`), and a row of a note or a
decision as bound to its revision (`decodeNote_row`, `decodeDecision_row`). `ReferenceRows` says of a store
that it holds such rows only, and every commit of a call keeps it.
-/

set_option autoImplicit false
set_option relaxedAutoImplicit false

namespace N0te.References

open Library Lineage People Evidence

/-! ### Ids and keys -/

theorem newId_eq_append (kind : String) (uuid : Uuid) :
    newId kind uuid = (kind ++ "_") ++ String.ofList uuid.hex := by
  rw [← String.toList_inj]
  simp [newId]

theorem isIdOf_newId (kind : String) (uuid : Uuid) : isIdOf kind (newId kind uuid) = true := by
  rw [isIdOf, newId_eq_append, afterPrefix_append]
  simp [uuid.length, uuid.digits]

/-- An id of a kind was made. -/
theorem exists_newId_of_isIdOf {kind id : String} (h : isIdOf kind id = true) :
    ∃ uuid, id = newId kind uuid := by
  unfold isIdOf at h
  split at h
  · rename_i digits hdigits
    rw [Bool.and_eq_true, beq_iff_eq] at h
    refine ⟨⟨digits.toList, h.1, h.2⟩, ?_⟩
    rw [newId_eq_append, String.ofList_toList]
    exact afterPrefix_eq_some hdigits
  · cases h

theorem afterPrefix_newId (kind : String) (uuid : Uuid) :
    (afterPrefix (kind ++ "_") (newId kind uuid)).isSome = true := by
  rw [newId_eq_append, afterPrefix_append]
  rfl

/-- A text has no whitespace. -/
def Unspaced (s : String) : Prop := ∀ c ∈ s.toList, isSpace c = false

theorem Unspaced.append {s t : String} (hs : Unspaced s) (ht : Unspaced t) : Unspaced (s ++ t) := by
  intro c hc
  rw [String.toList_append] at hc
  exact (List.mem_append.mp hc).elim (hs c) (ht c)

theorem Unspaced.strip_eq {s : String} (h : Unspaced s) : strip s = s :=
  strip_eq_self (List.all_eq_true.mpr fun c hc ↦ by rw [h c hc]; rfl)

theorem unspaced_of_all {s : String} (h : (s.toList.all fun c ↦ !isSpace c) = true) : Unspaced s :=
  fun c hc ↦ by simpa using List.all_eq_true.mp h c hc

theorem unspaced_newId {kind : String} (hkind : IsKind kind) (uuid : Uuid) :
    Unspaced (newId kind uuid) :=
  Created.no_space ⟨uuid, rfl⟩ hkind

theorem isKind_ref : IsKind "ref" := by decide

theorem isKind_claim : IsKind "claim" := by decide

/-- An id that was made is short. -/
theorem length_newId_le {kind : String} (hkind : IsKind kind) (uuid : Uuid) :
    (newId kind uuid).toList.length ≤ 96 := by
  rw [newId, String.toList_ofList, List.length_append, List.length_cons, uuid.length]
  have := hkind.2
  omega

/-- An id that was made, as a text. -/
def idText {kind : String} (hkind : IsKind kind) (uuid : Uuid) : BoundedText 96 where
  text :=
    { val := newId kind uuid
      stripped := (unspaced_newId hkind uuid).strip_eq
      nonempty := fun hempty ↦ by
        have hlength := congrArg (fun s ↦ s.toList.length) hempty
        simp [newId] at hlength }
  bounded := length_newId_le hkind uuid

theorem text_newId {kind : String} (hkind : IsKind kind) (uuid : Uuid) (field : String) :
    text (.str (newId kind uuid)) field 96 = .ok (idText hkind uuid) :=
  text_json field (idText hkind uuid)

theorem refId_newId (uuid : Uuid) : refId (newId "ref" uuid) = .ok (newId "ref" uuid) := by
  simp only [refId, text_newId isKind_ref, bind_eq_ok, require_eq_ok]
  exact ⟨_, rfl, ⟨⟩, isIdOf_newId "ref" uuid, rfl⟩

theorem unspaced_referenceKey (uuid : Uuid) : Unspaced (referenceKey (newId "ref" uuid)) :=
  (unspaced_of_all (by decide)).append (unspaced_newId isKind_ref uuid)

theorem unspaced_eventKey {start kind : String} (hstart : Unspaced start) (hkind : IsKind kind)
    (uuid eventUuid : Uuid) : Unspaced (eventKey start (newId "ref" uuid) (newId kind eventUuid)) :=
  ((hstart.append (unspaced_newId isKind_ref uuid)).append (unspaced_of_all (by decide))).append
    (unspaced_newId hkind eventUuid)

/-! ### Rows -/

section

variable {profile : Profile} {songId : String}

/-- The row of a revision. -/
def referenceRow (claimId referenceId : String) (definition : ReferenceDefinition profile songId)
    (source : ReferenceSource) : EvidenceClaim :=
  ⟨claimId, .song, songId, referenceKey referenceId, (definition.json referenceId).canonical,
    source.kind.kind, source.ref.map BoundedText.val, source.confidence, .unspecified⟩

/-- The row of a note or a decision. -/
def eventRow (claimId songId key : String) (value : Json) : EvidenceClaim :=
  ⟨claimId, .song, songId, key, value.canonical, .userDeclared, none, 1, .creative⟩

def noteRow (claimId songId noteId referenceId referenceClaimId : String) (noted : BoundedText 4000) :
    EvidenceClaim :=
  eventRow claimId songId (eventKey noteKeyPrefix referenceId noteId)
    (noteJson noteId referenceId referenceClaimId noted)

def decisionRow (claimId songId decisionId referenceId referenceClaimId : String)
    (decision : DecisionKind) (reason : BoundedText 4000) : EvidenceClaim :=
  eventRow claimId songId (eventKey decisionKeyPrefix referenceId decisionId)
    (decisionJson decisionId referenceId referenceClaimId decision reason)

theorem normalizeTwinDomain_name (domain : TwinDomain) : normalizeTwinDomain domain.name = .ok domain := by
  rw [normalizeTwinDomain, orRaise_eq_ok]
  exact domain.ofName_name

/-- `record_claim` writes the row of a revision. -/
theorem normalizeClaim_referenceClaim {claimId : String} {uuid : Uuid}
    {definition : ReferenceDefinition profile songId} {source : ReferenceSource}
    {supersedes : List String} {row : EvidenceClaim}
    (h : normalizeClaim profile claimId
      (referenceClaim (newId "ref" uuid) definition source supersedes) = .ok row) :
    row = referenceRow claimId (newId "ref" uuid) definition source := by
  have hkey : strip (referenceKey (newId "ref" uuid)) = referenceKey (newId "ref" uuid) :=
    (unspaced_referenceKey uuid).strip_eq
  have hdomain : normalizeTwinDomain "UNSPECIFIED" = .ok .unspecified :=
    normalizeTwinDomain_name .unspecified
  have hkind : ScopeKind.ofName (upper (strip "SONG")) = some .song := ScopeKind.song.ofName_name
  simp only [normalizeClaim, referenceClaim, hdomain, hkey, hkind, source.kind.kind.ofName_name,
    canonicalValue, bind_eq_ok, Except.ok.injEq, orRaise_eq_ok, Option.some.injEq] at h
  obtain ⟨_, rfl, _, -, _, rfl, _, -, _, rfl, _, -, _, ⟨_, -, rfl⟩, rfl⟩ := h
  rfl

/-- `record_claim` writes the row of a note or a decision. -/
theorem normalizeClaim_eventClaim {claimId key : String} {value : Json} {row : EvidenceClaim}
    (hkey : Unspaced key)
    (h : normalizeClaim profile claimId (eventClaim songId key value) = .ok row) :
    row = eventRow claimId songId key value := by
  have hdomain : normalizeTwinDomain "CREATIVE" = .ok .creative := normalizeTwinDomain_name .creative
  have hkind : ScopeKind.ofName (upper (strip "SONG")) = some .song := ScopeKind.song.ofName_name
  have hsource : Evidence.SourceKind.ofName (upper (strip "USER_DECLARED")) = some .userDeclared :=
    Evidence.SourceKind.userDeclared.ofName_name
  simp only [normalizeClaim, eventClaim, hdomain, hkey.strip_eq, hkind, hsource, canonicalValue,
    bind_eq_ok, Except.ok.injEq, orRaise_eq_ok, Option.some.injEq] at h
  obtain ⟨_, rfl, _, -, _, rfl, _, -, _, rfl, _, -, _, ⟨_, -, rfl⟩, rfl⟩ := h
  rfl

/-! ### Reading back -/

/-- What the row of a revision is read back as. -/
def referenceOf (db : EvidenceDb) (claimId referenceId : String)
    (definition : ReferenceDefinition profile songId) (source : ReferenceSource) :
    SongReference profile :=
  ⟨referenceId, claimId, db.sequenceOf claimId, songId, definition, source.kind,
    source.ref.map BoundedText.val, source.confidence⟩

/-- A revision is read back as the definition that it was written from. -/
theorem decodeReference_row (db : EvidenceDb) (claimId : String) (uuid : Uuid)
    (definition : ReferenceDefinition profile songId) (source : ReferenceSource) :
    decodeReference profile db (referenceRow claimId (newId "ref" uuid) definition source) =
      .ok (referenceOf db claimId (newId "ref" uuid) definition source) := by
  have hprovenance : source.kind ≠ .userDeclared →
      (source.ref.map BoundedText.val).isSome = true ∧ source.ref.map BoundedText.val ≠ some "" := by
    intro hkind
    obtain ⟨ref, href⟩ := Option.isSome_iff_exists.mp (source.provenance hkind)
    rw [href]
    exact ⟨rfl, fun hempty ↦ ref.text.nonempty (Option.some.inj hempty)⟩
  simp only [decodeReference, referenceRow, asReferenceIntegrity_eq_ok, bind_eq_ok, require_eq_ok,
    orRaise_eq_ok]
  exact ⟨⟨⟩, trivial, newId "ref" uuid, afterPrefix_append _ _, ⟨⟩, isIdOf_newId "ref" uuid, ⟨⟩, trivial,
    source.kind, source.kind.ofKind_kind, ⟨⟩, require_eq_ok.mpr hprovenance, definition,
    decodeDefinition_json definition _, _, ensure_of source.inRange, rfl⟩

theorem song_eq {found : Option Song} {id : BoundedText 96} (h : profile.getSong id.val = found)
    (hfound : found.isSome = true) : song profile id.val = .ok id.val := by
  have htext : text (.str id.val) "song_id" 96 = .ok id := text_json _ id
  simp only [song, htext, bind_eq_ok, require_eq_ok]
  exact ⟨id, rfl, ⟨⟩, h ▸ hfound, rfl⟩

theorem song_spec {given songId : String} (h : song profile given = .ok songId) :
    songId = strip given ∧ song profile songId = .ok songId := by
  simp only [song, text, checkText, bind_eq_ok, orRaise_eq_ok, require_eq_ok, Except.ok.injEq] at h
  obtain ⟨id, ⟨t, ht, hshort, -, rfl⟩, -, hfound, rfl⟩ := h
  exact ⟨(Text.ofString_eq_some.mp ht).1.symm, song_eq rfl hfound⟩

/-- A revision is found by the id of its claim. -/
theorem referenceRevision_row {db : EvidenceDb} (hevidence : EvidenceInvariant profile db)
    (hsong : song profile songId = .ok songId) {uuid : Uuid} {claimId : String}
    {definition : ReferenceDefinition profile songId} {source : ReferenceSource}
    (hrow : referenceRow claimId (newId "ref" uuid) definition source ∈ db.claims) :
    referenceRevision profile songId (.str claimId) db =
      .ok (referenceOf db claimId (newId "ref" uuid) definition source) := by
  obtain ⟨claimUuid, hclaim⟩ := (hevidence.claims _ hrow).1.created
  have hid : claimId = newId "claim" claimUuid := hclaim
  have htext : text (.str claimId) "claim_id" 96 = .ok (idText isKind_claim claimUuid) :=
    hid ▸ text_newId isKind_claim claimUuid "claim_id"
  have hfound : db.getClaim (idText isKind_claim claimUuid).val = some _ :=
    (congrArg db.getClaim hid.symm).trans (hevidence.getClaim hrow)
  simp only [referenceRevision, hsong, htext, bind_eq_ok, Except.ok.injEq, orRaise_eq_ok, require_eq_ok]
  refine ⟨_, rfl, _, rfl, _, hfound, ⟨⟩, ⟨rfl, rfl, ?_⟩, decodeReference_row db claimId uuid _ _⟩
  rw [referenceRow, referenceKey, afterPrefix_append]
  rfl

/-- The id of a note or a decision is read back. -/
theorem eventValue_row {claimId referenceId start kind : String} {eventUuid : Uuid}
    {fields : List (String × Json)} {keys : List String} (hkeys : fields.map Prod.fst = keys)
    (hversion : (Json.obj fields).get "schema_version" = .int 1)
    (hid : (Json.obj fields).get (kind ++ "_id") = .str (newId kind eventUuid))
    (hreference : (Json.obj fields).get "reference_id" = .str referenceId)
    (hkind : kind = "note" ∨ kind = "decision") :
    eventValue (eventRow claimId songId (eventKey start referenceId (newId kind eventUuid))
      (.obj fields)) keys kind start = .ok (newId kind eventUuid) := by
  have hform : (isIdOf "note" (newId kind eventUuid) || isIdOf "decision" (newId kind eventUuid)) =
      true := by
    rcases hkind with rfl | rfl
    · rw [isIdOf_newId, Bool.true_or]
    · rw [isIdOf_newId, Bool.or_true]
  have hevent : eventId kind (.str (newId kind eventUuid)) = .ok (newId kind eventUuid) := by
    simp only [eventId, bind_eq_ok, require_eq_ok]
    exact ⟨⟨⟩, ⟨hform, afterPrefix_newId kind eventUuid⟩, trivial⟩
  have hhas : (Json.obj fields).canonical.HasKeys keys :=
    hkeys ▸ Json.hasKeys_canonical.mpr (Json.hasKeys_obj fields)
  simp only [eventValue, eventRow, Json.get_canonical_stored _ hversion rfl,
    Json.get_canonical_stored _ hid rfl, Json.get_canonical_stored _ hreference rfl, hevent,
    bind_eq_ok, require_eq_ok]
  exact ⟨⟨⟩, ⟨trivial, trivial, trivial⟩, ⟨⟩, require_eq_ok.mpr hhas, ⟨⟩, Json.equalsInt_int 1, _, rfl,
    ⟨⟩, rfl, rfl⟩

section

variable {db : EvidenceDb} {uuid : Uuid} {revisionId : String}
  {definition : ReferenceDefinition profile songId} {source : ReferenceSource}
  (hevidence : EvidenceInvariant profile db) (hsong : song profile songId = .ok songId)
  (hrow : referenceRow revisionId (newId "ref" uuid) definition source ∈ db.claims)

include hevidence hsong hrow

/-- The revision of a note or a decision is read back. -/
theorem boundRevision_row {claimId key message : String} {fields : List (String × Json)}
    (hreference : (Json.obj fields).get "reference_id" = .str (newId "ref" uuid))
    (hclaim : (Json.obj fields).get "reference_claim_id" = .str revisionId) :
    boundRevision profile (eventRow claimId songId key (.obj fields)) message db =
      .ok (referenceOf db revisionId (newId "ref" uuid) definition source) := by
  have hrevision := referenceRevision_row hevidence hsong hrow
  simp only [boundRevision, eventRow, Json.get_canonical_stored _ hreference rfl,
    Json.get_canonical_stored _ hclaim rfl, hrevision, bind_eq_ok, require_eq_ok]
  exact ⟨_, rfl, ⟨⟩, rfl, rfl⟩

/-- A note is read back as bound to its revision. -/
theorem decodeNote_row (claimId : String) (noteUuid : Uuid) (noted : BoundedText 4000) :
    decodeNote profile (noteRow claimId songId (newId "note" noteUuid) (newId "ref" uuid) revisionId
      noted) db = .ok ⟨newId "note" noteUuid, claimId, db.sequenceOf claimId, songId,
        newId "ref" uuid, revisionId, noted⟩ := by
  have hvalue : eventValue (noteRow claimId songId (newId "note" noteUuid) (newId "ref" uuid) revisionId
      noted) noteKeys "note" noteKeyPrefix = .ok (newId "note" noteUuid) :=
    eventValue_row rfl rfl rfl rfl (.inl rfl)
  have hbound : boundRevision profile (noteRow claimId songId (newId "note" noteUuid)
      (newId "ref" uuid) revisionId noted) "reference note binding is invalid" db = .ok _ :=
    boundRevision_row hevidence hsong hrow rfl rfl
  have htext : (noteRow claimId songId (newId "note" noteUuid) (newId "ref" uuid) revisionId
      noted).value.get "text" = noted.json := Json.get_canonical_stored "text" rfl rfl
  simp only [decodeNote, asReferenceIntegrity_eq_ok, bind_eq_ok, hvalue, hbound, htext, text_json]
  exact ⟨_, rfl, _, rfl, _, rfl, rfl⟩

/-- A decision is read back as bound to its revision. -/
theorem decodeDecision_row (claimId : String) (decisionUuid : Uuid) (decision : DecisionKind)
    (reason : BoundedText 4000) :
    decodeDecision profile (decisionRow claimId songId (newId "decision" decisionUuid)
      (newId "ref" uuid) revisionId decision reason) db = .ok ⟨newId "decision" decisionUuid, claimId,
        db.sequenceOf claimId, songId, newId "ref" uuid, revisionId, decision, reason⟩ := by
  have hvalue : eventValue (decisionRow claimId songId (newId "decision" decisionUuid)
      (newId "ref" uuid) revisionId decision reason) decisionKeys "decision" decisionKeyPrefix =
        .ok (newId "decision" decisionUuid) := eventValue_row rfl rfl rfl rfl (.inr rfl)
  have hbound : boundRevision profile (decisionRow claimId songId (newId "decision" decisionUuid)
      (newId "ref" uuid) revisionId decision reason) "reference decision binding is invalid" db =
        .ok _ := boundRevision_row hevidence hsong hrow rfl rfl
  have hdecision : (decisionRow claimId songId (newId "decision" decisionUuid) (newId "ref" uuid)
      revisionId decision reason).value.get "decision" = .str decision.name :=
    Json.get_canonical_stored "decision" rfl rfl
  have hreason : (decisionRow claimId songId (newId "decision" decisionUuid) (newId "ref" uuid)
      revisionId decision reason).value.get "reason" = reason.json :=
    Json.get_canonical_stored "reason" rfl rfl
  simp only [decodeDecision, asReferenceIntegrity_eq_ok, bind_eq_ok, hvalue, hbound, hdecision, hreason,
    text_json, enum_decisionKind]
  exact ⟨_, rfl, _, rfl, _, rfl, _, rfl, rfl⟩

end

end

/-! ### Kinds of keys -/

def IsReferenceKey (key : String) : Prop := (afterPrefix referenceKeyPrefix key).isSome = true

instance (key : String) : Decidable (IsReferenceKey key) := inferInstanceAs (Decidable (_ = _))

theorem isReferenceKey_referenceKey (referenceId : String) : IsReferenceKey (referenceKey referenceId) := by
  rw [IsReferenceKey, referenceKey, afterPrefix_append]
  rfl

/-- A key that begins otherwise is none of a reference. -/
theorem not_isReferenceKey {start : String} (hlength : 15 ≤ start.toList.length)
    (hstart : ¬ referenceKeyPrefix.toList <+: start.toList) (rest : String) :
    ¬ IsReferenceKey (start ++ rest) := by
  unfold IsReferenceKey afterPrefix
  have hnot : ¬ referenceKeyPrefix.toList <+: (start ++ rest).toList := by
    rw [String.toList_append]
    intro hprefix
    exact hstart (List.prefix_of_prefix_length_le hprefix (List.prefix_append _ _) hlength)
  rw [if_neg hnot]
  exact Bool.false_ne_true

theorem not_isReferenceKey_eventKey {start : String} (hstart : start = noteKeyPrefix ∨
    start = decisionKeyPrefix) (referenceId id : String) :
    ¬ IsReferenceKey (eventKey start referenceId id) := by
  have hkey : eventKey start referenceId id = start ++ (referenceId ++ "." ++ id) := by
    rw [eventKey, String.append_assoc, String.append_assoc, String.append_assoc]
  rw [hkey]
  rcases hstart with rfl | rfl
  · exact not_isReferenceKey (by decide) (by decide) _
  · exact not_isReferenceKey (by decide) (by decide) _

/-! ### The rows of a store -/

section

variable (profile : Profile)

/-- A row as the calls write it. -/
inductive Written (db : EvidenceDb) : EvidenceClaim → Prop
  /-- A revision. -/
  | reference {songId : String} (hsong : song profile songId = .ok songId) (claimId : String)
    (uuid : Uuid) (definition : ReferenceDefinition profile songId) (source : ReferenceSource) :
    Written db (referenceRow claimId (newId "ref" uuid) definition source)
  /-- A note of a revision. -/
  | note {songId revisionId : String} (hsong : song profile songId = .ok songId) {uuid : Uuid}
    {definition : ReferenceDefinition profile songId} {source : ReferenceSource}
    (hrow : referenceRow revisionId (newId "ref" uuid) definition source ∈ db.claims)
    (claimId : String) (noteUuid : Uuid) (noted : BoundedText 4000) :
    Written db (noteRow claimId songId (newId "note" noteUuid) (newId "ref" uuid) revisionId noted)
  /-- A decision on a revision. -/
  | decision {songId revisionId : String} (hsong : song profile songId = .ok songId) {uuid : Uuid}
    {definition : ReferenceDefinition profile songId} {source : ReferenceSource}
    (hrow : referenceRow revisionId (newId "ref" uuid) definition source ∈ db.claims)
    (claimId : String) (decisionUuid : Uuid) (decision : DecisionKind) (reason : BoundedText 4000) :
    Written db (decisionRow claimId songId (newId "decision" decisionUuid) (newId "ref" uuid) revisionId
      decision reason)

/-- The rows of a store were written by the calls. -/
structure ReferenceRows (db : EvidenceDb) : Prop where
  evidence : EvidenceInvariant profile db
  /-- The rows. -/
  written : ∀ claim ∈ db.claims, Written profile db claim
  /-- Only revisions are superseded. -/
  superseded : ∀ edge ∈ db.supersessions, ∃ claim ∈ db.claims, claim.id = edge.oldClaimId ∧
    IsReferenceKey claim.key

variable {profile} {db after : EvidenceDb} {claim row : EvidenceClaim} {oldIds : List String}

theorem referenceRows_empty : ReferenceRows profile .empty :=
  ⟨evidenceInvariant_empty, List.forall_mem_nil _, List.forall_mem_nil _⟩

theorem Written.mono (hgrows : Grows db after) (h : Written profile db claim) :
    Written profile after claim := by
  cases h with
  | reference hsong claimId uuid definition source => exact .reference hsong _ _ _ _
  | note hsong hrow claimId noteUuid noted => exact .note hsong (hgrows.mem hrow) _ _ _
  | decision hsong hrow claimId decisionUuid decision reason =>
    exact .decision hsong (hgrows.mem hrow) _ _ _ _

/-- A claim at the key of a reference is a revision. -/
theorem Written.of_isReferenceKey (h : Written profile db claim) (hkey : IsReferenceKey claim.key) :
    ∃ (songId : String) (uuid : Uuid) (definition : ReferenceDefinition profile songId)
      (source : ReferenceSource), song profile songId = .ok songId ∧
        claim = referenceRow claim.id (newId "ref" uuid) definition source := by
  cases h with
  | reference hsong claimId uuid definition source => exact ⟨_, uuid, definition, source, hsong, rfl⟩
  | note hsong hrow claimId noteUuid noted =>
    exact absurd hkey (not_isReferenceKey_eventKey (.inl rfl) _ _)
  | decision hsong hrow claimId decisionUuid decision reason =>
    exact absurd hkey (not_isReferenceKey_eventKey (.inr rfl) _ _)

/-- A commit of a row that the calls write. -/
theorem ReferenceRows.commit (h : ReferenceRows profile db) (hnormal : NormalClaim profile row)
    (hcommitted : ClaimCommitted row oldIds db after) (hwritten : Written profile db row)
    (hold : oldIds ≠ [] → IsReferenceKey row.key) : ReferenceRows profile after where
  evidence := h.evidence.commit hnormal hcommitted
  written := by
    rw [hcommitted.claims]
    refine List.forall_mem_append.mpr ⟨fun claim hclaim ↦ ?_, List.forall_mem_singleton.mpr ?_⟩
    · exact (h.written claim hclaim).mono hcommitted.grows
    · exact hwritten.mono hcommitted.grows
  superseded := by
    rw [hcommitted.supersessions]
    refine List.forall_mem_append.mpr ⟨fun edge hedge ↦ ?_, fun edge hedge ↦ ?_⟩
    · obtain ⟨claim, hclaim, hid, hkey⟩ := h.superseded edge hedge
      exact ⟨claim, hcommitted.grows.mem hclaim, hid, hkey⟩
    · obtain ⟨oldId, holdId, rfl⟩ := List.mem_map.mp hedge
      obtain ⟨newer, hnewer, older, holder, hnewId, hid, -, -, hkey, -⟩ :=
        hcommitted.sameTarget oldId holdId
      have hrow : row ∈ after.claims := by
        rw [hcommitted.claims]
        exact List.mem_append_right _ (List.mem_singleton_self _)
      have hsame : newer = row :=
        (h.evidence.commit hnormal hcommitted).eq_of_id hnewer hrow hnewId
      refine ⟨older, holder, hid, ?_⟩
      rw [← hkey, hsame]
      exact hold (List.ne_nil_of_mem holdId)

/-- Notes and decisions are not superseded. -/
theorem ReferenceRows.active_event (h : ReferenceRows profile db) (hclaim : claim ∈ db.claims)
    (hkey : ¬ IsReferenceKey claim.key) : db.Active claim.id := by
  intro edge hedge hold
  obtain ⟨other, hother, hid, hreference⟩ := h.superseded edge hedge
  rw [h.evidence.eq_of_id hother hclaim (hid.trans hold)] at hreference
  exact hkey hreference

end

/-! ### What is read of a store that grows -/

section

variable {profile : Profile} {db after : EvidenceDb} {claim : EvidenceClaim}

/-- A revision is read back as before. -/
theorem decodeReference_grows (hgrows : Grows db after) (hclaim : claim ∈ db.claims) :
    decodeReference profile after claim = decodeReference profile db claim := by
  simp only [decodeReference, hgrows.sequenceOf hclaim]

theorem referenceOf_grows (hgrows : Grows db after) {songId claimId referenceId : String}
    {definition : ReferenceDefinition profile songId} {source : ReferenceSource}
    (hrow : referenceRow claimId referenceId definition source ∈ db.claims) :
    referenceOf after claimId referenceId definition source =
      referenceOf db claimId referenceId definition source := by
  have hsequence : after.sequenceOf claimId = db.sequenceOf claimId := hgrows.sequenceOf hrow
  rw [referenceOf, referenceOf, hsequence]

theorem referenceRevision_grows (hgrows : Grows db after) {songId : String} {claimId : Json}
    {reference : SongReference profile}
    (h : referenceRevision profile songId claimId db = .ok reference) :
    referenceRevision profile songId claimId after = .ok reference := by
  simp only [referenceRevision, bind_eq_ok, orRaise_eq_ok, require_eq_ok] at h ⊢
  obtain ⟨song, hsong, id, hid, found, hfound, _, hscope, hread⟩ := h
  have hmem := (mem_of_getClaim hfound).1
  exact ⟨song, hsong, id, hid, found, hgrows.getClaim hfound, ⟨⟩, hscope,
    (decodeReference_grows hgrows hmem).trans hread⟩

theorem boundRevision_grows (hgrows : Grows db after) {message : String}
    {reference : SongReference profile} (h : boundRevision profile claim message db = .ok reference) :
    boundRevision profile claim message after = .ok reference := by
  simp only [boundRevision, bind_eq_ok, require_eq_ok, Except.ok.injEq] at h ⊢
  obtain ⟨found, hfound, _, hsame, rfl⟩ := h
  exact ⟨found, referenceRevision_grows hgrows hfound, ⟨⟩, hsame, rfl⟩

/-- A note is read back as before. -/
theorem decodeNote_grows (hgrows : Grows db after) (hclaim : claim ∈ db.claims) {note : ReferenceNote}
    (h : decodeNote profile claim db = .ok note) : decodeNote profile claim after = .ok note := by
  simp only [decodeNote, asReferenceIntegrity_eq_ok, bind_eq_ok, Except.ok.injEq] at h ⊢
  obtain ⟨id, hid, reference, hbound, noted, hnoted, rfl⟩ := h
  rw [hgrows.sequenceOf hclaim]
  exact ⟨id, hid, reference, boundRevision_grows hgrows hbound, noted, hnoted, rfl⟩

/-- A decision is read back as before. -/
theorem decodeDecision_grows (hgrows : Grows db after) (hclaim : claim ∈ db.claims)
    {decision : ReferenceDecision} (h : decodeDecision profile claim db = .ok decision) :
    decodeDecision profile claim after = .ok decision := by
  simp only [decodeDecision, asReferenceIntegrity_eq_ok, bind_eq_ok, Except.ok.injEq] at h ⊢
  obtain ⟨id, hid, reference, hbound, kind, hkind, reason, hreason, rfl⟩ := h
  rw [hgrows.sequenceOf hclaim]
  exact ⟨id, hid, reference, boundRevision_grows hgrows hbound, kind, hkind, reason, hreason, rfl⟩

end

end N0te.References
