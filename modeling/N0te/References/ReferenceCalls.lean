import N0te.References.ReferenceRows

/-!
# What the calls on references commit

`get_reference` reads the one active claim of a reference (`getReference_spec`), which a revision
supersedes and a note or a decision is bound to. `Prepared` says what the transaction of a call commits when
it read a store, and `Answered` what it returns. `keepsUnder_referenceProgram` gives both for every call,
whatever the others commit meanwhile.
-/

set_option autoImplicit false
set_option relaxedAutoImplicit false

namespace N0te.References

open Library Lineage People Evidence

/-! ### What a reader sees -/

section

variable {profile : Profile} {db : EvidenceDb}

theorem referenceKey_injective {a b : String} (h : referenceKey a = referenceKey b) : a = b := by
  have hafter := congrArg (afterPrefix referenceKeyPrefix) h
  rw [referenceKey, referenceKey, afterPrefix_append, afterPrefix_append] at hafter
  exact Option.some.inj hafter

def referencePlace (songId referenceId : String) : Place := ⟨.song, songId, referenceKey referenceId⟩

theorem refId_spec {given referenceId : String} (h : refId given = .ok referenceId) :
    referenceId = strip given ∧ ∃ uuid, referenceId = newId "ref" uuid := by
  simp only [refId, text, checkText, bind_eq_ok, orRaise_eq_ok, require_eq_ok, Except.ok.injEq] at h
  obtain ⟨id, ⟨t, ht, hshort, _, rfl⟩, _, hform, rfl⟩ := h
  exact ⟨(Text.ofString_eq_some.mp ht).1.symm, exists_newId_of_isIdOf hform⟩

/-- The active claims of a place. -/
theorem mem_of_activeClaims {songId key : String} {claims : List EvidenceClaim}
    (h : activeClaims profile .song songId key db = .ok claims) {claim : EvidenceClaim}
    (hclaim : claim ∈ claims) : claim ∈ db.claims ∧ claim.scopeId = songId ∧ claim.key = strip key := by
  simp only [activeClaims, bind_eq_ok, Except.ok.injEq] at h
  obtain ⟨_, -, _, -, rfl⟩ := h
  rw [List.mem_filter, decide_eq_true_eq] at hclaim
  exact ⟨hclaim.1, hclaim.2.2.1, hclaim.2.2.2.2⟩

/-- A revision at the place of a reference. -/
theorem ReferenceRows.row_of_place (h : ReferenceRows profile db) {songId referenceId : String}
    {claim : EvidenceClaim} (hclaim : claim ∈ db.claims)
    (hplace : claim.place = referencePlace songId referenceId) :
    ∃ (uuid : Uuid) (definition : ReferenceDefinition profile songId) (source : ReferenceSource),
      referenceId = newId "ref" uuid ∧ song profile songId = .ok songId ∧
        claim = referenceRow claim.id (newId "ref" uuid) definition source := by
  obtain ⟨-, hscope, hkey⟩ := EvidenceClaim.place_eq.mp hplace
  have hreference : IsReferenceKey claim.key := hkey ▸ isReferenceKey_referenceKey referenceId
  obtain ⟨other, uuid, definition, source, hsong, hrow⟩ :=
    (h.written claim hclaim).of_isReferenceKey hreference
  have hother : other = songId := (congrArg EvidenceClaim.scopeId hrow).symm.trans hscope
  subst hother
  have hid : referenceKey (newId "ref" uuid) = referenceKey referenceId :=
    (congrArg EvidenceClaim.key hrow).symm.trans hkey
  exact ⟨uuid, definition, source, (referenceKey_injective hid).symm, hsong, hrow⟩

/-- The revision that `get_reference` finds. -/
structure Current (db : EvidenceDb) (given referenceId songId : String) (uuid : Uuid)
    (claimId : String) (definition : ReferenceDefinition profile songId) (source : ReferenceSource) :
    Prop where
  /-- The song exists. -/
  song : References.song profile given = .ok songId
  id : strip referenceId = newId "ref" uuid
  /-- No other revision is active. -/
  active : activeClaims profile .song songId (referenceKey (newId "ref" uuid)) db =
    .ok [referenceRow claimId (newId "ref" uuid) definition source]
  /-- It is in the store. -/
  row : referenceRow claimId (newId "ref" uuid) definition source ∈ db.claims

/-- What `get_reference` returns is read from the one active claim of the reference. -/
theorem getReference_spec (h : ReferenceRows profile db) {given referenceId : String}
    {reference : SongReference profile}
    (hok : getReference profile given referenceId db = .ok reference) :
    ∃ (songId : String) (uuid : Uuid) (claimId : String)
      (definition : ReferenceDefinition profile songId) (source : ReferenceSource),
      Current db given referenceId songId uuid claimId definition source ∧
        reference = referenceOf db claimId (newId "ref" uuid) definition source := by
  simp only [getReference, bind_eq_ok, mapError_eq_ok] at hok
  obtain ⟨songId, hsong, id, hid, claims, hclaims, hread⟩ := hok
  obtain ⟨rfl, uuid, hnew⟩ := refId_spec hid
  rw [hnew] at hclaims
  obtain ⟨claim, rfl⟩ : ∃ claim, claims = [claim] := by
    rcases claims with _ | ⟨claim, _ | ⟨other, rest⟩⟩
    · cases hread
    · exact ⟨claim, rfl⟩
    · cases hread
  obtain ⟨hmem, hscope, hkey⟩ := mem_of_activeClaims hclaims (List.mem_singleton_self claim)
  rw [(unspaced_referenceKey uuid).strip_eq] at hkey
  have hreference : IsReferenceKey claim.key := hkey ▸ isReferenceKey_referenceKey _
  obtain ⟨other, otherUuid, definition, source, hother, hrow⟩ :=
    (h.written claim hmem).of_isReferenceKey hreference
  have hsame : other = songId := (congrArg EvidenceClaim.scopeId hrow).symm.trans hscope
  subst hsame
  have hids : newId "ref" otherUuid = newId "ref" uuid :=
    referenceKey_injective ((congrArg EvidenceClaim.key hrow).symm.trans hkey)
  rw [hids] at hrow
  refine ⟨other, uuid, claim.id, definition, source, ⟨hsong, hnew, ?_, ?_⟩, ?_⟩
  · rw [← hrow]
    exact hclaims
  · rw [← hrow]
    exact hmem
  · have hdecoded := decodeReference_row db claim.id uuid definition source
    rw [← hrow] at hdecoded
    exact Except.ok.inj (hread.symm.trans hdecoded)

end

/-! ### What the calls promise -/

section

variable {profile : Profile} {invariant : EvidenceDb → Prop}
  {commits rely : EvidenceDb → EvidenceDb → Prop}
  (hrows : ∀ s, invariant s → ReferenceRows profile s) (hgrows : ∀ s t, commits s t → Grows s t)

include hrows hgrows

/-- A row is recorded and what follows is done with it. -/
theorem keepsUnder_record {α : Type} {post : Bool → ReferenceChecked α → EvidenceDb → Prop}
    {s : EvidenceDb} {uuid : Uuid} {input : ClaimInput} {row : EvidenceClaim}
    {k : EvidenceClaim → ReferenceCall α} (hraised : ∀ c e t, post c (.error e) t)
    (hrow : ∀ other, normalizeClaim profile (newId "claim" uuid) input = .ok other → other = row)
    (hcommit : ∀ t u, Relation.ReflTransGen (Allowed commits rely false) s t → invariant t →
      NormalClaim profile row → ClaimCommitted row input.supersedes.eraseDups t u →
      commits t u ∧ invariant u)
    (hk : ∀ t, invariant t → Grows s t → row ∈ t.claims →
      KeepsUnder invariant commits rely rely post true (k row) t) :
    KeepsUnder invariant commits rely rely post false (record profile uuid input >>= k) s := by
  refine keepsUnder_bind (KeepsUnder.mapError (fun c e t ↦ hraised c e t) ?_)
  refine keepsUnder_recordRevision (fun c e t ↦ hraised c _ t) fun other t u hother ht hinvariant hu ↦ ?_
  obtain rfl := hrow other hother
  have hcommitted := commitClaim_plainHost hu
  obtain ⟨hfirst, hkept⟩ :=
    hcommit t u ht hinvariant (normalizeClaim_spec hother) hcommitted
  refine ⟨hfirst, hkept, fun r v hreached hlast hr ↦ ?_⟩
  have hmem : other ∈ v.claims := (grows_of_commits hgrows hreached).mem (by
    rw [hcommitted.claims]
    exact List.mem_append_right _ (List.mem_singleton_self _))
  have hread : (plainHost.evidence v).getClaim other.id = some other :=
    (hrows v hlast).evidence.getClaim hmem
  have hgrown : Grows s v := (grows_of_commits hgrows (commits_of_allowed ht)).trans
    ((hgrows _ _ hfirst).trans (grows_of_commits hgrows hreached))
  rw [hr, hread]
  exact hk v hlast hgrown hmem

/-- The end of `create_reference` and `revise_reference`. -/
theorem keepsUnder_recordReference {post : Bool → ReferenceChecked (SongReference profile) →
    EvidenceDb → Prop} {s : EvidenceDb} {claimUuid uuid : Uuid} {songId : String}
    {input : ReferenceInput} {supersedes : List String} (hraised : ∀ c e t, post c (.error e) t)
    (hcommit : ∀ definition source t u, References.definition profile songId input = .ok definition →
      References.source input = .ok source →
      Relation.ReflTransGen (Allowed commits rely false) s t → invariant t →
      NormalClaim profile (referenceRow (newId "claim" claimUuid) (newId "ref" uuid) definition source) →
      ClaimCommitted (referenceRow (newId "claim" claimUuid) (newId "ref" uuid) definition source)
        supersedes.eraseDups t u → commits t u ∧ invariant u)
    (hpost : ∀ definition source t, References.definition profile songId input = .ok definition →
      References.source input = .ok source →
      referenceRow (newId "claim" claimUuid) (newId "ref" uuid) definition source ∈ t.claims →
      post true (.ok (referenceOf t (newId "claim" claimUuid) (newId "ref" uuid) definition source)) t) :
    KeepsUnder invariant commits rely rely post false (do
      let definition ← .fromExcept (definition profile songId input)
      let source ← .fromExcept (source input)
      let claim ← record profile claimUuid
        (referenceClaim (newId "ref" uuid) definition source supersedes)
      .ask fun db ↦ decodeReference profile db claim) s := by
  refine keepsUnder_fromExcept (fun _ _ ↦ hraised _ _ _) fun definition hdefinition ↦ ?_
  refine keepsUnder_fromExcept (fun _ _ ↦ hraised _ _ _) fun source hsource ↦ ?_
  refine keepsUnder_record hrows hgrows hraised (fun _ ↦ normalizeClaim_referenceClaim)
    (fun t u ↦ hcommit definition source t u hdefinition hsource) fun t _ _ hmem ↦ ?_
  refine keepsUnder_asked fun u hreached _ ↦ ?_
  rw [decodeReference_row]
  exact hpost definition source u hdefinition hsource
    ((grows_of_commits hgrows (commits_of_allowed hreached)).mem hmem)

/-- The end of `record_note` and `record_decision`. -/
theorem keepsUnder_recordEvent {α : Type} {post : Bool → ReferenceChecked α → EvidenceDb → Prop}
    {s : EvidenceDb} {claimUuid : Uuid} {songId key : String} {value : Json}
    {decode : EvidenceClaim → EvidenceDb → ReferenceChecked α} {answer : EvidenceDb → α}
    (hkey : Unspaced key) (hraised : ∀ c e t, post c (.error e) t)
    (hcommit : ∀ t u, Relation.ReflTransGen (Allowed commits rely false) s t → invariant t →
      NormalClaim profile (eventRow (newId "claim" claimUuid) songId key value) →
      ClaimCommitted (eventRow (newId "claim" claimUuid) songId key value) [] t u →
      commits t u ∧ invariant u)
    (hdecode : ∀ t, invariant t → Grows s t →
      decode (eventRow (newId "claim" claimUuid) songId key value) t = .ok (answer t))
    (hpost : ∀ t, invariant t → Grows s t →
      eventRow (newId "claim" claimUuid) songId key value ∈ t.claims → post true (.ok (answer t)) t) :
    KeepsUnder invariant commits rely rely post false (do
      let claim ← record profile claimUuid (eventClaim songId key value)
      .ask (decode claim)) s := by
  refine keepsUnder_record hrows hgrows hraised (fun _ ↦ normalizeClaim_eventClaim hkey) hcommit
    fun t _ ht hmem ↦ ?_
  refine keepsUnder_asked fun u hreached hinvariant ↦ ?_
  have hgrown := grows_of_commits hgrows (commits_of_allowed hreached)
  rw [hdecode u hinvariant (ht.trans hgrown)]
  exact hpost u hinvariant (ht.trans hgrown) (hgrown.mem hmem)

end

/-! ### What a call commits and answers -/

section

variable (profile : Profile)

/-- What the transaction of a call commits, when it read the store `db` last. -/
def Prepared (db : EvidenceDb) (row : EvidenceClaim) (oldIds : List String) :
    ReferenceOperation → Prop
  | .createReference referenceUuid claimUuid given input =>
    ∃ (songId : String) (definition : ReferenceDefinition profile songId) (source : ReferenceSource),
      song profile given = .ok songId ∧ References.definition profile songId input = .ok definition ∧
      row = referenceRow (newId "claim" claimUuid) (newId "ref" referenceUuid) definition source ∧
      oldIds = []
  | .reviseReference claimUuid given referenceId _ =>
    ∃ (songId : String) (uuid : Uuid) (revisionId : String)
      (current definition : ReferenceDefinition profile songId) (currentSource source : ReferenceSource),
      Current db given referenceId songId uuid revisionId current currentSource ∧
      row = referenceRow (newId "claim" claimUuid) (newId "ref" uuid) definition source ∧
      oldIds = [revisionId]
  | .recordNote noteUuid claimUuid given referenceId _ =>
    ∃ (songId : String) (uuid : Uuid) (revisionId : String)
      (current : ReferenceDefinition profile songId) (currentSource : ReferenceSource)
      (noted : BoundedText 4000),
      Current db given referenceId songId uuid revisionId current currentSource ∧
      row = noteRow (newId "claim" claimUuid) songId (newId "note" noteUuid) (newId "ref" uuid)
        revisionId noted ∧ oldIds = []
  | .recordDecision decisionUuid claimUuid given referenceId _ _ =>
    ∃ (songId : String) (uuid : Uuid) (revisionId : String)
      (current : ReferenceDefinition profile songId) (currentSource : ReferenceSource)
      (decision : DecisionKind) (reason : BoundedText 4000),
      Current db given referenceId songId uuid revisionId current currentSource ∧
      row = decisionRow (newId "claim" claimUuid) songId (newId "decision" decisionUuid)
        (newId "ref" uuid) revisionId decision reason ∧ oldIds = []

/-- What a call returns is what it was asked to record, and can be read of the store. -/
def Answered (db : EvidenceDb) : ReferenceOperation → ReferenceAnswer profile → Prop
  | .createReference referenceUuid claimUuid given input, .reference reference =>
    ∃ (songId : String) (definition : ReferenceDefinition profile songId) (source : ReferenceSource),
      song profile given = .ok songId ∧ References.definition profile songId input = .ok definition ∧
      References.source input = .ok source ∧
      referenceRow (newId "claim" claimUuid) (newId "ref" referenceUuid) definition source ∈ db.claims ∧
      reference = referenceOf db (newId "claim" claimUuid) (newId "ref" referenceUuid) definition source
  | .reviseReference claimUuid given referenceId input, .reference reference =>
    ∃ (songId : String) (uuid : Uuid) (definition : ReferenceDefinition profile songId)
      (source : ReferenceSource), song profile given = .ok songId ∧
      strip referenceId = newId "ref" uuid ∧
      References.definition profile songId input = .ok definition ∧
      References.source input = .ok source ∧
      referenceRow (newId "claim" claimUuid) (newId "ref" uuid) definition source ∈ db.claims ∧
      reference = referenceOf db (newId "claim" claimUuid) (newId "ref" uuid) definition source
  | .recordNote noteUuid claimUuid given referenceId noted, .note note =>
    note.noteId = newId "note" noteUuid ∧ song profile given = .ok note.songId ∧
      note.referenceId = strip referenceId ∧ text (.str noted) "text" 4000 = .ok note.text ∧
      ∃ claim ∈ db.claims, claim.id = newId "claim" claimUuid ∧ decodeNote profile claim db = .ok note
  | .recordDecision decisionUuid claimUuid given referenceId decision reason, .decision answer =>
    answer.decisionId = newId "decision" decisionUuid ∧ song profile given = .ok answer.songId ∧
      answer.referenceId = strip referenceId ∧
      enum DecisionKind.ofName (.str decision) "decision" = .ok answer.decision ∧
      text (.str reason) "reason" 4000 = .ok answer.reason ∧
      ∃ claim ∈ db.claims, claim.id = newId "claim" claimUuid ∧
        decodeDecision profile claim db = .ok answer
  | _, _ => False

variable {profile} {db after : EvidenceDb} {operation : ReferenceOperation}

/-- What was answered goes on to be read. -/
theorem Answered.mono {answer : ReferenceAnswer profile} (hgrows : Grows db after)
    (h : Answered profile db operation answer) : Answered profile after operation answer := by
  cases operation <;> cases answer <;> try exact h
  · obtain ⟨songId, definition, source, hsong, hdefinition, hsource, hrow, rfl⟩ := h
    exact ⟨songId, definition, source, hsong, hdefinition, hsource, hgrows.mem hrow,
      (referenceOf_grows hgrows hrow).symm⟩
  · obtain ⟨songId, uuid, definition, source, hsong, hid, hdefinition, hsource, hrow, rfl⟩ := h
    exact ⟨songId, uuid, definition, source, hsong, hid, hdefinition, hsource, hgrows.mem hrow,
      (referenceOf_grows hgrows hrow).symm⟩
  · obtain ⟨hid, hsong, hreference, htext, claim, hclaim, hclaimId, hread⟩ := h
    exact ⟨hid, hsong, hreference, htext, claim, hgrows.mem hclaim, hclaimId,
      decodeNote_grows hgrows hclaim hread⟩
  · obtain ⟨hid, hsong, hreference, hdecision, hreason, claim, hclaim, hclaimId, hread⟩ := h
    exact ⟨hid, hsong, hreference, hdecision, hreason, claim, hgrows.mem hclaim, hclaimId,
      decodeDecision_grows hgrows hclaim hread⟩

variable {row : EvidenceClaim} {oldIds : List String}

/-- What a call commits has one of the forms. -/
theorem Prepared.written (h : Prepared profile db row oldIds operation) : Written profile db row := by
  cases operation with
  | createReference referenceUuid claimUuid given input =>
    obtain ⟨songId, definition, source, hsong, -, rfl, -⟩ := h
    exact .reference (song_spec hsong).2 _ _ _ _
  | reviseReference claimUuid given referenceId input =>
    obtain ⟨songId, uuid, revisionId, current, definition, currentSource, source, hcurrent, rfl, -⟩ := h
    exact .reference (song_spec hcurrent.song).2 _ _ _ _
  | recordNote noteUuid claimUuid given referenceId noted =>
    obtain ⟨songId, uuid, revisionId, current, currentSource, noted, hcurrent, rfl, -⟩ := h
    exact .note (song_spec hcurrent.song).2 hcurrent.row _ _ _
  | recordDecision decisionUuid claimUuid given referenceId decision reason =>
    obtain ⟨songId, uuid, revisionId, current, currentSource, decision, reason, hcurrent, rfl, -⟩ := h
    exact .decision (song_spec hcurrent.song).2 hcurrent.row _ _ _ _

/-- Only a revision supersedes something. -/
theorem Prepared.isReferenceKey (h : Prepared profile db row oldIds operation) (hold : oldIds ≠ []) :
    IsReferenceKey row.key := by
  cases operation with
  | createReference referenceUuid claimUuid given input =>
    obtain ⟨-, -, -, -, -, -, hnone⟩ := h
    exact absurd hnone hold
  | reviseReference claimUuid given referenceId input =>
    obtain ⟨songId, uuid, revisionId, current, definition, currentSource, source, hcurrent, rfl, -⟩ := h
    exact isReferenceKey_referenceKey _
  | recordNote noteUuid claimUuid given referenceId noted =>
    obtain ⟨-, -, -, -, -, -, -, -, hnone⟩ := h
    exact absurd hnone hold
  | recordDecision decisionUuid claimUuid given referenceId decision reason =>
    obtain ⟨-, -, -, -, -, -, -, -, -, hnone⟩ := h
    exact absurd hnone hold

end

section

variable {profile : Profile} {invariant : EvidenceDb → Prop}
  {commits rely : EvidenceDb → EvidenceDb → Prop} {operation : ReferenceOperation} {s : EvidenceDb}

/-- What a call promises. Assumes: `hcommit`, that what it prepared when it read the store last may be
committed after what the others commit meanwhile. -/
theorem keepsUnder_referenceProgram (hrows : ∀ s, invariant s → ReferenceRows profile s)
    (hgrows : ∀ s t, commits s t → Grows s t) (hs : invariant s)
    (hcommit : ∀ db t u row oldIds, Relation.ReflTransGen (Allowed commits rely false) s db →
      invariant db → Prepared profile db row oldIds operation →
      Relation.ReflTransGen (Allowed commits rely false) db t → invariant t →
      NormalClaim profile row → ClaimCommitted row oldIds t u → commits t u ∧ invariant u) :
    KeepsUnder invariant commits rely rely
      (fun _ result t ↦ ∀ answer, result = .ok answer → Answered profile t operation answer) false
      (referenceProgram profile operation) s := by
  cases operation with
  | createReference referenceUuid claimUuid given input =>
    refine KeepsUnder.map _ (keepsUnder_fromExcept (fun _ _ _ h ↦ by cases h) fun songId hsong ↦ ?_)
    refine keepsUnder_recordReference hrows hgrows (fun _ _ _ _ h ↦ by cases h) ?_ ?_
    · intro definition source t u hdefinition hsource ht hinvariant hnormal hcommitted
      exact hcommit s t u _ _ .refl hs ⟨songId, definition, source, hsong, hdefinition, rfl, rfl⟩ ht
        hinvariant hnormal hcommitted
    · rintro definition source t hdefinition hsource hrow answer ⟨⟩
      exact ⟨songId, definition, source, hsong, hdefinition, hsource, hrow, rfl⟩
  | reviseReference claimUuid given referenceId input =>
    refine KeepsUnder.map _ (keepsUnder_ask (fun _ _ _ h ↦ by cases h) fun reference db hdb hinv hread ↦ ?_)
    obtain ⟨songId, uuid, revisionId, current, currentSource, hcurrent, rfl⟩ :=
      getReference_spec (hrows db hinv) hread
    refine keepsUnder_recordReference hrows hgrows (fun _ _ _ _ h ↦ by cases h) ?_ ?_
    · intro definition source t u hdefinition hsource ht hinvariant hnormal hcommitted
      exact hcommit db t u _ _ hdb hinv ⟨songId, uuid, revisionId, current, definition, currentSource,
        source, hcurrent, rfl, rfl⟩ ht hinvariant hnormal hcommitted
    · rintro definition source t hdefinition hsource hrow answer ⟨⟩
      exact ⟨songId, uuid, definition, source, hcurrent.song, hcurrent.id, hdefinition, hsource, hrow, rfl⟩
  | recordNote noteUuid claimUuid given referenceId noted =>
    refine KeepsUnder.map _ (keepsUnder_ask (fun _ _ _ h ↦ by cases h) fun reference db hdb hinv hread ↦ ?_)
    obtain ⟨songId, uuid, revisionId, current, currentSource, hcurrent, rfl⟩ :=
      getReference_spec (hrows db hinv) hread
    refine keepsUnder_fromExcept (fun _ _ _ h ↦ by cases h) fun noted htext ↦ ?_
    have hsong := (song_spec hcurrent.song).2
    have hdecode : ∀ t, invariant t → Grows db t → decodeNote profile (noteRow (newId "claim" claimUuid)
        songId (newId "note" noteUuid) (newId "ref" uuid) revisionId noted) t = .ok _ :=
      fun t ht hgrown ↦ decodeNote_row (hrows t ht).evidence hsong (hgrown.mem hcurrent.row) _ _ _
    refine keepsUnder_recordEvent hrows hgrows
      (unspaced_eventKey (unspaced_of_all (by decide)) (by decide) uuid noteUuid)
      (fun _ _ _ _ h ↦ by cases h) ?_ hdecode ?_
    · intro t u ht hinvariant hnormal hcommitted
      exact hcommit db t u _ _ hdb hinv ⟨songId, uuid, revisionId, current, currentSource, noted,
        hcurrent, rfl, rfl⟩ ht hinvariant hnormal hcommitted
    · rintro t ht hgrown hrow answer ⟨⟩
      exact ⟨rfl, hcurrent.song, hcurrent.id.symm, htext, _, hrow, rfl, hdecode t ht hgrown⟩
  | recordDecision decisionUuid claimUuid given referenceId decision reason =>
    refine KeepsUnder.map _ (keepsUnder_ask (fun _ _ _ h ↦ by cases h) fun reference db hdb hinv hread ↦ ?_)
    obtain ⟨songId, uuid, revisionId, current, currentSource, hcurrent, rfl⟩ :=
      getReference_spec (hrows db hinv) hread
    refine keepsUnder_fromExcept (fun _ _ _ h ↦ by cases h) fun decision hdecision ↦ ?_
    refine keepsUnder_fromExcept (fun _ _ _ h ↦ by cases h) fun reason hreason ↦ ?_
    have hsong := (song_spec hcurrent.song).2
    have hdecode : ∀ t, invariant t → Grows db t → decodeDecision profile (decisionRow
        (newId "claim" claimUuid) songId (newId "decision" decisionUuid) (newId "ref" uuid) revisionId
        decision reason) t = .ok _ :=
      fun t ht hgrown ↦ decodeDecision_row (hrows t ht).evidence hsong (hgrown.mem hcurrent.row) _ _ _ _
    refine keepsUnder_recordEvent hrows hgrows
      (unspaced_eventKey (unspaced_of_all (by decide)) (by decide) uuid decisionUuid)
      (fun _ _ _ _ h ↦ by cases h) ?_ hdecode ?_
    · intro t u ht hinvariant hnormal hcommitted
      exact hcommit db t u _ _ hdb hinv ⟨songId, uuid, revisionId, current, currentSource, decision,
        reason, hcurrent, rfl, rfl⟩ ht hinvariant hnormal hcommitted
    · rintro t ht hgrown hrow answer ⟨⟩
      exact ⟨rfl, hcurrent.song, hcurrent.id.symm, hdecision, hreason, _, hrow, rfl, hdecode t ht hgrown⟩

end

end N0te.References
