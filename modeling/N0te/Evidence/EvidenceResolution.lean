import Mathlib.Logic.Relation
import N0te.Evidence.Revisions
import N0te.Library.Inputs

/-!
# Resolution of evidence

`resolve_for_song` asks the scopes of a song from the narrowest to the widest and stops at the first that
has active claims of a key. `reconcile_for_song` resolves, and records a claim that supersedes all that
was found. Every scope is asked with a statement of its own.

A commit changes the active claims of its own place only (`ClaimCommitted.activeAt_of_ne`), and so the
resolutions that are found there only (`alone_resolveScopes_congr`). Nothing is superseded, over however
many steps, by itself (`EvidenceInvariant.acyclic`).
-/

set_option autoImplicit false
set_option relaxedAutoImplicit false

namespace N0te.Evidence

open Library Lineage People

/-! ### Resolutions -/

/-- `EvidenceResolution.status`. -/
inductive ResolutionStatus where
  | resolved
  | conflict
  | unknown
  deriving DecidableEq

/-- An `EvidenceResolution`. -/
structure EvidenceResolution where
  status : ResolutionStatus
  key : String
  scope : Option (ScopeKind × String)
  value : Option Json
  claims : List EvidenceClaim
  deriving DecidableEq

/-- The resolution that the active claims of a scope give. -/
def resolutionOf (key : String) (kind : ScopeKind) (scopeId : String) (claims : List EvidenceClaim) :
    EvidenceResolution :=
  if (keepFirst (claims.map fun claim ↦ claim.value.canonical)).length = 1 then
    ⟨.resolved, key, some (kind, scopeId), claims.getLast?.map EvidenceClaim.value, claims⟩
  else ⟨.conflict, key, some (kind, scopeId), none, claims⟩

/-- The resolution when no scope has active claims. -/
def unknownResolution (key : String) : EvidenceResolution := ⟨.unknown, key, none, none, []⟩

section

variable (profile : Profile)

def versionScope (songId : String) : Option String → Checked (List (ScopeKind × String))
  | none => .ok []
  | some versionId => do
    let version ← orRaise (profile.getVersion versionId) (notFound s!"version not found: {versionId}")
    require (version.songId = songId) (validation "version belongs to a different Song")
    .ok [(.version, versionId)]

/-- The scopes of a song, the narrowest first. -/
def resolutionScopes (songId : String) (versionId : Option String) :
    Checked (List (ScopeKind × String)) := do
  let song ← orRaise (profile.getSong songId)
    (notFound s!"Song not found in profile {profile.profileId}: {songId}")
  let version ← versionScope profile songId versionId
  .ok (version ++ [(.song, songId), (.artist, song.artistId), (.profile, profile.profileId)])

variable {σ : Type} (host : EvidenceHost σ)

/-- The loop of `resolve_for_song`. -/
def resolveScopes (key : String) : List (ScopeKind × String) → EvidenceCall σ EvidenceResolution
  | [] => pure (unknownResolution key)
  | (kind, scopeId) :: rest => do
    let claims ← .ask fun s ↦ activeClaims profile kind scopeId key (host.evidence s)
    if claims = [] then resolveScopes key rest else pure (resolutionOf key kind scopeId claims)

/-- `resolve_for_song`. -/
def resolveForSong (songId key : String) (versionId : Option String) :
    EvidenceCall σ EvidenceResolution := do
  let scopes ← .fromExcept (resolutionScopes profile songId versionId)
  resolveScopes profile host key scopes

/-- The arguments of `reconcile_for_song`. -/
structure ReconcileInput where
  songId : String
  key : String
  value : Json
  sourceKind : String
  sourceRef : Option String
  confidence : ℚ
  twinDomain : String
  /-- The version, if the claim is about one. -/
  versionId : Option String

/-- The scope that a reconciliation is about. -/
def ReconcileInput.scope (input : ReconcileInput) : ScopeKind × String :=
  match input.versionId with
  | some versionId => (.version, versionId)
  | none => (.song, input.songId)

/-- The arguments of `record_claim` in `reconcile_for_song`. -/
def ReconcileInput.claim (input : ReconcileInput) (superseded : List EvidenceClaim) : ClaimInput :=
  ⟨input.scope.1.name, input.scope.2, input.key, input.value, input.sourceKind, input.sourceRef,
    input.confidence, input.twinDomain, superseded.map EvidenceClaim.id⟩

/-- `reconcile_for_song`. -/
def reconcileForSong (uuid : Uuid) (input : ReconcileInput) : EvidenceCall σ EvidenceClaim := do
  let resolution ← resolveForSong profile host input.songId input.key input.versionId
  .fromExcept (require (resolution.status ≠ .unknown)
    (validation "there is no active evidence to reconcile"))
  .fromExcept (require (resolution.scope = some input.scope)
    (validation "reconciliation must target the currently applicable explicit scope"))
  recordClaim profile host uuid (input.claim resolution.claims)

end

/-! ### Active claims of a place -/

def EvidenceDb.activeAt (db : EvidenceDb) (place : Place) : List EvidenceClaim :=
  (db.revisionsOf place).filter fun claim ↦ db.Active claim.id

theorem mem_activeAt {db : EvidenceDb} {place : Place} {claim : EvidenceClaim} :
    claim ∈ db.activeAt place ↔ claim ∈ db.claims ∧ claim.place = place ∧ db.Active claim.id := by
  rw [EvidenceDb.activeAt, List.mem_filter, mem_revisionsOf, decide_eq_true_eq, and_assoc]

section

variable {profile : Profile} {db after : EvidenceDb} {kind : ScopeKind} {scopeId key : String}

/-- `active_claims` returns the active claims of a place. -/
theorem activeClaims_eq : activeClaims profile kind scopeId key db = (do
    require (strip key ≠ "") (validation "evidence key must not be empty")
    validateScope profile validation kind scopeId
    .ok (db.activeAt ⟨kind, scopeId, strip key⟩)) := by
  have hfilter : (db.claims.filter fun claim ↦ claim.scopeKind = kind ∧ claim.scopeId = scopeId ∧
      db.Active claim.id ∧ claim.key = strip key) = db.activeAt ⟨kind, scopeId, strip key⟩ := by
    rw [EvidenceDb.activeAt, EvidenceDb.revisionsOf, historyOf, List.filter_filter]
    refine List.filter_congr fun claim _ ↦ ?_
    rw [← Bool.decide_and, decide_eq_decide, EvidenceClaim.place_eq]
    tauto
  rw [activeClaims, hfilter]

theorem activeClaims_eq_ok {claims : List EvidenceClaim} :
    activeClaims profile kind scopeId key db = .ok claims ↔
      strip key ≠ "" ∧ InProfile profile kind scopeId ∧ db.activeAt ⟨kind, scopeId, strip key⟩ = claims := by
  simp only [activeClaims_eq, validateScope, bind_eq_ok, require_eq_ok, Except.ok.injEq]
  constructor
  · rintro ⟨-, hkey, -, hscope, hclaims⟩
    exact ⟨hkey, hscope, hclaims⟩
  · rintro ⟨hkey, hscope, hclaims⟩
    exact ⟨⟨⟩, hkey, ⟨⟩, hscope, hclaims⟩

/-- The same question has the same answer when the active claims of the place are the same. -/
theorem activeClaims_congr (h : after.activeAt ⟨kind, scopeId, strip key⟩ =
    db.activeAt ⟨kind, scopeId, strip key⟩) :
    activeClaims profile kind scopeId key after = activeClaims profile kind scopeId key db := by
  rw [activeClaims_eq, activeClaims_eq, h]

/-! ### Commits -/

section

variable {row : EvidenceClaim} {oldIds : List String}

/-- What is superseded stands at the place of the new claim. -/
theorem ClaimCommitted.exists_older (h : ClaimCommitted row oldIds db after)
    (hinvariant : EvidenceInvariant profile after) {oldId : String} (hold : oldId ∈ oldIds) :
    ∃ older ∈ after.claims, older.id = oldId ∧ older.place = row.place ∧ older ≠ row := by
  obtain ⟨newer, hnewer, older, holder, hnewId, hid, hkind, hscope, hkey, hlt⟩ := h.sameTarget oldId hold
  have hrow : row ∈ after.claims := by
    rw [h.claims]
    exact List.mem_append_right _ (List.mem_singleton_self _)
  have hsame : newer = row := hinvariant.eq_of_id hnewer hrow hnewId
  refine ⟨older, holder, hid, ?_, ?_⟩
  · rw [EvidenceClaim.place, ← hkind, ← hscope, ← hkey, hsame]
    rfl
  · rintro rfl
    rw [hsame] at hlt
    exact lt_irrefl _ hlt

theorem ClaimCommitted.active_iff (h : ClaimCommitted row oldIds db after) (id : String) :
    after.Active id ↔ db.Active id ∧ id ∉ oldIds := by
  unfold EvidenceDb.Active
  rw [h.supersessions, List.forall_mem_append, List.forall_mem_map]
  exact and_congr_right fun _ ↦ ⟨fun hall hmem ↦ hall id hmem rfl, fun hnot old hold hid ↦
    hnot (hid ▸ hold)⟩

/-- The new claim is active. -/
theorem ClaimCommitted.active_row (h : ClaimCommitted row oldIds db after)
    (hinvariant : EvidenceInvariant profile after) : after.Active row.id := by
  have hrow : row ∈ after.claims := by
    rw [h.claims]
    exact List.mem_append_right _ (List.mem_singleton_self _)
  intro edge hedge hold
  obtain ⟨newer, hnewer, older, holder, hnewId, hid, -, -, -, hlt⟩ := hinvariant.edges edge hedge
  have hsame : older = row := hinvariant.eq_of_id holder hrow (hid.trans hold)
  have hlast : after.sequenceOf row.id = db.claims.length := by
    rw [EvidenceDb.sequenceOf, h.claims, List.findIdx_append]
    have hnone : ¬ db.claims.findIdx (fun claim ↦ claim.id = row.id) < db.claims.length := by
      rw [List.findIdx_lt_length]
      rintro ⟨other, hother, hid⟩
      exact h.fresh other hother (of_decide_eq_true hid)
    rw [if_neg hnone]
    simp
  have hbound : after.sequenceOf newer.id < after.claims.length :=
    List.findIdx_lt_length_of_exists ⟨newer, hnewer, decide_eq_true rfl⟩
  rw [hsame, hlast] at hlt
  rw [h.claims, List.length_append, List.length_singleton] at hbound
  omega

/-- The active claims of the place of the new claim. -/
theorem ClaimCommitted.activeAt_self (h : ClaimCommitted row oldIds db after)
    (hinvariant : EvidenceInvariant profile after) : after.activeAt row.place =
      ((db.activeAt row.place).filter fun claim ↦ claim.id ∉ oldIds) ++ [row] := by
  rw [EvidenceDb.activeAt, h.revisionsOf_self, List.filter_append, EvidenceDb.activeAt,
    List.filter_filter]
  congr 1
  · refine List.filter_congr fun claim _ ↦ ?_
    rw [← Bool.decide_and, decide_eq_decide, h.active_iff, and_comm]
  · rw [List.filter_eq_self]
    intro claim hclaim
    rw [List.mem_singleton.mp hclaim]
    exact decide_eq_true (h.active_row hinvariant)

/-- The active claims of other places are what they were. -/
theorem ClaimCommitted.activeAt_of_ne (h : ClaimCommitted row oldIds db after)
    (hinvariant : EvidenceInvariant profile after) {place : Place} (hplace : row.place ≠ place) :
    after.activeAt place = db.activeAt place := by
  rw [EvidenceDb.activeAt, h.revisionsOf_of_ne hplace, EvidenceDb.activeAt]
  refine List.filter_congr fun claim hclaim ↦ decide_eq_decide.mpr ?_
  obtain ⟨hmem, hat⟩ := mem_revisionsOf.mp hclaim
  rw [h.active_iff]
  refine and_iff_left fun hold ↦ hplace ?_
  obtain ⟨older, holder, hid, hsame, -⟩ := h.exists_older hinvariant hold
  rw [← hsame, hinvariant.eq_of_id holder (h.grows.mem hmem) hid, hat]

end

/-! ### Resolutions of a store -/

section

variable {place : Place}

/-- The scopes of a song begin with the one that a reconciliation is about. -/
theorem resolutionScopes_eq_ok {input : ReconcileInput} {scopes : List (ScopeKind × String)}
    (h : resolutionScopes profile input.songId input.versionId = .ok scopes) :
    ∃ rest, scopes = input.scope :: rest := by
  simp only [resolutionScopes, bind_eq_ok, Except.ok.injEq] at h
  obtain ⟨song, -, version, hversion, rfl⟩ := h
  unfold ReconcileInput.scope
  rcases hgiven : input.versionId with _ | versionId
  · rw [hgiven, versionScope, Except.ok.injEq] at hversion
    rw [← hversion]
    exact ⟨_, rfl⟩
  · rw [hgiven] at hversion
    simp only [versionScope, bind_eq_ok, require_eq_ok, Except.ok.injEq] at hversion
    obtain ⟨_, -, _, -, rfl⟩ := hversion
    exact ⟨_, rfl⟩

/-- The answer of the first scope. -/
theorem alone_resolveScopes_cons (rest : List (ScopeKind × String)) (db : EvidenceDb) :
    ((resolveScopes profile plainHost key ((kind, scopeId) :: rest)).alone db).1 =
      match activeClaims profile kind scopeId key db with
      | .ok [] => ((resolveScopes profile plainHost key rest).alone db).1
      | .ok (claim :: more) => .ok (resolutionOf key kind scopeId (claim :: more))
      | .error e => .error e := by
  have hread : activeClaims profile kind scopeId key (plainHost.evidence db) =
      activeClaims profile kind scopeId key db := rfl
  rw [resolveScopes, Call.alone_bind, Call.alone_ask, hread]
  rcases activeClaims profile kind scopeId key db with e | claims
  · rfl
  · rcases claims with _ | ⟨claim, more⟩ <;> rfl

/-- A resolution is what it was when the active claims elsewhere are, or it is found at the place. -/
theorem alone_resolveScopes_congr
    (helsewhere : ∀ other, other ≠ place → after.activeAt other = db.activeAt other)
    (hplace : after.activeAt place ≠ []) (scopes : List (ScopeKind × String)) :
    ((resolveScopes profile plainHost key scopes).alone after).1 =
        ((resolveScopes profile plainHost key scopes).alone db).1 ∨
      ∃ resolution, ((resolveScopes profile plainHost key scopes).alone after).1 = .ok resolution ∧
        resolution.scope = some (place.kind, place.scopeId) ∧ strip key = place.key := by
  induction scopes with
  | nil => exact .inl rfl
  | cons scope rest ih =>
    obtain ⟨kind, scopeId⟩ := scope
    rw [alone_resolveScopes_cons, alone_resolveScopes_cons]
    by_cases hsame : (⟨kind, scopeId, strip key⟩ : Place) = place
    · by_cases hasked : strip key ≠ "" ∧ InProfile profile kind scopeId
      · right
        have hclaims : activeClaims profile kind scopeId key after = .ok (after.activeAt place) :=
          activeClaims_eq_ok.mpr ⟨hasked.1, hasked.2, by rw [hsame]⟩
        obtain ⟨claim, more, hmore⟩ := List.exists_cons_of_ne_nil hplace
        rw [hclaims, hmore]
        refine ⟨_, rfl, ?_, by rw [← hsame]⟩
        rw [← hsame, resolutionOf]
        split_ifs <;> rfl
      · left
        obtain ⟨e, he⟩ : ∃ e, ∀ db, activeClaims profile kind scopeId key db = .error e := by
          by_cases hkey : strip key = ""
          · exact ⟨_, fun db ↦ by rw [activeClaims_eq, require, if_neg (not_not.mpr hkey)]; rfl⟩
          · have hscope : ¬ InProfile profile kind scopeId := fun hscope ↦ hasked ⟨hkey, hscope⟩
            refine ⟨validation (scopeMessage kind), fun db ↦ ?_⟩
            rw [activeClaims_eq, require, if_pos hkey, validateScope, require, if_neg hscope]
            rfl
        rw [he after, he db]
    · rw [activeClaims_congr (helsewhere _ hsame)]
      rcases activeClaims profile kind scopeId key db with e | claims
      · exact .inl rfl
      · cases claims with
        | nil => exact ih
        | cons claim more => exact .inl rfl

/-- One active claim at the first scope is the resolution. -/
theorem alone_resolveForSong_of_first {songId : String} {versionId : Option String}
    {rest : List (ScopeKind × String)} {row : EvidenceClaim}
    (hscopes : resolutionScopes profile songId versionId = .ok ((kind, scopeId) :: rest))
    (hkey : strip key ≠ "") (hscope : InProfile profile kind scopeId)
    (hactive : db.activeAt ⟨kind, scopeId, strip key⟩ = [row]) :
    ((resolveForSong profile plainHost songId key versionId).alone db).1 =
      .ok ⟨.resolved, key, some (kind, scopeId), some row.value, [row]⟩ := by
  have hclaims : activeClaims profile kind scopeId key db = .ok [row] :=
    activeClaims_eq_ok.mpr ⟨hkey, hscope, hactive⟩
  rw [resolveForSong, Call.alone_fromExcept_bind hscopes, alone_resolveScopes_cons, hclaims]
  rfl

end

/-! ### Supersessions are acyclic -/

/-- A supersession leads from a newer claim to an older. -/
theorem EvidenceInvariant.sequenceOf_lt (h : EvidenceInvariant profile db) {a b : String}
    (hedge : Relation.TransGen (fun newId oldId ↦ ⟨newId, oldId⟩ ∈ db.supersessions) a b) :
    db.sequenceOf b < db.sequenceOf a := by
  have hstep : ∀ {x y : String}, (⟨x, y⟩ : EvidenceSupersession) ∈ db.supersessions →
      db.sequenceOf y < db.sequenceOf x := by
    intro x y hxy
    obtain ⟨newer, -, older, -, hnewId, hid, -, -, -, hlt⟩ := h.edges _ hxy
    rwa [hnewId, hid] at hlt
  induction hedge with
  | single hab => exact hstep hab
  | tail _ hbc ih => exact (hstep hbc).trans ih

/-- Nothing is superseded by itself, over however many steps. -/
theorem EvidenceInvariant.acyclic (h : EvidenceInvariant profile db) (id : String) :
    ¬ Relation.TransGen (fun newId oldId ↦ ⟨newId, oldId⟩ ∈ db.supersessions) id id :=
  fun hcycle ↦ lt_irrefl _ (h.sequenceOf_lt hcycle)

end

end N0te.Evidence
