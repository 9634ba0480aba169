import Mathlib.Order.Basic
import N0te.Evidence.EvidenceStore
import N0te.Library.Interference

/-!
# What every committed state of the evidence satisfies

Claims and supersessions are only appended (`Grows`), so a claim is read back for ever, and a claim that
is superseded stays so. `EvidenceInvariant` holds of the evidence of a store whatever calls were made on
it, and a store with it can be opened.
-/

set_option autoImplicit false
set_option relaxedAutoImplicit false

namespace N0te.Evidence

open Library Lineage People

/-! ### Growth -/

/-- Evidence has grown. -/
structure Grows (db after : EvidenceDb) : Prop where
  /-- The claims are still there. -/
  claims : db.claims <+: after.claims
  /-- So are the supersessions. -/
  supersessions : db.supersessions <+: after.supersessions

theorem Grows.refl (db : EvidenceDb) : Grows db db := ⟨List.prefix_rfl, List.prefix_rfl⟩

theorem Grows.trans {db after last : EvidenceDb} (h : Grows db after) (h' : Grows after last) :
    Grows db last :=
  ⟨h.claims.trans h'.claims, h.supersessions.trans h'.supersessions⟩

section

variable {db after : EvidenceDb} {claimId : String} {claim : EvidenceClaim}

theorem Grows.mem (h : Grows db after) (hclaim : claim ∈ db.claims) : claim ∈ after.claims :=
  h.claims.subset hclaim

/-- A claim that is active was active before. -/
theorem Grows.active (h : Grows db after) (hactive : after.Active claimId) : db.Active claimId :=
  fun edge hedge ↦ hactive edge (h.supersessions.subset hedge)

/-- A claim is read back for ever. -/
theorem Grows.getClaim (h : Grows db after) (hclaim : db.getClaim claimId = some claim) :
    after.getClaim claimId = some claim := by
  obtain ⟨more, hmore⟩ := h.claims
  rw [EvidenceDb.getClaim, ← hmore, List.find?_append, ← EvidenceDb.getClaim, hclaim, Option.some_or]

theorem mem_of_getClaim (h : db.getClaim claimId = some claim) :
    claim ∈ db.claims ∧ claim.id = claimId :=
  ⟨List.mem_of_find?_eq_some h, by simpa using List.find?_some h⟩

/-- The claim of an id that is in the table. -/
theorem exists_getClaim (h : ∃ claim ∈ db.claims, claim.id = claimId) :
    ∃ claim, db.getClaim claimId = some claim := by
  obtain ⟨claim, hclaim, hid⟩ := h
  have hsome : (db.getClaim claimId).isSome = true := by
    rw [EvidenceDb.getClaim, List.find?_isSome]
    exact ⟨claim, hclaim, decide_eq_true hid⟩
  exact Option.isSome_iff_exists.mp hsome

/-- Positions of claims that are there do not change. -/
theorem Grows.sequenceOf (h : Grows db after) (hclaim : claim ∈ db.claims) :
    after.sequenceOf claim.id = db.sequenceOf claim.id := by
  obtain ⟨more, hmore⟩ := h.claims
  have hexists : ∃ other ∈ db.claims, decide (other.id = claim.id) = true :=
    ⟨claim, hclaim, decide_eq_true rfl⟩
  rw [EvidenceDb.sequenceOf, ← hmore, List.findIdx_append,
    if_pos (List.findIdx_lt_length_of_exists hexists)]
  rfl

theorem Grows.sameTarget {edge : EvidenceSupersession} (h : Grows db after)
    (hedge : db.SameTarget edge) : after.SameTarget edge := by
  obtain ⟨newer, hnewer, older, holder, hnewId, holdId, hkind, hscope, hkey, hlt⟩ := hedge
  refine ⟨newer, h.mem hnewer, older, h.mem holder, hnewId, holdId, hkind, hscope, hkey, ?_⟩
  rwa [h.sequenceOf hnewer, h.sequenceOf holder]

end

/-! ### Statements -/

/-- What `INSERT INTO evidence_supersessions` for each claim does. -/
theorem insertSupersessions_spec {claimId : String} {oldIds : List String} {db after : EvidenceDb}
    (h : EvidenceDb.insertSupersessions claimId oldIds db = .ok after) :
    after = ⟨db.claims, db.supersessions ++ oldIds.map (EvidenceSupersession.mk claimId)⟩ ∧
      ∀ oldId ∈ oldIds, db.SameTarget ⟨claimId, oldId⟩ := by
  induction oldIds generalizing db with
  | nil =>
    cases h
    simp
  | cons oldId rest ih =>
    simp only [EvidenceDb.insertSupersessions, EvidenceDb.insertSupersession, bind_eq_ok,
      require_eq_ok, Except.ok.injEq] at h
    obtain ⟨_, ⟨⟨⟩, htarget, -, -, -, -, rfl⟩, hrest⟩ := h
    obtain ⟨rfl, htargets⟩ := ih hrest
    refine ⟨by simp, List.forall_mem_cons.mpr ⟨htarget, htargets⟩⟩

/-- A row as `record_claim` makes it. -/
structure NormalClaim (profile : Profile) (row : EvidenceClaim) : Prop where
  scope : InProfile profile row.scopeKind row.scopeId
  /-- The key has no whitespace at its ends. -/
  key : strip row.key = row.key
  /-- The key is not empty. -/
  key_ne : row.key ≠ ""
  created : Created "claim" row.id

theorem normalizeClaim_spec {profile : Profile} {uuid : Uuid} {input : ClaimInput}
    {row : EvidenceClaim} (h : normalizeClaim profile (newId "claim" uuid) input = .ok row) :
    NormalClaim profile row := by
  simp only [normalizeClaim, validateScope, bind_eq_ok, require_eq_ok, Except.ok.injEq] at h
  obtain ⟨_, -, _, hkey, kind, -, _, hscope, _, -, _, -, _, -, rfl⟩ := h
  exact ⟨hscope, strip_strip _, hkey, uuid, rfl⟩

section

variable {σ : Type} {host : EvidenceHost σ} {row : EvidenceClaim} {oldIds : List String} {s t : σ}

/-- What the transaction of `record_claim` does to the evidence. -/
structure ClaimCommitted (row : EvidenceClaim) (oldIds : List String) (db after : EvidenceDb) :
    Prop where
  /-- The id is new. -/
  fresh : ∀ other ∈ db.claims, other.id ≠ row.id
  confidence : 0 ≤ row.confidence ∧ row.confidence ≤ 1
  /-- The claim is appended. -/
  claims : after.claims = db.claims ++ [row]
  /-- The supersessions are appended. -/
  supersessions : after.supersessions = db.supersessions ++ oldIds.map (EvidenceSupersession.mk row.id)
  /-- The new claim replaces claims of the same scope and key. -/
  sameTarget : ∀ oldId ∈ oldIds, after.SameTarget ⟨row.id, oldId⟩

theorem ClaimCommitted.grows {db after : EvidenceDb} (h : ClaimCommitted row oldIds db after) :
    Grows db after :=
  ⟨h.claims ▸ List.prefix_append _ _, h.supersessions ▸ List.prefix_append _ _⟩

theorem commitClaim_spec (h : commitClaim host row oldIds s = .ok t) :
    ∃ u, host.afterClaim row
      (host.withEvidence ⟨(host.evidence s).claims ++ [row], (host.evidence s).supersessions⟩ s) =
        .ok u ∧ t = host.withEvidence (host.evidence t) u ∧
      ClaimCommitted row oldIds (host.evidence s) (host.evidence t) := by
  simp only [commitClaim, integrityAs_eq_ok, EvidenceDb.insertClaim, bind_eq_ok, require_eq_ok,
    Except.ok.injEq] at h
  obtain ⟨_, ⟨⟨⟩, hfresh, -, -, ⟨⟩, hconfidence, rfl⟩, u, hafter, _, hedges, rfl⟩ := h
  have hevidence := host.evidence_afterClaim _ _ _ hafter
  rw [host.evidence_withEvidence] at hevidence
  obtain ⟨rfl, htargets⟩ := insertSupersessions_spec hedges
  rw [hevidence] at htargets ⊢
  rw [host.evidence_withEvidence]
  exact ⟨u, hafter, rfl, hfresh, hconfidence, rfl, rfl, htargets⟩

end

section

variable {σ : Type} {host : EvidenceHost σ} {row : EvidenceClaim} {s u : σ}

/-- The transaction of a claim that replaces nothing. -/
theorem commitClaim_of_afterClaim (hfresh : ∀ other ∈ (host.evidence s).claims, other.id ≠ row.id)
    (hkey : sqlNonblank row.key = true) (hconfidence : 0 ≤ row.confidence ∧ row.confidence ≤ 1)
    (hafter : host.afterClaim row (host.withEvidence
      ⟨(host.evidence s).claims ++ [row], (host.evidence s).supersessions⟩ s) = .ok u) :
    commitClaim host row [] s = .ok (host.withEvidence (host.evidence u) u) := by
  simp only [commitClaim, integrityAs_eq_ok, EvidenceDb.insertClaim, EvidenceDb.insertSupersessions,
    bind_eq_ok, require_eq_ok]
  exact ⟨_, ⟨⟨⟩, hfresh, ⟨⟩, hkey, ⟨⟩, hconfidence, rfl⟩, u, hafter, _, rfl, rfl⟩

end

/-! ### The invariant -/

/-- The invariant of the evidence of a profile. -/
structure EvidenceInvariant (profile : Profile) (db : EvidenceDb) : Prop where
  /-- A claim is as `record_claim` makes it. -/
  claims : ∀ claim ∈ db.claims, NormalClaim profile claim ∧
    0 ≤ claim.confidence ∧ claim.confidence ≤ 1
  /-- An id names one claim. -/
  ids : (db.claims.map EvidenceClaim.id).Nodup
  /-- A claim is superseded by a newer one of the same scope and key. -/
  edges : ∀ edge ∈ db.supersessions, db.SameTarget edge

section

variable {profile : Profile} {db after : EvidenceDb}

theorem evidenceInvariant_empty : EvidenceInvariant profile .empty where
  claims := List.forall_mem_nil _
  ids := List.nodup_nil
  edges := List.forall_mem_nil _

theorem EvidenceInvariant.eq_of_id (h : EvidenceInvariant profile db) {claim other : EvidenceClaim}
    (hclaim : claim ∈ db.claims) (hother : other ∈ db.claims) (hid : claim.id = other.id) :
    claim = other :=
  List.inj_on_of_nodup_map h.ids hclaim hother hid

/-- A claim is read by its id. -/
theorem EvidenceInvariant.getClaim (h : EvidenceInvariant profile db) {claim : EvidenceClaim}
    (hclaim : claim ∈ db.claims) : db.getClaim claim.id = some claim := by
  obtain ⟨found, hfound⟩ := exists_getClaim ⟨claim, hclaim, rfl⟩
  obtain ⟨hmem, hid⟩ := mem_of_getClaim hfound
  rw [hfound, h.eq_of_id hmem hclaim hid]

theorem EvidenceInvariant.commit {row : EvidenceClaim} {oldIds : List String}
    (h : EvidenceInvariant profile db) (hrow : NormalClaim profile row)
    (hcommitted : ClaimCommitted row oldIds db after) : EvidenceInvariant profile after := by
  constructor
  · rw [hcommitted.claims]
    refine List.forall_mem_append.mpr ⟨h.claims, List.forall_mem_singleton.mpr ?_⟩
    exact ⟨hrow, hcommitted.confidence⟩
  · rw [hcommitted.claims, List.map_append, List.map_singleton, List.nodup_append]
    refine ⟨h.ids, List.nodup_singleton _, ?_⟩
    intro id hid other hother
    obtain ⟨claim, hclaim, rfl⟩ := List.mem_map.mp hid
    rw [List.mem_singleton.mp hother]
    exact hcommitted.fresh claim hclaim
  · rw [hcommitted.supersessions]
    refine List.forall_mem_append.mpr ⟨?_, ?_⟩
    · exact fun edge hedge ↦ hcommitted.grows.sameTarget (h.edges edge hedge)
    · intro edge hedge
      obtain ⟨oldId, hold, rfl⟩ := List.mem_map.mp hedge
      exact hcommitted.sameTarget oldId hold

/-- Evidence can be opened again. -/
theorem EvidenceInvariant.validateExisting (h : EvidenceInvariant profile db) :
    db.validateExisting profile = .ok ⟨⟩ := by
  have hclaims : ∀ claim ∈ db.claims, validateClaim profile claim = .ok ⟨⟩ := by
    intro claim hclaim
    obtain ⟨hnormal, hconfidence⟩ := h.claims claim hclaim
    simp only [validateClaim, validateScope, bind_eq_ok, require_eq_ok]
    exact ⟨⟨⟩, hnormal.scope, hconfidence⟩
  obtain ⟨results, hresults⟩ := exists_checkEach_iff.mpr hclaims
  simp only [EvidenceDb.validateExisting, bind_eq_ok, require_eq_ok]
  exact ⟨results, hresults, h.edges⟩

/-- What `active_claims` says of a claim of the store: it is among them when nothing supersedes it. -/
theorem EvidenceInvariant.mem_activeClaims (h : EvidenceInvariant profile db) {claim : EvidenceClaim}
    (hclaim : claim ∈ db.claims) : ∃ active,
      activeClaims profile claim.scopeKind claim.scopeId claim.key db = .ok active ∧
        (claim.id ∈ active.map EvidenceClaim.id ↔ db.Active claim.id) := by
  obtain ⟨hnormal, -⟩ := h.claims claim hclaim
  refine ⟨db.claims.filter fun other ↦ other.scopeKind = claim.scopeKind ∧
    other.scopeId = claim.scopeId ∧ db.Active other.id ∧ other.key = claim.key, ?_, ?_⟩
  · simp only [activeClaims, validateScope, bind_eq_ok, require_eq_ok, hnormal.key]
    exact ⟨⟨⟩, hnormal.key_ne, ⟨⟩, hnormal.scope, trivial⟩
  · rw [List.mem_map]
    constructor
    · rintro ⟨other, hother, hid⟩
      rw [List.mem_filter, decide_eq_true_eq] at hother
      exact hid ▸ hother.2.2.2.1
    · refine fun hactive ↦ ⟨claim, List.mem_filter.mpr ⟨hclaim, ?_⟩, rfl⟩
      rw [decide_eq_true_eq]
      exact ⟨rfl, rfl, hactive, rfl⟩

end

/-! ### The call -/

section

variable {σ : Type} {host : EvidenceHost σ} {profile : Profile} {invariant : σ → Prop}
  {commits : σ → σ → Prop}

theorem preserves_checkSuperseded (row : EvidenceClaim) (active : List EvidenceClaim)
    (oldIds : List String) :
    Preserves invariant commits (checkSuperseded host row active oldIds) := by
  induction oldIds with
  | nil => exact preserves_pure _
  | cons oldId rest ih =>
    exact (preserves_select _).bind fun _ ↦ (preserves_fromExcept _).bind fun _ ↦ ih

/-- `record_claim` of some arguments keeps what its transaction keeps. -/
theorem preserves_recordInput {uuid : Uuid} {input : ClaimInput}
    (hcommit : ∀ row s t, normalizeClaim profile (newId "claim" uuid) input = .ok row →
      invariant s → commitClaim host row input.supersedes.eraseDups s = .ok t →
        commits s t ∧ invariant t) :
    Preserves invariant commits (recordClaim profile host uuid input) := by
  refine preserves_fromExcept_bind fun row hrow ↦ (preserves_ask _).bind fun active ↦
    (preserves_checkSuperseded _ _ _).bind fun _ ↦ ?_
  refine (preserves_transaction fun s t hs h ↦ ?_).bind fun _ ↦ (preserves_select _).bind fun _ ↦
    preserves_fromExcept _
  exact hcommit row s t hrow hs h

/-- `record_claim` keeps what its transaction keeps. -/
theorem preserves_recordClaim
    (hcommit : ∀ row oldIds s t, NormalClaim profile row → invariant s →
      commitClaim host row oldIds s = .ok t → commits s t ∧ invariant t)
    (uuid : Uuid) (input : ClaimInput) :
    Preserves invariant commits (recordClaim profile host uuid input) :=
  preserves_recordInput fun row s t hrow hs h ↦ hcommit row _ s t (normalizeClaim_spec hrow) hs h

/-- What `record_claim` promises, when it replaces nothing. -/
theorem keepsUnder_recordClaim {relyRead relyWrite : σ → σ → Prop}
    {post : Bool → Except (Raised LineageErrorClass) EvidenceClaim → σ → Prop} {committed : Bool}
    {s : σ} {uuid : Uuid} {input : ClaimInput} (hnone : input.supersedes.eraseDups = [])
    (hraised : ∀ e t, post committed (.error e) t)
    (hcommit : ∀ row t u, normalizeClaim profile (newId "claim" uuid) input = .ok row →
      Relation.ReflTransGen commits s t → invariant t → commitClaim host row [] t = .ok u →
        commits t u ∧ invariant u ∧ ∀ r v, Relation.ReflTransGen commits u v → invariant v →
          r = orRaise ((host.evidence v).getClaim row.id) ⟨.assertionError, ""⟩ → post true r v) :
    KeepsUnder invariant commits relyRead relyWrite post committed
      (recordClaim profile host uuid input) s := by
  refine keepsUnder_fromExcept (fun _ _ ↦ hraised _ _) fun row hrow ↦ ?_
  refine keepsUnder_ask (fun _ _ ↦ hraised _ _) fun active t ht _ _ ↦ ?_
  rw [hnone]
  refine keepsUnder_bind (keepsUnder_pure ?_)
  refine keepsUnder_transaction (fun _ _ _ _ ↦ hraised _ _) fun u v hu hinvariant hv ↦ ?_
  obtain ⟨hfirst, hkept, hlast⟩ := hcommit row u v hrow
    ((commits_of_allowed ht).trans (commits_of_allowed hu)) hinvariant hv
  refine ⟨hfirst, hkept, keepsUnder_select fun last hreached hinvariant ↦ ?_⟩
  have hresult := fun r ↦ hlast r last (commits_of_allowed hreached) hinvariant
  exact keepsUnder_result (fun e he ↦ hresult _ he.symm) fun a ha ↦ hresult _ ha.symm

/-- A claim that replaces nothing is recorded. -/
theorem alone_recordClaim {s t : σ} {uuid : Uuid} {input : ClaimInput} {row : EvidenceClaim}
    (hnone : input.supersedes.eraseDups = [])
    (hrow : normalizeClaim profile (newId "claim" uuid) input = .ok row)
    (hcommit : commitClaim host row [] s = .ok t) :
    (recordClaim profile host uuid input).alone s =
      (orRaise ((host.evidence t).getClaim row.id) ⟨.assertionError, ""⟩, t) := by
  have hnormal := normalizeClaim_spec hrow
  have hactive : activeClaims profile row.scopeKind row.scopeId row.key (host.evidence s) =
      .ok ((host.evidence s).claims.filter fun claim ↦ claim.scopeKind = row.scopeKind ∧
        claim.scopeId = row.scopeId ∧ (host.evidence s).Active claim.id ∧ claim.key = row.key) := by
    simp only [activeClaims, validateScope, bind_eq_ok, require_eq_ok, hnormal.key]
    exact ⟨⟨⟩, hnormal.key_ne, ⟨⟩, hnormal.scope, trivial⟩
  refine (Call.alone_fromExcept_bind hrow _ _).trans ((Call.alone_ask_bind (s := s) hactive _).trans ?_)
  rw [hnone]
  simp only [checkSuperseded, Call.alone_bind, Call.alone_pure, Call.transaction, Call.alone, hcommit]
  rfl

end

end N0te.Evidence
