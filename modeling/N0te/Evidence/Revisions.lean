import N0te.Evidence.EvidenceInvariant
import N0te.Library.EventLog

/-!
# Chains of revisions

A claim that is only ever superseded by claims of its own scope and key stands at a `Place`, and the
claims of a place are its revisions, in the order of the table. `Chained` says that the supersessions
among them link each revision to the one before it and to no other. Then the last revision is the active
one (`Chained.active_iff`), and `active_claims` of the place returns it alone (`Chained.activeClaims`).

A commit keeps a place chained when the new claim supersedes the last revision (`Chained.commit`).
`record_claim` finds out which claims are active before its transaction, so this is so when nobody
commits a revision of the place meanwhile (`keepsUnder_recordRevision`).
-/

set_option autoImplicit false
set_option relaxedAutoImplicit false

namespace N0te.Evidence

open Library Lineage People

/-! ### A store of evidence alone -/

/-- A store that holds nothing but evidence. -/
def plainHost : EvidenceHost EvidenceDb where
  evidence db := db
  withEvidence db _ := db
  afterClaim _ db := .ok db
  evidence_withEvidence _ _ := rfl
  evidence_afterClaim _ _ _ h := by cases h; rfl

/-- What a transaction of `record_claim` does to such a store. -/
theorem commitClaim_plainHost {row : EvidenceClaim} {oldIds : List String} {db after : EvidenceDb}
    (h : commitClaim plainHost row oldIds db = .ok after) : ClaimCommitted row oldIds db after := by
  obtain ⟨_, -, -, hcommitted⟩ := commitClaim_spec h
  exact hcommitted

/-- Commits that each let the store grow. -/
theorem grows_of_commits {commits : EvidenceDb → EvidenceDb → Prop}
    (hgrows : ∀ db after, commits db after → Grows db after) {db after : EvidenceDb}
    (h : Relation.ReflTransGen commits db after) : Grows db after := by
  induction h with
  | refl => exact .refl db
  | tail _ hnext ih => exact ih.trans (hgrows _ _ hnext)

/-! ### Places -/

/-- A scope and a key. -/
structure Place where
  kind : ScopeKind
  scopeId : String
  key : String
  deriving DecidableEq

/-- Where a claim stands. -/
def EvidenceClaim.place (claim : EvidenceClaim) : Place :=
  ⟨claim.scopeKind, claim.scopeId, claim.key⟩

theorem EvidenceClaim.place_eq {claim : EvidenceClaim} {place : Place} :
    claim.place = place ↔
      claim.scopeKind = place.kind ∧ claim.scopeId = place.scopeId ∧ claim.key = place.key := by
  cases place
  simp [EvidenceClaim.place]

/-- The revisions at a place, in order. -/
def EvidenceDb.revisionsOf (db : EvidenceDb) (place : Place) : List EvidenceClaim :=
  historyOf EvidenceClaim.place place db.claims

def EvidenceDb.revisionIds (db : EvidenceDb) (place : Place) : List String :=
  (db.revisionsOf place).map EvidenceClaim.id

theorem mem_revisionsOf {db : EvidenceDb} {place : Place} {claim : EvidenceClaim} :
    claim ∈ db.revisionsOf place ↔ claim ∈ db.claims ∧ claim.place = place := mem_historyOf

theorem mem_revisionIds {db : EvidenceDb} {place : Place} {id : String} :
    id ∈ db.revisionIds place ↔ ∃ claim ∈ db.claims, claim.place = place ∧ claim.id = id := by
  simp only [EvidenceDb.revisionIds, List.mem_map, mem_revisionsOf, and_assoc]

theorem EvidenceInvariant.nodup_revisionIds {profile : Profile} {db : EvidenceDb}
    (h : EvidenceInvariant profile db) (place : Place) : (db.revisionIds place).Nodup :=
  h.ids.sublist (List.filter_sublist.map _)

/-! ### Links -/

/-- The supersessions of a chain: each id is superseded by the next. -/
def links : List String → List EvidenceSupersession
  | older :: newer :: rest => ⟨newer, older⟩ :: links (newer :: rest)
  | _ => []

/-- A chain is extended at its end. -/
theorem links_concat (ids : List String) (id : String) :
    links (ids ++ [id]) = links ids ++ (ids.getLast?.map (EvidenceSupersession.mk id)).toList := by
  induction ids with
  | nil => rfl
  | cons older rest ih =>
    cases rest with
    | nil => rfl
    | cons newer more =>
      rw [List.getLast?_cons_cons, links]
      exact congrArg (List.cons _) ih

/-- All but the last are superseded. -/
theorem olds_links (ids : List String) :
    (links ids).map EvidenceSupersession.oldClaimId = ids.dropLast := by
  induction ids with
  | nil => rfl
  | cons older rest ih =>
    cases rest with
    | nil => rfl
    | cons newer more =>
      rw [links, List.map_cons, ih]
      rfl

/-- The last of a list without duplicates is no other member of it. -/
theorem filter_not_mem_dropLast {l : List EvidenceClaim} (h : (l.map EvidenceClaim.id).Nodup) :
    (l.filter fun claim ↦ claim.id ∉ (l.map EvidenceClaim.id).dropLast) = l.getLast?.toList := by
  rcases List.eq_nil_or_concat l with rfl | ⟨init, last, rfl⟩
  · rfl
  rw [List.concat_eq_append, List.map_append, List.map_singleton] at *
  rw [List.dropLast_concat, List.getLast?_concat, List.filter_append]
  have hinit : (init.filter fun claim ↦ claim.id ∉ init.map EvidenceClaim.id) = [] := by
    rw [List.filter_eq_nil_iff]
    intro claim hclaim
    simp only [decide_eq_true_eq, not_not]
    exact List.mem_map_of_mem hclaim
  have hlast : last.id ∉ init.map EvidenceClaim.id := fun hmem ↦
    (List.nodup_append.mp h).2.2 _ hmem _ (List.mem_singleton_self _) rfl
  rw [hinit, List.nil_append, Option.toList_some, List.filter_eq_self]
  intro claim hclaim
  rw [List.mem_singleton.mp hclaim]
  exact decide_eq_true hlast

/-! ### Chained places -/

section

variable {profile : Profile} {db after : EvidenceDb} {place : Place}

/-- The supersessions among the revisions at a place link each to the one before it. -/
def Chained (db : EvidenceDb) (place : Place) : Prop :=
  (db.supersessions.filter fun edge ↦ edge.newClaimId ∈ db.revisionIds place) =
    links (db.revisionIds place)

instance (db : EvidenceDb) (place : Place) : Decidable (Chained db place) :=
  inferInstanceAs (Decidable (_ = _))

theorem chained_empty : Chained .empty place := rfl

/-- The ends of a supersession stand at one place. -/
theorem EvidenceInvariant.mem_revisionIds_iff (h : EvidenceInvariant profile db)
    {edge : EvidenceSupersession} (hedge : edge ∈ db.supersessions) :
    edge.newClaimId ∈ db.revisionIds place ↔ edge.oldClaimId ∈ db.revisionIds place := by
  obtain ⟨newer, hnewer, older, holder, hnewId, holdId, hkind, hscope, hkey, -⟩ := h.edges edge hedge
  have hsame : newer.place = older.place := by simp only [EvidenceClaim.place, hkind, hscope, hkey]
  rw [← hnewId, ← holdId, mem_revisionIds, mem_revisionIds]
  constructor
  · rintro ⟨claim, hclaim, hplace, hid⟩
    rw [h.eq_of_id hclaim hnewer hid] at hplace
    exact ⟨older, holder, hsame ▸ hplace, rfl⟩
  · rintro ⟨claim, hclaim, hplace, hid⟩
    rw [h.eq_of_id hclaim holder hid] at hplace
    exact ⟨newer, hnewer, hsame ▸ hplace, rfl⟩

/-- A revision is active when it is not followed by another. -/
theorem Chained.active_iff (h : EvidenceInvariant profile db) (hchained : Chained db place)
    {id : String} (hid : id ∈ db.revisionIds place) :
    db.Active id ↔ id ∉ (db.revisionIds place).dropLast := by
  rw [← olds_links, ← hchained, List.mem_map, EvidenceDb.Active]
  constructor
  · rintro hactive ⟨edge, hedge, hold⟩
    exact hactive edge (List.mem_filter.mp hedge).1 hold
  · intro hnone edge hedge hold
    refine hnone ⟨edge, List.mem_filter.mpr ⟨hedge, decide_eq_true ?_⟩, hold⟩
    rw [h.mem_revisionIds_iff hedge, hold]
    exact hid

/-- One revision is active: the last. -/
theorem Chained.filter_active (h : EvidenceInvariant profile db) (hchained : Chained db place) :
    ((db.revisionsOf place).filter fun claim ↦ db.Active claim.id) =
      (db.revisionsOf place).getLast?.toList := by
  rw [← filter_not_mem_dropLast (h.nodup_revisionIds place)]
  refine List.filter_congr fun claim hclaim ↦ ?_
  exact decide_eq_decide.mpr (hchained.active_iff h (List.mem_map_of_mem hclaim))

/-- `active_claims` returns the last revision alone. -/
theorem Chained.activeClaims (h : EvidenceInvariant profile db) (hchained : Chained db place)
    (hkey : strip place.key = place.key) (hne : place.key ≠ "")
    (hscope : InProfile profile place.kind place.scopeId) :
    activeClaims profile place.kind place.scopeId place.key db =
      .ok (db.revisionsOf place).getLast?.toList := by
  have hfilter : (db.claims.filter fun claim ↦ claim.scopeKind = place.kind ∧
      claim.scopeId = place.scopeId ∧ db.Active claim.id ∧ claim.key = place.key) =
        (db.revisionsOf place).filter fun claim ↦ db.Active claim.id := by
    rw [EvidenceDb.revisionsOf, historyOf, List.filter_filter]
    refine List.filter_congr fun claim _ ↦ ?_
    rw [← Bool.decide_and, decide_eq_decide, EvidenceClaim.place_eq]
    tauto
  rw [Evidence.activeClaims, hkey, ← hchained.filter_active h, ← hfilter]
  simp only [validateScope, bind_eq_ok, require_eq_ok]
  exact ⟨⟨⟩, hne, ⟨⟩, hscope, trivial⟩

/-! ### Commits -/

section

variable {row : EvidenceClaim} {oldIds : List String}

theorem ClaimCommitted.revisionsOf_self (h : ClaimCommitted row oldIds db after) :
    after.revisionsOf row.place = db.revisionsOf row.place ++ [row] := by
  rw [EvidenceDb.revisionsOf, h.claims, historyOf_concat_self]
  rfl

theorem ClaimCommitted.revisionsOf_of_ne (h : ClaimCommitted row oldIds db after)
    (hplace : row.place ≠ place) : after.revisionsOf place = db.revisionsOf place := by
  rw [EvidenceDb.revisionsOf, h.claims, historyOf_concat_of_ne hplace]
  rfl

/-- An old supersession is none of the new claim. -/
theorem ClaimCommitted.newClaimId_ne (h : ClaimCommitted row oldIds db after)
    (hinvariant : EvidenceInvariant profile db) {edge : EvidenceSupersession}
    (hedge : edge ∈ db.supersessions) : edge.newClaimId ≠ row.id := by
  obtain ⟨newer, hnewer, -, -, hnewId, -⟩ := hinvariant.edges edge hedge
  rw [← hnewId]
  exact h.fresh newer hnewer

/-- A place stays chained when the new claim supersedes the last revision. -/
theorem Chained.commit (hchained : Chained db row.place) (hinvariant : EvidenceInvariant profile db)
    (h : ClaimCommitted row oldIds db after)
    (hlast : oldIds = (db.revisionIds row.place).getLast?.toList) : Chained after row.place := by
  have hids : after.revisionIds row.place = db.revisionIds row.place ++ [row.id] := by
    rw [EvidenceDb.revisionIds, h.revisionsOf_self, List.map_append, List.map_singleton]
    rfl
  have hold : (db.supersessions.filter fun edge ↦
      edge.newClaimId ∈ db.revisionIds row.place ++ [row.id]) =
        db.supersessions.filter fun edge ↦ edge.newClaimId ∈ db.revisionIds row.place := by
    refine List.filter_congr fun edge hedge ↦ decide_eq_decide.mpr ?_
    rw [List.mem_append, List.mem_singleton]
    exact or_iff_left (h.newClaimId_ne hinvariant hedge)
  have hnew : ((oldIds.map (EvidenceSupersession.mk row.id)).filter fun edge ↦
      edge.newClaimId ∈ db.revisionIds row.place ++ [row.id]) =
        oldIds.map (EvidenceSupersession.mk row.id) := by
    rw [List.filter_eq_self]
    intro edge hedge
    obtain ⟨oldId, -, rfl⟩ := List.mem_map.mp hedge
    exact decide_eq_true (List.mem_append_right _ (List.mem_singleton_self _))
  rw [Chained, h.supersessions, hids, List.filter_append, hold, hnew, hchained, links_concat, hlast,
    Option.toList_map]

/-- Other places are not touched. -/
theorem Chained.commit_of_ne (hchained : Chained db place)
    (h : ClaimCommitted row oldIds db after) (hplace : row.place ≠ place) : Chained after place := by
  have hids : after.revisionIds place = db.revisionIds place := by
    rw [EvidenceDb.revisionIds, h.revisionsOf_of_ne hplace]
    rfl
  have hnew : ((oldIds.map (EvidenceSupersession.mk row.id)).filter fun edge ↦
      edge.newClaimId ∈ db.revisionIds place) = [] := by
    rw [List.filter_eq_nil_iff]
    intro edge hedge hmem
    obtain ⟨oldId, -, rfl⟩ := List.mem_map.mp hedge
    obtain ⟨claim, hclaim, -, hid⟩ := mem_revisionIds.mp (of_decide_eq_true hmem)
    exact h.fresh claim hclaim hid
  rw [Chained, h.supersessions, hids, List.filter_append, hnew, List.append_nil, hchained]

end

end

/-! ### The call -/

section

variable {σ : Type} {host : EvidenceHost σ} {profile : Profile} {invariant : σ → Prop}
  {commits : σ → σ → Prop}

/-- The checks of `record_claim` pass when the superseded claims are among the active ones. -/
theorem keepsUnder_checkSuperseded {relyRead relyWrite : σ → σ → Prop} (row : EvidenceClaim)
    (active : List EvidenceClaim) (oldIds : List String) (committed : Bool) (s : σ) :
    KeepsUnder invariant commits relyRead relyWrite
      (fun c r t ↦ c = committed ∧ Relation.ReflTransGen (Allowed commits relyRead committed) s t ∧
        ∀ u, r = .ok u → ∀ oldId ∈ oldIds, oldId ∈ active.map EvidenceClaim.id) committed
      (checkSuperseded host row active oldIds) s := by
  induction oldIds generalizing s with
  | nil => exact keepsUnder_pure ⟨rfl, .refl, fun _ _ ↦ List.forall_mem_nil _⟩
  | cons oldId rest ih =>
    refine keepsUnder_select fun t ht _ ↦ ?_
    refine keepsUnder_fromExcept (fun e _ ↦ ⟨rfl, ht, fun _ hr ↦ by cases hr⟩) fun _ hcheck ↦ ?_
    simp only [bind_eq_ok, require_eq_ok] at hcheck
    obtain ⟨-, -, -, -, hmem⟩ := hcheck
    refine (ih t).mono fun c r u hpost ↦ ?_
    obtain ⟨hcommitted, hreached, hrest⟩ := hpost
    exact ⟨hcommitted, ht.trans hreached, fun v hv ↦ List.forall_mem_cons.mpr ⟨hmem, hrest v hv⟩⟩

/-- What `record_claim` promises, on the states that the others may reach until it commits. What it
supersedes was active when it was read. -/
theorem keepsUnder_recordSuperseding {rely : σ → σ → Prop}
    {post : Bool → Except (Raised LineageErrorClass) EvidenceClaim → σ → Prop} {s : σ} {uuid : Uuid}
    {input : ClaimInput} (hraised : ∀ c e t, post c (.error e) t)
    (hcommit : ∀ row active a t u, normalizeClaim profile (newId "claim" uuid) input = .ok row →
      Relation.ReflTransGen (Allowed commits rely false) s a → invariant a →
      activeClaims profile row.scopeKind row.scopeId row.key (host.evidence a) = .ok active →
      (∀ oldId ∈ input.supersedes.eraseDups, oldId ∈ active.map EvidenceClaim.id) →
      Relation.ReflTransGen (Allowed commits rely false) a t → invariant t →
      commitClaim host row input.supersedes.eraseDups t = .ok u → commits t u ∧ invariant u ∧
        ∀ r v, Relation.ReflTransGen commits u v → invariant v →
          r = orRaise ((host.evidence v).getClaim row.id) ⟨.assertionError, ""⟩ → post true r v) :
    KeepsUnder invariant commits rely rely post false (recordClaim profile host uuid input) s := by
  refine keepsUnder_fromExcept (fun _ _ ↦ hraised _ _ _) fun row hrow ↦ ?_
  refine keepsUnder_ask (fun _ _ ↦ hraised _ _ _) fun active a ha hinvariant hactive ↦ ?_
  refine keepsUnder_bind ((keepsUnder_checkSuperseded row active _ false a).mono fun c r t hpost ↦ ?_)
  obtain ⟨rfl, ht, hmem⟩ := hpost
  cases r with
  | error e => exact hraised _ _ _
  | ok _ =>
    refine keepsUnder_transaction (fun _ _ _ _ ↦ hraised _ _ _) fun v w hv hkept hw ↦ ?_
    obtain ⟨hfirst, hnext, hlast⟩ :=
      hcommit row active a v w hrow ha hinvariant hactive (hmem _ rfl) (ht.trans hv) hkept hw
    refine ⟨hfirst, hnext, keepsUnder_select fun last hreached hinvariant ↦ ?_⟩
    have hresult := fun r ↦ hlast r last (commits_of_allowed hreached) hinvariant
    exact keepsUnder_result (fun e he ↦ hresult _ he.symm) fun a ha ↦ hresult _ ha.symm

/-- What `record_claim` promises, whatever it supersedes. -/
theorem keepsUnder_recordRevision {rely : σ → σ → Prop}
    {post : Bool → Except (Raised LineageErrorClass) EvidenceClaim → σ → Prop} {s : σ} {uuid : Uuid}
    {input : ClaimInput} (hraised : ∀ c e t, post c (.error e) t)
    (hcommit : ∀ row t u, normalizeClaim profile (newId "claim" uuid) input = .ok row →
      Relation.ReflTransGen (Allowed commits rely false) s t → invariant t →
      commitClaim host row input.supersedes.eraseDups t = .ok u → commits t u ∧ invariant u ∧
        ∀ r v, Relation.ReflTransGen commits u v → invariant v →
          r = orRaise ((host.evidence v).getClaim row.id) ⟨.assertionError, ""⟩ → post true r v) :
    KeepsUnder invariant commits rely rely post false (recordClaim profile host uuid input) s :=
  keepsUnder_recordSuperseding hraised fun row _ _ t u hrow ha _ _ _ ht hinvariant hu ↦
    hcommit row t u hrow (ha.trans ht) hinvariant hu

end

end N0te.Evidence
