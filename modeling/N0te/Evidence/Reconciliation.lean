import N0te.Evidence.EvidenceResolution
import N0te.Library.Interference

/-!
# Reconciliation of evidence

`reconcile_for_song` records a claim that supersedes all the active claims of a key at a scope. In every
run a commit adds one claim and leaves the active claims of all other places, and the resolutions found
there, as they were (`CommitsAtPlace`).

What is superseded was found active before the transaction. In the runs where nobody supersedes it
meanwhile, and nobody else commits to the place that is reconciled, no claim is superseded twice
(`SingleEvidence`) and the new claim alone is the resolution (`Reconciled.resolved`). In `racingEvents`
two calls reconcile one claim, and there is a conflict afterwards.
-/

set_option autoImplicit false
set_option relaxedAutoImplicit false

namespace N0te.Evidence

open Library Lineage People

/-! ### Calls -/

/-- A call that adds a claim. -/
inductive EvidenceOperation where
  | recordClaim (uuid : Uuid) (input : ClaimInput)
  | reconcileForSong (uuid : Uuid) (input : ReconcileInput)

/-- The statements of a call. -/
def evidenceProgram (profile : Profile) : EvidenceOperation → EvidenceCall EvidenceDb EvidenceClaim
  | .recordClaim uuid input => recordClaim profile plainHost uuid input
  | .reconcileForSong uuid input => reconcileForSong profile plainHost uuid input

def ReconcileInput.place (input : ReconcileInput) : Place :=
  ⟨input.scope.1, input.scope.2, strip input.key⟩

section

variable {profile : Profile}

/-- The row of a reconciliation. -/
theorem normalizeClaim_reconcile {input : ReconcileInput} {superseded : List EvidenceClaim}
    {id : String} {row : EvidenceClaim}
    (h : normalizeClaim profile id (input.claim superseded) = .ok row) :
    row.id = id ∧ row.place = input.place ∧ row.value = input.value.canonical := by
  simp only [normalizeClaim, canonicalValue, validateScope, bind_eq_ok, require_eq_ok, Except.ok.injEq]
    at h
  obtain ⟨_, -, _, -, kind, hkind, _, -, _, -, _, -, _, ⟨_, -, rfl⟩, rfl⟩ := h
  have hname := ScopeKind.ofName_name input.scope.1
  rw [show (input.claim superseded).scopeKind = input.scope.1.name from rfl, hname] at hkind
  cases hkind
  exact ⟨rfl, rfl, rfl⟩

/-- What `resolve_for_song` found at a scope was there when it asked. -/
theorem keepsUnder_resolveScopes {σ : Type} {host : EvidenceHost σ} {invariant : σ → Prop}
    {commits relyRead relyWrite : σ → σ → Prop} {committed : Bool} {key : String}
    (scopes : List (ScopeKind × String)) (s : σ) :
    KeepsUnder invariant commits relyRead relyWrite
      (fun c r t ↦ ∀ resolution, r = .ok resolution →
        c = committed ∧ Relation.ReflTransGen (Allowed commits relyRead committed) s t ∧
        ∀ kind scopeId, resolution.scope = some (kind, scopeId) →
          strip key ≠ "" ∧ InProfile profile kind scopeId ∧
            resolution.claims = (host.evidence t).activeAt ⟨kind, scopeId, strip key⟩) committed
      (resolveScopes profile host key scopes) s := by
  induction scopes generalizing s with
  | nil =>
    refine keepsUnder_pure fun resolution hresult ↦ ⟨rfl, .refl, fun kind scopeId hscope ↦ ?_⟩
    cases hresult
    cases hscope
  | cons scope rest ih =>
    obtain ⟨kind, scopeId⟩ := scope
    refine keepsUnder_ask (fun _ _ _ hresult ↦ by cases hresult) fun claims a ha _ hactive ↦ ?_
    by_cases hnone : claims = []
    · rw [if_pos hnone]
      refine (ih a).mono fun c r t hpost resolution hresult ↦ ?_
      obtain ⟨hcommitted, hreached, hfound⟩ := hpost resolution hresult
      exact ⟨hcommitted, ha.trans hreached, hfound⟩
    · rw [if_neg hnone]
      refine keepsUnder_pure fun resolution hresult ↦ ⟨rfl, ha, fun other otherId hscope ↦ ?_⟩
      cases hresult
      obtain ⟨hkey, hin, hclaims⟩ := activeClaims_eq_ok.mp hactive
      have hresolved : (resolutionOf key kind scopeId claims).scope = some (kind, scopeId) ∧
          (resolutionOf key kind scopeId claims).claims = claims := by
        unfold resolutionOf
        split_ifs <;> exact ⟨rfl, rfl⟩
      rw [hresolved.1] at hscope
      cases hscope
      exact ⟨hkey, hin, hresolved.2.trans hclaims.symm⟩

/-! ### What a commit changes -/

/-- A commit adds one claim, and changes active claims and resolutions at its place only. -/
def CommitsAtPlace (profile : Profile) (db after : EvidenceDb) : Prop :=
  ∃ row, after.claims = db.claims ++ [row] ∧
    (∀ place, place ≠ row.place → after.activeAt place = db.activeAt place) ∧
    ∀ songId key versionId,
      ((resolveForSong profile plainHost songId key versionId).alone after).1 =
          ((resolveForSong profile plainHost songId key versionId).alone db).1 ∨
        ∃ resolution,
          ((resolveForSong profile plainHost songId key versionId).alone after).1 = .ok resolution ∧
            resolution.scope = some (row.scopeKind, row.scopeId) ∧ strip key = row.key

def SupersedesActive (db after : EvidenceDb) : Prop :=
  ∀ edge ∈ after.supersessions, edge ∉ db.supersessions →
    db.Active edge.oldClaimId ∧ ∃ claim ∈ db.claims, claim.id = edge.oldClaimId

section

variable {db after : EvidenceDb} {row : EvidenceClaim} {oldIds : List String}

theorem ClaimCommitted.atPlace (h : ClaimCommitted row oldIds db after)
    (hinvariant : EvidenceInvariant profile after) : CommitsAtPlace profile db after := by
  have helsewhere : ∀ place, place ≠ row.place → after.activeAt place = db.activeAt place :=
    fun place hplace ↦ h.activeAt_of_ne hinvariant (Ne.symm hplace)
  refine ⟨row, h.claims, helsewhere, fun songId key versionId ↦ ?_⟩
  have hnonempty : after.activeAt row.place ≠ [] := by
    rw [h.activeAt_self hinvariant]
    exact List.append_ne_nil_of_right_ne_nil _ (List.cons_ne_nil _ _)
  rcases hscopes : resolutionScopes profile songId versionId with e | scopes
  · left
    rw [resolveForSong, hscopes]
    rfl
  · rw [resolveForSong, Call.alone_fromExcept_bind hscopes, Call.alone_fromExcept_bind hscopes]
    exact alone_resolveScopes_congr helsewhere hnonempty scopes

theorem ClaimCommitted.supersedesActive (h : ClaimCommitted row oldIds db after)
    (hactive : ∀ oldId ∈ oldIds, db.Active oldId) (hinvariant : EvidenceInvariant profile after) :
    SupersedesActive db after := by
  intro edge hedge hnew
  rw [h.supersessions] at hedge
  obtain ⟨oldId, hold, rfl⟩ := List.mem_map.mp ((List.mem_append.mp hedge).resolve_left hnew)
  obtain ⟨older, holder, hid, -, hne⟩ := h.exists_older hinvariant hold
  rw [h.claims] at holder
  have hmem := (List.mem_append.mp holder).resolve_right fun hrow ↦ hne (List.mem_singleton.mp hrow)
  exact ⟨hactive oldId hold, older, hmem, hid⟩

end

/-! ### No claim is superseded twice -/

/-- A store where no claim is superseded twice. -/
structure SingleEvidence (profile : Profile) (db : EvidenceDb) : Prop where
  evidence : EvidenceInvariant profile db
  /-- No claim is superseded twice. -/
  single : (db.supersessions.map EvidenceSupersession.oldClaimId).Nodup

section

variable {db after : EvidenceDb} {row : EvidenceClaim} {oldIds : List String}

theorem singleEvidence_empty : SingleEvidence profile .empty := ⟨evidenceInvariant_empty, List.nodup_nil⟩

theorem SingleEvidence.commit (h : SingleEvidence profile db) (hrow : NormalClaim profile row)
    (hcommitted : ClaimCommitted row oldIds db after) (hnodup : oldIds.Nodup)
    (hactive : ∀ oldId ∈ oldIds, db.Active oldId) : SingleEvidence profile after where
  evidence := h.evidence.commit hrow hcommitted
  single := by
    have hids : (oldIds.map (EvidenceSupersession.mk row.id)).map EvidenceSupersession.oldClaimId =
        oldIds := by
      rw [List.map_map]
      exact List.map_id _
    rw [hcommitted.supersessions, List.map_append, hids, List.nodup_append]
    refine ⟨h.single, hnodup, fun oldId hold other hother ↦ ?_⟩
    obtain ⟨edge, hedge, rfl⟩ := List.mem_map.mp hold
    exact hactive other hother edge hedge

end

/-! ### What a reconciliation leaves -/

/-- What a reconciliation leaves at its place: no older claim is active. -/
structure Reconciled (profile : Profile) (input : ReconcileInput) (row : EvidenceClaim)
    (db : EvidenceDb) : Prop where
  scopes : ∃ rest, resolutionScopes profile input.songId input.versionId = .ok (input.scope :: rest)
  key : strip input.key ≠ ""
  found : InProfile profile input.scope.1 input.scope.2
  /-- The new claim stands at the place. -/
  place : row.place = input.place
  /-- Its value is the one that was given. -/
  value : row.value = input.value.canonical
  recorded : row ∈ db.claims
  /-- What is active at the place is not older. -/
  later : ∀ claim ∈ db.activeAt row.place, claim = row ∨ db.sequenceOf row.id < db.sequenceOf claim.id

section

variable {db after : EvidenceDb} {row : EvidenceClaim} {input : ReconcileInput}

/-- A claim that was added is newer than one that was there. -/
theorem Grows.sequenceOf_lt (h : Grows db after) (hinvariant : EvidenceInvariant profile after)
    {claim : EvidenceClaim} (hrow : row ∈ db.claims) (hclaim : claim ∈ after.claims)
    (hnew : claim ∉ db.claims) : after.sequenceOf row.id < after.sequenceOf claim.id := by
  have hbefore : db.sequenceOf row.id < db.claims.length :=
    List.findIdx_lt_length_of_exists ⟨row, hrow, decide_eq_true rfl⟩
  rw [h.sequenceOf hrow]
  refine lt_of_lt_of_le hbefore ?_
  obtain ⟨more, hmore⟩ := h.claims
  have hnone : ¬ db.claims.findIdx (fun other ↦ other.id = claim.id) < db.claims.length := by
    rw [List.findIdx_lt_length]
    rintro ⟨other, hother, hid⟩
    have hsame := hinvariant.eq_of_id (h.mem hother) hclaim (of_decide_eq_true hid)
    exact hnew (hsame ▸ hother)
  rw [EvidenceDb.sequenceOf, ← hmore, List.findIdx_append, if_neg hnone]
  exact Nat.le_add_left _ _

/-- It stays so when the store grows. -/
theorem Reconciled.mono (h : Reconciled profile input row db) (hgrows : Grows db after)
    (hinvariant : EvidenceInvariant profile after) : Reconciled profile input row after where
  scopes := h.scopes
  key := h.key
  found := h.found
  place := h.place
  value := h.value
  recorded := hgrows.mem h.recorded
  later claim hclaim := by
    obtain ⟨hmem, hplace, hactive⟩ := mem_activeAt.mp hclaim
    by_cases hold : claim ∈ db.claims
    · refine (h.later claim (mem_activeAt.mpr ⟨hold, hplace, hgrows.active hactive⟩)).imp_right ?_
      rw [hgrows.sequenceOf h.recorded, hgrows.sequenceOf hold]
      exact id
    · exact .inr (hgrows.sequenceOf_lt hinvariant h.recorded hmem hold)

/-- The claims are in the order of their positions. -/
theorem EvidenceInvariant.pairwise_sequenceOf (h : EvidenceInvariant profile db) :
    db.claims.Pairwise fun older newer ↦ db.sequenceOf older.id < db.sequenceOf newer.id := by
  have hposition : ∀ (i : ℕ) (hi : i < db.claims.length), db.sequenceOf db.claims[i].id = i := by
    intro i hi
    rw [EvidenceDb.sequenceOf, List.findIdx_eq hi]
    refine ⟨decide_eq_true rfl, fun j hj ↦ decide_eq_false fun hid ↦ ?_⟩
    have hsame := h.eq_of_id (List.getElem_mem (hj.trans hi)) (List.getElem_mem hi) hid
    exact hj.ne ((List.Nodup.getElem_inj_iff (List.Nodup.of_map _ h.ids)).mp hsame)
  rw [List.pairwise_iff_getElem]
  intro i j hi hj hij
  rwa [hposition i hi, hposition j hj]

/-- The new claim alone is active while no claim of the place is newer. -/
theorem Reconciled.activeAt_eq (h : Reconciled profile input row db)
    (hinvariant : EvidenceInvariant profile db)
    (hlast : (db.revisionsOf row.place).getLast? = some row) : db.activeAt row.place = [row] := by
  obtain ⟨init, hrevisions⟩ := List.getLast?_eq_some_iff.mp hlast
  have hordered := hinvariant.pairwise_sequenceOf.filter fun claim ↦ claim.place = row.place
  rw [show db.claims.filter (fun claim ↦ claim.place = row.place) = init ++ [row] from hrevisions,
    List.pairwise_append] at hordered
  have hearlier : ∀ claim ∈ init, db.sequenceOf claim.id < db.sequenceOf row.id := fun claim hclaim ↦
    hordered.2.2 claim hclaim row (List.mem_singleton_self _)
  have hrow : db.Active row.id := by
    intro edge hedge hold
    obtain ⟨newer, hnewer, older, holder, -, hid, hkind, hscope, hkey, hlt⟩ :=
      hinvariant.edges edge hedge
    have hsame : older = row := hinvariant.eq_of_id holder h.recorded (hid.trans hold)
    rw [hsame] at hkind hscope hkey hlt
    have hmem : newer ∈ db.revisionsOf row.place :=
      mem_revisionsOf.mpr ⟨hnewer, EvidenceClaim.place_eq.mpr ⟨hkind, hscope, hkey⟩⟩
    rw [hrevisions] at hmem
    rcases List.mem_append.mp hmem with hinit | hself
    · exact lt_asymm hlt (hearlier newer hinit)
    · rw [List.mem_singleton.mp hself] at hlt
      exact lt_irrefl _ hlt
  have hinit : (init.filter fun claim ↦ db.Active claim.id) = [] := by
    rw [List.filter_eq_nil_iff]
    intro claim hclaim hactive
    have hmem : claim ∈ db.revisionsOf row.place := hrevisions ▸ List.mem_append_left _ hclaim
    have hat : claim ∈ db.activeAt row.place := List.mem_filter.mpr ⟨hmem, hactive⟩
    have hlt := hearlier claim hclaim
    rcases h.later claim hat with rfl | hnewer
    · exact lt_irrefl _ hlt
    · exact lt_asymm hlt hnewer
  rw [EvidenceDb.activeAt, hrevisions, List.filter_append, hinit, List.nil_append,
    List.filter_singleton, decide_eq_true hrow]
  rfl

/-- The new claim alone is the resolution while no claim of the place is newer. -/
theorem Reconciled.resolved (h : Reconciled profile input row db)
    (hinvariant : EvidenceInvariant profile db)
    (hlast : (db.revisionsOf row.place).getLast? = some row) :
    ((resolveForSong profile plainHost input.songId input.key input.versionId).alone db).1 =
      .ok ⟨.resolved, input.key, some input.scope, some row.value, [row]⟩ := by
  obtain ⟨rest, hscopes⟩ := h.scopes
  have hactive := h.activeAt_eq hinvariant hlast
  rw [h.place] at hactive
  exact alone_resolveForSong_of_first hscopes h.key h.found hactive

end

/-! ### Guarantees of a call -/

/-- What the call relies on while it has not committed: nobody supersedes what it is to supersede, and
nobody changes the active claims of the place that it reconciles. -/
def ReliesOn : EvidenceOperation → EvidenceDb → EvidenceDb → Prop
  | .recordClaim _ input, db, after => ∀ oldId ∈ input.supersedes, db.Active oldId → after.Active oldId
  | .reconcileForSong _ input, db, after => after.activeAt input.place = db.activeAt input.place

/-- What a call answers. -/
def AnswersEvidence (profile : Profile) (operation : EvidenceOperation) (row : EvidenceClaim)
    (db : EvidenceDb) : Prop :=
  match operation with
  | .recordClaim _ _ => True
  | .reconcileForSong _ input => Reconciled profile input row db

section

variable {invariant : EvidenceDb → Prop} {commits rely : EvidenceDb → EvidenceDb → Prop}
  {post : Bool → Except (Raised LineageErrorClass) EvidenceClaim → EvidenceDb → Prop} {s : EvidenceDb}

/-- What `reconcile_for_song` promises, by what `record_claim` does with what it found. -/
theorem keepsUnder_reconcileForSong {uuid : Uuid} {input : ReconcileInput}
    (hraised : ∀ c e t, post c (.error e) t)
    (hrecord : ∀ t rest,
      resolutionScopes profile input.songId input.versionId = .ok (input.scope :: rest) →
      strip input.key ≠ "" → InProfile profile input.scope.1 input.scope.2 →
      Relation.ReflTransGen (Allowed commits rely false) s t →
      KeepsUnder invariant commits rely rely post false
        (recordClaim profile plainHost uuid (input.claim (t.activeAt input.place))) t) :
    KeepsUnder invariant commits rely rely post false (reconcileForSong profile plainHost uuid input)
      s := by
  unfold reconcileForSong resolveForSong
  rcases hscopes : resolutionScopes profile input.songId input.versionId with e | scopes
  · exact keepsUnder_bind (keepsUnder_fromExcept (fun _ _ ↦ hraised _ _ _) fun _ hnone ↦ by cases hnone)
  obtain ⟨rest, rfl⟩ := resolutionScopes_eq_ok hscopes
  refine keepsUnder_bind (keepsUnder_fromExcept (fun _ hnone ↦ by cases hnone) fun _ hsame ↦ ?_)
  cases hsame
  refine (keepsUnder_resolveScopes _ s).mono fun c r t hfound ↦ ?_
  cases r with
  | error e => exact hraised _ _ _
  | ok resolution =>
    obtain ⟨rfl, hreached, hclaims⟩ := hfound resolution rfl
    refine keepsUnder_fromExcept (fun _ _ ↦ hraised _ _ _) fun _ _ ↦ ?_
    refine keepsUnder_fromExcept (fun _ _ ↦ hraised _ _ _) fun _ htarget ↦ ?_
    obtain ⟨hkey, hin, hactive⟩ := hclaims input.scope.1 input.scope.2 (require_eq_ok.mp htarget)
    rw [hactive]
    exact hrecord t rest hscopes hkey hin hreached

end

variable (profile) in
/-- A call whatever the others commit. -/
theorem keepsUnder_evidenceProgram (operation : EvidenceOperation) (s : EvidenceDb) :
    KeepsUnder (EvidenceInvariant profile)
      (fun db after ↦ Grows db after ∧ CommitsAtPlace profile db after) (fun _ _ ↦ True)
      (fun _ _ ↦ True) (fun _ _ _ ↦ True) false (evidenceProgram profile operation) s := by
  have hrecord : ∀ uuid input (t : EvidenceDb), KeepsUnder (EvidenceInvariant profile)
      (fun db after ↦ Grows db after ∧ CommitsAtPlace profile db after) (fun _ _ ↦ True)
      (fun _ _ ↦ True) (fun _ _ _ ↦ True) false (recordClaim profile plainHost uuid input) t := by
    intro uuid input t
    refine keepsUnder_recordRevision (fun _ _ _ ↦ trivial) fun row a u hrow _ hinvariant hu ↦ ?_
    have hcommitted : ClaimCommitted row input.supersedes.eraseDups a u := commitClaim_plainHost hu
    have hafter := hinvariant.commit (normalizeClaim_spec hrow) hcommitted
    exact ⟨⟨hcommitted.grows, hcommitted.atPlace hafter⟩, hafter, fun _ _ _ _ _ ↦ trivial⟩
  cases operation with
  | recordClaim uuid input => exact hrecord uuid input s
  | reconcileForSong uuid input =>
    exact keepsUnder_reconcileForSong (fun _ _ _ ↦ trivial) fun t _ _ _ _ _ ↦ hrecord uuid _ t

/-- A claim that `record_claim` supersedes was active when it looked, and is when it commits. -/
theorem keepsUnder_recordActive {rely : EvidenceDb → EvidenceDb → Prop} {uuid : Uuid}
    {input : ClaimInput} {s : EvidenceDb} {answers : EvidenceClaim → EvidenceDb → Prop}
    (hrely : ∀ a t, Relation.ReflTransGen (Allowed
        (fun db after ↦ Grows db after ∧ SupersedesActive db after) rely false) s a →
      Relation.ReflTransGen (Allowed
        (fun db after ↦ Grows db after ∧ SupersedesActive db after) rely false) a t →
      ∀ oldId ∈ input.supersedes, a.Active oldId → t.Active oldId)
    (hanswers : ∀ row t u v, normalizeClaim profile (newId "claim" uuid) input = .ok row →
      Relation.ReflTransGen (Allowed
        (fun db after ↦ Grows db after ∧ SupersedesActive db after) rely false) s t →
      ClaimCommitted row input.supersedes.eraseDups t u → EvidenceInvariant profile u →
      Grows u v → EvidenceInvariant profile v → answers row v) :
    KeepsUnder (SingleEvidence profile)
      (fun db after ↦ Grows db after ∧ SupersedesActive db after) rely rely
      (fun _ result t ↦ ∀ row, result = .ok row → answers row t) false
      (recordClaim profile plainHost uuid input) s := by
  refine keepsUnder_recordSuperseding (fun _ _ _ _ hnone ↦ by cases hnone) ?_
  intro row active a t u hrow ha hsingle hactive hfound ht hbefore hu
  have hcommitted : ClaimCommitted row input.supersedes.eraseDups t u := commitClaim_plainHost hu
  have hsuperseded : ∀ oldId ∈ input.supersedes.eraseDups, t.Active oldId := by
    intro oldId hold
    obtain ⟨claim, hclaim, rfl⟩ := List.mem_map.mp (hfound oldId hold)
    rw [← (activeClaims_eq_ok.mp hactive).2.2] at hclaim
    exact hrely a t ha ht _ (List.mem_eraseDups.mp hold) (mem_activeAt.mp hclaim).2.2
  have hafter := hbefore.commit (normalizeClaim_spec hrow) hcommitted (nodup_eraseDups _) hsuperseded
  refine ⟨⟨hcommitted.grows, hcommitted.supersedesActive hsuperseded hafter.evidence⟩, hafter, ?_⟩
  intro r v hreached hlast hr other hother
  have hgrows : Grows u v := grows_of_commits (fun _ _ hcommit ↦ hcommit.1) hreached
  have hmem : row ∈ v.claims := hgrows.mem (by
    rw [hcommitted.claims]
    exact List.mem_append_right _ (List.mem_singleton_self _))
  have hread : (plainHost.evidence v).getClaim row.id = some row := hlast.evidence.getClaim hmem
  rw [hr, hread] at hother
  cases hother
  exact hanswers row t u v hrow (ha.trans ht) hcommitted hafter.evidence hgrows hlast.evidence

variable (profile) in
/-- A call that is not disturbed. -/
theorem single_evidenceProgram (operation : EvidenceOperation) (s : EvidenceDb) :
    KeepsUnder (SingleEvidence profile)
      (fun db after ↦ Grows db after ∧ SupersedesActive db after) (ReliesOn operation)
      (ReliesOn operation) (fun _ result t ↦ ∀ row, result = .ok row →
        AnswersEvidence profile operation row t) false (evidenceProgram profile operation) s := by
  cases operation with
  | recordClaim uuid input =>
    refine keepsUnder_recordActive (fun a t _ ht ↦ ?_) fun _ _ _ _ _ _ _ _ _ _ ↦ trivial
    have hkept := kept_of_allowed (fun u ↦ ∀ oldId ∈ input.supersedes, a.Active oldId → u.Active oldId)
      (fun u v huv hu oldId hold hactive ↦ huv oldId hold (hu oldId hold hactive)) ht
    exact hkept fun _ _ hactive ↦ hactive
  | reconcileForSong uuid input =>
    refine keepsUnder_reconcileForSong (fun _ _ _ _ hnone ↦ by cases hnone) ?_
    intro t rest hscopes hkey hin _
    have hkept : ∀ {a b : EvidenceDb}, Relation.ReflTransGen (Allowed
        (fun db after ↦ Grows db after ∧ SupersedesActive db after)
        (ReliesOn (.reconcileForSong uuid input)) false) a b →
        b.activeAt input.place = a.activeAt input.place := fun {a b} hab ↦
      kept_of_allowed (fun u : EvidenceDb ↦ u.activeAt input.place = a.activeAt input.place)
        (fun _ _ hnext hu ↦ Eq.trans hnext hu) hab rfl
    refine keepsUnder_recordActive (fun a b hta hab oldId hold _ ↦ ?_) ?_
    · obtain ⟨claim, hclaim, rfl⟩ := List.mem_map.mp hold
      rw [← hkept (hta.trans hab)] at hclaim
      exact (mem_activeAt.mp hclaim).2.2
    · intro row a u v hrow hta hcommitted hafter hgrows hlast
      obtain ⟨-, hplace, hvalue⟩ := normalizeClaim_reconcile hrow
      refine Reconciled.mono ⟨⟨rest, hscopes⟩, hkey, hin, hplace, hvalue, ?_, ?_⟩ hgrows hlast
      · rw [hcommitted.claims]
        exact List.mem_append_right _ (List.mem_singleton_self _)
      · intro claim hclaim
        left
        rw [hcommitted.activeAt_self hafter, hplace, hkept hta] at hclaim
        rcases List.mem_append.mp hclaim with hold | hself
        · have hfresh := of_decide_eq_true (List.mem_filter.mp hold).2
          have hsuperseded := List.mem_map_of_mem (f := EvidenceClaim.id) (List.mem_filter.mp hold).1
          exact absurd (List.mem_eraseDups.mpr hsuperseded) hfresh
        · exact List.mem_singleton.mp hself

end

/-! ### Runs -/

/-- Connections to a store of evidence, and their calls. -/
abbrev EvidenceWorld : Type :=
  Labelled EvidenceOperation EvidenceDb (Raised LineageErrorClass) EvidenceClaim

/-- Something that happens to them. -/
abbrev EvidenceOccurrence : Type := SharedEvent EvidenceOperation (Raised LineageErrorClass)

/-- A new store. -/
def newEvidence : EvidenceWorld := ⟨⟨.empty, []⟩, []⟩

section

variable (profile : Profile)

/-- What happens next. -/
def stepEvidence : EvidenceWorld → EvidenceOccurrence → Option EvidenceWorld :=
  stepLabelled (evidenceProgram profile)

/-- What is committed next adds one claim and changes nothing elsewhere. -/
def CommitsNext (w : EvidenceWorld) (event : EvidenceOccurrence) : Prop :=
  ∀ w', stepEvidence profile w event = some w' → w'.shared.store = w.shared.store ∨
    Grows w.shared.store w'.shared.store ∧ CommitsAtPlace profile w.shared.store w'.shared.store

/-- What is superseded next was active. -/
def SupersedesNext (w : EvidenceWorld) (event : EvidenceOccurrence) : Prop :=
  ∀ w', stepEvidence profile w event = some w' → SupersedesActive w.shared.store w'.shared.store

/-- What a reconciliation that has returned left: a claim that supersedes whatever was active at its
place, and that alone is the resolution while no claim of the place is newer. -/
def ResolvesReconciled (input : ReconcileInput) (row : EvidenceClaim) (db : EvidenceDb) : Prop :=
  row ∈ db.claims ∧ row.place = input.place ∧ row.value = input.value.canonical ∧
    ((db.revisionsOf input.place).getLast? = some row →
      ((resolveForSong profile plainHost input.songId input.key input.versionId).alone db).1 =
        .ok ⟨.resolved, input.key, some input.scope, some row.value, [row]⟩)

end

/-- In every run of calls on a new store, whatever their interleaving, the supersessions are acyclic, every
claim is kept and a commit changes the resolutions at its own place only. In every such run where nobody
commits what a waiting call relies on, no claim is superseded twice, what is superseded was active, and
a reconciled key is resolved with the new claim alone. -/
theorem evidence_reconciliation {profile : Profile} {events : List EvidenceOccurrence}
    {w : EvidenceWorld} (hrun : runEvents (stepEvidence profile) newEvidence events = some w) :
    (∀ id, ¬ Relation.TransGen (fun newId oldId ↦ ⟨newId, oldId⟩ ∈ w.shared.store.supersessions) id id) ∧
    EveryStep (stepEvidence profile) (CommitsNext profile) newEvidence events ∧
    (EveryStep (stepEvidence profile) (Undisturbed ReliesOn ReliesOn (evidenceProgram profile))
        newEvidence events →
      (w.shared.store.supersessions.map EvidenceSupersession.oldClaimId).Nodup ∧
      EveryStep (stepEvidence profile) (SupersedesNext profile) newEvidence events ∧
      ∀ (j : ℕ) uuid input row, w.operations[j]? = some (.reconcileForSong uuid input) →
        w.returned j = some row → ResolvesReconciled profile input row w.shared.store) := by
  have hprogram := fun operation (s : EvidenceDb) (_ : EvidenceInvariant profile s) ↦
    keepsUnder_evidenceProgram profile operation s
  have hsingle := fun operation (s : EvidenceDb) (_ : SingleEvidence profile s) ↦
    single_evidenceProgram profile operation s
  have hfree := everyStep_undisturbed (evidenceProgram profile) newEvidence events
  have hnew : newEvidence.KeptUnder (fun _ _ _ ↦ True) (fun _ _ _ ↦ True) (EvidenceInvariant profile)
      (fun db after ↦ Grows db after ∧ CommitsAtPlace profile db after) (fun _ _ _ _ ↦ True) :=
    keptUnder_new evidenceInvariant_empty
  obtain ⟨-, hkept⟩ := keptUnder_of_run hprogram hnew hfree hrun
  refine ⟨hkept.store.acyclic, ?_, fun hundisturbed ↦ ?_⟩
  · refine (everyStep_commits hprogram hnew hfree).mono fun w event hcommits w' hstep ↦ ?_
    exact (Relation.reflGen_iff _ _ _).mp (hcommits w' hstep)
  have hfirst : newEvidence.KeptUnder ReliesOn ReliesOn (SingleEvidence profile)
      (fun db after ↦ Grows db after ∧ SupersedesActive db after)
      (fun operation _ result t ↦ ∀ row, result = .ok row → AnswersEvidence profile operation row t) :=
    keptUnder_new singleEvidence_empty
  obtain ⟨-, hlast⟩ := keptUnder_of_run hsingle hfirst hundisturbed hrun
  refine ⟨hlast.store.single, ?_, fun j uuid input row hoperation hreturned ↦ ?_⟩
  · refine (everyStep_commits hsingle hfirst hundisturbed).mono fun w event hcommits w' hstep ↦ ?_
    rcases (Relation.reflGen_iff _ _ _).mp (hcommits w' hstep) with hsame | hcommit
    · rw [hsame]
      exact fun edge hedge hnew ↦ absurd hedge hnew
    · exact hcommit.2
  · obtain ⟨s, _, hreached, hanswered⟩ := hlast.returned hoperation hreturned
    have hgrows := grows_of_commits (fun _ _ hcommit ↦ hcommit.1) hreached
    have hreconciled : Reconciled profile input row w.shared.store :=
      (hanswered row rfl).mono hgrows hlast.store.evidence
    refine ⟨hreconciled.recorded, hreconciled.place, hreconciled.value, fun hnewest ↦ ?_⟩
    rw [← hreconciled.place] at hnewest
    exact hreconciled.resolved hlast.store.evidence hnewest

/-! ### Two runs -/

/-- A profile with one song. -/
def evidenceProfile : Profile where
  profileId := newId "prf" (uuidEnding 0)
  primaryArtistId := newId "art" (uuidEnding 1)
  songs := [⟨newId "song" (uuidEnding 2), newId "art" (uuidEnding 1), "song", none, none⟩]
  people := []
  versions := []
  songs_created := Profile.ofSong.songs_created
  people_created := Profile.ofSong.people_created
  versions_created := Profile.ofSong.versions_created
  version_ids := List.nodup_nil

/-- A claim about the song. -/
def sampleClaim : ClaimInput :=
  ⟨"SONG", newId "song" (uuidEnding 2), "tempo", .str "slow", "OBSERVED", none, 1, "CREATIVE", []⟩

/-- A reconciliation of what is claimed. -/
def sampleReconciliation (value : String) : ReconcileInput :=
  ⟨newId "song" (uuidEnding 2), "tempo", .str value, "USER_DECLARED", none, 1, "CREATIVE", none⟩

/-- A claim is recorded, then reconciled. -/
def reconciledEvents : List EvidenceOccurrence :=
  .start (.recordClaim (uuidEnding 3) sampleClaim) :: List.replicate 3 (.advance 0) ++
    .start (.reconcileForSong (uuidEnding 4) (sampleReconciliation "fast")) ::
      List.replicate 5 (.advance 1)

/-- A claim is recorded, and two calls find it active before they reconcile it. -/
def racingEvents : List EvidenceOccurrence :=
  .start (.recordClaim (uuidEnding 3) sampleClaim) :: List.replicate 3 (.advance 0) ++
    [.start (.reconcileForSong (uuidEnding 4) (sampleReconciliation "fast")),
      .start (.reconcileForSong (uuidEnding 5) (sampleReconciliation "free"))] ++
    List.replicate 3 (.advance 1) ++ List.replicate 5 (.advance 2) ++ List.replicate 2 (.advance 1)

/-- Two calls reconcile one claim: it is superseded twice, and the key is in conflict. -/
theorem racing_reconciliation : ∃ w,
    runEvents (stepEvidence evidenceProfile) newEvidence racingEvents = some w ∧
    (w.returned 1).isSome = true ∧ (w.returned 2).isSome = true ∧
    ¬ (w.shared.store.supersessions.map EvidenceSupersession.oldClaimId).Nodup ∧
    (((resolveForSong evidenceProfile plainHost (newId "song" (uuidEnding 2)) "tempo" none).alone
      w.shared.store).1.map EvidenceResolution.status) = .ok .conflict := by
  have hruns : (runEvents (stepEvidence evidenceProfile) newEvidence racingEvents).map (fun w ↦
      decide ((w.returned 1).isSome = true ∧ (w.returned 2).isSome = true ∧
        ¬ (w.shared.store.supersessions.map EvidenceSupersession.oldClaimId).Nodup ∧
        (((resolveForSong evidenceProfile plainHost (newId "song" (uuidEnding 2)) "tempo" none).alone
          w.shared.store).1.map EvidenceResolution.status).toOption = some .conflict)) = some true := by
    decide +kernel
  obtain ⟨w, hrun, hstate⟩ := Option.map_eq_some_iff.mp hruns
  obtain ⟨hfirst, hsecond, htwice, hconflict⟩ := of_decide_eq_true hstate
  exact ⟨w, hrun, hfirst, hsecond, htwice, toOption_eq_some.mp hconflict⟩

/-- In the run where the calls are made one after another the key is resolved with the new claim. -/
theorem sample_reconciliation : ∃ w row,
    runEvents (stepEvidence evidenceProfile) newEvidence reconciledEvents = some w ∧
    w.returned 1 = some row ∧
    ResolvesReconciled evidenceProfile (sampleReconciliation "fast") row w.shared.store := by
  have hruns : (runChecked (stepEvidence evidenceProfile) soloStep newEvidence reconciledEvents).map
      (fun w ↦ (w.returned 1).isSome &&
        decide (w.operations[1]?.isSome = true)) = some true := by
    decide +kernel
  obtain ⟨w, hchecked, hstate⟩ := Option.map_eq_some_iff.mp hruns
  obtain ⟨hrun, hsteps⟩ := run_of_runChecked hchecked
  rw [Bool.and_eq_true] at hstate
  obtain ⟨row, hrow⟩ := Option.isSome_iff_exists.mp hstate.1
  obtain ⟨-, -, hundisturbed⟩ := evidence_reconciliation hrun
  obtain ⟨-, -, hresolves⟩ := hundisturbed (hsteps.mono fun _ _ ↦ undisturbed_of_solo)
  have hoperation : w.operations[1]? =
      some (.reconcileForSong (uuidEnding 4) (sampleReconciliation "fast")) := by
    rw [operations_of_runLabelled hrun]
    rfl
  exact ⟨w, row, hrun, hrow, hresolves 1 _ _ row hoperation hrow⟩

end N0te.Evidence
