import N0te.Tools.ToolInventory

/-!
# Runs of the tool inventory

`InventoryInvariant` is what every committed state of the inventory meets as long as no call is
disturbed: a revision is appended to the history of its tool as `toolWorkflow` allows, and active tools
share no key. `tool_inventory` draws from it what an artist sees: which tool has which key, and that the
store can be opened. Two registrations that read before either writes leave a store that cannot be
opened again (`shared_endpoint_registered`).
-/

set_option autoImplicit false
set_option relaxedAutoImplicit false

namespace N0te.Tools

open Library Lineage

/-! ### Owners of keys -/

/-- The keys are claimed if and only if each has one owner. -/
theorem claimKeys_eq_ok {error : String → ToolRaised} {owners claims : List (ToolKey × Text)} :
    claimKeys error owners claims = .ok ⟨⟩ ↔
      (∀ claim ∈ claims, ∀ owner ∈ owners.lookup claim.1, owner = claim.2) ∧
        ∀ a ∈ claims, ∀ b ∈ claims, a.1 = b.1 → a.2 = b.2 := by
  induction claims generalizing owners with
  | nil => simp [claimKeys]
  | cons claim rest ih =>
    obtain ⟨key, toolId⟩ := claim
    rw [claimKeys]
    cases howner : owners.lookup key with
    | some owner =>
      simp only [bind_eq_ok, require_eq_ok, exists_const, ih]
      constructor
      · rintro ⟨rfl, hrest, hpairs⟩
        have hkey : ∀ b ∈ rest, key = b.1 → owner = b.2 := fun b hb hsame ↦
          hrest b hb owner (hsame ▸ howner)
        refine ⟨List.forall_mem_cons.mpr ⟨fun other hother ↦ ?_, hrest⟩,
          List.forall_mem_cons.mpr ⟨List.forall_mem_cons.mpr ⟨fun _ ↦ rfl, hkey⟩, fun a ha ↦
            List.forall_mem_cons.mpr ⟨fun hsame ↦ (hkey a ha hsame.symm).symm, hpairs a ha⟩⟩⟩
        exact Option.some.inj (hother.symm.trans howner)
      · rintro ⟨howners, hpairs⟩
        rw [List.forall_mem_cons] at howners hpairs
        exact ⟨howners.1 owner howner, howners.2, fun a ha ↦ (List.forall_mem_cons.mp
          (hpairs.2 a ha)).2⟩
    | none =>
      simp only [ih]
      constructor
      · rintro ⟨howners, hpairs⟩
        have hkey : ∀ b ∈ rest, key = b.1 → toolId = b.2 := by
          intro b hb hsame
          refine howners b hb toolId ?_
          rw [← hsame, List.lookup_cons_self, Option.mem_some]
        refine ⟨List.forall_mem_cons.mpr ⟨by simp [howner], fun b hb owner hlookup ↦ ?_⟩,
          List.forall_mem_cons.mpr ⟨List.forall_mem_cons.mpr ⟨fun _ ↦ rfl, hkey⟩, fun a ha ↦
            List.forall_mem_cons.mpr ⟨fun hsame ↦ (hkey a ha hsame.symm).symm, hpairs a ha⟩⟩⟩
        by_cases hsame : b.1 = key
        · rw [hsame, howner] at hlookup
          exact absurd hlookup (Option.not_mem_none _)
        · refine howners b hb owner ?_
          rwa [List.lookup_cons, beq_false_of_ne hsame]
      · rintro ⟨howners, hpairs⟩
        rw [List.forall_mem_cons] at howners hpairs
        refine ⟨fun b hb owner hlookup ↦ ?_, fun a ha ↦ (List.forall_mem_cons.mp
          (hpairs.2 a ha)).2⟩
        by_cases hsame : b.1 = key
        · rw [hsame, List.lookup_cons_self, Option.mem_some] at hlookup
          rw [← hlookup]
          exact (List.forall_mem_cons.mp hpairs.1).2 b hb hsame.symm
        · rw [List.lookup_cons, beq_false_of_ne hsame] at hlookup
          exact howners.2 b hb owner hlookup

/-- The active revisions of different tools share no key. -/
def DisjointKeys (revisions : List ToolInventoryRevision) : Prop :=
  ∀ a ∈ revisions, ∀ b ∈ revisions, a.state = .active → b.state = .active →
    a.profile.toolId ≠ b.profile.toolId → a.profile.keys.Disjoint b.profile.keys

theorem validateActiveUniqueness_eq_ok {error : String → ToolRaised}
    {revisions : List ToolInventoryRevision} :
    validateActiveUniqueness error revisions = .ok ⟨⟩ ↔ DisjointKeys revisions := by
  have hmem : ∀ claim, claim ∈ activeKeys revisions ↔ ∃ item ∈ revisions, item.state = .active ∧
      claim.1 ∈ item.profile.keys ∧ item.profile.toolId = claim.2 := by
    rintro ⟨key, toolId⟩
    simp only [activeKeys, List.mem_flatMap, List.mem_filter, decide_eq_true_eq, List.mem_map,
      Prod.mk.injEq, and_assoc]
    constructor
    · rintro ⟨item, hitem, hactive, _, hkey, rfl, htool⟩
      exact ⟨item, hitem, hactive, hkey, htool⟩
    · rintro ⟨item, hitem, hactive, hkey, htool⟩
      exact ⟨item, hitem, hactive, key, hkey, rfl, htool⟩
  rw [validateActiveUniqueness, claimKeys_eq_ok]
  constructor
  · rintro ⟨-, hpairs⟩ a ha b hb haactive hbactive hne key hkeya hkeyb
    exact hne (hpairs (key, a.profile.toolId) ((hmem _).mpr ⟨a, ha, haactive, hkeya, rfl⟩)
      (key, b.profile.toolId) ((hmem _).mpr ⟨b, hb, hbactive, hkeyb, rfl⟩) rfl)
  · intro hdisjoint
    refine ⟨by simp, fun a ha b hb hsame ↦ ?_⟩
    obtain ⟨item, hitem, hactive, hkey, htool⟩ := (hmem a).mp ha
    obtain ⟨other, hother, hotherActive, hotherKey, hotherTool⟩ := (hmem b).mp hb
    by_contra hne
    rw [← htool, ← hotherTool] at hne
    exact hdisjoint item hitem other hother hactive hotherActive hne hkey (hsame ▸ hotherKey)

/-! ### Stored profiles -/

/-- A row holds a profile. -/
structure ToolInventoryRow.Stores (row : ToolInventoryRow) (profile : SemanticToolProfile) : Prop where
  toolId : row.toolId = profile.toolId.val
  profileJson : row.profileJson = profile.json.canonical

/-- What a row that holds a profile reads as. -/
def ToolInventoryRow.revision (row : ToolInventoryRow) (profile : SemanticToolProfile) :
    ToolInventoryRevision :=
  ⟨row.seq, row.id, row.toolId, row.state, row.sourceKind, row.sourceRef, row.reason, profile⟩

namespace ToolInventoryRow.Stores

variable {row : ToolInventoryRow} {profile other : SemanticToolProfile}

theorem revisionOf (h : row.Stores profile) : revisionOf row = .ok (row.revision profile) := by
  simp only [Tools.revisionOf, bind_eq_ok, require_eq_ok]
  exact ⟨profile, h.profileJson ▸ profileFromJson_json profile, ⟨⟩, h.toolId.symm, rfl⟩

theorem unique (h : row.Stores profile) (hother : row.Stores other) : profile = other := by
  have hsame := h.profileJson.symm.trans hother.profileJson
  have hread := profileFromJson_json profile
  rw [hsame, profileFromJson_json] at hread
  exact (Except.ok.inj hread).symm

end ToolInventoryRow.Stores

/-- The rows can be read, and are numbered. -/
structure Readable (db : ToolDb) : Prop where
  /-- Every row holds a profile. -/
  stored : ∀ row ∈ db, ∃ profile, row.Stores profile
  /-- A correction says why. -/
  explained : ∀ row ∈ db, row.sourceKind = .artistCorrection → row.reason ≠ none ∧ row.reason ≠ some ""
  /-- No number is used twice. -/
  numbered : (db.map ToolInventoryRow.seq).Nodup
  /-- They are at most the number of rows. -/
  bounded : ∀ row ∈ db, row.seq ≤ db.length

namespace ToolDb

variable {db : ToolDb} {row : ToolInventoryRow}

theorem mem_latestRows :
    row ∈ db.latestRows ↔ row ∈ db ∧ ∀ other ∈ db, other.toolId = row.toolId → other.seq ≤ row.seq := by
  rw [latestRows, (perm_sortedBy _ _).mem_iff, List.mem_filter, decide_eq_true_eq]

/-- A new row is the latest of its tool, and those of the other tools stay the latest. -/
theorem mem_latestRows_concat {new : ToolInventoryRow} (hbounded : ∀ other ∈ db, other.seq < new.seq) :
    row ∈ latestRows (db ++ [new]) ↔ row = new ∨ row ∈ db.latestRows ∧ row.toolId ≠ new.toolId := by
  simp only [mem_latestRows, List.mem_append, List.mem_singleton, or_imp, forall_and, forall_eq]
  constructor
  · rintro ⟨hrow | rfl, hlatest, hnew⟩
    · refine .inr ⟨⟨hrow, hlatest⟩, fun hsame ↦ ?_⟩
      exact absurd (hnew hsame.symm) (Nat.not_le.mpr (hbounded row hrow))
    · exact .inl rfl
  · rintro (rfl | ⟨⟨hrow, hlatest⟩, hne⟩)
    · exact ⟨.inr rfl, fun other hother _ ↦ (hbounded other hother).le, fun _ ↦ le_rfl⟩
    · exact ⟨.inl hrow, hlatest, fun hsame ↦ absurd hsame.symm hne⟩

theorem eq_of_mem_latestRows {other : ToolInventoryRow}
    (hnumbered : (db.map ToolInventoryRow.seq).Nodup) (hrow : row ∈ db.latestRows)
    (hother : other ∈ db.latestRows) (hsame : row.toolId = other.toolId) : row = other := by
  rw [mem_latestRows] at hrow hother
  have hseq : row.seq = other.seq :=
    Nat.le_antisymm (hother.2 row hrow.1 hsame) (hrow.2 other hother.1 hsame.symm)
  exact List.inj_on_of_nodup_map hnumbered hrow.1 hother.1 hseq

def Active (db : ToolDb) (profile : SemanticToolProfile) : Prop :=
  ∃ row ∈ db.latestRows, row.state = .active ∧ row.Stores profile

end ToolDb

namespace Readable

variable {db : ToolDb} (h : Readable db)

include h

/-- The latest revisions are what the latest rows hold. -/
theorem exists_latestRevisions : ∃ revisions, db.latestRevisions = .ok revisions ∧
    ∀ item, item ∈ revisions ↔
      ∃ row ∈ db.latestRows, ∃ profile, row.Stores profile ∧ item = row.revision profile := by
  have hreads : ∀ row ∈ db.latestRows, ∃ profile, row.Stores profile := fun row hrow ↦
    h.stored row (ToolDb.mem_latestRows.mp hrow).1
  obtain ⟨revisions, hrevisions⟩ := exists_checkEach (n := 0) fun row hrow ↦
    (hreads row hrow).imp' _ fun _ hstores ↦ hstores.revisionOf
  refine ⟨revisions, hrevisions, fun item ↦ ?_⟩
  rw [mem_checkEach hrevisions]
  constructor
  · rintro ⟨row, hrow, hitem⟩
    obtain ⟨profile, hstores⟩ := hreads row hrow
    exact ⟨row, hrow, profile, hstores, Except.ok.inj (hitem.symm.trans hstores.revisionOf)⟩
  · rintro ⟨row, hrow, profile, hstores, rfl⟩
    exact ⟨row, hrow, hstores.revisionOf⟩

/-- The active profiles are those of the active tools. -/
theorem exists_activeProfiles : ∃ profiles, db.activeProfiles = .ok profiles ∧
    ∀ profile, profile ∈ profiles ↔ db.Active profile := by
  obtain ⟨revisions, hrevisions, hmem⟩ := h.exists_latestRevisions
  refine ⟨_, by simp only [ToolDb.activeProfiles, hrevisions, bind_eq_ok]; exact ⟨_, rfl, rfl⟩,
    fun profile ↦ ?_⟩
  simp only [List.mem_map, List.mem_filter, hmem, decide_eq_true_eq]
  constructor
  · rintro ⟨_, ⟨⟨row, hrow, profile, hstores, rfl⟩, hactive⟩, rfl⟩
    exact ⟨row, hrow, hactive, hstores⟩
  · rintro ⟨row, hrow, hactive, hstores⟩
    exact ⟨_, ⟨⟨row, hrow, profile, hstores, rfl⟩, hactive⟩, rfl⟩

end Readable

/-! ### The invariant -/

/-- What may become of a tool: it is registered, then corrected, and retired as it is. -/
def toolWorkflow : Workflow ToolInventoryRow where
  first row := row.sourceKind ≠ .artistCorrection ∧ row.state = .active
  next last row := row.sourceKind = .artistCorrection ∧
    (row.state = .retired → last.state = .active ∧ last.profileJson = row.profileJson)

/-- The profiles of different active tools share no key. -/
def KeysUnique (db : ToolDb) : Prop :=
  ∀ p q, db.Active p → db.Active q → p.toolId ≠ q.toolId → p.keys.Disjoint q.keys

/-- What every committed state of the inventory meets. -/
structure InventoryInvariant (db : ToolDb) : Prop where
  /-- The rows can be read. -/
  readable : Readable db
  /-- The history of every tool is as it may be. -/
  legal : toolWorkflow.LegalLog ToolInventoryRow.toolId id db
  /-- Active tools share no key. -/
  unique : KeysUnique db

theorem inventoryInvariant_nil : InventoryInvariant [] where
  readable := ⟨List.forall_mem_nil _, List.forall_mem_nil _, List.nodup_nil, List.forall_mem_nil _⟩
  legal := Workflow.legalLog_nil
  unique := by
    rintro p q ⟨row, hrow, -⟩
    simp [ToolDb.mem_latestRows] at hrow

/-- A revision may be appended. -/
structure Admits (db : ToolDb) (revision : NewRevision) : Prop where
  follows : toolWorkflow.Allows (db.rowsFor revision.profile.toolId.val)
    (revision.row db revision.profile.json.canonical)
  /-- A correction says why. -/
  explained : revision.sourceKind = .artistCorrection → revision.reason ≠ none
  /-- If it is active, it shares no key with another active tool. -/
  free : revision.state = .active → ∀ p, db.Active p → p.toolId ≠ revision.profile.toolId →
    p.keys.Disjoint revision.profile.keys

/-- The insertion of a revision that may be appended keeps the invariant. -/
theorem InventoryInvariant.insert {db t : ToolDb} {revision : NewRevision}
    (h : InventoryInvariant db) (hadmits : Admits db revision)
    (hinsert : insertRevision revision revision.profile.json.canonical db = .ok t) :
    InventoryInvariant t := by
  simp only [insertRevision, bind_eq_ok, require_eq_ok, Except.ok.injEq] at hinsert
  obtain ⟨_, -, _, -, _, -, rfl⟩ := hinsert
  have hbounded : ∀ row ∈ db, row.seq < db.length + 1 := fun row hrow ↦
    Nat.lt_succ_of_le (h.readable.bounded row hrow)
  have hstores : (revision.row db revision.profile.json.canonical).Stores revision.profile :=
    ⟨rfl, rfl⟩
  have hactive : ∀ p, ToolDb.Active (db ++ [revision.row db revision.profile.json.canonical]) p →
      (p = revision.profile ∧ revision.state = .active) ∨
        (db.Active p ∧ p.toolId ≠ revision.profile.toolId) := by
    rintro p ⟨row, hrow, hstate, hp⟩
    rcases (ToolDb.mem_latestRows_concat hbounded).mp hrow with rfl | ⟨hold, hne⟩
    · exact .inl ⟨hp.unique hstores, hstate⟩
    · refine .inr ⟨⟨row, hold, hstate, hp⟩, fun hsame ↦ hne ?_⟩
      rw [hp.toolId, hsame]
      rfl
  refine ⟨⟨?_, ?_, ?_, ?_⟩, Workflow.legalLog_concat.mpr ⟨h.legal, ?_⟩, ?_⟩
  · exact List.forall_mem_append.mpr
      ⟨h.readable.stored, List.forall_mem_singleton.mpr ⟨_, hstores⟩⟩
  · refine List.forall_mem_append.mpr
      ⟨h.readable.explained, List.forall_mem_singleton.mpr fun hcorrection ↦ ?_⟩
    obtain ⟨reason, hreason⟩ := Option.ne_none_iff_exists'.mp (hadmits.explained hcorrection)
    show revision.reason.map Text.val ≠ none ∧ revision.reason.map Text.val ≠ some ""
    rw [hreason]
    exact ⟨by rintro ⟨⟩, fun hblank ↦ reason.nonempty (Option.some.inj hblank)⟩
  · rw [List.map_append, List.map_singleton, List.nodup_append]
    refine ⟨h.readable.numbered, List.nodup_singleton _, fun n hn m hm ↦ ?_⟩
    obtain ⟨row, hrow, rfl⟩ := List.mem_map.mp hn
    obtain rfl := List.mem_singleton.mp hm
    exact (hbounded row hrow).ne
  · rw [List.length_append, List.length_singleton]
    exact List.forall_mem_append.mpr ⟨fun row hrow ↦ (hbounded row hrow).le,
      List.forall_mem_singleton.mpr le_rfl⟩
  · rw [List.map_id]
    exact hadmits.follows
  · intro p q hp hq hne
    rcases hactive p hp with ⟨rfl, hstate⟩ | ⟨hpActive, hpOther⟩
    · rcases hactive q hq with ⟨rfl, -⟩ | ⟨hqActive, hqOther⟩
      · exact absurd rfl hne
      · exact fun _ hkey hother ↦ hadmits.free hstate q hqActive hqOther hother hkey
    · rcases hactive q hq with ⟨rfl, hstate⟩ | ⟨hqActive, -⟩
      · exact hadmits.free hstate p hpActive hpOther
      · exact h.unique p q hpActive hqActive hne

/-- A profile that passes `_validate_candidate_state` shares no key with another active tool. -/
theorem InventoryInvariant.free_of_validate {db : ToolDb} {profile : SemanticToolProfile}
    {replacing : Option Text} (h : InventoryInvariant db)
    (hreplacing : ∀ toolId ∈ replacing, toolId = profile.toolId)
    (hvalid : validateCandidateState profile replacing db = .ok ⟨⟩) :
    ∀ p, db.Active p → p.toolId ≠ profile.toolId → p.keys.Disjoint profile.keys := by
  rintro p ⟨row, hrow, hstate, hp⟩ hne
  obtain ⟨revisions, hrevisions, hmem⟩ := h.readable.exists_latestRevisions
  simp only [validateCandidateState, hrevisions, bind_eq_ok, Except.ok.injEq, exists_eq_left',
    validateActiveUniqueness_eq_ok] at hvalid
  refine hvalid (row.revision p) (List.mem_append_left _ (List.mem_filter.mpr ⟨?_, ?_⟩))
    (candidateRevision profile) (List.mem_append_right _ (List.mem_singleton_self _)) hstate rfl hne
  · exact (hmem _).mpr ⟨row, hrow, p, hp, rfl⟩
  · rw [Option.all_eq_true]
    intro toolId htool
    obtain rfl := hreplacing toolId htool
    rw [decide_eq_true_eq]
    intro hsame
    exact hne (Text.ext (hp.toolId.symm.trans hsame))

/-! ### Calls -/

/-- What another may commit while a call of an operation waits: what the call checks stays as it is. -/
def KeepsChecks : ToolOperation → ToolDb → ToolDb → Prop
  | .register _ profile _ _, s, t =>
    (s.rowsFor profile.toolId.val = [] → t.rowsFor profile.toolId.val = []) ∧
      (validateCandidateState profile none s = .ok ⟨⟩ →
        validateCandidateState profile none t = .ok ⟨⟩)
  | .correct _ profile _ _, s, t =>
    validateCandidateState profile (some profile.toolId) s = .ok ⟨⟩ →
      validateCandidateState profile (some profile.toolId) t = .ok ⟨⟩
  | .retire _ toolId _ _, s, t =>
    ∀ current, toolState toolId s = .ok current → toolState toolId t = .ok current

/-- Revisions are only appended. -/
def Extends (s t : ToolDb) : Prop := s <+: t

theorem extends_of_commits {s t : ToolDb} (h : Relation.ReflTransGen Extends s t) : Extends s t := by
  induction h with
  | refl => exact List.prefix_refl _
  | tail _ hlast ih => exact List.IsPrefix.trans ih hlast

/-- A call keeps the invariant while its checks stay as they are. -/
abbrev KeepsInventory {α : Type} (rely : ToolDb → ToolDb → Prop) (call : ToolCall α) (s : ToolDb) :
    Prop :=
  KeepsUnder InventoryInvariant Extends rely rely (fun _ _ _ ↦ True) false call s

section

variable {rely : ToolDb → ToolDb → Prop} {s : ToolDb}

/-- Appending a revision that may be appended whenever it is. -/
theorem keeps_appendRevision {revision : NewRevision}
    (hadmits : ∀ t, Relation.ReflTransGen (Allowed Extends rely false) s t → InventoryInvariant t →
      Admits t revision) : KeepsInventory rely (appendRevision revision) s := by
  refine keepsUnder_fromExcept (fun _ _ ↦ trivial) fun profileJson hjson ↦ ?_
  obtain rfl : revision.profile.json.canonical = profileJson := by
    simp only [canonicalProfileJson, bind_eq_ok, require_eq_ok, Except.ok.injEq] at hjson
    obtain ⟨_, -, hsame⟩ := hjson
    exact hsame
  refine keepsUnder_transaction (fun _ _ _ _ ↦ trivial) fun t u hrely ht hinsert ↦ ?_
  refine ⟨?_, ht.insert (hadmits t hrely ht) hinsert, (reads_ask _).keepsUnder fun _ _ _ ↦ trivial⟩
  simp only [insertRevision, bind_eq_ok, require_eq_ok, Except.ok.injEq] at hinsert
  obtain ⟨_, -, _, -, _, -, rfl⟩ := hinsert
  exact List.prefix_append _ _

theorem keeps_register {uuid : Uuid} {profile : SemanticToolProfile} {sourceKind sourceRef : String} :
    KeepsInventory (KeepsChecks (.register uuid profile sourceKind sourceRef))
      (register uuid profile sourceKind sourceRef) s := by
  refine keepsUnder_fromExcept (fun _ _ ↦ trivial) fun source hsource ↦ ?_
  refine keepsUnder_ask (fun _ _ ↦ trivial) fun _ t _ _ hnone ↦ ?_
  refine keepsUnder_fromExcept (fun _ _ ↦ trivial) fun ref _ ↦ ?_
  refine keepsUnder_ask (fun _ _ ↦ trivial) fun _ u hwaited _ hvalid ↦ ?_
  refine keeps_appendRevision fun v hrely hv ↦ ?_
  simp only [bind_eq_ok, require_eq_ok, Except.ok.injEq] at hsource
  obtain ⟨_, -, _, hsource, rfl⟩ := hsource
  rw [require_eq_ok] at hnone
  have hnew := kept_of_allowed (fun x : ToolDb ↦ x.rowsFor profile.toolId.val = [])
    (fun _ _ hkeeps ↦ hkeeps.1) (hwaited.trans hrely) hnone
  have hfree := kept_of_allowed (fun x : ToolDb ↦ validateCandidateState profile none x = .ok ⟨⟩)
    (fun _ _ hkeeps ↦ hkeeps.2) hrely hvalid
  refine ⟨?_, fun hcorrection ↦ absurd hcorrection hsource, fun _ ↦ ?_⟩
  · show toolWorkflow.Allows (v.rowsFor profile.toolId.val) _
    rw [hnew]
    exact ⟨hsource, rfl⟩
  · exact hv.free_of_validate (fun _ h ↦ absurd h (Option.not_mem_none _)) hfree

theorem keeps_correct {uuid : Uuid} {profile : SemanticToolProfile} {sourceRef reason : String} :
    KeepsInventory (KeepsChecks (.correct uuid profile sourceRef reason))
      (correct uuid profile sourceRef reason) s := by
  refine keepsUnder_ask (fun _ _ ↦ trivial) fun _ t _ _ hknown ↦ ?_
  refine keepsUnder_fromExcept (fun _ _ ↦ trivial) fun ref _ ↦ ?_
  refine keepsUnder_fromExcept (fun _ _ ↦ trivial) fun why _ ↦ ?_
  refine keepsUnder_ask (fun _ _ ↦ trivial) fun _ u hwaited _ hvalid ↦ ?_
  refine keeps_appendRevision fun v hrely hv ↦ ?_
  rw [require_eq_ok] at hknown
  have hfree := kept_of_allowed
    (fun x : ToolDb ↦ validateCandidateState profile (some profile.toolId) x = .ok ⟨⟩)
    (fun _ _ hkeeps ↦ hkeeps) hrely hvalid
  refine ⟨?_, by rintro _ ⟨⟩, fun _ ↦ ?_⟩
  · -- A revision of the tool was there, and none is ever removed.
    obtain ⟨rest, rfl⟩ := extends_of_commits (commits_of_allowed (hwaited.trans hrely))
    obtain ⟨last, hlast⟩ : ∃ last,
        (ToolDb.rowsFor (t ++ rest) profile.toolId.val).getLast? = some last := by
      refine Option.ne_none_iff_exists'.mp fun hnone ↦ hknown ?_
      rw [List.getLast?_eq_none_iff, ToolDb.rowsFor, historyOf, List.filter_append,
        List.append_eq_nil_iff] at hnone
      exact hnone.1
    show toolWorkflow.Allows (ToolDb.rowsFor (t ++ rest) profile.toolId.val) _
    rw [Workflow.Allows, hlast]
    exact ⟨rfl, by rintro ⟨⟩⟩
  · refine hv.free_of_validate (fun toolId htool ↦ ?_) hfree
    exact (Option.some.inj htool).symm

theorem keeps_retire {uuid : Uuid} {toolId sourceRef reason : String} :
    KeepsInventory (KeepsChecks (.retire uuid toolId sourceRef reason))
      (retire uuid toolId sourceRef reason) s := by
  refine keepsUnder_ask (fun _ _ ↦ trivial) fun current t _ ht hcurrent ↦ ?_
  refine keepsUnder_fromExcept (fun _ _ ↦ trivial) fun texts htexts ↦ ?_
  obtain ⟨ref, why⟩ := texts
  refine keeps_appendRevision fun v hrely hv ↦ ?_
  simp only [bind_eq_ok, require_eq_ok, Except.ok.injEq, Prod.mk.injEq] at htexts
  obtain ⟨_, hactive, -⟩ := htexts
  have hstill := kept_of_allowed (fun x : ToolDb ↦ toolState toolId x = .ok current)
    (fun _ _ hkeeps ↦ hkeeps current) hrely hcurrent
  simp only [toolState, bind_eq_ok, orRaise_eq_ok] at hstill
  obtain ⟨tool, -, last, hlast, hread⟩ := hstill
  obtain ⟨hmem, htool⟩ := mem_historyOf.mp (List.mem_of_getLast? hlast)
  obtain ⟨profile, hstores⟩ := hv.readable.stored last hmem
  obtain rfl := Except.ok.inj (hread.symm.trans hstores.revisionOf)
  refine ⟨?_, by rintro _ ⟨⟩, by rintro ⟨⟩⟩
  have hsame : profile.toolId.val = tool.val := hstores.toolId.symm.trans htool
  show toolWorkflow.Allows (v.rowsFor profile.toolId.val) _
  rw [Workflow.Allows, hsame, hlast]
  exact ⟨rfl, fun _ ↦ ⟨hactive, hstores.profileJson⟩⟩

/-- Every call keeps the invariant while its checks stay as they are. -/
theorem keeps_toolProgram (operation : ToolOperation) :
    KeepsInventory (KeepsChecks operation) (toolProgram operation) s := by
  cases operation with
  | register => exact keeps_register
  | correct => exact keeps_correct
  | retire => exact keeps_retire

end

/-! ### What a store promises -/

/-- An active tool has an endpoint with a name in a format. -/
def OwnsNative (db : ToolDb) (format native : String) (profile : SemanticToolProfile)
    (endpoint : ToolEndpoint) : Prop :=
  ∃ profiles, db.activeProfiles = .ok profiles ∧ profile ∈ profiles ∧ endpoint ∈ profile.endpoints ∧
    endpoint.formatKind.name = upper (strip format) ∧ endpoint.nativeIdentity.val = strip native

/-- An inventory as an artist expects it. -/
structure InventoryInOrder (db : ToolDb) : Prop where
  /-- The latest active revisions of different tools share no key. -/
  disjoint : ∃ profiles, db.activeProfiles = .ok profiles ∧ ∀ p ∈ profiles, ∀ q ∈ profiles,
    p.toolId ≠ q.toolId → p.keys.Disjoint q.keys
  /-- Every tool is registered once, then corrected, and retired as it is. -/
  legal : toolWorkflow.LegalLog ToolInventoryRow.toolId id db
  /-- The owner of a name is found, and there is one. -/
  native : ∀ format native, strip format ≠ "" → strip native ≠ "" → ∃ result,
    byNativeIdentity format native db = .ok result ∧
      ∀ profile endpoint, result = some (profile, endpoint) ↔
        OwnsNative db format native profile endpoint
  /-- The store can be opened again. -/
  opens : db.validateExisting = .ok ⟨⟩

namespace InventoryInvariant

variable {db : ToolDb} (h : InventoryInvariant db)

include h

theorem validateExisting : db.validateExisting = .ok ⟨⟩ := by
  obtain ⟨revisions, hrevisions, hmem⟩ := h.readable.exists_latestRevisions
  have hrows : ∀ row ∈ db, ∃ result, validateRow row = .ok result := by
    intro row hrow
    obtain ⟨profile, hstores⟩ := h.readable.stored row hrow
    refine ⟨⟨⟩, ?_⟩
    simp only [validateRow, hstores.revisionOf, bind_eq_ok, Except.ok.injEq, exists_eq_left',
      require_eq_ok]
    exact h.readable.explained row hrow
  have hdisjoint : DisjointKeys revisions := by
    intro a ha b hb hactive hbactive hne
    obtain ⟨row, hrow, p, hp, rfl⟩ := (hmem a).mp ha
    obtain ⟨other, hother, q, hq, rfl⟩ := (hmem b).mp hb
    exact h.unique p q ⟨row, hrow, hactive, hp⟩ ⟨other, hother, hbactive, hq⟩ hne
  obtain ⟨results, hresults⟩ := exists_checkEach (n := 0) hrows
  simp only [ToolDb.validateExisting, hresults, hrevisions]
  show unreadableAs (validateActiveUniqueness toolCorruption revisions) = _
  rw [validateActiveUniqueness_eq_ok.mpr hdisjoint]
  rfl

theorem eq_of_active {p q : SemanticToolProfile} (hp : db.Active p) (hq : db.Active q)
    (hsame : p.toolId = q.toolId) : p = q := by
  obtain ⟨row, hrow, -, hstores⟩ := hp
  obtain ⟨other, hother, -, hotherStores⟩ := hq
  have htool : row.toolId = other.toolId := by
    rw [hstores.toolId, hotherStores.toolId, hsame]
  obtain rfl := ToolDb.eq_of_mem_latestRows h.readable.numbered hrow hother htool
  exact hstores.unique hotherStores

/-- A name in a format is that of one endpoint of one active tool. -/
theorem eq_of_native {p q : SemanticToolProfile} {e f : ToolEndpoint} (hp : db.Active p)
    (hq : db.Active q) (he : e ∈ p.endpoints) (hf : f ∈ q.endpoints)
    (hformat : e.formatKind = f.formatKind) (hnative : e.nativeIdentity = f.nativeIdentity) :
    p = q ∧ e = f := by
  have hkey : ∀ {r : SemanticToolProfile} {g : ToolEndpoint}, g ∈ r.endpoints →
      .native g.formatKind g.nativeIdentity ∈ r.keys := fun hg ↦
    List.mem_append_left _ (List.mem_flatMap.mpr ⟨_, hg, List.mem_cons_of_mem _ List.mem_cons_self⟩)
  have htool : p.toolId = q.toolId := by
    by_contra hne
    refine h.unique p q hp hq hne (hkey he) ?_
    rw [hformat, hnative]
    exact hkey hf
  obtain rfl := h.eq_of_active hp hq htool
  refine ⟨rfl, List.inj_on_of_nodup_map p.natives_nodup he hf ?_⟩
  rw [hformat, hnative]

theorem exists_byNativeIdentity {format native : String} (hformat : strip format ≠ "")
    (hnative : strip native ≠ "") : ∃ result, byNativeIdentity format native db = .ok result ∧
      ∀ profile endpoint, result = some (profile, endpoint) ↔
        OwnsNative db format native profile endpoint := by
  obtain ⟨profiles, hprofiles, hmem⟩ := h.readable.exists_activeProfiles
  obtain ⟨kind, hkind⟩ : ∃ text, Text.ofString format = some text :=
    ⟨⟨strip format, strip_strip format, hformat⟩, Text.ofString_eq_some.mpr ⟨rfl, hformat⟩⟩
  obtain ⟨name, hname⟩ : ∃ text, Text.ofString native = some text :=
    ⟨⟨strip native, strip_strip native, hnative⟩, Text.ofString_eq_some.mpr ⟨rfl, hnative⟩⟩
  have hkindVal := (Text.ofString_eq_some.mp hkind).1
  have hnameVal := (Text.ofString_eq_some.mp hname).1
  have hfinds : ∀ p profile endpoint,
      nativeEndpoint (upper kind.val) name p = some (profile, endpoint) → profile = p ∧
        endpoint ∈ p.endpoints ∧ endpoint.formatKind.name = upper (strip format) ∧
          endpoint.nativeIdentity = name := by
    intro p profile endpoint hfound
    simp only [nativeEndpoint, Option.map_eq_some_iff, Prod.mk.injEq] at hfound
    obtain ⟨_, hfound, rfl, rfl⟩ := hfound
    have hmatches := List.find?_some hfound
    rw [decide_eq_true_eq, ← hkindVal] at hmatches
    exact ⟨rfl, List.mem_of_find?_eq_some hfound, hmatches⟩
  refine ⟨profiles.findSome? (nativeEndpoint (upper kind.val) name), ?_, fun profile endpoint ↦ ?_⟩
  · simp only [byNativeIdentity, inventoryText, hkind, hname, hprofiles, bind_eq_ok, orRaise_eq_ok,
      Option.some.injEq, Except.ok.injEq, exists_eq_left']
  constructor
  · intro hfound
    obtain ⟨p, hp, hfound⟩ := List.exists_of_findSome?_eq_some hfound
    obtain ⟨rfl, hendpoint, hformat, hname⟩ := hfinds p profile endpoint hfound
    exact ⟨profiles, hprofiles, hp, hendpoint, hformat, by rw [hname, hnameVal]⟩
  · rintro ⟨others, hothers, hp, hendpoint, hformat, hidentity⟩
    obtain rfl := Except.ok.inj (hothers.symm.trans hprofiles)
    have hendpointName : endpoint.nativeIdentity = name := Text.ext (hidentity.trans hnameVal)
    cases hfound : others.findSome? (nativeEndpoint (upper kind.val) name) with
    | none =>
      have hnone := List.findSome?_eq_none_iff.mp hfound profile hp
      rw [nativeEndpoint, Option.map_eq_none_iff, List.find?_eq_none] at hnone
      have hnot := hnone endpoint hendpoint
      rw [decide_eq_true_eq, ← hkindVal] at hnot
      exact absurd ⟨hformat, hendpointName⟩ hnot
    | some found =>
      obtain ⟨q, f⟩ := found
      obtain ⟨p, hp', hfound⟩ := List.exists_of_findSome?_eq_some hfound
      obtain ⟨rfl, hf, hfformat, hfname⟩ := hfinds p q f hfound
      obtain ⟨rfl, rfl⟩ := h.eq_of_native ((hmem _).mp hp') ((hmem _).mp hp) hf hendpoint
        (ToolFormat.name_injective (hfformat.trans hformat.symm)) (hfname.trans hendpointName.symm)
      rfl

/-- A store that meets the invariant is as an artist expects it. -/
theorem inOrder : InventoryInOrder db where
  disjoint := by
    obtain ⟨profiles, hprofiles, hmem⟩ := h.readable.exists_activeProfiles
    exact ⟨profiles, hprofiles, fun p hp q hq ↦
      h.unique p q ((hmem p).mp hp) ((hmem q).mp hq)⟩
  legal := h.legal
  native _ _ hformat hnative := h.exists_byNativeIdentity hformat hnative
  opens := h.validateExisting

end InventoryInvariant

/-! ### Rows that read back, whatever the interleaving -/

/-- Every row holds a profile. -/
def AllStored (db : ToolDb) : Prop := ∀ row ∈ db, ∃ profile, row.Stores profile

theorem preserves_appendRevision (revision : NewRevision) :
    Preserves AllStored (fun _ _ ↦ True) (appendRevision revision) := by
  refine preserves_fromExcept_bind fun profileJson hjson ↦
    (preserves_transaction fun s t hs hinsert ↦ ⟨trivial, ?_⟩).bind fun _ ↦ preserves_ask _
  simp only [canonicalProfileJson, bind_eq_ok, require_eq_ok, Except.ok.injEq] at hjson
  obtain ⟨_, -, rfl⟩ := hjson
  simp only [insertRevision, bind_eq_ok, require_eq_ok, Except.ok.injEq] at hinsert
  obtain ⟨_, -, _, -, _, -, rfl⟩ := hinsert
  exact List.forall_mem_append.mpr ⟨hs, List.forall_mem_singleton.mpr ⟨_, rfl, rfl⟩⟩

theorem preserves_toolProgram (operation : ToolOperation) :
    Preserves AllStored (fun _ _ ↦ True) (toolProgram operation) := by
  cases operation with
  | register uuid profile sourceKind sourceRef =>
    exact (preserves_fromExcept _).bind fun _ ↦ (preserves_ask _).bind fun _ ↦
      (preserves_fromExcept _).bind fun _ ↦ (preserves_ask _).bind fun _ ↦
        preserves_appendRevision _
  | correct uuid profile sourceRef reason =>
    exact (preserves_ask _).bind fun _ ↦ (preserves_fromExcept _).bind fun _ ↦
      (preserves_fromExcept _).bind fun _ ↦ (preserves_ask _).bind fun _ ↦
        preserves_appendRevision _
  | retire uuid toolId sourceRef reason =>
    exact (preserves_ask _).bind fun _ ↦ (preserves_fromExcept _).bind fun _ ↦
      preserves_appendRevision _

/-! ### Runs -/

/-- An inventory and the calls on it. -/
abbrev ToolWorld : Type := Labelled ToolOperation ToolDb ToolRaised ToolInventoryRevision

/-- Something that happens to them. -/
abbrev ToolEvent : Type := SharedEvent ToolOperation ToolRaised

def newInventory : ToolWorld := ⟨⟨[], []⟩, []⟩

/-- What happens next. -/
def stepTools : ToolWorld → ToolEvent → Option ToolWorld := stepLabelled toolProgram

/-- While a call is under way, what it checks stays as it is. -/
def ChecksUndisturbed (w : ToolWorld) (event : ToolEvent) : Prop :=
  Undisturbed KeepsChecks KeepsChecks toolProgram w event

/-- A profile that is stored reads back as itself. In every run of calls on a new inventory, whatever
their interleaving, every row holds a profile. In every such run that disturbs no call, the inventory is
in order. -/
theorem tool_inventory {events : List ToolEvent} {w : ToolWorld}
    (hrun : runEvents stepTools newInventory events = some w) :
    (∀ profile : SemanticToolProfile, profileFromJson profile.json.canonical = .ok profile) ∧
    (∀ row ∈ w.shared.store, ∃ profile, row.Stores profile ∧
      revisionOf row = .ok (row.revision profile)) ∧
    (EveryStep stepTools ChecksUndisturbed newInventory events → InventoryInOrder w.shared.store) := by
  refine ⟨profileFromJson_json, fun row hrow ↦ ?_, fun hundisturbed ↦ ?_⟩
  · have hstart : newInventory.shared.Kept AllStored (fun _ _ ↦ True) fun _ _ _ ↦ True :=
      ⟨List.forall_mem_nil _, List.forall_mem_nil _⟩
    have hcalls : ∀ operation s, AllStored s → Keeps AllStored (fun _ _ ↦ True) (fun _ _ _ ↦ True)
        false (toolProgram operation) s :=
      fun operation s _ ↦ (preserves_toolProgram operation).keeps false s
    obtain ⟨-, hkept⟩ := kept_of_run hcalls hstart (shared_of_runLabelled hrun)
    obtain ⟨profile, hstores⟩ := hkept.store row hrow
    exact ⟨profile, hstores, hstores.revisionOf⟩
  · have hstart : newInventory.KeptUnder KeepsChecks KeepsChecks InventoryInvariant Extends
        fun _ _ _ _ ↦ True := by
      refine ⟨inventoryInvariant_nil, rfl, fun j operation session hoperation ↦ ?_⟩
      simp [newInventory] at hoperation
    obtain ⟨-, hkept⟩ :=
      keptUnder_of_run (fun operation s _ ↦ keeps_toolProgram operation) hstart hundisturbed hrun
    exact hkept.store.inOrder

/-! ### Two runs -/

/-- An ASCII text without whitespace. -/
def word (s : String) (hs : s.toList.all (fun c ↦ !isSpace c) = true) (hne : s ≠ "") : Text :=
  ⟨s, strip_eq_self hs, hne⟩

def compressorEndpoint : ToolEndpoint :=
  ⟨word "endpoint" (by decide) (by decide), .vst3, word "Compressor" (by decide) (by decide),
    word "setup" (by decide) (by decide)⟩

/-- A compressor under some id. -/
def compressor (toolId : Text) : SemanticToolProfile where
  toolId := toolId
  displayName := word "Compressor" (by decide) (by decide)
  endpoints := [compressorEndpoint]
  capabilities := []
  parameters := []
  stateBindings := []
  endpoints_ne := List.cons_ne_nil _ _
  endpoints_nodup := List.nodup_singleton _
  natives_nodup := List.nodup_singleton _
  endpoints_sorted := List.pairwise_singleton _ _
  candidates_nodup := List.nodup_nil
  capabilities_known := List.forall_mem_nil _
  capabilities_sorted := List.Pairwise.nil
  parameters_nodup := List.nodup_nil
  parameters_known := List.forall_mem_nil _
  parameters_sorted := List.Pairwise.nil
  states_nodup := List.nodup_nil
  states_known := List.forall_mem_nil _
  states_sorted := List.Pairwise.nil

def firstTool : Text := word "first" (by decide) (by decide)

/-- The id of another tool. -/
def secondTool : Text := word "second" (by decide) (by decide)

def registerAs (digit : Fin 10) (toolId : Text) : ToolOperation :=
  .register (uuidEnding digit) (compressor toolId) "ARTIST_DECLARED" "setup"

/-- A tool is registered, corrected and retired, and another is registered with its endpoint. -/
def sequentialEvents : List ToolEvent :=
  .start (registerAs 0 firstTool) :: List.replicate 4 (.advance 0) ++
    .start (.correct (uuidEnding 1) (compressor firstTool) "setup" "again") ::
      List.replicate 4 (.advance 1) ++
    .start (.retire (uuidEnding 2) "first" "setup" "sold") :: List.replicate 3 (.advance 2) ++
    .start (registerAs 3 secondTool) :: List.replicate 4 (.advance 3)

/-- Two tools are registered with one endpoint, and both calls read before either writes. -/
def racingEvents : List ToolEvent :=
  [.start (registerAs 0 firstTool), .start (registerAs 1 secondTool), .advance 0, .advance 0,
    .advance 1, .advance 1, .advance 0, .advance 1]

/-- One call after another, the inventory is in order. -/
theorem sample_inventory : ∃ w, runEvents stepTools newInventory sequentialEvents = some w ∧
    w.shared.store.map (fun row ↦ (row.toolId, row.state)) =
      [("first", .active), ("first", .active), ("first", .retired), ("second", .active)] ∧
    InventoryInOrder w.shared.store := by
  have hruns : (runEvents stepTools newInventory sequentialEvents).map (fun w ↦
      w.shared.store.map fun row ↦ (row.toolId, row.state)) =
        some [("first", .active), ("first", .active), ("first", .retired), ("second", .active)] := by
    decide +kernel
  have hsolo : checkSteps stepTools soloStep newInventory sequentialEvents = true := by
    decide +kernel
  obtain ⟨w, hrun, hrows⟩ := Option.map_eq_some_iff.mp hruns
  refine ⟨w, hrun, hrows, (tool_inventory hrun).2.2 ?_⟩
  exact (everyStep_of_checkSteps hsolo).mono fun _ _ hstep ↦ undisturbed_of_solo hstep

/-- Both tools are registered, their latest active revisions share an endpoint, and the store cannot be
opened again. -/
theorem shared_endpoint_registered : ∃ w, runEvents stepTools newInventory racingEvents = some w ∧
    ¬ InventoryInOrder w.shared.store ∧
    w.shared.store.validateExisting =
      .error (toolCorruption "active tool endpoint_id collision: endpoint") := by
  have hruns : (runEvents stepTools newInventory racingEvents).map (fun w ↦
      match w.shared.store.validateExisting with
      | .ok _ => none
      | .error e => some e) =
        some (some (toolCorruption "active tool endpoint_id collision: endpoint")) := by
    decide +kernel
  obtain ⟨w, hrun, hopens⟩ := Option.map_eq_some_iff.mp hruns
  have hrefused : w.shared.store.validateExisting =
      .error (toolCorruption "active tool endpoint_id collision: endpoint") := by
    rcases hresult : w.shared.store.validateExisting with e | _
    · rw [hresult] at hopens
      exact congrArg Except.error (Option.some.inj hopens)
    · rw [hresult] at hopens
      cases hopens
  refine ⟨w, hrun, fun horder ↦ ?_, hrefused⟩
  exact absurd (horder.opens.symm.trans hrefused) nofun

end N0te.Tools
