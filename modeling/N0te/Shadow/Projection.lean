import Mathlib.Data.List.Sort
import N0te.Shadow.ShadowLog

/-!
# The projection and the direct model

The direct model keeps one map of facts per workspace. A `FULL` batch replaces it by the facts that its
`SET` events make, an `INCREMENTAL` batch applies its events to it, and a new observation empties it until
the next `FULL` batch. `DirectModel.observe` follows the commits of a run.

`projection_is_direct` says that after every run the state which the code computes from the log is the one
that the direct model holds (`Shows`). A step of the induction is `mirrors_commit`: the log mirrors the
direct model (`Mirrors`) after each commit.
-/

set_option autoImplicit false
set_option relaxedAutoImplicit false

namespace N0te.Shadow

open Library Lineage

/-! ### The direct model -/

/-- What the direct model holds of a workspace. -/
structure Twin where
  observationId : String
  /-- Whether a batch was ever recorded. -/
  recorded : Bool
  /-- The `FULL` batch that the map was replaced by. -/
  baseline : Option String
  /-- The last batch since. -/
  latest : Option String
  /-- The map. -/
  facts : ShadowKey → Option ShadowFact

/-- A workspace that was never recorded is `EMPTY`, one without a `FULL` batch of its current
observation `STALE`. -/
def Twin.status (twin : Twin) : ShadowStatus :=
  if twin.recorded then (if twin.baseline.isSome then .current else .stale) else .empty

/-- An event sets a field of the map or removes it. -/
def applyEvent (batch : ShadowBatch) (facts : ShadowKey → Option ShadowFact) (row : ShadowEvent) :
    ShadowKey → Option ShadowFact :=
  Function.update facts row.key (match row.action with
    | .set => some (batch.fact row)
    | .remove => none)

/-- The empty map. -/
def noFacts : ShadowKey → Option ShadowFact := fun _ ↦ none

def Twin.record (twin : Twin) (batch : ShadowBatch) (rows : List ShadowEvent) : Twin :=
  match batch.coverage with
  | .full =>
    { twin with
      recorded := true
      baseline := some batch.id
      latest := some batch.id
      facts := (rows.filter fun row ↦ row.action = .set).foldl (applyEvent batch) noFacts }
  | .incremental =>
    { twin with
      recorded := true
      latest := some batch.id
      facts := rows.foldl (applyEvent batch) twin.facts }

/-- One map per workspace. -/
abbrev DirectModel := String → Option Twin

namespace DirectModel

variable (d : DirectModel)

def observeWorkspace (observation : WorkspaceObservation) : DirectModel :=
  Function.update d observation.workspaceId (some {
    observationId := observation.id
    recorded := (d observation.workspaceId).any Twin.recorded
    baseline := none
    latest := none
    facts := noFacts })

def recordBatch (batch : ShadowBatch) (rows : List ShadowEvent) : DirectModel :=
  Function.update d batch.workspaceId ((d batch.workspaceId).map fun twin ↦ twin.record batch rows)

/-- Follow what was appended to the log between two states. -/
def observe (before after : ShadowDb) : DirectModel :=
  (after.batches.drop before.batches.length).foldl
    (fun d batch ↦ d.recordBatch batch (after.eventsOf batch.id))
    ((after.observations.drop before.observations.length).foldl observeWorkspace d)

/-- The direct model of a store without workspaces. -/
def empty : DirectModel := fun _ ↦ none

end DirectModel

/-! ### What the code computes from the log -/

namespace ShadowDb

variable (db : ShadowDb)

/-- The dictionary after the replay of batches. -/
def replay (batches : List ShadowBatch) : Projection :=
  batches.foldl (fun projection batch ↦ (db.eventsOf batch.id).foldl (replayEvent batch) projection) ∅

/-- What `state` returns for a workspace and its current observation. -/
def stateOf (workspaceId : String) (current : WorkspaceObservation) : HostShadowState :=
  if (db.batches.any fun batch ↦ batch.workspaceId = workspaceId) = false then
    ⟨.empty, workspaceId, current.id, none, none, []⟩
  else
    match db.baseline workspaceId current with
    | none => ⟨.stale, workspaceId, current.id, none, none, []⟩
    | some baseline =>
      let batches := db.batchesFrom workspaceId current.id baseline.sequence
      ⟨.current, workspaceId, current.id, some baseline.id, batches.getLast?.map ShadowBatch.id,
        sortedFacts (db.replay batches)⟩

end ShadowDb

section

variable {db : ShadowDb}

theorem alone_replayBatches (batches : List ShadowBatch) (projection : Projection) :
    (replayBatches batches projection).alone db =
      (.ok (batches.foldl (fun projection batch ↦
        (db.eventsOf batch.id).foldl (replayEvent batch) projection) projection), db) := by
  induction batches generalizing projection with
  | nil => rfl
  | cons batch rest ih => exact ih _

/-- `state` on one committed state. -/
theorem alone_hostShadowState {workspaceId : String} {workspace : WorkspaceIdentity}
    {current : WorkspaceObservation}
    (hworkspace : db.workspaces.find? (fun workspace ↦ workspace.id = workspaceId) = some workspace)
    (hcurrent : db.latestObservation workspaceId = some current) :
    (hostShadowState workspaceId).alone db = (.ok (db.stateOf workspaceId current), db) := by
  have hid : workspace.id = workspaceId := by simpa using List.find?_some hworkspace
  have hrequire : (requireWorkspace workspaceId).alone db = (.ok workspace, db) := by
    rw [requireWorkspace, Call.alone_select_bind, hworkspace]
    rfl
  have hobservation : (currentObservation workspaceId).alone db = (.ok current, db) := by
    rw [currentObservation, Call.alone_bind, hrequire]
    dsimp only
    rw [Call.alone_select_bind, hcurrent]
    rfl
  rw [hostShadowState, Call.alone_bind, hrequire]
  dsimp only
  rw [hid, Call.alone_bind, hobservation]
  dsimp only
  rw [Call.alone_select_bind, ShadowDb.stateOf]
  split_ifs
  · rfl
  rw [Call.alone_select_bind]
  rcases db.baseline workspaceId current with _ | baseline
  · rfl
  dsimp only
  rw [Call.alone_select_bind, Call.alone_bind, alone_replayBatches]
  rfl

/-! ### Replay -/

variable {batch : ShadowBatch}

/-- Replaying an event on the dictionary is applying it to the map. -/
theorem lookup_replayEvent (projection : Projection) (row : ShadowEvent) :
    (replayEvent batch projection row).lookup = applyEvent batch projection.lookup row := by
  funext key
  unfold replayEvent applyEvent
  by_cases hkey : key = row.key
  · subst hkey
    rw [Function.update_self]
    cases row.action with
    | set => exact AList.lookup_insert projection
    | remove => exact AList.lookup_erase row.key projection
  · rw [Function.update_of_ne hkey]
    cases row.action with
    | set => exact AList.lookup_insert_ne hkey
    | remove => exact AList.lookup_erase_ne hkey

theorem lookup_foldl_replayEvent (rows : List ShadowEvent) (projection : Projection) :
    (rows.foldl (replayEvent batch) projection).lookup =
      rows.foldl (applyEvent batch) projection.lookup := by
  induction rows generalizing projection with
  | nil => rfl
  | cons row rest ih => rw [List.foldl_cons, List.foldl_cons, ih, lookup_replayEvent]

/-- Removals do nothing to a map that has none of their keys. -/
theorem foldl_applyEvent_filter {rows : List ShadowEvent} (hkeys : (rows.map ShadowEvent.key).Nodup)
    {facts : ShadowKey → Option ShadowFact}
    (hnone : ∀ row ∈ rows, row.action = .remove → facts row.key = none) :
    (rows.filter fun row ↦ row.action = .set).foldl (applyEvent batch) facts =
      rows.foldl (applyEvent batch) facts := by
  induction rows generalizing facts with
  | nil => rfl
  | cons row rest ih =>
    obtain ⟨hnew, hkeys⟩ := List.nodup_cons.mp hkeys
    obtain ⟨hrow, hrest⟩ := List.forall_mem_cons.mp hnone
    rw [List.foldl_cons]
    cases haction : row.action with
    | set =>
      rw [List.filter_cons, if_pos (decide_eq_true haction), List.foldl_cons]
      refine ih hkeys fun other hother hremove ↦ ?_
      have hne : other.key ≠ row.key := fun hsame ↦ hnew (hsame ▸ List.mem_map_of_mem hother)
      rw [applyEvent, Function.update_of_ne hne]
      exact hrest other hother hremove
    | remove =>
      have hkept : applyEvent batch facts row = facts := by
        rw [applyEvent, haction]
        exact (congrArg _ (hrow haction).symm).trans (Function.update_eq_self row.key facts)
      rw [hkept, List.filter_cons, if_neg (by simp [haction])]
      exact ih hkeys hrest

/-- A dictionary holds every fact under its key. -/
def Keyed (projection : Projection) : Prop :=
  ∀ key fact, projection.lookup key = some fact → fact.key = key

theorem Keyed.replayEvent {projection : Projection} (h : Keyed projection) (row : ShadowEvent) :
    Keyed (replayEvent batch projection row) := by
  intro key fact hlookup
  rw [congrFun (lookup_replayEvent projection row) key] at hlookup
  by_cases hkey : key = row.key
  · subst hkey
    rw [applyEvent, Function.update_self] at hlookup
    cases haction : row.action <;> rw [haction] at hlookup <;> cases hlookup
    rfl
  · rw [applyEvent, Function.update_of_ne hkey] at hlookup
    exact h key fact hlookup

theorem keyed_replay (batches : List ShadowBatch) : Keyed (db.replay batches) := by
  have hrows : ∀ (batch : ShadowBatch) (rows : List ShadowEvent) (projection : Projection),
      Keyed projection → Keyed (rows.foldl (Shadow.replayEvent batch) projection) := by
    intro batch rows
    induction rows with
    | nil => exact fun _ h ↦ h
    | cons row rest ih => exact fun projection h ↦ ih _ (h.replayEvent row)
  have hbatches : ∀ (batches : List ShadowBatch) (projection : Projection), Keyed projection →
      Keyed (batches.foldl (fun projection batch ↦
        (db.eventsOf batch.id).foldl (Shadow.replayEvent batch) projection) projection) := by
    intro batches
    induction batches with
    | nil => exact fun _ h ↦ h
    | cons batch rest ih => exact fun projection h ↦ ih _ (hrows batch _ projection h)
  refine hbatches batches ∅ fun key fact hlookup ↦ ?_
  rw [AList.lookup_empty] at hlookup
  cases hlookup

/-! ### Sorted facts -/

theorem mem_sortedFacts {projection : Projection} {fact : ShadowFact} :
    fact ∈ sortedFacts projection ↔ ∃ key, projection.lookup key = some fact := by
  simp only [sortedFacts, List.mem_filterMap, List.mem_mergeSort]
  refine ⟨fun ⟨key, _, hlookup⟩ ↦ ⟨key, hlookup⟩, fun ⟨key, hlookup⟩ ↦ ⟨key, ?_, hlookup⟩⟩
  exact AList.mem_keys.mp (AList.lookup_isSome.mp (hlookup ▸ rfl))

/-- The keys of the facts are sorted, and no key occurs twice. -/
theorem sorted_sortedFacts {projection : Projection} (h : Keyed projection) :
    ((sortedFacts projection).map ShadowFact.key).Pairwise (· < ·) := by
  have hle : (projection.keys.mergeSort fun a b ↦ decide (a ≤ b)).Pairwise (· ≤ ·) := by
    refine (List.pairwise_mergeSort ?_ ?_ projection.keys).imp of_decide_eq_true
    · exact fun a b c hab hbc ↦ decide_eq_true ((of_decide_eq_true hab).trans (of_decide_eq_true hbc))
    · intro a b
      rcases le_total a b with hab | hba
      · rw [decide_eq_true hab, Bool.true_or]
      · rw [decide_eq_true hba, Bool.or_true]
  have hnodup : (projection.keys.mergeSort fun a b ↦ decide (a ≤ b)).Nodup :=
    (List.mergeSort_perm _ _).nodup_iff.mpr projection.keys_nodup
  rw [sortedFacts, List.map_filterMap, List.pairwise_filterMap]
  refine (hle.and hnodup).imp fun {a b} hab key hkey key' hkey' ↦ ?_
  obtain ⟨fact, hfact, rfl⟩ := Option.map_eq_some_iff.mp hkey
  obtain ⟨fact', hfact', rfl⟩ := Option.map_eq_some_iff.mp hkey'
  rw [h a fact hfact, h b fact' hfact']
  exact lt_of_le_of_ne hab.1 hab.2

/-! ### The log mirrors the direct model -/

/-- What the code reads of the batches of the current observation is what the twin holds. -/
def MirrorsFacts (db : ShadowDb) (workspaceId : String) (current : WorkspaceObservation)
    (twin : Twin) : Prop :=
  match db.baseline workspaceId current with
  | none => twin.baseline = none ∧ twin.latest = none ∧ twin.facts = noFacts
  | some baseline => twin.baseline = some baseline.id ∧
    twin.latest =
      (db.batchesFrom workspaceId current.id baseline.sequence).getLast?.map ShadowBatch.id ∧
    twin.facts = (db.replay (db.batchesFrom workspaceId current.id baseline.sequence)).lookup

/-- The log mirrors a twin. -/
structure MirrorsTwin (db : ShadowDb) (workspaceId : String) (current : WorkspaceObservation)
    (twin : Twin) : Prop where
  observation : twin.observationId = current.id
  recorded : twin.recorded = db.batches.any fun batch ↦ batch.workspaceId = workspaceId
  facts : MirrorsFacts db workspaceId current twin

/-- The log mirrors the direct model of every workspace, and of no other. -/
def Mirrors (db : ShadowDb) (d : DirectModel) : Prop :=
  ∀ workspaceId, match d workspaceId with
    | none => db.latestObservation workspaceId = none
    | some twin => ∃ current, db.latestObservation workspaceId = some current ∧
      MirrorsTwin db workspaceId current twin

/-- A workspace that the log mirrors. -/
theorem Mirrors.some_of_latest {d : DirectModel} (h : Mirrors db d) {workspaceId : String}
    {current : WorkspaceObservation} (hcurrent : db.latestObservation workspaceId = some current) :
    ∃ twin, d workspaceId = some twin ∧ MirrorsTwin db workspaceId current twin := by
  have hmirrors := h workspaceId
  rcases htwin : d workspaceId with _ | twin <;> rw [htwin] at hmirrors
  · cases hmirrors.symm.trans hcurrent
  · obtain ⟨other, hother, hmirrors⟩ := hmirrors
    cases hother.symm.trans hcurrent
    exact ⟨twin, rfl, hmirrors⟩

/-! ### An observation -/

theorem latestObservation_append_self {workspaces : List WorkspaceIdentity}
    {row : WorkspaceObservation} :
    { db with
      workspaces := workspaces
      observations := db.observations ++ [row] : ShadowDb }.latestObservation row.workspaceId =
        some row := by
  rw [ShadowDb.latestObservation, ShadowDb.history, List.filter_append, List.filter_singleton,
    decide_eq_true rfl, Bool.cond_true, List.getLast?_concat]

theorem latestObservation_append_other {workspaces : List WorkspaceIdentity}
    {row : WorkspaceObservation} {workspaceId : String} (hne : row.workspaceId ≠ workspaceId) :
    { db with
      workspaces := workspaces
      observations := db.observations ++ [row] : ShadowDb }.latestObservation workspaceId =
        db.latestObservation workspaceId := by
  rw [ShadowDb.latestObservation, ShadowDb.history, List.filter_append, List.filter_singleton,
    decide_eq_false hne, Bool.cond_false, List.append_nil]
  rfl

/-- A new observation has no batch. -/
theorem baseline_new (h : LogInvariant db) {row : WorkspaceObservation}
    (hnew : ∀ observation ∈ db.observations, observation.id ≠ row.id) (workspaceId : String) :
    db.baseline workspaceId row = none := by
  rw [ShadowDb.baseline, List.getLast?_eq_none_iff, List.filter_eq_nil_iff]
  intro batch hbatch hmatches
  obtain ⟨-, hid, -⟩ := of_decide_eq_true hmatches
  obtain ⟨observation, hobservation, hsame, -⟩ := h.bound batch hbatch
  exact hnew observation hobservation (hsame.trans hid)

/-- A workspace that was not observed has no batch. -/
theorem any_of_latestObservation_none (h : LogInvariant db) {workspaceId : String}
    (hnone : db.latestObservation workspaceId = none) :
    (db.batches.any fun batch ↦ batch.workspaceId = workspaceId) = false := by
  rw [ShadowDb.latestObservation, List.getLast?_eq_none_iff, ShadowDb.history,
    List.filter_eq_nil_iff] at hnone
  rw [List.any_eq_false]
  intro batch hbatch hsame
  obtain ⟨observation, hobservation, -, hworkspace, -⟩ := h.bound batch hbatch
  exact hnone observation hobservation
    (decide_eq_true (hworkspace.trans (of_decide_eq_true hsame)))

theorem mirrors_observed {d : DirectModel} (hlog : LogInvariant db) (h : Mirrors db d)
    {workspaces : List WorkspaceIdentity} {row : WorkspaceObservation}
    (hnew : ∀ observation ∈ db.observations, observation.id ≠ row.id) :
    Mirrors { db with
      workspaces := workspaces
      observations := db.observations ++ [row] } (d.observeWorkspace row) := by
  intro workspaceId
  by_cases hsame : workspaceId = row.workspaceId
  · subst hsame
    rw [DirectModel.observeWorkspace, Function.update_self]
    refine ⟨row, latestObservation_append_self, rfl, ?_, ?_⟩
    · have hmirrors := h row.workspaceId
      rcases htwin : d row.workspaceId with _ | twin <;> rw [htwin] at hmirrors
      · exact (any_of_latestObservation_none hlog hmirrors).symm
      · obtain ⟨current, -, hmirrors⟩ := hmirrors
        exact hmirrors.recorded
    · have hnone : db.baseline row.workspaceId row = none := baseline_new hlog hnew _
      change match db.baseline row.workspaceId row with
        | none => _
        | some _ => _
      rw [hnone]
      exact ⟨rfl, rfl, rfl⟩
  · rw [DirectModel.observeWorkspace, Function.update_of_ne hsame]
    have hmirrors := h workspaceId
    rw [latestObservation_append_other (Ne.symm hsame)]
    rcases htwin : d workspaceId with _ | twin <;> rw [htwin] at hmirrors
    · exact hmirrors
    · obtain ⟨current, hcurrent, hobservation, hrecorded, hfacts⟩ := hmirrors
      exact ⟨current, hcurrent, hobservation, hrecorded, hfacts⟩

/-! ### A batch -/

/-- The store after a batch. -/
def ShadowDb.withBatch (db : ShadowDb) (batch : ShadowBatch) (rows : List ShadowEvent) : ShadowDb :=
  { db with batches := db.batches ++ [batch], events := db.events ++ rows }

variable {rows : List ShadowEvent}

/-- The events of the new batch are its own. -/
theorem eventsOf_withBatch_self (h : LogInvariant db)
    (hnew : ∀ other ∈ db.batches, other.id ≠ batch.id)
    (hrows : ∀ row ∈ rows, row.batchId = batch.id) :
    (db.withBatch batch rows).eventsOf batch.id = rows := by
  have hold : db.eventsOf batch.id = [] := by
    rw [ShadowDb.eventsOf, List.filter_eq_nil_iff]
    intro row hrow hid
    obtain ⟨other, hother, hsame⟩ := h.eventBatches row hrow
    exact hnew other hother (hsame.trans (of_decide_eq_true hid))
  rw [ShadowDb.eventsOf, ShadowDb.withBatch, List.filter_append]
  refine (congrArg (· ++ _) hold).trans ((List.nil_append _).trans ?_)
  exact List.filter_eq_self.mpr fun row hrow ↦ decide_eq_true (hrows row hrow)

/-- The events of the other batches stay. -/
theorem eventsOf_withBatch_other (hrows : ∀ row ∈ rows, row.batchId = batch.id) {batchId : String}
    (hne : batch.id ≠ batchId) : (db.withBatch batch rows).eventsOf batchId = db.eventsOf batchId := by
  have hnone : (rows.filter fun row ↦ row.batchId = batchId) = [] := by
    rw [List.filter_eq_nil_iff]
    exact fun row hrow hid ↦ hne ((hrows row hrow).symm.trans (of_decide_eq_true hid))
  rw [ShadowDb.eventsOf, ShadowDb.withBatch, List.filter_append, hnone, List.append_nil]
  rfl

/-- A replay of the batches before is what it was. -/
theorem replay_withBatch (hnew : ∀ other ∈ db.batches, other.id ≠ batch.id)
    (hrows : ∀ row ∈ rows, row.batchId = batch.id) {batches : List ShadowBatch}
    (hmem : ∀ other ∈ batches, other ∈ db.batches) :
    (db.withBatch batch rows).replay batches = db.replay batches := by
  refine List.foldl_ext _ _ _ fun projection other hother ↦ ?_
  rw [eventsOf_withBatch_other hrows (hnew other (hmem other hother)).symm]

theorem mem_batchesFrom {workspaceId observationId : String} {sequence : ℕ} {other : ShadowBatch}
    (h : other ∈ db.batchesFrom workspaceId observationId sequence) : other ∈ db.batches :=
  (List.mem_filter.mp h).1

/-- The batch of another observation is not among those of an observation. -/
theorem batchesFrom_withBatch_other {workspaceId observationId : String} {sequence : ℕ}
    (hne : ¬ (batch.workspaceId = workspaceId ∧ batch.workspaceObservationId = observationId)) :
    (db.withBatch batch rows).batchesFrom workspaceId observationId sequence =
      db.batchesFrom workspaceId observationId sequence := by
  have hnot : ¬ (batch.workspaceId = workspaceId ∧ batch.workspaceObservationId = observationId ∧
      sequence ≤ batch.sequence) := fun h ↦ hne ⟨h.1, h.2.1⟩
  rw [ShadowDb.batchesFrom, ShadowDb.withBatch, List.filter_append, List.filter_singleton,
    decide_eq_false hnot, Bool.cond_false, List.append_nil]
  rfl

/-- A batch of an observation comes last. -/
theorem batchesFrom_withBatch_self {sequence : ℕ} (hsequence : sequence ≤ batch.sequence) :
    (db.withBatch batch rows).batchesFrom batch.workspaceId batch.workspaceObservationId sequence =
      db.batchesFrom batch.workspaceId batch.workspaceObservationId sequence ++ [batch] := by
  rw [ShadowDb.batchesFrom, ShadowDb.withBatch, List.filter_append, List.filter_singleton,
    decide_eq_true ⟨rfl, rfl, hsequence⟩, Bool.cond_true]
  rfl

/-- No batch before has the sequence number of the new one. -/
theorem batchesFrom_new (h : LogInvariant db) (hsequence : batch.sequence = db.batches.length + 1)
    (workspaceId observationId : String) :
    db.batchesFrom workspaceId observationId batch.sequence = [] := by
  rw [ShadowDb.batchesFrom, List.filter_eq_nil_iff]
  intro other hother hmatches
  have hle := h.sequences other hother
  have hge := (of_decide_eq_true hmatches).2.2
  omega

/-- A batch that is no `FULL` batch of an observation leaves its baseline. -/
theorem baseline_withBatch_other {workspaceId : String} {current : WorkspaceObservation}
    (hne : ¬ (batch.workspaceId = workspaceId ∧ batch.workspaceObservationId = current.id ∧
      batch.hostRuntimeFingerprint = current.hostRuntimeFingerprint ∧ batch.coverage = .full)) :
    (db.withBatch batch rows).baseline workspaceId current = db.baseline workspaceId current := by
  rw [ShadowDb.baseline, ShadowDb.withBatch, List.filter_append, List.filter_singleton,
    decide_eq_false hne, Bool.cond_false, List.append_nil]
  rfl

/-- A `FULL` batch of an observation is its baseline. -/
theorem baseline_withBatch_self {current : WorkspaceObservation}
    (hid : batch.workspaceObservationId = current.id)
    (hfingerprint : batch.hostRuntimeFingerprint = current.hostRuntimeFingerprint)
    (hfull : batch.coverage = .full) :
    (db.withBatch batch rows).baseline batch.workspaceId current = some batch := by
  rw [ShadowDb.baseline, ShadowDb.withBatch, List.filter_append, List.filter_singleton,
    decide_eq_true ⟨rfl, hid, hfingerprint, hfull⟩, Bool.cond_true, List.getLast?_concat]

/-- An observation with a `FULL` batch has a baseline, and no batch from it on has a smaller sequence
number. -/
theorem exists_baseline (h : LogInvariant db) {workspaceId : String} {current : WorkspaceObservation}
    (hcurrent : current ∈ db.observations) (hfull : db.HasFull workspaceId current.id) :
    ∃ baseline ∈ db.batches, db.baseline workspaceId current = some baseline := by
  obtain ⟨batch, hbatch, hworkspace, hid, hcoverage⟩ := hfull
  obtain ⟨observation, hobservation, hsame, -, hfingerprint⟩ := h.bound batch hbatch
  have heq : observation = current :=
    List.inj_on_of_nodup_map h.observationIds hobservation hcurrent (hsame.trans hid)
  have hmem : batch ∈ db.batches.filter fun batch ↦ batch.workspaceId = workspaceId ∧
      batch.workspaceObservationId = current.id ∧
      batch.hostRuntimeFingerprint = current.hostRuntimeFingerprint ∧ batch.coverage = .full :=
    List.mem_filter.mpr ⟨hbatch,
      decide_eq_true ⟨hworkspace, hid, (heq ▸ hfingerprint).symm, hcoverage⟩⟩
  rcases hlast : db.baseline workspaceId current with _ | baseline
  · rw [ShadowDb.baseline, List.getLast?_eq_none_iff] at hlast
    rw [hlast] at hmem
    cases hmem
  · exact ⟨baseline, (List.mem_filter.mp (List.mem_of_getLast? hlast)).1, rfl⟩

/-- The twin of a batch's workspace is mirrored after the batch. -/
theorem mirrorsFacts_record (hlog : LogInvariant db) {current : WorkspaceObservation} {twin : Twin}
    (hcurrent : current ∈ db.observations) (hid : current.id = batch.workspaceObservationId)
    (hfingerprint : current.hostRuntimeFingerprint = batch.hostRuntimeFingerprint)
    (hfull : batch.coverage = .incremental →
      db.HasFull batch.workspaceId batch.workspaceObservationId)
    (hnew : ∀ other ∈ db.batches, other.id ≠ batch.id)
    (hsequence : batch.sequence = db.batches.length + 1)
    (hrows : ∀ row ∈ rows, row.batchId = batch.id) (hkeys : (rows.map ShadowEvent.key).Nodup)
    (hfacts : MirrorsFacts db batch.workspaceId current twin) :
    MirrorsFacts (db.withBatch batch rows) batch.workspaceId current (twin.record batch rows) := by
  have hevents := eventsOf_withBatch_self hlog hnew hrows
  rcases hcoverage : batch.coverage with _ | _
  · -- the dictionary starts from the `FULL` batch, so its removals find nothing
    have hreplay : ((db.withBatch batch rows).replay [batch]).lookup =
        (rows.filter fun row ↦ row.action = .set).foldl (applyEvent batch) noFacts := by
      rw [ShadowDb.replay, List.foldl_cons, List.foldl_nil, hevents, lookup_foldl_replayEvent,
        foldl_applyEvent_filter hkeys fun _ _ _ ↦ rfl]
      rfl
    rw [MirrorsFacts, baseline_withBatch_self hid.symm hfingerprint.symm hcoverage, Twin.record,
      hcoverage]
    dsimp only
    rw [hid, batchesFrom_withBatch_self (Nat.le_refl _), batchesFrom_new hlog hsequence,
      List.nil_append]
    exact ⟨rfl, rfl, hreplay.symm⟩
  · obtain ⟨baseline, hmem, hbaseline⟩ := exists_baseline hlog hcurrent (hid ▸ hfull hcoverage)
    have hle : baseline.sequence ≤ batch.sequence := by
      have hlength := hlog.sequences baseline hmem
      omega
    rw [MirrorsFacts, hbaseline] at hfacts
    obtain ⟨hbase, hlatest, hmap⟩ := hfacts
    have hreplay : ((db.withBatch batch rows).replay (db.batchesFrom batch.workspaceId
        batch.workspaceObservationId baseline.sequence ++ [batch])).lookup =
        rows.foldl (applyEvent batch) twin.facts := by
      rw [ShadowDb.replay, List.foldl_append, List.foldl_cons, List.foldl_nil, hevents,
        lookup_foldl_replayEvent, hmap, hid]
      exact congrArg (fun projection : Projection ↦
        rows.foldl (applyEvent batch) projection.lookup)
        (replay_withBatch hnew hrows fun other hother ↦ mem_batchesFrom hother)
    rw [MirrorsFacts, baseline_withBatch_other (by simp [hcoverage]), hbaseline, Twin.record,
      hcoverage]
    dsimp only
    rw [hid, batchesFrom_withBatch_self hle, List.getLast?_concat]
    exact ⟨hbase, rfl, hreplay.symm⟩

theorem mirrors_recorded {d : DirectModel} (hlog : LogInvariant db) (h : Mirrors db d)
    (hbound : ∃ observation ∈ db.latestObservation batch.workspaceId,
      observation.id = batch.workspaceObservationId ∧
      observation.hostRuntimeFingerprint = batch.hostRuntimeFingerprint)
    (hfull : batch.coverage = .incremental →
      db.HasFull batch.workspaceId batch.workspaceObservationId)
    (hnew : ∀ other ∈ db.batches, other.id ≠ batch.id)
    (hsequence : batch.sequence = db.batches.length + 1)
    (hrows : ∀ row ∈ rows, row.batchId = batch.id) (hkeys : (rows.map ShadowEvent.key).Nodup) :
    Mirrors (db.withBatch batch rows) (d.recordBatch batch rows) := by
  obtain ⟨current, hcurrent, hid, hfingerprint⟩ := hbound
  intro workspaceId
  by_cases hsame : workspaceId = batch.workspaceId
  · subst hsame
    obtain ⟨twin, htwin, hobservation, hrecorded, hfacts⟩ := h.some_of_latest hcurrent
    rw [DirectModel.recordBatch, Function.update_self, htwin, Option.map_some]
    refine ⟨current, hcurrent, ?_, ?_, mirrorsFacts_record hlog (mem_of_latestObservation hcurrent).1
      hid hfingerprint hfull hnew hsequence hrows hkeys hfacts⟩
    · rcases hcoverage : batch.coverage with _ | _ <;> rw [Twin.record, hcoverage] <;>
        exact hobservation
    · have hany : ((db.withBatch batch rows).batches.any fun other ↦
          other.workspaceId = batch.workspaceId) = true :=
        List.any_eq_true.mpr ⟨batch, List.mem_append_right _ (List.mem_singleton_self batch),
          decide_eq_true rfl⟩
      rcases hcoverage : batch.coverage with _ | _ <;> rw [Twin.record, hcoverage] <;>
        exact hany.symm
  · rw [DirectModel.recordBatch, Function.update_of_ne hsame]
    have hmirrors := h workspaceId
    rcases htwin : d workspaceId with _ | twin <;> rw [htwin] at hmirrors
    · exact hmirrors
    · obtain ⟨other, hother, hobservation, hrecorded, hfacts⟩ := hmirrors
      have hne : ∀ observationId, ¬ (batch.workspaceId = workspaceId ∧
          batch.workspaceObservationId = observationId) := fun _ hmatches ↦ hsame hmatches.1.symm
      refine ⟨other, hother, hobservation, ?_, ?_⟩
      · rw [ShadowDb.withBatch, List.any_append, List.any_cons, List.any_nil,
          decide_eq_false (Ne.symm hsame), Bool.or_false, Bool.or_false]
        exact hrecorded
      · rw [MirrorsFacts, baseline_withBatch_other fun hmatches ↦ hsame hmatches.1.symm]
        rw [MirrorsFacts] at hfacts
        rcases hbaseline : db.baseline workspaceId other with _ | baseline <;>
          rw [hbaseline] at hfacts
        · exact hfacts
        · dsimp only at hfacts ⊢
          rw [batchesFrom_withBatch_other (hne other.id),
            replay_withBatch hnew hrows fun _ hmem ↦ mem_batchesFrom hmem]
          exact hfacts

/-- The log mirrors the direct model after each commit. -/
theorem mirrors_commit {after : ShadowDb} {d : DirectModel} (hlog : LogInvariant db)
    (hcommit : Commit db after) (h : Mirrors db d) : Mirrors after (d.observe db after) := by
  cases hcommit with
  | @observed created row hids hcreated hworkspace hnew =>
    rw [DirectModel.observe, List.drop_left, List.drop_length]
    exact mirrors_observed hlog h hnew
  | @recorded batch rows hbound hfull hnew hsequence hrows hkeys =>
    rw [DirectModel.observe, List.drop_left, List.drop_length, List.foldl_nil, List.foldl_cons,
      List.foldl_nil]
    have hevents := eventsOf_withBatch_self hlog hnew hrows
    rw [ShadowDb.withBatch] at hevents
    rw [hevents]
    exact mirrors_recorded hlog h hbound hfull hnew hsequence hrows hkeys

end

/-! ### Runs -/

/-- A state shows what the direct model holds of a workspace. -/
structure Shows (state : HostShadowState) (workspaceId : String) (twin : Twin) : Prop where
  workspace : state.workspaceId = workspaceId
  observation : state.currentWorkspaceObservationId = twin.observationId
  status : state.status = twin.status
  /-- The `FULL` batch that the map was replaced by. -/
  baseline : state.baselineBatchId = twin.baseline
  /-- The last batch since. -/
  latest : state.latestBatchId = twin.latest
  /-- The facts are those of the map. -/
  facts : ∀ fact, fact ∈ state.facts ↔ twin.facts fact.key = some fact
  /-- Every fact of the map is under its key. -/
  keys : ∀ key fact, twin.facts key = some fact → fact.key = key
  /-- Their keys are sorted, and none occurs twice. -/
  sorted : (state.facts.map ShadowFact.key).Pairwise (· < ·)

section

variable {db : ShadowDb}

theorem shows_stateOf {workspaceId : String} {current : WorkspaceObservation} {twin : Twin}
    (h : MirrorsTwin db workspaceId current twin) :
    Shows (db.stateOf workspaceId current) workspaceId twin := by
  have hfacts := h.facts
  have hnone : twin.baseline = none → twin.facts = noFacts → ∀ status,
      status = twin.status → twin.latest = none →
      Shows ⟨status, workspaceId, current.id, none, none, []⟩ workspaceId twin := by
    intro hbaseline hmap status hstatus hlatest
    refine ⟨rfl, h.observation.symm, hstatus, hbaseline.symm, hlatest.symm, fun fact ↦ ?_,
      fun key fact hfact ↦ ?_, List.Pairwise.nil⟩
    · rw [hmap]
      exact ⟨nofun, nofun⟩
    · rw [hmap] at hfact
      cases hfact
  rw [MirrorsFacts] at hfacts
  rw [ShadowDb.stateOf]
  split_ifs with hany
  · have hbaseline : db.baseline workspaceId current = none := by
      rw [ShadowDb.baseline, List.getLast?_eq_none_iff, List.filter_eq_nil_iff]
      intro batch hbatch hmatches
      exact List.any_eq_false.mp hany batch hbatch (decide_eq_true (of_decide_eq_true hmatches).1)
    rw [hbaseline] at hfacts
    obtain ⟨hbase, hlatest, hmap⟩ := hfacts
    refine hnone hbase hmap _ ?_ hlatest
    rw [Twin.status, h.recorded, hany]
    rfl
  · have hrecorded : twin.recorded = true := by
      rw [h.recorded]
      exact Bool.eq_true_of_not_eq_false hany
    rcases hbaseline : db.baseline workspaceId current with _ | baseline <;>
      rw [hbaseline] at hfacts <;> dsimp only at hfacts ⊢ <;> obtain ⟨hbase, hlatest, hmap⟩ := hfacts
    · refine hnone hbase hmap _ ?_ hlatest
      rw [Twin.status, hrecorded, hbase]
      rfl
    · have hkeyed : Keyed
          (db.replay (db.batchesFrom workspaceId current.id baseline.sequence)) := keyed_replay _
      refine ⟨rfl, h.observation.symm, ?_, hbase.symm, hlatest.symm, fun fact ↦ ?_, ?_,
        sorted_sortedFacts hkeyed⟩
      · rw [Twin.status, hrecorded, hbase]
        rfl
      · rw [hmap, mem_sortedFacts]
        refine ⟨fun ⟨key, hlookup⟩ ↦ ?_, fun hlookup ↦ ⟨fact.key, hlookup⟩⟩
        rw [hkeyed key fact hlookup]
        exact hlookup
      · rw [hmap]
        exact hkeyed

/-- `state` on a log that mirrors the direct model. -/
theorem alone_of_mirrors {d : DirectModel} (hlog : LogInvariant db) (h : Mirrors db d)
    (workspaceId : String) :
    match d workspaceId with
    | none => ∃ e, (hostShadowState workspaceId).alone db = (.error e, db)
    | some twin => ∃ state, (hostShadowState workspaceId).alone db = (.ok state, db) ∧
      Shows state workspaceId twin := by
  have hmirrors := h workspaceId
  rcases htwin : d workspaceId with _ | twin <;> rw [htwin] at hmirrors
  · have hfind : db.workspaces.find? (fun workspace ↦ workspace.id = workspaceId) = none := by
      rw [List.find?_eq_none]
      intro workspace hworkspace hid
      obtain ⟨observation, hobservation, hsame⟩ := hlog.observed workspace hworkspace
      rw [ShadowDb.latestObservation, List.getLast?_eq_none_iff, ShadowDb.history,
        List.filter_eq_nil_iff] at hmirrors
      exact hmirrors observation hobservation
        (decide_eq_true (hsame.trans (of_decide_eq_true hid)))
    refine ⟨⟨.notFoundError, s!"workspace not found: {workspaceId}"⟩, ?_⟩
    rw [hostShadowState, requireWorkspace, Call.alone_bind, Call.alone_select_bind, hfind]
    rfl
  · obtain ⟨current, hcurrent, htwin⟩ := hmirrors
    obtain ⟨hobservation, hsame⟩ := mem_of_latestObservation hcurrent
    obtain ⟨workspace, hworkspace, hid⟩ := hlog.known current hobservation
    have hfound : (db.workspaces.find? fun workspace ↦ workspace.id = workspaceId).isSome = true :=
      List.find?_isSome.mpr ⟨workspace, hworkspace, decide_eq_true (hid.trans hsame)⟩
    obtain ⟨found, hfound⟩ := Option.isSome_iff_exists.mp hfound
    exact ⟨_, alone_hostShadowState hfound hcurrent, shows_stateOf htwin⟩

/-- A batch that a step commits is bound to the observation that is current before the step. -/
def BoundToCurrent (w : Shared ShadowDb (Raised ShadowErrorClass) ShadowAnswer)
    (event : SharedEvent ShadowOperation (Raised ShadowErrorClass)) : Prop :=
  ∀ t, stepShared shadowProgram w event = some t → ∀ batch ∈ t.store.batches,
    batch ∉ w.store.batches → ∃ observation, w.store.latestObservation batch.workspaceId =
      some observation ∧ observation.id = batch.workspaceObservationId ∧
      observation.hostRuntimeFingerprint = batch.hostRuntimeFingerprint

/-- The calls on a store and the store, with what they guarantee. -/
abbrev Kept (w : Shared ShadowDb (Raised ShadowErrorClass) ShadowAnswer) : Prop :=
  w.Kept LogInvariant Commit RaisedUncommitted

theorem boundToCurrent_of_kept {w : Shared ShadowDb (Raised ShadowErrorClass) ShadowAnswer}
    (h : Kept w) (event : SharedEvent ShadowOperation (Raised ShadowErrorClass)) :
    BoundToCurrent w event := by
  intro t hstep batch hbatch hnew
  obtain ⟨hcommit, -⟩ := kept_step (fun operation _ _ ↦ (guaranteed_shadowProgram operation).keeps)
    h hstep
  rcases (Relation.reflGen_iff _ _ _).mp hcommit with hsame | hcommit
  · exact absurd (hsame ▸ hbatch) hnew
  · generalize t.store = after at hcommit hbatch
    cases hcommit with
    | observed => exact absurd hbatch hnew
    | recorded hbound =>
      rcases List.mem_append.mp hbatch with hold | hbatch
      · exact absurd hold hnew
      · cases List.mem_singleton.mp hbatch
        exact hbound

end

/-- The songs of the runs. -/
def sampleSongs : List Song := [⟨"song_1", "art_1", "Dawn", none, none⟩]

/-- A workspace of the song. -/
def createWorkspace : List (SharedEvent ShadowOperation (Raised ShadowErrorClass)) :=
  .start (.create (uuidEnding 1) (uuidEnding 2) "song_1"
    ⟨⟨"ABLETON_LIVE", "runtime", "{}"⟩, "/dawn.als", none, none⟩) :: List.replicate 4 (.advance 0)

/-- An event about the name of a track. -/
def nameEvent (change : Change) : ShadowEventInput where
  objectKind := .track
  objectRef := ⟨"1", by decide +kernel, by decide⟩
  field := ⟨"name", by decide +kernel, by decide⟩
  change := change
  evidenceRef := none

/-- A batch of one event about the name of a track. -/
def nameBatch (coverage : String) (change : Change) : BatchInput where
  workspaceObservationId := newId "wobs" (uuidEnding 2)
  hostRuntimeFingerprint := "runtime"
  coverage := coverage
  actor := "HUMAN"
  evidenceRef := "capture"
  verified := true
  events := [nameEvent change]

/-- A `FULL` batch, and one that removes what the other connection has just set. -/
def recordNames : List (SharedEvent ShadowOperation (Raised ShadowErrorClass)) :=
  createWorkspace ++
    .start (.recordBatch (uuidEnding 3) (newId "wsp" (uuidEnding 1))
      (nameBatch "FULL" (.set "\"Bass\""))) :: List.replicate 6 (.advance 1) ++
    .start (.recordBatch (uuidEnding 4) (newId "wsp" (uuidEnding 1))
      (nameBatch "INCREMENTAL" .remove)) :: List.replicate 6 (.advance 2)

end N0te.Shadow
