import Mathlib.Data.List.Nodup
import Mathlib.Data.List.Range
import N0te.Shadow.HostShadow

/-!
# What is committed to the log

A transaction of a workspace operation appends one observation, with its workspace when that is new, and
a transaction of `record_batch` appends one batch with its events (`Commit`). `keeps_shadowProgram` says
so of every operation, whatever others commit between its statements, and that an operation which raises
has committed nothing.
-/

set_option autoImplicit false
set_option relaxedAutoImplicit false

namespace N0te.Shadow

open Library Lineage

/-! ### Commits -/

/-- What a committed transaction appends. -/
inductive Commit (db : ShadowDb) : ShadowDb → Prop
  /-- An observation, and its workspace when that is new. -/
  | observed {created : List WorkspaceIdentity} {row : WorkspaceObservation}
      (hids : ((db.workspaces ++ created).map WorkspaceIdentity.id).Nodup)
      (hcreated : ∀ workspace ∈ created, workspace.id = row.workspaceId)
      (hworkspace : ∃ workspace ∈ db.workspaces ++ created, workspace.id = row.workspaceId)
      (hnew : ∀ observation ∈ db.observations, observation.id ≠ row.id) :
      Commit db { db with
        workspaces := db.workspaces ++ created
        observations := db.observations ++ [row] }
  /-- A batch bound to the current observation, and its events. -/
  | recorded {batch : ShadowBatch} {rows : List ShadowEvent}
      (hbound : ∃ observation ∈ db.latestObservation batch.workspaceId,
        observation.id = batch.workspaceObservationId ∧
        observation.hostRuntimeFingerprint = batch.hostRuntimeFingerprint)
      (hfull : batch.coverage = .incremental →
        db.HasFull batch.workspaceId batch.workspaceObservationId)
      (hnew : ∀ other ∈ db.batches, other.id ≠ batch.id)
      (hsequence : batch.sequence = db.batches.length + 1)
      (hrows : ∀ row ∈ rows, row.batchId = batch.id)
      (hkeys : (rows.map ShadowEvent.key).Nodup) :
      Commit db { db with batches := db.batches ++ [batch], events := db.events ++ rows }

/-- The tables fit together. -/
structure LogInvariant (db : ShadowDb) : Prop where
  /-- A workspace id names one workspace. -/
  workspaceIds : (db.workspaces.map WorkspaceIdentity.id).Nodup
  observed : ∀ workspace ∈ db.workspaces, ∃ observation ∈ db.observations,
    observation.workspaceId = workspace.id
  known : ∀ observation ∈ db.observations, ∃ workspace ∈ db.workspaces,
    workspace.id = observation.workspaceId
  /-- An observation id names one observation. -/
  observationIds : (db.observations.map WorkspaceObservation.id).Nodup
  /-- A batch id names one batch. -/
  batchIds : (db.batches.map ShadowBatch.id).Nodup
  /-- Sequence numbers are those of the rows. -/
  sequences : ∀ batch ∈ db.batches, batch.sequence ≤ db.batches.length
  /-- A batch is of an observation of its workspace. -/
  bound : ∀ batch ∈ db.batches, ∃ observation ∈ db.observations,
    observation.id = batch.workspaceObservationId ∧
    observation.workspaceId = batch.workspaceId ∧
    observation.hostRuntimeFingerprint = batch.hostRuntimeFingerprint
  eventBatches : ∀ row ∈ db.events, ∃ batch ∈ db.batches, batch.id = row.batchId

section

variable {db after : ShadowDb}

theorem mem_of_latestObservation {workspaceId : String} {observation : WorkspaceObservation}
    (h : db.latestObservation workspaceId = some observation) :
    observation ∈ db.observations ∧ observation.workspaceId = workspaceId := by
  obtain ⟨hmem, hworkspace⟩ := List.mem_filter.mp (List.mem_of_getLast? h)
  exact ⟨hmem, of_decide_eq_true hworkspace⟩

/-- A commit keeps the tables fitting together. -/
theorem LogInvariant.commit (h : LogInvariant db) (hcommit : Commit db after) : LogInvariant after := by
  cases hcommit with
  | @observed created row hids hcreated hworkspace hnew =>
    refine ⟨hids, fun workspace hmem ↦ ?_, fun observation hmem ↦ ?_, ?_, h.batchIds, h.sequences,
      fun batch hmem ↦ ?_, h.eventBatches⟩
    · rcases List.mem_append.mp hmem with hold | hmem
      · obtain ⟨observation, hobservation, hid⟩ := h.observed workspace hold
        exact ⟨observation, List.mem_append_left _ hobservation, hid⟩
      · exact ⟨row, List.mem_append_right _ (List.mem_singleton_self row),
          (hcreated workspace hmem).symm⟩
    · rcases List.mem_append.mp hmem with hold | hmem
      · obtain ⟨workspace, hworkspace, hid⟩ := h.known observation hold
        exact ⟨workspace, List.mem_append_left _ hworkspace, hid⟩
      · rw [List.mem_singleton.mp hmem]
        exact hworkspace
    · rw [List.map_append]
      refine h.observationIds.append (List.nodup_singleton _) ?_
      simp only [List.map_cons, List.map_nil, List.disjoint_singleton, List.mem_map, not_exists,
        not_and]
      exact hnew
    · obtain ⟨observation, hobservation, hfields⟩ := h.bound batch hmem
      exact ⟨observation, List.mem_append_left _ hobservation, hfields⟩
  | @recorded batch rows hbound hfull hnew hsequence hrows hkeys =>
    refine ⟨h.workspaceIds, h.observed, h.known, h.observationIds, ?_, fun other hmem ↦ ?_,
      List.forall_mem_append.mpr ⟨h.bound, List.forall_mem_singleton.mpr ?_⟩, fun row hmem ↦ ?_⟩
    · rw [List.map_append]
      refine h.batchIds.append (List.nodup_singleton _) ?_
      simp only [List.map_cons, List.map_nil, List.disjoint_singleton, List.mem_map, not_exists,
        not_and]
      exact hnew
    · rw [List.length_append, List.length_singleton]
      rcases List.mem_append.mp hmem with hold | hmem
      · exact (h.sequences other hold).trans (Nat.le_succ _)
      · rw [List.mem_singleton.mp hmem, hsequence]
    · obtain ⟨observation, hlatest, hid, hfingerprint⟩ := hbound
      obtain ⟨hobservation, hworkspace⟩ := mem_of_latestObservation hlatest
      exact ⟨observation, hobservation, hid, hworkspace, hfingerprint⟩
    · rcases List.mem_append.mp hmem with hold | hmem
      · obtain ⟨other, hother, hid⟩ := h.eventBatches row hold
        exact ⟨other, List.mem_append_left _ hother, hid⟩
      · exact ⟨batch, List.mem_append_right _ (List.mem_singleton_self batch),
          (hrows row hmem).symm⟩

/-- What is in the log stays. -/
theorem Commit.grows (hcommit : Commit db after) :
    db.workspaces <+: after.workspaces ∧ db.batches <+: after.batches := by
  cases hcommit with
  | observed => exact ⟨List.prefix_append _ _, List.prefix_rfl⟩
  | recorded => exact ⟨List.prefix_rfl, List.prefix_append _ _⟩

/-- It stays in every later state. -/
theorem grows_of_commits (h : Relation.ReflTransGen Commit db after) :
    db.workspaces <+: after.workspaces ∧ db.batches <+: after.batches := by
  induction h with
  | refl => exact ⟨List.prefix_rfl, List.prefix_rfl⟩
  | tail _ hcommit ih => exact ⟨ih.1.trans hcommit.grows.1, ih.2.trans hcommit.grows.2⟩

/-! ### The statements -/

/-- An observation of a workspace that is there or was just created. -/
theorem appendObservation_spec {uuid : Uuid} {workspaceId : String} {kind : ObservationKind}
    {input : ObservationInput} (happend : appendObservation uuid workspaceId kind input db = .ok after) :
    ∃ row : WorkspaceObservation, row.workspaceId = workspaceId ∧
      (∃ workspace ∈ db.workspaces, workspace.id = workspaceId) ∧
      (∀ observation ∈ db.observations, observation.id ≠ row.id) ∧
      after = { db with observations := db.observations ++ [row] } := by
  simp only [appendObservation, ShadowDb.insertObservation, bind_eq_ok, require_eq_ok,
    Except.ok.injEq] at happend
  obtain ⟨location, -, display, -, state, -, -, -, -, hnew, -, hworkspace, -, -, rfl⟩ := happend
  exact ⟨_, rfl, hworkspace, hnew, rfl⟩

/-- A new workspace and its first observation. -/
theorem commit_create {row : WorkspaceIdentity} {uuid : Uuid} {kind : ObservationKind}
    {input : ObservationInput} (h : LogInvariant db)
    (hchange : (do
      let db ← db.insertWorkspace row
      appendObservation uuid row.id kind input db) = .ok after) :
    Commit db after ∧ ∃ workspace ∈ after.workspaces, workspace.id = row.id := by
  simp only [ShadowDb.insertWorkspace, bind_eq_ok, require_eq_ok, Except.ok.injEq] at hchange
  obtain ⟨middle, ⟨-, -, -, hnew, -, -, -, -, rfl⟩, happend⟩ := hchange
  obtain ⟨observation, hid, hworkspace, hfresh, rfl⟩ := appendObservation_spec happend
  have hids : ((db.workspaces ++ [row]).map WorkspaceIdentity.id).Nodup := by
    rw [List.map_append]
    refine h.workspaceIds.append (List.nodup_singleton _) ?_
    simp only [List.map_cons, List.map_nil, List.disjoint_singleton, List.mem_map, not_exists, not_and]
    exact hnew
  refine ⟨.observed hids ?_ (hid ▸ hworkspace) hfresh, row,
    List.mem_append_right _ (List.mem_singleton_self row), rfl⟩
  exact List.forall_mem_singleton.mpr hid.symm

theorem commit_reconcile {uuid : Uuid} {workspaceId : String} {kind : ObservationKind}
    {input : ObservationInput} (h : LogInvariant db)
    (happend : appendObservation uuid workspaceId kind input db = .ok after) : Commit db after := by
  obtain ⟨observation, hid, hworkspace, hfresh, rfl⟩ := appendObservation_spec happend
  have hcommit : Commit db { db with
      workspaces := db.workspaces ++ []
      observations := db.observations ++ [observation] } := by
    refine .observed ?_ (List.forall_mem_nil _) ?_ hfresh
    · rw [List.append_nil]
      exact h.workspaceIds
    · rw [List.append_nil, hid]
      exact hworkspace
  rwa [List.append_nil] at hcommit

/-- The events of one batch are inserted when their keys differ. -/
theorem insertEvents_spec {batchId : String} {rows : List ShadowEvent}
    (hrows : ∀ row ∈ rows, row.batchId = batchId)
    (hinsert : ShadowDb.insertEvents rows db = .ok after) :
    after = { db with events := db.events ++ rows } ∧ (rows.map ShadowEvent.key).Nodup ∧
      ∀ row ∈ rows, ∀ event ∈ db.events, event.batchId = batchId → event.key ≠ row.key := by
  induction rows generalizing db with
  | nil =>
    cases hinsert
    refine ⟨?_, List.nodup_nil, List.forall_mem_nil _⟩
    rw [List.append_nil]
  | cons row rest ih =>
    simp only [ShadowDb.insertEvents, ShadowDb.insertEvent, bind_eq_ok, require_eq_ok,
      Except.ok.injEq] at hinsert
    obtain ⟨middle, ⟨-, -, -, -, -, -, -, hunique, rfl⟩, hinsert⟩ := hinsert
    obtain ⟨hrow, hrest⟩ := List.forall_mem_cons.mp hrows
    obtain ⟨rfl, hnodup, hdistinct⟩ := ih hrest hinsert
    refine ⟨?_, ?_, List.forall_mem_cons.mpr ⟨fun event hevent hid hkey ↦ ?_, fun other hother
      event hevent hid ↦ ?_⟩⟩
    · rw [List.append_assoc]
      rfl
    · refine List.nodup_cons.mpr ⟨fun hmem ↦ ?_, hnodup⟩
      obtain ⟨other, hother, hkey⟩ := List.mem_map.mp hmem
      exact hdistinct other hother row (List.mem_append_right _ (List.mem_singleton_self row)) hrow
        hkey.symm
    · exact hunique event hevent ⟨hid.trans hrow.symm, hkey⟩
    · exact hdistinct other hother event (List.mem_append_left _ hevent) hid

theorem commit_appendBatch {row : ℕ → ShadowBatch} {items : List ShadowEventInput}
    (hsequence : ∀ n, (row n).sequence = n) (happend : db.appendBatch row items = .ok after) :
    Commit db after ∧ row (db.batches.length + 1) ∈ after.batches := by
  simp only [ShadowDb.appendBatch, ShadowDb.insertBatch, bind_eq_ok, require_eq_ok,
    Except.ok.injEq] at happend
  obtain ⟨middle, ⟨-, hbound, -, hfull, -, hnew, -, -, -, -, rfl⟩, hinsert⟩ := happend
  have hrows : ∀ event ∈ items.map (ShadowEventInput.row (row (db.batches.length + 1)).id),
      event.batchId = (row (db.batches.length + 1)).id :=
    List.forall_mem_map.mpr fun _ _ ↦ rfl
  obtain ⟨rfl, hkeys, -⟩ := insertEvents_spec hrows hinsert
  exact ⟨.recorded hbound hfull hnew (hsequence _) hrows hkeys,
    List.mem_append_right _ (List.mem_singleton_self _)⟩

/-! ### The calls -/

/-- A call that raises has committed nothing. -/
def RaisedUncommitted {α : Type} (committed : Bool) (r : Except (Raised ShadowErrorClass) α)
    (_ : ShadowDb) : Prop :=
  ∀ e, r = .error e → committed = false

theorem reads_requireSong (songId : String) : Reads (requireSong songId) :=
  (reads_select _).bind fun _ ↦ reads_fromExcept _

theorem reads_requireWorkspace (workspaceId : String) : Reads (requireWorkspace workspaceId) :=
  (reads_select _).bind fun _ ↦ reads_fromExcept _

theorem reads_currentObservation (workspaceId : String) : Reads (currentObservation workspaceId) :=
  (reads_requireWorkspace workspaceId).bind fun _ ↦
    (reads_select _).bind fun _ ↦ reads_fromExcept _

theorem reads_currentCandidatesAtLocation (locationRef : String) :
    Reads (currentCandidatesAtLocation locationRef) :=
  (reads_fromExcept _).bind fun _ ↦ reads_select _

/-- What an operation guarantees from a state on. -/
structure Guaranteed {α : Type} (committed : Bool) (call : ShadowCall α) (db : ShadowDb) : Prop where
  /-- Its transactions are commits, and it raises only when it has committed nothing. -/
  keeps : Keeps LogInvariant Commit RaisedUncommitted committed call db

/-- A read of an operation that has committed nothing. -/
theorem guaranteed_reads {α β : Type} {call : ShadowCall α} {k : α → ShadowCall β} (h : Reads call)
    (hk : ∀ a t, Guaranteed false (k a) t) : Guaranteed false (call >>= k) db :=
  ⟨keeps_reads h (fun _ _ _ _ ↦ rfl) fun a t _ ↦ (hk a t).keeps⟩

theorem guaranteed_pure {α : Type} (committed : Bool) (a : α) :
    Guaranteed committed (pure a) db := ⟨nofun⟩

/-- A call without transactions. -/
theorem guaranteed_of_reads {α : Type} {call : ShadowCall α} (h : Reads call) :
    Guaranteed false call db := by
  refine ⟨?_⟩
  induction h generalizing db with
  | ended result => exact fun _ _ ↦ rfl
  | read _ ih => exact fun t _ _ ↦ ih t

/-- A transaction of an operation that has committed nothing. -/
theorem guaranteed_transaction {β : Type} {change : ShadowDb → Checked ShadowDb}
    {k : Unit → ShadowCall β} (h : ∀ s t, LogInvariant s → change s = .ok t →
      Commit s t ∧ Guaranteed true (k ⟨⟩) t) :
    Guaranteed false (.transaction change >>= k) db := by
  refine ⟨keeps_transaction (fun _ _ _ _ _ _ ↦ rfl) fun s t _ hs hchange ↦ ?_⟩
  obtain ⟨hcommit, hk⟩ := h s t hs hchange
  exact ⟨hcommit, hs.commit hcommit, hk.keeps⟩

/-- A workspace that is in the store is found in every later one. -/
theorem guaranteed_requireWorkspace {workspaceId : String} (committed : Bool)
    (h : ∃ workspace ∈ db.workspaces, workspace.id = workspaceId) :
    Guaranteed committed (requireWorkspace workspaceId) db := by
  refine ⟨keeps_select fun t hrely _ e he ↦ ?_⟩
  obtain ⟨workspace, hmem, hid⟩ := h
  have hfound : (t.workspaces.find? fun workspace ↦ workspace.id = workspaceId).isSome = true :=
    List.find?_isSome.mpr ⟨workspace, (grows_of_commits hrely).1.subset hmem, decide_eq_true hid⟩
  obtain ⟨found, hfound⟩ := Option.isSome_iff_exists.mp hfound
  rw [hfound] at he
  cases he

theorem guaranteed_create (workspace observation : Uuid) (songId : String)
    (input : ObservationInput) : Guaranteed false (create workspace observation songId input) db := by
  refine guaranteed_reads (reads_requireSong songId) fun _ _ ↦ ?_
  refine guaranteed_reads (reads_currentCandidatesAtLocation _) fun _ _ ↦ ?_
  refine guaranteed_reads (reads_fromExcept _) fun _ _ ↦ ?_
  refine guaranteed_transaction fun s t hs hchange ↦ ?_
  obtain ⟨hcommit, hworkspace⟩ := commit_create hs hchange
  exact ⟨hcommit, guaranteed_requireWorkspace true hworkspace⟩

theorem guaranteed_derive (workspace observation : Uuid) (sourceWorkspaceId songId relation : String)
    (input : ObservationInput) :
    Guaranteed false (derive workspace observation sourceWorkspaceId songId relation input) db := by
  refine guaranteed_reads (reads_requireWorkspace _) fun _ _ ↦ ?_
  refine guaranteed_reads (reads_fromExcept _) fun _ _ ↦ ?_
  refine guaranteed_reads (reads_currentCandidatesAtLocation _) fun _ _ ↦ ?_
  refine guaranteed_reads (reads_fromExcept _) fun _ _ ↦ ?_
  refine guaranteed_transaction fun s t hs hchange ↦ ?_
  obtain ⟨hcommit, hworkspace⟩ := commit_create hs hchange
  exact ⟨hcommit, guaranteed_requireWorkspace true hworkspace⟩

theorem guaranteed_reconcileExisting (observation : Uuid) (workspaceId songId relation : String)
    (input : ObservationInput) :
    Guaranteed false (reconcileExisting observation workspaceId songId relation input) db := by
  refine guaranteed_reads (reads_requireWorkspace _) fun _ _ ↦ ?_
  refine guaranteed_reads (reads_fromExcept _) fun _ _ ↦ ?_
  refine guaranteed_reads (reads_currentCandidatesAtLocation _) fun _ _ ↦ ?_
  refine guaranteed_reads (reads_fromExcept _) fun _ _ ↦ ?_
  refine guaranteed_transaction fun s t hs hchange ↦ ?_
  exact ⟨commit_reconcile hs hchange, guaranteed_pure _ _⟩

/-- The batch that was recorded is found in every later state. -/
theorem guaranteed_recordBatch (uuid : Uuid) (workspaceId : String) (input : BatchInput) :
    Guaranteed false (recordBatch uuid workspaceId input) db := by
  refine guaranteed_reads (reads_requireWorkspace _) fun _ _ ↦ ?_
  refine guaranteed_reads (reads_fromExcept _) fun _ _ ↦ ?_
  refine guaranteed_reads (reads_currentObservation _) fun _ _ ↦ ?_
  refine guaranteed_reads (reads_fromExcept _) fun _ _ ↦ ?_
  refine guaranteed_reads (reads_select _) fun _ _ ↦ ?_
  refine guaranteed_reads (reads_fromExcept _) fun _ _ ↦ ?_
  refine guaranteed_transaction fun s t hs hchange ↦ ?_
  obtain ⟨hcommit, hmem⟩ := commit_appendBatch (fun _ ↦ rfl) hchange
  refine ⟨hcommit, ⟨keeps_select fun u hrely _ e he ↦ ?_⟩⟩
  have hfound : (u.batches.find? fun batch ↦ batch.id = newId "shb" uuid).isSome = true :=
    List.find?_isSome.mpr ⟨_, (grows_of_commits hrely).2.subset hmem, decide_eq_true rfl⟩
  obtain ⟨found, hfound⟩ := Option.isSome_iff_exists.mp hfound
  rw [hfound] at he
  cases he

theorem reads_replayBatches (batches : List ShadowBatch) (projection : Projection) :
    Reads (replayBatches batches projection) := by
  induction batches generalizing projection with
  | nil => exact .ended _
  | cons batch rest ih => exact (reads_select _).bind fun rows ↦ ih _

theorem reads_hostShadowState (workspaceId : String) : Reads (hostShadowState workspaceId) := by
  refine (reads_requireWorkspace _).bind fun workspace ↦ (reads_currentObservation _).bind
    fun current ↦ (reads_select _).bind fun anyBatch ↦ ?_
  cases anyBatch with
  | false => exact .ended _
  | true =>
    refine (reads_select _).bind fun baseline ↦ ?_
    cases baseline with
    | none => exact .ended _
    | some baseline =>
      exact (reads_select _).bind fun batches ↦ (reads_replayBatches _ _).bind fun _ ↦ .ended _

theorem guaranteed_hostShadowState (workspaceId : String) :
    Guaranteed false (hostShadowState workspaceId) db :=
  guaranteed_of_reads (reads_hostShadowState workspaceId)

/-- Every operation commits one observation or one batch at a time, and one that raises has committed
nothing. -/
theorem guaranteed_shadowProgram (operation : ShadowOperation) :
    Guaranteed false (shadowProgram operation) db := by
  have hmap : ∀ {α : Type} {call : ShadowCall α} (f : α → ShadowAnswer),
      Guaranteed false call db → Guaranteed false (f <$> call) db := by
    intro α call f h
    refine ⟨keeps_bind (h.keeps.mono fun c r t hr ↦ ?_)⟩
    cases r with
    | error e => exact fun _ _ ↦ hr e rfl
    | ok a => exact nofun
  cases operation with
  | create workspace observation songId input =>
    exact hmap _ (guaranteed_create workspace observation songId input)
  | reconcileExisting observation workspaceId songId relation input =>
    exact hmap _ (guaranteed_reconcileExisting observation workspaceId songId relation input)
  | derive workspace observation sourceWorkspaceId songId relation input =>
    exact hmap _
      (guaranteed_derive workspace observation sourceWorkspaceId songId relation input)
  | recordBatch uuid workspaceId input =>
    exact hmap _ (guaranteed_recordBatch uuid workspaceId input)
  | state workspaceId => exact hmap _ (guaranteed_hostShadowState workspaceId)

end

/-- A store with songs only. -/
theorem logInvariant_withSongs (songs : List Song) : LogInvariant (.withSongs songs) where
  workspaceIds := List.nodup_nil
  observed := List.forall_mem_nil _
  known := List.forall_mem_nil _
  observationIds := List.nodup_nil
  batchIds := List.nodup_nil
  sequences := List.forall_mem_nil _
  bound := List.forall_mem_nil _
  eventBatches := List.forall_mem_nil _

end N0te.Shadow
