import N0te.Evidence.EvidenceInvariant
import N0te.Library.Interference
import N0te.Obligations.ObligationStore

/-!
# The lifecycle of obligations

`ObligationInvariant` holds of every store that calls leave behind, whatever their interleaving: the
lifecycles follow the workflow, and every row is bound to a claim of a compatible scope. That a claim is
active and a lifecycle going on is checked before the transaction only. `Bound` says that a transaction
met it, and holds of all transactions of a run in which no other call ends the lifecycle or supersedes
the claim meanwhile (`obligation_lifecycle`).
-/

set_option autoImplicit false
set_option relaxedAutoImplicit false

namespace N0te.Obligations

open Library Lineage People Evidence ObligationDb

/-! ### The workflow -/

def obligationWorkflow : Workflow ObligationStatus where
  first status := status = .opened
  next last status := last.terminal = false ∧ status ≠ last ∧
    (status = .opened → last = .blocked ∨ last = .disputed)

theorem allows_iff {past : List ObligationStatus} {status : ObligationStatus} :
    obligationWorkflow.Allows past status ↔ TransitionShape past.getLast? status := by
  unfold Workflow.Allows TransitionShape
  cases past.getLast? <;> rfl

/-! ### The invariant -/

/-- The tables of the store of a profile, where an obligation may not have begun. -/
structure ObligationTables (profile : ObligationProfile) (db : ObligationDb) : Prop where
  evidence : EvidenceInvariant profile.toProfile db.evidence
  /-- An obligation was created for the artist and a person. -/
  obligations : ∀ row ∈ db.obligations, Created "obl" row.id ∧
    row.artistId = profile.primaryArtistId ∧ (∃ person ∈ profile.people, person.id = row.personId) ∧
    (∀ followupId ∈ row.followupId, ∃ followup ∈ profile.followups, followup.id = followupId) ∧
    ∀ due ∈ row.dueOn, ∃ date : Date, due = date.isoFormat
  /-- Its claim has a compatible scope. -/
  sources : ∀ row ∈ db.obligations,
    db.ClaimMatches profile row.sourceClaimId row.artistId row.songId
  /-- An id names one obligation. -/
  ids : (db.obligations.map BusinessObligation.id).Nodup
  /-- The lifecycles follow the workflow. -/
  legal : obligationWorkflow.LegalLog ObligationEventRow.obligationId ObligationEventRow.status
    db.events
  /-- An event is one of an obligation, with a claim of a compatible scope. -/
  events : ∀ event ∈ db.events, ∃ row ∈ db.obligations, row.id = event.obligationId ∧
    db.ClaimMatches profile event.evidenceClaimId row.artistId row.songId
  /-- So is a trigger, and the obligation waits for one. -/
  triggers : ∀ trigger ∈ db.triggers, ∃ row ∈ db.obligations, row.id = trigger.obligationId ∧
    row.triggerRef.isSome = true ∧
    db.ClaimMatches profile trigger.evidenceClaimId row.artistId row.songId

/-- The invariant of the store of a profile. -/
structure ObligationInvariant (profile : ObligationProfile) (db : ObligationDb) : Prop where
  tables : ObligationTables profile db
  /-- An obligation has a lifecycle. -/
  started : ∀ row ∈ db.obligations, db.statusesOf row.id ≠ []

/-- What a transaction adds is bound to active claims, and no trigger to an obligation that ended. -/
structure Bound (db after : ObligationDb) : Prop where
  grows : Grows db.evidence after.evidence
  /-- The new events. -/
  events : ∀ event ∈ after.events, event ∈ db.events ∨ db.evidence.Active event.evidenceClaimId
  /-- The new triggers. -/
  triggers : ∀ trigger ∈ after.triggers, trigger ∈ db.triggers ∨
    db.evidence.Active trigger.evidenceClaimId ∧ ¬ db.Terminal trigger.obligationId

theorem Bound.refl (db : ObligationDb) : Bound db db :=
  ⟨.refl _, fun _ h ↦ .inl h, fun _ h ↦ .inl h⟩

section

variable {profile : ObligationProfile} {db after : ObligationDb}

theorem invariant_empty : ObligationInvariant profile .empty where
  tables :=
    { evidence := evidenceInvariant_empty
      obligations := List.forall_mem_nil _
      sources := List.forall_mem_nil _
      ids := List.nodup_nil
      legal := Workflow.legalLog_nil
      events := List.forall_mem_nil _
      triggers := List.forall_mem_nil _ }
  started := List.forall_mem_nil _

theorem ObligationTables.eq_of_id (h : ObligationTables profile db)
    {row other : BusinessObligation} (hrow : row ∈ db.obligations) (hother : other ∈ db.obligations)
    (hid : row.id = other.id) : row = other :=
  List.inj_on_of_nodup_map h.ids hrow hother hid

/-! ### The statements -/

/-- The scope of a claim still matches when the evidence has grown. -/
theorem claimMatches_mono (hgrows : Grows db.evidence after.evidence) {claimId artistId : String}
    {songId : Option String} (h : db.ClaimMatches profile claimId artistId songId) :
    after.ClaimMatches profile claimId artistId songId := by
  obtain ⟨claim, hclaim, hid, hscope⟩ := h
  exact ⟨claim, hgrows.mem hclaim, hid, hscope⟩

section

variable {event : ObligationEventRow} (hevents : after.events = db.events ++ [event])

include hevents

theorem statusesOf_concat_self :
    after.statusesOf event.obligationId = db.statusesOf event.obligationId ++ [event.status] := by
  rw [statusesOf, eventsOf, hevents, historyOf_concat_self, List.map_append, List.map_singleton]
  rfl

theorem statusesOf_concat_of_ne {obligationId : String} (hne : event.obligationId ≠ obligationId) :
    after.statusesOf obligationId = db.statusesOf obligationId := by
  rw [statusesOf, eventsOf, hevents, historyOf_concat_of_ne hne]
  rfl

theorem statusesOf_concat_ne_nil {obligationId : String} (h : db.statusesOf obligationId ≠ []) :
    after.statusesOf obligationId ≠ [] := by
  by_cases hself : event.obligationId = obligationId
  · rw [← hself, statusesOf_concat_self hevents]
    exact List.concat_ne_nil _ _
  · rwa [statusesOf_concat_of_ne hevents hself]

end

/-- The transaction of `record_claim`. -/
theorem invariant_commitClaim (h : ObligationInvariant profile db) {row : EvidenceClaim}
    {oldIds : List String} (hrow : NormalClaim profile.toProfile row)
    (hcommit : commitClaim obligationHost row oldIds db = .ok after) :
    Bound db after ∧ ObligationInvariant profile after := by
  obtain ⟨u, hafter, heq, hcommitted⟩ := commitClaim_spec hcommit
  cases hafter
  have hevidence : EvidenceInvariant profile.toProfile after.evidence :=
    h.tables.evidence.commit hrow hcommitted
  have hgrows : Grows db.evidence after.evidence := hcommitted.grows
  obtain ⟨evidence, rfl⟩ : ∃ evidence, after = { db with evidence := evidence } := ⟨_, heq⟩
  refine ⟨⟨hgrows, fun _ h ↦ .inl h, fun _ h ↦ .inl h⟩,
    ⟨hevidence, h.tables.obligations, ?_, h.tables.ids, h.tables.legal, ?_, ?_⟩, h.started⟩
  · exact fun row hrow ↦ claimMatches_mono hgrows (h.tables.sources row hrow)
  · intro event hevent
    obtain ⟨row, hrow, hid, hclaim⟩ := h.tables.events event hevent
    exact ⟨row, hrow, hid, claimMatches_mono hgrows hclaim⟩
  · intro trigger htrigger
    obtain ⟨row, hrow, hid, hwaits, hclaim⟩ := h.tables.triggers trigger htrigger
    exact ⟨row, hrow, hid, hwaits, claimMatches_mono hgrows hclaim⟩

/-- `INSERT INTO business_obligation_triggers`. -/
theorem invariant_insertTrigger (h : ObligationInvariant profile db) {row : ObligationTriggerRow}
    (hinsert : db.insertTrigger profile row = .ok after) :
    after = { db with triggers := db.triggers ++ [row] } ∧ ObligationInvariant profile after := by
  simp only [insertTrigger, bind_eq_ok, require_eq_ok, Except.ok.injEq] at hinsert
  obtain ⟨_, hobligation, _, -, _, -, rfl⟩ := hinsert
  refine ⟨rfl, ⟨h.tables.evidence, h.tables.obligations, h.tables.sources, h.tables.ids,
    h.tables.legal, h.tables.events, ?_⟩, h.started⟩
  exact List.forall_mem_append.mpr ⟨h.tables.triggers, List.forall_mem_singleton.mpr hobligation⟩

/-- `INSERT INTO business_obligation_events`. -/
theorem tables_insertEvent (h : ObligationTables profile db) {row : ObligationEventRow}
    (hinsert : db.insertEvent profile row = .ok after) :
    after = { db with events := db.events ++ [row] } ∧ ObligationTables profile after := by
  simp only [insertEvent, bind_eq_ok, require_eq_ok, Except.ok.injEq] at hinsert
  obtain ⟨_, hobligation, _, hshape, _, -, _, -, rfl⟩ := hinsert
  refine ⟨rfl, h.evidence, h.obligations, h.sources, h.ids, ?_, ?_, h.triggers⟩
  · exact Workflow.legalLog_concat.mpr ⟨h.legal, allows_iff.mpr hshape⟩
  · exact List.forall_mem_append.mpr ⟨h.events, List.forall_mem_singleton.mpr hobligation⟩

/-- An event keeps the invariant. -/
theorem invariant_insertEvent (h : ObligationInvariant profile db) {row : ObligationEventRow}
    (hinsert : db.insertEvent profile row = .ok after) :
    after = { db with events := db.events ++ [row] } ∧ ObligationInvariant profile after := by
  obtain ⟨rfl, htables⟩ := tables_insertEvent h.tables hinsert
  exact ⟨rfl, htables, fun other hother ↦ statusesOf_concat_ne_nil rfl (h.started other hother)⟩

/-- A row as `create_obligation` makes it. -/
structure NormalObligation (profile : ObligationProfile) (row : BusinessObligation) : Prop where
  created : Created "obl" row.id
  artist : row.artistId = profile.primaryArtistId
  due : ∀ due ∈ row.dueOn, ∃ date : Date, due = date.isoFormat

/-- `INSERT INTO business_obligations`. -/
theorem tables_insertObligation (h : ObligationTables profile db) {row : BusinessObligation}
    (hrow : NormalObligation profile row) (hinsert : db.insertObligation profile row = .ok after) :
    after = { db with obligations := db.obligations ++ [row] } ∧ ObligationTables profile after := by
  simp only [insertObligation, bind_eq_ok, require_eq_ok, Except.ok.injEq] at hinsert
  obtain ⟨_, ⟨person, hperson, hpersonId, -⟩, _, -, _, hfollowup, _, hclaim, _, hfresh, _, -, rfl⟩ :=
    hinsert
  refine ⟨rfl, h.evidence, ?_, ?_, ?_, h.legal, ?_, ?_⟩
  · refine List.forall_mem_append.mpr ⟨h.obligations, List.forall_mem_singleton.mpr ?_⟩
    refine ⟨hrow.created, hrow.artist, ⟨person, hperson, hpersonId⟩, fun followupId hid ↦ ?_, hrow.due⟩
    obtain ⟨followup, hmem, hfollowupId, -⟩ := hfollowup followupId hid
    exact ⟨followup, hmem, hfollowupId⟩
  · exact List.forall_mem_append.mpr ⟨h.sources, List.forall_mem_singleton.mpr hclaim⟩
  · rw [List.map_append, List.map_singleton, List.nodup_append]
    refine ⟨h.ids, List.nodup_singleton _, ?_⟩
    intro id hid other hother
    obtain ⟨obligation, hobligation, rfl⟩ := List.mem_map.mp hid
    rw [List.mem_singleton.mp hother]
    exact hfresh obligation hobligation
  · intro event hevent
    obtain ⟨obligation, hobligation, hmatches⟩ := h.events event hevent
    exact ⟨obligation, List.mem_append_left _ hobligation, hmatches⟩
  · intro trigger htrigger
    obtain ⟨obligation, hobligation, hmatches⟩ := h.triggers trigger htrigger
    exact ⟨obligation, List.mem_append_left _ hobligation, hmatches⟩

/-- The transaction of `create_obligation`. -/
theorem invariant_insertNew (h : ObligationInvariant profile db) {row : BusinessObligation}
    {event : ObligationEventRow} (hrow : NormalObligation profile row)
    (hevent : event.obligationId = row.id)
    (hinsert : insertNew profile row event db = .ok after) :
    after = { db with
      obligations := db.obligations ++ [row]
      events := db.events ++ [event] } ∧ ObligationInvariant profile after := by
  simp only [insertNew, integrityAs_eq_ok, bind_eq_ok] at hinsert
  obtain ⟨middle, hobligation, hinsert⟩ := hinsert
  obtain ⟨rfl, hmiddle⟩ := tables_insertObligation h.tables hrow hobligation
  obtain ⟨rfl, htables⟩ := tables_insertEvent hmiddle hinsert
  refine ⟨rfl, htables, List.forall_mem_append.mpr ⟨fun other hother ↦ ?_,
    List.forall_mem_singleton.mpr ?_⟩⟩
  · exact statusesOf_concat_ne_nil rfl (h.started other hother)
  · rw [← hevent, statusesOf_concat_self rfl]
    exact List.concat_ne_nil _ _

/-! ### The calls -/

theorem normalizeDueOn_spec {value due : Option String} (h : normalizeDueOn value = .ok due) :
    ∀ text ∈ due, ∃ date : Date, text = date.isoFormat := by
  unfold normalizeDueOn at h
  split at h
  · cases h
    rintro text ⟨⟩
  · simp only [map_eq_ok, orRaise_eq_ok] at h
    obtain ⟨date, -, rfl⟩ := h
    rintro text ⟨⟩
    exact ⟨date, rfl⟩

theorem normalizeObligation_spec {uuid : Uuid} {input : ObligationInput} {row : BusinessObligation}
    (h : normalizeObligation profile (newId "obl" uuid) input = .ok row) :
    row.id = newId "obl" uuid ∧ NormalObligation profile row := by
  simp only [normalizeObligation, bind_eq_ok, Except.ok.injEq] at h
  obtain ⟨person, -, song, -, kind, -, responsibility, -, summary, -, due, hdue, trigger, -,
    consequence, -, rfl⟩ := h
  exact ⟨rfl, ⟨uuid, rfl⟩, rfl, normalizeDueOn_spec hdue⟩

theorem reads_get (obligationId : String) : Reads (get profile obligationId) :=
  (reads_ask _).bind fun _ ↦ (reads_fromExcept _).bind fun _ ↦ (reads_select _).bind fun _ ↦
    (reads_fromExcept _).bind fun _ ↦ (reads_ask _).bind fun _ ↦ (reads_ask _).bind fun _ ↦
    (reads_fromExcept _).bind fun _ ↦ (reads_ask _).bind fun _ ↦ reads_fromExcept _

theorem reads_evidenceClaim (claimId : String) (songId : Option String) :
    Reads (evidenceClaim profile claimId songId) :=
  (reads_select _).bind fun _ ↦ (reads_fromExcept _).bind fun _ ↦ (reads_ask _).bind fun _ ↦
    (reads_fromExcept _).bind fun _ ↦ .ended _

/-- The transactions of a call keep the invariant, whatever was read. -/
abbrev Sound {α : Type} (profile : ObligationProfile) (call : ObligationCall α) : Prop :=
  Preserves (ObligationInvariant profile) (fun _ _ ↦ True) call

theorem sound_createObligation (uuid eventUuid : Uuid) (input : ObligationInput) :
    Sound profile (createObligation profile uuid eventUuid input) := by
  refine preserves_fromExcept_bind fun row hrow ↦ (reads_evidenceClaim _ _).preserves.bind
    fun source ↦ (preserves_fromExcept _).bind fun followup ↦ ?_
  refine (preserves_transaction fun s t hs hinsert ↦ ?_).bind fun _ ↦ (reads_get _).preserves
  obtain ⟨hid, hcreated, hartist, hdue⟩ := normalizeObligation_spec hrow
  refine ⟨trivial, (invariant_insertNew hs ?_ ?_ hinsert).2⟩
  · exact ⟨hcreated, hartist, hdue⟩
  · exact hid.symm

theorem sound_recordTrigger (uuid : Uuid) (obligationId evidenceClaimId note : String) :
    Sound profile (recordTrigger profile uuid obligationId evidenceClaimId note) := by
  refine (reads_get _).preserves.bind fun current ↦ (preserves_fromExcept _).bind fun _ ↦
    (reads_evidenceClaim _ _).preserves.bind fun claim ↦ (preserves_fromExcept _).bind fun note ↦ ?_
  refine (preserves_transaction fun s t hs hinsert ↦ ?_).bind fun _ ↦ (reads_get _).preserves
  exact ⟨trivial, (invariant_insertTrigger hs (integrityAs_eq_ok.mp hinsert)).2⟩

theorem sound_transition (uuid : Uuid) (obligationId status evidenceClaimId note : String) :
    Sound profile (transition profile uuid obligationId status evidenceClaimId note) := by
  refine (reads_get _).preserves.bind fun current ↦ (preserves_fromExcept _).bind fun status ↦
    (reads_evidenceClaim _ _).preserves.bind fun claim ↦ (preserves_fromExcept _).bind fun note ↦ ?_
  refine (preserves_transaction fun s t hs hinsert ↦ ?_).bind fun _ ↦ (reads_get _).preserves
  exact ⟨trivial, (invariant_insertEvent hs (integrityAs_eq_ok.mp hinsert)).2⟩

theorem sound_obligationProgram (operation : ObligationOperation) :
    Sound profile (obligationProgram profile operation) := by
  cases operation with
  | createObligation uuid eventUuid input =>
    exact (sound_createObligation uuid eventUuid input).map _
  | recordTrigger uuid obligationId evidenceClaimId note =>
    exact (sound_recordTrigger uuid obligationId evidenceClaimId note).map _
  | transition uuid obligationId status evidenceClaimId note =>
    exact (sound_transition uuid obligationId status evidenceClaimId note).map _
  | recordClaim uuid input =>
    refine (preserves_recordClaim (fun row oldIds s t hrow hs hcommit ↦ ?_) uuid input).map _
    exact ⟨trivial, (invariant_commitClaim hs hrow hcommit).2⟩

/-! ### What a call relies on -/

/-- The obligation that a call records a trigger of. -/
def ObligationOperation.triggered : ObligationOperation → Option String
  | .recordTrigger _ obligationId _ _ => some (strip obligationId)
  | _ => none

/-- The claim that a call binds. -/
def ObligationOperation.bound : ObligationOperation → Option String
  | .createObligation _ _ input => some (strip input.sourceClaimId)
  | .recordTrigger _ _ evidenceClaimId _ => some (strip evidenceClaimId)
  | .transition _ _ _ evidenceClaimId _ => some (strip evidenceClaimId)
  | .recordClaim _ _ => none

/-- The lifecycle of an obligation whose trigger a call records does not end. -/
def KeepsOngoing (operation : ObligationOperation) (db after : ObligationDb) : Prop :=
  ∀ obligationId ∈ operation.triggered, after.Terminal obligationId → db.Terminal obligationId

/-- Neither does that, nor is the claim superseded that a call binds. -/
def KeepsBinding (operation : ObligationOperation) (db after : ObligationDb) : Prop :=
  KeepsOngoing operation db after ∧
    ∀ claimId ∈ operation.bound, db.evidence.Active claimId → after.evidence.Active claimId

/-- What a call guarantees that relies on that. -/
abbrev Binds {α : Type} (profile : ObligationProfile) (operation : ObligationOperation)
    (committed : Bool) (call : ObligationCall α) (db : ObligationDb) : Prop :=
  KeepsUnder (ObligationInvariant profile) Bound (KeepsOngoing operation) (KeepsBinding operation)
    (fun _ _ _ ↦ True) committed call db

variable {operation : ObligationOperation}

theorem grows_of_commits (h : Relation.ReflTransGen Bound db after) :
    Grows db.evidence after.evidence := by
  induction h with
  | refl => exact .refl _
  | tail _ hlast ih => exact ih.trans hlast.grows

/-- A call that has bound its claim does nothing more. -/
theorem binds_get (obligationId : String) (committed : Bool) :
    Binds profile operation committed (get profile obligationId) db :=
  (reads_get obligationId).keepsUnder fun _ _ _ ↦ trivial

/-- The claim of a call was active when it was read. -/
theorem binds_evidenceClaim {α : Type} {claimId : String} {songId : Option String}
    {k : EvidenceClaim → ObligationCall α}
    (hk : ∀ claim t, Relation.ReflTransGen (Allowed Bound (KeepsOngoing operation) false) db t →
      claim.id = strip claimId → t.evidence.Active (strip claimId) →
        Binds profile operation false (k claim) t) :
    Binds profile operation false (evidenceClaim profile claimId songId >>= k) db := by
  refine keepsUnder_bind (keepsUnder_select fun s hs hinvariant ↦ ?_)
  refine keepsUnder_fromExcept (fun _ _ ↦ trivial) fun claim hclaim ↦ ?_
  refine keepsUnder_ask (fun _ _ ↦ trivial) fun current t ht hinvariant hcurrent ↦ ?_
  refine keepsUnder_fromExcept (fun _ _ ↦ trivial) fun _ htrue ↦ ?_
  rw [require_eq_ok] at htrue
  simp only [bindableClaim, bind_eq_ok, orRaise_eq_ok, Except.ok.injEq] at hclaim
  obtain ⟨found, hfound, _, -, _, -, rfl⟩ := hclaim
  obtain ⟨hmem, hid⟩ := mem_of_getClaim hfound
  have hmem' := (grows_of_commits (commits_of_allowed ht)).mem hmem
  obtain ⟨active, hactive, hiff⟩ := hinvariant.tables.evidence.mem_activeClaims hmem'
  simp only [claimCurrent, hactive, bind_eq_ok, Except.ok.injEq] at hcurrent
  obtain ⟨_, rfl, rfl⟩ := hcurrent
  refine keepsUnder_pure (hk found t (hs.trans ht) hid ?_)
  rw [← hid]
  exact hiff.mp (of_decide_eq_true htrue)

/-- The events of a snapshot are those of the store. -/
theorem readEvents_spec {rows : List ObligationEventRow} {n : ℕ} {events : List ObligationEvent}
    (h : checkEach (fun _ ↦ readEvent db) n rows = .ok events) :
    events.map ObligationEvent.row = rows := by
  refine map_checkEach (fun row event hevent ↦ ?_) h
  simp only [readEvent, bind_eq_ok, Except.ok.injEq] at hevent
  obtain ⟨_, -, rfl⟩ := hevent
  rfl

/-- Whether a snapshot is of an obligation that has ended. -/
theorem terminal_iff {snapshot : ObligationSnapshot}
    (h : snapshot.events.map ObligationEvent.row = db.eventsOf snapshot.row.id) :
    db.Terminal snapshot.row.id ↔ snapshot.terminal = true := by
  have hlast : (db.statusesOf snapshot.row.id).getLast? = some snapshot.status := by
    rw [statusesOf, ← h, List.map_map, List.getLast?_map,
      List.getLast?_eq_some_getLast snapshot.events_ne]
    rfl
  rw [Terminal, hlast]
  simp [ObligationSnapshot.terminal]

/-- An obligation that had not ended has not ended when the next statement begins. -/
theorem ongoing_of_allowed {obligationId : String} (htriggered : obligationId ∈ operation.triggered)
    (hongoing : ¬ db.Terminal obligationId)
    (h : Relation.ReflTransGen (Allowed Bound (KeepsOngoing operation) false) db after) :
    ¬ after.Terminal obligationId := by
  refine kept_of_allowed (fun s ↦ ¬ s.Terminal obligationId) ?_ h hongoing
  exact fun s t hrely hnot hended ↦ hnot (hrely obligationId htriggered hended)

/-- A snapshot that has not ended is of an obligation that had not ended. -/
theorem binds_get_bind {α : Type} {obligationId : String} {k : ObligationSnapshot → ObligationCall α}
    (hk : ∀ snapshot t, snapshot.row.id = strip obligationId →
      (strip obligationId ∈ operation.triggered → snapshot.terminal = false →
        ¬ t.Terminal (strip obligationId)) → Binds profile operation false (k snapshot) t) :
    Binds profile operation false (get profile obligationId >>= k) db := by
  refine keepsUnder_bind (keepsUnder_ask (fun _ _ ↦ trivial) fun row s hs _ hrow ↦ ?_)
  have hid : row.id = strip obligationId := by
    simpa using List.find?_some (orRaise_eq_ok.mp hrow)
  refine keepsUnder_fromExcept (fun _ _ ↦ trivial) fun _ _ ↦ ?_
  refine keepsUnder_select fun _ _ _ ↦ ?_
  refine keepsUnder_fromExcept (fun _ _ ↦ trivial) fun source _ ↦ ?_
  refine keepsUnder_ask (fun _ _ ↦ trivial) fun events t ht _ hevents ↦ ?_
  refine keepsUnder_ask (fun _ _ ↦ trivial) fun triggers u hu _ _ ↦ ?_
  refine keepsUnder_fromExcept (fun _ _ ↦ trivial) fun followup _ ↦ ?_
  refine keepsUnder_ask (fun _ _ ↦ trivial) fun current v hv _ _ ↦ ?_
  refine keepsUnder_result (fun _ _ ↦ trivial) fun snapshot hsnapshot ↦ ?_
  simp only [takeSnapshot, bind_eq_ok] at hsnapshot
  obtain ⟨_, -, hsnapshot⟩ := hsnapshot
  split_ifs at hsnapshot with hbegins
  cases hsnapshot
  refine hk _ v hid fun htriggered hongoing hterminal ↦ ?_
  have hbefore : t.Terminal (strip obligationId) := by
    by_contra hnot
    refine ongoing_of_allowed htriggered hnot (hu.trans hv) hterminal
  rw [← hid] at hbefore
  exact absurd ((terminal_iff (readEvents_spec hevents)).mp hbefore) (by rw [hongoing]; simp)

/-- What a call adds that has bound its claim. -/
theorem binds_transaction {α : Type} {change : ObligationDb → Checked ObligationDb}
    {k : Unit → ObligationCall α}
    (hchange : ∀ t u, Relation.ReflTransGen (Allowed Bound (KeepsBinding operation) false) db t →
      ObligationInvariant profile t → change t = .ok u → Bound t u ∧ ObligationInvariant profile u)
    (hk : ∀ u, Binds profile operation true (k ⟨⟩) u) :
    Binds profile operation false (Call.transaction change >>= k) db := by
  refine keepsUnder_transaction (fun _ _ _ _ ↦ trivial) fun t u ht hinvariant hu ↦ ?_
  obtain ⟨hbound, hafter⟩ := hchange t u ht hinvariant hu
  exact ⟨hbound, hafter, hk u⟩

/-- The claim that was active is active when the transaction begins. -/
theorem active_of_allowed {claimId : String} (hbound : claimId ∈ operation.bound)
    (hactive : db.evidence.Active claimId)
    (h : Relation.ReflTransGen (Allowed Bound (KeepsBinding operation) false) db after) :
    after.evidence.Active claimId := by
  refine kept_of_allowed (fun s ↦ s.evidence.Active claimId) ?_ h hactive
  exact fun s t hrely ↦ hrely.2 claimId hbound

theorem binds_createObligation (uuid eventUuid : Uuid) (input : ObligationInput) :
    Binds profile (.createObligation uuid eventUuid input) false
      (createObligation profile uuid eventUuid input) db := by
  refine keepsUnder_fromExcept (fun _ _ ↦ trivial) fun row hrow ↦ ?_
  refine binds_evidenceClaim fun source s _ hid hactive ↦ ?_
  refine keepsUnder_fromExcept (fun _ _ ↦ trivial) fun followup _ ↦ ?_
  refine binds_transaction (fun t u ht hinvariant hinsert ↦ ?_) fun u ↦ binds_get _ _
  obtain ⟨hrowId, hcreated, hartist, hdue⟩ := normalizeObligation_spec hrow
  have hactive' := active_of_allowed rfl hactive ht
  obtain ⟨rfl, hafter⟩ := invariant_insertNew hinvariant (by exact ⟨hcreated, hartist, hdue⟩)
    (by exact hrowId.symm) hinsert
  refine ⟨⟨.refl _, ?_, fun _ h ↦ .inl h⟩, hafter⟩
  refine List.forall_mem_append.mpr ⟨fun _ h ↦ .inl h, List.forall_mem_singleton.mpr (.inr ?_)⟩
  rwa [hid]

theorem binds_recordTrigger (uuid : Uuid) (obligationId evidenceClaimId note : String) :
    Binds profile (.recordTrigger uuid obligationId evidenceClaimId note) false
      (recordTrigger profile uuid obligationId evidenceClaimId note) db := by
  refine binds_get_bind fun current s hrowId hongoing ↦ ?_
  refine keepsUnder_fromExcept (fun _ _ ↦ trivial) fun _ hchecks ↦ ?_
  simp only [bind_eq_ok, require_eq_ok] at hchecks
  obtain ⟨_, -, hterminal⟩ := hchecks
  have hongoing' := hongoing rfl hterminal
  refine binds_evidenceClaim fun claim t ht hid hactive ↦ ?_
  refine keepsUnder_fromExcept (fun _ _ ↦ trivial) fun note _ ↦ ?_
  refine binds_transaction (fun u v hu hinvariant hinsert ↦ ?_) fun u ↦ binds_get _ _
  have hactive' := active_of_allowed rfl hactive hu
  have hopen : ¬ u.Terminal (strip obligationId) := by
    refine kept_of_allowed (fun db ↦ ¬ db.Terminal (strip obligationId)) ?_ hu ?_
    · exact fun a b hrely hnot hended ↦ hnot (hrely.1 _ rfl hended)
    · exact ongoing_of_allowed rfl hongoing' ht
  obtain ⟨rfl, hafter⟩ := invariant_insertTrigger hinvariant (integrityAs_eq_ok.mp hinsert)
  refine ⟨⟨.refl _, fun _ h ↦ .inl h, ?_⟩, hafter⟩
  refine List.forall_mem_append.mpr ⟨fun _ h ↦ .inl h, List.forall_mem_singleton.mpr (.inr ?_)⟩
  rw [hid, hrowId]
  exact ⟨hactive', hopen⟩

theorem binds_transition (uuid : Uuid) (obligationId status evidenceClaimId note : String) :
    Binds profile (.transition uuid obligationId status evidenceClaimId note) false
      (transition profile uuid obligationId status evidenceClaimId note) db := by
  refine binds_get_bind fun current s _ _ ↦ ?_
  refine keepsUnder_fromExcept (fun _ _ ↦ trivial) fun status _ ↦ ?_
  refine binds_evidenceClaim fun claim t ht hid hactive ↦ ?_
  refine keepsUnder_fromExcept (fun _ _ ↦ trivial) fun note _ ↦ ?_
  refine binds_transaction (fun u v hu hinvariant hinsert ↦ ?_) fun u ↦ binds_get _ _
  have hactive' := active_of_allowed rfl hactive hu
  obtain ⟨rfl, hafter⟩ := invariant_insertEvent hinvariant (integrityAs_eq_ok.mp hinsert)
  refine ⟨⟨.refl _, ?_, fun _ h ↦ .inl h⟩, hafter⟩
  refine List.forall_mem_append.mpr ⟨fun _ h ↦ .inl h, List.forall_mem_singleton.mpr (.inr ?_)⟩
  rwa [hid]

theorem binds_obligationProgram (operation : ObligationOperation) :
    Binds profile operation false (obligationProgram profile operation) db := by
  cases operation with
  | createObligation uuid eventUuid input => exact (binds_createObligation uuid eventUuid input).map _
  | recordTrigger uuid obligationId evidenceClaimId note =>
    exact (binds_recordTrigger uuid obligationId evidenceClaimId note).map _
  | transition uuid obligationId status evidenceClaimId note =>
    exact (binds_transition uuid obligationId status evidenceClaimId note).map _
  | recordClaim uuid input =>
    refine ((preserves_recordClaim ?_ uuid input).map _).under
    exact fun row oldIds s t hrow hs hcommit ↦ invariant_commitClaim hs hrow hcommit

end

end N0te.Obligations
