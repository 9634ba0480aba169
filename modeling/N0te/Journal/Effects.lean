import N0te.Journal.ExecuteOnce
import N0te.Journal.DurableWrites

/-!
# What each call of the journal does to the store

One lemma for each call of `OperationJournal`, for callers that run it from one store to the next:
`prepare` adds one operation or nothing (`store_prepare`) and returns an operation with the identity
asked for (`prepare_returns`); a claim, an outcome and a reconciliation append one event or nothing,
and a claim that changes anything returns the executing operation (`claimExecution_cases`).
-/

set_option autoImplicit false
set_option relaxedAutoImplicit false

namespace N0te.Journal

open Library Governance

/-! ### Programs that append one event -/

section

variable {α β : Type}

/-- A program leaves every store. -/
def Leaves (p : StoreProgram α) : Prop := ∀ s, (exec p s).2 = s

theorem leaves_fromExcept (r : Checked α) : Leaves (fromExcept r) := by
  intro s
  rw [exec_fromExcept]

theorem leaves_reading (read : Store → Checked α) : Leaves (reading read) := by
  intro s
  rw [exec_reading]

/-- A program leaves the store or appends one event. -/
def AppendsOne (event : OperationEvent) (p : StoreProgram α) : Prop :=
  ∀ s, (exec p s).2 = s ∨ (exec p s).2 = s.addOperationEvent event

variable {event : OperationEvent}

theorem appendsOne_append : AppendsOne event (appendOperationEvent event) := by
  intro s
  rw [exec_appendOperationEvent]
  split_ifs
  · exact .inr rfl
  · exact .inl rfl

theorem Leaves.bind_appendsOne {p : StoreProgram α} {k : α → StoreProgram β} (hp : Leaves p)
    (hk : ∀ a, AppendsOne event (k a)) : AppendsOne event (p >>= k) := by
  intro s
  have hs := hp s
  rw [exec_bind]
  rcases hrun : exec p s with ⟨e | a, t⟩
  · rw [hrun] at hs
    exact .inl hs
  · rw [hrun] at hs
    cases hs
    exact hk a _

theorem AppendsOne.bind_leaves {p : StoreProgram α} {k : α → StoreProgram β}
    (hp : AppendsOne event p) (hk : ∀ a, Leaves (k a)) : AppendsOne event (p >>= k) := by
  intro s
  have hs := hp s
  rw [exec_bind]
  rcases hrun : exec p s with ⟨e | a, t⟩
  · rwa [hrun] at hs
  · rw [hrun] at hs
    dsimp only
    rwa [hk a t]

theorem AppendsOne.atomic {p : StoreProgram α} (hp : AppendsOne event p) :
    AppendsOne event (atomic p) := by
  intro s
  have hs := hp s
  rw [exec_atomic]
  rcases hrun : exec p s with ⟨e | a, t⟩
  · exact .inl rfl
  · rwa [hrun] at hs

end

/-! ### Claims, outcomes and reconciliations -/

/-- An outcome is recorded by one event of the operation. -/
theorem store_recordTerminal (operationId : String) (outcome : Outcome) (refs : OutcomeRefs)
    (s : Store) : (exec (recordTerminal operationId outcome refs) s).2 = s ∨
      ∃ event, (exec (recordTerminal operationId outcome refs) s).2 = s.addOperationEvent event ∧
        event.eventType = outcome.eventType := by
  rw [recordTerminal]
  rcases hevent : outcomeEvent operationId outcome.eventType refs
    ⟨.validationError, "successful operation requires receipt_ref and result_fingerprint"⟩ with
    e | event
  · exact .inl (by rw [exec_fromExcept_error])
  · rw [exec_fromExcept_ok]
    have happends : AppendsOne event (do
        atomic do
          let op ← reading fun s ↦ getOperation s operationId
          fromExcept (require (op.recordedState = .executing) (operationError
            (outcome.eventType.name ++ " cannot be recorded from state " ++ op.recordedState.name)))
          appendOperationEvent event
        reading fun s ↦ getOperation s operationId) :=
      AppendsOne.bind_leaves (AppendsOne.atomic ((leaves_reading _).bind_appendsOne fun _ ↦
        (leaves_fromExcept _).bind_appendsOne fun _ ↦ appendsOne_append)) fun _ ↦ leaves_reading _
    exact (happends s).imp_right fun h ↦ ⟨event, h, (outcomeEvent_spec hevent).2.1⟩

/-- A reconciliation is recorded by one event of the operation. -/
theorem store_reconcileUnknown (operationId observedOutcome : String) (refs : OutcomeRefs)
    (s : Store) : (exec (reconcileUnknown operationId observedOutcome refs) s).2 = s ∨
      ∃ event, (exec (reconcileUnknown operationId observedOutcome refs) s).2 =
        s.addOperationEvent event ∧ event.eventType.isReconciliation := by
  rw [reconcileUnknown]
  rcases hkind : reconciliationType observedOutcome with e | kind
  · exact .inl (by rw [exec_fromExcept_error])
  · rw [exec_fromExcept_ok]
    rcases hevent : outcomeEvent operationId kind refs
      (operationError "reconciled success requires receipt_ref and result_fingerprint") with
      e | event
    · exact .inl (by rw [exec_fromExcept_error])
    · rw [exec_fromExcept_ok]
      have happends : AppendsOne event (do
          atomic do
            let op ← reading fun s ↦ getOperation s operationId
            fromExcept (require (op.recordedState = .unknown ∧ op.reconciled = false)
              (operationError "only unreconciled UNKNOWN operations may be reconciled"))
            appendOperationEvent event
          reading fun s ↦ getOperation s operationId) :=
        AppendsOne.bind_leaves (AppendsOne.atomic ((leaves_reading _).bind_appendsOne fun _ ↦
          (leaves_fromExcept _).bind_appendsOne fun _ ↦ appendsOne_append)) fun _ ↦ leaves_reading _
      refine (happends s).imp_right fun h ↦ ⟨event, h, ?_⟩
      rw [(outcomeEvent_spec hevent).2.1]
      unfold reconciliationType at hkind
      dsimp only at hkind
      split_ifs at hkind <;> cases hkind <;> rfl

/-- An operation of a lawful store can be read. -/
theorem Lawful.reads {s : Store} (h : Lawful s) {row : OperationRow} (hrow : row ∈ s.operations) :
    ∃ op, getOperation s row.id = .ok op ∧ op.toOperationRow = row := by
  obtain ⟨d, hlegal⟩ := h.legal row hrow
  have hfind : s.findOperation row.id = some row := by
    rcases hfound : s.findOperation row.id with _ | found
    · exact absurd (List.find?_eq_none.mp hfound row hrow) (by simp)
    · obtain ⟨hmem, hid⟩ := findOperation_spec hfound
      rw [List.inj_on_of_nodup_map h.ids hmem hrow hid]
  exact ⟨_, bind_eq_ok.mpr ⟨row, orRaise_eq_ok.mpr hfind,
    bind_eq_ok.mpr ⟨d, derive_eq_ok.mpr hlegal, rfl⟩⟩, rfl⟩

def claimEvent (operationId evidence : String) : OperationEvent :=
  ⟨operationId, .executionClaimed, some evidence, none, none⟩

/-- A claimed operation is executing. -/
theorem getOperation_claimed {s : Store} {operationId evidence : String} {op : OperationRecord}
    (hop : getOperation s operationId = .ok op) (hstate : op.recordedState = .prepared) :
    ∃ claimed, getOperation (s.addOperationEvent (claimEvent operationId evidence)) operationId =
        .ok claimed ∧ claimed.recordedState = .executing ∧
      claimed.toOperationRow = op.toOperationRow := by
  simp only [getOperation, operationRecord, bind_eq_ok, orRaise_eq_ok, pure_eq_ok] at hop
  obtain ⟨row, hfind, d, hderive, rfl⟩ := hop
  have hrow := (findOperation_spec hfind).2
  have hderived : derive ((s.addOperationEvent (claimEvent operationId evidence)).operationEventsOf
      row.id) = .ok ⟨.executing, none, 1, false⟩ := by
    have hlegal := derive_eq_ok.mp hderive
    have hid : (claimEvent operationId evidence).operationId = row.id := hrow.symm
    rw [operationEventsOf_addOperationEvent, if_pos hid, derive_eq_ok, List.map_append]
    generalize (s.operationEventsOf row.id).map OperationEvent.eventType = kinds at hlegal
    change d.state = .prepared at hstate
    cases hlegal with
    | prepared => exact .claimed
    | ended outcome => cases outcome <;> cases hstate
    | _ => cases hstate
  exact ⟨_, bind_eq_ok.mpr ⟨row, orRaise_eq_ok.mpr hfind, bind_eq_ok.mpr ⟨_, hderived, rfl⟩⟩, rfl,
    rfl⟩

/-- A claim appends its event and returns the executing operation, or raises and changes nothing. -/
theorem claimExecution_cases (rt : Runtime) (request : ClaimRequest) (s : Store) :
    (∃ op evidence, exec (claimExecution rt request) s =
        (.ok op, s.addOperationEvent (claimEvent request.operationId evidence)) ∧
      claimChecks rt request s = .ok () ∧ op.recordedState = .executing ∧
      getOperation (s.addOperationEvent (claimEvent request.operationId evidence))
        request.operationId = .ok op) ∨
    ∃ e, exec (claimExecution rt request) s = (.error e, s) := by
  rw [claimExecution]
  rcases operationText request.claimEvidenceRef "claim_evidence_ref" with e | evidence
  · exact .inr ⟨e, exec_fromExcept_error ..⟩
  · rw [exec_fromExcept_ok]
    rcases hchecks : claimChecks rt request s with e | ⟨⟩
    · refine .inr ⟨e, exec_bind_of_error ?_⟩
      rw [exec_atomic, exec_bind_of_error (by rw [exec_reading, hchecks])]
    · have hprepared := hchecks
      simp only [claimChecks, bind_eq_ok, require_eq_ok] at hprepared
      obtain ⟨op, hop, -, -, -, -, -, -, hstate⟩ := hprepared
      obtain ⟨claimed, hclaimed, hexecuting, -⟩ :=
        @getOperation_claimed _ _ evidence.val _ hop hstate
      have howner : ∃ row ∈ s.operations, row.id = request.operationId := by
        obtain ⟨hmem, hid, -⟩ := getOperation_spec hop
        exact ⟨_, hmem, hid⟩
      have hread : exec (reading (claimChecks rt request)) s = (.ok (), s) := by
        rw [exec_reading, hchecks]
      refine .inl ⟨claimed, evidence.val, ?_, rfl, hexecuting, hclaimed⟩
      refine (exec_bind_of_ok (a := ⟨⟩)
        (t := s.addOperationEvent (claimEvent request.operationId evidence.val)) ?_).trans ?_
      · rw [exec_atomic, exec_bind_of_ok hread, exec_appendOperationEvent, if_pos howner]
        rfl
      · rw [exec_reading, hclaimed]

/-! ### Preparing -/

/-- What `prepare` returns and the store it leaves: nothing was written, or the operation was. -/
structure Prepared (row : OperationRow) (op : OperationRecord) (s t : Store) : Prop where
  /-- At most the operation was added. -/
  store : t = s ∨ t = s.addOperation row ∧ Insertable row s
  /-- It is in the store, with the identity asked for. -/
  bound : Bound ⟨row, op⟩ t

theorem prepareNew_cases {s : Store} (hs : Lawful s) (row : OperationRow) :
    (∃ op t, exec (prepareNew row) s = (.ok op, t) ∧ Prepared row op s t) ∨
      ∃ e, exec (prepareNew row) s = (.error e, s) := by
  rcases insertOperation_cases row s with ⟨hinsert, hrow⟩ | ⟨e, hinsert⟩
  · have hlawful := hs.addOperation hrow
    have hmem : row ∈ (s.addOperation row).operations := by
      simp [Store.addOperation, Store.addOperationEvent]
    obtain ⟨op, hop, -⟩ := hlawful.reads hmem
    refine .inl ⟨op, _, ?_, .inr ⟨rfl, hrow⟩, bound_of_getOperation hlawful hmem hop⟩
    rw [prepareNew, exec_bind_of_ok (exec_prepareInsert_of_ok hinsert), exec_reading, hop]
  · rw [prepareNew, exec_bind, exec_prepareInsert_of_error hinsert]
    split_ifs
    · rcases hread : prepareConflict row s with e | op
      · exact .inr ⟨e, rfl⟩
      · exact .inl ⟨op, s, rfl, .inl rfl, bound_of_prepareConflict hread⟩
    · exact .inr ⟨e, rfl⟩

/-- `prepare` returns an operation with the identity asked for, or raises and changes nothing. -/
theorem prepare_cases {s : Store} (hs : Lawful s) (rt : Runtime) (request : PrepareRequest)
    (newId : String) :
    (∃ row op t, exec (prepare rt request newId) s = (.ok op, t) ∧
      prepareIdentity rt request newId s = .ok row ∧ Prepared row op s t) ∨
    ∃ e, exec (prepare rt request newId) s = (.error e, s) := by
  rw [prepare, exec_bind, exec_reading]
  rcases hidentity : prepareIdentity rt request newId s with e | row
  · exact .inr ⟨e, rfl⟩
  · dsimp only
    rw [exec_bind, exec_reading]
    rcases hread : prepareLookup row s with e | _ | op
    · exact .inr ⟨e, rfl⟩
    · rcases prepareNew_cases hs row with ⟨op, t, hrun, hprepared⟩ | ⟨e, hrun⟩
      · exact .inl ⟨row, op, t, hrun, rfl, hprepared⟩
      · exact .inr ⟨e, hrun⟩
    · exact .inl ⟨row, op, s, rfl, rfl, .inl rfl, bound_of_prepareLookup hread⟩

/-- What the identity of `prepare` is. -/
theorem prepareIdentity_spec {rt : Runtime} {request : PrepareRequest} {newId : String} {s : Store}
    {row : OperationRow} (h : prepareIdentity rt request newId s = .ok row) :
    row.id = newId ∧ row.songId = request.songId ∧ row.versionId = request.versionId ∧
      ∀ song ∈ request.songId, ∀ version ∈ request.versionId,
        s.versions.lookup version = some song := by
  simp only [prepareIdentity, bind_eq_ok, pure_eq_ok, Prod.exists] at h
  obtain ⟨-, -, -, -, song, version, hversion, -, -, -, -, rfl⟩ := h
  refine ⟨rfl, ?_⟩
  rcases hsong : request.songId with _ | asked
  · simp only [hsong, songVersion, bind_eq_ok, require_eq_ok, pure_eq_ok, Prod.mk.injEq] at hversion
    obtain ⟨-, hnone, rfl, rfl⟩ := hversion
    simp [hnone trivial]
  · simp only [hsong, songVersion, bind_eq_ok, require_eq_ok] at hversion
    obtain ⟨-, -, -, -, hversion⟩ := hversion
    rcases hasked : request.versionId with _ | asked
    · simp only [hasked, pure_eq_ok, Prod.mk.injEq] at hversion
      obtain ⟨rfl, rfl⟩ := hversion
      simp
    · simp only [hasked, bind_eq_ok, orRaise_eq_ok, require_eq_ok, pure_eq_ok,
        Prod.mk.injEq] at hversion
      obtain ⟨owner, hlookup, -, rfl, rfl, rfl⟩ := hversion
      simpa using hlookup

/-- `prepare` keeps the store lawful. -/
theorem keeps_prepare (rt : Runtime) (request : PrepareRequest) (newId : String) :
    Keeps (prepare rt request newId) := by
  refine .bind (.reading _) fun row ↦ .bind (.reading _) fun found ↦ ?_
  rcases found with _ | existing
  · refine .bind (keeps_prepareInsert row) fun conflicting ↦ ?_
    rcases conflicting with _ | existing
    · exact .reading _
    · exact .pure _
  · exact .pure _

end N0te.Journal
