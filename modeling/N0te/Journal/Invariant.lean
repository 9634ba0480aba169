import N0te.Journal.Lifecycle

/-!
# What the operation journal keeps true

`Lawful` is the invariant of the store: ids and keys are unique, every event belongs to an operation,
every history is legal, every event has its evidence and every identity refers to rows that are
there. `Keeps` says that a program keeps a store lawful and only adds rows, whatever its outcome, and
every program of the journal does.
-/

set_option autoImplicit false
set_option relaxedAutoImplicit false

namespace N0te.Journal

open Library Governance

/-! ### The invariant -/

/-- What the operation journal keeps true of the store. -/
structure Lawful (s : Store) : Prop where
  /-- Ids are unique. -/
  ids : (s.operations.map OperationRow.id).Nodup
  /-- Keys are unique. -/
  keys : (s.operations.map OperationRow.idempotencyKey).Nodup
  /-- Every event belongs to an operation. -/
  owned : ∀ event ∈ s.operationEvents, ∃ row ∈ s.operations, row.id = event.operationId
  /-- Every history is legal. -/
  legal : ∀ row ∈ s.operations,
    ∃ d, Lifecycle ((s.operationEventsOf row.id).map OperationEvent.eventType) d
  /-- Every event has its evidence. -/
  evidence : ∀ event ∈ s.operationEvents, validateEventEvidence event = .ok ()
  /-- Every identity refers to rows that are there. -/
  grounded : ∀ row ∈ s.operations, ¬ row.Dangling s

/-- A store has every row of another, the journal's rows in their order. -/
structure Extends (s t : Store) : Prop where
  /-- Songs stay. -/
  songs : s.songs ⊆ t.songs
  /-- Versions stay with their songs. -/
  versions : s.versions ⊆ t.versions
  /-- Operations are only added. -/
  operations : s.operations <+: t.operations
  /-- Events are only added. -/
  operationEvents : s.operationEvents <+: t.operationEvents

theorem Extends.refl (s : Store) : Extends s s :=
  ⟨List.Subset.refl _, List.Subset.refl _, List.prefix_rfl, List.prefix_rfl⟩

theorem Extends.trans {s t u : Store} (hst : Extends s t) (htu : Extends t u) : Extends s u :=
  ⟨List.Subset.trans hst.songs htu.songs, List.Subset.trans hst.versions htu.versions,
    hst.operations.trans htu.operations, hst.operationEvents.trans htu.operationEvents⟩

/-- The store is lawful and has every row of an earlier one. -/
def Kept (base s : Store) : Prop := Lawful s ∧ Extends base s

/-- A program keeps every store lawful and only adds rows, whatever its outcome. -/
def Keeps {α : Type} (p : StoreProgram α) : Prop :=
  ∀ base, Ensures (Kept base) p fun _ ↦ Kept base

namespace Keeps

variable {α β : Type}

theorem bind {p : StoreProgram α} {k : α → StoreProgram β} (hp : Keeps p)
    (hk : ∀ a, Keeps (k a)) : Keeps (p >>= k) := fun base ↦
  (hp base).bind (fun a ↦ hk a base) fun _ _ h ↦ h

theorem pure (a : α) : Keeps (Pure.pure a) := fun _ ↦ Ensures.pure fun _ h ↦ h

theorem throw (e : Raised ErrorClass) : Keeps (MonadExcept.throw e : StoreProgram α) :=
  fun _ ↦ Ensures.throw fun _ h ↦ h

theorem fromExcept (r : Checked α) : Keeps (Library.fromExcept r) := by
  cases r with
  | ok a => exact pure a
  | error e => exact throw e

/-- A value that was computed and not read is known to what follows. -/
theorem fromExcept_bind {r : Checked α} {k : α → StoreProgram β}
    (hk : ∀ a, r = .ok a → Keeps (k a)) : Keeps (Library.fromExcept r >>= k) := by
  cases r with
  | ok a => exact hk a rfl
  | error e => exact throw e

theorem reading (read : Store → Checked α) : Keeps (Journal.reading read) := fun base ↦
  Ensures.bind (Ensures.get (Q := fun _ ↦ Kept base) fun _ h ↦ h)
    (fun s ↦ fromExcept (read s) base) fun _ _ h ↦ h

theorem tryCatch {p : StoreProgram α} {handler : Raised ErrorClass → StoreProgram α}
    (hp : Keeps p) (hhandler : ∀ e, Keeps (handler e)) :
    Keeps (MonadExcept.tryCatch p handler) := fun base ↦
  (hp base).tryCatch (fun _ _ h ↦ h) fun e ↦ hhandler e base

/-- A kept store stays kept under a program that keeps stores. -/
theorem exec {p : StoreProgram α} (hp : Keeps p) {s : Store} (hlawful : Lawful s) :
    Kept s (Library.exec p s).2 := hp s s ⟨hlawful, .refl s⟩

end Keeps

@[simp] theorem exec_reading {α : Type} (read : Store → Checked α) (s : Store) :
    exec (reading read) s = (read s, s) := by
  rw [reading, exec_bind, exec_get]
  exact exec_fromExcept _ _

/-- Reading leaves the store and returns what was read. -/
theorem ensures_reading {α : Type} {P : Store → Prop} (read : Store → Checked α) :
    Ensures P (reading read) fun r s ↦ P s ∧ read s = r := by
  intro s hs
  rw [exec_reading]
  exact ⟨hs, rfl⟩

/-! ### Appending an event -/

/-- A store with one more operation event. -/
def Store.addOperationEvent (s : Store) (event : OperationEvent) : Store :=
  { s with operationEvents := s.operationEvents ++ [event] }

theorem operationEventsOf_addOperationEvent (s : Store) (event : OperationEvent)
    (operationId : String) :
    (s.addOperationEvent event).operationEventsOf operationId =
      s.operationEventsOf operationId ++
        if event.operationId = operationId then [event] else [] := by
  unfold Store.operationEventsOf Store.addOperationEvent
  rw [List.filter_append]
  split_ifs with hid <;> simp [hid]

/-- An event has its evidence and may follow the history of its operation. -/
def MayFollow (event : OperationEvent) (s : Store) : Prop :=
  validateEventEvidence event = .ok () ∧ ∃ d next,
    Lifecycle ((s.operationEventsOf event.operationId).map OperationEvent.eventType) d ∧
    d.transition event.eventType = some next

/-- An event that may follow keeps the store lawful. -/
theorem Lawful.addOperationEvent {s : Store} {event : OperationEvent} (h : Lawful s)
    (howned : ∃ row ∈ s.operations, row.id = event.operationId) (hfollow : MayFollow event s) :
    Lawful (s.addOperationEvent event) where
  ids := h.ids
  keys := h.keys
  owned := by
    intro other hother
    rcases List.mem_append.mp hother with hold | hnew
    · exact h.owned other hold
    · rw [List.mem_singleton.mp hnew]
      exact howned
  legal := by
    intro row hrow
    rw [operationEventsOf_addOperationEvent]
    split_ifs with hid
    · obtain ⟨-, d, next, hlegal, hnext⟩ := hfollow
      rw [hid] at hlegal
      refine ⟨next, ?_⟩
      rw [List.map_append]
      exact hlegal.append hnext
    · rw [List.append_nil]
      exact h.legal row hrow
  evidence := by
    intro other hother
    rcases List.mem_append.mp hother with hold | hnew
    · exact h.evidence other hold
    · rw [List.mem_singleton.mp hnew]
      exact hfollow.1
  grounded := h.grounded

theorem exec_appendOperationEvent (event : OperationEvent) (s : Store) :
    exec (appendOperationEvent event) s =
      if ∃ row ∈ s.operations, row.id = event.operationId then
        (.ok ⟨⟩, s.addOperationEvent event)
      else (.error (integrityError "FOREIGN KEY constraint failed"), s) := by
  rw [appendOperationEvent, exec_bind, exec_get]
  dsimp only
  split_ifs <;> rfl

/-- An event that may follow is appended to a lawful store. -/
theorem ensures_append (event : OperationEvent) (base : Store) :
    Ensures (fun s ↦ Kept base s ∧ MayFollow event s) (appendOperationEvent event)
      fun _ ↦ Kept base := by
  rintro s ⟨⟨hlawful, hextends⟩, hfollow⟩
  rw [exec_appendOperationEvent]
  split_ifs with howned
  · refine ⟨hlawful.addOperationEvent howned hfollow, hextends.trans ?_⟩
    exact ⟨List.Subset.refl _, List.Subset.refl _, List.prefix_rfl, List.prefix_append _ _⟩
  · exact ⟨hlawful, hextends⟩

/-- A transaction that checks the store and then appends an event keeps stores, when the check
establishes that the event may follow. -/
theorem keeps_checkedAppend {α : Type} {check : Store → Checked α}
    {program : α → StoreProgram PUnit}
    (hprogram : ∀ a base, Ensures (fun s ↦ Kept base s ∧ check s = .ok a) (program a)
      fun _ ↦ Kept base) :
    Keeps (atomic (reading check >>= program)) := by
  intro base
  refine Ensures.atomic (M := fun _ ↦ Kept base) ?_ (fun _ _ h ↦ h) fun _ _ h ↦ h
  exact Ensures.bind (ensures_reading check) (fun a ↦ hprogram a base) fun _ _ h ↦ h.1

/-! ### Every program keeps the store lawful -/

theorem findOperation_spec {s : Store} {operationId : String} {row : OperationRow}
    (h : s.findOperation operationId = some row) :
    row ∈ s.operations ∧ row.id = operationId := by
  unfold Store.findOperation at h
  exact ⟨List.mem_of_find?_eq_some h, by simpa using List.find?_some h⟩

/-- What a read operation says about the store. -/
theorem getOperation_spec {s : Store} {operationId : String} {op : OperationRecord}
    (h : getOperation s operationId = .ok op) :
    op.toOperationRow ∈ s.operations ∧ op.id = operationId ∧ ∃ d,
      Lifecycle ((s.operationEventsOf operationId).map OperationEvent.eventType) d ∧
      op.recordedState = d.state ∧ op.reconciled = d.reconciled := by
  simp only [getOperation, operationRecord, bind_eq_ok, orRaise_eq_ok, pure_eq_ok] at h
  obtain ⟨row, hfind, d, hderive, rfl⟩ := h
  obtain ⟨hmem, rfl⟩ := findOperation_spec hfind
  exact ⟨hmem, rfl, d, derive_eq_ok.mp hderive, rfl, rfl⟩

theorem present_val (t : Text) : present (some t.val) = true := by
  simp [present, t.nonempty]

/-- The checked references of an outcome are its evidence. -/
theorem outcomeEvent_spec {operationId : String} {kind : OperationEventType} {refs : OutcomeRefs}
    {e : Raised ErrorClass} {event : OperationEvent}
    (h : outcomeEvent operationId kind refs e = .ok event) :
    event.operationId = operationId ∧ event.eventType = kind ∧
      validateEventEvidence event = .ok () := by
  simp only [outcomeEvent, bind_eq_ok, require_eq_ok, pure_eq_ok] at h
  obtain ⟨evidence, -, receipt, -, result, -, -, hcomplete, rfl⟩ := h
  refine ⟨rfl, rfl, ?_⟩
  cases kind with
  | succeeded | reconciledSucceeded =>
    obtain ⟨hreceipt, hresult⟩ := hcomplete (by simp)
    obtain ⟨receipt, rfl⟩ := Option.ne_none_iff_exists'.mp hreceipt
    obtain ⟨result, rfl⟩ := Option.ne_none_iff_exists'.mp hresult
    simp [validateEventEvidence, present_val]
  | _ => simp [validateEventEvidence, present_val]

/-- A program that appends an event after a condition on the operation it read. -/
theorem keeps_appendAfter {operationId : String} {event : OperationEvent}
    {condition : OperationRecord → Prop} [DecidablePred condition]
    {e : OperationRecord → Raised ErrorClass}
    (hfollow : ∀ s op, getOperation s operationId = .ok op → condition op → MayFollow event s) :
    Keeps (atomic do
      let op ← reading fun s ↦ getOperation s operationId
      fromExcept (require (condition op) (e op))
      appendOperationEvent event) := by
  refine keeps_checkedAppend fun op base ↦ ?_
  by_cases hcondition : condition op
  · have hpass : require (condition op) (e op) = .ok () := require_eq_ok.mpr hcondition
    rw [hpass]
    refine (ensures_append event base).pre ?_
    rintro s ⟨hkept, hread⟩
    exact ⟨hkept, hfollow s op hread hcondition⟩
  · have hfail : require (condition op) (e op) = .error (e op) := if_neg hcondition
    rw [hfail]
    exact Ensures.throw fun _ h ↦ h.1

/-- An executing operation may end in any outcome. -/
theorem mayFollow_of_executing {s : Store} {op : OperationRecord} {event : OperationEvent}
    {outcome : Outcome} (hread : getOperation s event.operationId = .ok op)
    (hstate : op.recordedState = .executing) (htype : event.eventType = outcome.eventType)
    (hevidence : validateEventEvidence event = .ok ()) : MayFollow event s := by
  obtain ⟨-, -, d, hlegal, hd, -⟩ := getOperation_spec hread
  refine ⟨hevidence, d, ?_⟩
  rw [htype]
  rw [hstate] at hd
  generalize (s.operationEventsOf event.operationId).map OperationEvent.eventType = kinds at hlegal
  cases hlegal with
  | claimed => cases outcome <;> exact ⟨_, .claimed, rfl⟩
  | ended ended => cases ended <;> cases hd
  | _ => cases hd

/-- An unknown outcome that was not reconciled may be. -/
theorem mayFollow_of_unknown {s : Store} {op : OperationRecord} {event : OperationEvent}
    (hread : getOperation s event.operationId = .ok op)
    (hstate : op.recordedState = .unknown ∧ op.reconciled = false)
    (htype : event.eventType.isReconciliation)
    (hevidence : validateEventEvidence event = .ok ()) : MayFollow event s := by
  obtain ⟨-, -, d, hlegal, hd, hreconciled⟩ := getOperation_spec hread
  refine ⟨hevidence, d, ?_⟩
  rw [hstate.1] at hd
  rw [hstate.2] at hreconciled
  generalize (s.operationEventsOf event.operationId).map OperationEvent.eventType = kinds at hlegal
  generalize event.eventType = kind at htype
  cases hlegal with
  | ended ended =>
    cases ended with
    | unknown => cases kind <;> cases htype <;> exact ⟨_, .ended .unknown, rfl⟩
    | _ => cases hd
  | reconciledSuccess | reconciledFailure => cases hreconciled
  | _ => cases hd

theorem keeps_recordTerminal (operationId : String) (outcome : Outcome) (refs : OutcomeRefs) :
    Keeps (recordTerminal operationId outcome refs) := by
  refine Keeps.fromExcept_bind fun event hevent ↦ ?_
  obtain ⟨hid, htype, hevidence⟩ := outcomeEvent_spec hevent
  refine Keeps.bind (keeps_appendAfter fun s op hread hstate ↦ ?_) fun _ ↦ .reading _
  rw [← hid] at hread
  exact mayFollow_of_executing hread hstate htype hevidence

theorem keeps_reconcileUnknown (operationId observedOutcome : String) (refs : OutcomeRefs) :
    Keeps (reconcileUnknown operationId observedOutcome refs) := by
  refine Keeps.fromExcept_bind fun kind hkind ↦ Keeps.fromExcept_bind fun event hevent ↦ ?_
  obtain ⟨hid, htype, hevidence⟩ := outcomeEvent_spec hevent
  refine Keeps.bind (keeps_appendAfter fun s op hread hstate ↦ ?_) fun _ ↦ .reading _
  rw [← hid] at hread
  refine mayFollow_of_unknown hread hstate ?_ hevidence
  rw [htype]
  unfold reconciliationType at hkind
  dsimp only at hkind
  split_ifs at hkind <;> cases hkind <;> rfl

theorem keeps_claimExecution (rt : Runtime) (request : ClaimRequest) :
    Keeps (claimExecution rt request) := by
  refine Keeps.bind (.fromExcept _) fun evidence ↦ Keeps.bind ?_ fun _ ↦ .reading _
  refine keeps_checkedAppend fun _ base ↦ (ensures_append _ base).pre ?_
  rintro s ⟨hkept, hcheck⟩
  refine ⟨hkept, ?_⟩
  simp only [claimChecks, bind_eq_ok, require_eq_ok] at hcheck
  obtain ⟨op, hread, -, -, -, -, -, -, hstate⟩ := hcheck
  obtain ⟨-, -, d, hlegal, hd, -⟩ := getOperation_spec hread
  rw [hstate] at hd
  refine ⟨by simp [validateEventEvidence, present_val], d, ?_⟩
  dsimp only
  generalize (s.operationEventsOf request.operationId).map OperationEvent.eventType = kinds
    at hlegal
  cases hlegal with
  | prepared => exact ⟨_, .prepared, rfl⟩
  | ended ended => cases ended <;> cases hd
  | _ => cases hd

/-! ### Inserting an operation -/

/-- The row and the first event of a new operation. -/
def Store.addOperation (s : Store) (row : OperationRow) : Store :=
  Store.addOperationEvent { s with operations := s.operations ++ [row] }
    ⟨row.id, .prepared, some row.approvalSourceRef, none, none⟩

/-- What the constraints of `operations` let in. -/
structure Insertable (row : OperationRow) (s : Store) : Prop where
  id : row.id ∉ s.operations.map OperationRow.id
  key : row.idempotencyKey ∉ s.operations.map OperationRow.idempotencyKey
  source : sqlNonblank row.approvalSourceRef
  /-- The identity refers to rows that are there. -/
  grounded : ¬ row.Dangling s

theorem insertOperationRow_spec {row : OperationRow} {s t : Store}
    (h : insertOperationRow row s = .ok t) :
    t = { s with operations := s.operations ++ [row] } ∧ Insertable row s := by
  simp only [insertOperationRow, bind_eq_ok, require_eq_ok, pure_eq_ok] at h
  obtain ⟨-, hversion, -, hid, -, hkey, -, ⟨-, -, -, hsource, hroute, hsubject, hcapability⟩, -,
    ⟨hsong, -⟩, rfl⟩ := h
  refine ⟨rfl, ?_, ?_, hsource, ?_⟩
  · simpa using hid
  · simpa using hkey
  · rintro (⟨song, hmem, hnot⟩ | ⟨version, hmem, hnot⟩ | ⟨route, hmem, hnot⟩ |
      ⟨subject, hmem, hnot⟩ | ⟨capability, hmem, hnot⟩)
    · exact hnot (hsong song hmem)
    · exact hnot (hversion version hmem)
    · exact hnot (hroute route hmem)
    · exact hnot (hsubject subject hmem)
    · exact hnot (hcapability capability hmem)

/-- A new operation keeps the store lawful. -/
theorem Lawful.addOperation {s : Store} {row : OperationRow} (h : Lawful s)
    (hrow : Insertable row s) : Lawful (s.addOperation row) where
  ids := by
    simp only [Store.addOperation, Store.addOperationEvent, List.map_append, List.map_cons,
      List.map_nil]
    exact List.nodup_append.mpr ⟨h.ids, List.nodup_singleton _, by simpa using hrow.id⟩
  keys := by
    simp only [Store.addOperation, Store.addOperationEvent, List.map_append, List.map_cons,
      List.map_nil]
    exact List.nodup_append.mpr ⟨h.keys, List.nodup_singleton _, by simpa using hrow.key⟩
  owned := by
    intro event hevent
    rcases List.mem_append.mp hevent with hold | hnew
    · obtain ⟨other, hother, hid⟩ := h.owned event hold
      exact ⟨other, List.mem_append_left _ hother, hid⟩
    · rw [List.mem_singleton.mp hnew]
      exact ⟨row, by simp [Store.addOperation, Store.addOperationEvent], rfl⟩
  legal := by
    intro other hother
    rw [Store.addOperation, operationEventsOf_addOperationEvent]
    change ∃ d, Lifecycle ((s.operationEventsOf other.id ++ _).map _) d
    rcases List.mem_append.mp hother with hold | hnew
    · have hne : row.id ≠ other.id := fun heq ↦
        hrow.id (heq ▸ List.mem_map_of_mem hold)
      rw [if_neg hne, List.append_nil]
      exact h.legal other hold
    · rw [List.mem_singleton.mp hnew, if_pos rfl]
      have hfresh : s.operationEventsOf row.id = [] := by
        refine List.filter_eq_nil_iff.mpr fun event hevent heq ↦ ?_
        obtain ⟨owner, howner, hid⟩ := h.owned event hevent
        rw [beq_iff_eq.mp heq] at hid
        exact hrow.id (hid ▸ List.mem_map_of_mem howner)
      rw [hfresh]
      exact ⟨_, .prepared⟩
  evidence := by
    intro event hevent
    rcases List.mem_append.mp hevent with hold | hnew
    · exact h.evidence event hold
    · rw [List.mem_singleton.mp hnew]
      simp [validateEventEvidence, present, ne_empty_of_sqlNonblank hrow.source]
  grounded := by
    intro other hother
    rcases List.mem_append.mp hother with hold | hnew
    · exact h.grounded other hold
    · rw [List.mem_singleton.mp hnew]
      exact hrow.grounded

theorem Store.extends_addOperation (s : Store) (row : OperationRow) :
    Extends s (s.addOperation row) :=
  ⟨List.Subset.refl _, List.Subset.refl _, List.prefix_append _ _, List.prefix_append _ _⟩

/-- The transaction of `prepare` adds its operation, or raises and changes nothing. -/
theorem insertOperation_cases (row : OperationRow) (s : Store) :
    (exec (insertOperation row) s = (.ok ⟨⟩, s.addOperation row) ∧ Insertable row s) ∨
      ∃ e, exec (insertOperation row) s = (.error e, s) := by
  rcases hinsert : insertOperationRow row s with e | t
  · refine .inr ⟨e, ?_⟩
    rw [insertOperation, exec_atomic, exec_bind, exec_get]
    dsimp only
    rw [hinsert]
    rfl
  · obtain ⟨rfl, hrow⟩ := insertOperationRow_spec hinsert
    refine .inl ⟨?_, hrow⟩
    rw [insertOperation, exec_atomic, exec_bind, exec_get]
    dsimp only
    rw [hinsert]
    have happend := exec_appendOperationEvent
      ⟨row.id, .prepared, some row.approvalSourceRef, none, none⟩
      { s with operations := s.operations ++ [row] }
    rw [if_pos ⟨row, by simp, rfl⟩] at happend
    rw [exec_bind_of_ok (exec_fromExcept _ _), exec_bind_of_ok (exec_set _ _), happend]
    rfl

theorem keeps_insertOperation (row : OperationRow) : Keeps (insertOperation row) := by
  rintro base s ⟨hlawful, hextends⟩
  rcases insertOperation_cases row s with ⟨hrun, hrow⟩ | ⟨e, hrun⟩
  · rw [hrun]
    exact ⟨hlawful.addOperation hrow, hextends.trans (s.extends_addOperation row)⟩
  · rw [hrun]
    exact ⟨hlawful, hextends⟩

theorem keeps_prepareInsert (row : OperationRow) : Keeps (prepareInsert row) := by
  refine Keeps.tryCatch (Keeps.bind (keeps_insertOperation row) fun _ ↦ .pure _) fun e ↦ ?_
  split_ifs
  · exact Keeps.bind (.reading _) fun _ ↦ .pure _
  · exact .throw e

end N0te.Journal
