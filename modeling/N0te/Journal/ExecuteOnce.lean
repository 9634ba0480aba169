import N0te.Journal.Invariant
import Mathlib.Logic.Relation

/-!
# Operations are executed once

Any number of connections work on one store. A connection runs the sections of `prepare` one after
another, and claims, ends and reconciles operations, each in one transaction; between any two of
these steps other connections may run, the song lineage may grow, and a connection may disappear.
`prepare_steps` says that an undisturbed call of `prepare` is a run of its sections.

`operations_execute_once` is read off the invariant of the store: in every state reached each
operation has a legal history with at most one claim, one outcome and one reconciliation, the store
opens again, and a key stays bound to the one operation it was first bound to.
-/

set_option autoImplicit false
set_option relaxedAutoImplicit false

namespace N0te.Journal

open Library Governance

/-! ### Connections on one store -/

/-- Where a connection is in a call of `prepare`. -/
inductive Phase where
  /-- No call is in progress. -/
  | idle
  /-- The identity is resolved, and the key is looked up next. -/
  | identified (row : OperationRow)
  /-- The key was free, and the row is inserted next. -/
  | inserting (row : OperationRow)
  /-- A constraint refused the row, and the key is looked up again. -/
  | conflicted (row : OperationRow)
  /-- The row was inserted, and the operation is read next. -/
  | inserted (row : OperationRow)

/-- A call of `prepare` that returned: the identity it asked for and the record it got. -/
structure Answer where
  asked : OperationRow
  record : OperationRecord

/-- The store and the connections to it. -/
structure System where
  store : Store
  /-- What each connection is doing. -/
  connections : ℕ → Phase
  /-- What calls of `prepare` returned. -/
  answers : List Answer

namespace System

/-- A connection moves on. -/
def goto (w : System) (c : ℕ) (phase : Phase) : System :=
  { w with connections := Function.update w.connections c phase }

/-- A call of `prepare` returns. -/
def answer (w : System) (c : ℕ) (asked : OperationRow) (record : OperationRecord) : System :=
  { w.goto c .idle with answers := w.answers ++ [⟨asked, record⟩] }

/-- The store changes. -/
def onStore (w : System) (s : Store) : System := { w with store := s }

end System

/-- One step of one connection, or of the lineage. -/
inductive Step (rt : Runtime) : System → System → Prop where
  | identify {w : System} (c : ℕ) (request : PrepareRequest) (newId : String) (row : OperationRow)
      (hphase : w.connections c = .idle)
      (hread : prepareIdentity rt request newId w.store = .ok row) :
      Step rt w (w.goto c (.identified row))
  | lookupFree {w : System} (c : ℕ) (row : OperationRow)
      (hphase : w.connections c = .identified row)
      (hread : prepareLookup row w.store = .ok none) : Step rt w (w.goto c (.inserting row))
  | lookupFound {w : System} (c : ℕ) (row : OperationRow) (record : OperationRecord)
      (hphase : w.connections c = .identified row)
      (hread : prepareLookup row w.store = .ok (some record)) : Step rt w (w.answer c row record)
  | insert {w : System} (c : ℕ) (row : OperationRow) (t : Store)
      (hphase : w.connections c = .inserting row)
      (hrun : exec (insertOperation row) w.store = (.ok ⟨⟩, t)) :
      Step rt w ((w.goto c (.inserted row)).onStore t)
  | refuse {w : System} (c : ℕ) (row : OperationRow) (e : Raised ErrorClass) (t : Store)
      (hphase : w.connections c = .inserting row)
      (hrun : exec (insertOperation row) w.store = (.error e, t)) (he : e.cls = .integrityError) :
      Step rt w ((w.goto c (.conflicted row)).onStore t)
  | conflict {w : System} (c : ℕ) (row : OperationRow) (record : OperationRecord)
      (hphase : w.connections c = .conflicted row)
      (hread : prepareConflict row w.store = .ok record) : Step rt w (w.answer c row record)
  | fetch {w : System} (c : ℕ) (row : OperationRow) (record : OperationRecord)
      (hphase : w.connections c = .inserted row)
      (hread : getOperation w.store row.id = .ok record) : Step rt w (w.answer c row record)
  /-- A call raises, or its connection disappears. -/
  | stop {w : System} (c : ℕ) : Step rt w (w.goto c .idle)
  | claim {w : System} (request : ClaimRequest) :
      Step rt w (w.onStore (exec (claimExecution rt request) w.store).2)
  | finish {w : System} (operationId : String) (outcome : Outcome) (refs : OutcomeRefs) :
      Step rt w (w.onStore (exec (recordTerminal operationId outcome refs) w.store).2)
  | reconcile {w : System} (operationId observedOutcome : String) (refs : OutcomeRefs) :
      Step rt w (w.onStore (exec (reconcileUnknown operationId observedOutcome refs) w.store).2)
  | addSong {w : System} (song : String) :
      Step rt w (w.onStore { w.store with songs := w.store.songs ++ [song] })
  | addVersion {w : System} (version song : String) :
      Step rt w (w.onStore { w.store with versions := w.store.versions ++ [(version, song)] })

/-- Any number of steps. -/
abbrev Steps (rt : Runtime) : System → System → Prop := Relation.ReflTransGen (Step rt)

/-- A new store with idle connections. -/
structure System.Initial (w : System) : Prop where
  /-- No operation was prepared. -/
  operations : w.store.operations = []
  /-- No event was recorded. -/
  operationEvents : w.store.operationEvents = []
  /-- No call is in progress. -/
  idle : ∀ c, w.connections c = .idle
  /-- No call has returned. -/
  answers : w.answers = []

/-- The states reached from a new store. -/
def Reachable (rt : Runtime) (w : System) : Prop := ∃ start : System, start.Initial ∧ Steps rt start w

/-! ### A call that is not disturbed -/

/-- A connection ran to the end of a call with a given outcome. -/
structure Completed (w next : System) (c : ℕ) (outcome : Checked OperationRecord × Store) :
    Prop where
  /-- The store is the one the call left. -/
  store : next.store = outcome.2
  /-- The connection is idle again. -/
  idle : next.connections c = .idle
  /-- A record that was returned is an answer. -/
  answers : ∀ record, outcome.1 = .ok record →
    ∃ asked, next.answers = w.answers ++ [⟨asked, record⟩]

/-- Steps of one connection lead to the end of its call. -/
def Completes (rt : Runtime) (w : System) (c : ℕ) (outcome : Checked OperationRecord × Store) :
    Prop := ∃ next, Steps rt w next ∧ Completed w next c outcome

section

variable {rt : Runtime} {w : System} {c : ℕ} {row : OperationRow}

/-- A call that raises leaves the store to the others. -/
theorem completes_error (e : Raised ErrorClass) : Completes rt w c (.error e, w.store) :=
  ⟨w.goto c .idle, .single (.stop c), rfl, Function.update_self .., fun _ h ↦ nomatch h⟩

theorem Completes.of_step {mid : System} {outcome : Checked OperationRecord × Store}
    (hstep : Step rt w mid) (hanswers : mid.answers = w.answers)
    (h : Completes rt mid c outcome) : Completes rt w c outcome := by
  obtain ⟨next, hsteps, hcompleted⟩ := h
  refine ⟨next, .head hstep hsteps, hcompleted.store, hcompleted.idle, ?_⟩
  rw [← hanswers]
  exact hcompleted.answers

/-- A call that returns a record after one more step. -/
theorem completes_answer {record : OperationRecord} (hstep : Step rt w (w.answer c row record)) :
    Completes rt w c (.ok record, w.store) :=
  ⟨_, .single hstep, rfl, Function.update_self .., fun _ h ↦ ⟨row, by rw [← Except.ok.inj h]; rfl⟩⟩

theorem completes_fetch (hphase : w.connections c = .inserted row) :
    Completes rt w c (getOperation w.store row.id, w.store) := by
  rcases hread : getOperation w.store row.id with e | record
  · exact completes_error e
  · exact completes_answer (.fetch c row record hphase hread)

theorem completes_conflict (hphase : w.connections c = .conflicted row) :
    Completes rt w c (prepareConflict row w.store, w.store) := by
  rcases hread : prepareConflict row w.store with e | record
  · exact completes_error e
  · exact completes_answer (.conflict c row record hphase hread)

theorem exec_prepareInsert_of_ok {s t : Store} (h : exec (insertOperation row) s = (.ok ⟨⟩, t)) :
    exec (prepareInsert row) s = (.ok none, t) := by
  rw [prepareInsert, exec_tryCatch, exec_bind_of_ok h]
  rfl

theorem exec_prepareInsert_of_error {s : Store} {e : Raised ErrorClass}
    (h : exec (insertOperation row) s = (.error e, s)) :
    exec (prepareInsert row) s =
      if e.cls = .integrityError then (some <$> prepareConflict row s, s) else (.error e, s) := by
  rw [prepareInsert, exec_tryCatch, exec_bind_of_error h]
  dsimp only
  split_ifs
  · rw [exec_bind, exec_reading]
    cases prepareConflict row s <;> rfl
  · rfl

theorem completes_new (hphase : w.connections c = .inserting row) :
    Completes rt w c (exec (prepareNew row) w.store) := by
  rcases insertOperation_cases row w.store with ⟨hinsert, -⟩ | ⟨e, hinsert⟩
  · rw [prepareNew, exec_bind_of_ok (exec_prepareInsert_of_ok hinsert), exec_reading]
    refine .of_step (.insert c row _ hphase hinsert) rfl ?_
    exact completes_fetch (w := (w.goto c (.inserted row)).onStore _) (Function.update_self ..)
  · rw [prepareNew, exec_bind, exec_prepareInsert_of_error hinsert]
    split_ifs with hintegrity
    · have hconflict : Completes rt ((w.goto c (.conflicted row)).onStore w.store) c
          (prepareConflict row w.store, w.store) :=
        completes_conflict (Function.update_self ..)
      refine .of_step (.refuse c row e _ hphase hinsert hintegrity) rfl ?_
      cases hread : prepareConflict row w.store <;> rw [hread] at hconflict <;> exact hconflict
    · exact completes_error e

theorem completes_lookup (hphase : w.connections c = .identified row) :
    Completes rt w c (exec (do
      match ← reading (prepareLookup row) with
      | some existing => return existing
      | none => prepareNew row) w.store) := by
  rw [exec_bind, exec_reading]
  rcases hread : prepareLookup row w.store with e | _ | record
  · exact completes_error e
  · refine .of_step (.lookupFree c row hphase hread) rfl ?_
    exact completes_new (w := w.goto c (.inserting row)) (Function.update_self ..)
  · exact completes_answer (.lookupFound c row record hphase hread)

/-- A call of `prepare` that nothing disturbs is a run of its sections. -/
theorem prepare_completes (request : PrepareRequest) (newId : String)
    (hidle : w.connections c = .idle) :
    Completes rt w c (exec (prepare rt request newId) w.store) := by
  rw [prepare, exec_bind, exec_reading]
  rcases hread : prepareIdentity rt request newId w.store with e | row
  · exact completes_error e
  · refine .of_step (.identify c request newId row hidle hread) rfl ?_
    exact completes_lookup (w := w.goto c (.identified row)) (Function.update_self ..)

end

/-! ### The invariant of a run -/

/-- The record a call got is an operation of the store with the identity the call asked for. -/
structure Bound (a : Answer) (s : Store) : Prop where
  stored : a.record.toOperationRow ∈ s.operations
  key : a.record.idempotencyKey = a.asked.idempotencyKey
  exact : a.record.toOperationRow.Exact a.asked

/-- What every state of a run satisfies. -/
structure Inv (w : System) : Prop where
  lawful : Lawful w.store
  inserted : ∀ c row, w.connections c = .inserted row → row ∈ w.store.operations
  /-- Every call that returned got the operation its key is bound to. -/
  answers : ∀ a ∈ w.answers, Bound a w.store

theorem Bound.mono {a : Answer} {s t : Store} (h : Bound a s) (hst : Extends s t) : Bound a t :=
  ⟨hst.operations.subset h.stored, h.key, h.exact⟩

namespace Inv

variable {w : System}

/-- A connection moves on to a phase that claims nothing about the store. -/
theorem goto (h : Inv w) (c : ℕ) {phase : Phase}
    (hphase : ∀ row, phase = .inserted row → row ∈ w.store.operations) : Inv (w.goto c phase) where
  lawful := h.lawful
  inserted := by
    intro other row hother
    simp only [System.goto] at hother
    by_cases hc : other = c
    · rw [hc, Function.update_self] at hother
      exact hphase row hother
    · rw [Function.update_of_ne hc] at hother
      exact h.inserted other row hother
  answers := h.answers

/-- A call returns the operation its key is bound to. -/
theorem answer (h : Inv w) (c : ℕ) {asked : OperationRow} {record : OperationRecord}
    (hbound : Bound ⟨asked, record⟩ w.store) : Inv (w.answer c asked record) where
  lawful := h.lawful
  inserted := by
    have hidle : Inv (w.goto c .idle) := h.goto c fun _ heq ↦ (nomatch heq)
    exact hidle.inserted
  answers := by
    intro a ha
    rcases List.mem_append.mp ha with hold | hnew
    · exact h.answers a hold
    · rw [List.mem_singleton.mp hnew]
      exact hbound

/-- The store grows lawfully. -/
theorem onStore (h : Inv w) {s : Store} (hkept : Kept w.store s) : Inv (w.onStore s) where
  lawful := hkept.1
  inserted c row hc := hkept.2.operations.subset (h.inserted c row hc)
  answers a ha := (h.answers a ha).mono hkept.2

end Inv

theorem byIdempotencyKey_spec {s : Store} {key : String} {record : OperationRecord}
    (h : byIdempotencyKey s key = .ok (some record)) :
    record.toOperationRow ∈ s.operations ∧ record.idempotencyKey = key := by
  unfold byIdempotencyKey at h
  split at h
  · cases h
  next row hfind =>
    simp only [map_eq_ok, operationRecord, bind_eq_ok, pure_eq_ok, Option.some.injEq] at h
    obtain ⟨_, ⟨d, -, rfl⟩, rfl⟩ := h
    unfold Store.findKey at hfind
    exact ⟨List.mem_of_find?_eq_some hfind, by simpa using List.find?_some hfind⟩

theorem bound_of_prepareLookup {s : Store} {row : OperationRow} {record : OperationRecord}
    (h : prepareLookup row s = .ok (some record)) : Bound ⟨row, record⟩ s := by
  simp only [prepareLookup, bind_eq_ok] at h
  obtain ⟨found, hfound, h⟩ := h
  cases found with
  | none => cases h
  | some existing =>
    simp only [bind_eq_ok, require_eq_ok, pure_eq_ok, Option.some.injEq] at h
    obtain ⟨-, hexact, rfl⟩ := h
    obtain ⟨hstored, hkey⟩ := byIdempotencyKey_spec hfound
    exact ⟨hstored, hkey, hexact⟩

theorem bound_of_prepareConflict {s : Store} {row : OperationRow} {record : OperationRecord}
    (h : prepareConflict row s = .ok record) : Bound ⟨row, record⟩ s := by
  simp only [prepareConflict, bind_eq_ok, orRaise_eq_ok, require_eq_ok, pure_eq_ok] at h
  obtain ⟨_, hfound, _, rfl, -, hexact, rfl⟩ := h
  obtain ⟨hstored, hkey⟩ := byIdempotencyKey_spec hfound
  exact ⟨hstored, hkey, hexact⟩

/-- The operation read back after an insert is the one inserted. -/
theorem bound_of_getOperation {s : Store} {row : OperationRow} {record : OperationRecord}
    (hlawful : Lawful s) (hrow : row ∈ s.operations) (h : getOperation s row.id = .ok record) :
    Bound ⟨row, record⟩ s := by
  obtain ⟨hstored, hid, -⟩ := getOperation_spec h
  have heq : record.toOperationRow = row :=
    List.inj_on_of_nodup_map hlawful.ids hstored hrow hid
  exact ⟨hstored, congrArg OperationRow.idempotencyKey heq, by rw [heq]; rfl⟩

/-- A larger lineage keeps the store lawful. -/
theorem Lawful.growLineage {s : Store} (h : Lawful s) {songs : List String}
    {versions : List (String × String)} (hsongs : s.songs ⊆ songs)
    (hversions : s.versions ⊆ versions) :
    Kept s { s with songs := songs, versions := versions } := by
  refine ⟨⟨h.ids, h.keys, h.owned, h.legal, h.evidence, fun row hrow hdangling ↦ ?_⟩,
    hsongs, hversions, List.prefix_rfl, List.prefix_rfl⟩
  refine h.grounded row hrow ?_
  rcases hdangling with ⟨song, hmem, hnot⟩ | ⟨version, hmem, hnot⟩ | hblank
  · exact .inl ⟨song, hmem, fun hold ↦ hnot (hsongs hold)⟩
  · refine .inr (.inl ⟨version, hmem, fun ⟨song, hsong, hold⟩ ↦ hnot ⟨song, hsong, ?_⟩⟩)
    exact hversions hold
  · exact .inr (.inr hblank)

/-- A step keeps the invariant and loses no row and no answer. -/
theorem step_preserves {rt : Runtime} {w next : System} (h : Inv w) (hstep : Step rt w next) :
    Inv next ∧ Extends w.store next.store ∧ w.answers <+: next.answers := by
  have hgrown {s : Store} (hkept : Kept w.store s) : Inv (w.onStore s) ∧
      Extends w.store (w.onStore s).store ∧ w.answers <+: (w.onStore s).answers :=
    ⟨h.onStore hkept, hkept.2, List.prefix_rfl⟩
  cases hstep with
  | identify c request newId row hphase hread =>
    exact ⟨h.goto c (by rintro _ ⟨⟩), .refl _, List.prefix_rfl⟩
  | lookupFree c row hphase hread =>
    exact ⟨h.goto c (by rintro _ ⟨⟩), .refl _, List.prefix_rfl⟩
  | lookupFound c row record hphase hread =>
    exact ⟨h.answer c (bound_of_prepareLookup hread), .refl _, List.prefix_append _ _⟩
  | insert c row t hphase hrun =>
    rcases insertOperation_cases row w.store with ⟨hinsert, hrow⟩ | ⟨e, hinsert⟩
    · rw [hinsert, Prod.mk.injEq] at hrun
      obtain ⟨-, rfl⟩ := hrun
      have hkept : Kept w.store (w.store.addOperation row) :=
        ⟨h.lawful.addOperation hrow, w.store.extends_addOperation row⟩
      refine ⟨(h.onStore hkept).goto c fun other heq ↦ ?_, hkept.2, List.prefix_rfl⟩
      rw [← Phase.inserted.inj heq]
      simp [System.onStore, Store.addOperation, Store.addOperationEvent]
    · rw [hinsert] at hrun
      cases hrun
  | refuse c row e t hphase hrun he =>
    rcases insertOperation_cases row w.store with ⟨hinsert, hrow⟩ | ⟨e, hinsert⟩
    · rw [hinsert] at hrun
      cases hrun
    · rw [hinsert, Prod.mk.injEq] at hrun
      obtain ⟨-, rfl⟩ := hrun
      exact ⟨h.goto c (by rintro _ ⟨⟩), .refl _, List.prefix_rfl⟩
  | conflict c row record hphase hread =>
    exact ⟨h.answer c (bound_of_prepareConflict hread), .refl _, List.prefix_append _ _⟩
  | fetch c row record hphase hread =>
    have hbound := bound_of_getOperation h.lawful (h.inserted c row hphase) hread
    exact ⟨h.answer c hbound, .refl _, List.prefix_append _ _⟩
  | stop c => exact ⟨h.goto c (by rintro _ ⟨⟩), .refl _, List.prefix_rfl⟩
  | claim request => exact hgrown ((keeps_claimExecution rt request).exec h.lawful)
  | finish operationId outcome refs =>
    exact hgrown ((keeps_recordTerminal operationId outcome refs).exec h.lawful)
  | reconcile operationId observedOutcome refs =>
    exact hgrown ((keeps_reconcileUnknown operationId observedOutcome refs).exec h.lawful)
  | addSong song =>
    exact hgrown (h.lawful.growLineage (List.subset_append_left _ _) (List.Subset.refl _))
  | addVersion version song =>
    exact hgrown (h.lawful.growLineage (List.Subset.refl _) (List.subset_append_left _ _))

/-- A run keeps the invariant and loses no row and no answer. -/
theorem steps_preserve {rt : Runtime} {w later : System} (h : Inv w) (hsteps : Steps rt w later) :
    Inv later ∧ Extends w.store later.store ∧ w.answers <+: later.answers := by
  induction hsteps with
  | refl => exact ⟨h, .refl _, List.prefix_rfl⟩
  | tail _ hstep ih =>
    obtain ⟨hinv, hextends, hanswers⟩ := ih
    obtain ⟨hnext, hgrown, hmore⟩ := step_preserves hinv hstep
    exact ⟨hnext, hextends.trans hgrown, hanswers.trans hmore⟩

theorem System.Initial.inv {w : System} (h : w.Initial) : Inv w where
  lawful := by
    refine ⟨?_, ?_, ?_, ?_, ?_, ?_⟩ <;> simp [h.operations, h.operationEvents]
  inserted c row hc := by
    rw [h.idle c] at hc
    cases hc
  answers := by simp [h.answers]

theorem Reachable.inv {rt : Runtime} {w : System} (h : Reachable rt w) : Inv w := by
  obtain ⟨start, hinitial, hsteps⟩ := h
  exact (steps_preserve hinitial.inv hsteps).1

/-! ### The result -/

/-- The events of an operation of a lawful store. -/
theorem Lawful.executedOnce {s : Store} (h : Lawful s) {row : OperationRow}
    (hrow : row ∈ s.operations) : ExecutedOnce (s.operationEventsOf row.id) := by
  obtain ⟨d, hlegal⟩ := h.legal row hrow
  refine executedOnce_of_derive (derive_eq_ok.mpr hlegal) fun event hevent ↦ ?_
  exact h.evidence event (List.mem_of_mem_filter hevent)

/-- A lawful store opens again. -/
theorem Lawful.validateOperations {s : Store} (h : Lawful s) :
    Journal.validateOperations s = .ok () := by
  simp only [Journal.validateOperations, bind_eq_ok, require_eq_ok, pure_eq_ok, and_true,
    exists_const]
  refine ⟨h.grounded, exists_checkEach_iff.mpr fun row hrow ↦ ?_⟩
  have honce := h.executedOnce (List.mem_mergeSort.mp hrow)
  obtain ⟨d, hderive⟩ := honce.legal
  simp only [validateOperation, bind_eq_ok]
  exact ⟨d, hderive, honce.evidence⟩

/-- Whatever any number of connections do, in every state reached every operation is executed at
most once, the store opens again, and a key stays bound to one operation: to the row that first took
it, and to one identity in every call of `prepare` that returned. -/
theorem operations_execute_once {rt : Runtime} {w : System} (h : Reachable rt w) :
    (∀ row ∈ w.store.operations, ExecutedOnce (w.store.operationEventsOf row.id)) ∧
    validateOperations w.store = .ok () ∧
    (∀ later, Steps rt w later → ∀ a ∈ w.store.operations, ∀ b ∈ later.store.operations,
      a.idempotencyKey = b.idempotencyKey → a = b) ∧
    ∀ a ∈ w.answers, ∀ b ∈ w.answers, a.asked.idempotencyKey = b.asked.idempotencyKey →
      a.record.toOperationRow = b.record.toOperationRow ∧
      a.record.toOperationRow.Exact a.asked ∧ a.record.toOperationRow.Exact b.asked := by
  have hinv := h.inv
  refine ⟨fun row ↦ hinv.lawful.executedOnce, hinv.lawful.validateOperations, ?_, ?_⟩
  · intro later hsteps a ha b hb hkey
    obtain ⟨hlater, hextends, -⟩ := steps_preserve hinv hsteps
    exact List.inj_on_of_nodup_map hlater.lawful.keys (hextends.operations.subset ha) hb hkey
  · intro a ha b hb hkey
    have hbounda := hinv.answers a ha
    have hboundb := hinv.answers b hb
    have heq : a.record.toOperationRow = b.record.toOperationRow :=
      List.inj_on_of_nodup_map hinv.lawful.keys hbounda.stored hboundb.stored
        (hbounda.key.trans (hkey.trans hboundb.key.symm))
    exact ⟨heq, hbounda.exact, heq ▸ hboundb.exact⟩

/-! ### A run -/

/-- A runtime whose hash is the SHA-256 digest on the one text hashed below. -/
def sampleHash : Runtime where
  sha256 _ := "c20f90139fe8c825422077dc7303c7c5f54a7be6091d84c0c18e87edc0e56fdb"
  fromisoformat _ := none
  hmac _ := []
  loads _ := none

/-- A local action. -/
def sampleIntent : ActionIntent where
  actionId := ⟨"a", Text.letterA.stripped, Text.letterA.nonempty⟩
  jobId := ⟨"j", Text.letterJ.stripped, Text.letterJ.nonempty⟩
  actionClass := .readOnly
  description := ⟨"d", Text.letterD.stripped, Text.letterD.nonempty⟩
  targetRef := ⟨"t", Text.letterT.stripped, Text.letterT.nonempty⟩
  revisionFingerprint := ⟨"r", by decide, by decide⟩
  payloadFingerprint := ⟨"p", Text.letterP.stripped, Text.letterP.nonempty⟩
  destination := none
  purpose := none
  dataCategories := ∅
  purposeful := purposeful_none
  categories := categories_empty

def sampleApproval : ApprovalBinding where
  approvalId := ⟨"ap", Text.wordAp.stripped, Text.wordAp.nonempty⟩
  intentFingerprint := ⟨"c20f90139fe8c825422077dc7303c7c5f54a7be6091d84c0c18e87edc0e56fdb",
    by decide, by decide⟩
  sourceRef := ⟨"me", Text.wordMe.stripped, Text.wordMe.nonempty⟩

/-- The operation that is prepared for it. -/
def sampleRow : OperationRow :=
  ⟨"op_0", "k", "c20f90139fe8c825422077dc7303c7c5f54a7be6091d84c0c18e87edc0e56fdb", "ap", "me",
    none, none, none, none, none⟩

/-- A store with the operation and some events of it. -/
def sampleStore (events : List OperationEvent) : Store :=
  ⟨"profile", [], [], [sampleRow], events, [], [], []⟩

/-- The events of an operation with an unknown outcome that was reconciled. -/
def sampleEvents : List OperationEvent := [
  ⟨"op_0", .prepared, some "me", none, none⟩,
  ⟨"op_0", .executionClaimed, some "claim", none, none⟩,
  ⟨"op_0", .unknown, some "lost", none, none⟩,
  ⟨"op_0", .reconciledSucceeded, some "seen", some "receipt", some "result"⟩]

/-- An empty store. -/
def sampleStart : System := ⟨⟨"profile", [], [], [], [], [], [], []⟩, fun _ ↦ .idle, []⟩

theorem sampleStart_initial : sampleStart.Initial := ⟨rfl, rfl, fun _ ↦ rfl, rfl⟩

def samplePreparation : Checked OperationRecord × Store :=
  exec (prepare sampleHash ⟨"k", sampleIntent, sampleApproval, none, none, none, none, none⟩ "op_0")
    sampleStart.store

theorem samplePreparation_returns : samplePreparation.1.toOption.isSome = true ∧
    samplePreparation.2 = sampleStore (sampleEvents.take 1) := by
  constructor <;> decide +kernel

theorem sampleClaim_stores :
    (exec (claimExecution sampleHash ⟨"op_0", sampleIntent, sampleApproval, "claim", none, none⟩)
      (sampleStore (sampleEvents.take 1))).2 = sampleStore (sampleEvents.take 2) := by
  decide +kernel

theorem sampleOutcome_stores :
    (exec (recordTerminal "op_0" .unknown ⟨"lost", none, none⟩)
      (sampleStore (sampleEvents.take 2))).2 = sampleStore (sampleEvents.take 3) := by
  decide +kernel

theorem sampleReconciliation_stores :
    (exec (reconcileUnknown "op_0" "succeeded" ⟨"seen", some "receipt", some "result"⟩)
      (sampleStore (sampleEvents.take 3))).2 = sampleStore sampleEvents := by
  decide +kernel

/-- One connection prepares an operation, claims it, loses its outcome and reconciles it. -/
theorem sample_steps :
    ∃ w, Reachable sampleHash w ∧ w.store = sampleStore sampleEvents ∧ w.answers.length = 1 := by
  obtain ⟨hreturns, hstore⟩ := samplePreparation_returns
  have hcompletes : Completes sampleHash sampleStart 0 samplePreparation :=
    prepare_completes _ _ rfl
  obtain ⟨w, hsteps, hcompleted⟩ := hcompletes
  have hanswers : w.answers.length = 1 := by
    rcases hrecord : samplePreparation.1 with e | record
    · rw [hrecord] at hreturns
      cases hreturns
    · obtain ⟨asked, hanswers⟩ := hcompleted.answers record hrecord
      rw [hanswers]
      rfl
  have hprepared : w.store = sampleStore (sampleEvents.take 1) := hcompleted.store.trans hstore
  have hclaim : Steps sampleHash w (w.onStore (sampleStore (sampleEvents.take 2))) := by
    rw [← sampleClaim_stores, ← hprepared]
    exact .single (.claim _)
  have hlost : Steps sampleHash (w.onStore (sampleStore (sampleEvents.take 2)))
      (w.onStore (sampleStore (sampleEvents.take 3))) := by
    rw [← sampleOutcome_stores]
    exact .single (.finish (w := w.onStore (sampleStore (sampleEvents.take 2))) ..)
  have hseen : Steps sampleHash (w.onStore (sampleStore (sampleEvents.take 3)))
      (w.onStore (sampleStore sampleEvents)) := by
    rw [← sampleReconciliation_stores]
    exact .single (.reconcile (w := w.onStore (sampleStore (sampleEvents.take 3))) ..)
  exact ⟨_, ⟨_, sampleStart_initial, hsteps.trans (hclaim.trans (hlost.trans hseen))⟩, rfl,
    hanswers⟩

/-- The execute-once theorem at the run of the sample. -/
theorem sample_executed_once : ∃ w : System, w.store = sampleStore sampleEvents ∧
    w.answers.length = 1 ∧ ExecutedOnce (w.store.operationEventsOf "op_0") ∧
    validateOperations w.store = .ok () := by
  obtain ⟨w, hreach, hstore, hanswers⟩ := sample_steps
  obtain ⟨honce, hopens, -⟩ := operations_execute_once hreach
  have hrow : sampleRow ∈ w.store.operations := by
    rw [hstore]
    exact List.mem_singleton_self _
  exact ⟨w, hstore, hanswers, honce sampleRow hrow, hopens⟩

end N0te.Journal
