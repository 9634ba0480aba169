import N0te.Journal.TransactionRun

/-!
# Recovery after a crash

A crash leaves a prefix of the durable writes of a run in the store. The checks on the events of a
transaction are one pass over them, so a history that passes is one all of whose prefixes pass, and
it is enough to follow the pass over the story of a run: after each attempt and each compensation it
is back in a state `Scan.at n` in which nothing is left unrecorded.

`crash_recovers` puts this together with the rows of the plan, which are read back as the plan, and
with the reports on what was started.
-/

set_option autoImplicit false
set_option relaxedAutoImplicit false

namespace N0te.Journal

open Library Governance

/-! ### The pass over the events -/

/-- The snapshot was captured and nothing is left unrecorded. -/
def Scan.at (n : ℤ) : Scan := ⟨fun _ ↦ 0, fun _ ↦ 0, n, true⟩

/-- The ids of the steps of a plan, as they are stored. -/
def TransactionPlan.ids (plan : TransactionPlan) : List String :=
  plan.steps.map fun step ↦ step.stepId.val

/-- The pass over the events of some entries goes from one state to another. -/
def Scans (stepIds : List String) (before : Scan) (entries : List Entry) (after : Scan) : Prop :=
  (eventsOf entries).foldlM (scanEvent stepIds) before = .ok after

namespace Scans

variable {stepIds : List String} {before middle after : Scan} {entries more : List Entry}

theorem nil (scan : Scan) : Scans stepIds scan [] scan := rfl

theorem append (h : Scans stepIds before entries middle) (hmore : Scans stepIds middle more after) :
    Scans stepIds before (entries ++ more) after := by
  unfold Scans at h hmore ⊢
  rw [eventsOf_append, List.foldlM_append, h]
  exact hmore

theorem event {e : TransactionEvent} (h : scanEvent stepIds before e.stored = .ok middle)
    (hmore : Scans stepIds middle more after) : Scans stepIds before (.event e :: more) after := by
  unfold Scans at hmore ⊢
  rw [eventsOf_event, List.foldlM_cons, h]
  exact hmore

theorem call (c : DriverCall) (hmore : Scans stepIds before more after) :
    Scans stepIds before (.call c :: more) after := hmore

theorem operation (e : OperationEvent) (hmore : Scans stepIds before more after) :
    Scans stepIds before (.operation e :: more) after := hmore

end Scans

section

variable {plan : TransactionPlan} {driver : Driver} {snapshot : TransactionSnapshot}

theorem mem_ids {step : TransactionStep} (h : step ∈ plan.steps) : step.stepId.val ∈ plan.ids :=
  List.mem_map_of_mem h

theorem scan_snapshot : scanEvent plan.ids .initial (plan.snapshotEvent snapshot).stored =
    .ok (.at (-1)) := by
  simp [scanEvent, require, TransactionEvent.stored, TransactionPlan.snapshotEvent,
    TransactionPlan.event, Scan.initial, Scan.at, present_val]

theorem scan_executionStarted {step : TransactionStep} (hstep : step ∈ plan.steps) {n : ℤ}
    (hn : n ≤ plan.ids.idxOf step.stepId.val) :
    scanEvent plan.ids (.at n) (plan.executionStarted snapshot step).stored =
      .ok ⟨Function.update (fun _ ↦ 0) step.stepId.val 1, fun _ ↦ 0,
        plan.ids.idxOf step.stepId.val, true⟩ := by
  simp [scanEvent, eventStep, orRaise, require, TransactionEvent.stored,
    TransactionPlan.executionStarted, TransactionPlan.stepEvent, TransactionPlan.event, Scan.at,
    present_val, mem_ids hstep, hn]

theorem scan_executionRecorded {step : TransactionStep} (hstep : step ∈ plan.steps) (n : ℤ)
    (execution : StepExecution) :
    scanEvent plan.ids ⟨Function.update (fun _ ↦ 0) step.stepId.val 1, fun _ ↦ 0, n, true⟩
      (plan.executionRecorded snapshot step execution).stored = .ok (.at n) := by
  have hstatus : execution.status.name ∈ ["SUCCEEDED", "FAILED", "UNKNOWN"] := by
    cases execution.status <;> decide
  have hchange : execution.changeState.name ∈ ["APPLIED", "NOT_APPLIED", "UNKNOWN"] := by
    cases execution.changeState <;> decide
  have hmem := mem_ids hstep
  simp only [List.mem_cons, List.not_mem_nil, or_false] at hstatus hchange
  simp [scanEvent, eventStep, orRaise, require, TransactionEvent.stored,
    TransactionPlan.executionRecorded, TransactionPlan.stepEvent, TransactionPlan.event, Scan.at,
    hmem, hstatus, hchange]

theorem scan_postconditionRecorded {step : TransactionStep} (hstep : step ∈ plan.steps) (n : ℤ)
    (post : PostconditionResult) :
    scanEvent plan.ids (.at n) (plan.postconditionRecorded snapshot step post).stored =
      .ok (.at n) := by
  have hstatus : post.status.name ∈ ["SATISFIED", "FAILED", "UNKNOWN"] := by
    cases post.status <;> decide
  have hmem := mem_ids hstep
  simp only [List.mem_cons, List.not_mem_nil, or_false] at hstatus
  simp [scanEvent, eventStep, orRaise, require, TransactionEvent.stored,
    TransactionPlan.postconditionRecorded, TransactionPlan.stepEvent, TransactionPlan.event,
    Scan.at, hmem, hstatus]

theorem scan_compensationStarted {step : TransactionStep} (hstep : step ∈ plan.steps) (n : ℤ) :
    scanEvent plan.ids (.at n) (plan.compensationStarted snapshot step).stored =
      .ok ⟨fun _ ↦ 0, Function.update (fun _ ↦ 0) step.stepId.val 1, n, true⟩ := by
  simp [scanEvent, eventStep, orRaise, require, TransactionEvent.stored,
    TransactionPlan.compensationStarted, TransactionPlan.stepEvent, TransactionPlan.event, Scan.at,
    present_val, mem_ids hstep]

theorem scan_compensationRecorded {step : TransactionStep} (hstep : step ∈ plan.steps) (n : ℤ)
    (result : CompensationResult) :
    scanEvent plan.ids ⟨fun _ ↦ 0, Function.update (fun _ ↦ 0) step.stepId.val 1, n, true⟩
      (plan.compensationRecorded snapshot step result).stored = .ok (.at n) := by
  have hstatus : result.status.name ∈ ["RESTORED", "FAILED", "UNKNOWN"] := by
    cases result.status <;> decide
  have hmem := mem_ids hstep
  simp only [List.mem_cons, List.not_mem_nil, or_false] at hstatus
  simp [scanEvent, eventStep, orRaise, require, TransactionEvent.stored,
    TransactionPlan.compensationRecorded, TransactionPlan.stepEvent, TransactionPlan.event, Scan.at,
    present_val, hmem, hstatus]

/-! ### The pass over a story -/

/-- An attempt leaves nothing unrecorded. -/
theorem attempt_scans {a : Attempt} (hstep : a.step ∈ plan.steps) {n : ℤ}
    (hn : n ≤ plan.ids.idxOf a.step.stepId.val) :
    Scans plan.ids (.at n) (a.entries plan snapshot) (.at (plan.ids.idxOf a.step.stepId.val)) := by
  refine .event (scan_executionStarted hstep hn) (.call _ ?_)
  refine .event (scan_executionRecorded hstep _ _) ?_
  cases a.verification with
  | none => exact .nil _
  | some post => exact .call _ (.event (scan_postconditionRecorded hstep _ post) (.nil _))

theorem compensation_scans {step : TransactionStep} (hstep : step ∈ plan.steps) (n : ℤ) :
    Scans plan.ids (.at n) (plan.compensationEntries driver snapshot step) (.at n) := by
  unfold TransactionPlan.compensationEntries
  split_ifs
  · refine .event (scan_compensationStarted hstep n) (.call _ ?_)
    exact .event (scan_compensationRecorded hstep n _) (.nil _)
  · exact .nil _

theorem compensations_scan {steps : List TransactionStep} (hsteps : ∀ step ∈ steps, step ∈ plan.steps)
    (n : ℤ) :
    Scans plan.ids (.at n) (steps.flatMap (plan.compensationEntries driver snapshot)) (.at n) := by
  induction steps with
  | nil => exact .nil _
  | cons step rest ih =>
    refine .append (compensation_scans (hsteps step List.mem_cons_self) n) (ih fun other hother ↦ ?_)
    exact hsteps other (List.mem_cons_of_mem _ hother)

theorem ids_nodup (plan : TransactionPlan) : plan.ids.Nodup := by
  have hnodup := plan.stepIds.map (f := Text.val) fun _ _ ↦ Text.ext
  rwa [List.map_map] at hnodup

/-- The position of a step is the number of steps before it. -/
theorem idxOf_step {before rest : List TransactionStep} {step : TransactionStep}
    (h : plan.steps = before ++ step :: rest) : plan.ids.idxOf step.stepId.val = before.length := by
  have hids : plan.ids = before.map (fun step ↦ step.stepId.val) ++
      step.stepId.val :: rest.map fun step ↦ step.stepId.val := by
    simp [TransactionPlan.ids, h]
  have hnodup := ids_nodup plan
  have hnew : step.stepId.val ∉ before.map fun step ↦ step.stepId.val := by
    rw [hids, List.nodup_append] at hnodup
    exact fun hmem ↦ hnodup.2.2 _ hmem _ List.mem_cons_self rfl
  rw [hids, List.idxOf_append_of_notMem hnew]
  simp

/-- The steps from a position on are attempted in order. -/
theorem attempts_scan (plan : TransactionPlan) (driver : Driver) (snapshot : TransactionSnapshot)
    {before steps : List TransactionStep} (hsteps : plan.steps = before ++ steps)
    {n : ℤ} (hn : n ≤ before.length) : ∃ m,
      Scans plan.ids (.at n) ((plan.attempts driver steps).flatMap (Attempt.entries plan snapshot))
        (.at m) := by
  induction steps generalizing before n with
  | nil => exact ⟨n, .nil _⟩
  | cons step rest ih =>
    have hstep : step ∈ plan.steps := by simp [hsteps]
    have hordinal := idxOf_step hsteps
    have hattempt : Scans plan.ids (.at n) ((plan.attempt driver step).entries plan snapshot)
        (.at before.length) := by
      rw [← hordinal]
      exact attempt_scans hstep (hordinal ▸ hn)
    by_cases hsucceeded : (plan.attempt driver step).Succeeded
    · have hnext : (before.length : ℤ) ≤ (before ++ [step]).length := by
        rw [List.length_append]
        omega
      obtain ⟨m, hrest⟩ := ih (by simp [hsteps]) hnext
      rw [attempts_of_succeeded hsucceeded]
      exact ⟨m, hattempt.append hrest⟩
    · rw [attempts_of_not_succeeded hsucceeded]
      exact ⟨before.length, hattempt.append (.nil _)⟩

/-- Undoing leaves nothing unrecorded. -/
theorem undoStory_scans {changed : List TransactionStep}
    (hchanged : ∀ step ∈ changed, step ∈ plan.steps) {n : ℤ} {rootRef : String} {rootUnknown : Bool}
    {failedStepId : Option String} (hfailed : ∀ stepId ∈ failedStepId, stepId ∈ plan.ids) :
    Scans plan.ids (.at n) (plan.undoStory driver snapshot changed rootRef rootUnknown failedStepId)
      (.at n) := by
  refine (compensations_scan (fun step hstep ↦ hchanged step (List.mem_reverse.mp hstep)) n).append ?_
  unfold TransactionPlan.conclusion
  by_cases hneeds : plan.NeedsRecovery driver snapshot changed rootUnknown
  · rw [if_pos hneeds]
    refine .event ?_ (.operation _ (.nil _))
    refine bind_eq_ok.mpr ⟨(), require_eq_ok.mpr hfailed, ?_⟩
    exact bind_eq_ok.mpr ⟨(), require_eq_ok.mpr (present_val _), rfl⟩
  · rw [if_neg hneeds]
    exact .operation _ (.nil _)

theorem ending_scans (n : ℤ) : Scans plan.ids (.at n)
    (plan.ending driver snapshot (plan.attempts driver plan.steps)
      (appliedSteps (plan.attempts driver plan.steps))) (.at n) := by
  have hchanged : ∀ step ∈ appliedSteps (plan.attempts driver plan.steps), step ∈ plan.steps :=
    fun step hstep ↦ appliedSteps_sublist.subset hstep
  unfold TransactionPlan.ending
  cases hfailed : failedAttempt (plan.attempts driver plan.steps) with
  | some a =>
    have hmem := (eq_attempt_of_mem (failedAttempt_spec hfailed).1).2
    refine undoStory_scans hchanged fun stepId hstep ↦ ?_
    rw [← Option.some.inj hstep]
    exact mem_ids hmem
  | none =>
    refine .call _ ?_
    rcases plan.receiptOf driver snapshot with className | receipt
    · exact undoStory_scans hchanged (by simp)
    · exact .operation _ (.nil _)

/-- The pass over the events of a story succeeds. -/
theorem story_scans (plan : TransactionPlan) (driver : Driver) (rt : Runtime) :
    ∃ after, Scans plan.ids .initial (plan.story driver rt) after := by
  have hregistration : scanEvent plan.ids .initial (registrationEvent rt plan).stored =
      .ok .initial := by
    simp [scanEvent, require, TransactionEvent.stored, registrationEvent, TransactionPlan.event]
  have hstory : ∃ after, Scans plan.ids .initial (plan.registeredStory driver) after := by
    by_cases hcaptured : ∃ snapshot, Captured plan driver snapshot
    · obtain ⟨snapshot, hcaptured⟩ := hcaptured
      have hfirst : (-1 : ℤ) ≤ ([] : List TransactionStep).length := by simp
      obtain ⟨n, hattempts⟩ := attempts_scan plan driver snapshot (List.nil_append _).symm hfirst
      rw [registeredStory_of_captured hcaptured]
      exact ⟨_, .call _ (.event scan_snapshot (hattempts.append (ending_scans n)))⟩
    · obtain ⟨-, calls, rest, hcalls, hstory⟩ :=
        story_of_not_captured (not_exists.mp hcaptured)
      have hbefore : Scans plan.ids .initial calls .initial := by
        rcases hcalls with rfl | rfl <;> exact .nil _
      rw [hstory]
      refine ⟨.initial, hbefore.append (.event ?_ (.operation _ (.nil _)))⟩
      simp [scanEvent, require, TransactionEvent.stored, TransactionPlan.event, Scan.initial]
  obtain ⟨after, hstory⟩ := hstory
  refine ⟨after, ?_⟩
  unfold Scans at hstory ⊢
  rw [TransactionPlan.story, eventsOf_registration, List.foldlM_cons, hregistration]
  exact hstory

/-! ### The events of a prefix -/

/-- The transaction events of some writes. -/
def eventsIn (writes : List Write) : List TransactionEvent := writes.flatMap Write.transactionEvents

theorem eventsIn_initial {writes : List Write} {entries : List Entry}
    (h : writes <+: writesOf entries) : eventsIn writes <+: eventsOf entries := by
  obtain ⟨rest, hrest⟩ := h
  exact ⟨eventsIn rest, by rw [eventsOf, ← hrest, List.flatMap_append]; rfl⟩

/-- What a pass accepts, it accepts up to any event. -/
theorem foldlM_initial {σ α : Type} {f : σ → α → Checked σ} {events all : List α} {first last : σ}
    (h : events <+: all) (hall : all.foldlM f first = .ok last) :
    ∃ middle, events.foldlM f first = .ok middle := by
  obtain ⟨rest, rfl⟩ := h
  rw [List.foldlM_append, bind_eq_ok] at hall
  obtain ⟨middle, hmiddle, -⟩ := hall
  exact ⟨middle, hmiddle⟩

/-- The writes of a story after a crash, if there are any, start with the registration. -/
theorem prefix_story {rt : Runtime} {writes : List Write}
    (h : writes <+: writesOf (plan.story driver rt)) (hne : writes ≠ []) :
    ∃ rest, writes = registrationWrite rt plan :: rest ∧
      rest <+: writesOf (plan.registeredStory driver) := by
  rw [TransactionPlan.story, writesOf_wrote] at h
  cases writes with
  | nil => exact absurd rfl hne
  | cons w rest =>
    obtain ⟨rfl, hrest⟩ := List.cons_prefix_cons.mp h
    exact ⟨rest, rfl, hrest⟩

/-- The checks on the history of a transaction accept what a crash leaves of it. -/
theorem validateEvents_initial {rt : Runtime} {writes : List Write}
    (h : writes <+: writesOf (plan.story driver rt)) (hne : writes ≠ []) :
    validateEvents plan.ids (eventsIn writes) = .ok () := by
  obtain ⟨after, hscans⟩ := story_scans plan driver rt
  obtain ⟨middle, hmiddle⟩ := foldlM_initial (eventsIn_initial h) hscans
  obtain ⟨rest, rfl, hrest⟩ := prefix_story h hne
  have hevents : eventsIn (registrationWrite rt plan :: rest) =
      (registrationEvent rt plan).stored :: eventsIn rest := rfl
  have hothers : (eventsIn rest).countP (fun event ↦ event.eventType = .planRegistered) = 0 := by
    refine List.countP_eq_zero.mpr fun e he ↦ ?_
    simpa using (events_registeredStory ((eventsIn_initial hrest).subset he)).2
  unfold validateEvents
  refine bind_eq_ok.mpr ⟨(), require_eq_ok.mpr rfl, ?_⟩
  refine bind_eq_ok.mpr ⟨(), require_eq_ok.mpr ?_, ?_⟩
  · rw [hevents, List.countP_cons, hothers]
    rfl
  · exact bind_eq_ok.mpr ⟨middle, hmiddle, rfl⟩

/-! ### The rows of the plan -/

/-- The rows of the steps are read back as the steps. -/
theorem checkEach_stepRow (plan : TransactionPlan) (steps : List TransactionStep) (n m : ℕ) :
    checkEach (fun _ row ↦ TransactionStep.create row.stepId row.description row.postconditionRef
        row.compensatable row.dependencies) n (steps.mapIdx fun i ↦ plan.stepRow (m + i)) =
      .ok steps := by
  induction steps generalizing n m with
  | nil => rfl
  | cons step rest ih =>
    rw [mapIdx_stepRow_cons, checkEach]
    exact bind_eq_ok.mpr ⟨step, step.create_self, bind_eq_ok.mpr ⟨rest, ih (n + 1) (m + 1), rfl⟩⟩

theorem pairwise_stepRow (plan : TransactionPlan) (steps : List TransactionStep) (m : ℕ) :
    (steps.mapIdx fun i ↦ plan.stepRow (m + i)).Pairwise fun a b ↦ a.ordinal ≤ b.ordinal := by
  induction steps generalizing m with
  | nil => simp
  | cons step rest ih =>
    rw [mapIdx_stepRow_cons, List.pairwise_cons]
    refine ⟨fun row hrow ↦ ?_, ih (m + 1)⟩
    obtain ⟨i, hi, rfl⟩ := List.mem_mapIdx.mp hrow
    simp only [TransactionPlan.stepRow]
    omega

/-- What a crash leaves of a run that has registered its plan. -/
structure Crashed (plan : TransactionPlan) (driver : Driver) (rt : Runtime) (before : Store)
    (writes : List Write) (after : Store) : Prop where
  ready : Ready plan before
  /-- The tables kept their references. -/
  referential : Referential before
  /-- The writes are those of the run, up to some point. -/
  written : writes <+: writesOf (plan.story driver rt)
  /-- The plan was registered. -/
  registered : writes ≠ []
  /-- They are in the store. -/
  replayed : after = before.replay writes

namespace Crashed

variable {rt : Runtime} {s t : Store} {writes : List Write}

/-- The rows after a crash. -/
theorem rows (h : Crashed plan driver rt s writes t) :
    t.transactions = s.transactions ++ [plan.row rt] ∧
    t.transactionSteps = s.transactionSteps ++ plan.steps.mapIdx plan.stepRow ∧
    t.transactionEvents = s.transactionEvents ++ eventsIn writes ∧
    t.operations = s.operations := by
  obtain ⟨rest, rfl, hrest⟩ := prefix_story h.written h.registered
  have honly : ∀ w ∈ rest, w.transactions = [] ∧ w.transactionSteps = [] := by
    intro w hw
    rcases onlyEvents_registeredStory plan driver w (hrest.subset hw) with
      ⟨e, rfl, -⟩ | ⟨e, rfl⟩ <;> exact ⟨rfl, rfl⟩
  have hrows (u : Store) : (u.replay rest).transactions = u.transactions ∧
      (u.replay rest).transactionSteps = u.transactionSteps ∧
      (u.replay rest).transactionEvents = u.transactionEvents ++ eventsIn rest ∧
      (u.replay rest).operations = u.operations := by
    clear hrest h
    induction rest generalizing u with
    | nil => simp [Store.replay, eventsIn]
    | cons w rest ih =>
      obtain ⟨⟨htransactions, hsteps⟩, hothers⟩ := List.forall_mem_cons.mp honly
      obtain ⟨ht, hs, he, ho⟩ := ih hothers (u.write w)
      refine ⟨ht.trans ?_, hs.trans ?_, he.trans ?_, ho⟩
      · simp [Store.write, htransactions]
      · simp [Store.write, hsteps]
      · simp [Store.write, eventsIn]
  obtain ⟨ht, hs, he, ho⟩ := hrows (s.write (registrationWrite rt plan))
  rw [h.replayed]
  refine ⟨ht, hs, he.trans ?_, ho⟩
  simp [Store.write, eventsIn, registrationWrite]

/-- No transaction of the store before has the id of the plan. -/
theorem other_id (h : Crashed plan driver rt s writes t) {row : TransactionRow}
    (hrow : row ∈ s.transactions) : row.id ≠ plan.transactionId.val :=
  fun hid ↦ h.ready.unregistered ⟨row, hrow, .inl hid⟩

/-- The history of the transaction is what was written of it. -/
theorem events (h : Crashed plan driver rt s writes t) :
    t.transactionEventsOf plan.transactionId.val = eventsIn writes := by
  have hnew : (eventsIn writes).filter
      (fun event ↦ event.transactionId == plan.transactionId.val) = eventsIn writes :=
    List.filter_eq_self.mpr fun event hevent ↦ by
      simpa using transactionId_of_mem ((eventsIn_initial h.written).subset hevent)
  have hold := no_events h.referential h.ready
  unfold Store.transactionEventsOf at hold ⊢
  rw [h.rows.2.2.1, List.filter_append, hold, hnew, List.nil_append]

/-- The steps of the plan are read back. -/
theorem readSteps (h : Crashed plan driver rt s writes t) :
    readSteps t plan.transactionId.val = .ok plan.steps := by
  have hold : s.transactionSteps.filter
      (fun row ↦ row.transactionId == plan.transactionId.val) = [] := by
    refine List.filter_eq_nil_iff.mpr fun row hrow hid ↦ ?_
    obtain ⟨owner, howner, hownerId⟩ := h.referential.steps row hrow
    exact h.other_id howner (hownerId.trans (by simpa using hid))
  have hnew : (plan.steps.mapIdx plan.stepRow).filter
      (fun row ↦ row.transactionId == plan.transactionId.val) = plan.steps.mapIdx plan.stepRow := by
    refine List.filter_eq_self.mpr fun row hrow ↦ ?_
    obtain ⟨i, hi, rfl⟩ := List.mem_mapIdx.mp hrow
    simp [TransactionPlan.stepRow]
  have hpairwise := pairwise_stepRow plan plan.steps 0
  have hread := checkEach_stepRow plan plan.steps 0 0
  simp only [Nat.zero_add] at hpairwise hread
  rw [Journal.readSteps, h.rows.2.1, List.filter_append, hold, hnew, List.nil_append,
    List.mergeSort_of_pairwise (by simpa using hpairwise)]
  exact hread

/-- The checks on the transaction accept it. -/
theorem validateTransaction_row (h : Crashed plan driver rt s writes t) :
    validateTransaction rt t (plan.row rt) = .ok () := by
  unfold validateTransaction
  refine bind_eq_ok.mpr ⟨plan.steps, h.readSteps, ?_⟩
  refine bind_eq_ok.mpr ⟨(), require_eq_ok.mpr plan.nonempty, ?_⟩
  refine bind_eq_ok.mpr ⟨plan, plan.create_self, ?_⟩
  refine bind_eq_ok.mpr ⟨(), require_eq_ok.mpr rfl, ?_⟩
  change validateEvents plan.ids (t.transactionEventsOf plan.transactionId.val) = .ok ()
  rw [h.events]
  exact validateEvents_initial h.written h.registered

/-- The checks on another transaction come out as before. -/
theorem validateTransaction_other (h : Crashed plan driver rt s writes t) {row : TransactionRow}
    (hrow : row ∈ s.transactions) : validateTransaction rt t row = validateTransaction rt s row := by
  have hne := h.other_id hrow
  have hsteps : (plan.steps.mapIdx plan.stepRow).filter
      (fun step ↦ step.transactionId == row.id) = [] := by
    refine List.filter_eq_nil_iff.mpr fun step hstep hid ↦ hne ?_
    obtain ⟨i, hi, rfl⟩ := List.mem_mapIdx.mp hstep
    exact (beq_iff_eq.mp hid).symm
  have hevents : (eventsIn writes).filter (fun event ↦ event.transactionId == row.id) = [] := by
    refine List.filter_eq_nil_iff.mpr fun event hevent hid ↦ hne ?_
    rw [← transactionId_of_mem ((eventsIn_initial h.written).subset hevent)]
    exact (beq_iff_eq.mp hid).symm
  unfold validateTransaction Journal.readSteps Store.transactionEventsOf
  rw [h.rows.2.1, h.rows.2.2.1, List.filter_append, hsteps, List.append_nil, List.filter_append,
    hevents, List.append_nil]

end Crashed

theorem asCorruption_eq_ok {α : Type} {r : Checked α} {a : α} : asCorruption r = .ok a ↔ r = .ok a := by
  rcases r with e | b
  · simp only [asCorruption]
    split_ifs <;> simp
  · rfl

/-- The store opens exactly when every transaction passes and has its operation. -/
theorem validateTransactions_eq_ok {rt : Runtime} {s : Store} :
    validateTransactions rt s = .ok () ↔
      (∀ row ∈ s.transactions, ∃ operation ∈ s.operations, operation.id = row.operationId) ∧
        ∀ row ∈ s.transactions, validateTransaction rt s row = .ok () := by
  have hsorted : (∃ result, checkEach (fun _ ↦ validateTransaction rt s) 0
      (s.transactions.mergeSort fun a b ↦ a.id ≤ b.id) = .ok result) ↔
        ∀ row ∈ s.transactions, validateTransaction rt s row = .ok () := by
    rw [exists_checkEach_iff]
    simp only [List.mem_mergeSort]
  rw [← hsorted, validateTransactions, asCorruption_eq_ok]
  simp only [bind_eq_ok, require_eq_ok, pure_eq_ok, exists_const, and_true]

/-! ### What was started and not recorded -/

/-- An event of a kind about a step is among some events. -/
def Noted (events : List TransactionEvent) (eventType : TransactionEventType) (stepId : String) :
    Prop :=
  ∃ event ∈ events, event.stepId = some stepId ∧ event.eventType = eventType

/-- The steps that events of a kind are about. -/
def notedIds (eventType : TransactionEventType) (events : List TransactionEvent) : List String :=
  events.filterMap fun event ↦ if event.eventType = eventType then event.stepId else none

theorem mem_notedIds {eventType : TransactionEventType} {events : List TransactionEvent}
    {stepId : String} : stepId ∈ notedIds eventType events ↔ Noted events eventType stepId := by
  simp [notedIds, Noted, and_comm]

theorem count_notedIds_cons (eventType : TransactionEventType) (stepId : String)
    (event : TransactionEvent) (rest : List TransactionEvent) :
    (notedIds eventType (event :: rest)).count stepId =
      (if event.stepId = some stepId ∧ event.eventType = eventType then 1 else 0) +
        (notedIds eventType rest).count stepId := by
  unfold notedIds
  by_cases htype : event.eventType = eventType
  · rcases hstep : event.stepId with _ | other
    · simp [htype, hstep]
    · by_cases hid : other = stepId
      · simp [htype, hstep, hid, Nat.add_comm]
      · simp [htype, hstep, hid]
  · simp [htype]

/-- The loop counts the events of the two kinds. -/
theorem unresolvedCount_eq {started recorded : TransactionEventType} (hne : started ≠ recorded)
    (stepId : String) (events : List TransactionEvent) :
    unresolvedCount started recorded stepId events =
      (notedIds started events).count stepId - (notedIds recorded events).count stepId := by
  have hcount (first : ℤ) : events.foldl (fun count event ↦
      if event.stepId = some stepId then
        if event.eventType = started then count + 1
        else if event.eventType = recorded then count - 1
        else count
      else count) first =
        first + (notedIds started events).count stepId - (notedIds recorded events).count stepId := by
    induction events generalizing first with
    | nil => simp [notedIds]
    | cons event rest ih =>
      rw [List.foldl_cons, ih, count_notedIds_cons, count_notedIds_cons]
      by_cases hstep : event.stepId = some stepId
      · by_cases hstarted : event.eventType = started
        · have hrecorded : ¬ event.eventType = recorded := fun h ↦ hne (hstarted.symm.trans h)
          simp only [hstep, hstarted, hne, if_true, and_self, and_false, if_false]
          omega
        · by_cases hrecorded : event.eventType = recorded
          · simp only [hstep, hrecorded, Ne.symm hne, if_true, and_self, and_false, if_false]
            omega
          · simp only [hstep, hstarted, hrecorded, if_true, and_false, if_false]
            omega
      · simp only [hstep, if_false, false_and]
        omega
  rw [unresolvedCount, hcount]
  omega

/-- A step is reported exactly when it was started and not recorded.
Assumes: no step was started twice. -/
theorem mem_unresolved {started : TransactionEventType} (recorded : TransactionEventType)
    (hne : started ≠ recorded)
    {events : List TransactionEvent} (honce : (notedIds started events).Nodup) (stepId : String) :
    stepId ∈ unresolved events started recorded ↔
      Noted events started stepId ∧ ¬ Noted events recorded stepId := by
  have hstarted : (notedIds started events).count stepId ≤ 1 :=
    List.nodup_iff_count_le_one.mp honce stepId
  have hreported : stepId ∈ unresolved events started recorded ↔
      stepId ∈ events.filterMap TransactionEvent.stepId ∧
        0 < unresolvedCount started recorded stepId events := by
    simp [unresolved]
  have hpositive (eventType : TransactionEventType) :
      Noted events eventType stepId ↔ 0 < (notedIds eventType events).count stepId := by
    rw [← mem_notedIds, List.count_pos_iff]
  rw [hreported, unresolvedCount_eq hne]
  constructor
  · rintro ⟨-, hcount⟩
    rw [hpositive, hpositive]
    omega
  · rintro ⟨hnoted, hnot⟩
    obtain ⟨event, hevent, hstep, -⟩ := id hnoted
    refine ⟨List.mem_filterMap.mpr ⟨event, hevent, hstep⟩, ?_⟩
    rw [hpositive] at hnoted hnot
    omega

/-! ### What a story starts -/

theorem notedIds_append (eventType : TransactionEventType) (events more : List TransactionEvent) :
    notedIds eventType (events ++ more) = notedIds eventType events ++ notedIds eventType more :=
  List.filterMap_append ..

theorem notedIds_flatMap {α : Type} (eventType : TransactionEventType) (l : List α)
    (f : α → List Entry) : notedIds eventType (eventsOf (l.flatMap f)) =
      l.flatMap fun a ↦ notedIds eventType (eventsOf (f a)) := by
  induction l with
  | nil => rfl
  | cons a rest ih =>
    rw [List.flatMap_cons, eventsOf_append, notedIds_append, ih, List.flatMap_cons]

/-- What an attempt starts is its step. -/
theorem started_entries (a : Attempt) :
    notedIds .stepExecutionStarted (eventsOf (a.entries plan snapshot)) = [a.step.stepId.val] ∧
      notedIds .compensationStarted (eventsOf (a.entries plan snapshot)) = [] := by
  obtain ⟨step, execution, _ | post⟩ := a <;> exact ⟨rfl, rfl⟩

theorem started_compensationEntries (step : TransactionStep) :
    notedIds .stepExecutionStarted
        (eventsOf (plan.compensationEntries driver snapshot step)) = [] ∧
      notedIds .compensationStarted (eventsOf (plan.compensationEntries driver snapshot step)) =
        if step.compensatable then [step.stepId.val] else [] := by
  unfold TransactionPlan.compensationEntries
  split_ifs <;> exact ⟨rfl, rfl⟩

theorem started_undoStory (changed : List TransactionStep) (rootRef : String) (rootUnknown : Bool)
    (failedStepId : Option String) :
    notedIds .stepExecutionStarted (eventsOf
        (plan.undoStory driver snapshot changed rootRef rootUnknown failedStepId)) = [] ∧
      (notedIds .compensationStarted (eventsOf
        (plan.undoStory driver snapshot changed rootRef rootUnknown failedStepId))).Sublist
          (changed.reverse.map fun step ↦ step.stepId.val) := by
  have hconclusion {eventType : TransactionEventType} (hne : eventType ≠ .recoveryRequired) :
      notedIds eventType (eventsOf (plan.conclusion driver snapshot changed rootRef rootUnknown
        failedStepId)) = [] := by
    unfold TransactionPlan.conclusion
    by_cases hneeds : plan.NeedsRecovery driver snapshot changed rootUnknown
    · rw [if_pos hneeds]
      simp [notedIds, TransactionEvent.stored, TransactionPlan.recoveryEvent, TransactionPlan.event,
        hne.symm]
    · rw [if_neg hneeds]
      rfl
  unfold TransactionPlan.undoStory
  rw [eventsOf_append, notedIds_append, notedIds_append, hconclusion (by nofun),
    hconclusion (by nofun), notedIds_flatMap, notedIds_flatMap, List.append_nil, List.append_nil]
  simp only [started_compensationEntries]
  refine ⟨by simp, ?_⟩
  induction changed.reverse with
  | nil => exact List.Sublist.refl _
  | cons step rest ih =>
    rw [List.flatMap_cons, List.map_cons]
    split_ifs
    · exact ih.cons_cons _
    · exact ih.cons _

theorem started_ending (plan : TransactionPlan) (driver : Driver) (snapshot : TransactionSnapshot)
    (as : List Attempt) (changed : List TransactionStep) :
    notedIds .stepExecutionStarted (eventsOf (plan.ending driver snapshot as changed)) = [] ∧
      (notedIds .compensationStarted
        (eventsOf (plan.ending driver snapshot as changed))).Sublist
          (changed.reverse.map fun step ↦ step.stepId.val) := by
  unfold TransactionPlan.ending
  cases failedAttempt as with
  | some a => exact started_undoStory _ _ _ _
  | none =>
    rcases plan.receiptOf driver snapshot with className | receipt
    · exact started_undoStory changed _ _ _
    · exact ⟨rfl, List.nil_sublist _⟩

/-- A run starts no execution and no compensation of a step twice. -/
theorem started_story (plan : TransactionPlan) (driver : Driver) (rt : Runtime) :
    (notedIds .stepExecutionStarted (eventsOf (plan.story driver rt))).Nodup ∧
      (notedIds .compensationStarted (eventsOf (plan.story driver rt))).Nodup := by
  by_cases hcaptured : ∃ snapshot, Captured plan driver snapshot
  · obtain ⟨snapshot, hcaptured⟩ := hcaptured
    obtain ⟨hexecution, hcompensation⟩ := started_ending plan driver snapshot
      (plan.attempts driver plan.steps) (appliedSteps (plan.attempts driver plan.steps))
    have hevents : eventsOf (plan.story driver rt) =
        [(registrationEvent rt plan).stored, (plan.snapshotEvent snapshot).stored] ++
          (eventsOf ((plan.attempts driver plan.steps).flatMap (Attempt.entries plan snapshot)) ++
            eventsOf (plan.ending driver snapshot (plan.attempts driver plan.steps)
              (appliedSteps (plan.attempts driver plan.steps)))) := by
      rw [TransactionPlan.story, registeredStory_of_captured hcaptured, ← eventsOf_append]
      rfl
    have hbefore {eventType : TransactionEventType} : notedIds eventType
        [(registrationEvent rt plan).stored, (plan.snapshotEvent snapshot).stored] = [] := by
      simp [notedIds, TransactionEvent.stored, registrationEvent, TransactionPlan.snapshotEvent,
        TransactionPlan.event]
    have hids {steps : List TransactionStep} (h : steps.Sublist plan.steps) :
        (steps.map fun step ↦ step.stepId.val).Nodup := (h.map _).nodup (ids_nodup plan)
    rw [hevents, notedIds_append, notedIds_append, notedIds_append, notedIds_append, hbefore, hbefore,
      hexecution, notedIds_flatMap, notedIds_flatMap]
    simp only [started_entries, List.nil_append, List.append_nil]
    constructor
    · have hinit : (plan.attempts driver plan.steps).map Attempt.step <+: plan.steps :=
        attempts_initial plan.steps
      have hsteps := hids hinit.sublist
      rwa [List.map_map, List.map_eq_flatMap] at hsteps
    · have happlied : (appliedSteps (plan.attempts driver plan.steps)).Sublist plan.steps :=
        appliedSteps_sublist
      have hreversed := List.nodup_reverse.mpr (hids happlied)
      rw [← List.map_reverse] at hreversed
      rw [List.flatMap_eq_nil_iff.mpr fun _ _ ↦ rfl, List.nil_append]
      exact hcompensation.nodup hreversed
  · obtain ⟨-, calls, rest, hcalls, hstory⟩ :=
      story_of_not_captured (not_exists.mp hcaptured)
    rw [TransactionPlan.story, hstory]
    rcases hcalls with rfl | rfl <;> exact ⟨List.nodup_nil, List.nodup_nil⟩

/-- A whole run records whatever it starts. -/
theorem recorded_story (plan : TransactionPlan) (driver : Driver) (rt : Runtime) (stepId : String) :
    (Noted (eventsOf (plan.story driver rt)) .stepExecutionStarted stepId →
      Noted (eventsOf (plan.story driver rt)) .stepExecutionRecorded stepId) ∧
    (Noted (eventsOf (plan.story driver rt)) .compensationStarted stepId →
      Noted (eventsOf (plan.story driver rt)) .compensationRecorded stepId) := by
  have hnoted (eventType : TransactionEventType) :
      Noted (eventsOf (plan.story driver rt)) eventType stepId ↔ AnyEvent (fun event ↦
        event.stepId = some stepId ∧ event.eventType = eventType ∧ True) (plan.story driver rt) := by
    simp [Noted, AnyEvent]
  have habout {eventType : TransactionEventType} (h : eventType ≠ .recoveryRequired) :
      AboutStep fun event ↦ event.stepId = some stepId ∧ event.eventType = eventType ∧ True :=
    aboutStep _ h
  rw [hnoted, hnoted, hnoted, hnoted]
  by_cases hcaptured : ∃ snapshot, Captured plan driver snapshot
  · obtain ⟨snapshot, hcaptured⟩ := hcaptured
    rw [anyEvent_story_of_captured (habout (by rintro ⟨⟩)) hcaptured,
      anyEvent_story_of_captured (habout (by rintro ⟨⟩)) hcaptured,
      anyEvent_story_of_captured (habout (by rintro ⟨⟩)) hcaptured,
      anyEvent_story_of_captured (habout (by rintro ⟨⟩)) hcaptured]
    simp [anyEvent_entries, anyEvent_compensationEntries, TransactionEvent.stored,
      TransactionPlan.executionStarted, TransactionPlan.executionRecorded,
      TransactionPlan.postconditionRecorded, TransactionPlan.compensationStarted,
      TransactionPlan.compensationRecorded, TransactionPlan.stepEvent, TransactionPlan.event]
  · have hnot := not_exists.mp hcaptured
    exact ⟨fun h ↦ absurd h (not_anyEvent_story (habout (by rintro ⟨⟩)) hnot),
      fun h ↦ absurd h (not_anyEvent_story (habout (by rintro ⟨⟩)) hnot)⟩

namespace Crashed

variable {rt : Runtime} {s t : Store} {writes : List Write}

/-- The operation is executing before it gets another event. -/
theorem executing_replay (hready : Ready plan s) (hnone : writes.flatMap Write.operationEvents = []) :
    ∃ op, getOperation (s.replay writes) plan.operationId.val = .ok op ∧
      op.recordedState = .executing := by
  have hoperations (u : Store) : (u.replay writes).operations = u.operations := by
    clear hnone
    induction writes generalizing u with
    | nil => rfl
    | cons w rest ih => exact ih (u.write w)
  have hevents : (s.replay writes).operationEvents = s.operationEvents := by
    rw [operationEvents_replay_writes, hnone, List.append_nil]
  rw [getOperation_congr (hoperations s) hevents]
  exact hready.executing

/-- The operation is executing until everything is written. -/
theorem executing_or_all (h : Crashed plan driver rt s writes t) :
    writes = writesOf (plan.story driver rt) ∨
      ∃ op, getOperation t plan.operationId.val = .ok op ∧ op.recordedState = .executing := by
  obtain ⟨before, outcome, evidenceRef, receipt, result, hbefore, hstory⟩ :=
    endsOnce_story plan driver rt
  have hall : writesOf (plan.story driver rt) = writesOf before ++
      [operationWrite (plan.endEvent outcome evidenceRef receipt result)] := by
    rw [hstory, writesOf_append]
    rfl
  have hwritten := h.written
  rw [hall, List.prefix_concat_iff] at hwritten
  rcases hwritten with hwritten | hwritten
  · exact .inl (hwritten.trans hall.symm)
  · obtain ⟨rest, hrest⟩ := hwritten
    have hnone : writes.flatMap Write.operationEvents = [] := by
      unfold outcomesOf at hbefore
      rw [← hrest, List.flatMap_append] at hbefore
      exact (List.append_eq_nil_iff.mp hbefore).1
    rw [h.replayed]
    exact .inr (executing_replay h.ready hnone)

/-- Something was started and not recorded only while the operation is executing. -/
theorem executing_of_unresolved (h : Crashed plan driver rt s writes t) {stepId : String}
    (hunresolved : (Noted (eventsIn writes) .stepExecutionStarted stepId ∧
        ¬ Noted (eventsIn writes) .stepExecutionRecorded stepId) ∨
      (Noted (eventsIn writes) .compensationStarted stepId ∧
        ¬ Noted (eventsIn writes) .compensationRecorded stepId)) :
    ∃ op, getOperation t plan.operationId.val = .ok op ∧ op.recordedState = .executing := by
  refine h.executing_or_all.resolve_left fun hall ↦ ?_
  have hevents : eventsIn writes = eventsOf (plan.story driver rt) := by rw [hall]; rfl
  obtain ⟨hexecution, hcompensation⟩ := recorded_story plan driver rt stepId
  rw [hevents] at hunresolved
  rcases hunresolved with ⟨hstarted, hnot⟩ | ⟨hstarted, hnot⟩
  · exact hnot (hexecution hstarted)
  · exact hnot (hcompensation hstarted)

end Crashed

/-! ### The report after a crash -/

/-- The writes of a run that are committed before a crash. -/
def crashWrites (rt : Runtime) (plan : TransactionPlan) (driver : Driver) (s : Store) (k : ℕ) :
    List Write :=
  (writesOf (exec (run rt plan driver) ⟨s, []⟩).2.trace).take k

/-- The report on a transaction tells what some writes recorded of it. -/
structure Reports (plan : TransactionPlan) (rt : Runtime) (writes : List Write) (s : Store)
    (report : TransactionHistory) : Prop where
  /-- It is about the transaction. -/
  transactionId : report.transactionId = plan.transactionId.val
  operationId : report.operationId = plan.operationId.val
  planFingerprint : report.planFingerprint = plan.planFingerprint rt
  /-- The steps are those of the plan. -/
  steps : report.steps = plan.steps
  /-- The events are those that were written. -/
  events : report.events = eventsIn writes
  /-- The operation is as it is in the store. -/
  operation : getOperation s plan.operationId.val = .ok report.operation
  /-- An execution is unresolved when it was started and not recorded. -/
  executions : ∀ stepId, stepId ∈ report.unresolvedExecutionStepIds ↔
    Noted (eventsIn writes) .stepExecutionStarted stepId ∧
      ¬ Noted (eventsIn writes) .stepExecutionRecorded stepId
  /-- A compensation is unresolved when it was started and not recorded. -/
  compensations : ∀ stepId, stepId ∈ report.unresolvedCompensationStepIds ↔
    Noted (eventsIn writes) .compensationStarted stepId ∧
      ¬ Noted (eventsIn writes) .compensationRecorded stepId
  /-- Whatever is unresolved requires a review. -/
  review : ∀ stepId, stepId ∈ report.unresolvedExecutionStepIds ∨
    stepId ∈ report.unresolvedCompensationStepIds → report.requiresRecoveryReview = true

namespace Crashed

variable {rt : Runtime} {s t : Store} {writes : List Write}

/-- The store opens. -/
theorem opens (h : Crashed plan driver rt s writes t) (hopens : validateTransactions rt s = .ok ()) :
    validateTransactions rt t = .ok () := by
  obtain ⟨hoperations, htransactions⟩ := validateTransactions_eq_ok.mp hopens
  obtain ⟨hrows, -, -, hsame⟩ := h.rows
  rw [validateTransactions_eq_ok, hrows, hsame]
  simp only [List.forall_mem_append, List.forall_mem_singleton]
  refine ⟨⟨hoperations, ?_⟩, fun row hrow ↦ ?_, h.validateTransaction_row⟩
  · obtain ⟨op, hop, -⟩ := h.ready.executing
    obtain ⟨hmem, hid, -⟩ := getOperation_spec hop
    exact ⟨_, hmem, hid⟩
  · rw [h.validateTransaction_other hrow]
    exact htransactions row hrow

/-- The operation can be read. -/
theorem reads (h : Crashed plan driver rt s writes t) :
    ∃ op, getOperation t plan.operationId.val = .ok op := by
  rcases h.executing_or_all with hall | ⟨op, hop, -⟩
  · obtain ⟨before, outcome, evidenceRef, receipt, result, hbefore, hstory⟩ :=
      endsOnce_story plan driver rt
    obtain ⟨op, hop, hstate⟩ := executing_replay h.ready hbefore
    have htype : (plan.endEvent outcome evidenceRef receipt result).eventType =
        outcome.eventType := rfl
    obtain ⟨ended, hended, -⟩ := getOperation_write_outcome hop hstate rfl htype
    refine ⟨ended, ?_⟩
    rw [h.replayed, hall, hstory, writesOf_append, Store.replay, List.foldl_append]
    exact hended
  · exact ⟨op, hop⟩

/-- The report tells what was written. -/
theorem reports (h : Crashed plan driver rt s writes t) :
    ∃ report, history t plan.transactionId.val = .ok report ∧ Reports plan rt writes t report := by
  obtain ⟨op, hop⟩ := h.reads
  have hfind : t.transactions.find? (fun row ↦ row.id == plan.transactionId.val) =
      some (plan.row rt) := by
    have hnone : s.transactions.find? (fun row ↦ row.id == plan.transactionId.val) = none := by
      simpa using fun row hrow ↦ h.other_id hrow
    rw [h.rows.1, List.find?_append, hnone]
    simp [TransactionPlan.row]
  obtain ⟨hexecution, hcompensation⟩ := started_story plan driver rt
  have hnodup {eventType : TransactionEventType}
      (hall : (notedIds eventType (eventsOf (plan.story driver rt))).Nodup) :
      (notedIds eventType (eventsIn writes)).Nodup := by
    obtain ⟨rest, hrest⟩ := eventsIn_initial h.written
    rw [← hrest, notedIds_append] at hall
    exact hall.of_append_left
  have hexecutions := mem_unresolved .stepExecutionRecorded (by nofun)
    (hnodup hexecution)
  have hcompensations := mem_unresolved .compensationRecorded (by nofun)
    (hnodup hcompensation)
  refine ⟨_, bind_eq_ok.mpr ⟨plan.transactionId, transactionText_val _ _, bind_eq_ok.mpr
    ⟨plan.row rt, orRaise_eq_ok.mpr hfind, bind_eq_ok.mpr ⟨plan.steps, h.readSteps,
      bind_eq_ok.mpr ⟨op, hop, rfl⟩⟩⟩⟩, ?_⟩
  exact {
    transactionId := rfl
    operationId := rfl
    planFingerprint := rfl
    steps := rfl
    events := h.events
    operation := hop
    executions := fun stepId ↦ by
      rw [← h.events] at hexecutions ⊢
      exact hexecutions stepId
    compensations := fun stepId ↦ by
      rw [← h.events] at hcompensations ⊢
      exact hcompensations stepId
    review := fun stepId hunresolved ↦ by
      rw [h.events, hexecutions, hcompensations] at hunresolved
      obtain ⟨executing, hexecuting, hstate⟩ := h.executing_of_unresolved hunresolved
      rw [Except.ok.inj (hexecuting.symm.trans hop)] at hstate
      simp [hstate] }

end Crashed

/-- The writes of a run are those of its story, up to some point, and make up its store.
Assumes: the hash writes no blank text. -/
theorem run_writes {rt : Runtime} {s : Store} (driver : Driver)
    (hsha : ∀ text, sqlNonblank (rt.sha256 text))
    (hreferential : Referential s) (hready : Ready plan s) :
    writesOf (exec (run rt plan driver) ⟨s, []⟩).2.trace <+: writesOf (plan.story driver rt) ∧
      (exec (run rt plan driver) ⟨s, []⟩).2.store =
        s.replay (writesOf (exec (run rt plan driver) ⟨s, []⟩).2.trace) := by
  have hperforms := run_performs driver (r := ⟨s, []⟩) hsha hreferential hready
  rcases hperforms with ⟨result, hrun, -⟩ | ⟨e, done, w, rest, hrun, hstory, -⟩
  · rw [hrun]
    exact ⟨List.prefix_rfl, rfl⟩
  · rw [hrun, hstory, writesOf_append]
    exact ⟨List.prefix_append _ _, rfl⟩

end

/-- After a crash the store opens again, and the report on the transaction tells exactly what was
written before the crash.
Assumes: the hash writes no blank text, the store keeps the references of its tables, and it opened
before the run. -/
theorem crash_recovers (rt : Runtime) (plan : TransactionPlan) (driver : Driver) (s : Store) (k : ℕ)
    (hsha : ∀ text, sqlNonblank (rt.sha256 text)) (hreferential : Referential s)
    (hopens : validateTransactions rt s = .ok ()) :
    (exec (run rt plan driver) ⟨s, []⟩).2.store =
        s.replay (writesOf (exec (run rt plan driver) ⟨s, []⟩).2.trace) ∧
    validateTransactions rt (s.replay (crashWrites rt plan driver s k)) = .ok () ∧
    (crashWrites rt plan driver s k ≠ [] →
      ∃ report, history (s.replay (crashWrites rt plan driver s k)) plan.transactionId.val =
          .ok report ∧
        Reports plan rt (crashWrites rt plan driver s k)
          (s.replay (crashWrites rt plan driver s k)) report) := by
  by_cases hready : Ready plan s
  · obtain ⟨hinit, hstore⟩ := run_writes driver hsha hreferential hready
    refine ⟨hstore, ?_⟩
    have hwritten : crashWrites rt plan driver s k <+: writesOf (plan.story driver rt) :=
      (List.take_prefix _ _).trans hinit
    by_cases hnothing : crashWrites rt plan driver s k = []
    · rw [hnothing]
      exact ⟨hopens, fun h ↦ absurd rfl h⟩
    · have hcrashed : Crashed plan driver rt s (crashWrites rt plan driver s k)
          (s.replay (crashWrites rt plan driver s k)) :=
        ⟨hready, hreferential, hwritten, hnothing, rfl⟩
      exact ⟨hcrashed.opens hopens, fun _ ↦ hcrashed.reports⟩
  · obtain ⟨e, hrefused⟩ := run_refuses driver rt (r := ⟨s, []⟩) hready
    have hnothing : crashWrites rt plan driver s k = [] := by
      rw [crashWrites, hrefused]
      exact List.take_nil
    rw [hnothing, hrefused]
    exact ⟨rfl, hopens, fun h ↦ absurd rfl h⟩

/-- A crash while the step is executed: the store opens, and the report asks for a review of it. -/
theorem sample_recovers : ∃ report,
    history (executingStore.replay (crashWrites samplePlanHash samplePlan (sampleDriver doneText)
      executingStore 3)) "tx" = .ok report ∧
    "s" ∈ report.unresolvedExecutionStepIds ∧ report.requiresRecoveryReview = true := by
  have hopens : validateTransactions samplePlanHash executingStore = .ok () :=
    validateTransactions_eq_ok.mpr ⟨by simp [executingStore], by simp [executingStore]⟩
  obtain ⟨-, -, hreports⟩ := crash_recovers samplePlanHash samplePlan (sampleDriver doneText)
    executingStore 3 nonblank_samplePlanHash referential_executingStore hopens
  have hnoted : crashWrites samplePlanHash samplePlan (sampleDriver doneText) executingStore 3 ≠ [] ∧
      Noted (eventsIn (crashWrites samplePlanHash samplePlan (sampleDriver doneText)
        executingStore 3)) .stepExecutionStarted "s" ∧
      ¬ Noted (eventsIn (crashWrites samplePlanHash samplePlan (sampleDriver doneText)
        executingStore 3)) .stepExecutionRecorded "s" := by
    rw [← List.length_pos_iff]
    unfold Noted
    decide +kernel
  obtain ⟨report, hreport, htells⟩ := hreports hnoted.1
  have hunresolved := (htells.executions "s").mpr hnoted.2
  exact ⟨report, hreport, hunresolved, htells.review "s" (.inl hunresolved)⟩

end N0te.Journal
