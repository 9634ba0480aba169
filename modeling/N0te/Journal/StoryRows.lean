import N0te.Journal.TransactionStory

/-!
# The rows of a story

What a story adds to the history of its transaction, kind by kind, and to the events of its
operation. The attempts of a story are at the first steps of the plan, each followed by another only
when it succeeded, so an event of a step determines the attempt it was written for.
-/

set_option autoImplicit false
set_option relaxedAutoImplicit false

namespace N0te.Journal

open Library Governance

/-! ### The calls of a trace -/

/-- The steps a trace executes, in order. -/
def executedSteps (trace : List Entry) : List TransactionStep :=
  trace.filterMap fun
    | .call (.executeStep step) => some step
    | _ => none

/-- The steps a trace undoes, in order. -/
def undoneSteps (trace : List Entry) : List TransactionStep :=
  trace.filterMap fun
    | .call (.compensateStep step _) => some step
    | _ => none

section

variable {plan : TransactionPlan} {driver : Driver} {snapshot : TransactionSnapshot}

/-! ### The two kinds of stories -/

/-- The driver has its methods and captured a snapshot of the transaction. -/
def Captured (plan : TransactionPlan) (driver : Driver) (snapshot : TransactionSnapshot) : Prop :=
  driver.contract = none ∧ plan.snapshotOf driver = .ok snapshot

/-- With a snapshot the steps are attempted. -/
theorem registeredStory_of_captured (h : Captured plan driver snapshot) :
    plan.registeredStory driver = .call (.prepareSnapshot plan) ::
      .event (plan.snapshotEvent snapshot) ::
        ((plan.attempts driver plan.steps).flatMap (Attempt.entries plan snapshot) ++
          plan.ending driver snapshot (plan.attempts driver plan.steps)
            (appliedSteps (plan.attempts driver plan.steps))) := by
  simp only [TransactionPlan.registeredStory, h.1, h.2]

theorem storyStatus_of_captured (h : Captured plan driver snapshot) :
    plan.storyStatus driver = plan.endingStatus driver snapshot (plan.attempts driver plan.steps)
      (appliedSteps (plan.attempts driver plan.steps)) := by
  simp only [TransactionPlan.storyStatus, h.1, h.2]

/-- There is one captured snapshot at most. -/
theorem forall_captured (h : Captured plan driver snapshot) {P : TransactionSnapshot → Prop} :
    (∀ snapshot, Captured plan driver snapshot → P snapshot) ↔ P snapshot := by
  constructor
  · exact fun hall ↦ hall snapshot h
  · intro hp other hother
    rwa [Except.ok.inj (hother.2.symm.trans h.2)]

/-- Without a snapshot the run fails before anything was changed. -/
theorem story_of_not_captured (h : ∀ snapshot, ¬ Captured plan driver snapshot) :
    plan.storyStatus driver = .compensated ∧ ∃ calls rest,
      (calls = [] ∨ calls = [.call (.prepareSnapshot plan)]) ∧
        plan.registeredStory driver = calls ++ plan.safeStory (plan.ref rest) := by
  unfold TransactionPlan.registeredStory TransactionPlan.storyStatus
  cases hcontract : driver.contract with
  | some className => exact ⟨rfl, [], _, .inl rfl, rfl⟩
  | none =>
    cases hsnapshot : plan.snapshotOf driver with
    | error className => exact ⟨rfl, [_], _, .inr rfl, rfl⟩
    | ok snapshot => exact absurd ⟨hcontract, hsnapshot⟩ (h snapshot)

/-! ### Attempts and the plan -/

/-- The attempts are at the first steps, in order. -/
theorem attempts_initial (steps : List TransactionStep) :
    (plan.attempts driver steps).map Attempt.step <+: steps := by
  induction steps with
  | nil => exact List.prefix_rfl
  | cons step rest ih =>
    by_cases h : (plan.attempt driver step).Succeeded
    · rw [attempts_of_succeeded h, List.map_cons]
      exact (List.prefix_cons_inj step).mpr ih
    · rw [attempts_of_not_succeeded h]
      exact ⟨rest, rfl⟩

theorem eq_attempt_of_mem {steps : List TransactionStep} {a : Attempt}
    (h : a ∈ plan.attempts driver steps) : a = plan.attempt driver a.step ∧ a.step ∈ steps := by
  induction steps with
  | nil => cases h
  | cons step rest ih =>
    by_cases hsucceeded : (plan.attempt driver step).Succeeded
    · rw [attempts_of_succeeded hsucceeded] at h
      rcases List.mem_cons.mp h with rfl | hrest
      · exact ⟨rfl, List.mem_cons_self⟩
      · exact ⟨(ih hrest).1, List.mem_cons_of_mem _ (ih hrest).2⟩
    · rw [attempts_of_not_succeeded hsucceeded, List.mem_singleton] at h
      subst h
      exact ⟨rfl, List.mem_cons_self⟩

/-- Two attempts at steps of one id are the same. -/
theorem eq_of_stepId_eq {a b : Attempt} (ha : a ∈ plan.attempts driver plan.steps)
    (hb : b ∈ plan.attempts driver plan.steps) (h : a.step.stepId.val = b.step.stepId.val) :
    a = b := by
  obtain ⟨hattempt, hmem⟩ := eq_attempt_of_mem ha
  obtain ⟨hattempt', hmem'⟩ := eq_attempt_of_mem hb
  have hstep : a.step = b.step := List.inj_on_of_nodup_map plan.stepIds hmem hmem' (Text.ext h)
  rw [hattempt, hattempt', hstep]

/-- An attempt with another after it succeeded. -/
theorem succeeded_of_followed {steps : List TransactionStep} {done rest : List Attempt}
    {a b : Attempt} (h : plan.attempts driver steps = done ++ a :: b :: rest) : a.Succeeded := by
  induction steps generalizing done with
  | nil => simp [TransactionPlan.attempts] at h
  | cons step others ih =>
    by_cases hsucceeded : (plan.attempt driver step).Succeeded
    · rw [attempts_of_succeeded hsucceeded] at h
      cases done with
      | nil => exact (List.cons.inj h).1 ▸ hsucceeded
      | cons first done => exact ih (List.cons.inj h).2
    · rw [attempts_of_not_succeeded hsucceeded] at h
      have hlength := congrArg List.length h
      simp at hlength
      omega

/-- When every attempt succeeded, every step was attempted. -/
theorem map_step_of_succeeded {steps : List TransactionStep}
    (h : ∀ a ∈ plan.attempts driver steps, a.Succeeded) :
    (plan.attempts driver steps).map Attempt.step = steps := by
  induction steps with
  | nil => rfl
  | cons step rest ih =>
    by_cases hsucceeded : (plan.attempt driver step).Succeeded
    · rw [attempts_of_succeeded hsucceeded, List.map_cons, ih]
      · rfl
      · intro a ha
        rw [attempts_of_succeeded hsucceeded] at h
        exact h a (List.mem_cons_of_mem _ ha)
    · rw [attempts_of_not_succeeded hsucceeded] at h
      exact absurd (h _ (List.mem_singleton_self _)) hsucceeded

theorem failedAttempt_eq_none {as : List Attempt} :
    failedAttempt as = none ↔ ∀ a ∈ as, a.Succeeded := by
  simp [failedAttempt]

theorem failedAttempt_spec {as : List Attempt} {a : Attempt} (h : failedAttempt as = some a) :
    a ∈ as ∧ ¬ a.Succeeded := by
  unfold failedAttempt at h
  exact ⟨List.mem_of_find?_eq_some h, by simpa using List.find?_some h⟩

/-- The changed steps are those of the attempts that applied something. -/
theorem mem_appliedSteps {as : List Attempt} {step : TransactionStep} :
    step ∈ appliedSteps as ↔ ∃ a ∈ as, a.Applied ∧ a.step = step := by
  simp [appliedSteps, and_assoc]

/-- The changed steps come in plan order. -/
theorem appliedSteps_sublist :
    (appliedSteps (plan.attempts driver plan.steps)).Sublist plan.steps :=
  (List.filter_sublist.map _).trans (attempts_initial plan.steps).sublist

/-- Only the last attempt may have failed. -/
theorem failedAttempt_attempts {steps : List TransactionStep} {a : Attempt}
    (h : a ∈ plan.attempts driver steps) (hnot : ¬ a.Succeeded) :
    failedAttempt (plan.attempts driver steps) = some a := by
  induction steps with
  | nil => cases h
  | cons step rest ih =>
    by_cases hsucceeded : (plan.attempt driver step).Succeeded
    · rw [attempts_of_succeeded hsucceeded] at h ⊢
      rw [failedAttempt_cons hsucceeded]
      rcases List.mem_cons.mp h with rfl | hrest
      · exact absurd hsucceeded hnot
      · exact ih hrest
    · rw [attempts_of_not_succeeded hsucceeded, List.mem_singleton] at h
      rw [attempts_of_not_succeeded hsucceeded, failedAttempt_singleton hsucceeded, h]

/-- A verified execution succeeded and is known to have changed something or not. -/
theorem executed_of_succeeded {a : Attempt} (hmem : a ∈ plan.attempts driver plan.steps)
    (h : a.Succeeded) : a.execution.status = .succeeded ∧ a.execution.changeState ≠ .unknown := by
  obtain ⟨post, hpost, -⟩ := h
  rw [(eq_attempt_of_mem hmem).1] at hpost ⊢
  by_cases hexecuted : (plan.executionOf driver a.step).status = .succeeded
  · exact ⟨hexecuted, (plan.executionOf driver a.step).known hexecuted⟩
  · rw [attempt_of_not_executed hexecuted] at hpost
    cases hpost

/-- What succeeded is known. -/
theorem not_succeeded_of_unknown {a : Attempt} (hmem : a ∈ plan.attempts driver plan.steps)
    (h : a.Unknown) : ¬ a.Succeeded := by
  intro hsucceeded
  obtain ⟨hstatus, hchange⟩ := executed_of_succeeded hmem hsucceeded
  obtain ⟨post, hpost, hsatisfied⟩ := hsucceeded
  rcases h with h | h | ⟨other, hother, h⟩
  · exact hchange h
  · rw [hstatus] at h
    cases h
  · rw [Option.some.inj (hpost.symm.trans hother)] at hsatisfied
    rw [hsatisfied] at h
    cases h

/-! ### The rows a story adds -/

def TransactionEvent.stored (e : TransactionEvent) : TransactionEvent :=
  { e with evidenceRef := strip e.evidenceRef }

/-- The transaction events some entries write. -/
def eventsOf (entries : List Entry) : List TransactionEvent :=
  (writesOf entries).flatMap Write.transactionEvents

/-- The operation events some entries write. -/
def outcomesOf (entries : List Entry) : List OperationEvent :=
  (writesOf entries).flatMap Write.operationEvents

theorem transactionEvents_replay (s : Store) (entries : List Entry) :
    (s.replay (writesOf entries)).transactionEvents = s.transactionEvents ++ eventsOf entries := by
  unfold eventsOf Store.replay
  induction writesOf entries generalizing s with
  | nil => simp
  | cons w rest ih => simp [ih, Store.write]

theorem operationEvents_replay_writes (s : Store) (writes : List Write) :
    (s.replay writes).operationEvents =
      s.operationEvents ++ writes.flatMap Write.operationEvents := by
  unfold Store.replay
  induction writes generalizing s with
  | nil => simp
  | cons w rest ih => simp [ih, Store.write]

theorem operationEvents_replay (s : Store) (entries : List Entry) :
    (s.replay (writesOf entries)).operationEvents = s.operationEvents ++ outcomesOf entries :=
  operationEvents_replay_writes s _

@[simp] theorem eventsOf_nil : eventsOf [] = [] := rfl

@[simp] theorem eventsOf_call (c : DriverCall) (entries : List Entry) :
    eventsOf (.call c :: entries) = eventsOf entries := rfl

@[simp] theorem eventsOf_event (e : TransactionEvent) (entries : List Entry) :
    eventsOf (.event e :: entries) = e.stored :: eventsOf entries := rfl

@[simp] theorem eventsOf_operation (e : OperationEvent) (entries : List Entry) :
    eventsOf (.operation e :: entries) = eventsOf entries := rfl

@[simp] theorem eventsOf_registration (rt : Runtime) (entries : List Entry) :
    eventsOf (.wrote (registrationWrite rt plan) :: entries) =
      (registrationEvent rt plan).stored :: eventsOf entries := rfl

@[simp] theorem eventsOf_append (entries more : List Entry) :
    eventsOf (entries ++ more) = eventsOf entries ++ eventsOf more := by
  simp [eventsOf]

/-- Some event that the entries write has a property. -/
def AnyEvent (P : TransactionEvent → Prop) (entries : List Entry) : Prop :=
  ∃ e ∈ eventsOf entries, P e

variable {P : TransactionEvent → Prop}

@[simp] theorem anyEvent_nil : AnyEvent P [] ↔ False := by simp [AnyEvent]

@[simp] theorem anyEvent_call (c : DriverCall) (entries : List Entry) :
    AnyEvent P (.call c :: entries) ↔ AnyEvent P entries := Iff.rfl

@[simp] theorem anyEvent_event (e : TransactionEvent) (entries : List Entry) :
    AnyEvent P (.event e :: entries) ↔ P e.stored ∨ AnyEvent P entries := by
  simp [AnyEvent]

@[simp] theorem anyEvent_operation (e : OperationEvent) (entries : List Entry) :
    AnyEvent P (.operation e :: entries) ↔ AnyEvent P entries := by
  simp [AnyEvent]

@[simp] theorem anyEvent_registration (rt : Runtime) (entries : List Entry) :
    AnyEvent P (.wrote (registrationWrite rt plan) :: entries) ↔
      P (registrationEvent rt plan).stored ∨ AnyEvent P entries := by
  simp [AnyEvent]

@[simp] theorem anyEvent_append (entries more : List Entry) :
    AnyEvent P (entries ++ more) ↔ AnyEvent P entries ∨ AnyEvent P more := by
  simp [AnyEvent, or_and_right, exists_or]

@[simp] theorem anyEvent_flatMap {α : Type} (l : List α) (f : α → List Entry) :
    AnyEvent P (l.flatMap f) ↔ ∃ a ∈ l, AnyEvent P (f a) := by
  induction l with
  | nil => simp
  | cons a rest ih => simp [ih]

@[simp] theorem outcomesOf_nil : outcomesOf [] = [] := rfl

@[simp] theorem outcomesOf_call (c : DriverCall) (entries : List Entry) :
    outcomesOf (.call c :: entries) = outcomesOf entries := rfl

@[simp] theorem outcomesOf_event (e : TransactionEvent) (entries : List Entry) :
    outcomesOf (.event e :: entries) = outcomesOf entries := rfl

@[simp] theorem outcomesOf_operation (e : OperationEvent) (entries : List Entry) :
    outcomesOf (.operation e :: entries) = e :: outcomesOf entries := rfl

@[simp] theorem outcomesOf_registration (rt : Runtime) (entries : List Entry) :
    outcomesOf (.wrote (registrationWrite rt plan) :: entries) = outcomesOf entries := rfl

@[simp] theorem outcomesOf_append (entries more : List Entry) :
    outcomesOf (entries ++ more) = outcomesOf entries ++ outcomesOf more := by
  simp [outcomesOf]

theorem outcomesOf_flatMap {α : Type} {l : List α} {f : α → List Entry}
    (h : ∀ a ∈ l, outcomesOf (f a) = []) : outcomesOf (l.flatMap f) = [] := by
  induction l with
  | nil => rfl
  | cons a rest ih =>
    rw [List.flatMap_cons, outcomesOf_append, h a List.mem_cons_self,
      ih fun b hb ↦ h b (List.mem_cons_of_mem _ hb)]
    rfl

theorem outcomesOf_entries (a : Attempt) : outcomesOf (a.entries plan snapshot) = [] := by
  obtain ⟨step, execution, _ | post⟩ := a <;> simp [Attempt.entries]

/-- Entries that end the operation in their last write, and not before. -/
def EndsOnce (plan : TransactionPlan) (entries : List Entry) : Prop :=
  ∃ before outcome evidenceRef receiptRef resultFingerprint, outcomesOf before = [] ∧ entries =
    before ++ [.operation (plan.endEvent outcome evidenceRef receiptRef resultFingerprint)]

theorem EndsOnce.append {entries : List Entry} (h : EndsOnce plan entries) (before : List Entry)
    (hbefore : outcomesOf before = []) : EndsOnce plan (before ++ entries) := by
  obtain ⟨first, outcome, evidenceRef, receiptRef, resultFingerprint, hfirst, rfl⟩ := h
  refine ⟨before ++ first, outcome, evidenceRef, receiptRef, resultFingerprint, ?_, ?_⟩
  · rw [outcomesOf_append, hbefore, hfirst, List.nil_append]
  · rw [List.append_assoc]

theorem endsOnce_undoStory (changed : List TransactionStep) (rootRef : String)
    (rootUnknown : Bool) (failedStepId : Option String) :
    EndsOnce plan (plan.undoStory driver snapshot changed rootRef rootUnknown failedStepId) := by
  have hsteps : outcomesOf (changed.reverse.flatMap (plan.compensationEntries driver snapshot)) =
      [] := by
    refine outcomesOf_flatMap fun step _ ↦ ?_
    unfold TransactionPlan.compensationEntries
    split_ifs <;> simp
  refine .append ?_ _ hsteps
  unfold TransactionPlan.conclusion
  by_cases hneeds : plan.NeedsRecovery driver snapshot changed rootUnknown
  · rw [if_pos hneeds]
    exact ⟨[_], _, _, _, _, rfl, rfl⟩
  · rw [if_neg hneeds]
    exact ⟨[], _, _, _, _, rfl, rfl⟩

theorem endsOnce_ending (as : List Attempt) (changed : List TransactionStep) :
    EndsOnce plan (plan.ending driver snapshot as changed) := by
  unfold TransactionPlan.ending
  cases failedAttempt as with
  | some a => exact endsOnce_undoStory _ _ _ _
  | none =>
    rcases plan.receiptOf driver snapshot with className | receipt
    · exact (endsOnce_undoStory _ _ _ _).append [.call _] rfl
    · exact ⟨[.call _], _, _, _, _, rfl, rfl⟩

/-- A story ends the operation once, in its last write. -/
theorem endsOnce_story (plan : TransactionPlan) (driver : Driver) (rt : Runtime) :
    EndsOnce plan (plan.story driver rt) := by
  by_cases hcaptured : ∃ snapshot, Captured plan driver snapshot
  · obtain ⟨snapshot, hcaptured⟩ := hcaptured
    have hattempts : outcomesOf
        ((plan.attempts driver plan.steps).flatMap (Attempt.entries plan snapshot)) = [] :=
      outcomesOf_flatMap fun a _ ↦ outcomesOf_entries a
    rw [TransactionPlan.story, registeredStory_of_captured hcaptured]
    exact ((endsOnce_ending _ _).append _ hattempts).append
      [.wrote (registrationWrite rt plan), .call _, .event _] rfl
  · obtain ⟨-, calls, rest, hcalls, hstory⟩ :=
      story_of_not_captured (not_exists.mp hcaptured)
    have hsafe : EndsOnce plan (plan.safeStory (plan.ref rest)) := ⟨[_], _, _, _, _, rfl, rfl⟩
    have hbefore : outcomesOf calls = [] := by rcases hcalls with rfl | rfl <;> rfl
    rw [TransactionPlan.story, hstory]
    exact (hsafe.append _ hbefore).append [.wrote (registrationWrite rt plan)] rfl

/-! ### The events of each kind -/

theorem anyEvent_entries (a : Attempt) : AnyEvent P (a.entries plan snapshot) ↔
    P (plan.executionStarted snapshot a.step).stored ∨
      P (plan.executionRecorded snapshot a.step a.execution).stored ∨
      ∃ post ∈ a.verification, P (plan.postconditionRecorded snapshot a.step post).stored := by
  obtain ⟨step, execution, _ | post⟩ := a <;> simp [Attempt.entries]

theorem anyEvent_compensationEntries (step : TransactionStep) :
    AnyEvent P (plan.compensationEntries driver snapshot step) ↔ step.compensatable ∧
      (P (plan.compensationStarted snapshot step).stored ∨
        P (plan.compensationRecorded snapshot step
          (plan.compensationOf driver snapshot step)).stored) := by
  unfold TransactionPlan.compensationEntries
  split_ifs with h <;> simp [h]

/-- The events of undoing, apart from the recovery event. -/
theorem anyEvent_undoStory (hkind : ∀ e, P e → e.eventType ≠ .recoveryRequired)
    (changed : List TransactionStep) (rootRef : String) (rootUnknown : Bool)
    (failedStepId : Option String) :
    AnyEvent P (plan.undoStory driver snapshot changed rootRef rootUnknown failedStepId) ↔
      ∃ step ∈ changed, AnyEvent P (plan.compensationEntries driver snapshot step) := by
  have hconclusion : ¬ AnyEvent P (plan.conclusion driver snapshot changed rootRef rootUnknown
      failedStepId) := by
    unfold TransactionPlan.conclusion
    by_cases hneeds : plan.NeedsRecovery driver snapshot changed rootUnknown
    · rw [if_pos hneeds]
      simp only [anyEvent_event, anyEvent_operation, anyEvent_nil, or_false]
      exact fun h ↦ hkind _ h rfl
    · rw [if_neg hneeds]
      simp
  simp only [TransactionPlan.undoStory, anyEvent_append, anyEvent_flatMap, List.mem_reverse,
    hconclusion, or_false]

/-- The changed steps are undone: an attempt did not succeed, or there is no valid receipt. -/
def Undoing (plan : TransactionPlan) (driver : Driver) (snapshot : TransactionSnapshot)
    (as : List Attempt) : Prop :=
  (∃ a ∈ as, ¬ a.Succeeded) ∨ ∀ receipt, plan.receiptOf driver snapshot ≠ .ok receipt

/-- A run is complete unless steps are undone. -/
theorem endingStatus_eq_complete {as : List Attempt} {changed : List TransactionStep} :
    plan.endingStatus driver snapshot as changed = .complete ↔
      ¬ Undoing plan driver snapshot as := by
  have hundo (rootUnknown : Bool) :
      plan.undoStatus driver snapshot changed rootUnknown ≠ .complete := by
    unfold TransactionPlan.undoStatus
    split_ifs <;> simp
  unfold TransactionPlan.endingStatus
  cases hfailed : failedAttempt as with
  | some a =>
    have hundoing : Undoing plan driver snapshot as := .inl ⟨a, failedAttempt_spec hfailed⟩
    simp [hundo, hundoing]
  | none =>
    have hnone : ¬ ∃ a ∈ as, ¬ a.Succeeded := by
      simpa using failedAttempt_eq_none.mp hfailed
    rcases hreceipt : plan.receiptOf driver snapshot with className | receipt
    · simp [hundo, Undoing, hreceipt]
    · simp [Undoing, hnone, hreceipt]

/-- When steps are undone the status says whether that worked, and what is unknown stays so. -/
theorem endingStatus_of_undoing {changed : List TransactionStep}
    (h : Undoing plan driver snapshot (plan.attempts driver plan.steps)) : ∃ rootUnknown,
      plan.endingStatus driver snapshot (plan.attempts driver plan.steps) changed =
        plan.undoStatus driver snapshot changed rootUnknown ∧
      ∀ a ∈ plan.attempts driver plan.steps, a.Unknown → rootUnknown = true := by
  unfold TransactionPlan.endingStatus
  cases hfailed : failedAttempt (plan.attempts driver plan.steps) with
  | some failed =>
    refine ⟨decide failed.Unknown, rfl, fun a ha hunknown ↦ ?_⟩
    have heq := failedAttempt_attempts ha (not_succeeded_of_unknown ha hunknown)
    rw [Option.some.inj (hfailed.symm.trans heq)]
    exact decide_eq_true hunknown
  | none =>
    rcases hreceipt : plan.receiptOf driver snapshot with className | receipt
    · exact ⟨true, rfl, fun _ _ _ ↦ rfl⟩
    · rcases h with ⟨a, ha, hnot⟩ | hno
      · exact absurd (failedAttempt_eq_none.mp hfailed a ha) hnot
      · exact absurd hreceipt (hno receipt)

/-- A changed step that was not restored requires recovery. -/
theorem storyStatus_of_not_restored (hcaptured : Captured plan driver snapshot)
    (hundoing : Undoing plan driver snapshot (plan.attempts driver plan.steps))
    {step : TransactionStep} (hstep : step ∈ appliedSteps (plan.attempts driver plan.steps))
    (h : ¬ plan.Restored driver snapshot step) : plan.storyStatus driver = .recoveryRequired := by
  obtain ⟨rootUnknown, hstatus, -⟩ := endingStatus_of_undoing hundoing
  rw [storyStatus_of_captured hcaptured, hstatus]
  exact if_pos (.inr ⟨step, hstep, h⟩)

/-- Something unknown requires recovery. -/
theorem storyStatus_of_unknown (hcaptured : Captured plan driver snapshot) {a : Attempt}
    (ha : a ∈ plan.attempts driver plan.steps) (h : a.Unknown) :
    plan.storyStatus driver = .recoveryRequired := by
  obtain ⟨rootUnknown, hstatus, hunknown⟩ :=
    endingStatus_of_undoing (.inl ⟨a, ha, not_succeeded_of_unknown ha h⟩)
  rw [storyStatus_of_captured hcaptured, hstatus]
  exact if_pos (.inl (hunknown a ha h))

/-- After a compensated run every changed step was restored. -/
theorem restored_of_compensated (hcaptured : Captured plan driver snapshot)
    (h : plan.storyStatus driver = .compensated) :
    Undoing plan driver snapshot (plan.attempts driver plan.steps) ∧
      ∀ step ∈ appliedSteps (plan.attempts driver plan.steps),
        plan.Restored driver snapshot step := by
  have hundoing : Undoing plan driver snapshot (plan.attempts driver plan.steps) := by
    by_contra hnot
    rw [storyStatus_of_captured hcaptured, endingStatus_eq_complete.mpr hnot] at h
    cases h
  refine ⟨hundoing, fun step hstep ↦ by_contra fun hnot ↦ ?_⟩
  rw [storyStatus_of_not_restored hcaptured hundoing hstep hnot] at h
  cases h

/-- The events of an ending, apart from the recovery event. -/
theorem anyEvent_ending (hkind : ∀ e, P e → e.eventType ≠ .recoveryRequired) (as : List Attempt)
    (changed : List TransactionStep) :
    AnyEvent P (plan.ending driver snapshot as changed) ↔ Undoing plan driver snapshot as ∧
      ∃ step ∈ changed, AnyEvent P (plan.compensationEntries driver snapshot step) := by
  unfold TransactionPlan.ending
  cases hfailed : failedAttempt as with
  | some a =>
    obtain ⟨hmem, hnot⟩ := failedAttempt_spec hfailed
    dsimp only
    rw [anyEvent_undoStory hkind]
    exact ⟨fun h ↦ ⟨.inl ⟨a, hmem, hnot⟩, h⟩, And.right⟩
  | none =>
    have hnone : ¬ ∃ a ∈ as, ¬ a.Succeeded := by
      simpa using failedAttempt_eq_none.mp hfailed
    rcases hreceipt : plan.receiptOf driver snapshot with className | receipt
    · dsimp only
      rw [anyEvent_call, anyEvent_undoStory hkind]
      exact ⟨fun h ↦ ⟨.inr (by simp [hreceipt]), h⟩, And.right⟩
    · simp only [anyEvent_call, anyEvent_operation, anyEvent_nil, false_iff, not_and]
      rintro (hfail | hno)
      · exact absurd hfail hnone
      · exact absurd hreceipt (hno receipt)

/-- A property of the events about a step, other than the recovery event. -/
def AboutStep (P : TransactionEvent → Prop) : Prop :=
  ∀ e, P e → e.stepId ≠ none ∧ e.eventType ≠ .recoveryRequired

/-- The events about steps: those of the attempts, and those of the steps that are undone. -/
theorem anyEvent_story_of_captured {rt : Runtime} (hP : AboutStep P)
    (h : Captured plan driver snapshot) : AnyEvent P (plan.story driver rt) ↔
      (∃ a ∈ plan.attempts driver plan.steps, AnyEvent P (a.entries plan snapshot)) ∨
      Undoing plan driver snapshot (plan.attempts driver plan.steps) ∧
        ∃ step ∈ appliedSteps (plan.attempts driver plan.steps),
          AnyEvent P (plan.compensationEntries driver snapshot step) := by
  have hregistration : ¬ P (registrationEvent rt plan).stored := fun h ↦ (hP _ h).1 rfl
  have hsnapshot : ¬ P (plan.snapshotEvent snapshot).stored := fun h ↦ (hP _ h).1 rfl
  rw [TransactionPlan.story, anyEvent_registration, registeredStory_of_captured h, anyEvent_call,
    anyEvent_event, anyEvent_append, anyEvent_flatMap, anyEvent_ending fun e he ↦ (hP e he).2]
  simp only [hregistration, hsnapshot, false_or]

/-- Without a snapshot there are no events about steps. -/
theorem not_anyEvent_story {rt : Runtime} (hP : AboutStep P)
    (h : ∀ snapshot, ¬ Captured plan driver snapshot) : ¬ AnyEvent P (plan.story driver rt) := by
  obtain ⟨-, calls, rest, hcalls, hstory⟩ := story_of_not_captured h
  have hbefore : ¬ AnyEvent P calls := by rcases hcalls with rfl | rfl <;> simp
  rw [TransactionPlan.story, anyEvent_registration, hstory, anyEvent_append,
    TransactionPlan.safeStory, anyEvent_event, anyEvent_operation, anyEvent_nil]
  rintro (h | h | h | h)
  · exact (hP _ h).1 rfl
  · exact hbefore h
  · exact (hP _ h).1 rfl
  · exact h

/-- The writes of a run after the registration: events of the transaction that do not register it
again, and events of the operation. -/
def OnlyEvents (plan : TransactionPlan) (entries : List Entry) : Prop :=
  ∀ w ∈ writesOf entries, (∃ e, w = eventWrite e ∧ e.transactionId = plan.transactionId.val ∧
    e.eventType ≠ .planRegistered) ∨ ∃ e, w = operationWrite e

namespace OnlyEvents

variable {entries more : List Entry}

theorem nil : OnlyEvents plan [] := by simp [OnlyEvents]

theorem call (c : DriverCall) (h : OnlyEvents plan entries) :
    OnlyEvents plan (.call c :: entries) := h

theorem event {e : TransactionEvent} (hid : e.transactionId = plan.transactionId.val)
    (htype : e.eventType ≠ .planRegistered) (h : OnlyEvents plan entries) :
    OnlyEvents plan (.event e :: entries) :=
  List.forall_mem_cons.mpr ⟨.inl ⟨e, rfl, hid, htype⟩, h⟩

theorem operation (e : OperationEvent) (h : OnlyEvents plan entries) :
    OnlyEvents plan (.operation e :: entries) :=
  List.forall_mem_cons.mpr ⟨.inr ⟨e, rfl⟩, h⟩

theorem append (h : OnlyEvents plan entries) (hmore : OnlyEvents plan more) :
    OnlyEvents plan (entries ++ more) := by
  unfold OnlyEvents at h hmore ⊢
  rw [writesOf_append]
  exact List.forall_mem_append.mpr ⟨h, hmore⟩

theorem flatMap {α : Type} {l : List α} {f : α → List Entry}
    (h : ∀ a ∈ l, OnlyEvents plan (f a)) : OnlyEvents plan (l.flatMap f) := by
  induction l with
  | nil => exact nil
  | cons a rest ih =>
    exact (h a List.mem_cons_self).append (ih fun b hb ↦ h b (List.mem_cons_of_mem _ hb))

end OnlyEvents

theorem onlyEvents_entries (a : Attempt) : OnlyEvents plan (a.entries plan snapshot) := by
  refine .event rfl nofun (.call _ (.event rfl nofun ?_))
  cases a.verification with
  | none => exact .nil
  | some post => exact .call _ (.event rfl nofun .nil)

theorem onlyEvents_undoStory (changed : List TransactionStep) (rootRef : String)
    (rootUnknown : Bool) (failedStepId : Option String) :
    OnlyEvents plan (plan.undoStory driver snapshot changed rootRef rootUnknown failedStepId) := by
  refine .append (.flatMap fun step _ ↦ ?_) ?_
  · unfold TransactionPlan.compensationEntries
    split_ifs
    · exact .event rfl nofun (.call _ (.event rfl nofun .nil))
    · exact .nil
  · unfold TransactionPlan.conclusion
    by_cases hneeds : plan.NeedsRecovery driver snapshot changed rootUnknown
    · rw [if_pos hneeds]
      exact .event rfl nofun (.operation _ .nil)
    · rw [if_neg hneeds]
      exact .operation _ .nil

theorem onlyEvents_ending (as : List Attempt) (changed : List TransactionStep) :
    OnlyEvents plan (plan.ending driver snapshot as changed) := by
  unfold TransactionPlan.ending
  cases failedAttempt as with
  | some a => exact onlyEvents_undoStory _ _ _ _
  | none =>
    refine .call _ ?_
    rcases plan.receiptOf driver snapshot with className | receipt
    · exact onlyEvents_undoStory _ _ _ _
    · exact .operation _ .nil

/-- After the registration a run only adds events. -/
theorem onlyEvents_registeredStory (plan : TransactionPlan) (driver : Driver) :
    OnlyEvents plan (plan.registeredStory driver) := by
  by_cases hcaptured : ∃ snapshot, Captured plan driver snapshot
  · obtain ⟨snapshot, hcaptured⟩ := hcaptured
    rw [registeredStory_of_captured hcaptured]
    refine .call _ (.event rfl nofun (.append (.flatMap fun a _ ↦ onlyEvents_entries a) ?_))
    exact onlyEvents_ending _ _
  · obtain ⟨-, calls, rest, hcalls, hstory⟩ :=
      story_of_not_captured (not_exists.mp hcaptured)
    have hbefore : OnlyEvents plan calls := by rcases hcalls with rfl | rfl <;> exact .nil
    rw [hstory]
    exact hbefore.append (.event rfl nofun (.operation _ .nil))

/-- The events after the registration belong to the transaction and do not register it again. -/
theorem events_registeredStory {e : TransactionEvent}
    (h : e ∈ eventsOf (plan.registeredStory driver)) :
    e.transactionId = plan.transactionId.val ∧ e.eventType ≠ .planRegistered := by
  obtain ⟨w, hw, he⟩ := List.mem_flatMap.mp h
  rcases onlyEvents_registeredStory plan driver w hw with ⟨stored, rfl, hid, htype⟩ | ⟨op, rfl⟩
  · rw [List.mem_singleton.mp he]
    exact ⟨hid, htype⟩
  · cases he

/-- Every event of a story belongs to its transaction. -/
theorem transactionId_of_mem {rt : Runtime} {e : TransactionEvent}
    (h : e ∈ eventsOf (plan.story driver rt)) : e.transactionId = plan.transactionId.val := by
  rw [TransactionPlan.story, eventsOf_registration] at h
  rcases List.mem_cons.mp h with rfl | h
  · rfl
  · exact (events_registeredStory h).1

/-! ### The calls of a story -/

@[simp] theorem executedSteps_append (entries more : List Entry) :
    executedSteps (entries ++ more) = executedSteps entries ++ executedSteps more :=
  List.filterMap_append ..

@[simp] theorem undoneSteps_append (entries more : List Entry) :
    undoneSteps (entries ++ more) = undoneSteps entries ++ undoneSteps more :=
  List.filterMap_append ..

theorem executedSteps_entries (a : Attempt) :
    executedSteps (a.entries plan snapshot) = [a.step] := by
  obtain ⟨step, execution, _ | post⟩ := a <;> rfl

theorem undoneSteps_entries (a : Attempt) : undoneSteps (a.entries plan snapshot) = [] := by
  obtain ⟨step, execution, _ | post⟩ := a <;> rfl

theorem executedSteps_attempts (as : List Attempt) :
    executedSteps (as.flatMap (Attempt.entries plan snapshot)) = as.map Attempt.step := by
  induction as with
  | nil => rfl
  | cons a rest ih => rw [List.flatMap_cons, executedSteps_append, executedSteps_entries, ih]; rfl

theorem undoneSteps_attempts (as : List Attempt) :
    undoneSteps (as.flatMap (Attempt.entries plan snapshot)) = [] := by
  induction as with
  | nil => rfl
  | cons a rest ih => rw [List.flatMap_cons, undoneSteps_append, undoneSteps_entries, ih]; rfl

theorem calls_compensations (plan : TransactionPlan) (driver : Driver)
    (snapshot : TransactionSnapshot) (steps : List TransactionStep) :
    executedSteps (steps.flatMap (plan.compensationEntries driver snapshot)) = [] ∧
      undoneSteps (steps.flatMap (plan.compensationEntries driver snapshot)) =
        steps.filter TransactionStep.compensatable := by
  induction steps with
  | nil => exact ⟨rfl, rfl⟩
  | cons step rest ih =>
    rw [List.flatMap_cons, executedSteps_append, undoneSteps_append, ih.1, ih.2,
      TransactionPlan.compensationEntries]
    by_cases h : step.compensatable = true
    · rw [if_pos h, List.filter_cons_of_pos h]
      exact ⟨rfl, rfl⟩
    · rw [if_neg h, List.filter_cons_of_neg h]
      exact ⟨rfl, rfl⟩

theorem calls_undoStory (plan : TransactionPlan) (driver : Driver) (snapshot : TransactionSnapshot)
    (changed : List TransactionStep) (rootRef : String) (rootUnknown : Bool)
    (failedStepId : Option String) :
    executedSteps (plan.undoStory driver snapshot changed rootRef rootUnknown failedStepId) = [] ∧
      undoneSteps (plan.undoStory driver snapshot changed rootRef rootUnknown failedStepId) =
        changed.reverse.filter TransactionStep.compensatable := by
  obtain ⟨hexecuted, hundone⟩ := calls_compensations plan driver snapshot changed.reverse
  have hconclusion : executedSteps (plan.conclusion driver snapshot changed rootRef rootUnknown
        failedStepId) = [] ∧
      undoneSteps (plan.conclusion driver snapshot changed rootRef rootUnknown failedStepId) = [] := by
    unfold TransactionPlan.conclusion
    by_cases hneeds : plan.NeedsRecovery driver snapshot changed rootUnknown
    · rw [if_pos hneeds]
      exact ⟨rfl, rfl⟩
    · rw [if_neg hneeds]
      exact ⟨rfl, rfl⟩
  rw [TransactionPlan.undoStory, executedSteps_append, undoneSteps_append, hexecuted, hundone,
    hconclusion.1, hconclusion.2]
  exact ⟨rfl, List.append_nil _⟩

/-- An ending executes no step, and undoes the compensatable steps, last first, if it undoes any. -/
theorem calls_ending (plan : TransactionPlan) (driver : Driver) (snapshot : TransactionSnapshot)
    (as : List Attempt) (changed : List TransactionStep) :
    executedSteps (plan.ending driver snapshot as changed) = [] ∧
      (undoneSteps (plan.ending driver snapshot as changed)).Sublist changed.reverse := by
  have hundo (rootRef : String) (rootUnknown : Bool) (failedStepId : Option String) :
      executedSteps (plan.undoStory driver snapshot changed rootRef rootUnknown failedStepId) = [] ∧
        (undoneSteps (plan.undoStory driver snapshot changed rootRef rootUnknown
          failedStepId)).Sublist changed.reverse := by
    obtain ⟨hexecuted, hundone⟩ := calls_undoStory plan driver
      snapshot changed rootRef rootUnknown failedStepId
    rw [hundone]
    exact ⟨hexecuted, List.filter_sublist⟩
  unfold TransactionPlan.ending
  cases failedAttempt as with
  | some a => exact hundo _ _ _
  | none =>
    rcases plan.receiptOf driver snapshot with className | receipt
    · exact hundo _ _ _
    · exact ⟨rfl, List.nil_sublist _⟩

/-- A run executes the steps that are attempted, and undoes changed steps, last first. -/
theorem calls_story_of_captured (rt : Runtime) (h : Captured plan driver snapshot) :
    executedSteps (plan.story driver rt) = (plan.attempts driver plan.steps).map Attempt.step ∧
      (undoneSteps (plan.story driver rt)).Sublist
        (appliedSteps (plan.attempts driver plan.steps)).reverse := by
  obtain ⟨hexecuted, hundone⟩ := calls_ending plan driver snapshot
    (plan.attempts driver plan.steps) (appliedSteps (plan.attempts driver plan.steps))
  have hstory : plan.story driver rt = [.wrote (registrationWrite rt plan),
      .call (.prepareSnapshot plan), .event (plan.snapshotEvent snapshot)] ++
        ((plan.attempts driver plan.steps).flatMap (Attempt.entries plan snapshot) ++
          plan.ending driver snapshot (plan.attempts driver plan.steps)
            (appliedSteps (plan.attempts driver plan.steps))) := by
    rw [TransactionPlan.story, registeredStory_of_captured h]
    rfl
  rw [hstory, executedSteps_append, executedSteps_append, executedSteps_attempts, hexecuted,
    undoneSteps_append, undoneSteps_append, undoneSteps_attempts]
  exact ⟨List.append_nil _, hundone⟩

/-- Without a snapshot no step is executed or undone. -/
theorem calls_story_of_not_captured (rt : Runtime) (h : ∀ snapshot, ¬ Captured plan driver snapshot) :
    executedSteps (plan.story driver rt) = [] ∧ undoneSteps (plan.story driver rt) = [] := by
  obtain ⟨-, calls, rest, hcalls, hstory⟩ := story_of_not_captured h
  rw [TransactionPlan.story, hstory]
  rcases hcalls with rfl | rfl <;> exact ⟨rfl, rfl⟩

end

end N0te.Journal
