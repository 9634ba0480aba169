import N0te.Journal.CrashRecovery
import N0te.Journal.Effects

/-!
# What a run of the coordinator does to the store

For callers that run transactions one after another. A run is refused and does nothing, or does its
story up to some point (`run_cases`), and so it does when the process stops in the middle of it
(`stopped_cases`). It keeps the operation journal lawful (`kept_stopped`) and the references of the
transaction tables (`Crashed.keeps_references`). While the driver is called the operation is executing
(`executing_at_call`), and steps are executed in plan order (`executedSteps_initial`). Whatever a run
leaves after its registration is accounted for (`Crashed.accounted`): the operation has ended, or the
report on its transaction asks for a review.
-/

set_option autoImplicit false
set_option relaxedAutoImplicit false

namespace N0te.Journal

open Library Governance

variable {plan : TransactionPlan} {driver : Driver} {rt : Runtime} {s t : Store}
  {done entries : List Entry}

/-! ### The operation journal -/

/-- A program of the coordinator keeps every store lawful and only adds rows, whatever its outcome. -/
def RunKeeps {α : Type} (p : RunProgram α) : Prop :=
  ∀ base, Ensures (fun r ↦ Kept base r.store) p fun _ r ↦ Kept base r.store

namespace RunKeeps

variable {α β : Type}

theorem bind {p : RunProgram α} {k : α → RunProgram β} (hp : RunKeeps p)
    (hk : ∀ a, RunKeeps (k a)) : RunKeeps (p >>= k) := fun base ↦
  (hp base).bind (fun a ↦ hk a base) fun _ _ h ↦ h

theorem pure (a : α) : RunKeeps (Pure.pure a) := fun _ ↦ Ensures.pure fun _ h ↦ h

theorem fromExcept (r : Checked α) : RunKeeps (Library.fromExcept r) := by
  cases r with
  | ok a => exact pure a
  | error e => exact fun _ ↦ Ensures.throw fun _ h ↦ h

theorem durably {p : StoreProgram α} (hp : Keeps p) : RunKeeps (Journal.durably p) :=
  fun base r hr ↦ hp base r.store hr

theorem called (c : DriverCall) : RunKeeps (Journal.called c) := fun _ _ hr ↦ hr

end RunKeeps

/-- The rows of the transaction tables are nothing to the operation journal. -/
theorem Kept.withTransactions {base : Store} (h : Kept base s) (transactions : List TransactionRow)
    (steps : List TransactionStepRow) (events : List TransactionEvent) :
    Kept base { s with
      transactions := transactions
      transactionSteps := steps
      transactionEvents := events } := by
  obtain ⟨⟨hids, hkeys, howned, hlegal, hevidence, hgrounded⟩, hsongs, hversions, hoperations,
    hevents⟩ := h
  exact ⟨⟨hids, hkeys, howned, hlegal, hevidence, hgrounded⟩, hsongs, hversions, hoperations,
    hevents⟩

/-- A program that checks the store and then changes the transaction tables. -/
theorem keeps_get_bind {α : Type} {k : Store → StoreProgram α}
    (h : ∀ base s, Kept base s → Kept base (exec (k s) s).2) :
    Keeps ((get : StoreProgram Store) >>= k) := by
  intro base s hs
  rw [exec_get_bind]
  exact h base s hs

theorem kept_require_bind {α : Type} {base : Store} {condition : Prop} [Decidable condition]
    {e : Raised ErrorClass} {k : Unit → StoreProgram α} (hs : Kept base s)
    (h : Kept base (exec (k ()) s).2) :
    Kept base (exec (fromExcept (require condition e) >>= k) s).2 := by
  rw [exec_require_bind]
  split_ifs
  · exact h
  · exact hs

theorem keeps_atomic {α : Type} {p : StoreProgram α} (hp : Keeps p) : Keeps (atomic p) := fun base ↦
  (hp base).atomic (fun _ _ h ↦ h) fun _ _ h ↦ h

theorem keeps_appendEvent (event : TransactionEvent) : Keeps (appendEvent event) :=
  Keeps.fromExcept_bind fun _ _ ↦ keeps_get_bind fun _ s hs ↦
    kept_require_bind hs (kept_require_bind hs (hs.withTransactions s.transactions s.transactionSteps _))

theorem keeps_insertTransaction (row : TransactionRow) : Keeps (insertTransaction row) :=
  keeps_get_bind fun _ s hs ↦ kept_require_bind hs (kept_require_bind hs (kept_require_bind hs
    (hs.withTransactions _ s.transactionSteps s.transactionEvents)))

theorem keeps_insertStep (row : TransactionStepRow) : Keeps (insertStep row) :=
  keeps_get_bind fun _ s hs ↦ kept_require_bind hs (kept_require_bind hs (kept_require_bind hs
    (hs.withTransactions s.transactions _ s.transactionEvents)))

theorem keeps_insertSteps (plan : TransactionPlan) (n : ℕ) (steps : List TransactionStep) :
    Keeps (insertSteps plan n steps) := by
  induction steps generalizing n with
  | nil => exact .pure _
  | cons step rest ih => exact .bind (keeps_insertStep _) fun _ ↦ ih (n + 1)

theorem keeps_registerPlan (rt : Runtime) (plan : TransactionPlan) : Keeps (registerPlan rt plan) :=
  keeps_get_bind fun base s hs ↦ kept_require_bind hs (keeps_atomic
    (.bind (keeps_insertTransaction _) fun _ ↦ .bind (keeps_insertSteps plan 0 plan.steps) fun _ ↦
      keeps_appendEvent _) base s hs)

theorem runKeeps_commitEvent (event : TransactionEvent) : RunKeeps (commitEvent event) :=
  .durably (keeps_atomic (keeps_appendEvent event))

theorem runKeeps_compensateSteps (plan : TransactionPlan) (driver : Driver)
    (snapshot : TransactionSnapshot) (steps : List TransactionStep) (pass : CompensationPass) :
    RunKeeps (compensateSteps plan driver snapshot steps pass) := by
  induction steps generalizing pass with
  | nil => exact .pure _
  | cons step rest ih =>
    rw [compensateSteps]
    split_ifs
    · exact .bind (runKeeps_commitEvent _) fun _ ↦ .bind (.called _) fun _ ↦
        .bind (runKeeps_commitEvent _) fun _ ↦ ih _
    · exact ih _

theorem runKeeps_compensate (plan : TransactionPlan) (driver : Driver)
    (snapshot : TransactionSnapshot) (changed : List TransactionStep) (evidence : List String)
    (rootUnknown : Bool) (failedStepId : Option String) :
    RunKeeps (compensate plan driver snapshot changed evidence rootUnknown failedStepId) := by
  refine .bind (runKeeps_compensateSteps _ _ _ _ _) fun pass ↦ ?_
  unfold concludeCompensation
  split_ifs
  · exact .bind (runKeeps_commitEvent _) fun _ ↦
      .bind (.durably (keeps_recordTerminal _ _ _)) fun _ ↦ .pure _
  · exact .bind (.durably (keeps_recordTerminal _ _ _)) fun _ ↦ .pure _

theorem runKeeps_runSteps (plan : TransactionPlan) (driver : Driver) (snapshot : TransactionSnapshot)
    (steps changed : List TransactionStep) (evidence : List String) :
    RunKeeps (runSteps plan driver snapshot steps changed evidence) := by
  induction steps generalizing changed evidence with
  | nil =>
    refine .bind (.called _) fun _ ↦ ?_
    rcases plan.receiptOf driver snapshot with className | receipt
    · exact runKeeps_compensate _ _ _ _ _ _ _
    · exact .bind (.durably (keeps_recordTerminal _ _ _)) fun _ ↦ .pure _
  | cons step rest ih =>
    refine .bind (runKeeps_commitEvent _) fun _ ↦ .bind (.called _) fun _ ↦
      .bind (runKeeps_commitEvent _) fun _ ↦ ?_
    by_cases hunknown : (plan.executionOf driver step).changeState = .unknown
    · rw [if_pos hunknown]
      exact runKeeps_compensate _ _ _ _ _ _ _
    rw [if_neg hunknown]
    by_cases hfailed : (plan.executionOf driver step).status ≠ .succeeded
    · rw [if_pos hfailed]
      exact runKeeps_compensate _ _ _ _ _ _ _
    rw [if_neg hfailed]
    refine .bind (.called _) fun _ ↦ .bind (runKeeps_commitEvent _) fun _ ↦ ?_
    by_cases hsatisfied : (plan.verificationOf driver step
        (plan.executionOf driver step)).status ≠ .satisfied
    · rw [if_pos hsatisfied]
      exact runKeeps_compensate _ _ _ _ _ _ _
    rw [if_neg hsatisfied]
    exact ih _ _

/-- A run keeps the operation journal lawful. -/
theorem runKeeps_run (rt : Runtime) (plan : TransactionPlan) (driver : Driver) :
    RunKeeps (run rt plan driver) := by
  have hsafe (evidenceRef : String) : RunKeeps (safeFailure plan evidenceRef) :=
    .bind (runKeeps_commitEvent _) fun _ ↦ .bind (.durably (keeps_recordTerminal _ _ _)) fun _ ↦ .pure _
  refine .bind (.durably (.reading _)) fun _ ↦ .bind (.fromExcept _) fun _ ↦
    .bind (.durably (keeps_registerPlan rt plan)) fun _ ↦ ?_
  unfold runRegistered
  rcases driver.contract with _ | className
  · refine .bind (.called _) fun _ ↦ ?_
    rcases plan.snapshotOf driver with className | snapshot
    · exact hsafe _
    · exact .bind (runKeeps_commitEvent _) fun _ ↦ runKeeps_runSteps _ _ _ _ _ _
  · exact hsafe _

/-! ### A run is its story up to some point -/

/-- A run that is refused raises and does nothing. Any other does its story up to some point, and when
it returns it has done all of it.
Assumes: the hash writes no blank text, and the store keeps the references of its tables. -/
theorem run_cases (driver : Driver) (hsha : ∀ text, sqlNonblank (rt.sha256 text))
    (hreferential : Referential s) :
    (∃ e, exec (run rt plan driver) ⟨s, []⟩ = (.error e, ⟨s, []⟩)) ∨
    Ready plan s ∧ ∃ outcome done,
      exec (run rt plan driver) ⟨s, []⟩ = (outcome, ⟨s.replay (writesOf done), done⟩) ∧
      done <+: plan.story driver rt ∧ ∀ result, outcome = .ok result →
        done = plan.story driver rt ∧ result.status = plan.storyStatus driver := by
  by_cases hready : Ready plan s
  · refine .inr ⟨hready, ?_⟩
    rcases run_performs (r := ⟨s, []⟩) driver hsha hreferential hready with
      ⟨result, hrun, hconcluded, -⟩ | ⟨e, done, w, rest, hrun, hstory, -⟩
    · refine ⟨_, _, hrun, List.prefix_rfl, ?_⟩
      rintro _ ⟨⟩
      exact ⟨rfl, hconcluded.1⟩
    · refine ⟨_, _, hrun, ?_, fun _ h ↦ by cases h⟩
      rw [hstory]
      exact List.prefix_append _ _
  · exact .inl (run_refuses driver rt hready)

theorem writesOf_initial (h : done <+: entries) : writesOf done <+: writesOf entries := by
  obtain ⟨rest, rfl⟩ := h
  rw [writesOf_append]
  exact List.prefix_append _ _

/-- A story that was begun has registered its plan. -/
theorem crashed_of_initial (hreferential : Referential s) (hready : Ready plan s)
    (h : done <+: plan.story driver rt) (hne : done ≠ []) :
    Crashed plan driver rt s (writesOf done) (s.replay (writesOf done)) := by
  refine ⟨hready, hreferential, writesOf_initial h, ?_, rfl⟩
  rw [TransactionPlan.story] at h
  cases done with
  | nil => exact absurd rfl hne
  | cons entry rest =>
    obtain ⟨rfl, -⟩ := List.cons_prefix_cons.mp h
    exact List.cons_ne_nil _ _

/-- The operation events of a story that was begun: none, or all of the story was done. -/
theorem outcomesOf_initial (h : done <+: plan.story driver rt) :
    outcomesOf done = [] ∨ done = plan.story driver rt := by
  obtain ⟨before, outcome, evidenceRef, receipt, result, hbefore, hstory⟩ :=
    endsOnce_story plan driver rt
  rw [hstory, List.prefix_concat_iff] at h
  rcases h with rfl | ⟨rest, rfl⟩
  · exact .inr hstory.symm
  · rw [outcomesOf_append] at hbefore
    exact .inl (List.append_eq_nil_iff.mp hbefore).1

/-- While the driver is called the operation has no outcome, and is executing. -/
theorem executing_at_call (hready : Ready plan s) {before after : List Entry} {call : DriverCall}
    (h : before ++ .call call :: after <+: plan.story driver rt) :
    ∃ op, getOperation (s.replay (writesOf before)) plan.operationId.val = .ok op ∧
      op.recordedState = .executing := by
  apply Crashed.executing_replay hready
  have hbefore : before <+: plan.story driver rt := (List.prefix_append _ _).trans h
  refine (outcomesOf_initial hbefore).resolve_right fun hall ↦ ?_
  have hlength := h.length_le
  rw [← hall, List.length_append, List.length_cons] at hlength
  omega

/-- Every outcome of a story is an outcome of its operation. -/
theorem outcome_of_story {event : OperationEvent} (h : done <+: plan.story driver rt)
    (hevent : event ∈ outcomesOf done) :
    event.operationId = plan.operationId.val ∧ event.eventType.isOutcome := by
  rcases outcomesOf_initial h with hnone | rfl
  · rw [hnone] at hevent
    cases hevent
  · obtain ⟨before, outcome, evidenceRef, receipt, result, hbefore, hstory⟩ :=
      endsOnce_story plan driver rt
    rw [hstory, outcomesOf_append, hbefore] at hevent
    rw [List.mem_singleton.mp hevent]
    exact ⟨rfl, by cases outcome <;> rfl⟩

/-- Steps are executed in plan order, each at most once. -/
theorem executedSteps_initial (h : done <+: plan.story driver rt) :
    executedSteps done <+: plan.steps := by
  have hdone : executedSteps done <+: executedSteps (plan.story driver rt) := by
    obtain ⟨rest, hrest⟩ := h
    rw [← hrest, executedSteps_append]
    exact List.prefix_append _ _
  by_cases hcaptured : ∃ snapshot, Captured plan driver snapshot
  · obtain ⟨snapshot, hcaptured⟩ := hcaptured
    rw [(calls_story_of_captured rt hcaptured).1] at hdone
    exact hdone.trans (attempts_initial plan.steps)
  · rw [(calls_story_of_not_captured rt (not_exists.mp hcaptured)).1] at hdone
    rw [List.prefix_nil.mp hdone]
    exact List.nil_prefix

/-- A complete story has executed every step. -/
theorem executedSteps_of_complete (h : plan.storyStatus driver = .complete) :
    executedSteps (plan.story driver rt) = plan.steps := by
  by_cases hcaptured : ∃ snapshot, Captured plan driver snapshot
  · obtain ⟨snapshot, hcaptured⟩ := hcaptured
    have hundone (changed : List TransactionStep) (rootUnknown : Bool) :
        plan.undoStatus driver snapshot changed rootUnknown ≠ .complete := by
      unfold TransactionPlan.undoStatus
      split_ifs <;> nofun
    have hnone : failedAttempt (plan.attempts driver plan.steps) = none := by
      rw [storyStatus_of_captured hcaptured, TransactionPlan.endingStatus] at h
      rcases hfailed : failedAttempt (plan.attempts driver plan.steps) with _ | a
      · rfl
      · rw [hfailed] at h
        exact absurd h (hundone _ _)
    rw [(calls_story_of_captured rt hcaptured).1]
    exact map_step_of_succeeded (failedAttempt_eq_none.mp hnone)
  · rw [(story_of_not_captured (not_exists.mp hcaptured)).1] at h
    cases h

/-! ### Runs that are stopped -/

/-- What a run leaves when the process stops after some of its entries, or when it does not stop. -/
def stopped (s : Store) (r : Run) : Option ℕ → Run
  | none => r
  | some k => ⟨s.replay (writesOf (r.trace.take k)), r.trace.take k⟩

/-- A run that was begun: it was ready, and has done its story up to some point. -/
structure Begun (plan : TransactionPlan) (driver : Driver) (rt : Runtime) (s : Store) (left : Run) :
    Prop where
  /-- The plan was new and its operation executing. -/
  ready : Ready plan s
  /-- It has done its story up to some point. -/
  story : left.trace <+: plan.story driver rt
  replayed : left.store = s.replay (writesOf left.trace)

/-- A run leaves nothing behind or was begun, wherever it is stopped.
Assumes: the hash writes no blank text, and the store keeps the references of its tables. -/
theorem stopped_cases (driver : Driver) (hsha : ∀ text, sqlNonblank (rt.sha256 text))
    (hreferential : Referential s) (cut : Option ℕ) :
    stopped s (exec (run rt plan driver) ⟨s, []⟩).2 cut = ⟨s, []⟩ ∨
      Begun plan driver rt s (stopped s (exec (run rt plan driver) ⟨s, []⟩).2 cut) := by
  rcases @run_cases plan rt s driver hsha hreferential with
    ⟨e, hrun⟩ | ⟨hready, outcome, done, hrun, hstory, -⟩
  · rw [hrun]
    rcases cut with _ | k
    · exact .inl rfl
    · rw [stopped, List.take_nil]
      exact .inl rfl
  · rw [hrun]
    rcases cut with _ | k
    · exact .inr ⟨hready, hstory, rfl⟩
    · exact .inr ⟨hready, (List.take_prefix _ _).trans hstory, rfl⟩

/-- The rows of the operation journal after writes that record no outcome. -/
theorem operations_replay (s : Store) (writes : List Write) :
    (s.replay writes).operations = s.operations ∧ (s.replay writes).songs = s.songs ∧
      (s.replay writes).versions = s.versions ∧ (s.replay writes).profileId = s.profileId := by
  induction writes generalizing s with
  | nil => exact ⟨rfl, rfl, rfl, rfl⟩
  | cons w rest ih => exact ih (s.write w)

theorem kept_of_no_outcome (hlawful : Lawful s) (hnone : outcomesOf done = []) :
    Kept s (s.replay (writesOf done)) := by
  obtain ⟨hoperations, hsongs, hversions, hprofile⟩ := operations_replay s (writesOf done)
  have hevents := operationEvents_replay s done
  rw [hnone, List.append_nil] at hevents
  have hkept := Kept.withTransactions ⟨hlawful, .refl s⟩ (s.replay (writesOf done)).transactions
    (s.replay (writesOf done)).transactionSteps (s.replay (writesOf done)).transactionEvents
  rwa [← hoperations, ← hsongs, ← hversions, ← hprofile, ← hevents] at hkept

/-- A run keeps the operation journal lawful wherever it is stopped. -/
theorem kept_stopped (driver : Driver) (hsha : ∀ text, sqlNonblank (rt.sha256 text))
    (hreferential : Referential s) (hlawful : Lawful s) (cut : Option ℕ) :
    Kept s (stopped s (exec (run rt plan driver) ⟨s, []⟩).2 cut).store := by
  have hkept : Kept s (exec (run rt plan driver) ⟨s, []⟩).2.store :=
    runKeeps_run rt plan driver s ⟨s, []⟩ ⟨hlawful, .refl s⟩
  rcases cut with _ | k
  · exact hkept
  rcases @run_cases plan rt s driver hsha hreferential with
    ⟨e, hrun⟩ | ⟨hready, outcome, done, hrun, hstory, -⟩
  · rw [hrun, stopped, List.take_nil]
    exact ⟨hlawful, .refl s⟩
  · rw [hrun] at hkept ⊢
    have htake : done.take k <+: plan.story driver rt := (List.take_prefix _ _).trans hstory
    rcases outcomesOf_initial htake with hnone | hall
    · exact kept_of_no_outcome hlawful hnone
    · have hdone : done.take k = done :=
        List.IsPrefix.eq_of_length_le (List.take_prefix _ _) (hall ▸ hstory.length_le)
      rw [stopped, hdone]
      exact hkept

/-! ### What a run leaves -/

/-- An operation that nobody has to find: it was never claimed, it has ended, or the report on its
transaction asks for a review. -/
def Accounted (s : Store) (operationId : String) : Prop :=
  ∃ op, getOperation s operationId = .ok op ∧ (op.recordedState ≠ .executing ∨
    ∃ transactionId report, history s transactionId = .ok report ∧
      report.operationId = operationId ∧ report.requiresRecoveryReview = true)

namespace Crashed

variable {writes : List Write}

/-- The references of the transaction tables are kept. -/
theorem keeps_references (h : Crashed plan driver rt s writes t) : Referential t := by
  obtain ⟨htransactions, hsteps, hevents, -⟩ := h.rows
  have hnew : ∃ owner ∈ t.transactions, owner.id = plan.transactionId.val :=
    ⟨plan.row rt, by simp [htransactions], rfl⟩
  have hold {transactionId : String} (howner : ∃ owner ∈ s.transactions, owner.id = transactionId) :
      ∃ owner ∈ t.transactions, owner.id = transactionId := by
    obtain ⟨owner, hmem, hid⟩ := howner
    exact ⟨owner, by simp [htransactions, hmem], hid⟩
  constructor
  · rw [htransactions, List.map_append, List.map_singleton, List.nodup_append]
    refine ⟨h.referential.ids, List.nodup_singleton _, fun id hid other hother ↦ ?_⟩
    obtain ⟨row, hrow, rfl⟩ := List.mem_map.mp hid
    rw [List.mem_singleton.mp hother]
    exact h.other_id hrow
  · intro row hrow
    rw [hsteps] at hrow
    rcases List.mem_append.mp hrow with hrow | hrow
    · exact hold (h.referential.steps row hrow)
    · obtain ⟨i, hi, rfl⟩ := List.mem_mapIdx.mp hrow
      exact hnew
  · intro event hevent
    rw [hevents] at hevent
    rcases List.mem_append.mp hevent with hevent | hevent
    · exact hold (h.referential.events event hevent)
    · rw [transactionId_of_mem ((eventsIn_initial h.written).subset hevent)]
      exact hnew

/-- The operation of a registered plan is accounted for. -/
theorem accounted (h : Crashed plan driver rt s writes t) : Accounted t plan.operationId.val := by
  obtain ⟨report, hreport, htells⟩ := h.reports
  refine ⟨report.operation, htells.operation, ?_⟩
  by_cases hstate : report.operation.recordedState = .executing
  · refine .inr ⟨_, report, hreport, htells.operationId, ?_⟩
    simp only [history, bind_eq_ok, pure_eq_ok] at hreport
    obtain ⟨_, -, _, -, _, -, _, -, hrecord⟩ := hreport
    rw [← hrecord] at hstate ⊢
    exact decide_eq_true (.inl hstate)
  · exact .inl hstate

end Crashed

end N0te.Journal
