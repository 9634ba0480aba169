import N0te.Journal.RunEffects
import N0te.Musical.Claims

/-!
# What a run of a musical transaction was cleared for

A run that does anything has passed every check of `run` first (`run_cases`). The text of a transaction
plan determines its steps (`steps_of_material`). When these are the compiled actions every call of the
adapter reaches the host driver (`hostCall_isSome`), and the actions it executes are the compiled ones,
in order (`executedActions_initial`).
-/

set_option autoImplicit false
set_option relaxedAutoImplicit false

namespace N0te.Musical

open Library Governance Journal

/-! ### The texts of two plans -/

/-- The fields that identify a transaction plan. -/
def planMaterial (plan : TransactionPlan) : Json := .obj [
  ("transaction_id", .str plan.transactionId.val),
  ("operation_id", .str plan.operationId.val),
  ("steps", .arr (plan.steps.map TransactionStep.payload))]

theorem payload_injective {a b : TransactionStep} (h : a.payload.canonical = b.payload.canonical) :
    a = b := by
  have hfield (key : String) : (a.payload.get key).canonical = (b.payload.get key).canonical := by
    rw [← Json.get_canonical, ← Json.get_canonical, h]
  have htext {s t : Text} (heq : (Json.str s.val).canonical = (Json.str t.val).canonical) :
      s = t := Text.ext (Json.str.inj heq)
  have hdependencies : a.dependsOnStepIds = b.dependsOnStepIds := by
    have harr := hfield "depends_on_step_ids"
    have hread (step : TransactionStep) : step.payload.get "depends_on_step_ids" =
        .arr (step.dependsOnStepIds.map fun dep ↦ .str dep.val) := rfl
    rw [hread, hread, Json.canonical_arr, Json.canonical_arr] at harr
    have hitems := Json.arr.inj harr
    have hinj : Function.Injective fun dep : Text ↦ (Json.str dep.val).canonical :=
      fun _ _ heq ↦ Text.ext (Json.str.inj heq)
    rw [List.map_map, List.map_map] at hitems
    exact hinj.list_map hitems
  have hcompensatable : a.compensatable = b.compensatable :=
    Json.bool.inj (hfield "compensatable")
  have hid := htext (hfield "step_id")
  have hdescription := htext (hfield "description")
  have hpostcondition := htext (hfield "postcondition_ref")
  cases a
  cases b
  simp_all

/-- The text of a plan determines its steps. -/
theorem steps_of_material {a b : TransactionPlan}
    (h : (planMaterial a).dumpsAscii = (planMaterial b).dumpsAscii) : a.steps = b.steps := by
  rw [Json.dumpsAscii_inj] at h
  have hsteps : ((planMaterial a).get "steps").canonical =
      ((planMaterial b).get "steps").canonical := by
    rw [← Json.get_canonical, ← Json.get_canonical, h]
  have hread (plan : TransactionPlan) : (planMaterial plan).get "steps" =
      .arr (plan.steps.map TransactionStep.payload) := rfl
  rw [hread, hread, Json.canonical_arr, Json.canonical_arr] at hsteps
  have hitems := Json.arr.inj hsteps
  have hinj : Function.Injective fun step : TransactionStep ↦ step.payload.canonical :=
    fun _ _ heq ↦ payload_injective heq
  rw [List.map_map, List.map_map] at hitems
  exact hinj.list_map hitems

/-! ### Runs -/

section

variable {rt : Runtime} {scene : Scene} {request : Execution rt} {s : Store} {adapter : Driver}

/-- Everything that `run` checks before it runs its transaction. -/
structure Cleared (rt : Runtime) (scene : Scene) (request : Execution rt) (s : Store)
    (adapter : Driver) : Prop where
  /-- The witness is that of the plan and its compilation. -/
  prepared : validatePrepared rt scene request = .ok ()
  /-- The driver has its methods. -/
  adapted : compiledAdapter request.driver request.plan request.compilation = .ok adapter
  /-- The operation and the song are as they were bound. -/
  bound : validateExecutionBinding rt scene request.prepared.songBinding
    request.prepared.transactionPlan s = .ok ()

/-- A run is refused and does nothing, or is cleared and is the run of its transaction. -/
theorem run_cases (rt : Runtime) (scene : Scene) (request : Execution rt) (s : Store) :
    (∃ e, exec (run rt scene request) ⟨s, []⟩ = (.error e, ⟨s, []⟩)) ∨
    ∃ adapter, Cleared rt scene request s adapter ∧ exec (run rt scene request) ⟨s, []⟩ =
      ((exec (Journal.run rt request.prepared.transactionPlan adapter) ⟨s, []⟩).1.mapError ofJournal,
        (exec (Journal.run rt request.prepared.transactionPlan adapter) ⟨s, []⟩).2) := by
  rcases hprepared : validatePrepared rt scene request with e | ⟨⟩
  · exact .inl ⟨e, by rw [run, hprepared, exec_fromExcept_error]⟩
  rcases hadapted : compiledAdapter request.driver request.plan request.compilation with e | adapter
  · exact .inl ⟨e, by rw [run, hprepared, exec_fromExcept_ok, hadapted, exec_fromExcept_error]⟩
  have hrun : exec (run rt scene request) ⟨s, []⟩ =
      exec (songRun rt scene request.prepared.songBinding request.prepared.transactionPlan adapter)
        ⟨s, []⟩ := by
    rw [run, hprepared, exec_fromExcept_ok, hadapted, exec_fromExcept_ok]
  rw [hrun, songRun, exec_get_bind]
  rcases hbound : validateExecutionBinding rt scene request.prepared.songBinding
    request.prepared.transactionPlan s with e | ⟨⟩
  · exact .inl ⟨e, exec_fromExcept_error ..⟩
  · rw [exec_fromExcept_ok, exec_raisingAs]
    exact .inr ⟨adapter, ⟨hprepared, hadapted, hbound⟩, rfl⟩

end

/-! ### The calls of a story -/

/-- The step a driver call is about. -/
def callStep : DriverCall → Option TransactionStep
  | .executeStep step => some step
  | .verifyPostcondition step _ => some step
  | .compensateStep step _ => some step
  | _ => none

/-- Every call is about a step of a list, or about none. -/
def CallsWithin (steps : List TransactionStep) (entries : List Entry) : Prop :=
  ∀ call, .call call ∈ entries → ∀ step ∈ callStep call, step ∈ steps

namespace CallsWithin

variable {plan : TransactionPlan} {driver : Driver} {snapshot : TransactionSnapshot}
  {steps : List TransactionStep} {entries more : List Entry}

theorem append (h : CallsWithin steps entries) (hmore : CallsWithin steps more) :
    CallsWithin steps (entries ++ more) := by
  intro call hcall
  rcases List.mem_append.mp hcall with hcall | hcall
  · exact h call hcall
  · exact hmore call hcall

theorem of_writes (h : ∀ entry ∈ entries, ∃ w, entry = .wrote w) : CallsWithin steps entries := by
  intro call hcall
  obtain ⟨w, hw⟩ := h _ hcall
  cases hw

/-- The calls of an attempt are about its step. -/
theorem attempt {a : Attempt} (ha : a.step ∈ steps) : CallsWithin steps (a.entries plan snapshot) := by
  intro call hcall step hstep
  have heq : step = a.step := by
    obtain ⟨attempted, execution, _ | post⟩ := a <;>
      simp only [Attempt.entries, Entry.event, Option.elim, List.mem_cons, List.not_mem_nil,
        reduceCtorEq, Entry.call.injEq, or_false, false_or] at hcall
    · rw [hcall] at hstep
      exact (Option.some.inj hstep).symm
    · rcases hcall with rfl | rfl <;> exact (Option.some.inj hstep).symm
  rw [heq]
  exact ha

theorem compensation {step : TransactionStep} (hstep : step ∈ steps) :
    CallsWithin steps (plan.compensationEntries driver snapshot step) := by
  intro call hcall other hother
  unfold TransactionPlan.compensationEntries at hcall
  split_ifs at hcall with hcompensatable
  · simp only [Entry.event, List.mem_cons, List.not_mem_nil, reduceCtorEq, Entry.call.injEq,
      or_false, false_or] at hcall
    rw [hcall] at hother
    rw [← Option.some.inj hother]
    exact hstep
  · cases hcall

theorem flatMap {α : Type} {l : List α} {f : α → List Entry}
    (h : ∀ a ∈ l, CallsWithin steps (f a)) : CallsWithin steps (l.flatMap f) := by
  intro call hcall
  obtain ⟨a, ha, hcall⟩ := List.mem_flatMap.mp hcall
  exact h a ha call hcall

theorem undoStory {changed : List TransactionStep} (hchanged : ∀ step ∈ changed, step ∈ steps)
    (rootRef : String) (rootUnknown : Bool) (failedStepId : Option String) :
    CallsWithin steps (plan.undoStory driver snapshot changed rootRef rootUnknown failedStepId) := by
  refine append (flatMap fun step hstep ↦ compensation (hchanged step (List.mem_reverse.mp hstep)))
    (of_writes fun entry hentry ↦ ?_)
  unfold TransactionPlan.conclusion at hentry
  by_cases hneeds : plan.NeedsRecovery driver snapshot changed rootUnknown
  · rw [if_pos hneeds] at hentry
    rcases List.mem_cons.mp hentry with rfl | hentry
    · exact ⟨_, rfl⟩
    · exact ⟨_, List.mem_singleton.mp hentry⟩
  · rw [if_neg hneeds] at hentry
    exact ⟨_, List.mem_singleton.mp hentry⟩

theorem ending {as : List Attempt} {changed : List TransactionStep}
    (hchanged : ∀ step ∈ changed, step ∈ steps) :
    CallsWithin steps (plan.ending driver snapshot as changed) := by
  have hreceipt : CallsWithin steps [.call (.successReceipt plan snapshot)] := by
    intro call hcall step hstep
    rw [Entry.call.inj (List.mem_singleton.mp hcall)] at hstep
    cases hstep
  unfold TransactionPlan.ending
  cases failedAttempt as with
  | some a => exact undoStory hchanged _ _ _
  | none =>
    rcases plan.receiptOf driver snapshot with className | receipt
    · exact hreceipt.append (undoStory hchanged _ _ _)
    · refine hreceipt.append (of_writes fun entry hentry ↦ ?_)
      exact ⟨_, List.mem_singleton.mp hentry⟩

/-- Every call of a story is about a step of the plan, or about none. -/
theorem story (plan : TransactionPlan) (driver : Driver) (rt : Runtime) :
    CallsWithin plan.steps (plan.story driver rt) := by
  have hsnapshot : CallsWithin plan.steps [.call (.prepareSnapshot plan)] := by
    intro call hcall step hstep
    rw [Entry.call.inj (List.mem_singleton.mp hcall)] at hstep
    cases hstep
  have hwrite (w : Write) : CallsWithin plan.steps [.wrote w] :=
    of_writes fun entry hentry ↦ ⟨w, List.mem_singleton.mp hentry⟩
  suffices h : CallsWithin plan.steps (plan.registeredStory driver) from append (hwrite _) h
  by_cases hcaptured : ∃ snapshot, Captured plan driver snapshot
  · obtain ⟨snapshot, hcaptured⟩ := hcaptured
    rw [registeredStory_of_captured hcaptured]
    have hattempted {a : Attempt} (ha : a ∈ plan.attempts driver plan.steps) :
        a.step ∈ plan.steps := (eq_attempt_of_mem ha).2
    refine hsnapshot.append (append (hwrite _) (append (flatMap fun a ha ↦ attempt (hattempted ha))
      (ending fun step hstep ↦ ?_)))
    obtain ⟨a, ha, -, rfl⟩ := mem_appliedSteps.mp hstep
    exact hattempted ha
  · obtain ⟨-, calls, rest, hcalls, hstory⟩ := story_of_not_captured (not_exists.mp hcaptured)
    rw [hstory]
    refine append ?_ (append (hwrite _) (hwrite _))
    rcases hcalls with rfl | rfl
    · exact of_writes fun entry hentry ↦ by cases hentry
    · exact hsnapshot

end CallsWithin

/-! ### The actions of a trace -/

/-- The calls of the host driver that a trace makes. -/
def hostCalls (compilation : HostCompilation) (trace : List Entry) : List HostCall :=
  trace.filterMap fun
    | .call call => hostCall compilation call
    | .wrote _ => none

/-- The actions the host driver is asked to execute, in order. -/
def executedActions (compilation : HostCompilation) (trace : List Entry) : List CompiledHostAction :=
  (hostCalls compilation trace).filterMap fun
    | .executeAction action => some action
    | _ => none

section

variable {compilation : HostCompilation}

/-- The action of a compiled step is found. -/
theorem actionOf_stepOf {action : CompiledHostAction} (h : action ∈ compilation.actions) :
    actionOf compilation (stepOf action) = .ok action := by
  have hfind : compilation.actions.find? (fun other ↦ other.actionId.val == action.actionId.val) =
      some action := by
    rcases hfound : compilation.actions.find?
      (fun other ↦ other.actionId.val == action.actionId.val) with _ | found
    · exact absurd (List.find?_eq_none.mp hfound action h) (by simp)
    · have hid : found.actionId.val = action.actionId.val := by simpa using List.find?_some hfound
      have hmem := List.mem_of_find?_eq_some hfound
      rw [hfound, List.inj_on_of_nodup_map compilation.actionIds hmem h (Line.ext hid)]
  exact bind_eq_ok.mpr ⟨action, orRaise_eq_ok.mpr hfind, bind_eq_ok.mpr ⟨_, actionStep_eq action,
    bind_eq_ok.mpr ⟨(), require_eq_ok.mpr rfl, rfl⟩⟩⟩

/-- A call about a compiled step reaches the host driver. -/
theorem hostCall_isSome {call : DriverCall}
    (h : ∀ step ∈ callStep call, step ∈ compilation.actions.map stepOf) :
    ∃ reached, hostCall compilation call = some reached := by
  have hfound {step : TransactionStep} (hstep : step ∈ compilation.actions.map stepOf) :
      ∃ action, actionOf compilation step = .ok action := by
    obtain ⟨action, haction, rfl⟩ := List.mem_map.mp hstep
    exact ⟨action, actionOf_stepOf haction⟩
  cases call with
  | prepareSnapshot plan => exact ⟨_, rfl⟩
  | successReceipt plan snapshot => exact ⟨_, rfl⟩
  | executeStep step =>
    obtain ⟨action, haction⟩ := hfound (h step rfl)
    exact ⟨_, by rw [hostCall, haction]; rfl⟩
  | verifyPostcondition step execution =>
    obtain ⟨action, haction⟩ := hfound (h step rfl)
    exact ⟨_, by rw [hostCall, haction]; rfl⟩
  | compensateStep step snapshot =>
    obtain ⟨action, haction⟩ := hfound (h step rfl)
    exact ⟨_, by rw [hostCall, haction]; rfl⟩

/-- The actions that are executed are those of the steps that are executed. -/
theorem executedActions_eq (trace : List Entry) : executedActions compilation trace =
    (executedSteps trace).filterMap fun step ↦ (actionOf compilation step).toOption := by
  unfold executedActions hostCalls executedSteps
  rw [List.filterMap_filterMap, List.filterMap_filterMap]
  refine List.filterMap_congr fun entry _ ↦ ?_
  rcases entry with call | w
  · cases call with
    | prepareSnapshot plan => rfl
    | successReceipt plan snapshot => rfl
    | executeStep step =>
      rcases hfound : actionOf compilation step with e | action <;>
        simp [hostCall, hfound, Except.toOption]
    | verifyPostcondition step execution =>
      rcases hfound : actionOf compilation step with e | action <;>
        simp [hostCall, hfound, Except.toOption]
    | compensateStep step snapshot =>
      rcases hfound : actionOf compilation step with e | action <;>
        simp [hostCall, hfound, Except.toOption]
  · rfl

/-- Executing compiled steps is executing their actions. -/
theorem filterMap_stepOf {actions : List CompiledHostAction} (h : actions ⊆ compilation.actions) :
    (actions.map stepOf).filterMap (fun step ↦ (actionOf compilation step).toOption) = actions := by
  rw [List.filterMap_map]
  refine (List.filterMap_congr fun action haction ↦ ?_).trans List.filterMap_some
  rw [Function.comp_apply, actionOf_stepOf (h haction)]
  rfl

/-- The executed actions of a prefix of the compiled steps are a prefix of the compiled actions. -/
theorem executedActions_initial {trace : List Entry}
    (h : executedSteps trace <+: compilation.actions.map stepOf) :
    executedActions compilation trace <+: compilation.actions := by
  obtain ⟨rest, hrest⟩ := h
  have hall := filterMap_stepOf (List.Subset.refl compilation.actions)
  rw [← hrest, List.filterMap_append, ← executedActions_eq] at hall
  exact ⟨_, hall⟩

end

end N0te.Musical
