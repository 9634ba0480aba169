import Mathlib.Data.Option.Basic
import Mathlib.Tactic.SplitIfs

/-!
# Runs of a partial step function

A system is a state type, an event type and a step function that says which state an event leads to, or
that the event cannot happen. `runEvents` runs a list of events. `EveryStep` says that every step of a
run meets a condition on the state before it and its event, and `invariant_of_run` that an invariant
which such steps preserve holds after the run. `checkSteps` decides such a condition along a run, and
`runChecked` runs the events and decides it.
-/

set_option autoImplicit false
set_option relaxedAutoImplicit false

namespace N0te.Library

variable {σ ε : Type} (step : σ → ε → Option σ)

/-- The state after a list of events, if all of them can happen. -/
def runEvents : σ → List ε → Option σ
  | s, [] => some s
  | s, e :: rest => (step s e).bind fun t ↦ runEvents t rest

/-- Every step of a run meets a condition on the state before it and its event. -/
def EveryStep (condition : σ → ε → Prop) : σ → List ε → Prop
  | _, [] => True
  | s, e :: rest => condition s e ∧ ∀ t, step s e = some t → EveryStep condition t rest

variable {step} {condition : σ → ε → Prop} {invariant : σ → Prop}

/-- An invariant that steps meeting the condition preserve holds after a run of such steps. -/
theorem invariant_of_run
    (hstep : ∀ s e t, invariant s → condition s e → step s e = some t → invariant t) {s t : σ}
    {events : List ε} (hs : invariant s) (hevery : EveryStep step condition s events)
    (hrun : runEvents step s events = some t) : invariant t := by
  induction events generalizing s with
  | nil =>
    cases hrun
    exact hs
  | cons e rest ih =>
    obtain ⟨hcondition, hrest⟩ := hevery
    obtain ⟨u, hu, hrun⟩ := Option.bind_eq_some_iff.mp hrun
    exact ih (hstep s e u hs hcondition hu) (hrest u hu) hrun

/-- A condition that the invariant gives holds of every step. -/
theorem everyStep_of_invariant (hstep : ∀ s e t, invariant s → step s e = some t → invariant t)
    (hcondition : ∀ s e, invariant s → condition s e) {s : σ} (hs : invariant s) (events : List ε) :
    EveryStep step condition s events := by
  induction events generalizing s with
  | nil => trivial
  | cons e rest ih => exact ⟨hcondition s e hs, fun t ht ↦ ih (hstep s e t hs ht)⟩

/-- A weaker condition holds of every step as well. -/
theorem EveryStep.mono {weaker : σ → ε → Prop} (h : ∀ s e, condition s e → weaker s e) {s : σ}
    {events : List ε} (hevery : EveryStep step condition s events) :
    EveryStep step weaker s events := by
  induction events generalizing s with
  | nil => trivial
  | cons e rest ih => exact ⟨h s e hevery.1, fun t ht ↦ ih (hevery.2 t ht)⟩

/-- Check every step of a run. -/
def checkSteps (step : σ → ε → Option σ) (check : σ → ε → Bool) : σ → List ε → Bool
  | _, [] => true
  | s, e :: rest => check s e && (step s e).all fun t ↦ checkSteps step check t rest

theorem everyStep_of_checkSteps {check : σ → ε → Bool} {s : σ} {events : List ε}
    (h : checkSteps step check s events = true) :
    EveryStep step (fun s e ↦ check s e = true) s events := by
  induction events generalizing s with
  | nil => trivial
  | cons e rest ih =>
    rw [checkSteps, Bool.and_eq_true] at h
    refine ⟨h.1, fun t ht ↦ ih ?_⟩
    have hrest := h.2
    rwa [ht, Option.all_some] at hrest

/-- Run a list of events, if all of them can happen and pass a check. -/
def runChecked (step : σ → ε → Option σ) (check : σ → ε → Bool) : σ → List ε → Option σ
  | s, [] => some s
  | s, e :: rest => if check s e then (step s e).bind fun t ↦ runChecked step check t rest else none

theorem run_of_runChecked {check : σ → ε → Bool} {s t : σ} {events : List ε}
    (h : runChecked step check s events = some t) :
    runEvents step s events = some t ∧ EveryStep step (fun s e ↦ check s e = true) s events := by
  induction events generalizing s with
  | nil => exact ⟨h, trivial⟩
  | cons e rest ih =>
    unfold runChecked at h
    split_ifs at h with hcheck
    obtain ⟨u, hu, hrest⟩ := Option.bind_eq_some_iff.mp h
    obtain ⟨hrun, hevery⟩ := ih hrest
    refine ⟨Option.bind_eq_some_iff.mpr ⟨u, hu, hrun⟩, hcheck, fun v hv ↦ ?_⟩
    cases hu.symm.trans hv
    exact hevery

end N0te.Library
