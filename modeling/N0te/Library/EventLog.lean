import Mathlib.Data.List.Induction

/-!
# Append-only logs of events

A log holds the events of many objects in the order they were appended, and `historyOf` is what it holds
of one of them. A `Workflow` says which states an object may start in and which state may follow
which. `Legal` says of a list of states that each was allowed after those before it, and
`legalLog_concat` that a log stays legal exactly when the event appended to it was allowed.
-/

set_option autoImplicit false
set_option relaxedAutoImplicit false

namespace N0te.Library

/-! ### Histories -/

section Histories

variable {κ ε : Type} [DecidableEq κ] (key : ε → κ)

/-- The events of an object, in order. -/
def historyOf (k : κ) (log : List ε) : List ε := log.filter fun event ↦ key event = k

variable {key}

theorem mem_historyOf {k : κ} {log : List ε} {event : ε} :
    event ∈ historyOf key k log ↔ event ∈ log ∧ key event = k := by
  simp [historyOf]

theorem historyOf_concat (k : κ) (log : List ε) (event : ε) :
    historyOf key k (log ++ [event]) =
      if key event = k then historyOf key k log ++ [event] else historyOf key k log := by
  by_cases h : key event = k <;> simp [historyOf, h]

/-- The history of another object is not touched. -/
theorem historyOf_concat_of_ne {k : κ} {log : List ε} {event : ε} (h : key event ≠ k) :
    historyOf key k (log ++ [event]) = historyOf key k log := by
  rw [historyOf_concat, if_neg h]

theorem historyOf_concat_self (log : List ε) (event : ε) :
    historyOf key (key event) (log ++ [event]) = historyOf key (key event) log ++ [event] := by
  rw [historyOf_concat, if_pos rfl]

theorem historyOf_eq_nil {k : κ} {log : List ε} (h : ∀ event ∈ log, key event ≠ k) :
    historyOf key k log = [] := by
  simpa [historyOf] using h

end Histories

/-! ### Workflows -/

/-- The states an object may start in, and which state may follow which. -/
structure Workflow (σ : Type) where
  /-- A first state. -/
  first : σ → Prop
  /-- A state after another. -/
  next : σ → σ → Prop

namespace Workflow

variable {σ : Type} (w : Workflow σ)

/-- Whether a state may come after some states. -/
def Allows (past : List σ) (s : σ) : Prop :=
  match past.getLast? with
  | none => w.first s
  | some last => w.next last s

/-- Each state was allowed after those before it. -/
def Legal (states : List σ) : Prop :=
  ∀ before s after, states = before ++ s :: after → w.Allows before s

variable {w}

theorem legal_nil : w.Legal [] := fun before s after h ↦ by simp at h

theorem legal_concat {states : List σ} {s : σ} :
    w.Legal (states ++ [s]) ↔ w.Legal states ∧ w.Allows states s := by
  constructor
  · refine fun h ↦ ⟨fun before t after hstates ↦ h before t (after ++ [s]) ?_, h states s [] rfl⟩
    rw [hstates, List.append_assoc, List.cons_append]
  · rintro ⟨hlegal, hlast⟩ before t after h
    induction after using List.reverseRecOn with
    | nil =>
      obtain ⟨rfl, hs⟩ := List.append_inj' h rfl
      cases hs
      exact hlast
    | append_singleton after last _ =>
      rw [← List.cons_append, ← List.append_assoc] at h
      exact hlegal before t after (List.append_inj' h rfl).1

/-- A state is followed by one that may follow it. -/
theorem Legal.next_of_pair {states before after : List σ} {s t : σ} (h : w.Legal states)
    (hpair : states = before ++ s :: t :: after) : w.next s t := by
  have hallows := h (before ++ [s]) t after (by rw [hpair, List.append_assoc, List.singleton_append])
  simpa [Allows] using hallows

/-- The first state is one that objects may start in. -/
theorem Legal.first_of_head {s : σ} {rest : List σ} (h : w.Legal (s :: rest)) : w.first s :=
  h [] s rest rfl

/-! ### Logs of many objects -/

variable {κ ε : Type} [DecidableEq κ] {key : ε → κ} {state : ε → σ} {log : List ε} {event : ε}

variable (w key state) in
/-- The history of every object is legal. -/
def LegalLog (log : List ε) : Prop := ∀ k, w.Legal ((historyOf key k log).map state)

theorem legalLog_nil : w.LegalLog key state [] := fun _ ↦ legal_nil

/-- Appending an event keeps a log legal exactly when the workflow allows it for its object. -/
theorem legalLog_concat :
    w.LegalLog key state (log ++ [event]) ↔
      w.LegalLog key state log ∧
        w.Allows ((historyOf key (key event) log).map state) (state event) := by
  constructor
  · intro h
    have hself := h (key event)
    rw [historyOf_concat_self, List.map_append, List.map_singleton, legal_concat] at hself
    refine ⟨fun k ↦ ?_, hself.2⟩
    by_cases hk : key event = k
    · exact hk ▸ hself.1
    · have hother := h k
      rwa [historyOf_concat_of_ne hk] at hother
  · rintro ⟨hlegal, hallows⟩ k
    by_cases hk : key event = k
    · subst hk
      rw [historyOf_concat_self, List.map_append, List.map_singleton, legal_concat]
      exact ⟨hlegal _, hallows⟩
    · rw [historyOf_concat_of_ne hk]
      exact hlegal k

end Workflow

end N0te.Library
