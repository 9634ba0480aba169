import N0te.Journal.Operations

/-!
# The life of one operation

`Lifecycle` lists the histories an operation can have and the state each adds up to, and
`derive_eq_ok` says that the journal derives a state from exactly these. An event that may follow a
state extends the history (`Lifecycle.append`), so what a write checks against the derived state
decides the shape of the whole history.
-/

set_option autoImplicit false
set_option relaxedAutoImplicit false

namespace N0te.Journal

open Library

/-! ### The legal histories -/

def Outcome.state : Outcome → RecordedState
  | succeeded => .succeeded
  | failed => .failed
  | unknown => .unknown

/-- What an outcome says the operation did. -/
def Outcome.effective : Outcome → EffectiveOutcome
  | succeeded => .succeeded
  | failed => .failed
  | unknown => .unknown

/-- The event types of a legal history, and the state they add up to. -/
inductive Lifecycle : List OperationEventType → Derived → Prop where
  | prepared : Lifecycle [.prepared] .initial
  | claimed : Lifecycle [.prepared, .executionClaimed] ⟨.executing, none, 1, false⟩
  | ended (outcome : Outcome) :
      Lifecycle [.prepared, .executionClaimed, outcome.eventType]
        ⟨outcome.state, some outcome.effective, 1, false⟩
  | reconciledSuccess :
      Lifecycle [.prepared, .executionClaimed, .unknown, .reconciledSucceeded]
        ⟨.unknown, some .succeeded, 1, true⟩
  | reconciledFailure :
      Lifecycle [.prepared, .executionClaimed, .unknown, .reconciledFailed]
        ⟨.unknown, some .failed, 1, true⟩

namespace Lifecycle

variable {kinds : List OperationEventType} {d next : Derived} {kind : OperationEventType}

/-- An event that may follow the state of a history extends it. -/
theorem append (h : Lifecycle kinds d) (hnext : d.transition kind = some next) :
    Lifecycle (kinds ++ [kind]) next := by
  cases h with
  | prepared =>
    cases kind <;> cases hnext
    exact claimed
  | claimed =>
    cases kind <;> cases hnext
    · exact ended .succeeded
    · exact ended .failed
    · exact ended .unknown
  | ended outcome =>
    cases outcome <;> cases kind <;> cases hnext
    · exact reconciledSuccess
    · exact reconciledFailure
  | reconciledSuccess => cases kind <;> cases hnext
  | reconciledFailure => cases kind <;> cases hnext

/-- Nothing may follow a closed state. -/
theorem not_closed (h : Lifecycle kinds d) (hnext : d.transition kind = some next) :
    ¬ d.Closed := by
  cases h with
  | prepared => decide
  | claimed => decide
  | ended outcome => cases outcome <;> cases kind <;> cases hnext <;> decide
  | reconciledSuccess => cases kind <;> cases hnext
  | reconciledFailure => cases kind <;> cases hnext

end Lifecycle

/-! ### The derivation -/

/-- The events that follow a state add up to another. -/
inductive Follows : Derived → List OperationEventType → Derived → Prop where
  | done (d : Derived) : Follows d [] d
  | step {d next last : Derived} {kind : OperationEventType} {rest : List OperationEventType}
      (hnext : d.transition kind = some next) (hrest : Follows next rest last) :
      Follows d (kind :: rest) last

/-- Nothing follows a closed state. -/
theorem Follows.eq_nil {d last : Derived} {before kinds : List OperationEventType}
    (h : Follows d kinds last) (hbefore : Lifecycle before d) (hclosed : d.Closed) :
    kinds = [] := by
  cases h with
  | done => rfl
  | step hnext hrest => exact absurd hclosed (hbefore.not_closed hnext)

theorem deriveFrom_eq_ok {d last : Derived} {before : List OperationEventType}
    {events : List OperationEvent} (hbefore : Lifecycle before d) :
    deriveFrom d events = .ok last ↔ Follows d (events.map OperationEvent.eventType) last := by
  induction events generalizing before d with
  | nil =>
    refine ⟨fun h ↦ ?_, fun h ↦ ?_⟩
    · rw [← Except.ok.inj h]
      exact .done d
    · cases h
      rfl
  | cons event rest ih =>
    simp only [deriveFrom, bind_eq_ok, orRaise_eq_ok, require_eq_ok, List.map_cons]
    constructor
    · rintro ⟨next, hnext, -, -, hrest⟩
      exact .step hnext ((ih (hbefore.append hnext)).mp hrest)
    · rintro (_ | ⟨hnext, hrest⟩)
      have hlegal := hbefore.append hnext
      refine ⟨_, hnext, (), fun hclosed ↦ ?_, (ih hlegal).mpr hrest⟩
      exact List.map_eq_nil_iff.mp (hrest.eq_nil hlegal hclosed)

/-- A legal history with events after it stays legal. -/
theorem Follows.lifecycle {d last : Derived} {before kinds : List OperationEventType}
    (h : Follows d kinds last) (hbefore : Lifecycle before d) :
    Lifecycle (before ++ kinds) last := by
  induction h generalizing before with
  | done d => simpa using hbefore
  | step hnext hrest ih =>
    have hlegal := ih (hbefore.append hnext)
    rwa [List.append_assoc, List.singleton_append] at hlegal

/-- The journal derives a state from the legal histories and from no others. -/
theorem derive_eq_ok {events : List OperationEvent} {d : Derived} :
    derive events = .ok d ↔ Lifecycle (events.map OperationEvent.eventType) d := by
  cases events with
  | nil =>
    refine ⟨fun h ↦ (nomatch h), fun h ↦ ?_⟩
    generalize hkinds : List.map OperationEvent.eventType [] = kinds at h
    cases h <;> cases hkinds
  | cons event rest =>
    simp only [derive, List.map_cons]
    split_ifs with hprepared
    · rw [hprepared, deriveFrom_eq_ok .prepared]
      refine ⟨fun h ↦ h.lifecycle .prepared, fun h ↦ ?_⟩
      generalize rest.map OperationEvent.eventType = kinds at h
      cases h with
      | prepared => exact .done _
      | claimed => exact .step rfl (.done _)
      | ended outcome => cases outcome <;> exact .step rfl (.step rfl (.done _))
      | reconciledSuccess => exact .step rfl (.step rfl (.step rfl (.done _)))
      | reconciledFailure => exact .step rfl (.step rfl (.step rfl (.done _)))
    · refine ⟨fun h ↦ (nomatch h), fun h ↦ absurd ?_ hprepared⟩
      generalize hkind : event.eventType = kind at h
      generalize rest.map OperationEvent.eventType = kinds at h
      cases h <;> rfl

/-! ### What a history says -/

/-- The events that end an execution. -/
def OperationEventType.isOutcome : OperationEventType → Bool
  | .succeeded | .failed | .unknown => true
  | _ => false

/-- The events that reconcile an unknown outcome. -/
def OperationEventType.isReconciliation : OperationEventType → Bool
  | .reconciledSucceeded | .reconciledFailed => true
  | _ => false

/-- The history of an operation that is executed at most once. -/
structure ExecutedOnce (events : List OperationEvent) : Prop where
  /-- The journal derives a state from it. -/
  legal : ∃ d, derive events = .ok d
  evidence : validateEvidence events = .ok ()
  /-- Execution was claimed at most once. -/
  claims : events.countP (fun event ↦ event.eventType = .executionClaimed) ≤ 1
  /-- At most one outcome was recorded. -/
  outcomes : events.countP (fun event ↦ event.eventType.isOutcome) ≤ 1
  /-- At most one reconciliation was recorded. -/
  reconciliations : events.countP (fun event ↦ event.eventType.isReconciliation) ≤ 1
  /-- A reconciliation has an unknown outcome before it. -/
  reconciled_unknown : ∀ before event after, events = before ++ event :: after →
    event.eventType.isReconciliation → ∃ earlier ∈ before, earlier.eventType = .unknown

namespace Lifecycle

variable {kinds : List OperationEventType} {d : Derived}

theorem claims (h : Lifecycle kinds d) : kinds.countP (· = .executionClaimed) ≤ 1 := by
  cases h with
  | ended outcome => cases outcome <;> decide
  | _ => decide

theorem outcomes (h : Lifecycle kinds d) : kinds.countP OperationEventType.isOutcome ≤ 1 := by
  cases h with
  | ended outcome => cases outcome <;> decide
  | _ => decide

theorem reconciliations (h : Lifecycle kinds d) :
    kinds.countP OperationEventType.isReconciliation ≤ 1 := by
  cases h with
  | ended outcome => cases outcome <;> decide
  | _ => decide

/-- A reconciliation is the fourth event and follows an unknown outcome. -/
theorem unknown_of_reconciliation (h : Lifecycle kinds d)
    {before after : List OperationEventType} {kind : OperationEventType}
    (hkinds : kinds = before ++ kind :: after) (hkind : kind.isReconciliation) :
    .unknown ∈ before := by
  have hmem : kind ∈ kinds := by simp [hkinds]
  have hlength := congrArg List.length hkinds
  cases h with
  | prepared | claimed =>
    simp only [List.mem_cons, List.not_mem_nil, or_false] at hmem
    rcases hmem with rfl | rfl <;> cases hkind
  | ended outcome =>
    cases outcome <;> simp only [List.mem_cons, List.not_mem_nil, or_false] at hmem <;>
      rcases hmem with rfl | rfl | rfl <;> cases hkind
  | reconciledSuccess | reconciledFailure =>
    rcases before with _ | ⟨_, _ | ⟨_, _ | ⟨_, _ | ⟨_, _⟩⟩⟩⟩ <;>
      grind [OperationEventType.isReconciliation]

end Lifecycle

theorem validateEvidence_eq_ok {events : List OperationEvent} :
    validateEvidence events = .ok () ↔
      ∀ event ∈ events, validateEventEvidence event = .ok () := by
  simp only [validateEvidence, bind_eq_ok, pure_eq_ok, and_true]
  exact exists_checkEach_iff

/-- A derived history with its evidence is the history of an operation executed at most once. -/
theorem executedOnce_of_derive {events : List OperationEvent} {d : Derived}
    (hderive : derive events = .ok d)
    (hevidence : ∀ event ∈ events, validateEventEvidence event = .ok ()) :
    ExecutedOnce events := by
  have hlegal := derive_eq_ok.mp hderive
  refine ⟨⟨d, hderive⟩, validateEvidence_eq_ok.mpr hevidence, ?_, ?_, ?_, ?_⟩
  · simpa [List.countP_map, Function.comp_def] using hlegal.claims
  · simpa [List.countP_map, Function.comp_def] using hlegal.outcomes
  · simpa [List.countP_map, Function.comp_def] using hlegal.reconciliations
  · rintro before event after rfl hreconciliation
    have hunknown : .unknown ∈ before.map OperationEvent.eventType :=
      hlegal.unknown_of_reconciliation (List.map_append ..) hreconciliation
    exact List.mem_map.mp hunknown

end N0te.Journal
