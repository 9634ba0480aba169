import N0te.Library.Interference

/-!
# Statements of calls

A rule for runs in which something may go wrong between two statements of one call. `holds` says how
far a call has come and what it knows of the store; the commits of the others keep it, and each
statement of the call itself carries it on if the call is `fine` at that moment. `MeetsAt` is the
condition of a run that every statement is made by a call that is fine, and `holds_of_run` is the
rule.

`Guarantees` says of a call that every transaction of it, whatever was read, changes the store as a
relation says. `Call.within` runs a call on a part of a store. Where a commit leaves behind what it
was for, no two calls commit for the same (`takenOnce_of_run`).
-/

set_option autoImplicit false
set_option relaxedAutoImplicit false

namespace N0te.Library

variable {σ τ ε α β ω : Type}

/-! ### Calls on a part of a store -/

/-- A call on a part of a store, which is put back after each transaction. -/
def Call.within (get : τ → σ) (put : τ → σ → τ) : Call σ ε α → Call τ ε α
  | .ended result => .ended result
  | .read next => .read fun t ↦ (next (get t)).within get put
  | .transact change next raised => .transact (fun t ↦ (change (get t)).map (put t))
      (next.within get put) fun e ↦ (raised e).within get put

section

variable {invariant : σ → Prop} {commits : σ → σ → Prop} {get : τ → σ} {put : τ → σ → τ}

/-- What a call keeps of a store it keeps of the part. -/
theorem keeps_within (hget : ∀ t s, get (put t s) = s) {call : Call σ ε α} {committed : Bool} {t : τ}
    (h : Keeps invariant commits (fun _ _ _ ↦ True) committed call (get t)) :
    Keeps (fun t ↦ invariant (get t)) (fun t u ↦ commits (get t) (get u)) (fun _ _ _ ↦ True) committed
      (call.within get put) t := by
  induction call generalizing committed t with
  | ended result => trivial
  | read next ih =>
    intro u hrely hu
    exact ih (get u) (h (get u) (hrely.lift get fun _ _ hcommit ↦ hcommit) hu)
  | transact change next raised ih ihraised =>
    intro u hrely hu
    obtain ⟨hraised, hchanged⟩ := h (get u) (hrely.lift get fun _ _ hcommit ↦ hcommit) hu
    refine ⟨fun e ↦ ihraised e (hraised e), fun v hv ↦ ?_⟩
    obtain ⟨s, hs, rfl⟩ := map_eq_ok.mp hv
    obtain ⟨hcommit, hinvariant, hnext⟩ := hchanged s hs
    rw [← hget u s] at hcommit hinvariant hnext
    exact ⟨hcommit, hinvariant, ih hnext⟩

end

/-! ### Guarantees of transactions -/

section

variable {guarantee : σ → σ → Prop}

variable (guarantee) in
/-- Every transaction of a call changes the store as a relation says. -/
inductive Guarantees : Call σ ε α → Prop
  /-- It has ended. -/
  | ended (result : Except ε α) : Guarantees (.ended result)
  /-- It reads. -/
  | read {next : σ → Call σ ε α} (h : ∀ s, Guarantees (next s)) : Guarantees (.read next)
  /-- It runs a transaction. -/
  | transact {change : σ → Except ε σ} {next : Call σ ε α} {raised : ε → Call σ ε α}
      (hchange : ∀ s t, change s = .ok t → guarantee s t) (hnext : Guarantees next)
      (hraised : ∀ e, Guarantees (raised e)) : Guarantees (.transact change next raised)

theorem Guarantees.bind {call : Call σ ε α} {k : α → Call σ ε β}
    (h : Guarantees guarantee call) (hk : ∀ a, Guarantees guarantee (k a)) :
    Guarantees guarantee (call >>= k) := by
  induction h with
  | ended result =>
    cases result with
    | error e => exact .ended _
    | ok a => exact hk a
  | read _ ih => exact .read ih
  | transact hchange _ _ ih ihraised => exact .transact hchange ih ihraised

theorem guarantees_pure (a : α) : Guarantees guarantee (pure a : Call σ ε α) := .ended _

theorem Guarantees.map {call : Call σ ε α} (h : Guarantees guarantee call) (f : α → β) :
    Guarantees guarantee (f <$> call) := h.bind fun _ ↦ guarantees_pure _

theorem Guarantees.mapError {ε' : Type} {call : Call σ ε α} (h : Guarantees guarantee call)
    (f : ε → ε') (back : ε' → Option ε) : Guarantees guarantee (call.mapError f back) := by
  induction h with
  | ended result => exact .ended _
  | read _ ih => exact .read ih
  | @transact change next raised hchange _ _ ih ihraised =>
    rw [Call.mapError]
    refine .transact (fun s t ht ↦ ?_) ih fun e ↦ ?_
    · cases hresult : change s with
      | error e =>
        rw [hresult] at ht
        cases ht
      | ok u =>
        rw [hresult] at ht
        cases ht
        exact hchange s _ hresult
    · cases back e with
      | none => exact .ended _
      | some known => exact ihraised known

theorem Guarantees.within {get : τ → σ} {put : τ → σ → τ} {other : τ → τ → Prop}
    (hput : ∀ t s, guarantee (get t) s → other t (put t s)) {call : Call σ ε α}
    (h : Guarantees guarantee call) : Guarantees other (call.within get put) := by
  induction h with
  | ended result => exact .ended _
  | read _ ih => exact .read fun t ↦ ih (get t)
  | transact hchange _ _ ih ihraised =>
    refine .transact (fun t u hu ↦ ?_) ih ihraised
    obtain ⟨s, hs, rfl⟩ := map_eq_ok.mp hu
    exact hput t s (hchange _ _ hs)

theorem Reads.guarantees {call : Call σ ε α} (h : Reads call) : Guarantees guarantee call := by
  induction h with
  | ended result => exact .ended _
  | read _ ih => exact .read ih

/-- Nothing is promised. -/
theorem guarantees_any (call : Call σ ε α) : Guarantees (fun _ _ ↦ True) call := by
  induction call with
  | ended result => exact .ended _
  | read next ih => exact .read ih
  | transact change next raised ih ihraised => exact .transact (fun _ _ _ ↦ trivial) ih ihraised

theorem guarantees_transaction {change : σ → Except ε σ}
    (h : ∀ s t, change s = .ok t → guarantee s t) : Guarantees guarantee (Call.transaction change) :=
  .transact h (.ended _) fun _ ↦ .ended _

/-- A statement of a call leaves the store alone or changes it as guaranteed. -/
theorem Guarantees.advance {session after : Session σ ε α} {s t : σ}
    (h : Guarantees guarantee session.call) (hadvance : session.advance s = some (after, t)) :
    (t = s ∨ guarantee s t) ∧ Guarantees guarantee after.call := by
  rcases session with ⟨call, committed⟩
  cases h with
  | ended result => cases hadvance
  | read hnext =>
    cases hadvance
    exact ⟨.inl rfl, hnext s⟩
  | @transact change next raised hchange hnext hraised =>
    cases hresult : change s with
    | error e =>
      simp only [Session.advance, hresult, Option.some.injEq, Prod.mk.injEq] at hadvance
      obtain ⟨rfl, rfl⟩ := hadvance
      exact ⟨.inl rfl, hraised e⟩
    | ok u =>
      simp only [Session.advance, hresult, Option.some.injEq, Prod.mk.injEq] at hadvance
      obtain ⟨rfl, rfl⟩ := hadvance
      exact ⟨.inr (hchange s u hresult), hnext⟩

theorem Guarantees.locked {session after : Session σ ε α} {e : ε}
    (h : Guarantees guarantee session.call) (hlocked : session.locked e = some after) :
    Guarantees guarantee after.call := by
  rcases session with ⟨call, committed⟩
  cases h with
  | ended result => cases hlocked
  | read hnext => cases hlocked
  | transact hchange hnext hraised =>
    cases hlocked
    exact hraised e

end

/-! ### One statement -/

/-- A transaction commits, or what it raises is dealt with. -/
theorem advance_transact {change : σ → Except ε σ} {next : Call σ ε α} {raised : ε → Call σ ε α}
    {committed : Bool} {after : Session σ ε α} {s t : σ}
    (h : (⟨.transact change next raised, committed⟩ : Session σ ε α).advance s = some (after, t)) :
    (∃ u, change s = .ok u ∧ after = ⟨next, true⟩ ∧ t = u) ∨
      ∃ e, change s = .error e ∧ after = ⟨raised e, committed⟩ ∧ t = s := by
  rcases hresult : change s with e | u
  · simp only [Session.advance, hresult, Option.some.injEq, Prod.mk.injEq] at h
    exact .inr ⟨e, rfl, h.1.symm, h.2.symm⟩
  · simp only [Session.advance, hresult, Option.some.injEq, Prod.mk.injEq] at h
    exact .inl ⟨u, rfl, h.1.symm, h.2.symm⟩

theorem advance_read {next : σ → Call σ ε α} {committed : Bool} {after : Session σ ε α} {s t : σ}
    (h : (⟨.read next, committed⟩ : Session σ ε α).advance s = some (after, t)) :
    after = ⟨next s, committed⟩ ∧ t = s := by
  cases h
  exact ⟨rfl, rfl⟩

/-! ### Runs -/

/-- A statement is made by a call that is fine. -/
def MeetsAt (fine : ω → Session σ ε α → σ → Prop) (w : Labelled ω σ ε α) (event : SharedEvent ω ε) :
    Prop :=
  ∀ i operation session, event = .advance i → w.operations[i]? = some operation →
    w.shared.sessions[i]? = some session → fine operation session w.shared.store

/-- What an event that advances a call does. -/
theorem advance_of_stepLabelled {program : ω → Call σ ε α} {w w' : Labelled ω σ ε α} {i : ℕ}
    (hstep : stepLabelled program w (.advance i) = some w') :
    ∃ session after, w.shared.sessions[i]? = some session ∧
      session.advance w.shared.store = some (after, w'.shared.store) ∧
      w'.shared.sessions = w.shared.sessions.set i after ∧ w'.operations = w.operations := by
  obtain ⟨hshared, hoperations⟩ := shared_of_stepLabelled hstep
  simp only [stepShared, Option.bind_eq_bind, Option.bind_eq_some_iff, Option.some.injEq,
    Prod.exists] at hshared
  obtain ⟨session, hi, after, store, hadvance, hw'⟩ := hshared
  refine ⟨session, after, hi, ?_, ?_, ?_⟩
  · rw [hadvance, ← hw', Shared.update]
  · rw [← hw', Shared.update]
  · exact hoperations.trans (List.append_nil _)

/-- What an event that finds the store locked does. -/
theorem locked_of_stepLabelled {program : ω → Call σ ε α} {w w' : Labelled ω σ ε α} {i : ℕ} {e : ε}
    (hstep : stepLabelled program w (.locked i e) = some w') :
    ∃ session after, w.shared.sessions[i]? = some session ∧ session.locked e = some after ∧
      w'.shared = w.shared.update i after w.shared.store ∧ w'.operations = w.operations := by
  obtain ⟨hshared, hoperations⟩ := shared_of_stepLabelled hstep
  simp only [stepShared, Option.bind_eq_bind, Option.bind_eq_some_iff, Option.some.injEq] at hshared
  obtain ⟨session, hi, after, hlocked, hw'⟩ := hshared
  exact ⟨session, after, hi, hlocked, hw'.symm, hoperations.trans (List.append_nil _)⟩

/-- The store meets an invariant, every call is known, and something holds of each. -/
structure Labelled.Holds (invariant : σ → Prop) (holds : ω → Session σ ε α → σ → Prop)
    (w : Labelled ω σ ε α) : Prop where
  store : invariant w.shared.store
  /-- Every call is known. -/
  lengths : w.operations.length = w.shared.sessions.length
  /-- The calls. -/
  sessions : ∀ (j : ℕ) operation session, w.operations[j]? = some operation →
    w.shared.sessions[j]? = some session → holds operation session w.shared.store

theorem holds_new {invariant : σ → Prop} {holds : ω → Session σ ε α → σ → Prop} {s : σ}
    (hs : invariant s) : (⟨⟨s, []⟩, []⟩ : Labelled ω σ ε α).Holds invariant holds :=
  ⟨hs, rfl, fun _ _ _ h ↦ by cases h⟩

section

variable {program : ω → Call σ ε α} {invariant : σ → Prop} {commits : σ → σ → Prop}
  {holds fine : ω → Session σ ε α → σ → Prop} {w w' : Labelled ω σ ε α}
  (hstart : ∀ operation s, invariant s → holds operation ⟨program operation, false⟩ s)
  (hadvance : ∀ operation session s after t, invariant s → holds operation session s →
    fine operation session s → session.advance s = some (after, t) →
      Relation.ReflGen commits s t ∧ invariant t ∧ holds operation after t)
  (hlocked : ∀ operation session s e after, invariant s → holds operation session s →
    session.locked e = some after → holds operation after s)
  (hstable : ∀ operation session s t, invariant s → commits s t → holds operation session s →
    holds operation session t)

include hstart hadvance hlocked hstable

/-- One event, made by a call that is fine. -/
theorem holds_step {event : SharedEvent ω ε} (h : w.Holds invariant holds)
    (hfine : MeetsAt fine w event) (hstep : stepLabelled program w event = some w') :
    Relation.ReflGen commits w.shared.store w'.shared.store ∧ w'.Holds invariant holds := by
  cases event with
  | start operation =>
    obtain ⟨hshared, hoperations⟩ := shared_of_stepLabelled hstep
    rcases w' with ⟨shared, operations⟩
    obtain rfl : operations = w.operations ++ [operation] := hoperations
    cases hshared
    refine ⟨.refl, h.store, by simp [h.lengths], fun j op session hop hsession ↦ ?_⟩
    rw [List.getElem?_append] at hop hsession
    rw [h.lengths] at hop
    split_ifs at hop hsession with hold
    · exact h.sessions j op session hop hsession
    · have hop := List.mem_of_getElem? hop
      have hsession := List.mem_of_getElem? hsession
      rw [List.mem_singleton] at hop hsession
      rw [hop, hsession]
      exact hstart operation _ h.store
  | advance i =>
    obtain ⟨session, after, hi, hadvanced, hsessions, hoperations⟩ := advance_of_stepLabelled hstep
    have hlt : i < w.shared.sessions.length := (List.getElem?_eq_some_iff.mp hi).1
    obtain ⟨operation, hoperation⟩ : ∃ operation, w.operations[i]? = some operation :=
      ⟨_, List.getElem?_eq_getElem (h.lengths ▸ hlt)⟩
    obtain ⟨hcommit, hinvariant, hafter⟩ := hadvance operation session _ after _ h.store
      (h.sessions i operation session hoperation hi) (hfine i operation session rfl hoperation hi)
      hadvanced
    refine ⟨hcommit, hinvariant, by rw [hoperations, hsessions, List.length_set, h.lengths], ?_⟩
    intro j op other hop hother
    rw [hoperations] at hop
    rw [hsessions] at hother
    by_cases hij : j = i
    · subst hij
      cases hoperation.symm.trans hop
      cases (List.getElem?_set_self hlt).symm.trans hother
      exact hafter
    · rw [List.getElem?_set_ne (Ne.symm hij)] at hother
      have hheld := h.sessions j op other hop hother
      rcases (Relation.reflGen_iff _ _ _).mp hcommit with hsame | hchanged
      · rw [hsame]
        exact hheld
      · exact hstable op other _ _ h.store hchanged hheld
  | locked i e =>
    obtain ⟨session, after, hi, hlockedAfter, hshared, hoperations⟩ := locked_of_stepLabelled hstep
    have hlt : i < w.shared.sessions.length := (List.getElem?_eq_some_iff.mp hi).1
    have hstore : w'.shared.store = w.shared.store := by rw [hshared, Shared.update]
    have hsessions : w'.shared.sessions = w.shared.sessions.set i after := by
      rw [hshared, Shared.update]
    rw [hstore]
    refine ⟨.refl, hstore ▸ h.store, by rw [hoperations, hsessions, List.length_set, h.lengths], ?_⟩
    intro j op other hop hother
    rw [hoperations] at hop
    rw [hsessions] at hother
    rw [hstore]
    by_cases hij : j = i
    · subst hij
      cases (List.getElem?_set_self hlt).symm.trans hother
      exact hlocked op session _ e after h.store (h.sessions j op session hop hi) hlockedAfter
    · rw [List.getElem?_set_ne (Ne.symm hij)] at hother
      exact h.sessions j op other hop hother

/-- A whole run of statements made by calls that are fine. -/
theorem holds_of_run {events : List (SharedEvent ω ε)} (h : w.Holds invariant holds)
    (hfine : EveryStep (stepLabelled program) (MeetsAt fine) w events)
    (hrun : runEvents (stepLabelled program) w events = some w') :
    Relation.ReflTransGen commits w.shared.store w'.shared.store ∧ w'.Holds invariant holds := by
  induction events generalizing w with
  | nil =>
    cases hrun
    exact ⟨.refl, h⟩
  | cons event rest ih =>
    obtain ⟨u, hu, hrun⟩ := Option.bind_eq_some_iff.mp hrun
    obtain ⟨hfirst, hheld⟩ := holds_step hstart hadvance hlocked hstable h hfine.1 hu
    obtain ⟨hrest, hheld⟩ := ih hheld (hfine.2 u hu) hrun
    exact ⟨hfirst.to_reflTransGen.trans hrest, hheld⟩

/-- What follows from the rule for one event holds of every event of a run. -/
theorem everyStep_of_holds {condition : Labelled ω σ ε α → SharedEvent ω ε → Prop}
    (hcondition : ∀ (w : Labelled ω σ ε α) event, w.Holds invariant holds → MeetsAt fine w event →
      condition w event)
    {events : List (SharedEvent ω ε)} (h : w.Holds invariant holds)
    (hfine : EveryStep (stepLabelled program) (MeetsAt fine) w events) :
    EveryStep (stepLabelled program) condition w events := by
  induction events generalizing w with
  | nil => trivial
  | cons event rest ih =>
    exact ⟨hcondition w event h hfine.1, fun u hu ↦
      ih (holds_step hstart hadvance hlocked hstable h hfine.1 hu).2 (hfine.2 u hu)⟩

end

/-! ### Targets that are taken once -/

/-- The next statement of a call is a transaction. -/
def Session.atTransaction (session : Session σ ε α) : Bool :=
  match session.call with
  | .transact _ _ _ => true
  | _ => false

section

variable {κ : Type} (target : ω → Option κ)

/-- A call that was for a target has committed. -/
def Labelled.Took (w : Labelled ω σ ε α) (i : ℕ) (k : κ) : Prop :=
  ∃ operation session, w.operations[i]? = some operation ∧ w.shared.sessions[i]? = some session ∧
    session.committed = true ∧ target operation = some k

/-- Of two calls for one target at most one has committed. -/
def Labelled.TakenOnce (w : Labelled ω σ ε α) : Prop :=
  ∀ i j k, w.Took target i k → w.Took target j k → i = j

variable {target} {program : ω → Call σ ε α} {invariant : σ → Prop} {commits : σ → σ → Prop}
  {holds fine : ω → Session σ ε α → σ → Prop} {w w' : Labelled ω σ ε α} {taken : κ → σ → Prop}
  (hstart : ∀ operation s, invariant s → holds operation ⟨program operation, false⟩ s)
  (hadvance : ∀ operation session s after t, invariant s → holds operation session s →
    fine operation session s → session.advance s = some (after, t) →
      Relation.ReflGen commits s t ∧ invariant t ∧ holds operation after t)
  (hlocked : ∀ operation session s e after, invariant s → holds operation session s →
    session.locked e = some after → holds operation after s)
  (hstable : ∀ operation session s t, invariant s → commits s t → holds operation session s →
    holds operation session t)
  (htaken : ∀ operation session s k, holds operation session s → session.committed = true →
    target operation = some k → taken k s)
  (hfree : ∀ operation session s after t k, invariant s → holds operation session s →
    fine operation session s → session.advance s = some (after, t) → session.committed = false →
      after.committed = true → target operation = some k → ¬ taken k s)

include htaken in
theorem taken_of_took (h : w.Holds invariant holds) {i : ℕ} {k : κ} (htook : w.Took target i k) :
    taken k w.shared.store := by
  obtain ⟨operation, session, hoperation, hsession, hcommitted, htarget⟩ := htook
  exact htaken operation session _ k (h.sessions i operation session hoperation hsession) hcommitted
    htarget

include hfree in
/-- A call that took a target had done so before, or takes it now and nobody had. -/
theorem took_of_step {event : SharedEvent ω ε} (h : w.Holds invariant holds)
    (hfine : MeetsAt fine w event) (hstep : stepLabelled program w event = some w') {i : ℕ} {k : κ}
    (htook : w'.Took target i k) :
    w.Took target i k ∨ event = .advance i ∧ ¬ taken k w.shared.store := by
  obtain ⟨operation, session, hoperation, hsession, hcommitted, htarget⟩ := htook
  cases event with
  | start started =>
    obtain ⟨hshared, hoperations⟩ := shared_of_stepLabelled hstep
    rcases w' with ⟨shared, operations⟩
    obtain rfl : operations = w.operations ++ [started] := hoperations
    cases hshared
    rw [List.getElem?_append] at hoperation hsession
    rw [h.lengths] at hoperation
    split_ifs at hoperation hsession with hold
    · exact .inl ⟨operation, session, hoperation, hsession, hcommitted, htarget⟩
    · rw [List.mem_singleton.mp (List.mem_of_getElem? hsession)] at hcommitted
      cases hcommitted
  | advance j =>
    obtain ⟨before, after, hj, hadvanced, hsessions, hoperations⟩ := advance_of_stepLabelled hstep
    rw [hoperations] at hoperation
    rw [hsessions] at hsession
    by_cases hij : i = j
    · subst hij
      cases (List.getElem?_set_self (List.getElem?_eq_some_iff.mp hj).1).symm.trans hsession
      cases hbefore : before.committed with
      | true => exact .inl ⟨operation, before, hoperation, hj, hbefore, htarget⟩
      | false =>
        exact .inr ⟨rfl, hfree operation before _ session _ k h.store
          (h.sessions i operation before hoperation hj) (hfine i operation before rfl hoperation hj)
          hadvanced hbefore hcommitted htarget⟩
    · rw [List.getElem?_set_ne (Ne.symm hij)] at hsession
      exact .inl ⟨operation, session, hoperation, hsession, hcommitted, htarget⟩
  | locked j e =>
    obtain ⟨before, after, hj, hlockedAfter, hshared, hoperations⟩ := locked_of_stepLabelled hstep
    rw [hoperations] at hoperation
    rw [hshared, Shared.update] at hsession
    by_cases hij : i = j
    · subst hij
      cases (List.getElem?_set_self (List.getElem?_eq_some_iff.mp hj).1).symm.trans hsession
      refine .inl ⟨operation, before, hoperation, hj, ?_, htarget⟩
      rcases before with ⟨result | next | ⟨change, next, raised⟩, committed⟩
      · cases hlockedAfter
      · cases hlockedAfter
      · cases hlockedAfter
        exact hcommitted
    · rw [List.getElem?_set_ne (Ne.symm hij)] at hsession
      exact .inl ⟨operation, session, hoperation, hsession, hcommitted, htarget⟩

include htaken hfree in
theorem takenOnce_step {event : SharedEvent ω ε} (h : w.Holds invariant holds)
    (hfine : MeetsAt fine w event) (hstep : stepLabelled program w event = some w')
    (honce : w.TakenOnce target) : w'.TakenOnce target := by
  intro i j k hi hj
  rcases took_of_step hfree h hfine hstep hi with hi | ⟨hievent, hifree⟩
  · rcases took_of_step hfree h hfine hstep hj with hj | ⟨-, hjfree⟩
    · exact honce i j k hi hj
    · exact absurd (taken_of_took htaken h hi) hjfree
  · rcases took_of_step hfree h hfine hstep hj with hj | ⟨hjevent, -⟩
    · exact absurd (taken_of_took htaken h hj) hifree
    · exact SharedEvent.advance.inj (hievent.symm.trans hjevent)

include hstart hadvance hlocked hstable htaken hfree in
/-- In a whole run of statements made by calls that are fine no target is taken twice. -/
theorem takenOnce_of_run {events : List (SharedEvent ω ε)} (h : w.Holds invariant holds)
    (honce : w.TakenOnce target) (hfine : EveryStep (stepLabelled program) (MeetsAt fine) w events)
    (hrun : runEvents (stepLabelled program) w events = some w') : w'.TakenOnce target := by
  induction events generalizing w with
  | nil =>
    cases hrun
    exact honce
  | cons event rest ih =>
    obtain ⟨u, hu, hrun⟩ := Option.bind_eq_some_iff.mp hrun
    have hheld := (holds_step hstart hadvance hlocked hstable h hfine.1 hu).2
    exact ih hheld (takenOnce_step htaken hfree h hfine.1 hu honce) (hfine.2 u hu) hrun

end

end N0te.Library
