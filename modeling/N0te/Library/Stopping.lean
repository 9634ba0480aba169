import N0te.Library.Connections

/-!
# Calls that stop

A call that is alone on its store may stop before any of its statements, as when its process is
killed, and its transactions may fail without an effect. `Goes` are the ways in which a call goes
then, and `Serves` those of calls one after another.

`Always` says of a call that each transaction changes the store as a relation says, and that the
call ends as a postcondition says, if it ends. `commits_of_goes` is the rule for one call and
`commits_of_serves` the one for many.
-/

set_option autoImplicit false
set_option relaxedAutoImplicit false

namespace N0te.Library

variable {σ ε α β ω : Type}

/-- The outcome of a call instead of its exception. -/
def Call.attempt (call : Call σ ε α) : Call σ ε (Except ε α) :=
  (Except.ok <$> call).rescue fun e ↦ pure (.error e)

/-! ### Ways to go -/

/-- How a call goes from a store on, with its result if it has one. -/
inductive Goes (fails : ε → Prop) : Call σ ε α → σ → Option (Except ε α) → σ → Prop
  /-- It stops. -/
  | stopped (call : Call σ ε α) (s : σ) : Goes fails call s none s
  /-- It has ended. -/
  | ended (result : Except ε α) (s : σ) : Goes fails (.ended result) s (some result) s
  /-- It reads. -/
  | read {next : σ → Call σ ε α} {s t : σ} {outcome : Option (Except ε α)}
      (h : Goes fails (next s) s outcome t) : Goes fails (.read next) s outcome t
  /-- Its transaction commits. -/
  | committed {change : σ → Except ε σ} {next : Call σ ε α} {raised : ε → Call σ ε α} {s t u : σ}
      {outcome : Option (Except ε α)} (hchange : change s = .ok u)
      (h : Goes fails next u outcome t) :
      Goes fails (.transact change next raised) s outcome t
  /-- Its transaction raises, or fails. -/
  | raised {change : σ → Except ε σ} {next : Call σ ε α} {raised : ε → Call σ ε α} {s t : σ} {e : ε}
      {outcome : Option (Except ε α)} (hraised : fails e ∨ change s = .error e)
      (h : Goes fails (raised e) s outcome t) :
      Goes fails (.transact change next raised) s outcome t

/-- How calls go one after another. -/
inductive Serves (fails : ε → Prop) (program : ω → Call σ ε α) : σ → List ω → σ → Prop
  /-- There is none. -/
  | none (s : σ) : Serves fails program s [] s
  /-- There is one, and more. -/
  | call {operation : ω} {operations : List ω} {s t u : σ} {outcome : Option (Except ε α)}
      (h : Goes fails (program operation) s outcome u)
      (hrest : Serves fails program u operations t) :
      Serves fails program s (operation :: operations) t

/-- A call may go as it does when nothing fails. -/
theorem goes_alone (fails : ε → Prop) (call : Call σ ε α) (s : σ) :
    Goes fails call s (some (call.alone s).1) (call.alone s).2 := by
  induction call generalizing s with
  | ended result => exact .ended result s
  | read next ih => exact .read (ih s s)
  | transact change next raised ih ihraised =>
    rw [Call.alone]
    cases hchange : change s with
    | error e => exact .raised (.inr hchange) (ihraised e s)
    | ok u => exact .committed hchange (ih u)

/-! ### What always holds -/

section

variable (fails : ε → Prop) (commits : σ → σ → Prop)

/-- From a store on, the transactions of a call change it as `commits` says, and the call ends as
the postcondition says. -/
def Always (post : Except ε α → σ → Prop) : Call σ ε α → σ → Prop
  | .ended result, s => post result s
  | .read next, s => Always post (next s) s
  | .transact change next raised, s =>
    (∀ e, fails e ∨ change s = .error e → Always post (raised e) s) ∧
      ∀ u, change s = .ok u → commits s u ∧ Always post next u

variable {fails commits} {post : Except ε α → σ → Prop} {s t : σ}

/-- However a call goes, its store changes as its transactions do. -/
theorem commits_of_goes {call : Call σ ε α} {outcome : Option (Except ε α)}
    (h : Always fails commits post call s) (hgoes : Goes fails call s outcome t) :
    Relation.ReflTransGen commits s t ∧ ∀ result ∈ outcome, post result t := by
  induction hgoes with
  | stopped call s => exact ⟨.refl, fun _ hnone ↦ by cases hnone⟩
  | ended result s =>
    refine ⟨.refl, fun other hother ↦ ?_⟩
    cases hother
    exact h
  | read _ ih => exact ih h
  | committed hchange _ ih =>
    obtain ⟨hcommit, hnext⟩ := h.2 _ hchange
    obtain ⟨hrest, hpost⟩ := ih hnext
    exact ⟨hrest.head hcommit, hpost⟩
  | raised hraised _ ih => exact ih (h.1 _ hraised)

/-- However calls go one after another, the store keeps an invariant and changes as their
transactions do. -/
theorem commits_of_serves {program : ω → Call σ ε α} {invariant : σ → Prop}
    (hprogram : ∀ operation s, invariant s →
      Always fails commits (fun _ _ ↦ True) (program operation) s)
    (hcommits : ∀ s t, invariant s → commits s t → invariant t) {operations : List ω}
    (hs : invariant s) (hserves : Serves fails program s operations t) :
    Relation.ReflTransGen commits s t ∧ invariant t := by
  have hkept : ∀ s t, invariant s → Relation.ReflTransGen commits s t → invariant t := by
    intro s t hs hcommit
    induction hcommit with
    | refl => exact hs
    | tail _ hlast ih => exact hcommits _ _ ih hlast
  induction hserves with
  | none s => exact ⟨.refl, hs⟩
  | call hgoes _ ih =>
    have hfirst := (commits_of_goes (hprogram _ _ hs) hgoes).1
    obtain ⟨hrest, ht⟩ := ih (hkept _ _ hs hfirst)
    exact ⟨hfirst.trans hrest, ht⟩

/-! ### Rules -/

/-- A weaker postcondition. -/
theorem Always.mono {weaker : Except ε α → σ → Prop} {call : Call σ ε α}
    (h : Always fails commits post call s) (hpost : ∀ r t, post r t → weaker r t) :
    Always fails commits weaker call s := by
  induction call generalizing s with
  | ended result => exact hpost _ _ h
  | read next ih => exact ih s h
  | transact change next raised ih ihraised =>
    exact ⟨fun e he ↦ ihraised e (h.1 e he), fun u hu ↦ ⟨(h.2 u hu).1, ih (h.2 u hu).2⟩⟩

/-- A call followed by another. -/
theorem always_bind {post : Except ε β → σ → Prop} {call : Call σ ε α} {k : α → Call σ ε β}
    (h : Always fails commits (fun r t ↦
      match r with
      | .ok a => Always fails commits post (k a) t
      | .error e => post (.error e) t) call s) :
    Always fails commits post (call >>= k) s := by
  induction call generalizing s with
  | ended result =>
    cases result with
    | error e => exact h
    | ok a => exact h
  | read next ih => exact ih s h
  | transact change next raised ih ihraised =>
    exact ⟨fun e he ↦ ihraised e (h.1 e he), fun u hu ↦ ⟨(h.2 u hu).1, ih (h.2 u hu).2⟩⟩

/-- A call whose exceptions are caught. -/
theorem always_rescue {call : Call σ ε α} {handler : ε → Call σ ε α}
    (h : Always fails commits (fun r t ↦
      match r with
      | .ok a => post (.ok a) t
      | .error e => Always fails commits post (handler e) t) call s) :
    Always fails commits post (call.rescue handler) s := by
  induction call generalizing s with
  | ended result =>
    cases result with
    | error e => exact h
    | ok a => exact h
  | read next ih => exact ih s h
  | transact change next raised ih ihraised =>
    exact ⟨fun e he ↦ ihraised e (h.1 e he), fun u hu ↦ ⟨(h.2 u hu).1, ih (h.2 u hu).2⟩⟩

/-- A call whose outcome is taken, and what follows. -/
theorem always_attempt {post : Except ε β → σ → Prop} {call : Call σ ε α}
    {k : Except ε α → Call σ ε β}
    (h : Always fails commits (fun r t ↦ Always fails commits post (k r) t) call s) :
    Always fails commits post (call.attempt >>= k) s := by
  refine always_bind (always_rescue (always_bind (h.mono fun r t hpost ↦ ?_)))
  cases r with
  | error e => exact hpost
  | ok a => exact hpost

/-- A read followed by a call. -/
theorem always_ask {f : σ → Except ε α} {post : Except ε β → σ → Prop} {k : α → Call σ ε β}
    (hraised : ∀ e, f s = .error e → post (.error e) s)
    (h : ∀ a, f s = .ok a → Always fails commits post (k a) s) :
    Always fails commits post (Call.ask f >>= k) s := by
  show Always fails commits post (Call.bind (.ended (f s)) k) s
  cases hresult : f s with
  | error e => exact hraised e hresult
  | ok a => exact h a hresult

/-- A computation followed by a call. -/
theorem always_fromExcept {r : Except ε α} {post : Except ε β → σ → Prop} {k : α → Call σ ε β}
    (hraised : ∀ e, r = .error e → post (.error e) s)
    (h : ∀ a, r = .ok a → Always fails commits post (k a) s) :
    Always fails commits post (Call.fromExcept r >>= k) s := by
  cases r with
  | error e => exact hraised e rfl
  | ok a => exact h a rfl

end

end N0te.Library
