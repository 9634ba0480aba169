import N0te.Library.Statements

/-!
# A call amid others

One call, with what the others do between its statements given: an `Environment` changes the store
before each statement, and can make a transaction raise because the store is locked. `Call.amid`
runs the call and lists its own commits.

A call on a part of the store that the others leave alone runs as if there were no others
(`amid_within`), so what it does is found by the rules for `Outcomes`, in which the store changes
only by its own transactions.
-/

set_option autoImplicit false
set_option relaxedAutoImplicit false

namespace N0te.Library

variable {σ τ ε α β : Type}

/-- What others do before each statement of a call. -/
structure Environment (σ ε : Type) where
  /-- They change the store. -/
  step : ℕ → σ → σ
  /-- They hold the lock, so that a transaction raises. -/
  busy : ℕ → Option ε

/-- How a call went: what it returned or raised, the store at its last statement, and its commits
with the stores before and after. -/
structure Outcome (σ ε α : Type) where
  result : Except ε α
  store : σ
  commits : List (σ × σ)

/-- Some commits before. -/
def Outcome.after (commits : List (σ × σ)) (outcome : Outcome σ ε α) : Outcome σ ε α :=
  { outcome with commits := commits ++ outcome.commits }

/-- A call from its `n`th statement on. -/
def Call.amid (env : Environment σ ε) : ℕ → Call σ ε α → σ → Outcome σ ε α
  | _, .ended result, s => ⟨result, s, []⟩
  | n, .read next, s => (next (env.step n s)).amid env (n + 1) (env.step n s)
  | n, .transact change next raised, s =>
    match env.busy n with
    | some e => (raised e).amid env (n + 1) (env.step n s)
    | none =>
      match change (env.step n s) with
      | .ok t => (next.amid env (n + 1) t).after [(env.step n s, t)]
      | .error e => (raised e).amid env (n + 1) (env.step n s)

/-- An environment that changes nothing. -/
def Environment.still (busy : ℕ → Option ε) : Environment σ ε := ⟨fun _ s ↦ s, busy⟩

theorem after_nil (outcome : Outcome σ ε α) : outcome.after [] = outcome := rfl

/-- One call after another. -/
theorem amid_bind (env : Environment σ ε) (call : Call σ ε α) (k : α → Call σ ε β) (n : ℕ) (s : σ) :
    ∃ m, (call >>= k).amid env n s =
      match (call.amid env n s).result with
      | .ok a => ((k a).amid env m (call.amid env n s).store).after (call.amid env n s).commits
      | .error e => ⟨.error e, (call.amid env n s).store, (call.amid env n s).commits⟩ := by
  induction call generalizing n s with
  | ended result =>
    refine ⟨n, ?_⟩
    cases result with
    | error e => rfl
    | ok a => exact (after_nil _).symm
  | read next ih => exact ih (env.step n s) (n + 1) (env.step n s)
  | transact change next raised ih ihraised =>
    simp only [Bind.bind, Call.bind, Call.amid]
    cases hbusy : env.busy n with
    | some e => exact ihraised e (n + 1) (env.step n s)
    | none =>
      cases hchange : change (env.step n s) with
      | error e => exact ihraised e (n + 1) (env.step n s)
      | ok t =>
        obtain ⟨m, hm⟩ := ih (n + 1) t
        refine ⟨m, ?_⟩
        have hm : (next.bind k).amid env (n + 1) t = _ := hm
        dsimp only
        rw [hm]
        simp only [Outcome.after]
        cases (next.amid env (n + 1) t).result with
        | error e => rfl
        | ok a => simp only [List.append_assoc]

/-- What the others and the transactions of a call keep holds whenever it commits and at its end. -/
theorem amid_kept {guarantee : σ → σ → Prop} (holds : σ → Prop) {env : Environment σ ε} {n : ℕ}
    (henv : ∀ m, n ≤ m → ∀ s, holds s → holds (env.step m s))
    (hguarantee : ∀ s t, guarantee s t → holds s → holds t) {call : Call σ ε α}
    (h : Guarantees guarantee call) {s : σ} (hs : holds s) :
    holds (call.amid env n s).store ∧ ∀ commit ∈ (call.amid env n s).commits, holds commit.1 := by
  have hnext : ∀ m, n + 1 ≤ m → ∀ s, holds s → holds (env.step m s) :=
    fun m hm ↦ henv m (Nat.le_of_succ_le hm)
  induction h generalizing n s with
  | ended result => exact ⟨hs, List.forall_mem_nil _⟩
  | read _ ih =>
    exact ih _ hnext (henv n (Nat.le_refl n) s hs) fun m hm ↦ hnext m (Nat.le_of_succ_le hm)
  | @transact change next raised hchange _ _ ih ihraised =>
    have hstep := henv n (Nat.le_refl n) s hs
    have hrest : ∀ m, n + 1 + 1 ≤ m → ∀ s, holds s → holds (env.step m s) :=
      fun m hm ↦ hnext m (Nat.le_of_succ_le hm)
    rw [Call.amid]
    cases env.busy n with
    | some e => exact ihraised e hnext hstep hrest
    | none =>
      cases hresult : change (env.step n s) with
      | error e => exact ihraised e hnext hstep hrest
      | ok t =>
        obtain ⟨hstore, hcommits⟩ := ih hnext (hguarantee _ _ (hchange _ _ hresult) hstep) hrest
        exact ⟨hstore, List.forall_mem_cons.mpr ⟨hstep, hcommits⟩⟩

/-! ### A part of the store -/

section

variable {get : τ → σ} {put : τ → σ → τ}

theorem Reads.within {call : Call σ ε α} (h : Reads call) : Reads (call.within get put) := by
  induction h with
  | ended result => exact .ended _
  | read _ ih => exact .read fun t ↦ ih (get t)

/-- A call on a part of the store runs on it as if the others, who leave it alone, were not there.
-/
theorem amid_within (hget : ∀ t s, get (put t s) = s) {env : Environment τ ε}
    (henv : ∀ n t, get (env.step n t) = get t) (call : Call σ ε α) (n : ℕ) (t : τ) :
    ((call.within get put).amid env n t).result = (call.amid (.still env.busy) n (get t)).result ∧
    get ((call.within get put).amid env n t).store =
      (call.amid (.still env.busy) n (get t)).store ∧
    ((call.within get put).amid env n t).commits.map (Prod.map get get) =
      (call.amid (.still env.busy) n (get t)).commits := by
  induction call generalizing n t with
  | ended result => exact ⟨rfl, rfl, rfl⟩
  | read next ih =>
    have hnext := ih (get (env.step n t)) (n + 1) (env.step n t)
    rw [henv n t] at hnext
    simp only [Call.within, Call.amid, Environment.still]
    rw [henv n t]
    exact hnext
  | transact change next raised ih ihraised =>
    simp only [Call.within, Call.amid, Environment.still]
    rw [henv n t]
    cases hbusy : env.busy n with
    | some e =>
      have hraised := ihraised e (n + 1) (env.step n t)
      rw [henv n t] at hraised
      exact hraised
    | none =>
      cases hchange : change (get t) with
      | error e =>
        have hraised := ihraised e (n + 1) (env.step n t)
        rw [henv n t] at hraised
        exact hraised
      | ok s =>
        have hnext := ih (n + 1) (put (env.step n t) s)
        rw [hget] at hnext
        obtain ⟨hresult, hstore, hcommits⟩ := hnext
        refine ⟨hresult, hstore, ?_⟩
        show ([(env.step n t, put (env.step n t) s)] ++ _).map (Prod.map get get) =
          [(get t, s)] ++ _
        rw [List.map_append, hcommits, List.map_singleton, Prod.map_apply, henv n t, hget]
        rfl

end

/-! ### Rules -/

/-- However the store is locked, a call that nobody else disturbs ends so. -/
def Outcomes (s : σ) (call : Call σ ε α) (post : Outcome σ ε α → Prop) : Prop :=
  ∀ busy n, post (call.amid (.still busy) n s)

section

variable {s : σ} {post : Outcome σ ε β → Prop}

theorem outcomes_ended {result : Except ε α} {post : Outcome σ ε α → Prop}
    (h : post ⟨result, s, []⟩) : Outcomes s (.ended result) post := fun _ _ ↦ h

/-- A call without transactions commits nothing. -/
theorem Reads.amid_still {call : Call σ ε α} (h : Reads call) (busy : ℕ → Option ε) (n : ℕ) :
    call.amid (.still busy) n s = ⟨(call.alone s).1, s, []⟩ := by
  induction h generalizing n with
  | ended result => rfl
  | read _ ih => exact ih s (n + 1)

/-- A call without transactions. -/
theorem Reads.outcomes {call : Call σ ε β} (h : Reads call)
    (hpost : post ⟨(call.alone s).1, s, []⟩) : Outcomes s call post := by
  intro busy n
  rw [h.amid_still busy n]
  exact hpost

/-- A call without transactions, and then another. -/
theorem outcomes_reads_bind {call : Call σ ε α} {k : α → Call σ ε β} (h : Reads call)
    (hraised : ∀ e, (call.alone s).1 = .error e → post ⟨.error e, s, []⟩)
    (hk : ∀ a, (call.alone s).1 = .ok a → Outcomes s (k a) post) :
    Outcomes s (call >>= k) post := by
  intro busy n
  obtain ⟨m, hm⟩ := amid_bind (.still busy) call k n s
  rw [hm, h.amid_still busy n]
  cases hresult : (call.alone s).1 with
  | error e => exact hraised e hresult
  | ok a => exact hk a hresult busy m

/-- A transaction that nobody else disturbs: it commits, or what it raises is dealt with. -/
theorem outcomes_transact {change : σ → Except ε σ} {next : Call σ ε β} {raised : ε → Call σ ε β}
    (hraised : ∀ e, Outcomes s (raised e) post)
    (hnext : ∀ t, change s = .ok t → Outcomes t next fun outcome ↦ post (outcome.after [(s, t)])) :
    Outcomes s (.transact change next raised) post := by
  intro busy n
  rw [Call.amid]
  cases hbusy : (Environment.still (σ := σ) busy).busy n with
  | some e => exact hraised e busy (n + 1)
  | none =>
    show post (match change s with | .ok t => _ | .error e => _)
    cases hchange : change s with
    | error e => exact hraised e busy (n + 1)
    | ok t => exact hnext t hchange busy (n + 1)

/-- Two calls, the first by its own rule. -/
theorem Outcomes.bind {middle : Outcome σ ε α → Prop} {call : Call σ ε α} {k : α → Call σ ε β}
    (h : Outcomes s call middle)
    (hraised : ∀ e t commits, middle ⟨.error e, t, commits⟩ → post ⟨.error e, t, commits⟩)
    (hk : ∀ a t commits, middle ⟨.ok a, t, commits⟩ →
      Outcomes t (k a) fun outcome ↦ post (outcome.after commits)) :
    Outcomes s (call >>= k) post := by
  intro busy n
  obtain ⟨m, hm⟩ := amid_bind (.still busy) call k n s
  have hfirst := h busy n
  rcases hcall : call.amid (.still busy) n s with ⟨result, t, commits⟩
  rw [hcall] at hfirst hm
  rw [hm]
  cases result with
  | error e => exact hraised e t commits hfirst
  | ok a => exact hk a t commits hfirst busy m

end

/-! ### Translated exceptions -/

section

variable {ε' : Type} {f : ε → ε'} {back : ε' → Option ε}

theorem mapError_bind (call : Call σ ε α) (k : α → Call σ ε β) :
    (call >>= k).mapError f back = call.mapError f back >>= fun a ↦ (k a).mapError f back := by
  induction call with
  | ended result => cases result <;> rfl
  | read next ih =>
    show Call.read _ = Call.read _
    exact congrArg Call.read (funext ih)
  | transact change next raised ih ihraised =>
    simp only [Bind.bind, Call.bind, Call.mapError]
    refine congrArg₂ (Call.transact _) ih (funext fun e ↦ ?_)
    cases back e with
    | none => rfl
    | some known => exact ihraised known

theorem Reads.mapError {call : Call σ ε α} (h : Reads call) : Reads (call.mapError f back) := by
  induction h with
  | ended result => exact .ended _
  | read _ ih => exact .read ih

theorem Reads.alone_mapError {call : Call σ ε α} (h : Reads call) (s : σ) :
    ((call.mapError f back).alone s).1 = (call.alone s).1.mapError f := by
  induction h with
  | ended result => rfl
  | read _ ih => exact ih s

/-- A translated transaction, and then a call. -/
theorem outcomes_mapError_transaction_bind {s : σ} {post : Outcome σ ε' β → Prop}
    {change : σ → Except ε σ} {k : Unit → Call σ ε' β} (hraised : ∀ e, post ⟨.error e, s, []⟩)
    (hk : ∀ t, change s = .ok t → Outcomes t (k ⟨⟩) fun outcome ↦ post (outcome.after [(s, t)])) :
    Outcomes s ((Call.transaction change).mapError f back >>= k) post := by
  simp only [Call.transaction, Call.mapError, Bind.bind, Call.bind]
  refine outcomes_transact (fun e ↦ ?_) fun t ht ↦ ?_
  · cases back e with
    | none => exact outcomes_ended (hraised e)
    | some known => exact outcomes_ended (hraised (f known))
  · cases hchange : change s with
    | error e => simp [hchange, Except.mapError] at ht
    | ok u =>
      rw [hchange] at ht
      cases ht
      exact hk t hchange

end

end N0te.Library
