import N0te.Library.Connections

/-!
# Calls that must not be disturbed

A call reads, checks, and then writes what it concluded. Whether the conclusion still holds when it
writes depends on what the other connections commit in between. `KeepsUnder` is `Keeps` for a call that
relies on their commits: while it waits to read they change the store as `relyRead` says, and while it
waits to write as `relyWrite` says, until it has committed itself.

`Labelled` is a shared store that knows the operation of every call, and `Undisturbed` says of an event
that what it commits keeps to what the waiting calls of the others rely on. `keptUnder_of_run` is the
rule for whole runs of such events.
-/

set_option autoImplicit false
set_option relaxedAutoImplicit false

namespace N0te.Library

variable {σ ε α β ω : Type}

/-! ### Guarantees of a call that relies on the others -/

section

variable (invariant : σ → Prop) (commits relyRead relyWrite : σ → σ → Prop)

/-- What the others may commit while a call waits for a statement that relies on something. -/
def Allowed (rely : σ → σ → Prop) (committed : Bool) (s t : σ) : Prop :=
  commits s t ∧ (committed = false → rely s t)

/-- From a store on, whatever the others commit that the call relies on, the transactions of a call
keep the invariant and change the store as `commits` says, and the call ends as the postcondition
says. -/
def KeepsUnder (post : Bool → Except ε α → σ → Prop) : Bool → Call σ ε α → σ → Prop
  | committed, .ended result, s => post committed result s
  | committed, .read next, s => ∀ t,
    Relation.ReflTransGen (Allowed commits relyRead committed) s t → invariant t →
      KeepsUnder post committed (next t) t
  | committed, .transact change next raised, s => ∀ t,
    Relation.ReflTransGen (Allowed commits relyWrite committed) s t → invariant t →
      (∀ e, KeepsUnder post committed (raised e) t) ∧
        ∀ u, change t = .ok u → commits t u ∧ invariant u ∧ KeepsUnder post true next u

variable {invariant commits relyRead relyWrite} {post : Bool → Except ε α → σ → Prop}
  {committed : Bool} {s t : σ}

theorem commits_of_allowed {rely : σ → σ → Prop}
    (h : Relation.ReflTransGen (Allowed commits rely committed) s t) :
    Relation.ReflTransGen commits s t := by
  induction h with
  | refl => exact .refl
  | tail _ hlast ih => exact ih.tail hlast.1

/-- What each commit keeps that a call relies on, all of them keep. -/
theorem kept_of_allowed {rely : σ → σ → Prop} (holds : σ → Prop)
    (hkeep : ∀ a b, rely a b → holds a → holds b)
    (h : Relation.ReflTransGen (Allowed commits rely false) s t) (hs : holds s) : holds t := by
  induction h with
  | refl => exact hs
  | tail _ hlast ih => exact hkeep _ _ (hlast.2 rfl) ih

/-- A call that keeps its guarantees whatever the others commit. -/
theorem Keeps.under {call : Call σ ε α} (h : Keeps invariant commits post committed call s) :
    KeepsUnder invariant commits relyRead relyWrite post committed call s := by
  induction call generalizing committed s with
  | ended result => exact h
  | read next ih => exact fun t hrely ht ↦ ih t (h t (commits_of_allowed hrely) ht)
  | transact change next raised ih ihraised =>
    intro t hrely ht
    obtain ⟨hraised, hchanged⟩ := h t (commits_of_allowed hrely) ht
    refine ⟨fun e ↦ ihraised e (hraised e), fun u hu ↦ ?_⟩
    obtain ⟨hcommit, hinvariant, hnext⟩ := hchanged u hu
    exact ⟨hcommit, hinvariant, ih hnext⟩

/-- A call whose transactions keep the invariant whatever was read. -/
theorem Preserves.under {call : Call σ ε α} (h : Preserves invariant commits call) :
    KeepsUnder invariant commits relyRead relyWrite (fun _ _ _ ↦ True) committed call s :=
  (h.keeps committed s).under

/-- A weaker postcondition. -/
theorem KeepsUnder.mono {weaker : Bool → Except ε α → σ → Prop} {call : Call σ ε α}
    (h : KeepsUnder invariant commits relyRead relyWrite post committed call s)
    (hpost : ∀ c r s, post c r s → weaker c r s) :
    KeepsUnder invariant commits relyRead relyWrite weaker committed call s := by
  induction call generalizing committed s with
  | ended result => exact hpost _ _ _ h
  | read next ih => exact fun t hrely ht ↦ ih t (h t hrely ht)
  | transact change next raised ih ihraised =>
    intro t hrely ht
    obtain ⟨hraised, hchanged⟩ := h t hrely ht
    refine ⟨fun e ↦ ihraised e (hraised e), fun u hu ↦ ?_⟩
    obtain ⟨hcommit, hinvariant, hnext⟩ := hchanged u hu
    exact ⟨hcommit, hinvariant, ih hnext⟩

/-- A call followed by another. -/
theorem keepsUnder_bind {post : Bool → Except ε β → σ → Prop} {call : Call σ ε α}
    {k : α → Call σ ε β} (h : KeepsUnder invariant commits relyRead relyWrite (fun c r t ↦
      match r with
      | .ok a => KeepsUnder invariant commits relyRead relyWrite post c (k a) t
      | .error e => post c (.error e) t) committed call s) :
    KeepsUnder invariant commits relyRead relyWrite post committed (call >>= k) s := by
  induction call generalizing committed s with
  | ended result =>
    cases result with
    | error e => exact h
    | ok a => exact h
  | read next ih => exact fun t hrely ht ↦ ih t (h t hrely ht)
  | transact change next raised ih ihraised =>
    intro t hrely ht
    obtain ⟨hraised, hchanged⟩ := h t hrely ht
    refine ⟨fun e ↦ ihraised e (hraised e), fun u hu ↦ ?_⟩
    obtain ⟨hcommit, hinvariant, hnext⟩ := hchanged u hu
    exact ⟨hcommit, hinvariant, ih hnext⟩

/-- A call whose exceptions are caught. -/
theorem keepsUnder_rescue {call : Call σ ε α} {handler : ε → Call σ ε α}
    (h : KeepsUnder invariant commits relyRead relyWrite (fun c r t ↦
      match r with
      | .ok a => post c (.ok a) t
      | .error e => KeepsUnder invariant commits relyRead relyWrite post c (handler e) t)
      committed call s) :
    KeepsUnder invariant commits relyRead relyWrite post committed (call.rescue handler) s := by
  induction call generalizing committed s with
  | ended result =>
    cases result with
    | error e => exact h
    | ok a => exact h
  | read next ih => exact fun t hrely ht ↦ ih t (h t hrely ht)
  | transact change next raised ih ihraised =>
    intro t hrely ht
    obtain ⟨hraised, hchanged⟩ := h t hrely ht
    refine ⟨fun e ↦ ihraised e (hraised e), fun u hu ↦ ?_⟩
    obtain ⟨hcommit, hinvariant, hnext⟩ := hchanged u hu
    exact ⟨hcommit, hinvariant, ih hnext⟩

/-- A call whose result is mapped. -/
theorem KeepsUnder.map {post : Bool → Except ε β → σ → Prop} {call : Call σ ε α} (f : α → β)
    (h : KeepsUnder invariant commits relyRead relyWrite (fun c r t ↦ post c (r.map f) t) committed
      call s) :
    KeepsUnder invariant commits relyRead relyWrite post committed (f <$> call) s := by
  refine keepsUnder_bind (h.mono fun c r t hpost ↦ ?_)
  cases r with
  | error e => exact hpost
  | ok a => exact hpost

/-- A call whose exceptions are translated, when nothing is promised of those. -/
theorem KeepsUnder.mapError {ε' : Type} {f : ε → ε'} {back : ε' → Option ε} {call : Call σ ε α}
    {post : Bool → Except ε' α → σ → Prop} (hraised : ∀ c e t, post c (.error e) t)
    (h : KeepsUnder invariant commits relyRead relyWrite (fun c r t ↦ post c (r.mapError f) t)
      committed call s) :
    KeepsUnder invariant commits relyRead relyWrite post committed (call.mapError f back) s := by
  induction call generalizing committed s with
  | ended result => exact h
  | read next ih => exact fun t hrely ht ↦ ih t (h t hrely ht)
  | transact change next raised ih ihraised =>
    rw [Call.mapError]
    intro t hrely ht
    obtain ⟨hthrown, hchanged⟩ := h t hrely ht
    refine ⟨fun e ↦ ?_, fun u hu ↦ ?_⟩
    · dsimp only
      cases back e with
      | some known => exact ihraised known (hthrown known)
      | none => exact hraised _ _ _
    · have hsame : change t = .ok u := by
        dsimp only at hu
        rcases hresult : change t with e | v
        · rw [hresult] at hu
          cases hu
        · rw [hresult] at hu
          cases hu
          rfl
      obtain ⟨hcommit, hinvariant, hnext⟩ := hchanged u hsame
      exact ⟨hcommit, hinvariant, ih hnext⟩

/-- A call that ends here. -/
theorem keepsUnder_pure {a : α} (hpost : post committed (.ok a) s) :
    KeepsUnder invariant commits relyRead relyWrite post committed (pure a) s := hpost

/-- A read followed by a call. -/
theorem keepsUnder_select {f : σ → α} {post : Bool → Except ε β → σ → Prop} {k : α → Call σ ε β}
    (h : ∀ t, Relation.ReflTransGen (Allowed commits relyRead committed) s t → invariant t →
      KeepsUnder invariant commits relyRead relyWrite post committed (k (f t)) t) :
    KeepsUnder invariant commits relyRead relyWrite post committed (Call.select f >>= k) s := h

/-- A read that may raise, followed by a call. -/
theorem keepsUnder_ask {f : σ → Except ε α} {post : Bool → Except ε β → σ → Prop}
    {k : α → Call σ ε β} (hraised : ∀ e t, post committed (.error e) t)
    (h : ∀ a t, Relation.ReflTransGen (Allowed commits relyRead committed) s t → invariant t →
      f t = .ok a → KeepsUnder invariant commits relyRead relyWrite post committed (k a) t) :
    KeepsUnder invariant commits relyRead relyWrite post committed (Call.ask f >>= k) s := by
  intro t hrely ht
  rcases hresult : f t with e | a
  · simp only [hresult]
    exact hraised e t
  · simp only [hresult]
    exact h a t hrely ht hresult

/-- A read that may raise, with which a call ends. -/
theorem keepsUnder_asked {f : σ → Except ε α}
    (hpost : ∀ t, Relation.ReflTransGen (Allowed commits relyRead committed) s t → invariant t →
      post committed (f t) t) :
    KeepsUnder invariant commits relyRead relyWrite post committed (Call.ask f) s := hpost

/-- A call without transactions, of which nothing is promised. -/
theorem Reads.keepsUnder {call : Call σ ε α} (h : Reads call) (hpost : ∀ c r t, post c r t) :
    KeepsUnder invariant commits relyRead relyWrite post committed call s := by
  induction h generalizing s with
  | ended result => exact hpost _ _ _
  | read _ ih => exact fun t _ _ ↦ ih t

/-- A computation followed by a call. -/
theorem keepsUnder_fromExcept {r : Except ε α} {post : Bool → Except ε β → σ → Prop}
    {k : α → Call σ ε β} (herror : ∀ e, r = .error e → post committed (.error e) s)
    (hok : ∀ a, r = .ok a →
      KeepsUnder invariant commits relyRead relyWrite post committed (k a) s) :
    KeepsUnder invariant commits relyRead relyWrite post committed (Call.fromExcept r >>= k) s := by
  cases r with
  | error e => exact herror e rfl
  | ok a => exact hok a rfl

/-- A computation with which a call ends. -/
theorem keepsUnder_result {r : Except ε α} (herror : ∀ e, r = .error e → post committed (.error e) s)
    (hok : ∀ a, r = .ok a → post committed (.ok a) s) :
    KeepsUnder invariant commits relyRead relyWrite post committed (Call.fromExcept r) s := by
  cases r with
  | error e => exact herror e rfl
  | ok a => exact hok a rfl

/-- A transaction followed by a call. -/
theorem keepsUnder_transaction {change : σ → Except ε σ} {post : Bool → Except ε β → σ → Prop}
    {k : Unit → Call σ ε β}
    (hraised : ∀ t, Relation.ReflTransGen (Allowed commits relyWrite committed) s t → invariant t →
      ∀ e, post committed (.error e) t)
    (hchanged : ∀ t u, Relation.ReflTransGen (Allowed commits relyWrite committed) s t →
      invariant t → change t = .ok u → commits t u ∧ invariant u ∧
        KeepsUnder invariant commits relyRead relyWrite post true (k ⟨⟩) u) :
    KeepsUnder invariant commits relyRead relyWrite post committed (Call.transaction change >>= k) s :=
  fun t hrely ht ↦ ⟨hraised t hrely ht, fun u hu ↦ hchanged t u hrely ht hu⟩

end

/-! ### Runs of calls that are known -/

/-- A shared store and the operations of its calls. -/
structure Labelled (ω σ ε α : Type) where
  /-- The store and the calls. -/
  shared : Shared σ ε α
  operations : List ω

/-- What a call has returned. -/
def Labelled.returned (w : Labelled ω σ ε α) (j : ℕ) : Option α :=
  w.shared.sessions[j]?.bind fun session ↦
    match session.call with
    | .ended (.ok a) => some a
    | _ => none

/-- The operation that an event starts. -/
def SharedEvent.started : SharedEvent ω ε → List ω
  | .start operation => [operation]
  | _ => []

/-- What an event does, if it can happen. -/
def stepLabelled (program : ω → Call σ ε α) (w : Labelled ω σ ε α) (event : SharedEvent ω ε) :
    Option (Labelled ω σ ε α) :=
  (stepShared program w.shared event).map fun shared ↦ ⟨shared, w.operations ++ event.started⟩

section

variable {program : ω → Call σ ε α} {w w' : Labelled ω σ ε α}

theorem shared_of_stepLabelled {event : SharedEvent ω ε}
    (hstep : stepLabelled program w event = some w') :
    stepShared program w.shared event = some w'.shared ∧
      w'.operations = w.operations ++ event.started := by
  obtain ⟨shared, hshared, rfl⟩ := Option.map_eq_some_iff.mp hstep
  exact ⟨hshared, rfl⟩

/-- A run of calls that are known is a run. -/
theorem shared_of_runLabelled {events : List (SharedEvent ω ε)}
    (hrun : runEvents (stepLabelled program) w events = some w') :
    runEvents (stepShared program) w.shared events = some w'.shared := by
  induction events generalizing w with
  | nil =>
    cases hrun
    rfl
  | cons event rest ih =>
    obtain ⟨u, hu, hrun⟩ := Option.bind_eq_some_iff.mp hrun
    exact Option.bind_eq_some_iff.mpr ⟨u.shared, (shared_of_stepLabelled hu).1, ih hrun⟩

end

/-- The operations are those that were started, in their order. -/
theorem operations_of_runLabelled {program : ω → Call σ ε α} {w w' : Labelled ω σ ε α}
    {events : List (SharedEvent ω ε)}
    (hrun : runEvents (stepLabelled program) w events = some w') :
    w'.operations = w.operations ++ events.flatMap SharedEvent.started := by
  induction events generalizing w with
  | nil =>
    cases hrun
    simp
  | cons event rest ih =>
    obtain ⟨u, hu, hrun⟩ := Option.bind_eq_some_iff.mp hrun
    rw [ih hrun, (shared_of_stepLabelled hu).2, List.append_assoc, List.flatMap_cons]

/-! ### Disturbance -/

section

variable (relyRead relyWrite : ω → σ → σ → Prop)

/-- A change of the store is one that a call of an operation relies on, if it waits. -/
def Session.Undisturbed (session : Session σ ε α) (operation : ω) (s t : σ) : Prop :=
  session.committed = false →
    match session.call with
    | .ended _ => True
    | .read _ => relyRead operation s t
    | .transact _ _ _ => relyWrite operation s t

/-- What an event commits keeps to what the waiting calls of the others rely on. -/
def Undisturbed (program : ω → Call σ ε α) (w : Labelled ω σ ε α) (event : SharedEvent ω ε) : Prop :=
  ∀ w' i, stepLabelled program w event = some w' → event = .advance i →
    ∀ j operation session, j ≠ i → w.operations[j]? = some operation →
      w.shared.sessions[j]? = some session →
        session.Undisturbed relyRead relyWrite operation w.shared.store w'.shared.store

/-- Nothing is left of a call. -/
def Session.isEnded (session : Session σ ε α) : Bool :=
  match session.call with
  | .ended _ => true
  | _ => false

/-- When a call makes a statement the others have ended. -/
def soloStep (w : Labelled ω σ ε α) (event : SharedEvent ω ε) : Bool :=
  match event with
  | .advance i => (w.shared.sessions.take i).all Session.isEnded &&
    (w.shared.sessions.drop (i + 1)).all Session.isEnded
  | _ => true

variable {relyRead relyWrite} in
/-- A call that makes its statements alone disturbs nobody. -/
theorem undisturbed_of_solo {program : ω → Call σ ε α} {w : Labelled ω σ ε α}
    {event : SharedEvent ω ε} (h : soloStep w event = true) :
    Undisturbed relyRead relyWrite program w event := by
  rintro w' i - rfl j operation session hj - hsession
  rw [soloStep, Bool.and_eq_true, List.all_eq_true, List.all_eq_true] at h
  have hended : session.isEnded = true := by
    rcases Nat.lt_or_gt_of_ne hj with hlt | hgt
    · refine h.1 session (List.mem_of_getElem? (i := j) ?_)
      rw [List.getElem?_take_of_lt hlt]
      exact hsession
    · refine h.2 session (List.mem_of_getElem? (i := j - (i + 1)) ?_)
      rw [List.getElem?_drop, Nat.add_sub_cancel' hgt]
      exact hsession
  intro _
  rcases session with ⟨result | next | ⟨change, next, raised⟩, committed⟩
  · trivial
  · cases hended
  · cases hended

/-- Calls that rely on nothing are not disturbed. -/
theorem everyStep_undisturbed (program : ω → Call σ ε α) (w : Labelled ω σ ε α)
    (events : List (SharedEvent ω ε)) : EveryStep (stepLabelled program)
      (Undisturbed (fun _ _ _ ↦ True) (fun _ _ _ ↦ True) program) w events := by
  have hnone : ∀ (w : Labelled ω σ ε α) event, True →
      Undisturbed (fun _ _ _ ↦ True) (fun _ _ _ ↦ True) program w event := by
    intro w event _ w' i _ _ j operation session _ _ _ _
    rcases session with ⟨result | next | ⟨change, next, raised⟩, committed⟩ <;> trivial
  exact everyStep_of_invariant (fun _ _ _ _ _ ↦ trivial) hnone trivial events

variable (invariant : σ → Prop) (commits : σ → σ → Prop)
  (post : ω → Bool → Except ε α → σ → Prop)

/-- A call keeps what it guarantees when the others have changed the store as it relies on. -/
def Session.KeptUnder (operation : ω) (store : σ) (session : Session σ ε α) : Prop :=
  ∃ s, Relation.ReflTransGen (fun a b ↦ commits a b ∧
      session.Undisturbed relyRead relyWrite operation a b) s store ∧
    KeepsUnder invariant commits (relyRead operation) (relyWrite operation) (post operation)
      session.committed session.call s

/-- The store meets the invariant, and every call on it keeps what it guarantees. -/
structure Labelled.KeptUnder (w : Labelled ω σ ε α) : Prop where
  store : invariant w.shared.store
  /-- Every call is known. -/
  lengths : w.operations.length = w.shared.sessions.length
  /-- The calls. -/
  sessions : ∀ (j : ℕ) operation session, w.operations[j]? = some operation →
    w.shared.sessions[j]? = some session →
      Session.KeptUnder relyRead relyWrite invariant commits post operation w.shared.store session

variable {relyRead relyWrite invariant commits post}

/-- A store that no call was made on. -/
theorem keptUnder_new {s : σ} (hs : invariant s) :
    (⟨⟨s, []⟩, []⟩ : Labelled ω σ ε α).KeptUnder relyRead relyWrite invariant commits post := by
  refine ⟨hs, rfl, fun j operation session hoperation ↦ ?_⟩
  simp at hoperation

/-- A call that waits on the store as others have left it. -/
theorem Session.KeptUnder.statement {operation : ω} {store : σ} {session : Session σ ε α}
    (h : session.KeptUnder relyRead relyWrite invariant commits post operation store)
    (hstore : invariant store) :
    (∀ next, session.call = .read next → KeepsUnder invariant commits (relyRead operation)
      (relyWrite operation) (post operation) session.committed (next store) store) ∧
    ∀ change next raised, session.call = .transact change next raised →
      (∀ e, KeepsUnder invariant commits (relyRead operation) (relyWrite operation) (post operation)
        session.committed (raised e) store) ∧
      ∀ u, change store = .ok u → commits store u ∧ invariant u ∧
        KeepsUnder invariant commits (relyRead operation) (relyWrite operation) (post operation)
          true next u := by
  obtain ⟨s, hrely, hkeeps⟩ := h
  rcases session with ⟨result | next | ⟨change, next, raised⟩, committed⟩
  · exact ⟨nofun, nofun⟩
  · refine ⟨fun next' hnext ↦ ?_, nofun⟩
    cases hnext
    exact hkeeps store hrely hstore
  · refine ⟨nofun, fun change' next' raised' hcall ↦ ?_⟩
    cases hcall
    exact hkeeps store hrely hstore

/-- One statement of a call. -/
theorem Session.KeptUnder.advance {operation : ω} {session after : Session σ ε α} {store u : σ}
    (h : session.KeptUnder relyRead relyWrite invariant commits post operation store)
    (hstore : invariant store) (hadvance : session.advance store = some (after, u)) :
    Relation.ReflGen commits store u ∧ invariant u ∧
      after.KeptUnder relyRead relyWrite invariant commits post operation u := by
  obtain ⟨hread, htransact⟩ := h.statement hstore
  rcases session with ⟨result | next | ⟨change, next, raised⟩, committed⟩
  · cases hadvance
  · cases hadvance
    exact ⟨.refl, hstore, _, .refl, hread next rfl⟩
  · obtain ⟨hraised, hchanged⟩ := htransact change next raised rfl
    rcases hchange : change store with e | v
    · simp only [Session.advance, hchange, Option.some.injEq, Prod.mk.injEq] at hadvance
      obtain ⟨rfl, rfl⟩ := hadvance
      exact ⟨.refl, hstore, _, .refl, hraised e⟩
    · simp only [Session.advance, hchange, Option.some.injEq, Prod.mk.injEq] at hadvance
      obtain ⟨rfl, rfl⟩ := hadvance
      obtain ⟨hcommit, hinvariant, hnext⟩ := hchanged _ hchange
      exact ⟨.single hcommit, hinvariant, _, .refl, hnext⟩

/-- A commit of another that does not disturb the call. -/
theorem Session.KeptUnder.of_commit {operation : ω} {session : Session σ ε α} {store u : σ}
    (h : session.KeptUnder relyRead relyWrite invariant commits post operation store)
    (hcommit : Relation.ReflGen commits store u)
    (hundisturbed : session.Undisturbed relyRead relyWrite operation store u) :
    session.KeptUnder relyRead relyWrite invariant commits post operation u := by
  obtain ⟨s, hrely, hkeeps⟩ := h
  rcases (Relation.reflGen_iff _ _ _).mp hcommit with rfl | hcommit
  · exact ⟨s, hrely, hkeeps⟩
  · exact ⟨s, hrely.tail ⟨hcommit, hundisturbed⟩, hkeeps⟩

/-- What was promised of a call that has returned, on the store that it saw last. -/
theorem Labelled.KeptUnder.returned {w : Labelled ω σ ε α}
    (h : w.KeptUnder relyRead relyWrite invariant commits post) {j : ℕ} {operation : ω} {a : α}
    (hoperation : w.operations[j]? = some operation) (hreturned : w.returned j = some a) :
    ∃ s committed, Relation.ReflTransGen commits s w.shared.store ∧
      post operation committed (.ok a) s := by
  obtain ⟨session, hsession, hended⟩ := Option.bind_eq_some_iff.mp hreturned
  obtain ⟨s, hrely, hkeeps⟩ := h.sessions j operation _ hoperation hsession
  rcases session with ⟨(e | b) | next | ⟨change, next, raised⟩, committed⟩
  · cases hended
  · cases hended
    exact ⟨s, committed, Relation.ReflTransGen.mono (fun _ _ hcommit ↦ hcommit.1) _ _ hrely, hkeeps⟩
  · cases hended
  · cases hended

/-- A call is started on a store that it may be started on. -/
def StartsAs (starts : ω → σ → Prop) (w : Labelled ω σ ε α) (event : SharedEvent ω ε) : Prop :=
  ∀ operation, event = .start operation → starts operation w.shared.store

section

variable {program : ω → Call σ ε α} {starts : ω → σ → Prop}
  (hprogram : ∀ operation s, invariant s → starts operation s →
    KeepsUnder invariant commits (relyRead operation) (relyWrite operation) (post operation) false
      (program operation) s)

include hprogram

/-- One event that disturbs nobody, and starts calls as they may be started. -/
theorem keptUnder_step_of_start {w w' : Labelled ω σ ε α} {event : SharedEvent ω ε}
    (h : w.KeptUnder relyRead relyWrite invariant commits post)
    (hundisturbed : Undisturbed relyRead relyWrite program w event)
    (hstarts : StartsAs starts w event) (hstep : stepLabelled program w event = some w') :
    Relation.ReflGen commits w.shared.store w'.shared.store ∧
      w'.KeptUnder relyRead relyWrite invariant commits post := by
  obtain ⟨hshared, hoperations⟩ := shared_of_stepLabelled hstep
  rcases w' with ⟨shared, operations⟩
  obtain rfl : operations = w.operations ++ event.started := hoperations
  cases event with
  | start operation =>
    cases hshared
    refine ⟨.refl, h.store, by simp [SharedEvent.started, h.lengths], ?_⟩
    intro j op session hop hsession
    simp only [SharedEvent.started] at hop
    rcases Nat.lt_or_ge j w.shared.sessions.length with hold | hnew
    · rw [List.getElem?_append_left hold] at hsession
      rw [List.getElem?_append_left (h.lengths ▸ hold)] at hop
      exact h.sessions j op session hop hsession
    · rw [List.getElem?_append_right hnew] at hsession
      rw [List.getElem?_append_right (h.lengths ▸ hnew), h.lengths] at hop
      rcases Nat.eq_zero_or_pos (j - w.shared.sessions.length) with hzero | hpos
      · rw [hzero] at hsession hop
        cases hsession
        cases hop
        exact ⟨w.shared.store, .refl, hprogram operation _ h.store (hstarts operation rfl)⟩
      · rw [List.getElem?_eq_none (by simpa [Nat.succ_le_iff] using hpos)] at hsession
        cases hsession
  | advance i =>
    have hnone := hundisturbed _ i hstep rfl
    simp only [stepShared, Option.bind_eq_bind, Option.bind_eq_some_iff, Option.some.injEq,
      Prod.exists] at hshared
    obtain ⟨session, hi, after, store, hadvance, rfl⟩ := hshared
    have hlt : i < w.shared.sessions.length := (List.getElem?_eq_some_iff.mp hi).1
    obtain ⟨operation, hoperation⟩ : ∃ operation, w.operations[i]? = some operation :=
      ⟨_, List.getElem?_eq_getElem (h.lengths ▸ hlt)⟩
    obtain ⟨hcommit, hinvariant, hkept⟩ :=
      (h.sessions i operation session hoperation hi).advance h.store hadvance
    refine ⟨hcommit, hinvariant, by simp [Shared.update, SharedEvent.started, h.lengths], ?_⟩
    intro j op other hop hother
    simp only [SharedEvent.started, List.append_nil] at hop
    by_cases hij : j = i
    · subst hij
      cases hoperation.symm.trans hop
      cases (List.getElem?_set_self hlt).symm.trans hother
      exact hkept
    · rw [Shared.update, List.getElem?_set_ne (Ne.symm hij)] at hother
      exact (h.sessions j op other hop hother).of_commit hcommit (hnone j op other hij hop hother)
  | locked i e =>
    simp only [stepShared, Option.bind_eq_bind, Option.bind_eq_some_iff, Option.some.injEq]
      at hshared
    obtain ⟨session, hi, after, hlocked, rfl⟩ := hshared
    have hlt : i < w.shared.sessions.length := (List.getElem?_eq_some_iff.mp hi).1
    refine ⟨.refl, h.store, by simp [Shared.update, SharedEvent.started, h.lengths], ?_⟩
    intro j op other hop hother
    simp only [SharedEvent.started, List.append_nil] at hop
    by_cases hij : j = i
    · subst hij
      cases (List.getElem?_set_self hlt).symm.trans hother
      obtain ⟨-, htransact⟩ := (h.sessions j op session hop hi).statement h.store
      rcases session with ⟨result | next | ⟨change, next, raised⟩, committed⟩
      · cases hlocked
      · cases hlocked
      · cases hlocked
        exact ⟨w.shared.store, .refl, (htransact change next raised rfl).1 e⟩
    · rw [Shared.update, List.getElem?_set_ne (Ne.symm hij)] at hother
      exact h.sessions j op other hop hother

/-- A whole run of events that disturb nobody, and start calls as they may be started. -/
theorem keptUnder_of_run_of_starts {w w' : Labelled ω σ ε α} {events : List (SharedEvent ω ε)}
    (h : w.KeptUnder relyRead relyWrite invariant commits post)
    (hundisturbed : EveryStep (stepLabelled program) (fun w event ↦
      Undisturbed relyRead relyWrite program w event ∧ StartsAs starts w event) w events)
    (hrun : runEvents (stepLabelled program) w events = some w') :
    Relation.ReflTransGen commits w.shared.store w'.shared.store ∧
      w'.KeptUnder relyRead relyWrite invariant commits post := by
  induction events generalizing w with
  | nil =>
    cases hrun
    exact ⟨.refl, h⟩
  | cons event rest ih =>
    obtain ⟨u, hu, hrun⟩ := Option.bind_eq_some_iff.mp hrun
    obtain ⟨hfirst, hkept⟩ :=
      keptUnder_step_of_start hprogram h hundisturbed.1.1 hundisturbed.1.2 hu
    obtain ⟨hrest, hkept⟩ := ih hkept (hundisturbed.2 u hu) hrun
    exact ⟨hfirst.to_reflTransGen.trans hrest, hkept⟩

/-- Every event of such a run commits at most once. -/
theorem everyStep_commits_of_starts {w : Labelled ω σ ε α} {events : List (SharedEvent ω ε)}
    (h : w.KeptUnder relyRead relyWrite invariant commits post)
    (hundisturbed : EveryStep (stepLabelled program) (fun w event ↦
      Undisturbed relyRead relyWrite program w event ∧ StartsAs starts w event) w events) :
    EveryStep (stepLabelled program) (fun w event ↦ ∀ w', stepLabelled program w event = some w' →
      Relation.ReflGen commits w.shared.store w'.shared.store) w events := by
  induction events generalizing w with
  | nil => trivial
  | cons event rest ih =>
    have hfirst : ∀ u, stepLabelled program w event = some u →
        Relation.ReflGen commits w.shared.store u.shared.store ∧
          u.KeptUnder relyRead relyWrite invariant commits post := fun u hu ↦
      keptUnder_step_of_start hprogram h hundisturbed.1.1 hundisturbed.1.2 hu
    exact ⟨fun u hu ↦ (hfirst u hu).1, fun u hu ↦ ih (hfirst u hu).2 (hundisturbed.2 u hu)⟩

end

variable {program : ω → Call σ ε α}
  (hprogram : ∀ operation s, invariant s → KeepsUnder invariant commits (relyRead operation)
    (relyWrite operation) (post operation) false (program operation) s)

include hprogram

/-- A whole run of events that disturb nobody. -/
theorem keptUnder_of_run {w w' : Labelled ω σ ε α} {events : List (SharedEvent ω ε)}
    (h : w.KeptUnder relyRead relyWrite invariant commits post)
    (hundisturbed : EveryStep (stepLabelled program) (Undisturbed relyRead relyWrite program) w events)
    (hrun : runEvents (stepLabelled program) w events = some w') :
    Relation.ReflTransGen commits w.shared.store w'.shared.store ∧
      w'.KeptUnder relyRead relyWrite invariant commits post := by
  have hstarts : EveryStep (stepLabelled program) (fun w event ↦
      Undisturbed relyRead relyWrite program w event ∧ StartsAs (fun _ _ ↦ True) w event) w events :=
    hundisturbed.mono fun _ _ hevent ↦ ⟨hevent, fun _ _ ↦ trivial⟩
  exact keptUnder_of_run_of_starts (fun operation s hs _ ↦ hprogram operation s hs) h hstarts hrun

/-- Every event of such a run commits at most once. -/
theorem everyStep_commits {w : Labelled ω σ ε α} {events : List (SharedEvent ω ε)}
    (h : w.KeptUnder relyRead relyWrite invariant commits post)
    (hundisturbed : EveryStep (stepLabelled program) (Undisturbed relyRead relyWrite program) w
      events) :
    EveryStep (stepLabelled program) (fun w event ↦ ∀ w', stepLabelled program w event = some w' →
      Relation.ReflGen commits w.shared.store w'.shared.store) w events := by
  have hstarts : EveryStep (stepLabelled program) (fun w event ↦
      Undisturbed relyRead relyWrite program w event ∧ StartsAs (fun _ _ ↦ True) w event) w events :=
    hundisturbed.mono fun _ _ hevent ↦ ⟨hevent, fun _ _ ↦ trivial⟩
  exact everyStep_commits_of_starts (fun operation s hs _ ↦ hprogram operation s hs) h hstarts

end

-- The elaborator would run the calls.
attribute [irreducible] KeepsUnder

end N0te.Library
