import Mathlib.Logic.Relation
import N0te.Library.Checking
import N0te.Library.Runs

/-!
# Calls on a shared store

A call is a sequence of statements on a store that other connections change meanwhile: a read sees the
store as it is at that moment, and a transaction changes it in one step or raises and changes nothing.
What is raised ends the call, or is caught (`Call.rescue`).
`Call` is the type of calls, and `stepShared` interleaves the statements of any number of them.

`Keeps` says of a call, whatever the other connections commit, that each of its transactions keeps an
invariant and changes the store as a relation `commits` says, and that it ends as a postcondition says.
`keeps_bind` takes a call apart, and `kept_of_run` is the rule for whole runs: the store keeps the
invariant, and every call that has ended meets its postcondition. The postcondition is told whether the
call committed anything; a call that did not left the store alone (`everyStep_leavesStore`).
-/

set_option autoImplicit false
set_option relaxedAutoImplicit false

namespace N0te.Library

variable {σ ε α β ω : Type}

/-! ### Calls -/

/-- What a call does next. -/
inductive Call (σ ε α : Type) where
  /-- It has returned or raised. -/
  | ended (result : Except ε α)
  /-- It reads the store. -/
  | read (next : σ → Call σ ε α)
  /-- It runs a transaction, and goes on after it or with what it raised. -/
  | transact (change : σ → Except ε σ) (next : Call σ ε α) (raised : ε → Call σ ε α)

namespace Call

/-- One call after another. -/
def bind : Call σ ε α → (α → Call σ ε β) → Call σ ε β
  | .ended (.ok a), k => k a
  | .ended (.error e), _ => .ended (.error e)
  | .read next, k => .read fun s ↦ (next s).bind k
  | .transact change next raised, k => .transact change (next.bind k) fun e ↦ (raised e).bind k

instance : Monad (Call σ ε) where
  pure a := .ended (.ok a)
  bind := bind

/-- Read something of the store. -/
def select (f : σ → α) : Call σ ε α := .read fun s ↦ .ended (.ok (f s))

/-- Read something of the store, or raise. -/
def ask (f : σ → Except ε α) : Call σ ε α := .read fun s ↦ .ended (f s)

/-- Go on with the result of a computation, or raise. -/
def fromExcept (r : Except ε α) : Call σ ε α := .ended r

/-- Run a transaction. -/
def transaction (change : σ → Except ε σ) : Call σ ε Unit :=
  .transact change (.ended (.ok ⟨⟩)) fun e ↦ .ended (.error e)

/-- Catch what a call raises. -/
def rescue : Call σ ε α → (ε → Call σ ε α) → Call σ ε α
  | .ended (.ok a), _ => .ended (.ok a)
  | .ended (.error e), handler => handler e
  | .read next, handler => .read fun s ↦ (next s).rescue handler
  | .transact change next raised, handler =>
    .transact change (next.rescue handler) fun e ↦ (raised e).rescue handler

/-- A call whose exceptions are translated. An exception that is no translated one is not caught. -/
def mapError {ε' : Type} (f : ε → ε') (back : ε' → Option ε) : Call σ ε α → Call σ ε' α
  | .ended result => .ended (result.mapError f)
  | .read next => .read fun s ↦ (next s).mapError f back
  | .transact change next raised => .transact (fun s ↦ (change s).mapError f) (next.mapError f back)
    fun e ↦
      match back e with
      | some known => (raised known).mapError f back
      | none => .ended (.error e)

/-- What a call returns or raises when nobody else changes the store, and the store after it. -/
def alone : Call σ ε α → σ → Except ε α × σ
  | .ended result, s => (result, s)
  | .read next, s => (next s).alone s
  | .transact change next raised, s =>
    match change s with
    | .ok t => next.alone t
    | .error e => (raised e).alone s

theorem alone_bind (call : Call σ ε α) (k : α → Call σ ε β) (s : σ) :
    (call >>= k).alone s =
      match call.alone s with
      | (.ok a, t) => (k a).alone t
      | (.error e, t) => (.error e, t) := by
  induction call generalizing s with
  | ended result => cases result <;> rfl
  | read next ih => exact ih s s
  | transact change next raised ih ihraised =>
    rcases hchange : change s with e | t
    · simp only [Bind.bind, Call.bind, alone, hchange]
      exact ihraised e s
    · simp only [Bind.bind, Call.bind, alone, hchange]
      exact ih t

theorem alone_rescue (call : Call σ ε α) (handler : ε → Call σ ε α) (s : σ) :
    (call.rescue handler).alone s =
      match call.alone s with
      | (.ok a, t) => (.ok a, t)
      | (.error e, t) => (handler e).alone t := by
  induction call generalizing s with
  | ended result => cases result <;> rfl
  | read next ih => exact ih s s
  | transact change next raised ih ihraised =>
    rcases hchange : change s with e | t
    · simp only [rescue, alone, hchange]
      exact ihraised e s
    · simp only [rescue, alone, hchange]
      exact ih t

@[simp] theorem alone_select_bind (f : σ → α) (k : α → Call σ ε β) (s : σ) :
    (select f >>= k).alone s = (k (f s)).alone s := rfl

@[simp] theorem alone_ask (f : σ → Except ε α) (s : σ) : (ask f).alone s = (f s, s) := rfl

theorem alone_ask_bind {f : σ → Except ε α} {a : α} {s : σ} (h : f s = .ok a)
    (k : α → Call σ ε β) : (ask f >>= k).alone s = (k a).alone s := by
  rw [alone_bind, alone_ask, h]

theorem alone_fromExcept_bind {r : Except ε α} {a : α} (h : r = .ok a) (k : α → Call σ ε β) (s : σ) :
    (fromExcept r >>= k).alone s = (k a).alone s := by
  rw [h]
  rfl

@[simp] theorem alone_pure (a : α) (s : σ) : (pure a : Call σ ε α).alone s = (.ok a, s) := rfl

theorem alone_map (call : Call σ ε α) (f : α → β) (s : σ) :
    (f <$> call).alone s = ((call.alone s).1.map f, (call.alone s).2) := by
  show (call >>= fun a ↦ pure (f a)).alone s = _
  rw [alone_bind]
  rcases call.alone s with ⟨e | a, t⟩ <;> rfl

@[simp] theorem alone_fromExcept (r : Except ε α) (s : σ) :
    (fromExcept r).alone s = (r, s) := rfl

end Call

/-! ### Connections -/

/-- A call in progress. -/
structure Session (σ ε α : Type) where
  call : Call σ ε α
  /-- Whether a transaction of it was committed. -/
  committed : Bool

/-- A store and the calls on it. -/
structure Shared (σ ε α : Type) where
  store : σ
  /-- The calls that were ever made. -/
  sessions : List (Session σ ε α)

/-- What can happen. -/
inductive SharedEvent (ω ε : Type) where
  /-- A call is made. -/
  | start (operation : ω)
  /-- A call makes its next statement. -/
  | advance (i : ℕ)
  /-- The next transaction of a call cannot be run, and raises. -/
  | locked (i : ℕ) (e : ε)

/-- Replace the store and a call. -/
def Shared.update (w : Shared σ ε α) (i : ℕ) (session : Session σ ε α) (store : σ) : Shared σ ε α :=
  ⟨store, w.sessions.set i session⟩

/-- A call after its next statement, and the store. -/
def Session.advance (session : Session σ ε α) (store : σ) : Option (Session σ ε α × σ) :=
  match session.call with
  | .ended _ => none
  | .read next => some (⟨next store, session.committed⟩, store)
  | .transact change next raised =>
    match change store with
    | .ok after => some (⟨next, true⟩, after)
    | .error e => some (⟨raised e, session.committed⟩, store)

/-- A call whose next transaction raises. -/
def Session.locked (session : Session σ ε α) (e : ε) : Option (Session σ ε α) :=
  match session.call with
  | .transact _ _ raised => some ⟨raised e, session.committed⟩
  | _ => none

/-- What an event does, if it can happen. -/
def stepShared (program : ω → Call σ ε α) (w : Shared σ ε α) :
    SharedEvent ω ε → Option (Shared σ ε α)
  | .start operation => some ⟨w.store, w.sessions ++ [⟨program operation, false⟩]⟩
  | .advance i => do
    let session ← w.sessions[i]?
    let (after, store) ← session.advance w.store
    some (w.update i after store)
  | .locked i e => do
    let session ← w.sessions[i]?
    let after ← session.locked e
    some (w.update i after w.store)

/-- A call that begins with a transaction is made and runs it. -/
theorem run_start_transact {program : ω → Call σ ε α} {operation : ω} {change : σ → Except ε σ}
    {next : Call σ ε α} {raised : ε → Call σ ε α} {s t : σ}
    (hcall : program operation = .transact change next raised)
    (hchange : change s = .ok t) :
    runEvents (stepShared program) ⟨s, []⟩ [.start operation, .advance 0] =
      some ⟨t, [⟨next, true⟩]⟩ := by
  simp [runEvents, stepShared, hcall, Session.advance, hchange, Shared.update]

/-! ### Guarantees -/

section

variable (invariant : σ → Prop) (commits : σ → σ → Prop)

/-- From a store on, whatever the other connections commit, the transactions of a call keep the
invariant and change the store as `commits` says, and the call ends as the postcondition says. -/
def Keeps (post : Bool → Except ε α → σ → Prop) : Bool → Call σ ε α → σ → Prop
  | committed, .ended result, s => post committed result s
  | committed, .read next, s => ∀ t, Relation.ReflTransGen commits s t → invariant t →
    Keeps post committed (next t) t
  | committed, .transact change next raised, s => ∀ t, Relation.ReflTransGen commits s t →
    invariant t → (∀ e, Keeps post committed (raised e) t) ∧
      ∀ u, change t = .ok u → commits t u ∧ invariant u ∧ Keeps post true next u

variable {invariant commits} {post : Bool → Except ε α → σ → Prop} {committed : Bool} {s t : σ}

/-- A weaker postcondition. -/
theorem Keeps.mono {weaker : Bool → Except ε α → σ → Prop} {call : Call σ ε α}
    (h : Keeps invariant commits post committed call s)
    (hpost : ∀ c r s, post c r s → weaker c r s) :
    Keeps invariant commits weaker committed call s := by
  induction call generalizing committed s with
  | ended result => exact hpost _ _ _ h
  | read next ih => exact fun t hrely ht ↦ ih t (h t hrely ht)
  | transact change next raised ih ihraised =>
    intro t hrely ht
    obtain ⟨hraised, hchanged⟩ := h t hrely ht
    refine ⟨fun e ↦ ihraised e (hraised e), fun u hu ↦ ?_⟩
    obtain ⟨hcommit, hinvariant, hnext⟩ := hchanged u hu
    exact ⟨hcommit, hinvariant, ih hnext⟩

/-- A call followed by another. -/
theorem keeps_bind {post : Bool → Except ε β → σ → Prop} {call : Call σ ε α}
    {k : α → Call σ ε β} (h : Keeps invariant commits (fun c r t ↦
      match r with
      | .ok a => Keeps invariant commits post c (k a) t
      | .error e => post c (.error e) t) committed call s) :
    Keeps invariant commits post committed (call >>= k) s := by
  induction call generalizing committed s with
  | ended result =>
    cases result with
    | error e => exact h
    | ok a => exact h
  | read next ih => exact fun t hrely ht ↦ ih t (h t hrely ht)
  | transact change next raised ih ihraised =>
    intro t hrely ht
    obtain ⟨hraised, hchanged⟩ := h t hrely ht
    refine ⟨fun e ↦ ihraised e (hraised e), fun u hu ↦ ?_⟩
    obtain ⟨hcommit, hinvariant, hnext⟩ := hchanged u hu
    exact ⟨hcommit, hinvariant, ih hnext⟩

/-- A read followed by a call. -/
theorem keeps_select {f : σ → α} {post : Bool → Except ε β → σ → Prop} {k : α → Call σ ε β}
    (h : ∀ t, Relation.ReflTransGen commits s t → invariant t →
      Keeps invariant commits post committed (k (f t)) t) :
    Keeps invariant commits post committed (Call.select f >>= k) s := h

/-- A computation followed by a call. -/
theorem keeps_fromExcept {r : Except ε α} {post : Bool → Except ε β → σ → Prop}
    {k : α → Call σ ε β} (herror : ∀ e, r = .error e → post committed (.error e) s)
    (hok : ∀ a, r = .ok a → Keeps invariant commits post committed (k a) s) :
    Keeps invariant commits post committed (Call.fromExcept r >>= k) s := by
  cases r with
  | error e => exact herror e rfl
  | ok a => exact hok a rfl

/-- A transaction followed by a call. -/
theorem keeps_transaction {change : σ → Except ε σ} {post : Bool → Except ε β → σ → Prop}
    {k : Unit → Call σ ε β}
    (hraised : ∀ t, Relation.ReflTransGen commits s t → invariant t →
      ∀ e, post committed (.error e) t)
    (hchanged : ∀ t u, Relation.ReflTransGen commits s t → invariant t → change t = .ok u →
      commits t u ∧ invariant u ∧ Keeps invariant commits post true (k ⟨⟩) u) :
    Keeps invariant commits post committed (Call.transaction change >>= k) s :=
  fun t hrely ht ↦ ⟨hraised t hrely ht, fun u hu ↦ hchanged t u hrely ht hu⟩

/-- A call without transactions. -/
inductive Reads : Call σ ε α → Prop
  /-- It has ended. -/
  | ended (result : Except ε α) : Reads (.ended result)
  /-- It reads, and goes on without transactions. -/
  | read {next : σ → Call σ ε α} (h : ∀ s, Reads (next s)) : Reads (.read next)

theorem reads_select (f : σ → α) : Reads (Call.select f : Call σ ε α) := .read fun _ ↦ .ended _

theorem reads_ask (f : σ → Except ε α) : Reads (Call.ask f) := .read fun _ ↦ .ended _

theorem reads_fromExcept (r : Except ε α) : Reads (Call.fromExcept r : Call σ ε α) := .ended r

theorem Reads.bind {call : Call σ ε α} {k : α → Call σ ε β} (h : Reads call)
    (hk : ∀ a, Reads (k a)) : Reads (call >>= k) := by
  induction h with
  | ended result =>
    cases result with
    | error e => exact .ended _
    | ok a => exact hk a
  | read _ ih => exact .read fun s ↦ ih s

/-- A call without transactions leaves the store alone. -/
theorem Reads.alone {call : Call σ ε α} (h : Reads call) (s : σ) : (call.alone s).2 = s := by
  induction h with
  | ended result => rfl
  | read _ ih => exact ih s

/-- A call without transactions followed by another. -/
theorem keeps_reads {call : Call σ ε α} {post : Bool → Except ε β → σ → Prop} {k : α → Call σ ε β}
    (h : Reads call) (hraised : ∀ e t, post committed (.error e) t)
    (hk : ∀ a t, Relation.ReflTransGen commits s t → Keeps invariant commits post committed (k a) t) :
    Keeps invariant commits post committed (call >>= k) s := by
  induction h generalizing s with
  | ended result =>
    cases result with
    | error e => exact hraised e s
    | ok a => exact hk a s .refl
  | read _ ih => exact fun t hrely _ ↦ ih t fun a u hu ↦ hk a u (hrely.trans hu)

/-- A call on a store keeps what it guarantees when other connections have changed the store. -/
def Session.Kept (invariant : σ → Prop) (commits : σ → σ → Prop)
    (post : Bool → Except ε α → σ → Prop) (store : σ) (session : Session σ ε α) : Prop :=
  ∃ s, Relation.ReflTransGen commits s store ∧
    Keeps invariant commits post session.committed session.call s

/-- The store meets the invariant, and every call on it keeps what it guarantees. -/
structure Shared.Kept (invariant : σ → Prop) (commits : σ → σ → Prop)
    (post : Bool → Except ε α → σ → Prop) (w : Shared σ ε α) : Prop where
  store : invariant w.store
  /-- The calls. -/
  sessions : ∀ session ∈ w.sessions, session.Kept invariant commits post w.store

/-- One statement of a call. -/
theorem Session.Kept.advance {session after : Session σ ε α} {store u : σ}
    (h : session.Kept invariant commits post store) (hstore : invariant store)
    (hadvance : session.advance store = some (after, u)) :
    Relation.ReflGen commits store u ∧ invariant u ∧ after.Kept invariant commits post u := by
  obtain ⟨s, hrely, hkeeps⟩ := h
  rcases session with ⟨result | next | ⟨change, next, raised⟩, committed⟩
  · cases hadvance
  · cases hadvance
    exact ⟨.refl, hstore, _, .refl, hkeeps _ hrely hstore⟩
  · obtain ⟨hraised, hchanged⟩ := hkeeps _ hrely hstore
    rcases hchange : change store with e | v
    · simp only [Session.advance, hchange, Option.some.injEq, Prod.mk.injEq] at hadvance
      obtain ⟨rfl, rfl⟩ := hadvance
      exact ⟨.refl, hstore, _, .refl, hraised e⟩
    · simp only [Session.advance, hchange, Option.some.injEq, Prod.mk.injEq] at hadvance
      obtain ⟨rfl, rfl⟩ := hadvance
      obtain ⟨hcommit, hinvariant, hnext⟩ := hchanged _ hchange
      exact ⟨.single hcommit, hinvariant, _, .refl, hnext⟩

/-- The commits of the others. -/
theorem Session.Kept.of_commit {session : Session σ ε α} {store u : σ}
    (h : session.Kept invariant commits post store) (hcommit : Relation.ReflGen commits store u) :
    session.Kept invariant commits post u := by
  obtain ⟨s, hrely, hkeeps⟩ := h
  exact ⟨s, hrely.trans hcommit.to_reflTransGen, hkeeps⟩

variable {program : ω → Call σ ε α}

/-- One event commits at most once. Assumes: a call that it starts keeps what it guarantees. -/
theorem kept_step_of_start {w w' : Shared σ ε α} {event : SharedEvent ω ε}
    (hstart : ∀ operation, event = .start operation → ∀ s, invariant s →
      Keeps invariant commits post false (program operation) s)
    (h : w.Kept invariant commits post) (hstep : stepShared program w event = some w') :
    Relation.ReflGen commits w.store w'.store ∧ w'.Kept invariant commits post := by
  cases event with
  | start operation =>
    cases hstep
    refine ⟨.refl, h.store, fun session hsession ↦ ?_⟩
    rcases List.mem_append.mp hsession with hold | hnew
    · exact h.sessions session hold
    · cases List.mem_singleton.mp hnew
      exact ⟨w.store, .refl, hstart operation rfl _ h.store⟩
  | advance i =>
    simp only [stepShared, Option.bind_eq_bind, Option.bind_eq_some_iff, Option.some.injEq,
      Prod.exists] at hstep
    obtain ⟨session, hi, after, store, hadvance, rfl⟩ := hstep
    obtain ⟨hcommit, hinvariant, hkept⟩ :=
      (h.sessions session (List.mem_of_getElem? hi)).advance h.store hadvance
    refine ⟨hcommit, hinvariant, fun other hother ↦ ?_⟩
    rcases List.mem_or_eq_of_mem_set hother with hother | rfl
    · exact (h.sessions other hother).of_commit hcommit
    · exact hkept
  | locked i e =>
    simp only [stepShared, Option.bind_eq_bind, Option.bind_eq_some_iff, Option.some.injEq] at hstep
    obtain ⟨session, hi, after, hlocked, rfl⟩ := hstep
    refine ⟨.refl, h.store, fun other hother ↦ ?_⟩
    rcases List.mem_or_eq_of_mem_set hother with hother | rfl
    · exact h.sessions other hother
    obtain ⟨s, hrely, hkeeps⟩ := h.sessions session (List.mem_of_getElem? hi)
    rcases session with ⟨result | next | ⟨change, next, raised⟩, committed⟩
    · cases hlocked
    · cases hlocked
    · cases hlocked
      exact ⟨w.store, .refl, (hkeeps _ hrely h.store).1 e⟩

/-- A whole run of which every call that it starts keeps what it guarantees. -/
theorem kept_of_run_of_starts {w w' : Shared σ ε α} {events : List (SharedEvent ω ε)}
    (hstarts : ∀ operation, .start operation ∈ events → ∀ s, invariant s →
      Keeps invariant commits post false (program operation) s)
    (h : w.Kept invariant commits post) (hrun : runEvents (stepShared program) w events = some w') :
    Relation.ReflTransGen commits w.store w'.store ∧ w'.Kept invariant commits post := by
  induction events generalizing w with
  | nil =>
    cases hrun
    exact ⟨.refl, h⟩
  | cons event rest ih =>
    obtain ⟨u, hu, hrun⟩ := Option.bind_eq_some_iff.mp hrun
    have hfirstStart : ∀ operation, event = .start operation → ∀ s, invariant s →
        Keeps invariant commits post false (program operation) s :=
      fun operation hevent ↦ hstarts operation (hevent ▸ List.mem_cons_self)
    obtain ⟨hfirst, hkept⟩ := kept_step_of_start hfirstStart h hu
    obtain ⟨hrest, hkept⟩ :=
      ih (fun operation hoperation ↦ hstarts operation (List.mem_cons_of_mem _ hoperation)) hkept hrun
    exact ⟨hfirst.to_reflTransGen.trans hrest, hkept⟩

variable (hprogram : ∀ operation s, invariant s →
  Keeps invariant commits post false (program operation) s)

include hprogram

/-- One event commits at most once. -/
theorem kept_step {w w' : Shared σ ε α} {event : SharedEvent ω ε}
    (h : w.Kept invariant commits post) (hstep : stepShared program w event = some w') :
    Relation.ReflGen commits w.store w'.store ∧ w'.Kept invariant commits post :=
  kept_step_of_start (fun operation _ ↦ hprogram operation) h hstep

/-- A whole run. -/
theorem kept_of_run {w w' : Shared σ ε α} {events : List (SharedEvent ω ε)}
    (h : w.Kept invariant commits post) (hrun : runEvents (stepShared program) w events = some w') :
    Relation.ReflTransGen commits w.store w'.store ∧ w'.Kept invariant commits post :=
  kept_of_run_of_starts (fun operation _ ↦ hprogram operation) h hrun

end

/-! ### Observers -/

section

variable {τ : Type}

/-- What an observer of a run holds, that is told the store before and after every event. -/
def follow (program : ω → Call σ ε α) (observe : τ → σ → σ → τ) :
    τ → Shared σ ε α → List (SharedEvent ω ε) → τ
  | d, _, [] => d
  | d, w, event :: rest =>
    match stepShared program w event with
    | some w' => follow program observe (observe d w.store w'.store) w' rest
    | none => d

/-- What an observer holds agrees with the store after a run, when each commit keeps the agreement. -/
theorem agrees_of_run {invariant : σ → Prop} {commits : σ → σ → Prop}
    {post : Bool → Except ε α → σ → Prop} {program : ω → Call σ ε α}
    (hprogram : ∀ operation s, invariant s →
      Keeps invariant commits post false (program operation) s)
    {agrees : σ → τ → Prop} {observe : τ → σ → σ → τ} (hidle : ∀ s d, observe d s s = d)
    (hobserve : ∀ s t d, invariant s → commits s t → agrees s d → agrees t (observe d s t))
    {w w' : Shared σ ε α} {events : List (SharedEvent ω ε)} {d : τ}
    (hkept : w.Kept invariant commits post) (hagrees : agrees w.store d)
    (hrun : runEvents (stepShared program) w events = some w') :
    agrees w'.store (follow program observe d w events) := by
  induction events generalizing w d with
  | nil =>
    cases hrun
    exact hagrees
  | cons event rest ih =>
    obtain ⟨u, hu, hrun⟩ := Option.bind_eq_some_iff.mp hrun
    obtain ⟨hcommit, hnext⟩ := kept_step hprogram hkept hu
    rw [follow, hu]
    refine ih hnext ?_ hrun
    rcases (Relation.reflGen_iff _ _ _).mp hcommit with hsame | hcommit
    · rw [hsame, hidle]
      exact hagrees
    · exact hobserve _ _ _ hkept.store hcommit hagrees

end

/-! ### Calls whose transactions keep the invariant whatever was read -/

section

variable (invariant : σ → Prop) (commits : σ → σ → Prop)

/-- The transactions of a call keep the invariant and change the store as `commits` says, whatever was
read. -/
structure Preserves (call : Call σ ε α) : Prop where
  /-- From every store on. -/
  keeps : ∀ committed s, Keeps invariant commits (fun _ _ _ ↦ True) committed call s

variable {invariant commits}

theorem Preserves.bind {call : Call σ ε α} {k : α → Call σ ε β}
    (h : Preserves invariant commits call) (hk : ∀ a, Preserves invariant commits (k a)) :
    Preserves invariant commits (call >>= k) := by
  refine ⟨fun committed s ↦ keeps_bind ((h.keeps committed s).mono fun c r t _ ↦ ?_)⟩
  cases r with
  | error e => trivial
  | ok a => exact (hk a).keeps c t

theorem preserves_pure (a : α) : Preserves invariant commits (pure a : Call σ ε α) :=
  ⟨fun _ _ ↦ trivial⟩

theorem Preserves.map {call : Call σ ε α} (h : Preserves invariant commits call) (f : α → β) :
    Preserves invariant commits (f <$> call) :=
  h.bind fun _ ↦ preserves_pure _

/-- A call whose exceptions are translated. -/
theorem Preserves.mapError {ε' : Type} {call : Call σ ε α} (h : Preserves invariant commits call)
    (f : ε → ε') (back : ε' → Option ε) : Preserves invariant commits (call.mapError f back) := by
  refine ⟨fun committed s ↦ ?_⟩
  have hkeeps := h.keeps committed s
  clear h
  induction call generalizing committed s with
  | ended result => trivial
  | read next ih => exact fun t hrely ht ↦ ih t committed t (hkeeps t hrely ht)
  | transact change next raised ih ihraised =>
    rw [Call.mapError]
    intro t hrely ht
    obtain ⟨hraised, hchanged⟩ := hkeeps t hrely ht
    refine ⟨fun e ↦ ?_, fun u hu ↦ ?_⟩
    · show Keeps invariant commits (fun _ _ _ ↦ True) committed
        (match back e with
          | some known => (raised known).mapError f back
          | none => .ended (.error e)) t
      cases back e with
      | some known => exact ihraised known committed t (hraised known)
      | none => trivial
    · dsimp only at hu
      rcases hresult : change t with e | v
      · rw [hresult] at hu
        cases hu
      · rw [hresult] at hu
        cases hu
        obtain ⟨hcommit, hinvariant, hnext⟩ := hchanged _ hresult
        exact ⟨hcommit, hinvariant, ih true _ hnext⟩

theorem preserves_select (f : σ → α) : Preserves invariant commits (Call.select f : Call σ ε α) :=
  ⟨fun _ _ _ _ _ ↦ trivial⟩

theorem preserves_fromExcept (r : Except ε α) : Preserves invariant commits (Call.fromExcept r) :=
  ⟨fun _ _ ↦ trivial⟩

theorem preserves_ask (f : σ → Except ε α) : Preserves invariant commits (Call.ask f) :=
  ⟨fun _ _ _ _ _ ↦ trivial⟩

/-- A call without transactions. -/
theorem Reads.preserves {call : Call σ ε α} (h : Reads call) : Preserves invariant commits call := by
  refine ⟨fun committed s ↦ ?_⟩
  induction h generalizing s with
  | ended result => trivial
  | read _ ih => exact fun t _ _ ↦ ih t t

/-- A computation whose result is known, followed by a call. -/
theorem preserves_fromExcept_bind {r : Except ε α} {k : α → Call σ ε β}
    (hk : ∀ a, r = .ok a → Preserves invariant commits (k a)) :
    Preserves invariant commits (Call.fromExcept r >>= k) := by
  refine ⟨fun committed s ↦ keeps_fromExcept (fun _ _ ↦ trivial) fun a ha ↦ ?_⟩
  exact (hk a ha).keeps committed s

theorem preserves_transaction {change : σ → Except ε σ}
    (h : ∀ s t, invariant s → change s = .ok t → commits s t ∧ invariant t) :
    Preserves invariant commits (Call.transaction change) := by
  refine ⟨fun committed s t _ ht ↦ ⟨fun _ ↦ trivial, fun u hu ↦ ?_⟩⟩
  obtain ⟨hcommit, hinvariant⟩ := h t u ht hu
  exact ⟨hcommit, hinvariant, trivial⟩

end

/-! ### Calls that committed nothing -/

section

variable {program : ω → Call σ ε α} {w w' : Shared σ ε α} {i : ℕ}

/-- A call that has not committed anything, as far as it was made. -/
def Shared.Uncommitted (w : Shared σ ε α) (i : ℕ) : Prop :=
  ∀ session, w.sessions[i]? = some session → session.committed = false

/-- A statement that leaves its call uncommitted leaves the store alone. -/
theorem Session.store_of_advance {session after : Session σ ε α} {store u : σ}
    (hadvance : session.advance store = some (after, u)) (hafter : after.committed = false) :
    u = store ∧ session.committed = false := by
  rcases session with ⟨result | next | ⟨change, next, raised⟩, committed⟩
  · cases hadvance
  · cases hadvance
    exact ⟨rfl, hafter⟩
  · rcases hchange : change store with e | v <;>
      simp only [Session.advance, hchange, Option.some.injEq, Prod.mk.injEq] at hadvance <;>
      obtain ⟨rfl, rfl⟩ := hadvance
    · exact ⟨rfl, hafter⟩
    · cases hafter

/-- A call that is uncommitted after an event was uncommitted before. -/
theorem Shared.Uncommitted.before {event : SharedEvent ω ε}
    (hstep : stepShared program w event = some w') (h : w'.Uncommitted i) : w.Uncommitted i := by
  intro session hsession
  have hlt : i < w.sessions.length := (List.getElem?_eq_some_iff.mp hsession).1
  cases event with
  | start operation =>
    cases hstep
    exact h session ((List.getElem?_append_left hlt).trans hsession)
  | advance j =>
    simp only [stepShared, Option.bind_eq_bind, Option.bind_eq_some_iff, Option.some.injEq,
      Prod.exists] at hstep
    obtain ⟨other, hj, after, store, hadvance, rfl⟩ := hstep
    by_cases hij : j = i
    · subst hij
      cases hj.symm.trans hsession
      exact (Session.store_of_advance hadvance (h after (List.getElem?_set_self hlt))).2
    · exact h session ((List.getElem?_set_ne hij).trans hsession)
  | locked j e =>
    simp only [stepShared, Option.bind_eq_bind, Option.bind_eq_some_iff, Option.some.injEq] at hstep
    obtain ⟨other, hj, after, hlocked, rfl⟩ := hstep
    by_cases hij : j = i
    · subst hij
      cases hj.symm.trans hsession
      rcases session with ⟨result | next | ⟨change, next, raised⟩, committed⟩ <;> cases hlocked
      exact h ⟨raised e, committed⟩ (List.getElem?_set_self hlt)
    · exact h session ((List.getElem?_set_ne hij).trans hsession)

/-- A statement of a call leaves the store alone. -/
def leavesStore (program : ω → Call σ ε α) (i : ℕ) (w : Shared σ ε α) (event : SharedEvent ω ε) :
    Prop :=
  ∀ u, event = .advance i → stepShared program w event = some u → u.store = w.store

/-- The statements of a call that is uncommitted after a run left the store alone. -/
theorem everyStep_leavesStore {events : List (SharedEvent ω ε)}
    (hrun : runEvents (stepShared program) w events = some w') (h : w'.Uncommitted i) :
    w.Uncommitted i ∧ EveryStep (stepShared program) (leavesStore program i) w events := by
  induction events generalizing w with
  | nil =>
    cases hrun
    exact ⟨h, trivial⟩
  | cons event rest ih =>
    obtain ⟨v, hv, hrun⟩ := Option.bind_eq_some_iff.mp hrun
    obtain ⟨hnext, hrest⟩ := ih hrun
    refine ⟨hnext.before hv, ?_, fun t ht ↦ ?_⟩
    · rintro u rfl hu
      cases hv.symm.trans hu
      simp only [stepShared, Option.bind_eq_bind, Option.bind_eq_some_iff, Option.some.injEq,
        Prod.exists] at hv
      obtain ⟨session, hi, after, store, hadvance, rfl⟩ := hv
      have hlt : i < w.sessions.length := (List.getElem?_eq_some_iff.mp hi).1
      exact (Session.store_of_advance hadvance (hnext after (List.getElem?_set_self hlt))).1
    · cases hv.symm.trans ht
      exact hrest

end

end N0te.Library
