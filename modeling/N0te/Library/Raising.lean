import Mathlib.Logic.Basic

/-!
# Programs that raise over a state that stays

A program reads and writes a state and either returns a value or raises. The state outlives the
raise: what was written before it stays written. `Raising σ ε α` is that program type, `exec` runs
one from a state, and the `exec_*` lemmas say what each combinator does.

`Ensures P p Q` is the contract of a program: from every state satisfying `P` the outcome and the
final state satisfy `Q`, whether the outcome is a value or a raise. `Ensures.bind`,
`Ensures.tryCatch` and `Ensures.atomic` are its rules for sequencing, for handlers and for
transactions. `atomic` runs a program and undoes its writes when it raises.
-/

set_option autoImplicit false
set_option relaxedAutoImplicit false

namespace N0te.Library

universe u

/-- A program over a state `σ` that returns an `α` or raises an `ε`. -/
abbrev Raising (σ ε α : Type u) := ExceptT ε (StateM σ) α

variable {σ ε α β : Type u}

/-- Run a program from a state: its outcome and the state it leaves. -/
def exec (p : Raising σ ε α) (s : σ) : Except ε α × σ := p.run.run s

@[simp] theorem exec_pure (a : α) (s : σ) :
    exec (pure a : Raising σ ε α) s = (.ok a, s) := rfl

@[simp] theorem exec_throw (e : ε) (s : σ) :
    exec (throw e : Raising σ ε α) s = (.error e, s) := rfl

@[simp] theorem exec_get (s : σ) : exec (get : Raising σ ε σ) s = (.ok s, s) := rfl

@[simp] theorem exec_set (t s : σ) :
    exec (set t : Raising σ ε PUnit) s = (.ok ⟨⟩, t) := rfl

@[simp] theorem exec_modify (f : σ → σ) (s : σ) :
    exec (modify f : Raising σ ε PUnit) s = (.ok ⟨⟩, f s) := rfl

theorem exec_bind (p : Raising σ ε α) (k : α → Raising σ ε β) (s : σ) :
    exec (p >>= k) s =
      match exec p s with
      | (.ok a, t) => exec (k a) t
      | (.error e, t) => (.error e, t) := by
  unfold exec
  rw [ExceptT.run_bind]
  simp only [StateT.run_bind]
  cases h : StateT.run p.run s with
  | mk r t => cases r <;> rfl

theorem exec_tryCatch (p : Raising σ ε α) (h : ε → Raising σ ε α) (s : σ) :
    exec (tryCatch p h) s =
      match exec p s with
      | (.ok a, t) => (.ok a, t)
      | (.error e, t) => exec (h e) t := by
  unfold exec
  simp only [ExceptT.run_tryCatch, StateT.run_bind]
  cases h : StateT.run p.run s with
  | mk r t => cases r <;> rfl

theorem exec_bind_of_ok {p : Raising σ ε α} {k : α → Raising σ ε β} {s t : σ} {a : α}
    (h : exec p s = (.ok a, t)) : exec (p >>= k) s = exec (k a) t := by
  rw [exec_bind, h]

theorem exec_bind_of_error {p : Raising σ ε α} {k : α → Raising σ ε β} {s t : σ} {e : ε}
    (h : exec p s = (.error e, t)) : exec (p >>= k) s = (.error e, t) := by
  rw [exec_bind, h]

/-- Lift a result that needs no state. -/
def fromExcept (r : Except ε α) : Raising σ ε α :=
  match r with
  | Except.ok a => pure a
  | Except.error e => throw e

@[simp] theorem exec_fromExcept (r : Except ε α) (s : σ) : exec (fromExcept r) s = (r, s) := by
  cases r <;> rfl

theorem exec_fromExcept_ok (a : α) (k : α → Raising σ ε β) (s : σ) :
    exec (fromExcept (.ok a) >>= k) s = exec (k a) s :=
  exec_bind_of_ok (exec_fromExcept (.ok a) s)

theorem exec_fromExcept_error (e : ε) (k : α → Raising σ ε β) (s : σ) :
    exec (fromExcept (.error e) >>= k) s = (.error e, s) :=
  exec_bind_of_error (exec_fromExcept (.error e) s)

theorem exec_get_bind (k : σ → Raising σ ε β) (s : σ) :
    exec ((get : Raising σ ε σ) >>= k) s = exec (k s) s :=
  exec_bind_of_ok (exec_get s)

/-- A program whose exception is its result. -/
def attempting (p : Raising σ ε α) : Raising σ ε (Except ε α) :=
  tryCatch (Except.ok <$> p) fun e ↦ pure (.error e)

@[simp] theorem exec_attempting (p : Raising σ ε α) (s : σ) :
    exec (attempting p) s = (.ok (exec p s).1, (exec p s).2) := by
  rw [attempting, exec_tryCatch, map_eq_pure_bind, exec_bind]
  rcases exec p s with ⟨e | a, t⟩ <;> rfl

/-- Read something of the state, or raise. -/
def asking (f : σ → Except ε α) : Raising σ ε α := get >>= fun s ↦ fromExcept (f s)

/-- A transaction that is computed at once: it returns and changes the state, or raises. -/
def transacting (f : σ → Except ε (α × σ)) : Raising σ ε α := ExceptT.mk fun s ↦
  match f s with
  | .ok (a, t) => (.ok a, t)
  | .error e => (.error e, s)

@[simp] theorem exec_asking (f : σ → Except ε α) (s : σ) : exec (asking f) s = (f s, s) := by
  rw [asking, exec_get_bind, exec_fromExcept]

theorem exec_transacting (f : σ → Except ε (α × σ)) (s : σ) :
    exec (transacting f) s =
      match f s with
      | .ok (a, t) => (.ok a, t)
      | .error e => (.error e, s) := rfl

theorem exec_transacting_ok {f : σ → Except ε (α × σ)} {s t : σ} {a : α} (h : f s = .ok (a, t)) :
    exec (transacting f) s = (.ok a, t) := by
  rw [exec_transacting, h]

theorem exec_transacting_error {f : σ → Except ε (α × σ)} {s : σ} {e : ε} (h : f s = .error e) :
    exec (transacting f) s = (.error e, s) := by
  rw [exec_transacting, h]

/-- A transaction: the writes of a program that raises are undone. -/
def atomic (p : Raising σ ε α) : Raising σ ε α := ExceptT.mk fun s ↦
  match exec p s with
  | (.ok a, t) => (.ok a, t)
  | (.error e, _) => (.error e, s)

theorem exec_atomic (p : Raising σ ε α) (s : σ) :
    exec (atomic p) s =
      match exec p s with
      | (.ok a, t) => (.ok a, t)
      | (.error e, _) => (.error e, s) := rfl

/-- A program whose exceptions are translated. -/
def raisingAs {ε' : Type u} (translate : ε → ε') (p : Raising σ ε α) : Raising σ ε' α :=
  ExceptT.mk fun s ↦ ((exec p s).1.mapError translate, (exec p s).2)

theorem exec_raisingAs {ε' : Type u} (translate : ε → ε') (p : Raising σ ε α) (s : σ) :
    exec (raisingAs translate p) s = ((exec p s).1.mapError translate, (exec p s).2) := rfl

/-! ### Contracts -/

/-- From every state satisfying `P`, the outcome and the final state of `p` satisfy `Q`. -/
def Ensures (P : σ → Prop) (p : Raising σ ε α) (Q : Except ε α → σ → Prop) : Prop :=
  ∀ s, P s → Q (exec p s).1 (exec p s).2

namespace Ensures

variable {P P' : σ → Prop} {p : Raising σ ε α} {M Q Q' : Except ε α → σ → Prop}
  {R : Except ε β → σ → Prop}

theorem conseq (h : Ensures P p Q) (hpre : ∀ s, P' s → P s) (hpost : ∀ r s, Q r s → Q' r s) :
    Ensures P' p Q' := fun s hs ↦ hpost _ _ (h s (hpre s hs))

theorem pre (h : Ensures P p Q) (hpre : ∀ s, P' s → P s) : Ensures P' p Q :=
  h.conseq hpre fun _ _ hq ↦ hq

theorem pure {a : α} (h : ∀ s, P s → Q (.ok a) s) : Ensures P (Pure.pure a) Q := h

theorem throw {e : ε} (h : ∀ s, P s → Q (.error e) s) :
    Ensures P (MonadExcept.throw e : Raising σ ε α) Q := h

theorem get {Q : Except ε σ → σ → Prop} (h : ∀ s, P s → Q (.ok s) s) :
    Ensures P (MonadState.get : Raising σ ε σ) Q := h

/-- Sequencing: a raise of the first program skips the second. -/
theorem bind {k : α → Raising σ ε β} (hp : Ensures P p M)
    (hk : ∀ a, Ensures (M (.ok a)) (k a) R) (hraise : ∀ e s, M (.error e) s → R (.error e) s) :
    Ensures P (p >>= k) R := by
  intro s hs
  have hmid := hp s hs
  rw [exec_bind]
  rcases hrun : exec p s with ⟨r | r, t⟩
  · rw [hrun] at hmid
    exact hraise r t hmid
  · rw [hrun] at hmid
    exact hk r t hmid

/-- A handler runs from the state the raise left. -/
theorem tryCatch {h : ε → Raising σ ε α} (hp : Ensures P p M)
    (hreturn : ∀ a s, M (.ok a) s → Q (.ok a) s) (hhandle : ∀ e, Ensures (M (.error e)) (h e) Q) :
    Ensures P (MonadExcept.tryCatch p h) Q := by
  intro s hs
  have hmid := hp s hs
  rw [exec_tryCatch]
  rcases hrun : exec p s with ⟨r | r, t⟩
  · rw [hrun] at hmid
    exact hhandle r t hmid
  · rw [hrun] at hmid
    exact hreturn r t hmid

/-- A transaction keeps its precondition when it raises. -/
theorem atomic (hp : Ensures P p M) (hreturn : ∀ a s, M (.ok a) s → Q (.ok a) s)
    (hundo : ∀ e s, P s → Q (.error e) s) : Ensures P (Library.atomic p) Q := by
  intro s hs
  have hmid := hp s hs
  rw [exec_atomic]
  rcases hrun : exec p s with ⟨r | r, t⟩
  · exact hundo r s hs
  · rw [hrun] at hmid
    exact hreturn r t hmid

end Ensures

end N0te.Library
