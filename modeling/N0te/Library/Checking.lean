import Mathlib.Data.Nat.Notation
import Mathlib.Tactic.SplitIfs

/-!
# Checks that raise

Validation code is a sequence of checks, each of which returns a value or raises. It is written
here in `Except`, with `require` for a condition that only guards. `bind_eq_ok` and
`require_eq_ok` turn "the whole sequence returned" into the list of facts its checks established,
which is how every specification of a validator is read off.

`Raised` is an exception: its class and its message.
-/

set_option autoImplicit false
set_option relaxedAutoImplicit false

namespace N0te.Library

/-- An exception of one of the classes `κ`, with its message. -/
structure Raised (κ : Type) where
  /-- The exception class. -/
  cls : κ
  text : String
  deriving DecidableEq

variable {ε α β : Type}

/-- Raise unless the condition holds. -/
def require (condition : Prop) [Decidable condition] (e : ε) : Except ε Unit :=
  if condition then .ok () else .error e

@[simp] theorem require_eq_ok {condition : Prop} [Decidable condition] {e : ε} {u : Unit} :
    require condition e = .ok u ↔ condition := by
  unfold require
  split_ifs with h <;> simp [h]

@[simp] theorem bind_eq_ok {x : Except ε α} {f : α → Except ε β} {b : β} :
    (x >>= f) = .ok b ↔ ∃ a, x = .ok a ∧ f a = .ok b := by
  cases x with
  | error e => exact ⟨fun h ↦ (nomatch h), fun ⟨_, h, _⟩ ↦ (nomatch h)⟩
  | ok a =>
    refine ⟨fun h ↦ ⟨a, rfl, h⟩, ?_⟩
    rintro ⟨_, ⟨⟩, hf⟩
    exact hf

/-- A sequence of two checks returns something when both do. -/
theorem exists_bind {x : Except ε α} {f : α → Except ε β} (hx : ∃ a, x = .ok a)
    (hf : ∀ a, x = .ok a → ∃ b, f a = .ok b) : ∃ b, (x >>= f) = .ok b := by
  obtain ⟨a, ha⟩ := hx
  obtain ⟨b, hb⟩ := hf a ha
  exact ⟨b, bind_eq_ok.mpr ⟨a, ha, hb⟩⟩

/-- A condition that holds passes its check. -/
theorem exists_require {condition : Prop} [Decidable condition] {e : ε} (h : condition) :
    ∃ u, require condition e = .ok u := ⟨(), require_eq_ok.mpr h⟩

@[simp] theorem map_eq_ok {x : Except ε α} {f : α → β} {b : β} :
    (f <$> x) = .ok b ↔ ∃ a, x = .ok a ∧ f a = b := by
  cases x with
  | error e => exact ⟨fun h ↦ (nomatch h), fun ⟨_, h, _⟩ ↦ (nomatch h)⟩
  | ok a =>
    refine ⟨fun h ↦ ⟨a, rfl, Except.ok.inj h⟩, ?_⟩
    rintro ⟨_, ⟨⟩, rfl⟩
    rfl

theorem mapError_eq_ok {ε' : Type} {f : ε → ε'} {x : Except ε α} {a : α} :
    x.mapError f = .ok a ↔ x = .ok a := by
  cases x <;> simp [Except.mapError]

theorem toOption_eq_some {x : Except ε α} {a : α} : x.toOption = some a ↔ x = .ok a := by
  cases x with
  | error e => exact ⟨nofun, nofun⟩
  | ok b => exact ⟨fun h ↦ congrArg Except.ok (Option.some.inj h), fun h ↦ congrArg some (Except.ok.inj h)⟩

@[simp] theorem pure_eq_ok {a b : α} : (pure a : Except ε α) = .ok b ↔ a = b :=
  ⟨Except.ok.inj, congrArg Except.ok⟩

@[simp] theorem throw_ne_ok {e : ε} {a : α} : (throw e : Except ε α) = .ok a ↔ False :=
  ⟨fun h ↦ (nomatch h), False.elim⟩

/-- The value of an option, or a raise. -/
def orRaise (o : Option α) (e : ε) : Except ε α :=
  match o with
  | some a => .ok a
  | none => .error e

@[simp] theorem orRaise_eq_ok {o : Option α} {e : ε} {a : α} :
    orRaise o e = .ok a ↔ o = some a := by
  cases o <;> simp [orRaise]

/-- A condition that holds, or a raise. -/
def ensure (condition : Prop) [Decidable condition] (e : ε) : Except ε (PLift condition) :=
  if h : condition then .ok ⟨h⟩ else .error e

theorem ensure_of {condition : Prop} [Decidable condition] {e : ε} (h : condition) :
    ensure condition e = .ok ⟨h⟩ := dif_pos h

/-- A condition that holds of every item of a list, or the raise of the first of which it does not. -/
def ensureEach (condition : α → Prop) [DecidablePred condition] (e : α → ε) :
    (l : List α) → Except ε (PLift (∀ item ∈ l, condition item))
  | [] => .ok ⟨List.forall_mem_nil _⟩
  | item :: rest => do
    let hitem ← ensure (condition item) (e item)
    let hrest ← ensureEach condition e rest
    .ok ⟨List.forall_mem_cons.mpr ⟨hitem.down, hrest.down⟩⟩

theorem ensureEach_of {condition : α → Prop} [DecidablePred condition] {e : α → ε} {l : List α}
    (h : ∀ item ∈ l, condition item) : ensureEach condition e l = .ok ⟨h⟩ := by
  induction l with
  | nil => rfl
  | cons item rest ih =>
    obtain ⟨hitem, hrest⟩ := List.forall_mem_cons.mp h
    show (ensure (condition item) (e item) >>= fun hitem ↦ ensureEach condition e rest >>= fun hrest ↦
      .ok (PLift.up (List.forall_mem_cons.mpr ⟨hitem.down, hrest.down⟩))) = .ok _
    rw [ensure_of hitem, ih hrest]
    rfl

/-- Run a check on every item with its index, in order. -/
def checkEach (f : ℕ → α → Except ε β) : ℕ → List α → Except ε (List β)
  | _, [] => .ok []
  | n, a :: rest => do
    let b ← f n a
    let bs ← checkEach f (n + 1) rest
    return b :: bs

/-- A check passes on a list exactly when it passes on every item. -/
theorem exists_checkEach_iff {f : α → Except ε Unit} {n : ℕ} {l : List α} :
    (∃ result, checkEach (fun _ ↦ f) n l = .ok result) ↔ ∀ item ∈ l, f item = .ok () := by
  induction l generalizing n with
  | nil => simp [checkEach]
  | cons head rest ih =>
    simp only [checkEach, bind_eq_ok, pure_eq_ok, List.forall_mem_cons, ← ih (n := n + 1)]
    constructor
    · rintro ⟨-, ⟨⟩, hhead, results, hrest, -⟩
      exact ⟨hhead, results, hrest⟩
    · rintro ⟨hhead, results, hrest⟩
      exact ⟨_, (), hhead, results, hrest, rfl⟩

/-- A check that returns something for every item of a list returns something for the list. -/
theorem exists_checkEach {f : α → Except ε β} {n : ℕ} {l : List α}
    (h : ∀ item ∈ l, ∃ b, f item = .ok b) : ∃ result, checkEach (fun _ ↦ f) n l = .ok result := by
  induction l generalizing n with
  | nil => exact ⟨[], rfl⟩
  | cons head rest ih =>
    obtain ⟨b, hb⟩ := h head List.mem_cons_self
    obtain ⟨bs, hbs⟩ := ih (n := n + 1) fun item hitem ↦ h item (List.mem_cons_of_mem _ hitem)
    refine ⟨b :: bs, ?_⟩
    simp only [checkEach, bind_eq_ok, pure_eq_ok]
    exact ⟨b, hb, bs, hbs, rfl⟩

/-- A check that returns the items that a list was made of. -/
theorem checkEach_map {f : α → Except ε β} {g : β → α} (h : ∀ b, f (g b) = .ok b) (n : ℕ)
    (l : List β) : checkEach (fun _ ↦ f) n (l.map g) = .ok l := by
  induction l generalizing n with
  | nil => rfl
  | cons head rest ih =>
    simp only [List.map_cons, checkEach, bind_eq_ok, pure_eq_ok]
    exact ⟨head, h head, rest, ih (n + 1), rfl⟩

/-- A check that returns a function of the items that have a property. -/
theorem checkEach_map_iff {γ : Type} {f : ℕ → α → Except ε β} {p : γ → Prop} {send : γ → α}
    {g : γ → β} (h : ∀ n c b, f n (send c) = .ok b ↔ p c ∧ b = g c) {n : ℕ} {l : List γ}
    {result : List β} :
    checkEach f n (l.map send) = .ok result ↔ (∀ c ∈ l, p c) ∧ result = l.map g := by
  induction l generalizing n result with
  | nil =>
    rw [List.map_nil, checkEach, Except.ok.injEq, List.map_nil]
    exact ⟨fun heq ↦ ⟨List.forall_mem_nil _, heq.symm⟩, fun heq ↦ heq.2.symm⟩
  | cons c rest ih =>
    simp only [List.map_cons, checkEach, bind_eq_ok, pure_eq_ok, h, ih, List.forall_mem_cons]
    constructor
    · rintro ⟨_, ⟨hc, rfl⟩, _, ⟨hrest, rfl⟩, rfl⟩
      exact ⟨⟨hc, hrest⟩, rfl⟩
    · rintro ⟨⟨hc, hrest⟩, rfl⟩
      exact ⟨_, ⟨hc, rfl⟩, _, ⟨hrest, rfl⟩, rfl⟩

/-- What a check returned for a list it returned for an item. -/
theorem mem_checkEach {f : α → Except ε β} {n : ℕ} {l : List α} {result : List β}
    (h : checkEach (fun _ ↦ f) n l = .ok result) {b : β} :
    b ∈ result ↔ ∃ a ∈ l, f a = .ok b := by
  induction l generalizing n result with
  | nil =>
    cases h
    simp
  | cons head rest ih =>
    simp only [checkEach, bind_eq_ok, pure_eq_ok] at h
    obtain ⟨first, hfirst, others, hothers, rfl⟩ := h
    simp only [List.mem_cons, ih hothers, exists_eq_or_imp, hfirst, Except.ok.injEq,
      @eq_comm _ b]

/-- A check that returned something for a list returned something for each item. -/
theorem exists_mem_checkEach {f : α → Except ε β} {n : ℕ} {l : List α} {result : List β}
    (h : checkEach (fun _ ↦ f) n l = .ok result) : ∀ a ∈ l, ∃ b ∈ result, f a = .ok b := by
  induction l generalizing n result with
  | nil => exact List.forall_mem_nil _
  | cons head rest ih =>
    simp only [checkEach, bind_eq_ok, pure_eq_ok] at h
    obtain ⟨first, hfirst, others, hothers, rfl⟩ := h
    refine List.forall_mem_cons.mpr ⟨⟨first, List.mem_cons_self, hfirst⟩, fun a ha ↦ ?_⟩
    obtain ⟨b, hb, hab⟩ := ih hothers a ha
    exact ⟨b, List.mem_cons_of_mem _ hb, hab⟩

/-- The items that results were made of are those of the list. -/
theorem map_checkEach {f : α → Except ε β} {g : β → α} (hf : ∀ a b, f a = .ok b → g b = a) {n : ℕ}
    {l : List α} {result : List β} (h : checkEach (fun _ ↦ f) n l = .ok result) :
    result.map g = l := by
  induction l generalizing n result with
  | nil =>
    cases h
    rfl
  | cons head rest ih =>
    simp only [checkEach, bind_eq_ok, pure_eq_ok] at h
    obtain ⟨b, hb, bs, hbs, rfl⟩ := h
    rw [List.map_cons, hf head b hb, ih hbs]

/-- A condition checked on every item of a list holds of each. -/
theorem checkEach_require {condition : α → Prop} [DecidablePred condition] {e : α → ε} {n : ℕ}
    {l : List α} {result : List Unit}
    (h : checkEach (fun _ item ↦ require (condition item) (e item)) n l = .ok result) :
    ∀ item ∈ l, condition item := by
  induction l generalizing n result with
  | nil => simp
  | cons head rest ih =>
    simp only [checkEach, bind_eq_ok, require_eq_ok] at h
    obtain ⟨-, hhead, results, hrest, -⟩ := h
    intro item hitem
    rcases List.mem_cons.mp hitem with rfl | hmem
    · exact hhead
    · exact ih hrest item hmem

/-- A condition that holds of every item of a list passes the check of each. -/
theorem exists_checkEach_require {condition : α → Prop} [DecidablePred condition] {e : α → ε}
    {n : ℕ} {l : List α} (h : ∀ item ∈ l, condition item) :
    ∃ result, checkEach (fun _ item ↦ require (condition item) (e item)) n l = .ok result := by
  induction l generalizing n with
  | nil => exact ⟨[], rfl⟩
  | cons head rest ih =>
    obtain ⟨results, hrest⟩ := ih (n := n + 1) fun item hitem ↦ h item (List.mem_cons_of_mem _ hitem)
    refine ⟨() :: results, ?_⟩
    simp only [checkEach, bind_eq_ok, require_eq_ok, pure_eq_ok]
    exact ⟨(), h head List.mem_cons_self, results, hrest, rfl⟩

end N0te.Library
