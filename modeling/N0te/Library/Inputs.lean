import Mathlib.Data.List.Infix
import Mathlib.Data.List.Nodup
import N0te.Library.Checking
import N0te.Library.Json
import N0te.Library.Text

/-!
# Checked inputs

What a caller gives is text, a missing text or a list of labels, and is checked before it is stored.
`BoundedText` is a text that passed the check, which leaves it alone when it is made again
(`checkText_val`), so what was stored reads back as itself. `keepFirst` drops the labels that came before,
and `afterPrefix` is what follows a given beginning.
-/

set_option autoImplicit false
set_option relaxedAutoImplicit false

namespace N0te.Library

variable {ε α : Type}

/-! ### What is raised -/

theorem bind_eq_error {β : Type} {x : Except ε α} {f : α → Except ε β} {e : ε} :
    (x >>= f) = .error e ↔ x = .error e ∨ ∃ a, x = .ok a ∧ f a = .error e := by
  cases x with
  | error e' => exact ⟨fun h ↦ .inl (by cases h; rfl), fun h ↦ by
      rcases h with h | ⟨_, h, -⟩
      · cases h; rfl
      · cases h⟩
  | ok a => exact ⟨fun h ↦ .inr ⟨a, rfl, h⟩, fun h ↦ by
      rcases h with h | ⟨_, h, hf⟩
      · cases h
      · cases h; exact hf⟩

theorem require_eq_error {condition : Prop} [Decidable condition] {e e' : ε}
    (h : require condition e = .error e') : e' = e := by
  unfold require at h
  split_ifs at h
  cases h
  rfl

theorem ensure_eq_error {condition : Prop} [Decidable condition] {e e' : ε}
    (h : ensure condition e = .error e') : e' = e := by
  unfold ensure at h
  by_cases hcondition : condition
  · rw [dif_pos hcondition] at h
    cases h
  · rw [dif_neg hcondition] at h
    cases h
    rfl

theorem orRaise_eq_error {o : Option α} {e e' : ε} (h : orRaise o e = .error e') : e' = e := by
  cases o with
  | none => cases h; rfl
  | some a => cases h

/-- A computation raises nothing but exceptions of a kind. -/
def RaisesOnly (kind : ε → Prop) (x : Except ε α) : Prop := ∀ e, x = .error e → kind e

section

variable {kind : ε → Prop}

theorem raisesOnly_ok (a : α) : RaisesOnly kind (.ok a : Except ε α) := fun _ h ↦ by cases h

theorem raisesOnly_error {e : ε} (h : kind e) : RaisesOnly kind (.error e : Except ε α) :=
  fun _ herror ↦ by cases herror; exact h

theorem raisesOnly_of_ok {x : Except ε α} (h : ∃ a, x = .ok a) : RaisesOnly kind x := by
  obtain ⟨a, rfl⟩ := h
  exact raisesOnly_ok a

theorem raisesOnly_require {condition : Prop} [Decidable condition] {e : ε} (h : kind e) :
    RaisesOnly kind (require condition e) := fun _ herror ↦ require_eq_error herror ▸ h

theorem RaisesOnly.bind {β : Type} {x : Except ε α} {f : α → Except ε β} (hx : RaisesOnly kind x)
    (hf : ∀ a, x = .ok a → RaisesOnly kind (f a)) : RaisesOnly kind (x >>= f) := by
  intro e herror
  rcases bind_eq_error.mp herror with hfirst | ⟨a, ha, hnext⟩
  · exact hx e hfirst
  · exact hf a ha e hnext

theorem raisesOnly_require_bind {condition : Prop} [Decidable condition] {e : ε}
    {f : Unit → Except ε α} (h : kind e) (hf : condition → RaisesOnly kind (f ⟨⟩)) :
    RaisesOnly kind (require condition e >>= f) :=
  (raisesOnly_require h).bind fun _ hcondition ↦ hf (require_eq_ok.mp hcondition)

theorem raisesOnly_checkEach {β : Type} {f : α → Except ε β} {n : ℕ} {l : List α}
    (h : ∀ a ∈ l, RaisesOnly kind (f a)) : RaisesOnly kind (checkEach (fun _ ↦ f) n l) := by
  induction l generalizing n with
  | nil => exact raisesOnly_ok _
  | cons a rest ih =>
    obtain ⟨hfirst, hrest⟩ := List.forall_mem_cons.mp h
    exact hfirst.bind fun b _ ↦ (ih hrest).bind fun bs _ ↦ raisesOnly_ok _

end

/-! ### Texts -/

/-- A text of bounded length. -/
structure BoundedText (maximum : ℕ) where
  text : Text
  /-- It is not too long. -/
  bounded : text.val.toList.length ≤ maximum
  deriving DecidableEq

variable {maximum : ℕ}

/-- The characters. -/
def BoundedText.val (text : BoundedText maximum) : String := text.text.val

def BoundedText.json (text : BoundedText maximum) : Json := .str text.val

@[simp] theorem BoundedText.canonical_json (text : BoundedText maximum) :
    text.json.canonical = text.json := rfl

theorem BoundedText.strip_val (text : BoundedText maximum) : strip text.val = text.val :=
  text.text.stripped

/-- The check of a text: what is raised when it is none, blank, or too long. -/
def checkText (maximum : ℕ) (notText empty tooLong : ε) : Json → Except ε (BoundedText maximum)
  | .str value => do
    let text ← orRaise (Text.ofString value) empty
    let h ← ensure (text.val.toList.length ≤ maximum) tooLong
    .ok ⟨text, h.down⟩
  | _ => .error notText

/-- A checked text passes the check unchanged. -/
@[simp] theorem checkText_json (notText empty tooLong : ε) (text : BoundedText maximum) :
    checkText maximum notText empty tooLong text.json = .ok text := by
  rw [BoundedText.json, checkText, BoundedText.val, Text.ofString_val]
  simp only [bind_eq_ok, orRaise_eq_ok]
  exact ⟨text.text, rfl, _, ensure_of text.bounded, rfl⟩

/-- What the check of a text raises. -/
theorem checkText_eq_error {notText empty tooLong e : ε} {value : Json}
    (h : checkText maximum notText empty tooLong value = .error e) :
    e = notText ∨ e = empty ∨ e = tooLong := by
  unfold checkText at h
  split at h
  · rcases bind_eq_error.mp h with hempty | ⟨_, -, h⟩
    · exact .inr (.inl (orRaise_eq_error hempty))
    · rcases bind_eq_error.mp h with hlong | ⟨_, -, h⟩
      · exact .inr (.inr (ensure_eq_error hlong))
      · cases h
  · cases h
    exact .inl rfl

/-- What a check is given may be missing. -/
def checkOptional (check : Json → Except ε α) : Json → Except ε (Option α)
  | .null => .ok none
  | value => some <$> check value

/-- The JSON of what may be missing. -/
def optionJson (json : α → Json) (value : Option α) : Json := (value.map json).getD .null

theorem canonical_optionJson {json : α → Json} (h : ∀ a, (json a).canonical = json a)
    (value : Option α) : (optionJson json value).canonical = optionJson json value := by
  cases value with
  | none => rfl
  | some a => exact h a

/-- What was checked passes the check unchanged. -/
theorem checkOptional_optionJson {check : Json → Except ε α} {json : α → Json}
    (hcheck : ∀ a, check (json a) = .ok a) (hnull : ∀ a, json a ≠ .null) (value : Option α) :
    checkOptional check (optionJson json value) = .ok value := by
  cases value with
  | none => rfl
  | some a =>
    have hsome : checkOptional check (json a) = some <$> check (json a) := by
      unfold checkOptional
      split
      · exact absurd ‹_› (hnull a)
      · rfl
    rw [show optionJson json (some a) = json a from rfl, hsome, hcheck]
    rfl

/-- A text that may be missing. -/
theorem checkOptional_text (notText empty tooLong : ε) (text : Option (BoundedText maximum)) :
    checkOptional (checkText maximum notText empty tooLong) (optionJson BoundedText.json text) =
      .ok text :=
  checkOptional_optionJson (checkText_json notText empty tooLong) (fun _ ↦ nofun) text

/-! ### Labels -/

section

variable [DecidableEq α]

/-- The members of a list, each where it comes first. -/
def keepFirst : List α → List α
  | [] => []
  | a :: rest => a :: (keepFirst rest).filter (· ≠ a)

theorem mem_of_mem_keepFirst {l : List α} {a : α} (h : a ∈ keepFirst l) : a ∈ l := by
  induction l with
  | nil => cases h
  | cons b rest ih =>
    rcases List.mem_cons.mp h with rfl | hrest
    · exact List.mem_cons_self
    · exact List.mem_cons_of_mem _ (ih (List.mem_filter.mp hrest).1)

theorem mem_keepFirst {l : List α} {a : α} : a ∈ keepFirst l ↔ a ∈ l := by
  refine ⟨mem_of_mem_keepFirst, fun h ↦ ?_⟩
  induction l with
  | nil => cases h
  | cons b rest ih =>
    by_cases hsame : a = b
    · exact hsame ▸ List.mem_cons_self
    · have hrest := ih ((List.mem_cons.mp h).resolve_left hsame)
      exact List.mem_cons_of_mem _ (List.mem_filter.mpr ⟨hrest, decide_eq_true hsame⟩)

theorem nodup_keepFirst (l : List α) : (keepFirst l).Nodup := by
  induction l with
  | nil => exact List.nodup_nil
  | cons a rest ih =>
    rw [keepFirst, List.nodup_cons]
    exact ⟨fun hmem ↦ by simpa using List.of_mem_filter hmem, ih.filter _⟩

theorem length_keepFirst_le (l : List α) : (keepFirst l).length ≤ l.length := by
  induction l with
  | nil => exact Nat.le_refl _
  | cons a rest ih =>
    exact Nat.succ_le_succ ((List.length_filter_le _ _).trans ih)

theorem keepFirst_ne_nil {l : List α} (h : l ≠ []) : keepFirst l ≠ [] := by
  cases l with
  | nil => exact absurd rfl h
  | cons a rest => exact List.cons_ne_nil _ _

/-- Nothing is dropped from a list without duplicates. -/
theorem keepFirst_eq_self {l : List α} (h : l.Nodup) : keepFirst l = l := by
  induction l with
  | nil => rfl
  | cons a rest ih =>
    obtain ⟨hnot, hrest⟩ := List.nodup_cons.mp h
    rw [keepFirst, ih hrest, List.filter_eq_self.mpr]
    exact fun b hb ↦ decide_eq_true fun hsame ↦ hnot (hsame ▸ hb)

end

theorem nodup_eraseDups [BEq α] [LawfulBEq α] (l : List α) : l.eraseDups.Nodup := by
  induction hlength : l.length using Nat.strong_induction_on generalizing l with
  | _ n ih =>
    cases l with
    | nil => simp
    | cons a rest =>
      rw [List.eraseDups_cons, List.nodup_cons]
      refine ⟨by simp, ih _ ?_ _ rfl⟩
      rw [← hlength]
      exact Nat.lt_succ_of_le (List.length_filter_le _ _)

/-- The result of a check of every item of a list, in order. -/
def checkItems {β : Type} (f : α → Except ε β) :
    (l : List α) → Except ε {items : List β // items.length = l.length}
  | [] => .ok ⟨[], rfl⟩
  | a :: rest => do
    let item ← f a
    let items ← checkItems f rest
    .ok ⟨item :: items.val, congrArg Nat.succ items.property⟩

theorem exists_checkItems {β : Type} {f : α → Except ε β} {l : List α}
    (h : ∀ a ∈ l, ∃ b, f a = .ok b) : ∃ items, checkItems f l = .ok items := by
  induction l with
  | nil => exact ⟨_, rfl⟩
  | cons a rest ih =>
    obtain ⟨hfirst, hrest⟩ := List.forall_mem_cons.mp h
    obtain ⟨item, hitem⟩ := hfirst
    obtain ⟨items, hitems⟩ := ih hrest
    refine ⟨⟨item :: items.val, congrArg Nat.succ items.property⟩, ?_⟩
    rw [checkItems, hitem, hitems]
    rfl

/-- Items that were checked pass the check unchanged. -/
theorem checkItems_map {β : Type} {f : α → Except ε β} {g : β → α} (h : ∀ b, f (g b) = .ok b)
    (l : List β) : checkItems f (l.map g) = .ok ⟨l, (List.length_map g).symm⟩ := by
  induction l with
  | nil => rfl
  | cons b rest ih =>
    show checkItems f (g b :: rest.map g) = _
    rw [checkItems, h b, ih]
    rfl

/-! ### Beginnings -/

/-- What follows a beginning. -/
def afterPrefix (start s : String) : Option String :=
  if start.toList <+: s.toList then some (String.ofList (s.toList.drop start.toList.length)) else none

@[simp] theorem afterPrefix_append (start rest : String) : afterPrefix start (start ++ rest) = some rest := by
  rw [afterPrefix, String.toList_append, if_pos (List.prefix_append _ _), List.drop_left,
    String.ofList_toList]

theorem afterPrefix_eq_some {start s rest : String} (h : afterPrefix start s = some rest) :
    s = start ++ rest := by
  unfold afterPrefix at h
  split_ifs at h with hstart
  obtain ⟨more, hmore⟩ := hstart
  rw [Option.some.injEq, ← hmore, List.drop_left] at h
  rw [← String.toList_inj, String.toList_append, ← h, String.toList_ofList, hmore]

end N0te.Library
