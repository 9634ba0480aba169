import Mathlib.Data.List.Basic

/-!
# Lists joined by a separator

Two lists joined by a separator are determined by their join as long as one of them does not hold
the separator. Where both may hold it, only some lists are taken, those that begin and end with
items of two given kinds (`Bounded`). Such a pair is the only one that is joined to its list exactly
if no other separator stands between an item that a list may end with and one that it may begin with
(`unique_iff_splitsOnce`).
-/

set_option autoImplicit false
set_option relaxedAutoImplicit false

namespace N0te.Library

variable {α : Type} {separator : α} {begins ends : α → Prop} {a b x y : List α}

/-- A list begins with an item it may begin with. -/
def Begins (begins : α → Prop) (l : List α) : Prop := ∃ c ∈ l.head?, begins c

/-- A list ends with an item it may end with. -/
def Ends (ends : α → Prop) (l : List α) : Prop := ∃ c ∈ l.getLast?, ends c

/-- A list begins and ends with items it may begin and end with. -/
structure Bounded (begins ends : α → Prop) (l : List α) : Prop where
  begins : Begins begins l
  ends : Ends ends l

/-- No other separator of a joined pair stands between an item that a list may end with and one that
it may begin with. -/
def SplitsOnce (separator : α) (begins ends : α → Prop) (a b : List α) : Prop :=
  ∀ x y, x ++ separator :: y = a ++ separator :: b → x ≠ a → ¬ (Ends ends x ∧ Begins begins y)

theorem Begins.append (h : Begins begins a) (b : List α) : Begins begins (a ++ b) := by
  obtain ⟨c, hc, hbegins⟩ := h
  exact ⟨c, List.mem_head?_append_of_mem_head? hc, hbegins⟩

theorem Ends.append (h : Ends ends b) (a : List α) : Ends ends (a ++ b) := by
  obtain ⟨c, hc, hends⟩ := h
  exact ⟨c, List.mem_getLast?_append_of_mem_getLast? hc, hends⟩

/-- A joined pair of bounded lists is the only one with its list, unless it splits elsewhere. -/
theorem unique_iff_splitsOnce (ha : Bounded begins ends a) (hb : Bounded begins ends b) :
    (∀ x y, Bounded begins ends x → Bounded begins ends y →
      x ++ separator :: y = a ++ separator :: b → x = a ∧ y = b) ↔
        SplitsOnce separator begins ends a b := by
  constructor
  · rintro hunique x y heq hne ⟨hends, hbegins⟩
    refine hne (hunique x y ⟨?_, hends⟩ ⟨hbegins, ?_⟩ heq).1
    · obtain ⟨c, hc, -⟩ := hends
      have hnonempty : x ≠ [] := by
        rintro rfl
        cases hc
      have hhead : (a ++ separator :: b).head? = x.head? := by
        rw [← heq, List.head?_append_of_ne_nil x hnonempty]
      obtain ⟨d, hd, hd'⟩ := ha.begins.append (separator :: b)
      exact ⟨d, hhead ▸ hd, hd'⟩
    · obtain ⟨c, hc, -⟩ := hbegins
      have hnonempty : y ≠ [] := by
        rintro rfl
        cases hc
      have hlast : (a ++ separator :: b).getLast? = y.getLast? := by
        rw [← heq, List.append_cons, List.getLast?_append_of_ne_nil _ hnonempty]
      obtain ⟨d, hd, hd'⟩ := hb.ends.append (a ++ [separator])
      rw [List.append_assoc, List.singleton_append] at hd
      exact ⟨d, hlast ▸ hd, hd'⟩
  · intro honce x y hx hy heq
    by_cases hsame : x = a
    · subst hsame
      exact ⟨rfl, (List.cons.inj (List.append_cancel_left heq)).2⟩
    · exact absurd ⟨hx.ends, hy.begins⟩ (honce x y heq hsame)

/-- What has no separator before it is determined. -/
theorem append_separator_inj (hx : separator ∉ x) (ha : separator ∉ a)
    (heq : x ++ separator :: y = a ++ separator :: b) : x = a ∧ y = b := by
  induction x generalizing a with
  | nil =>
    cases a with
    | nil => exact ⟨rfl, (List.cons.inj heq).2⟩
    | cons c rest => exact absurd (List.mem_cons.mpr (.inl (List.cons.inj heq).1)) ha
  | cons c rest ih =>
    rw [List.mem_cons, not_or] at hx
    cases a with
    | nil => exact absurd (List.cons.inj heq).1.symm hx.1
    | cons d tail =>
      rw [List.mem_cons, not_or] at ha
      obtain ⟨hsame, hrest⟩ := List.cons.inj heq
      obtain ⟨htail, hy⟩ := ih hx.2 ha.2 hrest
      exact ⟨by rw [hsame, htail], hy⟩

/-- What has no separator after it is determined. -/
theorem append_separator_inj_right (hy : separator ∉ y) (hb : separator ∉ b)
    (heq : x ++ separator :: y = a ++ separator :: b) : x = a ∧ y = b := by
  have hreverse := congrArg List.reverse heq
  simp only [List.reverse_append, List.reverse_cons, List.append_assoc, List.singleton_append]
    at hreverse
  obtain ⟨hlast, hfirst⟩ := append_separator_inj (by simpa using hy) (by simpa using hb) hreverse
  exact ⟨List.reverse_injective hfirst, List.reverse_injective hlast⟩

end N0te.Library
