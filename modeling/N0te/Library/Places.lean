import Mathlib.Data.List.Infix

/-!
# Places in a tree

A place is the list of the names that lead to it, and it lies within another that is a prefix of it. Two
places overlap when one lies within the other, that is when something lies within both
(`overlap_iff_exists`). What is said to be at a place may be at another: `image` is where the places
around one place then are (`exists_leads_within_iff`).
-/

set_option autoImplicit false
set_option relaxedAutoImplicit false

namespace N0te.Library

section

variable {α : Type} {p q r c : List α}

/-- One place lies within the other. -/
def Overlap (p q : List α) : Prop := q <+: p ∨ p <+: q

instance [DecidableEq α] (p q : List α) : Decidable (Overlap p q) :=
  inferInstanceAs (Decidable (_ ∨ _))

theorem Overlap.symm (h : Overlap p q) : Overlap q p := h.elim .inr .inl

/-- Two places overlap when something lies within both. -/
theorem overlap_iff_exists : Overlap p q ↔ ∃ x, p <+: x ∧ q <+: x := by
  constructor
  · rintro (h | h)
    · exact ⟨p, List.prefix_rfl, h⟩
    · exact ⟨q, h, List.prefix_rfl⟩
  · rintro ⟨x, hp, hq⟩
    exact (List.prefix_or_prefix_of_prefix hp hq).symm

theorem overlap_of_within (h : p <+: q) (hoverlap : Overlap q r) : Overlap p r := by
  rw [overlap_iff_exists] at hoverlap ⊢
  obtain ⟨x, hq, hr⟩ := hoverlap
  exact ⟨x, h.trans hq, hr⟩

/-! ### What is elsewhere -/

/-- What lies within a source is at the same place within a target. -/
def Leads (source target x y : List α) : Prop := ∃ rest, x = source ++ rest ∧ y = target ++ rest

/-- Where a place is, or what of it is elsewhere. -/
def image [DecidableEq α] (source target p : List α) : Option (List α) :=
  if source <+: p then some (target ++ p.drop source.length)
  else if p <+: source then some target
  else none

/-- Something within a place is elsewhere within another if and only if its image overlaps the other. -/
theorem exists_leads_within_iff [DecidableEq α] {source target : List α} :
    (∃ x y, p <+: x ∧ Leads source target x y ∧ c <+: y) ↔
      ∃ q ∈ image source target p, Overlap q c := by
  unfold image
  by_cases hsource : source <+: p
  · obtain ⟨rest, rfl⟩ := hsource
    simp only [List.prefix_append, if_true, List.drop_left, Option.mem_def, Option.some.injEq,
      exists_eq_left', overlap_iff_exists]
    constructor
    · rintro ⟨_, _, hx, ⟨more, rfl, rfl⟩, hc⟩
      rw [List.prefix_append_right_inj] at hx
      exact ⟨target ++ more, (List.prefix_append_right_inj _).mpr hx, hc⟩
    · rintro ⟨_, ⟨more, rfl⟩, hc⟩
      refine ⟨source ++ rest ++ more, _, List.prefix_append _ _, ⟨rest ++ more, ?_, ?_⟩, hc⟩
      · rw [List.append_assoc]
      · rw [List.append_assoc]
  · rw [if_neg hsource]
    by_cases hp : p <+: source
    · simp only [hp, if_true, Option.mem_def, Option.some.injEq, exists_eq_left', overlap_iff_exists]
      constructor
      · rintro ⟨_, _, -, ⟨more, rfl, rfl⟩, hc⟩
        exact ⟨target ++ more, List.prefix_append _ _, hc⟩
      · rintro ⟨_, ⟨more, rfl⟩, hc⟩
        exact ⟨source ++ more, _, hp.trans (List.prefix_append _ _), ⟨more, rfl, rfl⟩, hc⟩
    · simp only [hp, if_false, Option.mem_def, reduceCtorEq, false_and, exists_const, iff_false]
      rintro ⟨_, _, hx, ⟨more, rfl, rfl⟩, -⟩
      rcases List.prefix_or_prefix_of_prefix hx (List.prefix_append source more) with h | h
      · exact hp h
      · exact hsource h

end

end N0te.Library
