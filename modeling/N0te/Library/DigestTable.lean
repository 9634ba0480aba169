import Mathlib.Data.List.Nodup

/-!
# Tables of digests

A digest that is known for some texts, and distinct from these for any other text: it has no collisions
(`tableDigest_injective`).
-/

set_option autoImplicit false
set_option relaxedAutoImplicit false

namespace N0te.Library

/-- A digest that is known for some texts. -/
def tableDigest (table : List (String × String)) (s : String) : String :=
  (table.lookup s).getD ("x" ++ s)

/-- What is looked up is an entry. -/
theorem mem_of_lookup_digest {table : List (String × String)} {s value : String}
    (h : table.lookup s = some value) : (s, value) ∈ table := by
  obtain ⟨before, rest, rfl, -⟩ := List.lookup_eq_some_iff.mp h
  exact List.mem_append_right before List.mem_cons_self

/-- Distinct digests, none of which begins as those of unknown texts do. -/
theorem tableDigest_injective {table : List (String × String)}
    (hdistinct : (table.map Prod.snd).Nodup)
    (hplain : ∀ value ∈ table.map Prod.snd, value.toList.head? ≠ some 'x') :
    Function.Injective (tableDigest table) := by
  have hunknown {s t value : String} (h : table.lookup s = some value) : value ≠ "x" ++ t := by
    rintro rfl
    refine hplain _ (List.mem_map_of_mem (mem_of_lookup_digest h)) ?_
    rw [String.toList_append]
    rfl
  intro s t heq
  unfold tableDigest at heq
  cases hs : table.lookup s with
  | none =>
    cases ht : table.lookup t with
    | none =>
      rw [hs, ht] at heq
      exact String.append_right_inj "x" |>.mp heq
    | some value =>
      rw [hs, ht] at heq
      exact absurd heq.symm (hunknown ht)
  | some value =>
    cases ht : table.lookup t with
    | none =>
      rw [hs, ht] at heq
      exact absurd heq (hunknown hs)
    | some value' =>
      rw [hs, ht] at heq
      have hsame := List.inj_on_of_nodup_map hdistinct (mem_of_lookup_digest hs) (mem_of_lookup_digest ht) heq
      exact congrArg Prod.fst hsame

theorem tableDigest_self (text value : String) (rest : List (String × String)) :
    tableDigest ((text, value) :: rest) text = value := by
  rw [tableDigest, List.lookup_cons_self]
  rfl

theorem tableDigest_of_ne {text key : String} (h : text ≠ key) (value : String)
    (rest : List (String × String)) :
    tableDigest ((key, value) :: rest) text = tableDigest rest text := by
  rw [tableDigest, tableDigest, List.lookup_cons, beq_false_of_ne h]

end N0te.Library
