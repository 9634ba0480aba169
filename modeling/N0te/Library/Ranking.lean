import Mathlib.Data.List.Sort
import Mathlib.Data.Prod.Lex
import Mathlib.Data.String.Basic

/-!
# Ranking by a key

`rankBy` sorts a list by a key, and leaves items of one key in the order they had. So the items of a
key are those of the list (`filter_rankBy`), and the rank of a list does not depend on the order of
the list exactly as far as items of one key are equal (`take_rankBy_eq_of_perm`).
-/

set_option autoImplicit false
set_option relaxedAutoImplicit false

namespace N0te.Library

section

variable {α β κ : Type} [LinearOrder κ] {key : α → κ} {l m : List α}

/-- A list in the order of a key. The sort is stable. -/
def rankBy (key : α → κ) (l : List α) : List α := l.insertionSort fun a b ↦ key a ≤ key b

theorem rankBy_perm (key : α → κ) (l : List α) : (rankBy key l).Perm l :=
  List.perm_insertionSort _ l

@[simp] theorem mem_rankBy {a : α} : a ∈ rankBy key l ↔ a ∈ l := (rankBy_perm key l).mem_iff

@[simp] theorem length_rankBy : (rankBy key l).length = l.length := (rankBy_perm key l).length_eq

theorem pairwise_rankBy (key : α → κ) (l : List α) :
    (rankBy key l).Pairwise fun a b ↦ key a ≤ key b := by
  have : Std.Total fun a b : α ↦ key a ≤ key b := ⟨fun a b ↦ le_total (key a) (key b)⟩
  have : IsTrans α fun a b : α ↦ key a ≤ key b := ⟨fun _ _ _ ↦ le_trans⟩
  exact List.pairwise_insertionSort _ l

/-- Lists of the same items have the same keys, in order. -/
theorem map_key_rankBy (key : α → κ) (hperm : l.Perm m) :
    (rankBy key l).map key = (rankBy key m).map key := by
  have hsorted (l : List α) : ((rankBy key l).map key).Pairwise (· ≤ ·) :=
    List.pairwise_map.mpr (pairwise_rankBy key l)
  have hkeys : ((rankBy key l).map key).Perm ((rankBy key m).map key) :=
    (((rankBy_perm key l).trans hperm).trans (rankBy_perm key m).symm).map key
  exact hkeys.eq_of_pairwise' (hsorted l) (hsorted m)

/-- Where items of one key are equal, the rank of a list does not depend on its order. -/
theorem rankBy_eq_of_perm (hperm : l.Perm m)
    (hkey : ∀ a ∈ l, ∀ b ∈ l, key a = key b → a = b) : rankBy key l = rankBy key m := by
  have hkeys := map_key_rankBy key hperm
  apply List.ext_getElem (by simp [hperm.length_eq])
  intro i hl hm
  apply hkey
  · exact mem_rankBy.mp (List.getElem_mem hl)
  · exact hperm.mem_iff.mpr (mem_rankBy.mp (List.getElem_mem hm))
  · rw [← List.getElem_map key, ← List.getElem_map key]
    · simp only [hkeys]
    · simpa using hm
    · simpa using hl

/-- Ranking comes before a map that keeps the keys. -/
theorem map_rankBy {key' : β → κ} (f : α → β) (h : ∀ a ∈ l, key' (f a) = key a) :
    (rankBy key l).map f = rankBy key' (l.map f) :=
  List.map_insertionSort _ _ f l fun a ha b hb ↦ by rw [h a ha, h b hb]

/-- Items of one key keep their order. -/
theorem filter_rankBy (k : κ) :
    (rankBy key l).filter (fun a ↦ key a = k) = l.filter (fun a ↦ key a = k) := by
  have : Std.Total fun a b : α ↦ key a ≤ key b := ⟨fun a b ↦ le_total (key a) (key b)⟩
  have : IsTrans α fun a b : α ↦ key a ≤ key b := ⟨fun _ _ _ ↦ le_trans⟩
  have hsame : (l.filter fun a ↦ key a = k).Pairwise fun a b ↦ key a ≤ key b := by
    refine List.pairwise_of_forall_mem_list fun a ha b hb ↦ ?_
    simp only [List.mem_filter, decide_eq_true_eq] at ha hb
    rw [ha.2, hb.2]
  have hsub := (List.sublist_insertionSort hsame List.filter_sublist).filter fun a ↦ key a = k
  simp only [List.filter_filter, Bool.and_self] at hsub
  exact (hsub.eq_of_length ((rankBy_perm key l).filter _).length_eq.symm).symm

/-- A sorted list is its items before a key, of it and after it. -/
theorem eq_append_of_pairwise (h : l.Pairwise fun a b ↦ key a ≤ key b) (k : κ) :
    l = l.filter (fun a ↦ key a < k) ++
      (l.filter (fun a ↦ key a = k) ++ l.filter fun a ↦ k < key a) := by
  induction l with
  | nil => rfl
  | cons a rest ih =>
    obtain ⟨hfirst, hrest⟩ := List.pairwise_cons.mp h
    have hnone {j : κ} (hj : j ≤ key a) : rest.filter (fun b ↦ key b < j) = [] :=
      List.filter_eq_nil_iff.mpr fun b hb ↦ by simpa using hj.trans (hfirst b hb)
    rcases lt_trichotomy (key a) k with hlt | heq | hgt
    · rw [List.filter_cons_of_pos (by simpa using hlt),
        List.filter_cons_of_neg (by simpa using hlt.ne),
        List.filter_cons_of_neg (by simpa using hlt.le), List.cons_append, ← ih hrest]
    · have hsplit := ih hrest
      rw [hnone heq.ge, List.nil_append] at hsplit
      rw [List.filter_cons_of_neg (by simp [heq]), List.filter_cons_of_pos (by simpa using heq),
        List.filter_cons_of_neg (by simp [heq]), hnone heq.ge, List.nil_append, List.cons_append,
        ← hsplit]
    · have hall : rest.filter (fun b ↦ k < key b) = rest :=
        List.filter_eq_self.mpr fun b hb ↦ by simpa using hgt.trans_le (hfirst b hb)
      have hequal : rest.filter (fun b ↦ key b = k) = [] :=
        List.filter_eq_nil_iff.mpr fun b hb ↦ by simpa using (hgt.trans_le (hfirst b hb)).ne'
      rw [List.filter_cons_of_neg (by simpa using hgt.le),
        List.filter_cons_of_neg (by simpa using hgt.ne'),
        List.filter_cons_of_pos (by simpa using hgt), hnone hgt.le, hequal, hall, List.nil_append,
        List.nil_append]

theorem length_filter_rankBy (p : α → Bool) : ((rankBy key l).filter p).length = l.countP p := by
  rw [((rankBy_perm key l).filter p).length_eq, List.countP_eq_length_filter]

/-- The first item of a key stands where the items before the key end. -/
theorem getElem?_rankBy_countP {a : α} (ha : a ∈ l) :
    (rankBy key l)[l.countP fun b ↦ key b < key a]? =
      (l.filter fun b ↦ key b = key a).head? := by
  have hne : l.filter (fun b ↦ key b = key a) ≠ [] :=
    List.ne_nil_of_mem (List.mem_filter.mpr ⟨ha, by simp⟩)
  rw [eq_append_of_pairwise (pairwise_rankBy key l) (key a), filter_rankBy,
    List.getElem?_append_right (length_filter_rankBy _).le, length_filter_rankBy, Nat.sub_self,
    List.getElem?_append_left (List.length_pos_iff.mpr hne), List.head?_eq_getElem?]

/-- A key of an item comes later than all smaller keys. -/
theorem countP_le_of_getElem? {a : α} {i : ℕ} (h : (rankBy key l)[i]? = some a) :
    l.countP (fun b ↦ key b < key a) ≤ i := by
  by_contra hlt
  rw [eq_append_of_pairwise (pairwise_rankBy key l) (key a),
    List.getElem?_append_left (by rw [length_filter_rankBy]; omega)] at h
  have hmem := List.mem_of_getElem? h
  simp at hmem

/-- The first `n` items of the ranks of two lists of the same items are the same, where the items
of a key that begins among them are equal. -/
theorem take_rankBy_eq_of_perm {n : ℕ} (hperm : l.Perm m)
    (hkey : ∀ a ∈ l, ∀ b ∈ l, key a = key b → l.countP (fun c ↦ key c < key a) < n → a = b) :
    (rankBy key l).take n = (rankBy key m).take n := by
  have hkeys := map_key_rankBy key hperm
  apply List.ext_getElem?
  intro i
  rw [List.getElem?_take, List.getElem?_take]
  split_ifs with hi
  · have hsame : ((rankBy key l)[i]?).map key = ((rankBy key m)[i]?).map key := by
      rw [← List.getElem?_map, ← List.getElem?_map, hkeys]
    cases hl : (rankBy key l)[i]? with
    | none =>
      rw [hl, Option.map_none, eq_comm, Option.map_eq_none_iff] at hsame
      exact hsame.symm
    | some a =>
      rw [hl, Option.map_some, eq_comm, Option.map_eq_some_iff] at hsame
      obtain ⟨b, hb, hab⟩ := hsame
      have ha : a ∈ l := mem_rankBy.mp (List.mem_of_getElem? hl)
      have hbl : b ∈ l := hperm.mem_iff.mpr (mem_rankBy.mp (List.mem_of_getElem? hb))
      rw [hb, hkey a ha b hbl hab.symm ((countP_le_of_getElem? hl).trans_lt hi)]
  · rfl

end

/-! ### The first of each key -/

section

variable {α κ : Type} [DecidableEq κ] {key : α → κ} {seen : List κ} {l : List α}

/-- The first item of each key that was not seen. -/
def firstByKey (key : α → κ) : List κ → List α → List α
  | _, [] => []
  | seen, a :: rest =>
    if key a ∈ seen then firstByKey key seen rest else a :: firstByKey key (key a :: seen) rest

/-- The keys that are kept are those that were not seen. -/
theorem mem_map_firstByKey {k : κ} :
    k ∈ (firstByKey key seen l).map key ↔ k ∉ seen ∧ k ∈ l.map key := by
  induction l generalizing seen with
  | nil => simp [firstByKey]
  | cons a rest ih =>
    rw [firstByKey, List.map_cons, List.mem_cons]
    split_ifs with hseen
    · rw [ih]
      refine ⟨fun h ↦ ⟨h.1, .inr h.2⟩, fun h ↦ ⟨h.1, h.2.resolve_left ?_⟩⟩
      rintro rfl
      exact h.1 hseen
    · rw [List.map_cons, List.mem_cons, ih, List.mem_cons]
      by_cases hk : k = key a
      · simp [hk, hseen]
      · simp [hk]

theorem nodup_map_firstByKey : ((firstByKey key seen l).map key).Nodup := by
  induction l generalizing seen with
  | nil => exact List.nodup_nil
  | cons a rest ih =>
    rw [firstByKey]
    split_ifs
    · exact ih
    · rw [List.map_cons, List.nodup_cons]
      exact ⟨fun hmem ↦ (mem_map_firstByKey.mp hmem).1 List.mem_cons_self, ih⟩

end

end N0te.Library
