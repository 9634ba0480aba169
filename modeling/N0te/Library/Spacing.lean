import Mathlib.Data.List.Chain
import Mathlib.Data.List.Infix
import N0te.Library.Words

/-!
# Single separators

`squeeze` drops the blanks at both ends of a list and puts one separator for the blanks between two
others. On characters it is `collapse` (`collapse_eq_squeeze`), and it leaves a `SingleSpaced` text.
-/

set_option autoImplicit false
set_option relaxedAutoImplicit false

namespace N0te.Library

variable {α : Type}

/-! ### Squeezing -/

/-- What was read of a list: nothing but blanks, something at the end, or blanks at the end. -/
inductive Spacing where
  | start
  | inside
  | pending
  deriving DecidableEq

section

variable (blank : α → Bool) (separator : α)

/-- What is read after a blank. -/
def Spacing.afterBlank : Spacing → Spacing
  | .start => .start
  | _ => .pending

/-- The separator that stands before what is read next. -/
def Spacing.before (separator : α) : Spacing → List α
  | .pending => [separator]
  | _ => []

/-- Drop the blanks at both ends, and put one separator for those between. -/
def squeeze : Spacing → List α → List α
  | _, [] => []
  | s, a :: rest =>
    if blank a then squeeze s.afterBlank rest else s.before separator ++ a :: squeeze .inside rest

/-- What was read after a list. -/
def spacingAfter : Spacing → List α → Spacing
  | s, [] => s
  | s, a :: rest => spacingAfter (if blank a then s.afterBlank else .inside) rest

variable {blank separator} {a : α} {s : Spacing} {l m : List α}

theorem squeeze_blank (h : blank a = true) :
    squeeze blank separator s (a :: l) = squeeze blank separator s.afterBlank l := by
  rw [squeeze, if_pos h]

theorem squeeze_of_not_blank (h : blank a = false) :
    squeeze blank separator s (a :: l) =
      s.before separator ++ a :: squeeze blank separator .inside l := by
  rw [squeeze, if_neg (by simp [h])]

theorem squeeze_append (s : Spacing) (l m : List α) : squeeze blank separator s (l ++ m) =
    squeeze blank separator s l ++ squeeze blank separator (spacingAfter blank s l) m := by
  induction l generalizing s with
  | nil => rfl
  | cons a rest ih =>
    rw [List.cons_append, squeeze, squeeze, spacingAfter]
    split_ifs with hblank
    · exact ih _
    · rw [ih, List.append_assoc, List.cons_append]

/-- Blanks alone leave nothing. -/
theorem squeeze_eq_nil (h : ∀ a ∈ l, blank a = true) (s : Spacing) :
    squeeze blank separator s l = [] := by
  induction l generalizing s with
  | nil => rfl
  | cons a rest ih =>
    obtain ⟨ha, hrest⟩ := List.forall_mem_cons.mp h
    rw [squeeze_blank ha, ih hrest]

/-- What is no blank is kept. -/
theorem mem_squeeze (ha : blank a = false) (hseparator : blank separator = true) (s : Spacing) :
    a ∈ squeeze blank separator s l ↔ a ∈ l := by
  have hne : a ≠ separator := by
    rintro rfl
    rw [ha] at hseparator
    cases hseparator
  induction l generalizing s with
  | nil => exact Iff.rfl
  | cons b rest ih =>
    by_cases hb : blank b = true
    · have hother : a ≠ b := by
        rintro rfl
        rw [ha] at hb
        cases hb
      rw [squeeze_blank hb, List.mem_cons, or_iff_right hother]
      exact ih _
    · have hbefore : a ∉ s.before separator := by
        cases s <;> simp [Spacing.before, hne]
      rw [squeeze_of_not_blank (by simpa using hb), List.mem_append, or_iff_right hbefore,
        List.mem_cons, List.mem_cons]
      exact or_congr_right (ih _)

/-- How many are kept. -/
theorem count_squeeze (hseparator : blank separator = true) (s : Spacing) :
    (squeeze blank separator s l).countP (fun a ↦ !blank a) = l.countP fun a ↦ !blank a := by
  induction l generalizing s with
  | nil => rfl
  | cons b rest ih =>
    by_cases hb : blank b = true
    · rw [squeeze_blank hb, ih, List.countP_cons_of_neg (by simp [hb])]
    · have hbefore : (s.before separator).countP (fun a ↦ !blank a) = 0 := by
        cases s <;> simp [Spacing.before, hseparator]
      rw [squeeze_of_not_blank (by simpa using hb), List.countP_append, hbefore, Nat.zero_add,
        List.countP_cons_of_pos (by simpa using hb), List.countP_cons_of_pos (by simpa using hb),
        ih]

end

/-! ### Texts -/

/-- After blanks the rest is what it is at the start, behind one separator. -/
theorem squeeze_pending {blank : α → Bool} {separator : α} (l : List α) :
    squeeze blank separator .pending l =
      if squeeze blank separator .start l = [] then []
      else separator :: squeeze blank separator .start l := by
  induction l with
  | nil => rfl
  | cons a rest ih =>
    by_cases ha : blank a = true
    · rw [squeeze_blank ha, squeeze_blank ha]
      exact ih
    · have hfalse : blank a = false := by simpa using ha
      rw [squeeze_of_not_blank hfalse, squeeze_of_not_blank hfalse]
      rfl

theorem intercalate_splitWords (word l : List Char) : [' '].intercalate (splitWords word l) =
    word ++ squeeze isSpace ' ' (if word = [] then .start else .inside) l := by
  induction l generalizing word with
  | nil =>
    rw [splitWords, endWord]
    split_ifs with hempty <;> simp [hempty, squeeze, List.intercalate]
  | cons c rest ih =>
    rw [splitWords]
    by_cases hspace : isSpace c = true
    · rw [if_pos hspace, squeeze_blank hspace, endWord]
      by_cases hempty : word = []
      · rw [if_pos hempty, if_pos hempty, List.nil_append, ih]
        simp [hempty, Spacing.afterBlank]
      · have hrest := ih []
        rw [if_pos rfl, List.nil_append] at hrest
        have hpending : Spacing.afterBlank (if word = [] then .start else .inside) = .pending := by
          rw [if_neg hempty]
          rfl
        rw [if_neg hempty, hpending, squeeze_pending, ← hrest]
        rcases hsplit : splitWords [] rest with _ | ⟨next, more⟩
        · simp [List.intercalate]
        · have hnonempty : [' '].intercalate (next :: more) ≠ [] := by
            have hword : IsWord next := isWord_of_mem_splitWords (List.forall_mem_nil _)
              (hsplit ▸ List.mem_cons_self)
            intro hnil
            cases more <;> simp [List.intercalate, hword.1] at hnil
          rw [if_neg hnonempty]
          simp [List.intercalate]
    · have hfalse : isSpace c = false := by simpa using hspace
      rw [if_neg hspace, ih, squeeze_of_not_blank hfalse, if_neg (by simp), List.append_assoc]
      split_ifs <;> simp [Spacing.before]

/-- `" ".join(value.split())` puts one space for the whitespace between words. -/
theorem collapse_eq_squeeze (s : String) :
    (collapse s).toList = squeeze isSpace ' ' .start s.toList := by
  rw [collapse, String.toList_ofList, intercalate_splitWords, if_pos rfl, List.nil_append]

/-- Single spaces, and no other whitespace. -/
def SingleSpaced (l : List Char) : Prop :=
  (∀ c ∈ l, isSpace c = true → c = ' ') ∧ l.IsChain fun a b ↦ isSpace a = true → isSpace b = false

instance (l : List Char) : Decidable (SingleSpaced l) :=
  @instDecidableAnd _ _ (List.decidableBAll _ _) inferInstance

theorem SingleSpaced.part {l m : List Char} (h : SingleSpaced l) (hm : m <:+: l) :
    SingleSpaced m := by
  refine ⟨fun c hc ↦ h.1 c (hm.subset hc), ?_⟩
  obtain ⟨before, after, rfl⟩ := hm
  exact h.2.left_of_append.right_of_append

theorem SingleSpaced.cons {c : Char} {l : List Char} (hc : isSpace c = false) (h : SingleSpaced l) :
    SingleSpaced (c :: l) := by
  refine ⟨List.forall_mem_cons.mpr ⟨fun hspace ↦ ?_, h.1⟩,
    List.IsChain.cons h.2 fun _ _ hspace ↦ ?_⟩
  · rw [hc] at hspace
    cases hspace
  · rw [hc] at hspace
    cases hspace

theorem SingleSpaced.space_cons {c : Char} {l : List Char} (hc : isSpace c = false)
    (h : SingleSpaced (c :: l)) : SingleSpaced (' ' :: c :: l) :=
  ⟨List.forall_mem_cons.mpr ⟨fun _ ↦ rfl, h.1⟩, List.IsChain.cons_cons (fun _ ↦ hc) h.2⟩

theorem singleSpaced_cons_squeeze (l : List Char) {c : Char} (hc : isSpace c = false) :
    SingleSpaced (c :: squeeze isSpace ' ' .inside l) ∧
      SingleSpaced (c :: squeeze isSpace ' ' .pending l) := by
  have hnil : SingleSpaced [] := ⟨List.forall_mem_nil _, List.IsChain.nil⟩
  induction l generalizing c with
  | nil => exact ⟨hnil.cons hc, hnil.cons hc⟩
  | cons a rest ih =>
    by_cases ha : isSpace a = true
    · rw [squeeze_blank ha, squeeze_blank ha]
      exact ⟨(ih hc).2, (ih hc).2⟩
    · have hfalse : isSpace a = false := by simpa using ha
      rw [squeeze_of_not_blank hfalse, squeeze_of_not_blank hfalse]
      exact ⟨(ih hfalse).1.cons hc, ((ih hfalse).1.space_cons hfalse).cons hc⟩

theorem singleSpaced_squeeze (l : List Char) : SingleSpaced (squeeze isSpace ' ' .start l) := by
  induction l with
  | nil => exact ⟨List.forall_mem_nil _, List.IsChain.nil⟩
  | cons a rest ih =>
    by_cases ha : isSpace a = true
    · rw [squeeze_blank ha]
      exact ih
    · have hfalse : isSpace a = false := by simpa using ha
      rw [squeeze_of_not_blank hfalse]
      exact (singleSpaced_cons_squeeze rest hfalse).1

end N0te.Library
