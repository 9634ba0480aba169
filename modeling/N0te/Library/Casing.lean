import N0te.Library.Words

/-!
# Lower case

What a version of Unicode says of the lowercase of characters is a `CaseTable`, and `CaseTable.lower` is
`str.lower()` by it. A character may become several. Only the lowercase of the capital sigma depends
on the characters around it (`isFinalSigma`).
-/

set_option autoImplicit false
set_option relaxedAutoImplicit false

namespace N0te.Library

/-- The lowercase mappings of a version of Unicode. -/
structure CaseTable where
  /-- The full lowercase mapping. -/
  lowerChar : Char → List Char
  /-- The property `Cased`. -/
  cased : Char → Bool
  /-- The property `Case_Ignorable`. -/
  caseIgnorable : Char → Bool
  /-- Something is left of every character. -/
  lowerChar_ne_nil : ∀ c, lowerChar c ≠ []
  /-- The lowercase of what is no whitespace has no whitespace. -/
  lowerChar_no_space : ∀ c, isSpace c = false → ∀ d ∈ lowerChar c, isSpace d = false

namespace CaseTable

variable (table : CaseTable)

def capitalSigma : Char := Char.ofNat 0x3a3

/-- Whether a capital sigma ends a word. The characters before it are given from the last to the
first. -/
def isFinalSigma (before after : List Char) : Bool :=
  (before.find? fun c ↦ !table.caseIgnorable c).any table.cased &&
    !(after.find? fun c ↦ !table.caseIgnorable c).any table.cased

/-- `str.lower` on the characters that follow some others. -/
def lowerChars : List Char → List Char → List Char
  | _, [] => []
  | before, c :: rest =>
    (if c = capitalSigma then [Char.ofNat (if table.isFinalSigma before rest then 0x3c2 else 0x3c3)]
      else table.lowerChar c) ++ lowerChars (c :: before) rest

/-- `str.lower()`. -/
def lower (s : String) : String := String.ofList (table.lowerChars [] s.toList)

/-! ### Blank texts -/

variable {table}

/-- The lowercase of a character that is no whitespace has a character that is none. -/
theorem exists_mem_lowerChars {l : List Char} {c : Char} (hc : c ∈ l) (hspace : isSpace c = false)
    (before : List Char) : ∃ d ∈ table.lowerChars before l, isSpace d = false := by
  induction l generalizing before with
  | nil => cases hc
  | cons head rest ih =>
    rw [lowerChars]
    rcases List.mem_cons.mp hc with rfl | hrest
    · by_cases hsigma : c = capitalSigma
      · rw [if_pos hsigma]
        refine ⟨_, List.mem_append_left _ (List.mem_singleton_self _), ?_⟩
        split_ifs <;> decide
      · rw [if_neg hsigma]
        obtain ⟨d, hd⟩ := List.exists_mem_of_ne_nil _ (table.lowerChar_ne_nil c)
        exact ⟨d, List.mem_append_left _ hd, table.lowerChar_no_space c hspace d hd⟩
    · obtain ⟨d, hd, hdspace⟩ := ih hrest (head :: before)
      exact ⟨d, List.mem_append_right _ hd, hdspace⟩

/-- The lowercase of a text that is not blank is not blank. -/
theorem collapse_lower_ne {s : String} (h : collapse s ≠ "") : collapse (table.lower s) ≠ "" := by
  intro hblank
  rw [collapse_eq_empty] at hblank
  apply h
  rw [collapse_eq_empty]
  intro c hc
  by_contra hspace
  rw [Bool.not_eq_true] at hspace
  obtain ⟨d, hd, hdspace⟩ := exists_mem_lowerChars hc hspace []
  have hd' := hblank d (by rwa [lower, String.toList_ofList])
  exact absurd (hdspace.symm.trans hd') Bool.false_ne_true

/-! ### A small table -/

/-- The lowercase of an ASCII letter. -/
def asciiLower (c : Char) : Char := if 'A' ≤ c ∧ c ≤ 'Z' then Char.ofNat (c.toNat + 32) else c

theorem isSpace_asciiLower {c : Char} (h : isSpace c = false) : isSpace (asciiLower c) = false := by
  rw [asciiLower]
  by_cases hupper : 'A' ≤ c ∧ c ≤ 'Z'
  · have hletters : ∀ n < 26, isSpace (Char.ofNat (n + 97)) = false := by decide
    have hlower : 65 ≤ c.toNat := hupper.1
    have hbound : c.toNat ≤ 90 := hupper.2
    have hletter := hletters (c.toNat - 65) (by omega)
    rw [if_pos hupper]
    rwa [show c.toNat - 65 + 97 = c.toNat + 32 by omega] at hletter
  · rwa [if_neg hupper]

/-- The capital `I` with a dot. -/
def dottedI : Char := Char.ofNat 0x130

/-- The ASCII letters and the capital `I` with a dot, whose lowercase is two characters. -/
def dottedTable : CaseTable where
  lowerChar c := if c = dottedI then ['i', Char.ofNat 0x307] else [asciiLower c]
  cased c := c.isAlpha || c == dottedI
  caseIgnorable c := c == Char.ofNat 0x307
  lowerChar_ne_nil c := by split_ifs <;> simp
  lowerChar_no_space c hspace d hd := by
    split_ifs at hd with hdotted
    · have hboth : ∀ e ∈ ['i', Char.ofNat 0x307], isSpace e = false :=
        List.forall_mem_cons.mpr ⟨by decide, List.forall_mem_singleton.mpr (by decide)⟩
      exact hboth d hd
    · rw [List.mem_singleton.mp hd]
      exact isSpace_asciiLower hspace

end CaseTable

end N0te.Library
