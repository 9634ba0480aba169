import Mathlib.Data.Nat.Bitwise
import Mathlib.Data.List.Induction

/-!
# Frames in a stream

A frame of a byte protocol starts at a marker and ends with a checksum. `sinceLast` is what a
stream holds from its last marker on, the only part of it that a receiver which restarts at every
marker can depend on. `xorAll` is the exclusive-or checksum: `xorAll_set` says what one changed
byte does to it, so a change of one byte never keeps it (`eq_of_xorAll_set`).
-/

set_option autoImplicit false
set_option relaxedAutoImplicit false

namespace N0te.Library

/-! ### From the last marker on -/

section SinceLast

variable {α : Type} {starts : α → Bool}

/-- The items from the last marker on, if there is one. -/
def sinceLast (starts : α → Bool) : List α → Option (List α)
  | [] => none
  | item :: rest =>
    match sinceLast starts rest with
    | some frame => some frame
    | none => if starts item then some (item :: rest) else none

/-- One more item either starts over or extends what was there. -/
theorem sinceLast_concat (items : List α) (item : α) :
    sinceLast starts (items ++ [item]) =
      if starts item then some [item] else (sinceLast starts items).map (· ++ [item]) := by
  induction items with
  | nil => cases h : starts item <;> simp [sinceLast, h]
  | cons first rest ih =>
    rw [List.cons_append, sinceLast, ih]
    by_cases hitem : starts item
    · simp [hitem]
    · cases hrest : sinceLast starts rest with
      | some frame => simp [sinceLast, hitem, hrest]
      | none =>
        cases hfirst : starts first <;> simp [sinceLast, hitem, hrest, hfirst]

/-- Items without a marker among them extend what was there. -/
theorem sinceLast_append {items more : List α} (h : ∀ item ∈ more, starts item = false) :
    sinceLast starts (items ++ more) = (sinceLast starts items).map (· ++ more) := by
  induction more using List.reverseRecOn with
  | nil => simp
  | append_singleton more last ih =>
    have hlast : starts last = false := h last (by simp)
    rw [← List.append_assoc, sinceLast_concat, ih fun item hitem ↦ h item (by simp [hitem])]
    simp [hlast, Function.comp_def]

/-- A marker followed by items without one is what a stream ends in. -/
theorem sinceLast_frame {items frame : List α} {marker : α} (hmarker : starts marker = true)
    (h : ∀ item ∈ frame, starts item = false) :
    sinceLast starts (items ++ marker :: frame) = some (marker :: frame) := by
  rw [List.append_cons, sinceLast_append h, sinceLast_concat, if_pos hmarker]
  rfl

/-- What is kept starts with a marker. -/
theorem exists_marker_of_sinceLast {items frame : List α} (h : sinceLast starts items = some frame) :
    ∃ marker rest, frame = marker :: rest ∧ starts marker = true := by
  induction items with
  | nil => cases h
  | cons first rest ih =>
    rw [sinceLast] at h
    cases hrest : sinceLast starts rest with
    | some later =>
      rw [hrest] at h ih
      exact ih h
    | none =>
      rw [hrest] at h
      by_cases hfirst : starts first
      · simp only [hfirst, if_true, Option.some.injEq] at h
        exact ⟨first, rest, h.symm, hfirst⟩
      · simp [hfirst] at h

/-- What is kept is an end of the stream. -/
theorem suffix_of_sinceLast {items frame : List α} (h : sinceLast starts items = some frame) :
    frame <:+ items := by
  induction items with
  | nil => cases h
  | cons first rest ih =>
    rw [sinceLast] at h
    cases hrest : sinceLast starts rest with
    | some later =>
      rw [hrest] at h ih
      exact (ih h).trans (List.suffix_cons first rest)
    | none =>
      rw [hrest] at h
      by_cases hfirst : starts first
      · simp only [hfirst, if_true, Option.some.injEq] at h
        exact h ▸ List.suffix_rfl
      · simp [hfirst] at h

end SinceLast

/-! ### The exclusive-or checksum -/

/-- The exclusive or of some numbers. -/
def xorAll (bytes : List ℕ) : ℕ := bytes.foldr (· ^^^ ·) 0

@[simp] theorem xorAll_nil : xorAll [] = 0 := rfl

@[simp] theorem xorAll_cons (byte : ℕ) (rest : List ℕ) :
    xorAll (byte :: rest) = byte ^^^ xorAll rest := rfl

theorem xorAll_append (bytes more : List ℕ) :
    xorAll (bytes ++ more) = xorAll bytes ^^^ xorAll more := by
  induction bytes with
  | nil => simp
  | cons byte rest ih => simp [ih, Nat.xor_assoc]

/-- The checksum as the loop computes it. -/
theorem foldl_xor (bytes : List ℕ) (start : ℕ) :
    bytes.foldl (· ^^^ ·) start = start ^^^ xorAll bytes := by
  induction bytes generalizing start with
  | nil => simp
  | cons byte rest ih => simp [ih, Nat.xor_assoc]

theorem xorAll_lt {bytes : List ℕ} {n : ℕ} (h : ∀ byte ∈ bytes, byte < 2 ^ n) :
    xorAll bytes < 2 ^ n := by
  induction bytes with
  | nil => exact Nat.two_pow_pos n
  | cons byte rest ih =>
    exact Nat.xor_lt_two_pow (h byte List.mem_cons_self)
      (ih fun other hother ↦ h other (List.mem_cons_of_mem _ hother))

/-- A checksum after its bytes makes the whole vanish. -/
theorem xorAll_concat_self (bytes : List ℕ) : xorAll (bytes ++ [xorAll bytes]) = 0 := by
  simp [xorAll_append]

/-- One byte changed in a list with a vanishing checksum, the checksum vanishes no more. -/
theorem eq_of_xorAll_set {bytes : List ℕ} {i : ℕ} {byte : ℕ} (hi : i < bytes.length)
    (h : xorAll (bytes.set i byte) = xorAll bytes) : byte = bytes[i] := by
  induction bytes generalizing i with
  | nil => simp at hi
  | cons first rest ih =>
    cases i with
    | zero => exact Nat.xor_left_injective h
    | succ j => exact ih (Nat.lt_of_succ_lt_succ hi) (Nat.xor_right_injective h)

end N0te.Library
