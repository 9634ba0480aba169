import Mathlib.Data.List.Basic
import Mathlib.Data.Nat.Notation

/-!
# Files of bytes

A file is the list of its bytes, and reading from a position returns as many bytes as are there.
`pieces` are consecutive reads of one width, which together read one stretch (`flatten_pieces`).
-/

set_option autoImplicit false
set_option relaxedAutoImplicit false

namespace N0te.Library

/-- The bytes of a text in ASCII. -/
def ascii (text : String) : List UInt8 := text.toList.map fun character ↦ .ofNat character.toNat

/-- An unsigned number, the least significant byte first. -/
def littleEndian : List UInt8 → ℕ
  | [] => 0
  | byte :: rest => byte.toNat + 256 * littleEndian rest

/-- Read some bytes of a file from a position on. -/
def readAt (file : List UInt8) (position count : ℕ) : List UInt8 := (file.drop position).take count

section

variable {file : List UInt8} {position count : ℕ}

@[simp] theorem length_readAt :
    (readAt file position count).length = min count (file.length - position) := by
  rw [readAt, List.length_take, List.length_drop]

/-- A read is complete when the bytes are there. -/
theorem length_readAt_eq (h : position + count ≤ file.length) :
    (readAt file position count).length = count := by
  rw [length_readAt]
  omega

theorem le_of_length_readAt (hcount : 0 < count) (h : (readAt file position count).length = count) :
    position + count ≤ file.length := by
  rw [length_readAt] at h
  omega

/-- Two reads in a row. -/
theorem readAt_add (first second : ℕ) : readAt file position (first + second) =
    readAt file position first ++ readAt file (position + first) second := by
  rw [readAt, readAt, readAt, List.take_add, List.drop_drop]

/-- A read within a read. -/
theorem readAt_readAt {offset width : ℕ} (h : offset + width ≤ count) :
    readAt (readAt file position count) offset width = readAt file (position + offset) width := by
  rw [readAt, readAt, readAt, List.drop_take, List.take_take, List.drop_drop,
    Nat.min_eq_left (by omega)]

@[simp] theorem readAt_zero : readAt file position 0 = [] := List.take_zero

end

/-- Consecutive reads of one width. -/
def pieces (file : List UInt8) (position width count : ℕ) : List (List UInt8) :=
  (List.range count).map fun index ↦ readAt file (position + index * width) width

@[simp] theorem length_pieces (file : List UInt8) (position width count : ℕ) :
    (pieces file position width count).length = count := by
  rw [pieces, List.length_map, List.length_range]

/-- Consecutive reads of one width read one stretch. -/
theorem flatten_pieces (file : List UInt8) (position width count : ℕ) :
    (pieces file position width count).flatten = readAt file position (count * width) := by
  induction count with
  | zero => rw [Nat.zero_mul, readAt_zero]; rfl
  | succ count ih =>
    rw [pieces, List.range_succ, List.map_append, List.flatten_append, ← pieces, ih,
      Nat.succ_mul, readAt_add]
    simp

end N0te.Library
