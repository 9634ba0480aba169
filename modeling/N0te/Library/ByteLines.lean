import Mathlib.Data.List.TakeWhile
import N0te.Library.ByteFile

/-!
# Lines of bytes

`readline` reads to the end of a line, or as far as a limit lets it. A line that ends within the
limit is read whole (`readline_line`).
-/

set_option autoImplicit false
set_option relaxedAutoImplicit false

namespace N0te.Library

/-- `readline(limit)`: what is read and what is left. -/
def readline (limit : ℕ) (rest : List UInt8) : List UInt8 × List UInt8 :=
  rest.splitAt (min limit ((rest.takeWhile (· ≠ 10)).length + 1))

/-- `b"\r\n"`. -/
def crlf : List UInt8 := [13, 10]

/-- `line.endswith(b"\r\n")`. -/
def endsCrlf (line : List UInt8) : Bool := line.drop (line.length - 2) = crlf

/-- `line[:-2]`. -/
def withoutCrlf (line : List UInt8) : List UInt8 := line.take (line.length - 2)

theorem readline_append (limit : ℕ) (rest : List UInt8) :
    (readline limit rest).1 ++ (readline limit rest).2 = rest := by
  rw [readline, List.splitAt_eq]
  exact List.take_append_drop _ _

/-- Reading goes on. -/
theorem length_readline_lt {limit : ℕ} {rest : List UInt8} (h : (readline limit rest).1 ≠ []) :
    (readline limit rest).2.length < rest.length := by
  have happend := congrArg List.length (readline_append limit rest)
  rw [List.length_append] at happend
  have hpos := List.length_pos_iff.mpr h
  omega

/-- A line that ends within the limit. -/
theorem readline_line {limit : ℕ} {line : List UInt8} (rest : List UInt8)
    (hline : (10 : UInt8) ∉ line) (hlimit : line.length + 1 ≤ limit) :
    readline limit (line ++ 10 :: rest) = (line ++ [10], rest) := by
  have hne : ∀ byte ∈ line, (decide (byte ≠ 10)) = true := fun byte hbyte ↦
    decide_eq_true fun heq ↦ hline (heq ▸ hbyte)
  have htake : (line ++ 10 :: rest).takeWhile (· ≠ 10) = line := by
    rw [List.takeWhile_append_of_pos hne, List.takeWhile_cons_of_neg (by simp), List.append_nil]
  have hlength : (line ++ [10]).length = line.length + 1 := by
    rw [List.length_append, List.length_singleton]
  rw [readline, htake, Nat.min_eq_right hlimit, List.splitAt_eq, ← hlength,
    show line ++ 10 :: rest = (line ++ [10]) ++ rest by simp, List.take_left, List.drop_left]

/-- A line with its end within the limit. -/
theorem readline_crlf {limit : ℕ} {line : List UInt8} (rest : List UInt8)
    (hline : (10 : UInt8) ∉ line) (hlimit : line.length + 2 ≤ limit) :
    readline limit (line ++ crlf ++ rest) = (line ++ crlf, rest) := by
  have hcr : (10 : UInt8) ∉ line ++ [13] := by
    rw [List.mem_append]
    rintro (h | h)
    · exact hline h
    · cases List.mem_singleton.mp h
  have hfull : (line ++ [13]).length + 1 ≤ limit := by
    rw [List.length_append, List.length_singleton]
    exact hlimit
  have hread := readline_line rest hcr hfull
  simpa [crlf] using hread

@[simp] theorem endsCrlf_append (line : List UInt8) : endsCrlf (line ++ crlf) = true := by
  rw [endsCrlf, List.length_append, show crlf.length = 2 from rfl, Nat.add_sub_cancel,
    List.drop_left]
  exact decide_eq_true rfl

@[simp] theorem withoutCrlf_append (line : List UInt8) : withoutCrlf (line ++ crlf) = line := by
  rw [withoutCrlf, List.length_append, show crlf.length = 2 from rfl, Nat.add_sub_cancel,
    List.take_left]

end N0te.Library
