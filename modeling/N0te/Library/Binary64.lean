import Mathlib.Data.Int.Log
import Mathlib.Data.List.DropRight
import Mathlib.Data.Rat.Floor
import Mathlib.Tactic.Linarith
import Mathlib.Tactic.Positivity
import Mathlib.Tactic.Ring

/-!
# Doubles of the unit interval and their texts

`nearest` rounds a rational number to a binary64, half to even, as `float` does for numbers that are
not too large. A number of the unit interval is at most `2 ^ -53` from the nearest double
(`abs_nearest_sub_le_of_unit`), so rounding that double to six decimals finds the millionths it was
made from again (`roundHalfEven_nearest`).

`microText` is `repr` of the double nearest to a number of millionths, and `readMagnitude` reads the
text of a float (`readMagnitude_microText`).

Scope. Subnormal doubles are rounded as such; a number that overflows is rounded to the number it
would be with a larger exponent.
-/

set_option autoImplicit false
set_option relaxedAutoImplicit false

namespace N0te.Library

/-! ### Rounding -/

/-- The nearest integer, and of two the even one. -/
def roundHalfEven (x : ℚ) : ℤ :=
  let rest := x - ⌊x⌋
  if rest < 1 / 2 then ⌊x⌋
  else if 1 / 2 < rest then ⌊x⌋ + 1
  else if ⌊x⌋ % 2 = 0 then ⌊x⌋ else ⌊x⌋ + 1

theorem abs_roundHalfEven_sub_le (x : ℚ) : |(roundHalfEven x : ℚ) - x| ≤ 1 / 2 := by
  have hle : (⌊x⌋ : ℚ) ≤ x := Int.floor_le x
  have hlt : x < ⌊x⌋ + 1 := Int.lt_floor_add_one x
  rw [abs_le]
  unfold roundHalfEven
  dsimp only
  split_ifs <;> push_cast <;> constructor <;> linarith

/-- Whatever is less than a half from an integer rounds to it. -/
theorem roundHalfEven_eq {x : ℚ} {n : ℤ} (h : |x - n| < 1 / 2) : roundHalfEven x = n := by
  have hround := abs_roundHalfEven_sub_le x
  have hdist : |((roundHalfEven x - n : ℤ) : ℚ)| < 1 := by
    push_cast
    calc |(roundHalfEven x : ℚ) - n| = |((roundHalfEven x : ℚ) - x) + (x - n)| := by ring_nf
      _ ≤ |(roundHalfEven x : ℚ) - x| + |x - n| := abs_add_le _ _
      _ < 1 := by linarith
  have hzero : |roundHalfEven x - n| < 1 := by exact_mod_cast hdist
  have hsub : roundHalfEven x - n = 0 := Int.abs_lt_one_iff.mp hzero
  omega

theorem roundHalfEven_nonneg {x : ℚ} (h : 0 ≤ x) : 0 ≤ roundHalfEven x := by
  have hfloor : 0 ≤ ⌊x⌋ := Int.floor_nonneg.mpr h
  unfold roundHalfEven
  dsimp only
  split_ifs <;> omega

theorem roundHalfEven_le {x : ℚ} {n : ℤ} (h : x ≤ n) : roundHalfEven x ≤ n := by
  have hround := (abs_le.mp (abs_roundHalfEven_sub_le x)).2
  have hlt : (roundHalfEven x : ℚ) < ((n + 1 : ℤ) : ℚ) := by
    push_cast
    linarith
  exact Int.lt_add_one_iff.mp (by exact_mod_cast hlt)

/-! ### Doubles -/

/-- The exponent of the last bit of the double nearest to a number. -/
def lastBit (q : ℚ) : ℤ := max (Int.log 2 |q| - 52) (-1074)

/-- The double nearest to a number that is not too large, and of two the even one. -/
def nearest (q : ℚ) : ℚ := roundHalfEven (q / 2 ^ lastBit q) * 2 ^ lastBit q

theorem nearest_zero : nearest 0 = 0 := by
  have hzero : roundHalfEven 0 = 0 := roundHalfEven_eq (by norm_num)
  rw [nearest, zero_div, hzero]
  simp

/-- A number is at most half of its last bit from the nearest double. -/
theorem abs_nearest_sub_le (q : ℚ) : |nearest q - q| ≤ 2 ^ lastBit q / 2 := by
  have hpos : (0 : ℚ) < 2 ^ lastBit q := zpow_pos (by norm_num) _
  have hsplit : nearest q - q =
      ((roundHalfEven (q / 2 ^ lastBit q) : ℚ) - q / 2 ^ lastBit q) * 2 ^ lastBit q := by
    rw [nearest, sub_mul, div_mul_cancel₀ _ hpos.ne']
  rw [hsplit, abs_mul, abs_of_pos hpos]
  have hround := abs_roundHalfEven_sub_le (q / 2 ^ lastBit q)
  calc _ ≤ 1 / 2 * (2 : ℚ) ^ lastBit q := mul_le_mul_of_nonneg_right hround hpos.le
    _ = 2 ^ lastBit q / 2 := by ring

/-- A number of the unit interval is almost equal to the nearest double. -/
theorem abs_nearest_sub_le_of_unit {q : ℚ} (h : |q| ≤ 1) : |nearest q - q| ≤ 1 / 2 ^ 53 := by
  have hlog : Int.log 2 |q| ≤ 0 := by
    by_contra hpos
    have hone : (2 : ℚ) ^ (1 : ℤ) ≤ 2 ^ Int.log 2 |q| :=
      zpow_le_zpow_right₀ (by norm_num) (by omega)
    rcases eq_or_ne |q| 0 with hzero | hne
    · rw [hzero, Int.log_zero_right] at hpos
      omega
    · have hle := Int.zpow_log_le_self (b := 2) (by norm_num)
        (lt_of_le_of_ne (abs_nonneg q) hne.symm)
      norm_num at hone hle
      linarith
  have hbit : lastBit q ≤ -52 := max_le (by omega) (by omega)
  have hpow : (2 : ℚ) ^ lastBit q ≤ 2 ^ (-52 : ℤ) := zpow_le_zpow_right₀ (by norm_num) hbit
  calc _ ≤ 2 ^ lastBit q / 2 := abs_nearest_sub_le q
    _ ≤ 2 ^ (-52 : ℤ) / 2 := div_le_div_of_nonneg_right hpow (by norm_num)
    _ = 1 / 2 ^ 53 := by norm_num

theorem nearest_nonneg {q : ℚ} (h : 0 ≤ q) : 0 ≤ nearest q := by
  have hpos : (0 : ℚ) < 2 ^ lastBit q := zpow_pos (by norm_num) _
  have hround : (0 : ℚ) ≤ roundHalfEven (q / 2 ^ lastBit q) := by
    exact_mod_cast roundHalfEven_nonneg (div_nonneg h hpos.le)
  exact mul_nonneg hround hpos.le

/-- No number of the unit interval is rounded out of it. -/
theorem nearest_le_one {n : ℕ} (h : n ≤ 1000000) : nearest ((n : ℚ) / 10 ^ 6) ≤ 1 := by
  rcases h.lt_or_eq with hlt | rfl
  · have hle : (n : ℚ) + 1 ≤ 1000000 := by exact_mod_cast hlt
    have hunit : |(n : ℚ) / 10 ^ 6| ≤ 1 := by
      rw [abs_of_nonneg (by positivity)]
      linarith
    have herror := (abs_le.mp (abs_nearest_sub_le_of_unit hunit)).2
    norm_num at herror ⊢
    linarith
  · decide +kernel

/-- The millionths of a double are found by rounding it. -/
theorem roundHalfEven_nearest {n : ℕ} (h : n ≤ 1000000) :
    roundHalfEven (nearest ((n : ℚ) / 10 ^ 6) * 10 ^ 6) = n := by
  have hle : (n : ℚ) ≤ 1000000 := by exact_mod_cast h
  have hunit : |(n : ℚ) / 10 ^ 6| ≤ 1 := by
    rw [abs_of_nonneg (by positivity)]
    linarith
  have herror := abs_le.mp (abs_nearest_sub_le_of_unit hunit)
  apply roundHalfEven_eq
  rw [abs_lt]
  push_cast
  constructor <;> norm_num at herror ⊢ <;> linarith [herror.1, herror.2]

/-! ### The text of a float -/

/-- The number with the digits before and after the point, times a power of ten. -/
def decimalValue (whole fraction : List Char) (exponent : ℤ) : ℚ :=
  Nat.ofDigitChars 10 (whole ++ fraction) 0 * 10 ^ (exponent - fraction.length)

/-- The exponent of a float text, which has its sign. -/
def readExponent : List Char → Option ℤ
  | [] => some 0
  | 'e' :: '-' :: digits =>
    if digits.all Char.isDigit then some (-Nat.ofDigitChars 10 digits 0) else none
  | 'e' :: '+' :: digits =>
    if digits.all Char.isDigit then some (Nat.ofDigitChars 10 digits 0) else none
  | _ => none

/-- The number that a float text without its sign writes. -/
def readMagnitude (l : List Char) : Option ℚ :=
  let whole := l.takeWhile Char.isDigit
  match l.dropWhile Char.isDigit with
  | '.' :: rest => (readExponent (rest.dropWhile Char.isDigit)).map
      (decimalValue whole (rest.takeWhile Char.isDigit))
  | rest => (readExponent rest).map (decimalValue whole [])

/-- The six decimal digits of a number below a million. -/
def sixDigits (n : ℕ) : List Char :=
  [Nat.digitChar (n / 100000 % 10), Nat.digitChar (n / 10000 % 10), Nat.digitChar (n / 1000 % 10),
    Nat.digitChar (n / 100 % 10), Nat.digitChar (n / 10 % 10), Nat.digitChar (n % 10)]

/-- `repr` of the double nearest to a number of millionths up to one million: the shortest digits,
with an exponent for a number below a ten-thousandth. -/
def microText (n : ℕ) : List Char :=
  if n = 0 then ['0', '.', '0']
  else if n = 1000000 then ['1', '.', '0']
  else if 100 ≤ n then '0' :: '.' :: (sixDigits n).rdropWhile (· == '0')
  else if n < 10 then [Nat.digitChar n, 'e', '-', '0', '6']
  else Nat.digitChar (n / 10) ::
    ((if n % 10 = 0 then [] else ['.', Nat.digitChar (n % 10)]) ++ ['e', '-', '0', '5'])

theorem readMagnitude_small : ∀ n < 100, readMagnitude (microText n) = some ((n : ℚ) / 10 ^ 6) := by
  decide +kernel


/-! ### Reading the shortest text -/

theorem isDigit_digitChar {n : ℕ} (h : n < 10) : (Nat.digitChar n).isDigit = true := by
  have hall : ∀ n < 10, (Nat.digitChar n).isDigit = true := by decide
  exact hall n h

theorem isDigit_of_mem_sixDigits {n : ℕ} {c : Char} (h : c ∈ sixDigits n) : c.isDigit = true := by
  simp only [sixDigits, List.mem_cons, List.not_mem_nil, or_false] at h
  rcases h with rfl | rfl | rfl | rfl | rfl | rfl <;> exact isDigit_digitChar (by omega)

theorem ofDigitChars_sixDigits {n : ℕ} (h : n < 1000000) :
    Nat.ofDigitChars 10 (sixDigits n) 0 = n := by
  unfold sixDigits
  rw [Nat.ofDigitChars_cons_digitChar_of_lt_ten (by omega),
    Nat.ofDigitChars_cons_digitChar_of_lt_ten (by omega),
    Nat.ofDigitChars_cons_digitChar_of_lt_ten (by omega),
    Nat.ofDigitChars_cons_digitChar_of_lt_ten (by omega),
    Nat.ofDigitChars_cons_digitChar_of_lt_ten (by omega),
    Nat.ofDigitChars_cons_digitChar_of_lt_ten (by omega), Nat.ofDigitChars_nil]
  omega

/-- Zeros at the end of the digits after the point do not count. -/
theorem decimalValue_rdropWhile (l : List Char) :
    decimalValue ['0'] (l.rdropWhile (· == '0')) 0 = decimalValue [] l 0 := by
  induction l using List.reverseRecOn with
  | nil => simp [decimalValue, Nat.ofDigitChars_cons]
  | append_singleton rest c ih =>
    by_cases hc : c = '0'
    · rw [hc, List.rdropWhile_concat_pos _ _ _ (by decide), ih]
      have hdigit : Nat.ofDigitChars 10 ['0'] (Nat.ofDigitChars 10 rest 0) =
          10 * Nat.ofDigitChars 10 rest 0 := by simp [Nat.ofDigitChars_cons]
      have hexponent : (0 : ℤ) - rest.length = (0 - (rest ++ ['0']).length) + 1 := by simp
      rw [decimalValue, decimalValue, List.nil_append, List.nil_append, Nat.ofDigitChars_append,
        hdigit, hexponent, zpow_add_one₀ (by norm_num)]
      push_cast
      ring
    · rw [List.rdropWhile_concat_neg _ _ _ (by simpa using hc)]
      simp [decimalValue, Nat.ofDigitChars_cons]

theorem readMagnitude_fraction {l : List Char} (h : ∀ c ∈ l, c.isDigit = true) :
    readMagnitude ('0' :: '.' :: l) = some (decimalValue ['0'] l 0) := by
  have htake : l.takeWhile Char.isDigit = l := List.takeWhile_eq_self_iff.mpr h
  have hdrop : l.dropWhile Char.isDigit = [] := List.dropWhile_eq_nil_iff.mpr h
  have hzero : ('0' :: '.' :: l).takeWhile Char.isDigit = ['0'] := by simp [Char.isDigit]
  have hpoint : ('0' :: '.' :: l).dropWhile Char.isDigit = '.' :: l := by simp [Char.isDigit]
  simp only [readMagnitude, hzero, hpoint, htake, hdrop, readExponent, Option.map_some]

/-- The shortest text of a number of millionths writes that number. -/
theorem readMagnitude_microText {n : ℕ} (h : n ≤ 1000000) :
    readMagnitude (microText n) = some ((n : ℚ) / 10 ^ 6) := by
  by_cases hsmall : n < 100
  · exact readMagnitude_small n hsmall
  by_cases hone : n = 1000000
  · subst hone
    decide +kernel
  have htext : microText n = '0' :: '.' :: (sixDigits n).rdropWhile (· == '0') := by
    rw [microText, if_neg (by omega), if_neg hone, if_pos (by omega)]
  have hdigits : ∀ c ∈ (sixDigits n).rdropWhile (· == '0'), c.isDigit = true := fun c hc ↦
    isDigit_of_mem_sixDigits ((List.rdropWhile_prefix _ _).subset hc)
  rw [htext, readMagnitude_fraction hdigits, decimalValue_rdropWhile, decimalValue,
    List.nil_append, ofDigitChars_sixDigits (by omega)]
  norm_num [sixDigits, div_eq_mul_inv]

end N0te.Library
