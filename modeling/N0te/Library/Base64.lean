import Mathlib.Data.List.Nodup
import Mathlib.Data.Nat.Notation
import Mathlib.Logic.Basic

/-!
# URL-safe base64 without padding

`encode` is `base64.urlsafe_b64encode(data).rstrip("=")` and `decode` the decoder that restores the
padding and calls `base64.urlsafe_b64decode`. The decoder is the runtime's tolerant one: it skips
characters outside the alphabet and stops at a completed padding. `decode_encode` is the round
trip, and `mem_alphabet_of_mem_encode` says which characters an encoding holds.
-/

set_option autoImplicit false
set_option relaxedAutoImplicit false

namespace N0te.Library.Base64

/-! ### The alphabet -/

/-- The 64 characters in order. -/
def alphabet : List Char :=
  ['A', 'B', 'C', 'D', 'E', 'F', 'G', 'H', 'I', 'J', 'K', 'L', 'M', 'N', 'O', 'P', 'Q', 'R', 'S',
    'T', 'U', 'V', 'W', 'X', 'Y', 'Z', 'a', 'b', 'c', 'd', 'e', 'f', 'g', 'h', 'i', 'j', 'k', 'l',
    'm', 'n', 'o', 'p', 'q', 'r', 's', 't', 'u', 'v', 'w', 'x', 'y', 'z', '0', '1', '2', '3', '4',
    '5', '6', '7', '8', '9', '-', '_']

/-- The character of six bits. -/
def sextet (n : ℕ) : Char := alphabet.getD n 'A'

/-- The six bits of a character, if it has any; the two characters of the standard alphabet are
read as well. -/
def index (c : Char) : Option ℕ :=
  if c = '+' then some 62 else if c = '/' then some 63 else alphabet.findIdx? (· == c)

theorem sextet_eq {n : ℕ} (h : n < alphabet.length) : sextet n = alphabet[n] := by
  rw [sextet, List.getD_eq_getElem?_getD, List.getElem?_eq_getElem h]
  rfl

theorem sextet_mem (n : ℕ) : sextet n ∈ alphabet := by
  unfold sextet
  rw [List.getD_eq_getElem?_getD]
  cases h : alphabet[n]? with
  | none => exact List.mem_cons_self
  | some c => exact List.mem_of_getElem? h

/-- A character outside of the alphabet is none of its characters. -/
theorem sextet_ne {c : Char} (h : c ∉ alphabet) (n : ℕ) : sextet n ≠ c :=
  fun heq ↦ h (heq ▸ sextet_mem n)

theorem sextet_ne_pad (n : ℕ) : sextet n ≠ '=' := sextet_ne (by decide) n

theorem nodup_alphabet : alphabet.Nodup := by
  have hcodes : (alphabet.map Char.toNat).Nodup := by decide +kernel
  exact List.Nodup.of_map Char.toNat hcodes

theorem index_sextet {n : ℕ} (h : n < 64) : index (sextet n) = some n := by
  have hlength : n < alphabet.length := h
  rw [index, if_neg (sextet_ne (by decide) n), if_neg (sextet_ne (by decide) n),
    List.findIdx?_eq_some_iff_getElem]
  refine ⟨hlength, by simp [sextet_eq hlength], fun j hj hsame ↦ ?_⟩
  rw [sextet_eq hlength, beq_iff_eq] at hsame
  exact absurd ((List.Nodup.getElem_inj_iff nodup_alphabet).mp hsame) (by omega)

/-! ### Encoding -/

/-- The characters of some bytes, three bytes at a time. -/
def encodeChars : List UInt8 → List Char
  | [] => []
  | [a] => [sextet (a.toNat / 4), sextet (a.toNat % 4 * 16)]
  | [a, b] => [sextet (a.toNat / 4), sextet (a.toNat % 4 * 16 + b.toNat / 16),
      sextet (b.toNat % 16 * 4)]
  | a :: b :: c :: rest => sextet (a.toNat / 4) :: sextet (a.toNat % 4 * 16 + b.toNat / 16) ::
      sextet (b.toNat % 16 * 4 + c.toNat / 64) :: sextet (c.toNat % 64) :: encodeChars rest

/-- The text of some bytes. -/
def encode (bytes : List UInt8) : String := String.ofList (encodeChars bytes)

theorem mem_alphabet_of_mem_encode (bytes : List UInt8) :
    ∀ c ∈ (encode bytes).toList, c ∈ alphabet := by
  rw [encode, String.toList_ofList]
  induction bytes using encodeChars.induct with
  | case1 => simp [encodeChars]
  | case2 a => simp [encodeChars, sextet_mem]
  | case3 a b => simp [encodeChars, sextet_mem]
  | case4 a b c rest ih => simpa [encodeChars, sextet_mem] using ih

/-! ### Decoding -/

/-- The decoder's loop: the position in the group of four, the bits left over, the padding seen,
and the rest of the text. -/
def scan : ℕ → ℕ → ℕ → List Char → Option (List UInt8)
  | position, _, _, [] => if position = 0 then some [] else none
  | position, left, pads, c :: rest =>
    if c = '=' then
      if 2 ≤ position then
        if 4 ≤ position + (pads + 1) then some [] else scan position left (pads + 1) rest
      else scan position left pads rest
    else match index c with
      | none => scan position left pads rest
      | some v => match position with
        | 0 => scan 1 v 0 rest
        | 1 => (UInt8.ofNat (left * 4 + v / 16) :: ·) <$> scan 2 (v % 16) 0 rest
        | 2 => (UInt8.ofNat (left * 16 + v / 4) :: ·) <$> scan 3 (v % 4) 0 rest
        | _ => (UInt8.ofNat (left * 64 + v) :: ·) <$> scan 0 0 0 rest

/-- The padding that completes a text. -/
def padding (length : ℕ) : List Char := List.replicate ((4 - length % 4) % 4) '='

/-- The bytes of a text, or a failure. -/
def decode (s : String) : Option (List UInt8) :=
  if s.toList.all (fun c ↦ decide (c.toNat < 128)) then
    scan 0 0 0 (s.toList ++ padding s.toList.length)
  else none

section Scan

variable {n left pads : ℕ} {rest : List Char}

/-- A sextet is read according to its position. -/
theorem scan_sextet (position : ℕ) (h : n < 64) : scan position left pads (sextet n :: rest) =
    match position with
    | 0 => scan 1 n 0 rest
    | 1 => (UInt8.ofNat (left * 4 + n / 16) :: ·) <$> scan 2 (n % 16) 0 rest
    | 2 => (UInt8.ofNat (left * 16 + n / 4) :: ·) <$> scan 3 (n % 4) 0 rest
    | _ => (UInt8.ofNat (left * 64 + n) :: ·) <$> scan 0 0 0 rest := by
  rw [scan, if_neg (sextet_ne_pad n), index_sextet h]

theorem scan_zero (h : n < 64) : scan 0 left pads (sextet n :: rest) = scan 1 n 0 rest :=
  scan_sextet 0 h

theorem scan_one (h : n < 64) : scan 1 left pads (sextet n :: rest) =
    (UInt8.ofNat (left * 4 + n / 16) :: ·) <$> scan 2 (n % 16) 0 rest :=
  scan_sextet 1 h

theorem scan_two (h : n < 64) : scan 2 left pads (sextet n :: rest) =
    (UInt8.ofNat (left * 16 + n / 4) :: ·) <$> scan 3 (n % 4) 0 rest :=
  scan_sextet 2 h

theorem scan_three (h : n < 64) : scan 3 left pads (sextet n :: rest) =
    (UInt8.ofNat (left * 64 + n) :: ·) <$> scan 0 0 0 rest :=
  scan_sextet 3 h

end Scan

/-- A byte put together from its own bits. -/
theorem ofNat_eq {a : UInt8} {n : ℕ} (h : n = a.toNat) : UInt8.ofNat n = a := by
  rw [h, UInt8.ofNat_toNat]

/-- Decoding an encoding with its padding restored gives the bytes back. -/
theorem scan_encodeChars (bytes : List UInt8) :
    scan 0 0 0 (encodeChars bytes ++ padding (encodeChars bytes).length) = some bytes := by
  induction bytes using encodeChars.induct with
  | case1 => rfl
  | case2 a =>
    have ha := a.toNat_lt
    simp only [encodeChars, List.cons_append, List.nil_append]
    rw [scan_zero (by omega), scan_one (by omega), ofNat_eq (a := a) (by omega)]
    rfl
  | case3 a b =>
    have ha := a.toNat_lt
    have hb := b.toNat_lt
    simp only [encodeChars, List.cons_append, List.nil_append]
    rw [scan_zero (by omega), scan_one (by omega), scan_two (by omega),
      ofNat_eq (a := a) (by omega), ofNat_eq (a := b) (by omega)]
    rfl
  | case4 a b c rest ih =>
    have ha := a.toNat_lt
    have hb := b.toNat_lt
    have hc := c.toNat_lt
    have hpadding (l : ℕ) : padding (l + 1 + 1 + 1 + 1) = padding l := by
      have hmod : (l + 1 + 1 + 1 + 1) % 4 = l % 4 := by omega
      rw [padding, padding, hmod]
    simp only [encodeChars, List.cons_append, List.length_cons, hpadding]
    rw [scan_zero (by omega), scan_one (by omega), scan_two (by omega), scan_three (by omega), ih,
      ofNat_eq (a := a) (by omega), ofNat_eq (a := b) (by omega), ofNat_eq (a := c) (by omega)]
    rfl

/-- The decoder undoes the encoder. -/
theorem decode_encode (bytes : List UInt8) : decode (encode bytes) = some bytes := by
  have hascii : (encode bytes).toList.all (fun c ↦ decide (c.toNat < 128)) = true := by
    rw [List.all_eq_true]
    intro c hc
    have hall : alphabet.all (fun d ↦ decide (d.toNat < 128)) = true := by decide
    exact List.all_eq_true.mp hall c (mem_alphabet_of_mem_encode bytes c hc)
  rw [decode, if_pos hascii, encode, String.toList_ofList, scan_encodeChars]

end N0te.Library.Base64
