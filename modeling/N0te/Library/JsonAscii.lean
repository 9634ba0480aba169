import N0te.Library.JsonText

/-!
# The ASCII text of a JSON value determines the value

`json.dumps` writes a character outside printable ASCII as one or two escapes of UTF-16 code units. The
printed text of a value is a list of units, each a plain character, a short escape or the escape of a
control character (`Units`), and `decodeUnit` reads one of them back from its ASCII form. So the ASCII
form determines the text, and `dumpsAscii_inj` says that it determines the value up to the order of
object fields.
-/

set_option autoImplicit false
set_option relaxedAutoImplicit false

namespace N0te.Library.Json

/-! ### Units -/

/-- One character as a JSON text holds it. -/
inductive IsUnit : List Char → Prop
  | plain (c : Char) (h : c ≠ '\\') : IsUnit [c]
  | short (c : Char) (h : c ≠ 'u') (hascii : c.toNat < 0x7f) : IsUnit ['\\', c]
  | control (n : ℕ) (h : n < 0x20) :
    IsUnit ['\\', 'u', '0', '0', hexDigit (n / 16), hexDigit (n % 16)]

/-- A text that is made of units. -/
def Units (l : List Char) : Prop := ∃ units : List (List Char), (∀ u ∈ units, IsUnit u) ∧
  l = units.flatten

theorem units_nil : Units [] := ⟨[], by simp, rfl⟩

theorem IsUnit.units {u : List Char} (h : IsUnit u) : Units u := ⟨[u], by simpa using h, by simp⟩

theorem Units.append {l m : List Char} (hl : Units l) (hm : Units m) : Units (l ++ m) := by
  obtain ⟨us, hus, rfl⟩ := hl
  obtain ⟨vs, hvs, rfl⟩ := hm
  exact ⟨us ++ vs, List.forall_mem_append.mpr ⟨hus, hvs⟩, List.flatten_append.symm⟩

theorem units_cons {c : Char} {l : List Char} (h : c ≠ '\\') (hl : Units l) : Units (c :: l) :=
  (IsUnit.plain c h).units.append hl

/-- Characters that are no backslash are units. -/
theorem units_of_plain {l : List Char} (h : ∀ c ∈ l, c ≠ '\\') : Units l := by
  induction l with
  | nil => exact units_nil
  | cons c rest ih =>
    rw [List.forall_mem_cons] at h
    exact units_cons h.1 (ih h.2)

/-! ### The text of a value -/

theorem isUnit_escapeChar (c : Char) : IsUnit (escapeChar c) := by
  unfold escapeChar
  split_ifs with hquote hslash hn hr ht hb hf hcontrol
  · exact .short '"' (by decide) (by decide)
  · exact .short '\\' (by decide) (by decide)
  · exact .short 'n' (by decide) (by decide)
  · exact .short 'r' (by decide) (by decide)
  · exact .short 't' (by decide) (by decide)
  · exact .short 'b' (by decide) (by decide)
  · exact .short 'f' (by decide) (by decide)
  · exact .control c.toNat hcontrol
  · exact .plain c hslash

theorem units_flatMap_escapeChar (l : List Char) : Units (l.flatMap escapeChar) := by
  induction l with
  | nil => exact units_nil
  | cons c rest ih => exact (isUnit_escapeChar c).units.append ih

theorem units_printString (s : String) : Units (printString s) :=
  units_cons (by decide) ((units_flatMap_escapeChar _).append (units_cons (by decide) units_nil))

theorem ne_backslash_of_isNumberChar {c : Char} (h : isNumberChar c = true) : c ≠ '\\' := by
  rintro rfl
  exact absurd h (by decide)

/-- The text of a number is plain. -/
theorem units_numberText (number : ℤ ⊕ FloatText) : Units (numberText number) :=
  units_of_plain fun _ hc ↦ ne_backslash_of_isNumberChar (isNumberChar_of_mem_numberText hc)

mutual

/-- The text of a value is made of units. -/
theorem units_print (v : Json) : Units (print v) := by
  match v with
  | .null => exact units_of_plain (by simp [print])
  | .bool true => exact units_of_plain (by simp [print])
  | .bool false => exact units_of_plain (by simp [print])
  | .int n => exact units_numberText (.inl n)
  | .float f => exact units_numberText (.inr f)
  | .str s => exact units_printString s
  | .arr [] => exact units_of_plain (by simp [print])
  | .arr (w :: rest) =>
    exact units_cons (by decide) ((units_print w).append (units_printItems rest))
  | .obj [] => exact units_of_plain (by simp [print])
  | .obj ((key, w) :: rest) =>
    exact units_cons (by decide) ((units_printString key).append
      (units_cons (by decide) ((units_print w).append (units_printFields rest))))

/-- The items of a list are made of units. -/
theorem units_printItems (items : List Json) : Units (printItems items) := by
  match items with
  | [] => exact units_of_plain (by simp [printItems])
  | w :: rest => exact units_cons (by decide) ((units_print w).append (units_printItems rest))

/-- The fields of an object are made of units. -/
theorem units_printFields (fields : List (String × Json)) : Units (printFields fields) := by
  match fields with
  | [] => exact units_of_plain (by simp [printFields])
  | (key, w) :: rest =>
    exact units_cons (by decide) ((units_printString key).append
      (units_cons (by decide) ((units_print w).append (units_printFields rest))))

end

/-! ### Reading ASCII back -/

/-- The number that four hexadecimal digits write. -/
def hexNumber (a b c d : Char) : ℕ :=
  4096 * hexValue a + 256 * hexValue b + 16 * hexValue c + hexValue d

/-- Read one unit from its ASCII form, and what is left. The escape of a control character stands for
itself, every other escape of a code unit for a character, and two of them for one outside the basic
plane. -/
def decodeUnit : List Char → Option (List Char × List Char)
  | '\\' :: 'u' :: a :: b :: c :: d :: rest =>
    let n := hexNumber a b c d
    if n < 0x20 then some (['\\', 'u', a, b, c, d], rest)
    else if 0xd800 ≤ n ∧ n < 0xdc00 then
      match rest with
      | '\\' :: 'u' :: a :: b :: c :: d :: rest =>
        some ([Char.ofNat (0x10000 + 1024 * (n - 0xd800) + (hexNumber a b c d - 0xdc00))], rest)
      | _ => none
    else some ([Char.ofNat n], rest)
  | '\\' :: c :: rest => some (['\\', c], rest)
  | c :: rest => some ([c], rest)
  | [] => none

theorem hexNumber_digits {n : ℕ} (h : n < 0x10000) :
    hexNumber (hexDigit (n / 4096 % 16)) (hexDigit (n / 256 % 16)) (hexDigit (n / 16 % 16))
      (hexDigit (n % 16)) = n := by
  have hdigit (k : ℕ) : hexValue (hexDigit (k % 16)) = k % 16 :=
    hexValue_hexDigit _ (Nat.mod_lt _ (by decide))
  rw [hexNumber, hdigit, hdigit, hdigit, hdigit]
  omega

theorem hexNumber_control {n : ℕ} (h : n < 0x20) :
    hexNumber '0' '0' (hexDigit (n / 16)) (hexDigit (n % 16)) = n := by
  rw [hexNumber, hexValue_hexDigit _ (by omega), hexValue_hexDigit _ (by omega)]
  have hzero : hexValue '0' = 0 := by decide
  omega

/-- A character of the basic plane is no surrogate. -/
theorem toNat_not_surrogate (c : Char) : ¬ (0xd800 ≤ c.toNat ∧ c.toNat < 0xdc00) := by
  have hvalid := c.valid
  unfold UInt32.isValidChar Nat.isValidChar at hvalid
  unfold Char.toNat
  omega

theorem toNat_lt (c : Char) : c.toNat < 0x110000 := by
  have hvalid := c.valid
  unfold UInt32.isValidChar Nat.isValidChar at hvalid
  unfold Char.toNat
  omega

/-- A character outside ASCII is read back. -/
theorem decodeUnit_wide {c : Char} (h : ¬ c.toNat < 0x7f) (rest : List Char) :
    decodeUnit (asciiChar c ++ rest) = some ([c], rest) := by
  unfold asciiChar
  rw [if_neg h]
  by_cases hbasic : c.toNat < 0x10000
  · rw [if_pos hbasic]
    simp only [codeUnit, List.cons_append, List.nil_append, decodeUnit, hexNumber_digits hbasic]
    rw [if_neg (by omega), if_neg (toNat_not_surrogate c), Char.ofNat_toNat]
  · rw [if_neg hbasic]
    have hlt := toNat_lt c
    have hhigh : 0xd800 + (c.toNat - 0x10000) / 1024 < 0x10000 := by omega
    have hlow : 0xdc00 + (c.toNat - 0x10000) % 1024 < 0x10000 := by omega
    simp only [codeUnit, List.cons_append, List.nil_append, decodeUnit, hexNumber_digits hhigh,
      hexNumber_digits hlow]
    rw [if_neg (by omega), if_pos (by omega)]
    have hvalue : 0x10000 + 1024 * (0xd800 + (c.toNat - 0x10000) / 1024 - 0xd800) +
        (0xdc00 + (c.toNat - 0x10000) % 1024 - 0xdc00) = c.toNat := by omega
    rw [hvalue, Char.ofNat_toNat]

theorem asciiChar_of_lt {c : Char} (h : c.toNat < 0x7f) : asciiChar c = [c] := if_pos h

theorem hexDigit_ascii : ∀ n < 16, (hexDigit n).toNat < 0x7f := by decide

/-- A unit is read back from its ASCII form. -/
theorem decodeUnit_unit {u : List Char} (h : IsUnit u) (rest : List Char) :
    decodeUnit (u.flatMap asciiChar ++ rest) = some (u, rest) := by
  cases h with
  | plain c hslash =>
    rw [List.flatMap_singleton]
    by_cases hascii : c.toNat < 0x7f
    · rw [asciiChar_of_lt hascii]
      simp only [List.cons_append, List.nil_append]
      unfold decodeUnit
      split <;> simp_all
    · exact decodeUnit_wide hascii rest
  | short c hu hascii =>
    have hslash : asciiChar '\\' = ['\\'] := asciiChar_of_lt (by decide)
    simp only [List.flatMap_cons, List.flatMap_nil, List.append_nil, hslash, asciiChar_of_lt hascii,
      List.cons_append, List.nil_append]
    unfold decodeUnit
    split <;> grind
  | control n hn =>
    have hhigh := hexDigit_ascii (n / 16) (by omega)
    have hlow := hexDigit_ascii (n % 16) (by omega)
    have hslash : asciiChar '\\' = ['\\'] := asciiChar_of_lt (by decide)
    have hu : asciiChar 'u' = ['u'] := asciiChar_of_lt (by decide)
    have hzero : asciiChar '0' = ['0'] := asciiChar_of_lt (by decide)
    simp only [List.flatMap_cons, List.flatMap_nil, List.append_nil, hslash, hu, hzero,
      asciiChar_of_lt hhigh, asciiChar_of_lt hlow, List.cons_append, List.nil_append, decodeUnit,
      hexNumber_control hn]
    rw [if_pos hn]

/-- The ASCII form of units determines them. -/
theorem units_unique {us vs : List (List Char)} (hus : ∀ u ∈ us, IsUnit u)
    (hvs : ∀ v ∈ vs, IsUnit v)
    (heq : us.flatten.flatMap asciiChar = vs.flatten.flatMap asciiChar) : us = vs := by
  induction us generalizing vs with
  | nil =>
    cases vs with
    | nil => rfl
    | cons v vs =>
      have hread := decodeUnit_unit (hvs v List.mem_cons_self) (vs.flatten.flatMap asciiChar)
      rw [List.flatten_cons, List.flatMap_append] at heq
      rw [← heq] at hread
      cases hread
  | cons u us ih =>
    rw [List.forall_mem_cons] at hus
    have hread := decodeUnit_unit hus.1 (us.flatten.flatMap asciiChar)
    rw [List.flatten_cons, List.flatMap_append] at heq
    cases vs with
    | nil =>
      rw [heq] at hread
      cases hread
    | cons v vs =>
      rw [List.forall_mem_cons] at hvs
      rw [List.flatten_cons, List.flatMap_append] at heq
      rw [heq, decodeUnit_unit hvs.1] at hread
      obtain ⟨rfl, hrest⟩ := Prod.mk.inj (Option.some.inj hread)
      rw [ih hus.2 hvs.2 hrest.symm]

/-- The ASCII form of a text made of units determines it. -/
theorem Units.eq_of_ascii {l m : List Char} (hl : Units l) (hm : Units m)
    (heq : l.flatMap asciiChar = m.flatMap asciiChar) : l = m := by
  obtain ⟨us, hus, rfl⟩ := hl
  obtain ⟨vs, hvs, rfl⟩ := hm
  rw [units_unique hus hvs heq]

/-- The ASCII text of a value determines it, up to the order of object fields. -/
theorem dumpsAscii_inj {v w : Json} : dumpsAscii v = dumpsAscii w ↔ canonical v = canonical w := by
  refine ⟨fun h ↦ ?_, fun h ↦ by rw [dumpsAscii, dumpsAscii, h]⟩
  have hchars := congrArg String.toList h
  simp only [dumpsAscii, String.toList_ofList] at hchars
  exact print_injective ((units_print _).eq_of_ascii (units_print _) hchars)

end N0te.Library.Json
