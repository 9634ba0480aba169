import Mathlib.Data.Rat.Defs
import Mathlib.Order.Lattice
import N0te.Library.Json

/-!
# Shapes of JSON objects

`HasKeys` is the check `set(value) == expected` on an object, which does not see the order of the
fields (`hasKeys_canonical`). A flat object is sorted once (`canonical_canonical_of_flat`). `decimal` is the number that the text of a finite float stands for.
-/

set_option autoImplicit false
set_option relaxedAutoImplicit false

namespace N0te.Library.Json

/-! ### Keys -/

theorem mem_insertField {field other : String × Json} {fields : List (String × Json)} :
    other ∈ insertField field fields ↔ other = field ∨ other ∈ fields := by
  induction fields with
  | nil => simp [insertField]
  | cons head tail ih =>
    unfold insertField
    split_ifs
    · simp only [List.mem_cons, ih]
      tauto
    · simp only [List.mem_cons]

theorem mem_sortFields {other : String × Json} {fields : List (String × Json)} :
    other ∈ sortFields fields ↔ other ∈ fields := by
  induction fields with
  | nil => rfl
  | cons field rest ih => rw [sortFields, mem_insertField, ih, List.mem_cons]

theorem keys_canonicalFields (fields : List (String × Json)) :
    (canonicalFields fields).map Prod.fst = fields.map Prod.fst := by
  induction fields with
  | nil => rfl
  | cons field rest ih =>
    obtain ⟨key, v⟩ := field
    rw [canonicalFields, List.map_cons, List.map_cons, ih]

@[simp] theorem mem_keys_canonical {v : Json} {key : String} :
    key ∈ (canonical v).keys ↔ key ∈ v.keys := by
  cases v with
  | obj fields =>
    rw [canonical, keys, keys, ← keys_canonicalFields fields, List.mem_map, List.mem_map]
    simp only [mem_sortFields]
  | _ => simp [canonical, keys]

/-! ### Sorting twice -/

/-- The keys of some fields do not decrease. -/
abbrev SortedFields (fields : List (String × Json)) : Prop := fields.Pairwise fun a b ↦ ¬b.1 < a.1

theorem sortedFields_insertField {field : String × Json} {fields : List (String × Json)}
    (h : SortedFields fields) : SortedFields (insertField field fields) := by
  induction fields with
  | nil => exact List.pairwise_singleton _ _
  | cons head tail ih =>
    obtain ⟨hhead, htail⟩ := List.pairwise_cons.mp h
    unfold insertField
    split_ifs with hless
    · refine List.pairwise_cons.mpr ⟨fun other hother ↦ ?_, ih htail⟩
      rcases mem_insertField.mp hother with rfl | hother
      · exact fun hback ↦ String.lt_irrefl _ (String.lt_trans hless hback)
      · exact hhead other hother
    · refine List.pairwise_cons.mpr ⟨fun other hother ↦ ?_, h⟩
      rcases List.mem_cons.mp hother with rfl | hother
      · exact hless
      · exact String.not_lt.mpr
          (String.le_trans (String.not_lt.mp hless) (String.not_lt.mp (hhead other hother)))

theorem sortedFields_sortFields (fields : List (String × Json)) :
    SortedFields (sortFields fields) := by
  induction fields with
  | nil => exact List.Pairwise.nil
  | cons field rest ih => exact sortedFields_insertField ih

theorem sortFields_of_sorted {fields : List (String × Json)} (h : SortedFields fields) :
    sortFields fields = fields := by
  induction fields with
  | nil => rfl
  | cons field rest ih =>
    obtain ⟨hfield, hrest⟩ := List.pairwise_cons.mp h
    rw [sortFields, ih hrest]
    cases rest with
    | nil => rfl
    | cons head tail => exact if_neg (hfield head List.mem_cons_self)

theorem canonicalFields_of_flat {fields : List (String × Json)}
    (h : ∀ field ∈ fields, canonical field.2 = field.2) : canonicalFields fields = fields := by
  induction fields with
  | nil => rfl
  | cons field rest ih =>
    obtain ⟨hfield, hrest⟩ := List.forall_mem_cons.mp h
    rw [canonicalFields, ih hrest, hfield]

/-- Sorting the fields of an object without objects and lists twice is sorting them once. -/
theorem canonical_canonical_of_flat {fields : List (String × Json)}
    (h : ∀ field ∈ fields, canonical field.2 = field.2) :
    (canonical (.obj fields)).canonical = canonical (.obj fields) := by
  have hsorted : ∀ field ∈ sortFields fields, canonical field.2 = field.2 :=
    fun field hfield ↦ h field (mem_sortFields.mp hfield)
  rw [canonical, canonicalFields_of_flat h, canonical, canonicalFields_of_flat hsorted,
    sortFields_of_sorted (sortedFields_sortFields fields)]

/-! ### Objects of given keys -/

/-- An object with the given keys and no others. -/
def HasKeys (v : Json) (expected : List String) : Prop :=
  v.isObj = true ∧ v.keys ⊆ expected ∧ expected ⊆ v.keys

instance (v : Json) (expected : List String) : Decidable (v.HasKeys expected) :=
  inferInstanceAs (Decidable (_ ∧ _))

@[simp] theorem hasKeys_canonical {v : Json} {expected : List String} :
    (canonical v).HasKeys expected ↔ v.HasKeys expected := by
  simp only [HasKeys, isObj_canonical, List.subset_def, mem_keys_canonical]

theorem hasKeys_obj (fields : List (String × Json)) :
    (obj fields).HasKeys (fields.map Prod.fst) :=
  ⟨rfl, List.Subset.refl _, List.Subset.refl _⟩

/-- A field of an object that was sorted. -/
theorem get_canonical_obj {fields : List (String × Json)} (key : String) {v : Json}
    (h : (Json.obj fields).get key = v) : (Json.obj fields).canonical.get key = v.canonical := by
  rw [get_canonical, h]

/-- A field that sorting leaves alone. -/
theorem get_canonical_stored {fields : List (String × Json)} (key : String) {v : Json}
    (h : (Json.obj fields).get key = v) (hv : v.canonical = v) :
    (Json.obj fields).canonical.get key = v :=
  (get_canonical_obj key h).trans hv

/-- The JSON of a text that may be missing. -/
def ofOption (value : Option String) : Json := (value.map str).getD null

@[simp] theorem canonical_ofOption (value : Option String) :
    (ofOption value).canonical = ofOption value := by
  cases value <;> rfl

def ofTexts (texts : List String) : Json := arr (texts.map str)

@[simp] theorem canonical_ofTexts (texts : List String) : (ofTexts texts).canonical = ofTexts texts := by
  rw [ofTexts, canonical_arr, List.map_map]
  rfl

/-! ### Numbers -/

/-- The number that digits stand for. -/
def digitsValue (digits : List Char) : ℕ :=
  digits.foldl (fun n c ↦ 10 * n + (c.toNat - '0'.toNat)) 0

/-- A power of ten, its exponent as it is written after `e`. -/
def powerOfTen : List Char → ℚ
  | '-' :: digits => 1 / 10 ^ digitsValue digits
  | '+' :: digits => 10 ^ digitsValue digits
  | digits => 10 ^ digitsValue digits

/-- The number of a text without sign. -/
def unsignedDecimal (chars : List Char) : ℚ :=
  let mantissa := chars.takeWhile (· ≠ 'e')
  let whole := mantissa.takeWhile (· ≠ '.')
  let fraction := (mantissa.dropWhile (· ≠ '.')).drop 1
  digitsValue (whole ++ fraction) / 10 ^ fraction.length *
    powerOfTen ((chars.dropWhile (· ≠ 'e')).drop 1)

/-- The number that the text of a float stands for, unless it is infinite or `NaN`. -/
def decimal (f : FloatText) : Option ℚ :=
  if finiteFloat f then
    match f.chars with
    | '-' :: rest => some (-unsignedDecimal rest)
    | chars => some (unsignedDecimal chars)
  else none

/-- `value == n`. -/
def equalsInt (n : ℤ) : Json → Bool
  | int m => m == n
  | bool b => (if b then 1 else 0) == n
  | float f => decimal f == some (n : ℚ)
  | _ => false

@[simp] theorem equalsInt_int (n : ℤ) : equalsInt n (int n) = true := beq_self_eq_true n

end N0te.Library.Json
