import Mathlib.Data.List.TakeDrop
import Std.Data.String.ToInt
import N0te.Library.Json

/-!
# The canonical text determines the value

`dumps_inj` says that two values have the same canonical JSON text exactly when they have the same
canonical form. The text is read uniquely: a string is undone character by character
(`unescape_escapeChar`), a number ends at the first character no number has, and the first
character of a value names its constructor (`tag_head`). `print_unique` puts these together along
the value, with what follows the value as a parameter, and equality of values is decided on their
texts.
-/

set_option autoImplicit false
set_option relaxedAutoImplicit false

namespace N0te.Library.Json

/-! ### Numbers -/

/-- Two runs of characters satisfying `p`, each followed by something that does not start with
one, are equal when the whole texts are. -/
theorem append_unique {p : Char → Bool} {u v x y : List Char} (hu : ∀ c ∈ u, p c)
    (hv : ∀ c ∈ v, p c) (hx : ∀ c ∈ x.head?, p c = false) (hy : ∀ c ∈ y.head?, p c = false)
    (heq : u ++ x = v ++ y) : u = v ∧ x = y := by
  have htake : ∀ {w z : List Char}, (∀ c ∈ w, p c) → (∀ c ∈ z.head?, p c = false) →
      (w ++ z).takeWhile p = w := by
    intro w z hw hz
    rw [List.takeWhile_append_of_pos hw]
    cases z with
    | nil => simp
    | cons c rest => simp [hz c rfl]
  have hruns : u = v := by rw [← htake hu hx, heq, htake hv hy]
  subst hruns
  exact ⟨rfl, List.append_cancel_left heq⟩

theorem isNumberChar_of_isIntChar {c : Char} (h : isIntChar c = true) : isNumberChar c = true := by
  simp only [isIntChar, Bool.or_eq_true] at h
  simp only [isNumberChar, Bool.or_eq_true]
  tauto

theorem isIntChar_of_mem_repr {n : ℕ} {c : Char} (h : c ∈ (Nat.repr n).toList) :
    isIntChar c = true := by
  rw [Nat.toList_repr] at h
  simp [isIntChar, Nat.isDigit_of_mem_toDigits (by omega) (by omega) h]

/-- An integer is written with digits and a sign. -/
theorem isIntChar_of_mem_intRepr {n : ℤ} {c : Char} (h : c ∈ (Int.repr n).toList) :
    isIntChar c = true := by
  rw [Int.repr_eq_if] at h
  split_ifs at h
  · exact isIntChar_of_mem_repr h
  · rw [String.toList_append, List.mem_append] at h
    rcases h with hsign | hdigit
    · have hminus : c = '-' := by simpa using hsign
      rw [hminus]
      decide
    · exact isIntChar_of_mem_repr hdigit

theorem intRepr_ne_nil (n : ℤ) : (Int.repr n).toList ≠ [] := by
  rw [Int.repr_eq_if]
  split_ifs
  · rw [Nat.toList_repr]
    exact Nat.toDigits_ne_nil
  · simp

def numberText : ℤ ⊕ FloatText → List Char
  | .inl n => (Int.repr n).toList
  | .inr f => f.chars

theorem isNumberChar_of_mem_numberText {number : ℤ ⊕ FloatText} {c : Char}
    (h : c ∈ numberText number) : isNumberChar c = true := by
  cases number with
  | inl n => exact isNumberChar_of_isIntChar (isIntChar_of_mem_intRepr h)
  | inr f => exact List.all_eq_true.mp f.number c h

/-- No integer is written as a float is. -/
theorem intRepr_ne_floatText (n : ℤ) (f : FloatText) : (Int.repr n).toList ≠ f.chars := by
  intro heq
  obtain ⟨c, hmem, hnot⟩ := List.any_eq_true.mp f.float
  rw [← heq] at hmem
  simp [isIntChar_of_mem_intRepr hmem] at hnot

theorem numberText_injective : Function.Injective numberText := by
  intro a b heq
  rcases a with m | f <;> rcases b with n | g
  · exact congrArg Sum.inl (Int.repr_injective (String.toList_injective heq))
  · exact absurd heq (intRepr_ne_floatText m g)
  · exact absurd heq.symm (intRepr_ne_floatText n f)
  · cases f
    cases g
    cases heq
    rfl

/-! ### Strings -/

/-- The value of a hexadecimal digit. -/
def hexValue (c : Char) : ℕ :=
  if c.toNat < 0x3a then c.toNat - 0x30 else c.toNat - 0x57

/-- Read one character of a JSON string, and what is left. -/
def unescape : List Char → Option (Char × List Char)
  | '\\' :: '"' :: rest => some ('"', rest)
  | '\\' :: '\\' :: rest => some ('\\', rest)
  | '\\' :: 'n' :: rest => some ('\n', rest)
  | '\\' :: 'r' :: rest => some ('\r', rest)
  | '\\' :: 't' :: rest => some ('\t', rest)
  | '\\' :: 'b' :: rest => some (Char.ofNat 0x8, rest)
  | '\\' :: 'f' :: rest => some (Char.ofNat 0xc, rest)
  | '\\' :: 'u' :: '0' :: '0' :: high :: low :: rest =>
    some (Char.ofNat (16 * hexValue high + hexValue low), rest)
  | '"' :: _ => none
  | c :: rest => some (c, rest)
  | [] => none

theorem hexValue_hexDigit : ∀ n < 16, hexValue (hexDigit n) = n := by decide

theorem hexValue_split {n : ℕ} (h : n < 0x20) :
    16 * hexValue (hexDigit (n / 16)) + hexValue (hexDigit (n % 16)) = n := by
  rw [hexValue_hexDigit _ (by omega), hexValue_hexDigit _ (by omega)]
  omega

/-- Reading an escaped character gives the character back. -/
theorem unescape_escapeChar (c : Char) (rest : List Char) :
    unescape (escapeChar c ++ rest) = some (c, rest) := by
  unfold escapeChar
  split_ifs with hquote hslash hn hr ht hb hf hcontrol
  · subst hquote
    rfl
  · subst hslash
    rfl
  · subst hn
    rfl
  · subst hr
    rfl
  · subst ht
    rfl
  · subst hb
    rfl
  · subst hf
    rfl
  · simp only [List.cons_append, List.nil_append, unescape, hexValue_split hcontrol,
      Char.ofNat_toNat]
  · simp only [List.cons_append, List.nil_append]
    unfold unescape
    split <;> simp_all

/-- An escaped character does not start with the closing quote. -/
theorem escapeChar_append_ne_quote (c : Char) (rest tail : List Char) :
    escapeChar c ++ rest ≠ '"' :: tail := by
  intro heq
  have hread := unescape_escapeChar c rest
  rw [heq] at hread
  simp [unescape] at hread

theorem flatMap_escapeChar_unique {l m x y : List Char}
    (heq : l.flatMap escapeChar ++ '"' :: x = m.flatMap escapeChar ++ '"' :: y) :
    l = m ∧ x = y := by
  induction l generalizing m with
  | nil =>
    cases m with
    | nil => simpa using heq
    | cons d m =>
      simp only [List.flatMap_nil, List.nil_append, List.flatMap_cons, List.append_assoc] at heq
      exact absurd heq.symm (escapeChar_append_ne_quote _ _ _)
  | cons c l ih =>
    cases m with
    | nil =>
      simp only [List.flatMap_nil, List.nil_append, List.flatMap_cons, List.append_assoc] at heq
      exact absurd heq (escapeChar_append_ne_quote _ _ _)
    | cons d m =>
      simp only [List.flatMap_cons, List.append_assoc] at heq
      have hread := congrArg unescape heq
      rw [unescape_escapeChar, unescape_escapeChar] at hread
      simp only [Option.some.injEq, Prod.mk.injEq] at hread
      obtain ⟨rfl, hrest⟩ := hread
      obtain ⟨rfl, htail⟩ := ih hrest
      exact ⟨rfl, htail⟩

/-- A printed string ends at its own closing quote. -/
theorem printString_unique {s t : String} {x y : List Char}
    (heq : printString s ++ x = printString t ++ y) : s = t ∧ x = y := by
  simp only [printString, List.cons_append, List.append_assoc, List.nil_append, List.cons.injEq,
    true_and] at heq
  obtain ⟨hchars, hrest⟩ := flatMap_escapeChar_unique heq
  exact ⟨String.toList_injective hchars, hrest⟩

/-! ### Values -/

/-- Which kind of value a first character announces. -/
def leadTag (c : Char) : ℕ :=
  if isFloatHead c then 0
  else if c = 'n' then 1
  else if c = 't' then 2
  else if c = 'f' then 3
  else if c = '"' then 4
  else if c = '[' then 5
  else if c = '{' then 6
  else 7

/-- The kind of a value. -/
def tag : Json → ℕ
  | .int _ => 0
  | .float _ => 0
  | .null => 1
  | .bool true => 2
  | .bool false => 3
  | .str _ => 4
  | .arr _ => 5
  | .obj _ => 6

/-- The first character of a printed value announces its kind. -/
theorem tag_head (v : Json) : ∃ c rest, print v = c :: rest ∧ leadTag c = tag v := by
  cases v with
  | null => exact ⟨_, _, by rw [print], by decide⟩
  | bool b => cases b <;> exact ⟨_, _, by rw [print], by decide⟩
  | int n =>
    obtain ⟨c, rest, hcons⟩ := List.exists_cons_of_ne_nil (intRepr_ne_nil n)
    refine ⟨c, rest, by rw [print, hcons], ?_⟩
    have hint : isIntChar c = true := isIntChar_of_mem_intRepr (hcons ▸ List.mem_cons_self)
    simp [leadTag, isFloatHead, hint, tag]
  | float f =>
    have hhead := f.head
    cases hchars : f.chars with
    | nil => simp [hchars] at hhead
    | cons c rest =>
      rw [hchars] at hhead
      refine ⟨c, rest, by rw [print, hchars], ?_⟩
      have hfirst : isFloatHead c = true := by simpa using hhead
      simp [leadTag, hfirst, tag]
  | str s => exact ⟨_, _, by rw [print, printString], by rw [tag]; decide⟩
  | arr items => cases items <;> exact ⟨_, _, by rw [print], by rw [tag]; decide⟩
  | obj fields =>
    cases fields with
    | nil => exact ⟨_, _, by rw [print], by rw [tag]; decide⟩
    | cons field rest =>
      obtain ⟨key, v⟩ := field
      exact ⟨_, _, by rw [print], by rw [tag]; decide⟩

/-- No value starts with a closing bracket. -/
theorem leadTag_closing_ne (v : Json) : leadTag ']' ≠ tag v := by
  have hclosing : leadTag ']' = 7 := by decide
  rw [hclosing]
  cases v with
  | bool b => cases b <;> simp [tag]
  | _ => simp [tag]

/-- Equal texts announce equal kinds. -/
theorem tag_eq {a b : Json} {x y : List Char} (heq : print a ++ x = print b ++ y) :
    tag a = tag b := by
  obtain ⟨c, rest, hprint, hlead⟩ := tag_head a
  obtain ⟨d, rest', hprint', hlead'⟩ := tag_head b
  rw [hprint, hprint', List.cons_append, List.cons_append, List.cons.injEq] at heq
  rw [← hlead, ← hlead', heq.1]

/-- What follows a value does not continue a number. -/
def Closed (x : List Char) : Prop := ∀ c ∈ x.head?, isNumberChar c = false

theorem closed_printItems (items : List Json) (x : List Char) : Closed (printItems items ++ x) := by
  intro c hc
  cases items <;> simp only [printItems, List.cons_append, List.head?_cons, Option.mem_def,
    Option.some.injEq] at hc <;> subst hc <;> decide

theorem closed_printFields (fields : List (String × Json)) (x : List Char) :
    Closed (printFields fields ++ x) := by
  intro c hc
  cases fields <;> simp only [printFields, List.cons_append, List.head?_cons, Option.mem_def,
    Option.some.injEq] at hc <;> subst hc <;> decide

theorem number_unique {a b : ℤ ⊕ FloatText} {x y : List Char} (hx : Closed x) (hy : Closed y)
    (heq : numberText a ++ x = numberText b ++ y) : a = b ∧ x = y := by
  obtain ⟨htext, hrest⟩ := append_unique (fun _ ↦ isNumberChar_of_mem_numberText)
    (fun _ ↦ isNumberChar_of_mem_numberText) hx hy heq
  exact ⟨numberText_injective htext, hrest⟩

mutual

/-- A printed value ends where it ends: what follows it is determined. -/
theorem print_unique (a b : Json) {x y : List Char} (hx : Closed x) (hy : Closed y)
    (heq : print a ++ x = print b ++ y) : a = b ∧ x = y := by
  have htag := tag_eq heq
  match a, b, htag with
  | .null, .null, _ => simpa [print] using heq
  | .bool true, .bool true, _ => simpa [print] using heq
  | .bool false, .bool false, _ => simpa [print] using heq
  | .int m, .int n, _ =>
    obtain ⟨hnumber, hrest⟩ := number_unique (a := .inl m) (b := .inl n) hx hy heq
    exact ⟨congrArg Json.int (Sum.inl.inj hnumber), hrest⟩
  | .int m, .float g, _ =>
    exact absurd (number_unique (a := .inl m) (b := .inr g) hx hy heq).1 (by simp)
  | .float f, .int n, _ =>
    exact absurd (number_unique (a := .inr f) (b := .inl n) hx hy heq).1 (by simp)
  | .float f, .float g, _ =>
    obtain ⟨hnumber, hrest⟩ := number_unique (a := .inr f) (b := .inr g) hx hy heq
    exact ⟨congrArg Json.float (Sum.inr.inj hnumber), hrest⟩
  | .str s, .str t, _ =>
    obtain ⟨hstring, hrest⟩ := printString_unique heq
    exact ⟨congrArg Json.str hstring, hrest⟩
  | .arr [], .arr [], _ => simpa [print] using heq
  | .arr [], .arr (w :: m), _ =>
    obtain ⟨c, rest, hprint, hlead⟩ := tag_head w
    simp only [print, hprint, List.cons_append, List.cons.injEq, true_and] at heq
    exact absurd (heq.1 ▸ hlead) (leadTag_closing_ne w)
  | .arr (v :: l), .arr [], _ =>
    obtain ⟨c, rest, hprint, hlead⟩ := tag_head v
    simp only [print, hprint, List.cons_append, List.cons.injEq, true_and] at heq
    exact absurd (heq.1 ▸ hlead) (leadTag_closing_ne v)
  | .arr (v :: l), .arr (w :: m), _ =>
    simp only [print, List.cons_append, List.append_assoc, List.cons.injEq, true_and] at heq
    obtain ⟨rfl, htail⟩ := print_unique v w (closed_printItems l x) (closed_printItems m y) heq
    obtain ⟨rfl, hrest⟩ := printItems_unique l m htail
    exact ⟨rfl, hrest⟩
  | .obj [], .obj [], _ => simpa [print] using heq
  | .obj [], .obj (_ :: _), _ => simp [print, printString] at heq
  | .obj (_ :: _), .obj [], _ => simp [print, printString] at heq
  | .obj ((key, v) :: l), .obj ((name, w) :: m), _ =>
    simp only [print, List.cons_append, List.append_assoc, List.cons.injEq, true_and] at heq
    obtain ⟨rfl, hcolon⟩ := printString_unique heq
    obtain ⟨rfl, htail⟩ := print_unique v w (closed_printFields l x) (closed_printFields m y)
      (List.cons.inj hcolon).2
    obtain ⟨rfl, hrest⟩ := printFields_unique l m htail
    exact ⟨rfl, hrest⟩

/-- `print_unique` for the items after the first. -/
theorem printItems_unique (l m : List Json) {x y : List Char}
    (heq : printItems l ++ x = printItems m ++ y) : l = m ∧ x = y := by
  match l, m with
  | [], [] => simpa [printItems] using heq
  | [], _ :: _ => simp [printItems] at heq
  | _ :: _, [] => simp [printItems] at heq
  | v :: l, w :: m =>
    simp only [printItems, List.cons_append, List.append_assoc, List.cons.injEq, true_and] at heq
    obtain ⟨rfl, htail⟩ := print_unique v w (closed_printItems l x) (closed_printItems m y) heq
    obtain ⟨rfl, hrest⟩ := printItems_unique l m htail
    exact ⟨rfl, hrest⟩

/-- `print_unique` for the fields after the first. -/
theorem printFields_unique (l m : List (String × Json)) {x y : List Char}
    (heq : printFields l ++ x = printFields m ++ y) : l = m ∧ x = y := by
  match l, m with
  | [], [] => simpa [printFields] using heq
  | [], _ :: _ => simp [printFields] at heq
  | _ :: _, [] => simp [printFields] at heq
  | (key, v) :: l, (name, w) :: m =>
    simp only [printFields, List.cons_append, List.append_assoc, List.cons.injEq, true_and] at heq
    obtain ⟨rfl, hcolon⟩ := printString_unique heq
    obtain ⟨rfl, htail⟩ := print_unique v w (closed_printFields l x) (closed_printFields m y)
      (List.cons.inj hcolon).2
    obtain ⟨rfl, hrest⟩ := printFields_unique l m htail
    exact ⟨rfl, hrest⟩

end

/-- The text of a value determines it. -/
theorem print_injective : Function.Injective print := by
  intro a b heq
  have hempty : Closed [] := fun _ h ↦ by simp at h
  exact (print_unique a b (x := []) (y := []) hempty hempty (by simpa using heq)).1

instance : DecidableEq Json := fun _ _ ↦ decidable_of_iff _ print_injective.eq_iff

/-- Two values have the same canonical text exactly when they have the same canonical form. -/
theorem dumps_inj {v w : Json} : dumps v = dumps w ↔ canonical v = canonical w := by
  unfold dumps
  rw [String.ofList_inj, print_injective.eq_iff]

/-- Values that differ at a key have different texts. -/
theorem dumps_ne_of_get {v w : Json} (key : String)
    (h : (v.get key).canonical ≠ (w.get key).canonical) : v.dumps ≠ w.dumps := by
  intro heq
  apply h
  rw [← get_canonical, ← get_canonical, dumps_inj.mp heq]

end N0te.Library.Json
