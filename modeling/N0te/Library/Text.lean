import Mathlib.Data.List.DropRight
import Mathlib.Data.Nat.Notation

/-!
# Python text

Strings as the Python runtime treats them, on Lean's `String` (a sequence of Unicode scalar
values, so the lone surrogates a Python string may hold are not represented).

`strip` removes whitespace at both ends with the runtime's own whitespace table, and `Text` is a
string that is stripped and not empty: the value every text field keeps after its check.
`strip_strip` says that a second check changes nothing. `upper` is `str.upper` as far as ASCII
results go, which is all that a comparison with an ASCII name can observe. `repr` is the quoted
form that error texts embed, exact on ASCII.

`sqlNonblank` is the SQLite condition `length(trim(x)) > 0`: only U+0020 is trimmed and the length
stops at the first U+0000, so it differs from the Python check in both directions
(`not_sqlNonblank_nul`).

Scope. Uppercase forms that are not ASCII are left as the character itself.
-/

set_option autoImplicit false
set_option relaxedAutoImplicit false

namespace N0te.Library

/-! ### Whitespace -/

/-- The characters `str.strip` removes. -/
def isSpace (c : Char) : Bool :=
  let n := c.toNat
  (9 ≤ n && n ≤ 13) || (0x1c ≤ n && n ≤ 0x20) || n == 0x85 || n == 0xa0 || n == 0x1680 ||
    (0x2000 ≤ n && n ≤ 0x200a) || n == 0x2028 || n == 0x2029 || n == 0x202f || n == 0x205f ||
    n == 0x3000

/-- `strip` on the characters. -/
def stripChars (l : List Char) : List Char := (l.dropWhile isSpace).rdropWhile isSpace

/-- `str.strip()`. -/
def strip (s : String) : String := String.ofList (stripChars s.toList)

@[simp] theorem toList_strip (s : String) : (strip s).toList = stripChars s.toList := by
  simp [strip]

/-- Dropping the spaces at the end of a list that starts with none leaves one that starts with
none. -/
theorem dropWhile_rdropWhile_dropWhile (l : List Char) :
    ((l.dropWhile isSpace).rdropWhile isSpace).dropWhile isSpace =
      (l.dropWhile isSpace).rdropWhile isSpace := by
  rw [List.dropWhile_eq_self_iff]
  intro hlength
  have hinit := List.rdropWhile_prefix isSpace (l.dropWhile isSpace)
  have hhead := hinit.getElem hlength
  rw [hhead]
  exact List.dropWhile_get_zero_not isSpace l _

@[simp] theorem stripChars_stripChars (l : List Char) :
    stripChars (stripChars l) = stripChars l := by
  unfold stripChars
  rw [dropWhile_rdropWhile_dropWhile, List.rdropWhile_idempotent]

/-- Stripping twice is stripping once. -/
@[simp] theorem strip_strip (s : String) : strip (strip s) = strip s := by
  simp [strip]

/-- A text without whitespace is its own strip. -/
theorem strip_eq_self {s : String} (h : s.toList.all (fun c ↦ !isSpace c) = true) :
    strip s = s := by
  have hnot : ∀ c ∈ s.toList, isSpace c = false := by simpa using h
  have hdrop : s.toList.dropWhile isSpace = s.toList := by
    rw [List.dropWhile_eq_self_iff]
    intro hlength
    simp [hnot _ (List.getElem_mem hlength)]
  have hrdrop : s.toList.rdropWhile isSpace = s.toList := by
    rw [List.rdropWhile_eq_self_iff]
    intro hne
    simp [hnot _ (List.getLast_mem hne)]
  rw [strip, stripChars, hdrop, hrdrop, String.ofList_toList]

theorem mem_toList_append {c : Char} {s t : String} (h : c ∈ s.toList) : c ∈ (s ++ t).toList := by
  rw [String.toList_append]
  exact List.mem_append_left _ h

/-- The first character of a literal is one of its characters. -/
theorem mem_toList_ofList (c : Char) (l : List Char) : c ∈ (String.ofList (c :: l)).toList := by
  rw [String.toList_ofList]
  exact List.mem_cons_self

/-- A character that is no whitespace stays at the front. -/
theorem stripChars_cons {c : Char} (h : isSpace c = false) (l : List Char) :
    stripChars (c :: l) = c :: l.rdropWhile isSpace := by
  rw [stripChars, List.dropWhile_cons_of_neg (by simp [h]), List.rdropWhile, List.rdropWhile,
    List.reverse_cons, List.dropWhile_append]
  split_ifs with hempty
  · simp only [List.isEmpty_iff] at hempty
    simp [hempty, h]
  · simp

/-! ### Checked text -/

/-- A stripped text that is not empty. -/
structure Text where
  /-- The characters. -/
  val : String
  /-- No whitespace at either end. -/
  stripped : strip val = val
  /-- At least one character. -/
  nonempty : val ≠ ""
  deriving DecidableEq

namespace Text

theorem ext {t u : Text} (h : t.val = u.val) : t = u := by
  cases t
  cases u
  cases h
  rfl

/-- The stripped text, when something is left of it. -/
def ofString (s : String) : Option Text :=
  if h : strip s = "" then none else some ⟨strip s, strip_strip s, h⟩

theorem ofString_eq_some {s : String} {t : Text} :
    ofString s = some t ↔ strip s = t.val ∧ strip s ≠ "" := by
  unfold ofString
  split_ifs with hempty
  · simp [hempty]
  · simp only [Option.some.injEq, ne_eq, hempty, not_false_eq_true, and_true]
    exact ⟨fun h ↦ h ▸ rfl, fun h ↦ ext h⟩

/-- A checked text passes the check unchanged. -/
@[simp] theorem ofString_val (t : Text) : ofString t.val = some t :=
  ofString_eq_some.mpr ⟨t.stripped, t.stripped.symm ▸ t.nonempty⟩

/-! #### Short texts -/

/-- The text `a`. -/
def letterA : Text := ⟨"a", by decide, by decide⟩

/-- The text `d`. -/
def letterD : Text := ⟨"d", by decide, by decide⟩

/-- The text `j`. -/
def letterJ : Text := ⟨"j", by decide, by decide⟩

/-- The text `p`. -/
def letterP : Text := ⟨"p", by decide, by decide⟩

/-- The text `t`. -/
def letterT : Text := ⟨"t", by decide, by decide⟩

/-- The text `ap`. -/
def wordAp : Text := ⟨"ap", by decide, by decide⟩

/-- The text `me`. -/
def wordMe : Text := ⟨"me", by decide, by decide⟩

end Text

/-! ### Uppercase -/

/-- `str.upper` of one character: exact when the result is ASCII, the character itself when it is
not. -/
def upperChar (c : Char) : List Char :=
  match c.toNat with
  | 0xdf => ['S', 'S']
  | 0x131 => ['I']
  | 0x17f => ['S']
  | 0xfb00 => ['F', 'F']
  | 0xfb01 => ['F', 'I']
  | 0xfb02 => ['F', 'L']
  | 0xfb03 => ['F', 'F', 'I']
  | 0xfb04 => ['F', 'F', 'L']
  | 0xfb05 => ['S', 'T']
  | 0xfb06 => ['S', 'T']
  | _ => [c.toUpper]

/-- `str.upper()`. -/
def upper (s : String) : String := String.ofList (s.toList.flatMap upperChar)

/-- `text.replace("-", "_").replace(" ", "_")`. -/
def underscored (s : String) : String :=
  String.ofList (s.toList.map fun c ↦ if c = '-' ∨ c = ' ' then '_' else c)

/-! ### Quoted forms -/

/-- A lowercase hexadecimal digit. -/
def hexDigit (n : ℕ) : Char := Nat.digitChar n

/-- One character inside the quoted form of a string delimited by `quote`. -/
def reprChar (quote c : Char) : List Char :=
  if c = quote ∨ c = '\\' then ['\\', c]
  else if c = '\n' then ['\\', 'n']
  else if c = '\r' then ['\\', 'r']
  else if c = '\t' then ['\\', 't']
  else if c.toNat < 0x20 ∨ c.toNat = 0x7f then
    ['\\', 'x', hexDigit (c.toNat / 16), hexDigit (c.toNat % 16)]
  else [c]

/-- `repr` of a string: double quotes only when it holds a single quote and no double quote. -/
def repr (s : String) : String :=
  let quote := if s.toList.contains '\'' && !s.toList.contains '"' then '"' else '\''
  String.ofList (quote :: s.toList.flatMap (reprChar quote) ++ [quote])

/-- `repr` of a list of strings. -/
def reprList (items : List String) : String :=
  "[" ++ ", ".intercalate (items.map repr) ++ "]"

/-! ### SQLite text -/

/-- The SQLite condition `length(trim(x)) > 0`. -/
def sqlNonblank (s : String) : Bool :=
  match s.toList.dropWhile (· == ' ') with
  | [] => false
  | c :: _ => c != Char.ofNat 0

/-- A text that starts with another character than U+0020 and U+0000 is not blank to SQLite, stripped
or not. -/
theorem sqlNonblank_strip {s : String} {c : Char} {l : List Char} (hs : s.toList = c :: l)
    (hspace : isSpace c = false) (hnul : c ≠ Char.ofNat 0) : sqlNonblank (strip s) = true := by
  have hne : c ≠ ' ' := by
    rintro rfl
    cases hspace
  rw [sqlNonblank, toList_strip, hs, stripChars_cons hspace,
    List.dropWhile_cons_of_neg (by simpa using hne)]
  simpa using hnul

theorem ne_empty_of_sqlNonblank {s : String} (h : sqlNonblank s) : s ≠ "" := by
  rintro rfl
  cases h

/-- A text that starts with U+0000 is blank to SQLite whatever follows. -/
theorem not_sqlNonblank_nul (rest : List Char) :
    sqlNonblank (String.ofList (Char.ofNat 0 :: rest)) = false := by
  simp [sqlNonblank]

end N0te.Library
