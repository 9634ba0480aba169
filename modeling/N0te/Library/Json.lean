import Mathlib.Data.Int.Notation
import N0te.Library.Text

/-!
# JSON values of the Python runtime

`Json` is a value `json.loads` can produce and `json.dumps` can write. An object keeps its fields
in insertion order, as a dictionary does, and is read by key with `Json.get?`. A float is held as
the text `json` writes for it (`FloatText`): it is compared and printed, never computed with.

`canonical` sorts the fields of every object by key, and `dumps` is the canonical text
`json.dumps(value, sort_keys=True, separators=(",", ":"), ensure_ascii=False)`. Reading a field
commutes with sorting (`get?_canonical`), so every check that reads a value by key gives the same
answer on two values with the same canonical form.

Scope. Keys are strings and unique keys are not enforced; `Json.get?` reads the first.
-/

set_option autoImplicit false
set_option relaxedAutoImplicit false

namespace N0te.Library

/-! ### Values -/

/-- The characters a number is written with. -/
def isNumberChar (c : Char) : Bool :=
  c.isDigit || c == '-' || c == '+' || c == '.' || c == 'e' || c == 'N' || c == 'a' || c == 'I' ||
    c == 'n' || c == 'f' || c == 'i' || c == 't' || c == 'y'

/-- The characters an integer is written with. -/
def isIntChar (c : Char) : Bool := c.isDigit || c == '-'

/-- The characters a float can start with. -/
def isFloatHead (c : Char) : Bool := isIntChar c || c == 'N' || c == 'I'

/-- The text of a float: number characters, with at least one that no integer has. -/
structure FloatText where
  chars : List Char
  /-- Every character can stand in a number. -/
  number : chars.all isNumberChar
  /-- Some character marks the number as a float. -/
  float : chars.any fun c ↦ !isIntChar c
  /-- The first character is a digit, a sign, or starts `NaN` or `Infinity`. -/
  head : chars.head?.any isFloatHead
  deriving DecidableEq

def FloatText.one : FloatText := ⟨['1', '.', '0'], by decide, by decide, by decide⟩

/-- A JSON value. -/
inductive Json where
  | null
  | bool (b : Bool)
  | int (n : ℤ)
  | float (f : FloatText)
  | str (s : String)
  | arr (items : List Json)
  | obj (fields : List (String × Json))

namespace Json

/-- The value under a key: `dict.get(key)`, or nothing when the value is not an object. -/
def get? (v : Json) (key : String) : Option Json :=
  match v with
  | .obj fields => fields.lookup key
  | _ => none

/-- The keys an object holds. -/
def keys : Json → List String
  | .obj fields => fields.map Prod.fst
  | _ => []

/-- `dict.get(key)` with `None` for a missing key. -/
def get (v : Json) (key : String) : Json := (v.get? key).getD .null

/-- Whether a value is an object. -/
def isObj : Json → Bool
  | .obj _ => true
  | _ => false

/-- The name of the type of a value. -/
def typeName : Json → String
  | .null => "NoneType"
  | .bool _ => "bool"
  | .int _ => "int"
  | .float _ => "float"
  | .str _ => "str"
  | .arr _ => "list"
  | .obj _ => "dict"

/-! ### Finite values -/

/-- A float that is no infinity and not `NaN`. -/
def finiteFloat (f : FloatText) : Bool := f.chars.all fun c ↦ c != 'N' && c != 'I'

mutual

/-- A value without infinite floats and `NaN`, as `allow_nan=False` asks for. -/
def finite : Json → Bool
  | .float f => finiteFloat f
  | .arr items => finiteItems items
  | .obj fields => finiteFields fields
  | _ => true

/-- `finite` on the items of a list. -/
def finiteItems : List Json → Bool
  | [] => true
  | v :: rest => finite v && finiteItems rest

/-- `finite` on the values of an object. -/
def finiteFields : List (String × Json) → Bool
  | [] => true
  | (_, v) :: rest => finite v && finiteFields rest

end

/-! ### Sorting by key -/

/-- Insert a field before the first field with a larger key. -/
def insertField (field : String × Json) : List (String × Json) → List (String × Json)
  | [] => [field]
  | head :: tail =>
    if head.1 < field.1 then head :: insertField field tail else field :: head :: tail

/-- Sort the fields of an object by key, fields of equal keys in their order. -/
def sortFields : List (String × Json) → List (String × Json)
  | [] => []
  | field :: rest => insertField field (sortFields rest)

mutual

/-- Sort the fields of every object in a value. -/
def canonical : Json → Json
  | .arr items => .arr (canonicalItems items)
  | .obj fields => .obj (sortFields (canonicalFields fields))
  | v => v

/-- `canonical` on the items of a list. -/
def canonicalItems : List Json → List Json
  | [] => []
  | v :: rest => canonical v :: canonicalItems rest

/-- `canonical` on the values of an object. -/
def canonicalFields : List (String × Json) → List (String × Json)
  | [] => []
  | (key, v) :: rest => (key, canonical v) :: canonicalFields rest

end

theorem lookup_insertField (key : String) (field : String × Json) (fields : List (String × Json)) :
    (insertField field fields).lookup key = (field :: fields).lookup key := by
  induction fields with
  | nil => rfl
  | cons head tail ih =>
    obtain ⟨name, v⟩ := field
    obtain ⟨headName, w⟩ := head
    unfold insertField
    split_ifs with hless
    · have hne : headName ≠ name := fun heq ↦ String.lt_irrefl _ (heq ▸ hless)
      simp only [List.lookup_cons, ih]
      by_cases hhead : key = headName
      · have hother : (headName == name) = false := by simpa using hne
        simp [hhead, hother]
      · have hother : (key == headName) = false := by simpa using hhead
        simp [hother]
    · rfl

theorem lookup_sortFields (key : String) (fields : List (String × Json)) :
    (sortFields fields).lookup key = fields.lookup key := by
  induction fields with
  | nil => rfl
  | cons field rest ih =>
    obtain ⟨name, v⟩ := field
    rw [sortFields, lookup_insertField]
    simp only [List.lookup_cons, ih]

theorem lookup_canonicalFields (key : String) (fields : List (String × Json)) :
    (canonicalFields fields).lookup key = (fields.lookup key).map canonical := by
  induction fields with
  | nil => rfl
  | cons field rest ih =>
    obtain ⟨name, v⟩ := field
    rw [canonicalFields]
    simp only [List.lookup_cons, ih]
    cases key == name <;> rfl

theorem canonicalItems_eq_map (items : List Json) : canonicalItems items = items.map canonical := by
  induction items with
  | nil => rfl
  | cons v rest ih => rw [canonicalItems, ih, List.map_cons]

/-- Reading a field commutes with sorting. -/
@[simp] theorem get?_canonical (v : Json) (key : String) :
    (canonical v).get? key = (v.get? key).map canonical := by
  cases v with
  | obj fields =>
    simp only [canonical, get?, lookup_sortFields, lookup_canonicalFields]
  | _ => simp [canonical, get?]

@[simp] theorem get_canonical (v : Json) (key : String) :
    (canonical v).get key = canonical (v.get key) := by
  simp only [get, get?_canonical]
  cases v.get? key <;> rfl

@[simp] theorem isObj_canonical (v : Json) : (canonical v).isObj = v.isObj := by
  cases v <;> rfl

@[simp] theorem canonical_null : canonical .null = .null := rfl

@[simp] theorem canonical_bool (b : Bool) : canonical (.bool b) = .bool b := rfl

@[simp] theorem canonical_int (n : ℤ) : canonical (.int n) = .int n := rfl

@[simp] theorem canonical_float (f : FloatText) : canonical (.float f) = .float f := rfl

@[simp] theorem canonical_str (s : String) : canonical (.str s) = .str s := rfl

@[simp] theorem canonical_arr (items : List Json) :
    canonical (.arr items) = .arr (items.map canonical) := by
  rw [canonical, canonicalItems_eq_map]

/-! ### Text -/

/-- One character inside a JSON string. -/
def escapeChar (c : Char) : List Char :=
  if c = '"' then ['\\', '"']
  else if c = '\\' then ['\\', '\\']
  else if c = '\n' then ['\\', 'n']
  else if c = '\r' then ['\\', 'r']
  else if c = '\t' then ['\\', 't']
  else if c = Char.ofNat 0x8 then ['\\', 'b']
  else if c = Char.ofNat 0xc then ['\\', 'f']
  else if c.toNat < 0x20 then
    ['\\', 'u', '0', '0', hexDigit (c.toNat / 16), hexDigit (c.toNat % 16)]
  else [c]

/-- A JSON string with its quotes. -/
def printString (s : String) : List Char := '"' :: (s.toList.flatMap escapeChar ++ ['"'])

mutual

/-- The text of a value, fields in the order the value holds them. -/
def print : Json → List Char
  | .null => ['n', 'u', 'l', 'l']
  | .bool true => ['t', 'r', 'u', 'e']
  | .bool false => ['f', 'a', 'l', 's', 'e']
  | .int n => (Int.repr n).toList
  | .float f => f.chars
  | .str s => printString s
  | .arr [] => ['[', ']']
  | .arr (v :: rest) => '[' :: (print v ++ printItems rest)
  | .obj [] => ['{', '}']
  | .obj ((key, v) :: rest) => '{' :: (printString key ++ ':' :: (print v ++ printFields rest))

/-- The items after the first and the closing bracket. -/
def printItems : List Json → List Char
  | [] => [']']
  | v :: rest => ',' :: (print v ++ printItems rest)

/-- The fields after the first and the closing brace. -/
def printFields : List (String × Json) → List Char
  | [] => ['}']
  | (key, v) :: rest => ',' :: (printString key ++ ':' :: (print v ++ printFields rest))

end

/-- `json.dumps(value, sort_keys=True, separators=(",", ":"), ensure_ascii=False)`. -/
def dumps (v : Json) : String := String.ofList (print (canonical v))

/-- The four hexadecimal digits of a UTF-16 code unit. -/
def codeUnit (n : ℕ) : List Char :=
  ['\\', 'u', hexDigit (n / 4096 % 16), hexDigit (n / 256 % 16), hexDigit (n / 16 % 16),
    hexDigit (n % 16)]

/-- One character of a text restricted to printable ASCII. -/
def asciiChar (c : Char) : List Char :=
  if c.toNat < 0x7f then [c]
  else if c.toNat < 0x10000 then codeUnit c.toNat
  else codeUnit (0xd800 + (c.toNat - 0x10000) / 1024) ++
    codeUnit (0xdc00 + (c.toNat - 0x10000) % 1024)

/-- `json.dumps(value, sort_keys=True, separators=(",", ":"))`: a character outside printable ASCII
can only stand inside a string, and is escaped there. -/
def dumpsAscii (v : Json) : String := String.ofList ((print (canonical v)).flatMap asciiChar)

/-! ### `str` of a value -/

mutual

/-- `repr` of a value. -/
def pyRepr : Json → List Char
  | .null => ['N', 'o', 'n', 'e']
  | .bool true => ['T', 'r', 'u', 'e']
  | .bool false => ['F', 'a', 'l', 's', 'e']
  | .int n => (Int.repr n).toList
  | .float f => f.chars
  | .str s => (repr s).toList
  | .arr [] => ['[', ']']
  | .arr (v :: rest) => '[' :: (pyRepr v ++ pyReprItems rest)
  | .obj [] => ['{', '}']
  | .obj ((key, v) :: rest) =>
    '{' :: ((repr key).toList ++ ':' :: ' ' :: (pyRepr v ++ pyReprFields rest))

/-- The items after the first and the closing bracket. -/
def pyReprItems : List Json → List Char
  | [] => [']']
  | v :: rest => ',' :: ' ' :: (pyRepr v ++ pyReprItems rest)

/-- The fields after the first and the closing brace. -/
def pyReprFields : List (String × Json) → List Char
  | [] => ['}']
  | (key, v) :: rest =>
    ',' :: ' ' :: ((repr key).toList ++ ':' :: ' ' :: (pyRepr v ++ pyReprFields rest))

end

/-- `str(value)`: a string is itself, every other value its `repr`. -/
def pyStr : Json → String
  | .str s => s
  | v => String.ofList (pyRepr v)

end Json

end N0te.Library
