import N0te.Library.Inputs
import N0te.Library.Text

/-!
# Byte ranges of audition media

`parse_byte_range` reads a `Range` header, and `_serve_media` sends the bytes of the range. Where
every number that is read is written in at most 4300 ASCII digits, the parser returns nothing, the
range that the header denotes, or one of its two exceptions; `str.isdigit` lets superscripts and
longer texts through to `int`, which raises `ValueError` (`audition_ranges`).

Scope. A header is a latin-1 text. Of a response the status, the headers about the media and the body
are modelled.
-/

set_option autoImplicit false
set_option relaxedAutoImplicit false

namespace N0te.Audition

open Library

/-! ### The parser -/

/-- The classes of the exceptions. -/
inductive RangeErrorClass where
  | invalidByteRange
  | unsatisfiableByteRange
  | valueError
  deriving DecidableEq

/-- An exception of the parser. -/
abbrev RangeRaised := Raised RangeErrorClass

/-- An `InvalidByteRange`. -/
def invalidRange (message : String) : RangeRaised := ⟨.invalidByteRange, message⟩

/-- `ByteRange`. -/
structure ByteRange where
  start : ℕ
  last : ℕ
  total : ℕ
  deriving DecidableEq

/-- `length`. -/
def ByteRange.length (range : ByteRange) : ℕ := range.last - range.start + 1

/-- `content_range`. -/
def ByteRange.contentRange (range : ByteRange) : String :=
  "bytes " ++ Nat.repr range.start ++ "-" ++ Nat.repr range.last ++ "/" ++ Nat.repr range.total

/-- A text of latin-1 characters. -/
abbrev Latin1 := {text : List Char // ∀ c ∈ text, c.toNat < 256}

/-- The latin-1 characters that are digits to `str.isdigit`: the superscripts one to three too. -/
def isDigitChar (c : Char) : Bool :=
  c.isDigit || c == Char.ofNat 0xb9 || c == Char.ofNat 0xb2 || c == Char.ofNat 0xb3

/-- `str.isdigit`. -/
def isDigitText (l : List Char) : Bool := l ≠ [] && l.all isDigitChar

/-- `sys.get_int_max_str_digits()`. -/
def intMaxStrDigits : ℕ := 4300

/-- `int` of a text of digits: it takes decimal digits only, and not too many of them. -/
def intOfDigits (l : List Char) : Except RangeRaised ℕ :=
  if ¬ l.all Char.isDigit then .error ⟨.valueError, "invalid literal for int() with base 10"⟩
  else if intMaxStrDigits < l.length then
    .error ⟨.valueError, "Exceeds the limit (4300 digits) for integer string conversion"⟩
  else .ok (Nat.ofDigitChars 10 l 0)

/-- The range of a specification, from what is before and after its first dash. -/
def rangeOfParts (first last : List Char) (size : ℕ) : Except RangeRaised ByteRange :=
  if first = [] then do
    require (isDigitText last = true) (invalidRange "suffix byte range is malformed")
    let suffix ← intOfDigits last
    require (0 < suffix) (invalidRange "suffix byte range must be positive")
    return ⟨size - min suffix size, size - 1, size⟩
  else do
    require (isDigitText first = true) (invalidRange "byte range start is malformed")
    let start ← intOfDigits first
    require (start < size) ⟨.unsatisfiableByteRange, "byte range starts beyond the representation"⟩
    if last = [] then return ⟨start, size - 1, size⟩
    require (isDigitText last = true) (invalidRange "byte range end is malformed")
    let stop ← intOfDigits last
    require (start ≤ stop) (invalidRange "byte range end precedes start")
    return ⟨start, min stop (size - 1), size⟩

/-- The start of a header of byte ranges. -/
def bytesPrefix : List Char := ['b', 'y', 't', 'e', 's', '=']

/-- What is before and after the first dash of a specification, without whitespace around it. -/
def partsOf (spec : List Char) : List Char × List Char :=
  (stripChars (spec.takeWhile (· ≠ '-')), stripChars ((spec.dropWhile (· ≠ '-')).drop 1))

def partsOfHeader (text : List Char) : Except RangeRaised (List Char × List Char) := do
  require (bytesPrefix <+: text) (invalidRange "only byte ranges are supported")
  let spec := stripChars (text.drop bytesPrefix.length)
  require (spec ≠ [] ∧ ',' ∉ spec) (invalidRange "exactly one byte range is supported")
  require ('-' ∈ spec) (invalidRange "byte range is missing a dash")
  return partsOf spec

/-- `parse_byte_range`, for a positive size. -/
def parseByteRange (value : Option Latin1) (size : ℕ) : Except RangeRaised (Option ByteRange) :=
  match value with
  | none => .ok none
  | some value => do
    let text := stripChars value.val
    if text = [] then return none
    let parts ← partsOfHeader text
    let range ← rangeOfParts parts.1 parts.2 size
    return some range

/-! ### Serving -/

/-- A response, or what of it was sent before the material ended. -/
structure Response where
  status : ℕ
  headers : List (String × String)
  body : List UInt8
  complete : Bool
  deriving DecidableEq

/-- The most that is read at once. -/
def readLimit : ℕ := 1024 * 1024

theorem length_chunk_le {file : List UInt8} {position remaining : ℕ} :
    ((file.drop position).take (min readLimit remaining)).length ≤ remaining := by
  rw [List.length_take]
  omega

/-- A chunk that is not empty leaves less to send. -/
theorem remaining_sub_chunk_lt {file : List UInt8} {position remaining : ℕ}
    (hchunk : (file.drop position).take (min readLimit remaining) ≠ []) :
    remaining - ((file.drop position).take (min readLimit remaining)).length < remaining := by
  have hpos := List.length_pos_iff.mpr hchunk
  have hle := @length_chunk_le file position remaining
  omega

/-- The loop that sends what remains of a range: the bytes, and whether they were all there. -/
def sendLoop (file : List UInt8) (position remaining : ℕ) : List UInt8 × Bool :=
  if remaining = 0 then ([], true)
  else
    let chunk := (file.drop position).take (min readLimit remaining)
    if _hchunk : chunk = [] then ([], false)
    else
      let rest := sendLoop file (position + chunk.length) (remaining - chunk.length)
      (chunk ++ rest.1, rest.2)
termination_by remaining
decreasing_by exact remaining_sub_chunk_lt ‹_›

def refusedRange (size : ℕ) (e : RangeRaised) : Option Response :=
  match e.cls with
  | .invalidByteRange => some ⟨400, [], [], true⟩
  | .unsatisfiableByteRange => some ⟨416, [("Content-Range", "bytes */" ++ Nat.repr size),
      ("Accept-Ranges", "bytes"), ("Content-Length", "0")], [], true⟩
  | .valueError => none

/-- `_serve_media` of a file that was verified: no response where the parser raises something else. -/
def serveMedia (file : List UInt8) (contentType : String) (value : Option Latin1) (headOnly : Bool) :
    Option Response :=
  match parseByteRange value file.length with
  | .error e => refusedRange file.length e
  | .ok range =>
    let start := (range.map ByteRange.start).getD 0
    let last := (range.map ByteRange.last).getD (file.length - 1)
    let length := last - start + 1
    let headers := [("Content-Type", contentType), ("Accept-Ranges", "bytes"),
      ("Content-Length", Nat.repr length)] ++
        (range.map fun range ↦ ("Content-Range", range.contentRange)).toList
    let sent := if headOnly then ([], true) else sendLoop file start length
    some ⟨if range.isNone then 200 else 206, headers, sent.1, sent.2⟩

/-! ### What a header denotes -/

/-- A number in decimal digits. -/
structure Writes (l : List Char) (n : ℕ) : Prop where
  nonempty : l ≠ []
  digits : ∀ c ∈ l, c.isDigit = true
  value : Nat.ofDigitChars 10 l 0 = n

/-- The byte range that two parts denote, clipped to a size. -/
inductive PartsDenote (size : ℕ) : List Char → List Char → ℕ → ℕ → Prop
  | suffix (last : List Char) (n : ℕ) (hlast : Writes last n) (hpos : 0 < n) :
    PartsDenote size [] last (size - n) (size - 1)
  | onward (first : List Char) (n : ℕ) (hfirst : Writes first n) (hsize : n < size) :
    PartsDenote size first [] n (size - 1)
  | within (first last : List Char) (m n : ℕ) (hfirst : Writes first m) (hlast : Writes last n)
      (hsize : m < size) (horder : m ≤ n) : PartsDenote size first last m (min n (size - 1))

/-- A header is `bytes=`, a part, a dash and a part, with whitespace around each and no comma. -/
def HasParts (text first last : List Char) : Prop :=
  ∃ spec before after, stripChars text = bytesPrefix ++ spec ∧
    stripChars spec = before ++ '-' :: after ∧ '-' ∉ before ∧ ',' ∉ before ++ '-' :: after ∧
      stripChars before = first ∧ stripChars after = last

/-- The one byte range that a header denotes, clipped to a size. -/
def Denotes (text : List Char) (size start stop : ℕ) : Prop :=
  ∃ first last, HasParts text first last ∧ PartsDenote size first last start stop

/-- A text that `int` converts if it consists of digits to `str.isdigit`. -/
def Convertible (l : List Char) : Prop :=
  isDigitText l = true → (∀ c ∈ l, c.isDigit = true) ∧ l.length ≤ intMaxStrDigits

/-- The parts of a header that are converted can be: the end only of a range with a start, if it has
one, within the file. -/
def ConvertibleParts (size : ℕ) (first last : List Char) : Prop :=
  if first = [] then Convertible last
  else Convertible first ∧ ((∃ n < size, Writes first n) → Convertible last)

/-- What is claimed of the answer to a request for a file. -/
def AnswersAsDenoted (file : List UInt8) (contentType : String) (value : Option Latin1) : Prop :=
  match parseByteRange value file.length with
  | .ok none => (∀ text, value = some text → stripChars text.val = []) ∧
      ∃ response, serveMedia file contentType value false = some response ∧ response.complete ∧
        response.body = file ∧ ("Content-Length", Nat.repr file.length) ∈ response.headers
  | .ok (some range) => range.start ≤ range.last ∧ range.last < file.length ∧
      range.total = file.length ∧
      (∃ text, value = some text ∧ ∀ start stop, Denotes text.val file.length start stop ↔
        start = range.start ∧ stop = range.last) ∧
      ∃ response, serveMedia file contentType value false = some response ∧ response.complete ∧
        response.body = (file.drop range.start).take range.length ∧
        response.body.length = range.length ∧
        ("Content-Length", Nat.repr range.length) ∈ response.headers
  | .error e => e.cls = .invalidByteRange ∨ e.cls = .unsatisfiableByteRange

/-! ### The parts of a header -/

/-- The parts around the first dash. -/
theorem partsOf_append {before after : List Char} (hbefore : '-' ∉ before) :
    partsOf (before ++ '-' :: after) = (stripChars before, stripChars after) := by
  have hpos : ∀ c ∈ before, (decide (c ≠ '-')) = true := fun c hc ↦
    decide_eq_true fun heq ↦ hbefore (heq ▸ hc)
  rw [partsOf, List.takeWhile_append_of_pos hpos, List.dropWhile_append_of_pos hpos]
  simp

/-- The parser splits a header into its parts, if it has any. -/
theorem partsOfHeader_eq_ok {text first last : List Char} :
    partsOfHeader (stripChars text) = .ok (first, last) ↔ HasParts text first last := by
  simp only [partsOfHeader, bind_eq_ok, require_eq_ok, exists_const, pure_eq_ok]
  constructor
  · rintro ⟨⟨spec, hspec⟩, ⟨-, hcomma⟩, hdash, hparts⟩
    rw [← hspec, List.drop_left] at hcomma hdash hparts
    obtain ⟨before, after, hsplit, hbefore⟩ := List.eq_append_cons_of_mem hdash
    rw [hsplit, partsOf_append hbefore] at hparts
    rw [hsplit] at hcomma
    exact ⟨spec, before, after, hspec.symm, hsplit, hbefore, hcomma,
      congrArg Prod.fst hparts, congrArg Prod.snd hparts⟩
  · rintro ⟨spec, before, after, hspec, hsplit, hbefore, hcomma, rfl, rfl⟩
    have hdrop : (stripChars text).drop bytesPrefix.length = spec := by rw [hspec, List.drop_left]
    rw [hdrop, hsplit]
    exact ⟨⟨spec, hspec.symm⟩, ⟨by simp, hcomma⟩, by simp, partsOf_append hbefore⟩

/-- A header has one pair of parts. -/
theorem HasParts.unique {text first last first' last' : List Char} (h : HasParts text first last)
    (h' : HasParts text first' last') : first = first' ∧ last = last' := by
  have heq := (partsOfHeader_eq_ok.mpr h).symm.trans (partsOfHeader_eq_ok.mpr h')
  exact Prod.mk.inj (Except.ok.inj heq)

/-- A header with parts is not blank. -/
theorem HasParts.ne_nil {text first last : List Char} (h : HasParts text first last) :
    stripChars text ≠ [] := by
  obtain ⟨spec, -, -, hspec, -⟩ := h
  rw [hspec]
  exact List.append_ne_nil_of_left_ne_nil (List.cons_ne_nil _ _) _

/-- The splitting raises `InvalidByteRange` only. -/
theorem partsOfHeader_raises (text : List Char) :
    RaisesOnly (·.cls = .invalidByteRange) (partsOfHeader text) := by
  unfold partsOfHeader
  refine RaisesOnly.bind (raisesOnly_require rfl) fun _ _ ↦ ?_
  refine RaisesOnly.bind (raisesOnly_require rfl) fun _ _ ↦ ?_
  exact RaisesOnly.bind (raisesOnly_require rfl) fun _ _ ↦ raisesOnly_ok _

/-! ### The numbers of a header -/

theorem isDigitText_of_writes {l : List Char} {n : ℕ} (h : Writes l n) : isDigitText l = true := by
  have hall : l.all isDigitChar = true := by
    rw [List.all_eq_true]
    intro c hc
    simp [isDigitChar, h.digits c hc]
  simp [isDigitText, h.nonempty, hall]

/-- A number has one value. -/
theorem Writes.unique {l : List Char} {m n : ℕ} (hm : Writes l m) (hn : Writes l n) : m = n :=
  hm.value.symm.trans hn.value

theorem ne_nil_of_isDigitText {l : List Char} (h : isDigitText l = true) : l ≠ [] := by
  rintro rfl
  exact Bool.noConfusion h

/-- What `int` returns for a text of digits is the number that the text writes. -/
theorem writes_of_intOfDigits {l : List Char} {n : ℕ} (hdigits : isDigitText l = true)
    (h : intOfDigits l = .ok n) : Writes l n := by
  unfold intOfDigits at h
  split_ifs at h with hall hlength
  exact ⟨ne_nil_of_isDigitText hdigits, List.all_eq_true.mp hall, Except.ok.inj h⟩

/-- A convertible text of digits is converted. -/
theorem exists_intOfDigits {l : List Char} (hdigits : isDigitText l = true)
    (hconvertible : Convertible l) : ∃ n, intOfDigits l = .ok n := by
  obtain ⟨hall, hlength⟩ := hconvertible hdigits
  refine ⟨Nat.ofDigitChars 10 l 0, ?_⟩
  rw [intOfDigits, if_neg (not_not.mpr (List.all_eq_true.mpr hall)), if_neg (Nat.not_lt.mpr hlength)]

/-- A text that is not convertible passes `str.isdigit`, and `int` raises. -/
theorem intOfDigits_of_not_convertible {l : List Char} (h : ¬ Convertible l) :
    isDigitText l = true ∧ ∃ e, intOfDigits l = .error e ∧ e.cls = .valueError := by
  obtain ⟨hdigits, hnot⟩ := Classical.not_imp.mp h
  refine ⟨hdigits, ?_⟩
  unfold intOfDigits
  split_ifs with hall hlength
  · exact ⟨_, rfl, rfl⟩
  · exact absurd ⟨List.all_eq_true.mp hall, Nat.not_lt.mp hlength⟩ hnot
  · exact ⟨_, rfl, rfl⟩

/-! ### The range of two parts -/

/-- Two parts denote one range. -/
theorem PartsDenote.unique {size start stop start' stop' : ℕ} {first last : List Char}
    (h : PartsDenote size first last start stop) (h' : PartsDenote size first last start' stop') :
    start = start' ∧ stop = stop' := by
  cases h with
  | suffix _ n hlast hpos =>
    cases h' with
    | suffix _ n' hlast' hpos' => rw [hlast.unique hlast']; exact ⟨rfl, rfl⟩
    | onward _ n' hfirst' hsize' => exact absurd rfl hlast.nonempty
    | within _ _ m' n' hfirst' hlast' hsize' horder' => exact absurd rfl hfirst'.nonempty
  | onward _ n hfirst hsize =>
    cases h' with
    | suffix _ n' hlast' hpos' => exact absurd rfl hfirst.nonempty
    | onward _ n' hfirst' hsize' => exact ⟨hfirst.unique hfirst', rfl⟩
    | within _ _ m' n' hfirst' hlast' hsize' horder' => exact absurd rfl hlast'.nonempty
  | within _ _ m n hfirst hlast hsize horder =>
    cases h' with
    | suffix _ n' hlast' hpos' => exact absurd rfl hfirst.nonempty
    | onward _ n' hfirst' hsize' => exact absurd rfl hlast.nonempty
    | within _ _ m' n' hfirst' hlast' hsize' horder' =>
      rw [hfirst.unique hfirst', hlast.unique hlast']
      exact ⟨rfl, rfl⟩

/-- The range that is returned for two parts. -/
structure IsRangeOf (size : ℕ) (first last : List Char) (range : ByteRange) : Prop where
  denotes : PartsDenote size first last range.start range.last
  ordered : range.start ≤ range.last
  inside : range.last < size
  total : range.total = size

/-- What is returned for two parts is the range that they denote. -/
theorem isRangeOf_of_rangeOfParts {size : ℕ} {first last : List Char} {range : ByteRange}
    (hsize : 0 < size) (h : rangeOfParts first last size = .ok range) :
    IsRangeOf size first last range := by
  unfold rangeOfParts at h
  by_cases hfirst : first = []
  · rw [if_pos hfirst] at h
    subst hfirst
    simp only [bind_eq_ok, require_eq_ok, exists_const, pure_eq_ok] at h
    obtain ⟨hdigits, n, hn, hpos, rfl⟩ := h
    have hmin : size - min n size = size - n := by omega
    constructor
    · rw [hmin]
      exact PartsDenote.suffix last n (writes_of_intOfDigits hdigits hn) hpos
    · show size - min n size ≤ size - 1
      omega
    · show size - 1 < size
      omega
    · rfl
  · rw [if_neg hfirst] at h
    simp only [bind_eq_ok, require_eq_ok, exists_const] at h
    obtain ⟨hdigits, m, hm, hstart, h⟩ := h
    have hwrites := writes_of_intOfDigits hdigits hm
    by_cases hlast : last = []
    · rw [if_pos hlast, pure_eq_ok] at h
      subst hlast h
      constructor
      · exact PartsDenote.onward first m hwrites hstart
      · show m ≤ size - 1
        omega
      · show size - 1 < size
        omega
      · rfl
    · simp only [if_neg hlast, bind_eq_ok, require_eq_ok, exists_const, pure_eq_ok] at h
      obtain ⟨hdigits', n, hn, horder, rfl⟩ := h
      constructor
      · exact PartsDenote.within first last m n hwrites (writes_of_intOfDigits hdigits' hn) hstart
          horder
      · show m ≤ min n (size - 1)
        omega
      · show min n (size - 1) < size
        omega
      · rfl

/-- The two exceptions that are for a range. -/
def IsRangeError (e : RangeRaised) : Prop :=
  e.cls = .invalidByteRange ∨ e.cls = .unsatisfiableByteRange

/-- Where the parts are convertible, only the two exceptions are raised. -/
theorem rangeOfParts_raises {size : ℕ} {first last : List Char}
    (h : ConvertibleParts size first last) : RaisesOnly IsRangeError (rangeOfParts first last size) := by
  unfold ConvertibleParts at h
  unfold rangeOfParts
  by_cases hfirst : first = []
  · rw [if_pos hfirst] at h ⊢
    refine raisesOnly_require_bind (.inl rfl) fun hdigits ↦ ?_
    refine RaisesOnly.bind (raisesOnly_of_ok (exists_intOfDigits hdigits h)) fun _ _ ↦ ?_
    exact raisesOnly_require_bind (.inl rfl) fun _ ↦ raisesOnly_ok _
  · rw [if_neg hfirst] at h ⊢
    refine raisesOnly_require_bind (.inl rfl) fun hdigits ↦ ?_
    refine RaisesOnly.bind (raisesOnly_of_ok (exists_intOfDigits hdigits h.1)) fun m hm ↦ ?_
    refine raisesOnly_require_bind (.inr rfl) fun hstart ↦ ?_
    have hlast := h.2 ⟨m, hstart, writes_of_intOfDigits hdigits hm⟩
    split_ifs
    · exact raisesOnly_ok _
    · refine raisesOnly_require_bind (.inl rfl) fun hdigits' ↦ ?_
      refine RaisesOnly.bind (raisesOnly_of_ok (exists_intOfDigits hdigits' hlast)) fun _ _ ↦ ?_
      exact raisesOnly_require_bind (.inl rfl) fun _ ↦ raisesOnly_ok _

/-- Where they are not, `int` raises. -/
theorem rangeOfParts_of_not_convertible {size : ℕ} {first last : List Char}
    (h : ¬ ConvertibleParts size first last) :
    ∃ e, rangeOfParts first last size = .error e ∧ e.cls = .valueError := by
  unfold ConvertibleParts at h
  unfold rangeOfParts
  by_cases hfirst : first = []
  · rw [if_pos hfirst] at h ⊢
    obtain ⟨hdigits, e, he, hcls⟩ := intOfDigits_of_not_convertible h
    refine ⟨e, ?_, hcls⟩
    rw [require, if_pos hdigits, he]
    rfl
  · rw [if_neg hfirst] at h ⊢
    by_cases hconvertible : Convertible first
    · have hrest : ¬ ((∃ n < size, Writes first n) → Convertible last) :=
        fun hlast ↦ h ⟨hconvertible, hlast⟩
      obtain ⟨⟨n, hn, hwrites⟩, hlast⟩ := Classical.not_imp.mp hrest
      have hdigits := isDigitText_of_writes hwrites
      obtain ⟨m, hm⟩ := exists_intOfDigits hdigits hconvertible
      have hsame : m = n := (writes_of_intOfDigits hdigits hm).unique hwrites
      obtain ⟨hdigits', e, he, hcls⟩ := intOfDigits_of_not_convertible hlast
      refine ⟨e, ?_, hcls⟩
      have hstart : m < size := hsame ▸ hn
      have hend : last ≠ [] := ne_nil_of_isDigitText hdigits'
      refine bind_eq_error.mpr (.inr ⟨(), require_eq_ok.mpr hdigits, ?_⟩)
      refine bind_eq_error.mpr (.inr ⟨m, hm, ?_⟩)
      refine bind_eq_error.mpr (.inr ⟨(), require_eq_ok.mpr hstart, ?_⟩)
      rw [if_neg hend]
      refine bind_eq_error.mpr (.inr ⟨(), require_eq_ok.mpr hdigits', ?_⟩)
      exact bind_eq_error.mpr (.inl he)
    · obtain ⟨hdigits, e, he, hcls⟩ := intOfDigits_of_not_convertible hconvertible
      refine ⟨e, ?_, hcls⟩
      rw [require, if_pos hdigits, he]
      rfl

/-! ### The range of a header -/

/-- A header whose numbers, as far as they are converted, are written in at most 4300 ASCII digits. -/
def ConvertibleHeader (size : ℕ) (value : Option Latin1) : Prop :=
  ∀ text ∈ value, ∀ first last, HasParts text.val first last → ConvertibleParts size first last

theorem parseByteRange_of_blank {text : Latin1} (h : stripChars text.val = []) (size : ℕ) :
    parseByteRange (some text) size = .ok none := by
  rw [parseByteRange]
  exact if_pos h

theorem parseByteRange_of_not_blank {text : Latin1} (h : stripChars text.val ≠ []) (size : ℕ) :
    parseByteRange (some text) size = (do
      let parts ← partsOfHeader (stripChars text.val)
      let range ← rangeOfParts parts.1 parts.2 size
      return some range) := by
  rw [parseByteRange]
  exact if_neg h

/-- No range is returned where there is no header but whitespace. -/
theorem blank_of_parseByteRange {value : Option Latin1} {size : ℕ}
    (h : parseByteRange value size = .ok none) :
    ∀ text, value = some text → stripChars text.val = [] := by
  rintro text rfl
  by_contra hblank
  rw [parseByteRange_of_not_blank hblank] at h
  simp only [bind_eq_ok, pure_eq_ok, reduceCtorEq, and_false, exists_false] at h

/-- A range that is returned is that of the parts of the header. -/
theorem isRangeOf_of_parseByteRange {value : Option Latin1} {size : ℕ} {range : ByteRange}
    (hsize : 0 < size) (h : parseByteRange value size = .ok (some range)) :
    ∃ text first last, value = some text ∧ HasParts text.val first last ∧
      IsRangeOf size first last range := by
  cases value with
  | none =>
    rw [parseByteRange] at h
    cases h
  | some text =>
    by_cases hblank : stripChars text.val = []
    · rw [parseByteRange_of_blank hblank] at h
      cases h
    · rw [parseByteRange_of_not_blank hblank] at h
      simp only [bind_eq_ok, pure_eq_ok, Option.some.injEq] at h
      obtain ⟨⟨first, last⟩, hparts, range', hrange, rfl⟩ := h
      exact ⟨text, first, last, rfl, partsOfHeader_eq_ok.mp hparts,
        isRangeOf_of_rangeOfParts hsize hrange⟩

/-- The range that is returned is the one that the header denotes. -/
theorem denotes_iff_of_parseByteRange {value : Option Latin1} {size : ℕ} {range : ByteRange}
    (hsize : 0 < size) (h : parseByteRange value size = .ok (some range)) :
    ∃ text, value = some text ∧ ∀ start stop, Denotes text.val size start stop ↔
      start = range.start ∧ stop = range.last := by
  obtain ⟨text, first, last, rfl, hparts, hrange⟩ := isRangeOf_of_parseByteRange hsize h
  refine ⟨text, rfl, fun start stop ↦ ⟨?_, ?_⟩⟩
  · rintro ⟨first', last', hparts', hdenotes⟩
    obtain ⟨rfl, rfl⟩ := hparts'.unique hparts
    exact hdenotes.unique hrange.denotes
  · rintro ⟨rfl, rfl⟩
    exact ⟨first, last, hparts, hrange.denotes⟩

/-- The parser raises one of its two exceptions only, if the numbers can be converted. -/
theorem parseByteRange_raises {value : Option Latin1} {size : ℕ}
    (h : ConvertibleHeader size value) : RaisesOnly IsRangeError (parseByteRange value size) := by
  cases value with
  | none => exact raisesOnly_ok _
  | some text =>
    by_cases hblank : stripChars text.val = []
    · rw [parseByteRange_of_blank hblank]
      exact raisesOnly_ok _
    · rw [parseByteRange_of_not_blank hblank]
      have hsplit : RaisesOnly IsRangeError (partsOfHeader (stripChars text.val)) :=
        fun e he ↦ .inl (partsOfHeader_raises _ e he)
      refine hsplit.bind fun parts hparts ↦ ?_
      have hconvertible := h text rfl _ _ (partsOfHeader_eq_ok.mp hparts)
      exact (rangeOfParts_raises hconvertible).bind fun _ _ ↦ raisesOnly_ok _

/-- Else it raises `ValueError`. -/
theorem parseByteRange_of_not_convertible {value : Option Latin1} {size : ℕ}
    (h : ¬ ConvertibleHeader size value) :
    ∃ e, parseByteRange value size = .error e ∧ e.cls = .valueError := by
  simp only [ConvertibleHeader, not_forall] at h
  obtain ⟨text, hvalue, first, last, hparts, hnot⟩ := h
  obtain ⟨e, he, hcls⟩ := rangeOfParts_of_not_convertible hnot
  refine ⟨e, ?_, hcls⟩
  rw [Option.mem_def] at hvalue
  rw [hvalue, parseByteRange_of_not_blank hparts.ne_nil, partsOfHeader_eq_ok.mpr hparts]
  exact bind_eq_error.mpr (.inr ⟨_, rfl, bind_eq_error.mpr (.inl he)⟩)

/-! ### What is sent -/

theorem sendLoop_eq {file : List UInt8} {position remaining : ℕ}
    (hfit : position + remaining ≤ file.length) :
    sendLoop file position remaining = ((file.drop position).take remaining, true) := by
  induction remaining using Nat.strong_induction_on generalizing position with
  | _ remaining ih =>
    rw [sendLoop]
    by_cases hzero : remaining = 0
    · rw [if_pos hzero, hzero, List.take_zero]
    · rw [if_neg hzero]
      have hlength : ((file.drop position).take (min readLimit remaining)).length =
          min readLimit remaining := by
        rw [List.length_take, List.length_drop]
        omega
      have hchunk : (file.drop position).take (min readLimit remaining) ≠ [] := by
        rw [← List.length_pos_iff, hlength, readLimit]
        omega
      have hless : remaining - min readLimit remaining < remaining := by
        rw [readLimit]
        omega
      have hnext : position + min readLimit remaining + (remaining - min readLimit remaining) ≤
          file.length := by omega
      have hrest := ih _ hless hnext
      dsimp only
      rw [dif_neg hchunk, hlength, hrest, ← List.drop_drop, ← List.take_add,
        Nat.add_sub_cancel' (Nat.min_le_right _ _)]

/-- The response with a range, or with none. -/
theorem serveMedia_of_ok {file : List UInt8} (contentType : String) {value : Option Latin1}
    {range : Option ByteRange} (h : parseByteRange value file.length = .ok range) {start length : ℕ}
    (hstart : (range.map ByteRange.start).getD 0 = start)
    (hlength : (range.map ByteRange.last).getD (file.length - 1) - start + 1 = length)
    (hfit : start + length ≤ file.length) :
    ∃ response, serveMedia file contentType value false = some response ∧
      response.complete = true ∧ response.body = (file.drop start).take length ∧
        ("Content-Length", Nat.repr length) ∈ response.headers := by
  unfold serveMedia
  rw [h]
  dsimp only
  rw [hstart, hlength]
  simp only [Bool.false_eq_true, if_false, sendLoop_eq hfit]
  refine ⟨_, rfl, rfl, rfl, ?_⟩
  simp

/-- Without a range the whole file is sent. -/
theorem serveMedia_whole {file : List UInt8} (contentType : String) {value : Option Latin1}
    (hfile : file ≠ []) (h : parseByteRange value file.length = .ok none) :
    ∃ response, serveMedia file contentType value false = some response ∧
      response.complete = true ∧ response.body = file ∧
        ("Content-Length", Nat.repr file.length) ∈ response.headers := by
  have hpos := List.length_pos_iff.mpr hfile
  have hlength : file.length - 1 - 0 + 1 = file.length := by omega
  have hstart : ((none : Option ByteRange).map ByteRange.start).getD 0 = 0 := rfl
  have hserve := serveMedia_of_ok contentType h hstart hlength (by omega)
  rwa [List.drop_zero, List.take_length] at hserve

/-- With a range its bytes are sent. -/
theorem serveMedia_range {file : List UInt8} (contentType : String) {value : Option Latin1}
    {range : ByteRange} (h : parseByteRange value file.length = .ok (some range))
    (hordered : range.start ≤ range.last) (hinside : range.last < file.length) :
    ∃ response, serveMedia file contentType value false = some response ∧
      response.complete = true ∧ response.body = (file.drop range.start).take range.length ∧
        ("Content-Length", Nat.repr range.length) ∈ response.headers :=
  serveMedia_of_ok contentType h rfl rfl (by rw [ByteRange.length]; omega)

theorem length_slice {file : List UInt8} {range : ByteRange} (hordered : range.start ≤ range.last)
    (hinside : range.last < file.length) :
    ((file.drop range.start).take range.length).length = range.length := by
  rw [List.length_take, List.length_drop, ByteRange.length]
  omega

/-! ### Ranges that partition a file -/

/-- Ranges that follow each other from a position to the end of a file. -/
def Follow (size : ℕ) : ℕ → List ByteRange → Prop
  | position, [] => position = size
  | position, range :: rest => range.start = position ∧ Follow size (range.last + 1) rest

/-- The bytes of ranges that follow each other are those from the position on. -/
theorem flatten_of_follow {file : List UInt8} {ranges : List ByteRange} {position : ℕ}
    (hranges : ∀ range ∈ ranges, range.start ≤ range.last)
    (hfollow : Follow file.length position ranges) :
    (ranges.map fun range ↦ (file.drop range.start).take range.length).flatten =
      file.drop position := by
  induction ranges generalizing position with
  | nil =>
    have hend : position = file.length := hfollow
    rw [hend, List.drop_length]
    rfl
  | cons range rest ih =>
    obtain ⟨hstart, hrest⟩ := hfollow
    have hordered := hranges range List.mem_cons_self
    have hnext : range.last + 1 = range.start + range.length := by
      rw [ByteRange.length]
      omega
    rw [List.map_cons, List.flatten_cons,
      ih (fun range hrange ↦ hranges range (List.mem_cons_of_mem _ hrange)) hrest, hnext,
      ← List.drop_drop, List.take_append_drop, hstart]

/-- The answers to headers whose ranges partition the file. -/
def BodiesJoin (file : List UInt8) (contentType : String) : Prop :=
  ∀ requests : List (Option Latin1 × ByteRange × Response),
    (∀ request ∈ requests, parseByteRange request.1 file.length = .ok (some request.2.1) ∧
      serveMedia file contentType request.1 false = some request.2.2) →
    Follow file.length 0 (requests.map (·.2.1)) →
      (requests.map (·.2.2.body)).flatten = file

theorem bodies_join {file : List UInt8} (hfile : file ≠ []) (contentType : String) :
    BodiesJoin file contentType := by
  intro requests hrequests hfollow
  have hpos := List.length_pos_iff.mpr hfile
  have hordered : ∀ range ∈ requests.map (·.2.1), range.start ≤ range.last := by
    intro range hrange
    obtain ⟨request, hrequest, rfl⟩ := List.mem_map.mp hrange
    obtain ⟨_, _, _, _, _, hrange⟩ := isRangeOf_of_parseByteRange hpos (hrequests request hrequest).1
    exact hrange.ordered
  have hbodies : ∀ request ∈ requests,
      request.2.2.body = (file.drop request.2.1.start).take request.2.1.length := by
    intro request hrequest
    obtain ⟨hparse, hserve⟩ := hrequests request hrequest
    obtain ⟨_, _, _, _, _, hrange⟩ := isRangeOf_of_parseByteRange hpos hparse
    obtain ⟨response, hresponse, -, hbody, -⟩ :=
      serveMedia_range contentType hparse hrange.ordered hrange.inside
    rw [hserve] at hresponse
    rw [Option.some.inj hresponse, hbody]
  have hflatten := flatten_of_follow hordered hfollow
  rw [List.map_map] at hflatten
  rw [List.map_congr_left hbodies]
  exact hflatten

/-! ### Every header -/

/-- A request is answered as claimed exactly where the numbers of its header, as far as they are
converted, are written in at most 4300 ASCII digits; and answers to ranges that partition the file
always join to the file. -/
theorem audition_ranges (file : List UInt8) (contentType : String) (hfile : file ≠ []) :
    (∀ value, AnswersAsDenoted file contentType value ↔ ConvertibleHeader file.length value) ∧
      BodiesJoin file contentType := by
  have hpos := List.length_pos_iff.mpr hfile
  refine ⟨fun value ↦ ⟨fun hanswers ↦ ?_, fun hconvertible ↦ ?_⟩, bodies_join hfile contentType⟩
  · by_contra hnot
    obtain ⟨e, he, hcls⟩ := parseByteRange_of_not_convertible hnot
    rw [AnswersAsDenoted, he] at hanswers
    simp only [hcls, reduceCtorEq, or_self] at hanswers
  · have hraises := parseByteRange_raises hconvertible
    unfold AnswersAsDenoted
    cases hparse : parseByteRange value file.length with
    | error e => exact hraises e hparse
    | ok range =>
      cases range with
      | none => exact ⟨blank_of_parseByteRange hparse, serveMedia_whole contentType hfile hparse⟩
      | some range =>
        obtain ⟨_, _, _, _, _, hrange⟩ := isRangeOf_of_parseByteRange hpos hparse
        obtain ⟨response, hserve, hcomplete, hbody, hheader⟩ :=
          serveMedia_range contentType hparse hrange.ordered hrange.inside
        refine ⟨hrange.ordered, hrange.inside, hrange.total,
          denotes_iff_of_parseByteRange hpos hparse, response, hserve, hcomplete, hbody, ?_, hheader⟩
        rw [hbody, length_slice hrange.ordered hrange.inside]

/-- `bytes=1-2`. -/
def middleHeader : Latin1 := ⟨['b', 'y', 't', 'e', 's', '=', '1', '-', '2'], by simp⟩

theorem middleHeader_parts {first last : List Char} (h : HasParts middleHeader.val first last) :
    first = ['1'] ∧ last = ['2'] := by
  have hparts : partsOfHeader (stripChars middleHeader.val) = .ok (['1'], ['2']) := by
    decide +kernel
  exact h.unique (partsOfHeader_eq_ok.mp hparts)

theorem convertible_singleton {c : Char} (h : c.isDigit = true) : Convertible [c] := by
  intro _
  refine ⟨fun other hother ↦ ?_, ?_⟩
  · rw [List.mem_singleton.mp hother]
    exact h
  · rw [List.length_singleton, intMaxStrDigits]
    omega

/-- The second and the third byte of a file of four. -/
theorem audition_ranges_middle :
    [10, 20, 30, 40] ≠ ([] : List UInt8) ∧
      AnswersAsDenoted [10, 20, 30, 40] "audio/wav" (some middleHeader) := by
  have hfile : [10, 20, 30, 40] ≠ ([] : List UInt8) := List.cons_ne_nil _ _
  refine ⟨hfile, ((audition_ranges _ _ hfile).1 (some middleHeader)).mpr ?_⟩
  rintro text htext first last hparts
  obtain rfl := Option.some.inj htext
  obtain ⟨rfl, rfl⟩ := middleHeader_parts hparts
  exact ⟨convertible_singleton (by decide), fun _ ↦ convertible_singleton (by decide)⟩

/-- `bytes=²-`, with a superscript. -/
def superscriptHeader : Latin1 := ⟨['b', 'y', 't', 'e', 's', '=', Char.ofNat 0xb2, '-'], by simp⟩

/-- A superscript passes `str.isdigit`, `int` raises, and the request gets no answer. -/
theorem superscript_not_answered :
    (∃ e, parseByteRange (some superscriptHeader) 1 = .error e ∧ e.cls = .valueError) ∧
      serveMedia [0] "audio/wav" (some superscriptHeader) false = none ∧
      ¬ AnswersAsDenoted [0] "audio/wav" (some superscriptHeader) := by
  have hparse : parseByteRange (some superscriptHeader) 1 =
      .error ⟨.valueError, "invalid literal for int() with base 10"⟩ := by decide +kernel
  refine ⟨⟨_, hparse, rfl⟩, ?_, ?_⟩
  · rw [serveMedia, List.length_singleton, hparse]
    rfl
  · rw [AnswersAsDenoted, List.length_singleton, hparse]
    simp

end N0te.Audition
