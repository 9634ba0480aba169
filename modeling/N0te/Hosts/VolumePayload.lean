import Mathlib.Data.List.Infix
import N0te.Library.Base64
import N0te.Library.Binary64
import N0te.Library.Checking
import N0te.Library.JsonAscii

/-!
# References of volume payloads

An `AbletonTrackVolumePayload` is a track and a target of the unit interval, rounded to six
decimals. Its reference holds its document in base64, and the digest of that document. `fromRef` reads a
reference and raises unless it is the one of the payload that was read, so a reference is canonical
up to the whitespace around it (`volumePayload_codec`).

Scope. A float is a double with its sign; `json.loads`, the digest and `float` of a text are
parameters.
-/

set_option autoImplicit false
set_option relaxedAutoImplicit false

namespace N0te.Hosts

open Library

/-! ### Data -/

/-- The classes of the exceptions. -/
inductive PayloadErrorClass where
  | abletonTrackVolumeActionError
  | valueError
  | overflowError
  deriving DecidableEq

/-- A result or an exception of the codec. -/
abbrev CheckedPayload (α : Type) := Except (Raised PayloadErrorClass) α

/-- An `AbletonTrackVolumeActionError`. -/
def actionError (message : String) : Raised PayloadErrorClass :=
  ⟨.abletonTrackVolumeActionError, message⟩

/-- A finite double: its sign and its magnitude. -/
structure Double where
  negative : Bool
  magnitude : ℚ
  nonneg : 0 ≤ magnitude

def Double.value (x : Double) : ℚ := if x.negative then -x.magnitude else x.magnitude

/-- A target: the double nearest to some millionths, or negative zero. -/
structure VolumeTarget where
  negative : Bool
  units : ℕ
  le : units ≤ 1000000
  zero : negative = true → units = 0
  deriving DecidableEq

def VolumeTarget.double (t : VolumeTarget) : Double :=
  ⟨t.negative, nearest (t.units / 10 ^ 6), nearest_nonneg (by positivity)⟩

/-- `_TRACK_REF_RE`. -/
def isTrackRef (ref : String) : Bool :=
  ref == "master:main" || ["track:".toList, "return:".toList].any fun kind ↦
    kind.isPrefixOf ref.toList && decide (ref.toList.drop kind.length ≠ []) &&
      (ref.toList.drop kind.length).all Char.isDigit

/-- `AbletonTrackVolumePayload`. -/
structure VolumePayload where
  trackRef : String
  target : VolumeTarget
  isTrackRef : isTrackRef trackRef = true
  deriving DecidableEq

/-- What the codec takes from the runtime. -/
structure PayloadRuntime where
  /-- The hexadecimal SHA-256 digest of the UTF-8 bytes of a text. -/
  sha256 : String → String
  /-- `bytes.decode("utf-8")` and `json.loads`. -/
  loads : List UInt8 → Option Json
  /-- `float` of a text: nothing if it raises `ValueError`. -/
  floatOfText : String → Option (Option Double)

/-- `str.encode("utf-8")`. -/
def utf8Bytes (s : String) : List UInt8 := s.toUTF8.data.toList

/-! ### The constructor -/

/-- `_text`. -/
def payloadText (value : Json) (field : String) : CheckedPayload String := do
  let text := strip value.pyStr
  require (text ≠ "") (actionError (field ++ " must not be empty"))
  return text

/-- The double of a float text, unless it is infinite or no number. -/
def doubleOfText (f : FloatText) : Option Double :=
  match f.chars with
  | '-' :: rest => (readMagnitude rest).map fun q ↦ ⟨true, |nearest q|, abs_nonneg _⟩
  | chars => (readMagnitude chars).map fun q ↦ ⟨false, |nearest q|, abs_nonneg _⟩

def doubleOfInt (n : ℤ) : Double := ⟨decide (n < 0), |nearest n|, abs_nonneg _⟩

section

variable (rt : PayloadRuntime)

/-- `float(value)`, with nothing for a double that is not finite. -/
def toFloat (value : Json) (field : String) : CheckedPayload (Option Double) :=
  match value with
  | .int n =>
    if 2 ^ 1024 ≤ (doubleOfInt n).magnitude then
      .error ⟨.overflowError, "int too large to convert to float"⟩
    else .ok (some (doubleOfInt n))
  | .float f => .ok (doubleOfText f)
  | .str s => orRaise (rt.floatOfText s) (actionError (field ++ " must be numeric"))
  | _ => .error (actionError (field ++ " must be numeric"))

/-- A double of the unit interval. -/
abbrev UnitDouble := {x : Double // 0 ≤ x.value ∧ x.value ≤ 1}

/-- `_finite_unit`. -/
def finiteUnit (value : Json) (field : String) : CheckedPayload UnitDouble := do
  match ← toFloat rt value field with
  | none => .error (actionError (field ++ " must be between 0 and 1"))
  | some x =>
    let h ← ensure (0 ≤ x.value ∧ x.value ≤ 1) (actionError (field ++ " must be between 0 and 1"))
    return ⟨x, h.down⟩

theorem UnitDouble.magnitude_le (x : UnitDouble) : x.val.magnitude ≤ 1 := by
  obtain ⟨⟨negative, magnitude, hnonneg⟩, hlow, hhigh⟩ := x
  cases negative
  · exact hhigh
  · have hneg : 0 ≤ -magnitude := hlow
    show magnitude ≤ 1
    linarith

theorem UnitDouble.magnitude_eq_zero (x : UnitDouble) (h : x.val.negative = true) :
    x.val.magnitude = 0 := by
  obtain ⟨⟨negative, magnitude, hnonneg⟩, hlow, hhigh⟩ := x
  obtain rfl : negative = true := h
  have hneg : 0 ≤ -magnitude := hlow
  exact le_antisymm (by linarith) hnonneg

/-- `float(f"{value:.6f}")`. -/
def sixDecimals (x : UnitDouble) : VolumeTarget where
  negative := x.val.negative
  units := (roundHalfEven (x.val.magnitude * 10 ^ 6)).toNat
  le := by
    have hle : roundHalfEven (x.val.magnitude * 10 ^ 6) ≤ 1000000 := by
      apply roundHalfEven_le
      push_cast
      linarith [x.magnitude_le]
    omega
  zero h := by
    have hzero : roundHalfEven 0 = 0 := roundHalfEven_eq (by norm_num)
    rw [x.magnitude_eq_zero h, zero_mul, hzero]
    rfl

/-- `_track_ref`. -/
def checkTrackRef (value : Json) : CheckedPayload {ref : String // isTrackRef ref = true} := do
  let ref ← payloadText value "track_ref"
  let h ← ensure (isTrackRef ref = true) (actionError ("unsupported Ableton track ref: " ++ ref))
  return ⟨ref, h.down⟩

def construct (trackRef target : Json) : CheckedPayload VolumePayload := do
  let ref ← checkTrackRef trackRef
  let x ← finiteUnit rt target "target_normalized"
  return ⟨ref.val, sixDecimals x, ref.property⟩

end

/-! ### References -/

/-- The characters of a target: `repr` of its double. -/
def VolumeTarget.chars (t : VolumeTarget) : List Char :=
  if t.negative then '-' :: microText t.units else microText t.units

theorem microText_facts {n : ℕ} (h : n ≤ 1000000) : (microText n).all isNumberChar = true ∧
    (microText n).any (fun c ↦ !isIntChar c) = true ∧
      ∃ c rest, microText n = c :: rest ∧ c.isDigit = true := by
  have hdigit : ∀ c : Char, c.isDigit = true → isNumberChar c = true := by
    intro c hc
    simp [isNumberChar, hc]
  by_cases hsmall : n < 100
  · have hall : ∀ n < 100, ((microText n).all isNumberChar &&
        (microText n).any (fun c ↦ !isIntChar c) && (microText n).head?.any Char.isDigit) = true := by
      decide +kernel
    have hfacts := hall n hsmall
    simp only [Bool.and_eq_true] at hfacts
    refine ⟨hfacts.1.1, hfacts.1.2, ?_⟩
    obtain ⟨-, hhead⟩ := hfacts
    rcases htext : microText n with _ | ⟨c, rest⟩
    · simp [htext] at hhead
    · exact ⟨c, rest, rfl, by simpa [htext] using hhead⟩
  by_cases hone : n = 1000000
  · subst hone
    exact ⟨by decide, by decide, '1', _, rfl, by decide⟩
  have htext : microText n = '0' :: '.' :: (sixDigits n).rdropWhile (· == '0') := by
    rw [microText, if_neg (by omega), if_neg hone, if_pos (by omega)]
  refine ⟨?_, ?_, '0', _, htext, by decide⟩
  · rw [htext]
    simp only [List.all_cons, Bool.and_eq_true, List.all_eq_true]
    exact ⟨by decide, by decide, fun c hc ↦ hdigit c (isDigit_of_mem_sixDigits
      ((List.rdropWhile_prefix _ _).subset hc))⟩
  · rw [htext]
    simp [isIntChar, Char.isDigit]

def VolumeTarget.text (t : VolumeTarget) : FloatText where
  chars := t.chars
  number := by
    have hfacts := (microText_facts t.le).1
    unfold chars
    split
    · rw [List.all_cons, hfacts]
      decide
    · exact hfacts
  float := by
    have hfacts := (microText_facts t.le).2.1
    unfold chars
    split
    · rw [List.any_cons, hfacts, Bool.or_true]
    · exact hfacts
  head := by
    obtain ⟨c, rest, htext, hdigit⟩ := (microText_facts t.le).2.2
    unfold chars
    split
    · rfl
    · rw [htext]
      simp [isFloatHead, isIntChar, hdigit]

/-- `TRACK_VOLUME_PAYLOAD_SCHEMA`. -/
def trackVolumePayloadSchema : String := "n0te.ableton-track-volume-payload/v1"

/-- `document`. -/
def VolumePayload.document (payload : VolumePayload) : Json :=
  .obj [("schema", .str trackVolumePayloadSchema), ("track_ref", .str payload.trackRef),
    ("target_normalized", .float payload.target.text)]

/-- The start of a reference. -/
def refPrefix : List Char := "ableton-track-volume:v1:".toList

/-- `":sha256:"`, which stands between the document and the digest. -/
def refMarker : List Char := [':', 's', 'h', 'a', '2', '5', '6', ':']

/-- `str.rsplit(marker, 1)`, for a text that has the marker: what is before and after the last. -/
def rsplit (marker : List Char) : List Char → Option (List Char × List Char)
  | [] => none
  | c :: rest =>
    match rsplit marker rest with
    | some (before, after) => some (c :: before, after)
    | none =>
      if marker.isPrefixOf (c :: rest) then some ([], (c :: rest).drop marker.length) else none

def isDigestChar (c : Char) : Bool := "0123456789abcdef".toList.contains c

def isDigest (l : List Char) : Bool := l.length == 64 && l.all isDigestChar

section

variable (rt : PayloadRuntime)

/-- `digest`. -/
def VolumePayload.digest (payload : VolumePayload) : String := rt.sha256 payload.document.dumpsAscii

/-- `payload_ref`. -/
def VolumePayload.payloadRef (payload : VolumePayload) : String :=
  String.ofList (refPrefix ++ (Base64.encode (utf8Bytes payload.document.dumpsAscii)).toList ++
    refMarker ++ (payload.digest rt).toList)

/-- `from_ref`. -/
def fromRef (payloadRef : String) : CheckedPayload VolumePayload := do
  let ref ← payloadText (.str payloadRef) "payload_ref"
  require (refPrefix <+: ref.toList ∧ refMarker <:+: ref.toList)
    (actionError "unsupported Ableton volume payload ref")
  let (encoded, claimed) ← orRaise (rsplit refMarker (ref.toList.drop refPrefix.length))
    ⟨.valueError, "not enough values to unpack (expected 2, got 1)"⟩
  require (isDigest claimed = true) (actionError "Ableton volume payload digest is invalid")
  let document ← orRaise ((Base64.decode (String.ofList encoded)).bind rt.loads)
    (actionError "Ableton volume payload ref is invalid")
  require (document.isObj = true ∧ (∀ key ∈ document.keys,
      key ∈ ["schema", "track_ref", "target_normalized"]) ∧
    ∀ key ∈ ["schema", "track_ref", "target_normalized"], key ∈ document.keys)
    (actionError "Ableton volume payload document is invalid")
  require (document.get "schema" = .str trackVolumePayloadSchema)
    (actionError "unsupported Ableton volume payload schema")
  let payload ← construct rt (document.get "track_ref") (document.get "target_normalized")
  require ((payload.digest rt).toList = claimed ∧ payload.payloadRef rt = ref)
    (actionError "Ableton volume payload ref failed content-address verification")
  return payload

/-- What the theorems rely on: a digest is written in hexadecimal, and the text of a document reads
back as that document. -/
structure PayloadRuntime.Sound : Prop where
  /-- `hexdigest`. -/
  isDigest : ∀ s, isDigest (rt.sha256 s).toList = true
  /-- `json.loads(json.dumps(value, sort_keys=True))` is the value with its keys sorted. -/
  loads_dumps : ∀ payload : VolumePayload,
    rt.loads (utf8Bytes payload.document.dumpsAscii) = some payload.document.canonical

end

/-! ### The constructor reads a document back -/

section

variable {rt : PayloadRuntime} {payload : VolumePayload} {target : VolumeTarget} {ref : String}

theorem not_isSpace_of_isDigit {c : Char} (h : c.isDigit = true) : isSpace c = false := by
  simp only [Char.isDigit, Bool.and_eq_true, decide_eq_true_eq, UInt32.le_iff_toNat_le] at h
  have hbounds : 48 ≤ c.toNat ∧ c.toNat ≤ 57 := h
  unfold isSpace
  simp only [Bool.or_eq_false_iff, Bool.and_eq_false_iff, decide_eq_false_iff_not, beq_eq_false_iff_ne]
  omega

/-- A reference of a track has no whitespace. -/
theorem not_isSpace_of_isTrackRef (h : isTrackRef ref = true) :
    ref.toList.all (fun c ↦ !isSpace c) = true := by
  simp only [isTrackRef, Bool.or_eq_true, beq_iff_eq, List.any_eq_true, Bool.and_eq_true,
    decide_eq_true_eq, List.all_eq_true, List.isPrefixOf_iff_prefix] at h
  rcases h with rfl | ⟨kind, hkind, ⟨⟨rest, hmarked⟩, -⟩, hdigits⟩
  · decide
  · have hkindSpace : kind.all (fun c ↦ !isSpace c) = true := by
      have hall : ["track:".toList, "return:".toList].all
          (fun kind ↦ kind.all fun c ↦ !isSpace c) = true := by decide
      exact List.all_eq_true.mp hall kind hkind
    rw [← hmarked, List.drop_left] at hdigits
    rw [← hmarked, List.all_append, hkindSpace, Bool.true_and, List.all_eq_true]
    intro c hc
    rw [not_isSpace_of_isDigit (hdigits c hc)]
    rfl

theorem checkTrackRef_trackRef (payload : VolumePayload) :
    checkTrackRef (.str payload.trackRef) = .ok ⟨payload.trackRef, payload.isTrackRef⟩ := by
  have hstrip : strip payload.trackRef = payload.trackRef :=
    strip_eq_self (not_isSpace_of_isTrackRef payload.isTrackRef)
  have hne : payload.trackRef ≠ "" := by
    intro hempty
    have href := payload.isTrackRef
    rw [hempty] at href
    exact absurd href (by decide)
  have htext : payloadText (.str payload.trackRef) "track_ref" = .ok payload.trackRef := by
    unfold payloadText
    simp only [Json.pyStr, hstrip]
    rw [require, if_pos hne]
    rfl
  rw [checkTrackRef, htext]
  show (ensure (Hosts.isTrackRef payload.trackRef = true) _ >>= _) = _
  rw [ensure_of payload.isTrackRef]
  rfl

/-- The text of a target reads back as its double. -/
theorem doubleOfText_text (t : VolumeTarget) : doubleOfText t.text = some t.double := by
  have hread := readMagnitude_microText t.le
  have habs : |nearest ((t.units : ℚ) / 10 ^ 6)| = nearest ((t.units : ℚ) / 10 ^ 6) :=
    abs_of_nonneg (nearest_nonneg (by positivity))
  obtain ⟨c, rest, htext, hdigit⟩ := (microText_facts t.le).2.2
  have hne : c ≠ '-' := by
    rintro rfl
    exact absurd hdigit (by decide)
  unfold doubleOfText VolumeTarget.double
  simp only [VolumeTarget.text, VolumeTarget.chars]
  cases hsign : t.negative with
  | true => simp only [if_true, hread, Option.map_some, habs]
  | false =>
    simp only [Bool.false_eq_true, if_false]
    split
    · rename_i heq
      rw [htext] at heq
      exact absurd (List.cons.inj heq).1 hne
    · simp only [hread, Option.map_some, habs]

theorem double_unit (t : VolumeTarget) : 0 ≤ t.double.value ∧ t.double.value ≤ 1 := by
  have hnonneg : 0 ≤ t.double.magnitude := t.double.nonneg
  have hle : t.double.magnitude ≤ 1 := nearest_le_one t.le
  unfold Double.value
  cases hsign : t.negative with
  | true =>
    have hzero : t.double.magnitude = 0 := by
      show nearest ((t.units : ℚ) / 10 ^ 6) = 0
      rw [t.zero hsign, Nat.cast_zero, zero_div, nearest_zero]
    rw [hzero]
    simp
  | false =>
    have hpos : t.double.negative = false := hsign
    simp [hpos, hnonneg, hle]

/-- Rounding the double of a target gives the target. -/
theorem sixDecimals_double (t : VolumeTarget) : sixDecimals ⟨t.double, double_unit t⟩ = t := by
  obtain ⟨negative, units, hle, hzero⟩ := t
  have hunits : (roundHalfEven (nearest ((units : ℚ) / 10 ^ 6) * 10 ^ 6)).toNat = units := by
    rw [roundHalfEven_nearest hle, Int.toNat_natCast]
  simp only [sixDecimals, VolumeTarget.double, hunits]

theorem construct_document (payload : VolumePayload) :
    construct rt (.str payload.trackRef) (.float payload.target.text) = .ok payload := by
  have hfloat : finiteUnit rt (.float payload.target.text) "target_normalized" =
      .ok ⟨payload.target.double, double_unit payload.target⟩ := by
    rw [finiteUnit, toFloat, doubleOfText_text]
    show (ensure (0 ≤ payload.target.double.value ∧ payload.target.double.value ≤ 1) _ >>= _) = _
    rw [ensure_of (double_unit payload.target)]
    rfl
  rw [construct, checkTrackRef_trackRef, hfloat]
  show Except.ok (⟨payload.trackRef, sixDecimals ⟨payload.target.double, _⟩, _⟩ : VolumePayload) = _
  simp only [sixDecimals_double]

end

/-! ### References read back -/

section

variable {rt : PayloadRuntime} {payload : VolumePayload} {digest : List Char}

theorem isDigestChar_ne {c : Char} (h : isDigestChar c = true) : c ≠ ':' ∧ isSpace c = false := by
  have hall : "0123456789abcdef".toList.all (fun c ↦ c != ':' && !isSpace c) = true := by decide
  have hc := List.all_eq_true.mp hall c (List.contains_iff_mem.mp h)
  simpa using hc

/-- No marker starts at a character that is no colon. -/
theorem rsplit_cons_of_ne {c : Char} {l : List Char} (hc : c ≠ ':')
    (h : rsplit refMarker l = none) : rsplit refMarker (c :: l) = none := by
  have hmarked : refMarker.isPrefixOf (c :: l) = false := by
    rw [Bool.eq_false_iff, ne_eq, List.isPrefixOf_iff_prefix]
    rintro ⟨tail, htail⟩
    exact hc (List.cons.inj htail).1.symm
  rw [rsplit, h]
  simp only [hmarked, Bool.false_eq_true, if_false]

theorem rsplit_of_not_mem {l : List Char} (h : ':' ∉ l) : rsplit refMarker l = none := by
  induction l with
  | nil => rfl
  | cons c rest ih =>
    rw [List.mem_cons, not_or] at h
    exact rsplit_cons_of_ne (Ne.symm h.1) (ih h.2)

/-- The digest is split from what is before it. -/
theorem rsplit_append (encoded : List Char) (h : isDigest digest = true) :
    rsplit refMarker (encoded ++ refMarker ++ digest) = some (encoded, digest) := by
  simp only [isDigest, Bool.and_eq_true, List.all_eq_true] at h
  have hcolon : ':' ∉ digest := fun hmem ↦ (isDigestChar_ne (h.2 _ hmem)).1 rfl
  induction encoded with
  | nil =>
    -- The last colon of the marker starts none, as no colon follows it.
    have hlast : rsplit refMarker (':' :: digest) = none := by
      have hmarked : refMarker.isPrefixOf (':' :: digest) = false := by
        rw [Bool.eq_false_iff, ne_eq, List.isPrefixOf_iff_prefix]
        rintro ⟨tail, htail⟩
        have hrest := (List.cons.inj htail).2
        rw [← hrest] at hcolon
        exact hcolon (by simp)
      rw [rsplit, rsplit_of_not_mem hcolon]
      simp only [hmarked, Bool.false_eq_true, if_false]
    have htail : rsplit refMarker (['s', 'h', 'a', '2', '5', '6', ':'] ++ digest) = none := by
      iterate 6 apply rsplit_cons_of_ne (by decide)
      exact hlast
    have hmarked : refMarker.isPrefixOf (refMarker ++ digest) = true :=
      List.isPrefixOf_iff_prefix.mpr ⟨digest, rfl⟩
    show rsplit refMarker (':' :: (['s', 'h', 'a', '2', '5', '6', ':'] ++ digest)) = _
    rw [rsplit, htail]
    show (if refMarker.isPrefixOf (refMarker ++ digest) = true then _ else _) = _
    rw [if_pos hmarked]
    rfl
  | cons c rest ih =>
    rw [List.append_assoc] at ih
    rw [List.cons_append, List.cons_append, List.append_assoc, rsplit, ih]

theorem document_canonical (payload : VolumePayload) : payload.document.canonical = .obj
    [("schema", .str trackVolumePayloadSchema), ("target_normalized", .float payload.target.text),
      ("track_ref", .str payload.trackRef)] := by
  have hfirst : ¬ "target_normalized" < "schema" := by decide
  have hsecond : "target_normalized" < "track_ref" := by decide
  simp only [VolumePayload.document, Json.canonical, Json.canonicalFields, Json.sortFields,
    Json.insertField, hfirst, hsecond, if_true, if_false]

theorem toList_payloadRef (payload : VolumePayload) :
    (payload.payloadRef rt).toList = refPrefix ++
      (Base64.encode (utf8Bytes payload.document.dumpsAscii)).toList ++ refMarker ++
        (payload.digest rt).toList := by
  rw [VolumePayload.payloadRef, String.toList_ofList]

/-- A reference has no whitespace. -/
theorem strip_payloadRef (hsound : rt.Sound) (payload : VolumePayload) :
    strip (payload.payloadRef rt) = payload.payloadRef rt := by
  apply strip_eq_self
  have hdigest : (payload.digest rt).toList.all (fun c ↦ !isSpace c) = true := by
    have h := hsound.isDigest payload.document.dumpsAscii
    simp only [isDigest, Bool.and_eq_true, List.all_eq_true] at h
    rw [List.all_eq_true]
    intro c hc
    rw [(isDigestChar_ne (h.2 c hc)).2]
    rfl
  have hencoded : (Base64.encode (utf8Bytes payload.document.dumpsAscii)).toList.all
      (fun c ↦ !isSpace c) = true := by
    have hall : Base64.alphabet.all (fun c ↦ !isSpace c) = true := by decide
    rw [List.all_eq_true]
    exact fun c hc ↦ List.all_eq_true.mp hall c (Base64.mem_alphabet_of_mem_encode _ c hc)
  have hmarked : refPrefix.all (fun c ↦ !isSpace c) = true := by decide
  have hmarker : refMarker.all (fun c ↦ !isSpace c) = true := by decide
  rw [toList_payloadRef, List.all_append, List.all_append, List.all_append, hmarked,
    hencoded, hmarker, hdigest]
  rfl

theorem fromRef_payloadRef (hsound : rt.Sound) (payload : VolumePayload) :
    fromRef rt (payload.payloadRef rt) = .ok payload := by
  have hne : payload.payloadRef rt ≠ "" := by
    intro hempty
    have hlist := @toList_payloadRef rt payload
    rw [hempty, List.append_assoc, List.append_assoc] at hlist
    exact absurd (List.append_eq_nil_iff.mp hlist.symm).1 (by decide)
  have htext : payloadText (.str (payload.payloadRef rt)) "payload_ref" = .ok (payload.payloadRef rt) := by
    unfold payloadText
    simp only [Json.pyStr, strip_payloadRef hsound]
    rw [require, if_pos hne]
    rfl
  have hlist := @toList_payloadRef rt payload
  have hmarked : refPrefix <+: (payload.payloadRef rt).toList :=
    ⟨_, by rw [hlist, List.append_assoc, List.append_assoc]⟩
  have hmarker : refMarker <:+: (payload.payloadRef rt).toList := ⟨_, _, hlist.symm⟩
  have hdigest : isDigest (payload.digest rt).toList = true := hsound.isDigest _
  have hsplit : rsplit refMarker ((payload.payloadRef rt).toList.drop refPrefix.length) = some
      ((Base64.encode (utf8Bytes payload.document.dumpsAscii)).toList,
        (payload.digest rt).toList) := by
    rw [hlist, List.append_assoc, List.append_assoc, List.drop_left, ← List.append_assoc,
      rsplit_append _ hdigest]
  have hloads : (Base64.decode (String.ofList
      (Base64.encode (utf8Bytes payload.document.dumpsAscii)).toList)).bind rt.loads =
        some payload.document.canonical := by
    rw [String.ofList_toList, Base64.decode_encode, Option.bind_some, hsound.loads_dumps]
  unfold fromRef
  simp only [bind_eq_ok, require_eq_ok, orRaise_eq_ok, pure_eq_ok]
  refine ⟨_, htext, (), ⟨hmarked, hmarker⟩, _, hsplit, ?_⟩
  dsimp only
  refine ⟨(), hdigest, _, hloads, ?_⟩
  have hkeys : payload.document.canonical.keys = ["schema", "target_normalized", "track_ref"] := by
    rw [document_canonical]
    rfl
  have hschema : payload.document.canonical.get "schema" = .str trackVolumePayloadSchema := by
    rw [Json.get_canonical]
    rfl
  have hconstruct : construct rt (payload.document.canonical.get "track_ref")
      (payload.document.canonical.get "target_normalized") = .ok payload := by
    rw [Json.get_canonical, Json.get_canonical]
    exact construct_document payload
  refine ⟨(), ⟨?_, ?_, ?_⟩, (), hschema, payload, hconstruct, (), ⟨rfl, rfl⟩, rfl⟩
  · rw [Json.isObj_canonical]
    rfl
  · rw [hkeys]
    simp
  · rw [hkeys]
    simp

/-- A reference that is read is the one of the payload, but for whitespace around it. -/
theorem strip_of_fromRef {ref : String} (h : fromRef rt ref = .ok payload) :
    strip ref = payload.payloadRef rt := by
  unfold fromRef at h
  simp only [bind_eq_ok, require_eq_ok, orRaise_eq_ok, pure_eq_ok] at h
  obtain ⟨stripped, htext, -, -, ⟨encoded, claimed⟩, -, -, -, document, -, -, -, -, -, read, -, -,
    ⟨-, hsame⟩, rfl⟩ := h
  unfold payloadText at htext
  simp only [bind_eq_ok, pure_eq_ok, Json.pyStr] at htext
  obtain ⟨-, -, rfl⟩ := htext
  exact hsame.symm

end

/-- Every payload is read back from its reference. Every reference that is read is the one of the
payload but for whitespace around it, so references that differ otherwise are read as different
payloads. -/
theorem volumePayload_codec (rt : PayloadRuntime) (hsound : rt.Sound) :
    (∀ payload : VolumePayload, fromRef rt (payload.payloadRef rt) = .ok payload) ∧
      (∀ ref payload, fromRef rt ref = .ok payload → strip ref = payload.payloadRef rt) ∧
      ∀ ref other payload, fromRef rt ref = .ok payload → fromRef rt other = .ok payload →
        strip ref = strip other :=
  ⟨fromRef_payloadRef hsound, fun _ _ ↦ strip_of_fromRef,
    fun _ _ _ href hother ↦ (strip_of_fromRef href).trans (strip_of_fromRef hother).symm⟩

/-! ### A padded reference -/

/-- A volume of one half on the first track. -/
def halfVolume : VolumePayload :=
  ⟨"track:0", ⟨false, 500000, by decide, by decide⟩, by decide⟩

theorem utf8Bytes_injective : Function.Injective utf8Bytes := by
  intro s t h
  apply String.toByteArray_inj.mp
  exact ByteArray.ext (Array.toList_inj.mp h)

open Classical in
/-- A runtime that reads back the documents of payloads, with the digest of that of `halfVolume`. -/
noncomputable def payloadRuntime : PayloadRuntime where
  sha256 _ := "000ce75c36f48a2cec932b77f52809d207b68adc94e6ba736b310309a8464e2d"
  loads bytes :=
    if h : ∃ payload : VolumePayload, utf8Bytes payload.document.dumpsAscii = bytes then
      some h.choose.document.canonical
    else none
  floatOfText _ := none

theorem payloadRuntime_sound : payloadRuntime.Sound where
  isDigest _ := by
    show isDigest "000ce75c36f48a2cec932b77f52809d207b68adc94e6ba736b310309a8464e2d".toList = true
    decide
  loads_dumps payload := by
    have hwritten : ∃ other : VolumePayload,
        utf8Bytes other.document.dumpsAscii = utf8Bytes payload.document.dumpsAscii := ⟨payload, rfl⟩
    have hsame := Json.dumpsAscii_inj.mp (utf8Bytes_injective hwritten.choose_spec)
    simp only [payloadRuntime, hwritten, dif_pos, hsame]

theorem volumePayload_codec_half :
    fromRef payloadRuntime (halfVolume.payloadRef payloadRuntime) = .ok halfVolume :=
  (volumePayload_codec payloadRuntime payloadRuntime_sound).1 halfVolume

theorem strip_space_append (s : String) : strip (" " ++ s) = strip s := by
  have hspace : isSpace ' ' = true := by decide
  have hlist : (" " ++ s).toList = ' ' :: s.toList := by rw [String.toList_append]; rfl
  rw [strip, strip, hlist, stripChars, stripChars, List.dropWhile_cons_of_pos hspace]

/-- A reference with a space before it is another text and is read as the same payload. -/
theorem fromRef_padded :
    fromRef payloadRuntime (" " ++ halfVolume.payloadRef payloadRuntime) = .ok halfVolume ∧
      " " ++ halfVolume.payloadRef payloadRuntime ≠ halfVolume.payloadRef payloadRuntime := by
  constructor
  · have htext : payloadText (.str (" " ++ halfVolume.payloadRef payloadRuntime)) "payload_ref" =
        payloadText (.str (halfVolume.payloadRef payloadRuntime)) "payload_ref" := by
      unfold payloadText
      dsimp only [Json.pyStr]
      rw [strip_space_append]
    rw [fromRef, htext]
    exact fromRef_payloadRef payloadRuntime_sound halfVolume
  · intro hsame
    have hlength := congrArg String.length hsame
    rw [String.length_append] at hlength
    have hone : " ".length = 1 := rfl
    omega

end N0te.Hosts
