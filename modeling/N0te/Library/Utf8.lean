import Mathlib.Data.List.Count
import N0te.Library.Text

/-!
# UTF-8 and latin-1

`encodeUtf8` and `decodeUtf8` are `str.encode` and `bytes.decode` with UTF-8, and `decodeLatin1`
reads a byte as the character of that number. An ASCII text is read back as latin-1 from its UTF-8
bytes (`decodeLatin1_encodeUtf8`). Of any other text at least one character is not, also where some
characters at the ends are lost that cannot be part of a character of two bytes
(`ascii_of_read_back`).
-/

set_option autoImplicit false
set_option relaxedAutoImplicit false

namespace N0te.Library

/-- `str.encode("utf-8")`. -/
def encodeUtf8 (text : List Char) : List UInt8 := text.flatMap String.utf8EncodeChar

/-- `bytes.decode("utf-8")`, if the bytes are UTF-8. -/
def decodeUtf8 (bytes : List UInt8) : Option (List Char) :=
  bytes.toByteArray.utf8Decode?.map Array.toList

/-- `bytes.decode("latin-1")`. -/
def decodeLatin1 (bytes : List UInt8) : List Char := bytes.map fun byte ↦ Char.ofNat byte.toNat

/-- An ASCII character. -/
def IsAscii (c : Char) : Prop := c.toNat < 128

instance : DecidablePred IsAscii := fun c ↦ inferInstanceAs (Decidable (c.toNat < 128))

/-- A property that is checked of each character of a text. -/
theorem forall_of_all {α : Type} {property : α → Prop} [DecidablePred property] {l : List α}
    (h : (l.all fun a ↦ decide (property a)) = true) : ∀ a ∈ l, property a :=
  fun a ha ↦ of_decide_eq_true (List.all_eq_true.mp h a ha)

/-! ### UTF-8 -/

theorem decodeUtf8_encodeUtf8 (text : List Char) : decodeUtf8 (encodeUtf8 text) = some text := by
  have hdecode := List.utf8Decode?_utf8Encode (l := text)
  rw [decodeUtf8, show (encodeUtf8 text).toByteArray = text.utf8Encode from rfl, hdecode]
  rfl

/-- An ASCII character is one byte. -/
theorem utf8EncodeChar_of_ascii {c : Char} (h : IsAscii c) :
    String.utf8EncodeChar c = [UInt8.ofNat c.toNat] := by
  have hle : c.val.toNat ≤ 0x7f := Nat.le_of_lt_succ h
  rw [String.utf8EncodeChar, if_pos hle]
  rfl

/-- Every other character is encoded in bytes that are not ASCII. -/
theorem le_of_mem_utf8EncodeChar {c : Char} (h : ¬ IsAscii c) {byte : UInt8}
    (hbyte : byte ∈ String.utf8EncodeChar c) : 128 ≤ byte.toNat := by
  have hnot : ¬ c.val.toNat ≤ 0x7f := fun hle ↦ h (Nat.lt_succ_of_le hle)
  rw [String.utf8EncodeChar, if_neg hnot] at hbyte
  split_ifs at hbyte
  all_goals
    simp only [List.mem_cons, List.not_mem_nil, or_false] at hbyte
    rcases hbyte with rfl | rfl | rfl | rfl
  all_goals
    rw [UInt8.toNat_ofNat']
    omega

/-- A byte of a text that is ASCII is the one of a character. -/
theorem mem_of_mem_encodeUtf8 {text : List Char} {byte : UInt8} (hascii : byte.toNat < 128)
    (h : byte ∈ encodeUtf8 text) : Char.ofNat byte.toNat ∈ text := by
  obtain ⟨c, hc, hbyte⟩ := List.mem_flatMap.mp h
  by_cases hchar : IsAscii c
  · rw [utf8EncodeChar_of_ascii hchar, List.mem_singleton] at hbyte
    have hlt : c.toNat < 2 ^ 8 := Nat.lt_trans hchar (by decide)
    rw [hbyte, UInt8.toNat_ofNat', Nat.mod_eq_of_lt hlt, Char.ofNat_toNat]
    exact hc
  · exact absurd (le_of_mem_utf8EncodeChar hchar hbyte) (Nat.not_le.mpr hascii)

theorem encodeUtf8_append (first second : List Char) :
    encodeUtf8 (first ++ second) = encodeUtf8 first ++ encodeUtf8 second := List.flatMap_append

/-! ### Latin-1 -/

theorem decodeLatin1_append (first second : List UInt8) :
    decodeLatin1 (first ++ second) = decodeLatin1 first ++ decodeLatin1 second := List.map_append

theorem toNat_ofNat_of_lt {n : ℕ} (h : n < 256) : (Char.ofNat n).toNat = n := by
  have hvalid : n.isValidChar := .inl (by omega)
  rw [Char.ofNat, dif_pos hvalid]
  rfl

theorem lt_of_mem_decodeLatin1 {bytes : List UInt8} {c : Char} (h : c ∈ decodeLatin1 bytes) :
    c.toNat < 256 := by
  obtain ⟨byte, -, rfl⟩ := List.mem_map.mp h
  rw [toNat_ofNat_of_lt byte.toNat_lt]
  exact byte.toNat_lt

/-- An ASCII character is read back. -/
theorem decodeLatin1_utf8EncodeChar {c : Char} (h : IsAscii c) :
    decodeLatin1 (String.utf8EncodeChar c) = [c] := by
  have hlt : c.toNat < 2 ^ 8 := Nat.lt_trans h (by decide)
  rw [utf8EncodeChar_of_ascii h, decodeLatin1, List.map_singleton, UInt8.toNat_ofNat',
    Nat.mod_eq_of_lt hlt, Char.ofNat_toNat]

/-- An ASCII text is read back. -/
theorem decodeLatin1_encodeUtf8 {text : List Char} (h : ∀ c ∈ text, IsAscii c) :
    decodeLatin1 (encodeUtf8 text) = text := by
  induction text with
  | nil => rfl
  | cons c rest ih =>
    obtain ⟨hc, hrest⟩ := List.forall_mem_cons.mp h
    rw [encodeUtf8, List.flatMap_cons, decodeLatin1_append, decodeLatin1_utf8EncodeChar hc]
    exact congrArg (c :: ·) (ih hrest)

/-- A character that begins the bytes of one below U+0100 that is not ASCII. -/
def IsLead (c : Char) : Prop := c.toNat = 0xc2 ∨ c.toNat = 0xc3

instance : DecidablePred IsLead := fun _ ↦ inferInstanceAs (Decidable (_ ∨ _))

theorem IsLead.not_ascii {c : Char} (h : IsLead c) : ¬ IsAscii c := by
  unfold IsAscii
  rcases h with h | h <;> omega

/-- A character of latin-1 that is not ASCII is read back as two. -/
theorem decodeLatin1_utf8EncodeChar_of_lt {c : Char} (h : ¬ IsAscii c) (hlt : c.toNat < 256) :
    ∃ lead trail : Char, decodeLatin1 (String.utf8EncodeChar c) = [lead, trail] ∧
      lead.toNat = c.toNat / 64 + 0xc0 ∧ trail.toNat = c.toNat % 64 + 0x80 := by
  have hnot : ¬ c.val.toNat ≤ 0x7f := fun hle ↦ h (Nat.lt_succ_of_le hle)
  have hle : c.val.toNat ≤ 0x7ff := Nat.le_trans (Nat.le_of_lt hlt) (by decide)
  have hval : c.val.toNat = c.toNat := rfl
  refine ⟨Char.ofNat (c.toNat / 64 + 0xc0), Char.ofNat (c.toNat % 64 + 0x80), ?_, ?_, ?_⟩
  · rw [String.utf8EncodeChar, if_neg hnot, if_pos hle, hval, decodeLatin1, List.map_cons,
      List.map_singleton, UInt8.toNat_ofNat', UInt8.toNat_ofNat',
      show (c.toNat / 64 % 0x20 + 0xc0) % 2 ^ 8 = c.toNat / 64 + 0xc0 by omega,
      show (c.toNat % 0x40 + 0x80) % 2 ^ 8 = c.toNat % 64 + 0x80 by omega]
  · exact toNat_ofNat_of_lt (by omega)
  · exact toNat_ofNat_of_lt (by omega)

/-- As many characters that begin two bytes are read back as there are others than ASCII. -/
theorem countP_isLead_decodeLatin1 {sent : List Char} (h : ∀ c ∈ sent, c.toNat < 256) :
    (decodeLatin1 (encodeUtf8 sent)).countP (IsLead ·) = sent.countP (¬ IsAscii ·) := by
  induction sent with
  | nil => rfl
  | cons c rest ih =>
    obtain ⟨hc, hrest⟩ := List.forall_mem_cons.mp h
    rw [encodeUtf8, List.flatMap_cons, decodeLatin1_append, List.countP_append, ← encodeUtf8,
      ih hrest, List.countP_cons, Nat.add_comm]
    congr 1
    by_cases hascii : IsAscii c
    · have hlead : ¬ IsLead c := fun hlead ↦ hlead.not_ascii hascii
      rw [decodeLatin1_utf8EncodeChar hascii, List.countP_singleton]
      simp [hlead, hascii]
    · obtain ⟨lead, trail, hpair, hlead, htrail⟩ := decodeLatin1_utf8EncodeChar_of_lt hascii hc
      have hfirst : IsLead lead := by
        unfold IsLead IsAscii at *
        omega
      have hsecond : ¬ IsLead trail := by
        unfold IsLead
        omega
      rw [hpair]
      simp [hfirst, hsecond, hascii]

theorem mem_decodeLatin1_encodeUtf8 {sent : List Char} {c d : Char} (hc : c ∈ sent)
    (hd : d ∈ decodeLatin1 (String.utf8EncodeChar c)) : d ∈ decodeLatin1 (encodeUtf8 sent) := by
  obtain ⟨byte, hbyte, rfl⟩ := List.mem_map.mp hd
  exact List.mem_map.mpr ⟨byte, List.mem_flatMap.mpr ⟨c, hc, hbyte⟩, rfl⟩

/-- A text that is read back as latin-1 from its UTF-8 bytes, but for what was sent in place of
ASCII characters and what is lost at the ends, is ASCII. -/
theorem ascii_of_read_back {text sent before after : List Char}
    (hsent : sent.filter (¬ IsAscii ·) = text.filter (¬ IsAscii ·))
    (hread : before ++ text ++ after = decodeLatin1 (encodeUtf8 sent))
    (hlost : ∀ c ∈ before ++ after, IsAscii c ∨ c.toNat = 0x85 ∨ c.toNat = 0xa0) :
    ∀ c ∈ text, IsAscii c := by
  have hmem : ∀ c, ¬ IsAscii c → (c ∈ sent ↔ c ∈ text) := fun c hc ↦ by
    have hfilter := congrArg (c ∈ ·) hsent
    simpa [hc] using hfilter
  have hlatin : ∀ c ∈ text, c.toNat < 256 := fun c hc ↦ by
    refine lt_of_mem_decodeLatin1 (show c ∈ decodeLatin1 (encodeUtf8 sent) from ?_)
    rw [← hread]
    exact List.mem_append_left _ (List.mem_append_right _ hc)
  have hsentLatin : ∀ c ∈ sent, c.toNat < 256 := fun c hc ↦ by
    by_cases hascii : IsAscii c
    · exact Nat.lt_trans hascii (by decide)
    · exact hlatin c ((hmem c hascii).mp hc)
  have hnotLead : ∀ c ∈ before ++ after, ¬ IsLead c := fun c hc hlead ↦ by
    have hlostHere := hlost c hc
    unfold IsLead IsAscii at *
    omega
  have hcount : text.countP (IsLead ·) = text.countP (¬ IsAscii ·) := by
    have hall := congrArg (List.countP (IsLead ·)) hread
    rw [countP_isLead_decodeLatin1 hsentLatin, List.countP_append, List.countP_append] at hall
    have hbefore : before.countP (IsLead ·) = 0 := List.countP_eq_zero.mpr fun c hc ↦ by
      simpa using hnotLead c (List.mem_append_left _ hc)
    have hafter : after.countP (IsLead ·) = 0 := List.countP_eq_zero.mpr fun c hc ↦ by
      simpa using hnotLead c (List.mem_append_right _ hc)
    have hsame := congrArg List.length hsent
    rw [← List.countP_eq_length_filter, ← List.countP_eq_length_filter] at hsame
    omega
  have hleads : ∀ c ∈ text, ¬ IsAscii c → IsLead c := fun c hc hascii ↦ by
    have hsub : List.Sublist (text.filter (IsLead ·)) (text.filter (¬ IsAscii ·)) :=
      List.monotone_filter_right text fun d hd ↦ by
        rw [decide_eq_true_eq] at hd ⊢
        exact hd.not_ascii
    rw [List.countP_eq_length_filter, List.countP_eq_length_filter] at hcount
    have hmemFilter : c ∈ text.filter (IsLead ·) := by
      rw [hsub.eq_of_length hcount]
      exact List.mem_filter.mpr ⟨hc, decide_eq_true hascii⟩
    exact of_decide_eq_true (List.mem_filter.mp hmemFilter).2
  intro c hc
  by_contra hascii
  have hlead := hleads c hc hascii
  obtain ⟨lead, trail, hpair, -, htrail⟩ := decodeLatin1_utf8EncodeChar_of_lt hascii (hlatin c hc)
  have htrailMem : trail ∈ before ++ text ++ after := by
    rw [hread]
    refine mem_decodeLatin1_encodeUtf8 ((hmem c hascii).mpr hc) ?_
    rw [hpair]
    exact List.mem_pair.mpr (.inr rfl)
  unfold IsLead at hlead
  have htrailText : trail ∈ text := by
    rcases List.mem_append.mp htrailMem with hfront | hafter
    · rcases List.mem_append.mp hfront with hbefore | htext
      · have hlostTrail := hlost trail (List.mem_append_left _ hbefore)
        unfold IsAscii at hlostTrail
        omega
      · exact htext
    · have hlostTrail := hlost trail (List.mem_append_right _ hafter)
      unfold IsAscii at hlostTrail
      omega
  have htrailLead := hleads trail htrailText (by unfold IsAscii; omega)
  unfold IsLead at htrailLead
  omega

end N0te.Library
