import N0te.Library.Inputs
import N0te.Uploads.UploadForm

/-!
# What the upload parser raises

All that the parser raises itself is a `MaterialUploadParseError`. What `Message` raises goes
through, and it is asked about every value that a header line can hold.
-/

set_option autoImplicit false
set_option relaxedAutoImplicit false

namespace N0te.Uploads

open Library

variable {φ : Type}

/-- A `MaterialUploadParseError`. -/
def IsParse (e : UploadRaised φ) : Prop := ∃ message, e = .parse message

theorem raisesOnly_orRaise {α : Type} {o : Option α} {message : String} :
    RaisesOnly IsParse (orRaise o (.parse message) : Uploaded φ α) := fun e h ↦ by
  rw [orRaise_eq_error h]
  exact ⟨message, rfl⟩

theorem raisesOnly_parseError {α : Type} (message : String) :
    RaisesOnly IsParse (parseError message : Uploaded φ α) := raisesOnly_error ⟨message, rfl⟩

theorem raisesOnly_headerOf (line : List UInt8) :
    RaisesOnly IsParse (headerOf line : Uploaded φ (List Char × List Char)) :=
  raisesOnly_require_bind ⟨_, rfl⟩ fun _ ↦ raisesOnly_require_bind ⟨_, rfl⟩ fun _ ↦ raisesOnly_ok _

theorem raisesOnly_readHeaders (consumed : ℕ) (headers : Headers) (rest : List UInt8) :
    RaisesOnly IsParse (readHeaders consumed headers rest : Uploaded φ (Headers × List UInt8)) := by
  induction consumed, headers, rest using readHeaders.induct with
  | case1 consumed headers rest line hnil =>
    rw [readHeaders, dif_pos hnil]
    exact raisesOnly_parseError _
  | case2 consumed headers rest line hline hlarge =>
    rw [readHeaders, dif_neg hline, if_pos hlarge]
    exact raisesOnly_parseError _
  | case3 consumed headers rest line hline hlarge hend =>
    rw [readHeaders, dif_neg hline, if_neg hlarge, if_pos hend]
    exact raisesOnly_ok _
  | case4 consumed headers rest line hline hlarge hend ih =>
    rw [readHeaders, dif_neg hline, if_neg hlarge, if_neg hend]
    refine (raisesOnly_headerOf _).bind fun header _ ↦ ?_
    exact raisesOnly_require_bind ⟨_, rfl⟩ fun _ ↦ ih header.1 header.2

theorem raisesOnly_readBody (remaining : ℕ) (spool : List UInt8) (reads : List StreamRead) :
    RaisesOnly IsParse (readBody remaining spool reads :
      Uploaded φ (List UInt8 × List StreamRead)) := by
  induction remaining, spool, reads using readBody.induct with
  | case1 spool reads =>
    rw [readBody]
    exact raisesOnly_ok _
  | case2 =>
    rw [readBody]
    exact raisesOnly_parseError _
  | case3 =>
    rw [readBody]
    exact raisesOnly_parseError _
  | case4 remaining spool chunk reads ih =>
    rw [readBody]
    exact raisesOnly_require_bind ⟨_, rfl⟩ fun _ ↦ raisesOnly_require_bind ⟨_, rfl⟩ fun _ ↦ ih

/-! ### Values that a header line holds -/

/-- The value of a header that follows its name in a line of a length that is read. -/
def HeaderValue (nameLength : ℕ) (value : List Char) : Prop :=
  ∃ raw : List UInt8, (10 : UInt8) ∉ raw ∧ nameLength + raw.length + 3 ≤ maxHeaderLine ∧
    value = stripChars (decodeLatin1 raw)

theorem length_stripChars_le (text : List Char) : (stripChars text).length ≤ text.length :=
  Nat.le_trans (List.rdropWhile_prefix _ _).length_le (List.dropWhile_suffix _).length_le

/-- A line end is at most the last of the bytes that are read. -/
theorem not_mem_take_readline {limit : ℕ} {rest : List UInt8} {n : ℕ}
    (hn : n < (readline limit rest).1.length) : (10 : UInt8) ∉ (readline limit rest).1.take n := by
  rw [readline, List.splitAt_eq] at hn ⊢
  intro hmem
  dsimp only at hn hmem
  rw [List.length_take] at hn
  rw [List.take_take] at hmem
  have hline : min n (min limit ((rest.takeWhile (· ≠ 10)).length + 1)) ≤
      (rest.takeWhile (· ≠ 10)).length := by omega
  have hbegin : rest.take (rest.takeWhile (· ≠ 10)).length = rest.takeWhile (· ≠ 10) :=
    (List.prefix_iff_eq_take.mp (List.takeWhile_prefix _)).symm
  have hall : (10 : UInt8) ∈ rest.takeWhile (· ≠ 10) := by
    rw [← hbegin]
    exact (List.take_sublist_take_left hline).subset hmem
  have hne := List.mem_takeWhile_imp hall
  simp at hne

theorem withoutCrlf_of_ends {line : List UInt8} (h : endsCrlf line = true) :
    line = withoutCrlf line ++ crlf := by
  unfold endsCrlf withoutCrlf at *
  rw [← of_decide_eq_true h, List.take_append_drop]

/-- A header line that is accepted holds its name and its value. -/
theorem headerValue_of_headerOf {line : List UInt8} {name value : List Char}
    (hlength : line.length ≤ maxHeaderLine) (hnewline : (10 : UInt8) ∉ withoutCrlf line)
    (h : headerOf line = (.ok (name, value) : Uploaded φ (List Char × List Char))) :
    HeaderValue name.length value := by
  simp only [headerOf, bind_eq_ok, require_eq_ok, exists_const, pure_eq_ok, Prod.mk.injEq] at h
  obtain ⟨⟨hends, hcolon⟩, -, rfl, rfl⟩ := h
  have hline := withoutCrlf_of_ends hends
  have hfull := congrArg List.length hline
  have hmem : (58 : UInt8) ∈ withoutCrlf line := by
    rw [hline] at hcolon
    exact (List.mem_append.mp hcolon).resolve_right (by decide)
  have hbefore : ((withoutCrlf line).takeWhile (· ≠ 58)).length < (withoutCrlf line).length := by
    refine Nat.lt_of_le_of_ne (List.takeWhile_prefix _).length_le fun heq ↦ ?_
    have hall := (List.takeWhile_prefix (· ≠ (58 : UInt8))).eq_of_length heq
    have hne := List.mem_takeWhile_imp (hall ▸ hmem)
    simp at hne
  have hname := length_stripChars_le (decodeLatin1 ((withoutCrlf line).takeWhile (· ≠ 58)))
  rw [decodeLatin1, List.length_map] at hname
  rw [List.length_append, show crlf.length = 2 from rfl] at hfull
  refine ⟨_, fun h10 ↦ hnewline (List.mem_of_mem_drop h10), ?_, rfl⟩
  rw [List.length_map, List.length_drop, decodeLatin1]
  omega

/-- Every header that is read was in a line. -/
theorem headerValue_of_readHeaders {consumed : ℕ} {headers found : Headers}
    {rest left : List UInt8} (hheaders : ∀ header ∈ headers, HeaderValue header.1.length header.2)
    (h : readHeaders consumed headers rest =
      (.ok (found, left) : Uploaded φ (Headers × List UInt8))) :
    ∀ header ∈ found, HeaderValue header.1.length header.2 := by
  induction consumed, headers, rest using readHeaders.induct with
  | case1 consumed headers rest line hnil =>
    rw [readHeaders, dif_pos hnil] at h
    cases h
  | case2 consumed headers rest line hline hlarge =>
    rw [readHeaders, dif_neg hline, if_pos hlarge] at h
    cases h
  | case3 consumed headers rest line hline hlarge hend =>
    rw [readHeaders, dif_neg hline, if_neg hlarge, if_pos hend] at h
    cases h
    exact hheaders
  | case4 consumed headers rest line hline hlarge hend ih =>
    rw [readHeaders, dif_neg hline, if_neg hlarge, if_neg hend] at h
    obtain ⟨⟨name, value⟩, hheader, hnext⟩ := bind_eq_ok.mp h
    obtain ⟨-, -, hnext⟩ := bind_eq_ok.mp hnext
    refine ih name value (fun header hmem ↦ ?_) hnext
    rcases List.mem_append.mp hmem with hold | hnew
    · exact hheaders header hold
    · cases List.mem_singleton.mp hnew
      have hlength : line.length ≤ maxHeaderLine := Nat.not_lt.mp (not_or.mp hlarge).1
      have hpos := List.length_pos_iff.mpr hline
      exact headerValue_of_headerOf hlength (not_mem_take_readline (Nat.sub_lt hpos Nat.two_pos))
        hheader

/-! ### What the parser asks `Message` about -/

/-- `Message` raises on no value that a disposition header holds. -/
def Faultless (message : MessageClass φ) : Prop :=
  ∀ value, HeaderValue "content-disposition".toList.length value →
    RaisesOnly IsParse (dispositionOf message value)

section

variable {message : MessageClass φ} (hfaultless : Faultless message)
include hfaultless

theorem raisesOnly_disposition {headers : Headers}
    (h : ∀ header ∈ headers, HeaderValue header.1.length header.2) :
    RaisesOnly IsParse (disposition message headers) := by
  refine raisesOnly_orRaise.bind fun value hvalue ↦ hfaultless value ?_
  obtain ⟨before, after, rfl, -⟩ := List.lookup_eq_some_iff.mp (orRaise_eq_ok.mp hvalue)
  exact h _ (List.mem_append_right _ (List.mem_cons_self ..))

theorem raisesOnly_readTokenPart (name : String) (line rest : List UInt8) :
    RaisesOnly IsParse (readTokenPart message name line rest) := by
  refine (raisesOnly_readHeaders _ _ _).bind fun headers hheaders ↦ ?_
  have hvalues := headerValue_of_readHeaders (fun _ h ↦ absurd h List.not_mem_nil) hheaders
  refine raisesOnly_require_bind ⟨_, rfl⟩ fun _ ↦ ?_
  refine (raisesOnly_disposition hfaultless hvalues).bind fun named _ ↦ ?_
  refine raisesOnly_require_bind ⟨_, rfl⟩ fun _ ↦ raisesOnly_require_bind ⟨_, rfl⟩ fun _ ↦ ?_
  refine raisesOnly_orRaise.bind fun token _ ↦ raisesOnly_require_bind ⟨_, rfl⟩ fun _ ↦ ?_
  exact raisesOnly_require_bind ⟨_, rfl⟩ fun _ ↦ raisesOnly_ok _

theorem raisesOnly_parseSpool (boundary spool : List UInt8) :
    RaisesOnly IsParse (parseSpool message boundary spool) := by
  refine raisesOnly_require_bind ⟨_, rfl⟩ fun _ ↦ ?_
  refine (raisesOnly_readTokenPart hfaultless _ _ _).bind fun csrf _ ↦ ?_
  refine (raisesOnly_readTokenPart hfaultless _ _ _).bind fun action _ ↦ ?_
  refine (raisesOnly_readHeaders _ _ _).bind fun headers hheaders ↦ ?_
  have hvalues := headerValue_of_readHeaders (fun _ h ↦ absurd h List.not_mem_nil) hheaders
  refine raisesOnly_require_bind ⟨_, rfl⟩ fun _ ↦ ?_
  refine (raisesOnly_disposition hfaultless hvalues).bind fun named _ ↦ ?_
  refine raisesOnly_orRaise.bind fun filename _ ↦ raisesOnly_require_bind ⟨_, rfl⟩ fun _ ↦ ?_
  refine raisesOnly_orRaise.bind fun trailer _ ↦ raisesOnly_require_bind ⟨_, rfl⟩ fun _ ↦ ?_
  exact raisesOnly_require_bind ⟨_, rfl⟩ fun _ ↦ raisesOnly_ok _

end

/-- The opening of a body with a disposition header alone. -/
def dispositionBody (boundary raw : List UInt8) : List UInt8 :=
  dashes ++ boundary ++ crlf ++
    (encodeUtf8 "content-disposition".toList ++ 58 :: raw ++ crlf ++ crlf)

/-- What `Message` raises on the value of a header goes through. -/
theorem parseSpool_fault {message : MessageClass φ} {boundary raw : List UInt8} {e : UploadRaised φ}
    (hboundary : (10 : UInt8) ∉ boundary) (hline : (10 : UInt8) ∉ raw)
    (hlength : "content-disposition".toList.length + raw.length + 3 ≤ maxHeaderLine)
    (hraised : dispositionOf message (stripChars (decodeLatin1 raw)) = .error e) :
    parseSpool message boundary (dispositionBody boundary raw) = .error e := by
  have hchars : ∀ c ∈ "content-disposition".toList, IsAscii c ∧ c ≠ ':' := forall_of_all (by decide)
  have hlower : (stripChars "content-disposition".toList).map Char.toLower =
      "content-disposition".toList := by decide
  have hbytes : (encodeUtf8 "content-disposition".toList).length =
      "content-disposition".toList.length := by decide +kernel
  have hheader := headerOf_bytes (φ := φ) raw hchars
  rw [hlower] at hheader
  have hname : (10 : UInt8) ∉ encodeUtf8 "content-disposition".toList :=
    not_mem_encodeUtf8 (by decide) (by decide)
  have hwhole : (10 : UInt8) ∉ encodeUtf8 "content-disposition".toList ++ 58 :: raw := by
    rw [List.mem_append, List.mem_cons]
    rintro (h | h | h)
    · exact hname h
    · exact absurd h (by decide)
    · exact hline h
  have hfull : (encodeUtf8 "content-disposition".toList ++ 58 :: raw).length + 2 ≤
      maxHeaderLine := by
    rw [List.length_append, List.length_cons, hbytes]
    omega
  have hne : encodeUtf8 "content-disposition".toList ++ 58 :: raw ≠ [] :=
    List.append_ne_nil_of_right_ne_nil _ (List.cons_ne_nil _ _)
  have hlimits : maxHeaderLine + 2 ≤ maxHeaderBlock := by decide
  have hheaders : readHeaders 0 []
      (encodeUtf8 "content-disposition".toList ++ 58 :: raw ++ crlf ++ crlf) =
        (.ok ([("content-disposition".toList, stripChars (decodeLatin1 raw))], []) :
          Uploaded φ (Headers × List UInt8)) := by
    have hblock : 0 + ((encodeUtf8 "content-disposition".toList ++ 58 :: raw).length + 2) + 2 ≤
        maxHeaderBlock := by omega
    have hnew : "content-disposition".toList ∉ ([] : Headers).map Prod.fst := List.not_mem_nil
    have hread := readHeaders_line (crlf ++ []) hwhole hne hfull
      (Nat.le_trans (Nat.le_add_right _ 2) hblock) hheader (by decide) hnew
    rw [List.append_nil] at hread
    exact hread.trans (readHeaders_end [] hblock)
  have hopening : (10 : UInt8) ∉ dashes ++ boundary := by
    rw [List.mem_append]
    rintro (h | h)
    · exact absurd h (by decide)
    · exact hboundary h
  have hlimit : (dashes ++ boundary).length + 2 ≤ (dashes ++ boundary ++ crlf).length + 2 :=
    Nat.add_le_add_right (List.prefix_append _ crlf).length_le 2
  have hfirst := readline_crlf
    (encodeUtf8 "content-disposition".toList ++ 58 :: raw ++ crlf ++ crlf) hopening hlimit
  unfold parseSpool dispositionBody
  dsimp only
  rw [hfirst]
  refine bind_eq_error.mpr (.inr ⟨⟨⟩, require_eq_ok.mpr rfl, bind_eq_error.mpr (.inl ?_)⟩)
  refine bind_eq_error.mpr (.inr ⟨_, hheaders, ?_⟩)
  refine bind_eq_error.mpr (.inr ⟨⟨⟩, require_eq_ok.mpr rfl, bind_eq_error.mpr (.inl ?_)⟩)
  rw [disposition, List.lookup_cons_self]
  exact hraised

end N0te.Uploads
