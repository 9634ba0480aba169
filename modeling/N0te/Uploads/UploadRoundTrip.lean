import N0te.Uploads.UploadErrors

/-!
# Material uploads are read back

A form that is sent is parsed to its tokens and its file, however the stream splits the body, and to
its file name exactly if that is ASCII without double quotes and is neither stripped nor unquoted
(`upload_read_back`). Any other body is accepted or rejected with the spool closed, exactly if
`Message` raises on no header value that a body can hold.
-/

set_option autoImplicit false
set_option relaxedAutoImplicit false

namespace N0te.Uploads

open Library

variable {φ : Type}

/-! ### The file name -/

/-- The file name is returned as it is. -/
def Survives (filename : List Char) : Prop :=
  (∀ c ∈ filename, IsAscii c ∧ c ≠ '"') ∧ stripChars (unquote filename) = filename

theorem escapeQuotes_eq_self {filename : List Char} (h : '"' ∉ filename) :
    escapeQuotes filename = filename := by
  have hkeep : ∀ c ∈ filename, (if c = '"' then ['%', '2', '2'] else [c]) = [c] := fun c hc ↦
    if_neg (show c ≠ '"' from fun heq ↦ h (heq ▸ hc))
  rw [escapeQuotes, List.flatMap_congr hkeep, List.flatMap_singleton']

/-- Without double quotes, `unquote` takes at most angle brackets away. -/
theorem unquote_of_no_quote {value : List Char} (h : '"' ∉ value) :
    ∃ before after, value = before ++ unquote value ++ after ∧
      ∀ c ∈ before ++ after, c = '<' ∨ c = '>' := by
  have hquote : ¬ (1 < value.length ∧ value.head? = some '"' ∧ value.getLast? = some '"') :=
    fun ⟨_, hhead, _⟩ ↦ h (List.mem_of_head? hhead)
  by_cases hangle : 1 < value.length ∧ value.head? = some '<' ∧ value.getLast? = some '>'
  · refine ⟨['<'], ['>'], ?_, forall_of_all (by decide)⟩
    rw [unquote, if_neg hquote, if_pos hangle]
    obtain ⟨hlength, hhead, hlast⟩ := hangle
    obtain ⟨rest, rfl⟩ := List.head?_eq_some_iff.mp hhead
    have hne : rest ≠ [] := by
      rintro rfl
      exact absurd hlength (by decide)
    have hend : rest.getLast? = some '>' := by
      rwa [List.getLast?_cons_of_ne_nil hne] at hlast
    rw [List.tail_cons, List.singleton_append, List.cons_append]
    exact congrArg ('<' :: ·) (List.dropLast_append_getLast? _ hend).symm
  · refine ⟨[], [], ?_, fun c hc ↦ absurd hc List.not_mem_nil⟩
    rw [unquote, if_neg hquote, if_neg hangle, List.nil_append, List.append_nil]

theorem stripChars_split (text : List Char) :
    ∃ before after, text = before ++ stripChars text ++ after ∧
      ∀ c ∈ before ++ after, isSpace c = true := by
  refine ⟨text.takeWhile isSpace, (text.dropWhile isSpace).rtakeWhile isSpace, ?_, fun c hc ↦ ?_⟩
  · rw [stripChars, List.append_assoc, List.rdropWhile_append_rtakeWhile,
      List.takeWhile_append_dropWhile]
  · rcases List.mem_append.mp hc with hbefore | hafter
    · exact List.mem_takeWhile_imp hbefore
    · exact List.mem_rtakeWhile_imp hafter

/-- The spaces of latin-1 beside those of ASCII. -/
theorem latin_space {c : Char} (hspace : isSpace c = true) (hlt : c.toNat < 256) :
    IsAscii c ∨ c.toNat = 0x85 ∨ c.toNat = 0xa0 := by
  simp only [isSpace, Bool.or_eq_true, Bool.and_eq_true, decide_eq_true_eq, beq_iff_eq] at hspace
  unfold IsAscii
  omega

theorem filter_escapeQuotes (filename : List Char) :
    (escapeQuotes filename).filter (¬ IsAscii ·) = filename.filter (¬ IsAscii ·) := by
  induction filename with
  | nil => rfl
  | cons c rest ih =>
    have hcons : escapeQuotes (c :: rest) =
        (if c = '"' then ['%', '2', '2'] else [c]) ++ escapeQuotes rest := List.flatMap_cons ..
    rw [hcons, List.filter_append, ih]
    by_cases hquote : c = '"'
    · subst hquote
      rfl
    · rw [if_neg hquote, ← List.filter_append]
      rfl

/-- A file name is read back exactly if it survives. -/
theorem readName_eq_iff {form : UploadForm} (hvalid : form.Valid) :
    form.readName = form.filename ↔ Survives form.filename := by
  have hread : ∀ c ∈ readBack (escapeQuotes form.filename), c ≠ '"' := fun c hc ↦ by
    rcases mem_readBack hc with hmem | hascii
    · exact (unquoted_escapeQuotes hvalid.filename.2 c hmem).1
    · exact (unquoted_of_not_ascii hascii).1
  have hquote : '"' ∉ readBack (escapeQuotes form.filename) := fun hmem ↦ hread _ hmem rfl
  constructor
  · intro hname
    obtain ⟨opening, closing, hunquote, hangles⟩ := unquote_of_no_quote hquote
    obtain ⟨left, right, hstrip, hspaces⟩ :=
      stripChars_split (unquote (readBack (escapeQuotes form.filename)))
    rw [show stripChars (unquote (readBack (escapeQuotes form.filename))) = form.filename from
      hname] at hstrip
    rw [hstrip] at hunquote
    have hwhole : (opening ++ left) ++ form.filename ++ (right ++ closing) =
        decodeLatin1 (encodeUtf8 (escapeQuotes form.filename)) := by
      rw [show decodeLatin1 (encodeUtf8 (escapeQuotes form.filename)) =
        readBack (escapeQuotes form.filename) from rfl, hunquote]
      simp only [List.append_assoc]
    have hmem : ∀ c ∈ form.filename, c ∈ readBack (escapeQuotes form.filename) := fun c hc ↦ by
      rw [readBack, ← hwhole]
      exact List.mem_append_left _ (List.mem_append_right _ hc)
    have hascii := ascii_of_read_back (filter_escapeQuotes form.filename) hwhole fun c hc ↦ by
      have hlatin : c.toNat < 256 := by
        refine lt_of_mem_decodeLatin1 (show c ∈ decodeLatin1 (encodeUtf8 (escapeQuotes
          form.filename)) from ?_)
        rw [← hwhole]
        simp only [List.mem_append] at hc ⊢
        tauto
      simp only [List.mem_append] at hc hangles hspaces
      rcases hc with (hopen | hleft) | hright | hclose
      · rcases hangles c (.inl hopen) with rfl | rfl <;> exact .inl (by decide)
      · exact latin_space (hspaces c (.inl hleft)) hlatin
      · exact latin_space (hspaces c (.inr hright)) hlatin
      · rcases hangles c (.inr hclose) with rfl | rfl <;> exact .inl (by decide)
    have hboth : ∀ c ∈ form.filename, IsAscii c ∧ c ≠ '"' := fun c hc ↦
      ⟨hascii c hc, hread c (hmem c hc)⟩
    refine ⟨hboth, ?_⟩
    rw [UploadForm.readName, escapeQuotes_eq_self fun h ↦ (hboth _ h).2 rfl, readBack_ascii hascii]
      at hname
    exact hname
  · rintro ⟨hboth, hkept⟩
    rw [UploadForm.readName, escapeQuotes_eq_self fun h ↦ (hboth _ h).2 rfl,
      readBack_ascii fun c hc ↦ (hboth c hc).1]
    exact hkept

/-! ### The stream -/

/-- A way to split a body: no read is empty or longer than one may be. -/
structure Splits (chunks : List (List UInt8)) : Prop where
  /-- Reads return something. -/
  nonempty : ∀ chunk ∈ chunks, chunk ≠ []
  /-- No more than was asked for. -/
  bounded : ∀ chunk ∈ chunks, chunk.length ≤ 64 * 1024

/-- The body is taken from the stream, and nothing after it. -/
theorem readBody_splits {chunks : List (List UInt8)} (h : Splits chunks) (spool : List UInt8)
    (unread : List StreamRead) :
    readBody chunks.flatten.length spool (chunks.map .bytes ++ unread) =
      (.ok (spool ++ chunks.flatten, unread) : Uploaded φ (List UInt8 × List StreamRead)) := by
  induction chunks generalizing spool with
  | nil =>
    rw [List.flatten_nil, List.append_nil, List.length_nil, readBody]
    rfl
  | cons chunk rest ih =>
    obtain ⟨hne, hnonempty⟩ := List.forall_mem_cons.mp h.nonempty
    obtain ⟨hle, hbounded⟩ := List.forall_mem_cons.mp h.bounded
    have hpos := List.length_pos_iff.mpr hne
    have hlength : (chunk :: rest).flatten.length =
        chunk.length + rest.flatten.length - 1 + 1 := by
      rw [List.flatten_cons, List.length_append]
      omega
    have hrest : chunk.length + rest.flatten.length - 1 + 1 - chunk.length =
        rest.flatten.length := by omega
    have hasked : chunk.length ≤
        min (64 * 1024) (chunk.length + rest.flatten.length - 1 + 1) := by omega
    rw [hlength, List.map_cons, List.cons_append, readBody, require, if_pos hne, require,
      if_pos hasked, hrest]
    refine (ih ⟨hnonempty, hbounded⟩ (spool ++ chunk)).trans ?_
    rw [List.flatten_cons, List.append_assoc]

/-- Whenever a body is taken, it is what the reads that were made returned, of the length asked for.
-/
theorem readBody_eq_ok {remaining : ℕ} {spool body : List UInt8} {reads unread : List StreamRead}
    (h : readBody remaining spool reads =
      (.ok (body, unread) : Uploaded φ (List UInt8 × List StreamRead))) :
    ∃ chunks : List (List UInt8), reads = chunks.map .bytes ++ unread ∧
      body = spool ++ chunks.flatten ∧ chunks.flatten.length = remaining := by
  induction remaining, spool, reads using readBody.induct with
  | case1 spool reads =>
    rw [readBody] at h
    cases h
    exact ⟨[], rfl, (List.append_nil _).symm, rfl⟩
  | case2 =>
    rw [readBody] at h
    cases h
  | case3 =>
    rw [readBody] at h
    cases h
  | case4 remaining spool chunk reads ih =>
    simp only [readBody, bind_eq_ok, require_eq_ok, exists_const] at h
    obtain ⟨-, hasked, hrest⟩ := h
    obtain ⟨chunks, rfl, rfl, hlength⟩ := ih hrest
    refine ⟨chunk :: chunks, rfl, List.append_assoc .., ?_⟩
    rw [List.flatten_cons, List.length_append]
    omega

/-! ### The file -/

/-- What reads of some sizes return of what remains. -/
def sliced : List (Option ℤ) → List UInt8 → List (List UInt8)
  | [], _ => []
  | size :: sizes, remaining =>
    remaining.take (wantedBytes size remaining.length) ::
      sliced sizes (remaining.drop (wantedBytes size remaining.length))

theorem wantedBytes_le (size : Option ℤ) (remaining : ℕ) :
    wantedBytes size remaining ≤ remaining := by
  unfold wantedBytes
  split
  · exact Nat.le_refl _
  · split
    · exact Nat.le_refl _
    · exact Nat.min_le_right _ _

section

variable {reader : SliceReader} {before remaining after : List UInt8}
  (hstream : reader.stream = before ++ remaining ++ after)
  (hstart : reader.start + reader.offset = before.length)
  (hlength : reader.length = reader.offset + remaining.length)
include hstream hstart hlength

/-- A read returns a slice of what remains. -/
theorem read_eq_take (size : Option ℤ) :
    reader.read size = (.ok (remaining.take (wantedBytes size remaining.length),
      { reader with offset := reader.offset + wantedBytes size remaining.length }) :
        Uploaded φ (List UInt8 × SliceReader)) := by
  have hwanted := wantedBytes_le size remaining.length
  have hleft : reader.length - reader.offset = remaining.length := by omega
  have hdata : readAt reader.stream (reader.start + reader.offset)
      (wantedBytes size remaining.length) =
        remaining.take (wantedBytes size remaining.length) := by
    rw [readAt, hstream, hstart, List.append_assoc, List.drop_left,
      List.take_append_of_le_length hwanted]
  have htake : (remaining.take (wantedBytes size remaining.length)).length =
      wantedBytes size remaining.length := by
    rw [List.length_take, Nat.min_eq_left hwanted]
  unfold SliceReader.read
  by_cases hnil : remaining.length = 0
  · have hzero : wantedBytes size remaining.length = 0 := by omega
    dsimp only
    rw [hleft, if_pos hnil, hzero]
    rfl
  · dsimp only
    rw [hleft, if_neg hnil, hdata, htake, require, if_pos rfl]
    rfl

/-- Reads return slices of the file. -/
theorem reads_eq_sliced (sizes : List (Option ℤ)) :
    reader.reads sizes = (.ok (sliced sizes remaining) : Uploaded φ (List (List UInt8))) := by
  induction sizes generalizing reader before remaining with
  | nil => rfl
  | cons size sizes ih =>
    have htake : (remaining.take (wantedBytes size remaining.length)).length =
        wantedBytes size remaining.length := by
      rw [List.length_take, Nat.min_eq_left (wantedBytes_le _ _)]
    have hwanted := wantedBytes_le size remaining.length
    have hrest : ({ reader with offset := reader.offset + wantedBytes size remaining.length } :
        SliceReader).reads sizes =
          (.ok (sliced sizes (remaining.drop (wantedBytes size remaining.length))) :
            Uploaded φ (List (List UInt8))) := by
      refine ih (show reader.stream =
        before ++ remaining.take (wantedBytes size remaining.length) ++
          remaining.drop (wantedBytes size remaining.length) ++ after from ?_) ?_ ?_
      · rw [List.append_assoc before, List.take_append_drop]
        exact hstream
      · rw [List.length_append, htake, ← hstart]
        exact (Nat.add_assoc _ _ _).symm
      · rw [List.length_drop]
        show reader.length = reader.offset + _ + _
        omega
    rw [SliceReader.reads, read_eq_take hstream hstart hlength]
    show (SliceReader.reads _ sizes >>= fun rest ↦ pure (_ :: rest)) = _
    rw [hrest]
    rfl

end

/-- What some reads return, put together. -/
structure Concatenates (sizes : List (Option ℤ)) (content : List UInt8)
    (slices : List (List UInt8)) : Prop where
  /-- One for each read. -/
  length : slices.length = sizes.length
  /-- They are the content from its start on. -/
  order : slices.flatten <+: content
  /-- No more than was asked for. -/
  bounded : ∀ read ∈ sizes.zip slices, ∀ n : ℕ, read.1 = some ↑n → read.2.length ≤ n
  /-- A read without a size takes the rest. -/
  whole : (∃ size ∈ sizes, ∀ n : ℕ, size ≠ some ↑n) → slices.flatten = content
  /-- Nothing is returned only once the content was. -/
  ended : ∀ read ∈ sizes.zip slices, read.1 ≠ some 0 → read.2 = [] → slices.flatten = content

theorem wantedBytes_of_not_size {size : Option ℤ} (h : ∀ n : ℕ, size ≠ some ↑n) (remaining : ℕ) :
    wantedBytes size remaining = remaining := by
  cases size with
  | none => rfl
  | some n =>
    have hneg : n < 0 := by
      by_contra hle
      exact h n.toNat (congrArg some (Int.toNat_of_nonneg (Int.not_lt.mp hle)).symm)
    rw [wantedBytes, if_pos hneg]

theorem eq_zero_of_wantedBytes {size : Option ℤ} {remaining : ℕ} (hsize : size ≠ some 0)
    (h : wantedBytes size remaining = 0) : remaining = 0 := by
  cases size with
  | none => exact h
  | some n =>
    have hne : n ≠ 0 := fun heq ↦ hsize (congrArg some heq)
    unfold wantedBytes at h
    dsimp only at h
    split_ifs at h <;> omega

theorem sliced_concatenates (sizes : List (Option ℤ)) (content : List UInt8) :
    Concatenates sizes content (sliced sizes content) := by
  induction sizes generalizing content with
  | nil => exact ⟨rfl, List.nil_prefix, fun _ h ↦ absurd h List.not_mem_nil,
      fun ⟨_, h, _⟩ ↦ absurd h List.not_mem_nil, fun _ h ↦ absurd h List.not_mem_nil⟩
  | cons size sizes ih =>
    obtain ⟨hlength, horder, hbounded, hwhole, hended⟩ :=
      ih (content.drop (wantedBytes size content.length))
    have hbegin := (List.prefix_append_right_inj
      (content.take (wantedBytes size content.length))).mpr horder
    rw [List.take_append_drop] at hbegin
    -- The reads after it return the rest, so that it is put together with what was returned before.
    have hjoin (h : (sliced sizes (content.drop (wantedBytes size content.length))).flatten =
        content.drop (wantedBytes size content.length)) :
        (sliced (size :: sizes) content).flatten = content := by
      rw [sliced, List.flatten_cons, h, List.take_append_drop]
    have hall (h : content.length ≤ wantedBytes size content.length) :
        (sliced (size :: sizes) content).flatten = content := by
      refine hjoin ?_
      rw [List.drop_eq_nil_of_le h] at horder ⊢
      exact List.prefix_nil.mp horder
    refine ⟨congrArg (· + 1) hlength, hbegin, ?_, ?_, ?_⟩
    · rw [sliced, List.zip_cons_cons]
      refine List.forall_mem_cons.mpr ⟨fun n hsize ↦ ?_, hbounded⟩
      have hle : wantedBytes size content.length ≤ n := by
        rw [show size = some ↑n from hsize, wantedBytes]
        split_ifs <;> omega
      exact Nat.le_trans (List.length_take_le _ _) hle
    · rintro ⟨other, hother, hnone⟩
      rcases List.mem_cons.mp hother with rfl | htail
      · exact hall (wantedBytes_of_not_size hnone _).ge
      · exact hjoin (hwhole ⟨other, htail, hnone⟩)
    · intro read hread hsize hnil
      rw [sliced, List.zip_cons_cons, List.mem_cons] at hread
      rcases hread with rfl | htail
      · refine hall ?_
        have hzero := congrArg List.length (show content.take _ = [] from hnil)
        rw [List.length_take, List.length_nil] at hzero
        have hwanted := wantedBytes_le size content.length
        have hnone : wantedBytes size content.length = 0 := by omega
        have hempty := eq_zero_of_wantedBytes (show size ≠ some 0 from hsize) hnone
        exact hempty.le.trans (Nat.zero_le _)
      · exact hjoin (hended read htail hsize hnil)

/-! ### The boundary and the size of a body -/

/-- A boundary that is accepted is short and on one line. -/
theorem boundary_of_contentType {message : MessageClass φ} {contentType : List Char}
    {boundary : List UInt8} (h : contentTypeBoundary message contentType = .ok boundary) :
    boundary.length ≤ 70 ∧ (10 : UInt8) ∉ boundary := by
  obtain ⟨type, -, h⟩ := bind_eq_ok.mp h
  obtain ⟨⟨⟩, -, h⟩ := bind_eq_ok.mp h
  obtain ⟨param, -, h⟩ := bind_eq_ok.mp h
  cases param with
  | missing => cases h
  | encoded => cases h
  | text text =>
    simp only [bind_eq_ok, require_eq_ok, exists_const, pure_eq_ok] at h
    obtain ⟨-, ⟨hlength, -, hline⟩, hascii, -, rfl⟩ := h
    refine ⟨?_, not_mem_encodeUtf8 (by decide) hline⟩
    have hbytes := congrArg List.length (decodeLatin1_encodeUtf8 (forall_of_all hascii))
    rw [decodeLatin1, List.length_map] at hbytes
    exact hbytes.le.trans hlength

/-- The body of a form is not too large. -/
theorem length_body_le {form : UploadForm} (hvalid : form.Valid) {boundary : List UInt8}
    (hboundary : boundary.length ≤ 70) :
    0 < (form.body boundary).length ∧ (form.body boundary).length ≤ maxUploadBodyBytes := by
  have hcsrf := (hvalid.tokens form.csrf (List.mem_cons_self ..)).2.2.2
  have haction :=
    (hvalid.tokens form.action (List.mem_cons_of_mem _ (List.mem_singleton_self _))).2.2.2
  have hcsrfLine := length_tokenLine_le (.inl rfl)
  have hactionLine := length_tokenLine_le (.inr rfl)
  have hheaders := hvalid.headers
  have hcontent := hvalid.content
  have hend : (if form.finalCrlf then crlf else []).length ≤ 2 := by
    split_ifs <;> decide
  have hcrlf : crlf.length = 2 := rfl
  have hdashes : dashes.length = 2 := rfl
  have hmaximum : maxUploadBodyBytes = maxMaterialBytes + 131072 := rfl
  rw [hmaximum]
  unfold maxTokenBytes at hcsrf haction
  unfold maxHeaderLine at hcsrfLine hactionLine
  unfold maxHeaderBlock at hheaders
  simp only [UploadForm.body, UploadForm.trailer, tokenPart, List.length_append, hcrlf, hdashes]
  omega

/-! ### The claims of a run -/

/-- However the stream splits the body of a form, its tokens, its file name and its file are
returned, and nothing after the body is read. -/
def RoundTrips (message : MessageClass φ) (contentType : List Char) (boundary : List UInt8)
    (form : UploadForm) : Prop :=
  ∀ chunks, Splits chunks → chunks.flatten = form.body boundary → ∀ unread, ∃ parsed,
    parseMaterialUpload message (chunks.map .bytes ++ unread) contentType
        (form.body boundary).length = ⟨.ok (parsed, unread), some false⟩ ∧
      parsed.csrf = form.csrf ∧ parsed.action = form.action ∧ parsed.filename = form.filename ∧
      ∀ sizes, ∃ slices,
        parsed.fileStream.reads sizes = (.ok slices : Uploaded φ (List (List UInt8))) ∧
        Concatenates sizes form.content slices

/-- A body is accepted, after exactly the content length was read, or rejected as malformed with the
spool closed. -/
def Settles (run : UploadRun φ) (reads : List StreamRead) (contentLength : ℤ) : Prop :=
  match run.result with
  | .ok (parsed, unread) => run.spoolClosed = some false ∧ ∃ chunks : List (List UInt8),
      reads = chunks.map .bytes ++ unread ∧ parsed.spool = chunks.flatten ∧
        (chunks.flatten.length : ℤ) = contentLength
  | .error e => IsParse e ∧ run.spoolClosed ≠ some false

theorem spool_of_parseSpool {message : MessageClass φ} {boundary spool : List UInt8}
    {parsed : ParsedMaterialUpload} (h : parseSpool message boundary spool = .ok parsed) :
    parsed.spool = spool := by
  simp only [parseSpool, bind_eq_ok, require_eq_ok, exists_const, pure_eq_ok, Prod.exists] at h
  obtain ⟨-, -, -, -, -, -, -, -, -, -, -, -, -, -, -, -, -, -, -, -, -, rfl⟩ := h
  rfl

theorem splits_singletons (body : List UInt8) :
    Splits (body.map fun byte ↦ [byte]) ∧ (body.map fun byte ↦ [byte]).flatten = body := by
  refine ⟨⟨fun chunk hchunk ↦ ?_, fun chunk hchunk ↦ ?_⟩, ?_⟩
  · obtain ⟨byte, -, rfl⟩ := List.mem_map.mp hchunk
    exact List.cons_ne_nil _ _
  · obtain ⟨byte, -, rfl⟩ := List.mem_map.mp hchunk
    rw [List.length_singleton]
    decide
  · rw [← List.flatMap_def, List.flatMap_singleton']

theorem fileStream_reads (form : UploadForm) (boundary : List UInt8) (sizes : List (Option ℤ)) :
    (form.parsed boundary).fileStream.reads sizes =
      (.ok (sliced sizes form.content) : Uploaded φ (List (List UInt8))) := by
  have hstream : (form.parsed boundary).fileStream.stream =
      form.head boundary ++ form.content ++ form.trailer boundary := rfl
  exact reads_eq_sliced hstream rfl (Nat.zero_add _).symm sizes

section

variable {message : MessageClass φ} {contentType : List Char} {boundary : List UInt8}
  (hboundary : contentTypeBoundary message contentType = .ok boundary)
include hboundary

theorem uploadBoundary_of_body {body : List UInt8} (hpos : 0 < body.length)
    (hle : body.length ≤ maxUploadBodyBytes) :
    uploadBoundary message contentType body.length = .ok boundary := by
  have hrange : (0 : ℤ) < body.length ∧ (body.length : ℤ) ≤ maxUploadBodyBytes :=
    ⟨Int.natCast_pos.mpr hpos, Int.ofNat_le.mpr hle⟩
  rw [uploadBoundary, require, if_pos hrange]
  exact hboundary

/-- A run over a body that the stream splits. -/
theorem parseMaterialUpload_body {chunks : List (List UInt8)} (hsplits : Splits chunks)
    (hpos : 0 < chunks.flatten.length) (hle : chunks.flatten.length ≤ maxUploadBodyBytes)
    (unread : List StreamRead) :
    parseMaterialUpload message (chunks.map .bytes ++ unread) contentType chunks.flatten.length =
      match parseSpool message boundary chunks.flatten with
      | .ok parsed => ⟨.ok (parsed, unread), some false⟩
      | .error e => ⟨.error e, some true⟩ := by
  unfold parseMaterialUpload
  rw [uploadBoundary_of_body hboundary hpos hle]
  dsimp only
  rw [Int.toNat_natCast, readBody_splits hsplits]
  cases hparsed : parseSpool message boundary chunks.flatten with
  | ok parsed => rw [List.nil_append]; simp only [bind, Except.bind, hparsed]; rfl
  | error e => rw [List.nil_append]; simp only [bind, Except.bind, hparsed]

/-- A form is read back exactly if its file name is. -/
theorem roundTrips_iff (hquoted : ReturnsQuoted message) {form : UploadForm} (hvalid : form.Valid) :
    RoundTrips message contentType boundary form ↔ form.readName = form.filename := by
  obtain ⟨hshort, hline⟩ := boundary_of_contentType hboundary
  obtain ⟨hpos, hle⟩ := length_body_le hvalid hshort
  constructor
  · intro h
    obtain ⟨hsplits, hflatten⟩ := splits_singletons (form.body boundary)
    obtain ⟨parsed, hrun, -, -, hname, -⟩ := h _ hsplits hflatten []
    have hbody := parseMaterialUpload_body hboundary hsplits (by rwa [hflatten])
      (by rwa [hflatten]) []
    rw [hflatten] at hbody
    rw [hbody] at hrun
    cases hparsed : parseSpool message boundary (form.body boundary) with
    | error e => rw [hparsed] at hrun; cases hrun
    | ok found =>
      rw [hparsed] at hrun
      cases hrun
      obtain ⟨-, rfl⟩ := (parseSpool_body hquoted hvalid hline).mp hparsed
      exact hname
  · intro hname chunks hsplits hflatten unread
    have hne : form.readName ≠ [] := hname ▸ hvalid.filename.1
    have hparsed := (parseSpool_body hquoted hvalid hline).mpr ⟨hne, rfl⟩
    have hbody := parseMaterialUpload_body hboundary hsplits (by rwa [hflatten])
      (by rwa [hflatten]) unread
    rw [hflatten, hparsed] at hbody
    exact ⟨form.parsed boundary, hbody, rfl, rfl, hname, fun sizes ↦
      ⟨_, fileStream_reads form boundary sizes, sliced_concatenates sizes form.content⟩⟩

/-- Every run settles exactly if `Message` raises nothing. -/
theorem settles_iff :
    (∀ reads contentLength,
      Settles (parseMaterialUpload message reads contentType contentLength) reads contentLength) ↔
      Faultless message := by
  constructor
  · rintro h value ⟨raw, hraw, hlength, rfl⟩ e hraised
    obtain ⟨hshort, hline⟩ := boundary_of_contentType hboundary
    obtain ⟨hsplits, hflatten⟩ := splits_singletons (dispositionBody boundary raw)
    have hbytes : (encodeUtf8 "content-disposition".toList).length =
        "content-disposition".toList.length := by decide +kernel
    have hsize : 0 < (dispositionBody boundary raw).length ∧
        (dispositionBody boundary raw).length ≤ maxUploadBodyBytes := by
      have hlimit : 100 + maxHeaderLine ≤ maxUploadBodyBytes := by decide
      have hcrlf : crlf.length = 2 := rfl
      have hdashes : dashes.length = 2 := rfl
      simp only [dispositionBody, List.length_append, List.length_cons, hbytes, hcrlf, hdashes]
      omega
    have hrun := parseMaterialUpload_body hboundary hsplits (by rw [hflatten]; exact hsize.1)
      (by rw [hflatten]; exact hsize.2) []
    rw [hflatten, parseSpool_fault hline hraw hlength hraised] at hrun
    have hsettles := h (((dispositionBody boundary raw).map fun byte ↦ [byte]).map .bytes ++ [])
      (dispositionBody boundary raw).length
    rw [hrun] at hsettles
    exact hsettles.1
  · intro hfaultless reads contentLength
    unfold parseMaterialUpload
    cases hchecked : uploadBoundary message contentType contentLength with
    | error e =>
      refine ⟨?_, by simp⟩
      rcases bind_eq_error.mp hchecked with hrange | ⟨-, -, hother⟩
      · exact ⟨_, require_eq_error hrange⟩
      · rw [hboundary] at hother
        cases hother
    | ok found =>
      obtain ⟨⟨⟩, hrange, -⟩ := bind_eq_ok.mp hchecked
      have hpos := (require_eq_ok.mp hrange).1
      dsimp only
      cases hread : readBody contentLength.toNat [] reads with
      | error e => exact ⟨raisesOnly_readBody _ _ _ e hread, by simp [bind, Except.bind]⟩
      | ok taken =>
        obtain ⟨chunks, hreads, hspool, hlength⟩ := readBody_eq_ok hread
        cases hparsed : parseSpool message found taken.1 with
        | error e =>
          simp only [bind, Except.bind, hparsed]
          exact ⟨raisesOnly_parseSpool hfaultless _ _ e hparsed, by simp⟩
        | ok parsed =>
          simp only [bind, Except.bind, hparsed]
          refine ⟨rfl, chunks, hreads, ?_, ?_⟩
          · rw [spool_of_parseSpool hparsed, hspool, List.nil_append]
          · rw [hlength]
            exact Int.toNat_of_nonneg (Int.le_of_lt hpos)

/-- A form is read back exactly if its file name survives, and every body is accepted or rejected
exactly if `Message` raises nothing. -/
theorem upload_read_back (hquoted : ReturnsQuoted message) :
    (∀ form : UploadForm, form.Valid →
      (RoundTrips message contentType boundary form ↔ Survives form.filename)) ∧
    ((∀ reads contentLength,
      Settles (parseMaterialUpload message reads contentType contentLength) reads contentLength) ↔
      Faultless message) := by
  refine ⟨fun form hvalid ↦ ?_, settles_iff hboundary⟩
  exact (roundTrips_iff hboundary hquoted hvalid).trans (readName_eq_iff hvalid)

end

/-! ### A `Message` for quoted headers -/

/-- The parameters of a header whose parameters are all quoted. -/
def readQuotedParams : ℕ → List Char → List (List Char × List Char)
  | count + 1, ';' :: ' ' :: rest =>
    let key := rest.takeWhile (· ≠ '=')
    let value := (rest.drop (key.length + 2)).takeWhile (· ≠ '"')
    (key, value) :: readQuotedParams count (rest.drop (key.length + 2 + (value.length + 1)))
  | _, _ => []

/-- `Message` on headers whose parameters are all quoted. -/
def quotedMessage : MessageClass Empty where
  contentType value := .ok (value.takeWhile (· ≠ ';'))
  boundary value := .ok (.text (value.dropWhile (· ≠ '=')).tail)
  contentDisposition value := .ok (value.takeWhile (· ≠ ';'))
  param value key :=
    .ok (match (readQuotedParams value.length (value.dropWhile (· ≠ ';'))).lookup key.toList with
      | some value => .text value
      | none => .missing)
  collapsed _ _ value := .ok value

theorem readQuotedParams_flatMap {params : List (String × List Char)}
    (hkeys : ∀ param ∈ params, param.1 = "name" ∨ param.1 = "filename")
    (hvalues : ∀ param ∈ params, ∀ c ∈ param.2, Unquoted c) {count : ℕ}
    (hcount : params.length ≤ count) :
    readQuotedParams count (params.flatMap quotedParam) =
      params.map fun param ↦ (param.1.toList, param.2) := by
  induction params generalizing count with
  | nil => cases count <;> rfl
  | cons param rest ih =>
    obtain ⟨hkey, hkeys⟩ := List.forall_mem_cons.mp hkeys
    obtain ⟨hvalue, hvalues⟩ := List.forall_mem_cons.mp hvalues
    obtain ⟨count, rfl⟩ := Nat.exists_eq_add_one_of_ne_zero (by
      rintro rfl
      exact absurd hcount (by simp) : count ≠ 0)
    have hname : ∀ c ∈ param.1.toList, (decide (c ≠ '=')) = true := by
      rcases hkey with hname | hname <;> rw [hname] <;> exact forall_of_all (by decide)
    have hquote : ∀ c ∈ param.2, (decide (c ≠ '"')) = true := fun c hc ↦
      decide_eq_true (hvalue c hc).1
    have hsplit : (param :: rest).flatMap quotedParam = ';' :: ' ' :: (param.1.toList ++
        '=' :: '"' :: (param.2 ++ '"' :: rest.flatMap quotedParam)) := by
      simp [quotedParam]
    have hkeyRead : (param.1.toList ++
        '=' :: '"' :: (param.2 ++ '"' :: rest.flatMap quotedParam)).takeWhile (· ≠ '=') =
          param.1.toList := by
      rw [List.takeWhile_append_of_pos hname, List.takeWhile_cons_of_neg (by simp),
        List.append_nil]
    have hdrop : (param.1.toList ++
        '=' :: '"' :: (param.2 ++ '"' :: rest.flatMap quotedParam)).drop
          (param.1.toList.length + 2) = param.2 ++ '"' :: rest.flatMap quotedParam := by
      rw [List.drop_append, List.drop_eq_nil_of_le (Nat.le_add_right _ 2), List.nil_append,
        Nat.add_sub_cancel_left]
      rfl
    have hvalueRead : (param.2 ++ '"' :: rest.flatMap quotedParam).takeWhile (· ≠ '"') =
        param.2 := by
      rw [List.takeWhile_append_of_pos hquote, List.takeWhile_cons_of_neg (by simp),
        List.append_nil]
    have hrest : (param.2 ++ '"' :: rest.flatMap quotedParam).drop (param.2.length + 1) =
        rest.flatMap quotedParam := by
      rw [List.drop_append, List.drop_eq_nil_of_le (Nat.le_succ _), List.nil_append,
        Nat.add_sub_cancel_left]
      rfl
    rw [hsplit, readQuotedParams, hkeyRead, hdrop, hvalueRead, ← List.drop_drop, hdrop, hrest,
      ih hkeys hvalues (Nat.le_of_succ_le_succ hcount)]
    rfl

theorem length_le_flatMap (params : List (String × List Char)) :
    params.length ≤ (params.flatMap quotedParam).length := by
  induction params with
  | nil => exact Nat.le_refl _
  | cons param rest ih =>
    rw [List.flatMap_cons, List.length_append, List.length_cons, Nat.add_comm]
    exact Nat.add_le_add (Nat.succ_pos _) ih

theorem lookup_map_toList (params : List (String × List Char)) (key : String) :
    (params.map fun param ↦ (param.1.toList, param.2)).lookup key.toList = params.lookup key := by
  induction params with
  | nil => rfl
  | cons param rest ih =>
    have hkey : (key.toList == param.1.toList) = (key == param.1) := by
      rw [Bool.eq_iff_iff, beq_iff_eq, beq_iff_eq, String.toList_inj]
    rw [List.map_cons, List.lookup_cons, List.lookup_cons, hkey, ih]

theorem quotedMessage_returnsQuoted : ReturnsQuoted quotedMessage := by
  have hform : ∀ c ∈ "form-data".toList, (decide (c ≠ ';')) = true := forall_of_all (by decide)
  have hhead (params : List (String × List Char)) :
      (params.flatMap quotedParam).takeWhile (· ≠ ';') = [] ∧
        (params.flatMap quotedParam).dropWhile (· ≠ ';') = params.flatMap quotedParam := by
    cases params with
    | nil => exact ⟨rfl, rfl⟩
    | cons param rest => exact ⟨rfl, rfl⟩
  refine ⟨fun params _ ↦ congrArg Except.ok ?_, fun params key hquotable _ ↦ congrArg Except.ok ?_⟩
  · unfold quotedDisposition
    rw [List.takeWhile_append_of_pos hform, (hhead params).1, List.append_nil]
  · have hdrop : (quotedDisposition params).dropWhile (· ≠ ';') = params.flatMap quotedParam := by
      unfold quotedDisposition
      rw [List.dropWhile_append_of_pos hform, (hhead params).2]
    have hcount : params.length ≤ (quotedDisposition params).length := by
      unfold quotedDisposition
      rw [List.length_append]
      exact Nat.le_trans (length_le_flatMap params) (Nat.le_add_left _ _)
    rw [hdrop, readQuotedParams_flatMap hquotable.keys hquotable.values hcount]
    exact congrArg (fun found ↦ match found with
      | some value => HeaderParam.text value
      | none => HeaderParam.missing) (lookup_map_toList params key)

theorem quotedMessage_faultless : Faultless quotedMessage := fun value _ e _ ↦ by
  cases e with
  | parse message => exact ⟨message, rfl⟩
  | fault e => exact e.elim

/-- A form with a file of one byte. -/
def shortForm (filename : List Char) : UploadForm where
  csrf := ['t']
  action := ['a']
  filename := filename
  mime := []
  content := [10]
  finalCrlf := true

def shortContentType : List Char := "multipart/form-data; boundary=b".toList

theorem shortContentType_boundary :
    contentTypeBoundary quotedMessage shortContentType = .ok [98] := by
  have hboundary : (contentTypeBoundary quotedMessage shortContentType).toOption = some [98] := by
    decide +kernel
  exact toOption_eq_some.mp hboundary

theorem shortForm_valid {c : Char} (h : c = 'e' ∨ c = 'é') : (shortForm [c]).Valid := by
  refine ⟨?_, ⟨List.cons_ne_nil _ _, List.forall_mem_singleton.mpr ?_⟩, List.not_mem_nil,
    ?_, ?_, ?_⟩
  · rcases h with rfl | rfl <;> decide +kernel
  · rcases h with rfl | rfl <;> decide
  · rcases h with rfl | rfl <;> decide +kernel
  · rcases h with rfl | rfl <;> decide +kernel
  · rcases h with rfl | rfl <;> decide +kernel

theorem upload_read_back_short :
    (RoundTrips quotedMessage shortContentType [98] (shortForm ['e']) ↔ Survives ['e']) ∧
      ∀ reads contentLength, Settles
        (parseMaterialUpload quotedMessage reads shortContentType contentLength) reads
        contentLength :=
  have h := upload_read_back shortContentType_boundary quotedMessage_returnsQuoted
  ⟨h.1 _ (shortForm_valid (.inl rfl)), h.2.mpr quotedMessage_faultless⟩

/-- A file name with an accent is not read back. -/
theorem accent_not_read_back :
    ¬ ∀ form : UploadForm, form.Valid →
      RoundTrips quotedMessage shortContentType [98] form := fun h ↦ by
  have hvalid := shortForm_valid (.inr rfl)
  have hkept := (roundTrips_iff shortContentType_boundary quotedMessage_returnsQuoted hvalid).mp
    (h _ hvalid)
  exact absurd hkept (by decide +kernel)

end N0te.Uploads
