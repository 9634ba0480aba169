import N0te.Uploads.Multipart

/-!
# The upload form

The body that a browser sends for the form, in UTF-8 with the double quotes of the file name as
`%22`, is parsed to its tokens, to the file name that `get_filename` makes of the latin-1 reading of
its bytes, and to the file (`parseSpool_body`). That file name is the one of the form exactly if it
survives (`readName_eq_iff`).
-/

set_option autoImplicit false
set_option relaxedAutoImplicit false

namespace N0te.Uploads

open Library

variable {φ : Type}

/-! ### Headers that are sent -/

/-- A character that a quoted parameter may hold. -/
def Unquoted (c : Char) : Prop := c ≠ '"' ∧ c ≠ '\\' ∧ 32 ≤ c.toNat ∧ c.toNat ≠ 127

instance : DecidablePred Unquoted := fun _ ↦ inferInstanceAs (Decidable (_ ∧ _))

/-- `; name="…"`. -/
def quotedParam (param : String × List Char) : List Char :=
  ';' :: ' ' :: (param.1.toList ++ '=' :: '"' :: (param.2 ++ ['"']))

/-- `form-data; name="…"; filename="…"`. -/
def quotedDisposition (params : List (String × List Char)) : List Char :=
  "form-data".toList ++ params.flatMap quotedParam

/-- Parameters of a form that can be quoted. -/
structure Quotable (params : List (String × List Char)) : Prop where
  /-- Each is given once. -/
  distinct : (params.map Prod.fst).Nodup
  /-- They are a name and a file name. -/
  keys : ∀ param ∈ params, param.1 = "name" ∨ param.1 = "filename"
  /-- Their characters. -/
  values : ∀ param ∈ params, ∀ c ∈ param.2, Unquoted c

/-- `Message` returns quoted parameters unchanged. -/
structure ReturnsQuoted (message : MessageClass φ) : Prop where
  contentDisposition : ∀ params, Quotable params →
    message.contentDisposition (quotedDisposition params) = .ok "form-data".toList
  param : ∀ params key, Quotable params → (key = "name" ∨ key = "filename") →
    message.param (quotedDisposition params) key =
      .ok (match params.lookup key with
        | some value => .text value
        | none => .missing)

/-- The header line of a part. -/
def dispositionLine (params : List (String × List Char)) : List UInt8 :=
  encodeUtf8 ("Content-Disposition: ".toList ++ quotedDisposition params)

/-- What is sent of a file name: its double quotes are escaped. -/
def escapeQuotes (filename : List Char) : List Char :=
  filename.flatMap fun c ↦ if c = '"' then ['%', '2', '2'] else [c]

/-- The form that is filled in. -/
structure UploadForm where
  csrf : List Char
  action : List Char
  filename : List Char
  /-- The content type of the file part. -/
  mime : List UInt8
  content : List UInt8
  /-- Whether a line end follows the final boundary. -/
  finalCrlf : Bool

/-- A token with its part headers. -/
def tokenPart (name : String) (token : List Char) : List UInt8 :=
  dispositionLine [("name", name.toList)] ++ crlf ++ crlf ++ encodeUtf8 token ++ crlf

namespace UploadForm

variable (form : UploadForm)

/-- The header line of the file part. -/
def fileLine : List UInt8 :=
  dispositionLine [("name", "material".toList), ("filename", escapeQuotes form.filename)]

/-- The content type line of the file part. -/
def typeLine : List UInt8 := encodeUtf8 "Content-Type".toList ++ 58 :: form.mime

/-- The final boundary. -/
def trailer (boundary : List UInt8) : List UInt8 :=
  crlf ++ dashes ++ boundary ++ dashes ++ if form.finalCrlf then crlf else []

/-- The headers of the file part. -/
def fileHeaders : List UInt8 := form.fileLine ++ crlf ++ form.typeLine ++ crlf ++ crlf

def body (boundary : List UInt8) : List UInt8 :=
  let line := dashes ++ boundary ++ crlf
  line ++ tokenPart "csrf" form.csrf ++ line ++ tokenPart "action" form.action ++ line ++
    form.fileHeaders ++ form.content ++ form.trailer boundary

/-- A form within the limits. -/
structure Valid : Prop where
  tokens : ∀ token ∈ [form.csrf, form.action], token ≠ [] ∧ '\r' ∉ token ∧ '\n' ∉ token ∧
    (encodeUtf8 token).length ≤ maxTokenBytes
  /-- The file name. -/
  filename : form.filename ≠ [] ∧ ∀ c ∈ form.filename, c = '"' ∨ Unquoted c
  /-- The content type is on one line. -/
  mime : (10 : UInt8) ∉ form.mime
  lines : form.fileLine.length + 2 ≤ maxHeaderLine ∧ form.typeLine.length + 2 ≤ maxHeaderLine
  headers : form.fileHeaders.length ≤ maxHeaderBlock
  /-- The file. -/
  content : 1 ≤ form.content.length ∧ form.content.length ≤ maxMaterialBytes

end UploadForm

/-! ### Lines and headers -/

theorem headerOf_bytes {name : List Char} (value : List UInt8)
    (hname : ∀ c ∈ name, IsAscii c ∧ c ≠ ':') :
    headerOf (encodeUtf8 name ++ 58 :: value ++ crlf) =
      (.ok ((stripChars name).map Char.toLower, stripChars (decodeLatin1 value)) :
        Uploaded φ (List Char × List Char)) := by
  have hcolon : ∀ byte ∈ encodeUtf8 name, (decide (byte ≠ 58)) = true := fun byte hbyte ↦ by
    refine decide_eq_true fun heq ↦ ?_
    subst heq
    exact (hname _ (mem_of_mem_encodeUtf8 (by decide) hbyte)).2 rfl
  have htake : (encodeUtf8 name ++ 58 :: value).takeWhile (· ≠ 58) = encodeUtf8 name := by
    rw [List.takeWhile_append_of_pos hcolon, List.takeWhile_cons_of_neg (by simp), List.append_nil]
  have hascii : ∀ byte ∈ encodeUtf8 name, byte.toNat < 128 := fun byte hbyte ↦ by
    obtain ⟨c, hc, hmem⟩ := List.mem_flatMap.mp hbyte
    rw [utf8EncodeChar_of_ascii (hname c hc).1, List.mem_singleton] at hmem
    rw [hmem, UInt8.toNat_ofNat']
    exact Nat.lt_of_le_of_lt (Nat.mod_le _ _) (hname c hc).1
  have hdrop : (encodeUtf8 name ++ 58 :: value).drop ((encodeUtf8 name).length + 1) = value := by
    rw [List.drop_append, List.drop_eq_nil_of_le (Nat.le_succ _), List.nil_append,
      Nat.add_sub_cancel_left, List.drop_one, List.tail_cons]
  simp only [headerOf, bind_eq_ok, require_eq_ok, exists_const, withoutCrlf_append, htake, hdrop,
    endsCrlf_append, true_and, pure_eq_ok, decodeLatin1_encodeUtf8 fun c hc ↦ (hname c hc).1,
    and_true]
  exact ⟨by simp, List.all_eq_true.mpr fun byte hbyte ↦ decide_eq_true (hascii byte hbyte)⟩

theorem readHeaders_line {consumed : ℕ} {headers : Headers} {line : List UInt8} (rest : List UInt8)
    {name value : List Char} (hline : (10 : UInt8) ∉ line) (hne : line ≠ [])
    (hlength : line.length + 2 ≤ maxHeaderLine)
    (hblock : consumed + (line.length + 2) ≤ maxHeaderBlock)
    (hheader : headerOf (line ++ crlf) = (.ok (name, value) : Uploaded φ (List Char × List Char)))
    (hname : name ≠ []) (hnew : name ∉ headers.map Prod.fst) :
    readHeaders consumed headers (line ++ crlf ++ rest) =
      (readHeaders (consumed + (line.length + 2)) (headers ++ [(name, value)]) rest :
        Uploaded φ (Headers × List UInt8)) := by
  have hlimit : line.length + 2 ≤ maxHeaderLine + 1 := Nat.le_succ_of_le hlength
  have hread := readline_crlf rest hline hlimit
  have hfull : (line ++ crlf).length = line.length + 2 := List.length_append
  have hnonempty : line ++ crlf ≠ [] := List.append_ne_nil_of_right_ne_nil _ (List.cons_ne_nil _ _)
  have hcrlf : line ++ crlf ≠ crlf := fun h ↦ hne (List.append_left_eq_self.mp h)
  rw [readHeaders, hread]
  dsimp only
  rw [dif_neg hnonempty, if_neg (by omega), if_neg hcrlf, hheader, hfull]
  show (require _ _ >>= fun _ ↦ readHeaders _ _ _) = _
  rw [require, if_pos ⟨hname, hnew⟩]
  rfl

theorem readHeaders_end {consumed : ℕ} {headers : Headers} (rest : List UInt8)
    (hblock : consumed + 2 ≤ maxHeaderBlock) :
    readHeaders consumed headers (crlf ++ rest) =
      (.ok (headers, rest) : Uploaded φ (Headers × List UInt8)) := by
  have hlimit : ([] : List UInt8).length + 2 ≤ maxHeaderLine + 1 := by decide
  have hread := readline_crlf rest List.not_mem_nil hlimit
  rw [List.nil_append] at hread
  have hlimits : ¬ (maxHeaderLine < crlf.length ∨ maxHeaderBlock < consumed + crlf.length) := by
    show ¬ (8192 < 2 ∨ maxHeaderBlock < consumed + 2)
    omega
  rw [readHeaders, hread]
  dsimp only
  rw [dif_neg (show crlf ≠ [] from List.cons_ne_nil _ _), if_neg hlimits, if_pos rfl]

/-! ### What is read of a header that is sent -/

/-- The latin-1 reading of a text that is sent in UTF-8. -/
def readBack (text : List Char) : List Char := decodeLatin1 (encodeUtf8 text)

theorem readBack_append (first second : List Char) :
    readBack (first ++ second) = readBack first ++ readBack second := by
  rw [readBack, encodeUtf8_append, decodeLatin1_append]
  rfl

theorem readBack_ascii {text : List Char} (h : ∀ c ∈ text, IsAscii c) : readBack text = text :=
  decodeLatin1_encodeUtf8 h

theorem readBack_cons {c : Char} (hc : IsAscii c) (rest : List Char) :
    readBack (c :: rest) = c :: readBack rest := by
  rw [← List.singleton_append, readBack_append, readBack_ascii (List.forall_mem_singleton.mpr hc),
    List.singleton_append]

def readParams (params : List (String × List Char)) : List (String × List Char) :=
  params.map fun param ↦ (param.1, readBack param.2)

theorem ascii_key {key : String} (h : key = "name" ∨ key = "filename") :
    ∀ c ∈ key.toList, IsAscii c := by
  rcases h with rfl | rfl <;> exact forall_of_all (by decide)

theorem readBack_quotedParam {param : String × List Char}
    (hkey : param.1 = "name" ∨ param.1 = "filename") :
    readBack (quotedParam param) = quotedParam (param.1, readBack param.2) := by
  have hname := readBack_ascii (ascii_key hkey)
  have hsemicolon : IsAscii ';' := by decide
  have hspace : IsAscii ' ' := by decide
  have hequals : IsAscii '=' := by decide
  have hquote : IsAscii '"' := by decide
  rw [quotedParam, readBack_cons hsemicolon, readBack_cons hspace, readBack_append, hname,
    readBack_cons hequals, readBack_cons hquote, readBack_append,
    readBack_ascii (List.forall_mem_singleton.mpr hquote)]
  rfl

theorem readBack_quotedDisposition {params : List (String × List Char)}
    (hkeys : ∀ param ∈ params, param.1 = "name" ∨ param.1 = "filename") :
    readBack (quotedDisposition params) = quotedDisposition (readParams params) := by
  have hparams : readBack (params.flatMap quotedParam) =
      (readParams params).flatMap quotedParam := by
    induction params with
    | nil => rfl
    | cons param rest ih =>
      obtain ⟨hkey, hrest⟩ := List.forall_mem_cons.mp hkeys
      rw [List.flatMap_cons, readBack_append, ih hrest, readBack_quotedParam hkey]
      rfl
  have hform : ∀ c ∈ "form-data".toList, IsAscii c := forall_of_all (by decide)
  unfold quotedDisposition
  rw [readBack_append, hparams, readBack_ascii hform]

/-- The characters of what is read are those that were sent and others than ASCII. -/
theorem mem_readBack {text : List Char} {c : Char} (h : c ∈ readBack text) :
    c ∈ text ∨ ¬ IsAscii c := by
  obtain ⟨byte, hbyte, rfl⟩ := List.mem_map.mp h
  by_cases hascii : byte.toNat < 128
  · exact .inl (mem_of_mem_encodeUtf8 hascii hbyte)
  · refine .inr ?_
    unfold IsAscii
    rw [toNat_ofNat_of_lt byte.toNat_lt]
    exact hascii

theorem unquoted_of_not_ascii {c : Char} (h : ¬ IsAscii c) : Unquoted c := by
  unfold IsAscii at h
  refine ⟨?_, ?_, by omega, by omega⟩
  · rintro rfl
    exact h (by decide)
  · rintro rfl
    exact h (by decide)

theorem Quotable.read {params : List (String × List Char)} (h : Quotable params) :
    Quotable (readParams params) := by
  refine ⟨?_, fun param hparam ↦ ?_, fun param hparam c hc ↦ ?_⟩
  · rw [readParams, List.map_map]
    exact h.distinct
  · obtain ⟨sent, hsent, rfl⟩ := List.mem_map.mp hparam
    exact h.keys sent hsent
  · obtain ⟨sent, hsent, rfl⟩ := List.mem_map.mp hparam
    rcases mem_readBack hc with hmem | hascii
    · exact h.values sent hsent c hmem
    · exact unquoted_of_not_ascii hascii

/-- A text between two characters that are no spaces is stripped of a space before it. -/
theorem stripChars_space {first last : Char} {middle : List Char} (hfirst : isSpace first = false)
    (hlast : isSpace last = false) :
    stripChars (' ' :: first :: middle ++ [last]) = first :: middle ++ [last] := by
  rw [List.cons_append, List.cons_append, stripChars, List.dropWhile_cons_of_pos (by decide),
    List.dropWhile_cons_of_neg (by simp [hfirst]), ← List.cons_append, List.rdropWhile_concat_neg]
  simp [hlast]

/-- A header value of a part is stripped of the space before it. -/
theorem stripChars_disposition {params : List (String × List Char)} (hne : params ≠ []) :
    stripChars (' ' :: quotedDisposition params) = quotedDisposition params := by
  obtain ⟨front, param, rfl⟩ := (List.eq_nil_or_concat params).resolve_left hne
  have hshape : quotedDisposition (front ++ [param]) =
      'f' :: ("orm-data".toList ++ front.flatMap quotedParam ++
        ';' :: ' ' :: (param.1.toList ++ '=' :: '"' :: param.2)) ++ ['"'] := by
    unfold quotedDisposition
    rw [List.flatMap_append, List.flatMap_singleton, quotedParam,
      show "form-data".toList = 'f' :: "orm-data".toList by decide]
    simp only [List.cons_append, List.append_assoc]
  rw [List.concat_eq_append, hshape]
  exact stripChars_space (by decide) (by decide)

theorem not_mem_encodeUtf8 {text : List Char} {byte : UInt8} (hascii : byte.toNat < 128)
    (h : Char.ofNat byte.toNat ∉ text) : byte ∉ encodeUtf8 text :=
  fun hmem ↦ h (mem_of_mem_encodeUtf8 hascii hmem)

/-- The header of a part is read. -/
theorem headerOf_dispositionLine {params : List (String × List Char)} (hne : params ≠ [])
    (hkeys : ∀ param ∈ params, param.1 = "name" ∨ param.1 = "filename") :
    headerOf (dispositionLine params ++ crlf) =
      (.ok ("content-disposition".toList, quotedDisposition (readParams params)) :
        Uploaded φ (List Char × List Char)) := by
  have hname : ∀ c ∈ "Content-Disposition".toList, IsAscii c ∧ c ≠ ':' := forall_of_all (by decide)
  have hlower : (stripChars "Content-Disposition".toList).map Char.toLower =
      "content-disposition".toList := by decide
  have hsplit : dispositionLine params = encodeUtf8 "Content-Disposition".toList ++
      58 :: encodeUtf8 (' ' :: quotedDisposition params) := by
    have hbegin : "Content-Disposition: ".toList =
        "Content-Disposition".toList ++ [':', ' '] := by decide
    unfold dispositionLine
    rw [hbegin, encodeUtf8_append, encodeUtf8_append, List.append_assoc]
    rfl
  have hspace : IsAscii ' ' := by decide
  have hvalue : decodeLatin1 (encodeUtf8 (' ' :: quotedDisposition params)) =
      ' ' :: quotedDisposition (readParams params) := by
    rw [← readBack_quotedDisposition hkeys]
    exact readBack_cons hspace _
  have hread : readParams params ≠ [] := fun h ↦ hne (List.map_eq_nil_iff.mp h)
  rw [hsplit, headerOf_bytes _ hname, hvalue, stripChars_disposition hread, hlower]

/-- The header of a part is one line. -/
theorem not_mem_dispositionLine {params : List (String × List Char)} (h : Quotable params) :
    (10 : UInt8) ∉ dispositionLine params := by
  refine not_mem_encodeUtf8 (by decide) fun hmem ↦ ?_
  have hbegin : Char.ofNat (10 : UInt8).toNat ∉ "Content-Disposition: ".toList := by decide
  have hform : Char.ofNat (10 : UInt8).toNat ∉ "form-data".toList := by decide
  have hparam := (List.mem_append.mp ((List.mem_append.mp hmem).resolve_left hbegin)).resolve_left
    hform
  obtain ⟨param, hparam, hchar⟩ := List.mem_flatMap.mp hparam
  have hkey : Char.ofNat (10 : UInt8).toNat ∉ param.1.toList := by
    rcases h.keys param hparam with hname | hname <;> rw [hname] <;> decide
  have hvalue : Char.ofNat (10 : UInt8).toNat ∉ param.2 := fun hmem ↦
    absurd (h.values param hparam _ hmem).2.2.1 (by decide)
  have hothers : Char.ofNat (10 : UInt8).toNat ∉ [';', ' ', '=', '"'] := by decide
  simp only [quotedParam, List.mem_cons, List.mem_append, List.not_mem_nil, or_false, hkey,
    hvalue, false_or] at hchar hothers
  tauto

/-- What is made of the disposition of a part. -/
theorem dispositionOf_quoted {message : MessageClass φ} (hquoted : ReturnsQuoted message)
    {params : List (String × List Char)} (h : Quotable params) {name : List Char}
    (hlookup : params.lookup "name" = some name) (hne : name ≠ []) :
    dispositionOf message (quotedDisposition params) =
      .ok (name, (params.lookup "filename").map fun filename ↦ stripChars (unquote filename)) := by
  have hfilename : getFilename message (quotedDisposition params) =
      .ok ((params.lookup "filename").map fun filename ↦ stripChars (unquote filename)) := by
    rw [getFilename, hquoted.param params _ h (.inr rfl)]
    cases params.lookup "filename" with
    | none => rfl
    | some filename => rfl
  rw [dispositionOf, hquoted.contentDisposition params h, hquoted.param params _ h (.inl rfl),
    hlookup, hfilename]
  simp only [ofMessage, Except.mapError, bind_eq_ok, require_eq_ok, exists_const, true_and,
    Except.ok.injEq, exists_eq_left', pure_eq_ok, and_true]
  exact hne

/-! ### The parts -/

theorem quotable_name {name : List Char} (h : ∀ c ∈ name, Unquoted c) :
    Quotable [("name", name)] :=
  ⟨List.pairwise_singleton _ _, List.forall_mem_singleton.mpr (.inl rfl),
    List.forall_mem_singleton.mpr h⟩

/-- The lines of a part are read. -/
theorem readHeaders_part {params : List (String × List Char)} (rest : List UInt8)
    (h : Quotable params) (hne : params ≠ [])
    (hlength : (dispositionLine params).length + 2 ≤ maxHeaderLine) :
    readHeaders 0 [] (dispositionLine params ++ crlf ++ rest) =
      (readHeaders ((dispositionLine params).length + 2)
        [("content-disposition".toList, quotedDisposition (readParams params))] rest :
          Uploaded φ (Headers × List UInt8)) := by
  have hline : dispositionLine params ≠ [] := by
    unfold dispositionLine
    rw [show "Content-Disposition: ".toList = 'C' :: "ontent-Disposition: ".toList by decide]
    exact List.cons_ne_nil _ _
  have hblock : 0 + ((dispositionLine params).length + 2) ≤ maxHeaderBlock := by
    rw [Nat.zero_add]
    exact Nat.le_trans hlength (by decide)
  have hname : "content-disposition".toList ≠ [] := by decide
  rw [readHeaders_line rest (not_mem_dispositionLine h) hline hlength hblock
    (headerOf_dispositionLine hne h.keys) hname List.not_mem_nil, Nat.zero_add, List.nil_append]

theorem length_tokenLine_le {name : String} (h : name = "csrf" ∨ name = "action") :
    (dispositionLine [("name", name.toList)]).length + 2 ≤ maxHeaderLine := by
  rcases h with rfl | rfl <;> decide +kernel

theorem readTokenPart_tokenPart {message : MessageClass φ} (hquoted : ReturnsQuoted message)
    {name : String} (hname : name = "csrf" ∨ name = "action") {token : List Char}
    (hne : token ≠ []) (hline : '\n' ∉ token) (hlength : (encodeUtf8 token).length ≤ maxTokenBytes)
    {line : List UInt8} (hboundary : (10 : UInt8) ∉ line) (rest : List UInt8) :
    readTokenPart message name (line ++ crlf) (tokenPart name token ++ (line ++ crlf) ++ rest) =
      .ok (token, rest) := by
  have hchars : ∀ c ∈ name.toList, Unquoted c ∧ IsAscii c := by
    rcases hname with rfl | rfl <;> exact forall_of_all (by decide)
  have hquotable := quotable_name fun c hc ↦ (hchars c hc).1
  have hread : readParams [("name", name.toList)] = [("name", name.toList)] := by
    rw [readParams, List.map_singleton, readBack_ascii fun c hc ↦ (hchars c hc).2]
  have hshort := length_tokenLine_le hname
  have hsplit : tokenPart name token ++ (line ++ crlf) ++ rest =
      dispositionLine [("name", name.toList)] ++ crlf ++
        (crlf ++ (encodeUtf8 token ++ crlf ++ (line ++ crlf ++ rest))) := by
    simp only [tokenPart, List.append_assoc]
  have hblock : (dispositionLine [("name", name.toList)]).length + 2 + 2 ≤ maxHeaderBlock :=
    Nat.le_trans (Nat.add_le_add_right hshort 2) (by decide)
  have hheaders := (readHeaders_part (φ := φ) _ hquotable (List.cons_ne_nil _ _) hshort).trans
    (readHeaders_end (encodeUtf8 token ++ crlf ++ (line ++ crlf ++ rest)) hblock)
  have hdisposition : disposition message
      [("content-disposition".toList, quotedDisposition [("name", name.toList)])] =
        .ok (name.toList, none) := by
    have hnonempty : name.toList ≠ [] := by
      rcases hname with rfl | rfl <;> decide
    have hlookup : [("name", name.toList)].lookup "name" = some name.toList := rfl
    rw [disposition, List.lookup_cons_self]
    exact dispositionOf_quoted hquoted hquotable hlookup hnonempty
  have htoken := readline_crlf (line ++ crlf ++ rest)
    (not_mem_encodeUtf8 (by decide) hline) (Nat.add_le_add hlength (Nat.le_succ 2))
  have hnext : readline ((line ++ crlf).length + 2) (line ++ crlf ++ rest) =
      (line ++ crlf, rest) :=
    readline_crlf rest hboundary (by rw [List.length_append]; exact Nat.le_add_right _ _)
  have hfull : (encodeUtf8 token ++ crlf).length ≤ maxTokenBytes + 2 := by
    rw [List.length_append]
    exact Nat.add_le_add_right hlength 2
  rw [hsplit, readTokenPart, hheaders, hread]
  simp only [bind_eq_ok, Except.ok.injEq, exists_eq_left', require_eq_ok, exists_const,
    List.map_singleton, true_and, hdisposition, htoken, endsCrlf_append, hfull, withoutCrlf_append,
    decodeUtf8_encodeUtf8, orRaise_eq_ok, Option.some.injEq, hnext, pure_eq_ok, and_true]
  exact hne

/-! ### The end of the file -/

/-- A read at the end that finds some bytes. -/
theorem readAt_end_iff {file back : List UInt8} :
    back.length ≤ file.length ∧ readAt file (file.length - back.length) back.length = back ↔
      back <:+ file := by
  constructor
  · rintro ⟨-, hread⟩
    rw [← hread, readAt]
    have hlength : (file.drop (file.length - back.length)).length ≤ back.length := by
      rw [List.length_drop]
      omega
    rw [List.take_of_length_le hlength]
    exact List.drop_suffix _ _
  · intro h
    refine ⟨h.length_le, ?_⟩
    rw [readAt, ← List.suffix_iff_eq_drop.mp h, List.take_length]

theorem getLast?_append_of_ne_nil {front back : List UInt8} (h : back ≠ []) :
    (front ++ back).getLast? = back.getLast? := by
  rw [List.getLast?_append, List.getLast?_eq_some_getLast h, Option.some_or]

/-- The trailer is found at the end of any body. -/
theorem trailerLength_append (boundary front : List UInt8) (finalCrlf : Bool) :
    trailerLength boundary
        (front ++ (crlf ++ dashes ++ boundary ++ dashes ++ if finalCrlf then crlf else [])) =
      some (crlf ++ dashes ++ boundary ++ dashes ++ if finalCrlf then crlf else []).length := by
  have hlong : crlf ++ dashes ++ boundary ++ dashes ++ crlf <:+
      front ++ (crlf ++ dashes ++ boundary ++ dashes ++ if finalCrlf then crlf else []) ↔
        finalCrlf = true := by
    cases finalCrlf with
    | true => exact iff_of_true (List.suffix_append _ _) rfl
    | false =>
      -- Such a body ends with a dash.
      refine iff_of_false (fun ⟨before, hbody⟩ ↦ ?_) Bool.false_ne_true
      rw [if_neg Bool.false_ne_true, List.append_nil, ← List.append_assoc before,
        ← List.append_assoc front] at hbody
      have hlast := congrArg List.getLast? hbody
      have hcrlf : crlf ≠ [] := List.cons_ne_nil _ _
      have hdashes : dashes ≠ [] := List.cons_ne_nil _ _
      rw [getLast?_append_of_ne_nil hcrlf, getLast?_append_of_ne_nil hdashes] at hlast
      exact absurd hlast (by decide)
  have hshort : crlf ++ dashes ++ boundary ++ dashes <:+
      front ++ (crlf ++ dashes ++ boundary ++ dashes ++ if false then crlf else []) := by
    rw [if_neg Bool.false_ne_true, List.append_nil]
    exact List.suffix_append _ _
  rw [trailerLength, List.findSome?_cons, List.findSome?_cons]
  simp only [readAt_end_iff, hlong]
  cases finalCrlf with
  | true => rfl
  | false =>
    rw [if_neg Bool.false_ne_true, if_pos hshort]
    exact congrArg (fun trailer : List UInt8 ↦ some trailer.length) (List.append_nil _).symm

/-! ### The body -/

namespace UploadForm

variable (form : UploadForm)

/-- The file name that is read. -/
def readName : List Char := stripChars (unquote (readBack (escapeQuotes form.filename)))

/-- What is in front of the file. -/
def head (boundary : List UInt8) : List UInt8 :=
  let line := dashes ++ boundary ++ crlf
  line ++ tokenPart "csrf" form.csrf ++ line ++ tokenPart "action" form.action ++ line ++
    form.fileHeaders

def parsed (boundary : List UInt8) : ParsedMaterialUpload :=
  ⟨form.csrf, form.action, form.readName, form.content.length, form.body boundary,
    (form.head boundary).length⟩

end UploadForm

theorem unquoted_escapeQuotes {filename : List Char} (h : ∀ c ∈ filename, c = '"' ∨ Unquoted c) :
    ∀ c ∈ escapeQuotes filename, Unquoted c := fun c hc ↦ by
  obtain ⟨d, hd, hmem⟩ := List.mem_flatMap.mp hc
  by_cases hquote : d = '"'
  · have hescaped : ∀ e ∈ ['%', '2', '2'], Unquoted e := forall_of_all (by decide)
    rw [if_pos hquote] at hmem
    exact hescaped c hmem
  · rw [if_neg hquote, List.mem_singleton] at hmem
    subst hmem
    exact (h c hd).resolve_left hquote

section

variable {message : MessageClass φ} (hquoted : ReturnsQuoted message) {form : UploadForm}
  (hvalid : form.Valid)
include hvalid

theorem quotable_file :
    Quotable [("name", "material".toList), ("filename", escapeQuotes form.filename)] := by
  have hmaterial : ∀ c ∈ "material".toList, Unquoted c := forall_of_all (by decide)
  have hdistinct : ["name", "filename"].Nodup := by decide
  refine ⟨hdistinct, ?_, ?_⟩
  · exact List.forall_mem_cons.mpr ⟨.inl rfl, List.forall_mem_singleton.mpr (.inr rfl)⟩
  · exact List.forall_mem_cons.mpr ⟨hmaterial, List.forall_mem_singleton.mpr
      (unquoted_escapeQuotes hvalid.filename.2)⟩

theorem readHeaders_file (rest : List UInt8) :
    readHeaders 0 [] (form.fileHeaders ++ rest) =
      (.ok ([("content-disposition".toList, quotedDisposition
          [("name", "material".toList), ("filename", readBack (escapeQuotes form.filename))]),
        ("content-type".toList, stripChars (decodeLatin1 form.mime))], rest) :
        Uploaded φ (Headers × List UInt8)) := by
  have hmaterial : ∀ c ∈ "material".toList, IsAscii c := forall_of_all (by decide)
  have hread : readParams [("name", "material".toList), ("filename", escapeQuotes form.filename)] =
      [("name", "material".toList), ("filename", readBack (escapeQuotes form.filename))] := by
    rw [readParams, List.map_cons, List.map_singleton, readBack_ascii hmaterial]
  have hchars : ∀ c ∈ "Content-Type".toList, IsAscii c ∧ c ≠ ':' := forall_of_all (by decide)
  have hlower : (stripChars "Content-Type".toList).map Char.toLower = "content-type".toList := by
    decide
  have hheader := headerOf_bytes (φ := φ) form.mime hchars
  rw [hlower] at hheader
  have htype : (10 : UInt8) ∉ form.typeLine := by
    have hname : (10 : UInt8) ∉ encodeUtf8 "Content-Type".toList :=
      not_mem_encodeUtf8 (by decide) (by decide)
    unfold UploadForm.typeLine
    rw [List.mem_append, List.mem_cons]
    rintro (h | h | h)
    · exact hname h
    · exact absurd h (by decide)
    · exact hvalid.mime h
  have hblock : form.fileLine.length + 2 + (form.typeLine.length + 2) + 2 ≤ maxHeaderBlock := by
    have hheaders := hvalid.headers
    simp only [UploadForm.fileHeaders, List.length_append, show crlf.length = 2 from rfl]
      at hheaders
    omega
  have hsplit : form.fileHeaders ++ rest =
      form.fileLine ++ crlf ++ (form.typeLine ++ crlf ++ (crlf ++ rest)) := by
    simp only [UploadForm.fileHeaders, List.append_assoc]
  have hne : form.typeLine ≠ [] := List.append_ne_nil_of_right_ne_nil _ (List.cons_ne_nil _ _)
  have hfirst := readHeaders_part (φ := φ) (form.typeLine ++ crlf ++ (crlf ++ rest))
    (quotable_file hvalid) (List.cons_ne_nil _ _) hvalid.lines.1
  rw [hread] at hfirst
  refine (congrArg (readHeaders 0 []) hsplit).trans (hfirst.trans ?_)
  have hnew (value : List Char) :
      "content-type".toList ∉ [("content-disposition".toList, value)].map Prod.fst := by
    have hother : "content-type".toList ∉ ["content-disposition".toList] := by decide
    exact hother
  rw [← UploadForm.fileLine, readHeaders_line _ htype hne hvalid.lines.2
    (Nat.le_trans (Nat.le_add_right _ 2) hblock) hheader (by decide) (hnew _),
    readHeaders_end _ hblock]
  rfl

include hquoted

theorem disposition_file :
    disposition message [("content-disposition".toList, quotedDisposition
        [("name", "material".toList), ("filename", readBack (escapeQuotes form.filename))]),
      ("content-type".toList, stripChars (decodeLatin1 form.mime))] =
        .ok ("material".toList, some form.readName) := by
  have hmaterial : ∀ c ∈ "material".toList, IsAscii c := forall_of_all (by decide)
  have hquotable := (quotable_file hvalid).read
  rw [readParams, List.map_cons, List.map_singleton, readBack_ascii hmaterial] at hquotable
  have hne : "material".toList ≠ [] := by decide
  rw [disposition, List.lookup_cons_self]
  exact dispositionOf_quoted hquoted hquotable rfl hne

/-- The body of a form is parsed, unless nothing is read of its file name. -/
theorem parseSpool_body {boundary : List UInt8} (hboundary : (10 : UInt8) ∉ boundary)
    {parsed : ParsedMaterialUpload} :
    parseSpool message boundary (form.body boundary) = .ok parsed ↔
      form.readName ≠ [] ∧ form.parsed boundary = parsed := by
  have hline : (10 : UInt8) ∉ dashes ++ boundary := by
    rw [List.mem_append]
    rintro (h | h)
    · exact absurd h (by decide)
    · exact hboundary h
  have hcsrf := hvalid.tokens form.csrf (List.mem_cons_self ..)
  have haction := hvalid.tokens form.action (List.mem_cons_of_mem _ (List.mem_singleton_self _))
  have hbody : form.body boundary = dashes ++ boundary ++ crlf ++
      (tokenPart "csrf" form.csrf ++ (dashes ++ boundary ++ crlf) ++
        (tokenPart "action" form.action ++ (dashes ++ boundary ++ crlf) ++
          (form.fileHeaders ++ (form.content ++ form.trailer boundary)))) := by
    simp only [UploadForm.body, List.append_assoc]
  have hend : form.body boundary = form.head boundary ++ form.content ++ form.trailer boundary := by
    simp only [UploadForm.body, UploadForm.head]
  have hlength : (form.body boundary).length =
      (form.head boundary).length + form.content.length + (form.trailer boundary).length := by
    rw [hend, List.length_append, List.length_append]
  have hopening : readline ((dashes ++ boundary ++ crlf).length + 2) (form.body boundary) =
      (dashes ++ boundary ++ crlf, tokenPart "csrf" form.csrf ++ (dashes ++ boundary ++ crlf) ++
        (tokenPart "action" form.action ++ (dashes ++ boundary ++ crlf) ++
          (form.fileHeaders ++ (form.content ++ form.trailer boundary)))) := by
    rw [hbody]
    refine readline_crlf _ hline ?_
    exact Nat.add_le_add_right (List.prefix_append _ crlf).length_le 2
  have htrailer : trailerLength boundary (form.body boundary) =
      some (form.trailer boundary).length := by
    rw [hend]
    exact trailerLength_append boundary _ form.finalCrlf
  have hstart : (form.body boundary).length - (form.content ++ form.trailer boundary).length =
      (form.head boundary).length := by
    rw [List.length_append]
    omega
  have hsize : (form.body boundary).length - (form.trailer boundary).length -
      (form.head boundary).length = form.content.length := by omega
  have hheaders (disposition type : List Char) :
      [("content-disposition".toList, disposition), ("content-type".toList, type)].all
        (fun header ↦ header.1 = "content-disposition".toList ∨
          header.1 = "content-type".toList) = true :=
    List.all_eq_true.mpr (List.forall_mem_cons.mpr ⟨decide_eq_true (.inl rfl),
      List.forall_mem_singleton.mpr (decide_eq_true (.inr rfl))⟩)
  have hpositive : (form.head boundary).length <
      (form.body boundary).length - (form.trailer boundary).length := by
    have hcontent := hvalid.content.1
    omega
  have hfirst := readTokenPart_tokenPart hquoted (.inl rfl) hcsrf.1 hcsrf.2.2.1 hcsrf.2.2.2 hline
  have hsecond :=
    readTokenPart_tokenPart hquoted (.inr rfl) haction.1 haction.2.2.1 haction.2.2.2 hline
  simp only [parseSpool, hopening, bind_eq_ok, require_eq_ok, exists_const, true_and, hfirst,
    hsecond, Except.ok.injEq, exists_eq_left', readHeaders_file hvalid,
    disposition_file hquoted hvalid, htrailer, orRaise_eq_ok, Option.some.injEq, hstart, hsize,
    pure_eq_ok]
  constructor
  · rintro ⟨-, name, hname, -, -, rfl⟩
    obtain ⟨hread, hne⟩ := Option.filter_eq_some_iff.mp hname
    cases hread
    exact ⟨of_decide_eq_true hne, rfl⟩
  · rintro ⟨hne, rfl⟩
    exact ⟨hheaders _ _, form.readName,
      Option.filter_eq_some_iff.mpr ⟨rfl, decide_eq_true hne⟩, hpositive, hvalid.content.2, rfl⟩

end

end N0te.Uploads
