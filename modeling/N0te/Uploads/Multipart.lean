import N0te.Library.ByteLines
import N0te.Library.Checking
import N0te.Library.Utf8

/-!
# Material uploads

`parse_material_upload` takes the body of a request from a stream into a spool, reads the two tokens
and the headers of the file part line by line, and finds the end of the file from the end of the
body. The spool is closed when anything raises.

Scope. What `email.message.Message` makes of a header is a parameter (`MessageClass`), with its
exceptions; `get_filename` and its `unquote` are modelled. A stream is the list of what its reads
return. The conversion of the content length is left out.
-/

set_option autoImplicit false
set_option relaxedAutoImplicit false

namespace N0te.Uploads

open Library

/-! ### Headers as `email.message` reads them -/

/-- What `get_param` returns. -/
inductive HeaderParam where
  | missing
  | text (value : List Char)
  | encoded (charset language value : List Char)
  deriving DecidableEq

/-- `Message` with one header, which may raise. -/
structure MessageClass (φ : Type) where
  /-- `get_content_type` of a content type. -/
  contentType : List Char → Except φ (List Char)
  /-- `get_param("boundary")` of a content type. -/
  boundary : List Char → Except φ HeaderParam
  /-- `get_content_disposition` of a content disposition. -/
  contentDisposition : List Char → Except φ (List Char)
  /-- `get_param` of a content disposition. -/
  param : List Char → String → Except φ HeaderParam
  /-- `collapse_rfc2231_value` of an encoded parameter. -/
  collapsed : List Char → List Char → List Char → Except φ (List Char)

/-- `replace` of an escaped character by itself. -/
def unescape (escaped : Char) : List Char → List Char
  | [] => []
  | [c] => [c]
  | c :: d :: rest =>
    if c = '\\' ∧ d = escaped then escaped :: unescape escaped rest
    else c :: unescape escaped (d :: rest)

/-- `email.utils.unquote`. -/
def unquote (value : List Char) : List Char :=
  if 1 < value.length ∧ value.head? = some '"' ∧ value.getLast? = some '"' then
    unescape '"' (unescape '\\' value.tail.dropLast)
  else if 1 < value.length ∧ value.head? = some '<' ∧ value.getLast? = some '>' then
    value.tail.dropLast
  else value

/-! ### Exceptions -/

/-- An exception of the parser. -/
inductive UploadRaised (φ : Type) where
  /-- `MaterialUploadParseError`. -/
  | parse (message : String)
  /-- An exception of `Message`. -/
  | fault (e : φ)

/-- A result or an exception. -/
abbrev Uploaded (φ α : Type) := Except (UploadRaised φ) α

variable {φ : Type}

/-- A `MaterialUploadParseError`. -/
def parseError {α : Type} (message : String) : Uploaded φ α := .error (.parse message)

/-- Go on unless `Message` raised. -/
def ofMessage {α : Type} (r : Except φ α) : Uploaded φ α := r.mapError .fault

/-! ### Limits -/

/-- `MAX_MATERIAL_BYTES`. -/
def maxMaterialBytes : ℕ := 256 * 1024 * 1024

/-- `MAX_UPLOAD_BODY_BYTES`. -/
def maxUploadBodyBytes : ℕ := maxMaterialBytes + 128 * 1024

/-- `_MAX_HEADER_LINE`. -/
def maxHeaderLine : ℕ := 8192

/-- `_MAX_HEADER_BLOCK`. -/
def maxHeaderBlock : ℕ := 16384

/-- `_MAX_TOKEN_BYTES`. -/
def maxTokenBytes : ℕ := 4096

/-! ### Headers -/

/-- The headers of a part, in their order. -/
abbrev Headers := List (List Char × List Char)

/-- A header line without its end: its name and its value. -/
def headerOf (line : List UInt8) : Uploaded φ (List Char × List Char) := do
  require (endsCrlf line = true ∧ (58 : UInt8) ∈ line)
    (.parse "multipart header line is malformed")
  let text := withoutCrlf line
  let name := text.takeWhile (· ≠ 58)
  require (name.all (·.toNat < 128) = true) (.parse "multipart header cannot be decoded")
  return ((stripChars (decodeLatin1 name)).map Char.toLower,
    stripChars (decodeLatin1 (text.drop (name.length + 1))))

/-- `_read_headers`, from the headers that were read on: the headers, and what is left. -/
def readHeaders (consumed : ℕ) (headers : Headers) (rest : List UInt8) :
    Uploaded φ (Headers × List UInt8) :=
  let line := (readline (maxHeaderLine + 1) rest).1
  if _ : line = [] then parseError "multipart headers ended unexpectedly"
  else if maxHeaderLine < line.length ∨ maxHeaderBlock < consumed + line.length then
    parseError "multipart headers are too large"
  else if line = crlf then .ok (headers, (readline (maxHeaderLine + 1) rest).2)
  else do
    let (name, value) ← headerOf line
    require (name ≠ [] ∧ name ∉ headers.map Prod.fst)
      (.parse "multipart header name is missing or duplicated")
    readHeaders (consumed + line.length) (headers ++ [(name, value)])
      (readline (maxHeaderLine + 1) rest).2
termination_by rest.length
decreasing_by exact length_readline_lt ‹_›

section

variable (message : MessageClass φ)

/-- `get_filename`. -/
def getFilename (value : List Char) : Uploaded φ (Option (List Char)) := do
  let param ← ofMessage (message.param value "filename")
  match param with
  | .missing => return none
  | .text filename => return some (stripChars (unquote filename))
  | .encoded charset language filename =>
    let collapsed ← ofMessage (message.collapsed charset language filename)
    return some (stripChars collapsed)

/-- The name and the file name of a content disposition. -/
def dispositionOf (value : List Char) : Uploaded φ (List Char × Option (List Char)) := do
  let disposition ← ofMessage (message.contentDisposition value)
  require (disposition = "form-data".toList) (.parse "multipart part is not form-data")
  let name ← ofMessage (message.param value "name")
  let filename ← getFilename message value
  match name with
  | .text name => do
    require (name ≠ []) (.parse "multipart form field name is missing")
    return (name, filename)
  | _ => parseError "multipart form field name is missing"

/-- `_disposition`. -/
def disposition (headers : Headers) : Uploaded φ (List Char × Option (List Char)) := do
  let value ← orRaise (headers.lookup "content-disposition".toList)
    (.parse "multipart part is missing Content-Disposition")
  dispositionOf message value

/-- `_read_token_part`: the token, and what is left. -/
def readTokenPart (expectedName : String) (boundaryLine rest : List UInt8) :
    Uploaded φ (List Char × List UInt8) := do
  let (headers, rest) ← readHeaders 0 [] rest
  require (headers.map Prod.fst = ["content-disposition".toList])
    (.parse "hidden multipart field has unexpected headers")
  let (name, filename) ← disposition message headers
  require (name = expectedName.toList ∧ filename = none)
    (.parse ("expected hidden multipart field " ++ expectedName))
  let (line, rest) := readline (maxTokenBytes + 3) rest
  require (endsCrlf line = true ∧ line.length ≤ maxTokenBytes + 2)
    (.parse "multipart authority token is malformed")
  let value ← orRaise (decodeUtf8 (withoutCrlf line))
    (.parse "multipart authority token is not UTF-8")
  require (value ≠ []) (.parse "multipart authority token is empty")
  let (line, rest) := readline (boundaryLine.length + 2) rest
  require (line = boundaryLine) (.parse "multipart field order/boundary is invalid")
  return (value, rest)

/-! ### The body -/

/-- `--`. -/
def dashes : List UInt8 := [45, 45]

/-- `_content_type_boundary`. -/
def contentTypeBoundary (contentType : List Char) : Uploaded φ (List UInt8) := do
  let type ← ofMessage (message.contentType contentType)
  require (type.map Char.toLower = "multipart/form-data".toList)
    (.parse "material upload requires multipart/form-data")
  let boundary ← ofMessage (message.boundary contentType)
  match boundary with
  | .text boundary => do
    require (boundary ≠ []) (.parse "multipart boundary is missing")
    require (boundary.length ≤ 70 ∧ '\r' ∉ boundary ∧ '\n' ∉ boundary)
      (.parse "multipart boundary is invalid")
    require (boundary.all (IsAscii ·) = true) (.parse "multipart boundary must be ASCII")
    require (boundary.all (fun c ↦ 33 ≤ c.toNat ∧ c.toNat ≤ 126) = true)
      (.parse "multipart boundary contains unsafe bytes")
    return encodeUtf8 boundary
  | _ => parseError "multipart boundary is missing"

/-- `ParsedMaterialUpload`, with the bytes of its spool. -/
structure ParsedMaterialUpload where
  csrf : List Char
  action : List Char
  filename : List Char
  sizeBytes : ℕ
  spool : List UInt8
  fileStart : ℕ

/-- The trailer that the body ends with. -/
def trailerLength (boundary spool : List UInt8) : Option ℕ :=
  [crlf ++ dashes ++ boundary ++ dashes ++ crlf, crlf ++ dashes ++ boundary ++ dashes].findSome?
    fun trailer ↦
      if trailer.length ≤ spool.length ∧
        readAt spool (spool.length - trailer.length) trailer.length = trailer then
        some trailer.length
      else none

/-- `parse_material_upload` once the body is in the spool. -/
def parseSpool (boundary spool : List UInt8) : Uploaded φ ParsedMaterialUpload := do
  let normalBoundary := dashes ++ boundary ++ crlf
  let (line, rest) := readline (normalBoundary.length + 2) spool
  require (line = normalBoundary) (.parse "multipart opening boundary is invalid")
  let (csrf, rest) ← readTokenPart message "csrf" normalBoundary rest
  let (action, rest) ← readTokenPart message "action" normalBoundary rest
  let (headers, rest) ← readHeaders 0 [] rest
  require (headers.all (fun header ↦
      header.1 = "content-disposition".toList ∨ header.1 = "content-type".toList) = true)
    (.parse "material part has unexpected headers")
  let (name, filename) ← disposition message headers
  let filename ← orRaise (filename.filter (· ≠ [])) (.parse "multipart material file is missing")
  require (name = "material".toList) (.parse "multipart material file is missing")
  let fileStart := spool.length - rest.length
  let trailer ← orRaise (trailerLength boundary spool)
    (.parse "multipart final boundary is invalid")
  let fileEnd := spool.length - trailer
  require (fileStart < fileEnd) (.parse "material file is empty")
  require (fileEnd - fileStart ≤ maxMaterialBytes)
    (.parse "material file exceeds the local ingest limit")
  return ⟨csrf, action, filename, fileEnd - fileStart, spool, fileStart⟩

end

/-! ### The stream -/

/-- What a read of the stream returns: bytes, or something else. -/
inductive StreamRead where
  | bytes (chunk : List UInt8)
  | other

/-- The loop that fills the spool: the spool, and the reads that were not made. -/
def readBody : ℕ → List UInt8 → List StreamRead → Uploaded φ (List UInt8 × List StreamRead)
  | 0, spool, unread => .ok (spool, unread)
  | _ + 1, _, [] => parseError "upload body ended before Content-Length"
  | _ + 1, _, .other :: _ => parseError "upload body ended before Content-Length"
  | remaining + 1, spool, .bytes chunk :: reads => do
    require (chunk ≠ []) (.parse "upload body ended before Content-Length")
    require (chunk.length ≤ min (64 * 1024) (remaining + 1))
      (.parse "upload stream returned more bytes than requested")
    readBody (remaining + 1 - chunk.length) (spool ++ chunk) reads

/-- How a call of the parser went. -/
structure UploadRun (φ : Type) where
  /-- What it returned, with the reads that were not made, or raised. -/
  result : Uploaded φ (ParsedMaterialUpload × List StreamRead)
  spoolClosed : Option Bool

/-- The checks before there is a spool: the boundary. -/
def uploadBoundary (message : MessageClass φ) (contentType : List Char) (contentLength : ℤ) :
    Uploaded φ (List UInt8) := do
  require (0 < contentLength ∧ contentLength ≤ maxUploadBodyBytes)
    (.parse "upload request size is outside the allowed bound")
  contentTypeBoundary message contentType

/-- `parse_material_upload`. -/
def parseMaterialUpload (message : MessageClass φ) (reads : List StreamRead)
    (contentType : List Char) (contentLength : ℤ) : UploadRun φ :=
  match uploadBoundary message contentType contentLength with
  | .error e => ⟨.error e, none⟩
  | .ok boundary =>
    let parsed : Uploaded φ (ParsedMaterialUpload × List StreamRead) := do
      let (spool, unread) ← readBody contentLength.toNat [] reads
      let parsed ← parseSpool message boundary spool
      return (parsed, unread)
    match parsed with
    | .ok result => ⟨.ok result, some false⟩
    | .error e => ⟨.error e, some true⟩

/-! ### The file -/

/-- `_SliceReader`. -/
structure SliceReader where
  stream : List UInt8
  start : ℕ
  length : ℕ
  offset : ℕ

/-- `file_stream`. -/
def ParsedMaterialUpload.fileStream (parsed : ParsedMaterialUpload) : SliceReader :=
  ⟨parsed.spool, parsed.fileStart, parsed.sizeBytes, 0⟩

/-- How many bytes a read wants of those that remain. -/
def wantedBytes (size : Option ℤ) (remaining : ℕ) : ℕ :=
  match size with
  | none => remaining
  | some n => if n < 0 then remaining else min n.toNat remaining

/-- `read`: the bytes, and the reader after it. -/
def SliceReader.read (reader : SliceReader) (size : Option ℤ) :
    Uploaded φ (List UInt8 × SliceReader) := do
  let remaining := reader.length - reader.offset
  if remaining = 0 then return ([], reader)
  else
    let wanted := wantedBytes size remaining
    let data := readAt reader.stream (reader.start + reader.offset) wanted
    require (data.length = wanted) (.parse "spooled upload ended before the file slice")
    return (data, { reader with offset := reader.offset + data.length })

/-- Reads of some sizes: what they return. -/
def SliceReader.reads (reader : SliceReader) : List (Option ℤ) → Uploaded φ (List (List UInt8))
  | [] => .ok []
  | size :: sizes => do
    let (data, after) ← reader.read size
    let rest ← after.reads sizes
    return data :: rest

end N0te.Uploads
