import N0te.Migration.SchemaProgram

/-!
# Schema states

What a migration reads of the database of a profile: its integrity, the metadata, the rows that make up
the identity of artists, songs, versions and assets, and the history of migrations. A `ProfileDb` is
what the queries answer, each of which may fail. `readState` digests the rows and the history, and with
no collisions among digests databases of one digest have the same rows (`rows_eq_of_state`) and the
same history (`history_eq_of_state`).
-/

set_option autoImplicit false
set_option relaxedAutoImplicit false

namespace N0te.Migration

open Library

variable {rt : Runtime}

/-! ### Conversions -/

/-- `MigrationValidationError`. -/
def validationError (message : String) : MigrationError := ⟨.migrationValidation, message⟩

/-- Digits with single underscores between them. -/
def readDigits (rt : Runtime) : Bool → List Char → Option (List ℕ)
  | needed, [] => if needed then none else some []
  | needed, c :: rest =>
    if c = '_' then
      if needed then none else readDigits rt true rest
    else do
      let digit ← rt.decimal c
      let digits ← readDigits rt false rest
      return digit :: digits

/-- The digits of a number of at most 4300, which is `sys.get_int_max_str_digits()`. -/
def readNatural (rt : Runtime) (l : List Char) : Option ℤ := do
  let digits ← readDigits rt true l
  if digits.length ≤ 4300 then some (digits.foldl (fun value digit ↦ 10 * value + digit) 0) else none

/-- `int` of the characters of a text. -/
def readInteger (rt : Runtime) (l : List Char) : Option ℤ :=
  match stripChars l with
  | '-' :: rest => (readNatural rt rest).map fun value ↦ -value
  | '+' :: rest => readNatural rt rest
  | rest => readNatural rt rest

/-- `int` of a value of SQLite. -/
def SqlValue.toInteger (rt : Runtime) : SqlValue → Except MigrationError ℤ
  | .null => throw ⟨.other, "int() argument must be a string, a bytes-like object or a real number"⟩
  | .integer n => return n
  | .real f =>
    if Json.finiteFloat f then return rt.truncate f
    else throw ⟨.other, "cannot convert float infinity to integer"⟩
  | .text s => orRaise (readInteger rt s.toList) ⟨.value, "invalid literal for int() with base 10"⟩
  | .blob bytes =>
    if bytes.all (· < 128) then
      orRaise (readInteger rt (bytes.map fun byte ↦ Char.ofNat byte.toNat))
        ⟨.value, "invalid literal for int() with base 10"⟩
    else throw ⟨.value, "invalid literal for int() with base 10"⟩

/-- The text of a byte in `repr`, within quotes of a kind. -/
def byteRepr (quote : Char) (byte : UInt8) : List Char :=
  let n := byte.toNat
  if n = 92 ∨ n = quote.toNat then ['\\', Char.ofNat n]
  else if n = 9 then ['\\', 't']
  else if n = 10 then ['\\', 'n']
  else if n = 13 then ['\\', 'r']
  else if 32 ≤ n ∧ n < 127 then [Char.ofNat n]
  else ['\\', 'x', hexDigit (n / 16), hexDigit (n % 16)]

/-- `repr` of some bytes. -/
def bytesRepr (bytes : List UInt8) : String :=
  let apostrophe := Char.ofNat 39
  let quote := if 39 ∈ bytes ∧ 34 ∉ bytes then '"' else apostrophe
  String.ofList ('b' :: quote :: bytes.flatMap (byteRepr quote) ++ [quote])

/-- `str` of a value of SQLite. -/
def SqlValue.str : SqlValue → String
  | .null => "None"
  | .integer n => toString n
  | .real f =>
    if Json.finiteFloat f then String.ofList f.chars
    else if f.chars.head? = some '-' then "-inf" else "inf"
  | .text s => s
  | .blob bytes => bytesRepr bytes

/-- A value of SQLite in a document that `_canonical_json` writes. -/
def SqlValue.json : SqlValue → Except MigrationError Json
  | .null => return .null
  | .integer n => return .int n
  | .real f =>
    if Json.finiteFloat f then return .float f
    else throw ⟨.value, "Out of range float values are not JSON compliant"⟩
  | .text s => return .str s
  | .blob _ => throw ⟨.other, "Object of type bytes is not JSON serializable"⟩

/-! ### Databases -/

/-- A row of some columns. -/
abbrev Row := List SqlValue

/-- What a query answers. -/
abbrev Query (α : Type) := Except MigrationError α

/-- A row of `application_schema_migrations`. -/
structure HistoryRow where
  sequence : SqlValue
  migrationId : SqlValue
  fromVersion : SqlValue
  toVersion : SqlValue
  stepFingerprint : SqlValue
  description : SqlValue

/-- The database of a profile, as the queries of a migration see it. -/
structure ProfileDb where
  /-- The first row of `PRAGMA quick_check`. -/
  quickCheck : Query (Option SqlValue)
  /-- The rows of `PRAGMA foreign_key_check`. -/
  foreignKeyCheck : Query (List Row)
  /-- The keys and values of the metadata that is asked for. -/
  metadata : Query (List (SqlValue × SqlValue))
  /-- `id`, `display_name`, by `id`. -/
  artists : Query (List Row)
  /-- `id`, `artist_id`, `title`, `current_version_id`, `approved_version_id`, by `id`. -/
  songs : Query (List Row)
  /-- `id`, `song_id`, `ordinal`, `label`, `parent_version_id`, by `id`. -/
  versions : Query (List Row)
  /-- `id`, `song_id`, `name`, `sha256`, `source_uri`, by `id`. -/
  assets : Query (List Row)
  /-- `version_id`, `asset_id`, `role`, by all of them. -/
  versionAssets : Query (List Row)
  /-- Whether there is a table `application_schema_migrations`. -/
  hasHistory : Query Bool
  /-- The rows of that table, by `sequence`. -/
  historyRows : Query (List HistoryRow)

/-! ### History -/

/-- `MigrationHistoryEntry`. -/
structure MigrationHistoryEntry where
  sequence : ℤ
  migrationId : String
  fromVersion : ℤ
  toVersion : ℤ
  stepFingerprint : String
  description : String
  deriving DecidableEq

/-- `MigrationHistoryEntry.fingerprint_data`. -/
def MigrationHistoryEntry.fingerprintData (entry : MigrationHistoryEntry) : Json := .obj [
  ("sequence", .int entry.sequence), ("migration_id", .str entry.migrationId),
  ("from_version", .int entry.fromVersion), ("to_version", .int entry.toVersion),
  ("step_fingerprint", .str entry.stepFingerprint), ("description", .str entry.description)]

def HistoryRow.entry (rt : Runtime) (row : HistoryRow) :
    Except MigrationError MigrationHistoryEntry := do
  let sequence ← row.sequence.toInteger rt
  let fromVersion ← row.fromVersion.toInteger rt
  let toVersion ← row.toVersion.toInteger rt
  return {
    sequence
    migrationId := row.migrationId.str
    fromVersion
    toVersion
    stepFingerprint := row.stepFingerprint.str
    description := row.description.str }

/-- `_history_rows`. -/
def historyRows (rt : Runtime) (db : ProfileDb) :
    Except MigrationError (List MigrationHistoryEntry) := do
  if ← db.hasHistory then
    let rows ← db.historyRows
    rows.mapM (HistoryRow.entry rt)
  else
    return []

def historyDigest (rt : Runtime) (history : List MigrationHistoryEntry) : String :=
  digest rt (.arr (history.map MigrationHistoryEntry.fingerprintData))

/-! ### Identity -/

/-- The rows that say which artists, songs, versions and assets there are. -/
structure IdentityRows where
  artists : List Row
  songs : List Row
  versions : List Row
  assets : List Row
  versionAssets : List Row
  deriving DecidableEq

/-- The queries of `_read_state_from_connection` for the identity. -/
def identityRows (db : ProfileDb) : Except MigrationError IdentityRows := do
  let artists ← db.artists
  let songs ← db.songs
  let versions ← db.versions
  let assets ← db.assets
  let versionAssets ← db.versionAssets
  return { artists, songs, versions, assets, versionAssets }

/-- Rows in a document. -/
def rowsJson (rows : List Row) : Except MigrationError Json := do
  let items ← rows.mapM fun row ↦ Json.arr <$> row.mapM SqlValue.json
  return .arr items

/-- The identity in a document, with the metadata that belongs to it. -/
def identityJson (metadata : Json) (rows : IdentityRows) : Except MigrationError Json := do
  let artists ← rowsJson rows.artists
  let songs ← rowsJson rows.songs
  let versions ← rowsJson rows.versions
  let assets ← rowsJson rows.assets
  let versionAssets ← rowsJson rows.versionAssets
  return .obj [("metadata", metadata), ("artists", artists), ("songs", songs),
    ("versions", versions), ("assets", assets), ("version_assets", versionAssets)]

/-! ### States -/

/-- `SchemaState`. -/
structure SchemaState where
  profileId : String
  applicationVersion : ℤ
  lineageVersion : String
  identityFingerprint : String
  historyFingerprint : String
  deriving DecidableEq

/-- A key of the metadata, where a later row stands in for an earlier one. -/
def metadataValue (rows : List (SqlValue × SqlValue)) (key : String) : Option String :=
  (rows.reverse.find? fun row ↦ row.1.str = key).map fun row ↦ row.2.str

/-- The semantic schema version in the metadata. -/
def readVersion (rt : Runtime) (rows : List (SqlValue × SqlValue)) : Except MigrationError ℤ := do
  let raw := (metadataValue rows appSchemaKey).getD "1"
  let version ← orRaise (readInteger rt raw.toList)
    (validationError "application semantic schema version is invalid")
  require (1 ≤ version) (validationError "application semantic schema version must be positive")
  return version

/-- `_read_state_from_connection`. -/
def readState (rt : Runtime) (db : ProfileDb) (profileId : String) :
    Except MigrationError SchemaState := do
  let quick ← db.quickCheck
  require (quick.map SqlValue.str = some "ok") (validationError "SQLite integrity check failed")
  let violations ← db.foreignKeyCheck
  require (violations = []) (validationError "foreign-key integrity check failed")
  let metadata ← db.metadata
  require (metadataValue metadata "profile_id" = some profileId)
    (validationError "database profile identity mismatch")
  let lineageVersion := (metadataValue metadata "schema_version").getD ""
  let primaryArtistId := (metadataValue metadata "primary_artist_id").getD ""
  require (lineageVersion ≠ "") (validationError "lineage schema version is missing")
  require (primaryArtistId ≠ "")
    (validationError "primary Artist identity metadata is missing")
  let activeSongId ← orRaise (metadataValue metadata "active_song_id")
    (validationError "active Song identity metadata is missing")
  let applicationVersion ← readVersion rt metadata
  let rows ← identityRows db
  let history ← historyRows rt db
  let identity ← identityJson (.obj [("profile_id", .str profileId),
    ("primary_artist_id", .str primaryArtistId), ("active_song_id", .str activeSongId),
    ("lineage_schema_version", .str lineageVersion)]) rows
  return {
    profileId
    applicationVersion
    lineageVersion
    identityFingerprint := digest rt identity
    historyFingerprint := historyDigest rt history }

/-- The semantic schema version of a database. -/
def schemaVersion (rt : Runtime) (db : ProfileDb) : Except MigrationError ℤ := do
  readVersion rt (← db.metadata)

/-! ### Digests -/

/-- A document of rows read back. -/
def cellOfJson : Json → SqlValue
  | .int n => .integer n
  | .float f => .real f
  | .str s => .text s
  | _ => .null

/-- The items of a list in a document. -/
def itemsOfJson : Json → List Json
  | .arr items => items
  | _ => []

theorem cellOfJson_json {v : SqlValue} {j : Json} (h : v.json = .ok j) :
    j.canonical = j ∧ cellOfJson j = v := by
  cases v with
  | blob bytes => cases h
  | real f =>
    rw [SqlValue.json] at h
    split_ifs at h with hfinite
    obtain rfl := pure_eq_ok.mp h
    exact ⟨rfl, rfl⟩
  | null | integer | text =>
    obtain rfl := pure_eq_ok.mp h
    exact ⟨rfl, rfl⟩

/-- What reads every item back reads a list back. -/
theorem mapM_reads_back {α : Type} {f : α → Except MigrationError Json} {g : Json → α}
    (hitem : ∀ a j, f a = .ok j → j.canonical = j ∧ g j = a) {l : List α} {items : List Json}
    (h : l.mapM f = .ok items) : items.map Json.canonical = items ∧ items.map g = l := by
  induction l generalizing items with
  | nil =>
    obtain rfl := pure_eq_ok.mp h
    exact ⟨rfl, rfl⟩
  | cons a rest ih =>
    simp only [List.mapM_cons, bind_eq_ok, pure_eq_ok] at h
    obtain ⟨j, hj, others, hothers, rfl⟩ := h
    rw [List.map_cons, List.map_cons, (hitem a j hj).1, (hitem a j hj).2, (ih hothers).1,
      (ih hothers).2]
    exact ⟨rfl, rfl⟩

theorem rowOfJson_json {row : Row} {j : Json} (h : Json.arr <$> row.mapM SqlValue.json = .ok j) :
    j.canonical = j ∧ (itemsOfJson j).map cellOfJson = row := by
  obtain ⟨items, hitems, rfl⟩ := map_eq_ok.mp h
  obtain ⟨hcanonical, hback⟩ := mapM_reads_back (fun _ _ ↦ cellOfJson_json) hitems
  exact ⟨by rw [Json.canonical_arr, hcanonical], hback⟩

theorem rowsOfJson_json {rows : List Row} {j : Json} (h : rowsJson rows = .ok j) :
    j.canonical = j ∧ (itemsOfJson j).map (fun item ↦ (itemsOfJson item).map cellOfJson) = rows := by
  simp only [rowsJson, bind_eq_ok, pure_eq_ok] at h
  obtain ⟨items, hitems, rfl⟩ := h
  obtain ⟨hcanonical, hback⟩ := mapM_reads_back (fun _ _ ↦ rowOfJson_json) hitems
  exact ⟨by rw [Json.canonical_arr, hcanonical], hback⟩

/-- Rows of one document are the same. -/
theorem rowsJson_inj {rows others : List Row} {j k : Json} (hrows : rowsJson rows = .ok j)
    (hothers : rowsJson others = .ok k) (heq : j.canonical = k.canonical) : rows = others := by
  obtain ⟨hj, hrowsBack⟩ := rowsOfJson_json hrows
  obtain ⟨hk, hothersBack⟩ := rowsOfJson_json hothers
  rw [← hrowsBack, ← hothersBack, ← hj, ← hk, heq]

theorem identityJson_inj {metadata other : Json} {rows others : IdentityRows} {j k : Json}
    (hrows : identityJson metadata rows = .ok j) (hothers : identityJson other others = .ok k)
    (heq : j.canonical = k.canonical) : rows = others := by
  have hget (key : String) : (j.get key).canonical = (k.get key).canonical := by
    rw [← Json.get_canonical, ← Json.get_canonical, heq]
  simp only [identityJson, bind_eq_ok, pure_eq_ok] at hrows hothers
  obtain ⟨_, hartists, _, hsongs, _, hversions, _, hassets, _, hroles, rfl⟩ := hrows
  obtain ⟨_, hartists', _, hsongs', _, hversions', _, hassets', _, hroles', rfl⟩ := hothers
  have hone := rowsJson_inj hartists hartists' (hget "artists")
  have htwo := rowsJson_inj hsongs hsongs' (hget "songs")
  have hthree := rowsJson_inj hversions hversions' (hget "versions")
  have hfour := rowsJson_inj hassets hassets' (hget "assets")
  have hfive := rowsJson_inj hroles hroles' (hget "version_assets")
  cases rows
  cases others
  simp_all

theorem fingerprintData_inj {a b : MigrationHistoryEntry}
    (h : a.fingerprintData.canonical = b.fingerprintData.canonical) : a = b := by
  have hget (key : String) :
      (a.fingerprintData.get key).canonical = (b.fingerprintData.get key).canonical := by
    rw [← Json.get_canonical, ← Json.get_canonical, h]
  have hsequence : a.sequence = b.sequence := Json.int.inj (hget "sequence")
  have hmigration : a.migrationId = b.migrationId := Json.str.inj (hget "migration_id")
  have hfrom : a.fromVersion = b.fromVersion := Json.int.inj (hget "from_version")
  have hto : a.toVersion = b.toVersion := Json.int.inj (hget "to_version")
  have hstep : a.stepFingerprint = b.stepFingerprint := Json.str.inj (hget "step_fingerprint")
  have hdescription : a.description = b.description := Json.str.inj (hget "description")
  cases a
  cases b
  simp_all

/-- Equal digests are digests of equal documents. -/
theorem digest_inj (hsha : Function.Injective rt.sha256) {v w : Json}
    (h : digest rt v = digest rt w) : v.canonical = w.canonical :=
  Json.dumps_inj.mp (hsha h)

/-- Histories of one digest are the same. -/
theorem historyDigest_inj (hsha : Function.Injective rt.sha256)
    {history other : List MigrationHistoryEntry}
    (h : historyDigest rt history = historyDigest rt other) : history = other := by
  have hitems := digest_inj hsha h
  rw [Json.canonical_arr, Json.canonical_arr, Json.arr.injEq, List.map_map, List.map_map] at hitems
  exact List.map_injective_iff.mpr (fun _ _ ↦ fingerprintData_inj) hitems

/-! ### What a state says -/

variable {db other : ProfileDb} {profileId profileId' : String} {state state' : SchemaState}

theorem readState_eq_ok (h : readState rt db profileId = .ok state) :
    ∃ rows history identity metadata, identityRows db = .ok rows ∧
      historyRows rt db = .ok history ∧ identityJson metadata rows = .ok identity ∧
      state.identityFingerprint = digest rt identity ∧
      state.historyFingerprint = historyDigest rt history ∧
      schemaVersion rt db = .ok state.applicationVersion := by
  simp only [readState, bind_eq_ok, require_eq_ok, orRaise_eq_ok, pure_eq_ok] at h
  obtain ⟨_, -, _, -, _, -, _, -, metadata, hmetadata, _, -, _, -, _, -, _, -, version, hversion, rows,
    hrows, history, hhistory, identity, hidentity, rfl⟩ := h
  refine ⟨rows, history, identity, _, hrows, hhistory, hidentity, rfl, rfl, ?_⟩
  rw [schemaVersion, hmetadata]
  exact hversion

/-- Databases of one identity digest have the same rows. -/
theorem rows_eq_of_state (hsha : Function.Injective rt.sha256)
    (h : readState rt db profileId = .ok state) (hother : readState rt other profileId' = .ok state')
    (heq : state.identityFingerprint = state'.identityFingerprint) :
    ∃ rows, identityRows db = .ok rows ∧ identityRows other = .ok rows := by
  obtain ⟨rows, _, identity, _, hrows, -, hidentity, hdigest, -, -⟩ := readState_eq_ok h
  obtain ⟨rows', _, identity', _, hrows', -, hidentity', hdigest', -, -⟩ := readState_eq_ok hother
  rw [hdigest, hdigest'] at heq
  have hsame := identityJson_inj hidentity hidentity' (digest_inj hsha heq)
  exact ⟨rows, hrows, hsame ▸ hrows'⟩

/-- A database with the digest of a history has that history. -/
theorem history_eq_of_state (hsha : Function.Injective rt.sha256)
    (h : readState rt db profileId = .ok state) {history : List MigrationHistoryEntry}
    (heq : historyDigest rt history = state.historyFingerprint) :
    historyRows rt db = .ok history := by
  obtain ⟨_, read, _, _, -, hread, -, -, hdigest, -⟩ := readState_eq_ok h
  rw [hdigest] at heq
  rw [hread, historyDigest_inj hsha heq]

end N0te.Migration
