import N0te.Library.Connections
import N0te.Library.Text

/-!
# The lineage store

Songs, their versions and their assets in one database, as `LineageStore` keeps them. A table is the list
of its rows in the order they were inserted, and an insertion checks what the schema checks: the primary
key, the `CHECK` constraints, the foreign keys and the triggers. Versions, assets and the links between
them are never updated or deleted, which triggers refuse.

An operation reads and checks outside of any transaction and then runs one transaction, so other
connections may change the database in between (`Call`).

Scope. Page structure, the `NOT NULL` constraints, which the types make, and write-ahead logging are
left out, and of `DatabaseError` the violated constraint and the locked database are modelled.
-/

set_option autoImplicit false
set_option relaxedAutoImplicit false

namespace N0te.Lineage

open Library

/-- The exception classes of the store. -/
inductive LineageErrorClass where
  | validationError
  | notFoundError
  | lineageCorruptionError
  | integrityError
  | operationalError
  | assertionError
  deriving DecidableEq

/-- A result or an exception. -/
abbrev Checked (α : Type) := Except (Raised LineageErrorClass) α

/-- A `LineageCorruptionError`. -/
def corruption (message : String) : Raised LineageErrorClass := ⟨.lineageCorruptionError, message⟩

/-- The `sqlite3.IntegrityError` of a violated constraint or a trigger. -/
def integrityError (message : String) : Raised LineageErrorClass := ⟨.integrityError, message⟩

/-! ### Ids -/

/-- A lowercase hexadecimal digit. -/
def isHexDigit (c : Char) : Bool := c.isDigit || ('a' ≤ c && c ≤ 'f')

/-- `uuid4().hex`. -/
structure Uuid where
  hex : List Char
  length : hex.length = 32
  /-- They are hexadecimal. -/
  digits : hex.all isHexDigit = true

instance neZeroTen : @NeZero ℕ Zero.ofOfNat0 10 := ⟨Nat.succ_ne_zero 9⟩

/-- An id that ends in a digit. -/
def uuidEnding (digit : Fin 10) : Uuid where
  hex := List.replicate 31 'a' ++ [Nat.digitChar digit]
  length := by simp
  digits := by
    revert digit
    decide

/-- `_new_id`. -/
def newId (kind : String) (uuid : Uuid) : String := String.ofList (kind.toList ++ '_' :: uuid.hex)

/-- `_PROFILE_ID.fullmatch`. -/
def isProfileId (profileId : String) : Bool :=
  profileId.toList.take 4 == "prf_".toList && (profileId.toList.drop 4).length == 32 &&
    (profileId.toList.drop 4).all isHexDigit

/-- `_SHA256.fullmatch`. -/
def isSha256 (digest : String) : Bool :=
  digest.toList.length == 64 && digest.toList.all isHexDigit

/-- SQLite's `length`. -/
def sqlLength (s : String) : ℕ := (s.toList.takeWhile (· != Char.ofNat 0)).length

/-- `_require_text`. -/
def requireText (value field : String) : Checked String :=
  if strip value = "" then .error ⟨.validationError, s!"{field} must not be empty"⟩
  else .ok (strip value)

/-! ### Tables -/

/-- A row of `artists`. -/
structure Artist where
  id : String
  displayName : String
  deriving DecidableEq

/-- A row of `songs`. -/
structure Song where
  id : String
  artistId : String
  title : String
  currentVersionId : Option String
  approvedVersionId : Option String
  deriving DecidableEq

/-- A row of `assets`. -/
structure Asset where
  id : String
  songId : String
  name : String
  /-- The digest of the content. -/
  sha256 : String
  sourceUri : Option String
  deriving DecidableEq

/-- A row of `versions`. -/
structure Version where
  id : String
  songId : String
  /-- The number within the song. -/
  ordinal : ℕ
  label : String
  parentVersionId : Option String
  deriving DecidableEq

/-- A row of `version_assets`. -/
structure VersionAsset where
  versionId : String
  assetId : String
  /-- What the asset is to the version. -/
  role : String
  deriving DecidableEq

/-- The database of a profile. -/
structure LineageDb where
  /-- `metadata`. -/
  metadata : List (String × String)
  /-- `artists`. -/
  artists : List Artist
  /-- `songs`. -/
  songs : List Song
  /-- `assets`. -/
  assets : List Asset
  /-- `versions`. -/
  versions : List Version
  /-- `version_assets`. -/
  versionAssets : List VersionAsset

namespace LineageDb

variable (db : LineageDb)

/-! ### Statements -/

/-- `UPDATE metadata SET value = ? WHERE key = ?`. -/
def setMetadata (key value : String) : LineageDb :=
  { db with metadata := db.metadata.map fun row ↦ if row.1 = key then (row.1, value) else row }

/-- `INSERT INTO songs`. -/
def insertSong (row : Song) : Checked LineageDb := do
  require (∀ song ∈ db.songs, song.id ≠ row.id) (integrityError "UNIQUE constraint failed: songs.id")
  require (sqlNonblank row.title = true) (integrityError "CHECK constraint failed: title")
  require (∃ artist ∈ db.artists, artist.id = row.artistId)
    (integrityError "FOREIGN KEY constraint failed")
  .ok { db with songs := db.songs ++ [row] }

/-- `INSERT INTO assets`. -/
def insertAsset (row : Asset) : Checked LineageDb := do
  require (∀ asset ∈ db.assets, asset.id ≠ row.id)
    (integrityError "UNIQUE constraint failed: assets.id")
  require (sqlNonblank row.name = true) (integrityError "CHECK constraint failed: name")
  require (sqlLength row.sha256 = 64) (integrityError "CHECK constraint failed: sha256")
  require (∃ song ∈ db.songs, song.id = row.songId) (integrityError "FOREIGN KEY constraint failed")
  .ok { db with assets := db.assets ++ [row] }

/-- `INSERT INTO versions`, with the trigger `version_parent_same_song`. -/
def insertVersion (row : Version) : Checked LineageDb := do
  require (∀ parentId, row.parentVersionId = some parentId →
      ∃ parent ∈ db.versions, parent.id = parentId ∧ parent.songId = row.songId)
    (integrityError "parent version belongs to a different song")
  require (∀ version ∈ db.versions, version.id ≠ row.id)
    (integrityError "UNIQUE constraint failed: versions.id")
  require (∀ version ∈ db.versions, ¬ (version.songId = row.songId ∧ version.ordinal = row.ordinal))
    (integrityError "UNIQUE constraint failed: versions.song_id, versions.ordinal")
  require (0 < row.ordinal) (integrityError "CHECK constraint failed: ordinal")
  require (sqlNonblank row.label = true) (integrityError "CHECK constraint failed: label")
  require (∃ song ∈ db.songs, song.id = row.songId) (integrityError "FOREIGN KEY constraint failed")
  .ok { db with versions := db.versions ++ [row] }

/-- `INSERT INTO version_assets`, with the trigger `version_asset_same_song`. -/
def insertVersionAsset (row : VersionAsset) : Checked LineageDb := do
  require (∃ version ∈ db.versions, ∃ asset ∈ db.assets, asset.songId = version.songId ∧
      version.id = row.versionId ∧ asset.id = row.assetId)
    (integrityError "asset belongs to a different song")
  require (∀ link ∈ db.versionAssets, link ≠ row)
    (integrityError "UNIQUE constraint failed: version_assets")
  require (sqlNonblank row.role = true) (integrityError "CHECK constraint failed: role")
  .ok { db with versionAssets := db.versionAssets ++ [row] }

/-- `INSERT INTO version_assets` for each asset of a version, as a source. -/
def insertVersionAssets (versionId : String) : List String → LineageDb → Checked LineageDb
  | [], db => .ok db
  | assetId :: rest, db => do
    let db ← db.insertVersionAsset ⟨versionId, assetId, "SOURCE"⟩
    insertVersionAssets versionId rest db

/-- `UPDATE songs SET current_version_id = ?`, with the trigger `song_current_same_song`. -/
def updateCurrentVersion (songId versionId : String) : Checked LineageDb := do
  require (∀ song ∈ db.songs, song.id = songId →
      ∃ version ∈ db.versions, version.id = versionId ∧ version.songId = song.id)
    (integrityError "current version belongs to a different song")
  .ok { db with songs := db.songs.map fun song ↦
    if song.id = songId then { song with currentVersionId := some versionId } else song }

/-- `UPDATE songs SET approved_version_id = ?`, with the trigger `song_approved_same_song`. -/
def updateApprovedVersion (songId versionId : String) : Checked LineageDb := do
  require (∀ song ∈ db.songs, song.id = songId →
      ∃ version ∈ db.versions, version.id = versionId ∧ version.songId = song.id)
    (integrityError "approved version belongs to a different song")
  .ok { db with songs := db.songs.map fun song ↦
    if song.id = songId then { song with approvedVersionId := some versionId } else song }

def versionsOf (songId : String) : List Version := db.versions.filter fun version ↦
  version.songId = songId

/-- `SELECT COALESCE(MAX(ordinal), 0) + 1 FROM versions WHERE song_id = ?`. -/
def nextOrdinal (songId : String) : ℕ :=
  ((db.versionsOf songId).map Version.ordinal).foldl max 0 + 1

/-! ### Creating and opening -/

/-- `_initialize`. -/
def initializeDb (profileId artistId artistName : String) : Checked LineageDb := do
  require (sqlNonblank artistName = true) (integrityError "CHECK constraint failed: display_name")
  .ok {
    metadata := [("schema_version", "1"), ("profile_id", profileId), ("primary_artist_id", artistId),
      ("active_song_id", "")]
    artists := [⟨artistId, artistName⟩]
    songs := []
    assets := []
    versions := []
    versionAssets := [] }

/-- What `PRAGMA quick_check` finds of the rows: their `CHECK` constraints. -/
def QuickCheck : Prop :=
  (∀ artist ∈ db.artists, sqlNonblank artist.displayName = true) ∧
  (∀ song ∈ db.songs, sqlNonblank song.title = true) ∧
  (∀ asset ∈ db.assets, sqlNonblank asset.name = true ∧ sqlLength asset.sha256 = 64) ∧
  (∀ version ∈ db.versions, 0 < version.ordinal ∧ sqlNonblank version.label = true) ∧
  ∀ link ∈ db.versionAssets, sqlNonblank link.role = true

instance : Decidable db.QuickCheck := inferInstanceAs (Decidable (_ ∧ _))

/-- What `PRAGMA foreign_key_check` finds nothing wrong with. -/
def ForeignKeyCheck : Prop :=
  (∀ song ∈ db.songs, (∃ artist ∈ db.artists, artist.id = song.artistId) ∧
    (∀ id ∈ song.currentVersionId, ∃ version ∈ db.versions, version.id = id) ∧
    ∀ id ∈ song.approvedVersionId, ∃ version ∈ db.versions, version.id = id) ∧
  (∀ asset ∈ db.assets, ∃ song ∈ db.songs, song.id = asset.songId) ∧
  (∀ version ∈ db.versions, (∃ song ∈ db.songs, song.id = version.songId) ∧
    ∀ id ∈ version.parentVersionId, ∃ parent ∈ db.versions, parent.id = id) ∧
  ∀ link ∈ db.versionAssets, (∃ version ∈ db.versions, version.id = link.versionId) ∧
    ∃ asset ∈ db.assets, asset.id = link.assetId

instance : Decidable db.ForeignKeyCheck := inferInstanceAs (Decidable (_ ∧ _))

/-- `_validate_existing`. -/
def validateExisting (expectedProfileId : String) : Checked Unit := do
  require db.QuickCheck (corruption "lineage integrity check failed")
  require db.ForeignKeyCheck (corruption "lineage foreign-key integrity check failed")
  let incomplete := corruption "lineage metadata is incomplete"
  let schemaVersion ← orRaise (db.metadata.lookup "schema_version") incomplete
  let profileId ← orRaise (db.metadata.lookup "profile_id") incomplete
  let primaryArtistId ← orRaise (db.metadata.lookup "primary_artist_id") incomplete
  let activeSongId ← orRaise (db.metadata.lookup "active_song_id") incomplete
  require (schemaVersion = "1") (corruption s!"unsupported lineage schema version: {schemaVersion}")
  require (profileId = expectedProfileId)
    (corruption "profile identity does not match durable state")
  require (∃ artist ∈ db.artists, artist.id = primaryArtistId)
    (corruption "primary artist identity is missing")
  require (activeSongId ≠ "" → ∃ song ∈ db.songs, song.id = activeSongId)
    (corruption "active Song identity is missing")

/-- `LineageStore.create`: the profile id and its database. -/
def create (profile artist : Uuid) (artistName : String) : Checked (String × LineageDb) := do
  let artistName ← requireText artistName "artist_name"
  let profileId := newId "prf" profile
  let db ← initializeDb profileId (newId "art" artist) artistName
  db.validateExisting profileId
  .ok (profileId, db)

/-- `LineageStore.open` of the database in the directory of a profile. -/
def openStore (profileId : String) : Checked Unit := do
  require (isProfileId profileId = true) ⟨.validationError, "invalid profile_id"⟩
  db.validateExisting profileId

end LineageDb

/-! ### Operations -/

/-- A call on the store. -/
abbrev LineageCall (α : Type) := Call LineageDb (Raised LineageErrorClass) α

section

variable (profileId : String)

/-- `get_song`. -/
def getSong (songId : String) : LineageCall (Option Song) :=
  .select fun db ↦ db.songs.find? fun song ↦ song.id = songId

/-- `_require_song`. -/
def requireSong (songId : String) : LineageCall Song := do
  let song ← getSong songId
  .fromExcept (orRaise song
    ⟨.notFoundError, s!"Song not found in profile {profileId}: {songId}"⟩)

/-- `get_asset`. -/
def getAsset (assetId : String) : LineageCall (Option Asset) :=
  .select fun db ↦ db.assets.find? fun asset ↦ asset.id = assetId

/-- `_require_asset_for_song`. -/
def requireAssetForSong (assetId songId : String) : LineageCall Asset := do
  let asset ← getAsset assetId
  .fromExcept do
    let asset ← orRaise asset
      ⟨.notFoundError, s!"asset not found in profile {profileId}: {assetId}"⟩
    require (asset.songId = songId) ⟨.validationError, "asset belongs to a different Song"⟩
    .ok asset

/-- `_require_asset_for_song` for each asset. -/
def requireAssets (songId : String) : List String → LineageCall Unit
  | [] => pure ⟨⟩
  | assetId :: rest => do
    let _ ← requireAssetForSong profileId assetId songId
    requireAssets songId rest

/-- `get_version`. -/
def getVersion (versionId : String) : LineageCall (Option Version) :=
  .select fun db ↦ db.versions.find? fun version ↦ version.id = versionId

/-- `create_song`. -/
def createSong (uuid : Uuid) (title : String) : LineageCall Song := do
  let title ← .fromExcept (requireText title "title")
  let songId := newId "song" uuid
  .transaction fun db ↦ do
    let artistId ← orRaise (db.metadata.lookup "primary_artist_id")
      (corruption "primary artist metadata disappeared")
    let db ← db.insertSong ⟨songId, artistId, title, none, none⟩
    .ok (db.setMetadata "active_song_id" songId)
  let song ← getSong songId
  .fromExcept (orRaise song ⟨.assertionError, ""⟩)

/-- `select_song`. -/
def selectSong (songId : String) : LineageCall Song := do
  let song ← requireSong profileId songId
  .transaction fun db ↦ .ok (db.setMetadata "active_song_id" song.id)
  pure song

/-- `attach_asset`. -/
def attachAsset (uuid : Uuid) (songId name sha256 : String) (sourceUri : Option String) :
    LineageCall Asset := do
  let _ ← requireSong profileId songId
  let name ← .fromExcept (requireText name "name")
  let digest := String.ofList ((strip sha256).toList.map Char.toLower)
  .fromExcept (require (isSha256 digest = true)
    ⟨.validationError, "sha256 must be a 64-character hexadecimal digest"⟩)
  let assetId := newId "asset" uuid
  .transaction fun db ↦ db.insertAsset ⟨assetId, songId, name, digest, sourceUri⟩
  pure ⟨assetId, songId, name, digest, sourceUri⟩

/-- `create_version`. -/
def createVersion (uuid : Uuid) (songId label : String) (parentVersionId : Option String)
    (assetIds : List String) (makeCurrent : Bool) : LineageCall Version := do
  let _ ← requireSong profileId songId
  let label ← .fromExcept (requireText label "label")
  if let some parentId := parentVersionId then
    let parent ← getVersion parentId
    .fromExcept do
      let parent ← orRaise parent ⟨.notFoundError, s!"parent version not found: {parentId}"⟩
      require (parent.songId = songId)
        ⟨.validationError, "parent version belongs to a different Song"⟩
  let normalizedAssets := assetIds.eraseDups
  requireAssets profileId songId normalizedAssets
  let versionId := newId "ver" uuid
  .transaction fun db ↦ do
    let ordinal := db.nextOrdinal songId
    let db ← db.insertVersion ⟨versionId, songId, ordinal, label, parentVersionId⟩
    let db ← LineageDb.insertVersionAssets versionId normalizedAssets db
    if makeCurrent then db.updateCurrentVersion songId versionId else .ok db
  let version ← getVersion versionId
  .fromExcept (orRaise version ⟨.assertionError, ""⟩)

/-- The checks of `set_current_version` and `approve_version`. -/
def requireVersionForSong (songId versionId : String) : LineageCall Unit := do
  let _ ← requireSong profileId songId
  let version ← getVersion versionId
  .fromExcept do
    let version ← orRaise version ⟨.notFoundError, s!"version not found: {versionId}"⟩
    require (version.songId = songId) ⟨.validationError, "version belongs to a different Song"⟩

/-- `set_current_version`. -/
def setCurrentVersion (songId versionId : String) : LineageCall Song := do
  requireVersionForSong profileId songId versionId
  .transaction fun db ↦ db.updateCurrentVersion songId versionId
  requireSong profileId songId

/-- `approve_version`. -/
def approveVersion (songId versionId : String) : LineageCall Song := do
  requireVersionForSong profileId songId versionId
  .transaction fun db ↦ db.updateApprovedVersion songId versionId
  requireSong profileId songId

/-- The operations of the store, with the ids they draw. -/
inductive LineageOperation where
  | createSong (uuid : Uuid) (title : String)
  | selectSong (songId : String)
  | attachAsset (uuid : Uuid) (songId name sha256 : String) (sourceUri : Option String)
  | createVersion (uuid : Uuid) (songId label : String) (parentVersionId : Option String)
      (assetIds : List String) (makeCurrent : Bool)
  | setCurrentVersion (songId versionId : String)
  | approveVersion (songId versionId : String)

/-- What an operation returns. -/
inductive LineageAnswer where
  | song (song : Song)
  | asset (asset : Asset)
  | version (version : Version)
  deriving DecidableEq

def lineageProgram : LineageOperation → LineageCall LineageAnswer
  | .createSong uuid title => .song <$> createSong uuid title
  | .selectSong songId => .song <$> selectSong profileId songId
  | .attachAsset uuid songId name sha256 sourceUri =>
    .asset <$> attachAsset profileId uuid songId name sha256 sourceUri
  | .createVersion uuid songId label parentVersionId assetIds makeCurrent =>
    .version <$> createVersion profileId uuid songId label parentVersionId assetIds makeCurrent
  | .setCurrentVersion songId versionId => .song <$> setCurrentVersion profileId songId versionId
  | .approveVersion songId versionId => .song <$> approveVersion profileId songId versionId

end

end N0te.Lineage
