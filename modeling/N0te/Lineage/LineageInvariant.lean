import Mathlib.Data.List.Nodup
import Mathlib.Data.List.Range
import Mathlib.Logic.Relation
import N0te.Lineage.LineageStore

/-!
# What every committed state of the lineage store satisfies

`LineageInvariant` links the five tables, each statement of a transaction keeps it and extends the
tables (`Recorded`), and so does every call, whatever other connections do between its statements.
`lineage_consistent` is the result for runs: the ordinals of a song, its parents, its current and
approved version and its assets are in order, what was recorded stays, and the store can be opened again.
-/

set_option autoImplicit false
set_option relaxedAutoImplicit false

namespace N0te.Lineage

open Library

namespace LineageDb

/-! ### The invariant -/

/-- A version has another as its parent. -/
def IsParent (db : LineageDb) (versionId parentId : String) : Prop :=
  ∃ version ∈ db.versions, version.id = versionId ∧ version.parentVersionId = some parentId

def HasVersion (db : LineageDb) (songId versionId : String) : Prop :=
  ∃ version ∈ db.versions, version.id = versionId ∧ version.songId = songId

def HasSong (db : LineageDb) (songId : String) : Prop := ∃ song ∈ db.songs, song.id = songId

end LineageDb

/-- The tables of a store are in order. -/
structure Consistent (db : LineageDb) : Prop where
  /-- The ordinals of a song are `1..n`. -/
  ordinals : ∀ songId, (db.versionsOf songId).map Version.ordinal =
    List.range' 1 (db.versionsOf songId).length
  /-- A parent is an earlier version of the same song. -/
  parents : ∀ version ∈ db.versions, ∀ parentId, version.parentVersionId = some parentId →
    ∃ parent ∈ db.versions, parent.id = parentId ∧ parent.songId = version.songId ∧
      parent.ordinal < version.ordinal
  /-- No version is an ancestor of itself. -/
  acyclic : ∀ versionId, ¬ Relation.TransGen db.IsParent versionId versionId
  /-- The current version of a song belongs to it. -/
  current : ∀ song ∈ db.songs, ∀ versionId, song.currentVersionId = some versionId →
    db.HasVersion song.id versionId
  /-- So does the approved one. -/
  approved : ∀ song ∈ db.songs, ∀ versionId, song.approvedVersionId = some versionId →
    db.HasVersion song.id versionId
  /-- An asset is attached to a version of its own song. -/
  attached : ∀ link ∈ db.versionAssets, ∃ version ∈ db.versions, ∃ asset ∈ db.assets,
    asset.songId = version.songId ∧ version.id = link.versionId ∧ asset.id = link.assetId

/-- What was recorded is there, unchanged. -/
structure Recorded (db after : LineageDb) : Prop where
  /-- The versions and their parents. -/
  versions : db.versions <+: after.versions
  assets : db.assets <+: after.assets
  /-- What they are attached to. -/
  versionAssets : db.versionAssets <+: after.versionAssets
  songs : db.songs.map Song.id <+: after.songs.map Song.id

/-- The invariant of the store of a profile. -/
structure LineageInvariant (profileId : String) (db : LineageDb) : Prop where
  /-- The metadata name the profile, its artist, and the active song if there is one. -/
  metadata : ∃ artist ∈ db.artists, ∃ activeSongId,
    db.metadata = [("schema_version", "1"), ("profile_id", profileId),
      ("primary_artist_id", artist.id), ("active_song_id", activeSongId)] ∧
    (activeSongId ≠ "" → db.HasSong activeSongId)
  /-- The rows meet the `CHECK` constraints. -/
  checks : db.QuickCheck
  /-- A version id names one version. -/
  versionIds : (db.versions.map Version.id).Nodup
  /-- The ordinals of a song are `1..n`. -/
  ordinals : ∀ songId, (db.versionsOf songId).map Version.ordinal =
    List.range' 1 (db.versionsOf songId).length
  /-- A parent is an earlier version of the same song. -/
  parents : ∀ version ∈ db.versions, ∀ parentId, version.parentVersionId = some parentId →
    ∃ parent ∈ db.versions, parent.id = parentId ∧ parent.songId = version.songId ∧
      parent.ordinal < version.ordinal
  /-- A version belongs to a song. -/
  versionSongs : ∀ version ∈ db.versions, db.HasSong version.songId
  /-- So does an asset. -/
  assetSongs : ∀ asset ∈ db.assets, db.HasSong asset.songId
  /-- A song belongs to an artist. -/
  artists : ∀ song ∈ db.songs, ∃ artist ∈ db.artists, artist.id = song.artistId
  /-- The current version of a song belongs to it. -/
  current : ∀ song ∈ db.songs, ∀ versionId, song.currentVersionId = some versionId →
    db.HasVersion song.id versionId
  /-- So does the approved one. -/
  approved : ∀ song ∈ db.songs, ∀ versionId, song.approvedVersionId = some versionId →
    db.HasVersion song.id versionId
  /-- An asset is attached to a version of its own song. -/
  attached : ∀ link ∈ db.versionAssets, ∃ version ∈ db.versions, ∃ asset ∈ db.assets,
    asset.songId = version.songId ∧ version.id = link.versionId ∧ asset.id = link.assetId

section

variable {profileId : String} {db after : LineageDb}

/-! ### What follows from it -/

/-- An ancestor has a smaller ordinal. -/
theorem LineageInvariant.ordinal_lt (h : LineageInvariant profileId db) {versionId ancestorId : String}
    (hancestor : Relation.TransGen db.IsParent versionId ancestorId) :
    ∃ version ∈ db.versions, ∃ ancestor ∈ db.versions, version.id = versionId ∧
      ancestor.id = ancestorId ∧ ancestor.ordinal < version.ordinal := by
  induction hancestor with
  | single hparent =>
    obtain ⟨version, hversion, rfl, hparent⟩ := hparent
    obtain ⟨parent, hmem, rfl, -, hlt⟩ := h.parents version hversion _ hparent
    exact ⟨version, hversion, parent, hmem, rfl, rfl, hlt⟩
  | tail _ hparent ih =>
    obtain ⟨version, hversion, middle, hmiddle, hid, hmiddleId, hlt⟩ := ih
    obtain ⟨other, hother, hotherId, hparent⟩ := hparent
    obtain ⟨parent, hmem, rfl, -, hparentLt⟩ := h.parents other hother _ hparent
    have hsame : other = middle :=
      List.inj_on_of_nodup_map h.versionIds hother hmiddle (hotherId.trans hmiddleId.symm)
    exact ⟨version, hversion, parent, hmem, hid, rfl, (hsame ▸ hparentLt).trans hlt⟩

theorem LineageInvariant.consistent (h : LineageInvariant profileId db) : Consistent db where
  ordinals := h.ordinals
  parents := h.parents
  current := h.current
  approved := h.approved
  attached := h.attached
  acyclic versionId hcycle := by
    obtain ⟨version, hversion, ancestor, hancestor, hid, hancestorId, hlt⟩ := h.ordinal_lt hcycle
    cases List.inj_on_of_nodup_map h.versionIds hversion hancestor (hid.trans hancestorId.symm)
    exact absurd hlt (Nat.lt_irrefl _)

/-- The store can be opened. -/
theorem LineageInvariant.validateExisting (h : LineageInvariant profileId db) :
    db.validateExisting profileId = .ok ⟨⟩ := by
  have hkeys : db.ForeignKeyCheck := by
    refine ⟨fun song hsong ↦ ⟨h.artists song hsong, fun id hid ↦ ?_, fun id hid ↦ ?_⟩, h.assetSongs,
      fun version hversion ↦ ⟨h.versionSongs version hversion, fun id hid ↦ ?_⟩, fun link hlink ↦ ?_⟩
    · obtain ⟨version, hversion, hversionId, -⟩ := h.current song hsong id hid
      exact ⟨version, hversion, hversionId⟩
    · obtain ⟨version, hversion, hversionId, -⟩ := h.approved song hsong id hid
      exact ⟨version, hversion, hversionId⟩
    · obtain ⟨parent, hparent, hparentId, -⟩ := h.parents version hversion id hid
      exact ⟨parent, hparent, hparentId⟩
    · obtain ⟨version, hversion, asset, hasset, -, hversionId, hassetId⟩ := h.attached link hlink
      exact ⟨⟨version, hversion, hversionId⟩, asset, hasset, hassetId⟩
  obtain ⟨artist, hartist, activeSongId, hmetadata, hactive⟩ := h.metadata
  have hlookup : db.metadata.lookup "schema_version" = some "1" ∧
      db.metadata.lookup "profile_id" = some profileId ∧
      db.metadata.lookup "primary_artist_id" = some artist.id ∧
      db.metadata.lookup "active_song_id" = some activeSongId := by
    rw [hmetadata]
    exact ⟨rfl, rfl, rfl, rfl⟩
  obtain ⟨hschema, hprofile, hprimary, hsong⟩ := hlookup
  simp only [LineageDb.validateExisting, bind_eq_ok, require_eq_ok, orRaise_eq_ok]
  exact ⟨⟨⟩, h.checks, ⟨⟩, hkeys, _, hschema, _, hprofile, _, hprimary, _, hsong, ⟨⟩, rfl, ⟨⟩, rfl, ⟨⟩,
    ⟨artist, hartist, rfl⟩, hactive⟩

/-! ### Extension -/

theorem Recorded.refl (db : LineageDb) : Recorded db db :=
  ⟨List.prefix_rfl, List.prefix_rfl, List.prefix_rfl, List.prefix_rfl⟩

theorem Recorded.trans {last : LineageDb} (h : Recorded db after) (h' : Recorded after last) :
    Recorded db last :=
  ⟨h.versions.trans h'.versions, h.assets.trans h'.assets, h.versionAssets.trans h'.versionAssets,
    h.songs.trans h'.songs⟩

/-- What was recorded stays in every later state. -/
theorem recorded_of_commits (h : Relation.ReflTransGen Recorded db after) : Recorded db after := by
  induction h with
  | refl => exact .refl db
  | tail _ hcommit ih => exact ih.trans hcommit

/-- A song stays. -/
theorem Recorded.hasSong (h : Recorded db after) {songId : String} (hsong : db.HasSong songId) :
    after.HasSong songId := by
  obtain ⟨song, hmem, rfl⟩ := hsong
  obtain ⟨other, hother, hid⟩ := List.mem_map.mp (h.songs.subset (List.mem_map_of_mem hmem))
  exact ⟨other, hother, hid⟩

/-- A version stays. -/
theorem Recorded.hasVersion (h : Recorded db after) {songId versionId : String}
    (hversion : db.HasVersion songId versionId) : after.HasVersion songId versionId := by
  obtain ⟨version, hmem, hfields⟩ := hversion
  exact ⟨version, h.versions.subset hmem, hfields⟩

/-! ### The statements -/

/-- A statement keeps the invariant and what was recorded. -/
structure Extends (profileId : String) (db after : LineageDb) : Prop where
  invariant : LineageInvariant profileId after
  recorded : Recorded db after

theorem Extends.trans {last : LineageDb} (h : Extends profileId db after)
    (h' : Extends profileId after last) : Extends profileId db last :=
  ⟨h'.invariant, h.recorded.trans h'.recorded⟩

/-- A song is made active. -/
theorem extends_setMetadata (h : LineageInvariant profileId db) {songId : String}
    (hsong : db.HasSong songId) :
    Extends profileId db (db.setMetadata "active_song_id" songId) := by
  refine ⟨{ h with metadata := ?_ }, List.prefix_rfl, List.prefix_rfl, List.prefix_rfl,
    List.prefix_rfl⟩
  obtain ⟨artist, hartist, activeSongId, hmetadata, -⟩ := h.metadata
  refine ⟨artist, hartist, songId, ?_, fun _ ↦ hsong⟩
  rw [LineageDb.setMetadata, hmetadata]
  rfl

theorem extends_insertSong (h : LineageInvariant profileId db) {row : Song}
    (hcurrent : row.currentVersionId = none) (happroved : row.approvedVersionId = none)
    (hinsert : db.insertSong row = .ok after) :
    Extends profileId db after ∧ after.HasSong row.id := by
  simp only [LineageDb.insertSong, bind_eq_ok, require_eq_ok, Except.ok.injEq] at hinsert
  obtain ⟨-, hnew, -, htitle, -, hartist, rfl⟩ := hinsert
  have hrecorded : Recorded db { db with songs := db.songs ++ [row] } :=
    ⟨List.prefix_rfl, List.prefix_rfl, List.prefix_rfl, by
      rw [List.map_append]
      exact List.prefix_append _ _⟩
  refine ⟨⟨?_, hrecorded⟩, row, List.mem_append_right _ (List.mem_singleton_self row), rfl⟩
  constructor
  · obtain ⟨artist, hmem, activeSongId, hmetadata, hactive⟩ := h.metadata
    exact ⟨artist, hmem, activeSongId, hmetadata, fun hne ↦ hrecorded.hasSong (hactive hne)⟩
  · obtain ⟨hartists, hsongs, hrest⟩ := h.checks
    refine ⟨hartists, List.forall_mem_append.mpr ⟨hsongs, ?_⟩, hrest⟩
    exact List.forall_mem_singleton.mpr htitle
  · exact h.versionIds
  · exact h.ordinals
  · exact h.parents
  · exact fun version hversion ↦ hrecorded.hasSong (h.versionSongs version hversion)
  · exact fun asset hasset ↦ hrecorded.hasSong (h.assetSongs asset hasset)
  · exact List.forall_mem_append.mpr ⟨h.artists, List.forall_mem_singleton.mpr hartist⟩
  · refine List.forall_mem_append.mpr ⟨h.current, List.forall_mem_singleton.mpr ?_⟩
    intro versionId hversion
    cases hcurrent.symm.trans hversion
  · refine List.forall_mem_append.mpr ⟨h.approved, List.forall_mem_singleton.mpr ?_⟩
    intro versionId hversion
    cases happroved.symm.trans hversion
  · exact h.attached

theorem extends_insertAsset (h : LineageInvariant profileId db) {row : Asset}
    (hinsert : db.insertAsset row = .ok after) : Extends profileId db after := by
  simp only [LineageDb.insertAsset, bind_eq_ok, require_eq_ok, Except.ok.injEq] at hinsert
  obtain ⟨-, hnew, -, hname, -, hlength, -, hsong, rfl⟩ := hinsert
  have hrecorded : Recorded db { db with assets := db.assets ++ [row] } :=
    ⟨List.prefix_rfl, List.prefix_append _ _, List.prefix_rfl, List.prefix_rfl⟩
  refine ⟨?_, hrecorded⟩
  constructor
  · exact h.metadata
  · obtain ⟨hartists, hsongs, hassets, hrest⟩ := h.checks
    refine ⟨hartists, hsongs, List.forall_mem_append.mpr ⟨hassets, ?_⟩, hrest⟩
    exact List.forall_mem_singleton.mpr ⟨hname, hlength⟩
  · exact h.versionIds
  · exact h.ordinals
  · exact h.parents
  · exact h.versionSongs
  · exact List.forall_mem_append.mpr ⟨h.assetSongs, List.forall_mem_singleton.mpr hsong⟩
  · exact h.artists
  · exact h.current
  · exact h.approved
  · intro link hlink
    obtain ⟨version, hversion, asset, hasset, hfields⟩ := h.attached link hlink
    exact ⟨version, hversion, asset, List.mem_append_left _ hasset, hfields⟩

/-- The next ordinal of a song follows its versions. -/
theorem LineageInvariant.nextOrdinal_eq (h : LineageInvariant profileId db) (songId : String) :
    db.nextOrdinal songId = (db.versionsOf songId).length + 1 := by
  have hmax : ∀ n, (List.range' 1 n).foldl max 0 = n := by
    intro n
    induction n with
    | zero => rfl
    | succ n ih =>
      rw [List.range'_1_concat, List.foldl_append, ih, List.foldl_cons, List.foldl_nil]
      omega
  rw [LineageDb.nextOrdinal, h.ordinals, hmax]

/-- A version with the next ordinal of its song. -/
theorem extends_insertVersion (h : LineageInvariant profileId db) {row : Version}
    (hordinal : row.ordinal = db.nextOrdinal row.songId)
    (hinsert : db.insertVersion row = .ok after) : Extends profileId db after := by
  simp only [LineageDb.insertVersion, bind_eq_ok, require_eq_ok, Except.ok.injEq] at hinsert
  obtain ⟨-, hparent, -, hnew, -, -, -, hpositive, -, hlabel, -, hsong, rfl⟩ := hinsert
  have hrecorded : Recorded db { db with versions := db.versions ++ [row] } :=
    ⟨List.prefix_append _ _, List.prefix_rfl, List.prefix_rfl, List.prefix_rfl⟩
  rw [h.nextOrdinal_eq] at hordinal
  have hbelow : ∀ version ∈ db.versions, version.songId = row.songId →
      version.ordinal < row.ordinal := by
    intro version hversion hsame
    have hmem : version.ordinal ∈ (db.versionsOf row.songId).map Version.ordinal :=
      List.mem_map_of_mem (List.mem_filter.mpr ⟨hversion, decide_eq_true hsame⟩)
    rw [h.ordinals, List.mem_range'_1] at hmem
    omega
  refine ⟨?_, hrecorded⟩
  constructor
  · exact h.metadata
  · obtain ⟨hartists, hsongs, hassets, hversions, hlinks⟩ := h.checks
    refine ⟨hartists, hsongs, hassets, List.forall_mem_append.mpr ⟨hversions, ?_⟩, hlinks⟩
    exact List.forall_mem_singleton.mpr ⟨hpositive, hlabel⟩
  · rw [List.map_append]
    refine h.versionIds.append (List.nodup_singleton _) ?_
    simp only [List.map_cons, List.map_nil, List.disjoint_singleton, List.mem_map, not_exists, not_and]
    exact hnew
  · intro songId
    rw [LineageDb.versionsOf, List.filter_append]
    by_cases hsame : row.songId = songId
    · subst hsame
      rw [List.filter_singleton, decide_eq_true rfl, Bool.cond_true, List.map_append,
        List.length_append, List.map_singleton, List.length_singleton, List.range'_1_concat, hordinal,
        Nat.add_comm 1]
      exact congrArg (· ++ _) (h.ordinals row.songId)
    · rw [List.filter_singleton, decide_eq_false hsame, Bool.cond_false, List.append_nil]
      exact h.ordinals songId
  · refine List.forall_mem_append.mpr ⟨fun version hversion parentId hid ↦ ?_,
      List.forall_mem_singleton.mpr fun parentId hid ↦ ?_⟩
    · obtain ⟨parent, hmem, hfields⟩ := h.parents version hversion parentId hid
      exact ⟨parent, List.mem_append_left _ hmem, hfields⟩
    · obtain ⟨parent, hmem, hparentId, hsame⟩ := hparent parentId hid
      exact ⟨parent, List.mem_append_left _ hmem, hparentId, hsame, hbelow parent hmem hsame⟩
  · exact List.forall_mem_append.mpr ⟨h.versionSongs, List.forall_mem_singleton.mpr hsong⟩
  · exact h.assetSongs
  · exact h.artists
  · exact fun song hmem versionId hid ↦ hrecorded.hasVersion (h.current song hmem versionId hid)
  · exact fun song hmem versionId hid ↦ hrecorded.hasVersion (h.approved song hmem versionId hid)
  · intro link hlink
    obtain ⟨version, hversion, hfields⟩ := h.attached link hlink
    exact ⟨version, List.mem_append_left _ hversion, hfields⟩

theorem extends_insertVersionAsset (h : LineageInvariant profileId db) {row : VersionAsset}
    (hinsert : db.insertVersionAsset row = .ok after) : Extends profileId db after := by
  simp only [LineageDb.insertVersionAsset, bind_eq_ok, require_eq_ok, Except.ok.injEq] at hinsert
  obtain ⟨-, hattached, -, -, -, hrole, rfl⟩ := hinsert
  have hrecorded : Recorded db { db with versionAssets := db.versionAssets ++ [row] } :=
    ⟨List.prefix_rfl, List.prefix_rfl, List.prefix_append _ _, List.prefix_rfl⟩
  obtain ⟨hartists, hsongs, hassets, hversions, hlinks⟩ := h.checks
  refine ⟨{ h with checks := ?_, attached := ?_ }, hrecorded⟩
  · refine ⟨hartists, hsongs, hassets, hversions, List.forall_mem_append.mpr ⟨hlinks, ?_⟩⟩
    exact List.forall_mem_singleton.mpr hrole
  · exact List.forall_mem_append.mpr ⟨h.attached, List.forall_mem_singleton.mpr hattached⟩

theorem extends_insertVersionAssets {versionId : String} {assetIds : List String}
    (h : LineageInvariant profileId db)
    (hinsert : LineageDb.insertVersionAssets versionId assetIds db = .ok after) :
    Extends profileId db after := by
  induction assetIds generalizing db with
  | nil =>
    cases hinsert
    exact ⟨h, .refl _⟩
  | cons assetId rest ih =>
    rw [LineageDb.insertVersionAssets, bind_eq_ok] at hinsert
    obtain ⟨middle, hfirst, hrest⟩ := hinsert
    have hextends := extends_insertVersionAsset h hfirst
    exact hextends.trans (ih hextends.invariant hrest)

/-- A song row is changed in its current or its approved version. -/
theorem extends_updateSong (h : LineageInvariant profileId db) {songId versionId : String}
    {change : Song → Song}
    (hchange : ∀ song, (change song).id = song.id ∧ (change song).artistId = song.artistId ∧
      (change song).title = song.title ∧
      ((change song).currentVersionId = song.currentVersionId ∨
        (change song).currentVersionId = some versionId) ∧
      ((change song).approvedVersionId = song.approvedVersionId ∨
        (change song).approvedVersionId = some versionId))
    (hversion : ∀ song ∈ db.songs, song.id = songId →
      ∃ version ∈ db.versions, version.id = versionId ∧ version.songId = song.id) :
    Extends profileId db { db with
      songs := db.songs.map fun song ↦ if song.id = songId then change song else song } := by
  have hid : ∀ song, (if song.id = songId then change song else song).id = song.id := by
    intro song
    split_ifs
    · exact (hchange song).1
    · rfl
  have hids : (db.songs.map fun song ↦ if song.id = songId then change song else song).map Song.id =
      db.songs.map Song.id := by
    rw [List.map_map]
    exact List.map_congr_left fun song _ ↦ hid song
  have hrecorded : Recorded db { db with
      songs := db.songs.map fun song ↦ if song.id = songId then change song else song } :=
    ⟨List.prefix_rfl, List.prefix_rfl, List.prefix_rfl, hids ▸ List.prefix_rfl⟩
  refine ⟨?_, hrecorded⟩
  constructor
  · obtain ⟨artist, hmem, activeSongId, hmetadata, hactive⟩ := h.metadata
    exact ⟨artist, hmem, activeSongId, hmetadata, fun hne ↦ hrecorded.hasSong (hactive hne)⟩
  · obtain ⟨hartists, hsongs, hrest⟩ := h.checks
    refine ⟨hartists, List.forall_mem_map.mpr fun song hsong ↦ ?_, hrest⟩
    split_ifs
    · rw [(hchange song).2.2.1]
      exact hsongs song hsong
    · exact hsongs song hsong
  · exact h.versionIds
  · exact h.ordinals
  · exact h.parents
  · exact fun version hmem ↦ hrecorded.hasSong (h.versionSongs version hmem)
  · exact fun asset hasset ↦ hrecorded.hasSong (h.assetSongs asset hasset)
  · refine List.forall_mem_map.mpr fun song hsong ↦ ?_
    split_ifs
    · rw [(hchange song).2.1]
      exact h.artists song hsong
    · exact h.artists song hsong
  · refine List.forall_mem_map.mpr fun song hsong other hother ↦ ?_
    rw [hid]
    split_ifs at hother with hsame
    · rcases (hchange song).2.2.2.1 with hkept | hset
      · exact h.current song hsong other (hkept ▸ hother)
      · cases hset.symm.trans hother
        exact hversion song hsong hsame
    · exact h.current song hsong other hother
  · refine List.forall_mem_map.mpr fun song hsong other hother ↦ ?_
    rw [hid]
    split_ifs at hother with hsame
    · rcases (hchange song).2.2.2.2 with hkept | hset
      · exact h.approved song hsong other (hkept ▸ hother)
      · cases hset.symm.trans hother
        exact hversion song hsong hsame
    · exact h.approved song hsong other hother
  · exact h.attached

theorem extends_updateCurrentVersion (h : LineageInvariant profileId db) {songId versionId : String}
    (hupdate : db.updateCurrentVersion songId versionId = .ok after) : Extends profileId db after := by
  simp only [LineageDb.updateCurrentVersion, bind_eq_ok, require_eq_ok, Except.ok.injEq] at hupdate
  obtain ⟨-, hversion, rfl⟩ := hupdate
  exact extends_updateSong h (fun song ↦ ⟨rfl, rfl, rfl, .inr rfl, .inl rfl⟩) hversion

theorem extends_updateApprovedVersion (h : LineageInvariant profileId db)
    {songId versionId : String} (hupdate : db.updateApprovedVersion songId versionId = .ok after) :
    Extends profileId db after := by
  simp only [LineageDb.updateApprovedVersion, bind_eq_ok, require_eq_ok, Except.ok.injEq] at hupdate
  obtain ⟨-, hversion, rfl⟩ := hupdate
  exact extends_updateSong h (fun song ↦ ⟨rfl, rfl, rfl, .inl rfl, .inr rfl⟩) hversion

/-! ### The calls -/

/-- The transactions of a call keep the invariant and extend the tables, whatever was read. -/
abbrev Sound {α : Type} (profileId : String) (call : LineageCall α) : Prop :=
  Preserves (LineageInvariant profileId) Recorded call

theorem sound_transaction {change : LineageDb → Checked LineageDb}
    (h : ∀ db after, LineageInvariant profileId db → change db = .ok after →
      Extends profileId db after) : Sound profileId (.transaction change) :=
  preserves_transaction fun db after hdb hchange ↦
    ⟨(h db after hdb hchange).recorded, (h db after hdb hchange).invariant⟩

theorem sound_requireSong (songId : String) : Sound profileId (requireSong profileId songId) :=
  (preserves_select _).bind fun _ ↦ preserves_fromExcept _

theorem sound_requireAssetForSong (assetId songId : String) :
    Sound profileId (requireAssetForSong profileId assetId songId) :=
  (preserves_select _).bind fun _ ↦ preserves_fromExcept _

theorem sound_requireAssets (songId : String) (assetIds : List String) :
    Sound profileId (requireAssets profileId songId assetIds) := by
  induction assetIds with
  | nil => exact preserves_pure _
  | cons assetId rest ih => exact (sound_requireAssetForSong assetId songId).bind fun _ ↦ ih

theorem sound_createSong (uuid : Uuid) (title : String) : Sound profileId (createSong uuid title) := by
  refine (preserves_fromExcept _).bind fun title ↦ ?_
  refine (sound_transaction fun db after hdb hchange ↦ ?_).bind fun _ ↦
    (preserves_select _).bind fun _ ↦ preserves_fromExcept _
  simp only [bind_eq_ok, orRaise_eq_ok, Except.ok.injEq] at hchange
  obtain ⟨artistId, -, middle, hinsert, rfl⟩ := hchange
  obtain ⟨hextends, hsong⟩ := extends_insertSong hdb rfl rfl hinsert
  exact hextends.trans (extends_setMetadata hextends.invariant hsong)

/-- The song that `_require_song` returns is in the store. -/
theorem keeps_requireSong (committed : Bool) (songId : String) (s : LineageDb) :
    Keeps (LineageInvariant profileId) Recorded
      (fun _ r t ↦ ∀ song, r = .ok song → t.HasSong song.id) committed
      (requireSong profileId songId) s := by
  refine keeps_select fun t _ _ song hsong ↦ ?_
  rw [orRaise_eq_ok] at hsong
  exact ⟨song, List.mem_of_find?_eq_some hsong, rfl⟩

/-- The song that is made active was read before, and songs stay. -/
theorem sound_selectSong (songId : String) : Sound profileId (selectSong profileId songId) := by
  refine ⟨fun committed s ↦ keeps_bind ((keeps_requireSong committed songId s).mono fun c r t h ↦ ?_)⟩
  cases r with
  | error e => trivial
  | ok song =>
    refine keeps_transaction (fun _ _ _ _ ↦ trivial) fun u v hrely hu hchange ↦ ?_
    cases hchange
    have hextends := extends_setMetadata hu ((recorded_of_commits hrely).hasSong (h song rfl))
    exact ⟨hextends.recorded, hextends.invariant, trivial⟩

theorem sound_attachAsset (uuid : Uuid) (songId name sha256 : String) (sourceUri : Option String) :
    Sound profileId (attachAsset profileId uuid songId name sha256 sourceUri) := by
  refine (sound_requireSong songId).bind fun _ ↦ (preserves_fromExcept _).bind fun name ↦
    (preserves_fromExcept _).bind fun _ ↦ ?_
  exact (sound_transaction fun db after hdb hchange ↦ extends_insertAsset hdb hchange).bind fun _ ↦
    preserves_pure _

/-- The transaction of `create_version`. -/
theorem extends_createVersion {versionId songId label : String} {parentVersionId : Option String}
    {assetIds : List String} {makeCurrent : Bool} (h : LineageInvariant profileId db)
    (hchange : (do
      let ordinal := db.nextOrdinal songId
      let db ← db.insertVersion ⟨versionId, songId, ordinal, label, parentVersionId⟩
      let db ← LineageDb.insertVersionAssets versionId assetIds db
      if makeCurrent then db.updateCurrentVersion songId versionId else .ok db) = .ok after) :
    Extends profileId db after := by
  simp only [bind_eq_ok] at hchange
  obtain ⟨inserted, hinsert, linked, hlink, hcurrent⟩ := hchange
  have hinserted := extends_insertVersion h rfl hinsert
  have hlinked := hinserted.trans (extends_insertVersionAssets hinserted.invariant hlink)
  split_ifs at hcurrent
  · exact hlinked.trans (extends_updateCurrentVersion hlinked.invariant hcurrent)
  · cases hcurrent
    exact hlinked

theorem sound_createVersion (uuid : Uuid) (songId label : String) (parentVersionId : Option String)
    (assetIds : List String) (makeCurrent : Bool) :
    Sound profileId (createVersion profileId uuid songId label parentVersionId assetIds
      makeCurrent) := by
  refine (sound_requireSong songId).bind fun _ ↦ (preserves_fromExcept _).bind fun label ↦ ?_
  have hrest : Sound profileId (do
      let normalizedAssets := assetIds.eraseDups
      requireAssets profileId songId normalizedAssets
      let versionId := newId "ver" uuid
      .transaction fun db ↦ do
        let ordinal := db.nextOrdinal songId
        let db ← db.insertVersion ⟨versionId, songId, ordinal, label, parentVersionId⟩
        let db ← LineageDb.insertVersionAssets versionId normalizedAssets db
        if makeCurrent then db.updateCurrentVersion songId versionId else .ok db
      let version ← getVersion versionId
      .fromExcept (orRaise version ⟨.assertionError, ""⟩)) := by
    refine (sound_requireAssets songId _).bind fun _ ↦ ?_
    exact (sound_transaction fun db after hdb hchange ↦ extends_createVersion hdb hchange).bind
      fun _ ↦ (preserves_select _).bind fun _ ↦ preserves_fromExcept _
  cases parentVersionId with
  | none => exact hrest
  | some parentId =>
    exact (preserves_select _).bind fun _ ↦ (preserves_fromExcept _).bind fun _ ↦ hrest

theorem sound_requireVersionForSong (songId versionId : String) :
    Sound profileId (requireVersionForSong profileId songId versionId) :=
  (sound_requireSong songId).bind fun _ ↦ (preserves_select _).bind fun _ ↦ preserves_fromExcept _

theorem sound_setCurrentVersion (songId versionId : String) :
    Sound profileId (setCurrentVersion profileId songId versionId) := by
  refine (sound_requireVersionForSong songId versionId).bind fun _ ↦ ?_
  exact (sound_transaction fun db after hdb hchange ↦ extends_updateCurrentVersion hdb hchange).bind
    fun _ ↦ sound_requireSong songId

theorem sound_approveVersion (songId versionId : String) :
    Sound profileId (approveVersion profileId songId versionId) := by
  refine (sound_requireVersionForSong songId versionId).bind fun _ ↦ ?_
  exact (sound_transaction fun db after hdb hchange ↦ extends_updateApprovedVersion hdb hchange).bind
    fun _ ↦ sound_requireSong songId

theorem sound_lineageProgram (operation : LineageOperation) :
    Sound profileId (lineageProgram profileId operation) := by
  cases operation with
  | createSong uuid title => exact (sound_createSong uuid title).map _
  | selectSong songId => exact (sound_selectSong songId).map _
  | attachAsset uuid songId name sha256 sourceUri =>
    exact (sound_attachAsset uuid songId name sha256 sourceUri).map _
  | createVersion uuid songId label parentVersionId assetIds makeCurrent =>
    exact (sound_createVersion uuid songId label parentVersionId assetIds makeCurrent).map _
  | setCurrentVersion songId versionId => exact (sound_setCurrentVersion songId versionId).map _
  | approveVersion songId versionId => exact (sound_approveVersion songId versionId).map _

/-! ### Runs -/

/-- The id of a profile has the form that `open` asks for. -/
theorem isProfileId_newId (uuid : Uuid) : isProfileId (newId "prf" uuid) = true := by
  have htoList : (newId "prf" uuid).toList = "prf_".toList ++ uuid.hex := String.toList_ofList
  have htake : ("prf_".toList ++ uuid.hex).take 4 = "prf_".toList := List.take_left' rfl
  have hdrop : ("prf_".toList ++ uuid.hex).drop 4 = uuid.hex := List.drop_left' rfl
  rw [isProfileId, htoList, htake, hdrop, uuid.length, uuid.digits]
  rfl

/-- A new store. -/
theorem invariant_create {profile artist : Uuid} {artistName : String}
    (hcreate : LineageDb.create profile artist artistName = .ok (profileId, db)) :
    profileId = newId "prf" profile ∧ LineageInvariant profileId db := by
  simp only [LineageDb.create, LineageDb.initializeDb, bind_eq_ok, require_eq_ok, Except.ok.injEq,
    Prod.mk.injEq] at hcreate
  obtain ⟨name, -, _, ⟨-, hname, rfl⟩, -, -, rfl, rfl⟩ := hcreate
  refine ⟨rfl, ?_⟩
  constructor
  · exact ⟨_, List.mem_singleton_self _, "", rfl, fun hne ↦ absurd rfl hne⟩
  · exact ⟨List.forall_mem_singleton.mpr hname, List.forall_mem_nil _, List.forall_mem_nil _,
      List.forall_mem_nil _, List.forall_mem_nil _⟩
  · exact List.nodup_nil
  · exact fun _ ↦ rfl
  all_goals exact List.forall_mem_nil _

/-- In every run of calls on a new store, whatever their interleaving, every state is in order, what it
records is recorded in every later state, and the store can be opened again. -/
theorem lineage_consistent {profile artist : Uuid} {artistName profileId : String} {db : LineageDb}
    (hcreate : LineageDb.create profile artist artistName = .ok (profileId, db))
    {events more : List (SharedEvent LineageOperation (Raised LineageErrorClass))}
    {w w' : Shared LineageDb (Raised LineageErrorClass) LineageAnswer}
    (hrun : runEvents (stepShared (lineageProgram profileId)) ⟨db, []⟩ events = some w)
    (hmore : runEvents (stepShared (lineageProgram profileId)) w more = some w') :
    Consistent w.store ∧ Recorded w.store w'.store ∧ w.store.openStore profileId = .ok ⟨⟩ := by
  obtain ⟨hid, hinvariant⟩ := invariant_create hcreate
  have hsound : ∀ operation s, LineageInvariant profileId s →
      Keeps (LineageInvariant profileId) Recorded (fun _ _ _ ↦ True) false
        (lineageProgram profileId operation) s :=
    fun operation s _ ↦ (sound_lineageProgram operation).keeps false s
  have hstart : Shared.Kept (LineageInvariant profileId) Recorded (fun _ _ _ ↦ True)
      (⟨db, []⟩ : Shared LineageDb (Raised LineageErrorClass) LineageAnswer) :=
    ⟨hinvariant, List.forall_mem_nil _⟩
  obtain ⟨-, hkept⟩ := kept_of_run hsound hstart hrun
  obtain ⟨hcommits, -⟩ := kept_of_run hsound hkept hmore
  refine ⟨hkept.store.consistent, recorded_of_commits hcommits, ?_⟩
  simp only [LineageDb.openStore, bind_eq_ok, require_eq_ok]
  exact ⟨⟨⟩, hid ▸ isProfileId_newId profile, hkept.store.validateExisting⟩

end

/-! ### A run -/

/-- The id of the song of the run. -/
def sampleSong : String := newId "song" (uuidEnding 2)

/-- A call makes so many statements. -/
def statements (i n : ℕ) : List (SharedEvent LineageOperation (Raised LineageErrorClass)) :=
  List.replicate n (.advance i)

/-- Two connections record a version of a new song at the same time. -/
def versionEvents : List (SharedEvent LineageOperation (Raised LineageErrorClass)) :=
  [.start (.createSong (uuidEnding 2) "Dawn")] ++ statements 0 2 ++
    [.start (.createVersion (uuidEnding 3) sampleSong "first" none [] true),
      .start (.createVersion (uuidEnding 4) sampleSong "second" none [] true),
      .advance 1, .advance 2, .advance 2, .advance 1] ++ statements 1 1

def approvalEvents : List (SharedEvent LineageOperation (Raised LineageErrorClass)) :=
  [.start (.approveVersion sampleSong (newId "ver" (uuidEnding 3)))] ++ statements 3 3

/-- The states of the run are in order. -/
theorem sample_consistent : ∃ profileId db w w',
    LineageDb.create (uuidEnding 0) (uuidEnding 1) "Ada" = .ok (profileId, db) ∧
    runEvents (stepShared (lineageProgram profileId)) ⟨db, []⟩ versionEvents = some w ∧
    runEvents (stepShared (lineageProgram profileId)) w approvalEvents = some w' ∧
    Consistent w.store ∧ Recorded w.store w'.store ∧ w.store.openStore profileId = .ok ⟨⟩ := by
  have hcreated : ((LineageDb.create (uuidEnding 0) (uuidEnding 1) "Ada").toOption.bind
      fun (profileId, db) ↦ (runEvents (stepShared (lineageProgram profileId)) ⟨db, []⟩
        versionEvents).bind fun w ↦
          runEvents (stepShared (lineageProgram profileId)) w approvalEvents).isSome = true := by
    decide +kernel
  obtain ⟨w', hrun⟩ := Option.isSome_iff_exists.mp hcreated
  obtain ⟨⟨profileId, db⟩, hcreate, hrun⟩ := Option.bind_eq_some_iff.mp hrun
  obtain ⟨w, hfirst, hsecond⟩ := Option.bind_eq_some_iff.mp hrun
  have hok : LineageDb.create (uuidEnding 0) (uuidEnding 1) "Ada" = .ok (profileId, db) := by
    revert hcreate
    cases LineageDb.create (uuidEnding 0) (uuidEnding 1) "Ada" with
    | error e => exact nofun
    | ok created => exact fun hcreate ↦ congrArg Except.ok (Option.some.inj hcreate)
  exact ⟨profileId, db, w, w', hok, hfirst, hsecond, lineage_consistent hok hfirst hsecond⟩

end N0te.Lineage
