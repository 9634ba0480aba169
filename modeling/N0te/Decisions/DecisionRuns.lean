import N0te.Decisions.VersionDecisions
import Mathlib.Data.List.Perm.Subperm
import N0te.Lineage.LineageInvariant

/-!
# Runs of decisions on versions

Whatever the other connections commit, the transactions of `approve` and `record` commit exactly under
the conditions that were shown to the artist, and change what they say (`approveChange_iff`,
`recordChange_iff`). After its commit `approve` reads the song again outside of the transaction, and
raises if another connection has moved its current or approved version by then. A run in which that
never happens reports the truth (`decisions_reported`).
-/

set_option autoImplicit false
set_option relaxedAutoImplicit false

namespace N0te.Decisions

open Library Lineage

/-! ### What is checked -/

/-- The state of a song that an approval is bound to. -/
structure ApprovalGuard (binding : VersionApprovalBinding) (db : LineageDb) : Prop where
  active : db.metadata.lookup "active_song_id" = some binding.songId
  song : ∃ song ∈ db.songs, song.id = binding.songId ∧
    song.currentVersionId = binding.expectedCurrentVersionId ∧
    song.approvedVersionId = binding.expectedApprovedVersionId
  target : db.HasVersion binding.songId binding.targetVersionId
  another : binding.expectedApprovedVersionId ≠ some binding.targetVersionId

/-- The state of a song that a comparison is bound to. -/
structure CompareGuard (binding : VersionCompareDecisionBinding) (db : LineageDb) : Prop where
  active : db.metadata.lookup "active_song_id" = some binding.songId
  song : ∃ song ∈ db.songs, song.id = binding.songId ∧
    song.currentVersionId = some binding.currentVersionId
  distinct : binding.referenceVersionId ≠ binding.currentVersionId
  reference : db.HasVersion binding.songId binding.referenceVersionId
  current : db.HasVersion binding.songId binding.currentVersionId

/-- The invariant of the tables. -/
structure DecisionInvariant (profileId : String) (db : DecisionDb) : Prop where
  lineage : LineageInvariant profileId db.lineage
  songIds : (db.lineage.songs.map Song.id).Nodup

/-! ### Rows by their ids -/

section

variable {α : Type} {l : List α} {key : α → String} {a : α} {id : String}

/-- Of rows with distinct ids the one with an id is found. -/
theorem find?_eq_some_of_nodup (hl : (l.map key).Nodup) (ha : a ∈ l) (hkey : key a = id) :
    (l.find? fun row ↦ decide (key row = id)) = some a := by
  induction l with
  | nil => cases ha
  | cons first rest ih =>
    rw [List.map_cons, List.nodup_cons] at hl
    rcases List.mem_cons.mp ha with rfl | hrest
    · rw [List.find?_cons_of_pos (by simpa using hkey)]
    · have hne : key first ≠ id := fun heq ↦
        hl.1 (List.mem_map.mpr ⟨a, hrest, hkey.trans heq.symm⟩)
      rw [List.find?_cons_of_neg (by simpa using hne)]
      exact ih hl.2 hrest

/-- Of rows with distinct ids only one makes something, if making something asks for its id. -/
theorem filterMap_eq_singleton_of_nodup {β : Type} {g : α → Option β} {b : β}
    (hl : (l.map key).Nodup) (ha : a ∈ l) (hg : g a = some b)
    (hid : ∀ row, g row ≠ none → key row = key a) : l.filterMap g = [b] := by
  induction l with
  | nil => cases ha
  | cons first rest ih =>
    rw [List.map_cons, List.nodup_cons] at hl
    rcases List.mem_cons.mp ha with rfl | hrest
    · have hnone : rest.filterMap g = [] := by
        rw [List.filterMap_eq_nil_iff]
        intro row hrow
        by_contra hsome
        exact hl.1 (List.mem_map.mpr ⟨row, hrow, hid row hsome⟩)
      rw [List.filterMap_cons_some hg, hnone]
    · have hnone : g first = none := by
        by_contra hsome
        exact hl.1 (List.mem_map.mpr ⟨a, hrest, (hid first hsome).symm⟩)
      rw [List.filterMap_cons_none hnone]
      exact ih hl.2 hrest

end

section

variable {profileId : String} {db after : DecisionDb}

theorem versionOf_eq_some (hdb : DecisionInvariant profileId db) {songId versionId : String} :
    (db.lineage.versions.find? fun version ↦ version.id = versionId).map Version.songId =
      some songId ↔ db.lineage.HasVersion songId versionId := by
  constructor
  · intro h
    obtain ⟨version, hfind, hsong⟩ := Option.map_eq_some_iff.mp h
    exact ⟨version, List.mem_of_find?_eq_some hfind, by simpa using List.find?_some hfind, hsong⟩
  · rintro ⟨version, hmem, hid, hsong⟩
    rw [find?_eq_some_of_nodup hdb.lineage.versionIds hmem hid, Option.map_some, hsong]

theorem songOf_eq_some (hdb : DecisionInvariant profileId db) {songId : String} {song : Song} :
    (db.lineage.songs.find? fun song ↦ song.id = songId) = some song ↔
      song ∈ db.lineage.songs ∧ song.id = songId := by
  constructor
  · intro h
    exact ⟨List.mem_of_find?_eq_some h, by simpa using List.find?_some h⟩
  · rintro ⟨hmem, hid⟩
    exact find?_eq_some_of_nodup hdb.songIds hmem hid

/-! ### Approval -/

def approvedSongs (binding : VersionApprovalBinding) (songs : List Song) : List Song :=
  songs.map fun song ↦
    if song.id = binding.songId then
      { song with approvedVersionId := some binding.targetVersionId }
    else song

/-- What an approval changes: the approved version of its song, with one event. -/
structure Approved (binding : VersionApprovalBinding) (db after : DecisionDb) : Prop where
  lineage : after.lineage =
    { db.lineage with songs := approvedSongs binding db.lineage.songs }
  decisions : after.decisions = db.decisions
  activity : ∃ artistId, after.activity = db.activity ++ [⟨.versionApproved, artistId,
    binding.songId, some binding.targetVersionId, "VERSION", binding.targetVersionId⟩]

/-- Under the guard the row that fits is the song. -/
theorem fits_iff (hdb : DecisionInvariant profileId db) {binding : VersionApprovalBinding}
    (hguard : ApprovalGuard binding db.lineage) :
    ∀ song ∈ db.lineage.songs, binding.fits song = true ↔ song.id = binding.songId := by
  obtain ⟨found, hfound, hid, hcurrent, happroved⟩ := hguard.song
  intro song hsong
  constructor
  · intro h
    exact (of_decide_eq_true h).1
  · intro h
    have hsame : song = found := List.inj_on_of_nodup_map hdb.songIds hsong hfound (h.trans hid.symm)
    rw [hsame]
    exact decide_eq_true ⟨hid, hcurrent, happroved⟩

theorem updateExact_eq (hdb : DecisionInvariant profileId db) {binding : VersionApprovalBinding}
    (hguard : ApprovalGuard binding db.lineage) : updateExact binding db.lineage =
      .ok { db.lineage with songs := approvedSongs binding db.lineage.songs } := by
  have hfits := fits_iff hdb hguard
  have htrigger : ∀ song ∈ db.lineage.songs, binding.fits song = true →
      ∃ version ∈ db.lineage.versions, version.id = binding.targetVersionId ∧
        version.songId = song.id := by
    intro song hsong hsongFits
    rw [(hfits song hsong).mp hsongFits]
    exact hguard.target
  have hsongs : db.lineage.songs.map binding.change = approvedSongs binding db.lineage.songs := by
    refine List.map_congr_left fun song hsong ↦ ?_
    simp only [VersionApprovalBinding.change, hfits song hsong]
  rw [updateExact, require, if_pos htrigger, hsongs]
  rfl

/-- The events of a pointer when the song rows were changed one by one. -/
theorem pointerEvents_map (eventType : ActivityType) (pointer : Song → Option String)
    (lineage : LineageDb) (f : Song → Song) :
    pointerEvents eventType pointer lineage { lineage with songs := lineage.songs.map f } =
      lineage.songs.filterMap fun song ↦
        if pointer (f song) = pointer song then none
        else (pointer (f song)).map fun versionId ↦
          ⟨eventType, (f song).artistId, (f song).id, some versionId, "VERSION", versionId⟩ := by
  rw [pointerEvents, ← List.map_prod_left_eq_zip, List.filterMap_map]
  rfl

theorem triggered_approvedSongs (hdb : DecisionInvariant profileId db)
    {binding : VersionApprovalBinding} (hguard : ApprovalGuard binding db.lineage) :
    ∃ artistId, triggered db.lineage
        { db.lineage with songs := approvedSongs binding db.lineage.songs } =
      [⟨.versionApproved, artistId, binding.songId, some binding.targetVersionId, "VERSION",
        binding.targetVersionId⟩] := by
  obtain ⟨song, hsong, hid, -, happroved⟩ := hguard.song
  have hselected : selectedEvents db.lineage
      { db.lineage with songs := approvedSongs binding db.lineage.songs } = [] := by
    unfold selectedEvents
    cases hlookup : db.lineage.metadata.lookup "active_song_id" with
    | none => rfl
    | some songId => simp
  have hcurrent : pointerEvents .currentVersionChanged Song.currentVersionId db.lineage
      { db.lineage with songs := approvedSongs binding db.lineage.songs } = [] := by
    rw [approvedSongs, pointerEvents_map, List.filterMap_eq_nil_iff]
    intro other _
    by_cases hother : other.id = binding.songId
    · simp only [if_pos hother, if_true]
    · simp only [if_neg hother, if_true]
  have hpointer : pointerEvents .versionApproved Song.approvedVersionId db.lineage
      { db.lineage with songs := approvedSongs binding db.lineage.songs } =
        [⟨.versionApproved, song.artistId, binding.songId, some binding.targetVersionId, "VERSION",
          binding.targetVersionId⟩] := by
    rw [approvedSongs, pointerEvents_map]
    refine filterMap_eq_singleton_of_nodup hdb.songIds hsong ?_ ?_
    · have hne : some binding.targetVersionId ≠ song.approvedVersionId :=
        fun heq ↦ hguard.another (happroved.symm.trans heq.symm)
      simp only [hid, if_true, if_neg hne, Option.map_some]
    · intro other hother
      by_contra hne
      rw [hid] at hne
      simp only [if_neg hne, if_true, ne_eq, not_true_eq_false] at hother
  refine ⟨song.artistId, ?_⟩
  rw [triggered, hselected, hcurrent, hpointer]
  simp [approvedSongs]

/-- The transaction of `approve` commits exactly under its guard, and then changes the approved
version of the song alone. -/
theorem approveChange_of_guard (hdb : DecisionInvariant profileId db)
    {binding : VersionApprovalBinding} (hguard : ApprovalGuard binding db.lineage) :
    ∃ after, approveChange binding db = .ok after ∧ Approved binding db after := by
  obtain ⟨song, hsong, hid, hcurrent, happroved⟩ := hguard.song
  obtain ⟨artistId, htriggered⟩ := triggered_approvedSongs hdb hguard
  have hcount : (db.lineage.songs.filter binding.fits).length = 1 := by
    have hfit : binding.fits song = true := ((fits_iff hdb hguard) song hsong).mpr hid
    have hone : db.lineage.songs.filterMap (Option.guard fun song ↦ binding.fits song) = [song] := by
      refine filterMap_eq_singleton_of_nodup hdb.songIds hsong (by simpa using hfit) ?_
      intro other hother
      have hotherFits : binding.fits other = true := by
        by_contra hnot
        exact hother (by simpa [Option.guard] using hnot)
      exact (of_decide_eq_true hotherFits).1.trans hid.symm
    rw [List.filterMap_eq_filter] at hone
    rw [hone, List.length_singleton]
  refine ⟨db.withLineage { db.lineage with songs := approvedSongs binding db.lineage.songs }, ?_,
    rfl, rfl, artistId, congrArg (db.activity ++ ·) htriggered⟩
  simp only [approveChange, bind_eq_ok, require_eq_ok, orRaise_eq_ok, exists_const, pure_eq_ok]
  exact ⟨_, hguard.active, rfl, song, (songOf_eq_some hdb).mpr ⟨hsong, hid⟩, hcurrent, happroved,
    (versionOf_eq_some hdb).mpr hguard.target, happroved ▸ hguard.another, _,
    updateExact_eq hdb hguard, hcount, rfl⟩

theorem guard_of_approveChange (hdb : DecisionInvariant profileId db)
    {binding : VersionApprovalBinding} (h : approveChange binding db = .ok after) :
    ApprovalGuard binding db.lineage := by
  simp only [approveChange, bind_eq_ok, require_eq_ok, orRaise_eq_ok, exists_const, pure_eq_ok] at h
  obtain ⟨active, hactive, rfl, song, hsong, hcurrent, happroved, htarget, hanother, -⟩ := h
  obtain ⟨hmem, hid⟩ := (songOf_eq_some hdb).mp hsong
  exact ⟨hactive, ⟨song, hmem, hid, hcurrent, happroved⟩, (versionOf_eq_some hdb).mp htarget,
    happroved ▸ hanother⟩

/-! ### Comparison -/

/-- Both versions of a pair are counted if they are versions of the song. -/
theorem pairCount_eq_two (hdb : DecisionInvariant profileId db)
    {binding : VersionCompareDecisionBinding}
    (hdistinct : binding.referenceVersionId ≠ binding.currentVersionId) :
    pairCount binding db.lineage = 2 ↔
      db.lineage.HasVersion binding.songId binding.referenceVersionId ∧
        db.lineage.HasVersion binding.songId binding.currentVersionId := by
  obtain ⟨counted, hcounted⟩ : ∃ counted, counted = (db.lineage.versions.filter fun version ↦
      version.songId = binding.songId ∧ (version.id = binding.referenceVersionId ∨
        version.id = binding.currentVersionId)).map Version.id := ⟨_, rfl⟩
  have hcount : pairCount binding db.lineage = counted.length := by
    rw [hcounted, List.length_map, pairCount]
  have hnodup : counted.Nodup := by
    rw [hcounted]
    exact hdb.lineage.versionIds.sublist (List.filter_sublist.map _)
  have hmem (id : String) : id ∈ counted ↔ db.lineage.HasVersion binding.songId id ∧
      (id = binding.referenceVersionId ∨ id = binding.currentVersionId) := by
    rw [hcounted, List.mem_map]
    constructor
    · rintro ⟨version, hversion, rfl⟩
      obtain ⟨hin, hkeep⟩ := List.mem_filter.mp hversion
      obtain ⟨hsong, hid⟩ := of_decide_eq_true hkeep
      exact ⟨⟨version, hin, rfl, hsong⟩, hid⟩
    · rintro ⟨⟨version, hin, rfl, hsong⟩, hid⟩
      exact ⟨version, List.mem_filter.mpr ⟨hin, decide_eq_true ⟨hsong, hid⟩⟩, rfl⟩
  have hpair : [binding.referenceVersionId, binding.currentVersionId].Nodup := by
    simpa using hdistinct
  have hsubset : counted ⊆ [binding.referenceVersionId, binding.currentVersionId] := by
    intro id hid
    simpa using ((hmem id).mp hid).2
  have hsubperm := hnodup.subperm hsubset
  rw [hcount]
  constructor
  · intro htwo
    have hperm := hsubperm.perm_of_length_le (by rw [htwo]; rfl)
    exact ⟨((hmem _).mp (hperm.mem_iff.mpr (by simp))).1,
      ((hmem _).mp (hperm.mem_iff.mpr (by simp))).1⟩
  · rintro ⟨hreference, hcurrent⟩
    have hback : [binding.referenceVersionId, binding.currentVersionId] ⊆ counted := by
      intro id hid
      rw [List.mem_cons, List.mem_singleton] at hid
      rcases hid with rfl | rfl
      · exact (hmem _).mpr ⟨hreference, .inl rfl⟩
      · exact (hmem _).mpr ⟨hcurrent, .inr rfl⟩
    exact Nat.le_antisymm hsubperm.length_le (hpair.subperm hback).length_le

/-- What can be inserted: an id that is new, and a rationale that SQLite does not take for blank. -/
structure Insertable (id : String) (note : Option String) (db : DecisionDb) : Prop where
  fresh : ∀ decision ∈ db.decisions, decision.id ≠ id
  nonblank : ∀ rationale ∈ note, sqlNonblank rationale = true

/-- What a decision changes: it is appended, with one event. -/
structure Appended (row : VersionCompareDecision) (db after : DecisionDb) : Prop where
  lineage : after.lineage = db.lineage
  decisions : after.decisions = db.decisions ++ [row]
  activity : after.activity = db.activity ++ [⟨.versionCompareDecisionRecorded, row.artistId,
    row.songId, some row.currentVersionId, "VERSION_COMPARE_DECISION", row.id⟩]

/-- A row is the one of a binding. -/
structure IsDecision (id : String) (binding : VersionCompareDecisionBinding) (kind : DecisionKind)
    (note : Option String) (row : VersionCompareDecision) : Prop where
  id : row.id = id
  songId : row.songId = binding.songId
  reference : row.referenceVersionId = binding.referenceVersionId
  current : row.currentVersionId = binding.currentVersionId
  decision : row.decision = kind
  rationale : row.rationale = note

/-- The transaction of `record` commits under its guard, and then appends its decision. -/
theorem recordChange_of_guard (hdb : DecisionInvariant profileId db) {id : String}
    {binding : VersionCompareDecisionBinding} {kind : DecisionKind} {note : Option String}
    (hinsertable : Insertable id note db) (hguard : CompareGuard binding db.lineage) :
    ∃ after, recordChange id binding kind note db = .ok after := by
  obtain ⟨song, hsong, hid, hcurrent⟩ := hguard.song
  simp only [recordChange, insertDecision, bind_eq_ok, require_eq_ok, orRaise_eq_ok, exists_const,
    pure_eq_ok]
  exact ⟨_, hguard.active, song, (songOf_eq_some hdb).mpr ⟨hsong, hid⟩, hcurrent, hguard.distinct,
    (pairCount_eq_two hdb hguard.distinct).mpr ⟨hguard.reference, hguard.current⟩,
    ⟨hguard.reference, hguard.current, song, hsong, hid, rfl⟩, hinsertable.fresh,
    ⟨hguard.distinct, hinsertable.nonblank⟩, hdb.lineage.artists song hsong, rfl⟩

theorem appended_of_recordChange (hdb : DecisionInvariant profileId db) {id : String}
    {binding : VersionCompareDecisionBinding} {kind : DecisionKind} {note : Option String}
    (h : recordChange id binding kind note db = .ok after) :
    CompareGuard binding db.lineage ∧ Insertable id note db ∧
      ∃ row, IsDecision id binding kind note row ∧ Appended row db after := by
  simp only [recordChange, insertDecision, bind_eq_ok, require_eq_ok, orRaise_eq_ok, exists_const,
    pure_eq_ok] at h
  obtain ⟨hactive, song, hsong, hcurrent, hdistinct, hpair, -, hfresh, ⟨-, hnonblank⟩, -, rfl⟩ := h
  obtain ⟨hmem, hid⟩ := (songOf_eq_some hdb).mp hsong
  obtain ⟨hreference, hcurrentVersion⟩ := (pairCount_eq_two hdb hdistinct).mp hpair
  exact ⟨⟨hactive, ⟨song, hmem, hid, hcurrent⟩, hdistinct, hreference, hcurrentVersion⟩,
    ⟨hfresh, hnonblank⟩, _, ⟨rfl, rfl, rfl, rfl, rfl, rfl⟩, rfl, rfl, rfl⟩

end

/-! ### The lineage -/

section

/-- The song ids stay distinct. -/
def KeepsSongIds (db after : LineageDb) : Prop :=
  (db.songs.map Song.id).Nodup → (after.songs.map Song.id).Nodup

variable {db after : LineageDb} {profileId : String}

theorem keepsSongIds_of_eq (h : after.songs.map Song.id = db.songs.map Song.id) :
    KeepsSongIds db after := fun hnodup ↦ h ▸ hnodup

theorem keepsSongIds_insertSong {row : Song} (h : db.insertSong row = .ok after) :
    KeepsSongIds db after := by
  simp only [LineageDb.insertSong, bind_eq_ok, require_eq_ok, exists_const, Except.ok.injEq] at h
  obtain ⟨hfresh, -, -, rfl⟩ := h
  intro hnodup
  show ((db.songs ++ [row]).map Song.id).Nodup
  rw [List.map_append, List.map_singleton, List.nodup_append]
  refine ⟨hnodup, List.nodup_singleton _, ?_⟩
  rintro id hid other hother rfl
  obtain ⟨song, hsong, rfl⟩ := List.mem_map.mp hid
  exact hfresh song hsong (List.mem_singleton.mp hother)

theorem songs_of_insertVersion {row : Version} (h : db.insertVersion row = .ok after) :
    after.songs = db.songs := by
  simp only [LineageDb.insertVersion, bind_eq_ok, require_eq_ok, exists_const, Except.ok.injEq] at h
  obtain ⟨-, -, -, -, -, -, rfl⟩ := h
  rfl

theorem songs_of_insertVersionAssets {versionId : String} {assetIds : List String}
    (h : LineageDb.insertVersionAssets versionId assetIds db = .ok after) :
    after.songs = db.songs := by
  induction assetIds generalizing db with
  | nil =>
    rw [← Except.ok.inj h]
  | cons assetId rest ih =>
    simp only [LineageDb.insertVersionAssets, bind_eq_ok] at h
    obtain ⟨inserted, hinsert, hrest⟩ := h
    rw [ih hrest]
    simp only [LineageDb.insertVersionAsset, bind_eq_ok, require_eq_ok, exists_const,
      Except.ok.injEq] at hinsert
    obtain ⟨-, -, -, rfl⟩ := hinsert
    rfl

theorem songIds_of_updateCurrentVersion {songId versionId : String}
    (h : db.updateCurrentVersion songId versionId = .ok after) :
    after.songs.map Song.id = db.songs.map Song.id := by
  simp only [LineageDb.updateCurrentVersion, bind_eq_ok, require_eq_ok, exists_const,
    Except.ok.injEq] at h
  obtain ⟨-, rfl⟩ := h
  rw [List.map_map]
  refine List.map_congr_left fun song _ ↦ ?_
  simp only [Function.comp]
  split_ifs <;> rfl

theorem songIds_of_updateApprovedVersion {songId versionId : String}
    (h : db.updateApprovedVersion songId versionId = .ok after) :
    after.songs.map Song.id = db.songs.map Song.id := by
  simp only [LineageDb.updateApprovedVersion, bind_eq_ok, require_eq_ok, exists_const,
    Except.ok.injEq] at h
  obtain ⟨-, rfl⟩ := h
  rw [List.map_map]
  refine List.map_congr_left fun song _ ↦ ?_
  simp only [Function.comp]
  split_ifs <;> rfl

theorem reads_requireSong (songId : String) : Reads (requireSong profileId songId) :=
  (reads_select _).bind fun _ ↦ reads_fromExcept _

theorem reads_requireAssets (songId : String) (assetIds : List String) :
    Reads (requireAssets profileId songId assetIds) := by
  induction assetIds with
  | nil => exact .ended _
  | cons assetId rest ih =>
    exact ((reads_select _).bind fun _ ↦ reads_fromExcept _).bind fun _ ↦ ih

theorem reads_requireVersionForSong (songId versionId : String) :
    Reads (requireVersionForSong profileId songId versionId) :=
  (reads_requireSong songId).bind fun _ ↦ (reads_select _).bind fun _ ↦ reads_fromExcept _

/-- The operations of the lineage keep the song ids distinct. -/
theorem guarantees_lineageProgram (operation : LineageOperation) :
    Guarantees KeepsSongIds (lineageProgram profileId operation) := by
  cases operation with
  | createSong uuid title =>
    refine Guarantees.map ((reads_fromExcept _).guarantees.bind fun title ↦ ?_) _
    refine (guarantees_transaction fun db after h ↦ ?_).bind fun _ ↦
      ((reads_select _).bind fun _ ↦ reads_fromExcept _).guarantees
    simp only [bind_eq_ok, orRaise_eq_ok, Except.ok.injEq] at h
    obtain ⟨artistId, -, inserted, hinsert, rfl⟩ := h
    have hkeeps := keepsSongIds_insertSong hinsert
    exact fun hnodup ↦ hkeeps hnodup
  | selectSong songId =>
    refine Guarantees.map ((reads_requireSong songId).guarantees.bind fun song ↦ ?_) _
    refine (guarantees_transaction fun db after h ↦ ?_).bind fun _ ↦ guarantees_pure _
    rw [← Except.ok.inj h]
    exact id
  | attachAsset uuid songId name sha256 sourceUri =>
    refine Guarantees.map ((reads_requireSong songId).guarantees.bind fun song ↦ ?_) _
    refine (reads_fromExcept _).guarantees.bind fun name ↦ ?_
    refine (reads_fromExcept _).guarantees.bind fun _ ↦ ?_
    refine (guarantees_transaction fun db after h ↦ ?_).bind fun _ ↦ guarantees_pure _
    simp only [LineageDb.insertAsset, bind_eq_ok, require_eq_ok, exists_const, Except.ok.injEq] at h
    obtain ⟨-, -, -, -, rfl⟩ := h
    exact id
  | createVersion uuid songId label parentVersionId assetIds makeCurrent =>
    refine Guarantees.map ((reads_requireSong songId).guarantees.bind fun song ↦ ?_) _
    refine (reads_fromExcept _).guarantees.bind fun label ↦ ?_
    have hrest : Guarantees KeepsSongIds (do
        let normalizedAssets := assetIds.eraseDups
        requireAssets profileId songId normalizedAssets
        let versionId := newId "ver" uuid
        .transaction fun db ↦ do
          let ordinal := db.nextOrdinal songId
          let db ← db.insertVersion ⟨versionId, songId, ordinal, label, parentVersionId⟩
          let db ← LineageDb.insertVersionAssets versionId normalizedAssets db
          if makeCurrent then db.updateCurrentVersion songId versionId else .ok db
        let version ← getVersion versionId
        .fromExcept (orRaise version ⟨.assertionError, ""⟩)) := by
      refine (reads_requireAssets songId _).guarantees.bind fun _ ↦ ?_
      refine (guarantees_transaction fun db after h ↦ ?_).bind fun _ ↦
        ((reads_select _).bind fun _ ↦ reads_fromExcept _).guarantees
      simp only [bind_eq_ok] at h
      obtain ⟨inserted, hinsert, linked, hlink, hcurrent⟩ := h
      have hsongs : linked.songs = db.songs :=
        (songs_of_insertVersionAssets hlink).trans (songs_of_insertVersion hinsert)
      split_ifs at hcurrent
      · exact keepsSongIds_of_eq ((songIds_of_updateCurrentVersion hcurrent).trans (by rw [hsongs]))
      · rw [← Except.ok.inj hcurrent]
        exact keepsSongIds_of_eq (by rw [hsongs])
    cases parentVersionId with
    | none => exact hrest
    | some parentId =>
      exact (reads_select _).guarantees.bind fun _ ↦
        (reads_fromExcept _).guarantees.bind fun _ ↦ hrest
  | setCurrentVersion songId versionId =>
    refine Guarantees.map
      ((reads_requireVersionForSong songId versionId).guarantees.bind fun _ ↦ ?_) _
    refine (guarantees_transaction fun db after h ↦ ?_).bind fun _ ↦
      (reads_requireSong songId).guarantees
    exact keepsSongIds_of_eq (songIds_of_updateCurrentVersion h)
  | approveVersion songId versionId =>
    refine Guarantees.map
      ((reads_requireVersionForSong songId versionId).guarantees.bind fun _ ↦ ?_) _
    refine (guarantees_transaction fun db after h ↦ ?_).bind fun _ ↦
      (reads_requireSong songId).guarantees
    exact keepsSongIds_of_eq (songIds_of_updateApprovedVersion h)

end

/-! ### How far a call has come -/

/-- A call and whether it has committed. -/
abbrev DecisionSession := Session DecisionDb (Raised DecisionErrorClass) DecisionAnswer

/-- A call that raised has committed nothing. -/
def Honest (session : DecisionSession) : Prop :=
  ∀ e, session.call = .ended (.error e) → session.committed = false

def Unmoved (binding : VersionApprovalBinding) (song : Song) : Prop :=
  song.currentVersionId = binding.expectedCurrentVersionId ∧
    song.approvedVersionId = some binding.targetVersionId

/-- How far a call of `approve` has come. -/
inductive ApprovalStage (binding : VersionApprovalBinding) (db : DecisionDb) : DecisionSession → Prop
  | waiting : ApprovalStage binding db ⟨.approved <$> approve binding, false⟩
  | committed (hsong : db.lineage.HasSong binding.songId)
      (htarget : db.lineage.HasVersion binding.songId binding.targetVersionId) :
    ApprovalStage binding db ⟨.approved <$> readApproved binding, true⟩
  | read (song : Song) (hsong : Unmoved binding song)
      (htarget : db.lineage.HasVersion binding.songId binding.targetVersionId) :
    ApprovalStage binding db ⟨.approved <$> readTarget binding (some song), true⟩
  | ended (result : Except (Raised DecisionErrorClass) DecisionAnswer) (committed : Bool)
      (hhonest : Honest ⟨.ended result, committed⟩) : ApprovalStage binding db ⟨.ended result, committed⟩

/-- The transaction of `record`, and what follows it. -/
def recordFrom (id : String) (binding : VersionCompareDecisionBinding) (kind : DecisionKind)
    (note : Option String) : DecisionCall DecisionAnswer :=
  .transact (recordChange id binding kind note) (.recorded <$> readRecorded id kind)
    fun e ↦ .ended (.error (recordRaised e))

/-- How far a call of `record` has come. -/
inductive CompareStage (uuid : Uuid) (binding : VersionCompareDecisionBinding) (decision : String)
    (rationale : Option String) (db : DecisionDb) : DecisionSession → Prop
  | waiting (kind : DecisionKind) (note : Option String) (hkind : decisionKind decision = .ok kind)
      (hnote : optionalRationale rationale = .ok note) :
    CompareStage uuid binding decision rationale db
      ⟨recordFrom (newId "vcd" uuid) binding kind note, false⟩
  | committed (kind : DecisionKind) (row : VersionCompareDecision)
      (hrow : (db.decisions.find? fun decision ↦ decision.id = newId "vcd" uuid) = some row)
      (hkind : row.decision = kind) :
    CompareStage uuid binding decision rationale db
      ⟨.recorded <$> readRecorded (newId "vcd" uuid) kind, true⟩
  | ended (result : Except (Raised DecisionErrorClass) DecisionAnswer) (committed : Bool)
      (hhonest : Honest ⟨.ended result, committed⟩) :
    CompareStage uuid binding decision rationale db ⟨.ended result, committed⟩

/-- What a transaction on the lineage changes. -/
def LineageStep (db after : DecisionDb) : Prop :=
  after = db.withLineage after.lineage ∧ KeepsSongIds db.lineage after.lineage

def Known (profileId : String) : DecisionOperation → DecisionSession → DecisionDb → Prop
  | .lineage _, session, db =>
    session.Kept (fun db ↦ LineageInvariant profileId db.lineage)
        (fun db after ↦ Recorded db.lineage after.lineage) (fun _ _ _ ↦ True) db ∧
      Guarantees LineageStep session.call
  | .approve binding, session, db => ApprovalStage binding db session
  | .record uuid binding decision rationale, session, db =>
    CompareStage uuid binding decision rationale db session

/-- What a statement needs: when `approve` reads the song back, it is as the commit left it; and what
`record` inserts can be inserted. -/
def Fine : DecisionOperation → DecisionSession → DecisionDb → Prop
  | .lineage _, _, _ => True
  | .approve binding, session, db => session = ⟨.approved <$> readApproved binding, true⟩ →
    ∀ song ∈ db.lineage.songs, song.id = binding.songId → Unmoved binding song
  | .record uuid _ _ rationale, session, db => session.committed = false →
    ∀ note, optionalRationale rationale = .ok note → Insertable (newId "vcd" uuid) note db

def Stays (db after : DecisionDb) : Prop :=
  Recorded db.lineage after.lineage ∧ db.decisions <+: after.decisions

section

variable {profileId : String} {db after : DecisionDb}

theorem stays_of_lineageStep (hrecorded : Recorded db.lineage after.lineage)
    (h : LineageStep db after) : Stays db after := by
  refine ⟨hrecorded, ?_⟩
  rw [h.1]
  exact List.prefix_rfl

/-- A program of `record` has ended, or waits for its transaction. -/
theorem compareStage_start (uuid : Uuid) (binding : VersionCompareDecisionBinding)
    (decision : String) (rationale : Option String) : CompareStage uuid binding decision rationale db
      ⟨decisionProgram profileId (.record uuid binding decision rationale), false⟩ := by
  rw [decisionProgram, record]
  cases hkind : decisionKind decision with
  | error e => exact .ended _ _ fun _ _ ↦ rfl
  | ok kind =>
    cases hnote : optionalRationale rationale with
    | error e => exact .ended _ _ fun _ _ ↦ rfl
    | ok note => exact .waiting kind note hkind hnote

theorem known_start (operation : DecisionOperation) (db : DecisionDb) :
    Known profileId operation ⟨decisionProgram profileId operation, false⟩ db := by
  cases operation with
  | lineage operation =>
    constructor
    · have hsound : Preserves (LineageInvariant profileId) Recorded
          (.lineage <$> lineageProgram profileId operation : LineageCall DecisionAnswer) :=
        (sound_lineageProgram operation).map _
      have hwithin : Preserves (fun db ↦ LineageInvariant profileId db.lineage)
          (fun db after ↦ Recorded db.lineage after.lineage)
          ((.lineage <$> lineageProgram profileId operation : LineageCall DecisionAnswer).within
            DecisionDb.lineage DecisionDb.withLineage) :=
        ⟨fun committed db ↦ keeps_within (fun _ _ ↦ rfl) (hsound.keeps committed db.lineage)⟩
      exact ⟨db, .refl, (hwithin.mapError _ _).keeps false db⟩
    · refine Guarantees.mapError (Guarantees.within (fun db lineage h ↦ ?_)
        ((guarantees_lineageProgram operation).map _)) _ _
      exact ⟨rfl, h⟩
  | approve binding => exact .waiting
  | record uuid binding decision rationale => exact compareStage_start uuid binding decision rationale

/-- What is known of a call the commits of the others do not change. -/
theorem known_stable {operation : DecisionOperation} {session : DecisionSession}
    (hstays : Stays db after) (h : Known profileId operation session db) :
    Known profileId operation session after := by
  cases operation with
  | lineage operation => exact ⟨h.1.of_commit (.single hstays.1), h.2⟩
  | approve binding =>
    have h : ApprovalStage binding db session := h
    cases h with
    | waiting => exact ApprovalStage.waiting
    | committed hsong htarget =>
      exact ApprovalStage.committed (hstays.1.hasSong hsong) (hstays.1.hasVersion htarget)
    | read song hsong htarget => exact ApprovalStage.read song hsong (hstays.1.hasVersion htarget)
    | ended result committed hhonest => exact ApprovalStage.ended result committed hhonest
  | record uuid binding decision rationale =>
    have h : CompareStage uuid binding decision rationale db session := h
    cases h with
    | waiting kind note hkind hnote => exact CompareStage.waiting kind note hkind hnote
    | committed kind row hrow hkind =>
      obtain ⟨later, hlater⟩ := hstays.2
      refine CompareStage.committed kind row ?_ hkind
      rw [← hlater, List.find?_append, hrow]
      rfl
    | ended result committed hhonest => exact CompareStage.ended result committed hhonest

theorem known_locked {operation : DecisionOperation} {session ended : DecisionSession}
    {e : Raised DecisionErrorClass} (hdb : DecisionInvariant profileId db)
    (h : Known profileId operation session db) (hlocked : session.locked e = some ended) :
    Known profileId operation ended db := by
  cases operation with
  | lineage operation =>
    refine ⟨?_, h.2.locked hlocked⟩
    obtain ⟨s, hrely, hkeeps⟩ := h.1
    rcases session with ⟨result | next | ⟨change, next, raised⟩, committed⟩
    · cases hlocked
    · cases hlocked
    · cases hlocked
      exact ⟨db, .refl, (hkeeps db hrely hdb.lineage).1 e⟩
  | approve binding =>
    have h : ApprovalStage binding db session := h
    cases h with
    | waiting =>
      cases hlocked
      exact ApprovalStage.ended _ _ fun _ _ ↦ rfl
    | committed hsong htarget => cases hlocked
    | read song hsong htarget => cases hlocked
    | ended result committed hhonest => cases hlocked
  | record uuid binding decision rationale =>
    have h : CompareStage uuid binding decision rationale db session := h
    cases h with
    | waiting kind note hkind hnote =>
      cases hlocked
      exact CompareStage.ended _ _ fun _ _ ↦ rfl
    | committed kind row hrow hkind => cases hlocked
    | ended result committed hhonest => cases hlocked

/-- An approval keeps the tables in order. -/
theorem Approved.extends (hdb : DecisionInvariant profileId db) {binding : VersionApprovalBinding}
    (hguard : ApprovalGuard binding db.lineage) (h : Approved binding db after) :
    DecisionInvariant profileId after ∧ Stays db after := by
  have hupdate : db.lineage.updateApprovedVersion binding.songId binding.targetVersionId =
      .ok after.lineage := by
    rw [h.lineage, LineageDb.updateApprovedVersion, bind_eq_ok]
    refine ⟨(), require_eq_ok.mpr fun song _ hsong ↦ ?_, rfl⟩
    rw [hsong]
    exact hguard.target
  have hextends := extends_updateApprovedVersion hdb.lineage hupdate
  refine ⟨⟨hextends.invariant, ?_⟩, hextends.recorded, h.decisions ▸ List.prefix_rfl⟩
  rw [songIds_of_updateApprovedVersion hupdate]
  exact hdb.songIds

theorem Appended.extends (hdb : DecisionInvariant profileId db) {row : VersionCompareDecision}
    (h : Appended row db after) : DecisionInvariant profileId after ∧ Stays db after := by
  have hlineage := h.lineage
  refine ⟨⟨hlineage ▸ hdb.lineage, hlineage ▸ hdb.songIds⟩, ?_, h.decisions ▸ List.prefix_append _ _⟩
  rw [hlineage]
  exact Recorded.refl _

/-! ### One statement -/

/-- A statement of `approve` carries it on. -/
theorem approval_advance (hdb : DecisionInvariant profileId db) {binding : VersionApprovalBinding}
    {session next : DecisionSession} (h : ApprovalStage binding db session)
    (hfine : Fine (.approve binding) session db) (hadvance : session.advance db = some (next, after)) :
    Relation.ReflGen Stays db after ∧ DecisionInvariant profileId after ∧
      ApprovalStage binding after next := by
  cases h with
  | waiting =>
    rcases advance_transact hadvance with ⟨changed, hchange, rfl, rfl⟩ | ⟨e, -, rfl, rfl⟩
    · have hguard := guard_of_approveChange hdb hchange
      obtain ⟨same, hsame, happroved⟩ := approveChange_of_guard hdb hguard
      cases hsame.symm.trans hchange
      obtain ⟨hinvariant, hstays⟩ := happroved.extends hdb hguard
      obtain ⟨song, hsong, hid, -⟩ := hguard.song
      exact ⟨.single hstays, hinvariant, .committed (hstays.1.hasSong ⟨song, hsong, hid⟩)
        (hstays.1.hasVersion hguard.target)⟩
    · exact ⟨.refl, hdb, .ended _ _ fun _ _ ↦ rfl⟩
  | committed hsong htarget =>
    obtain ⟨rfl, rfl⟩ := advance_read hadvance
    obtain ⟨song, hmem, hid⟩ := hsong
    refine ⟨.refl, hdb, ?_⟩
    have hfind := (songOf_eq_some hdb).mpr ⟨hmem, hid⟩
    show ApprovalStage binding after ⟨.approved <$> readTarget binding
      (after.lineage.songs.find? fun song ↦ song.id = binding.songId), true⟩
    rw [hfind]
    exact .read song (hfine rfl song hmem hid) htarget
  | read song hsong htarget =>
    obtain ⟨rfl, rfl⟩ := advance_read hadvance
    obtain ⟨version, hmem, hid, -⟩ := htarget
    have hfind := find?_eq_some_of_nodup hdb.lineage.versionIds hmem hid
    have hresult : approvalResult binding (some song) (some version) = .ok ⟨song, version⟩ := by
      simp only [approvalResult, bind_eq_ok, orRaise_eq_ok, require_eq_ok, exists_const, pure_eq_ok]
      exact ⟨song, rfl, version, rfl, hsong.1, hid ▸ hsong.2, rfl⟩
    refine ⟨.refl, hdb, ?_⟩
    show ApprovalStage binding after ⟨.approved <$> Call.fromExcept (approvalResult binding (some song)
      (after.lineage.versions.find? fun version ↦ version.id = binding.targetVersionId)), true⟩
    rw [hfind, hresult]
    exact .ended (.ok (.approved ⟨song, version⟩)) true fun e he ↦ by cases he
  | ended result committed hhonest => cases hadvance

/-- A statement of `record` carries it on. -/
theorem compare_advance (hdb : DecisionInvariant profileId db) {uuid : Uuid}
    {binding : VersionCompareDecisionBinding} {decision : String} {rationale : Option String}
    {session next : DecisionSession} (h : CompareStage uuid binding decision rationale db session)
    (hadvance : session.advance db = some (next, after)) :
    Relation.ReflGen Stays db after ∧ DecisionInvariant profileId after ∧
      CompareStage uuid binding decision rationale after next := by
  cases h with
  | waiting kind note hkind hnote =>
    rcases advance_transact hadvance with ⟨changed, hchange, rfl, rfl⟩ | ⟨e, -, rfl, rfl⟩
    · obtain ⟨-, hinsertable, row, hrow, happended⟩ := appended_of_recordChange hdb hchange
      obtain ⟨hinvariant, hstays⟩ := happended.extends hdb
      refine ⟨.single hstays, hinvariant, .committed kind row ?_ hrow.decision⟩
      have hnone : (db.decisions.find? fun decision ↦ decision.id = newId "vcd" uuid) = none := by
        rw [List.find?_eq_none]
        intro other hother
        simpa using hinsertable.fresh other hother
      rw [happended.decisions, List.find?_append, hnone, Option.none_or]
      exact find?_eq_some_of_nodup (List.nodup_singleton row.id) (List.mem_singleton_self row) hrow.id
    · exact ⟨.refl, hdb, .ended _ _ fun _ _ ↦ rfl⟩
  | committed kind row hrow hkind =>
    obtain ⟨rfl, rfl⟩ := advance_read hadvance
    refine ⟨.refl, hdb, ?_⟩
    have hcall : (do
        let row ← orRaise (after.decisions.find? fun decision ↦ decision.id = newId "vcd" uuid)
          (ofLineage (corruption "Version comparison decision disappeared after commit"))
        require (row.decision = kind)
          (ofLineage (corruption "Version comparison decision changed after commit"))
        return row) = Except.ok row := by
      simp only [bind_eq_ok, orRaise_eq_ok, require_eq_ok, exists_const, pure_eq_ok]
      exact ⟨row, hrow, hkind, rfl⟩
    show CompareStage uuid binding decision rationale after ⟨.recorded <$> Call.fromExcept _, true⟩
    rw [hcall]
    exact .ended (.ok (.recorded row)) true fun e he ↦ by cases he
  | ended result committed hhonest => cases hadvance

/-- A statement of any call carries it on, if it is fine. -/
theorem known_advance {operation : DecisionOperation} {session next : DecisionSession}
    (hdb : DecisionInvariant profileId db) (h : Known profileId operation session db)
    (hfine : Fine operation session db) (hadvance : session.advance db = some (next, after)) :
    Relation.ReflGen Stays db after ∧ DecisionInvariant profileId after ∧
      Known profileId operation next after := by
  cases operation with
  | lineage operation =>
    obtain ⟨hcommit, hinvariant, hkept⟩ := h.1.advance hdb.lineage hadvance
    obtain ⟨hchange, hguarantees⟩ := h.2.advance hadvance
    rcases hchange with rfl | hstep
    · exact ⟨.refl, hdb, hkept, hguarantees⟩
    · have hrecorded : Recorded db.lineage after.lineage := by
        cases hcommit with
        | refl => exact Recorded.refl _
        | single hcommit => exact hcommit
      exact ⟨.single (stays_of_lineageStep hrecorded hstep), ⟨hinvariant, hstep.2 hdb.songIds⟩, hkept,
        hguarantees⟩
  | approve binding => exact approval_advance hdb h hfine hadvance
  | record uuid binding decision rationale => exact compare_advance hdb h hadvance

/-! ### What a statement does -/

def CommitsBy (session next : DecisionSession) : Prop :=
  session.committed = false ∧ next.committed = true

def ForPair (pair : VersionCompareDecisionBinding) (row : VersionCompareDecision) : Prop :=
  row.songId = pair.songId ∧ row.referenceVersionId = pair.referenceVersionId ∧
    row.currentVersionId = pair.currentVersionId

instance (pair : VersionCompareDecisionBinding) (row : VersionCompareDecision) :
    Decidable (ForPair pair row) := inferInstanceAs (Decidable (_ ∧ _))

/-- What is claimed of a statement. An approval commits exactly under its guard and changes the
approved version of its song alone, with one event. A comparison commits exactly under its guard and
appends one decision, with one event. Nothing else changes the decisions, and the latest decision of
a pair is the one that was appended for it last. -/
def Told (operation : DecisionOperation) (session next : DecisionSession) (db after : DecisionDb) :
    Prop :=
  match operation with
  | .lineage _ => ∀ pair, after.latestForPair pair = db.latestForPair pair
  | .approve binding =>
    (session.committed = false → (next.committed = true ↔ ApprovalGuard binding db.lineage)) ∧
      (CommitsBy session next → Approved binding db after) ∧
      (¬ CommitsBy session next → after = db) ∧
      ∀ pair, after.latestForPair pair = db.latestForPair pair
  | .record uuid binding decision rationale =>
    (session.committed = false → (next.committed = true ↔ CompareGuard binding db.lineage)) ∧
      (CommitsBy session next → ∃ kind note row, decisionKind decision = .ok kind ∧
        optionalRationale rationale = .ok note ∧ IsDecision (newId "vcd" uuid) binding kind note row ∧
        Appended row db after ∧ ∀ pair, after.latestForPair pair =
          if ForPair pair row then some row else db.latestForPair pair) ∧
      (¬ CommitsBy session next → after = db)

theorem latestForPair_of_eq (h : after.decisions = db.decisions)
    (pair : VersionCompareDecisionBinding) : after.latestForPair pair = db.latestForPair pair := by
  rw [DecisionDb.latestForPair, DecisionDb.latestForPair, h]

theorem latestForPair_of_append {row : VersionCompareDecision}
    (h : after.decisions = db.decisions ++ [row]) (pair : VersionCompareDecisionBinding) :
    after.latestForPair pair = if ForPair pair row then some row else db.latestForPair pair := by
  rw [DecisionDb.latestForPair, DecisionDb.latestForPair, h, List.filter_append]
  split_ifs with hpair
  · rw [List.filter_cons_of_pos (by simpa [ForPair] using hpair), List.filter_nil,
      List.getLast?_concat]
  · rw [List.filter_cons_of_neg (by simpa [ForPair] using hpair), List.filter_nil, List.append_nil]

/-- A read of a call that has committed changes nothing. -/
theorem not_commitsBy_of_committed {session next : DecisionSession} (h : session.committed = true) :
    ¬ CommitsBy session next := fun hcommits ↦ by
  rw [CommitsBy, h] at hcommits
  exact Bool.noConfusion hcommits.1

theorem approval_told (hdb : DecisionInvariant profileId db) {binding : VersionApprovalBinding}
    {session next : DecisionSession} (h : ApprovalStage binding db session)
    (hadvance : session.advance db = some (next, after)) :
    Told (.approve binding) session next db after := by
  cases h with
  | waiting =>
    rcases advance_transact hadvance with ⟨changed, hchange, rfl, rfl⟩ | ⟨e, hchange, rfl, rfl⟩
    · have hguard := guard_of_approveChange hdb hchange
      obtain ⟨same, hsame, happroved⟩ := approveChange_of_guard hdb hguard
      cases hsame.symm.trans hchange
      exact ⟨fun _ ↦ iff_of_true rfl hguard, fun _ ↦ happroved,
        fun hnot ↦ absurd ⟨rfl, rfl⟩ hnot, latestForPair_of_eq happroved.decisions⟩
    · refine ⟨fun _ ↦ iff_of_false Bool.false_ne_true fun hguard ↦ ?_,
        fun hcommits ↦ absurd hcommits.2 Bool.false_ne_true, fun _ ↦ rfl, fun _ ↦ rfl⟩
      obtain ⟨changed, hchanged, -⟩ := approveChange_of_guard hdb hguard
      rw [hchange] at hchanged
      cases hchanged
  | committed hsong htarget =>
    obtain ⟨rfl, rfl⟩ := advance_read hadvance
    exact ⟨fun hfalse ↦ absurd hfalse.symm Bool.false_ne_true,
      fun hcommits ↦ absurd hcommits (not_commitsBy_of_committed rfl), fun _ ↦ rfl, fun _ ↦ rfl⟩
  | read song hsong htarget =>
    obtain ⟨rfl, rfl⟩ := advance_read hadvance
    exact ⟨fun hfalse ↦ absurd hfalse.symm Bool.false_ne_true,
      fun hcommits ↦ absurd hcommits (not_commitsBy_of_committed rfl), fun _ ↦ rfl, fun _ ↦ rfl⟩
  | ended result committed hhonest => cases hadvance

theorem compare_told (hdb : DecisionInvariant profileId db) {uuid : Uuid}
    {binding : VersionCompareDecisionBinding} {decision : String} {rationale : Option String}
    {session next : DecisionSession} (h : CompareStage uuid binding decision rationale db session)
    (hfine : Fine (.record uuid binding decision rationale) session db)
    (hadvance : session.advance db = some (next, after)) :
    Told (.record uuid binding decision rationale) session next db after := by
  cases h with
  | waiting kind note hkind hnote =>
    rcases advance_transact hadvance with ⟨changed, hchange, rfl, rfl⟩ | ⟨e, hchange, rfl, rfl⟩
    · obtain ⟨hguard, -, row, hrow, happended⟩ := appended_of_recordChange hdb hchange
      exact ⟨fun _ ↦ iff_of_true rfl hguard,
        fun _ ↦ ⟨kind, note, row, hkind, hnote, hrow, happended,
          latestForPair_of_append happended.decisions⟩, fun hnot ↦ absurd ⟨rfl, rfl⟩ hnot⟩
    · refine ⟨fun _ ↦ iff_of_false Bool.false_ne_true fun hguard ↦ ?_,
        fun hcommits ↦ absurd hcommits.2 Bool.false_ne_true, fun _ ↦ rfl⟩
      obtain ⟨changed, hchanged⟩ : ∃ changed, recordChange (newId "vcd" uuid) binding kind note after =
          .ok changed := recordChange_of_guard hdb (hfine rfl note hnote) hguard
      rw [hchange] at hchanged
      cases hchanged
  | committed kind row hrow hkind =>
    obtain ⟨rfl, rfl⟩ := advance_read hadvance
    exact ⟨fun hfalse ↦ absurd hfalse.symm Bool.false_ne_true,
      fun hcommits ↦ absurd hcommits (not_commitsBy_of_committed rfl), fun _ ↦ rfl⟩
  | ended result committed hhonest => cases hadvance

/-- Every statement does what is claimed. -/
theorem known_told {operation : DecisionOperation} {session next : DecisionSession}
    (hdb : DecisionInvariant profileId db) (h : Known profileId operation session db)
    (hfine : Fine operation session db) (hadvance : session.advance db = some (next, after)) :
    Told operation session next db after := by
  cases operation with
  | lineage operation =>
    obtain ⟨hchange, -⟩ := h.2.advance hadvance
    rcases hchange with rfl | hstep
    · exact fun _ ↦ rfl
    · refine latestForPair_of_eq ?_
      rw [hstep.1]
      rfl
  | approve binding => exact approval_told hdb h hadvance
  | record uuid binding decision rationale => exact compare_told hdb h hfine hadvance

/-- What is known of a call says whether it is honest. -/
theorem Known.honest {operation : DecisionOperation} {session : DecisionSession}
    (h : Known profileId operation session db) (hbound : ∀ other, operation ≠ .lineage other) :
    Honest session := by
  cases operation with
  | lineage operation => exact absurd rfl (hbound operation)
  | approve binding =>
    have h : ApprovalStage binding db session := h
    cases h with
    | waiting => exact fun e he ↦ rfl
    | committed hsong htarget => exact fun e he ↦ by cases he
    | read song hsong htarget => exact fun e he ↦ by cases he
    | ended result committed hhonest => exact hhonest
  | record uuid binding decision rationale =>
    have h : CompareStage uuid binding decision rationale db session := h
    cases h with
    | waiting kind note hkind hnote => exact fun e he ↦ rfl
    | committed kind row hrow hkind => exact fun e he ↦ by cases he
    | ended result committed hhonest => exact hhonest

end

/-! ### Whole runs -/

/-- The store and the calls of a run. -/
abbrev DecisionWorld := Labelled DecisionOperation DecisionDb (Raised DecisionErrorClass) DecisionAnswer

/-- A new profile, with no activity and no decisions. -/
def newWorld (lineage : LineageDb) : DecisionWorld := ⟨⟨⟨lineage, [], []⟩, []⟩, []⟩

/-- What is claimed of an event: a statement does what is claimed, and no other event changes the
store. -/
def EventTold (profileId : String) (w : DecisionWorld)
    (event : SharedEvent DecisionOperation (Raised DecisionErrorClass)) : Prop :=
  ∀ w', stepLabelled (decisionProgram profileId) w event = some w' →
    (∀ i operation session next, event = .advance i → w.operations[i]? = some operation →
      w.shared.sessions[i]? = some session → w'.shared.sessions[i]? = some next →
        Told operation session next w.shared.store w'.shared.store) ∧
    ((∀ i, event ≠ .advance i) → w'.shared.store = w.shared.store)

/-- Every call of the two services that raised has committed nothing. -/
def AllHonest (w : DecisionWorld) : Prop :=
  ∀ (i : ℕ) operation session, w.operations[i]? = some operation →
    w.shared.sessions[i]? = some session → (∀ other, operation ≠ .lineage other) → Honest session

theorem eventTold_of_holds {profileId : String} {w : DecisionWorld}
    {event : SharedEvent DecisionOperation (Raised DecisionErrorClass)}
    (h : w.Holds (DecisionInvariant profileId) (Known profileId)) (hfine : MeetsAt Fine w event) :
    EventTold profileId w event := by
  intro w' hstep
  constructor
  · rintro i operation session next rfl hoperation hsession hnext
    obtain ⟨before, after, hbefore, hadvance, hsessions, -⟩ := advance_of_stepLabelled hstep
    cases hbefore.symm.trans hsession
    rw [hsessions, List.getElem?_set_self (List.getElem?_eq_some_iff.mp hsession).1] at hnext
    cases hnext
    exact known_told h.store (h.sessions i operation session hoperation hsession)
      (hfine i operation session rfl hoperation hsession) hadvance
  · intro hother
    cases event with
    | start operation =>
      obtain ⟨hshared, -⟩ := shared_of_stepLabelled hstep
      rw [← Option.some.inj hshared]
    | advance i => exact absurd rfl (hother i)
    | locked i e =>
      obtain ⟨_, _, _, _, hshared, _⟩ := locked_of_stepLabelled hstep
      rw [hshared, Shared.update]

theorem songs_of_create {profile artist : Uuid} {artistName profileId : String} {lineage : LineageDb}
    (hcreate : LineageDb.create profile artist artistName = .ok (profileId, lineage)) :
    lineage.songs = [] := by
  simp only [LineageDb.create, LineageDb.initializeDb, bind_eq_ok, require_eq_ok, Except.ok.injEq,
    Prod.mk.injEq] at hcreate
  obtain ⟨name, -, _, ⟨-, -, rfl⟩, -, -, -, rfl⟩ := hcreate
  rfl

/-- In every run in which `approve` finds the song as its commit left it when it reads it back, and in
which what `record` inserts can be inserted, every statement does what is claimed and every call that
raised has committed nothing. -/
theorem decisions_reported {profile artist : Uuid} {artistName profileId : String}
    {lineage : LineageDb}
    (hcreate : LineageDb.create profile artist artistName = .ok (profileId, lineage))
    {events : List (SharedEvent DecisionOperation (Raised DecisionErrorClass))} {w : DecisionWorld}
    (hrun : runEvents (stepLabelled (decisionProgram profileId)) (newWorld lineage) events = some w)
    (hfine : EveryStep (stepLabelled (decisionProgram profileId)) (MeetsAt Fine) (newWorld lineage)
      events) :
    EveryStep (stepLabelled (decisionProgram profileId)) (EventTold profileId) (newWorld lineage)
      events ∧ AllHonest w := by
  obtain ⟨-, hinvariant⟩ := invariant_create hcreate
  have hids : (lineage.songs.map Song.id).Nodup := by
    rw [songs_of_create hcreate]
    exact List.nodup_nil
  have hnew : (newWorld lineage).Holds (DecisionInvariant profileId) (Known profileId) :=
    holds_new ⟨hinvariant, hids⟩
  refine ⟨everyStep_of_holds (fun operation db _ ↦ known_start operation db)
    (fun _ _ _ _ _ hdb h hfine hadvance ↦ known_advance hdb h hfine hadvance)
    (fun _ _ _ _ _ hdb h hlocked ↦ known_locked hdb h hlocked)
    (fun _ _ _ _ _ hstays h ↦ known_stable hstays h)
    (fun w event h hfine ↦ eventTold_of_holds h hfine) hnew hfine, ?_⟩
  obtain ⟨-, hheld⟩ := holds_of_run (fun operation db _ ↦ known_start operation db)
    (fun _ _ _ _ _ hdb h hfine hadvance ↦ known_advance hdb h hfine hadvance)
    (fun _ _ _ _ _ hdb h hlocked ↦ known_locked hdb h hlocked)
    (fun _ _ _ _ _ hstays h ↦ known_stable hstays h) hnew hfine hrun
  exact fun i operation session hoperation hsession hbound ↦
    (hheld.sessions i operation session hoperation hsession).honest hbound

/-! ### Two runs -/

/-- An event of a run. -/
abbrev DecisionEvent := SharedEvent DecisionOperation (Raised DecisionErrorClass)

def sampleVersion (digit : Fin 10) : String := newId "ver" (uuidEnding digit)

/-- A song with two versions, of which the second is current. -/
def songEvents : List DecisionEvent :=
  [.start (.lineage (.createSong (uuidEnding 2) "Dawn")), .advance 0, .advance 0,
    .start (.lineage (.createVersion (uuidEnding 3) sampleSong "first" none [] true)),
    .advance 1, .advance 1, .advance 1,
    .start (.lineage (.createVersion (uuidEnding 4) sampleSong "second" none [] true)),
    .advance 2, .advance 2, .advance 2]

def sampleApproval : VersionApprovalBinding :=
  ⟨sampleSong, sampleVersion 3, some (sampleVersion 4), none⟩

/-- The first version is approved, and then compared with the second. -/
def decisionRun : List DecisionEvent :=
  songEvents ++ [.start (.approve sampleApproval), .advance 3, .advance 3, .advance 3,
    .start (.record (uuidEnding 5) ⟨sampleSong, sampleVersion 3, sampleVersion 4⟩ "keep"
      (some "warmer")), .advance 4, .advance 4]

/-- After the approval has committed another connection makes the first version current, and then the
approval reads the song back. -/
def racedRun : List DecisionEvent :=
  songEvents ++ [.start (.approve sampleApproval),
    .start (.lineage (.setCurrentVersion sampleSong (sampleVersion 3))),
    .advance 4, .advance 4, .advance 3, .advance 4, .advance 4, .advance 3, .advance 3]

/-- A check of what a statement needs. -/
def checkFine (operation : DecisionOperation) (session : DecisionSession) (db : DecisionDb) : Bool :=
  match operation with
  | .lineage _ => true
  | .approve binding => !session.committed || db.lineage.songs.all fun song ↦
    decide (song.id = binding.songId → song.currentVersionId = binding.expectedCurrentVersionId ∧
      song.approvedVersionId = some binding.targetVersionId)
  | .record uuid _ _ rationale => session.committed ||
    match optionalRationale rationale with
    | .error _ => true
    | .ok note => decide ((∀ decision ∈ db.decisions, decision.id ≠ newId "vcd" uuid) ∧
        ∀ rationale ∈ note, sqlNonblank rationale = true)

theorem fine_of_checkFine {operation : DecisionOperation} {session : DecisionSession}
    {db : DecisionDb} (h : checkFine operation session db = true) : Fine operation session db := by
  cases operation with
  | lineage operation => trivial
  | approve binding =>
    rintro rfl song hsong hid
    simp only [checkFine, Bool.not_true, Bool.false_or, List.all_eq_true, decide_eq_true_eq] at h
    exact h song hsong hid
  | record uuid binding decision rationale =>
    intro hcommitted note hnote
    simp only [checkFine, hcommitted, Bool.false_or, hnote, decide_eq_true_eq] at h
    exact ⟨h.1, h.2⟩

def checkEvent (w : DecisionWorld) (event : DecisionEvent) : Bool :=
  match event with
  | .advance i =>
    match w.operations[i]?, w.shared.sessions[i]? with
    | some operation, some session => checkFine operation session w.shared.store
    | _, _ => true
  | _ => true

theorem meetsAt_of_checkEvent {w : DecisionWorld} {event : DecisionEvent}
    (h : checkEvent w event = true) : MeetsAt Fine w event := by
  rintro i operation session rfl hoperation hsession
  simp only [checkEvent, hoperation, hsession] at h
  exact fine_of_checkFine h

def raisedAfterCommit (w : DecisionWorld) (i : ℕ) : Bool :=
  match w.operations[i]?, w.shared.sessions[i]? with
  | some (.approve _), some ⟨.ended (.error _), true⟩ => true
  | _, _ => false

theorem not_allHonest {w : DecisionWorld} {i : ℕ} (h : raisedAfterCommit w i = true) :
    ¬ AllHonest w := by
  unfold raisedAfterCommit at h
  split at h
  · rename_i binding e hoperation hsession
    intro hhonest
    have hfalse := hhonest i _ _ hoperation hsession (fun _ h ↦ by cases h) e rfl
    exact absurd hfalse.symm Bool.false_ne_true
  · exact absurd h Bool.false_ne_true

/-- Both runs on a new profile: the first is fine throughout, and in the second an approval raises after
its commit. -/
def sampleOutcome : Bool :=
  (LineageDb.create (uuidEnding 0) (uuidEnding 1) "Ada").toOption.any fun (profileId, lineage) ↦
    (runChecked (stepLabelled (decisionProgram profileId)) checkEvent (newWorld lineage)
      decisionRun).isSome &&
    (runEvents (stepLabelled (decisionProgram profileId)) (newWorld lineage) racedRun).any fun w ↦
      raisedAfterCommit w 3

theorem exists_sample : ∃ profileId lineage w w',
    LineageDb.create (uuidEnding 0) (uuidEnding 1) "Ada" = .ok (profileId, lineage) ∧
    runChecked (stepLabelled (decisionProgram profileId)) checkEvent (newWorld lineage) decisionRun =
      some w ∧
    runEvents (stepLabelled (decisionProgram profileId)) (newWorld lineage) racedRun = some w' ∧
    raisedAfterCommit w' 3 = true := by
  have hsample : sampleOutcome = true := by decide +kernel
  obtain ⟨⟨profileId, lineage⟩, hcreate, hruns⟩ := (Option.any_eq_true _ _).mp hsample
  rw [Bool.and_eq_true] at hruns
  obtain ⟨w, hw⟩ := Option.isSome_iff_exists.mp hruns.1
  obtain ⟨w', hw', hraised⟩ := (Option.any_eq_true _ _).mp hruns.2
  exact ⟨profileId, lineage, w, w', toOption_eq_some.mp hcreate, hw, hw', hraised⟩

/-- A run in which a version is approved and compared. -/
theorem decisions_reported_sample : ∃ profileId lineage w,
    LineageDb.create (uuidEnding 0) (uuidEnding 1) "Ada" = .ok (profileId, lineage) ∧
    runEvents (stepLabelled (decisionProgram profileId)) (newWorld lineage) decisionRun = some w ∧
    EveryStep (stepLabelled (decisionProgram profileId)) (EventTold profileId) (newWorld lineage)
      decisionRun ∧ AllHonest w := by
  obtain ⟨profileId, lineage, w, -, hcreate, hchecked, -⟩ := exists_sample
  obtain ⟨hrun, hevery⟩ := run_of_runChecked hchecked
  have hfine := hevery.mono fun w event h ↦ meetsAt_of_checkEvent h
  exact ⟨profileId, lineage, w, hcreate, hrun, decisions_reported hcreate hrun hfine⟩

/-- An approval raises after it has committed, because another connection has moved the current version
by the time it reads the song back. -/
theorem approval_raised_after_commit : ∃ profileId lineage w,
    LineageDb.create (uuidEnding 0) (uuidEnding 1) "Ada" = .ok (profileId, lineage) ∧
    runEvents (stepLabelled (decisionProgram profileId)) (newWorld lineage) racedRun = some w ∧
    raisedAfterCommit w 3 = true ∧ ¬ AllHonest w := by
  obtain ⟨profileId, lineage, -, w, hcreate, -, hrun, hraised⟩ := exists_sample
  exact ⟨profileId, lineage, w, hcreate, hrun, hraised, not_allHonest hraised⟩

end N0te.Decisions
