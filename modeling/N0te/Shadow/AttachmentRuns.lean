import N0te.Shadow.HandshakeRuns

/-!
# Attachments amid song selections

Others select songs between the statements of an attachment. It reads the active song once, so the
workspace is one of the song that was active then: it is one of the active song when it is written
and when the attachment returns exactly if no other song was selected by then (`attachment_kept`).
-/

set_option autoImplicit false
set_option relaxedAutoImplicit false

namespace N0te.Shadow

open Library Lineage

/-! ### Selections -/

/-- `active_song_id` of the metadata. -/
def AttachDb.active (db : AttachDb) : Option String := db.lineage.metadata.lookup "active_song_id"

/-- A song is selected. -/
inductive Selection (db : AttachDb) : AttachDb → Prop
  | selected (songId : String) :
    Selection db (db.withLineage (db.lineage.setMetadata "active_song_id" songId))

/-- What others do between the statements of an attachment. -/
abbrev Others := Environment AttachDb (Raised HandshakeErrorClass)

def Selects (env : Others) : Prop := ∀ n db, Relation.ReflTransGen Selection db (env.step n db)

section

variable {db after : AttachDb} {env : Others}

theorem Selection.shadow (h : Selection db after) : after.shadow = db.shadow := by
  cases h with
  | selected songId =>
    show { db.shadow with songs := db.lineage.songs } = db.shadow
    rw [← db.songs]

theorem Selects.shadow (h : Selects env) (n : ℕ) (db : AttachDb) :
    (env.step n db).shadow = db.shadow := by
  have hstep := h n db
  generalize env.step n db = after at hstep ⊢
  induction hstep with
  | refl => rfl
  | tail _ hlast ih => exact hlast.shadow.trans ih

theorem Selects.songs (h : Selects env) (n : ℕ) (db : AttachDb) :
    (env.step n db).lineage.songs = db.lineage.songs := by
  rw [← (env.step n db).songs, h.shadow n db, db.songs]

/-- The song that is read is active at the first statement. -/
theorem amid_activeSongId (env : Others) (n : ℕ) (db : AttachDb) :
    activeSongId.amid env n db =
      match (env.step n db).active with
      | none => ⟨.error (fromLineage (Lineage.corruption "active Song metadata disappeared")),
          env.step n db, []⟩
      | some songId =>
        if songId = "" then ⟨.error (handshakeError
          "host session attachment requires an explicitly active Song"), env.step n db, []⟩
        else
          match (env.step (n + 1) (env.step n db)).lineage.songs.find? fun song ↦
            song.id = songId with
          | none => ⟨.error (fromLineage (Lineage.corruption "active Song identity is missing")),
              env.step (n + 1) (env.step n db), []⟩
          | some song => ⟨.ok song.id, env.step (n + 1) (env.step n db), []⟩ := by
  simp only [activeSongId, activeSong, Call.ask, Call.within, Call.mapError, Bind.bind, Call.bind,
    Call.amid, AttachDb.active]
  cases hactive : (env.step n db).lineage.metadata.lookup "active_song_id" with
  | none => rfl
  | some songId =>
    by_cases hempty : songId = ""
    · simp only [orRaise, Call.bind, if_pos hempty]
      rfl
    · simp only [orRaise, Call.bind, if_neg hempty]
      simp only [getSong, Call.select, Call.bind, Call.mapError, Call.within, Call.amid]
      cases hfind : (env.step (n + 1) (env.step n db)).lineage.songs.find? fun song ↦
        song.id = songId with
      | none => rfl
      | some song => rfl

/-- The read raises when no song is active, and else returns the one that was active at its first
statement. -/
theorem amid_activeSongId_cases (env : Others) (n : ℕ) (db : AttachDb) :
    ((∃ e after, activeSongId.amid env n db = ⟨.error e, after, []⟩) ∧
      ∀ song ∈ (env.step (n + 1) (env.step n db)).lineage.songs, song.id ≠ "" →
        (env.step n db).active ≠ some song.id) ∨
    ∃ song ∈ (env.step (n + 1) (env.step n db)).lineage.songs, song.id ≠ "" ∧
      (env.step n db).active = some song.id ∧
      activeSongId.amid env n db = ⟨.ok song.id, env.step (n + 1) (env.step n db), []⟩ := by
  have hread := amid_activeSongId env n db
  cases hactive : (env.step n db).active with
  | none =>
    rw [hactive] at hread
    exact .inl ⟨⟨_, _, hread⟩, fun song _ _ h ↦ by cases h⟩
  | some songId =>
    rw [hactive] at hread
    by_cases hempty : songId = ""
    · rw [show activeSongId.amid env n db = _ from hread.trans (if_pos hempty)]
      exact .inl ⟨⟨_, _, rfl⟩, fun song _ hne h ↦ hne ((Option.some.inj h).symm.trans hempty)⟩
    · have hsong := hread.trans (if_neg hempty)
      cases hfind : (env.step (n + 1) (env.step n db)).lineage.songs.find? fun song ↦
        song.id = songId with
      | none =>
        rw [hfind] at hsong
        exact .inl ⟨⟨_, _, hsong⟩, fun song hmem _ h ↦
          List.find?_eq_none.mp hfind song hmem (decide_eq_true (Option.some.inj h).symm)⟩
      | some song =>
        rw [hfind] at hsong
        have hid := List.find?_some hfind
        rw [decide_eq_true_eq] at hid
        rw [← hid] at hempty ⊢
        exact .inr ⟨song, List.mem_of_find?_eq_some hfind, hempty, rfl, hsong⟩

/-! ### Attachments -/

/-- The first statement of an attachment reads the active song, and what it does is done for that.
-/
structure AttachedAmid (input : AttachInput) (first : AttachDb)
    (outcome : Outcome AttachDb (Raised HandshakeErrorClass) HostSessionHandshakeResult) :
    Prop where
  raised : ∀ e, outcome.result = .error e → outcome.commits = []
  returned : ∀ result, outcome.result = .ok result → ∃ request songId, input.request = .ok request ∧
    first.active = some songId ∧ songId ≠ "" ∧
    (∃ song ∈ outcome.store.lineage.songs, song.id = songId) ∧
    HandshakeInvariant outcome.store.shadow ∧
    Settled outcome.store.shadow songId request result.workspace.workspace ∧
    Bound outcome.store.shadow songId request result.workspace.workspace result ∧
    ∀ commit ∈ outcome.commits,
      Attaches request result.workspace.workspace commit.1.shadow commit.2.shadow

variable {input : AttachInput} {ids : AttachIds} {request : AttachRequest}

theorem runtime_of_request (h : input.request = .ok request) : request.runtime = input.runtime := by
  simp only [AttachInput.request, bind_eq_ok, pure_eq_ok] at h
  obtain ⟨_, -, _, -, _, -, _, -, rfl⟩ := h
  rfl

theorem amid_attach_request (ids : AttachIds) (hrequest : input.request = .ok request)
    (env : Others) (n : ℕ) (db : AttachDb) : ∃ m, (attach ids input).amid env n db =
      match (activeSongId.amid env n db).result with
      | .ok songId =>
        (((attachTo ids songId request).within AttachDb.shadow AttachDb.withShadow).amid env m
          (activeSongId.amid env n db).store).after (activeSongId.amid env n db).commits
      | .error e => ⟨.error e, (activeSongId.amid env n db).store,
          (activeSongId.amid env n db).commits⟩ := by
  obtain ⟨m, hm⟩ := amid_bind env activeSongId (fun songId ↦
    (attachTo ids songId request).within AttachDb.shadow AttachDb.withShadow) n db
  refine ⟨m, ?_⟩
  rw [attach, hrequest]
  refine Eq.trans hm ?_
  cases (activeSongId.amid env n db).result with
  | error e => rfl
  | ok songId => rfl

theorem amid_attach_refused {e : Raised HandshakeErrorClass} (hrequest : input.request = .error e)
    (env : Others) (n : ℕ) (db : AttachDb) :
    (attach ids input).amid env n db = ⟨.error e, db, []⟩ := by
  rw [attach, hrequest]
  rfl

theorem shadow_withShadow (db : AttachDb) (shadow : ShadowDb) :
    (db.withShadow shadow).shadow = shadow := rfl

theorem attachedAmid_error (e : Raised HandshakeErrorClass) (first db : AttachDb) :
    AttachedAmid input first ⟨.error e, db, []⟩ := ⟨fun _ _ ↦ rfl, fun _ h ↦ by cases h⟩

theorem amid_attachTo (henv : Selects env) (hinvariant : HandshakeInvariant db.shadow)
    (hrequest : input.request = .ok request) (hfingerprint : IsText input.runtime.fingerprint)
    {song : Song} (hsong : song ∈ db.lineage.songs) (hnonempty : song.id ≠ "") {first : AttachDb}
    (hfirst : first.active = some song.id) (m : ℕ) :
    AttachedAmid input first
      (((attachTo ids song.id request).within AttachDb.shadow AttachDb.withShadow).amid
        env m db) := by
  obtain ⟨hresult, hstore, hcommits⟩ := amid_within shadow_withShadow
    henv.shadow (attachTo ids song.id request) m db
  have hattached := outcomes_attachTo hinvariant (hinvariant.songTexts song (db.songs ▸ hsong))
    (runtime_of_request hrequest ▸ hfingerprint) ids env.busy m
  generalize (attachTo ids song.id request).amid (.still env.busy) m db.shadow = inner at *
  generalize ((attachTo ids song.id request).within _ _).amid env m db = outcome at *
  refine ⟨fun e he ↦ ?_, fun result hok ↦ ?_⟩
  · exact List.map_eq_nil_iff.mp (hcommits.trans (hattached.raised e (hresult.symm.trans he)))
  · obtain ⟨hafter, hsongs, hsettled, hbound, hattaches⟩ :=
      hattached.returned result (hresult.symm.trans hok)
    rw [← hstore] at hafter hsongs hsettled hbound
    refine ⟨request, song.id, hrequest, hfirst, hnonempty, ⟨song, ?_, rfl⟩, hafter, hsettled,
      hbound, fun commit hcommit ↦ ?_⟩
    · rw [← outcome.store.songs, hsongs, db.songs]
      exact hsong
    · exact hattaches _ (hcommits ▸ List.mem_map_of_mem hcommit)

theorem amid_attach (henv : Selects env) (hinvariant : HandshakeInvariant db.shadow)
    (hfingerprint : IsText input.runtime.fingerprint) (ids : AttachIds) (n : ℕ) :
    AttachedAmid input (env.step n db) ((attach ids input).amid env n db) := by
  cases hrequest : input.request with
  | error e =>
    rw [amid_attach_refused hrequest]
    exact attachedAmid_error e _ _
  | ok request =>
    obtain ⟨m, hm⟩ := amid_attach_request ids hrequest env n db
    rw [hm]
    rcases amid_activeSongId_cases env n db with
      ⟨⟨e, after, hread⟩, -⟩ | ⟨song, hsong, hne, hactive, hread⟩
    · rw [hread]
      exact attachedAmid_error _ _ _
    · rw [hread]
      dsimp only
      rw [after_nil]
      refine amid_attachTo henv ?_ hrequest hfingerprint hsong hne hactive m
      rw [henv.shadow, henv.shadow]
      exact hinvariant

/-- Another attachment of a settled workspace of the active song. -/
theorem amid_attach_again (henv : Selects env) (hinvariant : HandshakeInvariant db.shadow)
    (hrequest : input.request = .ok request) (hfingerprint : IsText input.runtime.fingerprint)
    {songId : String} {workspace : WorkspaceIdentity}
    (hsettled : Settled db.shadow songId request workspace) (hnonempty : songId ≠ "")
    (hsong : ∃ song ∈ db.lineage.songs, song.id = songId) {n : ℕ}
    (hactive : (env.step n db).active = some songId) (ids : AttachIds) :
    ((attach ids input).amid env n db).commits = [] ∧
      ∃ result, ((attach ids input).amid env n db).result = .ok result ∧ result.status = .reused ∧
        result.workspace.workspace = workspace := by
  obtain ⟨m, hm⟩ := amid_attach_request ids hrequest env n db
  rcases amid_activeSongId_cases env n db with ⟨-, hnone⟩ | ⟨song, hmem, -, hfirst, hread⟩
  · obtain ⟨song, hmem, rfl⟩ := hsong
    rw [← henv.songs n db, ← henv.songs (n + 1)] at hmem
    exact absurd hactive (hnone song hmem hnonempty)
  · cases hactive.symm.trans hfirst
    rw [hm, hread]
    dsimp only
    rw [after_nil]
    have hshadow : (env.step (n + 1) (env.step n db)).shadow = db.shadow := by
      rw [henv.shadow, henv.shadow]
    obtain ⟨hresult, -, hcommits⟩ := amid_within shadow_withShadow
      henv.shadow (attachTo ids song.id request) m (env.step (n + 1) (env.step n db))
    rw [hshadow] at hresult hcommits
    obtain ⟨hnothing, result, hok, hstatus, hbound⟩ := outcomes_attachTo_again hinvariant hsettled
      (hinvariant.songTexts song (by rwa [db.songs, ← henv.songs n db, ← henv.songs (n + 1)]))
      (runtime_of_request hrequest ▸ hfingerprint) ids env.busy m
    exact ⟨List.map_eq_nil_iff.mp (hcommits.trans hnothing), result, hresult.trans hok, hstatus,
      hbound.returned⟩

end

/-! ### The promise -/

/-- A song was active at every commit of an attachment and at its end. -/
def ActiveThroughout (active : Option String)
    (outcome : Outcome AttachDb (Raised HandshakeErrorClass) HostSessionHandshakeResult) : Prop :=
  outcome.store.active = active ∧ ∀ commit ∈ outcome.commits, commit.1.active = active

/-- What an attachment promises amid selections. -/
structure AttachKept (ids : AttachIds) (input : AttachInput) (env : Others) (db : AttachDb) :
    Prop where
  /-- One that fails changes nothing. -/
  failed : ∀ e, ((attach ids input).amid env 0 db).result = .error e →
    ((attach ids input).amid env 0 db).commits = []
  /-- One that succeeds binds the session to a workspace of the active song. -/
  bound : ∀ result, ((attach ids input).amid env 0 db).result = .ok result →
    (∃ request, input.request = .ok request ∧
      Bound ((attach ids input).amid env 0 db).store.shadow result.binding.songId.val request
        result.workspace.workspace result) ∧
    ActiveThroughout (some result.binding.songId.val) ((attach ids input).amid env 0 db)
  /-- It leaves every workspace, and where those of other songs are. -/
  others : ∀ result, ((attach ids input).amid env 0 db).result = .ok result →
    ∀ commit ∈ ((attach ids input).amid env 0 db).commits, ∀ other ∈ commit.1.shadow.workspaces,
      other ∈ commit.2.shadow.workspaces ∧ (other.songId ≠ result.binding.songId.val →
        commit.2.shadow.history other.id = commit.1.shadow.history other.id)
  /-- Another one with the same arguments reuses the workspace and writes nothing. -/
  again : ∀ result, ((attach ids input).amid env 0 db).result = .ok result →
    ∀ (others : AttachIds) (still : Others), Selects still →
      (∀ n db, (still.step n db).active = db.active) →
      ((attach others input).amid still 0 ((attach ids input).amid env 0 db).store).commits = [] ∧
      ∃ second,
        ((attach others input).amid still 0 ((attach ids input).amid env 0 db).store).result =
          .ok second ∧
        second.status = .reused ∧ second.workspace.workspace = result.workspace.workspace

section

variable {db : AttachDb} {env : Others} {input : AttachInput} {ids : AttachIds}

/-- All but the song is promised however others select. -/
theorem attachKept_of_throughout (henv : Selects env) (hinvariant : HandshakeInvariant db.shadow)
    (hfingerprint : IsText input.runtime.fingerprint)
    (h : ∀ result, ((attach ids input).amid env 0 db).result = .ok result →
      ActiveThroughout (env.step 0 db).active ((attach ids input).amid env 0 db)) :
    AttachKept ids input env db := by
  have hattached := amid_attach henv hinvariant hfingerprint ids 0
  refine ⟨hattached.raised, fun result hresult ↦ ?_,
    fun result hresult commit hcommit other hother ↦ ?_,
    fun result hresult others still hstill hkeeps ↦ ?_⟩
  · obtain ⟨request, songId, hrequest, hfirst, -, -, -, -, hbound, -⟩ :=
      hattached.returned result hresult
    have hthroughout := h result hresult
    rw [hfirst] at hthroughout
    rw [hbound.songId]
    exact ⟨⟨request, hrequest, hbound⟩, hthroughout⟩
  · obtain ⟨request, songId, -, -, -, -, -, -, hbound, hattaches⟩ :=
      hattached.returned result hresult
    rw [hbound.songId, ← hbound.song]
    exact (hattaches commit hcommit).others hother
  · obtain ⟨request, songId, hrequest, hfirst, hne, hsong, hafter, hsettled, -, -⟩ :=
      hattached.returned result hresult
    refine amid_attach_again hstill hafter hrequest hfingerprint hsettled hne hsong ?_ others
    rw [hkeeps, (h result hresult).1, hfirst]

theorem reads_activeSongId : Reads activeSongId := by
  have hactive : Reads activeSong := by
    refine (reads_ask _).bind fun songId ↦ ?_
    split_ifs
    · exact .ended _
    · exact (reads_select _).bind fun _ ↦ (reads_fromExcept _).bind fun _ ↦ .ended _
  exact hactive.mapError.within.bind fun _ ↦ reads_fromExcept _

/-- When nobody selects a song after the first statement, one is active throughout. -/
theorem activeThroughout_of_keeps (hkeeps : ∀ n db, (env.step (n + 1) db).active = db.active)
    (hrequest : ∃ request, input.request = .ok request) :
    ActiveThroughout (env.step 0 db).active ((attach ids input).amid env 0 db) := by
  obtain ⟨request, hrequest⟩ := hrequest
  have hguarantees : Guarantees (fun s t : AttachDb ↦ t.active = s.active) (attach ids input) := by
    rw [attach, hrequest]
    refine reads_activeSongId.guarantees.bind fun songId ↦ ?_
    refine Guarantees.within (fun s shadow _ ↦ ?_) (guarantees_any (attachTo ids songId request))
    show (s.withShadow shadow).active = s.active
    rfl
  obtain ⟨next, hnext⟩ : ∃ next, attach ids input = .read next := by
    rw [attach, hrequest]
    exact ⟨_, rfl⟩
  rw [hnext] at hguarantees ⊢
  cases hguarantees with
  | read hguarantees =>
    refine amid_kept (fun s ↦ s.active = (env.step 0 db).active) (fun m hm s hs ↦ ?_)
      (fun s t ht hs ↦ ht.trans hs) (hguarantees (env.step 0 db)) rfl
    obtain ⟨k, rfl⟩ := Nat.exists_eq_add_of_le' hm
    exact (hkeeps k s).trans hs

end

/-- If nobody selects another song between the first statement of an attachment and its end, it
keeps its promise; and one that succeeds keeps it exactly if the song that was active at the first
statement was so whenever it committed and at its end. -/
theorem attachment_kept (ids : AttachIds) (input : AttachInput) (env : Others) (db : AttachDb)
    (hinvariant : HandshakeInvariant db.shadow) (hfingerprint : IsText input.runtime.fingerprint)
    (henv : Selects env) :
    ((∀ n db, (env.step (n + 1) db).active = db.active) → AttachKept ids input env db) ∧
    ∀ result, ((attach ids input).amid env 0 db).result = .ok result →
      (AttachKept ids input env db ↔
        ActiveThroughout (env.step 0 db).active ((attach ids input).amid env 0 db)) := by
  have hattached := amid_attach henv hinvariant hfingerprint ids 0
  refine ⟨fun hkeeps ↦ ?_, fun result hresult ↦ ⟨fun hkept ↦ ?_, fun hthroughout ↦ ?_⟩⟩
  · refine attachKept_of_throughout henv hinvariant hfingerprint fun result hresult ↦ ?_
    obtain ⟨request, _, hrequest, -⟩ := hattached.returned result hresult
    exact activeThroughout_of_keeps hkeeps ⟨request, hrequest⟩
  · obtain ⟨request, songId, -, hfirst, -, -, -, -, hbound, -⟩ := hattached.returned result hresult
    have hthroughout := (hkept.bound result hresult).2
    rw [hbound.songId] at hthroughout
    rw [hfirst]
    exact hthroughout
  · exact attachKept_of_throughout henv hinvariant hfingerprint fun _ _ ↦ hthroughout

/-! ### A song that is no longer selected -/

def handshakeSongs : List Song :=
  [⟨"song_a", "art_a", "A", none, none⟩, ⟨"song_b", "art_a", "B", none, none⟩]

/-- The first is active, and there is no workspace. -/
def handshakeDb : AttachDb where
  lineage := ⟨[("active_song_id", "song_a")], [⟨"art_a", "Artist"⟩], handshakeSongs, [], [], []⟩
  shadow := .withSongs handshakeSongs
  songs := rfl

/-- A project of a host. -/
def handshakeInput : AttachInput where
  runtime := ⟨"LOGIC_PRO", String.ofList (List.replicate 64 'a'), "{}"⟩
  locationRef := "/projects/a"
  knownWorkspaceId := none
  displayName := none
  stateFingerprint := none

def handshakeIds : AttachIds := ⟨uuidEnding 1, uuidEnding 2⟩

/-- The other song is selected before a statement. -/
def selectsOther (k : ℕ) : Others where
  step n db :=
    if n = k then db.withLineage (db.lineage.setMetadata "active_song_id" "song_b") else db
  busy _ := none

theorem handshakeInvariant_handshakeDb : HandshakeInvariant handshakeDb.shadow := by
  refine handshakeInvariant_withSongs fun song hsong ↦ ?_
  rcases List.mem_pair.mp hsong with rfl | rfl
  · exact ⟨strip_eq_self (by decide), by decide⟩
  · exact ⟨strip_eq_self (by decide), by decide⟩

theorem isText_handshakeInput : IsText handshakeInput.runtime.fingerprint := by
  refine ⟨strip_eq_self ?_, by decide⟩
  rw [handshakeInput, String.toList_ofList]
  decide

/-- A project attached while nobody selects anything. -/
theorem attachment_kept_sample : HandshakeInvariant handshakeDb.shadow ∧
    IsText handshakeInput.runtime.fingerprint ∧ Selects (.still fun _ ↦ none) ∧
    AttachKept handshakeIds handshakeInput (.still fun _ ↦ none) handshakeDb := by
  have hstill : Selects (.still fun _ ↦ none) := fun _ _ ↦ .refl
  exact ⟨handshakeInvariant_handshakeDb, isText_handshakeInput, hstill,
    (attachment_kept handshakeIds handshakeInput _ handshakeDb handshakeInvariant_handshakeDb
      isText_handshakeInput hstill).1 fun _ _ ↦ rfl⟩

/-- The other song is selected after the active one was read: a workspace of the first is created,
and the session is bound to it, while the second is active. -/
theorem attached_to_deselected : HandshakeInvariant handshakeDb.shadow ∧
    IsText handshakeInput.runtime.fingerprint ∧ Selects (selectsOther 2) ∧
    ((attach handshakeIds handshakeInput).amid (selectsOther 2) 0 handshakeDb).store.active =
      some "song_b" ∧
    (∃ result, ((attach handshakeIds handshakeInput).amid (selectsOther 2) 0 handshakeDb).result =
      .ok result ∧ result.binding.songId.val = "song_a") ∧
    ¬ AttachKept handshakeIds handshakeInput (selectsOther 2) handshakeDb := by
  have hactive : ((attach handshakeIds handshakeInput).amid (selectsOther 2) 0
      handshakeDb).store.active = some "song_b" := by
    decide +kernel
  have hbound : (((attach handshakeIds handshakeInput).amid (selectsOther 2) 0
      handshakeDb).result.toOption.map fun result ↦ result.binding.songId.val) = some "song_a" := by
    decide +kernel
  obtain ⟨result, hresult, hsong⟩ := Option.map_eq_some_iff.mp hbound
  rw [toOption_eq_some] at hresult
  refine ⟨handshakeInvariant_handshakeDb, isText_handshakeInput, fun n db ↦ ?_, hactive,
    ⟨result, hresult, hsong⟩, fun hkept ↦ ?_⟩
  · rw [selectsOther]
    dsimp only
    split_ifs
    · exact .single (.selected "song_b")
    · exact .refl
  · have hthroughout := (hkept.bound result hresult).2.1
    rw [hactive, hsong] at hthroughout
    exact absurd hthroughout (by decide)

end N0te.Shadow
