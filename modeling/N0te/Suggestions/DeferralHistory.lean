import Mathlib.Data.List.Lookmap
import N0te.Suggestions.SuggestionDeferral

/-!
# Deferrals and the history of a profile

What a suggestion being deferred means, in terms of everything that has happened: which songs were
selected, which sessions were started and closed, and which suggestions were deferred.
`suggestion_deferral` says that `isDeferredNow` computes this from the tables after every history.
A deferral until later in a song holds as long as its session is the latest of the song, whether it is
open or closed: `deferred_after_close` has one that holds after its session was closed.
-/

set_option autoImplicit false
set_option relaxedAutoImplicit false

namespace N0te.Suggestions

open Library Lineage People Sessions

/-! ### Histories -/

/-- What an operation that succeeded did. -/
inductive Happening where
  /-- A song was created or selected. -/
  | selected (songId : String)
  /-- A session of a song was started. -/
  | started (songId sessionId : String)
  /-- A session was closed. -/
  | closed (sessionId : String)
  /-- A suggestion was deferred. -/
  | deferred (scope : DeferralScope) (key : String)
  deriving DecidableEq

def SuggestionOperation.happening : SuggestionOperation → Happening
  | .createSong uuid _ => .selected (newId "song" uuid)
  | .selectSong songId => .selected songId
  | .startSession uuid songId _ _ => .started songId (newId "sess" uuid)
  | .closeSession sessionId _ _ => .closed sessionId
  | .deferLaterThisSong _ key => .deferred .laterThisSong (strip key)
  | .deferUntilNextSong _ key => .deferred .nextSong (strip key)
  | .neverSuggestAgain _ key => .deferred .neverSuggestAgain (strip key)

/-- Perform operations one after another, and note what those that succeeded did. -/
def runHistory (profileId : String) :
    List SuggestionOperation → SuggestionDb × List Happening → SuggestionDb × List Happening
  | [], world => world
  | operation :: rest, world =>
    match exec (suggestionProgram profileId operation) world.1 with
    | (.ok _, db) => runHistory profileId rest (db, world.2 ++ [operation.happening])
    | (.error _, db) => runHistory profileId rest (db, world.2)

def Happening.selectedSong : Happening → Option String
  | .selected songId => some songId
  | _ => none

def Happening.startedSession (songId : String) : Happening → Option String
  | .started other sessionId => if other = songId then some sessionId else none
  | _ => none

/-- The song that was selected last. -/
def activeSong (history : List Happening) : Option String :=
  (history.filterMap Happening.selectedSong).getLast?

/-- The sessions of a song in the order they were started. -/
def sessionsOf (history : List Happening) (songId : String) : List String :=
  history.filterMap (Happening.startedSession songId)

/-- The session of a song that was started last. -/
def latestSession (history : List Happening) (songId : String) : Option String :=
  (sessionsOf history songId).getLast?

def openSession (history : List Happening) (songId : String) : Option String :=
  (sessionsOf history songId).find? fun sessionId ↦ .closed sessionId ∉ history

/-- A deferral that was made after `before` and followed by `after` holds at the end of a history.
`session` says which session of a song counts. -/
def Hides (session : List Happening → String → Option String) (history before after : List Happening) :
    DeferralScope → Prop
  | .neverSuggestAgain => True
  | .nextSong => ∀ songId, .selected songId ∈ after → activeSong before = some songId
  | .laterThisSong => ∃ songId sessionId, activeSong before = some songId ∧
      session before songId = some sessionId ∧ activeSong history = some songId ∧
      session history songId = some sessionId

/-- A suggestion is deferred at the end of a history. -/
def Hidden (session : List Happening → String → Option String) (history : List Happening)
    (key : String) : Prop :=
  ∃ before scope after, history = before ++ .deferred scope key :: after ∧
    Hides session history before after scope

/-- Another song than the given one was selected. -/
def crossed (songId : String) (history : List Happening) : Bool :=
  history.any fun happening ↦ happening.selectedSong.any fun other ↦ other != songId

section

variable {history before after : List Happening} {x : Happening} {songId sessionId : String}

theorem activeSong_append : activeSong (before ++ after) = (activeSong after).or (activeSong before) := by
  rw [activeSong, List.filterMap_append, List.getLast?_append]
  rfl

@[simp] theorem activeSong_selected : activeSong (history ++ [.selected songId]) = some songId := by
  rw [activeSong_append]
  rfl

theorem activeSong_of_not_selected (hx : x.selectedSong = none) :
    activeSong (history ++ [x]) = activeSong history := by
  rw [activeSong_append, activeSong, List.filterMap_cons, hx]
  rfl

theorem crossed_append (songId : String) (before after : List Happening) :
    crossed songId (before ++ after) = (crossed songId before || crossed songId after) :=
  List.any_append

/-- Unless another song was selected, the song that was active still is. -/
theorem activeSong_of_not_crossed (hbefore : activeSong before = some songId)
    (h : crossed songId after = false) : activeSong (before ++ after) = some songId := by
  rw [activeSong_append, hbefore]
  rcases hlast : activeSong after with _ | other
  · rfl
  · obtain ⟨happening, hmem, hselected⟩ := List.mem_filterMap.mp (List.mem_of_getLast? hlast)
    have hsame := List.any_eq_false.mp h happening hmem
    rw [hselected] at hsame
    simpa using hsame

theorem crossed_eq_false_iff (hbefore : activeSong before = some songId) :
    crossed songId after = false ↔
      ∀ other, .selected other ∈ after → activeSong before = some other := by
  rw [crossed, List.any_eq_false]
  constructor
  · intro h other hmem
    have hsame := h _ hmem
    simp only [Happening.selectedSong, Option.any_some, bne_iff_ne, not_not, ne_eq] at hsame
    rw [hbefore, hsame]
  · intro h happening hmem
    cases hselected : happening.selectedSong with
    | none => simp
    | some other =>
      have hsame := h other (by cases happening <;> cases hselected; exact hmem)
      rw [hbefore] at hsame
      simpa using (Option.some.inj hsame).symm

/-- A place in a history that has become longer is a place in the old one or the end. -/
theorem split_append {y : Happening} (h : history ++ [x] = before ++ y :: after) :
    (after = [] ∧ before = history ∧ y = x) ∨
      ∃ rest, after = rest ++ [x] ∧ history = before ++ y :: rest := by
  rcases List.eq_nil_or_concat' after with rfl | ⟨rest, last, rfl⟩
  · obtain ⟨hsame, hlast⟩ := List.append_inj' h rfl
    exact .inl ⟨rfl, hsame.symm, (List.singleton_inj.mp hlast).symm⟩
  · rw [← List.cons_append, ← List.append_assoc] at h
    obtain ⟨hsame, hlast⟩ := List.append_inj' h rfl
    obtain rfl := List.singleton_inj.mp hlast
    exact .inr ⟨rest, rfl, hsame⟩

end

/-! ### The activity log -/

section

variable {db t : SuggestionDb} {row : SuggestionDeferral} {events : List ActivityEvent}

/-- More events after the origin of a deferral. -/
theorem nextSongHorizonCrossed_append {b : Bool} (h : db.nextSongHorizonCrossed row = .ok b)
    (hactivity : t.activity = db.activity ++ events) :
    t.nextSongHorizonCrossed row = .ok (b || events.any (SuggestionDb.selectsOther row)) := by
  simp only [SuggestionDb.nextSongHorizonCrossed, bind_eq_ok, orRaise_eq_ok, Except.ok.injEq] at h ⊢
  obtain ⟨origin, horigin, rfl⟩ := h
  have hlt : origin < db.activity.length := (List.findIdx?_eq_some_iff_findIdx_eq.mp horigin).1
  refine ⟨origin, ?_, ?_⟩
  · rw [hactivity, List.findIdx?_append, horigin]
    rfl
  · rw [hactivity, List.drop_append_of_le_length hlt, List.any_append]

/-- Nothing has happened since the origin of a new deferral. -/
theorem nextSongHorizonCrossed_new {event : ActivityEvent}
    (hfresh : ∀ event ∈ db.activity, ¬ SuggestionDb.IsOrigin row event)
    (horigin : SuggestionDb.IsOrigin row event) (hactivity : t.activity = db.activity ++ [event]) :
    t.nextSongHorizonCrossed row = .ok false := by
  simp only [SuggestionDb.nextSongHorizonCrossed, bind_eq_ok, orRaise_eq_ok, Except.ok.injEq]
  refine ⟨db.activity.length, ?_, ?_⟩
  · rw [hactivity, List.findIdx?_append, List.findIdx?_eq_none_iff.mpr (by simpa using hfresh)]
    simp [horigin]
  · rw [hactivity, List.drop_eq_nil_of_le (by simp)]
    rfl

end

/-! ### Agreement of the tables with the history -/

/-- A row stands for a deferral that was made after `before` and followed by `after`. -/
def Stands (db : SuggestionDb) (before after : List Happening) (row : SuggestionDeferral) : Prop :=
  match row.scope with
  | .neverSuggestAgain => ∃ songId, activeSong before = some songId
  | .nextSong => activeSong before = some row.songId ∧
      db.nextSongHorizonCrossed row = .ok (crossed row.songId after)
  | .laterThisSong => activeSong before = some row.songId ∧ row.sessionId.isSome = true ∧
      latestSession before row.songId = row.sessionId

/-- The tables agree with what has happened. -/
structure Agrees (artistId : String) (db : SuggestionDb) (history : List Happening) : Prop where
  /-- The artist of the profile. -/
  artist : db.lineage.metadata.lookup "primary_artist_id" = some artistId
  active : db.lineage.metadata.lookup "active_song_id" = some ((activeSong history).getD "")
  /-- Songs are those of the artist. -/
  songs : ∀ song ∈ db.lineage.songs, song.artistId = artistId ∧ song.id ≠ ""
  activeExists : ∀ songId ∈ activeSong history, ∃ song ∈ db.lineage.songs, song.id = songId
  sessions : ∀ songId, (db.sessionsOf songId).map SongSession.id = sessionsOf history songId
  /-- Deferrals are those of the artist. -/
  owned : ∀ row ∈ db.deferrals, row.artistId = artistId
  /-- The log notes deferrals that there are. -/
  noted : ∀ event ∈ db.activity, event.eventType = .suggestionDeferred →
    ∃ row ∈ db.deferrals, row.id = event.objectId
  /-- Each row stands for a deferral. -/
  stands : ∀ row ∈ db.deferrals, ∃ before after,
    history = before ++ .deferred row.scope row.semanticKey :: after ∧ Stands db before after row
  /-- For each deferral there is a row. -/
  kept : ∀ before scope key after, history = before ++ .deferred scope key :: after →
    ∃ row ∈ db.deferrals, row.scope = scope ∧ row.semanticKey = key ∧ Stands db before after row

section

variable {artistId : String} {db t : SuggestionDb} {history before after : List Happening}
  {x : Happening} {row : SuggestionDeferral} {events : List ActivityEvent}

/-- A row stands for its deferral after more has happened. -/
theorem Stands.append {rest : List Happening} (h : Stands db before after row)
    (hactivity : t.activity = db.activity ++ events)
    (heffect : activeSong before = some row.songId →
      (crossed row.songId after || events.any (SuggestionDb.selectsOther row)) =
        crossed row.songId (after ++ rest)) : Stands t before (after ++ rest) row := by
  unfold Stands at h ⊢
  split at h
  · exact h
  · obtain ⟨hbefore, hcrossed⟩ := h
    exact ⟨hbefore, (nextSongHorizonCrossed_append hcrossed hactivity).trans
      (congrArg Except.ok (heffect hbefore))⟩
  · exact h

theorem selectsOther_eq_false {event : ActivityEvent} (h : event.eventType ≠ .songSelected) :
    SuggestionDb.selectsOther row event = false := by
  simp [SuggestionDb.selectsOther, h]

/-- Rows stand for the deferrals of a longer history when the activity log follows it. -/
theorem Agrees.rows_append (h : Agrees artistId db history)
    (hactivity : t.activity = db.activity ++ events) (hdeferrals : t.deferrals = db.deferrals)
    (hx : ∀ scope key, x ≠ .deferred scope key)
    (heffect : ∀ row ∈ db.deferrals, ∀ before after,
      history = before ++ .deferred row.scope row.semanticKey :: after →
      activeSong before = some row.songId →
      (crossed row.songId after || events.any (SuggestionDb.selectsOther row)) =
        crossed row.songId (after ++ [x])) :
    (∀ row ∈ t.deferrals, ∃ before after,
      history ++ [x] = before ++ .deferred row.scope row.semanticKey :: after ∧
        Stands t before after row) ∧
    ∀ before scope key after, history ++ [x] = before ++ .deferred scope key :: after →
      ∃ row ∈ t.deferrals, row.scope = scope ∧ row.semanticKey = key ∧ Stands t before after row := by
  rw [hdeferrals]
  constructor
  · intro row hrow
    obtain ⟨before, after, hsplit, hstands⟩ := h.stands row hrow
    refine ⟨before, after ++ [x], by rw [hsplit, List.append_assoc]; rfl, ?_⟩
    exact hstands.append hactivity (heffect row hrow before after hsplit)
  · intro before scope key after hsplit
    rcases split_append hsplit with ⟨-, -, hlast⟩ | ⟨rest, rfl, hold⟩
    · exact absurd hlast.symm (hx scope key)
    · obtain ⟨row, hrow, rfl, rfl, hstands⟩ := h.kept before scope key rest hold
      exact ⟨row, hrow, rfl, rfl, hstands.append hactivity (heffect row hrow before rest hold)⟩

/-! ### One step -/

theorem Agrees.select {songId : String} (h : Agrees artistId db history)
    (hartist : t.lineage.metadata.lookup "primary_artist_id" = some artistId)
    (hactive : t.lineage.metadata.lookup "active_song_id" = some songId)
    (hsongs : ∀ song ∈ t.lineage.songs, song.artistId = artistId ∧ song.id ≠ "")
    (hexists : ∃ song ∈ t.lineage.songs, song.id = songId) (hsessions : t.sessions = db.sessions)
    (hdeferrals : t.deferrals = db.deferrals) (hactivity : t.activity = db.activity ++ events)
    (hquiet : ∀ event ∈ events, event.eventType ≠ .suggestionDeferred)
    (hevents : ∀ row : SuggestionDeferral, row.artistId = artistId →
      events.any (SuggestionDb.selectsOther row) =
        decide (activeSong history ≠ some songId ∧ songId ≠ row.songId)) :
    Agrees artistId t (history ++ [.selected songId]) := by
  obtain ⟨hstands, hkept⟩ := h.rows_append (x := .selected songId) hactivity hdeferrals nofun
    (fun row hrow before after hsplit hbefore ↦ by
      rw [hevents row (h.owned row hrow), crossed_append]
      -- Without an event the song was active before, and then it had been selected after the deferral.
      by_cases hsame : activeSong history = some songId
      · by_cases hother : songId = row.songId
        · simp [hsame, hother, crossed, Happening.selectedSong]
        · have hcrossed : crossed row.songId after = true := by
            by_contra hnot
            have hnone : crossed row.songId (.deferred row.scope row.semanticKey :: after) = false := by
              simpa [crossed, Happening.selectedSong] using hnot
            have hstill := activeSong_of_not_crossed hbefore hnone
            rw [← hsplit, hsame] at hstill
            exact hother (Option.some.inj hstill)
          rw [hcrossed, Bool.true_or, Bool.true_or]
      · have hselected : crossed row.songId [.selected songId] = decide (songId ≠ row.songId) := by
          rw [Bool.eq_iff_iff]
          simp [crossed, Happening.selectedSong]
        simp [hsame, hselected])
  exact
    { artist := hartist
      active := by rw [hactive, activeSong_selected]; rfl
      songs := hsongs
      activeExists := by simpa using hexists
      sessions := fun other ↦ by
        rw [SuggestionDb.sessionsOf, hsessions, sessionsOf, List.filterMap_append]
        exact (h.sessions other).trans (List.append_nil _).symm
      owned := hdeferrals ▸ h.owned
      noted := fun event hevent htype ↦ by
        rw [hactivity] at hevent
        rw [hdeferrals]
        rcases List.mem_append.mp hevent with hold | hnew
        · exact h.noted event hold htype
        · exact absurd htype (hquiet event hnew)
      stands := hstands
      kept := hkept }

/-- A change of the sessions. -/
theorem Agrees.session (h : Agrees artistId db history) (hlineage : t.lineage = db.lineage)
    (hx : x.selectedSong = none) (hnot : ∀ scope key, x ≠ .deferred scope key)
    (hsessions : ∀ songId, (t.sessionsOf songId).map SongSession.id =
      (db.sessionsOf songId).map SongSession.id ++ ([x].filterMap (Happening.startedSession songId)))
    (hdeferrals : t.deferrals = db.deferrals) (hactivity : t.activity = db.activity ++ events)
    (hquiet : ∀ event ∈ events,
      event.eventType ≠ .suggestionDeferred ∧ event.eventType ≠ .songSelected) :
    Agrees artistId t (history ++ [x]) := by
  obtain ⟨hstands, hkept⟩ := h.rows_append hactivity hdeferrals hnot
    (fun row _ before after _ _ ↦ by
      have hnone : events.any (SuggestionDb.selectsOther row) = false :=
        List.any_eq_false.mpr fun event hevent ↦ by
          rw [selectsOther_eq_false (hquiet event hevent).2]
          exact Bool.false_ne_true
      rw [hnone, crossed_append]
      simp [crossed, hx])
  exact
    { artist := hlineage ▸ h.artist
      active := by rw [hlineage, activeSong_of_not_selected hx, h.active]
      songs := hlineage ▸ h.songs
      activeExists := by rw [hlineage, activeSong_of_not_selected hx]; exact h.activeExists
      sessions := fun songId ↦ by
        rw [hsessions, h.sessions, sessionsOf, sessionsOf, List.filterMap_append]
      owned := hdeferrals ▸ h.owned
      noted := fun event hevent htype ↦ by
        rw [hactivity] at hevent
        rw [hdeferrals]
        rcases List.mem_append.mp hevent with hold | hnew
        · exact h.noted event hold htype
        · exact absurd htype (hquiet event hnew).1
      stands := hstands
      kept := hkept }

/-- A deferral, for which there is a row that was there or is new. -/
theorem Agrees.defer {scope : DeferralScope} {key : String} {added : List SuggestionDeferral}
    (h : Agrees artistId db history) (hlineage : t.lineage = db.lineage)
    (hsessions : t.sessions = db.sessions) (hdeferrals : t.deferrals = db.deferrals ++ added)
    (hactivity : t.activity = db.activity ++ events)
    (hquiet : ∀ event ∈ events, event.eventType ≠ .songSelected)
    (hnoted : ∀ event ∈ events, event.eventType = .suggestionDeferred →
      ∃ row ∈ t.deferrals, row.id = event.objectId)
    (hadded : ∀ other ∈ added, other = row ∧ row.artistId = artistId) (hrow : row ∈ t.deferrals)
    (hscope : row.scope = scope) (hkey : row.semanticKey = key)
    (hstands : Stands t history [] row) : Agrees artistId t (history ++ [.deferred scope key]) := by
  have hmore : ∀ {before after other}, Stands db before after other →
      Stands t before (after ++ [.deferred scope key]) other := fun {before after other} hold ↦
    hold.append hactivity fun _ ↦ by
      have hnone : events.any (SuggestionDb.selectsOther other) = false :=
        List.any_eq_false.mpr fun event hevent ↦ by
          rw [selectsOther_eq_false (hquiet event hevent)]
          exact Bool.false_ne_true
      rw [hnone, crossed_append]
      simp [crossed, Happening.selectedSong]
  have hactive : activeSong (history ++ [.deferred scope key]) = activeSong history :=
    activeSong_of_not_selected rfl
  refine
    { artist := hlineage ▸ h.artist
      active := by rw [hlineage, hactive, h.active]
      songs := hlineage ▸ h.songs
      activeExists := by rw [hlineage, hactive]; exact h.activeExists
      sessions := fun songId ↦ ?_
      owned := fun other hother ↦ ?_
      noted := fun event hevent htype ↦ ?_
      stands := fun other hother ↦ ?_
      kept := fun before otherScope otherKey after hsplit ↦ ?_ }
  · rw [SuggestionDb.sessionsOf, hsessions, sessionsOf, List.filterMap_append]
    exact (h.sessions songId).trans (List.append_nil _).symm
  · rcases List.mem_append.mp (hdeferrals ▸ hother) with hold | hnew
    · exact h.owned other hold
    · obtain ⟨rfl, howned⟩ := hadded other hnew
      exact howned
  · rcases List.mem_append.mp (hactivity ▸ hevent) with hold | hnew
    · obtain ⟨other, hother, hid⟩ := h.noted event hold htype
      exact ⟨other, hdeferrals ▸ List.mem_append_left _ hother, hid⟩
    · exact hnoted event hnew htype
  · rcases List.mem_append.mp (hdeferrals ▸ hother) with hold | hnew
    · obtain ⟨before, after, hsplit, hother⟩ := h.stands other hold
      exact ⟨before, _, by rw [hsplit, List.append_assoc]; rfl, hmore hother⟩
    · obtain ⟨rfl, -⟩ := hadded other hnew
      exact ⟨history, [], by rw [hscope, hkey], hstands⟩
  · rcases split_append hsplit with ⟨rfl, rfl, hlast⟩ | ⟨rest, rfl, hold⟩
    · obtain ⟨rfl, rfl⟩ := Happening.deferred.inj hlast
      exact ⟨row, hrow, hscope, hkey, hstands⟩
    · obtain ⟨other, hother, hsame, hsameKey, hstill⟩ := h.kept before otherScope otherKey rest hold
      exact ⟨other, hdeferrals ▸ List.mem_append_left _ hother, hsame, hsameKey, hmore hstill⟩

/-! ### Operations -/

theorem lookup_setMetadata (lineage : LineageDb) (key value other : String) :
    (lineage.setMetadata key value).metadata.lookup other =
      if other = key then (lineage.metadata.lookup other).map fun _ ↦ value
      else lineage.metadata.lookup other := by
  show List.lookup other (lineage.metadata.map _) = _
  induction lineage.metadata with
  | nil => simp
  | cons pair rest ih =>
    obtain ⟨name, old⟩ := pair
    rw [List.map_cons, List.lookup_cons]
    by_cases hname : name = key
    · by_cases hother : other = key
      · simp [hname, hother]
      · simp only [hname, if_true, List.lookup_cons, beq_eq_false_iff_ne.mpr hother]
        simpa [hother] using ih
    · by_cases hsame : other = name
      · subst hsame
        simp [hname]
      · simp only [hname, if_false, List.lookup_cons, beq_eq_false_iff_ne.mpr hsame]
        exact ih

/-- What a call leaves: what it did has happened, or it raised and changed nothing. -/
def Follows {α : Type} (artistId : String) (db : SuggestionDb) (history : List Happening)
    (x : Happening) : Except (Raised LineageErrorClass) α → SuggestionDb → Prop
  | .ok _, t => Agrees artistId t (history ++ [x])
  | .error _, t => t = db

theorem getSong_of_mem {songId : String} (h : ∃ song ∈ db.lineage.songs, song.id = songId) :
    ∃ song ∈ db.lineage.songs, db.getSong songId = some song ∧ song.id = songId := by
  obtain ⟨song, hmem, hid⟩ := h
  rcases hfound : db.getSong songId with _ | found
  · exact absurd hid (by simpa using List.find?_eq_none.mp hfound song hmem)
  · exact ⟨found, List.mem_of_find?_eq_some hfound, rfl, by simpa using List.find?_some hfound⟩

/-- What is logged when a song becomes active. -/
theorem any_selectionEvents {songId : String}
    (hsongs : ∀ song ∈ db.lineage.songs, song.artistId = artistId ∧ song.id ≠ "")
    (hexists : ∃ song ∈ db.lineage.songs, song.id = songId)
    (hactive : db.lineage.metadata.lookup "active_song_id" = some ((activeSong history).getD ""))
    (hrow : row.artistId = artistId) :
    (db.selectionEvents songId).any (SuggestionDb.selectsOther row) =
      decide (activeSong history ≠ some songId ∧ songId ≠ row.songId) := by
  have hne : songId ≠ "" := by
    obtain ⟨song, hmem, rfl⟩ := hexists
    exact (hsongs song hmem).2
  have hcond : (songId ≠ "" ∧ db.lineage.metadata.lookup "active_song_id" ≠ some songId) ↔
      activeSong history ≠ some songId := by
    rw [hactive]
    cases activeSong history with
    | none => simp [hne, hne.symm]
    | some other => simp [hne]
  rw [SuggestionDb.selectionEvents, Bool.eq_iff_iff, decide_eq_true_iff]
  split_ifs with h
  · rw [hcond] at h
    simp only [List.any_map, List.any_eq_true, List.mem_filter, decide_eq_true_eq,
      Function.comp_apply, SuggestionDb.selectsOther, Option.any_some, Bool.and_eq_true, and_true,
      bne_iff_ne]
    constructor
    · rintro ⟨song, ⟨hmem, rfl⟩, -, hother⟩
      exact ⟨h, hother⟩
    · rintro ⟨-, hother⟩
      obtain ⟨song, hmem, rfl⟩ := hexists
      exact ⟨song, ⟨hmem, rfl⟩, (hsongs song hmem).1.trans hrow.symm, hother⟩
  · rw [hcond] at h
    simp [h]

/-- Setting the active song to one that exists. -/
theorem Agrees.setActiveSong {songId : String} {middle : SuggestionDb}
    (h : Agrees artistId db history)
    (hmetadata : middle.lineage.metadata = db.lineage.metadata)
    (hsongs : ∀ song ∈ middle.lineage.songs, song.artistId = artistId ∧ song.id ≠ "")
    (hexists : ∃ song ∈ middle.lineage.songs, song.id = songId)
    (hsessions : middle.sessions = db.sessions) (hdeferrals : middle.deferrals = db.deferrals)
    (hactivity : middle.activity = db.activity ++ events)
    (hquiet : ∀ event ∈ events,
      event.eventType ≠ .suggestionDeferred ∧ event.eventType ≠ .songSelected) :
    Agrees artistId (middle.setActiveSong songId) (history ++ [.selected songId]) := by
  have hactive := hmetadata ▸ h.active
  have hlogged : (middle.setActiveSong songId).activity =
      db.activity ++ (events ++ middle.selectionEvents songId) := by
    show middle.activity ++ _ = _
    rw [hactivity, List.append_assoc]
  refine h.select ?_ ?_ hsongs hexists hsessions hdeferrals hlogged ?_ ?_
  · exact (lookup_setMetadata _ _ _ _).trans (hmetadata ▸ h.artist)
  · refine (lookup_setMetadata _ _ _ _).trans ?_
    rw [if_pos rfl, hactive]
    rfl
  · intro event hevent
    rcases List.mem_append.mp hevent with hold | hnew
    · exact (hquiet event hold).1
    · unfold SuggestionDb.selectionEvents at hnew
      split_ifs at hnew
      · obtain ⟨song, -, rfl⟩ := List.mem_map.mp hnew
        nofun
      · cases hnew
  · intro row hrow
    have hnone : events.any (SuggestionDb.selectsOther row) = false :=
      List.any_eq_false.mpr fun event hevent ↦ by
        rw [selectsOther_eq_false (hquiet event hevent).2]
        exact Bool.false_ne_true
    rw [List.any_append, hnone, Bool.false_or]
    exact any_selectionEvents hsongs hexists hactive hrow

theorem follows_selectSong (profileId songId : String) (h : Agrees artistId db history) :
    Follows artistId db history (.selected songId) (exec (selectSong profileId songId) db).1
      (exec (selectSong profileId songId) db).2 := by
  rcases hsong : db.requireSong profileId songId with e | song
  · have hrun : exec (selectSong profileId songId) db = (.error e, db) :=
      exec_bind_of_error (by rw [exec_asking, hsong])
    rw [hrun]
    rfl
  · have hfound : db.getSong songId = some song := by
      simpa [SuggestionDb.requireSong] using hsong
    have hid : song.id = songId := by simpa using List.find?_some hfound
    have hrun : exec (selectSong profileId songId) db = (.ok song, db.setActiveSong song.id) := by
      refine (exec_bind_of_ok (by rw [exec_asking, hsong])).trans ?_
      exact exec_bind_of_ok (exec_transacting _ _)
    rw [hrun]
    show Agrees artistId (db.setActiveSong song.id) _
    rw [hid]
    exact h.setActiveSong rfl h.songs ⟨song, List.mem_of_find?_eq_some hfound, hid⟩ rfl
      rfl (List.append_nil _).symm (by simp)

theorem newId_ne_empty (kind : String) (uuid : Uuid) : newId kind uuid ≠ "" := by
  intro h
  have hlist := congrArg String.toList h
  simp [newId] at hlist

/-- What the transaction of `create_song` does. -/
theorem Agrees.insertActiveSong {songId title : String} {u : Unit} (h : Agrees artistId db history)
    (hne : songId ≠ "") (hinsert : insertActiveSong songId title db = .ok (u, t)) :
    Agrees artistId t (history ++ [.selected songId]) := by
  simp only [Suggestions.insertActiveSong, SuggestionDb.primaryArtistId, h.artist, bind_eq_ok,
    orRaise_eq_ok, Option.some.injEq, SuggestionDb.insertSong, LineageDb.insertSong, require_eq_ok,
    Except.ok.injEq, Prod.mk.injEq] at hinsert
  obtain ⟨_, rfl, _, ⟨_, ⟨_, -, _, -, _, -, rfl⟩, rfl⟩, -, rfl⟩ := hinsert
  refine h.setActiveSong rfl (fun song hsong ↦ ?_)
    ⟨_, List.mem_append_right _ (List.mem_singleton_self _), rfl⟩ rfl rfl rfl (by simp)
  rcases List.mem_append.mp hsong with hold | hnew
  · exact h.songs song hold
  · rw [List.mem_singleton.mp hnew]
    exact ⟨rfl, hne⟩

theorem follows_createSong (uuid : Uuid) (title : String) (h : Agrees artistId db history) :
    Follows artistId db history (.selected (newId "song" uuid)) (exec (createSong uuid title) db).1
      (exec (createSong uuid title) db).2 := by
  rcases htitle : requireText title "title" with e | text
  · rw [createSong, htitle, exec_fromExcept_error]
    rfl
  · rw [createSong, htitle, exec_fromExcept_ok]
    rcases hinsert : insertActiveSong (newId "song" uuid) text db with e | ⟨u, t⟩
    · rw [exec_bind_of_error (exec_transacting_error hinsert)]
      rfl
    · have hagrees := h.insertActiveSong (newId_ne_empty _ _) hinsert
      obtain ⟨song, -, hsong, -⟩ := getSong_of_mem (hagrees.activeExists (newId "song" uuid) (by simp))
      rw [exec_bind_of_ok (exec_transacting_ok hinsert), exec_asking, hsong]
      exact hagrees

/-- What the transaction of `start_session` does. -/
theorem Agrees.insertStarted {session : SongSession} {u : Unit} (h : Agrees artistId db history)
    (hinsert : insertStarted session db = .ok (u, t)) :
    Agrees artistId t (history ++ [.started session.songId session.id]) ∧
      session ∈ t.sessions := by
  simp only [Suggestions.insertStarted, bind_eq_ok, integrityAs_eq_ok, SuggestionDb.insertSession,
    require_eq_ok, Except.ok.injEq, Prod.mk.injEq] at hinsert
  obtain ⟨_, ⟨_, -, _, -, _, -, _, -, _, -, rfl⟩, -, rfl⟩ := hinsert
  refine ⟨h.session rfl rfl (by rintro _ _ ⟨⟩) (fun songId ↦ ?_) rfl rfl (by simp), by
    exact List.mem_append_right _ (List.mem_singleton_self _)⟩
  simp only [SuggestionDb.sessionsOf, SuggestionDb.log, List.filter_append, List.map_append]
  by_cases hsame : session.songId = songId
  · simp [Happening.startedSession, hsame]
  · simp [Happening.startedSession, hsame]

theorem getSession_of_mem {session : SongSession} (h : session ∈ db.sessions) :
    ∃ found, db.getSession session.id = some found := by
  rcases hfound : db.getSession session.id with _ | found
  · exact absurd (List.find?_eq_none.mp hfound session h) (by simp)
  · exact ⟨found, rfl⟩

theorem follows_startSession (profileId : String) (uuid : Uuid) (songId objective : String)
    (versionId : Option String) (h : Agrees artistId db history) :
    Follows artistId db history (.started songId (newId "sess" uuid))
      (exec (startSession profileId uuid songId objective versionId) db).1
      (exec (startSession profileId uuid songId objective versionId) db).2 := by
  rw [startSession]
  rcases hrow : normalizeSession profileId uuid songId objective versionId db with e | session
  · rw [exec_bind_of_error (by rw [exec_asking, hrow])]
    rfl
  · rw [exec_bind_of_ok (by rw [exec_asking, hrow])]
    simp only [normalizeSession, SuggestionDb.requireSong, bind_eq_ok, orRaise_eq_ok,
      Except.ok.injEq] at hrow
    obtain ⟨song, hsong, _, -, _, -, _, -, hsession⟩ := hrow
    have hid : song.id = songId := by simpa using List.find?_some hsong
    rcases hinsert : insertStarted session db with e | ⟨u, t⟩
    · rw [exec_bind_of_error (exec_transacting_error hinsert)]
      rfl
    · obtain ⟨hagrees, hmem⟩ := h.insertStarted hinsert
      obtain ⟨found, hfound⟩ := getSession_of_mem hmem
      rw [exec_bind_of_ok (exec_transacting_ok hinsert), exec_asking, SuggestionDb.requireSession,
        hfound]
      subst hsession
      rw [← hid]
      exact hagrees

/-- What the transaction of `close_session` does. -/
theorem Agrees.updateClosed {sessionId debriefSummary nextAction : String} {u : Unit}
    (h : Agrees artistId db history)
    (hupdate : updateClosed sessionId debriefSummary nextAction db = .ok (u, t)) :
    Agrees artistId t (history ++ [.closed sessionId]) ∧
      t.sessions.map SongSession.id = db.sessions.map SongSession.id := by
  simp only [Suggestions.updateClosed, bind_eq_ok, integrityAs_eq_ok, SuggestionDb.closeOpen,
    require_eq_ok, Except.ok.injEq, Prod.mk.injEq] at hupdate
  obtain ⟨_, ⟨_, -, rfl⟩, -, rfl⟩ := hupdate
  constructor
  · refine h.session rfl rfl (by rintro _ _ ⟨⟩) (fun songId ↦ ?_) rfl rfl (by simp)
    show _ = List.map SongSession.id _ ++ []
    simp only [SuggestionDb.sessionsOf, List.filter_map, List.map_map, List.append_nil]
    rw [List.filter_congr fun session _ ↦ ?_]
    · refine List.map_congr_left fun session _ ↦ ?_
      simp only [Function.comp_apply]
      split_ifs <;> rfl
    · simp only [Function.comp_apply]
      split_ifs <;> rfl
  · rw [List.map_map]
    refine List.map_congr_left fun session _ ↦ ?_
    simp only [Function.comp_apply]
    split_ifs <;> rfl

theorem follows_closeSession (profileId sessionId debriefSummary nextAction : String)
    (h : Agrees artistId db history) :
    Follows artistId db history (.closed sessionId)
      (exec (closeSession profileId sessionId debriefSummary nextAction) db).1
      (exec (closeSession profileId sessionId debriefSummary nextAction) db).2 := by
  rw [closeSession]
  rcases hclosing : normalizeClosing profileId sessionId debriefSummary nextAction db with
    e | ⟨session, debrief, next⟩
  · rw [exec_bind_of_error (by rw [exec_asking, hclosing])]
    rfl
  · rw [exec_bind_of_ok (by rw [exec_asking, hclosing])]
    simp only [normalizeClosing, SuggestionDb.requireSession, bind_eq_ok, orRaise_eq_ok,
      require_eq_ok, Except.ok.injEq, Prod.mk.injEq] at hclosing
    obtain ⟨opened, hsession, _, -, debriefText, -, nextText, -, rfl, rfl, rfl⟩ := hclosing
    have hid : opened.id = sessionId := by simpa using List.find?_some hsession
    rcases hupdate : updateClosed opened.id debriefText nextText db with e | ⟨u, t⟩
    · rw [exec_bind_of_error (exec_transacting_error hupdate)]
      rfl
    · obtain ⟨hagrees, hids⟩ := h.updateClosed hupdate
      have hmem : opened.id ∈ t.sessions.map SongSession.id := by
        rw [hids]
        exact List.mem_map_of_mem (List.mem_of_find?_eq_some hsession)
      obtain ⟨still, hstill, hsame⟩ := List.mem_map.mp hmem
      obtain ⟨found, hfound⟩ := getSession_of_mem hstill
      rw [exec_bind_of_ok (exec_transacting_ok hupdate), exec_asking, SuggestionDb.requireSession,
        ← hsame, hfound, ← hid]
      exact hagrees

/-! ### Deferring -/

theorem firstUncrossed_eq_some {rows : List SuggestionDeferral}
    (h : db.firstUncrossed rows = .ok (some row)) :
    row ∈ rows ∧ db.nextSongHorizonCrossed row = .ok false := by
  induction rows with
  | nil => cases h
  | cons record rest ih =>
    obtain ⟨b, hcrossed, hrest⟩ := bind_eq_ok.mp h
    cases b with
    | false =>
      obtain rfl := Option.some.inj (Except.ok.inj hrest)
      exact ⟨List.mem_cons_self, hcrossed⟩
    | true =>
      obtain ⟨hmem, hnot⟩ := ih hrest
      exact ⟨List.mem_cons_of_mem _ hmem, hnot⟩

/-- A deferral that there is already stands for one that is made again. -/
theorem Agrees.stands_existing {key songId : String} {sessionId : Option String}
    {scope : DeferralScope} (h : Agrees artistId db history)
    (hactive : activeSong history = some songId) (hsession : latestSession history songId = sessionId)
    (hexisting : db.existing key songId sessionId scope = .ok (some row)) :
    row ∈ db.deferrals ∧ row.scope = scope ∧ row.semanticKey = key ∧ Stands db history [] row := by
  have hprimary : db.primaryArtistId = .ok artistId := by
    rw [SuggestionDb.primaryArtistId, h.artist]
    rfl
  cases scope with
  | laterThisSong =>
    simp only [SuggestionDb.existing, hprimary, bind_eq_ok, Except.ok.injEq] at hexisting
    obtain ⟨_, rfl, hfind⟩ := hexisting
    have hfound := List.find?_some hfind
    simp only [decide_eq_true_eq] at hfound
    obtain ⟨-, rfl, ⟨hsome, rfl⟩, rfl, hscope⟩ := hfound
    refine ⟨List.mem_of_find?_eq_some hfind, hscope, rfl, ?_⟩
    simp only [Stands, hscope]
    exact ⟨hactive, Option.isSome_iff_ne_none.mpr hsome, hsession⟩
  | nextSong =>
    simp only [SuggestionDb.existing, hprimary, bind_eq_ok, Except.ok.injEq] at hexisting
    obtain ⟨_, rfl, hfirst⟩ := hexisting
    obtain ⟨hmem, hnot⟩ := firstUncrossed_eq_some hfirst
    rw [List.mem_reverse, List.mem_filter, decide_eq_true_eq] at hmem
    obtain ⟨hrow, -, rfl, rfl, hscope⟩ := hmem
    refine ⟨hrow, hscope, rfl, ?_⟩
    simp only [Stands, hscope]
    exact ⟨hactive, hnot⟩
  | neverSuggestAgain =>
    simp only [SuggestionDb.existing, hprimary, bind_eq_ok, Except.ok.injEq] at hexisting
    obtain ⟨_, rfl, hfind⟩ := hexisting
    have hfound := List.find?_some hfind
    simp only [decide_eq_true_eq] at hfound
    obtain ⟨-, rfl, hscope⟩ := hfound
    refine ⟨List.mem_of_find?_eq_some hfind, hscope, rfl, ?_⟩
    simp only [Stands, hscope]
    exact ⟨songId, hactive⟩

/-- A deferral for which there is a row already. -/
theorem Agrees.again {scope : DeferralScope} {key : String} (h : Agrees artistId db history)
    (hrow : row ∈ db.deferrals) (hscope : row.scope = scope) (hkey : row.semanticKey = key)
    (hstands : Stands db history [] row) : Agrees artistId db (history ++ [.deferred scope key]) :=
  h.defer rfl rfl (List.append_nil _).symm (List.append_nil _).symm
    (by simp) (by simp) (by simp) hrow hscope hkey hstands

/-- What the transaction of `_defer` does. -/
theorem Agrees.deferOnce {deferralId key songId : String} {sessionId : Option String}
    {scope : DeferralScope} {found : Option SuggestionDeferral} (h : Agrees artistId db history)
    (hactive : activeSong history = some songId) (hsession : latestSession history songId = sessionId)
    (hlater : scope = .laterThisSong → sessionId ≠ none)
    (honce : deferOnce deferralId key songId sessionId scope db = .ok (found, t)) :
    Agrees artistId t (history ++ [.deferred scope key]) ∧
      (found = none → ∃ row ∈ t.deferrals, row.id = deferralId) := by
  obtain ⟨existing, hexisting, hrest⟩ := bind_eq_ok.mp honce
  cases existing with
  | some record =>
    obtain ⟨rfl, rfl⟩ := Prod.mk.inj (Except.ok.inj hrest)
    obtain ⟨hmem, hscope, hkey, hstands⟩ := h.stands_existing hactive hsession hexisting
    exact ⟨h.again hmem hscope hkey hstands, nofun⟩
  | none =>
    simp only [SuggestionDb.primaryArtistId, h.artist, bind_eq_ok, orRaise_eq_ok, Option.some.injEq,
      SuggestionDb.insertDeferral, require_eq_ok, Except.ok.injEq, Prod.mk.injEq] at hrest
    obtain ⟨_, rfl, _, ⟨_, -, _, hfresh, _, -, rfl⟩, rfl, rfl⟩ := hrest
    have hnew : (⟨deferralId, artistId, songId, sessionId, key, scope⟩ : SuggestionDeferral) ∈
        db.deferrals ++ [⟨deferralId, artistId, songId, sessionId, key, scope⟩] :=
      List.mem_append_right _ (List.mem_singleton_self _)
    refine ⟨h.defer rfl rfl rfl rfl (by simp) (fun event hevent _ ↦ ?_) (by simp) hnew rfl rfl ?_,
      fun _ ↦ ⟨_, hnew, rfl⟩⟩
    · rw [List.mem_singleton.mp hevent]
      exact ⟨_, hnew, rfl⟩
    · cases scope with
      | laterThisSong => exact ⟨hactive, Option.isSome_iff_ne_none.mpr (hlater rfl), hsession⟩
      | nextSong =>
        refine ⟨hactive, nextSongHorizonCrossed_new (fun event hevent horigin ↦ ?_)
          ⟨rfl, rfl, rfl, rfl⟩ (rfl : _ = db.activity ++ _)⟩
        obtain ⟨row, hrow, hid⟩ := h.noted event hevent horigin.2.1
        exact hfresh row hrow (hid.trans horigin.2.2.2)
      | neverSuggestAgain => exact ⟨songId, hactive⟩

theorem activeSong_eq (h : Agrees artistId db history) :
    (activeSong history = none ∧ db.activeSong = .ok none) ∨
      ∃ song, activeSong history = some song.id ∧ db.activeSong = .ok (some song) ∧
        db.getSong song.id = some song := by
  have hvalue := h.active
  cases hactive : activeSong history with
  | none =>
    refine .inl ⟨rfl, ?_⟩
    rw [hactive] at hvalue
    rw [SuggestionDb.activeSong, hvalue]
    rfl
  | some songId =>
    obtain ⟨song, hmem, hsong, rfl⟩ := getSong_of_mem (h.activeExists songId (by simp [hactive]))
    refine .inr ⟨song, rfl, ?_, hsong⟩
    rw [hactive] at hvalue
    rw [SuggestionDb.activeSong, hvalue]
    show (if song.id = "" then .ok none else
      some <$> orRaise (db.getSong song.id) (corruption "active Song identity is missing")) = _
    rw [if_neg (h.songs song hmem).2, hsong]
    rfl

theorem latestForSong_eq (profileId : String) {songId : String} {song : Song} (h : Agrees artistId db history)
    (hsong : db.getSong songId = some song) :
    ∃ session, db.latestForSong profileId songId = .ok session ∧
      session.map SongSession.id = latestSession history songId := by
  refine ⟨(db.sessionsOf songId).getLast?, ?_, ?_⟩
  · rw [SuggestionDb.latestForSong, SuggestionDb.requireSong, hsong]
    rfl
  · rw [latestSession, ← h.sessions songId, List.getLast?_map]

/-- What a new deferral is bound to. -/
theorem Agrees.binding {profileId semanticKey key songId : String} {sessionId : Option String}
    {scope : DeferralScope} (h : Agrees artistId db history)
    (hbinding : deferralBinding profileId semanticKey scope db = .ok (key, songId, sessionId)) :
    key = strip semanticKey ∧ activeSong history = some songId ∧
      latestSession history songId = sessionId ∧ (scope = .laterThisSong → sessionId ≠ none) := by
  simp only [deferralBinding, normalizeKey, bind_eq_ok, require_eq_ok, Except.ok.injEq,
    orRaise_eq_ok, Prod.mk.injEq] at hbinding
  obtain ⟨_, ⟨_, -, rfl⟩, _, hactive, song, rfl, session, hlatest, _, hlater, rfl, rfl, rfl⟩ := hbinding
  rcases activeSong_eq h with ⟨-, hnone⟩ | ⟨active, hactiveSong, hsome, hsong⟩
  · rw [hnone] at hactive
    cases hactive
  · obtain rfl := Option.some.inj (Except.ok.inj (hsome.symm.trans hactive))
    obtain ⟨found, hfound, hmap⟩ := latestForSong_eq profileId h hsong
    obtain rfl := Except.ok.inj (hfound.symm.trans hlatest)
    refine ⟨rfl, hactiveSong, hmap.symm, fun hscope hnone ↦ hlater ⟨hscope, ?_⟩⟩
    exact Option.map_eq_none_iff.mp hnone

/-- What `_defer` makes of a constraint that refused its row. -/
theorem exec_afterConflict (db : SuggestionDb) (key songId : String) (sessionId : Option String)
    (scope : DeferralScope) (e : Raised LineageErrorClass) :
    ∃ result, exec (afterConflict key songId sessionId scope e) db = (result, db) ∧
      ∀ found, result = .ok found →
        ∃ record, found = some record ∧ db.existing key songId sessionId scope = .ok (some record) := by
  unfold afterConflict
  split
  · refine ⟨_, exec_asking _ _, fun found hfound ↦ ?_⟩
    simp only [bind_eq_ok, map_eq_ok, orRaise_eq_ok] at hfound
    obtain ⟨_, hexisting, record, rfl, rfl⟩ := hfound
    exact ⟨record, rfl, hexisting⟩
  · exact ⟨_, exec_throw _ _, by rintro _ ⟨⟩⟩

theorem follows_defer (profileId : String) (uuid : Uuid) (semanticKey : String)
    (scope : DeferralScope) (h : Agrees artistId db history) :
    Follows artistId db history (.deferred scope (strip semanticKey))
      (exec (defer profileId uuid semanticKey scope) db).1
      (exec (defer profileId uuid semanticKey scope) db).2 := by
  rw [defer]
  rcases hbinding : deferralBinding profileId semanticKey scope db with e | ⟨key, songId, sessionId⟩
  · rw [exec_bind_of_error (by rw [exec_asking, hbinding])]
    rfl
  · rw [exec_bind_of_ok (by rw [exec_asking, hbinding])]
    obtain ⟨rfl, hactive, hsession, hlater⟩ := h.binding hbinding
    rcases honce : deferOnce (newId "defer" uuid) (strip semanticKey) songId sessionId scope db with
      e | ⟨found, t⟩
    · -- The constraint that refused the row is answered with the deferral that is there.
      obtain ⟨result, hafter, hfound⟩ :=
        exec_afterConflict db (strip semanticKey) songId sessionId scope e
      have hhandled : exec (tryCatch (transacting (deferOnce (newId "defer" uuid)
          (strip semanticKey) songId sessionId scope))
          (afterConflict (strip semanticKey) songId sessionId scope)) db = (result, db) := by
        rw [exec_tryCatch, exec_transacting_error honce]
        exact hafter
      rcases result with e' | found
      · rw [exec_bind_of_error hhandled]
        rfl
      · obtain ⟨record, rfl, hexisting⟩ := hfound found rfl
        rw [exec_bind_of_ok hhandled]
        obtain ⟨hmem, hscope, hkey, hstands⟩ := h.stands_existing hactive hsession hexisting
        exact h.again hmem hscope hkey hstands
    · have hhandled : exec (tryCatch (transacting (deferOnce (newId "defer" uuid)
          (strip semanticKey) songId sessionId scope))
          (afterConflict (strip semanticKey) songId sessionId scope)) db = (.ok found, t) := by
        rw [exec_tryCatch, exec_transacting_ok honce]
      rw [exec_bind_of_ok hhandled]
      obtain ⟨hagrees, hrow⟩ := h.deferOnce hactive hsession hlater honce
      cases found with
      | some record => exact hagrees
      | none =>
        obtain ⟨row, hmem, hid⟩ := hrow rfl
        rcases hfound : t.deferrals.find? (fun row ↦ row.id = newId "defer" uuid) with _ | found
        · exact absurd hid (by simpa using List.find?_eq_none.mp hfound row hmem)
        · rw [deferredRow, exec_asking, hfound]
          exact hagrees

/-! ### What is deferred -/

/-- A row holds now if and only if the deferral that it stands for hides. -/
theorem holdsNow_eq {songId : String}
    (hstands : Stands db before after row) (hactive : activeSong history = some songId) :
    ∃ b, db.holdsNow songId (latestSession history songId) row = .ok b ∧
      (b = true ↔ Hides latestSession history before after row.scope) := by
  unfold Stands at hstands
  unfold SuggestionDb.holdsNow
  split at hstands
  · rename_i hscope
    simp [hscope, Hides]
  · rename_i hscope
    obtain ⟨hbefore, hcrossed⟩ := hstands
    rw [hscope, hcrossed]
    refine ⟨_, rfl, ?_⟩
    rw [Bool.not_eq_true', crossed_eq_false_iff hbefore]
    rfl
  · rename_i hscope
    obtain ⟨hbefore, hsome, hlatest⟩ := hstands
    rw [hscope]
    refine ⟨_, rfl, ?_⟩
    obtain ⟨sessionId, hsession⟩ := Option.isSome_iff_exists.mp hsome
    simp only [decide_eq_true_eq, Hides, hbefore, hactive, Option.some.injEq]
    constructor
    · rintro ⟨rfl, hsame, -⟩
      exact ⟨_, sessionId, rfl, hlatest.trans hsession, rfl, hsame ▸ hsession⟩
    · rintro ⟨_, found, rfl, hfound, rfl, hnow⟩
      exact ⟨rfl, by rw [hnow, ← hfound, hlatest], by simp [hnow]⟩

theorem anyHoldsNow_eq {songId : String} {sessionId : Option String} {rows : List SuggestionDeferral}
    (h : ∀ row ∈ rows, ∃ b, db.holdsNow songId sessionId row = .ok b) :
    ∃ b, db.anyHoldsNow songId sessionId rows = .ok b ∧
      (b = true ↔ ∃ row ∈ rows, db.holdsNow songId sessionId row = .ok true) := by
  induction rows with
  | nil => exact ⟨false, rfl, by simp⟩
  | cons row rest ih =>
    obtain ⟨b, hb⟩ := h row List.mem_cons_self
    obtain ⟨later, hlater, hiff⟩ := ih fun other hother ↦ h other (List.mem_cons_of_mem _ hother)
    rw [SuggestionDb.anyHoldsNow, hb]
    cases b with
    | true => exact ⟨true, rfl, by simp [hb]⟩
    | false => exact ⟨later, hlater, by simp [hiff, hb]⟩

/-- No deferral was made before a song was active. -/
theorem Agrees.active_of_deferred {scope : DeferralScope} {key : String}
    (h : Agrees artistId db history) (hsplit : history = before ++ .deferred scope key :: after) :
    ∃ songId, activeSong history = some songId := by
  have hbefore : ∃ songId, activeSong before = some songId := by
    obtain ⟨row, -, -, -, hstands⟩ := h.kept before scope key after hsplit
    unfold Stands at hstands
    split at hstands
    · exact hstands
    · exact ⟨_, hstands.1⟩
    · exact ⟨_, hstands.1⟩
  obtain ⟨songId, hbefore⟩ := hbefore
  rw [hsplit, activeSong_append, hbefore]
  cases activeSong (.deferred scope key :: after) with
  | none => exact ⟨songId, rfl⟩
  | some other => exact ⟨other, rfl⟩

/-- What is deferred now, read from the tables, is what the history hides. -/
theorem Agrees.isDeferredNow_eq {profileId semanticKey key : String} (h : Agrees artistId db history)
    (hkey : normalizeKey semanticKey = .ok key) :
    ∃ b, isDeferredNow profileId semanticKey db = .ok b ∧
      (b = true ↔ Hidden latestSession history key) := by
  rw [isDeferredNow, hkey]
  rcases activeSong_eq h with ⟨hnone, hactive⟩ | ⟨song, hsome, hactive, hsong⟩
  · refine ⟨false, by rw [hactive]; rfl, by simp, ?_⟩
    rintro ⟨before, scope, after, hsplit, -⟩
    obtain ⟨songId, hactive⟩ := h.active_of_deferred hsplit
    rw [hnone] at hactive
    cases hactive
  · obtain ⟨session, hlatest, hmap⟩ := latestForSong_eq profileId h hsong
    have hprimary : db.primaryArtistId = .ok artistId := by
      rw [SuggestionDb.primaryArtistId, h.artist]
      rfl
    have hmem : ∀ row, row ∈ (db.deferrals.filter fun row ↦
        row.artistId = artistId ∧ row.semanticKey = key).reverse ↔
        row ∈ db.deferrals ∧ row.semanticKey = key := fun row ↦ by
      rw [List.mem_reverse, List.mem_filter, decide_eq_true_eq]
      exact ⟨fun hrow ↦ ⟨hrow.1, hrow.2.2⟩, fun hrow ↦ ⟨hrow.1, h.owned row hrow.1, hrow.2⟩⟩
    obtain ⟨b, hb, hiff⟩ := anyHoldsNow_eq (fun row hrow ↦ by
      obtain ⟨before, after, -, hstands⟩ := h.stands row ((hmem row).mp hrow).1
      obtain ⟨b, hb, -⟩ := holdsNow_eq hstands hsome
      exact ⟨b, hmap ▸ hb⟩)
    refine ⟨b, ?_, hiff.trans ⟨?_, ?_⟩⟩
    · simp only [bind_eq_ok]
      refine ⟨key, rfl, some song, hactive, ?_⟩
      simp only [bind_eq_ok]
      exact ⟨session, hlatest, artistId, hprimary, hb⟩
    · rintro ⟨row, hlisted, hholds⟩
      obtain ⟨hrow, rfl⟩ := (hmem row).mp hlisted
      obtain ⟨before, after, hsplit, hstands⟩ := h.stands row hrow
      obtain ⟨b, hb, hhides⟩ := holdsNow_eq hstands hsome
      rw [hmap] at hholds
      obtain rfl := Except.ok.inj (hb.symm.trans hholds)
      exact ⟨before, row.scope, after, hsplit, hhides.mp rfl⟩
    · rintro ⟨before, scope, after, hsplit, hhides⟩
      obtain ⟨row, hrow, rfl, hkey, hstands⟩ := h.kept before scope key after hsplit
      obtain ⟨b, hb, hiff⟩ := holdsNow_eq hstands hsome
      refine ⟨row, (hmem row).mpr ⟨hrow, hkey⟩, ?_⟩
      rw [hmap, hb, hiff.mpr hhides]

end

/-! ### Runs -/

section

variable {profileId artistId : String} {db : SuggestionDb} {history : List Happening}

theorem follows_map {α β : Type} {f : α → β} {x : Happening} {p : Suggesting α}
    (h : Follows artistId db history x (exec p db).1 (exec p db).2) :
    Follows artistId db history x (exec (p >>= fun a ↦ pure (f a)) db).1
      (exec (p >>= fun a ↦ pure (f a)) db).2 := by
  rw [exec_bind]
  rcases hrun : exec p db with ⟨e | a, t⟩
  · rw [hrun] at h
    exact h
  · rw [hrun] at h
    exact h

-- The elaborator would run the calls to see which case of `Follows` applies.
attribute [irreducible] Follows

theorem follows_operation (profileId : String) (operation : SuggestionOperation)
    (h : Agrees artistId db history) :
    Follows artistId db history operation.happening
      (exec (suggestionProgram profileId operation) db).1
      (exec (suggestionProgram profileId operation) db).2 := by
  cases operation with
  | createSong uuid title => exact follows_map (follows_createSong uuid title h)
  | selectSong songId => exact follows_map (follows_selectSong profileId songId h)
  | startSession uuid songId objective versionId =>
    exact follows_map (follows_startSession profileId uuid songId objective versionId h)
  | closeSession sessionId debriefSummary nextAction =>
    exact follows_map (follows_closeSession profileId sessionId debriefSummary nextAction h)
  | deferLaterThisSong uuid key => exact follows_map (follows_defer profileId uuid key _ h)
  | deferUntilNextSong uuid key => exact follows_map (follows_defer profileId uuid key _ h)
  | neverSuggestAgain uuid key => exact follows_map (follows_defer profileId uuid key _ h)

/-- The tables agree with the history after every run. -/
theorem agrees_runHistory (operations : List SuggestionOperation) (h : Agrees artistId db history) :
    Agrees artistId (runHistory profileId operations (db, history)).1
      (runHistory profileId operations (db, history)).2 := by
  induction operations generalizing db history with
  | nil => exact h
  | cons operation rest ih =>
    have hstep := follows_operation profileId operation h
    rw [runHistory]
    unfold Follows at hstep
    rcases hrun : exec (suggestionProgram profileId operation) db with ⟨e | u, t⟩
    · rw [hrun] at hstep
      obtain rfl : t = db := hstep
      exact ih h
    · rw [hrun] at hstep
      exact ih hstep

theorem agrees_create {profile artist : Uuid} {artistName : String}
    (h : SuggestionDb.create profile artist artistName = .ok (profileId, db)) :
    Agrees (newId "art" artist) db [] := by
  simp only [SuggestionDb.create, LineageDb.create, LineageDb.initializeDb, bind_eq_ok, require_eq_ok,
    Except.ok.injEq, Prod.mk.injEq, Prod.exists] at h
  obtain ⟨_, _, ⟨_, -, _, ⟨_, -, rfl⟩, _, -, rfl, rfl⟩, rfl, rfl⟩ := h
  constructor
  all_goals first | rfl | simp [activeSong, SuggestionDb.sessionsOf, sessionsOf]

/-- Whether a suggestion is deferred, after any history of a new profile. A deferral for good hides it
from then on; one until the next song as long as no other song has been selected; one until later in
the song as long as that song is the active one and the session in which it was made is its latest. -/
theorem suggestion_deferral {profile artist : Uuid} {artistName semanticKey key : String}
    (operations : List SuggestionOperation)
    (hcreate : SuggestionDb.create profile artist artistName = .ok (profileId, db))
    (hkey : normalizeKey semanticKey = .ok key) :
    ∃ b, isDeferredNow profileId semanticKey (runHistory profileId operations (db, [])).1 = .ok b ∧
      (b = true ↔ Hidden latestSession (runHistory profileId operations (db, [])).2 key) :=
  (agrees_runHistory operations (agrees_create hcreate)).isDeferredNow_eq hkey

end

/-! ### A deferral whose session is closed -/

/-- A song, a session of it, a suggestion deferred until later in the song, and the session closed. -/
def closedHistory : List SuggestionOperation :=
  [.createSong (uuidEnding 3) "Dawn",
    .startSession (uuidEnding 4) (newId "song" (uuidEnding 3)) "find the bridge" none,
    .deferLaterThisSong (uuidEnding 5) "bridge",
    .closeSession (newId "sess" (uuidEnding 4)) "no bridge" "sleep on it"]

def closedHappenings : List Happening :=
  [.selected (newId "song" (uuidEnding 3)),
    .started (newId "song" (uuidEnding 3)) (newId "sess" (uuidEnding 4)),
    .deferred .laterThisSong "bridge", .closed (newId "sess" (uuidEnding 4))]

theorem closedHistory_runs : ∃ profileId db,
    SuggestionDb.create (uuidEnding 1) (uuidEnding 2) "Ada" = .ok (profileId, db) ∧
    isDeferredNow profileId "bridge" (runHistory profileId closedHistory (db, [])).1 = .ok true ∧
    (runHistory profileId closedHistory (db, [])).2 = closedHappenings := by
  have hruns : (SuggestionDb.create (uuidEnding 1) (uuidEnding 2) "Ada").toOption.map (fun store ↦
      ((isDeferredNow store.1 "bridge" (runHistory store.1 closedHistory (store.2, [])).1).toOption,
        (runHistory store.1 closedHistory (store.2, [])).2)) = some (some true, closedHappenings) := by
    decide +kernel
  obtain ⟨⟨profileId, db⟩, hcreate, hresult⟩ := Option.map_eq_some_iff.mp hruns
  obtain ⟨hnow, hhistory⟩ := Prod.mk.inj hresult
  exact ⟨profileId, db, toOption_eq_some.mp hcreate,
    toOption_eq_some.mp hnow, hhistory⟩

/-- It is deferred, for its session is the latest of the song. -/
theorem sample_suggestion_deferral : ∃ profileId db,
    SuggestionDb.create (uuidEnding 1) (uuidEnding 2) "Ada" = .ok (profileId, db) ∧
    isDeferredNow profileId "bridge" (runHistory profileId closedHistory (db, [])).1 = .ok true ∧
    Hidden latestSession (runHistory profileId closedHistory (db, [])).2 "bridge" := by
  obtain ⟨profileId, db, hcreate, hnow, -⟩ := closedHistory_runs
  obtain ⟨b, hb, hiff⟩ := suggestion_deferral closedHistory hcreate
    (by decide +kernel : normalizeKey "bridge" = .ok "bridge")
  obtain rfl := Except.ok.inj (hb.symm.trans hnow)
  exact ⟨profileId, db, hcreate, hnow, hiff.mp rfl⟩

/-- It is deferred although its session is not the open one. -/
theorem deferred_after_close : ∃ profileId db,
    SuggestionDb.create (uuidEnding 1) (uuidEnding 2) "Ada" = .ok (profileId, db) ∧
    isDeferredNow profileId "bridge" (runHistory profileId closedHistory (db, [])).1 = .ok true ∧
    ¬ Hidden openSession (runHistory profileId closedHistory (db, [])).2 "bridge" := by
  obtain ⟨profileId, db, hcreate, hnow, hhistory⟩ := closedHistory_runs
  refine ⟨profileId, db, hcreate, hnow, ?_⟩
  rw [hhistory]
  rintro ⟨before, scope, after, hsplit, hhides⟩
  have hmem : Happening.deferred scope "bridge" ∈ closedHappenings := by
    rw [hsplit]
    exact List.mem_append_right _ List.mem_cons_self
  obtain rfl : scope = .laterThisSong := by simpa [closedHappenings] using hmem
  obtain ⟨songId, sessionId, -, -, hactive, hopen⟩ := hhides
  obtain rfl : newId "song" (uuidEnding 3) = songId := Option.some.inj hactive
  have hnone : openSession closedHappenings (newId "song" (uuidEnding 3)) = none := by decide +kernel
  rw [hnone] at hopen
  cases hopen

end N0te.Suggestions
