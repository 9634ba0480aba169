import N0te.Evidence.EvidenceInvariant
import N0te.Sessions.SessionStore

/-!
# What every committed state of the sessions satisfies

`SessionInvariant` holds of every store that calls leave behind, whatever their interleaving, and
`SessionCommit` says what one of their transactions may do: rows are only appended, items to open
sessions, and a closed session stays as it is.
-/

set_option autoImplicit false
set_option relaxedAutoImplicit false

namespace N0te.Sessions

open Library Lineage People Evidence SessionDb

/-! ### The invariant -/

/-- The invariant of the store of a profile. -/
structure SessionInvariant (profile : Profile) (db : SessionDb) : Prop where
  evidence : EvidenceInvariant profile db.evidence
  /-- A session is one of a song, and of a version of the song. -/
  sessions : ∀ session ∈ db.sessions, (∃ song ∈ profile.songs, song.id = session.songId) ∧
    ∀ versionId ∈ session.versionId, ∃ version ∈ profile.versions, version.id = versionId
  /-- An id names one session. -/
  sessionIds : (db.sessions.map SongSession.id).Nodup
  /-- A song has at most one open session. -/
  oneOpen : ∀ songId, (db.openSessionsOf songId).length ≤ 1
  items : ∀ item ∈ db.items, ∃ session ∈ db.sessions, session.id = item.sessionId
  /-- A request has the scope of its item, and its own reference. -/
  requests : ∀ request ∈ db.requests,
    db.ScopeOfItem request.itemId request.fields.scopeKind request.fields.scopeId ∧
      request.sourceRef = promotionPrefix ++ request.id ∧
      sqlNonblank request.fields.key = true
  requestItems : (db.requests.map PromotionRequest.itemId).Nodup
  /-- A reference is one of one request. -/
  requestRefs : (db.requests.map PromotionRequest.sourceRef).Nodup
  /-- A linked claim is the one that was requested. -/
  promotions : ∀ promotion ∈ db.promotions, ∃ request ∈ db.requests,
    request.itemId = promotion.itemId ∧
      ∃ claim ∈ db.evidence.claims, claim.id = promotion.claimId ∧ Fulfils claim request
  /-- An item is linked to one claim. -/
  promotionItems : (db.promotions.map SessionPromotion.itemId).Nodup
  /-- Every claim is linked. -/
  linked : ∀ claim ∈ db.evidence.claims, ∃ promotion ∈ db.promotions, promotion.claimId = claim.id

/-- What a transaction does. -/
structure SessionCommit (db after : SessionDb) : Prop where
  grows : Grows db.evidence after.evidence
  /-- A closed session stays as it is. -/
  closed : ∀ session ∈ db.sessions, session.state = .closed → session ∈ after.sessions
  /-- The items are still there. -/
  items : db.items <+: after.items
  /-- The new items are those of open sessions. -/
  appended : ∀ item ∈ after.items, item ∈ db.items ∨ db.IsOpen item.sessionId
  /-- The requests are still there. -/
  requests : db.requests <+: after.requests
  /-- So are the links. -/
  promotions : db.promotions <+: after.promotions

def Linked (db : SessionDb) (itemId : String) (claim : EvidenceClaim) : Prop :=
  claim ∈ db.evidence.claims ∧ ∃ promotion ∈ db.promotions, promotion.itemId = itemId ∧
    promotion.claimId = claim.id

section

variable {profile : Profile} {db after : SessionDb}

theorem invariant_empty : SessionInvariant profile .empty where
  evidence := evidenceInvariant_empty
  sessions := List.forall_mem_nil _
  sessionIds := List.nodup_nil
  oneOpen _ := Nat.zero_le _
  items := List.forall_mem_nil _
  requests := List.forall_mem_nil _
  requestItems := List.nodup_nil
  requestRefs := List.nodup_nil
  promotions := List.forall_mem_nil _
  promotionItems := List.nodup_nil
  linked := List.forall_mem_nil _

/-- What transactions leave alone, one after another. -/
structure Lasting (db after : SessionDb) : Prop where
  grows : Grows db.evidence after.evidence
  /-- A closed session stays as it is. -/
  closed : ∀ session ∈ db.sessions, session.state = .closed → session ∈ after.sessions
  /-- The requests are still there. -/
  requests : db.requests <+: after.requests
  /-- So are the links. -/
  promotions : db.promotions <+: after.promotions

theorem lasting_of_commits (h : Relation.ReflTransGen SessionCommit db after) : Lasting db after := by
  induction h with
  | refl => exact ⟨.refl _, fun _ h _ ↦ h, List.prefix_rfl, List.prefix_rfl⟩
  | tail _ hlast ih =>
    refine ⟨ih.grows.trans hlast.grows, fun session hsession hclosed ↦ ?_,
      ih.requests.trans hlast.requests, ih.promotions.trans hlast.promotions⟩
    exact hlast.closed session (ih.closed session hsession hclosed) hclosed

theorem Linked.of_lasting {itemId : String} {claim : EvidenceClaim} (h : Linked db itemId claim)
    (hlasting : Lasting db after) : Linked after itemId claim := by
  obtain ⟨hclaim, promotion, hpromotion, hitem, hid⟩ := h
  exact ⟨hlasting.grows.mem hclaim, promotion, hlasting.promotions.subset hpromotion, hitem, hid⟩

/-- An item is linked to one claim. -/
theorem SessionInvariant.linked_unique (h : SessionInvariant profile db) {itemId : String}
    {claim other : EvidenceClaim} (hclaim : Linked db itemId claim)
    (hother : Linked db itemId other) : claim = other := by
  obtain ⟨hmem, promotion, hpromotion, hitem, hid⟩ := hclaim
  obtain ⟨hmem', promotion', hpromotion', hitem', hid'⟩ := hother
  obtain rfl := List.inj_on_of_nodup_map h.promotionItems hpromotion hpromotion'
    (hitem.trans hitem'.symm)
  exact h.evidence.eq_of_id hmem hmem' (hid.symm.trans hid')

theorem SessionInvariant.eq_of_sessionId (h : SessionInvariant profile db)
    {session other : SongSession} (hsession : session ∈ db.sessions) (hother : other ∈ db.sessions)
    (hid : session.id = other.id) : session = other :=
  List.inj_on_of_nodup_map h.sessionIds hsession hother hid

theorem SessionInvariant.eq_of_itemId (h : SessionInvariant profile db)
    {request other : PromotionRequest} (hrequest : request ∈ db.requests)
    (hother : other ∈ db.requests) (hid : request.itemId = other.itemId) : request = other :=
  List.inj_on_of_nodup_map h.requestItems hrequest hother hid

/-! ### The statements -/

theorem SessionDb.ScopeOfItem.mono {itemId scopeId : String} {kind : ScopeKind}
    (h : db.ScopeOfItem itemId kind scopeId) (hitems : ∀ item ∈ db.items, item ∈ after.items)
    (hsessions : ∀ session ∈ db.sessions, ∃ later ∈ after.sessions, later.id = session.id ∧
      later.songId = session.songId ∧ later.versionId = session.versionId) :
    after.ScopeOfItem itemId kind scopeId := by
  obtain ⟨item, hitem, session, hsession, hitemId, hsessionId, hscope⟩ := h
  obtain ⟨later, hlater, hid, hsong, hversion⟩ := hsessions session hsession
  refine ⟨item, hitems item hitem, later, hlater, hitemId, hid.trans hsessionId, ?_⟩
  rwa [hsong, hversion]

/-- The transaction of `start_session`. -/
theorem commit_insertSession (h : SessionInvariant profile db) {row : SongSession}
    (hinsert : db.insertSession profile row = .ok after) :
    SessionCommit db after ∧ SessionInvariant profile after := by
  simp only [insertSession, bind_eq_ok, require_eq_ok, Except.ok.injEq] at hinsert
  obtain ⟨_, hversion, _, hfresh, _, hopen, _, -, _, hsong, rfl⟩ := hinsert
  refine ⟨⟨.refl _, fun session hsession _ ↦ List.mem_append_left _ hsession, List.prefix_rfl,
    fun _ h ↦ .inl h, List.prefix_rfl, List.prefix_rfl⟩, ⟨h.evidence, ?_, ?_, ?_, ?_, ?_,
    h.requestItems, h.requestRefs, h.promotions, h.promotionItems, h.linked⟩⟩
  · refine List.forall_mem_append.mpr ⟨h.sessions, List.forall_mem_singleton.mpr ⟨hsong, ?_⟩⟩
    intro versionId hid
    obtain ⟨version, hmem, hversionId, -⟩ := hversion versionId hid
    exact ⟨version, hmem, hversionId⟩
  · rw [List.map_append, List.map_singleton, List.nodup_append]
    refine ⟨h.sessionIds, List.nodup_singleton _, ?_⟩
    intro id hid other hother
    obtain ⟨session, hsession, rfl⟩ := List.mem_map.mp hid
    rw [List.mem_singleton.mp hother]
    exact hfresh session hsession
  · intro songId
    rw [openSessionsOf, List.filter_append, List.length_append]
    by_cases hrow : row.songId = songId ∧ row.state = .opened
    · obtain ⟨rfl, hstate⟩ := hrow
      rw [show List.filter _ db.sessions = [] from hopen hstate]
      simp [hstate]
    · have hnone : ([row].filter fun session ↦ session.songId = songId ∧ session.state = .opened) =
          [] := by
        simpa using hrow
      rw [hnone]
      exact h.oneOpen songId
  · intro item hitem
    obtain ⟨session, hsession, hid⟩ := h.items item hitem
    exact ⟨session, List.mem_append_left _ hsession, hid⟩
  · intro request hrequest
    obtain ⟨hscope, hrest⟩ := h.requests request hrequest
    refine ⟨hscope.mono (fun _ h ↦ h) fun session hsession ↦ ?_, hrest⟩
    exact ⟨session, List.mem_append_left _ hsession, rfl, rfl, rfl⟩

/-- The transaction of `append_scratch`. -/
theorem commit_insertItem (h : SessionInvariant profile db) {row : SessionItem}
    (hinsert : db.insertItem row = .ok after) :
    SessionCommit db after ∧ SessionInvariant profile after := by
  simp only [insertItem, bind_eq_ok, require_eq_ok, Except.ok.injEq] at hinsert
  obtain ⟨_, hopen, _, -, _, -, rfl⟩ := hinsert
  obtain ⟨session, hsession, hid, hstate⟩ := hopen
  refine ⟨⟨.refl _, fun _ h _ ↦ h, List.prefix_append _ _, ?_, List.prefix_rfl, List.prefix_rfl⟩,
    ⟨h.evidence, h.sessions, h.sessionIds, h.oneOpen, ?_, ?_, h.requestItems, h.requestRefs,
      h.promotions, h.promotionItems, h.linked⟩⟩
  · refine List.forall_mem_append.mpr ⟨fun _ h ↦ .inl h, List.forall_mem_singleton.mpr (.inr ?_)⟩
    exact ⟨session, hsession, hid, hstate⟩
  · exact List.forall_mem_append.mpr ⟨h.items, List.forall_mem_singleton.mpr ⟨session, hsession, hid⟩⟩
  · intro request hrequest
    obtain ⟨hscope, hrest⟩ := h.requests request hrequest
    refine ⟨hscope.mono (fun item hitem ↦ List.mem_append_left _ hitem) ?_, hrest⟩
    exact fun session hsession ↦ ⟨session, hsession, rfl, rfl, rfl⟩

/-- The sessions after one was closed. -/
def closeRow (sessionId debriefSummary nextAction : String) (session : SongSession) : SongSession :=
  if session.id = sessionId ∧ session.state = .opened then
    { session with
      state := .closed
      debriefSummary := some debriefSummary
      nextAction := some nextAction }
  else session

theorem closeRow_id (sessionId debriefSummary nextAction : String) (session : SongSession) :
    (closeRow sessionId debriefSummary nextAction session).id = session.id ∧
    (closeRow sessionId debriefSummary nextAction session).songId = session.songId ∧
    (closeRow sessionId debriefSummary nextAction session).versionId = session.versionId ∧
    ((closeRow sessionId debriefSummary nextAction session).state = .opened →
      session.state = .opened) := by
  unfold closeRow
  split_ifs <;> simp

theorem closeRow_of_closed {sessionId debriefSummary nextAction : String} {session : SongSession}
    (h : session.state = .closed) : closeRow sessionId debriefSummary nextAction session = session := by
  rw [closeRow, if_neg]
  rintro ⟨-, hopen⟩
  rw [h] at hopen
  cases hopen

/-- The transaction of `close_session`. -/
theorem commit_closeOpen (h : SessionInvariant profile db)
    {sessionId debriefSummary nextAction : String}
    (hclose : db.closeOpen sessionId debriefSummary nextAction = .ok after) :
    after = { db with sessions := db.sessions.map (closeRow sessionId debriefSummary nextAction) } ∧
      SessionCommit db after ∧ SessionInvariant profile after := by
  simp only [closeOpen, bind_eq_ok, require_eq_ok, Except.ok.injEq] at hclose
  obtain ⟨_, -, rfl⟩ := hclose
  have hrow := closeRow_id sessionId debriefSummary nextAction
  refine ⟨rfl, ⟨.refl _, ?_, List.prefix_rfl, fun _ h ↦ .inl h, List.prefix_rfl, List.prefix_rfl⟩,
    ⟨h.evidence, ?_, ?_, ?_, ?_, ?_, h.requestItems, h.requestRefs, h.promotions, h.promotionItems,
      h.linked⟩⟩
  · exact fun session hsession hclosed ↦
      List.mem_map.mpr ⟨session, hsession, closeRow_of_closed hclosed⟩
  · intro session hsession
    obtain ⟨before, hbefore, rfl⟩ := List.mem_map.mp hsession
    have hkept := h.sessions before hbefore
    obtain ⟨-, hsong, hversion, -⟩ := hrow before
    show (∃ song ∈ profile.songs, song.id = (closeRow _ _ _ before).songId) ∧
      ∀ versionId ∈ (closeRow _ _ _ before).versionId, _
    rwa [hsong, hversion]
  · show ((db.sessions.map (closeRow _ _ _)).map SongSession.id).Nodup
    have hid : SongSession.id ∘ closeRow sessionId debriefSummary nextAction = SongSession.id :=
      funext fun session ↦ (hrow session).1
    rw [List.map_map, hid]
    exact h.sessionIds
  · intro songId
    refine le_trans ?_ (h.oneOpen songId)
    show ((db.sessions.map (closeRow _ _ _)).filter _).length ≤ _
    rw [List.filter_map, List.length_map]
    refine List.Sublist.length_le (List.monotone_filter_right _ fun session hsession ↦ ?_)
    simp only [Function.comp_apply, decide_eq_true_eq] at hsession ⊢
    obtain ⟨-, hsong, -, hopen⟩ := hrow session
    exact ⟨hsong ▸ hsession.1, hopen hsession.2⟩
  · intro item hitem
    obtain ⟨session, hsession, hid⟩ := h.items item hitem
    exact ⟨_, List.mem_map_of_mem hsession, (hrow session).1.trans hid⟩
  · intro request hrequest
    obtain ⟨hscope, hrest⟩ := h.requests request hrequest
    refine ⟨hscope.mono (fun _ h ↦ h) fun session hsession ↦ ?_, hrest⟩
    obtain ⟨hid, hsong, hversion, -⟩ := hrow session
    exact ⟨_, List.mem_map_of_mem hsession, hid, hsong, hversion⟩

/-- The transaction that requests a promotion. -/
theorem commit_insertRequest (h : SessionInvariant profile db) {row : PromotionRequest}
    (href : row.sourceRef = promotionPrefix ++ row.id)
    (hinsert : db.insertRequest row = .ok after) :
    after = { db with requests := db.requests ++ [row] } ∧ SessionCommit db after ∧
      SessionInvariant profile after := by
  simp only [insertRequest, bind_eq_ok, require_eq_ok, Except.ok.injEq] at hinsert
  obtain ⟨_, hscope, _, -, _, hitem, _, hrefs, _, hkey, _, -, rfl⟩ := hinsert
  refine ⟨rfl, ⟨.refl _, fun _ h _ ↦ h, List.prefix_rfl, fun _ h ↦ .inl h, List.prefix_append _ _,
    List.prefix_rfl⟩, ⟨h.evidence, h.sessions, h.sessionIds, h.oneOpen, h.items, ?_, ?_, ?_, ?_,
      h.promotionItems, h.linked⟩⟩
  · exact List.forall_mem_append.mpr ⟨h.requests, List.forall_mem_singleton.mpr ⟨hscope, href, hkey⟩⟩
  · rw [List.map_append, List.map_singleton, List.nodup_append]
    refine ⟨h.requestItems, List.nodup_singleton _, ?_⟩
    intro id hid other hother
    obtain ⟨request, hrequest, rfl⟩ := List.mem_map.mp hid
    rw [List.mem_singleton.mp hother]
    exact hitem request hrequest
  · rw [List.map_append, List.map_singleton, List.nodup_append]
    refine ⟨h.requestRefs, List.nodup_singleton _, ?_⟩
    intro ref hmem other hother
    obtain ⟨request, hrequest, rfl⟩ := List.mem_map.mp hmem
    rw [List.mem_singleton.mp hother]
    exact hrefs request hrequest
  · intro promotion hpromotion
    obtain ⟨request, hrequest, hclaim⟩ := h.promotions promotion hpromotion
    exact ⟨request, List.mem_append_left _ hrequest, hclaim⟩

/-- What the trigger `session_promotion_claim_link` does. -/
theorem insertPromotions_spec {claimId : String} {requests : List PromotionRequest}
    (hinsert : insertPromotions claimId requests db = .ok after) :
    after = { db with
      promotions := db.promotions ++ requests.map fun request ↦ ⟨request.itemId, claimId⟩ } ∧
    ((db.promotions.map SessionPromotion.itemId).Nodup →
      (after.promotions.map SessionPromotion.itemId).Nodup) := by
  induction requests generalizing db with
  | nil =>
    cases hinsert
    simp
  | cons request rest ih =>
    simp only [insertPromotions, insertPromotion, bind_eq_ok, require_eq_ok, Except.ok.injEq]
      at hinsert
    obtain ⟨_, ⟨_, hitem, _, -, rfl⟩, hrest⟩ := hinsert
    obtain ⟨rfl, hnodup⟩ := ih hrest
    refine ⟨by simp, fun hbefore ↦ hnodup ?_⟩
    rw [List.map_append, List.map_singleton, List.nodup_append]
    refine ⟨hbefore, List.nodup_singleton _, ?_⟩
    intro id hid other hother
    obtain ⟨promotion, hpromotion, rfl⟩ := List.mem_map.mp hid
    rw [List.mem_singleton.mp hother]
    exact hitem promotion hpromotion

/-- The transaction that records the claim of a request. -/
theorem commit_requestedClaim (h : SessionInvariant profile db) {row : EvidenceClaim}
    {request : PromotionRequest} (hnormal : NormalClaim profile row)
    (hrequest : request ∈ db.requests) (hfulfils : Fulfils row request)
    (hcommit : commitClaim sessionHost row [] db = .ok after) :
    SessionCommit db after ∧ SessionInvariant profile after ∧ Linked after request.itemId row := by
  obtain ⟨linked, hlink, hafter, hcommitted⟩ := commitClaim_spec hcommit
  have hclaims : after.evidence.claims = db.evidence.claims ++ [row] := hcommitted.claims
  have hgrows : Grows db.evidence after.evidence := hcommitted.grows
  simp only [sessionHost, linkClaim, bind_eq_ok, require_eq_ok] at hlink
  obtain ⟨_, -, hlink⟩ := hlink
  obtain ⟨rfl, hnodup⟩ := insertPromotions_spec hlink
  obtain ⟨evidence, sessions, items, requests, promotions⟩ := after
  obtain ⟨-, rfl, rfl, rfl, rfl⟩ := SessionDb.mk.injEq .. ▸ hafter
  have hmine : request ∈ db.requests.filter fun request ↦ Fulfils row request :=
    List.mem_filter.mpr ⟨hrequest, decide_eq_true hfulfils⟩
  have hlinked := List.mem_append_right db.promotions
    (List.mem_map_of_mem (f := fun request ↦ SessionPromotion.mk request.itemId row.id) hmine)
  have hrow : row ∈ evidence.claims := by
    rw [hclaims]
    exact List.mem_append_right _ (List.mem_singleton_self row)
  refine ⟨⟨hgrows, fun _ h _ ↦ h, List.prefix_rfl, fun _ h ↦ .inl h, List.prefix_rfl,
    List.prefix_append _ _⟩, ⟨h.evidence.commit hnormal hcommitted, h.sessions, h.sessionIds,
      h.oneOpen, h.items, h.requests, h.requestItems, h.requestRefs, ?_, hnodup h.promotionItems, ?_⟩,
    hrow, _, hlinked, rfl, rfl⟩
  · refine List.forall_mem_append.mpr ⟨fun promotion hpromotion ↦ ?_, fun promotion hnew ↦ ?_⟩
    · obtain ⟨request, hrequest, hitem, claim, hclaim, hid⟩ := h.promotions promotion hpromotion
      exact ⟨request, hrequest, hitem, claim, hgrows.mem hclaim, hid⟩
    · obtain ⟨other, hother, rfl⟩ := List.mem_map.mp hnew
      obtain ⟨hmem, hother⟩ := List.mem_filter.mp hother
      exact ⟨other, hmem, rfl, row, hrow, rfl, of_decide_eq_true hother⟩
  · intro claim hclaim
    rw [hclaims] at hclaim
    rcases List.mem_append.mp hclaim with hclaim | hclaim
    · obtain ⟨promotion, hpromotion, hid⟩ := h.linked claim hclaim
      exact ⟨promotion, List.mem_append_left _ hpromotion, hid⟩
    · rw [List.mem_singleton.mp hclaim]
      exact ⟨_, hlinked, rfl⟩

end

end N0te.Sessions
