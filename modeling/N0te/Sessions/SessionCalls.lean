import N0te.Library.Interference
import N0te.Sessions.SessionInvariant

/-!
# What the calls on the sessions promise

Every call keeps the invariant, whatever the other connections commit. The claim that `promoteItem`
returns is the one that is linked to the item, and one who retries it gets the claim that is linked or
links a new one. What `closeSession` returns has the texts that it was given, provided that no other
call closes the session between its check and its transaction.
-/

set_option autoImplicit false
set_option relaxedAutoImplicit false

namespace N0te.Sessions

open Library Lineage People Evidence SessionDb

/-! ### The fields of a promotion -/

/-- Fields as `promote_item` makes them. -/
structure NormalFields (fields : PromotionFields) : Prop where
  /-- The key has no whitespace at its ends. -/
  key : strip fields.key = fields.key
  /-- The key is not empty. -/
  key_ne : fields.key ≠ ""
  /-- The value is a text. -/
  value : ∃ body, fields.value = .str body
  confidence : 0 ≤ fields.confidence ∧ fields.confidence ≤ 1

theorem cleanText_eq_ok {value field text : String} :
    cleanText value field = .ok text ↔ strip value ≠ "" ∧ text = strip value := by
  simp only [cleanText, bind_eq_ok, require_eq_ok, Except.ok.injEq]
  constructor
  · rintro ⟨⟨⟩, hne, rfl⟩
    exact ⟨hne, rfl⟩
  · rintro ⟨hne, rfl⟩
    exact ⟨⟨⟩, hne, rfl⟩

theorem normalizePromotion_spec {item : SessionItem} {session : SongSession}
    {input : PromotionInput} {fields : PromotionFields}
    (h : normalizePromotion item session input = .ok fields) : NormalFields fields ∧
      (fields.scopeKind = .song ∧ fields.scopeId = session.songId ∨
        fields.scopeKind = .version ∧ session.versionId = some fields.scopeId) := by
  simp only [normalizePromotion, bind_eq_ok, orRaise_eq_ok, require_eq_ok, cleanText_eq_ok,
    Except.ok.injEq] at h
  obtain ⟨key, ⟨hkey, rfl⟩, kind, -, _, hkind, _, -, _, -, _, hconfidence, scopeId, hscope, rfl⟩ := h
  refine ⟨⟨strip_strip _, hkey, ⟨item.body, rfl⟩, hconfidence⟩, ?_⟩
  rcases hkind with rfl | rfl
  · cases hscope
    exact .inl ⟨rfl, rfl⟩
  · exact .inr ⟨rfl, orRaise_eq_ok.mp hscope⟩

/-- The row that is recorded for a request is the one that was requested. -/
theorem normalizeClaim_requestedClaim {profile : Profile} {claimId sourceRef : String}
    {fields : PromotionFields} {row : EvidenceClaim} (hfields : NormalFields fields)
    (h : normalizeClaim profile claimId (requestedClaim fields sourceRef) = .ok row) :
    row.sourceRef = some sourceRef ∧ claimFields row = fields := by
  obtain ⟨body, hvalue⟩ := hfields.value
  simp only [normalizeClaim, requestedClaim, normalizeTwinDomain, TwinDomain.ofName_name,
    ScopeKind.ofName_name, Evidence.SourceKind.ofName_name, canonicalValue, hvalue, bind_eq_ok, orRaise_eq_ok,
    require_eq_ok, Except.ok.injEq, Option.some.injEq] at h
  obtain ⟨domain, rfl, _, -, kind, rfl, _, -, source, rfl, _, -, value, ⟨_, -, rfl⟩, rfl⟩ := h
  refine ⟨rfl, ?_⟩
  have hcanonical : (Json.str body).canonical = .str body := by simp [Json.canonical]
  show PromotionFields.mk _ _ (strip fields.key) _ _ _ _ = fields
  rw [hfields.key, hcanonical, ← hvalue]

section

variable {profile : Profile} {db : SessionDb} {relyRead relyWrite : SessionDb → SessionDb → Prop}
  {committed : Bool}

/-- What a call guarantees. -/
abbrev Promises {α : Type} (profile : Profile) (relyRead relyWrite : SessionDb → SessionDb → Prop)
    (post : Bool → Except (Raised LineageErrorClass) α → SessionDb → Prop) (committed : Bool)
    (call : SessionCall α) (db : SessionDb) : Prop :=
  KeepsUnder (SessionInvariant profile) SessionCommit relyRead relyWrite post committed call db

/-! ### Promotion -/

theorem mem_of_requestFor {itemId : String} {request : PromotionRequest}
    (h : db.requestFor itemId = some request) : request ∈ db.requests ∧ request.itemId = itemId :=
  ⟨List.mem_of_find?_eq_some h, by simpa using List.find?_some h⟩

theorem mem_of_promotionFor {itemId : String} {promotion : SessionPromotion}
    (h : db.promotionFor itemId = some promotion) :
    promotion ∈ db.promotions ∧ promotion.itemId = itemId :=
  ⟨List.mem_of_find?_eq_some h, by simpa using List.find?_some h⟩

/-- The request that is returned is one for the item, with the fields that were asked for. -/
theorem promises_requestPromotion {post : Bool → Except (Raised LineageErrorClass) PromotionRequest →
      SessionDb → Prop} {uuid : Uuid} {itemId : String} {fields : PromotionFields}
    (hraised : ∀ c e t, post c (.error e) t)
    (hok : ∀ c request t, request ∈ t.requests → request.itemId = itemId →
      request.fields = fields → post c (.ok request) t) :
    Promises profile relyRead relyWrite post committed (requestPromotion uuid itemId fields) db := by
  refine keepsUnder_select fun s hs hinvariant ↦ ?_
  rcases hfound : s.requestFor itemId with _ | request
  · refine keepsUnder_transaction (fun _ _ _ _ ↦ hraised _ _ _) fun t u ht hinvariant hu ↦ ?_
    rw [integrityAs_eq_ok] at hu
    obtain ⟨rfl, hcommit, hkept⟩ := commit_insertRequest hinvariant rfl hu
    refine ⟨hcommit, hkept, keepsUnder_asked fun v hv hinvariant ↦ ?_⟩
    have hlasting := lasting_of_commits (commits_of_allowed hv)
    rcases hread : v.requestFor itemId with _ | request
    · exact hraised _ _ _
    obtain ⟨hmem, hitem⟩ := mem_of_requestFor hread
    have hmine : _ ∈ v.requests :=
      hlasting.requests.subset (List.mem_append_right _ (List.mem_singleton_self _))
    obtain rfl := hinvariant.eq_of_itemId hmem hmine hitem
    exact hok _ _ _ hmem rfl rfl
  · obtain ⟨hmem, hitem⟩ := mem_of_requestFor hfound
    refine keepsUnder_fromExcept (fun _ _ ↦ hraised _ _ _) fun _ hsame ↦ ?_
    exact keepsUnder_pure (hok _ _ _ hmem hitem (require_eq_ok.mp hsame))

/-- The claim that is read is the one that is linked to the item. -/
theorem promises_linkedClaim {post : Bool → Except (Raised LineageErrorClass) (Option EvidenceClaim) →
      SessionDb → Prop} {itemId : String} (hraised : ∀ e t, post committed (.error e) t)
    (hok : ∀ found t, Relation.ReflTransGen SessionCommit db t →
      (∀ claim ∈ found, Linked t itemId claim) → post committed (.ok found) t) :
    Promises profile relyRead relyWrite post committed (linkedClaim itemId) db := by
  refine keepsUnder_select fun s hs hinvariant ↦ ?_
  rcases hfound : s.promotionFor itemId with _ | promotion
  · exact keepsUnder_pure (hok none s (commits_of_allowed hs) (by simp))
  · obtain ⟨hmem, hitem⟩ := mem_of_promotionFor hfound
    refine keepsUnder_bind (keepsUnder_asked fun t ht _ ↦ ?_)
    have hlasting := lasting_of_commits (commits_of_allowed ht)
    refine keepsUnder_result (fun _ _ ↦ hraised _ _) fun found hread ↦ ?_
    rw [map_eq_ok] at hread
    obtain ⟨claim, hclaim, rfl⟩ := hread
    obtain ⟨hclaim, hid⟩ := mem_of_getClaim (orRaise_eq_ok.mp hclaim)
    refine hok _ t ((commits_of_allowed hs).trans (commits_of_allowed ht)) fun other hother ↦ ?_
    cases hother
    exact ⟨hclaim, promotion, hlasting.promotions.subset hmem, hitem, hid.symm⟩

/-- A claim that is recorded for a request, or read instead, is the one that is linked to the item. -/
theorem promises_recordLinked {post : Bool → Except (Raised LineageErrorClass) (EvidenceClaim × Bool) →
      SessionDb → Prop} {uuid : Uuid} {request : PromotionRequest}
    (hfields : NormalFields request.fields) (hrequest : request ∈ db.requests)
    (hraised : ∀ c e t, post c (.error e) t)
    (hok : ∀ c claim recorded t, Linked t request.itemId claim → post c (.ok (claim, recorded)) t) :
    Promises profile relyRead relyWrite post committed
      (recordLinked profile uuid request.itemId request.fields request.sourceRef) db := by
  refine keepsUnder_rescue (KeepsUnder.map _ (keepsUnder_recordClaim rfl ?_ ?_))
  · intro e t
    simp only [Except.map]
    split
    · refine keepsUnder_bind (promises_linkedClaim (fun _ _ ↦ hraised _ _ _) fun found u _ hlinked ↦ ?_)
      refine keepsUnder_result (fun _ _ ↦ hraised _ _ _) fun result hresult ↦ ?_
      rw [map_eq_ok] at hresult
      obtain ⟨claim, hclaim, rfl⟩ := hresult
      exact hok _ _ _ _ (hlinked claim (orRaise_eq_ok.mp hclaim))
    · exact keepsUnder_result (fun _ _ ↦ hraised _ _ _) fun _ h ↦ by cases h
  intro row t u hrow ht hinvariant hu
  obtain ⟨href, hclaims⟩ := normalizeClaim_requestedClaim hfields hrow
  have hmem := (lasting_of_commits ht).requests.subset hrequest
  obtain ⟨hcommit, hkept, hlinked⟩ :=
    commit_requestedClaim hinvariant (normalizeClaim_spec hrow) hmem ⟨href, hclaims⟩ hu
  refine ⟨hcommit, hkept, fun r v hv hinvariant hr ↦ ?_⟩
  have hlinked := hlinked.of_lasting (lasting_of_commits hv)
  rw [show (sessionHost.evidence v).getClaim row.id = some row from
    hinvariant.evidence.getClaim hlinked.1] at hr
  subst hr
  exact hok _ _ _ _ hlinked

/-- The claim that is returned is the one that is linked to the item. -/
theorem promises_promoteItem (uuid claimUuid : Uuid) (itemId : String) (input : PromotionInput) :
    Promises profile relyRead relyWrite (fun _ r t ↦ ∀ claim, r = .ok claim → Linked t itemId claim)
      committed (promoteItem profile uuid claimUuid itemId input) db := by
  refine keepsUnder_ask (fun _ _ ↦ nofun) fun found s hs _ hfound ↦ ?_
  obtain ⟨item, session⟩ := found
  have hid : item.id = itemId := by
    simp only [itemWithSession, bind_eq_ok, orRaise_eq_ok, Except.ok.injEq, Prod.mk.injEq] at hfound
    obtain ⟨_, hitem, _, -, rfl, -⟩ := hfound
    simpa using List.find?_some hitem
  refine keepsUnder_fromExcept (fun _ _ ↦ nofun) fun fields hfields ↦ ?_
  obtain ⟨hfields, -⟩ := normalizePromotion_spec hfields
  refine keepsUnder_bind (promises_requestPromotion (fun _ _ _ ↦ nofun) ?_)
  intro c request t hrequest hitem hsame
  refine keepsUnder_bind (promises_linkedClaim (fun _ _ ↦ nofun) fun found u hu hfound ↦ ?_)
  cases found with
  | some claim =>
    refine keepsUnder_pure ?_
    rintro _ ⟨⟩
    exact hid ▸ hfound claim rfl
  | none =>
    subst hsame
    have hmem := (lasting_of_commits hu).requests.subset hrequest
    rw [hid] at hitem
    rw [hid, ← hitem]
    refine keepsUnder_bind (promises_recordLinked hfields hmem (fun _ _ _ ↦ nofun) ?_)
    intro c claim recorded v hlinked
    cases recorded with
    | false =>
      refine keepsUnder_pure ?_
      rintro _ ⟨⟩
      exact hlinked
    | true =>
      refine keepsUnder_select fun w hw _ ↦ ?_
      refine keepsUnder_fromExcept (fun _ _ ↦ nofun) fun _ _ ↦ keepsUnder_pure ?_
      rintro _ ⟨⟩
      exact hlinked.of_lasting (lasting_of_commits (commits_of_allowed hw))

/-! ### Closing -/

/-- A session was closed with these texts, without the whitespace at their ends. -/
structure ClosedWith (db : SessionDb) (sessionId debriefSummary nextAction : String)
    (session : SongSession) : Prop where
  /-- It is in the store. -/
  mem : session ∈ db.sessions
  /-- It is the one that was to be closed. -/
  id : session.id = sessionId
  closed : session.state = .closed
  /-- What came of it. -/
  debriefSummary : session.debriefSummary = some (strip debriefSummary)
  /-- What comes next. -/
  nextAction : session.nextAction = some (strip nextAction)

theorem ClosedWith.of_lasting {after : SessionDb} {sessionId debriefSummary nextAction : String}
    {session : SongSession} (h : ClosedWith db sessionId debriefSummary nextAction session)
    (hlasting : Lasting db after) : ClosedWith after sessionId debriefSummary nextAction session :=
  ⟨hlasting.closed session h.mem h.closed, h.id, h.closed, h.debriefSummary, h.nextAction⟩

theorem mem_of_getSession {sessionId : String} {session : SongSession}
    (h : db.getSession sessionId = some session) :
    session ∈ db.sessions ∧ session.id = sessionId :=
  ⟨List.mem_of_find?_eq_some h, by simpa using List.find?_some h⟩

/-- The transaction that closes an open session. -/
theorem exists_closedWith {after : SessionDb} {sessionId debriefSummary nextAction : String}
    (hopen : db.IsOpen sessionId)
    (hafter : after = { db with
      sessions := db.sessions.map (closeRow sessionId (strip debriefSummary) (strip nextAction)) }) :
    ∃ session, ClosedWith after sessionId debriefSummary nextAction session := by
  obtain ⟨session, hsession, hid, hstate⟩ := hopen
  have hrow : closeRow sessionId (strip debriefSummary) (strip nextAction) session =
      { session with
        state := .closed
        debriefSummary := some (strip debriefSummary)
        nextAction := some (strip nextAction) } := if_pos ⟨hid, hstate⟩
  have hmem := List.mem_map_of_mem
    (f := closeRow sessionId (strip debriefSummary) (strip nextAction)) hsession
  rw [hrow] at hmem
  subst hafter
  exact ⟨_, hmem, hid, rfl, rfl, rfl⟩

/-- No other call closes the session of a `closeSession`. -/
def KeepsOpen (operation : SessionOperation) (db after : SessionDb) : Prop :=
  match operation with
  | .closeSession sessionId _ _ => db.IsOpen sessionId → after.IsOpen sessionId
  | _ => True

/-- What is returned has the texts that were given, when no other call closes the session between the
check and the transaction. -/
theorem promises_closeSession (sessionId debriefSummary nextAction : String) :
    Promises profile (fun _ _ ↦ True) (KeepsOpen (.closeSession sessionId debriefSummary nextAction))
      (fun _ r t ↦ ∀ session, r = .ok session →
        ClosedWith t sessionId debriefSummary nextAction session)
      false (closeSession profile sessionId debriefSummary nextAction) db := by
  refine keepsUnder_ask (by rintro _ _ _ ⟨⟩) fun session s hs _ hsession ↦ ?_
  obtain ⟨hmem, rfl⟩ := mem_of_getSession (orRaise_eq_ok.mp hsession)
  refine keepsUnder_fromExcept (by rintro _ _ _ ⟨⟩) fun texts htexts ↦ ?_
  simp only [bind_eq_ok, require_eq_ok, cleanText_eq_ok, Except.ok.injEq] at htexts
  obtain ⟨_, hstate, _, ⟨-, rfl⟩, _, ⟨-, rfl⟩, rfl⟩ := htexts
  refine keepsUnder_transaction (fun _ _ _ _ _ ↦ by rintro ⟨⟩) fun t u ht hinvariant hu ↦ ?_
  rw [integrityAs_eq_ok] at hu
  have hopen : t.IsOpen session.id :=
    kept_of_allowed (fun db : SessionDb ↦ db.IsOpen session.id) (fun _ _ hkeeps ↦ hkeeps) ht
      ⟨session, hmem, rfl, hstate⟩
  obtain ⟨hafter, hcommit, hkept⟩ := commit_closeOpen hinvariant hu
  refine ⟨hcommit, hkept, keepsUnder_asked fun v hv hinvariant other hother ↦ ?_⟩
  obtain ⟨closed, hclosed⟩ := exists_closedWith hopen hafter
  have hclosed := hclosed.of_lasting (lasting_of_commits (commits_of_allowed hv))
  obtain ⟨hmem, hid⟩ := mem_of_getSession (orRaise_eq_ok.mp hother)
  obtain rfl := hinvariant.eq_of_sessionId hclosed.mem hmem (hclosed.id.trans hid.symm)
  exact hclosed

/-! ### The other calls -/

theorem preserves_startSession (uuid : Uuid) (songId objective : String)
    (versionId : Option String) : Preserves (SessionInvariant profile) SessionCommit
      (startSession profile uuid songId objective versionId) := by
  refine (preserves_fromExcept _).bind fun row ↦ ?_
  refine (preserves_transaction fun s t hs h ↦ ?_).bind fun _ ↦ preserves_ask _
  exact commit_insertSession hs (integrityAs_eq_ok.mp h)

theorem preserves_appendScratch (uuid : Uuid) (sessionId kind body : String) :
    Preserves (SessionInvariant profile) SessionCommit
      (appendScratch profile uuid sessionId kind body) := by
  refine (preserves_ask _).bind fun session ↦ (preserves_fromExcept _).bind fun row ↦ ?_
  refine (preserves_transaction fun s t hs h ↦ ?_).bind fun _ ↦ preserves_ask _
  exact commit_insertItem hs (integrityAs_eq_ok.mp h)

theorem preserves_closeSession (sessionId debriefSummary nextAction : String) :
    Preserves (SessionInvariant profile) SessionCommit
      (closeSession profile sessionId debriefSummary nextAction) := by
  refine (preserves_ask _).bind fun session ↦ (preserves_fromExcept _).bind fun texts ↦ ?_
  refine (preserves_transaction fun s t hs h ↦ ?_).bind fun _ ↦ preserves_ask _
  exact (commit_closeOpen hs (integrityAs_eq_ok.mp h)).2

/-! ### Promoting once more -/

theorem requestFor_eq (h : SessionInvariant profile db) {request : PromotionRequest}
    (hrequest : request ∈ db.requests) : db.requestFor request.itemId = some request := by
  have hsome : (db.requestFor request.itemId).isSome = true := by
    rw [requestFor, List.find?_isSome]
    exact ⟨request, hrequest, decide_eq_true rfl⟩
  obtain ⟨found, hfound⟩ := Option.isSome_iff_exists.mp hsome
  obtain ⟨hmem, hitem⟩ := mem_of_requestFor hfound
  rw [hfound, h.eq_of_itemId hmem hrequest hitem]

/-- The scope of an item exists in the profile. -/
theorem inProfile_of_scopeOfItem (h : SessionInvariant profile db) {itemId scopeId : String}
    {kind : ScopeKind} (hscope : db.ScopeOfItem itemId kind scopeId) :
    InProfile profile kind scopeId := by
  obtain ⟨item, -, session, hsession, -, -, hscope⟩ := hscope
  obtain ⟨⟨song, hsong, hid⟩, hversions⟩ := h.sessions session hsession
  rcases hscope with ⟨rfl, rfl⟩ | ⟨rfl, hversion⟩
  · have hstrip := (profile.songs_created song hsong).1.strip_eq (by decide)
    obtain ⟨found, hfound, -⟩ := profile.exists_getSong ⟨song, hsong, rfl⟩
    show (profile.getSong (strip session.songId)).isSome = true
    rw [← hid, hstrip, hfound]
    rfl
  · obtain ⟨version, hmem, rfl⟩ := hversions scopeId hversion
    have hstrip := (profile.versions_created version hmem).1.strip_eq (by decide)
    show (profile.getVersion (strip version.id)).isSome = true
    rw [hstrip, profile.getVersion_eq hmem]
    rfl

/-- The request for an item is made, unless there is one. Assumes: the one that is there has the same
fields, and the id is new. -/
theorem alone_requestPromotion (h : SessionInvariant profile db) {uuid : Uuid} {itemId : String}
    {fields : PromotionFields} (hfields : NormalFields fields)
    (hscope : db.ScopeOfItem itemId fields.scopeKind fields.scopeId)
    (hkey : sqlNonblank fields.key = true)
    (hsame : ∀ request ∈ db.requests, request.itemId = itemId → request.fields = fields)
    (hfresh : ∀ request ∈ db.requests, request.id ≠ newId "spr" uuid) :
    ∃ request after, (requestPromotion uuid itemId fields).alone db = (.ok request, after) ∧
      request.itemId = itemId ∧ request.fields = fields ∧ request ∈ after.requests ∧
      SessionInvariant profile after ∧ after.evidence = db.evidence ∧
      after.promotions = db.promotions := by
  rcases hfound : db.requestFor itemId with _ | request
  · have hnew : ∀ other ∈ db.requests, other.itemId ≠ itemId := by
      simpa [requestFor] using hfound
    have hrefs : ∀ other ∈ db.requests, other.sourceRef ≠ promotionPrefix ++ newId "spr" uuid := by
      intro other hother hsameRef
      rw [(h.requests other hother).2.1] at hsameRef
      exact hfresh other hother (String.append_right_inj _ |>.mp hsameRef)
    have hinsert : db.insertRequest ⟨newId "spr" uuid, itemId,
        promotionPrefix ++ newId "spr" uuid, fields⟩ =
          .ok { db with requests := db.requests ++
            [⟨newId "spr" uuid, itemId, promotionPrefix ++ newId "spr" uuid, fields⟩] } := by
      simp only [insertRequest, bind_eq_ok, require_eq_ok]
      exact ⟨⟨⟩, hscope, ⟨⟩, hfresh, ⟨⟩, hnew, ⟨⟩, hrefs, ⟨⟩, hkey, ⟨⟩, hfields.confidence, trivial⟩
    obtain ⟨-, -, hkept⟩ := commit_insertRequest h rfl hinsert
    have hmem := List.mem_append_right db.requests
      (List.mem_singleton_self (PromotionRequest.mk (newId "spr" uuid) itemId
        (promotionPrefix ++ newId "spr" uuid) fields))
    refine ⟨_, _, ?_, rfl, rfl, hmem, hkept, rfl, rfl⟩
    rw [requestPromotion, Call.alone_select_bind, hfound]
    have hread := requestFor_eq hkept hmem
    simp only [Call.alone_bind, Call.alone, Call.transaction, hinsert, integrityAs, Call.alone_ask]
    rw [hread]
    rfl
  · obtain ⟨hmem, hitem⟩ := mem_of_requestFor hfound
    refine ⟨request, db, ?_, hitem, hsame request hmem hitem, hmem, h, rfl, rfl⟩
    rw [requestPromotion, Call.alone_select_bind, hfound]
    exact Call.alone_fromExcept_bind (a := ⟨⟩) (require_eq_ok.mpr (hsame request hmem hitem)) _ _

/-- What the trigger does when one request is fulfilled. -/
theorem linkClaim_eq (h : SessionInvariant profile db) {row : EvidenceClaim}
    {request : PromotionRequest} (hrequest : request ∈ db.requests) (hfulfils : Fulfils row request)
    (hunlinked : ∀ promotion ∈ db.promotions, promotion.itemId ≠ request.itemId)
    (hfresh : ∀ claim ∈ db.evidence.claims, claim.id ≠ row.id) :
    SessionDb.linkClaim
      { db with evidence := ⟨db.evidence.claims ++ [row], db.evidence.supersessions⟩ } row =
        .ok { db with
          evidence := ⟨db.evidence.claims ++ [row], db.evidence.supersessions⟩
          promotions := db.promotions ++ [⟨request.itemId, row.id⟩] } := by
  have hsole : ∀ other ∈ db.requests, Fulfils row other → other = request := by
    intro other hother hothers
    refine List.inj_on_of_nodup_map h.requestRefs hother hrequest ?_
    exact Option.some.inj (hothers.1.symm.trans hfulfils.1)
  have hunclaimed : ∀ claim ∈ db.evidence.claims, claim.sourceRef ≠ some request.sourceRef := by
    intro claim hclaim href
    obtain ⟨promotion, hpromotion, hid⟩ := h.linked claim hclaim
    obtain ⟨other, hother, hitem, found, hfound, hfoundId, hfulfilled⟩ :=
      h.promotions promotion hpromotion
    obtain rfl := h.evidence.eq_of_id hfound hclaim (hfoundId.trans hid)
    obtain rfl := List.inj_on_of_nodup_map h.requestRefs hother hrequest
      (Option.some.inj (hfulfilled.1.symm.trans href))
    exact hunlinked promotion hpromotion hitem.symm
  have hfilter : (db.requests.filter fun other ↦ Fulfils row other) = [request] := by
    have hnodup := (List.Nodup.of_map _ h.requestItems).filter fun other ↦ decide (Fulfils row other)
    refine List.Perm.eq_singleton ((List.perm_ext_iff_of_nodup hnodup (List.nodup_singleton _)).mpr ?_)
    intro other
    rw [List.mem_filter, List.mem_singleton, decide_eq_true_eq]
    constructor
    · exact fun hother ↦ hsole other hother.1 hother.2
    · rintro rfl
      exact ⟨hrequest, hfulfils⟩
  have hindex : ∀ ref ∈ row.sourceRef, isPromotionRef ref = true →
      ((db.evidence.claims ++ [row]).filter fun other ↦ other.sourceRef = some ref).length ≤ 1 := by
    intro ref href _
    have hnone : (db.evidence.claims.filter fun other ↦ other.sourceRef = some ref) = [] := by
      refine List.filter_eq_nil_iff.mpr fun claim hclaim ↦ ?_
      rw [decide_eq_true_eq, ← Option.mem_def.mp href, hfulfils.1]
      exact hunclaimed claim hclaim
    rw [List.filter_append, hnone, List.nil_append]
    exact List.length_filter_le _ _
  have hclaims : ∀ promotion ∈ db.promotions, promotion.claimId ≠ row.id := by
    intro promotion hpromotion
    obtain ⟨-, -, -, claim, hclaim, hid, -⟩ := h.promotions promotion hpromotion
    rw [← hid]
    exact hfresh claim hclaim
  simp only [SessionDb.linkClaim, bind_eq_ok, require_eq_ok, hfilter, insertPromotions, insertPromotion]
  exact ⟨⟨⟩, hindex, _, ⟨⟨⟩, hunlinked, ⟨⟩, hclaims, rfl⟩, rfl⟩

/-- The claim of a request is recorded. -/
theorem alone_recordLinked (uuid : Uuid) (h : SessionInvariant profile db) {request : PromotionRequest}
    (hrequest : request ∈ db.requests) (hfields : NormalFields request.fields)
    (hunlinked : ∀ promotion ∈ db.promotions, promotion.itemId ≠ request.itemId)
    (hfresh : ∀ claim ∈ db.evidence.claims, claim.id ≠ newId "claim" uuid) :
    ∃ claim after, (recordLinked profile uuid request.itemId request.fields request.sourceRef).alone
      db = (.ok (claim, true), after) ∧ SessionInvariant profile after ∧
        Linked after request.itemId claim := by
  obtain ⟨hscope, -, hkey⟩ := h.requests request hrequest
  obtain ⟨body, hvalue⟩ := hfields.value
  have hprofile := inProfile_of_scopeOfItem h hscope
  have hrow : normalizeClaim profile (newId "claim" uuid)
      (requestedClaim request.fields request.sourceRef) = .ok ⟨newId "claim" uuid,
        request.fields.scopeKind, request.fields.scopeId, request.fields.key, .str body,
        request.fields.sourceKind, some request.sourceRef, request.fields.confidence,
        request.fields.twinDomain⟩ := by
    have hcanonical : (Json.str body).canonical = .str body := by simp [Json.canonical]
    simp only [normalizeClaim, requestedClaim, normalizeTwinDomain, TwinDomain.ofName_name,
      ScopeKind.ofName_name, Evidence.SourceKind.ofName_name, canonicalValue, hvalue, bind_eq_ok,
      orRaise_eq_ok, require_eq_ok, hfields.key, validateScope, hcanonical]
    exact ⟨_, rfl, ⟨⟩, hfields.key_ne, _, rfl, ⟨⟩, hprofile, _, rfl, ⟨⟩, hfields.confidence, _,
      ⟨⟨⟩, by simp [Json.finite], rfl⟩, rfl⟩
  generalize hclaim : EvidenceClaim.mk .. = row at hrow
  have hfulfils : Fulfils row request := by
    subst hclaim
    refine ⟨rfl, ?_⟩
    rw [claimFields, ← hvalue]
  have hnew : ∀ claim ∈ db.evidence.claims, claim.id ≠ row.id := by
    subst hclaim
    exact hfresh
  have hlink := linkClaim_eq h hrequest hfulfils hunlinked hnew
  obtain ⟨after, hcommit⟩ : ∃ after, commitClaim sessionHost row [] db = .ok after := by
    refine ⟨_, commitClaim_of_afterClaim hnew ?_ ?_ hlink⟩
    · exact hclaim ▸ hkey
    · exact hclaim ▸ hfields.confidence
  obtain ⟨-, hkept, hlinked⟩ := commit_requestedClaim h (normalizeClaim_spec hrow) hrequest hfulfils
    hcommit
  refine ⟨row, after, ?_, hkept, hlinked⟩
  have halone := alone_recordClaim (s := db) rfl hrow hcommit
  rw [show sessionHost.evidence after = after.evidence from rfl,
    hkept.evidence.getClaim hlinked.1] at halone
  rw [recordLinked, Call.alone_rescue, Call.alone_map, halone]
  rfl

theorem promotionFor_eq (h : SessionInvariant profile db) {promotion : SessionPromotion}
    {itemId : String} (hpromotion : promotion ∈ db.promotions) (hitem : promotion.itemId = itemId) :
    db.promotionFor itemId = some promotion := by
  have hsome : (db.promotionFor itemId).isSome = true := by
    rw [promotionFor, List.find?_isSome]
    exact ⟨promotion, hpromotion, decide_eq_true hitem⟩
  obtain ⟨found, hfound⟩ := Option.isSome_iff_exists.mp hsome
  obtain ⟨hmem, hfoundItem⟩ := mem_of_promotionFor hfound
  rw [hfound, List.inj_on_of_nodup_map h.promotionItems hmem hpromotion
    (hfoundItem.trans hitem.symm)]

theorem alone_linkedClaim_of_none {itemId : String} (hnone : db.promotionFor itemId = none) :
    (linkedClaim itemId).alone db = (.ok none, db) := by
  rw [linkedClaim, Call.alone_select_bind, hnone]
  rfl

theorem alone_linkedClaim_of_some (h : SessionInvariant profile db) {itemId : String}
    {promotion : SessionPromotion} {claim : EvidenceClaim}
    (hsome : db.promotionFor itemId = some promotion) (hclaim : claim ∈ db.evidence.claims)
    (hid : claim.id = promotion.claimId) :
    (linkedClaim itemId).alone db = (.ok (some claim), db) := by
  have hread : (sessionHost.evidence db).getClaim promotion.claimId = some claim :=
    hid ▸ h.evidence.getClaim hclaim
  rw [linkedClaim, Call.alone_select_bind, hsome]
  simp only [getClaim, Call.alone_select_bind, hread]
  rfl

/-- A call that asks for what was asked before, if anything was. -/
structure Asks (profile : Profile) (db : SessionDb) (uuid claimUuid : Uuid) (itemId : String)
    (input : PromotionInput) (fields : PromotionFields) : Prop where
  /-- The item is there, and the arguments are in order. -/
  item : ∃ item session, itemWithSession profile itemId db = .ok (item, session) ∧
    normalizePromotion item session input = .ok fields
  /-- The key can be stored. -/
  key : sqlNonblank fields.key = true
  /-- What was asked before is the same. -/
  same : ∀ request ∈ db.requests, request.itemId = itemId → request.fields = fields
  requestId : ∀ request ∈ db.requests, request.id ≠ newId "spr" uuid
  claimId : ∀ claim ∈ db.evidence.claims, claim.id ≠ newId "claim" claimUuid

/-- One who promotes an item that others leave alone gets the claim that is linked to it, also when an
earlier call for it was broken off. -/
theorem alone_promoteItem (h : SessionInvariant profile db) {uuid claimUuid : Uuid} {itemId : String}
    {input : PromotionInput} {fields : PromotionFields}
    (hasks : Asks profile db uuid claimUuid itemId input fields) :
    ∃ claim after, (promoteItem profile uuid claimUuid itemId input).alone db = (.ok claim, after) ∧
      Linked after itemId claim ∧ ∀ other, Linked db itemId other → claim = other := by
  obtain ⟨_, _, hfound, hfields⟩ := hasks.item
  obtain ⟨hnormal, hscope⟩ := normalizePromotion_spec hfields
  simp only [itemWithSession, bind_eq_ok, orRaise_eq_ok, Except.ok.injEq, Prod.mk.injEq] at hfound
  obtain ⟨item, hitem, session, hsession, rfl, rfl⟩ := hfound
  have hid : item.id = itemId := by simpa using List.find?_some hitem
  obtain ⟨hmem, hsessionId⟩ := mem_of_getSession hsession
  have hscope : db.ScopeOfItem itemId fields.scopeKind fields.scopeId :=
    ⟨item, List.mem_of_find?_eq_some hitem, session, hmem, hid, hsessionId, hscope⟩
  obtain ⟨request, between, hrequested, hitemId, hsame, hrequest, hkept, hevidence, hpromotions⟩ :=
    alone_requestPromotion h hnormal hscope hasks.key hasks.same hasks.requestId
  have hpromote : (promoteItem profile uuid claimUuid itemId input).alone db =
      (finishPromotion profile claimUuid itemId fields request.sourceRef).alone between := by
    have hasked : itemWithSession profile itemId db = .ok (item, session) := by
      simp only [itemWithSession, hitem, bind_eq_ok, orRaise_eq_ok]
      exact ⟨item, rfl, session, hsession, rfl⟩
    simp only [promoteItem, Call.alone_bind, Call.alone_ask, hasked, Call.alone_fromExcept, hfields,
      hid, hrequested]
  rcases hpromoted : between.promotionFor itemId with _ | promotion
  · have hunlinked : ∀ promotion ∈ between.promotions, promotion.itemId ≠ request.itemId := by
      rw [hitemId]
      simpa [promotionFor] using hpromoted
    subst hsame
    obtain ⟨claim, after, hrecorded, hafter, hlinked⟩ := alone_recordLinked claimUuid hkept
      hrequest hnormal hunlinked (hevidence ▸ hasks.claimId)
    rw [hitemId] at hlinked hrecorded
    refine ⟨claim, after, ?_, hlinked, ?_⟩
    · rw [hpromote, finishPromotion]
      simp only [Call.alone_bind, alone_linkedClaim_of_none hpromoted, hrecorded]
      obtain ⟨-, promotion, hpromotion, hpromotionItem, hclaimId⟩ := hlinked
      have hread : (after.promotionFor itemId).map SessionPromotion.claimId = some claim.id := by
        rw [promotionFor_eq hafter hpromotion hpromotionItem, Option.map_some, hclaimId]
      have hchecked := require_eq_ok (u := ⟨⟩)
        (e := corruption "Evidence promotion committed without matching Session link") |>.mpr hread
      simp only [Call.select, Call.alone, hchecked, Call.alone_fromExcept, Call.alone_pure]
    · rintro other ⟨-, promotion, hpromotion, hother, -⟩
      exact absurd (hother.trans hitemId.symm) (hunlinked promotion (hpromotions ▸ hpromotion))
  · obtain ⟨hpromotion, hpromotionItem⟩ := mem_of_promotionFor hpromoted
    obtain ⟨-, -, -, claim, hclaim, hclaimId, -⟩ := hkept.promotions promotion hpromotion
    have hlinked : Linked between itemId claim :=
      ⟨hclaim, promotion, hpromotion, hpromotionItem, hclaimId.symm⟩
    refine ⟨claim, between, ?_, hlinked, fun other hother ↦ ?_⟩
    · rw [hpromote, finishPromotion]
      simp only [Call.alone_bind, alone_linkedClaim_of_some hkept hpromoted hclaim hclaimId,
        Call.alone_pure]
    · rw [Linked, ← hevidence, ← hpromotions] at hother
      exact hkept.linked_unique hlinked hother

end

end N0te.Sessions
