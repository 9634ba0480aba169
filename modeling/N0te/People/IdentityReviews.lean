import N0te.People.PersonIdentity

/-!
# What every committed state of the identity store satisfies

`IdentityInvariant` holds of every store that calls leave behind, whatever their interleaving, and with
it what `accepts` says of the external identities, when every one that is recorded meets it.
`identity_reviews` is the result for runs: one active review for each external identity, and the four
histories that a review may have. Opening the store again checks the length of a namespace that was
lowercased after its length was checked, so it can fail (`long_namespace_refused`).
-/

set_option autoImplicit false
set_option relaxedAutoImplicit false

namespace N0te.People

open Library Lineage IdentityDb

/-! ### The states of a review -/

def reviewWorkflow : Workflow ReviewState where
  first state := state = .reviewRequired
  next last state := last = .reviewRequired ∧ (state = .linked ∨ state = .rejected) ∨
    last = .linked ∧ state = .split

/-- A review has one of four histories. -/
theorem mem_validSequences {states : List ReviewState} (hlegal : reviewWorkflow.Legal states)
    (hne : states ≠ []) : states ∈ validSequences := by
  obtain ⟨first, rest, rfl⟩ := List.exists_cons_of_ne_nil hne
  obtain rfl : first = .reviewRequired := hlegal.first_of_head
  rcases rest with _ | ⟨second, rest⟩
  · decide
  have hsecond : reviewWorkflow.next .reviewRequired second := hlegal.next_of_pair (List.nil_append _).symm
  rcases rest with _ | ⟨third, rest⟩
  · rcases hsecond with ⟨-, rfl | rfl⟩ | ⟨hlinked, -⟩
    · decide
    · decide
    · cases hlinked
  have hthird : reviewWorkflow.next second third :=
    @Workflow.Legal.next_of_pair _ _ _ [.reviewRequired] _ _ _ hlegal rfl
  have hlast : second = .linked ∧ third = .split := by
    rcases hthird with ⟨rfl, -⟩ | hlast
    · rcases hsecond with ⟨-, hlinked | hrejected⟩ | ⟨hlinked, -⟩
      · cases hlinked
      · cases hrejected
      · cases hlinked
    · exact hlast
  obtain ⟨rfl, rfl⟩ := hlast
  rcases rest with _ | ⟨fourth, rest⟩
  · decide
  have hfourth : reviewWorkflow.next .split fourth :=
    @Workflow.Legal.next_of_pair _ _ _ [.reviewRequired, .linked] _ _ _ hlegal rfl
  rcases hfourth with ⟨hsplit, -⟩ | ⟨hsplit, -⟩ <;> cases hsplit

/-! ### The invariant -/

/-- The invariant of the store of a profile. -/
structure IdentityInvariant (profile : Profile) (accepts : ExternalIdentity → Prop) (db : IdentityDb) :
    Prop where
  /-- An external identity was recorded for the artist. -/
  externals : ∀ row ∈ db.externals, Created "extid" row.id ∧ row.artistId = profile.primaryArtistId ∧
    accepts row
  /-- Its texts were checked. -/
  texts : ∀ row ∈ db.externals, (row.sourceKind = .observed → row.sourceRef.isSome = true) ∧
    collapse row.namespaceName ≠ "" ∧ ∃ subject, strictText row.subject "subject" 500 = .ok subject
  /-- A review was opened for the artist, of an external identity and a person. -/
  reviews : ∀ row ∈ db.reviews, Created "idreview" row.id ∧ row.artistId = profile.primaryArtistId ∧
    (∃ external ∈ db.externals, external.id = row.externalIdentityId) ∧
    ∃ person ∈ profile.people, person.id = row.personId
  histories : ∀ row ∈ db.reviews, db.statesOf row.id ≠ []
  /-- The histories follow the workflow. -/
  legal : reviewWorkflow.LegalLog IdentityReviewEvent.reviewId IdentityReviewEvent.state db.events
  eventReviews : ∀ event ∈ db.events, ∃ review ∈ db.reviews, review.id = event.reviewId
  /-- A decision has a reason. -/
  notes : ∀ event ∈ db.events, event.state ≠ .reviewRequired → event.note.isSome = true
  /-- An external identity has at most one active review. -/
  active : ∀ identityId, (db.activeReviewsOf identityId).length ≤ 1

section

variable {profile : Profile} {accepts : ExternalIdentity → Prop} {db after : IdentityDb}

theorem invariant_empty : IdentityInvariant profile accepts .empty where
  externals := List.forall_mem_nil _
  texts := List.forall_mem_nil _
  reviews := List.forall_mem_nil _
  histories := List.forall_mem_nil _
  legal := Workflow.legalLog_nil
  eventReviews := List.forall_mem_nil _
  notes := List.forall_mem_nil _
  active _ := Nat.zero_le _

/-! ### The statements -/

section

variable {event : IdentityReviewEvent} (hevents : after.events = db.events ++ [event])

include hevents

theorem statesOf_concat_self :
    after.statesOf event.reviewId = db.statesOf event.reviewId ++ [event.state] := by
  rw [statesOf, eventsOf, hevents, historyOf_concat_self, List.map_append, List.map_singleton]
  rfl

theorem statesOf_concat_of_ne {reviewId : String} (hne : event.reviewId ≠ reviewId) :
    after.statesOf reviewId = db.statesOf reviewId := by
  rw [statesOf, eventsOf, hevents, historyOf_concat_of_ne hne]
  rfl

end

/-- The triggers of an event are the workflow. -/
theorem allows_of_insertEvent {event : IdentityReviewEvent}
    (hinsert : db.insertEvent event = .ok after) :
    reviewWorkflow.Allows (db.statesOf event.reviewId) event.state := by
  simp only [insertEvent, bind_eq_ok, require_eq_ok, Except.ok.injEq] at hinsert
  obtain ⟨-, hfirst, -, hnext, -⟩ := hinsert
  unfold Workflow.Allows
  rcases hlast : (db.statesOf event.reviewId).getLast? with _ | last
  · exact hfirst (List.getLast?_eq_none_iff.mp hlast)
  · exact hnext last hlast

/-- An external identity is recorded. Assumes: its texts were checked. -/
theorem invariant_insertExternal (h : IdentityInvariant profile accepts db) {row : ExternalIdentity}
    (hrow : Created "extid" row.id ∧ row.artistId = profile.primaryArtistId ∧ accepts row)
    (hnamespace : collapse row.namespaceName ≠ "")
    (hsubject : ∃ subject, strictText row.subject "subject" 500 = .ok subject)
    (hinsert : db.insertExternal row = .ok after) : IdentityInvariant profile accepts after := by
  simp only [insertExternal, bind_eq_ok, require_eq_ok, Except.ok.injEq] at hinsert
  obtain ⟨-, -, -, -, -, -, -, -, -, hobserved, -, -, -, -, rfl⟩ := hinsert
  refine { h with externals := ?_, texts := ?_, reviews := ?_ }
  · exact List.forall_mem_append.mpr ⟨h.externals, List.forall_mem_singleton.mpr hrow⟩
  · refine List.forall_mem_append.mpr ⟨h.texts, List.forall_mem_singleton.mpr ?_⟩
    exact ⟨hobserved, hnamespace, hsubject⟩
  · intro review hreview
    obtain ⟨hcreated, hartist, ⟨external, hexternal, hid⟩, hperson⟩ := h.reviews review hreview
    exact ⟨hcreated, hartist, ⟨external, List.mem_append_left _ hexternal, hid⟩, hperson⟩

theorem invariant_openReview (h : IdentityInvariant profile accepts db) {review : IdentityReview}
    {eventId : String} (hcreated : Created "idreview" review.id)
    (hartist : review.artistId = profile.primaryArtistId)
    (hopen : openReview profile review eventId db = .ok after) :
    IdentityInvariant profile accepts after := by
  simp only [openReview, integrityAs_eq_ok, bind_eq_ok] at hopen
  obtain ⟨middle, hreview, hevent⟩ := hopen
  have hallows := allows_of_insertEvent hevent
  simp only [insertReview, bind_eq_ok, require_eq_ok, Except.ok.injEq] at hreview
  obtain ⟨-, ⟨external, hexternal, person, hperson, hpersonId, hexternalId, -, -⟩, -, hactive, -, hnew,
    rfl⟩ := hreview
  simp only [insertEvent, bind_eq_ok, require_eq_ok, Except.ok.injEq] at hevent
  obtain ⟨-, -, -, -, -, -, -, -, -, -, rfl⟩ := hevent
  have hkept : ∀ other ∈ db.reviews, statesOf { db with
      reviews := db.reviews ++ [review]
      events := db.events ++ [⟨eventId, review.id, .reviewRequired, none⟩] } other.id =
        db.statesOf other.id :=
    fun other hmem ↦ statesOf_concat_of_ne rfl (hnew other hmem).symm
  constructor
  · exact h.externals
  · exact h.texts
  · refine List.forall_mem_append.mpr ⟨h.reviews, List.forall_mem_singleton.mpr ?_⟩
    exact ⟨hcreated, hartist, ⟨external, hexternal, hexternalId⟩, person, hperson, hpersonId⟩
  · refine List.forall_mem_append.mpr ⟨fun other hmem ↦ ?_, List.forall_mem_singleton.mpr ?_⟩
    · rw [hkept other hmem]
      exact h.histories other hmem
    · rw [@statesOf_concat_self db _ ⟨eventId, review.id, .reviewRequired, none⟩ rfl]
      exact List.concat_ne_nil _ _
  · exact Workflow.legalLog_concat.mpr ⟨h.legal, hallows⟩
  · refine List.forall_mem_append.mpr ⟨fun event hmem ↦ ?_, List.forall_mem_singleton.mpr ?_⟩
    · obtain ⟨other, hother, hid⟩ := h.eventReviews event hmem
      exact ⟨other, List.mem_append_left _ hother, hid⟩
    · exact ⟨review, List.mem_append_right _ (List.mem_singleton_self _), rfl⟩
  · refine List.forall_mem_append.mpr ⟨h.notes, List.forall_mem_singleton.mpr ?_⟩
    exact fun hdecision ↦ absurd rfl hdecision
  · intro identityId
    have hold : (db.reviews.filter fun other ↦ other.externalIdentityId = identityId ∧
        IsActive { db with
          reviews := db.reviews ++ [review]
          events := db.events ++ [⟨eventId, review.id, .reviewRequired, none⟩] } other.id) =
        db.activeReviewsOf identityId := by
      refine List.filter_congr fun other hmem ↦ ?_
      rw [decide_eq_decide, IsActive, hkept other hmem, IsActive]
    rw [activeReviewsOf, List.filter_append, hold, List.length_append]
    by_cases hidentity : review.externalIdentityId = identityId
    · rw [← hidentity, hactive, List.length_nil, Nat.zero_add]
      exact List.length_filter_le _ _
    · rw [List.filter_cons_of_neg (by simp [hidentity])]
      exact h.active identityId

/-- A decision is appended. Assumes: it has a reason. -/
theorem invariant_insertEvent (h : IdentityInvariant profile accepts db) {event : IdentityReviewEvent}
    (hnote : event.note.isSome = true) (hinsert : db.insertEvent event = .ok after) :
    IdentityInvariant profile accepts after := by
  have hallows := allows_of_insertEvent hinsert
  simp only [insertEvent, bind_eq_ok, require_eq_ok, Except.ok.injEq] at hinsert
  obtain ⟨-, -, -, hnext, -, -, -, -, -, ⟨review, hreview, hid⟩, rfl⟩ := hinsert
  constructor
  · exact h.externals
  · exact h.texts
  · exact h.reviews
  · intro other hother
    by_cases hself : event.reviewId = other.id
    · rw [← hself, statesOf_concat_self rfl]
      exact List.concat_ne_nil _ _
    · rw [statesOf_concat_of_ne rfl hself]
      exact h.histories other hother
  · exact Workflow.legalLog_concat.mpr ⟨h.legal, hallows⟩
  · exact List.forall_mem_append.mpr ⟨h.eventReviews,
      List.forall_mem_singleton.mpr ⟨review, hreview, hid⟩⟩
  · exact List.forall_mem_append.mpr ⟨h.notes, List.forall_mem_singleton.mpr fun _ ↦ hnote⟩
  · -- A decision activates no review: the only one it leaves active was active before.
    have hactive : ∀ other : IdentityReview,
        IsActive { db with events := db.events ++ [event] } other.id → db.IsActive other.id := by
      intro other hother
      by_cases hself : event.reviewId = other.id
      · rw [IsActive, ← hself, statesOf_concat_self rfl, List.getLast?_concat] at hother
        obtain ⟨state, hstate, hactive⟩ := hother
        cases hstate
        have hne : db.statesOf event.reviewId ≠ [] := hid ▸ h.histories review hreview
        obtain ⟨last, hlast⟩ := Option.ne_none_iff_exists'.mp
          (fun hnone ↦ hne (List.getLast?_eq_none_iff.mp hnone))
        rcases hnext last hlast with ⟨rfl, -⟩ | ⟨-, hsplit⟩
        · exact ⟨_, hself ▸ hlast, rfl⟩
        · rw [hsplit] at hactive
          cases hactive
      · rwa [IsActive, statesOf_concat_of_ne rfl hself] at hother
    intro identityId
    refine (List.Sublist.length_le ?_).trans (h.active identityId)
    refine List.monotone_filter_right _ fun other hother ↦ ?_
    simp only [decide_eq_true_eq] at hother ⊢
    exact ⟨hother.1, hactive other hother.2⟩

/-! ### Opening -/

/-- An external identity passes exactly when its namespace is not too long. -/
theorem validateExternal_iff (h : IdentityInvariant profile accepts db) {row : ExternalIdentity}
    (hrow : row ∈ db.externals) :
    validateExternal profile row = .ok ⟨⟩ ↔ (collapse row.namespaceName).toList.length ≤ 120 := by
  obtain ⟨-, hartist, -⟩ := h.externals row hrow
  obtain ⟨hobserved, hnamespace, subject, hsubject⟩ := h.texts row hrow
  simp only [validateExternal, bind_eq_ok, require_eq_ok, hsubject, strictText_eq_ok, pure_eq_ok]
  constructor
  · rintro ⟨-, -, -, -, text, ⟨-, hlength, -⟩, -⟩
    exact hlength
  · exact fun hlength ↦ ⟨⟨⟩, hartist, ⟨⟩, hobserved, _, ⟨hnamespace, hlength, rfl⟩, subject, rfl, trivial⟩

theorem validateReview_eq_ok (h : IdentityInvariant profile accepts db) {row : IdentityReview}
    (hrow : row ∈ db.reviews) : db.validateReview profile row = .ok ⟨⟩ := by
  obtain ⟨hcreated, hartist, ⟨external, hexternal, hexternalId⟩, hperson⟩ := h.reviews row hrow
  have hidentity : ∃ identity, db.getExternalIdentity row.externalIdentityId = .ok (some identity) ∧
      identity.artistId = row.artistId := by
    have hcreatedExternal := (h.externals external hexternal).1
    rw [hexternalId] at hcreatedExternal
    have hfound : (db.externals.find? fun other ↦ other.id = row.externalIdentityId).isSome = true := by
      rw [List.find?_isSome]
      exact ⟨external, hexternal, decide_eq_true hexternalId⟩
    obtain ⟨identity, hidentity⟩ := Option.isSome_iff_exists.mp hfound
    refine ⟨identity, ?_, ?_⟩
    · rw [IdentityDb.getExternalIdentity, hcreatedExternal.strictText_eq (by decide)]
      exact congrArg Except.ok hidentity
    · rw [(h.externals identity (List.mem_of_find?_eq_some hidentity)).2.1, hartist]
  obtain ⟨identity, hidentity, hidentityArtist⟩ := hidentity
  obtain ⟨person, hfound, -, hpersonArtist⟩ := Profile.exists_getPerson hperson
  have hevents : db.reviewEvents row.id = .ok (db.eventsOf row.id) := by
    rw [reviewEvents, hcreated.strictText_eq (by decide)]
    rfl
  have hstates : db.statesOf row.id ∈ validSequences :=
    mem_validSequences (h.legal row.id) (h.histories row hrow)
  have horigin : ∀ states ∈ validSequences, states.head? = some .reviewRequired := by decide
  simp only [validateReview, bind_eq_ok, require_eq_ok, hidentity, hevents, Except.ok.injEq]
  refine ⟨⟨⟩, hartist, ⟨⟩, ⟨external, hexternal, hexternalId⟩, _, rfl, ⟨⟩,
    ⟨identity, rfl, hidentityArtist⟩, ⟨⟩, ⟨person, hfound, hpersonArtist.trans hartist.symm⟩, _, rfl, ⟨⟩,
    horigin _ hstates, ⟨⟩, hstates, fun event hevent ↦ h.notes event (mem_historyOf.mp hevent).1⟩

/-- A store can be opened again exactly when no namespace in it is too long. -/
theorem validateExisting_iff (h : IdentityInvariant profile accepts db) :
    db.validateExisting profile = .ok ⟨⟩ ↔
      ∀ row ∈ db.externals, (collapse row.namespaceName).toList.length ≤ 120 := by
  have hexternals : (∃ result, checkEach (fun _ ↦ validateExternal profile) 0 db.externals =
      .ok result) ↔ ∀ row ∈ db.externals, (collapse row.namespaceName).toList.length ≤ 120 := by
    rw [exists_checkEach_iff]
    exact forall₂_congr fun row hrow ↦ validateExternal_iff h hrow
  obtain ⟨results, hreviews⟩ := exists_checkEach_iff (n := 0).mpr
    fun (row : IdentityReview) hrow ↦ validateReview_eq_ok h hrow
  simp only [validateExisting, asCorruption_eq_ok, bind_eq_ok, require_eq_ok]
  constructor
  · rintro ⟨checked, hchecked, -⟩
    exact hexternals.mp ⟨checked, hchecked⟩
  · intro hlength
    obtain ⟨checked, hchecked⟩ := hexternals.mpr hlength
    exact ⟨checked, hchecked, results, hreviews, fun review _ ↦ h.active _⟩

/-! ### The calls -/

/-- The transactions of a call keep the invariant, whatever was read. -/
abbrev Sound {α : Type} (profile : Profile) (accepts : ExternalIdentity → Prop)
    (call : IdentityCall α) : Prop :=
  Preserves (IdentityInvariant profile accepts) (fun _ _ ↦ True) call

theorem sound_requireExternalIdentity (identityId : String) :
    Sound profile accepts (requireExternalIdentity profile identityId) :=
  (preserves_ask _).bind fun _ ↦ preserves_fromExcept _

theorem sound_resolutionFromRow (row : IdentityReview) :
    Sound profile accepts (resolutionFromRow profile row) :=
  (preserves_ask _).bind fun _ ↦ (preserves_fromExcept _).bind fun _ ↦
    (sound_requireExternalIdentity _).bind fun _ ↦ preserves_pure _

theorem sound_resolutionsFromRows (rows : List IdentityReview) :
    Sound profile accepts (resolutionsFromRows profile rows) := by
  induction rows with
  | nil => exact preserves_pure _
  | cons row rest ih =>
    exact (sound_resolutionFromRow row).bind fun _ ↦ ih.bind fun _ ↦ preserves_pure _

theorem sound_getReview (reviewId : String) : Sound profile accepts (getReview profile reviewId) := by
  refine (preserves_ask _).bind fun row ↦ ?_
  cases row with
  | none => exact preserves_pure _
  | some row => exact (sound_resolutionFromRow row).map _

theorem sound_requireReview (reviewId : String) :
    Sound profile accepts (requireReview profile reviewId) :=
  (sound_getReview reviewId).bind fun _ ↦ preserves_fromExcept _

theorem sound_currentResolution (identityId : String) :
    Sound profile accepts (currentResolution profile identityId) := by
  refine Preserves.bind ?_ fun _ ↦ preserves_fromExcept _
  exact (sound_requireExternalIdentity _).bind fun _ ↦ (preserves_select _).bind fun rows ↦
    sound_resolutionsFromRows rows

theorem sound_proposeLink (review event : Uuid) (identityId personId : String) :
    Sound profile accepts (proposeLink profile review event identityId personId) := by
  refine (sound_requireExternalIdentity _).bind fun identity ↦ (preserves_fromExcept _).bind
    fun person ↦ (sound_currentResolution _).bind fun _ ↦ (preserves_fromExcept _).bind fun _ ↦ ?_
  refine (preserves_transaction fun s t hs hopen ↦ ⟨trivial, ?_⟩).bind fun _ ↦
    (sound_getReview _).bind fun _ ↦ preserves_fromExcept _
  exact invariant_openReview hs ⟨review, rfl⟩ rfl hopen

theorem sound_appendDecision (event : Uuid) (reviewId : String) (state : ReviewState)
    (note : String) : Sound profile accepts (appendDecision profile event reviewId state note) := by
  refine (sound_requireReview _).bind fun current ↦ (preserves_fromExcept _).bind fun note ↦ ?_
  refine (preserves_transaction fun s t hs hinsert ↦ ⟨trivial, ?_⟩).bind fun _ ↦
    (sound_getReview _).bind fun _ ↦ preserves_fromExcept _
  exact invariant_insertEvent hs rfl (integrityAs_eq_ok.mp hinsert)

theorem sound_decideReview (required state : ReviewState) (refusal : String) (event : Uuid)
    (reviewId reason : String) :
    Sound profile accepts (decideReview profile required state refusal event reviewId reason) :=
  (sound_requireReview _).bind fun _ ↦ (preserves_fromExcept _).bind fun _ ↦
    sound_appendDecision event _ state reason

/-- What the normalized row of an external identity holds. -/
theorem normalizeIdentity_spec {table : CaseTable} {identityId : String} {input : IdentityInput}
    {row : ExternalIdentity} (hrow : normalizeIdentity profile table identityId input = .ok row) :
    row.id = identityId ∧ row.artistId = profile.primaryArtistId ∧
      row.namespaceName = table.lower (collapse input.namespaceName) ∧
      collapse row.namespaceName ≠ "" ∧
      ∃ subject, strictText row.subject "subject" 500 = .ok subject := by
  simp only [normalizeIdentity, bind_eq_ok, require_eq_ok, strictText_eq_ok, Except.ok.injEq] at hrow
  obtain ⟨_, -, _, ⟨hnamespace, -, rfl⟩, _, ⟨hsubject, hlength, rfl⟩, _, -, _, -, _, -, _, -, rfl⟩ :=
    hrow
  refine ⟨rfl, rfl, rfl, ?_, collapse input.subject, ?_⟩
  · exact CaseTable.collapse_lower_ne (by rwa [collapse_collapse])
  · rw [strictText_eq_ok, collapse_collapse]
    exact ⟨hsubject, hlength, rfl⟩

theorem sound_recordExternalIdentity {table : CaseTable} {uuid : Uuid} {input : IdentityInput}
    (haccepts : ∀ row, normalizeIdentity profile table (newId "extid" uuid) input = .ok row →
      accepts row) :
    Sound profile accepts (recordExternalIdentity profile table uuid input) := by
  refine preserves_fromExcept_bind fun row hrow ↦ ?_
  obtain ⟨hid, hartist, -, hnamespace, hsubject⟩ := normalizeIdentity_spec hrow
  refine (preserves_transaction fun s t hs hinsert ↦ ⟨trivial, ?_⟩).bind fun _ ↦
    (preserves_ask _).bind fun _ ↦ preserves_fromExcept _
  exact invariant_insertExternal hs ⟨⟨uuid, hid⟩, hartist, haccepts row hrow⟩ hnamespace hsubject
    (integrityAs_eq_ok.mp hinsert)

/-- The rows that an operation would record are accepted. -/
def RecordsAccepted (profile : Profile) (table : CaseTable) (accepts : ExternalIdentity → Prop) :
    IdentityOperation → Prop
  | .recordExternalIdentity uuid input =>
    ∀ row, normalizeIdentity profile table (newId "extid" uuid) input = .ok row → accepts row
  | _ => True

theorem sound_identityProgram {table : CaseTable} {operation : IdentityOperation}
    (haccepts : RecordsAccepted profile table accepts operation) :
    Sound profile accepts (identityProgram profile table operation) := by
  cases operation with
  | recordExternalIdentity uuid input => exact (sound_recordExternalIdentity haccepts).map _
  | proposeLink review event identityId personId =>
    exact (sound_proposeLink review event identityId personId).map _
  | link event reviewId reason => exact (sound_decideReview _ _ _ event reviewId reason).map _
  | reject event reviewId reason => exact (sound_decideReview _ _ _ event reviewId reason).map _
  | split event reviewId reason => exact (sound_decideReview _ _ _ event reviewId reason).map _

end

/-! ### Runs -/

section

variable {profile : Profile} {table : CaseTable}
  {events : List (SharedEvent IdentityOperation (Raised LineageErrorClass))}
  {w : Shared IdentityDb (Raised LineageErrorClass) IdentityAnswer}

theorem identityInvariant_of_run {accepts : ExternalIdentity → Prop}
    (haccepts : ∀ operation, .start operation ∈ events →
      RecordsAccepted profile table accepts operation)
    (hrun : runEvents (stepShared (identityProgram profile table)) ⟨.empty, []⟩ events = some w) :
    IdentityInvariant profile accepts w.store := by
  have hstart : Shared.Kept (IdentityInvariant profile accepts) (fun _ _ ↦ True) (fun _ _ _ ↦ True)
      (⟨.empty, []⟩ : Shared IdentityDb (Raised LineageErrorClass) IdentityAnswer) :=
    ⟨invariant_empty, List.forall_mem_nil _⟩
  have hstarts : ∀ operation, .start operation ∈ events → ∀ s, IdentityInvariant profile accepts s →
      Keeps (IdentityInvariant profile accepts) (fun _ _ ↦ True) (fun _ _ _ ↦ True) false
        (identityProgram profile table operation) s :=
    fun operation hoperation s _ ↦
      (sound_identityProgram (haccepts operation hoperation)).keeps false s
  exact (kept_of_run_of_starts hstarts hstart hrun).2.store

/-- The lowercase of the namespace that an operation records is not too long either. -/
def LowercaseFits (table : CaseTable) : IdentityOperation → Prop
  | .recordExternalIdentity _ input =>
    (table.lower (collapse input.namespaceName)).toList.length ≤ 120
  | _ => True

/-- In every run of calls on a new store, whatever their interleaving, every external identity has at
most one active review and every review one of the four histories. The store can be opened again
exactly when no namespace in it is too long, as when the lowercase of every one that is recorded
fits. -/
theorem identity_reviews
    (hrun : runEvents (stepShared (identityProgram profile table)) ⟨.empty, []⟩ events = some w) :
    (∀ identityId, (w.store.activeReviewsOf identityId).length ≤ 1) ∧
    (∀ review ∈ w.store.reviews, w.store.statesOf review.id ∈ validSequences) ∧
    (w.store.validateExisting profile = .ok ⟨⟩ ↔
      ∀ row ∈ w.store.externals, (collapse row.namespaceName).toList.length ≤ 120) ∧
    ((∀ operation, .start operation ∈ events → LowercaseFits table operation) →
      w.store.validateExisting profile = .ok ⟨⟩) := by
  have hinvariant : IdentityInvariant profile (fun _ ↦ True) w.store := by
    refine identityInvariant_of_run (fun operation _ ↦ ?_) hrun
    cases operation <;> simp [RecordsAccepted]
  have hopens := validateExisting_iff hinvariant
  refine ⟨hinvariant.active, fun review hreview ↦ ?_, hopens, fun hfits ↦ ?_⟩
  · exact mem_validSequences (hinvariant.legal review.id) (hinvariant.histories review hreview)
  · have hbounded : IdentityInvariant profile (fun row ↦ row.namespaceName.toList.length ≤ 120)
        w.store := by
      refine identityInvariant_of_run (fun operation hoperation ↦ ?_) hrun
      have hlength := hfits operation hoperation
      cases operation with
      | recordExternalIdentity uuid input =>
        intro row hrow
        rw [(normalizeIdentity_spec hrow).2.2.1]
        exact hlength
      | _ => trivial
    refine hopens.mpr fun row hrow ↦ (length_collapse_le _).trans ?_
    exact (hbounded.externals row hrow).2.2

end

/-! ### Two runs -/

def samplePeople : Profile where
  profileId := newId "prf" (uuidEnding 0)
  primaryArtistId := newId "art" (uuidEnding 1)
  songs := []
  people := [⟨newId "person" (uuidEnding 2), newId "art" (uuidEnding 1)⟩]
  versions := []
  songs_created := Profile.ofPerson.songs_created
  people_created := Profile.ofPerson.people_created
  versions_created := Profile.ofPerson.versions_created
  version_ids := List.nodup_nil

def sampleAddress (namespaceName : String) : IdentityInput :=
  ⟨"gmail", namespaceName, "ada", "user_declared", none, none⟩

/-- A call makes so many statements. -/
def statements (i n : ℕ) : List (SharedEvent IdentityOperation (Raised LineageErrorClass)) :=
  List.replicate n (.advance i)

/-- The person is proposed for an address that was recorded. -/
def reviewEvents : List (SharedEvent IdentityOperation (Raised LineageErrorClass)) :=
  [.start (.recordExternalIdentity (uuidEnding 3) (sampleAddress "Home")), .advance 0,
    .start (.proposeLink (uuidEnding 4) (uuidEnding 5) (newId "extid" (uuidEnding 3))
      (newId "person" (uuidEnding 2)))] ++ statements 1 4

/-- The review is opened, and the store can be opened. -/
theorem sample_reviews : ∃ w,
    runEvents (stepShared (identityProgram samplePeople CaseTable.dottedTable)) ⟨.empty, []⟩
      reviewEvents = some w ∧
    w.store.reviews.length = 1 ∧
    (w.store.activeReviewsOf (newId "extid" (uuidEnding 3))).length ≤ 1 ∧
    w.store.validateExisting samplePeople = .ok ⟨⟩ := by
  have hreviews : (runEvents (stepShared (identityProgram samplePeople CaseTable.dottedTable))
      ⟨.empty, []⟩ reviewEvents).map (fun w ↦ w.store.reviews.length) = some 1 := by
    decide +kernel
  obtain ⟨w, hrun, hone⟩ := Option.map_eq_some_iff.mp hreviews
  obtain ⟨hactive, -, -, hopens⟩ := identity_reviews hrun
  refine ⟨w, hrun, hone, hactive _, hopens fun operation hoperation ↦ ?_⟩
  simp only [reviewEvents, statements, List.mem_append, List.mem_cons,
    List.mem_replicate, SharedEvent.start.injEq, reduceCtorEq, and_false, false_or, or_false,
    List.not_mem_nil] at hoperation
  rcases hoperation with rfl | rfl
  · unfold LowercaseFits
    decide +kernel
  · trivial

/-! ### A namespace that opening refuses -/

/-- A namespace of 61 characters, whose lowercase has 122. -/
def longNamespace : String := String.ofList (List.replicate 61 CaseTable.dottedI)

def longRow : ExternalIdentity where
  id := newId "extid" (uuidEnding 3)
  artistId := samplePeople.primaryArtistId
  realm := .gmail
  namespaceName := CaseTable.dottedTable.lower longNamespace
  subject := "ada"
  displayLabel := none
  sourceKind := .userDeclared
  sourceRef := none

theorem toList_longNamespace : longNamespace.toList = List.replicate 61 CaseTable.dottedI :=
  String.toList_ofList

theorem toList_lower_longNamespace : (CaseTable.dottedTable.lower longNamespace).toList =
    (List.replicate 61 ['i', Char.ofNat 0x307]).flatten := by
  rw [CaseTable.lower, String.toList_ofList, toList_longNamespace]
  decide +kernel

theorem normalizeIdentity_longRow : normalizeIdentity samplePeople CaseTable.dottedTable
    (newId "extid" (uuidEnding 3)) (sampleAddress longNamespace) = .ok longRow := by
  have hcollapse : collapse longNamespace = longNamespace := by
    refine collapse_of_no_space fun c hc ↦ ?_
    rw [toList_longNamespace] at hc
    rw [List.eq_of_mem_replicate hc]
    decide
  have hnamespace : strictText longNamespace "namespace" 120 = .ok longNamespace := by
    rw [strictText_eq_ok, hcollapse, toList_longNamespace]
    refine ⟨fun hempty ↦ ?_, by decide, rfl⟩
    have hlength := toList_longNamespace
    rw [hempty] at hlength
    cases hlength
  have hrealm : normalizeRealm "gmail" = .ok .gmail := by decide +kernel
  have hsubject : strictText "ada" "subject" 500 = .ok "ada" := by decide +kernel
  have hkind : normalizeSourceKind "user_declared" = .ok .userDeclared := by decide +kernel
  rw [normalizeIdentity, sampleAddress, hrealm, hnamespace, hsubject, hkind]
  rfl

/-- A call whose row can be inserted records it. -/
theorem run_recordExternalIdentity {profile : Profile} {table : CaseTable} {uuid : Uuid}
    {input : IdentityInput} {row : ExternalIdentity} {after : IdentityDb}
    (hrow : normalizeIdentity profile table (newId "extid" uuid) input = .ok row)
    (hinsert : IdentityDb.empty.insertExternal row = .ok after) :
    ∃ w, runEvents (stepShared (identityProgram profile table)) ⟨.empty, []⟩
      [.start (.recordExternalIdentity uuid input), .advance 0] = some w ∧ w.store = after := by
  obtain ⟨next, raised, hnext⟩ : ∃ next raised,
      identityProgram profile table (.recordExternalIdentity uuid input) =
        .transact (fun db ↦ integrityAs
          (fun _ ↦ "external identity already exists or violates reconciliation bounds")
          (db.insertExternal row)) next raised := by
    rw [identityProgram, recordExternalIdentity, hrow]
    exact ⟨_, _, rfl⟩
  exact ⟨⟨after, [⟨next, true⟩]⟩, run_start_transact hnext (integrityAs_eq_ok.mpr hinsert), rfl⟩

/-- A namespace is recorded that opening refuses. -/
theorem long_namespace_refused : ¬ ∀ (profile : Profile) (table : CaseTable)
    (events : List (SharedEvent IdentityOperation (Raised LineageErrorClass)))
    (w : Shared IdentityDb (Raised LineageErrorClass) IdentityAnswer),
    runEvents (stepShared (identityProgram profile table)) ⟨.empty, []⟩ events = some w →
      w.store.validateExisting profile = .ok ⟨⟩ := by
  intro hall
  have hinsert : IdentityDb.empty.insertExternal longRow = .ok ⟨[longRow], [], []⟩ := by
    have hnonblank : sqlNonblank longRow.namespaceName = true := by
      rw [sqlNonblank, longRow, toList_lower_longNamespace]
      decide
    simp only [insertExternal, bind_eq_ok, require_eq_ok, hnonblank]
    refine ⟨⟨⟩, trivial, ⟨⟩, by decide +kernel, ⟨⟩, ?_, ⟨⟩, ?_, ⟨⟩, ?_, ⟨⟩, ?_, ⟨⟩, ?_, rfl⟩
    · rintro _ ⟨⟩
    · rintro _ ⟨⟩
    · rintro ⟨⟩
    · rintro _ ⟨⟩
    · rintro _ ⟨⟩
  obtain ⟨w, hrun, hstore⟩ := run_recordExternalIdentity normalizeIdentity_longRow hinsert
  have hinvariant : IdentityInvariant samplePeople (fun _ ↦ True) w.store := by
    refine identityInvariant_of_run (fun operation _ ↦ ?_) hrun
    cases operation <;> simp [RecordsAccepted]
  have hlength := (validateExisting_iff hinvariant).mp (hall _ _ _ _ hrun) longRow
    (hstore ▸ List.mem_singleton_self _)
  have hcollapse : collapse longRow.namespaceName = longRow.namespaceName := by
    refine collapse_of_no_space fun c hc ↦ ?_
    have hspaces : (List.replicate 61 ['i', Char.ofNat 0x307]).flatten.all (fun c ↦ !isSpace c) =
        true := by
      decide +kernel
    have hmem := toList_lower_longNamespace ▸ hc
    simpa only [Bool.not_eq_true'] using List.all_eq_true.mp hspaces c hmem
  rw [hcollapse, longRow, toList_lower_longNamespace] at hlength
  exact absurd hlength (by decide +kernel)

end N0te.People
