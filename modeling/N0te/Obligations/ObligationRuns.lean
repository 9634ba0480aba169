import N0te.Obligations.ObligationLifecycle

/-!
# Obligations over whole runs

A store with the invariant can be opened: every obligation is read (`alone_get`), and its events and
triggers pass the checks. `obligation_lifecycle` collects what holds of every run, and what holds of a
run where no call is disturbed. In `disturbedEvents` a trigger is recorded after the obligation was
satisfied.
-/

set_option autoImplicit false
set_option relaxedAutoImplicit false

namespace N0te.Obligations

open Library Lineage People Evidence ObligationDb

/-! ### Opening -/

section

variable {profile : ObligationProfile} {db : ObligationDb}

theorem compatible_of_matches {claim : EvidenceClaim} {songId : Option String}
    (h : ScopeMatches profile claim profile.primaryArtistId songId) :
    ClaimCompatible profile claim songId := by
  unfold ClaimCompatible
  rcases h with ⟨hkind, hartist⟩ | ⟨hkind, hsong⟩ | ⟨hkind, version, hversion, hid, hsong⟩
  · rw [hkind]
    exact hartist
  · rw [hkind]
    exact hsong
  · rw [hkind, ← hid, Profile.getVersion_eq hversion]
    exact ⟨version, rfl, hsong⟩

/-- A claim that was bound is read, and its scope is compatible. -/
theorem exists_compatible (h : ObligationTables profile db) {claimId : String}
    {songId : Option String} (hmatches : db.ClaimMatches profile claimId profile.primaryArtistId songId) :
    ∃ claim, db.evidence.getClaim claimId = some claim ∧ claim ∈ db.evidence.claims ∧
      ClaimCompatible profile claim songId := by
  obtain ⟨claim, hclaim, rfl, hscope⟩ := hmatches
  exact ⟨claim, h.evidence.getClaim hclaim, hclaim, compatible_of_matches hscope⟩

theorem validateBinding_eq_ok (h : ObligationTables profile db) {claimId message : String}
    {songId : Option String} (hmatches : db.ClaimMatches profile claimId profile.primaryArtistId songId) :
    validateBinding profile db songId claimId message = .ok ⟨⟩ := by
  obtain ⟨claim, hclaim, -, hcompatible⟩ := exists_compatible h hmatches
  simp only [validateBinding, bind_eq_ok, orRaise_eq_ok, require_eq_ok]
  exact ⟨claim, hclaim, hcompatible⟩

theorem exists_requirePerson {personId : String}
    (h : ∃ person ∈ profile.people, person.id = personId) :
    ∃ person, requirePerson profile personId = .ok person := by
  obtain ⟨person, hfound, hid, hartist⟩ := Profile.exists_getPerson h
  obtain ⟨other, hother, hotherId⟩ := h
  have hstrip : strip personId = personId :=
    hotherId ▸ (profile.people_created other hother).1.strip_eq (by decide)
  refine ⟨person, ?_⟩
  simp only [requirePerson, bind_eq_ok, orRaise_eq_ok, require_eq_ok, hstrip]
  exact ⟨person, hfound, ⟨⟩, hartist, rfl⟩

theorem exists_followupState {row : BusinessObligation}
    (h : ∀ followupId ∈ row.followupId, ∃ followup ∈ profile.followups, followup.id = followupId) :
    ∃ state, followupState profile row = .ok state := by
  rcases hid : row.followupId with _ | followupId
  · exact ⟨none, by rw [followupState, hid]⟩
  · obtain ⟨followup, hfollowup, rfl⟩ := h followupId hid
    have hstrip := (profile.followups_created followup hfollowup).strip_eq (by decide)
    have hfound : (profile.getFollowup followup.id).isSome = true := by
      rw [ObligationProfile.getFollowup, List.find?_isSome]
      exact ⟨followup, hfollowup, by simp [hstrip]⟩
    obtain ⟨found, hfound⟩ := Option.isSome_iff_exists.mp hfound
    refine ⟨some found.state, ?_⟩
    rw [followupState, hid]
    simp only [hfound, orRaise]
    rfl

/-- The rows that belong to an obligation are bound to claims that can be read. -/
theorem matches_of_mem_eventsOf (h : ObligationTables profile db) {row : BusinessObligation}
    (hrow : row ∈ db.obligations) {event : ObligationEventRow} (hevent : event ∈ db.eventsOf row.id) :
    db.ClaimMatches profile event.evidenceClaimId profile.primaryArtistId row.songId := by
  obtain ⟨hmem, hid⟩ := mem_historyOf.mp hevent
  obtain ⟨other, hother, hotherId, hmatches⟩ := h.events event hmem
  obtain rfl := h.eq_of_id hother hrow (hotherId.trans hid)
  rwa [(h.obligations other hother).2.1] at hmatches

theorem matches_of_mem_triggersOf (h : ObligationTables profile db) {row : BusinessObligation}
    (hrow : row ∈ db.obligations) {trigger : ObligationTriggerRow}
    (htrigger : trigger ∈ db.triggersOf row.id) : row.triggerRef.isSome = true ∧
    db.ClaimMatches profile trigger.evidenceClaimId profile.primaryArtistId row.songId := by
  obtain ⟨hmem, hid⟩ := mem_historyOf.mp htrigger
  obtain ⟨other, hother, hotherId, hwaits, hmatches⟩ := h.triggers trigger hmem
  obtain rfl := h.eq_of_id hother hrow (hotherId.trans hid)
  rw [(h.obligations other hother).2.1] at hmatches
  exact ⟨hwaits, hmatches⟩

theorem find_eq (h : ObligationTables profile db) {row : BusinessObligation}
    (hrow : row ∈ db.obligations) : db.find row.id = some row := by
  have hsome : (db.find row.id).isSome = true := by
    rw [ObligationDb.find, List.find?_isSome]
    exact ⟨row, hrow, decide_eq_true rfl⟩
  obtain ⟨found, hfound⟩ := Option.isSome_iff_exists.mp hsome
  have hid : found.id = row.id := by simpa using List.find?_some hfound
  rw [hfound, h.eq_of_id (List.mem_of_find?_eq_some hfound) hrow hid]

theorem exists_readEvents (h : ObligationTables profile db) {row : BusinessObligation}
    (hrow : row ∈ db.obligations) :
    ∃ events, checkEach (fun _ ↦ readEvent db) 0 (db.eventsOf row.id) = .ok events := by
  refine exists_checkEach fun event hevent ↦ ?_
  obtain ⟨claim, hclaim, -, -⟩ := exists_compatible h (matches_of_mem_eventsOf h hrow hevent)
  refine ⟨⟨event, claim.sourceKind, claim.sourceRef⟩, ?_⟩
  rw [readEvent, hclaim]
  rfl

theorem exists_readTriggers (h : ObligationTables profile db) {row : BusinessObligation}
    (hrow : row ∈ db.obligations) :
    ∃ triggers, checkEach (fun _ ↦ readTrigger db) 0 (db.triggersOf row.id) = .ok triggers := by
  refine exists_checkEach fun trigger htrigger ↦ ?_
  obtain ⟨claim, hclaim, -, -⟩ :=
    exists_compatible h (matches_of_mem_triggersOf h hrow htrigger).2
  refine ⟨⟨trigger, claim.sourceKind, claim.sourceRef⟩, ?_⟩
  rw [readTrigger, hclaim]
  rfl

/-- The triggers of a snapshot are those of the store. -/
theorem readTriggers_spec {rows : List ObligationTriggerRow} {n : ℕ}
    {triggers : List ObligationTriggerEvent}
    (h : checkEach (fun _ ↦ readTrigger db) n rows = .ok triggers) :
    triggers.map ObligationTriggerEvent.row = rows := by
  refine map_checkEach (fun row trigger htrigger ↦ ?_) h
  simp only [readTrigger, bind_eq_ok, Except.ok.injEq] at htrigger
  obtain ⟨_, -, rfl⟩ := htrigger
  rfl

/-- The lifecycle that is read of an obligation begins open. -/
theorem begins_of_readEvents (h : ObligationInvariant profile db) {row : BusinessObligation}
    (hrow : row ∈ db.obligations) {events : List ObligationEvent}
    (hevents : events.map ObligationEvent.row = db.eventsOf row.id) :
    ∃ event ∈ events.head?, event.row.status = .opened := by
  rcases events with _ | ⟨event, rest⟩
  · exact absurd (by rw [statusesOf, ← hevents]; rfl) (h.started row hrow)
  · refine ⟨event, rfl, ?_⟩
    have hlegal := h.tables.legal row.id
    rw [show historyOf _ row.id db.events = _ from hevents.symm] at hlegal
    exact hlegal.first_of_head

/-- An obligation of a store is read. -/
theorem alone_get (h : ObligationInvariant profile db) {row : BusinessObligation}
    (hrow : row ∈ db.obligations) : ∃ snapshot : ObligationSnapshot,
      (get profile row.id).alone db = (.ok snapshot, db) ∧ snapshot.row = row ∧
      snapshot.events.map ObligationEvent.row = db.eventsOf row.id ∧
      snapshot.triggerEvents.map ObligationTriggerEvent.row = db.triggersOf row.id := by
  obtain ⟨hcreated, hartist, hperson, hfollowup, -⟩ := h.tables.obligations row hrow
  have hstrip : strip row.id = row.id := hcreated.strip_eq (by decide)
  obtain ⟨person, hperson⟩ := exists_requirePerson hperson
  obtain ⟨source, hsource, hmem, hcompatible⟩ :=
    exists_compatible h.tables (hartist ▸ h.tables.sources row hrow)
  obtain ⟨events, hevents⟩ := exists_readEvents h.tables hrow
  obtain ⟨triggers, htriggers⟩ := exists_readTriggers h.tables hrow
  obtain ⟨state, hstate⟩ := exists_followupState hfollowup
  obtain ⟨active, hactive, -⟩ := h.tables.evidence.mem_activeClaims hmem
  have hcurrent : claimCurrent profile source db =
      .ok (decide (source.id ∈ active.map EvidenceClaim.id)) := by
    rw [claimCurrent, hactive]
    rfl
  have hbegins := begins_of_readEvents h hrow (readEvents_spec hevents)
  refine ⟨⟨row, state, source.sourceKind, source.sourceRef,
    decide (source.id ∈ active.map EvidenceClaim.id), events, triggers, hbegins⟩, ?_, rfl,
    readEvents_spec hevents, readTriggers_spec htriggers⟩
  have hfound : (fun db : ObligationDb ↦ orRaise (db.find (strip row.id))
      (notFound s!"obligation not found: {row.id}")) db = .ok row := by
    simp only [hstrip, find_eq h.tables hrow, orRaise]
  refine (Call.alone_ask_bind (s := db) hfound _).trans ((Call.alone_fromExcept_bind hperson _ _).trans ?_)
  rw [getClaim, Call.alone_select_bind]
  have hchecked : (do
      let source ← orRaise (db.evidence.getClaim row.sourceClaimId)
        (corruption "obligation lost compatible source evidence")
      require (ClaimCompatible profile source row.songId)
        (corruption "obligation lost compatible source evidence")
      .ok source : Checked EvidenceClaim) = .ok source := by
    simp only [bind_eq_ok, orRaise_eq_ok, require_eq_ok]
    exact ⟨source, hsource, ⟨⟩, hcompatible, rfl⟩
  refine (Call.alone_fromExcept_bind hchecked _ _).trans ((Call.alone_ask_bind (s := db) hevents _).trans ?_)
  refine (Call.alone_ask_bind (s := db) htriggers _).trans ((Call.alone_fromExcept_bind hstate _ _).trans ?_)
  refine (Call.alone_ask_bind (s := db) hcurrent _).trans ?_
  rw [Call.alone_fromExcept, takeSnapshot, dif_pos hbegins]
  simp [require, hartist]

/-! ### The validator -/

/-- The events after some statuses pass the checks. -/
theorem validateEvents_eq_ok (h : ObligationTables profile db) {songId : Option String}
    {events : List ObligationEvent} {past : List ObligationStatus}
    (hlegal : obligationWorkflow.Legal (past ++ events.map fun event ↦ event.row.status))
    (hmatches : ∀ event ∈ events,
      db.ClaimMatches profile event.row.evidenceClaimId profile.primaryArtistId songId) :
    validateEvents profile db songId past.getLast? events = .ok ⟨⟩ := by
  induction events generalizing past with
  | nil => rfl
  | cons event rest ih =>
    rw [List.forall_mem_cons] at hmatches
    have hshape : TransitionShape past.getLast? event.row.status :=
      allows_iff.mp (hlegal past event.row.status _ rfl)
    have hrest := @ih (past ++ [event.row.status])
      (by rwa [List.append_assoc, List.singleton_append]) hmatches.2
    rw [List.getLast?_concat] at hrest
    have hpassed : (∀ status ∈ past.getLast?, status.terminal = false) ∧
        past.getLast? ≠ some event.row.status ∧ (event.row.status = .opened →
          ∀ status ∈ past.getLast?, status = .blocked ∨ status = .disputed) := by
      rcases hlast : past.getLast? with _ | last
      · simp
      · rw [hlast] at hshape
        obtain ⟨hongoing, hchanged, hreopened⟩ := hshape
        simp only [Option.mem_some_iff, forall_eq']
        exact ⟨hongoing, fun hsame ↦ hchanged (Option.some.inj hsame).symm, hreopened⟩
    simp only [validateEvents, bind_eq_ok, require_eq_ok]
    exact ⟨⟨⟩, validateBinding_eq_ok h hmatches.1, ⟨⟩, hpassed.1, ⟨⟩, hpassed.2.1, ⟨⟩, hpassed.2.2,
      hrest⟩

theorem validateObligation_eq_ok (h : ObligationInvariant profile db) {row : BusinessObligation}
    (hrow : row ∈ db.obligations) : validateObligation profile db row = .ok ⟨⟩ := by
  obtain ⟨snapshot, halone, rfl, hevents, htriggers⟩ := alone_get h hrow
  obtain ⟨-, -, -, -, hdue⟩ := h.tables.obligations _ hrow
  have hdueOn : ∃ due, normalizeDueOn snapshot.row.dueOn = .ok due := by
    rcases htext : snapshot.row.dueOn with _ | text
    · exact ⟨none, rfl⟩
    · obtain ⟨date, rfl⟩ := hdue text htext
      refine ⟨some date.isoFormat, ?_⟩
      have hgiven : given (some date.isoFormat) = some date.isoFormat := by
        simp [given, date.strip_isoFormat, date.isoFormat_ne_empty]
      rw [normalizeDueOn, hgiven]
      simp only [date.fromIsoFormat_isoFormat, orRaise]
      rfl
  obtain ⟨due, hdueOn⟩ := hdueOn
  have hlifecycle : validateEvents profile db snapshot.row.songId none snapshot.events = .ok ⟨⟩ := by
    have hlegal : obligationWorkflow.Legal
        ([] ++ snapshot.events.map fun event ↦ event.row.status) := by
      have hlegal := h.tables.legal snapshot.row.id
      rw [show historyOf _ snapshot.row.id db.events = _ from hevents.symm, List.map_map] at hlegal
      exact hlegal
    refine validateEvents_eq_ok h.tables hlegal fun event hevent ↦ ?_
    exact matches_of_mem_eventsOf h.tables hrow (hevents ▸ List.mem_map_of_mem hevent)
  obtain ⟨results, hresults⟩ := exists_checkEach_iff.mpr fun trigger htrigger ↦ by
    have hmatches := matches_of_mem_triggersOf h.tables hrow
      (htriggers ▸ List.mem_map_of_mem htrigger)
    show validateTrigger profile db snapshot.row trigger = .ok ⟨⟩
    simp only [validateTrigger, bind_eq_ok, require_eq_ok]
    exact ⟨⟨⟩, hmatches.1, validateBinding_eq_ok h.tables hmatches.2⟩
  simp only [validateObligation, halone, bind_eq_ok]
  exact ⟨snapshot, rfl, due, hdueOn, ⟨⟩, hlifecycle, results, hresults, rfl⟩

/-- A store can be opened again. -/
theorem ObligationInvariant.validateExisting (h : ObligationInvariant profile db) :
    db.validateExisting profile = .ok ⟨⟩ := by
  obtain ⟨results, hresults⟩ := exists_checkEach_iff.mpr
    fun (row : BusinessObligation) hrow ↦ validateObligation_eq_ok h hrow
  rw [ObligationDb.validateExisting, h.tables.evidence.validateExisting]
  show asUnreadable (checkEach _ 0 db.obligations >>= _) = _
  rw [hresults]
  rfl

end

/-! ### Runs -/

/-- The obligations of a store are in order. -/
structure ObligationsInOrder (profile : ObligationProfile) (db : ObligationDb) : Prop where
  /-- An obligation begins open, changes its status with every event, is opened again when it was
  blocked or disputed only, and ends with a terminal status. -/
  lifecycles : ∀ row ∈ db.obligations, db.statusesOf row.id ≠ [] ∧
    obligationWorkflow.Legal (db.statusesOf row.id)
  /-- An event is bound to a claim of a compatible scope. -/
  events : ∀ event ∈ db.events, ∃ row ∈ db.obligations, row.id = event.obligationId ∧
    ∃ claim ∈ db.evidence.getClaim event.evidenceClaimId, ClaimCompatible profile claim row.songId
  /-- So is a trigger. -/
  triggers : ∀ trigger ∈ db.triggers, ∃ row ∈ db.obligations, row.id = trigger.obligationId ∧
    ∃ claim ∈ db.evidence.getClaim trigger.evidenceClaimId, ClaimCompatible profile claim row.songId

theorem ObligationInvariant.inOrder {profile : ObligationProfile} {db : ObligationDb}
    (h : ObligationInvariant profile db) : ObligationsInOrder profile db := by
  have hartist := fun row hrow ↦ (h.tables.obligations row hrow).2.1
  constructor
  · exact fun row hrow ↦ ⟨h.started row hrow, h.tables.legal row.id⟩
  · intro event hevent
    obtain ⟨row, hrow, hid, hmatches⟩ := h.tables.events event hevent
    rw [hartist row hrow] at hmatches
    obtain ⟨claim, hclaim, -, hcompatible⟩ := exists_compatible h.tables hmatches
    exact ⟨row, hrow, hid, claim, hclaim, hcompatible⟩
  · intro trigger htrigger
    obtain ⟨row, hrow, hid, -, hmatches⟩ := h.tables.triggers trigger htrigger
    rw [hartist row hrow] at hmatches
    obtain ⟨claim, hclaim, -, hcompatible⟩ := exists_compatible h.tables hmatches
    exact ⟨row, hrow, hid, claim, hclaim, hcompatible⟩

/-- Connections to a store, and their calls. -/
abbrev ObligationWorld : Type :=
  Labelled ObligationOperation ObligationDb (Raised LineageErrorClass) ObligationAnswer

/-- Something that happens to them. -/
abbrev ObligationOccurrence : Type := SharedEvent ObligationOperation (Raised LineageErrorClass)

def newWorld : ObligationWorld := ⟨⟨.empty, []⟩, []⟩

section

variable (profile : ObligationProfile)

/-- What happens next. -/
def stepObligations : ObligationWorld → ObligationOccurrence → Option ObligationWorld :=
  stepLabelled (obligationProgram profile)

/-- What is committed next is bound to active claims, and no trigger to an obligation that ended. -/
def CommitsBound (w : ObligationWorld) (event : ObligationOccurrence) : Prop :=
  ∀ w', stepObligations profile w event = some w' → Bound w.shared.store w'.shared.store

/-- While a call has not committed what it binds to a claim, no other supersedes the claim, and none
ends the lifecycle of an obligation that the call records a trigger of. -/
def BindingUndisturbed (w : ObligationWorld) (event : ObligationOccurrence) : Prop :=
  Undisturbed KeepsOngoing KeepsBinding (obligationProgram profile) w event

end

/-- In every run of calls on a new store, whatever their interleaving, the obligations are in order and
the store can be opened again. In every such run that disturbs no call, what is committed is bound to
active claims, and no trigger to an obligation that ended. -/
theorem obligation_lifecycle {profile : ObligationProfile} {events : List ObligationOccurrence}
    {w : ObligationWorld} (hrun : runEvents (stepObligations profile) newWorld events = some w) :
    ObligationsInOrder profile w.shared.store ∧ w.shared.store.validateExisting profile = .ok ⟨⟩ ∧
    (EveryStep (stepObligations profile) (BindingUndisturbed profile) newWorld events →
      EveryStep (stepObligations profile) (CommitsBound profile) newWorld events) := by
  have hsound : ∀ operation s, ObligationInvariant profile s →
      Keeps (ObligationInvariant profile) (fun _ _ ↦ True) (fun _ _ _ ↦ True) false
        (obligationProgram profile operation) s :=
    fun operation s _ ↦ (sound_obligationProgram operation).keeps false s
  have hstart : Shared.Kept (ObligationInvariant profile) (fun _ _ ↦ True) (fun _ _ _ ↦ True)
      newWorld.shared := ⟨invariant_empty, List.forall_mem_nil _⟩
  obtain ⟨-, hkept⟩ := kept_of_run hsound hstart (shared_of_runLabelled hrun)
  refine ⟨hkept.store.inOrder, hkept.store.validateExisting, fun hundisturbed ↦ ?_⟩
  have hbinds : newWorld.KeptUnder KeepsOngoing KeepsBinding (ObligationInvariant profile) Bound
      fun _ _ _ _ ↦ True := by
    refine ⟨invariant_empty, rfl, fun j operation session hoperation ↦ ?_⟩
    simp [newWorld] at hoperation
  refine (everyStep_commits (fun operation s _ ↦ binds_obligationProgram operation) hbinds
    hundisturbed).mono fun w event hcommits w' hstep ↦ ?_
  rcases (Relation.reflGen_iff _ _ _).mp (hcommits w' hstep) with hsame | hbound
  · rw [hsame]
    exact .refl _
  · exact hbound

/-! ### Two runs -/

def sampleProfile : ObligationProfile where
  profileId := newId "prf" (uuidEnding 0)
  primaryArtistId := newId "art" (uuidEnding 1)
  songs := []
  people := [⟨newId "person" (uuidEnding 2), newId "art" (uuidEnding 1)⟩]
  versions := []
  songs_created := Profile.ofPerson.songs_created
  people_created := Profile.ofPerson.people_created
  versions_created := Profile.ofPerson.versions_created
  version_ids := List.nodup_nil
  followups := []
  followups_created := List.forall_mem_nil _

def sampleClaim : ClaimInput :=
  ⟨"ARTIST", newId "art" (uuidEnding 1), "rent", .bool true, "USER_DECLARED", none, 1, "CREATIVE", []⟩

def sampleClaimId : String := newId "claim" (uuidEnding 3)

def sampleInput : ObligationInput :=
  ⟨newId "person" (uuidEnding 2), "PAYMENT", "MUTUAL", "rent", sampleClaimId, none, none, none,
    some "bill", none⟩

def sampleObligation : String := newId "obl" (uuidEnding 4)

/-- A claim is recorded and an obligation created. -/
def createdEvents : List ObligationOccurrence :=
  [.start (.recordClaim (uuidEnding 3) sampleClaim), .advance 0, .advance 0, .advance 0,
    .start (.createObligation (uuidEnding 4) (uuidEnding 5) sampleInput), .advance 1, .advance 1,
    .advance 1, .advance 1, .advance 1, .advance 1, .advance 1, .advance 1]

def sampleTrigger : ObligationOperation :=
  .recordTrigger (uuidEnding 6) sampleObligation sampleClaimId "due"

def sampleTransition : ObligationOperation :=
  .transition (uuidEnding 7) sampleObligation "SATISFIED" sampleClaimId "paid"

/-- The statements of a call up to its transaction. -/
def statements (i : ℕ) : List ObligationOccurrence := List.replicate 8 (.advance i)

/-- A trigger is recorded, then the obligation is satisfied. -/
def undisturbedEvents : List ObligationOccurrence :=
  createdEvents ++ .start sampleTrigger :: statements 2 ++ List.replicate 5 (.advance 2) ++
    .start sampleTransition :: statements 3

/-- The obligation is satisfied between the checks of the trigger and its transaction. -/
def disturbedEvents : List ObligationOccurrence :=
  createdEvents ++ .start sampleTrigger :: List.replicate 7 (.advance 2) ++
    .start sampleTransition :: statements 3

/-- After the checks of a trigger and before its transaction the obligation is satisfied: the trigger is
recorded after a terminal status. -/
theorem trigger_after_satisfied : ∃ w w',
    runEvents (stepObligations sampleProfile) newWorld disturbedEvents = some w ∧
    stepObligations sampleProfile w (.advance 2) = some w' ∧
    w.shared.store.Terminal sampleObligation ∧
    ∃ trigger ∈ w'.shared.store.triggers, trigger ∉ w.shared.store.triggers ∧
      trigger.obligationId = sampleObligation := by
  have hruns : ((runEvents (stepObligations sampleProfile) newWorld disturbedEvents).bind fun w ↦
      (stepObligations sampleProfile w (.advance 2)).map fun w' ↦
        decide (w.shared.store.Terminal sampleObligation ∧
          ∃ trigger ∈ w'.shared.store.triggers, trigger ∉ w.shared.store.triggers ∧
            trigger.obligationId = sampleObligation)) = some true := by
    decide +kernel
  obtain ⟨w, hrun, hstep⟩ := Option.bind_eq_some_iff.mp hruns
  obtain ⟨w', hstep, hrecorded⟩ := Option.map_eq_some_iff.mp hstep
  exact ⟨w, w', hrun, hstep, of_decide_eq_true hrecorded⟩

/-- In the run where the calls are made one after another the trigger is recorded before the obligation
is satisfied. -/
theorem sample_obligations : ∃ w,
    runEvents (stepObligations sampleProfile) newWorld undisturbedEvents = some w ∧
    (w.shared.store.Terminal sampleObligation ∧
      (w.shared.store.triggersOf sampleObligation).length = 1) ∧
    ObligationsInOrder sampleProfile w.shared.store ∧
    w.shared.store.validateExisting sampleProfile = .ok ⟨⟩ ∧
    EveryStep (stepObligations sampleProfile) (CommitsBound sampleProfile) newWorld
      undisturbedEvents := by
  have hruns : (runEvents (stepObligations sampleProfile) newWorld undisturbedEvents).map
      (fun w ↦ decide (w.shared.store.Terminal sampleObligation ∧
        (w.shared.store.triggersOf sampleObligation).length = 1)) = some true := by
    decide +kernel
  have hsolo : checkSteps (stepObligations sampleProfile) soloStep newWorld undisturbedEvents =
      true := by
    decide +kernel
  obtain ⟨w, hrun, hstate⟩ := Option.map_eq_some_iff.mp hruns
  obtain ⟨horder, hopens, hbound⟩ := obligation_lifecycle hrun
  refine ⟨w, hrun, of_decide_eq_true hstate, horder, hopens, hbound ?_⟩
  exact (everyStep_of_checkSteps hsolo).mono fun _ _ hstep ↦ undisturbed_of_solo hstep

end N0te.Obligations
