import N0te.Sessions.SessionCalls

/-!
# Runs of the sessions

Any number of calls on a new store, whatever their interleaving; one that was broken off makes no
statement any more. `session_memory` is what holds of every such run.
-/

set_option autoImplicit false
set_option relaxedAutoImplicit false

namespace N0te.Sessions

open Library Lineage People Evidence SessionDb

/-- Connections to a store, and their calls. -/
abbrev SessionWorld : Type :=
  Labelled SessionOperation SessionDb (Raised LineageErrorClass) SessionAnswer

/-- Something that happens to them. -/
abbrev SessionOccurrence : Type := SharedEvent SessionOperation (Raised LineageErrorClass)

def newSessionWorld : SessionWorld := ⟨⟨.empty, []⟩, []⟩

/-- The sessions of a store are in order. -/
structure SessionsInOrder (db : SessionDb) : Prop where
  /-- A song has at most one open session. -/
  oneOpen : ∀ songId, (db.openSessionsOf songId).length ≤ 1
  /-- An item is linked to at most one claim. -/
  oneClaim : ∀ itemId claim other, Linked db itemId claim → Linked db itemId other → claim = other
  requested : ∀ itemId claim, Linked db itemId claim → ∃ request ∈ db.requests,
    request.itemId = itemId ∧ claimFields claim = request.fields

theorem SessionInvariant.inOrder {profile : Profile} {db : SessionDb}
    (h : SessionInvariant profile db) : SessionsInOrder db where
  oneOpen := h.oneOpen
  oneClaim _ _ _ hclaim hother := h.linked_unique hclaim hother
  requested itemId claim hclaim := by
    obtain ⟨hmem, promotion, hpromotion, rfl, hid⟩ := hclaim
    obtain ⟨request, hrequest, hitem, found, hfound, hfoundId, -, hfields⟩ :=
      h.promotions promotion hpromotion
    obtain rfl := h.evidence.eq_of_id hfound hmem (hfoundId.trans hid)
    exact ⟨request, hrequest, hitem, hfields⟩

section

variable (profile : Profile)

/-- What happens next. -/
def stepSessions : SessionWorld → SessionOccurrence → Option SessionWorld :=
  stepLabelled (sessionProgram profile)

/-- What is committed next keeps the items, and adds to open sessions only. -/
def AppendsToOpen (w : SessionWorld) (event : SessionOccurrence) : Prop :=
  ∀ w', stepSessions profile w event = some w' → w.shared.store.items <+: w'.shared.store.items ∧
    ∀ item ∈ w'.shared.store.items, item ∈ w.shared.store.items ∨
      w.shared.store.IsOpen item.sessionId

/-- While a `closeSession` waits for its transaction no other call closes the session. -/
def CloseUndisturbed (w : SessionWorld) (event : SessionOccurrence) : Prop :=
  Undisturbed (fun _ _ _ ↦ True) KeepsOpen (sessionProgram profile) w event

end

section

variable {profile : Profile}

/-- What a call that promotes an item returns. -/
def PromotesLinked (operation : SessionOperation) (_ : Bool)
    (r : Except (Raised LineageErrorClass) SessionAnswer) (db : SessionDb) : Prop :=
  ∀ uuid claimUuid itemId input claim, operation = .promoteItem uuid claimUuid itemId input →
    r = .ok (.claim claim) → Linked db itemId claim

/-- What a call that closes a session returns. -/
def ClosesAsTold (operation : SessionOperation) (_ : Bool)
    (r : Except (Raised LineageErrorClass) SessionAnswer) (db : SessionDb) : Prop :=
  ∀ sessionId debriefSummary nextAction session,
    operation = .closeSession sessionId debriefSummary nextAction → r = .ok (.session session) →
      ClosedWith db sessionId debriefSummary nextAction session

theorem promises_promotesLinked (operation : SessionOperation) (db : SessionDb) :
    Promises profile (fun _ _ ↦ True) (fun _ _ ↦ True) (PromotesLinked operation) false
      (sessionProgram profile operation) db := by
  cases operation with
  | startSession uuid songId objective versionId =>
    exact ((preserves_startSession uuid songId objective versionId).map _).under.mono
      fun _ _ _ _ _ _ _ _ _ ↦ nofun
  | appendScratch uuid sessionId kind body =>
    exact ((preserves_appendScratch uuid sessionId kind body).map _).under.mono
      fun _ _ _ _ _ _ _ _ _ ↦ nofun
  | promoteItem uuid claimUuid itemId input =>
    refine KeepsUnder.map _ ((promises_promoteItem uuid claimUuid itemId input).mono ?_)
    rintro c (e | claim) t hlinked _ _ _ _ _ ⟨⟩ ⟨⟩
    exact hlinked claim rfl
  | closeSession sessionId debriefSummary nextAction =>
    exact ((preserves_closeSession sessionId debriefSummary nextAction).map _).under.mono
      fun _ _ _ _ _ _ _ _ _ ↦ nofun

theorem promises_closesAsTold (operation : SessionOperation) (db : SessionDb) :
    Promises profile (fun _ _ ↦ True) (KeepsOpen operation) (ClosesAsTold operation) false
      (sessionProgram profile operation) db := by
  cases operation with
  | startSession uuid songId objective versionId =>
    exact ((preserves_startSession uuid songId objective versionId).map _).under.mono
      fun _ _ _ _ _ _ _ _ ↦ nofun
  | appendScratch uuid sessionId kind body =>
    exact ((preserves_appendScratch uuid sessionId kind body).map _).under.mono
      fun _ _ _ _ _ _ _ _ ↦ nofun
  | promoteItem uuid claimUuid itemId input =>
    exact KeepsUnder.map _ ((promises_promoteItem uuid claimUuid itemId input).mono
      fun _ _ _ _ _ _ _ _ ↦ nofun)
  | closeSession sessionId debriefSummary nextAction =>
    refine KeepsUnder.map _ ((promises_closeSession sessionId debriefSummary nextAction).mono ?_)
    rintro c (e | session) t hclosed _ _ _ _ ⟨⟩ ⟨⟩
    exact hclosed session rfl

theorem keptUnder_new {relyRead relyWrite : SessionOperation → SessionDb → SessionDb → Prop}
    {post : SessionOperation → Bool → Except (Raised LineageErrorClass) SessionAnswer → SessionDb →
      Prop} :
    newSessionWorld.KeptUnder relyRead relyWrite (SessionInvariant profile) SessionCommit post := by
  refine ⟨invariant_empty, rfl, fun j operation session hoperation ↦ ?_⟩
  simp [newSessionWorld] at hoperation

theorem undisturbed_of_true {w : SessionWorld} {event : SessionOccurrence} :
    Undisturbed (fun _ _ _ ↦ True) (fun _ _ _ ↦ True) (sessionProgram profile) w event := by
  intro w' i _ _ j operation session _ _ _ _
  rcases session with ⟨result | next | ⟨change, next, raised⟩, committed⟩ <;> trivial

/-- In every run on a new store, whatever the interleaving of the calls and wherever they are broken off:
a song has at most one open session, items are appended to open sessions only, an item is linked to at
most one claim, which is the one that was requested, all calls that promote it return this claim, and
one who promotes it again gets it. In every such run where no other call closes the session of a waiting
`closeSession`, what that returns is the session of the store with the texts that it was given. -/
theorem session_memory {events : List SessionOccurrence} {w : SessionWorld}
    (hrun : runEvents (stepSessions profile) newSessionWorld events = some w) :
    SessionsInOrder w.shared.store ∧
    EveryStep (stepSessions profile) (AppendsToOpen profile) newSessionWorld events ∧
    (∀ j uuid claimUuid itemId input claim,
      w.operations[j]? = some (.promoteItem uuid claimUuid itemId input) →
      w.returned j = some (.claim claim) → Linked w.shared.store itemId claim) ∧
    (∀ uuid claimUuid itemId input fields,
      Asks profile w.shared.store uuid claimUuid itemId input fields →
      ∃ claim after, (promoteItem profile uuid claimUuid itemId input).alone w.shared.store =
        (.ok claim, after) ∧ Linked after itemId claim ∧
          ∀ other, Linked w.shared.store itemId other → claim = other) ∧
    (EveryStep (stepSessions profile) (CloseUndisturbed profile) newSessionWorld events →
      ∀ j sessionId debriefSummary nextAction session,
        w.operations[j]? = some (.closeSession sessionId debriefSummary nextAction) →
        w.returned j = some (.session session) →
          ClosedWith w.shared.store sessionId debriefSummary nextAction session) := by
  have hquiet : EveryStep (stepSessions profile) (Undisturbed (fun _ _ _ ↦ True) (fun _ _ _ ↦ True)
      (sessionProgram profile)) newSessionWorld events :=
    everyStep_of_invariant (fun _ _ _ (_ : True) _ ↦ trivial) (fun _ _ _ ↦ undisturbed_of_true)
      trivial _
  have hpromises := fun operation db (_ : SessionInvariant profile db) ↦
    @promises_promotesLinked profile operation db
  obtain ⟨-, hkept⟩ := keptUnder_of_run hpromises keptUnder_new hquiet hrun
  refine ⟨hkept.store.inOrder, ?_, ?_, fun _ _ _ _ _ hasks ↦ alone_promoteItem hkept.store hasks, ?_⟩
  · refine (everyStep_commits hpromises keptUnder_new hquiet).mono fun u event hcommits u' hstep ↦ ?_
    rcases (Relation.reflGen_iff _ _ _).mp (hcommits u' hstep) with hsame | hcommit
    · rw [hsame]
      exact ⟨List.prefix_rfl, fun _ h ↦ .inl h⟩
    · exact ⟨hcommit.items, hcommit.appended⟩
  · intro j uuid claimUuid itemId input claim hoperation hreturned
    obtain ⟨s, committed, hcommits, hlinked⟩ := hkept.returned hoperation hreturned
    exact (hlinked uuid claimUuid itemId input claim rfl rfl).of_lasting (lasting_of_commits hcommits)
  · intro hundisturbed j sessionId debriefSummary nextAction session hoperation hreturned
    obtain ⟨-, hkept⟩ := keptUnder_of_run
      (fun operation db _ ↦ @promises_closesAsTold profile operation db) keptUnder_new
      hundisturbed hrun
    obtain ⟨s, committed, hcommits, hclosed⟩ := hkept.returned hoperation hreturned
    exact (hclosed sessionId debriefSummary nextAction session rfl rfl).of_lasting
      (lasting_of_commits hcommits)

end

/-! ### Two runs -/

def sampleProfile : Profile where
  profileId := newId "prf" (uuidEnding 0)
  primaryArtistId := newId "art" (uuidEnding 1)
  songs := [⟨newId "song" (uuidEnding 2), newId "art" (uuidEnding 1), "song", none, none⟩]
  people := []
  versions := []
  songs_created := Profile.ofSong.songs_created
  people_created := Profile.ofSong.people_created
  versions_created := Profile.ofSong.versions_created
  version_ids := List.nodup_nil

def sampleSession : String := newId "sess" (uuidEnding 3)

def startedEvents : List SessionOccurrence :=
  [.start (.startSession (uuidEnding 3) (newId "song" (uuidEnding 2)) "mix" none), .advance 0,
    .advance 0]

/-- It is closed twice, one after the other. -/
def undisturbedEvents : List SessionOccurrence :=
  startedEvents ++ [.start (.closeSession sampleSession "done" "master"), .advance 1, .advance 1,
    .advance 1, .start (.closeSession sampleSession "stuck" "sleep"), .advance 2]

/-- Two calls that close it check it before either makes its transaction. -/
def disturbedEvents : List SessionOccurrence :=
  startedEvents ++ [.start (.closeSession sampleSession "done" "master"), .advance 1,
    .start (.closeSession sampleSession "stuck" "sleep"), .advance 2, .advance 1, .advance 2,
    .advance 2]

/-- The session of the runs, once it is closed. -/
def closedSession : SongSession :=
  ⟨sampleSession, newId "art" (uuidEnding 1), newId "song" (uuidEnding 2), none, "mix", .closed,
    some "done", some "master"⟩

/-- The call that closes the session second returns it with the texts of the first. -/
theorem closed_by_another : ∃ w,
    runEvents (stepSessions sampleProfile) newSessionWorld disturbedEvents = some w ∧
    w.operations[2]? = some (.closeSession sampleSession "stuck" "sleep") ∧
    w.returned 2 = some (.session closedSession) ∧ w.shared.store.sessions = [closedSession] := by
  have hruns : (runEvents (stepSessions sampleProfile) newSessionWorld disturbedEvents).map
      (fun w ↦ decide (w.returned 2 = some (.session closedSession) ∧
        w.shared.store.sessions = [closedSession])) = some true := by
    decide +kernel
  obtain ⟨w, hrun, hstate⟩ := Option.map_eq_some_iff.mp hruns
  refine ⟨w, hrun, ?_, of_decide_eq_true hstate⟩
  rw [operations_of_runLabelled hrun]
  rfl

/-- In the run where the calls are made one after another the first one closes the session, as it was
told. -/
theorem sample_session_memory : ∃ w,
    runEvents (stepSessions sampleProfile) newSessionWorld undisturbedEvents = some w ∧
    SessionsInOrder w.shared.store ∧
    EveryStep (stepSessions sampleProfile) (AppendsToOpen sampleProfile) newSessionWorld
      undisturbedEvents ∧
    ClosedWith w.shared.store sampleSession "done" "master" closedSession := by
  have hruns : (runEvents (stepSessions sampleProfile) newSessionWorld undisturbedEvents).map
      (fun w ↦ decide (w.returned 1 = some (.session closedSession))) = some true := by
    decide +kernel
  have hsolo : checkSteps (stepSessions sampleProfile) soloStep newSessionWorld undisturbedEvents =
      true := by
    decide +kernel
  obtain ⟨w, hrun, hstate⟩ := Option.map_eq_some_iff.mp hruns
  have hoperation : w.operations[1]? = some (.closeSession sampleSession "done" "master") := by
    rw [operations_of_runLabelled hrun]
    rfl
  obtain ⟨horder, happends, -, -, hclosed⟩ := session_memory hrun
  refine ⟨w, hrun, horder, happends, hclosed ?_ 1 _ _ _ _ hoperation (of_decide_eq_true hstate)⟩
  exact (everyStep_of_checkSteps hsolo).mono fun _ _ hstep ↦ undisturbed_of_solo hstep

end N0te.Sessions
