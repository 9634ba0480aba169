import N0te.Library.Runs
import N0te.Musical.Clearance

/-!
# The studio

Everything that can happen around the musical transactions of one profile, one call after another: the
artist selects another song or version and the host is observed again, the lineage grows, operations are
prepared, claimed and ended by anybody, transactions are run by anybody, and `prepare` and `run` are
called with any plans, compilations, approvals and drivers. A run may stop anywhere.

A `Studio` remembers what no table records: for what an operation was claimed, and what every call of
`run` did. `Sound` is the invariant, and `sound_of_run` says that it holds in every studio that can be
reached.

Scope. Calls do not overlap. A call of `prepare` that stops in the middle is a preparation followed by
nothing or by a claim, which are events of their own.
-/

set_option autoImplicit false
set_option relaxedAutoImplicit false

namespace N0te.Musical

open Library Governance Journal

/-! ### States and events -/

/-- What an operation was claimed for. -/
structure Claim where
  operationId : String
  intent : ActionIntent
  approval : ApprovalBinding

/-- A call of `run` and what it did. -/
structure Performance (rt : Runtime) where
  scene : Scene
  before : Store
  request : Execution rt
  trace : List Entry
  /-- How the call ended, if it did. -/
  outcome : Option (Checked TransactionResult)

/-- The operation of a call. -/
def Performance.operationId {rt : Runtime} (p : Performance rt) : String :=
  p.request.prepared.transactionPlan.operationId.val

/-- The state of the studio. -/
structure Studio (rt : Runtime) where
  scene : Scene
  store : Store
  /-- Every claim that succeeded. -/
  claims : List Claim
  /-- Every call of `run`. -/
  performances : List (Performance rt)

/-- What can happen. -/
inductive StudioEvent (rt : Runtime) where
  /-- The active song, its current version and the workspaces change. -/
  | look (scene : Scene)
  /-- Songs and versions are added. -/
  | growLineage (songs : List String) (versions : List (String × String))
  /-- A call of `prepare`. -/
  | prepare (request : Preparation) (newId : Text)
  /-- A call of `run`, and where it stops if it stops. -/
  | run (request : Execution rt) (cut : Option ℕ)
  /-- A call of the journal's `prepare`. -/
  | prepareOperation (request : PrepareRequest) (newId : Text)
  /-- A call of `claim_execution`. -/
  | claimExecution (request : ClaimRequest)
  /-- A call of `complete_success`, `complete_failure` or `mark_unknown`. -/
  | recordTerminal (operationId : String) (outcome : Outcome) (refs : OutcomeRefs)
  /-- A call of `reconcile_unknown`. -/
  | reconcileUnknown (operationId observedOutcome : String) (refs : OutcomeRefs)
  /-- A call of the coordinator, and where it stops if it stops. -/
  | coordinate (plan : TransactionPlan) (driver : Driver) (cut : Option ℕ)

/-- The claim of a call that returned. -/
def claimOf {α ε : Type} (r : Except ε α) (claim : α → Claim) : List Claim :=
  match r with
  | .ok a => [claim a]
  | .error _ => []

/-- The studio after an event, if it can happen. -/
def studioStep (rt : Runtime) (w : Studio rt) : StudioEvent rt → Option (Studio rt)
  | .look scene => some { w with scene := scene }
  | .growLineage songs versions =>
    if w.store.songs ⊆ songs ∧ w.store.versions ⊆ versions then
      some { w with store := { w.store with songs := songs, versions := versions } }
    else none
  | .prepare request newId => some { w with
      store := (exec (Musical.prepare rt w.scene request newId.val) w.store).2
      claims := w.claims ++ claimOf (exec (claimOperation rt w.scene request newId.val) w.store).1
        fun claimed ↦ ⟨claimed.operation.id, claimed.intent, request.approval⟩ }
  | .run request cut =>
    let r := exec (Musical.run rt w.scene request) ⟨w.store, []⟩
    let left := stopped w.store r.2 cut
    some { w with
      store := left.store
      performances := w.performances ++
        [⟨w.scene, w.store, request, left.trace, if cut = none then some r.1 else none⟩] }
  | .prepareOperation request newId =>
    some { w with store := (exec (Journal.prepare rt request newId.val) w.store).2 }
  | .claimExecution request => some { w with
      store := (exec (Journal.claimExecution rt request) w.store).2
      claims := w.claims ++ claimOf (exec (Journal.claimExecution rt request) w.store).1
        fun _ ↦ ⟨request.operationId, request.intent, request.approval⟩ }
  | .recordTerminal operationId outcome refs =>
    some { w with store := (exec (Journal.recordTerminal operationId outcome refs) w.store).2 }
  | .reconcileUnknown operationId observedOutcome refs => some { w with
      store := (exec (Journal.reconcileUnknown operationId observedOutcome refs) w.store).2 }
  | .coordinate plan driver cut => some { w with
      store := (stopped w.store (exec (Journal.run rt plan driver) ⟨w.store, []⟩).2 cut).store }

/-- A new profile: nothing was ever prepared. Assumes: the profile has an id. -/
structure Studio.Initial {rt : Runtime} (w : Studio rt) : Prop where
  profile : ∃ profileId : Text, profileId.val = w.store.profileId
  operations : w.store.operations = []
  /-- Nothing happened to any. -/
  operationEvents : w.store.operationEvents = []
  transactions : w.store.transactions = []
  transactionSteps : w.store.transactionSteps = []
  /-- Nothing happened to any. -/
  transactionEvents : w.store.transactionEvents = []
  /-- Nothing was claimed. -/
  claims : w.claims = []
  /-- Nothing was run. -/
  performances : w.performances = []

/-! ### The invariant -/

/-- Every claimed operation was claimed for an intent with a valid approval, which it carries out. -/
def ClaimsBacked (rt : Runtime) (claims : List Claim) (s : Store) : Prop :=
  ∀ event ∈ s.operationEvents, event.eventType = .executionClaimed →
    ∃ claim ∈ claims, claim.operationId = event.operationId ∧
      validateApproval rt claim.intent claim.approval = .valid ∧
      ∃ row ∈ s.operations, row.id = event.operationId ∧
        row.intentFingerprint = claim.intent.intentFingerprint rt ∧
        row.approvalId = claim.approval.approvalId.val ∧
        row.approvalSourceRef = claim.approval.sourceRef.val

/-- A recorded call did what it was asked to, in a store whose claims are backed. -/
structure Recorded (rt : Runtime) (claims : List Claim) (p : Performance rt) : Prop where
  /-- It did what the run does, up to where it stopped. -/
  trace : ∃ cut, p.trace =
    (stopped p.before (exec (run rt p.scene p.request) ⟨p.before, []⟩).2 cut).trace
  /-- It stopped nowhere when it ended. -/
  ended : ∀ r ∈ p.outcome, (r, p.trace) = ((exec (run rt p.scene p.request) ⟨p.before, []⟩).1,
    (exec (run rt p.scene p.request) ⟨p.before, []⟩).2.trace)
  /-- The store was lawful. -/
  lawful : Lawful p.before
  /-- Its tables kept their references. -/
  referential : Referential p.before
  backed : ClaimsBacked rt claims p.before

/-- The host driver may have been called. -/
def Performance.Called {rt : Runtime} (p : Performance rt) : Prop := p.trace ≠ []

/-- What is true of every studio that can be reached. -/
structure Sound {rt : Runtime} (w : Studio rt) : Prop where
  /-- The operation journal is lawful. -/
  lawful : Lawful w.store
  /-- The transaction tables keep their references. -/
  referential : Referential w.store
  profile : ∃ profileId : Text, profileId.val = w.store.profileId
  ids : ∀ row ∈ w.store.operations, ∃ operationId : Text, operationId.val = row.id
  backed : ClaimsBacked rt w.claims w.store
  /-- Calls are recorded as they were. -/
  recorded : ∀ p ∈ w.performances, Recorded rt w.claims p
  /-- A run that did anything has registered its operation. -/
  registered : ∀ p ∈ w.performances, p.Called →
    ∃ row ∈ w.store.transactions, row.operationId = p.operationId
  /-- No two runs that did anything have the same operation. -/
  distinct : w.performances.Pairwise fun p q ↦ p.Called → q.Called → p.operationId ≠ q.operationId

/-! ### Claims stay backed -/

namespace ClaimsBacked

variable {rt : Runtime} {claims more : List Claim} {s : Store}

theorem mono (h : ClaimsBacked rt claims s) : ClaimsBacked rt (claims ++ more) s := by
  intro event hevent htype
  obtain ⟨claim, hclaim, hbacked⟩ := h event hevent htype
  exact ⟨claim, List.mem_append_left _ hclaim, hbacked⟩

theorem addOperation (h : ClaimsBacked rt claims s) (row : OperationRow) :
    ClaimsBacked rt claims (s.addOperation row) := by
  intro event hevent htype
  rcases List.mem_append.mp hevent with hold | hnew
  · obtain ⟨claim, hclaim, hid, hvalid, owner, howner, hbacked⟩ := h event hold htype
    exact ⟨claim, hclaim, hid, hvalid, owner, List.mem_append_left _ howner, hbacked⟩
  · rw [List.mem_singleton.mp hnew] at htype
    cases htype

theorem addOther (h : ClaimsBacked rt claims s) {event : OperationEvent}
    (hevent : event.eventType ≠ .executionClaimed) :
    ClaimsBacked rt claims (s.addOperationEvent event) := by
  intro other hother htype
  rcases List.mem_append.mp hother with hold | hnew
  · exact h other hold htype
  · rw [List.mem_singleton.mp hnew] at htype
    exact absurd htype hevent

/-- A claim that is remembered is backed. -/
theorem addClaim (h : ClaimsBacked rt claims s) {claim : Claim} {evidence : String}
    (hvalid : validateApproval rt claim.intent claim.approval = .valid)
    (hrow : ∃ row ∈ s.operations, row.id = claim.operationId ∧
      row.intentFingerprint = claim.intent.intentFingerprint rt ∧
      row.approvalId = claim.approval.approvalId.val ∧
      row.approvalSourceRef = claim.approval.sourceRef.val) :
    ClaimsBacked rt (claims ++ [claim])
      (s.addOperationEvent (claimEvent claim.operationId evidence)) := by
  intro event hevent htype
  rcases List.mem_append.mp hevent with hold | hnew
  · exact h.mono event hold htype
  · rw [List.mem_singleton.mp hnew]
    exact ⟨claim, by simp, rfl, hvalid, hrow⟩

theorem of_executing (h : ClaimsBacked rt claims s) {operationId : String} {op : OperationRecord}
    (hlawful : Lawful s) (hop : getOperation s operationId = .ok op)
    (hstate : op.recordedState = .executing) :
    ∃ claim ∈ claims, claim.operationId = operationId ∧
      validateApproval rt claim.intent claim.approval = .valid ∧
      op.intentFingerprint = claim.intent.intentFingerprint rt ∧
      op.approvalId = claim.approval.approvalId.val ∧
      op.approvalSourceRef = claim.approval.sourceRef.val := by
  obtain ⟨hmem, hid, d, hlegal, hd, -⟩ := getOperation_spec hop
  rw [hstate] at hd
  have hclaimed : .executionClaimed ∈
      (s.operationEventsOf operationId).map OperationEvent.eventType := by
    generalize (s.operationEventsOf operationId).map OperationEvent.eventType = kinds at hlegal
    cases hlegal with
    | claimed => simp
    | ended outcome => cases outcome <;> cases hd
    | _ => cases hd
  obtain ⟨event, hevent, htype⟩ := List.mem_map.mp hclaimed
  obtain ⟨hevent, heventId⟩ := List.mem_filter.mp hevent
  obtain ⟨claim, hclaim, hclaimId, hvalid, row, hrow, hrowId, hbacked⟩ := h event hevent htype
  have heventId : event.operationId = operationId := by simpa using heventId
  have hsame : row = op.toOperationRow :=
    List.inj_on_of_nodup_map hlawful.ids hrow hmem (hrowId.trans (heventId.trans hid.symm))
  rw [hsame] at hbacked
  exact ⟨claim, hclaim, hclaimId.trans heventId, hvalid, hbacked⟩

end ClaimsBacked

/-! ### Programs that only write to the operation journal -/

section

variable {rt : Runtime} {s t : Store}

/-- The transaction tables and the profile are the same. -/
structure SameTransactions (s t : Store) : Prop where
  profileId : t.profileId = s.profileId
  transactions : t.transactions = s.transactions
  transactionSteps : t.transactionSteps = s.transactionSteps
  transactionEvents : t.transactionEvents = s.transactionEvents

theorem SameTransactions.refl (s : Store) : SameTransactions s s := ⟨rfl, rfl, rfl, rfl⟩

theorem SameTransactions.referential (h : SameTransactions s t) (hs : Referential s) :
    Referential t := by
  obtain ⟨hids, hsteps, hevents⟩ := hs
  constructor
  · rw [h.transactions]
    exact hids
  · rw [h.transactions, h.transactionSteps]
    exact hsteps
  · rw [h.transactions, h.transactionEvents]
    exact hevents

theorem AtMostPrepared.same {newId : String} (h : AtMostPrepared newId s t) :
    SameTransactions s t := by
  rcases h with rfl | ⟨row, rfl, -, -⟩
  · exact .refl _
  · exact ⟨rfl, rfl, rfl, rfl⟩

theorem AtMostPrepared.lawful {newId : String} (h : AtMostPrepared newId s t) (hs : Lawful s) :
    Lawful t := by
  rcases h with rfl | ⟨row, rfl, hrow, -⟩
  · exact hs
  · exact hs.addOperation hrow

theorem AtMostPrepared.ids {newId : Text} (h : AtMostPrepared newId.val s t)
    (hs : ∀ row ∈ s.operations, ∃ operationId : Text, operationId.val = row.id) :
    ∀ row ∈ t.operations, ∃ operationId : Text, operationId.val = row.id := by
  rcases h with rfl | ⟨row, rfl, -, hid⟩
  · exact hs
  · intro other hother
    rcases List.mem_append.mp hother with hold | hnew
    · exact hs other hold
    · rw [List.mem_singleton.mp hnew]
      exact ⟨newId, hid.symm⟩

theorem AtMostPrepared.backed {newId : String} {claims : List Claim} (h : AtMostPrepared newId s t)
    (hs : ClaimsBacked rt claims s) : ClaimsBacked rt claims t := by
  rcases h with rfl | ⟨row, rfl, -, -⟩
  · exact hs
  · exact hs.addOperation row

/-- A program keeps every store lawful and only adds rows, whatever its outcome. -/
def MusicalKeeps {α : Type} (p : MusicalProgram α) : Prop :=
  ∀ base, Ensures (Kept base) p fun _ ↦ Kept base

namespace MusicalKeeps

variable {α β : Type}

theorem bind {p : MusicalProgram α} {k : α → MusicalProgram β} (hp : MusicalKeeps p)
    (hk : ∀ a, MusicalKeeps (k a)) : MusicalKeeps (p >>= k) := fun base ↦
  (hp base).bind (fun a ↦ hk a base) fun _ _ h ↦ h

theorem fromExcept (r : Checked α) : MusicalKeeps (Library.fromExcept r) := by
  intro base s hs
  rw [exec_fromExcept]
  exact hs

theorem raisingAs {p : StoreProgram α} (hp : Keeps p) :
    MusicalKeeps (Library.raisingAs ofJournal p) := fun base s hs ↦ hp base s hs

end MusicalKeeps

theorem keeps_claimOperation (rt : Runtime) (scene : Scene) (request : Preparation)
    (newId : String) : MusicalKeeps (claimOperation rt scene request newId) :=
  .bind (.fromExcept _) fun _ ↦ .bind (.fromExcept _) fun _ ↦ .bind (.fromExcept _) fun _ ↦
    .bind (.fromExcept _) fun _ ↦ .bind (.fromExcept _) fun _ ↦
      .bind (.raisingAs (keeps_prepare _ _ _)) fun _ ↦ .bind (.fromExcept _) fun _ ↦
        .bind (.raisingAs (keeps_claimExecution _ _)) fun _ ↦ .fromExcept (.ok _)

end

/-! ### Every event keeps the studio sound -/

section

variable {rt : Runtime} {w : Studio rt} {t : Store} {more : List Claim}

/-- An event that only writes to the operation journal keeps the studio sound. -/
theorem Sound.journal (h : Sound w) (hlawful : Lawful t) (hsame : SameTransactions w.store t)
    (hids : ∀ row ∈ t.operations, ∃ operationId : Text, operationId.val = row.id)
    (hbacked : ClaimsBacked rt (w.claims ++ more) t) :
    Sound { w with store := t, claims := w.claims ++ more } where
  lawful := hlawful
  referential := hsame.referential h.referential
  profile := by
    rw [hsame.profileId]
    exact h.profile
  ids := hids
  backed := hbacked
  recorded p hp :=
    have hp := h.recorded p hp
    { hp with backed := hp.backed.mono }
  registered p hp hcalled := by
    rw [hsame.transactions]
    exact h.registered p hp hcalled
  distinct := h.distinct

/-- A call of `prepare` keeps the studio sound.
Assumes: digests are words. -/
theorem Sound.prepare (hrt : WordDigests rt) (h : Sound w) (request : Preparation) (newId : Text) :
    Sound { w with
      store := (exec (Musical.prepare rt w.scene request newId.val) w.store).2
      claims := w.claims ++ claimOf (exec (claimOperation rt w.scene request newId.val) w.store).1
        fun claimed ↦ ⟨claimed.operation.id, claimed.intent, request.approval⟩ } := by
  obtain ⟨profileId, hprofile⟩ := h.profile
  have hkept := keeps_claimOperation rt w.scene request newId.val w.store w.store
    ⟨h.lawful, .refl _⟩
  rcases @prepare_cases rt w.scene request profileId w.store hrt h.lawful newId h.ids
    hprofile.symm with ⟨prepared, claimed, middle, evidence, hmiddle, hrun, hclaim, hfor⟩ |
      ⟨e, t, hrun, hclaim, hmost⟩
  · rw [hclaim] at hkept
    rw [hrun, hclaim]
    obtain ⟨hstored, -, -⟩ := getOperation_spec hfor.reads
    refine h.journal hkept.1 ?_ (hmiddle.ids h.ids) ((hmiddle.backed h.backed).addClaim hfor.valid
      ⟨_, hstored, rfl, hfor.identity⟩)
    exact ⟨hmiddle.same.profileId, hmiddle.same.transactions, hmiddle.same.transactionSteps,
      hmiddle.same.transactionEvents⟩
  · rw [hrun, hclaim]
    exact h.journal (hmost.lawful h.lawful) hmost.same (hmost.ids h.ids) (hmost.backed h.backed).mono

/-- A call of the journal's `prepare` keeps the studio sound. -/
theorem Sound.prepareOperation (h : Sound w) (request : PrepareRequest) (newId : Text) :
    Sound { w with store := (exec (Journal.prepare rt request newId.val) w.store).2 } := by
  have hmost : AtMostPrepared newId.val w.store
      (exec (Journal.prepare rt request newId.val) w.store).2 := by
    rcases Journal.prepare_cases h.lawful rt request newId.val with
      ⟨row, op, t, hrun, hidentity, hprepared⟩ | ⟨e, hrun⟩
    · rw [hrun]
      exact hprepared.store.imp_right fun hadded ↦
        ⟨row, hadded.1, hadded.2, (prepareIdentity_spec hidentity).1⟩
    · rw [hrun]
      exact .inl rfl
  have hsound := h.journal (hmost.lawful h.lawful) hmost.same (hmost.ids h.ids)
    (@ClaimsBacked.mono rt w.claims [] _ (hmost.backed h.backed))
  rwa [List.append_nil] at hsound

/-- A claim keeps the studio sound. -/
theorem Sound.claimExecution (h : Sound w) (request : ClaimRequest) : Sound { w with
    store := (exec (Journal.claimExecution rt request) w.store).2
    claims := w.claims ++ claimOf (exec (Journal.claimExecution rt request) w.store).1
      fun _ ↦ ⟨request.operationId, request.intent, request.approval⟩ } := by
  have hlawful := ((keeps_claimExecution rt request).exec h.lawful).1
  rcases claimExecution_cases rt request w.store with
    ⟨op, evidence, hrun, hchecks, -, -⟩ | ⟨e, hrun⟩
  · rw [hrun] at hlawful ⊢
    simp only [claimChecks, bind_eq_ok, require_eq_ok] at hchecks
    obtain ⟨before, hbefore, _, hvalid, _, hidentity, -⟩ := hchecks
    obtain ⟨hstored, hid, -⟩ := getOperation_spec hbefore
    exact h.journal hlawful ⟨rfl, rfl, rfl, rfl⟩ h.ids
      (h.backed.addClaim (require_eq_ok.mp hvalid) ⟨_, hstored, hid, hidentity⟩)
  · rw [hrun] at hlawful ⊢
    exact h.journal hlawful (.refl _) h.ids h.backed.mono

/-- An event of an operation that is no claim keeps the studio sound. -/
theorem Sound.other (h : Sound w) (hlawful : Lawful t) (ht : t = w.store ∨ ∃ event,
    t = w.store.addOperationEvent event ∧ event.eventType ≠ .executionClaimed) :
    Sound { w with store := t } := by
  have hsound : Sound { w with store := t, claims := w.claims ++ [] } := by
    rcases ht with rfl | ⟨event, rfl, htype⟩
    · exact h.journal hlawful (.refl _) h.ids h.backed.mono
    · exact h.journal hlawful ⟨rfl, rfl, rfl, rfl⟩ h.ids (h.backed.addOther htype).mono
  rwa [List.append_nil] at hsound

/-- What a run left of a store: nothing new, or what its story wrote up to some point. -/
def LeftBy (rt : Runtime) (plan : TransactionPlan) (s : Store) (left : Run) : Prop :=
  Kept s left.store ∧ (left = ⟨s, []⟩ ∨ ∃ driver, Begun plan driver rt s left)

/-- Assumes: digests are words, and the store is lawful and keeps the references of its tables. -/
theorem leftBy_stopped (hrt : WordDigests rt) {s : Store} (hlawful : Lawful s)
    (hreferential : Referential s) (plan : TransactionPlan) (driver : Driver) (cut : Option ℕ) :
    LeftBy rt plan s (stopped s (exec (Journal.run rt plan driver) ⟨s, []⟩).2 cut) :=
  ⟨kept_stopped driver hrt.sqlNonblank_digest hreferential hlawful cut,
    (stopped_cases driver hrt.sqlNonblank_digest hreferential cut).imp_right fun h ↦ ⟨driver, h⟩⟩

theorem ClaimsBacked.leftBy {claims : List Claim} {s : Store} {plan : TransactionPlan} {left : Run}
    (h : ClaimsBacked rt claims s) (hleft : LeftBy rt plan s left) :
    ClaimsBacked rt claims left.store := by
  rcases hleft.2 with rfl | ⟨driver, hbegun⟩
  · exact h
  · intro event hevent htype
    rw [hbegun.replayed, operationEvents_replay] at hevent
    rcases List.mem_append.mp hevent with hold | hnew
    · obtain ⟨claim, hclaim, hid, hvalid, row, hrow, hbacked⟩ := h event hold htype
      rw [hbegun.replayed, (operations_replay s _).1]
      exact ⟨claim, hclaim, hid, hvalid, row, hrow, hbacked⟩
    · have houtcome := (outcome_of_story hbegun.story hnew).2
      rw [htype] at houtcome
      cases houtcome

/-- A run keeps the studio sound, wherever it stops. -/
theorem Sound.leftBy (h : Sound w) {plan : TransactionPlan} {left : Run}
    (hleft : LeftBy rt plan w.store left) : Sound { w with store := left.store } := by
  rcases hleft.2 with rfl | ⟨driver, hbegun⟩
  · exact h
  · obtain ⟨hoperations, -, -, hprofile⟩ := operations_replay w.store (writesOf left.trace)
    rw [← hbegun.replayed] at hoperations hprofile
    have hgrown : w.store.transactions ⊆ left.store.transactions ∧ Referential left.store := by
      by_cases hnothing : left.trace = []
      · rw [hbegun.replayed, hnothing]
        exact ⟨List.Subset.refl _, h.referential⟩
      · have hcrashed := crashed_of_initial h.referential hbegun.ready hbegun.story hnothing
        rw [hbegun.replayed]
        refine ⟨?_, hcrashed.keeps_references⟩
        rw [hcrashed.rows.1]
        exact List.subset_append_left _ _
    constructor
    · exact hleft.1.1
    · exact hgrown.2
    · rw [hprofile]
      exact h.profile
    · rw [hoperations]
      exact h.ids
    · exact h.backed.leftBy hleft
    · exact h.recorded
    · intro p hp hcalled
      obtain ⟨row, hrow, hid⟩ := h.registered p hp hcalled
      exact ⟨row, hgrown.1 hrow, hid⟩
    · exact h.distinct

/-- A run that did anything has registered its operation, which was not registered before. -/
theorem registered_leftBy {s : Store} {plan : TransactionPlan} {left : Run}
    (hreferential : Referential s) (hleft : LeftBy rt plan s left) (hdone : left.trace ≠ []) :
    (∃ row ∈ left.store.transactions, row.operationId = plan.operationId.val) ∧
      ∀ row ∈ s.transactions, row.operationId ≠ plan.operationId.val := by
  rcases hleft.2 with rfl | ⟨driver, hbegun⟩
  · exact absurd rfl hdone
  · have hcrashed := crashed_of_initial hreferential hbegun.ready hbegun.story hdone
    constructor
    · rw [hbegun.replayed, hcrashed.rows.1]
      exact ⟨plan.row rt, by simp, rfl⟩
    · exact fun row hrow hid ↦ hbegun.ready.unregistered ⟨row, hrow, .inr hid⟩

/-- A call of `run` leaves what the run of its transaction leaves. -/
theorem leftBy_run (hrt : WordDigests rt) {s : Store} (hlawful : Lawful s)
    (hreferential : Referential s) (scene : Scene) (request : Execution rt) (cut : Option ℕ) :
    LeftBy rt request.prepared.transactionPlan s
      (stopped s (exec (Musical.run rt scene request) ⟨s, []⟩).2 cut) := by
  rcases run_cases rt scene request s with ⟨e, hrun⟩ | ⟨adapter, -, hrun⟩
  · have hnothing : stopped s ⟨s, []⟩ cut = ⟨s, []⟩ := by
      rcases cut with _ | k
      · rfl
      · rw [stopped, List.take_nil]
        rfl
    rw [hrun, hnothing]
    exact ⟨⟨hlawful, .refl s⟩, .inl rfl⟩
  · rw [hrun]
    exact leftBy_stopped hrt hlawful hreferential _ adapter cut

/-- A call of `run` keeps the studio sound, wherever it stops.
Assumes: digests are words. -/
theorem Sound.run (hrt : WordDigests rt) (h : Sound w) (request : Execution rt) (cut : Option ℕ)
    {left : Run} (hstopped : left =
      stopped w.store (exec (Musical.run rt w.scene request) ⟨w.store, []⟩).2 cut) :
    Sound { w with
      store := left.store
      performances := w.performances ++ [⟨w.scene, w.store, request, left.trace,
        if cut = none then some (exec (Musical.run rt w.scene request) ⟨w.store, []⟩).1
        else none⟩] } := by
  have hleft : LeftBy rt request.prepared.transactionPlan w.store left :=
    hstopped ▸ leftBy_run hrt h.lawful h.referential w.scene request cut
  have hsound := h.leftBy hleft
  refine { hsound with recorded := ?_, registered := ?_, distinct := ?_ }
  · refine List.forall_mem_append.mpr ⟨h.recorded, List.forall_mem_singleton.mpr ?_⟩
    refine ⟨⟨cut, by rw [hstopped]⟩, ?_, h.lawful, h.referential, h.backed⟩
    intro r hr
    by_cases hcut : cut = none
    · rw [if_pos hcut] at hr
      subst hcut
      rw [hstopped, ← Option.some.inj hr]
      rfl
    · rw [if_neg hcut] at hr
      cases hr
  · refine List.forall_mem_append.mpr ⟨hsound.registered, List.forall_mem_singleton.mpr ?_⟩
    exact fun hcalled ↦ (registered_leftBy h.referential hleft hcalled).1
  · refine List.pairwise_append.mpr ⟨h.distinct, List.pairwise_singleton _ _, ?_⟩
    intro p hp q hq hcalled hagain heq
    rw [List.mem_singleton.mp hq] at hagain heq
    obtain ⟨row, hrow, hid⟩ := h.registered p hp hcalled
    exact (registered_leftBy h.referential hleft hagain).2 row hrow (hid.trans heq)

/-- Every event keeps the studio sound.
Assumes: digests are words. -/
theorem sound_step (hrt : WordDigests rt) (h : Sound w) {event : StudioEvent rt} {after : Studio rt}
    (hstep : studioStep rt w event = some after) : Sound after := by
  cases event with
  | look scene =>
    cases hstep
    exact { h with }
  | growLineage songs versions =>
    rw [studioStep] at hstep
    split_ifs at hstep with hgrow
    cases hstep
    exact { h with
      lawful := (h.lawful.growLineage hgrow.1 hgrow.2).1
      referential := ⟨h.referential.ids, h.referential.steps, h.referential.events⟩ }
  | prepare request newId =>
    cases hstep
    exact h.prepare hrt request newId
  | run request cut =>
    cases hstep
    exact h.run hrt request cut rfl
  | prepareOperation request newId =>
    cases hstep
    exact h.prepareOperation request newId
  | claimExecution request =>
    cases hstep
    exact h.claimExecution request
  | recordTerminal operationId outcome refs =>
    cases hstep
    refine h.other ((keeps_recordTerminal operationId outcome refs).exec h.lawful).1
      ((store_recordTerminal operationId outcome refs w.store).imp_right ?_)
    rintro ⟨event, hevent, htype⟩
    refine ⟨event, hevent, ?_⟩
    rw [htype]
    cases outcome <;> simp [Outcome.eventType]
  | reconcileUnknown operationId observedOutcome refs =>
    cases hstep
    refine h.other ((keeps_reconcileUnknown operationId observedOutcome refs).exec h.lawful).1
      ((store_reconcileUnknown operationId observedOutcome refs w.store).imp_right ?_)
    rintro ⟨event, hevent, htype⟩
    refine ⟨event, hevent, fun hclaimed ↦ ?_⟩
    rw [hclaimed] at htype
    cases htype
  | coordinate plan driver cut =>
    cases hstep
    exact h.leftBy (leftBy_stopped hrt h.lawful h.referential plan driver cut)

theorem Studio.Initial.sound (h : w.Initial) : Sound w where
  lawful := by
    constructor <;> simp [h.operations, h.operationEvents]
  referential := by
    constructor <;> simp [h.transactions, h.transactionSteps, h.transactionEvents]
  profile := h.profile
  ids := by simp [h.operations]
  backed := by
    intro event hevent
    rw [h.operationEvents] at hevent
    cases hevent
  recorded := by simp [h.performances]
  registered := by simp [h.performances]
  distinct := by simp [h.performances]

/-- Every studio that can be reached is sound.
Assumes: digests are words. -/
theorem sound_of_run (hrt : WordDigests rt) {start : Studio rt} {events : List (StudioEvent rt)}
    (hstart : start.Initial) (hrun : runEvents (studioStep rt) start events = some w) : Sound w :=
  invariant_of_run (fun _ _ _ h _ hstep ↦ sound_step hrt h hstep) hstart.sound
    (everyStep_of_invariant (fun _ _ _ h hstep ↦ sound_step hrt h hstep) (fun _ _ _ ↦ trivial)
      hstart.sound events) hrun

end

end N0te.Musical
