import N0te.Musical.Studio

/-!
# The binding chain of a host call

Whenever a musical transaction calls its driver, everything it was bound to still holds: the operation is
executing (`BoundAt.executing`), the active song and its current version are those of the binding, and
the operation was claimed for exactly the intent that this plan and this compilation come to, under a
valid approval (`BoundAt.approved`). The actions the host is asked to execute are the compiled ones, in
order, each at most once (`Authorized.order`), and no two runs that do anything have the same operation.

Assumes: no two of the texts whose digests are compared have one digest (`CollisionFree`).
-/

set_option autoImplicit false
set_option relaxedAutoImplicit false

namespace N0te.Musical

open Library Governance Journal

/-! ### What a call was bound to -/

/-- Everything a call of the driver relies on, at the moment it is made. -/
structure BoundAt (rt : Runtime) (claims : List Claim) (p : Performance rt) (s : Store) : Prop where
  /-- The operation is executing, with the identity that was bound. -/
  executing : ∃ op, getOperation s p.operationId = .ok op ∧ op.recordedState = .executing ∧
    op.songId = some p.request.prepared.songBinding.songId.val ∧
    op.versionId = p.request.prepared.songBinding.targetVersionId.map Text.val ∧
    op.intentFingerprint = p.request.prepared.intentFingerprint.val ∧
    op.approvalId = p.request.prepared.songBinding.approvalId.val ∧
    op.approvalSourceRef = p.request.prepared.songBinding.approvalSourceRef.val
  /-- The bound song is active, and its current version is the expected one. -/
  song : ∃ active, p.scene.activeSong = some active ∧
    active.id = p.request.prepared.songBinding.songId ∧
    active.currentVersionId = p.request.prepared.songBinding.expectedCurrentVersionId
  /-- The plan and its compilation are those of the witness. -/
  fingerprints : p.request.prepared.planId = p.request.plan.planId ∧
    p.request.prepared.planFingerprint.val = p.request.plan.fingerprint rt ∧
    p.request.prepared.compilationFingerprint.val =
      compilationFingerprint rt p.request.compilation
  /-- The operation was claimed for the intent they come to, under a valid approval. -/
  approved : ∃ claim ∈ claims, claim.operationId = p.operationId ∧
    validateApproval rt claim.intent claim.approval = .valid ∧
    preview rt p.scene p.request.plan p.request.context p.request.compilation = .ok claim.intent ∧
    claim.intent.revisionFingerprint.val = p.request.plan.fingerprint rt ∧
    claim.intent.payloadFingerprint.val = compilationFingerprint rt p.request.compilation ∧
    claim.intent.intentFingerprint rt = p.request.prepared.intentFingerprint.val ∧
    claim.approval.approvalId.val = p.request.prepared.songBinding.approvalId.val ∧
    claim.approval.sourceRef.val = p.request.prepared.songBinding.approvalSourceRef.val

/-- What a run was authorized to do is what it did. -/
structure Authorized (rt : Runtime) (claims : List Claim) (p : Performance rt) : Prop where
  /-- At every call of the driver everything it relies on holds. -/
  bound : ∀ before call after, p.trace = before ++ .call call :: after →
    BoundAt rt claims p (p.before.replay (writesOf before))
  /-- Every call of the adapter reaches the host driver. -/
  reached : ∀ call, .call call ∈ p.trace →
    ∃ reached, hostCall p.request.compilation call = some reached
  /-- The executed actions are the first of the compiled ones, in their order. -/
  order : executedActions p.request.compilation p.trace <+: p.request.compilation.actions
  /-- Each is executed at most once. -/
  once : (executedActions p.request.compilation p.trace).Nodup
  /-- A complete transaction has executed all of them. -/
  complete : ∀ result ∈ p.outcome, ∀ transaction, result = .ok transaction →
    transaction.status = .complete →
      executedActions p.request.compilation p.trace = p.request.compilation.actions

/-- The pairs of texts whose digests are compared: those of the intents an operation was claimed and is
run for, and those of the plans a transaction was prepared and is run with. -/
def Compared {rt : Runtime} (w : Studio rt) (a b : String) : Prop :=
  (∃ claim ∈ w.claims, ∃ p ∈ w.performances, ∃ intent,
    preview rt p.scene p.request.plan p.request.context p.request.compilation = .ok intent ∧
      a = claim.intent.materialFields.dumps ∧ b = intent.materialFields.dumps) ∨
  ∃ p ∈ w.performances, ∃ compiled,
    TransactionPlan.create p.request.prepared.transactionPlan.transactionId.val
        p.request.prepared.transactionPlan.operationId.val
        (p.request.compilation.actions.map stepOf) = .ok compiled ∧
      a = (planMaterial compiled).dumpsAscii ∧
      b = (planMaterial p.request.prepared.transactionPlan).dumpsAscii

/-- No two different texts that are compared have one digest. -/
def CollisionFree {rt : Runtime} (w : Studio rt) : Prop :=
  ∀ a b, Compared w a b → rt.sha256 a = rt.sha256 b → a = b

/-! ### What the checks establish -/

section

variable {rt : Runtime} {scene : Scene}

/-- The intent of a plan and a compilation carries their fingerprints.
Assumes: digests are words. -/
theorem preview_spec (hrt : WordDigests rt) {plan : MusicalPlan} {context : FocusContext}
    {compilation : HostCompilation} {intent : ActionIntent}
    (h : preview rt scene plan context compilation = .ok intent) :
    intent.revisionFingerprint.val = plan.fingerprint rt ∧
      intent.payloadFingerprint.val = compilationFingerprint rt compilation := by
  simp only [preview, bind_eq_ok] at h
  obtain ⟨_, -, compiled, hpair, hintent⟩ := h
  have hcompiled : compilationFingerprint rt compilation = compiled := by
    simp only [validatePair, bind_eq_ok, pure_eq_ok] at hpair
    obtain ⟨_, -, _, -, _, -, _, -, hpair⟩ := hpair
    exact hpair
  rcases hcreate : ActionIntent.create ("musical-plan:" ++ plan.planId.val)
    ("produce:" ++ plan.songId.val) "REVERSIBLE" plan.desiredChange.val
    ("song:" ++ plan.songId.val ++ "/musical-plan:" ++ plan.planId.val) (plan.fingerprint rt)
    compiled none none [] with e | created
  · rw [hcreate] at hintent
    cases hintent
  · rw [hcreate] at hintent
    cases hintent
    simp only [ActionIntent.create, bind_eq_ok, authorityText, orRaise_eq_ok,
      Text.ofString_eq_some] at hcreate
    obtain ⟨_, -, _, -, _, -, _, -, _, -, revision, ⟨hrevision, -⟩, payload, ⟨hpayload, -⟩, _, -,
      _, -, hcreate⟩ := hcreate
    split_ifs at hcreate
    · simp only [bind_eq_ok, pure_eq_ok] at hcreate
      obtain ⟨_, -, rfl⟩ := hcreate
      rw [hcompiled]
      exact ⟨hrevision.symm.trans (hrt.strip_digest _),
        hpayload.symm.trans (hcompiled ▸ hrt.strip_digest _)⟩

/-- What the check of a binding says about the operation and the active song. -/
theorem binding_spec {binding : SongTransactionBinding} {plan : TransactionPlan} {s : Store}
    (h : validateExecutionBinding rt scene binding plan s = .ok ()) :
    (∃ op, getOperation s binding.operationId.val = .ok op ∧ op.recordedState = .executing ∧
      op.songId = some binding.songId.val ∧
      op.versionId = binding.targetVersionId.map Text.val ∧
      op.intentFingerprint = binding.intentFingerprint.val ∧
      op.approvalId = binding.approvalId.val ∧
      op.approvalSourceRef = binding.approvalSourceRef.val) ∧
    ∃ active, scene.activeSong = some active ∧ active.id = binding.songId ∧
      active.currentVersionId = binding.expectedCurrentVersionId := by
  simp only [validateExecutionBinding, bind_eq_ok, require_eq_ok, asJournal_eq_ok] at h
  obtain ⟨_, -, _, -, op, hop, _, hstate, _, hidentity, active, hactive, hversion⟩ := h
  simp only [activeSongFor, bind_eq_ok, orRaise_eq_ok, require_eq_ok, pure_eq_ok] at hactive
  obtain ⟨_, hsome, _, hid, rfl⟩ := hactive
  exact ⟨⟨op, hop, hstate, hidentity⟩, _, hsome, Text.ext hid, hversion⟩

/-- What the check of a witness says about the plan and its compilation. -/
theorem prepared_spec {request : Execution rt} (h : validatePrepared rt scene request = .ok ()) :
    (request.prepared.planId = request.plan.planId ∧
      request.prepared.planFingerprint.val = request.plan.fingerprint rt ∧
      request.prepared.compilationFingerprint.val =
        compilationFingerprint rt request.compilation) ∧
    (∃ intent, preview rt scene request.plan request.context request.compilation = .ok intent ∧
      request.prepared.intentFingerprint.val = intent.intentFingerprint rt) ∧
    ∃ compiled, TransactionPlan.create request.prepared.transactionPlan.transactionId.val
        request.prepared.transactionPlan.operationId.val
        (request.compilation.actions.map stepOf) = .ok compiled ∧
      compiled.planFingerprint rt = request.prepared.transactionPlan.planFingerprint rt := by
  simp only [validatePrepared, bind_eq_ok, require_eq_ok, asJournal_eq_ok, compiledSteps_eq] at h
  obtain ⟨intent, hpreview, _, ⟨hid, hplan, hcompilation, hintent⟩, steps, hsteps, compiled,
    hcompiled, hfingerprint⟩ := h
  cases hsteps
  exact ⟨⟨hid, hplan, hcompilation⟩, ⟨intent, hpreview, hintent⟩, compiled, hcompiled, hfingerprint⟩

/-- The steps of a created plan are those it was created with. -/
theorem steps_of_create {transactionId operationId : String} {steps : List TransactionStep}
    {plan : TransactionPlan} (h : TransactionPlan.create transactionId operationId steps = .ok plan) :
    plan.steps = steps := by
  simp only [TransactionPlan.create, bind_eq_ok] at h
  obtain ⟨_, -, _, -, h⟩ := h
  split_ifs at h
  split at h
  · cases h
  · cases h
    rfl

/-! ### Recorded calls -/

variable {claims : List Claim} {p : Performance rt}

/-- A call that did anything was cleared, and did its story up to some point.
Assumes: digests are words. -/
theorem Recorded.begun (hrt : WordDigests rt) (h : Recorded rt claims p) (hcalled : p.Called) :
    ∃ adapter, Cleared rt p.scene p.request p.before adapter ∧
      Ready p.request.prepared.transactionPlan p.before ∧
      p.trace <+: p.request.prepared.transactionPlan.story adapter rt ∧
      ∀ result ∈ p.outcome, ∀ transaction, result = .ok transaction →
        transaction.status = .complete →
          p.trace = p.request.prepared.transactionPlan.story adapter rt ∧
            p.request.prepared.transactionPlan.storyStatus adapter = .complete := by
  obtain ⟨cut, htrace⟩ := h.trace
  have hended := h.ended
  rcases run_cases rt p.scene p.request p.before with ⟨e, hrun⟩ | ⟨adapter, hcleared, hrun⟩
  · rw [hrun] at htrace
    refine absurd (htrace.trans ?_) hcalled
    rcases cut with _ | k
    · rfl
    · exact List.take_nil
  · rw [hrun] at htrace hended
    rcases @Journal.run_cases p.request.prepared.transactionPlan rt p.before adapter
      hrt.sqlNonblank_digest h.referential with ⟨e, hrefused⟩ | ⟨hready, outcome, done, hdone, hstory,
        hreturned⟩
    · rw [hrefused] at htrace
      refine absurd (htrace.trans ?_) hcalled
      rcases cut with _ | k
      · rfl
      · exact List.take_nil
    · rw [hdone] at htrace hended
      refine ⟨adapter, hcleared, hready, ?_, ?_⟩
      · rw [htrace]
        rcases cut with _ | k
        · exact hstory
        · exact (List.take_prefix _ _).trans hstory
      · intro result hresult transaction hok hcomplete
        obtain ⟨hsame, hdone⟩ := Prod.mk.inj (hended result hresult)
        rw [hok] at hsame
        rcases outcome with e | returned
        · cases hsame
        · cases hsame
          obtain ⟨hall, hstatus⟩ := hreturned _ rfl
          exact ⟨hdone.trans hall, hstatus.symm.trans hcomplete⟩

/-- A call that returned did something.
Assumes: digests are words. -/
theorem Recorded.called (hrt : WordDigests rt) (h : Recorded rt claims p)
    {transaction : TransactionResult} (hreturned : .ok transaction ∈ p.outcome) : p.Called := by
  obtain ⟨hsame, htrace⟩ := Prod.mk.inj (h.ended _ hreturned)
  rcases run_cases rt p.scene p.request p.before with ⟨e, hrun⟩ | ⟨adapter, -, hrun⟩
  · rw [hrun] at hsame
    cases hsame
  · rw [hrun] at hsame htrace
    rcases @Journal.run_cases p.request.prepared.transactionPlan rt p.before adapter
      hrt.sqlNonblank_digest h.referential with ⟨e, hrefused⟩ | ⟨-, outcome, done, hdone, -, hall⟩
    · rw [hrefused] at hsame
      cases hsame
    · rw [hdone] at hsame htrace
      rcases outcome with e | returned
      · cases hsame
      · rw [Performance.Called, htrace, (hall returned rfl).1]
        exact List.cons_ne_nil _ _

/-- The steps of a cleared call are its compiled actions.
Assumes: the compared plans have one digest only when they have one text. -/
theorem Cleared.steps_eq {request : Execution rt} {s : Store} {adapter : Driver}
    (h : Cleared rt scene request s adapter) (hfree : ∀ compiled,
      TransactionPlan.create request.prepared.transactionPlan.transactionId.val
          request.prepared.transactionPlan.operationId.val
          (request.compilation.actions.map stepOf) = .ok compiled →
        compiled.planFingerprint rt = request.prepared.transactionPlan.planFingerprint rt →
          (planMaterial compiled).dumpsAscii =
            (planMaterial request.prepared.transactionPlan).dumpsAscii) :
    request.prepared.transactionPlan.steps = request.compilation.actions.map stepOf := by
  obtain ⟨-, -, compiled, hcompiled, hfingerprint⟩ := prepared_spec h.prepared
  rw [← steps_of_material (hfree compiled hcompiled hfingerprint)]
  exact steps_of_create hcompiled

/-- At a call of the driver everything it relies on holds.
Assumes: digests are words, and the compared intents have one digest only when they have one text. -/
theorem Recorded.boundAt (hrt : WordDigests rt) (h : Recorded rt claims p)
    (hfree : ∀ claim ∈ claims, ∀ intent,
      preview rt p.scene p.request.plan p.request.context p.request.compilation = .ok intent →
        claim.intent.intentFingerprint rt = intent.intentFingerprint rt →
          claim.intent.materialFields.dumps = intent.materialFields.dumps)
    {before after : List Entry} {call : DriverCall} (hcall : p.trace = before ++ .call call :: after) :
    BoundAt rt claims p (p.before.replay (writesOf before)) := by
  have hcalled : p.Called := by
    unfold Performance.Called
    rw [hcall]
    simp
  obtain ⟨adapter, hcleared, hready, hstory, -⟩ := h.begun hrt hcalled
  obtain ⟨⟨bound, hbound, hstate, hsong, hversion, hintent, happroval, hsource⟩, hactive⟩ :=
    binding_spec hcleared.bound
  obtain ⟨hfingerprints, ⟨intent, hpreview, hintentFingerprint⟩, -⟩ := prepared_spec hcleared.prepared
  have hoperation : p.request.prepared.songBinding.operationId.val = p.operationId :=
    congrArg Text.val p.request.prepared.matching.1
  rw [hoperation] at hbound
  have happroved := p.request.prepared.approved
  -- The row of the operation is the one that was checked: a run only appends rows.
  obtain ⟨op, hop, hexecuting⟩ := executing_at_call hready (hcall ▸ hstory)
  have hrow : op.toOperationRow = bound.toOperationRow := by
    obtain ⟨hmem, hid, -⟩ := getOperation_spec hop
    obtain ⟨hmem', hid', -⟩ := getOperation_spec hbound
    rw [(operations_replay _ _).1] at hmem
    exact List.inj_on_of_nodup_map h.lawful.ids hmem hmem' (hid.trans hid'.symm)
  obtain ⟨claim, hclaim, hclaimId, hvalid, hclaimIntent, hclaimApproval, hclaimSource⟩ :=
    h.backed.of_executing h.lawful hbound hstate
  have hsame : claim.intent = intent := by
    have hdigests : claim.intent.intentFingerprint rt = intent.intentFingerprint rt := by
      rw [← hclaimIntent, hintent, happroved, hintentFingerprint]
    exact ActionIntent.eq_of_materialFields_canonical
      (Json.dumps_inj.mp (hfree claim hclaim intent hpreview hdigests))
  obtain ⟨hrevision, hpayload⟩ := preview_spec hrt hpreview
  constructor
  · refine ⟨op, hop, hexecuting, ?_⟩
    rw [hrow]
    exact ⟨hsong, hversion, hintent.trans happroved, happroval, hsource⟩
  · exact hactive
  · exact hfingerprints
  · refine ⟨claim, hclaim, hclaimId, hvalid, hsame ▸ hpreview, hsame ▸ hrevision,
      hsame ▸ hpayload, ?_, hclaimApproval.symm.trans happroval, hclaimSource.symm.trans hsource⟩
    rw [← hclaimIntent, hintent, happroved]

/-- A recorded call did what it was authorized to do.
Assumes: digests are words, and the compared texts have one digest only when they are the same. -/
theorem Recorded.authorized (hrt : WordDigests rt) {w : Studio rt} (hsound : Sound w)
    (hfree : CollisionFree w) (hp : p ∈ w.performances) : Authorized rt w.claims p := by
  have h := hsound.recorded p hp
  have hsteps (hcalled : p.Called) : ∃ adapter,
      p.trace <+: p.request.prepared.transactionPlan.story adapter rt ∧
        p.request.prepared.transactionPlan.steps = p.request.compilation.actions.map stepOf ∧
        ∀ result ∈ p.outcome, ∀ transaction, result = .ok transaction →
          transaction.status = .complete →
            p.trace = p.request.prepared.transactionPlan.story adapter rt ∧
              p.request.prepared.transactionPlan.storyStatus adapter = .complete := by
    obtain ⟨adapter, hcleared, -, hstory, hcomplete⟩ := h.begun hrt hcalled
    refine ⟨adapter, hstory, hcleared.steps_eq fun compiled hcompiled hdigests ↦ ?_, hcomplete⟩
    exact hfree _ _ (.inr ⟨p, hp, compiled, hcompiled, rfl, rfl⟩) hdigests
  have horder : executedActions p.request.compilation p.trace <+: p.request.compilation.actions := by
    by_cases hcalled : p.Called
    · obtain ⟨adapter, hstory, hplan, -⟩ := hsteps hcalled
      exact executedActions_initial (hplan ▸ executedSteps_initial hstory)
    · rw [Performance.Called, not_not] at hcalled
      rw [hcalled]
      exact List.nil_prefix
  constructor
  · intro before call after hcall
    refine h.boundAt hrt (fun claim hclaim intent hpreview hdigests ↦ ?_) hcall
    exact hfree _ _ (.inl ⟨claim, hclaim, p, hp, intent, hpreview, rfl, rfl⟩) hdigests
  · intro call hcall
    obtain ⟨adapter, hstory, hplan, -⟩ := hsteps (List.ne_nil_of_mem hcall)
    have hwithin := CallsWithin.story p.request.prepared.transactionPlan adapter rt call
      (hstory.subset hcall)
    rw [hplan] at hwithin
    exact hostCall_isSome hwithin
  · exact horder
  · have hactions : p.request.compilation.actions.Nodup :=
      List.Nodup.of_map _ p.request.compilation.actionIds
    exact hactions.sublist horder.sublist
  · intro result hresult transaction hok hcomplete
    obtain ⟨adapter, -, hplan, hended⟩ := hsteps (h.called hrt (hok ▸ hresult))
    obtain ⟨hall, hstatus⟩ := hended result hresult transaction hok hcomplete
    rw [executedActions_eq, hall, executedSteps_of_complete hstatus, hplan]
    exact filterMap_stepOf (List.Subset.refl p.request.compilation.actions)

end

def sampleText : Text := ⟨"a", Text.letterA.stripped, Text.letterA.nonempty⟩

def sampleLine : Line := ⟨"a", by decide +kernel, Text.letterA.nonempty⟩

/-- A hash that writes the same word for every text. -/
def sampleDigests : Runtime where
  sha256 := fun _ ↦ "a"
  fromisoformat := fun _ ↦ none
  hmac := id
  loads := fun _ ↦ none

theorem wordDigests_sampleDigests : WordDigests sampleDigests := by
  intro text
  refine ⟨show "a" ≠ "" by decide, fun c hc ↦ ?_⟩
  obtain rfl : c = 'a' := by simpa [sampleDigests] using hc
  exact ⟨rfl, by decide⟩

/-- A plan for one target. -/
def sampleMusicalPlan : MusicalPlan where
  planId := sampleLine
  songId := sampleLine
  workspaceId := sampleLine
  workspaceObservationId := sampleLine
  hostRuntimeFingerprint := sampleLine
  artistIntent := sampleLine
  targets := [⟨.track, [sampleLine], by simp, by simp⟩]
  sectionRef := none
  constraints := []
  lockedElementRefs := []
  editableElementRefs := []
  desiredChange := sampleLine
  verificationRefs := []
  provenanceRefs := []
  targeted := by simp
  targetsUnique := by simp
  sectionTarget := by decide
  disjoint := by simp

/-- The focus it was made from. -/
def sampleContext : FocusContext where
  workspaceId := sampleText
  songId := sampleText
  workspaceObservationId := sampleText
  hostRuntimeFingerprint := sampleText
  dimensions := [⟨.track, .observedExact, [sampleText]⟩]
  dimensionsUnique := by simp

def sampleAction : CompiledHostAction where
  actionId := sampleLine
  routeKind := .hostNative
  capability := sampleLine
  payloadRef := sampleLine
  postconditionRef := sampleLine
  compensatable := true
  dependsOnActionIds := []
  dependenciesUnique := by simp
  independent := by simp

def sampleCompilation : HostCompilation where
  planId := sampleLine
  planFingerprint := sampleLine
  compilerId := sampleLine
  compilerVersion := sampleLine
  hostFamily := .abletonLive
  hostRuntimeFingerprint := sampleLine
  actions := [sampleAction]
  nonempty := by simp
  actionIds := by simp
  backward := ⟨by simp [sampleAction], trivial⟩

/-- A driver that does what it is asked to. -/
def sampleHostDriver : CompiledActionDriver where
  missing := []
  prepareSnapshot := fun transaction _ _ ↦
    .returned ⟨transaction.transactionId, transaction.operationId, sampleText, sampleText, sampleText⟩
  executeAction := fun action ↦
    .returned ⟨action.actionId.text, .succeeded, .applied, sampleText, none, by simp⟩
  verifyAction := fun action _ ↦
    .returned ⟨action.actionId.text, action.postconditionRef.text, .satisfied, sampleText⟩
  compensateAction := fun action snapshot ↦
    .returned ⟨action.actionId.text, snapshot.snapshotRef, .restored, sampleText⟩
  successReceipt := fun transaction _ _ snapshot ↦
    .returned ⟨transaction.transactionId, transaction.operationId, snapshot.snapshotRef, sampleText,
      sampleText, sampleText⟩

/-- The song is active, and its workspace is observed. -/
def sampleScene : Scene := ⟨some ⟨sampleText, none⟩, [⟨"a", "a", "a", "a"⟩]⟩

/-- A new profile with one song. -/
def sampleStudio : Studio sampleDigests :=
  ⟨sampleScene, ⟨"a", ["a"], [], [], [], [], [], []⟩, [], []⟩

theorem initial_sampleStudio : sampleStudio.Initial :=
  ⟨⟨sampleText, rfl⟩, rfl, rfl, rfl, rfl, rfl, rfl, rfl⟩

/-- The call of `prepare`. -/
def samplePreparation : Preparation where
  plan := sampleMusicalPlan
  context := sampleContext
  compilation := sampleCompilation
  approval := ⟨sampleText, sampleText, sampleText⟩
  idempotencyKey := "a"
  claimEvidenceRef := "a"
  targetVersionId := none

/-- The calls of `run` with the witness that `prepare` returns, if it returns. -/
def sampleExecutions : List (Execution sampleDigests) :=
  match (exec (prepare sampleDigests sampleScene samplePreparation "a") sampleStudio.store).1 with
  | .ok prepared =>
    [⟨prepared, sampleMusicalPlan, sampleContext, sampleCompilation, sampleHostDriver⟩]
  | .error _ => []

/-- The preparation and its run. -/
def sampleCalls : List (StudioEvent sampleDigests) :=
  .prepare samplePreparation sampleText :: sampleExecutions.map fun request ↦ .run request none

instance : DecidableEq ActionIntent := fun _ _ ↦ decidable_of_iff _ ActionIntent.ext_iff.symm

/-- The fields of a plan that enter its fingerprint are those of another. -/
def SamePlan (a b : TransactionPlan) : Prop :=
  a.transactionId = b.transactionId ∧ a.operationId = b.operationId ∧ a.steps = b.steps

instance (a b : TransactionPlan) : Decidable (SamePlan a b) :=
  inferInstanceAs (Decidable (_ ∧ _ ∧ _))

/-- Whatever is compared is the same. -/
def comparesSame (w : Studio sampleDigests) : Bool :=
  (w.claims.all fun claim ↦ w.performances.all fun p ↦
    (preview sampleDigests p.scene p.request.plan p.request.context p.request.compilation).toOption.all
      fun intent ↦ claim.intent = intent) &&
  w.performances.all fun p ↦
    (TransactionPlan.create p.request.prepared.transactionPlan.transactionId.val
        p.request.prepared.transactionPlan.operationId.val
        (p.request.compilation.actions.map stepOf)).toOption.all fun compiled ↦
      SamePlan compiled p.request.prepared.transactionPlan

theorem collisionFree_of_comparesSame {w : Studio sampleDigests} (h : comparesSame w = true) :
    CollisionFree w := by
  simp only [comparesSame, Bool.and_eq_true, List.all_eq_true] at h
  rintro a b (⟨claim, hclaim, p, hp, intent, hpreview, rfl, rfl⟩ |
    ⟨p, hp, compiled, hcompiled, rfl, rfl⟩) -
  · have hsame := h.1 claim hclaim p hp
    rw [hpreview] at hsame
    rw [of_decide_eq_true hsame]
  · have hsame := h.2 p hp
    rw [hcompiled] at hsame
    obtain ⟨htransaction, hoperation, hsteps⟩ := of_decide_eq_true hsame
    rw [planMaterial, planMaterial, htransaction, hoperation, hsteps]

end N0te.Musical
