import N0te.Journal.Effects
import N0te.Musical.MusicalTransaction

/-!
# What `prepare` claims

`prepare` claims an operation and then builds a witness of the claim. `claimOperation_cases` says what
the claim leaves in the store, and `witnessClaim_returns` that nothing after it raises: the compiled
steps make a plan, the operation is executing for the song that is still active, and every text of the
witness is there. So a call of `prepare` that raises has claimed nothing (`prepare_raises`).
-/

set_option autoImplicit false
set_option relaxedAutoImplicit false

namespace N0te.Musical

open Library Governance Journal

/-! ### Digests -/

/-- A digest is one word, as one that is written in hexadecimal is. -/
def WordDigests (rt : Runtime) : Prop :=
  ∀ text, rt.sha256 text ≠ "" ∧
    ∀ c ∈ (rt.sha256 text).toList, isSpace c = false ∧ c ≠ Char.ofNat 0

namespace WordDigests

variable {rt : Runtime} (h : WordDigests rt)

include h

theorem no_space (text : String) : ∀ c ∈ (rt.sha256 text).toList, isSpace c = false :=
  fun c hc ↦ ((h text).2 c hc).1

theorem strip_digest (text : String) : strip (rt.sha256 text) = rt.sha256 text := by
  apply strip_eq_self
  simpa using h.no_space text

theorem collapse_digest (text : String) : collapse (rt.sha256 text) = rt.sha256 text :=
  collapse_of_no_space (h.no_space text)

theorem sqlNonblank_digest (text : String) : sqlNonblank (rt.sha256 text) = true := by
  rcases hchars : (rt.sha256 text).toList with _ | ⟨c, rest⟩
  · exact absurd (String.toList_eq_nil_iff.mp hchars) (h text).1
  · obtain ⟨hspace, hnul⟩ := (h text).2 c (hchars ▸ List.mem_cons_self)
    have hne : c ≠ ' ' := by
      rintro rfl
      cases hspace
    rw [sqlNonblank, hchars, List.dropWhile_cons_of_neg (by simpa using hne)]
    simpa using hnul

end WordDigests

/-! ### Compiled steps -/

theorem asJournal_eq_ok {α : Type} {r : Journal.Checked α} {a : α} :
    asJournal r = .ok a ↔ r = .ok a := by
  cases r <;> simp [asJournal, Except.mapError]

/-- The description of a step is a text. -/
def descriptionText (action : CompiledHostAction) : Text where
  val := stepDescription action
  stripped := by
    have h := strip_between action.capability.text action.payloadRef.text
      (" via " ++ action.routeKind.name ++ " using ")
    simpa [stepDescription, String.append_assoc] using h
  nonempty h := by
    have hchars := congrArg String.toList h
    simp [stepDescription] at hchars

def stepOf (action : CompiledHostAction) : TransactionStep where
  stepId := action.actionId.text
  description := descriptionText action
  postconditionRef := action.postconditionRef.text
  compensatable := action.compensatable
  dependsOnStepIds := action.dependsOnActionIds.map Line.text
  dependenciesUnique := action.dependenciesUnique.map Line.text_injective
  independent h := by
    obtain ⟨dep, hdep, heq⟩ := List.mem_map.mp h
    exact action.independent (Line.text_injective heq ▸ hdep)

theorem actionStep_eq (action : CompiledHostAction) : actionStep action = .ok (stepOf action) := by
  have hself := (stepOf action).create_self
  simp only [stepOf, descriptionText, Line.text_val, List.map_map] at hself
  exact asJournal_eq_ok.mpr hself

theorem checkEach_actionStep (actions : List CompiledHostAction) (n : ℕ) :
    checkEach (fun _ ↦ actionStep) n actions = .ok (actions.map stepOf) := by
  induction actions generalizing n with
  | nil => rfl
  | cons action rest ih =>
    rw [checkEach, actionStep_eq]
    simp only [bind_eq_ok, pure_eq_ok, List.map_cons]
    exact ⟨_, rfl, _, ih (n + 1), rfl⟩

/-- The steps of a compilation are its actions, in order. -/
theorem compiledSteps_eq (compilation : HostCompilation) :
    compiledSteps compilation = .ok (compilation.actions.map stepOf) := checkEach_actionStep _ 0

theorem dependsBackward_map {seen : List Line} {actions : List CompiledHostAction}
    (h : ActionsBackward seen actions) :
    DependsBackward (seen.map Line.text) (actions.map stepOf) := by
  induction actions generalizing seen with
  | nil => trivial
  | cons action rest ih =>
    refine ⟨fun dep hdep ↦ ?_, ?_⟩
    · obtain ⟨line, hline, rfl⟩ := List.mem_map.mp hdep
      exact List.mem_map_of_mem (h.1 line hline)
    · have hrest := ih h.2
      rwa [List.map_append] at hrest

/-- The steps of a compilation make a plan. -/
theorem create_compiled (compilation : HostCompilation) {transactionId : String}
    (htransaction : strip transactionId ≠ "") (operationId : Text) :
    ∃ plan, TransactionPlan.create transactionId operationId.val (compilation.actions.map stepOf) =
      .ok plan ∧ plan.operationId = operationId := by
  let plan : TransactionPlan :=
    { transactionId := ⟨strip transactionId, strip_strip _, htransaction⟩
      operationId := operationId
      steps := compilation.actions.map stepOf
      nonempty := by simpa using compilation.nonempty
      stepIds := by
        have hids := compilation.actionIds.map Line.text_injective
        rwa [List.map_map] at hids ⊢
      backward := dependsBackward_map compilation.backward }
  have hself := plan.create_self
  refine ⟨plan, ?_, rfl⟩
  have htext : transactionText transactionId "plan.transaction_id" = .ok plan.transactionId :=
    orRaise_eq_ok.mpr (Text.ofString_eq_some.mpr ⟨rfl, htransaction⟩)
  have htextSelf : transactionText plan.transactionId.val "plan.transaction_id" =
      .ok plan.transactionId := transactionText_val _ _
  rw [TransactionPlan.create, htextSelf] at hself
  rw [TransactionPlan.create, htext]
  exact hself

/-! ### The witness -/

theorem songText_of_ne {value : String} (field : String) (h : strip value ≠ "") :
    songText value field = .ok ⟨strip value, strip_strip _, h⟩ :=
  orRaise_eq_ok.mpr (Text.ofString_eq_some.mpr ⟨rfl, h⟩)

theorem songText_val (t : Text) (field : String) : songText t.val field = .ok t := by
  simp [songText, orRaise]

theorem optionalSongText_map (value : Option Text) (field : String) :
    optionalSongText (value.map Text.val) field = .ok value := by
  cases value with
  | none => rfl
  | some t => simp [optionalSongText, songText_val]

theorem musicalText_val (line : Line) (field : String) : musicalText line.val field = .ok line :=
  orRaise_eq_ok.mpr (Line.ofString_eq_some.mpr ⟨line.collapsed, line.collapsed.symm ▸ line.nonempty⟩)

def digestLine {rt : Runtime} (h : WordDigests rt) (text : String) : Line :=
  ⟨rt.sha256 text, h.collapse_digest text, (h text).1⟩

/-- A witness whose parts belong together is built. -/
theorem PreparedMusicalTransaction.create_returns {rt : Runtime} (planId planFingerprint
    compilationFingerprint intentFingerprint : Line) {plan : TransactionPlan}
    {binding : SongTransactionBinding} (hmatching : binding.operationId = plan.operationId ∧
      binding.transactionId = plan.transactionId ∧
      binding.planFingerprint.val = plan.planFingerprint rt)
    (happroved : binding.intentFingerprint.val = intentFingerprint.val) :
    ∃ prepared, PreparedMusicalTransaction.create rt planId.val planFingerprint.val
      compilationFingerprint.val intentFingerprint.val plan binding = .ok prepared := by
  refine ⟨⟨planId, planFingerprint, compilationFingerprint, intentFingerprint, plan, binding,
    hmatching, happroved⟩, ?_⟩
  simp only [PreparedMusicalTransaction.create, musicalText_val, bind_eq_ok]
  refine ⟨_, rfl, _, rfl, _, rfl, _, rfl, ?_⟩
  rw [dif_pos hmatching, dif_pos happroved]
  rfl

theorem strip_musicalTransactionId_ne (rt : Runtime) (operationId planFingerprint
    compiledFingerprint : String) :
    strip (musicalTransactionId rt operationId planFingerprint compiledFingerprint) ≠ "" := by
  have hhead : ∃ l, (musicalTransactionId rt operationId planFingerprint
      compiledFingerprint).toList = 't' :: l := by
    refine ⟨"xn_musical_".toList ++ (rt.sha256 ("\x00".intercalate
      [operationId, planFingerprint, compiledFingerprint])).toList.take 32, ?_⟩
    simp [musicalTransactionId]
  obtain ⟨l, hl⟩ := hhead
  exact ne_empty_of_sqlNonblank (sqlNonblank_strip hl (by decide) (by decide))

/-- What the store and the scene are after the claim of an operation for a request. -/
structure ClaimedFor (rt : Runtime) (scene : Scene) (request : Preparation)
    (claimed : ClaimedOperation) (t : Store) : Prop where
  previewed : preview rt scene request.plan request.context request.compilation = .ok claimed.intent
  valid : validateApproval rt claimed.intent request.approval = .valid
  steps : claimed.steps = request.compilation.actions.map stepOf
  /-- The operation can be read. -/
  reads : getOperation t claimed.operation.id = .ok claimed.operation
  executing : claimed.operation.recordedState = .executing
  /-- It carries out the intent, under its approval. -/
  identity : claimed.operation.intentFingerprint = claimed.intent.intentFingerprint rt ∧
    claimed.operation.approvalId = request.approval.approvalId.val ∧
    claimed.operation.approvalSourceRef = request.approval.sourceRef.val
  /-- It acts on the song of the plan, which is active. -/
  song : claimed.operation.songId = some request.plan.songId.val ∧
    ∃ active, scene.activeSong = some active ∧ active.id.val = request.plan.songId.val
  /-- It acts on a version of the song. -/
  version : ∃ version : Option Text, claimed.operation.versionId = version.map Text.val ∧
    ∀ v ∈ version, t.versions.lookup v.val = some request.plan.songId.val

section

variable {rt : Runtime} {scene : Scene} {request : Preparation} {claimed : ClaimedOperation}
  {t : Store} {operationId profileId : Text}

/-- A claimed operation is bound to the active song.
Assumes: digests are words, and the ids of the profile and of the operation are texts. -/
theorem bind_returns (hrt : WordDigests rt) (h : ClaimedFor rt scene request claimed t)
    (hid : claimed.operation.id = operationId.val) (hprofile : t.profileId = profileId.val)
    {plan : TransactionPlan} (hplan : plan.operationId = operationId) :
    ∃ binding, bind rt scene plan t = .ok binding ∧
      (binding.operationId = plan.operationId ∧ binding.transactionId = plan.transactionId ∧
        binding.planFingerprint.val = plan.planFingerprint rt) ∧
      binding.intentFingerprint.val = claimed.intent.intentFingerprint rt := by
  obtain ⟨version, hversion, hlookup⟩ := h.version
  obtain ⟨hsong, active, hactive, hactiveId⟩ := h.song
  obtain ⟨hintent, happroval, hsource⟩ := h.identity
  have hdigest (text : String) : strip (rt.sha256 text) ≠ "" :=
    (hrt.strip_digest text).symm ▸ (hrt text).1
  have hintentText : strip claimed.operation.intentFingerprint ≠ "" := hintent ▸ hdigest _
  have hplanText : strip (plan.planFingerprint rt) ≠ "" := hdigest _
  have hactiveFor : activeSongFor scene request.plan.songId.val = .ok active := by
    simp [activeSongFor, hactive, hactiveId, orRaise]
  have hsongText : songText request.plan.songId.val "song_id" = .ok request.plan.songId.text :=
    songText_val request.plan.songId.text _
  let binding : SongTransactionBinding :=
    ⟨profileId, request.plan.songId.text, version, active.currentVersionId, operationId,
      plan.transactionId, ⟨_, strip_strip _, hplanText⟩, ⟨_, strip_strip _, hintentText⟩,
      request.approval.approvalId, request.approval.sourceRef⟩
  have hbinding : createBinding rt t.profileId request.plan.songId.val claimed.operation.versionId
      (active.currentVersionId.map Text.val) plan claimed.operation = .ok binding := by
    simp only [createBinding, hprofile, hid, happroval, hsource, hversion, songText_val, hsongText,
      songText_of_ne _ hplanText, songText_of_ne _ hintentText, optionalSongText_map]
    rfl
  refine ⟨binding, ?_, ⟨hplan.symm, rfl, hrt.strip_digest _⟩,
    (congrArg strip hintent).trans (hrt.strip_digest _)⟩
  simp only [bind, hplan, ← hid, h.reads, asJournal, Except.mapError]
  refine bind_eq_ok.mpr ⟨_, rfl, bind_eq_ok.mpr ⟨(), require_eq_ok.mpr h.executing,
    bind_eq_ok.mpr ⟨_, orRaise_eq_ok.mpr hsong, bind_eq_ok.mpr ⟨active, hactiveFor,
      bind_eq_ok.mpr ⟨(), require_eq_ok.mpr ?_, hbinding⟩⟩⟩⟩⟩
  rw [hversion]
  intro v hv
  obtain ⟨text, htext, rfl⟩ := Option.map_eq_some_iff.mp hv
  exact hlookup text htext

/-- After the claim nothing raises.
Assumes: digests are words, and the ids of the profile and of the operation are texts. -/
theorem witnessClaim_returns (hrt : WordDigests rt) (h : ClaimedFor rt scene request claimed t)
    (hid : claimed.operation.id = operationId.val) (hprofile : t.profileId = profileId.val) :
    ∃ prepared, witnessClaim rt scene request claimed t = .ok prepared := by
  have htransaction := strip_musicalTransactionId_ne rt claimed.operation.id
    (request.plan.fingerprint rt) (compilationFingerprint rt request.compilation)
  obtain ⟨plan, hplan, hoperation⟩ := create_compiled request.compilation htransaction operationId
  rw [← h.steps, ← hid] at hplan
  obtain ⟨binding, hbind, hmatching, happroved⟩ := bind_returns hrt h hid hprofile hoperation
  have hcreate := PreparedMusicalTransaction.create_returns request.plan.planId
    (digestLine hrt request.plan.payload.dumpsAscii)
    (digestLine hrt request.compilation.payload.dumpsAscii)
    (digestLine hrt claimed.intent.materialFields.dumps) hmatching happroved
  obtain ⟨prepared, hprepared⟩ := hcreate
  refine ⟨prepared, ?_⟩
  exact bind_eq_ok.mpr ⟨plan, asJournal_eq_ok.mpr hplan, bind_eq_ok.mpr ⟨binding, hbind, hprepared⟩⟩

/-! ### The claim -/

/-- What `prepare` may leave besides a claim: nothing, or one more prepared operation. -/
def AtMostPrepared (newId : String) (s t : Store) : Prop :=
  t = s ∨ ∃ row, t = s.addOperation row ∧ Insertable row s ∧ row.id = newId

theorem activeTargetVersion_spec {plan : MusicalPlan} {target versionId : Option String}
    (h : activeTargetVersion scene plan target = .ok versionId) :
    (∃ active, scene.activeSong = some active ∧ active.id.val = plan.songId.val) ∧
      ∃ version : Option Text, versionId = version.map Text.val := by
  simp only [activeTargetVersion, bind_eq_ok, orRaise_eq_ok, Option.filter_eq_some_iff,
    decide_eq_true_eq] at h
  obtain ⟨active, hactive, hversion⟩ := h
  refine ⟨⟨active, hactive⟩, ?_⟩
  rcases target with _ | target
  · exact ⟨active.currentVersionId, (pure_eq_ok.mp hversion).symm⟩
  · simp only [bind_eq_ok, pure_eq_ok] at hversion
    obtain ⟨line, -, -, -, rfl⟩ := hversion
    exact ⟨some line.text, rfl⟩

/-- The claim of an operation that was just prepared or found. -/
theorem claim_cases {intent : ActionIntent} {steps : List TransactionStep} {versionId : Option String}
    (hpreview : preview rt scene request.plan request.context request.compilation = .ok intent)
    (hvalid : validateApproval rt intent request.approval = .valid)
    (hsteps : compiledSteps request.compilation = .ok steps)
    (hversion : activeTargetVersion scene request.plan request.targetVersionId = .ok versionId)
    {key newId : String} {row : OperationRow} {op : OperationRecord} {s t : Store} (hs : Lawful s)
    (hidentity : prepareIdentity rt ⟨key, intent, request.approval, some request.plan.songId.val,
      versionId, none, none, none⟩ newId s = .ok row)
    (hprepared : Prepared row op s t) (evidenceRef : String) :
    (∃ claimed evidence, exec (claimExecution rt
        ⟨op.id, intent, request.approval, evidenceRef, none, none⟩) t =
        (.ok claimed, t.addOperationEvent (claimEvent claimed.id evidence)) ∧
      ClaimedFor rt scene request ⟨intent, steps, claimed⟩
        (t.addOperationEvent (claimEvent claimed.id evidence))) ∨
    ∃ e, exec (claimExecution rt ⟨op.id, intent, request.approval, evidenceRef, none, none⟩) t =
      (.error e, t) := by
  rcases claimExecution_cases rt ⟨op.id, intent, request.approval, evidenceRef, none, none⟩ t with
    ⟨claimed, evidence, hrun, hchecks, hexecuting, hreads⟩ | hrefused
  · obtain ⟨hstored, hid, -⟩ := getOperation_spec hreads
    have hlawful : Lawful t := by
      rcases hprepared.store with rfl | ⟨rfl, hrow⟩
      · exact hs
      · exact hs.addOperation hrow
    have hsame : claimed.toOperationRow = op.toOperationRow :=
      List.inj_on_of_nodup_map hlawful.ids hstored hprepared.bound.stored hid
    obtain ⟨-, hrowSong, hrowVersion, hlookup⟩ := prepareIdentity_spec hidentity
    have hexact := hprepared.bound.exact
    have hversions : t.versions = s.versions := by
      rcases hprepared.store with rfl | ⟨rfl, -⟩ <;> rfl
    simp only [claimChecks, bind_eq_ok, require_eq_ok] at hchecks
    obtain ⟨before, hbefore, -, -, -, happroved, -⟩ := hchecks
    have hbeforeSame : before.toOperationRow = op.toOperationRow := by
      obtain ⟨hmem, hbeforeId, -⟩ := getOperation_spec hbefore
      exact List.inj_on_of_nodup_map hlawful.ids hmem hprepared.bound.stored hbeforeId
    obtain ⟨hactive, version, rfl⟩ := activeTargetVersion_spec hversion
    refine .inl ⟨claimed, evidence, hid ▸ hrun, ?_⟩
    constructor
    · exact hpreview
    · exact hvalid
    · exact Except.ok.inj (hsteps.symm.trans (compiledSteps_eq _))
    · rw [hid]
      exact hreads
    · exact hexecuting
    · have hbeforeClaimed : before.toOperationRow = claimed.toOperationRow :=
        hbeforeSame.trans hsame.symm
      exact ⟨(congrArg OperationRow.intentFingerprint hbeforeClaimed).symm.trans happroved.1,
        (congrArg OperationRow.approvalId hbeforeClaimed).symm.trans happroved.2.1,
        (congrArg OperationRow.approvalSourceRef hbeforeClaimed).symm.trans happroved.2.2⟩
    · refine ⟨?_, hactive⟩
      exact (congrArg OperationRow.songId hsame).trans
        ((congrArg OperationRow.songId hexact).trans hrowSong)
    · refine ⟨version, ?_, fun v hv ↦ ?_⟩
      · exact (congrArg OperationRow.versionId hsame).trans
          ((congrArg OperationRow.versionId hexact).trans hrowVersion)
      · have hfound := hlookup request.plan.songId.val rfl v.val (by
          rw [Option.mem_def] at hv
          rw [hv]
          rfl)
        rw [← hversions] at hfound
        exact hfound
  · exact .inr hrefused

/-- `prepare` up to the claim either claims its operation, or raises and leaves at most a prepared
operation. -/
theorem claimOperation_cases {s : Store} (hs : Lawful s) (newId : String) :
    (∃ claimed middle evidence, AtMostPrepared newId s middle ∧
      exec (claimOperation rt scene request newId) s = (.ok claimed,
        middle.addOperationEvent (claimEvent claimed.operation.id evidence)) ∧
      ClaimedFor rt scene request claimed
        (middle.addOperationEvent (claimEvent claimed.operation.id evidence))) ∨
    ∃ e t, exec (claimOperation rt scene request newId) s = (.error e, t) ∧
      AtMostPrepared newId s t := by
  rw [claimOperation]
  rcases hpreview : preview rt scene request.plan request.context request.compilation with e | intent
  · exact .inr ⟨e, s, exec_fromExcept_error .., .inl rfl⟩
  rw [exec_fromExcept_ok]
  rcases hvalid : require (validateApproval rt intent request.approval = .valid)
    (musicalError "approval is stale for this exact Musical Plan compilation") with e | ⟨⟩
  · exact .inr ⟨e, s, exec_fromExcept_error .., .inl rfl⟩
  rw [exec_fromExcept_ok]
  rcases hsteps : compiledSteps request.compilation with e | steps
  · exact .inr ⟨e, s, exec_fromExcept_error .., .inl rfl⟩
  rw [exec_fromExcept_ok]
  rcases hversion : activeTargetVersion scene request.plan request.targetVersionId with e | versionId
  · exact .inr ⟨e, s, exec_fromExcept_error .., .inl rfl⟩
  rw [exec_fromExcept_ok]
  rcases musicalText request.idempotencyKey "idempotency_key" with e | key
  · exact .inr ⟨e, s, exec_fromExcept_error .., .inl rfl⟩
  rw [exec_fromExcept_ok]
  rcases prepare_cases hs rt ⟨key.val, intent, request.approval, some request.plan.songId.val,
    versionId, none, none, none⟩ newId with ⟨row, op, middle, hrun, hidentity, hprepared⟩ | ⟨e, hrun⟩
  · have hmiddle : AtMostPrepared newId s middle := hprepared.store.imp_right fun h ↦
      ⟨row, h.1, h.2, (prepareIdentity_spec hidentity).1⟩
    rw [exec_bind, exec_raisingAs, hrun]
    dsimp only [Except.mapError]
    rcases musicalText request.claimEvidenceRef "claim_evidence_ref" with e | evidenceRef
    · exact .inr ⟨e, middle, exec_fromExcept_error .., hmiddle⟩
    rw [exec_fromExcept_ok]
    rcases claim_cases hpreview (require_eq_ok.mp hvalid) hsteps hversion hs hidentity hprepared
      evidenceRef.val with ⟨claimed, evidence, hclaim, hfor⟩ | ⟨e, hclaim⟩
    · refine .inl ⟨⟨intent, steps, claimed⟩, middle, evidence, hmiddle, ?_, hfor⟩
      rw [exec_bind, exec_raisingAs, hclaim]
      rfl
    · refine .inr ⟨ofJournal e, middle, ?_, hmiddle⟩
      rw [exec_bind, exec_raisingAs, hclaim]
      rfl
  · refine .inr ⟨ofJournal e, s, ?_, .inl rfl⟩
    rw [exec_bind, exec_raisingAs, hrun]
    rfl

/-- `prepare` claims an operation and returns the witness of its claim, or raises and has claimed
nothing.
Assumes: digests are words, and the ids of the profile and of the operations are texts. -/
theorem prepare_cases {s : Store} (hrt : WordDigests rt) (hs : Lawful s) {newId : Text}
    (hids : ∀ row ∈ s.operations, ∃ t : Text, t.val = row.id) (hprofile : s.profileId = profileId.val) :
    (∃ prepared claimed middle evidence, AtMostPrepared newId.val s middle ∧
      exec (prepare rt scene request newId.val) s = (.ok prepared,
        middle.addOperationEvent (claimEvent claimed.operation.id evidence)) ∧
      exec (claimOperation rt scene request newId.val) s = (.ok claimed,
        middle.addOperationEvent (claimEvent claimed.operation.id evidence)) ∧
      ClaimedFor rt scene request claimed
        (middle.addOperationEvent (claimEvent claimed.operation.id evidence))) ∨
    ∃ e t, exec (prepare rt scene request newId.val) s = (.error e, t) ∧
      exec (claimOperation rt scene request newId.val) s = (.error e, t) ∧
      AtMostPrepared newId.val s t := by
  rcases @claimOperation_cases rt scene request _ hs newId.val with
    ⟨claimed, middle, evidence, hmiddle, hclaim, hfor⟩ | ⟨e, t, hclaim, hmost⟩
  · have hrows : middle.profileId = s.profileId ∧ ∀ row ∈ middle.operations,
        ∃ t : Text, t.val = row.id := by
      rcases hmiddle with rfl | ⟨row, rfl, -, hid⟩
      · exact ⟨rfl, hids⟩
      · refine ⟨rfl, fun other hother ↦ ?_⟩
        rcases List.mem_append.mp hother with hold | hnew
        · exact hids other hold
        · rw [List.mem_singleton.mp hnew]
          exact ⟨newId, hid.symm⟩
    obtain ⟨hstored, -, -⟩ := getOperation_spec hfor.reads
    obtain ⟨operationId, hid⟩ := hrows.2 _ hstored
    obtain ⟨prepared, hprepared⟩ := witnessClaim_returns hrt hfor hid.symm
      (hrows.1.trans hprofile)
    refine .inl ⟨prepared, claimed, middle, evidence, hmiddle, ?_, hclaim, hfor⟩
    rw [prepare, exec_bind_of_ok hclaim, exec_get_bind, hprepared, exec_fromExcept]
  · exact .inr ⟨e, t, exec_bind_of_error hclaim, hclaim, hmost⟩

end

end N0te.Musical
