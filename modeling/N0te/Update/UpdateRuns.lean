import N0te.Update.JournalTrace

/-!
# Updates that stop anywhere

Every call of the coordinator keeps its store sound (`safe_apply`, `safe_prepare`), hence so does
every run: any sequence of calls that may stop anywhere and whose transactions may fail. What the
journals are worth is read from that (`updates_accounted`).
-/

set_option autoImplicit false
set_option relaxedAutoImplicit false

namespace N0te.Updating

open Library

variable {digests : UpdateDigests} {fails : Raised UpdateErrorClass → Prop}

/-! ### Where a call is -/

/-- The journal of a plan has this state and these receipts, and the package driver was called like
this for it. -/
structure At (digests : UpdateDigests) (store : UpdateStore) (plan : UpdatePlan)
    (state : UpdateState) (install rollback : Option PackageActionReceipt)
    (calls : List Invocation) : Prop where
  sound : SoundStore digests store
  journal : ∃ journal ∈ store.journals, journal.plan = plan ∧ journal.state = state ∧
    journal.installReceipt = install ∧ journal.rollbackReceipt = rollback
  calls : store.invocationsOf plan.updateId = calls

/-- The store is sound, and what was returned is true of it. -/
def Kept (digests : UpdateDigests) {α : Type} (returns : α → UpdateStore → Prop)
    (result : Checked α) (store : UpdateStore) : Prop :=
  SoundStore digests store ∧ ∀ value, result = .ok value → returns value store

/-- However a call goes, it keeps the store sound. -/
def Safe (digests : UpdateDigests) (fails : Raised UpdateErrorClass → Prop) {α : Type}
    (returns : α → UpdateStore → Prop) (call : UpdateCall α) (store : UpdateStore) : Prop :=
  Always fails (Commits digests) (Kept digests returns) call store

section

variable {store : UpdateStore} {plan : UpdatePlan} {state newState : UpdateState}
variable {install rollback : Option PackageActionReceipt} {calls : List Invocation}

theorem at_of_mem (hs : SoundStore digests store) {journal : UpdateJournal}
    (hmem : journal ∈ store.journals) :
    At digests store journal.plan journal.state journal.installReceipt journal.rollbackReceipt
      (store.invocationsOf journal.plan.updateId) :=
  ⟨hs, ⟨journal, hmem, rfl, rfl, rfl, rfl⟩, rfl⟩

theorem At.traced (h : At digests store plan state install rollback calls) :
    Traced plan.updateId state install rollback calls := by
  obtain ⟨journal, hmem, rfl, rfl, rfl, rfl⟩ := h.journal
  exact h.calls ▸ h.sound.traced journal hmem

theorem At.hold (h : At digests store plan state install rollback calls) (holds : List String) :
    At digests { store with holds := holds } plan state install rollback calls :=
  ⟨(h.sound.hold holds).sound, h.journal, h.calls⟩

/-! ### Rules -/

variable {α β : Type} {returns : α → UpdateStore → Prop} {gives : β → UpdateStore → Prop}

theorem kept_error (hs : SoundStore digests store) (e : Raised UpdateErrorClass) :
    Kept digests returns (.error e) store := ⟨hs, fun _ hvalue ↦ by cases hvalue⟩

theorem safe_raise (hs : SoundStore digests store) (e : Raised UpdateErrorClass) :
    Safe digests fails returns (.fromExcept (.error e)) store := kept_error hs e

theorem safe_pure (hs : SoundStore digests store) {value : α} (h : returns value store) :
    Safe digests fails returns (pure value) store :=
  ⟨hs, fun _ hvalue ↦ by cases hvalue; exact h⟩

theorem safe_fromExcept {result : Checked β} {next : β → UpdateCall α}
    (hs : SoundStore digests store)
    (h : ∀ value, result = .ok value → Safe digests fails returns (next value) store) :
    Safe digests fails returns (.fromExcept result >>= next) store :=
  always_fromExcept (fun e _ ↦ kept_error hs e) h

theorem safe_attempt {call : UpdateCall β} {next : Checked β → UpdateCall α}
    (hcall : Safe digests fails gives call store)
    (h : ∀ result t, SoundStore digests t → (∀ value, result = .ok value → gives value t) →
      Safe digests fails returns (next result) t) :
    Safe digests fails returns (call.attempt >>= next) store :=
  always_attempt (hcall.mono fun result t hresult ↦ h result t hresult.1 hresult.2)

theorem safe_bind {call : UpdateCall β} {next : β → UpdateCall α}
    (hcall : Safe digests fails gives call store)
    (h : ∀ value t, SoundStore digests t → gives value t →
      Safe digests fails returns (next value) t) :
    Safe digests fails returns (call >>= next) store := by
  refine always_bind (hcall.mono fun result t hresult ↦ ?_)
  cases result with
  | error e => exact kept_error hresult.1 e
  | ok value => exact h value t hresult.1 (hresult.2 value rfl)

theorem safe_rescue {call : UpdateCall α} {handler : Raised UpdateErrorClass → UpdateCall α}
    (hcall : Safe digests fails returns call store)
    (h : ∀ e t, SoundStore digests t → Safe digests fails returns (handler e) t) :
    Safe digests fails returns (call.rescue handler) store := by
  refine always_rescue (hcall.mono fun result t hresult ↦ ?_)
  cases result with
  | error e => exact h e t hresult.1
  | ok value => exact hresult

theorem safe_readJournal {updateId : String} {next : UpdateJournal → UpdateCall α}
    (hs : SoundStore digests store)
    (h : ∀ journal ∈ store.journals, journal.plan.updateId = updateId →
      Safe digests fails returns (next journal) store) :
    Safe digests fails returns (readJournal digests updateId >>= next) store := by
  refine always_ask (fun e _ ↦ kept_error hs e) fun journal hread ↦ ?_
  simp only [bind_eq_ok, orRaise_eq_ok, pure_eq_ok] at hread
  obtain ⟨found, hfind, _, _, rfl⟩ := hread
  exact h found (mem_of_find hfind).1 (mem_of_find hfind).2

theorem safe_writeJournal {after : UpdateJournal} {holds : UpdateStore → Prop}
    (hs : SoundStore digests store)
    (h : after.validate digests = .ok () →
      Commits digests store (store.put after) ∧ holds (store.put after)) :
    Safe digests fails (fun _ t ↦ holds t) (writeJournal digests after) store := by
  refine safe_fromExcept hs fun _ hvalid ↦ ⟨fun e _ ↦ kept_error hs e, fun t ht ↦ ?_⟩
  cases ht
  obtain ⟨hcommits, hholds⟩ := h hvalid
  exact ⟨hcommits, hcommits.sound, fun _ _ ↦ hholds⟩

theorem safe_transition {expected : List UpdateState} {evidence : String} {added : Evidence}
    (hat : At digests store plan state install rollback calls)
    (htraced : newState ∈ state.allowed → Traced plan.updateId newState
      (added.installReceipt.or install) (added.rollbackReceipt.or rollback) calls) :
    Safe digests fails (fun after t ↦ after ∈ t.journals ∧ At digests t plan newState
        (added.installReceipt.or install) (added.rollbackReceipt.or rollback) calls)
      (transition digests plan.updateId expected newState evidence added) store := by
  obtain ⟨journal, hmem, rfl, rfl, rfl, rfl⟩ := hat.journal
  refine safe_readJournal hat.sound fun found hfound hid ↦ ?_
  obtain rfl := hat.sound.eq_of_updateId hmem hfound hid
  refine safe_fromExcept hat.sound fun after hadvance ↦ ?_
  have h := advances_of_advance hadvance
  have hcalls : store.invocationsOf after.plan.updateId = calls := h.plan ▸ hat.calls
  refine safe_bind (safe_writeJournal hat.sound fun hvalid ↦ ?_)
    fun _ t ht hafter ↦ safe_pure ht hafter
  have hput := hat.sound.put hmem h.later hvalid (by
    rw [h.plan, h.state, h.installReceipt, h.rollbackReceipt, hat.calls]
    exact htraced h.allowed)
  exact ⟨hput.1, hput.2, hput.1.sound,
    ⟨after, hput.2, h.plan, h.state, h.installReceipt, h.rollbackReceipt⟩, hat.calls⟩

end

/-! ### Applying an update -/

/-- A result is what a journal says. -/
def Told (result : UpdateResult) (store : UpdateStore) : Prop :=
  ∃ journal ∈ store.journals, toResult journal = .ok result

section

variable {store : UpdateStore} {input : ApplyInput} {state newState : UpdateState}
variable {install rollback : Option PackageActionReceipt} {calls : List Invocation}
variable {receipt : PackageActionReceipt}

/-- A transition, and what follows. -/
theorem safe_step {α : Type} {returns : α → UpdateStore → Prop} {expected : List UpdateState}
    {evidence : String} {added : Evidence} {next : UpdateJournal → UpdateCall α}
    (hat : At digests store input.plan state install rollback calls)
    (htraced : newState ∈ state.allowed → Traced input.plan.updateId newState
      (added.installReceipt.or install) (added.rollbackReceipt.or rollback) calls)
    (h : ∀ after t, after ∈ t.journals → At digests t input.plan newState
      (added.installReceipt.or install) (added.rollbackReceipt.or rollback) calls →
        Safe digests fails returns (next after) t) :
    Safe digests fails returns
      (transition digests input.plan.updateId expected newState evidence added >>= next) store :=
  safe_bind (safe_transition hat htraced) fun after t _ hafter ↦ h after t hafter.1 hafter.2

theorem safe_toResult {journal : UpdateJournal} (hs : SoundStore digests store)
    (hmem : journal ∈ store.journals) :
    Safe digests fails Told (.fromExcept (toResult journal)) store :=
  ⟨hs, fun _ hresult ↦ ⟨journal, hmem, hresult⟩⟩

/-- An update is marked for recovery, and that is the result. -/
theorem safe_markRecovery {expected : List UpdateState} {evidence reason : String}
    {installReceipt rollbackReceipt : Option PackageActionReceipt}
    (hat : At digests store input.plan state install rollback calls)
    (htraced : Traced input.plan.updateId .recoveryRequired (installReceipt.or install)
      (rollbackReceipt.or rollback) calls) :
    Safe digests fails Told
      (input.markRecovery digests expected evidence reason installReceipt rollbackReceipt >>=
        fun journal ↦ .fromExcept (toResult journal)) store :=
  safe_step hat (fun _ ↦ htraced) fun _ _ hmem hat ↦ safe_toResult hat.sound hmem

/-- The profile is held or released, and what follows. -/
theorem safe_changeHolds {α : Type} {returns : α → UpdateStore → Prop}
    {change : UpdateStore → Checked UpdateStore} {next : Checked Unit → UpdateCall α}
    (hs : SoundStore digests store)
    (hchange : ∀ t, change store = .ok t → ∃ holds, t = { store with holds := holds })
    (h : ∀ result holds, Safe digests fails returns (next result) { store with holds := holds }) :
    Safe digests fails returns ((Call.transaction change).attempt >>= next) store := by
  refine always_attempt ⟨fun e _ ↦ h (.error e) store.holds, fun t ht ↦ ?_⟩
  obtain ⟨holds, rfl⟩ := hchange t ht
  exact ⟨hs.hold holds, h (.ok ⟨⟩) holds⟩

theorem holds_of_releaseHold {check : Checked Unit} {keep : String → Bool} (t : UpdateStore)
    (h : (do check; return { store with holds := store.holds.filter keep }) = .ok t) :
    ∃ holds, t = { store with holds := holds } := by
  simp only [bind_eq_ok, pure_eq_ok] at h
  obtain ⟨_, _, rfl⟩ := h
  exact ⟨_, rfl⟩

/-- A call of the package driver, and what follows: with a receipt that the driver returned, or with
an exception, before or after the call. -/
theorem safe_perform {α : Type} {returns : α → UpdateStore → Prop} {action : PackageAction}
    {next : Checked PackageActionReceipt → UpdateCall α}
    (hat : At digests store input.plan state install rollback calls)
    (htraced : ∀ response, Traced input.plan.updateId state install rollback
      (calls ++ [⟨input.plan.updateId, action, response⟩]))
    (hraised : ∀ e t calls, At digests t input.plan state install rollback calls →
      Safe digests fails returns (next (.error e)) t)
    (hreceived : ∀ receipt t, receipt.action = action →
      At digests t input.plan state install rollback
        (calls ++ [⟨input.plan.updateId, action, .ok (some receipt)⟩]) →
      Safe digests fails returns (next (.ok receipt)) t) :
    Safe digests fails returns ((input.perform digests action).attempt >>= next) store := by
  obtain ⟨journal, hmem, hplan, rfl, rfl, rfl⟩ := hat.journal
  have hcommits (response : Checked (Option PackageActionReceipt)) : Commits digests store
      { store with
        invocations := store.invocations ++ [⟨input.plan.updateId, action, response⟩] } := by
    refine hat.sound.invoke hmem (by rw [hplan]) ?_
    rw [hplan, hat.calls]
    exact htraced response
  have hafter (response : Checked (Option PackageActionReceipt)) : At digests
      { store with invocations := store.invocations ++ [⟨input.plan.updateId, action, response⟩] }
      input.plan journal.state journal.installReceipt journal.rollbackReceipt
      (calls ++ [⟨input.plan.updateId, action, response⟩]) := by
    refine ⟨(hcommits response).sound, ⟨journal, hmem, hplan, rfl, rfl, rfl⟩, ?_⟩
    simp [UpdateStore.invocationsOf, List.filter_append, ← hat.calls]
  refine always_attempt ⟨fun e _ ↦ hraised e store calls hat, fun t ht ↦ ?_⟩
  cases ht
  refine ⟨hcommits _, ?_⟩
  show Safe digests fails returns (next (do
    let receipt ← input.driver (packageRequest digests input.plan action)
    validateReceipt digests receipt (packageRequest digests input.plan action)))
    { store with
      invocations := store.invocations ++ [⟨input.plan.updateId, action,
        input.driver (packageRequest digests input.plan action)⟩] }
  cases input.driver (packageRequest digests input.plan action) with
  | error e => exact hraised e _ _ (hafter (.error e))
  | ok response =>
    show Safe digests fails returns
      (next (validateReceipt digests response (packageRequest digests input.plan action))) _
    cases hvalid : validateReceipt digests response (packageRequest digests input.plan action) with
    | error e => exact hraised e _ _ (hafter (.ok response))
    | ok receipt =>
      obtain ⟨rfl, hvalidated⟩ := validated_of_validateReceipt hvalid
      exact hreceived receipt _ hvalidated.action (hafter _)

theorem safe_finalize {terminalState : UpdateState} {terminalEvidence : String}
    (hat : At digests store input.plan .finalizing install rollback calls) :
    Safe digests fails Told (input.finalize digests terminalState terminalEvidence) store := by
  have hmoved (newState : UpdateState) (hnew : newState ∈ UpdateState.finalizing.allowed) :
      Traced input.plan.updateId newState install rollback calls := by
    refine hat.traced.move (fun hprepared ↦ ?_) (fun h ↦ by cases h) (fun h ↦ by cases h)
    rw [hprepared] at hnew
    revert hnew
    decide
  unfold ApplyInput.finalize
  refine safe_changeHolds hat.sound holds_of_releaseHold fun released holds ↦ ?_
  have hat := hat.hold holds
  cases released with
  | error e => exact safe_markRecovery hat (hmoved _ (by decide))
  | ok u =>
    cases input.coordinationRelease with
    | error e => exact safe_markRecovery hat (hmoved _ (by decide))
    | ok u =>
      exact safe_step hat (hmoved _) fun _ _ hmem hat ↦ safe_toResult hat.sound hmem

/-- The package driver's call to roll back, and everything after it. -/
theorem safe_compensate {reason : String}
    (hat : At digests store input.plan state install none
      [⟨input.plan.updateId, .install, .ok (some receipt)⟩]) (hchanged : receipt.Changed) :
    Safe digests fails Told (input.compensate digests state receipt reason) store := by
  refine safe_step hat (fun _ ↦ .installed _ _) fun _ t _ hat ↦ ?_
  refine safe_perform hat (fun response ↦ .calledBack (by decide) hchanged response)
    (fun e t calls hat ↦ ?_) fun rollback t _ hat ↦ ?_
  · exact safe_markRecovery hat (hat.traced.move (by decide) (fun _ ↦ rfl) (by decide))
  have hrolledBack (state : UpdateState) : Traced input.plan.updateId state (some receipt)
      (some rollback) _ := .rolledBack state hchanged rollback
  by_cases hsucceeded : rollback.state ≠ .succeeded
  · simp only [if_pos hsucceeded]
    exact safe_markRecovery hat (hrolledBack _)
  simp only [if_neg hsucceeded]
  refine safe_step hat (fun _ ↦ hrolledBack _) fun _ t _ hat ↦ ?_
  cases input.restore with
  | error e => exact safe_markRecovery hat (hrolledBack _)
  | ok installed =>
    by_cases hhash : installed ≠ input.plan.snapshotSha256
    · simp only [if_pos hhash]
      exact safe_markRecovery hat (hrolledBack _)
    · simp only [if_neg hhash]
      exact safe_step hat (fun _ ↦ hrolledBack _) fun _ _ _ hat ↦ safe_finalize hat

theorem safe_installed
    (hat : At digests store input.plan .installing none none
      [⟨input.plan.updateId, .install, .ok (some receipt)⟩]) (haction : receipt.action = .install) :
    Safe digests fails Told (input.installed digests receipt) store := by
  have hstates := receipt.states
  rw [haction] at hstates
  have htraced (newState : UpdateState) :
      Traced input.plan.updateId newState (some receipt) none _ := .installed newState receipt
  unfold ApplyInput.installed
  cases hstate : receipt.state with
  | unknown => exact safe_markRecovery hat (htraced _)
  | failedSafe => exact safe_step hat (fun _ ↦ htraced _) fun _ _ _ hat ↦ safe_finalize hat
  | failedChanged => exact safe_compensate hat (.inr hstate)
  | succeeded =>
    refine safe_step hat (fun _ ↦ htraced _) fun _ t _ hat ↦ ?_
    cases input.validation with
    | error e => exact safe_compensate hat (.inl hstate)
    | ok u => exact safe_step hat (fun _ ↦ htraced _) fun _ _ _ hat ↦ safe_finalize hat
  | failed =>
    rw [hstate] at hstates
    exact absurd hstates (by decide)

/-- `apply` with the profile held, of an update that is only prepared. -/
theorem safe_install (hat : At digests store input.plan .prepared none none []) :
    Safe digests fails Told (input.install digests) store := by
  refine safe_fromExcept hat.sound fun _ _ ↦ ?_
  refine safe_step hat (fun _ ↦ .uncalled _) fun _ t _ hat ↦ ?_
  refine safe_perform hat (fun response ↦ .called (by decide) response) (fun e t calls hat ↦ ?_)
    fun receipt t haction hat ↦ safe_installed hat haction
  exact safe_markRecovery hat (hat.traced.move (by decide) (fun h ↦ by cases h) (by decide))

/-- What a call owns is released, and what follows. -/
theorem safe_releaseOwned {α : Type} {returns : α → UpdateStore → Prop} {held : Bool}
    {next : Unit → UpdateCall α} (hs : SoundStore digests store)
    (h : ∀ t, SoundStore digests t → Safe digests fails returns (next ⟨⟩) t) :
    Safe digests fails returns (input.releaseOwned held >>= next) store := by
  cases held with
  | false => exact h store hs
  | true =>
    refine always_bind (always_rescue ⟨fun e _ ↦ h store hs, fun t ht ↦ ?_⟩)
    obtain ⟨holds, rfl⟩ := holds_of_releaseHold t ht
    exact ⟨hs.hold _, h _ (hs.hold _).sound⟩

/-- An update that is in flight is marked for recovery. -/
theorem safe_markUnexpected {current : UpdateJournal} (hs : SoundStore digests store)
    (hmem : current ∈ store.journals) (hid : current.plan.updateId = input.plan.updateId)
    (e : Raised UpdateErrorClass) :
    Safe digests fails (fun journal t ↦ journal.state = .recoveryRequired → journal ∈ t.journals)
      (input.markUnexpected digests current e) store := by
  have hat := at_of_mem hs hmem
  unfold ApplyInput.markUnexpected ApplyInput.markRecovery
  rw [← hid]
  split_ifs with hflight
  · have hstates : current.state ≠ .prepared ∧ current.state ≠ .recoveryRequired := by
      revert hflight
      cases current.state <;> decide
    refine safe_rescue ((safe_transition hat fun _ ↦ ?_).mono fun result t hresult ↦ ?_)
      fun e t ht ↦ safe_pure ht fun hmarked ↦ absurd hmarked hstates.2
    · rw [Option.or_self, Option.or_self]
      exact hat.traced.move (by decide) (fun _ ↦ rfl) hstates.2
    · exact ⟨hresult.1, fun journal hjournal _ ↦ (hresult.2 journal hjournal).1⟩
  · exact safe_pure hs fun _ ↦ hmem

theorem safe_handle (hs : SoundStore digests store) (held : Bool) (e : Raised UpdateErrorClass) :
    Safe digests fails Told (input.handle digests held e) store := by
  unfold ApplyInput.handle
  split_ifs
  · exact safe_releaseOwned hs fun t ht ↦ safe_raise ht e
  refine safe_readJournal hs fun current hmem hid ↦ ?_
  refine safe_bind (safe_markUnexpected hs hmem hid e) fun after t ht hafter ↦ ?_
  by_cases hmarked : after.state = .recoveryRequired
  · simp only [if_pos hmarked]
    exact safe_toResult ht (hafter hmarked)
  · simp only [if_neg hmarked]
    exact safe_releaseOwned ht fun t ht ↦ safe_raise ht e

/-- A valid journal of an update that is only prepared has no receipts. -/
theorem At.of_prepared {journal : UpdateJournal} (hs : SoundStore digests store)
    (hmem : journal ∈ store.journals) (hprepared : journal.state = .prepared) :
    At digests store journal.plan .prepared none none [] := by
  have hvalid := hs.valid journal hmem
  simp only [UpdateJournal.validate, UpdateJournal.checkEvidence, hprepared, bind_eq_ok,
    require_eq_ok] at hvalid
  obtain ⟨_, _, _, _, _, _, _, _, _, _, _, ⟨hinstall, hrollback, _⟩, _⟩ := hvalid
  have hat := at_of_mem hs hmem
  rw [hprepared, hinstall, hrollback] at hat
  exact hat.traced.nil_of_prepared ▸ hat

theorem safe_hold (hs : SoundStore digests store) :
    Safe digests fails (fun _ t ↦ At digests t input.plan .prepared none none [])
      (input.hold digests) store := by
  refine safe_readJournal hs fun current hmem _ ↦ safe_fromExcept hs fun _ hcurrent ↦ ?_
  obtain ⟨hprepared, hplan⟩ := require_eq_ok.mp hcurrent
  have hat := At.of_prepared hs hmem hprepared
  refine ⟨fun e _ ↦ kept_error hs e, fun t ht ↦ ?_⟩
  simp only [bind_eq_ok, pure_eq_ok] at ht
  obtain ⟨_, _, rfl⟩ := ht
  exact ⟨hs.hold _, (hs.hold _).sound, fun _ _ ↦ hplan ▸ hat.hold _⟩

theorem safe_apply (hs : SoundStore digests store) :
    Safe digests fails Told (input.apply digests) store := by
  refine safe_readJournal hs fun _ _ _ ↦ ?_
  refine safe_fromExcept hs fun _ _ ↦ safe_fromExcept hs fun _ _ ↦ ?_
  refine safe_fromExcept hs fun _ _ ↦ safe_fromExcept hs fun _ _ ↦ ?_
  refine safe_attempt (safe_hold hs) fun result t ht hheld ↦ ?_
  cases result with
  | error e => exact safe_handle ht false e
  | ok u => exact safe_rescue (safe_install (hheld u rfl)) fun e t ht ↦ safe_handle ht true e

end

/-! ### Preparing an update -/

/-- The plan is that of an update that is prepared. -/
def Planned (plan : UpdatePlan) (store : UpdateStore) : Prop :=
  ∃ journal ∈ store.journals, journal.plan = plan ∧ journal.state = .prepared

section

variable {store : UpdateStore} {input : PrepareInput}

/-- An update that is only prepared is marked for recovery, if it exists. -/
theorem safe_cancel {updateId evidence : String} {reason : Option String}
    (hs : SoundStore digests store) :
    Safe digests fails (fun _ _ ↦ True) (transition digests updateId [.prepared] .recoveryRequired
      evidence ⟨none, none, none, reason⟩) store := by
  by_cases hexists : ∃ journal ∈ store.journals, journal.plan.updateId = updateId
  · obtain ⟨journal, hmem, rfl⟩ := hexists
    have hat := at_of_mem hs hmem
    refine (safe_transition hat fun hallowed ↦ ?_).mono fun _ _ h ↦ ⟨h.1, fun _ _ ↦ trivial⟩
    refine hat.traced.move (by decide) (fun _ ↦ rfl) fun hmarked ↦ ?_
    rw [hmarked] at hallowed
    cases hallowed
  · exact safe_readJournal hs fun journal hmem hid ↦ absurd ⟨journal, hmem, hid⟩ hexists

theorem safe_release {plan : UpdatePlan} {written : Checked Unit} (hs : SoundStore digests store)
    (hwritten : ∀ u, written = .ok u → Planned plan store) :
    Safe digests fails Planned (input.release digests plan written) store := by
  unfold PrepareInput.release
  cases input.coordinationRelease with
  | error e => exact safe_attempt (safe_cancel hs) fun _ t ht _ ↦ safe_raise ht _
  | ok u =>
    cases written with
    | error e => exact safe_raise hs e
    | ok u => exact safe_pure hs (hwritten u rfl)

/-- A plan is made only if every other update of the profile is settled. -/
theorem safe_makePlan {artifactSha256 : String} (hs : SoundStore digests store) :
    Safe digests fails (fun plan t ↦ ∀ other ∈ t.journals,
        other.plan.profileId = plan.profileId → other.state ∈ UpdateState.settled)
      (input.makePlan digests artifactSha256) store := by
  refine always_ask (fun e _ ↦ kept_error hs e) fun blocking hblocking ↦ ?_
  refine ⟨hs, fun plan hplan other hother hprofile ↦ ?_⟩
  simp only [bind_eq_ok, pure_eq_ok] at hblocking
  obtain ⟨_, _, rfl⟩ := hblocking
  simp only [bind_eq_ok, require_eq_ok, pure_eq_ok] at hplan
  obtain ⟨_, hnone, snapshot, _, logical, _, _, _, _, _, _, _, _, _, rfl⟩ := hplan
  by_contra hunsettled
  exact List.filter_eq_nil_iff.mp hnone other hother (decide_eq_true ⟨hprofile, hunsettled⟩)

theorem safe_createJournal {plan : UpdatePlan} (hs : SoundStore digests store)
    (hfree : ∀ other ∈ store.journals, other.plan.profileId = plan.profileId →
      other.state ∈ UpdateState.settled) :
    Safe digests fails (fun _ t ↦ Planned plan t) (createJournal digests (preparedJournal plan))
      store := by
  refine safe_fromExcept hs fun _ hvalid ↦ ⟨fun e _ ↦ kept_error hs e, fun t ht ↦ ?_⟩
  simp only [bind_eq_ok, require_eq_ok, pure_eq_ok] at ht
  obtain ⟨_, hfind, rfl⟩ := ht
  have hcommits := hs.create hfind hvalid rfl rfl hfree
  exact ⟨hcommits, hcommits.sound, fun _ _ ↦
    ⟨_, List.mem_append_right _ (List.mem_singleton_self _), rfl, rfl⟩⟩

theorem safe_prepare (hs : SoundStore digests store) :
    Safe digests fails Planned (input.prepare digests) store := by
  refine safe_fromExcept hs fun _ _ ↦ safe_fromExcept hs fun _ _ ↦ safe_fromExcept hs fun _ _ ↦ ?_
  refine safe_attempt (safe_makePlan hs) fun result t ht hplan ↦ ?_
  cases result with
  | error e =>
    show Safe digests fails Planned (input.failed e) t
    unfold PrepareInput.failed
    cases input.coordinationRelease with
    | error release => exact safe_raise ht _
    | ok u => exact safe_raise ht e
  | ok plan =>
    exact safe_attempt (safe_createJournal ht (hplan plan rfl)) fun _ _ hu ↦ safe_release hu

end

/-! ### What a journal is worth -/

/-- What the journal of an update is worth. -/
structure Accounted (digests : UpdateDigests) (journal : UpdateJournal) (calls : List Invocation) :
    Prop where
  valid : journal.validate digests = .ok ()
  /-- The package driver is called at most once to install, and then at most once to roll back. -/
  once : calls.map Invocation.action <+: [.install, .rollback]
  /-- It is called to roll back only what its own valid receipt says was changed. -/
  justified : ∀ call ∈ calls, call.action = .rollback → ∃ receipt,
    calls.head? = some ⟨journal.plan.updateId, .install, .ok (some receipt)⟩ ∧
      Validated digests receipt (packageRequest digests journal.plan .install) ∧ receipt.Changed
  /-- An update that succeeded has installed the target, and nothing was rolled back. -/
  succeeded : journal.state = .succeeded → ∃ receipt,
    calls = [⟨journal.plan.updateId, .install, .ok (some receipt)⟩] ∧
      Validated digests receipt (packageRequest digests journal.plan .install) ∧
        receipt.state = .succeeded
  /-- An update that failed safely has changed nothing. -/
  failedSafe : journal.state = .failedSafe → ∃ receipt,
    calls = [⟨journal.plan.updateId, .install, .ok (some receipt)⟩] ∧
      Validated digests receipt (packageRequest digests journal.plan .install) ∧
        receipt.state = .failedSafe
  /-- An update that was rolled back has the old package and the old creative state. -/
  rolledBack : journal.state = .rolledBack → ∃ receipt rollback,
    calls = [⟨journal.plan.updateId, .install, .ok (some receipt)⟩,
        ⟨journal.plan.updateId, .rollback, .ok (some rollback)⟩] ∧
      Validated digests receipt (packageRequest digests journal.plan .install) ∧ receipt.Changed ∧
        Validated digests rollback (packageRequest digests journal.plan .rollback) ∧
          rollback.state = .succeeded ∧ journal.restoredSha256 = some journal.plan.snapshotSha256

section

variable {store : UpdateStore} {journal : UpdateJournal}

/-- What a valid journal says of its receipts. -/
theorem validated_of_mem (hs : SoundStore digests store) (hmem : journal ∈ store.journals) :
    (∀ receipt, journal.installReceipt = some receipt →
      Validated digests receipt (packageRequest digests journal.plan .install)) ∧
    (∀ receipt, journal.rollbackReceipt = some receipt →
      Validated digests receipt (packageRequest digests journal.plan .rollback)) ∧
    journal.checkEvidence = .ok () := by
  have hvalid := hs.valid journal hmem
  simp only [UpdateJournal.validate, bind_eq_ok] at hvalid
  obtain ⟨_, _, _, _, _, hinstall, _, hrollback, _, _, _, hevidence, _⟩ := hvalid
  refine ⟨fun receipt hreceipt ↦ ?_, fun receipt hreceipt ↦ ?_, hevidence⟩
  · rw [hreceipt] at hinstall
    exact validated_of_checkReceipt hinstall
  · rw [hreceipt] at hrollback
    exact validated_of_checkReceipt hrollback

/-- An update that ended with the install alone. -/
theorem exists_install_only (hs : SoundStore digests store) (hmem : journal ∈ store.journals)
    {state : ReceiptState} (hinstall : journal.installState = some state)
    (hnone : journal.rollbackReceipt = none)
    (hended : journal.state ∉ [UpdateState.rollingBack, .recoveryRequired]) :
    ∃ receipt, store.invocationsOf journal.plan.updateId =
        [⟨journal.plan.updateId, .install, .ok (some receipt)⟩] ∧
      Validated digests receipt (packageRequest digests journal.plan .install) ∧
        receipt.state = state := by
  obtain ⟨receipt, hreceipt, hstate⟩ := Option.map_eq_some_iff.mp hinstall
  have htraced := hs.traced journal hmem
  rw [hreceipt, hnone] at htraced
  have hvalidated := (validated_of_mem hs hmem).1 receipt hreceipt
  exact ⟨receipt, htraced.install_only hended, hvalidated, hstate⟩

theorem accounted_of_sound (hs : SoundStore digests store) (hmem : journal ∈ store.journals) :
    Accounted digests journal (store.invocationsOf journal.plan.updateId) := by
  have htraced := hs.traced journal hmem
  obtain ⟨hinstalled, hrolledBack, hevidence⟩ := validated_of_mem hs hmem
  refine ⟨hs.valid journal hmem, htraced.once, fun call hcall haction ↦ ?_, fun hstate ↦ ?_,
    fun hstate ↦ ?_, fun hstate ↦ ?_⟩
  · obtain ⟨receipt, hreceipt, hchanged, hhead⟩ := htraced.justified hcall haction
    exact ⟨receipt, hhead, hinstalled receipt hreceipt, hchanged⟩
  · simp only [UpdateJournal.checkEvidence, hstate, bind_eq_ok, require_eq_ok] at hevidence
    obtain ⟨_, ⟨hinstall, hnone⟩, _⟩ := hevidence
    exact exists_install_only hs hmem hinstall hnone (by rw [hstate]; decide)
  · simp only [UpdateJournal.checkEvidence, hstate, bind_eq_ok, require_eq_ok] at hevidence
    obtain ⟨_, hinstall, hnone, _⟩ := hevidence
    exact exists_install_only hs hmem hinstall hnone (by rw [hstate]; decide)
  · simp only [UpdateJournal.checkEvidence, hstate, require_eq_ok, UpdateJournal.compensated,
      UpdateJournal.changed, UpdateJournal.installState, UpdateJournal.rollbackState,
      Option.map_eq_some_iff, decide_eq_true_eq] at hevidence
    obtain ⟨hchanged, ⟨rollback, hback, hsucceeded⟩, hrestored⟩ := hevidence
    obtain ⟨receipt, hreceipt⟩ : ∃ receipt, journal.installReceipt = some receipt := by
      rcases hchanged with ⟨receipt, hreceipt, _⟩ | ⟨receipt, hreceipt, _⟩
      · exact ⟨receipt, hreceipt⟩
      · exact ⟨receipt, hreceipt⟩
    rw [hreceipt, hback] at htraced
    exact ⟨receipt, rollback, htraced.both.2, hinstalled receipt hreceipt, htraced.both.1,
      hrolledBack rollback hback, hsucceeded, hrestored⟩

end

/-! ### Runs -/

theorem safe_updateProgram {store : UpdateStore} (operation : UpdateOperation)
    (hs : SoundStore digests store) :
    Safe digests fails (fun _ _ ↦ True) (updateProgram digests operation) store := by
  cases operation with
  | prepare input => exact safe_bind (safe_prepare hs) fun _ _ ht _ ↦ safe_pure ht trivial
  | apply input => exact safe_bind (safe_apply hs) fun _ _ ht _ ↦ safe_pure ht trivial

theorem sound_of_serves {operations : List UpdateOperation} {store t : UpdateStore}
    (hs : SoundStore digests store)
    (h : Serves fails (updateProgram digests) store operations t) :
    SoundStore digests t ∧ ExtendsStore store t := by
  obtain ⟨hcommits, ht⟩ := commits_of_serves
    (fun operation s hs ↦ (safe_updateProgram operation hs).mono fun _ _ _ ↦ trivial)
    (fun _ _ _ hcommit ↦ hcommit.sound) hs h
  refine ⟨ht, ?_⟩
  clear h ht
  induction hcommits with
  | refl => exact .refl store
  | tail _ hlast ih => exact ih.trans hlast.more

/-- However calls stop and fail, the journals account for every call of the package driver, a
profile has one update that is not settled, a result is what a journal says, and nothing is
forgotten. -/
theorem updates_accounted {operations rest : List UpdateOperation} {s t : UpdateStore}
    (hs : Serves fails (updateProgram digests) ⟨[], [], []⟩ operations s)
    (ht : Serves fails (updateProgram digests) s rest t) :
    (∀ journal ∈ t.journals,
      Accounted digests journal (t.invocationsOf journal.plan.updateId)) ∧
    (∀ call ∈ t.invocations, ∃ journal ∈ t.journals, journal.plan.updateId = call.updateId) ∧
    (∀ journal ∈ t.journals, ∀ other ∈ t.journals, journal.plan.profileId = other.plan.profileId →
      journal.state ∉ UpdateState.settled → other.state ∉ UpdateState.settled → journal = other) ∧
    (∀ (input : ApplyInput) (result : UpdateResult) (u : UpdateStore),
      Goes fails (input.apply digests) t (some (.ok result)) u →
        ∃ journal ∈ u.journals, toResult journal = .ok result) ∧
    s.invocations <+: t.invocations ∧
    ∀ journal ∈ s.journals, ∃ other ∈ t.journals, Later journal other := by
  obtain ⟨hsound, _⟩ := sound_of_serves sound_empty hs
  obtain ⟨hafter, hmore⟩ := sound_of_serves hsound ht
  refine ⟨fun journal hmem ↦ accounted_of_sound hafter hmem, hafter.known,
    fun journal hmem other hother hprofile hstate hotherState ↦ ?_, fun input result u hgoes ↦ ?_,
    hmore.invocations, hmore.journals⟩
  · by_contra hne
    exact ((hafter.apart.forall hmem hother hne).2 hprofile).elim hstate hotherState
  · exact ((commits_of_goes (safe_apply hafter) hgoes).2 (.ok result) rfl).2 result rfl

/-- Fingerprints that tell an install from a rollback. -/
def sampleDigests : UpdateDigests where
  plan _ := "plan"
  request request := if request.action = .install then "install" else "rollback"

/-- An update is prepared. -/
def samplePrepare : PrepareInput where
  profileId := "prf_1"
  currentReleaseId := "r1"
  releaseId := "r2"
  version := "2"
  manifestFingerprint := "m"
  artifactId := "a"
  targetFingerprint := "t"
  dataRootFingerprint := "d"
  runtime := .ok ()
  verification := .ok "h"
  coordination := .ok ()
  snapshot := .ok ⟨"s", 1, "5"⟩
  snapshotLogical := .ok "l"
  quit := .ok "STOPPED"
  liveLogical := .ok "l"
  updateId := "upd_1"
  coordinationRelease := .ok ()

/-- The package is changed, but not installed. -/
def sampleDriver (request : PackageActionRequest) : Checked (Option PackageActionReceipt) :=
  match request.action with
  | .install => .ok (some ⟨"install", .install, .failedChanged, "log", none, by decide⟩)
  | .rollback => .ok (some ⟨"rollback", .rollback, .succeeded, "log", some "r1", by decide⟩)

/-- The update is applied. -/
def sampleApply : ApplyInput where
  plan := samplePrepare.plan "h" "l" ⟨"s", 1, "5"⟩
  verification := .ok ()
  coordination := .ok ()
  profileHold := .ok ()
  liveState := .ok ()
  driver := sampleDriver
  validation := .ok ()
  restore := .ok "s"
  profileRelease := .ok ()
  coordinationRelease := .ok ()

/-- The update is rolled back, and its journal accounts for both calls. -/
theorem sample_update_accounted : ∃ t : UpdateStore,
    t.journals.map UpdateJournal.state = [.rolledBack] ∧ ∀ journal ∈ t.journals,
      Accounted sampleDigests journal (t.invocationsOf journal.plan.updateId) := by
  have hprepare := goes_alone (fun _ ↦ False) (updateProgram sampleDigests (.prepare samplePrepare))
    ⟨[], [], []⟩
  have happly := goes_alone (fun _ ↦ False) (updateProgram sampleDigests (.apply sampleApply))
    ((updateProgram sampleDigests (.prepare samplePrepare)).alone ⟨[], [], []⟩).2
  exact ⟨_, by decide +kernel,
    (updates_accounted (.call hprepare (.none _)) (.call happly (.none _))).1⟩

end N0te.Updating
