import Mathlib.Data.List.Pairwise
import N0te.Update.Coordinator

/-!
# The store of the update coordinator

`SoundStore` is what every transaction of the coordinator keeps: every journal is valid and says
truly how the package driver was called (`Traced`), and a profile has one update that is not
settled. `ExtendsStore` is what transactions add to.
-/

set_option autoImplicit false
set_option relaxedAutoImplicit false

namespace N0te.Updating

open Library

variable {digests : UpdateDigests}

/-! ### Receipts -/

/-- What a receipt that is validated says. -/
structure Validated (digests : UpdateDigests) (receipt : PackageActionReceipt)
    (request : PackageActionRequest) : Prop where
  action : receipt.action = request.action
  fingerprint : receipt.requestFingerprint = digests.request request
  target : request.action = .install → receipt.state = .succeeded →
    receipt.resultingReleaseId = some request.targetReleaseId
  current : request.action = .install → receipt.state = .failedSafe →
    receipt.resultingReleaseId = some request.currentReleaseId
  restored : request.action = .rollback → receipt.state = .succeeded →
    receipt.resultingReleaseId = some request.currentReleaseId

theorem validated_of_validateReceipt {response : Option PackageActionReceipt}
    {receipt : PackageActionReceipt} {request : PackageActionRequest}
    (h : validateReceipt digests response request = .ok receipt) :
    response = some receipt ∧ Validated digests receipt request := by
  simp only [validateReceipt, bind_eq_ok, orRaise_eq_ok, require_eq_ok] at h
  obtain ⟨found, hresponse, _, haction, _, hrequest, h⟩ := h
  cases hkind : request.action with
  | install =>
    simp only [hkind, bind_eq_ok, require_eq_ok, pure_eq_ok] at h
    obtain ⟨_, htarget, _, hcurrent, rfl⟩ := h
    refine ⟨hresponse, haction, hrequest, fun _ ↦ htarget, fun _ ↦ hcurrent, fun hother ↦ ?_⟩
    rw [hkind] at hother
    cases hother
  | rollback =>
    simp only [hkind, bind_eq_ok, require_eq_ok, pure_eq_ok] at h
    obtain ⟨_, hrestored, rfl⟩ := h
    refine ⟨hresponse, haction, hrequest, fun hother ↦ ?_, fun hother ↦ ?_, fun _ ↦ hrestored⟩
    · rw [hkind] at hother
      cases hother
    · rw [hkind] at hother
      cases hother

theorem validated_of_checkReceipt {receipt : PackageActionReceipt} {request : PackageActionRequest}
    {message : String}
    (h : UpdateJournal.checkReceipt digests (some receipt) request message = .ok ()) :
    Validated digests receipt request := by
  unfold UpdateJournal.checkReceipt at h
  cases hvalid : validateReceipt digests (some receipt) request with
  | error e =>
    simp only [hvalid] at h
    cases h
  | ok other =>
    obtain ⟨hsame, hvalidated⟩ := validated_of_validateReceipt hvalid
    cases hsame
    exact hvalidated

/-! ### The calls of the package driver -/

/-- The calls of the package driver for an update. -/
def UpdateStore.invocationsOf (store : UpdateStore) (updateId : String) : List Invocation :=
  store.invocations.filter fun invocation ↦ invocation.updateId = updateId

/-- The receipt is about a package that was changed. -/
def PackageActionReceipt.Changed (receipt : PackageActionReceipt) : Prop :=
  receipt.state = .succeeded ∨ receipt.state = .failedChanged

/-- How the package driver was called for an update whose journal has this state, install receipt
and rollback receipt: at most once to install, and at most once to roll back what was changed. -/
inductive Traced (updateId : String) : UpdateState → Option PackageActionReceipt →
    Option PackageActionReceipt → List Invocation → Prop
  | uncalled (state : UpdateState) : Traced updateId state none none []
  /-- What the install came to is not known. -/
  | called {state : UpdateState} (hstate : state ≠ .prepared)
      (response : Checked (Option PackageActionReceipt)) :
      Traced updateId state none none [⟨updateId, .install, response⟩]
  | installed (state : UpdateState) (receipt : PackageActionReceipt) :
      Traced updateId state (some receipt) none [⟨updateId, .install, .ok (some receipt)⟩]
  /-- What the rollback came to is not known. -/
  | calledBack {state : UpdateState} {receipt : PackageActionReceipt}
      (hstate : state ∈ [UpdateState.rollingBack, .recoveryRequired]) (hchanged : receipt.Changed)
      (response : Checked (Option PackageActionReceipt)) :
      Traced updateId state (some receipt) none
        [⟨updateId, .install, .ok (some receipt)⟩, ⟨updateId, .rollback, response⟩]
  | rolledBack (state : UpdateState) {receipt : PackageActionReceipt} (hchanged : receipt.Changed)
      (rollback : PackageActionReceipt) : Traced updateId state (some receipt) (some rollback)
        [⟨updateId, .install, .ok (some receipt)⟩, ⟨updateId, .rollback, .ok (some rollback)⟩]

section

variable {updateId : String} {state newState : UpdateState} {calls : List Invocation}
variable {install rollback : Option PackageActionReceipt}

/-- The update moves on without a call of the package driver. -/
theorem Traced.move (h : Traced updateId state install rollback calls) (hnew : newState ≠ .prepared)
    (hopen : state = .rollingBack → newState = .recoveryRequired)
    (hrecovery : state ≠ .recoveryRequired) :
    Traced updateId newState install rollback calls := by
  cases h with
  | uncalled => exact .uncalled _
  | called _ response => exact .called hnew response
  | installed => exact .installed _ _
  | rolledBack hchanged => exact .rolledBack _ hchanged _
  | calledBack hstate hchanged response =>
    refine .calledBack ?_ hchanged response
    rcases List.mem_pair.mp hstate with hback | hmarked
    · rw [hopen hback]
      exact List.mem_pair.mpr (.inr rfl)
    · exact absurd hmarked hrecovery

theorem Traced.nil_of_prepared (h : Traced updateId .prepared none none calls) : calls = [] := by
  cases h with
  | uncalled => rfl
  | called hstate => exact absurd rfl hstate

theorem Traced.once (h : Traced updateId state install rollback calls) :
    calls.map Invocation.action <+: [.install, .rollback] := by
  cases h <;> simp

theorem Traced.justified (h : Traced updateId state install rollback calls) {call : Invocation}
    (hcall : call ∈ calls) (haction : call.action = .rollback) :
    ∃ receipt, install = some receipt ∧ receipt.Changed ∧
      calls.head? = some ⟨updateId, .install, .ok (some receipt)⟩ := by
  cases h with
  | uncalled => cases hcall
  | called | installed =>
    rw [List.mem_singleton.mp hcall] at haction
    cases haction
  | calledBack _ hchanged | rolledBack hchanged => exact ⟨_, rfl, hchanged, rfl⟩

theorem Traced.install_only {receipt : PackageActionReceipt}
    (h : Traced updateId state (some receipt) none calls)
    (hstate : state ∉ [UpdateState.rollingBack, .recoveryRequired]) :
    calls = [⟨updateId, .install, .ok (some receipt)⟩] := by
  cases h with
  | installed => rfl
  | calledBack hopen => exact absurd hopen hstate

theorem Traced.both {receipt back : PackageActionReceipt}
    (h : Traced updateId state (some receipt) (some back) calls) : receipt.Changed ∧ calls =
      [⟨updateId, .install, .ok (some receipt)⟩, ⟨updateId, .rollback, .ok (some back)⟩] := by
  cases h with
  | rolledBack hchanged => exact ⟨hchanged, rfl⟩

end

/-! ### Journals that go on -/

/-- A later version of a journal. -/
structure Later (before after : UpdateJournal) : Prop where
  plan : after.plan = before.plan
  history : before.history <+: after.history
  /-- An update that has ended stays as it is. -/
  terminal : before.state ∈ UpdateState.terminal → after = before

theorem Later.refl (journal : UpdateJournal) : Later journal journal :=
  ⟨rfl, List.prefix_rfl, fun _ ↦ rfl⟩

theorem Later.trans {first second third : UpdateJournal} (h : Later first second)
    (hrest : Later second third) : Later first third := by
  refine ⟨hrest.plan.trans h.plan, h.history.trans hrest.history, fun hterminal ↦ ?_⟩
  have hsecond := h.terminal hterminal
  rw [hsecond] at hrest
  exact hrest.terminal hterminal

/-- What a transition makes of a journal. -/
structure Advances (journal : UpdateJournal) (newState : UpdateState) (added : Evidence)
    (after : UpdateJournal) : Prop where
  allowed : newState ∈ journal.state.allowed
  plan : after.plan = journal.plan
  state : after.state = newState
  history : journal.history <+: after.history
  installReceipt : after.installReceipt = added.installReceipt.or journal.installReceipt
  rollbackReceipt : after.rollbackReceipt = added.rollbackReceipt.or journal.rollbackReceipt

theorem advances_of_advance {journal after : UpdateJournal} {expected : List UpdateState}
    {newState : UpdateState} {evidence : String} {added : Evidence}
    (h : journal.advance expected newState evidence added = .ok after) :
    Advances journal newState added after := by
  simp only [UpdateJournal.advance, bind_eq_ok, require_eq_ok, pure_eq_ok] at h
  obtain ⟨_, _, _, hallowed, text, _, reason, _, rfl⟩ := h
  exact ⟨hallowed, rfl, rfl, List.prefix_append _ _, rfl, rfl⟩

/-- An update that has ended goes nowhere. -/
theorem Advances.later {journal after : UpdateJournal} {newState : UpdateState} {added : Evidence}
    (h : Advances journal newState added after) : Later journal after := by
  refine ⟨h.plan, h.history, fun hterminal ↦ ?_⟩
  have hallowed := h.allowed
  have hnone : journal.state.allowed = [] := by
    revert hterminal
    cases journal.state <;> decide
  rw [hnone] at hallowed
  cases hallowed

/-! ### Stores -/

/-- Two updates have different ids, and one of them is settled if they are of one profile. -/
def Apart (journal other : UpdateJournal) : Prop :=
  journal.plan.updateId ≠ other.plan.updateId ∧ (journal.plan.profileId = other.plan.profileId →
    journal.state ∈ UpdateState.settled ∨ other.state ∈ UpdateState.settled)

instance symm_apart : Std.Symm Apart :=
  ⟨fun _ _ h ↦ ⟨h.1.symm, fun hprofile ↦ (h.2 hprofile.symm).symm⟩⟩

/-- What the store keeps. -/
structure SoundStore (digests : UpdateDigests) (store : UpdateStore) : Prop where
  apart : store.journals.Pairwise Apart
  valid : ∀ journal ∈ store.journals, journal.validate digests = .ok ()
  /-- The package driver is called for an update that has a journal. -/
  known : ∀ call ∈ store.invocations,
    ∃ journal ∈ store.journals, journal.plan.updateId = call.updateId
  traced : ∀ journal ∈ store.journals, Traced journal.plan.updateId journal.state
    journal.installReceipt journal.rollbackReceipt (store.invocationsOf journal.plan.updateId)

/-- A store that has everything that another has, and may have more. -/
structure ExtendsStore (before after : UpdateStore) : Prop where
  invocations : before.invocations <+: after.invocations
  journals : ∀ journal ∈ before.journals, ∃ other ∈ after.journals, Later journal other

theorem ExtendsStore.refl (store : UpdateStore) : ExtendsStore store store :=
  ⟨List.prefix_rfl, fun journal hmem ↦ ⟨journal, hmem, .refl journal⟩⟩

theorem ExtendsStore.trans {first second third : UpdateStore} (h : ExtendsStore first second)
    (hrest : ExtendsStore second third) : ExtendsStore first third := by
  refine ⟨h.invocations.trans hrest.invocations, fun journal hmem ↦ ?_⟩
  obtain ⟨other, hother, hlater⟩ := h.journals journal hmem
  obtain ⟨last, hlast, hlaterLast⟩ := hrest.journals other hother
  exact ⟨last, hlast, hlater.trans hlaterLast⟩

/-- What a transaction does. -/
structure Commits (digests : UpdateDigests) (before after : UpdateStore) : Prop where
  sound : SoundStore digests after
  more : ExtendsStore before after

section

variable {store : UpdateStore} {journal after : UpdateJournal} {updateId : String}

theorem sound_empty : SoundStore digests ⟨[], [], []⟩ :=
  ⟨.nil, List.forall_mem_nil _, List.forall_mem_nil _, List.forall_mem_nil _⟩

theorem SoundStore.eq_of_updateId (h : SoundStore digests store) {other : UpdateJournal}
    (hmem : journal ∈ store.journals) (hother : other ∈ store.journals)
    (hid : other.plan.updateId = journal.plan.updateId) : other = journal := by
  by_contra hne
  exact (h.apart.forall hother hmem hne).1 hid

theorem mem_of_find (h : store.find updateId = some journal) :
    journal ∈ store.journals ∧ journal.plan.updateId = updateId :=
  ⟨List.mem_of_find?_eq_some h, by simpa using List.find?_some h⟩

/-- A new version of a journal is written. -/
theorem SoundStore.put (h : SoundStore digests store) (hmem : journal ∈ store.journals)
    (hlater : Later journal after) (hvalid : after.validate digests = .ok ())
    (htraced : Traced after.plan.updateId after.state after.installReceipt after.rollbackReceipt
      (store.invocationsOf after.plan.updateId)) :
    Commits digests store (store.put after) ∧ after ∈ (store.put after).journals := by
  have hsame {other : UpdateJournal} (hother : other ∈ store.journals)
      (hid : other.plan.updateId = after.plan.updateId) : other = journal :=
    h.eq_of_updateId hmem hother (hid.trans (by rw [hlater.plan]))
  -- What becomes of each journal.
  have hput (other : UpdateJournal) (hother : other ∈ store.journals) :
      Later other (if other.plan.updateId = after.plan.updateId then after else other) := by
    split_ifs with hid
    · exact hsame hother hid ▸ hlater
    · exact .refl other
  have hsettled (other : UpdateJournal) (hother : other ∈ store.journals)
      (hstate : other.state ∈ UpdateState.settled) :
      (if other.plan.updateId = after.plan.updateId then after else other).state ∈
        UpdateState.settled := by
    rw [(hput other hother).terminal (List.mem_append_left _ hstate)]
    exact hstate
  refine ⟨⟨⟨?_, ?_, ?_, ?_⟩, ⟨List.prefix_rfl, fun other hother ↦ ?_⟩⟩, ?_⟩
  · refine List.pairwise_map.mpr (h.apart.imp_of_mem fun {first second} hfirst hsecond hapart ↦ ?_)
    unfold Apart
    rw [(hput first hfirst).plan, (hput second hsecond).plan]
    exact ⟨hapart.1, fun hprofile ↦
      (hapart.2 hprofile).imp (hsettled first hfirst) (hsettled second hsecond)⟩
  · refine List.forall_mem_map.mpr fun other hother ↦ ?_
    split_ifs
    · exact hvalid
    · exact h.valid other hother
  · intro call hcall
    obtain ⟨other, hother, hid⟩ := h.known call hcall
    exact ⟨_, List.mem_map_of_mem hother, by rw [(hput other hother).plan, hid]⟩
  · refine List.forall_mem_map.mpr fun other hother ↦ ?_
    split_ifs
    · exact htraced
    · exact h.traced other hother
  · exact ⟨_, List.mem_map_of_mem hother, hput other hother⟩
  · exact List.mem_map.mpr ⟨journal, hmem, if_pos (by rw [hlater.plan])⟩

/-- A first journal is written. -/
theorem SoundStore.create (h : SoundStore digests store)
    (hfind : store.find journal.plan.updateId = none) (hvalid : journal.validate digests = .ok ())
    (hinstall : journal.installReceipt = none) (hrollback : journal.rollbackReceipt = none)
    (hsingle : ∀ other ∈ store.journals, other.plan.profileId = journal.plan.profileId →
      other.state ∈ UpdateState.settled) :
    Commits digests store { store with journals := store.journals ++ [journal] } := by
  have hnew : ∀ other ∈ store.journals, other.plan.updateId ≠ journal.plan.updateId := by
    simpa [UpdateStore.find] using hfind
  refine ⟨⟨?_, ?_, fun call hcall ↦ ?_, ?_⟩, ⟨List.prefix_rfl, fun other hother ↦ ?_⟩⟩
  · refine List.pairwise_append.mpr
      ⟨h.apart, List.pairwise_singleton _ _, fun other hother last hlast ↦ ?_⟩
    rw [List.mem_singleton.mp hlast]
    exact ⟨hnew other hother, fun hprofile ↦ .inl (hsingle other hother hprofile)⟩
  · exact List.forall_mem_append.mpr ⟨h.valid, List.forall_mem_singleton.mpr hvalid⟩
  · obtain ⟨other, hother, hid⟩ := h.known call hcall
    exact ⟨other, List.mem_append_left _ hother, hid⟩
  · refine List.forall_mem_append.mpr ⟨h.traced, List.forall_mem_singleton.mpr ?_⟩
    have hnone : store.invocationsOf journal.plan.updateId = [] := by
      refine List.filter_eq_nil_iff.mpr fun call hcall hid ↦ ?_
      obtain ⟨other, hother, hsame⟩ := h.known call hcall
      exact hnew other hother (hsame.trans (of_decide_eq_true hid))
    show Traced _ _ _ _ (store.invocationsOf journal.plan.updateId)
    rw [hnone, hinstall, hrollback]
    exact .uncalled _
  · exact ⟨other, List.mem_append_left _ hother, .refl other⟩

/-- The package driver is called. -/
theorem SoundStore.invoke {call : Invocation} (h : SoundStore digests store)
    (hmem : journal ∈ store.journals) (hid : journal.plan.updateId = call.updateId)
    (htraced : Traced journal.plan.updateId journal.state journal.installReceipt
      journal.rollbackReceipt (store.invocationsOf journal.plan.updateId ++ [call])) :
    Commits digests store { store with invocations := store.invocations ++ [call] } := by
  refine ⟨⟨h.apart, h.valid, ?_, fun other hother ↦ ?_⟩,
    ⟨List.prefix_append _ _, fun other hother ↦ ⟨other, hother, .refl other⟩⟩⟩
  · exact List.forall_mem_append.mpr ⟨h.known, List.forall_mem_singleton.mpr ⟨journal, hmem, hid⟩⟩
  · by_cases hsame : other.plan.updateId = journal.plan.updateId
    · rw [h.eq_of_updateId hmem hother hsame]
      simpa [UpdateStore.invocationsOf, hid] using htraced
    · have hne : call.updateId ≠ other.plan.updateId := fun heq ↦ hsame (heq.symm.trans hid.symm)
      simpa [UpdateStore.invocationsOf, hne] using h.traced other hother

/-- The profiles that are held change. -/
theorem SoundStore.hold (h : SoundStore digests store) (holds : List String) :
    Commits digests store { store with holds := holds } :=
  ⟨⟨h.apart, h.valid, h.known, h.traced⟩,
    ⟨List.prefix_rfl, fun journal hmem ↦ ⟨journal, hmem, .refl journal⟩⟩⟩

end

end N0te.Updating
