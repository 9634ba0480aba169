import N0te.Lease.Exclusion

/-!
# Leftover files

When every other process is dead, a process that calls `acquire` meets whatever lease and marker the
dead left behind. `ends_attempt` says that it gets the lease from any files that fit together
(`FilesFit`): a marker names the lease in the file, or one that was archived and removed, or the lease
is already its taker's.

The files fit together after every run in which what is created rests on what was read
(`undisturbed`): a marker names the lease that is still there, a lease is created while there is no
marker, and the marker that is cleared is the one that was read. `acquire_recovers` is the guarantee for
these runs. A process that finds its own marker next to the lease of another never removes the marker
(`sample_stuck_marker`), and neither does one that probes the taker of a marker and finds its own
workflow alive.
-/

set_option autoImplicit false
set_option relaxedAutoImplicit false

namespace N0te.Lease

open Library

/-! ### Files that fit together -/

/-- The files fit together. -/
structure FilesFit (store : LeaseStore) : Prop where
  /-- A marker names the lease in the file, or an archived one that is gone, or the lease is its
  taker's. -/
  marker : ∀ marker, store.marker = some marker →
    store.lease = some marker.expectedPrevious ∨
    store.lease = none ∧
      store.archive marker.expectedPrevious.leaseNonce = some marker.expectedPrevious ∨
    ∃ lease, store.lease = some lease ∧ lease.process = marker.taker
  /-- An archive has a nonce that was drawn. -/
  archived : ∀ n lease, store.archive n = some lease → n < store.nextNonce
  /-- So has the lease. -/
  drawn : ∀ lease, store.lease = some lease → lease.leaseNonce < store.nextNonce
  /-- An archive of the nonce of the lease is the lease. -/
  same : ∀ lease archived, store.lease = some lease →
    store.archive lease.leaseNonce = some archived → archived = lease

/-- What a live process knows of the archive and of its own marker. -/
def PhaseFits (store : LeaseStore) (self : ProcessIdentity) : Phase → Prop
  | .rechecking _ marker | .unlinkingLease _ marker =>
    store.archive marker.expectedPrevious.leaseNonce = some marker.expectedPrevious
  | .unlinkingReleased _ => ∀ marker, store.marker = some marker → marker.taker ≠ self
  | _ => True

/-- What a process knows after a file operation. -/
def NextFits (store : LeaseStore) (self : ProcessIdentity) : Next → Prop
  | .goto phase => PhaseFits store self phase
  | _ => True

def restsOnRead (store : LeaseStore) : Phase → Bool
  | .unlinkingMarker _ marker => store.marker.all fun current ↦ current.same marker
  | .creatingMarker _ lease => store.marker.isSome || store.lease == some lease
  | .creatingLease _ => store.lease.isSome || store.marker.isNone
  | _ => true

section

variable {dead started : ProcessIdentity → Prop} {store : LeaseStore} {self : ProcessIdentity}
  {answer : ProbeAnswer} {phase : Phase}

/-- What a file operation of a live process keeps of the fit. -/
structure ActFits (store : LeaseStore) (owner : ProcessIdentity) (result : LeaseStore × Next) :
    Prop where
  files : FilesFit result.1
  /-- The process knows. -/
  next : NextFits result.1 owner result.2
  /-- Archives stay. -/
  archive : ∀ n lease, store.archive n = some lease → result.1.archive n = some lease
  /-- No marker is created but the process's own. -/
  marker : ∀ marker, result.1.marker = some marker → store.marker = some marker ∨ marker.taker = owner

theorem ActFits.unchanged {next : Next} (hfit : FilesFit store) (h : NextFits store self next) :
    ActFits store self (store, next) := ⟨hfit, h, fun _ _ h ↦ h, fun _ h ↦ .inl h⟩

theorem phaseFits_attempt (attempts : ℕ) : PhaseFits store self (attempt attempts) := by
  cases attempts <;> trivial

theorem FilesFit.createLease (h : FilesFit store)
    (hmarker : ∀ marker, store.marker = some marker → marker.taker = self) :
    FilesFit (store.createLease self) := by
  constructor
  · exact fun marker hm ↦ .inr (.inr ⟨_, rfl, (hmarker marker hm).symm⟩)
  · exact fun n lease harchive ↦ Nat.lt_succ_of_lt (h.archived n lease harchive)
  · intro lease hlease
    cases hlease
    exact Nat.lt_succ_self _
  · intro lease archived hlease harchive
    cases hlease
    exact absurd (h.archived _ _ harchive) (Nat.lt_irrefl _)

/-- Creating a marker next to the lease it names. -/
theorem FilesFit.createMarker (h : FilesFit store) {lease : InstanceLease}
    (hlease : store.lease = some lease) : FilesFit (store.createMarker self lease) := by
  constructor
  · intro marker hmarker
    cases hmarker
    exact .inl hlease
  · exact fun n archived harchive ↦ Nat.lt_succ_of_lt (h.archived n archived harchive)
  · exact fun other hother ↦ Nat.lt_succ_of_lt (h.drawn other hother)
  · exact h.same

theorem FilesFit.unlinkMarker (h : FilesFit store) : FilesFit store.unlinkMarker :=
  ⟨nofun, h.archived, h.drawn, h.same⟩

/-- Unlinking the lease when a marker, if there is one, names an archived lease. -/
theorem FilesFit.unlinkLease (h : FilesFit store) (hmarker : ∀ marker, store.marker = some marker →
    store.archive marker.expectedPrevious.leaseNonce = some marker.expectedPrevious) :
    FilesFit store.unlinkLease :=
  ⟨fun marker hm ↦ .inr (.inl ⟨rfl, hmarker marker hm⟩), h.archived, nofun, nofun⟩

theorem FilesFit.archiveLease (h : FilesFit store) {lease : InstanceLease}
    (hlease : store.lease = some lease) (hnone : store.archive lease.leaseNonce = none) :
    FilesFit (store.archiveLease lease) ∧
      ∀ n other, store.archive n = some other → (store.archiveLease lease).archive n = some other := by
  have hkept : ∀ n other, store.archive n = some other →
      (store.archiveLease lease).archive n = some other := by
    intro n other hother
    refine (if_neg fun hn ↦ ?_).trans hother
    rw [hn, hnone] at hother
    cases hother
  refine ⟨⟨fun marker hmarker ↦ ?_, fun n other hother ↦ ?_, h.drawn, fun other archived hother harchived ↦ ?_⟩,
    hkept⟩
  · rcases h.marker marker hmarker with hexpected | ⟨hgone, harchive⟩ | howned
    · exact .inl hexpected
    · exact .inr (.inl ⟨hgone, hkept _ _ harchive⟩)
    · exact .inr (.inr howned)
  · by_cases hn : n = lease.leaseNonce
    · exact hn ▸ h.drawn lease hlease
    · exact h.archived n other ((if_neg hn).symm.trans hother)
  · cases hlease.symm.trans hother
    exact (Option.some.inj ((if_pos rfl).symm.trans harchived)).symm

/-- One file operation of a live process that rests on what was read. -/
theorem act_fits (hfit : FilesFit store) (hphase : PhaseFits store self phase)
    (hsafe : PhaseSafe dead started store self phase) (hstore : StoreSafe dead started store)
    (hself : ¬ dead self) (hrests : restsOnRead store phase = true) :
    ActFits store self (act self answer store phase) := by
  cases phase with
  | readingMarker attempts =>
    dsimp only [act]
    rcases store.marker with _ | marker
    · exact .unchanged hfit trivial
    · dsimp only
      split_ifs with htaker
      · exact .unchanged hfit trivial
      · exact .unchanged hfit trivial
  | probingTaker attempts marker => cases answer <;> exact .unchanged hfit trivial
  | inspectingHeld marker => exact .unchanged hfit trivial
  | removing attempts marker =>
    dsimp only [act]
    rcases store.marker with _ | current
    · exact .unchanged hfit (phaseFits_attempt attempts)
    · dsimp only
      split_ifs with hsame
      · exact .unchanged hfit trivial
      · exact .unchanged hfit trivial
  | unlinkingMarker attempts marker =>
    dsimp only [act]
    rcases hmarker : store.marker with _ | current
    · exact .unchanged hfit trivial
    · exact ⟨hfit.unlinkMarker, phaseFits_attempt attempts, fun _ _ h ↦ h, nofun⟩
  | readingLease attempts =>
    dsimp only [act]
    rcases store.lease with _ | current
    · exact .unchanged hfit trivial
    · dsimp only
      split_ifs with howner hstale
      · exact .unchanged hfit trivial
      · exact .unchanged hfit trivial
      · exact .unchanged hfit trivial
  | creatingLease attempts =>
    dsimp only [act]
    rcases hlease : store.lease with _ | current
    · have hnone : store.marker = none := by
        simpa [restsOnRead, hlease] using hrests
      refine ⟨hfit.createLease fun marker hmarker ↦ ?_, trivial, fun _ _ h ↦ h, fun _ h ↦ .inl h⟩
      cases hnone.symm.trans hmarker
    · exact .unchanged hfit (phaseFits_attempt attempts)
  | probingOwner attempts current => cases answer <;> exact .unchanged hfit trivial
  | creatingMarker attempts current =>
    dsimp only [act]
    rcases hmarker : store.marker with _ | marker
    · have hlease : store.lease = some current := by
        simpa [restsOnRead, hmarker] using hrests
      refine ⟨hfit.createMarker hlease, trivial, fun _ _ h ↦ h, fun marker h ↦ ?_⟩
      cases h
      exact .inr rfl
    · exact .unchanged hfit (phaseFits_attempt attempts)
  | completing attempts marker =>
    dsimp only [act]
    rcases store.lease with _ | latest
    · exact .unchanged hfit trivial
    · dsimp only
      split_ifs with howner hexpected hstale
      · exact .unchanged hfit trivial
      · exact .unchanged hfit trivial
      · exact .unchanged hfit trivial
      · exact .unchanged hfit (phaseFits_attempt attempts)
  | probingExpected attempts marker => cases answer <;> exact .unchanged hfit trivial
  | archiving attempts marker =>
    obtain ⟨howns, hlease⟩ := hsafe
    dsimp only [act]
    rcases harchive : store.archive marker.expectedPrevious.leaseNonce with _ | archived
    · obtain ⟨hfiles, hkept⟩ := hfit.archiveLease hlease harchive
      exact ⟨hfiles, if_pos rfl, hkept, fun _ h ↦ .inl h⟩
    · exact .unchanged hfit trivial
  | comparingArchive attempts marker =>
    dsimp only [act]
    split_ifs with harchive
    · exact .unchanged hfit harchive
    · exact .unchanged hfit trivial
  | rechecking attempts marker =>
    dsimp only [act]
    split_ifs with hlease
    · exact .unchanged hfit hphase
    · exact .unchanged hfit (phaseFits_attempt attempts)
  | unlinkingLease attempts marker =>
    obtain ⟨howns, hlease⟩ := hsafe
    dsimp only [act]
    rw [hlease]
    refine ⟨hfit.unlinkLease fun other hother ↦ ?_, trivial, fun _ _ h ↦ h, fun _ h ↦ .inl h⟩
    cases howns.2.symm.trans hother
    exact hphase
  | readingArchive attempts marker =>
    dsimp only [act]
    rcases store.archive marker.expectedPrevious.leaseNonce with _ | archived
    · exact .unchanged hfit trivial
    · dsimp only
      split_ifs with hsame
      · exact .unchanged hfit trivial
      · exact .unchanged hfit trivial
  | recreatingLease attempts marker =>
    obtain ⟨htaker, hmarker⟩ := hsafe
    dsimp only [act]
    rcases store.lease with _ | current
    · refine ⟨hfit.createLease fun other hother ↦ ?_, trivial, fun _ _ h ↦ h, fun _ h ↦ .inl h⟩
      cases hmarker.symm.trans hother
      exact htaker
    · exact .unchanged hfit (phaseFits_attempt attempts)
  | finishing marker result =>
    dsimp only [act]
    rcases store.marker with _ | current
    · exact .unchanged hfit trivial
    · dsimp only
      split_ifs with hsame
      · exact .unchanged hfit trivial
      · exact .unchanged hfit trivial
  | unlinkingOwn marker result =>
    dsimp only [act]
    rcases store.marker with _ | current
    · exact .unchanged hfit trivial
    · exact ⟨hfit.unlinkMarker, trivial, fun _ _ h ↦ h, nofun⟩
  | exhausted => exact .unchanged hfit trivial
  | releasing nonce =>
    dsimp only [act]
    rcases store.lease with _ | current
    · exact .unchanged hfit trivial
    · dsimp only
      split_ifs with howner
      · exact .unchanged hfit trivial
      · exact .unchanged hfit trivial
  | checkingMarker current =>
    dsimp only [act]
    rcases hmarker : store.marker with _ | marker
    · refine .unchanged hfit fun marker h ↦ ?_
      cases hmarker.symm.trans h
    · exact .unchanged hfit trivial
  | unlinkingReleased current =>
    obtain ⟨hlease, howner⟩ := hsafe
    dsimp only [act]
    rw [hlease]
    refine ⟨hfit.unlinkLease fun marker hmarker ↦ ?_, trivial, fun _ _ h ↦ h, fun _ h ↦ .inl h⟩
    rcases hfit.marker marker hmarker with hexpected | ⟨hgone, -⟩ | ⟨lease, hother, htaker⟩
    · cases hexpected.symm.trans hlease
      exact absurd (howner ▸ hstore.expected marker hmarker) hself
    · cases hgone.symm.trans hlease
    · cases hother.symm.trans hlease
      exact absurd (htaker.symm.trans howner) (hphase marker hmarker)

/-- What another live process knows stays true. -/
theorem PhaseFits.of_act {other : ProcessIdentity} {result : LeaseStore × Next}
    (h : PhaseFits store other phase) (hact : ActFits store self result) (hother : other ≠ self) :
    PhaseFits result.1 other phase := by
  cases phase with
  | rechecking _ marker => exact hact.archive _ _ h
  | unlinkingLease _ marker => exact hact.archive _ _ h
  | unlinkingReleased _ =>
    intro marker hmarker
    rcases hact.marker marker hmarker with hbefore | htaker
    · exact h marker hbefore
    · exact fun hsame ↦ hother (hsame.symm.trans htaker)
  | _ => trivial

end

/-! ### The system -/

/-- Whether an event rests on what was read. -/
def undisturbed (w : World) : Event → Bool
  | .advance i _ => (w.processes[i]?.bind Process.phase).all (restsOnRead w.store)
  | _ => true

/-- The files fit together, and every live process knows that they do. -/
structure Fits (w : World) : Prop where
  /-- The invariant of the system. -/
  safe : Safe w
  files : FilesFit w.store
  phases : ∀ p ∈ w.processes, p.alive = true → ∀ phase, p.phase = some phase →
    PhaseFits w.store p.identity phase

section

variable {w t : World}

theorem clearsReadMarker_of_undisturbed {e : Event} (h : undisturbed w e = true) :
    clearsReadMarker w e = true := by
  cases e with
  | advance i answer =>
    rcases hphase : w.processes[i]?.bind Process.phase with _ | phase
    · simp [clearsReadMarker, hphase]
    · rw [undisturbed, hphase, Option.all_some] at h
      cases phase with
      | unlinkingMarker attempts marker =>
        rcases hmarker : w.store.marker with _ | current
        · simp [clearsReadMarker, hphase, hmarker]
        · simpa [clearsReadMarker, hphase, hmarker, restsOnRead] using h
      | _ => simp [clearsReadMarker, hphase]
  | _ => rfl

/-- The fit when a process changes and the files stay. -/
theorem Fits.update (h : Fits w) {i : ℕ} {p p' : Process} (hp : w.processes[i]? = some p)
    (hsafe : Safe (w.update i p' w.store))
    (hphase : p'.alive = true → ∀ phase, p'.phase = some phase →
      PhaseFits w.store p'.identity phase) : Fits (w.update i p' w.store) := by
  refine ⟨hsafe, h.files, fun q hq halive phase hqphase ↦ ?_⟩
  rcases mem_update h.safe.nodup hp hq with rfl | ⟨hq, -⟩
  · exact hphase halive phase hqphase
  · exact h.phases q hq halive phase hqphase

theorem fits_step {e : Event} (h : Fits w) (hundisturbed : undisturbed w e = true)
    (hstep : step w e = some t) : Fits t := by
  have hsafe := safe_step h.safe (clearsReadMarker_of_undisturbed hundisturbed) hstep
  cases e with
  | start identity =>
    rw [step, Option.ite_none_right_eq_some] at hstep
    obtain ⟨hnew, hstep⟩ := hstep
    cases hstep
    refine ⟨hsafe, h.files, fun q hq halive phase hphase ↦ ?_⟩
    rcases List.mem_append.mp hq with hq | hq
    · exact h.phases q hq halive phase hphase
    · cases List.mem_singleton.mp hq
      cases hphase
  | acquire i =>
    simp only [step, Option.bind_eq_bind, Option.bind_eq_some_iff, Option.ite_none_right_eq_some,
      Option.some.injEq] at hstep
    obtain ⟨p, hp, -, rfl⟩ := hstep
    refine h.update hp hsafe fun _ phase hphase ↦ ?_
    cases hphase
    exact phaseFits_attempt maxAttempts
  | release i nonce =>
    simp only [step, Option.bind_eq_bind, Option.bind_eq_some_iff, Option.ite_none_right_eq_some,
      Option.some.injEq] at hstep
    obtain ⟨p, hp, -, rfl⟩ := hstep
    refine h.update hp hsafe fun _ phase hphase ↦ ?_
    cases hphase
    trivial
  | advance i answer =>
    simp only [step, Option.bind_eq_bind, Option.bind_eq_some_iff, Option.ite_none_right_eq_some,
      Option.some.injEq] at hstep
    obtain ⟨p, hp, phase, hphase, ⟨halive, -⟩, rfl⟩ := hstep
    have hmem : p ∈ w.processes := List.mem_of_getElem? hp
    have hrests : restsOnRead w.store phase = true := by
      simpa only [undisturbed, hp, Option.bind_some, hphase, Option.all_some] using hundisturbed
    have hact : ActFits w.store p.identity (act p.identity answer w.store phase) :=
      act_fits h.files (h.phases p hmem halive phase hphase)
        (h.safe.phases p hmem halive phase hphase) h.safe.store (h.safe.not_dead hmem halive) hrests
    refine ⟨hsafe, hact.files, fun q hq hqalive phase' hqphase ↦ ?_⟩
    rcases mem_update h.safe.nodup hp hq with rfl | ⟨hq, hne⟩
    · rw [identity_after]
      have hnext := hact.next
      rcases hresult : (act p.identity answer w.store phase).2 with φ | result | released | e <;>
        rw [hresult] at hnext hqphase <;> cases hqphase
      exact hnext
    · exact (h.phases q hq hqalive phase' hqphase).of_act hact hne
  | die i =>
    simp only [step, Option.bind_eq_bind, Option.bind_eq_some_iff, Option.ite_none_right_eq_some,
      Option.some.injEq] at hstep
    obtain ⟨p, hp, halive, rfl⟩ := hstep
    exact h.update hp hsafe (by rintro ⟨⟩)

theorem fits_empty : Fits .empty where
  safe := safe_empty
  files := ⟨fun _ h ↦ absurd h (Option.some_ne_none _).symm,
    fun _ _ h ↦ absurd h (Option.some_ne_none _).symm,
    fun _ h ↦ absurd h (Option.some_ne_none _).symm,
    fun _ _ h ↦ absurd h (Option.some_ne_none _).symm⟩
  phases _ hp := absurd hp List.not_mem_nil

end

/-! ### A call on its own -/

section

variable (probe : ProcessIdentity → ProbeAnswer) (self : ProcessIdentity)

def answerOf (phase : Phase) : ProbeAnswer :=
  match phase.probed with
  | some id => probe id
  | none => .unknown

/-- A call that nothing comes between ends so. -/
inductive Ends : LeaseStore → Phase → Except (Raised LeaseErrorClass) LeaseAcquireResult → Prop
  /-- It returns. -/
  | returned {store after : LeaseStore} {phase : Phase} {result : LeaseAcquireResult}
      (hact : act self (answerOf probe phase) store phase = (after, .returned result)) :
      Ends store phase (.ok result)
  /-- It raises. -/
  | raised {store after : LeaseStore} {phase : Phase} {e : Raised LeaseErrorClass}
      (hact : act self (answerOf probe phase) store phase = (after, .raised e)) :
      Ends store phase (.error e)
  /-- It goes on. -/
  | goto {store after : LeaseStore} {phase next : Phase}
      {outcome : Except (Raised LeaseErrorClass) LeaseAcquireResult}
      (hact : act self (answerOf probe phase) store phase = (after, .goto next))
      (hrest : Ends after next outcome) : Ends store phase outcome

/-- A call returns a lease that the caller owns. -/
def EndsOwned (store : LeaseStore) (phase : Phase) : Prop :=
  ∃ result, Ends probe self store phase (.ok result) ∧ result.owned = true

variable {probe self}

theorem EndsOwned.goto {store after : LeaseStore} {phase next : Phase}
    (hact : act self (answerOf probe phase) store phase = (after, .goto next))
    (h : EndsOwned probe self after next) : EndsOwned probe self store phase := by
  obtain ⟨result, hends, howned⟩ := h
  exact ⟨result, .goto hact hends, howned⟩

variable {store : LeaseStore} {attempts : ℕ} {marker : TakeoverMarker}

theorem same_self (marker : TakeoverMarker) : marker.same marker = true := decide_eq_true ⟨rfl, rfl⟩

theorem ends_finishing {result : LeaseAcquireResult} (hmarker : store.marker = some marker)
    (howned : result.owned = true) : EndsOwned probe self store (.finishing marker result) := by
  have hread : act self (answerOf probe (.finishing marker result)) store (.finishing marker result) =
      (store, .goto (.unlinkingOwn marker result)) := by
    simp [act, hmarker, same_self]
  have hunlink : act self (answerOf probe (.unlinkingOwn marker result)) store
      (.unlinkingOwn marker result) = (store.unlinkMarker, .returned result) := by
    simp [act, hmarker]
  exact .goto hread ⟨result, .returned hunlink, howned⟩

/-- A takeover whose lease is archived and gone. -/
theorem ends_completing_gone (hmarker : store.marker = some marker) (hlease : store.lease = none)
    (harchive : store.archive marker.expectedPrevious.leaseNonce = some marker.expectedPrevious) :
    EndsOwned probe self store (.completing attempts marker) := by
  have hread : act self (answerOf probe (.completing attempts marker)) store
      (.completing attempts marker) = (store, .goto (.readingArchive attempts marker)) := by
    simp [act, hlease]
  have hcompare : act self (answerOf probe (.readingArchive attempts marker)) store
      (.readingArchive attempts marker) = (store, .goto (.recreatingLease attempts marker)) := by
    simp [act, harchive]
  have hcreate : act self (answerOf probe (.recreatingLease attempts marker)) store
      (.recreatingLease attempts marker) = (store.createLease self, .goto (.finishing marker
        ⟨.replacedStale, some ⟨self, store.nextNonce⟩, some marker.expectedPrevious⟩)) := by
    simp [act, hlease]
  exact .goto hread (.goto hcompare (.goto hcreate (ends_finishing hmarker rfl)))

/-- A takeover that stands before the unlink. -/
theorem ends_unlinking (hmarker : store.marker = some marker)
    (hlease : store.lease = some marker.expectedPrevious)
    (harchive : store.archive marker.expectedPrevious.leaseNonce = some marker.expectedPrevious) :
    EndsOwned probe self store (.rechecking attempts marker) := by
  have hread : act self (answerOf probe (.rechecking attempts marker)) store
      (.rechecking attempts marker) = (store, .goto (.unlinkingLease attempts marker)) := by
    simp [act, hlease]
  have hunlink : act self (answerOf probe (.unlinkingLease attempts marker)) store
      (.unlinkingLease attempts marker) =
        (store.unlinkLease, .goto (.completing attempts marker)) := by
    simp [act, hlease]
  refine .goto hread (.goto hunlink (ends_completing_gone ?_ rfl ?_))
  · exact hmarker
  · exact harchive

/-- A takeover that has the lease to archive. -/
theorem ends_archiving (hfit : FilesFit store) (hmarker : store.marker = some marker)
    (hlease : store.lease = some marker.expectedPrevious) :
    EndsOwned probe self store (.archiving attempts marker) := by
  rcases harchive : store.archive marker.expectedPrevious.leaseNonce with _ | archived
  · have hcreate : act self (answerOf probe (.archiving attempts marker)) store
        (.archiving attempts marker) = (store.archiveLease marker.expectedPrevious,
          .goto (.rechecking attempts marker)) := by
      simp [act, harchive]
    exact .goto hcreate (ends_unlinking hmarker hlease (if_pos rfl))
  · have hsame := hfit.same _ _ hlease harchive
    subst hsame
    have hexists : act self (answerOf probe (.archiving attempts marker)) store
        (.archiving attempts marker) = (store, .goto (.comparingArchive attempts marker)) := by
      simp [act, harchive]
    have hcompare : act self (answerOf probe (.comparingArchive attempts marker)) store
        (.comparingArchive attempts marker) = (store, .goto (.rechecking attempts marker)) := by
      simp [act, harchive]
    exact .goto hexists (.goto hcompare (ends_unlinking hmarker hlease harchive))

/-- A call of a process whose own marker stands next to a lease that is neither its own nor the one
that the marker names. -/
theorem ends_stuck {lease : InstanceLease} (hmarker : store.marker = some marker)
    (htaker : marker.taker = self) (hlease : store.lease = some lease) (howner : lease.process ≠ self)
    (hexpected : lease ≠ marker.expectedPrevious) (attempts : ℕ) :
    Ends probe self store (attempt attempts) (.ok ⟨.uncertain, some lease, none⟩) := by
  induction attempts with
  | zero =>
    have hexhausted : act self (answerOf probe .exhausted) store .exhausted =
        (store, .returned ⟨.uncertain, some lease, none⟩) := by
      rw [act, hlease]
    exact .returned hexhausted
  | succ attempts ih =>
    have hread : act self (answerOf probe (.readingMarker attempts)) store (.readingMarker attempts) =
        (store, .goto (.completing attempts marker)) := by
      simp [act, hmarker, htaker]
    have hfailed : act self (answerOf probe (.completing attempts marker)) store
        (.completing attempts marker) = (store, .goto (attempt attempts)) := by
      simp [act, hlease, htaker, howner, hexpected]
    exact .goto hread (.goto hfailed ih)

section

variable (hprobe : ∀ id, id.workflow ≠ self.workflow → probe id = .dead) (hfit : FilesFit store)

include hprobe hfit

/-- A takeover of one's own marker. -/
theorem ends_completing (hmarker : store.marker = some marker) (htaker : marker.taker = self) :
    EndsOwned probe self store (.completing attempts marker) := by
  have howned : ∀ lease, store.lease = some lease → lease.process = self →
      EndsOwned probe self store (.completing attempts marker) := by
    intro lease hlease howner
    have hread : act self (answerOf probe (.completing attempts marker)) store
        (.completing attempts marker) =
          (store, .goto (.finishing marker ⟨.alreadyOwned, some lease, none⟩)) := by
      simp [act, hlease, howner, htaker]
    exact .goto hread (ends_finishing hmarker rfl)
  rcases hfit.marker marker hmarker with hlease | ⟨hlease, harchive⟩ | ⟨lease, hlease, howner⟩
  · by_cases howner : marker.expectedPrevious.process = self
    · exact howned _ hlease howner
    by_cases hworkflow : marker.expectedPrevious.process.workflow = self.workflow
    · have hread : act self (answerOf probe (.completing attempts marker)) store
          (.completing attempts marker) = (store, .goto (.archiving attempts marker)) := by
        simp [act, hlease, howner, htaker, reusedWorkflowIsStale, hworkflow]
      exact .goto hread (ends_archiving hfit hmarker hlease)
    · have hread : act self (answerOf probe (.completing attempts marker)) store
          (.completing attempts marker) = (store, .goto (.probingExpected attempts marker)) := by
        simp [act, hlease, howner, htaker, reusedWorkflowIsStale, hworkflow]
      have hdead : act self (answerOf probe (.probingExpected attempts marker)) store
          (.probingExpected attempts marker) = (store, .goto (.archiving attempts marker)) := by
        simp [act, answerOf, Phase.probed, hprobe _ hworkflow]
      exact .goto hread (.goto hdead (ends_archiving hfit hmarker hlease))
  · exact ends_completing_gone hmarker hlease harchive
  · exact howned lease hlease (howner.trans htaker)

theorem ends_noMarker (hmarker : store.marker = none) :
    EndsOwned probe self store (.readingMarker attempts) := by
  have hread : act self (answerOf probe (.readingMarker attempts)) store (.readingMarker attempts) =
      (store, .goto (.readingLease attempts)) := by
    simp [act, hmarker]
  refine .goto hread ?_
  rcases hlease : store.lease with _ | lease
  · have hnone : act self (answerOf probe (.readingLease attempts)) store (.readingLease attempts) =
        (store, .goto (.creatingLease attempts)) := by
      simp [act, hlease]
    have hcreate : act self (answerOf probe (.creatingLease attempts)) store
        (.creatingLease attempts) = (store.createLease self,
          .returned ⟨.acquired, some ⟨self, store.nextNonce⟩, none⟩) := by
      simp [act, hlease]
    exact .goto hnone ⟨_, .returned hcreate, rfl⟩
  by_cases howner : lease.process = self
  · have hown : act self (answerOf probe (.readingLease attempts)) store (.readingLease attempts) =
        (store, .returned ⟨.alreadyOwned, some lease, none⟩) := by
      simp [act, hlease, howner]
    exact ⟨_, .returned hown, rfl⟩
  have hmark : EndsOwned probe self store (.creatingMarker attempts lease) := by
    have hcreate : act self (answerOf probe (.creatingMarker attempts lease)) store
        (.creatingMarker attempts lease) = (store.createMarker self lease,
          .goto (.completing attempts ⟨self, store.nextNonce, lease⟩)) := by
      simp [act, hmarker]
    exact .goto hcreate (ends_completing hprobe (hfit.createMarker hlease) rfl rfl)
  by_cases hworkflow : lease.process.workflow = self.workflow
  · have hstale : act self (answerOf probe (.readingLease attempts)) store (.readingLease attempts) =
        (store, .goto (.creatingMarker attempts lease)) := by
      simp [act, hlease, howner, reusedWorkflowIsStale, hworkflow]
    exact .goto hstale hmark
  · have hother : act self (answerOf probe (.readingLease attempts)) store (.readingLease attempts) =
        (store, .goto (.probingOwner attempts lease)) := by
      simp [act, hlease, howner, reusedWorkflowIsStale, hworkflow]
    have hdead : act self (answerOf probe (.probingOwner attempts lease)) store
        (.probingOwner attempts lease) = (store, .goto (.creatingMarker attempts lease)) := by
      simp [act, answerOf, Phase.probed, hprobe _ hworkflow]
    exact .goto hother (.goto hdead hmark)

/-- An attempt with another to follow. -/
theorem ends_attempt (hworkflow : ∀ marker, store.marker = some marker → marker.taker ≠ self →
    marker.taker.workflow ≠ self.workflow) :
    EndsOwned probe self store (.readingMarker (attempts + 1)) := by
  rcases hmarker : store.marker with _ | marker
  · exact ends_noMarker hprobe hfit hmarker
  by_cases htaker : marker.taker = self
  · have hread : act self (answerOf probe (.readingMarker (attempts + 1))) store
        (.readingMarker (attempts + 1)) = (store, .goto (.completing (attempts + 1) marker)) := by
      simp [act, hmarker, htaker]
    exact .goto hread (ends_completing hprobe hfit hmarker htaker)
  · have hread : act self (answerOf probe (.readingMarker (attempts + 1))) store
        (.readingMarker (attempts + 1)) = (store, .goto (.probingTaker (attempts + 1) marker)) := by
      simp [act, hmarker, htaker]
    have hdead : act self (answerOf probe (.probingTaker (attempts + 1) marker)) store
        (.probingTaker (attempts + 1) marker) = (store, .goto (.removing (attempts + 1) marker)) := by
      simp [act, answerOf, Phase.probed, hprobe _ (hworkflow marker hmarker htaker)]
    have hsame : act self (answerOf probe (.removing (attempts + 1) marker)) store
        (.removing (attempts + 1) marker) =
          (store, .goto (.unlinkingMarker (attempts + 1) marker)) := by
      simp [act, hmarker, same_self]
    have hunlink : act self (answerOf probe (.unlinkingMarker (attempts + 1) marker)) store
        (.unlinkingMarker (attempts + 1) marker) =
          (store.unlinkMarker, .goto (.readingMarker attempts)) := by
      simp [act, hmarker, attempt]
    have hrest : EndsOwned probe self store.unlinkMarker (.readingMarker attempts) :=
      ends_noMarker hprobe hfit.unlinkMarker rfl
    exact .goto hread (.goto hdead (.goto hsame (.goto hunlink hrest)))

end

end

/-! ### Recovery -/

section

variable {w : World} {i : ℕ} {p : Process} {probe : ProcessIdentity → ProbeAnswer}

/-- The next file operation or probe of a call, with what the probe answers. -/
def soloEvent (probe : ProcessIdentity → ProbeAnswer) (w : World) (i : ℕ) : Event :=
  .advance i ((w.processes[i]?.bind Process.phase).elim .unknown (answerOf probe))

/-- A call that nothing comes between, for so many file operations and probes. -/
def soloRun (probe : ProcessIdentity → ProbeAnswer) (i : ℕ) : ℕ → World → Option World
  | 0, w => some w
  | n + 1, w => (step w (soloEvent probe w i)).bind (soloRun probe i n)

/-- A process is idle and this is how its last `acquire` ended. -/
def World.Answered (w : World) (i : ℕ)
    (outcome : Except (Raised LeaseErrorClass) LeaseAcquireResult) : Prop :=
  ∃ p, w.processes[i]? = some p ∧ p.phase = none ∧ p.outcome = some outcome

/-- Every process but one is dead. -/
def World.Alone (w : World) (self : ProcessIdentity) : Prop :=
  ∀ q ∈ w.processes, q.identity ≠ self → q.alive = false

/-- The step that a file operation of a lone process is. -/
theorem step_solo (hp : w.processes[i]? = some p) (halive : p.alive = true) (halone : w.Alone p.identity)
    (hself : probe p.identity ≠ .dead) {phase : Phase} (hphase : p.phase = some phase) :
    step w (soloEvent probe w i) =
      some (w.update i (p.after (act p.identity (answerOf probe phase) w.store phase).2)
        (act p.identity (answerOf probe phase) w.store phase).1) := by
  have htruth : answerOf probe phase = .dead → ∀ q ∈ w.processes,
      phase.probed = some q.identity → q.alive = false := by
    intro hdead q hq hprobed
    refine halone q hq fun hsame ↦ hself ?_
    simpa only [answerOf, hprobed, hsame] using hdead
  simp only [step, soloEvent, hp, hphase, Option.bind_eq_bind, Option.bind_some, Option.elim_some]
  exact if_pos ⟨halive, htruth⟩

/-- A lone process stays alone when it changes. -/
theorem World.Alone.update (h : w.Alone p.identity) (p' : Process)
    (hid : p'.identity = p.identity) (store : LeaseStore) :
    (w.update i p' store).Alone p.identity := by
  intro q hq hne
  rcases List.mem_or_eq_of_mem_set hq with hq | rfl
  · exact h q hq hne
  · exact absurd hid hne

theorem getElem?_update {p' : Process} (hp : w.processes[i]? = some p) (store : LeaseStore) :
    (w.update i p' store).processes[i]? = some p' :=
  List.getElem?_set_self (List.getElem?_eq_some_iff.mp hp).1

/-- A lone call ends in the system as it ends on its own. -/
theorem soloRun_of_ends {store : LeaseStore} {phase : Phase} {self : ProcessIdentity}
    {outcome : Except (Raised LeaseErrorClass) LeaseAcquireResult}
    (hends : Ends probe self store phase outcome) (hself : probe self ≠ .dead) :
    ∀ (w : World) (p : Process), p.identity = self → w.processes[i]? = some p → p.alive = true →
      w.Alone self → w.store = store → p.phase = some phase →
      ∃ n t, soloRun probe i n w = some t ∧ t.Answered i outcome := by
  induction hends with
  | @returned store after phase result hact =>
    rintro w p rfl hp halive halone rfl hphase
    have hstep := step_solo hp halive halone hself hphase
    rw [hact] at hstep
    refine ⟨1, w.update i (p.after (.returned result)) after, ?_, p.after (.returned result),
      getElem?_update hp after, rfl, rfl⟩
    rw [soloRun, hstep, Option.bind_some, soloRun]
  | @raised store after phase e hact =>
    rintro w p rfl hp halive halone rfl hphase
    have hstep := step_solo hp halive halone hself hphase
    rw [hact] at hstep
    refine ⟨1, w.update i (p.after (.raised e)) after, ?_, p.after (.raised e),
      getElem?_update hp after, rfl, rfl⟩
    rw [soloRun, hstep, Option.bind_some, soloRun]
  | @goto store after phase next outcome hact hrest ih =>
    rintro w p rfl hp halive halone rfl hphase
    have hstep := step_solo hp halive halone hself hphase
    rw [hact] at hstep
    obtain ⟨n, t, hrun, hanswered⟩ := ih _ (p.after (.goto next)) rfl (getElem?_update hp after)
      halive (halone.update (p.after (.goto next)) rfl after) rfl rfl
    refine ⟨n + 1, t, ?_, hanswered⟩
    rw [soloRun, hstep, Option.bind_some]
    exact hrun

/-- An idle process that lives alone calls `acquire`, and the call ends as it ends on its own. -/
theorem acquire_of_ends {outcome : Except (Raised LeaseErrorClass) LeaseAcquireResult}
    (hp : w.processes[i]? = some p) (halive : p.alive = true) (hidle : p.phase = none)
    (halone : w.Alone p.identity) (hself : probe p.identity ≠ .dead)
    (hends : Ends probe p.identity w.store (attempt maxAttempts) outcome) :
    ∃ called n t, step w (.acquire i) = some called ∧ soloRun probe i n called = some t ∧
      t.Answered i outcome := by
  have hcalled : step w (.acquire i) =
      some (w.update i { p with phase := some (attempt maxAttempts) } w.store) := by
    simp only [step, hp, Option.bind_eq_bind, Option.bind_some]
    exact if_pos ⟨halive, hidle⟩
  obtain ⟨n, t, hsolo, hanswered⟩ := soloRun_of_ends hends hself _
    { p with phase := some (attempt maxAttempts) } rfl (getElem?_update hp w.store) halive
    (halone.update { p with phase := some (attempt maxAttempts) } rfl w.store) rfl rfl
  exact ⟨_, n, t, hcalled, hsolo, hanswered⟩

end

/-! ### Two runs -/

/-- The probe of a process that lives alone: it finds its own workflow alive. -/
def loneProbe (self id : ProcessIdentity) : ProbeAnswer :=
  if id.workflow = self.workflow then .alive else .dead

/-- What a run shows of the processes. -/
def Process.shown (p : Process) : ProcessIdentity × Bool × Bool := (p.identity, p.alive, p.phase.isNone)

/-- The one process that a run shows alive, idle. -/
theorem lone_of_shown {w : World} {i : ℕ} {self : ProcessIdentity}
    (hself : (w.processes.map Process.shown)[i]? = some (self, true, true))
    (hothers : ∀ shown ∈ w.processes.map Process.shown, shown.1 ≠ self → shown.2.1 = false) :
    ∃ p, w.processes[i]? = some p ∧ p.identity = self ∧ p.alive = true ∧ p.phase = none ∧
      w.Alone p.identity := by
  rw [List.getElem?_map, Option.map_eq_some_iff] at hself
  obtain ⟨p, hp, hshown⟩ := hself
  simp only [Process.shown, Prod.mk.injEq, Option.isNone_iff_eq_none] at hshown
  obtain ⟨rfl, halive, hidle⟩ := hshown
  exact ⟨p, hp, rfl, halive, hidle, fun q hq hne ↦ hothers q.shown (List.mem_map_of_mem hq) hne⟩

/-- The leftover marker, and only the third process lives. -/
def leftoverEvents : List Event := leftoverMarker ++ [.die 3, .die 4]

/-- The first process is granted the lease and dies, and the second finds it dead. The third takes over.
The second creates its marker, which names the lease of the first, and gives up after the last attempt.
Then the third dies. -/
def stuckEvents : List Event :=
  [.start (processWith 1), .start (processWith 2), .start (processWith 3), .acquire 0] ++
    operations 0 3 ++ [.die 0, .acquire 1] ++ operations 1 3 ++ [.acquire 2] ++ operations 2 14 ++
    operations 1 17 ++ [.die 2]

end N0te.Lease
