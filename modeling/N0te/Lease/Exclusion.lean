import Mathlib.Data.List.Nodup
import N0te.Lease.LeaseFiles
import N0te.Library.Runs

/-!
# One holder at a time

While a process works under its takeover marker, no other process touches the lease it takes over: the
marker in the file is its own, and the lease is the one its marker names (`PhaseSafe`). So the lease of a
live process is removed by its release only, and `mutual_exclusion` follows.

The marker protects a takeover only as long as nobody else removes it. A process that clears the marker
of a dead taker reads it, compares it and unlinks the file, and in between another may have cleared it
and created its own. `mutual_exclusion` is about the runs in which this does not happen
(`clearsReadMarker`), and `sample_two_holders` is a run in which it does.
-/

set_option autoImplicit false
set_option relaxedAutoImplicit false

namespace N0te.Lease

open Library

/-! ### What a phase knows -/

section

variable (dead started : ProcessIdentity → Prop) (store : LeaseStore) (self : ProcessIdentity)

/-- The marker in the file is this one, of this process. -/
def Owns (marker : TakeoverMarker) : Prop := marker.taker = self ∧ store.marker = some marker

/-- The lease in the file is this one, of this process. -/
def Has (lease : InstanceLease) : Prop := store.lease = some lease ∧ lease.process = self

/-- What holds of the files while a live process stands in a phase. -/
def PhaseSafe : Phase → Prop
  | .probingTaker _ marker => started marker.taker
  | .removing _ marker | .unlinkingMarker _ marker => dead marker.taker
  | .probingOwner _ lease => started lease.process
  | .creatingMarker _ lease => dead lease.process
  | .completing _ marker | .readingArchive _ marker | .recreatingLease _ marker =>
    Owns store self marker
  | .probingExpected _ marker | .archiving _ marker | .comparingArchive _ marker
  | .rechecking _ marker | .unlinkingLease _ marker =>
    Owns store self marker ∧ store.lease = some marker.expectedPrevious
  | .finishing marker result | .unlinkingOwn marker result =>
    Owns store self marker ∧ ∀ lease, result.granted = some lease → Has store self lease
  | .checkingMarker lease | .unlinkingReleased lease => Has store self lease
  | _ => True

/-- What holds of the process after a file operation. -/
def NextSafe : Next → Prop
  | .goto phase => PhaseSafe dead started store self phase
  | .returned result => ∀ lease, result.granted = some lease → Has store self lease
  | _ => True

/-- The owners named in the files were started, and a marker names a lease of a dead process. -/
structure StoreSafe : Prop where
  owner : ∀ lease, store.lease = some lease → started lease.process
  taker : ∀ marker, store.marker = some marker → started marker.taker
  /-- The owner that is taken over from. -/
  expected : ∀ marker, store.marker = some marker → dead marker.expectedPrevious.process

/-- How a file operation of a process changes the lease and the marker. -/
inductive StoreChange (after : LeaseStore) : Prop
  /-- Not at all. -/
  | kept (hlease : after.lease = store.lease) (hmarker : after.marker = store.marker)
  /-- A lease where there was none. -/
  | leaseCreated {lease : InstanceLease} (hnone : store.lease = none)
      (hlease : after.lease = some lease) (hself : lease.process = self)
      (hmarker : after.marker = store.marker)
  /-- The process's own lease is removed. -/
  | leaseReleased {lease : InstanceLease} (hhas : Has store self lease)
      (hlease : after.lease = none) (hmarker : after.marker = store.marker)
  /-- The lease that the process's own marker names is removed. -/
  | leaseTaken {marker : TakeoverMarker} (howns : Owns store self marker)
      (hexpected : store.lease = some marker.expectedPrevious) (hlease : after.lease = none)
      (hmarker : after.marker = store.marker)
  /-- A marker where there was none. -/
  | markerCreated {marker : TakeoverMarker} (hnone : store.marker = none)
      (hmarker : after.marker = some marker) (hself : marker.taker = self)
      (hdead : dead marker.expectedPrevious.process) (hlease : after.lease = store.lease)
  /-- The marker of the process, or of a dead one, is removed. -/
  | markerRemoved {marker : TakeoverMarker} (hbefore : store.marker = some marker)
      (howner : marker.taker = self ∨ dead marker.taker) (hmarker : after.marker = none)
      (hlease : after.lease = store.lease)

end

section

variable {dead started : ProcessIdentity → Prop} {store after : LeaseStore}
  {self other : ProcessIdentity}

/-! ### The others -/

/-- A file operation of another process leaves one's own marker alone. -/
theorem StoreChange.owns (h : StoreChange dead store self after) (hother : other ≠ self)
    (halive : ¬ dead other) {marker : TakeoverMarker} (howns : Owns store other marker) :
    Owns after other marker := by
  obtain ⟨htaker, hfile⟩ := howns
  refine ⟨htaker, ?_⟩
  cases h with
  | kept _ hmarker => exact hmarker.trans hfile
  | leaseCreated _ _ _ hmarker => exact hmarker.trans hfile
  | leaseReleased _ _ hmarker => exact hmarker.trans hfile
  | leaseTaken _ _ _ hmarker => exact hmarker.trans hfile
  | markerCreated hnone => cases hnone.symm.trans hfile
  | markerRemoved hbefore howner =>
    cases hbefore.symm.trans hfile
    rcases howner with hself | hdead
    · exact absurd (htaker.symm.trans hself) hother
    · exact absurd (htaker ▸ hdead) halive

/-- It leaves one's own lease alone. -/
theorem StoreChange.has (h : StoreChange dead store self after) (hstore : StoreSafe dead started store)
    (hother : other ≠ self) (halive : ¬ dead other) {lease : InstanceLease}
    (hhas : Has store other lease) : Has after other lease := by
  obtain ⟨hfile, howner⟩ := hhas
  refine ⟨?_, howner⟩
  cases h with
  | kept hlease => exact hlease.trans hfile
  | leaseCreated hnone => cases hnone.symm.trans hfile
  | leaseReleased hhas =>
    cases hhas.1.symm.trans hfile
    exact absurd (howner.symm.trans hhas.2) hother
  | leaseTaken howns hexpected =>
    cases hexpected.symm.trans hfile
    exact absurd (howner ▸ hstore.expected _ howns.2) halive
  | markerCreated _ _ _ _ hlease => exact hlease.trans hfile
  | markerRemoved _ _ _ hlease => exact hlease.trans hfile

/-- It leaves the lease alone that one's own marker names. -/
theorem StoreChange.expected (h : StoreChange dead store self after)
    (hstore : StoreSafe dead started store) (hother : other ≠ self) (hself : ¬ dead self)
    {marker : TakeoverMarker} (howns : Owns store other marker)
    (hlease : store.lease = some marker.expectedPrevious) :
    after.lease = some marker.expectedPrevious := by
  cases h with
  | kept hkept => exact hkept.trans hlease
  | leaseCreated hnone => cases hnone.symm.trans hlease
  | leaseReleased hhas =>
    cases hhas.1.symm.trans hlease
    exact absurd (hhas.2 ▸ hstore.expected _ howns.2) hself
  | leaseTaken htaken =>
    cases htaken.2.symm.trans howns.2
    exact absurd (howns.1.symm.trans htaken.1) hother
  | markerCreated _ _ _ _ hkept => exact hkept.trans hlease
  | markerRemoved _ _ _ hkept => exact hkept.trans hlease

/-- What a live process knows survives the file operations of the others. -/
theorem PhaseSafe.of_change {phase : Phase} (h : PhaseSafe dead started store other phase)
    (hchange : StoreChange dead store self after) (hstore : StoreSafe dead started store)
    (hother : other ≠ self) (halive : ¬ dead other) (hself : ¬ dead self) :
    PhaseSafe dead started after other phase := by
  cases phase with
  | completing _ marker => exact hchange.owns hother halive h
  | readingArchive _ marker => exact hchange.owns hother halive h
  | recreatingLease _ marker => exact hchange.owns hother halive h
  | probingExpected _ marker =>
    exact ⟨hchange.owns hother halive h.1, hchange.expected hstore hother hself h.1 h.2⟩
  | archiving _ marker =>
    exact ⟨hchange.owns hother halive h.1, hchange.expected hstore hother hself h.1 h.2⟩
  | comparingArchive _ marker =>
    exact ⟨hchange.owns hother halive h.1, hchange.expected hstore hother hself h.1 h.2⟩
  | rechecking _ marker =>
    exact ⟨hchange.owns hother halive h.1, hchange.expected hstore hother hself h.1 h.2⟩
  | unlinkingLease _ marker =>
    exact ⟨hchange.owns hother halive h.1, hchange.expected hstore hother hself h.1 h.2⟩
  | finishing marker result =>
    exact ⟨hchange.owns hother halive h.1, fun lease hlease ↦
      hchange.has hstore hother halive (h.2 lease hlease)⟩
  | unlinkingOwn marker result =>
    exact ⟨hchange.owns hother halive h.1, fun lease hlease ↦
      hchange.has hstore hother halive (h.2 lease hlease)⟩
  | checkingMarker lease => exact hchange.has hstore hother halive h
  | unlinkingReleased lease => exact hchange.has hstore hother halive h
  | _ => exact h

/-- The files stay safe. -/
theorem StoreChange.storeSafe (h : StoreChange dead store self after)
    (hstore : StoreSafe dead started store) (hself : started self) :
    StoreSafe dead started after := by
  cases h with
  | kept hlease hmarker =>
    constructor
    · exact fun lease h ↦ hstore.owner lease (hlease.symm.trans h)
    · exact fun marker h ↦ hstore.taker marker (hmarker.symm.trans h)
    · exact fun marker h ↦ hstore.expected marker (hmarker.symm.trans h)
  | leaseCreated _ hlease hown hmarker =>
    constructor
    · rintro lease h
      cases hlease.symm.trans h
      exact hown ▸ hself
    · exact fun marker h ↦ hstore.taker marker (hmarker.symm.trans h)
    · exact fun marker h ↦ hstore.expected marker (hmarker.symm.trans h)
  | leaseReleased _ hlease hmarker =>
    constructor
    · exact fun lease h ↦ absurd (hlease.symm.trans h) (Option.some_ne_none lease).symm
    · exact fun marker h ↦ hstore.taker marker (hmarker.symm.trans h)
    · exact fun marker h ↦ hstore.expected marker (hmarker.symm.trans h)
  | leaseTaken _ _ hlease hmarker =>
    constructor
    · exact fun lease h ↦ absurd (hlease.symm.trans h) (Option.some_ne_none lease).symm
    · exact fun marker h ↦ hstore.taker marker (hmarker.symm.trans h)
    · exact fun marker h ↦ hstore.expected marker (hmarker.symm.trans h)
  | markerCreated _ hmarker hown hdead hlease =>
    constructor
    · exact fun lease h ↦ hstore.owner lease (hlease.symm.trans h)
    · rintro marker h
      cases hmarker.symm.trans h
      exact hown ▸ hself
    · rintro marker h
      cases hmarker.symm.trans h
      exact hdead
  | markerRemoved _ _ hmarker hlease =>
    constructor
    · exact fun lease h ↦ hstore.owner lease (hlease.symm.trans h)
    · exact fun marker h ↦ absurd (hmarker.symm.trans h) (Option.some_ne_none marker).symm
    · exact fun marker h ↦ absurd (hmarker.symm.trans h) (Option.some_ne_none marker).symm

/-! ### One file operation -/

/-- What a file operation of a live process keeps. -/
structure ActSafe (dead started : ProcessIdentity → Prop) (store : LeaseStore) (owner : ProcessIdentity)
    (result : LeaseStore × Next) : Prop where
  change : StoreChange dead store owner result.1
  /-- What the process knows after it. -/
  next : NextSafe dead started result.1 owner result.2
  /-- Its own lease stays unless it is released. -/
  has : ∀ lease, Has store owner lease →
    Has result.1 owner lease ∨ ∃ released, result.2 = .released released

theorem ActSafe.unchanged {next : Next} (h : NextSafe dead started store self next) :
    ActSafe dead started store self (store, next) := ⟨.kept rfl rfl, h, fun _ h ↦ .inl h⟩

theorem phaseSafe_attempt (attempts : ℕ) : PhaseSafe dead started store self (attempt attempts) := by
  cases attempts <;> trivial

/-- A marker that is taken for one's own is of the same taker. -/
theorem taker_of_same {current marker : TakeoverMarker} (h : current.same marker = true) :
    current.taker = marker.taker := (of_decide_eq_true h).2

section

attribute [local simp] act

variable {answer : ProbeAnswer} {phase : Phase} (hsafe : PhaseSafe dead started store self phase)
  (hstore : StoreSafe dead started store) (hself : ¬ dead self)
  (hworkflow : ∀ id, started id → id.workflow = self.workflow → id ≠ self → dead id)
  (htruth : answer = .dead → ∀ id, phase.probed = some id → started id → dead id)
  (hclears : ∀ attempts marker current, phase = .unlinkingMarker attempts marker →
    store.marker = some current → current.same marker = true)

include hworkflow in
theorem dead_of_reused {id : ProcessIdentity} (hid : started id)
    (h : reusedWorkflowIsStale id self = true) : dead id := by
  obtain ⟨hsame, hne⟩ := of_decide_eq_true h
  exact hworkflow id hid hsame hne

include hsafe hstore hself hworkflow htruth hclears in
/-- One file operation of a live process. -/
theorem act_safe : ActSafe dead started store self (act self answer store phase) := by
  cases phase with
  | readingMarker attempts =>
    dsimp only [act]
    rcases hmarker : store.marker with _ | marker
    · exact .unchanged trivial
    · dsimp only
      split_ifs with htaker
      · exact .unchanged ⟨htaker, hmarker⟩
      · exact .unchanged (hstore.taker marker hmarker)
  | probingTaker attempts marker =>
    cases answer with
    | dead => exact .unchanged (htruth rfl _ rfl hsafe)
    | _ => exact .unchanged trivial
  | inspectingHeld marker => exact .unchanged nofun
  | removing attempts marker =>
    dsimp only [act]
    rcases store.marker with _ | current
    · exact .unchanged (phaseSafe_attempt attempts)
    · dsimp only
      split_ifs with hsame
      · exact .unchanged hsafe
      · exact .unchanged trivial
  | unlinkingMarker attempts marker =>
    dsimp only [act]
    rcases hmarker : store.marker with _ | current
    · exact .unchanged trivial
    · have hsame := taker_of_same (hclears attempts marker current rfl hmarker)
      refine ⟨.markerRemoved hmarker (.inr ?_) rfl rfl, phaseSafe_attempt attempts, fun _ h ↦ .inl h⟩
      exact hsame ▸ hsafe
  | readingLease attempts =>
    dsimp only [act]
    rcases hlease : store.lease with _ | current
    · exact .unchanged trivial
    · dsimp only
      split_ifs with howner hstale
      · exact .unchanged nofun
      · exact .unchanged (dead_of_reused hworkflow (hstore.owner _ hlease) hstale)
      · exact .unchanged (hstore.owner _ hlease)
  | creatingLease attempts =>
    dsimp only [act]
    rcases hlease : store.lease with _ | current
    · refine ⟨.leaseCreated hlease rfl rfl rfl, fun lease h ↦ ?_, fun lease h ↦ ?_⟩
      · cases h
        exact ⟨rfl, rfl⟩
      · cases hlease.symm.trans h.1
    · exact .unchanged (phaseSafe_attempt attempts)
  | probingOwner attempts current =>
    cases answer with
    | dead => exact .unchanged (htruth rfl _ rfl hsafe)
    | alive => exact .unchanged nofun
    | unknown => exact .unchanged nofun
    | raises e => exact .unchanged trivial
  | creatingMarker attempts current =>
    dsimp only [act]
    rcases hmarker : store.marker with _ | marker
    · exact ⟨.markerCreated hmarker rfl rfl hsafe rfl, ⟨rfl, rfl⟩, fun _ h ↦ .inl h⟩
    · exact .unchanged (phaseSafe_attempt attempts)
  | completing attempts marker =>
    dsimp only [act]
    rcases hlease : store.lease with _ | latest
    · exact .unchanged hsafe
    · dsimp only
      split_ifs with howner hexpected hstale
      · exact .unchanged ⟨hsafe, nofun⟩
      · exact .unchanged ⟨hsafe, hexpected ▸ hlease⟩
      · exact .unchanged ⟨hsafe, hexpected ▸ hlease⟩
      · exact .unchanged (phaseSafe_attempt attempts)
  | probingExpected attempts marker =>
    cases answer with
    | dead => exact .unchanged hsafe
    | alive => exact .unchanged ⟨hsafe.1, nofun⟩
    | unknown => exact .unchanged ⟨hsafe.1, nofun⟩
    | raises e => exact .unchanged trivial
  | archiving attempts marker =>
    have hnext : PhaseSafe dead started (store.archiveLease marker.expectedPrevious) self
        (.rechecking attempts marker) := hsafe
    dsimp only [act]
    rcases store.archive marker.expectedPrevious.leaseNonce with _ | archived
    · exact ⟨.kept rfl rfl, hnext, fun _ h ↦ .inl h⟩
    · exact .unchanged hsafe
  | comparingArchive attempts marker =>
    dsimp only [act]
    split_ifs with harchive
    · exact .unchanged hsafe
    · exact .unchanged trivial
  | rechecking attempts marker =>
    dsimp only [act]
    split_ifs with hlease
    · exact .unchanged hsafe
    · exact .unchanged (phaseSafe_attempt attempts)
  | unlinkingLease attempts marker =>
    obtain ⟨howns, hlease⟩ := hsafe
    dsimp only [act]
    rw [hlease]
    refine ⟨.leaseTaken howns hlease rfl rfl, howns, fun lease h ↦ ?_⟩
    cases hlease.symm.trans h.1
    exact absurd (h.2 ▸ hstore.expected _ howns.2) hself
  | readingArchive attempts marker =>
    dsimp only [act]
    rcases store.archive marker.expectedPrevious.leaseNonce with _ | archived
    · exact .unchanged trivial
    · dsimp only
      split_ifs with hsame
      · exact .unchanged hsafe
      · exact .unchanged trivial
  | recreatingLease attempts marker =>
    dsimp only [act]
    rcases hlease : store.lease with _ | current
    · refine ⟨.leaseCreated hlease rfl rfl rfl, ⟨hsafe, fun lease h ↦ ?_⟩, fun lease h ↦ ?_⟩
      · cases h
        exact ⟨rfl, rfl⟩
      · cases hlease.symm.trans h.1
    · exact .unchanged (phaseSafe_attempt attempts)
  | finishing marker result =>
    dsimp only [act]
    rw [hsafe.1.2]
    dsimp only
    split_ifs with hsame
    · exact .unchanged hsafe
    · exact .unchanged trivial
  | unlinkingOwn marker result =>
    obtain ⟨howns, hgranted⟩ := hsafe
    dsimp only [act]
    rw [howns.2]
    exact ⟨.markerRemoved howns.2 (.inl howns.1) rfl rfl, hgranted, fun _ h ↦ .inl h⟩
  | exhausted => exact .unchanged nofun
  | releasing nonce =>
    dsimp only [act]
    rcases hlease : store.lease with _ | current
    · exact .unchanged trivial
    · dsimp only
      split_ifs with howner
      · exact .unchanged ⟨hlease, howner.1⟩
      · exact .unchanged trivial
  | checkingMarker current =>
    dsimp only [act]
    rcases store.marker with _ | marker
    · exact .unchanged hsafe
    · exact .unchanged trivial
  | unlinkingReleased current =>
    dsimp only [act]
    rw [hsafe.1]
    exact ⟨.leaseReleased hsafe rfl rfl, trivial, fun _ _ ↦ .inr ⟨current, rfl⟩⟩

end

/-! ### More processes -/

/-- More dead and more started processes. -/
theorem PhaseSafe.mono {dead' started' : ProcessIdentity → Prop} (hdead : ∀ id, dead id → dead' id)
    (hstarted : ∀ id, started id → started' id) {phase : Phase}
    (h : PhaseSafe dead started store self phase) : PhaseSafe dead' started' store self phase := by
  cases phase with
  | probingTaker _ marker => exact hstarted _ h
  | removing _ marker => exact hdead _ h
  | unlinkingMarker _ marker => exact hdead _ h
  | probingOwner _ lease => exact hstarted _ h
  | creatingMarker _ lease => exact hdead _ h
  | _ => exact h

theorem StoreSafe.mono {dead' started' : ProcessIdentity → Prop} (hdead : ∀ id, dead id → dead' id)
    (hstarted : ∀ id, started id → started' id) (h : StoreSafe dead started store) :
    StoreSafe dead' started' store :=
  ⟨fun _ hlease ↦ hstarted _ (h.owner _ hlease), fun _ hmarker ↦ hstarted _ (h.taker _ hmarker),
    fun _ hmarker ↦ hdead _ (h.expected _ hmarker)⟩

end

/-! ### The system -/

/-- A process that was started and is dead. -/
def World.Dead (w : World) (id : ProcessIdentity) : Prop :=
  ∃ p ∈ w.processes, p.identity = id ∧ p.alive = false

def World.Started (w : World) (id : ProcessIdentity) : Prop := ∃ p ∈ w.processes, p.identity = id

/-- The invariant of the system. -/
structure Safe (w : World) : Prop where
  /-- Every process is listed once. -/
  nodup : (w.processes.map Process.identity).Nodup
  /-- A workflow is that of one live process. -/
  workflows : ∀ p ∈ w.processes, ∀ q ∈ w.processes, p.alive = true → q.alive = true →
    p.identity.workflow = q.identity.workflow → p.identity = q.identity
  store : StoreSafe w.Dead w.Started w.store
  /-- Every live process knows what its phase says. -/
  phases : ∀ p ∈ w.processes, p.alive = true → ∀ phase, p.phase = some phase →
    PhaseSafe w.Dead w.Started w.store p.identity phase
  /-- A lease that a live process holds is the lease in the file. -/
  held : ∀ p ∈ w.processes, p.alive = true → ∀ lease, p.held = some lease →
    Has w.store p.identity lease

section

variable {w : World} {i : ℕ} {p p' : Process} {store : LeaseStore}

/-- A live process is not a dead one. -/
theorem Safe.not_dead (h : Safe w) (hp : p ∈ w.processes) (halive : p.alive = true) :
    ¬ w.Dead p.identity := by
  rintro ⟨q, hq, hid, hdead⟩
  have hsame : q = p := List.inj_on_of_nodup_map h.nodup hq hp hid
  rw [hsame, halive] at hdead
  cases hdead

/-- The processes after one was replaced: it, and the others. -/
theorem mem_update (hnodup : (w.processes.map Process.identity).Nodup)
    (hp : w.processes[i]? = some p) {q : Process} (hq : q ∈ (w.update i p' store).processes) :
    q = p' ∨ q ∈ w.processes ∧ q.identity ≠ p.identity := by
  obtain ⟨j, hj⟩ := List.mem_iff_getElem?.mp hq
  rw [World.update, List.getElem?_set] at hj
  split_ifs at hj with hij hlt
  · exact .inl (Option.some.inj hj).symm
  · refine .inr ⟨List.mem_of_getElem? hj, fun hid ↦ hij ?_⟩
    have hfirst : (w.processes.map Process.identity)[i]? = some p.identity := by
      rw [List.getElem?_map, hp]
      rfl
    have hsecond : (w.processes.map Process.identity)[j]? = some p.identity := by
      rw [List.getElem?_map, hj, ← hid]
      rfl
    exact (List.getElem?_inj (List.getElem?_eq_some_iff.mp hfirst).1 hnodup).mp
      (hfirst.trans hsecond.symm)

theorem identities_update (hp : w.processes[i]? = some p) (hid : p'.identity = p.identity) :
    (w.update i p' store).processes.map Process.identity = w.processes.map Process.identity := by
  obtain ⟨hi, hget⟩ := List.getElem?_eq_some_iff.mp hp
  have hlength : i < (w.processes.map Process.identity).length := by simpa using hi
  have hsame : (w.processes.map Process.identity)[i] = p'.identity := by
    rw [List.getElem_map, hget, hid]
  rw [World.update, List.map_set, ← hsame]
  exact List.set_getElem_self hlength

/-- A process that was started stays started, and a dead one dead. -/
theorem mem_update_of_ne (hp : w.processes[i]? = some p) {q : Process} (hq : q ∈ w.processes)
    (hne : q ≠ p) : q ∈ (w.update i p' store).processes := by
  obtain ⟨j, hj⟩ := List.mem_iff_getElem?.mp hq
  have hij : i ≠ j := by
    rintro rfl
    exact hne (Option.some.inj (hj.symm.trans hp))
  refine List.mem_iff_getElem?.mpr ⟨j, ?_⟩
  rw [World.update, List.getElem?_set_ne hij, hj]

theorem self_mem_update (hp : w.processes[i]? = some p) :
    p' ∈ (w.update i p' store).processes := by
  obtain ⟨hi, -⟩ := List.getElem?_eq_some_iff.mp hp
  exact List.mem_set hi p'

theorem started_update (hp : w.processes[i]? = some p) (hid : p'.identity = p.identity)
    {id : ProcessIdentity} (h : w.Started id) : (w.update i p' store).Started id := by
  obtain ⟨q, hq, rfl⟩ := h
  by_cases hne : q = p
  · exact ⟨p', self_mem_update hp, hne ▸ hid⟩
  · exact ⟨q, mem_update_of_ne hp hq hne, rfl⟩

theorem dead_update (hp : w.processes[i]? = some p) (halive : p.alive = true)
    {id : ProcessIdentity} (h : w.Dead id) : (w.update i p' store).Dead id := by
  obtain ⟨q, hq, hid, hdead⟩ := h
  refine ⟨q, mem_update_of_ne hp hq ?_, hid, hdead⟩
  rintro rfl
  rw [halive] at hdead
  cases hdead

/-- The invariant when a live process changes and its files with it. The new process is the old one,
alive or dead, and knows what it stands for. -/
theorem Safe.update (h : Safe w) (hp : w.processes[i]? = some p) (halive : p.alive = true)
    (hid : p'.identity = p.identity)
    (hchange : StoreChange w.Dead w.store p.identity store)
    (hphase : p'.alive = true → ∀ phase, p'.phase = some phase →
      PhaseSafe w.Dead w.Started store p.identity phase)
    (hheld : p'.alive = true → ∀ lease, p'.held = some lease → Has store p.identity lease) :
    Safe (w.update i p' store) := by
  have hmem : p ∈ w.processes := List.mem_of_getElem? hp
  have hdead : ∀ id, w.Dead id → (w.update i p' store).Dead id := fun _ ↦ dead_update hp halive
  have hstarted : ∀ id, w.Started id → (w.update i p' store).Started id :=
    fun _ ↦ started_update hp hid
  have hself : ¬ w.Dead p.identity := h.not_dead hmem halive
  constructor
  · rw [identities_update hp hid]
    exact h.nodup
  · intro a ha b hb haliveA haliveB hworkflow
    rcases mem_update h.nodup hp ha with hnew | ⟨hold, -⟩ <;>
      rcases mem_update h.nodup hp hb with hnewB | ⟨holdB, -⟩
    · rw [hnew, hnewB]
    · rw [hnew, hid] at hworkflow ⊢
      exact h.workflows p hmem b holdB halive haliveB hworkflow
    · rw [hnewB, hid] at hworkflow ⊢
      exact h.workflows a hold p hmem haliveA halive hworkflow
    · exact h.workflows a hold b holdB haliveA haliveB hworkflow
  · exact (hchange.storeSafe h.store ⟨p, hmem, rfl⟩).mono hdead hstarted
  · intro q hq hqalive phase hqphase
    rcases mem_update h.nodup hp hq with rfl | ⟨hq, hne⟩
    · rw [hid]
      exact (hphase hqalive phase hqphase).mono hdead hstarted
    · exact ((h.phases q hq hqalive phase hqphase).of_change hchange h.store hne
        (h.not_dead hq hqalive) hself).mono hdead hstarted
  · intro q hq hqalive lease hlease
    rcases mem_update h.nodup hp hq with rfl | ⟨hq, hne⟩
    · rw [hid]
      exact hheld hqalive lease hlease
    · exact hchange.has h.store hne (h.not_dead hq hqalive) (h.held q hq hqalive lease hlease)

end

/-- Whether a process that clears the marker of a dead taker unlinks the marker that it read. -/
def clearsReadMarker (w : World) : Event → Bool
  | .advance i _ =>
    match w.processes[i]?.bind Process.phase, w.store.marker with
    | some (.unlinkingMarker _ marker), some current => current.same marker
    | _, _ => true
  | _ => true

@[simp] theorem identity_after (p : Process) (next : Next) : (p.after next).identity = p.identity := by
  cases next <;> rfl

section

variable {w t : World}

/-- A live process after its file operation. -/
theorem Safe.advance (h : Safe w) {i : ℕ} {p : Process} {phase : Phase} {answer : ProbeAnswer}
    (hp : w.processes[i]? = some p) (hphase : p.phase = some phase) (halive : p.alive = true)
    (htruth : answer = .dead → ∀ q ∈ w.processes, phase.probed = some q.identity → q.alive = false)
    (hclears : ∀ attempts marker current, phase = .unlinkingMarker attempts marker →
      w.store.marker = some current → current.same marker = true) :
    Safe (w.update i (p.after (act p.identity answer w.store phase).2)
      (act p.identity answer w.store phase).1) := by
  have hmem : p ∈ w.processes := List.mem_of_getElem? hp
  have hworkflow : ∀ id, w.Started id → id.workflow = p.identity.workflow → id ≠ p.identity →
      w.Dead id := by
    rintro id ⟨q, hq, rfl⟩ hsame hne
    refine ⟨q, hq, rfl, Bool.eq_false_iff.mpr fun hqalive ↦ ?_⟩
    exact hne (h.workflows q hq p hmem hqalive halive hsame)
  have hprobed : answer = .dead → ∀ id, phase.probed = some id → w.Started id → w.Dead id := by
    rintro hdead id hid ⟨q, hq, rfl⟩
    exact ⟨q, hq, rfl, htruth hdead q hq hid⟩
  have hact := act_safe (h.phases p hmem halive phase hphase) h.store (h.not_dead hmem halive)
    hworkflow hprobed hclears
  have hkept : ∀ lease, p.held = some lease → (∀ released,
      (act p.identity answer w.store phase).2 ≠ .released released) →
      Has (act p.identity answer w.store phase).1 p.identity lease := by
    intro lease hlease hnot
    rcases hact.has lease (h.held p hmem halive lease hlease) with hhas | ⟨released, hreleased⟩
    · exact hhas
    · exact absurd hreleased (hnot released)
  obtain ⟨hchange, hnext, -⟩ := hact
  rcases hresult : (act p.identity answer w.store phase).2 with φ | result | released | e
  · rw [hresult] at hnext hkept
    refine h.update hp halive rfl hchange (fun _ phase' hphase' ↦ ?_) fun _ lease hlease ↦ ?_
    · cases hphase'
      exact hnext
    · exact hkept lease hlease nofun
  · rw [hresult] at hnext hkept
    refine h.update hp halive rfl hchange (fun _ _ ↦ nofun) fun _ lease hlease ↦ ?_
    rcases Option.or_eq_some_iff.mp hlease with hgranted | ⟨-, hheld⟩
    · exact hnext lease hgranted
    · exact hkept lease hheld nofun
  · exact h.update hp halive rfl hchange (fun _ _ ↦ nofun) fun _ _ ↦ nofun
  · rw [hresult] at hkept
    refine h.update hp halive rfl hchange (fun _ _ ↦ nofun) fun _ lease hlease ↦ ?_
    exact hkept lease hlease nofun

/-- A new process. -/
theorem Safe.start (h : Safe w) {identity : ProcessIdentity}
    (hnew : ∀ p ∈ w.processes, p.identity ≠ identity ∧
      (p.alive = true → p.identity.workflow ≠ identity.workflow)) :
    Safe ⟨w.store, w.processes ++ [⟨identity, true, none, none, none⟩]⟩ := by
  have hdead : ∀ id, w.Dead id →
      World.Dead ⟨w.store, w.processes ++ [⟨identity, true, none, none, none⟩]⟩ id :=
    fun id ⟨p, hp, hid⟩ ↦ ⟨p, List.mem_append_left _ hp, hid⟩
  have hstarted : ∀ id, w.Started id →
      World.Started ⟨w.store, w.processes ++ [⟨identity, true, none, none, none⟩]⟩ id :=
    fun id ⟨p, hp, hid⟩ ↦ ⟨p, List.mem_append_left _ hp, hid⟩
  constructor
  · rw [List.map_append]
    refine h.nodup.append (List.nodup_singleton _) ?_
    simp only [List.map_cons, List.map_nil, List.disjoint_singleton, List.mem_map, not_exists, not_and]
    exact fun p hp ↦ (hnew p hp).1
  · intro a ha b hb haliveA haliveB hworkflow
    rcases List.mem_append.mp ha with ha | ha <;> rcases List.mem_append.mp hb with hb | hb
    · exact h.workflows a ha b hb haliveA haliveB hworkflow
    · cases List.mem_singleton.mp hb
      exact absurd hworkflow ((hnew a ha).2 haliveA)
    · cases List.mem_singleton.mp ha
      exact absurd hworkflow.symm ((hnew b hb).2 haliveB)
    · rw [List.mem_singleton.mp ha, List.mem_singleton.mp hb]
  · exact h.store.mono hdead hstarted
  · intro q hq halive phase hphase
    rcases List.mem_append.mp hq with hq | hq
    · exact (h.phases q hq halive phase hphase).mono hdead hstarted
    · cases List.mem_singleton.mp hq
      cases hphase
  · intro q hq halive lease hlease
    rcases List.mem_append.mp hq with hq | hq
    · exact h.held q hq halive lease hlease
    · cases List.mem_singleton.mp hq
      cases hlease

theorem safe_step {e : Event} (h : Safe w) (hclears : clearsReadMarker w e = true) (hstep : step w e = some t) :
    Safe t := by
  cases e with
  | start identity =>
    rw [step, Option.ite_none_right_eq_some] at hstep
    obtain ⟨hnew, hstep⟩ := hstep
    cases hstep
    exact h.start hnew
  | acquire i =>
    simp only [step, Option.bind_eq_bind, Option.bind_eq_some_iff, Option.ite_none_right_eq_some,
      Option.some.injEq] at hstep
    obtain ⟨p, hp, ⟨halive, hidle⟩, rfl⟩ := hstep
    have hmem : p ∈ w.processes := List.mem_of_getElem? hp
    refine h.update hp halive rfl (.kept rfl rfl) (fun _ phase hphase ↦ ?_) fun _ lease hlease ↦ ?_
    · cases hphase
      exact phaseSafe_attempt maxAttempts
    · exact h.held p hmem halive lease hlease
  | release i nonce =>
    simp only [step, Option.bind_eq_bind, Option.bind_eq_some_iff, Option.ite_none_right_eq_some,
      Option.some.injEq] at hstep
    obtain ⟨p, hp, ⟨halive, hidle⟩, rfl⟩ := hstep
    have hmem : p ∈ w.processes := List.mem_of_getElem? hp
    refine h.update hp halive rfl (.kept rfl rfl) (fun _ phase hphase ↦ ?_) fun _ lease hlease ↦ ?_
    · cases hphase
      trivial
    · exact h.held p hmem halive lease hlease
  | advance i answer =>
    simp only [step, Option.bind_eq_bind, Option.bind_eq_some_iff, Option.ite_none_right_eq_some,
      Option.some.injEq] at hstep
    obtain ⟨p, hp, phase, hphase, ⟨halive, htruth⟩, rfl⟩ := hstep
    refine h.advance hp hphase halive htruth fun attempts marker current hclearing hcurrent ↦ ?_
    simpa only [clearsReadMarker, hp, Option.bind_some, hphase, hclearing, hcurrent] using hclears
  | die i =>
    simp only [step, Option.bind_eq_bind, Option.bind_eq_some_iff, Option.ite_none_right_eq_some,
      Option.some.injEq] at hstep
    obtain ⟨p, hp, halive, rfl⟩ := hstep
    exact h.update hp halive rfl (.kept rfl rfl) nofun nofun

theorem safe_empty : Safe .empty where
  nodup := List.nodup_nil
  workflows _ hp := absurd hp List.not_mem_nil
  store := ⟨fun _ h ↦ absurd h (Option.some_ne_none _).symm,
    fun _ h ↦ absurd h (Option.some_ne_none _).symm, fun _ h ↦ absurd h (Option.some_ne_none _).symm⟩
  phases _ hp := absurd hp List.not_mem_nil
  held _ hp := absurd hp List.not_mem_nil

/-- A process holds the lease: it was granted one, has not released it, and lives. -/
def Process.Holds (p : Process) : Prop := p.alive = true ∧ p.held ≠ none

/-- No two live processes hold the lease. -/
def World.Exclusive (w : World) : Prop :=
  ∀ p ∈ w.processes, ∀ q ∈ w.processes, p.Holds → q.Holds → p = q

/-- Two live holders hold the one lease in the file, which has one owner. -/
theorem Safe.exclusive (h : Safe w) : w.Exclusive := by
  rintro p hp q hq ⟨halive, hheld⟩ ⟨haliveQ, hheldQ⟩
  obtain ⟨lease, hlease⟩ := Option.ne_none_iff_exists'.mp hheld
  obtain ⟨leaseQ, hleaseQ⟩ := Option.ne_none_iff_exists'.mp hheldQ
  obtain ⟨hfile, howner⟩ := h.held p hp halive lease hlease
  obtain ⟨hfileQ, hownerQ⟩ := h.held q hq haliveQ leaseQ hleaseQ
  cases hfile.symm.trans hfileQ
  exact List.inj_on_of_nodup_map h.nodup hp hq (howner.symm.trans hownerQ)

/-- In every run in which a process that clears the marker of a dead taker unlinks the marker it read,
at most one live process at a time holds the lease. -/
theorem mutual_exclusion {events : List Event}
    (hclears : EveryStep step (fun w e ↦ clearsReadMarker w e = true) .empty events)
    (hrun : runEvents step .empty events = some w) : w.Exclusive :=
  (invariant_of_run (fun _ _ _ ↦ safe_step) safe_empty hclears hrun).exclusive

end

/-! ### Two runs -/

/-- A process with this process id. -/
def processWith (pid : ℕ) : ProcessIdentity where
  osFamily := "LINUX"
  architecture := "x86_64"
  pid := pid
  startTokenFingerprint := "9f86d081884c7d659a2feaa0c55ad015a3bf4f1b2b0b822cd15d6c15b0f00a08"
  launchMarkerFingerprint := "60303ae22b998861bce3b28f33eec1be758a213c86c93c076dbe9f558c11c752"

/-- A call makes so many file operations and probes, and finds every process dead that it probes. -/
def operations (i n : ℕ) : List Event := List.replicate n (.advance i .dead)

/-- One process is granted the lease and dies, the next dies with its marker created. -/
def leftoverMarker : List Event :=
  [.start (processWith 1), .start (processWith 2), .start (processWith 3), .start (processWith 4),
    .start (processWith 5), .acquire 0] ++ operations 0 3 ++ [.die 0, .acquire 1] ++
    operations 1 4 ++ [.die 1]

/-- Three processes read the leftover marker. The fourth process clears it and takes over up to the
unlink of the lease. The third clears the marker of the fourth and takes over as far. The fourth ends its
takeover after the fifth has cleared the marker of the third, and the third ends its own. -/
def raceEvents : List Event :=
  leftoverMarker ++ [.acquire 2] ++ operations 2 3 ++ [.acquire 4] ++ operations 4 3 ++
    [.acquire 3] ++ operations 3 12 ++ operations 2 10 ++ operations 3 4 ++ operations 4 1 ++
    operations 3 1 ++ operations 2 5

/-- The third process clears the leftover marker and takes over. -/
theorem sample_one_holder : ∃ w, runEvents step .empty (leftoverMarker ++ [.acquire 2] ++
    operations 2 18) = some w ∧ w.Exclusive := by
  have hsome : (runEvents step .empty (leftoverMarker ++ [.acquire 2] ++
      operations 2 18)).isSome = true := by decide +kernel
  obtain ⟨w, hw⟩ := Option.isSome_iff_exists.mp hsome
  exact ⟨w, hw, mutual_exclusion (everyStep_of_checkSteps (by decide +kernel)) hw⟩

/-- Two live processes hold the lease at the end of the race. -/
theorem sample_two_holders : ∃ events w, runEvents step .empty events = some w ∧ ¬ w.Exclusive := by
  have hholders : (runEvents step .empty raceEvents).map (fun w ↦ w.processes.map fun p ↦
      (p.identity.pid, p.alive, p.held.isSome)) = some [(1, false, true), (2, false, false),
        (3, true, true), (4, true, true), (5, true, false)] := by
    decide +kernel
  obtain ⟨w, hw, hlist⟩ := Option.map_eq_some_iff.mp hholders
  refine ⟨raceEvents, w, hw, fun hexclusive ↦ ?_⟩
  have hholds : ∀ pid, (pid, true, true) ∈ w.processes.map (fun p ↦
      (p.identity.pid, p.alive, p.held.isSome)) →
      ∃ p ∈ w.processes, p.identity.pid = pid ∧ p.Holds := by
    intro pid hmem
    obtain ⟨p, hp, hfields⟩ := List.mem_map.mp hmem
    simp only [Prod.mk.injEq] at hfields
    exact ⟨p, hp, hfields.1, hfields.2.1, Option.isSome_iff_ne_none.mp hfields.2.2⟩
  obtain ⟨p, hp, hpid, hpholds⟩ := hholds 3 (by simp [hlist])
  obtain ⟨q, hq, hqid, hqholds⟩ := hholds 4 (by simp [hlist])
  rw [hexclusive p hp q hq hpholds hqholds, hqid] at hpid
  exact absurd hpid (by decide)

end N0te.Lease
