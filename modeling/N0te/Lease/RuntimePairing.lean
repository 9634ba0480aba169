import Mathlib.Data.List.Basic
import N0te.Lease.AppRuntime

/-!
# Leases and Headquarters of the application runtime

`Paired` says of a runtime that its lease is the one that is owned and its Headquarters the one that
is open, that it is running only with both and for one profile, and that whenever a lease was
released every Headquarters opened before had been closed. `CallPaired` says what the result of a
call means for the two.

Every call does so unless `memory_opener` returns a Headquarters of another profile that cannot be
closed: that Headquarters is forgotten, and the lease released or kept without it
(`runtime_paired_iff`).
-/

set_option autoImplicit false
set_option relaxedAutoImplicit false

namespace N0te.Lease

open Library

/-! ### What is open and what is owned -/

def IsOpen (done : List Effect) (headquarters : Headquarters) : Prop :=
  (∃ hold, .opened hold headquarters ∈ done) ∧ .closed headquarters ∉ done

/-- A lease was acquired and not released after that. -/
def HoldsLease (done : List Effect) (hold : Hold) : Prop :=
  ∃ before after, done = before ++ .acquired hold :: after ∧ .released hold ∉ after

/-- When a lease was released, every Headquarters opened under it had been closed. -/
def ReleasesClosed (done : List Effect) : Prop :=
  ∀ before hold after, done = before ++ .released hold :: after →
    ∀ headquarters, .opened hold headquarters ∈ before → .closed headquarters ∈ before

/-- A Headquarters has the number of the effects before its opening. -/
def Numbered (done : List Effect) : Prop :=
  ∀ headquarters, ((∃ hold, .opened hold headquarters ∈ done) ∨ .closed headquarters ∈ done) →
    headquarters.handle < done.length

section

variable {done : List Effect} {hold other : Hold} {headquarters hq : Headquarters} {effect : Effect}

theorem eq_append_cons_of_concat {α : Type} {l before after : List α} {a b : α}
    (h : l ++ [a] = before ++ b :: after) :
    (after = [] ∧ before = l ∧ b = a) ∨
      ∃ middle, after = middle ++ [a] ∧ l = before ++ b :: middle := by
  rcases List.eq_nil_or_concat after with rfl | ⟨middle, last, rfl⟩
  · obtain ⟨hl, ha⟩ := List.append_inj' h rfl
    exact .inl ⟨rfl, hl.symm, (List.singleton_inj.mp ha).symm⟩
  · rw [List.concat_eq_append, ← List.cons_append, ← List.append_assoc] at h
    obtain ⟨hl, ha⟩ := List.append_inj' h rfl
    exact .inr ⟨middle, by rw [List.concat_eq_append, List.singleton_inj.mp ha], hl⟩

@[simp] theorem isOpen_acquired :
    IsOpen (done ++ [.acquired hold]) hq ↔ IsOpen done hq := by simp [IsOpen]

@[simp] theorem isOpen_released :
    IsOpen (done ++ [.released hold]) hq ↔ IsOpen done hq := by simp [IsOpen]

@[simp] theorem isOpen_closed :
    IsOpen (done ++ [.closed headquarters]) hq ↔ IsOpen done hq ∧ hq ≠ headquarters := by
  simp [IsOpen, and_assoc]

theorem isOpen_opened (h : Numbered done) (hhandle : headquarters.handle = done.length) :
    IsOpen (done ++ [.opened hold headquarters]) hq ↔ hq = headquarters ∨ IsOpen done hq := by
  have hfresh : .closed headquarters ∉ done := fun hclosed ↦
    absurd (h headquarters (.inr hclosed)) (by omega)
  by_cases heq : hq = headquarters
  · simp [IsOpen, heq, hfresh]
  · simp [IsOpen, heq]

@[simp] theorem holdsLease_acquired :
    HoldsLease (done ++ [.acquired hold]) other ↔ other = hold ∨ HoldsLease done other := by
  constructor
  · rintro ⟨before, after, heq, hkept⟩
    rcases eq_append_cons_of_concat heq with ⟨-, -, hsame⟩ | ⟨middle, rfl, hdone⟩
    · exact .inl (Effect.acquired.inj hsame)
    · exact .inr ⟨before, middle, hdone, fun hmem ↦ hkept (List.mem_append_left _ hmem)⟩
  · rintro (rfl | ⟨before, after, rfl, hkept⟩)
    · exact ⟨done, [], rfl, List.not_mem_nil⟩
    · exact ⟨before, after ++ [.acquired hold], by simp, by simpa using hkept⟩

@[simp] theorem holdsLease_released :
    HoldsLease (done ++ [.released hold]) other ↔ HoldsLease done other ∧ other ≠ hold := by
  constructor
  · rintro ⟨before, after, heq, hkept⟩
    rcases eq_append_cons_of_concat heq with ⟨-, -, hsame⟩ | ⟨middle, rfl, hdone⟩
    · cases hsame
    · simp only [List.mem_append, List.mem_singleton, Effect.released.injEq, not_or] at hkept
      exact ⟨⟨before, middle, hdone, hkept.1⟩, hkept.2⟩
  · rintro ⟨⟨before, after, rfl, hkept⟩, hne⟩
    exact ⟨before, after ++ [.released hold], by simp, by simp [hkept, hne]⟩

theorem holdsLease_append (h : ∀ hold, effect ≠ .acquired hold ∧ effect ≠ .released hold) :
    HoldsLease (done ++ [effect]) other ↔ HoldsLease done other := by
  constructor
  · rintro ⟨before, after, heq, hkept⟩
    rcases eq_append_cons_of_concat heq with ⟨-, -, hsame⟩ | ⟨middle, rfl, hdone⟩
    · exact absurd hsame.symm (h other).1
    · exact ⟨before, middle, hdone, fun hmem ↦ hkept (List.mem_append_left _ hmem)⟩
  · rintro ⟨before, after, rfl, hkept⟩
    refine ⟨before, after ++ [effect], by simp, fun hmem ↦ ?_⟩
    rcases List.mem_append.mp hmem with hmem | hlast
    · exact hkept hmem
    · exact (h other).2 (List.mem_singleton.mp hlast).symm

@[simp] theorem holdsLease_opened :
    HoldsLease (done ++ [.opened hold headquarters]) other ↔ HoldsLease done other :=
  holdsLease_append (by simp)

@[simp] theorem holdsLease_closed :
    HoldsLease (done ++ [.closed headquarters]) other ↔ HoldsLease done other :=
  holdsLease_append (by simp)

/-- What was released before goes on to be so. -/
theorem ReleasesClosed.append (h : ReleasesClosed done)
    (hlast : ∀ hold, effect = .released hold →
      ∀ headquarters, .opened hold headquarters ∈ done → .closed headquarters ∈ done) :
    ReleasesClosed (done ++ [effect]) := by
  intro before hold after heq
  rcases eq_append_cons_of_concat heq with ⟨-, rfl, hsame⟩ | ⟨middle, -, hdone⟩
  · exact hlast hold hsame.symm
  · exact h before hold middle hdone

theorem Numbered.append (h : Numbered done)
    (hlast : ∀ headquarters, (∃ hold, effect = .opened hold headquarters) ∨
      effect = .closed headquarters → headquarters.handle ≤ done.length) :
    Numbered (done ++ [effect]) := by
  intro headquarters hmem
  rw [List.length_append, List.length_singleton, Nat.lt_succ_iff]
  simp only [List.mem_append, List.mem_singleton] at hmem
  rcases hmem with ⟨hold, hold | hlast'⟩ | hclosed | hlast'
  · exact (h headquarters (.inl ⟨_, hold⟩)).le
  · exact hlast headquarters (.inl ⟨_, hlast'.symm⟩)
  · exact (h headquarters (.inr hclosed)).le
  · exact hlast headquarters (.inr hlast'.symm)

end

/-! ### What calls keep -/

/-- The lease that is owned and the Headquarters that is open, after some effects. -/
structure Ledger (done : List Effect) (held : Option Hold) (opened : Option Headquarters) :
    Prop where
  /-- Every Headquarters opened under a lease was closed before its release. -/
  released : ReleasesClosed done
  /-- No other Headquarters is open. -/
  isOpen : ∀ headquarters, IsOpen done headquarters ↔ opened = some headquarters
  /-- No other lease is owned. -/
  owns : ∀ hold, HoldsLease done hold ↔ held = some hold
  /-- No Headquarters has the number of the next. -/
  numbered : Numbered done

/-- A runtime owns its lease and has its Headquarters open, and nothing else. -/
structure Paired (w : RuntimeWorld) : Prop where
  /-- The lease and the Headquarters are those of the fields. -/
  ledger : Ledger w.done w.runtime.hold w.runtime.headquarters
  /-- While it is running it has both, for one profile. -/
  running : w.runtime.state = .running → ∃ headquarters hold,
    w.runtime.headquarters = some headquarters ∧ w.runtime.hold = some hold ∧
      headquarters.profileId = hold.profileId
  /-- While it needs recovery it has a lease. -/
  recovery : w.runtime.state = .recoveryRequired → ∃ hold, w.runtime.hold = some hold
  /-- While it is stopped it has none. -/
  stopped : w.runtime.state = .stopped → w.runtime = .cleared

section

variable {done : List Effect} {held : Option Hold} {hold : Hold} {headquarters : Headquarters}

theorem ledger_nil : Ledger [] none none where
  released := fun before hold after h ↦ absurd h (by simp)
  isOpen := by simp [IsOpen]
  owns := by simp [HoldsLease]
  numbered := by simp [Numbered]

theorem Ledger.acquired (h : Ledger done none none) :
    Ledger (done ++ [.acquired hold]) (some hold) none where
  released := h.released.append (by simp)
  isOpen := by simp [h.isOpen]
  owns := by simp [h.owns, eq_comm]
  numbered := h.numbered.append (by simp)

theorem Ledger.opened (h : Ledger done held none) {profileId : String} :
    Ledger (done ++ [.opened hold ⟨done.length, profileId⟩]) held
      (some ⟨done.length, profileId⟩) where
  released := h.released.append (by simp)
  isOpen := by simp [isOpen_opened h.numbered, h.isOpen, eq_comm]
  owns := by simp [h.owns]
  numbered := h.numbered.append (by simp +contextual)

theorem Ledger.closed (h : Ledger done held (some headquarters)) :
    Ledger (done ++ [.closed headquarters]) held none where
  released := h.released.append (by simp)
  isOpen := by simp [h.isOpen, eq_comm]
  owns := by simp [h.owns]
  numbered := by
    obtain ⟨hopened, -⟩ := (h.isOpen headquarters).mpr rfl
    have hhandle := h.numbered headquarters (.inl hopened)
    refine h.numbered.append fun other hother ↦ ?_
    rcases hother with ⟨_, heq⟩ | heq
    · cases heq
    · exact Effect.closed.inj heq ▸ hhandle.le

theorem Ledger.unheld (h : Ledger done (some hold) none) :
    Ledger (done ++ [.released hold]) none none where
  released := by
    refine h.released.append fun other _ headquarters hopened ↦ ?_
    by_contra hclosed
    exact absurd ((h.isOpen headquarters).mp ⟨⟨other, hopened⟩, hclosed⟩) (by simp)
  isOpen := by simp [h.isOpen]
  owns := by simp [h.owns, eq_comm]
  numbered := h.numbered.append (by simp)

end

/-- A call of a runtime, with what the things it calls do. -/
inductive RuntimeCall where
  | launch (profileId : String) (process : ProcessIdentity) (outcomes : Outcomes)
  | quit (outcomes : Outcomes)

def perform (w : RuntimeWorld) : RuntimeCall → RuntimeWorld
  | .launch profileId process outcomes => (exec (launch outcomes profileId process) w).2
  | .quit outcomes => (exec (quit outcomes) w).2

def stepRuntime (w : RuntimeWorld) (call : RuntimeCall) : Option RuntimeWorld :=
  some (perform w call)

/-- What a result of `launch` says. -/
structure LaunchPaired (w : RuntimeWorld) (process : ProcessIdentity) (result : LaunchResult)
    (after : RuntimeWorld) : Prop where
  started : result.status = .started → after.runtime.state = .running
  /-- A launch that did not start has opened nothing and owns nothing new. -/
  notStarted : result.status ≠ .started → result.status ≠ .recoveryRequired →
    (∀ headquarters, IsOpen after.done headquarters → IsOpen w.done headquarters) ∧
      ∀ hold, HoldsLease after.done hold → HoldsLease w.done hold
  /-- A start that failed leaves nothing open, and no lease. -/
  failed : result.status = .startFailed →
    (∀ headquarters, ¬ IsOpen after.done headquarters) ∧ ∀ hold, ¬ HoldsLease after.done hold
  /-- What is left for recovery is the process and the lease of the launch. -/
  recovery : result.status = .recoveryRequired → after.runtime.state = .recoveryRequired ∧
    after.runtime.process = some process ∧ after.runtime.lease = result.lease

/-- What a result of `quit` says. -/
structure QuitPaired (w : RuntimeWorld) (outcomes : Outcomes) (result : QuitResult)
    (after : RuntimeWorld) : Prop where
  /-- It is stopped exactly when the close and the release both succeed. -/
  stopped : result.status = .stopped ↔ w.runtime.state ≠ .stopped ∧
    (w.runtime.headquarters ≠ none → outcomes.closing = .ok ()) ∧ outcomes.releasing = .ok ()
  /-- Then the Headquarters is closed and the lease released. -/
  ended : result.status = .stopped → (∀ headquarters, ¬ IsOpen after.done headquarters) ∧
    ∀ hold, ¬ HoldsLease after.done hold
  /-- What is left for recovery is the process and the lease. -/
  recovery : result.status = .recoveryRequired → after.runtime.state = .recoveryRequired ∧
    after.runtime.process = w.runtime.process ∧ after.runtime.lease = w.runtime.lease

/-- A call leaves a paired runtime, and its result says so. -/
def CallPaired (w : RuntimeWorld) (call : RuntimeCall) : Prop :=
  Paired (perform w call) ∧ match call with
    | .launch profileId process outcomes => ∀ result,
        (exec (launch outcomes profileId process) w).1 = .ok result →
          LaunchPaired w process result (perform w call)
    | .quit outcomes => (w.runtime.state ≠ .stopped → ∃ result,
        (exec (quit outcomes) w).1 = .ok result) ∧ ∀ result,
          (exec (quit outcomes) w).1 = .ok result → QuitPaired w outcomes result (perform w call)

/-- A launch that acquires a lease and is given a Headquarters of another profile closes it. -/
def ClosesForeign (w : RuntimeWorld) : RuntimeCall → Prop
  | .launch profileId _ outcomes => ∀ acquired lease other, w.runtime.state = .stopped →
      strip profileId ≠ "" → outcomes.acquiring = .ok acquired → acquired.granted = some lease →
        outcomes.opening = .ok (.headquarters other) → other ≠ strip profileId →
          outcomes.closing = .ok ()
  | .quit _ => True

/-! ### What the calls do -/

section

variable {outcomes : Outcomes} {profile : String} {process : ProcessIdentity} {w : RuntimeWorld}
  {hold : Hold} {lease : InstanceLease} {headquarters : Headquarters}

@[simp] theorem exec_setRuntime (runtime : AppRuntime) :
    exec (setRuntime runtime) w = (.ok (), { w with runtime := runtime }) := rfl

theorem exec_closeHeadquarters : exec (closeHeadquarters outcomes headquarters) w =
    match outcomes.closing with
    | .ok _ => (.ok (), w.does (.closed headquarters))
    | .error e => (.error e, w) := by
  rw [closeHeadquarters, exec_bind, exec_fromExcept]
  cases outcomes.closing <;> rfl

theorem exec_releaseLease : exec (releaseLease outcomes hold) w =
    match outcomes.releasing with
    | .ok _ => (.ok (), w.does (.released hold))
    | .error e => (.error e, w) := by
  rw [releaseLease, exec_bind, exec_fromExcept]
  cases outcomes.releasing <;> rfl

/-- What the opening of Headquarters does. -/
inductive Opens (outcomes : Outcomes) (profile : String) (hold : Hold) (w : RuntimeWorld) :
    Except AppRaised Headquarters × RuntimeWorld → Prop
  /-- Nothing is opened. -/
  | nothing (e : AppRaised) (hopening : ∀ other, outcomes.opening ≠ .ok (.headquarters other)) :
      Opens outcomes profile hold w (.error e, w)
  /-- The Headquarters of another profile is closed. -/
  | closed (e : AppRaised) (other : String)
      (hopening : outcomes.opening = .ok (.headquarters other)) (hother : other ≠ profile)
      (hclosing : outcomes.closing = .ok ()) :
      Opens outcomes profile hold w (.error e, (w.does (.opened hold ⟨w.done.length, other⟩)).does
        (.closed ⟨w.done.length, other⟩))
  /-- The Headquarters of another profile cannot be closed. -/
  | leaked (e : AppRaised) (other : String)
      (hopening : outcomes.opening = .ok (.headquarters other)) (hother : other ≠ profile)
      (hclosing : outcomes.closing ≠ .ok ()) :
      Opens outcomes profile hold w (.error e, w.does (.opened hold ⟨w.done.length, other⟩))
  /-- The Headquarters of the profile is opened. -/
  | opened (hopening : outcomes.opening = .ok (.headquarters profile)) :
      Opens outcomes profile hold w (.ok ⟨w.done.length, profile⟩,
        w.does (.opened hold ⟨w.done.length, profile⟩))

theorem opens_openHeadquarters (outcomes : Outcomes) (profile : String) (hold : Hold)
    (w : RuntimeWorld) :
    Opens outcomes profile hold w (exec (openHeadquarters outcomes profile hold) w) := by
  have hmemory : exec (openMemory outcomes hold) w = match outcomes.opening with
      | .error e => (.error e, w)
      | .ok .other => (.ok none, w)
      | .ok (.headquarters other) => (.ok (some ⟨w.done.length, other⟩),
          w.does (.opened hold ⟨w.done.length, other⟩)) := by
    rw [openMemory, exec_bind, exec_fromExcept]
    rcases outcomes.opening with e | _ | _ <;> rfl
  rw [openHeadquarters, exec_bind, hmemory]
  rcases hopening : outcomes.opening with e | other | _
  · exact .nothing e (by simp [hopening])
  · by_cases hother : other = profile
    · subst hother
      simpa using Opens.opened hopening
    · simp only [ne_eq, hother, not_false_eq_true, if_true, exec_bind, exec_tryCatch,
        exec_closeHeadquarters]
      rcases hclosing : outcomes.closing with e | _
      · exact .leaked _ other hopening hother (by simp [hclosing])
      · exact .closed _ other hopening hother hclosing
  · exact .nothing _ (by simp [hopening])

end

/-! ### Launches -/

section

variable {outcomes : Outcomes} {profile : String} {process : ProcessIdentity} {w : RuntimeWorld}
  {lease : InstanceLease} {headquarters : Headquarters} {previous : Option InstanceLease}

theorem paired_cleared {done : List Effect} (h : Ledger done none none) :
    Paired ⟨.cleared, done⟩ where
  ledger := h
  running := nofun
  recovery := nofun
  stopped _ := rfl

theorem paired_recovery {done : List Effect} {opened : Option Headquarters}
    (h : Ledger done (some ⟨profile, process, lease.leaseNonce⟩) opened) :
    Paired ⟨⟨.recoveryRequired, some profile, some process, some lease, opened⟩, done⟩ where
  ledger := h
  running := nofun
  recovery _ := ⟨_, rfl⟩
  stopped := nofun

/-- A result of a launch and the world after it are as they should be. -/
def LaunchKept (w : RuntimeWorld) (process : ProcessIdentity)
    (returned : Except AppRaised LaunchResult × RuntimeWorld) : Prop :=
  Paired returned.2 ∧
    ∀ result, returned.1 = .ok result → LaunchPaired w process result returned.2

/-- A launch that failed to start left nothing. -/
theorem launchKept_failed {done : List Effect} {reason : String} (h : Ledger done none none) :
    LaunchKept w process
      (.ok ⟨.startFailed, profile, none, previous, reason⟩, ⟨.cleared, done⟩) := by
  refine ⟨paired_cleared h, ?_⟩
  rintro _ ⟨⟩
  have hnothing : (∀ headquarters, ¬ IsOpen done headquarters) ∧ ∀ hold, ¬ HoldsLease done hold :=
    ⟨by simp [h.isOpen], by simp [h.owns]⟩
  exact ⟨nofun, fun _ _ ↦ ⟨fun hq hopen ↦ absurd hopen (hnothing.1 hq),
    fun hold howns ↦ absurd howns (hnothing.2 hold)⟩, fun _ ↦ hnothing, nofun⟩

/-- A launch that has to be recovered left its lease, and its Headquarters if it is open. -/
theorem launchKept_recovery {done : List Effect} {opened : Option Headquarters} {reason : String}
    (h : Ledger done (some ⟨profile, process, lease.leaseNonce⟩) opened) :
    LaunchKept w process
      (.ok ⟨.recoveryRequired, profile, some lease, previous, reason⟩,
        ⟨⟨.recoveryRequired, some profile, some process, some lease, opened⟩, done⟩) := by
  refine ⟨paired_recovery h, ?_⟩
  rintro _ ⟨⟩
  exact ⟨nofun, fun _ hnot ↦ absurd rfl hnot, nofun, fun _ ↦ ⟨rfl, rfl, rfl⟩⟩

/-- A launch that started is running with its lease and its Headquarters. -/
theorem launchKept_started {done : List Effect} {reason : String}
    (h : Ledger done (some ⟨profile, process, lease.leaseNonce⟩) (some headquarters))
    (hprofile : headquarters.profileId = profile) :
    LaunchKept w process
      (.ok ⟨.started, profile, some lease, previous, reason⟩,
        ⟨⟨.running, some profile, some process, some lease, some headquarters⟩, done⟩) := by
  refine ⟨⟨h, fun _ ↦ ⟨headquarters, _, rfl, rfl, hprofile⟩, nofun, nofun⟩, ?_⟩
  rintro _ ⟨⟩
  exact ⟨fun _ ↦ rfl, fun hnot ↦ absurd rfl hnot, nofun, nofun⟩

theorem launchKept_openFailed {done : List Effect} {e : AppRaised}
    (h : Ledger done (some ⟨profile, process, lease.leaseNonce⟩) none) :
    LaunchKept w process
      (exec (openFailed outcomes profile process lease previous e) ⟨.cleared, done⟩) := by
  rw [openFailed, exec_bind, exec_attempting, exec_releaseLease]
  rcases outcomes.releasing with cleanup | _
  · exact launchKept_recovery h
  · exact launchKept_failed h.unheld

theorem launchKept_installFailed {done : List Effect} {e : AppRaised}
    (h : Ledger done (some ⟨profile, process, lease.leaseNonce⟩) (some headquarters)) :
    LaunchKept w process
      (exec (installFailed outcomes profile process lease previous headquarters e)
        ⟨.cleared, done⟩) := by
  rw [installFailed, exec_bind, exec_attempting, exec_closeHeadquarters]
  rcases outcomes.closing with close | _
  · exact launchKept_recovery h
  · show LaunchKept w process (exec (_ >>= _) _)
    rw [exec_bind, exec_attempting, exec_releaseLease]
    rcases outcomes.releasing with cleanup | _
    · exact launchKept_recovery h.closed
    · exact launchKept_failed h.closed.unheld

/-- A Headquarters that could not be closed is lost. -/
theorem not_launchKept_leaked {done : List Effect} {e : AppRaised}
    (hopen : IsOpen done headquarters) :
    ¬ LaunchKept w process
      (exec (openFailed outcomes profile process lease previous e) ⟨.cleared, done⟩) := by
  rw [openFailed, exec_bind, exec_attempting, exec_releaseLease]
  rcases outcomes.releasing with cleanup | _
  · rintro ⟨hpaired, -⟩
    have hnone : none = some headquarters := (hpaired.ledger.isOpen headquarters).mp hopen
    exact Option.some_ne_none _ hnone.symm
  · rintro ⟨-, hresult⟩
    have hkept := (hresult _ rfl).failed rfl
    exact hkept.1 headquarters (isOpen_released.mpr hopen)

/-- With a lease of its own a launch keeps everything unless it loses a Headquarters. -/
theorem launchKept_launchUnder_iff {done : List Effect} {acquired : LeaseAcquireResult}
    (h : Ledger done (some ⟨profile, process, lease.leaseNonce⟩) none) :
    LaunchKept w process
        (exec (launchUnder outcomes profile process acquired lease) ⟨.cleared, done⟩) ↔
      ∀ other, outcomes.opening = .ok (.headquarters other) → other ≠ profile →
        outcomes.closing = .ok () := by
  rw [launchUnder, exec_bind, exec_attempting]
  have hopens := opens_openHeadquarters outcomes profile ⟨profile, process, lease.leaseNonce⟩
    ⟨.cleared, done⟩
  generalize exec (openHeadquarters outcomes profile _) _ = opening at hopens
  cases hopens with
  | nothing e hopening =>
    exact iff_of_true (launchKept_openFailed h) fun other hother ↦ absurd hother (hopening other)
  | closed e other hopening hother hclosing =>
    exact iff_of_true (launchKept_openFailed h.opened.closed) fun _ _ _ ↦ hclosing
  | leaked e other hopening hother hclosing =>
    have hcannot (hcloses : ∀ other, outcomes.opening = .ok (.headquarters other) →
        other ≠ profile → outcomes.closing = .ok ()) : False :=
      hclosing (hcloses other hopening hother)
    exact iff_of_false (not_launchKept_leaked ((h.opened.isOpen ⟨done.length, other⟩).mpr rfl))
      hcannot
  | opened hopening =>
    refine iff_of_true ?_ fun other hother hne ↦ absurd ?_ hne
    · rcases outcomes.installing with e | _
      · exact launchKept_installFailed h.opened
      · exact launchKept_started h.opened rfl
    · cases hopening.symm.trans hother
      rfl

theorem exec_acquireLease {profileId : String} : exec (acquireLease outcomes profileId process) w =
    match outcomes.acquiring with
    | .error e => (.error e, w)
    | .ok acquired => (.ok acquired, match acquired.granted with
      | some lease => w.does (.acquired ⟨profileId, process, lease.leaseNonce⟩)
      | none => w) := by
  rw [acquireLease, exec_bind, exec_fromExcept]
  rcases outcomes.acquiring with e | acquired
  · rfl
  · dsimp only
    cases acquired.granted <;> rfl

/-- A call that raised and left a paired runtime keeps everything. -/
theorem launchKept_raised {w' : RuntimeWorld} {e : AppRaised} (h : Paired w') :
    LaunchKept w process (.error e, w') := ⟨h, nofun⟩

/-- A call that was refused and left the runtime as it was keeps everything. -/
theorem launchKept_refused {result : LaunchResult} (h : Paired w)
    (hstatus : result.status ≠ .started ∧ result.status ≠ .startFailed ∧
      result.status ≠ .recoveryRequired) :
    LaunchKept w process (.ok result, w) := by
  refine ⟨h, ?_⟩
  rintro _ ⟨⟩
  exact ⟨fun hs ↦ absurd hs hstatus.1, fun _ _ ↦ ⟨fun _ ↦ id, fun _ ↦ id⟩,
    fun hs ↦ absurd hs hstatus.2.1, fun hs ↦ absurd hs hstatus.2.2⟩

/-- From a stopped runtime, a launch keeps everything unless it loses a Headquarters. -/
theorem launchKept_stopped_iff {done : List Effect} (h : Ledger done none none) :
    LaunchKept ⟨.cleared, done⟩ process
        (exec (acquireLease outcomes profile process >>= launchAcquired outcomes profile process)
          ⟨.cleared, done⟩) ↔
      ∀ acquired lease other, outcomes.acquiring = .ok acquired → acquired.granted = some lease →
        outcomes.opening = .ok (.headquarters other) → other ≠ profile →
          outcomes.closing = .ok () := by
  have hpaired : Paired ⟨.cleared, done⟩ := paired_cleared h
  rw [exec_bind, exec_acquireLease]
  rcases hacquiring : outcomes.acquiring with e | acquired
  · exact iff_of_true (launchKept_raised hpaired) fun _ _ _ hother ↦ nomatch hother
  dsimp only
  rcases hgranted : acquired.granted with _ | lease
  · -- Nothing was granted: the launch is refused.
    refine iff_of_true ?_ fun _ _ _ heq hsome ↦ ?_
    · rw [launchAcquired]
      cases hstatus : acquired.status with
      | alreadyOwned | heldByOther | uncertain => exact launchKept_refused hpaired (by simp)
      | acquired | replacedStale =>
        have hlease : acquired.lease = none := by
          rw [← hgranted, LeaseAcquireResult.granted, if_pos (by simp [hstatus])]
        rw [hlease]
        exact launchKept_raised hpaired
    · cases heq
      exact absurd (hgranted.symm.trans hsome) nofun
  · have hlaunch : launchAcquired outcomes profile process acquired =
        launchUnder outcomes profile process acquired lease := by
      rw [LeaseAcquireResult.granted] at hgranted
      split_ifs at hgranted with hstatus
      rw [launchAcquired, hgranted]
      rcases hstatus with hstatus | hstatus <;> rw [hstatus]
    rw [hlaunch]
    refine (launchKept_launchUnder_iff h.acquired).trans ⟨fun hcloses _ _ other _ _ ↦ hcloses other,
      fun hcloses other ↦ hcloses acquired lease other rfl hgranted⟩

/-- A launch keeps everything unless it loses a Headquarters. -/
theorem callPaired_launch_iff (h : Paired w) (profileId : String) (process : ProcessIdentity)
    (outcomes : Outcomes) :
    CallPaired w (.launch profileId process outcomes) ↔
      ClosesForeign w (.launch profileId process outcomes) := by
  show LaunchKept w process (exec (launch outcomes profileId process) w) ↔ _
  unfold launch
  by_cases hempty : strip profileId = ""
  · refine iff_of_true ?_ fun _ _ _ _ hne ↦ absurd hempty hne
    simp only [hempty, if_true]
    exact launchKept_raised h
  simp only [hempty, if_false]
  rw [exec_get_bind]
  rcases hstate : w.runtime.state with _ | _ | _
  · -- Only a stopped runtime acquires a lease.
    obtain ⟨runtime, done⟩ := w
    obtain rfl : runtime = .cleared := h.stopped hstate
    refine (launchKept_stopped_iff h.ledger).trans ⟨?_, ?_⟩
    · exact fun hcloses acquired lease other _ _ ↦ hcloses acquired lease other
    · exact fun hcloses acquired lease other ↦ hcloses acquired lease other rfl hempty
  · refine iff_of_true ?_ fun _ _ _ hstopped ↦ absurd (hstate.symm.trans hstopped) nofun
    dsimp only
    split_ifs
    · exact launchKept_refused h (by simp)
    · exact launchKept_raised h
  · exact iff_of_true (launchKept_raised h) fun _ _ _ hstopped ↦
      absurd (hstate.symm.trans hstopped) nofun

end

/-! ### Quits -/

section

variable {outcomes : Outcomes} {w : RuntimeWorld} {runtime : AppRuntime} {profile : String}
  {process : ProcessIdentity} {lease : InstanceLease} {headquarters : Option Headquarters}

/-- A result of a quit and the world after it are as they should be. -/
def QuitKept (w : RuntimeWorld) (outcomes : Outcomes)
    (returned : Except AppRaised QuitResult × RuntimeWorld) : Prop :=
  Paired returned.2 ∧ (w.runtime.state ≠ .stopped → ∃ result, returned.1 = .ok result) ∧
    ∀ result, returned.1 = .ok result → QuitPaired w outcomes result returned.2

/-- A quit that could not close or release keeps the process and the lease. -/
theorem quitKept_recovery {done : List Effect} {reason : String}
    (hruntime : w.runtime.process = some process ∧ w.runtime.lease = some lease)
    (h : Ledger done (some ⟨profile, process, lease.leaseNonce⟩) headquarters)
    (hnot : ¬ ((w.runtime.headquarters ≠ none → outcomes.closing = .ok ()) ∧
      outcomes.releasing = .ok ())) :
    QuitKept w outcomes (.ok ⟨.recoveryRequired, some profile, reason⟩,
      ⟨⟨.recoveryRequired, some profile, some process, some lease, headquarters⟩, done⟩) := by
  refine ⟨paired_recovery h, fun _ ↦ ⟨_, rfl⟩, ?_⟩
  rintro _ ⟨⟩
  exact ⟨iff_of_false nofun fun hstopped ↦ hnot hstopped.2, nofun,
    fun _ ↦ ⟨rfl, hruntime.1.symm, hruntime.2.symm⟩⟩

/-- A quit that closed and released leaves nothing. -/
theorem quitKept_stopped {done : List Effect} {reason : String} (h : Ledger done none none)
    (hstate : w.runtime.state ≠ .stopped)
    (hclosing : w.runtime.headquarters ≠ none → outcomes.closing = .ok ())
    (hreleasing : outcomes.releasing = .ok ()) :
    QuitKept w outcomes (.ok ⟨.stopped, some profile, reason⟩, ⟨.cleared, done⟩) := by
  refine ⟨paired_cleared h, fun _ ↦ ⟨_, rfl⟩, ?_⟩
  rintro _ ⟨⟩
  exact ⟨iff_of_true rfl ⟨hstate, hclosing, hreleasing⟩,
    fun _ ↦ ⟨by simp [h.isOpen], by simp [h.owns]⟩, nofun⟩

/-- A quit of a runtime that is stopped changes nothing. -/
theorem quitKept_alreadyStopped {reason : String} (h : Paired w)
    (hstate : w.runtime.state = .stopped) :
    QuitKept w outcomes (.ok ⟨.alreadyStopped, none, reason⟩, w) := by
  refine ⟨h, fun hne ↦ absurd hstate hne, ?_⟩
  rintro _ ⟨⟩
  exact ⟨iff_of_false nofun fun hstopped ↦ hstopped.1 hstate, nofun, nofun⟩

/-- A runtime that has something to quit has its profile, its process and its lease. -/
theorem Paired.exists_lease (h : Paired w) (hstate : w.runtime.state ≠ .stopped) :
    ∃ profile process lease, w.runtime.profileId = some profile ∧
      w.runtime.process = some process ∧ w.runtime.lease = some lease := by
  have hhold : ∃ hold, w.runtime.hold = some hold := by
    cases hcase : w.runtime.state with
    | stopped => exact absurd hcase hstate
    | running =>
      obtain ⟨_, hold, -, hhold, -⟩ := h.running hcase
      exact ⟨hold, hhold⟩
    | recoveryRequired => exact h.recovery hcase
  obtain ⟨hold, hhold⟩ := hhold
  simp only [AppRuntime.hold, Option.bind_eq_bind, Option.bind_eq_some_iff] at hhold
  obtain ⟨profile, hprofile, process, hprocess, lease, hlease, -⟩ := hhold
  exact ⟨profile, process, lease, hprofile, hprocess, hlease⟩

/-- Once Headquarters is closed, a quit keeps everything. -/
theorem quitKept_quitClosed {done : List Effect} {state : RuntimeState}
    (hstate : w.runtime.state ≠ .stopped)
    (hruntime : w.runtime.process = some process ∧ w.runtime.lease = some lease)
    (h : Ledger done (some ⟨profile, process, lease.leaseNonce⟩) none)
    (hclosing : w.runtime.headquarters ≠ none → outcomes.closing = .ok ()) :
    QuitKept w outcomes (exec (quitClosed outcomes
      ⟨state, some profile, some process, some lease, headquarters⟩
        ⟨profile, process, lease.leaseNonce⟩) ⟨runtime, done⟩) := by
  rw [quitClosed, exec_bind_of_ok (exec_setRuntime _), exec_bind, exec_attempting,
    exec_releaseLease]
  rcases hreleasing : outcomes.releasing with e | _
  · exact quitKept_recovery hruntime h fun hboth ↦ nomatch hreleasing.symm.trans hboth.2
  · exact quitKept_stopped h.unheld hstate hclosing hreleasing

theorem callPaired_quit (h : Paired w) (outcomes : Outcomes) : CallPaired w (.quit outcomes) := by
  show QuitKept w outcomes (exec (quit outcomes) w)
  rw [quit, exec_get_bind]
  by_cases hstate : w.runtime.state = .stopped
  · rw [if_pos hstate]
    exact quitKept_alreadyStopped h hstate
  rw [if_neg hstate]
  obtain ⟨profile, process, lease, hprofile, hprocess, hlease⟩ := h.exists_lease hstate
  obtain ⟨⟨state, _, _, _, headquarters⟩, done⟩ := w
  cases hprofile
  cases hprocess
  cases hlease
  have hledger : Ledger done (some ⟨profile, process, lease.leaseNonce⟩) headquarters := h.ledger
  show QuitKept _ outcomes (exec (quitUnder outcomes _ ⟨profile, process, lease.leaseNonce⟩) _)
  rw [quitUnder]
  rcases headquarters with _ | headquarters
  · exact quitKept_quitClosed hstate ⟨rfl, rfl⟩ hledger fun hne ↦ absurd rfl hne
  · show QuitKept _ outcomes (exec (_ >>= _) _)
    rw [exec_bind, exec_attempting, exec_closeHeadquarters]
    rcases hclosing : outcomes.closing with e | _
    · refine quitKept_recovery ⟨rfl, rfl⟩ hledger fun hboth ↦ ?_
      exact nomatch hclosing.symm.trans (hboth.1 (Option.some_ne_none _))
    · exact quitKept_quitClosed hstate ⟨rfl, rfl⟩ hledger.closed fun _ ↦ hclosing

end

/-! ### Runs -/

theorem callPaired_iff {w : RuntimeWorld} (h : Paired w) (call : RuntimeCall) :
    CallPaired w call ↔ ClosesForeign w call := by
  cases call with
  | launch profileId process outcomes => exact callPaired_launch_iff h profileId process outcomes
  | quit outcomes => exact iff_of_true (callPaired_quit h outcomes) trivial

/-- Every call of a run leaves the lease and Headquarters paired, and says so, exactly if every
Headquarters of another profile that a launch is given can be closed. -/
theorem runtime_paired_iff (calls : List RuntimeCall) :
    EveryStep stepRuntime CallPaired newRuntime calls ↔
      EveryStep stepRuntime ClosesForeign newRuntime calls := by
  suffices h : ∀ w, Paired w →
      (EveryStep stepRuntime CallPaired w calls ↔ EveryStep stepRuntime ClosesForeign w calls) from
    h newRuntime (paired_cleared ledger_nil)
  induction calls with
  | nil => exact fun _ _ ↦ Iff.rfl
  | cons call rest ih =>
    intro w hw
    refine and_congr_right_iff.mpr ?_ |>.trans (and_congr_left' (callPaired_iff hw call))
    rintro ⟨hafter, -⟩
    refine forall₂_congr fun after hstep ↦ ?_
    cases hstep
    exact ih _ hafter

/-- A launch that is given the Headquarters of another profile, which cannot be closed. -/
def lostHeadquarters : RuntimeCall :=
  .launch "studio" ⟨"macos", "arm64", 7, "start", "launch"⟩
    ⟨.ok ⟨.acquired, some ⟨⟨"macos", "arm64", 7, "start", "launch"⟩, 0⟩, none⟩,
      .ok (.headquarters "other"), .ok (), .error ⟨.foreign, "database is locked"⟩, .ok ()⟩

/-- The launch fails to start and releases its lease, with that Headquarters open. -/
theorem runtime_not_paired : ¬ EveryStep stepRuntime CallPaired newRuntime [lostHeadquarters] := by
  rintro ⟨hcall, -⟩
  have hcloses := (callPaired_iff (paired_cleared ledger_nil) _).mp hcall
  exact nomatch hcloses _ _ "other" rfl (by decide) rfl rfl rfl (by decide)

end N0te.Lease
