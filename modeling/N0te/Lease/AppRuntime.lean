import N0te.Lease.LeaseFiles
import N0te.Library.Raising
import N0te.Library.Runs
import N0te.Library.Text

/-!
# The application runtime

An `ApplicationRuntime` composes the instance lease of a profile with the Headquarters database of
that profile. `launch` acquires the lease, opens Headquarters and installs its consumers, with a
cleanup for each step that fails; `quit` closes Headquarters and releases the lease.

What the lease manager, `memory_opener`, the installers and `Headquarters.close` do is given with
each call. Each of them is called at most once by a call of the runtime. A world is a runtime with
what was done through it, in order.
-/

set_option autoImplicit false
set_option relaxedAutoImplicit false

namespace N0te.Lease

open Library

/-! ### Data -/

/-- `RUNTIME_STATES`. -/
inductive RuntimeState where
  | stopped
  | running
  | recoveryRequired
  deriving DecidableEq

/-- `LAUNCH_STATUSES`. -/
inductive LaunchStatus where
  | started
  | alreadyRunning
  | reopenExisting
  | heldByOther
  | uncertain
  | startFailed
  | recoveryRequired
  deriving DecidableEq

/-- `QUIT_STATUSES`. -/
inductive QuitStatus where
  | stopped
  | alreadyStopped
  | recoveryRequired
  deriving DecidableEq

/-- The classes of the exceptions. -/
inductive AppErrorClass where
  | applicationRuntimeError
  /-- An exception of the lease manager, of `memory_opener`, of an installer or of `close`. -/
  | foreign
  deriving DecidableEq

/-- An exception of a runtime or of something it calls. -/
abbrev AppRaised := Raised AppErrorClass

/-- An `ApplicationRuntimeError`. -/
def appError (message : String) : AppRaised := ⟨.applicationRuntimeError, message⟩

/-- `ACQUIRE_STATUSES`. -/
def AcquireStatus.text : AcquireStatus → String
  | .acquired => "ACQUIRED"
  | .alreadyOwned => "ALREADY_OWNED"
  | .heldByOther => "HELD_BY_OTHER"
  | .uncertain => "UNCERTAIN"
  | .replacedStale => "REPLACED_STALE"

/-- `LaunchResult`. -/
structure LaunchResult where
  status : LaunchStatus
  profileId : String
  lease : Option InstanceLease
  previousLease : Option InstanceLease
  reason : String
  deriving DecidableEq

/-- `QuitResult`. -/
structure QuitResult where
  status : QuitStatus
  profileId : Option String
  reason : String
  deriving DecidableEq

/-- A Headquarters that `memory_opener` returned: which one, and the profile of its store. -/
structure Headquarters where
  handle : ℕ
  profileId : String
  deriving DecidableEq

/-- What `memory_opener` returns: a Headquarters of a profile, or something else. -/
inductive OpenerAnswer where
  | headquarters (profileId : String)
  | other
  deriving DecidableEq

/-- What the things that a runtime calls do in one call. -/
structure Outcomes where
  acquiring : Except AppRaised LeaseAcquireResult
  opening : Except AppRaised OpenerAnswer
  installing : Except AppRaised Unit
  closing : Except AppRaised Unit
  releasing : Except AppRaised Unit

/-- What a lease is released with: its profile, the process and the nonce. -/
structure Hold where
  profileId : String
  process : ProcessIdentity
  leaseNonce : ℕ
  deriving DecidableEq

/-- Something that was done through a runtime, and did not raise. -/
inductive Effect where
  | acquired (hold : Hold)
  | opened (hold : Hold) (headquarters : Headquarters)
  | closed (headquarters : Headquarters)
  | released (hold : Hold)
  deriving DecidableEq

/-- The fields of an `ApplicationRuntime`. -/
structure AppRuntime where
  state : RuntimeState
  profileId : Option String
  process : Option ProcessIdentity
  lease : Option InstanceLease
  headquarters : Option Headquarters
  deriving DecidableEq

/-- `_clear`. -/
def AppRuntime.cleared : AppRuntime := ⟨.stopped, none, none, none, none⟩

/-- What the lease of a runtime is released with. -/
def AppRuntime.hold (runtime : AppRuntime) : Option Hold := do
  some ⟨← runtime.profileId, ← runtime.process, (← runtime.lease).leaseNonce⟩

/-- A runtime and what was done through it, oldest first. -/
structure RuntimeWorld where
  runtime : AppRuntime
  done : List Effect

def newRuntime : RuntimeWorld := ⟨.cleared, []⟩

/-- A call in progress. -/
abbrev RuntimeM (α : Type) := Raising RuntimeWorld AppRaised α

/-- Something is done. -/
def RuntimeWorld.does (effect : Effect) (w : RuntimeWorld) : RuntimeWorld :=
  { w with done := w.done ++ [effect] }

/-- The fields are set. -/
def setRuntime (runtime : AppRuntime) : RuntimeM Unit :=
  modify fun w ↦ { w with runtime := runtime }

/-! ### What a runtime calls -/

section

variable (outcomes : Outcomes)

/-- `_leases.acquire`. -/
def acquireLease (profile : String) (process : ProcessIdentity) : RuntimeM LeaseAcquireResult := do
  let acquired ← fromExcept outcomes.acquiring
  if let some lease := acquired.granted then
    modify (·.does (.acquired ⟨profile, process, lease.leaseNonce⟩))
  pure acquired

/-- `memory_opener`. A Headquarters has a number of its own. -/
def openMemory (hold : Hold) : RuntimeM (Option Headquarters) := do
  match ← fromExcept outcomes.opening with
  | .other => pure none
  | .headquarters profileId =>
    let headquarters := ⟨(← get).done.length, profileId⟩
    modify (·.does (.opened hold headquarters))
    pure (some headquarters)

/-- `Headquarters.close`. -/
def closeHeadquarters (headquarters : Headquarters) : RuntimeM Unit := do
  fromExcept outcomes.closing
  modify (·.does (.closed headquarters))

/-- `_leases.release`. -/
def releaseLease (hold : Hold) : RuntimeM Unit := do
  fromExcept outcomes.releasing
  modify (·.does (.released hold))

/-! ### `launch` -/

/-- The opening of Headquarters in `launch`. -/
def openHeadquarters (profile : String) (hold : Hold) : RuntimeM Headquarters := do
  match ← openMemory outcomes hold with
  | none => throw (appError "memory_opener did not return HeadquartersMemory")
  | some headquarters =>
    if headquarters.profileId ≠ profile then
      tryCatch (closeHeadquarters outcomes headquarters) fun _ ↦ throw (appError
        ("memory_opener returned a different profile and that Headquarters could not be " ++
          "closed"))
      throw (appError "memory_opener returned Headquarters for a different profile")
    pure headquarters

/-- What `launch` does after Headquarters could not be opened. -/
def openFailed (profile : String) (process : ProcessIdentity) (lease : InstanceLease)
    (previous : Option InstanceLease) (e : AppRaised) : RuntimeM LaunchResult := do
  match ← attempting (releaseLease outcomes ⟨profile, process, lease.leaseNonce⟩) with
  | .error cleanup =>
    setRuntime ⟨.recoveryRequired, some profile, some process, some lease, none⟩
    pure ⟨.recoveryRequired, profile, some lease, previous,
      "Headquarters open failed and lease cleanup also failed: " ++ cleanup.text⟩
  | .ok _ =>
    pure ⟨.startFailed, profile, none, previous, "Headquarters open failed: " ++ e.text⟩

/-- What `launch` does after a consumer could not be installed. -/
def installFailed (profile : String) (process : ProcessIdentity) (lease : InstanceLease)
    (previous : Option InstanceLease) (headquarters : Headquarters) (e : AppRaised) :
    RuntimeM LaunchResult := do
  match ← attempting (closeHeadquarters outcomes headquarters) with
  | .error close =>
    setRuntime ⟨.recoveryRequired, some profile, some process, some lease, some headquarters⟩
    pure ⟨.recoveryRequired, profile, some lease, previous,
      "Headquarters consumer installation failed and Headquarters could not close safely: " ++
        close.text⟩
  | .ok _ =>
    match ← attempting (releaseLease outcomes ⟨profile, process, lease.leaseNonce⟩) with
    | .error cleanup =>
      setRuntime ⟨.recoveryRequired, some profile, some process, some lease, none⟩
      pure ⟨.recoveryRequired, profile, some lease, previous,
        "Headquarters consumer installation failed and lease cleanup also failed: " ++
          cleanup.text⟩
    | .ok _ =>
      pure ⟨.startFailed, profile, none, previous,
        "Headquarters consumer installation failed: " ++ e.text⟩

/-- `launch` with a lease of its own. -/
def launchUnder (profile : String) (process : ProcessIdentity) (acquired : LeaseAcquireResult)
    (lease : InstanceLease) : RuntimeM LaunchResult := do
  match ← attempting (openHeadquarters outcomes profile ⟨profile, process, lease.leaseNonce⟩) with
  | .error e => openFailed outcomes profile process lease acquired.previousLease e
  | .ok headquarters =>
    match outcomes.installing with
    | .error e =>
      installFailed outcomes profile process lease acquired.previousLease headquarters e
    | .ok _ =>
      setRuntime ⟨.running, some profile, some process, some lease, some headquarters⟩
      pure ⟨.started, profile, some lease, acquired.previousLease,
        if acquired.status = .replacedStale then
          "replaced verified-stale owner and opened Headquarters"
        else "acquired profile runtime and opened Headquarters"⟩

/-- What `launch` does with the result of `acquire`. -/
def launchAcquired (profile : String) (process : ProcessIdentity) (acquired : LeaseAcquireResult) :
    RuntimeM LaunchResult :=
  match acquired.status with
  | .alreadyOwned => pure ⟨.reopenExisting, profile, acquired.lease, acquired.previousLease,
      "the exact launch already owns this profile; do not open a second Headquarters"⟩
  | .heldByOther => pure ⟨.heldByOther, profile, acquired.lease, none,
      "another verified-live exact launch owns this profile"⟩
  | .uncertain => pure ⟨.uncertain, profile, acquired.lease, none,
      "profile ownership cannot be proven safe to replace"⟩
  | .acquired | .replacedStale =>
    match acquired.lease with
    | none => throw (appError ("unexpected lease acquire result: " ++ acquired.status.text))
    | some lease => launchUnder outcomes profile process acquired lease

/-- `launch`. -/
def launch (profileId : String) (process : ProcessIdentity) : RuntimeM LaunchResult := do
  let profile := strip profileId
  if profile = "" then throw (appError "profile_id must not be empty")
  let runtime := (← get).runtime
  match runtime.state with
  | .recoveryRequired =>
    throw (appError "runtime requires explicit quit/recovery before another launch")
  | .running =>
    if runtime.profileId = some profile ∧ runtime.process = some process then
      pure ⟨.alreadyRunning, profile, runtime.lease, none,
        "this ApplicationRuntime already owns the requested exact launch/profile"⟩
    else throw (appError
      "one ApplicationRuntime cannot launch another profile/process while RUNNING")
  | .stopped =>
    let acquired ← acquireLease outcomes profile process
    launchAcquired outcomes profile process acquired

/-! ### `quit` -/

/-- What `quit` does once Headquarters is closed. -/
def quitClosed (runtime : AppRuntime) (hold : Hold) : RuntimeM QuitResult := do
  setRuntime { runtime with headquarters := none }
  match ← attempting (releaseLease outcomes hold) with
  | .error e =>
    setRuntime { runtime with state := .recoveryRequired, headquarters := none }
    pure ⟨.recoveryRequired, some hold.profileId,
      "Headquarters is closed but exact lease release failed: " ++ e.text⟩
  | .ok _ =>
    setRuntime .cleared
    pure ⟨.stopped, some hold.profileId, "Headquarters closed and lease released"⟩

/-- `quit` of a runtime that has a lease. -/
def quitUnder (runtime : AppRuntime) (hold : Hold) : RuntimeM QuitResult :=
  match runtime.headquarters with
  | none => quitClosed outcomes runtime hold
  | some headquarters => do
    match ← attempting (closeHeadquarters outcomes headquarters) with
    | .error e =>
      setRuntime { runtime with state := .recoveryRequired }
      pure ⟨.recoveryRequired, some hold.profileId,
        "Headquarters close failed; lease remains owned: " ++ e.text⟩
    | .ok _ => quitClosed outcomes runtime hold

/-- `quit`. -/
def quit : RuntimeM QuitResult := do
  let runtime := (← get).runtime
  if runtime.state = .stopped then pure ⟨.alreadyStopped, none, "runtime is already stopped"⟩
  else match runtime.hold with
    | some hold => quitUnder outcomes runtime hold
    | none => throw (appError "runtime recovery state is missing exact lease ownership")

end

end N0te.Lease
