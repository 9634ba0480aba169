import Mathlib.Data.Nat.Notation
import N0te.Library.Checking

/-!
# The instance lease of a profile

A profile has one lease file, one takeover marker file and an archive of stale leases by nonce. A call
of `acquire` or `release` is a sequence of file operations with local decisions and probes between
them: `Phase` is where a call stands, and `act` is its next file operation or probe.

Scope. A file operation is one atomic step, an exclusive create included: a file is never seen half
written. Digests are compared as the values they are digests of, and a nonce is a number that is never
drawn twice. There is one profile; leases of other profiles have other files.
-/

set_option autoImplicit false
set_option relaxedAutoImplicit false

namespace N0te.Lease

open Library

/-! ### Data -/

/-- A process: where it runs, its start, and its launch. -/
structure ProcessIdentity where
  /-- The operating system family. -/
  osFamily : String
  architecture : String
  /-- The process id. -/
  pid : ℕ
  /-- The digest of the start token. -/
  startTokenFingerprint : String
  /-- The digest of the launch marker. -/
  launchMarkerFingerprint : String
  deriving DecidableEq

/-- What `workflow_fingerprint` is the digest of. -/
def ProcessIdentity.workflow (p : ProcessIdentity) : String × String × ℕ × String :=
  (p.osFamily, p.architecture, p.pid, p.startTokenFingerprint)

/-- `_reused_workflow_is_stale`: a launch differs from another of its workflow. Two processes are of
the same launch when they are equal. -/
def reusedWorkflowIsStale (previous taker : ProcessIdentity) : Bool :=
  decide (previous.workflow = taker.workflow ∧ previous ≠ taker)

/-- A lease. -/
structure InstanceLease where
  process : ProcessIdentity
  leaseNonce : ℕ
  deriving DecidableEq

/-- The takeover marker. -/
structure TakeoverMarker where
  /-- The process that takes over. -/
  taker : ProcessIdentity
  takeoverNonce : ℕ
  /-- The lease that is taken over. -/
  expectedPrevious : InstanceLease
  deriving DecidableEq

/-- Whether `_remove_marker_exact` takes a marker for the one it was given. -/
def TakeoverMarker.same (current marker : TakeoverMarker) : Bool :=
  decide (current.takeoverNonce = marker.takeoverNonce ∧ current.taker = marker.taker)

/-- The answers of `acquire`. -/
inductive AcquireStatus where
  | acquired
  | alreadyOwned
  | heldByOther
  | uncertain
  | replacedStale
  deriving DecidableEq

/-- What `acquire` returns. -/
structure LeaseAcquireResult where
  status : AcquireStatus
  lease : Option InstanceLease
  previousLease : Option InstanceLease
  deriving DecidableEq

/-- The lease that a result grants: one created by the call that returns it. -/
def LeaseAcquireResult.granted (r : LeaseAcquireResult) : Option InstanceLease :=
  if r.status = .acquired ∨ r.status = .replacedStale then r.lease else none

/-- Whether the caller owns the lease that a result names. -/
def LeaseAcquireResult.owned (r : LeaseAcquireResult) : Bool :=
  decide (r.status = .acquired ∨ r.status = .replacedStale ∨ r.status = .alreadyOwned)

/-- The classes of the exceptions. -/
inductive LeaseErrorClass where
  | instanceLeaseError
  | instanceLeaseCorruptionError
  | instanceLeaseOwnershipError
  | fileNotFoundError
  /-- An exception of the probe. -/
  | foreign
  deriving DecidableEq

/-- An `InstanceLeaseError`. -/
def leaseError (message : String) : Raised LeaseErrorClass := ⟨.instanceLeaseError, message⟩

/-- An `InstanceLeaseCorruptionError`. -/
def corruptionError (message : String) : Raised LeaseErrorClass :=
  ⟨.instanceLeaseCorruptionError, message⟩

/-- An `InstanceLeaseOwnershipError`. -/
def ownershipError (message : String) : Raised LeaseErrorClass :=
  ⟨.instanceLeaseOwnershipError, message⟩

/-- `unlink` of a file that is not there. -/
def missingFile (name : String) : Raised LeaseErrorClass := ⟨.fileNotFoundError, name⟩

/-- What a probe says of a process, or raises. -/
inductive ProbeAnswer where
  | alive
  | dead
  | unknown
  | raises (e : Raised LeaseErrorClass)
  deriving DecidableEq

/-- The files of a profile, and the nonces not drawn yet. -/
structure LeaseStore where
  /-- `lease.json`. -/
  lease : Option InstanceLease
  /-- `takeover.json`. -/
  marker : Option TakeoverMarker
  /-- The archived leases by nonce. -/
  archive : ℕ → Option InstanceLease
  nextNonce : ℕ

/-- A profile without files. -/
def LeaseStore.empty : LeaseStore := ⟨none, none, fun _ ↦ none, 0⟩

/-! ### Calls -/

/-- Where a call stands: the file operation or the probe that comes next. A phase of `acquire` carries
how many attempts follow the present one. -/
inductive Phase where
  /-- Read the marker, at the start of an attempt. -/
  | readingMarker (attempts : ℕ)
  /-- Probe the taker of another's marker. -/
  | probingTaker (attempts : ℕ) (marker : TakeoverMarker)
  /-- Read the lease for an answer. -/
  | inspectingHeld (marker : TakeoverMarker)
  /-- Read the marker of a dead taker again. -/
  | removing (attempts : ℕ) (marker : TakeoverMarker)
  /-- Unlink it. -/
  | unlinkingMarker (attempts : ℕ) (marker : TakeoverMarker)
  /-- Read the lease when there is no marker. -/
  | readingLease (attempts : ℕ)
  /-- Create a lease where there was none. -/
  | creatingLease (attempts : ℕ)
  /-- Probe the owner of the lease. -/
  | probingOwner (attempts : ℕ) (lease : InstanceLease)
  /-- Create a marker to take over from a dead owner. -/
  | creatingMarker (attempts : ℕ) (lease : InstanceLease)
  /-- Read the lease under one's own marker. -/
  | completing (attempts : ℕ) (marker : TakeoverMarker)
  /-- Probe the owner again. -/
  | probingExpected (attempts : ℕ) (marker : TakeoverMarker)
  /-- Archive the lease. -/
  | archiving (attempts : ℕ) (marker : TakeoverMarker)
  /-- Compare with an archive that is there. -/
  | comparingArchive (attempts : ℕ) (marker : TakeoverMarker)
  /-- Read the lease once more. -/
  | rechecking (attempts : ℕ) (marker : TakeoverMarker)
  /-- Unlink it. -/
  | unlinkingLease (attempts : ℕ) (marker : TakeoverMarker)
  /-- Read the archive when the lease is gone. -/
  | readingArchive (attempts : ℕ) (marker : TakeoverMarker)
  /-- Create the replacement. -/
  | recreatingLease (attempts : ℕ) (marker : TakeoverMarker)
  /-- Read one's own marker before it is removed. -/
  | finishing (marker : TakeoverMarker) (result : LeaseAcquireResult)
  /-- Unlink it. -/
  | unlinkingOwn (marker : TakeoverMarker) (result : LeaseAcquireResult)
  /-- Read the lease for the answer after the last attempt. -/
  | exhausted
  /-- Read the lease to release. -/
  | releasing (nonce : ℕ)
  /-- Read the marker before a release. -/
  | checkingMarker (lease : InstanceLease)
  /-- Unlink the lease to release. -/
  | unlinkingReleased (lease : InstanceLease)
  deriving DecidableEq

/-- How a file operation leaves a call. -/
inductive Next where
  | goto (phase : Phase)
  | returned (result : LeaseAcquireResult)
  | released (lease : InstanceLease)
  | raised (e : Raised LeaseErrorClass)
  deriving DecidableEq

/-- The start of an attempt, or the answer after the last. -/
def attempt : ℕ → Phase
  | 0 => .exhausted
  | attempts + 1 => .readingMarker attempts

/-- `MAX_ATTEMPTS`. -/
def maxAttempts : ℕ := 8

def Phase.probed : Phase → Option ProcessIdentity
  | .probingTaker _ marker => some marker.taker
  | .probingOwner _ lease => some lease.process
  | .probingExpected _ marker => some marker.expectedPrevious.process
  | _ => none

namespace LeaseStore

variable (store : LeaseStore)

def createLease (self : ProcessIdentity) : LeaseStore :=
  { store with lease := some ⟨self, store.nextNonce⟩, nextNonce := store.nextNonce + 1 }

def createMarker (self : ProcessIdentity) (expected : InstanceLease) : LeaseStore :=
  { store with
    marker := some ⟨self, store.nextNonce, expected⟩
    nextNonce := store.nextNonce + 1 }

def unlinkLease : LeaseStore := { store with lease := none }

def unlinkMarker : LeaseStore := { store with marker := none }

/-- Create the archive of a lease. -/
def archiveLease (lease : InstanceLease) : LeaseStore :=
  { store with
    archive := fun n ↦ if n = lease.leaseNonce then some lease else store.archive n }

end LeaseStore

/-- The next file operation or probe of a call, with what the call decides on it. -/
def act (self : ProcessIdentity) (answer : ProbeAnswer) (store : LeaseStore) :
    Phase → LeaseStore × Next
  | .readingMarker attempts =>
    match store.marker with
    | none => (store, .goto (.readingLease attempts))
    | some marker =>
      if marker.taker = self then (store, .goto (.completing attempts marker))
      else (store, .goto (.probingTaker attempts marker))
  | .probingTaker attempts marker =>
    match answer with
    | .raises e => (store, .raised e)
    | .dead => (store, .goto (.removing attempts marker))
    | _ => (store, .goto (.inspectingHeld marker))
  | .inspectingHeld marker =>
    (store, .returned ⟨.uncertain, some (store.lease.getD marker.expectedPrevious), none⟩)
  | .removing attempts marker =>
    match store.marker with
    | none => (store, .goto (attempt attempts))
    | some current =>
      if current.same marker then (store, .goto (.unlinkingMarker attempts marker))
      else (store, .raised (leaseError "takeover marker ownership changed"))
  | .unlinkingMarker attempts _ =>
    match store.marker with
    | none => (store, .raised (missingFile "takeover.json"))
    | some _ => (store.unlinkMarker, .goto (attempt attempts))
  | .readingLease attempts =>
    match store.lease with
    | none => (store, .goto (.creatingLease attempts))
    | some current =>
      if current.process = self then (store, .returned ⟨.alreadyOwned, some current, none⟩)
      else if reusedWorkflowIsStale current.process self then
        (store, .goto (.creatingMarker attempts current))
      else (store, .goto (.probingOwner attempts current))
  | .creatingLease attempts =>
    match store.lease with
    | none => (store.createLease self, .returned ⟨.acquired, some ⟨self, store.nextNonce⟩, none⟩)
    | some _ => (store, .goto (attempt attempts))
  | .probingOwner attempts current =>
    match answer with
    | .raises e => (store, .raised e)
    | .alive => (store, .returned ⟨.heldByOther, some current, none⟩)
    | .unknown => (store, .returned ⟨.uncertain, some current, none⟩)
    | .dead => (store, .goto (.creatingMarker attempts current))
  | .creatingMarker attempts current =>
    match store.marker with
    | none => (store.createMarker self current,
        .goto (.completing attempts ⟨self, store.nextNonce, current⟩))
    | some _ => (store, .goto (attempt attempts))
  | .completing attempts marker =>
    match store.lease with
    | none => (store, .goto (.readingArchive attempts marker))
    | some latest =>
      if latest.process = marker.taker then
        (store, .goto (.finishing marker ⟨.alreadyOwned, some latest, none⟩))
      else if latest = marker.expectedPrevious then
        if reusedWorkflowIsStale latest.process marker.taker then
          (store, .goto (.archiving attempts marker))
        else (store, .goto (.probingExpected attempts marker))
      else (store, .goto (attempt attempts))
  | .probingExpected attempts marker =>
    match answer with
    | .raises e => (store, .raised e)
    | .alive =>
      (store, .goto (.finishing marker ⟨.heldByOther, some marker.expectedPrevious, none⟩))
    | .unknown =>
      (store, .goto (.finishing marker ⟨.uncertain, some marker.expectedPrevious, none⟩))
    | .dead => (store, .goto (.archiving attempts marker))
  | .archiving attempts marker =>
    match store.archive marker.expectedPrevious.leaseNonce with
    | none =>
      (store.archiveLease marker.expectedPrevious, .goto (.rechecking attempts marker))
    | some _ => (store, .goto (.comparingArchive attempts marker))
  | .comparingArchive attempts marker =>
    if store.archive marker.expectedPrevious.leaseNonce = some marker.expectedPrevious then
      (store, .goto (.rechecking attempts marker))
    else (store, .raised (corruptionError "stale archive conflicts with active takeover target"))
  | .rechecking attempts marker =>
    if store.lease = some marker.expectedPrevious then
      (store, .goto (.unlinkingLease attempts marker))
    else (store, .goto (attempt attempts))
  | .unlinkingLease attempts marker =>
    match store.lease with
    | none => (store, .raised (missingFile "lease.json"))
    | some _ => (store.unlinkLease, .goto (.completing attempts marker))
  | .readingArchive attempts marker =>
    match store.archive marker.expectedPrevious.leaseNonce with
    | none => (store, .raised (corruptionError
        "takeover marker exists but prior lease is neither active nor archived"))
    | some archived =>
      if archived = marker.expectedPrevious then (store, .goto (.recreatingLease attempts marker))
      else (store, .raised (corruptionError
        "takeover marker prior lease does not match stale archive"))
  | .recreatingLease attempts marker =>
    match store.lease with
    | none => (store.createLease self, .goto (.finishing marker
        ⟨.replacedStale, some ⟨self, store.nextNonce⟩, some marker.expectedPrevious⟩))
    | some _ => (store, .goto (attempt attempts))
  | .finishing marker result =>
    match store.marker with
    | none => (store, .returned result)
    | some current =>
      if current.same marker then (store, .goto (.unlinkingOwn marker result))
      else (store, .raised (leaseError "takeover marker ownership changed"))
  | .unlinkingOwn _ result =>
    match store.marker with
    | none => (store, .raised (missingFile "takeover.json"))
    | some _ => (store.unlinkMarker, .returned result)
  | .exhausted => (store, .returned ⟨.uncertain, store.lease, none⟩)
  | .releasing nonce =>
    match store.lease with
    | none => (store, .raised (ownershipError "instance lease is already absent"))
    | some current =>
      if current.process = self ∧ current.leaseNonce = nonce then
        (store, .goto (.checkingMarker current))
      else (store, .raised (ownershipError "instance lease ownership changed"))
  | .checkingMarker current =>
    match store.marker with
    | none => (store, .goto (.unlinkingReleased current))
    | some _ =>
      (store, .raised (ownershipError "instance lease has an active takeover claim"))
  | .unlinkingReleased current =>
    match store.lease with
    | none => (store, .raised (missingFile "lease.json"))
    | some _ => (store.unlinkLease, .released current)

/-! ### Processes -/

/-- A process of the system. -/
structure Process where
  identity : ProcessIdentity
  alive : Bool
  /-- The call in progress. -/
  phase : Option Phase
  /-- The lease it was granted and has not released. -/
  held : Option InstanceLease
  /-- What its last `acquire` returned or raised. -/
  outcome : Option (Except (Raised LeaseErrorClass) LeaseAcquireResult)

/-- A process after a file operation of its call. -/
def Process.after (p : Process) : Next → Process
  | .goto phase => { p with phase := some phase }
  | .returned result =>
    { p with phase := none, held := result.granted.or p.held, outcome := some (.ok result) }
  | .released _ => { p with phase := none, held := none }
  | .raised e => { p with phase := none, outcome := some (.error e) }

/-- The processes that were ever started, and their files. -/
structure World where
  store : LeaseStore
  processes : List Process

/-- No process, no files. -/
def World.empty : World := ⟨.empty, []⟩

/-- What can happen. -/
inductive Event where
  /-- A process starts. -/
  | start (identity : ProcessIdentity)
  /-- A process calls `acquire`. -/
  | acquire (i : ℕ)
  /-- A process calls `release` with a nonce. -/
  | release (i nonce : ℕ)
  /-- A call makes its next file operation or probe, and the probe answers so. -/
  | advance (i : ℕ) (answer : ProbeAnswer)
  /-- A process dies. -/
  | die (i : ℕ)

/-- Replace the files and a process. -/
def World.update (w : World) (i : ℕ) (p : Process) (store : LeaseStore) : World :=
  ⟨store, w.processes.set i p⟩

/-- What an event does, if it can happen. A launch is new and lives in a workflow of its own. A probe
says of no process that lives that it is dead. -/
def step (w : World) : Event → Option World
  | .start identity =>
    if ∀ p ∈ w.processes, p.identity ≠ identity ∧
        (p.alive = true → p.identity.workflow ≠ identity.workflow) then
      some ⟨w.store, w.processes ++ [⟨identity, true, none, none, none⟩]⟩
    else none
  | .acquire i => do
    let p ← w.processes[i]?
    if p.alive = true ∧ p.phase = none then
      some (w.update i { p with phase := some (attempt maxAttempts) } w.store)
    else none
  | .release i nonce => do
    let p ← w.processes[i]?
    if p.alive = true ∧ p.phase = none then
      some (w.update i { p with phase := some (.releasing nonce) } w.store)
    else none
  | .advance i answer => do
    let p ← w.processes[i]?
    let phase ← p.phase
    if p.alive = true ∧ (answer = .dead → ∀ q ∈ w.processes, phase.probed = some q.identity →
        q.alive = false) then
      let result := act p.identity answer w.store phase
      some (w.update i (p.after result.2) result.1)
    else none
  | .die i => do
    let p ← w.processes[i]?
    if p.alive = true then some (w.update i { p with alive := false } w.store) else none

end N0te.Lease
