import Mathlib.Logic.Relation
import N0te.Governance.ExecutionPermit

/-!
# The mutation gateway

`CoordinatorMutationGateway.execute` looks a registered mutation up, reads the current trusted
snapshot, consumes a one-time permit, and only then invokes the executor; a verifier and a
reconciler follow. Any number of calls run at once, together with calls that issue and consume
permits, with changes of the trusted context and with new registrations, and every call to the
executor, the verifier or the reconciler may answer anything or raise.

`World` is the state they share and `Step` one step of any of them; a call advances through
`Progress`. The ledger transaction is one step, the permit checks before it read only the arguments
of the call. `Authorized` lists what must hold whenever an executor is invoked, and
`authorized_of_reachable` proves it in every reachable state.

Scope. A permit token with a verifying signature over bytes the authority never signed is excluded
at the two consuming steps (`Unforged`): that is the unforgeability of the signature.
-/

set_option autoImplicit false
set_option relaxedAutoImplicit false

namespace N0te.Governance

open Library

/-! ### Calls -/

/-- A `CoordinatorGatewayError`. -/
def gatewayError (message : String) : Raised ErrorClass := ⟨.coordinatorGatewayError, message⟩

/-- Fresh evidence about a mutation. -/
structure MutationVerification where
  /-- Whether the mutation is verified. -/
  verified : Bool
  evidenceRefs : List Text
  observation : Text
  /-- References are distinct. -/
  distinct : evidenceRefs.Nodup
  /-- A verified mutation has references. -/
  evidenced : verified = true → evidenceRefs ≠ []

/-- What a completed call returns. -/
structure GatedExecutionResult (T : Type) where
  /-- The id of the consumed permit. -/
  permitId : String
  actionId : Text
  actionIntentFingerprint : String
  /-- What the executor returned. -/
  result : T
  verification : MutationVerification
  reconciliationRef : String

/-- The arguments of one `execute` call. -/
structure ExecuteRequest where
  name : String
  permitToken : String
  /-- The snapshot to run under. -/
  contextSnapshotId : String
  envelope : Json
  action : ActionIntent

/-- A trusted context provider at one moment: `get` as a function. -/
abbrev Contexts (rt : Runtime) := String → Checked (ValidatedSnapshot rt)

/-- What a call holds once its permit is consumed. -/
structure Authorization (rt : Runtime) where
  /-- The call's arguments. -/
  request : ExecuteRequest
  /-- The registered action class it found. -/
  registration : ActionClass
  /-- The provider at the moment the call read it. -/
  asked : Contexts rt
  /-- The snapshot the provider returned. -/
  snapshot : ValidatedSnapshot rt
  /-- The clock of the cross-check, in microseconds. -/
  contextNow : ℤ
  /-- The clock of the authority, in seconds. -/
  now : ℤ
  /-- The row it added to the ledger. -/
  permit : ConsumedExecutionPermit
  /-- The ledger its transaction started from. -/
  ledgerBefore : List ConsumedExecutionPermit

/-- How far a call has come. -/
inductive Progress (rt : Runtime) (T : Type) where
  | contextRead (registration : ActionClass) (asked : Contexts rt) (snapshot : ValidatedSnapshot rt)
  | consumed (authorization : Authorization rt)
  | executed (authorization : Authorization rt) (result : T)
  | verified (authorization : Authorization rt) (result : T) (verification : MutationVerification)
  | finished (authorization : Option (Authorization rt))
      (outcome : Checked (GatedExecutionResult T))

/-- The authorization of a call that has consumed its permit. -/
def Progress.authorization {rt : Runtime} {T : Type} : Progress rt T → Option (Authorization rt)
  | contextRead _ _ _ => none
  | consumed a => some a
  | executed a _ => some a
  | verified a _ _ => some a
  | finished a _ => a

/-- Whether the executor is still to be invoked. -/
def Progress.isConsumed {rt : Runtime} {T : Type} : Progress rt T → Bool
  | consumed _ => true
  | _ => false

/-- The state everything shares. -/
structure World (rt : Runtime) (T : Type) where
  /-- The registered mutations and their action classes. -/
  mutations : List (String × ActionClass)
  /-- The current provider. -/
  contexts : Contexts rt
  /-- Every permit that was issued. -/
  issued : List (IssueRequest rt)
  ledger : List ConsumedExecutionPermit
  /-- Every `execute` call that started. -/
  calls : ℕ → Option (ExecuteRequest × Progress rt T)
  /-- The executor invocations, in order: the call and what it held. -/
  invocations : List (ℕ × Authorization rt)

section Functions

variable {rt : Runtime} {T : Type}

/-- `register`, on the names and classes. -/
def registerMutation (mutations : List (String × ActionClass)) (name actionClass : String) :
    Checked (List (String × ActionClass)) := do
  let name := strip name
  let className := upper (strip actionClass)
  require (name ≠ "") (gatewayError "mutation name must not be empty")
  require ((mutations.lookup name).isNone = true)
    (gatewayError ("mutation already registered: " ++ name))
  require (className ≠ "READ_ONLY")
    (gatewayError "read-only operations do not belong in mutation gateway")
  let registered ← orRaise (ActionClass.ofName className)
    (gatewayError ("unsupported mutation action class: " ++ className))
  return mutations ++ [(name, registered)]

/-- The part of `execute` before the permit: the registered class and the current snapshot. -/
def readContext (w : World rt T) (request : ExecuteRequest) : Checked (Progress rt T) := do
  let name := strip request.name
  let registration ← orRaise (w.mutations.lookup name)
    (gatewayError ("unregistered mutation: " ++ name))
  require (request.action.actionClass = registration)
    (gatewayError ("registered mutation class mismatch expected=" ++ registration.name ++
      " action=" ++ request.action.actionClass.name))
  let snapshot ← w.contexts request.contextSnapshotId
  return .contextRead registration w.contexts snapshot

/-- Where a call stands after an attempt that may raise. -/
def Progress.ofChecked (p : Checked (Progress rt T)) : Progress rt T :=
  match p with
  | .ok progress => progress
  | .error e => .finished none (.error e)

def consumePermit (ledger : List ConsumedExecutionPermit) (request : ExecuteRequest)
    (registration : ActionClass) (asked : Contexts rt) (snapshot : ValidatedSnapshot rt)
    (contextNow now : ℤ) (fault : LedgerFault) :
    Progress rt T × List ConsumedExecutionPermit :=
  let reply := consume rt ledger request.permitToken request.envelope request.action
    snapshot.snapshot contextNow now fault
  (Progress.ofChecked ((fun permit ↦ .consumed
    ⟨request, registration, asked, snapshot, contextNow, now, permit, ledger⟩) <$> reply.1), reply.2)

/-- What the answer of the executor makes of a call. -/
def afterExecutor (a : Authorization rt) (reply : Checked T) : Progress rt T :=
  match reply with
  | .ok result => .executed a result
  | .error e => .finished (some a) (.error e)

/-- What the answer of the verifier makes of a call; `none` is a value that is no
`MutationVerification`. -/
def afterVerifier (a : Authorization rt) (result : T)
    (reply : Checked (Option MutationVerification)) : Progress rt T :=
  match reply with
  | .error e => .finished (some a) (.error e)
  | .ok none => .finished (some a) (.error ⟨.mutationVerificationError,
      "mutation verifier returned no typed verification; completion remains unproven"⟩)
  | .ok (some verification) =>
    if verification.verified then .verified a result verification
    else .finished (some a) (.error ⟨.mutationVerificationError, "mutation completion is " ++
      "unverified after execution; reconstruct current state before any retry"⟩)

/-- What the answer of the reconciler makes of a call. -/
def afterReconciler (a : Authorization rt) (result : T) (verification : MutationVerification)
    (reply : Checked String) : Progress rt T :=
  match reply with
  | .error e => .finished (some a) (.error e)
  | .ok ref =>
    if strip ref = "" then .finished (some a) (.error ⟨.mutationReconciliationError,
      "verified mutation has no canonical reconciliation receipt"⟩)
    else .finished (some a) (.ok ⟨a.permit.permitId, a.request.action.actionId,
      a.request.action.intentFingerprint rt, result, verification, strip ref⟩)

/-- The world with one call at a new point. -/
def World.setCall (w : World rt T) (i : ℕ) (request : ExecuteRequest) (p : Progress rt T) :
    World rt T :=
  { w with calls := Function.update w.calls i (some (request, p)) }

end Functions

/-! ### Steps -/

/-- One step of anything that runs against the gateway. A call that raises without touching the
shared state is a step that changes nothing, and is left out. -/
inductive Step {rt : Runtime} {T : Type} : World rt T → World rt T → Prop
  | register (w : World rt T) (name actionClass : String) (mutations : List (String × ActionClass))
      (hregister : registerMutation w.mutations name actionClass = .ok mutations) :
      Step w { w with mutations }
  | changeContexts (w : World rt T) (contexts : Contexts rt) : Step w { w with contexts }
  | issue (w : World rt T) (request : IssueRequest rt) (permit : IssuedExecutionPermit)
      (hissue : issue rt request = .ok permit) :
      Step w { w with issued := w.issued ++ [request] }
  | consumeElsewhere (w : World rt T) (token : String) (envelope : Json) (action : ActionIntent)
      (snapshot : ValidatedSnapshot rt) (contextNow now : ℤ) (fault : LedgerFault)
      (hunforged : Unforged w.issued token) :
      Step w { w with ledger := (consume rt w.ledger token envelope action snapshot.snapshot
        contextNow now fault).2 }
  | start (w : World rt T) (i : ℕ) (request : ExecuteRequest) (hnew : w.calls i = none) :
      Step w (w.setCall i request (.ofChecked (readContext w request)))
  | consumePermit (w : World rt T) (i : ℕ) (request : ExecuteRequest) (registration : ActionClass)
      (asked : Contexts rt) (snapshot : ValidatedSnapshot rt) (contextNow now : ℤ)
      (fault : LedgerFault)
      (hcall : w.calls i = some (request, .contextRead registration asked snapshot))
      (hunforged : Unforged w.issued request.permitToken) :
      Step w { w.setCall i request (consumePermit w.ledger request registration asked snapshot
          contextNow now fault).1 with
        ledger := (consumePermit (T := T) w.ledger request registration asked snapshot contextNow
          now fault).2 }
  | invokeExecutor (w : World rt T) (i : ℕ) (request : ExecuteRequest) (a : Authorization rt)
      (reply : Checked T) (hcall : w.calls i = some (request, .consumed a)) :
      Step w { w.setCall i request (afterExecutor a reply) with
        invocations := w.invocations ++ [(i, a)] }
  | invokeVerifier (w : World rt T) (i : ℕ) (request : ExecuteRequest) (a : Authorization rt)
      (result : T) (reply : Checked (Option MutationVerification))
      (hcall : w.calls i = some (request, .executed a result)) :
      Step w (w.setCall i request (afterVerifier a result reply))
  | invokeReconciler (w : World rt T) (i : ℕ) (request : ExecuteRequest) (a : Authorization rt)
      (result : T) (verification : MutationVerification) (reply : Checked String)
      (hcall : w.calls i = some (request, .verified a result verification)) :
      Step w (w.setCall i request (afterReconciler a result verification reply))

/-- The world before anything ran, with some provider. -/
def World.initial {rt : Runtime} (T : Type) (contexts : Contexts rt) : World rt T :=
  ⟨[], contexts, [], [], fun _ ↦ none, []⟩

/-- A world some run reaches. -/
def Reachable {rt : Runtime} {T : Type} (w : World rt T) : Prop :=
  ∃ contexts, Relation.ReflTransGen Step (World.initial T contexts) w

/-! ### What an executor invocation is backed by -/

/-- What backs an invocation of an executor. -/
structure Authorized {rt : Runtime} {T : Type} (w : World rt T) (a : Authorization rt) : Prop where
  /-- The mutation is registered under the call's name. -/
  registered : w.mutations.lookup (strip a.request.name) = some a.registration
  class_eq : a.request.action.actionClass = a.registration
  /-- The snapshot is the one the provider held current when the call asked. -/
  current : a.asked a.request.contextSnapshotId = .ok a.snapshot
  unexpired : a.contextNow ≤ a.snapshot.snapshot.expiresAt
  /-- The presented permit was issued for exactly what was presented, had not expired, and is the
  one consumed. -/
  issued : ∃ request ∈ w.issued, CarriedBy request a.request.permitToken ∧
    IssuedFor request a.request.envelope a.request.action a.snapshot ∧
      a.permit.permitId = request.permitId ∧ a.now ≤ request.expiresAt
  /-- The envelope satisfies the policy of the snapshot, and a profile that requires a human finds
  an approval of the intent in the snapshot. -/
  policy : ∃ policy profile, EnvelopeSatisfies a.request.envelope a.snapshot.snapshot
    a.request.action.actionClass policy profile ∧ (profile.requiresHuman = true →
      ∃ approval, HoldsApproval rt a.snapshot.snapshot a.request.action approval)
  fresh : a.permit.permitId ∉ a.ledgerBefore.map ConsumedExecutionPermit.permitId
  /-- The permit is consumed, and stays so. -/
  spent : a.ledgerBefore ++ [a.permit] <+: w.ledger

/-! ### What every step keeps -/

section Invariant

variable {rt : Runtime} {T : Type}

/-- Nothing that was registered, issued or consumed is taken back. -/
structure World.Extends (w w' : World rt T) : Prop where
  /-- Registrations stay. -/
  mutations : ∀ name c, w.mutations.lookup name = some c → w'.mutations.lookup name = some c
  /-- Issued permits stay issued. -/
  issued : w.issued ⊆ w'.issued
  /-- The ledger only grows. -/
  ledger : w.ledger <+: w'.ledger

theorem World.Extends.of_eq {w w' : World rt T} (hmutations : w'.mutations = w.mutations)
    (hissued : w'.issued = w.issued) (hledger : w'.ledger = w.ledger) : w.Extends w' :=
  ⟨fun _ _ h ↦ hmutations ▸ h, hissued ▸ List.Subset.refl _, hledger ▸ List.prefix_rfl⟩

/-- A lookup is unchanged by entries added at the end. -/
theorem lookup_append_of_some {name : String} {c : ActionClass} {l m : List (String × ActionClass)}
    (h : l.lookup name = some c) : (l ++ m).lookup name = some c := by
  induction l with
  | nil => cases h
  | cons head rest ih =>
    obtain ⟨key, value⟩ := head
    rw [List.cons_append, List.lookup_cons]
    rw [List.lookup_cons] at h
    cases hkey : name == key
    · rw [hkey] at h
      exact ih h
    · rw [hkey] at h
      exact h

/-- Authorization is never withdrawn. -/
theorem Authorized.mono {w w' : World rt T} {a : Authorization rt} (hauth : Authorized w a)
    (hext : w.Extends w') : Authorized w' a where
  registered := hext.mutations _ _ hauth.registered
  class_eq := hauth.class_eq
  current := hauth.current
  unexpired := hauth.unexpired
  issued := by
    obtain ⟨request, hmem, hrest⟩ := hauth.issued
    exact ⟨request, hext.issued hmem, hrest⟩
  policy := hauth.policy
  fresh := hauth.fresh
  spent := hauth.spent.trans hext.ledger

/-- Consuming never removes a row, whatever the outcome. -/
theorem consume_initial {rows : List ConsumedExecutionPermit} {token : String} {envelope : Json}
    {action : ActionIntent} {snapshot : TrustedContextSnapshot} {contextNow now : ℤ}
    {fault : LedgerFault} :
    rows <+: (consume rt rows token envelope action snapshot contextNow now fault).2 := by
  unfold consume
  split
  · exact List.prefix_rfl
  · exact ledgerConsume_initial

theorem consume_nodup {rows : List ConsumedExecutionPermit} {token : String} {envelope : Json}
    {action : ActionIntent} {snapshot : TrustedContextSnapshot} {contextNow now : ℤ}
    {fault : LedgerFault} (h : (rows.map ConsumedExecutionPermit.permitId).Nodup) :
    ((consume rt rows token envelope action snapshot contextNow now fault).2.map
      ConsumedExecutionPermit.permitId).Nodup := by
  unfold consume
  split
  · exact h
  · exact ledgerConsume_nodup h

/-- A successful consume passed its checks, found the id unused and recorded it. -/
theorem consume_eq_ok {rows : List ConsumedExecutionPermit} {token : String} {envelope : Json}
    {action : ActionIntent} {snapshot : TrustedContextSnapshot} {contextNow now : ℤ}
    {fault : LedgerFault} {permit : ConsumedExecutionPermit}
    (h : (consume rt rows token envelope action snapshot contextNow now fault).1 = .ok permit) :
    checkPermit rt token envelope action snapshot contextNow now = .ok permit ∧
      permit.permitId ∉ rows.map ConsumedExecutionPermit.permitId ∧
      (consume rt rows token envelope action snapshot contextNow now fault).2 =
        rows ++ [permit] := by
  unfold consume at h ⊢
  split at h
  · cases h
  · next row hcheck =>
    rw [map_eq_ok] at h
    obtain ⟨_, hledger, rfl⟩ := h
    obtain ⟨hfresh, hrows⟩ := ledgerConsume_ok hledger
    exact ⟨hcheck, hfresh, hrows⟩

theorem Step.extends {w w' : World rt T} (hstep : Step w w') : w.Extends w' := by
  cases hstep with
  | register name actionClass mutations hregister =>
    simp only [registerMutation, bind_eq_ok, require_eq_ok, pure_eq_ok, exists_const] at hregister
    obtain ⟨-, -, -, registered, -, rfl⟩ := hregister
    exact ⟨fun _ _ h ↦ lookup_append_of_some h, List.Subset.refl _, List.prefix_rfl⟩
  | changeContexts contexts => exact World.Extends.of_eq rfl rfl rfl
  | issue request permit hissue =>
    exact ⟨fun _ _ h ↦ h, List.subset_append_left _ _, List.prefix_rfl⟩
  | consumeElsewhere token envelope action snapshot contextNow now fault hunforged =>
    exact ⟨fun _ _ h ↦ h, List.Subset.refl _, consume_initial⟩
  | start i request hnew => exact World.Extends.of_eq rfl rfl rfl
  | consumePermit i request registration asked snapshot contextNow now fault hcall hunforged =>
    exact ⟨fun _ _ h ↦ h, List.Subset.refl _, consume_initial⟩
  | invokeExecutor i request a reply hcall => exact World.Extends.of_eq rfl rfl rfl
  | invokeVerifier i request a result reply hcall => exact World.Extends.of_eq rfl rfl rfl
  | invokeReconciler i request a result verification reply hcall => exact World.Extends.of_eq rfl rfl rfl

/-- A call holds an authorization: it has consumed its permit. -/
def World.Holds (w : World rt T) (i : ℕ) (a : Authorization rt) : Prop :=
  ∃ request p, w.calls i = some (request, p) ∧ p.authorization = some a

theorem World.setCall_calls_self (w : World rt T) (i : ℕ) (request : ExecuteRequest)
    (p : Progress rt T) : (w.setCall i request p).calls i = some (request, p) :=
  Function.update_self _ _ _

theorem World.setCall_calls_of_ne (w : World rt T) {i j : ℕ} (hne : j ≠ i)
    (request : ExecuteRequest) (p : Progress rt T) :
    (w.setCall i request p).calls j = w.calls j :=
  Function.update_of_ne hne _ _

/-- Moving one call changes only what that call holds. -/
theorem World.holds_setCall {w : World rt T} {i j : ℕ} {request : ExecuteRequest}
    {p : Progress rt T} {a : Authorization rt} :
    (w.setCall i request p).Holds j a ↔
      j = i ∧ p.authorization = some a ∨ j ≠ i ∧ w.Holds j a := by
  by_cases hj : j = i
  · subst hj
    simp only [World.Holds, World.setCall_calls_self, Option.some.injEq, Prod.mk.injEq, ne_eq,
      not_true_eq_false, false_and, or_false, true_and]
    exact ⟨fun ⟨_, _, ⟨_, rfl⟩, h⟩ ↦ h, fun h ↦ ⟨_, _, ⟨rfl, rfl⟩, h⟩⟩
  · simp only [World.Holds, World.setCall_calls_of_ne w hj, hj, false_and, false_or, ne_eq,
      not_false_eq_true, true_and]

/-- A call that moves on with the authorization it had leaves what every call holds. -/
theorem World.holds_of_same {w : World rt T} {i j : ℕ} {request : ExecuteRequest}
    {p p' : Progress rt T} {a : Authorization rt} (hcall : w.calls i = some (request, p))
    (hsame : p'.authorization = p.authorization) (h : (w.setCall i request p').Holds j a) :
    w.Holds j a := by
  rcases World.holds_setCall.mp h with ⟨rfl, hheld⟩ | ⟨-, hheld⟩
  · exact ⟨request, p, hcall, hsame ▸ hheld⟩
  · exact hheld

/-- What every reachable world satisfies. -/
structure Inv (w : World rt T) : Prop where
  /-- No permit id is in the ledger twice. -/
  distinct : (w.ledger.map ConsumedExecutionPermit.permitId).Nodup
  /-- Every permit that needed a human approval was issued with one. -/
  approved : ∀ request ∈ w.issued, request.Approved
  /-- A call that read its context found its registration, and the snapshot it asked for. -/
  reading : ∀ i request registration asked snapshot,
    w.calls i = some (request, .contextRead registration asked snapshot) →
      w.mutations.lookup (strip request.name) = some registration ∧
        request.action.actionClass = registration ∧
        asked request.contextSnapshotId = .ok snapshot
  /-- What a call holds is about its own request. -/
  own : ∀ i request p a, w.calls i = some (request, p) → p.authorization = some a →
    a.request = request
  /-- Whatever a call holds is authorized. -/
  authorized : ∀ i a, w.Holds i a → Authorized w a
  /-- No two calls hold the same permit. -/
  separate : ∀ i j a b, i ≠ j → w.Holds i a → w.Holds j b → a.permit.permitId ≠ b.permit.permitId
  /-- An invoked executor belongs to a call that has moved past its permit. -/
  invoked : ∀ i a, (i, a) ∈ w.invocations →
    ∃ request p, w.calls i = some (request, p) ∧ p.authorization = some a ∧ p.isConsumed = false
  /-- No call invokes its executor twice. -/
  once : (w.invocations.map Prod.fst).Nodup

theorem inv_initial (contexts : Contexts rt) : Inv (World.initial T contexts) where
  distinct := List.nodup_nil
  approved := by simp [World.initial]
  reading := by simp [World.initial]
  own := by simp [World.initial]
  authorized := by simp [World.initial, World.Holds]
  separate := by simp [World.initial, World.Holds]
  invoked := by simp [World.initial]
  once := List.nodup_nil

/-- A step that moves one call on, past its permit and with the authorization it had. -/
theorem Inv.move {w : World rt T} (hinv : Inv w) {i : ℕ} {request : ExecuteRequest}
    {p p' : Progress rt T} (hcall : w.calls i = some (request, p))
    (hsame : p'.authorization = p.authorization) (hpast : p'.isConsumed = false)
    (hread : ∀ registration asked snapshot, p' ≠ .contextRead registration asked snapshot) :
    Inv (w.setCall i request p') where
  distinct := hinv.distinct
  approved := hinv.approved
  reading := by
    intro j request' registration asked snapshot hj
    by_cases hij : j = i
    · subst hij
      rw [World.setCall_calls_self] at hj
      cases hj
      exact absurd rfl (hread registration asked snapshot)
    · rw [World.setCall_calls_of_ne w hij] at hj
      exact hinv.reading j request' registration asked snapshot hj
  own := by
    intro j request' q a hj hq
    by_cases hij : j = i
    · subst hij
      rw [World.setCall_calls_self] at hj
      cases hj
      exact hinv.own j _ p a hcall (hsame ▸ hq)
    · rw [World.setCall_calls_of_ne w hij] at hj
      exact hinv.own j request' q a hj hq
  authorized := fun j a hheld ↦
    (hinv.authorized j a (World.holds_of_same hcall hsame hheld)).mono ⟨fun _ _ h ↦ h,
      List.Subset.refl _, List.prefix_rfl⟩
  separate := fun j k a b hne ha hb ↦ hinv.separate j k a b hne
    (World.holds_of_same hcall hsame ha) (World.holds_of_same hcall hsame hb)
  invoked := by
    intro j a hmem
    obtain ⟨request', q, hj, hheld, hmoved⟩ := hinv.invoked j a hmem
    by_cases hij : j = i
    · subst hij
      rw [hcall] at hj
      cases hj
      exact ⟨request, p', World.setCall_calls_self _ _ _ _, hsame ▸ hheld, hpast⟩
    · exact ⟨request', q, by rw [World.setCall_calls_of_ne w hij, hj], hheld, hmoved⟩
  once := hinv.once

/-- A step that leaves the calls alone. -/
theorem Inv.frame {w w' : World rt T} (hinv : Inv w) (hext : w.Extends w')
    (hcalls : w'.calls = w.calls) (hinvocations : w'.invocations = w.invocations)
    (hdistinct : (w'.ledger.map ConsumedExecutionPermit.permitId).Nodup)
    (happroved : ∀ request ∈ w'.issued, request.Approved) : Inv w' where
  distinct := hdistinct
  approved := happroved
  reading := by
    intro i request registration asked snapshot hi
    rw [hcalls] at hi
    obtain ⟨hregistered, hrest⟩ := hinv.reading i request registration asked snapshot hi
    exact ⟨hext.mutations _ _ hregistered, hrest⟩
  own := by
    intro i request p a hi
    rw [hcalls] at hi
    exact hinv.own i request p a hi
  authorized := by
    intro i a hheld
    rw [World.Holds, hcalls] at hheld
    exact (hinv.authorized i a hheld).mono hext
  separate := by
    intro i j a b hne ha hb
    rw [World.Holds, hcalls] at ha hb
    exact hinv.separate i j a b hne ha hb
  invoked := by
    intro i a hmem
    rw [hinvocations] at hmem
    rw [hcalls]
    exact hinv.invoked i a hmem
  once := hinvocations ▸ hinv.once

/-- A call that has just read its context found its registration and its snapshot. -/
theorem readContext_eq_ok {w : World rt T} {request : ExecuteRequest} {p : Progress rt T}
    (h : readContext w request = .ok p) : ∃ registration snapshot,
      p = .contextRead registration w.contexts snapshot ∧
        w.mutations.lookup (strip request.name) = some registration ∧
        request.action.actionClass = registration ∧
        w.contexts request.contextSnapshotId = .ok snapshot := by
  simp only [readContext, bind_eq_ok, orRaise_eq_ok, require_eq_ok, pure_eq_ok,
    exists_const] at h
  obtain ⟨registration, hregistered, hclass, snapshot, hsnapshot, rfl⟩ := h
  exact ⟨registration, snapshot, rfl, hregistered, hclass, hsnapshot⟩

theorem Inv.start {w : World rt T} (hinv : Inv w) {i : ℕ} {request : ExecuteRequest}
    (hnew : w.calls i = none) : Inv (w.setCall i request (.ofChecked (readContext w request))) := by
  have hnone : (Progress.ofChecked (readContext w request)).authorization = none := by
    cases hread : readContext w request with
    | error e => rfl
    | ok p =>
      obtain ⟨registration, snapshot, rfl, -⟩ := readContext_eq_ok hread
      rfl
  have hheld {j : ℕ} {a : Authorization rt}
      (h : (w.setCall i request (.ofChecked (readContext w request))).Holds j a) : w.Holds j a := by
    rcases World.holds_setCall.mp h with ⟨-, hsome⟩ | ⟨-, hold⟩
    · rw [hnone] at hsome
      cases hsome
    · exact hold
  refine ⟨hinv.distinct, hinv.approved, ?_, ?_, ?_, ?_, ?_, hinv.once⟩
  · intro j request' registration asked snapshot hj
    by_cases hij : j = i
    · subst hij
      rw [World.setCall_calls_self, Option.some.injEq, Prod.mk.injEq] at hj
      obtain ⟨rfl, hread⟩ := hj
      cases hcontext : readContext w request with
      | error e =>
        rw [hcontext] at hread
        cases hread
      | ok p =>
        obtain ⟨found, current, rfl, hregistered, hclass, hcurrent⟩ := readContext_eq_ok hcontext
        rw [hcontext] at hread
        cases hread
        exact ⟨hregistered, hclass, hcurrent⟩
    · rw [World.setCall_calls_of_ne w hij] at hj
      exact hinv.reading j request' registration asked snapshot hj
  · intro j request' q a hj hq
    by_cases hij : j = i
    · subst hij
      rw [World.setCall_calls_self] at hj
      cases hj
      rw [hnone] at hq
      cases hq
    · rw [World.setCall_calls_of_ne w hij] at hj
      exact hinv.own j request' q a hj hq
  · exact fun j a h ↦ (hinv.authorized j a (hheld h)).mono (World.Extends.of_eq rfl rfl rfl)
  · exact fun j k a b hne ha hb ↦ hinv.separate j k a b hne (hheld ha) (hheld hb)
  · intro j a hmem
    obtain ⟨request', q, hj, hrest⟩ := hinv.invoked j a hmem
    have hij : j ≠ i := by
      rintro rfl
      rw [hnew] at hj
      cases hj
    exact ⟨request', q, by rw [World.setCall_calls_of_ne w hij, hj], hrest⟩

/-- A permit that a call has just consumed authorizes it. -/
theorem authorized_of_consume (hsound : rt.Sound) {w w' : World rt T} (hinv : Inv w) {i : ℕ}
    {request : ExecuteRequest} {registration : ActionClass} {asked : Contexts rt}
    {snapshot : ValidatedSnapshot rt} {contextNow now : ℤ} {fault : LedgerFault}
    {permit : ConsumedExecutionPermit}
    (hcall : w.calls i = some (request, .contextRead registration asked snapshot))
    (hunforged : Unforged w.issued request.permitToken)
    (hconsume : (consume rt w.ledger request.permitToken request.envelope request.action
      snapshot.snapshot contextNow now fault).1 = .ok permit)
    (hext : w.Extends w') (hledger : w'.ledger = w.ledger ++ [permit]) :
    Authorized w' ⟨request, registration, asked, snapshot, contextNow, now, permit, w.ledger⟩ := by
  obtain ⟨hregistered, hclass, hcurrent⟩ := hinv.reading i _ _ _ _ hcall
  obtain ⟨hcheck, hfresh, -⟩ := consume_eq_ok hconsume
  obtain ⟨issued, hmem, hcarried, hissued, hid, hexpiry⟩ :=
    matches_of_checkPermit hsound hunforged hcheck
  obtain ⟨hunexpired, policy, profile, hpolicy⟩ := envelopeSatisfies_of_checkPermit hcheck
  refine ⟨hext.mutations _ _ hregistered, hclass, hcurrent, hunexpired,
    ⟨issued, hext.issued hmem, hcarried, hissued, hid, hexpiry⟩,
    ⟨policy, profile, hpolicy, fun hprofile ↦ ?_⟩, hfresh, hledger ▸ List.prefix_rfl⟩
  have hhuman : requiresHuman request.envelope = .bool true := hprofile ▸ hpolicy.human
  obtain ⟨approval, -, hheld⟩ :=
    hinv.approved issued hmem ((requiresHuman_congr hissued.envelope_eq).mp hhuman)
  exact ⟨approval, hissued.holdsApproval hheld⟩

/-- A permit in the ledger is not the one a call has just consumed. -/
theorem Authorized.permitId_mem {w : World rt T} {a : Authorization rt} (h : Authorized w a) :
    a.permit.permitId ∈ w.ledger.map ConsumedExecutionPermit.permitId :=
  List.mem_map_of_mem (h.spent.subset (List.mem_append_right _ (List.mem_singleton_self _)))

theorem Inv.consumePermit (hsound : rt.Sound) {w : World rt T} (hinv : Inv w) {i : ℕ}
    {request : ExecuteRequest} {registration : ActionClass} {asked : Contexts rt}
    {snapshot : ValidatedSnapshot rt} {contextNow now : ℤ} {fault : LedgerFault}
    (hcall : w.calls i = some (request, .contextRead registration asked snapshot))
    (hunforged : Unforged w.issued request.permitToken) :
    Inv { w.setCall i request (Governance.consumePermit w.ledger request registration asked snapshot
        contextNow now fault).1 with
      ledger := (Governance.consumePermit (T := T) w.ledger request registration asked snapshot
        contextNow now fault).2 } := by
  have hextends : w.Extends _ := (Step.consumePermit w i request registration asked snapshot
    contextNow now fault hcall hunforged).extends
  set w' : World rt T := { w.setCall i request (Governance.consumePermit w.ledger request
      registration asked snapshot contextNow now fault).1 with
    ledger := (Governance.consumePermit (T := T) w.ledger request registration asked snapshot
      contextNow now fault).2 } with hw'
  -- what call `i` holds afterwards, if anything, is the permit it has just consumed
  have hheld {j : ℕ} {a : Authorization rt} (h : w'.Holds j a) :
      (j = i ∧ Authorized w' a ∧
        a.permit.permitId ∉ w.ledger.map ConsumedExecutionPermit.permitId) ∨
      (j ≠ i ∧ w.Holds j a) := by
    rcases World.holds_setCall.mp h with ⟨rfl, hsome⟩ | hother
    · refine .inl ⟨rfl, ?_⟩
      simp only [Governance.consumePermit] at hsome
      cases hreply : (consume rt w.ledger request.permitToken request.envelope request.action
          snapshot.snapshot contextNow now fault).1 with
      | error e =>
        rw [hreply] at hsome
        cases hsome
      | ok permit =>
        rw [hreply] at hsome
        cases hsome
        obtain ⟨-, hfresh, hrows⟩ := consume_eq_ok hreply
        exact ⟨authorized_of_consume hsound hinv hcall hunforged hreply hextends hrows, hfresh⟩
    · exact .inr hother
  refine ⟨consume_nodup hinv.distinct, hinv.approved, ?_, ?_, ?_, ?_, ?_, hinv.once⟩
  · intro j request' registration' asked' snapshot' hj
    by_cases hij : j = i
    · subst hij
      rw [show w'.calls j = _ from World.setCall_calls_self w j request _, Option.some.injEq,
        Prod.mk.injEq] at hj
      obtain ⟨-, hj⟩ := hj
      simp only [Governance.consumePermit] at hj
      cases hreply : (consume rt w.ledger request.permitToken request.envelope request.action
          snapshot.snapshot contextNow now fault).1 <;> rw [hreply] at hj <;> cases hj
    · rw [show w'.calls j = _ from World.setCall_calls_of_ne w hij request _] at hj
      exact hinv.reading j request' registration' asked' snapshot' hj
  · intro j request' q a hj hq
    by_cases hij : j = i
    · subst hij
      rw [show w'.calls j = _ from World.setCall_calls_self w j request _, Option.some.injEq,
        Prod.mk.injEq] at hj
      obtain ⟨rfl, rfl⟩ := hj
      simp only [Governance.consumePermit] at hq
      cases hreply : (consume rt w.ledger request.permitToken request.envelope request.action
          snapshot.snapshot contextNow now fault).1 <;> rw [hreply] at hq <;> cases hq
      rfl
    · rw [show w'.calls j = _ from World.setCall_calls_of_ne w hij request _] at hj
      exact hinv.own j request' q a hj hq
  · intro j a h
    rcases hheld h with ⟨-, hauth, -⟩ | ⟨-, hold⟩
    · exact hauth
    · exact (hinv.authorized j a hold).mono hextends
  · intro j k a b hne ha hb
    rcases hheld ha with ⟨rfl, -, hfresha⟩ | ⟨hj, holda⟩
    · rcases hheld hb with ⟨rfl, -⟩ | ⟨-, holdb⟩
      · exact absurd rfl hne
      · exact fun heq ↦ hfresha (heq ▸ (hinv.authorized k b holdb).permitId_mem)
    · rcases hheld hb with ⟨rfl, -, hfreshb⟩ | ⟨-, holdb⟩
      · exact fun heq ↦ hfreshb (heq ▸ (hinv.authorized j a holda).permitId_mem)
      · exact hinv.separate j k a b hne holda holdb
  · intro j a hmem
    obtain ⟨request', q, hj, hrest⟩ := hinv.invoked j a hmem
    have hij : j ≠ i := by
      rintro rfl
      rw [hcall] at hj
      cases hj
      cases hrest.1
    exact ⟨request', q, by
      rw [show w'.calls j = _ from World.setCall_calls_of_ne w hij _ _, hj], hrest⟩

/-- An executor invocation moves its call past its permit, for good. -/
theorem Inv.invokeExecutor {w : World rt T} (hinv : Inv w) {i : ℕ} {request : ExecuteRequest}
    {a : Authorization rt} {reply : Checked T} (hcall : w.calls i = some (request, .consumed a)) :
    Inv { w.setCall i request (afterExecutor a reply) with
      invocations := w.invocations ++ [(i, a)] } := by
  have hauth : (afterExecutor a reply).authorization = some a := by cases reply <;> rfl
  have hpast : (afterExecutor a reply).isConsumed = false := by cases reply <;> rfl
  have hmoved : Inv (w.setCall i request (afterExecutor a reply)) :=
    hinv.move hcall hauth hpast (by cases reply <;> exact fun _ _ _ h ↦ by cases h)
  have hnot : i ∉ w.invocations.map Prod.fst := by
    intro hmem
    obtain ⟨⟨j, b⟩, hb, rfl⟩ := List.mem_map.mp hmem
    obtain ⟨request', p, hp, -, hconsumed⟩ := hinv.invoked j b hb
    rw [hcall] at hp
    cases hp
    cases hconsumed
  refine ⟨hmoved.distinct, hmoved.approved, hmoved.reading, hmoved.own,
    fun j b hb ↦ (hmoved.authorized j b hb).mono (World.Extends.of_eq rfl rfl rfl),
    hmoved.separate, ?_, ?_⟩
  · intro j b hmem
    rcases List.mem_append.mp hmem with hold | hnew
    · exact hmoved.invoked j b hold
    · cases List.mem_singleton.mp hnew
      exact ⟨request, _, World.setCall_calls_self _ _ _ _, hauth, hpast⟩
  · rw [List.map_append, List.nodup_append]
    refine ⟨hinv.once, List.nodup_singleton _, fun j hj k hk ↦ ?_⟩
    have hki : k = i := List.mem_singleton.mp hk
    rintro rfl
    exact hnot (hki ▸ hj)

theorem Inv.step (hsound : rt.Sound) {w w' : World rt T} (hinv : Inv w) (hstep : Step w w') :
    Inv w' := by
  have hext := hstep.extends
  cases hstep with
  | register name actionClass mutations hregister =>
    exact hinv.frame hext rfl rfl hinv.distinct hinv.approved
  | changeContexts contexts => exact hinv.frame hext rfl rfl hinv.distinct hinv.approved
  | issue request permit hissue =>
    refine hinv.frame hext rfl rfl hinv.distinct fun issued hmem ↦ ?_
    rcases List.mem_append.mp hmem with hold | hnew
    · exact hinv.approved issued hold
    · exact List.mem_singleton.mp hnew ▸ (issue_eq_ok hissue).2.2
  | consumeElsewhere token envelope action snapshot contextNow now fault hunforged =>
    exact hinv.frame hext rfl rfl (consume_nodup hinv.distinct) hinv.approved
  | start i request hnew => exact hinv.start hnew
  | consumePermit i request registration asked snapshot contextNow now fault hcall hunforged =>
    exact hinv.consumePermit hsound hcall hunforged
  | invokeExecutor i request a reply hcall => exact hinv.invokeExecutor hcall
  | invokeVerifier i request a result reply hcall =>
    have hauth : (afterVerifier a result reply).authorization = some a := by
      rcases reply with e | _ | verification
      · rfl
      · rfl
      · simp only [afterVerifier]
        split_ifs <;> rfl
    have hpast : (afterVerifier a result reply).isConsumed = false ∧
        ∀ registration asked snapshot,
          afterVerifier a result reply ≠ .contextRead registration asked snapshot := by
      rcases reply with e | _ | verification
      · exact ⟨rfl, fun _ _ _ h ↦ by cases h⟩
      · exact ⟨rfl, fun _ _ _ h ↦ by cases h⟩
      · simp only [afterVerifier]
        split_ifs <;> exact ⟨rfl, fun _ _ _ h ↦ by cases h⟩
    exact hinv.move hcall hauth hpast.1 hpast.2
  | invokeReconciler i request a result verification reply hcall =>
    have hauth : (afterReconciler a result verification reply).authorization = some a := by
      rcases reply with e | ref
      · rfl
      · simp only [afterReconciler]
        split_ifs <;> rfl
    have hpast : (afterReconciler a result verification reply).isConsumed = false ∧
        ∀ registration asked snapshot,
          afterReconciler a result verification reply ≠
            .contextRead registration asked snapshot := by
      rcases reply with e | ref
      · exact ⟨rfl, fun _ _ _ h ↦ by cases h⟩
      · simp only [afterReconciler]
        split_ifs <;> exact ⟨rfl, fun _ _ _ h ↦ by cases h⟩
    exact hinv.move hcall hauth hpast.1 hpast.2

theorem Inv.run (hsound : rt.Sound) {w w' : World rt T} (hinv : Inv w)
    (hrun : Relation.ReflTransGen Step w w') : Inv w' := by
  induction hrun with
  | refl => exact hinv
  | tail _ hstep ih => exact ih.step hsound hstep

theorem Reachable.inv (hsound : rt.Sound) {w : World rt T} (hreach : Reachable w) : Inv w := by
  obtain ⟨contexts, hrun⟩ := hreach
  exact (inv_initial contexts).run hsound hrun

theorem extends_of_run {w w' : World rt T} (hrun : Relation.ReflTransGen Step w w') :
    w.Extends w' := by
  induction hrun with
  | refl => exact World.Extends.of_eq rfl rfl rfl
  | tail _ hstep ih =>
    have hlast := hstep.extends
    exact ⟨fun name c h ↦ hlast.mutations name c (ih.mutations name c h),
      List.Subset.trans ih.issued hlast.issued, ih.ledger.trans hlast.ledger⟩

end Invariant

/-! ### The gateway lets an issued permit through -/

section Liveness

variable {rt : Runtime} {T : Type}

theorem registerMutation_of_ne {name : String} {actionClass : ActionClass}
    (hname : strip name ≠ "") (hclass : actionClass ≠ .readOnly) :
    registerMutation [] name actionClass.name = .ok [(strip name, actionClass)] := by
  have hupper : upper (strip actionClass.name) = actionClass.name := by
    cases actionClass <;> decide +kernel
  have hstateful : actionClass.name ≠ "READ_ONLY" :=
    fun h ↦ hclass (ActionClass.name_injective (h.trans rfl))
  simp only [registerMutation, hupper, bind_eq_ok, require_eq_ok, exists_const, orRaise_eq_ok,
    ActionClass.ofName_name, Option.some.injEq, exists_eq_left', pure_eq_ok]
  exact ⟨hname, rfl, hstateful, rfl⟩

/-- A token of an issued permit is not forged. -/
theorem unforged_of_issue {request : IssueRequest rt} {permit : IssuedExecutionPermit}
    (hissue : issue rt request = .ok permit) : Unforged [request] permit.token := by
  intro bytes signature hsplit _
  rw [(issue_eq_ok hissue).1, splitToken_signToken, Except.ok.injEq, Prod.mk.injEq] at hsplit
  exact ⟨request, List.mem_singleton_self _, hsplit.1.symm⟩

/-- The gateway is not vacuous: a permit that was issued, presented with what it was issued for
while it and the provider's snapshot are current, reaches the executor of a mutation of its class.
Assumes: documents read back, `hsound`, a name that is not blank, `hname`, and that the provider
holds the snapshot of the permit current, `hcurrent`. -/
theorem executor_reachable (hsound : rt.Sound) {request : IssueRequest rt}
    {permit : IssuedExecutionPermit} (hissue : issue rt request = .ok permit)
    (contexts : Contexts rt) (name snapshotId : String) (hname : strip name ≠ "")
    (hcurrent : contexts snapshotId = .ok request.snapshot) {contextNow now : ℤ}
    (hcontext : contextNow ≤ request.snapshot.snapshot.expiresAt)
    (hnow : now ≤ request.expiresAt) :
    ∃ (w : World rt T) (a : Authorization rt), Reachable w ∧ (0, a) ∈ w.invocations := by
  have hcheck := checkPermit_of_issue hsound hissue hcontext hnow
  set row : ConsumedExecutionPermit := ⟨request.permitId, now, fingerprint rt request.envelope,
    request.action.intentFingerprint rt⟩
  set actionClass := request.action.actionClass with hactionClass
  let call : ExecuteRequest := ⟨name, permit.token, snapshotId, request.envelope, request.action⟩
  let a : Authorization rt :=
    ⟨call, actionClass, contexts, request.snapshot, contextNow, now, row, []⟩
  let w₀ : World rt T := World.initial T contexts
  let w₁ : World rt T := { w₀ with mutations := [(strip name, actionClass)] }
  let w₂ : World rt T := { w₁ with issued := [request] }
  let w₃ : World rt T := w₂.setCall 0 call (.contextRead actionClass contexts request.snapshot)
  have hread : readContext w₂ call = .ok (.contextRead actionClass contexts request.snapshot) := by
    have hlookup : w₂.mutations.lookup (strip call.name) = some actionClass := by
      simp [w₂, w₁, call]
    simp only [readContext, bind_eq_ok, orRaise_eq_ok, require_eq_ok, exists_const, pure_eq_ok]
    exact ⟨actionClass, hlookup, rfl, request.snapshot, hcurrent, rfl⟩
  have hconsume : consumePermit (T := T) [] call actionClass contexts request.snapshot contextNow
      now .none = (.consumed a, [row]) := by
    simp only [consumePermit, consume, call, hcheck]
    rfl
  have hregister : Step w₀ w₁ :=
    .register w₀ name _ _ (registerMutation_of_ne hname (issue_eq_ok hissue).2.1)
  have hissued : Step w₁ w₂ := .issue w₁ request permit hissue
  have hstart : Step w₂ w₃ := by
    have hstep := Step.start w₂ 0 call rfl
    rw [hread] at hstep
    exact hstep
  let w₄ : World rt T := { w₃.setCall 0 call (.consumed a) with ledger := [row] }
  let reply : Checked T := .error ⟨.foreign, ""⟩
  let w₅ : World rt T := { w₄.setCall 0 call (afterExecutor a reply) with invocations := [(0, a)] }
  have hconsumed : Step w₃ w₄ := by
    have hstep := Step.consumePermit w₃ 0 call actionClass contexts request.snapshot contextNow now
      .none (World.setCall_calls_self _ _ _ _) (unforged_of_issue hissue)
    rw [show w₃.ledger = [] from rfl, hconsume] at hstep
    exact hstep
  have hinvoked : Step w₄ w₅ :=
    .invokeExecutor w₄ 0 call a reply (World.setCall_calls_self w₃ 0 call (.consumed a))
  have hrun : Relation.ReflTransGen Step w₀ w₅ :=
    .tail (.tail (.tail (.tail (.single hregister) hissued) hstart) hconsumed) hinvoked
  exact ⟨w₅, a, ⟨contexts, hrun⟩, List.mem_singleton_self _⟩

end Liveness

/-! ### A run that reaches an executor -/

section SampleRun

def sampleEnvelope : Json := .obj [
  ("intent", .obj [("description", .str "d"), ("outcome_class", .str "ARTIFACT")]),
  ("active_object", .str "song"),
  ("retained_scope_refs", .arr [.str "r"]),
  ("dependencies", .obj [("upstream", .arr []), ("downstream", .arr [])]),
  ("truth_owners", .obj (truthPlanes.map fun plane ↦ (plane, .str "o"))),
  ("claims", .arr [.obj [("statement", .str "s"), ("truth_type", .str "DECISION"),
    ("evidence_posture", .str "OBSERVED"), ("source_refs", .arr [.str "e"]),
    ("blocking", .bool false)]]),
  ("required_functions", .arr [.str "f"]),
  ("invoked_functions", .arr [.str "f"]),
  ("authority", .obj [("action_class", .str "REVERSIBLE"), ("authorized", .bool true),
    ("requires_human", .bool true), ("source_ref", .str "a")]),
  ("acceptance", .obj [("outcome_class", .str "ARTIFACT"), ("observable_condition", .str "c"),
    ("evidence_required", .arr [.str "e"])]),
  ("next_causal_dependency", .obj [("state", .str "NONE"), ("description", .str "d"),
    ("source_ref", .str "e")])]

def sampleAction : ActionIntent where
  actionId := ⟨"act", by decide, by decide⟩
  jobId := ⟨"j", Text.letterJ.stripped, Text.letterJ.nonempty⟩
  actionClass := .reversible
  description := ⟨"d", Text.letterD.stripped, Text.letterD.nonempty⟩
  targetRef := ⟨"t", Text.letterT.stripped, Text.letterT.nonempty⟩
  revisionFingerprint := ⟨"v", by decide, by decide⟩
  payloadFingerprint := ⟨"p", Text.letterP.stripped, Text.letterP.nonempty⟩
  destination := none
  purpose := none
  dataCategories := ∅
  purposeful := purposeful_none
  categories := categories_empty

def sampleIntentDigest : String :=
  "54d036bc8d1b892cce623e5b7c04d862c392e26bde7c9edcc73d44c3f017677e"

def sampleEnvelopeDigest : String :=
  "786b77b8fb48e965a628ee4a9a86b056cb8d174b2f5244ba1d1c5aa7954da932"

def sampleDocumentDigest : String :=
  "3271054705f0179d06c3f4ea69945e63f822e58e65abfdf8a25439ba0c2fa6cf"

/-- A snapshot document with a policy for the object of the envelope and an approval of the
intent. -/
def sampleDocument : Json := .obj [
  ("snapshot_id", .str "s1"),
  ("source_fingerprint", .str "src"),
  ("observed_at", .str "2026-01-01T00:00:00+00:00"),
  ("expires_at", .str "2026-01-01T00:15:00+00:00"),
  ("retained_scope_refs", .arr [.str "r"]),
  ("truth_owners", .obj (truthPlanes.map fun plane ↦ (plane, .str "o"))),
  ("policies", .obj [("song", .obj [("required_functions", .arr [.str "f"]),
    ("required_dependencies", .obj []), ("allowed_outcome_classes", .arr [.str "ARTIFACT"]),
    ("authority_by_action_class", .obj [("REVERSIBLE", .obj [("requires_human", .bool true),
      ("source_refs", .arr [.str "a"])])])])]),
  ("approvals", .arr [.obj [("approval_id", .str "ap"),
    ("intent_fingerprint", .str sampleIntentDigest), ("source_ref", .str "me")]])]

def samplePayload : Json :=
  permitPayload "permit_0" 1767225600 1767225900 sampleEnvelopeDigest sampleDocumentDigest
    sampleIntentDigest "REVERSIBLE" "a"

/-- The HMAC-SHA256 of the payload under the secret of 32 bytes `k`. -/
def sampleSignature : List UInt8 := [
  0xff, 0x51, 0x92, 0x6f, 0xf2, 0xad, 0x32, 0x58, 0xea, 0xbf, 0xf4, 0x66, 0x76, 0x09, 0xc3,
  0xa9, 0x3b, 0xf0, 0x33, 0x6a, 0x66, 0x67, 0x94, 0x37, 0xd5, 0x2b, 0x1f, 0x5c, 0xef, 0x2c,
  0xbf, 0xb9]

open Classical in
/-- A runtime that answers as the real one does on the documents of the run. -/
noncomputable def sampleRuntime : Runtime where
  sha256 s :=
    if s = sampleAction.materialFields.dumps then sampleIntentDigest
    else if s = sampleEnvelope.dumps then sampleEnvelopeDigest
    else if s = sampleDocument.dumps then sampleDocumentDigest
    else "x" ++ s
  fromisoformat s :=
    if s = "2026-01-01T00:00:00+00:00" then some ⟨1767225600000000, true⟩
    else if s = "2026-01-01T00:15:00+00:00" then some ⟨1767226500000000, true⟩
    else none
  hmac bytes := if bytes = payloadBytes samplePayload then sampleSignature else []
  loads bytes :=
    if h : ∃ v : Json, encodeUtf8 v.dumps = bytes then some h.choose.canonical else none

/-- The document a digest of `sampleRuntime` is of. -/
def sampleInverse (digest : String) : String :=
  if digest = sampleIntentDigest then sampleAction.materialFields.dumps
  else if digest = sampleEnvelopeDigest then sampleEnvelope.dumps
  else if digest = sampleDocumentDigest then sampleDocument.dumps
  else String.ofList (digest.toList.drop 1)

/-- Literals with different first characters differ. -/
theorem ofList_cons_ne {c d : Char} (h : c ≠ d) (l m : List Char) :
    String.ofList (c :: l) ≠ String.ofList (d :: m) :=
  fun heq ↦ h (List.cons.inj (String.ofList_injective heq)).1

theorem append_ne_ofList_cons {c d : Char} (h : c ≠ d) (s : String) (l : List Char) :
    String.ofList [c] ++ s ≠ String.ofList (d :: l) := by
  intro heq
  have hchars := congrArg String.toList heq
  rw [String.toList_append, String.toList_ofList, String.toList_ofList] at hchars
  exact h (List.cons.inj hchars).1

theorem sampleInverse_sha256 : Function.LeftInverse sampleInverse sampleRuntime.sha256 := by
  have hdistinct : sampleEnvelopeDigest ≠ sampleIntentDigest ∧
      sampleDocumentDigest ≠ sampleIntentDigest ∧
      sampleDocumentDigest ≠ sampleEnvelopeDigest :=
    ⟨ofList_cons_ne (by decide) _ _, ofList_cons_ne (by decide) _ _,
      ofList_cons_ne (by decide) _ _⟩
  intro s
  have hs : "x" ++ s ≠ sampleIntentDigest ∧ "x" ++ s ≠ sampleEnvelopeDigest ∧
      "x" ++ s ≠ sampleDocumentDigest :=
    ⟨append_ne_ofList_cons (by decide) _ _, append_ne_ofList_cons (by decide) _ _,
      append_ne_ofList_cons (by decide) _ _⟩
  simp only [sampleInverse, sampleRuntime]
  split_ifs <;> simp_all

theorem sampleRuntime_sound : sampleRuntime.Sound where
  sha256_injective := sampleInverse_sha256.injective
  loads_dumps := by
    intro v
    have hwritten : ∃ w : Json, encodeUtf8 w.dumps = encodeUtf8 v.dumps := ⟨v, rfl⟩
    simp only [sampleRuntime, hwritten, dif_pos]
    rw [Json.dumps_inj.mp (encodeUtf8_injective hwritten.choose_spec)]

theorem sampleAction_fingerprint :
    sampleAction.intentFingerprint sampleRuntime = sampleIntentDigest := if_pos rfl

/-- A check that gave an option a value returned it. -/
theorem exists_of_toOption {α : Type} {r : Checked α} (h : r.toOption.isSome = true) :
    ∃ a, r = .ok a := by
  cases r with
  | error e => cases h
  | ok a => exact ⟨a, rfl⟩

theorem sampleDocument_valid :
    (validateTrustedContextSnapshot sampleRuntime sampleDocument).toOption.isSome = true := by
  decide +kernel

noncomputable def sampleSnapshot : ValidatedSnapshot sampleRuntime where
  raw := sampleDocument
  snapshot := (validateTrustedContextSnapshot sampleRuntime sampleDocument).toOption.get
    sampleDocument_valid
  validated := by
    obtain ⟨snapshot, hsnapshot⟩ := exists_of_toOption sampleDocument_valid
    simp [hsnapshot, Except.toOption]

theorem sampleEnvelope_crosscheck :
    (crosscheckExecutionEnvelope sampleEnvelope sampleSnapshot.snapshot
      1767225600000000).toOption.isSome = true := by
  decide +kernel

theorem sampleSnapshot_approvals : sampleSnapshot.snapshot.approvals =
    [("ap", ⟨sampleIntentDigest, "me"⟩)] := by
  have hread : approvalRecords (sampleDocument.get "approvals") =
      .ok [("ap", ⟨sampleIntentDigest, "me"⟩)] := rfl
  exact Except.ok.inj (sampleSnapshot.approvals_eq.symm.trans hread)

noncomputable def sampleRequest : IssueRequest sampleRuntime where
  envelope := sampleEnvelope
  action := sampleAction
  snapshot := sampleSnapshot
  approval := some ⟨⟨"ap", Text.wordAp.stripped, Text.wordAp.nonempty⟩,
    ⟨sampleIntentDigest, by decide, by decide⟩, ⟨"me", Text.wordMe.stripped, Text.wordMe.nonempty⟩⟩
  ttlSeconds := 300
  readings := ⟨1767225600000000, 1767225600, "0", by decide⟩

theorem sampleRequest_approval : validateRequiredHumanApproval sampleRuntime sampleEnvelope
    sampleAction sampleRequest.approval sampleSnapshot.snapshot = .ok () := by
  have hhuman : requiresHuman sampleEnvelope = .bool true := rfl
  simp only [validateRequiredHumanApproval, hhuman, ne_eq, not_true_eq_false, if_false,
    sampleRequest, bind_eq_ok, require_eq_ok, validateApproval_eq_valid, sampleAction_fingerprint,
    true_and, exists_const]
  simp only [requireTrustedApproval, sampleSnapshot_approvals, contextText]
  rfl

theorem sampleRequest_issued : ∃ permit, issue sampleRuntime sampleRequest = .ok permit := by
  obtain ⟨result, hcheck⟩ := exists_of_toOption sampleEnvelope_crosscheck
  have hvalid : validateExecutionEnvelope sampleEnvelope = .ok () := by
    simp only [crosscheckExecutionEnvelope, bind_eq_ok] at hcheck
    obtain ⟨_, hvalid, -⟩ := hcheck
    exact hvalid
  have hblockers : envelopeBlockers sampleEnvelope = [] := rfl
  have hbinding : envelopeActionClass sampleEnvelope = sampleAction.actionClass.name := rfl
  simp only [issue, bind_eq_ok, require_eq_ok, pure_eq_ok, exists_const]
  exact ⟨_, by decide, _, requireExecutionPermit_eq_ok.mpr ⟨hvalid, hblockers, rfl⟩, result, hcheck,
    (), require_eq_ok.mpr hbinding, by decide, (), sampleRequest_approval, rfl⟩

noncomputable def sampleContexts : Contexts sampleRuntime := fun snapshotId ↦
  if snapshotId = "s1" then .ok sampleSnapshot else .error (contextError "not current")

/-- The run of the sample: its permit is issued and its executor is reached. -/
theorem sample_reachable : ∃ (w : World sampleRuntime Unit) (a : Authorization sampleRuntime),
    Reachable w ∧ (0, a) ∈ w.invocations := by
  obtain ⟨permit, hissue⟩ := sampleRequest_issued
  obtain ⟨result, hcheck⟩ := exists_of_toOption sampleEnvelope_crosscheck
  have hcontext : (1767225600000000 : ℤ) ≤ sampleRequest.snapshot.snapshot.expiresAt := by
    simp only [crosscheckExecutionEnvelope, bind_eq_ok, require_eq_ok, exists_const] at hcheck
    obtain ⟨-, -, hunexpired, -⟩ := hcheck
    exact hunexpired
  have hnow : (1767225600 : ℤ) ≤ sampleRequest.expiresAt := by decide
  exact executor_reachable sampleRuntime_sound hissue sampleContexts "m" "s1" (by decide)
    (if_pos rfl) hcontext hnow

end SampleRun

end N0te.Governance
