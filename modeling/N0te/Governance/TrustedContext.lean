import N0te.Governance.ExecutionEnvelope

/-!
# Trusted context snapshots

A trusted context snapshot is what the canonical sources say at one time: the retained scope, the
truth owners, one policy per active object, and the approvals that were given.
`validateTrustedContextSnapshot` normalizes a raw document into a `TrustedContextSnapshot`, and
`ValidatedSnapshot` pairs a raw document with the snapshot it normalizes to, which is the only way
the code obtains one.

`crosscheckExecutionEnvelope` compares an envelope with a snapshot. `EnvelopeSatisfies` says what
an accepted envelope satisfies, in terms of sets, and
`envelopeSatisfies_of_crosscheck` proves it. `approvalRecords_canonical` says that the approvals of
a snapshot do not depend on the order of object fields, so two documents with one fingerprint hold
the same approvals.

Scope. The file-backed provider is not modelled here; a provider is any function from a snapshot
id to a validated snapshot.
-/

set_option autoImplicit false
set_option relaxedAutoImplicit false

namespace N0te.Governance

open Library

/-! ### Fields -/

/-- A `TrustedContextError`. -/
def contextError (message : String) : Raised ErrorClass := ⟨.trustedContextError, message⟩

/-- A non-empty text field. -/
def contextText (value : Json) (field : String) : Checked Text :=
  match value with
  | .str s => orRaise (Text.ofString s) (contextError (field ++ " must be non-empty text"))
  | _ => .error (contextError (field ++ " must be non-empty text"))

/-- A list field of distinct non-empty texts. -/
def contextTextSet (value : Json) (field : String) (allowEmpty : Bool) :
    Checked (Finset String) :=
  match value with
  | .arr entries => do
    let texts ← checkEach (fun _ item ↦ contextText item field) 0 entries
    let values := texts.map Text.val
    require values.Nodup (contextError (field ++ " contains duplicates"))
    require (allowEmpty = true ∨ values ≠ []) (contextError (field ++ " must not be empty"))
    return values.toFinset
  | _ => .error (contextError (field ++ " must be a list"))

/-- `text.replace("Z", "+00:00")`. -/
def replaceZulu (s : String) : String :=
  String.ofList (s.toList.flatMap fun c ↦ if c = 'Z' then "+00:00".toList else [c])

/-- A timestamp field, as microseconds UTC. -/
def contextTimestamp (rt : Runtime) (value : Json) (field : String) : Checked ℤ := do
  let text ← contextText value field
  let stamp ← orRaise (rt.fromisoformat (replaceZulu text.val))
    (contextError (field ++ " must be ISO-8601"))
  require (stamp.aware = true) (contextError (field ++ " must include timezone"))
  return stamp.instant

/-! ### Approvals -/

/-- What an approval binds: one intent, from one source. -/
structure ApprovalRecord where
  /-- The fingerprint of the approved intent. -/
  intentFingerprint : String
  /-- Where the approval came from. -/
  sourceRef : String
  deriving DecidableEq

/-- The loop of `_approval_records`, with the approvals read so far. -/
def approvalRecordsFrom : ℕ → List (String × ApprovalRecord) → List Json →
    Checked (List (String × ApprovalRecord))
  | _, approvals, [] => .ok approvals
  | index, approvals, item :: rest => do
    let field := "approvals[" ++ Nat.repr index ++ "]"
    require (item.isObj = true) (contextError (field ++ " must be an object"))
    let approvalId ← contextText (item.get "approval_id") (field ++ ".approval_id")
    require (approvals.lookup approvalId.val = none)
      (contextError ("duplicate trusted approval_id: " ++ approvalId.val))
    let intent ← contextText (item.get "intent_fingerprint") (field ++ ".intent_fingerprint")
    let source ← contextText (item.get "source_ref") (field ++ ".source_ref")
    approvalRecordsFrom (index + 1)
      (approvals ++ [(approvalId.val, ⟨intent.val, source.val⟩)]) rest

/-- The approvals of a document. -/
def approvalRecords (value : Json) : Checked (List (String × ApprovalRecord)) :=
  match value with
  | .arr entries => approvalRecordsFrom 0 [] entries
  | _ => .error (contextError "approvals must be a list")

@[simp] theorem contextText_canonical (value : Json) (field : String) :
    contextText value.canonical field = contextText value field := by
  cases value <;> rfl

theorem approvalRecordsFrom_canonical (index : ℕ) (approvals : List (String × ApprovalRecord))
    (entries : List Json) :
    approvalRecordsFrom index approvals (entries.map Json.canonical) =
      approvalRecordsFrom index approvals entries := by
  induction entries generalizing index approvals with
  | nil => rfl
  | cons item rest ih =>
    simp only [List.map_cons, approvalRecordsFrom, Json.isObj_canonical, Json.get_canonical,
      contextText_canonical, ih]

/-- The approvals do not depend on the order of object fields. -/
theorem approvalRecords_canonical (value : Json) :
    approvalRecords value.canonical = approvalRecords value := by
  cases value with
  | arr entries =>
    rw [Json.canonical_arr]
    exact approvalRecordsFrom_canonical 0 [] entries
  | _ => rfl

/-! ### Policies -/

/-- The trusted authority for one action class. -/
structure AuthorityProfile where
  /-- Whether a human must approve. -/
  requiresHuman : Bool
  /-- The sources whose authority counts. -/
  sourceRefs : Finset String

/-- What the trusted context asks of an action on one object. -/
structure Policy where
  /-- Functions that must be invoked. -/
  requiredFunctions : Finset String
  /-- Upstream dependencies that must be named. -/
  upstream : Finset String
  /-- Downstream dependencies that must be named. -/
  downstream : Finset String
  allowedOutcomeClasses : Finset String
  /-- The authority per action class. -/
  authorityByActionClass : List (ActionClass × AuthorityProfile)

/-- The loop of `_authority_profiles`, with the profiles read so far. -/
def authorityProfilesFrom (field : String) : List (ActionClass × AuthorityProfile) →
    List (String × Json) → Checked (List (ActionClass × AuthorityProfile))
  | profiles, [] => .ok profiles
  | profiles, (rawClass, rawProfile) :: rest => do
    let className := upper (← contextText (.str rawClass) field).val
    let unsupported := contextError
      (field ++ " contains unsupported stateful action class: " ++ className)
    let actionClass ← orRaise (ActionClass.ofName className) unsupported
    require (actionClass ≠ .readOnly) unsupported
    require ((profiles.lookup actionClass).isNone = true) (contextError
      (field ++ " contains duplicate normalized action class: " ++ className))
    require (rawProfile.isObj = true)
      (contextError (field ++ "." ++ className ++ " must be an object"))
    let requiresHuman := rawProfile.get "requires_human"
    require (isBool requiresHuman = true)
      (contextError (field ++ "." ++ className ++ ".requires_human must be bool"))
    let sourceRefs ← contextTextSet (rawProfile.get "source_refs")
      (field ++ "." ++ className ++ ".source_refs") false
    authorityProfilesFrom field
      (profiles ++ [(actionClass, ⟨decide (requiresHuman = .bool true), sourceRefs⟩)]) rest

/-- The authority profiles of a policy. -/
def authorityProfiles (value : Json) (field : String) :
    Checked (List (ActionClass × AuthorityProfile)) :=
  match value with
  | .obj (entry :: rest) => authorityProfilesFrom field [] (entry :: rest)
  | _ => .error (contextError (field ++ " must be a non-empty object"))

/-- Store a value under a key, in place when the key is there. -/
def setKey {β : Type} (key : String) (value : β) : List (String × β) → List (String × β)
  | [] => [(key, value)]
  | head :: rest => if head.1 = key then (key, value) :: rest else head :: setKey key value rest

def normalizePolicy (activeObject : String) (policy : Json) : Checked Policy := do
  let field := "policies." ++ activeObject
  require (policy.isObj = true)
    (contextError ("policy for " ++ activeObject ++ " must be an object"))
  let functions ← contextTextSet (policy.get "required_functions")
    (field ++ ".required_functions") false
  let deps := policy.get "required_dependencies"
  require (deps.isObj = true)
    (contextError (field ++ ".required_dependencies must be an object"))
  let upstream ← contextTextSet ((deps.get? "upstream").getD (.arr []))
    (field ++ ".required_dependencies.upstream") true
  let downstream ← contextTextSet ((deps.get? "downstream").getD (.arr []))
    (field ++ ".required_dependencies.downstream") true
  let outcomes ← contextTextSet (policy.get "allowed_outcome_classes")
    (field ++ ".allowed_outcome_classes") false
  let profiles ← authorityProfiles (policy.get "authority_by_action_class")
    (field ++ ".authority_by_action_class")
  return ⟨functions, upstream, downstream, outcomes.image upper, profiles⟩

/-- The loop over `policies.items()`, with the policies normalized so far. -/
def normalizePoliciesFrom : List (String × Policy) → List (String × Json) →
    Checked (List (String × Policy))
  | policies, [] => .ok policies
  | policies, (key, raw) :: rest => do
    let activeObject ← contextText (.str key) "policies.active_object"
    let policy ← normalizePolicy activeObject.val raw
    normalizePoliciesFrom (setKey activeObject.val policy policies) rest

/-- The policies of a document. -/
def normalizePolicies (value : Json) : Checked (List (String × Policy)) :=
  match value with
  | .obj (entry :: rest) => normalizePoliciesFrom [] (entry :: rest)
  | _ => .error (contextError "policies must be a non-empty object")

/-! ### Snapshots -/

/-- A normalized snapshot. -/
structure TrustedContextSnapshot where
  /-- The id the provider knows it by. -/
  snapshotId : String
  /-- The fingerprint of the sources it was compiled from. -/
  sourceFingerprint : String
  /-- When the sources were read, in microseconds UTC. -/
  observedAt : ℤ
  /-- When it stops being usable, in microseconds UTC. -/
  expiresAt : ℤ
  /-- The scope an action must retain. -/
  retainedScopeRefs : Finset String
  /-- The owner of each truth plane. -/
  truthOwners : List (String × String)
  /-- The policy of each active object. -/
  policies : List (String × Policy)
  approvals : List (String × ApprovalRecord)
  /-- The fingerprint of the raw document. -/
  fingerprint : String

/-- Normalize a raw document. -/
def validateTrustedContextSnapshot (rt : Runtime) (raw : Json) :
    Checked TrustedContextSnapshot := do
  require (raw.isObj = true) (contextError "trusted context snapshot must be an object")
  let missing := missingKeys
    ["approvals", "expires_at", "observed_at", "policies", "retained_scope_refs",
      "snapshot_id", "source_fingerprint", "truth_owners"] raw
  require (missing = []) (contextError ("trusted context snapshot missing " ++ reprList missing))
  let snapshotId ← contextText (raw.get "snapshot_id") "snapshot_id"
  let sourceFingerprint ← contextText (raw.get "source_fingerprint") "source_fingerprint"
  let observedAt ← contextTimestamp rt (raw.get "observed_at") "observed_at"
  let expiresAt ← contextTimestamp rt (raw.get "expires_at") "expires_at"
  require (observedAt < expiresAt) (contextError "expires_at must be after observed_at")
  let scope ← contextTextSet (raw.get "retained_scope_refs") "retained_scope_refs" false
  let owners := raw.get "truth_owners"
  require (owners.isObj = true) (contextError "truth_owners must be an object")
  let truthOwners ← checkEach
    (fun _ plane ↦ do
      let owner ← contextText (owners.get plane) ("truth_owners." ++ plane)
      return (plane, owner.val)) 0 truthPlanes
  let policies ← normalizePolicies (raw.get "policies")
  let approvals ← approvalRecords (raw.get "approvals")
  return ⟨snapshotId.val, sourceFingerprint.val, observedAt, expiresAt, scope, truthOwners,
    policies, approvals, fingerprint rt raw⟩

/-- A snapshot together with the document it was normalized from. -/
structure ValidatedSnapshot (rt : Runtime) where
  raw : Json
  snapshot : TrustedContextSnapshot
  /-- The validator accepted it. -/
  validated : validateTrustedContextSnapshot rt raw = .ok snapshot

namespace ValidatedSnapshot

variable {rt : Runtime} (s : ValidatedSnapshot rt)

/-- What the validator read from the document, as far as later proofs use it. -/
theorem read : s.snapshot.fingerprint = fingerprint rt s.raw ∧
    approvalRecords (s.raw.get "approvals") = .ok s.snapshot.approvals ∧
    s.snapshot.observedAt < s.snapshot.expiresAt := by
  have h := s.validated
  simp only [validateTrustedContextSnapshot, bind_eq_ok, require_eq_ok, pure_eq_ok,
    exists_const] at h
  obtain ⟨-, -, snapshotId, -, sourceFingerprint, -, observedAt, -, expiresAt, -, horder, scope, -,
    -, owners, -, policies, -, approvals, happrovals, hresult⟩ := h
  rw [← hresult]
  exact ⟨rfl, happrovals, horder⟩

theorem fingerprint_eq : s.snapshot.fingerprint = fingerprint rt s.raw := s.read.1

theorem approvals_eq : approvalRecords (s.raw.get "approvals") = .ok s.snapshot.approvals :=
  s.read.2.1

/-- Snapshots of documents with one canonical form hold the same approvals. -/
theorem approvals_congr {s t : ValidatedSnapshot rt}
    (h : s.raw.canonical = t.raw.canonical) : s.snapshot.approvals = t.snapshot.approvals := by
  have hs := s.approvals_eq
  have ht := t.approvals_eq
  rw [← approvalRecords_canonical, ← Json.get_canonical] at hs ht
  rw [h, ht] at hs
  exact (Except.ok.inj hs).symm

end ValidatedSnapshot

/-! ### The cross-check -/

/-- Raise unless an envelope matches a snapshot at a time. -/
def crosscheckExecutionEnvelope (envelope : Json) (snapshot : TrustedContextSnapshot) (now : ℤ) :
    Checked TrustedContextSnapshot := do
  validateExecutionEnvelope envelope
  require (now ≤ snapshot.expiresAt) (contextError "trusted context snapshot is expired")
  let active := activeObject envelope
  let policy ← orRaise (snapshot.policies.lookup active)
    (contextError ("active_object has no trusted policy: " ++ active))
  let scope := retainedScope envelope
  require (scope = snapshot.retainedScopeRefs)
    (contextError ("retained scope does not match trusted snapshot missing=" ++
      reprList (sortedTexts (snapshot.retainedScopeRefs \ scope)) ++ " extra=" ++
      reprList (sortedTexts (scope \ snapshot.retainedScopeRefs))))
  let _ ← checkEach
    (fun _ plane ↦ require (some (truthOwner envelope plane) = snapshot.truthOwners.lookup plane)
      (contextError ("truth owner mismatch for " ++ plane))) 0 truthPlanes
  let missingFunctions := policy.requiredFunctions \ requiredFunctions envelope
  require (missingFunctions = ∅)
    (contextError ("envelope omitted canonically required functions: " ++
      reprList (sortedTexts missingFunctions)))
  let missingUpstream := policy.upstream \ dependencySide envelope "upstream"
  require (missingUpstream = ∅)
    (contextError ("envelope omitted required upstream dependencies: " ++
      reprList (sortedTexts missingUpstream)))
  let missingDownstream := policy.downstream \ dependencySide envelope "downstream"
  require (missingDownstream = ∅)
    (contextError ("envelope omitted required downstream dependencies: " ++
      reprList (sortedTexts missingDownstream)))
  let outcome := intentOutcome envelope
  require (outcome ∈ policy.allowedOutcomeClasses)
    (contextError ("outcome class " ++ outcome ++ " is not allowed for active_object " ++ active))
  let className := envelopeActionClass envelope
  let profile ← orRaise
    ((ActionClass.ofName className).bind fun c ↦ policy.authorityByActionClass.lookup c)
    (contextError ("action class " ++ className ++ " has no trusted authority for active_object " ++
      active))
  require (requiresHuman envelope = .bool profile.requiresHuman)
    (contextError ("human approval requirement mismatch for action class " ++ className))
  let sourceRef := authoritySourceRef envelope
  require (sourceRef ∈ profile.sourceRefs)
    (contextError ("authority source is not trusted for action class " ++ className ++ ": " ++
      sourceRef))
  return snapshot

/-- An envelope of an action class satisfies the policy a snapshot holds for its active object,
under the authority profile of that class. -/
structure EnvelopeSatisfies (envelope : Json) (snapshot : TrustedContextSnapshot)
    (actionClass : ActionClass) (policy : Policy) (profile : AuthorityProfile) : Prop where
  /-- The policy is the snapshot's for the active object. -/
  policy_eq : snapshot.policies.lookup (activeObject envelope) = some policy
  /-- The scope is exactly the snapshot's. -/
  scope : retainedScope envelope = snapshot.retainedScopeRefs
  /-- Every plane has the snapshot's owner. -/
  owners : ∀ plane ∈ truthPlanes,
    snapshot.truthOwners.lookup plane = some (truthOwner envelope plane)
  /-- Every required function is listed. -/
  functions : policy.requiredFunctions ⊆ requiredFunctions envelope
  /-- Every required upstream dependency is named. -/
  upstream : policy.upstream ⊆ dependencySide envelope "upstream"
  /-- Every required downstream dependency is named. -/
  downstream : policy.downstream ⊆ dependencySide envelope "downstream"
  /-- The outcome class is allowed. -/
  outcome : intentOutcome envelope ∈ policy.allowedOutcomeClasses
  /-- The envelope claims the authority of this class. -/
  class_eq : envelopeActionClass envelope = actionClass.name
  /-- The profile is the policy's for the class. -/
  profile_eq : policy.authorityByActionClass.lookup actionClass = some profile
  /-- The envelope asks for a human exactly when the profile does. -/
  human : requiresHuman envelope = .bool profile.requiresHuman
  /-- The authority comes from a trusted source. -/
  source : authoritySourceRef envelope ∈ profile.sourceRefs

/-- What the cross-check establishes: the snapshot has not expired and the envelope satisfies its
policy. -/
theorem envelopeSatisfies_of_crosscheck {envelope : Json} {snapshot : TrustedContextSnapshot}
    {now : ℤ} {result : TrustedContextSnapshot} {actionClass : ActionClass}
    (h : crosscheckExecutionEnvelope envelope snapshot now = .ok result)
    (hclass : envelopeActionClass envelope = actionClass.name) :
    now ≤ snapshot.expiresAt ∧
      ∃ policy profile, EnvelopeSatisfies envelope snapshot actionClass policy profile := by
  simp only [crosscheckExecutionEnvelope, bind_eq_ok, require_eq_ok, pure_eq_ok, orRaise_eq_ok,
    exists_const, Finset.sdiff_eq_empty_iff_subset] at h
  obtain ⟨-, -, hnow, policy, hpolicy, hscope, results, howners, hfunctions, hupstream,
    hdownstream, houtcome, profile, hprofile, hhuman, hsource, -⟩ := h
  rw [hclass, ActionClass.ofName_name, Option.bind_some] at hprofile
  have hplanes := fun plane hplane ↦ (checkEach_require howners plane hplane).symm
  exact ⟨hnow, policy, profile, hpolicy, hscope, hplanes, hfunctions, hupstream, hdownstream, houtcome,
    hclass, hprofile, hhuman, hsource⟩

/-- The cross-check depends on the time only through the expiry of the snapshot. -/
theorem crosscheckExecutionEnvelope_of_le {envelope : Json} {snapshot : TrustedContextSnapshot}
    {now later : ℤ} {result : TrustedContextSnapshot}
    (h : crosscheckExecutionEnvelope envelope snapshot now = .ok result)
    (hlater : later ≤ snapshot.expiresAt) :
    crosscheckExecutionEnvelope envelope snapshot later = .ok result := by
  simp only [crosscheckExecutionEnvelope, bind_eq_ok, require_eq_ok, exists_const] at h ⊢
  obtain ⟨u, hvalid, -, hrest⟩ := h
  exact ⟨u, hvalid, hlater, hrest⟩

/-! ### Approvals in a snapshot -/

/-- Raise unless a snapshot holds an approval of an intent from a source. -/
def requireTrustedApproval (snapshot : TrustedContextSnapshot)
    (approvalId intentFingerprint sourceRef : String) : Checked ApprovalRecord := do
  let approvalId ← contextText (.str approvalId) "approval.approval_id"
  let intentFingerprint ← contextText (.str intentFingerprint) "approval.intent_fingerprint"
  let sourceRef ← contextText (.str sourceRef) "approval.source_ref"
  let trusted ← orRaise (snapshot.approvals.lookup approvalId.val)
    (contextError ("approval is not present in trusted context: " ++ approvalId.val))
  require (trusted.intentFingerprint = intentFingerprint.val)
    (contextError ("trusted approval intent mismatch: " ++ approvalId.val))
  require (trusted.sourceRef = sourceRef.val)
    (contextError ("trusted approval source mismatch: " ++ approvalId.val))
  return trusted

/-- A required approval is one of the snapshot's, for the intent and from the source asked for. -/
theorem lookup_of_requireTrustedApproval {snapshot : TrustedContextSnapshot}
    {approvalId intentFingerprint sourceRef : Text} {record : ApprovalRecord}
    (h : requireTrustedApproval snapshot approvalId.val intentFingerprint.val sourceRef.val =
      .ok record) :
    snapshot.approvals.lookup approvalId.val = some ⟨intentFingerprint.val, sourceRef.val⟩ := by
  simp only [requireTrustedApproval, contextText, Text.ofString_val, orRaise, bind_eq_ok,
    Except.ok.injEq, exists_eq_left', require_eq_ok, exists_const, pure_eq_ok] at h
  obtain ⟨trusted, hlookup, hintent, hsource, rfl⟩ := h
  obtain ⟨intent, source⟩ := trusted
  simp only at hintent hsource
  rw [hintent, hsource] at hlookup
  split at hlookup
  · next found hfound =>
    cases hlookup
    exact hfound
  · cases hlookup

end N0te.Governance
