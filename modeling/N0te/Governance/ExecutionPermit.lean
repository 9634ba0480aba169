import N0te.Governance.Authority
import N0te.Library.Base64

/-!
# One-time execution permits

`issue` builds and signs a permit for one envelope, snapshot and intent; `checkPermit` is what
`consume` verifies before it touches the ledger, and `ledgerConsume` is the ledger transaction that
uses the permit up. `consume` is the two in order.

`issue_eq_ok` says what an issued permit was checked for and what its token signs.
`matches_of_checkPermit` is the meeting point: a token whose signature verifies over bytes that some
permit was issued with stands for that permit, and the presented envelope, snapshot and intent are
the issued ones up to the order of object fields.

Scope. `consume` is used here on payloads the authority signed: the version test compares an
integer and the expiry is read as one, where the source would also accept other encodings of the
same number.
-/

set_option autoImplicit false
set_option relaxedAutoImplicit false

namespace N0te.Governance

open Library

/-- An `ExecutionPermitError`. -/
def permitError (message : String) : Raised ErrorClass := ⟨.executionPermitError, message⟩

/-! ### Records -/

/-- What the caller of `issue` receives. -/
structure IssuedExecutionPermit where
  token : String
  permitId : String
  issuedAt : ℤ
  /-- The last second it is accepted. -/
  expiresAt : ℤ
  envelopeFingerprint : String
  contextSnapshotFingerprint : String
  actionIntentFingerprint : String
  actionClass : String

/-- What `consume` returns, and the row the ledger keeps. -/
structure ConsumedExecutionPermit where
  permitId : String
  /-- When it was consumed, in seconds. -/
  consumedAt : ℤ
  envelopeFingerprint : String
  actionIntentFingerprint : String
  deriving DecidableEq

/-! ### The ledger -/

/-- What the database does to a consume transaction: nothing, an error before the commit, or an
error although the commit is durable. -/
inductive LedgerFault where
  | none
  | beforeCommit
  | afterCommit
  deriving DecidableEq

/-- `SQLitePermitLedger.consume`: one transaction that fails when the id is already there. -/
def ledgerConsume (rows : List ConsumedExecutionPermit) (row : ConsumedExecutionPermit)
    (fault : LedgerFault) : Checked Unit × List ConsumedExecutionPermit :=
  if row.permitId ∈ rows.map ConsumedExecutionPermit.permitId then
    (.error (permitError "execution permit has already been consumed"), rows)
  else match fault with
    | .none => (.ok (), rows ++ [row])
    | .beforeCommit => (.error (permitError "permit ledger failed closed"), rows)
    | .afterCommit => (.error (permitError "permit ledger failed closed"), rows ++ [row])

section Ledger

variable {rows : List ConsumedExecutionPermit} {row : ConsumedExecutionPermit}
  {fault : LedgerFault}

/-- Whatever happens, the ledger only grows. -/
theorem ledgerConsume_initial : rows <+: (ledgerConsume rows row fault).2 := by
  unfold ledgerConsume
  split_ifs
  · exact List.prefix_rfl
  · cases fault
    · exact List.prefix_append rows [row]
    · exact List.prefix_rfl
    · exact List.prefix_append rows [row]

/-- A successful consume found the id unused and recorded it. -/
theorem ledgerConsume_ok (h : (ledgerConsume rows row fault).1 = .ok ()) :
    row.permitId ∉ rows.map ConsumedExecutionPermit.permitId ∧
      (ledgerConsume rows row fault).2 = rows ++ [row] := by
  unfold ledgerConsume at h ⊢
  split_ifs at h ⊢ with hused
  cases fault
  · exact ⟨hused, rfl⟩
  · cases h
  · cases h

/-- The ids of the ledger stay distinct. -/
theorem ledgerConsume_nodup (hnodup : (rows.map ConsumedExecutionPermit.permitId).Nodup) :
    ((ledgerConsume rows row fault).2.map ConsumedExecutionPermit.permitId).Nodup := by
  have hgrown : row.permitId ∉ rows.map ConsumedExecutionPermit.permitId →
      ((rows ++ [row]).map ConsumedExecutionPermit.permitId).Nodup := by
    intro hnew
    rw [List.map_append, List.map_singleton, List.nodup_append]
    refine ⟨hnodup, List.nodup_singleton _, fun a ha b hb ↦ ?_⟩
    rintro rfl
    exact hnew (List.mem_singleton.mp hb ▸ ha)
  unfold ledgerConsume
  split_ifs with hused
  · exact hnodup
  · cases fault
    · exact hgrown hused
    · exact hnodup
    · exact hgrown hused

end Ledger

/-! ### Tokens -/

def permitPayload (permitId : String) (issuedAt expiresAt : ℤ) (envelopeFingerprint
    contextSnapshotFingerprint actionIntentFingerprint actionClass authoritySourceRef : String) :
    Json := .obj [
  ("version", .int 1),
  ("permit_id", .str permitId),
  ("issued_at", .int issuedAt),
  ("expires_at", .int expiresAt),
  ("envelope_fingerprint", .str envelopeFingerprint),
  ("context_snapshot_fingerprint", .str contextSnapshotFingerprint),
  ("action_intent_fingerprint", .str actionIntentFingerprint),
  ("action_class", .str actionClass),
  ("authority_source_ref", .str authoritySourceRef)]

variable (rt : Runtime)

def payloadBytes (payload : Json) : List UInt8 := encodeUtf8 payload.dumps

def signToken (payload : Json) : String :=
  Base64.encode (payloadBytes payload) ++ "." ++ Base64.encode (rt.hmac (payloadBytes payload))

/-- The bytes and the signature a token carries. -/
def splitToken (token : String) : Checked (List UInt8 × List UInt8) :=
  let malformed := permitError "malformed execution permit encoding"
  match token.toList.splitOn '.' with
  | [payloadPart, signaturePart] => do
    let payload ← orRaise (Base64.decode (String.ofList payloadPart)) malformed
    let signature ← orRaise (Base64.decode (String.ofList signaturePart)) malformed
    return (payload, signature)
  | _ => .error (permitError "malformed execution permit")

/-- The payload of a token whose signature verifies. -/
def decodeToken (token : String) : Checked Json := do
  let (bytes, signature) ← splitToken token
  require (signature = rt.hmac bytes)
    (permitError "execution permit signature is invalid")
  let payload ← orRaise (rt.loads bytes) (permitError "execution permit payload is invalid")
  require (payload.isObj = true) ⟨.attributeError, "payload has no attribute 'get'"⟩
  require (payload.get "version" = .int 1) (permitError "unsupported execution permit version")
  return payload

theorem loads_payloadBytes (hsound : rt.Sound) (payload : Json) :
    rt.loads (payloadBytes payload) = some payload.canonical := hsound.loads_dumps payload

/-- Splitting a signed token gives the payload and the signature it was built from. -/
theorem splitToken_signToken (payload : Json) : splitToken (signToken rt payload) =
    .ok (payloadBytes payload, rt.hmac (payloadBytes payload)) := by
  have hdot : ∀ bytes : List UInt8, '.' ∉ (Base64.encode bytes).toList :=
    fun bytes hmem ↦ absurd (Base64.mem_alphabet_of_mem_encode bytes _ hmem) (by decide)
  have hparts : (signToken rt payload).toList.splitOn '.' =
      [(Base64.encode (payloadBytes payload)).toList,
        (Base64.encode (rt.hmac (payloadBytes payload))).toList] := by
    have hcons : (signToken rt payload).toList = (Base64.encode (payloadBytes payload)).toList ++
        '.' :: (Base64.encode (rt.hmac (payloadBytes payload))).toList := by
      rw [signToken, String.toList_append, String.toList_append, List.append_assoc]
      rfl
    rw [hcons, List.splitOn_append_cons_self, List.splitOn_eq_singleton (hdot _),
      List.splitOn_eq_singleton (hdot _), List.singleton_append]
  simp only [splitToken, hparts, String.ofList_toList, Base64.decode_encode, orRaise]
  rfl

/-! ### Issue -/

/-- The action class of the envelope is the one of the intent. -/
def validateActionBinding (envelope : Json) (action : ActionIntent) : Checked Unit :=
  require (envelopeActionClass envelope = action.actionClass.name)
    (permitError ("action class mismatch envelope=" ++ envelopeActionClass envelope ++
      " action=" ++ action.actionClass.name))

/-- A human-required action needs an approval of exactly this intent, present in the snapshot. -/
def validateRequiredHumanApproval (envelope : Json) (action : ActionIntent)
    (approval : Option ApprovalBinding) (snapshot : TrustedContextSnapshot) : Checked Unit :=
  if requiresHuman envelope ≠ .bool true then .ok ()
  else match approval with
    | none => .error (permitError "human-required action lacks exact approval binding")
    | some approval => do
      require (validateApproval rt action approval = .valid)
        (permitError "human approval is stale for the current action intent")
      match requireTrustedApproval snapshot approval.approvalId.val
        approval.intentFingerprint.val approval.sourceRef.val with
      | .ok _ => .ok ()
      | .error e => .error (permitError e.text)

/-- What the clocks and the id generator answer during one `issue`. -/
structure IssueReadings where
  /-- The clock of the cross-check, in microseconds. -/
  contextNow : ℤ
  /-- The clock of the authority, in seconds. -/
  now : ℤ
  /-- The hexadecimal digits of the fresh id. -/
  hex : String
  /-- They hold no whitespace. -/
  unspaced : hex.toList.all (fun c ↦ !isSpace c) = true

/-- The arguments of one `issue`, with what it read. -/
structure IssueRequest where
  envelope : Json
  action : ActionIntent
  snapshot : ValidatedSnapshot rt
  approval : Option ApprovalBinding
  /-- How long the permit lasts. -/
  ttlSeconds : ℤ
  /-- What the clocks and the id generator answered. -/
  readings : IssueReadings

namespace IssueRequest

variable {rt} (request : IssueRequest rt)

def permitId : String := "permit_" ++ request.readings.hex

/-- The last second the permit is accepted. -/
def expiresAt : ℤ := request.readings.now + request.ttlSeconds

/-- The payload `issue` signs. -/
def payload : Json :=
  permitPayload request.permitId request.readings.now request.expiresAt
    (fingerprint rt request.envelope) request.snapshot.snapshot.fingerprint
    (request.action.intentFingerprint rt) request.action.actionClass.name
    (authoritySourceRef request.envelope)

end IssueRequest

/-- `ExecutionPermitAuthority.issue`. -/
def issue (request : IssueRequest rt) : Checked IssuedExecutionPermit := do
  require (1 ≤ request.ttlSeconds ∧ request.ttlSeconds ≤ 900)
    (permitError "ttl_seconds must be between 1 and 900")
  let gate ← requireExecutionPermit rt request.envelope
  let _ ← crosscheckExecutionEnvelope request.envelope request.snapshot.snapshot
    request.readings.contextNow
  validateActionBinding request.envelope request.action
  require (request.action.actionClass ≠ .readOnly)
    (permitError "read-only actions do not require stateful execution permits")
  validateRequiredHumanApproval rt request.envelope request.action request.approval
    request.snapshot.snapshot
  let payload := permitPayload request.permitId request.readings.now request.expiresAt gate
    request.snapshot.snapshot.fingerprint (request.action.intentFingerprint rt)
    request.action.actionClass.name (authoritySourceRef request.envelope)
  return ⟨signToken rt payload, request.permitId, request.readings.now, request.expiresAt, gate,
    request.snapshot.snapshot.fingerprint, request.action.intentFingerprint rt,
    request.action.actionClass.name⟩

/-- A snapshot holds an approval of an intent: under the id of the binding, the fingerprint of the
intent and the source of the binding. -/
def HoldsApproval (snapshot : TrustedContextSnapshot) (action : ActionIntent)
    (approval : ApprovalBinding) : Prop :=
  snapshot.approvals.lookup approval.approvalId.val =
    some ⟨action.intentFingerprint rt, approval.sourceRef.val⟩

variable {rt}

/-- A request that needs a human came with an approval its snapshot holds. -/
def IssueRequest.Approved (request : IssueRequest rt) : Prop :=
  requiresHuman request.envelope = .bool true → ∃ approval, request.approval = some approval ∧
    HoldsApproval rt request.snapshot.snapshot request.action approval

/-- What `issue` checked, and that its token signs the payload of the request. -/
theorem issue_eq_ok {request : IssueRequest rt} {permit : IssuedExecutionPermit}
    (h : issue rt request = .ok permit) :
    permit.token = signToken rt request.payload ∧ request.action.actionClass ≠ .readOnly ∧
      request.Approved := by
  simp only [issue, bind_eq_ok, require_eq_ok, pure_eq_ok, exists_const] at h
  obtain ⟨-, gate, hgate, checked, -, _, -, hclass, _, happroval, hpermit⟩ := h
  obtain ⟨-, -, rfl⟩ := requireExecutionPermit_eq_ok.mp hgate
  refine ⟨by rw [← hpermit]; rfl, hclass, fun hhuman ↦ ?_⟩
  unfold validateRequiredHumanApproval at happroval
  rw [if_neg (not_not_intro hhuman)] at happroval
  cases hgiven : request.approval with
  | none =>
    rw [hgiven] at happroval
    cases happroval
  | some approval =>
    rw [hgiven] at happroval
    simp only [bind_eq_ok, require_eq_ok, exists_const] at happroval
    obtain ⟨hvalid, htrusted⟩ := happroval
    split at htrusted
    · next record hrecord =>
      have hlookup := lookup_of_requireTrustedApproval hrecord
      rw [← validateApproval_eq_valid.mp hvalid] at hlookup
      exact ⟨approval, rfl, hlookup⟩
    · cases htrusted

/-! ### Consume -/

variable (rt)

/-- What the payload of a permit must hold for what is presented. -/
def expectedFields (gate : String) (envelope : Json) (action : ActionIntent)
    (snapshot : TrustedContextSnapshot) : List (String × String) := [
  ("envelope_fingerprint", gate),
  ("context_snapshot_fingerprint", snapshot.fingerprint),
  ("action_intent_fingerprint", action.intentFingerprint rt),
  ("action_class", action.actionClass.name),
  ("authority_source_ref", authoritySourceRef envelope)]

/-- `int(payload["expires_at"])`. -/
def permitExpiry (payload : Json) : Checked ℤ :=
  match payload.get? "expires_at" with
  | some (.int n) => .ok n
  | some _ => .error ⟨.typeError, "expires_at"⟩
  | none => .error ⟨.keyError, "'expires_at'"⟩

/-- What `consume` verifies before the ledger transaction: the row it will record. -/
def checkPermit (token : String) (envelope : Json) (action : ActionIntent)
    (snapshot : TrustedContextSnapshot) (contextNow now : ℤ) :
    Checked ConsumedExecutionPermit := do
  let gate ← requireExecutionPermit rt envelope
  let _ ← crosscheckExecutionEnvelope envelope snapshot contextNow
  validateActionBinding envelope action
  let payload ← decodeToken rt token
  let expiresAt ← permitExpiry payload
  require (now ≤ expiresAt) (permitError "execution permit has expired")
  let _ ← checkEach
    (fun _ field ↦ require (payload.get field.1 = .str field.2)
      (permitError ("execution permit no longer matches " ++ field.1))) 0
    (expectedFields rt gate envelope action snapshot)
  let permitId := stripped ((payload.get? "permit_id").getD (.str ""))
  require (permitId ≠ "") (permitError "execution permit has no permit_id")
  return ⟨permitId, now, gate, action.intentFingerprint rt⟩

/-- `ExecutionPermitAuthority.consume` on a ledger. -/
def consume (rows : List ConsumedExecutionPermit) (token : String) (envelope : Json)
    (action : ActionIntent) (snapshot : TrustedContextSnapshot) (contextNow now : ℤ)
    (fault : LedgerFault) : Checked ConsumedExecutionPermit × List ConsumedExecutionPermit :=
  match checkPermit rt token envelope action snapshot contextNow now with
  | .error e => (.error e, rows)
  | .ok row => ((fun _ ↦ row) <$> (ledgerConsume rows row fault).1, (ledgerConsume rows row fault).2)

variable {rt}

/-- Every signature that verifies on a token is over bytes some permit was signed with: the token
was not forged. -/
def Unforged (issued : List (IssueRequest rt)) (token : String) : Prop :=
  ∀ bytes signature, splitToken token = .ok (bytes, signature) →
    signature = rt.hmac bytes →
      ∃ request ∈ issued, bytes = payloadBytes request.payload

/-- A token carries the payload of a permit, with a signature that verifies. -/
def CarriedBy (request : IssueRequest rt) (token : String) : Prop :=
  splitToken token = .ok (payloadBytes request.payload, rt.hmac (payloadBytes request.payload))

/-- A permit was issued for an envelope, a snapshot and an intent. -/
structure IssuedFor (request : IssueRequest rt) (envelope : Json) (action : ActionIntent)
    (snapshot : ValidatedSnapshot rt) : Prop where
  /-- The envelope, up to the order of object fields. -/
  envelope_eq : envelope.canonical = request.envelope.canonical
  /-- The document of the snapshot, up to the order of object fields. -/
  snapshot_eq : snapshot.raw.canonical = request.snapshot.raw.canonical
  /-- The intent. -/
  action_eq : action = request.action
  source_eq : authoritySourceRef envelope = authoritySourceRef request.envelope

/-- An approval held by the snapshot a permit was issued for is held by the snapshot presented. -/
theorem IssuedFor.holdsApproval {request : IssueRequest rt} {envelope : Json}
    {action : ActionIntent} {snapshot : ValidatedSnapshot rt} {approval : ApprovalBinding}
    (hissued : IssuedFor request envelope action snapshot)
    (h : HoldsApproval rt request.snapshot.snapshot request.action approval) :
    HoldsApproval rt snapshot.snapshot action approval := by
  unfold HoldsApproval
  rw [ValidatedSnapshot.approvals_congr hissued.snapshot_eq, hissued.action_eq]
  exact h

/-- Reading a text field of the payload of a permit. -/
theorem IssueRequest.get_payload (request : IssueRequest rt) {key value : String}
    (h : request.payload.get? key = some (.str value)) :
    request.payload.canonical.get key = .str value := by
  rw [Json.get, Json.get?_canonical, h]
  rfl

/-- The id of a permit has no whitespace to strip. -/
theorem IssueRequest.strip_permitId (request : IssueRequest rt) :
    strip request.permitId = request.permitId := by
  apply strip_eq_self
  rw [IssueRequest.permitId, String.toList_append, List.all_append, request.readings.unspaced,
    Bool.and_true]
  decide

/-- A token whose signature verifies stands for a permit that was issued. -/
theorem decodeToken_of_unforged (hsound : rt.Sound) {issued : List (IssueRequest rt)}
    {token : String} {payload : Json} (hunforged : Unforged issued token)
    (h : decodeToken rt token = .ok payload) :
    ∃ request ∈ issued, CarriedBy request token ∧ payload = request.payload.canonical := by
  simp only [decodeToken, bind_eq_ok, require_eq_ok, orRaise_eq_ok, pure_eq_ok,
    exists_const] at h
  obtain ⟨⟨bytes, signature⟩, hsplit, hdigest, loaded, hloads, -, -, rfl⟩ := h
  simp only at hdigest hloads
  obtain ⟨request, hmem, hbytes⟩ := hunforged bytes signature hsplit hdigest
  rw [hdigest, hbytes] at hsplit
  rw [hbytes, loads_payloadBytes rt hsound] at hloads
  exact ⟨request, hmem, hsplit, (Option.some.inj hloads).symm⟩

/-- What a permit check establishes: the permit was issued for what is presented, has not expired,
and the row to record carries its id. -/
theorem matches_of_checkPermit (hsound : rt.Sound) {issued : List (IssueRequest rt)}
    {token : String} {envelope : Json} {action : ActionIntent} {snapshot : ValidatedSnapshot rt}
    {contextNow now : ℤ} {row : ConsumedExecutionPermit} (hunforged : Unforged issued token)
    (h : checkPermit rt token envelope action snapshot.snapshot contextNow now = .ok row) :
    ∃ request ∈ issued, CarriedBy request token ∧ IssuedFor request envelope action snapshot ∧
      row.permitId = request.permitId ∧ now ≤ request.expiresAt := by
  simp only [checkPermit, bind_eq_ok, require_eq_ok, pure_eq_ok, exists_const] at h
  obtain ⟨gate, hgate, -, -, -, -, payload, hpayload, expires, hexpires, hnow, results, hfields, -,
    rfl⟩ := h
  obtain ⟨-, -, rfl⟩ := requireExecutionPermit_eq_ok.mp hgate
  obtain ⟨request, hmem, hcarried, rfl⟩ := decodeToken_of_unforged hsound hunforged hpayload
  have hexpected := checkEach_require hfields
  have hmatch (key : String) {current value : String}
      (hkey : (key, current) ∈ expectedFields rt (fingerprint rt envelope) envelope action
        snapshot.snapshot)
      (hread : request.payload.get? key = some (.str value)) : current = value := by
    have hget := hexpected (key, current) hkey
    rw [request.get_payload hread] at hget
    exact (Json.str.inj hget).symm
  have henvelope : fingerprint rt envelope = fingerprint rt request.envelope :=
    hmatch "envelope_fingerprint" (by simp [expectedFields]) rfl
  have hsnapshot : snapshot.snapshot.fingerprint = request.snapshot.snapshot.fingerprint :=
    hmatch "context_snapshot_fingerprint" (by simp [expectedFields]) rfl
  have haction : action.intentFingerprint rt = request.action.intentFingerprint rt :=
    hmatch "action_intent_fingerprint" (by simp [expectedFields]) rfl
  have hsource : authoritySourceRef envelope = authoritySourceRef request.envelope :=
    hmatch "authority_source_ref" (by simp [expectedFields]) rfl
  rw [snapshot.fingerprint_eq, request.snapshot.fingerprint_eq] at hsnapshot
  refine ⟨request, hmem, hcarried, ⟨hsound.fingerprint_inj.mp henvelope,
    hsound.fingerprint_inj.mp hsnapshot, (ActionIntent.intentFingerprint_inj hsound).mp haction, hsource⟩, ?_, ?_⟩
  · have hid : request.payload.canonical.get? "permit_id" = some (.str request.permitId) := by
      rw [Json.get?_canonical]
      rfl
    simp only [hid, Option.getD_some, stripped, Json.pyStr]
    exact request.strip_permitId
  · have hread : request.payload.canonical.get? "expires_at" = some (.int request.expiresAt) := by
      rw [Json.get?_canonical]
      rfl
    rw [permitExpiry, hread] at hexpires
    cases hexpires
    exact hnow

/-- A permit check repeats the cross-check: the snapshot has not expired and the envelope satisfies
its policy under the action class of the intent. -/
theorem envelopeSatisfies_of_checkPermit {token : String} {envelope : Json}
    {action : ActionIntent} {snapshot : TrustedContextSnapshot} {contextNow now : ℤ}
    {row : ConsumedExecutionPermit}
    (h : checkPermit rt token envelope action snapshot contextNow now = .ok row) :
    contextNow ≤ snapshot.expiresAt ∧ ∃ policy profile,
      EnvelopeSatisfies envelope snapshot action.actionClass policy profile := by
  simp only [checkPermit, validateActionBinding, bind_eq_ok, require_eq_ok, exists_const] at h
  obtain ⟨gate, -, checked, hcheck, hclass, -⟩ := h
  exact envelopeSatisfies_of_crosscheck hcheck hclass

/-- An issued permit is accepted: presented with what it was issued for, before it and its snapshot
expire, it passes every check of `consume`. Assumes: documents read back, `hsound`. -/
theorem checkPermit_of_issue (hsound : rt.Sound) {request : IssueRequest rt}
    {permit : IssuedExecutionPermit} {contextNow now : ℤ} (hissue : issue rt request = .ok permit)
    (hcontext : contextNow ≤ request.snapshot.snapshot.expiresAt)
    (hnow : now ≤ request.expiresAt) :
    checkPermit rt permit.token request.envelope request.action request.snapshot.snapshot contextNow
      now = .ok ⟨request.permitId, now, fingerprint rt request.envelope,
        request.action.intentFingerprint rt⟩ := by
  have hsplit := splitToken_signToken rt request.payload
  rw [← (issue_eq_ok hissue).1] at hsplit
  simp only [issue, bind_eq_ok, require_eq_ok, exists_const] at hissue
  obtain ⟨-, gate, hgate, checked, hcheck, _, hbinding, -⟩ := hissue
  obtain ⟨-, -, rfl⟩ := requireExecutionPermit_eq_ok.mp hgate
  have hread (key : String) {value : Json} (hget : request.payload.get? key = some value) :
      request.payload.canonical.get? key = some value.canonical := by
    rw [Json.get?_canonical, hget]
    rfl
  have hdecode : decodeToken rt permit.token = .ok request.payload.canonical := by
    have hversion : request.payload.canonical.get "version" = .int 1 := by
      rw [Json.get_canonical]
      rfl
    simp only [decodeToken, hsplit, bind_eq_ok, Except.ok.injEq, exists_eq_left', require_eq_ok,
      payloadBytes, hsound.loads_dumps, orRaise, Json.isObj_canonical, hversion,
      pure_eq_ok, exists_const, and_true]
    exact ⟨trivial, rfl⟩
  have hid : request.payload.canonical.get? "permit_id" = some (.str request.permitId) :=
    hread "permit_id" rfl
  have hstripped : stripped ((request.payload.canonical.get? "permit_id").getD (.str "")) =
      request.permitId := by
    rw [hid]
    exact request.strip_permitId
  have hnonempty : request.permitId ≠ "" := by
    intro hempty
    have hlength := congrArg String.length hempty
    rw [IssueRequest.permitId, String.length_append] at hlength
    simp at hlength
  have hexpires : permitExpiry request.payload.canonical = .ok request.expiresAt := by
    rw [permitExpiry, hread "expires_at" rfl]
    rfl
  have hfields : ∀ field ∈ expectedFields rt (fingerprint rt request.envelope) request.envelope
      request.action request.snapshot.snapshot,
      request.payload.canonical.get field.1 = .str field.2 := by
    simp only [expectedFields, List.forall_mem_cons, List.not_mem_nil, false_implies,
      implies_true, and_true]
    exact ⟨request.get_payload rfl, request.get_payload rfl, request.get_payload rfl,
      request.get_payload rfl, request.get_payload rfl⟩
  obtain ⟨results, hresults⟩ := exists_checkEach_require hfields
  simp only [checkPermit, bind_eq_ok, require_eq_ok, pure_eq_ok]
  exact ⟨_, hgate, _, crosscheckExecutionEnvelope_of_le hcheck hcontext, _, hbinding, _, hdecode, _,
    hexpires, (), hnow, results, hresults, (), hstripped ▸ hnonempty, by rw [hstripped]⟩

end N0te.Governance
