import N0te.Capabilities.CurrentAccess
import N0te.Evidence.Revisions
import N0te.Library.JsonShape

/-!
# Recording what an artist has access to

`recordFact` appends a fact to the evidence of a profile, after checks on the facts that the new one
supersedes. It never records a fact as verified by a provider.

The claim that it appends is a fact again (`factOf_claim`), and `AccessHistory` says of a store that
every claim under the key of an access is one and that no fact was observed before one that it
supersedes. Calls that leave the key to facts about the access keep it, whatever the interleaving, and
a store with it has a snapshot of the access at every time (`snapshot_of_history`).
-/

set_option autoImplicit false
set_option relaxedAutoImplicit false

namespace N0te.Capabilities

open Library Lineage People Evidence

/-! ### The call -/

/-- The arguments of `record_fact`. -/
structure FactInput where
  routeId : String
  capability : String
  accessKind : String
  entitlementState : String
  permissionState : String
  observedAtEpochSeconds : ℤ
  expiresAtEpochSeconds : Option ℤ
  /-- A number, or `null`. -/
  quotaRemaining : Json
  quotaUnit : Option String
  environmentFingerprint : Option String
  sourceKind : String
  sourceRef : Option String
  confidence : ℚ
  supersedes : List String

/-- What `record_fact` passes to `evidence_payload`. -/
def FactInput.fields (input : FactInput) : Json :=
  .obj [("route_id", .str input.routeId), ("capability", .str input.capability),
    ("access_kind", .str input.accessKind), ("entitlement_state", .str input.entitlementState),
    ("permission_state", .str input.permissionState),
    ("observed_at_epoch_seconds", .int input.observedAtEpochSeconds),
    ("expires_at_epoch_seconds", (input.expiresAtEpochSeconds.map Json.int).getD .null),
    ("quota_remaining", input.quotaRemaining), ("quota_unit", Json.ofOption input.quotaUnit),
    ("environment_fingerprint", Json.ofOption input.environmentFingerprint)]

/-- A fact that may be recorded. -/
structure NewFact where
  source : Evidence.SourceKind
  sourceRef : Option Text
  payload : EntitlementPayload
  /-- No provider is spoken for. -/
  unverified : source ≠ .providerVerified
  provenance : source = .userDeclared ∨ sourceRef.isSome = true

section

variable (rt : AccessRuntime) (profile : Profile)

/-- The checks of `record_fact` that read nothing. -/
def normalizeFact (input : FactInput) : AccessChecked NewFact := do
  let source ← truthEnum Evidence.SourceKind.ofName (.str input.sourceKind) "source_kind"
  let hunverified ← ensure (source ≠ .providerVerified)
    (truthError "EntitlementTruthService cannot self-mint PROVIDER_VERIFIED evidence")
  let sourceRef ← optionalTruthText (Json.ofOption input.sourceRef) "source_ref"
  let hprovenance ← ensure (source = .userDeclared ∨ sourceRef.isSome = true)
    (truthError "non-declared entitlement evidence requires source_ref provenance")
  let payload ← evidencePayload rt input.fields
  .ok ⟨source, sourceRef, payload, hunverified.down, hprovenance.down⟩

/-- A call on the evidence that may raise what the service raises. -/
abbrev AccessCall (α : Type) := Call EvidenceDb (Raised AccessErrorClass) α

/-- The checks of `record_fact` on the facts that the new one supersedes. -/
def checkOldFacts (payload : EntitlementPayload) : List String → AccessCall Unit
  | [] => pure ⟨⟩
  | oldId :: rest => do
    let old ← .select fun db ↦ db.getClaim oldId
    let old ← .fromExcept (orRaise old
      ⟨.lineage .notFoundError, s!"evidence claim not found: {oldId}"⟩)
    let oldFact ← .ask fun db ↦
      factFromClaim rt profile db payload.routeId payload.capability payload.accessKind old
    .fromExcept (require
      (oldFact.payload.observedAtEpochSeconds ≤ payload.observedAtEpochSeconds)
      (truthError "entitlement observation time cannot regress when superseding evidence"))
    checkOldFacts payload rest

/-- What `record_fact` passes to `record_claim`. -/
def NewFact.input (fact : NewFact) (confidence : ℚ) (oldIds : List String) : ClaimInput where
  scopeKind := "PROFILE"
  scopeId := profile.profileId
  key := claimKey rt fact.payload.routeId fact.payload.capability fact.payload.accessKind
  value := fact.payload.json
  sourceKind := fact.source.name
  sourceRef := fact.sourceRef.map Text.val
  confidence := confidence
  twinDomain := "TECHNICAL"
  supersedes := oldIds

/-- An exception of the evidence that the service passes on. -/
def evidenceRaise : Raised AccessErrorClass → Option (Raised LineageErrorClass)
  | ⟨.lineage cls, text⟩ => some ⟨cls, text⟩
  | _ => none

/-- What the service makes of it. -/
def ofEvidenceRaise (e : Raised LineageErrorClass) : Raised AccessErrorClass :=
  ⟨.lineage e.cls, e.text⟩

/-- A call on the evidence, as part of one on the service. -/
def ofEvidenceCall {α : Type} (call : EvidenceCall EvidenceDb α) : AccessCall α :=
  call.mapError ofEvidenceRaise evidenceRaise

/-- `record_fact`. -/
def recordFact (uuid : Uuid) (input : FactInput) : AccessCall EntitlementFact := do
  let fact ← .fromExcept (normalizeFact rt input)
  let oldIds := input.supersedes.eraseDups
  checkOldFacts rt profile fact.payload oldIds
  .fromExcept (require (0 ≤ input.confidence ∧ input.confidence ≤ 1)
    (truthError "confidence must be between 0 and 1"))
  let claim ← ofEvidenceCall
    (recordClaim profile plainHost uuid (fact.input rt profile input.confidence oldIds))
  .ask fun db ↦ factFromClaim rt profile db fact.payload.routeId fact.payload.capability
    fact.payload.accessKind claim

/-- The claim that `record_claim` makes of a fact. -/
def NewFact.claim (fact : NewFact) (claimId : String) (confidence : ℚ) : EvidenceClaim where
  id := claimId
  scopeKind := .profile
  scopeId := profile.profileId
  key := claimKey rt fact.payload.routeId fact.payload.capability fact.payload.accessKind
  value := fact.payload.json.canonical
  sourceKind := fact.source
  sourceRef := fact.sourceRef.map Text.val
  confidence := confidence
  twinDomain := .technical

end

/-! ### Payloads are read back -/

/-- `float` leaves a float as it is. -/
def FloatsKept (rt : AccessRuntime) : Prop := ∀ f, rt.toFloat (.float f) = some f

section

variable {rt : AccessRuntime} {payload : EntitlementPayload}

@[simp] theorem truthText_val (text : Text) (field : String) :
    truthText (.str text.val) field = .ok text :=
  orRaise_eq_ok.mpr (Text.ofString_val text)

theorem truthEnum_accessKind (kind : AccessKind) (field : String) :
    truthEnum AccessKind.ofName (.str kind.name) field = .ok kind := by
  have hname : (Text.ofString kind.name).bind (fun text ↦
      AccessKind.ofName (underscored (upper text.val))) = some kind := by
    cases kind <;> decide +kernel
  obtain ⟨text, htext, hkind⟩ := Option.bind_eq_some_iff.mp hname
  rw [truthEnum, bind_eq_ok]
  exact ⟨text, orRaise_eq_ok.mpr htext, orRaise_eq_ok.mpr hkind⟩

theorem truthEnum_accessState (state : AccessState) (field : String) :
    truthEnum AccessState.ofName (.str state.name) field = .ok state := by
  have hname : (Text.ofString state.name).bind (fun text ↦
      AccessState.ofName (underscored (upper text.val))) = some state := by
    cases state <;> decide +kernel
  obtain ⟨text, htext, hstate⟩ := Option.bind_eq_some_iff.mp hname
  rw [truthEnum, bind_eq_ok]
  exact ⟨text, orRaise_eq_ok.mpr htext, orRaise_eq_ok.mpr hstate⟩

theorem optionalTruthText_json (value : Option Text) (field : String) :
    optionalTruthText (optionalJson value) field = .ok value := by
  cases value with
  | none => rfl
  | some text => exact map_eq_ok.mpr ⟨text, truthText_val text field, rfl⟩

theorem nonnegativeInt_eq_ok {value : Json} {field : String} {n : ℤ} :
    nonnegativeInt value field = .ok n ↔ value = .int n ∧ 0 ≤ n := by
  cases value <;> simp [nonnegativeInt]
  constructor
  · rintro ⟨h, rfl⟩
    exact ⟨rfl, h⟩
  · rintro ⟨rfl, h⟩
    exact ⟨h, rfl⟩

theorem expiryAfter_json {observedAt : ℤ} {value : Json} {expiresAt : Option ℤ}
    (h : expiryAfter observedAt value = .ok expiresAt) :
    expiryAfter observedAt ((expiresAt.map Json.int).getD .null) = .ok expiresAt := by
  unfold expiryAfter at h
  split at h
  · cases h
    rfl
  · simp only [bind_eq_ok, nonnegativeInt_eq_ok, require_eq_ok, Except.ok.injEq] at h
    obtain ⟨time, ⟨-, hnonneg⟩, _, hafter, rfl⟩ := h
    simp only [expiryAfter, Option.map_some, Option.getD_some, bind_eq_ok, nonnegativeInt_eq_ok,
      require_eq_ok]
    exact ⟨time, ⟨rfl, hnonneg⟩, (), hafter, rfl⟩

theorem quotaNumber_json (hfloat : FloatsKept rt) {value : Json} {quota : Option FloatText}
    (h : quotaNumber rt value = .ok quota) :
    quotaNumber rt ((quota.map Json.float).getD .null) = .ok quota := by
  unfold quotaNumber at h
  split at h
  · cases h
    rfl
  · cases h
  · simp only [bind_eq_ok, orRaise_eq_ok, require_eq_ok, Except.ok.injEq] at h
    obtain ⟨number, -, _, hvalid, rfl⟩ := h
    simp only [quotaNumber, Option.map_some, Option.getD_some, bind_eq_ok, orRaise_eq_ok,
      require_eq_ok]
    exact ⟨number, hfloat number, (), hvalid, rfl⟩

/-- The fields of a payload in JSON. -/
theorem get_json (payload : EntitlementPayload) :
    payload.json.get "route_id" = .str payload.routeId.val ∧
    payload.json.get "capability" = .str payload.capability.val ∧
    payload.json.get "access_kind" = .str payload.accessKind.name ∧
    payload.json.get "entitlement_state" = .str payload.entitlementState.name ∧
    payload.json.get "permission_state" = .str payload.permissionState.name ∧
    payload.json.get "observed_at_epoch_seconds" = .int payload.observedAtEpochSeconds ∧
    payload.json.get "expires_at_epoch_seconds" =
      (payload.expiresAtEpochSeconds.map Json.int).getD .null ∧
    payload.json.get "quota_remaining" = (payload.quotaRemaining.map Json.float).getD .null ∧
    payload.json.get "quota_unit" = optionalJson payload.quotaUnit ∧
    payload.json.get "environment_fingerprint" = optionalJson payload.environmentFingerprint := by
  simp [EntitlementPayload.json, EntitlementPayload.stateFields, Json.get, Json.get?, List.lookup_cons]

theorem canonical_optional {α : Type} (f : α → Json) (hf : ∀ a, (f a).canonical = f a)
    (value : Option α) : ((value.map f).getD .null).canonical = (value.map f).getD .null := by
  cases value with
  | none => rfl
  | some a => exact hf a

/-- A payload that was checked is read back. -/
theorem evidencePayload_json (hfloat : FloatsKept rt) {fields : Json}
    (h : evidencePayload rt fields = .ok payload) :
    evidencePayload rt payload.json.canonical = .ok payload := by
  simp only [evidencePayload, bind_eq_ok, require_eq_ok, Except.ok.injEq] at h
  obtain ⟨route, -, capability, -, kind, -, entitlement, -, permission, -, observed, hobserved,
    expires, hexpires, quota, hquota, unit, -, _, htogether, environment, -, rfl⟩ := h
  obtain ⟨hroute, hcapability, hkind, hentitlement, hpermission, htime, hexpiry, hremaining, hunit,
    henvironment⟩ := get_json ⟨route, capability, kind, entitlement, permission, observed, expires,
      quota, unit, environment⟩
  have hints := canonical_optional Json.int fun _ ↦ rfl
  have hfloats := canonical_optional Json.float fun _ ↦ rfl
  have htexts (value : Option Text) : (optionalJson value).canonical = optionalJson value :=
    canonical_optional (fun text : Text ↦ Json.str text.val) (fun _ ↦ rfl) value
  simp only [evidencePayload, bind_eq_ok, require_eq_ok, Json.get_canonical, hroute, hcapability,
    hkind, hentitlement, hpermission, htime, hexpiry, hremaining, hunit, henvironment, hints,
    hfloats, htexts, Json.canonical_str, Json.canonical_int]
  exact ⟨route, truthText_val _ _, capability, truthText_val _ _, kind, truthEnum_accessKind _ _,
    entitlement, truthEnum_accessState _ _, permission, truthEnum_accessState _ _, observed,
    nonnegativeInt_eq_ok.mpr ⟨rfl, (nonnegativeInt_eq_ok.mp hobserved).2⟩, expires,
    expiryAfter_json hexpires, quota, quotaNumber_json hfloat hquota, unit,
    optionalTruthText_json _ _, (), htogether, environment, optionalTruthText_json _ _, rfl⟩

end

/-! ### A recorded claim is a fact -/

section

variable {rt : AccessRuntime} {profile : Profile} {db : EvidenceDb} {input : FactInput}
  {fact : NewFact} {claimId : String} {confidence : ℚ}

theorem canonical_json (payload : EntitlementPayload) :
    payload.json.canonical.canonical = payload.json.canonical := by
  refine Json.canonical_canonical_of_flat fun field hfield ↦ ?_
  have hints := canonical_optional Json.int fun _ ↦ rfl
  have hfloats := canonical_optional Json.float fun _ ↦ rfl
  have htexts (value : Option Text) : (optionalJson value).canonical = optionalJson value :=
    canonical_optional (fun text : Text ↦ Json.str text.val) (fun _ ↦ rfl) value
  simp only [EntitlementPayload.stateFields, List.cons_append, List.nil_append, List.mem_cons,
    List.not_mem_nil, or_false] at hfield
  rcases hfield with rfl | rfl | rfl | rfl | rfl | rfl | rfl | rfl | rfl | rfl | rfl
  · rfl
  · rfl
  · rfl
  · rfl
  · rfl
  · rfl
  · rfl
  · exact hints _
  · exact hfloats _
  · exact htexts _
  · exact htexts _

/-- The claim that is made of a fact is the fact. -/
theorem factOf_claim (hread : evidencePayload rt fact.payload.json.canonical = .ok fact.payload) :
    factOf rt profile db fact.payload.routeId fact.payload.capability fact.payload.accessKind
        (fact.claim rt profile claimId confidence) =
      .ok ⟨claimId, db.sequenceOf claimId, profile.profileId, fact.payload, fact.source,
        fact.sourceRef.map Text.val, confidence⟩ := by
  have hprovenance : ¬(fact.source ≠ .userDeclared ∧
      (fact.sourceRef.map Text.val = none ∨ fact.sourceRef.map Text.val = some "")) := by
    rintro ⟨hother, hmissing⟩
    obtain ⟨text, htext⟩ := Option.isSome_iff_exists.mp (fact.provenance.resolve_left hother)
    rw [htext] at hmissing
    rcases hmissing with hnone | hempty
    · cases hnone
    · exact text.nonempty (Option.some.inj hempty)
  have hkeys : fact.payload.json.keys = payloadKeys := rfl
  have hversion : fact.payload.json.get "schema_version" = .int 1 := by
    simp [EntitlementPayload.json, Json.get, Json.get?]
  have hvalue : (fact.claim rt profile claimId confidence).value = fact.payload.json.canonical := rfl
  simp only [factOf, bind_eq_ok, require_eq_ok, malformedAs_eq_ok, hvalue, Json.isObj_canonical,
    List.subset_def, Json.mem_keys_canonical, Json.get_canonical, hversion, hkeys,
    Json.dumpsAscii_inj, canonical_json]
  exact ⟨(), ⟨rfl, rfl⟩, (), rfl, (), hprovenance, (), rfl, (), ⟨id, id⟩, (), rfl, fact.payload,
    hread, (), rfl, (), rfl, (), rfl, (), rfl, (), rfl, rfl⟩

/-- What the checks of `record_fact` that read nothing establish. -/
theorem normalizeFact_spec (hfloat : FloatsKept rt) (h : normalizeFact rt input = .ok fact) :
    evidencePayload rt fact.payload.json.canonical = .ok fact.payload := by
  simp only [normalizeFact, bind_eq_ok, Except.ok.injEq] at h
  obtain ⟨source, -, -, -, sourceRef, -, -, -, payload, hpayload, rfl⟩ := h
  exact evidencePayload_json hfloat hpayload

/-- The claim that `record_claim` makes of a fact. -/
theorem claim_of_normalizeClaim (hhex : HexDigests rt) {uuid : Uuid} {oldIds : List String}
    {row : EvidenceClaim} (h : normalizeClaim profile (newId "claim" uuid)
      (fact.input rt profile confidence oldIds) = .ok row) :
    row = fact.claim rt profile (newId "claim" uuid) confidence := by
  have hkind := ScopeKind.ofName_name .profile
  have hdomain := TwinDomain.ofName_name .technical
  have hsource := SourceKind.ofName_name fact.source
  simp only [normalizeClaim, normalizeTwinDomain, canonicalValue, NewFact.input, bind_eq_ok,
    orRaise_eq_ok, Except.ok.injEq] at h
  obtain ⟨domain, hdomain', _, -, kind, hkind', _, -, source, hsource', _, -, value, ⟨_, -, rfl⟩,
    rfl⟩ := h
  obtain rfl := Option.some.inj (hdomain.symm.trans hdomain')
  obtain rfl := Option.some.inj (hkind.symm.trans hkind')
  obtain rfl := Option.some.inj (hsource.symm.trans hsource')
  rw [strip_claimKey hhex]
  rfl

end

/-! ### Histories -/

section

variable (rt : AccessRuntime) (profile : Profile) (routeId capability : Text)
  (accessKind : AccessKind)

/-- The evidence about an access: the claims under its key are facts about it, and none was observed
before one that it supersedes. -/
structure AccessHistory (db : EvidenceDb) : Prop where
  evidence : EvidenceInvariant profile db
  /-- The claims under the key. -/
  facts : ∀ claim ∈ db.claims, claim.scopeKind = .profile →
    claim.key = claimKey rt routeId capability accessKind →
      ∃ fact, factOf rt profile db routeId capability accessKind claim = .ok fact
  times : ∀ edge ∈ db.supersessions, ∀ newer older newFact oldFact,
    IsFact rt profile db routeId capability accessKind newer newFact →
    IsFact rt profile db routeId capability accessKind older oldFact →
    newer.id = edge.newClaimId → older.id = edge.oldClaimId →
      oldFact.payload.observedAtEpochSeconds ≤ newFact.payload.observedAtEpochSeconds

end

section

variable {rt : AccessRuntime} {profile : Profile} {routeId capability : Text}
  {accessKind : AccessKind} {db after : EvidenceDb} {claim : EvidenceClaim}
  {fact : EntitlementFact}

theorem accessHistory_empty : AccessHistory rt profile routeId capability accessKind .empty where
  evidence := evidenceInvariant_empty
  facts := List.forall_mem_nil _
  times := List.forall_mem_nil _

/-- A claim that is there is the same fact later. -/
theorem factOf_of_grows (hgrows : Grows db after) (hclaim : claim ∈ db.claims) :
    factOf rt profile after routeId capability accessKind claim =
      factOf rt profile db routeId capability accessKind claim := by
  rw [factOf, factOf, hgrows.sequenceOf hclaim]

/-- Every claim that a snapshot reads is a fact. -/
theorem AccessHistory.factFromClaim
    (h : AccessHistory rt profile routeId capability accessKind db) (hmem : claim ∈ db.claims)
    (hkind : claim.scopeKind = .profile)
    (hkey : claim.key = claimKey rt routeId capability accessKind) :
    ∃ fact, factFromClaim rt profile db routeId capability accessKind claim = .ok fact := by
  obtain ⟨fact, hfact⟩ := h.facts claim hmem hkind hkey
  refine ⟨fact, factFromClaim_eq_ok.mpr ⟨hfact, fun id hedge ↦ ?_⟩⟩
  obtain ⟨newer, hnewer, older, holder, hnewId, holdId, hsameKind, -, hsameKey, -⟩ :=
    h.evidence.edges _ hedge
  obtain rfl := h.evidence.eq_of_id hnewer hmem hnewId
  obtain ⟨oldFact, holdFact⟩ := h.facts older holder (hsameKind ▸ hkind) (hsameKey ▸ hkey)
  have hread : db.getClaim id = some older := by
    rw [← h.evidence.getClaim holder, holdId]
  exact ⟨older, oldFact, hread, holdFact,
    h.times _ hedge newer older fact oldFact ⟨hmem, hfact⟩ ⟨holder, holdFact⟩ hnewId holdId⟩

/-- A store with such a history has a snapshot of the access at every time. -/
theorem snapshot_of_history (hhex : HexDigests rt) (hprofile : Created "prf" profile.profileId)
    (h : AccessHistory rt profile routeId capability accessKind db) {asOf : ℤ} (htime : 0 ≤ asOf) :
    ∃ access,
      snapshot rt profile db routeId.val capability.val accessKind.name asOf = .ok access := by
  have hkey := strip_claimKey hhex routeId capability accessKind
  have hclaims : activeClaims profile .profile profile.profileId
      (claimKey rt routeId capability accessKind) db =
        .ok (db.claims.filter fun claim ↦ claim.scopeKind = .profile ∧
          claim.scopeId = profile.profileId ∧ db.Active claim.id ∧
            claim.key = strip (claimKey rt routeId capability accessKind)) := by
    simp only [activeClaims, validateScope, bind_eq_ok, require_eq_ok]
    exact ⟨(), hkey.symm ▸ claimKey_ne_empty _ _ _, (), hprofile.strip_eq (by decide), trivial⟩
  obtain ⟨access, haccess, -⟩ := exists_snapshot htime (truthText_val routeId _)
    (truthText_val capability _) (truthEnum_accessKind accessKind _) hclaims fun claim hclaim ↦ by
      rw [List.mem_filter, decide_eq_true_eq, hkey] at hclaim
      exact h.factFromClaim hclaim.1 hclaim.2.1 hclaim.2.2.2.2
  exact ⟨access, haccess⟩

/-- A commit keeps the history of an access, when a claim under its key is a fact that was not observed
before those that it supersedes. -/
theorem AccessHistory.commit {row : EvidenceClaim} {oldIds : List String}
    (h : AccessHistory rt profile routeId capability accessKind db) (hrow : NormalClaim profile row)
    (hcommitted : ClaimCommitted row oldIds db after)
    (hfact : row.scopeKind = .profile → row.key = claimKey rt routeId capability accessKind →
      ∃ fact, factOf rt profile after routeId capability accessKind row = .ok fact)
    (htimes : ∀ newFact, factOf rt profile after routeId capability accessKind row = .ok newFact →
      ∀ oldId ∈ oldIds, ∀ older oldFact,
        IsFact rt profile after routeId capability accessKind older oldFact → older.id = oldId →
          oldFact.payload.observedAtEpochSeconds ≤ newFact.payload.observedAtEpochSeconds) :
    AccessHistory rt profile routeId capability accessKind after := by
  have hevidence := h.evidence.commit hrow hcommitted
  have hgrows := hcommitted.grows
  have hrowMem : row ∈ after.claims := hcommitted.claims ▸ List.mem_append_right _ (by simp)
  refine ⟨hevidence, ?_, ?_⟩
  · rw [hcommitted.claims]
    refine List.forall_mem_append.mpr ⟨fun claim hclaim hkind hkey ↦ ?_,
      List.forall_mem_singleton.mpr hfact⟩
    rw [factOf_of_grows hgrows hclaim]
    exact h.facts claim hclaim hkind hkey
  · rw [hcommitted.supersessions]
    refine List.forall_mem_append.mpr ⟨?_, ?_⟩
    · intro edge hedge newer older newFact oldFact hnewer holder hnewId holdId
      obtain ⟨first, hfirst, second, hsecond, hfirstId, hsecondId, -⟩ := h.evidence.edges edge hedge
      obtain rfl := hevidence.eq_of_id (hgrows.mem hfirst) hnewer.mem (hfirstId.trans hnewId.symm)
      obtain rfl := hevidence.eq_of_id (hgrows.mem hsecond) holder.mem (hsecondId.trans holdId.symm)
      exact h.times edge hedge first second newFact oldFact
        ⟨hfirst, (factOf_of_grows hgrows hfirst).symm.trans hnewer.eq⟩
        ⟨hsecond, (factOf_of_grows hgrows hsecond).symm.trans holder.eq⟩ hfirstId hsecondId
    · intro edge hedge newer older newFact oldFact hnewer holder hnewId holdId
      obtain ⟨oldId, hold, rfl⟩ := List.mem_map.mp hedge
      obtain rfl := hevidence.eq_of_id hrowMem hnewer.mem hnewId.symm
      exact htimes newFact hnewer.eq oldId hold older oldFact holder holdId

/-! ### What the call keeps -/

/-- A transaction of a call on the evidence appends a claim. -/
def Appends (db after : EvidenceDb) : Prop := ∃ row oldIds, ClaimCommitted row oldIds db after

theorem grows_of_appends (h : Relation.ReflTransGen Appends db after) : Grows db after :=
  grows_of_commits (fun _ _ ⟨_, _, hcommitted⟩ ↦ hcommitted.grows) h

/-- A claim is a fact about the access of a payload that was not observed after it. -/
def OldFact (rt : AccessRuntime) (profile : Profile) (payload : EntitlementPayload)
    (db : EvidenceDb) (oldId : String) : Prop :=
  ∃ old oldFact, db.getClaim oldId = some old ∧
    factOf rt profile db payload.routeId payload.capability payload.accessKind old = .ok oldFact ∧
      oldFact.payload.observedAtEpochSeconds ≤ payload.observedAtEpochSeconds

theorem OldFact.grows {payload : EntitlementPayload} {oldId : String}
    (h : OldFact rt profile payload db oldId) (hgrows : Grows db after) :
    OldFact rt profile payload after oldId := by
  obtain ⟨old, oldFact, hold, hfact, htime⟩ := h
  exact ⟨old, oldFact, hgrows.getClaim hold,
    (factOf_of_grows hgrows (mem_of_getClaim hold).1).trans hfact, htime⟩

/-- The checks of the facts that are superseded. -/
theorem keepsUnder_checkOldFacts {invariant : EvidenceDb → Prop}
    {rely : EvidenceDb → EvidenceDb → Prop} (payload : EntitlementPayload) (oldIds : List String)
    (s : EvidenceDb) :
    KeepsUnder invariant Appends rely rely (fun c r t ↦ c = false ∧ ∀ u, r = .ok u →
      Relation.ReflTransGen (Allowed Appends rely false) s t ∧
        ∀ oldId ∈ oldIds, OldFact rt profile payload t oldId) false
      (checkOldFacts rt profile payload oldIds) s := by
  induction oldIds generalizing s with
  | nil => exact keepsUnder_pure ⟨rfl, fun _ _ ↦ ⟨.refl, List.forall_mem_nil _⟩⟩
  | cons oldId rest ih =>
    refine keepsUnder_select fun t ht _ ↦ ?_
    refine keepsUnder_fromExcept (fun e _ ↦ ⟨rfl, fun _ hr ↦ by cases hr⟩) fun old hold ↦ ?_
    refine keepsUnder_ask (fun e _ ↦ ⟨rfl, fun _ hr ↦ by cases hr⟩) fun oldFact v hv _ hfact ↦ ?_
    refine keepsUnder_fromExcept (fun e _ ↦ ⟨rfl, fun _ hr ↦ by cases hr⟩) fun _ htime ↦ ?_
    have hread := (grows_of_appends (commits_of_allowed hv)).getClaim (orRaise_eq_ok.mp hold)
    have holdFact : OldFact rt profile payload v oldId :=
      ⟨old, oldFact, hread, (factFromClaim_eq_ok.mp hfact).1, require_eq_ok.mp htime⟩
    refine (ih v).mono fun c r w hpost ↦ ⟨hpost.1, fun u hu ↦ ?_⟩
    obtain ⟨hw, hrest⟩ := hpost.2 u hu
    refine ⟨(ht.trans hv).trans hw, List.forall_mem_cons.mpr ⟨?_, hrest⟩⟩
    exact holdFact.grows (grows_of_appends (commits_of_allowed hw))

/-- What a history asks of a fact that is recorded: under the key of the access it is about the
access. -/
def Respects (rt : AccessRuntime) (routeId capability : Text) (accessKind : AccessKind)
    (payload : EntitlementPayload) : Prop :=
  claimKey rt payload.routeId payload.capability payload.accessKind =
      claimKey rt routeId capability accessKind →
    payload.routeId = routeId ∧ payload.capability = capability ∧ payload.accessKind = accessKind

/-- A call that has ended did not return something that a provider verified. -/
def ReturnsUnverified {ε α : Type} (source : α → Evidence.SourceKind) (_ : Bool) (r : Except ε α)
    (_ : EvidenceDb) : Prop :=
  ∀ a, r = .ok a → source a ≠ .providerVerified

theorem returnsUnverified_error {ε α : Type} (source : α → Evidence.SourceKind) (c : Bool) (e : ε)
    (t : EvidenceDb) : ReturnsUnverified source c (.error e) t := by
  intro a h
  cases h

/-- The last read of `record_fact`. -/
theorem keepsUnder_recorded {invariant : EvidenceDb → Prop} {rely : EvidenceDb → EvidenceDb → Prop}
    (hclaim : claim.sourceKind ≠ .providerVerified) (c : Bool) (s : EvidenceDb) :
    KeepsUnder invariant Appends rely rely (ReturnsUnverified EntitlementFact.sourceKind) c
      (.ask fun db ↦ factFromClaim rt profile db routeId capability accessKind claim) s := by
  refine keepsUnder_asked fun t _ _ fact hfact ↦ ?_
  obtain ⟨-, -, -, -, hsource, -⟩ := fields_of_factOf (factFromClaim_eq_ok.mp hfact).1
  exact hsource ▸ hclaim

/-- The claim that `record_fact` appends keeps the history of an access. -/
theorem AccessHistory.commit_fact {fact : NewFact} {confidence : ℚ} {uuid : Uuid}
    {oldIds : List String} {row : EvidenceClaim} (hhex : HexDigests rt)
    (h : AccessHistory rt profile routeId capability accessKind db)
    (hread : evidencePayload rt fact.payload.json.canonical = .ok fact.payload)
    (hrespects : Respects rt routeId capability accessKind fact.payload)
    (hrow : normalizeClaim profile (newId "claim" uuid)
      (fact.input rt profile confidence oldIds) = .ok row)
    (hold : ∀ oldId ∈ oldIds, OldFact rt profile fact.payload db oldId)
    (hcommitted : ClaimCommitted row oldIds.eraseDups db after) :
    AccessHistory rt profile routeId capability accessKind after := by
  have hclaim := claim_of_normalizeClaim hhex hrow
  have hevidence := h.evidence.commit (normalizeClaim_spec hrow) hcommitted
  refine h.commit (normalizeClaim_spec hrow) hcommitted (fun _ hkey ↦ ?_) fun newFact hnew ↦ ?_
  · rw [hclaim] at hkey ⊢
    obtain ⟨rfl, rfl, rfl⟩ := hrespects hkey
    exact ⟨_, factOf_claim hread⟩
  · intro oldId holdId older oldFact holder hid
    rw [hclaim] at hnew
    obtain ⟨-, -, hkey, -⟩ := fields_of_factOf hnew
    obtain ⟨rfl, rfl, rfl⟩ := hrespects hkey
    obtain rfl := Except.ok.inj ((factOf_claim hread).symm.trans hnew)
    obtain ⟨found, foundFact, hfound, hfoundFact, htime⟩ :=
      (hold oldId (List.mem_eraseDups.mp holdId)).grows hcommitted.grows
    obtain rfl := Option.some.inj ((hid ▸ hfound).symm.trans (hevidence.getClaim holder.mem))
    obtain rfl := Except.ok.inj (hfoundFact.symm.trans holder.eq)
    exact htime

/-- The claim of `record_fact`, when the facts that it supersedes were checked. -/
theorem keepsUnder_recordNewFact (hhex : HexDigests rt) {uuid : Uuid} {fact : NewFact}
    {confidence : ℚ} {oldIds : List String} {rely : EvidenceDb → EvidenceDb → Prop}
    (hread : evidencePayload rt fact.payload.json.canonical = .ok fact.payload)
    (hrespects : Respects rt routeId capability accessKind fact.payload) (s : EvidenceDb)
    (hold : ∀ oldId ∈ oldIds, OldFact rt profile fact.payload s oldId) :
    KeepsUnder (AccessHistory rt profile routeId capability accessKind) Appends rely rely
      (ReturnsUnverified EvidenceClaim.sourceKind) false
      (ofEvidenceCall (recordClaim profile plainHost uuid
        (fact.input rt profile confidence oldIds))) s := by
  refine KeepsUnder.mapError (fun c e t ↦ returnsUnverified_error _ c e t) ?_
  refine keepsUnder_recordRevision (fun c e t ↦ returnsUnverified_error _ c (ofEvidenceRaise e) t)
    fun row v w hrow hv hinvariant hcommit ↦ ?_
  have hgrows := grows_of_appends (commits_of_allowed hv)
  have hcommitted := commitClaim_plainHost hcommit
  have hkept := hinvariant.commit_fact hhex hread hrespects hrow
    (fun oldId holdId ↦ (hold oldId holdId).grows hgrows) hcommitted
  refine ⟨⟨row, _, hcommitted⟩, hkept, fun r last hlast hinvariant hr ↦ ?_⟩
  have hmem : row ∈ last.claims := (grows_of_appends hlast).mem
    (hcommitted.claims ▸ List.mem_append_right _ (List.mem_singleton_self row))
  have hrowRead : last.getClaim row.id = some row := hinvariant.evidence.getClaim hmem
  rw [hr]
  show ReturnsUnverified _ _ ((orRaise (last.getClaim row.id) _ : Checked EvidenceClaim).mapError _) _
  rw [hrowRead]
  intro claim hclaim
  obtain rfl : row = claim := Except.ok.inj hclaim
  rw [claim_of_normalizeClaim hhex hrow]
  exact fact.unverified

/-- `record_fact` keeps the history of an access, and returns no fact that a provider verified. -/
theorem keepsUnder_recordFact (hhex : HexDigests rt) (hfloat : FloatsKept rt) {uuid : Uuid}
    {input : FactInput} (hrespects : ∀ fact, normalizeFact rt input = .ok fact →
      Respects rt routeId capability accessKind fact.payload)
    {rely : EvidenceDb → EvidenceDb → Prop} (s : EvidenceDb) :
    KeepsUnder (AccessHistory rt profile routeId capability accessKind) Appends rely rely
      (ReturnsUnverified EntitlementFact.sourceKind) false (recordFact rt profile uuid input) s := by
  have hraised c (e : Raised AccessErrorClass) t :=
    returnsUnverified_error EntitlementFact.sourceKind c e t
  unfold recordFact
  refine keepsUnder_fromExcept (fun e _ ↦ hraised _ e _) fun fact hfact ↦ ?_
  refine keepsUnder_bind ((keepsUnder_checkOldFacts fact.payload _ s).mono fun c r t hpost ↦ ?_)
  obtain ⟨rfl, hchecked⟩ := hpost
  cases r with
  | error e => exact hraised _ e _
  | ok u =>
    obtain ⟨-, hold⟩ := hchecked u rfl
    refine keepsUnder_fromExcept (fun e _ ↦ hraised _ e _) fun _ _ ↦ ?_
    refine keepsUnder_bind ((keepsUnder_recordNewFact hhex (normalizeFact_spec hfloat hfact)
      (hrespects fact hfact) t hold).mono fun c r v hpost ↦ ?_)
    cases r with
    | error e => exact hraised _ e _
    | ok claim => exact keepsUnder_recorded (hpost claim rfl) c v

/-! ### Runs -/

/-- A call on the evidence of a profile. -/
inductive AccessOperation where
  | recordFact (uuid : Uuid) (input : FactInput)
  | recordClaim (uuid : Uuid) (input : ClaimInput)

/-- The call of an operation. It returns the fact that was recorded, if it was one. -/
def accessProgram (rt : AccessRuntime) (profile : Profile) :
    AccessOperation → AccessCall (Option EntitlementFact)
  | .recordFact uuid input => some <$> recordFact rt profile uuid input
  | .recordClaim uuid input =>
    (fun _ ↦ none) <$> ofEvidenceCall (Evidence.recordClaim profile plainHost uuid input)

/-- An operation leaves the key of an access to facts about it. -/
def AccessOperation.LeavesKey (rt : AccessRuntime) (routeId capability : Text)
    (accessKind : AccessKind) : AccessOperation → Prop
  | .recordFact _ input => ∀ fact, normalizeFact rt input = .ok fact →
    Respects rt routeId capability accessKind fact.payload
  | .recordClaim _ input => strip input.key ≠ claimKey rt routeId capability accessKind

theorem key_of_normalizeClaim {claimId : String} {input : ClaimInput} {row : EvidenceClaim}
    (h : normalizeClaim profile claimId input = .ok row) : row.key = strip input.key := by
  simp only [normalizeClaim, bind_eq_ok, Except.ok.injEq] at h
  obtain ⟨_, -, _, -, _, -, _, -, _, -, _, -, _, -, rfl⟩ := h
  rfl

/-- A call that has ended did not return a fact that a provider verified. -/
def ReturnsNoVerifiedFact {ε : Type} (_ : Bool) (r : Except ε (Option EntitlementFact))
    (_ : EvidenceDb) : Prop :=
  ∀ fact, r = .ok (some fact) → fact.sourceKind ≠ .providerVerified

/-- A call that leaves the key of an access to facts about it keeps the history of the access. -/
theorem keepsUnder_accessProgram (hhex : HexDigests rt) (hfloat : FloatsKept rt)
    {rely : EvidenceDb → EvidenceDb → Prop} {operation : AccessOperation}
    (hleaves : operation.LeavesKey rt routeId capability accessKind) (s : EvidenceDb) :
    KeepsUnder (AccessHistory rt profile routeId capability accessKind) Appends rely rely
      ReturnsNoVerifiedFact false (accessProgram rt profile operation) s := by
  cases operation with
  | recordFact uuid input =>
    refine KeepsUnder.map some ((keepsUnder_recordFact hhex hfloat hleaves s).mono ?_)
    intro c r t hpost fact hfact
    obtain ⟨found, hfound, hsome⟩ := map_eq_ok.mp hfact
    obtain rfl := Option.some.inj hsome
    exact hpost found hfound
  | recordClaim uuid input =>
    have hkept : Preserves (AccessHistory rt profile routeId capability accessKind) Appends
        (Evidence.recordClaim profile plainHost uuid input) := by
      refine preserves_recordInput fun row db after hrow hinvariant hcommit ↦ ?_
      have hcommitted := commitClaim_plainHost hcommit
      have hkey : row.key ≠ claimKey rt routeId capability accessKind :=
        key_of_normalizeClaim hrow ▸ hleaves
      refine ⟨⟨row, _, hcommitted⟩, hinvariant.commit (normalizeClaim_spec hrow) hcommitted
        (fun _ hsame ↦ absurd hsame hkey) fun newFact hnew ↦ ?_⟩
      exact absurd (fields_of_factOf hnew).2.2.1 hkey
    refine KeepsUnder.map (fun _ ↦ none)
      ((hkept.mapError ofEvidenceRaise evidenceRaise).under.mono fun c r t _ fact hfact ↦ ?_)
    obtain ⟨_, -, hnone⟩ := map_eq_ok.mp hfact
    cases hnone

/-- In a run that starts calls of some kind only, every event starts none of another. -/
theorem everyStep_starts {ω σ ε α : Type} {program : ω → Call σ ε α} {allowed : ω → Prop}
    {events : List (SharedEvent ω ε)} (h : ∀ operation, .start operation ∈ events → allowed operation)
    (w : Labelled ω σ ε α) :
    EveryStep (stepLabelled program) (fun w event ↦
      Undisturbed (fun _ _ _ ↦ True) (fun _ _ _ ↦ True) program w event ∧
        StartsAs (fun operation _ ↦ allowed operation) w event) w events := by
  induction events generalizing w with
  | nil => trivial
  | cons event rest ih =>
    refine ⟨⟨(everyStep_undisturbed program w [event]).1, fun operation hevent ↦ ?_⟩, fun t _ ↦ ?_⟩
    · exact h operation (hevent ▸ List.mem_cons_self)
    · exact ih (fun operation hmem ↦ h operation (List.mem_cons_of_mem _ hmem)) t

/-- A run of calls on new evidence that leave the key of an access to facts about it, whatever their
interleaving, has the history of the access, and no call of `record_fact` has returned a fact that a
provider verified. -/
theorem history_of_run (hhex : HexDigests rt) (hfloat : FloatsKept rt)
    {events : List (SharedEvent AccessOperation (Raised AccessErrorClass))}
    {w : Labelled AccessOperation EvidenceDb (Raised AccessErrorClass) (Option EntitlementFact)}
    (hleaves : ∀ operation, .start operation ∈ events →
      operation.LeavesKey rt routeId capability accessKind)
    (hrun : runEvents (stepLabelled (accessProgram rt profile)) ⟨⟨.empty, []⟩, []⟩ events = some w) :
    AccessHistory rt profile routeId capability accessKind w.shared.store ∧
      ∀ j operation fact, w.operations[j]? = some operation → w.returned j = some (some fact) →
        fact.sourceKind ≠ .providerVerified := by
  have hprogram : ∀ operation s, AccessHistory rt profile routeId capability accessKind s →
      operation.LeavesKey rt routeId capability accessKind →
      KeepsUnder (AccessHistory rt profile routeId capability accessKind) Appends
        (fun _ _ ↦ True) (fun _ _ ↦ True) ReturnsNoVerifiedFact false
        (accessProgram rt profile operation) s :=
    fun operation s _ hstart ↦ keepsUnder_accessProgram hhex hfloat hstart s
  obtain ⟨-, hkept⟩ := keptUnder_of_run_of_starts hprogram (keptUnder_new accessHistory_empty)
    (everyStep_starts hleaves _) hrun
  refine ⟨hkept.store, fun j operation fact hoperation hreturned ↦ ?_⟩
  obtain ⟨s, committed, -, hpost⟩ := hkept.returned hoperation hreturned
  exact hpost fact rfl

/-! ### A denial more -/

/-- The claims that are active after a commit that supersedes nothing. -/
theorem active_of_nothing {row : EvidenceClaim} (hcommitted : ClaimCommitted row [] db after)
    (id : String) : after.Active id ↔ db.Active id := by
  rw [EvidenceDb.Active, EvidenceDb.Active, hcommitted.supersessions, List.map_nil, List.append_nil]

/-- A claim that was a fact before a commit that supersedes nothing. -/
theorem factFromClaim_before {row : EvidenceClaim} (hevidence : EvidenceInvariant profile db)
    (hcommitted : ClaimCommitted row [] db after) (hclaim : claim ∈ db.claims)
    (h : factFromClaim rt profile after routeId capability accessKind claim = .ok fact) :
    factFromClaim rt profile db routeId capability accessKind claim = .ok fact := by
  have hgrows := hcommitted.grows
  obtain ⟨heq, htimes⟩ := factFromClaim_eq_ok.mp h
  refine factFromClaim_eq_ok.mpr ⟨(factOf_of_grows hgrows hclaim).symm.trans heq, fun id hedge ↦ ?_⟩
  obtain ⟨-, -, older, holder, -, holdId, -⟩ := hevidence.edges _ hedge
  have hread : db.getClaim id = some older := by rw [← hevidence.getClaim holder, holdId]
  obtain ⟨old, oldFact, hold, holdFact, htime⟩ := htimes id (hgrows.supersessions.subset hedge)
  obtain rfl := Option.some.inj ((hgrows.getClaim hread).symm.trans hold)
  exact ⟨older, oldFact, hread, (factOf_of_grows hgrows holder).symm.trans holdFact, htime⟩

/-- When a denial is appended that supersedes nothing, what is granted was granted before. -/
theorem granted_before (hhex : HexDigests rt) {row : EvidenceClaim}
    (hevidence : EvidenceInvariant profile db) (hcommitted : ClaimCommitted row [] db after)
    (hdenied : ∀ routeId capability accessKind fact,
      factOf rt profile after routeId capability accessKind row = .ok fact →
        fact.payload.entitlementState = .denied)
    {routeName capabilityName kindName : String} {asOf : ℤ} {access : EntitlementSnapshot}
    (h : snapshot rt profile after routeName capabilityName kindName asOf = .ok access)
    (hgranted : access.eligibilityEntitlementState = .granted) :
    ∃ before, snapshot rt profile db routeName capabilityName kindName asOf = .ok before ∧
      before.eligibilityEntitlementState = .granted := by
  obtain ⟨htime, hroute, hcapability, hkind, claims, hclaims, hfacts, -⟩ := snapshot_eq_ok h
  simp only [activeClaims, bind_eq_ok, require_eq_ok, Except.ok.injEq] at hclaims
  obtain ⟨_, hkey, _, hscope, hclaims⟩ := hclaims
  have hgrows := hcommitted.grows
  have hactive := active_of_nothing hcommitted
  obtain ⟨hall, -⟩ := facts_of_factsFromClaims hfacts
  have hread : activeClaims profile .profile profile.profileId
      (claimKey rt access.routeId access.capability access.accessKind) db =
        .ok (db.claims.filter fun claim ↦ claim.scopeKind = .profile ∧
          claim.scopeId = profile.profileId ∧ db.Active claim.id ∧
            claim.key = strip (claimKey rt access.routeId access.capability access.accessKind)) := by
    simp only [activeClaims, bind_eq_ok, require_eq_ok]
    exact ⟨(), hkey, (), hscope, trivial⟩
  obtain ⟨before, hbefore, hsameRoute, hsameCapability, hsameKind⟩ :=
    exists_snapshot htime hroute hcapability hkind hread fun claim hclaim ↦ by
      rw [List.mem_filter, decide_eq_true_eq] at hclaim
      have hlisted : claim ∈ claims := by
        rw [← hclaims, List.mem_filter, decide_eq_true_eq, hactive]
        exact ⟨hgrows.mem hclaim.1, hclaim.2⟩
      obtain ⟨fact, hfact⟩ := hall claim hlisted
      exact ⟨fact, factFromClaim_before hevidence hcommitted hclaim.1 hfact⟩
  refine ⟨before, hbefore, ?_⟩
  have hafterTruth := (truth_of_snapshot hhex h).granted.mp hgranted
  have hbeforeTruth := truth_of_snapshot hhex hbefore
  rw [hsameRoute, hsameCapability, hsameKind] at hbeforeTruth
  -- The denial is not current: the current facts grant.
  have hsame : IsCurrent rt profile db access.routeId access.capability access.accessKind asOf =
      IsCurrent rt profile after access.routeId access.capability access.accessKind asOf := by
    funext fact
    refine propext ⟨?_, fun hcurrent ↦ ?_⟩
    · rintro ⟨⟨claim, ⟨hmem, heq⟩, hlive⟩, hobserved, hunexpired⟩
      exact ⟨⟨claim, ⟨hgrows.mem hmem, (factOf_of_grows hgrows hmem).trans heq⟩,
        (hactive _).mpr hlive⟩, hobserved, hunexpired⟩
    · have hgrants := hafterTruth.2.1 fact hcurrent
      obtain ⟨⟨claim, ⟨hmem, heq⟩, hlive⟩, hobserved, hunexpired⟩ := hcurrent
      rw [hcommitted.claims] at hmem
      rcases List.mem_append.mp hmem with hmem | hnew
      · exact ⟨⟨claim, ⟨hmem, (factOf_of_grows hgrows hmem).symm.trans heq⟩, (hactive _).mp hlive⟩,
          hobserved, hunexpired⟩
      · rw [List.mem_singleton.mp hnew] at heq
        rw [hdenied _ _ _ _ heq] at hgrants
        cases hgrants
  exact hbeforeTruth.granted.mpr (hsame ▸ hafterTruth)

/-- What is asked for is recorded as a denial. -/
def FactInput.Denies (rt : AccessRuntime) (input : FactInput) : Prop :=
  ∀ fact, normalizeFact rt input = .ok fact → fact.payload.entitlementState = .denied

/-- A commit makes nothing granted: what is granted after it was granted before it. -/
def GrantsNothing (rt : AccessRuntime) (profile : Profile) (db after : EvidenceDb) : Prop :=
  ∀ routeName capabilityName kindName asOf access,
    snapshot rt profile after routeName capabilityName kindName asOf = .ok access →
    access.eligibilityEntitlementState = .granted →
      ∃ before, snapshot rt profile db routeName capabilityName kindName asOf = .ok before ∧
        before.eligibilityEntitlementState = .granted

theorem preserves_checkOldFacts {invariant : EvidenceDb → Prop}
    {commits : EvidenceDb → EvidenceDb → Prop} (payload : EntitlementPayload)
    (oldIds : List String) :
    Preserves invariant commits (checkOldFacts rt profile payload oldIds) := by
  induction oldIds with
  | nil => exact preserves_pure _
  | cons oldId rest ih =>
    exact (preserves_select _).bind fun _ ↦ (preserves_fromExcept _).bind fun _ ↦
      (preserves_ask _).bind fun _ ↦ (preserves_fromExcept _).bind fun _ ↦ ih

/-- Whatever the others commit meanwhile, a transaction of `record_fact` appends a claim that no
provider verified, and with a denial that supersedes nothing it makes nothing granted. -/
theorem preserves_recordFact (hhex : HexDigests rt) (hfloat : FloatsKept rt) (uuid : Uuid)
    (input : FactInput) :
    Preserves (EvidenceInvariant profile) (fun db after ↦
      (∃ row oldIds, ClaimCommitted row oldIds db after ∧ row.sourceKind ≠ .providerVerified) ∧
        (input.Denies rt → input.supersedes = [] → GrantsNothing rt profile db after))
      (recordFact rt profile uuid input) := by
  unfold recordFact
  refine preserves_fromExcept_bind fun fact hfact ↦ (preserves_checkOldFacts _ _).bind fun _ ↦
    (preserves_fromExcept _).bind fun _ ↦ Preserves.bind ?_ fun _ ↦ preserves_ask _
  refine Preserves.mapError (preserves_recordInput fun row db after hrow hevidence hcommit ↦ ?_) _ _
  have hcommitted := commitClaim_plainHost hcommit
  have hclaim := claim_of_normalizeClaim hhex hrow
  refine ⟨⟨⟨row, _, hcommitted, hclaim ▸ fact.unverified⟩, fun hdenies hnothing ↦ ?_⟩,
    hevidence.commit (normalizeClaim_spec hrow) hcommitted⟩
  intro routeName capabilityName kindName asOf access haccess hgranted
  have hnone : ClaimCommitted row [] db after := by
    have hids : (fact.input rt profile input.confidence input.supersedes.eraseDups).supersedes =
        [] := by
      rw [hnothing]
      rfl
    rw [hids] at hcommitted
    exact hcommitted
  refine granted_before hhex hevidence hnone (fun route capability kind newFact hnew ↦ ?_) haccess
    hgranted
  rw [hclaim] at hnew
  have hpayload := Except.ok.inj
    ((payload_of_factOf hnew).symm.trans (normalizeFact_spec hfloat hfact))
  exact hpayload ▸ hdenies fact hfact

end

/-! ### What snapshots tell of a history -/

/-- A runtime that knows one digest. -/
def pluginRuntime : AccessRuntime where
  sha256 _ := "15648a2fbc9687c1be795f30e3a9468ea0cfa0fb7fcbc6720e9e72bdec79befd"
  toFloat
    | .float f => some f
    | _ => none
  confidenceText _ := ⟨['1', '.', '0'], FloatText.one.number, FloatText.one.float, FloatText.one.head⟩

/-- A profile without songs. -/
def pluginProfile : Profile where
  profileId := newId "prf" (uuidEnding 0)
  primaryArtistId := newId "art" (uuidEnding 1)
  songs := []
  people := []
  versions := []
  songs_created := Profile.blank.songs_created
  people_created := Profile.blank.people_created
  versions_created := Profile.blank.versions_created
  version_ids := List.nodup_nil

/-- A scan that has seen the plugin. -/
def pluginInput : FactInput where
  routeId := "reverb"
  capability := "reverb"
  accessKind := "plugin"
  entitlementState := "granted"
  permissionState := "NOT_REQUIRED"
  observedAtEpochSeconds := 50
  expiresAtEpochSeconds := some 100
  quotaRemaining := .null
  quotaUnit := none
  environmentFingerprint := none
  sourceKind := "observed"
  sourceRef := some "scan"
  confidence := 1
  supersedes := []

theorem stripped_reverb : strip "reverb" = "reverb" := by decide +kernel

theorem nonempty_reverb : "reverb" ≠ "" := by decide

def pluginName : Text := ⟨"reverb", stripped_reverb, nonempty_reverb⟩

/-- The scan is recorded. -/
def pluginEvents : List (SharedEvent AccessOperation (Raised AccessErrorClass)) :=
  .start (.recordFact (uuidEnding 2) pluginInput) :: List.replicate 4 (.advance 0)

theorem plugin_leavesKey : ∀ operation, .start operation ∈ pluginEvents →
    operation.LeavesKey pluginRuntime pluginName pluginName .plugin := by
  have hpayload : (normalizeFact pluginRuntime pluginInput).toOption.map (fun fact ↦
      (fact.payload.routeId, fact.payload.capability, fact.payload.accessKind)) =
        some (pluginName, pluginName, .plugin) := by decide +kernel
  intro operation hoperation
  obtain rfl : operation = .recordFact (uuidEnding 2) pluginInput := by
    simpa [pluginEvents] using hoperation
  intro fact hfact _
  rw [hfact] at hpayload
  simpa [Except.toOption] using hpayload

end N0te.Capabilities
