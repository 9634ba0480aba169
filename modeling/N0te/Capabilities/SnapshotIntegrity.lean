import Mathlib.Data.Finset.Dedup
import Mathlib.Data.Finset.Max
import N0te.Capabilities.EntitlementHistory
import N0te.Evidence.Reconciliation
import N0te.Library.DigestTable

/-!
# Which snapshots pass as current

`assertCurrent` takes a snapshot of what it is handed and compares one field: the fingerprint, which is
the digest of the active facts. Without collisions the facts are as they were (`values_of_fingerprint`),
and after a new fact under the key a snapshot never passes again (`stale_of_new`). What is derived from
the facts is not compared, so a snapshot that carries the fingerprint of the store passes with whatever
it says of them (`snapshot_integrity`).
-/

set_option autoImplicit false
set_option relaxedAutoImplicit false

namespace N0te.Capabilities

open Library Lineage People Evidence

/-! ### Values -/

/-- An `EntitlementFact` that a caller may hand in, whatever it says. -/
structure FactValue where
  claimId : String
  sequence : ℤ
  profileId : String
  routeId : String
  capability : String
  accessKind : String
  entitlementState : String
  permissionState : String
  observedAtEpochSeconds : ℤ
  expiresAtEpochSeconds : Option ℤ
  quotaRemaining : Option FloatText
  quotaUnit : Option String
  environmentFingerprint : Option String
  sourceKind : String
  sourceRef : Option String
  confidence : FloatText
  deriving DecidableEq

/-- An `EntitlementSnapshot` that a caller may hand in: its constructor checks the enumerations and that
it grants no authority. -/
structure SnapshotValue where
  profileId : String
  routeId : String
  capability : String
  accessKind : String
  asOfEpochSeconds : ℤ
  resolutionStatus : ResolutionStatus
  validityState : ValidityState
  entitlementState : AccessState
  permissionState : AccessState
  eligibilityEntitlementState : AccessState
  eligibilityPermissionState : AccessState
  quotaStatus : ResolutionStatus
  quotaRemaining : Option FloatText
  quotaUnit : Option String
  strongestSourceClass : String
  providerVerified : Bool
  strongAccessEvidence : Bool
  facts : List FactValue
  activeFactIds : List String
  fingerprint : String
  deriving DecidableEq

/-- `SOURCE_TRUTH_CLASSES`. -/
def sourceTruthClass : Evidence.SourceKind → String
  | .userDeclared => "DECLARED"
  | .observed => "OBSERVED"
  | .measured => "MEASURED"
  | .providerVerified => "PROVIDER_VERIFIED"
  | .remembered => "REMEMBERED"
  | .inferred => "INFERRED"

section

variable (rt : AccessRuntime)

def EntitlementFact.value (fact : EntitlementFact) : FactValue where
  claimId := fact.claimId
  sequence := fact.sequence
  profileId := fact.profileId
  routeId := fact.payload.routeId.val
  capability := fact.payload.capability.val
  accessKind := fact.payload.accessKind.name
  entitlementState := fact.payload.entitlementState.name
  permissionState := fact.payload.permissionState.name
  observedAtEpochSeconds := fact.payload.observedAtEpochSeconds
  expiresAtEpochSeconds := fact.payload.expiresAtEpochSeconds
  quotaRemaining := fact.payload.quotaRemaining
  quotaUnit := fact.payload.quotaUnit.map Text.val
  environmentFingerprint := fact.payload.environmentFingerprint.map Text.val
  sourceKind := fact.sourceKind.name
  sourceRef := fact.sourceRef
  confidence := rt.confidenceText fact.confidence

def EntitlementSnapshot.value (access : EntitlementSnapshot) : SnapshotValue where
  profileId := access.profileId
  routeId := access.routeId.val
  capability := access.capability.val
  accessKind := access.accessKind.name
  asOfEpochSeconds := access.asOfEpochSeconds
  resolutionStatus := access.resolutionStatus
  validityState := access.validityState
  entitlementState := access.entitlementState
  permissionState := access.permissionState
  eligibilityEntitlementState := access.eligibilityEntitlementState
  eligibilityPermissionState := access.eligibilityPermissionState
  quotaStatus := access.quotaStatus
  quotaRemaining := access.quota.map Prod.fst
  quotaUnit := access.quota.bind fun quota ↦ quota.2.map Text.val
  strongestSourceClass := (access.strongestSource.map sourceTruthClass).getD "NONE"
  providerVerified := access.providerVerified
  strongAccessEvidence := access.strongAccessEvidence
  facts := access.facts.map fun fact ↦ fact.value rt
  activeFactIds := access.facts.map EntitlementFact.claimId
  fingerprint := access.fingerprint

variable (profile : Profile) (db : EvidenceDb)

/-- The snapshot that the store makes of what a snapshot is about. -/
def currentSnapshot (s : SnapshotValue) : AccessChecked EntitlementSnapshot :=
  snapshot rt profile db s.routeId s.capability s.accessKind s.asOfEpochSeconds

/-- `assert_current`. -/
def assertCurrent (s : SnapshotValue) : AccessChecked EntitlementSnapshot := do
  require (s.profileId = profile.profileId)
    (truthError "entitlement snapshot belongs to another profile")
  let current ← currentSnapshot rt profile db s
  require (current.fingerprint = s.fingerprint)
    (truthError "entitlement snapshot is stale or was modified")
  .ok current

def Passes (s : SnapshotValue) : Prop := ∃ current, assertCurrent rt profile db s = .ok current

/-- A snapshot is, field for field, the one that the store makes now. -/
def IsCurrentSnapshot (s : SnapshotValue) : Prop :=
  ∃ current, currentSnapshot rt profile db s = .ok current ∧ s = current.value rt

def About (routeId capability : Text) (accessKind : AccessKind) (facts : List EntitlementFact) :
    Prop :=
  ∀ fact ∈ facts, fact.profileId = profile.profileId ∧ fact.payload.routeId = routeId ∧
    fact.payload.capability = capability ∧ fact.payload.accessKind = accessKind

/-- The fields of a snapshot are what the resolution of facts gives: whether there is a store with these
facts or not. -/
def ResolvesItself (s : SnapshotValue) : Prop :=
  ∃ routeId capability accessKind facts, About profile routeId capability accessKind facts ∧
    s = (resolveFacts rt profile routeId capability accessKind s.asOfEpochSeconds facts).value rt

def StoreFacts (routeId capability : Text) (accessKind : AccessKind)
    (facts : List EntitlementFact) : Prop :=
  ∃ claims, activeClaims profile .profile profile.profileId
      (claimKey rt routeId capability accessKind) db = .ok claims ∧
    factsFromClaims rt profile db routeId capability accessKind claims = .ok facts

/-- What a snapshot is about. -/
structure Names (s : SnapshotValue) (routeId capability : Text) (accessKind : AccessKind) :
    Prop where
  route : truthText (.str s.routeId) "route_id" = .ok routeId
  capability : truthText (.str s.capability) "capability" = .ok capability
  kind : truthEnum AccessKind.ofName (.str s.accessKind) "access_kind" = .ok accessKind

/-- A snapshot of the profile bears the digest of the facts that the store has about the access that it
names. -/
def BearsDigest (s : SnapshotValue) : Prop :=
  s.profileId = profile.profileId ∧ 0 ≤ s.asOfEpochSeconds ∧
    ∃ routeId capability accessKind facts, Names s routeId capability accessKind ∧
      StoreFacts rt profile db routeId capability accessKind facts ∧
      s.fingerprint = rt.sha256 (fingerprintPayload rt profile routeId capability accessKind
        s.asOfEpochSeconds facts).dumpsAscii

end

/-! ### What the fingerprint covers -/

section

variable {rt : AccessRuntime} {profile : Profile} {db : EvidenceDb}

theorem AccessKind.name_injective : Function.Injective AccessKind.name := fun a b h ↦
  Except.ok.inj ((truthEnum_accessKind a "").symm.trans (h ▸ truthEnum_accessKind b ""))

theorem AccessState.name_injective : Function.Injective AccessState.name := fun a b h ↦
  Except.ok.inj ((truthEnum_accessState a "").symm.trans (h ▸ truthEnum_accessState b ""))

theorem SourceKind.name_injective : Function.Injective Evidence.SourceKind.name := fun a b h ↦
  Option.some.inj ((SourceKind.ofName_name a).symm.trans (h ▸ SourceKind.ofName_name b))

/-- An optional field is known by its JSON. -/
theorem optional_of_json {α : Type} {f : α → Json} (hf : Function.Injective f)
    (hcanonical : ∀ a, (f a).canonical = f a) (hnull : ∀ a, f a ≠ .null) {a b : Option α}
    (h : ((a.map f).getD .null).canonical = ((b.map f).getD .null).canonical) : a = b := by
  rw [canonical_optional f hcanonical, canonical_optional f hcanonical] at h
  cases a with
  | none =>
    cases b with
    | none => rfl
    | some b => exact absurd h.symm (hnull b)
  | some a =>
    cases b with
    | none => exact absurd h (hnull a)
    | some b => exact congrArg some (hf h)

theorem Text.str_injective : Function.Injective fun text : Text ↦ Json.str text.val :=
  fun _ _ h ↦ Text.ext (Json.str.inj h)

/-- The state of access that a payload tells of is known by its JSON. -/
theorem state_of_json {a b : EntitlementPayload}
    (h : (Json.obj a.stateFields).canonical = (Json.obj b.stateFields).canonical) :
    a.entitlementState = b.entitlementState ∧ a.permissionState = b.permissionState ∧
      a.observedAtEpochSeconds = b.observedAtEpochSeconds ∧
      a.expiresAtEpochSeconds = b.expiresAtEpochSeconds ∧ a.quotaRemaining = b.quotaRemaining ∧
      a.quotaUnit = b.quotaUnit ∧ a.environmentFingerprint = b.environmentFingerprint := by
  have hget : ∀ key, ((Json.obj a.stateFields).get key).canonical =
      ((Json.obj b.stateFields).get key).canonical := by
    intro key
    rw [← Json.get_canonical, ← Json.get_canonical, h]
  have hentitlement := hget "entitlement_state"
  have hpermission := hget "permission_state"
  have hobserved := hget "observed_at_epoch_seconds"
  have hexpires := hget "expires_at_epoch_seconds"
  have hquota := hget "quota_remaining"
  have hunit := hget "quota_unit"
  have henvironment := hget "environment_fingerprint"
  simp only [EntitlementPayload.stateFields, Json.get, Json.get?, List.lookup_cons, String.reduceBEq,
    Option.getD_some, Json.canonical_str, Json.canonical_int, Json.str.injEq, Json.int.injEq,
    optionalJson] at *
  exact ⟨AccessState.name_injective hentitlement, AccessState.name_injective hpermission, hobserved,
    optional_of_json (fun _ _ ↦ Json.int.inj) (fun _ ↦ rfl) (fun _ ↦ Json.noConfusion) hexpires,
    optional_of_json (fun _ _ ↦ Json.float.inj) (fun _ ↦ rfl) (fun _ ↦ Json.noConfusion) hquota,
    optional_of_json Text.str_injective (fun _ ↦ rfl) (fun _ ↦ Json.noConfusion) hunit,
    optional_of_json Text.str_injective (fun _ ↦ rfl) (fun _ ↦ Json.noConfusion) henvironment⟩

/-- A fact is known by its part of the fingerprint and by what it is about. -/
theorem value_of_json {a b : EntitlementFact} (hprofile : a.profileId = b.profileId)
    (hroute : a.payload.routeId = b.payload.routeId)
    (hcapability : a.payload.capability = b.payload.capability)
    (hkind : a.payload.accessKind = b.payload.accessKind)
    (h : (a.json rt).canonical = (b.json rt).canonical) : a.value rt = b.value rt := by
  have hget : ∀ key, ((a.json rt).get key).canonical = ((b.json rt).get key).canonical := by
    intro key
    rw [← Json.get_canonical, ← Json.get_canonical, h]
  have hid := hget "claim_id"
  have hsequence := hget "sequence"
  have hsource := hget "source_kind"
  have href := hget "source_ref"
  have hconfidence := hget "confidence"
  have hpayload := hget "payload"
  simp only [EntitlementFact.json, Json.get, Json.get?, List.lookup_cons, String.reduceBEq,
    Option.getD_some, Json.canonical_str, Json.canonical_int, Json.canonical_float, Json.str.injEq,
    Json.int.injEq, Json.float.injEq] at hid hsequence hsource href hconfidence hpayload
  obtain ⟨hentitlement, hpermission, hobserved, hexpires, hquota, hunit, henvironment⟩ :=
    state_of_json hpayload
  have href' : a.sourceRef = b.sourceRef :=
    optional_of_json (fun _ _ ↦ Json.str.inj) (fun _ ↦ rfl) (fun _ ↦ Json.noConfusion) href
  simp only [EntitlementFact.value, hid, hsequence, hprofile, hroute, hcapability, hkind,
    hentitlement, hpermission, hobserved, hexpires, hquota, hunit, henvironment, hsource, href',
    hconfidence]

theorem map_eq_of_map_eq {α β γ : Type} {f : α → β} {g : α → γ} {items others : List α}
    (hfg : ∀ a ∈ items, ∀ b ∈ others, f a = f b → g a = g b)
    (h : items.map f = others.map f) : items.map g = others.map g := by
  induction items generalizing others with
  | nil => rw [List.map_eq_nil_iff.mp h.symm]
  | cons item rest ih =>
    cases others with
    | nil => cases h
    | cons other more =>
      rw [List.map_cons, List.map_cons, List.cons.injEq] at h ⊢
      refine ⟨hfg item List.mem_cons_self other List.mem_cons_self h.1, ih ?_ h.2⟩
      exact fun a ha b hb ↦ hfg a (List.mem_cons_of_mem _ ha) b (List.mem_cons_of_mem _ hb)

/-- What a fact counts for is known by its fields. -/
theorem payload_of_value {a b : EntitlementFact} (h : a.value rt = b.value rt) :
    a.payload = b.payload ∧ a.sourceKind = b.sourceKind ∧ a.claimId = b.claimId := by
  have hmap : Function.Injective (Option.map Text.val) :=
    Option.map_injective fun _ _ ↦ Text.ext
  simp only [EntitlementFact.value, FactValue.mk.injEq] at h
  obtain ⟨hid, -, -, hroute, hcapability, hkind, hentitlement, hpermission, hobserved, hexpires,
    hquota, hunit, henvironment, hsource, -, -⟩ := h
  refine ⟨?_, SourceKind.name_injective hsource, hid⟩
  rw [EntitlementPayload.mk.injEq]
  exact ⟨Text.ext hroute, Text.ext hcapability, AccessKind.name_injective hkind,
    AccessState.name_injective hentitlement, AccessState.name_injective hpermission, hobserved,
    hexpires, hquota, hmap hunit, hmap henvironment⟩

/-! ### What is derived from the facts -/

def EntitlementFact.core (fact : EntitlementFact) : EntitlementFact :=
  ⟨"", 0, "", fact.payload, fact.sourceKind, none, 0⟩

variable {routeId capability : Text} {accessKind : AccessKind} {asOf : ℤ}
  {facts other : List EntitlementFact}

theorem currentFacts_core :
    currentFacts asOf (facts.map EntitlementFact.core) =
      (currentFacts asOf facts).map EntitlementFact.core := by
  rw [currentFacts, currentFacts, observedFacts, observedFacts, List.filter_map, List.filter_map]
  rfl

theorem observedFacts_core :
    observedFacts asOf (facts.map EntitlementFact.core) =
      (observedFacts asOf facts).map EntitlementFact.core := by
  rw [observedFacts, observedFacts, List.filter_map]
  rfl

theorem quotaResolution_core :
    quotaResolution (facts.map EntitlementFact.core) = quotaResolution facts := by
  rw [quotaResolution, quotaResolution, List.filterMap_map]
  rfl

theorem strongestSource_core :
    strongestSource (facts.map EntitlementFact.core) = strongestSource facts := by
  cases facts with
  | nil => rfl
  | cons fact rest =>
    rw [List.map_cons, strongestSource, strongestSource, List.foldl_map]
    rfl

variable (facts) in
/-- What a snapshot derives from facts, it derives from what counts of them. -/
theorem value_of_core : (resolveFacts rt profile routeId capability accessKind asOf facts).value rt =
    { (resolveFacts rt profile routeId capability accessKind asOf
        (facts.map EntitlementFact.core)).value rt with
      facts := facts.map fun fact ↦ fact.value rt
      activeFactIds := facts.map EntitlementFact.claimId
      fingerprint := rt.sha256
        (fingerprintPayload rt profile routeId capability accessKind asOf facts).dumpsAscii } := by
  simp only [EntitlementSnapshot.value, resolveFacts, currentFacts_core, observedFacts_core,
    quotaResolution_core, strongestSource_core, List.map_map, List.map_eq_nil_iff, List.any_map]
  rfl

/-- Facts with the same fields resolve to the same. -/
theorem value_of_values
    (h : facts.map (fun fact ↦ fact.value rt) = other.map fun fact ↦ fact.value rt)
    (hdigest : rt.sha256
        (fingerprintPayload rt profile routeId capability accessKind asOf facts).dumpsAscii =
      rt.sha256
        (fingerprintPayload rt profile routeId capability accessKind asOf other).dumpsAscii) :
    (resolveFacts rt profile routeId capability accessKind asOf facts).value rt =
      (resolveFacts rt profile routeId capability accessKind asOf other).value rt := by
  have hcore : facts.map EntitlementFact.core = other.map EntitlementFact.core := by
    refine map_eq_of_map_eq (fun a _ b _ hvalue ↦ ?_) h
    obtain ⟨hpayload, hsource, -⟩ := payload_of_value hvalue
    rw [EntitlementFact.core, EntitlementFact.core, hpayload, hsource]
  have hids : facts.map EntitlementFact.claimId = other.map EntitlementFact.claimId :=
    map_eq_of_map_eq (fun a _ b _ hvalue ↦ (payload_of_value hvalue).2.2) h
  refine (value_of_core facts).trans (Eq.trans ?_ (value_of_core other).symm)
  rw [hcore, h, hids, hdigest]

/-- Without collisions the fingerprint tells the fields of the facts. -/
theorem values_of_fingerprint (hsha : Function.Injective rt.sha256)
    (hfacts : About profile routeId capability accessKind facts)
    (hother : About profile routeId capability accessKind other)
    (hdigest : rt.sha256
        (fingerprintPayload rt profile routeId capability accessKind asOf facts).dumpsAscii =
      rt.sha256
        (fingerprintPayload rt profile routeId capability accessKind asOf other).dumpsAscii) :
    facts.map (fun fact ↦ fact.value rt) = other.map fun fact ↦ fact.value rt := by
  have hjson := Json.dumpsAscii_inj.mp (hsha hdigest)
  have hclaims : ((fingerprintPayload rt profile routeId capability accessKind asOf facts).get
      "active_claims").canonical =
      ((fingerprintPayload rt profile routeId capability accessKind asOf other).get
        "active_claims").canonical := by
    rw [← Json.get_canonical, ← Json.get_canonical, hjson]
  simp only [fingerprintPayload, Json.get, Json.get?, List.lookup_cons, String.reduceBEq,
    Option.getD_some, Json.canonical_arr, Json.arr.injEq, List.map_map] at hclaims
  refine map_eq_of_map_eq (fun a ha b hb hvalue ↦ ?_) hclaims
  obtain ⟨hprofile, hroute, hcapability, hkind⟩ := hfacts a ha
  obtain ⟨hprofile', hroute', hcapability', hkind'⟩ := hother b hb
  exact value_of_json (hprofile.trans hprofile'.symm) (hroute.trans hroute'.symm)
    (hcapability.trans hcapability'.symm) (hkind.trans hkind'.symm) hvalue

/-! ### What passes -/

variable {after : EvidenceDb} {s : SnapshotValue}

theorem Names.eq {routeId' capability' : Text} {accessKind' : AccessKind}
    (h : Names s routeId capability accessKind) (h' : Names s routeId' capability' accessKind') :
    routeId' = routeId ∧ capability' = capability ∧ accessKind' = accessKind :=
  ⟨Except.ok.inj (h'.route.symm.trans h.route), Except.ok.inj (h'.capability.symm.trans h.capability),
    Except.ok.inj (h'.kind.symm.trans h.kind)⟩

/-- A snapshot is made of the facts of the store. -/
theorem currentSnapshot_eq_ok {current : EntitlementSnapshot} :
    currentSnapshot rt profile db s = .ok current ↔ 0 ≤ s.asOfEpochSeconds ∧
      ∃ routeId capability accessKind facts, Names s routeId capability accessKind ∧
        StoreFacts rt profile db routeId capability accessKind facts ∧
        current = resolveFacts rt profile routeId capability accessKind s.asOfEpochSeconds facts := by
  simp only [currentSnapshot, snapshot, nonnegativeInt, bind_eq_ok, require_eq_ok, ofEvidence_eq_ok,
    Except.ok.injEq]
  constructor
  · rintro ⟨route, hroute, cap, hcap, kind, hkind, _, ⟨_, htime, rfl⟩, claims, hclaims, facts, hfacts,
      rfl⟩
    exact ⟨htime, route, cap, kind, facts, ⟨hroute, hcap, hkind⟩, ⟨claims, hclaims, hfacts⟩, rfl⟩
  · rintro ⟨htime, route, cap, kind, facts, ⟨hroute, hcap, hkind⟩, ⟨claims, hclaims, hfacts⟩, rfl⟩
    exact ⟨route, hroute, cap, hcap, kind, hkind, _, ⟨(), htime, rfl⟩, claims, hclaims, facts, hfacts,
      rfl⟩

theorem passes_iff : Passes rt profile db s ↔ BearsDigest rt profile db s := by
  simp only [Passes, assertCurrent, bind_eq_ok, require_eq_ok, currentSnapshot_eq_ok,
    Except.ok.injEq, exists_const]
  constructor
  · rintro ⟨_, hprofile, current, ⟨htime, route, cap, kind, facts, hnames, hfacts, rfl⟩, hdigest, -⟩
    exact ⟨hprofile, htime, route, cap, kind, facts, hnames, hfacts, hdigest.symm⟩
  · rintro ⟨hprofile, htime, route, cap, kind, facts, hnames, hfacts, hdigest⟩
    exact ⟨_, hprofile, _, ⟨htime, route, cap, kind, facts, hnames, hfacts, rfl⟩, hdigest.symm, rfl⟩

/-- What the store makes now passes. -/
theorem passes_of_isCurrentSnapshot (h : IsCurrentSnapshot rt profile db s) :
    Passes rt profile db s := by
  obtain ⟨current, hcurrent, hs⟩ := h
  obtain ⟨htime, route, cap, kind, facts, hnames, hfacts, hresolve⟩ := currentSnapshot_eq_ok.mp hcurrent
  rw [passes_iff]
  refine ⟨?_, htime, route, cap, kind, facts, hnames, hfacts, ?_⟩
  · rw [hs, hresolve]
    rfl
  · rw [hs, hresolve]
    rfl

theorem about_of_storeFacts (h : StoreFacts rt profile db routeId capability accessKind facts) :
    About profile routeId capability accessKind facts := by
  obtain ⟨claims, -, hfacts⟩ := h
  intro fact hfact
  obtain ⟨claim, -, hclaim⟩ := ((facts_of_factsFromClaims hfacts).2 fact).mp hfact
  obtain ⟨-, -, -, -, -, hprofile, hroute, hcapability, hkind⟩ :=
    fields_of_factOf (factFromClaim_eq_ok.mp hclaim).1
  exact ⟨hprofile, hroute, hcapability, hkind⟩

/-- The names of what was resolved are read back. -/
theorem names_value : Names ((resolveFacts rt profile routeId capability accessKind asOf facts).value rt)
    routeId capability accessKind :=
  ⟨truthText_val routeId _, truthText_val capability _, truthEnum_accessKind accessKind _⟩

/-- A snapshot that passes is the current one if and only if its fields are what the resolution of
facts gives. -/
theorem isCurrentSnapshot_iff (hsha : Function.Injective rt.sha256)
    (h : BearsDigest rt profile db s) :
    IsCurrentSnapshot rt profile db s ↔ ResolvesItself rt profile s := by
  obtain ⟨-, htime, route, cap, kind, facts, hnames, hfacts, hdigest⟩ := h
  have habout := about_of_storeFacts hfacts
  constructor
  · rintro ⟨current, hcurrent, hs⟩
    obtain ⟨-, route', cap', kind', facts', hnames', hfacts', rfl⟩ := currentSnapshot_eq_ok.mp hcurrent
    exact ⟨route', cap', kind', facts', about_of_storeFacts hfacts', hs⟩
  · rintro ⟨route', cap', kind', facts', habout', hs⟩
    have hnames' : Names s route' cap' kind' := hs ▸ names_value
    obtain ⟨rfl, rfl, rfl⟩ := hnames.eq hnames'
    refine ⟨_, currentSnapshot_eq_ok.mpr ⟨htime, route', cap', kind', facts, hnames, hfacts, rfl⟩, ?_⟩
    have hfingerprint : s.fingerprint = rt.sha256 (fingerprintPayload rt profile route' cap' kind'
        s.asOfEpochSeconds facts').dumpsAscii := congrArg SnapshotValue.fingerprint hs
    have hsame := hfingerprint.symm.trans hdigest
    exact hs.trans (value_of_values (values_of_fingerprint hsha habout' habout hsame) hsame)

/-! ### What becomes stale -/

variable (rt profile routeId capability accessKind) in
/-- A claim is under the key of an access. -/
structure UnderKey (claim : EvidenceClaim) : Prop where
  /-- It is about the profile. -/
  kind : claim.scopeKind = .profile
  /-- It is about this profile. -/
  scope : claim.scopeId = profile.profileId
  key : claim.key = strip (claimKey rt routeId capability accessKind)

variable (rt profile routeId capability accessKind) in
/-- Between two states of a store, a fact about an access was recorded or superseded. -/
inductive Changed (db after : EvidenceDb) : Prop
  | recorded (claim : EvidenceClaim) (hmem : claim ∈ after.claims) (hnew : claim ∉ db.claims)
      (hkey : UnderKey rt profile routeId capability accessKind claim)
  | superseded (claim : EvidenceClaim) (hmem : claim ∈ db.claims) (hactive : db.Active claim.id)
      (hgone : ¬ after.Active claim.id)
      (hkey : UnderKey rt profile routeId capability accessKind claim)

/-- The ids of the facts of the store are those of the active claims under the key. -/
theorem mem_ids_of_storeFacts (h : StoreFacts rt profile db routeId capability accessKind facts)
    {id : String} : id ∈ facts.map EntitlementFact.claimId ↔ ∃ claim ∈ db.claims,
      db.Active claim.id ∧ UnderKey rt profile routeId capability accessKind claim ∧
        claim.id = id := by
  obtain ⟨claims, hclaims, hfacts⟩ := h
  simp only [activeClaims, bind_eq_ok, require_eq_ok, Except.ok.injEq] at hclaims
  obtain ⟨-, -, -, -, hclaims⟩ := hclaims
  obtain ⟨hall, hmem⟩ := facts_of_factsFromClaims hfacts
  rw [List.mem_map]
  constructor
  · rintro ⟨fact, hfact, rfl⟩
    obtain ⟨claim, hclaim, heq⟩ := (hmem fact).mp hfact
    obtain ⟨-, -, -, hid, -⟩ := fields_of_factOf (factFromClaim_eq_ok.mp heq).1
    rw [← hclaims, List.mem_filter, decide_eq_true_eq] at hclaim
    obtain ⟨hclaim, hkind, hscope, hactive, hkey⟩ := hclaim
    exact ⟨claim, hclaim, hactive, ⟨hkind, hscope, hkey⟩, hid.symm⟩
  · rintro ⟨claim, hclaim, hactive, hkey, rfl⟩
    have hlisted : claim ∈ claims := by
      rw [← hclaims, List.mem_filter, decide_eq_true_eq]
      exact ⟨hclaim, hkey.kind, hkey.scope, hactive, hkey.key⟩
    obtain ⟨fact, hfact⟩ := hall claim hlisted
    obtain ⟨-, -, -, hid, -⟩ := fields_of_factOf (factFromClaim_eq_ok.mp hfact).1
    exact ⟨fact, (hmem fact).mpr ⟨claim, hlisted, hfact⟩, hid⟩

/-- Among the claims that were added under a key the newest is active. -/
theorem exists_active_of_new (hgrows : Grows db after) (hafter : EvidenceInvariant profile after)
    {claim : EvidenceClaim} (hmem : claim ∈ after.claims) (hnew : claim ∉ db.claims)
    (hkey : UnderKey rt profile routeId capability accessKind claim) :
    ∃ newest ∈ after.claims, newest ∉ db.claims ∧ after.Active newest.id ∧
      UnderKey rt profile routeId capability accessKind newest := by
  classical
  let added := after.claims.toFinset.filter fun other ↦
    other ∉ db.claims ∧ UnderKey rt profile routeId capability accessKind other
  have hadded {other : EvidenceClaim} : other ∈ added ↔ other ∈ after.claims ∧ other ∉ db.claims ∧
      UnderKey rt profile routeId capability accessKind other := by
    rw [Finset.mem_filter, List.mem_toFinset]
  obtain ⟨newest, hnewest, hlast⟩ := added.exists_max_image
    (fun other ↦ after.sequenceOf other.id) ⟨claim, hadded.mpr ⟨hmem, hnew, hkey⟩⟩
  obtain ⟨hnewestMem, hnewestNew, hnewestKey⟩ := hadded.mp hnewest
  refine ⟨newest, hnewestMem, hnewestNew, fun edge hedge hold ↦ ?_, hnewestKey⟩
  obtain ⟨newer, hnewer, older, holder, -, holdId, hkind, hscope, hsameKey, hlt⟩ :=
    hafter.edges edge hedge
  obtain rfl := hafter.eq_of_id holder hnewestMem (holdId.trans hold)
  by_cases hbefore : newer ∈ db.claims
  · exact absurd (hgrows.sequenceOf_lt hafter hbefore hnewestMem hnewestNew) hlt.not_gt
  · have hnewerKey : UnderKey rt profile routeId capability accessKind newer :=
      ⟨hkind.trans hnewestKey.kind, hscope.trans hnewestKey.scope, hsameKey.trans hnewestKey.key⟩
    exact absurd (hlast newer (hadded.mpr ⟨hnewer, hbefore, hnewerKey⟩)) hlt.not_ge

/-- After a fact about what it names was recorded or superseded, a snapshot never passes again. -/
theorem stale_of_changed (hsha : Function.Injective rt.sha256) (hgrows : Grows db after)
    (hafter : EvidenceInvariant profile after) (hnames : Names s routeId capability accessKind)
    (hchanged : Changed rt profile routeId capability accessKind db after)
    (hpasses : Passes rt profile db s) : ¬ Passes rt profile after s := by
  intro hpassesAfter
  obtain ⟨-, -, route, cap, kind, facts, hnamesBefore, hfacts, hdigest⟩ := passes_iff.mp hpasses
  obtain ⟨-, -, route', cap', kind', facts', hnamesAfter, hfacts', hdigest'⟩ :=
    passes_iff.mp hpassesAfter
  obtain ⟨rfl, rfl, rfl⟩ := hnames.eq hnamesBefore
  obtain ⟨rfl, rfl, rfl⟩ := hnames.eq hnamesAfter
  have hvalues := values_of_fingerprint hsha (about_of_storeFacts hfacts)
    (about_of_storeFacts hfacts') (hdigest.symm.trans hdigest')
  have hids : facts.map EntitlementFact.claimId = facts'.map EntitlementFact.claimId :=
    map_eq_of_map_eq (fun a _ b _ hvalue ↦ (payload_of_value hvalue).2.2) hvalues
  cases hchanged with
  | recorded claim hmem hnew hkey =>
    obtain ⟨newest, hnewest, hnotBefore, hactive, hnewestKey⟩ :=
      exists_active_of_new hgrows hafter hmem hnew hkey
    have hid := (mem_ids_of_storeFacts hfacts').mpr ⟨newest, hnewest, hactive, hnewestKey, rfl⟩
    rw [← hids] at hid
    obtain ⟨other, hother, -, -, hsame⟩ := (mem_ids_of_storeFacts hfacts).mp hid
    exact hnotBefore (hafter.eq_of_id (hgrows.mem hother) hnewest hsame ▸ hother)
  | superseded claim hmem hactive hgone hkey =>
    have hid := (mem_ids_of_storeFacts hfacts).mpr ⟨claim, hmem, hactive, hkey, rfl⟩
    rw [hids] at hid
    obtain ⟨other, -, hotherActive, -, hsame⟩ := (mem_ids_of_storeFacts hfacts').mp hid
    exact hgone (hsame ▸ hotherActive)

/-- A transaction of `record_fact` records a fact about the access that it names. -/
theorem preserves_changed (uuid : Uuid) (input : FactInput) :
    Preserves (EvidenceInvariant profile) (fun db after ↦ Grows db after ∧
      EvidenceInvariant profile after ∧ ∀ fact, normalizeFact rt input = .ok fact →
        Changed rt profile fact.payload.routeId fact.payload.capability fact.payload.accessKind db
          after)
      (recordFact rt profile uuid input) := by
  unfold recordFact
  refine preserves_fromExcept_bind fun fact hfact ↦ (preserves_checkOldFacts _ _).bind fun _ ↦
    (preserves_fromExcept _).bind fun _ ↦ Preserves.bind ?_ fun _ ↦ preserves_ask _
  refine Preserves.mapError (preserves_recordInput fun row db after hrow hevidence hcommit ↦ ?_) _ _
  have hcommitted := commitClaim_plainHost hcommit
  have hafter := hevidence.commit (normalizeClaim_spec hrow) hcommitted
  refine ⟨⟨hcommitted.grows, hafter, fun other hother ↦ ?_⟩, hafter⟩
  obtain rfl := Except.ok.inj (hfact.symm.trans hother)
  refine .recorded row ?_ (fun hmem ↦ hcommitted.fresh row hmem rfl) ?_
  · rw [hcommitted.claims]
    exact List.mem_append_right _ (List.mem_singleton_self row)
  · have hprofile := ScopeKind.ofName_name .profile
    simp only [normalizeClaim, NewFact.input, bind_eq_ok, orRaise_eq_ok, Except.ok.injEq] at hrow
    obtain ⟨_, -, _, -, kind, hkind, _, -, _, -, _, -, _, -, rfl⟩ := hrow
    exact ⟨(Option.some.inj (hprofile.symm.trans hkind)).symm, rfl, rfl⟩

end

/-- A snapshot passes when it is the current one and only then, if and only if, when it bears the digest
of the facts of the store, its fields are what the resolution of such facts gives. And after a fact about
what it names was recorded or superseded, it never passes again; `record_fact` records one.

Assumes: no collisions among digests. -/
theorem snapshot_integrity (rt : AccessRuntime) (profile : Profile)
    (hsha : Function.Injective rt.sha256) :
    (∀ db s, (Passes rt profile db s ↔ IsCurrentSnapshot rt profile db s) ↔
      (BearsDigest rt profile db s → ResolvesItself rt profile s)) ∧
    (∀ db after s routeId capability accessKind, Grows db after → EvidenceInvariant profile after →
      Names s routeId capability accessKind →
      Changed rt profile routeId capability accessKind db after →
        Passes rt profile db s → ¬ Passes rt profile after s) ∧
    ∀ uuid input, Preserves (EvidenceInvariant profile) (fun db after ↦ Grows db after ∧
      EvidenceInvariant profile after ∧ ∀ fact, normalizeFact rt input = .ok fact →
        Changed rt profile fact.payload.routeId fact.payload.capability fact.payload.accessKind db
          after)
      (recordFact rt profile uuid input) := by
  refine ⟨fun db s ↦ ?_, fun _ _ _ _ _ _ ↦ stale_of_changed hsha, preserves_changed⟩
  constructor
  · intro hexact hbears
    exact (isCurrentSnapshot_iff hsha hbears).mp (hexact.mp (passes_iff.mpr hbears))
  · intro hresolves
    refine ⟨fun hpasses ↦ ?_, passes_of_isCurrentSnapshot⟩
    have hbears := passes_iff.mp hpasses
    exact (isCurrentSnapshot_iff hsha hbears).mpr (hresolves hbears)

/-! ### A plugin that nothing is known of -/

/-- The digests of the key of the plugin and of a snapshot of it without facts. -/
def pluginDigests : List (String × String) :=
  [("n0te-entitlement-key/v1\x00reverb\x00reverb\x00PLUGIN",
      "15648a2fbc9687c1be795f30e3a9468ea0cfa0fb7fcbc6720e9e72bdec79befd"),
    ("\x7b\"access_kind\":\"PLUGIN\",\"active_claims\":[],\"as_of_epoch_seconds\":60," ++
        "\"capability\":\"reverb\",\"profile_id\":\"prf_aaaaaaaaaaaaaaaaaaaaaaaaaaaaaaa0\"," ++
        "\"route_id\":\"reverb\"\x7d",
      "577f2649b8dc06d5eacdbae2427c885a9fd8e7bade836ddd41747ef9498de0d8")]

/-- A runtime without collisions. -/
def hashRuntime : AccessRuntime := { pluginRuntime with sha256 := tableDigest pluginDigests }

theorem hashRuntime_injective : Function.Injective hashRuntime.sha256 :=
  tableDigest_injective (by decide +kernel) (by decide +kernel)

/-- The snapshot of a store without facts, but for the entitlement that makes eligible. -/
def modifiedSnapshot : SnapshotValue where
  profileId := "prf_aaaaaaaaaaaaaaaaaaaaaaaaaaaaaaa0"
  routeId := "reverb"
  capability := "reverb"
  accessKind := "PLUGIN"
  asOfEpochSeconds := 60
  resolutionStatus := .unknown
  validityState := .unknown
  entitlementState := .unknown
  permissionState := .unknown
  eligibilityEntitlementState := .granted
  eligibilityPermissionState := .unknown
  quotaStatus := .unknown
  quotaRemaining := none
  quotaUnit := none
  strongestSourceClass := "NONE"
  providerVerified := false
  strongAccessEvidence := false
  facts := []
  activeFactIds := []
  fingerprint := "577f2649b8dc06d5eacdbae2427c885a9fd8e7bade836ddd41747ef9498de0d8"

theorem sample_snapshot_integrity :
    (Passes hashRuntime pluginProfile .empty modifiedSnapshot ↔
      IsCurrentSnapshot hashRuntime pluginProfile .empty modifiedSnapshot) ↔
    (BearsDigest hashRuntime pluginProfile .empty modifiedSnapshot →
      ResolvesItself hashRuntime pluginProfile modifiedSnapshot) :=
  (snapshot_integrity hashRuntime pluginProfile hashRuntime_injective).1 .empty modifiedSnapshot

theorem modified_snapshot_passes :
    Passes hashRuntime pluginProfile .empty modifiedSnapshot ∧
      ¬ IsCurrentSnapshot hashRuntime pluginProfile .empty modifiedSnapshot := by
  have hpassed : (assertCurrent hashRuntime pluginProfile .empty modifiedSnapshot).toOption.map
      (fun current ↦ current.value hashRuntime) =
        some { modifiedSnapshot with eligibilityEntitlementState := .unknown } := by decide +kernel
  obtain ⟨current, hcurrent, hvalue⟩ := Option.map_eq_some_iff.mp hpassed
  have hok := toOption_eq_some.mp hcurrent
  refine ⟨⟨current, hok⟩, ?_⟩
  rintro ⟨other, hother, hs⟩
  simp only [assertCurrent, bind_eq_ok, require_eq_ok, Except.ok.injEq] at hok
  obtain ⟨_, -, current', hcurrent', _, -, rfl⟩ := hok
  obtain rfl := Except.ok.inj (hcurrent'.symm.trans hother)
  rw [← hs] at hvalue
  exact absurd (congrArg SnapshotValue.eligibilityEntitlementState hvalue) (by decide)

end N0te.Capabilities
