import N0te.Capabilities.EntitlementTruth

/-!
# Which facts a snapshot counts

`IsCurrent` says of a fact that it is current in a store at some time: its claim is active, it had been
observed by then, and it has not expired. `current_of_snapshot` says that these are the facts that a
snapshot resolves, and `TruthOf` what it makes of them: a granted or denied entitlement is one on which
all current facts agree, without a conflict about entitlement, permission or quota
(`truth_of_snapshot`).
-/

set_option autoImplicit false
set_option relaxedAutoImplicit false

namespace N0te.Capabilities

open Library Lineage People Evidence

/-! ### Agreement -/

/-- A quota that a fact tells of. -/
def EntitlementFact.quota (fact : EntitlementFact) : Option (FloatText × Option Text) :=
  fact.payload.quotaRemaining.map (·, fact.payload.quotaUnit)

/-- Some facts are in conflict about nothing. -/
structure Agreed (facts : EntitlementFact → Prop) : Prop where
  /-- They say the same of the entitlement. -/
  entitlement : ∀ a b, facts a → facts b → a.payload.entitlementState = b.payload.entitlementState
  /-- They say the same of the permission. -/
  permission : ∀ a b, facts a → facts b → a.payload.permissionState = b.payload.permissionState
  /-- Those that tell of a quota tell of the same one. -/
  quota : ∀ a b, facts a → facts b → ∀ p ∈ a.quota, ∀ q ∈ b.quota, sameQuota p q = true

/-- What a snapshot makes of the facts that count. -/
structure TruthOf (facts : EntitlementFact → Prop) (access : EntitlementSnapshot) : Prop where
  granted : access.eligibilityEntitlementState = .granted ↔
    (∃ fact, facts fact) ∧ (∀ fact, facts fact → fact.payload.entitlementState = .granted) ∧
      Agreed facts ∧ ∃ fact, facts fact ∧ fact.strongAccessEvidence = true
  denied : access.eligibilityEntitlementState = .denied ↔
    (∃ fact, facts fact) ∧ (∀ fact, facts fact → fact.payload.entitlementState = .denied) ∧
      Agreed facts

section

variable {facts : List EntitlementFact}

theorem stateResolution_agreed {states : List AccessState} :
    (stateResolution states).2 = false ↔ ∀ a ∈ states, ∀ b ∈ states, a = b := by
  cases states with
  | nil => simp [stateResolution]
  | cons first rest =>
    rw [stateResolution]
    by_cases hall : rest.all (· == first) = true
    · rw [if_pos hall]
      simp only [List.all_eq_true, beq_iff_eq] at hall
      have hsame : ∀ state ∈ first :: rest, state = first := List.forall_mem_cons.mpr ⟨rfl, hall⟩
      exact ⟨fun _ a ha b hb ↦ (hsame a ha).trans (hsame b hb).symm, fun _ ↦ rfl⟩
    · rw [if_neg hall]
      refine ⟨by rintro ⟨⟩, fun h ↦ absurd ?_ hall⟩
      simp only [List.all_eq_true, beq_iff_eq]
      exact fun state hstate ↦ h state (List.mem_cons_of_mem _ hstate) first List.mem_cons_self

theorem stateResolution_eq {states : List AccessState} (state : AccessState)
    (hknown : state ≠ .unknown) :
    (stateResolution states).1 = state ↔ states ≠ [] ∧ ∀ other ∈ states, other = state := by
  cases states with
  | nil => exact ⟨fun h ↦ absurd h.symm hknown, fun h ↦ absurd rfl h.1⟩
  | cons first rest =>
    rw [stateResolution]
    by_cases hall : rest.all (· == first) = true
    · rw [if_pos hall]
      simp only [List.all_eq_true, beq_iff_eq] at hall
      constructor
      · rintro rfl
        exact ⟨List.cons_ne_nil _ _, List.forall_mem_cons.mpr ⟨rfl, hall⟩⟩
      · exact fun h ↦ h.2 first List.mem_cons_self
    · rw [if_neg hall]
      refine ⟨fun h ↦ absurd h.symm hknown, fun h ↦ absurd ?_ hall⟩
      obtain ⟨hfirst, hrest⟩ := List.forall_mem_cons.mp h.2
      simp only [List.all_eq_true, beq_iff_eq]
      exact fun other hother ↦ (hrest other hother).trans hfirst.symm

theorem sameFloat_symm {f g : FloatText} (h : sameFloat f g = true) : sameFloat g f = true := by
  unfold sameFloat at h ⊢
  rw [Bool.or_eq_true, Bool.and_eq_true] at h ⊢
  exact h.imp (fun heq ↦ beq_iff_eq.mpr (beq_iff_eq.mp heq).symm) And.symm

theorem sameFloat_trans {f g k : FloatText} (h : sameFloat f g = true) (h' : sameFloat g k = true) :
    sameFloat f k = true := by
  unfold sameFloat at *
  rw [Bool.or_eq_true, Bool.and_eq_true, beq_iff_eq] at *
  rcases h with rfl | h
  · exact h'
  · rcases h' with rfl | h'
    · exact .inr h
    · exact .inr ⟨h.1, h'.2⟩

theorem sameQuota_symm {p q : FloatText × Option Text} (h : sameQuota p q = true) :
    sameQuota q p = true := by
  unfold sameQuota at *
  rw [Bool.and_eq_true, beq_iff_eq] at *
  exact ⟨sameFloat_symm h.1, h.2.symm⟩

theorem sameQuota_trans {p q r : FloatText × Option Text} (h : sameQuota p q = true)
    (h' : sameQuota q r = true) : sameQuota p r = true := by
  unfold sameQuota at *
  rw [Bool.and_eq_true, beq_iff_eq] at *
  exact ⟨sameFloat_trans h.1 h'.1, h.2.trans h'.2⟩

theorem sameQuota_refl (p : FloatText × Option Text) : sameQuota p p = true := by
  simp [sameQuota, sameFloat]

theorem quotaResolution_agreed : (quotaResolution facts).1 ≠ .conflict ↔
    ∀ a ∈ facts, ∀ b ∈ facts, ∀ p ∈ a.quota, ∀ q ∈ b.quota, sameQuota p q = true := by
  have hquotas : (∀ a ∈ facts, ∀ b ∈ facts, ∀ p ∈ a.quota, ∀ q ∈ b.quota, sameQuota p q = true) ↔
      ∀ p ∈ facts.filterMap EntitlementFact.quota, ∀ q ∈ facts.filterMap EntitlementFact.quota,
        sameQuota p q = true := by
    simp only [List.mem_filterMap, Option.mem_def]
    constructor
    · rintro h p ⟨a, ha, hp⟩ q ⟨b, hb, hq⟩
      exact h a ha b hb p hp q hq
    · exact fun h a ha b hb p hp q hq ↦ h p ⟨a, ha, hp⟩ q ⟨b, hb, hq⟩
  rw [hquotas]
  have hquota : (fun fact : EntitlementFact ↦
      fact.payload.quotaRemaining.map (·, fact.payload.quotaUnit)) = EntitlementFact.quota := rfl
  rw [quotaResolution, hquota]
  rcases facts.filterMap EntitlementFact.quota with _ | ⟨first, rest⟩
  · simp
  · by_cases hall : rest.all (sameQuota first) = true
    · simp only [hall, if_true]
      rw [List.all_eq_true] at hall
      have hsame : ∀ q ∈ first :: rest, sameQuota first q = true :=
        List.forall_mem_cons.mpr ⟨sameQuota_refl first, hall⟩
      exact ⟨fun _ p hp q hq ↦ sameQuota_trans (sameQuota_symm (hsame p hp)) (hsame q hq),
        by rintro _ ⟨⟩⟩
    · simp only [hall]
      refine ⟨fun h ↦ absurd rfl h, fun h ↦ absurd ?_ hall⟩
      exact List.all_eq_true.mpr fun q hq ↦
        h first List.mem_cons_self q (List.mem_cons_of_mem _ hq)

/-! ### What is resolved -/

variable {rt : AccessRuntime} {profile : Profile} {routeId capability : Text}
  {accessKind : AccessKind} {asOf : ℤ} {access : EntitlementSnapshot}

/-- The current facts of a list are in conflict about nothing. -/
theorem agreed_iff : Agreed (· ∈ facts) ↔
    ((stateResolution (facts.map fun fact ↦ fact.payload.entitlementState)).2 ||
      (stateResolution (facts.map fun fact ↦ fact.payload.permissionState)).2 ||
        decide ((quotaResolution facts).1 = .conflict)) = false := by
  rw [Bool.or_eq_false_iff, Bool.or_eq_false_iff, stateResolution_agreed, stateResolution_agreed,
    decide_eq_false_iff_not, ← ne_eq, quotaResolution_agreed]
  simp only [List.forall_mem_map]
  constructor
  · exact fun h ↦ ⟨⟨fun a ha b hb ↦ h.entitlement a b ha hb, fun a ha b hb ↦ h.permission a b ha hb⟩,
      fun a ha b hb ↦ h.quota a b ha hb⟩
  · rintro ⟨⟨hentitlement, hpermission⟩, hquota⟩
    exact ⟨fun a b ha hb ↦ hentitlement a ha b hb, fun a b ha hb ↦ hpermission a ha b hb,
      fun a b ha hb ↦ hquota a ha b hb⟩

/-- A snapshot is resolved and current when there are current facts and they agree. -/
theorem resolved_current_iff
    (h : access = resolveFacts rt profile routeId capability accessKind asOf facts) :
    access.resolutionStatus = .resolved ∧ access.validityState = .current ↔
      currentFacts asOf facts ≠ [] ∧ Agreed (· ∈ currentFacts asOf facts) := by
  rw [h, agreed_iff]
  by_cases hnone : currentFacts asOf facts = []
  · simp only [resolveFacts, hnone, ne_eq, not_true_eq_false, false_and, iff_false, not_and]
    intro _
    split_ifs <;> rintro ⟨⟩
  · have hobserved : observedFacts asOf facts ≠ [] := fun hempty ↦ hnone (by
      rw [currentFacts, hempty]
      rfl)
    simp only [resolveFacts, hnone, hobserved, if_false, and_true, ne_eq, not_false_eq_true,
      true_and]
    split_ifs with hconflict
    · simp only [hconflict]
      exact ⟨by rintro ⟨⟩, by rintro ⟨⟩⟩
    · simp only [Bool.not_eq_true] at hconflict
      exact ⟨fun _ ↦ hconflict, fun _ ↦ rfl⟩

theorem eligibilityState_eq_denied {state : AccessState} {resolved current strong : Bool} :
    eligibilityState state resolved current strong = .denied ↔
      state = .denied ∧ resolved = true ∧ current = true := by
  cases state <;> cases resolved <;> cases current <;> cases strong <;> simp [eligibilityState]

/-- What a snapshot makes of its current facts. -/
theorem truth_of_resolveFacts
    (h : access = resolveFacts rt profile routeId capability accessKind asOf facts) :
    TruthOf (· ∈ currentFacts asOf facts) access := by
  have hresolved := resolved_current_iff h
  have heligible : access.eligibilityEntitlementState = eligibilityState
      (stateResolution ((currentFacts asOf facts).map fun fact ↦ fact.payload.entitlementState)).1
      (decide (access.resolutionStatus = .resolved)) (decide (access.validityState = .current))
      access.strongAccessEvidence := by
    rw [h]
    rfl
  have hstrong : access.strongAccessEvidence = true ↔
      ∃ fact ∈ currentFacts asOf facts, fact.strongAccessEvidence = true := by
    rw [h]
    exact List.any_eq_true
  have hsome : currentFacts asOf facts ≠ [] ↔ ∃ fact, fact ∈ currentFacts asOf facts :=
    ⟨List.exists_mem_of_ne_nil _, fun ⟨_, hmem⟩ ↦ List.ne_nil_of_mem hmem⟩
  constructor
  · rw [heligible, eligibilityState_eq_granted, stateResolution_eq _ (by decide), decide_eq_true_iff,
      decide_eq_true_iff, List.forall_mem_map, hstrong]
    constructor
    · rintro ⟨⟨-, hall⟩, hresolution, hvalidity, hany⟩
      obtain ⟨hne, hagreed⟩ := hresolved.mp ⟨hresolution, hvalidity⟩
      exact ⟨hsome.mp hne, hall, hagreed, hany⟩
    · rintro ⟨hexists, hall, hagreed, hany⟩
      have hne := hsome.mpr hexists
      obtain ⟨hresolution, hvalidity⟩ := hresolved.mpr ⟨hne, hagreed⟩
      exact ⟨⟨by simpa using hne, hall⟩, hresolution, hvalidity, hany⟩
  · rw [heligible, eligibilityState_eq_denied, stateResolution_eq _ (by decide), decide_eq_true_iff,
      decide_eq_true_iff, List.forall_mem_map]
    constructor
    · rintro ⟨⟨-, hall⟩, hresolution, hvalidity⟩
      obtain ⟨hne, hagreed⟩ := hresolved.mp ⟨hresolution, hvalidity⟩
      exact ⟨hsome.mp hne, hall, hagreed⟩
    · rintro ⟨hexists, hall, hagreed⟩
      have hne := hsome.mpr hexists
      obtain ⟨hresolution, hvalidity⟩ := hresolved.mpr ⟨hne, hagreed⟩
      exact ⟨⟨by simpa using hne, hall⟩, hresolution, hvalidity⟩

end

/-! ### The facts that count -/

section

variable (rt : AccessRuntime) (profile : Profile) (db : EvidenceDb)

/-- A claim of the store is a fact about an access. -/
structure IsFact (routeId capability : Text) (accessKind : AccessKind) (claim : EvidenceClaim)
    (fact : EntitlementFact) : Prop where
  /-- The claim is in the store. -/
  mem : claim ∈ db.claims
  /-- It is a fact about the access. -/
  eq : factOf rt profile db routeId capability accessKind claim = .ok fact

/-- A fact about an access that nothing supersedes, that had been observed and has not expired. -/
structure IsCurrent (routeId capability : Text) (accessKind : AccessKind) (asOf : ℤ)
    (fact : EntitlementFact) : Prop where
  active : ∃ claim, IsFact rt profile db routeId capability accessKind claim fact ∧
    db.Active claim.id
  observed : fact.payload.observedAtEpochSeconds ≤ asOf
  unexpired : ∀ expiresAt ∈ fact.payload.expiresAtEpochSeconds, asOf < expiresAt

/-- The digests are hexadecimal. -/
def HexDigests : Prop := ∀ text, ∀ c ∈ (rt.sha256 text).toList, isHexDigit c = true

end

section

variable {rt : AccessRuntime} {profile : Profile} {db : EvidenceDb} {routeId capability : Text}
  {accessKind : AccessKind} {asOf : ℤ} {claim : EvidenceClaim} {fact : EntitlementFact}

/-- What the checks of a claim say of its fact. -/
theorem fields_of_factOf (h : factOf rt profile db routeId capability accessKind claim = .ok fact) :
    claim.scopeKind = .profile ∧ claim.scopeId = profile.profileId ∧
      claim.key = claimKey rt routeId capability accessKind ∧ fact.claimId = claim.id ∧
      fact.sourceKind = claim.sourceKind ∧ fact.profileId = profile.profileId ∧
      fact.payload.routeId = routeId ∧ fact.payload.capability = capability ∧
      fact.payload.accessKind = accessKind := by
  simp only [factOf, bind_eq_ok, require_eq_ok, malformedAs_eq_ok, Except.ok.injEq] at h
  obtain ⟨_, ⟨hkind, hscope⟩, _, -, _, -, _, -, _, -, _, -, payload, -, _, -, _, hkey, _, rfl, _, rfl,
    _, rfl, rfl⟩ := h
  exact ⟨hkind, hscope, hkey, rfl, rfl, hscope, rfl, rfl, rfl⟩

theorem payload_of_factOf
    (h : factOf rt profile db routeId capability accessKind claim = .ok fact) :
    evidencePayload rt claim.value = .ok fact.payload := by
  simp only [factOf, bind_eq_ok, malformedAs_eq_ok, Except.ok.injEq] at h
  obtain ⟨_, -, _, -, _, -, _, -, _, -, _, -, payload, hpayload, _, -, _, -, _, -, _, -, _, -, rfl⟩ := h
  exact hpayload

/-- A key begins with the name of the service. -/
theorem exists_claimKey (rt : AccessRuntime) (routeId capability : Text) (accessKind : AccessKind) :
    ∃ text, claimKey rt routeId capability accessKind = "studio.entitlement.v1." ++ rt.sha256 text :=
  ⟨_, rfl⟩

theorem claimKey_ne_empty (routeId capability : Text) (accessKind : AccessKind) :
    claimKey rt routeId capability accessKind ≠ "" := by
  obtain ⟨text, htext⟩ := exists_claimKey rt routeId capability accessKind
  rw [htext]
  intro hempty
  exact absurd (String.append_eq_empty_iff.mp hempty).1 (by decide)

theorem strip_claimKey (hhex : HexDigests rt) (routeId capability : Text)
    (accessKind : AccessKind) : strip (claimKey rt routeId capability accessKind) =
      claimKey rt routeId capability accessKind := by
  obtain ⟨text, htext⟩ := exists_claimKey rt routeId capability accessKind
  have hprefix : "studio.entitlement.v1.".toList.all (fun c ↦ !isSpace c) = true := by
    decide +kernel
  rw [htext]
  refine strip_eq_self ?_
  rw [String.toList_append, List.all_append, hprefix, Bool.true_and, List.all_eq_true]
  exact fun c hc ↦ by rw [not_space_of_isHexDigit (hhex _ c hc), Bool.not_false]

/-- The check of the claims that a claim supersedes passes when none was observed later. -/
theorem checkRegression_eq_ok {ids : List String} :
    checkRegression rt profile db fact ids = .ok () ↔ ∀ id ∈ ids, ∃ old oldFact,
      db.getClaim id = some old ∧ factOf rt profile db fact.payload.routeId fact.payload.capability
        fact.payload.accessKind old = .ok oldFact ∧
          oldFact.payload.observedAtEpochSeconds ≤ fact.payload.observedAtEpochSeconds := by
  induction ids with
  | nil => exact ⟨fun _ ↦ List.forall_mem_nil _, fun _ ↦ rfl⟩
  | cons id rest ih =>
    simp only [checkRegression, bind_eq_ok, orRaise_eq_ok, require_eq_ok, exists_const,
      List.forall_mem_cons, ih]
    constructor
    · rintro ⟨old, hold, oldFact, holdFact, htime, hrest⟩
      exact ⟨⟨old, oldFact, hold, holdFact, htime⟩, hrest⟩
    · rintro ⟨⟨old, oldFact, hold, holdFact, htime⟩, hrest⟩
      exact ⟨old, hold, oldFact, holdFact, htime, hrest⟩

theorem mem_supersededIds {claimId id : String} :
    id ∈ supersededIds db claimId ↔ ⟨claimId, id⟩ ∈ db.supersessions := by
  rw [supersededIds, List.mem_insertionSort, List.mem_map]
  constructor
  · rintro ⟨⟨newId, oldId⟩, hedge, rfl⟩
    obtain ⟨hmem, hnew⟩ := List.mem_filter.mp hedge
    obtain rfl : newId = claimId := of_decide_eq_true hnew
    exact hmem
  · exact fun h ↦ ⟨⟨claimId, id⟩, List.mem_filter.mpr ⟨h, decide_eq_true rfl⟩, rfl⟩

theorem factFromClaim_eq_ok :
    factFromClaim rt profile db routeId capability accessKind claim = .ok fact ↔
      factOf rt profile db routeId capability accessKind claim = .ok fact ∧
        ∀ id, ⟨claim.id, id⟩ ∈ db.supersessions → ∃ old oldFact, db.getClaim id = some old ∧
          factOf rt profile db routeId capability accessKind old = .ok oldFact ∧
            oldFact.payload.observedAtEpochSeconds ≤ fact.payload.observedAtEpochSeconds := by
  simp only [factFromClaim, bind_eq_ok, Except.ok.injEq]
  constructor
  · rintro ⟨found, hfound, _, hcheck, rfl⟩
    obtain ⟨-, -, -, -, -, -, hroute, hcapability, hkind⟩ := fields_of_factOf hfound
    rw [checkRegression_eq_ok, hroute, hcapability, hkind] at hcheck
    exact ⟨hfound, fun id hid ↦ hcheck id (mem_supersededIds.mpr hid)⟩
  · rintro ⟨hfact, hcheck⟩
    obtain ⟨-, -, -, -, -, -, hroute, hcapability, hkind⟩ := fields_of_factOf hfact
    refine ⟨fact, hfact, (), checkRegression_eq_ok.mpr fun id hid ↦ ?_, rfl⟩
    rw [hroute, hcapability, hkind]
    exact hcheck id (mem_supersededIds.mp hid)

/-- The facts of some claims: each claim has one. -/
theorem facts_of_factsFromClaims {claims : List EvidenceClaim} {facts : List EntitlementFact}
    (h : factsFromClaims rt profile db routeId capability accessKind claims = .ok facts) :
    (∀ claim ∈ claims, ∃ fact,
      factFromClaim rt profile db routeId capability accessKind claim = .ok fact) ∧
    ∀ fact, fact ∈ facts ↔ ∃ claim ∈ claims,
      factFromClaim rt profile db routeId capability accessKind claim = .ok fact := by
  induction claims generalizing facts with
  | nil =>
    cases h
    simp
  | cons claim rest ih =>
    simp only [factsFromClaims, bind_eq_ok, Except.ok.injEq] at h
    obtain ⟨first, hfirst, others, hothers, rfl⟩ := h
    obtain ⟨hall, hmem⟩ := ih hothers
    refine ⟨List.forall_mem_cons.mpr ⟨⟨first, hfirst⟩, hall⟩, fun fact ↦ ?_⟩
    rw [List.mem_cons, hmem, List.exists_mem_cons_iff, hfirst, Except.ok.injEq, eq_comm]

theorem mem_currentFacts {facts : List EntitlementFact} : fact ∈ currentFacts asOf facts ↔
    fact ∈ facts ∧ fact.payload.observedAtEpochSeconds ≤ asOf ∧
      ∀ expiresAt ∈ fact.payload.expiresAtEpochSeconds, asOf < expiresAt := by
  have hunexpired : (!fact.isExpired asOf) = true ↔
      ∀ expiresAt ∈ fact.payload.expiresAtEpochSeconds, asOf < expiresAt := by
    rw [EntitlementFact.isExpired]
    cases fact.payload.expiresAtEpochSeconds <;> simp
  rw [currentFacts, observedFacts, List.mem_filter, List.mem_filter, hunexpired, decide_eq_true_eq,
    and_assoc]

/-- What a snapshot was made of. -/
theorem snapshot_eq_ok {routeName capabilityName kindName : String} {access : EntitlementSnapshot}
    (h : snapshot rt profile db routeName capabilityName kindName asOf = .ok access) :
    0 ≤ asOf ∧ truthText (.str routeName) "route_id" = .ok access.routeId ∧
      truthText (.str capabilityName) "capability" = .ok access.capability ∧
      truthEnum AccessKind.ofName (.str kindName) "access_kind" = .ok access.accessKind ∧
      ∃ claims,
        activeClaims profile .profile profile.profileId
          (claimKey rt access.routeId access.capability access.accessKind) db = .ok claims ∧
        factsFromClaims rt profile db access.routeId access.capability access.accessKind claims =
          .ok access.facts ∧
        access = resolveFacts rt profile access.routeId access.capability access.accessKind asOf
          access.facts := by
  simp only [snapshot, nonnegativeInt, bind_eq_ok, require_eq_ok, ofEvidence_eq_ok,
    Except.ok.injEq] at h
  obtain ⟨route, hroute, cap, hcap, kind, hkind, _, ⟨_, htime, rfl⟩, claims, hclaims, facts, hfacts,
    rfl⟩ := h
  exact ⟨htime, hroute, hcap, hkind, claims, hclaims, hfacts, rfl⟩

theorem factsFromClaims_of_all {claims : List EvidenceClaim}
    (h : ∀ claim ∈ claims, ∃ fact,
      factFromClaim rt profile db routeId capability accessKind claim = .ok fact) :
    ∃ facts, factsFromClaims rt profile db routeId capability accessKind claims = .ok facts := by
  induction claims with
  | nil => exact ⟨[], rfl⟩
  | cons claim rest ih =>
    obtain ⟨⟨fact, hfact⟩, hrest⟩ := List.forall_mem_cons.mp h
    obtain ⟨facts, hfacts⟩ := ih hrest
    exact ⟨fact :: facts, by simp only [factsFromClaims, bind_eq_ok]; exact ⟨_, hfact, _, hfacts, rfl⟩⟩

/-- There is a snapshot when every claim that it reads is a fact. -/
theorem exists_snapshot {routeName capabilityName kindName : String} {claims : List EvidenceClaim}
    (htime : 0 ≤ asOf) (hroute : truthText (.str routeName) "route_id" = .ok routeId)
    (hcapability : truthText (.str capabilityName) "capability" = .ok capability)
    (hkind : truthEnum AccessKind.ofName (.str kindName) "access_kind" = .ok accessKind)
    (hclaims : activeClaims profile .profile profile.profileId
      (claimKey rt routeId capability accessKind) db = .ok claims)
    (hvalid : ∀ claim ∈ claims, ∃ fact,
      factFromClaim rt profile db routeId capability accessKind claim = .ok fact) :
    ∃ access, snapshot rt profile db routeName capabilityName kindName asOf = .ok access ∧
      access.routeId = routeId ∧ access.capability = capability ∧
        access.accessKind = accessKind := by
  obtain ⟨facts, hfacts⟩ := factsFromClaims_of_all hvalid
  refine ⟨resolveFacts rt profile routeId capability accessKind asOf facts, ?_, rfl, rfl, rfl⟩
  simp only [snapshot, nonnegativeInt, bind_eq_ok, require_eq_ok, ofEvidence_eq_ok,
    Except.ok.injEq]
  exact ⟨routeId, hroute, capability, hcapability, accessKind, hkind, asOf, ⟨(), htime, rfl⟩, claims,
    hclaims, facts, hfacts, rfl⟩

section

variable {routeName capabilityName kindName : String} {access : EntitlementSnapshot}
  (hhex : HexDigests rt)
  (h : snapshot rt profile db routeName capabilityName kindName asOf = .ok access)

include hhex h

/-- The facts of a snapshot are those that nothing supersedes. -/
theorem mem_facts_of_snapshot : fact ∈ access.facts ↔ ∃ claim,
    IsFact rt profile db access.routeId access.capability access.accessKind claim fact ∧
      db.Active claim.id := by
  obtain ⟨-, -, -, -, claims, hclaims, hfacts, -⟩ := snapshot_eq_ok h
  simp only [activeClaims, bind_eq_ok, require_eq_ok, Except.ok.injEq] at hclaims
  obtain ⟨-, -, -, -, hclaims⟩ := hclaims
  obtain ⟨hall, hmem⟩ := facts_of_factsFromClaims hfacts
  rw [hmem]
  constructor
  · rintro ⟨claim, hclaim, heq⟩
    rw [← hclaims, List.mem_filter, decide_eq_true_eq] at hclaim
    exact ⟨claim, ⟨hclaim.1, (factFromClaim_eq_ok.mp heq).1⟩, hclaim.2.2.2.1⟩
  · rintro ⟨claim, ⟨hclaim, heq⟩, hactive⟩
    obtain ⟨hkind, hscope, hkey, -⟩ := fields_of_factOf heq
    have hlisted : claim ∈ claims := by
      rw [← hclaims, List.mem_filter, decide_eq_true_eq, strip_claimKey hhex]
      exact ⟨hclaim, hkind, hscope, hactive, hkey⟩
    obtain ⟨found, hfound⟩ := hall claim hlisted
    obtain rfl := Except.ok.inj ((factFromClaim_eq_ok.mp hfound).1.symm.trans heq)
    exact ⟨claim, hlisted, hfound⟩

/-- The facts that a snapshot resolves are the current ones. -/
theorem current_of_snapshot : fact ∈ currentFacts asOf access.facts ↔
    IsCurrent rt profile db access.routeId access.capability access.accessKind asOf fact := by
  rw [mem_currentFacts, mem_facts_of_snapshot hhex h]
  exact ⟨fun ⟨hactive, hobserved, hunexpired⟩ ↦ ⟨hactive, hobserved, hunexpired⟩,
    fun hcurrent ↦ ⟨hcurrent.active, hcurrent.observed, hcurrent.unexpired⟩⟩

/-- What a snapshot makes of the current facts of the store. -/
theorem truth_of_snapshot :
    TruthOf (IsCurrent rt profile db access.routeId access.capability access.accessKind asOf)
      access := by
  obtain ⟨-, -, -, -, claims, -, -, hresolve⟩ := snapshot_eq_ok h
  have hsame : (· ∈ currentFacts asOf access.facts) =
      IsCurrent rt profile db access.routeId access.capability access.accessKind asOf :=
    funext fun fact ↦ propext (current_of_snapshot hhex h)
  exact hsame ▸ truth_of_resolveFacts hresolve

end

/-- A fact of a snapshot was not observed before one that it supersedes. -/
theorem times_of_snapshot {routeName capabilityName kindName : String}
    {access : EntitlementSnapshot}
    (h : snapshot rt profile db routeName capabilityName kindName asOf = .ok access)
    (hfact : fact ∈ access.facts) {oldId : String}
    (hedge : ⟨fact.claimId, oldId⟩ ∈ db.supersessions) :
    ∃ old oldFact, db.getClaim oldId = some old ∧
      factOf rt profile db access.routeId access.capability access.accessKind old = .ok oldFact ∧
        oldFact.payload.observedAtEpochSeconds ≤ fact.payload.observedAtEpochSeconds := by
  obtain ⟨-, -, -, -, claims, -, hfacts, -⟩ := snapshot_eq_ok h
  obtain ⟨claim, -, hclaim⟩ := ((facts_of_factsFromClaims hfacts).2 fact).mp hfact
  obtain ⟨heq, htimes⟩ := factFromClaim_eq_ok.mp hclaim
  obtain ⟨-, -, -, hid, -⟩ := fields_of_factOf heq
  exact htimes oldId (hid ▸ hedge)

end

end N0te.Capabilities
