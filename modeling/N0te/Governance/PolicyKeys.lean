import Mathlib.Data.Finset.Dedup
import N0te.Governance.ExactEnvelope

/-!
# Policy keys and what the cross-check enforces

The validator rebuilds the policies of a raw snapshot under keys stripped of whitespace. Two keys that
differ in whitespace only become one, and the later entry replaces the earlier. The authority profiles
of one policy are checked for this, the policies are not.

`policies_enforced_iff` says when every raw policy is enforced on the envelopes for its object all the
same: exactly when the last entry of each stripped key asks for at least what every other entry of
that key asks for. For the other direction `exists_crosschecked` finds an accepted envelope that lists
what the surviving policy asks for and no more.
-/

set_option autoImplicit false
set_option relaxedAutoImplicit false

namespace N0te.Governance

open Library

/-! ### Dictionaries with stripped keys -/

section

variable {β : Type}

theorem lookup_cons_eq_ite (key : String) (head : String × β) (rest : List (String × β)) :
    (head :: rest).lookup key = if key = head.1 then some head.2 else rest.lookup key := by
  rw [List.lookup_cons]
  by_cases h : key = head.1
  · simp [h]
  · simp [beq_eq_false_iff_ne.mpr h, h]

/-- Storing under a key changes what is found under that key only. -/
theorem lookup_setKey (key other : String) (value : β) (entries : List (String × β)) :
    (setKey key value entries).lookup other =
      if other = key then some value else entries.lookup other := by
  induction entries with
  | nil => rw [setKey, lookup_cons_eq_ite]
  | cons head rest ih =>
    by_cases hname : head.1 = key
    · rw [setKey, if_pos hname, lookup_cons_eq_ite, lookup_cons_eq_ite, hname]
      split_ifs <;> rfl
    · rw [setKey, if_neg hname, lookup_cons_eq_ite, lookup_cons_eq_ite, ih]
      by_cases hother : other = key
      · have hhead : other ≠ head.1 := fun h ↦ hname (h.symm.trans hother)
        rw [if_neg hhead, if_pos hother, if_pos hother]
      · rw [if_neg hother, if_neg hother]

/-- The value of the last entry whose key strips to a key. -/
def lastUnder (key : String) : List (String × β) → Option β
  | [] => none
  | (name, value) :: rest => (lastUnder key rest).or (if strip name = key then some value else none)

theorem mem_of_lastUnder {key : String} {entries : List (String × β)} {value : β}
    (h : lastUnder key entries = some value) : ∃ name, (name, value) ∈ entries ∧ strip name = key := by
  induction entries with
  | nil => cases h
  | cons head rest ih =>
    obtain ⟨name, stored⟩ := head
    rcases hlast : lastUnder key rest with _ | later
    · rw [lastUnder, hlast, Option.none_or] at h
      split_ifs at h with hname
      exact ⟨name, by simp [Option.some.inj h], hname⟩
    · rw [lastUnder, hlast, Option.some_or] at h
      obtain ⟨other, hmem, hother⟩ := ih (hlast.trans h)
      exact ⟨other, List.mem_cons_of_mem _ hmem, hother⟩

/-- An entry is not lost altogether: some entry of its key is the last. -/
theorem exists_lastUnder {entries : List (String × β)} {entry : String × β} (h : entry ∈ entries) :
    ∃ value, lastUnder (strip entry.1) entries = some value := by
  induction entries with
  | nil => cases h
  | cons head rest ih =>
    rcases List.mem_cons.mp h with rfl | hrest
    · rcases hlast : lastUnder (strip entry.1) rest with _ | later
      · exact ⟨entry.2, by simp [lastUnder, hlast]⟩
      · exact ⟨later, by simp [lastUnder, hlast]⟩
    · obtain ⟨value, hvalue⟩ := ih hrest
      exact ⟨value, by simp [lastUnder, hvalue]⟩

/-- The keys of a dictionary stay distinct. -/
theorem nodup_keys_setKey {key : String} {value : β} {entries : List (String × β)}
    (h : (entries.map Prod.fst).Nodup) : ((setKey key value entries).map Prod.fst).Nodup := by
  have hkeys : ∀ l : List (String × β),
      ∀ name ∈ (setKey key value l).map Prod.fst, name = key ∨ name ∈ l.map Prod.fst := by
    intro l
    induction l with
    | nil => simp [setKey]
    | cons head rest ih =>
      intro name hname
      unfold setKey at hname
      split_ifs at hname with hhead
      · rcases List.mem_cons.mp hname with rfl | hrest
        · exact .inl rfl
        · exact .inr (List.mem_cons_of_mem _ hrest)
      · rcases List.mem_cons.mp hname with rfl | hrest
        · exact .inr List.mem_cons_self
        · exact (ih name hrest).imp_right (List.mem_cons_of_mem _)
  induction entries with
  | nil => simp [setKey]
  | cons head rest ih =>
    obtain ⟨hnew, hrest⟩ := List.nodup_cons.mp h
    unfold setKey
    split_ifs with hhead
    · exact List.nodup_cons.mpr ⟨hhead ▸ hnew, hrest⟩
    · refine List.nodup_cons.mpr ⟨fun hmem ↦ ?_, ih hrest⟩
      exact (hkeys rest head.1 hmem).elim hhead hnew

/-- Rebuild a dictionary under stripped keys, each value read by a check. -/
def rebuild {ε : Type} (read : String → Json → Except ε β) :
    List (String × β) → List (String × Json) → Except ε (List (String × β))
  | dict, [] => .ok dict
  | dict, (key, value) :: rest => do
    let entry ← read key value
    rebuild read (setKey (strip key) entry dict) rest

/-- Every entry is read, and the last of each key is kept. -/
theorem lookup_rebuild {ε : Type} {read : String → Json → Except ε β}
    {dict result : List (String × β)} {entries : List (String × Json)}
    (h : rebuild read dict entries = .ok result) :
    (∀ entry ∈ entries, ∃ value, read entry.1 entry.2 = .ok value) ∧
    ∀ key, (∀ last, lastUnder key entries = some last → ∃ name value, strip name = key ∧
        read name last = .ok value ∧ result.lookup key = some value) ∧
      (lastUnder key entries = none → result.lookup key = dict.lookup key) := by
  induction entries generalizing dict with
  | nil =>
    cases h
    exact ⟨nofun, fun key ↦ ⟨nofun, fun _ ↦ rfl⟩⟩
  | cons head rest ih =>
    obtain ⟨name, raw⟩ := head
    obtain ⟨value, hvalue, hrest⟩ := bind_eq_ok.mp h
    obtain ⟨hentries, hkeys⟩ := ih hrest
    refine ⟨List.forall_mem_cons.mpr ⟨⟨value, hvalue⟩, hentries⟩, fun key ↦ ?_⟩
    obtain ⟨hsome, hnone⟩ := hkeys key
    rcases hlast : lastUnder key rest with _ | later
    · have hkept := hnone hlast
      rw [lookup_setKey] at hkept
      rw [lastUnder, hlast, Option.none_or]
      by_cases hkey : strip name = key
      · rw [if_pos hkey, hkept, if_pos hkey.symm]
        exact ⟨fun last hsame ↦ ⟨name, value, hkey, Option.some.inj hsame ▸ hvalue, rfl⟩, nofun⟩
      · rw [if_neg hkey, hkept, if_neg fun hsame ↦ hkey hsame.symm]
        exact ⟨nofun, fun _ ↦ rfl⟩
    · rw [lastUnder, hlast, Option.some_or]
      exact ⟨fun last hsame ↦ hsome last (hlast.trans hsame), nofun⟩

/-- A rebuilt dictionary has distinct keys. -/
theorem nodup_keys_rebuild {ε : Type} {read : String → Json → Except ε β}
    {dict result : List (String × β)} {entries : List (String × Json)}
    (h : rebuild read dict entries = .ok result) (hdict : (dict.map Prod.fst).Nodup) :
    (result.map Prod.fst).Nodup := by
  induction entries generalizing dict with
  | nil =>
    cases h
    exact hdict
  | cons head rest ih =>
    obtain ⟨value, -, hrest⟩ := bind_eq_ok.mp h
    exact ih hrest (nodup_keys_setKey hdict)

end

/-- The entries of an object. -/
def entriesOf : Json → List (String × Json)
  | .obj fields => fields
  | _ => []

/-! ### The policies of a snapshot -/

/-- The check of one entry of the policies. -/
def readPolicy (key : String) (raw : Json) : Checked Policy := do
  let activeObject ← contextText (.str key) "policies.active_object"
  normalizePolicy activeObject.val raw

theorem normalizePoliciesFrom_eq_rebuild (policies : List (String × Policy))
    (entries : List (String × Json)) :
    normalizePoliciesFrom policies entries = rebuild readPolicy policies entries := by
  induction entries generalizing policies with
  | nil => rfl
  | cons head rest ih =>
    obtain ⟨name, raw⟩ := head
    rw [normalizePoliciesFrom, rebuild, readPolicy, bind_assoc]
    rcases hname : contextText (.str name) "policies.active_object" with e | activeObject
    · rfl
    · have hstrip := (Text.ofString_eq_some.mp (orRaise_eq_ok.mp hname)).1
      simp only [ih, hstrip]
      rfl

theorem readPolicy_eq_ok {key : String} {raw : Json} {policy : Policy} :
    readPolicy key raw = .ok policy ↔
      strip key ≠ "" ∧ normalizePolicy (strip key) raw = .ok policy := by
  simp only [readPolicy, contextText, bind_eq_ok, orRaise_eq_ok, Text.ofString_eq_some]
  constructor
  · rintro ⟨activeObject, ⟨hname, hne⟩, hpolicy⟩
    exact ⟨hne, hname ▸ hpolicy⟩
  · rintro ⟨hne, hpolicy⟩
    exact ⟨⟨strip key, strip_strip key, hne⟩, ⟨rfl, hne⟩, hpolicy⟩

/-- Every entry is normalized, and the last of each key is kept. -/
theorem lookup_normalizePoliciesFrom {policies result : List (String × Policy)}
    {entries : List (String × Json)} (h : normalizePoliciesFrom policies entries = .ok result) :
    (∀ entry ∈ entries, strip entry.1 ≠ "" ∧ ∃ policy,
      normalizePolicy (strip entry.1) entry.2 = .ok policy) ∧
    ∀ key, (∀ last, lastUnder key entries = some last →
        ∃ policy, normalizePolicy key last = .ok policy ∧ result.lookup key = some policy) ∧
      (lastUnder key entries = none → result.lookup key = policies.lookup key) := by
  rw [normalizePoliciesFrom_eq_rebuild] at h
  obtain ⟨hentries, hkeys⟩ := lookup_rebuild h
  refine ⟨fun entry hentry ↦ ?_, fun key ↦ ⟨fun last hlast ↦ ?_, (hkeys key).2⟩⟩
  · obtain ⟨policy, hpolicy⟩ := hentries entry hentry
    obtain ⟨hne, hpolicy⟩ := readPolicy_eq_ok.mp hpolicy
    exact ⟨hne, policy, hpolicy⟩
  · obtain ⟨name, policy, rfl, hpolicy, hlookup⟩ := (hkeys key).1 last hlast
    exact ⟨policy, (readPolicy_eq_ok.mp hpolicy).2, hlookup⟩

/-- A stripped text that is not empty. -/
def IsText (s : String) : Prop := strip s = s ∧ s ≠ ""

/-- A profile has a source, and its sources are texts. -/
def AuthorityProfile.WellFormed (profile : AuthorityProfile) : Prop :=
  profile.sourceRefs.Nonempty ∧ ∀ s ∈ profile.sourceRefs, IsText s

/-- What normalization establishes of a policy. -/
structure Policy.WellFormed (policy : Policy) : Prop where
  functions : ∀ s ∈ policy.requiredFunctions, IsText s
  functionsNonempty : policy.requiredFunctions.Nonempty
  /-- Upstream dependencies are texts. -/
  upstream : ∀ s ∈ policy.upstream, IsText s
  /-- Downstream dependencies are texts. -/
  downstream : ∀ s ∈ policy.downstream, IsText s
  authority : ∃ c profile, policy.authorityByActionClass.lookup c = some profile
  /-- Every profile is well formed. -/
  profiles : ∀ c profile, policy.authorityByActionClass.lookup c = some profile →
    profile.WellFormed

/-- A text set holds texts, and is not empty unless that is allowed. -/
theorem contextTextSet_spec {value : Json} {field : String} {allowEmpty : Bool}
    {values : Finset String} (h : contextTextSet value field allowEmpty = .ok values) :
    (∀ s ∈ values, IsText s) ∧ (allowEmpty = false → values.Nonempty) := by
  unfold contextTextSet at h
  split at h
  · simp only [bind_eq_ok, require_eq_ok, pure_eq_ok, exists_const] at h
    obtain ⟨texts, -, -, hne, rfl⟩ := h
    constructor
    · intro s hs
      obtain ⟨t, -, rfl⟩ := List.mem_map.mp (List.mem_toFinset.mp hs)
      exact ⟨t.stripped, t.nonempty⟩
    · rintro rfl
      obtain ⟨s, hs⟩ := List.exists_mem_of_ne_nil _ (hne.resolve_left (by simp))
      exact ⟨s, List.mem_toFinset.mpr hs⟩
  · cases h

/-- Every entry adds a profile. -/
theorem authorityProfilesFrom_spec {field : String}
    {profiles result : List (ActionClass × AuthorityProfile)} {entries : List (String × Json)}
    (h : authorityProfilesFrom field profiles entries = .ok result) :
    ∃ more, result = profiles ++ more ∧ more.length = entries.length ∧
      ∀ added ∈ more, added.2.WellFormed := by
  induction entries generalizing profiles with
  | nil =>
    cases h
    exact ⟨[], (List.append_nil _).symm, rfl, nofun⟩
  | cons head rest ih =>
    obtain ⟨rawClass, rawProfile⟩ := head
    simp only [authorityProfilesFrom, bind_eq_ok, require_eq_ok, exists_const] at h
    obtain ⟨className, -, c, -, -, -, -, -, sourceRefs, hsources, hrest⟩ := h
    obtain ⟨more, rfl, hlength, hmore⟩ := ih hrest
    obtain ⟨htexts, hnonempty⟩ := contextTextSet_spec hsources
    refine ⟨_, List.append_assoc .., by simp [hlength], ?_⟩
    exact List.forall_mem_append.mpr ⟨List.forall_mem_singleton.mpr ⟨hnonempty rfl, htexts⟩, hmore⟩

theorem mem_of_lookup {α β : Type} [BEq α] [LawfulBEq α] {key : α} {value : β}
    {entries : List (α × β)} (h : entries.lookup key = some value) : (key, value) ∈ entries := by
  obtain ⟨before, after, rfl, -⟩ := List.lookup_eq_some_iff.mp h
  simp

theorem normalizePolicy_wellFormed {activeObject : String} {raw : Json} {policy : Policy}
    (h : normalizePolicy activeObject raw = .ok policy) : policy.WellFormed := by
  simp only [normalizePolicy, bind_eq_ok, require_eq_ok, exists_const, pure_eq_ok] at h
  obtain ⟨-, functions, hfunctions, -, upstream, hupstream, downstream, hdownstream, outcomes, -,
    profiles, hprofiles, rfl⟩ := h
  obtain ⟨hfunctions, hnonempty⟩ := contextTextSet_spec hfunctions
  obtain ⟨more, hmore, hlength, hwell⟩ : ∃ more, profiles = [] ++ more ∧ 0 < more.length ∧
      ∀ added ∈ more, added.2.WellFormed := by
    unfold authorityProfiles at hprofiles
    split at hprofiles
    · obtain ⟨more, hmore, hlength, hwell⟩ := authorityProfilesFrom_spec hprofiles
      exact ⟨more, hmore, by simp [hlength], hwell⟩
    · cases hprofiles
  rw [List.nil_append] at hmore
  subst hmore
  constructor
  · exact hfunctions
  · exact hnonempty rfl
  · exact (contextTextSet_spec hupstream).1
  · exact (contextTextSet_spec hdownstream).1
  · obtain ⟨⟨c, profile⟩, rest, rfl⟩ := List.exists_cons_of_length_pos hlength
    exact ⟨c, profile, by simp⟩
  · exact fun c profile hlookup ↦ hwell _ (mem_of_lookup hlookup)

/-! ### The shape of a snapshot -/

/-- What the validator establishes of a snapshot. -/
structure SnapshotShape (raw : Json) (snapshot : TrustedContextSnapshot) : Prop where
  /-- The fingerprint of the sources is that of the document. -/
  source : ∃ t, contextText (raw.get "source_fingerprint") "source_fingerprint" = .ok t ∧
    snapshot.sourceFingerprint = t.val
  /-- The scope holds texts. -/
  scope : ∀ s ∈ snapshot.retainedScopeRefs, IsText s
  scopeNonempty : snapshot.retainedScopeRefs.Nonempty
  /-- Every plane has an owner. -/
  owners : ∀ plane ∈ truthPlanes, ∃ owner : Text,
    snapshot.truthOwners.lookup plane = some owner.val
  /-- The policies are those of the document. -/
  policies : normalizePoliciesFrom [] (entriesOf (raw.get "policies")) = .ok snapshot.policies

theorem owners_spec {owners : Json} {planes : List String} {n : ℕ} {result : List (String × String)}
    (h : checkEach (fun _ plane ↦ do
      let owner ← contextText (owners.get plane) ("truth_owners." ++ plane)
      return (plane, owner.val)) n planes = .ok result) :
    ∀ plane ∈ planes, ∃ owner : Text, result.lookup plane = some owner.val := by
  induction planes generalizing n result with
  | nil => nofun
  | cons head rest ih =>
    simp only [checkEach, bind_eq_ok, pure_eq_ok] at h
    obtain ⟨-, ⟨owner, -, rfl⟩, results, hresults, rfl⟩ := h
    intro plane hplane
    rw [lookup_cons_eq_ite]
    by_cases hhead : plane = head
    · exact ⟨owner, if_pos hhead⟩
    · rw [if_neg hhead]
      exact ih hresults plane ((List.mem_cons.mp hplane).resolve_left hhead)

theorem snapshotShape_of_validated {rt : Runtime} {raw : Json} {snapshot : TrustedContextSnapshot}
    (h : validateTrustedContextSnapshot rt raw = .ok snapshot) : SnapshotShape raw snapshot := by
  simp only [validateTrustedContextSnapshot, bind_eq_ok, require_eq_ok, pure_eq_ok,
    exists_const] at h
  obtain ⟨-, -, snapshotId, -, sourceFingerprint, hsource, observedAt, -, expiresAt, -, -, scope,
    hscope, -, owners, howners, policies, hpolicies, approvals, -, rfl⟩ := h
  obtain ⟨htexts, hnonempty⟩ := contextTextSet_spec hscope
  refine ⟨⟨sourceFingerprint, hsource, rfl⟩, htexts, hnonempty rfl, owners_spec howners, ?_⟩
  unfold normalizePolicies at hpolicies
  split at hpolicies
  · next hraw =>
    rw [hraw]
    exact hpolicies
  · cases hpolicies

/-! ### An accepted envelope -/

/-- A finite set of texts as a list without repetitions. -/
theorem exists_textList {values : Finset String} (h : ∀ s ∈ values, IsText s) :
    ∃ texts : List Text, texts.Nodup ∧ (texts.map Text.val).toFinset = values ∧
      (values.Nonempty → texts ≠ []) := by
  have htexts : ∀ s ∈ values.toList, IsText s := fun s hs ↦ h s (Finset.mem_toList.mp hs)
  obtain ⟨texts, hvalues⟩ : ∃ texts : List Text, texts.map Text.val = values.toList := by
    refine ⟨values.toList.pmap (fun s hs ↦ ⟨s, hs.1, hs.2⟩) htexts, ?_⟩
    simp [List.map_pmap]
  refine ⟨texts, ?_, ?_, fun hne hnil ↦ ?_⟩
  · exact List.Nodup.of_map Text.val (hvalues ▸ values.nodup_toList)
  · rw [hvalues, Finset.toList_toFinset]
  · rw [hnil, List.map_nil] at hvalues
    exact hne.ne_empty (Finset.toList_eq_nil.mp hvalues.symm)

/-- The values the cross-check compares, as an envelope has them. -/
structure Asks (envelope : Json) (key : String) (policy : Policy) (outcome : OutcomeClass)
    (c : ActionClass) (profile : AuthorityProfile) (source : String) : Prop where
  activeObject : activeObject envelope = key
  /-- Exactly the required functions are listed. -/
  functions : requiredFunctions envelope = policy.requiredFunctions
  /-- Exactly the required upstream dependencies are listed. -/
  upstream : dependencySide envelope "upstream" = policy.upstream
  /-- Exactly the required downstream dependencies are listed. -/
  downstream : dependencySide envelope "downstream" = policy.downstream
  /-- The outcome class. -/
  outcome : intentOutcome envelope = outcome.name
  actionClass : envelopeActionClass envelope = c.name
  /-- A human approves exactly when the profile says so. -/
  human : requiresHuman envelope = .bool profile.requiresHuman
  source : authoritySourceRef envelope = source

/-- For every outcome class, action class and source that a policy allows there is an accepted
envelope that lists exactly what the policy asks for. -/
theorem exists_crosschecked {raw : Json} {snapshot : TrustedContextSnapshot}
    (hshape : SnapshotShape raw snapshot) (key : Text) {policy : Policy}
    (hpolicy : snapshot.policies.lookup key.val = some policy) (hwell : policy.WellFormed)
    {outcome : OutcomeClass} (houtcome : outcome.name ∈ policy.allowedOutcomeClasses)
    {c : ActionClass} {profile : AuthorityProfile}
    (hprofile : policy.authorityByActionClass.lookup c = some profile) {source : String}
    (hsource : source ∈ profile.sourceRefs) : ∃ envelope,
      crosscheckExecutionEnvelope envelope snapshot snapshot.expiresAt = .ok snapshot ∧
        Asks envelope key.val policy outcome c profile source := by
  obtain ⟨scope, hscope, hscopeEq, hscopeNe⟩ := exists_textList hshape.scope
  obtain ⟨functions, hfunctions, hfunctionsEq, hfunctionsNe⟩ := exists_textList hwell.functions
  obtain ⟨upstream, hupstream, hupstreamEq, -⟩ := exists_textList hwell.upstream
  obtain ⟨downstream, hdownstream, hdownstreamEq, -⟩ := exists_textList hwell.downstream
  obtain ⟨hstripped, hne⟩ := (hwell.profiles c profile hprofile).2 source hsource
  have howners : ∀ plane, ∃ owner : Text, plane ∈ truthPlanes →
      snapshot.truthOwners.lookup plane = some owner.val := by
    intro plane
    by_cases hplane : plane ∈ truthPlanes
    · obtain ⟨owner, howner⟩ := hshape.owners plane hplane
      exact ⟨owner, fun _ ↦ howner⟩
    · exact ⟨key, fun h ↦ absurd h hplane⟩
  choose owner howner using howners
  let parts : EnvelopeParts := {
    activeObject := key
    scope := scope
    owner := owner
    functions := functions
    upstream := upstream
    downstream := downstream
    outcome := outcome
    actionClass := c
    requiresHuman := profile.requiresHuman
    sourceRef := ⟨source, hstripped, hne⟩
    scopeListed := ⟨hscope, hscopeNe hshape.scopeNonempty⟩
    functionsListed := ⟨hfunctions, hfunctionsNe hwell.functionsNonempty⟩
    dependenciesListed := ⟨hupstream, hdownstream⟩ }
  refine ⟨parts.document, ?_, ?_⟩
  · exact parts.crosscheck_document hpolicy hscopeEq howner hfunctionsEq.ge hupstreamEq.ge
      hdownstreamEq.ge houtcome hprofile rfl hsource
  · constructor
    · exact parts.activeObject_document
    · rw [parts.requiredFunctions_document, hfunctionsEq]
    · rw [parts.upstream_document, hupstreamEq]
    · rw [parts.downstream_document, hdownstreamEq]
    · exact parts.intentOutcome_document
    · exact parts.envelopeActionClass_document
    · exact parts.requiresHuman_document
    · exact parts.authoritySourceRef_document

/-! ### Enforcement -/

/-- An envelope has what a policy asks for. -/
structure Meets (envelope : Json) (policy : Policy) : Prop where
  /-- Every required function is listed. -/
  functions : policy.requiredFunctions ⊆ requiredFunctions envelope
  /-- Every required upstream dependency is listed. -/
  upstream : policy.upstream ⊆ dependencySide envelope "upstream"
  /-- Every required downstream dependency is listed. -/
  downstream : policy.downstream ⊆ dependencySide envelope "downstream"
  /-- The outcome class is allowed. -/
  outcome : intentOutcome envelope ∈ policy.allowedOutcomeClasses
  /-- The authority is one that the policy trusts for the action class. -/
  authority : ∃ c profile, envelopeActionClass envelope = c.name ∧
    policy.authorityByActionClass.lookup c = some profile ∧
    requiresHuman envelope = .bool profile.requiresHuman ∧
    authoritySourceRef envelope ∈ profile.sourceRefs

/-- Every policy entry of a document is enforced on the envelopes for its object. -/
def PoliciesEnforced (raw : Json) (snapshot : TrustedContextSnapshot) : Prop :=
  ∀ entry ∈ entriesOf (raw.get "policies"), ∀ envelope now result,
    crosscheckExecutionEnvelope envelope snapshot now = .ok result →
    activeObject envelope = strip entry.1 →
    ∃ policy, normalizePolicy (strip entry.1) entry.2 = .ok policy ∧ Meets envelope policy

/-- A policy asks for at least what another asks for, unless no envelope can meet it. -/
def Policy.AsksAtLeast (policy other : Policy) : Prop :=
  (∃ o : OutcomeClass, o.name ∈ policy.allowedOutcomeClasses) →
    other.requiredFunctions ⊆ policy.requiredFunctions ∧ other.upstream ⊆ policy.upstream ∧
    other.downstream ⊆ policy.downstream ∧
    (∀ o : OutcomeClass, o.name ∈ policy.allowedOutcomeClasses →
      o.name ∈ other.allowedOutcomeClasses) ∧
    ∀ c profile, policy.authorityByActionClass.lookup c = some profile →
      ∃ trusted, other.authorityByActionClass.lookup c = some trusted ∧
        trusted.requiresHuman = profile.requiresHuman ∧ profile.sourceRefs ⊆ trusted.sourceRefs

/-- The last entry of every key asks for at least what each entry of that key asks for. -/
def LastAsksMost (raw : Json) : Prop :=
  ∀ entry ∈ entriesOf (raw.get "policies"), ∀ last policy other,
    lastUnder (strip entry.1) (entriesOf (raw.get "policies")) = some last →
    normalizePolicy (strip entry.1) last = .ok policy →
    normalizePolicy (strip entry.1) entry.2 = .ok other → policy.AsksAtLeast other

/-- A valid envelope names an outcome class. -/
theorem exists_outcome_of_valid {envelope : Json}
    (h : validateExecutionEnvelope envelope = .ok ()) :
    ∃ o : OutcomeClass, intentOutcome envelope = o.name := by
  simp only [validateExecutionEnvelope, bind_eq_ok, require_eq_ok, exists_const,
    orRaise_eq_ok] at h
  obtain ⟨-, -, -, description, -, o, houtcome, -⟩ := h
  refine ⟨o, OutcomeClass.ofName_eq_some.mp ?_⟩
  rw [intentOutcome, Json.get]
  cases hfield : (envelope.get "intent").get? "outcome_class" with
  | none =>
    have hempty : OutcomeClass.ofName (normalName (.str "")) = none := by decide
    rw [hfield] at houtcome
    cases hempty.symm.trans houtcome
  | some value =>
    rw [hfield] at houtcome
    exact houtcome

/-- What the cross-check establishes against the policy a snapshot holds for the active object. -/
theorem meets_of_crosscheck {envelope : Json} {snapshot : TrustedContextSnapshot} {now : ℤ}
    {result : TrustedContextSnapshot}
    (h : crosscheckExecutionEnvelope envelope snapshot now = .ok result) :
    ∃ policy, snapshot.policies.lookup (activeObject envelope) = some policy ∧
      Meets envelope policy ∧ ∃ o : OutcomeClass, intentOutcome envelope = o.name := by
  obtain ⟨_, hvalid, _⟩ := bind_eq_ok.mp h
  obtain ⟨o, houtcome⟩ := exists_outcome_of_valid hvalid
  have hclass := h
  simp only [crosscheckExecutionEnvelope, bind_eq_ok, require_eq_ok, orRaise_eq_ok,
    exists_const] at hclass
  obtain ⟨-, -, -, _, -, -, _, -, -, -, -, -, _, hprofile, -⟩ := hclass
  obtain ⟨c, hname, -⟩ := Option.bind_eq_some_iff.mp hprofile
  obtain ⟨-, policy, profile, hsatisfies⟩ :=
    envelopeSatisfies_of_crosscheck h (ActionClass.ofName_eq_some.mp hname)
  refine ⟨policy, hsatisfies.policy_eq, ?_, o, houtcome⟩
  constructor
  · exact hsatisfies.functions
  · exact hsatisfies.upstream
  · exact hsatisfies.downstream
  · exact hsatisfies.outcome
  · exact ⟨c, profile, hsatisfies.class_eq, hsatisfies.profile_eq, hsatisfies.human,
      hsatisfies.source⟩

/-- What a snapshot enforces for an entry, the policy kept for its key asks for. -/
theorem asksAtLeast_of_enforced {raw : Json} {snapshot : TrustedContextSnapshot}
    (hshape : SnapshotShape raw snapshot) (henforced : PoliciesEnforced raw snapshot)
    {entry : String × Json} (hentry : entry ∈ entriesOf (raw.get "policies")) {policy other : Policy}
    (hkey : strip entry.1 ≠ "") (hlookup : snapshot.policies.lookup (strip entry.1) = some policy)
    (hwell : policy.WellFormed) (hother : normalizePolicy (strip entry.1) entry.2 = .ok other) :
    policy.AsksAtLeast other := by
  have hmeets {o : OutcomeClass} (ho : o.name ∈ policy.allowedOutcomeClasses) {c : ActionClass}
      {profile : AuthorityProfile} (hprofile : policy.authorityByActionClass.lookup c = some profile)
      {source : String} (hsource : source ∈ profile.sourceRefs) :
      ∃ envelope, Asks envelope (strip entry.1) policy o c profile source ∧
        Meets envelope other := by
    obtain ⟨envelope, hcheck, hasks⟩ := exists_crosschecked hshape
      ⟨strip entry.1, strip_strip _, hkey⟩ hlookup hwell ho hprofile hsource
    obtain ⟨found, hfound, hmeets⟩ :=
      henforced entry hentry envelope _ _ hcheck hasks.activeObject
    rw [hother] at hfound
    exact ⟨envelope, hasks, Except.ok.inj hfound ▸ hmeets⟩
  rintro ⟨o, ho⟩
  obtain ⟨c, profile, hprofile⟩ := hwell.authority
  obtain ⟨source, hsource⟩ := (hwell.profiles c profile hprofile).1
  obtain ⟨envelope, hasks, hmeet⟩ := hmeets ho hprofile hsource
  refine ⟨hasks.functions ▸ hmeet.functions, hasks.upstream ▸ hmeet.upstream,
    hasks.downstream ▸ hmeet.downstream, fun o ho ↦ ?_, fun c profile hprofile ↦ ?_⟩
  · obtain ⟨envelope, hasks, hmeet⟩ := hmeets ho hprofile hsource
    exact hasks.outcome ▸ hmeet.outcome
  · have htrusts {source : String} (hsource : source ∈ profile.sourceRefs) : ∃ trusted,
        other.authorityByActionClass.lookup c = some trusted ∧
          trusted.requiresHuman = profile.requiresHuman ∧ source ∈ trusted.sourceRefs := by
      obtain ⟨envelope, hasks, hmeet⟩ := hmeets ho hprofile hsource
      obtain ⟨d, trusted, hclass, htrusted, hhuman, htrustedSource⟩ := hmeet.authority
      rw [hasks.actionClass] at hclass
      rw [hasks.human] at hhuman
      rw [hasks.source] at htrustedSource
      rw [← ActionClass.name_injective hclass] at htrusted
      exact ⟨trusted, htrusted, (Json.bool.inj hhuman).symm, htrustedSource⟩
    obtain ⟨source, hsource⟩ := (hwell.profiles c profile hprofile).1
    obtain ⟨trusted, htrusted, hhuman, -⟩ := htrusts hsource
    refine ⟨trusted, htrusted, hhuman, fun source hsource ↦ ?_⟩
    obtain ⟨same, hsame, -, hmem⟩ := htrusts hsource
    rwa [Option.some.inj (htrusted.symm.trans hsame)]

theorem Policy.AsksAtLeast.refl (policy : Policy) : policy.AsksAtLeast policy :=
  fun _ ↦ ⟨subset_rfl, subset_rfl, subset_rfl, fun _ h ↦ h,
    fun _ profile h ↦ ⟨profile, h, rfl, subset_rfl⟩⟩

/-- Keys that stay distinct when stripped are kept apart. -/
theorem lastAsksMost_of_distinct {raw : Json}
    (h : ∀ a ∈ entriesOf (raw.get "policies"), ∀ b ∈ entriesOf (raw.get "policies"),
      strip a.1 = strip b.1 → a.2 = b.2) : LastAsksMost raw := by
  intro entry hentry last policy other hlast hpolicy hother
  obtain ⟨name, hmem, hname⟩ := mem_of_lastUnder hlast
  have hsame : entry.2 = last := h entry hentry (name, last) hmem hname.symm
  rw [hsame, hpolicy] at hother
  rw [Except.ok.inj hother]
  exact .refl other

/-- Every raw policy is enforced exactly when, of the keys that differ in whitespace only, the last
asks for the most. -/
theorem policies_enforced_iff {rt : Runtime} {raw : Json} {snapshot : TrustedContextSnapshot}
    (h : validateTrustedContextSnapshot rt raw = .ok snapshot) :
    PoliciesEnforced raw snapshot ↔ LastAsksMost raw := by
  have hshape := snapshotShape_of_validated h
  obtain ⟨hentries, hkeys⟩ := lookup_normalizePoliciesFrom hshape.policies
  constructor
  · intro henforced entry hentry last policy other hlast hpolicy hother houtcomes
    obtain ⟨kept, hkept, hlookup⟩ := (hkeys (strip entry.1)).1 last hlast
    rw [Except.ok.inj (hkept.symm.trans hpolicy)] at hlookup
    exact asksAtLeast_of_enforced hshape henforced hentry (hentries entry hentry).1 hlookup
      (normalizePolicy_wellFormed hpolicy) hother houtcomes
  · intro hlasts entry hentry envelope now result hcheck hactive
    obtain ⟨policy, hpolicy, hmeets, o, houtcome⟩ := meets_of_crosscheck hcheck
    obtain ⟨-, other, hother⟩ := hentries entry hentry
    obtain ⟨last, hlast⟩ := exists_lastUnder hentry
    obtain ⟨kept, hkept, hlookup⟩ := (hkeys (strip entry.1)).1 last hlast
    rw [hactive, hlookup] at hpolicy
    cases hpolicy
    obtain ⟨hfunctions, hupstream, hdownstream, houtcomes, hauthority⟩ :=
      hlasts entry hentry last policy other hlast hkept hother ⟨o, houtcome ▸ hmeets.outcome⟩
    refine ⟨other, hother, ?_⟩
    constructor
    · exact hfunctions.trans hmeets.functions
    · exact hupstream.trans hmeets.upstream
    · exact hdownstream.trans hmeets.downstream
    · have hallowed := hmeets.outcome
      rw [houtcome] at hallowed ⊢
      exact houtcomes o hallowed
    · obtain ⟨c, profile, hclass, hprofile, hhuman, hsource⟩ := hmeets.authority
      obtain ⟨trusted, htrusted, hsame, hsubset⟩ := hauthority c profile hprofile
      exact ⟨c, trusted, hclass, htrusted, hsame ▸ hhuman, hsubset hsource⟩

/-! ### Two documents -/

/-- A policy that requires these functions. -/
def requiring (functions : List String) : Json := .obj [
  ("required_functions", .arr (functions.map .str)), ("required_dependencies", .obj []),
  ("allowed_outcome_classes", .arr [.str "ARTIFACT"]),
  ("authority_by_action_class", .obj [("REVERSIBLE", .obj [("requires_human", .bool false),
    ("source_refs", .arr [.str "a"])])])]

/-- A document whose first policy requires two functions, and whose second, under this key, one. -/
def twoPolicies (second : String) : Json := .obj [
  ("snapshot_id", .str "s"), ("source_fingerprint", .str "src"),
  ("observed_at", .str "2026-01-01T00:00:00+00:00"),
  ("expires_at", .str "2026-01-01T00:15:00+00:00"),
  ("retained_scope_refs", .arr [.str "r"]),
  ("truth_owners", .obj (truthPlanes.map fun plane ↦ (plane, .str "o"))),
  ("policies", .obj [("song", requiring ["f", "g"]), (second, requiring ["f"])]),
  ("approvals", .arr [])]

/-- A runtime that reads the two times of a document, and gives its SHA-256 digest. -/
def twoTimes (digest : String) : Runtime where
  sha256 _ := digest
  fromisoformat s :=
    if s = "2026-01-01T00:00:00+00:00" then some ⟨1767225600000000, true⟩
    else if s = "2026-01-01T00:15:00+00:00" then some ⟨1767226500000000, true⟩
    else none
  hmac _ := []
  loads _ := none

/-- The snapshot of a document that is valid. -/
def validated {rt : Runtime} {raw : Json}
    (h : (validateTrustedContextSnapshot rt raw).toOption.isSome = true) :
    {snapshot // validateTrustedContextSnapshot rt raw = .ok snapshot} :=
  match hvalid : validateTrustedContextSnapshot rt raw with
  | .ok snapshot => ⟨snapshot, rfl⟩
  | .error _ => by
    rw [hvalid] at h
    cases h

/-- The snapshot of the policies of two objects. -/
def tuneSnapshot : {snapshot // validateTrustedContextSnapshot
    (twoTimes "8d215ddad42df4ee1650398edef79ad206fd73ba3e0f3484229296cf932661cb")
    (twoPolicies "tune") = .ok snapshot} :=
  validated (by decide +kernel)

/-- The snapshot of two policies of one object. -/
def songSnapshotTwice : {snapshot // validateTrustedContextSnapshot
    (twoTimes "f25ce79e0a0524d770b8c252293a208d33b2cecfb4d0282d764ddac71419b1e5")
    (twoPolicies "song ") = .ok snapshot} :=
  validated (by decide +kernel)

theorem entriesOf_twoPolicies (second : String) : entriesOf ((twoPolicies second).get "policies") =
    [("song", requiring ["f", "g"]), (second, requiring ["f"])] := by
  simp [twoPolicies, Json.get, Json.get?, List.lookup_cons, entriesOf]

/-- Two objects: both policies are enforced. -/
theorem sample_policies_enforced : ∃ snapshot, validateTrustedContextSnapshot
    (twoTimes "8d215ddad42df4ee1650398edef79ad206fd73ba3e0f3484229296cf932661cb")
    (twoPolicies "tune") = .ok snapshot ∧ PoliciesEnforced (twoPolicies "tune") snapshot := by
  obtain ⟨snapshot, hvalid⟩ := tuneSnapshot
  refine ⟨snapshot, hvalid, (policies_enforced_iff hvalid).mpr (lastAsksMost_of_distinct ?_)⟩
  have hsong : strip "song" ≠ strip "tune" := by decide
  rw [entriesOf_twoPolicies]
  simp [hsong, hsong.symm]

/-- One object under two spellings: the policy that requires two functions is lost. -/
theorem sample_policy_lost : ∃ snapshot, validateTrustedContextSnapshot
    (twoTimes "f25ce79e0a0524d770b8c252293a208d33b2cecfb4d0282d764ddac71419b1e5")
    (twoPolicies "song ") = .ok snapshot ∧ ¬ PoliciesEnforced (twoPolicies "song ") snapshot := by
  obtain ⟨snapshot, hvalid⟩ := songSnapshotTwice
  refine ⟨snapshot, hvalid, fun henforced ↦ ?_⟩
  have hshape := snapshotShape_of_validated hvalid
  obtain ⟨hentries, hkeys⟩ := lookup_normalizePoliciesFrom hshape.policies
  have hentry : ("song", requiring ["f", "g"]) ∈ entriesOf ((twoPolicies "song ").get "policies") := by
    simp [entriesOf_twoPolicies]
  obtain ⟨hne, other, hother⟩ := hentries _ hentry
  have hstrip : strip "song" = "song" ∧ strip "song " = "song" := by decide
  have hlast : lastUnder (strip "song") (entriesOf ((twoPolicies "song ").get "policies")) =
      some (requiring ["f"]) := by
    rw [entriesOf_twoPolicies]
    simp [lastUnder, hstrip]
  obtain ⟨policy, hpolicy, hlookup⟩ := (hkeys (strip "song")).1 _ hlast
  have hasks := asksAtLeast_of_enforced hshape henforced hentry hne hlookup
    (normalizePolicy_wellFormed hpolicy) hother
  have hread : (normalizePolicy (strip "song") (requiring ["f"])).toOption.map
        (fun policy ↦ (policy.requiredFunctions, policy.allowedOutcomeClasses)) =
          some ({"f"}, {"ARTIFACT"}) ∧
      (normalizePolicy (strip "song") (requiring ["f", "g"])).toOption.map
        Policy.requiredFunctions = some {"f", "g"} := ⟨rfl, rfl⟩
  rw [hpolicy, hother] at hread
  obtain ⟨hpolicyRead, hotherRead⟩ := hread
  simp only [Except.toOption, Option.map_some, Option.some.injEq, Prod.mk.injEq] at hpolicyRead
  simp only [Except.toOption, Option.map_some, Option.some.injEq] at hotherRead
  have hsubset := (hasks ⟨.artifact, by simp [hpolicyRead.2, OutcomeClass.name]⟩).1
  rw [hpolicyRead.1, hotherRead] at hsubset
  exact absurd hsubset (by decide)

end N0te.Governance
