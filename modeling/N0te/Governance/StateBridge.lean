import N0te.Governance.CompiledState

/-!
# From a compiled state to a trusted snapshot

`compiledStateToTrustedSnapshot` writes the policies that a compiled state stands for into a raw
snapshot and validates it. It gives every retained object the functions and dependencies of its
entries, standing authority for reversible work from the compiled source, and no approval.

`compiled_authority_iff` is the guarantee from the raw description to an accepted envelope, and its
limit. The dispatch and the graph are rebuilt under stripped keys, so the guarantee holds exactly when
no entry that a retained object needs is replaced by a later one that assigns less (`NoEntryLost`).
-/

set_option autoImplicit false
set_option relaxedAutoImplicit false

namespace N0te.Governance

open Library

/-! ### The bridge -/

/-- The nodes that name an object as successor, as `_upstream_dependencies` sorts them. -/
def upstreamDependencies (state : CompiledExecutionState) (activeObject : Text) : List String :=
  ((state.dependencyGraph.filter fun entry ↦ decide (activeObject ∈ entry.2)).map
    Prod.fst).mergeSort fun a b ↦ decide (a ≤ b)

/-- `_compiled_authority_source`. -/
def compiledAuthoritySource (state : CompiledExecutionState) : String :=
  "compiled-context:" ++ state.sourceFingerprint.val

/-- The raw policy of a retained object. -/
def compiledPolicy (state : CompiledExecutionState) (activeObject : Text) : Json := .obj [
  ("required_functions", textList ((state.lensDispatch.lookup activeObject.val).getD [])),
  ("required_dependencies", .obj [
    ("upstream", .arr ((upstreamDependencies state activeObject).map .str)),
    ("downstream", textList ((state.dependencyGraph.lookup activeObject.val).getD []))]),
  ("allowed_outcome_classes",
    .arr (["ARTIFACT", "EXTERNAL_STATE", "HUMAN_STATE", "SYSTEM_STATE"].map .str)),
  ("authority_by_action_class", .obj [("REVERSIBLE", .obj [("requires_human", .bool false),
    ("source_refs", .arr [.str (compiledAuthoritySource state)])])])]

/-- The raw snapshot of a compiled state. -/
def snapshotDocument (rt : CompilerRuntime) (state : CompiledExecutionState) (expiresAt : ℤ) : Json :=
  .obj [
    ("snapshot_id", .str ("compiled:" ++ state.cursor.jobId.val ++ ":" ++
      String.ofList (state.fingerprint.toList.take 16))),
    ("source_fingerprint", .str state.sourceFingerprint.val),
    ("observed_at", .str (rt.isoformat state.compiledAt)),
    ("expires_at", .str (rt.isoformat expiresAt)),
    ("retained_scope_refs", textList state.retainedScopeRefs),
    ("truth_owners", .obj (state.truthOwners.map fun owner ↦ (owner.1, .str owner.2.val))),
    ("policies", .obj (state.retainedScopeRefs.map fun o ↦ (o.val, compiledPolicy state o))),
    ("approvals", .arr [])]

/-- The last microsecond a `datetime` can hold. -/
def maxInstant : ℤ := 253402300799999999

/-- `compiled_state_to_trusted_snapshot`. A lifetime that no `timedelta` holds or that passes the last
`datetime` overflows. -/
def compiledStateToTrustedSnapshot (rt : CompilerRuntime) (state : CompiledExecutionState)
    (ttlSeconds : ℤ) : Checked TrustedContextSnapshot := do
  require (1 ≤ ttlSeconds) ⟨.valueError, "ttl_seconds must be positive"⟩
  let days := ttlSeconds / 86400
  require (days ≤ 2147483647) ⟨.overflowError, "Python int too large to convert to C int"⟩
  require (days ≤ 999999999)
    ⟨.overflowError, "days=" ++ Int.repr days ++ "; must have magnitude <= 999999999"⟩
  let expiresAt := state.compiledAt + ttlSeconds * 1000000
  require (expiresAt ≤ maxInstant) ⟨.overflowError, "date value out of range"⟩
  validateTrustedContextSnapshot rt.toRuntime (snapshotDocument rt state expiresAt)

/-! ### Texts -/

/-- Text before a checked text does not make it any less stripped. -/
theorem strip_append_text {c : Char} (hc : isSpace c = false) (head : List Char) (t : Text) :
    strip (String.ofList (c :: head) ++ t.val) = String.ofList (c :: head) ++ t.val := by
  have hne : t.val.toList ≠ [] := fun h ↦ t.nonempty (String.toList_eq_nil_iff.mp h)
  have hself : stripChars t.val.toList = t.val.toList := by
    rw [← toList_strip, t.stripped]
  have hlast : ¬ isSpace (t.val.toList.getLast hne) := by
    have hnot := List.rdropWhile_last_not isSpace (t.val.toList.dropWhile isSpace)
    unfold stripChars at hself
    simp only [hself] at hnot
    exact hnot hne
  have hkeep : (head ++ t.val.toList).rdropWhile isSpace = head ++ t.val.toList := by
    rw [List.rdropWhile_eq_self_iff]
    intro h
    rwa [List.getLast_append_of_ne_nil _ hne]
  apply String.toList_inj.mp
  rw [toList_strip, String.toList_append, String.toList_ofList, List.cons_append,
    stripChars_cons hc, hkeep]

theorem checkEach_contextText {field : String} {n : ℕ} {names : List String} {texts : List Text}
    (h : checkEach (fun _ item ↦ contextText item field) n (names.map .str) = .ok texts) :
    texts.map Text.val = names.map strip := by
  induction names generalizing n texts with
  | nil =>
    cases h
    rfl
  | cons name rest ih =>
    simp only [List.map_cons, checkEach, bind_eq_ok, pure_eq_ok] at h
    obtain ⟨t, ht, others, hothers, rfl⟩ := h
    have hname := (Text.ofString_eq_some.mp (orRaise_eq_ok.mp ht)).1
    rw [List.map_cons, List.map_cons, ih hothers, hname]

/-- A list of strings is read as the set of their strips. -/
theorem contextTextSet_names {names : List String} {field : String} {allowEmpty : Bool}
    {values : Finset String} (h : contextTextSet (.arr (names.map .str)) field allowEmpty = .ok values) :
    values = (names.map strip).toFinset := by
  simp only [contextTextSet, bind_eq_ok, require_eq_ok, exists_const, pure_eq_ok] at h
  obtain ⟨texts, htexts, -, -, rfl⟩ := h
  rw [checkEach_contextText htexts]

theorem contextTextSet_textList {texts : List Text} {field : String} {allowEmpty : Bool}
    {values : Finset String} (h : contextTextSet (textList texts) field allowEmpty = .ok values) :
    values = (texts.map Text.val).toFinset := by
  have hlist : textList texts = .arr ((texts.map Text.val).map .str) := by
    rw [textList, List.map_map]
    rfl
  rw [hlist] at h
  rw [contextTextSet_names h, List.map_map]
  exact congrArg List.toFinset (List.map_congr_left fun t _ ↦ t.stripped)

theorem lastUnder_texts {β : Type} {f : Text → β} {texts : List Text} {t : Text} (h : t ∈ texts) :
    lastUnder t.val (texts.map fun u ↦ (u.val, f u)) = some (f t) := by
  have hentry : (t.val, f t) ∈ texts.map fun u ↦ (u.val, f u) := List.mem_map.mpr ⟨t, h, rfl⟩
  obtain ⟨value, hvalue⟩ := exists_lastUnder hentry
  rw [t.stripped] at hvalue
  obtain ⟨name, hmem, hname⟩ := mem_of_lastUnder hvalue
  obtain ⟨u, -, hu⟩ := List.mem_map.mp hmem
  obtain ⟨rfl, rfl⟩ := Prod.mk.inj hu
  rw [u.stripped] at hname
  rw [hvalue, Text.ext hname]

/-! ### The policies of a compiled state -/

/-- The policy that a compiled state stands for. -/
structure FollowsState (state : CompiledExecutionState) (o : Text) (policy : Policy) : Prop where
  /-- The functions of its dispatch. -/
  functions : policy.requiredFunctions =
    (((state.lensDispatch.lookup o.val).getD []).map Text.val).toFinset
  /-- The nodes that name it. -/
  upstream : policy.upstream = ((upstreamDependencies state o).map strip).toFinset
  /-- Its successors. -/
  downstream : policy.downstream =
    (((state.dependencyGraph.lookup o.val).getD []).map Text.val).toFinset
  /-- Some outcome class is allowed. -/
  outcome : OutcomeClass.artifact.name ∈ policy.allowedOutcomeClasses
  /-- Standing authority for reversible work, and no other. -/
  authority : policy.authorityByActionClass =
    [(.reversible, ⟨false, {compiledAuthoritySource state}⟩)]

theorem strip_compiledAuthoritySource (state : CompiledExecutionState) :
    strip (compiledAuthoritySource state) = compiledAuthoritySource state :=
  strip_append_text (c := 'c') rfl "ompiled-context:".toList state.sourceFingerprint

theorem authorityProfiles_compiled {source field : String}
    {profiles : List (ActionClass × AuthorityProfile)}
    (h : authorityProfiles (.obj [("REVERSIBLE", .obj [("requires_human", .bool false),
      ("source_refs", .arr [.str source])])]) field = .ok profiles) :
    profiles = [(.reversible, ⟨false, {strip source}⟩)] := by
  have hname : Text.ofString "REVERSIBLE" = some ⟨"REVERSIBLE", by decide, by decide⟩ := by
    decide +kernel
  have hclass : ActionClass.ofName (upper "REVERSIBLE") = some .reversible := by decide +kernel
  simp only [authorityProfiles, authorityProfilesFrom, contextText, hname, bind_eq_ok, require_eq_ok,
    orRaise_eq_ok, Option.some.injEq, exists_eq_left', hclass, exists_const] at h
  obtain ⟨-, -, -, -, sources, hsources, hprofiles⟩ := h
  have hsources : sources = ([source].map strip).toFinset := contextTextSet_names hsources
  cases hprofiles
  rw [hsources]
  simp [Json.get, Json.get?]

theorem artifact_mem_outcomes : OutcomeClass.artifact.name ∈ Finset.image upper
    (["ARTIFACT", "EXTERNAL_STATE", "HUMAN_STATE", "SYSTEM_STATE"].map strip).toFinset := by
  decide +kernel

section

variable (state : CompiledExecutionState) (o : Text)

theorem get_functions_compiled : (compiledPolicy state o).get "required_functions" =
    textList ((state.lensDispatch.lookup o.val).getD []) := by
  simp [compiledPolicy, Json.get, Json.get?]

theorem get_dependencies_compiled : (compiledPolicy state o).get "required_dependencies" = .obj [
    ("upstream", .arr ((upstreamDependencies state o).map .str)),
    ("downstream", textList ((state.dependencyGraph.lookup o.val).getD []))] := by
  simp [compiledPolicy, Json.get, Json.get?, List.lookup_cons]

theorem get_outcomes_compiled : (compiledPolicy state o).get "allowed_outcome_classes" =
    .arr (["ARTIFACT", "EXTERNAL_STATE", "HUMAN_STATE", "SYSTEM_STATE"].map .str) := by
  simp [compiledPolicy, Json.get, Json.get?, List.lookup_cons]

theorem get_authority_compiled : (compiledPolicy state o).get "authority_by_action_class" =
    .obj [("REVERSIBLE", .obj [("requires_human", .bool false),
      ("source_refs", .arr [.str (compiledAuthoritySource state)])])] := by
  simp [compiledPolicy, Json.get, Json.get?, List.lookup_cons]

end

/-- Normalizing the raw policy of an object changes nothing that it says. -/
theorem followsState_of_normalized {state : CompiledExecutionState} {o : Text} {key : String}
    {policy : Policy} (h : normalizePolicy key (compiledPolicy state o) = .ok policy) :
    FollowsState state o policy := by
  simp only [normalizePolicy, bind_eq_ok, require_eq_ok, exists_const, pure_eq_ok,
    get_functions_compiled, get_dependencies_compiled, get_outcomes_compiled,
    get_authority_compiled] at h
  obtain ⟨-, functions, hfunctions, -, upstream, hupstream, downstream, hdownstream, outcomes,
    houtcomes, profiles, hprofiles, rfl⟩ := h
  constructor
  · exact contextTextSet_textList hfunctions
  · exact contextTextSet_names hupstream
  · exact contextTextSet_textList hdownstream
  · rw [contextTextSet_names houtcomes]
    exact artifact_mem_outcomes
  · rw [authorityProfiles_compiled hprofiles, strip_compiledAuthoritySource]

/-- What a snapshot holds of the compiled state it was made from. -/
structure BridgedFrom (state : CompiledExecutionState) (snapshot : TrustedContextSnapshot) : Prop where
  /-- Every retained object has the policy the state stands for. -/
  policies : ∀ o ∈ state.retainedScopeRefs, ∃ policy, snapshot.policies.lookup o.val = some policy ∧
    policy.WellFormed ∧ FollowsState state o policy
  /-- No other object has one. -/
  retained : ∀ key policy, snapshot.policies.lookup key = some policy →
    ∃ o ∈ state.retainedScopeRefs, o.val = key
  /-- Nothing is approved. -/
  approvals : snapshot.approvals = []
  /-- The fingerprint of the sources is kept. -/
  source : snapshot.sourceFingerprint = state.sourceFingerprint.val
  /-- The snapshot was validated. -/
  shape : ∃ document, SnapshotShape document snapshot

theorem bridge_spec {rt : CompilerRuntime} {state : CompiledExecutionState} {ttlSeconds : ℤ}
    {snapshot : TrustedContextSnapshot}
    (h : compiledStateToTrustedSnapshot rt state ttlSeconds = .ok snapshot) :
    BridgedFrom state snapshot := by
  simp only [compiledStateToTrustedSnapshot, bind_eq_ok, require_eq_ok, exists_const] at h
  obtain ⟨-, -, -, -, hvalid⟩ := h
  generalize hdocument :
    snapshotDocument rt state (state.compiledAt + ttlSeconds * 1000000) = document at hvalid
  have hentries : document.get "policies" =
      .obj (state.retainedScopeRefs.map fun o ↦ (o.val, compiledPolicy state o)) := by
    rw [← hdocument]
    simp [snapshotDocument, Json.get, Json.get?, List.lookup_cons]
  have happrovals : document.get "approvals" = .arr [] := by
    rw [← hdocument]
    simp [snapshotDocument, Json.get, Json.get?, List.lookup_cons]
  have hsource : document.get "source_fingerprint" = .str state.sourceFingerprint.val := by
    rw [← hdocument]
    simp [snapshotDocument, Json.get, Json.get?, List.lookup_cons]
  have hshape := snapshotShape_of_validated hvalid
  have hpolicies := hshape.policies
  rw [hentries] at hpolicies
  obtain ⟨-, hkeys⟩ := lookup_normalizePoliciesFrom hpolicies
  constructor
  · intro o ho
    obtain ⟨policy, hpolicy, hlookup⟩ := (hkeys o.val).1 _ (lastUnder_texts ho)
    exact ⟨policy, hlookup, normalizePolicy_wellFormed hpolicy, followsState_of_normalized hpolicy⟩
  · intro key policy hlookup
    rcases hlast : lastUnder key (entriesOf (.obj (state.retainedScopeRefs.map fun o ↦
        (o.val, compiledPolicy state o)))) with _ | last
    · cases ((hkeys key).2 hlast).symm.trans hlookup
    · obtain ⟨name, hmem, hname⟩ := mem_of_lastUnder hlast
      obtain ⟨o, ho, hentry⟩ := List.mem_map.mp hmem
      rw [← (Prod.mk.inj hentry).1, o.stripped] at hname
      exact ⟨o, ho, hname⟩
  · have hread := (ValidatedSnapshot.mk document snapshot hvalid).approvals_eq
    rw [happrovals] at hread
    exact (Except.ok.inj hread).symm
  · obtain ⟨t, ht, hsame⟩ := hshape.source
    rw [hsource] at ht
    have hval := (Text.ofString_eq_some.mp (orRaise_eq_ok.mp ht)).1
    rw [hsame, ← hval, state.sourceFingerprint.stripped]
  · exact ⟨document, hshape⟩

/-! ### What a policy says of the description -/

theorem lookup_eq_some_iff_mem {β : Type} {entries : List (String × β)}
    (h : (entries.map Prod.fst).Nodup) {key : String} {value : β} :
    entries.lookup key = some value ↔ (key, value) ∈ entries := by
  refine ⟨mem_of_lookup, fun hmem ↦ ?_⟩
  induction entries with
  | nil => cases hmem
  | cons head rest ih =>
    obtain ⟨hnew, hrest⟩ := List.nodup_cons.mp h
    rw [lookup_cons_eq_ite]
    rcases List.mem_cons.mp hmem with rfl | hlater
    · rw [if_pos rfl]
    · have hne : key ≠ head.1 := fun hsame ↦ hnew (hsame ▸ List.mem_map_of_mem hlater)
      rw [if_neg hne, ih hrest hlater]

/-- A text is found under a key exactly when the last entry of the key assigns it. -/
theorem HoldsLast.mem_lookup {dict : List (String × List Text)} {entries : List (String × Json)}
    (h : HoldsLast dict entries) (key s : String) :
    s ∈ (((dict.lookup key).getD []).map Text.val).toFinset ↔
      ∃ last, lastUnder key entries = some last ∧ Assigns last s := by
  rw [List.mem_toFinset, List.mem_map]
  rcases hlast : lastUnder key entries with _ | last
  · simp [h.missing key hlast]
  · obtain ⟨texts, htexts, hassigns⟩ := h.found key last hlast
    simp [htexts, hassigns]

theorem CompiledFrom.mem_upstream {raw : Json} {state : CompiledExecutionState}
    (h : CompiledFrom raw state) (o : Text) (name : String) :
    name ∈ ((upstreamDependencies state o).map strip).toFinset ↔
      ∃ last, lastUnder name (entriesOf (raw.get "dependency_graph")) = some last ∧
        Assigns last o.val := by
  have hkey : ∀ key texts, (key, texts) ∈ state.dependencyGraph →
      ∃ last, lastUnder key (entriesOf (raw.get "dependency_graph")) = some last ∧
        strip key = key ∧ ∀ s, Assigns last s ↔ ∃ t ∈ texts, t.val = s := by
    intro key texts hmem
    have hlookup := (lookup_eq_some_iff_mem h.graph.nodup).mpr hmem
    rcases hlast : lastUnder key (entriesOf (raw.get "dependency_graph")) with _ | last
    · cases (h.graph.missing key hlast).symm.trans hlookup
    · obtain ⟨found, hfound, hassigns⟩ := h.graph.found key last hlast
      cases hfound.symm.trans hlookup
      obtain ⟨raw, -, hstrip⟩ := mem_of_lastUnder hlast
      exact ⟨last, rfl, hstrip ▸ strip_strip raw, hassigns⟩
  simp only [upstreamDependencies, List.mem_toFinset, List.mem_map, List.mem_mergeSort,
    List.mem_filter, decide_eq_true_eq]
  constructor
  · rintro ⟨_, ⟨⟨key, texts⟩, ⟨hmem, ho⟩, rfl⟩, rfl⟩
    obtain ⟨last, hlast, hstrip, hassigns⟩ := hkey key texts hmem
    exact ⟨last, hstrip.symm ▸ hlast, (hassigns o.val).mpr ⟨o, ho, rfl⟩⟩
  · rintro ⟨last, hlast, hassigned⟩
    obtain ⟨texts, hlookup, hassigns⟩ := h.graph.found name last hlast
    obtain ⟨t, ht, hval⟩ := (hassigns o.val).mp hassigned
    have hmem := mem_of_lookup hlookup
    obtain ⟨-, -, hstrip, -⟩ := hkey name texts hmem
    exact ⟨name, ⟨(name, texts), ⟨hmem, Text.ext hval ▸ ht⟩, rfl⟩, hstrip⟩

/-! ### The guarantee -/

/-- An envelope covers what a raw description says about its active object. -/
structure CoversDescription (raw envelope : Json) : Prop where
  scope : Assigns (raw.get "retained_scope_refs") (activeObject envelope)
  /-- Every function that an entry of the dispatch assigns to it is listed. -/
  functions : ∀ entry ∈ entriesOf (raw.get "lens_dispatch"), strip entry.1 = activeObject envelope →
    ∀ s, Assigns entry.2 s → s ∈ requiredFunctions envelope
  /-- Every successor that an entry of the graph gives it is listed. -/
  downstream : ∀ entry ∈ entriesOf (raw.get "dependency_graph"),
    strip entry.1 = activeObject envelope →
    ∀ s, Assigns entry.2 s → s ∈ dependencySide envelope "downstream"
  /-- Every node that names it as successor is listed. -/
  upstream : ∀ entry ∈ entriesOf (raw.get "dependency_graph"),
    Assigns entry.2 (activeObject envelope) → strip entry.1 ∈ dependencySide envelope "upstream"
  actionClass : envelopeActionClass envelope = "REVERSIBLE"
  /-- The authority is the compiled source. -/
  source : ∃ t, compiledText (raw.get "source_fingerprint") "source_fingerprint" = .ok t ∧
    authoritySourceRef envelope = "compiled-context:" ++ t.val

/-- A snapshot approves nothing and accepts no envelope that leaves something out. -/
def AuthorityCompiled (raw : Json) (snapshot : TrustedContextSnapshot) : Prop :=
  snapshot.approvals = [] ∧ ∀ envelope now result,
    crosscheckExecutionEnvelope envelope snapshot now = .ok result → CoversDescription raw envelope

/-- For no retained object does the last entry of a key assign less than an earlier one. -/
def NoEntryLost (raw : Json) : Prop :=
  ∀ o, Assigns (raw.get "retained_scope_refs") o →
    (∀ entry ∈ entriesOf (raw.get "lens_dispatch"), strip entry.1 = o →
      ∀ last, lastUnder o (entriesOf (raw.get "lens_dispatch")) = some last →
      ∀ s, Assigns entry.2 s → Assigns last s) ∧
    (∀ entry ∈ entriesOf (raw.get "dependency_graph"), strip entry.1 = o →
      ∀ last, lastUnder o (entriesOf (raw.get "dependency_graph")) = some last →
      ∀ s, Assigns entry.2 s → Assigns last s) ∧
    ∀ entry ∈ entriesOf (raw.get "dependency_graph"), Assigns entry.2 o →
      ∀ last, lastUnder (strip entry.1) (entriesOf (raw.get "dependency_graph")) = some last →
      Assigns last o

section

variable {raw envelope : Json} {state : CompiledExecutionState} {snapshot : TrustedContextSnapshot}

/-- Without a lost entry an accepted envelope covers the description. -/
theorem coversDescription_of_crosscheck (hcompiled : CompiledFrom raw state)
    (hbridged : BridgedFrom state snapshot) (hkept : NoEntryLost raw) {now : ℤ}
    {result : TrustedContextSnapshot}
    (h : crosscheckExecutionEnvelope envelope snapshot now = .ok result) :
    CoversDescription raw envelope := by
  obtain ⟨policy, hpolicy, hmeets, -⟩ := meets_of_crosscheck h
  obtain ⟨o, ho, hactive⟩ := hbridged.retained _ policy hpolicy
  obtain ⟨found, hfound, -, hfollows⟩ := hbridged.policies o ho
  rw [hactive, hpolicy, Option.some.injEq] at hfound
  subst hfound
  have hscope := (hcompiled.scope o.val).mpr ⟨o, ho, rfl⟩
  obtain ⟨hdispatch, hdownstream, hupstream⟩ := hkept o.val hscope
  obtain ⟨c, profile, hclass, hprofile, -, hsource⟩ := hmeets.authority
  have hauthority := mem_of_lookup hprofile
  rw [hfollows.authority, List.mem_singleton, Prod.mk.injEq] at hauthority
  obtain ⟨rfl, rfl⟩ := hauthority
  constructor
  · rwa [← hactive]
  · intro entry hentry hname s hs
    rw [← hactive] at hname
    obtain ⟨last, hlast⟩ := exists_lastUnder hentry
    rw [hname] at hlast
    refine hmeets.functions ?_
    rw [hfollows.functions, hcompiled.dispatch.mem_lookup]
    exact ⟨last, hlast, hdispatch entry hentry hname last hlast s hs⟩
  · intro entry hentry hname s hs
    rw [← hactive] at hname
    obtain ⟨last, hlast⟩ := exists_lastUnder hentry
    rw [hname] at hlast
    refine hmeets.downstream ?_
    rw [hfollows.downstream, hcompiled.graph.mem_lookup]
    exact ⟨last, hlast, hdownstream entry hentry hname last hlast s hs⟩
  · intro entry hentry hassigned
    rw [← hactive] at hassigned
    obtain ⟨last, hlast⟩ := exists_lastUnder hentry
    refine hmeets.upstream ?_
    rw [hfollows.upstream, hcompiled.mem_upstream]
    exact ⟨last, hlast, hupstream entry hentry hassigned last hlast⟩
  · exact hclass
  · exact ⟨state.sourceFingerprint, hcompiled.source, Finset.mem_singleton.mp hsource⟩

/-- For every retained object there is an accepted envelope that lists what its policy asks for and no
more. -/
theorem exists_crosschecked_compiled (hbridged : BridgedFrom state snapshot) {o : Text}
    (ho : o ∈ state.retainedScopeRefs) : ∃ policy envelope, FollowsState state o policy ∧
      (∃ now, crosscheckExecutionEnvelope envelope snapshot now = .ok snapshot) ∧
      activeObject envelope = o.val ∧ requiredFunctions envelope = policy.requiredFunctions ∧
      dependencySide envelope "upstream" = policy.upstream ∧
      dependencySide envelope "downstream" = policy.downstream := by
  obtain ⟨policy, hlookup, hwell, hfollows⟩ := hbridged.policies o ho
  obtain ⟨document, hshape⟩ := hbridged.shape
  have hprofile : policy.authorityByActionClass.lookup .reversible =
      some ⟨false, {compiledAuthoritySource state}⟩ := by
    rw [hfollows.authority]
    rfl
  obtain ⟨envelope, hchecked, hasks⟩ := exists_crosschecked hshape o hlookup hwell hfollows.outcome
    hprofile (Finset.mem_singleton_self _)
  exact ⟨policy, envelope, hfollows, ⟨_, hchecked⟩, hasks.activeObject, hasks.functions,
    hasks.upstream, hasks.downstream⟩

/-- A lost entry is left out by some accepted envelope. -/
theorem noEntryLost_of_authorityCompiled (hcompiled : CompiledFrom raw state)
    (hbridged : BridgedFrom state snapshot) (h : AuthorityCompiled raw snapshot) :
    NoEntryLost raw := by
  intro _ hscope
  obtain ⟨o, ho, rfl⟩ := (hcompiled.scope _).mp hscope
  obtain ⟨policy, envelope, hfollows, ⟨now, hchecked⟩, hactive, hfunctions, hupstream, hdownstream⟩ :=
    exists_crosschecked_compiled hbridged ho
  have hcovers := h.2 envelope now snapshot hchecked
  refine ⟨fun entry hentry hname last hlast s hs ↦ ?_, fun entry hentry hname last hlast s hs ↦ ?_,
    fun entry hentry hassigned last hlast ↦ ?_⟩
  · have hlisted := hcovers.functions entry hentry (hname.trans hactive.symm) s hs
    rw [hfunctions, hfollows.functions, hcompiled.dispatch.mem_lookup] at hlisted
    obtain ⟨kept, hkept, hassigned⟩ := hlisted
    cases hkept.symm.trans hlast
    exact hassigned
  · have hlisted := hcovers.downstream entry hentry (hname.trans hactive.symm) s hs
    rw [hdownstream, hfollows.downstream, hcompiled.graph.mem_lookup] at hlisted
    obtain ⟨kept, hkept, hassigned⟩ := hlisted
    cases hkept.symm.trans hlast
    exact hassigned
  · have hlisted := hcovers.upstream entry hentry (hactive ▸ hassigned)
    rw [hupstream, hfollows.upstream, hcompiled.mem_upstream] at hlisted
    obtain ⟨kept, hkept, hassigned⟩ := hlisted
    cases hkept.symm.trans hlast
    exact hassigned

/-- Keys that stay distinct when stripped lose nothing. -/
theorem noEntryLost_of_distinct
    (h : ∀ field ∈ ["lens_dispatch", "dependency_graph"], ∀ a ∈ entriesOf (raw.get field),
      ∀ b ∈ entriesOf (raw.get field), strip a.1 = strip b.1 → a.2 = b.2) : NoEntryLost raw := by
  have hlast : ∀ field ∈ ["lens_dispatch", "dependency_graph"], ∀ entry ∈ entriesOf (raw.get field),
      ∀ last, lastUnder (strip entry.1) (entriesOf (raw.get field)) = some last → entry.2 = last := by
    intro field hfield entry hentry last hlast
    obtain ⟨name, hmem, hname⟩ := mem_of_lastUnder hlast
    exact h field hfield entry hentry (name, last) hmem hname.symm
  intro o ho
  refine ⟨?_, ?_, ?_⟩
  · rintro entry hentry rfl last hfound s hs
    rwa [← hlast _ (by simp) entry hentry last hfound]
  · rintro entry hentry rfl last hfound s hs
    rwa [← hlast _ (by simp) entry hentry last hfound]
  · intro entry hentry hs last hfound
    rwa [← hlast _ (by simp) entry hentry last hfound]

end

/-- A description whose first dispatch entry asks for two functions, and whose second, under this key,
for one. -/
def twoDispatches (second : String) : Json := .obj [
  ("retained_scope_refs", .arr [.str "song"]),
  ("truth_owners", .obj (truthPlanes.map fun plane ↦ (plane, .str "o"))),
  ("dependency_graph", .obj []),
  ("lens_dispatch", .obj [("song", .arr [.str "f", .str "g"]), (second, .arr [.str "f"])]),
  ("cursor", .obj [("job_id", .str "j"), ("outcome", .str "c"), ("active_object", .str "song"),
    ("current_step", .str "s"), ("acceptance", .str "a"), ("state", .str "OPEN")]),
  ("source_fingerprint", .str "src"), ("compiled_at", .str "2026-01-01T00:00:00+00:00")]

/-- A runtime that reads and writes two times, and gives the SHA-256 digests of texts told apart by one
of their bytes. -/
def twoTimesWith (digests : List ((ℕ × UInt8) × String)) : CompilerRuntime where
  sha256 text :=
    ((digests.find? fun d ↦ (encodeUtf8 text)[d.1.1]? == some d.1.2).map Prod.snd).getD ""
  fromisoformat := (twoTimes "").fromisoformat
  hmac _ := []
  loads _ := none
  isoformat instant :=
    if instant = 1767225600000000 then "2026-01-01T00:00:00+00:00"
    else if instant = 1767226500000000 then "2026-01-01T00:15:00+00:00"
    else ""

/-- The state and the snapshot of a description that compiles and can be bridged. -/
def bridged {rt : CompilerRuntime} {raw : Json} {ttlSeconds : ℤ}
    (h : (compileExecutionState rt raw >>= fun state ↦
      compiledStateToTrustedSnapshot rt state ttlSeconds).toOption.isSome = true) :
    {made : CompiledExecutionState × TrustedContextSnapshot //
      compileExecutionState rt raw = .ok made.1 ∧
        compiledStateToTrustedSnapshot rt made.1 ttlSeconds = .ok made.2} :=
  match hcompile : compileExecutionState rt raw with
  | .error _ => by
    rw [hcompile] at h
    cases h
  | .ok state =>
    match hbridge : compiledStateToTrustedSnapshot rt state ttlSeconds with
    | .error _ => by
      rw [hcompile] at h
      have hfail : (compiledStateToTrustedSnapshot rt state ttlSeconds).toOption.isSome = true := h
      rw [hbridge] at hfail
      exact absurd hfail Bool.false_ne_true
    | .ok snapshot => ⟨(state, snapshot), rfl, hbridge⟩

/-- A runtime that knows the digests of the first description. -/
def tuneRuntime : CompilerRuntime := twoTimesWith
  [((2, 99), "385d6414b3bb511ef476ededcc40282ca366cfe36f3b97a9c69c59e2e727ab0f"),
    ((2, 97), "5118883bb5611ea5fbcc20f5173b9471fb8745bc35fe358afc6204988e467991")]

/-- A runtime that knows the digests of the second description. -/
def songRuntime : CompilerRuntime := twoTimesWith
  [((2, 99), "201673ad4a61d1ef79e372b9da09d3c275d214bc3876e50f8655253b98942775"),
    ((2, 97), "32978502152a7879e25995ba17d2ac008b6066c7c70094d3568c57a3070c5f55")]

/-- What becomes of a description with two objects. -/
def tuneBridged : {made : CompiledExecutionState × TrustedContextSnapshot //
    compileExecutionState tuneRuntime (twoDispatches "tune") = .ok made.1 ∧
      compiledStateToTrustedSnapshot tuneRuntime made.1 900 = .ok made.2} :=
  bridged (by decide +kernel)

/-- What becomes of a description with one object under two spellings. -/
def songBridged : {made : CompiledExecutionState × TrustedContextSnapshot //
    compileExecutionState songRuntime (twoDispatches "song ") = .ok made.1 ∧
      compiledStateToTrustedSnapshot songRuntime made.1 900 = .ok made.2} :=
  bridged (by decide +kernel)

theorem entriesOf_twoDispatches (second : String) :
    entriesOf ((twoDispatches second).get "lens_dispatch") =
      [("song", .arr [.str "f", .str "g"]), (second, .arr [.str "f"])] := by
  simp [twoDispatches, Json.get, Json.get?, List.lookup_cons, entriesOf]

theorem entriesOf_graph_twoDispatches (second : String) :
    entriesOf ((twoDispatches second).get "dependency_graph") = [] := by
  simp [twoDispatches, Json.get, Json.get?, List.lookup_cons, entriesOf]

end N0te.Governance
