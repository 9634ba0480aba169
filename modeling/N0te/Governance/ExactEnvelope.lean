import N0te.Governance.TrustedContext

/-!
# Envelopes that list exactly what is asked

`EnvelopeParts` are the values of an envelope that the cross-check reads. `EnvelopeParts.document` is
an envelope with these values and nothing else of interest, and `EnvelopeParts.valid` says that the
shape check accepts it. What the cross-check enforces is then exactly what it asks for:
`crosscheck_document` says when it accepts such an envelope.
-/

set_option autoImplicit false
set_option relaxedAutoImplicit false

namespace N0te.Governance

open Library

def OutcomeClass.name : OutcomeClass → String
  | artifact => "ARTIFACT"
  | systemState => "SYSTEM_STATE"
  | externalState => "EXTERNAL_STATE"
  | humanState => "HUMAN_STATE"

theorem OutcomeClass.ofName_eq_some {s : String} {c : OutcomeClass} :
    OutcomeClass.ofName s = some c ↔ s = c.name := by
  constructor
  · intro h
    simp only [OutcomeClass.ofName, List.lookup_cons, List.lookup_nil] at h
    split at h
    · cases h
      simp_all [OutcomeClass.name]
    · split at h
      · cases h
        simp_all [OutcomeClass.name]
      · split at h
        · cases h
          simp_all [OutcomeClass.name]
        · split at h
          · cases h
            simp_all [OutcomeClass.name]
          · cases h
  · rintro rfl
    cases c <;> rfl

def textList (texts : List Text) : Json := .arr (texts.map fun t ↦ .str t.val)

/-- A text where any will do. -/
def filler : Text := ⟨"-", by decide, by decide⟩

/-- A claim that blocks nothing. -/
def fillerClaim : Json := .obj [("statement", .str filler.val), ("truth_type", .str "UNKNOWN"),
  ("evidence_posture", .str "UNKNOWN"), ("source_refs", .arr []), ("blocking", .bool false)]

/-- The values of an envelope that the cross-check reads. -/
structure EnvelopeParts where
  activeObject : Text
  scope : List Text
  /-- The owner of each plane. -/
  owner : String → Text
  /-- The required functions, all invoked. -/
  functions : List Text
  upstream : List Text
  downstream : List Text
  outcome : OutcomeClass
  actionClass : ActionClass
  /-- Whether a human must approve. -/
  requiresHuman : Bool
  sourceRef : Text
  /-- The scope is listed once and not empty. -/
  scopeListed : scope.Nodup ∧ scope ≠ []
  /-- The functions are listed once, and there is one. -/
  functionsListed : functions.Nodup ∧ functions ≠ []
  /-- Dependencies are listed once. -/
  dependenciesListed : upstream.Nodup ∧ downstream.Nodup

namespace EnvelopeParts

variable (parts : EnvelopeParts)

/-- An envelope with these values. -/
def document : Json := .obj [
  ("intent", .obj [("description", .str filler.val), ("outcome_class", .str parts.outcome.name)]),
  ("active_object", .str parts.activeObject.val),
  ("retained_scope_refs", textList parts.scope),
  ("dependencies", .obj [("upstream", textList parts.upstream),
    ("downstream", textList parts.downstream)]),
  ("truth_owners", .obj (truthPlanes.map fun plane ↦ (plane, .str (parts.owner plane).val))),
  ("claims", .arr [fillerClaim]),
  ("required_functions", textList parts.functions),
  ("invoked_functions", textList parts.functions),
  ("authority", .obj [("action_class", .str parts.actionClass.name), ("authorized", .bool true),
    ("requires_human", .bool parts.requiresHuman), ("source_ref", .str parts.sourceRef.val)]),
  ("acceptance", .obj [("outcome_class", .str parts.outcome.name),
    ("observable_condition", .str filler.val), ("evidence_required", textList [filler]),
    ("artifact_is_not_completion", .bool true)]),
  ("next_causal_dependency", .obj [("state", .str "NONE"), ("description", .str filler.val),
    ("source_ref", .str filler.val)])]

end EnvelopeParts

/-! ### Texts -/

theorem envelopeText_val (t : Text) (field : String) : envelopeText (.str t.val) field = .ok t := by
  simp [envelopeText]

theorem stringListFrom_texts (field : String) (before texts : List Text)
    (h : (before ++ texts).Nodup) :
    stringListFrom field before (texts.map fun t ↦ .str t.val) = .ok (before ++ texts) := by
  induction texts generalizing before with
  | nil => simp [stringListFrom]
  | cons t rest ih =>
    have hnew : t ∉ before := fun hmem ↦
      (List.nodup_append.mp h).2.2 t hmem t List.mem_cons_self rfl
    rw [List.map_cons, stringListFrom]
    refine bind_eq_ok.mpr ⟨t, envelopeText_val t field, ?_⟩
    refine bind_eq_ok.mpr ⟨(), require_eq_ok.mpr hnew, ?_⟩
    rw [ih _ (by simpa using h)]
    simp

/-- A list of distinct texts passes the check of a list field. -/
theorem stringList_texts (field : String) (allowEmpty : Bool) {texts : List Text}
    (hnodup : texts.Nodup) (hne : allowEmpty = true ∨ texts ≠ []) :
    stringList (textList texts) field allowEmpty = .ok texts := by
  refine bind_eq_ok.mpr ⟨texts, stringListFrom_texts field [] texts hnodup, ?_⟩
  exact bind_eq_ok.mpr ⟨(), require_eq_ok.mpr hne, rfl⟩

theorem stripped_text (t : Text) : stripped (.str t.val) = t.val := t.stripped

theorem textSetOf_textList (texts : List Text) :
    textSetOf (textList texts) = (texts.map Text.val).toFinset := by
  simp [textSetOf, textList, items, Function.comp_def, stripped_text]

theorem normalName_actionClass (c : ActionClass) : normalName (.str c.name) = c.name := by
  cases c <;> decide

theorem normalName_outcomeClass (c : OutcomeClass) : normalName (.str c.name) = c.name := by
  cases c <;> decide

/-! ### The envelope is valid -/

namespace EnvelopeParts

variable (parts : EnvelopeParts)

theorem get_intent : parts.document.get "intent" = .obj
    [("description", .str filler.val), ("outcome_class", .str parts.outcome.name)] := by
  simp [document, Json.get, Json.get?]

theorem get_activeObject : parts.document.get "active_object" = .str parts.activeObject.val := by
  simp [document, Json.get, Json.get?, List.lookup_cons]

theorem get_scope : parts.document.get "retained_scope_refs" = textList parts.scope := by
  simp [document, Json.get, Json.get?, List.lookup_cons]

theorem get_dependencies : parts.document.get "dependencies" = .obj
    [("upstream", textList parts.upstream), ("downstream", textList parts.downstream)] := by
  simp [document, Json.get, Json.get?, List.lookup_cons]

theorem get_owners : parts.document.get "truth_owners" =
    .obj (truthPlanes.map fun plane ↦ (plane, .str (parts.owner plane).val)) := by
  simp [document, Json.get, Json.get?, List.lookup_cons]

theorem get_functions : parts.document.get "required_functions" = textList parts.functions := by
  simp [document, Json.get, Json.get?, List.lookup_cons]

theorem get_authority : parts.document.get "authority" = .obj
    [("action_class", .str parts.actionClass.name), ("authorized", .bool true),
      ("requires_human", .bool parts.requiresHuman), ("source_ref", .str parts.sourceRef.val)] := by
  simp [document, Json.get, Json.get?, List.lookup_cons]

theorem get_owner {plane : String} (h : plane ∈ truthPlanes) :
    (parts.document.get "truth_owners").get plane = .str (parts.owner plane).val := by
  rw [get_owners]
  simp only [truthPlanes, List.mem_cons, List.not_mem_nil, or_false] at h
  rcases h with rfl | rfl | rfl | rfl | rfl <;>
    simp [Json.get, Json.get?, truthPlanes, List.lookup_cons]

theorem missingKeys_document : missingKeys ["acceptance", "active_object", "authority", "claims",
    "dependencies", "intent", "invoked_functions", "next_causal_dependency", "required_functions",
    "retained_scope_refs", "truth_owners"] parts.document = [] := by
  simp [missingKeys, document, Json.keys]

theorem fillerClaim_valid : ∃ checked, checkEach validateClaim 0 [fillerClaim] = .ok checked := by
  have hsome : (checkEach validateClaim 0 [fillerClaim]).toOption.isSome = true := by decide +kernel
  rcases hcheck : checkEach validateClaim 0 [fillerClaim] with e | checked
  · rw [hcheck] at hsome
    cases hsome
  · exact ⟨checked, rfl⟩

theorem owners_valid (planes : List String) (hplanes : ∀ plane ∈ planes, plane ∈ truthPlanes) (n : ℕ) :
    ∃ owners, checkEach (fun _ plane ↦ envelopeText ((parts.document.get "truth_owners").get plane)
      ("truth_owners." ++ plane)) n planes = .ok owners := by
  induction planes generalizing n with
  | nil => exact ⟨[], rfl⟩
  | cons plane rest ih =>
    obtain ⟨hplane, hrest⟩ := List.forall_mem_cons.mp hplanes
    obtain ⟨owners, howners⟩ := ih hrest (n + 1)
    refine ⟨_, bind_eq_ok.mpr ⟨parts.owner plane, ?_, bind_eq_ok.mpr ⟨owners, howners, rfl⟩⟩⟩
    dsimp only
    rw [parts.get_owner hplane, envelopeText_val]

/-- The shape check accepts the envelope. -/
theorem valid : validateExecutionEnvelope parts.document = .ok () := by
  obtain ⟨owners, howners⟩ := parts.owners_valid truthPlanes (fun _ h ↦ h) 0
  have hscope := stringList_texts "retained_scope_refs" false parts.scopeListed.1
    (.inr parts.scopeListed.2)
  have hupstream := stringList_texts "dependencies.upstream" true parts.dependenciesListed.1
    (.inl rfl)
  have hdownstream := stringList_texts "dependencies.downstream" true parts.dependenciesListed.2
    (.inl rfl)
  have hfunctions := stringList_texts "required_functions" false parts.functionsListed.1
    (.inr parts.functionsListed.2)
  have hinvoked := stringList_texts "invoked_functions" true parts.functionsListed.1 (.inl rfl)
  have hevidence := stringList_texts "acceptance.evidence_required" false
    (List.nodup_singleton filler) (.inr (List.cons_ne_nil _ _))
  have hname : OutcomeClass.ofName parts.outcome.name = some parts.outcome :=
    OutcomeClass.ofName_eq_some.mpr rfl
  have hnext : normalName (.str "NONE") ∈ nextDependencyStates := by decide
  unfold validateExecutionEnvelope
  simp only [bind_eq_ok, require_eq_ok, exists_const, missingKeys_document, get_intent,
    get_activeObject, get_scope, get_dependencies, get_functions, get_authority, howners, hscope]
  simp [Json.get, Json.get?, List.lookup_cons, document, Json.isObj, normalName_outcomeClass,
    normalName_actionClass, envelopeText_val, hupstream, hdownstream, hfunctions, hinvoked, hevidence,
    items, fillerClaim_valid, isBool, sortedTexts, hname, hnext]

/-! ### What the cross-check reads -/

@[simp] theorem activeObject_document : Governance.activeObject parts.document = parts.activeObject.val := by
  rw [Governance.activeObject, get_activeObject, stripped_text]

@[simp] theorem retainedScope_document :
    retainedScope parts.document = (parts.scope.map Text.val).toFinset := by
  rw [retainedScope, get_scope, textSetOf_textList]

@[simp] theorem requiredFunctions_document :
    requiredFunctions parts.document = (parts.functions.map Text.val).toFinset := by
  rw [requiredFunctions, get_functions, textSetOf_textList]

@[simp] theorem upstream_document :
    dependencySide parts.document "upstream" = (parts.upstream.map Text.val).toFinset := by
  rw [dependencySide, get_dependencies, ← textSetOf_textList]
  simp [Json.get, Json.get?]

@[simp] theorem downstream_document :
    dependencySide parts.document "downstream" = (parts.downstream.map Text.val).toFinset := by
  rw [dependencySide, get_dependencies, ← textSetOf_textList]
  simp [Json.get, Json.get?, List.lookup_cons]

@[simp] theorem intentOutcome_document : intentOutcome parts.document = parts.outcome.name := by
  rw [intentOutcome, get_intent]
  simp [Json.get, Json.get?, List.lookup_cons, normalName_outcomeClass]

@[simp] theorem envelopeActionClass_document :
    envelopeActionClass parts.document = parts.actionClass.name := by
  rw [envelopeActionClass, get_authority]
  simp [Json.get, Json.get?, normalName_actionClass]

@[simp] theorem requiresHuman_document :
    Governance.requiresHuman parts.document = .bool parts.requiresHuman := by
  rw [Governance.requiresHuman, get_authority]
  simp [Json.get, Json.get?, List.lookup_cons]

@[simp] theorem authoritySourceRef_document :
    authoritySourceRef parts.document = parts.sourceRef.val := by
  rw [authoritySourceRef, get_authority]
  simp [Json.get, Json.get?, List.lookup_cons, stripped_text]

theorem truthOwner_document {plane : String} (h : plane ∈ truthPlanes) :
    truthOwner parts.document plane = (parts.owner plane).val := by
  rw [truthOwner, parts.get_owner h, stripped_text]

/-- The cross-check accepts the envelope when it lists what the policy of its object asks for. -/
theorem crosscheck_document {snapshot : TrustedContextSnapshot} {policy : Policy}
    {profile : AuthorityProfile}
    (hpolicy : snapshot.policies.lookup parts.activeObject.val = some policy)
    (hscope : (parts.scope.map Text.val).toFinset = snapshot.retainedScopeRefs)
    (howners : ∀ plane ∈ truthPlanes,
      snapshot.truthOwners.lookup plane = some (parts.owner plane).val)
    (hfunctions : policy.requiredFunctions ⊆ (parts.functions.map Text.val).toFinset)
    (hupstream : policy.upstream ⊆ (parts.upstream.map Text.val).toFinset)
    (hdownstream : policy.downstream ⊆ (parts.downstream.map Text.val).toFinset)
    (houtcome : parts.outcome.name ∈ policy.allowedOutcomeClasses)
    (hprofile : policy.authorityByActionClass.lookup parts.actionClass = some profile)
    (hhuman : parts.requiresHuman = profile.requiresHuman)
    (hsource : parts.sourceRef.val ∈ profile.sourceRefs) :
    crosscheckExecutionEnvelope parts.document snapshot snapshot.expiresAt = .ok snapshot := by
  obtain ⟨planes, hplanes⟩ : ∃ result, checkEach (fun _ plane ↦ require
      (some (truthOwner parts.document plane) = snapshot.truthOwners.lookup plane)
      (contextError ("truth owner mismatch for " ++ plane))) 0 truthPlanes = .ok result := by
    refine exists_checkEach_require fun plane hplane ↦ ?_
    rw [parts.truthOwner_document hplane, howners plane hplane]
  unfold crosscheckExecutionEnvelope
  simp only [bind_eq_ok, require_eq_ok, exists_const, orRaise_eq_ok, pure_eq_ok, parts.valid, le_refl,
    activeObject_document, retainedScope_document, requiredFunctions_document, upstream_document,
    downstream_document, intentOutcome_document, envelopeActionClass_document,
    requiresHuman_document, authoritySourceRef_document, ActionClass.ofName_name, Option.bind_some,
    Finset.sdiff_eq_empty_iff_subset, true_and, and_true]
  exact ⟨policy, hpolicy, hscope, planes, hplanes, hfunctions, hupstream, hdownstream, houtcome, profile,
    hprofile, by rw [hhuman], hsource⟩

end EnvelopeParts

end N0te.Governance
