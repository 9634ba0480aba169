import N0te.Governance.PolicyKeys

/-!
# The compiled execution state

`compileExecutionState` turns a raw description of the retained scope, the dependency graph, the lens
dispatch, the cursor, the facts and the incidents into a `CompiledExecutionState`.
`compileFromManifest` assembles the description from the four canonical sources and adds what the
state says about the active object.

A raw value is read as the code reads it: `iterate` is what a Python loop over `value or ()` yields, so
a text is read character by character and an object by its keys. `Assigns` says that a text is among
what is read, and `compile_spec` says what a compiled state holds in terms of it: of the entries whose
keys strip to one key, the graph and the dispatch hold the last.
-/

set_option autoImplicit false
set_option relaxedAutoImplicit false

namespace N0te.Governance

open Library

/-- The runtime of the compiler: it also writes times. -/
structure CompilerRuntime extends Runtime where
  /-- `isoformat` of a UTC time, given in microseconds. -/
  isoformat : ℤ → String

/-! ### Fields -/

/-- A `CompiledStateError`. -/
def compiledStateError (message : String) : Raised ErrorClass := ⟨.compiledStateError, message⟩

/-- `_text`. -/
def compiledText (value : Json) (field : String) : Checked Text :=
  match value with
  | .str s => orRaise (Text.ofString s) (compiledStateError (field ++ " must be non-empty text"))
  | _ => .error (compiledStateError (field ++ " must be non-empty text"))

/-- `bool(value)`. -/
def truthy : Json → Bool
  | .null => false
  | .bool b => b
  | .int n => n != 0
  | .float f => f.chars != "0.0".toList && f.chars != "-0.0".toList
  | .str s => s != ""
  | .arr items => !items.isEmpty
  | .obj fields => !fields.isEmpty

/-- The items of `value or ()`. -/
def iterate (value : Json) : Checked (List Json) :=
  if truthy value then
    match value with
    | .arr items => .ok items
    | .str s => .ok (s.toList.map fun c ↦ .str (String.ofList [c]))
    | .obj fields => .ok (fields.map fun field ↦ .str field.1)
    | other => .error ⟨.typeError, "'" ++ other.typeName ++ "' object is not iterable"⟩
  else .ok []

/-- `_unique_text(value or (), field)`. -/
def uniqueText (value : Json) (field : String) : Checked (List Text) := do
  let items ← iterate value
  let out ← checkEach (fun _ item ↦ compiledText item field) 0 items
  require out.Nodup (compiledStateError (field ++ " contains duplicates"))
  return out

/-- `_iso`: the time in microseconds UTC. -/
def compiledIso (rt : Runtime) (value : Json) (field : String) : Checked ℤ := do
  let text ← compiledText value field
  let stamp ← orRaise (rt.fromisoformat (replaceZulu text.val))
    (compiledStateError (field ++ " must be ISO-8601"))
  require (stamp.aware = true) (compiledStateError (field ++ " must include timezone"))
  return stamp.instant

/-! ### Facts and the cursor -/

/-- `EPISTEMIC_STATES`. -/
def epistemicStates : List String := ["OBSERVED", "DERIVED", "CLAIMED", "ASSUMED", "STALE", "UNKNOWN",
  "UNTESTED", "TESTING", "SUPPORTED", "WEAK", "FAILED_TEST", "BLOCKED", "REJECTED", "RISKY",
  "PREPARED", "SUBMITTED", "ACCEPTED", "LIVE", "VERIFIED"]

/-- A fact. -/
structure StateFact where
  factId : Text
  value : Text
  /-- How well it is known. -/
  state : String
  sourceRef : Text
  /-- When it was observed, in microseconds UTC. -/
  observedAt : ℤ
  sourceRevision : Text

/-- `StateFact.from_raw`. -/
def StateFact.fromRaw (rt : Runtime) (raw : Json) : Checked StateFact := do
  let state := upper (← compiledText (raw.get "state") "fact.state").val
  require (state ∈ epistemicStates) (compiledStateError ("unsupported fact state: " ++ state))
  let factId ← compiledText (raw.get "fact_id") "fact.fact_id"
  let value ← compiledText (raw.get "value") "fact.value"
  let sourceRef ← compiledText (raw.get "source_ref") "fact.source_ref"
  let observedAt ← compiledIso rt (raw.get "observed_at") "fact.observed_at"
  let sourceRevision ← compiledText (raw.get "source_revision") "fact.source_revision"
  return ⟨factId, value, state, sourceRef, observedAt, sourceRevision⟩

/-- Where the work stands. -/
structure JobCursor where
  jobId : Text
  outcome : Text
  activeObject : Text
  currentStep : Text
  acceptance : Text
  state : String
  blockers : List Text

/-- `JobCursor.from_raw`. -/
def JobCursor.fromRaw (raw : Json) : Checked JobCursor := do
  let jobId ← compiledText (raw.get "job_id") "cursor.job_id"
  let outcome ← compiledText (raw.get "outcome") "cursor.outcome"
  let activeObject ← compiledText (raw.get "active_object") "cursor.active_object"
  let currentStep ← compiledText (raw.get "current_step") "cursor.current_step"
  let acceptance ← compiledText (raw.get "acceptance") "cursor.acceptance"
  let state ← compiledText (raw.get "state") "cursor.state"
  let blockers ← uniqueText (raw.get "blockers") "cursor.blockers"
  return ⟨jobId, outcome, activeObject, currentStep, acceptance, upper state.val, blockers⟩

/-! ### The state -/

/-- A compiled execution state. -/
structure CompiledExecutionState where
  retainedScopeRefs : List Text
  /-- The owner of each plane. -/
  truthOwners : List (String × Text)
  /-- The successors of each node. -/
  dependencyGraph : List (String × List Text)
  /-- The functions of each object. -/
  lensDispatch : List (String × List Text)
  cursor : JobCursor
  facts : List (String × StateFact)
  incidents : List Text
  sourceFingerprint : Text
  /-- When it was compiled, in microseconds UTC. -/
  compiledAt : ℤ
  fingerprint : String

/-- `{str(key).strip(): _unique_text(value or (), f"{field}.{key}") for key, value in raw.items()}`. -/
def strippedDict (field : String) (entries : List (String × Json)) :
    Checked (List (String × List Text)) :=
  rebuild (fun key value ↦ uniqueText value (field ++ "." ++ key)) [] entries

/-- The loop over the facts, with the facts read so far. -/
def factsFrom (rt : Runtime) : List (String × StateFact) → List Json →
    Checked (List (String × StateFact))
  | facts, [] => .ok facts
  | facts, item :: rest => do
    require (item.isObj = true) (compiledStateError "fact must be an object")
    let fact ← StateFact.fromRaw rt item
    require ((facts.lookup fact.factId.val).isNone = true)
      (compiledStateError ("duplicate fact_id: " ++ fact.factId.val))
    factsFrom rt (facts ++ [(fact.factId.val, fact)]) rest

/-- The facts of a raw description. -/
def compiledFacts (rt : Runtime) (value : Json) : Checked (List (String × StateFact)) :=
  match value with
  | .null => .ok []
  | .arr items => factsFrom rt [] items
  | _ => .error (compiledStateError "facts must be a list")

/-- A dictionary of text lists as a value. -/
def dictJson (dict : List (String × List Text)) : Json :=
  .obj (dict.map fun entry ↦ (entry.1, textList entry.2))

/-- The fields of a state that its fingerprint covers. -/
def canonicalState (rt : CompilerRuntime) (retained : List Text) (owners : List (String × Text))
    (graph dispatch : List (String × List Text)) (cursor : JobCursor)
    (facts : List (String × StateFact)) (incidents : List Text) (sourceFingerprint : Text)
    (compiledAt : ℤ) : Json := .obj [
  ("retained_scope_refs", textList retained),
  ("truth_owners", .obj (owners.map fun owner ↦ (owner.1, .str owner.2.val))),
  ("dependency_graph", dictJson graph),
  ("lens_dispatch", dictJson dispatch),
  ("cursor", .obj [
    ("job_id", .str cursor.jobId.val), ("outcome", .str cursor.outcome.val),
    ("active_object", .str cursor.activeObject.val), ("current_step", .str cursor.currentStep.val),
    ("acceptance", .str cursor.acceptance.val), ("state", .str cursor.state),
    ("blockers", textList cursor.blockers)]),
  ("facts", .obj (facts.map fun entry ↦ (entry.1, .obj [
    ("value", .str entry.2.value.val), ("state", .str entry.2.state),
    ("source_ref", .str entry.2.sourceRef.val),
    ("observed_at", .str (rt.isoformat entry.2.observedAt)),
    ("source_revision", .str entry.2.sourceRevision.val)]))),
  ("incidents", textList incidents),
  ("source_fingerprint", .str sourceFingerprint.val),
  ("compiled_at", .str (rt.isoformat compiledAt))]

/-- `compile_execution_state`. -/
def compileExecutionState (rt : CompilerRuntime) (raw : Json) : Checked CompiledExecutionState := do
  require (raw.isObj = true) (compiledStateError "compiled-state input must be an object")
  let retained ← uniqueText (raw.get "retained_scope_refs") "retained_scope_refs"
  require (retained ≠ []) (compiledStateError "retained_scope_refs must not be empty")
  let ownersRaw := raw.get "truth_owners"
  require (ownersRaw.isObj = true) (compiledStateError "truth_owners must be an object")
  let owners ← checkEach
    (fun _ plane ↦ do
      let owner ← compiledText (ownersRaw.get plane) ("truth_owners." ++ plane)
      return (plane, owner)) 0 truthPlanes
  let graphRaw := raw.get "dependency_graph"
  require (graphRaw.isObj = true) (compiledStateError "dependency_graph must be an object")
  let graph ← strippedDict "dependency_graph" (entriesOf graphRaw)
  let dispatchRaw := raw.get "lens_dispatch"
  require (dispatchRaw.isObj = true) (compiledStateError "lens_dispatch must be an object")
  let dispatch ← strippedDict "lens_dispatch" (entriesOf dispatchRaw)
  let cursorRaw := raw.get "cursor"
  require (cursorRaw.isObj = true) (compiledStateError "cursor must be an object")
  let cursor ← JobCursor.fromRaw cursorRaw
  require (cursor.activeObject ∈ retained)
    (compiledStateError "active_object must remain inside retained scope")
  require ((dispatch.lookup cursor.activeObject.val).isSome = true)
    (compiledStateError "active_object has no deterministic lens dispatch")
  let facts ← compiledFacts rt.toRuntime (raw.get "facts")
  let incidents ← uniqueText (raw.get "incidents") "incidents"
  let sourceFingerprint ← compiledText (raw.get "source_fingerprint") "source_fingerprint"
  let compiledAt ← compiledIso rt.toRuntime (raw.get "compiled_at") "compiled_at"
  return ⟨retained, owners, graph, dispatch, cursor, facts, incidents, sourceFingerprint, compiledAt,
    fingerprint rt.toRuntime (canonicalState rt retained owners graph dispatch cursor facts
      incidents sourceFingerprint compiledAt)⟩

namespace CompiledExecutionState

variable (state : CompiledExecutionState)

/-- `next_dependencies`. -/
def nextDependencies : List Text :=
  (state.dependencyGraph.lookup state.cursor.activeObject.val).getD []

/-- `required_functions`. -/
def requiredFunctions : List Text :=
  (state.lensDispatch.lookup state.cursor.activeObject.val).getD []

end CompiledExecutionState

/-! ### What a state holds -/

/-- A text is among what the code reads from a value. -/
def Assigns (value : Json) (s : String) : Prop :=
  ∃ items, iterate value = .ok items ∧ ∃ name, .str name ∈ items ∧ strip name = s

theorem checkEach_compiledText {field : String} {n : ℕ} {items : List Json} {texts : List Text}
    (h : checkEach (fun _ item ↦ compiledText item field) n items = .ok texts) (s : String) :
    (∃ name, .str name ∈ items ∧ strip name = s) ↔ ∃ t ∈ texts, t.val = s := by
  induction items generalizing n texts with
  | nil =>
    cases h
    simp
  | cons item rest ih =>
    simp only [checkEach, bind_eq_ok, pure_eq_ok] at h
    obtain ⟨t, ht, others, hothers, rfl⟩ := h
    cases item with
    | str name =>
      have hname := (Text.ofString_eq_some.mp (orRaise_eq_ok.mp ht)).1
      simp only [List.mem_cons, Json.str.injEq, ← ih hothers, ← hname, or_and_right, exists_or,
        exists_eq_left]
    | _ => cases ht

/-- A field of distinct texts holds what is assigned. -/
theorem uniqueText_spec {value : Json} {field : String} {texts : List Text}
    (h : uniqueText value field = .ok texts) :
    texts.Nodup ∧ ∀ s, Assigns value s ↔ ∃ t ∈ texts, t.val = s := by
  simp only [uniqueText, bind_eq_ok, require_eq_ok, exists_const, pure_eq_ok] at h
  obtain ⟨items, hitems, out, hout, hnodup, rfl⟩ := h
  refine ⟨hnodup, fun s ↦ ?_⟩
  rw [← checkEach_compiledText hout]
  constructor
  · rintro ⟨_, hsame, hname⟩
    rw [hitems] at hsame
    cases hsame
    exact hname
  · exact fun hname ↦ ⟨items, hitems, hname⟩

/-- A dictionary holds under each key what the last entry of the key assigns. -/
structure HoldsLast (dict : List (String × List Text)) (entries : List (String × Json)) : Prop where
  /-- Keys are distinct. -/
  nodup : (dict.map Prod.fst).Nodup
  /-- Under a key that occurs. -/
  found : ∀ key last, lastUnder key entries = some last →
    ∃ texts, dict.lookup key = some texts ∧ ∀ s, Assigns last s ↔ ∃ t ∈ texts, t.val = s
  missing : ∀ key, lastUnder key entries = none → dict.lookup key = none

theorem strippedDict_spec {field : String} {entries : List (String × Json)}
    {dict : List (String × List Text)} (h : strippedDict field entries = .ok dict) :
    HoldsLast dict entries := by
  obtain ⟨-, hkeys⟩ := lookup_rebuild h
  constructor
  · exact nodup_keys_rebuild h List.nodup_nil
  · intro key last hlast
    obtain ⟨name, texts, -, htexts, hlookup⟩ := (hkeys key).1 last hlast
    exact ⟨texts, hlookup, (uniqueText_spec htexts).2⟩
  · exact fun key hlast ↦ (hkeys key).2 hlast

/-- What a compiled state holds of the raw description. -/
structure CompiledFrom (raw : Json) (state : CompiledExecutionState) : Prop where
  /-- The scope is listed once. -/
  scopeNodup : state.retainedScopeRefs.Nodup
  /-- It is what the description assigns. -/
  scope : ∀ s, Assigns (raw.get "retained_scope_refs") s ↔ ∃ t ∈ state.retainedScopeRefs, t.val = s
  graph : HoldsLast state.dependencyGraph (entriesOf (raw.get "dependency_graph"))
  dispatch : HoldsLast state.lensDispatch (entriesOf (raw.get "lens_dispatch"))
  source : compiledText (raw.get "source_fingerprint") "source_fingerprint" =
    .ok state.sourceFingerprint

theorem compile_spec {rt : CompilerRuntime} {raw : Json} {state : CompiledExecutionState}
    (h : compileExecutionState rt raw = .ok state) : CompiledFrom raw state := by
  simp only [compileExecutionState, bind_eq_ok, require_eq_ok, pure_eq_ok, exists_const] at h
  obtain ⟨-, retained, hretained, -, -, owners, -, -, graph, hgraph, -, dispatch, hdispatch, -, cursor,
    -, -, -, facts, -, incidents, -, sourceFingerprint, hsource, compiledAt, -, rfl⟩ := h
  obtain ⟨hnodup, hscope⟩ := uniqueText_spec hretained
  exact ⟨hnodup, hscope, strippedDict_spec hgraph, strippedDict_spec hdispatch, hsource⟩

/-! ### The manifest -/

/-- An `ExecutionStateCompilerError`. -/
def compilerError (message : String) : Raised ErrorClass :=
  ⟨.executionStateCompilerError, message⟩

/-- What the sources of a state are, as one value. -/
def sourceMaterial (manifest cursor : Json) (facts incidents : List Json) : Json :=
  .obj [("manifest", manifest), ("cursor", cursor), ("facts", .arr facts),
    ("incidents", .arr incidents)]

/-- The description that `compile_from_manifest` assembles from its sources. -/
def manifestDescription (rt : CompilerRuntime) (manifest cursor : Json) (facts incidents : List Json)
    (compiledAt : ℤ) : List (String × Json) := [
  ("retained_scope_refs", (manifest.get? "retained_scope_refs").getD (.arr [])),
  ("truth_owners", (manifest.get? "truth_owners").getD (.obj [])),
  ("dependency_graph", (manifest.get? "dependency_graph").getD (.obj [])),
  ("lens_dispatch", (manifest.get? "lens_dispatch").getD (.obj [])),
  ("cursor", cursor),
  ("facts", .arr facts),
  ("incidents", .arr incidents),
  ("source_fingerprint",
    .str (fingerprint rt.toRuntime (sourceMaterial manifest cursor facts incidents))),
  ("compiled_at", .str (rt.isoformat compiledAt))]

/-- `compile_from_manifest`. The time is one with a time zone. -/
def compileFromManifest (rt : CompilerRuntime) (manifest cursor : Json) (facts incidents : List Json)
    (compiledAt : ℤ) : Checked Json := do
  require (manifest.isObj = true) (compilerError "manifest must be an object")
  let raw := manifestDescription rt manifest cursor facts incidents compiledAt
  let compiled ← compileExecutionState rt (.obj raw)
  return .obj (raw ++ [
    ("compiled_fingerprint", .str compiled.fingerprint),
    ("next_dependencies", textList compiled.nextDependencies),
    ("required_functions", textList compiled.requiredFunctions)])

end N0te.Governance
