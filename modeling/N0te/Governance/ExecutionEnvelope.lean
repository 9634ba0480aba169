import Mathlib.Data.Finset.Sort
import Mathlib.Data.String.Basic
import N0te.Governance.Runtime

/-!
# The execution envelope

The coordinator describes the action it is about to take in an execution envelope: its intent, the
object and scope it is about, the claims it rests on, the functions it invoked, the authority it
acts under. `validateExecutionEnvelope` is the shape check, `evaluateExecutionEnvelope` the gate
that also lists blockers, and `requireExecutionPermit` the gate that raises.

The reads of an envelope that later checks share (`activeObject`, `retainedScope`,
`envelopeActionClass`, ...) are definitions of their own. They read fields by key only, so they
agree on two envelopes with the same canonical form (`requiresHuman_congr`).

Scope. An envelope is a JSON value. A value that `json.dumps` refuses never passes the gate in the
source and is not represented.
-/

set_option autoImplicit false
set_option relaxedAutoImplicit false

namespace N0te.Governance

open Library

/-! ### Vocabularies -/

/-- The five planes a truth owner is named for. -/
def truthPlanes : List String := ["WHY", "WHAT", "HOW", "NOW", "PROOF"]

/-- The kinds of truth a claim can state. -/
inductive TruthType where
  | durablePrinciple
  | acceptedScope
  | currentFact
  | userIntent
  | preference
  | decision
  | experiment
  | hypothesis
  | historicalEvidence
  | implementationDetail
  | externalConstraint
  | unknown
  deriving DecidableEq

/-- The kind of truth with a name. -/
def TruthType.ofName (s : String) : Option TruthType :=
  [("DURABLE_PRINCIPLE", durablePrinciple), ("ACCEPTED_SCOPE", acceptedScope),
    ("CURRENT_FACT", currentFact), ("USER_INTENT", userIntent), ("PREFERENCE", preference),
    ("DECISION", decision), ("EXPERIMENT", experiment), ("HYPOTHESIS", hypothesis),
    ("HISTORICAL_EVIDENCE", historicalEvidence),
    ("IMPLEMENTATION_DETAIL", implementationDetail),
    ("EXTERNAL_CONSTRAINT", externalConstraint), ("UNKNOWN", unknown)].lookup s

/-- How well a claim is supported. -/
inductive EvidencePosture where
  | observed
  | derived
  | claimed
  | assumed
  | stale
  | unknown
  deriving DecidableEq

def EvidencePosture.name : EvidencePosture → String
  | observed => "OBSERVED"
  | derived => "DERIVED"
  | claimed => "CLAIMED"
  | assumed => "ASSUMED"
  | stale => "STALE"
  | unknown => "UNKNOWN"

def EvidencePosture.ofName (s : String) : Option EvidencePosture :=
  [observed, derived, claimed, assumed, stale, unknown].find? fun p ↦ p.name == s

/-- The postures that block when the claim is marked blocking. -/
def EvidencePosture.blocks : EvidencePosture → Bool
  | claimed | assumed | stale | unknown => true
  | observed | derived => false

def EvidencePosture.needsSource : EvidencePosture → Bool
  | observed | derived | claimed | stale => true
  | assumed | unknown => false

/-- What kind of result an action is for. -/
inductive OutcomeClass where
  | artifact
  | systemState
  | externalState
  | humanState
  deriving DecidableEq

def OutcomeClass.ofName (s : String) : Option OutcomeClass :=
  [("ARTIFACT", artifact), ("SYSTEM_STATE", systemState), ("EXTERNAL_STATE", externalState),
    ("HUMAN_STATE", humanState)].lookup s

/-- The states of the next causal dependency. -/
def nextDependencyStates : List String := ["KNOWN", "BLOCKED", "NONE", "UNKNOWN"]

/-! ### Validation -/

/-- An `ExecutionEnvelopeError`. -/
def envelopeError (message : String) : Raised ErrorClass := ⟨.executionEnvelopeError, message⟩

/-- The required keys an object lacks, as `sorted(required - set(value))` prints them; `required`
is given in sorted order. -/
def missingKeys (required : List String) (v : Json) : List String :=
  required.filter fun key ↦ !v.keys.contains key

/-- A non-empty text field. -/
def envelopeText (value : Json) (field : String) : Checked Text :=
  match value with
  | .null => .error (envelopeError (field ++ " must not be empty"))
  | .str s => orRaise (Text.ofString s) (envelopeError (field ++ " must not be empty"))
  | _ => .error (envelopeError (field ++ " must be text"))

/-- The loop of `_string_list`, with the texts read so far. -/
def stringListFrom (field : String) : List Text → List Json → Checked (List Text)
  | result, [] => .ok result
  | result, item :: rest => do
    let text ← envelopeText item field
    require (text ∉ result) (envelopeError (field ++ " contains duplicate value: " ++ text.val))
    stringListFrom field (result ++ [text]) rest

/-- A list field of distinct non-empty texts. -/
def stringList (value : Json) (field : String) (allowEmpty : Bool) : Checked (List Text) :=
  match value with
  | .arr values => do
    let result ← stringListFrom field [] values
    require (allowEmpty = true ∨ result ≠ []) (envelopeError (field ++ " must not be empty"))
    return result
  | _ => .error (envelopeError (field ++ " must be a list"))

/-- The index prefix of a claim's fields. -/
def claimField (index : ℕ) : String := "claims[" ++ Nat.repr index ++ "]"

/-- One claim of the envelope. -/
def validateClaim (index : ℕ) (claim : Json) : Checked (TruthType × EvidencePosture) := do
  let field := claimField index
  require (claim.isObj = true) (envelopeError (field ++ " must be an object"))
  let missing := missingKeys
    ["blocking", "evidence_posture", "source_refs", "statement", "truth_type"] claim
  require (missing = []) (envelopeError (field ++ " missing " ++ reprList missing))
  let _ ← envelopeText (claim.get "statement") (field ++ ".statement")
  let truthName := normalName (claim.get "truth_type")
  let postureName := normalName (claim.get "evidence_posture")
  let truthType ← orRaise (TruthType.ofName truthName)
    (envelopeError (field ++ " unknown truth_type: " ++ truthName))
  let posture ← orRaise (EvidencePosture.ofName postureName)
    (envelopeError (field ++ " unknown evidence_posture: " ++ postureName))
  let refs ← stringList (claim.get "source_refs") (field ++ ".source_refs") true
  require (posture.needsSource = false ∨ refs ≠ [])
    (envelopeError (field ++ " posture " ++ postureName ++ " requires at least one source_ref"))
  require (claim.get "blocking" = .bool true ∨ claim.get "blocking" = .bool false)
    (envelopeError (field ++ ".blocking must be boolean"))
  return (truthType, posture)

/-- Whether a value is a boolean. -/
def isBool : Json → Bool
  | .bool _ => true
  | _ => false

/-- The elements of a finite set of texts in sorted order. -/
def sortedTexts (s : Finset String) : List String := s.sort (· ≤ ·)

/-- The shape check of an execution envelope. -/
def validateExecutionEnvelope (envelope : Json) : Checked Unit := do
  require (envelope.isObj = true) (envelopeError "execution envelope must be an object")
  let missing := missingKeys
    ["acceptance", "active_object", "authority", "claims", "dependencies", "intent",
      "invoked_functions", "next_causal_dependency", "required_functions",
      "retained_scope_refs", "truth_owners"] envelope
  require (missing = []) (envelopeError ("execution envelope missing " ++ reprList missing))
  let intent := envelope.get "intent"
  require (intent.isObj = true) (envelopeError "intent must be an object")
  let _ ← envelopeText (intent.get "description") "intent.description"
  let outcomeName := normalName ((intent.get? "outcome_class").getD (.str ""))
  let outcomeClass ← orRaise (OutcomeClass.ofName outcomeName)
    (envelopeError ("unsupported intent outcome_class: " ++ outcomeName))
  let _ ← envelopeText (envelope.get "active_object") "active_object"
  let _ ← stringList (envelope.get "retained_scope_refs") "retained_scope_refs" false
  let dependencies := envelope.get "dependencies"
  require (dependencies.isObj = true) (envelopeError "dependencies must be an object")
  require (dependencies.get? "upstream" ≠ none) (envelopeError "dependencies missing upstream")
  let _ ← stringList (dependencies.get "upstream") "dependencies.upstream" true
  require (dependencies.get? "downstream" ≠ none)
    (envelopeError "dependencies missing downstream")
  let _ ← stringList (dependencies.get "downstream") "dependencies.downstream" true
  let owners := envelope.get "truth_owners"
  require (owners.isObj = true) (envelopeError "truth_owners must be an object")
  let _ ← checkEach (fun _ plane ↦ envelopeText (owners.get plane) ("truth_owners." ++ plane)) 0
    truthPlanes
  let claims := items (envelope.get "claims")
  require (claims ≠ []) (envelopeError "claims must be a non-empty list")
  let _ ← checkEach validateClaim 0 claims
  let required ← stringList (envelope.get "required_functions") "required_functions" false
  let invoked ← stringList (envelope.get "invoked_functions") "invoked_functions" true
  let missingFunctions := sortedTexts
    ((required.map Text.val).toFinset \ (invoked.map Text.val).toFinset)
  require (missingFunctions = [])
    (envelopeError ("required functions were not invoked: " ++ reprList missingFunctions))
  let authority := envelope.get "authority"
  require (authority.isObj = true) (envelopeError "authority must be an object")
  let actionName := normalName ((authority.get? "action_class").getD (.str ""))
  let _ ← orRaise (ActionClass.ofName actionName)
    (envelopeError ("unsupported authority.action_class: " ++ actionName))
  require (isBool (authority.get "authorized") = true)
    (envelopeError "authority.authorized must be boolean")
  require (isBool (authority.get "requires_human") = true)
    (envelopeError "authority.requires_human must be boolean")
  let _ ← envelopeText (authority.get "source_ref") "authority.source_ref"
  let acceptance := envelope.get "acceptance"
  require (acceptance.isObj = true) (envelopeError "acceptance must be an object")
  let acceptanceName := normalName ((acceptance.get? "outcome_class").getD (.str ""))
  require (acceptanceName = outcomeName)
    (envelopeError "acceptance outcome_class must match intent outcome_class")
  let _ ← envelopeText (acceptance.get "observable_condition") "acceptance.observable_condition"
  let _ ← stringList (acceptance.get "evidence_required") "acceptance.evidence_required" false
  require (acceptance.get "artifact_is_not_completion" = .bool true ∨
      outcomeClass ≠ .externalState ∧ outcomeClass ≠ .humanState)
    (envelopeError "external/human outcomes must explicitly reject artifact-only completion")
  let nextDep := envelope.get "next_causal_dependency"
  require (nextDep.isObj = true) (envelopeError "next_causal_dependency must be an object")
  let depState := normalName ((nextDep.get? "state").getD (.str ""))
  require (depState ∈ nextDependencyStates)
    (envelopeError ("unsupported next_causal_dependency.state: " ++ depState))
  let _ ← envelopeText (nextDep.get "description") "next_causal_dependency.description"
  let _ ← envelopeText (nextDep.get "source_ref") "next_causal_dependency.source_ref"
  return ()

/-! ### Reading a valid envelope -/

def activeObject (envelope : Json) : String := stripped (envelope.get "active_object")

/-- The stripped texts of a list field. -/
def textSetOf (value : Json) : Finset String := ((items value).map stripped).toFinset

def retainedScope (envelope : Json) : Finset String :=
  textSetOf (envelope.get "retained_scope_refs")

/-- The owner named for a plane. -/
def truthOwner (envelope : Json) (plane : String) : String :=
  stripped ((envelope.get "truth_owners").get plane)

/-- The functions the envelope lists as required. -/
def requiredFunctions (envelope : Json) : Finset String :=
  textSetOf (envelope.get "required_functions")

def dependencySide (envelope : Json) (side : String) : Finset String :=
  textSetOf ((envelope.get "dependencies").get side)

/-- The outcome class of the intent, as a normalized name. -/
def intentOutcome (envelope : Json) : String :=
  normalName ((envelope.get "intent").get "outcome_class")

/-- The action class of the authority, as a normalized name. -/
def envelopeActionClass (envelope : Json) : String :=
  normalName ((envelope.get "authority").get "action_class")

/-- The authority field that says whether a human must approve. -/
def requiresHuman (envelope : Json) : Json := (envelope.get "authority").get "requires_human"

def authoritySourceRef (envelope : Json) : String :=
  stripped ((envelope.get "authority").get "source_ref")

theorem requiresHuman_canonical (envelope : Json) :
    requiresHuman envelope.canonical = (requiresHuman envelope).canonical := by
  simp [requiresHuman]

/-- Whether a human must approve depends on the canonical form only. -/
theorem requiresHuman_congr {e₁ e₂ : Json} (h : e₁.canonical = e₂.canonical) :
    requiresHuman e₁ = .bool true ↔ requiresHuman e₂ = .bool true := by
  have hfield : (requiresHuman e₁).canonical = (requiresHuman e₂).canonical := by
    rw [← requiresHuman_canonical, ← requiresHuman_canonical, h]
  have hbool : ∀ v : Json, v.canonical = .bool true ↔ v = .bool true := by
    intro v
    cases v <;> simp [Json.canonical]
  rw [← hbool, hfield, hbool]

/-! ### The gate -/

/-- What the gate found. -/
structure ExecutionGateResult where
  /-- Whether the envelope has the required shape. -/
  valid : Bool
  /-- Whether nothing blocks execution. -/
  executionAllowed : Bool
  /-- The fingerprint of a valid envelope. -/
  envelopeFingerprint : Option String
  blockers : List String

/-- The fingerprint of a valid envelope. -/
def envelopeFingerprint (rt : Runtime) (envelope : Json) : Checked String := do
  validateExecutionEnvelope envelope
  return fingerprint rt envelope

def claimBlockers (index : ℕ) (claim : Json) : List String :=
  let truthName := normalName (claim.get "truth_type")
  let postureName := normalName (claim.get "evidence_posture")
  let posture := EvidencePosture.ofName postureName
  (if claim.get "blocking" = .bool true ∧ posture.any EvidencePosture.blocks = true then
    ["blocking epistemic claim " ++ claimField index ++ "=" ++ postureName] else []) ++
  (if truthName = "CURRENT_FACT" ∧
      (posture = some .stale ∨ posture = some .assumed ∨ posture = some .unknown) then
    ["material current fact " ++ claimField index ++ " cannot execute with posture=" ++
      postureName] else [])

def envelopeBlockers (envelope : Json) : List String :=
  let authority := envelope.get "authority"
  ((items (envelope.get "claims")).zipIdx.flatMap fun claim ↦ claimBlockers claim.2 claim.1) ++
  (if envelopeActionClass envelope ≠ "READ_ONLY" ∧ authority.get "authorized" = .bool false then
    ["stateful action is not authorized"] else []) ++
  (if envelopeActionClass envelope = "IRREVERSIBLE" ∧ requiresHuman envelope = .bool false then
    ["irreversible action must require human authority"] else [])

/-- Evaluate an envelope without raising. -/
def evaluateExecutionEnvelope (rt : Runtime) (envelope : Json) : ExecutionGateResult :=
  match envelopeFingerprint rt envelope with
  | .error e => ⟨false, false, none, [e.text]⟩
  | .ok digest =>
    let blockers := envelopeBlockers envelope
    ⟨true, blockers.isEmpty, some digest, blockers.eraseDups⟩

/-- The gate in front of a permit: the fingerprint of an envelope nothing blocks. -/
def requireExecutionPermit (rt : Runtime) (envelope : Json) : Checked String :=
  let result := evaluateExecutionEnvelope rt envelope
  if result.valid = false then
    .error (envelopeError (result.blockers.headD ""))
  else if result.executionAllowed = false then
    .error (envelopeError ("execution blocked: " ++ "; ".intercalate result.blockers))
  else
    .ok (result.envelopeFingerprint.getD "")

/-- An envelope passes the gate when it is valid and nothing blocks it, and the gate returns its
fingerprint. -/
theorem requireExecutionPermit_eq_ok {rt : Runtime} {envelope : Json} {digest : String} :
    requireExecutionPermit rt envelope = .ok digest ↔
      validateExecutionEnvelope envelope = .ok () ∧ envelopeBlockers envelope = [] ∧
        digest = fingerprint rt envelope := by
  cases hvalid : validateExecutionEnvelope envelope with
  | error e =>
    have hprint : envelopeFingerprint rt envelope = .error e := by
      rw [envelopeFingerprint, hvalid]
      rfl
    simp [requireExecutionPermit, evaluateExecutionEnvelope, hprint]
  | ok u =>
    have hprint : envelopeFingerprint rt envelope = .ok (fingerprint rt envelope) := by
      rw [envelopeFingerprint, hvalid]
      rfl
    simp only [requireExecutionPermit, evaluateExecutionEnvelope, hprint, Bool.true_eq_false,
      if_false, List.isEmpty_eq_false_iff, Option.getD_some, true_and]
    split_ifs with hblocked
    · simp [hblocked]
    · simp only [ne_eq, not_not] at hblocked
      simp only [Except.ok.injEq, hblocked, true_and]
      exact eq_comm

end N0te.Governance
