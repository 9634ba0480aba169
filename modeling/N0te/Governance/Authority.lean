import N0te.Governance.TrustedContext

/-!
# Action intents and approval bindings

An `ActionIntent` is the exact material description of one action; its fingerprint is what an
approval binds. `ActionIntent.create` is the constructor with its checks, and the structure carries
what they establish. `intentFingerprint_inj` says that a fingerprint determines the whole intent.
-/

set_option autoImplicit false
set_option relaxedAutoImplicit false

namespace N0te.Governance

open Library

/-- An `AuthorityValidationError`. -/
def authorityError (message : String) : Raised ErrorClass := ⟨.authorityValidationError, message⟩

/-- A text field of an intent or an approval. -/
def authorityText (value field : String) : Checked Text :=
  orRaise (Text.ofString value) (authorityError (field ++ " must not be empty"))

/-- The exact material description of one action. -/
@[ext] structure ActionIntent where
  actionId : Text
  jobId : Text
  actionClass : ActionClass
  description : Text
  targetRef : Text
  revisionFingerprint : Text
  payloadFingerprint : Text
  /-- Where it sends data, if anywhere. -/
  destination : Option Text
  purpose : Option Text
  /-- The categories of data it touches. -/
  dataCategories : Finset String
  /-- An action that sends data has a purpose. -/
  purposeful : destination ≠ none → purpose ≠ none
  /-- Every category is a stripped text. -/
  categories : ∀ c ∈ dataCategories, strip c = c ∧ c ≠ ""

/-- An action that sends nothing needs no purpose. -/
theorem purposeful_none : (none : Option Text) ≠ none → (none : Option Text) ≠ none := id

/-- No category is no stripped text. -/
theorem categories_empty : ∀ c ∈ (∅ : Finset String), strip c = c ∧ c ≠ "" := by simp

/-- `_categories`, as a set: the source sorts it and drops repetitions. -/
def categorySet (values : List String) : Checked (List Text) :=
  checkEach (fun _ value ↦ authorityText value "data_categories") 0 values

def optionalAuthorityText (value : Option String) (field : String) : Checked (Option Text) :=
  match value with
  | none => .ok none
  | some s => some <$> authorityText s field

theorem text_mem_image {texts : List Text} {c : String}
    (h : c ∈ (texts.map Text.val).toFinset) : strip c = c ∧ c ≠ "" := by
  obtain ⟨t, -, rfl⟩ := List.mem_map.mp (List.mem_toFinset.mp h)
  exact ⟨t.stripped, t.nonempty⟩

/-- The constructor of an intent, with its checks in their order. -/
def ActionIntent.create (actionId jobId actionClass description targetRef revisionFingerprint
    payloadFingerprint : String) (destination purpose : Option String)
    (dataCategories : List String) : Checked ActionIntent := do
  let actionId ← authorityText actionId "action.action_id"
  let jobId ← authorityText jobId "action.job_id"
  let className := upper (strip actionClass)
  let actionClass ← orRaise (ActionClass.ofName className)
    (authorityError ("unsupported action class: " ++ className))
  let description ← authorityText description "action.description"
  let targetRef ← authorityText targetRef "action.target_ref"
  let revisionFingerprint ← authorityText revisionFingerprint "action.revision_fingerprint"
  let payloadFingerprint ← authorityText payloadFingerprint "action.payload_fingerprint"
  let destination ← optionalAuthorityText destination "action.destination"
  let purpose ← optionalAuthorityText purpose "action.purpose"
  if hpurpose : destination ≠ none → purpose ≠ none then
    let texts ← categorySet dataCategories
    return ⟨actionId, jobId, actionClass, description, targetRef, revisionFingerprint,
      payloadFingerprint, destination, purpose, (texts.map Text.val).toFinset, hpurpose,
      fun _ ↦ text_mem_image⟩
  else
    throw (authorityError "outbound action destination requires an explicit purpose")

namespace ActionIntent

def optionalJson : Option Text → Json
  | none => .null
  | some t => .str t.val

/-- The fields that identify an action. -/
def materialFields (action : ActionIntent) : Json := .obj [
  ("action_id", .str action.actionId.val),
  ("job_id", .str action.jobId.val),
  ("action_class", .str action.actionClass.name),
  ("description", .str action.description.val),
  ("target_ref", .str action.targetRef.val),
  ("revision_fingerprint", .str action.revisionFingerprint.val),
  ("payload_fingerprint", .str action.payloadFingerprint.val),
  ("destination", optionalJson action.destination),
  ("purpose", optionalJson action.purpose),
  ("data_categories", .arr ((sortedTexts action.dataCategories).map Json.str))]

def intentFingerprint (rt : Runtime) (action : ActionIntent) : String :=
  fingerprint rt action.materialFields

theorem optionalJson_canonical_inj {s t : Option Text}
    (h : (optionalJson s).canonical = (optionalJson t).canonical) : s = t := by
  cases s <;> cases t <;> simp only [optionalJson, Json.canonical_null, Json.canonical_str,
    Json.str.injEq, reduceCtorEq] at h ⊢
  rw [Text.ext h]

/-- The canonical material fields determine the intent. -/
theorem eq_of_materialFields_canonical {a b : ActionIntent}
    (h : a.materialFields.canonical = b.materialFields.canonical) : a = b := by
  have hfield (key : String) : (a.materialFields.get key).canonical =
      (b.materialFields.get key).canonical := by
    rw [← Json.get_canonical, ← Json.get_canonical, h]
  have htext {s t : Text} (heq : (Json.str s.val).canonical = (Json.str t.val).canonical) :
      s = t := Text.ext (Json.str.inj heq)
  have hcategories : ((sortedTexts a.dataCategories).map Json.str).map Json.canonical =
      ((sortedTexts b.dataCategories).map Json.str).map Json.canonical := by
    have harr := hfield "data_categories"
    have hread (c : ActionIntent) : c.materialFields.get "data_categories" =
        .arr ((sortedTexts c.dataCategories).map Json.str) := rfl
    rw [hread, hread, Json.canonical_arr, Json.canonical_arr] at harr
    exact Json.arr.inj harr
  have hsets : a.dataCategories = b.dataCategories := by
    have hcomp : Function.Injective (Json.canonical ∘ Json.str) := fun _ _ heq ↦ Json.str.inj heq
    rw [List.map_map, List.map_map, hcomp.list_map.eq_iff] at hcategories
    have hfinset := congrArg List.toFinset hcategories
    rwa [sortedTexts, sortedTexts, Finset.sort_toFinset, Finset.sort_toFinset] at hfinset
  have hclass : a.actionClass = b.actionClass :=
    ActionClass.name_injective (Json.str.inj (hfield "action_class"))
  exact ActionIntent.ext (htext (hfield "action_id")) (htext (hfield "job_id")) hclass
    (htext (hfield "description")) (htext (hfield "target_ref"))
    (htext (hfield "revision_fingerprint")) (htext (hfield "payload_fingerprint"))
    (optionalJson_canonical_inj (hfield "destination"))
    (optionalJson_canonical_inj (hfield "purpose")) hsets

/-- A fingerprint determines the intent. -/
theorem intentFingerprint_inj {rt : Runtime} (hsound : rt.Sound) {a b : ActionIntent} :
    a.intentFingerprint rt = b.intentFingerprint rt ↔ a = b := by
  unfold intentFingerprint
  rw [hsound.fingerprint_inj]
  exact ⟨eq_of_materialFields_canonical, fun h ↦ h ▸ rfl⟩

end ActionIntent

/-! ### Approvals -/

/-- An approval of one intent. -/
structure ApprovalBinding where
  approvalId : Text
  /-- The fingerprint of the approved intent. -/
  intentFingerprint : Text
  /-- Where the approval came from. -/
  sourceRef : Text

/-- Whether an approval still binds the current intent. -/
inductive ApprovalStatus where
  | valid
  | stale
  deriving DecidableEq

/-- `AuthorityService.validate`. -/
def validateApproval (rt : Runtime) (action : ActionIntent) (approval : ApprovalBinding) :
    ApprovalStatus :=
  if action.intentFingerprint rt = approval.intentFingerprint.val then .valid else .stale

theorem validateApproval_eq_valid {rt : Runtime} {action : ActionIntent}
    {approval : ApprovalBinding} : validateApproval rt action approval = .valid ↔
      action.intentFingerprint rt = approval.intentFingerprint.val := by
  unfold validateApproval
  split_ifs with h <;> simp [h]

end N0te.Governance
