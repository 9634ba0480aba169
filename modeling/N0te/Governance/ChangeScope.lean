import N0te.Library.Checking
import N0te.Library.Json

/-!
# The scope of a change

`validateChangeScope` is the check of a change's paths against the construction programs that the
state files of its base and its head select. It collects the paths of the ACTIVE packages that
authorize the change and the control-plane records of both states, and refuses a change with any
other path. `covered_of_accepted` says what an accepted change consists of, for any documents the
change may carry.
-/

set_option autoImplicit false
set_option relaxedAutoImplicit false

namespace N0te.Governance

open Library

/-! ### Documents -/

/-- The exception classes of a check: a refusal, or a document that is not of the expected type. -/
inductive ScopeErrorClass where
  | changeScope
  | attribute
  | type
  deriving DecidableEq

abbrev ScopeError : Type := Raised ScopeErrorClass

/-- `ChangeScopeError(text)`. -/
def changeScopeError (text : String) : ScopeError := ⟨.changeScope, text⟩

/-- `document.get(key, default)`. -/
def getField (document : Json) (key : String) (default : Json) : Except ScopeError Json :=
  match document with
  | .obj fields => .ok ((fields.lookup key).getD default)
  | _ => .error ⟨.attribute, s!"'{document.typeName}' object has no attribute 'get'"⟩

/-- The values a document gives when it is iterated over: a list its items, an object its keys and a
string its characters. -/
def iterated : Json → Except ScopeError (List Json)
  | .arr items => .ok items
  | .obj fields => .ok (fields.map fun field ↦ .str field.1)
  | .str s => .ok (s.toList.map fun c ↦ .str c.toString)
  | document => .error ⟨.type, s!"'{document.typeName}' object is not iterable"⟩

/-- `str(value).strip().replace("\\", "/")`. -/
def normalizePath (value : Json) : String :=
  String.ofList ((strip value.pyStr).toList.map fun c ↦ if c = '\\' then '/' else c)

/-- `_normalize`. -/
def normalize (paths : List Json) : List String :=
  ((paths.map normalizePath).filter (· ≠ "")).eraseDups

/-! ### The check -/

/-- `_CURRENT_STATE_PATH`. -/
def currentStatePath : String := "governance/current_state.json"

/-- `_active_package_paths`. -/
def activePackagePaths (program : Json) : Except ScopeError (List String) := do
  require (program.isObj) (changeScopeError "construction program must be an object")
  match program.get "work_packages" with
  | .arr packages => do
    let paths ← packages.mapM fun package ↦ do
      require (package.isObj) (changeScopeError "construction work package must be an object")
      match package.get "state" with
      | .str "ACTIVE" => do
        let paths ← iterated ((package.get? "paths").getD (.arr []))
        return normalize paths
      | _ => return []
    return paths.flatten
  | _ => throw (changeScopeError "construction program work_packages must be a list")

/-- The program a state selects: `str(state.get("active_construction_program", "")).strip()`. -/
def programRef (state : Json) : Except ScopeError String := do
  let value ← getField state "active_construction_program" (.str "")
  return strip value.pyStr

/-- `_control_plane_paths`. -/
def controlPlanePaths (state : Json) : Except ScopeError (List String) := do
  require (state.isObj) (changeScopeError "current state must be an object")
  let ref ← programRef state
  let selected := if ref ≠ "" then [ref] else []
  match (state.get? "current_requirement_evidence").getD (.obj []) with
  | .null => return currentStatePath :: selected
  | .obj fields =>
    return currentStatePath :: selected ++
      (fields.map fun field ↦ normalizePath field.2).filter (· ≠ "")
  | _ => throw (changeScopeError "current_requirement_evidence must be an object")

/-- `_require_owner_program_transition`; `casefold` is `str.casefold`. -/
def requireOwnerProgramTransition (casefold : String → String) (actor repositoryOwner : Option String) :
    Except ScopeError String := do
  let actorText := strip (actor.getD "")
  let ownerText := strip (repositoryOwner.getD "")
  require (actorText ≠ "" ∧ ownerText ≠ "")
    (changeScopeError "program transition requires repository-owner identity evidence")
  require (casefold actorText = casefold ownerText)
    (changeScopeError <| "program transition requires repository-owner authority: " ++
      s!"actor={actorText} owner={ownerText}")
  return actorText

/-- The paths the ACTIVE packages authorize: of both programs when the change keeps the program, of
the head program when the repository owner selects another one. -/
def authorizedPaths (casefold : String → String) (baseRef headRef : String)
    (baseProgram headProgram : Json) (actor repositoryOwner : Option String) :
    Except ScopeError (List String) :=
  if baseRef = headRef then do
    let base ← activePackagePaths baseProgram
    let head ← activePackagePaths headProgram
    return base ++ head
  else do
    let _ ← requireOwnerProgramTransition casefold actor repositoryOwner
    activePackagePaths headProgram

/-- `sorted` of a set of paths. -/
def sortedPaths (paths : List String) : List String :=
  paths.eraseDups.mergeSort fun a b ↦ decide (a ≤ b)

/-- `validate_change_scope`. -/
def validateChangeScope (casefold : String → String) (paths : List Json)
    (baseState baseProgram headState headProgram : Json) (actor repositoryOwner : Option String) :
    Except ScopeError (List String) := do
  let normalized := normalize paths
  let baseRef ← programRef baseState
  let headRef ← programRef headState
  require (headRef ≠ "")
    (changeScopeError "head current state has no active construction program")
  let authorized ← authorizedPaths casefold baseRef headRef baseProgram headProgram actor
    repositoryOwner
  let baseControl ← controlPlanePaths baseState
  let headControl ← controlPlanePaths headState
  let unauthorized := sortedPaths
    (normalized.filter fun path ↦ path ∉ authorized ∧ path ∉ baseControl ++ headControl)
  require (unauthorized = [])
    (changeScopeError <| "changed paths exceed selected construction authority: " ++
      reprList unauthorized)
  return sortedPaths authorized

/-! ### What may change -/

def ActivePath (program : Json) (path : String) : Prop :=
  ∃ packages package values, program.get "work_packages" = .arr packages ∧ package ∈ packages ∧
    package.get "state" = .str "ACTIVE" ∧
    iterated ((package.get? "paths").getD (.arr [])) = .ok values ∧ path ∈ normalize values

/-- A record that a requirement of a state names as its evidence. -/
def EvidenceRecord (state : Json) (path : String) : Prop :=
  ∃ fields name ref, state.get? "current_requirement_evidence" = some (.obj fields) ∧
    (name, ref) ∈ fields ∧ path = normalizePath ref ∧ path ≠ ""

/-- A control-plane record of a state: the state file, the selected program or an evidence record. -/
def ControlRecord (state : Json) (path : String) : Prop :=
  path = currentStatePath ∨ (programRef state = .ok path ∧ path ≠ "") ∨ EvidenceRecord state path

theorem mem_flatten_of_mapM {α β : Type} {f : α → Except ScopeError (List β)} {items : List α}
    {results : List (List β)} (h : items.mapM f = .ok results) (b : β) :
    b ∈ results.flatten ↔ ∃ item ∈ items, ∃ result, f item = .ok result ∧ b ∈ result := by
  induction items generalizing results with
  | nil =>
    cases h
    simp
  | cons first rest ih =>
    simp only [List.mapM_cons, bind_eq_ok, pure_eq_ok] at h
    obtain ⟨result, hfirst, later, hrest, rfl⟩ := h
    simp [ih hrest, hfirst]

theorem mem_activePackagePaths {program : Json} {paths : List String}
    (h : activePackagePaths program = .ok paths) (path : String) :
    path ∈ paths ↔ ActivePath program path := by
  simp only [activePackagePaths, bind_eq_ok, require_eq_ok] at h
  obtain ⟨-, -, h⟩ := h
  split at h
  · rename_i packages hpackages
    simp only [bind_eq_ok, pure_eq_ok] at h
    obtain ⟨results, hresults, rfl⟩ := h
    rw [mem_flatten_of_mapM hresults]
    constructor
    · rintro ⟨package, hpackage, result, hresult, hpath⟩
      simp only [bind_eq_ok, require_eq_ok] at hresult
      obtain ⟨-, -, hresult⟩ := hresult
      split at hresult
      · rename_i hactive
        simp only [bind_eq_ok, pure_eq_ok] at hresult
        obtain ⟨values, hvalues, rfl⟩ := hresult
        exact ⟨packages, package, values, hpackages, hpackage, hactive, hvalues, hpath⟩
      · cases hresult
        cases hpath
    · rintro ⟨packages', package, values, hpackages', hpackage, hactive, hvalues, hpath⟩
      obtain rfl : packages = packages' := by
        rw [hpackages, Json.arr.injEq] at hpackages'
        exact hpackages'
      refine ⟨package, hpackage, normalize values, ?_, hpath⟩
      have hobj : package.isObj := by
        cases package <;> simp [Json.get, Json.get?, Json.isObj] at hactive ⊢
      simp [hactive, hvalues, hobj, require]
  · simp at h

theorem evidenceRecord_iff {state : Json} {fields : List (String × Json)} {path : String}
    (h : (state.get? "current_requirement_evidence").getD (.obj []) = .obj fields) :
    EvidenceRecord state path ↔
      path ∈ (fields.map fun field ↦ normalizePath field.2).filter (· ≠ "") := by
  simp only [List.mem_filter, List.mem_map, decide_eq_true_eq]
  constructor
  · rintro ⟨fields', name, ref, hfields', hmem, rfl, hne⟩
    rw [hfields', Option.getD_some, Json.obj.injEq] at h
    exact ⟨⟨(name, ref), h ▸ hmem, rfl⟩, hne⟩
  · rintro ⟨⟨⟨name, ref⟩, hmem, rfl⟩, hne⟩
    refine ⟨fields, name, ref, ?_, hmem, rfl, hne⟩
    cases hget : state.get? "current_requirement_evidence" with
    | none =>
      rw [hget, Option.getD_none, Json.obj.injEq] at h
      rw [← h] at hmem
      cases hmem
    | some evidence => rw [← h, hget, Option.getD_some]

theorem mem_controlPlanePaths {state : Json} {paths : List String}
    (h : controlPlanePaths state = .ok paths) (path : String) :
    path ∈ paths ↔ ControlRecord state path := by
  simp only [controlPlanePaths, bind_eq_ok, require_eq_ok] at h
  obtain ⟨-, hobj, ref, href, h⟩ := h
  have hselected : path ∈ (if ref ≠ "" then [ref] else []) ↔
      programRef state = .ok path ∧ path ≠ "" := by
    rw [href, Except.ok.injEq]
    by_cases hempty : ref = ""
    · simp only [hempty, ne_eq, not_true_eq_false, if_false, List.not_mem_nil, false_iff, not_and,
        not_not]
      exact fun heq ↦ heq.symm
    · rw [if_pos hempty, List.mem_singleton]
      constructor
      · rintro rfl
        exact ⟨rfl, hempty⟩
      · rintro ⟨rfl, -⟩
        rfl
  split at h
  · rename_i hnull
    have hnone : ¬ EvidenceRecord state path := by
      rintro ⟨fields, name, ref, hfields, -⟩
      rw [hfields, Option.getD_some] at hnull
      cases hnull
    cases h
    rw [List.mem_cons, hselected, ControlRecord]
    simp [hnone]
  · rename_i fields hfields
    cases h
    rw [List.cons_append, List.mem_cons, List.mem_append, hselected, ← evidenceRecord_iff hfields,
      ControlRecord]
  · simp at h

/-! ### What an accepted change consists of -/

theorem mem_sortedPaths {paths : List String} {path : String} :
    path ∈ sortedPaths paths ↔ path ∈ paths := by
  rw [sortedPaths, List.mem_mergeSort, List.mem_eraseDups]

section Accepted

variable {casefold : String → String} {paths : List Json}
  {baseState baseProgram headState headProgram : Json} {actor repositoryOwner : Option String}
  {authorized : List String}

theorem authorizedPaths_spec {baseRef headRef : String}
    (h : authorizedPaths casefold baseRef headRef baseProgram headProgram actor repositoryOwner =
      .ok authorized) :
    (baseRef ≠ headRef → strip (actor.getD "") ≠ "" ∧
      casefold (strip (actor.getD "")) = casefold (strip (repositoryOwner.getD ""))) ∧
    ∀ path, path ∈ authorized ↔
      ActivePath headProgram path ∨ baseRef = headRef ∧ ActivePath baseProgram path := by
  unfold authorizedPaths at h
  by_cases hsame : baseRef = headRef
  · rw [if_pos hsame] at h
    simp only [bind_eq_ok, pure_eq_ok] at h
    obtain ⟨base, hbase, head, hhead, rfl⟩ := h
    refine ⟨fun hne ↦ absurd hsame hne, fun path ↦ ?_⟩
    rw [List.mem_append, mem_activePackagePaths hbase, mem_activePackagePaths hhead, or_comm]
    simp [hsame]
  · rw [if_neg hsame] at h
    simp only [requireOwnerProgramTransition, bind_eq_ok, require_eq_ok, pure_eq_ok] at h
    obtain ⟨-, ⟨-, hgiven, -, hequal, -⟩, hhead⟩ := h
    refine ⟨fun _ ↦ ⟨hgiven.1, hequal⟩, fun path ↦ ?_⟩
    rw [mem_activePackagePaths hhead]
    simp [hsame]

/-- An accepted change, whatever its documents say: the head selects a program; if it is not the
base's, the actor is the repository owner; and every changed path is a path of an ACTIVE package (of
the head program, or of the base program when that is the same one) or a control-plane record of the
base or the head state. -/
theorem covered_of_accepted
    (h : validateChangeScope casefold paths baseState baseProgram headState headProgram actor
      repositoryOwner = .ok authorized) :
    ∃ baseRef headRef, programRef baseState = .ok baseRef ∧ programRef headState = .ok headRef ∧
      headRef ≠ "" ∧
      (baseRef ≠ headRef → strip (actor.getD "") ≠ "" ∧
        casefold (strip (actor.getD "")) = casefold (strip (repositoryOwner.getD ""))) ∧
      (∀ path, path ∈ authorized ↔
        ActivePath headProgram path ∨ baseRef = headRef ∧ ActivePath baseProgram path) ∧
      ∀ path ∈ normalize paths,
        ActivePath headProgram path ∨ (baseRef = headRef ∧ ActivePath baseProgram path) ∨
          ControlRecord baseState path ∨ ControlRecord headState path := by
  simp only [validateChangeScope, bind_eq_ok, require_eq_ok, pure_eq_ok] at h
  obtain ⟨baseRef, hbase, headRef, hhead, -, hselected, active, hactive, baseControl, hbaseControl,
    headControl, hheadControl, -, hnone, rfl⟩ := h
  obtain ⟨howner, hmem⟩ := authorizedPaths_spec hactive
  refine ⟨baseRef, headRef, hbase, hhead, hselected, howner,
    fun path ↦ mem_sortedPaths.trans (hmem path), fun path hpath ↦ ?_⟩
  by_contra huncovered
  simp only [not_or] at huncovered
  obtain ⟨hhead, hbase, hbaseRecord, hheadRecord⟩ := huncovered
  have hrefused : path ∈ sortedPaths
      ((normalize paths).filter fun path ↦ path ∉ active ∧ path ∉ baseControl ++ headControl) := by
    rw [mem_sortedPaths, List.mem_filter, decide_eq_true_eq, hmem path, List.mem_append,
      mem_controlPlanePaths hbaseControl, mem_controlPlanePaths hheadControl]
    exact ⟨hpath, fun hactive ↦ hactive.elim hhead hbase,
      fun hrecord ↦ hrecord.elim hbaseRecord hheadRecord⟩
  rw [hnone] at hrefused
  cases hrefused

end Accepted

/-! ### Samples -/

/-- A state that selects one program and names an evidence record. -/
def sampleState (record : String) : Json :=
  .obj [("active_construction_program", .str "governance/programs/PROGRAM-A.json"),
    ("current_requirement_evidence", .obj [("REQ-SCOPE-172", .str record)])]

def sampleProgram : Json :=
  .obj [("work_packages", .arr [.obj [("state", .str "ACTIVE"),
    ("paths", .arr [.str "n0te/allowed.py"])]])]

/-- A change of an allowed path and an evidence record. -/
theorem sample_covered :
    normalize [.str "n0te/allowed.py", .str "governance/evidence/REQ-SCOPE-172.json"] ≠ [] ∧
    ∀ path ∈ normalize [.str "n0te/allowed.py", .str "governance/evidence/REQ-SCOPE-172.json"],
      ActivePath sampleProgram path ∨
        ControlRecord (sampleState "governance/evidence/REQ-SCOPE-172.json") path := by
  refine ⟨by decide +kernel, fun path hpath ↦ ?_⟩
  obtain ⟨_, _, -, -, -, -, -, hcovered⟩ := covered_of_accepted
    (show validateChangeScope id
      [.str "n0te/allowed.py", .str "governance/evidence/REQ-SCOPE-172.json"]
      (sampleState "governance/evidence/REQ-SCOPE-172.json")
      sampleProgram (sampleState "governance/evidence/REQ-SCOPE-172.json") sampleProgram none none =
        .ok ["n0te/allowed.py"] by decide +kernel)
  rcases hcovered path hpath with hactive | ⟨-, hactive⟩ | hrecord | hrecord
  · exact .inl hactive
  · exact .inl hactive
  · exact .inr hrecord
  · exact .inr hrecord

/-- A change that keeps its program can name any path as evidence in its own head state: the path is
then accepted, though no ACTIVE package has it and the base state names no such record. -/
theorem sample_head_evidence :
    ¬ ∀ (paths : List Json) (baseState baseProgram headState headProgram : Json)
      (authorized : List String),
      validateChangeScope id paths baseState baseProgram headState headProgram none none =
        .ok authorized →
      programRef baseState = programRef headState →
      ∀ path ∈ normalize paths, ActivePath baseProgram path ∨ ControlRecord baseState path := by
  intro hclaim
  have haccepted : validateChangeScope id [.str "n0te/core.py"]
      (sampleState "governance/evidence/REQ-SCOPE-172.json") sampleProgram
      (sampleState "n0te/core.py") sampleProgram none none = .ok ["n0te/allowed.py"] := by
    decide +kernel
  have hactive : activePackagePaths sampleProgram = .ok ["n0te/allowed.py"] := by decide +kernel
  have hcontrol : controlPlanePaths (sampleState "governance/evidence/REQ-SCOPE-172.json") =
      .ok ["governance/current_state.json", "governance/programs/PROGRAM-A.json",
        "governance/evidence/REQ-SCOPE-172.json"] := by decide +kernel
  have hcovered := hclaim _ _ _ _ _ _ haccepted (by decide +kernel) "n0te/core.py" (by decide +kernel)
  rw [← mem_activePackagePaths hactive, ← mem_controlPlanePaths hcontrol] at hcovered
  revert hcovered
  decide

end N0te.Governance
