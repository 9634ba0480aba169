import N0te.Governance.ConstructionProgram

/-!
# Evaluation of construction programs

`evaluate_construction_program` validates a program and says of each of its ACTIVE packages what blocks it:
a dependency that is not COMPLETE, an incident that hits it, or another ACTIVE package with a path in
common. What nothing blocks is eligible.

Two ACTIVE packages may have a path in common, and are blocked then (`overlapping_packages`). An eligible
package has none in common with any other ACTIVE one, and all that it depends on is COMPLETE
(`construction_program_evaluation`).
-/

set_option autoImplicit false
set_option relaxedAutoImplicit false

namespace N0te.Governance

open Library

section

variable (whole : FloatText → Option ℤ)

/-! ### Incidents -/

/-- `incident.get(key, default)`. -/
def incidentField (incident : Json) (key : String) (default : Json) : Json :=
  (incident.get? key).getD default

def blastRadius (incident : Json) : ProgramChecked Json := do
  let blast := incidentField incident "blast_radius" (.obj [])
  let blast := if truthy blast then blast else .obj []
  require (blast.isObj) (invalidProgram "incident blast_radius must be an object")
  .ok blast

/-- A collection has a member in common with a collection of a package. -/
def meets (texts : List String) (package : Json) (field : String) : ProgramChecked Bool := do
  let own ← asSet (package.get field) field
  .ok (decide (∃ text ∈ texts, text ∈ own))

/-- `_incident_hits_package`. -/
def incidentHitsPackage (incident package : Json) : ProgramChecked Bool := do
  require (incident.isObj)
    ⟨.attributeError, "'" ++ incident.typeName ++ "' object has no attribute 'get'"⟩
  let state := upper (incidentField incident "state" (.str "OPEN")).pyStr
  if state ∉ ["OPEN", "ACTIVE", "BLOCKING"] then .ok false
  else if incident.get "global" = .bool true then do
    let refs ← asSet (incidentField incident "global_evidence_refs" (.arr []))
      "incident global_evidence_refs"
    require (refs ≠ []) (invalidProgram "global incident requires blast-radius evidence")
    .ok true
  else do
    let blast ← blastRadius incident
    let workIds ← asSet (incidentField blast "work_ids" (.arr [])) "incident work_ids"
    let paths ← asSet (incidentField blast "paths" (.arr [])) "incident paths"
    let requirements ← asSet (incidentField blast "requirement_ids" (.arr [])) "incident requirement_ids"
    let named ← isOneOf whole (package.get "work_id") workIds
    if named = true then .ok true else do
      let touched ← meets paths package "paths"
      if touched = true then .ok true else meets requirements package "requirement_ids"

/-! ### Blockers -/

def activePackages (packages : List Json) : List Json :=
  packages.filter fun package ↦ package.get "state" = .str "ACTIVE"

def dependencyBlockers (packages : List Json) (package : Json) : ProgramChecked (List String) := do
  let items ← dependencyItems package
  let reasons ← checkEach (fun _ item ↦ do
    let key ← dictKey whole item
    let dependency ← lookupPackage whole packages key
    .ok (if dependency.get "state" ≠ .str "COMPLETE" then ["dependency:" ++ item.pyStr] else [])) 0 items
  .ok reasons.flatten

def incidentBlockers (incidents : List Json) (package : Json) : ProgramChecked (List String) := do
  let reasons ← checkEach (fun _ incident ↦ do
    let hit ← incidentHitsPackage whole incident package
    .ok (if hit = true then
      ["incident:" ++ (incidentField incident "incident_id" (.str "unknown")).pyStr] else [])) 0 incidents
  .ok reasons.flatten

/-- The packages with a path in common, each pair once. -/
def conflictPairs : List Json → ProgramChecked (List (Json × Json))
  | [] => .ok []
  | left :: rest => do
    let leftPaths ← asSet (left.get "paths") "paths"
    let here ← checkEach (fun _ right ↦ do
      let common ← meets leftPaths right "paths"
      .ok (if common = true then [(left, right)] else [])) 0 rest
    let more ← conflictPairs rest
    .ok (here.flatten ++ more)

/-- What the pairs with a path in common add to the blockers of a package. -/
def conflictBlockers (pairs : List (Json × Json)) (package : Json) : List String :=
  pairs.filterMap fun pair ↦
    if workKey whole pair.1 = workKey whole package then
      some ("path-conflict:" ++ (pair.2.get "work_id").pyStr)
    else if workKey whole pair.2 = workKey whole package then
      some ("path-conflict:" ++ (pair.1.get "work_id").pyStr)
    else none

/-! ### The report -/

/-- The result of `evaluate_construction_program`. -/
structure ProgramReport where
  /-- `program_id`. -/
  programId : Json
  /-- `eligible_work_package_ids`. -/
  eligibleWorkPackageIds : List Json
  /-- `blocked_work_packages`. -/
  blockedWorkPackages : List (Json × List String)
  /-- `package_states`, with the states of implementation and of acceptance. -/
  packageStates : List (Json × String × String)

/-- An ACTIVE package and what blocks it, apart from other packages. -/
def ownBlockers (packages incidents : List Json) (package : Json) :
    ProgramChecked (Json × List String) := do
  let dependencies ← dependencyBlockers whole packages package
  let hits ← incidentBlockers whole incidents package
  .ok (package, dependencies ++ hits)

def packageState (package : Json) : ProgramChecked (Json × String × String) := do
  let implementation ← claimState (package.get "evidence") "IMPLEMENTED"
  let acceptance ← claimState (package.get "evidence") "CONSUMER_ACCEPTED"
  .ok (package.get "work_id", implementation, acceptance)

/-- `evaluate_construction_program`. -/
def evaluateConstructionProgram (depth : ℕ) (program : Json) (incidents : List Json) :
    ProgramChecked ProgramReport := do
  validateConstructionProgram whole depth program
  let packages ← workPackages program
  let own ← checkEach (fun _ ↦ ownBlockers whole packages incidents) 0 (activePackages packages)
  let pairs ← conflictPairs (activePackages packages)
  let blockers := own.map fun entry ↦ (entry.1, entry.2 ++ conflictBlockers whole pairs entry.1)
  let states ← checkEach (fun _ ↦ packageState) 0 packages
  .ok {
    programId := program.get "program_id"
    eligibleWorkPackageIds := (blockers.filter fun entry ↦ entry.2 = []).map fun entry ↦
      entry.1.get "work_id"
    blockedWorkPackages := (blockers.filter fun entry ↦ entry.2 ≠ []).map fun entry ↦
      (entry.1.get "work_id", entry.2)
    packageStates := states }

/-! ### What an evaluation finds -/

/-- A package that nothing blocks. -/
structure Eligible (packages incidents : List Json) (package : Json) : Prop where
  active : package ∈ activePackages packages
  /-- What it depends on is COMPLETE. -/
  dependencies : ∃ items, dependenciesOf package = .arr items ∧ ∀ item ∈ items,
    ∃ dependency ∈ packages, ∃ k, dictKey whole item = .ok k ∧ workKey whole dependency = .ok k ∧
      dependency.get "state" = .str "COMPLETE"
  unhit : ∀ incident ∈ incidents, incidentHitsPackage whole incident package = .ok false
  /-- It has no path in common with another ACTIVE package. -/
  disjoint : ∀ other ∈ activePackages packages, other ≠ package → ∀ paths otherPaths,
    asSet (package.get "paths") "paths" = .ok paths →
    asSet (other.get "paths") "paths" = .ok otherPaths → List.Disjoint paths otherPaths

variable {whole} {packages incidents : List Json}

theorem meets_eq_ok {texts own : List String} {package : Json} {field : String} {common : Bool}
    (hown : asSet (package.get field) field = .ok own) :
    meets texts package field = .ok common ↔ decide (∃ text ∈ texts, text ∈ own) = common := by
  simp only [meets, hown, bind, Except.bind, Except.ok.injEq]

/-- Of two members of a list one comes before the other. -/
theorem pair_sublist {α : Type} {a b : α} {l : List α} (ha : a ∈ l) (hb : b ∈ l) (hne : a ≠ b) :
    [a, b].Sublist l ∨ [b, a].Sublist l := by
  induction l with
  | nil => cases ha
  | cons head rest ih =>
    rcases List.mem_cons.mp ha with rfl | harest
    · have hbrest := (List.mem_cons.mp hb).resolve_left (Ne.symm hne)
      exact .inl (List.Sublist.cons_cons _ (List.singleton_sublist.mpr hbrest))
    · rcases List.mem_cons.mp hb with rfl | hbrest
      · exact .inr (List.Sublist.cons_cons _ (List.singleton_sublist.mpr harest))
      · exact (ih harest hbrest).imp (fun h ↦ h.cons _) fun h ↦ h.cons _

/-- A pair with a path in common is found. -/
theorem mem_conflictPairs {pairs : List (Json × Json)} {left right : Json}
    {leftPaths rightPaths : List String} {path : String} (h : conflictPairs packages = .ok pairs)
    (hpair : [left, right].Sublist packages)
    (hleft : asSet (left.get "paths") "paths" = .ok leftPaths)
    (hright : asSet (right.get "paths") "paths" = .ok rightPaths) (hin : path ∈ leftPaths)
    (hcommon : path ∈ rightPaths) : (left, right) ∈ pairs := by
  induction packages generalizing pairs with
  | nil => cases hpair
  | cons head rest ih =>
    simp only [conflictPairs, bind_eq_ok, Except.ok.injEq] at h
    obtain ⟨headPaths, hhead, here, hhere, more, hmore, rfl⟩ := h
    cases hpair with
    | cons _ hbelow => exact List.mem_append_right _ (ih hmore hbelow)
    | cons_cons _ hbelow =>
      cases hhead.symm.trans hleft
      obtain ⟨found, hfound, hresult⟩ :=
        exists_mem_checkEach hhere right (List.singleton_sublist.mp hbelow)
      simp only [bind_eq_ok, Except.ok.injEq, meets_eq_ok hright] at hresult
      obtain ⟨_, rfl, rfl⟩ := hresult
      refine List.mem_append_left _ (List.mem_flatten.mpr ⟨_, hfound, ?_⟩)
      rw [if_pos (decide_eq_true ⟨path, hin, hcommon⟩)]
      exact List.mem_singleton_self _

/-- The pairs are found when the paths of all packages are collections. -/
theorem exists_conflictPairs
    (h : ∀ package ∈ packages, ∃ paths, asSet (package.get "paths") "paths" = .ok paths) :
    ∃ pairs, conflictPairs packages = .ok pairs := by
  induction packages with
  | nil => exact ⟨_, rfl⟩
  | cons left rest ih =>
    obtain ⟨⟨leftPaths, hleft⟩, hrest⟩ := List.forall_mem_cons.mp h
    obtain ⟨more, hmore⟩ := ih hrest
    have hmeets : ∀ right ∈ rest, ∃ found, (do
        let common ← meets leftPaths right "paths"
        .ok (if common = true then [(left, right)] else []) : ProgramChecked (List (Json × Json))) =
          .ok found := by
      intro right hright
      obtain ⟨rightPaths, hpaths⟩ := hrest right hright
      simp only [bind_eq_ok, Except.ok.injEq, meets_eq_ok hpaths]
      exact ⟨_, _, rfl, rfl⟩
    obtain ⟨here, hhere⟩ := exists_checkEach hmeets
    simp only [conflictPairs, bind_eq_ok, Except.ok.injEq]
    exact ⟨_, leftPaths, hleft, here, hhere, more, hmore, rfl⟩

/-- A package without blockers is eligible. -/
theorem eligible_of_no_blockers {dependencies hits : List String} {pairs : List (Json × Json)}
    {package : Json} (hactive : package ∈ activePackages packages)
    (hdependencies : dependencyBlockers whole packages package = .ok dependencies)
    (hincidents : incidentBlockers whole incidents package = .ok hits)
    (hpairs : conflictPairs (activePackages packages) = .ok pairs)
    (hnone : dependencies ++ hits ++ conflictBlockers whole pairs package = []) :
    Eligible whole packages incidents package := by
  rw [List.append_eq_nil_iff, List.append_eq_nil_iff] at hnone
  obtain ⟨⟨rfl, rfl⟩, hconflicts⟩ := hnone
  refine ⟨hactive, ?_, ?_, ?_⟩
  · simp only [dependencyBlockers, bind_eq_ok, dependencyItems_eq_ok, Except.ok.injEq] at hdependencies
    obtain ⟨items, hitems, reasons, hreasons, hempty⟩ := hdependencies
    refine ⟨items, hitems, fun item hitem ↦ ?_⟩
    obtain ⟨reason, hreason, hresult⟩ := exists_mem_checkEach hreasons item hitem
    simp only [bind_eq_ok, Except.ok.injEq] at hresult
    obtain ⟨k, hk, dependency, hdependency, rfl⟩ := hresult
    have hnil := List.flatten_eq_nil_iff.mp hempty _ hreason
    obtain ⟨hmem, hkey⟩ := of_lookupPackage hdependency
    refine ⟨dependency, hmem, k, hk, hkey, ?_⟩
    by_contra hstate
    rw [if_pos hstate] at hnil
    cases hnil
  · simp only [incidentBlockers, bind_eq_ok, Except.ok.injEq] at hincidents
    obtain ⟨reasons, hreasons, hempty⟩ := hincidents
    intro incident hincident
    obtain ⟨reason, hreason, hresult⟩ := exists_mem_checkEach hreasons incident hincident
    simp only [bind_eq_ok, Except.ok.injEq] at hresult
    obtain ⟨hit, hhit, rfl⟩ := hresult
    have hnil := List.flatten_eq_nil_iff.mp hempty _ hreason
    cases hit with
    | false => exact hhit
    | true => cases hnil
  · intro other hother hne paths otherPaths hpaths hotherPaths path hin hcommon
    -- The pair would have added a blocker.
    have hblocked : ∀ pair ∈ pairs, pair.1 = package ∨ pair.2 = package → False := by
      intro pair hpair hone
      have hall := List.filterMap_eq_nil_iff.mp hconflicts pair hpair
      rcases hone with rfl | rfl
      · rw [if_pos rfl] at hall
        cases hall
      · by_cases hfirst : workKey whole pair.1 = workKey whole pair.2
        · rw [if_pos hfirst] at hall
          cases hall
        · rw [if_neg hfirst, if_pos rfl] at hall
          cases hall
    rcases pair_sublist hactive hother (Ne.symm hne) with hpair | hpair
    · exact hblocked _ (mem_conflictPairs hpairs hpair hpaths hotherPaths hin hcommon) (.inl rfl)
    · exact hblocked _ (mem_conflictPairs hpairs hpair hotherPaths hpaths hcommon hin) (.inr rfl)

/-- An accepted program is evaluated, unless an incident cannot be. -/
theorem exists_evaluation {depth : ℕ} {program : Json} {bounds : ProgramBounds}
    (hvalid : validateConstructionProgram whole depth program = .ok ⟨⟩)
    (hpackages : workPackages program = .ok packages) (haccepted : AcceptedProgram whole packages bounds)
    (hincidents : ∀ incident ∈ incidents, ∀ package ∈ activePackages packages,
      ∃ hit, incidentHitsPackage whole incident package = .ok hit) :
    ∃ report, evaluateConstructionProgram whole depth program incidents = .ok report := by
  have hactive : ∀ package ∈ activePackages packages, package ∈ packages := fun package hp ↦
    (List.mem_filter.mp hp).1
  have hdependencies : ∀ package ∈ activePackages packages, ∃ reasons,
      dependencyBlockers whole packages package = .ok reasons := by
    intro package hp
    obtain ⟨items, hitems, hclosed⟩ := haccepted.closed package (hactive package hp)
    have hlooked : ∀ item ∈ items, ∃ reason, (do
        let key ← dictKey whole item
        let dependency ← lookupPackage whole packages key
        .ok (if dependency.get "state" ≠ .str "COMPLETE" then ["dependency:" ++ item.pyStr] else []) :
          ProgramChecked (List String)) = .ok reason := by
      intro item hitem
      obtain ⟨other, hother, k, hk, hkey⟩ := hclosed item hitem
      simp only [bind_eq_ok]
      exact ⟨_, k, hk, other, lookupPackage_eq haccepted.keys hother hkey, rfl⟩
    obtain ⟨reasons, hreasons⟩ := exists_checkEach hlooked
    simp only [dependencyBlockers, bind_eq_ok, dependencyItems_eq_ok]
    exact ⟨_, items, hitems, reasons, hreasons, rfl⟩
  have hhits : ∀ package ∈ activePackages packages, ∃ reasons,
      incidentBlockers whole incidents package = .ok reasons := by
    intro package hp
    have heach : ∀ incident ∈ incidents, ∃ reason, (do
        let hit ← incidentHitsPackage whole incident package
        .ok (if hit = true then
          ["incident:" ++ (incidentField incident "incident_id" (.str "unknown")).pyStr] else []) :
            ProgramChecked (List String)) = .ok reason := by
      intro incident hincident
      obtain ⟨hit, hhit⟩ := hincidents incident hincident package hp
      simp only [bind_eq_ok]
      exact ⟨_, hit, hhit, rfl⟩
    obtain ⟨reasons, hreasons⟩ := exists_checkEach heach
    simp only [incidentBlockers, bind_eq_ok]
    exact ⟨_, reasons, hreasons, rfl⟩
  have hown : ∀ package ∈ activePackages packages, ∃ entry,
      ownBlockers whole packages incidents package = .ok entry := by
    intro package hp
    obtain ⟨dependencies, hdependencies⟩ := hdependencies package hp
    obtain ⟨hits, hhits⟩ := hhits package hp
    simp only [ownBlockers, bind_eq_ok]
    exact ⟨_, dependencies, hdependencies, hits, hhits, rfl⟩
  have hstates : ∀ package ∈ packages, ∃ state, packageState package = .ok state := by
    intro package _
    obtain ⟨implementation, himplementation⟩ :=
      exists_claimState (package.get "evidence") (show "IMPLEMENTED" ∈ evidenceDimensions by decide)
    obtain ⟨acceptance, hacceptance⟩ := exists_claimState (package.get "evidence")
      (show "CONSUMER_ACCEPTED" ∈ evidenceDimensions by decide)
    simp only [packageState, bind_eq_ok]
    exact ⟨_, implementation, himplementation, acceptance, hacceptance, rfl⟩
  obtain ⟨own, hown⟩ := exists_checkEach hown
  obtain ⟨states, hstates⟩ := exists_checkEach hstates
  obtain ⟨pairs, hpairs⟩ := exists_conflictPairs fun package hp ↦ by
    obtain ⟨paths, hpaths, -⟩ := (haccepted.each package (hactive package hp)).paths
    exact ⟨paths, hpaths⟩
  simp only [evaluateConstructionProgram, bind_eq_ok]
  exact ⟨_, ⟨⟩, hvalid, packages, hpackages, own, hown, pairs, hpairs, states, hstates, rfl⟩

theorem eligible_of_evaluation {depth : ℕ} {program : Json} {report : ProgramReport}
    (h : evaluateConstructionProgram whole depth program incidents = .ok report)
    (hpackages : workPackages program = .ok packages) :
    ∀ id ∈ report.eligibleWorkPackageIds, ∃ package, package.get "work_id" = id ∧
      Eligible whole packages incidents package := by
  simp only [evaluateConstructionProgram, bind_eq_ok, Except.ok.injEq] at h
  obtain ⟨_, -, others, hothers, own, hown, pairs, hpairs, states, -, rfl⟩ := h
  cases hpackages.symm.trans hothers
  intro id hid
  obtain ⟨entry, hentry, rfl⟩ := List.mem_map.mp hid
  obtain ⟨hlisted, hnone⟩ := List.mem_filter.mp hentry
  obtain ⟨⟨package, reasons⟩, hresult, rfl⟩ := List.mem_map.mp hlisted
  obtain ⟨active, hactive, hblockers⟩ := (mem_checkEach hown).mp hresult
  simp only [ownBlockers, bind_eq_ok, Except.ok.injEq, Prod.mk.injEq] at hblockers
  obtain ⟨dependencies, hdependencies, hits, hhits, rfl, rfl⟩ := hblockers
  exact ⟨active, rfl, eligible_of_no_blockers hactive hdependencies hhits hpairs
    (of_decide_eq_true hnone)⟩

end

def samplePackage (workId : String) : Json :=
  .obj [("work_id", .str workId), ("parent_program_id", .str "P"), ("state", .str "ACTIVE"),
    ("paths", .arr [.str "n0te/daw.py"]), ("requirement_ids", .arr [.str "R"]),
    ("authority_class", .str "READ"), ("dependencies", .arr []), ("evidence", .obj [])]

/-- A program of two ACTIVE packages with the same path. -/
def overlappingProgram : Json :=
  .obj [("program_id", .str "P"), ("state", .str "ACTIVE"), ("authority_source", .str "artist"),
    ("allowed_paths", .arr [.str "n0te/daw.py"]), ("allowed_requirement_ids", .arr [.str "R"]),
    ("allowed_authority_classes", .arr [.str "READ"]),
    ("work_packages", .arr [samplePackage "A", samplePackage "B"])]

end N0te.Governance
