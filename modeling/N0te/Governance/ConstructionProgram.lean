import N0te.Governance.CompiledState
import N0te.Library.DepthFirst
import N0te.Library.Inputs

/-!
# Construction programs

`validate_construction_program` checks a raw program document: its bounds, its work packages, and that
their dependencies are declared and have no cycle. Texts are compared stripped where they are collected
(`_as_set`) and as they are where they name a package: a dictionary is read by a `DictKey`.

What is not a text may stand anywhere in a document. `whole` is the integer that a float is equal to, if
there is one, and `depth` is how deep the search for cycles may go.
-/

set_option autoImplicit false
set_option relaxedAutoImplicit false

namespace N0te.Governance

open Library

/-! ### Exceptions -/

/-- The exceptions of a check of a program. -/
inductive ProgramErrorClass where
  | valueError
  | typeError
  | keyError
  | attributeError
  | recursionError
  deriving DecidableEq

/-- An exception of a check of a program. -/
abbrev ProgramError : Type := Raised ProgramErrorClass

/-- A result of a check of a program. -/
abbrev ProgramChecked (α : Type) : Type := Except ProgramError α

/-- `ValueError(message)`. -/
def invalidProgram (message : String) : ProgramError := ⟨.valueError, message⟩

/-- `f"{sorted(texts)}"`. -/
def sortedText (texts : List String) : String :=
  (Json.arr ((texts.mergeSort fun a b ↦ decide (a ≤ b)).map .str)).pyStr

/-! ### Keys of dictionaries -/

/-- A value as a key of a dictionary: equal values are one key. -/
inductive DictKey where
  | none
  | number (n : ℤ)
  | float (f : FloatText)
  | text (s : String)
  deriving DecidableEq

section

variable (whole : FloatText → Option ℤ)

/-- The key that a value is, if it can be hashed. -/
def dictKey : Json → ProgramChecked DictKey
  | .null => .ok .none
  | .bool b => .ok (.number (if b then 1 else 0))
  | .int n => .ok (.number n)
  | .float f =>
    match whole f with
    | some n => .ok (.number n)
    | Option.none => .ok (.float f)
  | .str s => .ok (.text s)
  | .arr _ => .error ⟨.typeError, "unhashable type: 'list'"⟩
  | .obj _ => .error ⟨.typeError, "unhashable type: 'dict'"⟩

/-- `value in texts`, for a set of texts. -/
def isOneOf (value : Json) (texts : List String) : ProgramChecked Bool := do
  let key ← dictKey whole value
  .ok (decide (key ∈ texts.map DictKey.text))

/-- The texts in `set(value)`. -/
def membersOf : Json → ProgramChecked (List String)
  | .obj fields => .ok (fields.map Prod.fst)
  | .arr items => do
    let keys ← checkEach (fun _ ↦ dictKey whole) 0 items
    .ok (keys.filterMap fun key ↦
      match key with
      | .text s => some s
      | _ => Option.none)
  | .str s => .ok (s.toList.map fun c ↦ String.ofList [c])
  | value => .error ⟨.typeError, "'" ++ value.typeName ++ "' object is not iterable"⟩

/-! ### Collections and evidence -/

/-- `_as_set`. -/
def asSet (value : Json) (field : String) : ProgramChecked (List String) :=
  match value with
  | .null => .ok []
  | .arr items => do
    let normalized := keepFirst ((items.map stripped).filter (· ≠ ""))
    require (normalized.length = items.length)
      (invalidProgram s!"{field} contains empty or duplicate values")
    .ok normalized
  | _ => .error (invalidProgram s!"{field} must be a collection")

/-- `EVIDENCE_DIMENSIONS`. -/
def evidenceDimensions : List String :=
  ["MAPPED", "IMPLEMENTED", "INTEGRATED", "REACHABLE", "VERIFIED", "RECOVERABLE", "AUTHORITY_SAFE",
    "CONSUMER_ACCEPTED", "VALUE_EVIDENCED"]

/-- `GENERIC_COMPLETION`. -/
def genericCompletion : List String := ["DONE", "PASS", "COMPLETE", "ACCEPTED", "READY", "SUPPORTED"]

/-- `WORK_PACKAGE_STATES`. -/
def workPackageStates : List String := ["ACTIVE", "WAITING", "BLOCKED", "COMPLETE"]

/-- `PROGRAM_STATES`. -/
def programStates : List String := ["ACTIVE", "WAITING", "BLOCKED", "COMPLETE"]

/-- `claim_state`. -/
def claimState (record : Json) (dimension : String) : ProgramChecked String := do
  require (dimension ∈ evidenceDimensions) (invalidProgram s!"unknown evidence dimension: {dimension}")
  let cell := record.get dimension
  if cell.isObj then
    let state := ((cell.get? "state").getD (.str "UNPROVEN")).pyStr
    if state ∈ genericCompletion then .ok "UNPROVEN"
    else if state ∈ ["PROVEN", "UNPROVEN"] then .ok state else .ok "UNPROVEN"
  else .ok "UNPROVEN"

/-! ### Work packages -/

/-- The fields that `validate_work_package` requires. -/
def workPackageFields : List String :=
  ["work_id", "parent_program_id", "state", "paths", "requirement_ids", "authority_class",
    "dependencies", "evidence"]

/-- What a program allows its packages. -/
structure ProgramBounds where
  programId : String
  allowedPaths : List String
  allowedRequirementIds : List String
  allowedAuthorityClasses : List String

/-- `package.get("dependencies", [])`. -/
def dependenciesOf (package : Json) : Json := (package.get? "dependencies").getD (.arr [])

/-- `validate_work_package`. -/
def validateWorkPackage (bounds : ProgramBounds) (package : Json) : ProgramChecked Unit := do
  let members ← membersOf whole package
  let missing := workPackageFields.filter (· ∉ members)
  require (missing = []) (invalidProgram s!"work package missing {sortedText missing}")
  require (package.isObj) ⟨.typeError, "list indices must be integers or slices, not str"⟩
  let workId := stripped (package.get "work_id")
  require (workId ≠ "") (invalidProgram "work package id required")
  require (package.get "parent_program_id" = .str bounds.programId)
    (invalidProgram s!"work package parent mismatch: {workId}")
  let known ← isOneOf whole (package.get "state") workPackageStates
  require (known = true) (invalidProgram s!"invalid work package state: {workId}")
  let paths ← asSet (package.get "paths") "paths"
  let requirements ← asSet (package.get "requirement_ids") "requirement_ids"
  require (paths ≠ []) (invalidProgram s!"work package must declare bounded paths: {workId}")
  require (requirements ≠ [])
    (invalidProgram s!"work package must declare bounded requirements: {workId}")
  require (paths ⊆ bounds.allowedPaths) (invalidProgram s!"work package path authority leak: {workId}")
  require (requirements ⊆ bounds.allowedRequirementIds)
    (invalidProgram s!"work package requirement authority leak: {workId}")
  let allowed ← isOneOf whole (package.get "authority_class") bounds.allowedAuthorityClasses
  require (allowed = true) (invalidProgram s!"work package authority class leak: {workId}")
  require ((package.get "evidence").isObj)
    (invalidProgram s!"work package evidence must be an object: {workId}")
  let _ ← checkEach (fun _ ↦ claimState (package.get "evidence")) 0 evidenceDimensions
  let _ ← asSet (dependenciesOf package) "dependencies"
  .ok ⟨⟩

/-- The first loop of `validate_construction_program`. -/
def validatePackages (bounds : ProgramBounds) : List Json → List DictKey → ProgramChecked (List DictKey)
  | [], seen => .ok seen
  | package :: rest, seen => do
    validateWorkPackage whole bounds package
    let key ← dictKey whole (package.get "work_id")
    require (key ∉ seen)
      (invalidProgram ("duplicate work package id: " ++ (package.get "work_id").pyStr))
    validatePackages bounds rest (seen ++ [key])

/-- The body of its second loop. -/
def validateDependencies (seen : List DictKey) (package : Json) : ProgramChecked Unit := do
  let named ← asSet (dependenciesOf package) "dependencies"
  let unknown := named.filter fun name ↦ DictKey.text name ∉ seen
  require (unknown = []) (invalidProgram ("unknown work package dependencies for " ++
    (package.get "work_id").pyStr ++ ": " ++ sortedText unknown))
  let key ← dictKey whole (package.get "work_id")
  require (key ∉ named.map DictKey.text) (invalidProgram
    ("work package cannot depend on itself: " ++ (package.get "work_id").pyStr))

/-! ### Cycles -/

def workKey (package : Json) : ProgramChecked DictKey := dictKey whole (package.get "work_id")

/-- `packages[key]`. -/
def lookupPackage (packages : List Json) (key : DictKey) : ProgramChecked Json :=
  orRaise (packages.find? fun package ↦ (workKey whole package).toOption = some key) ⟨.keyError, ""⟩

/-- The values of a loop over `package.get("dependencies", [])`. Another collection than a list was
refused before. -/
def dependencyItems (package : Json) : ProgramChecked (List Json) :=
  match dependenciesOf package with
  | .arr items => .ok items
  | value => .error ⟨.typeError, "'" ++ value.typeName ++ "' object is not iterable"⟩

def dependencyGraph (packages : List Json) : NamedGraph DictKey Json ProgramError where
  key := dictKey whole
  next key := do
    let package ← lookupPackage whole packages key
    dependencyItems package
  cycle workId := invalidProgram ("work package dependency cycle: " ++ workId.pyStr)
  tooDeep := ⟨.recursionError, "maximum recursion depth exceeded"⟩

/-! ### The check -/

/-- The fields that `validate_construction_program` requires. -/
def programFields : List String :=
  ["program_id", "state", "authority_source", "allowed_paths", "allowed_requirement_ids",
    "allowed_authority_classes", "work_packages"]

/-- `program["work_packages"]`. -/
def workPackages (program : Json) : ProgramChecked (List Json) :=
  match program.get "work_packages" with
  | .arr packages => .ok packages
  | _ => .error (invalidProgram "work_packages must be a list")

/-- What `validate_construction_program` checks before it looks at the packages. -/
def programBounds (program : Json) : ProgramChecked ProgramBounds := do
  require (program.isObj) (invalidProgram "construction program must be an object")
  let missing := programFields.filter (· ∉ program.keys)
  require (missing = []) (invalidProgram s!"construction program missing {sortedText missing}")
  let programId := stripped (program.get "program_id")
  require (programId ≠ "") (invalidProgram "construction program id required")
  let known ← isOneOf whole (program.get "state") programStates
  require (known = true) (invalidProgram "invalid construction program state")
  require (stripped (program.get "authority_source") ≠ "")
    (invalidProgram "construction program authority source required")
  let allowedPaths ← asSet (program.get "allowed_paths") "allowed_paths"
  let allowedRequirements ← asSet (program.get "allowed_requirement_ids") "allowed_requirement_ids"
  let allowedAuthority ← asSet (program.get "allowed_authority_classes") "allowed_authority_classes"
  .ok ⟨programId, allowedPaths, allowedRequirements, allowedAuthority⟩

/-- `validate_construction_program`. -/
def validateConstructionProgram (depth : ℕ) (program : Json) : ProgramChecked Unit := do
  let bounds ← programBounds whole program
  let packages ← workPackages program
  let seen ← validatePackages whole bounds packages []
  let _ ← checkEach (fun _ ↦ validateDependencies whole seen) 0 packages
  let _ ← NamedGraph.visitAll ((dependencyGraph whole packages).visit depth [])
    (packages.map fun package ↦ package.get "work_id") []
  .ok ⟨⟩

/-! ### What the checks say -/

/-- A package depends on another. -/
def DependsOn (packages : List Json) (k d : DictKey) : Prop :=
  ∃ package ∈ packages, ∃ items item, workKey whole package = .ok k ∧
    dependenciesOf package = .arr items ∧ item ∈ items ∧ dictKey whole item = .ok d

/-- A package that was accepted. -/
structure AcceptedPackage (bounds : ProgramBounds) (package : Json) : Prop where
  object : package.isObj = true
  /-- Its id can be a key. -/
  key : ∃ k, workKey whole package = .ok k
  /-- Its paths are a collection. -/
  paths : ∃ paths, asSet (package.get "paths") "paths" = .ok paths ∧ paths ≠ [] ∧
    paths ⊆ bounds.allowedPaths
  /-- So are its requirements. -/
  requirements : ∃ requirements, asSet (package.get "requirement_ids") "requirement_ids" =
    .ok requirements ∧ requirements ≠ [] ∧ requirements ⊆ bounds.allowedRequirementIds

/-- A program that was accepted. -/
structure AcceptedProgram (packages : List Json) (bounds : ProgramBounds) : Prop where
  each : ∀ package ∈ packages, AcceptedPackage whole bounds package
  /-- A key names one package. -/
  keys : (packages.map (workKey whole)).Nodup
  /-- Every dependency is a package of the program. -/
  closed : ∀ package ∈ packages, ∃ items, dependenciesOf package = .arr items ∧
    ∀ item ∈ items, ∃ other ∈ packages, ∃ k, dictKey whole item = .ok k ∧ workKey whole other = .ok k
  /-- No package depends on itself, over however many steps. -/
  acyclic : ∀ k, ¬ Relation.TransGen (DependsOn whole packages) k k

variable {whole}

theorem exists_claimState (record : Json) {dimension : String} (h : dimension ∈ evidenceDimensions) :
    ∃ state, claimState record dimension = .ok state := by
  unfold claimState
  simp only [require, if_pos h, bind, Except.bind]
  split_ifs <;> exact ⟨_, rfl⟩

theorem validateWorkPackage_spec {bounds : ProgramBounds} {package : Json}
    (h : validateWorkPackage whole bounds package = .ok ⟨⟩)
    (hkey : ∃ k, workKey whole package = .ok k) : AcceptedPackage whole bounds package := by
  simp only [validateWorkPackage, bind_eq_ok, require_eq_ok] at h
  obtain ⟨_, -, _, -, _, hobject, _, -, _, -, _, -, _, -, paths, hpaths, requirements, hrequirements, _,
    hnonempty, _, hneeded, _, hwithin, _, hallowed, -⟩ := h
  exact ⟨hobject, hkey, ⟨paths, hpaths, hnonempty, hwithin⟩,
    ⟨requirements, hrequirements, hneeded, hallowed⟩⟩

/-- The packages that were accepted have keys of their own. -/
theorem validatePackages_spec {bounds : ProgramBounds} {packages : List Json} {seen after : List DictKey}
    (h : validatePackages whole bounds packages seen = .ok after) (hseen : seen.Nodup) :
    (∀ package ∈ packages, AcceptedPackage whole bounds package) ∧ after.Nodup ∧
      ∃ keys, after = seen ++ keys ∧ packages.map (workKey whole) = keys.map .ok := by
  induction packages generalizing seen with
  | nil =>
    cases h
    exact ⟨List.forall_mem_nil _, hseen, [], (List.append_nil _).symm, rfl⟩
  | cons package rest ih =>
    simp only [validatePackages, bind_eq_ok, require_eq_ok] at h
    obtain ⟨_, hpackage, key, hkey, _, hfresh, hrest⟩ := h
    have hnodup : (seen ++ [key]).Nodup := by
      rw [List.nodup_append]
      refine ⟨hseen, List.nodup_singleton _, fun a ha b hb hab ↦ hfresh ?_⟩
      rw [← List.mem_singleton.mp hb, ← hab]
      exact ha
    obtain ⟨hall, hafter, keys, rfl, hkeys⟩ := ih hrest hnodup
    refine ⟨List.forall_mem_cons.mpr ⟨validateWorkPackage_spec hpackage ⟨key, hkey⟩, hall⟩, hafter,
      key :: keys, by rw [List.append_assoc, List.singleton_append], ?_⟩
    rw [List.map_cons, List.map_cons, hkeys]
    exact congrArg (· :: _) hkey

/-- A package is found under its key. -/
theorem lookupPackage_eq {packages : List Json} (hnodup : (packages.map (workKey whole)).Nodup)
    {package : Json} (hpackage : package ∈ packages) {k : DictKey}
    (hk : workKey whole package = .ok k) : lookupPackage whole packages k = .ok package := by
  have hsome : (packages.find? fun other ↦ (workKey whole other).toOption = some k).isSome = true := by
    rw [List.find?_isSome]
    exact ⟨package, hpackage, decide_eq_true (toOption_eq_some.mpr hk)⟩
  obtain ⟨found, hfound⟩ := Option.isSome_iff_exists.mp hsome
  have hdecided := List.find?_some hfound
  have hkey : workKey whole found = .ok k := toOption_eq_some.mp (of_decide_eq_true hdecided)
  have hsame : found = package := List.inj_on_of_nodup_map hnodup
    (List.mem_of_find?_eq_some hfound) hpackage (hkey.trans hk.symm)
  rw [lookupPackage, hfound, hsame]
  rfl

/-- A package that is found has the key. -/
theorem of_lookupPackage {packages : List Json} {package : Json} {k : DictKey}
    (h : lookupPackage whole packages k = .ok package) :
    package ∈ packages ∧ workKey whole package = .ok k := by
  rw [lookupPackage, orRaise_eq_ok] at h
  have hdecided := List.find?_some h
  exact ⟨List.mem_of_find?_eq_some h, toOption_eq_some.mp (of_decide_eq_true hdecided)⟩

theorem dependencyItems_eq_ok {package : Json} {items : List Json} :
    dependencyItems package = .ok items ↔ dependenciesOf package = .arr items := by
  unfold dependencyItems
  cases dependenciesOf package <;> simp

theorem next_dependencyGraph {packages : List Json} {k : DictKey} {items : List Json} :
    (dependencyGraph whole packages).next k = .ok items ↔
      ∃ package, lookupPackage whole packages k = .ok package ∧ dependenciesOf package = .arr items := by
  simp only [dependencyGraph, bind_eq_ok, dependencyItems_eq_ok]

theorem validateConstructionProgram_spec {depth : ℕ} {program : Json}
    (h : validateConstructionProgram whole depth program = .ok ⟨⟩) :
    ∃ bounds packages, programBounds whole program = .ok bounds ∧ workPackages program = .ok packages ∧
      AcceptedProgram whole packages bounds := by
  simp only [validateConstructionProgram, bind_eq_ok] at h
  obtain ⟨bounds, hbounds, packages, hpackages, seen, hseen, _, -, visited, hvisited, -⟩ := h
  obtain ⟨haccepted, hnodup, keys, rfl, hkeys⟩ := validatePackages_spec hseen List.nodup_nil
  have hunique : (packages.map (workKey whole)).Nodup := by
    rw [hkeys]
    exact List.Nodup.map (fun _ _ hsame ↦ Except.ok.inj hsame) hnodup
  obtain ⟨hsettled, -, hall⟩ := NamedGraph.settled_visitAll
    (fun _ _ _ ↦ NamedGraph.settled_visit) hvisited trivial
  -- Every package was visited, so all it depends on was.
  have hreached : ∀ package ∈ packages, ∃ k ∈ visited, workKey whole package = .ok k := fun package hp ↦
    hall _ (List.mem_map_of_mem hp)
  refine ⟨bounds, packages, hbounds, hpackages, haccepted, hunique, ?_, ?_⟩
  · intro package hpackage
    obtain ⟨k, hk, hkey⟩ := hreached package hpackage
    obtain ⟨items, hitems, hnamed⟩ := hsettled.leadsInto hk
    obtain ⟨found, hfound, hlist⟩ := next_dependencyGraph.mp hitems
    cases (lookupPackage_eq hunique hpackage hkey).symm.trans hfound
    refine ⟨items, hlist, fun item hitem ↦ ?_⟩
    obtain ⟨d, hd, hitemKey⟩ := hnamed item hitem
    obtain ⟨_, hnext, -⟩ := hsettled.leadsInto hd
    obtain ⟨other, hother, -⟩ := next_dependencyGraph.mp hnext
    obtain ⟨hmem, hotherKey⟩ := of_lookupPackage hother
    exact ⟨other, hmem, d, hitemKey, hotherKey⟩
  · have hleads : ∀ k d, DependsOn whole packages k d → (dependencyGraph whole packages).Leads k d := by
      rintro k d ⟨package, hpackage, items, item, hk, hitems, hitem, hd⟩
      exact ⟨items, item, next_dependencyGraph.mpr
        ⟨package, lookupPackage_eq hunique hpackage hk, hitems⟩, hitem, hd⟩
    intro k hcycle
    obtain ⟨d, ⟨package, hpackage, _, _, hk, _⟩, -⟩ := Relation.TransGen.head'_iff.mp hcycle
    obtain ⟨k', hk', hkey⟩ := hreached package hpackage
    cases hk.symm.trans hkey
    exact hsettled.acyclic hk' (Relation.TransGen.mono hleads _ _ hcycle)

/-! ### Documents of the declared shape -/

/-- A value that is no list and no object. -/
def Scalar : Json → Prop
  | .arr _ => False
  | .obj _ => False
  | _ => True

/-- A package as it is declared: an object whose names are no lists and no objects, and that names what
it depends on by texts without whitespace at their ends. -/
structure PlainPackage (package : Json) : Prop where
  object : package.isObj = true
  workId : Scalar (package.get "work_id")
  state : Scalar (package.get "state")
  authorityClass : Scalar (package.get "authority_class")
  declared : dependenciesOf package ≠ .null
  /-- Each is a text. -/
  dependencies : ∀ items, dependenciesOf package = .arr items →
    ∀ item ∈ items, ∃ s, item = .str s ∧ strip s = s

/-- A program as it is declared. -/
structure PlainProgram (program : Json) : Prop where
  state : Scalar (program.get "state")
  packages : ∀ packages, workPackages program = .ok packages → ∀ package ∈ packages, PlainPackage package

/-- A `ValueError`. -/
def IsValueError (e : ProgramError) : Prop := e.cls = .valueError

theorem isValueError (message : String) : IsValueError (invalidProgram message) := rfl

variable (whole) in
theorem exists_dictKey {value : Json} (h : Scalar value) : ∃ k, dictKey whole value = .ok k := by
  cases value with
  | arr items => exact h.elim
  | obj fields => exact h.elim
  | float f =>
    rw [dictKey]
    split <;> exact ⟨_, rfl⟩
  | _ => exact ⟨_, rfl⟩

theorem raisesOnly_isOneOf {value : Json} (h : Scalar value) (texts : List String) :
    RaisesOnly IsValueError (isOneOf whole value texts) := by
  obtain ⟨k, hk⟩ := exists_dictKey whole h
  refine raisesOnly_of_ok ?_
  simp only [isOneOf, bind_eq_ok]
  exact ⟨_, k, hk, rfl⟩

theorem raisesOnly_asSet (value : Json) (field : String) : RaisesOnly IsValueError (asSet value field) := by
  cases value with
  | null => exact raisesOnly_ok _
  | arr items => exact raisesOnly_require_bind (isValueError _) fun _ ↦ raisesOnly_ok _
  | _ => exact raisesOnly_error (isValueError _)

/-- Every text of a collection is in the set. -/
theorem mem_asSet {items : List Json} {field : String} {named : List String}
    (h : asSet (.arr items) field = .ok named) {item : Json} (hitem : item ∈ items) :
    stripped item ∈ named := by
  simp only [asSet, bind_eq_ok, require_eq_ok, Except.ok.injEq] at h
  obtain ⟨-, hlength, rfl⟩ := h
  have hfilter : ((items.map stripped).filter (· ≠ "")).length = (items.map stripped).length := by
    refine le_antisymm (List.length_filter_le _ _) ?_
    rw [List.length_map, ← hlength]
    exact length_keepFirst_le _
  have hall := List.length_filter_eq_length_iff.mp hfilter
  have hmem : stripped item ∈ items.map stripped := List.mem_map_of_mem hitem
  exact mem_keepFirst.mpr (List.mem_filter.mpr ⟨hmem, hall _ hmem⟩)

theorem raisesOnly_validateWorkPackage {bounds : ProgramBounds} {package : Json}
    (h : PlainPackage package) :
    RaisesOnly IsValueError (validateWorkPackage whole bounds package) := by
  have hmembers : RaisesOnly IsValueError (membersOf whole package) := by
    have hobject := h.object
    cases package with
    | obj fields => exact raisesOnly_ok _
    | _ => cases hobject
  refine hmembers.bind fun members _ ↦ raisesOnly_require_bind (isValueError _) fun _ ↦ ?_
  have hobject : RaisesOnly IsValueError (require (package.isObj = true)
      (⟨.typeError, "list indices must be integers or slices, not str"⟩ : ProgramError)) :=
    raisesOnly_of_ok ⟨⟨⟩, require_eq_ok.mpr h.object⟩
  refine hobject.bind fun _ _ ↦ raisesOnly_require_bind (isValueError _) fun _ ↦ ?_
  refine raisesOnly_require_bind (isValueError _) fun _ ↦ ?_
  refine (raisesOnly_isOneOf h.state _).bind fun _ _ ↦ raisesOnly_require_bind (isValueError _) fun _ ↦ ?_
  refine (raisesOnly_asSet _ _).bind fun paths _ ↦ (raisesOnly_asSet _ _).bind fun requirements _ ↦ ?_
  refine raisesOnly_require_bind (isValueError _) fun _ ↦ raisesOnly_require_bind (isValueError _) fun _ ↦ ?_
  refine raisesOnly_require_bind (isValueError _) fun _ ↦ raisesOnly_require_bind (isValueError _) fun _ ↦ ?_
  refine (raisesOnly_isOneOf h.authorityClass _).bind fun _ _ ↦ ?_
  refine raisesOnly_require_bind (isValueError _) fun _ ↦ raisesOnly_require_bind (isValueError _) fun _ ↦ ?_
  have hclaims : ∀ dimension ∈ evidenceDimensions,
      RaisesOnly IsValueError (claimState (package.get "evidence") dimension) := by
    exact fun dimension hdimension ↦ raisesOnly_of_ok (exists_claimState _ hdimension)
  refine (raisesOnly_checkEach hclaims).bind fun _ _ ↦ ?_
  exact (raisesOnly_asSet _ _).bind fun _ _ ↦ raisesOnly_ok _

theorem raisesOnly_validatePackages {bounds : ProgramBounds} {packages : List Json}
    (h : ∀ package ∈ packages, PlainPackage package) (seen : List DictKey) :
    RaisesOnly IsValueError (validatePackages whole bounds packages seen) := by
  induction packages generalizing seen with
  | nil => exact raisesOnly_ok _
  | cons package rest ih =>
    obtain ⟨hpackage, hrest⟩ := List.forall_mem_cons.mp h
    refine (raisesOnly_validateWorkPackage hpackage).bind fun _ _ ↦ ?_
    refine (raisesOnly_of_ok (exists_dictKey whole hpackage.workId)).bind fun key _ ↦ ?_
    exact raisesOnly_require_bind (isValueError _) fun _ ↦ ih hrest _

theorem raisesOnly_programBounds {program : Json} (h : Scalar (program.get "state")) :
    RaisesOnly IsValueError (programBounds whole program) := by
  refine raisesOnly_require_bind (isValueError _) fun _ ↦ raisesOnly_require_bind (isValueError _) fun _ ↦ ?_
  refine raisesOnly_require_bind (isValueError _) fun _ ↦ (raisesOnly_isOneOf h _).bind fun _ _ ↦ ?_
  refine raisesOnly_require_bind (isValueError _) fun _ ↦ raisesOnly_require_bind (isValueError _) fun _ ↦ ?_
  refine (raisesOnly_asSet _ _).bind fun _ _ ↦ (raisesOnly_asSet _ _).bind fun _ _ ↦ ?_
  exact (raisesOnly_asSet _ _).bind fun _ _ ↦ raisesOnly_ok _

/-- What a package of the declared shape depends on is declared, since a text is compared as it is. -/
theorem declared_of_plain {packages : List Json} {seen : List DictKey}
    (hkeys : packages.map (workKey whole) = seen.map .ok) {package : Json} (hplain : PlainPackage package)
    (hvalid : validateDependencies whole seen package = .ok ⟨⟩) :
    ∃ items, dependenciesOf package = .arr items ∧ ∀ item ∈ items,
      ∃ other ∈ packages, ∃ k, dictKey whole item = .ok k ∧ workKey whole other = .ok k := by
  simp only [validateDependencies, bind_eq_ok, require_eq_ok] at hvalid
  obtain ⟨named, hset, _, hknown, -⟩ := hvalid
  have hitems : ∃ items, dependenciesOf package = .arr items := by
    have hdeclared := hplain.declared
    cases hvalue : dependenciesOf package with
    | null => exact absurd hvalue hdeclared
    | arr items => exact ⟨items, rfl⟩
    | _ =>
      rw [hvalue] at hset
      cases hset
  obtain ⟨items, hitems⟩ := hitems
  rw [hitems] at hset
  refine ⟨items, hitems, fun item hitem ↦ ?_⟩
  obtain ⟨s, rfl, hstrip⟩ := hplain.dependencies items hitems item hitem
  have hin : stripped (.str s) ∈ named := mem_asSet hset hitem
  rw [stripped, Json.pyStr, hstrip] at hin
  have hseen : DictKey.text s ∈ seen := by
    by_contra hmissing
    have hunknown : s ∈ named.filter fun name ↦ DictKey.text name ∉ seen :=
      List.mem_filter.mpr ⟨hin, decide_eq_true hmissing⟩
    rw [hknown] at hunknown
    cases hunknown
  have hlisted : Except.ok (DictKey.text s) ∈ packages.map (workKey whole) := by
    rw [hkeys]
    exact List.mem_map_of_mem hseen
  obtain ⟨other, hother, hkey⟩ := List.mem_map.mp hlisted
  exact ⟨other, hother, DictKey.text s, rfl, hkey⟩

/-- A program of the declared shape is refused with a `ValueError`.
Assumes: the search may go deeper than there are packages. -/
theorem raisesOnly_validateConstructionProgram {depth : ℕ} {program : Json} (h : PlainProgram program)
    (hdepth : ∀ packages, workPackages program = .ok packages → packages.length < depth) :
    RaisesOnly IsValueError (validateConstructionProgram whole depth program) := by
  refine (raisesOnly_programBounds h.state).bind fun bounds _ ↦ ?_
  have hlisted : RaisesOnly IsValueError (workPackages program) := by
    unfold workPackages
    split
    · exact raisesOnly_ok _
    · exact raisesOnly_error (isValueError _)
  refine hlisted.bind fun packages hpackages ↦ ?_
  have hplain := h.packages packages hpackages
  refine (raisesOnly_validatePackages hplain []).bind fun seen hseen ↦ ?_
  have hdependencies : ∀ package ∈ packages,
      RaisesOnly IsValueError (validateDependencies whole seen package) := by
    intro package hpackage
    refine (raisesOnly_asSet _ _).bind fun named _ ↦ raisesOnly_require_bind (isValueError _) fun _ ↦ ?_
    refine (raisesOnly_of_ok (exists_dictKey whole (hplain package hpackage).workId)).bind fun key _ ↦ ?_
    exact raisesOnly_require (isValueError _)
  refine (raisesOnly_checkEach hdependencies).bind fun _ hchecked ↦ ?_
  refine RaisesOnly.bind (fun e herror ↦ ?_) fun _ _ ↦ raisesOnly_ok _
  obtain ⟨-, hnodup, _, rfl, hkeys⟩ := validatePackages_spec hseen List.nodup_nil
  have hunique : (packages.map (workKey whole)).Nodup := by
    rw [hkeys]
    exact List.Nodup.map (fun _ _ hsame ↦ Except.ok.inj hsame) hnodup
  have hnamed : ∀ a, (∃ package ∈ packages, ∃ k, dictKey whole a = .ok k ∧ workKey whole package = .ok k) →
      ∃ k names, dictKey whole a = .ok k ∧ (dependencyGraph whole packages).next k = .ok names ∧
        k ∈ seen ∧ ∀ b ∈ names,
          ∃ package ∈ packages, ∃ k, dictKey whole b = .ok k ∧ workKey whole package = .ok k := by
    rintro a ⟨package, hpackage, k, hk, hkey⟩
    have hmem : k ∈ seen := by
      have hlisted : Except.ok k ∈ packages.map (workKey whole) := hkey ▸ List.mem_map_of_mem hpackage
      rw [hkeys, List.mem_map] at hlisted
      obtain ⟨k', hk', hsame⟩ := hlisted
      cases hsame
      exact hk'
    obtain ⟨_, -, hvalid⟩ := exists_mem_checkEach hchecked package hpackage
    obtain ⟨items, hitems, hdeclared⟩ := declared_of_plain hkeys (hplain package hpackage) hvalid
    have hnext : (dependencyGraph whole packages).next k = .ok items :=
      next_dependencyGraph.mpr ⟨package, lookupPackage_eq hunique hpackage hkey, hitems⟩
    exact ⟨k, items, hk, hnext, hmem, hdeclared⟩
  obtain ⟨a, ha, between, hvisit⟩ := NamedGraph.visitAll_error herror
  obtain ⟨package, hpackage, rfl⟩ := List.mem_map.mp ha
  obtain ⟨k, hk⟩ := exists_dictKey whole (hplain package hpackage).workId
  rcases NamedGraph.visit_error hnamed ⟨package, hpackage, k, hk, hk⟩ hvisit with ⟨b, rfl⟩ | ⟨-, hdeep⟩
  · exact isValueError _
  · have hfewer := hdepth packages hpackages
    have hcount : packages.length = seen.length := by
      have hlengths := congrArg List.length hkeys
      rwa [List.length_map, List.length_map] at hlengths
    have hbound := hdeep.trans (List.length_filter_le _ _)
    omega

end

end N0te.Governance
