import N0te.Library.Inputs
import N0te.Migration.MigrationStep

/-!
# Schema programs

A release brings a program of migration steps, of which a profile takes those from the version it is at.
`selectMigrationChain` finds them, and `MigrationPlan.create` accepts the steps that lead from one
version to another, which is `Connects`. The selection succeeds exactly for contiguous programs that
end at the target and have a step to begin with (`exists_selectMigrationChain_iff`), and then it is the
one end of the program that connects the two versions (`connects_of_select`, `Connects.eq_of_suffix`).
-/

set_option autoImplicit false
set_option relaxedAutoImplicit false

namespace N0te.Migration

open Library

variable {rt : Runtime}

/-! ### Programs -/

/-- `normalize_migration_program`. -/
def normalizeMigrationProgram (steps : List (MigrationStep rt)) :
    Except MigrationError (List (MigrationStep rt)) := do
  require (∀ pair ∈ steps.zip steps.tail, pair.2.fromVersion = pair.1.toVersion)
    (planError "authenticated schema migration program must be ordered and contiguous")
  return steps

/-- `select_migration_chain`. -/
def selectMigrationChain (source target : ℤ) (program : List (MigrationStep rt)) :
    Except MigrationError (List (MigrationStep rt)) := do
  require (1 ≤ source ∧ 1 ≤ target) (planError "schema versions must be positive")
  require (source ≤ target) (planError "schema migration cannot silently downgrade")
  let normalized ← normalizeMigrationProgram program
  require (∀ last ∈ normalized.getLast?, last.toVersion = target)
    (planError "authenticated schema migration program must terminate at target_version")
  if source = target then
    return []
  let start ← orRaise (normalized.findIdx? fun step ↦ step.fromVersion = source)
    (planError "authenticated release has no contiguous migration path from source_version")
  let selected := normalized.drop start
  require (selected ≠ [] ∧ ∀ last ∈ selected.getLast?, last.toVersion = target)
    (planError "authenticated release migration path does not reach target_version")
  return selected

/-! ### Plans -/

/-- The loop of `_validate_chain`: the version that is reached. -/
def followChain : ℤ → List (ℤ × ℤ) → List (MigrationStep rt) → Except MigrationError ℤ
  | expected, _, [] => return expected
  | expected, seenEdges, step :: rest => do
    require (¬((step.fromVersion, step.toVersion) ∈ seenEdges ∨ step.fromVersion ≠ expected))
      (planError "migration chain has a gap, duplicate or out-of-order step")
    followChain step.toVersion ((step.fromVersion, step.toVersion) :: seenEdges) rest

/-- `ApplicationSchemaMigrator._validate_chain`. -/
def validateChain (source target : ℤ) (steps : List (MigrationStep rt)) :
    Except MigrationError Unit := do
  require (source ≤ target) (planError "schema migration cannot silently downgrade")
  if target = source then
    require (steps = []) (planError "current-version plan must contain no migration steps")
  else
    let expected ← followChain source [] steps
    require (expected = target) (planError "migration chain does not reach target_version")

/-- A lower-case hexadecimal digit. -/
def isHexDigit (c : Char) : Bool := c.isDigit || (97 ≤ c.toNat && c.toNat ≤ 102)

/-- A prefix with hexadecimal digits behind it, which is the form of identifiers. -/
def hexAfter (start : String) (count : ℕ) (s : String) : Bool :=
  (afterPrefix start s).any fun rest ↦ rest.length == count && rest.toList.all isHexDigit

/-- `_MIGRATION_ID.fullmatch`. -/
def isMigrationId (s : String) : Bool := hexAfter "mig_" 32 s

/-- `_PROFILE_ID.fullmatch`. -/
def isProfileId (s : String) : Bool := hexAfter "prf_" 32 s

/-- `_SHA256.fullmatch`. -/
def isSha256 (s : String) : Bool := hexAfter "" 64 s

/-- `MigrationPlan`. -/
structure MigrationPlan (rt : Runtime) where
  migrationId : String
  profileId : String
  sourceVersion : ℤ
  targetVersion : ℤ
  sourceIdentityFingerprint : String
  sourceHistoryFingerprint : String
  steps : List (MigrationStep rt)
  migration : isMigrationId migrationId = true
  profile : isProfileId profileId = true
  positive : 1 ≤ sourceVersion ∧ 1 ≤ targetVersion
  identity : isSha256 sourceIdentityFingerprint = true
  history : isSha256 sourceHistoryFingerprint = true
  chain : validateChain sourceVersion targetVersion steps = .ok ()

/-- `MigrationPlan.__post_init__`. -/
def MigrationPlan.create (migrationId profileId : String) (sourceVersion targetVersion : ℤ)
    (sourceIdentityFingerprint sourceHistoryFingerprint : String)
    (steps : List (MigrationStep rt)) : Except MigrationError (MigrationPlan rt) := do
  let hmigration ← ensure (isMigrationId migrationId = true) (planError "invalid migration_id")
  let hprofile ← ensure (isProfileId profileId = true) (planError "invalid profile_id")
  let hpositive ← ensure (1 ≤ sourceVersion ∧ 1 ≤ targetVersion)
    (planError "schema versions must be positive")
  let hidentity ← ensure (isSha256 sourceIdentityFingerprint = true)
    (planError "source identity fingerprint must be SHA-256")
  let hhistory ← ensure (isSha256 sourceHistoryFingerprint = true)
    (planError "source history fingerprint must be SHA-256")
  match hchain : validateChain sourceVersion targetVersion steps with
  | .error e => throw e
  | .ok () => return {
      migrationId
      profileId
      sourceVersion
      targetVersion
      sourceIdentityFingerprint
      sourceHistoryFingerprint
      steps
      migration := hmigration.down
      profile := hprofile.down
      positive := hpositive.down
      identity := hidentity.down
      history := hhistory.down
      chain := hchain }

/-! ### Chains -/

/-- Each step begins where the one before it ends. -/
def Contiguous (program : List (MigrationStep rt)) : Prop :=
  program.IsChain fun previous current ↦ current.fromVersion = previous.toVersion

/-- The version at which a program ends that a profile begins at some version. -/
def endVersion (source : ℤ) (program : List (MigrationStep rt)) : ℤ :=
  (program.getLast?.map MigrationStep.toVersion).getD source

/-- The steps lead from one version to another. -/
def Connects : ℤ → ℤ → List (MigrationStep rt) → Prop
  | source, target, [] => source = target
  | source, target, step :: rest => step.fromVersion = source ∧ Connects step.toVersion target rest

variable {source target : ℤ} {program steps chain : List (MigrationStep rt)}

theorem contiguous_iff :
    (∀ pair ∈ steps.zip steps.tail, pair.2.fromVersion = pair.1.toVersion) ↔ Contiguous steps := by
  induction steps with
  | nil => exact ⟨fun _ ↦ List.IsChain.nil, fun _ ↦ List.forall_mem_nil _⟩
  | cons first rest ih =>
    cases rest with
    | nil => exact ⟨fun _ ↦ List.IsChain.singleton _, fun _ ↦ List.forall_mem_nil _⟩
    | cons second more =>
      rw [Contiguous, List.isChain_cons_cons, List.tail_cons, List.zip_cons_cons,
        List.forall_mem_cons]
      exact and_congr_right fun _ ↦ ih

theorem endVersion_cons (source : ℤ) (step : MigrationStep rt) (rest : List (MigrationStep rt)) :
    endVersion source (step :: rest) = endVersion step.toVersion rest := by
  cases rest with
  | nil => rfl
  | cons second more =>
    unfold endVersion
    rw [List.getLast?_cons_cons]
    cases hlast : (second :: more).getLast? with
    | none => simp at hlast
    | some last => rfl

theorem endVersion_append (source : ℤ) {earlier later : List (MigrationStep rt)} (h : later ≠ []) :
    endVersion source (earlier ++ later) = endVersion source later := by
  unfold endVersion
  rw [List.getLast?_append_of_ne_nil _ h]

/-- Steps connect two versions when they are contiguous, begin at the one and end at the other. -/
theorem connects_iff : Connects source target steps ↔ Contiguous steps ∧
    (∀ first ∈ steps.head?, first.fromVersion = source) ∧ endVersion source steps = target := by
  induction steps generalizing source with
  | nil => simp [Connects, Contiguous, endVersion]
  | cons step rest ih =>
    rw [Connects, ih, endVersion_cons, Contiguous, Contiguous, List.isChain_cons]
    simp only [List.head?_cons, Option.mem_some_iff, forall_eq']
    constructor
    · rintro ⟨hfirst, hchain, hnext, hend⟩
      exact ⟨⟨hnext, hchain⟩, hfirst, hend⟩
    · rintro ⟨⟨hnext, hchain⟩, hfirst, hend⟩
      exact ⟨hfirst, hchain, hnext, hend⟩

/-- Each step advances one version. -/
theorem Connects.length (h : Connects source target steps) : target = source + steps.length := by
  induction steps generalizing source with
  | nil => simpa [Connects] using h.symm
  | cons step rest ih =>
    obtain ⟨hfirst, hrest⟩ := h
    rw [ih hrest, step.advances, hfirst, List.length_cons]
    push_cast
    omega

/-- A program has at most one end that connects two versions. -/
theorem Connects.eq_of_suffix {other : List (MigrationStep rt)} (h : Connects source target chain)
    (hother : Connects source target other) (hchain : chain <:+ program)
    (hprogram : other <:+ program) : other = chain := by
  have hlength : other.length = chain.length := by
    have hone := h.length
    have htwo := hother.length
    omega
  exact (List.suffix_of_suffix_length_le hprogram hchain hlength.le).eq_of_length hlength

/-- Edges of versions that were passed do not come again. -/
theorem followChain_eq_ok_iff {expected reached : ℤ} {seenEdges : List (ℤ × ℤ)}
    (hseen : ∀ edge ∈ seenEdges, edge.1 < expected) :
    followChain expected seenEdges steps = .ok reached ↔ Connects expected reached steps := by
  induction steps generalizing expected seenEdges with
  | nil => rw [followChain, pure_eq_ok, Connects]
  | cons step rest ih =>
    have hpassed (hbefore : ∀ edge ∈ seenEdges, edge.1 < step.fromVersion) :
        ∀ edge ∈ (step.fromVersion, step.toVersion) :: seenEdges, edge.1 < step.toVersion := by
      intro edge hedge
      rw [step.advances]
      rcases List.mem_cons.mp hedge with rfl | hmem
      · exact Int.lt_succ step.fromVersion
      · exact Int.lt_trans (hbefore edge hmem) (Int.lt_succ step.fromVersion)
    simp only [followChain, bind_eq_ok, require_eq_ok, Connects, not_or, not_not]
    constructor
    · rintro ⟨_, ⟨-, rfl⟩, hrest⟩
      exact ⟨rfl, (ih (hpassed hseen)).mp hrest⟩
    · rintro ⟨rfl, hrest⟩
      have hnew : (step.fromVersion, step.toVersion) ∉ seenEdges :=
        fun hmem ↦ Int.lt_irrefl _ (hseen _ hmem)
      exact ⟨(), ⟨hnew, rfl⟩, (ih (hpassed hseen)).mpr hrest⟩

/-- A plan accepts the steps that connect its versions. -/
theorem validateChain_eq_ok_iff :
    validateChain source target steps = .ok () ↔ Connects source target steps := by
  have hfollow (reached : ℤ) :
      followChain source [] steps = .ok reached ↔ Connects source reached steps :=
    followChain_eq_ok_iff (List.forall_mem_nil _)
  unfold validateChain
  split_ifs with heq
  · subst heq
    simp only [bind_eq_ok, require_eq_ok]
    constructor
    · rintro ⟨_, -, rfl⟩
      rfl
    · intro hconnects
      have hlength := hconnects.length
      have hnil : steps.length = 0 := by omega
      exact ⟨(), Int.le_refl _, List.eq_nil_of_length_eq_zero hnil⟩
  · simp only [bind_eq_ok, require_eq_ok, hfollow]
    constructor
    · rintro ⟨_, -, _, hconnects, rfl⟩
      exact hconnects
    · intro hconnects
      have hlength := hconnects.length
      exact ⟨(), by omega, target, hconnects, rfl⟩

/-! ### Selection -/

theorem endVersion_eq_iff (h : program ≠ []) : endVersion source program = target ↔
    ∀ last ∈ program.getLast?, last.toVersion = target := by
  unfold endVersion
  rw [List.getLast?_eq_some_getLast h]
  simp

theorem exists_start {step : MigrationStep rt} (hmem : step ∈ program)
    (hsource : step.fromVersion = source) :
    ∃ start, program.findIdx? (fun step ↦ step.fromVersion = source) = some start := by
  apply Option.isSome_iff_exists.mp
  rw [List.findIdx?_isSome, List.any_eq_true]
  exact ⟨step, hmem, by simpa using hsource⟩

/-- The end of a program that begins at a version. -/
theorem connects_drop {start : ℕ} (hprogram : Contiguous program)
    (hend : endVersion source program = target)
    (hstart : program.findIdx? (fun step ↦ step.fromVersion = source) = some start) :
    program.drop start ≠ [] ∧ Connects source target (program.drop start) := by
  obtain ⟨hlength, hfirst, -⟩ := List.findIdx?_eq_some_iff_getElem.mp hstart
  have hcons := List.drop_eq_getElem_cons hlength
  have hnonempty : program.drop start ≠ [] := by
    rw [hcons]
    exact List.cons_ne_nil _ _
  refine ⟨hnonempty, connects_iff.mpr ⟨hprogram.suffix (List.drop_suffix _ _), ?_, ?_⟩⟩
  · intro first hmem
    rw [hcons, List.head?_cons] at hmem
    obtain rfl := Option.some.inj hmem
    simpa using hfirst
  · rwa [← List.take_append_drop start program, endVersion_append source hnonempty] at hend

theorem select_eq_ok_iff : selectMigrationChain source target program = .ok chain ↔
    ((1 ≤ source ∧ 1 ≤ target) ∧ Contiguous program ∧ endVersion source program = target) ∧
      chain <:+ program ∧ Connects source target chain := by
  simp only [selectMigrationChain, normalizeMigrationProgram, bind_eq_ok, require_eq_ok,
    pure_eq_ok, contiguous_iff]
  constructor
  · rintro ⟨_, hpositive, _, -, _, ⟨_, hcontiguous, rfl⟩, _, hlast, h⟩
    split_ifs at h with heq
    · obtain rfl := pure_eq_ok.mp h
      have hend : endVersion source program = target := by
        by_cases hempty : program = []
        · rw [hempty]
          exact heq
        · exact (endVersion_eq_iff hempty).mpr hlast
      exact ⟨⟨hpositive, hcontiguous, hend⟩, List.nil_suffix, heq⟩
    · simp only [bind_eq_ok, orRaise_eq_ok, require_eq_ok, pure_eq_ok] at h
      obtain ⟨start, hstart, _, -, rfl⟩ := h
      have hnonempty : program ≠ [] := by
        rintro rfl
        simp at hstart
      have hend : endVersion source program = target := (endVersion_eq_iff hnonempty).mpr hlast
      exact ⟨⟨hpositive, hcontiguous, hend⟩, List.drop_suffix _ _,
        (connects_drop hcontiguous hend hstart).2⟩
  · rintro ⟨⟨hpositive, hcontiguous, hend⟩, hsuffix, hconnects⟩
    have hlength := hconnects.length
    have hlast : ∀ last ∈ program.getLast?, last.toVersion = target := by
      intro last hmem
      refine (endVersion_eq_iff ?_).mp hend last hmem
      rintro rfl
      simp at hmem
    refine ⟨(), hpositive, (), by omega, program, ⟨(), hcontiguous, rfl⟩, (), hlast, ?_⟩
    split_ifs with heq
    · have hnil : chain.length = 0 := by omega
      rw [List.eq_nil_of_length_eq_zero hnil]
      rfl
    · cases chain with
      | nil => exact absurd hconnects heq
      | cons first rest =>
        obtain ⟨start, hstart⟩ := exists_start (hsuffix.subset List.mem_cons_self) hconnects.1
        obtain ⟨hnonempty, hdrop⟩ := connects_drop hcontiguous hend hstart
        have hselected : program.drop start = first :: rest :=
          hconnects.eq_of_suffix hdrop hsuffix (List.drop_suffix _ _)
        simp only [bind_eq_ok, orRaise_eq_ok, require_eq_ok, pure_eq_ok]
        have hdropEnd := (endVersion_eq_iff hnonempty).mp (connects_iff.mp hdrop).2.2
        exact ⟨start, hstart, (), ⟨hnonempty, hdropEnd⟩, hselected⟩

theorem exists_select_iff : (∃ chain, selectMigrationChain source target program = .ok chain) ↔
    (1 ≤ source ∧ 1 ≤ target) ∧ Contiguous program ∧ endVersion source program = target ∧
      (source ≠ target → ∃ step ∈ program, step.fromVersion = source) := by
  simp only [select_eq_ok_iff]
  constructor
  · rintro ⟨chain, ⟨hpositive, hcontiguous, hend⟩, hsuffix, hconnects⟩
    refine ⟨hpositive, hcontiguous, hend, fun hne ↦ ?_⟩
    cases chain with
    | nil => exact absurd hconnects hne
    | cons first rest => exact ⟨first, hsuffix.subset List.mem_cons_self, hconnects.1⟩
  · rintro ⟨hpositive, hcontiguous, hend, hstep⟩
    by_cases heq : source = target
    · exact ⟨[], ⟨hpositive, hcontiguous, hend⟩, List.nil_suffix, heq⟩
    · obtain ⟨step, hmem, hsource⟩ := hstep heq
      obtain ⟨start, hstart⟩ := exists_start hmem hsource
      exact ⟨program.drop start, ⟨hpositive, hcontiguous, hend⟩, List.drop_suffix _ _,
        (connects_drop hcontiguous hend hstart).2⟩

/-- A plan is made of any steps that connect its versions. -/
theorem create_of_connects {migrationId profileId identity history : String}
    (hmigration : isMigrationId migrationId = true) (hprofile : isProfileId profileId = true)
    (hpositive : 1 ≤ source ∧ 1 ≤ target) (hidentity : isSha256 identity = true)
    (hhistory : isSha256 history = true) (hconnects : Connects source target chain) :
    ∃ plan, MigrationPlan.create migrationId profileId source target identity history chain =
      .ok plan ∧ plan.steps = chain := by
  have hchain := validateChain_eq_ok_iff.mpr hconnects
  rw [MigrationPlan.create, ensure_of hmigration, ensure_of hprofile, ensure_of hpositive,
    ensure_of hidentity, ensure_of hhistory]
  simp only [bind, Except.bind]
  split
  · rename_i e herror
    rw [hchain] at herror
    cases herror
  · exact ⟨_, rfl, rfl⟩

end N0te.Migration
