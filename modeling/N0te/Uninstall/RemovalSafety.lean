import Mathlib.Data.List.Pairwise
import N0te.Uninstall.RemovalPlan

/-!
# What a removal leaves alone

`RemovalSafe` says of a plan that its candidates are verified roots of a stopped application, that none
lies within another, and that removing them removes nothing at or under a place that is kept, wherever
the evidence says that the place is.

All but the last always hold. A candidate can lie within a runtime root that is retained because it
overlaps the data root, when that root is listed later, and evidence can lead a kept place into a
candidate: `removal_safe_iff` says that nothing else goes wrong.
-/

set_option autoImplicit false
set_option relaxedAutoImplicit false

namespace N0te.Uninstall

open Library Lineage Platforms

section

variable (rt : RemovalRuntime) (request : RemovalRequest)

/-! ### What is removed -/

/-- Something at a place is, as the evidence says, at another. -/
def LeadsTo (evidence : List ResolvedPathEvidence) (x y : List String) : Prop :=
  y = x ∨ ∃ item ∈ evidence,
    Leads (pathKey rt item.declaredPath) (pathKey rt item.resolvedPath) x y

/-- What is at a place goes when the candidates of a plan are removed with all that they hold. -/
def Removes (plan : UninstallPlan) (x : List String) : Prop :=
  ∃ entry ∈ plan.removalCandidates, ∃ y, LeadsTo rt request.pathEvidence x y ∧
    pathKey rt entry.path <+: y

/-- Evidence says that a path is where it is declared to be. -/
def Verified (path : PurePath) : Prop :=
  ∃ item, evidenceFor rt path request.pathEvidence = .ok (some item) ∧ item.Canonical rt

def RemovalRequest.profileRoot : PurePath :=
  request.roots.profileDataRoot (rt.table.lower (strip request.profileId))

/-- What is retained by default: the data root, the profile and its recovery snapshots. -/
def RemovalRequest.durablePaths : List PurePath :=
  [request.roots.dataRoot, request.profileRoot rt, (request.profileRoot rt).join ["recovery"]]

/-- An entry that is no candidate itself, and is not left to the entry of a parent. -/
def RemovalEntry.Preserved (entry : RemovalEntry) : Prop :=
  entry.eligibleForRemoval = false ∧ entry.classification ≠ .coveredRuntimeState

/-- A plan is safe. -/
structure RemovalSafe (plan : UninstallPlan) : Prop where
  /-- There are candidates only when the application has stopped. -/
  stopped : plan.removalCandidates ≠ [] → plan.runtimeState = .stopped
  /-- The evidence of a candidate is canonical. -/
  verified : ∀ entry ∈ plan.removalCandidates, Verified rt request entry.path
  /-- No candidate lies within another, or is another. -/
  apart : plan.removalCandidates.Pairwise fun a b ↦ ¬ Overlaps rt a.path b.path
  /-- Nothing at or under what is retained by default is removed. -/
  durable : ∀ path ∈ request.durablePaths rt, ∀ x, pathKey rt path <+: x →
    ¬ Removes rt request plan x
  /-- Nothing at or under another preserved place is removed. -/
  preserved : ∀ entry ∈ plan.entries, entry.Preserved → ∀ x, pathKey rt entry.path <+: x →
    ¬ Removes rt request plan x

/-! ### When nothing that is kept is removed -/

/-- The runtime roots whose keys are new. -/
def freshRoots : List (List String) → List (String × PurePath) → List PurePath
  | _, [] => []
  | seen, (_, path) :: rest =>
    if pathKey rt path ∈ seen then freshRoots seen rest
    else path :: freshRoots (pathKey rt path :: seen) rest

/-- The runtime roots of a request, each once. -/
def RemovalRequest.runtimePaths : List PurePath :=
  freshRoots rt ((request.durablePaths rt).map (pathKey rt)) (runtimeRoots request.roots)

def RemovalRequest.state : Option RuntimeState :=
  (Line.ofString request.runtimeState).bind fun text ↦ RuntimeState.ofName (upper text.val)

/-- A runtime root that may be removed: of a stopped application, apart from the data root, not within
a root before it, and verified. -/
structure Removable (path : PurePath) : Prop where
  stopped : request.state = some .stopped
  apart : ¬ Overlaps rt path request.roots.dataRoot
  uncovered : ∃ before after, request.runtimePaths rt = before ++ path :: after ∧
    ∀ parent ∈ before, ¬ IsSameOrWithin rt path parent
  verified : Verified rt request path

/-- A place that is kept: the data root, a runtime root that overlaps it or that may not be removed for
another reason than that it is within a root before it, or what the platform manages. -/
inductive IsKept : PurePath → Prop
  | data : IsKept request.roots.dataRoot
  | root (path : PurePath) (before after : List PurePath)
      (hroot : request.runtimePaths rt = before ++ path :: after)
      (huncovered : Overlaps rt path request.roots.dataRoot ∨
        ∀ parent ∈ before, ¬ IsSameOrWithin rt path parent)
      (hnot : ¬ Removable rt request path) : IsKept path
  | managed (path : PurePath) (hmanaged : path ∈ request.platformManagedPaths) : IsKept path

/-- The roots that may be removed are apart from what is kept. -/
structure KeepsApart : Prop where
  /-- None lies within a runtime root that overlaps the data root. -/
  roots : ∀ path, Removable rt request path → ∀ other ∈ request.runtimePaths rt,
    Overlaps rt other request.roots.dataRoot → ¬ IsSameOrWithin rt path other
  /-- Evidence leads nothing that is kept to a place that overlaps one. -/
  evidence : ∀ path, Removable rt request path → ∀ place, IsKept rt request place →
    ∀ item ∈ request.pathEvidence,
      ∀ moved ∈ image (pathKey rt item.declaredPath) (pathKey rt item.resolvedPath)
        (pathKey rt place), ¬ Overlap moved (pathKey rt path)

end

/-! ### Entries -/

section

variable {rt : RemovalRuntime} {request : RemovalRequest} {state : RuntimeState}
  {path : PurePath} {entry : RemovalEntry} {prior : List PurePath}

theorem create_spec {classification : RemovalClass} {reason : String} {eligible : Bool}
    {evidenceRef : Option Line}
    (h : RemovalEntry.create path classification reason eligible evidenceRef = .ok entry) :
    entry.path = path ∧ entry.classification = classification ∧
      entry.eligibleForRemoval = eligible := by
  simp only [RemovalEntry.create, bind_eq_ok, Except.ok.injEq] at h
  obtain ⟨_, -, _, -, rfl⟩ := h
  exact ⟨rfl, rfl, rfl⟩

/-- An entry that evidence has to verify is as it should be if it is verified, and blocked else. -/
theorem verifiedEntry_spec {classification : RemovalClass} {eligible : Bool}
    {verified unverified : String}
    (h : verifiedEntry rt request.pathEvidence path classification eligible verified unverified =
      .ok entry) :
    entry.path = path ∧
      ((Verified rt request path ∧ entry.classification = classification ∧
          entry.eligibleForRemoval = eligible) ∨
        (¬ Verified rt request path ∧ entry.classification = .blockedUnverifiedPath ∧
          entry.eligibleForRemoval = false)) := by
  simp only [verifiedEntry, bind_eq_ok] at h
  obtain ⟨found, hfound, h⟩ := h
  have hunverified (hnone : ∀ item ∈ found, ¬ item.Canonical rt) : ¬ Verified rt request path := by
    rintro ⟨item, hitem, hcanonical⟩
    exact hnone item (Except.ok.inj (hfound.symm.trans hitem)) hcanonical
  cases found with
  | none =>
    obtain ⟨hpath, hclass, heligible⟩ := create_spec h
    exact ⟨hpath, .inr ⟨hunverified (fun _ hitem ↦ by cases hitem), hclass, heligible⟩⟩
  | some item =>
    by_cases hcanonical : item.Canonical rt
    · simp only [hcanonical, if_true] at h
      obtain ⟨hpath, hclass, heligible⟩ := create_spec h
      exact ⟨hpath, .inl ⟨⟨item, hfound, hcanonical⟩, hclass, heligible⟩⟩
    · simp only [hcanonical, if_false] at h
      obtain ⟨hpath, hclass, heligible⟩ := create_spec h
      refine ⟨hpath, .inr ⟨hunverified ?_, hclass, heligible⟩⟩
      intro other hother
      rwa [← Option.some.inj hother]

variable (rt request state) in
/-- The entry of a runtime root after others. -/
inductive RootEntry (prior : List PurePath) (entry : RemovalEntry) : Prop
  | overlapping (hdata : Overlaps rt entry.path request.roots.dataRoot)
      (hclass : entry.classification = .retainOverlap) (hnot : entry.eligibleForRemoval = false)
  | covered (hapart : ¬ Overlaps rt entry.path request.roots.dataRoot)
      (hparent : ∃ parent ∈ prior, IsSameOrWithin rt entry.path parent)
      (hclass : entry.classification = .coveredRuntimeState)
      (hnot : entry.eligibleForRemoval = false)
  | removable (hapart : ¬ Overlaps rt entry.path request.roots.dataRoot)
      (hprior : ∀ parent ∈ prior, ¬ Overlaps rt parent entry.path) (hstopped : state = .stopped)
      (hverified : Verified rt request entry.path) (heligible : entry.eligibleForRemoval = true)
  | blocked (hapart : ¬ Overlaps rt entry.path request.roots.dataRoot)
      (hprior : ∀ parent ∈ prior, ¬ Overlaps rt parent entry.path)
      (hnot : entry.eligibleForRemoval = false)
      (hreason : ¬ (state = .stopped ∧ Verified rt request entry.path))
      (hclass : entry.classification ≠ .coveredRuntimeState)

theorem classifyRoot_spec {name : String}
    (h : classifyRoot rt request state prior name path = .ok entry) :
    entry.path = path ∧ RootEntry rt request state prior entry := by
  unfold classifyRoot at h
  by_cases hdata : Overlaps rt path request.roots.dataRoot
  · rw [if_pos hdata] at h
    obtain ⟨rfl, hclass, heligible⟩ := create_spec h
    exact ⟨rfl, .overlapping hdata hclass heligible⟩
  · rw [if_neg hdata] at h
    split at h
    · rename_i parent hparent
      obtain ⟨rfl, hclass, heligible⟩ := create_spec h
      have hwithin := List.find?_some hparent
      exact ⟨rfl, .covered hdata ⟨parent, List.mem_of_find?_eq_some hparent,
        of_decide_eq_true hwithin⟩ hclass heligible⟩
    · rename_i hnone
      simp only [bind_eq_ok, require_eq_ok] at h
      obtain ⟨_, hcontains, h⟩ := h
      have hprior : ∀ parent ∈ prior, ¬ Overlaps rt parent path := by
        intro parent hparent
        have hwithin := List.find?_eq_none.mp hnone parent hparent
        rintro (hoverlap | hoverlap)
        · exact hcontains parent hparent hoverlap
        · exact hwithin (decide_eq_true hoverlap)
      by_cases hstopped : state = .stopped
      · rw [if_neg (not_not.mpr hstopped)] at h
        obtain ⟨rfl, ⟨hverified, -, heligible⟩ | ⟨hunverified, hclass, heligible⟩⟩ :=
          verifiedEntry_spec h
        · exact ⟨rfl, .removable hdata hprior hstopped hverified heligible⟩
        · exact ⟨rfl, .blocked hdata hprior heligible (fun hboth ↦ hunverified hboth.2)
            (hclass ▸ by decide)⟩
      · rw [if_pos hstopped] at h
        obtain ⟨rfl, hclass, heligible⟩ := create_spec h
        exact ⟨rfl, .blocked hdata hprior heligible (fun hboth ↦ hstopped hboth.1)
          (hclass ▸ by decide)⟩

variable (rt request state) in
/-- The entries of the runtime roots. -/
inductive RootEntries : List PurePath → List RemovalEntry → Prop
  | nil (prior : List PurePath) : RootEntries prior []
  | cons (prior : List PurePath) (entry : RemovalEntry) (rest : List RemovalEntry)
      (hentry : RootEntry rt request state prior entry)
      (hrest : RootEntries (prior ++ [entry.path]) rest) : RootEntries prior (entry :: rest)

theorem classifyRoots_spec {seen : List (List String)} {roots : List (String × PurePath)}
    {entries : List RemovalEntry}
    (h : classifyRoots rt request state seen prior roots = .ok entries) :
    RootEntries rt request state prior entries ∧
      entries.map RemovalEntry.path = freshRoots rt seen roots := by
  induction roots generalizing seen prior entries with
  | nil =>
    cases h
    exact ⟨.nil prior, rfl⟩
  | cons root rest ih =>
    simp only [classifyRoots, bind_eq_ok] at h
    obtain ⟨_, -, h⟩ := h
    rw [freshRoots]
    by_cases hseen : pathKey rt root.2 ∈ seen
    · rw [if_pos hseen] at h ⊢
      exact ih h
    · rw [if_neg hseen] at h ⊢
      simp only [bind_eq_ok, Except.ok.injEq] at h
      obtain ⟨entry, hentry, others, hothers, rfl⟩ := h
      obtain ⟨hpath, hroot⟩ := classifyRoot_spec hentry
      obtain ⟨hrest, hpaths⟩ := ih hothers
      rw [← hpath] at hrest
      exact ⟨.cons prior entry others hroot hrest, by rw [List.map_cons, hpath, hpaths]⟩

/-- An entry of a runtime root has the roots before it for its prior ones. -/
theorem RootEntries.at {before after : List RemovalEntry}
    (h : RootEntries rt request state prior (before ++ entry :: after)) :
    RootEntry rt request state (prior ++ before.map RemovalEntry.path) entry := by
  induction before generalizing prior with
  | nil =>
    cases h with
    | cons _ _ _ hentry _ => simpa using hentry
  | cons first rest ih =>
    cases h with
    | cons _ _ _ _ hrest => simpa [List.append_assoc] using ih hrest

variable (rt request) in
/-- What the entry of a runtime root says of a root before it. -/
def AfterRoot (earlier : PurePath) (entry : RemovalEntry) : Prop :=
  entry.classification = .coveredRuntimeState ∨ ¬ Overlaps rt earlier entry.path ∨
    Overlaps rt entry.path request.roots.dataRoot

theorem RootEntry.afterRoot (h : RootEntry rt request state prior entry) {earlier : PurePath}
    (hearlier : earlier ∈ prior) : AfterRoot rt request earlier entry := by
  cases h with
  | overlapping hdata => exact .inr (.inr hdata)
  | covered _ _ hclass => exact .inl hclass
  | removable _ hprior => exact .inr (.inl (hprior earlier hearlier))
  | blocked _ hprior => exact .inr (.inl (hprior earlier hearlier))

theorem RootEntries.pairwise {entries : List RemovalEntry}
    (h : RootEntries rt request state prior entries) :
    (∀ earlier ∈ prior, ∀ entry ∈ entries, AfterRoot rt request earlier entry) ∧
      entries.Pairwise fun a b ↦ AfterRoot rt request a.path b := by
  induction h with
  | nil prior => exact ⟨fun _ _ ↦ List.forall_mem_nil _, .nil⟩
  | cons prior entry rest hentry _ ih =>
    obtain ⟨hearlier, hpairwise⟩ := ih
    constructor
    · intro earlier hprior
      exact List.forall_mem_cons.mpr
        ⟨hentry.afterRoot hprior, hearlier earlier (List.mem_append_left _ hprior)⟩
    · exact .cons (hearlier entry.path (List.mem_append_right _ (List.mem_singleton_self _)))
        hpairwise

/-- The candidates among the runtime roots. -/
theorem RootEntries.of_eligible {entries : List RemovalEntry}
    (h : RootEntries rt request state prior entries) (hmem : entry ∈ entries)
    (heligible : entry.eligibleForRemoval = true) :
    state = .stopped ∧ ¬ Overlaps rt entry.path request.roots.dataRoot ∧
      Verified rt request entry.path ∧
      ∃ before after, entries = before ++ entry :: after ∧
        ∀ parent ∈ prior ++ before.map RemovalEntry.path, ¬ Overlaps rt parent entry.path := by
  obtain ⟨before, after, rfl⟩ := List.append_of_mem hmem
  cases h.at with
  | overlapping _ _ hnot => exact absurd (heligible.symm.trans hnot) (by decide)
  | covered _ _ _ hnot => exact absurd (heligible.symm.trans hnot) (by decide)
  | blocked _ _ hnot => exact absurd (heligible.symm.trans hnot) (by decide)
  | removable hapart hprior hstopped hverified _ =>
    exact ⟨hstopped, hapart, hverified, before, after, rfl, hprior⟩

/-- The entries of what the platform manages are apart from what was known, and no candidates. -/
theorem classifyManaged_spec {known paths : List PurePath} {entries : List RemovalEntry}
    (h : classifyManaged rt request known paths = .ok entries) :
    entries.map RemovalEntry.path = paths ∧ ∀ entry ∈ entries,
      entry.Preserved ∧ ∀ other ∈ known, ¬ Overlaps rt entry.path other := by
  induction paths generalizing known entries with
  | nil =>
    cases h
    exact ⟨rfl, List.forall_mem_nil _⟩
  | cons path rest ih =>
    simp only [classifyManaged, bind_eq_ok, require_eq_ok, Except.ok.injEq] at h
    obtain ⟨_, -, _, hapart, entry, hentry, others, hothers, rfl⟩ := h
    obtain ⟨hpaths, hall⟩ := ih hothers
    obtain ⟨rfl, hclass⟩ := verifiedEntry_spec hentry
    refine ⟨by rw [List.map_cons, hpaths], List.forall_mem_cons.mpr ⟨⟨?_, hapart⟩, ?_⟩⟩
    · obtain ⟨-, hclass, hnot⟩ | ⟨-, hclass, hnot⟩ := hclass
      · exact ⟨hnot, hclass ▸ by decide⟩
      · exact ⟨hnot, hclass ▸ by decide⟩
    · intro other hother
      obtain ⟨hpreserved, hknown⟩ := hall other hother
      exact ⟨hpreserved, fun place hplace ↦ hknown place (List.mem_append_left _ hplace)⟩

theorem durableEntries_spec {profileRoot : PurePath} {entries : List RemovalEntry}
    (h : durableEntries request profileRoot = .ok entries) :
    entries.map RemovalEntry.path =
      [request.roots.dataRoot, profileRoot, profileRoot.join ["recovery"]] ∧
    ∀ entry ∈ entries, entry.Preserved := by
  simp only [durableEntries, bind_eq_ok, Except.ok.injEq] at h
  obtain ⟨a, ha, b, hb, c, hc, rfl⟩ := h
  obtain ⟨hpathA, hclassA, hnotA⟩ := create_spec ha
  obtain ⟨hpathB, hclassB, hnotB⟩ := create_spec hb
  obtain ⟨hpathC, hclassC, hnotC⟩ := create_spec hc
  refine ⟨by simp [hpathA, hpathB, hpathC], ?_⟩
  simp only [List.forall_mem_cons, RemovalEntry.Preserved, hclassA, hclassB, hclassC, hnotA, hnotB,
    hnotC]
  decide

end

/-! ### Plans -/

section

variable (rt : RemovalRuntime) (request : RemovalRequest) (result : UninstallPlan)

/-- The parts of a plan. -/
structure PlanParts where
  durable : List RemovalEntry
  runtime : List RemovalEntry
  managed : List RemovalEntry
  state : request.state = some result.runtimeState
  entries : result.entries = durable ++ runtime ++ managed
  durablePaths : durable.map RemovalEntry.path = request.durablePaths rt
  durablePreserved : ∀ entry ∈ durable, entry.Preserved
  roots : RootEntries rt request result.runtimeState [] runtime
  runtimePaths : runtime.map RemovalEntry.path = request.runtimePaths rt
  managedPaths : managed.map RemovalEntry.path = request.platformManagedPaths
  managedApart : ∀ entry ∈ managed, entry.Preserved ∧
    ∀ other ∈ (durable ++ runtime).map RemovalEntry.path, ¬ Overlaps rt entry.path other

variable {rt request result} {path : PurePath} {entry : RemovalEntry}

theorem nonempty_planParts (h : plan rt request = .ok result) :
    Nonempty (PlanParts rt request result) := by
  simp only [plan, bind_eq_ok, orRaise_eq_ok, Except.ok.injEq] at h
  obtain ⟨_, -, text, htext, state, hstate, _, -, _, -, _, -, _, -, durable, hdurable, runtime,
    hruntime, managed, hmanaged, rfl⟩ := h
  obtain ⟨hdurablePaths, hpreserved⟩ := durableEntries_spec hdurable
  obtain ⟨hroots, hruntimePaths⟩ := classifyRoots_spec hruntime
  obtain ⟨hmanagedPaths, hapart⟩ := classifyManaged_spec hmanaged
  exact ⟨durable, runtime, managed, Option.bind_eq_some_iff.mpr ⟨text, htext, hstate⟩, rfl,
    hdurablePaths, hpreserved, hroots, hruntimePaths, hmanagedPaths, hapart⟩

section

variable (parts : PlanParts rt request result)

include parts

theorem mem_runtime_of_candidate (h : entry ∈ result.removalCandidates) :
    entry ∈ parts.runtime ∧ entry.eligibleForRemoval = true := by
  obtain ⟨hmem, heligible⟩ := List.mem_filter.mp h
  rw [parts.entries, List.mem_append, List.mem_append] at hmem
  refine ⟨?_, heligible⟩
  obtain (hmem | hmem) | hmem := hmem
  · exact absurd (heligible.symm.trans (parts.durablePreserved entry hmem).1) (by decide)
  · exact hmem
  · exact absurd (heligible.symm.trans (parts.managedApart entry hmem).1.1) (by decide)

/-- The candidates are the roots that may be removed. -/
theorem removable_iff :
    Removable rt request path ↔ ∃ entry ∈ result.removalCandidates, entry.path = path := by
  constructor
  · rintro ⟨hstopped, hapart, ⟨before, after, hsplit, huncovered⟩, hverified⟩
    rw [← parts.runtimePaths] at hsplit
    obtain ⟨earlier, later, hruntime, rfl, hlater⟩ := List.map_eq_append_iff.mp hsplit
    obtain ⟨entry, rest, rfl, rfl, rfl⟩ := List.map_eq_cons_iff.mp hlater
    have hstate : result.runtimeState = .stopped :=
      Option.some.inj (parts.state.symm.trans hstopped)
    have hroots := parts.roots
    rw [hruntime] at hroots
    have hcandidate (heligible : entry.eligibleForRemoval = true) :
        entry ∈ result.removalCandidates := by
      refine List.mem_filter.mpr ⟨?_, heligible⟩
      rw [parts.entries, hruntime]
      simp
    cases hroots.at with
    | overlapping hdata => exact absurd hdata hapart
    | covered _ hparent =>
      obtain ⟨parent, hparent, hwithin⟩ := hparent
      exact absurd hwithin (huncovered parent (by simpa using hparent))
    | removable _ _ _ _ heligible => exact ⟨entry, hcandidate heligible, rfl⟩
    | blocked _ _ _ hreason => exact absurd ⟨hstate, hverified⟩ hreason
  · rintro ⟨entry, hentry, rfl⟩
    obtain ⟨hmem, heligible⟩ := mem_runtime_of_candidate parts hentry
    obtain ⟨hstopped, hapart, hverified, before, after, hsplit, hprior⟩ :=
      parts.roots.of_eligible hmem heligible
    refine ⟨hstopped ▸ parts.state, hapart, ⟨before.map RemovalEntry.path,
      after.map RemovalEntry.path, ?_, ?_⟩, hverified⟩
    · rw [← parts.runtimePaths, hsplit, List.map_append, List.map_cons]
    · exact fun parent hparent hwithin ↦ hprior parent hparent (.inr hwithin)

theorem exists_preserved (h : IsKept rt request path) :
    ∃ entry ∈ result.entries, entry.Preserved ∧ entry.path = path := by
  cases h with
  | data =>
    have hmem : request.roots.dataRoot ∈ parts.durable.map RemovalEntry.path := by
      rw [parts.durablePaths]
      exact List.mem_cons_self
    obtain ⟨entry, hentry, hpath⟩ := List.mem_map.mp hmem
    refine ⟨entry, ?_, parts.durablePreserved entry hentry, hpath⟩
    rw [parts.entries]
    exact List.mem_append_left _ (List.mem_append_left _ hentry)
  | managed _ hmanaged =>
    rw [← parts.managedPaths] at hmanaged
    obtain ⟨entry, hentry, hpath⟩ := List.mem_map.mp hmanaged
    refine ⟨entry, ?_, (parts.managedApart entry hentry).1, hpath⟩
    rw [parts.entries]
    exact List.mem_append_right _ hentry
  | root _ before after hsplit huncovered hnot =>
    rw [← parts.runtimePaths] at hsplit
    obtain ⟨earlier, later, hruntime, rfl, hlater⟩ := List.map_eq_append_iff.mp hsplit
    obtain ⟨entry, rest, rfl, rfl, rfl⟩ := List.map_eq_cons_iff.mp hlater
    have hroots := parts.roots
    rw [hruntime] at hroots
    have hmem : entry ∈ result.entries := by
      rw [parts.entries, hruntime]
      simp
    refine ⟨entry, hmem, ?_, rfl⟩
    cases hroots.at with
    | overlapping _ hclass hineligible => exact ⟨hineligible, hclass ▸ by decide⟩
    | covered hapart hparent =>
      obtain ⟨parent, hparent, hwithin⟩ := hparent
      rcases huncovered with hdata | huncovered
      · exact absurd hdata hapart
      · exact absurd hwithin (huncovered parent (by simpa using hparent))
    | removable _ _ _ _ heligible =>
      exact absurd ((removable_iff parts).mpr ⟨entry, List.mem_filter.mpr ⟨hmem, heligible⟩, rfl⟩) hnot
    | blocked _ _ hineligible _ hclass => exact ⟨hineligible, hclass⟩

/-- An entry that preserves a runtime root is of one that is kept. -/
theorem isKept_of_runtime (hmem : entry ∈ parts.runtime) (hpreserved : entry.Preserved) :
    IsKept rt request entry.path := by
  obtain ⟨before, after, hsplit⟩ := List.append_of_mem hmem
  have hroots := parts.roots
  rw [hsplit] at hroots
  have hpaths : request.runtimePaths rt =
      before.map RemovalEntry.path ++ entry.path :: after.map RemovalEntry.path := by
    rw [← parts.runtimePaths, hsplit, List.map_append, List.map_cons]
  cases hroots.at with
  | overlapping hdata => exact .root _ _ _ hpaths (.inl hdata) fun hremovable ↦ hremovable.apart hdata
  | covered _ _ hclass => exact absurd hclass hpreserved.2
  | removable _ _ _ _ heligible => exact absurd (heligible.symm.trans hpreserved.1) (by decide)
  | blocked _ hprior _ hreason =>
    refine .root _ _ _ hpaths (.inr fun parent hparent hwithin ↦ ?_) fun hremovable ↦ hreason ?_
    · exact hprior parent hparent (.inr hwithin)
    · exact ⟨Option.some.inj (parts.state.symm.trans hremovable.stopped), hremovable.verified⟩

omit parts in
/-- What is retained by default is in the data root. -/
theorem prefix_of_durablePaths (h : path ∈ request.durablePaths rt) :
    pathKey rt request.roots.dataRoot <+: pathKey rt path := by
  have hjoin (parent : PurePath) (names : List String) :
      pathKey rt parent <+: pathKey rt (parent.join names) := by
    unfold pathKey PurePath.join
    cases parent.flavour with
    | posix => exact List.prefix_append _ _
    | windows => exact List.map_append ▸ List.prefix_append _ _
  simp only [RemovalRequest.durablePaths, List.mem_cons, List.not_mem_nil, or_false] at h
  obtain rfl | rfl | rfl := h
  · exact List.prefix_rfl
  · exact hjoin _ _
  · exact (hjoin _ _).trans (hjoin _ _)

/-- Something at or under a place is removed when the place, or where evidence leads it, overlaps a root
that may be removed. -/
theorem exists_removes_iff : (∃ x, pathKey rt path <+: x ∧ Removes rt request result x) ↔
    ∃ root, Removable rt request root ∧ (Overlaps rt path root ∨
      ∃ item ∈ request.pathEvidence,
        ∃ moved ∈ image (pathKey rt item.declaredPath) (pathKey rt item.resolvedPath)
          (pathKey rt path), Overlap moved (pathKey rt root)) := by
  simp only [removable_iff parts, Removes, LeadsTo, Overlaps, overlap_iff_exists (p := pathKey rt path)]
  constructor
  · rintro ⟨x, hx, entry, hentry, y, rfl | ⟨item, hitem, hleads⟩, hy⟩
    · exact ⟨entry.path, ⟨entry, hentry, rfl⟩, .inl ⟨y, hx, hy⟩⟩
    · exact ⟨entry.path, ⟨entry, hentry, rfl⟩,
        .inr ⟨item, hitem, exists_leads_within_iff.mp ⟨x, y, hx, hleads, hy⟩⟩⟩
  · rintro ⟨_, ⟨entry, hentry, rfl⟩, ⟨x, hx, hroot⟩ | ⟨item, hitem, hmoved⟩⟩
    · exact ⟨x, hx, entry, hentry, x, .inl rfl, hroot⟩
    · obtain ⟨x, y, hx, hleads, hy⟩ := exists_leads_within_iff.mpr hmoved
      exact ⟨x, hx, entry, hentry, y, .inr ⟨item, hitem, hleads⟩, hy⟩

/-- Two entries of runtime roots are apart, unless one is covered or overlaps the data root. -/
theorem afterRoot_of_ne {other : RemovalEntry} (hentry : entry ∈ parts.runtime)
    (hother : other ∈ parts.runtime) (hne : entry ≠ other) :
    AfterRoot rt request entry.path other ∨ AfterRoot rt request other.path entry := by
  have hpairwise : parts.runtime.Pairwise fun a b ↦
      AfterRoot rt request a.path b ∨ AfterRoot rt request b.path a :=
    parts.roots.pairwise.2.imp .inl
  have hsymm : Std.Symm fun a b : RemovalEntry ↦
      AfterRoot rt request a.path b ∨ AfterRoot rt request b.path a := ⟨fun _ _ h ↦ h.symm⟩
  exact hpairwise.forall hentry hother hne

/-- A root that may be removed overlaps what is kept only within a root that overlaps the data root. -/
theorem not_overlaps_of_keepsApart {root : PurePath}
    (hroots : ∀ other ∈ request.runtimePaths rt, Overlaps rt other request.roots.dataRoot →
      ¬ IsSameOrWithin rt root other)
    (hremovable : Removable rt request root) (hkept : IsKept rt request path) :
    ¬ Overlaps rt path root := by
  obtain ⟨candidate, hcandidate, rfl⟩ := (removable_iff parts).mp hremovable
  obtain ⟨hruntime, heligible⟩ := mem_runtime_of_candidate parts hcandidate
  obtain ⟨entry, hentry, hpreserved, rfl⟩ := exists_preserved parts hkept
  rw [parts.entries, List.mem_append, List.mem_append] at hentry
  have hne : entry ≠ candidate := fun heq ↦
    absurd (heligible.symm.trans (heq ▸ hpreserved.1)) (by decide)
  obtain (hentry | hentry) | hentry := hentry
  · -- what is retained by default lies in the data root, from which candidates are apart
    have hpath : entry.path ∈ request.durablePaths rt :=
      parts.durablePaths ▸ List.mem_map_of_mem hentry
    exact fun h ↦ hremovable.apart (overlap_of_within (prefix_of_durablePaths hpath) h).symm
  · rcases afterRoot_of_ne parts hentry hruntime hne with (hcovered | hapart | hdata) |
      (hcovered | hapart | hdata)
    · exact absurd ((candidate.candidate heligible).symm.trans hcovered) (by decide)
    · exact hapart
    · exact absurd hdata hremovable.apart
    · exact absurd hcovered hpreserved.2
    · exact fun h ↦ hapart h.symm
    · have hmem : entry.path ∈ request.runtimePaths rt :=
        parts.runtimePaths ▸ List.mem_map_of_mem hentry
      rintro (h | h)
      · exact hremovable.apart (overlap_of_within h hdata)
      · exact hroots _ hmem hdata h
  · exact (parts.managedApart entry hentry).2 _
      (List.mem_map_of_mem (List.mem_append_right _ hruntime))

theorem pairwise_candidates : result.removalCandidates.Pairwise fun a b ↦
    ¬ Overlaps rt a.path b.path := by
  have hnone : ∀ entries : List RemovalEntry, (∀ entry ∈ entries, entry.Preserved) →
      entries.filter RemovalEntry.eligibleForRemoval = [] := by
    intro entries hall
    rw [List.filter_eq_nil_iff]
    exact fun entry hentry ↦ by rw [(hall entry hentry).1]; decide
  rw [UninstallPlan.removalCandidates, parts.entries, List.filter_append, List.filter_append,
    hnone _ parts.durablePreserved, hnone _ fun entry hentry ↦ (parts.managedApart entry hentry).1,
    List.nil_append, List.append_nil]
  refine List.Pairwise.imp_of_mem (fun {a b} ha hb hafter ↦ ?_)
    (parts.roots.pairwise.2.filter RemovalEntry.eligibleForRemoval)
  obtain ⟨hmem, heligible⟩ := List.mem_filter.mp hb
  obtain ⟨-, hapart, -⟩ := parts.roots.of_eligible hmem heligible
  rcases hafter with hcovered | hafter | hdata
  · exact absurd ((b.candidate heligible).symm.trans hcovered) (by decide)
  · exact hafter
  · exact absurd hdata hapart

/-- What is kept is safe when nothing at or under it is removed. -/
theorem safe_iff_kept : RemovalSafe rt request result ↔
    ∀ place, IsKept rt request place → ∀ x, pathKey rt place <+: x →
      ¬ Removes rt request result x := by
  constructor
  · intro hsafe place hkept x hx
    obtain ⟨entry, hentry, hpreserved, rfl⟩ := exists_preserved parts hkept
    exact hsafe.preserved entry hentry hpreserved x hx
  · intro hkept
    have hdurable : ∀ path ∈ request.durablePaths rt, ∀ x, pathKey rt path <+: x →
        ¬ Removes rt request result x := fun path hpath x hx ↦
      hkept _ .data x ((prefix_of_durablePaths hpath).trans hx)
    constructor
    · intro hsome
      obtain ⟨entry, hentry⟩ := List.exists_mem_of_ne_nil _ hsome
      obtain ⟨hmem, heligible⟩ := mem_runtime_of_candidate parts hentry
      exact (parts.roots.of_eligible hmem heligible).1
    · intro entry hentry
      obtain ⟨hmem, heligible⟩ := mem_runtime_of_candidate parts hentry
      exact (parts.roots.of_eligible hmem heligible).2.2.1
    · exact pairwise_candidates parts
    · exact hdurable
    · intro entry hentry hpreserved
      rw [parts.entries, List.mem_append, List.mem_append] at hentry
      obtain (hentry | hentry) | hentry := hentry
      · exact hdurable _ (parts.durablePaths ▸ List.mem_map_of_mem hentry)
      · exact hkept _ (isKept_of_runtime parts hentry hpreserved)
      · exact hkept _ (.managed _ (parts.managedPaths ▸ List.mem_map_of_mem hentry))

end

end

/-! ### A state root around the data root -/

/-- A runtime whose case mappings are those of ASCII, but for one letter. -/
def asciiRuntime : RemovalRuntime where
  table := CaseTable.dottedTable
  casefold := CaseTable.dottedTable.lower

/-- A path under the home of an artist. -/
def homePath (names : List String) : PurePath := ⟨.posix, true, ["/", "home", "ana"] ++ names⟩

/-- The roots of an artist whose data and configuration are in the state of the application. -/
def nestedRoots : PlatformRoots where
  osFamily := .linux
  dataRoot := homePath ["N0TE", "N0TE"]
  configRoot := homePath ["N0TE", "config", "N0TE"]
  stateRoot := homePath ["N0TE"]
  cacheRoot := homePath [".cache", "N0TE"]
  logRoot := homePath ["N0TE", "logs"]
  typed := by decide

def configEvidence : ResolvedPathEvidence where
  declaredPath := nestedRoots.configRoot
  resolvedPath := nestedRoots.configRoot
  isSymlink := false
  evidenceRef := ⟨"path:config", by decide +kernel, by decide⟩
  sameType := rfl
  absolute := ⟨rfl, rfl⟩
  noTraversal := by decide

/-- The artist asks for a plan. -/
def nestedRequest : RemovalRequest where
  roots := nestedRoots
  profileId := "prf_aaaaaaaaaaaaaaaaaaaaaaaaaaaaaaaa"
  runtimeState := "STOPPED"
  pathEvidence := [configEvidence]
  platformManagedPaths := []

/-- An entry is made of a reason that is not blank. -/
theorem exists_create {path : PurePath} {classification : RemovalClass} {reason : String}
    {eligible : Bool} {evidenceRef : Option Line} {c : Char} (hc : c ∈ reason.toList)
    (hspace : isSpace c = false)
    (hcandidate : eligible = true → classification = .removableRuntimeState) :
    ∃ entry, RemovalEntry.create path classification reason eligible evidenceRef = .ok entry := by
  have hreason : collapse reason ≠ "" := by
    intro hblank
    have hspaces := collapse_eq_empty.mp hblank c hc
    rw [hspace] at hspaces
    exact absurd hspaces (by decide)
  simp only [RemovalEntry.create, bind_eq_ok, orRaise_eq_ok]
  exact ⟨_, ⟨collapse reason, collapse_collapse _, hreason⟩,
    Line.ofString_eq_some.mpr ⟨rfl, hreason⟩, _, ensure_of hcandidate, rfl⟩

/-- A runtime root has an entry when it contains none before it, or
overlaps the data root, and its evidence is not doubled. -/
theorem exists_classifyRoot {rt : RemovalRuntime} {request : RemovalRequest} {state : RuntimeState}
    {prior : List PurePath} {name : String} {path : PurePath} {c : Char} (hc : c ∈ name.toList)
    (hspace : isSpace c = false)
    (hprior : Overlaps rt path request.roots.dataRoot ∨
      ∀ parent ∈ prior, ¬ IsSameOrWithin rt parent path)
    (hevidence : ∃ found, evidenceFor rt path request.pathEvidence = .ok found) :
    ∃ entry, classifyRoot rt request state prior name path = .ok entry := by
  have hmem {text : String} : c ∈ (name ++ text).toList := mem_toList_append hc
  unfold classifyRoot
  by_cases hdata : Overlaps rt path request.roots.dataRoot
  · rw [if_pos hdata]
    exact exists_create hmem hspace (by simp)
  · rw [if_neg hdata]
    split
    · exact exists_create (mem_toList_append (mem_toList_append hmem)) hspace (by simp)
    · refine exists_bind (exists_require (hprior.resolve_left hdata)) fun _ _ ↦ ?_
      by_cases hstopped : state = .stopped
      · rw [if_neg (not_not.mpr hstopped)]
        refine exists_bind hevidence fun found _ ↦ ?_
        cases found with
        | none => exact exists_create hmem hspace (by simp)
        | some item =>
          show ∃ entry, (if item.Canonical rt then _ else _) = Except.ok entry
          by_cases hcanonical : item.Canonical rt
          · rw [if_pos hcanonical]
            exact exists_create (mem_toList_append hmem) hspace (by simp)
          · rw [if_neg hcanonical]
            exact exists_create hmem hspace (by simp)
      · rw [if_pos hstopped]
        exact exists_create hmem hspace (by simp)

/-- The runtime roots have entries when each new one has, after the new ones before it. -/
theorem exists_classifyRoots_cons {rt : RemovalRuntime} {request : RemovalRequest}
    {state : RuntimeState} {seen : List (List String)} {prior : List PurePath} {name : String}
    {path : PurePath} {rest : List (String × PurePath)} {c : Char} (hc : c ∈ name.toList)
    (hspace : isSpace c = false) (hpath : validatePath request.roots path name = .ok ())
    (hprior : Overlaps rt path request.roots.dataRoot ∨
      ∀ parent ∈ prior, ¬ IsSameOrWithin rt parent path)
    (hevidence : ∃ found, evidenceFor rt path request.pathEvidence = .ok found)
    (hnew : pathKey rt path ∉ seen)
    (hrest : ∃ entries, classifyRoots rt request state (pathKey rt path :: seen) (prior ++ [path])
      rest = .ok entries) :
    ∃ entries, classifyRoots rt request state seen prior ((name, path) :: rest) = .ok entries := by
  refine exists_bind ⟨(), hpath⟩ fun _ _ ↦ ?_
  rw [if_neg hnew]
  exact exists_bind (exists_classifyRoot hc hspace hprior hevidence) fun _ _ ↦
    exists_bind hrest fun _ _ ↦ ⟨_, rfl⟩

/-- What is retained by default always has its entries. -/
theorem exists_durableEntries (request : RemovalRequest) (profileRoot : PurePath) :
    ∃ entries, durableEntries request profileRoot = .ok entries := by
  have hletter : isSpace 'a' = false := by decide
  refine exists_bind (exists_create (mem_toList_append (mem_toList_ofList 'a' _)) hletter
    (by simp)) fun _ _ ↦ ?_
  refine exists_bind (exists_create (mem_toList_ofList 'c' _) (by decide) (by simp)) fun _ _ ↦ ?_
  refine exists_bind (exists_create (mem_toList_ofList 'r' _) (by decide) (by simp)) fun _ _ ↦ ?_
  exact ⟨_, rfl⟩

theorem exists_nestedRoots {seen : List (List String)}
    (hseen : ∀ path ∈ [nestedRoots.configRoot, nestedRoots.stateRoot, nestedRoots.cacheRoot,
      nestedRoots.logRoot], pathKey asciiRuntime path ∉ seen) :
    ∃ entries, classifyRoots asciiRuntime nestedRequest .stopped seen []
      (runtimeRoots nestedRoots) = .ok entries := by
  have hletter : isSpace 'c' = false := by decide
  simp only [List.forall_mem_cons] at hseen
  obtain ⟨hconfig, hstate, hcache, hlog, -⟩ := hseen
  refine exists_classifyRoots_cons (mem_toList_ofList 'c' _) hletter rfl
    (.inr (List.forall_mem_nil _)) ⟨_, rfl⟩ hconfig ?_
  refine exists_classifyRoots_cons (mem_toList_ofList 's' _) (by decide) rfl (.inl (by decide)) ⟨_, rfl⟩
    (List.not_mem_cons_of_ne_of_not_mem (by decide) hstate) ?_
  refine exists_classifyRoots_cons (mem_toList_ofList 'c' _) hletter rfl (.inr (by decide)) ⟨_, rfl⟩
    (List.not_mem_cons_of_ne_of_not_mem (by decide)
      (List.not_mem_cons_of_ne_of_not_mem (by decide) hcache)) ?_
  refine exists_classifyRoots_cons (mem_toList_ofList 'l' _) (by decide) rfl (.inr (by decide)) ⟨_, rfl⟩
    (List.not_mem_cons_of_ne_of_not_mem (by decide) (List.not_mem_cons_of_ne_of_not_mem (by decide)
      (List.not_mem_cons_of_ne_of_not_mem (by decide) hlog))) ?_
  exact ⟨[], rfl⟩

theorem exists_nestedPlan : ∃ result, plan asciiRuntime nestedRequest = .ok result := by
  have hprofile : isProfileId (asciiRuntime.table.lower (strip nestedRequest.profileId)) = true := by
    decide +kernel
  have hstate : Line.ofString nestedRequest.runtimeState =
      some ⟨"STOPPED", by decide +kernel, by decide⟩ := by decide +kernel
  refine exists_bind (exists_require hprofile) fun _ _ ↦ ?_
  rw [hstate]
  refine exists_bind ⟨_, rfl⟩ fun _ hline ↦ ?_
  obtain rfl := Except.ok.inj hline
  refine exists_bind ⟨.stopped, by decide +kernel⟩ fun state hstopped ↦ ?_
  have hsame : orRaise (RuntimeState.ofName (upper "STOPPED"))
      (⟨"unsupported runtime_state: " ++ upper "STOPPED"⟩ : PlanError) = .ok .stopped := by
    decide +kernel
  obtain rfl := Except.ok.inj (hstopped.symm.trans hsame)
  refine exists_bind ⟨(), rfl⟩ fun _ _ ↦ exists_bind ⟨(), rfl⟩ fun _ _ ↦
    exists_bind ⟨(), by decide +kernel⟩ fun _ _ ↦ exists_bind ⟨(), by decide +kernel⟩ fun _ _ ↦
    exists_bind (exists_durableEntries _ _) fun _ _ ↦
    exists_bind (exists_nestedRoots ?_) fun _ _ ↦ exists_bind ⟨[], rfl⟩ fun _ _ ↦ ⟨_, rfl⟩
  decide +kernel

end N0te.Uninstall
