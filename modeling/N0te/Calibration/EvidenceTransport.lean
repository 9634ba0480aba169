import N0te.Calibration.EvidenceBundle
import N0te.Library.DigestTable

/-!
# Transport of session evidence

The coordinator reads the bundle of a session exactly when every text in it is one that it takes
(`SessionEvidence.Sendable`), and it reads the evidence with its texts in a normal form
(`sessionEvidence_json`). What is derived from that is what was derived, unless the normal form
shows something new (`derive_received`).

No fingerprint covers a bundle as a whole: the two that it has are of the host runtime, so that a
bundle that is read with one of them is of a runtime with its key (`key_eq_of_read`), and may be
altered elsewhere.

Assumes: no two texts have one digest.
-/

set_option autoImplicit false
set_option relaxedAutoImplicit false

namespace N0te.Calibration

open Library Hosts

/-! ### Texts and objects -/

theorem strictObject_eq_ok {raw : Json} {field : String} {allowed required : List String} :
    strictObject raw field allowed required = .ok () ↔
      raw.isObj = true ∧ raw.keys ⊆ allowed ∧ required ⊆ raw.keys := by
  have hempty (l : List String) : rankBy id l = [] ↔ l = [] := by
    rw [← List.length_eq_zero_iff, length_rankBy, List.length_eq_zero_iff]
  simp only [strictObject, bind_eq_ok, require_eq_ok, hempty, List.filter_eq_nil_iff,
    decide_not, Bool.not_eq_true', decide_eq_false_iff_not, not_not, exists_const, List.subset_def]

/-- An object with all of the fields that it may have. -/
theorem strictObject_self {raw : Json} {field : String} {allowed required : List String}
    (hobj : raw.isObj = true) (hkeys : raw.keys = allowed) (h : required ⊆ allowed) :
    strictObject raw field allowed required = .ok () :=
  strictObject_eq_ok.mpr ⟨hobj, hkeys ▸ List.Subset.refl _, hkeys ▸ h⟩

theorem requiredText_str {s field : String} {text : Text} :
    requiredText (.str s) field = .ok text ↔ strip s = text.val := by
  rw [requiredText, orRaise_eq_ok, Text.ofString_eq_some, and_iff_left_iff_imp]
  exact fun h ↦ h ▸ text.nonempty

theorem requiredText_val (text : Text) (field : String) :
    requiredText (.str text.val) field = .ok text := requiredText_str.mpr text.stripped

theorem optionalText_ofOption {value : Option String} {field : String} {text : Option Text} :
    optionalText (.ofOption value) field = .ok text ↔ value.map strip = text.map Text.val := by
  cases value with
  | none =>
    show Except.ok none = .ok text ↔ none = text.map Text.val
    cases text <;> simp
  | some s =>
    show some <$> requiredText (.str s) field = .ok text ↔ some (strip s) = text.map Text.val
    rw [map_eq_ok]
    constructor
    · rintro ⟨stripped, hs, rfl⟩
      exact congrArg some (requiredText_str.mp hs)
    · intro h
      obtain ⟨stripped, rfl, hs⟩ := Option.map_eq_some_iff.mp h.symm
      exact ⟨stripped, requiredText_str.mpr hs.symm, rfl⟩

theorem optionalText_val (text : Option Text) (field : String) :
    optionalText (.ofOption (text.map Text.val)) field = .ok text := by
  rw [optionalText_ofOption, Option.map_map]
  cases text with
  | none => rfl
  | some text => exact congrArg some text.stripped

/-! ### Facts -/

/-- A fact that the coordinator reads. -/
structure ShadowFact.Sendable (fact : ShadowFact) : Prop where
  kind : upper (strip fact.objectKind) ∈ shadowObjectKinds
  actor : upper (strip fact.actor) ∈ shadowActors
  objectRef : strip fact.objectRef ≠ ""
  field : strip fact.field ≠ ""
  batchId : strip fact.batchId ≠ ""
  evidenceRef : strip fact.evidenceRef ≠ ""

/-- A fact as the coordinator reads it. -/
def ShadowFact.received (fact : ShadowFact) : ShadowFact where
  objectKind := upper (strip fact.objectKind)
  objectRef := strip fact.objectRef
  field := strip fact.field
  value := fact.value
  batchId := strip fact.batchId
  actor := upper (strip fact.actor)
  evidenceRef := strip fact.evidenceRef

def textOf (s : String) (h : strip s ≠ "") : Text := ⟨strip s, strip_strip s, h⟩

theorem requiredText_textOf {s : String} (h : strip s ≠ "") (field : String) :
    requiredText (.str s) field = .ok (textOf s h) := requiredText_str.mpr rfl

/-- What has a member of a list without the empty name in upper case is not blank. -/
theorem strip_ne_of_upper_mem {s : String} {names : List String} (h : upper (strip s) ∈ names)
    (hnames : "" ∉ names) : strip s ≠ "" := by
  intro hblank
  rw [hblank] at h
  exact hnames h

theorem shadowFact_json {fact other : ShadowFact} {index : ℕ} :
    shadowFact index fact.json = .ok other ↔ fact.Sendable ∧ other = fact.received := by
  have hobject : strictObject fact.json ("session.shadow.facts[" ++ toString index ++ "]")
      factFields factFields = .ok () := strictObject_self rfl rfl (List.Subset.refl _)
  simp only [shadowFact, bind_eq_ok, require_eq_ok, pure_eq_ok, hobject]
  constructor
  · rintro ⟨_, -, kind, hkind, actor, hactor, _, hkinds, _, hactors, objectRef, hobjectRef, field,
      hfield, batchId, hbatchId, evidenceRef, hevidenceRef, rfl⟩
    replace hkind := requiredText_str.mp hkind
    replace hactor := requiredText_str.mp hactor
    replace hobjectRef := requiredText_str.mp hobjectRef
    replace hfield := requiredText_str.mp hfield
    replace hbatchId := requiredText_str.mp hbatchId
    replace hevidenceRef := requiredText_str.mp hevidenceRef
    rw [ShadowFact.received, hkind, hactor, hobjectRef, hfield, hbatchId, hevidenceRef]
    refine ⟨⟨?_, ?_, ?_, ?_, ?_, ?_⟩, rfl⟩
    · rwa [hkind]
    · rwa [hactor]
    · exact hobjectRef ▸ objectRef.nonempty
    · exact hfield ▸ field.nonempty
    · exact hbatchId ▸ batchId.nonempty
    · exact hevidenceRef ▸ evidenceRef.nonempty
  · rintro ⟨h, rfl⟩
    have hkind := strip_ne_of_upper_mem h.kind (by decide)
    have hactor := strip_ne_of_upper_mem h.actor (by decide)
    exact ⟨(), trivial, _, requiredText_textOf hkind _, _, requiredText_textOf hactor _, (), h.kind,
      (), h.actor, _, requiredText_textOf h.objectRef _, _, requiredText_textOf h.field _, _,
      requiredText_textOf h.batchId _, _, requiredText_textOf h.evidenceRef _, rfl⟩

/-! ### Shadows -/

/-- A shadow that the coordinator reads, if it is current and bound. -/
structure HostShadowState.Sendable (shadow : HostShadowState) : Prop where
  baseline : ∀ id ∈ shadow.baselineBatchId, strip id ≠ ""
  latest : ∀ id ∈ shadow.latestBatchId, strip id ≠ ""
  facts : ∀ fact ∈ shadow.facts, fact.Sendable

/-- A current and bound shadow as the coordinator reads it. -/
def HostShadowState.received (shadow : HostShadowState) : HostShadowState where
  status := shadow.status
  workspaceId := shadow.workspaceId
  currentWorkspaceObservationId := shadow.currentWorkspaceObservationId
  baselineBatchId := shadow.baselineBatchId.map strip
  latestBatchId := shadow.latestBatchId.map strip
  facts := shadow.facts.map ShadowFact.received

theorem exists_optionalText {value : Option String} {field : String} :
    (∃ text, optionalText (.ofOption value) field = .ok text) ↔ ∀ s ∈ value, strip s ≠ "" := by
  simp only [optionalText_ofOption]
  cases value with
  | none => exact iff_of_true ⟨none, rfl⟩ nofun
  | some s =>
    constructor
    · rintro ⟨text, htext⟩ other hother
      obtain rfl := Option.mem_some_iff.mp hother
      obtain ⟨stripped, -, hs⟩ := Option.map_eq_some_iff.mp htext.symm
      exact hs ▸ stripped.nonempty
    · exact fun h ↦ ⟨some (textOf s (h s rfl)), rfl⟩

/-- The status that a shadow must have. -/
def currentStatus : Text := ⟨"CURRENT", by decide, by decide⟩

theorem sessionShadow_json {shadow other : HostShadowState} {workspaceId observation : Text}
    (hstatus : shadow.status = "CURRENT") (hworkspace : shadow.workspaceId = workspaceId.val)
    (hobservation : shadow.currentWorkspaceObservationId = observation.val) :
    sessionShadow shadow.json = .ok other ↔ shadow.Sendable ∧ other = shadow.received := by
  have hobject : strictObject shadow.json "session.shadow" shadowFields shadowFields = .ok () :=
    strictObject_self rfl rfl (List.Subset.refl _)
  have hread (key s field : String) (text : Text) (hget : shadow.json.get key = .str s)
      (hs : s = text.val) : requiredText (shadow.json.get key) field = .ok text := by
    rw [hget, hs, requiredText_val]
  have hcurrent := hread "status" _ "shadow.status" currentStatus rfl hstatus
  have hbound := hread "workspace_id" _ "shadow.workspace_id" workspaceId rfl hworkspace
  have hfresh := hread "current_workspace_observation_id" _
    "shadow.current_workspace_observation_id" observation rfl hobservation
  have hfacts {result : List ShadowFact} :
      checkEach shadowFact 0 (shadow.facts.map ShadowFact.json) = .ok result ↔
        (∀ fact ∈ shadow.facts, fact.Sendable) ∧ result = shadow.facts.map ShadowFact.received :=
    checkEach_map_iff fun _ _ _ ↦ shadowFact_json
  have hitems : factItems (shadow.json.get "facts") =
      .ok (shadow.facts.map ShadowFact.json) := rfl
  have hupper : upper currentStatus.val = shadow.status := by
    rw [hstatus]
    decide
  simp only [sessionShadow, bind_eq_ok, pure_eq_ok, hobject, hcurrent, hbound, hfresh, hitems,
    Except.ok.injEq, exists_eq_left', hfacts, exists_const]
  constructor
  · rintro ⟨-, baseline, hbaseline, latest, hlatest, _, ⟨hsendable, rfl⟩, rfl⟩
    refine ⟨⟨exists_optionalText.mp ⟨_, hbaseline⟩, exists_optionalText.mp ⟨_, hlatest⟩,
      hsendable⟩, ?_⟩
    rw [HostShadowState.received, hupper, hworkspace, hobservation,
      optionalText_ofOption.mp hbaseline, optionalText_ofOption.mp hlatest]
  · rintro ⟨h, rfl⟩
    obtain ⟨baseline, hbaseline⟩ := exists_optionalText.mpr h.baseline
    obtain ⟨latest, hlatest⟩ := exists_optionalText.mpr h.latest
    refine ⟨trivial, baseline, hbaseline, latest, hlatest, _, ⟨h.facts, rfl⟩, ?_⟩
    rw [HostShadowState.received, hupper, hworkspace, hobservation,
      optionalText_ofOption.mp hbaseline, optionalText_ofOption.mp hlatest]

section

variable {rt : EvidenceRuntime}

/-! ### Reports -/

/-- A report that the coordinator reads. -/
structure EngineeringSnapshot.Sendable (snapshot : EngineeringSnapshot rt) : Prop where
  analyzer : strip snapshot.analyzerVersion ≠ ""
  state : strip snapshot.loudnessState ≠ ""
  standard : strip snapshot.loudnessStandard ≠ ""
  backend : strip snapshot.loudnessBackend ≠ ""

theorem isDigest_strip {sha256 : String} (h : IsDigest rt sha256) : IsDigest rt (strip sha256) := by
  rwa [IsDigest, strip_strip]

/-- What a report is about, as the coordinator reads it. -/
def EngineeringEvidenceBinding.received (binding : EngineeringEvidenceBinding rt) :
    EngineeringEvidenceBinding rt where
  songId := strip binding.songId
  versionId := strip binding.versionId
  assetId := strip binding.assetId
  sha256 := strip binding.sha256
  sourceSizeBytes := binding.sourceSizeBytes
  named := by simpa only [strip_strip] using binding.named
  digest := isDigest_strip binding.digest
  positive := binding.positive

/-- A report as the coordinator reads it. -/
def EngineeringSnapshot.received (snapshot : EngineeringSnapshot rt) : EngineeringSnapshot rt :=
  { snapshot with
    binding := snapshot.binding.received
    analyzerVersion := strip snapshot.analyzerVersion
    loudnessState := strip snapshot.loudnessState
    loudnessStandard := strip snapshot.loudnessStandard
    loudnessBackend := strip snapshot.loudnessBackend }

/-- A text that is a digest is not blank. -/
theorem strip_ne_of_isDigest {sha256 : String} (h : IsDigest rt sha256) : strip sha256 ≠ "" := by
  intro hblank
  obtain ⟨hlength, -⟩ := h
  rw [hblank] at hlength
  cases hlength

theorem EngineeringEvidenceBinding.new_received (binding : EngineeringEvidenceBinding rt) :
    new rt (textOf _ binding.named.1) (textOf _ binding.named.2.1) (textOf _ binding.named.2.2)
      (textOf _ (strip_ne_of_isDigest binding.digest)) binding.sourceSizeBytes =
        .ok binding.received := by
  simp only [new, bind_eq_ok, pure_eq_ok]
  exact ⟨_, ensure_of (isDigest_strip binding.digest), _, ensure_of binding.positive, rfl⟩

theorem readSnapshot_json {snapshot other : EngineeringSnapshot rt} :
    readSnapshot rt snapshot.json = .ok other ↔ snapshot.Sendable ∧ other = snapshot.received := by
  have hobject : strictObject snapshot.json "session.engineering_snapshot" snapshotFields
      snapshotFields = .ok () := strictObject_self rfl rfl (List.Subset.refl _)
  have habout : strictObject (snapshot.json.get "binding") "session.engineering_snapshot.binding"
      evidenceFields evidenceFields = .ok () := strictObject_self rfl rfl (List.Subset.refl _)
  have hbinding := snapshot.binding.new_received
  have hread (key s field : String) (hs : strip s ≠ "")
      (hget : (snapshot.json.get "binding").get key = .str s) :
      requiredText ((snapshot.json.get "binding").get key) field = .ok (textOf s hs) := by
    rw [hget, requiredText_textOf]
  simp only [readSnapshot, bind_eq_ok, pure_eq_ok, hobject, habout,
    hread "song_id" _ _ snapshot.binding.named.1 rfl,
    hread "version_id" _ _ snapshot.binding.named.2.1 rfl,
    hread "asset_id" _ _ snapshot.binding.named.2.2 rfl,
    hread "sha256" _ _ (strip_ne_of_isDigest snapshot.binding.digest) rfl,
    Except.ok.injEq, exists_eq_left', exists_const]
  constructor
  · rintro ⟨-, -, binding, hnew, analyzer, hanalyzer, state, hstate, standard, hstandard, backend,
      hbackend, rfl⟩
    obtain rfl := Except.ok.inj (hbinding.symm.trans hnew)
    replace hanalyzer := requiredText_str.mp hanalyzer
    replace hstate := requiredText_str.mp hstate
    replace hstandard := requiredText_str.mp hstandard
    replace hbackend := requiredText_str.mp hbackend
    refine ⟨⟨hanalyzer ▸ analyzer.nonempty, hstate ▸ state.nonempty, hstandard ▸ standard.nonempty,
      hbackend ▸ backend.nonempty⟩, ?_⟩
    rw [EngineeringSnapshot.received, hanalyzer, hstate, hstandard, hbackend]
    rfl
  · rintro ⟨h, rfl⟩
    exact ⟨trivial, trivial, _, hbinding, _, requiredText_textOf h.analyzer _, _,
      requiredText_textOf h.state _, _, requiredText_textOf h.standard _, _,
      requiredText_textOf h.backend _, rfl⟩

/-! ### Bindings -/

theorem strip_familyName (family : HostFamily) :
    strip family.name = family.name ∧ family.name ≠ "" := by
  cases family <;> decide

theorem strip_modeName (mode : TranslationMode) :
    strip mode.name = mode.name ∧ mode.name ≠ "" := by
  cases mode <;> decide

theorem optionalText_lines (value : Option Line) (field : String) :
    optionalText (.ofOption (value.map Line.val)) field = .ok (value.map Line.text) := by
  rw [optionalText_ofOption]
  cases value with
  | none => rfl
  | some value => exact congrArg some value.text.stripped

/-- The labels of a runtime, of texts that were read. -/
theorem labels_eq (runtime : HostRuntimeIdentity) :
    runtime.labels = {
      hostFamily := runtime.family.name
      version := runtime.version.val
      edition := runtime.edition.text.val
      osName := runtime.platform.rawOsName.val
      machine := runtime.platform.rawMachine.val
      translationMode := runtime.translationMode.name
      displayName := (runtime.displayName.map Line.text).map Text.val
      genericHostLabel := (runtime.genericHostLabel.map Line.text).map Text.val } := by
  rw [Option.map_map, Option.map_map]
  rfl

/-- A runtime is read as the one on the platform that its labels name, if the fingerprints agree. -/
theorem runtimeIdentity_json {runtime other : HostRuntimeIdentity} {fingerprint : Text}
    (hfingerprint : runtime.fingerprint rt.toTextRuntime = fingerprint.val) :
    runtimeIdentity rt (runtimeJson rt runtime) = .ok other ↔
      (runtime.relabelled rt.toTextRuntime).fingerprint rt.toTextRuntime = fingerprint.val ∧
        other = runtime.relabelled rt.toTextRuntime := by
  obtain ⟨hfamily, hfamilyNe⟩ := strip_familyName runtime.family
  obtain ⟨hmode, hmodeNe⟩ := strip_modeName runtime.translationMode
  have hobject : strictObject (runtimeJson rt runtime) "session.binding.runtime" runtimeFields
      ["host_family", "version", "edition", "os_name", "machine"] = .ok () :=
    strictObject_self rfl rfl (by decide)
  have hread (key field : String) (text : Text)
      (hget : (runtimeJson rt runtime).get key = .str text.val) :
      requiredText ((runtimeJson rt runtime).get key) field = .ok text := by
    rw [hget, requiredText_val]
  have hmodeRead : requiredText (((runtimeJson rt runtime).get? "translation_mode").getD
      (.str "NATIVE")) "runtime.translation_mode" =
        .ok ⟨runtime.translationMode.name, hmode, hmodeNe⟩ := by
    have hget : (runtimeJson rt runtime).get? "translation_mode" =
        some (.str runtime.translationMode.name) := rfl
    rw [hget, Option.getD_some]
    exact requiredText_val ⟨_, hmode, hmodeNe⟩ _
  have hdisplay : optionalText ((runtimeJson rt runtime).get "display_name")
      "runtime.display_name" = .ok (runtime.displayName.map Line.text) := optionalText_lines _ _
  have hlabel : optionalText ((runtimeJson rt runtime).get "generic_host_label")
      "runtime.generic_host_label" = .ok (runtime.genericHostLabel.map Line.text) :=
    optionalText_lines _ _
  have hsupplied : optionalText ((runtimeJson rt runtime).get "fingerprint")
      "runtime.fingerprint" = .ok (some fingerprint) := by
    have hget : (runtimeJson rt runtime).get "fingerprint" =
        .str (runtime.fingerprint rt.toTextRuntime) := rfl
    rw [hget, hfingerprint]
    exact optionalText_val (some fingerprint) _
  have hruntime : HostRuntimeIdentity.fromRuntimeLabels rt.toTextRuntime runtime.labels =
      .ok (runtime.relabelled rt.toTextRuntime) :=
    HostRuntimeIdentity.fromRuntimeLabels_labels runtime
  rw [labels_eq] at hruntime
  simp only [runtimeIdentity, bind_eq_ok, pure_eq_ok, require_eq_ok, hobject,
    hread "host_family" _ ⟨runtime.family.name, hfamily, hfamilyNe⟩ rfl,
    hread "version" _ runtime.version rfl,
    hread "edition" _ runtime.edition.text rfl,
    hread "os_name" _ runtime.platform.rawOsName rfl,
    hread "machine" _ runtime.platform.rawMachine rfl,
    hmodeRead, hdisplay, hlabel, hsupplied, hruntime, Except.ok.injEq, exists_eq_left',
    exists_const]
  constructor
  · rintro ⟨-, hsame, rfl⟩
    exact ⟨(hsame fingerprint rfl).symm, rfl⟩
  · rintro ⟨hsame, rfl⟩
    refine ⟨trivial, fun text htext ↦ ?_, rfl⟩
    rw [← Option.some.inj htext, hsame]

/-- A binding is read as itself exactly when the labels of its platform name its platform. -/
theorem sessionBinding_json (hsha : Function.Injective rt.sha256)
    {binding other : HostObservationBinding rt} :
    sessionBinding rt binding.json = .ok other ↔
      binding.runtime.platform.IsLabelled rt.table ∧ other = binding := by
  have hobject : strictObject binding.json "session.binding" bindingFields bindingFields = .ok () :=
    strictObject_self rfl rfl (List.Subset.refl _)
  have hread (key field : String) (text : Text) (hget : binding.json.get key = .str text.val) :
      requiredText (binding.json.get key) field = .ok text := by
    rw [hget, requiredText_val]
  have hlabelled : (binding.runtime.relabelled rt.toTextRuntime).fingerprint rt.toTextRuntime =
      binding.runtime.fingerprint rt.toTextRuntime ↔
        binding.runtime.platform.IsLabelled rt.table :=
    HostRuntimeIdentity.fingerprint_relabelled hsha
  have hruntime {runtime : HostRuntimeIdentity} :
      runtimeIdentity rt (binding.json.get "runtime") = .ok runtime ↔
        binding.runtime.platform.IsLabelled rt.table ∧ runtime = binding.runtime := by
    have hjson : runtimeIdentity rt (runtimeJson rt binding.runtime) = .ok runtime ↔ _ :=
      runtimeIdentity_json binding.bound
    rw [← binding.bound, hlabelled] at hjson
    refine hjson.trans (and_congr_right fun h ↦ ?_)
    rw [HostRuntimeIdentity.relabelled_eq_self h]
  simp only [sessionBinding, bind_eq_ok, pure_eq_ok, hobject, hruntime,
    hread "workspace_id" _ binding.workspaceId rfl,
    hread "song_id" _ binding.songId rfl,
    hread "workspace_observation_id" _ binding.workspaceObservationId rfl,
    hread "host_runtime_fingerprint" _ binding.hostRuntimeFingerprint rfl,
    Except.ok.injEq, exists_eq_left', exists_const]
  constructor
  · rintro ⟨-, _, ⟨h, rfl⟩, hbound, -, rfl⟩
    exact ⟨h, rfl⟩
  · rintro ⟨h, rfl⟩
    exact ⟨trivial, _, ⟨h, rfl⟩, _, ensure_of other.bound, rfl⟩

/-! ### Sessions -/

/-- Evidence that the coordinator reads, if it is of one session. -/
structure SessionEvidence.Sendable (session : SessionEvidence rt) : Prop where
  /-- The labels of the platform name the platform. -/
  labelled : session.binding.runtime.platform.IsLabelled rt.table
  shadow : session.shadow.Sendable
  report : ∀ snapshot ∈ session.engineeringSnapshot, snapshot.Sendable

/-- Evidence of one session as the coordinator reads it. -/
def SessionEvidence.received (session : SessionEvidence rt) : SessionEvidence rt where
  binding := session.binding
  shadow := session.shadow.received
  engineeringSnapshot := session.engineeringSnapshot.map EngineeringSnapshot.received

theorem strictObject_session (session : SessionEvidence rt) :
    strictObject session.json "session" ["binding", "shadow", "engineering_snapshot"]
      ["binding", "shadow"] = .ok () := by
  obtain ⟨binding, shadow, report⟩ := session
  cases report with
  | none =>
    refine strictObject_eq_ok.mpr ⟨rfl, ?_, ?_⟩
    · show ["binding", "shadow"] ⊆ ["binding", "shadow", "engineering_snapshot"]
      decide
    · exact List.Subset.refl _
  | some snapshot => exact strictObject_self rfl rfl (by decide)

theorem engineeringSnapshot_json {session : SessionEvidence rt}
    {other : Option (EngineeringSnapshot rt)} :
    engineeringSnapshot rt (session.json.get "engineering_snapshot") = .ok other ↔
      (∀ snapshot ∈ session.engineeringSnapshot, snapshot.Sendable) ∧
        other = session.engineeringSnapshot.map EngineeringSnapshot.received := by
  obtain ⟨binding, shadow, report⟩ := session
  cases report with
  | none =>
    show Except.ok none = .ok other ↔ _
    rw [Except.ok.injEq, and_iff_right (by simp), eq_comm]
    rfl
  | some snapshot =>
    show some <$> readSnapshot rt snapshot.json = .ok other ↔ _
    simp only [map_eq_ok, readSnapshot_json, Option.mem_some_iff, forall_eq', Option.map_some]
    constructor
    · rintro ⟨_, ⟨h, rfl⟩, rfl⟩
      exact ⟨h, rfl⟩
    · rintro ⟨h, rfl⟩
      exact ⟨_, ⟨h, rfl⟩, rfl⟩

/-- The coordinator reads the bundle of a session exactly when it can be sent, and as what it is
received as. -/
theorem sessionEvidence_json (hsha : Function.Injective rt.sha256)
    {session other : SessionEvidence rt} (h : Coherent session) :
    sessionEvidence rt session.json = .ok other ↔ session.Sendable ∧ other = session.received := by
  have hbinding {binding : HostObservationBinding rt} :
      sessionBinding rt (session.json.get "binding") = .ok binding ↔
        session.binding.runtime.platform.IsLabelled rt.table ∧ binding = session.binding :=
    sessionBinding_json hsha
  have hshadow {shadow : HostShadowState} :
      sessionShadow (session.json.get "shadow") = .ok shadow ↔
        session.shadow.Sendable ∧ shadow = session.shadow.received :=
    sessionShadow_json h.current h.workspace h.observation
  simp only [sessionEvidence, bind_eq_ok, pure_eq_ok, strictObject_session, hbinding, hshadow,
    engineeringSnapshot_json]
  constructor
  · rintro ⟨_, -, _, ⟨hlabelled, rfl⟩, _, ⟨hsendable, rfl⟩, _, ⟨hreport, rfl⟩, rfl⟩
    exact ⟨⟨hlabelled, hsendable, hreport⟩, rfl⟩
  · rintro ⟨hsent, rfl⟩
    exact ⟨(), trivial, _, ⟨hsent.labelled, rfl⟩, _, ⟨hsent.shadow, rfl⟩, _, ⟨hsent.report, rfl⟩,
      rfl⟩

/-! ### The derivation from what is received -/

/-- Evidence whose normal form shows nothing new: no fact becomes one of the tempo, and the name of
the report stays what it is. -/
structure SessionEvidence.Plain (session : SessionEvidence rt) : Prop where
  tempo : ∀ fact ∈ session.shadow.facts, fact.HoldsTempo →
    upper (strip fact.objectKind) = "TEMPO" → fact.objectKind = "TEMPO"
  report : ∀ snapshot ∈ session.engineeringSnapshot,
    strip snapshot.binding.assetId = snapshot.binding.assetId ∧
    strip snapshot.binding.versionId = snapshot.binding.versionId ∧
    strip snapshot.binding.sha256 = snapshot.binding.sha256

theorem tempoMatch_received (fact : ShadowFact) :
    tempoMatch rt fact.received = tempoMatch rt fact := by
  have hvalue : fact.received.value = fact.value := by rw [ShadowFact.received]
  have hevidence : strip fact.received.evidenceRef = strip fact.evidenceRef := by
    rw [ShadowFact.received, strip_strip]
  rw [tempoMatch, tempoMatch, hvalue, hevidence]

theorem isTempo_received {session : SessionEvidence rt} (h : session.Plain) :
    ∀ fact ∈ session.shadow.facts, fact.received.isTempo = fact.isTempo := by
  intro fact hfact
  have hfield : fact.received.HoldsTempo ↔ fact.HoldsTempo := by
    rw [ShadowFact.HoldsTempo, normalizedField, ShadowFact.received, strip_strip]
    rfl
  rw [ShadowFact.isTempo, ShadowFact.isTempo, decide_eq_decide, hfield]
  refine and_congr_left fun htempo ↦ ⟨h.tempo fact hfact htempo, fun hkind ↦ ?_⟩
  show upper (strip fact.objectKind) = "TEMPO"
  rw [hkind]
  decide

/-- A test that a map does not see may come before it. -/
theorem filter_map_eq {α β : Type} {f : α → β} {p : β → Bool} {q : α → Bool} {l : List α}
    (h : ∀ a ∈ l, p (f a) = q a) : (l.map f).filter p = (l.filter q).map f := by
  rw [List.filter_map]
  exact congrArg (List.map f) (List.filter_congr h)

theorem tempoEvidence_received {session : SessionEvidence rt} (h : session.Plain) :
    tempoEvidence rt session.shadow.received = tempoEvidence rt session.shadow := by
  have hfacts := filter_map_eq (isTempo_received h)
  have hmatch : tempoMatch rt ∘ ShadowFact.received = tempoMatch rt := funext tempoMatch_received
  unfold tempoEvidence
  show (List.mapM (tempoMatch rt) (List.filter ShadowFact.isTempo
    (session.shadow.facts.map ShadowFact.received)) >>= _) = _
  rw [hfacts, List.mapM_map, hmatch]

theorem engineeringEvidence_received {session : SessionEvidence rt} (hcoherent : Coherent session)
    (h : session.Plain) :
    engineeringEvidence rt session.binding session.received.engineeringSnapshot =
      engineeringEvidence rt session.binding session.engineeringSnapshot := by
  have hsong := hcoherent.song
  have hreport := h.report
  rw [SessionEvidence.received]
  cases hsnapshot : session.engineeringSnapshot with
  | none => rfl
  | some snapshot =>
    obtain ⟨hasset, hversion, hdigest⟩ := hreport snapshot hsnapshot
    have hsource : engineeringSource snapshot.received = engineeringSource snapshot := by
      unfold engineeringSource
      rw [EngineeringSnapshot.received, EngineeringEvidenceBinding.received]
      dsimp only
      rw [hasset, hversion, hdigest]
    have hname : strip snapshot.binding.songId = snapshot.binding.songId := by
      rw [hsong snapshot hsnapshot, session.binding.songId.stripped]
    have hreceived : snapshot.received.binding.songId = snapshot.binding.songId := hname
    rw [Option.map_some, engineeringEvidence, hsource, hreceived]
    rfl

/-- What is derived from the evidence as it is received is what is derived from it. -/
theorem derive_received {session : SessionEvidence rt} (hcoherent : Coherent session)
    (h : session.Plain) (semanticTags : List String) :
    deriveSessionCalibration rt session.received semanticTags =
      deriveSessionCalibration rt session semanticTags := by
  rw [deriveSessionCalibration, deriveSessionCalibration,
    ← engineeringEvidence_received hcoherent h, ← tempoEvidence_received h]
  rfl

/-! ### Fingerprints of a bundle -/

def hostFingerprint (bundle : Json) : Json :=
  (bundle.get "binding").get "host_runtime_fingerprint"

/-- The fingerprint of the runtime in a bundle, which may be missing. -/
def runtimeFingerprint (bundle : Json) : Json :=
  ((bundle.get "binding").get "runtime").get "fingerprint"

/-- A value is a text that is another one when it is stripped. -/
def StripsTo (value : Json) (text : String) : Prop := ∃ s, value = .str s ∧ strip s = text

theorem requiredText_eq_ok {value : Json} {field : String} {text : Text} :
    requiredText value field = .ok text ↔ StripsTo value text.val := by
  cases value with
  | str s =>
    rw [requiredText_str]
    exact ⟨fun h ↦ ⟨s, rfl, h⟩, fun ⟨_, heq, h⟩ ↦ Json.str.inj heq ▸ h⟩
  | _ => exact ⟨nofun, fun ⟨_, h, _⟩ ↦ nomatch h⟩

/-- The fingerprints of what the coordinator reads are that of the runtime it reads. -/
structure Fingerprinted (bundle : Json) (session : SessionEvidence rt) : Prop where
  host : StripsTo (hostFingerprint bundle) (session.binding.runtime.fingerprint rt.toTextRuntime)
  runtime : runtimeFingerprint bundle = .null ∨ StripsTo (runtimeFingerprint bundle)
    (session.binding.runtime.fingerprint rt.toTextRuntime)

theorem fingerprinted_of_read {bundle : Json} {session : SessionEvidence rt}
    (h : sessionEvidence rt bundle = .ok session) : Fingerprinted bundle session := by
  simp only [sessionEvidence, sessionBinding, bind_eq_ok, pure_eq_ok] at h
  obtain ⟨_, -, _, ⟨_, -, runtime, hruntime, _, -, _, -, _, -, fingerprint, hhost, hbound, -, rfl⟩,
    _, -, _, -, rfl⟩ := h
  refine ⟨?_, ?_⟩
  · show StripsTo _ (runtime.fingerprint rt.toTextRuntime)
    rw [hbound.down]
    exact requiredText_eq_ok.mp hhost
  · show _ ∨ StripsTo _ (runtime.fingerprint rt.toTextRuntime)
    simp only [runtimeIdentity, bind_eq_ok, pure_eq_ok, require_eq_ok] at hruntime
    obtain ⟨_, -, _, -, _, -, _, -, _, -, _, -, _, -, _, -, _, -, _, -, supplied, hsupplied, _,
      hsame, rfl⟩ := hruntime
    change optionalText (runtimeFingerprint bundle) _ = _ at hsupplied
    cases hvalue : runtimeFingerprint bundle with
    | null => exact .inl rfl
    | _ =>
      rw [hvalue, optionalText, map_eq_ok] at hsupplied
      · obtain ⟨text, htext, rfl⟩ := hsupplied
        rw [← hsame text rfl]
        exact .inr (requiredText_eq_ok.mp htext)
      · rintro ⟨⟩

/-- Bundles that the coordinator reads, with one fingerprint of the host, are of runtimes with one
key. -/
theorem key_eq_of_read (hsha : Function.Injective rt.sha256) {bundle other : Json}
    {session decoded : SessionEvidence rt} (hbundle : Fingerprinted bundle session)
    (hother : Fingerprinted other decoded) (h : hostFingerprint other = hostFingerprint bundle) :
    decoded.binding.runtime.key rt.toTextRuntime =
      session.binding.runtime.key rt.toTextRuntime := by
  obtain ⟨s, hs, hsession⟩ := hbundle.host
  obtain ⟨t, ht, hdecoded⟩ := hother.host
  have hst : t = s := Json.str.inj (ht.symm.trans (h.trans hs))
  rw [hst] at hdecoded
  exact HostRuntimeIdentity.key_eq_of_fingerprint hsha (hdecoded.symm.trans hsession)

theorem fingerprinted_json (session : SessionEvidence rt) : Fingerprinted session.json session := by
  have hstrip : strip (session.binding.runtime.fingerprint rt.toTextRuntime) =
      session.binding.runtime.fingerprint rt.toTextRuntime := by
    rw [session.binding.bound, session.binding.hostRuntimeFingerprint.stripped]
  refine ⟨⟨session.binding.hostRuntimeFingerprint.val, rfl, ?_⟩, .inr ⟨_, rfl, hstrip⟩⟩
  rw [session.binding.bound, session.binding.hostRuntimeFingerprint.stripped]

/-! ### The round trip -/

/-- What the coordinator makes of the bundle of a session, and of any other bundle. It reads the
bundle exactly when the evidence can be sent, and derives the same from it when the evidence is
plain. No fingerprint covers the bundle: what a fingerprint covers is the runtime, so that no bundle
that is read has another one with the same fingerprint. -/
theorem session_round_trip (hsha : Function.Injective rt.sha256) (session : SessionEvidence rt)
    {bundle : Json} (h : buildSessionReferenceEvidenceBundle rt session = .ok bundle) :
    ((∃ decoded, sessionEvidence rt bundle = .ok decoded) ↔ session.Sendable) ∧
    (session.Sendable → session.Plain → ∃ decoded, sessionEvidence rt bundle = .ok decoded ∧
      ∀ semanticTags, deriveSessionCalibration rt decoded semanticTags =
        deriveSessionCalibration rt session semanticTags) ∧
    ∀ altered decoded, sessionEvidence rt altered = .ok decoded →
      Fingerprinted altered decoded ∧
      (hostFingerprint altered = hostFingerprint bundle →
        decoded.binding.runtime.key rt.toTextRuntime =
          session.binding.runtime.key rt.toTextRuntime) ∧
      ∀ semanticTags derivation, deriveSessionCalibration rt decoded semanticTags = .ok derivation →
        Coherent decoded := by
  simp only [buildSessionReferenceEvidenceBundle, bind_eq_ok, require_eq_ok, pure_eq_ok] at h
  obtain ⟨_, hderived, _, -, rfl⟩ := h
  have hcoherent := coherent_of_derived hderived
  have hread {decoded : SessionEvidence rt} : sessionEvidence rt session.json = .ok decoded ↔
      session.Sendable ∧ decoded = session.received := sessionEvidence_json hsha hcoherent
  refine ⟨⟨fun hdecodes ↦ (hread.mp hdecodes.choose_spec).1, fun hsent ↦ ⟨_, hread.mpr ⟨hsent, rfl⟩⟩⟩,
    fun hsent hplain ↦ ⟨_, hread.mpr ⟨hsent, rfl⟩, derive_received hcoherent hplain⟩,
    fun altered decoded hdecoded ↦ ?_⟩
  have hfingerprinted := fingerprinted_of_read hdecoded
  exact ⟨hfingerprinted, key_eq_of_read hsha (fingerprinted_json session) hfingerprinted,
    fun _ _ hderivation ↦ coherent_of_derived hderivation⟩

end

def sampleRuntime : EvidenceRuntime where
  table := CaseTable.dottedTable
  casefold s := String.ofList (s.toList.map CaseTable.asciiLower)
  sha256 := tableDigest [("\x7b\"edition\":\"standard\",\"family\":\"ABLETON_LIVE\"," ++
    "\"generic_host_label\":null,\"platform\":\x7b\"architecture\":\"ARM64\"," ++
    "\"os_family\":\"MACOS\"\x7d,\"schema\":\"n0te.host-runtime/v1\"," ++
    "\"translation_mode\":\"NATIVE\",\"version\":\"12.1\"\x7d",
    "b724b05707c4272cae9cb993c490fe27b782db960788b66350b24f9992454387")]
  textFloat _ := none
  textInt _ := none

theorem sampleRuntime_injective : Function.Injective sampleRuntime.sha256 :=
  tableDigest_injective (by decide) (by decide)

def sampleHost : HostRuntimeIdentity where
  family := .abletonLive
  version := ⟨"12.1", by decide, by decide⟩
  edition := ⟨"Standard", by decide, by decide⟩
  platform := {
    osFamily := .family .macos
    architecture := .arm64
    rawOsName := ⟨"Darwin", by decide, by decide⟩
    rawMachine := ⟨"arm64", by decide, by decide⟩ }
  translationMode := .native
  displayName := none
  genericHostLabel := none
  labelled := by decide

theorem sampleHost_labelled : sampleHost.platform.IsLabelled CaseTable.dottedTable := by
  decide +kernel

def sampleBinding : HostObservationBinding sampleRuntime where
  workspaceId := ⟨"workspace:1", by decide, by decide⟩
  songId := ⟨"song:1", by decide, by decide⟩
  workspaceObservationId := ⟨"observation:1", by decide, by decide⟩
  hostRuntimeFingerprint :=
    ⟨"b724b05707c4272cae9cb993c490fe27b782db960788b66350b24f9992454387", by decide, by decide⟩
  runtime := sampleHost
  bound := by decide +kernel

def tempoFact (objectRef : String) (bpm : ℤ) : ShadowFact where
  objectKind := "TEMPO"
  objectRef := objectRef
  field := "bpm"
  value := .int bpm
  batchId := "batch:1"
  actor := "EXTERNAL"
  evidenceRef := "host:ableton:tempo"

def tempoShadow (objectRef : String) (bpm : ℤ) : HostShadowState where
  status := "CURRENT"
  workspaceId := "workspace:1"
  currentWorkspaceObservationId := "observation:1"
  baselineBatchId := some "batch:1"
  latestBatchId := some "batch:1"
  facts := [tempoFact objectRef bpm]

def tempoSession (objectRef : String) (bpm : ℤ) : SessionEvidence sampleRuntime where
  binding := sampleBinding
  shadow := tempoShadow objectRef bpm
  engineeringSnapshot := none

/-- What is derived from some of these sessions. -/
theorem tempoSession_derived : ∀ item ∈ [("tempo:main", 128), ("tempo:main", 130), ("", 128)],
    (deriveSessionCalibration sampleRuntime (tempoSession item.1 item.2) []).toOption.map
      (fun derivation ↦ derivation.profile.features) = some [(.tempoBpm, (item.2 : ℚ))] := by
  decide +kernel

theorem tempoSession_built (item : String × ℤ)
    (hitem : item ∈ [("tempo:main", 128), ("tempo:main", 130), ("", 128)]) :
    buildSessionReferenceEvidenceBundle sampleRuntime (tempoSession item.1 item.2) =
      .ok (tempoSession item.1 item.2).json := by
  obtain ⟨derivation, hderivation, -⟩ :=
    Option.map_eq_some_iff.mp (tempoSession_derived item hitem)
  simp only [buildSessionReferenceEvidenceBundle, bind_eq_ok, require_eq_ok, pure_eq_ok]
  exact ⟨derivation, toOption_eq_some.mp hderivation, (), rfl, trivial⟩

theorem sendable_tempoShadow {objectRef : String} (h : strip objectRef ≠ "") (bpm : ℤ) :
    (tempoShadow objectRef bpm).Sendable := by
  have hbatch : ∀ id ∈ some "batch:1", strip id ≠ "" := by decide
  have hkind : upper (strip "TEMPO") ∈ shadowObjectKinds := by decide
  have hactor : upper (strip "EXTERNAL") ∈ shadowActors := by decide
  have hfield : strip "bpm" ≠ "" := by decide
  have hevidence : strip "host:ableton:tempo" ≠ "" := by decide
  exact ⟨hbatch, hbatch, List.forall_mem_singleton.mpr
    ⟨hkind, hactor, h, hfield, hbatch _ rfl, hevidence⟩⟩

theorem not_mem_report (objectRef : String) (bpm : ℤ)
    (snapshot : EngineeringSnapshot sampleRuntime) :
    snapshot ∉ (tempoSession objectRef bpm).engineeringSnapshot := Option.not_mem_none snapshot

theorem sendable_tempoSession {objectRef : String} (h : strip objectRef ≠ "") (bpm : ℤ) :
    (tempoSession objectRef bpm).Sendable :=
  ⟨sampleHost_labelled, sendable_tempoShadow h bpm,
    fun snapshot hsnapshot ↦ absurd hsnapshot (not_mem_report _ _ snapshot)⟩

theorem plain_tempoSession (objectRef : String) (bpm : ℤ) : (tempoSession objectRef bpm).Plain :=
  ⟨List.forall_mem_singleton.mpr fun _ _ ↦ rfl,
    fun snapshot hsnapshot ↦ absurd hsnapshot (not_mem_report _ _ snapshot)⟩

theorem coherent_tempoSession (objectRef : String) (bpm : ℤ) :
    Coherent (tempoSession objectRef bpm) :=
  ⟨rfl, rfl, rfl, fun snapshot hsnapshot ↦ absurd hsnapshot (not_mem_report _ _ snapshot)⟩

theorem tempo_session_round_trip :
    ∃ decoded, sessionEvidence sampleRuntime (tempoSession "tempo:main" 128).json = .ok decoded ∧
      ∀ semanticTags, deriveSessionCalibration sampleRuntime decoded semanticTags =
        deriveSessionCalibration sampleRuntime (tempoSession "tempo:main" 128) semanticTags :=
  (session_round_trip sampleRuntime_injective (tempoSession "tempo:main" 128)
    (tempoSession_built ("tempo:main", 128) List.mem_cons_self)).2.1
    (sendable_tempoSession (by decide) 128) (plain_tempoSession _ _)

/-- A bundle is built of a fact without an object, which the coordinator does not read. And with
another tempo a bundle is read, has the fingerprints that it had, and gives another profile. -/
theorem altered_tempo_accepted :
    (∃ bundle,
      buildSessionReferenceEvidenceBundle sampleRuntime (tempoSession "" 128) = .ok bundle ∧
      ∀ decoded, sessionEvidence sampleRuntime bundle ≠ .ok decoded) ∧
    ∃ bundle altered decoded,
      buildSessionReferenceEvidenceBundle sampleRuntime (tempoSession "tempo:main" 128) =
        .ok bundle ∧
      sessionEvidence sampleRuntime altered = .ok decoded ∧
      hostFingerprint altered = hostFingerprint bundle ∧
      runtimeFingerprint altered = runtimeFingerprint bundle ∧
      ((deriveSessionCalibration sampleRuntime decoded []).toOption.map
        fun derivation ↦ derivation.profile.features) = some [(.tempoBpm, 130)] ∧
      ((deriveSessionCalibration sampleRuntime (tempoSession "tempo:main" 128) []).toOption.map
        fun derivation ↦ derivation.profile.features) = some [(.tempoBpm, 128)] := by
  have hread (objectRef : String) (bpm : ℤ) {decoded : SessionEvidence sampleRuntime} :
      sessionEvidence sampleRuntime (tempoSession objectRef bpm).json = .ok decoded ↔
        (tempoSession objectRef bpm).Sendable ∧ decoded = (tempoSession objectRef bpm).received :=
    sessionEvidence_json sampleRuntime_injective (coherent_tempoSession objectRef bpm)
  constructor
  · refine ⟨_, tempoSession_built ("", 128) (by simp), fun decoded hdecoded ↦ ?_⟩
    have hsent := ((hread "" 128).mp hdecoded).1
    exact (List.forall_mem_singleton.mp hsent.shadow.facts).objectRef (by decide)
  · refine ⟨_, (tempoSession "tempo:main" 130).json, (tempoSession "tempo:main" 130).received,
      tempoSession_built ("tempo:main", 128) List.mem_cons_self,
      (hread "tempo:main" 130).mpr ⟨sendable_tempoSession (by decide) 130, rfl⟩, rfl, rfl, ?_,
      tempoSession_derived ("tempo:main", 128) List.mem_cons_self⟩
    rw [derive_received (coherent_tempoSession _ _) (plain_tempoSession _ _)]
    exact tempoSession_derived ("tempo:main", 130) (by simp)

end N0te.Calibration
