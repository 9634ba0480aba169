import N0te.Library.Inputs
import N0te.Library.JsonAscii
import N0te.Library.JsonShape
import N0te.Platforms.PlatformEnvironment

/-!
# The identity of a host runtime

`HostRuntimeIdentity` describes the host that runs, by labels that are normalized. Its fingerprint
covers some of them, in some of the forms they may have (`RuntimeKey`), and a digest without
collisions tells runtimes with different keys apart (`key_eq_of_fingerprint`). The names to show and
the raw labels of the platform are not covered.

Scope. What Unicode says of characters and the digest are parameters.
-/

set_option autoImplicit false
set_option relaxedAutoImplicit false

namespace N0te.Hosts

open Library Platforms

/-- What the runtime does with text. -/
structure TextRuntime where
  /-- The lowercase mappings. -/
  table : CaseTable
  /-- `str.casefold`. -/
  casefold : String → String
  /-- The SHA-256 digest of a text. -/
  sha256 : String → String

/-! ### Families and modes -/

/-- `HOST_FAMILIES`. -/
inductive HostFamily where
  | abletonLive
  | flStudio
  | logicPro
  | proTools
  | studioOne
  | reaper
  | genericOther
  deriving DecidableEq

def HostFamily.name : HostFamily → String
  | abletonLive => "ABLETON_LIVE"
  | flStudio => "FL_STUDIO"
  | logicPro => "LOGIC_PRO"
  | proTools => "PRO_TOOLS"
  | studioOne => "STUDIO_ONE"
  | reaper => "REAPER"
  | genericOther => "GENERIC_OTHER"

/-- `TRANSLATION_MODES`. -/
inductive TranslationMode where
  | native
  | rosetta2
  | windowsX64Emulation
  | windowsX86Emulation
  | other
  | unknown
  deriving DecidableEq

def TranslationMode.name : TranslationMode → String
  | native => "NATIVE"
  | rosetta2 => "ROSETTA_2"
  | windowsX64Emulation => "WINDOWS_X64_EMULATION"
  | windowsX86Emulation => "WINDOWS_X86_EMULATION"
  | other => "OTHER"
  | unknown => "UNKNOWN"

/-- The families by their names. -/
def hostFamilies : List (String × HostFamily) :=
  [HostFamily.abletonLive, .flStudio, .logicPro, .proTools, .studioOne, .reaper,
    .genericOther].map fun family ↦ (family.name, family)

/-- The modes by their names. -/
def translationModes : List (String × TranslationMode) :=
  [TranslationMode.native, .rosetta2, .windowsX64Emulation, .windowsX86Emulation, .other,
    .unknown].map fun mode ↦ (mode.name, mode)

/-- `_HOST_ALIASES`. -/
def hostAliases : List (String × HostFamily) := [
  ("ableton live", .abletonLive),
  ("ableton", .abletonLive),
  ("fl studio", .flStudio),
  ("image line fl studio", .flStudio),
  ("logic pro", .logicPro),
  ("apple logic pro", .logicPro),
  ("pro tools", .proTools),
  ("avid pro tools", .proTools),
  ("studio one", .studioOne),
  ("presonus studio one", .studioOne),
  ("reaper", .reaper),
  ("cockos reaper", .reaper),
  ("generic other", .genericOther),
  ("other", .genericOther)]

/-- `_TRANSLATION_ALIASES`. -/
def translationAliases : List (String × TranslationMode) := [
  ("native", .native),
  ("none", .native),
  ("rosetta", .rosetta2),
  ("rosetta 2", .rosetta2),
  ("rosetta2", .rosetta2),
  ("windows x64 emulation", .windowsX64Emulation),
  ("x64 emulation", .windowsX64Emulation),
  ("windows x86 emulation", .windowsX86Emulation),
  ("x86 emulation", .windowsX86Emulation),
  ("wow64", .windowsX86Emulation),
  ("other", .other),
  ("unknown", .unknown)]

/-- `_text(value, field)` with single spaces. -/
def line (value field : String) : Except String Line :=
  orRaise (Line.ofString value) s!"{field} must not be empty"

theorem line_val (value : Line) (field : String) : line value.val field = .ok value := by
  have hvalue : Line.ofString value.val = some value :=
    Line.ofString_eq_some.mpr ⟨value.collapsed, value.collapsed.symm ▸ value.nonempty⟩
  rw [line, hvalue]
  rfl

section

variable (rt : TextRuntime)

/-- `_token`. The separators become spaces, and a run of spaces one. -/
def token (value : String) : String :=
  collapse (String.ofList ((rt.casefold value).toList.map fun c ↦
    if c ∈ ['_', '.', '/', '-'] then ' ' else c))

/-- The member that a label names: by its name, or by an alias. -/
def normalize {α : Type} (members aliases : List (String × α)) (label : String) : Option α :=
  (members.lookup (underscored (upper label))).or (aliases.lookup (token rt label))

/-- `normalize_host_family`. -/
def normalizeHostFamily (value : String) : Except String HostFamily := do
  let raw ← text value "host_family"
  orRaise (normalize rt hostFamilies hostAliases raw.val) ("unknown host family " ++
    Library.repr raw.val ++ "; represent unlisted DAWs explicitly as GENERIC_OTHER")

/-- `normalize_translation_mode`. -/
def normalizeTranslationMode (value : String) : Except String TranslationMode := do
  let raw ← text value "translation_mode"
  orRaise (normalize rt translationModes translationAliases raw.val)
    ("unknown translation mode: " ++ Library.repr raw.val)

variable {rt}

theorem normalizeHostFamily_name (family : HostFamily) :
    normalizeHostFamily rt family.name = .ok family := by
  cases family <;> rfl

theorem normalizeTranslationMode_name (mode : TranslationMode) :
    normalizeTranslationMode rt mode.name = .ok mode := by
  cases mode <;> rfl

end

theorem HostFamily.name_injective : Function.Injective HostFamily.name := by
  intro a b h
  cases a <;> cases b
  all_goals first
    | rfl
    | exact absurd h (by decide)

theorem TranslationMode.name_injective : Function.Injective TranslationMode.name := by
  intro a b h
  cases a <;> cases b
  all_goals first
    | rfl
    | exact absurd h (by decide)

/-! ### Identities -/

/-- `HostRuntimeIdentity`. -/
structure HostRuntimeIdentity where
  family : HostFamily
  version : Text
  edition : Line
  platform : PlatformEnvironment
  translationMode : TranslationMode
  displayName : Option Line
  genericHostLabel : Option Line
  /-- A host has a label of its own exactly when it is none of the named ones. -/
  labelled : genericHostLabel.isSome = true ↔ family = .genericOther
  deriving DecidableEq

/-- What a runtime is made of, as it is given. -/
structure RuntimeLabels where
  hostFamily : String
  version : String
  edition : String
  osName : String
  machine : String
  translationMode : String
  displayName : Option String
  genericHostLabel : Option String

/-- A label that may be missing. -/
def optionalLine (value : Option String) (field : String) : Except String (Option Line) :=
  match value with
  | none => .ok none
  | some value => some <$> line value field

theorem optionalLine_val (value : Option Line) (field : String) :
    optionalLine (value.map Line.val) field = .ok value := by
  cases value with
  | none => rfl
  | some value =>
    show some <$> line value.val field = _
    rw [line_val]
    rfl

/-- The label of a host that is none of the named ones. -/
def genericLabel (family : HostFamily) (value : Option String) :
    Except String { label : Option Line // label.isSome = true ↔ family = .genericOther } :=
  if hfamily : family = .genericOther then do
    let value ← orRaise value "GENERIC_OTHER requires explicit generic_host_label"
    let label ← line value "generic_host_label"
    return ⟨some label, by simpa using hfamily⟩
  else do
    require (value = none) "generic_host_label is allowed only for GENERIC_OTHER"
    return ⟨none, by simpa using hfamily⟩

theorem genericLabel_val {family : HostFamily} {label : Option Line}
    (h : label.isSome = true ↔ family = .genericOther) :
    genericLabel family (label.map Line.val) = .ok ⟨label, h⟩ := by
  unfold genericLabel
  cases label with
  | none =>
    have hfamily : family ≠ .genericOther := fun heq ↦ absurd (h.mpr heq) (by simp)
    rw [dif_neg hfamily]
    rfl
  | some label =>
    rw [dif_pos (h.mp rfl)]
    simp only [bind_eq_ok, orRaise_eq_ok, pure_eq_ok]
    exact ⟨label.val, rfl, label, line_val label _, rfl⟩

namespace HostRuntimeIdentity

variable (rt : TextRuntime)

/-- `HostRuntimeIdentity.from_runtime_labels`. -/
def fromRuntimeLabels (labels : RuntimeLabels) : Except String HostRuntimeIdentity := do
  let platform ← PlatformEnvironment.fromRuntimeLabels rt.table labels.osName labels.machine
  let family ← normalizeHostFamily rt labels.hostFamily
  let version ← text labels.version "version"
  let edition ← line labels.edition "edition"
  let translationMode ← normalizeTranslationMode rt labels.translationMode
  let displayName ← optionalLine labels.displayName "display_name"
  let generic ← genericLabel family labels.genericHostLabel
  return {
    family, version, edition, platform, translationMode, displayName
    genericHostLabel := generic.val
    labelled := generic.property }

def labels (runtime : HostRuntimeIdentity) : RuntimeLabels where
  hostFamily := runtime.family.name
  version := runtime.version.val
  edition := runtime.edition.val
  osName := runtime.platform.rawOsName.val
  machine := runtime.platform.rawMachine.val
  translationMode := runtime.translationMode.name
  displayName := runtime.displayName.map Line.val
  genericHostLabel := runtime.genericHostLabel.map Line.val

/-- A runtime on the platform that the labels of its platform name. -/
def relabelled (runtime : HostRuntimeIdentity) : HostRuntimeIdentity :=
  { runtime with
    platform := .ofLabels rt.table runtime.platform.rawOsName runtime.platform.rawMachine }

variable {rt}

/-- The labels of a runtime are those of a runtime, which is the same up to its platform. -/
theorem fromRuntimeLabels_labels (runtime : HostRuntimeIdentity) :
    fromRuntimeLabels rt runtime.labels = .ok (runtime.relabelled rt) := by
  simp only [fromRuntimeLabels, bind_eq_ok, pure_eq_ok]
  exact ⟨_, PlatformEnvironment.fromRuntimeLabels_text _ _, _, normalizeHostFamily_name _, _,
    text_val _ _, _, line_val _ _, _, normalizeTranslationMode_name _, _, optionalLine_val _ _, _,
    genericLabel_val runtime.labelled, rfl⟩

theorem relabelled_eq_self {runtime : HostRuntimeIdentity}
    (h : runtime.platform.IsLabelled rt.table) : runtime.relabelled rt = runtime := by
  rw [relabelled, PlatformEnvironment.ofLabels_raw.mpr h]

end HostRuntimeIdentity

/-! ### Fingerprints -/

/-- What a fingerprint covers of a runtime. -/
structure RuntimeKey where
  family : HostFamily
  version : String
  edition : String
  osFamily : RuntimeOs
  architecture : Architecture
  translationMode : TranslationMode
  genericHostLabel : Option String
  deriving DecidableEq

/-- The payload of a fingerprint. -/
def RuntimeKey.json (key : RuntimeKey) : Json := .obj [
  ("schema", .str "n0te.host-runtime/v1"),
  ("family", .str key.family.name),
  ("version", .str key.version),
  ("edition", .str key.edition),
  ("platform", .obj [
    ("os_family", .str key.osFamily.name),
    ("architecture", .str key.architecture.name)]),
  ("translation_mode", .str key.translationMode.name),
  ("generic_host_label", .ofOption key.genericHostLabel)]

theorem ofOption_injective : Function.Injective Json.ofOption := by
  rintro (_ | a) (_ | b) h
  · rfl
  · cases h
  · cases h
  · cases h
    rfl

/-- A payload has the key that it was made of. -/
theorem RuntimeKey.eq_of_canonical {a b : RuntimeKey} (h : a.json.canonical = b.json.canonical) :
    a = b := by
  have hget : ∀ key, (a.json.get key).canonical = (b.json.get key).canonical := by
    intro key
    rw [← Json.get_canonical, ← Json.get_canonical, h]
  have hplatform : ∀ key, ((a.json.get "platform").get key).canonical =
      ((b.json.get "platform").get key).canonical := by
    intro key
    rw [← Json.get_canonical, ← Json.get_canonical (b.json.get "platform"), hget]
  have hfamily := HostFamily.name_injective (Json.str.inj (hget "family"))
  have hversion := Json.str.inj (hget "version")
  have hedition := Json.str.inj (hget "edition")
  have hos := RuntimeOs.name_injective (Json.str.inj (hplatform "os_family"))
  have harchitecture := Architecture.name_injective (Json.str.inj (hplatform "architecture"))
  have hmode := TranslationMode.name_injective (Json.str.inj (hget "translation_mode"))
  have hgeneric : a.genericHostLabel = b.genericHostLabel := by
    have hlabel := hget "generic_host_label"
    change (Json.ofOption a.genericHostLabel).canonical =
      (Json.ofOption b.genericHostLabel).canonical at hlabel
    rw [Json.canonical_ofOption, Json.canonical_ofOption] at hlabel
    exact ofOption_injective hlabel
  cases a
  cases b
  simp_all only

namespace HostRuntimeIdentity

variable (rt : TextRuntime)

/-- What the fingerprint covers: the edition and the label without their case. -/
def key (runtime : HostRuntimeIdentity) : RuntimeKey where
  family := runtime.family
  version := runtime.version.val
  edition := rt.casefold runtime.edition.val
  osFamily := runtime.platform.osFamily
  architecture := runtime.platform.architecture
  translationMode := runtime.translationMode
  genericHostLabel := runtime.genericHostLabel.map fun label ↦ rt.casefold label.val

/-- `HostRuntimeIdentity.fingerprint`. -/
def fingerprint (runtime : HostRuntimeIdentity) : String :=
  rt.sha256 (runtime.key rt).json.dumpsAscii

variable {rt}

theorem key_eq_of_fingerprint (hsha : Function.Injective rt.sha256) {a b : HostRuntimeIdentity}
    (h : a.fingerprint rt = b.fingerprint rt) : a.key rt = b.key rt :=
  RuntimeKey.eq_of_canonical (Json.dumpsAscii_inj.mp (hsha h))

/-- A runtime on the platform of its labels has the fingerprint it had exactly when its platform is
what the labels say. -/
theorem fingerprint_relabelled (hsha : Function.Injective rt.sha256)
    {runtime : HostRuntimeIdentity} :
    (runtime.relabelled rt).fingerprint rt = runtime.fingerprint rt ↔
      runtime.platform.IsLabelled rt.table := by
  constructor
  · intro h
    have hkey := key_eq_of_fingerprint hsha h
    exact ⟨(congrArg RuntimeKey.osFamily hkey).symm, (congrArg RuntimeKey.architecture hkey).symm⟩
  · intro h
    rw [relabelled_eq_self h]

end HostRuntimeIdentity

end N0te.Hosts
