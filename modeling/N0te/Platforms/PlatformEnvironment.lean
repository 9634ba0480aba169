import N0te.Library.Casing
import N0te.Library.Checking
import N0te.Platforms.PlatformRoots

/-!
# The platform of a runtime

A platform is named by the labels that the runtime gives of its system and its machine, which are
kept beside the family and the architecture. A platform can also be made of a family, an
architecture and labels that name others: `IsLabelled` says that it is what its labels say.
-/

set_option autoImplicit false
set_option relaxedAutoImplicit false

namespace N0te.Platforms

open Library

/-! ### Labels -/

/-- `OS_FAMILIES`: the families that have application roots, and any other. -/
inductive RuntimeOs where
  | family (os : OsFamily)
  | unsupported
  deriving DecidableEq

/-- The name of a family. -/
def RuntimeOs.name : RuntimeOs → String
  | family .macos => "MACOS"
  | family .windows => "WINDOWS"
  | family .linux => "LINUX"
  | unsupported => "UNSUPPORTED"

/-- `ARCHITECTURES`. -/
inductive Architecture where
  | arm64
  | x86_64
  | x86_32
  | armv7
  | riscv64
  | unknown
  deriving DecidableEq

def Architecture.name : Architecture → String
  | arm64 => "ARM64"
  | x86_64 => "X86_64"
  | x86_32 => "X86_32"
  | armv7 => "ARMV7"
  | riscv64 => "RISCV64"
  | unknown => "UNKNOWN"

theorem RuntimeOs.name_injective : Function.Injective RuntimeOs.name := by
  rintro ((_ | _ | _) | _) ((_ | _ | _) | _) h
  all_goals first
    | rfl
    | exact absurd h (by decide)

theorem Architecture.name_injective : Function.Injective Architecture.name := by
  intro a b h
  cases a <;> cases b
  all_goals first
    | rfl
    | exact absurd h (by decide)

/-- `_OS_ALIASES`. -/
def osAliases : List (String × RuntimeOs) := [
  ("darwin", .family .macos),
  ("macos", .family .macos),
  ("mac", .family .macos),
  ("osx", .family .macos),
  ("windows", .family .windows),
  ("win32", .family .windows),
  ("win64", .family .windows),
  ("nt", .family .windows),
  ("linux", .family .linux)]

/-- `_ARCH_ALIASES`. -/
def archAliases : List (String × Architecture) := [
  ("arm64", .arm64),
  ("aarch64", .arm64),
  ("x86_64", .x86_64),
  ("amd64", .x86_64),
  ("x64", .x86_64),
  ("i386", .x86_32),
  ("i486", .x86_32),
  ("i586", .x86_32),
  ("i686", .x86_32),
  ("x86", .x86_32),
  ("armv7", .armv7),
  ("armv7l", .armv7),
  ("riscv64", .riscv64)]

/-- `_text`. -/
def text (value field : String) : Except String Text :=
  orRaise (Text.ofString value) s!"{field} must not be empty"

theorem text_val (value : Text) (field : String) : text value.val field = .ok value := by
  rw [text, Text.ofString_val]
  rfl

section

variable (table : CaseTable)

/-- `normalize_os_family`. -/
def normalizeOsFamily (osName : Text) : RuntimeOs :=
  (osAliases.lookup (table.lower osName.val)).getD .unsupported

/-- `normalize_architecture`. -/
def normalizeArchitecture (machine : Text) : Architecture :=
  (archAliases.lookup (table.lower machine.val)).getD .unknown

/-! ### Platforms -/

/-- `PlatformEnvironment`. The tier is a function of the family and the architecture. -/
structure PlatformEnvironment where
  osFamily : RuntimeOs
  architecture : Architecture
  rawOsName : Text
  rawMachine : Text
  deriving DecidableEq

/-- `PlatformEnvironment.from_runtime_labels`, after the checks of the labels. -/
def PlatformEnvironment.ofLabels (osName machine : Text) : PlatformEnvironment where
  osFamily := normalizeOsFamily table osName
  architecture := normalizeArchitecture table machine
  rawOsName := osName
  rawMachine := machine

/-- `PlatformEnvironment.from_runtime_labels`. -/
def PlatformEnvironment.fromRuntimeLabels (osName machine : String) :
    Except String PlatformEnvironment := do
  let osName ← text osName "os_name"
  let machine ← text machine "machine"
  return .ofLabels table osName machine

/-- A platform is what its labels say. -/
def PlatformEnvironment.IsLabelled (platform : PlatformEnvironment) : Prop :=
  platform.osFamily = normalizeOsFamily table platform.rawOsName ∧
    platform.architecture = normalizeArchitecture table platform.rawMachine

instance (platform : PlatformEnvironment) : Decidable (platform.IsLabelled table) :=
  inferInstanceAs (Decidable (_ ∧ _))

variable {table}

/-- The labels of a platform name it exactly when it is what they say. -/
theorem PlatformEnvironment.ofLabels_raw {platform : PlatformEnvironment} :
    ofLabels table platform.rawOsName platform.rawMachine = platform ↔
      platform.IsLabelled table := by
  obtain ⟨os, architecture, osName, machine⟩ := platform
  rw [ofLabels, mk.injEq, IsLabelled]
  exact ⟨fun h ↦ ⟨h.1.symm, h.2.1.symm⟩, fun h ↦ ⟨h.1.symm, h.2.symm, rfl, rfl⟩⟩

theorem PlatformEnvironment.fromRuntimeLabels_text (osName machine : Text) :
    fromRuntimeLabels table osName.val machine.val = .ok (ofLabels table osName machine) := by
  rw [fromRuntimeLabels, text_val, text_val]
  rfl

end

end N0te.Platforms
