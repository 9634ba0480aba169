import N0te.Library.Checking
import N0te.Library.JsonText

/-!
# What the governance code takes from its runtime

`Runtime` holds the functions the governance code calls and does not define: the hash, the time
parser, the keyed signature of one permit authority, and the JSON reader. Nothing is assumed of them
except where a theorem asks for `Runtime.Sound`: the hash of a text determines the text, and
`json.loads` undoes `json.dumps`.

`fingerprint` is the hash of the canonical JSON text, and `fingerprint_inj` says that equal
fingerprints are equal values up to the order of object fields.
-/

set_option autoImplicit false
set_option relaxedAutoImplicit false

namespace N0te.Governance

open Library

/-- The exception classes the governance code raises. -/
inductive ErrorClass where
  | executionEnvelopeError
  | trustedContextError
  | executionPermitError
  | authorityValidationError
  | compiledStateError
  | executionStateCompilerError
  | coordinatorGatewayError
  | mutationVerificationError
  | mutationReconciliationError
  | typeError
  | valueError
  | keyError
  | attributeError
  | jsonDecodeError
  | overflowError
  /-- An exception of code outside the repository: an executor, a verifier, a provider. -/
  | foreign
  deriving DecidableEq

/-- A result or an exception of the governance code. -/
abbrev Checked (α : Type) := Except (Raised ErrorClass) α

/-- A parsed timestamp: its instant in microseconds UTC, and whether it named an offset. -/
structure Stamp where
  /-- Microseconds since the epoch. -/
  instant : ℤ
  /-- Whether a UTC offset was given. -/
  aware : Bool
  deriving DecidableEq

/-- The runtime functions the governance code calls. -/
structure Runtime where
  /-- The hexadecimal SHA-256 digest of the UTF-8 bytes of a text. -/
  sha256 : String → String
  /-- `datetime.fromisoformat`. -/
  fromisoformat : String → Option Stamp
  /-- The HMAC-SHA256 of some bytes under the secret of the permit authority. -/
  hmac : List UInt8 → List UInt8
  /-- `json.loads`. -/
  loads : List UInt8 → Option Json

/-- `str.encode("utf-8")`. -/
def encodeUtf8 (s : String) : List UInt8 := s.toUTF8.data.toList

theorem encodeUtf8_injective : Function.Injective encodeUtf8 := by
  intro s t h
  apply String.toByteArray_inj.mp
  exact ByteArray.ext (Array.toList_inj.mp h)

/-- What the theorems rely on: distinct texts have distinct digests, and a written document reads
back. -/
structure Runtime.Sound (rt : Runtime) : Prop where
  sha256_injective : Function.Injective rt.sha256
  /-- `json.loads(json.dumps(value, sort_keys=True))` is the value with its keys sorted. -/
  loads_dumps : ∀ v : Json, rt.loads (encodeUtf8 v.dumps) = some v.canonical

variable {rt : Runtime}

/-- The SHA-256 digest of the canonical text of a value. -/
def fingerprint (rt : Runtime) (v : Json) : String := rt.sha256 v.dumps

/-- Equal fingerprints are equal values, up to the order of object fields. -/
theorem Runtime.Sound.fingerprint_inj (hsound : rt.Sound) {v w : Json} :
    fingerprint rt v = fingerprint rt w ↔ v.canonical = w.canonical := by
  unfold fingerprint
  rw [hsound.sha256_injective.eq_iff, Json.dumps_inj]

/-! ### Named values -/

/-- `str(value).strip()`. -/
def stripped (v : Json) : String := strip v.pyStr

/-- `str(value).strip().upper()`. -/
def normalName (v : Json) : String := upper (strip v.pyStr)

/-- The items of a list value. -/
def items : Json → List Json
  | .arr l => l
  | _ => []

/-- The classes of action authority. -/
inductive ActionClass where
  | readOnly
  | reversible
  | compensatable
  | irreversible
  deriving DecidableEq

namespace ActionClass

def name : ActionClass → String
  | readOnly => "READ_ONLY"
  | reversible => "REVERSIBLE"
  | compensatable => "COMPENSATABLE"
  | irreversible => "IRREVERSIBLE"

def ofName (s : String) : Option ActionClass :=
  [readOnly, reversible, compensatable, irreversible].find? fun c ↦ c.name == s

theorem name_injective : Function.Injective name := by
  intro a b h
  cases a <;> cases b <;> first | rfl | exact absurd h (by decide)

@[simp] theorem ofName_name (c : ActionClass) : ofName c.name = some c := by
  cases c <;> decide

theorem ofName_eq_some {s : String} {c : ActionClass} : ofName s = some c ↔ s = c.name := by
  refine ⟨fun h ↦ ?_, fun h ↦ h ▸ ofName_name c⟩
  have hname := List.find?_some h
  exact (beq_iff_eq.mp hname).symm

end ActionClass

end N0te.Governance
