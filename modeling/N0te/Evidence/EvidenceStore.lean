import Mathlib.Data.List.Infix
import Mathlib.Data.List.Nodup
import Mathlib.Data.Rat.Defs
import N0te.Library.JsonText
import N0te.People.Profile

/-!
# Scoped evidence

Claims are appended to a store, each with a scope, a key and a value, and a later claim may supersede
earlier ones of the same scope and key. A claim that nothing supersedes is active. Claims and
supersessions never change.

`recordClaim` checks what it reads outside of its transaction. Other memories keep their tables in the
same store and add indexes and triggers to that of the claims: an `EvidenceHost` is such a store.

Scope. The JSON text of a value is held as the canonical value, a confidence as the rational number
that the float is; what `float` refuses is refused like a number out of range.
-/

set_option autoImplicit false
set_option relaxedAutoImplicit false

namespace N0te.Evidence

open Library Lineage People

/-! ### Rows -/

/-- `SCOPE_KINDS`. -/
inductive ScopeKind where
  | profile
  | artist
  | song
  | version
  deriving DecidableEq

/-- `SOURCE_KINDS`. -/
inductive SourceKind where
  | userDeclared
  | observed
  | measured
  | providerVerified
  | remembered
  | inferred
  deriving DecidableEq

/-- `TWIN_DOMAINS`. -/
inductive TwinDomain where
  | technical
  | creative
  | unspecified
  deriving DecidableEq

def ScopeKind.ofName : String → Option ScopeKind
  | "PROFILE" => some profile
  | "ARTIST" => some artist
  | "SONG" => some song
  | "VERSION" => some version
  | _ => none

def SourceKind.ofName : String → Option SourceKind
  | "USER_DECLARED" => some userDeclared
  | "OBSERVED" => some observed
  | "MEASURED" => some measured
  | "PROVIDER_VERIFIED" => some providerVerified
  | "REMEMBERED" => some remembered
  | "INFERRED" => some inferred
  | _ => none

def TwinDomain.ofName : String → Option TwinDomain
  | "TECHNICAL" => some technical
  | "CREATIVE" => some creative
  | "UNSPECIFIED" => some unspecified
  | _ => none

def ScopeKind.name : ScopeKind → String
  | profile => "PROFILE"
  | artist => "ARTIST"
  | song => "SONG"
  | version => "VERSION"

def SourceKind.name : SourceKind → String
  | userDeclared => "USER_DECLARED"
  | observed => "OBSERVED"
  | measured => "MEASURED"
  | providerVerified => "PROVIDER_VERIFIED"
  | remembered => "REMEMBERED"
  | inferred => "INFERRED"

def TwinDomain.name : TwinDomain → String
  | technical => "TECHNICAL"
  | creative => "CREATIVE"
  | unspecified => "UNSPECIFIED"

/-- A name is normalized and read back. -/
theorem ScopeKind.ofName_name (kind : ScopeKind) : ofName (upper (strip kind.name)) = some kind := by
  cases kind <;> decide +kernel

theorem SourceKind.ofName_name (kind : SourceKind) : ofName (upper (strip kind.name)) = some kind := by
  cases kind <;> decide +kernel

theorem TwinDomain.ofName_name (domain : TwinDomain) :
    ofName (upper (strip domain.name)) = some domain := by
  cases domain <;> decide +kernel

/-- A row of `evidence_claims`. -/
structure EvidenceClaim where
  id : String
  /-- What the claim is about. -/
  scopeKind : ScopeKind
  scopeId : String
  key : String
  value : Json
  sourceKind : SourceKind
  sourceRef : Option String
  confidence : ℚ
  twinDomain : TwinDomain
  deriving DecidableEq

/-- A row of `evidence_supersessions`. -/
structure EvidenceSupersession where
  newClaimId : String
  oldClaimId : String
  deriving DecidableEq

/-- The tables. -/
structure EvidenceDb where
  /-- `evidence_claims`. -/
  claims : List EvidenceClaim
  /-- `evidence_supersessions`. -/
  supersessions : List EvidenceSupersession

namespace EvidenceDb

variable (db : EvidenceDb)

/-- The tables of a new store. -/
def empty : EvidenceDb := ⟨[], []⟩

/-! ### Reads -/

/-- `get_claim`. -/
def getClaim (claimId : String) : Option EvidenceClaim :=
  db.claims.find? fun claim ↦ claim.id = claimId

/-- Nothing supersedes a claim. -/
def Active (claimId : String) : Prop := ∀ edge ∈ db.supersessions, edge.oldClaimId ≠ claimId

instance (claimId : String) : Decidable (db.Active claimId) :=
  inferInstanceAs (Decidable (∀ edge ∈ db.supersessions, _))

/-- The position of a claim in the table. -/
def sequenceOf (claimId : String) : ℕ := db.claims.findIdx fun claim ↦ claim.id = claimId

/-- A claim is newer than another of the same scope and key. -/
def SameTarget (edge : EvidenceSupersession) : Prop :=
  ∃ newer ∈ db.claims, ∃ older ∈ db.claims, newer.id = edge.newClaimId ∧ older.id = edge.oldClaimId ∧
    newer.scopeKind = older.scopeKind ∧ newer.scopeId = older.scopeId ∧ newer.key = older.key ∧
      db.sequenceOf older.id < db.sequenceOf newer.id

instance (edge : EvidenceSupersession) : Decidable (db.SameTarget edge) :=
  inferInstanceAs (Decidable (∃ newer ∈ db.claims, _))

/-! ### Statements -/

/-- `INSERT INTO evidence_claims`. -/
def insertClaim (row : EvidenceClaim) : Checked EvidenceDb := do
  require (∀ other ∈ db.claims, other.id ≠ row.id)
    (integrityError "UNIQUE constraint failed: evidence_claims.id")
  require (sqlNonblank row.key = true) (integrityError "CHECK constraint failed: key")
  require (0 ≤ row.confidence ∧ row.confidence ≤ 1)
    (integrityError "CHECK constraint failed: confidence")
  .ok { db with claims := db.claims ++ [row] }

/-- `INSERT INTO evidence_supersessions`, with the trigger `evidence_supersession_same_target`. -/
def insertSupersession (row : EvidenceSupersession) : Checked EvidenceDb := do
  require (db.SameTarget row)
    (integrityError "supersession must target an older claim with identical scope and key")
  require (row.newClaimId ≠ row.oldClaimId) (integrityError "CHECK constraint failed")
  require (row ∉ db.supersessions)
    (integrityError "UNIQUE constraint failed: evidence_supersessions.new_claim_id")
  .ok { db with supersessions := db.supersessions ++ [row] }

/-- `INSERT INTO evidence_supersessions` for each claim that a new one replaces. -/
def insertSupersessions (claimId : String) : List String → EvidenceDb → Checked EvidenceDb
  | [], db => .ok db
  | oldId :: rest, db => do
    let db ← db.insertSupersession ⟨claimId, oldId⟩
    insertSupersessions claimId rest db

end EvidenceDb

/-! ### Checks -/

section

variable (profile : Profile)

/-- The scope of a kind exists in the profile. -/
def InProfile (kind : ScopeKind) (scopeId : String) : Prop :=
  match kind with
  | .profile => strip scopeId = profile.profileId
  | .artist => strip scopeId = profile.primaryArtistId
  | .song => (profile.getSong (strip scopeId)).isSome = true
  | .version => (profile.getVersion (strip scopeId)).isSome = true

instance (kind : ScopeKind) (scopeId : String) : Decidable (InProfile profile kind scopeId) := by
  cases kind <;> exact inferInstanceAs (Decidable (_ = _))

/-- What `_validate_scope` says of a scope that does not exist. -/
def scopeMessage : ScopeKind → String
  | .profile => "evidence profile scope does not match active profile"
  | .artist => "evidence artist scope does not match active profile"
  | .song => "evidence Song scope does not exist in active profile"
  | .version => "evidence version scope does not exist in active profile"

/-- `_validate_scope` of a kind that is known. -/
def validateScope (error : String → Raised LineageErrorClass) (kind : ScopeKind) (scopeId : String) :
    Checked Unit :=
  require (InProfile profile kind scopeId) (error (scopeMessage kind))

/-- `_normalize_twin_domain`. -/
def normalizeTwinDomain (value : String) : Checked TwinDomain :=
  orRaise (TwinDomain.ofName (upper (strip value)))
    (validation s!"unsupported Twin domain: {upper (strip value)}")

/-- `_canonical_value`, as a value. -/
def canonicalValue (value : Json) : Checked Json := do
  require (value.finite = true) (validation "evidence value must be valid JSON data")
  .ok value.canonical

/-- The arguments of `record_claim`. -/
structure ClaimInput where
  /-- What the claim is about. -/
  scopeKind : String
  scopeId : String
  key : String
  value : Json
  sourceKind : String
  sourceRef : Option String
  confidence : ℚ
  twinDomain : String
  /-- The claims that it replaces. -/
  supersedes : List String

/-- The row that `record_claim` inserts. -/
def normalizeClaim (claimId : String) (input : ClaimInput) : Checked EvidenceClaim := do
  let domain ← normalizeTwinDomain input.twinDomain
  require (strip input.key ≠ "") (validation "evidence key must not be empty")
  let kind ← orRaise (ScopeKind.ofName (upper (strip input.scopeKind)))
    (validation s!"unsupported evidence scope: {upper (strip input.scopeKind)}")
  validateScope profile validation kind input.scopeId
  let source ← orRaise (SourceKind.ofName (upper (strip input.sourceKind)))
    (validation s!"unsupported evidence source: {upper (strip input.sourceKind)}")
  require (0 ≤ input.confidence ∧ input.confidence ≤ 1)
    (validation "confidence must be between 0 and 1")
  let value ← canonicalValue input.value
  .ok ⟨claimId, kind, input.scopeId, strip input.key, value, source, input.sourceRef,
    input.confidence, domain⟩

/-- `active_claims`. -/
def activeClaims (kind : ScopeKind) (scopeId key : String) (db : EvidenceDb) :
    Checked (List EvidenceClaim) := do
  require (strip key ≠ "") (validation "evidence key must not be empty")
  validateScope profile validation kind scopeId
  .ok (db.claims.filter fun claim ↦ claim.scopeKind = kind ∧ claim.scopeId = scopeId ∧
    db.Active claim.id ∧ claim.key = strip key)

/-! ### Opening -/

/-- The checks of `_validate_existing` on a claim. -/
def validateClaim (claim : EvidenceClaim) : Checked Unit := do
  validateScope profile corruption claim.scopeKind claim.scopeId
  require (0 ≤ claim.confidence ∧ claim.confidence ≤ 1)
    (corruption "scoped evidence contains invalid confidence")

/-- `EvidenceMemory._validate_existing`. -/
def EvidenceDb.validateExisting (db : EvidenceDb) : Checked Unit := do
  let _ ← checkEach (fun _ ↦ validateClaim profile) 0 db.claims
  require (∀ edge ∈ db.supersessions, db.SameTarget edge)
    (corruption "scoped evidence supersession graph is invalid")

/-! ### Stores that hold evidence -/

/-- A store that holds evidence among other tables. -/
structure EvidenceHost (σ : Type) where
  evidence : σ → EvidenceDb
  /-- The store with other evidence. -/
  withEvidence : EvidenceDb → σ → σ
  /-- What the store checks and does when a claim is inserted. -/
  afterClaim : EvidenceClaim → σ → Checked σ
  /-- The evidence of the store with other evidence. -/
  evidence_withEvidence : ∀ db s, evidence (withEvidence db s) = db
  /-- What the store does leaves the evidence alone. -/
  evidence_afterClaim : ∀ claim s t, afterClaim claim s = .ok t → evidence t = evidence s

/-- A call on such a store. -/
abbrev EvidenceCall (σ α : Type) := Call σ (Raised LineageErrorClass) α

variable {σ : Type} (host : EvidenceHost σ)

/-- `get_claim`. -/
def getClaim (claimId : String) : EvidenceCall σ (Option EvidenceClaim) :=
  .select fun s ↦ (host.evidence s).getClaim claimId

/-- The checks of `record_claim` on the claims that the new one replaces. -/
def checkSuperseded (row : EvidenceClaim) (active : List EvidenceClaim) :
    List String → EvidenceCall σ Unit
  | [] => pure ⟨⟩
  | oldId :: rest => do
    let old ← getClaim host oldId
    .fromExcept do
      let old ← orRaise old (notFound s!"evidence claim not found: {oldId}")
      require (old.scopeKind = row.scopeKind ∧ old.scopeId = row.scopeId ∧ old.key = row.key)
        (validation "supersession cannot cross evidence scope or key")
      require (oldId ∈ active.map EvidenceClaim.id)
        (validation "supersession may target only currently active claims")
    checkSuperseded row active rest

/-- The transaction of `record_claim`. -/
def commitClaim (row : EvidenceClaim) (oldIds : List String) (s : σ) : Checked σ :=
  integrityAs (fun text ↦ s!"invalid scoped evidence mutation: {text}") do
    let db ← (host.evidence s).insertClaim row
    let s ← host.afterClaim row (host.withEvidence db s)
    let db ← EvidenceDb.insertSupersessions row.id oldIds (host.evidence s)
    .ok (host.withEvidence db s)

/-- `record_claim`. -/
def recordClaim (uuid : Uuid) (input : ClaimInput) : EvidenceCall σ EvidenceClaim := do
  let row ← .fromExcept (normalizeClaim profile (newId "claim" uuid) input)
  let active ← .ask fun s ↦ activeClaims profile row.scopeKind row.scopeId row.key (host.evidence s)
  let oldIds := input.supersedes.eraseDups
  checkSuperseded host row active oldIds
  .transaction (commitClaim host row oldIds)
  let claim ← getClaim host row.id
  .fromExcept (orRaise claim ⟨.assertionError, ""⟩)

end

end N0te.Evidence
