import N0te.Library.Checking
import N0te.Library.JsonText
import N0te.Library.SqlText

/-!
# Schema migration steps

A step of a schema migration advances the schema of a profile by one version. `MigrationStep.create`
puts single spaces for the whitespace of its statements, refuses the statements that `_FORBIDDEN_SQL`
finds a word in, and keeps what is left: `commands` are what a migration executes for the step.

The text that is executed means what the text that was given means exactly when whitespace stands in
the latter `AsSeparator` (`executed_statement_meaning`).
-/

set_option autoImplicit false
set_option relaxedAutoImplicit false

namespace N0te.Migration

open Library

/-- The exceptions of the migration code. -/
inductive MigrationErrorClass where
  | schemaMigration
  | migrationPlan
  | migrationValidation
  /-- `sqlite3.DatabaseError`. -/
  | database
  /-- `ValueError`. -/
  | value
  /-- Any other. -/
  | other
  deriving DecidableEq

abbrev MigrationError := Raised MigrationErrorClass

/-- `MigrationPlanError`. -/
def planError (message : String) : MigrationError := ⟨.migrationPlan, message⟩

/-- What the code calls of Python's library. -/
structure Runtime where
  /-- `\w` of a regular expression. -/
  isWord : Char → Bool
  /-- The value of a decimal digit. -/
  decimal : Char → Option ℕ
  /-- `int` of a float that is not infinite. -/
  truncate : FloatText → ℤ
  /-- The hexadecimal SHA-256 digest of the UTF-8 bytes of a text. -/
  sha256 : String → String

variable {rt : Runtime}

/-- `_digest` of a value. -/
def digest (rt : Runtime) (value : Json) : String := rt.sha256 value.dumps

/-! ### Forbidden statements -/

/-- `re.IGNORECASE` for a capital letter of a pattern, and for the underscore. -/
def sameLetter (letter c : Char) : Bool :=
  c == letter || (letter.isUpper && c.toNat == letter.toNat + 32) ||
    (letter == 'I' && (c.toNat == 0x130 || c.toNat == 0x131)) ||
    (letter == 'S' && c.toNat == 0x17f) || (letter == 'K' && c.toNat == 0x212a)

/-- The last character of a keyword at the start of a text, and the text behind it. -/
def afterKeyword : List Char → Option Char → List Char → Option (Option Char × List Char)
  | [], last, rest => some (last, rest)
  | _ :: _, _, [] => none
  | letter :: letters, _, c :: rest =>
    if sameLetter letter c then afterKeyword letters (some c) rest else none

/-- `\b` between two characters. -/
def boundary (rt : Runtime) (a b : Option Char) : Bool := a.any rt.isWord != b.any rt.isWord

/-- The words that `_FORBIDDEN_SQL` finds as whole words. -/
def forbiddenWords : List String := ["DROP", "DELETE", "TRUNCATE", "ATTACH", "DETACH", "VACUUM",
  "BEGIN", "COMMIT", "ROLLBACK", "SAVEPOINT", "RELEASE"]

/-- A keyword as a whole word, at the start of a text that follows a character. -/
def isWholeWord (rt : Runtime) (last : Option Char) (l : List Char) (word : String) : Bool :=
  boundary rt last l.head? && (afterKeyword word.toList none l).any fun found ↦
    boundary rt found.1 found.2.head?

/-- `_FORBIDDEN_SQL.search` in a text that follows a character. -/
def forbiddenAfter (rt : Runtime) : Option Char → List Char → Bool
  | _, [] => false
  | last, c :: rest =>
    forbiddenWords.any (isWholeWord rt last (c :: rest)) ||
      (afterKeyword "WRITABLE_SCHEMA".toList none (c :: rest)).isSome ||
      forbiddenAfter rt (some c) rest

/-- `_FORBIDDEN_SQL.search`. -/
def forbiddenSql (rt : Runtime) (statement : String) : Bool :=
  forbiddenAfter rt none statement.toList

/-! ### Steps -/

/-- `_text`. -/
def text (value field : String) : Except MigrationError String := do
  require (collapse value ≠ "") (planError s!"{field} must not be empty")
  return collapse value

/-- `MigrationStep`. -/
structure MigrationStep (rt : Runtime) where
  fromVersion : ℤ
  toVersion : ℤ
  description : String
  statements : List String
  positive : 1 ≤ fromVersion
  advances : toVersion = fromVersion + 1
  described : description ≠ ""
  nonempty : statements ≠ []
  permitted : ∀ statement ∈ statements, forbiddenSql rt statement = false

theorem MigrationStep.eq_iff {rt : Runtime} {step other : MigrationStep rt} :
    (step.fromVersion = other.fromVersion ∧ step.toVersion = other.toVersion ∧
      step.description = other.description ∧ step.statements = other.statements) ↔ step = other := by
  cases step
  cases other
  simp

instance (rt : Runtime) : DecidableEq (MigrationStep rt) := fun _ _ ↦
  decidable_of_iff _ MigrationStep.eq_iff

/-- `MigrationStep.__post_init__`. -/
def MigrationStep.create (rt : Runtime) (fromVersion toVersion : ℤ) (description : String)
    (statements : List String) : Except MigrationError (MigrationStep rt) := do
  let hpositive ← ensure (1 ≤ fromVersion) (planError "from_version must be a positive integer")
  let hadvances ← ensure (toVersion = fromVersion + 1)
    (planError "migration steps must advance exactly one version")
  let hdescribed ← ensure (collapse description ≠ "") (planError "description must not be empty")
  let normalized ← statements.mapM (text · "migration SQL")
  let hnonempty ← ensure (normalized ≠ [])
    (planError "migration step requires at least one SQL statement")
  let hpermitted ← ensureEach (fun statement ↦ forbiddenSql rt statement = false)
    (fun _ ↦ planError ("destructive, attached-database, transaction-control or writable-schema " ++
      "SQL requires a separate consequential product decision")) normalized
  return {
    fromVersion
    toVersion
    description := collapse description
    statements := normalized
    positive := hpositive.down
    advances := hadvances.down
    described := hdescribed.down
    nonempty := hnonempty.down
    permitted := hpermitted.down }

/-- `MigrationStep.fingerprint`. -/
def MigrationStep.fingerprint (step : MigrationStep rt) : String :=
  digest rt (.obj [("from", .int step.fromVersion), ("to", .int step.toVersion),
    ("description", .str step.description), ("statements", .arr (step.statements.map .str))])

/-! ### Commands -/

/-- A value of SQLite. -/
inductive SqlValue where
  | null
  | integer (n : ℤ)
  | real (f : FloatText)
  | text (s : String)
  | blob (bytes : List UInt8)
  deriving DecidableEq

/-- A statement with the values of its placeholders, as `Connection.execute` takes it. -/
structure Command where
  sql : String
  arguments : List SqlValue
  deriving DecidableEq

/-- `APP_SCHEMA_KEY`. -/
def appSchemaKey : String := "application_semantic_schema_version"

/-- What a migration executes for a step. -/
def MigrationStep.commands (step : MigrationStep rt) (migrationId : String) : List Command :=
  step.statements.map (⟨·, []⟩) ++ [
    ⟨"INSERT INTO metadata(key,value) VALUES(?,?) " ++
      "ON CONFLICT(key) DO UPDATE SET value=excluded.value",
      [.text appSchemaKey, .text (toString step.toVersion)]⟩,
    ⟨"INSERT INTO application_schema_migrations" ++
      "(migration_id,from_version,to_version,step_fingerprint,description) VALUES(?,?,?,?,?)",
      [.text migrationId, .integer step.fromVersion, .integer step.toVersion,
        .text step.fingerprint, .text step.description]⟩]

theorem mapM_text_eq_ok {given normalized : List String} {field : String}
    (h : given.mapM (text · field) = .ok normalized) : normalized = given.map collapse := by
  induction given generalizing normalized with
  | nil =>
    rw [List.mapM_nil, pure_eq_ok] at h
    exact h.symm
  | cons first rest ih =>
    simp only [List.mapM_cons, bind_eq_ok, text, require_eq_ok, pure_eq_ok] at h
    obtain ⟨_, ⟨_, -, rfl⟩, others, hothers, rfl⟩ := h
    rw [ih hothers, List.map_cons]

/-- The statements of an accepted step. -/
theorem statements_of_create {fromVersion toVersion : ℤ} {description : String} {given : List String}
    {step : MigrationStep rt}
    (h : MigrationStep.create rt fromVersion toVersion description given = .ok step) :
    step.statements = given.map collapse := by
  simp only [MigrationStep.create, bind_eq_ok, pure_eq_ok] at h
  obtain ⟨_, -, _, -, _, -, normalized, hnormalized, _, -, _, -, rfl⟩ := h
  exact mapM_text_eq_ok hnormalized

/-- For every text a step accepts a statement is executed, and it means what the text means exactly
when whitespace stands in the text as a separator only. -/
theorem executed_statement_meaning {fromVersion toVersion : ℤ} {description : String}
    {given : List String} {step : MigrationStep rt}
    (haccepted : MigrationStep.create rt fromVersion toVersion description given = .ok step)
    (migrationId : String) (i : ℕ) (statement : String) (hgiven : given[i]? = some statement) :
    ∃ executed, (step.commands migrationId)[i]? = some ⟨executed, []⟩ ∧
      (sqlLexemes executed = sqlLexemes statement ↔ AsSeparator statement) := by
  refine ⟨collapse statement, ?_, sqlLexemes_collapse_iff statement⟩
  obtain ⟨hlength, -⟩ := List.getElem?_eq_some_iff.mp hgiven
  rw [MigrationStep.commands, statements_of_create haccepted, List.getElem?_append_left (by simpa)]
  simp [hgiven]

/-- A runtime that knows the word characters of ASCII. -/
def asciiRuntime : Runtime where
  isWord c := c.isAlphanum || c == '_'
  decimal c := if c.isDigit then some (c.toNat - 48) else none
  truncate _ := 0
  sha256 s := s

/-- A statement with two spaces in a literal. -/
def spacedStatement : String := "INSERT INTO notes(body) VALUES('a  b')"

theorem spaced_statement_changed :
    ((MigrationStep.create asciiRuntime 1 2 "a note" [spacedStatement]).toOption.map fun step ↦
      ((step.commands "mig_0")[0]?.map Command.sql)) =
        some (some "INSERT INTO notes(body) VALUES('a b')") ∧
      sqlLexemes "INSERT INTO notes(body) VALUES('a b')" ≠ sqlLexemes spacedStatement := by
  decide +kernel

theorem spaced_statement_meaning : ∃ (step : MigrationStep asciiRuntime) (executed : String),
    MigrationStep.create asciiRuntime 1 2 "a note" [spacedStatement] = .ok step ∧
      (step.commands "mig_0")[0]? = some ⟨executed, []⟩ ∧
      (sqlLexemes executed = sqlLexemes spacedStatement ↔ AsSeparator spacedStatement) := by
  have haccepted : (MigrationStep.create asciiRuntime 1 2 "a note"
      [spacedStatement]).toOption.isSome = true := by decide +kernel
  obtain ⟨step, hstep⟩ := Option.isSome_iff_exists.mp haccepted
  have hok := toOption_eq_some.mp hstep
  obtain ⟨executed, hcommand, hmeaning⟩ :=
    executed_statement_meaning hok "mig_0" 0 spacedStatement rfl
  exact ⟨step, executed, hok, hcommand, hmeaning⟩

example : AsSeparator "CREATE TABLE notes(\n  body TEXT\n)\n" :=
  ⟨by decide +kernel, by decide +kernel⟩

end N0te.Migration
