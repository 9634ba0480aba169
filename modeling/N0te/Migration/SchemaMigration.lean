import N0te.Library.DigestTable
import N0te.Migration.SchemaState

/-!
# Schema migrations

`migrateOwned` runs the steps of a plan on a copy of the database of a profile and puts the copy in
the place of the original when it has checked it. What SQL does to the copy, what stands in the way
of the checks and what becomes of the files is an `Environment`, of which nothing is assumed.

Whatever the SQL does, a database is installed only with the history of the profile extended by the
steps of the plan, with the target version, and with the same rows for artists, songs, versions and
assets (`migration_chain_and_history`).
-/

set_option autoImplicit false
set_option relaxedAutoImplicit false

namespace N0te.Migration

open Library

variable {rt : Runtime}

/-! ### The environment -/

/-- When a migration looks at what it does not own. -/
inductive Moment where
  | beginning
  /-- After the rollback snapshot was taken. -/
  | snapshotTaken
  /-- Before the staged database is installed. -/
  | beforeInstall
  deriving DecidableEq

/-- `SnapshotInfo`. -/
structure SnapshotInfo where
  sha256 : String
  sizeBytes : ℕ
  deriving DecidableEq

/-- What a migration meets. `Conn` are the states of the connection to the staged database. -/
structure Environment (Conn : Type) where
  /-- `inspect(plan.profile_id) == maintenance_lease`. -/
  ownsLease : Moment → Except MigrationError Bool
  /-- The database of the profile, unless it is missing or not a real file. -/
  live : Moment → Option ProfileDb
  /-- `_create_execution_snapshot`. -/
  createSnapshot : Except MigrationError SnapshotInfo
  /-- `RecoveryManager.inspect_snapshot`. -/
  inspectSnapshot : Moment → Except MigrationError SnapshotInfo
  /-- `mkdir` of the directory of preserved databases. -/
  makeDirectory : Except MigrationError Unit
  stageExists : Bool
  preservedExists : Bool
  /-- The copy, with a transaction begun. -/
  copy : Except MigrationError Conn
  /-- Whether the copy has a semantic schema version in its metadata. -/
  hasVersion : Conn → Except MigrationError Bool
  /-- `Connection.execute`. -/
  execute : Command → Conn → Except MigrationError Conn
  /-- What queries answer through the connection. -/
  view : Conn → ProfileDb
  /-- The staged database, after the transaction was committed and the connection closed. -/
  commit : Conn → Except MigrationError ProfileDb
  /-- `_fsync_file(stage)`. -/
  syncStage : Except MigrationError Unit
  /-- The copy of the database of the profile, and of its journal files. -/
  preserve : Except MigrationError Unit
  /-- `os.replace(stage, live)`. -/
  replace : Except MigrationError Unit
  /-- The journal files moved back. -/
  moveBack : Except MigrationError Unit
  /-- `_fsync_file(live)` and `_fsync_dir(profile_dir)`. -/
  syncInstalled : Except MigrationError Unit
  /-- `HeadquartersMemory.open`. -/
  openHeadquarters : ProfileDb → Except MigrationError ProfileDb
  /-- `headquarters.close()`. -/
  closeHeadquarters : Except MigrationError Unit
  /-- `RecoveryManager.restore_snapshot`, with the digest of what is installed then. -/
  restoreSnapshot : Except MigrationError String

variable {Conn : Type}

/-! ### Checks -/

/-- `_inspect_path`. -/
def inspectPath (rt : Runtime) (path : Option ProfileDb) (profileId : String) :
    Except MigrationError SchemaState := do
  let db ← orRaise path (validationError "profile database is missing or not a real file")
  match readState rt db profileId with
  | .error ⟨.database, _⟩ => throw (validationError "profile database is unreadable")
  | result => result

/-- `_history_from_path`. -/
def historyFromPath (rt : Runtime) (db : ProfileDb) :
    Except MigrationError (List MigrationHistoryEntry) :=
  match historyRows rt db with
  | .error ⟨.database, _⟩ => throw (validationError "migration history is unreadable")
  | result => result

/-- `_require_prepared_state`. -/
def requirePreparedState (plan : MigrationPlan rt) (state : SchemaState) :
    Except MigrationError Unit := do
  require (state.applicationVersion = plan.sourceVersion)
    (validationError "live application schema version changed after preparation")
  require (state.identityFingerprint = plan.sourceIdentityFingerprint)
    (validationError "Artist/Song identity changed after migration preparation")
  require (state.historyFingerprint = plan.sourceHistoryFingerprint)
    (validationError "migration history changed after migration preparation")

def lastSequence (history : List MigrationHistoryEntry) : ℤ :=
  (history.getLast?.map MigrationHistoryEntry.sequence).getD 0

/-- An entry says what a plan did with a step. -/
def Describes (plan : MigrationPlan rt) (entry : MigrationHistoryEntry) (step : MigrationStep rt) :
    Prop :=
  entry.migrationId = plan.migrationId ∧ entry.fromVersion = step.fromVersion ∧
    entry.toVersion = step.toVersion ∧ entry.stepFingerprint = step.fingerprint ∧
    entry.description = step.description

instance (plan : MigrationPlan rt) (entry : MigrationHistoryEntry) (step : MigrationStep rt) :
    Decidable (Describes plan entry step) :=
  inferInstanceAs (Decidable (_ ∧ _ ∧ _ ∧ _ ∧ _))

/-- The loop of `_validate_history_append`. -/
def validateEntries (plan : MigrationPlan rt) (previousSequence : ℤ) :
    ℕ → List (MigrationHistoryEntry × MigrationStep rt) → Except MigrationError Unit
  | _, [] => return ()
  | index, (entry, step) :: rest => do
    require (entry.sequence = previousSequence + index)
      (validationError "migration history sequence is not contiguous")
    require (Describes plan entry step)
      (validationError "migration history does not exactly describe executed step")
    validateEntries plan previousSequence (index + 1) rest

/-- `_validate_history_append`. -/
def validateHistoryAppend (before after : List MigrationHistoryEntry) (plan : MigrationPlan rt) :
    Except MigrationError Unit := do
  require (after.take before.length = before)
    (validationError "migration rewrote prior migration history")
  let appended := after.drop before.length
  require (appended.length = plan.steps.length)
    (validationError "migration history append count does not match plan")
  validateEntries plan (lastSequence before) 1 (appended.zip plan.steps)

/-! ### Staging -/

/-- The maintenance lease is still the one of the migration. -/
def requireLease (env : Environment Conn) (moment : Moment) (message : String) :
    Except MigrationError Unit := do
  let owns ← env.ownsLease moment
  require (owns = true) (validationError message)

/-- The live database is as the plan found it. -/
def requireLive (rt : Runtime) (env : Environment Conn) (plan : MigrationPlan rt)
    (moment : Moment) : Except MigrationError Unit := do
  let current ← inspectPath rt (env.live moment) plan.profileId
  requirePreparedState plan current

/-- The rollback snapshot is as it was taken. -/
def requireSnapshot (env : Environment Conn) (snapshot : SnapshotInfo) (moment : Moment)
    (message : String) : Except MigrationError Unit := do
  let inspected ← env.inspectSnapshot moment
  require (inspected = snapshot) (validationError message)

/-- The part of `_migrate_owned` before the staged database: a rollback snapshot. -/
def takeSnapshot (env : Environment Conn) (plan : MigrationPlan rt) :
    Except MigrationError SnapshotInfo := do
  requireLease env .beginning "exact migration maintenance lease ownership was lost"
  requireLive rt env plan .beginning
  let snapshot ← env.createSnapshot
  requireLease env .snapshotTaken
    "maintenance ownership changed while creating rollback snapshot"
  requireLive rt env plan .snapshotTaken
  requireSnapshot env snapshot .snapshotTaken "execution rollback snapshot changed after creation"
  env.makeDirectory
  return snapshot

/-- The semantic schema version of a database that has none. -/
def insertDefaultVersion : Command :=
  ⟨"INSERT INTO metadata(key,value) VALUES(?,?)", [.text appSchemaKey, .text "1"]⟩

/-- The copy with a semantic schema version. -/
def ensureVersion (env : Environment Conn) (copied : Conn) : Except MigrationError Conn := do
  if ← env.hasVersion copied then return copied else env.execute insertDefaultVersion copied

def createHistory : Command := ⟨"CREATE TABLE IF NOT EXISTS application_schema_migrations (\n" ++
  "                    sequence INTEGER PRIMARY KEY AUTOINCREMENT,\n" ++
  "                    migration_id TEXT NOT NULL,\n" ++
  "                    from_version INTEGER NOT NULL,\n" ++
  "                    to_version INTEGER NOT NULL,\n" ++
  "                    step_fingerprint TEXT NOT NULL,\n" ++
  "                    description TEXT NOT NULL,\n" ++
  "                    UNIQUE(migration_id,to_version)\n" ++
  "                )", []⟩

def executeAll (env : Environment Conn) : List Command → Conn → Except MigrationError Conn
  | [], conn => return conn
  | command :: rest, conn => do executeAll env rest (← env.execute command conn)

def executeSteps (env : Environment Conn) (plan : MigrationPlan rt) :
    ℤ → List (MigrationStep rt) → Conn → Except MigrationError Conn
  | _, [], conn => return conn
  | version, step :: rest, conn => do
    require (step.fromVersion = version)
      (validationError "migration step no longer matches staged version")
    executeSteps env plan step.toVersion rest
      (← executeAll env (step.commands plan.migrationId) conn)

/-- The part of `_migrate_owned` up to `os.replace`: the staged database and its history. -/
def stageMigration (env : Environment Conn) (plan : MigrationPlan rt) (snapshot : SnapshotInfo) :
    Except MigrationError (ProfileDb × List MigrationHistoryEntry) := do
  require (env.stageExists = false) (validationError "migration stage path already exists")
  require (env.preservedExists = false)
    (validationError "migration preservation path already exists")
  let copied ← env.copy
  let versioned ← ensureVersion env copied
  let begun ← env.execute createHistory versioned
  let before ← historyRows rt (env.view begun)
  require (historyDigest rt before = plan.sourceHistoryFingerprint)
    (validationError "staged source migration history does not match prepared plan")
  let migrated ← executeSteps env plan plan.sourceVersion plan.steps begun
  let expected ← historyRows rt (env.view migrated)
  validateHistoryAppend before expected plan
  let staged ← env.commit migrated
  let candidate ← inspectPath rt (some staged) plan.profileId
  require (candidate.applicationVersion = plan.targetVersion)
    (validationError "staged migration did not reach target version")
  require (candidate.identityFingerprint = plan.sourceIdentityFingerprint)
    (validationError "staged migration changed canonical Artist/Song identity")
  let history ← historyFromPath rt staged
  require (history = expected)
    (validationError "staged migration history changed after commit")
  env.syncStage
  requireLease env .beforeInstall "migration maintenance ownership changed before install"
  requireLive rt env plan .beforeInstall
  requireSnapshot env snapshot .beforeInstall
    "execution rollback snapshot changed before install"
  env.preserve
  return (staged, expected)

/-! ### Installing -/

/-- `MIGRATION_STATES`. -/
inductive MigrationResultState where
  | noChange
  | succeeded
  | rolledBack
  | recoveryRequired
  deriving DecidableEq

/-- `MigrationResult`. -/
structure MigrationResult (rt : Runtime) where
  state : MigrationResultState
  plan : MigrationPlan rt
  installedVersion : Option ℤ
  rollbackSnapshotSha256 : Option String
  evidence : String

/-- `_restore_after_install_failure`. -/
def restoreAfterInstallFailure (env : Environment Conn) (plan : MigrationPlan rt)
    (snapshot : SnapshotInfo) (failure : MigrationError) : MigrationResult rt :=
  match env.restoreSnapshot with
  | .error restoreFailure => ⟨.recoveryRequired, plan, none, some snapshot.sha256,
    s!"installed migration validation failed ({failure.text}) and exact snapshot restore also " ++
      s!"failed ({restoreFailure.text})"⟩
  | .ok restored => ⟨.rolledBack, plan, some plan.sourceVersion, some restored,
    "installed migration failure was compensated by exact maintenance-owned snapshot restore: " ++
      failure.text⟩

/-- The checks of the database that was installed, as Headquarters opens it. -/
def validateInstalled (env : Environment Conn) (plan : MigrationPlan rt) (staged : ProfileDb)
    (expected : List MigrationHistoryEntry) : Except MigrationError Unit := do
  let opened ← env.openHeadquarters staged
  let checked : Except MigrationError Unit := do
    let final ← readState rt opened plan.profileId
    require (final.applicationVersion = plan.targetVersion)
      (validationError "installed database reports wrong target version")
    require (final.identityFingerprint = plan.sourceIdentityFingerprint)
      (validationError "installed migration changed canonical identity")
    let history ← historyRows rt opened
    require (history = expected)
      (validationError "installed migration history does not match staged history")
  env.closeHeadquarters
  checked

/-- A `MigrationPlanError` or a `MigrationValidationError`, which is raised as it is. -/
def isMigrationError (failure : MigrationError) : Bool :=
  failure.cls = .migrationPlan || failure.cls = .migrationValidation

def failedBeforeInstall (failure : MigrationError) : MigrationError :=
  if isMigrationError failure then failure
  else ⟨.schemaMigration, "staged migration failed before install: " ++ failure.text⟩

/-- The part of `_migrate_owned` after `os.replace`. -/
def finishInstall (env : Environment Conn) (plan : MigrationPlan rt) (snapshot : SnapshotInfo)
    (staged : ProfileDb) (expected : List MigrationHistoryEntry) :
    Except MigrationError (MigrationResult rt) :=
  match env.syncInstalled with
  | .error failure =>
    if isMigrationError failure then .error failure
    else .ok (restoreAfterInstallFailure env plan snapshot failure)
  | .ok () => .ok <| match validateInstalled env plan staged expected with
    | .error failure => restoreAfterInstallFailure env plan snapshot failure
    | .ok () => ⟨.succeeded, plan, some plan.targetVersion, some snapshot.sha256,
      "staged migration preserved canonical identity and prior history, installed atomically, " ++
        "and reopened Headquarters successfully"⟩

/-- What a migration did. -/
structure Outcome (rt : Runtime) where
  /-- The database that `os.replace` put in the place of that of the profile. -/
  installed : Option ProfileDb
  result : Except MigrationError (MigrationResult rt)

/-- `_migrate_owned`. -/
def migrateOwned (env : Environment Conn) (plan : MigrationPlan rt) : Outcome rt :=
  match takeSnapshot env plan with
  | .error failure => ⟨none, .error failure⟩
  | .ok snapshot =>
    match stageMigration env plan snapshot with
    | .error failure => ⟨none, .error (failedBeforeInstall failure)⟩
    | .ok (staged, expected) =>
      match env.replace, env.moveBack with
      | .error _, .error failure => ⟨none, .error (failedBeforeInstall failure)⟩
      | .error failure, .ok () => ⟨none, .error (failedBeforeInstall failure)⟩
      | .ok (), _ => ⟨some staged, finishInstall env plan snapshot staged expected⟩

/-! ### What is installed -/

variable {env : Environment Conn} {plan : MigrationPlan rt} {staged : ProfileDb}

theorem inspectPath_eq_ok {path : Option ProfileDb} {profileId : String} {state : SchemaState}
    (h : inspectPath rt path profileId = .ok state) :
    ∃ db, path = some db ∧ readState rt db profileId = .ok state := by
  simp only [inspectPath, bind_eq_ok, orRaise_eq_ok] at h
  obtain ⟨db, hdb, h⟩ := h
  refine ⟨db, hdb, ?_⟩
  split at h
  · cases h
  · exact h

theorem historyFromPath_eq_ok {history : List MigrationHistoryEntry}
    (h : historyFromPath rt staged = .ok history) : historyRows rt staged = .ok history := by
  unfold historyFromPath at h
  split at h
  · cases h
  · exact h

/-- A database that is as the plan found it. -/
def Prepared (plan : MigrationPlan rt) (db : ProfileDb) : Prop :=
  ∃ state, readState rt db plan.profileId = .ok state ∧
    requirePreparedState plan state = .ok ()

theorem requireLive_eq_ok {moment : Moment} (h : requireLive rt env plan moment = .ok ()) :
    ∃ source, env.live moment = some source ∧ Prepared plan source := by
  simp only [requireLive, bind_eq_ok] at h
  obtain ⟨state, hstate, hprepared⟩ := h
  obtain ⟨source, hsource, hread⟩ := inspectPath_eq_ok hstate
  exact ⟨source, hsource, state, hread, hprepared⟩

/-- Entry by entry, in the order of the sequence numbers. -/
theorem validateEntries_eq_ok {previousSequence : ℤ} {index : ℕ}
    {pairs : List (MigrationHistoryEntry × MigrationStep rt)}
    (h : validateEntries plan previousSequence index pairs = .ok ()) :
    ∀ (i : ℕ) (pair : _ × _), pairs[i]? = some pair →
      pair.1.sequence = previousSequence + index + i ∧ Describes plan pair.1 pair.2 := by
  induction pairs generalizing index with
  | nil => simp
  | cons first rest ih =>
    simp only [validateEntries, bind_eq_ok, require_eq_ok] at h
    obtain ⟨_, hsequence, _, hdescribes, hrest⟩ := h
    intro i pair hpair
    cases i with
    | zero =>
      obtain rfl := Option.some.inj hpair
      exact ⟨by simpa using hsequence, hdescribes⟩
    | succ i =>
      obtain ⟨hnext, hnextDescribes⟩ := ih hrest i pair hpair
      refine ⟨?_, hnextDescribes⟩
      push_cast at hnext ⊢
      omega

/-- A history is extended by one entry for each step, in order and without a gap. -/
structure Extends (plan : MigrationPlan rt) (before after : List MigrationHistoryEntry) : Prop where
  keeps : before <+: after
  describes : List.Forall₂ (Describes plan) (after.drop before.length) plan.steps
  contiguous : ∀ (i : ℕ) (entry : MigrationHistoryEntry), (after.drop before.length)[i]? =
    some entry → entry.sequence = lastSequence before + i + 1

theorem extends_of_validate {before after : List MigrationHistoryEntry}
    (h : validateHistoryAppend before after plan = .ok ()) : Extends plan before after := by
  simp only [validateHistoryAppend, bind_eq_ok, require_eq_ok] at h
  obtain ⟨_, htake, _, hlength, hentries⟩ := h
  have hpairs := validateEntries_eq_ok hentries
  have hpair {i : ℕ} {entry : MigrationHistoryEntry}
      (hentry : (after.drop before.length)[i]? = some entry) : ∃ step, plan.steps[i]? = some step ∧
        ((after.drop before.length).zip plan.steps)[i]? = some (entry, step) := by
    obtain ⟨hi, -⟩ := List.getElem?_eq_some_iff.mp hentry
    have hstep := List.getElem?_eq_getElem (hlength ▸ hi : i < plan.steps.length)
    exact ⟨_, hstep, List.getElem?_zip_eq_some.mpr ⟨hentry, hstep⟩⟩
  constructor
  · rw [← htake]
    exact List.take_prefix _ _
  · refine List.forall₂_iff_get.mpr ⟨hlength, fun i hi hstep ↦ ?_⟩
    have hzip : ((after.drop before.length).zip plan.steps)[i]? =
        some ((after.drop before.length).get ⟨i, hi⟩, plan.steps.get ⟨i, hstep⟩) :=
      List.getElem?_zip_eq_some.mpr
        ⟨List.getElem?_eq_getElem hi, List.getElem?_eq_getElem hstep⟩
    exact (hpairs i _ hzip).2
  · intro i entry hentry
    obtain ⟨step, -, hzip⟩ := hpair hentry
    have hsequence := (hpairs i _ hzip).1
    push_cast at hsequence
    omega

/-- What was checked of a staged database. -/
theorem stageMigration_eq_ok {snapshot : SnapshotInfo} {expected : List MigrationHistoryEntry}
    (h : stageMigration env plan snapshot = .ok (staged, expected)) :
    ∃ before candidate, historyDigest rt before = plan.sourceHistoryFingerprint ∧
      Extends plan before expected ∧ historyRows rt staged = .ok expected ∧
      readState rt staged plan.profileId = .ok candidate ∧
      candidate.applicationVersion = plan.targetVersion ∧
      candidate.identityFingerprint = plan.sourceIdentityFingerprint ∧
      requireLive rt env plan .beforeInstall = .ok () := by
  simp only [stageMigration, bind_eq_ok, require_eq_ok, pure_eq_ok, Prod.mk.injEq] at h
  obtain ⟨_, -, _, -, _, -, _, -, begun, -, before, -, _, hdigest, migrated, -, expected', -, _,
    happend, staged', -, candidate, hcandidate, _, hversion, _, hidentity, history, hhistory, _,
    hsame, _, -, _, -, _, hlive, _, -, _, -, rfl, rfl⟩ := h
  obtain ⟨db, hdb, hread⟩ := inspectPath_eq_ok hcandidate
  obtain rfl := Option.some.inj hdb
  refine ⟨before, candidate, hdigest, extends_of_validate happend, ?_, hread, hversion, hidentity,
    hlive⟩
  rw [← hsame]
  exact historyFromPath_eq_ok hhistory

/-- The live database was as the plan found it whenever it was looked at. -/
theorem takeSnapshot_eq_ok {snapshot : SnapshotInfo} (h : takeSnapshot env plan = .ok snapshot) :
    requireLive rt env plan .beginning = .ok () ∧
      requireLive rt env plan .snapshotTaken = .ok () := by
  simp only [takeSnapshot, bind_eq_ok] at h
  obtain ⟨_, -, _, hbeginning, _, -, _, -, _, hsnapshot, -⟩ := h
  exact ⟨hbeginning, hsnapshot⟩

theorem staged_of_installed (h : (migrateOwned env plan).installed = some staged) :
    ∃ snapshot expected, takeSnapshot env plan = .ok snapshot ∧
      stageMigration env plan snapshot = .ok (staged, expected) := by
  unfold migrateOwned at h
  split at h
  · cases h
  · rename_i snapshot hsnapshot
    split at h
    · cases h
    · rename_i db expected hstaged
      split at h
      · cases h
      · cases h
      · obtain rfl := Option.some.inj h
        exact ⟨snapshot, expected, hsnapshot, hstaged⟩

def IsMigrated (env : Environment Conn) (plan : MigrationPlan rt) (db : ProfileDb) : Prop :=
  ∃ before after rows,
    (∀ moment, ∃ source, env.live moment = some source ∧ historyRows rt source = .ok before ∧
      identityRows source = .ok rows) ∧
    historyRows rt db = .ok after ∧ Extends plan before after ∧
    schemaVersion rt db = .ok plan.targetVersion ∧ identityRows db = .ok rows

/-- Whatever SQL does, only a migrated database is installed. -/
theorem isMigrated_of_installed (hsha : Function.Injective rt.sha256)
    (h : (migrateOwned env plan).installed = some staged) : IsMigrated env plan staged := by
  obtain ⟨snapshot, after, hsnapshot, hstaged⟩ := staged_of_installed h
  obtain ⟨hbeginning, htaken⟩ := takeSnapshot_eq_ok hsnapshot
  obtain ⟨before, candidate, hdigest, hextends, hafter, hread, hversion, hidentity, hinstall⟩ :=
    stageMigration_eq_ok hstaged
  obtain ⟨rows, _, _, _, hrows, -, -, -, -, hschema⟩ := readState_eq_ok hread
  have hlive : ∀ moment, requireLive rt env plan moment = .ok () := by
    intro moment
    cases moment with
    | beginning => exact hbeginning
    | snapshotTaken => exact htaken
    | beforeInstall => exact hinstall
  refine ⟨before, after, rows, fun moment ↦ ?_, hafter, hextends, hversion ▸ hschema, hrows⟩
  obtain ⟨source, hsource, state, hstate, hprepared⟩ := requireLive_eq_ok (hlive moment)
  simp only [requirePreparedState, bind_eq_ok, require_eq_ok] at hprepared
  obtain ⟨_, -, _, hsame, hhistory⟩ := hprepared
  obtain ⟨rows', hstaged', hsource'⟩ :=
    rows_eq_of_state hsha hread hstate (hidentity.trans hsame.symm)
  have hrowsSame : rows' = rows := Except.ok.inj (hstaged'.symm.trans hrows)
  exact ⟨source, hsource, history_eq_of_state hsha hstate (hdigest.trans hhistory.symm),
    hrowsSame ▸ hsource'⟩

/-- A chain is selected exactly from the programs that lead to the target from the source, it is the
end of the program that connects the two, and a plan accepts it; and whatever its SQL does to the
staged database, that is installed only as the migrated database of the profile.

Assumes: no collisions among digests. -/
theorem migration_chain_and_history (hsha : Function.Injective rt.sha256) :
    (∀ (source target : ℤ) (program : List (MigrationStep rt)),
      ((∃ chain, selectMigrationChain source target program = .ok chain) ↔
        (1 ≤ source ∧ 1 ≤ target) ∧ Contiguous program ∧ endVersion source program = target ∧
          (source ≠ target → ∃ step ∈ program, step.fromVersion = source)) ∧
      ∀ chain, selectMigrationChain source target program = .ok chain →
        (chain <:+ program ∧ Connects source target chain ∧
          ∀ other, other <:+ program → Connects source target other → other = chain) ∧
        ∀ migrationId profileId identity history, isMigrationId migrationId = true →
          isProfileId profileId = true → isSha256 identity = true → isSha256 history = true →
          ∃ plan, MigrationPlan.create migrationId profileId source target identity history chain =
            .ok plan ∧ plan.steps = chain) ∧
    ∀ (Conn : Type) (env : Environment Conn) (plan : MigrationPlan rt) (db : ProfileDb),
      (migrateOwned env plan).installed = some db → IsMigrated env plan db := by
  refine ⟨fun source target program ↦ ⟨exists_select_iff, fun chain hchain ↦ ?_⟩,
    fun _ _ _ _ ↦ isMigrated_of_installed hsha⟩
  obtain ⟨⟨hpositive, -, -⟩, hsuffix, hconnects⟩ := select_eq_ok_iff.mp hchain
  constructor
  · exact ⟨hsuffix, hconnects, fun other hother hconnectsOther ↦
      hconnects.eq_of_suffix hconnectsOther hsuffix hother⟩
  · intro migrationId profileId identity history hmigration hprofile hidentity hhistory
    exact create_of_connects hmigration hprofile hpositive hidentity hhistory hconnects

/-! ### A migration -/

def sampleProfile : String := "prf_00000000000000000000000000000000"

def sampleMigration : String := "mig_00000000000000000000000000000000"

def sampleStatement : String := "CREATE TABLE notes(body TEXT)"

def sampleStepDigest : String := "a9c6695fa947868c98d45847bf377e4deab6bc00bedf2f26ba5b09c489190e47"

def sampleIdentityDigest : String :=
  "40ec50e02b504a745bdd08b18387edf6d69f1d94eb14f4646c0267e2a511b18a"

def sampleHistoryDigest : String :=
  "4f53cda18c2baa0c0354bb5f9a3ecbe5ed12ab4d8e11ba873c2f11161202b945"

def sampleMetadata : Json := .obj [("profile_id", .str sampleProfile),
  ("primary_artist_id", .str "art_1"), ("active_song_id", .str "song_1"),
  ("lineage_schema_version", .str "1")]

def sampleIdentity : Json := .obj [("metadata", sampleMetadata),
  ("artists", .arr [.arr [.str "art_1", .str "Ana"]]),
  ("songs", .arr [.arr [.str "song_1", .str "art_1", .str "Dawn", .null, .null]]),
  ("versions", .arr []), ("assets", .arr []), ("version_assets", .arr [])]

def sampleEntry : MigrationHistoryEntry where
  sequence := 1
  migrationId := sampleMigration
  fromVersion := 1
  toVersion := 2
  stepFingerprint := sampleStepDigest
  description := "add notes"

def sampleStepDocument : Json := .obj [("from", .int 1), ("to", .int 2),
  ("description", .str "add notes"), ("statements", .arr [.str sampleStatement])]

def sampleNoHistory : Json := .arr []

def sampleDigests : List (String × String) := [
  (sampleStepDocument.dumps, sampleStepDigest),
  (sampleIdentity.dumps, sampleIdentityDigest),
  (sampleNoHistory.dumps, sampleHistoryDigest),
  (Json.dumps (.arr [sampleEntry.fingerprintData]),
    "484a8fc492d2fcc3a66cf747c860af05f5ee5f88d47502307a9b52d902bc53f8")]

/-- A runtime that answers as the real one does on what the migration asks. -/
def sampleRuntime : Runtime where
  isWord c := c.isAlphanum || c == '_'
  decimal c := if c.isDigit then some (c.toNat - 48) else none
  truncate _ := 0
  sha256 := tableDigest sampleDigests

theorem sampleRuntime_injective : Function.Injective sampleRuntime.sha256 :=
  tableDigest_injective (by decide +kernel) (by decide +kernel)

def sampleStep : MigrationStep sampleRuntime where
  fromVersion := 1
  toVersion := 2
  description := "add notes"
  statements := [sampleStatement]
  positive := by decide
  advances := by decide
  described := by decide
  nonempty := by decide
  permitted := by decide +kernel

def samplePlan : MigrationPlan sampleRuntime where
  migrationId := sampleMigration
  profileId := sampleProfile
  sourceVersion := 1
  targetVersion := 2
  sourceIdentityFingerprint := sampleIdentityDigest
  sourceHistoryFingerprint := sampleHistoryDigest
  steps := [sampleStep]
  migration := by decide +kernel
  profile := by decide +kernel
  positive := by decide
  identity := by decide +kernel
  history := by decide +kernel
  chain := validateChain_eq_ok_iff.mpr ⟨rfl, rfl⟩

def sampleRows : List (SqlValue × SqlValue) := [
  (.text "profile_id", .text sampleProfile), (.text "schema_version", .text "1"),
  (.text "primary_artist_id", .text "art_1"), (.text "active_song_id", .text "song_1")]

def sampleIdentityRows : IdentityRows where
  artists := [[.text "art_1", .text "Ana"]]
  songs := [[.text "song_1", .text "art_1", .text "Dawn", .null, .null]]
  versions := []
  assets := []
  versionAssets := []

def sampleDb (version : List (SqlValue × SqlValue)) (history : List HistoryRow) : ProfileDb where
  quickCheck := .ok (some (.text "ok"))
  foreignKeyCheck := .ok []
  metadata := .ok (sampleRows ++ version)
  artists := .ok sampleIdentityRows.artists
  songs := .ok sampleIdentityRows.songs
  versions := .ok sampleIdentityRows.versions
  assets := .ok sampleIdentityRows.assets
  versionAssets := .ok sampleIdentityRows.versionAssets
  hasHistory := .ok true
  historyRows := .ok history

def sampleMigrated : ProfileDb :=
  sampleDb [(.text appSchemaKey, .text "2")] [{
    sequence := .integer 1
    migrationId := .text sampleMigration
    fromVersion := .integer 1
    toVersion := .integer 2
    stepFingerprint := .text sampleStepDigest
    description := .text "add notes" }]

/-- An environment in which nothing fails. The connection counts the commands. -/
def sampleEnvironment : Environment ℕ where
  ownsLease _ := .ok true
  live _ := some (sampleDb [] [])
  createSnapshot := .ok ⟨"snapshot", 1⟩
  inspectSnapshot _ := .ok ⟨"snapshot", 1⟩
  makeDirectory := .ok ()
  stageExists := false
  preservedExists := false
  copy := .ok 0
  hasVersion _ := .ok false
  execute _ count := .ok (count + 1)
  view count := if count ≤ 2 then sampleDb [(.text appSchemaKey, .text "1")] [] else sampleMigrated
  commit _ := .ok sampleMigrated
  syncStage := .ok ()
  preserve := .ok ()
  replace := .ok ()
  moveBack := .ok ()
  syncInstalled := .ok ()
  openHeadquarters := .ok
  closeHeadquarters := .ok ()
  restoreSnapshot := .ok "snapshot"

theorem sampleRuntime_digest (document : Json) :
    digest sampleRuntime document = tableDigest sampleDigests document.dumps := rfl

theorem sampleStep_fingerprint : sampleStep.fingerprint = sampleStepDigest := by
  show digest sampleRuntime sampleStepDocument = sampleStepDigest
  rw [sampleRuntime_digest, sampleDigests, tableDigest_self]

theorem sampleIdentity_digest : digest sampleRuntime sampleIdentity = sampleIdentityDigest := by
  have hstep : sampleIdentity.dumps ≠ sampleStepDocument.dumps :=
    Json.dumps_ne_of_get "from" fun h ↦ Json.noConfusion h
  rw [sampleRuntime_digest, sampleDigests, tableDigest_of_ne hstep, tableDigest_self]

theorem sampleHistory_digest : historyDigest sampleRuntime [] = sampleHistoryDigest := by
  have hstep : sampleNoHistory.dumps ≠ sampleStepDocument.dumps :=
    Json.dumps_ne_of_get "from" fun h ↦ Json.noConfusion h
  have hidentity : sampleNoHistory.dumps ≠ sampleIdentity.dumps :=
    Json.dumps_ne_of_get "metadata" fun h ↦ Json.noConfusion h
  show digest sampleRuntime sampleNoHistory = sampleHistoryDigest
  rw [sampleRuntime_digest, sampleDigests, tableDigest_of_ne hstep, tableDigest_of_ne hidentity,
    tableDigest_self]

/-- Rows of another key change nothing. -/
theorem metadataValue_append {rows others : List (SqlValue × SqlValue)} {key : String}
    (h : ∀ row ∈ others, row.1.str ≠ key) :
    metadataValue (rows ++ others) key = metadataValue rows key := by
  have hnone : others.reverse.find? (fun row ↦ row.1.str = key) = none :=
    List.find?_eq_none.mpr fun row hrow ↦ by simpa using h row (List.mem_reverse.mp hrow)
  rw [metadataValue, metadataValue, List.reverse_append, List.find?_append, hnone, Option.none_or]

/-- The metadata that all databases of the sample have. -/
theorem metadataValue_sampleDb {version : List (SqlValue × SqlValue)}
    (hversion : ∀ row ∈ version, row.1 = .text appSchemaKey) {key value : String}
    (hkey : appSchemaKey ≠ key)
    (hvalue : metadataValue sampleRows key = some value) :
    metadataValue (sampleRows ++ version) key = some value := by
  rw [metadataValue_append, hvalue]
  intro row hrow
  rw [hversion row hrow]
  exact hkey

theorem readState_sampleDb {version : List (SqlValue × SqlValue)} {history : List HistoryRow}
    {number : ℤ} {entries : List MigrationHistoryEntry}
    (hversion : ∀ row ∈ version, row.1 = .text appSchemaKey)
    (hnumber : readVersion sampleRuntime (sampleRows ++ version) = .ok number)
    (hhistory : historyRows sampleRuntime (sampleDb version history) = .ok entries) :
    readState sampleRuntime (sampleDb version history) sampleProfile = .ok {
      profileId := sampleProfile
      applicationVersion := number
      lineageVersion := "1"
      identityFingerprint := sampleIdentityDigest
      historyFingerprint := historyDigest sampleRuntime entries } := by
  have hprofile : metadataValue (sampleRows ++ version) "profile_id" = some sampleProfile :=
    metadataValue_sampleDb hversion (by decide) (by decide +kernel)
  have hlineage : metadataValue (sampleRows ++ version) "schema_version" = some "1" :=
    metadataValue_sampleDb hversion (by decide) (by decide +kernel)
  have hartist : metadataValue (sampleRows ++ version) "primary_artist_id" = some "art_1" :=
    metadataValue_sampleDb hversion (by decide) (by decide +kernel)
  have hsong : metadataValue (sampleRows ++ version) "active_song_id" = some "song_1" :=
    metadataValue_sampleDb hversion (by decide) (by decide +kernel)
  have hrows : identityRows (sampleDb version history) = .ok sampleIdentityRows := rfl
  have hidentity : identityJson sampleMetadata sampleIdentityRows = .ok sampleIdentity := rfl
  rw [sampleMetadata] at hidentity
  have hdatabase : (sampleDb version history).metadata = .ok (sampleRows ++ version) := rfl
  simp only [readState, bind_eq_ok, require_eq_ok, orRaise_eq_ok, pure_eq_ok]
  refine ⟨_, rfl, (), rfl, _, rfl, (), rfl, sampleRows ++ version, rfl, (), hprofile, (), ?_, (),
    ?_, "song_1", hsong, number, hnumber, _, hrows, entries, hhistory, sampleIdentity, ?_, ?_⟩
  · rw [hlineage]
    decide
  · rw [hartist]
    decide
  · rw [hlineage, hartist]
    exact hidentity
  · rw [hlineage, sampleIdentity_digest]
    rfl

theorem sample_readVersion : readVersion sampleRuntime (sampleRows ++ []) = .ok 1 := by
  decide +kernel

theorem sample_readVersion_migrated :
    readVersion sampleRuntime (sampleRows ++ [(.text appSchemaKey, .text "2")]) = .ok 2 := by
  decide +kernel

theorem inspectPath_of_readState {db : ProfileDb} {profileId : String} {state : SchemaState}
    (h : readState rt db profileId = .ok state) :
    inspectPath rt (some db) profileId = .ok state := by
  rw [inspectPath, bind_eq_ok]
  refine ⟨db, rfl, ?_⟩
  rw [h]

/-- The live database is as the plan of the sample found it. -/
theorem sample_live (moment : Moment) :
    requireLive sampleRuntime sampleEnvironment samplePlan moment = .ok () := by
  have hstate := @readState_sampleDb [] [] 1 [] (by simp) sample_readVersion rfl
  rw [requireLive, bind_eq_ok]
  refine ⟨_, inspectPath_of_readState hstate, ?_⟩
  simp only [requirePreparedState, bind_eq_ok, require_eq_ok, exists_const]
  exact ⟨rfl, rfl, sampleHistory_digest⟩

theorem sample_history : historyRows sampleRuntime sampleMigrated = .ok [sampleEntry] := rfl

theorem sample_staged : stageMigration sampleEnvironment samplePlan ⟨"snapshot", 1⟩ =
    .ok (sampleMigrated, [sampleEntry]) := by
  have hstate : inspectPath sampleRuntime (some sampleMigrated) sampleProfile = .ok {
      profileId := sampleProfile
      applicationVersion := 2
      lineageVersion := "1"
      identityFingerprint := sampleIdentityDigest
      historyFingerprint := historyDigest sampleRuntime [sampleEntry] } := by
    have hread := readState_sampleDb (fun row hrow ↦ by rw [List.mem_singleton.mp hrow])
      sample_readVersion_migrated sample_history
    exact inspectPath_of_readState hread
  have happend : validateHistoryAppend [] [sampleEntry] samplePlan = .ok () := by
    have hdescribes : Describes samplePlan sampleEntry sampleStep :=
      ⟨rfl, rfl, rfl, sampleStep_fingerprint.symm, rfl⟩
    simp only [validateHistoryAppend, bind_eq_ok, require_eq_ok, exists_const]
    refine ⟨rfl, rfl, ?_⟩
    show validateEntries samplePlan 0 1 [(sampleEntry, sampleStep)] = _
    simp only [validateEntries, bind_eq_ok, require_eq_ok, exists_const]
    exact ⟨rfl, hdescribes, rfl⟩
  simp only [stageMigration, bind_eq_ok, require_eq_ok, pure_eq_ok]
  refine ⟨(), rfl, (), rfl, (0 : ℕ), rfl, (1 : ℕ), rfl, (2 : ℕ), rfl, [], rfl, (),
    sampleHistory_digest, (5 : ℕ), rfl, [sampleEntry], rfl, (), happend, sampleMigrated, rfl, _,
    hstate, (), rfl, (), rfl, [sampleEntry], ?_, (), rfl, (), rfl, (), ?_, (), sample_live _, (),
    ?_, (), rfl, rfl⟩
  · simp only [historyFromPath, sample_history]
  · rfl
  · rfl

theorem sample_snapshot : takeSnapshot sampleEnvironment samplePlan = .ok ⟨"snapshot", 1⟩ := by
  simp only [takeSnapshot, bind_eq_ok, pure_eq_ok]
  exact ⟨(), rfl, (), sample_live _, _, rfl, (), rfl, (), sample_live _, (), rfl, (), rfl, rfl⟩

theorem installed_of_staged {Conn : Type} {env : Environment Conn} {plan : MigrationPlan rt}
    {snapshot : SnapshotInfo} {staged : ProfileDb} {expected : List MigrationHistoryEntry}
    (hsnapshot : takeSnapshot env plan = .ok snapshot)
    (hstaged : stageMigration env plan snapshot = .ok (staged, expected))
    (hreplace : env.replace = .ok ()) (hmove : env.moveBack = .ok ()) :
    (migrateOwned env plan).installed = some staged := by
  simp only [migrateOwned, hsnapshot, hstaged, hreplace, hmove]

theorem sample_installed :
    (migrateOwned sampleEnvironment samplePlan).installed = some sampleMigrated :=
  installed_of_staged sample_snapshot sample_staged rfl rfl

theorem sample_migration_chain_and_history :
    (∃ chain, selectMigrationChain 1 2 [sampleStep] = .ok chain ∧ Connects 1 2 chain) ∧
      ∃ db, (migrateOwned sampleEnvironment samplePlan).installed = some db ∧
        IsMigrated sampleEnvironment samplePlan db := by
  obtain ⟨hselect, hinstalled⟩ := migration_chain_and_history sampleRuntime_injective
  constructor
  · obtain ⟨hwhen, hchain⟩ := hselect 1 2 [sampleStep]
    have hcontiguous : Contiguous [sampleStep] := List.IsChain.singleton _
    obtain ⟨chain, hselected⟩ :=
      hwhen.mpr ⟨by decide, hcontiguous, rfl, fun _ ↦ ⟨sampleStep, List.mem_cons_self, rfl⟩⟩
    exact ⟨chain, hselected, (hchain chain hselected).1.2.1⟩
  · exact ⟨sampleMigrated, sample_installed,
      hinstalled ℕ sampleEnvironment samplePlan sampleMigrated sample_installed⟩

end N0te.Migration
