import N0te.Governance.StateBridge
import N0te.Library.Raising

/-!
# The context provider

The provider reads the canonical sources on every call and keeps the last state it compiled, under the
digest of the sources, and the last snapshot it made. `currentState` stores the digest and the state
before it makes the snapshot, so a bridge that raises leaves the snapshot of other sources behind, and
the next call finds the digest and returns it.

`answers_follow_sources` is the guarantee for every run in which no state fails to be bridged while a
snapshot is cached, and `stale_after_failed_bridge` says that any such failure makes the next call
return an older snapshot.

Scope. Reading the sources of one call is one step: its files do not change under it.
-/

set_option autoImplicit false
set_option relaxedAutoImplicit false

namespace N0te.Governance

open Library

/-! ### The sources -/

/-- What a source file is when it is read. -/
inductive SourceFile where
  /-- An `OSError`, or no JSON. -/
  | unavailable
  /-- Another exception. -/
  | raises (e : Raised ErrorClass)
  /-- A JSON value. -/
  | holds (value : Json)

/-- The four source files. -/
structure SourceFiles where
  manifest : SourceFile
  cursor : SourceFile
  facts : SourceFile
  incidents : SourceFile

/-- What a provider is made with. -/
structure ProviderConfig where
  manifestPath : String
  cursorPath : String
  factsPath : String
  incidentsPath : Option String
  /-- How long a snapshot can be used. -/
  ttlSeconds : ℤ

/-- The content of the sources. -/
structure ContextSources where
  manifest : Json
  cursor : Json
  facts : List Json
  incidents : List Json

/-- `_read_object`. -/
def readObject (path label : String) : SourceFile → Checked Json
  | .unavailable => .error (contextError (label ++ " is unavailable or unreadable: " ++ path))
  | .raises e => .error e
  | .holds value => do
    require (value.isObj = true) (contextError (label ++ " must be an object: " ++ path))
    return value

/-- Whether a value is a string. -/
def isStr : Json → Bool
  | .str _ => true
  | _ => false

def factsList (value : Json) : Checked (List Json) :=
  match value.get "facts" with
  | .arr facts => .ok facts
  | _ => .error (contextError "execution facts must contain a facts list")

def incidentsList (value : Json) : Checked (List Json) :=
  match value.get "incidents" with
  | .arr incidents => do
    require (incidents.all isStr = true)
      (contextError "execution incidents must contain an incidents list")
    return incidents
  | _ => .error (contextError "execution incidents must contain an incidents list")

/-- `_sources`, without the digest. -/
def readSources (config : ProviderConfig) (files : SourceFiles) : Checked ContextSources := do
  let manifest ← readObject config.manifestPath "execution manifest" files.manifest
  let cursor ← readObject config.cursorPath "execution cursor" files.cursor
  let facts ← factsList (← readObject config.factsPath "execution facts" files.facts)
  match config.incidentsPath with
  | none => return ⟨manifest, cursor, facts, []⟩
  | some path => do
    let incidents ← incidentsList (← readObject path "execution incidents" files.incidents)
    return ⟨manifest, cursor, facts, incidents⟩

/-- The digest of `_sources`. -/
def ContextSources.digest (rt : CompilerRuntime) (sources : ContextSources) : String :=
  fingerprint rt.toRuntime
    (sourceMaterial sources.manifest sources.cursor sources.facts sources.incidents)

/-- The state that sources compile to at a time. -/
def compileSources (rt : CompilerRuntime) (sources : ContextSources) (now : ℤ) :
    Checked CompiledExecutionState := do
  let raw ← compileFromManifest rt sources.manifest sources.cursor sources.facts sources.incidents now
  compileExecutionState rt raw

/-! ### The provider -/

/-- What a provider keeps. -/
structure ContextProvider where
  /-- The digest of the last sources that compiled. -/
  cachedSourceDigest : Option String
  cachedState : Option CompiledExecutionState
  cachedSnapshot : Option TrustedContextSnapshot

namespace ContextProvider

/-- A new provider. -/
def fresh : ContextProvider := ⟨none, none, none⟩

def kept (provider : ContextProvider) (digest : String) : Option CompiledExecutionState :=
  if provider.cachedSourceDigest = some digest then provider.cachedState else none

end ContextProvider

section

variable (rt : CompilerRuntime) (config : ProviderConfig)

/-- `current_state`. -/
def currentState (files : SourceFiles) (now : ℤ) :
    Raising ContextProvider (Raised ErrorClass) CompiledExecutionState := do
  let sources ← fromExcept (readSources config files)
  let provider ← get
  match provider.kept (sources.digest rt) with
  | some state => return state
  | none => do
    let state ← fromExcept (compileSources rt sources now)
    modify fun p ↦
      { p with cachedSourceDigest := some (sources.digest rt), cachedState := some state }
    let snapshot ← fromExcept (compiledStateToTrustedSnapshot rt state config.ttlSeconds)
    modify fun p ↦ { p with cachedSnapshot := some snapshot }
    return state

/-- `current_snapshot`. -/
def currentSnapshot (files : SourceFiles) (now : ℤ) :
    Raising ContextProvider (Raised ErrorClass) TrustedContextSnapshot := do
  let _ ← currentState rt config files now
  let provider ← get
  fromExcept (orRaise provider.cachedSnapshot
    (contextError "compiled context snapshot was not produced"))

/-- `get`. -/
def getSnapshot (snapshotId : String) (files : SourceFiles) (now : ℤ) :
    Raising ContextProvider (Raised ErrorClass) TrustedContextSnapshot := do
  let current ← currentSnapshot rt config files now
  fromExcept (require (current.snapshotId = strip snapshotId) (contextError
    "requested context snapshot is no longer current; recompile before execution"))
  return current

/-! ### Runs -/

/-- What a provider is asked. -/
inductive ProviderCall where
  | currentState
  | currentSnapshot
  | get (snapshotId : String)

/-- One call, with the files and the time it finds. -/
structure ProviderStep where
  call : ProviderCall
  files : SourceFiles
  /-- The time, in microseconds UTC. -/
  now : ℤ

/-- What a call returns, a snapshot or none, or raises. -/
def answer (step : ProviderStep) :
    Raising ContextProvider (Raised ErrorClass) (Option TrustedContextSnapshot) :=
  match step.call with
  | .currentState => do
    let _ ← currentState rt config step.files step.now
    return none
  | .currentSnapshot => do return some (← currentSnapshot rt config step.files step.now)
  | .get snapshotId => do return some (← getSnapshot rt config snapshotId step.files step.now)

/-- A run: every call with what it returned or raised. -/
def answersFrom : ContextProvider → List ProviderStep →
    List (ProviderStep × Except (Raised ErrorClass) (Option TrustedContextSnapshot))
  | _, [] => []
  | provider, step :: rest =>
    (step, (exec (answer rt config step) provider).1) ::
      answersFrom (exec (answer rt config step) provider).2 rest

/-- The provider after a run. -/
def providerAfter : ContextProvider → List ProviderStep → ContextProvider
  | provider, [] => provider
  | provider, step :: rest => providerAfter (exec (answer rt config step) provider).2 rest

end

/-! ### One call -/

section

variable {rt : CompilerRuntime} {config : ProviderConfig} {provider : ContextProvider}

/-- The ways a refresh of the state ends. -/
inductive Refresh (rt : CompilerRuntime) (config : ProviderConfig) (files : SourceFiles) (now : ℤ)
    (provider : ContextProvider) :
    Except (Raised ErrorClass) CompiledExecutionState × ContextProvider → Prop
  /-- The sources cannot be read. -/
  | unread {e : Raised ErrorClass} (hread : readSources config files = .error e) :
      Refresh rt config files now provider (.error e, provider)
  /-- The digest is the one that is kept. -/
  | hit {sources : ContextSources} {state : CompiledExecutionState}
      (hread : readSources config files = .ok sources)
      (hkept : provider.kept (sources.digest rt) = some state) :
      Refresh rt config files now provider (.ok state, provider)
  /-- The sources do not compile. -/
  | uncompiled {sources : ContextSources} {e : Raised ErrorClass}
      (hread : readSources config files = .ok sources)
      (hmissed : provider.kept (sources.digest rt) = none)
      (hcompile : compileSources rt sources now = .error e) :
      Refresh rt config files now provider (.error e, provider)
  /-- The state cannot be bridged: the digest and the state are stored, the snapshot stays. -/
  | unbridged {sources : ContextSources} {state : CompiledExecutionState} {e : Raised ErrorClass}
      (hread : readSources config files = .ok sources)
      (hmissed : provider.kept (sources.digest rt) = none)
      (hcompile : compileSources rt sources now = .ok state)
      (hbridge : compiledStateToTrustedSnapshot rt state config.ttlSeconds = .error e) :
      Refresh rt config files now provider
        (.error e, ⟨some (sources.digest rt), some state, provider.cachedSnapshot⟩)
  /-- The state and its snapshot are stored. -/
  | refreshed {sources : ContextSources} {state : CompiledExecutionState}
      {snapshot : TrustedContextSnapshot} (hread : readSources config files = .ok sources)
      (hmissed : provider.kept (sources.digest rt) = none)
      (hcompile : compileSources rt sources now = .ok state)
      (hbridge : compiledStateToTrustedSnapshot rt state config.ttlSeconds = .ok snapshot) :
      Refresh rt config files now provider
        (.ok state, ⟨some (sources.digest rt), some state, some snapshot⟩)

theorem refresh_currentState (files : SourceFiles) (now : ℤ) :
    Refresh rt config files now provider (exec (currentState rt config files now) provider) := by
  unfold currentState
  rcases hread : readSources config files with e | sources
  · rw [exec_fromExcept_error]
    exact .unread hread
  rw [exec_fromExcept_ok, exec_get_bind]
  rcases hkept : provider.kept (sources.digest rt) with _ | state
  · dsimp only
    rcases hcompile : compileSources rt sources now with e | state
    · rw [exec_fromExcept_error]
      exact .uncompiled hread hkept hcompile
    rw [exec_fromExcept_ok, exec_bind_of_ok (exec_modify _ _)]
    rcases hbridge : compiledStateToTrustedSnapshot rt state config.ttlSeconds with e | snapshot
    · rw [exec_fromExcept_error]
      exact .unbridged hread hkept hcompile hbridge
    · rw [exec_fromExcept_ok, exec_bind_of_ok (exec_modify _ _), exec_pure]
      exact .refreshed hread hkept hcompile hbridge
  · exact .hit hread hkept

/-- A snapshot is returned after a refresh that returned, and is the one then kept. -/
theorem exec_currentSnapshot (files : SourceFiles) (now : ℤ) :
    (exec (currentSnapshot rt config files now) provider).2 =
      (exec (currentState rt config files now) provider).2 ∧
    ∀ t, (exec (currentSnapshot rt config files now) provider).1 = .ok t →
      (∃ state, (exec (currentState rt config files now) provider).1 = .ok state) ∧
      (exec (currentState rt config files now) provider).2.cachedSnapshot = some t := by
  unfold currentSnapshot
  rcases hrefresh : exec (currentState rt config files now) provider with ⟨e | state, after⟩
  · rw [exec_bind_of_error hrefresh]
    exact ⟨rfl, nofun⟩
  · rw [exec_bind_of_ok hrefresh, exec_get_bind, exec_fromExcept]
    exact ⟨rfl, fun t ht ↦ ⟨⟨state, rfl⟩, orRaise_eq_ok.mp ht⟩⟩

/-- Asking for an id only compares. -/
theorem exec_getSnapshot (snapshotId : String) (files : SourceFiles) (now : ℤ) :
    (exec (getSnapshot rt config snapshotId files now) provider).2 =
      (exec (currentSnapshot rt config files now) provider).2 ∧
    ∀ t, (exec (getSnapshot rt config snapshotId files now) provider).1 = .ok t →
      (exec (currentSnapshot rt config files now) provider).1 = .ok t := by
  unfold getSnapshot
  rcases hcurrent : exec (currentSnapshot rt config files now) provider with ⟨e | current, after⟩
  · rw [exec_bind_of_error hcurrent]
    exact ⟨rfl, nofun⟩
  · rw [exec_bind_of_ok hcurrent, exec_bind, exec_fromExcept]
    rcases require (current.snapshotId = strip snapshotId) (contextError
      "requested context snapshot is no longer current; recompile before execution") with e | u
    · exact ⟨rfl, nofun⟩
    · exact ⟨rfl, fun t ht ↦ ht⟩

/-- Wrapping what a program returns. -/
theorem exec_bind_some {σ ε α : Type} (p : Raising σ ε α) (s : σ) :
    (exec (p >>= fun a ↦ pure (some a)) s).2 = (exec p s).2 ∧
    ∀ a, (exec (p >>= fun a ↦ pure (some a)) s).1 = .ok (some a) → (exec p s).1 = .ok a := by
  rcases hrun : exec p s with ⟨e | b, t⟩
  · rw [exec_bind_of_error hrun]
    exact ⟨rfl, nofun⟩
  · rw [exec_bind_of_ok hrun, exec_pure]
    refine ⟨rfl, fun a ha ↦ ?_⟩
    cases ha
    rfl

/-- What a call returns, in terms of the refresh it starts with. -/
theorem exec_answer (step : ProviderStep) :
    (exec (answer rt config step) provider).2 =
      (exec (currentState rt config step.files step.now) provider).2 ∧
    ∀ t, (exec (answer rt config step) provider).1 = .ok (some t) →
      (∃ state, (exec (currentState rt config step.files step.now) provider).1 = .ok state) ∧
      (exec (currentState rt config step.files step.now) provider).2.cachedSnapshot = some t := by
  obtain ⟨hstate, hreturned⟩ := exec_currentSnapshot step.files step.now
  unfold answer
  rcases step.call with _ | _ | snapshotId
  · dsimp only
    rcases hrefresh : exec (currentState rt config step.files step.now) provider with ⟨e | state, after⟩
    · rw [exec_bind_of_error hrefresh]
      exact ⟨rfl, nofun⟩
    · rw [exec_bind_of_ok hrefresh]
      exact ⟨rfl, nofun⟩
  · obtain ⟨hsame, hwrapped⟩ := exec_bind_some (currentSnapshot rt config step.files step.now) provider
    exact ⟨hsame.trans hstate, fun t ht ↦ hreturned t (hwrapped t ht)⟩
  · obtain ⟨hsame, hwrapped⟩ :=
      exec_bind_some (getSnapshot rt config snapshotId step.files step.now) provider
    obtain ⟨hget, hcompared⟩ := exec_getSnapshot snapshotId step.files step.now
    exact ⟨(hsame.trans hget).trans hstate, fun t ht ↦ hreturned t (hcompared t (hwrapped t ht))⟩

/-! ### Snapshots follow their sources -/

/-- A snapshot was compiled, at some time, from sources with the digest of these. -/
def Follows (rt : CompilerRuntime) (config : ProviderConfig) (sources : ContextSources)
    (t : TrustedContextSnapshot) : Prop :=
  t.sourceFingerprint = strip (sources.digest rt) ∧
    ∃ (same : ContextSources) (time : ℤ) (state : CompiledExecutionState),
      same.digest rt = sources.digest rt ∧ compileSources rt same time = .ok state ∧
      compiledStateToTrustedSnapshot rt state config.ttlSeconds = .ok t

/-- A call returns no snapshot but one that follows the sources it reads. -/
def AnswerFollows (rt : CompilerRuntime) (config : ProviderConfig)
    (entry : ProviderStep × Except (Raised ErrorClass) (Option TrustedContextSnapshot)) : Prop :=
  ∀ t, entry.2 = .ok (some t) →
    ∃ sources, readSources config entry.1.files = .ok sources ∧ Follows rt config sources t

/-- A call that compiles its sources can bridge the state, or finds no snapshot cached. -/
def Bridges (rt : CompilerRuntime) (config : ProviderConfig) (provider : ContextProvider)
    (step : ProviderStep) : Prop :=
  ∀ sources state, readSources config step.files = .ok sources →
    provider.kept (sources.digest rt) = none → compileSources rt sources step.now = .ok state →
    provider.cachedSnapshot = none ∨
      ∃ t, compiledStateToTrustedSnapshot rt state config.ttlSeconds = .ok t

/-- Every call of a run does. -/
def BridgesThroughout (rt : CompilerRuntime) (config : ProviderConfig) :
    ContextProvider → List ProviderStep → Prop
  | _, [] => True
  | provider, step :: rest => Bridges rt config provider step ∧
    BridgesThroughout rt config (exec (answer rt config step) provider).2 rest

/-- The cached snapshot belongs to the cached digest. -/
def Coherent (rt : CompilerRuntime) (config : ProviderConfig) (provider : ContextProvider) : Prop :=
  ∀ t, provider.cachedSnapshot = some t → ∃ (sources : ContextSources) (time : ℤ)
    (state : CompiledExecutionState), compileSources rt sources time = .ok state ∧
    compiledStateToTrustedSnapshot rt state config.ttlSeconds = .ok t ∧
    provider.kept (sources.digest rt) ≠ none

/-- A state is kept for one digest only. -/
theorem eq_of_kept {digest other : String} (h : provider.kept digest ≠ none)
    (hother : provider.kept other ≠ none) : digest = other := by
  unfold ContextProvider.kept at h hother
  rw [Ne, ite_eq_right_iff, Classical.not_imp] at h hother
  exact Option.some.inj (h.1.symm.trans hother.1)

theorem kept_stored {digest : String} {state : CompiledExecutionState}
    {snapshot : Option TrustedContextSnapshot} :
    (ContextProvider.mk (some digest) (some state) snapshot).kept digest = some state := if_pos rfl

/-- The description names the digest of the sources. -/
theorem get_source_of_compiled {sources : ContextSources} {time : ℤ} {raw : Json}
    (h : compileFromManifest rt sources.manifest sources.cursor sources.facts sources.incidents time =
      .ok raw) : raw.get "source_fingerprint" = .str (sources.digest rt) := by
  simp only [compileFromManifest, bind_eq_ok, pure_eq_ok] at h
  obtain ⟨-, -, compiled, -, hraw⟩ := h
  rw [← hraw]
  simp [manifestDescription, Json.get, Json.get?, List.lookup_cons, ContextSources.digest]

/-- The state of some sources, and a snapshot of it, keep the digest of the sources. -/
theorem sourceFingerprint_of_compiled {sources : ContextSources} {time : ℤ}
    {state : CompiledExecutionState} {t : TrustedContextSnapshot}
    (hcompile : compileSources rt sources time = .ok state)
    (hbridge : compiledStateToTrustedSnapshot rt state config.ttlSeconds = .ok t) :
    t.sourceFingerprint = strip (sources.digest rt) := by
  rw [compileSources, bind_eq_ok] at hcompile
  obtain ⟨raw, hraw, hstate⟩ := hcompile
  have hsource := (compile_spec hstate).source
  rw [get_source_of_compiled hraw] at hsource
  rw [(bridge_spec hbridge).source]
  exact (Text.ofString_eq_some.mp (orRaise_eq_ok.mp hsource)).1.symm

/-- A refresh that can bridge keeps the cache coherent. -/
theorem coherent_of_refresh {files : SourceFiles} {now : ℤ} {call : ProviderCall}
    {result : Except (Raised ErrorClass) CompiledExecutionState × ContextProvider}
    (h : Refresh rt config files now provider result) (hcoherent : Coherent rt config provider)
    (hbridges : Bridges rt config provider ⟨call, files, now⟩) :
    Coherent rt config result.2 ∧ ∀ state, result.1 = .ok state → ∃ sources,
      readSources config files = .ok sources ∧ result.2.kept (sources.digest rt) = some state := by
  have hraised : ∀ (e : Raised ErrorClass) (P : CompiledExecutionState → Prop),
      ∀ state, (Except.error e : Checked CompiledExecutionState) = .ok state → P state := by
    intro e P state hstate
    cases hstate
  cases h with
  | unread => exact ⟨hcoherent, hraised _ _⟩
  | hit hread hkept =>
    refine ⟨hcoherent, fun state hstate ↦ ⟨_, hread, ?_⟩⟩
    cases hstate
    exact hkept
  | uncompiled => exact ⟨hcoherent, hraised _ _⟩
  | unbridged hread hmissed hcompile hbridge =>
    refine ⟨fun t ht ↦ ?_, hraised _ _⟩
    rcases hbridges _ _ hread hmissed hcompile with hnone | ⟨other, hother⟩
    · cases hnone.symm.trans ht
    · cases hbridge.symm.trans hother
  | refreshed hread hmissed hcompile hbridge =>
    refine ⟨fun t ht ↦ ?_, fun state hstate ↦ ⟨_, hread, ?_⟩⟩
    · cases ht
      exact ⟨_, _, _, hcompile, hbridge, by rw [kept_stored]; exact Option.some_ne_none _⟩
    · cases hstate
      exact kept_stored

/-- One call of a coherent provider. -/
theorem answerFollows_of_coherent {step : ProviderStep} (hcoherent : Coherent rt config provider)
    (hbridges : Bridges rt config provider step) :
    Coherent rt config (exec (answer rt config step) provider).2 ∧
      AnswerFollows rt config (step, (exec (answer rt config step) provider).1) := by
  have hrefresh : Refresh rt config step.files step.now provider
      (exec (currentState rt config step.files step.now) provider) := refresh_currentState _ _
  have hanswer : (exec (answer rt config step) provider).2 =
        (exec (currentState rt config step.files step.now) provider).2 ∧ _ := exec_answer step
  obtain ⟨hstate, hreturned⟩ := hanswer
  obtain ⟨hafter, hread⟩ := coherent_of_refresh hrefresh hcoherent hbridges
  rw [hstate]
  refine ⟨hafter, fun t ht ↦ ?_⟩
  obtain ⟨⟨state, hok⟩, hcached⟩ := hreturned t ht
  obtain ⟨sources, hsources, hkept⟩ := hread state hok
  obtain ⟨same, time, compiled, hcompile, hbridge, hstored⟩ := hafter t hcached
  have hsame : same.digest rt = sources.digest rt :=
    eq_of_kept hstored (hkept ▸ Option.some_ne_none state)
  refine ⟨sources, hsources, ?_, same, time, compiled, hsame, hcompile, hbridge⟩
  rw [← hsame]
  exact sourceFingerprint_of_compiled hcompile hbridge

/-- From a coherent provider, every run whose compiled states can be bridged returns only snapshots
that follow their sources. -/
theorem answersFrom_follow {steps : List ProviderStep} (hcoherent : Coherent rt config provider)
    (h : BridgesThroughout rt config provider steps) :
    ∀ entry ∈ answersFrom rt config provider steps, AnswerFollows rt config entry := by
  induction steps generalizing provider with
  | nil => exact List.forall_mem_nil _
  | cons step rest ih =>
    rw [BridgesThroughout] at h
    obtain ⟨hbridges, hrest⟩ := h
    obtain ⟨hafter, hfollows⟩ := answerFollows_of_coherent hcoherent hbridges
    rw [answersFrom]
    exact List.forall_mem_cons.mpr ⟨hfollows, ih hafter hrest⟩

/-- In every run of a new provider in which each call that compiles its sources can bridge the state,
or finds no snapshot cached, every snapshot returned was compiled from the sources read. -/
theorem answers_follow_sources {steps : List ProviderStep}
    (h : BridgesThroughout rt config .fresh steps) :
    ∀ entry ∈ answersFrom rt config .fresh steps, AnswerFollows rt config entry :=
  answersFrom_follow nofun h

/-- A refresh that compiles stores the digest and the state, and the snapshot if there is one. -/
theorem refresh_compiled {files : SourceFiles} {now : ℤ}
    {result : Except (Raised ErrorClass) CompiledExecutionState × ContextProvider}
    {sources : ContextSources} {state : CompiledExecutionState}
    (h : Refresh rt config files now provider result) (hread : readSources config files = .ok sources)
    (hmissed : provider.kept (sources.digest rt) = none)
    (hcompile : compileSources rt sources now = .ok state) :
    result.2 = ⟨some (sources.digest rt), some state,
      (compiledStateToTrustedSnapshot rt state config.ttlSeconds).toOption.or
        provider.cachedSnapshot⟩ := by
  cases h with
  | unread hother => cases hother.symm.trans hread
  | hit hother hkept =>
    cases hother.symm.trans hread
    cases hkept.symm.trans hmissed
  | uncompiled hother _ hfailed =>
    cases hother.symm.trans hread
    cases hfailed.symm.trans hcompile
  | unbridged hother _ hcompiled hfailed =>
    cases hother.symm.trans hread
    cases hcompiled.symm.trans hcompile
    rw [hfailed]
    rfl
  | refreshed hother _ hcompiled hbridged =>
    cases hother.symm.trans hread
    cases hcompiled.symm.trans hcompile
    rw [hbridged]
    rfl

/-- Sources whose state is kept are answered with the cached snapshot. -/
theorem exec_ask_kept {files : SourceFiles} {sources : ContextSources}
    (hread : readSources config files = .ok sources) (now : ℤ) {state : CompiledExecutionState}
    {t : TrustedContextSnapshot} :
    exec (answer rt config ⟨.currentSnapshot, files, now⟩)
        ⟨some (sources.digest rt), some state, some t⟩ =
      (.ok (some t), ⟨some (sources.digest rt), some state, some t⟩) := by
  have hstate : exec (currentState rt config files now)
      ⟨some (sources.digest rt), some state, some t⟩ =
      (.ok state, ⟨some (sources.digest rt), some state, some t⟩) := by
    rw [currentState, hread, exec_fromExcept_ok, exec_get_bind, kept_stored]
    rfl
  have hsnapshot : exec (currentSnapshot rt config files now)
      ⟨some (sources.digest rt), some state, some t⟩ =
      (.ok t, ⟨some (sources.digest rt), some state, some t⟩) := by
    rw [currentSnapshot, exec_bind_of_ok hstate, exec_get_bind, exec_fromExcept]
    rfl
  exact exec_bind_of_ok hsnapshot

/-- A state that cannot be bridged while a snapshot is cached leaves that snapshot to the next call.
Assumes: digests have no whitespace at their ends. -/
theorem stale_after_failed_bridge (htext : ∀ s, strip (rt.sha256 s) = rt.sha256 s)
    (hcoherent : Coherent rt config provider) {step : ProviderStep} (h : ¬ Bridges rt config provider step)
    (now : ℤ) : ¬ AnswerFollows rt config (⟨.currentSnapshot, step.files, now⟩,
      (exec (answer rt config ⟨.currentSnapshot, step.files, now⟩)
        (exec (answer rt config step) provider).2).1) := by
  simp only [Bridges, not_forall, not_or, not_exists] at h
  obtain ⟨sources, state, hread, hmissed, hcompile, hcached, hbridge⟩ := h
  obtain ⟨t, ht⟩ := Option.ne_none_iff_exists'.mp hcached
  have hafter : (exec (answer rt config step) provider).2 =
      ⟨some (sources.digest rt), some state, some t⟩ := by
    have hfailed : (compiledStateToTrustedSnapshot rt state config.ttlSeconds).toOption = none := by
      rcases hresult : compiledStateToTrustedSnapshot rt state config.ttlSeconds with e | other
      · rfl
      · exact absurd hresult (hbridge other)
    rw [(exec_answer step).1, refresh_compiled (refresh_currentState _ _) hread hmissed hcompile,
      hfailed, ht, Option.none_or]
  rw [hafter]
  intro hfollows
  obtain ⟨same, hsame, hfingerprint, -⟩ := hfollows t (congrArg Prod.fst (exec_ask_kept hread now))
  cases hsame.symm.trans hread
  obtain ⟨older, time, compiled, holder, hbridged, hstored⟩ := hcoherent t ht
  have hdigest : older.digest rt = sources.digest rt := by
    rw [sourceFingerprint_of_compiled holder hbridged] at hfingerprint
    exact (htext _).symm.trans (hfingerprint.trans (htext _))
  exact hstored (hdigest ▸ hmissed)

end

/-! ### Three source contents -/

/-- Source files that retain these objects, dispatch one of them, and accept a job so. -/
def songFiles (acceptance : String) (retained functions : List String) : SourceFiles where
  manifest := .holds (.obj [("retained_scope_refs", .arr (retained.map .str)),
    ("truth_owners", .obj (truthPlanes.map fun plane ↦ (plane, .str "o"))),
    ("dependency_graph", .obj []), ("lens_dispatch", .obj [("song", .arr (functions.map .str))])])
  cursor := .holds (.obj [("job_id", .str "j"), ("outcome", .str "c"), ("active_object", .str "song"),
    ("current_step", .str "s"), ("acceptance", .str acceptance), ("state", .str "OPEN")])
  facts := .holds (.obj [("facts", .arr [])])
  incidents := .unavailable

/-- A provider of these files. -/
def songConfig : ProviderConfig := ⟨"manifest.json", "cursor.json", "facts.json", none, 900⟩

def askSnapshot (files : SourceFiles) : ProviderStep := ⟨.currentSnapshot, files, 1767225600000000⟩

/-- The state of some files at the time of the calls. -/
def songState (rt : CompilerRuntime) (files : SourceFiles) : Checked CompiledExecutionState := do
  let sources ← readSources songConfig files
  compileSources rt sources 1767225600000000

def songSnapshot (rt : CompilerRuntime) (files : SourceFiles) : Checked TrustedContextSnapshot := do
  let state ← songState rt files
  compiledStateToTrustedSnapshot rt state songConfig.ttlSeconds

theorem eq_ok_of_toOption {α : Type} {x : Checked α} {a : α} (h : x.toOption = some a) :
    x = .ok a := by
  rcases x with e | b
  · cases h
  · exact congrArg Except.ok (Option.some.inj h)

theorem exists_of_isSome {α : Type} {x : Checked α} (h : x.toOption.isSome = true) :
    ∃ a, x = .ok a := by
  obtain ⟨a, ha⟩ := Option.isSome_iff_exists.mp h
  exact ⟨a, eq_ok_of_toOption ha⟩

/-- Files with a snapshot can be bridged. -/
theorem bridges_of_songSnapshot {rt : CompilerRuntime} {files : SourceFiles}
    (h : (songSnapshot rt files).toOption.isSome = true) (provider : ContextProvider) :
    Bridges rt songConfig provider (askSnapshot files) := by
  intro sources state hread _ hcompile
  obtain ⟨t, ht⟩ := exists_of_isSome h
  rw [songSnapshot, bind_eq_ok] at ht
  obtain ⟨same, hsame, hbridge⟩ := ht
  rw [songState, bind_eq_ok] at hsame
  obtain ⟨other, hother, hcompiled⟩ := hsame
  cases hother.symm.trans hread
  cases hcompiled.symm.trans hcompile
  exact .inr ⟨t, hbridge⟩

theorem strip_sha256 {digests : List ((ℕ × UInt8) × String)}
    (h : ∀ d ∈ digests, d.2.toList.all (fun c ↦ !isSpace c) = true) (s : String) :
    strip ((twoTimesWith digests).sha256 s) = (twoTimesWith digests).sha256 s := by
  apply strip_eq_self
  rcases hfound : digests.find? fun d ↦ (encodeUtf8 s)[d.1.1]? == some d.1.2 with _ | d
  · simp [twoTimesWith, hfound]
  · simp only [twoTimesWith, hfound]
    exact h d (List.mem_of_find?_eq_some hfound)

/-- The digests of two source contents and their states, and of the first snapshot. -/
def songDigests : List ((ℕ × UInt8) × String) :=
  [((2, 97), "41a2a6785b16361379234044771baf4b262f01db0c3d9425912c1192b1ea2cc5"),
    ((25, 97), "bd0ec6a523745053ae3a130834e9e425147b5b11396232a5fccfd61c54a5118a"),
    ((67, 97), "b9b96d6bcbdb2e998f6d60dfa3f0cddb36f3d18779880c48bab97fb6e6c0cc58"),
    ((25, 98), "663156987a3acfb0786da1eefd94615e871394d54d04f82de7b75309acbfc2d8"),
    ((67, 98), "a9c02e01529a52b8deb9e4ce15388c721c26269dbef971677d9fdedcca834849")]

/-- The first files: one object, with a function. -/
def firstFiles : SourceFiles := songFiles "a" ["song"] ["f"]

/-- The second files: an object more, without functions. -/
def secondFiles : SourceFiles := songFiles "b" ["song", "tune"] ["f"]

theorem songSnapshot_first :
    (songSnapshot (twoTimesWith songDigests) firstFiles).toOption.isSome = true := by
  decide +kernel

theorem songState_second : (songState (twoTimesWith songDigests) secondFiles).toOption.map (fun state ↦
    (compiledStateToTrustedSnapshot (twoTimesWith songDigests) state
      songConfig.ttlSeconds).toOption.isSome) = some false := by
  decide +kernel

theorem songDigest_ne : (readSources songConfig firstFiles).toOption.map
      (ContextSources.digest (twoTimesWith songDigests)) ≠
    (readSources songConfig secondFiles).toOption.map
      (ContextSources.digest (twoTimesWith songDigests)) := by
  decide +kernel

/-- Asking twice for the first snapshot: both answers follow their sources. -/
theorem sample_snapshots_follow :
    (answersFrom (twoTimesWith songDigests) songConfig .fresh
      [askSnapshot firstFiles, askSnapshot firstFiles]).length = 2 ∧
    ∀ entry ∈ answersFrom (twoTimesWith songDigests) songConfig .fresh
        [askSnapshot firstFiles, askSnapshot firstFiles],
      AnswerFollows (twoTimesWith songDigests) songConfig entry :=
  ⟨rfl, answers_follow_sources ⟨bridges_of_songSnapshot songSnapshot_first _,
    bridges_of_songSnapshot songSnapshot_first _, trivial⟩⟩

/-- The second sources compile and cannot be bridged: asking again returns the first snapshot. -/
theorem sample_stale_snapshot : ¬ ∀ entry ∈ answersFrom (twoTimesWith songDigests) songConfig .fresh
      [askSnapshot firstFiles, askSnapshot secondFiles, askSnapshot secondFiles],
    AnswerFollows (twoTimesWith songDigests) songConfig entry := by
  intro hfollows
  obtain ⟨t, ht⟩ := exists_of_isSome songSnapshot_first
  rw [songSnapshot, bind_eq_ok] at ht
  obtain ⟨state, hstate, hbridge⟩ := ht
  rw [songState, bind_eq_ok] at hstate
  obtain ⟨sources, hread, hcompile⟩ := hstate
  have hafter : (exec (answer (twoTimesWith songDigests) songConfig (askSnapshot firstFiles))
      .fresh).2 = ⟨some (sources.digest (twoTimesWith songDigests)), some state, some t⟩ := by
    have hrefresh : Refresh (twoTimesWith songDigests) songConfig (askSnapshot firstFiles).files
      (askSnapshot firstFiles).now .fresh _ := refresh_currentState _ _
    have hmissed : ContextProvider.fresh.kept (sources.digest (twoTimesWith songDigests)) = none :=
      if_neg (Option.some_ne_none _).symm
    rw [(exec_answer _).1, refresh_compiled hrefresh hread hmissed hcompile, hbridge]
    rfl
  have hcoherent : Coherent (twoTimesWith songDigests) songConfig .fresh :=
    fun _ hcached ↦ absurd hcached (Option.some_ne_none _).symm
  have hafterFirst :=
    (answerFollows_of_coherent hcoherent (bridges_of_songSnapshot songSnapshot_first _)).1
  have hfailed : ¬ Bridges (twoTimesWith songDigests) songConfig (exec
      (answer (twoTimesWith songDigests) songConfig (askSnapshot firstFiles)) .fresh).2
      (askSnapshot secondFiles) := by
    intro hbridges
    obtain ⟨other, hother, hnot⟩ := Option.map_eq_some_iff.mp songState_second
    have hother := eq_ok_of_toOption hother
    rw [songState, bind_eq_ok] at hother
    obtain ⟨later, hlater, hcompiled⟩ := hother
    have hdigests := songDigest_ne
    rw [hread, hlater] at hdigests
    have hmissed : (exec (answer (twoTimesWith songDigests) songConfig (askSnapshot firstFiles))
        .fresh).2.kept (later.digest (twoTimesWith songDigests)) = none := by
      rw [hafter]
      exact if_neg hdigests
    rcases hbridges later other hlater hmissed hcompiled with hnone | ⟨u, hu⟩
    · rw [hafter] at hnone
      exact Option.some_ne_none t hnone
    · rw [hu] at hnot
      exact Bool.noConfusion hnot
  exact stale_after_failed_bridge (strip_sha256 (by decide +kernel)) hafterFirst hfailed
    1767225600000000 (hfollows _ (by simp [answersFrom, askSnapshot]))

end N0te.Governance
