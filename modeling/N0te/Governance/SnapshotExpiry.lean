import N0te.Governance.ContextProvider

/-!
# How long a snapshot can be used

A snapshot expires `ttlSeconds` after its sources were compiled. The provider keeps it for as long as
the digest of the sources is the same and does not look at the clock: `snapshots_alive_iff` says that a
run over unchanged sources returns only snapshots that have not expired if and only if it is over before
the first one expires, and `crosscheck_expired` that no envelope passes against an expired one.
-/

set_option autoImplicit false
set_option relaxedAutoImplicit false

namespace N0te.Governance

open Library

/-- A time that is written is read back. -/
def CompilerRuntime.ReadsBack (rt : CompilerRuntime) (instant : ℤ) : Prop :=
  rt.fromisoformat (replaceZulu (strip (rt.isoformat instant))) = some ⟨instant, true⟩

/-- No envelope passes against a snapshot that has expired. -/
theorem crosscheck_expired {envelope : Json} {snapshot : TrustedContextSnapshot} {now : ℤ}
    (h : snapshot.expiresAt < now) :
    ∀ t, crosscheckExecutionEnvelope envelope snapshot now ≠ .ok t := by
  intro t ht
  simp only [crosscheckExecutionEnvelope, bind_eq_ok, require_eq_ok] at ht
  obtain ⟨-, -, -, halive, -⟩ := ht
  exact absurd halive (not_le.mpr h)

section

variable {rt : CompilerRuntime} {config : ProviderConfig} {sources : ContextSources} {now : ℤ}
  {state : CompiledExecutionState} {snapshot : TrustedContextSnapshot}

/-! ### The times of a snapshot -/

/-- A state names the time at which it was compiled. -/
theorem compiledAt_of_compiled (hnow : rt.ReadsBack now)
    (hcompile : compileSources rt sources now = .ok state) : state.compiledAt = now := by
  rw [compileSources, bind_eq_ok] at hcompile
  obtain ⟨raw, hraw, hstate⟩ := hcompile
  have hwritten : raw.get "compiled_at" = .str (rt.isoformat now) := by
    simp only [compileFromManifest, bind_eq_ok, pure_eq_ok] at hraw
    obtain ⟨-, -, compiled, -, rfl⟩ := hraw
    simp [manifestDescription, Json.get, Json.get?, List.lookup_cons]
  simp only [compileExecutionState, bind_eq_ok, require_eq_ok, pure_eq_ok, exists_const] at hstate
  obtain ⟨-, _, -, -, -, _, -, -, _, -, -, _, -, -, _, -, -, -, _, -, _, -, _, -, compiledAt, hread,
    rfl⟩ := hstate
  rw [hwritten, compiledIso, bind_eq_ok] at hread
  obtain ⟨text, htext, hread⟩ := hread
  have hval := (Text.ofString_eq_some.mp (orRaise_eq_ok.mp htext)).1
  rw [← hval, show rt.fromisoformat _ = _ from hnow] at hread
  simp only [orRaise, bind_eq_ok, require_eq_ok, pure_eq_ok, Except.ok.injEq] at hread
  obtain ⟨_, rfl, _, -, hinstant⟩ := hread
  exact hinstant.symm

/-- A snapshot expires so many seconds after its state was compiled. -/
theorem expiresAt_of_bridged
    (hexpiry : rt.ReadsBack (state.compiledAt + config.ttlSeconds * 1000000))
    (hbridge : compiledStateToTrustedSnapshot rt state config.ttlSeconds = .ok snapshot) :
    snapshot.expiresAt = state.compiledAt + config.ttlSeconds * 1000000 := by
  simp only [compiledStateToTrustedSnapshot, bind_eq_ok, require_eq_ok, exists_const] at hbridge
  obtain ⟨-, -, -, -, hvalid⟩ := hbridge
  simp only [validateTrustedContextSnapshot, bind_eq_ok, require_eq_ok, pure_eq_ok,
    exists_const] at hvalid
  obtain ⟨-, -, _, -, _, -, _, -, expiresAt, hread, -, _, -, -, _, -, _, -, _, -, rfl⟩ := hvalid
  have hwritten : (snapshotDocument rt state (state.compiledAt + config.ttlSeconds * 1000000)).get
      "expires_at" = .str (rt.isoformat (state.compiledAt + config.ttlSeconds * 1000000)) := by
    simp [snapshotDocument, Json.get, Json.get?, List.lookup_cons]
  rw [hwritten, contextTimestamp, bind_eq_ok] at hread
  obtain ⟨text, htext, hread⟩ := hread
  have hval := (Text.ofString_eq_some.mp (orRaise_eq_ok.mp htext)).1
  rw [← hval, show rt.fromisoformat _ = _ from hexpiry] at hread
  simp only [orRaise, bind_eq_ok, require_eq_ok, pure_eq_ok, Except.ok.injEq] at hread
  obtain ⟨_, rfl, _, -, hinstant⟩ := hread
  exact hinstant.symm

/-! ### Unchanged sources -/

/-- A call that finds the state of its sources kept, and a snapshot, leaves the provider as it is, and
returns the snapshot if it is asked for it. -/
theorem exec_answer_kept {step : ProviderStep} (hread : readSources config step.files = .ok sources) :
    (exec (answer rt config step) ⟨some (sources.digest rt), some state, some snapshot⟩).2 =
      ⟨some (sources.digest rt), some state, some snapshot⟩ ∧
    (step.call = .currentSnapshot →
      (exec (answer rt config step) ⟨some (sources.digest rt), some state, some snapshot⟩).1 =
        .ok (some snapshot)) := by
  constructor
  · rw [(exec_answer step).1, currentState, hread, exec_fromExcept_ok, exec_get_bind, kept_stored]
    rfl
  · intro hcall
    obtain ⟨call, files, now⟩ := step
    obtain rfl : call = .currentSnapshot := hcall
    rw [exec_ask_kept hread]

/-- The first call that reads sources that compile stores their snapshot, and returns it if it is asked
for it. -/
theorem exec_answer_fresh {step : ProviderStep} (hread : readSources config step.files = .ok sources)
    (hcompile : compileSources rt sources step.now = .ok state)
    (hbridge : compiledStateToTrustedSnapshot rt state config.ttlSeconds = .ok snapshot) :
    (exec (answer rt config step) .fresh).2 =
      ⟨some (sources.digest rt), some state, some snapshot⟩ ∧
    (step.call = .currentSnapshot →
      (exec (answer rt config step) .fresh).1 = .ok (some snapshot)) := by
  have hmissed : ContextProvider.fresh.kept (sources.digest rt) = none := if_neg nofun
  have hstate : exec (currentState rt config step.files step.now) .fresh =
      (.ok state, ⟨some (sources.digest rt), some state, some snapshot⟩) := by
    rw [currentState, hread, exec_fromExcept_ok, exec_get_bind, hmissed]
    dsimp only
    rw [hcompile, exec_fromExcept_ok, exec_bind_of_ok (exec_modify _ _), hbridge, exec_fromExcept_ok,
      exec_bind_of_ok (exec_modify _ _), exec_pure]
  refine ⟨by rw [(exec_answer step).1, hstate], fun hcall ↦ ?_⟩
  have hsnapshot : exec (currentSnapshot rt config step.files step.now) .fresh =
      (.ok snapshot, ⟨some (sources.digest rt), some state, some snapshot⟩) := by
    rw [currentSnapshot, exec_bind_of_ok hstate, exec_get_bind, exec_fromExcept]
    rfl
  rw [answer, hcall]
  dsimp only
  rw [exec_bind_of_ok hsnapshot]
  rfl

/-- One who asks for the snapshot gets one that has not expired. -/
def AnswersAlive
    (entry : ProviderStep × Except (Raised ErrorClass) (Option TrustedContextSnapshot)) : Prop :=
  entry.1.call = .currentSnapshot → ∃ t, entry.2 = .ok (some t) ∧ entry.1.now < t.expiresAt

theorem answersAlive_iff {step : ProviderStep}
    {result : Except (Raised ErrorClass) (Option TrustedContextSnapshot)}
    (h : step.call = .currentSnapshot → result = .ok (some snapshot)) :
    AnswersAlive (step, result) ↔ (step.call = .currentSnapshot → step.now < snapshot.expiresAt) := by
  constructor
  · intro halive hcall
    obtain ⟨t, ht, hlt⟩ := halive hcall
    cases (h hcall).symm.trans ht
    exact hlt
  · exact fun hlt hcall ↦ ⟨snapshot, h hcall, hlt hcall⟩

/-- While the sources of a kept snapshot are the same, those who ask for it get it. -/
theorem answersFrom_kept {steps : List ProviderStep}
    (hread : ∀ step ∈ steps, readSources config step.files = .ok sources) :
    (∀ entry ∈ answersFrom rt config ⟨some (sources.digest rt), some state, some snapshot⟩ steps,
        AnswersAlive entry) ↔
      ∀ step ∈ steps, step.call = .currentSnapshot → step.now < snapshot.expiresAt := by
  induction steps with
  | nil => exact ⟨fun _ ↦ List.forall_mem_nil _, fun _ ↦ List.forall_mem_nil _⟩
  | cons step rest ih =>
    rw [List.forall_mem_cons] at hread
    obtain ⟨hsame, hreturned⟩ := @exec_answer_kept rt config sources state snapshot step hread.1
    rw [answersFrom, hsame, List.forall_mem_cons, List.forall_mem_cons, ih hread.2,
      answersAlive_iff hreturned]

/-- In a run of a new provider over unchanged sources all who ask for the snapshot get the one that was
made in the first call. -/
theorem answersFrom_fresh {first : ProviderStep} {rest : List ProviderStep}
    (hread : ∀ step ∈ first :: rest, readSources config step.files = .ok sources)
    (hcompile : compileSources rt sources first.now = .ok state)
    (hbridge : compiledStateToTrustedSnapshot rt state config.ttlSeconds = .ok snapshot) :
    (∀ entry ∈ answersFrom rt config .fresh (first :: rest), AnswersAlive entry) ↔
      ∀ step ∈ first :: rest, step.call = .currentSnapshot → step.now < snapshot.expiresAt := by
  rw [List.forall_mem_cons] at hread
  obtain ⟨hafter, hreturned⟩ := exec_answer_fresh hread.1 hcompile hbridge
  rw [answersFrom, hafter, List.forall_mem_cons, List.forall_mem_cons, answersFrom_kept hread.2,
    answersAlive_iff hreturned]

/-- In a run of a new provider over unchanged sources that compile and can be bridged, all who ask for
the snapshot get one that has not expired if and only if they ask less than `ttlSeconds` after the first
call. Assumes: the time of the first call and that of the expiry are written so that they are read back. -/
theorem snapshots_alive_iff {first : ProviderStep} {rest : List ProviderStep}
    (hread : ∀ step ∈ first :: rest, readSources config step.files = .ok sources)
    (hcompile : compileSources rt sources first.now = .ok state)
    (hbridge : compiledStateToTrustedSnapshot rt state config.ttlSeconds = .ok snapshot)
    (hnow : rt.ReadsBack first.now)
    (hexpiry : rt.ReadsBack (first.now + config.ttlSeconds * 1000000)) :
    (∀ entry ∈ answersFrom rt config .fresh (first :: rest), AnswersAlive entry) ↔
      ∀ step ∈ first :: rest, step.call = .currentSnapshot →
        step.now < first.now + config.ttlSeconds * 1000000 := by
  have hcompiledAt := compiledAt_of_compiled hnow hcompile
  have hexpiresAt := expiresAt_of_bridged (hcompiledAt ▸ hexpiry) hbridge
  rw [hcompiledAt] at hexpiresAt
  rw [answersFrom_fresh hread hcompile hbridge, hexpiresAt]

end

/-! ### Two runs -/

/-- Ask for the snapshot of the first files so many microseconds after they were compiled. -/
def askLater (microseconds : ℤ) : ProviderStep :=
  ⟨.currentSnapshot, firstFiles, 1767225600000000 + microseconds⟩

/-- The first files compile at once and can be bridged. -/
theorem exists_firstSnapshot : ∃ sources state t, readSources songConfig firstFiles = .ok sources ∧
    compileSources (twoTimesWith songDigests) sources (askLater 0).now = .ok state ∧
    compiledStateToTrustedSnapshot (twoTimesWith songDigests) state songConfig.ttlSeconds = .ok t := by
  obtain ⟨t, ht⟩ := exists_of_isSome songSnapshot_first
  rw [songSnapshot, bind_eq_ok] at ht
  obtain ⟨state, hstate, hbridge⟩ := ht
  rw [songState, bind_eq_ok] at hstate
  obtain ⟨sources, hread, hcompile⟩ := hstate
  exact ⟨sources, state, t, hread, hcompile, hbridge⟩

theorem readsBack_first : (twoTimesWith songDigests).ReadsBack (askLater 0).now := by
  unfold CompilerRuntime.ReadsBack
  decide +kernel

theorem readsBack_expiry : (twoTimesWith songDigests).ReadsBack
    ((askLater 0).now + songConfig.ttlSeconds * 1000000) := by
  unfold CompilerRuntime.ReadsBack
  decide +kernel

/-- Asking at once and after ten minutes, of a lifetime of fifteen: nobody gets an expired snapshot. -/
theorem sample_snapshots_alive :
    (answersFrom (twoTimesWith songDigests) songConfig .fresh
      [askLater 0, askLater 600000000]).length = 2 ∧
    ∀ entry ∈ answersFrom (twoTimesWith songDigests) songConfig .fresh
      [askLater 0, askLater 600000000], AnswersAlive entry := by
  obtain ⟨sources, state, t, hread, hcompile, hbridge⟩ := exists_firstSnapshot
  refine ⟨rfl, (snapshots_alive_iff ?_ hcompile hbridge readsBack_first readsBack_expiry).mpr ?_⟩
  · simp [askLater, hread]
  · simp [askLater, songConfig]

/-- Asking again after an hour, of unchanged files: what is returned has expired, and no envelope passes
against it. -/
theorem sample_expired_snapshot : ∃ t,
    (answersFrom (twoTimesWith songDigests) songConfig .fresh [askLater 0, askLater 3600000000])[1]? =
      some (askLater 3600000000, .ok (some t)) ∧ t.expiresAt < (askLater 3600000000).now ∧
    ∀ envelope passed,
      crosscheckExecutionEnvelope envelope t (askLater 3600000000).now ≠ .ok passed := by
  obtain ⟨sources, state, t, hread, hcompile, hbridge⟩ := exists_firstSnapshot
  have hcompiledAt := compiledAt_of_compiled readsBack_first hcompile
  have hexpiresAt := expiresAt_of_bridged (hcompiledAt ▸ readsBack_expiry) hbridge
  have hexpired : t.expiresAt < (askLater 3600000000).now := by
    rw [hexpiresAt, hcompiledAt]
    simp [askLater, songConfig]
  refine ⟨t, ?_, hexpired, fun envelope ↦ crosscheck_expired hexpired⟩
  have hafter : (exec (answer (twoTimesWith songDigests) songConfig (askLater 0)) .fresh).2 = _ :=
    (exec_answer_fresh hread hcompile hbridge).1
  have hkept : (exec (answer (twoTimesWith songDigests) songConfig (askLater 3600000000))
      ⟨some (sources.digest (twoTimesWith songDigests)), some state, some t⟩).1 = .ok (some t) :=
    (exec_answer_kept hread).2 rfl
  rw [answersFrom, hafter, answersFrom, hkept]
  rfl

end N0te.Governance
