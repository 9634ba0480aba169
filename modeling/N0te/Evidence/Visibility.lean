import N0te.Evidence.Reconciliation

/-!
# Where recorded evidence is found

`record_claim` normalizes the kind of a scope and the key, and checks the scope that the stripped id
names, but it stores the id as it was given. A claim that is active is found again under the id as it was
given. It is found under the id that was checked, and its scope is one that exists, exactly when the id
was given without whitespace at its ends (`recorded_claim_visible_iff`). In `spacedEvents` a claim about
a song is recorded that no question about the song considers.
-/

set_option autoImplicit false
set_option relaxedAutoImplicit false

namespace N0te.Evidence

open Library Lineage People

section

variable (profile : Profile)

/-! ### Questions -/

/-- `active_claims`, with the kind as it was given. -/
def activeClaimsOf (scopeKind scopeId key : String) (db : EvidenceDb) : Checked (List EvidenceClaim) := do
  require (strip key ≠ "") (validation "evidence key must not be empty")
  let kind ← orRaise (ScopeKind.ofName (upper (strip scopeKind)))
    (validation s!"unsupported evidence scope: {upper (strip scopeKind)}")
  activeClaims profile kind scopeId key db

/-- A scope that exists: the id is that of the profile, its artist, a song or a version. -/
def ScopeExists (kind : ScopeKind) (scopeId : String) : Prop :=
  match kind with
  | .profile => scopeId = profile.profileId
  | .artist => scopeId = profile.primaryArtistId
  | .song => (profile.getSong scopeId).isSome = true
  | .version => (profile.getVersion scopeId).isSome = true

instance (kind : ScopeKind) (scopeId : String) : Decidable (ScopeExists profile kind scopeId) := by
  cases kind <;> exact inferInstanceAs (Decidable (_ = _))

/-- A resolution over some scopes considers a claim of one of them: it holds the claim, unless it was
found at a narrower scope. -/
def Considers (scopes : List (ScopeKind × String)) (scope : ScopeKind × String) (row : EvidenceClaim)
    (resolution : EvidenceResolution) : Prop :=
  row ∈ resolution.claims ∨
    ∃ narrower, resolution.scope = some narrower ∧ [narrower, scope].Sublist scopes

/-- A claim is found where it was recorded, as the caller spelled it and as it was checked. -/
structure VisibleAs (input : ClaimInput) (row : EvidenceClaim) (db : EvidenceDb) : Prop where
  /-- `active_claims` of the scope and the key as they were given. -/
  spelled : ∃ claims, activeClaimsOf profile input.scopeKind input.scopeId input.key db = .ok claims ∧
    row ∈ claims
  /-- `active_claims` of the scope and the key as they were checked. -/
  normalized : ∃ claims, activeClaimsOf profile row.scopeKind.name (strip input.scopeId)
    (strip input.key) db = .ok claims ∧ row ∈ claims
  /-- `resolve_for_song` of the songs and versions that the scope applies to. -/
  resolved : ∀ key, strip key = strip input.key → ∀ songId versionId scopes,
    resolutionScopes profile songId versionId = .ok scopes →
    (row.scopeKind, strip input.scopeId) ∈ scopes →
    ∃ resolution, ((resolveForSong profile plainHost songId key versionId).alone db).1 = .ok resolution ∧
      Considers scopes (row.scopeKind, strip input.scopeId) row resolution

end

section

variable {profile : Profile} {db : EvidenceDb} {row : EvidenceClaim} {input : ClaimInput}

theorem normalizeClaim_eq_ok {id : String} (h : normalizeClaim profile id input = .ok row) :
    row.scopeId = input.scopeId ∧ row.key = strip input.key ∧ strip input.key ≠ "" ∧
      ScopeKind.ofName (upper (strip input.scopeKind)) = some row.scopeKind ∧
      InProfile profile row.scopeKind input.scopeId := by
  simp only [normalizeClaim, validateScope, bind_eq_ok, require_eq_ok, orRaise_eq_ok, Except.ok.injEq] at h
  obtain ⟨_, -, _, hkey, kind, hkind, _, hscope, _, -, _, -, _, -, rfl⟩ := h
  exact ⟨rfl, rfl, hkey, hkind, hscope⟩

theorem strip_of_getSong {songId : String} (h : (profile.getSong songId).isSome = true) :
    strip songId = songId := by
  obtain ⟨song, hfound⟩ := Option.isSome_iff_exists.mp h
  have hid : song.id = songId := by simpa using List.find?_some hfound
  have hcreated := (profile.songs_created song (List.mem_of_find?_eq_some hfound)).1
  rw [← hid]
  exact hcreated.strip_eq (by decide)

theorem strip_of_getVersion {versionId : String} (h : (profile.getVersion versionId).isSome = true) :
    strip versionId = versionId := by
  obtain ⟨version, hfound⟩ := Option.isSome_iff_exists.mp h
  have hid : version.id = versionId := by simpa using List.find?_some hfound
  have hcreated := (profile.versions_created version (List.mem_of_find?_eq_some hfound)).1
  rw [← hid]
  exact hcreated.strip_eq (by decide)

/-- A scope that was checked exists when it is spelled as it was checked. -/
theorem scopeExists_iff {kind : ScopeKind} {scopeId : String} (h : InProfile profile kind scopeId) :
    ScopeExists profile kind scopeId ↔ strip scopeId = scopeId := by
  cases kind with
  | profile => exact ⟨fun hexists ↦ h.trans hexists.symm, fun hstrip ↦ hstrip.symm.trans h⟩
  | artist => exact ⟨fun hexists ↦ h.trans hexists.symm, fun hstrip ↦ hstrip.symm.trans h⟩
  | song =>
    refine ⟨strip_of_getSong, fun hstrip ↦ ?_⟩
    rw [InProfile, hstrip] at h
    exact h
  | version =>
    refine ⟨strip_of_getVersion, fun hstrip ↦ ?_⟩
    rw [InProfile, hstrip] at h
    exact h

theorem inProfile_of_resolutionScopes (hprofile : Created "prf" profile.profileId)
    (hartist : Created "art" profile.primaryArtistId) {songId : String} {versionId : Option String}
    {scopes : List (ScopeKind × String)}
    (h : resolutionScopes profile songId versionId = .ok scopes) :
    ∀ scope ∈ scopes, InProfile profile scope.1 scope.2 := by
  simp only [resolutionScopes, bind_eq_ok, orRaise_eq_ok, Except.ok.injEq] at h
  obtain ⟨song, hsong, version, hversion, rfl⟩ := h
  have hfound : (profile.getSong songId).isSome = true := by rw [hsong]; rfl
  have hown : InProfile profile .song songId := by
    rw [InProfile, strip_of_getSong hfound]
    exact hfound
  have hsame : song.artistId = profile.primaryArtistId :=
    (profile.songs_created song (List.mem_of_find?_eq_some hsong)).2
  have hmaker : InProfile profile .artist song.artistId := by
    rw [InProfile, hsame]
    exact hartist.strip_eq (by decide)
  have hself : InProfile profile .profile profile.profileId := hprofile.strip_eq (by decide)
  have hrest : ∀ scope ∈ [(ScopeKind.song, songId), (.artist, song.artistId),
      (.profile, profile.profileId)], InProfile profile scope.1 scope.2 := by
    simp only [List.forall_mem_cons]
    exact ⟨hown, hmaker, hself, fun _ hnone ↦ absurd hnone (List.not_mem_nil)⟩
  refine List.forall_mem_append.mpr ⟨?_, hrest⟩
  rcases versionId with _ | versionId
  · cases hversion
    exact List.forall_mem_nil _
  · simp only [versionScope, bind_eq_ok, orRaise_eq_ok, require_eq_ok, Except.ok.injEq] at hversion
    obtain ⟨version, hversion, -, -, rfl⟩ := hversion
    have hnamed : (profile.getVersion versionId).isSome = true := by rw [hversion]; rfl
    refine List.forall_mem_singleton.mpr ?_
    rw [InProfile, strip_of_getVersion hnamed]
    exact hnamed

/-- The resolution over scopes of a profile considers what is active at one of them. -/
theorem considers_resolveScopes {key : String} {scopes : List (ScopeKind × String)}
    (hkey : strip key ≠ "") (hscopes : ∀ scope ∈ scopes, InProfile profile scope.1 scope.2)
    {scope : ScopeKind × String} (hscope : scope ∈ scopes)
    (hactive : row ∈ db.activeAt ⟨scope.1, scope.2, strip key⟩) :
    ∃ resolution, ((resolveScopes profile plainHost key scopes).alone db).1 = .ok resolution ∧
      Considers scopes scope row resolution := by
  induction scopes with
  | nil => cases hscope
  | cons first rest ih =>
    obtain ⟨hfirst, hrest⟩ := List.forall_mem_cons.mp hscopes
    obtain ⟨kind, scopeId⟩ := first
    have hclaims : activeClaims profile kind scopeId key db =
        .ok (db.activeAt ⟨kind, scopeId, strip key⟩) := activeClaims_eq_ok.mpr ⟨hkey, hfirst, rfl⟩
    rw [alone_resolveScopes_cons, hclaims]
    rcases hfound : db.activeAt ⟨kind, scopeId, strip key⟩ with _ | ⟨claim, more⟩
    · have hin : scope ∈ rest := by
        refine (List.mem_cons.mp hscope).resolve_left fun hsame ↦ ?_
        rw [hsame, hfound] at hactive
        cases hactive
      obtain ⟨resolution, hresolution, hconsiders⟩ := ih hrest hin
      refine ⟨resolution, hresolution, hconsiders.imp_right fun hnarrower ↦ ?_⟩
      obtain ⟨narrower, hat, hsublist⟩ := hnarrower
      exact ⟨narrower, hat, hsublist.cons _⟩
    · have hresolution : (resolutionOf key kind scopeId (claim :: more)).scope = some (kind, scopeId) ∧
          (resolutionOf key kind scopeId (claim :: more)).claims = claim :: more := by
        unfold resolutionOf
        split_ifs <;> exact ⟨rfl, rfl⟩
      refine ⟨_, rfl, ?_⟩
      rcases List.mem_cons.mp hscope with rfl | hin
      · left
        rw [hresolution.2, ← hfound]
        exact hactive
      · exact .inr ⟨_, hresolution.1, List.Sublist.cons_cons _ (List.singleton_sublist.mpr hin)⟩

/-- An active claim is found where it was recorded when its scope is spelled as it was checked. -/
theorem visibleAs_iff (hprofile : Created "prf" profile.profileId)
    (hartist : Created "art" profile.primaryArtistId) {id : String}
    (hrow : normalizeClaim profile id input = .ok row) (hmem : row ∈ db.claims)
    (hactive : db.Active row.id) :
    VisibleAs profile input row db ↔ strip input.scopeId = input.scopeId := by
  obtain ⟨hscope, hkey, hne, hkind, hin⟩ := normalizeClaim_eq_ok hrow
  have hat : row ∈ db.activeAt ⟨row.scopeKind, input.scopeId, strip input.key⟩ := by
    rw [mem_activeAt, EvidenceClaim.place_eq]
    exact ⟨hmem, ⟨rfl, hscope, hkey⟩, hactive⟩
  constructor
  · intro hvisible
    obtain ⟨claims, hclaims, hfound⟩ := hvisible.normalized
    simp only [activeClaimsOf, bind_eq_ok, orRaise_eq_ok, require_eq_ok] at hclaims
    obtain ⟨-, -, kind, -, hclaims⟩ := hclaims
    rw [← (activeClaims_eq_ok.mp hclaims).2.2] at hfound
    have hplace := EvidenceClaim.place_eq.mp (mem_activeAt.mp hfound).2.1
    exact hplace.2.1.symm.trans hscope
  · intro hstrip
    refine ⟨?_, ?_, fun key hsame songId versionId scopes hscopes hlisted ↦ ?_⟩
    · refine ⟨db.activeAt ⟨row.scopeKind, input.scopeId, strip input.key⟩, ?_, hat⟩
      simp only [activeClaimsOf, bind_eq_ok, orRaise_eq_ok, require_eq_ok]
      exact ⟨⟨⟩, hne, _, hkind, activeClaims_eq_ok.mpr ⟨hne, hin, rfl⟩⟩
    · refine ⟨db.activeAt ⟨row.scopeKind, input.scopeId, strip input.key⟩, ?_, hat⟩
      simp only [activeClaimsOf, bind_eq_ok, orRaise_eq_ok, require_eq_ok, strip_strip, hstrip]
      refine ⟨⟨⟩, hne, _, ScopeKind.ofName_name _, activeClaims_eq_ok.mpr ?_⟩
      rw [strip_strip]
      exact ⟨hne, hin, rfl⟩
    · have hasked := inProfile_of_resolutionScopes hprofile hartist hscopes
      rw [resolveForSong, Call.alone_fromExcept_bind hscopes]
      refine considers_resolveScopes ?_ hasked hlisted ?_
      · rw [hsame]
        exact hne
      · rw [hsame, hstrip]
        exact hat

end

/-! ### Runs -/

/-- What `record_claim` recorded. -/
def RecordedAs (profile : Profile) (operation : EvidenceOperation) (row : EvidenceClaim)
    (db : EvidenceDb) : Prop :=
  match operation with
  | .recordClaim uuid input =>
    row ∈ db.claims ∧ normalizeClaim profile (newId "claim" uuid) input = .ok row
  | .reconcileForSong _ _ => True

/-- A call whatever the others commit. -/
theorem recorded_evidenceProgram (profile : Profile) (operation : EvidenceOperation) (s : EvidenceDb) :
    KeepsUnder (EvidenceInvariant profile) Grows (fun _ _ ↦ True) (fun _ _ ↦ True)
      (fun _ result t ↦ ∀ row, result = .ok row → RecordedAs profile operation row t) false
      (evidenceProgram profile operation) s := by
  cases operation with
  | recordClaim uuid input =>
    refine keepsUnder_recordRevision (fun _ _ _ _ hnone ↦ by cases hnone) ?_
    intro row a u hrow _ hinvariant hu
    have hcommitted : ClaimCommitted row input.supersedes.eraseDups a u := commitClaim_plainHost hu
    have hafter := hinvariant.commit (normalizeClaim_spec hrow) hcommitted
    refine ⟨hcommitted.grows, hafter, fun r v hreached hlast hr other hother ↦ ?_⟩
    have hmem : row ∈ v.claims := (grows_of_commits (fun _ _ h ↦ h) hreached).mem (by
      rw [hcommitted.claims]
      exact List.mem_append_right _ (List.mem_singleton_self _))
    have hread : (plainHost.evidence v).getClaim row.id = some row := hlast.getClaim hmem
    rw [hr, hread] at hother
    cases hother
    exact ⟨hmem, hrow⟩
  | reconcileForSong uuid input =>
    refine keepsUnder_reconcileForSong (fun _ _ _ _ _ ↦ trivial) fun t _ _ _ _ _ ↦ ?_
    refine keepsUnder_recordRevision (fun _ _ _ _ _ ↦ trivial) ?_
    intro row a u hrow _ hinvariant hu
    have hcommitted := commitClaim_plainHost hu
    exact ⟨hcommitted.grows, hinvariant.commit (normalizeClaim_spec hrow) hcommitted,
      fun _ _ _ _ _ _ _ ↦ trivial⟩

/-- A claim that `record_claim` accepted, in any run: its scope exists exactly when the id was given
without whitespace at its ends, and until it is superseded it is found where it was recorded exactly
then.
Assumes: the profile and its artist have ids that the store made. -/
theorem recorded_claim_visible_iff {profile : Profile} (hprofile : Created "prf" profile.profileId)
    (hartist : Created "art" profile.primaryArtistId) {events : List EvidenceOccurrence}
    {w : EvidenceWorld} (hrun : runEvents (stepEvidence profile) newEvidence events = some w)
    {j : ℕ} {uuid : Uuid} {input : ClaimInput} {row : EvidenceClaim}
    (hoperation : w.operations[j]? = some (.recordClaim uuid input))
    (hreturned : w.returned j = some row) :
    row ∈ w.shared.store.claims ∧
    (ScopeExists profile row.scopeKind row.scopeId ↔ strip input.scopeId = input.scopeId) ∧
    (w.shared.store.Active row.id →
      (VisibleAs profile input row w.shared.store ↔ strip input.scopeId = input.scopeId)) := by
  have hprogram := fun operation (s : EvidenceDb) (_ : EvidenceInvariant profile s) ↦
    recorded_evidenceProgram profile operation s
  have hfree := everyStep_undisturbed (evidenceProgram profile) newEvidence events
  obtain ⟨-, hkept⟩ := keptUnder_of_run hprogram (keptUnder_new evidenceInvariant_empty) hfree hrun
  obtain ⟨s, _, hreached, hanswered⟩ := hkept.returned hoperation hreturned
  obtain ⟨hmem, hrow⟩ := hanswered row rfl
  have hstored := (grows_of_commits (fun _ _ h ↦ h) hreached).mem hmem
  refine ⟨hstored, ?_, visibleAs_iff hprofile hartist hrow hstored⟩
  obtain ⟨hscope, -, -, -, hin⟩ := normalizeClaim_eq_ok hrow
  rw [hscope]
  exact scopeExists_iff hin

/-! ### Two runs -/

/-- A claim about the song, whose id is given after a space. -/
def spacedClaim : ClaimInput :=
  ⟨"SONG", " " ++ newId "song" (uuidEnding 2), "tempo", .str "slow", "OBSERVED", none, 1, "CREATIVE", []⟩

def recordedEvents (input : ClaimInput) : List EvidenceOccurrence :=
  .start (.recordClaim (uuidEnding 3) input) :: List.replicate 3 (.advance 0)

/-- A claim about the song is recorded and active, and neither `active_claims` nor `resolve_for_song` of
the song finds it. -/
theorem spaced_claim_lost : ∃ w row,
    runEvents (stepEvidence evidenceProfile) newEvidence (recordedEvents spacedClaim) = some w ∧
    w.returned 0 = some row ∧ w.shared.store.Active row.id ∧
    activeClaimsOf evidenceProfile "SONG" (newId "song" (uuidEnding 2)) "tempo" w.shared.store = .ok [] ∧
    ((resolveForSong evidenceProfile plainHost (newId "song" (uuidEnding 2)) "tempo" none).alone
      w.shared.store).1 = .ok (unknownResolution "tempo") ∧
    ¬ ScopeExists evidenceProfile row.scopeKind row.scopeId := by
  have hruns : (runEvents (stepEvidence evidenceProfile) newEvidence (recordedEvents spacedClaim)).map
      (fun w ↦ (w.returned 0).any fun row ↦ decide (w.shared.store.Active row.id ∧
        (activeClaimsOf evidenceProfile "SONG" (newId "song" (uuidEnding 2)) "tempo"
          w.shared.store).toOption = some [] ∧
        ((resolveForSong evidenceProfile plainHost (newId "song" (uuidEnding 2)) "tempo" none).alone
          w.shared.store).1.toOption = some (unknownResolution "tempo") ∧
        ¬ ScopeExists evidenceProfile row.scopeKind row.scopeId)) = some true := by
    decide +kernel
  obtain ⟨w, hrun, hstate⟩ := Option.map_eq_some_iff.mp hruns
  obtain ⟨row, hrow, hfacts⟩ := (Option.any_eq_true _ _).mp hstate
  obtain ⟨hactive, hlost, hunknown, hnowhere⟩ := of_decide_eq_true hfacts
  exact ⟨w, row, hrun, hrow, hactive, toOption_eq_some.mp hlost, toOption_eq_some.mp hunknown, hnowhere⟩

/-- A claim whose id is given as it is. -/
theorem sample_claim_visible : ∃ w row,
    runEvents (stepEvidence evidenceProfile) newEvidence (recordedEvents sampleClaim) = some w ∧
    w.returned 0 = some row ∧ VisibleAs evidenceProfile sampleClaim row w.shared.store := by
  have hruns : (runEvents (stepEvidence evidenceProfile) newEvidence (recordedEvents sampleClaim)).map
      (fun w ↦ (w.returned 0).any fun row ↦ decide (w.shared.store.Active row.id)) = some true := by
    decide +kernel
  obtain ⟨w, hrun, hstate⟩ := Option.map_eq_some_iff.mp hruns
  obtain ⟨row, hrow, hactive⟩ := (Option.any_eq_true _ _).mp hstate
  have hoperation : w.operations[0]? = some (.recordClaim (uuidEnding 3) sampleClaim) := by
    rw [operations_of_runLabelled hrun]
    rfl
  have hprofile : Created "prf" evidenceProfile.profileId := ⟨_, rfl⟩
  have hartist : Created "art" evidenceProfile.primaryArtistId := ⟨_, rfl⟩
  obtain ⟨-, -, hvisible⟩ := recorded_claim_visible_iff hprofile hartist hrun hoperation hrow
  refine ⟨w, row, hrun, hrow, (hvisible (of_decide_eq_true hactive)).mpr ?_⟩
  decide +kernel

end N0te.Evidence
