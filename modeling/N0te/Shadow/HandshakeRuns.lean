import N0te.Shadow.Handshake
import N0te.Shadow.Projection

/-!
# What an attachment does

On a song, an attachment that nobody else disturbs in the workspaces binds the session to a
workspace of the song, changes the workspaces in one transaction at most, leaves every other
workspace where it is and changes nothing if it raises (`outcomes_attachTo`), and a second one
reuses the workspace (`outcomes_attachTo_again`).
-/

set_option autoImplicit false
set_option relaxedAutoImplicit false

namespace N0te.Shadow

open Library Lineage

/-! ### Texts -/

/-- A stripped text that is not empty. -/
def IsText (value : String) : Prop := strip value = value ∧ value ≠ ""

theorem IsText.ofString {value : String} (h : IsText value) :
    Text.ofString value = some ⟨value, h.1, h.2⟩ :=
  Text.ofString_val ⟨value, h.1, h.2⟩

theorem isSpace_of_isHexDigit {c : Char} (h : isHexDigit c = true) : isSpace c = false := by
  have hrange : 48 ≤ c.toNat ∧ c.toNat ≤ 102 := by
    rw [isHexDigit, Bool.or_eq_true, Bool.and_eq_true, decide_eq_true_eq, decide_eq_true_eq] at h
    rcases h with hdigit | ⟨hlow, hhigh⟩
    · obtain ⟨hlow, hhigh⟩ := Char.isDigit_iff_toNat.mp hdigit
      have hlow : 48 ≤ c.toNat := hlow
      have hhigh : c.toNat ≤ 57 := hhigh
      omega
    · have hlow : 97 ≤ c.toNat := hlow
      have hhigh : c.toNat ≤ 102 := hhigh
      omega
  simp only [isSpace, Bool.or_eq_false_iff, Bool.and_eq_false_iff, decide_eq_false_iff_not,
    beq_eq_false_iff_ne]
  omega

theorem isText_newId {kind : String} (hkind : kind.toList.all (fun c ↦ !isSpace c) = true)
    (uuid : Uuid) : IsText (newId kind uuid) := by
  have hall : (newId kind uuid).toList.all (fun c ↦ !isSpace c) = true := by
    rw [newId, String.toList_ofList, List.all_append, hkind, List.all_cons, Bool.true_and,
      Bool.and_eq_true]
    refine ⟨by decide, List.all_eq_true.mpr fun c hc ↦ ?_⟩
    rw [isSpace_of_isHexDigit (List.all_eq_true.mp uuid.digits c hc)]
    rfl
  refine ⟨strip_eq_self hall, fun hempty ↦ ?_⟩
  have hlist := congrArg String.toList hempty
  rw [newId, String.toList_ofList] at hlist
  exact List.append_ne_nil_of_right_ne_nil _ (List.cons_ne_nil _ _) hlist

/-- The workspaces have distinct ids, and ids are texts. -/
structure HandshakeInvariant (db : ShadowDb) : Prop where
  /-- Distinct ids. -/
  workspaceIds : (db.workspaces.map WorkspaceIdentity.id).Nodup
  /-- The ids of workspaces. -/
  workspaceTexts : ∀ workspace ∈ db.workspaces, IsText workspace.id
  /-- The ids of songs. -/
  songTexts : ∀ song ∈ db.songs, IsText song.id
  /-- The ids of observations. -/
  observationTexts : ∀ observation ∈ db.observations, IsText observation.id

/-- A database without workspaces. -/
theorem handshakeInvariant_withSongs {songs : List Song} (h : ∀ song ∈ songs, IsText song.id) :
    HandshakeInvariant (.withSongs songs) :=
  ⟨List.nodup_nil, List.forall_mem_nil _, h, List.forall_mem_nil _⟩

/-! ### Reads -/

section

variable {db : ShadowDb} {workspace : WorkspaceIdentity}

theorem reads_workspaceState (workspaceId : String) : Reads (workspaceState workspaceId) :=
  (reads_requireWorkspace workspaceId).bind fun _ ↦ (reads_select _).bind fun _ ↦
    (reads_fromExcept _).bind fun _ ↦ .ended _

theorem reads_bindSession (activeSongId : String) (runtime : HostRuntimeIdentity)
    (status : HandshakeStatus) (workspaceId : String) :
    Reads (bindSession activeSongId runtime status workspaceId) :=
  (reads_workspaceState _).mapError.bind fun _ ↦
    ((reads_workspaceState _).mapError.bind fun _ ↦ reads_fromExcept _).bind fun _ ↦
      reads_fromExcept _

theorem reads_resolveExisting (activeSongId : String) (request : AttachRequest) :
    Reads (resolveExisting activeSongId request) := by
  refine Reads.bind (Reads.mapError ((reads_fromExcept _).bind fun _ ↦ reads_select _)) fun _ ↦
    (reads_fromExcept _).bind fun _ ↦ ?_
  cases request.known with
  | none => exact reads_fromExcept _
  | some known =>
    exact (reads_select _).mapError.bind fun _ ↦ (reads_fromExcept _).bind fun _ ↦ .ended _

/-- Of workspaces with distinct ids the one with an id is found. -/
theorem find?_workspace (hids : (db.workspaces.map WorkspaceIdentity.id).Nodup)
    (hworkspace : workspace ∈ db.workspaces) :
    (db.workspaces.find? fun other ↦ other.id = workspace.id) = some workspace := by
  cases hfind : db.workspaces.find? fun other ↦ other.id = workspace.id with
  | none => exact absurd (decide_eq_true rfl) (List.find?_eq_none.mp hfind workspace hworkspace)
  | some found =>
    have hid : found.id = workspace.id := by simpa using List.find?_some hfind
    rw [List.inj_on_of_nodup_map hids (List.mem_of_find?_eq_some hfind) hworkspace hid]

def ShadowDb.stateOfWorkspace (db : ShadowDb) (workspace : WorkspaceIdentity) :
    Checked WorkspaceState := do
  let current ← orRaise (db.latestObservation workspace.id)
    (corruption "workspace has no observation history")
  return ⟨workspace, current, db.history workspace.id⟩

theorem alone_requireWorkspace (hids : (db.workspaces.map WorkspaceIdentity.id).Nodup)
    (hworkspace : workspace ∈ db.workspaces) :
    (requireWorkspace workspace.id).alone db = (.ok workspace, db) := by
  show (orRaise (db.workspaces.find? fun other ↦ other.id = workspace.id) _, db) = _
  rw [find?_workspace hids hworkspace]
  rfl

theorem alone_workspaceState (hids : (db.workspaces.map WorkspaceIdentity.id).Nodup)
    (hworkspace : workspace ∈ db.workspaces) :
    (workspaceState workspace.id).alone db = (db.stateOfWorkspace workspace, db) := by
  rw [workspaceState, Call.alone_bind, alone_requireWorkspace hids hworkspace]
  show (Call.fromExcept (orRaise (db.latestObservation workspace.id) _) >>= fun current ↦
    pure (⟨workspace, current, db.history workspace.id⟩ : WorkspaceState) :
      ShadowCall WorkspaceState).alone db = _
  rw [ShadowDb.stateOfWorkspace]
  cases db.latestObservation workspace.id with
  | none => rfl
  | some current => rfl

/-- What `_resolve_existing` returns or raises. -/
def ShadowDb.resolve (db : ShadowDb) (activeSongId : String) (request : AttachRequest) :
    Attached (Option WorkspaceIdentity) := do
  let candidates := db.candidatesAt request.location.val
  require (candidates.length ≤ 1) (handshakeError
    "multiple current workspaces claim the same DAW project location")
  match request.known with
  | some known =>
    some <$> resolveKnown activeSongId request.runtime candidates
      (db.workspaces.find? fun workspace ↦ workspace.id = known.val)
  | none => resolveCandidate activeSongId request.runtime candidates.head?

theorem alone_resolveExisting (db : ShadowDb) (activeSongId : String) (request : AttachRequest) :
    ((resolveExisting activeSongId request).alone db).1 = db.resolve activeSongId request := by
  have hcandidates : (ofShadow (candidatesAtLocation request.location.val)).alone db =
      (.ok (db.candidatesAt request.location.val), db) := by
    rw [candidatesAtLocation, text, Text.ofString_val]
    rfl
  rw [resolveExisting, Call.alone_bind, hcandidates, ShadowDb.resolve]
  dsimp only
  cases require ((db.candidatesAt request.location.val).length ≤ 1) (handshakeError
    "multiple current workspaces claim the same DAW project location") with
  | error e => rfl
  | ok _ =>
    cases request.known with
    | none => rfl
    | some known =>
      show ((some <$> Call.fromExcept (resolveKnown activeSongId request.runtime
        (db.candidatesAt request.location.val) (db.workspaces.find? fun workspace ↦
          workspace.id = known.val)) : HandshakeCall (Option WorkspaceIdentity)).alone db).1 =
        some <$> resolveKnown activeSongId request.runtime _ _
      cases resolveKnown activeSongId request.runtime (db.candidatesAt request.location.val)
        (db.workspaces.find? fun workspace ↦ workspace.id = known.val) with
      | error e => rfl
      | ok workspace => rfl

end

/-! ### Who is resolved -/

/-- A workspace of the song is the one that a request may be bound to. -/
structure Resolved (db : ShadowDb) (songId : String) (request : AttachRequest)
    (workspace : WorkspaceIdentity) : Prop where
  mem : workspace ∈ db.workspaces
  song : workspace.songId = songId
  family : workspace.hostFamily = request.runtime.family
  /-- No other workspace is at the location. -/
  only : ∀ candidate ∈ db.candidatesAt request.location.val, candidate = workspace
  /-- It is the one that the host knows. -/
  known : ∀ known ∈ request.known, known.val = workspace.id

/-- It was last observed as the request says. -/
structure Settled (db : ShadowDb) (songId : String) (request : AttachRequest)
    (workspace : WorkspaceIdentity) : Prop extends Resolved db songId request workspace where
  /-- The last observation. -/
  latest : ∃ current, db.latestObservation workspace.id = some current ∧
    request.unchanged current = true

section

variable {db : ShadowDb} {songId : String} {request : AttachRequest} {workspace : WorkspaceIdentity}
  {candidates : List WorkspaceIdentity}

theorem unchanged_iff {current : WorkspaceObservation} : request.unchanged current = true ↔
    current.locationRef = request.location.val ∧
    current.hostRuntimeFingerprint = request.runtime.fingerprint ∧
    (∀ display ∈ request.display, current.displayName = some display.val) ∧
    ∀ state ∈ request.stateFingerprint, current.stateFingerprint = some state.val := by
  rw [AttachRequest.unchanged, decide_eq_true_eq]

theorem mem_candidatesAt {location : String} : workspace ∈ db.candidatesAt location ↔
    workspace ∈ db.workspaces ∧
      ∃ current, db.latestObservation workspace.id = some current ∧
        current.locationRef = location := by
  rw [ShadowDb.candidatesAt, List.mem_filter]
  refine and_congr_right fun _ ↦ ?_
  cases db.latestObservation workspace.id with
  | none => simp only [Option.any_none, Bool.false_eq_true, reduceCtorEq, false_and, exists_false]
  | some current =>
    rw [Option.any_some, decide_eq_true_eq]
    refine ⟨fun h ↦ ⟨current, rfl, h⟩, ?_⟩
    rintro ⟨other, hother, hlocation⟩
    cases hother
    exact hlocation

theorem validateWorkspaceOwner_eq_ok {runtime : HostRuntimeIdentity} {u : Unit} :
    validateWorkspaceOwner workspace songId runtime = .ok u ↔
      workspace.songId = songId ∧ workspace.hostFamily = runtime.family := by
  simp only [validateWorkspaceOwner, bind_eq_ok, require_eq_ok, exists_const]

theorem resolveKnown_eq_ok {found : Option WorkspaceIdentity} :
    resolveKnown songId request.runtime candidates found = .ok workspace ↔
      found = some workspace ∧ workspace.songId = songId ∧
        workspace.hostFamily = request.runtime.family ∧
        ∀ candidate ∈ candidates.head?, candidate.id = workspace.id := by
  simp only [resolveKnown, bind_eq_ok, orRaise_eq_ok, validateWorkspaceOwner_eq_ok, require_eq_ok,
    pure_eq_ok, exists_const]
  constructor
  · rintro ⟨_, hfound, ⟨hsong, hfamily⟩, hhead, rfl⟩
    exact ⟨hfound, hsong, hfamily, hhead⟩
  · rintro ⟨hfound, hsong, hfamily, hhead⟩
    exact ⟨workspace, hfound, ⟨hsong, hfamily⟩, hhead, rfl⟩

/-- A list of one item. -/
theorem eq_singleton_of_nodup {α : Type} {l : List α} {a : α} (hl : l.Nodup) (hmem : a ∈ l)
    (hall : ∀ b ∈ l, b = a) : l = [a] := by
  refine List.perm_singleton.mp ((List.perm_ext_iff_of_nodup hl (List.nodup_singleton a)).mpr
    fun b ↦ ⟨fun hb ↦ List.mem_singleton.mpr (hall b hb), fun hb ↦ ?_⟩)
  rw [List.mem_singleton.mp hb]
  exact hmem

/-- Nobody is resolved when nobody is at the location. -/
theorem resolve_none (h : db.resolve songId request = .ok none) :
    db.candidatesAt request.location.val = [] ∧ request.known = none := by
  simp only [ShadowDb.resolve, bind_eq_ok] at h
  obtain ⟨-, -, h⟩ := h
  cases hknown : request.known with
  | some known =>
    rw [hknown] at h
    obtain ⟨workspace, -, hsome⟩ := map_eq_ok.mp h
    cases hsome
  | none =>
    rw [hknown] at h
    cases hhead : (db.candidatesAt request.location.val).head? with
    | none => exact ⟨List.head?_eq_none_iff.mp hhead, rfl⟩
    | some candidate =>
      rw [hhead] at h
      simp only [resolveCandidate, bind_eq_ok, pure_eq_ok, reduceCtorEq, and_false,
        exists_false] at h

theorem resolve_some (h : HandshakeInvariant db)
    (hresolve : db.resolve songId request = .ok (some workspace)) :
    Resolved db songId request workspace := by
  simp only [ShadowDb.resolve, bind_eq_ok, require_eq_ok] at hresolve
  obtain ⟨-, hlength, hresolve⟩ := hresolve
  have honly : (∀ candidate ∈ (db.candidatesAt request.location.val).head?, candidate = workspace) →
      ∀ candidate ∈ db.candidatesAt request.location.val, candidate = workspace := by
    intro hhead candidate hcandidate
    generalize db.candidatesAt request.location.val = candidates at *
    cases candidates with
    | nil => cases hcandidate
    | cons first rest =>
      have hrest : rest = [] := List.eq_nil_of_length_eq_zero (by simpa using hlength)
      rw [hrest, List.mem_singleton] at hcandidate
      rw [hcandidate]
      exact hhead first rfl
  cases hknown : request.known with
  | some known =>
    rw [hknown] at hresolve
    obtain ⟨found, hfound, hsome⟩ := map_eq_ok.mp hresolve
    cases hsome
    obtain ⟨hfind, hsong, hfamily, hhead⟩ := resolveKnown_eq_ok.mp hfound
    have hmem := List.mem_of_find?_eq_some hfind
    refine ⟨hmem, hsong, hfamily, honly fun candidate hcandidate ↦ ?_, ?_⟩
    · refine List.inj_on_of_nodup_map h.workspaceIds ?_ hmem (hhead candidate hcandidate)
      exact (mem_candidatesAt.mp (List.mem_of_mem_head? hcandidate)).1
    · rw [hknown]
      intro other hother
      cases hother
      have hid := List.find?_some hfind
      rw [decide_eq_true_eq] at hid
      exact hid.symm
  | none =>
    rw [hknown] at hresolve
    cases hhead : (db.candidatesAt request.location.val).head? with
    | none =>
      rw [hhead] at hresolve
      cases hresolve
    | some candidate =>
      rw [hhead] at hresolve
      simp only [resolveCandidate, bind_eq_ok, validateWorkspaceOwner_eq_ok, pure_eq_ok,
        Option.some.injEq, exists_const] at hresolve
      obtain ⟨⟨hsong, hfamily⟩, rfl⟩ := hresolve
      refine ⟨(mem_candidatesAt.mp (List.mem_of_mem_head? hhead)).1, hsong, hfamily, honly ?_, ?_⟩
      · rw [hhead]
        rintro _ ⟨⟩
        rfl
      · rw [hknown]
        rintro _ ⟨⟩

/-- A settled workspace is alone at the location. -/
theorem Settled.candidatesAt_eq (h : Settled db songId request workspace)
    (hinvariant : HandshakeInvariant db) : db.candidatesAt request.location.val = [workspace] := by
  obtain ⟨current, hlatest, hunchanged⟩ := h.latest
  exact eq_singleton_of_nodup ((List.Nodup.of_map _ hinvariant.workspaceIds).filter _)
    (mem_candidatesAt.mpr ⟨h.mem, current, hlatest, (unchanged_iff.mp hunchanged).1⟩) h.only

theorem Settled.resolve_eq (h : Settled db songId request workspace)
    (hinvariant : HandshakeInvariant db) : db.resolve songId request = .ok (some workspace) := by
  rw [ShadowDb.resolve, h.candidatesAt_eq hinvariant]
  simp only [bind_eq_ok, require_eq_ok, exists_const]
  refine ⟨Nat.le_refl 1, ?_⟩
  cases hknown : request.known with
  | some known =>
    have hid : known.val = workspace.id := h.known known hknown
    refine map_eq_ok.mpr ⟨workspace, resolveKnown_eq_ok.mpr ⟨?_, h.song, h.family, ?_⟩, rfl⟩
    · rw [hid]
      exact find?_workspace hinvariant.workspaceIds h.mem
    · rintro _ ⟨⟩
      rfl
  | none =>
    simp only [List.head?_cons, resolveCandidate, bind_eq_ok, validateWorkspaceOwner_eq_ok,
      pure_eq_ok, exists_const]
    exact ⟨⟨h.song, h.family⟩, trivial⟩

end

/-! ### Binding -/

/-- A session is bound to the current observation of a workspace of the song. -/
structure Bound (db : ShadowDb) (songId : String) (request : AttachRequest)
    (workspace : WorkspaceIdentity) (result : HostSessionHandshakeResult) : Prop where
  mem : workspace ∈ db.workspaces
  song : workspace.songId = songId
  returned : result.workspace.workspace = workspace
  /-- The session is bound to it. -/
  workspaceId : result.binding.workspaceId.val = workspace.id
  /-- The session is bound to the song. -/
  songId : result.binding.songId.val = songId
  /-- The session is bound to the current observation, which is at the location and of the runtime.
  -/
  observation : ∃ current, db.latestObservation workspace.id = some current ∧
    result.binding.workspaceObservationId.val = current.id ∧
    current.locationRef = request.location.val ∧
    current.hostRuntimeFingerprint = request.runtime.fingerprint

section

variable {db : ShadowDb} {songId : String} {request : AttachRequest} {workspace : WorkspaceIdentity}

theorem alone_ofShadow {α : Type} {call : ShadowCall α} (h : Reads call) (db : ShadowDb) :
    (ofShadow call).alone db = ((call.alone db).1.mapError fromShadow, db) :=
  Prod.ext (h.alone_mapError db) (h.mapError.alone db)

theorem bindingText_of_isText {value : String} (h : IsText value) (field : String) :
    bindingText value field = .ok ⟨value, h.1, h.2⟩ := by
  rw [bindingText, h.ofString]
  rfl

/-- What a settled workspace is bound with. -/
theorem bindingOf_settled {current : WorkspaceObservation} {history : List WorkspaceObservation}
    (hsong : workspace.songId = songId) (hfamily : workspace.hostFamily = request.runtime.family)
    (hruntime : current.hostRuntimeFingerprint = request.runtime.fingerprint)
    (hid : IsText workspace.id) (hsongId : IsText songId) (hobservation : IsText current.id)
    (hfingerprint : IsText request.runtime.fingerprint) :
    bindingOf songId request.runtime ⟨workspace, current, history⟩ =
      .ok ⟨⟨workspace.id, hid.1, hid.2⟩, ⟨songId, hsongId.1, hsongId.2⟩,
        ⟨current.id, hobservation.1, hobservation.2⟩,
        ⟨request.runtime.fingerprint, hfingerprint.1, hfingerprint.2⟩, request.runtime⟩ := by
  simp only [bindingOf, bind_eq_ok, require_eq_ok, exists_const]
  refine ⟨hsong, hfamily, hruntime, ?_⟩
  rw [hsong, hruntime, HostObservationBinding.new, bindingText_of_isText hid,
    bindingText_of_isText hsongId, bindingText_of_isText hobservation,
    bindingText_of_isText hfingerprint]
  simp only [bind_eq_ok, require_eq_ok, exists_const, Except.ok.injEq, exists_eq_left']
  exact ⟨trivial, rfl⟩

/-- A session is bound to a settled workspace. -/
theorem alone_bindSession (status : HandshakeStatus) (hinvariant : HandshakeInvariant db)
    (h : Settled db songId request workspace) (hsongId : IsText songId)
    (hfingerprint : IsText request.runtime.fingerprint) :
    ∃ result, ((bindSession songId request.runtime status workspace.id).alone db).1 = .ok result ∧
      result.status = status ∧ Bound db songId request workspace result := by
  obtain ⟨current, hlatest, hunchanged⟩ := h.latest
  obtain ⟨hlocation, hruntime, -⟩ := unchanged_iff.mp hunchanged
  have hobservation := hinvariant.observationTexts current (mem_of_latestObservation hlatest).1
  have hstate : (ofShadow (workspaceState workspace.id)).alone db =
      (.ok ⟨workspace, current, db.history workspace.id⟩, db) := by
    rw [alone_ofShadow (reads_workspaceState _), alone_workspaceState hinvariant.workspaceIds h.mem,
      ShadowDb.stateOfWorkspace, hlatest]
    rfl
  obtain ⟨binding, hbinding, hworkspaceId, hbindingSong, hbindingObservation⟩ : ∃ binding,
      bindingOf songId request.runtime ⟨workspace, current, db.history workspace.id⟩ = .ok binding ∧
        binding.workspaceId.val = workspace.id ∧ binding.songId.val = songId ∧
        binding.workspaceObservationId.val = current.id :=
    ⟨_, bindingOf_settled h.song h.family hruntime (hinvariant.workspaceTexts workspace h.mem)
      hsongId hobservation hfingerprint, rfl, rfl, rfl⟩
  rw [bindSession, Call.alone_bind, hstate]
  dsimp only
  rw [Call.alone_bind, beginObservation, Call.alone_bind, hstate]
  dsimp only
  rw [hbinding]
  refine ⟨⟨status, binding, ⟨workspace, current, db.history workspace.id⟩⟩, ?_, rfl, h.mem, h.song,
    rfl, hworkspaceId, hbindingSong, current, hlatest, hbindingObservation, hlocation, hruntime⟩
  show HostSessionHandshakeResult.new _ _ _ = _
  simp only [HostSessionHandshakeResult.new, bind_eq_ok, require_eq_ok, exists_const, pure_eq_ok,
    hworkspaceId, hbindingSong, h.song, true_and]

end

/-! ### The transaction of an attachment -/

/-- A transaction appends an observation of a workspace as the request says, with the workspace if
it is new. -/
inductive Attaches (request : AttachRequest) (workspace : WorkspaceIdentity) (db : ShadowDb) :
    ShadowDb → Prop
  | observed {created : List WorkspaceIdentity} {row : WorkspaceObservation}
      (hmem : workspace ∈ db.workspaces ++ created)
      (hids : ((db.workspaces ++ created).map WorkspaceIdentity.id).Nodup)
      (hcreated : ∀ other ∈ created, other = workspace ∧ IsText other.id)
      (hrow : row.workspaceId = workspace.id) (hid : IsText row.id)
      (hunchanged : request.unchanged row = true) :
      Attaches request workspace db { db with
        workspaces := db.workspaces ++ created
        observations := db.observations ++ [row] }

section

variable {db after : ShadowDb} {songId : String} {request : AttachRequest}
  {workspace : WorkspaceIdentity}

theorem Attaches.songs (h : Attaches request workspace db after) : after.songs = db.songs := by
  cases h
  rfl

theorem Attaches.mem (h : Attaches request workspace db after) : workspace ∈ after.workspaces := by
  cases h
  assumption

/-- An attachment keeps the invariant. -/
theorem HandshakeInvariant.attaches (hinvariant : HandshakeInvariant db)
    (h : Attaches request workspace db after) : HandshakeInvariant after := by
  cases h with
  | observed hmem hids hcreated hrow hid hunchanged =>
    refine ⟨hids, List.forall_mem_append.mpr ⟨hinvariant.workspaceTexts, fun other hother ↦ ?_⟩,
      hinvariant.songTexts, List.forall_mem_append.mpr ⟨hinvariant.observationTexts, ?_⟩⟩
    · exact (hcreated other hother).2
    · exact List.forall_mem_singleton.mpr hid

/-- Every workspace stays, and only the one that is attached has another history. -/
theorem Attaches.others (h : Attaches request workspace db after) {other : WorkspaceIdentity}
    (hother : other ∈ db.workspaces) : other ∈ after.workspaces ∧
      (other.songId ≠ workspace.songId → after.history other.id = db.history other.id) := by
  cases h with
  | @observed created row hmem hids hcreated hrow hid hunchanged =>
    have hstays := List.mem_append_left created hother
    refine ⟨hstays, fun hsong ↦ ?_⟩
    have hne : row.workspaceId ≠ other.id := fun hsame ↦
      hsong (congrArg WorkspaceIdentity.songId
        (List.inj_on_of_nodup_map hids hstays hmem (hsame.symm.trans hrow)))
    rw [ShadowDb.history, List.filter_append, List.filter_singleton, decide_eq_false hne,
      Bool.cond_false, List.append_nil]
    rfl

theorem Attaches.settled (h : Attaches request workspace db after)
    (hsong : workspace.songId = songId) (hfamily : workspace.hostFamily = request.runtime.family)
    (honly : ∀ candidate ∈ db.candidatesAt request.location.val, candidate = workspace)
    (hknown : ∀ known ∈ request.known, known.val = workspace.id) :
    Settled after songId request workspace := by
  cases h with
  | @observed created row hmem hids hcreated hrow hid hunchanged =>
    refine ⟨⟨hmem, hsong, hfamily, fun candidate hcandidate ↦ ?_, hknown⟩, row, ?_, hunchanged⟩
    · obtain ⟨hthere, current, hlatest, hlocation⟩ := mem_candidatesAt.mp hcandidate
      by_cases hsame : row.workspaceId = candidate.id
      · exact List.inj_on_of_nodup_map hids hthere hmem (hsame.symm.trans hrow)
      · rw [latestObservation_append_other hsame] at hlatest
        rcases List.mem_append.mp hthere with hold | hnew
        · exact honly candidate (mem_candidatesAt.mpr ⟨hold, current, hlatest, hlocation⟩)
        · exact (hcreated candidate hnew).1
    · rw [← hrow]
      exact latestObservation_append_self

/-- The row of an observation is as the request says. -/
theorem unchanged_of_appendObservation (request : AttachRequest) {uuid : Uuid}
    {workspaceId : String} {kind : ObservationKind} {input : ObservationInput}
    (hlocation : input.locationRef = request.location.val)
    (hruntime : input.runtime = request.runtime)
    (hdisplay : ∀ display ∈ request.display, input.displayName = some display.val)
    (hstate : ∀ state ∈ request.stateFingerprint, input.stateFingerprint = some state.val)
    (happend : appendObservation uuid workspaceId kind input db = .ok after) :
    ∃ row : WorkspaceObservation, after = { db with observations := db.observations ++ [row] } ∧
      row.id = newId "wobs" uuid ∧ row.workspaceId = workspaceId ∧
      request.unchanged row = true := by
  simp only [appendObservation, ShadowDb.insertObservation, bind_eq_ok, require_eq_ok,
    Except.ok.injEq] at happend
  obtain ⟨location, hlocated, display, hnamed, state, hread, -, -, -, -, -, -, -, -, rfl⟩ := happend
  have hoptional : ∀ {value : Option String} {field : String} {result : Option Text} (known : Text),
      value = some known.val → optionalText .workspaceError value field = .ok result →
        result.map Text.val = some known.val := by
    intro value field result known hvalue hchecked
    rw [hvalue, optionalText, text, Text.ofString_val, map_eq_ok] at hchecked
    obtain ⟨other, hother, rfl⟩ := hchecked
    rw [orRaise_eq_ok] at hother
    cases hother
    rfl
  refine ⟨_, rfl, rfl, rfl, unchanged_iff.mpr
    ⟨?_, ?_, fun known hknown ↦ ?_, fun known hknown ↦ ?_⟩⟩
  · rw [text, hlocation, Text.ofString_val, orRaise_eq_ok] at hlocated
    cases hlocated
    rfl
  · exact congrArg HostRuntimeIdentity.fingerprint hruntime
  · exact hoptional known (hdisplay known hknown) hnamed
  · exact hoptional known (hstate known hknown) hread

end

/-! ### Attachments of a request -/

/-- A workspace of the song is written in one transaction, or nothing is and the call raises. -/
structure Written (request : AttachRequest) (songId : String) (workspace : WorkspaceIdentity)
    (db : ShadowDb) (outcome : Outcome ShadowDb (Raised HandshakeErrorClass) WorkspaceIdentity) :
    Prop where
  raised : ∀ e, outcome.result = .error e → outcome.commits = []
  returned : ∀ other, outcome.result = .ok other → other = workspace ∧
    outcome.commits = [(db, outcome.store)] ∧ Attaches request workspace db outcome.store ∧
    workspace.songId = songId ∧ workspace.hostFamily = request.runtime.family

section

variable {db : ShadowDb} {songId : String} {request : AttachRequest} {workspace : WorkspaceIdentity}

theorem written_error (e : Raised HandshakeErrorClass) :
    Written request songId workspace db ⟨.error e, db, []⟩ := ⟨fun _ _ ↦ rfl, fun _ h ↦ by cases h⟩

theorem ofShadow_eq_ok {α : Type} {call : ShadowCall α} (h : Reads call) {a : α}
    (hreturned : ((ofShadow call).alone db).1 = .ok a) : (call.alone db).1 = .ok a := by
  rw [alone_ofShadow h] at hreturned
  exact mapError_eq_ok.mp hreturned

/-- The row of a new workspace. -/
def newWorkspace (ids : AttachIds) (songId : String) (request : AttachRequest) :
    WorkspaceIdentity :=
  ⟨newId "wsp" ids.workspace, songId, request.runtime.family, none⟩

/-- The transaction of a creation. -/
theorem attaches_create {after : ShadowDb} (hinvariant : HandshakeInvariant db) (ids : AttachIds)
    (hchange : (do
      let db ← db.insertWorkspace (newWorkspace ids songId request)
      appendObservation ids.observation (newWorkspace ids songId request).id .created
        request.observation db) = .ok after) :
    Attaches request (newWorkspace ids songId request) db after := by
  simp only [ShadowDb.insertWorkspace, bind_eq_ok, require_eq_ok, Except.ok.injEq] at hchange
  obtain ⟨middle, ⟨-, -, -, hnew, -, -, -, -, rfl⟩, happend⟩ := hchange
  obtain ⟨row, rfl, hid, hrow, hunchanged⟩ := unchanged_of_appendObservation request
    rfl rfl
    (fun display hdisplay ↦ congrArg (Option.map Text.val) hdisplay)
    (fun state hstate ↦ congrArg (Option.map Text.val) hstate) happend
  refine .observed (List.mem_append_right _ (List.mem_singleton_self _)) ?_
    (fun other hother ↦ ?_) hrow (hid ▸ isText_newId (by decide) _) hunchanged
  · rw [List.map_append]
    refine hinvariant.workspaceIds.append (List.nodup_singleton _) ?_
    simp only [List.map_cons, List.map_nil, List.disjoint_singleton, List.mem_map, not_exists,
      not_and]
    exact hnew
  · rw [List.mem_singleton.mp hother]
    exact ⟨rfl, isText_newId (by decide) _⟩

/-- The transaction of a reconciliation. -/
theorem attaches_reconcile {after : ShadowDb} {uuid : Uuid} {kind : ObservationKind}
    {current : WorkspaceObservation} (hinvariant : HandshakeInvariant db)
    (hmem : workspace ∈ db.workspaces)
    (happend : appendObservation uuid workspace.id kind (request.observationAfter current) db =
      .ok after) : Attaches request workspace db after := by
  obtain ⟨row, rfl, hid, hrow, hunchanged⟩ := unchanged_of_appendObservation request
    rfl rfl
    (fun display hdisplay ↦ by
      rw [AttachRequest.observationAfter, show request.display = some display from hdisplay]
      rfl)
    (fun state hstate ↦ by
      rw [AttachRequest.observationAfter, show request.stateFingerprint = some state from hstate]
      rfl) happend
  have hattaches : Attaches request workspace db { db with
      workspaces := db.workspaces ++ []
      observations := db.observations ++ [row] } := by
    refine .observed ?_ ?_ (List.forall_mem_nil _) hrow (hid ▸ isText_newId (by decide) _)
      hunchanged
    · rw [List.append_nil]
      exact hmem
    · rw [List.append_nil]
      exact hinvariant.workspaceIds
  rwa [List.append_nil] at hattaches

/-- A workspace is created. -/
theorem outcomes_create (hinvariant : HandshakeInvariant db) (ids : AttachIds) :
    Outcomes db (ofShadow (create ids.workspace ids.observation songId request.observation))
      (Written request songId (newWorkspace ids songId request) db) := by
  rw [ofShadow, create, mapError_bind]
  refine outcomes_reads_bind (reads_requireSong _).mapError (fun e _ ↦ written_error e) fun _ _ ↦ ?_
  rw [mapError_bind]
  refine outcomes_reads_bind (reads_currentCandidatesAtLocation _).mapError
    (fun e _ ↦ written_error e) fun _ _ ↦ ?_
  rw [mapError_bind]
  refine outcomes_reads_bind (reads_fromExcept _).mapError (fun e _ ↦ written_error e) fun _ _ ↦ ?_
  dsimp only
  rw [mapError_bind]
  refine outcomes_mapError_transaction_bind written_error fun t ht ↦ ?_
  have hattaches := attaches_create hinvariant ids ht
  refine (reads_requireWorkspace _).mapError.outcomes ?_
  have hread : (((requireWorkspace (newWorkspace ids songId request).id).mapError fromShadow
      toShadow).alone t).1 = .ok (newWorkspace ids songId request) := by
    rw [(reads_requireWorkspace _).alone_mapError,
      alone_requireWorkspace (hinvariant.attaches hattaches).workspaceIds hattaches.mem]
    rfl
  refine ⟨fun e he ↦ ?_, fun workspace hworkspace ↦ ?_⟩
  · cases hread.symm.trans he
  · cases hread.symm.trans hworkspace
    exact ⟨rfl, rfl, hattaches, rfl, rfl⟩

theorem outcomes_reconcile (hinvariant : HandshakeInvariant db) {current : WorkspaceObservation}
    (uuid : Uuid) (hmem : workspace ∈ db.workspaces) :
    Outcomes db (ofShadow (reconcileExisting uuid workspace.id songId "SAME_OR_MOVED"
      (request.observationAfter current))) (Written request songId workspace db) := by
  rw [ofShadow, reconcileExisting, mapError_bind]
  refine outcomes_reads_bind (reads_requireWorkspace _).mapError (fun e _ ↦ written_error e)
    fun found hfound ↦ ?_
  have hfound := ofShadow_eq_ok (reads_requireWorkspace _) hfound
  rw [alone_requireWorkspace hinvariant.workspaceIds hmem] at hfound
  cases hfound
  rw [mapError_bind]
  refine outcomes_reads_bind (reads_fromExcept _).mapError (fun e _ ↦ written_error e)
    fun kind hkind ↦ ?_
  have hkind := ofShadow_eq_ok (reads_fromExcept _) hkind
  simp only [Call.fromExcept, Call.alone, bind_eq_ok, require_eq_ok] at hkind
  obtain ⟨-, hsong, -, -, -, hfamily, -⟩ := hkind
  rw [mapError_bind]
  refine outcomes_reads_bind (reads_currentCandidatesAtLocation _).mapError
    (fun e _ ↦ written_error e) fun _ _ ↦ ?_
  rw [mapError_bind]
  refine outcomes_reads_bind (reads_fromExcept _).mapError (fun e _ ↦ written_error e) fun _ _ ↦ ?_
  rw [mapError_bind]
  refine outcomes_mapError_transaction_bind written_error fun t ht ↦ outcomes_ended ?_
  refine ⟨fun e he ↦ (by cases he), fun other hother ↦ ?_⟩
  cases hother
  exact ⟨rfl, rfl, attaches_reconcile hinvariant hmem ht, hsong, hfamily.symm⟩

/-- A session is bound to a settled workspace, which was written in the commits, or nothing is
committed and the call raises. -/
structure AttachedAs (request : AttachRequest) (songId : String) (db : ShadowDb)
    (outcome : Outcome ShadowDb (Raised HandshakeErrorClass) HostSessionHandshakeResult) :
    Prop where
  raised : ∀ e, outcome.result = .error e → outcome.commits = []
  returned : ∀ result, outcome.result = .ok result →
    HandshakeInvariant outcome.store ∧ outcome.store.songs = db.songs ∧
    Settled outcome.store songId request result.workspace.workspace ∧
    Bound outcome.store songId request result.workspace.workspace result ∧
    ∀ commit ∈ outcome.commits, Attaches request result.workspace.workspace commit.1 commit.2

theorem attachedAs_error (e : Raised HandshakeErrorClass) :
    AttachedAs request songId db ⟨.error e, db, []⟩ := ⟨fun _ _ ↦ rfl, fun _ h ↦ by cases h⟩

/-- The end of an attachment. -/
theorem outcomes_bindSession {store : ShadowDb} (commits : List (ShadowDb × ShadowDb))
    {status : HandshakeStatus} (hinvariant : HandshakeInvariant store)
    (hsongs : store.songs = db.songs)
    (hsettled : Settled store songId request workspace)
    (hcommits : ∀ commit ∈ commits, Attaches request workspace commit.1 commit.2)
    (hsongId : IsText songId) (hfingerprint : IsText request.runtime.fingerprint) :
    Outcomes store (bindSession songId request.runtime status workspace.id) fun outcome ↦
      AttachedAs request songId db (outcome.after commits) := by
  obtain ⟨result, hresult, -, hbound⟩ :=
    alone_bindSession status hinvariant hsettled hsongId hfingerprint
  refine (reads_bindSession _ _ _ _).outcomes ?_
  rw [hresult]
  refine ⟨fun e he ↦ (by cases he), fun other hother ↦ ?_⟩
  cases hother
  rw [hbound.returned]
  refine ⟨hinvariant, hsongs, hsettled, hbound, fun commit hcommit ↦ hcommits commit ?_⟩
  rwa [Outcome.after, List.append_nil] at hcommit

/-- A written workspace is bound. -/
theorem outcomes_written {call : HandshakeCall WorkspaceIdentity} {status : HandshakeStatus}
    (h : Outcomes db call (Written request songId workspace db))
    (hinvariant : HandshakeInvariant db)
    (honly : ∀ candidate ∈ db.candidatesAt request.location.val, candidate = workspace)
    (hknown : ∀ known ∈ request.known, known.val = workspace.id) (hsongId : IsText songId)
    (hfingerprint : IsText request.runtime.fingerprint) :
    Outcomes db (call >>= fun workspace ↦
      bindSession songId request.runtime status workspace.id) (AttachedAs request songId db) := by
  refine h.bind
    (fun e store commits hwritten ↦ ⟨fun _ _ ↦ hwritten.raised e rfl, fun _ he ↦ by cases he⟩)
    fun other store commits hwritten ↦ ?_
  obtain ⟨rfl, hcommits, hattaches, hsong, hfamily⟩ := hwritten.returned other rfl
  refine outcomes_bindSession commits (hinvariant.attaches hattaches) hattaches.songs
    (hattaches.settled hsong hfamily honly hknown) ?_ hsongId hfingerprint
  rw [show commits = [(db, store)] from hcommits]
  exact List.forall_mem_singleton.mpr hattaches

theorem outcomes_attachTo (hinvariant : HandshakeInvariant db) (hsongId : IsText songId)
    (hfingerprint : IsText request.runtime.fingerprint) (ids : AttachIds) :
    Outcomes db (attachTo ids songId request) (AttachedAs request songId db) := by
  refine outcomes_reads_bind (reads_resolveExisting _ _) (fun e _ ↦ attachedAs_error e)
    fun existing hexisting ↦ ?_
  rw [alone_resolveExisting] at hexisting
  cases existing with
  | none =>
    obtain ⟨hnobody, hunknown⟩ := resolve_none hexisting
    refine outcomes_written (outcomes_create hinvariant ids) hinvariant ?_ ?_ hsongId hfingerprint
    · rw [hnobody]
      exact List.forall_mem_nil _
    · rw [hunknown]
      rintro _ ⟨⟩
  | some workspace =>
    have hresolved := resolve_some hinvariant hexisting
    refine outcomes_reads_bind (reads_workspaceState _).mapError (fun e _ ↦ attachedAs_error e)
      fun state hstate ↦ ?_
    have hstate := ofShadow_eq_ok (reads_workspaceState _) hstate
    rw [alone_workspaceState hinvariant.workspaceIds hresolved.mem] at hstate
    simp only [ShadowDb.stateOfWorkspace, bind_eq_ok, orRaise_eq_ok, pure_eq_ok] at hstate
    obtain ⟨current, hlatest, rfl⟩ := hstate
    by_cases hunchanged : request.unchanged current = true
    · rw [if_pos hunchanged]
      exact outcomes_bindSession [] hinvariant rfl
        ⟨hresolved, current, hlatest, hunchanged⟩ (List.forall_mem_nil _) hsongId hfingerprint
    · rw [if_neg hunchanged]
      exact outcomes_written (outcomes_reconcile hinvariant ids.observation hresolved.mem)
        hinvariant hresolved.only hresolved.known hsongId hfingerprint

/-- A second attachment to a song reuses the workspace. -/
theorem outcomes_attachTo_again (hinvariant : HandshakeInvariant db)
    (hsettled : Settled db songId request workspace) (hsongId : IsText songId)
    (hfingerprint : IsText request.runtime.fingerprint) (ids : AttachIds) :
    Outcomes db (attachTo ids songId request) fun outcome ↦ outcome.commits = [] ∧
      ∃ result, outcome.result = .ok result ∧ result.status = .reused ∧
        Bound db songId request workspace result := by
  obtain ⟨current, hlatest, hunchanged⟩ := hsettled.latest
  obtain ⟨result, hresult, hstatus, hbound⟩ :=
    alone_bindSession .reused hinvariant hsettled hsongId hfingerprint
  have hresolve := (alone_resolveExisting db songId request).trans (hsettled.resolve_eq hinvariant)
  refine outcomes_reads_bind (reads_resolveExisting _ _)
    (fun e he ↦ by cases hresolve.symm.trans he) fun existing hexisting ↦ ?_
  cases hresolve.symm.trans hexisting
  have hstate : (ofShadow (workspaceState workspace.id)).alone db =
      (.ok ⟨workspace, current, db.history workspace.id⟩, db) := by
    rw [alone_ofShadow (reads_workspaceState _),
      alone_workspaceState hinvariant.workspaceIds hsettled.mem, ShadowDb.stateOfWorkspace, hlatest]
    rfl
  refine outcomes_reads_bind (reads_workspaceState _).mapError
    (fun e he ↦ by cases (congrArg Prod.fst hstate).symm.trans he) fun state hread ↦ ?_
  cases (congrArg Prod.fst hstate).symm.trans hread
  rw [if_pos hunchanged]
  refine (reads_bindSession _ _ _ _).outcomes ⟨rfl, result, hresult, hstatus, hbound⟩

end

end N0te.Shadow
