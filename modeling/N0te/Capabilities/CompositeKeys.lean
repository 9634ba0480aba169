import N0te.Capabilities.EntitlementTruth
import N0te.Library.Separated
import N0te.Routes.CapabilityResolver

/-!
# Texts that keys are digests of

`claim_key`, `_candidate_id` and `environment_id` hash identifiers that are joined by U+0000. A
checked identifier may hold that character too, so two different pairs of a route and a capability
may be joined to one text. It happens exactly where another U+0000 stands between a character that
an identifier may end with and one that it may begin with (`composite_keys`). The ids of an
environment are made by the stores, and their texts are all different.
-/

set_option autoImplicit false
set_option relaxedAutoImplicit false

namespace N0te.Capabilities

open Library Routes

/-! ### Identifiers -/

/-- The character between joined identifiers. -/
def nul : Char := Char.ofNat 0

/-- No whitespace. -/
abbrev Visible (c : Char) : Prop := isSpace c = false

theorem stripChars_eq_self_iff {l : List Char} :
    stripChars l = l ↔ l.dropWhile isSpace = l ∧ l.rdropWhile isSpace = l := by
  constructor
  · intro h
    have hdrop : l.dropWhile isSpace = l := by
      conv_lhs => rw [← h]
      rw [stripChars, dropWhile_rdropWhile_dropWhile]
      exact h
    rw [stripChars, hdrop] at h
    exact ⟨hdrop, h⟩
  · rintro ⟨hdrop, hrdrop⟩
    rw [stripChars, hdrop, hrdrop]

/-- The characters of a checked text begin and end with no whitespace. -/
theorem isText_iff_bounded {l : List Char} :
    strip (String.ofList l) = String.ofList l ∧ String.ofList l ≠ "" ↔
      Bounded Visible Visible l := by
  have hempty : String.ofList l ≠ "" ↔ l ≠ [] := by
    rw [ne_eq, ← String.toList_inj, String.toList_ofList]
    exact Iff.rfl
  have hstrip : strip (String.ofList l) = String.ofList l ↔ stripChars l = l := by
    rw [strip, String.toList_ofList, String.ofList_inj]
  rw [hempty, hstrip, stripChars_eq_self_iff, List.dropWhile_eq_self_iff,
    List.rdropWhile_eq_self_iff]
  constructor
  · rintro ⟨⟨hhead, hlast⟩, hne⟩
    constructor
    · refine ⟨l.head hne, List.head_mem_head? hne, ?_⟩
      have hpos : 0 < l.length := List.length_pos_iff.mpr hne
      simpa [List.head_eq_getElem] using hhead hpos
    · exact ⟨l.getLast hne, List.getLast_mem_getLast? hne, by simpa using hlast hne⟩
  · rintro ⟨⟨c, hc, hvisible⟩, ⟨d, hd, hvisible'⟩⟩
    have hne : l ≠ [] := List.ne_nil_of_mem (List.mem_of_mem_head? hc)
    have hhead : l.head hne = c := by
      rw [List.head?_eq_some_head hne] at hc
      exact Option.some.inj hc
    have hlast : l.getLast hne = d := by
      rw [List.getLast?_eq_some_getLast hne] at hd
      exact Option.some.inj hd
    refine ⟨⟨fun hpos ↦ ?_, fun _ ↦ ?_⟩, hne⟩
    · rw [← List.head_eq_getElem hne, hhead, hvisible]
      decide
    · rw [hlast, hvisible']
      decide

/-- An identifier that the entitlement service accepts. -/
theorem bounded_text (t : Text) : Bounded Visible Visible t.val.toList :=
  isText_iff_bounded.mp (by rw [String.ofList_toList]; exact ⟨t.stripped, t.nonempty⟩)

theorem exists_text {l : List Char} (h : Bounded Visible Visible l) :
    ∃ t : Text, t.val.toList = l := by
  obtain ⟨hstrip, hne⟩ := isText_iff_bounded.mpr h
  exact ⟨⟨String.ofList l, hstrip, hne⟩, String.toList_ofList⟩

/-- What a recorded identifier may begin with. -/
abbrev Leading (c : Char) : Prop := Visible c ∧ c ≠ nul

/-- An identifier that the table of capability evidence accepts, which checks its
`length(trim(x))`. -/
abbrev RecordedId := {t : Text // sqlNonblank t.val = true}

theorem sqlNonblank_iff (t : Text) :
    sqlNonblank t.val = true ↔ Begins (fun c ↦ c ≠ nul) t.val.toList := by
  obtain ⟨c, hc, hvisible⟩ := (bounded_text t).begins
  have hne : c ≠ ' ' := by
    rintro rfl
    cases hvisible
  cases hlist : t.val.toList with
  | nil => simp [hlist] at hc
  | cons d rest =>
    obtain rfl : d = c := by simpa [hlist] using hc
    rw [sqlNonblank, hlist, List.dropWhile_cons_of_neg (by simpa using hne)]
    simp [Begins, nul]

theorem bounded_recordedId (id : RecordedId) : Bounded Leading Visible id.val.val.toList := by
  obtain ⟨c, hc, hvisible⟩ := (bounded_text id.val).begins
  obtain ⟨d, hd, hnul⟩ := (sqlNonblank_iff id.val).mp id.property
  cases hc.symm.trans hd
  exact ⟨⟨c, hc, hvisible, hnul⟩, (bounded_text id.val).ends⟩

theorem exists_recordedId {l : List Char} (h : Bounded Leading Visible l) :
    ∃ id : RecordedId, id.val.val.toList = l := by
  obtain ⟨c, hc, hvisible, hnul⟩ := h.begins
  obtain ⟨t, rfl⟩ := exists_text ⟨⟨c, hc, hvisible⟩, h.ends⟩
  exact ⟨⟨t, (sqlNonblank_iff t).mpr ⟨c, hc, hnul⟩⟩, rfl⟩

/-! ### Texts that are hashed -/

/-- What `claim_key` is given. -/
structure EntitlementKey where
  routeId : Text
  capability : Text
  accessKind : AccessKind
  deriving DecidableEq

/-- The text that `claim_key` hashes. -/
def EntitlementKey.text (key : EntitlementKey) : String :=
  let separator := String.singleton (Char.ofNat 0)
  "n0te-entitlement-key/v1" ++ separator ++ key.routeId.val ++ separator ++ key.capability.val ++
    separator ++ key.accessKind.name

/-- `ROUTE_KINDS`. -/
def routeKindName : RouteKind → String
  | .hostNative => "HOST_NATIVE"
  | .n0teNative => "N0TE_NATIVE"
  | .ownedTool => "OWNED_TOOL"
  | .provider => "PROVIDER"
  | .guided => "GUIDED"

/-- What `_candidate_id` is given by a record. -/
structure CandidateKey where
  routeKind : RouteKind
  routeId : RecordedId
  capability : RecordedId
  deriving DecidableEq

/-- The text that `_candidate_id` hashes. -/
def CandidateKey.text (key : CandidateKey) : String :=
  let separator := String.singleton (Char.ofNat 0)
  "n0te-capability-route/v1" ++ separator ++ routeKindName key.routeKind ++ separator ++
    key.routeId.val.val ++ separator ++ key.capability.val.val

/-- An id that `_new_id` makes, or a digest: hexadecimal digits after a name. -/
def Made (name : String) (id : String) : Prop :=
  ∃ digits : List Char, (∀ c ∈ digits, Lineage.isHexDigit c = true) ∧
    id = name ++ String.ofList digits

/-- The ids of an environment, as the stores make them. -/
structure EnvironmentKey where
  workspaceId : String
  workspaceObservationId : String
  hostRuntimeFingerprint : String
  workspace : Made "wsp_" workspaceId
  observation : Made "wobs_" workspaceObservationId
  fingerprint : Made "" hostRuntimeFingerprint

/-- The text that `environment_id` hashes. -/
def EnvironmentKey.text (key : EnvironmentKey) : String :=
  let separator := String.singleton (Char.ofNat 0)
  "n0te-capability-environment/v1" ++ separator ++ key.workspaceId ++ separator ++
    key.workspaceObservationId ++ separator ++ key.hostRuntimeFingerprint

/-! ### Keys that share their text -/

theorem nul_not_mem_accessKind (kind : AccessKind) : nul ∉ kind.name.toList := by
  cases kind <;> decide

theorem nul_not_mem_routeKind (kind : RouteKind) : nul ∉ (routeKindName kind).toList := by
  cases kind <;> decide

theorem accessKindName_injective : Function.Injective AccessKind.name := by
  intro a b h
  have hread (kind : AccessKind) : AccessKind.ofName kind.name = some kind := by cases kind <;> rfl
  exact Option.some.inj ((hread a).symm.trans ((congrArg AccessKind.ofName h).trans (hread b)))

theorem routeKindName_injective : Function.Injective routeKindName := by
  intro a b h
  cases a <;> cases b <;> first | rfl | exact absurd h (by decide)

theorem toUTF8_inj {s t : String} : s.toUTF8 = t.toUTF8 ↔ s = t := String.toByteArray_inj

theorem toList_joined (start first second third : String) :
    (start ++ String.singleton nul ++ first ++ String.singleton nul ++ second ++
      String.singleton nul ++ third).toList = start.toList ++ nul :: (first.toList ++ nul ::
        (second.toList ++ nul :: third.toList)) := by
  simp only [String.toList_append, String.toList_singleton, List.append_assoc, List.cons_append,
    List.nil_append]

theorem toList_entitlementKey (key : EntitlementKey) : key.text.toList =
    "n0te-entitlement-key/v1".toList ++ nul :: (key.routeId.val.toList ++ nul ::
      key.capability.val.toList ++ nul :: key.accessKind.name.toList) := by
  rw [List.append_assoc, List.cons_append]
  exact toList_joined _ _ _ _

theorem toList_candidateKey (key : CandidateKey) : key.text.toList =
    "n0te-capability-route/v1".toList ++ nul :: ((routeKindName key.routeKind).toList ++ nul ::
      (key.routeId.val.val.toList ++ nul :: key.capability.val.val.toList)) :=
  toList_joined _ _ _ _

theorem toList_environmentKey (key : EnvironmentKey) : key.text.toList =
    "n0te-capability-environment/v1".toList ++ nul :: (key.workspaceId.toList ++ nul ::
      (key.workspaceObservationId.toList ++ nul :: key.hostRuntimeFingerprint.toList)) :=
  toList_joined _ _ _ _

/-- Two entitlement keys share their text if their kinds agree and their routes and capabilities are
joined to one text. -/
theorem entitlementKey_text_eq {p q : EntitlementKey} : q.text = p.text ↔
    q.routeId.val.toList ++ nul :: q.capability.val.toList =
      p.routeId.val.toList ++ nul :: p.capability.val.toList ∧ q.accessKind = p.accessKind := by
  rw [← String.toList_inj, toList_entitlementKey, toList_entitlementKey, List.append_cancel_left_eq,
    List.cons.injEq, and_iff_right rfl]
  constructor
  · intro h
    obtain ⟨hjoined, hkind⟩ := append_separator_inj_right (nul_not_mem_accessKind _)
      (nul_not_mem_accessKind _) h
    exact ⟨hjoined, accessKindName_injective (String.toList_inj.mp hkind)⟩
  · rintro ⟨hjoined, hkind⟩
    rw [hjoined, hkind]

theorem candidateKey_text_eq {p q : CandidateKey} : q.text = p.text ↔
    q.routeKind = p.routeKind ∧ q.routeId.val.val.toList ++ nul :: q.capability.val.val.toList =
      p.routeId.val.val.toList ++ nul :: p.capability.val.val.toList := by
  rw [← String.toList_inj, toList_candidateKey, toList_candidateKey, List.append_cancel_left_eq,
    List.cons.injEq, and_iff_right rfl]
  constructor
  · intro h
    obtain ⟨hkind, hjoined⟩ := append_separator_inj (nul_not_mem_routeKind _)
      (nul_not_mem_routeKind _) h
    exact ⟨routeKindName_injective (String.toList_inj.mp hkind), hjoined⟩
  · rintro ⟨hkind, hjoined⟩
    rw [hjoined, hkind]

/-- What a store makes does not hold U+0000. -/
theorem Made.nul_not_mem {name id : String} (h : Made name id) (hname : nul ∉ name.toList) :
    nul ∉ id.toList := by
  obtain ⟨digits, hdigits, rfl⟩ := h
  rw [String.toList_append, String.toList_ofList, List.mem_append, not_or]
  refine ⟨hname, fun hmem ↦ ?_⟩
  exact absurd (hdigits nul hmem) (by decide)

/-- The condition for a pair of identifiers. -/
abbrev SplitsOnceAtNul (begins : Char → Prop) (routeId capability : String) : Prop :=
  SplitsOnce nul begins Visible routeId.toList capability.toList

/-- No other key has the bytes of an entitlement key, and none those of a candidate key, exactly if
its joined route and capability have no other U+0000 between a character that an identifier may end
with and one that it may begin with. Environments have different bytes. -/
theorem composite_keys (entitlement : EntitlementKey) (candidate : CandidateKey)
    (environment : EnvironmentKey) :
    ((∀ q : EntitlementKey, q.text.toUTF8 = entitlement.text.toUTF8 → q = entitlement) ↔
      SplitsOnceAtNul Visible entitlement.routeId.val entitlement.capability.val) ∧
    ((∀ q : CandidateKey, q.text.toUTF8 = candidate.text.toUTF8 → q = candidate) ↔
      SplitsOnceAtNul Leading candidate.routeId.val.val candidate.capability.val.val) ∧
    ∀ q : EnvironmentKey, q.text.toUTF8 = environment.text.toUTF8 →
      q.workspaceId = environment.workspaceId ∧
        q.workspaceObservationId = environment.workspaceObservationId ∧
        q.hostRuntimeFingerprint = environment.hostRuntimeFingerprint := by
  refine ⟨?_, ?_, fun q h ↦ ?_⟩
  · generalize entitlement = p
    refine Iff.trans ?_ (unique_iff_splitsOnce (bounded_text p.routeId) (bounded_text p.capability))
    constructor
    · intro hunique x y hx hy heq
      obtain ⟨route, rfl⟩ := exists_text hx
      obtain ⟨capability, rfl⟩ := exists_text hy
      have hsame := hunique ⟨route, capability, p.accessKind⟩
        (toUTF8_inj.mpr (entitlementKey_text_eq.mpr ⟨heq, rfl⟩))
      rw [← hsame]
      exact ⟨rfl, rfl⟩
    · intro hunique q hq
      obtain ⟨hjoined, hkind⟩ := entitlementKey_text_eq.mp (toUTF8_inj.mp hq)
      obtain ⟨hroute, hcapability⟩ := hunique _ _ (bounded_text _) (bounded_text _) hjoined
      obtain ⟨route, capability, kind⟩ := q
      obtain rfl : route = p.routeId := Text.ext (String.toList_inj.mp hroute)
      obtain rfl : capability = p.capability := Text.ext (String.toList_inj.mp hcapability)
      obtain rfl : kind = p.accessKind := hkind
      rfl
  · generalize candidate = p
    refine Iff.trans ?_
      (unique_iff_splitsOnce (bounded_recordedId p.routeId) (bounded_recordedId p.capability))
    constructor
    · intro hunique x y hx hy heq
      obtain ⟨route, rfl⟩ := exists_recordedId hx
      obtain ⟨capability, rfl⟩ := exists_recordedId hy
      have hsame := hunique ⟨p.routeKind, route, capability⟩
        (toUTF8_inj.mpr (candidateKey_text_eq.mpr ⟨rfl, heq⟩))
      rw [← hsame]
      exact ⟨rfl, rfl⟩
    · intro hunique q hq
      obtain ⟨hkind, hjoined⟩ := candidateKey_text_eq.mp (toUTF8_inj.mp hq)
      obtain ⟨hroute, hcapability⟩ :=
        hunique _ _ (bounded_recordedId _) (bounded_recordedId _) hjoined
      obtain ⟨kind, route, capability⟩ := q
      obtain rfl : route = p.routeId := Subtype.ext (Text.ext (String.toList_inj.mp hroute))
      obtain rfl : capability = p.capability :=
        Subtype.ext (Text.ext (String.toList_inj.mp hcapability))
      obtain rfl : kind = p.routeKind := hkind
      rfl
  · have hlists := String.toList_inj.mpr (toUTF8_inj.mp h)
    rw [toList_environmentKey, toList_environmentKey, List.append_cancel_left_eq,
      List.cons.injEq] at hlists
    obtain ⟨hworkspace, hrest⟩ := append_separator_inj (q.workspace.nul_not_mem (by decide))
      (environment.workspace.nul_not_mem (by decide)) hlists.2
    obtain ⟨hobservation, hfingerprint⟩ := append_separator_inj
      (q.observation.nul_not_mem (by decide)) (environment.observation.nul_not_mem (by decide)) hrest
    exact ⟨String.toList_inj.mp hworkspace, String.toList_inj.mp hobservation,
      String.toList_inj.mp hfingerprint⟩

/-- A route with U+0000 in it, and a route before that with a capability after it. -/
def joinedKeys : EntitlementKey × EntitlementKey :=
  (⟨⟨String.ofList ['a', nul, 'b'], by decide, by decide⟩, ⟨"c", by decide, by decide⟩, .plugin⟩,
    ⟨⟨"a", Text.letterA.stripped, Text.letterA.nonempty⟩, ⟨String.ofList ['b', nul, 'c'], by decide, by decide⟩, .plugin⟩)

/-- Two different entitlement keys have the same bytes. -/
theorem joinedKeys_share_bytes :
    joinedKeys.1.text.toUTF8 = joinedKeys.2.text.toUTF8 ∧ joinedKeys.1 ≠ joinedKeys.2 := by
  refine ⟨toUTF8_inj.mpr (entitlementKey_text_eq.mpr ⟨rfl, rfl⟩), ?_⟩
  decide

end N0te.Capabilities
