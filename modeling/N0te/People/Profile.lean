import Mathlib.Data.List.Nodup
import N0te.Library.Words
import N0te.Lineage.LineageStore

/-!
# The profile that the memories of a store share

People, songs, versions and their artist are created before the memories that bind to them, and what
those read of them never changes. A `Profile` carries that every row was created for the artist of the
profile, with an id of the form that the store makes.

`strictText` and the two translations of exceptions are shared by the memories as well.
-/

set_option autoImplicit false
set_option relaxedAutoImplicit false

namespace N0te.People

open Library Lineage

/-! ### Exceptions -/

/-- A `ValidationError`. -/
def validation (message : String) : Raised LineageErrorClass := ⟨.validationError, message⟩

/-- A `NotFoundError`. -/
def notFound (message : String) : Raised LineageErrorClass := ⟨.notFoundError, message⟩

/-- `except sqlite3.IntegrityError as exc: raise ValidationError(message(exc)) from exc`. -/
def integrityAs {α : Type} (message : String → String) : Checked α → Checked α
  | .error ⟨.integrityError, text⟩ => .error (validation (message text))
  | result => result

@[simp] theorem integrityAs_eq_ok {α : Type} {message : String → String} {result : Checked α} {a : α} :
    integrityAs message result = .ok a ↔ result = .ok a := by
  unfold integrityAs
  split <;> simp

/-- `except (ValidationError, …) as exc: raise LineageCorruptionError(message) from exc`. -/
def asCorruption {α : Type} (message : String) : Checked α → Checked α
  | .error ⟨.lineageCorruptionError, text⟩ => .error (corruption text)
  | .error _ => .error (corruption message)
  | .ok a => .ok a

@[simp] theorem asCorruption_eq_ok {α : Type} {message : String} {result : Checked α} {a : α} :
    asCorruption message result = .ok a ↔ result = .ok a := by
  unfold asCorruption
  split <;> simp

/-! ### Texts -/

/-- `_strict_text`. -/
def strictText (value field : String) (maximum : ℕ) : Checked String := do
  require (collapse value ≠ "") (validation s!"{field} must not be empty")
  require ((collapse value).toList.length ≤ maximum) (validation s!"{field} is too long")
  .ok (collapse value)

/-- `_optional_text`. -/
def optionalStrictText (value : Option String) (field : String) (maximum : ℕ) :
    Checked (Option String) :=
  match value with
  | none => .ok none
  | some value => some <$> strictText value field maximum

@[simp] theorem strictText_eq_ok {value field result : String} {maximum : ℕ} :
    strictText value field maximum = .ok result ↔
      collapse value ≠ "" ∧ (collapse value).toList.length ≤ maximum ∧ collapse value = result := by
  simp [strictText]

/-! ### Ids -/

/-- An id that the store made. -/
def Created (kind id : String) : Prop := ∃ uuid, id = newId kind uuid

/-- A kind of ids: a short word. -/
def IsKind (kind : String) : Prop :=
  (∀ c ∈ kind.toList, isSpace c = false) ∧ kind.toList.length ≤ 20

-- Characters are a finite type, so another instance could run over all of them.
instance (kind : String) : Decidable (IsKind kind) :=
  @instDecidableAnd _ _ (List.decidableBAll _ _) (Nat.decLe _ _)

theorem not_space_of_isHexDigit {c : Char} (h : isHexDigit c = true) : isSpace c = false := by
  have hrange : 48 ≤ c.toNat ∧ c.toNat ≤ 102 := by
    simp only [isHexDigit, Char.isDigit, Bool.or_eq_true, Bool.and_eq_true, decide_eq_true_eq] at h
    rcases h with ⟨hlow, hhigh⟩ | ⟨hlow, hhigh⟩
    · exact ⟨hlow, (UInt32.le_iff_toNat_le.mp hhigh).trans (by decide)⟩
    · exact ⟨le_trans (by decide) (UInt32.le_iff_toNat_le.mp hlow), hhigh⟩
  simp only [isSpace, Bool.or_eq_false_iff, Bool.and_eq_false_iff, decide_eq_false_iff_not,
    beq_eq_false_iff_ne]
  omega

/-- An id has no whitespace. -/
theorem Created.no_space {kind id : String} (h : Created kind id) (hkind : IsKind kind) :
    ∀ c ∈ id.toList, isSpace c = false := by
  obtain ⟨uuid, rfl⟩ := h
  intro c hc
  rw [newId, String.toList_ofList] at hc
  rcases List.mem_append.mp hc with hword | hrest
  · exact hkind.1 c hword
  · rcases List.mem_cons.mp hrest with rfl | hdigit
    · decide
    · exact not_space_of_isHexDigit (List.all_eq_true.mp uuid.digits c hdigit)

/-- An id is read back as it is. -/
theorem Created.strip_eq {kind id : String} (h : Created kind id) (hkind : IsKind kind) :
    strip id = id := by
  refine strip_eq_self ?_
  rw [List.all_eq_true]
  intro c hc
  rw [h.no_space hkind c hc]
  rfl

/-- An id is a text of at most 100 characters. -/
theorem Created.strictText_eq {kind id : String} (h : Created kind id) (hkind : IsKind kind)
    (field : String) : strictText id field 100 = .ok id := by
  have hcollapse : collapse id = id := collapse_of_no_space (h.no_space hkind)
  rw [strictText_eq_ok, hcollapse]
  obtain ⟨uuid, rfl⟩ := h
  refine ⟨?_, ?_, rfl⟩
  · intro hempty
    have hlength := congrArg (fun s ↦ s.toList.length) hempty
    simp [newId] at hlength
  · have hword := hkind.2
    rw [newId, String.toList_ofList, List.length_append, List.length_cons, uuid.length]
    omega

/-! ### Profiles -/

/-- A row of `people_people`. -/
structure Person where
  id : String
  artistId : String
  deriving DecidableEq

/-- A profile with its songs and its people. -/
structure Profile where
  profileId : String
  primaryArtistId : String
  /-- `songs`. -/
  songs : List Song
  /-- `people_people`. -/
  people : List Person
  /-- `versions`. -/
  versions : List Version
  songs_created : ∀ song ∈ songs, Created "song" song.id ∧ song.artistId = primaryArtistId
  /-- So were the people. -/
  people_created : ∀ person ∈ people, Created "person" person.id ∧ person.artistId = primaryArtistId
  /-- The versions were created for the songs. -/
  versions_created : ∀ version ∈ versions, Created "ver" version.id ∧
    ∃ song ∈ songs, song.id = version.songId
  /-- An id names one version. -/
  version_ids : (versions.map Version.id).Nodup

namespace Profile

/-- A profile without songs and people. -/
def blank : Profile where
  profileId := newId "prf" (uuidEnding 0)
  primaryArtistId := newId "art" (uuidEnding 1)
  songs := []
  people := []
  versions := []
  songs_created := List.forall_mem_nil _
  people_created := List.forall_mem_nil _
  versions_created := List.forall_mem_nil _
  version_ids := List.nodup_nil

def ofSong : Profile where
  profileId := newId "prf" (uuidEnding 0)
  primaryArtistId := newId "art" (uuidEnding 1)
  songs := [⟨newId "song" (uuidEnding 2), newId "art" (uuidEnding 1), "song", none, none⟩]
  people := []
  versions := []
  songs_created := List.forall_mem_singleton.mpr ⟨⟨_, rfl⟩, rfl⟩
  people_created := blank.people_created
  versions_created := List.forall_mem_nil _
  version_ids := List.nodup_nil

def ofPerson : Profile where
  profileId := newId "prf" (uuidEnding 0)
  primaryArtistId := newId "art" (uuidEnding 1)
  songs := []
  people := [⟨newId "person" (uuidEnding 2), newId "art" (uuidEnding 1)⟩]
  versions := []
  songs_created := blank.songs_created
  people_created := List.forall_mem_singleton.mpr ⟨⟨_, rfl⟩, rfl⟩
  versions_created := blank.versions_created
  version_ids := List.nodup_nil

variable (profile : Profile)

/-- `get_song`. -/
def getSong (songId : String) : Option Song := profile.songs.find? fun song ↦ song.id = songId

/-- `get_person`. -/
def getPerson (personId : String) : Option Person :=
  profile.people.find? fun person ↦ person.id = strip personId

/-- `get_version`. -/
def getVersion (versionId : String) : Option Version :=
  profile.versions.find? fun version ↦ version.id = versionId

variable {profile}

/-- A song is found under the own id, and belongs to the artist. -/
theorem exists_getSong {songId : String} (h : ∃ song ∈ profile.songs, song.id = songId) :
    ∃ song, profile.getSong songId = some song ∧ song.id = songId ∧
      song.artistId = profile.primaryArtistId := by
  obtain ⟨song, hsong, rfl⟩ := h
  have hfound : (profile.getSong song.id).isSome = true := by
    rw [getSong, List.find?_isSome]
    exact ⟨song, hsong, by simp⟩
  obtain ⟨found, hfound⟩ := Option.isSome_iff_exists.mp hfound
  refine ⟨found, hfound, by simpa using List.find?_some hfound, ?_⟩
  exact (profile.songs_created found (List.mem_of_find?_eq_some hfound)).2

/-- A version is found under the own id. -/
theorem getVersion_eq {version : Version} (h : version ∈ profile.versions) :
    profile.getVersion version.id = some version := by
  have hfound : (profile.getVersion version.id).isSome = true := by
    rw [getVersion, List.find?_isSome]
    exact ⟨version, h, by simp⟩
  obtain ⟨found, hfound⟩ := Option.isSome_iff_exists.mp hfound
  have hid : found.id = version.id := by simpa using List.find?_some hfound
  rw [hfound, List.inj_on_of_nodup_map profile.version_ids (List.mem_of_find?_eq_some hfound) h hid]

/-- A person is found under the own id, and belongs to the artist. -/
theorem exists_getPerson {personId : String} (h : ∃ person ∈ profile.people, person.id = personId) :
    ∃ person, profile.getPerson personId = some person ∧ person.id = personId ∧
      person.artistId = profile.primaryArtistId := by
  obtain ⟨person, hperson, rfl⟩ := h
  have hstrip := (profile.people_created person hperson).1.strip_eq (by decide)
  have hfound : (profile.getPerson person.id).isSome = true := by
    rw [getPerson, List.find?_isSome]
    exact ⟨person, hperson, by simp [hstrip]⟩
  obtain ⟨found, hfound⟩ := Option.isSome_iff_exists.mp hfound
  have hid := List.find?_some hfound
  refine ⟨found, hfound, ?_, (profile.people_created found (List.mem_of_find?_eq_some hfound)).2⟩
  rwa [decide_eq_true_eq, hstrip] at hid

end Profile

end N0te.People
