import Mathlib.Algebra.Order.Field.Rat
import Mathlib.Tactic.NormNum
import N0te.Artist.BoundAppends

/-!
# Runs of bound appends

The transaction of a bound append commits exactly if the entry that the artist was shown is still
the latest one and what is inserted can be inserted, and then appends one entry
(`skillChange_eq_ok`, `stateChange_eq_ok`). After its commit the call reads the latest entry outside
of the transaction, and raises if another connection has appended by then. A run in which that never
happens reports the truth, and leaves no entry behind twice (`appends_reported`).
-/

set_option autoImplicit false
set_option relaxedAutoImplicit false

namespace N0te.Artist

open Library Lineage

/-! ### Arguments -/

section

theorem skillName_spec {value name : String} (h : skillName value = .ok name) :
    name = collapse value ∧ name ≠ "" := by
  simp only [skillName, bind_eq_ok, require_eq_ok, exists_const, pure_eq_ok] at h
  obtain ⟨hne, -, rfl⟩ := h
  exact ⟨rfl, hne⟩

theorem mem_of_lookup {l : List (String × ℚ)} {key : String} {amount : ℚ}
    (h : l.lookup key = some amount) : ∃ known, (known, amount) ∈ l := by
  induction l with
  | nil => cases h
  | cons first rest ih =>
    rcases first with ⟨known, value⟩
    rw [List.lookup_cons] at h
    split at h
    · rw [← Option.some.inj h]
      exact ⟨known, List.mem_cons_self⟩
    · obtain ⟨other, hother⟩ := ih h
      exact ⟨other, List.mem_cons_of_mem _ hother⟩

theorem assistanceLevels_share : ∀ pair ∈ assistanceLevels, 0 ≤ pair.2 ∧ pair.2 ≤ 1 := by
  simp only [assistanceLevels, List.forall_mem_cons, List.not_mem_nil, false_implies, implies_true]
  norm_num

theorem confidenceLevels_share : ∀ pair ∈ confidenceLevels, 0 ≤ pair.2 ∧ pair.2 ≤ 1 := by
  simp only [confidenceLevels, List.forall_mem_cons, List.not_mem_nil, false_implies, implies_true]
  norm_num

theorem assistanceOf_spec {value : String} {level : SkillLevel} {assistance : ℚ}
    (h : assistanceOf value level = .ok assistance) :
    (0 ≤ assistance ∧ assistance ≤ 1) ∧ (level = .independent → assistance = 0) := by
  unfold assistanceOf at h
  split_ifs at h with hunknown
  · rw [← Except.ok.inj h, hunknown]
    exact ⟨by decide, fun hlevel ↦ by cases hlevel⟩
  · simp only [bind_eq_ok, orRaise_eq_ok, require_eq_ok, exists_const, pure_eq_ok] at h
    obtain ⟨amount, hlookup, hindependent, rfl⟩ := h
    obtain ⟨known, hmem⟩ := mem_of_lookup hlookup
    exact ⟨assistanceLevels_share _ hmem, hindependent⟩

theorem confidenceOf_spec {value : String} {confidence : ℚ}
    (h : confidenceOf value = .ok confidence) : 0 ≤ confidence ∧ confidence ≤ 1 := by
  rw [confidenceOf, orRaise_eq_ok] at h
  obtain ⟨known, hmem⟩ := mem_of_lookup h
  exact confidenceLevels_share _ hmem

theorem levelOf_declared {value : String} {level : SkillLevel} (h : levelOf value false = .ok level) :
    level ≠ .unknown := by
  rw [levelOf, orRaise_eq_ok] at h
  have hmem := List.mem_of_find?_eq_some h
  rintro rfl
  revert hmem
  decide

theorem sqlNonblank_cons {c : Char} {l : List Char} (hspace : c ≠ ' ') (hnul : c ≠ Char.ofNat 0) :
    sqlNonblank (String.ofList (c :: l)) = true := by
  rw [sqlNonblank, String.toList_ofList, List.dropWhile_cons_of_neg (by simpa using hspace)]
  simpa using hnul

theorem sqlNonblank_sourceRef {kind : String} {l : List Char} (h : kind.toList = 'c' :: l)
    (uuid : Uuid) : sqlNonblank (sourceRef kind uuid) = true := by
  rw [sourceRef, h]
  exact sqlNonblank_cons (by decide) (by decide)

end

/-! ### Skills -/

/-- What the checks of the arguments establish of a row. -/
structure SkillColumns.Sound (columns : SkillColumns) : Prop where
  independent : columns.level = .independent → columns.assistanceLevel = 0
  unknown : columns.level = .unknown → columns.sourceKind = .artistCorrection
  reason : columns.note.isSome = true ↔ columns.sourceKind = .artistCorrection
  sourceRef : sqlNonblank columns.sourceRef = true
  confidence : 0 ≤ columns.confidence ∧ columns.confidence ≤ 1
  assistance : 0 ≤ columns.assistanceLevel ∧ columns.assistanceLevel ≤ 1
  named : columns.skillId ≠ ""
  stripped : strip columns.skillId = columns.skillId

/-- The skill of a request, and the id of the assessment that must be its latest one. -/
def SkillRequest.bound : SkillRequest → String × Option String
  | .declare _ _ skillId _ _ _ => (collapse skillId, none)
  | .correct _ _ binding _ _ _ _ =>
    (collapse binding.skillId, some binding.expectedLatestAssessmentId)

theorem append_spec {request : SkillRequest} {append : SkillAppend}
    (h : request.append = .ok append) : append.columns.Sound ∧
      (append.columns.skillId, append.expected) = request.bound := by
  cases request with
  | declare assessment source skillId level assistance confidence =>
    simp only [SkillRequest.append, declaration, bind_eq_ok, pure_eq_ok] at h
    obtain ⟨name, hname, level, hlevel, assistance, hassistance, confidence, hconfidence, rfl⟩ := h
    obtain ⟨rfl, hne⟩ := skillName_spec hname
    obtain ⟨hshare, hindependent⟩ := assistanceOf_spec hassistance
    refine ⟨⟨hindependent, fun hunknown ↦ absurd hunknown (levelOf_declared hlevel),
      iff_of_false Bool.false_ne_true (by rintro ⟨⟩), ?_, confidenceOf_spec hconfidence, hshare,
      hne, strip_collapse skillId⟩, rfl⟩
    exact sqlNonblank_sourceRef rfl source
  | correct assessment source binding level assistance reason confidence =>
    simp only [SkillRequest.append, correction, bind_eq_ok, pure_eq_ok] at h
    obtain ⟨name, hname, level, -, assistance, hassistance, confidence, hconfidence, reason, -, rfl⟩ :=
      h
    obtain ⟨rfl, hne⟩ := skillName_spec hname
    obtain ⟨hshare, hindependent⟩ := assistanceOf_spec hassistance
    refine ⟨⟨hindependent, fun _ ↦ rfl, iff_of_true rfl rfl, ?_,
      confidenceOf_spec hconfidence, hshare, hne, strip_collapse binding.skillId⟩, rfl⟩
    exact sqlNonblank_sourceRef rfl source

/-- The store after the insert of an assessment. -/
def ArtistDb.withAssessment (db : ArtistDb) (columns : SkillColumns) : ArtistDb :=
  { db with
    skills := db.skills ++ [⟨columns, (db.skills.getLast?.elim 0 SkillRow.sequence) + 1⟩] }

/-- What can be inserted: an id that is new, and texts that SQLite does not take for blank. -/
structure SkillColumns.Insertable (columns : SkillColumns) (db : ArtistDb) : Prop where
  fresh : columns.id ∉ db.skills.map fun row ↦ row.id
  named : sqlNonblank columns.skillId = true
  reason : ∀ note ∈ columns.note, sqlNonblank note = true

/-- The transaction of an append to the assessments. -/
theorem skillChange_eq_ok {append : SkillAppend} (hsound : append.columns.Sound)
    {db after : ArtistDb} : append.change db = .ok after ↔
      (db.latestRow append.columns.skillId).map (fun row ↦ row.id) = append.expected ∧
        append.columns.Insertable db ∧ after = db.withAssessment append.columns := by
  simp only [SkillAppend.change, ArtistDb.insertAssessment, bind_eq_ok, require_eq_ok, exists_const,
    pure_eq_ok]
  constructor
  · rintro ⟨hlatest, -, -, hreason, ⟨hnamed, -⟩, hfresh, rfl⟩
    refine ⟨hlatest, ⟨hfresh, hnamed, fun note hnote ↦ ?_⟩, rfl⟩
    have hany := hreason (hsound.reason.mp (by rw [hnote, Option.isSome_some]))
    rwa [hnote] at hany
  · rintro ⟨hlatest, hinsertable, rfl⟩
    refine ⟨hlatest, hsound.independent, hsound.unknown, fun hkind ↦ ?_,
      ⟨hinsertable.named, hsound.sourceRef, hsound.confidence, hsound.assistance⟩,
      hinsertable.fresh, rfl⟩
    obtain ⟨note, hnote⟩ := Option.isSome_iff_exists.mp (hsound.reason.mpr hkind)
    rw [hnote]
    exact hinsertable.reason note hnote

/-! ### The career state -/

/-- The store after the insert of a career state. -/
def ArtistDb.withState (db : ArtistDb) (append : StateAppend) : ArtistDb :=
  { db with
    careerStates := db.careerStates ++ [⟨(db.careerStates.getLast?.elim 0
      CareerStateEntry.sequence) + 1, append.id, db.primaryArtistId, append.state, append.rationale,
      careerStateTruthType⟩] }

/-- What can be inserted: an id that is new, and a context that SQLite does not take for blank. -/
structure StateAppend.Insertable (append : StateAppend) (db : ArtistDb) : Prop where
  fresh : append.id ∉ db.careerStates.map CareerStateEntry.id
  nonblank : ∀ rationale ∈ append.rationale, sqlNonblank rationale = true

/-- The invariant of the tables: their ids are distinct, and the artist exists. -/
structure ArtistInvariant (db : ArtistDb) : Prop where
  skillIds : (db.skills.map fun row ↦ row.id).Nodup
  stateIds : (db.careerStates.map CareerStateEntry.id).Nodup
  artist : db.primaryArtistId ∈ db.artists

/-- The transaction of `record_state`. -/
theorem stateChange_eq_ok {append : StateAppend} {db after : ArtistDb} (hdb : ArtistInvariant db) :
    append.change db = .ok after ↔
      db.currentState.map CareerStateEntry.id = append.expected ∧
        append.Insertable db ∧ after = db.withState append := by
  simp only [StateAppend.change, ArtistDb.insertCareerState, bind_eq_ok, require_eq_ok, exists_const,
    pure_eq_ok]
  constructor
  · rintro ⟨hcurrent, hnonblank, hfresh, -, rfl⟩
    exact ⟨hcurrent, ⟨hfresh, hnonblank⟩, rfl⟩
  · rintro ⟨hcurrent, hinsertable, rfl⟩
    exact ⟨hcurrent, hinsertable.nonblank, hinsertable.fresh, hdb.artist, rfl⟩

/-! ### What is claimed -/

/-- A call and whether it has committed. -/
abbrev ArtistSession := Session ArtistDb (Raised ArtistErrorClass) ArtistAnswer

/-- A log with a key. -/
inductive BoundKey where
  | skill (skillId : String)
  | career

/-- The log of an operation, and the id of the entry that it is bound to. -/
def ArtistOperation.bound : ArtistOperation → BoundKey × Option String
  | .skill request => (.skill request.bound.1, request.bound.2)
  | .career _ _ _ expectedCurrentId => (.career, expectedCurrentId)

/-- The log has gone on since the entry that an operation is bound to. -/
def LeftBehind : BoundKey × Option String → ArtistDb → Prop
  | (.skill skillId, expected), db =>
    Superseded (fun row : SkillRow ↦ row.skillId) (fun row ↦ row.id) db.skills skillId expected
  | (.career, expected), db =>
    Superseded CareerStateEntry.artistId CareerStateEntry.id db.careerStates db.primaryArtistId expected

/-- The condition of an operation: the skill has no assessment, the latest assessment is the one of
the binding, and the current career state is the expected one and another than what is recorded. -/
def Applies : ArtistOperation → ArtistDb → Prop
  | .skill (.declare _ _ skillId _ _ _), db => ∀ row ∈ db.skills, row.skillId ≠ collapse skillId
  | .skill (.correct _ _ binding _ _ _ _), db =>
    (db.latestRow (collapse binding.skillId)).map (fun row ↦ row.id) =
      some binding.expectedLatestAssessmentId
  | .career uuid state rationale expectedCurrentId, db =>
    db.currentState.map CareerStateEntry.id = expectedCurrentId ∧
      ∀ append, stateAppend uuid state rationale expectedCurrentId = .ok append →
        ∀ current ∈ db.currentState, append.fits current = false

/-- What the commit of an operation changes: it appends one entry to the log of the operation. -/
def Entered : ArtistOperation → ArtistDb → ArtistDb → Prop
  | .skill request, db, after => ∃ append, request.append = .ok append ∧
    append.columns.skillId = request.bound.1 ∧ after = db.withAssessment append.columns
  | .career uuid state rationale expectedCurrentId, db, after => ∃ append,
    stateAppend uuid state rationale expectedCurrentId = .ok append ∧ after = db.withState append

/-- What an operation returns: the entry that it committed, or the current career state if nothing
is to be changed. -/
def Answers : ArtistOperation → Bool → ArtistDb → ArtistAnswer → Prop
  | .skill request, committed, db, answer => committed = true ∧ ∃ append row,
    request.append = .ok append ∧ row ∈ db.skills ∧ row.toSkillColumns = append.columns ∧
      answer = .assessed ⟨row, db.evidenceIds row.id⟩
  | .career uuid state rationale expectedCurrentId, committed, db, answer => ∃ append entry,
    stateAppend uuid state rationale expectedCurrentId = .ok append ∧
      answer = .recorded entry ∧ db.currentState = some entry ∧ append.fits entry = true ∧
        (committed = true → entry.id = append.id)

/-- A call that raised has committed nothing. -/
def Honest (session : ArtistSession) : Prop :=
  ∀ e, session.call = .ended (.error e) → session.committed = false

/-- What is claimed of a statement of a call. -/
structure Told (operation : ArtistOperation) (session next : ArtistSession) (db after : ArtistDb) :
    Prop where
  /-- The transaction commits exactly under the condition of the operation. -/
  transaction : session.atTransaction = true → (next.committed = true ↔ Applies operation db)
  /-- The read before it goes on to it exactly under the same condition. -/
  review : session.committed = false → session.atTransaction = false →
    (next.atTransaction = true ↔ Applies operation db)
  /-- A commit appends one entry. -/
  entered : session.committed = false → next.committed = true → Entered operation db after
  /-- Nothing else changes the store. -/
  frame : session.committed = next.committed → after = db
  /-- A call that returns normally returns the truth. -/
  answers : ∀ answer, next.call = .ended (.ok answer) → Answers operation next.committed db answer

/-! ### How far a call has come -/

/-- An append to the assessments from its transaction on. -/
def SkillAppend.pending (append : SkillAppend) : ArtistCall ArtistAnswer :=
  .transact append.change (.assessed <$> append.readBack) fun e ↦
    .ended (.error (rejected .skillModelError append.refused e))

/-- What an append does once the latest row is read. -/
def SkillAppend.settle (append : SkillAppend) (row : Option SkillRow) : ArtistCall ArtistAnswer :=
  .assessed <$> do
    let state ← stateOf append.columns.skillId row
    .fromExcept (append.settled state)

/-- `record_state` from its transaction on. -/
def StateAppend.pending (append : StateAppend) : ArtistCall ArtistAnswer :=
  .transact append.change (.recorded <$> append.readBack) fun e ↦
    .ended (.error (rejected (.lineage .validationError) "cannot record Career State: " e))

/-- How far an operation of the skill model has come. -/
inductive SkillStage (request : SkillRequest) (db : ArtistDb) : ArtistSession → Prop
  | waiting (append : SkillAppend) (happend : request.append = .ok append) :
    SkillStage request db ⟨append.pending, false⟩
  | committed (append : SkillAppend) (happend : request.append = .ok append) (row : SkillRow)
      (hrow : row ∈ db.skills) (hcolumns : row.toSkillColumns = append.columns) :
    SkillStage request db ⟨.read fun db ↦ append.settle (db.latestRow append.columns.skillId), true⟩
  | latest (append : SkillAppend) (happend : request.append = .ok append) (row : SkillRow)
      (hrow : row ∈ db.skills) (hcolumns : row.toSkillColumns = append.columns) :
    SkillStage request db ⟨append.settle (some row), true⟩
  | ended (result : Except (Raised ArtistErrorClass) ArtistAnswer) (committed : Bool)
      (hhonest : Honest ⟨.ended result, committed⟩) :
    SkillStage request db ⟨.ended result, committed⟩

/-- How far a call of `record_state` has come. -/
inductive CareerStage (uuid : Uuid) (state : String) (rationale expectedCurrentId : Option String)
    (db : ArtistDb) : ArtistSession → Prop
  | waiting (append : StateAppend)
      (happend : stateAppend uuid state rationale expectedCurrentId = .ok append) :
    CareerStage uuid state rationale expectedCurrentId db
      ⟨.read fun db ↦ .recorded <$> append.review db.currentState, false⟩
  | differing (append : StateAppend)
      (happend : stateAppend uuid state rationale expectedCurrentId = .ok append)
      (hdiffers : ∀ id, append.expected = some id →
        ∃ entry ∈ db.careerStates, entry.id = id ∧ append.fits entry = false) :
    CareerStage uuid state rationale expectedCurrentId db ⟨append.pending, false⟩
  | committed (append : StateAppend)
      (happend : stateAppend uuid state rationale expectedCurrentId = .ok append)
      (entry : CareerStateEntry) (hentry : entry ∈ db.careerStates) (hid : entry.id = append.id)
      (hequal : append.fits entry = true) :
    CareerStage uuid state rationale expectedCurrentId db ⟨.recorded <$> append.readBack, true⟩
  | ended (result : Except (Raised ArtistErrorClass) ArtistAnswer) (committed : Bool)
      (hhonest : Honest ⟨.ended result, committed⟩) :
    CareerStage uuid state rationale expectedCurrentId db ⟨.ended result, committed⟩

/-- How far a call has come. -/
def Stage : ArtistOperation → ArtistSession → ArtistDb → Prop
  | .skill request, session, db => SkillStage request db session
  | .career uuid state rationale expectedCurrentId, session, db =>
    CareerStage uuid state rationale expectedCurrentId db session

/-- What is known of a call. -/
structure Known (operation : ArtistOperation) (session : ArtistSession) (db : ArtistDb) : Prop where
  stage : Stage operation session db
  left : session.committed = true → LeftBehind operation.bound db

/-- What a statement needs: what an operation inserts can be inserted, and when it reads the latest
entry back, it is the one that it committed. -/
def Fine : ArtistOperation → ArtistSession → ArtistDb → Prop
  | .skill request, session, db => ∀ append, request.append = .ok append →
    (session.atTransaction = true → Applies (.skill request) db → append.columns.Insertable db) ∧
      (session = ⟨.assessed <$> append.readBack, true⟩ →
        (db.latestRow append.columns.skillId).map (fun row ↦ row.id) = some append.columns.id)
  | .career uuid state rationale expectedCurrentId, session, db => ∀ append,
    stateAppend uuid state rationale expectedCurrentId = .ok append →
      (session.atTransaction = true →
        Applies (.career uuid state rationale expectedCurrentId) db → append.Insertable db) ∧
      (session.committed = true → db.currentState.map CareerStateEntry.id = some append.id)

/-- What a commit does to the store. -/
def Stays (db after : ArtistDb) : Prop :=
  (∃ columns : SkillColumns, columns.id ∉ db.skills.map (fun row ↦ row.id) ∧
    after = db.withAssessment columns) ∨
  ∃ append : StateAppend, append.id ∉ db.careerStates.map CareerStateEntry.id ∧
    after = db.withState append

section

variable {db after : ArtistDb}

theorem readBack_eq {append : SkillAppend} (hsound : append.columns.Sound) :
    (.assessed <$> append.readBack : ArtistCall ArtistAnswer) =
      .read fun db ↦ append.settle (db.latestRow append.columns.skillId) := by
  have htext : text append.columns.skillId "skill_id" = .ok append.columns.skillId := by
    simp only [text, bind_eq_ok, require_eq_ok, exists_const, pure_eq_ok]
    rw [hsound.stripped]
    exact ⟨hsound.named, rfl⟩
  rw [SkillAppend.readBack, skillState, htext]
  rfl

theorem pending_eq (append : SkillAppend) :
    (.assessed <$> append.call : ArtistCall ArtistAnswer) = append.pending := by
  unfold SkillAppend.call SkillAppend.pending
  rfl

/-- A program of the skill model has ended, or waits for its transaction. -/
theorem skillStage_start (request : SkillRequest) :
    SkillStage request db ⟨artistProgram (.skill request), false⟩ := by
  have hprogram : artistProgram (.skill request) =
      (.assessed <$> (Call.fromExcept request.append >>= SkillAppend.call)) := by
    cases request with
    | declare assessment source skillId level assistance confidence => rfl
    | correct assessment source binding level assistance reason confidence => rfl
  rw [hprogram]
  cases happend : request.append with
  | error e => exact .ended _ _ fun _ _ ↦ rfl
  | ok append =>
    show SkillStage request db ⟨.assessed <$> append.call, false⟩
    rw [pending_eq]
    exact .waiting append happend

theorem careerStage_start (uuid : Uuid) (state : String) (rationale expectedCurrentId : Option String) :
    CareerStage uuid state rationale expectedCurrentId db
      ⟨artistProgram (.career uuid state rationale expectedCurrentId), false⟩ := by
  rw [artistProgram, recordState]
  cases happend : stateAppend uuid state rationale expectedCurrentId with
  | error e => exact .ended _ _ fun _ _ ↦ rfl
  | ok append => exact .waiting append happend

theorem known_start (operation : ArtistOperation) (db : ArtistDb) :
    Known operation ⟨artistProgram operation, false⟩ db := by
  refine ⟨?_, fun hcommitted ↦ by cases hcommitted⟩
  cases operation with
  | skill request => exact skillStage_start request
  | career uuid state rationale expectedCurrentId =>
    exact careerStage_start uuid state rationale expectedCurrentId

/-! ### Commits -/

theorem Stays.invariant (hdb : ArtistInvariant db) (h : Stays db after) : ArtistInvariant after := by
  rcases h with ⟨columns, hfresh, rfl⟩ | ⟨append, hfresh, rfl⟩
  · exact ⟨nodup_map_append hdb.skillIds hfresh, hdb.stateIds, hdb.artist⟩
  · exact ⟨hdb.skillIds, nodup_map_append hdb.stateIds hfresh, hdb.artist⟩

theorem Stays.skills (h : Stays db after) : db.skills ⊆ after.skills := by
  rcases h with ⟨columns, -, rfl⟩ | ⟨append, -, rfl⟩
  · exact List.subset_append_left _ _
  · exact List.Subset.refl _

theorem Stays.careerStates (h : Stays db after) : db.careerStates ⊆ after.careerStates := by
  rcases h with ⟨columns, -, rfl⟩ | ⟨append, -, rfl⟩
  · exact List.Subset.refl _
  · exact List.subset_append_left _ _

/-- An entry that the log has left behind stays behind. -/
theorem Stays.leftBehind (hstays : Stays db after) {target : BoundKey × Option String}
    (h : LeftBehind target db) : LeftBehind target after := by
  rcases target with ⟨key, expected⟩
  rcases hstays with ⟨columns, hfresh, rfl⟩ | ⟨append, hfresh, rfl⟩
  · cases key with
    | skill skillId =>
      have h : Superseded (fun row : SkillRow ↦ row.skillId) (fun row ↦ row.id) db.skills skillId
        expected := h
      exact h.append hfresh
    | career => exact h
  · cases key with
    | skill skillId => exact h
    | career =>
      have h : Superseded CareerStateEntry.artistId CareerStateEntry.id db.careerStates
        db.primaryArtistId expected := h
      exact h.append hfresh

/-- What is known of a call the commits of the others do not change. -/
theorem known_stable {operation : ArtistOperation} {session : ArtistSession} (hstays : Stays db after)
    (h : Known operation session db) : Known operation session after := by
  refine ⟨?_, fun hcommitted ↦ hstays.leftBehind (h.left hcommitted)⟩
  have hstage := h.stage
  cases operation with
  | skill request =>
    have hstage : SkillStage request db session := hstage
    cases hstage with
    | waiting append happend => exact SkillStage.waiting append happend
    | committed append happend row hrow hcolumns =>
      exact SkillStage.committed append happend row (hstays.skills hrow) hcolumns
    | latest append happend row hrow hcolumns =>
      exact SkillStage.latest append happend row (hstays.skills hrow) hcolumns
    | ended result committed hhonest => exact SkillStage.ended result committed hhonest
  | career uuid state rationale expectedCurrentId =>
    have hstage : CareerStage uuid state rationale expectedCurrentId db session := hstage
    cases hstage with
    | waiting append happend => exact CareerStage.waiting append happend
    | differing append happend hdiffers =>
      refine CareerStage.differing append happend fun id hid ↦ ?_
      obtain ⟨entry, hentry, hrest⟩ := hdiffers id hid
      exact ⟨entry, hstays.careerStates hentry, hrest⟩
    | committed append happend entry hentry hid hequal =>
      exact CareerStage.committed append happend entry (hstays.careerStates hentry) hid hequal
    | ended result committed hhonest => exact CareerStage.ended result committed hhonest

theorem known_locked {operation : ArtistOperation} {session ended : ArtistSession}
    {e : Raised ArtistErrorClass} (h : Known operation session db)
    (hlocked : session.locked e = some ended) : Known operation ended db := by
  have hstage := h.stage
  cases operation with
  | skill request =>
    have hstage : SkillStage request db session := hstage
    cases hstage with
    | waiting append happend =>
      cases hlocked
      exact ⟨SkillStage.ended _ _ fun _ _ ↦ rfl, fun hcommitted ↦ by cases hcommitted⟩
    | committed append happend row hrow hcolumns => cases hlocked
    | latest append happend row hrow hcolumns => cases hlocked
    | ended result committed hhonest => cases hlocked
  | career uuid state rationale expectedCurrentId =>
    have hstage : CareerStage uuid state rationale expectedCurrentId db session := hstage
    cases hstage with
    | waiting append happend => cases hlocked
    | differing append happend hdiffers =>
      cases hlocked
      exact ⟨CareerStage.ended _ _ fun _ _ ↦ rfl, fun hcommitted ↦ by cases hcommitted⟩
    | committed append happend entry hentry hid hequal => cases hlocked
    | ended result committed hhonest => cases hlocked

/-! ### One statement -/

/-- The commit of an append leaves the entry behind that it was bound to. -/
theorem leftBehind_skill {request : SkillRequest} {append : SkillAppend}
    (happend : request.append = .ok append)
    (hlatest : (db.latestRow append.columns.skillId).map (fun row ↦ row.id) = append.expected)
    (hfresh : append.columns.id ∉ db.skills.map fun row ↦ row.id) :
    LeftBehind (ArtistOperation.skill request).bound (db.withAssessment append.columns) := by
  have hbound := (append_spec happend).2
  show LeftBehind (.skill request.bound.1, request.bound.2) _
  rw [← hbound]
  exact superseded_append hlatest rfl hfresh

theorem expected_of_stateAppend {uuid : Uuid} {state : String}
    {rationale expectedCurrentId : Option String} {append : StateAppend}
    (h : stateAppend uuid state rationale expectedCurrentId = .ok append) :
    append.expected = expectedCurrentId := by
  simp only [stateAppend, bind_eq_ok, pure_eq_ok] at h
  obtain ⟨_, -, _, -, rfl⟩ := h
  rfl

theorem settle_latest {append : SkillAppend} {row : SkillRow}
    (hcolumns : row.toSkillColumns = append.columns) :
    append.settle (some row) = .read fun db ↦ .ended (.ok (.assessed ⟨row, db.evidenceIds row.id⟩)) := by
  have hid : row.id = append.columns.id := congrArg SkillColumns.id hcolumns
  have hsettled (evidenceIds : List String) :
      append.settled ⟨append.columns.skillId, row.level, some ⟨row, evidenceIds⟩⟩ =
        .ok ⟨row, evidenceIds⟩ := by
    simp only [SkillAppend.settled, bind_eq_ok, orRaise_eq_ok, require_eq_ok, exists_const, pure_eq_ok]
    exact ⟨_, rfl, hid, rfl⟩
  show (Call.read fun (db : ArtistDb) ↦ ArtistAnswer.assessed <$> Call.fromExcept (append.settled
    ⟨append.columns.skillId, row.level, some ⟨row, db.evidenceIds row.id⟩⟩)) = _
  simp only [hsettled]
  rfl

/-- The row that is read back is the one that was committed, if its id is. -/
theorem latestRow_of_id (hdb : ArtistInvariant db) {append : SkillAppend} {row : SkillRow}
    (hrow : row ∈ db.skills) (hcolumns : row.toSkillColumns = append.columns)
    (hid : (db.latestRow append.columns.skillId).map (fun row ↦ row.id) = some append.columns.id) :
    db.latestRow append.columns.skillId = some row :=
  latest_eq_of_id hdb.skillIds hrow (hid.trans (congrArg (fun columns ↦ some columns.id) hcolumns.symm))

/-- A statement of the skill model carries it on. -/
theorem skill_advance (hdb : ArtistInvariant db) {request : SkillRequest}
    {session next : ArtistSession} (h : Known (.skill request) session db)
    (hfine : Fine (.skill request) session db) (hadvance : session.advance db = some (next, after)) :
    Relation.ReflGen Stays db after ∧ Known (.skill request) next after := by
  have hstage : SkillStage request db session := h.stage
  cases hstage with
  | waiting append happend =>
    have hsound := (append_spec happend).1
    rcases advance_transact hadvance with ⟨changed, hchange, rfl, rfl⟩ | ⟨e, -, rfl, rfl⟩
    · obtain ⟨hlatest, hinsertable, rfl⟩ := (skillChange_eq_ok hsound).mp hchange
      refine ⟨.single (.inl ⟨_, hinsertable.fresh, rfl⟩), ?_, fun _ ↦
        leftBehind_skill happend hlatest hinsertable.fresh⟩
      rw [readBack_eq hsound]
      exact SkillStage.committed append happend _ (List.mem_append_right _ (List.mem_singleton_self _))
        rfl
    · exact ⟨.refl, SkillStage.ended _ _ fun _ _ ↦ rfl, fun hcommitted ↦ by cases hcommitted⟩
  | committed append happend row hrow hcolumns =>
    have hsound := (append_spec happend).1
    obtain ⟨rfl, rfl⟩ := advance_read hadvance
    have hid := (hfine append happend).2 (by rw [readBack_eq hsound])
    refine ⟨.refl, ?_, fun _ ↦ h.left rfl⟩
    show SkillStage request after ⟨append.settle (after.latestRow append.columns.skillId), true⟩
    rw [latestRow_of_id hdb hrow hcolumns hid]
    exact .latest append happend row hrow hcolumns
  | latest append happend row hrow hcolumns =>
    rw [settle_latest hcolumns] at hadvance
    obtain ⟨rfl, rfl⟩ := advance_read hadvance
    exact ⟨.refl, SkillStage.ended _ _ fun e he ↦ (by cases he), fun _ ↦ h.left rfl⟩
  | ended result committed hhonest => cases hadvance

/-- Another career state than the current one is recorded under the condition that was reviewed. -/
theorem applies_iff_of_differs (hdb : ArtistInvariant db) {uuid : Uuid} {state : String}
    {rationale expectedCurrentId : Option String} {append : StateAppend}
    (happend : stateAppend uuid state rationale expectedCurrentId = .ok append)
    (hdiffers : ∀ id, append.expected = some id →
      ∃ entry ∈ db.careerStates, entry.id = id ∧ append.fits entry = false) :
    Applies (.career uuid state rationale expectedCurrentId) db ↔
      db.currentState.map CareerStateEntry.id = append.expected := by
  rw [expected_of_stateAppend happend] at hdiffers ⊢
  refine ⟨And.left, fun hcurrent ↦ ⟨hcurrent, fun other hother current hmem ↦ ?_⟩⟩
  cases happend.symm.trans hother
  have hfound : db.currentState = some current := hmem
  rw [hfound, Option.map_some] at hcurrent
  obtain ⟨entry, hentry, hid, hequal⟩ := hdiffers current.id hcurrent.symm
  have hin : current ∈ db.careerStates := (latest_mem hfound).1
  rw [List.inj_on_of_nodup_map hdb.stateIds hin hentry hid.symm]
  exact hequal

theorem review_cases (append : StateAppend) (current : Option CareerStateEntry) :
    (current.map CareerStateEntry.id ≠ append.expected ∧
      ∃ e, (.recorded <$> append.review current : ArtistCall ArtistAnswer) = .ended (.error e)) ∨
    (∃ entry, current = some entry ∧ append.fits entry = true ∧ (some entry.id = append.expected) ∧
      (.recorded <$> append.review current : ArtistCall ArtistAnswer) =
        .ended (.ok (.recorded entry))) ∨
    (current.map CareerStateEntry.id = append.expected ∧
      (∀ entry ∈ current, append.fits entry = false) ∧
      (.recorded <$> append.review current : ArtistCall ArtistAnswer) = append.pending) := by
  by_cases hcurrent : current.map CareerStateEntry.id = append.expected
  · rw [StateAppend.review, if_pos hcurrent]
    cases current with
    | none => exact .inr (.inr ⟨hcurrent, by rintro entry ⟨⟩, rfl⟩)
    | some entry =>
      cases hequal : append.fits entry with
      | true =>
        rw [Option.filter_some, if_pos hequal]
        exact .inr (.inl ⟨entry, rfl, hequal, hcurrent, rfl⟩)
      | false =>
        rw [Option.filter_some, if_neg (by rw [hequal]; exact Bool.false_ne_true)]
        refine .inr (.inr ⟨hcurrent, fun other hother ↦ ?_, rfl⟩)
        rw [← Option.some.inj hother]
        exact hequal
  · rw [StateAppend.review, if_neg hcurrent]
    exact .inl ⟨hcurrent, _, rfl⟩

/-- The entry that is read back is the one that was committed, if its id is. -/
theorem currentState_of_id (hdb : ArtistInvariant db) {append : StateAppend} {entry : CareerStateEntry}
    (hentry : entry ∈ db.careerStates) (hid : entry.id = append.id)
    (hcurrent : db.currentState.map CareerStateEntry.id = some append.id) :
    db.currentState = some entry :=
  latest_eq_of_id hdb.stateIds hentry (hcurrent.trans (congrArg some hid.symm))

theorem readBack_current {append : StateAppend} {entry : CareerStateEntry}
    (hid : entry.id = append.id) : (do
      let result ← orRaise (some entry) (corrupt "new Career State did not become current")
      require (result.id = append.id) (corrupt "new Career State did not become current")
      return result) = Except.ok entry := by
  simp only [bind_eq_ok, orRaise_eq_ok, require_eq_ok, exists_const, pure_eq_ok]
  exact ⟨entry, rfl, hid, rfl⟩

/-- A statement of `record_state` carries it on. -/
theorem career_advance (hdb : ArtistInvariant db) {uuid : Uuid} {state : String}
    {rationale expectedCurrentId : Option String} {session next : ArtistSession}
    (h : Known (.career uuid state rationale expectedCurrentId) session db)
    (hfine : Fine (.career uuid state rationale expectedCurrentId) session db)
    (hadvance : session.advance db = some (next, after)) :
    Relation.ReflGen Stays db after ∧
      Known (.career uuid state rationale expectedCurrentId) next after := by
  have hstage : CareerStage uuid state rationale expectedCurrentId db session := h.stage
  cases hstage with
  | waiting append happend =>
    obtain ⟨rfl, rfl⟩ := advance_read hadvance
    refine ⟨.refl, ?_, fun hcommitted ↦ by cases hcommitted⟩
    show CareerStage uuid state rationale expectedCurrentId after
      ⟨.recorded <$> append.review after.currentState, false⟩
    rcases review_cases append after.currentState with ⟨-, e, heq⟩ | ⟨entry, -, -, -, heq⟩ |
      ⟨hcurrent, hdiffers, heq⟩
    · rw [heq]
      exact .ended _ _ fun _ _ ↦ rfl
    · rw [heq]
      exact .ended _ _ fun _ _ ↦ rfl
    · rw [heq]
      refine .differing append happend fun id hid ↦ ?_
      obtain ⟨entry, hentry, rfl⟩ := Option.map_eq_some_iff.mp (hcurrent.trans hid)
      exact ⟨entry, (latest_mem hentry).1, rfl, hdiffers entry hentry⟩
  | differing append happend hdiffers =>
    rcases advance_transact hadvance with ⟨changed, hchange, rfl, rfl⟩ | ⟨e, -, rfl, rfl⟩
    · obtain ⟨hcurrent, hinsertable, rfl⟩ := (stateChange_eq_ok hdb).mp hchange
      refine ⟨.single (.inr ⟨_, hinsertable.fresh, rfl⟩), ?_, fun _ ↦ ?_⟩
      · exact CareerStage.committed append happend _
          (List.mem_append_right _ (List.mem_singleton_self _)) rfl (decide_eq_true ⟨rfl, rfl⟩)
      · show LeftBehind (.career, expectedCurrentId) _
        rw [← expected_of_stateAppend happend]
        exact superseded_append hcurrent rfl hinsertable.fresh
    · exact ⟨.refl, CareerStage.ended _ _ fun _ _ ↦ rfl, fun hcommitted ↦ by cases hcommitted⟩
  | committed append happend entry hentry hid hequal =>
    obtain ⟨rfl, rfl⟩ := advance_read hadvance
    have hcurrent := currentState_of_id hdb hentry hid ((hfine append happend).2 rfl)
    refine ⟨.refl, ?_, fun _ ↦ h.left rfl⟩
    show CareerStage uuid state rationale expectedCurrentId after
      ⟨.recorded <$> Call.fromExcept (do
        let result ← orRaise after.currentState (corrupt "new Career State did not become current")
        require (result.id = append.id) (corrupt "new Career State did not become current")
        return result), true⟩
    rw [hcurrent, readBack_current hid]
    exact .ended (.ok (.recorded entry)) true fun e he ↦ by cases he
  | ended result committed hhonest => cases hadvance

theorem known_advance {operation : ArtistOperation} (hdb : ArtistInvariant db)
    {session next : ArtistSession} (h : Known operation session db) (hfine : Fine operation session db)
    (hadvance : session.advance db = some (next, after)) :
    Relation.ReflGen Stays db after ∧ ArtistInvariant after ∧ Known operation next after := by
  have hknown : Relation.ReflGen Stays db after ∧ Known operation next after := by
    cases operation with
    | skill request => exact skill_advance hdb h hfine hadvance
    | career uuid state rationale expectedCurrentId => exact career_advance hdb h hfine hadvance
  refine ⟨hknown.1, ?_, hknown.2⟩
  rcases (Relation.reflGen_iff _ _ _).mp hknown.1 with rfl | hstays
  · exact hdb
  · exact hstays.invariant hdb

/-! ### What a statement does -/

/-- The condition of an operation of the skill model is what its transaction checks. -/
theorem applies_skill_iff {request : SkillRequest} {append : SkillAppend}
    (happend : request.append = .ok append) : Applies (.skill request) db ↔
      (db.latestRow append.columns.skillId).map (fun row ↦ row.id) = append.expected := by
  have hbound := (append_spec happend).2
  obtain ⟨hskill, hexpected⟩ := Prod.ext_iff.mp hbound
  have hskill : append.columns.skillId = request.bound.1 := hskill
  have hexpected : append.expected = request.bound.2 := hexpected
  rw [hskill, hexpected]
  cases request with
  | declare assessment source skillId level assistance confidence =>
    show _ ↔ (db.latestRow (collapse skillId)).map (fun row ↦ row.id) = none
    rw [Option.map_eq_none_iff]
    exact latest_eq_none.symm
  | correct assessment source binding level assistance reason confidence => exact Iff.rfl

section

variable {operation : ArtistOperation} {next : ArtistCall ArtistAnswer}
  {change : ArtistDb → Bound ArtistDb} {following : ArtistCall ArtistAnswer}
  {raised : Raised ArtistErrorClass → ArtistCall ArtistAnswer} {read : ArtistDb → ArtistCall ArtistAnswer}

/-- A statement that reads before the transaction. -/
theorem told_review
    (hreview : (⟨next, false⟩ : ArtistSession).atTransaction = true ↔ Applies operation db)
    (hanswers : ∀ answer, next = .ended (.ok answer) → Answers operation false db answer) :
    Told operation ⟨.read read, false⟩ ⟨next, false⟩ db db where
  transaction hat := absurd hat Bool.false_ne_true
  review _ _ := hreview
  entered _ hcommitted := absurd hcommitted Bool.false_ne_true
  frame _ := rfl
  answers := hanswers

theorem told_commit (happlies : Applies operation db) (hentered : Entered operation db after)
    (hgoes : ∀ answer, next ≠ .ended (.ok answer)) :
    Told operation ⟨.transact change following raised, false⟩ ⟨next, true⟩ db after where
  transaction _ := iff_of_true rfl happlies
  review _ hnot := absurd hnot.symm Bool.false_ne_true
  entered _ _ := hentered
  frame hsame := absurd hsame Bool.false_ne_true
  answers answer hanswer := absurd hanswer (hgoes answer)

theorem told_raise {e : Raised ArtistErrorClass} (happlies : ¬ Applies operation db) :
    Told operation ⟨.transact change following raised, false⟩ ⟨.ended (.error e), false⟩ db db where
  transaction _ := iff_of_false Bool.false_ne_true happlies
  review _ hnot := absurd hnot.symm Bool.false_ne_true
  entered _ hcommitted := absurd hcommitted Bool.false_ne_true
  frame _ := rfl
  answers answer hanswer := by cases hanswer

/-- A statement that reads after the commit. -/
theorem told_readBack
    (hanswers : ∀ answer, next = .ended (.ok answer) → Answers operation true db answer) :
    Told operation ⟨.read read, true⟩ ⟨next, true⟩ db db where
  transaction hat := absurd hat Bool.false_ne_true
  review hnot := absurd hnot.symm Bool.false_ne_true
  entered hnot := absurd hnot.symm Bool.false_ne_true
  frame _ := rfl
  answers := hanswers

end

theorem skill_told {request : SkillRequest} {session next : ArtistSession}
    (hdb : ArtistInvariant db) (h : SkillStage request db session)
    (hfine : Fine (.skill request) session db) (hadvance : session.advance db = some (next, after)) :
    Told (.skill request) session next db after := by
  cases h with
  | waiting append happend =>
    obtain ⟨hsound, hbound⟩ := append_spec happend
    have happlies : Applies (.skill request) db ↔ _ := applies_skill_iff happend
    rcases advance_transact hadvance with ⟨changed, hchange, rfl, rfl⟩ | ⟨e, hchange, rfl, rfl⟩
    · obtain ⟨hlatest, -, hafter⟩ := (skillChange_eq_ok hsound).mp hchange
      refine told_commit (happlies.mpr hlatest)
        ⟨append, happend, congrArg Prod.fst hbound, hafter⟩ fun answer hanswer ↦ ?_
      rw [readBack_eq hsound] at hanswer
      cases hanswer
    · refine told_raise fun hholds ↦ ?_
      have hinsertable := (hfine append happend).1 rfl hholds
      rw [(skillChange_eq_ok hsound).mpr ⟨happlies.mp hholds, hinsertable, rfl⟩] at hchange
      cases hchange
  | committed append happend row hrow hcolumns =>
    have hsound := (append_spec happend).1
    obtain ⟨rfl, rfl⟩ := advance_read hadvance
    have hid := (hfine append happend).2 (by rw [readBack_eq hsound])
    refine told_readBack fun answer hanswer ↦ ?_
    rw [latestRow_of_id hdb hrow hcolumns hid, settle_latest hcolumns] at hanswer
    cases hanswer
  | latest append happend row hrow hcolumns =>
    rw [settle_latest hcolumns] at hadvance ⊢
    obtain ⟨rfl, rfl⟩ := advance_read hadvance
    refine told_readBack fun answer hanswer ↦ ?_
    cases hanswer
    exact ⟨rfl, append, row, happend, hrow, hcolumns, rfl⟩
  | ended result committed hhonest => cases hadvance

theorem career_told {uuid : Uuid} {state : String} {rationale expectedCurrentId : Option String}
    {session next : ArtistSession} (hdb : ArtistInvariant db)
    (h : CareerStage uuid state rationale expectedCurrentId db session)
    (hfine : Fine (.career uuid state rationale expectedCurrentId) session db)
    (hadvance : session.advance db = some (next, after)) :
    Told (.career uuid state rationale expectedCurrentId) session next db after := by
  cases h with
  | waiting append happend =>
    obtain ⟨rfl, rfl⟩ := advance_read hadvance
    have hexpected := expected_of_stateAppend happend
    rcases review_cases append after.currentState with ⟨hstale, e, heq⟩ |
      ⟨entry, hentry, hequal, -, heq⟩ | ⟨hcurrent, hdiffers, heq⟩
    · refine told_review ?_ fun answer hanswer ↦ ?_
      · rw [Session.atTransaction, heq]
        exact iff_of_false Bool.false_ne_true fun hholds ↦ hstale (hholds.1.trans hexpected.symm)
      · cases heq.symm.trans hanswer
    · refine told_review ?_ fun answer hanswer ↦ ?_
      · rw [Session.atTransaction, heq]
        refine iff_of_false Bool.false_ne_true fun hholds ↦ ?_
        have hfalse := hholds.2 append happend entry hentry
        rw [hequal] at hfalse
        cases hfalse
      · cases heq.symm.trans hanswer
        exact ⟨append, entry, happend, rfl, hentry, hequal, fun hcommitted ↦ by cases hcommitted⟩
    · refine told_review ?_ fun answer hanswer ↦ ?_
      · rw [Session.atTransaction, heq]
        refine iff_of_true rfl ⟨hcurrent.trans hexpected, fun other hother ↦ ?_⟩
        cases happend.symm.trans hother
        exact hdiffers
      · cases heq.symm.trans hanswer
  | differing append happend hdiffers =>
    have happlies := applies_iff_of_differs hdb happend hdiffers
    rcases advance_transact hadvance with ⟨changed, hchange, rfl, rfl⟩ | ⟨e, hchange, rfl, rfl⟩
    · obtain ⟨hcurrent, -, hafter⟩ := (stateChange_eq_ok hdb).mp hchange
      exact told_commit (happlies.mpr hcurrent) ⟨append, happend, hafter⟩
        fun answer hanswer ↦ by cases hanswer
    · refine told_raise fun hholds ↦ ?_
      have hinsertable := (hfine append happend).1 rfl hholds
      rw [(stateChange_eq_ok hdb).mpr ⟨happlies.mp hholds, hinsertable, rfl⟩] at hchange
      cases hchange
  | committed append happend entry hentry hid hequal =>
    obtain ⟨rfl, rfl⟩ := advance_read hadvance
    have hcurrent := currentState_of_id hdb hentry hid ((hfine append happend).2 rfl)
    refine told_readBack fun answer hanswer ↦ ?_
    have hcall : (.recorded <$> Call.fromExcept (do
        let result ← orRaise after.currentState (corrupt "new Career State did not become current")
        require (result.id = append.id) (corrupt "new Career State did not become current")
        return result) : ArtistCall ArtistAnswer) = .ended (.ok answer) := hanswer
    rw [hcurrent, readBack_current hid] at hcall
    cases hcall
    exact ⟨append, entry, happend, rfl, hcurrent, hequal, fun _ ↦ hid⟩
  | ended result committed hhonest => cases hadvance

/-- Every statement does what is claimed. -/
theorem known_told {operation : ArtistOperation} (hdb : ArtistInvariant db)
    {session next : ArtistSession} (h : Known operation session db) (hfine : Fine operation session db)
    (hadvance : session.advance db = some (next, after)) : Told operation session next db after := by
  cases operation with
  | skill request => exact skill_told hdb h.stage hfine hadvance
  | career uuid state rationale expectedCurrentId => exact career_told hdb h.stage hfine hadvance

theorem Known.honest {operation : ArtistOperation} {session : ArtistSession}
    (h : Known operation session db) : Honest session := by
  have hstage := h.stage
  cases operation with
  | skill request =>
    have hstage : SkillStage request db session := hstage
    cases hstage with
    | waiting append happend => exact fun e he ↦ rfl
    | committed append happend row hrow hcolumns => exact fun e he ↦ by cases he
    | latest append happend row hrow hcolumns =>
      intro e he
      rw [settle_latest hcolumns] at he
      cases he
    | ended result committed hhonest => exact hhonest
  | career uuid state rationale expectedCurrentId =>
    have hstage : CareerStage uuid state rationale expectedCurrentId db session := hstage
    cases hstage with
    | waiting append happend => exact fun e he ↦ by cases he
    | differing append happend hdiffers => exact fun e he ↦ rfl
    | committed append happend entry hentry hid hequal => exact fun e he ↦ by cases he
    | ended result committed hhonest => exact hhonest

/-- The entry that an operation is bound to is the latest one when its transaction commits. -/
theorem not_leftBehind_of_commit {operation : ArtistOperation} (hdb : ArtistInvariant db)
    {session next : ArtistSession} (h : Known operation session db)
    (hfine : Fine operation session db) (hadvance : session.advance db = some (next, after))
    (hwaits : session.committed = false) (hcommits : next.committed = true) :
    ¬ LeftBehind operation.bound db := by
  intro hleft
  have happlies : Applies operation db := by
    have htold := known_told hdb h hfine hadvance
    cases hat : session.atTransaction with
    | true => exact (htold.transaction hat).mp hcommits
    | false =>
      rcases session with ⟨result | read | ⟨change, following, raised⟩, committed⟩
      · cases hadvance
      · obtain ⟨rfl, -⟩ := advance_read hadvance
        cases hwaits.symm.trans hcommits
      · cases hat
  cases operation with
  | skill request =>
    have hleft : Superseded (fun row : SkillRow ↦ row.skillId) (fun row ↦ row.id) db.skills
      request.bound.1 request.bound.2 := hleft
    cases request with
    | declare assessment source skillId level assistance confidence =>
      exact hleft.moved (Option.map_eq_none_iff.mpr (latest_eq_none.mpr happlies))
    | correct assessment source binding level assistance reason confidence =>
      exact hleft.moved happlies
  | career uuid state rationale expectedCurrentId =>
    have hleft : Superseded CareerStateEntry.artistId CareerStateEntry.id db.careerStates
      db.primaryArtistId expectedCurrentId := hleft
    exact hleft.moved happlies.1

end

/-! ### Whole runs -/

/-- The store and the calls of a run. -/
abbrev ArtistWorld := Labelled ArtistOperation ArtistDb (Raised ArtistErrorClass) ArtistAnswer

/-- An event of a run. -/
abbrev ArtistEvent := SharedEvent ArtistOperation (Raised ArtistErrorClass)

/-- A store before any call. -/
def startWorld (db : ArtistDb) : ArtistWorld := ⟨⟨db, []⟩, []⟩

/-- What is claimed of an event: a statement does what is claimed, and no other event changes the
store. -/
def EventTold (w : ArtistWorld) (event : ArtistEvent) : Prop :=
  ∀ w', stepLabelled artistProgram w event = some w' →
    (∀ i operation session next, event = .advance i → w.operations[i]? = some operation →
      w.shared.sessions[i]? = some session → w'.shared.sessions[i]? = some next →
        Told operation session next w.shared.store w'.shared.store) ∧
    ((∀ i, event ≠ .advance i) → w'.shared.store = w.shared.store)

/-- Every call that raised has committed nothing. -/
def AllHonest (w : ArtistWorld) : Prop := ∀ session ∈ w.shared.sessions, Honest session

theorem eventTold_of_holds {w : ArtistWorld} {event : ArtistEvent}
    (h : w.Holds ArtistInvariant Known) (hfine : MeetsAt Fine w event) : EventTold w event := by
  intro w' hstep
  constructor
  · rintro i operation session next rfl hoperation hsession hnext
    obtain ⟨before, after, hbefore, hadvance, hsessions, -⟩ := advance_of_stepLabelled hstep
    cases hbefore.symm.trans hsession
    rw [hsessions, List.getElem?_set_self (List.getElem?_eq_some_iff.mp hsession).1] at hnext
    cases hnext
    exact known_told h.store (h.sessions i operation session hoperation hsession)
      (hfine i operation session rfl hoperation hsession) hadvance
  · intro hother
    cases event with
    | start operation =>
      obtain ⟨hshared, -⟩ := shared_of_stepLabelled hstep
      rw [← Option.some.inj hshared]
    | advance i => exact absurd rfl (hother i)
    | locked i e =>
      obtain ⟨_, _, _, _, hshared, _⟩ := locked_of_stepLabelled hstep
      rw [hshared, Shared.update]

theorem takenOnce_start (db : ArtistDb) :
    (startWorld db).TakenOnce fun operation ↦ some operation.bound := by
  rintro i j k ⟨operation, session, hoperation, -⟩
  cases hoperation

/-- In every run in which a call that reads its entry back finds it the latest one, and in which
what is inserted can be inserted, every statement does what is claimed, every call that raised has
committed nothing, and no two calls that are bound to one entry have both committed. -/
theorem appends_reported {db : ArtistDb} (hdb : ArtistInvariant db) {events : List ArtistEvent}
    {w : ArtistWorld} (hrun : runEvents (stepLabelled artistProgram) (startWorld db) events = some w)
    (hfine : EveryStep (stepLabelled artistProgram) (MeetsAt Fine) (startWorld db) events) :
    EveryStep (stepLabelled artistProgram) EventTold (startWorld db) events ∧ AllHonest w ∧
      w.TakenOnce fun operation ↦ some operation.bound := by
  have hnew : (startWorld db).Holds ArtistInvariant Known := holds_new hdb
  have hstart : ∀ operation (db : ArtistDb), ArtistInvariant db →
      Known operation ⟨artistProgram operation, false⟩ db :=
    fun operation db _ ↦ known_start operation db
  have hadvance : ∀ operation (session : ArtistSession) db next after, ArtistInvariant db →
      Known operation session db → Fine operation session db →
        session.advance db = some (next, after) →
          Relation.ReflGen Stays db after ∧ ArtistInvariant after ∧ Known operation next after :=
    fun _ _ _ _ _ hdb h hfine hadvance ↦ known_advance hdb h hfine hadvance
  have hlocked : ∀ operation (session : ArtistSession) db e ended, ArtistInvariant db →
      Known operation session db → session.locked e = some ended → Known operation ended db :=
    fun _ _ _ _ _ _ h hlocked ↦ known_locked h hlocked
  have hstable : ∀ operation (session : ArtistSession) db after, ArtistInvariant db →
      Stays db after → Known operation session db → Known operation session after :=
    fun _ _ _ _ _ hstays h ↦ known_stable hstays h
  refine ⟨?_, ?_, ?_⟩
  · exact everyStep_of_holds hstart hadvance hlocked hstable
      (fun w event h hfine ↦ eventTold_of_holds h hfine) hnew hfine
  · obtain ⟨-, hheld⟩ := holds_of_run hstart hadvance hlocked hstable hnew hfine hrun
    intro session hmem
    obtain ⟨i, hlt, rfl⟩ := List.mem_iff_getElem.mp hmem
    have hoperation := List.getElem?_eq_getElem (hheld.lengths.symm ▸ hlt : i < w.operations.length)
    exact (hheld.sessions i _ _ hoperation (List.getElem?_eq_getElem hlt)).honest
  · have htaken : ∀ operation (session : ArtistSession) db target, Known operation session db →
        session.committed = true → some operation.bound = some target → LeftBehind target db := by
      rintro operation session db target h hcommitted ⟨⟩
      exact h.left hcommitted
    refine takenOnce_of_run hstart hadvance hlocked hstable htaken ?_ hnew (takenOnce_start db) hfine
      hrun
    rintro operation session db next after target hdb h hfine hadvance hwaits hcommits ⟨⟩
    exact not_leftBehind_of_commit hdb h hfine hadvance hwaits hcommits

/-! ### Two runs -/

/-- An artist without skills and without a career state. -/
def newArtist : ArtistDb := ⟨["ada"], "ada", [], [], []⟩

theorem artistInvariant_newArtist : ArtistInvariant newArtist :=
  ⟨List.nodup_nil, List.nodup_nil, List.mem_singleton_self _⟩

def sampleDeclaration : ArtistOperation :=
  .skill (.declare (uuidEnding 1) (uuidEnding 2) " mixing " "practiced" "some" "high")

def sampleCorrection : ArtistOperation :=
  .skill (.correct (uuidEnding 3) (uuidEnding 4)
    ⟨"mixing", newId "skillassess" (uuidEnding 1)⟩ "applied" "none" "it went well" "medium")

/-- A skill is declared and corrected, and a career state recorded twice. -/
def appendRun : List ArtistEvent :=
  [.start sampleDeclaration, .advance 0, .advance 0, .advance 0,
    .start sampleCorrection, .advance 1, .advance 1, .advance 1,
    .start (.career (uuidEnding 5) "client-heavy" (some "two albums") none),
    .advance 2, .advance 2, .advance 2,
    .start (.career (uuidEnding 6) "CLIENT HEAVY" (some "two  albums")
      (some (newId "career_state" (uuidEnding 5)))), .advance 3]

/-- After the declaration has committed another connection corrects the skill, and then the
declaration reads it back. -/
def overtakenRun : List ArtistEvent :=
  [.start sampleDeclaration, .advance 0, .start sampleCorrection, .advance 1, .advance 0, .advance 0]

/-- A check of what a statement of the skill model needs. -/
def checkSkill (append : SkillAppend) (session : ArtistSession) (db : ArtistDb) : Bool :=
  decide ((session.atTransaction = true →
      append.columns.id ∉ (db.skills.map fun row ↦ row.id) ∧
        sqlNonblank append.columns.skillId = true ∧
          ∀ note ∈ append.columns.note, sqlNonblank note = true) ∧
    (session.committed = true →
      (db.latestRow append.columns.skillId).map (fun row ↦ row.id) = some append.columns.id))

/-- A check of what a statement of `record_state` needs. -/
def checkCareer (append : StateAppend) (session : ArtistSession) (db : ArtistDb) : Bool :=
  decide ((session.atTransaction = true →
      append.id ∉ db.careerStates.map CareerStateEntry.id ∧
        ∀ rationale ∈ append.rationale, sqlNonblank rationale = true) ∧
    (session.committed = true → db.currentState.map CareerStateEntry.id = some append.id))

/-- A check of what a statement needs. -/
def checkFine (operation : ArtistOperation) (session : ArtistSession) (db : ArtistDb) : Bool :=
  match operation with
  | .skill request => request.append.toOption.all fun append ↦ checkSkill append session db
  | .career uuid state rationale expectedCurrentId =>
    (stateAppend uuid state rationale expectedCurrentId).toOption.all fun append ↦
      checkCareer append session db

theorem fine_of_checkFine {operation : ArtistOperation} {session : ArtistSession} {db : ArtistDb}
    (h : checkFine operation session db = true) : Fine operation session db := by
  cases operation with
  | skill request =>
    intro append happend
    have hcheck : (request.append.toOption.all fun append ↦ checkSkill append session db) = true := h
    rw [toOption_eq_some.mpr happend, Option.all_some, checkSkill, decide_eq_true_eq] at hcheck
    obtain ⟨hinsert, hlatest⟩ := hcheck
    refine ⟨fun hat _ ↦ ?_, fun hsession ↦ hlatest (by rw [hsession])⟩
    obtain ⟨hfresh, hnamed, hreason⟩ := hinsert hat
    exact ⟨hfresh, hnamed, hreason⟩
  | career uuid state rationale expectedCurrentId =>
    intro append happend
    have hcheck : ((stateAppend uuid state rationale expectedCurrentId).toOption.all fun append ↦
      checkCareer append session db) = true := h
    rw [toOption_eq_some.mpr happend, Option.all_some, checkCareer, decide_eq_true_eq] at hcheck
    obtain ⟨hinsert, hcurrent⟩ := hcheck
    refine ⟨fun hat _ ↦ ?_, hcurrent⟩
    obtain ⟨hfresh, hnonblank⟩ := hinsert hat
    exact ⟨hfresh, hnonblank⟩

def checkEvent (w : ArtistWorld) (event : ArtistEvent) : Bool :=
  match event with
  | .advance i =>
    match w.operations[i]?, w.shared.sessions[i]? with
    | some operation, some session => checkFine operation session w.shared.store
    | _, _ => true
  | _ => true

theorem meetsAt_of_checkEvent {w : ArtistWorld} {event : ArtistEvent}
    (h : checkEvent w event = true) : MeetsAt Fine w event := by
  rintro i operation session rfl hoperation hsession
  simp only [checkEvent, hoperation, hsession] at h
  exact fine_of_checkFine h

def raisedAfterCommit (session : ArtistSession) : Bool :=
  match session with
  | ⟨.ended (.error _), true⟩ => true
  | _ => false

theorem not_honest {session : ArtistSession} (h : raisedAfterCommit session = true) :
    ¬ Honest session := by
  unfold raisedAfterCommit at h
  split at h
  · intro hhonest
    exact absurd (hhonest _ rfl).symm Bool.false_ne_true
  · exact absurd h Bool.false_ne_true

/-- Both runs: the first is fine throughout and records one career state, and in the second a
declaration raises after its commit. -/
theorem sample_outcomes :
    ((runChecked (stepLabelled artistProgram) checkEvent (startWorld newArtist) appendRun).any
      fun w ↦ w.shared.store.careerStates.length = 1) = true ∧
    ((runEvents (stepLabelled artistProgram) (startWorld newArtist) overtakenRun).any
      fun w ↦ w.shared.sessions.any raisedAfterCommit) = true := by
  decide +kernel

/-- A run in which a skill is declared and corrected, and a career state recorded. -/
theorem appends_reported_sample : ∃ w,
    runEvents (stepLabelled artistProgram) (startWorld newArtist) appendRun = some w ∧
    w.shared.store.careerStates.length = 1 ∧
    EveryStep (stepLabelled artistProgram) EventTold (startWorld newArtist) appendRun ∧
    AllHonest w ∧ w.TakenOnce fun operation ↦ some operation.bound := by
  obtain ⟨w, hchecked, hlength⟩ := (Option.any_eq_true _ _).mp sample_outcomes.1
  obtain ⟨hrun, hevery⟩ := run_of_runChecked hchecked
  have hfine := hevery.mono fun w event h ↦ meetsAt_of_checkEvent h
  rw [decide_eq_true_eq] at hlength
  exact ⟨w, hrun, hlength, appends_reported artistInvariant_newArtist hrun hfine⟩

/-- A declaration raises after it has committed, because another connection has corrected the skill
by the time it reads it back. -/
theorem declaration_raised_after_commit : ∃ w,
    runEvents (stepLabelled artistProgram) (startWorld newArtist) overtakenRun = some w ∧
    ¬ AllHonest w := by
  obtain ⟨w, hrun, hraised⟩ := (Option.any_eq_true _ _).mp sample_outcomes.2
  obtain ⟨session, hmem, hsession⟩ := List.any_eq_true.mp hraised
  exact ⟨w, hrun, fun hhonest ↦ not_honest hsession (hhonest session hmem)⟩

end N0te.Artist
