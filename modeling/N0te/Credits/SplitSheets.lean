import Mathlib.Data.List.Nodup
import Mathlib.Logic.Relation
import N0te.Credits.CreditsStore

/-!
# What every committed state of the split sheets satisfies

`CreditsInvariant` holds of every store that calls leave behind, whatever their interleaving, and
`SplitCommit` says what one of their transactions may do: it leaves the allocations of a submitted sheet
alone and records confirmations of participants of open sheets only. `splits_conserved` is the result
for runs.
-/

set_option autoImplicit false
set_option relaxedAutoImplicit false

namespace N0te.Credits

open Library Lineage People CreditsDb

/-! ### The invariant -/

/-- The invariant of the store of a profile. -/
structure CreditsInvariant (profile : Profile) (db : CreditsDb) : Prop where
  /-- A sheet was created for a song of the artist. -/
  sheets : ∀ sheet ∈ db.sheets, Created "split" sheet.id ∧
    sheet.artistId = profile.primaryArtistId ∧ ∃ song ∈ profile.songs, song.id = sheet.songId
  /-- An id names one sheet. -/
  sheetIds : (db.sheets.map CompositionSplitSheet.id).Nodup
  /-- A song has at most one active sheet. -/
  active : ∀ songId, (db.activeSheetsOf songId).length ≤ 1
  notes : ∀ sheet ∈ db.sheets, (sheet.state = .voided → sheet.closureNote.isSome = true) ∧
    (sheet.state ≠ .voided → sheet.closureNote = none)
  /-- An allocation is one of a sheet and a person. -/
  allocations : ∀ allocation ∈ db.allocations,
    (∃ sheet ∈ db.sheets, sheet.id = allocation.sheetId ∧ sheet.artistId = allocation.artistId ∧
      sheet.songId = allocation.songId) ∧
    ∃ person ∈ profile.people, person.id = allocation.personId
  /-- The shares of a sheet are at most the whole. -/
  totals : ∀ sheet ∈ db.sheets, db.totalOf sheet.id ≤ 10000
  /-- The shares of an open sheet are the whole. -/
  complete : ∀ sheet ∈ db.sheets, sheet.state = .openConfirmation →
    db.allocationsOf sheet.id ≠ [] ∧ db.totalOf sheet.id = 10000
  /-- A confirmation is one of a submitted sheet by a participant. -/
  confirmations : ∀ confirmation ∈ db.confirmations,
    (∃ sheet ∈ db.sheets, sheet.id = confirmation.sheetId ∧
      sheet.artistId = confirmation.artistId ∧ sheet.songId = confirmation.songId ∧
      sheet.state ≠ .draft) ∧
    ∃ allocation ∈ db.allocations, allocation.sheetId = confirmation.sheetId ∧
      allocation.personId = confirmation.personId

/-- The allocations of the sheets that were submitted stay. -/
def Frozen (db after : CreditsDb) : Prop :=
  ∀ sheet ∈ db.sheets, sheet.state ≠ .draft →
    (∃ later ∈ after.sheets, later.id = sheet.id ∧ later.state ≠ .draft) ∧
    after.allocationsOf sheet.id = db.allocationsOf sheet.id

/-- The confirmations that are new are those of participants of open sheets. -/
def ConfirmsOpen (db after : CreditsDb) : Prop :=
  ∀ confirmation ∈ after.confirmations, confirmation ∈ db.confirmations ∨
    db.HasSheet confirmation.sheetId .openConfirmation ∧
      ∃ allocation ∈ db.allocationsOf confirmation.sheetId,
        allocation.personId = confirmation.personId

/-- What a transaction does. -/
structure SplitCommit (db after : CreditsDb) : Prop where
  /-- To submitted sheets. -/
  frozen : Frozen db after
  confirms : ConfirmsOpen db after

section

variable {profile : Profile} {db after : CreditsDb}

theorem invariant_empty : CreditsInvariant profile .empty where
  sheets := List.forall_mem_nil _
  sheetIds := List.nodup_nil
  active _ := Nat.zero_le _
  notes := List.forall_mem_nil _
  allocations := List.forall_mem_nil _
  totals := List.forall_mem_nil _
  complete := List.forall_mem_nil _
  confirmations := List.forall_mem_nil _

theorem Frozen.refl (db : CreditsDb) : Frozen db db :=
  fun sheet hsheet hstate ↦ ⟨⟨sheet, hsheet, rfl, hstate⟩, rfl⟩

theorem Frozen.trans {last : CreditsDb} (h : Frozen db after) (h' : Frozen after last) :
    Frozen db last := by
  intro sheet hsheet hstate
  obtain ⟨⟨later, hlater, hid, hlaterState⟩, hallocations⟩ := h sheet hsheet hstate
  obtain ⟨hlast, hkept⟩ := h' later hlater hlaterState
  rw [hid] at hlast hkept
  exact ⟨hlast, hkept.trans hallocations⟩

theorem ConfirmsOpen.of_eq (h : after.confirmations = db.confirmations) : ConfirmsOpen db after :=
  fun _ hconfirmation ↦ .inl (h ▸ hconfirmation)

theorem frozen_of_commits (h : Relation.ReflTransGen SplitCommit db after) : Frozen db after := by
  induction h with
  | refl => exact .refl db
  | tail _ hcommit ih => exact ih.trans hcommit.frozen

theorem CreditsInvariant.eq_of_id (h : CreditsInvariant profile db) {a b : CompositionSplitSheet}
    (ha : a ∈ db.sheets) (hb : b ∈ db.sheets) (hid : a.id = b.id) : a = b :=
  List.inj_on_of_nodup_map h.sheetIds ha hb hid

/-! ### Drafts -/

/-- A draft is created. -/
theorem commit_insertSheet (h : CreditsInvariant profile db) {row : CompositionSplitSheet}
    (hcreated : Created "split" row.id) (hartist : row.artistId = profile.primaryArtistId)
    (hdraft : row.state = .draft) (hnote : row.closureNote = none)
    (hinsert : db.insertSheet profile row = .ok after) :
    SplitCommit db after ∧ CreditsInvariant profile after := by
  simp only [insertSheet, bind_eq_ok, require_eq_ok, Except.ok.injEq] at hinsert
  obtain ⟨-, ⟨song, hsong, hsongId, -⟩, -, hnew, -, hactive, rfl⟩ := hinsert
  have hkept : ∀ sheet ∈ db.sheets, sheet ∈ db.sheets ++ [row] :=
    fun sheet hsheet ↦ List.mem_append_left _ hsheet
  refine ⟨⟨fun sheet hsheet hstate ↦ ⟨⟨sheet, hkept sheet hsheet, rfl, hstate⟩, rfl⟩, .of_eq rfl⟩, ?_⟩
  constructor
  · refine List.forall_mem_append.mpr ⟨h.sheets, List.forall_mem_singleton.mpr ?_⟩
    exact ⟨hcreated, hartist, song, hsong, hsongId⟩
  · rw [List.map_append]
    refine h.sheetIds.append (List.nodup_singleton _) ?_
    rintro id hold hid
    obtain ⟨sheet, hsheet, rfl⟩ := List.mem_map.mp hold
    exact hnew sheet hsheet (List.mem_singleton.mp hid)
  · intro songId
    rw [activeSheetsOf, List.filter_append, List.length_append]
    by_cases hsame : row.songId = songId
    · have hnone : db.activeSheetsOf songId = [] := hsame ▸ hactive (by rw [hdraft]; rfl)
      rw [← activeSheetsOf, hnone, List.length_nil, Nat.zero_add]
      exact List.length_filter_le _ _
    · rw [List.filter_cons_of_neg (by simp [hsame])]
      exact h.active songId
  · refine List.forall_mem_append.mpr ⟨h.notes, List.forall_mem_singleton.mpr ⟨?_, fun _ ↦ hnote⟩⟩
    exact fun hvoided ↦ absurd (hdraft.symm.trans hvoided) (by decide)
  · intro allocation hallocation
    obtain ⟨⟨sheet, hsheet, hfields⟩, hperson⟩ := h.allocations allocation hallocation
    exact ⟨⟨sheet, hkept sheet hsheet, hfields⟩, hperson⟩
  · refine List.forall_mem_append.mpr ⟨h.totals, List.forall_mem_singleton.mpr ?_⟩
    have hnone : db.allocationsOf row.id = [] := by
      refine historyOf_eq_nil fun allocation hallocation hid ↦ ?_
      obtain ⟨⟨sheet, hsheet, hsheetId, -⟩, -⟩ := h.allocations allocation hallocation
      exact hnew sheet hsheet (hsheetId.trans hid)
    change db.totalOf row.id ≤ 10000
    rw [totalOf, hnone]
    decide
  · refine List.forall_mem_append.mpr ⟨h.complete, List.forall_mem_singleton.mpr fun hopen ↦ ?_⟩
    exact absurd (hdraft.symm.trans hopen) (by decide)
  · intro confirmation hconfirmation
    obtain ⟨⟨sheet, hsheet, hfields⟩, hallocation⟩ := h.confirmations confirmation hconfirmation
    exact ⟨⟨sheet, hkept sheet hsheet, hfields⟩, hallocation⟩

/-- The rows that are inserted for some shares. -/
theorem insertAllocations_spec {sheet : CompositionSplitSheet} {shares : List Share}
    (hinsert : insertAllocations profile sheet shares db = .ok after) :
    after = { db with allocations := db.allocations ++ shares.map (allocationOf sheet) } ∧
    ∀ share ∈ shares, db.HasSheet sheet.id .draft ∧
      (∃ other ∈ db.sheets, other.id = sheet.id ∧ other.artistId = sheet.artistId ∧
        other.songId = sheet.songId) ∧
      ∃ person ∈ profile.people, person.id = share.personId := by
  induction shares generalizing db with
  | nil =>
    cases hinsert
    exact ⟨by simp, List.forall_mem_nil _⟩
  | cons share rest ih =>
    simp only [insertAllocations, bind_eq_ok] at hinsert
    obtain ⟨middle, hfirst, hrest⟩ := hinsert
    simp only [insertAllocation, bind_eq_ok, require_eq_ok, Except.ok.injEq] at hfirst
    obtain ⟨-, ⟨hsheet, person, hperson, hpersonId, -⟩, -, hdraft, -, -, -, -, -, -, rfl⟩ := hfirst
    obtain ⟨rfl, hshares⟩ := ih hrest
    refine ⟨by simp, List.forall_mem_cons.mpr ⟨⟨hdraft, hsheet, person, hperson, hpersonId⟩, ?_⟩⟩
    exact hshares

/-- The store with other allocations of a sheet. -/
def replaced (db : CreditsDb) (sheet : CompositionSplitSheet) (shares : List Share) : CreditsDb where
  sheets := db.sheets
  allocations :=
    db.allocations.filter (fun row ↦ row.sheetId ≠ sheet.id) ++ shares.map (allocationOf sheet)
  confirmations := db.confirmations

theorem allocationsOf_replaced_self (sheet : CompositionSplitSheet) (shares : List Share) :
    (replaced db sheet shares).allocationsOf sheet.id = shares.map (allocationOf sheet) := by
  rw [allocationsOf, historyOf, replaced, List.filter_append, List.filter_filter,
    List.filter_eq_nil_iff.mpr (by simp), List.nil_append]
  refine List.filter_eq_self.mpr fun row hrow ↦ ?_
  obtain ⟨share, -, rfl⟩ := List.mem_map.mp hrow
  exact decide_eq_true rfl

theorem allocationsOf_replaced_of_ne {sheet : CompositionSplitSheet} {sheetId : String}
    (shares : List Share) (hne : sheetId ≠ sheet.id) :
    (replaced db sheet shares).allocationsOf sheetId = db.allocationsOf sheetId := by
  have hnew : (shares.map (allocationOf sheet)).filter (fun row ↦ row.sheetId = sheetId) = [] := by
    refine List.filter_eq_nil_iff.mpr fun row hrow ↦ ?_
    obtain ⟨share, -, rfl⟩ := List.mem_map.mp hrow
    simp [allocationOf, hne.symm]
  rw [allocationsOf, historyOf, replaced, List.filter_append, hnew, List.append_nil,
    List.filter_filter]
  refine List.filter_congr fun row _ ↦ ?_
  by_cases hid : row.sheetId = sheetId <;> simp [hid, hne]

/-- The allocations of a draft are replaced. Assumes: the new shares are at most the whole. -/
theorem commit_replaceAllocations (h : CreditsInvariant profile db) {sheet : CompositionSplitSheet}
    {shares : List Share} (htotal : (shares.map Share.basisPoints).sum ≤ 10000)
    (hreplace : replaceAllocations profile sheet shares db = .ok after) :
    SplitCommit db after ∧ CreditsInvariant profile after := by
  simp only [replaceAllocations, integrityAs_eq_ok, deleteAllocations, bind_eq_ok, require_eq_ok,
    Except.ok.injEq] at hreplace
  obtain ⟨_, ⟨-, hdelete, rfl⟩, hinsert⟩ := hreplace
  obtain ⟨rfl, hshares⟩ := insertAllocations_spec hinsert
  change SplitCommit db (replaced db sheet shares) ∧
    CreditsInvariant profile (replaced db sheet shares)
  by_cases hdraft : db.HasSheet sheet.id .draft
  swap
  · -- A sheet that is no draft has no rows that could be deleted, and none are inserted.
    have hnone : shares = [] := by
      rcases shares with _ | ⟨share, rest⟩
      · rfl
      · exact absurd (hshares share List.mem_cons_self).1 hdraft
    have hall : db.allocations.filter (fun row ↦ row.sheetId ≠ sheet.id) = db.allocations := by
      refine List.filter_eq_self.mpr fun row hrow ↦ decide_eq_true fun hid ↦ hdraft ?_
      exact hid ▸ hdelete row hrow hid
    have hsame : replaced db sheet shares = db := by
      rw [replaced, hnone, List.map_nil, List.append_nil, hall]
    rw [hsame]
    exact ⟨⟨.refl db, .of_eq rfl⟩, h⟩
  have hother : ∀ other ∈ db.sheets, other.state ≠ .draft → other.id ≠ sheet.id := by
    rintro other hmem hstate hid
    obtain ⟨draft, hdraftMem, hdraftId, hdraftState⟩ := hdraft
    rw [h.eq_of_id hmem hdraftMem (hid.trans hdraftId.symm)] at hstate
    exact hstate hdraftState
  refine ⟨⟨fun other hmem hstate ↦ ⟨⟨other, hmem, rfl, hstate⟩, ?_⟩, .of_eq rfl⟩, ?_⟩
  · exact allocationsOf_replaced_of_ne shares (hother other hmem hstate)
  constructor
  · exact h.sheets
  · exact h.sheetIds
  · exact h.active
  · exact h.notes
  · refine List.forall_mem_append.mpr
      ⟨fun row hrow ↦ h.allocations row (List.mem_of_mem_filter hrow), fun row hrow ↦ ?_⟩
    obtain ⟨share, hshare, rfl⟩ := List.mem_map.mp hrow
    exact (hshares share hshare).2
  · intro other hmem
    by_cases hid : other.id = sheet.id
    · rw [totalOf, hid, allocationsOf_replaced_self, List.map_map]
      exact htotal
    · rw [totalOf, allocationsOf_replaced_of_ne shares hid]
      exact h.totals other hmem
  · intro other hmem hopen
    have hne := hother other hmem (by rw [hopen]; decide)
    rw [totalOf, allocationsOf_replaced_of_ne shares hne]
    exact h.complete other hmem hopen
  · intro confirmation hconfirmation
    obtain ⟨⟨other, hmem, hid, hartist, hsong, hstate⟩, allocation, hallocation, hsheetId, hpersonId⟩ :=
      h.confirmations confirmation hconfirmation
    refine ⟨⟨other, hmem, hid, hartist, hsong, hstate⟩, allocation, ?_, hsheetId, hpersonId⟩
    refine List.mem_append_left _ (List.mem_filter.mpr ⟨hallocation, decide_eq_true ?_⟩)
    rw [hsheetId, ← hid]
    exact hother other hmem hstate

/-! ### Submitting and voiding -/

/-- What an update may make of a sheet. -/
structure Updated (db : CreditsDb) (old new : CompositionSplitSheet) : Prop where
  /-- The binding stays. -/
  binding : new.id = old.id ∧ new.artistId = old.artistId ∧ new.songId = old.songId
  /-- No sheet is made active. -/
  active : new.state.active = true → old.state.active = true
  /-- No sheet is made a draft. -/
  submitted : old.state ≠ .draft → new.state ≠ .draft
  /-- A sheet has a closure note when it is voided. -/
  notes : (new.state = .voided → new.closureNote.isSome = true) ∧
    (new.state ≠ .voided → new.closureNote = none)
  /-- A sheet that is submitted is complete. -/
  complete : new.state = .openConfirmation →
    db.allocationsOf old.id ≠ [] ∧ db.totalOf old.id = 10000

theorem CreditsInvariant.updated_self (h : CreditsInvariant profile db) {sheet : CompositionSplitSheet}
    (hsheet : sheet ∈ db.sheets) : Updated db sheet sheet :=
  ⟨⟨rfl, rfl, rfl⟩, id, id, h.notes sheet hsheet, h.complete sheet hsheet⟩

theorem updated_of_checkUpdate {old new : CompositionSplitSheet}
    (hcheck : db.checkUpdate old new = .ok ⟨⟩) : Updated db old new := by
  simp only [checkUpdate, bind_eq_ok, require_eq_ok] at hcheck
  obtain ⟨-, hbinding, -, hstates, hcomplete⟩ := hcheck
  rcases hstates with ⟨hdraft, hopen, hnote⟩ | ⟨hactive, hvoided, note, hnote, -⟩
  · refine ⟨hbinding, fun _ ↦ by rw [hdraft]; rfl, fun hsubmitted ↦ absurd hdraft hsubmitted, ?_,
      fun _ ↦ hcomplete ⟨hdraft, hopen⟩⟩
    rw [hopen, hnote]
    exact ⟨by rintro ⟨⟩, fun _ ↦ rfl⟩
  · refine ⟨hbinding, fun _ ↦ hactive, fun _ ↦ by rw [hvoided]; decide, ?_, ?_⟩
    · rw [hvoided, Option.mem_def.mp hnote]
      exact ⟨fun _ ↦ rfl, fun hne ↦ absurd rfl hne⟩
    · rw [hvoided]
      rintro ⟨⟩

/-- Sheets are updated. -/
theorem commit_map (h : CreditsInvariant profile db)
    {f : CompositionSplitSheet → CompositionSplitSheet}
    (hf : ∀ sheet ∈ db.sheets, Updated db sheet (f sheet)) :
    SplitCommit db { db with sheets := db.sheets.map f } ∧
      CreditsInvariant profile { db with sheets := db.sheets.map f } := by
  refine ⟨⟨fun sheet hsheet hstate ↦ ⟨⟨f sheet, List.mem_map_of_mem hsheet, (hf sheet hsheet).binding.1,
    (hf sheet hsheet).submitted hstate⟩, rfl⟩, .of_eq rfl⟩, ?_⟩
  constructor
  · refine List.forall_mem_map.mpr fun sheet hsheet ↦ ?_
    obtain ⟨hid, hartist, hsong⟩ := (hf sheet hsheet).binding
    rw [hid, hartist, hsong]
    exact h.sheets sheet hsheet
  · have hids : (db.sheets.map f).map CompositionSplitSheet.id =
        db.sheets.map CompositionSplitSheet.id := by
      rw [List.map_map]
      exact List.map_congr_left fun sheet hsheet ↦ (hf sheet hsheet).binding.1
    rw [hids]
    exact h.sheetIds
  · intro songId
    refine le_trans ?_ (h.active songId)
    rw [activeSheetsOf, activeSheetsOf, ← List.countP_eq_length_filter,
      ← List.countP_eq_length_filter, List.countP_map]
    refine List.countP_mono_left fun sheet hsheet hactive ↦ ?_
    simp only [Function.comp_apply, decide_eq_true_eq] at hactive ⊢
    exact ⟨(hf sheet hsheet).binding.2.2 ▸ hactive.1, (hf sheet hsheet).active hactive.2⟩
  · exact List.forall_mem_map.mpr fun sheet hsheet ↦ (hf sheet hsheet).notes
  · intro allocation hallocation
    obtain ⟨⟨sheet, hsheet, hfields⟩, hperson⟩ := h.allocations allocation hallocation
    obtain ⟨hid, hartist, hsong⟩ := (hf sheet hsheet).binding
    rw [← hid, ← hartist, ← hsong] at hfields
    exact ⟨⟨f sheet, List.mem_map_of_mem hsheet, hfields⟩, hperson⟩
  · refine List.forall_mem_map.mpr fun sheet hsheet ↦ ?_
    rw [(hf sheet hsheet).binding.1]
    exact h.totals sheet hsheet
  · refine List.forall_mem_map.mpr fun sheet hsheet hopen ↦ ?_
    rw [(hf sheet hsheet).binding.1]
    exact (hf sheet hsheet).complete hopen
  · intro confirmation hconfirmation
    obtain ⟨⟨sheet, hsheet, hid, hartist, hsong, hstate⟩, hallocation⟩ :=
      h.confirmations confirmation hconfirmation
    obtain ⟨hid', hartist', hsong'⟩ := (hf sheet hsheet).binding
    exact ⟨⟨f sheet, List.mem_map_of_mem hsheet, hid'.trans hid, hartist'.trans hartist,
      hsong'.trans hsong, (hf sheet hsheet).submitted hstate⟩, hallocation⟩

theorem commit_updateSheet (h : CreditsInvariant profile db) {sheetId : String}
    {states : List SplitState} {change : CompositionSplitSheet → CompositionSplitSheet}
    {changed refused : String}
    (hupdate : updateSheet sheetId states change changed refused db = .ok after) :
    SplitCommit db after ∧ CreditsInvariant profile after := by
  simp only [updateSheet, integrityAs_eq_ok, updateSheets, bind_eq_ok, require_eq_ok,
    Except.ok.injEq, Prod.exists, Prod.mk.injEq] at hupdate
  obtain ⟨_, _, ⟨results, hchecks, rfl, -⟩, -, -, rfl⟩ := hupdate
  refine commit_map h fun sheet hsheet ↦ ?_
  by_cases hmatches : sheet.id = sheetId ∧ sheet.state ∈ states
  · rw [if_pos hmatches]
    refine updated_of_checkUpdate (exists_checkEach_iff.mp ⟨results, hchecks⟩ sheet ?_)
    exact List.mem_filter.mpr ⟨hsheet, decide_eq_true hmatches⟩
  · rw [if_neg hmatches]
    exact h.updated_self hsheet

/-! ### Confirmations -/

theorem commit_insertConfirmation (h : CreditsInvariant profile db) {row : SplitConfirmation}
    (hinsert : db.insertConfirmation profile row = .ok after) :
    SplitCommit db after ∧ CreditsInvariant profile after := by
  simp only [insertConfirmation, bind_eq_ok, require_eq_ok, Except.ok.injEq] at hinsert
  obtain ⟨-, ⟨⟨sheet, hsheet, hid, hartist, hsong, hopen⟩, -⟩, -, ⟨allocation, hallocation, hsheetId,
    hpersonId⟩, -, -, -, -, rfl⟩ := hinsert
  refine ⟨⟨.refl db, List.forall_mem_append.mpr ⟨fun _ hold ↦ .inl hold, ?_⟩⟩, ?_⟩
  · refine List.forall_mem_singleton.mpr (.inr ⟨⟨sheet, hsheet, hid, hopen⟩, allocation, ?_, hpersonId⟩)
    exact mem_historyOf.mpr ⟨hallocation, hsheetId⟩
  · refine { h with confirmations := ?_ }
    refine List.forall_mem_append.mpr ⟨h.confirmations, List.forall_mem_singleton.mpr ?_⟩
    exact ⟨⟨sheet, hsheet, hid, hartist, hsong, by rw [hopen]; decide⟩, allocation, hallocation,
      hsheetId, hpersonId⟩

/-! ### Opening -/

/-- A person of an allocation is found. -/
theorem exists_requirePerson {personId : String}
    (h : ∃ person ∈ profile.people, person.id = personId) :
    ∃ person, requirePerson profile personId = .ok person ∧ person.id = personId ∧
      person.artistId = profile.primaryArtistId := by
  obtain ⟨person, hfound, hid, hartist⟩ := Profile.exists_getPerson h
  obtain ⟨other, hother, hotherId⟩ := h
  have hstrip : strip personId = personId :=
    hotherId ▸ (profile.people_created other hother).1.strip_eq (by decide)
  refine ⟨person, ?_, hid, hartist⟩
  simp only [requirePerson, bind_eq_ok, orRaise_eq_ok, require_eq_ok, hstrip]
  exact ⟨person, hfound, ⟨⟩, hartist, rfl⟩

/-- The song of a sheet is found. -/
theorem exists_requireSong {songId : String} (h : ∃ song ∈ profile.songs, song.id = songId) :
    ∃ song, requireSong profile songId = .ok song ∧ song.artistId = profile.primaryArtistId := by
  obtain ⟨song, hfound, hid, hartist⟩ := Profile.exists_getSong h
  obtain ⟨other, hother, hotherId⟩ := h
  have hstrip : strip songId = songId :=
    hotherId ▸ (profile.songs_created other hother).1.strip_eq (by decide)
  refine ⟨song, ?_, hartist⟩
  simp only [requireSong, bind_eq_ok, orRaise_eq_ok, require_eq_ok, hstrip]
  exact ⟨song, hfound, ⟨⟩, hartist, rfl⟩

theorem validateSheet_eq_ok (h : CreditsInvariant profile db) {sheet : CompositionSplitSheet}
    (hsheet : sheet ∈ db.sheets) : db.validateSheet profile sheet = .ok ⟨⟩ := by
  obtain ⟨hcreated, hartist, hsong⟩ := h.sheets sheet hsheet
  obtain ⟨song, hfound, hsongArtist⟩ := exists_requireSong hsong
  obtain ⟨hvoided, hnotVoided⟩ := h.notes sheet hsheet
  have hstrip : strip sheet.id = sheet.id := hcreated.strip_eq (by decide)
  have hallocations : ∀ allocation ∈ db.allocationsOf sheet.id,
      validateAllocation profile sheet allocation = .ok ⟨⟩ := by
    intro allocation hallocation
    obtain ⟨hmem, hid⟩ := mem_historyOf.mp hallocation
    obtain ⟨⟨other, hother, hotherId, hotherArtist, hotherSong⟩, hperson⟩ :=
      h.allocations allocation hmem
    obtain rfl := h.eq_of_id hother hsheet (hotherId.trans hid)
    obtain ⟨person, hfound, -, hpersonArtist⟩ := exists_requirePerson hperson
    simp only [validateAllocation, bind_eq_ok, require_eq_ok, hfound]
    exact ⟨person, rfl, hotherArtist.symm, hotherSong.symm, hpersonArtist.trans hartist.symm⟩
  have hconfirmations : ∀ confirmation ∈ db.confirmationsOf sheet.id, validateConfirmation sheet
      ((db.allocationsOf sheet.id).map CompositionSplitAllocation.personId) confirmation =
        .ok ⟨⟩ := by
    intro confirmation hconfirmation
    obtain ⟨hmem, hid⟩ := mem_historyOf.mp hconfirmation
    obtain ⟨⟨other, hother, hotherId, hotherArtist, hotherSong, -⟩, allocation, hallocation, hsheetId,
      hpersonId⟩ := h.confirmations confirmation hmem
    obtain rfl := h.eq_of_id hother hsheet (hotherId.trans hid)
    simp only [validateConfirmation, bind_eq_ok, require_eq_ok]
    refine ⟨⟨⟩, List.mem_map.mpr ⟨allocation, ?_, hpersonId⟩, hotherArtist.symm, hotherSong.symm⟩
    exact mem_historyOf.mpr ⟨hallocation, hsheetId.trans hid⟩
  obtain ⟨checked, hchecked⟩ := exists_checkEach_iff (n := 0).mpr hallocations
  obtain ⟨confirmed, hconfirmed⟩ := exists_checkEach_iff (n := 0).mpr hconfirmations
  simp only [validateSheet, bind_eq_ok, require_eq_ok, hfound, hstrip, hchecked, hconfirmed]
  exact ⟨song, rfl, ⟨⟩, hartist.trans hsongArtist.symm, ⟨⟩, h.totals sheet hsheet, ⟨⟩,
    h.complete sheet hsheet, ⟨⟩, hvoided, ⟨⟩, hnotVoided, checked, rfl, confirmed, rfl, rfl⟩

/-- A store can be opened again. -/
theorem CreditsInvariant.validateExisting (h : CreditsInvariant profile db) :
    db.validateExisting profile = .ok ⟨⟩ := by
  obtain ⟨results, hresults⟩ := exists_checkEach_iff (n := 0).mpr
    fun (sheet : CompositionSplitSheet) hsheet ↦ validateSheet_eq_ok h hsheet
  simp only [CreditsDb.validateExisting, asCorruption_eq_ok, bind_eq_ok]
  exact ⟨results, hresults, rfl⟩

/-! ### Whether everybody has confirmed -/

/-- The last that a participant of a sheet said is a confirmation. -/
def Confirmed (db : CreditsDb) (sheetId personId : String) : Prop :=
  ∃ confirmation ∈ db.latestOf sheetId personId, confirmation.status = .recordedConfirmed

/-- A sheet is open and every participant has confirmed it. -/
def FullyConfirmed (db : CreditsDb) (sheetId : String) : Prop :=
  db.HasSheet sheetId .openConfirmation ∧
    ∀ allocation ∈ db.allocationsOf sheetId, Confirmed db sheetId allocation.personId

theorem alone_allConfirmed {sheetId : String} (hstrip : strip sheetId = sheetId)
    {allocations : List CompositionSplitAllocation}
    (hpeople : ∀ allocation ∈ allocations,
      ∃ person ∈ profile.people, person.id = allocation.personId) :
    ∃ truth, (allConfirmed profile sheetId allocations).alone db = (.ok truth, db) ∧
      (truth = true ↔ ∀ allocation ∈ allocations, Confirmed db sheetId allocation.personId) := by
  induction allocations with
  | nil => exact ⟨true, rfl, iff_of_true rfl (List.forall_mem_nil _)⟩
  | cons allocation rest ih =>
    rw [List.forall_mem_cons] at hpeople
    obtain ⟨person, hfound, hid, -⟩ := exists_requirePerson hpeople.1
    obtain ⟨truth, halone, htruth⟩ := ih hpeople.2
    have hstate : (confirmationState profile sheetId allocation.personId).alone db =
        (.ok ((db.latestOf sheetId allocation.personId).map SplitConfirmation.status), db) := by
      rw [confirmationState, latestConfirmation, hfound, hstrip, ← hid]
      rfl
    have hconfirmed : (db.latestOf sheetId allocation.personId).map SplitConfirmation.status =
        some .recordedConfirmed ↔ Confirmed db sheetId allocation.personId := by
      rw [Option.map_eq_some_iff]
      rfl
    rw [allConfirmed, Call.alone_bind, hstate]
    by_cases hlast : Confirmed db sheetId allocation.personId
    · refine ⟨truth, ?_, ?_⟩
      · simpa only [if_pos (hconfirmed.mpr hlast)] using halone
      · rw [htruth, List.forall_mem_cons]
        exact (and_iff_right hlast).symm
    · refine ⟨false, ?_, ?_⟩
      · simp only [if_neg (mt hconfirmed.mp hlast)]
        rfl
      · refine iff_of_false Bool.false_ne_true fun hall ↦ hlast ?_
        exact hall allocation List.mem_cons_self

/-- `all_recorded_confirmed` says whether a sheet is open and confirmed by everybody. -/
theorem alone_allRecordedConfirmed (h : CreditsInvariant profile db) (sheetId : String) :
    ∃ truth, (allRecordedConfirmed profile sheetId).alone db = (.ok truth, db) ∧
      (truth = true ↔ FullyConfirmed db (strip sheetId)) := by
  rw [allRecordedConfirmed, getSplitSheet, Call.alone_select_bind]
  rcases hfound : db.getSplitSheet sheetId with _ | sheet
  · refine ⟨false, rfl, iff_of_false Bool.false_ne_true ?_⟩
    rintro ⟨⟨sheet, hsheet, hid, -⟩, -⟩
    exact List.find?_eq_none.mp hfound sheet hsheet (decide_eq_true hid)
  have hsheet : sheet ∈ db.sheets := List.mem_of_find?_eq_some hfound
  have hid : sheet.id = strip sheetId := by simpa using List.find?_some hfound
  rw [← hid]
  by_cases hopen : sheet.state = .openConfirmation
  swap
  · refine ⟨false, ?_, iff_of_false Bool.false_ne_true ?_⟩
    · simp only [if_neg hopen]
      rfl
    · rintro ⟨⟨other, hother, hotherId, hotherState⟩, -⟩
      exact hopen (h.eq_of_id hother hsheet hotherId ▸ hotherState)
  have hstrip : strip sheet.id = sheet.id := (h.sheets sheet hsheet).1.strip_eq (by decide)
  have hpeople : ∀ allocation ∈ db.allocationsOf sheet.id,
      ∃ person ∈ profile.people, person.id = allocation.personId :=
    fun allocation hallocation ↦ (h.allocations allocation (mem_historyOf.mp hallocation).1).2
  obtain ⟨truth, halone, htruth⟩ := @alone_allConfirmed profile db sheet.id hstrip _ hpeople
  refine ⟨truth, ?_, htruth.trans ?_⟩
  · simp only [if_pos hopen]
    rw [openSheetConfirmed, splitAllocations, Call.alone_select_bind, hstrip,
      if_neg (h.complete sheet hsheet hopen).1]
    exact halone
  · exact (and_iff_right ⟨sheet, hsheet, rfl, hopen⟩).symm

/-! ### The calls -/

/-- The transactions of a call keep the invariant and are commits of splits, whatever was read. -/
abbrev Sound {α : Type} (profile : Profile) (call : CreditsCall α) : Prop :=
  Preserves (CreditsInvariant profile) SplitCommit call

theorem sound_requireSplitSheet (sheetId : String) :
    Sound profile (requireSplitSheet profile sheetId) :=
  (preserves_select _).bind fun _ ↦ preserves_fromExcept _

theorem sound_createSplitDraft (uuid : Uuid) (songId : String) :
    Sound profile (createSplitDraft profile uuid songId) := by
  refine (preserves_fromExcept _).bind fun song ↦ ?_
  refine (preserves_transaction fun s t hs hinsert ↦ ?_).bind fun _ ↦
    (preserves_select _).bind fun _ ↦ preserves_fromExcept _
  exact commit_insertSheet hs ⟨uuid, rfl⟩ rfl rfl rfl (integrityAs_eq_ok.mp hinsert)

theorem sound_setDraftAllocations (sheetId : String) (allocations : List Share) :
    Sound profile (setDraftAllocations profile sheetId allocations) := by
  refine (sound_requireSplitSheet sheetId).bind fun sheet ↦ (preserves_fromExcept _).bind fun _ ↦ ?_
  refine preserves_fromExcept_bind fun normalized hnormalized ↦ ?_
  simp only [normalizeAllocations, bind_eq_ok, require_eq_ok, Except.ok.injEq] at hnormalized
  obtain ⟨_, -, -, htotal, rfl⟩ := hnormalized
  refine (preserves_transaction fun s t hs hreplace ↦ ?_).bind fun _ ↦ preserves_select _
  exact commit_replaceAllocations hs htotal hreplace

theorem sound_submitSplit (sheetId : String) : Sound profile (submitSplit profile sheetId) := by
  refine (sound_requireSplitSheet sheetId).bind fun sheet ↦ (preserves_fromExcept _).bind fun _ ↦
    (preserves_select _).bind fun _ ↦ (preserves_fromExcept _).bind fun _ ↦ ?_
  refine (preserves_transaction fun s t hs hupdate ↦ ?_).bind fun _ ↦
    (preserves_select _).bind fun _ ↦ preserves_fromExcept _
  exact commit_updateSheet hs hupdate

theorem sound_latestConfirmation (sheetId personId : String) :
    Sound profile (latestConfirmation profile sheetId personId) :=
  (preserves_fromExcept _).bind fun _ ↦ preserves_select _

theorem sound_recordConfirmation (uuid : Uuid) (sheetId personId status note : String) :
    Sound profile (recordConfirmation profile uuid sheetId personId status note) := by
  refine (sound_requireSplitSheet sheetId).bind fun sheet ↦ (preserves_fromExcept _).bind fun _ ↦
    (preserves_fromExcept _).bind fun person ↦ (preserves_select _).bind fun _ ↦
    (preserves_fromExcept _).bind fun status ↦ (preserves_fromExcept _).bind fun note ↦
    (sound_latestConfirmation _ _).bind fun _ ↦ (preserves_fromExcept _).bind fun _ ↦ ?_
  refine (preserves_transaction fun s t hs hinsert ↦ ?_).bind fun _ ↦
    (sound_latestConfirmation _ _).bind fun _ ↦ preserves_fromExcept _
  exact commit_insertConfirmation hs (integrityAs_eq_ok.mp hinsert)

theorem sound_allConfirmed (sheetId : String) (allocations : List CompositionSplitAllocation) :
    Sound profile (allConfirmed profile sheetId allocations) := by
  induction allocations with
  | nil => exact preserves_pure _
  | cons allocation rest ih =>
    refine ((sound_latestConfirmation _ _).bind fun _ ↦ preserves_pure _).bind fun state ↦ ?_
    split_ifs
    · exact ih
    · exact preserves_pure _

theorem sound_allRecordedConfirmed (sheetId : String) :
    Sound profile (allRecordedConfirmed profile sheetId) := by
  refine (preserves_select _).bind fun sheet ↦ ?_
  rcases sheet with _ | sheet
  · exact preserves_pure _
  by_cases hopen : sheet.state = .openConfirmation
  · simp only [if_pos hopen]
    refine (preserves_select _).bind fun allocations ↦ ?_
    split_ifs
    · exact preserves_pure _
    · exact sound_allConfirmed _ _
  · simp only [if_neg hopen]
    exact preserves_pure _

theorem sound_voidSplit (sheetId reason : String) :
    Sound profile (voidSplit profile sheetId reason) := by
  refine (sound_requireSplitSheet sheetId).bind fun sheet ↦ (preserves_fromExcept _).bind
    fun reason ↦ ?_
  refine (preserves_transaction fun s t hs hupdate ↦ ?_).bind fun _ ↦
    (preserves_select _).bind fun _ ↦ preserves_fromExcept _
  exact commit_updateSheet hs hupdate

theorem sound_creditsProgram (operation : CreditsOperation) :
    Sound profile (creditsProgram profile operation) := by
  cases operation with
  | createSplitDraft uuid songId => exact (sound_createSplitDraft uuid songId).map _
  | setDraftAllocations sheetId allocations =>
    exact (sound_setDraftAllocations sheetId allocations).map _
  | submitSplit sheetId => exact (sound_submitSplit sheetId).map _
  | recordConfirmation uuid sheetId personId status note =>
    exact (sound_recordConfirmation uuid sheetId personId status note).map _
  | allRecordedConfirmed sheetId => exact (sound_allRecordedConfirmed sheetId).map _
  | voidSplit sheetId reason => exact (sound_voidSplit sheetId reason).map _

end

/-! ### Runs -/

/-- The sheets of a store are in order. -/
structure SplitsInOrder (profile : Profile) (db : CreditsDb) : Prop where
  /-- A song has at most one active sheet. -/
  active : ∀ songId, (db.activeSheetsOf songId).length ≤ 1
  /-- The shares of a sheet are at most the whole. -/
  totals : ∀ sheet ∈ db.sheets, db.totalOf sheet.id ≤ 10000
  /-- The shares of an open sheet are the whole. -/
  complete : ∀ sheet ∈ db.sheets, sheet.state = .openConfirmation → db.totalOf sheet.id = 10000
  /-- `all_recorded_confirmed` says whether a sheet is open and confirmed by everybody. -/
  confirmed : ∀ sheetId, ∃ truth,
    (allRecordedConfirmed profile sheetId).alone db = (.ok truth, db) ∧
      (truth = true ↔ FullyConfirmed db (strip sheetId))

theorem CreditsInvariant.inOrder {profile : Profile} {db : CreditsDb}
    (h : CreditsInvariant profile db) : SplitsInOrder profile db :=
  ⟨h.active, h.totals, fun sheet hsheet hopen ↦ (h.complete sheet hsheet hopen).2,
    alone_allRecordedConfirmed h⟩

/-- In every run of calls on a new store, whatever their interleaving, the sheets of every state are in
order and the store can be opened again. Whatever happens next, the confirmations that it records are
those of participants of open sheets, and the allocations of a submitted sheet stay. -/
theorem splits_conserved {profile : Profile}
    {events : List (SharedEvent CreditsOperation (Raised LineageErrorClass))}
    {w : Shared CreditsDb (Raised LineageErrorClass) CreditsAnswer}
    (hrun : runEvents (stepShared (creditsProgram profile)) ⟨.empty, []⟩ events = some w) :
    SplitsInOrder profile w.store ∧ w.store.validateExisting profile = .ok ⟨⟩ ∧
    (∀ event w', stepShared (creditsProgram profile) w event = some w' →
      ConfirmsOpen w.store w'.store) ∧
    ∀ more w', runEvents (stepShared (creditsProgram profile)) w more = some w' →
      Frozen w.store w'.store := by
  have hsound : ∀ operation s, CreditsInvariant profile s →
      Keeps (CreditsInvariant profile) SplitCommit (fun _ _ _ ↦ True) false
        (creditsProgram profile operation) s :=
    fun operation s _ ↦ (sound_creditsProgram operation).keeps false s
  have hstart : Shared.Kept (CreditsInvariant profile) SplitCommit (fun _ _ _ ↦ True)
      (⟨.empty, []⟩ : Shared CreditsDb (Raised LineageErrorClass) CreditsAnswer) :=
    ⟨invariant_empty, List.forall_mem_nil _⟩
  obtain ⟨-, hkept⟩ := kept_of_run hsound hstart hrun
  refine ⟨hkept.store.inOrder, hkept.store.validateExisting, fun event w' hstep ↦ ?_,
    fun more w' hmore ↦ frozen_of_commits (kept_of_run hsound hkept hmore).1⟩
  rcases (Relation.reflGen_iff _ _ _).mp (kept_step hsound hkept hstep).1 with hsame | hcommit
  · exact .of_eq (by rw [hsame])
  · exact hcommit.confirms

/-! ### A run -/

def sampleProfile : Profile where
  profileId := newId "prf" (uuidEnding 0)
  primaryArtistId := newId "art" (uuidEnding 1)
  songs := [⟨newId "song" (uuidEnding 2), newId "art" (uuidEnding 1), "Dawn", none, none⟩]
  people := [⟨newId "person" (uuidEnding 3), newId "art" (uuidEnding 1)⟩]
  versions := []
  songs_created := List.forall_mem_singleton.mpr ⟨⟨_, rfl⟩, rfl⟩
  people_created := List.forall_mem_singleton.mpr ⟨⟨_, rfl⟩, rfl⟩
  versions_created := List.forall_mem_nil _
  version_ids := List.nodup_nil

def sampleSheet : String := newId "split" (uuidEnding 4)

/-- Two connections submit a sheet at the same time, after its shares were set. -/
def splitEvents : List (SharedEvent CreditsOperation (Raised LineageErrorClass)) :=
  [.start (.createSplitDraft (uuidEnding 4) (newId "song" (uuidEnding 2))), .advance 0,
    .start (.setDraftAllocations sampleSheet
      [⟨newId "person" (uuidEnding 3), 10000, uuidEnding 5⟩]), .advance 1, .advance 1,
    .start (.submitSplit sampleSheet), .start (.submitSplit sampleSheet), .advance 2, .advance 3,
    .advance 2, .advance 3, .advance 3, .advance 2]

/-- The sheet of the run is open, its shares are the whole, and the store can be opened. -/
theorem sample_splits : ∃ w,
    runEvents (stepShared (creditsProgram sampleProfile)) ⟨.empty, []⟩ splitEvents = some w ∧
    (w.store.HasSheet sampleSheet .openConfirmation ∧ w.store.totalOf sampleSheet = 10000) ∧
    SplitsInOrder sampleProfile w.store ∧ w.store.validateExisting sampleProfile = .ok ⟨⟩ := by
  have hopen : (runEvents (stepShared (creditsProgram sampleProfile)) ⟨.empty, []⟩ splitEvents).map
      (fun w ↦ decide (w.store.HasSheet sampleSheet .openConfirmation ∧
        w.store.totalOf sampleSheet = 10000)) = some true := by
    decide +kernel
  obtain ⟨w, hrun, hsheet⟩ := Option.map_eq_some_iff.mp hopen
  obtain ⟨horder, hopens, -, -⟩ := splits_conserved hrun
  exact ⟨w, hrun, of_decide_eq_true hsheet, horder, hopens⟩

end N0te.Credits
