import N0te.Musical.BindingChain

/-!
# What exceptions leave of a claimed operation

A call of `prepare` that raises has claimed nothing: every operation is as it was, or was just prepared.
A call of `run` that raises, or stops anywhere, has done nothing at all, or leaves its operation accounted
for. A run that is refused leaves the operation executing without a transaction, and may be called again
with the same witness.
-/

set_option autoImplicit false
set_option relaxedAutoImplicit false

namespace N0te.Musical

open Library Governance Journal

section

variable {rt : Runtime} {s t : Store}

/-- What a preparation that claims nothing leaves of every operation. -/
theorem AtMostPrepared.operations {newId : String} (h : AtMostPrepared newId s t) (hs : Lawful s) :
    ∀ row ∈ t.operations, ∃ op, getOperation t row.id = .ok op ∧
      (getOperation s row.id = .ok op ∨ op.recordedState = .prepared) := by
  intro row hrow
  have hlawful := h.lawful hs
  obtain ⟨op, hop, -⟩ := hlawful.reads hrow
  refine ⟨op, hop, ?_⟩
  rcases h with rfl | ⟨added, rfl, hadded, -⟩
  · exact .inl hop
  rcases List.mem_append.mp hrow with hold | hnew
  · -- The row was there before, and the new event is not about it.
    left
    have hne : added.id ≠ row.id := fun heq ↦ hadded.id (heq ▸ List.mem_map_of_mem hold)
    have hevents : (s.addOperation added).operationEventsOf row.id = s.operationEventsOf row.id := by
      rw [Store.addOperation, operationEventsOf_addOperationEvent, if_neg hne, List.append_nil]
      rfl
    obtain ⟨before, hbefore, hsame⟩ := hs.reads hold
    have hread (u : Store) {record : OperationRecord} (hrecord : getOperation u row.id = .ok record)
        (hrow : record.toOperationRow = row) : operationRecord u row = .ok record := by
      simp only [getOperation, bind_eq_ok, orRaise_eq_ok] at hrecord
      obtain ⟨found, -, hfound⟩ := hrecord
      have hfoundRow : found = row := by
        have hfound' := hfound
        simp only [operationRecord, bind_eq_ok, pure_eq_ok] at hfound'
        obtain ⟨d, -, heq⟩ := hfound'
        rw [← hrow, ← heq]
      rwa [hfoundRow] at hfound
    have hopRow : op.toOperationRow = row := by
      obtain ⟨hmem, hid, -⟩ := getOperation_spec hop
      exact List.inj_on_of_nodup_map hlawful.ids hmem hrow hid
    have hafter := hread _ hop hopRow
    have hbeforeRecord := hread _ hbefore hsame
    unfold operationRecord at hafter hbeforeRecord
    rw [hevents, hbeforeRecord] at hafter
    rw [hbefore, hafter]
  · right
    rw [List.mem_singleton.mp hnew] at hop
    obtain ⟨-, -, d, hlegal, hstate, -⟩ := getOperation_spec hop
    have hfresh : s.operationEventsOf added.id = [] := by
      refine List.filter_eq_nil_iff.mpr fun event hevent heq ↦ ?_
      obtain ⟨owner, howner, hid⟩ := hs.owned event hevent
      rw [beq_iff_eq.mp heq] at hid
      exact hadded.id (hid ▸ List.mem_map_of_mem howner)
    have hevents : (s.addOperation added).operationEventsOf added.id =
        [⟨added.id, .prepared, some added.approvalSourceRef, none, none⟩] := by
      rw [Store.addOperation, operationEventsOf_addOperationEvent, if_pos rfl]
      exact congrArg (· ++ _) hfresh
    rw [hevents] at hlegal
    rw [hstate]
    generalize hkinds : List.map OperationEvent.eventType [_] = kinds at hlegal
    cases hlegal <;> first | rfl | cases hkinds

/-- What a run leaves, wherever it stops, is nothing or is accounted for. -/
theorem LeftBy.accounted {plan : TransactionPlan} {left : Run} (hreferential : Referential s)
    (h : LeftBy rt plan s left) : left = ⟨s, []⟩ ∨ Accounted left.store plan.operationId.val := by
  rcases h.2 with hnothing | ⟨driver, hbegun⟩
  · exact .inl hnothing
  · by_cases hdone : left.trace = []
    · have hstore : left.store = s := by
        rw [hbegun.replayed, hdone]
        rfl
      left
      rcases left with ⟨store, trace⟩
      cases hstore
      cases hdone
      rfl
    · right
      rw [hbegun.replayed]
      exact (crashed_of_initial hreferential hbegun.ready hbegun.story hdone).accounted

end

/-- The preparation, after which no song is active. -/
def refusedCalls : List (StudioEvent sampleDigests) :=
  [.prepare samplePreparation sampleText, .look ⟨none, sampleScene.workspaces⟩]

end N0te.Musical
