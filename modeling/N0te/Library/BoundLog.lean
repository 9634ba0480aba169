import Mathlib.Data.List.Nodup
import Mathlib.Data.Nat.Notation

/-!
# Bound appends

A log grows at its end. Its entries belong to keys and have ids of their own, and an append is bound
to the entry that was the latest of its key when the append was prepared. `Superseded` says that the
log has gone on since: then it never comes back (`Superseded.append`), so of two appends bound to
one entry the second is never made.
-/

set_option autoImplicit false
set_option relaxedAutoImplicit false

namespace N0te.Library

variable {ρ κ ι : Type} [DecidableEq κ]

/-- The latest entry of a key. -/
def latest (key : ρ → κ) (log : List ρ) (k : κ) : Option ρ :=
  (log.filter fun entry ↦ key entry = k).getLast?

/-- The latest entry of a key was another one before: the log has gone on. -/
structure Superseded (key : ρ → κ) (id : ρ → ι) (log : List ρ) (k : κ) (expected : Option ι) :
    Prop where
  /-- The latest entry is not the expected one. -/
  moved : (latest key log k).map id ≠ expected
  known : ∀ i ∈ expected, i ∈ log.map id

section

variable {key : ρ → κ} {id : ρ → ι} {log : List ρ} {entry : ρ} {k : κ} {expected : Option ι}

theorem latest_mem (h : latest key log k = some entry) : entry ∈ log ∧ key entry = k := by
  obtain ⟨hmem, hkey⟩ := List.mem_filter.mp (List.mem_of_getLast? h)
  exact ⟨hmem, of_decide_eq_true hkey⟩

theorem latest_append_self (h : key entry = k) : latest key (log ++ [entry]) k = some entry := by
  have hfilter : [entry].filter (fun entry ↦ key entry = k) = [entry] := by
    rw [List.filter_cons_of_pos (by simpa using h), List.filter_nil]
  rw [latest, List.filter_append, hfilter, List.getLast?_concat]

theorem latest_append_of_ne (h : key entry ≠ k) : latest key (log ++ [entry]) k = latest key log k := by
  have hfilter : [entry].filter (fun entry ↦ key entry = k) = [] := by
    rw [List.filter_cons_of_neg (by simpa using h), List.filter_nil]
  rw [latest, List.filter_append, hfilter, List.append_nil, latest]

/-- No entry of a key is the latest exactly if none belongs to it. -/
theorem latest_eq_none : latest key log k = none ↔ ∀ entry ∈ log, key entry ≠ k := by
  rw [latest, List.getLast?_eq_none_iff, List.filter_eq_nil_iff]
  simp only [decide_eq_true_eq, ne_eq]

/-- Of entries with distinct ids the latest is the one with its id. -/
theorem latest_eq_of_id (hids : (log.map id).Nodup) (hentry : entry ∈ log)
    (h : (latest key log k).map id = some (id entry)) : latest key log k = some entry := by
  obtain ⟨found, hfound, hid⟩ := Option.map_eq_some_iff.mp h
  rw [hfound, List.inj_on_of_nodup_map hids (latest_mem hfound).1 hentry hid]

/-- An append bound to the latest entry leaves that entry behind. -/
theorem superseded_append (hlatest : (latest key log k).map id = expected) (hkey : key entry = k)
    (hfresh : id entry ∉ log.map id) : Superseded key id (log ++ [entry]) k expected := by
  have hknown : ∀ i ∈ expected, i ∈ log.map id := by
    intro i hi
    obtain ⟨found, hfound, rfl⟩ := Option.map_eq_some_iff.mp (hlatest.trans hi)
    exact List.mem_map_of_mem (latest_mem hfound).1
  refine ⟨fun heq ↦ ?_, fun i hi ↦ ?_⟩
  · rw [latest_append_self hkey, Option.map_some] at heq
    exact hfresh (hknown _ heq.symm)
  · rw [List.map_append]
    exact List.mem_append_left _ (hknown i hi)

/-- What the log has left behind it never comes back to. -/
theorem Superseded.append (h : Superseded key id log k expected) (hfresh : id entry ∉ log.map id) :
    Superseded key id (log ++ [entry]) k expected := by
  refine ⟨fun heq ↦ ?_, fun i hi ↦ ?_⟩
  · by_cases hkey : key entry = k
    · rw [latest_append_self hkey, Option.map_some] at heq
      exact hfresh (h.known _ heq.symm)
    · rw [latest_append_of_ne hkey] at heq
      exact h.moved heq
  · rw [List.map_append]
    exact List.mem_append_left _ (h.known i hi)

/-- Ids that are distinct stay so when a new one is appended. -/
theorem nodup_map_append (hids : (log.map id).Nodup) (hfresh : id entry ∉ log.map id) :
    ((log ++ [entry]).map id).Nodup := by
  rw [List.map_append, List.map_singleton, List.nodup_append]
  refine ⟨hids, List.nodup_singleton _, ?_⟩
  rintro i hi other hother rfl
  rw [List.mem_singleton.mp hother] at hi
  exact hfresh hi

end

end N0te.Library
