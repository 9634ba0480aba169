import Mathlib.Algebra.Order.Field.Rat
import Mathlib.Algebra.Order.Ring.Abs
import Mathlib.Data.List.Sort
import Mathlib.Logic.Relation
import Mathlib.Tactic.NormNum

/-!
# Candidates for timing events

`candidateWindows` finds the windows of an energy envelope where the energy rises: the local maxima
of the positive change that reach a threshold, thinned out so that no two are close. The envelope is
of exact rationals.

Thinning goes from left to right and lets a stronger maximum take the place of the last one. So a
maximum that is left out is tied to a candidate by a chain of maxima, each close to the one before
and no weaker (`candidates_of_envelope`). The candidate itself may be far away
(`candidate_out_of_reach`).
-/

set_option autoImplicit false
set_option relaxedAutoImplicit false

namespace N0te.Audio

/-! ### Changes and the threshold -/

/-- The positive changes from each window to the next. -/
def deltas : List ℚ → List ℚ
  | prior :: value :: rest => max 0 (value - prior) :: deltas (value :: rest)
  | _ => []

/-- `statistics.median`. -/
def median (values : List ℚ) : ℚ :=
  let sorted := values.insertionSort (· ≤ ·)
  let half := values.length / 2
  if values.length % 2 = 1 then sorted.getD half 0
  else (sorted.getD (half - 1) 0 + sorted.getD half 0) / 2

/-- `max(values, default=0.0)`. -/
def maxDelta (values : List ℚ) : ℚ := (values.max?).getD 0

/-- `_ABSOLUTE_RMS_CHANGE_FLOOR`. -/
def absoluteRmsChangeFloor : ℚ := 2 / 1000

/-- The part of the threshold that goes with the changes. -/
def relativeThreshold (values : List ℚ) : ℚ :=
  let center := median values
  let spread := median (values.map fun value ↦ |value - center|)
  max (center + 6 * spread) (maxDelta values * (1 / 5))

/-- The threshold for some changes. -/
def threshold (values : List ℚ) : ℚ := max absoluteRmsChangeFloor (relativeThreshold values)

/-! ### Local maxima -/

/-- A window, and the change on entering it. -/
abbrev Peak : Type := ℕ × ℚ

/-- The local maxima among some changes that reach a threshold, after a change and from an offset
on. Outside of the list the change counts as -1. -/
def localPeaks (least : ℚ) : ℕ → ℚ → List ℚ → List Peak
  | _, _, [] => []
  | offset, prior, value :: rest =>
    let following := rest.head?.getD (-1)
    let later := localPeaks least (offset + 1) value rest
    if value < least ∨ value < prior ∨ value < following then later
    else (offset + 1, value) :: later

/-- The local maxima of an envelope that reach the threshold. -/
def peaksOf (envelope : List ℚ) : List Peak :=
  localPeaks (threshold (deltas envelope)) 0 (-1) (deltas envelope)

/-! ### Thinning -/

/-- `minimum_windows`. -/
def minimumWindows (windowSeconds : ℚ) : ℕ := max 1 ((1 / 20 / windowSeconds).ceil.toNat)

/-- The loop over the local maxima, with the last selected one. -/
def selectFrom (minimum : ℕ) : Peak → List Peak → List Peak
  | last, [] => [last]
  | last, peak :: rest =>
    if last.1 + minimum ≤ peak.1 then last :: selectFrom minimum peak rest
    else if last.2 < peak.2 then selectFrom minimum peak rest
    else selectFrom minimum last rest

/-- The selected local maxima. -/
def select (minimum : ℕ) : List Peak → List Peak
  | [] => []
  | peak :: rest => selectFrom minimum peak rest

/-- `_candidate_windows`, with the strengths of the candidates. -/
def candidates (envelope : List ℚ) (windowSeconds : ℚ) : List Peak :=
  if envelope.length < 2 then []
  else if maxDelta (deltas envelope) ≤ 0 then []
  else select (minimumWindows windowSeconds) (peaksOf envelope)

/-- `_candidate_windows`. -/
def candidateWindows (envelope : List ℚ) (windowSeconds : ℚ) : List ℕ :=
  (candidates envelope windowSeconds).map Prod.fst

/-! ### The local maxima of an envelope -/

/-- The change on entering a window. -/
def changeAt (envelope : List ℚ) (window : ℕ) : Option ℚ :=
  if window = 0 then none else (deltas envelope)[window - 1]?

/-- A local maximum of the positive change that reaches the threshold. -/
structure IsPeak (envelope : List ℚ) (peak : Peak) : Prop where
  change : changeAt envelope peak.1 = some peak.2
  above : threshold (deltas envelope) ≤ peak.2
  prior : ∀ value ∈ changeAt envelope (peak.1 - 1), value ≤ peak.2
  following : ∀ value ∈ changeAt envelope (peak.1 + 1), value ≤ peak.2

theorem length_deltas (envelope : List ℚ) : (deltas envelope).length = envelope.length - 1 := by
  induction envelope with
  | nil => rfl
  | cons first rest ih =>
    cases rest with
    | nil => rfl
    | cons second rest => simpa [deltas] using ih

/-- A window with a change is in the envelope. -/
theorem IsPeak.window_lt {envelope : List ℚ} {peak : Peak} (h : IsPeak envelope peak) :
    0 < peak.1 ∧ peak.1 < envelope.length := by
  have hchange := h.change
  unfold changeAt at hchange
  split_ifs at hchange with hzero
  have hlt := (List.getElem?_eq_some_iff.mp hchange).1
  rw [length_deltas] at hlt
  omega

section

variable {least prior : ℚ} {offset : ℕ} {values : List ℚ} {peak : Peak}

/-- What the loop over the changes finds. -/
theorem mem_localPeaks (hleast : -1 ≤ least) : peak ∈ localPeaks least offset prior values ↔
    ∃ place, peak.1 = offset + place + 1 ∧ values[place]? = some peak.2 ∧ least ≤ peak.2 ∧
      (∀ value ∈ (prior :: values)[place]?, value ≤ peak.2) ∧
      ∀ value ∈ values[place + 1]?, value ≤ peak.2 := by
  induction values generalizing offset prior with
  | nil => simp [localPeaks]
  | cons first rest ih =>
    have hlater : (∃ place, peak.1 = offset + 1 + place + 1 ∧ rest[place]? = some peak.2 ∧
        least ≤ peak.2 ∧ (∀ value ∈ (first :: rest)[place]?, value ≤ peak.2) ∧
          ∀ value ∈ rest[place + 1]?, value ≤ peak.2) ↔
        ∃ place, peak.1 = offset + (place + 1) + 1 ∧ (first :: rest)[place + 1]? = some peak.2 ∧
          least ≤ peak.2 ∧ (∀ value ∈ (prior :: first :: rest)[place + 1]?, value ≤ peak.2) ∧
            ∀ value ∈ (first :: rest)[place + 1 + 1]?, value ≤ peak.2 := by
      refine exists_congr fun place ↦ ?_
      simp only [List.getElem?_cons_succ]
      rw [show offset + 1 + place + 1 = offset + (place + 1) + 1 by omega]
    have hsplit (P : ℕ → Prop) : (∃ place, P place) ↔ P 0 ∨ ∃ place, P (place + 1) :=
      ⟨fun ⟨place, h⟩ ↦ by cases place with
        | zero => exact .inl h
        | succ place => exact .inr ⟨place, h⟩,
      fun h ↦ h.elim (⟨0, ·⟩) fun ⟨place, h⟩ ↦ ⟨place + 1, h⟩⟩
    have hfollowing : first < rest.head?.getD (-1) ∧ least ≤ first ↔
        ¬(∀ value ∈ rest[0]?, value ≤ first) ∧ least ≤ first := by
      refine and_congr_left fun hfirst ↦ ?_
      cases rest with
      | nil => simpa using hleast.trans hfirst
      | cons second rest => simp
    rw [hsplit, ← hlater, ← ih]
    simp only [localPeaks]
    split_ifs with hout
    · refine ⟨.inr, fun h ↦ h.resolve_left ?_⟩
      rintro ⟨hwindow, hvalue, habove, hprior, hafter⟩
      simp only [List.getElem?_cons_zero, Option.some.injEq] at hvalue
      simp only [List.getElem?_cons_zero, Option.mem_some_iff, forall_eq'] at hprior
      subst hvalue
      rcases hout with h | h | h
      · exact absurd habove (not_le.mpr h)
      · exact absurd hprior (not_le.mpr h)
      · exact (hfollowing.mp ⟨h, habove⟩).1 hafter
    · push Not at hout
      obtain ⟨habove, hprior, hafter⟩ := hout
      rw [List.mem_cons]
      refine or_congr_left ⟨?_, ?_⟩
      · rintro rfl
        refine ⟨rfl, rfl, habove, ?_, ?_⟩
        · simpa using hprior
        · by_contra hexceeds
          exact absurd (hfollowing.mpr ⟨hexceeds, habove⟩).1 (not_lt.mpr hafter)
      · rintro ⟨hwindow, hvalue, -⟩
        exact Prod.ext hwindow (Option.some.inj hvalue).symm

theorem lt_of_mem_localPeaks (h : peak ∈ localPeaks least offset prior values) :
    offset < peak.1 := by
  induction values generalizing offset prior with
  | nil => cases h
  | cons first rest ih =>
    simp only [localPeaks] at h
    split_ifs at h
    · exact (Nat.lt_succ_self offset).trans (ih h)
    · rcases List.mem_cons.mp h with rfl | h
      · exact Nat.lt_succ_self offset
      · exact (Nat.lt_succ_self offset).trans (ih h)

/-- The local maxima come from left to right. -/
theorem pairwise_localPeaks (least : ℚ) (offset : ℕ) (prior : ℚ) (values : List ℚ) :
    (localPeaks least offset prior values).Pairwise fun a b ↦ a.1 < b.1 := by
  induction values generalizing offset prior with
  | nil => exact List.Pairwise.nil
  | cons first rest ih =>
    simp only [localPeaks]
    split_ifs
    · exact ih _ _
    · exact List.pairwise_cons.mpr ⟨fun peak hpeak ↦ lt_of_mem_localPeaks hpeak, ih _ _⟩

end

/-- The threshold is positive. -/
theorem threshold_pos (values : List ℚ) : 0 < threshold values :=
  lt_max_of_lt_left (by norm_num [absoluteRmsChangeFloor])

theorem mem_peaksOf {envelope : List ℚ} {peak : Peak} :
    peak ∈ peaksOf envelope ↔ IsPeak envelope peak := by
  have hleast : -1 ≤ threshold (deltas envelope) :=
    (neg_nonpos.mpr zero_le_one).trans (threshold_pos _).le
  rw [peaksOf, mem_localPeaks hleast]
  constructor
  · rintro ⟨place, hwindow, hvalue, habove, hprior, hafter⟩
    have hwindow' : peak.1 = place + 1 := by omega
    refine ⟨by simpa [changeAt, hwindow'] using hvalue, habove, ?_, ?_⟩
    · cases place with
      | zero => simp [changeAt, hwindow']
      | succ place => simpa [changeAt, hwindow'] using hprior
    · simpa [changeAt, hwindow'] using hafter
  · rintro ⟨hchange, habove, hprior, hafter⟩
    obtain ⟨place, hplace⟩ : ∃ place, peak.1 = place + 1 := by
      cases hwindow : peak.1 with
      | zero => simp [changeAt, hwindow] at hchange
      | succ place => exact ⟨place, rfl⟩
    refine ⟨place, by omega, by simpa [changeAt, hplace] using hchange, habove, ?_, ?_⟩
    · cases place with
      | zero => simpa using hleast.trans habove
      | succ place => simpa [changeAt, hplace] using hprior
    · simpa [changeAt, hplace] using hafter

/-! ### What thinning leaves out -/

section

variable {minimum : ℕ} {last : Peak} {peaks : List Peak}

theorem selectFrom_subset {peak : Peak} (h : peak ∈ selectFrom minimum last peaks) :
    peak ∈ last :: peaks := by
  induction peaks generalizing last with
  | nil => exact h
  | cons next rest ih =>
    unfold selectFrom at h
    split_ifs at h
    · rcases List.mem_cons.mp h with rfl | h
      · exact List.mem_cons_self
      · exact List.mem_cons_of_mem _ (ih h)
    · exact List.mem_cons_of_mem _ (ih h)
    · rcases List.mem_cons.mp (ih h) with rfl | h
      · exact List.mem_cons_self
      · exact List.mem_cons_of_mem _ (List.mem_cons_of_mem _ h)

/-- The selected maxima keep their distance. -/
theorem pairwise_selectFrom (h : (last :: peaks).Pairwise fun a b ↦ a.1 < b.1) :
    (selectFrom minimum last peaks).Pairwise fun a b ↦ a.1 + minimum ≤ b.1 := by
  induction peaks generalizing last with
  | nil => exact List.pairwise_singleton _ _
  | cons next rest ih =>
    obtain ⟨hlast, hrest⟩ := List.pairwise_cons.mp h
    unfold selectFrom
    split_ifs with hfar
    · refine List.pairwise_cons.mpr ⟨fun peak hpeak ↦ ?_, ih hrest⟩
      rcases List.mem_cons.mp (selectFrom_subset hpeak) with rfl | hpeak
      · exact hfar
      · exact hfar.trans ((List.pairwise_cons.mp hrest).1 peak hpeak).le
    · exact ih hrest
    · exact ih (h.sublist ((List.sublist_cons_self next rest).cons_cons last))

/-- A maximum is close to another, and no stronger. -/
def Yields (peaks : List Peak) (minimum : ℕ) (a b : Peak) : Prop :=
  b ∈ peaks ∧ a.1 < b.1 + minimum ∧ b.1 < a.1 + minimum ∧ a.2 ≤ b.2

theorem Yields.mono {others : List Peak} (hsubset : peaks ⊆ others) {a b : Peak}
    (h : Relation.ReflTransGen (Yields peaks minimum) a b) :
    Relation.ReflTransGen (Yields others minimum) a b := by
  have hle : Yields peaks minimum ≤ Yields others minimum :=
    fun _ _ hyields ↦ ⟨hsubset hyields.1, hyields.2⟩
  exact Relation.ReflTransGen.mono hle _ _ h

/-- From every maximum there is a chain to a selected one. -/
theorem exists_selected (h : (last :: peaks).Pairwise fun a b ↦ a.1 < b.1) {peak : Peak}
    (hpeak : peak ∈ last :: peaks) : ∃ selected ∈ selectFrom minimum last peaks,
      Relation.ReflTransGen (Yields (last :: peaks) minimum) peak selected := by
  induction peaks generalizing last peak with
  | nil =>
    obtain rfl := List.mem_singleton.mp hpeak
    exact ⟨peak, List.mem_cons_self, .refl⟩
  | cons next rest ih =>
    obtain ⟨hlast, hrest⟩ := List.pairwise_cons.mp h
    have hnext : last.1 < next.1 := hlast next List.mem_cons_self
    unfold selectFrom
    split_ifs with hfar hstronger
    · rcases List.mem_cons.mp hpeak with rfl | hpeak
      · exact ⟨peak, List.mem_cons_self, .refl⟩
      · obtain ⟨selected, hselected, hchain⟩ := ih hrest hpeak
        exact ⟨selected, List.mem_cons_of_mem _ hselected,
          Yields.mono (List.subset_cons_self _ _) hchain⟩
    · rcases List.mem_cons.mp hpeak with rfl | hpeak
      · obtain ⟨selected, hselected, hchain⟩ := ih hrest List.mem_cons_self
        refine ⟨selected, hselected, .head ⟨List.mem_cons_of_mem _ List.mem_cons_self, ?_, ?_,
          hstronger.le⟩ (Yields.mono (List.subset_cons_self _ _) hchain)⟩ <;> omega
      · obtain ⟨selected, hselected, hchain⟩ := ih hrest hpeak
        exact ⟨selected, hselected, Yields.mono (List.subset_cons_self _ _) hchain⟩
    · have hsub : (last :: rest).Sublist (last :: next :: rest) :=
        (List.sublist_cons_self next rest).cons_cons last
      rcases List.mem_cons.mp hpeak with rfl | hpeak
      · obtain ⟨selected, hselected, hchain⟩ := ih (h.sublist hsub) List.mem_cons_self
        exact ⟨selected, hselected, Yields.mono hsub.subset hchain⟩
      · rcases List.mem_cons.mp hpeak with rfl | hpeak
        · obtain ⟨selected, hselected, hchain⟩ := ih (h.sublist hsub) List.mem_cons_self
          refine ⟨selected, hselected, .head ⟨List.mem_cons_self, ?_, ?_, not_lt.mp hstronger⟩
            (Yields.mono hsub.subset hchain)⟩ <;> omega
        · obtain ⟨selected, hselected, hchain⟩ :=
            ih (h.sublist hsub) (List.mem_cons_of_mem _ hpeak)
          exact ⟨selected, hselected, Yields.mono hsub.subset hchain⟩

end

/-! ### Scaling -/

section

variable {k : ℚ} {envelope values : List ℚ}

theorem deltas_scale (hk : 0 < k) :
    deltas (envelope.map (k * ·)) = (deltas envelope).map (k * ·) := by
  induction envelope with
  | nil => rfl
  | cons first rest ih =>
    cases rest with
    | nil => rfl
    | cons second rest =>
      simp only [List.map_cons, deltas] at ih ⊢
      rw [ih, ← mul_sub, mul_max_of_nonneg _ _ hk.le, mul_zero]

theorem median_scale (hk : 0 < k) : median (values.map (k * ·)) = k * median values := by
  have hsorted : (values.map (k * ·)).insertionSort (· ≤ ·) =
      (values.insertionSort (· ≤ ·)).map (k * ·) :=
    (List.map_insertionSort (· ≤ ·) (· ≤ ·) (k * ·) values fun a _ b _ ↦
      (mul_le_mul_iff_right₀ hk).symm).symm
  have hget (place : ℕ) : ((values.insertionSort (· ≤ ·)).map (k * ·)).getD place 0 =
      k * (values.insertionSort (· ≤ ·)).getD place 0 := by
    rw [List.getD_eq_getElem?_getD, List.getD_eq_getElem?_getD, List.getElem?_map]
    cases (values.insertionSort (· ≤ ·))[place]? with
    | none => exact (mul_zero k).symm
    | some value => rfl
  simp only [median, List.length_map, hsorted, hget]
  split_ifs
  · rfl
  · rw [← mul_add, mul_div_assoc]

theorem maxDelta_scale (hk : 0 < k) : maxDelta (values.map (k * ·)) = k * maxDelta values := by
  have hfold (first : ℚ) (rest : List ℚ) :
      (rest.map (k * ·)).foldl max (k * first) = k * rest.foldl max first := by
    induction rest generalizing first with
    | nil => rfl
    | cons second rest ih =>
      rw [List.map_cons, List.foldl_cons, List.foldl_cons, ← mul_max_of_nonneg _ _ hk.le, ih]
  cases values with
  | nil => exact (mul_zero k).symm
  | cons first rest => exact hfold first rest

theorem relativeThreshold_scale (hk : 0 < k) :
    relativeThreshold (values.map (k * ·)) = k * relativeThreshold values := by
  have hspread : ((values.map (k * ·)).map fun value ↦ |value - k * median values|) =
      (values.map fun value ↦ |value - median values|).map (k * ·) := by
    rw [List.map_map, List.map_map]
    refine List.map_congr_left fun value _ ↦ ?_
    show |k * value - k * median values| = k * |value - median values|
    rw [← mul_sub, abs_mul, abs_of_pos hk]
  simp only [relativeThreshold, median_scale hk, hspread, maxDelta_scale hk]
  rw [mul_max_of_nonneg _ _ hk.le, mul_add, mul_assoc, mul_left_comm 6 k]

/-- A peak of the scaled envelope. -/
def scalePeak (k : ℚ) (peak : Peak) : Peak := (peak.1, k * peak.2)

theorem changeAt_scale (hk : 0 < k) (window : ℕ) :
    changeAt (envelope.map (k * ·)) window = (changeAt envelope window).map (k * ·) := by
  unfold changeAt
  split_ifs
  · rfl
  · rw [deltas_scale hk, List.getElem?_map]

/-- The peaks of a scaled envelope, where the floor plays no part. -/
theorem isPeak_scale (hk : 0 < k)
    (hthreshold : threshold (deltas (envelope.map (k * ·))) = k * threshold (deltas envelope))
    {peak : Peak} : IsPeak (envelope.map (k * ·)) peak ↔
      ∃ source, IsPeak envelope source ∧ scalePeak k source = peak := by
  constructor
  · rintro ⟨hchange, habove, hprior, hfollowing⟩
    rw [changeAt_scale hk, Option.map_eq_some_iff] at hchange
    obtain ⟨value, hvalue, hpeak⟩ := hchange
    simp only [changeAt_scale hk, ← hpeak, Option.mem_def, Option.map_eq_some_iff,
      forall_exists_index, and_imp, forall_apply_eq_imp_iff₂, mul_le_mul_iff_right₀ hk]
      at hprior hfollowing
    rw [hthreshold, ← hpeak, mul_le_mul_iff_right₀ hk] at habove
    exact ⟨(peak.1, value), ⟨hvalue, habove, hprior, hfollowing⟩, Prod.ext rfl hpeak⟩
  · rintro ⟨source, ⟨hchange, habove, hprior, hfollowing⟩, rfl⟩
    refine ⟨?_, ?_, ?_, ?_⟩
    · rw [changeAt_scale hk, scalePeak, hchange]
      rfl
    · rw [hthreshold]
      exact (mul_le_mul_iff_right₀ hk).mpr habove
    · intro value hvalue
      rw [changeAt_scale hk] at hvalue
      obtain ⟨before, hbefore, rfl⟩ := Option.map_eq_some_iff.mp hvalue
      exact (mul_le_mul_iff_right₀ hk).mpr (hprior before hbefore)
    · intro value hvalue
      rw [changeAt_scale hk] at hvalue
      obtain ⟨after, hafter, rfl⟩ := Option.map_eq_some_iff.mp hvalue
      exact (mul_le_mul_iff_right₀ hk).mpr (hfollowing after hafter)

theorem peaksOf_scale (hk : 0 < k)
    (hthreshold : threshold (deltas (envelope.map (k * ·))) = k * threshold (deltas envelope)) :
    peaksOf (envelope.map (k * ·)) = (peaksOf envelope).map (scalePeak k) := by
  have hirrefl : Std.Irrefl fun a b : Peak ↦ a.1 < b.1 := ⟨fun a ↦ lt_irrefl a.1⟩
  have hasymm : Std.Antisymm fun a b : Peak ↦ a.1 < b.1 :=
    ⟨fun a b hab hba ↦ absurd hab (lt_asymm hba)⟩
  refine List.Pairwise.eq_of_mem_iff (r := fun a b : Peak ↦ a.1 < b.1) (pairwise_localPeaks _ _ _ _)
    (List.pairwise_map.mpr (pairwise_localPeaks _ _ _ _)) fun peak ↦ ?_
  rw [mem_peaksOf, isPeak_scale hk hthreshold, List.mem_map]
  exact exists_congr fun source ↦ and_congr_left fun _ ↦ mem_peaksOf.symm

theorem selectFrom_scale (hk : 0 < k) (minimum : ℕ) (last : Peak) (peaks : List Peak) :
    selectFrom minimum (scalePeak k last) (peaks.map (scalePeak k)) =
      (selectFrom minimum last peaks).map (scalePeak k) := by
  induction peaks generalizing last with
  | nil => rfl
  | cons next rest ih =>
    have hstronger : (scalePeak k last).2 < (scalePeak k next).2 ↔ last.2 < next.2 :=
      mul_lt_mul_iff_right₀ hk
    rw [List.map_cons, selectFrom, selectFrom]
    simp only [hstronger, ih]
    show (if last.1 + minimum ≤ next.1 then _ else _) = _
    split_ifs <;> rfl

/-- Scaling an envelope changes no candidate, where the floor plays no part. -/
theorem candidateWindows_scale (hk : 0 < k)
    (hfloor : absoluteRmsChangeFloor ≤ relativeThreshold (deltas envelope))
    (hscaled : absoluteRmsChangeFloor ≤ k * relativeThreshold (deltas envelope))
    (windowSeconds : ℚ) : candidateWindows (envelope.map (k * ·)) windowSeconds =
      candidateWindows envelope windowSeconds := by
  have hthreshold :
      threshold (deltas (envelope.map (k * ·))) = k * threshold (deltas envelope) := by
    rw [threshold, threshold, deltas_scale hk, relativeThreshold_scale hk, max_eq_right hscaled,
      max_eq_right hfloor]
  have hnothing :
      maxDelta (deltas (envelope.map (k * ·))) ≤ 0 ↔ maxDelta (deltas envelope) ≤ 0 := by
    rw [deltas_scale hk, maxDelta_scale hk]
    exact ⟨fun h ↦ not_lt.mp fun hpos ↦ absurd h (not_le.mpr (mul_pos hk hpos)),
      mul_nonpos_of_nonneg_of_nonpos hk.le⟩
  unfold candidateWindows candidates
  rw [List.length_map, peaksOf_scale hk hthreshold]
  simp only [hnothing]
  split_ifs
  · rfl
  · rfl
  · cases peaksOf envelope with
    | nil => rfl
    | cons first rest =>
      rw [List.map_cons, select, select, selectFrom_scale hk, List.map_map]
      rfl

end

/-! ### The candidates of an envelope -/

/-- A chain of local maxima, each within the minimum separation of the one before and no weaker. -/
abbrev LeadsTo (envelope : List ℚ) (minimum : ℕ) : Peak → Peak → Prop :=
  Relation.ReflTransGen fun a b ↦
    IsPeak envelope b ∧ a.1 < b.1 + minimum ∧ b.1 < a.1 + minimum ∧ a.2 ≤ b.2

theorem LeadsTo.le {envelope : List ℚ} {minimum : ℕ} {a b : Peak}
    (h : LeadsTo envelope minimum a b) : a.2 ≤ b.2 := by
  induction h with
  | refl => exact le_rfl
  | tail _ hstep ih => exact ih.trans hstep.2.2.2

section

variable {envelope : List ℚ} {windowSeconds : ℚ} {peak : Peak}

theorem le_maxDelta {values : List ℚ} {value : ℚ} (h : value ∈ values) :
    value ≤ maxDelta values := by
  unfold maxDelta
  cases hmax : values.max? with
  | none => exact absurd h (by rw [List.max?_eq_none_iff.mp hmax]; exact List.not_mem_nil)
  | some most => exact (List.max?_eq_some_iff.mp hmax).2 value h

/-- With a local maximum the search does not stop early. -/
theorem IsPeak.candidates_eq (h : IsPeak envelope peak) : candidates envelope windowSeconds =
    select (minimumWindows windowSeconds) (peaksOf envelope) := by
  have hchange : peak.2 ∈ deltas envelope := by
    have hchange := h.change
    unfold changeAt at hchange
    split_ifs at hchange
    exact List.mem_of_getElem? hchange
  have hpositive : 0 < maxDelta (deltas envelope) :=
    (threshold_pos _).trans_le (h.above.trans (le_maxDelta hchange))
  have hlong : ¬envelope.length < 2 := by
    have := h.window_lt
    omega
  rw [candidates, if_neg hlong, if_neg (not_le.mpr hpositive)]

/-- Every candidate is a local maximum. -/
theorem isPeak_of_mem_candidates (h : peak ∈ candidates envelope windowSeconds) :
    IsPeak envelope peak := by
  unfold candidates at h
  split_ifs at h
  · cases h
  · cases h
  · rw [← mem_peaksOf]
    unfold select at h
    split at h
    · cases h
    next heq => exact heq ▸ selectFrom_subset h

/-- The candidates are at least the minimum separation apart. -/
theorem pairwise_candidates : (candidates envelope windowSeconds).Pairwise fun a b ↦
    a.1 + minimumWindows windowSeconds ≤ b.1 := by
  have hpeaks : (peaksOf envelope).Pairwise fun a b ↦ a.1 < b.1 := pairwise_localPeaks _ _ _ _
  unfold candidates
  split_ifs
  · exact List.Pairwise.nil
  · exact List.Pairwise.nil
  · cases hlist : peaksOf envelope with
    | nil => exact List.Pairwise.nil
    | cons first rest => exact pairwise_selectFrom (hlist ▸ hpeaks)

variable (windowSeconds) in
/-- Every local maximum leads to a candidate. -/
theorem exists_candidate (h : IsPeak envelope peak) :
    ∃ candidate ∈ candidates envelope windowSeconds,
      LeadsTo envelope (minimumWindows windowSeconds) peak candidate := by
  have hpeaks : (peaksOf envelope).Pairwise fun a b ↦ a.1 < b.1 := pairwise_localPeaks _ _ _ _
  have hmem := mem_peaksOf.mpr h
  rw [h.candidates_eq]
  cases hlist : peaksOf envelope with
  | nil => exact absurd hmem (hlist ▸ List.not_mem_nil)
  | cons first rest =>
    rw [hlist] at hpeaks hmem
    obtain ⟨candidate, hcandidate, hchain⟩ :=
      exists_selected hpeaks hmem
    refine ⟨candidate, hcandidate, Relation.ReflTransGen.mono ?_ _ _ hchain⟩
    rintro a b ⟨hb, hclose⟩
    exact ⟨mem_peaksOf.mp (hlist ▸ hb), hclose⟩

end

theorem candidates_of_envelope (envelope : List ℚ) (windowSeconds : ℚ) :
    (candidateWindows envelope windowSeconds).Pairwise (fun a b ↦
      a < b ∧ a + minimumWindows windowSeconds ≤ b) ∧
    (∀ window ∈ candidateWindows envelope windowSeconds, window < envelope.length ∧
      ∃ strength, IsPeak envelope (window, strength)) ∧
    (∀ peak, IsPeak envelope peak → ∃ candidate,
      candidate.1 ∈ candidateWindows envelope windowSeconds ∧ IsPeak envelope candidate ∧
        LeadsTo envelope (minimumWindows windowSeconds) peak candidate ∧ peak.2 ≤ candidate.2) ∧
    ∀ k, 0 < k → absoluteRmsChangeFloor ≤ relativeThreshold (deltas envelope) →
      absoluteRmsChangeFloor ≤ k * relativeThreshold (deltas envelope) →
        candidateWindows (envelope.map (k * ·)) windowSeconds =
          candidateWindows envelope windowSeconds := by
  have hminimum : 0 < minimumWindows windowSeconds :=
    zero_lt_one.trans_le (le_max_left _ _)
  refine ⟨?_, ?_, ?_, fun k hk hfloor hscaled ↦ candidateWindows_scale hk hfloor hscaled _⟩
  · refine List.pairwise_map.mpr (pairwise_candidates.imp fun {a b} hfar ↦ ⟨?_, hfar⟩)
    omega
  · intro window hwindow
    obtain ⟨peak, hpeak, rfl⟩ := List.mem_map.mp hwindow
    have hlocal := isPeak_of_mem_candidates hpeak
    exact ⟨hlocal.window_lt.2, peak.2, hlocal⟩
  · intro peak hpeak
    obtain ⟨candidate, hcandidate, hchain⟩ := exists_candidate windowSeconds hpeak
    exact ⟨candidate, List.mem_map_of_mem hcandidate, isPeak_of_mem_candidates hcandidate, hchain,
      hchain.le⟩

/-- An envelope with three changes, each within the separation of the one before and no weaker.
The first is farther from the one candidate. -/
theorem candidate_out_of_reach :
    let envelope : List ℚ := [0, 1, 1, 1, 3, 3, 3, 6]
    candidateWindows envelope (1 / 100) = [7] ∧ minimumWindows (1 / 100) = 5 ∧
      IsPeak envelope (1, 1) ∧ 1 + minimumWindows (1 / 100) ≤ 7 := by
  refine ⟨by decide +kernel, by decide +kernel, mem_peaksOf.mp (by decide +kernel),
    by decide +kernel⟩

end N0te.Audio
