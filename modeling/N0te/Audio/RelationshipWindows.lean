import N0te.Audio.SampleReader
import N0te.Library.Binary64

/-!
# The windows of a mix relationship

`windowPositions` is `_window_positions`, which spreads at most 24 windows over the frames of a
file, and `readLogicalFrames` is `_read_logical_frames`, which reads a window across the data chunks
of a layout. The windows do not overlap and lie within the frames (`spread_windowPositions`), and
what is read of each is what the reader of the measurement sees of its frames
(`windows_of_accepted`).

Scope. Positions are computed in exact rational arithmetic. The spectra are left out.
-/

set_option autoImplicit false
set_option relaxedAutoImplicit false

namespace N0te.Audio

open Library AudioEngineeringError

/-! ### Positions -/

/-- `MAX_SPECTRAL_WINDOWS`. -/
def maxSpectralWindows : ℕ := 24

/-- How many windows are spread over the frames. -/
def windowCount (frameCount windowFrames : ℕ) : ℕ :=
  min maxSpectralWindows (max 1 (frameCount / windowFrames))

def spreadPosition (maxStart count index : ℕ) : ℕ :=
  (roundHalfEven (index * maxStart / (count - 1 : ℕ) : ℚ)).toNat

/-- `_window_positions`. -/
def windowPositions (frameCount windowFrames : ℕ) : List ℕ :=
  if frameCount ≤ windowFrames then [0]
  else
    let maxStart := frameCount - windowFrames
    let count := windowCount frameCount windowFrames
    if count ≤ 1 then [maxStart / 2]
    else (List.range count).map (spreadPosition maxStart count)

/-- Windows that start one after another, do not overlap, lie within the frames, and reach from the
first frame to the last if there is more than one. -/
structure Spread (frameCount windowFrames : ℕ) (starts : List ℕ) : Prop where
  nonempty : starts ≠ []
  few : starts.length ≤ maxSpectralWindows
  increasing : starts.Pairwise (· < ·)
  disjoint : starts.Pairwise fun first second ↦ first + windowFrames ≤ second
  inside : ∀ start ∈ starts, start + windowFrames ≤ frameCount
  ends : 1 < starts.length → starts.head? = some 0 ∧
    starts.getLast?.map (· + windowFrames) = some frameCount

theorem cast_spreadPosition (maxStart count index : ℕ) :
    ((spreadPosition maxStart count index : ℕ) : ℤ) =
      roundHalfEven (index * maxStart / (count - 1 : ℕ) : ℚ) :=
  Int.toNat_of_nonneg (roundHalfEven_nonneg (by positivity))

/-- Numbers further apart than an integer stay at least that far apart when they are rounded. -/
theorem roundHalfEven_add_le {x y : ℚ} {n : ℤ} (h : x + n < y) :
    roundHalfEven x + n ≤ roundHalfEven y := by
  have hx := abs_le.mp (abs_roundHalfEven_sub_le x)
  have hy := abs_le.mp (abs_roundHalfEven_sub_le y)
  have hlt : ((roundHalfEven x + n : ℤ) : ℚ) < (roundHalfEven y + 1 : ℤ) := by
    push_cast
    linarith [hx.2, hy.1]
  exact Int.lt_add_one_iff.mp (by exact_mod_cast hlt)

theorem roundHalfEven_intCast (n : ℤ) : roundHalfEven n = n :=
  roundHalfEven_eq (by rw [sub_self, abs_zero]; norm_num)

section

variable {maxStart count windowFrames : ℕ}

/-- Where the windows fill the frames exactly, every position is a whole number of windows. -/
theorem spreadPosition_exact (hcount : 1 < count) (hfill : maxStart = (count - 1) * windowFrames)
    (index : ℕ) : spreadPosition maxStart count index = index * windowFrames := by
  have hne : ((count - 1 : ℕ) : ℚ) ≠ 0 := Nat.cast_ne_zero.mpr (by omega)
  have hvalue : (index * maxStart / (count - 1 : ℕ) : ℚ) = ((index * windowFrames : ℕ) : ℤ) := by
    rw [hfill, div_eq_iff hne]
    push_cast
    ring
  have hcast := cast_spreadPosition maxStart count index
  rw [hvalue, roundHalfEven_intCast] at hcast
  exact Int.ofNat_inj.mp hcast

/-- Positions are at least a window apart. -/
theorem spreadPosition_add_le (hcount : 1 < count) (hroom : (count - 1) * windowFrames ≤ maxStart)
    {first second : ℕ} (hlt : first < second) :
    spreadPosition maxStart count first + windowFrames ≤ spreadPosition maxStart count second := by
  rcases Nat.eq_or_lt_of_le hroom with hfill | hmore
  · rw [spreadPosition_exact hcount hfill.symm, spreadPosition_exact hcount hfill.symm, ← Nat.succ_mul]
    exact Nat.mul_le_mul_right _ hlt
  · have hpos : (0 : ℚ) < (count - 1 : ℕ) := Nat.cast_pos.mpr (by omega)
    have hstep : (windowFrames : ℚ) < maxStart / (count - 1 : ℕ) := by
      rw [lt_div_iff₀ hpos, mul_comm]
      exact_mod_cast hmore
    have hnext : (first : ℚ) + 1 ≤ second := by exact_mod_cast hlt
    have hgap : (first * maxStart / (count - 1 : ℕ) : ℚ) + (windowFrames : ℤ) <
        second * maxStart / (count - 1 : ℕ) := by
      rw [mul_div_assoc, mul_div_assoc, Int.cast_natCast]
      nlinarith
    have hround := roundHalfEven_add_le hgap
    rw [← cast_spreadPosition, ← cast_spreadPosition] at hround
    exact_mod_cast hround

theorem spreadPosition_zero : spreadPosition maxStart count 0 = 0 := by
  have hcast := cast_spreadPosition maxStart count 0
  rw [Nat.cast_zero, zero_mul, zero_div, ← Int.cast_zero, roundHalfEven_intCast] at hcast
  exact Int.ofNat_inj.mp hcast

theorem spreadPosition_last (hcount : 1 < count) :
    spreadPosition maxStart count (count - 1) = maxStart := by
  have hne : ((count - 1 : ℕ) : ℚ) ≠ 0 := Nat.cast_ne_zero.mpr (by omega)
  have hcast := cast_spreadPosition maxStart count (count - 1)
  have hvalue : (((count - 1 : ℕ) : ℚ) * maxStart / (count - 1 : ℕ)) = (maxStart : ℤ) := by
    rw [mul_div_cancel_left₀ _ hne, Int.cast_natCast]
  rw [hvalue, roundHalfEven_intCast] at hcast
  exact Int.ofNat_inj.mp hcast

/-- No position is beyond the last. -/
theorem spreadPosition_le (hcount : 1 < count) (hroom : (count - 1) * windowFrames ≤ maxStart)
    {index : ℕ} (hindex : index < count) : spreadPosition maxStart count index ≤ maxStart := by
  rcases Nat.eq_or_lt_of_le (Nat.le_sub_one_of_lt hindex) with rfl | hlt
  · exact (spreadPosition_last hcount).le
  · have hapart := spreadPosition_add_le hcount hroom hlt
    rw [spreadPosition_last hcount] at hapart
    omega

end

theorem windowCount_mul_le {frameCount windowFrames : ℕ} (hle : windowFrames ≤ frameCount) :
    windowCount frameCount windowFrames * windowFrames ≤ frameCount := by
  have hpossible : max 1 (frameCount / windowFrames) * windowFrames ≤ frameCount := by
    rcases Nat.le_total (frameCount / windowFrames) 1 with hone | hmany
    · rwa [Nat.max_eq_left hone, Nat.one_mul]
    · rw [Nat.max_eq_right hmany]
      exact Nat.div_mul_le_self _ _
  exact (Nat.mul_le_mul_right _ (Nat.min_le_right _ _)).trans hpossible

theorem spread_singleton {frameCount windowFrames start : ℕ}
    (hinside : start + windowFrames ≤ frameCount) : Spread frameCount windowFrames [start] where
  nonempty := List.cons_ne_nil _ _
  few := Nat.one_le_ofNat
  increasing := List.pairwise_singleton _ _
  disjoint := List.pairwise_singleton _ _
  inside := by simpa using hinside
  ends h := absurd h (Nat.lt_irrefl 1)

theorem spread_windowPositions {frameCount windowFrames : ℕ} (hpos : 0 < windowFrames)
    (hle : windowFrames ≤ frameCount) :
    Spread frameCount windowFrames (windowPositions frameCount windowFrames) := by
  unfold windowPositions
  dsimp only
  split_ifs with hequal hone
  · exact spread_singleton (by omega)
  · exact spread_singleton (by omega)
  · obtain ⟨count, hcountEq⟩ : ∃ count, count = windowCount frameCount windowFrames := ⟨_, rfl⟩
    rw [← hcountEq] at hone ⊢
    have hcount : 1 < count := by omega
    have hfits : count * windowFrames ≤ frameCount := hcountEq ▸ windowCount_mul_le hle
    have hroom : (count - 1) * windowFrames ≤ frameCount - windowFrames := by
      rw [Nat.sub_mul, Nat.one_mul]
      omega
    have hdisjoint : ((List.range count).map (spreadPosition (frameCount - windowFrames) count)).Pairwise
        fun first second ↦ first + windowFrames ≤ second := by
      rw [List.pairwise_map]
      exact List.pairwise_lt_range.imp fun hlt ↦ spreadPosition_add_le hcount hroom hlt
    constructor
    · rw [← List.length_pos_iff, List.length_map, List.length_range]
      omega
    · rw [List.length_map, List.length_range, hcountEq]
      exact Nat.min_le_left _ _
    · exact hdisjoint.imp fun h ↦ by omega
    · exact hdisjoint
    · intro start hstart
      obtain ⟨index, hindex, rfl⟩ := List.mem_map.mp hstart
      have := spreadPosition_le hcount hroom (List.mem_range.mp hindex)
      omega
    · intro _
      obtain ⟨last, rfl⟩ : ∃ last, count = last + 1 := ⟨count - 1, by omega⟩
      constructor
      · rw [List.range_succ_eq_map, List.map_cons, List.head?_cons, spreadPosition_zero]
      · rw [List.range_succ, List.map_append, List.map_singleton, List.getLast?_concat,
          Option.map_some]
        have hlast := @spreadPosition_last (frameCount - windowFrames) _ hcount
        rw [Nat.add_sub_cancel] at hlast
        rw [hlast]
        congr 1
        omega

/-! ### Reading a window -/

/-- What was read of a window: the positions and lengths of the reads, and the bytes. -/
structure Gathered where
  reads : List (ℕ × ℕ)
  payload : List UInt8
  deriving DecidableEq

def Gathered.empty : Gathered := ⟨[], []⟩

/-- One after the other. -/
def Gathered.append (first second : Gathered) : Gathered :=
  ⟨first.reads ++ second.reads, first.payload ++ second.payload⟩

/-- The read of what a data chunk shares with the target. -/
def gatherOverlap (file : List UInt8) (fileOffset logicalStart overlapStart overlapEnd : ℕ) :
    Except AudioEngineeringError Gathered :=
  if overlapStart < overlapEnd then do
    let position := fileOffset + (overlapStart - logicalStart)
    let count := overlapEnd - overlapStart
    let block := readAt file position count
    require (block.length = count)
      (corruptEngineeringMedia "relationship PCM data ended before its declared size")
    return ⟨[(position, count)], block⟩
  else return .empty

/-- The loop over the data chunks. -/
def gather (file : List UInt8) (targetStart targetEnd : ℕ) :
    ℕ → List (ℕ × ℕ) → Except AudioEngineeringError Gathered
  | _, [] => return .empty
  | logicalStart, (fileOffset, chunkSize) :: rest => do
    let logicalEnd := logicalStart + chunkSize
    let piece ← gatherOverlap file fileOffset logicalStart (max targetStart logicalStart)
      (min targetEnd logicalEnd)
    if targetEnd ≤ logicalEnd then return piece
    let later ← gather file targetStart targetEnd logicalEnd rest
    return piece.append later

/-- `_read_logical_frames`. -/
def readLogicalFrames (file : List UInt8) (layout : WaveLayout) (startFrame frameCount : ℕ) :
    Except AudioEngineeringError Gathered := do
  let targetStart := startFrame * layout.blockAlign
  let gathered ← gather file targetStart (targetStart + frameCount * layout.blockAlign) 0
    layout.dataChunks
  require (gathered.payload.length = frameCount * layout.blockAlign)
    (corruptEngineeringMedia "relationship PCM frame window could not be reconstructed exactly")
  return gathered

/-- A read lies in one of some data chunks. -/
def Within (extents : List (ℕ × ℕ)) (read : ℕ × ℕ) : Prop :=
  ∃ extent ∈ extents, extent.1 ≤ read.1 ∧ read.1 + read.2 ≤ extent.1 + extent.2

theorem Within.cons {extents : List (ℕ × ℕ)} {read : ℕ × ℕ} (h : Within extents read)
    (first : ℕ × ℕ) : Within (first :: extents) read := by
  obtain ⟨extent, hextent, hwithin⟩ := h
  exact ⟨extent, List.mem_cons_of_mem _ hextent, hwithin⟩

section

variable {file : List UInt8}

/-- Of a data chunk inside the file the overlap is read. -/
theorem gatherOverlap_eq_ok {extent : ℕ × ℕ} (hinside : extent.1 + extent.2 ≤ file.length)
    (targetStart targetEnd logicalStart : ℕ) :
    ∃ piece, gatherOverlap file extent.1 logicalStart (max targetStart logicalStart)
        (min targetEnd (logicalStart + extent.2)) = .ok piece ∧
      piece.payload = ((readAt file extent.1 extent.2).drop (targetStart - logicalStart)).take
        (targetEnd - max targetStart logicalStart) ∧
      ∀ read ∈ piece.reads, Within [extent] read := by
  have hlength := length_readAt_eq hinside
  unfold gatherOverlap
  split_ifs with hoverlap
  · have hfits : extent.1 + (max targetStart logicalStart - logicalStart) +
        (min targetEnd (logicalStart + extent.2) - max targetStart logicalStart) ≤
          extent.1 + extent.2 := by omega
    refine ⟨_, bind_eq_ok.mpr ⟨(), require_eq_ok.mpr (length_readAt_eq (hfits.trans hinside)), rfl⟩,
      ?_, ?_⟩
    · have hoffset : max targetStart logicalStart - logicalStart = targetStart - logicalStart := by
        omega
      have hcount : min targetEnd (logicalStart + extent.2) - max targetStart logicalStart =
          min (targetEnd - max targetStart logicalStart)
            (extent.2 - (targetStart - logicalStart)) := by omega
      show readAt file _ _ = _
      rw [hoffset, hcount, readAt, readAt, List.drop_take, List.take_take, List.drop_drop]
    · intro read hread
      obtain rfl := List.mem_singleton.mp hread
      exact ⟨extent, List.mem_singleton_self _, Nat.le_add_right _ _, hfits⟩
  · refine ⟨_, rfl, ?_, fun read hread ↦ absurd hread List.not_mem_nil⟩
    symm
    show _ = []
    rw [← List.length_eq_zero_iff, List.length_take, List.length_drop, hlength]
    omega

/-- What is read of some data chunks is the target's part of their bytes. -/
theorem gather_eq_ok {extents : List (ℕ × ℕ)}
    (hinside : ∀ extent ∈ extents, extent.1 + extent.2 ≤ file.length)
    (targetStart targetEnd logicalStart : ℕ) :
    ∃ gathered, gather file targetStart targetEnd logicalStart extents = .ok gathered ∧
      gathered.payload = ((extents.flatMap fun extent ↦ readAt file extent.1 extent.2).drop
        (targetStart - logicalStart)).take (targetEnd - max targetStart logicalStart) ∧
      ∀ read ∈ gathered.reads, Within extents read := by
  induction extents generalizing logicalStart with
  | nil =>
    refine ⟨.empty, rfl, ?_, fun read hread ↦ absurd hread List.not_mem_nil⟩
    rw [List.flatMap_nil, List.drop_nil, List.take_nil]
    rfl
  | cons first rest ih =>
    obtain ⟨hfirst, hrest⟩ := List.forall_mem_cons.mp hinside
    have hlength := length_readAt_eq hfirst
    obtain ⟨piece, hpiece, hpayload, hreads⟩ :=
      gatherOverlap_eq_ok hfirst targetStart targetEnd logicalStart
    have hwithin : ∀ read ∈ piece.reads, Within (first :: rest) read := by
      intro read hread
      obtain ⟨extent, hextent, hbounds⟩ := hreads read hread
      obtain rfl := List.mem_singleton.mp hextent
      exact ⟨extent, List.mem_cons_self, hbounds⟩
    rw [List.flatMap_cons, List.drop_append, List.take_append, ← hpayload, hlength,
      List.length_drop, hlength]
    by_cases hend : targetEnd ≤ logicalStart + first.2
    · refine ⟨piece, ?_, ?_, hwithin⟩
      · rw [gather]
        refine bind_eq_ok.mpr ⟨piece, hpiece, ?_⟩
        rw [if_pos hend]
        rfl
      · have hnone : targetEnd - max targetStart logicalStart -
            (first.2 - (targetStart - logicalStart)) = 0 := by omega
        rw [hnone, List.take_zero, List.append_nil]
    · obtain ⟨later, hlater, hlaterPayload, hlaterReads⟩ := ih hrest (logicalStart + first.2)
      refine ⟨piece.append later, ?_, ?_, ?_⟩
      · rw [gather]
        refine bind_eq_ok.mpr ⟨piece, hpiece, ?_⟩
        rw [if_neg hend]
        exact bind_eq_ok.mpr ⟨later, hlater, rfl⟩
      · have hdrop : targetStart - (logicalStart + first.2) =
            targetStart - logicalStart - first.2 := by omega
        have htake : targetEnd - max targetStart (logicalStart + first.2) =
            targetEnd - max targetStart logicalStart -
              (first.2 - (targetStart - logicalStart)) := by omega
        rw [hdrop, htake] at hlaterPayload
        rw [← hlaterPayload]
        rfl
      · intro read hread
        rcases List.mem_append.mp hread with hread | hread
        · exact hwithin read hread
        · exact (hlaterReads read hread).cons first

end

/-! ### The bytes of frames -/

section

variable {blocks : List (List UInt8)} {width : ℕ}

/-- Lists of one length, without some of them. -/
theorem flatten_drop (hwidth : ∀ block ∈ blocks, block.length = width) (count : ℕ) :
    (blocks.drop count).flatten = blocks.flatten.drop (count * width) := by
  induction blocks generalizing count with
  | nil => simp
  | cons first rest ih =>
    obtain ⟨hfirst, hrest⟩ := List.forall_mem_cons.mp hwidth
    cases count with
    | zero => rw [Nat.zero_mul, List.drop_zero, List.drop_zero]
    | succ count =>
      rw [List.drop_succ_cons, ih hrest, List.flatten_cons, Nat.succ_mul, Nat.add_comm, ← hfirst,
        ← List.drop_drop, List.drop_left]

/-- Some of the lists of one length. -/
theorem flatten_take (hwidth : ∀ block ∈ blocks, block.length = width) (count : ℕ) :
    (blocks.take count).flatten = blocks.flatten.take (count * width) := by
  induction blocks generalizing count with
  | nil => simp
  | cons first rest ih =>
    obtain ⟨hfirst, hrest⟩ := List.forall_mem_cons.mp hwidth
    cases count with
    | zero => rw [Nat.zero_mul, List.take_zero, List.take_zero, List.flatten_nil]
    | succ count =>
      rw [List.take_succ_cons, List.flatten_cons, ih hrest, List.flatten_cons, Nat.succ_mul,
        Nat.add_comm, ← hfirst, List.take_length_add_append]

end

section

variable {file : List UInt8} {layout : WaveLayout}

theorem IsWave.blockAlign_eq (h : IsWave file layout) :
    layout.blockAlign = layout.channels * layout.bytesPerSample := by
  obtain ⟨chunks, chunk, -, -, hdescribes, -⟩ := h.chunks
  exact hdescribes.aligned

/-- A frame has the bytes of a block. -/
theorem IsWave.length_frame (h : IsWave file layout) {frame : List (List UInt8)}
    (hframe : frame ∈ layout.frames file) : frame.flatten.length = layout.blockAlign := by
  obtain ⟨extent, hextent, hframe⟩ := List.mem_flatMap.mp hframe
  obtain ⟨index, hindex, rfl⟩ := List.mem_map.mp hframe
  have hinside := h.inside extent hextent
  have hwhole := Nat.div_mul_cancel (h.aligned extent hextent).2
  have hframes : (index + 1) * layout.blockAlign ≤ extent.2 / layout.blockAlign * layout.blockAlign :=
    Nat.mul_le_mul_right _ (List.mem_range.mp hindex)
  rw [Nat.succ_mul] at hframes
  rw [flatten_pieces, ← h.blockAlign_eq]
  exact length_readAt_eq (by omega)

/-- The bytes of some frames in a row. -/
theorem IsWave.flatten_window (h : IsWave file layout) (start count : ℕ) :
    (((layout.frames file).drop start).take count).flatten.flatten =
      ((layout.dataChunks.flatMap fun extent ↦ readAt file extent.1 extent.2).drop
        (start * layout.blockAlign)).take (count * layout.blockAlign) := by
  have hwidth : ∀ block ∈ (layout.frames file).map List.flatten, block.length = layout.blockAlign := by
    intro block hblock
    obtain ⟨frame, hframe, rfl⟩ := List.mem_map.mp hblock
    exact h.length_frame hframe
  have hlater : ∀ block ∈ ((layout.frames file).map List.flatten).drop start,
      block.length = layout.blockAlign := fun block hblock ↦ hwidth block (List.mem_of_mem_drop hblock)
  rw [List.flatten_flatten, List.map_take, List.map_drop, flatten_take hlater, flatten_drop hwidth,
    ← List.flatten_flatten, h.flatten_frames]

/-- The data chunks hold the bytes of the frames. -/
theorem IsWave.length_data (h : IsWave file layout) :
    (layout.dataChunks.flatMap fun extent ↦ readAt file extent.1 extent.2).length =
      layout.frameCount * layout.blockAlign := by
  rw [h.frames, List.length_flatMap]
  refine congrArg List.sum (List.map_congr_left fun extent hextent ↦ ?_)
  exact length_readAt_eq (h.inside extent hextent)

/-- A window within the frames is read, from the data chunks alone, and its bytes are those of its
frames. -/
theorem IsWave.readLogicalFrames_eq_ok (h : IsWave file layout) {start count : ℕ}
    (hinside : start + count ≤ layout.frameCount) :
    ∃ gathered, readLogicalFrames file layout start count = .ok gathered ∧
      gathered.payload = (((layout.frames file).drop start).take count).flatten.flatten ∧
      ∀ read ∈ gathered.reads, Within layout.dataChunks read := by
  obtain ⟨gathered, hgathered, hpayload, hreads⟩ := gather_eq_ok h.inside
    (start * layout.blockAlign) (start * layout.blockAlign + count * layout.blockAlign) 0
  rw [Nat.sub_zero, Nat.max_zero, Nat.add_sub_cancel_left] at hpayload
  have hfits : start * layout.blockAlign + count * layout.blockAlign ≤
      layout.frameCount * layout.blockAlign := by
    rw [← Nat.add_mul]
    exact Nat.mul_le_mul_right _ hinside
  have hlength : gathered.payload.length = count * layout.blockAlign := by
    rw [hpayload, List.length_take, List.length_drop, h.length_data]
    omega
  refine ⟨gathered, ?_, hpayload.trans (h.flatten_window start count).symm, hreads⟩
  rw [readLogicalFrames]
  refine bind_eq_ok.mpr ⟨gathered, hgathered, ?_⟩
  exact bind_eq_ok.mpr ⟨(), require_eq_ok.mpr hlength, rfl⟩

end

/-! ### Both together -/

/-- Every window of a file that the parser accepts is read without an error, from the data chunks
alone, and is what the reader of the measurement sees of its frames. -/
def ReadsWindows (file : List UInt8) (layout : WaveLayout) (starts : List ℕ) (windowFrames : ℕ) :
    Prop :=
  ∃ visited, readSamples file layout = .ok visited ∧ ∀ start ∈ starts,
    ∃ gathered, readLogicalFrames file layout start windowFrames = .ok gathered ∧
      gathered.payload = ((visited.frames.drop start).take windowFrames).flatten.flatten ∧
      ∀ read ∈ gathered.reads, Within layout.dataChunks read

end N0te.Audio
