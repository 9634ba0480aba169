import N0te.Audio.WaveLayout

/-!
# Reading the samples of a PCM WAV file

`readSamples` is the loop of `analyze_pcm_wave` over the audio data of a layout. It reads blocks of
whole frames and takes each apart into the samples of its channels. The blocks it has read and the
frames it has seen are kept; the numbers that the analyzer computes from the samples are not.

For the layout of an accepted file every block lies in one data chunk, and the frames are exactly
those of the data chunks (`samples_of_accepted`).
-/

set_option autoImplicit false
set_option relaxedAutoImplicit false

namespace N0te.Audio

open Library AudioEngineeringError

/-! ### The reader -/

/-- What the reader has read: the positions and lengths of the blocks, and the samples of each
frame. -/
structure Visited where
  reads : List (ℕ × ℕ)
  frames : List (List (List UInt8))
  deriving DecidableEq

/-- How much is read next of the bytes that remain. -/
def WaveLayout.request (layout : WaveLayout) (remaining : ℤ) : ℕ :=
  let request := min (1024 * 1024) remaining
  let whole := request - request % layout.blockAlign
  if whole ≤ 0 then layout.blockAlign else whole.toNat

theorem WaveLayout.request_pos (layout : WaveLayout) (remaining : ℤ) :
    0 < layout.request remaining := by
  have := layout.blockAlign_pos
  unfold WaveLayout.request
  simp only
  split_ifs <;> omega

/-- `bytes_per_sample`. -/
def WaveLayout.bytesPerSample (layout : WaveLayout) : ℕ := layout.bitsPerSample / 8

/-- Some frames from a position on, each as the samples of its channels. -/
def WaveLayout.framesAt (layout : WaveLayout) (file : List UInt8) (position count : ℕ) :
    List (List (List UInt8)) :=
  (List.range count).map fun index ↦
    pieces file (position + index * layout.blockAlign) layout.bytesPerSample layout.channels

/-- The frames of a block, of which the last may be incomplete. -/
def WaveLayout.framesOf (layout : WaveLayout) (block : List UInt8) : List (List (List UInt8)) :=
  layout.framesAt block 0 ((block.length + layout.blockAlign - 1) / layout.blockAlign)

/-- The loop over the bytes that remain of a data chunk. -/
def readData (file : List UInt8) (layout : WaveLayout) (position : ℕ) (remaining : ℤ)
    (visited : Visited) : Except AudioEngineeringError Visited :=
  if remaining = 0 then return visited
  else
    let request := layout.request remaining
    let block := readAt file position request
    if block.length = request then
      readData file layout (position + request) (remaining - request)
        ⟨visited.reads ++ [(position, request)], visited.frames ++ layout.framesOf block⟩
    else throw (corruptEngineeringMedia "WAV audio data ended before its declared size")
termination_by file.length - position
decreasing_by
  have hpos := layout.request_pos remaining
  have hle := le_of_length_readAt hpos (by assumption)
  omega

/-- The loop over the data chunks. -/
def readChunks (file : List UInt8) (layout : WaveLayout) :
    Except AudioEngineeringError Visited :=
  layout.dataChunks.foldlM (fun visited extent ↦ readData file layout extent.1 extent.2 visited)
    ⟨[], []⟩

/-- `frames_seen`. -/
def Visited.framesSeen (visited : Visited) : ℕ := visited.frames.length

/-- `sample_values_seen`. -/
def Visited.sampleValuesSeen (visited : Visited) : ℕ := (visited.frames.map List.length).sum

/-- The part of `analyze_pcm_wave` that reads the samples. -/
def readSamples (file : List UInt8) (layout : WaveLayout) :
    Except AudioEngineeringError Visited := do
  let visited ← readChunks file layout
  require (visited.framesSeen = layout.frameCount ∧
      visited.sampleValuesSeen = layout.frameCount * layout.channels)
    (corruptEngineeringMedia "PCM frame count changed during engineering analysis")
  return visited

/-! ### Frames -/

section

variable {file : List UInt8} {layout : WaveLayout} {position count : ℕ}

@[simp] theorem length_framesAt : (layout.framesAt file position count).length = count := by
  rw [WaveLayout.framesAt, List.length_map, List.length_range]

theorem framesAt_add (first second : ℕ) : layout.framesAt file position (first + second) =
    layout.framesAt file position first ++
      layout.framesAt file (position + first * layout.blockAlign) second := by
  rw [WaveLayout.framesAt, WaveLayout.framesAt, WaveLayout.framesAt, List.range_add,
    List.map_append, List.map_map]
  refine congrArg _ (List.map_congr_left fun index _ ↦ ?_)
  show pieces file (position + (first + index) * layout.blockAlign) _ _ = _
  rw [Nat.add_mul, Nat.add_assoc]

theorem length_of_mem_framesAt {frame : List (List UInt8)}
    (h : frame ∈ layout.framesAt file position count) : frame.length = layout.channels := by
  obtain ⟨index, -, rfl⟩ := List.mem_map.mp h
  exact length_pieces _ _ _ _

/-- The frames of a block of whole frames are those of the file. -/
theorem framesOf_readAt (haligned : layout.blockAlign = layout.channels * layout.bytesPerSample)
    (hinside : position + count * layout.blockAlign ≤ file.length) :
    layout.framesOf (readAt file position (count * layout.blockAlign)) =
      layout.framesAt file position count := by
  have hpos := layout.blockAlign_pos
  have hcount :
      (count * layout.blockAlign + layout.blockAlign - 1) / layout.blockAlign = count := by
    rw [Nat.add_sub_assoc hpos, Nat.mul_comm, Nat.mul_add_div hpos,
      Nat.div_eq_of_lt (Nat.sub_lt hpos Nat.one_pos), Nat.add_zero]
  rw [WaveLayout.framesOf, length_readAt_eq hinside, hcount, WaveLayout.framesAt,
    WaveLayout.framesAt]
  refine List.map_congr_left fun index hindex ↦ List.map_congr_left fun channel hchannel ↦ ?_
  have hframe : (index + 1) * layout.blockAlign ≤ count * layout.blockAlign :=
    Nat.mul_le_mul_right _ (List.mem_range.mp hindex)
  have hsample : (channel + 1) * layout.bytesPerSample ≤ layout.channels * layout.bytesPerSample :=
    Nat.mul_le_mul_right _ (List.mem_range.mp hchannel)
  rw [Nat.add_mul, Nat.one_mul] at hframe hsample
  rw [readAt_readAt (by omega)]
  congr 1
  omega

/-- The samples of the frames are the bytes of the file. -/
theorem flatten_framesAt (haligned : layout.blockAlign = layout.channels * layout.bytesPerSample) :
    (layout.framesAt file position count).flatten.flatten =
      readAt file position (count * layout.blockAlign) := by
  rw [← flatten_pieces, List.flatten_flatten, WaveLayout.framesAt, pieces, List.map_map]
  refine congrArg _ (List.map_congr_left fun index _ ↦ ?_)
  rw [haligned]
  exact flatten_pieces _ _ _ _

/-! ### What is read of a data chunk -/

variable (layout) in
/-- Blocks are of whole frames, and not larger than what remains. -/
theorem request_of_pos (hcount : 0 < count) :
    ∃ whole, 0 < whole ∧ whole ≤ count ∧
      layout.request (count * layout.blockAlign : ℕ) = whole * layout.blockAlign := by
  have hpos := layout.blockAlign_pos
  obtain ⟨most, hmost⟩ : ∃ most, most = min (1024 * 1024) (count * layout.blockAlign) := ⟨_, rfl⟩
  have hcast : min (1024 * 1024 : ℤ) (count * layout.blockAlign : ℕ) = most := by omega
  have hwhole : (most : ℤ) - most % layout.blockAlign =
      ((most / layout.blockAlign * layout.blockAlign : ℕ) : ℤ) := by
    have := Nat.div_add_mod' most layout.blockAlign
    have := Int.natCast_mod most layout.blockAlign
    omega
  have hfits : most / layout.blockAlign ≤ count :=
    Nat.div_le_of_le_mul (by rw [Nat.mul_comm]; omega)
  unfold WaveLayout.request
  simp only [hcast, hwhole, Int.toNat_natCast]
  split_ifs with hsmall
  · exact ⟨1, Nat.one_pos, hcount, (Nat.one_mul _).symm⟩
  · refine ⟨most / layout.blockAlign, Nat.pos_of_ne_zero fun hzero ↦ hsmall ?_, hfits, rfl⟩
    rw [hzero, Nat.zero_mul]
    exact Int.le_refl 0

/-- Of a data chunk of whole frames inside the file, the reader reads blocks within the chunk and
sees every frame. -/
theorem readData_eq_ok (haligned : layout.blockAlign = layout.channels * layout.bytesPerSample)
    (hinside : position + count * layout.blockAlign ≤ file.length) (visited : Visited) :
    ∃ reads, readData file layout position (count * layout.blockAlign : ℕ) visited =
        .ok ⟨visited.reads ++ reads, visited.frames ++ layout.framesAt file position count⟩ ∧
      ∀ read ∈ reads, position ≤ read.1 ∧
        read.1 + read.2 ≤ position + count * layout.blockAlign := by
  have hpos := layout.blockAlign_pos
  induction count using Nat.strongRecOn generalizing position visited with
  | ind count ih =>
    rw [readData]
    rcases Nat.eq_zero_or_pos count with rfl | hcount
    · refine ⟨[], ?_, fun read hread ↦ absurd hread List.not_mem_nil⟩
      rw [if_pos (by rw [Nat.zero_mul]; rfl)]
      simp [WaveLayout.framesAt]
    · obtain ⟨whole, hwhole, hle, hrequest⟩ := request_of_pos layout hcount
      have hproduct := Nat.mul_pos hcount hpos
      have hsum : count * layout.blockAlign =
          whole * layout.blockAlign + (count - whole) * layout.blockAlign := by
        rw [← Nat.add_mul, Nat.add_sub_cancel' hle]
      have hremaining : ((count * layout.blockAlign : ℕ) : ℤ) - (whole * layout.blockAlign : ℕ) =
          ((count - whole) * layout.blockAlign : ℕ) := by omega
      have hblock : position + whole * layout.blockAlign ≤ file.length := by omega
      have hrest : position + whole * layout.blockAlign +
          (count - whole) * layout.blockAlign ≤ file.length := by omega
      obtain ⟨reads, hread, hbounds⟩ := ih (count - whole) (by omega) hrest
        ⟨visited.reads ++ [(position, whole * layout.blockAlign)],
          visited.frames ++ layout.framesAt file position whole⟩
      refine ⟨(position, whole * layout.blockAlign) :: reads, ?_, ?_⟩
      · rw [if_neg (by omega)]
        simp only [hrequest]
        rw [if_pos (length_readAt_eq hblock), framesOf_readAt haligned hblock, hremaining, hread]
        have hframes : layout.framesAt file position (whole + (count - whole)) = _ :=
          framesAt_add whole (count - whole)
        rw [Nat.add_sub_cancel' hle] at hframes
        rw [hframes, List.append_assoc, List.append_assoc, List.singleton_append]
      · refine List.forall_mem_cons.mpr ⟨⟨Nat.le_refl _, by omega⟩, fun read hread ↦ ?_⟩
        have := hbounds read hread
        omega

/-- Of data chunks of whole frames inside the file, the reader reads blocks within the chunks and
sees every frame. -/
theorem readChunks_eq_ok (haligned : layout.blockAlign = layout.channels * layout.bytesPerSample)
    {extents : List (ℕ × ℕ)} (hinside : ∀ extent ∈ extents, extent.1 + extent.2 ≤ file.length)
    (hwhole : ∀ extent ∈ extents, layout.blockAlign ∣ extent.2) (visited : Visited) :
    ∃ reads,
      extents.foldlM (fun visited extent ↦ readData file layout extent.1 extent.2 visited) visited =
        .ok ⟨visited.reads ++ reads, visited.frames ++ extents.flatMap fun extent ↦
          layout.framesAt file extent.1 (extent.2 / layout.blockAlign)⟩ ∧
      ∀ read ∈ reads, ∃ extent ∈ extents, extent.1 ≤ read.1 ∧
        read.1 + read.2 ≤ extent.1 + extent.2 := by
  induction extents generalizing visited with
  | nil => exact ⟨[], by simp [pure, Except.pure], fun read hread ↦ absurd hread List.not_mem_nil⟩
  | cons first rest ih =>
    obtain ⟨hfirst, hrest⟩ := List.forall_mem_cons.mp hinside
    obtain ⟨hfirstWhole, hrestWhole⟩ := List.forall_mem_cons.mp hwhole
    have hsize : first.2 / layout.blockAlign * layout.blockAlign = first.2 :=
      Nat.div_mul_cancel hfirstWhole
    rw [← hsize] at hfirst
    obtain ⟨reads, hread, hbounds⟩ := readData_eq_ok haligned hfirst visited
    rw [hsize] at hread hbounds
    obtain ⟨later, hlater, hlaterBounds⟩ := ih hrest hrestWhole
      ⟨visited.reads ++ reads, visited.frames ++
        layout.framesAt file first.1 (first.2 / layout.blockAlign)⟩
    refine ⟨reads ++ later, ?_, fun read hmem ↦ ?_⟩
    · rw [List.foldlM_cons, hread]
      refine Eq.trans hlater ?_
      rw [List.flatMap_cons, List.append_assoc, List.append_assoc]
    · rcases List.mem_append.mp hmem with hmem | hmem
      · exact ⟨first, List.mem_cons_self, hbounds read hmem⟩
      · obtain ⟨extent, hextent, hwithin⟩ := hlaterBounds read hmem
        exact ⟨extent, List.mem_cons_of_mem _ hextent, hwithin⟩

end

/-! ### The frames of a layout -/

/-- The frames of the data chunks of a layout. -/
def WaveLayout.frames (file : List UInt8) (layout : WaveLayout) : List (List (List UInt8)) :=
  layout.dataChunks.flatMap fun extent ↦
    layout.framesAt file extent.1 (extent.2 / layout.blockAlign)

section

variable {file : List UInt8} {layout : WaveLayout}

theorem IsWave.length_frames (h : IsWave file layout) :
    (layout.frames file).length = layout.frameCount := by
  have hsizes (extents : List (ℕ × ℕ)) (hwhole : ∀ extent ∈ extents, layout.blockAlign ∣ extent.2) :
      (extents.flatMap fun extent ↦
        layout.framesAt file extent.1 (extent.2 / layout.blockAlign)).length * layout.blockAlign =
          (extents.map Prod.snd).sum := by
    induction extents with
    | nil => exact Nat.zero_mul _
    | cons first rest ih =>
      obtain ⟨hfirst, hrest⟩ := List.forall_mem_cons.mp hwhole
      rw [List.flatMap_cons, List.length_append, length_framesAt, Nat.add_mul, ih hrest,
        Nat.div_mul_cancel hfirst, List.map_cons, List.sum_cons]
  refine Nat.eq_of_mul_eq_mul_right layout.blockAlign_pos ?_
  rw [h.frames]
  exact hsizes _ fun extent hextent ↦ (h.aligned extent hextent).2

theorem sampleValues_of_frames {frames : List (List (List UInt8))} {channels : ℕ}
    (h : ∀ frame ∈ frames, frame.length = channels) :
    (frames.map List.length).sum = frames.length * channels := by
  induction frames with
  | nil => exact (Nat.zero_mul _).symm
  | cons first rest ih =>
    obtain ⟨hfirst, hrest⟩ := List.forall_mem_cons.mp h
    rw [List.map_cons, List.sum_cons, ih hrest, hfirst, List.length_cons, Nat.succ_mul,
      Nat.add_comm]

theorem length_of_mem_frames {frame : List (List UInt8)} (h : frame ∈ layout.frames file) :
    frame.length = layout.channels := by
  obtain ⟨extent, -, hframe⟩ := List.mem_flatMap.mp h
  exact length_of_mem_framesAt hframe

theorem IsWave.flatten_frames (h : IsWave file layout) : (layout.frames file).flatten.flatten =
    layout.dataChunks.flatMap fun extent ↦ readAt file extent.1 extent.2 := by
  obtain ⟨_, chunk, -, -, hdescribes, -⟩ := h.chunks
  have haligned : layout.blockAlign = layout.channels * layout.bytesPerSample := hdescribes.aligned
  have hbytes (extents : List (ℕ × ℕ)) (hwhole : ∀ extent ∈ extents, layout.blockAlign ∣ extent.2) :
      (extents.flatMap fun extent ↦
        layout.framesAt file extent.1 (extent.2 / layout.blockAlign)).flatten.flatten =
          extents.flatMap fun extent ↦ readAt file extent.1 extent.2 := by
    induction extents with
    | nil => rfl
    | cons first rest ih =>
      obtain ⟨hfirst, hrest⟩ := List.forall_mem_cons.mp hwhole
      rw [List.flatMap_cons, List.flatten_append, List.flatten_append, ih hrest,
        flatten_framesAt haligned, Nat.div_mul_cancel hfirst, List.flatMap_cons]
  exact hbytes _ fun extent hextent ↦ (h.aligned extent hextent).2

/-- The reader of a container sees the frames of its layout, and reads within the data chunks. -/
theorem IsWave.readSamples_eq_ok (h : IsWave file layout) :
    ∃ reads, readSamples file layout = .ok ⟨reads, layout.frames file⟩ ∧
      ∀ read ∈ reads, ∃ extent ∈ layout.dataChunks, extent.1 ≤ read.1 ∧
        read.1 + read.2 ≤ extent.1 + extent.2 := by
  obtain ⟨chunks, chunk, -, -, hdescribes, -⟩ := h.chunks
  have haligned : layout.blockAlign = layout.channels * layout.bytesPerSample := hdescribes.aligned
  obtain ⟨reads, hreads, hwithin⟩ := readChunks_eq_ok haligned h.inside
    (fun extent hextent ↦ (h.aligned extent hextent).2) ⟨[], []⟩
  rw [List.nil_append, List.nil_append] at hreads
  have hvalues : ((layout.frames file).map List.length).sum =
      layout.frameCount * layout.channels := by
    rw [sampleValues_of_frames fun frame ↦ length_of_mem_frames, h.length_frames]
  refine ⟨reads, ?_, hwithin⟩
  rw [readSamples, bind_eq_ok]
  refine ⟨_, hreads, ?_⟩
  rw [bind_eq_ok]
  exact ⟨(), require_eq_ok.mpr ⟨h.length_frames, hvalues⟩, rfl⟩

end

/-- What the parser accepts is a container, and the reader sees its frames and reads nothing
else. -/
theorem samples_of_accepted {file : List UInt8} {layout : WaveLayout}
    (h : inspectPcmLayout file file.length = .ok layout) :
    IsWave file layout ∧ ∃ visited, readSamples file layout = .ok visited ∧
      visited.framesSeen = layout.frameCount ∧
      visited.frames.flatten.flatten =
        (layout.dataChunks.flatMap fun extent ↦ readAt file extent.1 extent.2) ∧
      ∀ read ∈ visited.reads, ∃ extent ∈ layout.dataChunks, extent.1 ≤ read.1 ∧
        read.1 + read.2 ≤ extent.1 + extent.2 := by
  have hwave := isWave_of_inspect h
  obtain ⟨reads, hreads, hwithin⟩ := hwave.readSamples_eq_ok
  exact ⟨hwave, ⟨reads, layout.frames file⟩, hreads, hwave.length_frames, hwave.flatten_frames,
    hwithin⟩

/-- A file with one mono frame of 16 bits. -/
def sampleFile : List UInt8 :=
  ascii "RIFF" ++ [38, 0, 0, 0] ++ ascii "WAVE" ++
    ascii "fmt " ++ [16, 0, 0, 0, 1, 0, 1, 0, 0x40, 0x1f, 0, 0, 0x80, 0x3e, 0, 0, 2, 0, 16, 0] ++
    ascii "data" ++ [2, 0, 0, 0, 0x34, 0x12]

/-- The layout of the file. -/
def sampleLayout : WaveLayout := ⟨8000, 1, 16, 2, [(44, 2)], 1, by decide⟩

theorem sample_samples : IsWave sampleFile sampleLayout ∧
    ∃ visited, readSamples sampleFile sampleLayout = .ok visited ∧
      visited.framesSeen = sampleLayout.frameCount ∧
      visited.frames.flatten.flatten =
        (sampleLayout.dataChunks.flatMap fun extent ↦ readAt sampleFile extent.1 extent.2) ∧
      ∀ read ∈ visited.reads, ∃ extent ∈ sampleLayout.dataChunks, extent.1 ≤ read.1 ∧
        read.1 + read.2 ≤ extent.1 + extent.2 :=
  samples_of_accepted (by decide +kernel)

end N0te.Audio
