import Mathlib.Algebra.BigOperators.Ring.List
import Mathlib.Algebra.Ring.Nat
import N0te.Library.ByteFile
import N0te.Library.Checking

/-!
# The layout of a PCM WAV file

`inspectPcmLayout` walks over the chunks of a RIFF/WAVE file and returns where the audio data are
and how they are encoded. Sizes come from the file, so every chunk is checked against the end that the
RIFF header declares. The walk goes by the bytes that are left, at least eight a chunk.

`Tiled` says that some chunks lie one after another from a position on, up to fewer bytes than a
chunk header takes. A walk that succeeds has found such chunks and visited each
(`tiled_of_scanChunks`), so an accepted file is a container in the sense of `IsWave`
(`isWave_of_inspect`).
-/

set_option autoImplicit false
set_option relaxedAutoImplicit false

namespace N0te.Audio

open Library

/-! ### The parser -/

/-- The exceptions of the analyzer. -/
inductive AudioEngineeringError
  | unsupportedEngineeringMedia (text : String)
  | corruptEngineeringMedia (text : String)
  deriving DecidableEq

open AudioEngineeringError

/-- `MAX_ENGINEERING_BYTES`. -/
def maxEngineeringBytes : ℕ := 256 * 1024 * 1024

/-- `_MAX_DATA_CHUNKS`. -/
def maxDataChunks : ℕ := 64

/-- `_SUPPORTED_BITS`. -/
def supportedBits : List ℕ := [8, 16, 24, 32]

/-- `_WaveLayout`. -/
structure WaveLayout where
  sampleRateHz : ℕ
  channels : ℕ
  bitsPerSample : ℕ
  blockAlign : ℕ
  dataChunks : List (ℕ × ℕ)
  frameCount : ℕ
  blockAlign_pos : 0 < blockAlign
  deriving DecidableEq

/-- What a format chunk says. -/
structure WaveFormat where
  sampleRate : ℕ
  channels : ℕ
  bits : ℕ
  blockAlign : ℕ
  blockAlign_pos : 0 < blockAlign
  deriving DecidableEq

/-- Frames of one sample of a supported width at least are not empty. -/
theorem frameSize_pos {channels bits : ℕ} (hchannels : 0 < channels)
    (hbits : bits ∈ supportedBits) : 0 < channels * (bits / 8) := by
  have hwidth : ∀ width ∈ supportedBits, 0 < width / 8 := by decide
  exact Nat.mul_pos hchannels (hwidth bits hbits)

/-- `_u16`. -/
def u16 (value : List UInt8) : Except AudioEngineeringError ℕ := do
  require (value.length = 2) (corruptEngineeringMedia "truncated 16-bit WAV field")
  return littleEndian value

/-- `_u32`. -/
def u32 (value : List UInt8) : Except AudioEngineeringError ℕ := do
  require (value.length = 4) (corruptEngineeringMedia "truncated 32-bit WAV field")
  return littleEndian value

/-- A format chunk whose content starts at a position. -/
def readFormat (file : List UInt8) (start size : ℕ) : Except AudioEngineeringError WaveFormat := do
  require (16 ≤ size) (corruptEngineeringMedia "WAV fmt chunk is too small")
  let base := readAt file start 16
  require (base.length = 16) (corruptEngineeringMedia "WAV fmt chunk is truncated")
  let audioFormat ← u16 (readAt base 0 2)
  let channels ← u16 (readAt base 2 2)
  let sampleRate ← u32 (readAt base 4 4)
  let byteRate ← u32 (readAt base 8 4)
  let blockAlign ← u16 (readAt base 12 2)
  let bits ← u16 (readAt base 14 2)
  require (audioFormat = 1)
    (unsupportedEngineeringMedia "engineering snapshot currently supports integer PCM WAV only")
  let hchannels ← ensure (0 < channels ∧ channels ≤ 32)
    (unsupportedEngineeringMedia "WAV channel count is outside the bounded PCM contract")
  require (0 < sampleRate) (corruptEngineeringMedia "WAV sample rate is invalid")
  let hbits ← ensure (bits ∈ supportedBits)
    (unsupportedEngineeringMedia "engineering snapshot supports 8, 16, 24 and 32-bit integer PCM")
  let halign ← ensure (blockAlign = channels * (bits / 8))
    (corruptEngineeringMedia "WAV block alignment does not match PCM format")
  require (byteRate = sampleRate * blockAlign)
    (corruptEngineeringMedia "WAV byte rate does not match PCM format")
  return ⟨sampleRate, channels, bits, blockAlign,
    halign.down ▸ frameSize_pos hchannels.down.1 hbits.down⟩

/-- What the walk over the chunks has found. -/
structure Found where
  fmt : Option WaveFormat
  dataChunks : List (ℕ × ℕ)
  deriving DecidableEq

/-- A chunk: its kind, and where its content starts and how long it is. -/
structure Chunk where
  kind : List UInt8
  start : ℕ
  size : ℕ
  deriving DecidableEq

/-- Where the chunk after a chunk starts: sizes are padded to an even number. -/
def Chunk.paddedEnd (chunk : Chunk) : ℕ := chunk.start + chunk.size + chunk.size % 2

/-- A chunk that describes the format. -/
abbrev Chunk.IsFormat (chunk : Chunk) : Prop := chunk.kind = ascii "fmt "

/-- A chunk of audio data. -/
abbrev Chunk.IsData (chunk : Chunk) : Prop := chunk.kind = ascii "data"

/-- Where the audio data of a chunk are. -/
abbrev Chunk.extent (chunk : Chunk) : ℕ × ℕ := (chunk.start, chunk.size)

/-- What the walk does with a chunk. -/
def visitChunk (file : List UInt8) (found : Found) (chunk : Chunk) :
    Except AudioEngineeringError Found :=
  if chunk.IsFormat then do
    require (found.fmt = none) (corruptEngineeringMedia "WAV contains multiple fmt chunks")
    let format ← readFormat file chunk.start chunk.size
    return { found with fmt := some format }
  else if chunk.IsData then do
    require (0 < chunk.size) (corruptEngineeringMedia "WAV data chunk is empty")
    require (found.dataChunks.length < maxDataChunks)
      (unsupportedEngineeringMedia "WAV contains too many data chunks")
    return { found with dataChunks := found.dataChunks ++ [chunk.extent] }
  else return found

/-- The kind and the size in the chunk header at a position. -/
def readHeader (file : List UInt8) (position : ℕ) :
    Except AudioEngineeringError (List UInt8 × ℕ) := do
  let chunkHeader := readAt file position 8
  require (chunkHeader.length = 8) (corruptEngineeringMedia "WAV chunk header is truncated")
  let size ← u32 (readAt chunkHeader 4 4)
  return (readAt chunkHeader 0 4, size)

/-- The loop over the chunks up to the declared end. -/
def scanChunks (file : List UInt8) (riffEnd position : ℕ) (found : Found) :
    Except AudioEngineeringError Found :=
  if position + 8 ≤ riffEnd then do
    let (kind, size) ← readHeader file position
    let chunk : Chunk := ⟨kind, position + 8, size⟩
    require (chunk.start + chunk.size ≤ riffEnd ∧ chunk.paddedEnd ≤ riffEnd)
      (corruptEngineeringMedia "WAV chunk extends beyond the declared RIFF payload")
    let found ← visitChunk file found chunk
    scanChunks file riffEnd chunk.paddedEnd found
  else return found
termination_by riffEnd - position
decreasing_by
  simp only [Chunk.paddedEnd]
  omega

/-- `_inspect_pcm_layout`, of a file of which a size was verified. -/
def inspectPcmLayout (file : List UInt8) (sizeBytes : ℕ) :
    Except AudioEngineeringError WaveLayout := do
  require (44 ≤ sizeBytes) (corruptEngineeringMedia "WAV is too small to contain PCM audio")
  require (sizeBytes ≤ maxEngineeringBytes)
    (unsupportedEngineeringMedia "audio exceeds the bounded engineering-analysis size")
  let header := readAt file 0 12
  require (header.length = 12 ∧ readAt header 0 4 = ascii "RIFF" ∧ readAt header 8 4 = ascii "WAVE")
    (unsupportedEngineeringMedia "engineering snapshot currently supports RIFF/WAVE only")
  let riffSize ← u32 (readAt header 4 4)
  let riffEnd := riffSize + 8
  require (riffEnd ≤ sizeBytes ∧ 12 ≤ riffEnd)
    (corruptEngineeringMedia "WAV RIFF size is inconsistent with the verified file")
  let found ← scanChunks file riffEnd 12 ⟨none, []⟩
  let fmt ← orRaise found.fmt (corruptEngineeringMedia "WAV has no PCM fmt chunk")
  require (found.dataChunks ≠ []) (corruptEngineeringMedia "WAV has no audio data chunk")
  let totalData := (found.dataChunks.map Prod.snd).sum
  require (∀ chunk ∈ found.dataChunks, chunk.2 % fmt.blockAlign = 0)
    (corruptEngineeringMedia "WAV data size is not aligned to complete PCM frames")
  let frameCount := totalData / fmt.blockAlign
  require (0 < frameCount) (corruptEngineeringMedia "WAV has no complete PCM frames")
  return ⟨fmt.sampleRate, fmt.channels, fmt.bits, fmt.blockAlign, found.dataChunks, frameCount,
    fmt.blockAlign_pos⟩

/-! ### Containers -/

/-- A chunk whose header is at a position, and which ends where it may. -/
structure Chunk.At (file : List UInt8) (riffEnd position : ℕ) (chunk : Chunk) : Prop where
  start_eq : chunk.start = position + 8
  start_le : chunk.start ≤ file.length
  kind_eq : chunk.kind = readAt file position 4
  size_eq : chunk.size = littleEndian (readAt file (position + 4) 4)
  paddedEnd_le : chunk.paddedEnd ≤ riffEnd

/-- Chunks that lie one after another from a position to the end, where fewer bytes are left than a
chunk header takes. -/
inductive Tiled (file : List UInt8) (riffEnd : ℕ) : ℕ → List Chunk → Prop
  | stop {position : ℕ} (hposition : position ≤ riffEnd) (hshort : riffEnd < position + 8) :
      Tiled file riffEnd position []
  | chunk {position : ℕ} {chunk : Chunk} {rest : List Chunk}
      (hchunk : chunk.At file riffEnd position) (hrest : Tiled file riffEnd chunk.paddedEnd rest) :
      Tiled file riffEnd position (chunk :: rest)

/-- A chunk that holds an integer PCM format. -/
structure Chunk.Describes (file : List UInt8) (chunk : Chunk) (format : WaveFormat) : Prop where
  large : 16 ≤ chunk.size
  pcm : littleEndian (readAt file chunk.start 2) = 1
  channels_eq : littleEndian (readAt file (chunk.start + 2) 2) = format.channels
  sampleRate_eq : littleEndian (readAt file (chunk.start + 4) 4) = format.sampleRate
  byteRate_eq : littleEndian (readAt file (chunk.start + 8) 4) =
    format.sampleRate * format.blockAlign
  blockAlign_eq : littleEndian (readAt file (chunk.start + 12) 2) = format.blockAlign
  bits_eq : littleEndian (readAt file (chunk.start + 14) 2) = format.bits
  channels_mem : 0 < format.channels ∧ format.channels ≤ 32
  sampleRate_pos : 0 < format.sampleRate
  bits_mem : format.bits ∈ supportedBits
  aligned : format.blockAlign = format.channels * (format.bits / 8)

/-- A RIFF/WAVE container with one integer PCM format chunk, and a layout that describes its data
chunks. -/
structure IsWave (file : List UInt8) (layout : WaveLayout) : Prop where
  size_mem : 44 ≤ file.length ∧ file.length ≤ maxEngineeringBytes
  riff : readAt file 0 4 = ascii "RIFF"
  wave : readAt file 8 4 = ascii "WAVE"
  riffEnd_le : littleEndian (readAt file 4 4) + 8 ≤ file.length
  chunks : ∃ chunks chunk, Tiled file (littleEndian (readAt file 4 4) + 8) 12 chunks ∧
    chunks.filter (·.IsFormat) = [chunk] ∧
    chunk.Describes file ⟨layout.sampleRateHz, layout.channels, layout.bitsPerSample,
      layout.blockAlign, layout.blockAlign_pos⟩ ∧
    layout.dataChunks = (chunks.filter (·.IsData)).map Chunk.extent
  count_mem : 0 < layout.dataChunks.length ∧ layout.dataChunks.length ≤ maxDataChunks
  inside : ∀ extent ∈ layout.dataChunks, extent.1 + extent.2 ≤ file.length
  disjoint : layout.dataChunks.Pairwise fun a b ↦ a.1 + a.2 ≤ b.1
  aligned : ∀ extent ∈ layout.dataChunks, 0 < extent.2 ∧ layout.blockAlign ∣ extent.2
  frames : layout.frameCount * layout.blockAlign = (layout.dataChunks.map Prod.snd).sum

/-! ### What a successful walk has visited -/

section

variable {file : List UInt8} {riffEnd position : ℕ} {found final : Found} {chunk : Chunk}
  {chunks : List Chunk} {format : WaveFormat}

theorem u16_eq_ok {value : List UInt8} {n : ℕ} :
    u16 value = .ok n ↔ value.length = 2 ∧ littleEndian value = n := by
  simp [u16]

theorem u32_eq_ok {value : List UInt8} {n : ℕ} :
    u32 value = .ok n ↔ value.length = 4 ∧ littleEndian value = n := by
  simp [u32]

theorem describes_of_readFormat (h : readFormat file chunk.start chunk.size = .ok format) :
    chunk.Describes file format := by
  simp only [readFormat, bind_eq_ok, require_eq_ok, pure_eq_ok, u16_eq_ok, u32_eq_ok,
    exists_const] at h
  obtain ⟨hlarge, -, audioFormat, ⟨-, hpcm⟩, channels, ⟨-, hchannels⟩, sampleRate, ⟨-, hrate⟩,
    byteRate, ⟨-, hbyteRate⟩, blockAlign, ⟨-, halign⟩, bits, ⟨-, hbits⟩, hinteger,
    ⟨hchannelsMem⟩, -, hratePos, ⟨hbitsMem⟩, -, ⟨haligned⟩, -, hbytes, rfl⟩ := h
  rw [readAt_readAt (by omega)] at hpcm hchannels hrate hbyteRate halign hbits
  exact ⟨hlarge, hpcm.trans hinteger, hchannels, hrate, hbyteRate.trans hbytes, halign, hbits,
    hchannelsMem, hratePos, hbitsMem, haligned⟩

theorem at_of_readHeader {kind : List UInt8} {size : ℕ}
    (h : readHeader file position = .ok (kind, size))
    (hend : Chunk.paddedEnd ⟨kind, position + 8, size⟩ ≤ riffEnd) :
    Chunk.At file riffEnd position ⟨kind, position + 8, size⟩ := by
  simp only [readHeader, bind_eq_ok, require_eq_ok, pure_eq_ok, u32_eq_ok, exists_const,
    Prod.mk.injEq] at h
  obtain ⟨hheader, size, ⟨-, hsize⟩, rfl, rfl⟩ := h
  have hle := le_of_length_readAt (by omega) hheader
  rw [readAt_readAt (by omega)] at hsize
  exact ⟨rfl, hle, readAt_readAt (by omega), hsize.symm, hend⟩

/-- A walk that succeeds has visited chunks that lie one after another. -/
theorem tiled_of_scanChunks (hposition : position ≤ riffEnd)
    (h : scanChunks file riffEnd position found = .ok final) :
    ∃ chunks, Tiled file riffEnd position chunks ∧
      chunks.foldlM (visitChunk file) found = .ok final := by
  induction hleft : riffEnd - position using Nat.strongRecOn generalizing position found with
  | ind left ih =>
    rw [scanChunks] at h
    split_ifs at h with hroom
    · simp only [bind_eq_ok, require_eq_ok, exists_const, Prod.exists] at h
      obtain ⟨kind, size, hheader, ⟨-, hend⟩, visited, hvisit, hrest⟩ := h
      have hchunk := at_of_readHeader hheader hend
      have hprogress : position + 8 ≤ Chunk.paddedEnd ⟨kind, position + 8, size⟩ := by
        simp only [Chunk.paddedEnd]
        omega
      obtain ⟨rest, htiled, hfold⟩ := ih _ (by omega) hend hrest rfl
      refine ⟨_, .chunk hchunk htiled, ?_⟩
      rw [List.foldlM_cons, hvisit]
      exact hfold
    · exact ⟨[], .stop hposition (by omega), h⟩

theorem visitChunk_cases (h : visitChunk file found chunk = .ok final) :
    (chunk.IsFormat ∧ found.fmt = none ∧ ∃ format, chunk.Describes file format ∧
      final = { found with fmt := some format }) ∨
    (chunk.IsData ∧ 0 < chunk.size ∧ found.dataChunks.length < maxDataChunks ∧
      final = { found with dataChunks := found.dataChunks ++ [chunk.extent] }) ∨
    (¬chunk.IsFormat ∧ ¬chunk.IsData ∧ final = found) := by
  unfold visitChunk at h
  split_ifs at h with hformat hdata
  · simp only [bind_eq_ok, require_eq_ok, pure_eq_ok, exists_const] at h
    obtain ⟨hnone, format, hread, rfl⟩ := h
    exact .inl ⟨hformat, hnone, format, describes_of_readFormat hread, rfl⟩
  · simp only [bind_eq_ok, require_eq_ok, pure_eq_ok, exists_const] at h
    obtain ⟨hpos, hcount, rfl⟩ := h
    exact .inr (.inl ⟨hdata, hpos, hcount, rfl⟩)
  · exact .inr (.inr ⟨hformat, hdata, (pure_eq_ok.mp h).symm⟩)

theorem not_isData_of_isFormat (h : chunk.IsFormat) : ¬chunk.IsData :=
  fun hdata ↦ absurd (h.symm.trans hdata) (by decide)

theorem fmt_of_visits (h : chunks.foldlM (visitChunk file) found = .ok final) :
    (final.fmt = found.fmt ∧ chunks.filter (·.IsFormat) = []) ∨
    (found.fmt = none ∧ ∃ chunk format, final.fmt = some format ∧
      chunks.filter (·.IsFormat) = [chunk] ∧ chunk.Describes file format) := by
  induction chunks generalizing found with
  | nil => exact .inl ⟨congrArg Found.fmt (pure_eq_ok.mp h).symm, rfl⟩
  | cons first rest ih =>
    rw [List.foldlM_cons, bind_eq_ok] at h
    obtain ⟨visited, hfirst, hrest⟩ := h
    obtain ⟨hformat, hnone, format, hdescribes, rfl⟩ | ⟨hdata, -, -, rfl⟩ | ⟨hother, -, rfl⟩ :=
      visitChunk_cases hfirst
    · rw [List.filter_cons_of_pos (by simpa using hformat)]
      obtain ⟨hfmt, hnothing⟩ | ⟨hsome, -⟩ := ih hrest
      · exact .inr ⟨hnone, first, format, hfmt, by rw [hnothing], hdescribes⟩
      · cases hsome
    · have hother : ¬first.IsFormat := fun hformat ↦ not_isData_of_isFormat hformat hdata
      rw [List.filter_cons_of_neg (by simpa using hother)]
      have hrestFmt := ih hrest
      exact hrestFmt
    · rw [List.filter_cons_of_neg (by simpa using hother)]
      exact ih hrest

theorem dataChunks_of_visits (h : chunks.foldlM (visitChunk file) found = .ok final) :
    final.dataChunks = found.dataChunks ++ (chunks.filter (·.IsData)).map Chunk.extent ∧
      (∀ chunk ∈ chunks.filter (·.IsData), 0 < chunk.size) ∧
      (found.dataChunks.length ≤ maxDataChunks → final.dataChunks.length ≤ maxDataChunks) := by
  induction chunks generalizing found with
  | nil =>
    obtain rfl := pure_eq_ok.mp h
    exact ⟨(List.append_nil _).symm, fun _ hmem ↦ absurd hmem List.not_mem_nil, id⟩
  | cons first rest ih =>
    rw [List.foldlM_cons, bind_eq_ok] at h
    obtain ⟨visited, hfirst, hrest⟩ := h
    obtain ⟨hdata, hpos, hcount⟩ := ih hrest
    obtain ⟨hformat, -, format, -, rfl⟩ | ⟨hisData, hsize, hroom, rfl⟩ | ⟨-, hother, rfl⟩ :=
      visitChunk_cases hfirst
    · rw [List.filter_cons_of_neg (by simpa using not_isData_of_isFormat hformat)]
      exact ⟨hdata, hpos, hcount⟩
    · rw [List.filter_cons_of_pos (by simpa using hisData)]
      refine ⟨?_, List.forall_mem_cons.mpr ⟨hsize, hpos⟩, fun _ ↦ hcount ?_⟩
      · rw [hdata, List.append_assoc, List.map_cons, List.singleton_append]
      · rw [List.length_append, List.length_singleton]
        exact hroom
    · rw [List.filter_cons_of_neg (by simpa using hother)]
      exact ⟨hdata, hpos, hcount⟩

/-! ### Where the chunks of a container lie -/

theorem Tiled.bounds (h : Tiled file riffEnd position chunks) :
    ∀ chunk ∈ chunks, position + 8 ≤ chunk.start ∧ chunk.paddedEnd ≤ riffEnd := by
  induction h with
  | stop => exact fun _ hmem ↦ absurd hmem List.not_mem_nil
  | @chunk position first rest hfirst hrest ih =>
    have hprogress : first.start ≤ first.paddedEnd := by
      simp only [Chunk.paddedEnd]
      omega
    refine List.forall_mem_cons.mpr
      ⟨⟨Nat.le_of_eq hfirst.start_eq.symm, hfirst.paddedEnd_le⟩, fun chunk hmem ↦ ?_⟩
    have hstart := hfirst.start_eq
    obtain ⟨hlow, hhigh⟩ := ih chunk hmem
    exact ⟨by omega, hhigh⟩

/-- The chunks of a container are apart. -/
theorem Tiled.pairwise (h : Tiled file riffEnd position chunks) :
    chunks.Pairwise fun a b ↦ a.paddedEnd ≤ b.start := by
  induction h with
  | stop => exact List.Pairwise.nil
  | @chunk position first rest hfirst hrest ih =>
    refine List.pairwise_cons.mpr ⟨fun chunk hmem ↦ ?_, ih⟩
    have := (hrest.bounds chunk hmem).1
    omega

end

/-- What the parser accepts is a container, and the layout describes it. -/
theorem isWave_of_inspect {file : List UInt8} {layout : WaveLayout}
    (h : inspectPcmLayout file file.length = .ok layout) : IsWave file layout := by
  simp only [inspectPcmLayout, bind_eq_ok, require_eq_ok, pure_eq_ok, u32_eq_ok, orRaise_eq_ok,
    exists_const] at h
  obtain ⟨hsmall, hlarge, ⟨-, hriff, hwave⟩, riffSize, ⟨-, hsize⟩, ⟨hriffEnd, hheader⟩, found,
    hscan, fmt, hfmt, hsome, haligned, hframes, rfl⟩ := h
  rw [readAt_readAt (by omega)] at hriff hwave hsize
  subst hsize
  obtain ⟨chunks, htiled, hvisits⟩ := tiled_of_scanChunks hheader hscan
  obtain ⟨hdata, hpos, hcount⟩ := dataChunks_of_visits hvisits
  rw [List.nil_append] at hdata
  obtain ⟨hnone, -⟩ | ⟨-, chunk, format, hformat, honly, hdescribes⟩ := fmt_of_visits hvisits
  · exact absurd (hfmt.symm.trans hnone) (Option.some_ne_none fmt)
  obtain rfl := Option.some.inj (hfmt.symm.trans hformat)
  have hextent : ∀ extent ∈ found.dataChunks, ∃ chunk ∈ chunks.filter (·.IsData),
      chunk.extent = extent := fun extent hmem ↦ List.mem_map.mp (hdata ▸ hmem)
  refine ⟨⟨hsmall, hlarge⟩, hriff, hwave, hriffEnd,
    ⟨chunks, chunk, htiled, honly, hdescribes, hdata⟩,
    ⟨List.length_pos_of_ne_nil hsome, hcount (Nat.zero_le _)⟩, ?_, ?_, ?_, ?_⟩
  · intro extent hmem
    obtain ⟨chunk, hchunk, rfl⟩ := hextent extent hmem
    have hend := (htiled.bounds chunk (List.mem_of_mem_filter hchunk)).2
    simp only [Chunk.paddedEnd] at hend
    show chunk.start + chunk.size ≤ file.length
    omega
  · rw [hdata]
    refine List.pairwise_map.mpr ((htiled.pairwise.filter _).imp fun {a b} hapart ↦ ?_)
    simp only [Chunk.paddedEnd] at hapart
    show a.start + a.size ≤ b.start
    omega
  · intro extent hmem
    obtain ⟨chunk, hchunk, rfl⟩ := hextent extent hmem
    exact ⟨hpos chunk hchunk, Nat.dvd_of_mod_eq_zero (haligned _ hmem)⟩
  · refine Nat.div_mul_cancel (List.dvd_sum fun size hmem ↦ ?_)
    obtain ⟨extent, hextent, rfl⟩ := List.mem_map.mp hmem
    exact Nat.dvd_of_mod_eq_zero (haligned extent hextent)

end N0te.Audio
