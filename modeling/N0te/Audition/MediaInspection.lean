import N0te.Audio.SampleReader

/-!
# Which media can be auditioned

`inspect_audition_media` takes a file for WAV when a walk over its chunks succeeds, and else for MP3
when an MPEG frame header stands in its first bytes. The walk of the engineering parser ends with
the declared RIFF payload and this one with the file, so the two differ by what follows the payload;
and a RIFF/WAVE file that fails the walk may pass for MP3 (`readers_agree_iff`).

Scope. A file is its bytes, and of reading the position and the length asked for are kept.
-/

set_option autoImplicit false
set_option relaxedAutoImplicit false

namespace N0te.Audition

open Library Audio

/-! ### The reader -/

/-- The outcome of an inspection, with the positions and lengths of its reads. -/
abbrev Inspected (α : Type) := List (ℕ × ℕ) × α

/-- The format that `_valid_wave` takes. -/
def validFormat (fmt : List UInt8) : Bool :=
  let audioFormat := littleEndian (readAt fmt 0 2)
  let channels := littleEndian (readAt fmt 2 2)
  let sampleRate := littleEndian (readAt fmt 4 4)
  let byteRate := littleEndian (readAt fmt 8 4)
  let blockAlign := littleEndian (readAt fmt 12 2)
  let bitsPerSample := littleEndian (readAt fmt 14 2)
  (audioFormat = 1 ∨ audioFormat = 3) && 0 < channels && 0 < sampleRate && 0 < byteRate &&
    0 < blockAlign && 0 < bitsPerSample

/-- What `_valid_wave` asks of a chunk. -/
def inspectChunk (file : List UInt8) (chunk : Chunk) : Inspected Bool :=
  if chunk.IsFormat then
    if chunk.size < 16 then ([], false)
    else
      let fmt := readAt file chunk.start 16
      ([(chunk.start, 16)], fmt.length = 16 && validFormat fmt)
  else if chunk.IsData then ([], 0 < chunk.size)
  else ([], true)

def chunkOf (chunkHeader : List UInt8) (position : ℕ) : Chunk :=
  ⟨readAt chunkHeader 0 4, position + 8, littleEndian (readAt chunkHeader 4 4)⟩

theorem lt_paddedEnd_chunkOf (chunkHeader : List UInt8) (position : ℕ) :
    position < (chunkOf chunkHeader position).paddedEnd := by
  show position < position + 8 + _ + _
  omega

/-- The loop over the chunks of `_valid_wave`. -/
def walkChunks (file : List UInt8) (position : ℕ) (haveFmt haveData : Bool) : Inspected Bool :=
  if position + 8 ≤ file.length then
    let chunkHeader := readAt file position 8
    if chunkHeader.length ≠ 8 then ([(position, 8)], false)
    else
      let chunk := chunkOf chunkHeader position
      if file.length < chunk.start + chunk.size ∨ file.length < chunk.paddedEnd then
        ([(position, 8)], false)
      else
        let inspected := inspectChunk file chunk
        if inspected.2 then
          let rest := walkChunks file chunk.paddedEnd (haveFmt || chunk.IsFormat)
            (haveData || chunk.IsData)
          ((position, 8) :: inspected.1 ++ rest.1, rest.2)
        else ((position, 8) :: inspected.1, false)
  else ([], haveFmt && haveData)
termination_by file.length - position
decreasing_by
  have := lt_paddedEnd_chunkOf (readAt file position 8) position
  omega

/-- `_valid_wave`. -/
def validWave (file : List UInt8) : Inspected Bool :=
  if file.length < 44 then ([], false)
  else
    let header := readAt file 0 12
    if header.length ≠ 12 ∨ readAt header 0 4 ≠ ascii "RIFF" ∨ readAt header 8 4 ≠ ascii "WAVE" then
      ([(0, 12)], false)
    else if file.length < littleEndian (readAt header 4 4) + 8 then ([(0, 12)], false)
    else
      let walked := walkChunks file 12 false false
      ((0, 12) :: walked.1, walked.2)

/-- `_synchsafe_u32`. -/
def synchsafeU32 (value : List UInt8) : Option ℕ :=
  if value.length ≠ 4 ∨ ∃ byte ∈ value, 0x80 ≤ byte then none
  else some (value.foldl (fun result byte ↦ result * 2 ^ 7 + byte.toNat) 0)

/-- `_valid_mpeg_audio_header`. -/
def validMpegAudioHeader : List UInt8 → Bool
  | first :: second :: third :: _ :: _ =>
    let versionBits := second / 8 % 4
    let layerBits := second / 2 % 4
    let bitrateIndex := third / 16
    let sampleRateIndex := third / 4 % 4
    first = 0xff && second / 32 = 7 && versionBits ≠ 1 && layerBits ≠ 0 &&
      (bitrateIndex ≠ 0 && bitrateIndex ≠ 15) && sampleRateIndex ≠ 3
  | _ => false

/-- Where the frames of an MP3 file start: after its ID3 tag, if it has one. -/
def framesOffset (start : List UInt8) (sizeBytes : ℕ) : Option ℕ :=
  if readAt start 0 3 = ascii "ID3" then
    if start.length ≠ 10 ∨ start[3]? = some 0xff ∨ start[4]? = some 0xff then none
    else
      (synchsafeU32 (readAt start 6 4)).bind fun tagSize ↦
        let footer := if (start[5]?.getD 0) / 16 % 2 = 1 then 10 else 0
        let offset := 10 + tagSize + footer
        if sizeBytes < offset + 4 then none else some offset
  else some 0

/-- A frame header stands in some bytes. -/
def hasFrame (scan : List UInt8) : Bool :=
  (List.range (scan.length - 3)).any fun index ↦ validMpegAudioHeader (readAt scan index 4)

/-- `_valid_mp3`. -/
def validMp3 (file : List UInt8) : Inspected Bool :=
  if file.length < 4 then ([], false)
  else
    match framesOffset (readAt file 0 10) file.length with
    | none => ([(0, 10)], false)
    | some offset =>
      let count := min 4096 (file.length - offset)
      ([(0, 10), (offset, count)], hasFrame (readAt file offset count))

/-- `content_type`. -/
inductive ContentType where
  | wav
  | mpeg
  deriving DecidableEq

def ContentType.text : ContentType → String
  | .wav => "audio/wav"
  | .mpeg => "audio/mpeg"

/-- `AuditionMedia`, without its path. -/
structure AuditionMedia where
  contentType : ContentType
  sizeBytes : ℕ
  deriving DecidableEq

/-- An `UnsupportedAuditionMedia`. -/
structure UnsupportedAuditionMedia where
  message : String
  deriving DecidableEq

/-- `inspect_audition_media` of a regular file. -/
def inspectAuditionMedia (file : List UInt8) :
    Inspected (Except UnsupportedAuditionMedia AuditionMedia) :=
  if file.length = 0 then ([], .error ⟨"empty material is not auditionable"⟩)
  else
    let wave := validWave file
    if wave.2 then (wave.1, .ok ⟨.wav, file.length⟩)
    else
      let mp3 := validMp3 file
      if mp3.2 then (wave.1 ++ mp3.1, .ok ⟨.mpeg, file.length⟩)
      else (wave.1 ++ mp3.1,
        .error ⟨"only structurally verified WAV and MP3 material is auditionable here"⟩)

/-! ### Chunks that can be played -/

/-- What is asked of a chunk: a format is complete and its numbers are positive, and data are not
empty. -/
structure Playable (file : List UInt8) (chunk : Chunk) : Prop where
  format : chunk.IsFormat → 16 ≤ chunk.size ∧ validFormat (readAt file chunk.start 16) = true
  data : chunk.IsData → 0 < chunk.size

/-- Chunks from a position on to the end of the file, all of which can be played. -/
def PlayableFrom (file : List UInt8) (position : ℕ) (chunks : List Chunk) : Prop :=
  Tiled file file.length position chunks ∧ ∀ chunk ∈ chunks, Playable file chunk

def StartsRiffWave (file : List UInt8) : Prop :=
  readAt file 0 4 = ascii "RIFF" ∧ readAt file 8 4 = ascii "WAVE"

/-- A RIFF/WAVE file that can be played: up to its end it consists of chunks, with a format and
data. -/
structure PlayableWave (file : List UInt8) : Prop where
  size : 44 ≤ file.length
  header : StartsRiffWave file
  riffEnd_le : littleEndian (readAt file 4 4) + 8 ≤ file.length
  chunks : ∃ chunks, PlayableFrom file 12 chunks ∧ (∃ chunk ∈ chunks, chunk.IsFormat) ∧
    ∃ chunk ∈ chunks, chunk.IsData

def endOf : ℕ → List Chunk → ℕ
  | position, [] => position
  | _, chunk :: rest => endOf chunk.paddedEnd rest

/-- What follows the chunks of the RIFF payload is chunks that can be played, to the end of the
file. -/
def TailPlayable (file : List UInt8) : Prop :=
  ∀ chunks, Tiled file (littleEndian (readAt file 4 4) + 8) 12 chunks →
    ∃ rest, PlayableFrom file (endOf 12 chunks) rest

/-- An MPEG frame header stands in the first bytes of a file. -/
def FrameNearStart (file : List UInt8) : Prop :=
  ∃ index, index + 4 ≤ min 4096 file.length ∧ validMpegAudioHeader (readAt file index 4) = true

/-! ### What the walk finds -/

section

variable {file : List UInt8} {position : ℕ}

/-- A chunk passes exactly if it can be played. -/
theorem inspectChunk_iff {chunk : Chunk} (hinside : chunk.start + chunk.size ≤ file.length) :
    (inspectChunk file chunk).2 = true ↔ Playable file chunk := by
  unfold inspectChunk
  split_ifs with hformat hsmall hdata
  · constructor
    · intro h
      exact h.elim
    · intro h
      exact absurd (h.format hformat).1 (Nat.not_le.mpr hsmall)
  · have hlarge : 16 ≤ chunk.size := Nat.not_lt.mp hsmall
    have hlength : (readAt file chunk.start 16).length = 16 := length_readAt_eq (by omega)
    simp only [hlength, decide_true, Bool.true_and]
    constructor
    · intro h
      exact ⟨fun _ ↦ ⟨hlarge, h⟩, fun hdata ↦ absurd hdata (not_isData_of_isFormat hformat)⟩
    · intro h
      exact (h.format hformat).2
  · rw [decide_eq_true_iff]
    exact ⟨fun h ↦ ⟨fun hformat' ↦ absurd hformat' hformat, fun _ ↦ h⟩, fun h ↦ h.data hdata⟩
  · exact ⟨fun _ ↦ ⟨fun h ↦ absurd h hformat, fun h ↦ absurd h hdata⟩, fun _ ↦ rfl⟩

theorem at_chunkOf (hroom : position + 8 ≤ file.length)
    (hend : (chunkOf (readAt file position 8) position).paddedEnd ≤ file.length) :
    Chunk.At file file.length position (chunkOf (readAt file position 8) position) :=
  ⟨rfl, hroom, readAt_readAt (by omega), congrArg littleEndian (readAt_readAt (by omega)), hend⟩

theorem eq_chunkOf {stop : ℕ} {chunk : Chunk} (h : Chunk.At file stop position chunk) :
    chunk = chunkOf (readAt file position 8) position := by
  obtain ⟨kind, start, size⟩ := chunk
  have hstart : start = position + 8 := h.start_eq
  have hkind : kind = readAt file position 4 := h.kind_eq
  have hsize : size = littleEndian (readAt file (position + 4) 4) := h.size_eq
  rw [chunkOf, readAt_readAt (by omega), readAt_readAt (by omega), hstart, hkind, hsize]
  rfl

/-- Where there is room for a chunk header, the chunks to the end start with that chunk. -/
theorem playableFrom_iff_of_room (hroom : position + 8 ≤ file.length) {chunks : List Chunk} :
    PlayableFrom file position chunks ↔
      ∃ rest, chunks = chunkOf (readAt file position 8) position :: rest ∧
        (chunkOf (readAt file position 8) position).paddedEnd ≤ file.length ∧
        Playable file (chunkOf (readAt file position 8) position) ∧
        PlayableFrom file (chunkOf (readAt file position 8) position).paddedEnd rest := by
  constructor
  · rintro ⟨htiled, hplayable⟩
    cases htiled with
    | stop hle hshort => exact absurd hroom (Nat.not_le.mpr hshort)
    | chunk hchunk hrest =>
      obtain ⟨hfirst, hlater⟩ := List.forall_mem_cons.mp hplayable
      have hsame := eq_chunkOf hchunk
      have hend := hchunk.paddedEnd_le
      rw [hsame] at hfirst hrest hend
      exact ⟨_, congrArg (· :: _) hsame, hend, hfirst, hrest, hlater⟩
  · rintro ⟨rest, rfl, hend, hfirst, hrest, hlater⟩
    exact ⟨.chunk (at_chunkOf hroom hend) hrest, List.forall_mem_cons.mpr ⟨hfirst, hlater⟩⟩

/-- Else there are no more chunks. -/
theorem playableFrom_iff_of_short (hposition : position ≤ file.length)
    (hshort : file.length < position + 8) {chunks : List Chunk} :
    PlayableFrom file position chunks ↔ chunks = [] := by
  constructor
  · rintro ⟨htiled, -⟩
    cases htiled with
    | stop => rfl
    | chunk hchunk hrest =>
      have hstart := hchunk.start_eq
      have hle := hchunk.start_le
      omega
  · rintro rfl
    exact ⟨.stop hposition hshort, List.forall_mem_nil _⟩

/-- The walk succeeds exactly if chunks that can be played lie from its position to the end of the
file, and a format and data are or were among them. -/
theorem walkChunks_iff (hposition : position ≤ file.length) (haveFmt haveData : Bool) :
    (walkChunks file position haveFmt haveData).2 = true ↔
      ∃ chunks, PlayableFrom file position chunks ∧
        (haveFmt = true ∨ ∃ chunk ∈ chunks, chunk.IsFormat) ∧
        (haveData = true ∨ ∃ chunk ∈ chunks, chunk.IsData) := by
  induction hleft : file.length - position using Nat.strongRecOn
    generalizing position haveFmt haveData with
  | ind left ih =>
    rw [walkChunks]
    by_cases hroom : position + 8 ≤ file.length
    · have hprogress := lt_paddedEnd_chunkOf (readAt file position 8) position
      have hlength : (readAt file position 8).length = 8 := length_readAt_eq hroom
      simp only [playableFrom_iff_of_room hroom, if_pos hroom, hlength, ne_eq, not_true_eq_false,
        if_false]
      obtain ⟨chunk, hchunk⟩ : ∃ chunk, chunk = chunkOf (readAt file position 8) position := ⟨_, rfl⟩
      rw [← hchunk] at hprogress ⊢
      have hpadded : chunk.start + chunk.size ≤ chunk.paddedEnd := Nat.le_add_right _ _
      by_cases hend : chunk.paddedEnd ≤ file.length
      · rw [if_neg (by omega)]
        have hinspect := inspectChunk_iff (hpadded.trans hend)
        split_ifs with hpass
        · rw [ih _ (by omega) hend _ _ rfl]
          constructor
          · rintro ⟨rest, hrest, hfmt, hdata⟩
            refine ⟨chunk :: rest, ⟨rest, rfl, hend, hinspect.mp hpass, hrest⟩, ?_, ?_⟩
            · simpa [or_assoc] using hfmt
            · simpa [or_assoc] using hdata
          · rintro ⟨_, ⟨rest, rfl, -, -, hrest⟩, hfmt, hdata⟩
            refine ⟨rest, hrest, ?_, ?_⟩
            · simpa [or_assoc] using hfmt
            · simpa [or_assoc] using hdata
        · refine iff_of_false not_false ?_
          rintro ⟨_, ⟨rest, -, -, hplayable, -⟩, -⟩
          exact hpass (hinspect.mpr hplayable)
      · rw [if_pos (.inr (Nat.not_le.mp hend))]
        refine iff_of_false Bool.false_ne_true ?_
        rintro ⟨_, ⟨rest, -, hend', -⟩, -⟩
        exact hend hend'
    · simp [if_neg hroom, playableFrom_iff_of_short hposition (Nat.not_le.mp hroom)]

/-- `_valid_wave` takes the RIFF/WAVE files that can be played. -/
theorem validWave_iff : (validWave file).2 = true ↔ PlayableWave file := by
  unfold validWave
  by_cases hsize : 44 ≤ file.length
  · have hlength : (readAt file 0 12).length = 12 := length_readAt_eq (by omega)
    rw [if_neg (Nat.not_lt.mpr hsize)]
    simp only [hlength, readAt_readAt (show 0 + 4 ≤ 12 by omega),
      readAt_readAt (show 8 + 4 ≤ 12 by omega), readAt_readAt (show 4 + 4 ≤ 12 by omega),
      Nat.zero_add, ne_eq, not_true_eq_false, false_or]
    split_ifs with hheader hriff
    · refine iff_of_false not_false fun h ↦ ?_
      rcases hheader with hheader | hheader
      · exact hheader h.header.1
      · exact hheader h.header.2
    · exact iff_of_false not_false fun h ↦ absurd h.riffEnd_le (Nat.not_le.mpr hriff)
    · obtain ⟨hstart, hwave⟩ := not_or.mp hheader
      rw [walkChunks_iff (by omega)]
      simp only [Bool.false_eq_true, false_or]
      constructor
      · intro hchunks
        exact ⟨hsize, ⟨not_not.mp hstart, not_not.mp hwave⟩, Nat.not_lt.mp hriff, hchunks⟩
      · intro h
        exact h.chunks
  · rw [if_pos (Nat.not_le.mp hsize)]
    exact iff_of_false Bool.false_ne_true fun h ↦ hsize h.size

/-! ### MP3 frames -/

/-- A frame header is looked for at every position of some bytes. -/
theorem hasFrame_iff {count : ℕ} (hcount : position + count ≤ file.length) :
    hasFrame (readAt file position count) = true ↔
      ∃ index, index + 4 ≤ count ∧ validMpegAudioHeader (readAt file (position + index) 4) = true := by
  rw [hasFrame, length_readAt_eq hcount, List.any_eq_true]
  constructor
  · rintro ⟨index, hindex, hvalid⟩
    have hfits : index + 4 ≤ count := by
      rw [List.mem_range] at hindex
      omega
    exact ⟨index, hfits, (readAt_readAt hfits) ▸ hvalid⟩
  · rintro ⟨index, hfits, hvalid⟩
    refine ⟨index, List.mem_range.mpr (by omega), ?_⟩
    rwa [readAt_readAt hfits]

/-- A RIFF/WAVE file has no ID3 tag. -/
theorem framesOffset_of_startsRiffWave (h : StartsRiffWave file) (sizeBytes : ℕ) :
    framesOffset (readAt file 0 10) sizeBytes = some 0 := by
  have hstart : readAt (readAt file 0 10) 0 3 = readAt (readAt file 0 4) 0 3 := by
    rw [readAt_readAt (by omega), readAt_readAt (by omega)]
  rw [framesOffset, hstart, h.1, if_neg (by decide)]

/-- A RIFF/WAVE file passes for MP3 if a frame header stands in its first bytes. -/
theorem validMp3_iff_of_startsRiffWave (h : StartsRiffWave file) (hsize : 4 ≤ file.length) :
    (validMp3 file).2 = true ↔ FrameNearStart file := by
  rw [validMp3, if_neg (Nat.not_lt.mpr hsize), framesOffset_of_startsRiffWave h]
  dsimp only
  rw [Nat.sub_zero, hasFrame_iff (by omega)]
  simp only [Nat.zero_add]
  exact Iff.rfl

end

/-! ### The reads -/

/-- A read lies inside a file, or is the one of the first ten bytes, of which a shorter file returns
what it has. -/
def InsideFile (file : List UInt8) (read : ℕ × ℕ) : Prop :=
  read.1 + read.2 ≤ file.length ∨ read = (0, 10)

section

variable {file : List UInt8} {position : ℕ}

theorem inspectChunk_reads {chunk : Chunk} (hinside : chunk.start + chunk.size ≤ file.length) :
    ∀ read ∈ (inspectChunk file chunk).1, InsideFile file read := by
  unfold inspectChunk
  split_ifs with hformat hsmall hdata
  · exact List.forall_mem_nil _
  · rw [List.forall_mem_singleton]
    left
    show chunk.start + 16 ≤ file.length
    omega
  · exact List.forall_mem_nil _
  · exact List.forall_mem_nil _

theorem walkChunks_reads (haveFmt haveData : Bool) :
    ∀ read ∈ (walkChunks file position haveFmt haveData).1, InsideFile file read := by
  induction hleft : file.length - position using Nat.strongRecOn
    generalizing position haveFmt haveData with
  | ind left ih =>
    rw [walkChunks]
    by_cases hroom : position + 8 ≤ file.length
    · have hprogress := lt_paddedEnd_chunkOf (readAt file position 8) position
      rw [if_pos hroom]
      dsimp only
      obtain ⟨chunk, hchunk⟩ : ∃ chunk, chunk = chunkOf (readAt file position 8) position := ⟨_, rfl⟩
      rw [← hchunk] at hprogress ⊢
      have hheader : InsideFile file (position, 8) := .inl hroom
      split_ifs with hlength hlarge hpass
      · exact List.forall_mem_singleton.mpr hheader
      · exact List.forall_mem_singleton.mpr hheader
      · have hchunkReads : ∀ read ∈ (inspectChunk file chunk).1, InsideFile file read :=
          inspectChunk_reads (by omega)
        rw [List.cons_append, List.forall_mem_cons, List.forall_mem_append]
        exact ⟨hheader, hchunkReads, ih _ (by omega) _ _ rfl⟩
      · have hchunkReads : ∀ read ∈ (inspectChunk file chunk).1, InsideFile file read :=
          inspectChunk_reads (by omega)
        exact List.forall_mem_cons.mpr ⟨hheader, hchunkReads⟩
    · rw [if_neg hroom]
      exact List.forall_mem_nil _

theorem validWave_reads : ∀ read ∈ (validWave file).1, InsideFile file read := by
  unfold validWave
  dsimp only
  split_ifs with hsize
  · exact List.forall_mem_nil _
  all_goals
    have hfirst : InsideFile file (0, 12) := .inl (show 0 + 12 ≤ file.length by omega)
  · exact List.forall_mem_singleton.mpr hfirst
  · exact List.forall_mem_singleton.mpr hfirst
  · exact List.forall_mem_cons.mpr ⟨hfirst, walkChunks_reads _ _⟩

/-- The frames of an MP3 file start inside the file. -/
theorem framesOffset_le {start : List UInt8} {sizeBytes offset : ℕ} (hsize : 4 ≤ sizeBytes)
    (h : framesOffset start sizeBytes = some offset) : offset + 4 ≤ sizeBytes := by
  unfold framesOffset at h
  by_cases hid : readAt start 0 3 = ascii "ID3"
  · rw [if_pos hid, Option.ite_none_left_eq_some, Option.bind_eq_some_iff] at h
    obtain ⟨-, tagSize, -, h⟩ := h
    dsimp only at h
    rw [Option.ite_none_left_eq_some, Option.some.injEq] at h
    omega
  · rw [if_neg hid, Option.some.injEq] at h
    omega

theorem validMp3_reads : ∀ read ∈ (validMp3 file).1, InsideFile file read := by
  unfold validMp3
  split_ifs with hsize
  · exact List.forall_mem_nil _
  · cases hoffset : framesOffset (readAt file 0 10) file.length with
    | none => exact List.forall_mem_singleton.mpr (.inr rfl)
    | some offset =>
      have hle := framesOffset_le (Nat.not_lt.mp hsize) hoffset
      refine List.forall_mem_cons.mpr ⟨.inr rfl, List.forall_mem_singleton.mpr (.inl ?_)⟩
      show offset + min 4096 (file.length - offset) ≤ file.length
      omega

/-- An inspection reads inside the file alone. -/
theorem inspectAuditionMedia_reads :
    ∀ read ∈ (inspectAuditionMedia file).1, InsideFile file read := by
  have hboth : ∀ read ∈ (validWave file).1 ++ (validMp3 file).1, InsideFile file read :=
    List.forall_mem_append.mpr ⟨validWave_reads, validMp3_reads⟩
  unfold inspectAuditionMedia
  dsimp only
  split_ifs
  · exact List.forall_mem_nil _
  · exact validWave_reads
  · exact hboth
  · exact hboth

end

/-! ### What follows the payload -/

section

variable {file : List UInt8} {stop position : ℕ} {chunks : List Chunk}

/-- Chunks up to an end, and those that follow to the end of the file. -/
theorem playableFrom_append (h : Tiled file stop position chunks) (hstop : stop ≤ file.length)
    (hplayable : ∀ chunk ∈ chunks, Playable file chunk) {rest : List Chunk}
    (hrest : PlayableFrom file (endOf position chunks) rest) :
    PlayableFrom file position (chunks ++ rest) := by
  induction h with
  | stop => exact hrest
  | chunk hchunk _ ih =>
    obtain ⟨hfirst, hlater⟩ := List.forall_mem_cons.mp hplayable
    obtain ⟨htiled, hall⟩ := ih hlater hrest
    exact ⟨.chunk { hchunk with paddedEnd_le := hchunk.paddedEnd_le.trans hstop } htiled,
      List.forall_mem_cons.mpr ⟨hfirst, hall⟩⟩

/-- The chunks to the end of the file are those up to an end and more. -/
theorem exists_playableFrom_endOf (h : Tiled file stop position chunks) {all : List Chunk}
    (hall : PlayableFrom file position all) :
    ∃ rest, PlayableFrom file (endOf position chunks) rest := by
  induction h generalizing all with
  | stop => exact ⟨all, hall⟩
  | chunk hchunk _ ih =>
    have hroom := hchunk.start_eq ▸ hchunk.start_le
    obtain ⟨rest, -, -, -, hrest⟩ := (playableFrom_iff_of_room hroom).mp hall
    rw [← eq_chunkOf hchunk] at hrest
    exact ih hrest

/-- An integer PCM format is one that can be played. -/
theorem validFormat_of_describes {chunk : Chunk} {format : WaveFormat}
    (h : chunk.Describes file format) : validFormat (readAt file chunk.start 16) = true := by
  have hbits : ∀ bits ∈ supportedBits, 0 < bits := by decide
  have hrate : 0 < format.sampleRate * format.blockAlign :=
    Nat.mul_pos h.sampleRate_pos format.blockAlign_pos
  unfold validFormat
  simp only [readAt_readAt (show 0 + 2 ≤ 16 by omega), readAt_readAt (show 2 + 2 ≤ 16 by omega),
    readAt_readAt (show 4 + 4 ≤ 16 by omega), readAt_readAt (show 8 + 4 ≤ 16 by omega),
    readAt_readAt (show 12 + 2 ≤ 16 by omega), readAt_readAt (show 14 + 2 ≤ 16 by omega),
    Nat.add_zero, h.pcm, h.channels_eq, h.sampleRate_eq, h.byteRate_eq, h.blockAlign_eq, h.bits_eq,
    h.channels_mem.1, h.sampleRate_pos, hrate, format.blockAlign_pos, hbits _ h.bits_mem]
  decide

/-- The chunks of an accepted file can be played. -/
theorem playable_of_isWave {layout : WaveLayout} {format : WaveFormat} {chunk : Chunk}
    (h : IsWave file layout) (hformat : chunks.filter (·.IsFormat) = [chunk])
    (hdescribes : chunk.Describes file format)
    (hdata : layout.dataChunks = (chunks.filter (·.IsData)).map Chunk.extent) :
    ∀ chunk ∈ chunks, Playable file chunk := by
  intro other hother
  constructor
  · intro hkind
    have hmem : other ∈ chunks.filter (·.IsFormat) :=
      List.mem_filter.mpr ⟨hother, decide_eq_true hkind⟩
    rw [hformat, List.mem_singleton] at hmem
    rw [hmem]
    exact ⟨hdescribes.large, validFormat_of_describes hdescribes⟩
  · intro hkind
    refine (h.aligned other.extent ?_).1
    rw [hdata]
    exact List.mem_map_of_mem (List.mem_filter.mpr ⟨hother, decide_eq_true hkind⟩)

/-- A file that the engineering parser accepts can be played exactly if what follows its payload
can. -/
theorem playableWave_iff_tail {layout : WaveLayout} (h : IsWave file layout) :
    PlayableWave file ↔ TailPlayable file := by
  constructor
  · intro hwave chunks htiled
    obtain ⟨all, hall, -⟩ := hwave.chunks
    exact exists_playableFrom_endOf htiled hall
  · intro htail
    obtain ⟨chunks, chunk, htiled, hformat, hdescribes, hdata⟩ := h.chunks
    obtain ⟨rest, hrest⟩ := htail chunks htiled
    have hplayable := playable_of_isWave h hformat hdescribes hdata
    refine ⟨h.size_mem.1, ⟨h.riff, h.wave⟩, h.riffEnd_le, chunks ++ rest,
      playableFrom_append htiled h.riffEnd_le hplayable hrest, ?_, ?_⟩
    · have hmem : chunk ∈ chunks.filter (·.IsFormat) := hformat ▸ List.mem_singleton_self _
      obtain ⟨hchunk, hkind⟩ := List.mem_filter.mp hmem
      exact ⟨chunk, List.mem_append_left _ hchunk, of_decide_eq_true hkind⟩
    · have hcount := h.count_mem.1
      rw [hdata, List.length_map] at hcount
      obtain ⟨found, hfound⟩ := List.exists_mem_of_length_pos hcount
      obtain ⟨hchunk, hkind⟩ := List.mem_filter.mp hfound
      exact ⟨found, List.mem_append_left _ hchunk, of_decide_eq_true hkind⟩

/-! ### Every file -/

/-- A file is WAV media exactly if it can be played. -/
theorem inspect_wav_iff : (inspectAuditionMedia file).2 = .ok ⟨.wav, file.length⟩ ↔
    PlayableWave file := by
  unfold inspectAuditionMedia
  dsimp only
  split_ifs with hempty hwave hmp3
  · refine iff_of_false (fun h ↦ nomatch h) fun h ↦ ?_
    have := h.size
    omega
  · exact iff_of_true rfl (validWave_iff.mp hwave)
  · exact iff_of_false (fun h ↦ by cases h) fun h ↦ hwave (validWave_iff.mpr h)
  · exact iff_of_false (fun h ↦ by cases h) fun h ↦ hwave (validWave_iff.mpr h)

/-- A RIFF/WAVE file is MP3 media exactly if it cannot be played and a frame header stands in its
first bytes. -/
theorem inspect_mpeg_iff (h : StartsRiffWave file) :
    (inspectAuditionMedia file).2 = .ok ⟨.mpeg, file.length⟩ ↔
      ¬ PlayableWave file ∧ FrameNearStart file := by
  have hsize : 4 ≤ file.length := by
    have hlength := congrArg List.length h.1
    rw [length_readAt] at hlength
    have hriff : (ascii "RIFF").length = 4 := by decide
    omega
  unfold inspectAuditionMedia
  dsimp only
  split_ifs with hempty hwave hmp3
  · omega
  · exact iff_of_false (fun h ↦ by cases h) fun hnot ↦ hnot.1 (validWave_iff.mp hwave)
  · exact iff_of_true rfl
      ⟨fun hplayable ↦ hwave (validWave_iff.mpr hplayable),
        (validMp3_iff_of_startsRiffWave h hsize).mp hmp3⟩
  · exact iff_of_false (fun h ↦ by cases h) fun hnot ↦
      hmp3 ((validMp3_iff_of_startsRiffWave h hsize).mpr hnot.2)

end

/-- What is claimed of the two readers for a file. -/
structure ReadersAgree (file : List UInt8) : Prop where
  measured : ∀ layout, inspectPcmLayout file file.length = .ok layout →
    (inspectAuditionMedia file).2 = .ok ⟨.wav, file.length⟩
  not_mpeg : StartsRiffWave file → (inspectAuditionMedia file).2 ≠ .ok ⟨.mpeg, file.length⟩
  inside : ∀ read ∈ (inspectAuditionMedia file).1, InsideFile file read

/-- The two readers agree exactly on the files where what follows the payload of an accepted file is
chunks that can be played, and where a RIFF/WAVE file that cannot be played has no MPEG frame header
in its first bytes. Every read is inside the file. -/
theorem readers_agree_iff (file : List UInt8) :
    ReadersAgree file ↔
      (∀ layout, inspectPcmLayout file file.length = .ok layout → TailPlayable file) ∧
        (StartsRiffWave file → PlayableWave file ∨ ¬ FrameNearStart file) := by
  constructor
  · intro h
    refine ⟨fun layout haccepted ↦ ?_, fun hstart ↦ ?_⟩
    · exact (playableWave_iff_tail (isWave_of_inspect haccepted)).mp
        (inspect_wav_iff.mp (h.measured layout haccepted))
    · by_contra hnot
      obtain ⟨hplayable, hframe⟩ := not_or.mp hnot
      exact h.not_mpeg hstart ((inspect_mpeg_iff hstart).mpr ⟨hplayable, not_not.mp hframe⟩)
  · rintro ⟨htail, hframe⟩
    constructor
    · intro layout haccepted
      exact inspect_wav_iff.mpr
        ((playableWave_iff_tail (isWave_of_inspect haccepted)).mpr (htail layout haccepted))
    · intro hstart hmpeg
      obtain ⟨hplayable, hnear⟩ := (inspect_mpeg_iff hstart).mp hmpeg
      rcases hframe hstart with h | h
      · exact hplayable h
      · exact h hnear
    · exact inspectAuditionMedia_reads

/-- A file with one mono frame, and eight bytes after its payload that look like an MPEG frame
header. -/
def trailingFile : List UInt8 := sampleFile ++ [0xff, 0xfb, 0x90, 0, 0xff, 0xff, 0xff, 0x7f]

/-- The engineering parser takes it for WAV, and the audition for MP3. -/
theorem trailingFile_disagrees :
    inspectPcmLayout trailingFile trailingFile.length = .ok sampleLayout ∧
      StartsRiffWave trailingFile ∧
      (inspectAuditionMedia trailingFile).2 = .ok ⟨.mpeg, trailingFile.length⟩ ∧
      ¬ ReadersAgree trailingFile := by
  have haccepted : inspectPcmLayout trailingFile trailingFile.length = .ok sampleLayout := by
    decide +kernel
  have hstart : StartsRiffWave trailingFile := by
    constructor <;> decide
  have hmpeg : (inspectAuditionMedia trailingFile).2 = .ok ⟨.mpeg, trailingFile.length⟩ := by
    decide +kernel
  exact ⟨haccepted, hstart, hmpeg, fun h ↦ h.not_mpeg hstart hmpeg⟩

end N0te.Audition
