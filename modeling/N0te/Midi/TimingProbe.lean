import Mathlib.Data.Rat.Floor
import N0te.Midi.FrameStream

/-!
# The timing probe and the codec

The probe runs inside the host and sends the host's timing as controller messages
(`Probe.emitTiming`). `timing_codec` puts the two sides together: what the probe sends is read back
exactly, a stream gives a frame exactly where it spells one, whatever came before, and a frame with
one value changed gives none.
-/

set_option autoImplicit false
set_option relaxedAutoImplicit false

namespace N0te.Midi

open Library

/-! ### The probe -/

/-- `Math.round`: halves go up. -/
def mathRound (x : ℚ) : ℤ := ⌊x + 1 / 2⌋

/-- `_clamp7`. -/
def clamp7 (value : ℚ) : DataByte :=
  if h : mathRound value < 0 then ⟨0, by decide⟩
  else if h' : mathRound value > 127 then ⟨127, by decide⟩
  else ⟨(mathRound value).toNat, by omega, by omega⟩

/-- `TimingInfo`: the fields the probe reads. The tempo is `Number(info.tempo) * 10.0`, the double
that the probe rounds. -/
structure TimingInfo where
  tempoTimesTen : ℚ
  playing : Bool
  cycling : Bool
  meterNumerator : ℚ
  meterDenominator : ℚ

/-- The probe's variables `_sequence` and `_sessionToken`. -/
structure Probe where
  sequence : DataByte
  sessionToken : Within 0 0x0FFFFFFF

/-- `_sendCC`. -/
def sendCC (number : DataByte) (value : ℕ) : List ℤ := controlMessage (number, clamp7 value)

/-- `_checksum`. -/
def probeChecksum (values : List ℕ) : ℕ :=
  values.foldl (fun result value ↦ (result ^^^ (value &&& 0x7f)) &&& 0x7f) 0

/-- `_emitTiming`: the messages of one frame. -/
def Probe.emitTiming (probe : Probe) (info : TimingInfo) : Probe × List (List ℤ) :=
  let sequence : DataByte := ⟨(probe.sequence.val + 1) &&& 0x7f, Nat.zero_le _, Nat.and_le_right⟩
  let session0 := (probe.sessionToken.val >>> 21) &&& 0x7f
  let session1 := (probe.sessionToken.val >>> 14) &&& 0x7f
  let session2 := (probe.sessionToken.val >>> 7) &&& 0x7f
  let session3 := probe.sessionToken.val &&& 0x7f
  let rounded := mathRound info.tempoTimesTen
  let raised := if rounded < 0 then 0 else rounded
  let tempo10 := (if raised > 0x3fff then 0x3fff else raised).toNat
  let tempoMsb := (tempo10 >>> 7) &&& 0x7f
  let tempoLsb := tempo10 &&& 0x7f
  let flags := (if info.playing then 1 else 0) ||| (if info.cycling then 2 else 0)
  let numerator := clamp7 info.meterNumerator
  let denominator := clamp7 info.meterDenominator
  let sum := probeChecksum [sequence, logicProtocolVersion, session0, session1, session2, session3,
    tempoMsb, tempoLsb, flags, numerator, denominator]
  ({ probe with sequence },
    [sendCC ccStart sequence, sendCC ccVersion logicProtocolVersion, sendCC ccSession0 session0,
      sendCC ccSession1 session1, sendCC ccSession2 session2, sendCC ccSession3 session3,
      sendCC ccTempoMsb tempoMsb, sendCC ccTempoLsb tempoLsb, sendCC ccFlags flags,
      sendCC ccMeterNumerator numerator, sendCC ccMeterDenominator denominator,
      sendCC ccChecksum sum, sendCC ccEnd sequence])

/-! ### What the probe sends is a frame -/

theorem mathRound_natCast (n : ℕ) : mathRound n = n := by
  rw [mathRound, Int.floor_eq_iff]
  constructor <;> norm_num

theorem clamp7_natCast {n : ℕ} (h : n ≤ 127) : (clamp7 n).val = n := by
  have hround := mathRound_natCast n
  unfold clamp7
  rw [dif_neg (by omega), dif_neg (by omega)]
  simp [hround]

/-- The rounded tempo is within the bounds of the exact one. -/
theorem mathRound_mem {x : ℚ} {a b : ℤ} (ha : a ≤ x) (hb : x ≤ b) :
    a ≤ mathRound x ∧ mathRound x ≤ b := by
  constructor
  · exact Int.le_floor.mpr (ha.trans (by linarith))
  · refine Int.lt_add_one_iff.mp (Int.floor_lt.mpr ?_)
    push_cast
    linarith

theorem and_0x7f (n : ℕ) : n &&& 0x7f = n % 128 := Nat.and_two_pow_sub_one_eq_mod n 7

/-- The probe's checksum of data bytes is their exclusive or. -/
theorem probeChecksum_eq {values : List ℕ} (h : ∀ value ∈ values, value ≤ 127) :
    probeChecksum values = xorAll values := by
  have hfold : ∀ start ≤ 127,
      values.foldl (fun result value ↦ (result ^^^ (value &&& 0x7f)) &&& 0x7f) start =
        start ^^^ xorAll values := by
    induction values with
    | nil => simp
    | cons value rest ih =>
      intro start hstart
      have hvalue : value &&& 0x7f = value :=
        (and_0x7f value).trans (Nat.mod_eq_of_lt (Nat.lt_succ_of_le (h value List.mem_cons_self)))
      have hlt : start ^^^ value < 2 ^ 7 := Nat.xor_lt_two_pow (Nat.lt_succ_of_le hstart)
        (Nat.lt_succ_of_le (h value List.mem_cons_self))
      have hmask : (start ^^^ value) &&& 0x7f = start ^^^ value :=
        (and_0x7f _).trans (Nat.mod_eq_of_lt hlt)
      rw [List.foldl_cons, hvalue, hmask,
        ih (fun other hother ↦ h other (List.mem_cons_of_mem _ hother)) _ (by omega),
        xorAll_cons, Nat.xor_assoc]
  rw [probeChecksum, hfold 0 (by decide), Nat.zero_xor]

theorem flags_or (playing cycling : Bool) :
    ((if playing then 1 else 0) ||| (if cycling then 2 else 0) : ℕ) =
      (if playing then 1 else 0) + (if cycling then 2 else 0) := by
  cases playing <;> cases cycling <;> decide

/-- A denominator that is a power of two passes the frame's check. -/
theorem and_pred_of_two_pow : ∀ denominator ≤ 127, (∃ k, denominator = 2 ^ k) →
    denominator &&& (denominator - 1) = 0 := by
  rintro denominator - ⟨k, rfl⟩
  rw [Nat.and_two_pow_sub_one_eq_mod, Nat.mod_self]

section Spelling

variable {frame : LogicTimingFrame} {tempo10 : ℕ}

theorem protectedValues_le (htempo : frame.tempoBpm = tempo10 / 10) :
    ∀ value ∈ frame.protectedValues tempo10, value ≤ 127 := by
  have htoken := frame.sessionToken.property.2
  have hten : tempo10 ≤ 4000 := by
    have hbpm := frame.tempoBpm_mem.2
    rw [htempo, div_le_iff₀ (by norm_num)] at hbpm
    have hcast : (tempo10 : ℚ) ≤ 4000 := hbpm.trans (by norm_num)
    exact_mod_cast hcast
  have hflags : (if frame.isPlaying then 1 else 0) + (if frame.isCycling then 2 else 0) ≤ 127 := by
    split_ifs <;> omega
  simp only [LogicTimingFrame.protectedValues, List.forall_mem_cons, List.not_mem_nil,
    false_implies, implies_true, and_true]
  exact ⟨frame.sequence.property.2, by decide, by omega, by omega, by omega, by omega, by omega,
    by omega, hflags, frame.meterNumerator.property.2, frame.meterDenominator.property.2⟩

theorem spelling_le (htempo : frame.tempoBpm = tempo10 / 10) :
    ∀ value ∈ frame.spelling tempo10, value ≤ 127 := by
  intro value hvalue
  rcases List.mem_append.mp hvalue with hprotected | hclosing
  · exact protectedValues_le htempo value hprotected
  · rcases List.mem_pair.mp hclosing with rfl | rfl
    · exact Nat.le_of_lt_succ (xorAll_lt (n := 7) fun byte hbyte ↦
        Nat.lt_succ_of_le (protectedValues_le htempo byte hbyte))
    · exact frame.sequence.property.2

/-- Sending the values of a frame in order spells it. -/
theorem spelled_send (htempo : frame.tempoBpm = tempo10 / 10) :
    ∃ messages : List Control,
      List.zipWith sendCC (ccStart :: frameOrder) (frame.spelling tempo10) =
        messages.map controlMessage ∧ Spelled frame messages := by
  have hlength : ((frame.spelling tempo10).map fun value : ℕ ↦ clamp7 value).length =
      (ccStart :: frameOrder).length := by
    rw [List.length_map]
    rfl
  refine ⟨(ccStart :: frameOrder).zip ((frame.spelling tempo10).map fun value : ℕ ↦ clamp7 value),
    rfl, tempo10, htempo, List.map_fst_zip hlength.ge, ?_⟩
  have hvalues : (frame.spelling tempo10).map (fun value : ℕ ↦ (clamp7 value).val) =
      frame.spelling tempo10 :=
    (List.map_congr_left fun value hvalue ↦
      clamp7_natCast (spelling_le htempo value hvalue)).trans (List.map_id' _)
  calc _ = (((ccStart :: frameOrder).zip ((frame.spelling tempo10).map
        fun value : ℕ ↦ clamp7 value)).map Prod.snd).map Subtype.val := by rw [List.map_map]; rfl
    _ = frame.spelling tempo10 := by rw [List.map_snd_zip hlength.le, List.map_map]; exact hvalues

end Spelling

/-- The messages of the probe spell the frame of what it was told. Assumes: a tempo whose tenfold is
between 200 and 4000, and a meter of a numerator from 1 to 127 over a power of two up to 127. -/
theorem emitTiming_spells (probe : Probe) (info : TimingInfo) (numerator denominator : Within 1 127)
    (htempo : 200 ≤ info.tempoTimesTen ∧ info.tempoTimesTen ≤ 4000)
    (hnumerator : info.meterNumerator = numerator.val)
    (hdenominator : info.meterDenominator = denominator.val) (hpow : ∃ k, denominator.val = 2 ^ k) :
    ∃ (frame : LogicTimingFrame) (messages : List Control),
      (probe.emitTiming info).2 = messages.map controlMessage ∧ Spelled frame messages ∧
        frame.sequence = (probe.emitTiming info).1.sequence ∧
        frame.sequence.val = (probe.sequence + 1) % 128 ∧
        frame.sessionToken = probe.sessionToken ∧
        frame.tempoBpm = mathRound info.tempoTimesTen / 10 ∧ frame.isPlaying = info.playing ∧
        frame.isCycling = info.cycling ∧ frame.meterNumerator = numerator ∧
        frame.meterDenominator = denominator := by
  obtain ⟨hlow, hhigh⟩ := mathRound_mem (a := 200) (b := 4000) (by exact_mod_cast htempo.1)
    (by exact_mod_cast htempo.2)
  obtain ⟨tempo10, hround⟩ : ∃ tempo10 : ℕ, mathRound info.tempoTimesTen = tempo10 :=
    ⟨_, (Int.toNat_of_nonneg (by omega)).symm⟩
  have hbpm : (20 : ℚ) ≤ tempo10 / 10 ∧ (tempo10 : ℚ) / 10 ≤ 400 := by
    rw [hround] at hlow hhigh
    have hlow' : (200 : ℚ) ≤ tempo10 := by exact_mod_cast hlow
    have hhigh' : (tempo10 : ℚ) ≤ 4000 := by exact_mod_cast hhigh
    constructor <;> linarith
  let frame : LogicTimingFrame :=
    { sequence := (probe.emitTiming info).1.sequence
      sessionToken := probe.sessionToken
      tempoBpm := tempo10 / 10
      isPlaying := info.playing
      isCycling := info.cycling
      meterNumerator := numerator
      meterDenominator := denominator
      tempoBpm_mem := hbpm
      meterDenominator_pow := and_pred_of_two_pow _ denominator.property.2 hpow }
  have htoken := probe.sessionToken.property.2
  have hclamped : (if (if mathRound info.tempoTimesTen < 0 then 0
      else mathRound info.tempoTimesTen) > 0x3fff then 0x3fff
      else if mathRound info.tempoTimesTen < 0 then 0
      else mathRound info.tempoTimesTen).toNat = tempo10 := by
    rw [if_neg (by omega), if_neg (by omega), hround, Int.toNat_natCast]
  have hprotected : frame.protectedValues tempo10 =
      [frame.sequence.val, logicProtocolVersion, (probe.sessionToken.val >>> 21) &&& 0x7f,
        (probe.sessionToken.val >>> 14) &&& 0x7f, (probe.sessionToken.val >>> 7) &&& 0x7f,
        probe.sessionToken.val &&& 0x7f, (tempo10 >>> 7) &&& 0x7f, tempo10 &&& 0x7f,
        (if info.playing then 1 else 0) ||| (if info.cycling then 2 else 0),
        (clamp7 info.meterNumerator).val, (clamp7 info.meterDenominator).val] := by
    simp only [LogicTimingFrame.protectedValues, and_0x7f, Nat.shiftRight_eq_div_pow, flags_or,
      hnumerator, hdenominator, clamp7_natCast numerator.property.2,
      clamp7_natCast denominator.property.2, frame, List.cons.injEq, and_true, true_and]
    omega
  have hsend : (probe.emitTiming info).2 =
      List.zipWith sendCC (ccStart :: frameOrder) (frame.spelling tempo10) := by
    have hchecksum := probeChecksum_eq (@protectedValues_le frame tempo10 rfl)
    rw [LogicTimingFrame.spelling, ← hchecksum, hprotected]
    simp only [Probe.emitTiming, hclamped]
    rfl
  obtain ⟨messages, hmessages, hspelled⟩ := @spelled_send frame tempo10 rfl
  refine ⟨frame, messages, hsend.trans hmessages, hspelled, rfl, and_0x7f _, rfl, ?_, rfl, rfl, rfl,
    rfl⟩
  rw [hround]
  rfl

/-! ### The codec and the protocol -/

/-- The codec of the timing probe. After any stream of messages: what the probe sends is read back
as the frame it was told, at the last of its messages; a message gives a frame exactly when it is a
controller message of the channel and the controller messages since the last `CC_START` spell the
frame; the messages of a frame give it whatever came before; and with one value changed to another
data byte they give none, nor with any other integer on a fresh assembler. -/
theorem timing_codec :
    (∀ (before : List (List ℤ)) (probe : Probe) (info : TimingInfo)
      (numerator denominator : Within 1 127),
      200 ≤ info.tempoTimesTen → info.tempoTimesTen ≤ 4000 →
      info.meterNumerator = numerator.val → info.meterDenominator = denominator.val →
      (∃ k, denominator.val = 2 ^ k) →
      ∃ frame : LogicTimingFrame,
        (LogicMidiFrameAssembler.idle.feedAll before).outcomes (probe.emitTiming info).2 =
          List.replicate 12 (.ok none) ++ [.ok (some frame)] ∧
        frame.sequence.val = (probe.sequence + 1) % 128 ∧
        frame.sessionToken = probe.sessionToken ∧
        frame.tempoBpm = mathRound info.tempoTimesTen / 10 ∧ frame.isPlaying = info.playing ∧
        frame.isCycling = info.cycling ∧ frame.meterNumerator = numerator ∧
        frame.meterDenominator = denominator) ∧
    (∀ (before : List (List ℤ)) (message : List ℤ) (frame : LogicTimingFrame),
      ((LogicMidiFrameAssembler.idle.feedAll before).feed message).2 = .ok (some frame) ↔
        (controlOf message).isSome ∧
          ∃ messages, sinceLast isStart (controls (before ++ [message])) = some messages ∧
            Spelled frame messages) ∧
    (∀ (before : List (List ℤ)) (frame : LogicTimingFrame) (messages : List Control),
      Spelled frame messages →
        (LogicMidiFrameAssembler.idle.feedAll before).outcomes (messages.map controlMessage) =
          List.replicate 12 (.ok none) ++ [.ok (some frame)]) ∧
    (∀ (before : List (List ℤ)) (frame : LogicTimingFrame) (messages : List Control) (i : ℕ)
      (hi : i < messages.length) (value : ℤ), Spelled frame messages →
      value ≠ messages[i].2.val → (0 ≤ value ∧ value ≤ 127) ∨ before = [] →
      ∀ outcome ∈ (LogicMidiFrameAssembler.idle.feedAll before).outcomes
          ((messages.map controlMessage).set i [logicCcStatus, messages[i].1.val, value]),
        ∀ other, outcome ≠ .ok (some other)) := by
  refine ⟨?_, feed_eq_some, fun before frame messages h ↦ outcomes_of_spelled h before, ?_⟩
  · intro before probe info numerator denominator hlow hhigh hnumerator hdenominator hpow
    obtain ⟨frame, messages, hsent, hspelled, -, hfields⟩ := emitTiming_spells probe info numerator
      denominator ⟨hlow, hhigh⟩ hnumerator hdenominator hpow
    refine ⟨frame, ?_, hfields⟩
    rw [hsent]
    exact outcomes_of_spelled hspelled before
  · intro before frame messages i hi value h hvalue hbyte
    exact not_frame_of_changed h hi hvalue hbyte

/-- A tempo of 120.5 in 4/4, sent after a stray `CC_END`. -/
theorem sample_timing :
    ∃ frame : LogicTimingFrame,
      (LogicMidiFrameAssembler.idle.feedAll [[191, 116, 3]]).outcomes
          (Probe.emitTiming ⟨⟨127, by decide⟩, ⟨300, by decide⟩⟩ ⟨1205, true, false, 4, 4⟩).2 =
        List.replicate 12 (.ok none) ++ [.ok (some frame)] ∧ frame.sequence.val = 0 := by
  obtain ⟨frame, houtcomes, hsequence, -⟩ := timing_codec.1 [[191, 116, 3]]
    ⟨⟨127, by decide⟩, ⟨300, by decide⟩⟩ ⟨1205, true, false, 4, 4⟩ ⟨4, by decide⟩ ⟨4, by decide⟩
    (by norm_num) (by norm_num) (by norm_num) (by norm_num) ⟨2, rfl⟩
  exact ⟨frame, houtcomes, hsequence⟩

end N0te.Midi
