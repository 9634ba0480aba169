import Mathlib.Tactic.IntervalCases
import Mathlib.Tactic.FieldSimp
import N0te.Midi.FrameAssembler

/-!
# What a stream of MIDI messages means

`Spelled frame messages` says that some controller messages are the encoding of a frame. The
assembler is a function of the controller messages since the last `CC_START` (`feedAll_idle`), and
`feed_eq_some` reads off when it returns a frame: exactly when those messages, the one just fed
being the last, spell it.
-/

set_option autoImplicit false
set_option relaxedAutoImplicit false

namespace N0te.Midi

open Library

/-! ### The encoding of a frame -/

/-- A controller and its value. -/
abbrev Control : Type := DataByte × DataByte

/-- The message of a controller of the channel. -/
def controlMessage (control : Control) : List ℤ :=
  [logicCcStatus, control.1.val, control.2.val]

/-- The controller message of the channel that a message is, if it is one. -/
def controlOf : List ℤ → Option Control
  | [status, controller, value] =>
    if h : status = logicCcStatus ∧ (0 ≤ controller ∧ controller ≤ 127) ∧
        (0 ≤ value ∧ value ≤ 127) then
      some (⟨controller.toNat, Nat.zero_le _, Int.toNat_le.mpr h.2.1.2⟩,
        ⟨value.toNat, Nat.zero_le _, Int.toNat_le.mpr h.2.2.2⟩)
    else none
  | _ => none

/-- Whether a controller message opens a frame. -/
def isStart (control : Control) : Bool := control.1 = ccStart

/-- The values a frame is protected by, with its tempo in tenths. -/
def LogicTimingFrame.protectedValues (frame : LogicTimingFrame) (tempo10 : ℕ) : List ℕ :=
  [frame.sequence, logicProtocolVersion, frame.sessionToken / 2 ^ 21,
    frame.sessionToken / 2 ^ 14 % 128, frame.sessionToken / 2 ^ 7 % 128,
    frame.sessionToken % 128, tempo10 / 128, tempo10 % 128,
    (if frame.isPlaying then 1 else 0) + (if frame.isCycling then 2 else 0),
    frame.meterNumerator, frame.meterDenominator]

/-- All the values of a frame in order: the checksum and the sequence number again close it. -/
def LogicTimingFrame.spelling (frame : LogicTimingFrame) (tempo10 : ℕ) : List ℕ :=
  frame.protectedValues tempo10 ++ [xorAll (frame.protectedValues tempo10), frame.sequence]

/-- The messages are the encoding of the frame: complete, in order, with the checksum of the values
before it and the sequence number of `CC_START` at `CC_END`. -/
def Spelled (frame : LogicTimingFrame) (messages : List Control) : Prop :=
  ∃ tempo10 : ℕ, frame.tempoBpm = tempo10 / 10 ∧
    messages.map Prod.fst = ccStart :: frameOrder ∧
    messages.map (fun message ↦ message.2.val) = frame.spelling tempo10

/-! ### Messages that are not of the channel -/

theorem controlOf_controlMessage (control : Control) :
    controlOf (controlMessage control) = some control := by
  obtain ⟨⟨controller, hc⟩, ⟨value, hv⟩⟩ := control
  simp only [controlMessage, controlOf]
  rw [dif_pos ⟨trivial, by omega, by omega⟩]
  simp only [Int.toNat_natCast]

theorem eq_controlMessage {message : List ℤ} {control : Control}
    (h : controlOf message = some control) : message = controlMessage control := by
  unfold controlOf at h
  split at h
  · split at h
    · rename_i hbounds
      obtain ⟨rfl, hcontroller, hvalue⟩ := hbounds
      cases h
      simp [controlMessage, Int.toNat_of_nonneg hcontroller.1, Int.toNat_of_nonneg hvalue.1]
    · cases h
  · cases h

theorem bytes_controlMessage (control : Control) :
    LogicMidiFrameAssembler.bytes (controlMessage control) =
      .ok (some (⟨logicCcStatus, by decide⟩, control.1, control.2)) := by
  have hstatus : integer (logicCcStatus : ℤ) "MIDI status" 0 255 =
      .ok ⟨logicCcStatus, by decide⟩ := integer_eq_ok.mpr rfl
  have hcontroller : integer control.1.val "MIDI controller" 0 127 = .ok control.1 :=
    integer_eq_ok.mpr rfl
  have hvalue : integer control.2.val "MIDI value" 0 127 = .ok control.2 := integer_eq_ok.mpr rfl
  simp only [controlMessage, LogicMidiFrameAssembler.bytes, hstatus, hcontroller, hvalue]
  rfl

/-- A controller message of the channel reaches the frame logic. -/
theorem feed_controlMessage (assembler : LogicMidiFrameAssembler) (control : Control) :
    assembler.feed (controlMessage control) = assembler.control control.1 control.2 := by
  simp [LogicMidiFrameAssembler.feed, bytes_controlMessage]

/-- Any other message changes nothing and completes no frame. -/
theorem feed_of_controlOf_eq_none {assembler : LogicMidiFrameAssembler} {message : List ℤ}
    (h : controlOf message = none) :
    (assembler.feed message).1 = assembler ∧
      ∀ frame, (assembler.feed message).2 ≠ .ok (some frame) := by
  unfold LogicMidiFrameAssembler.feed
  split
  · exact ⟨rfl, fun frame hframe ↦ by cases hframe⟩
  · exact ⟨rfl, fun frame hframe ↦ by cases hframe⟩
  · rename_i status controller value hbytes
    by_cases hstatus : status.val ≠ logicCcStatus
    · rw [if_pos hstatus]
      exact ⟨rfl, fun frame hframe ↦ by cases hframe⟩
    · exfalso
      unfold LogicMidiFrameAssembler.bytes at hbytes
      split at hbytes
      · simp only [bind_eq_ok, integer_eq_ok, pure_eq_ok, Option.some.injEq, Prod.mk.injEq] at hbytes
        obtain ⟨s, hs, c, hc, v, hv, rfl, rfl, rfl⟩ := hbytes
        have hmessage := controlOf_controlMessage (c, v)
        simp only [controlMessage, not_not] at hmessage hstatus
        rw [← hs, ← hc, ← hv, hstatus, hmessage] at h
        cases h
      · cases hbytes

/-! ### The last message of a frame -/

/-- The session token of its four bytes. -/
theorem session_of_bytes {a b c d : ℕ} (hb : b ≤ 127) (hc : c ≤ 127) (hd : d ≤ 127) :
    a <<< 21 ||| b <<< 14 ||| c <<< 7 ||| d = a * 2 ^ 21 + b * 2 ^ 14 + c * 2 ^ 7 + d := by
  have hab : a <<< 21 ||| b <<< 14 = (a * 2 ^ 7 + b) <<< 14 := by
    rw [← Nat.shiftLeft_add_eq_or_of_lt (by rw [Nat.shiftLeft_eq]; omega)]
    simp only [Nat.shiftLeft_eq]
    omega
  have habc : (a * 2 ^ 7 + b) <<< 14 ||| c <<< 7 = ((a * 2 ^ 7 + b) * 2 ^ 7 + c) <<< 7 := by
    rw [← Nat.shiftLeft_add_eq_or_of_lt (by rw [Nat.shiftLeft_eq]; omega)]
    simp only [Nat.shiftLeft_eq]
    omega
  rw [hab, habc, ← Nat.shiftLeft_add_eq_or_of_lt (by omega), Nat.shiftLeft_eq]
  omega

/-- The tempo in tenths of its two bytes. -/
theorem tempo_of_bytes {a b : ℕ} (hb : b ≤ 127) : a <<< 7 ||| b = a * 128 + b := by
  rw [← Nat.shiftLeft_add_eq_or_of_lt (by omega), Nat.shiftLeft_eq]

/-- The two flags of a byte without further bits. -/
theorem flags_of_byte : ∀ flags ≤ 127, flags >>> 2 = 0 ↔
    flags = (if flags &&& 0x01 ≠ 0 then 1 else 0) + (if flags &&& 0x02 ≠ 0 then 2 else 0) := by
  decide

theorem flags_bits (playing cycling : Bool) :
    let flags := (if playing then 1 else 0) + (if cycling then 2 else 0)
    flags >>> 2 = 0 ∧ decide (flags &&& 0x01 ≠ 0) = playing ∧
      decide (flags &&& 0x02 ≠ 0) = cycling := by
  cases playing <;> cases cycling <;> decide

/-- The checksum of data bytes is the exclusive or of all of them. -/
theorem checksum_eq (values : List DataByte) :
    LogicMidiFrameAssembler.checksum values = xorAll (values.map Subtype.val) := by
  have hfold : values.foldl (fun result value ↦ result ^^^ value.val) 0 =
      xorAll (values.map Subtype.val) := by
    rw [← Nat.zero_xor (xorAll _), ← foldl_xor, List.foldl_map]
  have hlt : xorAll (values.map Subtype.val) < 2 ^ 7 := by
    refine xorAll_lt fun byte hbyte ↦ ?_
    obtain ⟨value, -, rfl⟩ := List.mem_map.mp hbyte
    exact Nat.lt_succ_of_le value.property.2
  rw [LogicMidiFrameAssembler.checksum, hfold]
  exact (Nat.and_two_pow_sub_one_eq_mod _ 7).trans (Nat.mod_eq_of_lt hlt)

section Finish

variable {sequence version session0 session1 session2 session3 tempoMsb tempoLsb flags numerator
  denominator sum : DataByte} {frame : LogicTimingFrame}

/-- What `_finish` checks of the values of a complete frame. -/
theorem finish_eq_ok :
    LogicMidiFrameAssembler.finish (frameOrder.dropLast.zip [version, session0, session1, session2,
        session3, tempoMsb, tempoLsb, flags, numerator, denominator, sum]) sequence = .ok frame ↔
      version.val = logicProtocolVersion ∧
        sum.val = xorAll ([sequence, version, session0, session1, session2, session3, tempoMsb,
          tempoLsb, flags, numerator, denominator].map Subtype.val) ∧
        flags.val >>> 2 = 0 ∧ frame.sequence = sequence ∧
        frame.sessionToken.val = session0 * 2 ^ 21 + session1 * 2 ^ 14 + session2 * 2 ^ 7 +
          session3 ∧
        frame.tempoBpm = (tempoMsb * 128 + tempoLsb : ℕ) / 10 ∧
        frame.isPlaying = decide (flags.val &&& 0x01 ≠ 0) ∧
        frame.isCycling = decide (flags.val &&& 0x02 ≠ 0) ∧
        frame.meterNumerator.val = numerator ∧ frame.meterDenominator.val = denominator := by
  have hread : ∀ controller value, (frameOrder.dropLast.zip [version, session0, session1, session2,
      session3, tempoMsb, tempoLsb, flags, numerator, denominator, sum]).lookup controller =
        some value → LogicMidiFrameAssembler.read (frameOrder.dropLast.zip [version, session0,
          session1, session2, session3, tempoMsb, tempoLsb, flags, numerator, denominator, sum])
          controller = .ok value := fun controller value h ↦ by
    rw [LogicMidiFrameAssembler.read, h]
    rfl
  unfold LogicMidiFrameAssembler.finish
  rw [hread ccVersion version rfl, hread ccSession0 session0 rfl, hread ccSession1 session1 rfl,
    hread ccSession2 session2 rfl, hread ccSession3 session3 rfl, hread ccTempoMsb tempoMsb rfl,
    hread ccTempoLsb tempoLsb rfl, hread ccFlags flags rfl, hread ccMeterNumerator numerator rfl,
    hread ccMeterDenominator denominator rfl, hread ccChecksum sum rfl]
  have hkeys : (frameOrder.dropLast.zip [version, session0, session1, session2,
      session3, tempoMsb, tempoLsb, flags, numerator, denominator, sum]).map Prod.fst =
        frameOrder.dropLast := rfl
  have hsession := session_of_bytes (a := session0.val) session1.property.2 session2.property.2
    session3.property.2
  have htenths := tempo_of_bytes (a := tempoMsb.val) tempoLsb.property.2
  simp only [bind_eq_ok, require_eq_ok, LogicTimingFrame.make_eq_ok, hkeys, Except.ok.injEq,
    checksum_eq]
  constructor
  · rintro ⟨-, -, _, rfl, -, hversion, _, rfl, _, rfl, _, rfl, _, rfl, _, rfl, _, rfl, _, rfl,
      _, rfl, _, rfl, _, rfl, -, hsum, -, hflags, hsequence, htoken, htempo, hplaying, hcycling,
      hnumerator, hdenominator, -⟩
    rw [hsession] at htoken
    rw [htenths] at htempo
    exact ⟨hversion, hsum, hflags, Subtype.ext (by exact_mod_cast hsequence), by exact_mod_cast htoken,
      htempo, hplaying, hcycling, by exact_mod_cast hnumerator, by exact_mod_cast hdenominator⟩
  · rintro ⟨hversion, hsum, hflags, rfl, htoken, htempo, hplaying, hcycling, hnumerator,
      hdenominator⟩
    rw [← hsession] at htoken
    rw [← htenths] at htempo
    exact ⟨(), ⟨List.Subset.refl _, List.Subset.refl _⟩, _, rfl, (), hversion, _, rfl, _, rfl,
      _, rfl, _, rfl, _, rfl, _, rfl, _, rfl, _, rfl, _, rfl, _, rfl, (), hsum, (), hflags, rfl,
      by exact_mod_cast htoken, htempo, hplaying, hcycling, by exact_mod_cast hnumerator,
      by exact_mod_cast hdenominator, by exact_mod_cast hversion⟩

/-- `_finish` returns a frame exactly when the messages around the values spell it. -/
theorem finish_eq_ok_iff_spelled :
    LogicMidiFrameAssembler.finish (frameOrder.dropLast.zip [version, session0, session1, session2,
        session3, tempoMsb, tempoLsb, flags, numerator, denominator, sum]) sequence = .ok frame ↔
      Spelled frame ((ccStart, sequence) :: (frameOrder.dropLast.zip [version, session0, session1,
        session2, session3, tempoMsb, tempoLsb, flags, numerator, denominator, sum] ++
          [(ccEnd, sequence)])) := by
  have hbounds := And.intro session1.property.2 (And.intro session2.property.2
    (And.intro session3.property.2 tempoLsb.property.2))
  rw [finish_eq_ok]
  constructor
  · rintro ⟨hversion, hsum, hflags, hsequence, htoken, htempo, hplaying, hcycling, hnumerator,
      hdenominator⟩
    have hprotected : frame.protectedValues (tempoMsb * 128 + tempoLsb) =
        [sequence, version, session0, session1, session2, session3, tempoMsb, tempoLsb, flags,
          numerator, denominator].map Subtype.val := by
      have hbyte := (flags_of_byte flags.val flags.property.2).mp hflags
      simp only [LogicTimingFrame.protectedValues, List.map_cons, List.map_nil, List.cons.injEq,
        hsequence, hversion, htoken, hplaying, hcycling, hnumerator, hdenominator, true_and,
        and_true, decide_eq_true_eq, ← hbyte]
      omega
    refine ⟨tempoMsb * 128 + tempoLsb, htempo, rfl, ?_⟩
    rw [LogicTimingFrame.spelling, hprotected, ← hsum, hsequence]
    rfl
  · rintro ⟨tempo10, htempo, -, hvalues⟩
    simp only [frameOrder, List.dropLast, List.zip_cons_cons, List.zip_nil_left, List.map_cons, List.map_nil,
      List.cons_append, List.nil_append, LogicTimingFrame.spelling,
      LogicTimingFrame.protectedValues, List.cons.injEq, and_true] at hvalues
    obtain ⟨hsequence, hversion, h0, h1, h2, h3, hmsb, hlsb, hflags, hnumerator, hdenominator,
      hsum, -⟩ := hvalues
    obtain ⟨hzero, hplaying, hcycling⟩ := flags_bits frame.isPlaying frame.isCycling
    have htoken := frame.sessionToken.property.2
    refine ⟨hversion, ?_, ?_, (Subtype.ext hsequence).symm, by omega, ?_, ?_, ?_, hnumerator.symm,
      hdenominator.symm⟩
    · simp only [List.map_cons, List.map_nil, hsequence, hversion, h0, h1, h2, h3, hmsb, hlsb,
        hflags, hnumerator, hdenominator, hsum]
    · rw [hflags, hzero]
    · rw [htempo, hmsb, hlsb, Nat.div_add_mod']
    · rw [hflags, hplaying]
    · rw [hflags, hcycling]

end Finish

/-! ### The assembler as a function of the stream -/

/-- The controller messages of a stream. -/
def controls (stream : List (List ℤ)) : List Control := stream.filterMap controlOf

/-- The messages after `CC_START` are the beginning of a frame that is not over yet. -/
def UnderWay (body : List Control) : Prop :=
  body.length < frameOrder.length ∧ body.map Prod.fst = frameOrder.take body.length

instance (body : List Control) : Decidable (UnderWay body) :=
  inferInstanceAs (Decidable (_ ∧ _))

/-- The assembler after the controller messages since the last `CC_START`. -/
def stateAfter : Option (List Control) → LogicMidiFrameAssembler
  | some (start :: body) =>
    if UnderWay body then ⟨some start.2, body, body.length⟩ else LogicMidiFrameAssembler.idle
  | _ => LogicMidiFrameAssembler.idle

theorem stateAfter_underWay {start : Control} {body : List Control} (h : UnderWay body) :
    stateAfter (some (start :: body)) = ⟨some start.2, body, body.length⟩ := if_pos h

theorem stateAfter_over {start : Control} {body : List Control} (h : ¬ UnderWay body) :
    stateAfter (some (start :: body)) = LogicMidiFrameAssembler.idle := if_neg h

/-- `CC_END` comes last. -/
theorem getElem?_frameOrder_eq_ccEnd {n : ℕ} :
    frameOrder[n]? = some ccEnd ↔ n + 1 = frameOrder.length := by
  have hsmall : ∀ n < frameOrder.length,
      frameOrder[n]? = some ccEnd ↔ n + 1 = frameOrder.length := by decide
  by_cases h : n < frameOrder.length
  · exact hsmall n h
  · rw [List.getElem?_eq_none (Nat.not_lt.mp h)]
    constructor
    · intro hnone
      cases hnone
    · intro hlength
      omega

/-- No controller comes twice. -/
theorem not_mem_take_frameOrder {n : ℕ} {controller : DataByte}
    (h : frameOrder[n]? = some controller) : controller ∉ frameOrder.take n := by
  have hnodup : frameOrder.Nodup := by decide
  have htake : (frameOrder.take (n + 1)).Nodup := hnodup.sublist (List.take_sublist _ _)
  rw [List.take_add_one, h, Option.toList_some, List.nodup_append] at htake
  intro hmem
  exact htake.2.2 _ hmem _ List.mem_cons_self rfl

/-- The controllers of a frame that is one message longer. -/
theorem map_fst_concat {body : List Control} {control : Control} :
    (body ++ [control]).map Prod.fst = frameOrder.take (body.length + 1) ↔
      body.map Prod.fst = frameOrder.take body.length ∧
        frameOrder[body.length]? = some control.1 := by
  rw [List.map_append, List.take_add_one, List.map_singleton]
  cases hget : frameOrder[body.length]? with
  | none =>
    have hlength : frameOrder.length ≤ body.length := List.getElem?_eq_none_iff.mp hget
    constructor
    · intro h
      have := congrArg List.length h
      simp only [List.length_append, List.length_map, List.length_singleton, List.length_take,
        Option.toList_none, List.length_nil] at this
      omega
    · rintro ⟨-, hnone⟩
      cases hnone
  | some expected =>
    rw [Option.toList_some]
    constructor
    · intro h
      obtain ⟨hbody, hlast⟩ := List.append_inj' h rfl
      exact ⟨hbody, congrArg some (List.head_eq_of_cons_eq hlast).symm⟩
    · rintro ⟨hbody, hlast⟩
      rw [hbody, Option.some.inj hlast]

theorem underWay_concat {body : List Control} {control : Control} :
    UnderWay (body ++ [control]) ↔
      UnderWay body ∧ frameOrder[body.length]? = some control.1 ∧ control.1 ≠ ccEnd := by
  unfold UnderWay
  rw [List.length_append, List.length_singleton, map_fst_concat]
  constructor
  · rintro ⟨hlength, hbody, hlast⟩
    refine ⟨⟨by omega, hbody⟩, hlast, fun hend ↦ ?_⟩
    rw [hend, getElem?_frameOrder_eq_ccEnd] at hlast
    omega
  · rintro ⟨⟨hlength, hbody⟩, hlast, hend⟩
    refine ⟨?_, hbody, hlast⟩
    by_contra hlong
    have hcontroller := getElem?_frameOrder_eq_ccEnd.mpr (show body.length + 1 = _ by omega)
    exact hend (Option.some.inj (hlast.symm.trans hcontroller))

/-- Messages of a spelled frame: the last is `CC_END` and the others before it are under way. -/
theorem Spelled.underWay {frame : LogicTimingFrame} {start control : Control} {body : List Control}
    (h : Spelled frame (start :: (body ++ [control]))) :
    UnderWay body ∧ body.length + 1 = frameOrder.length ∧ control.1 = ccEnd := by
  obtain ⟨_, -, hcontrollers, -⟩ := h
  have hmap : (body ++ [control]).map Prod.fst = frameOrder := (List.cons.inj hcontrollers).2
  have hlength : body.length + 1 = frameOrder.length := by
    simpa using congrArg List.length hmap
  have htake : frameOrder.take (body.length + 1) = frameOrder :=
    List.take_of_length_le hlength.ge
  obtain ⟨hbody, hlast⟩ := map_fst_concat.mp (hmap.trans htake.symm)
  refine ⟨⟨by omega, hbody⟩, hlength, ?_⟩
  exact Option.some.inj (hlast.symm.trans (getElem?_frameOrder_eq_ccEnd.mpr hlength))

/-- The first and the last value of a frame are its sequence number. -/
theorem Spelled.end_eq_start {frame : LogicTimingFrame} {start control : Control}
    {body : List Control} (h : Spelled frame (start :: (body ++ [control]))) :
    control.2 = start.2 := by
  obtain ⟨tempo10, -, -, hvalues⟩ := h
  have hstart : start.2.val = frame.sequence := (List.cons.inj hvalues).1
  have hlast := congrArg List.getLast? hvalues
  rw [LogicTimingFrame.spelling, List.getLast?_append, ← List.cons_append, List.map_append,
    List.getLast?_append] at hlast
  exact Subtype.ext ((Option.some.inj hlast).trans hstart.symm)

theorem assign_underWay {body : List Control} {control : Control} (h : UnderWay body)
    (hexpected : frameOrder[body.length]? = some control.1) :
    LogicMidiFrameAssembler.assign body control.1 control.2 = body ++ [control] := by
  unfold LogicMidiFrameAssembler.assign
  rw [h.2, if_neg (not_mem_take_frameOrder hexpected)]

/-- The values of a body that lacks only `CC_END`. -/
theorem UnderWay.exists_zip {body : List Control} (h : UnderWay body)
    (hlength : body.length + 1 = frameOrder.length) :
    ∃ version session0 session1 session2 session3 tempoMsb tempoLsb flags numerator denominator sum,
      body = frameOrder.dropLast.zip [version, session0, session1, session2, session3, tempoMsb,
        tempoLsb, flags, numerator, denominator, sum] := by
  have hkeys : body.map Prod.fst = frameOrder.dropLast := by
    rw [h.2, List.dropLast_eq_take, ← hlength, Nat.add_sub_cancel]
  have hbody : body = frameOrder.dropLast.zip (body.map Prod.snd) := by
    rw [← hkeys, ← List.unzip_fst, ← List.unzip_snd, List.zip_unzip]
  have hvalues : (body.map Prod.snd).length = 11 := by
    rw [List.length_map]
    exact Nat.succ.inj hlength
  rw [hbody]
  revert hvalues
  generalize body.map Prod.snd = values
  intro hvalues
  match values, hvalues with
  | [version, session0, session1, session2, session3, tempoMsb, tempoLsb, flags, numerator,
      denominator, sum], _ =>
    exact ⟨_, _, _, _, _, _, _, _, _, _, _, rfl⟩

theorem not_spelled_singleton {frame : LogicTimingFrame} {control : Control} :
    ¬ Spelled frame [control] := fun ⟨_, _, hcontrollers, _⟩ ↦ by
  have hlength := congrArg List.length hcontrollers
  simp [frameOrder] at hlength

/-- Before `CC_START` nothing happens. -/
theorem control_idle {control : Control} (hstart : control.1 ≠ ccStart) :
    LogicMidiFrameAssembler.idle.control control.1 control.2 =
      (LogicMidiFrameAssembler.idle, .ok none) := by
  unfold LogicMidiFrameAssembler.control
  rw [if_neg hstart]
  rfl

/-- A message within a frame: it extends the frame, ends it or drops it. -/
theorem control_underWay {start control : Control} {body : List Control} (h : UnderWay body)
    (hstart : control.1 ≠ ccStart) :
    let step := (stateAfter (some (start :: body))).control control.1 control.2
    step.1 = stateAfter (some (start :: (body ++ [control]))) ∧
      (∀ frame, step.2 = .ok (some frame) ↔
        frameOrder[body.length]? = some control.1 ∧ control.1 = ccEnd ∧ control.2 = start.2 ∧
          LogicMidiFrameAssembler.finish body start.2 = .ok frame) := by
  have hlength := h.1
  have hexpected : frameOrder[body.length]? = some frameOrder[body.length] :=
    List.getElem?_eq_getElem hlength
  simp only [stateAfter_underWay h, LogicMidiFrameAssembler.control, if_neg hstart, hexpected,
    Option.some.injEq]
  by_cases hmatch : control.1 = frameOrder[body.length]
  · have hget : frameOrder[body.length]? = some control.1 := by rw [hexpected, hmatch]
    rw [if_neg (not_not.mpr hmatch)]
    by_cases hend : control.1 = ccEnd
    · rw [if_pos hend, stateAfter_over fun hlonger ↦ (underWay_concat.mp hlonger).2.2 hend]
      by_cases hvalue : control.2 = start.2
      · rw [if_neg (not_not.mpr hvalue)]
        simp [hmatch.symm, hend, hvalue]
      · rw [if_pos hvalue]
        simp [hvalue]
    · rw [if_neg hend, stateAfter_underWay (underWay_concat.mpr ⟨h, hget, hend⟩),
        assign_underWay h hget]
      simp [hend]
  · rw [if_pos hmatch, stateAfter_over fun hlonger ↦
      hmatch (Option.some.inj ((underWay_concat.mp hlonger).2.1.symm.trans hexpected))]
    simp [Ne.symm hmatch]

/-- Within a frame, the message that completes it is the one with which the messages spell it. -/
theorem finish_iff_spelled {start control : Control} {body : List Control}
    {frame : LogicTimingFrame} (h : UnderWay body) (hopen : start.1 = ccStart) :
    (frameOrder[body.length]? = some control.1 ∧ control.1 = ccEnd ∧ control.2 = start.2 ∧
        LogicMidiFrameAssembler.finish body start.2 = .ok frame) ↔
      Spelled frame (start :: (body ++ [control])) := by
  obtain ⟨opening, sequence⟩ := start
  obtain ⟨controller, value⟩ := control
  subst hopen
  constructor
  · rintro ⟨hget, rfl, rfl, hfinish⟩
    obtain ⟨version, session0, session1, session2, session3, tempoMsb, tempoLsb, flags, numerator,
      denominator, sum, rfl⟩ := h.exists_zip (getElem?_frameOrder_eq_ccEnd.mp hget)
    exact finish_eq_ok_iff_spelled.mp hfinish
  · intro hspelled
    obtain ⟨-, hlength, rfl⟩ := hspelled.underWay
    obtain ⟨version, session0, session1, session2, session3, tempoMsb, tempoLsb, flags, numerator,
      denominator, sum, rfl⟩ := h.exists_zip hlength
    obtain rfl : value = sequence := hspelled.end_eq_start
    exact ⟨getElem?_frameOrder_eq_ccEnd.mpr hlength, rfl, rfl,
      finish_eq_ok_iff_spelled.mpr hspelled⟩

/-- One controller message: the assembler stays the function of the messages since `CC_START`, and
returns a frame exactly when they spell it. -/
theorem control_stateAfter (past : List Control) (control : Control) :
    let step := (stateAfter (sinceLast isStart past)).control control.1 control.2
    step.1 = stateAfter (sinceLast isStart (past ++ [control])) ∧
      ∀ frame, step.2 = .ok (some frame) ↔
        ∃ messages, sinceLast isStart (past ++ [control]) = some messages ∧
          Spelled frame messages := by
  rw [sinceLast_concat]
  by_cases hstart : control.1 = ccStart
  · have hmarker : isStart control = true := decide_eq_true hstart
    have hempty : UnderWay [] := by decide
    rw [if_pos hmarker]
    simp [LogicMidiFrameAssembler.control, hstart, stateAfter_underWay hempty,
      not_spelled_singleton]
  · have hmarker : isStart control = false := decide_eq_false hstart
    rw [hmarker, if_neg Bool.false_ne_true]
    cases hsince : sinceLast isStart past with
    | none => simp [stateAfter, control_idle hstart]
    | some messages =>
      obtain ⟨start, body, rfl, hopen⟩ := exists_marker_of_sinceLast hsince
      have hopening : start.1 = ccStart := of_decide_eq_true hopen
      simp only [Option.map_some, List.cons_append, Option.some.injEq, exists_eq_left']
      by_cases hunder : UnderWay body
      · obtain ⟨hstate, hframe⟩ := control_underWay hunder hstart
        exact ⟨hstate, fun frame ↦ (hframe frame).trans (finish_iff_spelled hunder hopening)⟩
      · have hlonger : ¬ UnderWay (body ++ [control]) := fun h ↦ hunder (underWay_concat.mp h).1
        rw [stateAfter_over hunder, stateAfter_over hlonger, control_idle hstart]
        refine ⟨rfl, fun frame ↦ ⟨fun h ↦ ?_, fun h ↦ absurd h.underWay.1 hunder⟩⟩
        cases h

/-! ### Whole streams -/

theorem controls_concat (before : List (List ℤ)) (message : List ℤ) :
    controls (before ++ [message]) =
      match controlOf message with
      | none => controls before
      | some control => controls before ++ [control] := by
  rw [controls, List.filterMap_append]
  cases h : controlOf message <;> simp [controls, h]

/-- The assembler after a stream is the function of its controller messages since the last
`CC_START`. -/
theorem feedAll_idle (stream : List (List ℤ)) :
    LogicMidiFrameAssembler.idle.feedAll stream =
      stateAfter (sinceLast isStart (controls stream)) := by
  induction stream using List.reverseRecOn with
  | nil => rfl
  | append_singleton before message ih =>
    have hstep : LogicMidiFrameAssembler.idle.feedAll (before ++ [message]) =
        ((LogicMidiFrameAssembler.idle.feedAll before).feed message).1 := by
      simp [LogicMidiFrameAssembler.feedAll]
    rw [hstep, ih, controls_concat]
    cases hcontrol : controlOf message with
    | none => exact (feed_of_controlOf_eq_none hcontrol).1
    | some control =>
      rw [eq_controlMessage hcontrol, feed_controlMessage]
      exact (control_stateAfter _ control).1

/-- After any stream, a message gives a frame exactly when it is a controller message of the channel
and the controller messages since the last `CC_START`, itself included, spell the frame. -/
theorem feed_eq_some (before : List (List ℤ)) (message : List ℤ) (frame : LogicTimingFrame) :
    ((LogicMidiFrameAssembler.idle.feedAll before).feed message).2 = .ok (some frame) ↔
      (controlOf message).isSome ∧
        ∃ messages, sinceLast isStart (controls (before ++ [message])) = some messages ∧
          Spelled frame messages := by
  rw [feedAll_idle, controls_concat]
  cases hcontrol : controlOf message with
  | none => simp [(feed_of_controlOf_eq_none hcontrol).2 frame]
  | some control =>
    rw [eq_controlMessage hcontrol, feed_controlMessage]
    simpa using (control_stateAfter _ control).2 frame

/-! ### The outcomes of a stream -/

namespace LogicMidiFrameAssembler

theorem feedAll_append (assembler : LogicMidiFrameAssembler) (stream more : List (List ℤ)) :
    assembler.feedAll (stream ++ more) = (assembler.feedAll stream).feedAll more :=
  List.foldl_append

/-- An outcome is what some message of the stream gives after those before it. -/
theorem mem_outcomes {assembler : LogicMidiFrameAssembler} {stream : List (List ℤ)}
    {outcome : Except String (Option LogicTimingFrame)} (h : outcome ∈ assembler.outcomes stream) :
    ∃ before message after, stream = before ++ message :: after ∧
      outcome = ((assembler.feedAll before).feed message).2 := by
  induction stream generalizing assembler with
  | nil => cases h
  | cons message rest ih =>
    rcases List.mem_cons.mp h with rfl | hrest
    · exact ⟨[], message, rest, rfl, rfl⟩
    · obtain ⟨before, later, after, rfl, houtcome⟩ := ih hrest
      exact ⟨message :: before, later, after, rfl, houtcome⟩

theorem outcomes_append (assembler : LogicMidiFrameAssembler) (stream more : List (List ℤ)) :
    assembler.outcomes (stream ++ more) =
      assembler.outcomes stream ++ (assembler.feedAll stream).outcomes more := by
  induction stream generalizing assembler with
  | nil => rfl
  | cons message rest ih => exact congrArg _ (ih (assembler.feed message).1)

end LogicMidiFrameAssembler

theorem controls_append_map (before : List (List ℤ)) (messages : List Control) :
    controls (before ++ messages.map controlMessage) = controls before ++ messages := by
  rw [controls, List.filterMap_append, List.filterMap_map]
  congr 1
  exact (List.filterMap_congr fun control _ ↦ controlOf_controlMessage control).trans
    List.filterMap_some

theorem UnderWay.of_append {body more : List Control} (h : UnderWay (body ++ more)) :
    UnderWay body := by
  induction more using List.reverseRecOn with
  | nil => rwa [List.append_nil] at h
  | append_singleton more last ih =>
    rw [← List.append_assoc] at h
    exact ih (underWay_concat.mp h).1

/-- Messages that go on with a frame without ending it give nothing. -/
theorem outcomes_underWay {start : Control} {body more : List Control}
    (h : UnderWay (body ++ more)) (hmore : ∀ control ∈ more, control.1 ≠ ccStart) :
    (stateAfter (some (start :: body))).outcomes (more.map controlMessage) =
        List.replicate more.length (.ok none) ∧
      (stateAfter (some (start :: body))).feedAll (more.map controlMessage) =
        stateAfter (some (start :: (body ++ more))) := by
  induction more generalizing body with
  | nil => exact ⟨rfl, by simp [LogicMidiFrameAssembler.feedAll]⟩
  | cons control rest ih =>
    rw [List.append_cons] at h
    obtain ⟨hbody, hexpected, hend⟩ := underWay_concat.mp h.of_append
    have hstart : control.1 ≠ ccStart := hmore control List.mem_cons_self
    have hstep : (stateAfter (some (start :: body))).feed (controlMessage control) =
        (stateAfter (some (start :: (body ++ [control]))), .ok none) := by
      rw [feed_controlMessage, stateAfter_underWay hbody, stateAfter_underWay h.of_append]
      simp only [LogicMidiFrameAssembler.control, if_neg hstart, hexpected, ne_eq,
        not_true_eq_false, if_false, if_neg hend, assign_underWay hbody hexpected,
        List.length_append, List.length_singleton]
    obtain ⟨houtcomes, hstate⟩ := ih h fun other hother ↦ hmore other (List.mem_cons_of_mem _ hother)
    constructor
    · rw [List.map_cons, LogicMidiFrameAssembler.outcomes, hstep, houtcomes]
      rfl
    · rw [List.append_cons, ← hstate, List.map_cons, LogicMidiFrameAssembler.feedAll,
        List.foldl_cons, hstep]
      rfl

/-- In a list of the controllers of a frame only the first opens one. -/
theorem exists_start_of_map_fst {messages : List Control}
    (h : messages.map Prod.fst = ccStart :: frameOrder) :
    ∃ start rest, messages = start :: rest ∧ isStart start = true ∧
      ∀ control ∈ rest, isStart control = false := by
  cases messages with
  | nil => cases h
  | cons start rest =>
    obtain ⟨hstart, hrest⟩ := List.cons.inj h
    refine ⟨start, rest, rfl, decide_eq_true hstart, fun control hcontrol ↦ ?_⟩
    have hmem : control.1 ∈ frameOrder := hrest ▸ List.mem_map_of_mem hcontrol
    refine decide_eq_false fun heq ↦ ?_
    rw [heq] at hmem
    revert hmem
    decide

/-- The messages of a frame: `CC_START`, eleven more, and `CC_END`. -/
theorem Spelled.exists_parts {frame : LogicTimingFrame} {messages : List Control}
    (h : Spelled frame messages) :
    ∃ start body last, messages = start :: (body ++ [last]) ∧ start.1 = ccStart ∧ UnderWay body ∧
      body.length = 11 ∧ ∀ control ∈ body ++ [last], control.1 ≠ ccStart := by
  obtain ⟨_, -, hcontrollers, -⟩ := id h
  obtain ⟨start, rest, rfl, hstart, hrest⟩ := exists_start_of_map_fst hcontrollers
  have hne : rest ≠ [] := by
    rintro rfl
    simpa [frameOrder] using congrArg List.length hcontrollers
  rw [← List.dropLast_append_getLast hne] at h hrest ⊢
  obtain ⟨hunder, hlength, -⟩ := h.underWay
  exact ⟨start, _, _, rfl, of_decide_eq_true hstart, hunder, Nat.succ.inj hlength,
    fun control hcontrol ↦ of_decide_eq_false (hrest control hcontrol)⟩

/-- The messages of a frame give the frame at the last of them, whatever came before. -/
theorem outcomes_of_spelled {frame : LogicTimingFrame} {messages : List Control}
    (h : Spelled frame messages) (before : List (List ℤ)) :
    (LogicMidiFrameAssembler.idle.feedAll before).outcomes (messages.map controlMessage) =
      List.replicate 12 (.ok none) ++ [.ok (some frame)] := by
  obtain ⟨start, body, last, rfl, hstart, hunder, hlength, hbody⟩ := h.exists_parts
  have hopen : ((LogicMidiFrameAssembler.idle.feedAll before).feed (controlMessage start)) =
      (stateAfter (some [start]), .ok none) := by
    rw [feed_controlMessage, LogicMidiFrameAssembler.control, if_pos hstart]
    rfl
  obtain ⟨houtcomes, hstate⟩ := @outcomes_underWay start [] body hunder
    fun control hcontrol ↦ hbody control (List.mem_append_left _ hcontrol)
  have hlast : ((stateAfter (some (start :: body))).feed (controlMessage last)).2 =
      .ok (some frame) := by
    rw [feed_controlMessage]
    have hnotStart : last.1 ≠ ccStart := hbody last (List.mem_append_right _ List.mem_cons_self)
    exact ((control_underWay hunder hnotStart).2 frame).mpr ((finish_iff_spelled hunder hstart).mpr h)
  rw [List.map_cons, List.map_append, List.map_singleton, LogicMidiFrameAssembler.outcomes, hopen,
    LogicMidiFrameAssembler.outcomes_append, houtcomes, hstate, hlength, List.nil_append,
    LogicMidiFrameAssembler.outcomes, LogicMidiFrameAssembler.outcomes, hlast]
  rfl

/-! ### One value changed -/

/-- What every spelled frame satisfies: the values up to the checksum vanish together, and the last
value is the first. -/
theorem Spelled.checks {frame : LogicTimingFrame} {messages : List Control}
    (h : Spelled frame messages) :
    let values := messages.map fun message ↦ message.2.val
    values.length = 13 ∧ xorAll (values.take 12) = 0 ∧ values[12]? = values[0]? := by
  obtain ⟨tempo10, -, -, hvalues⟩ := h
  simp only [hvalues]
  refine ⟨rfl, ?_, rfl⟩
  have htake : (frame.spelling tempo10).take 12 =
      frame.protectedValues tempo10 ++ [xorAll (frame.protectedValues tempo10)] := rfl
  rw [htake, xorAll_concat_self]

/-- A frame's values with one of them changed are no frame's values. -/
theorem Spelled.eq_of_set {frame other : LogicTimingFrame} {messages : List Control} {i : ℕ}
    {control : Control} (hi : i < messages.length) (h : Spelled frame messages)
    (hset : Spelled other (messages.set i control)) : control.2 = messages[i].2 := by
  obtain ⟨hlength, hsum, hends⟩ := h.checks
  obtain ⟨-, hsum', hends'⟩ := hset.checks
  rw [List.map_set] at hsum' hends'
  have hlength' : messages.length = 13 := by rwa [List.length_map] at hlength
  have hvalue : (messages.map fun message ↦ message.2.val)[i]? = some messages[i].2.val := by
    simp [hi]
  by_cases hlast : i = 12
  · subst hlast
    rw [List.getElem?_set_self (by omega), List.getElem?_set_ne (by decide), ← hends, hvalue]
      at hends'
    exact Subtype.ext (Option.some.inj hends')
  · rw [List.take_set] at hsum'
    have hbyte := eq_of_xorAll_set (by rw [List.length_take]; omega) (hsum'.trans hsum.symm)
    rw [List.getElem_take, List.getElem_map] at hbyte
    exact Subtype.ext hbyte

/-- A beginning of such a list that spells a frame is all of it. -/
theorem eq_of_spelled_take {messages kept : List Control} {frame : LogicTimingFrame} {k : ℕ}
    {past : List Control} (hcontrollers : messages.map Prod.fst = ccStart :: frameOrder)
    (hpositive : 0 < k) (hkept : sinceLast isStart (past ++ messages.take k) = some kept)
    (hspelled : Spelled frame kept) : kept = messages := by
  obtain ⟨start, rest, rfl, hstart, hrest⟩ := exists_start_of_map_fst hcontrollers
  obtain ⟨n, rfl⟩ : ∃ n, k = n + 1 := ⟨k - 1, by omega⟩
  rw [List.take_succ_cons, sinceLast_frame hstart fun control hcontrol ↦
    hrest control (List.mem_of_mem_take hcontrol), Option.some.injEq] at hkept
  have hlength : (start :: rest.take n).length = 13 := by
    rw [hkept, ← List.length_map (f := fun message ↦ message.2.val)]
    exact hspelled.checks.1
  have hall : (start :: rest).length = 13 := by
    rw [← List.length_map (f := Prod.fst), hcontrollers]
    rfl
  rw [← hkept, List.take_of_length_le]
  simp only [List.length_cons, List.length_take] at hlength hall
  omega

/-- The messages of a frame with one value changed: whatever came before, another data byte gives no
frame, and on a fresh assembler nor does any other integer. -/
theorem not_frame_of_changed {frame : LogicTimingFrame} {messages : List Control}
    (h : Spelled frame messages) {i : ℕ} (hi : i < messages.length) {value : ℤ}
    (hvalue : value ≠ messages[i].2.val) {before : List (List ℤ)}
    (hbyte : (0 ≤ value ∧ value ≤ 127) ∨ before = []) :
    ∀ outcome ∈ (LogicMidiFrameAssembler.idle.feedAll before).outcomes
        ((messages.map controlMessage).set i [logicCcStatus, messages[i].1.val, value]),
      ∀ other, outcome ≠ .ok (some other) := by
  rintro outcome hmem other rfl
  obtain ⟨sent, message, after, hstream, houtcome⟩ := LogicMidiFrameAssembler.mem_outcomes hmem
  rw [← LogicMidiFrameAssembler.feedAll_append, eq_comm, feed_eq_some, List.append_assoc] at houtcome
  obtain ⟨-, kept, hkept, hspelled⟩ := houtcome
  obtain ⟨-, -, hcontrollers, -⟩ := id h
  by_cases hrange : 0 ≤ value ∧ value ≤ 127
  · -- a data byte: the messages are still controller messages in the order of a frame
    have hcast : (value.toNat : ℤ) = value := Int.toNat_of_nonneg hrange.1
    let changed : List Control := messages.set i (messages[i].1, ⟨value.toNat, by omega, by omega⟩)
    have hchanged : changed.map controlMessage =
        (messages.map controlMessage).set i [logicCcStatus, messages[i].1.val, value] := by
      rw [List.map_set, controlMessage, hcast]
    have hsent : sent ++ [message] = (changed.take (sent.length + 1)).map controlMessage := by
      have htake : (sent ++ [message] ++ after).take (sent.length + 1) = sent ++ [message] :=
        List.take_left' (by simp)
      rw [List.map_take, hchanged, hstream, List.append_cons sent message after, htake]
    have hchangedControllers : changed.map Prod.fst = ccStart :: frameOrder := by
      have hsame := List.set_getElem_self (by rwa [List.length_map] : i < (messages.map Prod.fst).length)
      rw [List.getElem_map] at hsame
      rw [List.map_set, ← hcontrollers]
      exact hsame
    rw [hsent, controls_append_map] at hkept
    have hall := eq_of_spelled_take hchangedControllers (Nat.succ_pos _) hkept hspelled
    have hsame := h.eq_of_set hi (hall ▸ hspelled)
    exact hvalue (by rw [← hcast, ← hsame])
  · -- no data byte: one message fewer is left than a frame has
    obtain rfl := hbyte.resolve_left hrange
    have hkeptLength : kept.length = 13 := by
      rw [← List.length_map (f := fun message ↦ message.2.val)]
      exact hspelled.checks.1
    have hlength : messages.length = 13 := by
      rw [← List.length_map (f := Prod.fst), hcontrollers]
      rfl
    have hcounts := congrArg List.length hstream
    have hsuffix := (suffix_of_sinceLast hkept).length_le
    have hfiltered : (controls ([] ++ (sent ++ [message]))).length ≤ (sent ++ [message]).length :=
      List.length_filterMap_le _ _
    simp only [List.length_set, List.length_map, List.length_append, List.length_cons,
      List.length_nil] at hcounts hfiltered
    obtain rfl : after = [] := List.eq_nil_of_length_eq_zero (by omega)
    have hsome := List.filterMap_length_eq_length.mp
      (show (controls (sent ++ [message])).length = (sent ++ [message]).length by
        rw [List.nil_append] at hsuffix hfiltered
        simp only [List.length_append, List.length_singleton, List.length_nil] at hcounts ⊢
        omega)
    rw [← hstream] at hsome
    have hmessage := hsome _ (List.mem_set (by rwa [List.length_map]) _)
    simp [controlOf, hrange] at hmessage

end N0te.Midi
