import Mathlib.Algebra.Order.Field.Rat
import Mathlib.Data.Nat.Bitwise
import N0te.Library.Checking
import N0te.Library.Framing

/-!
# Reassembling timing frames

A timing frame comes as thirteen controller messages of MIDI channel 16, opened by `CC_START` and
in one fixed order (`frameOrder`). `LogicMidiFrameAssembler.feed` takes one message at a time and
either returns a frame, returns nothing or raises; `LogicTimingFrame.make` is the frame's own
validation, and a `LogicTimingFrame` carries what it checks.
-/

set_option autoImplicit false
set_option relaxedAutoImplicit false

namespace N0te.Midi

open Library

/-! ### Checked integers -/

/-- The integers between two bounds. -/
abbrev Within (minimum maximum : ℕ) : Type := {n : ℕ // minimum ≤ n ∧ n ≤ maximum}

/-- The seven bits of a MIDI data byte. -/
abbrev DataByte : Type := Within 0 127

/-- `_integer`: the bounds are never negative, so neither is what passes. -/
def integer (value : ℤ) (field : String) (minimum maximum : ℕ) :
    Except String (Within minimum maximum) :=
  if h : minimum ≤ value ∧ value ≤ maximum then
    .ok ⟨value.toNat, by omega, by omega⟩
  else .error s!"{field} must be between {minimum} and {maximum}"

/-- A check whose success is kept as a proof. -/
def certify (condition : Prop) [Decidable condition] (e : String) :
    Except String (PLift condition) :=
  if h : condition then .ok ⟨h⟩ else .error e

theorem integer_eq_ok {value : ℤ} {field : String} {minimum maximum : ℕ}
    {n : Within minimum maximum} :
    integer value field minimum maximum = .ok n ↔ (n.val : ℤ) = value := by
  have hbounds := n.property
  unfold integer
  by_cases h : minimum ≤ value ∧ value ≤ maximum
  · rw [dif_pos h, Except.ok.injEq, ← Subtype.val_inj]
    dsimp only
    omega
  · rw [dif_neg h]
    constructor
    · intro hok
      cases hok
    · intro hvalue
      omega

theorem certify_eq_ok {condition : Prop} [Decidable condition] {e : String}
    {proof : PLift condition} : certify condition e = .ok proof ↔ condition := by
  unfold certify
  by_cases h : condition
  · rw [dif_pos h]
    exact iff_of_true rfl h
  · rw [dif_neg h]
    exact iff_of_false (fun herror ↦ by cases herror) h

/-! ### Frames -/

/-- `LOGIC_PROTOCOL_VERSION`. -/
def logicProtocolVersion : ℕ := 1

/-- `LOGIC_MIDI_CHANNEL`. -/
def logicMidiChannel : ℕ := 16

/-- `LOGIC_CC_STATUS`: a controller message of the channel. -/
def logicCcStatus : ℕ := 0xB0 ||| (logicMidiChannel - 1)

def ccSession0 : DataByte := ⟨102, by decide⟩
def ccSession1 : DataByte := ⟨103, by decide⟩
def ccSession2 : DataByte := ⟨104, by decide⟩
def ccSession3 : DataByte := ⟨105, by decide⟩
def ccTempoMsb : DataByte := ⟨106, by decide⟩
def ccTempoLsb : DataByte := ⟨107, by decide⟩
def ccFlags : DataByte := ⟨108, by decide⟩
def ccMeterNumerator : DataByte := ⟨109, by decide⟩
def ccMeterDenominator : DataByte := ⟨110, by decide⟩
def ccEnd : DataByte := ⟨116, by decide⟩
def ccChecksum : DataByte := ⟨117, by decide⟩
def ccVersion : DataByte := ⟨118, by decide⟩
def ccStart : DataByte := ⟨119, by decide⟩

/-- `_FRAME_ORDER`: the controllers after `CC_START`, in the order a frame has them. -/
def frameOrder : List DataByte :=
  [ccVersion, ccSession0, ccSession1, ccSession2, ccSession3, ccTempoMsb, ccTempoLsb, ccFlags,
    ccMeterNumerator, ccMeterDenominator, ccChecksum, ccEnd]

/-- A timing frame, with what its constructor checks. -/
structure LogicTimingFrame where
  sequence : DataByte
  sessionToken : Within 0 0x0FFFFFFF
  tempoBpm : ℚ
  isPlaying : Bool
  isCycling : Bool
  meterNumerator : Within 1 127
  meterDenominator : Within 1 127
  tempoBpm_mem : 20 ≤ tempoBpm ∧ tempoBpm ≤ 400
  meterDenominator_pow : meterDenominator.val &&& (meterDenominator.val - 1) = 0
  deriving DecidableEq

/-- `LogicTimingFrame(…)` with its `__post_init__`. -/
def LogicTimingFrame.make (sequence sessionToken : ℤ) (tempoBpm : ℚ) (isPlaying isCycling : Bool)
    (meterNumerator meterDenominator protocolVersion : ℤ) : Except String LogicTimingFrame := do
  let sequence ← integer sequence "sequence" 0 127
  let sessionToken ← integer sessionToken "session_token" 0 0x0FFFFFFF
  let protocol ← integer protocolVersion "protocol_version" 1 127
  require (protocol.val = logicProtocolVersion)
    s!"unsupported Logic timing protocol version: {protocol.val}"
  let tempo ← certify (20 ≤ tempoBpm ∧ tempoBpm ≤ 400) "tempo_bpm must be between 20 and 400"
  let numerator ← integer meterNumerator "meter_numerator" 1 127
  let denominator ← integer meterDenominator "meter_denominator" 1 127
  let power ← certify (denominator.val &&& (denominator.val - 1) = 0)
    "meter_denominator must be a power of two"
  return ⟨sequence, sessionToken, tempoBpm, isPlaying, isCycling, numerator, denominator,
    tempo.down, power.down⟩

/-- The constructor returns a frame exactly when the frame has the given fields. -/
theorem LogicTimingFrame.make_eq_ok {sequence sessionToken : ℤ} {tempoBpm : ℚ}
    {isPlaying isCycling : Bool} {meterNumerator meterDenominator protocolVersion : ℤ}
    {frame : LogicTimingFrame} :
    LogicTimingFrame.make sequence sessionToken tempoBpm isPlaying isCycling meterNumerator
        meterDenominator protocolVersion = .ok frame ↔
      frame.sequence.val = sequence ∧ frame.sessionToken.val = sessionToken ∧
        frame.tempoBpm = tempoBpm ∧ frame.isPlaying = isPlaying ∧ frame.isCycling = isCycling ∧
        frame.meterNumerator.val = meterNumerator ∧
        frame.meterDenominator.val = meterDenominator ∧
        protocolVersion = logicProtocolVersion := by
  simp only [LogicTimingFrame.make, bind_eq_ok, pure_eq_ok, integer_eq_ok, require_eq_ok,
    certify_eq_ok]
  constructor
  · rintro ⟨seq, hseq, token, htoken, protocol, hprotocol, -, hversion, -, -, num, hnum, den, hden,
      -, -, rfl⟩
    exact ⟨hseq, htoken, rfl, rfl, rfl, hnum, hden, by rw [← hprotocol, hversion]⟩
  · rintro ⟨hseq, htoken, rfl, rfl, rfl, hnum, hden, hversion⟩
    exact ⟨frame.sequence, hseq, frame.sessionToken, htoken, ⟨1, by decide⟩, hversion.symm, (), rfl,
      ⟨frame.tempoBpm_mem⟩, frame.tempoBpm_mem, frame.meterNumerator, hnum,
      frame.meterDenominator, hden, ⟨frame.meterDenominator_pow⟩, frame.meterDenominator_pow, rfl⟩

/-! ### The assembler -/

/-- `LogicMidiFrameAssembler`: the sequence number of the frame under way, the values it has so
far by controller, and how many of its controllers have come. -/
structure LogicMidiFrameAssembler where
  sequence : Option DataByte
  values : List (DataByte × DataByte)
  nextIndex : ℕ
  deriving DecidableEq

namespace LogicMidiFrameAssembler

/-- The assembler as it is built, and what `_reset` leaves. -/
def idle : LogicMidiFrameAssembler := ⟨none, [], 0⟩

/-- An assignment to a key of a dictionary. -/
def assign (values : List (DataByte × DataByte)) (controller value : DataByte) :
    List (DataByte × DataByte) :=
  if controller ∈ values.map Prod.fst then
    values.map fun entry ↦ if entry.1 = controller then (controller, value) else entry
  else values ++ [(controller, value)]

/-- `_values[controller]`. -/
def read (values : List (DataByte × DataByte)) (controller : DataByte) : Except String DataByte :=
  orRaise (values.lookup controller) s!"{controller.val}"

/-- `_checksum`. -/
def checksum (values : List DataByte) : ℕ :=
  values.foldl (fun result value ↦ result ^^^ value.val) 0 &&& 0x7F

/-- `_finish`. -/
def finish (values : List (DataByte × DataByte)) (sequence : DataByte) :
    Except String LogicTimingFrame := do
  require (values.map Prod.fst ⊆ frameOrder.dropLast ∧ frameOrder.dropLast ⊆ values.map Prod.fst)
    "Logic timing frame is incomplete"
  let version ← read values ccVersion
  require (version.val = logicProtocolVersion)
    s!"unsupported Logic timing protocol version: {version.val}"
  let session0 ← read values ccSession0
  let session1 ← read values ccSession1
  let session2 ← read values ccSession2
  let session3 ← read values ccSession3
  let tempoMsb ← read values ccTempoMsb
  let tempoLsb ← read values ccTempoLsb
  let flags ← read values ccFlags
  let numerator ← read values ccMeterNumerator
  let denominator ← read values ccMeterDenominator
  let sum ← read values ccChecksum
  require (sum.val = checksum [sequence, version, session0, session1, session2, session3, tempoMsb,
      tempoLsb, flags, numerator, denominator])
    "Logic timing frame checksum failed"
  let session := session0.val <<< 21 ||| session1.val <<< 14 ||| session2.val <<< 7 ||| session3.val
  let tempo10 := tempoMsb.val <<< 7 ||| tempoLsb.val
  -- `flags & ~0x03`: a bit above the lowest two
  require (flags.val >>> 2 = 0) "Logic timing frame contains unsupported flags"
  LogicTimingFrame.make sequence.val session (tempo10 / 10) (flags.val &&& 0x01 ≠ 0)
    (flags.val &&& 0x02 ≠ 0) numerator.val denominator.val version.val

/-- What `feed` does with a controller message of the channel. -/
def control (assembler : LogicMidiFrameAssembler) (controller value : DataByte) :
    LogicMidiFrameAssembler × Except String (Option LogicTimingFrame) :=
  if controller = ccStart then (⟨some value, [], 0⟩, .ok none)
  else
    match assembler.sequence, frameOrder[assembler.nextIndex]? with
    | none, _ => (assembler, .ok none)
    | some _, none => (assembler, .error "tuple index out of range")
    | some sequence, some expected =>
      if controller ≠ expected then
        (idle, .error "Logic timing frame is incomplete or out of order")
      else if controller = ccEnd then
        if value ≠ sequence then
          (idle, .error "Logic timing frame end sequence does not match start")
        else (idle, some <$> finish assembler.values sequence)
      else
        ({ assembler with
            values := assign assembler.values controller value
            nextIndex := assembler.nextIndex + 1 }, .ok none)

/-- The three checked bytes of a message; a message of another length has none. -/
def bytes (message : List ℤ) : Except String (Option (Within 0 255 × DataByte × DataByte)) :=
  match message with
  | [status, controller, value] => do
    let status ← integer status "MIDI status" 0 255
    let controller ← integer controller "MIDI controller" 0 127
    let value ← integer value "MIDI value" 0 127
    return some (status, controller, value)
  | _ => .ok none

/-- `feed`: one MIDI message; the frame it completes, nothing, or a raise. -/
def feed (assembler : LogicMidiFrameAssembler) (message : List ℤ) :
    LogicMidiFrameAssembler × Except String (Option LogicTimingFrame) :=
  match bytes message with
  | .error e => (assembler, .error e)
  | .ok none => (assembler, .ok none)
  | .ok (some (status, controller, value)) =>
    if status.val ≠ logicCcStatus then (assembler, .ok none)
    else assembler.control controller value

/-- A stream of messages, one after the other; a raise leaves the assembler ready for the next. -/
def feedAll (assembler : LogicMidiFrameAssembler) (stream : List (List ℤ)) :
    LogicMidiFrameAssembler :=
  stream.foldl (fun state message ↦ (state.feed message).1) assembler

/-- What each message of a stream gives. -/
def outcomes (assembler : LogicMidiFrameAssembler) :
    List (List ℤ) → List (Except String (Option LogicTimingFrame))
  | [] => []
  | message :: rest => (assembler.feed message).2 :: outcomes (assembler.feed message).1 rest

end LogicMidiFrameAssembler

end N0te.Midi
