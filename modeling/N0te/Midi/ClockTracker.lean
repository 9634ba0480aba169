import Mathlib.Algebra.Order.BigOperators.Group.List
import Mathlib.Data.List.Infix
import N0te.Audio.TimingCandidates

/-!
# The tempo of a MIDI clock

A `StudioOneMidiClockTracker` derives a tempo from the timestamps of clock messages. It keeps the
intervals of at most 48 of them, and estimates the tempo from those that are close to their median.
The monitor publishes the tempo it holds.

`clockTimes` are the timestamps of the clock messages since the last reset. The tracker holds the
last of their intervals, all of them within the bounds (`tracks_run`), and a tempo that is published
is the estimate of what it held at one of these timestamps (`tempo_published`).

Scope. Numbers are rational, and the bounds and factors are the decimals of the source.
-/

set_option autoImplicit false
set_option relaxedAutoImplicit false

namespace N0te.Midi

/-! ### The tracker -/

/-- `_MIN_CLOCK_INTERVALS`. -/
def minClockIntervals : ℕ := 24

/-- `_CLOCK_WINDOW`. -/
def clockWindow : ℕ := 48

/-- `_MIN_TICK_SECONDS`. -/
def minTickSeconds : ℚ := 60 / (400 * 24) * (3 / 4)

/-- `_MAX_TICK_SECONDS`. -/
def maxTickSeconds : ℚ := 60 / (20 * 24) * (3 / 2)

/-- `_TRANSPORT_STATES`. -/
inductive TransportState where
  | unknown
  | playing
  | stopped
  deriving DecidableEq

/-- `StudioOneMidiClockTracker`. -/
structure ClockTracker where
  intervals : List ℚ
  lastTick : Option ℚ
  tempoBpm : Option ℚ
  transportState : TransportState
  deriving DecidableEq

def newTracker : ClockTracker := ⟨[], none, none, .unknown⟩

/-- `reset_timing`. -/
def ClockTracker.resetTiming (t : ClockTracker) : ClockTracker :=
  { t with intervals := [], lastTick := none, tempoBpm := none }

/-- The last items of a list, as a `deque` with a greatest length keeps them. -/
def lastItems (count : ℕ) (l : List ℚ) : List ℚ := l.drop (l.length - count)

/-- `statistics.fmean`. -/
def mean (values : List ℚ) : ℚ := values.sum / values.length

def closeIntervals (values : List ℚ) : List ℚ :=
  values.filter fun value ↦ |value - Audio.median values| ≤ Audio.median values * (35 / 100)

/-- `_estimate_tempo`. -/
def estimateTempo (values : List ℚ) : Option ℚ :=
  if values.length < minClockIntervals then none
  else if ¬ (minTickSeconds ≤ Audio.median values ∧ Audio.median values ≤ maxTickSeconds) then none
  else if (closeIntervals values).length < max minClockIntervals (values.length * 8 / 10) then none
  else
    let tempo := 60 / (24 * mean (closeIntervals values))
    if ¬ (20 ≤ tempo ∧ tempo ≤ 400) then none else some tempo

/-- `StudioOneMidiBridgeError`. -/
inductive BridgeError where
  | notSequence
  | statusNotInteger
  | statusOutOfRange
  | timestampNotFinite
  | timestampsNotIncreasing
  deriving DecidableEq

def BridgeError.text : BridgeError → String
  | .notSequence => "MIDI message must be a sequence of bytes"
  | .statusNotInteger => "MIDI status must be an integer"
  | .statusOutOfRange => "MIDI status must be between 0 and 255"
  | .timestampNotFinite => "monotonic_seconds must be finite"
  | .timestampsNotIncreasing => "MIDI Clock timestamps must increase monotonically"

/-- What the tracker is fed: a message, unless it is no sequence, each item with its integer if it
has one, and a timestamp if it is finite. -/
structure MidiEvent where
  message : Option (List (Option ℤ))
  seconds : Option ℚ
  deriving DecidableEq

def midiByte (status : ℤ) (seconds : ℚ) : MidiEvent := ⟨some [some status], some seconds⟩

/-- `MIDI_CLOCK`. -/
def midiClock : ℤ := 0xF8

/-- `MIDI_START`. -/
def midiStart : ℤ := 0xFA

/-- `MIDI_CONTINUE`. -/
def midiContinue : ℤ := 0xFB

/-- `MIDI_STOP`. -/
def midiStop : ℤ := 0xFC

/-- The tempo after a clock message, and whether it changed. -/
def ClockTracker.reestimated (t : ClockTracker) : Bool × ClockTracker :=
  match estimateTempo t.intervals with
  | none => (false, t)
  | some estimate =>
    (t.tempoBpm.all fun tempo ↦ decide (1 / 100 ≤ |estimate - tempo|),
      { t with tempoBpm := some estimate })

def ClockTracker.tick (t : ClockTracker) (now : ℚ) : Except BridgeError Bool × ClockTracker :=
  match t.lastTick with
  | none =>
    let after := { t with lastTick := some now }.reestimated
    (.ok after.1, after.2)
  | some last =>
    if now - last ≤ 0 then (.error .timestampsNotIncreasing, t.resetTiming)
    else if ¬ (minTickSeconds ≤ now - last ∧ now - last ≤ maxTickSeconds) then
      let after := { t.resetTiming with lastTick := some now }.reestimated
      (.ok after.1, after.2)
    else
      let after := { t with
        intervals := lastItems clockWindow (t.intervals ++ [now - last])
        lastTick := some now }.reestimated
      (.ok after.1, after.2)

def ClockTracker.transport (t : ClockTracker) (state : TransportState) :
    Except BridgeError Bool × ClockTracker :=
  (.ok (decide (t.transportState ≠ state)), { t with transportState := state })

/-- The status and the timestamp of an event, unless it is refused; nothing for an empty message. -/
def checkEvent (e : MidiEvent) : Except BridgeError (Option (ℤ × ℕ × ℚ)) := do
  match e.message with
  | none => throw .notSequence
  | some [] => return none
  | some (status :: rest) =>
    let some status := status | throw .statusNotInteger
    if ¬ (0 ≤ status ∧ status ≤ 255) then throw .statusOutOfRange
    let some now := e.seconds | throw .timestampNotFinite
    return some (status, rest.length + 1, now)

/-- `feed`. -/
def ClockTracker.feed (t : ClockTracker) (e : MidiEvent) : Except BridgeError Bool × ClockTracker :=
  match checkEvent e with
  | .error error => (.error error, t)
  | .ok none => (.ok false, t)
  | .ok (some (status, length, now)) =>
    if status = midiClock ∧ length = 1 then t.tick now
    else if (status = midiStart ∨ status = midiContinue) ∧ length = 1 then t.transport .playing
    else if status = midiStop ∧ length = 1 then t.transport .stopped
    else (.ok false, t)

/-- The tracker after some events, whatever they raised. -/
def trackerAfter (events : List MidiEvent) : ClockTracker :=
  events.foldl (fun t e ↦ (t.feed e).2) newTracker

/-- What `_on_midi` publishes on an event after some others. -/
def published (events : List MidiEvent) (e : MidiEvent) : Option ℚ :=
  match ((trackerAfter events).feed e).1, e.message with
  | .ok changed, some (status :: _) =>
    if status = some midiClock ∨ changed = true then (trackerAfter (events ++ [e])).tempoBpm
    else none
  | _, _ => none

/-! ### Timestamps since the last reset -/

/-- An interval is within the bounds. -/
abbrev InRange (interval : ℚ) : Prop := minTickSeconds ≤ interval ∧ interval ≤ maxTickSeconds

/-- The timestamp of an event that is accepted as a clock message. -/
def clockTime (e : MidiEvent) : Option ℚ :=
  match checkEvent e with
  | .ok (some (status, length, now)) => if status = midiClock ∧ length = 1 then some now else none
  | _ => none

/-- The timestamps since the last reset, after another one: a timestamp that does not increase is
dropped with all before it, and one that is too near or too far starts anew. -/
def timesAfter (times : List ℚ) (now : ℚ) : List ℚ :=
  match times.getLast? with
  | none => [now]
  | some last => if now ≤ last then [] else if InRange (now - last) then times ++ [now] else [now]

/-- The timestamps of the clock messages since the last reset. -/
def clockTimes (events : List MidiEvent) : List ℚ :=
  (events.filterMap clockTime).foldl timesAfter []

/-- The intervals between timestamps. -/
def differences (times : List ℚ) : List ℚ :=
  List.zipWith (fun first second ↦ second - first) times times.tail

/-- A tempo is the estimate of a window: of the average of the intervals that are close to its
median, at least 24 of them and four in five. -/
structure IsEstimate (window : List ℚ) (tempo : ℚ) : Prop where
  many : minClockIntervals ≤ (closeIntervals window).length
  most : window.length * 8 / 10 ≤ (closeIntervals window).length
  average : tempo = 60 / (24 * mean (closeIntervals window))
  range : 20 ≤ tempo ∧ tempo ≤ 400
  implied : 60 / (24 * maxTickSeconds) ≤ tempo ∧ tempo ≤ 60 / (24 * minTickSeconds)

section

variable {times : List ℚ} {now last tempo : ℚ} {values : List ℚ}

theorem isEstimate_of_estimateTempo (h : estimateTempo values = some tempo) :
    IsEstimate values tempo := by
  unfold estimateTempo at h
  dsimp only at h
  split_ifs at h with hfew hmedian hclose hrange
  rw [not_lt, max_le_iff] at hclose
  cases h
  refine ⟨hclose.1, hclose.2, rfl, hrange, ?_, ?_⟩
  · refine le_trans ?_ hrange.1
    norm_num [maxTickSeconds]
  · refine le_trans hrange.2 ?_
    norm_num [minTickSeconds]

theorem differences_concat (h : times.getLast? = some last) :
    differences (times ++ [now]) = differences times ++ [now - last] := by
  induction times with
  | nil => cases h
  | cons first rest ih =>
    cases rest with
    | nil =>
      cases h
      rfl
    | cons second rest =>
      rw [List.getLast?_cons_cons] at h
      show (second - first) :: differences (second :: rest ++ [now]) = _
      rw [ih h]
      rfl

/-- The last items of a list with one more are those of its last items with one more. -/
theorem lastItems_append (count : ℕ) (l : List ℚ) (x : ℚ) :
    lastItems count (lastItems count l ++ [x]) = lastItems count (l ++ [x]) := by
  unfold lastItems
  by_cases h : l.length ≤ count
  · rw [Nat.sub_eq_zero_of_le h, List.drop_zero]
  · have hsplit : l ++ [x] = l.take (l.length - count) ++ (l.drop (l.length - count) ++ [x]) := by
      rw [← List.append_assoc, List.take_append_drop]
    have hlength : (l.drop (l.length - count) ++ [x]).length = count + 1 := by
      rw [List.length_append, List.length_drop, List.length_singleton]
      omega
    have hdrop : (l ++ [x]).drop ((l ++ [x]).length - count) =
        (l.drop (l.length - count) ++ [x]).drop 1 := by
      conv_lhs => rw [hsplit]
      rw [List.drop_append, List.drop_eq_nil_of_le, List.nil_append]
      · congr 1
        simp only [List.length_append, List.length_take, List.length_drop, List.length_singleton]
        omega
      · simp only [List.length_append, List.length_take, List.length_drop, List.length_singleton]
        omega
    rw [hdrop, hlength, Nat.add_sub_cancel_left]

/-- The tracker holds what the timestamps since the last reset say. -/
structure Tracks (t : ClockTracker) (times : List ℚ) : Prop where
  lastTick : t.lastTick = times.getLast?
  intervals : t.intervals = lastItems clockWindow (differences times)
  inRange : ∀ interval ∈ differences times, InRange interval
  tempo : ∀ tempo, t.tempoBpm = some tempo → ∃ earlier, earlier <+: times ∧
    estimateTempo (lastItems clockWindow (differences earlier)) = some tempo

variable {t : ClockTracker}

theorem tracks_new : Tracks newTracker [] := ⟨rfl, rfl, by simp [differences], nofun⟩

/-- An estimate of the timestamps keeps what the tracker holds. -/
theorem Tracks.reestimated (h : Tracks t times) : Tracks t.reestimated.2 times := by
  unfold ClockTracker.reestimated
  cases hestimate : estimateTempo t.intervals with
  | none => exact h
  | some estimate =>
    refine ⟨h.lastTick, h.intervals, h.inRange, ?_⟩
    rintro _ ⟨⟩
    exact ⟨times, List.prefix_rfl, h.intervals ▸ hestimate⟩

/-- One timestamp alone says nothing of the tempo. -/
theorem tracks_singleton (h : t.intervals = [] ∧ t.lastTick = some now ∧ t.tempoBpm = none) :
    Tracks t [now] := by
  refine ⟨h.2.1, h.1, by simp [differences], fun tempo htempo ↦ ?_⟩
  rw [h.2.2] at htempo
  cases htempo

theorem Tracks.tick (h : Tracks t times) (now : ℚ) :
    Tracks (t.tick now).2 (timesAfter times now) := by
  unfold ClockTracker.tick timesAfter
  rw [h.lastTick]
  cases hlast : times.getLast? with
  | none =>
    obtain rfl : times = [] := List.getLast?_eq_none_iff.mp hlast
    refine Tracks.reestimated ⟨rfl, h.intervals, by simp [differences], fun tempo htempo ↦ ?_⟩
    obtain ⟨earlier, hearlier, hestimate⟩ := h.tempo tempo htempo
    exact ⟨earlier, hearlier.trans (List.nil_prefix), hestimate⟩
  | some last =>
    by_cases horder : now ≤ last
    · have hdelta : now - last ≤ 0 := sub_nonpos.mpr horder
      simp only [hdelta, horder, if_true]
      exact ⟨rfl, rfl, by simp [differences], nofun⟩
    · have hdelta : ¬ now - last ≤ 0 := fun hle ↦ horder (sub_nonpos.mp hle)
      by_cases hrange : InRange (now - last)
      · simp only [if_neg hdelta, if_neg horder, if_pos hrange, if_neg (not_not_intro hrange)]
        refine Tracks.reestimated ⟨by simp, ?_, ?_, fun tempo htempo ↦ ?_⟩
        · show lastItems clockWindow (t.intervals ++ [now - last]) = _
          rw [h.intervals, lastItems_append, differences_concat hlast]
        · rw [differences_concat hlast]
          intro interval hinterval
          rcases List.mem_append.mp hinterval with hold | hnew
          · exact h.inRange interval hold
          · exact List.mem_singleton.mp hnew ▸ hrange
        · obtain ⟨earlier, hearlier, hestimate⟩ := h.tempo tempo htempo
          exact ⟨earlier, hearlier.trans (List.prefix_append _ _), hestimate⟩
      · simp only [if_neg hdelta, if_neg horder, if_pos hrange, if_neg hrange]
        exact (tracks_singleton ⟨rfl, rfl, rfl⟩).reestimated

end

/-! ### Runs -/

section

variable {t : ClockTracker} {times : List ℚ}

theorem feed_timing (t : ClockTracker) (e : MidiEvent) : match clockTime e with
    | some now => t.feed e = t.tick now
    | none => (t.feed e).2.intervals = t.intervals ∧ (t.feed e).2.lastTick = t.lastTick ∧
        (t.feed e).2.tempoBpm = t.tempoBpm := by
  unfold clockTime ClockTracker.feed
  rcases checkEvent e with error | _ | ⟨status, length, now⟩
  · exact ⟨rfl, rfl, rfl⟩
  · exact ⟨rfl, rfl, rfl⟩
  · dsimp only
    by_cases hclock : status = midiClock ∧ length = 1
    · simp only [hclock, and_self, if_true]
    · simp only [hclock, if_false]
      split_ifs <;> exact ⟨rfl, rfl, rfl⟩

theorem Tracks.feed (h : Tracks t times) (e : MidiEvent) :
    Tracks (t.feed e).2 (match clockTime e with
      | some now => timesAfter times now
      | none => times) := by
  have htiming := feed_timing t e
  cases htime : clockTime e with
  | some now =>
    rw [htime] at htiming
    dsimp only at htiming ⊢
    rw [htiming]
    exact h.tick now
  | none =>
    rw [htime] at htiming
    obtain ⟨hintervals, hlast, htempo⟩ := htiming
    exact ⟨hlast ▸ h.lastTick, hintervals ▸ h.intervals, h.inRange, htempo ▸ h.tempo⟩

theorem clockTimes_concat (events : List MidiEvent) (e : MidiEvent) : clockTimes (events ++ [e]) =
    match clockTime e with
    | some now => timesAfter (clockTimes events) now
    | none => clockTimes events := by
  unfold clockTimes
  rw [List.filterMap_append, List.foldl_append]
  cases htime : clockTime e with
  | some now => rw [List.filterMap_cons_some htime, List.filterMap_nil]; rfl
  | none => rw [List.filterMap_cons_none htime, List.filterMap_nil]; rfl

theorem trackerAfter_concat (events : List MidiEvent) (e : MidiEvent) :
    trackerAfter (events ++ [e]) = ((trackerAfter events).feed e).2 := by
  rw [trackerAfter, List.foldl_append]
  rfl

/-- After every stream of events the tracker holds the last intervals since the last reset. -/
theorem tracks_run (events : List MidiEvent) :
    Tracks (trackerAfter events) (clockTimes events) := by
  induction events using List.reverseRecOn with
  | nil => exact tracks_new
  | append_singleton events e ih =>
    rw [trackerAfter_concat, clockTimes_concat]
    exact ih.feed e

theorem tempoBpm_of_published {events : List MidiEvent} {e : MidiEvent} {tempo : ℚ}
    (h : published events e = some tempo) :
    (trackerAfter (events ++ [e])).tempoBpm = some tempo := by
  unfold published at h
  split at h
  · split_ifs at h
    exact h
  · cases h

end

/-- For every stream of events: a tempo that is published is the estimate of the window at one of
the timestamps since the last reset. The window holds the last intervals since then, all in range.
A timestamp that does not increase raises and clears everything, an interval out of range clears the
window and the tempo, and every other event leaves the timing as it is. -/
theorem tempo_published (events : List MidiEvent) (e : MidiEvent) :
    (∀ tempo, published events e = some tempo → ∃ earlier,
      earlier <+: clockTimes (events ++ [e]) ∧
        IsEstimate (lastItems clockWindow (differences earlier)) tempo) ∧
      (trackerAfter events).intervals = lastItems clockWindow (differences (clockTimes events)) ∧
      (∀ interval ∈ differences (clockTimes events), InRange interval) ∧
      (∀ now last, clockTime e = some now → (clockTimes events).getLast? = some last →
        (now ≤ last → ((trackerAfter events).feed e).1 = .error .timestampsNotIncreasing ∧
          trackerAfter (events ++ [e]) = (trackerAfter events).resetTiming) ∧
        (last < now → ¬ InRange (now - last) → trackerAfter (events ++ [e]) =
          { (trackerAfter events).resetTiming with lastTick := some now })) ∧
      (clockTime e = none → clockTimes (events ++ [e]) = clockTimes events ∧
        (trackerAfter (events ++ [e])).intervals = (trackerAfter events).intervals ∧
        (trackerAfter (events ++ [e])).tempoBpm = (trackerAfter events).tempoBpm) := by
  have htracks := tracks_run events
  have hfeed := feed_timing (trackerAfter events) e
  refine ⟨fun tempo htempo ↦ ?_, htracks.intervals, htracks.inRange, fun now last htime hlast ↦ ?_,
    fun htime ↦ ?_⟩
  · obtain ⟨earlier, hearlier, hestimate⟩ :=
      (tracks_run (events ++ [e])).tempo tempo (tempoBpm_of_published htempo)
    exact ⟨earlier, hearlier, isEstimate_of_estimateTempo hestimate⟩
  · rw [htime] at hfeed
    have htick : (trackerAfter events).lastTick = some last := htracks.lastTick.trans hlast
    rw [trackerAfter_concat, hfeed, ClockTracker.tick, htick]
    constructor
    · intro horder
      have hdelta : now - last ≤ 0 := sub_nonpos.mpr horder
      simp only [hdelta, if_true, and_self]
    · intro horder hrange
      have hdelta : ¬ now - last ≤ 0 := not_le.mpr (sub_pos.mpr horder)
      simp only [if_neg hdelta, if_pos hrange]
      rfl
  · rw [htime] at hfeed
    rw [clockTimes_concat, htime, trackerAfter_concat]
    exact ⟨rfl, hfeed.1, hfeed.2.2⟩

/-! ### A tempo that is no average of contiguous intervals -/

/-- Clock messages at some intervals after time zero. -/
def clockStream (intervals : List ℚ) : List MidiEvent :=
  (intervals.scanl (· + ·) 0).map (midiByte midiClock)

/-- Twenty-three intervals of 120 beats per minute, one of half the tempo, and one of 120 again. -/
def unevenIntervals : List ℚ := List.replicate 23 (1 / 48) ++ [1 / 24, 1 / 48]

/-- A tempo is published that no 24 contiguous intervals have as their average. -/
theorem published_not_contiguous :
    published (clockStream unevenIntervals).dropLast (midiByte midiClock (26 / 48)) = some 120 ∧
      clockStream unevenIntervals =
        (clockStream unevenIntervals).dropLast ++ [midiByte midiClock (26 / 48)] ∧
      ∀ run, run <:+: differences (clockTimes (clockStream unevenIntervals)) → 24 ≤ run.length →
        60 / (24 * mean run) ≠ 120 := by
  refine ⟨by decide +kernel, by decide +kernel, fun run hrun hlength ↦ ?_⟩
  have hruns : ∀ run ∈ (differences (clockTimes (clockStream unevenIntervals))).tails.flatMap
      List.inits, 24 ≤ run.length → 60 / (24 * mean run) ≠ 120 := by decide +kernel
  obtain ⟨suffix, hprefix, hsuffix⟩ := List.infix_iff_prefix_suffix.mp hrun
  exact hruns run (List.mem_flatMap.mpr
    ⟨suffix, (List.mem_tails _ _).mpr hsuffix, (List.mem_inits _ _).mpr hprefix⟩) hlength

end N0te.Midi
