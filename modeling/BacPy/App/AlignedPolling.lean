import BacPy.Library.Runs
import Mathlib.Data.Rat.Floor

/-! `TrendLogEngine`: polled logging with aligned intervals, over runs of evaluations on an exact clock. -/

namespace BacPy

open Library

/-- A Trend Log that is polled: its properties, in hundredths of seconds, when it was polled last, and
how many times its value has been recorded.
-/
structure PolledLog where
  logInterval : Nat
  intervalOffset : Nat
  alignIntervals : Bool := true
  lastPoll : Option Rat := none
  samples : Nat := 0

/-- `int(value)` -/
def truncate (value : Rat) : Int := if 0 ≤ value then ⌊value⌋ else ⌈value⌉

/-- The midnight before a time of the wall clock. -/
def midnight (wall : Rat) : Rat := 86400 * ⌊wall / 86400⌋

namespace PolledLog

def intervalSecs (log : PolledLog) : Rat := log.logInterval / 100

def offsetSecs (log : PolledLog) : Rat := log.intervalOffset / 100

/-- Whether `_handle_polled` goes on to record. -/
def isDue (log : PolledLog) (nowWall nowMono : Rat) : Bool :=
  if log.alignIntervals = true ∧ 0 < log.intervalSecs then
    let elapsed := nowWall - midnight nowWall + log.offsetSecs
    let currentSlot := truncate (elapsed / log.intervalSecs)
    match log.lastPoll with
    | none => true
    | some lastWall =>
      let lastElapsed := nowWall - (nowMono - lastWall) - midnight nowWall + log.offsetSecs
      let lastSlot := truncate (lastElapsed / log.intervalSecs)
      ¬ currentSlot ≤ lastSlot
  else ¬ nowMono - log.lastPoll.getD 0 < log.intervalSecs

def handlePolled (log : PolledLog) (nowWall nowMono : Rat) : PolledLog :=
  if log.logInterval ≤ 0 then log
  else if log.isDue nowWall nowMono then
    { log with lastPoll := some nowMono, samples := log.samples + 1 }
  else log

/-- An aligned instant: midnight plus a multiple of the interval, moved by the offset to a later or to an
earlier time.
-/
def instant (log : PolledLog) (later : Bool) (day slot : Int) : Rat :=
  86400 * day + slot * log.intervalSecs + if later then log.offsetSecs else -log.offsetSecs

/-- An aligned instant lies behind the first time, and not behind the second one. -/
def Crosses (log : PolledLog) (later : Bool) (first second : Rat) : Prop :=
  ∃ day slot, first < log.instant later day slot ∧ log.instant later day slot ≤ second

-- Slots

/-- How many intervals a time is behind the first aligned instant. -/
def phase (log : PolledLog) (time : Rat) : Rat := (time + log.offsetSecs) / log.intervalSecs

/-- The log has aligned intervals that divide a day. -/
structure Aligned (log : PolledLog) : Prop where
  aligns : log.alignIntervals = true
  positive : 0 < log.logInterval
  divides : log.logInterval ∣ 8640000

variable {log : PolledLog} {first second : Rat}

theorem Aligned.intervalSecs_pos (aligned : log.Aligned) : 0 < log.intervalSecs :=
  div_pos (Nat.cast_pos.mpr aligned.positive) (by norm_num)

theorem Aligned.day (aligned : log.Aligned) : ∃ slots : Int, (86400 : Rat) = slots * log.intervalSecs := by
  obtain ⟨slots, whole⟩ := aligned.divides
  refine ⟨slots, ?_⟩
  have counted : (8640000 : Rat) = log.logInterval * slots := by exact_mod_cast whole
  rw [intervalSecs, Int.cast_natCast]
  linarith

theorem Aligned.instant_eq (aligned : log.Aligned) (day slot : Int)
    : ∃ number : Int, log.instant false day slot = number * log.intervalSecs - log.offsetSecs := by
  obtain ⟨slots, whole⟩ := aligned.day
  refine ⟨slots * day + slot, ?_⟩
  rw [instant, whole, if_neg Bool.false_ne_true, Int.cast_add, Int.cast_mul]
  ring

theorem instant_zero (slot : Int) : log.instant false 0 slot = slot * log.intervalSecs - log.offsetSecs := by
  simp [instant, sub_eq_add_neg]

/-- An instant is passed exactly if the slot number grows. -/
theorem Aligned.crosses_iff (aligned : log.Aligned)
    : log.Crosses false first second ↔ ⌊log.phase first⌋ < ⌊log.phase second⌋ := by
  have positive := aligned.intervalSecs_pos
  constructor
  · rintro ⟨day, slot, behind, upTo⟩
    obtain ⟨number, same⟩ := aligned.instant_eq day slot
    rw [same] at behind upTo
    have below : ⌊log.phase first⌋ < number :=
      Int.floor_lt.mpr ((div_lt_iff₀ positive).mpr (by linarith))
    have above : number ≤ ⌊log.phase second⌋ :=
      Int.le_floor.mpr ((le_div_iff₀ positive).mpr (by linarith))
    exact below.trans_le above
  · intro grows
    have behind := (div_lt_iff₀ positive).mp (Int.floor_lt.mp grows)
    have upTo := (le_div_iff₀ positive).mp (Int.floor_le (log.phase second))
    refine ⟨0, ⌊log.phase second⌋, ?_⟩
    rw [instant_zero]
    constructor <;> linarith

/-- At an aligned instant the phase is a whole number. -/
theorem Aligned.ceil_eq_floor_iff (aligned : log.Aligned)
    : ⌈log.phase first⌉ = ⌊log.phase first⌋ ↔ ∃ day slot, first = log.instant false day slot := by
  have positive := aligned.intervalSecs_pos
  constructor
  · intro same
    have lower := Int.floor_le (log.phase first)
    have upper := Int.le_ceil (log.phase first)
    rw [same] at upper
    have whole := (div_eq_iff positive.ne').mp (le_antisymm upper lower)
    exact ⟨0, ⌊log.phase first⌋, by rw [instant_zero]; linarith⟩
  · rintro ⟨day, slot, same⟩
    obtain ⟨number, here⟩ := aligned.instant_eq day slot
    have whole : log.phase first = number := (div_eq_iff positive.ne').mpr (by linarith)
    rw [whole, Int.ceil_intCast, Int.floor_intCast]

/-- The slot numbers within a day, where those before its first instant are rounded up. -/
theorem truncate_sub_intCast (value : Rat) (start : Int)
    : truncate (value - start) = (if (start : Rat) ≤ value then ⌊value⌋ else ⌈value⌉) - start := by
  unfold truncate
  by_cases behind : (start : Rat) ≤ value
  · rw [if_pos behind, if_pos (sub_nonneg.mpr behind), Int.floor_sub_intCast]
  · rw [if_neg behind, if_neg (by rwa [sub_nonneg]), Int.ceil_sub_intCast]

theorem midnight_le (now : Rat) : midnight now ≤ now := by
  have := Int.floor_le (now / 86400)
  unfold midnight
  linarith

theorem midnight_mono (le : first ≤ second) : midnight first ≤ midnight second := by
  have : ⌊first / 86400⌋ ≤ ⌊second / 86400⌋ := Int.floor_mono (by linarith)
  have : (⌊first / 86400⌋ : Rat) ≤ ⌊second / 86400⌋ := by exact_mod_cast this
  unfold midnight
  linarith

theorem Aligned.isDue_of_none (aligned : log.Aligned) (unpolled : log.lastPoll = none) {now mono}
    : log.isDue now mono = true := by
  simp [isDue, aligned.aligns, aligned.intervalSecs_pos, unpolled]

/-- When a log that has been polled before records: the last sample counts for the slot behind its own if
it is from before midnight less the offset.
-/
theorem Aligned.isDue_iff (aligned : log.Aligned) {now lead last}
    (polled : log.lastPoll = some last)
    : log.isDue now (now - lead) = true
      ↔ (if last + lead + log.offsetSecs < midnight now then ⌈log.phase (last + lead)⌉
          else ⌊log.phase (last + lead)⌋) < ⌊log.phase now⌋ := by
  have positive := aligned.intervalSecs_pos
  have offset : 0 ≤ log.offsetSecs := div_nonneg (Nat.cast_nonneg _) (by norm_num)
  obtain ⟨slots, whole⟩ := aligned.day
  have slotOf : ∀ time, (time - midnight now + log.offsetSecs) / log.intervalSecs
      = log.phase time - (slots * ⌊now / 86400⌋ : Int) := by
    intro time
    rw [phase, midnight, whole, Int.cast_mul]
    field_simp
    ring
  have behind : ∀ time, ((slots * ⌊now / 86400⌋ : Int) : Rat) ≤ log.phase time
      ↔ midnight now ≤ time + log.offsetSecs := by
    intro time
    rw [phase, le_div_iff₀ positive, midnight, Int.cast_mul, mul_right_comm, ← whole]
  have current : midnight now ≤ now + log.offsetSecs := le_add_of_le_of_nonneg (midnight_le now) offset
  have lastWall : now - (now - lead - last) = last + lead := by ring
  simp only [isDue, aligned.aligns, positive, and_self, if_true, polled, lastWall, slotOf,
    truncate_sub_intCast, behind, current, decide_eq_true_eq, not_le, sub_lt_sub_iff_right]
  by_cases earlier : last + lead + log.offsetSecs < midnight now
  · rw [if_pos earlier, if_neg (not_le.mpr earlier)]
  · rw [if_neg earlier, if_pos (not_lt.mp earlier)]

end PolledLog

/-- The settings of a Trend Log with aligned intervals that divide a day. -/
structure AlignedSettings where
  logInterval : Nat
  intervalOffset : Nat
  positive : 0 < logInterval
  divides : logInterval ∣ 8640000

/-- A Trend Log with these settings, how far the wall clock is ahead of the monotonic one, and when the
log was evaluated last, on the wall clock.
-/
structure PollingRun (settings : AlignedSettings) where
  log : PolledLog := {
    logInterval := settings.logInterval, intervalOffset := settings.intervalOffset }
  lead : Rat
  evaluatedAt : Option Rat := none

namespace PollingRun

variable {settings : AlignedSettings} {state : PollingRun settings}

def next (state : PollingRun settings) (now : Rat) : PollingRun settings :=
  { state with log := state.log.handlePolled now (now - state.lead), evaluatedAt := some now }

/-- An evaluation, less than one interval behind the one before. -/
def step (state : PollingRun settings) (now : Rat) : Option (PollingRun settings) :=
  if ∀ before ∈ state.evaluatedAt, before ≤ now ∧ now < before + state.log.intervalSecs then
    some (state.next now)
  else none

/-- The evaluation records once if an aligned instant lies between the one before and itself, and not at
all otherwise.
-/
def Correct (later : Bool) (state : PollingRun settings) (now : Rat) : Prop :=
  ∀ before ∈ state.evaluatedAt,
    (state.log.Crosses later before now → (state.next now).log.samples = state.log.samples + 1)
      ∧ (¬ state.log.Crosses later before now → (state.next now).log.samples = state.log.samples)

/-- The last sample is from the time before midnight less the offset, but not from an aligned instant,
and no instant has passed since.
-/
def Misses (state : PollingRun settings) (before now : Rat) : Prop :=
  ∃ lastPoll ∈ state.log.lastPoll, lastPoll + state.lead + state.log.offsetSecs < midnight now
    ∧ (∀ day slot, lastPoll + state.lead ≠ state.log.instant false day slot)
    ∧ ¬ state.log.Crosses false (lastPoll + state.lead) before

/-- With the instants moved to an earlier time: none is passed in a way that is missed. With those moved
to a later time: one of them is passed exactly if one of the others is, and not missed.
-/
def InPhase (later : Bool) (state : PollingRun settings) (now : Rat) : Prop :=
  ∀ before ∈ state.evaluatedAt,
    (state.log.Crosses later before now
      ↔ state.log.Crosses false before now ∧ ¬ state.Misses before now)

/-- The log keeps its settings, and a log that has been evaluated has been polled: in the slot of the
last evaluation, or in the one before, and then in a way that is missed.
-/
structure Sound (state : PollingRun settings) : Prop where
  aligned : state.log.Aligned
  fresh : state.evaluatedAt = none → state.log.lastPoll = none
  polled : ∀ before ∈ state.evaluatedAt, ∃ last ∈ state.log.lastPoll,
    ⌊state.log.phase (last + state.lead)⌋ = ⌊state.log.phase before⌋
      ∨ ⌊state.log.phase (last + state.lead)⌋ + 1 = ⌊state.log.phase before⌋
        ∧ last + state.lead + state.log.offsetSecs < midnight before
        ∧ ⌈state.log.phase (last + state.lead)⌉ ≠ ⌊state.log.phase (last + state.lead)⌋

variable {before now : Rat}

/-- What an evaluation records. -/
theorem next_eq (aligned : state.log.Aligned)
    : state.next now = {
        log := if state.log.isDue now (now - state.lead) then
            { state.log with lastPoll := some (now - state.lead), samples := state.log.samples + 1 }
          else state.log
        lead := state.lead
        evaluatedAt := some now } := by
  rw [next, PolledLog.handlePolled, if_neg (Nat.not_le.mpr aligned.positive)]

/-- Between two evaluations less than an interval apart the slot grows by one at most. -/
theorem slot_cases (aligned : state.log.Aligned) (le : before ≤ now)
    (near : now < before + state.log.intervalSecs)
    : ⌊state.log.phase now⌋ = ⌊state.log.phase before⌋
      ∨ ⌊state.log.phase now⌋ = ⌊state.log.phase before⌋ + 1 := by
  have positive := aligned.intervalSecs_pos
  have lower : ⌊state.log.phase before⌋ ≤ ⌊state.log.phase now⌋ :=
    Int.floor_mono (div_le_div_of_nonneg_right (by linarith) positive.le)
  have upper : ⌊state.log.phase now⌋ ≤ ⌊state.log.phase before + 1⌋ := by
    refine Int.floor_mono ?_
    rw [PolledLog.phase, PolledLog.phase, div_add_one positive.ne']
    exact div_le_div_of_nonneg_right (by linarith) positive.le
  rw [Int.floor_add_one] at upper
  omega

/-- A sample is missed, by the numbers of the slots. -/
theorem misses_iff (aligned : state.log.Aligned) {last} (polled : state.log.lastPoll = some last)
    : state.Misses before now
      ↔ last + state.lead + state.log.offsetSecs < midnight now
        ∧ ⌈state.log.phase (last + state.lead)⌉ ≠ ⌊state.log.phase (last + state.lead)⌋
        ∧ ¬ ⌊state.log.phase (last + state.lead)⌋ < ⌊state.log.phase before⌋ := by
  simp only [Misses, polled, Option.mem_some_iff, exists_eq_left', aligned.crosses_iff, ne_eq,
    aligned.ceil_eq_floor_iff, not_exists]

/-- An evaluation records if an instant has been passed, and not missed. -/
theorem Sound.isDue_iff (sound : state.Sound) (evaluated : before ∈ state.evaluatedAt) (le : before ≤ now)
    (near : now < before + state.log.intervalSecs)
    : state.log.isDue now (now - state.lead) = true
      ↔ state.log.Crosses false before now ∧ ¬ state.Misses before now := by
  obtain ⟨last, polled, slots⟩ := sound.polled before evaluated
  have grows := slot_cases sound.aligned le near
  have days := PolledLog.midnight_mono le
  have rounds := Int.ceil_le_floor_add_one (state.log.phase (last + state.lead))
  have below := Int.floor_le_ceil (state.log.phase (last + state.lead))
  rw [sound.aligned.isDue_iff polled, misses_iff sound.aligned polled, sound.aligned.crosses_iff]
  by_cases earlier : last + state.lead + state.log.offsetSecs < midnight now
  · rw [if_pos earlier]
    simp only [earlier, true_and]
    omega
  · rw [if_neg earlier]
    have same := slots.resolve_right fun missed => earlier (missed.2.1.trans_le days)
    simp only [earlier, false_and, not_false_eq_true, and_true, same]

/-- Every evaluation keeps the invariant: one that records starts anew, and one that misses a sample is
behind by one slot.
-/
theorem Sound.step {after} (sound : state.Sound) (stepped : state.step now = some after)
    : after.Sound := by
  obtain ⟨inside, ⟨⟩⟩ := Option.ite_none_right_eq_some.mp stepped
  rw [next_eq sound.aligned]
  by_cases due : state.log.isDue now (now - state.lead) = true
  · rw [if_pos due]
    refine ⟨⟨sound.aligned.aligns, sound.aligned.positive, sound.aligned.divides⟩, by rintro ⟨⟩, ?_⟩
    rintro _ ⟨⟩
    refine ⟨_, rfl, .inl ?_⟩
    dsimp only
    rw [sub_add_cancel]
  · rw [if_neg due]
    refine ⟨sound.aligned, by rintro ⟨⟩, ?_⟩
    rintro _ ⟨⟩
    cases evaluated : state.evaluatedAt with
    | none => exact absurd (sound.aligned.isDue_of_none (sound.fresh evaluated)) due
    | some before =>
      obtain ⟨le, near⟩ := inside before evaluated
      obtain ⟨last, polled, slots⟩ := sound.polled before evaluated
      have grows := slot_cases sound.aligned le near
      have days := PolledLog.midnight_mono le
      refine ⟨last, polled, ?_⟩
      dsimp only
      have missed := mt (sound.isDue_iff evaluated le near).mpr due
      rw [misses_iff sound.aligned polled, sound.aligned.crosses_iff] at missed
      rcases grows with same | more
      · rw [same]
        exact slots.imp_right fun behind => ⟨behind.1, behind.2.1.trans_le days, behind.2.2⟩
      · obtain ⟨earlier, rounded, here⟩ := not_and_not_right.mp missed (by omega)
        exact .inr ⟨by omega, earlier, rounded⟩

/-- An evaluation is correct exactly if it is in phase. -/
theorem Sound.correct_iff {later after} (sound : state.Sound)
    (stepped : state.step now = some after)
    : state.Correct later now ↔ state.InPhase later now := by
  obtain ⟨inside, _⟩ := Option.ite_none_right_eq_some.mp stepped
  refine forall₂_congr fun before evaluated => ?_
  rw [← sound.isDue_iff evaluated (inside before evaluated).1 (inside before evaluated).2,
    next_eq sound.aligned]
  by_cases due : state.log.isDue now (now - state.lead) = true
  · simp [due]
  · simp [due]

/-- A log that has not been evaluated. -/
def start (settings : AlignedSettings) (lead : Rat) : PollingRun settings := { lead }

/-- In a run every evaluation records exactly the instants it has passed if and only if every evaluation
is in phase.
-/
theorem aligned_polling_run_iff (settings : AlignedSettings) (lead : Rat) (later : Bool)
    (evaluations : List Rat)
    : Meets step (Correct later) (start settings lead) evaluations
      ↔ Meets step (InPhase later) (start settings lead) evaluations := by
  have keeps {state : PollingRun settings} {now : Rat} {after : PollingRun settings} (sound : state.Sound)
      (_ : state.Correct later now) (stepped : state.step now = some after)
      : after.Sound :=
    sound.step stepped
  have fresh : (start settings lead).Sound :=
    ⟨⟨rfl, settings.positive, settings.divides⟩, fun _ => rfl, by rintro _ ⟨⟩⟩
  exact meets_congr keeps (fun sound stepped => sound.correct_iff stepped) fresh

/-- One sample a minute. -/
def everyMinute : AlignedSettings where
  logInterval := 6000
  intervalOffset := 0
  positive := by decide
  divides := by decide

/-- Half a second before midnight, when it has been evaluated for the first time. -/
def beforeMidnight : PollingRun everyMinute where
  log := { logInterval := 6000, intervalOffset := 0, lastPoll := some 86399.5, samples := 1 }
  lead := 0
  evaluatedAt := some 86399.5

theorem aligned_beforeMidnight : beforeMidnight.log.Aligned :=
  ⟨rfl, everyMinute.positive, everyMinute.divides⟩

/-- The sample of midnight is missed if the last one is from between two instants, whichever way the
instants are moved.
-/
theorem midnight_sample_missed
    : ¬ ∃ later, ∀ (settings : AlignedSettings) (lead : Rat) (evaluations : List Rat),
        Meets step (Correct later) (start settings lead) evaluations := by
  rintro ⟨later, correct⟩
  have first : (start everyMinute 0).step 86399.5 = some beforeMidnight := by
    simp [step, start, next, PolledLog.handlePolled, PolledLog.isDue, PolledLog.intervalSecs, everyMinute,
      beforeMidnight]
  have second : beforeMidnight.step 86400.5 = some (beforeMidnight.next 86400.5) := by
    refine if_pos ?_
    rintro _ ⟨⟩
    norm_num [beforeMidnight, PolledLog.intervalSecs]
  have missed : ¬ beforeMidnight.log.isDue 86400.5 (86400.5 - beforeMidnight.lead) = true := by
    rw [aligned_beforeMidnight.isDue_iff rfl]
    norm_num [PolledLog.phase, PolledLog.offsetSecs, PolledLog.intervalSecs, midnight, beforeMidnight]
  have last := (((correct everyMinute 0 [86399.5, 86400.5]) _ first).2 _ second).1
  have recorded := (last 86399.5 rfl).1 ⟨1, 0, by
    cases later <;> norm_num [PolledLog.instant, PolledLog.offsetSecs, beforeMidnight]⟩
  rw [next_eq aligned_beforeMidnight, if_neg missed] at recorded
  cases recorded

end PollingRun

end BacPy
