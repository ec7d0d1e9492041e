import BacPy.App.EventStateMachine
import Mathlib.Algebra.Order.Ring.Star
import Mathlib.Data.Rat.Star
import Mathlib.Tactic.NormNum

/-! `evaluate_out_of_range` in a loop with the machine it drives: the algorithm asks for the state
that its own results led to. Without delays the two of them are an automaton on the states, and what
is said about sequences of values is said about that.
-/

namespace BacPy

/-- Limits with room between their deadbands. -/
structure Limits (α : Type) [AddCommGroup α] [LinearOrder α] where
  highLimit : α
  lowLimit : α
  deadband : α
  ordered : lowLimit ≤ highLimit
  nonnegative : 0 ≤ deadband
  apart : lowLimit + deadband ≤ highLimit - deadband

namespace Limits

section Automaton

variable {α : Type} [AddCommGroup α] [LinearOrder α]

/-- `evaluate_out_of_range` on exact numbers. -/
def evaluateOutOfRange (limits : Limits α) (value : α) (currentState : EventState)
    : Option EventState :=
  if limits.highLimit < value then some .highLimit
  else if value < limits.lowLimit then some .lowLimit
  else if currentState = .highLimit ∧ limits.highLimit - limits.deadband ≤ value then
    some .highLimit
  else if currentState = .lowLimit ∧ value ≤ limits.lowLimit + limits.deadband then some .lowLimit
  else none

/-- The state a value leads to. -/
def next (limits : Limits α) (value : α) (state : EventState) : EventState :=
  (limits.evaluateOutOfRange value state).getD .normal

/-- What the state is after a value. -/
structure Hysteresis (limits : Limits α) (before : EventState) (value : α) (after : EventState)
    : Prop where
  highLimit : after = .highLimit ↔ limits.highLimit < value
    ∨ before = .highLimit ∧ limits.highLimit - limits.deadband ≤ value
  lowLimit : after = .lowLimit ↔ value < limits.lowLimit
    ∨ before = .lowLimit ∧ value ≤ limits.lowLimit + limits.deadband
  normal : after ≠ .highLimit → after ≠ .lowLimit → after = .normal

variable [IsOrderedAddMonoid α] (limits : Limits α)

theorem hysteresis_next (value : α) (before : EventState)
    : limits.Hysteresis before value (limits.next value before) := by
  have below : limits.highLimit - limits.deadband ≤ limits.highLimit :=
    sub_le_self _ limits.nonnegative
  have above : limits.lowLimit ≤ limits.lowLimit + limits.deadband :=
    le_add_of_nonneg_right limits.nonnegative
  have apart := limits.apart
  unfold next evaluateOutOfRange
  split_ifs with tooHigh tooLow staysHigh staysLow
  · exact ⟨by simp [tooHigh], by simp; grind, by simp⟩
  · exact ⟨by simp; grind, by simp [tooLow], by simp⟩
  · exact ⟨by simp [staysHigh], by simp; grind, by simp⟩
  · exact ⟨by simp; grind, by simp [staysLow], by simp⟩
  · exact ⟨by simp; grind, by simp; grind, by simp⟩

-- Oscillation

/-- One of the two limits, with the state it stands for. -/
def limit (atHigh : Bool) : α := if atHigh then limits.highLimit else limits.lowLimit

def alarm (atHigh : Bool) : EventState := if atHigh then .highLimit else .lowLimit

/-- Less than the deadband away from a limit. -/
def Around (atHigh : Bool) (value : α) : Prop := |value - limits.limit atHigh| < limits.deadband

variable {limits} {atHigh : Bool} {value : α}

/-- Around a limit a value leaves no other alarm than that limit's. -/
theorem arrives (around : limits.Around atHigh value) (before : EventState)
    : limits.next value before = .normal ∨ limits.next value before = alarm atHigh := by
  have rules := limits.hysteresis_next value before
  have apart := limits.apart
  have nonnegative := limits.nonnegative
  obtain ⟨above, below⟩ := abs_lt.mp around
  unfold limit at above below
  unfold alarm
  cases atHigh with
  | true =>
    have notLow : limits.next value before ≠ .lowLimit := by
      intro low
      have := rules.lowLimit.mp low
      grind
    grind [rules.normal]
  | false =>
    have notHigh : limits.next value before ≠ .highLimit := by
      intro high
      have := rules.highLimit.mp high
      grind
    grind [rules.normal]

/-- Around a limit its alarm stays. -/
theorem stays (around : limits.Around atHigh value)
    : limits.next value (alarm atHigh) = alarm atHigh := by
  have rules := limits.hysteresis_next value (alarm atHigh)
  obtain ⟨above, below⟩ := abs_lt.mp around
  unfold limit at above below
  cases atHigh with
  | true => exact rules.highLimit.mpr (.inr ⟨rfl, by grind⟩)
  | false => exact rules.lowLimit.mpr (.inr ⟨rfl, by grind⟩)

end Automaton

end Limits

-- The machine it drives

/-- All enables are set, there is no delay and nothing waits for one. -/
structure EventStateMachine.Immediate {Time : Type} [Zero Time] (machine : EventStateMachine Time)
    : Prop where
  eventEnable : machine.eventEnable = #v[true, true, true]
  timeDelay : machine.timeDelay = 0
  timeDelayNormal : machine.effectiveTimeDelayNormal = 0
  pending : machine.pending = none

namespace EventStateMachine

variable {Time : Type} [AddCommGroup Time] [LinearOrder Time] {machine : EventStateMachine Time}

theorem applyDelay_immediate (immediate : machine.Immediate) (target : EventState) (time : Time)
    (normal : Bool)
    : machine.applyDelay target time normal = machine.transition target time := by
  have noDelay : (if normal then machine.effectiveTimeDelayNormal else machine.timeDelay) = 0 := by
    split
    · exact immediate.timeDelayNormal
    · exact immediate.timeDelay
  unfold applyDelay
  simp only [noDelay, immediate.pending, applyDelay.startTiming, le_refl, if_true, transition]

/-- Without delays the machine goes where the algorithm's result says. -/
theorem evaluate_immediate (immediate : machine.Immediate) (result) (time : Time)
    : machine.evaluate result (.int 0) time
      = if result.getD .normal = machine.eventState ∧ machine.eventState ≠ .fault then
          (none, machine.clearPending)
        else machine.transition (result.getD .normal) time := by
  have reliable : (Value.int 0).pyEq (.int 0) = true := by decide
  unfold evaluate
  generalize result.getD .normal = target
  simp only [reliable, Bool.not_true, Bool.false_eq_true, if_false, applyDelay_immediate immediate,
    immediate.eventEnable]
  cases state : machine.eventState <;> cases target <;> simp

end EventStateMachine

namespace Limits

variable {α Time : Type} [AddCommGroup α] [LinearOrder α] [AddCommGroup Time] [LinearOrder Time]
  {limits : Limits α} {machine : EventStateMachine Time}

/-- One cycle without a fault, in which the algorithm is given the machine's own state. -/
def scan (limits : Limits α) (machine : EventStateMachine Time) (reading : α × Time)
    : Option (EventTransition Time) × EventStateMachine Time :=
  machine.evaluate (limits.evaluateOutOfRange reading.1 machine.eventState) (.int 0) reading.2

/-- The cycles of a sequence of values, each with its time. -/
def scanAll (limits : Limits α)
    : EventStateMachine Time → List (α × Time) → List (EventTransition Time) × EventStateMachine Time
  | machine, [] => ([], machine)
  | machine, reading :: rest =>
    let scanned := limits.scan machine reading
    let later := scanAll limits scanned.2 rest
    (scanned.1.toList ++ later.1, later.2)

/-- A cycle takes the machine through the automaton, silently where the state stays. -/
theorem scan_spec (immediate : machine.Immediate) (reading : α × Time)
    : let scanned := limits.scan machine reading
      scanned.2.Immediate ∧ scanned.2.eventState = limits.next reading.1 machine.eventState
        ∧ (scanned.1 = none ↔ limits.next reading.1 machine.eventState = machine.eventState
            ∧ machine.eventState ≠ .fault) := by
  obtain ⟨eventEnable, timeDelay, timeDelayNormal, pending⟩ := immediate
  intro scanned
  have moves := machine.evaluate_immediate ⟨eventEnable, timeDelay, timeDelayNormal, pending⟩
    (limits.evaluateOutOfRange reading.1 machine.eventState) reading.2
  unfold next
  split at moves
  · next same =>
      rw [show scanned = _ from moves]
      exact ⟨⟨eventEnable, timeDelay, timeDelayNormal, rfl⟩, same.1.symm, fun _ => same, fun _ => rfl⟩
  · next differs =>
      rw [show scanned = _ from moves]
      refine ⟨⟨eventEnable, timeDelay, timeDelayNormal, rfl⟩, rfl, ?_⟩
      exact iff_of_false (Option.some_ne_none _) differs

theorem immediate_scanAll (immediate : machine.Immediate) (readings)
    : (limits.scanAll machine readings).2.Immediate := by
  induction readings generalizing machine with
  | nil => exact immediate
  | cons reading rest ih => exact ih (scan_spec immediate reading).1

variable [IsOrderedAddMonoid α] {atHigh : Bool}

/-- Around a limit its alarm stays and nothing is reported. -/
theorem silent_around (immediate : machine.Immediate) (alarmed : machine.eventState = alarm atHigh)
    {readings} (around : ∀ reading ∈ readings, limits.Around atHigh reading.1)
    : (limits.scanAll machine readings).1 = [] := by
  induction readings generalizing machine with
  | nil => rfl
  | cons reading rest ih =>
    obtain ⟨here, later⟩ := List.forall_mem_cons.mp around
    obtain ⟨still, state, silent⟩ := scan_spec immediate reading
    rw [alarmed, stays here] at state silent
    have noFault : alarm atHigh ≠ .fault := by cases atHigh <;> decide
    simp only [scanAll, silent.mpr ⟨rfl, noFault⟩, ih still state later]
    rfl

/-- Around a limit the alarm is raised once at most. -/
theorem once_around (immediate : machine.Immediate)
    (near : machine.eventState = .normal ∨ machine.eventState = alarm atHigh) {readings}
    (around : ∀ reading ∈ readings, limits.Around atHigh reading.1)
    : (limits.scanAll machine readings).1.length ≤ 1 := by
  induction readings generalizing machine with
  | nil => exact Nat.zero_le 1
  | cons reading rest ih =>
    rcases near with normal | alarmed
    · obtain ⟨here, later⟩ := List.forall_mem_cons.mp around
      obtain ⟨still, state, silent⟩ := scan_spec immediate reading
      rw [normal] at state silent
      rcases arrives here .normal with stays | raised
      · simpa [scanAll, silent.mpr ⟨stays, by decide⟩]
          using ih still (.inl (state.trans stays)) later
      · simp only [scanAll, silent_around still (state.trans raised) later, List.append_nil]
        exact Option.length_toList_le
    · simp [silent_around immediate alarmed around]

/-- A machine without delays follows the hysteresis after any values. Once the values oscillate
around a limit, from one of them on or from `NORMAL` or the limit's own state, one transition at
most is left.
-/
theorem follows_hysteresis (limits : Limits α) (machine : EventStateMachine Time)
    (immediate : machine.Immediate) (readings : List (α × Time)) (reading : α × Time)
    : let before := (limits.scanAll machine readings).2
      let after := (limits.scan before reading).2
      limits.Hysteresis before.eventState reading.1 after.eventState
        ∧ ∀ atHigh (later : List (α × Time)),
            (∀ value ∈ reading :: later, limits.Around atHigh value.1) →
              (limits.scanAll after later).1.length ≤ 1
                ∧ (before.eventState = .normal ∨ before.eventState = alarm atHigh →
                    (limits.scanAll before (reading :: later)).1.length ≤ 1) := by
  intro before after
  have still : before.Immediate := immediate_scanAll immediate readings
  obtain ⟨here, state, _⟩ := scan_spec still reading
  refine ⟨?_, fun atHigh later around => ⟨?_, fun near => once_around still near around⟩⟩
  · rw [state]
    exact limits.hysteresis_next reading.1 before.eventState
  · obtain ⟨first, rest⟩ := List.forall_mem_cons.mp around
    refine once_around here ?_ rest
    rw [state]
    exact arrives first before.eventState

/-- Rational limits, after a value above the upper one. -/
theorem follows_hysteresis_room
    : let limits : Limits ℚ := ⟨25, 18, 1 / 2, by norm_num, by norm_num, by norm_num⟩
      let machine : EventStateMachine ℚ := {}
      let before := (limits.scanAll machine [(26, 0)]).2
      let after := (limits.scan before (249 / 10, 1)).2
      limits.Hysteresis before.eventState (249 / 10) after.eventState
        ∧ ∀ atHigh (later : List (ℚ × ℚ)),
            (∀ value ∈ (249 / 10, 1) :: later, limits.Around atHigh value.1) →
              (limits.scanAll after later).1.length ≤ 1
                ∧ (before.eventState = .normal ∨ before.eventState = alarm atHigh →
                    (limits.scanAll before ((249 / 10, 1) :: later)).1.length ≤ 1) := by
  intro limits machine
  exact follows_hysteresis limits machine ⟨rfl, rfl, rfl, rfl⟩ [(26, 0)] (249 / 10, 1)

end Limits

end BacPy
