import BacPy.App.EventStateMachine
import BacPy.Library.Runs

/-! An `EventStateMachine` over time: any cycles one after the other, with changes of its settings
between them.

What a cycle makes of the state is said by `due`; here the invariants are about the past. A pending
state is one that the algorithm found in every cycle of an unbroken stretch.
-/

namespace BacPy

open Library

/-- What one call of `evaluate` is given. -/
structure EventCycle (Time : Type) where
  eventResult : Option EventState
  faultResult : Value
  currentTime : Time

namespace EventCycle

variable {Time : Type}

/-- The target of the algorithm's result. -/
def target (cycle : EventCycle Time) : EventState := cycle.eventResult.getD .normal

def reliable (cycle : EventCycle Time) : Bool := cycle.faultResult.pyEq (.int 0)

/-- The algorithm has found the state, and there was no fault. -/
def finds (state : EventState) (cycle : EventCycle Time) : Bool :=
  cycle.reliable && decide (cycle.target = state)

end EventCycle

inductive MachineEvent (Time : Type) where
  | evaluate (cycle : EventCycle Time)
  | configure (eventEnable ackedTransitions : Vector Bool 3) (timeDelay : Time)
      (timeDelayNormal : Option Time)

/-- The algorithm's result is the state `FAULT`. -/
def MachineEvent.findsFault {Time : Type} : MachineEvent Time → Bool
  | .evaluate cycle => cycle.eventResult = some .fault
  | .configure .. => false

/-- A machine with its past: the calls of `evaluate` and the transitions they returned, the latest
first.
-/
structure MachineRun (Time : Type) [Zero Time] where
  machine : EventStateMachine Time
  cycles : List (EventCycle Time) := []
  transitions : List (EventTransition Time) := []

namespace MachineRun

variable {Time : Type} [Zero Time] [Sub Time] [LE Time] [DecidableLE Time]

/-- What `evaluate` makes of the machine. -/
def result (past : MachineRun Time) (cycle : EventCycle Time)
    : Option (EventTransition Time) × EventStateMachine Time :=
  past.machine.evaluate cycle.eventResult cycle.faultResult cycle.currentTime

def step (past : MachineRun Time) : MachineEvent Time → Option (MachineRun Time)
  | .evaluate cycle =>
    some {
      machine := (past.result cycle).2
      cycles := cycle :: past.cycles
      transitions := (past.result cycle).1.toList ++ past.transitions
    }
  | .configure eventEnable ackedTransitions timeDelay timeDelayNormal =>
    some { past with machine := { past.machine with
      eventEnable, ackedTransitions, timeDelay, timeDelayNormal } }

/-- The state that is due in a cycle. -/
def due (past : MachineRun Time) (cycle : EventCycle Time) : Option EventState :=
  past.machine.due cycle.eventResult cycle.faultResult cycle.currentTime

variable {past next : MachineRun Time} {cycle : EventCycle Time} {event : MachineEvent Time}
  {transition : EventTransition Time} {state : EventState}

theorem moved_result
    : past.machine.Moved (past.due cycle) cycle.currentTime (past.result cycle) :=
  EventStateMachine.moved_evaluate

theorem reliable_of_due (isDue : past.due cycle = some state) (alarm : state ≠ .fault)
    : cycle.reliable = true ∧ cycle.target = state
      ∧ past.machine.outlasted state cycle.currentTime = true := by
  unfold due EventStateMachine.due at isDue
  split at isDue
  · next reliable =>
      obtain ⟨⟨_, _, isOver⟩, rfl⟩ := Option.ite_none_right_eq_some.mp isDue |>.imp_right Option.some.inj
      exact ⟨reliable, rfl, isOver⟩
  · obtain ⟨_, rfl⟩ := Option.ite_none_right_eq_some.mp isDue |>.imp_right Option.some.inj
    exact absurd rfl alarm

-- Well-formed transitions

/-- The transitions of a run, the latest first, lead one from another to the state. -/
def Chained : EventState → List (EventTransition Time) → Prop
  | _, [] => True
  | state, latest :: earlier => latest.toState = state ∧ Chained latest.fromState earlier

/-- What a transition says about the machine before and after the call that returned it. -/
structure WellFormed (before after : EventStateMachine Time) (transition : EventTransition Time)
    : Prop where
  moves : transition.fromState ≠ transition.toState
  fromState : transition.fromState = before.eventState
  toState : transition.toState = after.eventState
  enabled : before.eventEnable.get transition.toState.transitionIndex = true
  unacknowledged : after.ackedTransitions
    = before.ackedTransitions.set transition.toState.transitionIndex false

/-- A call returns a transition that is well formed, or changes nothing of what is reported. -/
def Reports (past : MachineRun Time) (event : MachineEvent Time) : Prop :=
  ∀ cycle, event = .evaluate cycle →
    let result := past.result cycle
    (∀ transition, result.1 = some transition → WellFormed past.machine result.2 transition)
      ∧ (result.1 = none → result.2.eventState = past.machine.eventState
          ∧ result.2.ackedTransitions = past.machine.ackedTransitions)

/-- A state is due only where its bit is set, and only another one where no algorithm finds
`FAULT`.
-/
theorem leaves_of_due (isDue : past.due cycle = some state)
    (noFault : cycle.eventResult ≠ some .fault)
    : past.machine.eventState ≠ state ∧ past.machine.eventEnable.get state.transitionIndex = true := by
  unfold due EventStateMachine.due at isDue
  split at isDue
  · obtain ⟨⟨leaves, enabled, _⟩, rfl⟩ :=
      Option.ite_none_right_eq_some.mp isDue |>.imp_right Option.some.inj
    have other : cycle.eventResult.getD .normal ≠ .fault := by
      cases found : cycle.eventResult with
      | none => simp
      | some result => simpa [found] using noFault
    refine ⟨?_, ?_⟩
    · rcases leaves with differs | faulty
      · exact differs.symm
      · rw [faulty]
        exact other.symm
    · unfold EventStateMachine.enables at enabled
      cases target : cycle.eventResult.getD .normal <;> simp_all [EventState.transitionIndex, Vector.get]
  · obtain ⟨⟨leaves, enabled⟩, rfl⟩ :=
      Option.ite_none_right_eq_some.mp isDue |>.imp_right Option.some.inj
    exact ⟨leaves, enabled⟩

theorem wellFormed (returned : (past.result cycle).1 = some transition)
    (noFault : cycle.eventResult ≠ some .fault)
    : WellFormed past.machine (past.result cycle).2 transition := by
  have moved := @moved_result _ _ _ _ _ past cycle
  rw [moved.transition] at returned
  obtain ⟨state, isDue, rfl⟩ := Option.map_eq_some_iff.mp returned
  obtain ⟨leaves, enabled⟩ := leaves_of_due isDue noFault
  rw [isDue] at moved
  exact {
    moves := leaves
    fromState := rfl
    toState := moved.eventState.symm
    enabled
    unacknowledged := moved.ackedTransitions
  }

theorem reports (noFault : event.findsFault = false) : past.Reports event := by
  rintro cycle rfl
  refine ⟨fun transition returned => wellFormed returned (of_decide_eq_false noFault), ?_⟩
  intro silent
  have moved := @moved_result _ _ _ _ _ past cycle
  have notDue : past.due cycle = none := by simpa [moved.transition] using silent
  rw [notDue] at moved
  exact ⟨moved.eventState, moved.ackedTransitions⟩

theorem chained_step (chained : Chained past.machine.eventState past.transitions)
    (stepped : past.step event = some next)
    : Chained next.machine.eventState next.transitions := by
  cases event with
  | configure =>
    cases stepped
    exact chained
  | evaluate cycle =>
    cases stepped
    have moved := @moved_result _ _ _ _ _ past cycle
    rw [moved.transition, moved.eventState]
    cases past.due cycle with
    | none => exact chained
    | some state => exact ⟨rfl, chained⟩

/-- Every call in every run of calls whose algorithms never find `FAULT` reports well, and the
transitions chain. A self-transition would need a `FAULT` that is found in `FAULT`.
-/
theorem transitions_wellFormed (machine : EventStateMachine Time) (events : List (MachineEvent Time))
    (noFault : ∀ event ∈ events, event.findsFault = false)
    : Meets step Reports { machine } events
      ∧ Always step (fun past => Chained past.machine.eventState past.transitions)
          { machine } events := by
  constructor
  · have allowed : Meets step (fun _ event => event.findsFault = false) { machine } events :=
      meets_of_forall noFault
    exact allowed.mono fun _ _ => reports
  · exact always_of_keeps chained_step id trivial

/-- A reading that is too high for two cycles and in order for the third. -/
theorem transitions_wellFormed_alarm
    : let high : EventCycle Int := {
        eventResult := some .highLimit
        faultResult := .int 0
        currentTime := 0
      }
      let events : List (MachineEvent Int) :=
        [.evaluate high, .evaluate high, .evaluate { high with eventResult := none }]
      Meets step Reports { machine := {} } events
        ∧ Always step (fun past => Chained past.machine.eventState past.transitions)
            { machine := {} } events :=
  transitions_wellFormed _ _ (by decide)

-- Delays

/-- The latest calls in a row, the last of all first, that found the state without a fault. -/
def stretch (state : EventState) (cycles : List (EventCycle Time)) : List (EventCycle Time) :=
  cycles.takeWhile (EventCycle.finds state)

/-- The delay that is asked for a state. -/
def delay (past : MachineRun Time) (state : EventState) : Time :=
  if state = .normal then past.machine.effectiveTimeDelayNormal else past.machine.timeDelay

/-- A transition out of the algorithm's result ends an unbroken stretch of calls that goes back
over the whole of its delay.
-/
def Sound (past : MachineRun Time) : MachineEvent Time → Prop
  | .evaluate cycle => ∀ transition, (past.result cycle).1 = some transition →
      transition.toState ≠ .fault →
        ∃ first ∈ stretch transition.toState (cycle :: past.cycles),
          first.currentTime ≤ transition.timestamp - past.delay transition.toState
  | .configure .. => True

/-- A fault finds nothing pending, or leads to `FAULT` at once. -/
def Interrupts (past : MachineRun Time) : MachineEvent Time → Prop
  | .evaluate cycle => cycle.reliable = false →
      past.machine.pending = none
        ∨ past.machine.eventState ≠ .fault ∧ past.machine.eventEnable.get EventState.fault.transitionIndex = true
  | .configure .. => True

/-- What is pending was found ever since. -/
def Remembers (past : MachineRun Time) : Prop :=
  ∀ state since, past.machine.pending = some (state, since) →
    ∃ first ∈ stretch state past.cycles, first.currentTime = since

/-- What a call without a fault leaves pending: nothing, or the state the algorithm finds, since
now or since before.
-/
def Pends (machine : EventStateMachine Time) (target : EventState) (currentTime : Time)
    (result : Option (EventTransition Time) × EventStateMachine Time)
    : Prop :=
  ∀ state since, result.2.pending = some (state, since) →
    state = target ∧ (since = currentTime ∨ machine.pending = some (state, since))

section Pending

variable {machine : EventStateMachine Time} {target : EventState} {currentTime : Time}

omit [Sub Time] [LE Time] [DecidableLE Time] in
theorem pends_none {result} (cleared : result.2.pending = none)
    : Pends machine target currentTime result := by
  intro state since waits
  cases cleared.symm.trans waits

theorem pends_applyDelay {normal}
    : Pends machine target currentTime (machine.applyDelay target currentTime normal) := by
  have starts (delay : Time)
      : Pends machine target currentTime
          (EventStateMachine.applyDelay.startTiming machine target currentTime delay) := by
    unfold EventStateMachine.applyDelay.startTiming
    dsimp only
    split
    · exact pends_none rfl
    · intro state since waits
      cases waits
      exact ⟨rfl, .inl rfl⟩
  unfold EventStateMachine.applyDelay
  generalize (if normal then machine.effectiveTimeDelayNormal else machine.timeDelay) = delay
  dsimp only
  split
  · next waiting since pending =>
      split
      · next same =>
          split
          · exact pends_none rfl
          · intro state other waits
            cases pending.symm.trans waits
            exact ⟨same, .inr pending⟩
      · exact starts _
  · exact starts _

/-- Every branch without a fault starts or goes on with the delay, or clears what is pending. Only
in `FAULT` may a disabled state stay pending.
-/
theorem pends_result (reliable : cycle.reliable = true)
    : Pends past.machine cycle.target cycle.currentTime (past.result cycle) := by
  have clears : Pends past.machine cycle.target cycle.currentTime
      (none, past.machine.clearPending) := pends_none rfl
  unfold result EventStateMachine.evaluate
  rw [show cycle.faultResult.pyEq (.int 0) = true from reliable]
  simp only [Bool.not_true, Bool.false_eq_true, if_false]
  have delays {normal : Bool} := @pends_applyDelay _ _ _ _ _ past.machine cycle.target
    cycle.currentTime normal
  split
  · split
    · exact delays
    · split
      · exact delays
      · split
        · exact clears
        · next same =>
            intro state since waits
            have pending : past.machine.pending = some (state, since) := waits
            rw [pending] at same
            exact ⟨Option.some.inj (not_not.mp same), .inr pending⟩
  · split
    · exact delays
    · exact clears
  · split
    · next normal =>
        split
        · rw [← normal]
          exact delays
        · exact clears
    · split
      · exact delays
      · exact clears

/-- After a fault nothing is pending, where it found nothing or led to `FAULT`. -/
theorem pending_of_fault (faulty : cycle.reliable = false)
    (interrupts : past.Interrupts (.evaluate cycle))
    : (past.result cycle).2.pending = none := by
  unfold result EventStateMachine.evaluate
  rw [show cycle.faultResult.pyEq (.int 0) = false from faulty]
  simp only [Bool.not_false, if_true]
  split
  · rfl
  · next stays => exact (interrupts faulty).resolve_right stays

end Pending

omit [Zero Time] [Sub Time] [LE Time] [DecidableLE Time] in
theorem stretch_cons (reliable : cycle.reliable = true) (cycles)
    : stretch cycle.target (cycle :: cycles) = cycle :: stretch cycle.target cycles :=
  List.takeWhile_cons_of_pos (by simp [EventCycle.finds, reliable])

/-- A delay is over for a state that is pending, or that needs none. -/
theorem since_of_outlasted {time} (isOver : past.machine.outlasted state time = true)
    : past.delay state ≤ 0
      ∨ ∃ since, past.machine.pending = some (state, since) ∧ past.delay state ≤ time - since := by
  unfold EventStateMachine.outlasted at isOver
  dsimp only at isOver
  split at isOver
  · next waiting since pending =>
      split at isOver
      · next same => exact .inr ⟨since, same ▸ pending, of_decide_eq_true isOver⟩
      · exact .inl (of_decide_eq_true isOver)
  · exact .inl (of_decide_eq_true isOver)

theorem remembers_step (remembers : past.Remembers) (interrupts : past.Interrupts event)
    (stepped : past.step event = some next)
    : next.Remembers := by
  cases event with
  | configure =>
    cases stepped
    exact remembers
  | evaluate cycle =>
    cases stepped
    intro state since pending
    cases reliable : cycle.reliable with
    | false => cases (pending_of_fault reliable interrupts).symm.trans pending
    | true =>
      obtain ⟨rfl, waits⟩ := pends_result reliable state since pending
      rw [stretch_cons reliable]
      rcases waits with now | before
      · exact ⟨cycle, List.mem_cons_self, now.symm⟩
      · obtain ⟨first, member, time⟩ := remembers _ _ before
        exact ⟨first, List.mem_cons_of_mem _ member, time⟩

end MachineRun

namespace MachineRun

variable {Time : Type} [AddCommGroup Time] [LinearOrder Time] [IsOrderedAddMonoid Time]
  {past : MachineRun Time} {event : MachineEvent Time}

/-- What fires was pending for the whole of its delay, or needs none. -/
theorem sound_of_remembers (remembers : past.Remembers) : past.Sound event := by
  cases event with
  | configure => trivial
  | evaluate cycle =>
    intro transition returned alarm
    rw [moved_result.transition] at returned
    obtain ⟨state, isDue, rfl⟩ := Option.map_eq_some_iff.mp returned
    obtain ⟨reliable, rfl, isOver⟩ := reliable_of_due isDue alarm
    rw [stretch_cons reliable]
    rcases since_of_outlasted isOver with none | ⟨since, pending, long⟩
    · exact ⟨cycle, List.mem_cons_self, le_sub_self_iff _ |>.mpr none⟩
    · obtain ⟨first, member, rfl⟩ := remembers _ _ pending
      exact ⟨first, List.mem_cons_of_mem _ member, le_sub_comm.mp long⟩

/-- In every run whose faults all find nothing pending or lead to `FAULT`, a transition fires only
after its whole delay. By induction on the run, with `Remembers` as the invariant.
-/
theorem sound_run (machine : EventStateMachine Time) (fresh : machine.pending = none)
    (events : List (MachineEvent Time)) (interrupts : Meets step Interrupts { machine } events)
    : Meets step Sound { machine } events := by
  have start : Remembers ({ machine } : MachineRun Time) := by
    intro state since pending
    cases fresh.symm.trans pending
  exact interrupts.of_invariant remembers_step
    (fun remembers _ => sound_of_remembers remembers) start

/-- The same reading for the whole of its delay. -/
def tooHigh (currentTime : Int) : EventCycle Int where
  eventResult := some .highLimit
  faultResult := .int 0
  currentTime

theorem sound_run_alarm
    : let events := [.evaluate (tooHigh 0), .evaluate (tooHigh 10)]
      Meets step Sound ({ machine := { timeDelay := 10 } } : MachineRun Int) events := by
  refine sound_run _ rfl _ fun _ _ => ⟨?_, fun _ _ => ⟨?_, trivial⟩⟩
  · intro faulty
    exact absurd faulty (by decide)
  · intro faulty
    exact absurd faulty (by decide)

/-- A fault in the middle of the delay goes by unseen where to-fault is disabled: the alarm is
reported ten seconds after the first reading, and five after the fault.
-/
theorem fault_forgotten
    : let machine : EventStateMachine Int := {
        eventEnable := #v[true, false, true]
        timeDelay := 10
      }
      ¬ Meets step Sound { machine } [
        .evaluate (tooHigh 0),
        .evaluate { tooHigh 5 with faultResult := .int 1 },
        .evaluate (tooHigh 10)
      ] := by
  intro machine meets
  obtain ⟨_, meets⟩ := meets _ rfl
  obtain ⟨_, meets⟩ := meets _ rfl
  obtain ⟨sound, _⟩ := meets _ rfl
  have reported := sound ⟨.normal, .highLimit, 10⟩ (by decide) (by decide)
  revert reported
  decide

end MachineRun

end BacPy
