import BacPy.Objects.Base

/-! `EventStateMachine` (Clause 13.2): the state of one source of events, with the delays that a
condition must outlast. What a cycle makes of it is said once, by `due`.
-/

namespace BacPy

-- States and transitions

inductive EventState where
  | normal | fault | offnormal | highLimit | lowLimit | lifeSafetyAlarm
  deriving DecidableEq

namespace EventState

/-- All members, in the order of their definition. -/
def members : List EventState :=
  [.normal, .fault, .offnormal, .highLimit, .lowLimit, .lifeSafetyAlarm]

/-- The number of each `EventState`. -/
def number : EventState → Nat
  | .normal => 0
  | .fault => 1
  | .offnormal => 2
  | .highLimit => 3
  | .lowLimit => 4
  | .lifeSafetyAlarm => 5

def toValue (state : EventState) : Value := .enum eventStateEnum state.number

/-- `isinstance(value, EventState)`, with the member. -/
def ofValue? : Value → Option EventState
  | .enum type number =>
    if type = eventStateEnum then members.find? fun state => state.number = number else none
  | _ => none

theorem eq_toValue {value state} (isState : ofValue? value = some state)
    : value = state.toValue := by
  unfold ofValue? at isState
  split at isState
  · next type number =>
      obtain ⟨same, isState⟩ := Option.ite_none_right_eq_some.mp isState
      have found := List.find?_some isState
      rw [decide_eq_true_eq] at found
      rw [toValue, same, found]
  · cases isState

/-- `_transition_index`: which of the three kinds a transition to the state is of, to-offnormal,
to-fault or to-normal.
-/
def transitionIndex : EventState → Fin 3
  | .fault => 1
  | .normal => 2
  | _ => 0

end EventState

structure EventTransition (Time : Type := Float) where
  fromState : EventState
  toState : EventState
  timestamp : Time
  deriving DecidableEq

/-- `EventStateMachine`. The pending state and the time since when it is pending are there
together. Times are what the clock gives, numbers that may be subtracted and compared.
-/
structure EventStateMachine (Time : Type := Float) [Zero Time] where
  eventState : EventState := .normal
  eventEnable : Vector Bool 3 := #v[true, true, true]
  ackedTransitions : Vector Bool 3 := #v[true, true, true]
  timeDelay : Time := 0
  timeDelayNormal : Option Time := none
  pending : Option (EventState × Time) := none

namespace EventStateMachine

variable {Time : Type} [Zero Time] [Sub Time] [LE Time] [DecidableLE Time]

def effectiveTimeDelayNormal (machine : EventStateMachine Time) : Time :=
  machine.timeDelayNormal.getD machine.timeDelay

/-- `self._pending_state = None`, and the time with it. -/
def clearPending (machine : EventStateMachine Time) : EventStateMachine Time := { machine with pending := none }

def transition (machine : EventStateMachine Time) (target : EventState) (currentTime : Time)
    : Option (EventTransition Time) × EventStateMachine Time :=
  (some { fromState := machine.eventState, toState := target, timestamp := currentTime },
    { machine with
      eventState := target
      ackedTransitions := machine.ackedTransitions.set target.transitionIndex false
      pending := none })

def applyDelay (machine : EventStateMachine Time) (target : EventState) (currentTime : Time)
    (normal : Bool)
    : Option (EventTransition Time) × EventStateMachine Time :=
  let delay := if normal then machine.effectiveTimeDelayNormal else machine.timeDelay
  match machine.pending with
  | some (state, since) =>
    if state = target then
      if delay ≤ currentTime - since then machine.transition target currentTime
      else (none, machine)
    else startTiming delay
  | none => startTiming delay
where
  /-- A new condition: the delay starts, and may be over at once. -/
  startTiming (delay : Time) : Option (EventTransition Time) × EventStateMachine Time :=
    let machine := { machine with pending := some (target, currentTime) }
    if delay ≤ 0 then machine.transition target currentTime else (none, machine)

/-- `evaluate`. Anything but `NO_FAULT_DETECTED` is a fault. -/
def evaluate (machine : EventStateMachine Time) (eventResult : Option EventState) (faultResult : Value)
    (currentTime : Time)
    : Option (EventTransition Time) × EventStateMachine Time :=
  let hasFault := !faultResult.pyEq (.int 0)
  if hasFault then
    if machine.eventState ≠ .fault ∧ machine.eventEnable[1] then
      machine.transition .fault currentTime
    else (none, machine)
  else
    match machine.eventState with
    | .fault =>
      let target := eventResult.getD .normal
      if target = .normal ∧ machine.eventEnable[2] then machine.applyDelay target currentTime true
      else if target ≠ .normal ∧ machine.eventEnable[0] then
        machine.applyDelay target currentTime false
      else if machine.pending.map Prod.fst ≠ some target then
        (none, machine.clearPending)
      else (none, machine)
    | .normal =>
      let target := eventResult.getD .normal
      if target ≠ .normal ∧ machine.eventEnable[0] then
        machine.applyDelay target currentTime false
      else (none, machine.clearPending)
    | alarm =>
      let target := eventResult.getD .normal
      if target = .normal then
        if machine.eventEnable[2] then machine.applyDelay .normal currentTime true
        else (none, machine.clearPending)
      else if target ≠ alarm ∧ machine.eventEnable[0] then
        machine.applyDelay target currentTime false
      else (none, machine.clearPending)

-- What a cycle does

/-- The condition has been pending for the whole of its delay. -/
def outlasted (machine : EventStateMachine Time) (target : EventState) (currentTime : Time) : Bool :=
  let delay := if target = .normal then machine.effectiveTimeDelayNormal else machine.timeDelay
  match machine.pending with
  | some (state, since) => if state = target then delay ≤ currentTime - since else delay ≤ 0
  | none => delay ≤ 0

/-- The bit that is asked for a state an algorithm finds. -/
def enables (machine : EventStateMachine Time) (target : EventState) : Bool :=
  if target = .normal then machine.eventEnable[2] else machine.eventEnable[0]

/-- The state a machine is to go to now, if it is to leave the one it is in. A fault comes first
and at once; what the algorithm finds is delayed.
-/
def due (machine : EventStateMachine Time) (eventResult : Option EventState) (faultResult : Value)
    (currentTime : Time)
    : Option EventState :=
  if faultResult.pyEq (.int 0) then
    let target := eventResult.getD .normal
    if (target ≠ machine.eventState ∨ machine.eventState = .fault) ∧ machine.enables target
        ∧ machine.outlasted target currentTime then
      some target
    else none
  else if machine.eventState ≠ .fault ∧ machine.eventEnable[1] then some .fault
  else none

variable {machine : EventStateMachine Time} {eventResult : Option EventState} {faultResult : Value}
  {currentTime : Time} {target : EventState}

/-- What a cycle leaves of a machine: its settings, the state that was due, and a cleared bit for
that.
-/
structure Moved (machine : EventStateMachine Time) (due : Option EventState) (currentTime : Time)
    (result : Option (EventTransition Time) × EventStateMachine Time)
    : Prop where
  transition : result.1 = due.map fun target =>
    { fromState := machine.eventState, toState := target, timestamp := currentTime }
  eventState : result.2.eventState = due.getD machine.eventState
  eventEnable : result.2.eventEnable = machine.eventEnable
  ackedTransitions : result.2.ackedTransitions = due.elim machine.ackedTransitions fun target =>
    machine.ackedTransitions.set target.transitionIndex false

omit [Sub Time] [LE Time] [DecidableLE Time] in
theorem moved_transition
    : Moved machine (some target) currentTime (machine.transition target currentTime) :=
  ⟨rfl, rfl, rfl, rfl⟩

omit [Sub Time] [LE Time] [DecidableLE Time] in
theorem moved_clearPending : Moved machine none currentTime (none, machine.clearPending) :=
  ⟨rfl, rfl, rfl, rfl⟩

/-- A delayed condition leads to its state once it has outlasted the delay. -/
theorem moved_applyDelay {normal} (which : normal = decide (target = .normal))
    : Moved machine (if machine.outlasted target currentTime then some target else none) currentTime
        (machine.applyDelay target currentTime normal) := by
  have starts (delay : Time)
      : Moved machine (if delay ≤ 0 then some target else none) currentTime
          (applyDelay.startTiming machine target currentTime delay) := by
    unfold applyDelay.startTiming
    dsimp only
    split
    · exact ⟨rfl, rfl, rfl, rfl⟩
    · exact ⟨rfl, rfl, rfl, rfl⟩
  subst which
  unfold applyDelay outlasted
  simp only [decide_eq_true_eq]
  generalize (if target = EventState.normal then machine.effectiveTimeDelayNormal
    else machine.timeDelay) = delay
  cases machine.pending with
  | none => simpa only [decide_eq_true_eq] using starts _
  | some waiting =>
    obtain ⟨state, since⟩ := waiting
    dsimp only
    by_cases same : state = target
    · simp only [if_pos same, decide_eq_true_eq]
      split
      · exact moved_transition
      · exact ⟨rfl, rfl, rfl, rfl⟩
    · simpa only [if_neg same, decide_eq_true_eq] using starts _

/-- A condition that is enabled starts its delay or ends it; otherwise nothing moves. -/
theorem moved_delayed {normal rest} (which : normal = decide (target = .normal))
    (stays : Moved machine none currentTime rest)
    : Moved machine
        (if machine.enables target ∧ machine.outlasted target currentTime then some target else none)
        currentTime
        (if machine.enables target then machine.applyDelay target currentTime normal else rest) := by
  cases machine.enables target with
  | true => simpa only [true_and, if_true] using moved_applyDelay which
  | false => simpa only [Bool.false_eq_true, false_and, if_false] using stays

/-- Without a fault, in a state of alarm: one case for each way the algorithm's result can differ
from it.
-/
theorem moved_alarm (alarm : machine.eventState ≠ .normal)
    : Moved machine
        (if target ≠ machine.eventState ∧ machine.enables target
            ∧ machine.outlasted target currentTime then some target else none)
        currentTime
        (if target = .normal then
          if machine.eventEnable[2] then machine.applyDelay .normal currentTime true
          else (none, machine.clearPending)
        else if target ≠ machine.eventState ∧ machine.eventEnable[0] then
          machine.applyDelay target currentTime false
        else (none, machine.clearPending)) := by
  have stays : Moved machine none currentTime (none, machine.clearPending) := moved_clearPending
  by_cases normal : target = .normal
  · subst normal
    have enables : machine.enables .normal = machine.eventEnable[2] := rfl
    have delayed := @moved_delayed Time _ _ _ _ machine currentTime .normal true _ rfl stays
    rw [if_pos rfl, ← enables]
    simpa only [ne_eq, alarm.symm, not_false_eq_true, true_and] using delayed
  · have enables : machine.enables target = machine.eventEnable[0] := if_neg normal
    rw [if_neg normal, ← enables]
    by_cases same : target = machine.eventState
    · simpa only [ne_eq, same, not_true_eq_false, false_and, if_false] using stays
    · have delayed := @moved_delayed Time _ _ _ _ machine currentTime target false _ (by simp [normal]) stays
      simpa only [ne_eq, same, not_false_eq_true, true_and] using delayed

/-- A cycle takes the machine to the state that is due, one case for each state it may be in. -/
theorem moved_evaluate
    : Moved machine (machine.due eventResult faultResult currentTime) currentTime
        (machine.evaluate eventResult faultResult currentTime) := by
  unfold evaluate due
  cases faultResult.pyEq (.int 0) with
  | false =>
    simp only [Bool.not_false, if_true, Bool.false_eq_true, if_false]
    split
    · exact moved_transition
    · exact ⟨rfl, rfl, rfl, rfl⟩
  | true =>
    simp only [Bool.not_true, Bool.false_eq_true, if_false, if_true]
    generalize eventResult.getD .normal = target
    have alarm := @moved_alarm Time _ _ _ _ machine currentTime target
    cases state : machine.eventState with
    | fault =>
      have stays : Moved machine none currentTime
          (if machine.pending.map Prod.fst ≠ some target then
            (none, machine.clearPending) else (none, machine)) := by
        split
        · exact moved_clearPending
        · exact ⟨rfl, rfl, rfl, rfl⟩
      by_cases normal : target = .normal
      · subst normal
        have enables : machine.enables .normal = machine.eventEnable[2] := rfl
        simpa [← enables] using @moved_delayed Time _ _ _ _ machine currentTime .normal true _ rfl stays
      · have enables : machine.enables target = machine.eventEnable[0] := if_neg normal
        have delayed := @moved_delayed Time _ _ _ _ machine currentTime target false _ (by simp [normal]) stays
        simpa [normal, ← enables] using delayed
    | normal =>
      have stays : Moved machine none currentTime (none, machine.clearPending) :=
        moved_clearPending
      by_cases normal : target = .normal
      · simpa [normal] using stays
      · have enables : machine.enables target = machine.eventEnable[0] := if_neg normal
        have delayed := @moved_delayed Time _ _ _ _ machine currentTime target false _ (by simp [normal]) stays
        simpa [normal, ← enables] using delayed
    | offnormal | highLimit | lowLimit | lifeSafetyAlarm =>
      rw [state] at alarm
      simpa using alarm (by simp)

theorem eventState_evaluate
    : (machine.evaluate eventResult faultResult currentTime).2.eventState
      = ((machine.evaluate eventResult faultResult currentTime).1.map
          EventTransition.toState).getD machine.eventState := by
  have moved := @moved_evaluate Time _ _ _ _ machine eventResult faultResult currentTime
  rw [moved.eventState, moved.transition, Option.map_map]
  cases machine.due eventResult faultResult currentTime <;> rfl

end EventStateMachine

end BacPy

/-! The event algorithms of Clause 13.3 that objects run on their own properties. -/

namespace BacPy

/-- The members of `EventType` that the classes of objects name. -/
inductive EventType where
  | changeOfState | floatingLimit | outOfRange | changeOfLifeSafety | unsignedRange | accessEvent
  | changeOfTimer

/-- `INTRINSIC_EVENT_ALGORITHM` of the class that is registered for a type. -/
def intrinsicEventAlgorithm (objectType : ObjectType) : Option EventType :=
  if objectType ∈ [.analogInput, .analogOutput, .analogValue, .pulseConverter, .lightingOutput] then
    some .outOfRange
  else if objectType ∈ [.binaryInput, .binaryOutput, .binaryValue, .multiStateInput,
      .multiStateOutput, .multiStateValue, .binaryLightingOutput] then
    some .changeOfState
  else if objectType = .loop then some .floatingLimit
  else if objectType ∈ [.lifeSafetyPoint, .lifeSafetyZone] then some .changeOfLifeSafety
  else if objectType = .accumulator then some .unsignedRange
  else if objectType = .accessDoor then some .accessEvent
  else if objectType = .timer then some .changeOfTimer
  else none

-- The evaluators

section Evaluators

/-- `value > limit` -/
def above (value limit : Value) : Except Raised Bool := value.comparesTo limit [.gt]

/-- `value < limit` -/
def below (value limit : Value) : Except Raised Bool := value.comparesTo limit [.lt]

def evaluateOutOfRange (value : Float) (highLimit lowLimit : Value) (deadband : Float)
    (currentState : EventState)
    : Except Raised (Option EventState) := do
  if ← above (.float value) highLimit then .ok (some .highLimit)
  else if ← below (.float value) lowLimit then .ok (some .lowLimit)
  else
    match currentState with
    | .highLimit =>
      let limit ← highLimit.operand
      .ok (if limit - deadband ≤ value then some .highLimit else none)
    | .lowLimit =>
      let limit ← lowLimit.operand
      .ok (if value ≤ limit + deadband then some .lowLimit else none)
    | _ => .ok none

def evaluateUnsignedRange (value highLimit lowLimit : Int) : Option EventState :=
  if highLimit < value then some .highLimit
  else if value < lowLimit then some .lowLimit
  else none

def evaluateFloatingLimit (value setpoint highDiffLimit lowDiffLimit deadband : Float)
    (currentState : EventState)
    : Except Raised (Option EventState) :=
  evaluateOutOfRange value (.float (setpoint + highDiffLimit)) (.float (setpoint - lowDiffLimit))
    deadband currentState

def evaluateChangeOfState (value : Value) (alarmValues : List Value) : Option EventState :=
  if value.isIn alarmValues then some .offnormal else none

def evaluateChangeOfLifeSafety (trackingValue : Int) (alarmValues lifeSafetyAlarmValues : List Int)
    : Option EventState :=
  if trackingValue ∈ lifeSafetyAlarmValues then some .lifeSafetyAlarm
  else if trackingValue ∈ alarmValues then some .offnormal
  else none

end Evaluators

-- Intrinsic reporting

section Intrinsic

variable [EngineValues]

def limitEnableBits (limitEnable : Value) : Bool × Bool :=
  match limitEnable with
  | .list (high :: low :: _) => (high.truthy, low.truthy)
  | _ => (true, true)

/-- The algorithm of analog objects, with the limits that are enabled. -/
def runOutOfRange (presentValue : Value) (obj : BACnetObject) (currentState : EventState)
    : Except Raised (Option EventState) :=
  let highLimit := obj.get .highLimit
  let lowLimit := obj.get .lowLimit
  let deadband := (obj.stored .deadband).getD (.float 0)
  if highLimit = .none ∨ lowLimit = .none then .ok none
  else do
    let bits := if obj.get .limitEnable = .none then (true, true)
      else limitEnableBits (obj.get .limitEnable)
    let effectiveHigh := if bits.1 then highLimit else .float (1 / 0)
    let effectiveLow := if bits.2 then lowLimit else .float (-1 / 0)
    let value ← presentValue.toFloat
    let deadband ← deadband.toFloat
    evaluateOutOfRange value effectiveHigh effectiveLow deadband currentState

/-- The algorithm of binary and multi-state objects. -/
def runChangeOfState (presentValue : Value) (obj : BACnetObject)
    : Except Raised (Option EventState) :=
  if obj.get .alarmValues = .none then
    if obj.get .alarmValue = .none then .ok none
    else .ok (evaluateChangeOfState presentValue [obj.get .alarmValue])
  else do
    let alarmValues ← (obj.get .alarmValues).iterate
    .ok (evaluateChangeOfState presentValue alarmValues)

/-- The algorithm of an Accumulator. -/
def runUnsignedRange (presentValue : Value) (obj : BACnetObject)
    : Except Raised (Option EventState) :=
  if obj.get .highLimit = .none ∨ obj.get .lowLimit = .none then .ok none
  else do
    let value ← presentValue.toInt
    let highLimit ← (obj.get .highLimit).toInt
    let lowLimit ← (obj.get .lowLimit).toInt
    .ok (evaluateUnsignedRange value highLimit lowLimit)

/-- The algorithm of a Loop, which has the same limit above and below its setpoint. -/
def runFloatingLimit (presentValue : Value) (obj : BACnetObject) (currentState : EventState)
    : Except Raised (Option EventState) :=
  if obj.get .setpoint = .none ∨ obj.get .errorLimit = .none then .ok none
  else do
    let value ← presentValue.toFloat
    let setpoint ← (obj.get .setpoint).toFloat
    let errorLimit ← (obj.get .errorLimit).toFloat
    let deadband ← ((obj.stored .deadband).getD (.float 0)).toFloat
    evaluateFloatingLimit value setpoint errorLimit errorLimit deadband currentState

def runChangeOfLifeSafety (presentValue : Value) (obj : BACnetObject)
    : Except Raised (Option EventState) := do
  let tracking := obj.get .trackingValue
  let tracking := if tracking = .none then presentValue else tracking
  let alarmValues ← ((obj.stored .alarmValues).getD (.list [])).iterate
  let alarmValues ← alarmValues.mapM Value.toInt
  let lifeSafety ← ((obj.stored .lifeSafetyAlarmValues).getD (.list [])).iterate
  let lifeSafety ← lifeSafety.mapM Value.toInt
  let _ ← ((obj.stored .mode).getD (.int 0)).toInt
  let tracking ← tracking.toInt
  .ok (evaluateChangeOfLifeSafety tracking alarmValues lifeSafety)

/-- `_run_intrinsic_algorithm`. For some of the algorithms that classes name it has no branch. -/
def runIntrinsicAlgorithm (eventType : EventType) (presentValue : Value) (obj : BACnetObject)
    (currentState : EventState)
    : Except Raised (Option EventState) :=
  match eventType with
  | .outOfRange => runOutOfRange presentValue obj currentState
  | .changeOfState => runChangeOfState presentValue obj
  | .unsignedRange => runUnsignedRange presentValue obj
  | .floatingLimit => runFloatingLimit presentValue obj currentState
  | .changeOfLifeSafety => runChangeOfLifeSafety presentValue obj
  | .accessEvent | .changeOfTimer => .ok none

end Intrinsic

end BacPy
