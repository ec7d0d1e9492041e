import BacPy.App.EventStateMachine
import BacPy.Objects.WellFormed

/-! `EventEngine` (Clause 13): a cycle evaluates every Event Enrollment, then every object that
reports events itself, each with the state machine that is kept for its identifier.

A cycle that raises ends the engine: its loop handles cancellation only.
-/

namespace BacPy

open Library

/-- What an enrollment's Event_Parameters make of its event type, the monitored value and the
state, if they are a Python dictionary. A client can write no such value, and the results about
the engine hold whatever these functions compute.
-/
class EventParameters where
  algorithm? : OtherValue
    → Option (Value → Value → EventState → Except Raised (Option EventState))

/-- `EventNotificationRequest`, as far as the engine fills it in. -/
structure EventNotification where
  eventObjectIdentifier : ObjectIdentifier
  timeStamp : Int
  notificationClass : Value
  priority : Int
  notifyType : Value
  toState : EventState
  ackRequired : Bool
  fromState : EventState

/-- An object that a cycle has fed to its state machine: the Event_State of the object, and the
state in which the machine was.
-/
structure Evaluation where
  ref : Nat
  own : Value
  started : EventState

/-- `EventEngine` with the database of its application, and what its last cycle has evaluated and
reported.
-/
structure EventEngine where
  db : ObjectDatabase := {}
  contexts : Dict ObjectIdentifier EventStateMachine := .empty
  evaluations : List Evaluation := []
  reports : List (Nat × EventNotification) := []

namespace EventEngine

/-- A computation of the engine that may raise. -/
abbrev Action (Result : Type) := Stateful Raised EventEngine Result

def values (db : ObjectDatabase) : List Nat := db.objectList.filterMap db.get

def readProp (db : ObjectDatabase) (obj : BACnetObject) (prop : PropertyIdentifier) : Value :=
  match db.readProperty obj prop with
  | .ok value => value
  | .error _ => .none

def machineOf (engine : EventEngine) (objectId : ObjectIdentifier) : EventStateMachine :=
  (engine.contexts.get objectId).getD {}

def keep (objectId : ObjectIdentifier) (machine : EventStateMachine) : Action Unit :=
  Stateful.modifies fun engine => { engine with contexts := engine.contexts.set objectId machine }

-- Settings

section Settings

variable [EngineValues]

/-- `sm.event_enable = list(event_enable[:3])`, for a list that is long enough. -/
def syncEventEnable (obj : BACnetObject) (machine : EventStateMachine) : EventStateMachine :=
  match obj.get .eventEnable with
  | .list (toOffnormal :: toFault :: toNormal :: _) =>
    { machine with eventEnable := #v[toOffnormal.truthy, toFault.truthy, toNormal.truthy] }
  | _ => machine

def delayOf (value : Value) : Except Raised (Option Float) :=
  if value.isNumber then some <$> value.toFloat else .ok none

def syncStateMachine (obj : BACnetObject) (machine : EventStateMachine)
    : Except Raised EventStateMachine := do
  let machine := syncEventEnable obj machine
  let timeDelay ← delayOf (obj.get .timeDelay)
  let timeDelayNormal ← delayOf (obj.get .timeDelayNormal)
  .ok { machine with
    timeDelay := timeDelay.getD machine.timeDelay
    timeDelayNormal := timeDelayNormal.or machine.timeDelayNormal }

/-- `_sync_intrinsic_state_machine`: a machine in the normal state takes over that of the object. -/
def syncIntrinsicStateMachine (obj : BACnetObject) (machine : EventStateMachine)
    : Except Raised EventStateMachine := do
  let machine ← syncStateMachine obj machine
  .ok (match EventState.ofValue? (obj.get .eventState) with
    | some state =>
      if machine.eventState = .normal then { machine with eventState := state } else machine
    | none => machine)

end Settings

-- Notifications

section Notifications

/-- The object under `ObjectIdentifier(ObjectType.NOTIFICATION_CLASS, number)`. -/
def notificationClassObject (db : ObjectDatabase) (number : Value)
    : Except Raised (Option BACnetObject) := do
  if ← number.comparesTo (.int 0) [.gt, .eq] then
    if ← number.comparesTo (.int 4194303) [.lt, .eq] then
      match number.normal with
      | .int whole =>
        if inRange : whole.toNat < 4194304 then
          .ok (db.object? ⟨.notificationClass, ⟨whole.toNat, inRange⟩⟩)
        else .ok none
      | _ => .ok none
    else .error (.builtin (.valueError "Instance number must be 0-4194303"))
  else .error (.builtin (.valueError "Instance number must be 0-4194303"))

def forTransition (toOffnormal toFault toNormal : Value) (kind : Fin 3) : Value :=
  #v[toOffnormal, toFault, toNormal].get kind

variable [EngineValues]

def getPriority (db : ObjectDatabase) (number : Value) (toState : EventState)
    : Except Raised Int := do
  match ← notificationClassObject db number with
  | none => .ok 0
  | some notificationClass =>
    match notificationClass.get .priority with
    | .list (toOffnormal :: toFault :: toNormal :: _) =>
      (forTransition toOffnormal toFault toNormal toState.transitionIndex).toInt
    | _ => .ok 0

def getAckRequired (db : ObjectDatabase) (number : Value) (toState : EventState)
    : Except Raised Bool := do
  match ← notificationClassObject db number with
  | none => .ok false
  | some notificationClass =>
    match notificationClass.get .ackRequired with
    | .list (toOffnormal :: toFault :: toNormal :: _) =>
      .ok (forTransition toOffnormal toFault toNormal toState.transitionIndex).truthy
    | _ => .ok false

/-- `_route_notification`, up to the recipients: sending to them never raises. -/
def checkRoute (db : ObjectDatabase) (number : Value) : Except Raised Unit := do
  match ← notificationClassObject db number with
  | none => .ok ()
  | some notificationClass =>
    let recipients := notificationClass.get .recipientList
    if recipients.truthy then
      let _ ← recipients.iterate
      .ok ()
    else .ok ()

def updateEventTimestamps (toState : EventState) (timeStamp : Int) (obj : BACnetObject)
    : BACnetObject :=
  match obj.get .eventTimeStamps with
  | .list (first :: second :: third :: rest) =>
    obj.set .eventTimeStamps (.list ((first :: second :: third :: rest).set
      toState.transitionIndex (.other (EngineValues.sequenceStamp timeStamp))))
  | _ => obj

def buildNotification (db : ObjectDatabase) (objectId : ObjectIdentifier)
    (notifyType notificationClass : Value) (transition : EventTransition)
    : Except Raised EventNotification := do
  let priority ← getPriority db notificationClass transition.toState
  let ackRequired ← getAckRequired db notificationClass transition.toState
  let timeStamp ← (Value.float transition.timestamp).toInt
  checkRoute db notificationClass
  .ok { eventObjectIdentifier := objectId, timeStamp, notificationClass, priority, notifyType,
        toState := transition.toState, ackRequired, fromState := transition.fromState }

end Notifications

-- Evaluation

/-- What a state machine is fed with. -/
structure Inputs where
  eventResult : Option EventState
  faultResult : Value

/-- An object that is evaluated, with the parts of its evaluation that depend on its kind. -/
structure Source where
  ref : Nat
  obj : BACnetObject
  sync : EventStateMachine → Except Raised EventStateMachine
  inputs : ObjectDatabase → EventState → Except Raised (Option Inputs)
  notifyType : Value
  notificationClass : Value
  /-- a transition is stored in the object -/
  storesState : Bool

section Evaluations

variable [EngineValues] [EventParameters]

/-- `_read_monitored_property`; `none` is the sentinel. -/
def readMonitoredProperty (db : ObjectDatabase) (enrollment : BACnetObject)
    : Except Raised (Option Value) :=
  match readProp db enrollment .objectPropertyReference with
  | .none => .ok none
  | .other foreign =>
    match EngineValues.reference? foreign with
    | some reference =>
      match db.object? reference.objectIdentifier with
      | none => .ok none
      | some target =>
        if inRange : reference.propertyIdentifier.toNat < 4194304
            ∧ 0 ≤ reference.propertyIdentifier then
          .ok (db.readProperty target ⟨⟨_, inRange.1⟩⟩ reference.propertyArrayIndex).toOption
        else .ok none
    | none => .error (.builtin (.attributeError "object_identifier"))
  | _ => .error (.builtin (.attributeError "object_identifier"))

def evaluateEnrollmentFault (enrollment : BACnetObject) : Value :=
  if enrollment.get .reliabilityEvaluationInhibit = .bool true then .int 0
  else
    match enrollment.get .reliability with
    | .enum type number => if type = reliabilityEnum then .enum type number else .int 0
    | _ => .int 0

def runEventAlgorithm (db : ObjectDatabase) (enrollment : BACnetObject) (monitoredValue : Value)
    (currentState : EventState)
    : Except Raised (Option EventState) :=
  match readProp db enrollment .eventParameters with
  | .other parameters =>
    match EventParameters.algorithm? parameters with
    | some algorithm => algorithm (readProp db enrollment .eventType) monitoredValue currentState
    | none => .ok none
  | _ => .ok none

/-- What an enrollment feeds its machine with, if its monitored property can be read. -/
def enrollmentInputs (db : ObjectDatabase) (enrollment : BACnetObject) (currentState : EventState)
    : Except Raised (Option Inputs) := do
  match ← readMonitoredProperty db enrollment with
  | none => .ok none
  | some monitoredValue =>
    let eventResult ← runEventAlgorithm db enrollment monitoredValue currentState
    let inhibited := readProp db enrollment .eventAlgorithmInhibit = .bool true
    .ok (some {
      eventResult := if inhibited then some .normal else eventResult
      faultResult := evaluateEnrollmentFault enrollment
    })

/-- What an object that reports events itself feeds its machine with, if its present value can be
read.
-/
def intrinsicInputs (db : ObjectDatabase) (eventType : EventType) (obj : BACnetObject)
    (currentState : EventState)
    : Except Raised (Option Inputs) :=
  match db.readProperty obj .presentValue with
  | .error _ => .ok none
  | .ok presentValue => do
      let eventResult ← runIntrinsicAlgorithm eventType presentValue obj currentState
      let inhibited := obj.get .eventAlgorithmInhibit = .bool true
      .ok (some {
        eventResult := if inhibited then some .normal else eventResult
        faultResult :=
          if obj.get .reliabilityEvaluationInhibit = .bool true then .int 0
          else (obj.stored .reliability).getD (.int 0)
      })

def Source.build (source : Source) (db : ObjectDatabase) (transition : EventTransition)
    : Except Raised EventNotification :=
  buildNotification db source.obj.objectId source.notifyType source.notificationClass transition

/-- What a transition changes in the object: an object that reports events itself stores the state
before the time stamps.
-/
def Source.store (source : Source) (toState : EventState) (timeStamp : Int) (obj : BACnetObject)
    : BACnetObject :=
  updateEventTimestamps toState timeStamp
    (if source.storesState then obj.set .eventState toState.toValue else obj)

/-- `_dispatch_notification` and `_dispatch_intrinsic_notification` -/
def dispatch (source : Source) (transition : EventTransition) : Action Unit := do
  let notification ← Stateful.consults fun engine => source.build engine.db transition
  Stateful.modifies fun engine =>
    { engine with
      reports := (source.ref, notification) :: engine.reports
      db := engine.db.modify source.ref (source.store transition.toState notification.timeStamp) }

/-- The common part of `_evaluate_enrollment` and `_evaluate_intrinsic`: the machine takes over the
settings and is fed; a transition is dispatched.
-/
def evaluateSource (source : Source) (now : Float) : Action Unit := do
  let machine ← Stateful.consults fun engine => source.sync (engine.machineOf source.obj.objectId)
  keep source.obj.objectId machine
  match ← Stateful.consults fun engine => source.inputs engine.db machine.eventState with
  | none => pure ()
  | some fed =>
    let moved := machine.evaluate fed.eventResult fed.faultResult now
    keep source.obj.objectId moved.2
    Stateful.modifies fun engine =>
      { engine with
        evaluations :=
          { ref := source.ref, own := source.obj.get .eventState, started := machine.eventState }
            :: engine.evaluations }
    match moved.1 with
    | none => pure ()
    | some transition => dispatch source transition

/-- An enrollment, unless its detection is disabled. -/
def enrollmentSource? (db : ObjectDatabase) (ref : Nat) : Option Source :=
  match db.heap.get ref with
  | none => none
  | some enrollment =>
    if readProp db enrollment .eventDetectionEnable = .bool false then none
    else
      let notifyType := readProp db enrollment .notifyType
      let notificationClass := readProp db enrollment .notificationClass
      some {
        ref
        obj := enrollment
        sync := syncStateMachine enrollment
        inputs := fun db => enrollmentInputs db enrollment
        notifyType := if notifyType = .none then .enum notifyTypeEnum 0 else notifyType
        notificationClass := if notificationClass = .none then .int 0 else notificationClass
        storesState := false
      }

/-- An object that reports events itself, unless its detection is disabled. -/
def intrinsicSource? (db : ObjectDatabase) (ref : Nat) : Option Source :=
  match db.heap.get ref with
  | none => none
  | some obj =>
    match intrinsicEventAlgorithm obj.objectId.objectType with
    | none => none
    | some eventType =>
      if obj.get .eventDetectionEnable = .bool false then none
      else
        some {
          ref
          obj
          sync := syncIntrinsicStateMachine obj
          inputs := fun db => intrinsicInputs db eventType obj
          notifyType := (obj.stored .notifyType).getD (.enum notifyTypeEnum 0)
          notificationClass := (obj.stored .notificationClass).getD (.int 0)
          storesState := true
        }

def evaluate (source? : ObjectDatabase → Nat → Option Source) (now : Float) (ref : Nat)
    : Action Unit := fun engine =>
  match source? engine.db ref with
  | none => (.ok (), engine)
  | some source => evaluateSource source now engine

def evaluateEnrollment : Float → Nat → Action Unit := evaluate enrollmentSource?

def evaluateIntrinsic : Float → Nat → Action Unit := evaluate intrinsicSource?

def evaluateCycle (now : Float) : Action Unit := do
  Stateful.modifies fun engine => { engine with evaluations := [], reports := [] }
  let enrollments ← Stateful.reads fun engine => engine.db.getObjectsOfType .eventEnrollment
  Stateful.forEach (evaluateEnrollment now) enrollments
  let objects ← Stateful.reads fun engine => values engine.db
  Stateful.forEach (evaluateIntrinsic now) objects

end Evaluations

end EventEngine

end BacPy
