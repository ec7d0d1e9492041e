import BacPy.App.EventEngine
import BacPy.Objects.Presence

/-! What one evaluation does to an `EventEngine`, and the rule for invariants of a cycle. -/

namespace BacPy

open Library
open Stateful (bind_apply consults_apply modifies_apply AsReached)

namespace EventEngine

variable [EngineValues] {engine next : EventEngine} {source : Source} {now : Float}

-- One evaluation

/-- The machine that an evaluation feeds, and with what, if it gets that far. -/
def Source.feeding (source : Source) (engine : EventEngine) : Option (EventStateMachine × Inputs) :=
  match source.sync (engine.machineOf source.obj.objectId) with
  | .error _ => none
  | .ok machine =>
    match source.inputs engine.db machine.eventState with
    | .ok (some inputs) => some (machine, inputs)
    | _ => none

/-- The transition that an evaluation leads to. -/
def Source.move (source : Source) (engine : EventEngine) (now : Float) : Option EventTransition :=
  (source.feeding engine).bind fun fed =>
    (fed.1.due fed.2.eventResult fed.2.faultResult now).map fun target =>
      { fromState := fed.1.eventState, toState := target, timestamp := now }

/-- The notification that an evaluation sends. -/
def Source.report (source : Source) (engine : EventEngine) (now : Float)
    : Option EventNotification :=
  (source.move engine now).bind fun transition => (source.build engine.db transition).toOption

/-- What an evaluation does. It may not feed the machine; it may do so without a notification, since
no transition is due or the notification cannot be built; or it reports.
-/
inductive Evaluated (source : Source) (now : Float) (engine : EventEngine) : EventEngine → Prop
  | skipped (unfed : source.feeding engine = none) : Evaluated source now engine engine
  | synced {machine : EventStateMachine} (unfed : source.feeding engine = none)
    (sync : source.sync (engine.machineOf source.obj.objectId) = .ok machine)
    : Evaluated source now engine
        { engine with contexts := engine.contexts.set source.obj.objectId machine }
  | fed {machine moved : EventStateMachine} {inputs : Inputs}
    (sync : source.sync (engine.machineOf source.obj.objectId) = .ok machine)
    (feeds : source.feeding engine = some (machine, inputs))
    (silent : source.report engine now = none)
    (eventState : moved.eventState
      = ((source.move engine now).map EventTransition.toState).getD machine.eventState)
    : Evaluated source now engine
        { engine with
          contexts := engine.contexts.set source.obj.objectId moved
          evaluations :=
            { ref := source.ref, own := source.obj.get .eventState, started := machine.eventState }
              :: engine.evaluations }
  | reported {machine moved : EventStateMachine} {inputs : Inputs}
    {notification : EventNotification}
    (sync : source.sync (engine.machineOf source.obj.objectId) = .ok machine)
    (feeds : source.feeding engine = some (machine, inputs))
    (reports : source.report engine now = some notification)
    (eventState : moved.eventState = notification.toState)
    : Evaluated source now engine
        { engine with
          contexts := engine.contexts.set source.obj.objectId moved
          evaluations :=
            { ref := source.ref, own := source.obj.get .eventState, started := machine.eventState }
              :: engine.evaluations
          reports := (source.ref, notification) :: engine.reports
          db := engine.db.modify source.ref
            (source.store notification.toState notification.timeStamp) }

theorem toState_of_build {db transition notification}
    (built : source.build db transition = .ok notification)
    : notification.toState = transition.toState := by
  unfold Source.build buildNotification at built
  obtain ⟨priority, _, built⟩ := bind_eq_ok.mp built
  obtain ⟨ackRequired, _, built⟩ := bind_eq_ok.mp built
  obtain ⟨timeStamp, _, built⟩ := bind_eq_ok.mp built
  obtain ⟨_, _, built⟩ := bind_eq_ok.mp built
  exact (Except.ok.inj built) ▸ rfl

theorem move_of_report {notification} (reports : source.report engine now = some notification)
    : ∃ transition, source.move engine now = some transition
        ∧ notification.toState = transition.toState := by
  obtain ⟨transition, move, built⟩ := Option.bind_eq_some_iff.mp reports
  refine ⟨transition, move, ?_⟩
  cases outcome : source.build engine.db transition with
  | error raised =>
    rw [outcome] at built
    cases built
  | ok other =>
    rw [outcome] at built
    cases built
    exact toState_of_build outcome

/-- Every evaluation, by the ways in which it can end. -/
theorem evaluated_evaluateSource
    : Evaluated source now engine (evaluateSource source now engine).2 := by
  unfold evaluateSource keep
  rw [bind_apply, consults_apply]
  cases sync : source.sync (engine.machineOf source.obj.objectId) with
  | error raised => exact .skipped (by rw [Source.feeding, sync])
  | ok machine =>
    dsimp only
    rw [bind_apply, modifies_apply]
    dsimp only
    rw [bind_apply, consults_apply]
    dsimp only
    rcases read : source.inputs engine.db machine.eventState with raised | _ | inputs
    · exact .synced (by rw [Source.feeding, sync]; simp [read]) sync
    · exact .synced (by rw [Source.feeding, sync]; simp [read]) sync
    · have feeds : source.feeding engine = some (machine, inputs) := by
        rw [Source.feeding, sync]
        simp [read]
      have moved := @EventStateMachine.moved_evaluate Float _ _ _ _ machine inputs.eventResult
        inputs.faultResult now
      have move : source.move engine now
          = (machine.evaluate inputs.eventResult inputs.faultResult now).1 := by
        rw [Source.move, feeds, moved.transition]
        rfl
      dsimp only
      rw [bind_apply, modifies_apply]
      dsimp only
      rw [bind_apply, modifies_apply]
      rw [Dict.set_set]
      have state := @EventStateMachine.eventState_evaluate Float _ _ _ _ machine inputs.eventResult
        inputs.faultResult now
      rw [← move] at state
      cases ends : (machine.evaluate inputs.eventResult inputs.faultResult now).1 with
      | none =>
        rw [ends] at move
        exact .fed sync feeds (by rw [Source.report, move]; rfl) state
      | some transition =>
        rw [ends] at move
        dsimp only [dispatch]
        rw [bind_apply, consults_apply]
        dsimp only
        cases built : source.build engine.db transition with
        | error raised =>
          exact .fed sync feeds (by rw [Source.report, move, Option.bind_some, built]; rfl)
            state
        | ok notification =>
          have same := toState_of_build built
          have reports : source.report engine now = some notification := by
            rw [Source.report, move, Option.bind_some, built]
            rfl
          rw [move] at state
          dsimp only
          rw [modifies_apply, ← same]
          exact .reported sync feeds reports (state.trans same.symm)

-- A cycle

omit [EngineValues] in

/-- The object that is evaluated is in the database. -/
structure Source.Listed (source : Source) (db : ObjectDatabase) : Prop where
  stored : db.heap.get source.ref = some source.obj
  present : db.get source.obj.objectId = some source.ref

def EachSource (source? : ObjectDatabase → Nat → Option Source)
    (holds : Source → EventEngine → Prop) (ref : Nat) (engine : EventEngine)
    : Prop :=
  ∀ source ∈ source? engine.db ref, holds source engine

instance {source? : ObjectDatabase → Nat → Option Source} {holds : Source → EventEngine → Prop}
    [∀ source engine, Decidable (holds source engine)] (ref : Nat) (engine : EventEngine)
    : Decidable (EachSource source? holds ref engine) :=
  inferInstanceAs (Decidable (∀ source ∈ source? engine.db ref, holds source engine))

/-- The start of a cycle. -/
def cleared (engine : EventEngine) : EventEngine :=
  { engine with evaluations := [], reports := [] }

/-- A notification and its time stamps change the two properties of its object. -/
theorem agrees_store (toState : EventState) (timeStamp : Int) (obj : BACnetObject)
    : BACnetObject.Agrees [.eventState, .eventTimeStamps] obj
        (source.store toState timeStamp obj) := by
  have stamped (obj : BACnetObject)
      : BACnetObject.Agrees [.eventState, .eventTimeStamps] obj
          (updateEventTimestamps toState timeStamp obj) := by
    unfold updateEventTimestamps
    split
    · exact BACnetObject.agrees_set _ (by decide)
    · exact .refl obj
  unfold Source.store
  split
  · exact (BACnetObject.agrees_set _ (by decide)).trans (stamped _)
  · exact stamped obj

/-- An evaluation changes only these of any object. -/
theorem Evaluated.lasting {prop : PropertyIdentifier}
    (apart : prop ∉ [PropertyIdentifier.eventState, .eventTimeStamps])
    (ends : Evaluated source now engine next)
    : ObjectDatabase.Lasting prop engine.db next.db := by
  cases ends with
  | skipped | synced | fed => exact .refl _
  | reported sync feeds reports eventState =>
    exact ObjectDatabase.lasting_modify fun obj _ =>
      BACnetObject.lasts_of_agrees (agrees_store ..) apart

/-- The same objects are in the database. -/
structure SameObjects (origin db : ObjectDatabase) : Prop where
  filed : db.Filed
  objects : db.objects = origin.objects
  typeIndex : db.typeIndex = origin.typeIndex

theorem SameObjects.evaluated {origin} (same : SameObjects origin engine.db)
    (ends : Evaluated source now engine next)
    : SameObjects origin next.db := by
  have lasting : ObjectDatabase.Lasting .objectName engine.db next.db := ends.lasting (by decide)
  have kept : next.db.objects = engine.db.objects ∧ next.db.typeIndex = engine.db.typeIndex := by
    cases ends with
    | skipped | synced | fed => exact ⟨rfl, rfl⟩
    | reported sync feeds reports eventState => exact ⟨by simp, by simp⟩
  exact ⟨same.filed.of_lasting kept.1 kept.2 lasting, kept.1.trans same.objects,
    kept.2.trans same.typeIndex⟩

variable [EventParameters]

def evaluateEnrollments (now : Float) (engine : EventEngine) : Except Raised Unit × EventEngine :=
  Stateful.forEach (evaluateEnrollment now) (engine.db.getObjectsOfType .eventEnrollment) engine

/-- The evaluation of the objects that report events themselves. -/
def evaluateIntrinsics (now : Float) (engine : EventEngine) : Except Raised Unit × EventEngine :=
  Stateful.forEach (evaluateIntrinsic now) (values engine.db) engine

/-- In a cycle, something holds of every enrollment and of every other object that it gets to, each
in its turn.
-/
def InCycle (enrollments intrinsics : Source → EventEngine → Prop) (now : Float)
    (engine : EventEngine)
    : Prop :=
  AsReached (EachSource enrollmentSource? enrollments) (evaluateEnrollment now)
      (engine.cleared.db.getObjectsOfType .eventEnrollment) engine.cleared
    ∧ ((evaluateEnrollments now engine.cleared).1 = .ok ()
      → AsReached (EachSource intrinsicSource? intrinsics) (evaluateIntrinsic now)
          (values (evaluateEnrollments now engine.cleared).2.db)
          (evaluateEnrollments now engine.cleared).2)

instance {enrollments intrinsics : Source → EventEngine → Prop}
    [∀ source engine, Decidable (enrollments source engine)]
    [∀ source engine, Decidable (intrinsics source engine)] (now : Float) (engine : EventEngine)
    : Decidable (InCycle enrollments intrinsics now engine) :=
  inferInstanceAs (Decidable (_ ∧ (_ → _)))

theorem evaluateCycle_eq
    : evaluateCycle now engine
      = match evaluateEnrollments now engine.cleared with
        | (.ok (), reached) => evaluateIntrinsics now reached
        | (.error raised, reached) => (.error raised, reached) := by
  unfold evaluateCycle
  rw [bind_apply, modifies_apply]
  dsimp only
  rw [bind_apply, Stateful.reads_apply]
  dsimp only
  rw [bind_apply]
  rw [show Stateful.forEach (evaluateEnrollment now)
      (engine.db.getObjectsOfType .eventEnrollment) { db := engine.db, contexts := engine.contexts }
      = evaluateEnrollments now engine.cleared from rfl]
  rcases evaluateEnrollments now engine.cleared with ⟨raised | done, reached⟩
  · rfl
  · rfl

/-- The object behind a reference that is evaluated. -/
theorem obj_of_enrollmentSource {db ref} (found : enrollmentSource? db ref = some source)
    : source.ref = ref ∧ db.heap.get ref = some source.obj
      ∧ source.sync = syncStateMachine source.obj ∧ source.storesState = false := by
  unfold enrollmentSource? at found
  cases stored : db.heap.get ref with
  | none => simp [stored] at found
  | some obj =>
    rw [stored] at found
    dsimp only at found
    split at found
    · cases found
    · cases found
      exact ⟨rfl, rfl, rfl, rfl⟩

omit [EventParameters] in
theorem obj_of_intrinsicSource {db ref} (found : intrinsicSource? db ref = some source)
    : source.ref = ref ∧ db.heap.get ref = some source.obj
      ∧ source.sync = syncIntrinsicStateMachine source.obj ∧ source.storesState = true
      ∧ (intrinsicEventAlgorithm source.obj.objectId.objectType).isSome := by
  unfold intrinsicSource? at found
  cases stored : db.heap.get ref with
  | none => simp [stored] at found
  | some obj =>
    rw [stored] at found
    dsimp only at found
    split at found
    · cases found
    · next eventType intrinsic =>
        split at found
        · cases found
        · cases found
          exact ⟨rfl, rfl, rfl, rfl, by rw [intrinsic]; rfl⟩

/-- An enrollment, as a cycle evaluates it. -/
structure Source.Enrollment (source : Source) (db : ObjectDatabase) : Prop
    extends source.Listed db where
  sync : source.sync = syncStateMachine source.obj
  storesState : source.storesState = false
  objectType : source.obj.objectId.objectType = .eventEnrollment

/-- An object that reports events itself, as a cycle evaluates it. -/
structure Source.Intrinsic (source : Source) (db : ObjectDatabase) : Prop
    extends source.Listed db where
  sync : source.sync = syncIntrinsicStateMachine source.obj
  storesState : source.storesState = true
  objectType : (intrinsicEventAlgorithm source.obj.objectId.objectType).isSome

/-- The rule for invariants of a cycle, of which the two loops are instances of the loop rule: they
have to be kept by each evaluation that meets its condition.
-/
theorem evaluateCycle_keeps {inv : EventEngine → Prop} {enrollments intrinsics : Source → EventEngine → Prop}
    (enrolled : ∀ {source engine next}, inv engine → engine.db.Filed
      → source.Enrollment engine.db → enrollments source engine
      → Evaluated source now engine next → inv next)
    (reporting : ∀ {source engine next}, inv engine → engine.db.Filed
      → source.Intrinsic engine.db → intrinsics source engine
      → Evaluated source now engine next → inv next)
    (filed : engine.db.Filed) (start : inv engine.cleared)
    (conditions : InCycle enrollments intrinsics now engine)
    : inv (evaluateCycle now engine).2 ∧ SameObjects engine.db (evaluateCycle now engine).2.db := by
  let kept (engine' : EventEngine) := inv engine' ∧ SameObjects engine.db engine'.db
  have first : kept (evaluateEnrollments now engine.cleared).2 := by
    refine Stateful.AsReached.final ?_ ⟨start, filed, rfl, rfl⟩ conditions.1
    rintro ref listed state ⟨holds, same⟩ meets
    unfold evaluateEnrollment evaluate
    cases found : enrollmentSource? state.db ref with
    | none => exact ⟨holds, same⟩
    | some source =>
      dsimp only
      have ends := @evaluated_evaluateSource _ state source now
      obtain ⟨sameRef, stored, sync, storesState⟩ := obj_of_enrollmentSource found
      obtain ⟨objectId, objectType, present⟩ := filed.get_of_mem listed
      rw [ObjectDatabase.get, ← same.objects] at present
      obtain ⟨obj, there, identifier⟩ := same.filed.here objectId ref present
      cases stored.symm.trans there
      have enrollment : source.Enrollment state.db :=
        ⟨⟨sameRef ▸ stored, by rw [identifier, sameRef]; exact present⟩, sync, storesState,
          identifier ▸ objectType⟩
      exact ⟨enrolled holds same.filed enrollment (meets source found) ends, same.evaluated ends⟩
  rw [evaluateCycle_eq]
  have onward := conditions.2
  rcases outcome : evaluateEnrollments now engine.cleared with ⟨raised | done, reached⟩
  · rw [outcome] at first
    exact first
  · rw [outcome] at first onward
    have last : kept (evaluateIntrinsics now reached).2 := by
      refine Stateful.AsReached.final ?_ first (onward rfl)
      rintro ref listed state ⟨holds, same⟩ meets
      unfold evaluateIntrinsic evaluate
      cases found : intrinsicSource? state.db ref with
      | none => exact ⟨holds, same⟩
      | some source =>
        dsimp only
        have ends := @evaluated_evaluateSource _ state source now
        obtain ⟨sameRef, stored, sync, storesState, objectType⟩ := obj_of_intrinsicSource found
        obtain ⟨objectId, _, present⟩ := List.mem_filterMap.mp listed
        rw [ObjectDatabase.get, first.2.objects, ← same.objects] at present
        obtain ⟨obj, there, identifier⟩ := same.filed.here objectId ref present
        cases stored.symm.trans there
        have intrinsic : source.Intrinsic state.db :=
          ⟨⟨sameRef ▸ stored, by rw [identifier, sameRef]; exact present⟩, sync, storesState,
            objectType⟩
        exact ⟨reporting holds same.filed intrinsic (meets source found) ends,
          same.evaluated ends⟩
    exact last

end EventEngine

end BacPy

/-! Runs of a device that reports events: its database changes, clients acknowledge alarms, and the
engine evaluates in cycles.
-/

namespace BacPy

open Library

/-- What has happened to an object: a transition was reported, or one was acknowledged. -/
inductive AlarmEntry where
  | reported (ref : Nat) (toState : EventState)
  | acknowledged (ref : Nat) (state : EventState)

def AlarmEntry.about : AlarmEntry → Nat × Fin 3
  | .reported ref toState => (ref, toState.transitionIndex)
  | .acknowledged ref state => (ref, state.transitionIndex)

def AlarmEntry.isReport : AlarmEntry → Bool
  | .reported .. => true
  | .acknowledged .. => false

/-- A device that reports events, with its history, the newest entry first. -/
structure AlarmSystem where
  engine : EventEngine := {}
  /-- a cycle has raised, so that there are no more cycles -/
  ended : Bool := false
  history : List AlarmEntry := []

namespace AlarmSystem

/-- What can happen to the device. -/
inductive Event where
  | database (event : ObjectDatabase.Event)
  /-- AcknowledgeAlarm -/
  | acknowledgeAlarm (objectId : ObjectIdentifier) (state : EventState)
  | cycle (now : Float)

/-- `acked_transitions[idx] = True`, for a list that is long enough. -/
def acknowledge (state : EventState) (obj : BACnetObject) : BACnetObject :=
  match obj.get .ackedTransitions with
  | .list (toOffnormal :: toFault :: toNormal :: rest) =>
    obj.set .ackedTransitions
      (.list ((toOffnormal :: toFault :: toNormal :: rest).set state.transitionIndex (.bool true)))
  | _ => obj

/-- `handle_acknowledge_alarm`, which raises for an object that is unknown. -/
def handleAcknowledgeAlarm (objectId : ObjectIdentifier) (state : EventState)
    (system : AlarmSystem)
    : AlarmSystem :=
  match system.engine.db.get objectId with
  | none => system
  | some ref =>
    { system with
      engine := { system.engine with db := system.engine.db.modify ref (acknowledge state) }
      history := .acknowledged ref state :: system.history }

/-- An acknowledgement changes Acked_Transitions only. -/
theorem agrees_acknowledge (state : EventState) (obj : BACnetObject)
    : BACnetObject.Agrees [.ackedTransitions] obj (acknowledge state obj) := by
  unfold acknowledge
  split
  · exact BACnetObject.agrees_set _ (by decide)
  · exact .refl obj

theorem lasting_acknowledge {db} {prop : PropertyIdentifier} (apart : prop ≠ .ackedTransitions)
    (ref : Nat) (state : EventState)
    : ObjectDatabase.Lasting prop db (db.modify ref (acknowledge state)) :=
  ObjectDatabase.lasting_modify fun obj _ =>
    BACnetObject.lasts_of_agrees (agrees_acknowledge state obj) (by simpa using apart)

variable [EngineValues] [EventParameters]

def cycle (now : Float) (system : AlarmSystem) : AlarmSystem :=
  let engine := (EventEngine.evaluateCycle now system.engine).2
  { engine
    ended :=
      match (EventEngine.evaluateCycle now system.engine).1 with
      | .ok _ => false
      | .error _ => true
    history := engine.reports.map (fun report => .reported report.1 report.2.toState)
      ++ system.history }

/-- One step. What the last cycle has evaluated is forgotten when the database changes. -/
def step (registry : List ObjectClass) (system : AlarmSystem) : Event → Option AlarmSystem
  | .database event =>
    (system.engine.db.step registry event).map fun db =>
      { system with engine := { system.engine.cleared with db } }
  | .acknowledgeAlarm objectId state =>
    let system := { system with engine := system.engine.cleared }
    some (system.handleAcknowledgeAlarm objectId state)
  | .cycle now => if system.ended then none else some (system.cycle now)

/-- A Binary Input whose present value is its alarm value. -/
def createAlarmed : Event :=
  .database (.createObject .binaryInput (some 1)
    [(.presentValue, .enum binaryPvEnum 1), (.alarmValue, .enum binaryPvEnum 1)])

end AlarmSystem

@[reducible] def plainEngineValues : EngineValues where
  parseFloat _ := none
  parseInt _ := none
  reference? _ := none
  items? _ := none
  sequenceStamp number := {
    label := number.toNat, hashable := true, encoding := .ok [], encodingAsReal := .ok [] }

/-- Parameters for runs without dictionaries. -/
@[reducible] def noEventParameters : EventParameters := ⟨fun _ => none⟩

end BacPy
