import BacPy.App.EventEvaluation

/-! Whether the Event_State of an object is the state of the machine that is kept for it.

A machine outlives its object, and a transition of an enrollment is not stored in it.
-/

namespace BacPy

open Library
open ObjectDatabase (heap_modify objects_modify Quiet filed_empty)

namespace EventEngine

variable {engine next : EventEngine} {source : Source} {now : Float} {obj : BACnetObject}

-- Agreement

/-- The state of a machine when it has taken over that of its object, which it does in the normal
state only.
-/
def takenOver (state : EventState) (own : Value) : EventState :=
  if state = .normal then (EventState.ofValue? own).getD .normal else state

def startsIn (engine : EventEngine) (obj : BACnetObject) : EventState :=
  let state := (engine.machineOf obj.objectId).eventState
  if (intrinsicEventAlgorithm obj.objectId.objectType).isSome then
    takenOver state (obj.get .eventState)
  else state

/-- The next evaluation of an object starts from its own Event_State. -/
def Agreeing (engine : EventEngine) (obj : BACnetObject) : Prop :=
  (obj.get .eventState).pyEq (engine.startsIn obj).toValue

instance : Decidable (engine.Agreeing obj) := inferInstanceAs (Decidable (_ = true))

/-- The object is an enrollment, or reports events itself. -/
def Concerned (obj : BACnetObject) : Prop :=
  obj.objectId.objectType = .eventEnrollment
    ∨ (intrinsicEventAlgorithm obj.objectId.objectType).isSome

instance : Decidable (Concerned obj) := inferInstanceAs (Decidable (_ ∨ _))

/-- Every object that the last cycle has evaluated has the Event_State of its machine, and was
evaluated from its own Event_State.
-/
def EventStatesAgree (engine : EventEngine) : Prop :=
  ∀ evaluation ∈ engine.evaluations, ∃ obj machine,
    engine.db.heap.get evaluation.ref = some obj
      ∧ engine.contexts.get obj.objectId = some machine
      ∧ (obj.get .eventState).pyEq machine.eventState.toValue
      ∧ evaluation.own.pyEq evaluation.started.toValue

theorem pyEq_toValue (state : EventState) : state.toValue.pyEq state.toValue := by
  cases state <;> rfl

/-- A machine that has taken the state over does not do so again. -/
theorem pyEq_takenOver {state : EventState} {own : Value} (same : own.pyEq state.toValue)
    : own.pyEq (takenOver state own).toValue := by
  unfold takenOver
  split
  · next normal =>
      cases isState : EventState.ofValue? own with
      | none => rwa [normal] at same
      | some other =>
        rw [EventState.eq_toValue isState]
        exact pyEq_toValue other
  · exact same

theorem agreeing_of_pyEq {machine : EventStateMachine}
    (kept : engine.contexts.get obj.objectId = some machine)
    (same : (obj.get .eventState).pyEq machine.eventState.toValue)
    : engine.Agreeing obj := by
  unfold Agreeing startsIn machineOf
  rw [kept, Option.getD_some]
  dsimp only
  split
  · exact pyEq_takenOver same
  · exact same

-- Evaluations

section Evaluations

variable [EngineValues]

theorem eventState_syncStateMachine {machine synced}
    (sync : syncStateMachine obj machine = .ok synced)
    : synced.eventState = machine.eventState := by
  unfold syncStateMachine at sync
  obtain ⟨timeDelay, _, sync⟩ := bind_eq_ok.mp sync
  obtain ⟨timeDelayNormal, _, sync⟩ := bind_eq_ok.mp sync
  cases sync
  dsimp only [syncEventEnable]
  split <;> rfl

theorem eventState_syncIntrinsicStateMachine {machine synced}
    (sync : syncIntrinsicStateMachine obj machine = .ok synced)
    : synced.eventState = takenOver machine.eventState (obj.get .eventState) := by
  unfold syncIntrinsicStateMachine at sync
  obtain ⟨settings, synced', sync⟩ := bind_eq_ok.mp sync
  have same := eventState_syncStateMachine synced'
  cases sync
  rw [takenOver, ← same]
  cases EventState.ofValue? (obj.get .eventState) with
  | none =>
    dsimp only [Option.getD]
    split
    · next normal => exact normal
    · rfl
  | some state =>
    dsimp only [Option.getD]
    split <;> rfl

/-- A machine that has taken over the settings is in the state in which the evaluation starts. -/
theorem startsIn_of_enrollment {db} (enrollment : source.Enrollment db) {machine}
    (sync : source.sync (engine.machineOf source.obj.objectId) = .ok machine)
    : machine.eventState = engine.startsIn source.obj := by
  rw [enrollment.sync] at sync
  unfold startsIn
  have other : intrinsicEventAlgorithm source.obj.objectId.objectType = none := by
    rw [enrollment.objectType]
    rfl
  rw [eventState_syncStateMachine sync, other]
  rfl

theorem startsIn_of_intrinsic {db} (intrinsic : source.Intrinsic db) {machine}
    (sync : source.sync (engine.machineOf source.obj.objectId) = .ok machine)
    : machine.eventState = engine.startsIn source.obj := by
  rw [intrinsic.sync] at sync
  unfold startsIn
  rw [eventState_syncIntrinsicStateMachine sync, if_pos intrinsic.objectType]

/-- A transition that is due becomes the Event_State of the object: it is reported and stored, or is
the Event_State already.
-/
def Source.Follows (source : Source) (now : Float) (engine : EventEngine) : Prop :=
  ∀ transition ∈ source.move engine now,
    (source.storesState ∧ (source.report engine now).isSome)
      ∨ (source.obj.get .eventState).pyEq transition.toState.toValue

instance (source : Source) (engine : EventEngine) : Decidable (source.Follows now engine) :=
  inferInstanceAs (Decidable (∀ transition ∈ source.move engine now, _))

/-- The Event_State of an object whose transition is stored. -/
theorem get_store (toState : EventState) (timeStamp : Int)
    : (source.store toState timeStamp obj).get .eventState
      = if source.storesState then toState.toValue else obj.get .eventState := by
  have stamped (obj : BACnetObject)
      : (updateEventTimestamps toState timeStamp obj).get .eventState = obj.get .eventState := by
    unfold updateEventTimestamps
    split
    · exact BACnetObject.get_set_ne (by decide) _
    · rfl
  unfold Source.store
  rw [stamped]
  split
  · exact BACnetObject.get_set_self _ (by decide)
  · rfl

end Evaluations

/-- What is known between evaluations: every object of the database agrees with its machine, and
those that were evaluated more than that.
-/
structure Settled (engine : EventEngine) : Prop where
  present : ∀ objectId ref obj, engine.db.get objectId = some ref
    → engine.db.heap.get ref = some obj → Concerned obj → engine.Agreeing obj
  evaluated : ∀ evaluation ∈ engine.evaluations, ∃ obj machine,
    engine.db.heap.get evaluation.ref = some obj
      ∧ engine.db.get obj.objectId = some evaluation.ref
      ∧ engine.contexts.get obj.objectId = some machine
      ∧ (obj.get .eventState).pyEq machine.eventState.toValue
      ∧ evaluation.own.pyEq evaluation.started.toValue

theorem Settled.agree (settled : engine.Settled) : engine.EventStatesAgree := by
  intro evaluation member
  obtain ⟨obj, machine, stored, _, kept, same, started⟩ := settled.evaluated evaluation member
  exact ⟨obj, machine, stored, kept, same, started⟩

/-- A machine in the state of its object is kept for it; other objects are as before. -/
structure Places (source : Source) (engine next : EventEngine) (machine : EventStateMachine)
    (obj : BACnetObject)
    : Prop where
  contexts : next.contexts = engine.contexts.set source.obj.objectId machine
  objects : next.db.objects = engine.db.objects
  here : next.db.heap.get source.ref = some obj
  objectId : obj.objectId = source.obj.objectId
  elsewhere : ∀ ref ≠ source.ref, next.db.heap.get ref = engine.db.heap.get ref
  same : (obj.get .eventState).pyEq machine.eventState.toValue
  evaluations : ∀ evaluation ∈ next.evaluations, evaluation ∈ engine.evaluations
    ∨ (evaluation.ref = source.ref ∧ evaluation.own.pyEq evaluation.started.toValue)

theorem Settled.place (settled : engine.Settled) (filed : engine.db.Filed)
    (listed : source.Listed engine.db) {machine} (places : Places source engine next machine obj)
    : next.Settled := by
  have kept : next.contexts.get obj.objectId = some machine := by
    rw [places.contexts, places.objectId, Dict.get_set_self]
  have others {ref : Nat} {other : BACnetObject} (different : ref ≠ source.ref)
      (present : engine.db.get other.objectId = some ref)
      : next.contexts.get other.objectId = engine.contexts.get other.objectId := by
    rw [places.contexts]
    apply Dict.get_set_ne
    intro same
    rw [same, listed.present] at present
    exact different (Option.some.inj present).symm
  refine ⟨?_, ?_⟩
  · intro objectId ref other found stored concerned
    rw [ObjectDatabase.get, places.objects] at found
    by_cases same : ref = source.ref
    · subst same
      cases places.here.symm.trans stored
      exact agreeing_of_pyEq kept places.same
    · rw [places.elsewhere ref same] at stored
      have agreeing := settled.present objectId ref other found stored concerned
      obtain ⟨_, stored', identifier⟩ := filed.here objectId ref found
      cases stored.symm.trans stored'
      unfold Agreeing startsIn machineOf at agreeing ⊢
      rw [others same (identifier ▸ found)]
      exact agreeing
  · intro evaluation member
    have here (same : evaluation.ref = source.ref)
        (started : evaluation.own.pyEq evaluation.started.toValue)
        : ∃ obj machine, next.db.heap.get evaluation.ref = some obj
          ∧ next.db.get obj.objectId = some evaluation.ref
          ∧ next.contexts.get obj.objectId = some machine
          ∧ (obj.get .eventState).pyEq machine.eventState.toValue
          ∧ evaluation.own.pyEq evaluation.started.toValue := by
      refine ⟨obj, machine, same ▸ places.here, ?_, kept, places.same, started⟩
      rw [ObjectDatabase.get, places.objects, places.objectId, same]
      exact listed.present
    rcases places.evaluations evaluation member with old | ⟨same, started⟩
    · obtain ⟨other, machine', stored, present, kept', same', started⟩ :=
        settled.evaluated evaluation old
      by_cases same : evaluation.ref = source.ref
      · exact here same started
      · refine ⟨other, machine', ?_, ?_, ?_, same', started⟩
        · rw [places.elsewhere _ same, stored]
        · rw [ObjectDatabase.get, places.objects]
          exact present
        · rw [others same present, kept']
    · exact here same started

/-- The step lemma: an evaluation whose transition becomes the Event_State leaves the object in the
state of its machine.
-/
theorem Settled.step [EngineValues] (settled : engine.Settled) (filed : engine.db.Filed)
    (listed : source.Listed engine.db) (concerned : Concerned source.obj)
    (starts : ∀ machine, source.sync (engine.machineOf source.obj.objectId) = .ok machine
      → machine.eventState = engine.startsIn source.obj)
    (follows : source.Follows now engine) (ends : Evaluated source now engine next)
    : next.Settled := by
  have agreeing := settled.present _ _ _ listed.present listed.stored concerned
  cases ends with
  | skipped unfed => exact settled
  | synced unfed sync =>
    apply settled.place filed listed
    refine ⟨rfl, rfl, listed.stored, rfl, fun _ _ => rfl, ?_, fun _ => Or.inl⟩
    rw [starts _ sync]
    exact agreeing
  | @fed machine moved inputs sync feeds silent eventState =>
    apply settled.place filed listed
    refine ⟨rfl, rfl, listed.stored, rfl, fun _ _ => rfl, ?_, ?_⟩
    · rw [eventState]
      cases move : source.move engine now with
      | none =>
        rw [Option.map_none, Option.getD_none, starts _ sync]
        exact agreeing
      | some transition =>
        rcases follows transition move with ⟨_, reports⟩ | same
        · rw [silent] at reports
          cases reports
        · exact same
    · intro evaluation member
      rcases List.mem_cons.mp member with rfl | old
      · refine Or.inr ⟨rfl, ?_⟩
        dsimp only
        rw [starts _ sync]
        exact agreeing
      · exact Or.inl old
  | @reported machine moved inputs notification sync feeds reports eventState =>
    have here : (engine.db.modify source.ref
        (source.store notification.toState notification.timeStamp)).heap.get source.ref
          = some (source.store notification.toState notification.timeStamp source.obj) := by
      rw [heap_modify, if_pos rfl, listed.stored, Option.map_some]
    obtain ⟨transition, move, same⟩ := move_of_report reports
    apply settled.place filed listed
    refine ⟨rfl, objects_modify .., here,
      (agrees_store notification.toState notification.timeStamp source.obj).objectId, ?_, ?_, ?_⟩
    · intro ref different
      rw [heap_modify, if_neg different]
    · rw [get_store, eventState]
      split
      · exact pyEq_toValue _
      · next plain =>
          rcases follows transition move with ⟨stores, _⟩ | stands
          · exact absurd stores plain
          · rw [same]
            exact stands
    · intro evaluation member
      rcases List.mem_cons.mp member with rfl | old
      · refine Or.inr ⟨rfl, ?_⟩
        dsimp only
        rw [starts _ sync]
        exact agreeing
      · exact Or.inl old

/-- Changes elsewhere leave the objects settled, when every object that is present has lasted or
agrees with its machine.
-/
theorem Settled.later (settled : engine.Settled) {db}
    (origin : ∀ objectId ref other, db.get objectId = some ref → db.heap.get ref = some other
      → ∃ obj, BACnetObject.Lasts .eventState obj other
        ∧ ((engine.db.get objectId = some ref ∧ engine.db.heap.get ref = some obj)
          ∨ (Concerned obj → engine.Agreeing obj)))
    : Settled { engine.cleared with db } := by
  refine ⟨?_, fun _ member => absurd member List.not_mem_nil⟩
  intro objectId ref other found stored concerned
  obtain ⟨obj, lasts, old⟩ := origin objectId ref other found stored
  have concerned' : Concerned obj := by
    unfold Concerned at concerned ⊢
    rwa [lasts.objectId] at concerned
  have agreeing : engine.Agreeing obj := by
    rcases old with ⟨there, stored'⟩ | agrees
    · exact settled.present objectId ref obj there stored' concerned'
    · exact agrees concerned'
  unfold Agreeing startsIn at agreeing ⊢
  rw [lasts.get, lasts.objectId]
  exact agreeing

end EventEngine

namespace AlarmSystem

open EventEngine

section Runs

variable [EngineValues] [EventParameters] {system next : AlarmSystem} {registry : List ObjectClass}

-- Runs

/-- The steps that do not reach a defect: an object that enters agrees with the machine kept for
its identifier, nobody else writes an Event_State, and a cycle's transitions are stored.
-/
def KeepsStates (registry : List ObjectClass) (system : AlarmSystem) : Event → Prop
  | .database event =>
    system.engine.db.Spares .eventState event
      ∧ ∀ entry ∈ system.engine.db.entering registry event,
        Concerned entry.2 → system.engine.Agreeing entry.2
  | .acknowledgeAlarm .. => True
  | .cycle now => InCycle (Source.Follows · now) (Source.Follows · now) now system.engine

instance (system : AlarmSystem) : (event : Event) → Decidable (KeepsStates registry system event)
  | .database _ => inferInstanceAs (Decidable (_ ∧ _))
  | .acknowledgeAlarm .. => inferInstanceAs (Decidable True)
  | .cycle now => inferInstanceAs (Decidable (InCycle _ _ now _))

/-- The database is in order, and the objects are settled. -/
structure InState (system : AlarmSystem) : Prop where
  filed : system.engine.db.Filed
  settled : system.engine.Settled

/-- Every step that meets the condition, one case for each kind of it. -/
theorem InState.step (state : system.InState) {event} (keeps : KeepsStates registry system event)
    (moved : system.step registry event = some next)
    : next.InState := by
  cases event with
  | database event =>
    obtain ⟨db, stepped, rfl⟩ := Option.map_eq_some_iff.mp moved
    obtain ⟨spares, agrees⟩ := keeps
    have quiet : Quiet .eventState := by decide
    refine ⟨(ObjectDatabase.progress_step state.filed quiet spares stepped).filed,
      state.settled.later ?_⟩
    intro objectId ref other found stored
    obtain ⟨obj, other', _, stored', lasts, origin⟩ :=
      ObjectDatabase.origin_of_present state.filed quiet spares stepped found
    cases stored.symm.trans stored'
    exact ⟨obj, lasts, origin.imp_right fun enters => agrees (ref, obj) enters⟩
  | acknowledgeAlarm objectId acknowledged =>
    cases moved
    unfold handleAcknowledgeAlarm
    dsimp only [cleared]
    cases found : system.engine.db.get objectId with
    | none =>
      refine ⟨state.filed, state.settled.later ?_⟩
      intro _ ref other found stored
      exact ⟨other, .refl other, Or.inl ⟨found, stored⟩⟩
    | some ref =>
      have lasting := @lasting_acknowledge system.engine.db .eventState (by decide) ref acknowledged
      refine ⟨state.filed.of_lasting (by simp) (by simp) lasting, state.settled.later ?_⟩
      intro objectId' ref' other found' stored
      rw [ObjectDatabase.get, objects_modify] at found'
      obtain ⟨obj, there, _⟩ := state.filed.here objectId' ref' found'
      obtain ⟨other', stored', lasts⟩ := lasting ref' obj there
      cases stored.symm.trans stored'
      exact ⟨obj, lasts, Or.inl ⟨found', there⟩⟩
  | cycle now =>
    dsimp only [AlarmSystem.step] at moved
    split at moved
    · cases moved
    · cases moved
      have started : system.engine.cleared.Settled :=
        ⟨state.settled.present, fun _ member => absurd member List.not_mem_nil⟩
      have kept := evaluateCycle_keeps
        (fun settled filed enrollment follows ends => settled.step filed enrollment.toListed
          (Or.inl enrollment.objectType)
          (fun _ sync => startsIn_of_enrollment enrollment sync) follows ends)
        (fun settled filed intrinsic follows ends => settled.step filed intrinsic.toListed
          (Or.inr intrinsic.objectType)
          (fun _ sync => startsIn_of_intrinsic intrinsic sync) follows ends)
        state.filed started keeps
      exact ⟨kept.2.filed, kept.1⟩

omit [EngineValues] [EventParameters] in
theorem inState_empty : InState {} where
  filed := filed_empty
  settled := by
    refine ⟨?_, fun _ member => absurd member List.not_mem_nil⟩
    intro objectId ref obj found
    simp [ObjectDatabase.get] at found

/-- In every run in which objects enter in agreement with the machines kept for their identifiers
and transitions are stored, the Event_State of every object that a cycle has evaluated is the
state of its machine, and the object was evaluated from its own.
-/
theorem eventStates_agree (registry : List ObjectClass) (events : List Event)
    (meets : Meets (step registry) (KeepsStates registry) {} events)
    : Always (step registry) (fun system => system.engine.EventStatesAgree) {} events :=
  always_of_meets (fun state keeps moved => state.step keeps moved)
    (fun state => state.settled.agree) inState_empty meets

end Runs

/-- A Binary Input in alarm is evaluated twice. -/
theorem eventStates_agree_alarmed
    : Always (@step plainEngineValues noEventParameters [binaryInputObject])
        (fun system => system.engine.EventStatesAgree) {} [createAlarmed, .cycle 1, .cycle 2] :=
  @eventStates_agree plainEngineValues noEventParameters [binaryInputObject]
    [createAlarmed, .cycle 1, .cycle 2] (by decide +kernel)

/-- A Binary Input in alarm is evaluated, deleted and created again. -/
def recreated : List Event :=
  [createAlarmed, .cycle 1, .database (.remove ⟨.binaryInput, 1⟩), createAlarmed, .cycle 2]

/-- The new object is in the normal state, and the machine is still in that of the old one. -/
theorem not_eventStates_agree
    : ¬ ∀ [EngineValues] [EventParameters] registry events,
      Always (step registry) (fun system => system.engine.EventStatesAgree) {} events := by
  intro always
  have stale : (run (@step plainEngineValues noEventParameters [binaryInputObject]) {}
      recreated).any (fun system =>
      system.engine.evaluations.any fun evaluation =>
        !evaluation.own.pyEq evaluation.started.toValue) := by
    decide +kernel
  obtain ⟨system, ran, differs⟩ := (Option.any_eq_true _ _).mp stale
  obtain ⟨evaluation, member, different⟩ := List.any_eq_true.mp differs
  have agree := always_iff_prefixes.mp
    (@always plainEngineValues noEventParameters [binaryInputObject] recreated) recreated [] system
    (by simp) ran
  obtain ⟨_, _, _, _, _, same⟩ := agree evaluation member
  simp [same] at different

end AlarmSystem

end BacPy
