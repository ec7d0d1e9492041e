import BacPy.App.EventStateAgreement

/-! Whether Acked_Transitions tells which of the last transitions of an object are acknowledged. The
engine keeps these bits in its machines and never stores them.
-/

namespace BacPy

open Library EventEngine

namespace AlarmSystem

variable {system next : AlarmSystem} {registry : List ObjectClass} {history : List AlarmEntry}
  {ref : Nat} {kind : Fin 3}

/-- The bit of a kind of transition is cleared in Acked_Transitions, as it is reported to clients: in
a list that is long enough or in a bit string; without either, all bits are set.
-/
def clearedBit (acked : Value) (kind : Fin 3) : Bool :=
  match acked with
  | .bitString bits => (Value.bitsOf bits)[kind.val]? = some false
  | .list (toOffnormal :: toFault :: toNormal :: _) =>
    !(EventEngine.forTransition toOffnormal toFault toNormal kind).truthy
  | _ => false

/-- The last transition of a kind that an object has reported is not acknowledged since. -/
def unacknowledged (history : List AlarmEntry) (ref : Nat) (kind : Fin 3) : Bool :=
  (history.find? fun entry => entry.about = (ref, kind)).any AlarmEntry.isReport

def BitsAgree (history : List AlarmEntry) (ref : Nat) (obj : BACnetObject) : Prop :=
  (intrinsicEventAlgorithm obj.objectId.objectType).isSome
    → ∀ kind, clearedBit (obj.get .ackedTransitions) kind = unacknowledged history ref kind

instance (obj : BACnetObject) : Decidable (BitsAgree history ref obj) :=
  inferInstanceAs (Decidable (_ → _))

/-- Every object of a database that reports events itself has the bits of its history. -/
def AllBitsAgree (db : ObjectDatabase) (history : List AlarmEntry) : Prop :=
  ∀ objectId ref obj, db.get objectId = some ref → db.heap.get ref = some obj
    → BitsAgree history ref obj

/-- Acked_Transitions has a bit cleared exactly while the last transition of its kind is not
acknowledged, in every object that reports events itself.
-/
def AcknowledgementsAgree (system : AlarmSystem) : Prop :=
  AllBitsAgree system.engine.db system.history

/-- An entry changes what is known of one kind of transition of one object. -/
theorem unacknowledged_cons (entry : AlarmEntry)
    : unacknowledged (entry :: history) ref kind
      = if entry.about = (ref, kind) then entry.isReport else unacknowledged history ref kind := by
  unfold unacknowledged
  rw [List.find?_cons]
  by_cases same : entry.about = (ref, kind)
  · simp only [same, decide_true, if_true, Option.any_some]
  · simp only [same, decide_false, if_false]

-- Cycles

def entries (reports : List (Nat × EventNotification)) : List AlarmEntry :=
  reports.map fun report => .reported report.1 report.2.toState

section Cycles

variable [EngineValues] {engine after : EventEngine} {source : Source} {now : Float}

/-- What is reported finds the bit of its kind cleared. -/
def ReportsCleared (now : Float) (source : Source) (engine : EventEngine) : Prop :=
  ∀ notification ∈ source.report engine now,
    clearedBit (source.obj.get .ackedTransitions) notification.toState.transitionIndex

instance (source : Source) (engine : EventEngine) : Decidable (ReportsCleared now source engine) :=
  inferInstanceAs (Decidable (∀ notification ∈ source.report engine now, _))

/-- The step lemma: a report keeps the bits in agreement if it is of no object that reports events
itself, or finds its bit cleared.
-/
theorem AllBitsAgree.evaluated (agree : AllBitsAgree engine.db (entries engine.reports ++ history))
    (listed : source.Listed engine.db)
    (cleared : (intrinsicEventAlgorithm source.obj.objectId.objectType).isSome
      → ReportsCleared now source engine)
    (ends : Evaluated source now engine after)
    : AllBitsAgree after.db (entries after.reports ++ history) := by
  cases ends with
  | skipped | synced | fed => exact agree
  | @reported machine moved inputs notification sync feeds reports eventState =>
    intro objectId ref other found stored intrinsic kind
    rw [ObjectDatabase.get, ObjectDatabase.objects_modify] at found
    rw [ObjectDatabase.heap_modify] at stored
    have obj_ : ∃ obj, engine.db.heap.get ref = some obj
        ∧ BACnetObject.Lasts .ackedTransitions obj other := by
      split at stored
      · next same =>
          obtain ⟨obj, there, rfl⟩ := Option.map_eq_some_iff.mp stored
          exact ⟨obj, same ▸ there,
            BACnetObject.lasts_of_agrees (agrees_store ..) (by decide)⟩
      · exact ⟨other, stored, .refl other⟩
    obtain ⟨obj, there, lasts⟩ := obj_
    rw [lasts.objectId] at intrinsic
    have before := agree objectId ref obj found there intrinsic kind
    rw [lasts.get, entries, List.map_cons, List.cons_append, unacknowledged_cons]
    dsimp only
    by_cases same : (AlarmEntry.reported source.ref notification.toState).about = (ref, kind)
    · obtain ⟨rfl, rfl⟩ := Prod.mk.inj same
      cases listed.stored.symm.trans there
      rw [if_pos same]
      exact cleared intrinsic notification reports
    · rw [if_neg same]
      exact before

end Cycles

-- Runs

/-- An acknowledgement can be stored: it is not to set a bit of a bit string. -/
def Storable (acked : Value) (kind : Fin 3) : Prop :=
  match acked with
  | .bitString _ => clearedBit acked kind = false
  | _ => True

instance (acked : Value) : Decidable (Storable acked kind) := by
  unfold Storable
  split <;> infer_instance

section Runs

variable [EngineValues] [EventParameters]

/-- The steps that do not reach a defect: an object that enters has the bits of its history, nobody
else writes them, an acknowledgement can be stored, and a report finds its bit cleared.
-/
def KeepsAcknowledgements (registry : List ObjectClass) (system : AlarmSystem) : Event → Prop
  | .database event =>
    system.engine.db.Spares .ackedTransitions event
      ∧ ∀ entry ∈ system.engine.db.entering registry event,
        BitsAgree system.history entry.1 entry.2
  | .acknowledgeAlarm objectId state =>
    ∀ obj ∈ system.engine.db.object? objectId,
      Storable (obj.get .ackedTransitions) state.transitionIndex
  | .cycle now => InCycle (fun _ _ => True) (ReportsCleared now) now system.engine

instance (system : AlarmSystem)
    : (event : Event) → Decidable (KeepsAcknowledgements registry system event)
  | .database _ => inferInstanceAs (Decidable (_ ∧ _))
  | .acknowledgeAlarm objectId _ =>
    inferInstanceAs (Decidable (∀ obj ∈ system.engine.db.object? objectId, _))
  | .cycle now => inferInstanceAs (Decidable (InCycle _ _ now _))

omit [EngineValues] [EventParameters] in
/-- An acknowledgement that can be stored sets the bit of its kind, and no other. -/
theorem clearedBit_acknowledge (state : EventState) (obj : BACnetObject)
    (storable : Storable (obj.get .ackedTransitions) state.transitionIndex) (kind : Fin 3)
    : clearedBit ((acknowledge state obj).get .ackedTransitions) kind
      = if state.transitionIndex = kind then false
        else clearedBit (obj.get .ackedTransitions) kind := by
  unfold acknowledge
  split
  · next toOffnormal toFault toNormal rest isList =>
      rw [BACnetObject.get_set_self _ (by decide), isList]
      match kind with
      | 0 => cases state <;> rfl
      | 1 => cases state <;> rfl
      | 2 => cases state <;> rfl
  · next notList =>
      split
      · next same =>
          subst same
          unfold Storable at storable
          unfold clearedBit
          split at storable
          · exact storable
          · next noBits =>
              split
              · next bits isBits => exact absurd isBits (noBits bits)
              · next toOffnormal toFault toNormal rest isList => exact absurd isList (notList _ _ _ _)
              · rfl
      · rfl

/-- The database is in order, and the bits agree. -/
structure Recorded (system : AlarmSystem) : Prop where
  filed : system.engine.db.Filed
  agree : AllBitsAgree system.engine.db system.history

omit [EngineValues] [EventParameters] in
theorem BitsAgree.lasts {obj other} (lasts : BACnetObject.Lasts .ackedTransitions obj other)
    (agree : BitsAgree history ref obj)
    : BitsAgree history ref other := by
  unfold BitsAgree at agree ⊢
  rw [lasts.objectId, lasts.get]
  exact agree

omit [EngineValues] [EventParameters] in
/-- An acknowledgement that can be stored is stored. -/
theorem Recorded.acknowledge (recorded : system.Recorded) (objectId) (state : EventState)
    (storable : ∀ obj ∈ system.engine.db.object? objectId,
      Storable (obj.get .ackedTransitions) state.transitionIndex)
    : (system.handleAcknowledgeAlarm objectId state).Recorded := by
  unfold handleAcknowledgeAlarm
  cases found : system.engine.db.get objectId with
  | none => exact recorded
  | some ref =>
    have lasting := @lasting_acknowledge system.engine.db .objectName (by decide) ref state
    refine ⟨recorded.filed.of_lasting (by simp) (by simp) lasting, ?_⟩
    intro objectId' ref' other found' stored intrinsic kind
    dsimp only at found' stored ⊢
    rw [ObjectDatabase.get, ObjectDatabase.objects_modify] at found'
    rw [ObjectDatabase.heap_modify] at stored
    rw [unacknowledged_cons]
    have elsewhere (different : ref ≠ ref')
        : ¬ (AlarmEntry.acknowledged ref state).about = (ref', kind) :=
      fun same => different (congrArg Prod.fst same)
    by_cases same : ref' = ref
    · subst same
      rw [if_pos rfl] at stored
      obtain ⟨obj, there, rfl⟩ := Option.map_eq_some_iff.mp stored
      have storable := storable obj (Option.bind_eq_some_iff.mpr ⟨ref', found, there⟩)
      rw [(agrees_acknowledge state obj).objectId] at intrinsic
      rw [clearedBit_acknowledge state obj storable]
      by_cases about : state.transitionIndex = kind
      · have here : (AlarmEntry.acknowledged ref' state).about = (ref', kind) :=
          congrArg (Prod.mk ref') about
        rw [if_pos about, if_pos here]
        rfl
      · rw [if_neg about, if_neg fun same => about (congrArg Prod.snd same)]
        exact recorded.agree objectId' ref' obj found' there intrinsic kind
    · rw [if_neg same] at stored
      rw [if_neg (elsewhere (Ne.symm same))]
      exact recorded.agree objectId' ref' other found' stored intrinsic kind

/-- Every step that meets the condition, one case for each kind of it. -/
theorem Recorded.step (recorded : system.Recorded) {event}
    (keeps : KeepsAcknowledgements registry system event)
    (moved : system.step registry event = some next)
    : next.Recorded := by
  cases event with
  | database event =>
    obtain ⟨db, stepped, rfl⟩ := Option.map_eq_some_iff.mp moved
    obtain ⟨spares, agrees⟩ := keeps
    have quiet : ObjectDatabase.Quiet .ackedTransitions := by decide
    refine ⟨(ObjectDatabase.progress_step recorded.filed quiet spares stepped).filed, ?_⟩
    intro objectId ref other found stored
    obtain ⟨obj, other', _, stored', lasts, origin⟩ :=
      ObjectDatabase.origin_of_present recorded.filed quiet spares stepped found
    cases stored.symm.trans stored'
    rcases origin with ⟨there, before⟩ | enters
    · exact (recorded.agree objectId ref obj there before).lasts lasts
    · exact (agrees (ref, obj) enters).lasts lasts
  | acknowledgeAlarm objectId state =>
    cases moved
    have cleared : Recorded { system with engine := system.engine.cleared } :=
      ⟨recorded.filed, recorded.agree⟩
    exact cleared.acknowledge objectId state keeps
  | cycle now =>
    dsimp only [AlarmSystem.step] at moved
    split at moved
    · cases moved
    · cases moved
      have kept := @evaluateCycle_keeps _ system.engine now _
        (fun engine => AllBitsAgree engine.db (entries engine.reports ++ system.history))
        (fun _ _ => True) (ReportsCleared now)
        (fun agree _ enrollment _ ends => agree.evaluated enrollment.toListed
          (fun intrinsic => by
            rw [enrollment.objectType] at intrinsic
            exact absurd intrinsic (by decide)) ends)
        (fun agree _ intrinsic cleared ends => agree.evaluated intrinsic.toListed
          (fun _ => cleared) ends)
        recorded.filed recorded.agree keeps
      exact ⟨kept.2.filed, kept.1⟩

omit [EngineValues] [EventParameters] in
theorem recorded_empty : Recorded {} where
  filed := ObjectDatabase.filed_empty
  agree objectId ref obj found := by simp [ObjectDatabase.get] at found

/-- In every run in which objects enter with the bits of their history, acknowledgements can be
stored and reports find their bits cleared, the bits are those of the history.
-/
theorem acknowledgements_agree (registry : List ObjectClass) (events : List Event)
    (meets : Meets (step registry) (KeepsAcknowledgements registry) {} events)
    : Always (step registry) AcknowledgementsAgree {} events :=
  always_of_meets (fun recorded keeps moved => recorded.step keeps moved) Recorded.agree
    recorded_empty meets

end Runs

/-- A Binary Input that is not in alarm. -/
def createQuiet : Event :=
  .database (.createObject .binaryInput (some 1)
    [(.presentValue, .enum binaryPvEnum 0), (.alarmValue, .enum binaryPvEnum 1),
     (.ackedTransitions, .list [.bool true, .bool true, .bool true])])

/-- It is evaluated, and a state of it is acknowledged. -/
theorem acknowledgements_agree_quiet
    : Always (@step plainEngineValues noEventParameters [binaryInputObject]) AcknowledgementsAgree {}
        [createQuiet, .cycle 1, .acknowledgeAlarm ⟨.binaryInput, 1⟩ .fault] :=
  @acknowledgements_agree plainEngineValues noEventParameters [binaryInputObject]
    [createQuiet, .cycle 1, .acknowledgeAlarm ⟨.binaryInput, 1⟩ .fault] (by decide +kernel)

/-- A transition is reported, and its bit is not cleared. -/
theorem not_acknowledgements_agree
    : ¬ ∀ [EngineValues] [EventParameters] registry events,
      Always (step registry) AcknowledgementsAgree {} events := by
  intro always
  have differs : (run (@step plainEngineValues noEventParameters [binaryInputObject]) {}
      [createAlarmed, .cycle 1]).any (fun system =>
        (system.engine.db.get ⟨.binaryInput, 1⟩).any fun ref =>
          (system.engine.db.heap.get ref).any fun obj => ¬ BitsAgree system.history ref obj) := by
    decide +kernel
  obtain ⟨system, ran, differs⟩ := (Option.any_eq_true _ _).mp differs
  obtain ⟨ref, found, differs⟩ := (Option.any_eq_true _ _).mp differs
  obtain ⟨obj, stored, differs⟩ := (Option.any_eq_true _ _).mp differs
  have agree := always_iff_prefixes.mp
    (@always plainEngineValues noEventParameters [binaryInputObject] [createAlarmed, .cycle 1])
    [createAlarmed, .cycle 1] [] system (by simp) ran
  exact of_decide_eq_true differs (agree _ ref obj found stored)

end AlarmSystem

end BacPy

/-! Whether the engine honours Event_Enable and Limit_Enable as they are on the wire, in bit strings.
It looks for lists, so that a bit string leaves a machine with the bits it had.
-/

namespace BacPy

open Library EventEngine

namespace AlarmSystem

/-- A bit is 0, in a value that is a bit string. -/
def isZero (value : Value) (index : Nat) : Bool :=
  match value with
  | .bitString bits => (Value.bitsOf bits)[index]? = some false
  | _ => false

/-- The bits of an object allow a transition to a state. -/
structure Allows (obj : BACnetObject) (toState : EventState) : Prop where
  event : isZero (obj.get .eventEnable) toState.transitionIndex = false
  highLimit : toState = .highLimit → isZero (obj.get .limitEnable) 0 = false
  lowLimit : toState = .lowLimit → isZero (obj.get .limitEnable) 1 = false

theorem allows_iff {obj toState}
    : Allows obj toState ↔ isZero (obj.get .eventEnable) toState.transitionIndex = false
        ∧ (toState = .highLimit → isZero (obj.get .limitEnable) 0 = false)
        ∧ (toState = .lowLimit → isZero (obj.get .limitEnable) 1 = false) :=
  ⟨fun allows => ⟨allows.event, allows.highLimit, allows.lowLimit⟩,
    fun ⟨event, highLimit, lowLimit⟩ => ⟨event, highLimit, lowLimit⟩⟩

instance (obj : BACnetObject) (toState : EventState) : Decidable (Allows obj toState) :=
  decidable_of_iff' _ allows_iff

/-- Everything that the last cycle has reported is allowed by the bits of the object. -/
def EnableBitsHonoured (engine : EventEngine) : Prop :=
  ∀ report ∈ engine.reports, ∀ obj ∈ engine.db.heap.get report.1, Allows obj report.2.toState

instance (engine : EventEngine) : Decidable (EnableBitsHonoured engine) :=
  inferInstanceAs (Decidable (∀ report ∈ engine.reports, _))

theorem Allows.lasts {obj other toState} (allows : Allows obj toState)
    (event : BACnetObject.Lasts .eventEnable obj other)
    (limit : BACnetObject.Lasts .limitEnable obj other)
    : Allows other toState :=
  ⟨event.get ▸ allows.event, limit.get ▸ allows.highLimit, limit.get ▸ allows.lowLimit⟩

section Runs

variable [EngineValues] {engine after : EventEngine} {source : Source} {now : Float}

/-- The machine of an object is due no transition that the bits of the object forbid. -/
def DueAllowed (now : Float) (source : Source) (engine : EventEngine) : Prop :=
  ∀ transition ∈ source.move engine now, Allows source.obj transition.toState

instance (source : Source) (engine : EventEngine) : Decidable (DueAllowed now source engine) :=
  inferInstanceAs (Decidable (∀ transition ∈ source.move engine now, _))

/-- The step lemma: an evaluation that is allowed keeps all reports honoured. -/
theorem EnableBitsHonoured.evaluated (honoured : EnableBitsHonoured engine)
    (listed : source.Listed engine.db) (allowed : DueAllowed now source engine)
    (ends : Evaluated source now engine after)
    : EnableBitsHonoured after := by
  cases ends with
  | skipped | synced | fed => exact honoured
  | @reported machine moved inputs notification sync feeds reports eventState =>
    intro report member other stored
    dsimp only at member stored
    rw [ObjectDatabase.heap_modify] at stored
    have agrees (obj : BACnetObject)
        : BACnetObject.Agrees [.eventState, .eventTimeStamps] obj
            (source.store notification.toState notification.timeStamp obj) :=
      agrees_store ..
    have obj_ : ∃ obj, engine.db.heap.get report.1 = some obj
        ∧ BACnetObject.Lasts .eventEnable obj other
        ∧ BACnetObject.Lasts .limitEnable obj other := by
      split at stored
      · next same =>
          obtain ⟨obj, there, rfl⟩ := Option.map_eq_some_iff.mp stored
          exact ⟨obj, same ▸ there, BACnetObject.lasts_of_agrees (agrees obj) (by decide),
            BACnetObject.lasts_of_agrees (agrees obj) (by decide)⟩
      · exact ⟨other, stored, .refl other, .refl other⟩
    obtain ⟨obj, there, event, limit⟩ := obj_
    rcases List.mem_cons.mp member with rfl | old
    · obtain ⟨transition, move, same⟩ := move_of_report reports
      cases listed.stored.symm.trans there
      have allows : Allows source.obj notification.toState := same ▸ allowed transition move
      exact allows.lasts event limit
    · exact (honoured report old obj there).lasts event limit

variable [EventParameters] {system next : AlarmSystem} {registry : List ObjectClass}

/-- The steps that do not reach a defect: cycles in which nothing forbidden is due. -/
def KeepsBits (_registry : List ObjectClass) (system : AlarmSystem) : Event → Prop
  | .cycle now => InCycle (DueAllowed now) (DueAllowed now) now system.engine
  | _ => True

instance (system : AlarmSystem) : (event : Event) → Decidable (KeepsBits registry system event)
  | .database _ | .acknowledgeAlarm .. => inferInstanceAs (Decidable True)
  | .cycle now => inferInstanceAs (Decidable (InCycle _ _ now _))

/-- The database is in order, and what was reported is allowed. -/
structure Honest (system : AlarmSystem) : Prop where
  filed : system.engine.db.Filed
  honoured : EnableBitsHonoured system.engine

/-- Every step that meets the condition, one case for each kind of it. -/
theorem Honest.step (honest : system.Honest) {event} (keeps : KeepsBits registry system event)
    (moved : system.step registry event = some next)
    : next.Honest := by
  cases event with
  | database event =>
    obtain ⟨db, stepped, rfl⟩ := Option.map_eq_some_iff.mp moved
    exact ⟨honest.filed.step stepped, fun report member => nomatch member⟩
  | acknowledgeAlarm objectId state =>
    cases moved
    unfold handleAcknowledgeAlarm
    dsimp only [EventEngine.cleared]
    cases system.engine.db.get objectId with
    | none => exact ⟨honest.filed, fun report member => nomatch member⟩
    | some ref =>
      have lasting := @lasting_acknowledge system.engine.db .objectName (by decide) ref state
      exact ⟨honest.filed.of_lasting (by simp) (by simp) lasting,
        fun report member => nomatch member⟩
  | cycle now =>
    dsimp only [AlarmSystem.step] at moved
    split at moved
    · cases moved
    · cases moved
      have kept := @evaluateCycle_keeps _ system.engine now _ EnableBitsHonoured
        (DueAllowed now) (DueAllowed now)
        (fun honoured _ enrollment allowed ends =>
          honoured.evaluated enrollment.toListed allowed ends)
        (fun honoured _ intrinsic allowed ends =>
          honoured.evaluated intrinsic.toListed allowed ends)
        honest.filed (fun report member => nomatch member) keeps
      exact ⟨kept.2.filed, kept.1⟩

omit [EngineValues] [EventParameters] in
theorem honest_empty : Honest {} where
  filed := ObjectDatabase.filed_empty
  honoured _ member := nomatch member

end Runs

def writeEventEnable (octet : UInt8) : Event :=
  .database (.writeProperty 0 .eventEnable (.bitString { data := [octet], unusedBits := 5 })
    none none 0)

end AlarmSystem

end BacPy
