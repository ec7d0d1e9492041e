import BacPy.App.EventEvaluation
import BacPy.Services.AlarmSummary

/-! `handle_get_enrollment_summary` (Clause 13.7): which Event Enrollment objects are listed, and with
what.
-/

namespace BacPy

open Library

namespace ObjectDatabase

def enrollments (db : ObjectDatabase) : List BACnetObject :=
  (db.getObjectsOfType .eventEnrollment).filterMap db.heap.get

/-- A list of items found by keys has no more keys than it was made from. -/
theorem map_filterMap_sublist {Key Item : Type} {find : Key → Option Item} {keyOf : Item → Key}
    (found : ∀ key item, find key = some item → keyOf item = key) (keys : List Key)
    : ((keys.filterMap find).map keyOf).Sublist keys := by
  induction keys with
  | nil => exact .slnil
  | cons key rest ih =>
    cases present : find key with
    | none =>
      rw [List.filterMap_cons_none present]
      exact ih.cons key
    | some item =>
      rw [List.filterMap_cons_some present, List.map_cons, found key item present]
      exact ih.cons_cons key

/-- The objects of a type have different identifiers: they are the keys of its bucket. -/
theorem enrollments_apart {db : ObjectDatabase} (filed : db.Filed)
    : (db.enrollments.map BACnetObject.objectId).Nodup := by
  unfold enrollments getObjectsOfType
  cases present : db.typeIndex.get .eventEnrollment with
  | none => exact List.nodup_nil
  | some bucket =>
    dsimp only
    rw [List.filterMap_filterMap]
    refine List.Nodup.sublist (map_filterMap_sublist ?_ _) (List.nodup_reverse.mpr bucket.entries.nodupKeys)
    intro objectId obj found
    obtain ⟨ref, listed, stored⟩ := Option.bind_eq_some_iff.mp found
    obtain ⟨other, there, identifier⟩ :=
      filed.here objectId ref (filed.get_of_bucket present listed).2
    cases there.symm.trans stored
    exact identifier

end ObjectDatabase

/-- Items that carry the names of what they were made from: those of a name are what it was made to. -/
theorem filter_filterMap_of_apart {Source Item Name : Type} [DecidableEq Name]
    {make : Source → Option Item} {nameOf : Item → Name} {name : Source → Name}
    (named : ∀ source item, make source = some item → nameOf item = name source)
    {sources : List Source} (apart : (sources.map name).Nodup) {source} (member : source ∈ sources)
    : (sources.filterMap make).filter (nameOf · = name source) = (make source).toList := by
  induction sources with
  | nil => cases member
  | cons first rest ih =>
    obtain ⟨absent, apart⟩ := List.nodup_cons.mp apart
    have others : ∀ other ∈ rest, name other ≠ name first := fun other listed same =>
      absent (same ▸ List.mem_map_of_mem listed)
    rcases List.mem_cons.mp member with rfl | listed
    · have none_left : (rest.filterMap make).filter (nameOf · = name source) = [] := by
        rw [List.filter_eq_nil_iff]
        intro item made
        obtain ⟨other, listed, makes⟩ := List.mem_filterMap.mp made
        rw [named other item makes, decide_eq_true_eq]
        exact others other listed
      cases made : make source with
      | none => rw [List.filterMap_cons_none made, none_left]; rfl
      | some item =>
        rw [List.filterMap_cons_some made, List.filter_cons_of_pos (by simp [named _ _ made]),
          none_left]
        rfl
    · rw [← ih apart listed]
      cases made : make first with
      | none => rw [List.filterMap_cons_none made]
      | some item =>
        rw [List.filterMap_cons_some made, List.filter_cons_of_neg]
        rw [named _ _ made, decide_eq_true_eq]
        exact (others source listed).symm

namespace GetEnrollmentSummaryRequest

open ObjectDatabase

/-- `type(value)`, with the member for a property that is not set, unless it raises a ValueError. -/
def memberOf (type : EnumType) (unset : type.Member) (value : Value) : Option type.Member :=
  match value.normal with
  | .none => some unset
  | .int number => if 0 ≤ number then (Decoder.member type number.toNat).toOption else none
  | _ => none

def eventTypeOf (obj : BACnetObject) : Option eventTypeEnum.Member :=
  memberOf eventTypeEnum ⟨2, by decide⟩ (obj.get .eventType)

def eventStateOf (obj : BACnetObject) : Option eventStateEnum.Member :=
  memberOf eventStateEnum ⟨0, by decide⟩ (obj.get .eventState)

def notificationClassOf (obj : BACnetObject) : Value := (obj.stored .notificationClass).getD (.int 0)

/-- What `encode_unsigned` takes. -/
def unsignedOf (value : Value) : Except Raised Nat :=
  match value.asInt? with
  | some number =>
    if 0 ≤ number ∧ number ≤ 0xFFFFFFFF then .ok number.toNat
    else .error (.builtin (.valueError "Unsigned integer out of range"))
  | none => .error (.typeError "not an integer")

/-- The acknowledgment filter drops an object by a list. -/
def dropsAcked (request : GetEnrollmentSummaryRequest) (acked : Value) : Bool :=
  match acked.asList? with
  | some items =>
    3 ≤ items.length ∧ (request.acknowledgmentFilter.number = 1 ∧ ¬ items.all Value.truthy
      ∨ request.acknowledgmentFilter.number = 2 ∧ items.all Value.truthy)
  | none => false

/-- A filter is absent or equal to a value. -/
def meetsFilter {Field : Type} [DecidableEq Field] (filter : Option Field) (value : Field) : Bool :=
  filter = none ∨ filter = some value

def meetsClassFilter (request : GetEnrollmentSummaryRequest) (number : Value) : Bool :=
  request.notificationClassFilter.all fun wanted => number.pyEq (.int wanted)

/-- A round of the loop: what it appends, which raises when it is encoded if the notification class
is no unsigned integer.
-/
def summarize (request : GetEnrollmentSummaryRequest) (obj : BACnetObject)
    : Option (Except Raised EnrollmentSummary) := do
  let eventType ← eventTypeOf obj
  let eventState ← eventStateOf obj
  if meetsFilter request.eventStateFilter eventState && meetsFilter request.eventTypeFilter eventType
      && request.meetsClassFilter (notificationClassOf obj)
      && !request.dropsAcked (obj.get .ackedTransitions) then
    some (do
      let notificationClass ← unsignedOf (notificationClassOf obj)
      .ok { objectIdentifier := obj.objectId, eventType, eventState, priority := 0, notificationClass })
  else none

/-- The summaries, as they are encoded one after the other. -/
def collect (request : GetEnrollmentSummaryRequest)
    : List BACnetObject → Except Raised (List EnrollmentSummary)
  | [] => .ok []
  | obj :: rest =>
    match request.summarize obj with
    | none => collect request rest
    | some entry => do
        let summary ← entry
        let summaries ← collect request rest
        .ok (summary :: summaries)

/-- `handle_get_enrollment_summary`, after the request has been decoded. -/
def handle (db : ObjectDatabase) (request : GetEnrollmentSummaryRequest)
    : Except Raised GetEnrollmentSummaryACK := do
  let listOfEnrollmentSummaries ← collect request db.enrollments
  .ok { listOfEnrollmentSummaries }

variable {request : GetEnrollmentSummaryRequest} {obj : BACnetObject}

/-- The filters that the loop looks at: a state or a type that cannot be read drops an object too. -/
def Drops (request : GetEnrollmentSummaryRequest) (obj : BACnetObject) : Prop :=
  eventTypeOf obj = none ∨ eventStateOf obj = none
    ∨ (∃ wanted ∈ request.eventStateFilter, eventStateOf obj ≠ some wanted)
    ∨ (∃ wanted ∈ request.eventTypeFilter, eventTypeOf obj ≠ some wanted)
    ∨ request.meetsClassFilter (notificationClassOf obj) = false
    ∨ request.dropsAcked (obj.get .ackedTransitions) = true

theorem meetsFilter_eq_false_iff {Field : Type} [DecidableEq Field] {filter : Option Field} {value}
    : meetsFilter filter value = false ↔ ∃ wanted ∈ filter, some value ≠ some wanted := by
  cases filter <;> simp [meetsFilter, eq_comm]

/-- A round drops an object, or appends what is encoded with priority 0. -/
theorem summarize_cases (request : GetEnrollmentSummaryRequest) (obj : BACnetObject)
    : request.Drops obj ∧ request.summarize obj = none
      ∨ ¬ request.Drops obj ∧ ∃ eventType eventState, eventTypeOf obj = some eventType
        ∧ eventStateOf obj = some eventState
        ∧ request.summarize obj = some ((unsignedOf (notificationClassOf obj)).map fun number =>
            { objectIdentifier := obj.objectId, eventType, eventState, priority := 0,
              notificationClass := number }) := by
  unfold summarize Drops
  cases typed : eventTypeOf obj with
  | none => exact .inl ⟨.inl rfl, rfl⟩
  | some eventType =>
    cases stated : eventStateOf obj with
    | none => exact .inl ⟨.inr (.inl rfl), rfl⟩
    | some eventState =>
      simp only [← meetsFilter_eq_false_iff, Option.bind_eq_bind, Option.bind_some, reduceCtorEq,
        false_or]
      cases meetsFilter request.eventStateFilter eventState <;>
        cases meetsFilter request.eventTypeFilter eventType <;>
        cases request.meetsClassFilter (notificationClassOf obj) <;>
        cases request.dropsAcked (obj.get .ackedTransitions) <;> simp
      rfl

/-- The summary that is listed for an object, if it can be encoded. -/
def listed? (request : GetEnrollmentSummaryRequest) (obj : BACnetObject) : Option EnrollmentSummary :=
  (request.summarize obj).bind Except.toOption

/-- The loop succeeds exactly if everything that passes can be encoded, by induction on the objects. -/
theorem collect_eq_ok_iff {objs : List BACnetObject} {summaries}
    : collect request objs = .ok summaries
      ↔ (∀ obj ∈ objs, ∀ entry, request.summarize obj = some entry → ∃ summary, entry = .ok summary)
        ∧ summaries = objs.filterMap request.listed? := by
  induction objs generalizing summaries with
  | nil => simp [collect, eq_comm]
  | cons obj rest ih =>
    unfold collect
    cases passed : request.summarize obj with
    | none => simp [ih, passed, listed?]
    | some entry =>
      cases entry with
      | error raised => simp [passed, bind, Except.bind]
      | ok summary =>
        have kept : request.listed? obj = some summary := by simp [listed?, passed, Except.toOption]
        rw [List.filterMap_cons_some kept]
        constructor
        · intro succeeded
          cases collected : collect request rest with
          | error raised => simp [collected, bind, Except.bind] at succeeded
          | ok others =>
            obtain ⟨each, rfl⟩ := ih.mp collected
            simp only [collected, bind, Except.bind, Except.ok.injEq] at succeeded
            refine ⟨fun other member => ?_, succeeded.symm⟩
            rcases List.mem_cons.mp member with rfl | later
            · intro entry found
              exact ⟨summary, (Option.some.inj (passed.symm.trans found)).symm⟩
            · exact each other later
        · rintro ⟨each, rfl⟩
          have collected : collect request rest = .ok (rest.filterMap request.listed?) :=
            ih.mpr ⟨fun other later => each other (List.mem_cons_of_mem _ later), rfl⟩
          simp only [collected, bind, Except.bind]

theorem listed?_eq_some_iff {summary}
    : request.listed? obj = some summary ↔ request.summarize obj = some (.ok summary) := by
  unfold listed?
  cases request.summarize obj with
  | none => simp
  | some entry => cases entry <;> simp [Except.toOption]

theorem objectIdentifier_listed {summary} (listed : request.listed? obj = some summary)
    : summary.objectIdentifier = obj.objectId := by
  unfold listed? at listed
  rcases summarize_cases request obj with ⟨_, dropped⟩ | ⟨_, _, _, _, _, kept⟩
  · simp [dropped] at listed
  · rw [kept, Option.bind_some] at listed
    cases encoded : unsignedOf (notificationClassOf obj) with
    | error raised => simp [encoded, Except.toOption, Except.map] at listed
    | ok number =>
      rw [encoded] at listed
      cases listed
      rfl

theorem pyEq_of_unsigned {value number} (read : (unsignedOf value).toOption = some number)
    : value.pyEq (.int number) = true := by
  unfold unsignedOf at read
  cases whole : value.asInt? with
  | none => simp [whole, Except.toOption] at read
  | some integer =>
    rw [whole] at read
    dsimp only at read
    split at read
    · next inRange =>
        have same : integer = number := by
          have := Option.some.inj read
          omega
        subst same
        cases value with
        | list items => cases whole
        | scalar inner =>
          cases inner <;> simp only [Value.asInt?, Option.some.injEq, reduceCtorEq] at whole <;>
            simp [Value.pyEq, Value.isNan, Value.asFloat?, Value.normal, whole]
    · cases read

theorem handle_eq_ok_iff {db : ObjectDatabase} {ack}
    : handle db request = .ok ack
      ↔ (∀ obj ∈ db.enrollments, ∀ entry,
          request.summarize obj = some entry → ∃ summary, entry = .ok summary)
        ∧ ack.listOfEnrollmentSummaries = db.enrollments.filterMap request.listed? := by
  rw [← collect_eq_ok_iff]
  unfold handle
  cases collect request db.enrollments with
  | error raised => simp [bind, Except.bind]
  | ok summaries =>
    simp only [bind, Except.bind, Except.ok.injEq]
    exact ⟨fun same => by rw [← same], fun same => by rw [same]⟩

-- What is promised

/-- What an Event Enrollment object has to say for itself, as far as it can be read. -/
structure Enrollment where
  eventType : Option eventTypeEnum.Member
  eventState : Option eventStateEnum.Member
  notificationClass : Option Nat
  priority : Option Nat
  /-- all transitions are acknowledged -/
  acked : Option Bool

/-- Three or more flags, in either representation. -/
def ackedOf : Value → Option Bool
  | .list items => if 3 ≤ items.length then some (items.all Value.truthy) else none
  | .bitString bits =>
    if 3 ≤ (Value.bitsOf bits).length then some ((Value.bitsOf bits).all id) else none
  | _ => none

section Promised

variable [EngineValues]

/-- The priority that a notification of the class has for a transition to the state. -/
def priorityOf (db : ObjectDatabase) (number : Nat) (state : eventStateEnum.Member) : Option Nat := do
  let state ← EventState.ofValue? (.enum eventStateEnum state.number)
  let priority ← (EventEngine.getPriority db (.int number) state).toOption
  if 0 ≤ priority then some priority.toNat else none

def enrollmentOf (db : ObjectDatabase) (obj : BACnetObject) : Enrollment where
  eventType := eventTypeOf obj
  eventState := eventStateOf obj
  notificationClass := (unsignedOf (notificationClassOf obj)).toOption
  priority := do
    let number ← (unsignedOf (notificationClassOf obj)).toOption
    let state ← eventStateOf obj
    priorityOf db number state
  acked := ackedOf (obj.get .ackedTransitions)

/-- All filters that are present are satisfied. -/
structure Accepts (request : GetEnrollmentSummaryRequest) (enrollment : Enrollment) : Prop where
  acked : request.acknowledgmentFilter.number = 1 → enrollment.acked = some true
  notAcked : request.acknowledgmentFilter.number = 2 → enrollment.acked = some false
  eventState : ∀ wanted ∈ request.eventStateFilter, enrollment.eventState = some wanted
  eventType : ∀ wanted ∈ request.eventTypeFilter, enrollment.eventType = some wanted
  priorityMin : ∀ least ∈ request.priorityMin, ∃ priority ∈ enrollment.priority, least ≤ priority
  priorityMax : ∀ most ∈ request.priorityMax, ∃ priority ∈ enrollment.priority, priority ≤ most
  notificationClass : ∀ wanted ∈ request.notificationClassFilter,
    enrollment.notificationClass = some wanted

def ownSummary (db : ObjectDatabase) (obj : BACnetObject) : Option EnrollmentSummary := do
  let enrollment := enrollmentOf db obj
  let eventType ← enrollment.eventType
  let eventState ← enrollment.eventState
  let priority ← enrollment.priority
  let notificationClass ← enrollment.notificationClass
  some { objectIdentifier := obj.objectId, eventType, eventState, priority, notificationClass }

/-- The acknowledgement lists exactly the Event Enrollment objects that satisfy all filters, each once
and with its own summary.
-/
def Honours (db : ObjectDatabase) (request : GetEnrollmentSummaryRequest) : Prop :=
  ∃ ack, handle db request = .ok ack
    ∧ (∀ obj ∈ db.enrollments,
        let listed := ack.listOfEnrollmentSummaries.filter (·.objectIdentifier = obj.objectId)
        (request.Accepts (enrollmentOf db obj) → ∃ summary, ownSummary db obj = some summary
            ∧ listed = [summary])
          ∧ (¬ request.Accepts (enrollmentOf db obj) → listed = []))
    ∧ ∀ summary ∈ ack.listOfEnrollmentSummaries,
        ∃ obj ∈ db.enrollments, obj.objectId = summary.objectIdentifier

/-- What satisfies all filters can be read and has priority 0, and what does not is dropped by a filter
other than the priority range and the acknowledgement in a bit string.
-/
def Plain (db : ObjectDatabase) (request : GetEnrollmentSummaryRequest) (obj : BACnetObject) : Prop :=
  let enrollment := enrollmentOf db obj
  (request.Accepts enrollment → enrollment.eventType.isSome ∧ enrollment.eventState.isSome
      ∧ enrollment.notificationClass.isSome ∧ enrollment.priority = some 0)
    ∧ (¬ request.Accepts enrollment → request.Drops obj)

variable {db : ObjectDatabase}

theorem ownSummary_eq_some_iff {summary}
    : ownSummary db obj = some summary
      ↔ eventTypeOf obj = some summary.eventType ∧ eventStateOf obj = some summary.eventState
        ∧ (enrollmentOf db obj).priority = some summary.priority
        ∧ (unsignedOf (notificationClassOf obj)).toOption = some summary.notificationClass
        ∧ summary.objectIdentifier = obj.objectId := by
  simp only [ownSummary, Option.bind_eq_bind, Option.bind_eq_some_iff, Option.some.injEq]
  constructor
  · rintro ⟨eventType, typed, eventState, stated, priority, ranked, number, classed, rfl⟩
    exact ⟨typed, stated, ranked, classed, rfl⟩
  · rintro ⟨typed, stated, ranked, classed, same⟩
    refine ⟨_, typed, _, stated, _, ranked, _, classed, ?_⟩
    rw [← same]

/-- What satisfies all filters is dropped by none, if its type and its state can be read. -/
theorem not_drops_of_accepts (accepts : request.Accepts (enrollmentOf db obj))
    (typed : (eventTypeOf obj).isSome) (stated : (eventStateOf obj).isSome)
    : ¬ request.Drops obj := by
  rintro (untyped | unstated | ⟨wanted, present, other⟩ | ⟨wanted, present, other⟩ | other | dropped)
  · simp [untyped] at typed
  · simp [unstated] at stated
  · exact other (accepts.eventState wanted present)
  · exact other (accepts.eventType wanted present)
  · cases wanted : request.notificationClassFilter with
    | none => simp [meetsClassFilter, wanted] at other
    | some number =>
      have same := pyEq_of_unsigned (accepts.notificationClass number wanted)
      simp [meetsClassFilter, wanted, same] at other
  · cases acked : obj.get .ackedTransitions with
    | scalar value => simp [dropsAcked, acked, Value.asList?] at dropped
    | list items =>
      have both := accepts.acked
      have neither := accepts.notAcked
      simp only [enrollmentOf, ackedOf, acked] at both neither
      simp only [dropsAcked, acked, Value.asList?_list, decide_eq_true_eq] at dropped
      obtain ⟨many, ⟨wanted, other⟩ | ⟨wanted, other⟩⟩ := dropped
      · exact other (by simpa [many] using both wanted)
      · simpa [many, other] using neither wanted

/-- What the loop does with an object, as it is promised. -/
def Agrees (db : ObjectDatabase) (request : GetEnrollmentSummaryRequest) (obj : BACnetObject) : Prop :=
  (request.Accepts (enrollmentOf db obj) → ∃ summary, ownSummary db obj = some summary
      ∧ request.summarize obj = some (.ok summary))
    ∧ (¬ request.Accepts (enrollmentOf db obj) → request.summarize obj = none)

theorem agrees_iff_plain : Agrees db request obj ↔ Plain db request obj := by
  by_cases accepts : request.Accepts (enrollmentOf db obj)
  · simp only [Agrees, Plain, accepts, true_imp_iff, not_true_eq_false, false_imp_iff, and_true]
    constructor
    · rintro ⟨summary, own, made⟩
      obtain ⟨typed, stated, ranked, classed, _⟩ := ownSummary_eq_some_iff.mp own
      refine ⟨by simp [enrollmentOf, typed], by simp [enrollmentOf, stated],
        by simp [enrollmentOf, classed], ?_⟩
      rcases summarize_cases request obj with ⟨_, dropped⟩ | ⟨_, _, _, _, _, kept⟩
      · rw [dropped] at made
        cases made
      · cases read : unsignedOf (notificationClassOf obj) with
        | error raised => simp [kept, read, Except.map] at made
        | ok number =>
          rw [kept, read] at made
          cases made
          exact ranked
    · rintro ⟨typed, stated, classed, ranked⟩
      rcases summarize_cases request obj with ⟨drops, _⟩ | ⟨_, _, _, type, state, made⟩
      · exact absurd drops (not_drops_of_accepts accepts typed stated)
      · cases read : unsignedOf (notificationClassOf obj) with
        | error raised => simp [enrollmentOf, read, Except.toOption] at classed
        | ok number =>
          rw [read] at made
          exact ⟨_, ownSummary_eq_some_iff.mpr ⟨type, state, ranked, by rw [read]; rfl, rfl⟩, made⟩
  · simp only [Agrees, Plain, accepts, false_imp_iff, not_false_eq_true, true_imp_iff, true_and]
    rcases summarize_cases request obj with ⟨drops, dropped⟩ | ⟨kept, eventType, eventState, _, _, made⟩
    · simp [drops, dropped]
    · simp [kept, made]

/-- For every database and every request, the acknowledgement honours all filters exactly if every
Event Enrollment object is plain.
-/
theorem honours_iff (filed : db.Filed) (request : GetEnrollmentSummaryRequest)
    : Honours db request ↔ ∀ obj ∈ db.enrollments, Plain db request obj := by
  have exactly (obj) (member : obj ∈ db.enrollments) :=
    @filter_filterMap_of_apart _ _ _ _ request.listed? EnrollmentSummary.objectIdentifier _
      (fun _ _ => objectIdentifier_listed) _ (enrollments_apart filed) _ member
  constructor
  · rintro ⟨ack, handled, each, _⟩ obj member
    obtain ⟨encoded, same⟩ := handle_eq_ok_iff.mp handled
    obtain ⟨accepted, refused⟩ := each obj member
    rw [same, exactly obj member] at accepted refused
    refine agrees_iff_plain.mp ⟨fun accepts => ?_, fun refuses => ?_⟩
    · obtain ⟨summary, own, listed⟩ := accepted accepts
      exact ⟨summary, own, listed?_eq_some_iff.mp (Option.toList_eq_singleton_iff.mp listed)⟩
    · have absent := Option.toList_eq_nil_iff.mp (refused refuses)
      by_contra made
      obtain ⟨entry, made⟩ := Option.ne_none_iff_exists'.mp made
      obtain ⟨summary, rfl⟩ := encoded obj member entry made
      simp [listed?_eq_some_iff.mpr made] at absent
  · intro plain
    have agrees (obj) (member : obj ∈ db.enrollments) := agrees_iff_plain.mpr (plain obj member)
    refine ⟨{ listOfEnrollmentSummaries := db.enrollments.filterMap request.listed? },
      handle_eq_ok_iff.mpr ⟨fun obj member entry made => ?_, rfl⟩, fun obj member => ?_,
      fun summary listed => ?_⟩
    · by_cases accepts : request.Accepts (enrollmentOf db obj)
      · obtain ⟨summary, _, made'⟩ := (agrees obj member).1 accepts
        exact ⟨summary, Option.some.inj (made.symm.trans made')⟩
      · cases made.symm.trans ((agrees obj member).2 accepts)
    · dsimp only
      rw [exactly obj member]
      refine ⟨fun accepts => ?_, fun refuses => ?_⟩
      · obtain ⟨summary, own, made⟩ := (agrees obj member).1 accepts
        exact ⟨summary, own, by rw [listed?_eq_some_iff.mpr made]; rfl⟩
      · simp [listed?, (agrees obj member).2 refuses]
    · obtain ⟨obj, member, made⟩ := List.mem_filterMap.mp listed
      exact ⟨obj, member, (objectIdentifier_listed made).symm⟩

end Promised

/-- A class, as far as the handler looks at its objects. -/
def classOf (objectType : ObjectType) : ObjectClass where
  objectType
  propertyDefinitions := []
  valueDeclared := fun declared => absurd rfl declared

/-- An Event Enrollment and its Notification Class, where all priorities are 100. -/
def ranked : List Event :=
  let acked := Value.list [.bool true, .bool true, .bool true]
  [.constructed (classOf .eventEnrollment) 1
     [(.objectName, .str "EE-1"), (.eventType, .enum eventTypeEnum 5), (.notificationClass, .int 1),
      (.ackedTransitions, acked)],
   .add 0,
   .constructed (classOf .notificationClass) 1
     [(.objectName, .str "NC-1"), (.priority, .list [.int 100, .int 100, .int 100])],
   .add 1]

def upTo (priorityMax : Nat) : GetEnrollmentSummaryRequest where
  acknowledgmentFilter := ⟨0, by decide⟩
  priorityMin := some 0
  priorityMax

theorem honours_iff_ranked
    : ∃ db, run (step []) {} ranked = some db
      ∧ (@Honours plainEngineValues db (upTo 50)
        ↔ ∀ obj ∈ db.enrollments, @Plain plainEngineValues db (upTo 50) obj) := by
  cases ran : run (step []) {} ranked with
  | none => exact absurd ran (by decide +kernel)
  | some db =>
    have filed : db.Filed :=
      invariant_run (fun {_ _ _} filed _ moved => Filed.step filed moved) filed_empty
        (meets_of_forall fun _ _ => trivial) ran
    exact ⟨db, rfl, @honours_iff plainEngineValues db filed (upTo 50)⟩

/-- An object of priority 100 is listed among those of priorities up to 50. -/
theorem priority_ignored
    : ∃ db, run (step []) {} ranked = some db ∧ ¬ @Honours plainEngineValues db (upTo 50) := by
  let _ := plainEngineValues
  have listed : (run (step []) {} ranked).map (fun db =>
      (handle db (upTo 50)).toOption.map fun ack =>
        ack.listOfEnrollmentSummaries.map EnrollmentSummary.objectIdentifier)
      = some (some [⟨.eventEnrollment, 1⟩]) := by
    decide +kernel
  have priorities : (run (step []) {} ranked).map (fun db => db.enrollments.map fun obj =>
      (obj.objectId, (enrollmentOf db obj).priority))
      = some [(⟨.eventEnrollment, 1⟩, some 100)] := by
    decide +kernel
  cases ran : run (step []) {} ranked with
  | none => simp [ran] at listed
  | some db =>
    rw [ran, Option.map_some, Option.some.injEq] at listed priorities
    refine ⟨db, rfl, ?_⟩
    rintro ⟨ack, handled, each, _⟩
    obtain ⟨obj, others, only⟩ : ∃ obj rest, db.enrollments = obj :: rest := by
      cases present : db.enrollments <;> simp [present] at priorities
      exact ⟨_, _, rfl⟩
    simp only [only, List.map_cons, List.cons.injEq, Prod.mk.injEq] at priorities
    have refused : ¬ (upTo 50).Accepts (enrollmentOf db obj) := by
      intro accepts
      obtain ⟨priority, known, low⟩ := accepts.priorityMax 50 rfl
      rw [priorities.1.2] at known
      cases known
      omega
    have dropped := List.filter_eq_nil_iff.mp ((each obj (by simp [only])).2 refused)
    simp only [handled, Except.toOption, Option.map_some, Option.some.injEq] at listed
    obtain ⟨summary, member, same⟩ := List.mem_map.mp
      (listed ▸ List.mem_singleton_self (⟨.eventEnrollment, 1⟩ : ObjectIdentifier))
    exact dropped summary member (by rw [same, priorities.1.1]; decide)

end GetEnrollmentSummaryRequest

end BacPy
