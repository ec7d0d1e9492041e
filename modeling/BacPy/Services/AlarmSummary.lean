import BacPy.Objects.Classes
import BacPy.Services.Fields

/-! The alarm and enrollment query services (Clause 13.6, 13.7 and 13.12). The summaries of the first
two are flat runs of application-tagged values, cut only by position.
-/

namespace BacPy

open Library

/-- `EventType` -/
def eventTypeEnum : EnumType where
  name := "EventType"
  members := [0, 1, 2, 3, 4, 5, 8, 9, 10, 11, 13, 14, 15, 16, 17, 18, 19, 20, 21, 22]

/-- `AcknowledgmentFilter` -/
def acknowledgmentFilterEnum : EnumType := { name := "AcknowledgmentFilter", members := [0, 1, 2] }

-- GetAlarmSummary

structure AlarmSummary where
  objectIdentifier : ObjectIdentifier
  alarmState : eventStateEnum.Member
  acknowledgedTransitions : BitString

namespace AlarmSummary

/-- An entry of `GetAlarmSummaryACK.encode`. -/
def encode (summary : AlarmSummary) : Except PyException Bytes :=
  joined [
    encodeApplicationObjectId summary.objectIdentifier,
    encodeApplicationEnumerated summary.alarmState.number,
    encodeApplicationBitString summary.acknowledgedTransitions
  ]

/-- A round of the loop of `GetAlarmSummaryACK.decode`. -/
def decode : Decoder AlarmSummary := do
  let objectIdentifier ← .objectIdentifier
  let alarmState ← .enumerated eventStateEnum
  let acknowledgedTransitions ← .bitString
  pure { objectIdentifier, alarmState, acknowledgedTransitions }

end AlarmSummary

structure GetAlarmSummaryACK where
  listOfAlarmSummaries : List AlarmSummary

namespace GetAlarmSummaryACK

def encode (ack : GetAlarmSummaryACK) : Except PyException Bytes :=
  joined (ack.listOfAlarmSummaries.map AlarmSummary.encode)

def decode : Decoder GetAlarmSummaryACK := do
  let listOfAlarmSummaries ← .itemsToEnd AlarmSummary.decode
  pure { listOfAlarmSummaries }

end GetAlarmSummaryACK

-- GetEnrollmentSummary

structure EnrollmentSummary where
  objectIdentifier : ObjectIdentifier
  eventType : eventTypeEnum.Member
  eventState : eventStateEnum.Member
  priority : Nat
  notificationClass : Nat

namespace EnrollmentSummary

/-- An entry of `GetEnrollmentSummaryACK.encode`. -/
def encode (summary : EnrollmentSummary) : Except PyException Bytes :=
  joined [
    encodeApplicationObjectId summary.objectIdentifier,
    encodeApplicationEnumerated summary.eventType.number,
    encodeApplicationEnumerated summary.eventState.number,
    encodeApplicationUnsigned summary.priority,
    encodeApplicationUnsigned summary.notificationClass
  ]

/-- A round of the loop of `GetEnrollmentSummaryACK.decode`. -/
def decode : Decoder EnrollmentSummary := do
  let objectIdentifier ← .objectIdentifier
  let eventType ← .enumerated eventTypeEnum
  let eventState ← .enumerated eventStateEnum
  let priority ← .unsigned
  let notificationClass ← .unsigned
  pure { objectIdentifier, eventType, eventState, priority, notificationClass }

end EnrollmentSummary

structure GetEnrollmentSummaryACK where
  listOfEnrollmentSummaries : List EnrollmentSummary

namespace GetEnrollmentSummaryACK

def encode (ack : GetEnrollmentSummaryACK) : Except PyException Bytes :=
  joined (ack.listOfEnrollmentSummaries.map EnrollmentSummary.encode)

def decode : Decoder GetEnrollmentSummaryACK := do
  let listOfEnrollmentSummaries ← .itemsToEnd EnrollmentSummary.decode
  pure { listOfEnrollmentSummaries }

end GetEnrollmentSummaryACK

structure GetEnrollmentSummaryRequest where
  acknowledgmentFilter : acknowledgmentFilterEnum.Member
  eventStateFilter : Option eventStateEnum.Member := none
  eventTypeFilter : Option eventTypeEnum.Member := none
  priorityMin : Option Nat := none
  priorityMax : Option Nat := none
  notificationClassFilter : Option Nat := none

namespace GetEnrollmentSummaryRequest

/-- The priority range, if both bounds are set. -/
def encodePriority : Option Nat → Option Nat → Except PyException Bytes
  | some least, some greatest =>
    joined [
      .ok (encodeOpeningTag 4),
      encodeApplicationUnsigned least,
      encodeApplicationUnsigned greatest,
      .ok (encodeClosingTag 4)
    ]
  | _, _ => .ok []

/-- `GetEnrollmentSummaryRequest.encode`, which does not support an enrollment filter. -/
def encode (request : GetEnrollmentSummaryRequest) : Except PyException Bytes :=
  joined [
    encodeContextEnumerated 0 request.acknowledgmentFilter.number,
    encodeOptional (encodeContextEnumerated 2 ·.number) request.eventStateFilter,
    encodeOptional (encodeContextEnumerated 3 ·.number) request.eventTypeFilter,
    encodePriority request.priorityMin request.priorityMax,
    encodeContextOptional 5 request.notificationClassFilter
  ]

/-- An enrollment filter is skipped, up to its closing tag or the end of the octets. -/
def skipEnrollmentFilter : Decoder Unit := .of fun data offset =>
  if data.length ≤ offset then .ok ((), offset)
  else do
    let (tag, newOffset) ← decodeTag data offset
    if tag.cls = .context ∧ tag.number = 1 ∧ tag.isOpening = true then
      let (_, offset) ← scanToClosing none data newOffset
      .ok ((), offset)
    else .ok ((), offset)

/-- The priority range, if it comes next. -/
def decodePriority : Decoder (Option Nat × Option Nat) := do
  if ← .optionalOpening 4 then
    let priorityMin ← .unsigned
    let priorityMax ← .unsigned
    .closing 4 "Expected closing tag 4 for eventStateFilter"
    pure (some priorityMin, some priorityMax)
  else pure (none, none)

def decode : Decoder GetEnrollmentSummaryRequest := do
  let acknowledgmentFilter ← .enumerated acknowledgmentFilterEnum
  skipEnrollmentFilter
  let eventStateFilter ← .optionalContext 2 fun octets =>
    Decoder.member eventStateEnum (decodeUnsigned octets)
  let eventTypeFilter ← .optionalContext 3 fun octets =>
    Decoder.member eventTypeEnum (decodeUnsigned octets)
  let (priorityMin, priorityMax) ← decodePriority
  let notificationClassFilter ← .optionalContext 5 fun octets => .ok (decodeUnsigned octets)
  pure {
    acknowledgmentFilter
    eventStateFilter
    eventTypeFilter
    priorityMin
    priorityMax
    notificationClassFilter
  }

end GetEnrollmentSummaryRequest

-- GetEventInformation

/-- Three values, one for each transition of an event. -/
structure PerTransition (Value : Type) where
  toOffnormal : Value
  toFault : Value
  toNormal : Value

def PerTransition.Each {Value : Type} (values : PerTransition Value) (Property : Value → Prop)
    : Prop :=
  Property values.toOffnormal ∧ Property values.toFault ∧ Property values.toNormal

theorem PerTransition.Each.imp {Value : Type} {values : PerTransition Value}
    {Property Property' : Value → Prop} (each : values.Each Property)
    (more : ∀ value, Property value → Property' value)
    : values.Each Property' :=
  ⟨more _ each.1, more _ each.2.1, more _ each.2.2⟩

structure EventSummary where
  objectIdentifier : ObjectIdentifier
  eventState : eventStateEnum.Member
  acknowledgedTransitions : BitString
  eventTimeStamps : PerTransition BACnetTimeStamp
  notifyType : notifyTypeEnum.Member
  eventEnable : BitString
  eventPriorities : PerTransition Nat

namespace EventSummary

/-- `GetEventInformationACK._encode_event_summary` -/
def encode (summary : EventSummary) : Except PyException Bytes :=
  joined [
    encodeContextObjectId 0 summary.objectIdentifier,
    encodeContextEnumerated 1 summary.eventState.number,
    encodeContextTagged 2 (encodeBitString summary.acknowledgedTransitions),
    .ok (encodeOpeningTag 3),
    summary.eventTimeStamps.toOffnormal.encode,
    summary.eventTimeStamps.toFault.encode,
    summary.eventTimeStamps.toNormal.encode,
    .ok (encodeClosingTag 3),
    encodeContextEnumerated 4 summary.notifyType.number,
    encodeContextTagged 5 (encodeBitString summary.eventEnable),
    .ok (encodeOpeningTag 6),
    encodeApplicationUnsigned summary.eventPriorities.toOffnormal,
    encodeApplicationUnsigned summary.eventPriorities.toFault,
    encodeApplicationUnsigned summary.eventPriorities.toNormal,
    .ok (encodeClosingTag 6)
  ]

/-- Three values in a row, as in the loops over `range(3)`. -/
def decodeEach {Value : Type} (decoder : Decoder Value) : Decoder (PerTransition Value) := do
  let toOffnormal ← decoder
  let toFault ← decoder
  let toNormal ← decoder
  pure { toOffnormal, toFault, toNormal }

/-- `GetEventInformationACK._decode_event_summary` -/
def decode : Decoder EventSummary := do
  let objectIdentifier ← .objectIdentifier
  let eventState ← .enumerated eventStateEnum
  let acknowledgedTransitions ← .bitString
  .opening 3 "Expected opening tag 3 for eventTimeStamps"
  let eventTimeStamps ← decodeEach (.of BACnetTimeStamp.decode)
  .closing 3 "Expected closing tag 3 for eventTimeStamps"
  let notifyType ← .enumerated notifyTypeEnum
  let eventEnable ← .bitString
  .opening 6 "Expected opening tag 6 for eventPriorities"
  let eventPriorities ← decodeEach .unsigned
  .closing 6 "Expected closing tag 6 for eventPriorities"
  pure {
    objectIdentifier
    eventState
    acknowledgedTransitions
    eventTimeStamps
    notifyType
    eventEnable
    eventPriorities
  }

end EventSummary

structure GetEventInformationACK where
  listOfEventSummaries : List EventSummary
  moreEvents : Bool

namespace GetEventInformationACK

def encode (ack : GetEventInformationACK) : Except PyException Bytes :=
  joined [
    .ok (encodeOpeningTag 0),
    joined (ack.listOfEventSummaries.map EventSummary.encode),
    .ok (encodeClosingTag 0),
    encodeContextTagged 1 (encodeBoolean ack.moreEvents)
  ]

def decode : Decoder GetEventInformationACK := do
  .opening 0 "Expected opening tag 0 for listOfEventSummaries"
  let listOfEventSummaries ← .items 0 EventSummary.decode
  let moreEvents ← .boolean
  pure { listOfEventSummaries, moreEvents }

end GetEventInformationACK

-- Round trips

/-- A summary is read back in front of anything. -/
theorem AlarmSummary.carries (summary : AlarmSummary)
    (sane : summary.acknowledgedTransitions.data.length < 1048576)
    : CarriesField (Tag.IsApplication 12) summary.encode AlarmSummary.decode summary :=
  (carries_applicationObjectId summary.objectIdentifier).andThen
    ((carries_applicationEnumerated (by decide) summary.alarmState).andThen
      ((carries_applicationBitString sane).andThen (.nil summary)))

theorem GetAlarmSummaryACK.carries (ack) (few : ack.listOfAlarmSummaries.length < maxDecodedItems)
    (sane : ∀ summary ∈ ack.listOfAlarmSummaries,
      summary.acknowledgedTransitions.data.length < 1048576)
    : Carries (· = []) (fun _ => True) ack.encode GetAlarmSummaryACK.decode ack := by
  have each : ∀ summary ∈ ack.listOfAlarmSummaries, CarriesField (Tag.IsApplication 12)
      summary.encode AlarmSummary.decode summary :=
    fun summary listed => summary.carries (sane summary listed)
  exact (carries_itemsToEnd each few (fun _ _ => trivial) trivial).map GetAlarmSummaryACK.mk

def EnrollmentSummary.Fits (summary : EnrollmentSummary) : Prop :=
  summary.priority ≤ 0xFFFFFFFF ∧ summary.notificationClass ≤ 0xFFFFFFFF

theorem EnrollmentSummary.carries {summary} (fits : summary.Fits)
    : CarriesField (Tag.IsApplication 12) summary.encode EnrollmentSummary.decode summary :=
  (carries_applicationObjectId summary.objectIdentifier).andThen
    ((carries_applicationEnumerated (by decide) summary.eventType).andThen
      ((carries_applicationEnumerated (by decide) summary.eventState).andThen
        ((carries_applicationUnsigned fits.1).andThen
          ((carries_applicationUnsigned fits.2).andThen (.nil summary)))))

theorem GetEnrollmentSummaryACK.carries (ack)
    (few : ack.listOfEnrollmentSummaries.length < maxDecodedItems)
    (fits : ∀ summary ∈ ack.listOfEnrollmentSummaries, summary.Fits)
    : Carries (· = []) (fun _ => True) ack.encode GetEnrollmentSummaryACK.decode ack := by
  have each : ∀ summary ∈ ack.listOfEnrollmentSummaries, CarriesField (Tag.IsApplication 12)
      summary.encode EnrollmentSummary.decode summary :=
    fun summary listed => EnrollmentSummary.carries (fits summary listed)
  exact (carries_itemsToEnd each few (fun _ _ => trivial) trivial).map GetEnrollmentSummaryACK.mk

namespace GetEnrollmentSummaryRequest

/-- Both bounds of the priority are set or neither, and the numbers fit their encoding. -/
structure WellFormed (request : GetEnrollmentSummaryRequest) : Prop where
  together : request.priorityMin.isSome = request.priorityMax.isSome
  priorityMin : ∀ least ∈ request.priorityMin, least ≤ 0xFFFFFFFF
  priorityMax : ∀ greatest ∈ request.priorityMax, greatest ≤ 0xFFFFFFFF
  notificationClass : ∀ number ∈ request.notificationClassFilter, number ≤ 0xFFFFFFFF

theorem parses_noFilter {accepts} (other : ∀ tag, accepts tag → ¬ Tag.Opens 1 tag)
    : Parses (Next accepts) skipEnrollmentFilter [] () := by
  refine parses_nothing (fun data => ?_) fun data offset tag later inside accepted read => ?_
  · exact Decoder.of_run (if_pos (Nat.le_refl _))
  · apply Decoder.of_run
    rw [if_neg (Nat.not_le.mpr inside), read]
    refine if_neg fun opens => other tag accepted ⟨opens.1, opens.2.1, opens.2.2, ?_⟩
    exact (decodeTag_marked read).1 opens.2.2

/-- The priority range is only read where there is one. -/
theorem carries_priority {least greatest accepts} (together : least.isSome = greatest.isSome)
    (small : ∀ value ∈ least, value ≤ 0xFFFFFFFF) (small' : ∀ value ∈ greatest, value ≤ 0xFFFFFFFF)
    (other : ∀ tag, accepts tag → ¬ Tag.Opens 4 tag)
    : Carries (Next accepts) (Next fun tag => Tag.Opens 4 tag ∨ accepts tag)
        (encodePriority least greatest) decodePriority (least, greatest) := by
  rcases least with _ | least <;> rcases greatest with _ | greatest
  · exact ⟨[], rfl, (parses_noOpening other).bind (.pure _) fun _ next => next,
      fun _ next => next.mono fun _ => .inr⟩
  · cases together
  · cases together
  · have range : CarriesField (Tag.Opens 4) (encodePriority (some least) (some greatest))
        decodePriority (some least, some greatest) :=
      (carries_optionalOpening (by decide)).andThen
        ((carries_applicationUnsigned (small _ rfl)).andThen
          ((carries_applicationUnsigned (small' _ rfl)).andThen
            ((carries_closing (by decide) _).andThen (.nil _))))
    exact range.weaken (fun _ _ => trivial) fun _ starts => starts.next fun _ => .inl

theorem carries {request} (wellFormed : request.WellFormed)
    : Carries (Next fun _ => False) (StartsWith (Tag.IsContext 0)) request.encode decode request := by
  exact (carries_contextEnumerated (by decide) (by decide) request.acknowledgmentFilter).andThen
    (.behind (parses_noFilter (by grind [Tag.IsContext, Tag.Opens]))
      ((carries_optionalEnumerated (by decide) (by decide) request.eventStateFilter
          (by grind [Tag.IsContext, Tag.Opens])).before
        ((carries_optionalEnumerated (by decide) (by decide) request.eventTypeFilter
            (by grind [Tag.IsContext, Tag.Opens])).before
          ((carries_priority wellFormed.together wellFormed.priorityMin wellFormed.priorityMax
              (by grind [Tag.IsContext, Tag.Opens])).before
            ((carries_contextOptional (by decide) wellFormed.notificationClass
              fun _ => False.elim).before (.nil request))))))

end GetEnrollmentSummaryRequest

namespace EventSummary

/-- The numbers of the summary fit their encoding, its bit strings are not taken for attacks, and the
years of its time stamps are read back.
-/
structure WellFormed (summary : EventSummary) : Prop where
  acknowledgedTransitions : summary.acknowledgedTransitions.data.length < 1048576
  eventEnable : summary.eventEnable.data.length < 1048576
  timeStamps : summary.eventTimeStamps.Each fun stamp => stamp.WellFormed ∧ stamp.YearKept
  priorities : summary.eventPriorities.Each (· ≤ 0xFFFFFFFF)

/-- Three values in a row. -/
theorem carries_each {Value : Type} {first : Bytes → Prop} {encode : Value → Except PyException Bytes}
    {decoder : Decoder Value} {values : PerTransition Value}
    {parts : List (Except PyException Bytes)}
    (each : values.Each fun value => Carries (fun _ => True) first (encode value) decoder value)
    {Other : Type} {next : PerTransition Value → Decoder Other} {other : Other}
    {allowed' first' : Bytes → Prop}
    (carries : Carries allowed' first' (joined parts) (next values) other)
    : Carries allowed' first (joined (encode values.toOffnormal :: encode values.toFault
        :: encode values.toNormal :: parts)) (decodeEach decoder >>= next) other := by
  simp only [decodeEach, Parser.bind_assoc]
  exact each.1.andThen (each.2.1.andThen (each.2.2.andThen carries))

theorem carries {summary : EventSummary} (wellFormed : summary.WellFormed)
    : CarriesField (Tag.IsContext 0) summary.encode decode summary := by
  have timeStamps : summary.eventTimeStamps.Each fun stamp =>
      Carries (fun _ => True) (fun _ => True) stamp.encode (Decoder.of BACnetTimeStamp.decode) stamp :=
    wellFormed.timeStamps.imp fun stamp fine => carries_timeStamp fine.1 fine.2
  have priorities : summary.eventPriorities.Each fun priority =>
      CarriesField (Tag.IsApplication 2) (encodeApplicationUnsigned priority) .unsigned priority :=
    wellFormed.priorities.imp fun priority small => carries_applicationUnsigned small
  exact (carries_contextObjectId (by decide) summary.objectIdentifier).andThen
    ((carries_contextEnumerated (by decide) (by decide) summary.eventState).andThen
      ((carries_contextBitString (by decide) wellFormed.acknowledgedTransitions).andThen
        ((carries_opening (by decide) _).andThen
          (carries_each timeStamps
            ((carries_closing (by decide) _).andThen
              ((carries_contextEnumerated (by decide) (by decide) summary.notifyType).andThen
                ((carries_contextBitString (by decide) wellFormed.eventEnable).andThen
                  ((carries_opening (by decide) _).andThen
                    (carries_each priorities
                      ((carries_closing (by decide) _).andThen (.nil summary)))))))))))

end EventSummary

theorem GetEventInformationACK.carries (ack)
    (few : ack.listOfEventSummaries.length < maxDecodedItems)
    (wellFormed : ∀ summary ∈ ack.listOfEventSummaries, summary.WellFormed)
    : CarriesField (Tag.Opens 0) ack.encode GetEventInformationACK.decode ack := by
  have each : ∀ summary ∈ ack.listOfEventSummaries, CarriesField (Tag.IsContext 0)
      summary.encode EventSummary.decode summary :=
    fun summary listed => EventSummary.carries (wellFormed summary listed)
  have items := carries_items (show 0 ≤ 254 by decide) each few
    (fun tag context closing => by simp [context.2.2.2] at closing) (fun _ _ => trivial)
    fun _ _ => trivial
  exact (carries_opening (by decide) _).andThen
    (items.consItems ((carries_contextBoolean (by decide) ack.moreEvents).andThen (.nil ack)))

end BacPy
