import BacPy.Types.Constructed

/-! `encode_property_value` over all values, constructed ones included, and the `encode` methods of
those that hold any value. The two sets of encoders agree.
-/

namespace BacPy

-- Values

/-- A Python value, constructed ones included. `BACnetTimeStamp` is not among the types that
`encode_property_value` knows.
-/
inductive PyValue where
  | scalar (value : Scalar)
  | list (items : List PyValue)
  | dateTime (value : BACnetDateTime)
  | dateRange (value : BACnetDateRange)
  | weekNDay (value : BACnetWeekNDay)
  | calendarEntry (value : BACnetCalendarEntry)
  | timeValue (value : BACnetTimeValue PyValue)
  | specialEvent (value : BACnetSpecialEvent PyValue)
  | deviceObjectPropertyReference (value : BACnetDeviceObjectPropertyReference)
  | objectPropertyReference (value : BACnetObjectPropertyReference)
  | address (value : RecipientAddress)
  | recipient (value : BACnetRecipient)
  | recipientProcess (value : BACnetRecipientProcess)
  | destination (value : BACnetDestination)
  | scale (value : BACnetScale)
  | prescale (value : BACnetPrescale)
  | logRecord (value : BACnetLogRecord PyValue)
  | covSubscription (value : BACnetCOVSubscription)
  | valueSource (value : BACnetValueSource)
  | deviceObjectReference (value : BACnetDeviceObjectReference)
  | priorityValue (value : BACnetPriorityValue PyValue)
  | priorityArray (value : BACnetPriorityArray PyValue)

-- The table of encoders

def encDatetime (value : BACnetDateTime) : Except Raised Bytes :=
  joinParts [encodeApplicationDate value.date, encodeApplicationTime value.time]

def encDateRange (value : BACnetDateRange) : Except Raised Bytes :=
  joinParts [encodeApplicationDate value.startDate, encodeApplicationDate value.endDate]

def encWeekNDay (value : BACnetWeekNDay) : Except Raised Bytes := do
  let content ← octets [value.month, value.weekOfMonth, value.dayOfWeek]
  raising (encodeApplicationOctetString content)

/-- `_encode_calendar_entry`: the class of the value decides. -/
def encodeCalendarEntry (entry : BACnetCalendarEntry) : Except Raised Bytes :=
  match entry.value with
  | .date date => encodeContextDate 0 date
  | .dateRange range =>
    joinParts [opening 1, encodeApplicationDate range.startDate,
      encodeApplicationDate range.endDate, closing 1]
  | .weekNDay day => do
      let content ← octets [day.month, day.weekOfMonth, day.dayOfWeek]
      raising (encodeContextTagged 2 content)

/-- The period in `_encode_special_event`. -/
def encodePeriod : EventPeriod → List (Except Raised Bytes)
  | .calendarEntry entry => [opening 0, encodeCalendarEntry entry, closing 0]
  | .calendarReference calendar => [raising (encodeContextObjectId 1 calendar)]

def encDevObjPropRef (value : BACnetDeviceObjectPropertyReference) : Except Raised Bytes :=
  joinParts ([
      raising (encodeContextObjectId 0 value.objectIdentifier),
      encodeContextEnumeratedInt 1 value.propertyIdentifier
    ]
    ++ optionalPart (fun index => raising (encodeContextUnsigned 2 index)) value.propertyArrayIndex
    ++ optionalPart (fun device => raising (encodeContextObjectId 3 device)) value.deviceIdentifier)

def encObjPropRef (value : BACnetObjectPropertyReference) : Except Raised Bytes :=
  joinParts ([
      raising (encodeContextObjectId 0 value.objectIdentifier),
      encodeContextEnumeratedInt 1 value.propertyIdentifier
    ]
    ++ optionalPart (fun index => raising (encodeContextUnsigned 2 index)) value.propertyArrayIndex)

def encAddress (value : RecipientAddress) : Except Raised Bytes :=
  joinParts [raising (encodeContextUnsigned 0 value.networkNumber),
    raising (encodeContextTagged 1 value.macAddress)]

/-- `_encode_recipient` -/
def encodeRecipientChoice (recipient : BACnetRecipient) : Except Raised Bytes :=
  match recipient.device, recipient.address with
  | some device, _ => raising (encodeContextObjectId 0 device)
  | none, some address =>
    joinParts [opening 1, raising (encodeContextUnsigned 0 address.networkNumber),
      raising (encodeContextTagged 1 address.macAddress), closing 1]
  | none, none => raising (encodeContextObjectId 0 nobody)

def encRecipientProcess (value : BACnetRecipientProcess) : Except Raised Bytes :=
  joinParts [opening 0, encodeRecipientChoice value.recipient, closing 0,
    raising (encodeContextUnsigned 1 value.processIdentifier)]

def encDestination (value : BACnetDestination) : Except Raised Bytes :=
  joinParts [
    raising (encodeApplicationBitString value.validDays),
    encodeApplicationTime value.fromTime,
    encodeApplicationTime value.toTime,
    encodeRecipientChoice value.recipient,
    raising (encodeApplicationUnsigned value.processIdentifier),
    raising (encodeApplicationBoolean value.issueConfirmedNotifications),
    raising (encodeApplicationBitString value.transitions)
  ]

def encScale (value : BACnetScale) : Except Raised Bytes :=
  match value.floatScale, value.integerScale with
  | some scale, _ => encodeContextReal 0 scale
  | none, some scale => encodeContextSigned 1 scale
  | none, none => encodeContextReal 0 0

def encPrescale (value : BACnetPrescale) : Except Raised Bytes :=
  joinParts [raising (encodeContextUnsigned 0 value.multiplier),
    raising (encodeContextUnsigned 1 value.moduloDivide)]

def encodeCovSubscription (subscription : BACnetCOVSubscription) : Except Raised Bytes :=
  joinParts ([
      opening 0, opening 0, encodeRecipientChoice subscription.recipient.recipient, closing 0,
      raising (encodeContextUnsigned 1 subscription.recipient.processIdentifier), closing 0,
      opening 1, raising (encodeContextObjectId 0 subscription.monitoredObject), closing 1,
      raising (encodeContextTagged 2 (encodeBoolean subscription.issueConfirmedNotifications)),
      raising (encodeContextUnsigned 3 subscription.timeRemaining)
    ]
    ++ optionalPart (encodeContextReal 4) subscription.covIncrement)

/-- The status flags behind a log record. -/
def flagsPart (flags : Option StatusFlags) : List (Except Raised Bytes) :=
  optionalPart (fun flags => encodeContextBitString 1 flags.toBitString) flags

namespace PyValue

def isNone : PyValue → Bool
  | scalar .none => true
  | _ => false

mutual

def encodePropertyValue (value : PyValue) (intAsReal : Bool) : Except Raised Bytes :=
  match value with
  | scalar value => encodeScalar value intAsReal
  | list items => encodeItems items intAsReal
  | dateTime value => encDatetime value
  | dateRange value => encDateRange value
  | weekNDay value => encWeekNDay value
  | calendarEntry value => encodeCalendarEntry value
  | timeValue ⟨time, value⟩ =>
    joinParts [encodeApplicationTime time, encodePropertyValue value intAsReal]
  | specialEvent ⟨period, listOfTimeValues, eventPriority⟩ =>
    joinParts (encodePeriod period ++ [
      opening 2, encodeTimeValues listOfTimeValues intAsReal, closing 2,
      raising (encodeContextUnsigned 3 eventPriority)
    ])
  | deviceObjectPropertyReference value => encDevObjPropRef value
  | objectPropertyReference value => encObjPropRef value
  | address value => encAddress value
  | recipient value => encodeRecipientChoice value
  | recipientProcess value => encRecipientProcess value
  | destination value => encDestination value
  | scale value => encScale value
  | prescale value => encPrescale value
  | logRecord ⟨timestamp, logDatum, statusFlags⟩ =>
    joinParts ([encodeApplicationDate timestamp.date, encodeApplicationTime timestamp.time,
      encodePropertyValue logDatum intAsReal] ++ flagsPart statusFlags)
  | covSubscription value => encodeCovSubscription value
  -- `_enc_value_source` and `_enc_dev_obj_ref` call the methods
  | valueSource value => value.encode
  | deviceObjectReference value => value.encode
  | priorityValue ⟨value⟩ =>
    if value.isNone then raising (encodeApplicationTagged 0 [])
    else encodePropertyValue value intAsReal
  | priorityArray ⟨slots⟩ => encodeSlots slots intAsReal

def encodeItems (items : List PyValue) (intAsReal : Bool) : Except Raised Bytes :=
  match items with
  | [] => .ok []
  | item :: rest => do
      let first ← encodePropertyValue item intAsReal
      let later ← encodeItems rest intAsReal
      .ok (first ++ later)

/-- The loop of `_encode_special_event`. -/
def encodeTimeValues (items : List (BACnetTimeValue PyValue)) (intAsReal : Bool)
    : Except Raised Bytes :=
  match items with
  | [] => .ok []
  | ⟨time, value⟩ :: rest => do
      let time ← encodeApplicationTime time
      let first ← encodePropertyValue value intAsReal
      let later ← encodeTimeValues rest intAsReal
      .ok (time ++ (first ++ later))

/-- The loop of `_enc_priority_array`. -/
def encodeSlots (slots : List (BACnetPriorityValue PyValue)) (intAsReal : Bool)
    : Except Raised Bytes :=
  match slots with
  | [] => .ok []
  | ⟨value⟩ :: rest => do
      let first ← (if value.isNone then raising (encodeApplicationTagged 0 [])
        else encodePropertyValue value intAsReal)
      let later ← encodeSlots rest intAsReal
      .ok (first ++ later)

end

end PyValue

-- The methods

def BACnetTimeValue.encode (value : BACnetTimeValue PyValue) (intAsReal : Bool)
    : Except Raised Bytes :=
  joinParts [encodeApplicationTime value.time, value.value.encodePropertyValue intAsReal]

/-- The period in `BACnetSpecialEvent.encode`. -/
def EventPeriod.encode : EventPeriod → List (Except Raised Bytes)
  | .calendarEntry entry => [opening 0, entry.encode, closing 0]
  | .calendarReference calendar => [raising (encodeContextObjectId 1 calendar)]

def BACnetSpecialEvent.encode (event : BACnetSpecialEvent PyValue) (intAsReal : Bool)
    : Except Raised Bytes :=
  joinParts (event.period.encode
    ++ [opening 2]
    ++ event.listOfTimeValues.flatMap (fun tv =>
        [encodeApplicationTime tv.time, tv.value.encodePropertyValue intAsReal])
    ++ [closing 2, raising (encodeContextUnsigned 3 event.eventPriority)])

def BACnetLogRecord.encode (record : BACnetLogRecord PyValue) (intAsReal : Bool)
    : Except Raised Bytes :=
  joinParts ([encodeApplicationDate record.timestamp.date,
      encodeApplicationTime record.timestamp.time, record.logDatum.encodePropertyValue intAsReal]
    ++ optionalPart (fun flags => encodeContextBitString 1 flags.toBitString) record.statusFlags)

def BACnetPriorityArray.encode (array : BACnetPriorityArray PyValue) (intAsReal : Bool)
    : Except Raised Bytes :=
  joinParts (array.slots.map fun slot =>
    if slot.value.isNone then raising (encodeApplicationTagged 0 [])
    else slot.value.encodePropertyValue intAsReal)

namespace PyValue

/-- `value.encode(...)`, for the constructed types that have such a method. -/
def encode (value : PyValue) (intAsReal : Bool) : Option (Except Raised Bytes) :=
  match value with
  | dateTime value => some value.encode
  | dateRange value => some value.encode
  | calendarEntry value => some value.encode
  | timeValue value => some (value.encode intAsReal)
  | specialEvent value => some (value.encode intAsReal)
  | deviceObjectPropertyReference value => some value.encode
  | objectPropertyReference value => some value.encode
  | address value => some value.encode
  | recipient value => some value.encode
  | recipientProcess value => some value.encode
  | destination value => some value.encode
  | logRecord value => some (value.encode intAsReal)
  | valueSource value => some value.encode
  | deviceObjectReference value => some value.encode
  | priorityArray value => some (value.encode intAsReal)
  | scalar _ | list _ | weekNDay _ | scale _ | prescale _ | covSubscription _ | priorityValue _ =>
    none

/-- A calendar entry that the value has holds what its discriminator stands for. -/
def WellChosen : PyValue → Prop
  | calendarEntry entry => entry.WellChosen
  | specialEvent ⟨.calendarEntry entry, _, _⟩ => entry.WellChosen
  | _ => True

end PyValue

-- Parts

theorem joinParts_append (first second)
    : joinParts (first ++ second)
      = (do
          let before ← joinParts first
          let after ← joinParts second
          .ok (before ++ after)) := by
  induction first with
  | nil =>
    cases joined : joinParts second with
    | error raised => simp [joinParts, joined, bind, Except.bind]
    | ok after => simp [joinParts, joined, bind, Except.bind]
  | cons part rest ih =>
    rw [List.cons_append, joinParts, joinParts, ih]
    cases part with
    | error raised => rfl
    | ok octets =>
      cases joinParts rest with
      | error raised => rfl
      | ok before =>
        cases joinParts second with
        | error raised => rfl
        | ok after => simp [bind, Except.bind]

theorem joinParts_nested (before inner after)
    : joinParts (before ++ joinParts inner :: after) = joinParts (before ++ (inner ++ after)) := by
  rw [joinParts_append, joinParts_append before, joinParts_append inner, joinParts]

namespace PyValue

/-- The loop over the time values appends two parts in each round. -/
theorem encodeTimeValues_eq (items) (intAsReal : Bool)
    : encodeTimeValues items intAsReal
      = joinParts (items.flatMap fun tv =>
          [encodeApplicationTime tv.time, tv.value.encodePropertyValue intAsReal]) := by
  induction items with
  | nil => rfl
  | cons tv rest ih =>
    rw [List.flatMap_cons, joinParts_append, ← ih]
    cases tv with
    | mk time value =>
      rw [encodeTimeValues]
      cases encodeApplicationTime time with
      | error raised => rfl
      | ok octets =>
        cases value.encodePropertyValue intAsReal with
        | error raised => rfl
        | ok first => simp [joinParts, bind, Except.bind]

/-- The loop over the slots appends one part in each round. -/
theorem encodeSlots_eq (slots) (intAsReal : Bool)
    : encodeSlots slots intAsReal
      = joinParts (slots.map fun slot =>
          if slot.value.isNone then raising (encodeApplicationTagged 0 [])
          else slot.value.encodePropertyValue intAsReal) := by
  induction slots with
  | nil => rfl
  | cons slot rest ih =>
    obtain ⟨value⟩ := slot
    rw [List.map_cons, joinParts, ← ih]
    rfl

/-- The period in front, and the loop between its tags. -/
theorem encode_specialEvent (event) (intAsReal : Bool)
    (period : encodePeriod event.period = event.period.encode)
    : encodePropertyValue (specialEvent event) intAsReal = event.encode intAsReal := by
  obtain ⟨when, times, priority⟩ := event
  rw [encodePropertyValue, BACnetSpecialEvent.encode, period, encodeTimeValues_eq]
  have flat := joinParts_nested (EventPeriod.encode when ++ [opening 2])
    (times.flatMap fun tv =>
      [encodeApplicationTime tv.time, tv.value.encodePropertyValue intAsReal])
    [closing 2, raising (encodeContextUnsigned 3 priority)]
  simpa only [List.append_assoc, List.singleton_append, List.cons_append,
    List.nil_append] using flat

end PyValue

-- Agreement

/-- For an entry that is well chosen it does not matter what decides. -/
theorem encodeCalendarEntry_eq {entry} (chosen : entry.WellChosen)
    : encodeCalendarEntry entry = entry.encode := by
  obtain ⟨choice, value⟩ := entry
  unfold BACnetCalendarEntry.encode
  cases value with
  | date date =>
    have same : choice = 0 := chosen
    dsimp only
    rw [if_pos same]
    rfl
  | dateRange range =>
    have same : choice = 1 := chosen
    dsimp only
    rw [if_neg (by omega), if_pos same]
    rfl
  | weekNDay day =>
    obtain ⟨first, second⟩ : choice ≠ 0 ∧ choice ≠ 1 := chosen
    dsimp only
    rw [if_neg first, if_neg second]
    rfl

theorem encodeRecipientChoice_eq (recipient)
    : encodeRecipientChoice recipient = recipient.encode := by
  obtain ⟨device, address⟩ := recipient
  unfold encodeRecipientChoice BACnetRecipient.encode
  cases device with
  | some device => rfl
  | none =>
    cases address with
    | none => rfl
    | some address =>
      exact (joinParts_nested [opening 1] [_, _] [closing 1]).symm

theorem encodePeriod_eq {period}
    (chosen : ∀ entry, period = .calendarEntry entry → entry.WellChosen)
    : encodePeriod period = period.encode := by
  cases period with
  | calendarReference calendar => rfl
  | calendarEntry entry =>
    rw [encodePeriod, EventPeriod.encode, encodeCalendarEntry_eq (chosen entry rfl)]

namespace PyValue

/-- Where both are the same for all values of a class. -/
theorem agree_of_eq {value : PyValue} {intAsReal : Bool} {own : Except Raised Bytes}
    (chosen : value.WellChosen) (same : value.encodePropertyValue intAsReal = own)
    : (value.WellChosen → value.encodePropertyValue intAsReal = own)
      ∧ (¬ value.WellChosen → ∃ message, own = .error (.typeError message)) :=
  ⟨fun _ => same, fun ill => absurd chosen ill⟩

/-- `encode_property_value` yields what the method of a value yields, its octets or its exception, if
no calendar entry holds a value of another class than its discriminator stands for. The methods
refuse such an entry.
-/
theorem encodePropertyValue_eq_encode (value : PyValue) (intAsReal : Bool)
    (own : Except Raised Bytes) (method : value.encode intAsReal = some own)
    : (value.WellChosen → value.encodePropertyValue intAsReal = own)
      ∧ (¬ value.WellChosen → ∃ message, own = .error (.typeError message)) := by
  cases value with
  | scalar value => cases method
  | list items => cases method
  | weekNDay value => cases method
  | scale value => cases method
  | prescale value => cases method
  | covSubscription value => cases method
  | priorityValue value => cases method
  | dateTime value => exact agree_of_eq trivial (Option.some.inj method)
  | dateRange value => exact agree_of_eq trivial (Option.some.inj method)
  | timeValue value => exact agree_of_eq trivial (Option.some.inj method)
  | deviceObjectPropertyReference value => exact agree_of_eq trivial (Option.some.inj method)
  | objectPropertyReference value => exact agree_of_eq trivial (Option.some.inj method)
  | address value => exact agree_of_eq trivial (Option.some.inj method)
  | logRecord value => exact agree_of_eq trivial (Option.some.inj method)
  | valueSource value => exact agree_of_eq trivial (Option.some.inj method)
  | deviceObjectReference value => exact agree_of_eq trivial (Option.some.inj method)
  | recipient value =>
    exact agree_of_eq trivial ((encodeRecipientChoice_eq value).trans (Option.some.inj method))
  | recipientProcess value =>
    cases method
    refine agree_of_eq trivial ?_
    rw [encodePropertyValue, encRecipientProcess, encodeRecipientChoice_eq]
    rfl
  | destination value =>
    cases method
    refine agree_of_eq trivial ?_
    rw [encodePropertyValue, encDestination, encodeRecipientChoice_eq]
    rfl
  | priorityArray value =>
    obtain ⟨slots⟩ := value
    exact agree_of_eq trivial ((encodeSlots_eq slots intAsReal).trans (Option.some.inj method))
  | calendarEntry entry =>
    cases method
    exact ⟨encodeCalendarEntry_eq, entry.encode_illChosen⟩
  | specialEvent event =>
    cases method
    obtain ⟨period, times, priority⟩ := event
    cases period with
    | calendarReference calendar => exact agree_of_eq trivial (encode_specialEvent _ _ rfl)
    | calendarEntry entry =>
      refine ⟨fun chosen => encode_specialEvent _ _ (encodePeriod_eq ?_), fun ill => ?_⟩
      · rintro _ ⟨⟩
        exact chosen
      · obtain ⟨message, refused⟩ := entry.encode_illChosen ill
        refine ⟨message, ?_⟩
        rw [BACnetSpecialEvent.encode, EventPeriod.encode, refused]
        rfl

/-- A special event on Mondays, with an integer that is encoded as a Real. -/
theorem encodePropertyValue_eq_encode_mondays
    : encodePropertyValue (specialEvent {
          period := .calendarEntry { choice := 2, value := .weekNDay ⟨255, 255, 1⟩ }
          listOfTimeValues := [{ time := ⟨8, 0, 0, 0⟩, value := scalar (.int 21) }]
          eventPriority := 10
        }) true
      = BACnetSpecialEvent.encode {
          period := .calendarEntry { choice := 2, value := .weekNDay ⟨255, 255, 1⟩ }
          listOfTimeValues := [{ time := ⟨8, 0, 0, 0⟩, value := scalar (.int 21) }]
          eventPriority := 10
        } true :=
  (encodePropertyValue_eq_encode (specialEvent _) true _ rfl).1 ⟨by decide, by decide⟩

/-- An entry for Mondays with the discriminator of a date: only its method refuses it. -/
theorem encode_refused_for_date
    : encodePropertyValue (calendarEntry { choice := 0, value := .weekNDay ⟨255, 255, 1⟩ }) false
        = .ok [0x2B, 255, 255, 1]
      ∧ BACnetCalendarEntry.encode { choice := 0, value := .weekNDay ⟨255, 255, 1⟩ }
        = .error (.typeError "Expected BACnetDate for choice 0, got BACnetWeekNDay") := by
  exact ⟨rfl, rfl⟩

-- Values without constructed ones

mutual

def ofValue : Value → PyValue
  | .scalar value => scalar value
  | .list items => list (ofValues items)

def ofValues : List Value → List PyValue
  | [] => []
  | item :: rest => ofValue item :: ofValues rest

end

mutual

/-- On these values `encode_property_value` is what the object layer uses. -/
theorem encodePropertyValue_ofValue (value : Value) (intAsReal : Bool)
    : (ofValue value).encodePropertyValue intAsReal = BacPy.encodePropertyValue value intAsReal := by
  cases value with
  | scalar value => rfl
  | list items =>
    rw [ofValue, encodePropertyValue, BacPy.encodePropertyValue]
    exact encodeItems_ofValues items intAsReal

theorem encodeItems_ofValues (items : List Value) (intAsReal : Bool)
    : encodeItems (ofValues items) intAsReal = BacPy.encodeItems items intAsReal := by
  cases items with
  | nil => rfl
  | cons item rest =>
    rw [ofValues, encodeItems, BacPy.encodeItems, encodePropertyValue_ofValue item,
      encodeItems_ofValues rest]

end

end PyValue

end BacPy
