import BacPy.Services.CovSubscriptions

/-! The constructed types of the properties (Clause 21), and those `encode` methods that only need
primitive values. A field that may hold any value has a type parameter.
-/

namespace BacPy

-- Primitive encoders

def joinParts : List (Except Raised Bytes) → Except Raised Bytes
  | [] => .ok []
  | part :: rest => do
      let first ← part
      let later ← joinParts rest
      .ok (first ++ later)

def encodeApplicationDate (date : BACnetDate) : Except Raised Bytes :=
  raising (encodeDate date >>= encodeApplicationTagged 10)

def encodeApplicationTime (time : BACnetTime) : Except Raised Bytes :=
  raising (encodeTime time >>= encodeApplicationTagged 11)

def encodeContextDate (tagNumber : Nat) (date : BACnetDate) : Except Raised Bytes :=
  raising (encodeDate date >>= encodeContextTagged tagNumber)

def encodeContextSigned (tagNumber : Nat) (value : Int) : Except Raised Bytes :=
  raising (encodeSigned value >>= encodeContextTagged tagNumber)

def encodeContextBitString (tagNumber : Nat) (value : BitString) : Except Raised Bytes :=
  raising (encodeContextTagged tagNumber (encodeBitString value))

/-- `bytes([...])` -/
def octets (values : List Nat) : Except Raised Bytes :=
  raising (values.mapM octet)

/-- `encode_opening_tag`, as a part. -/
def opening (tagNumber : Nat) : Except Raised Bytes := .ok (encodeOpeningTag tagNumber)

/-- `encode_closing_tag`, as a part. -/
def closing (tagNumber : Nat) : Except Raised Bytes := .ok (encodeClosingTag tagNumber)

-- Dates and times

def BACnetDateTime.encode (value : BACnetDateTime) : Except Raised Bytes :=
  joinParts [encodeApplicationDate value.date, encodeApplicationTime value.time]

structure BACnetDateRange where
  startDate : BACnetDate
  endDate : BACnetDate

def BACnetDateRange.encode (value : BACnetDateRange) : Except Raised Bytes :=
  joinParts [encodeApplicationDate value.startDate, encodeApplicationDate value.endDate]

structure BACnetWeekNDay where
  month : Nat
  weekOfMonth : Nat
  dayOfWeek : Nat

/-- What a calendar entry holds. -/
inductive CalendarValue where
  | date (value : BACnetDate)
  | dateRange (value : BACnetDateRange)
  | weekNDay (value : BACnetWeekNDay)

/-- `type(value).__name__` -/
def CalendarValue.typeName : CalendarValue → String
  | date _ => "BACnetDate"
  | dateRange _ => "BACnetDateRange"
  | weekNDay _ => "BACnetWeekNDay"

/-- `BACnetCalendarEntry`: nothing keeps the discriminator and the value together. -/
structure BACnetCalendarEntry where
  choice : Int
  value : CalendarValue

namespace BACnetCalendarEntry

/-- `BACnetCalendarEntry.encode`: the discriminator decides, and the value must go with it. -/
def encode (entry : BACnetCalendarEntry) : Except Raised Bytes :=
  if entry.choice = 0 then
    match entry.value with
    | .date date => encodeContextDate 0 date
    | other => .error (.typeError s!"Expected BACnetDate for choice 0, got {other.typeName}")
  else if entry.choice = 1 then
    match entry.value with
    | .dateRange range =>
      joinParts [opening 1, encodeApplicationDate range.startDate,
        encodeApplicationDate range.endDate, closing 1]
    | other => .error (.typeError s!"Expected BACnetDateRange for choice 1, got {other.typeName}")
  else
    match entry.value with
    | .weekNDay day => do
        let content ← octets [day.month, day.weekOfMonth, day.dayOfWeek]
        raising (encodeContextTagged 2 content)
    | other => .error (.typeError s!"Expected BACnetWeekNDay for choice 2, got {other.typeName}")

/-- The value has the class that the discriminator stands for; any but 0 and 1 stands for a
`BACnetWeekNDay`.
-/
def WellChosen (entry : BACnetCalendarEntry) : Prop :=
  match entry.value with
  | .date _ => entry.choice = 0
  | .dateRange _ => entry.choice = 1
  | .weekNDay _ => entry.choice ≠ 0 ∧ entry.choice ≠ 1

/-- The method refuses all other entries. -/
theorem encode_illChosen {entry : BACnetCalendarEntry} (ill : ¬ entry.WellChosen)
    : ∃ message, entry.encode = .error (.typeError message) := by
  obtain ⟨choice, value⟩ := entry
  unfold encode
  cases value with
  | date date =>
    have other : choice ≠ 0 := ill
    dsimp only
    rw [if_neg other]
    split <;> exact ⟨_, rfl⟩
  | dateRange range =>
    have other : choice ≠ 1 := ill
    dsimp only
    rw [if_neg other]
    split <;> exact ⟨_, rfl⟩
  | weekNDay day =>
    dsimp only
    split
    · exact ⟨_, rfl⟩
    · next first =>
        split
        · exact ⟨_, rfl⟩
        · next second => exact absurd ⟨first, second⟩ ill

end BACnetCalendarEntry

-- References

/-- `encode_context_enumerated` of any `int`. -/
def encodeContextEnumeratedInt (tagNumber : Nat) (value : Int) : Except Raised Bytes :=
  raising (encodeUnsignedInt value >>= encodeContextTagged tagNumber)

/-- A part that is only there for a value other than `None`. -/
def optionalPart {Field : Type} (encode : Field → Except Raised Bytes)
    : Option Field → List (Except Raised Bytes)
  | none => []
  | some value => [encode value]

structure BACnetDeviceObjectPropertyReference where
  objectIdentifier : ObjectIdentifier
  propertyIdentifier : Int
  propertyArrayIndex : Option Int := none
  deviceIdentifier : Option ObjectIdentifier := none

def BACnetDeviceObjectPropertyReference.encode (value : BACnetDeviceObjectPropertyReference)
    : Except Raised Bytes :=
  joinParts ([
      raising (encodeContextObjectId 0 value.objectIdentifier),
      encodeContextEnumeratedInt 1 value.propertyIdentifier
    ]
    ++ optionalPart (fun index => raising (encodeUnsignedInt index >>= encodeContextTagged 2))
        value.propertyArrayIndex
    ++ optionalPart (fun device => raising (encodeContextObjectId 3 device)) value.deviceIdentifier)

structure BACnetObjectPropertyReference where
  objectIdentifier : ObjectIdentifier
  propertyIdentifier : Int
  propertyArrayIndex : Option Int := none

def BACnetObjectPropertyReference.encode (value : BACnetObjectPropertyReference)
    : Except Raised Bytes :=
  joinParts ([
      raising (encodeContextObjectId 0 value.objectIdentifier),
      encodeContextEnumeratedInt 1 value.propertyIdentifier
    ]
    ++ optionalPart (fun index => raising (encodeContextUnsigned 2 index)) value.propertyArrayIndex)

structure BACnetDeviceObjectReference where
  objectIdentifier : ObjectIdentifier
  deviceIdentifier : Option ObjectIdentifier := none

def BACnetDeviceObjectReference.encode (value : BACnetDeviceObjectReference)
    : Except Raised Bytes :=
  joinParts (
    optionalPart (fun device => raising (encodeContextObjectId 0 device)) value.deviceIdentifier
    ++ [raising (encodeContextObjectId 1 value.objectIdentifier)])

/-- What a value source holds. -/
inductive SourceValue where
  | none
  | object (value : BACnetDeviceObjectReference)
  | address (value : Bytes)

/-- `type(value).__name__` -/
def SourceValue.typeName : SourceValue → String
  | none => "NoneType"
  | object _ => "BACnetDeviceObjectReference"
  | address _ => "bytes"

structure BACnetValueSource where
  choice : Int := 0
  value : SourceValue := .none

def BACnetValueSource.encode (source : BACnetValueSource) : Except Raised Bytes :=
  if source.choice = 0 then joinParts [opening 0, closing 0]
  else if source.choice = 1 then
    match source.value with
    | .object reference => joinParts [opening 1, reference.encode, closing 1]
    | other =>
      .error (.typeError
        s!"Expected BACnetDeviceObjectReference for choice 1, got {other.typeName}")
  else if source.choice = 2 then
    match source.value with
    | .address address => raising (encodeContextTagged 2 address)
    | other => .error (.typeError s!"Expected bytes for choice 2, got {other.typeName}")
  else .error (.builtin (.valueError s!"Invalid BACnetValueSource choice: {source.choice}"))

-- Recipients

/-- `BACnetAddress` of `types/constructed.py`, the address of a recipient. -/
structure RecipientAddress where
  networkNumber : Int
  macAddress : Bytes

def RecipientAddress.encode (address : RecipientAddress) : Except Raised Bytes :=
  joinParts [raising (encodeContextUnsigned 0 address.networkNumber),
    raising (encodeContextTagged 1 address.macAddress)]

structure BACnetRecipient where
  device : Option ObjectIdentifier := none
  address : Option RecipientAddress := none

/-- `ObjectIdentifier(ObjectType(0), 0)`, for a recipient that is nobody. -/
def nobody : ObjectIdentifier := ⟨⟨0⟩, 0⟩

def BACnetRecipient.encode (recipient : BACnetRecipient) : Except Raised Bytes :=
  match recipient.device, recipient.address with
  | some device, _ => raising (encodeContextObjectId 0 device)
  | none, some address => joinParts [opening 1, address.encode, closing 1]
  | none, none => raising (encodeContextObjectId 0 nobody)

structure BACnetRecipientProcess where
  recipient : BACnetRecipient
  processIdentifier : Int

def BACnetRecipientProcess.encode (value : BACnetRecipientProcess) : Except Raised Bytes :=
  joinParts [opening 0, value.recipient.encode, closing 0,
    raising (encodeContextUnsigned 1 value.processIdentifier)]

structure BACnetDestination where
  validDays : BitString
  fromTime : BACnetTime
  toTime : BACnetTime
  recipient : BACnetRecipient
  processIdentifier : Int
  issueConfirmedNotifications : Bool
  transitions : BitString

def BACnetDestination.encode (value : BACnetDestination) : Except Raised Bytes :=
  joinParts [
    raising (encodeApplicationBitString value.validDays),
    encodeApplicationTime value.fromTime,
    encodeApplicationTime value.toTime,
    value.recipient.encode,
    raising (encodeApplicationUnsigned value.processIdentifier),
    raising (encodeApplicationBoolean value.issueConfirmedNotifications),
    raising (encodeApplicationBitString value.transitions)
  ]

structure BACnetCOVSubscription where
  recipient : BACnetRecipientProcess
  monitoredObject : ObjectIdentifier
  issueConfirmedNotifications : Bool
  timeRemaining : Int
  covIncrement : Option Float := none

-- Scales, and values that hold others

structure BACnetScale where
  floatScale : Option Float := none
  integerScale : Option Int := none

structure BACnetPrescale where
  multiplier : Int
  moduloDivide : Int

structure BACnetTimeValue (Any : Type) where
  time : BACnetTime
  value : Any

/-- The period of a special event: an entry, or a calendar object. -/
inductive EventPeriod where
  | calendarEntry (entry : BACnetCalendarEntry)
  | calendarReference (calendar : ObjectIdentifier)

structure BACnetSpecialEvent (Any : Type) where
  period : EventPeriod
  listOfTimeValues : List (BACnetTimeValue Any)
  eventPriority : Int

structure BACnetLogRecord (Any : Type) where
  timestamp : BACnetDateTime
  logDatum : Any
  statusFlags : Option StatusFlags := none

/-- `BACnetPriorityValue`; a slot without a command holds `None`. -/
structure BACnetPriorityValue (Any : Type) where
  value : Any

/-- `BACnetPriorityArray`, of sixteen slots. -/
structure BACnetPriorityArray (Any : Type) where
  slots : List (BACnetPriorityValue Any)

end BacPy
