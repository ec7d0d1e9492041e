import BacPy.Types.TimeStamps

/-! The JSON forms of values: `to_dict` and `from_dict`. Each dictionary is a record of its entries.

A datum of any type has its dictionary in the form, and is read back as that dictionary.
-/

namespace BacPy

-- Bit strings

/-- The dictionary of a `BitString`. -/
structure BitStringForm where
  bits : List Bool
  unusedBits : Nat

namespace BitString

def toDict (value : BitString) : BitStringForm :=
  { bits := Value.bitsOf value, unusedBits := value.unusedBits }

/-- `result[i // 8] |= 1 << (7 - (i % 8))`, for the bits that are set. -/
def setBits (result : Bytes) (index : Nat) : List Bool → Bytes
  | [] => result
  | bit :: rest =>
    let result :=
      if bit then result.modify (index / 8) (· ||| UInt8.ofNat (2 ^ (7 - index % 8))) else result
    setBits result (index + 1) rest

/-- `BitString.__init__` -/
def create (data : Bytes) (unusedBits : Nat) : Except PyException BitString :=
  if inRange : unusedBits ≤ 7 ∧ (data = [] → unusedBits = 0) then .ok { data, unusedBits, inRange }
  else .error (.valueError "unused_bits must be 0-7")

def fromDict (form : BitStringForm) : Except PyException BitString :=
  create (setBits (List.replicate ((form.bits.length + 7) / 8) 0) 0 form.bits) form.unusedBits

/-- The bit of an octet string at an index, the most significant one of each octet first. -/
def bitAt (data : Bytes) (index : Nat) : Bool :=
  (data.getD (index / 8) 0).toNat.testBit (7 - index % 8)

/-- The bits that are not significant are 0. -/
def PaddingClear (value : BitString) : Prop :=
  ∀ index < value.data.length * 8, value.data.length * 8 - value.unusedBits ≤ index
    → bitAt value.data index = false

instance (value : BitString) : Decidable value.PaddingClear :=
  inferInstanceAs (Decidable (∀ index < _, _))

theorem length_bitsOf (value : BitString)
    : (Value.bitsOf value).length = value.data.length * 8 - value.unusedBits := by
  rw [Value.bitsOf, List.length_map, List.length_range]

theorem getElem?_bitsOf (value : BitString) (index : Nat)
    : (Value.bitsOf value)[index]?
      = if index < value.data.length * 8 - value.unusedBits then some (bitAt value.data index)
        else none := by
  rw [Value.bitsOf, List.getElem?_map]
  split
  · next inside => rw [List.getElem?_range inside]; rfl
  · next outside => rw [List.getElem?_eq_none (by simpa using outside)]; rfl

theorem eq_of_bitAt {left right} (lengths : left.length = right.length)
    (bits : ∀ index < left.length * 8, bitAt left index = bitAt right index)
    : left = right := by
  apply List.ext_getElem lengths
  intro position inLeft inRight
  apply UInt8.toNat_inj.mp
  apply Nat.eq_of_testBit_eq
  intro bit
  by_cases high : bit < 8
  · have same := bits (position * 8 + (7 - bit)) (by omega)
    have which : (position * 8 + (7 - bit)) / 8 = position := by omega
    have within : 7 - (position * 8 + (7 - bit)) % 8 = bit := by omega
    unfold bitAt at same
    rw [which, within, List.getD_eq_getElem?_getD, List.getD_eq_getElem?_getD,
      List.getElem?_eq_getElem inLeft, List.getElem?_eq_getElem inRight] at same
    exact same
  · have above (octet : UInt8) : octet.toNat.testBit bit = false := by
      apply Nat.testBit_lt_two_pow
      exact Nat.lt_of_lt_of_le octet.toNat_lt (Nat.pow_le_pow_right (by decide) (by omega))
    rw [above, above]

theorem length_setBits (result : Bytes) (index : Nat) (bits : List Bool)
    : (setBits result index bits).length = result.length := by
  induction bits generalizing result index with
  | nil => rfl
  | cons bit rest ih =>
    rw [setBits, ih]
    split
    · exact List.length_modify ..
    · rfl

/-- One bit is set. -/
theorem bitAt_modify {result index} (inside : index < result.length * 8) (other : Nat)
    : bitAt (result.modify (index / 8) (· ||| UInt8.ofNat (2 ^ (7 - index % 8)))) other
      = (bitAt result other || other = index) := by
  have inRange : index / 8 < result.length := by omega
  unfold bitAt
  rw [List.getD_eq_getElem?_getD, List.getD_eq_getElem?_getD, List.getElem?_modify]
  by_cases same : index / 8 = other / 8
  · rw [← same, List.getElem?_eq_getElem inRange]
    simp only [Option.map_eq_map, Option.map_some, Option.getD_some, if_true]
    have power : (UInt8.ofNat (2 ^ (7 - index % 8))).toNat = 2 ^ (7 - index % 8) := by
      apply Nat.mod_eq_of_lt
      calc 2 ^ (7 - index % 8) ≤ 2 ^ 7 := Nat.pow_le_pow_right (by decide) (by omega)
        _ < 2 ^ 8 := by decide
    rw [UInt8.toNat_or, power, Nat.testBit_or, Nat.testBit_two_pow]
    congr 1
    apply decide_eq_decide.mpr
    omega
  · have different : other ≠ index := by
      rintro rfl
      exact same rfl
    simp [same, different]

/-- The bits that are set are those that were and those of the list, by induction on it. -/
theorem bitAt_setBits {result index bits} (inside : index + bits.length ≤ result.length * 8)
    (other : Nat)
    : bitAt (setBits result index bits) other
      = (bitAt result other || (index ≤ other && bits[other - index]? = some true)) := by
  induction bits generalizing result index with
  | nil => simp [setBits]
  | cons bit rest ih =>
    rw [List.length_cons] at inside
    rw [setBits]
    have later : index + 1 + rest.length
        ≤ (if bit then
            result.modify (index / 8) (· ||| UInt8.ofNat (2 ^ (7 - index % 8))) else result).length
            * 8 := by
      split
      · rw [List.length_modify]
        omega
      · omega
    rw [ih later]
    have here : bitAt (if bit then
          result.modify (index / 8) (· ||| UInt8.ofNat (2 ^ (7 - index % 8))) else result) other
        = (bitAt result other || (bit && other = index)) := by
      cases bit with
      | true => rw [if_pos rfl, bitAt_modify (by omega), Bool.true_and]
      | false => simp
    rw [here, Bool.or_assoc]
    congr 1
    rcases Nat.lt_trichotomy other index with before | rfl | after
    · have notYet : ¬ index ≤ other := by omega
      have notLater : ¬ index + 1 ≤ other := by omega
      simp [notYet, notLater, Nat.ne_of_lt before]
    · simp
    · have shifted : other - index = other - (index + 1) + 1 := by omega
      have reached : index ≤ other := by omega
      have passed : index + 1 ≤ other := by omega
      rw [shifted, List.getElem?_cons_succ]
      simp [reached, passed, Nat.ne_of_gt after]

/-- The octets that `from_dict` makes of a bit string. -/
def readBack (value : BitString) : Bytes :=
  setBits (List.replicate value.data.length 0) 0 (Value.bitsOf value)

theorem length_readBack (value : BitString) : value.readBack.length = value.data.length := by
  rw [readBack, length_setBits, List.length_replicate]

theorem bitAt_readBack (value : BitString) (index : Nat)
    : bitAt value.readBack index
      = (index < value.data.length * 8 - value.unusedBits && bitAt value.data index) := by
  have inside : 0 + (Value.bitsOf value).length
      ≤ (List.replicate value.data.length (0 : UInt8)).length * 8 := by
    rw [length_bitsOf, List.length_replicate]
    omega
  have blank : bitAt (List.replicate value.data.length (0 : UInt8)) index = false := by
    unfold bitAt
    rw [List.getD_eq_getElem?_getD, List.getElem?_replicate]
    split <;> simp
  rw [readBack, bitAt_setBits inside, blank, getElem?_bitsOf, Nat.sub_zero]
  by_cases significant : index < value.data.length * 8 - value.unusedBits
  · simp [significant]
  · simp [significant]

theorem fromDict_toDict (value : BitString)
    : fromDict value.toDict = create value.readBack value.unusedBits := by
  have count : ((Value.bitsOf value).length + 7) / 8 = value.data.length := by
    obtain ⟨few, empty⟩ := value.inRange
    rw [length_bitsOf]
    cases data : value.data with
    | nil => simp
    | cons octet rest =>
      rw [List.length_cons]
      omega
  rw [fromDict, toDict, readBack, count]

theorem fromDict_toDict_iff (value : BitString)
    : fromDict value.toDict = .ok value ↔ value.PaddingClear := by
  have inRange : value.unusedBits ≤ 7 ∧ (value.readBack = [] → value.unusedBits = 0) := by
    refine ⟨value.inRange.1, fun empty => value.inRange.2 ?_⟩
    have lengths := value.length_readBack
    rw [empty] at lengths
    exact List.length_eq_zero_iff.mp lengths.symm
  have same : fromDict value.toDict = .ok value ↔ value.readBack = value.data := by
    rw [fromDict_toDict, create, dif_pos inRange, Except.ok.injEq]
    obtain ⟨data, unusedBits, _⟩ := value
    simp
  rw [same]
  constructor
  · intro unchanged index inside padding
    have bit := value.bitAt_readBack index
    rw [unchanged] at bit
    rw [bit, decide_eq_false (by omega), Bool.false_and]
  · intro clear
    apply eq_of_bitAt value.length_readBack
    intro index inside
    rw [length_readBack] at inside
    rw [bitAt_readBack]
    by_cases significant : index < value.data.length * 8 - value.unusedBits
    · simp [significant]
    · rw [clear index inside (by omega), Bool.and_false]

theorem eq_iff_padding {left right} (bits : Value.bitsOf left = Value.bitsOf right)
    : left = right
      ↔ ∀ index < left.data.length * 8, left.data.length * 8 - left.unusedBits ≤ index
        → bitAt left.data index = bitAt right.data index := by
  constructor
  · rintro rfl _ _ _
    rfl
  · intro padding
    have lengths := congrArg List.length bits
    rw [length_bitsOf, length_bitsOf] at lengths
    have shape (value : BitString) : value.unusedBits ≤ 7
        ∧ (value.data.length = 0 → value.unusedBits = 0) :=
      ⟨value.inRange.1, fun empty => value.inRange.2 (List.length_eq_zero_iff.mp empty)⟩
    have leftShape := shape left
    have rightShape := shape right
    have sameLength : left.data.length = right.data.length := by omega
    have data : left.data = right.data := by
      apply eq_of_bitAt sameLength
      intro index inside
      by_cases significant : index < left.data.length * 8 - left.unusedBits
      · have same := congrArg (fun items => items[index]?) bits
        rw [getElem?_bitsOf, getElem?_bitsOf, if_pos significant, if_pos (by omega)] at same
        exact Option.some.inj same
      · exact padding index inside (by omega)
    obtain ⟨leftData, leftUnused, _⟩ := left
    obtain ⟨rightData, rightUnused, _⟩ := right
    dsimp only at data sameLength lengths leftShape rightShape
    have unused : leftUnused = rightUnused := by omega
    subst data unused
    rfl

end BitString

-- Object identifiers

namespace ObjectType

/-- The names of the members of `ObjectType`, which are numbered from 0. -/
def memberNames : List String := [
    "ANALOG_INPUT", "ANALOG_OUTPUT", "ANALOG_VALUE", "BINARY_INPUT", "BINARY_OUTPUT",
    "BINARY_VALUE", "CALENDAR", "COMMAND", "DEVICE", "EVENT_ENROLLMENT", "FILE", "GROUP", "LOOP",
    "MULTI_STATE_INPUT", "MULTI_STATE_OUTPUT", "NOTIFICATION_CLASS", "PROGRAM", "SCHEDULE",
    "AVERAGING", "MULTI_STATE_VALUE", "TREND_LOG", "LIFE_SAFETY_POINT", "LIFE_SAFETY_ZONE",
    "ACCUMULATOR", "PULSE_CONVERTER", "EVENT_LOG", "GLOBAL_GROUP", "TREND_LOG_MULTIPLE",
    "LOAD_CONTROL", "STRUCTURED_VIEW", "ACCESS_DOOR", "TIMER", "ACCESS_CREDENTIAL",
    "ACCESS_POINT", "ACCESS_RIGHTS", "ACCESS_USER", "ACCESS_ZONE", "CREDENTIAL_DATA_INPUT",
    "NETWORK_SECURITY", "BITSTRING_VALUE", "CHARACTERSTRING_VALUE", "DATEPATTERN_VALUE",
    "DATE_VALUE", "DATETIMEPATTERN_VALUE", "DATETIME_VALUE", "INTEGER_VALUE",
    "LARGE_ANALOG_VALUE", "OCTETSTRING_VALUE", "POSITIVE_INTEGER_VALUE", "TIMEPATTERN_VALUE",
    "TIME_VALUE", "NOTIFICATION_FORWARDER", "ALERT_ENROLLMENT", "CHANNEL", "LIGHTING_OUTPUT",
    "BINARY_LIGHTING_OUTPUT", "NETWORK_PORT", "ELEVATOR_GROUP", "ESCALATOR", "LIFT", "STAGING",
    "AUDIT_REPORTER", "AUDIT_LOG"
  ]

/-- `object_type.name`; `_missing_` names pseudo-members by their numbers. -/
def name (objectType : ObjectType) : String :=
  match memberNames[objectType.number.val]? with
  | some name => name
  | none => "VENDOR_" ++ toString objectType.number.val

/-- `_enum_name` -/
def toForm (objectType : ObjectType) : String :=
  String.ofList (objectType.name.toList.map fun letter =>
    if letter = '_' then '-' else letter.toLower)

/-- `_enum_from_dict` of text, which only finds members. -/
def ofForm? (form : String) : Option ObjectType :=
  let name := String.ofList (form.toList.map fun letter =>
    if letter = '-' then '_' else letter.toUpper)
  (memberNames.findIdx? (· = name)).bind fun number =>
    if inRange : number < 1024 then some ⟨⟨number, inRange⟩⟩ else none

def IsMember (objectType : ObjectType) : Prop := objectType.number.val < memberNames.length

instance (objectType : ObjectType) : Decidable objectType.IsMember := inferInstanceAs (Decidable (_ < _))

theorem ofForm?_member : ∀ number : Fin 63,
    ofForm? (toForm ⟨number.castLE (by decide)⟩) = some ⟨number.castLE (by decide)⟩ := by
  decide +kernel

/-- No member has a name like that of a pseudo-member. -/
theorem not_vendor : ∀ name ∈ memberNames, name.toList.head? ≠ some 'V' := by
  decide +kernel

theorem ofForm?_toForm_iff (objectType : ObjectType)
    : ofForm? objectType.toForm = some objectType ↔ objectType.IsMember := by
  constructor
  · intro found
    by_contra vendor
    have pseudo : objectType.name = "VENDOR_" ++ toString objectType.number.val := by
      rw [name, List.getElem?_eq_none (Nat.le_of_not_lt vendor)]
    have letters : objectType.name.toList.head? = some 'V' := by
      rw [pseudo]
      simp
    have unknown : ofForm? objectType.toForm = none := by
      unfold ofForm?
      dsimp only
      rw [List.findIdx?_eq_none_iff.mpr, Option.bind_none]
      intro name member
      have other := not_vendor name member
      rw [decide_eq_false_iff_not]
      rintro rfl
      apply other
      rw [toForm]
      simp [letters]
    rw [unknown] at found
    cases found
  · intro member
    exact ofForm?_member ⟨objectType.number.val, member⟩

end ObjectType

/-- The dictionary of an `ObjectIdentifier`. -/
structure ObjectIdentifierForm where
  objectType : String
  instanceNumber : Nat

namespace ObjectIdentifier

def toDict (value : ObjectIdentifier) : ObjectIdentifierForm :=
  { objectType := value.objectType.toForm, instanceNumber := value.instanceNumber.val }

/-- `ObjectIdentifier.from_dict`, without a result when it raises. -/
def fromDict (form : ObjectIdentifierForm) : Option ObjectIdentifier :=
  (ObjectType.ofForm? form.objectType).bind fun objectType =>
    if inRange : form.instanceNumber < 4194304 then
      some { objectType, instanceNumber := ⟨form.instanceNumber, inRange⟩ }
    else none

/-- An identifier is read back exactly if its type is a member of `ObjectType`. -/
theorem fromDict_toDict_iff (value)
    : fromDict value.toDict = some value ↔ value.objectType.IsMember := by
  rw [← ObjectType.ofForm?_toForm_iff]
  obtain ⟨objectType, instanceNumber⟩ := value
  unfold fromDict toDict
  dsimp only
  cases ObjectType.ofForm? objectType.toForm with
  | none => simp
  | some found => simp [instanceNumber.isLt]

end ObjectIdentifier

-- Dates and times

/-- `None` for an unspecified field. -/
def fieldToForm (field : Nat) : Option Nat := if field = 255 then none else some field

def fieldFromForm (form : Option Nat) : Nat := form.getD 255

@[simp] theorem fieldFromForm_toForm (field : Nat) : fieldFromForm (fieldToForm field) = field := by
  unfold fieldFromForm fieldToForm
  split
  · next unspecified => exact unspecified.symm
  · rfl

/-- The dictionary of a `BACnetDate`. -/
structure DateForm where
  year : Option Nat
  month : Option Nat
  day : Option Nat
  dayOfWeek : Option Nat

/-- The dictionary of a `BACnetTime`. -/
structure TimeForm where
  hour : Option Nat
  minute : Option Nat
  second : Option Nat
  hundredth : Option Nat

def BACnetDate.toDict (date : BACnetDate) : DateForm where
  year := fieldToForm date.year
  month := fieldToForm date.month
  day := fieldToForm date.day
  dayOfWeek := fieldToForm date.dayOfWeek

def BACnetDate.fromDict (form : DateForm) : BACnetDate where
  year := fieldFromForm form.year
  month := fieldFromForm form.month
  day := fieldFromForm form.day
  dayOfWeek := fieldFromForm form.dayOfWeek

def BACnetTime.toDict (time : BACnetTime) : TimeForm where
  hour := fieldToForm time.hour
  minute := fieldToForm time.minute
  second := fieldToForm time.second
  hundredth := fieldToForm time.hundredth

def BACnetTime.fromDict (form : TimeForm) : BACnetTime where
  hour := fieldFromForm form.hour
  minute := fieldFromForm form.minute
  second := fieldFromForm form.second
  hundredth := fieldFromForm form.hundredth

@[simp] theorem BACnetDate.fromDict_toDict (date : BACnetDate) : fromDict date.toDict = date := by
  simp [fromDict, toDict]

@[simp] theorem BACnetTime.fromDict_toDict (time : BACnetTime) : fromDict time.toDict = time := by
  simp [fromDict, toDict]

/-- The dictionary of a `BACnetDateTime`. -/
structure DateTimeForm where
  date : DateForm
  time : TimeForm

def BACnetDateTime.toDict (value : BACnetDateTime) : DateTimeForm :=
  { date := value.date.toDict, time := value.time.toDict }

def BACnetDateTime.fromDict (form : DateTimeForm) : BACnetDateTime :=
  { date := BACnetDate.fromDict form.date, time := BACnetTime.fromDict form.time }

@[simp] theorem BACnetDateTime.fromDict_toDict (value)
    : fromDict value.toDict = value := by
  simp [fromDict, toDict]

-- Data of any type

/-- The classes of values that are not embedded and have a `to_dict`. -/
class HasToDict where
  hasToDict : OtherValue → Bool

/-- What `to_dict` makes of a value that has it. The dictionary of Status Flags has their names for
keys; that of another class is known by the value it is of.
-/
inductive Dictionary where
  | bitString (form : BitStringForm)
  | objectIdentifier (form : ObjectIdentifierForm)
  | date (form : DateForm)
  | time (form : TimeForm)
  | statusFlags (form : StatusFlags)
  | other (origin : OtherValue)

/-- What an attribute of any type may hold: a value, or a dictionary. -/
inductive Datum where
  | typed (value : Value)
  | dictionary (form : Dictionary)

section Data

variable [HasToDict]

/-- The dictionary of a value, if `hasattr(value, "to_dict")`. -/
def Value.toDict? : Value → Option Dictionary
  | .bitString value => some (.bitString value.toDict)
  | .objectIdentifier value => some (.objectIdentifier value.toDict)
  | .date value => some (.date value.toDict)
  | .time value => some (.time value.toDict)
  | .statusFlags value => some (.statusFlags value)
  | .other value => if HasToDict.hasToDict value then some (.other value) else Option.none
  | _ => Option.none

def Datum.toForm : Datum → Datum
  | .typed value =>
    match value.toDict? with
    | some form => .dictionary form
    | none => .typed value
  | .dictionary form => .dictionary form

/-- The datum is no value with a `to_dict`. -/
def Datum.Plain : Datum → Prop
  | .typed value => value.toDict? = none
  | .dictionary _ => True

theorem Datum.toForm_eq_iff (datum : Datum) : datum.toForm = datum ↔ datum.Plain := by
  cases datum with
  | dictionary form => exact ⟨fun _ => trivial, fun _ => rfl⟩
  | typed value =>
    unfold toForm Plain
    cases form : value.toDict? with
    | none => simp [form]
    | some form => simp [form]

/-- `BACnetTimeValue`; its dictionary has the same entries. -/
structure TimeValue (Time : Type) where
  time : Time
  value : Datum

structure LogRecord (DateTime : Type) where
  timestamp : DateTime
  logDatum : Datum
  statusFlags : Option StatusFlags := none

structure PriorityValue where
  value : Datum

def TimeValue.toDict (record : TimeValue BACnetTime) : TimeValue TimeForm :=
  { time := record.time.toDict, value := record.value.toForm }

def TimeValue.fromDict (form : TimeValue TimeForm) : TimeValue BACnetTime :=
  { time := BACnetTime.fromDict form.time, value := form.value }

def LogRecord.toDict (record : LogRecord BACnetDateTime) : LogRecord DateTimeForm :=
  { timestamp := record.timestamp.toDict, logDatum := record.logDatum.toForm,
    statusFlags := record.statusFlags }

def LogRecord.fromDict (form : LogRecord DateTimeForm) : LogRecord BACnetDateTime :=
  { timestamp := BACnetDateTime.fromDict form.timestamp, logDatum := form.logDatum,
    statusFlags := form.statusFlags }

def PriorityValue.toDict (record : PriorityValue) : PriorityValue := { value := record.value.toForm }

def PriorityValue.fromDict (form : PriorityValue) : PriorityValue := form

theorem TimeValue.fromDict_toDict_iff (record)
    : fromDict record.toDict = record ↔ record.value.Plain := by
  rw [← Datum.toForm_eq_iff]
  obtain ⟨time, value⟩ := record
  simp [fromDict, toDict]

theorem LogRecord.fromDict_toDict_iff (record)
    : fromDict record.toDict = record ↔ record.logDatum.Plain := by
  rw [← Datum.toForm_eq_iff]
  obtain ⟨timestamp, logDatum, statusFlags⟩ := record
  simp [fromDict, toDict]

theorem PriorityValue.fromDict_toDict_iff (record : PriorityValue)
    : fromDict record.toDict = record ↔ record.value.Plain := by
  rw [← Datum.toForm_eq_iff]
  obtain ⟨value⟩ := record
  simp [fromDict, toDict]

/-- The JSON forms are read back exactly for clear padding, for members of `ObjectType` and for data
without a `to_dict`; bit strings with the same bits are equal exactly if their padding is the same.
-/
theorem jsonForms_lossless_iff
    : (∀ value : BitString, BitString.fromDict value.toDict = .ok value ↔ value.PaddingClear)
      ∧ (∀ value : ObjectIdentifier,
        ObjectIdentifier.fromDict value.toDict = some value ↔ value.objectType.IsMember)
      ∧ (∀ record : TimeValue BACnetTime,
        TimeValue.fromDict record.toDict = record ↔ record.value.Plain)
      ∧ (∀ record : LogRecord BACnetDateTime,
        LogRecord.fromDict record.toDict = record ↔ record.logDatum.Plain)
      ∧ (∀ record : PriorityValue,
        PriorityValue.fromDict record.toDict = record ↔ record.value.Plain)
      ∧ ∀ left right : BitString, Value.bitsOf left = Value.bitsOf right
        → (left = right
          ↔ ∀ index < left.data.length * 8, left.data.length * 8 - left.unusedBits ≤ index
            → BitString.bitAt left.data index = BitString.bitAt right.data index) :=
  ⟨BitString.fromDict_toDict_iff, ObjectIdentifier.fromDict_toDict_iff,
    TimeValue.fromDict_toDict_iff, LogRecord.fromDict_toDict_iff,
    PriorityValue.fromDict_toDict_iff, fun _ _ => BitString.eq_iff_padding⟩

end Data

def dirtyPadding : BitString := { data := [0xFF], unusedBits := 4 }

/-- Padding, vendor types and typed data are lost, and padding makes bit strings differ. -/
theorem not_jsonForms_lossless
    : ¬ ∀ [HasToDict],
      (∀ value : BitString, BitString.fromDict value.toDict = .ok value)
      ∧ (∀ value : ObjectIdentifier, ObjectIdentifier.fromDict value.toDict = some value)
      ∧ (∀ record : TimeValue BACnetTime, TimeValue.fromDict record.toDict = record)
      ∧ (∀ record : LogRecord BACnetDateTime, LogRecord.fromDict record.toDict = record)
      ∧ (∀ record : PriorityValue, PriorityValue.fromDict record.toDict = record)
      ∧ ∀ left right : BitString, Value.bitsOf left = Value.bitsOf right → left = right := by
  intro lossless
  have read := (@lossless ⟨fun _ => true⟩).1 dirtyPadding
  revert read
  decide +kernel

end BacPy
