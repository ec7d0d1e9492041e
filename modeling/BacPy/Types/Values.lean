import BacPy.Encoding.Octets
import BacPy.Types.Enums
import Mathlib.Data.Rat.Lemmas

/-! The Python values that properties hold and application-tagged octets decode to, with the
parts of Python's own behaviour the object layer relies on: equality across the number types,
truth values, ordering and hashing.

A `float` is Lean's binary64 `Float`, which has the kernel-checked arithmetic of the format.
-/

namespace BacPy

/-- What the modelled code raises: its own protocol errors or built-in exceptions. -/
inductive Raised where
  | bacnetError (errorClass : ErrorClass) (errorCode : ErrorCode)
  | rejectError (reason : RejectReason)
  | builtin (raised : PyException)
  | typeError (message : String)
  | overflowError (message : String)
  deriving DecidableEq

-- Identifiers

instance neZero16 : NeZero 16 := ⟨by decide⟩

instance neZero1024 : NeZero 1024 := ⟨by decide⟩

instance neZero4194304 : NeZero 4194304 := ⟨by decide⟩

/-- `ObjectType`: an open enumeration, numbers without a name are vendor types. -/
structure ObjectType where
  number : Fin 1024
  deriving DecidableEq

namespace ObjectType

def analogInput : ObjectType := ⟨0⟩
def analogOutput : ObjectType := ⟨1⟩
def analogValue : ObjectType := ⟨2⟩
def binaryInput : ObjectType := ⟨3⟩
def binaryOutput : ObjectType := ⟨4⟩
def binaryValue : ObjectType := ⟨5⟩
def device : ObjectType := ⟨8⟩
def eventEnrollment : ObjectType := ⟨9⟩
def file : ObjectType := ⟨10⟩
def loop : ObjectType := ⟨12⟩
def multiStateInput : ObjectType := ⟨13⟩
def multiStateOutput : ObjectType := ⟨14⟩
def notificationClass : ObjectType := ⟨15⟩
def multiStateValue : ObjectType := ⟨19⟩
def trendLog : ObjectType := ⟨20⟩
def lifeSafetyPoint : ObjectType := ⟨21⟩
def lifeSafetyZone : ObjectType := ⟨22⟩
def accumulator : ObjectType := ⟨23⟩
def pulseConverter : ObjectType := ⟨24⟩
def accessDoor : ObjectType := ⟨30⟩
def timer : ObjectType := ⟨31⟩
def characterstringValue : ObjectType := ⟨40⟩
def integerValue : ObjectType := ⟨45⟩
def largeAnalogValue : ObjectType := ⟨46⟩
def channel : ObjectType := ⟨53⟩
def lightingOutput : ObjectType := ⟨54⟩
def binaryLightingOutput : ObjectType := ⟨55⟩
def auditReporter : ObjectType := ⟨61⟩
def auditLog : ObjectType := ⟨62⟩

end ObjectType

/-- `ANALOG_TYPES`: the types whose Present_Value is Real. -/
def analogTypes : List ObjectType :=
  [.analogInput, .analogOutput, .analogValue, .largeAnalogValue]

/-- `PropertyIdentifier`: an open enumeration of 22-bit numbers. -/
structure PropertyIdentifier where
  number : Fin 4194304
  deriving DecidableEq

namespace PropertyIdentifier

def ackedTransitions : PropertyIdentifier := ⟨0⟩
def ackRequired : PropertyIdentifier := ⟨1⟩
def activeText : PropertyIdentifier := ⟨4⟩
def alarmValue : PropertyIdentifier := ⟨6⟩
def alarmValues : PropertyIdentifier := ⟨7⟩
def all : PropertyIdentifier := ⟨8⟩
def archive : PropertyIdentifier := ⟨13⟩
def notificationClass : PropertyIdentifier := ⟨17⟩
def covIncrement : PropertyIdentifier := ⟨22⟩
def deadband : PropertyIdentifier := ⟨25⟩
def description : PropertyIdentifier := ⟨28⟩
def deviceType : PropertyIdentifier := ⟨31⟩
def errorLimit : PropertyIdentifier := ⟨34⟩
def eventEnable : PropertyIdentifier := ⟨35⟩
def eventState : PropertyIdentifier := ⟨36⟩
def eventType : PropertyIdentifier := ⟨37⟩
def feedbackValue : PropertyIdentifier := ⟨40⟩
def fileAccessMethod : PropertyIdentifier := ⟨41⟩
def fileSize : PropertyIdentifier := ⟨42⟩
def fileType : PropertyIdentifier := ⟨43⟩
def highLimit : PropertyIdentifier := ⟨45⟩
def inactiveText : PropertyIdentifier := ⟨46⟩
def limitEnable : PropertyIdentifier := ⟨52⟩
def listOfObjectPropertyReferences : PropertyIdentifier := ⟨54⟩
def lowLimit : PropertyIdentifier := ⟨59⟩
def maxPresValue : PropertyIdentifier := ⟨65⟩
def minimumOffTime : PropertyIdentifier := ⟨66⟩
def minimumOnTime : PropertyIdentifier := ⟨67⟩
def minPresValue : PropertyIdentifier := ⟨69⟩
def modificationDate : PropertyIdentifier := ⟨71⟩
def notifyType : PropertyIdentifier := ⟨72⟩
def numberOfStates : PropertyIdentifier := ⟨74⟩
def objectIdentifier : PropertyIdentifier := ⟨75⟩
def objectList : PropertyIdentifier := ⟨76⟩
def objectName : PropertyIdentifier := ⟨77⟩
def objectPropertyReference : PropertyIdentifier := ⟨78⟩
def objectType : PropertyIdentifier := ⟨79⟩
def optional : PropertyIdentifier := ⟨80⟩
def outOfService : PropertyIdentifier := ⟨81⟩
def eventParameters : PropertyIdentifier := ⟨83⟩
def polarity : PropertyIdentifier := ⟨84⟩
def presentValue : PropertyIdentifier := ⟨85⟩
def priority : PropertyIdentifier := ⟨86⟩
def priorityArray : PropertyIdentifier := ⟨87⟩
def readOnly : PropertyIdentifier := ⟨99⟩
def recipientList : PropertyIdentifier := ⟨102⟩
def reliability : PropertyIdentifier := ⟨103⟩
def relinquishDefault : PropertyIdentifier := ⟨104⟩
def required : PropertyIdentifier := ⟨105⟩
def resolution : PropertyIdentifier := ⟨106⟩
def setpoint : PropertyIdentifier := ⟨108⟩
def statusFlags : PropertyIdentifier := ⟨111⟩
def systemStatus : PropertyIdentifier := ⟨112⟩
def timeDelay : PropertyIdentifier := ⟨113⟩
def units : PropertyIdentifier := ⟨117⟩
def updateInterval : PropertyIdentifier := ⟨118⟩
def bufferSize : PropertyIdentifier := ⟨126⟩
def eventTimeStamps : PropertyIdentifier := ⟨130⟩
def logBuffer : PropertyIdentifier := ⟨131⟩
def logDeviceObjectProperty : PropertyIdentifier := ⟨132⟩
def logEnable : PropertyIdentifier := ⟨133⟩
def logInterval : PropertyIdentifier := ⟨134⟩
def recordCount : PropertyIdentifier := ⟨141⟩
def startTime : PropertyIdentifier := ⟨142⟩
def stopTime : PropertyIdentifier := ⟨143⟩
def stopWhenFull : PropertyIdentifier := ⟨144⟩
def totalRecordCount : PropertyIdentifier := ⟨145⟩
def activeCovSubscriptions : PropertyIdentifier := ⟨152⟩
def configurationFiles : PropertyIdentifier := ⟨154⟩
def databaseRevision : PropertyIdentifier := ⟨155⟩
def lastRestoreTime : PropertyIdentifier := ⟨157⟩
def mode : PropertyIdentifier := ⟨160⟩
def trackingValue : PropertyIdentifier := ⟨164⟩
def lifeSafetyAlarmValues : PropertyIdentifier := ⟨166⟩
def alignIntervals : PropertyIdentifier := ⟨193⟩
def intervalOffset : PropertyIdentifier := ⟨195⟩
def loggingType : PropertyIdentifier := ⟨197⟩
def trigger : PropertyIdentifier := ⟨205⟩
def backupAndRestoreState : PropertyIdentifier := ⟨338⟩
def eventMessageTexts : PropertyIdentifier := ⟨351⟩
def eventMessageTextsConfig : PropertyIdentifier := ⟨352⟩
def eventDetectionEnable : PropertyIdentifier := ⟨353⟩
def eventAlgorithmInhibit : PropertyIdentifier := ⟨354⟩
def timeDelayNormal : PropertyIdentifier := ⟨356⟩
def reliabilityEvaluationInhibit : PropertyIdentifier := ⟨357⟩
def channelNumber : PropertyIdentifier := ⟨366⟩
def controlGroups : PropertyIdentifier := ⟨367⟩
def propertyList : PropertyIdentifier := ⟨371⟩
def commandTimeArray : PropertyIdentifier := ⟨430⟩
def currentCommandPriority : PropertyIdentifier := ⟨431⟩
def lastCommandTime : PropertyIdentifier := ⟨432⟩
def valueSource : PropertyIdentifier := ⟨433⟩
def valueSourceArray : PropertyIdentifier := ⟨434⟩
def auditLevel : PropertyIdentifier := ⟨498⟩
def auditableOperations : PropertyIdentifier := ⟨501⟩
def monitoredObjects : PropertyIdentifier := ⟨504⟩

/-- The number has a name; `_missing_` makes pseudo-members of all others, which cannot be looked
up by their names.
-/
def isMember (prop : PropertyIdentifier) : Bool :=
  [(0, 18), (19, 36), (56, 39), (96, 5), (102, 27), (130, 8), (139, 55), (195, 3), (202, 14),
    (218, 5), (226, 10), (244, 40), (285, 8), (294, 5), (300, 12), (317, 7), (326, 140),
    (467, 41)].any fun (first, count) =>
      first ≤ prop.number.val ∧ prop.number.val < first + count

end PropertyIdentifier

/-- `ObjectIdentifier`: a 10-bit type and a 22-bit instance, as `__post_init__` checks. -/
structure ObjectIdentifier where
  objectType : ObjectType
  instanceNumber : Fin 4194304
  deriving DecidableEq

-- Values

/-- An `IntEnum` class: its members, and the numbers below which `_missing_` accepts every one
as a pseudo-member.
-/
structure EnumType where
  name : String
  members : List Nat
  openBelow : Nat := 0
  deriving DecidableEq

/-- `enum_type(value)` finds or makes a member. -/
def EnumType.accepts (enum : EnumType) (value : Int) : Bool :=
  0 ≤ value ∧ (value.toNat ∈ enum.members ∨ value.toNat < enum.openBelow)

/-- `BitString`: the octets, and how many trailing bits of the last one are unused. -/
structure BitString where
  data : Bytes
  unusedBits : Nat
  inRange : unusedBits ≤ 7 ∧ (data = [] → unusedBits = 0) := by simp
  deriving DecidableEq

/-- `BACnetDate`: 255 stands for an unspecified field. -/
structure BACnetDate where
  year : Nat
  month : Nat
  day : Nat
  dayOfWeek : Nat
  deriving DecidableEq

/-- `BACnetTime`: 255 stands for an unspecified field. -/
structure BACnetTime where
  hour : Nat
  minute : Nat
  second : Nat
  hundredth : Nat
  deriving DecidableEq

/-- `StatusFlags` (Clause 12.50). -/
structure StatusFlags where
  inAlarm : Bool := false
  fault : Bool := false
  overridden : Bool := false
  outOfService : Bool := false
  deriving DecidableEq

/-- A value of a class that is not embedded: all that the modelled code does with it is to
compare it and to encode it, here as the results its encoder gives for either choice of
`int_as_real`. No decoder makes such values.
-/
structure OtherValue where
  label : Nat
  hashable : Bool
  encoding : Except Raised Bytes
  encodingAsReal : Except Raised Bytes
  deriving DecidableEq

/-- A Python value other than a list. -/
inductive Scalar where
  | none
  | bool (value : Bool)
  | int (value : Int)
  /-- a member of an `IntEnum` class -/
  | enum (type : EnumType) (number : Nat)
  | float (value : Float)
  /-- `BACnetDouble`, the subclass of `float` that encodes as Double -/
  | double (value : Float)
  | bytes (value : Bytes)
  | str (value : String)
  | bitString (value : BitString)
  | date (value : BACnetDate)
  | time (value : BACnetTime)
  | objectIdentifier (value : ObjectIdentifier)
  | statusFlags (value : StatusFlags)
  /-- `BACnetValueSource.none_source()` -/
  | noneSource
  | foreign (value : OtherValue)
  deriving DecidableEq

/-- A Python value. -/
inductive Value where
  | scalar (value : Scalar)
  | list (items : List Value)

namespace Value

@[match_pattern] abbrev none : Value := scalar .none
@[match_pattern] abbrev bool (value : Bool) : Value := scalar (.bool value)
@[match_pattern] abbrev int (value : Int) : Value := scalar (.int value)
@[match_pattern] abbrev enum (type : EnumType) (number : Nat) : Value := scalar (.enum type number)
@[match_pattern] abbrev float (value : Float) : Value := scalar (.float value)
@[match_pattern] abbrev double (value : Float) : Value := scalar (.double value)
@[match_pattern] abbrev bytes (value : Bytes) : Value := scalar (.bytes value)
@[match_pattern] abbrev str (value : String) : Value := scalar (.str value)
@[match_pattern] abbrev bitString (value : BitString) : Value := scalar (.bitString value)
@[match_pattern] abbrev date (value : BACnetDate) : Value := scalar (.date value)
@[match_pattern] abbrev time (value : BACnetTime) : Value := scalar (.time value)
@[match_pattern] abbrev objectIdentifier (value : ObjectIdentifier) : Value :=
  scalar (.objectIdentifier value)
@[match_pattern] abbrev statusFlags (value : StatusFlags) : Value := scalar (.statusFlags value)
@[match_pattern] abbrev noneSource : Value := scalar .noneSource
@[match_pattern] abbrev other (value : OtherValue) : Value := scalar (.foreign value)

mutual

/-- Equality of representations is decidable, by recursion on the first value. -/
def decEq : (left right : Value) → Decidable (left = right)
  | .scalar value, .scalar another => decidable_of_iff (value = another) (by simp)
  | .scalar _, .list _ => isFalse nofun
  | .list _, .scalar _ => isFalse nofun
  | .list items, .list others =>
    have := decEqList items others
    decidable_of_iff (items = others) (by simp)

/-- The same for the items of two lists. -/
def decEqList : (left right : List Value) → Decidable (left = right)
  | [], [] => isTrue rfl
  | [], _ :: _ => isFalse nofun
  | _ :: _, [] => isFalse nofun
  | first :: rest, another :: others =>
    have := decEq first another
    have := decEqList rest others
    decidable_of_iff (first = another ∧ rest = others) (by simp)

end

instance : DecidableEq Value := decEq

example : Value.list [.int 3, .none] = .list [.int 3, .none] := by decide

-- Numbers

def floatRat? (value : Float) : Option Rat :=
  match value.toModel.unpack with
  | .zero _ => some 0
  | .finite sign mantissa exponent _ =>
    let magnitude := (mantissa : Rat) * (2 : Rat) ^ exponent
    some (match sign with | .positive => magnitude | .negative => -magnitude)
  | _ => Option.none

/-- The integer a float equals, if there is one. -/
def floatInt? (value : Float) : Option Int :=
  match floatRat? value with
  | some exact => if exact.den = 1 then some exact.num else Option.none
  | Option.none => Option.none

/-- `int(value)` of an `int`, which `bool` and `IntEnum` extend. -/
def asInt? : Value → Option Int
  | .bool value => some (if value then 1 else 0)
  | .int value => some value
  | .enum _ number => some number
  | _ => Option.none

/-- The number of a `float`, which `BACnetDouble` extends. -/
def asFloat? : Value → Option Float
  | .float value | .double value => some value
  | _ => Option.none

/-- `isinstance(value, (int, float))` -/
def isNumber (value : Value) : Bool := value.asInt?.isSome || value.asFloat?.isSome

/-- `float(value)` of an `int`: the nearest float, unless that is too large. -/
def floatOfInt (value : Int) : Except Raised Float :=
  let converted := Float.ofInt value
  if converted.isFinite then .ok converted
  else .error (.overflowError "int too large to convert to float")

mutual

/-- The representative of all values that are equal to this one in Python: numbers are equal
across the number types, and lists are equal item by item.
-/
def normal : Value → Value
  | .bool value => .int (if value then 1 else 0)
  | .enum _ number => .int number
  | .float value | .double value =>
    match floatInt? value with
    | some whole => .int whole
    | Option.none => .float value
  | .list items => .list (normalList items)
  | .scalar value => .scalar value

def normalList : List Value → List Value
  | [] => []
  | item :: rest => normal item :: normalList rest

end

def isNan (value : Value) : Bool := value.asFloat?.any Float.isNaN

/-- `left == right` -/
def pyEq (left right : Value) : Bool :=
  !left.isNan && !right.isNan && decide (left.normal = right.normal)

instance : LawfulBEq (Option Ordering) := inferInstance

/-- The exact order of two numbers, `none` where NaN is involved. -/
def compareNumbers (left right : Value) : Option Ordering :=
  match left.asInt?, right.asInt?, left.asFloat?, right.asFloat? with
  | some first, some second, _, _ => some (compare first second)
  | _, _, some first, some second =>
    first.toModel.compare second.toModel
  | some first, _, _, some second => compareIntFloat first second
  | _, some second, some first, _ => (compareIntFloat second first).map Ordering.swap
  | _, _, _, _ => Option.none
where
  /-- An `int` against a `float`, without rounding either. -/
  compareIntFloat (first : Int) (second : Float) : Option Ordering :=
    match floatRat? second with
    | some exact => some (if first < exact then .lt else if first = exact then .eq else .gt)
    | Option.none =>
      if second.isNaN then Option.none
      else some (if (0 : Float) < second then .lt else .gt)

/-- `left < right` where `left` is a number: other types on the right are refused. -/
def pyLt (left right : Value) : Except Raised Bool :=
  if right.isNumber then .ok (compareNumbers left right = some .lt)
  else .error (.typeError "'<' not supported between these types")

/-- `bool(value)` -/
def truthy : Value → Bool
  | .none => false
  | .bool value => value
  | .int value => value ≠ 0
  | .enum _ number => number ≠ 0
  | .float value | .double value => !(value == 0)
  | .bytes value => !value.isEmpty
  | .str value => !value.isEmpty
  | .bitString value => !value.data.isEmpty && value.data.length * 8 ≠ value.unusedBits
  | .list items => !items.isEmpty
  | _ => true

/-- What a dictionary finds a key by; lists and some other values are unhashable. -/
def hashKey (value : Value) : Except Raised Value :=
  match value with
  | .list _ => .error (.typeError "unhashable type: 'list'")
  | .other foreign =>
    if foreign.hashable then .ok value else .error (.typeError "unhashable type")
  | _ => .ok value.normal

/-- `isinstance(value, list)` -/
def asList? : Value → Option (List Value)
  | .list items => some items
  | _ => Option.none

@[simp] theorem asList?_list (items : List Value) : (Value.list items).asList? = some items := rfl

theorem asList?_eq_some {value : Value} {items : List Value}
    : value.asList? = some items ↔ value = .list items := by
  cases value <;> simp [asList?]

/-- Equal representations are equal values, NaN apart. -/
theorem pyEq_self {value : Value} (isNumber : value.isNan = false) : value.pyEq value := by
  simp [pyEq, isNumber]

end Value

end BacPy

/-! What the periodic engines of the application make of property values: Python's conversions and
operators on them, and the attributes of values whose classes are not embedded.
-/

namespace BacPy

/-- `BACnetDeviceObjectPropertyReference`, as far as the engines read it. -/
structure ObjectPropertyReference where
  objectIdentifier : ObjectIdentifier
  propertyIdentifier : Int
  propertyArrayIndex : Option Nat := none

/-- How the engines see text as a number, and values of classes that are not embedded. -/
class EngineValues where
  /-- `float(text)`, if it can be read -/
  parseFloat : Value → Option Float
  /-- `int(text)`, if it can be read -/
  parseInt : Value → Option Int
  /-- the value is a `BACnetDeviceObjectPropertyReference` -/
  reference? : OtherValue → Option ObjectPropertyReference
  /-- `iter(value)`, if it can be iterated over -/
  items? : OtherValue → Option (List Value)
  /-- `BACnetTimeStamp(choice=1, value=number)` -/
  sequenceStamp : Int → OtherValue

namespace Value

variable [EngineValues]

/-- `float(value)` -/
def toFloat (value : Value) : Except Raised Float :=
  match value.asInt?, value.asFloat? with
  | some number, _ => floatOfInt number
  | Option.none, some number => .ok number
  | Option.none, Option.none =>
    match value with
    | .str _ | .bytes _ =>
      match EngineValues.parseFloat value with
      | some number => .ok number
      | Option.none => .error (.builtin (.valueError "could not convert string to float"))
    | _ => .error (.typeError "float() argument must be a string or a real number")

/-- The whole part of a number. -/
def truncate (number : Rat) : Int := if number < 0 then -(-number).floor else number.floor

/-- `int(value)` -/
def toInt (value : Value) : Except Raised Int :=
  match value.asInt?, value.asFloat? with
  | some number, _ => .ok number
  | Option.none, some number =>
    match floatRat? number with
    | some exact => .ok (truncate exact)
    | Option.none =>
      if number.isNaN then .error (.builtin (.valueError "cannot convert float NaN to integer"))
      else .error (.overflowError "cannot convert float infinity to integer")
  | Option.none, Option.none =>
    match value with
    | .str _ | .bytes _ =>
      match EngineValues.parseInt value with
      | some number => .ok number
      | Option.none => .error (.builtin (.valueError "invalid literal for int()"))
    | _ => .error (.typeError "int() argument must be a string or a real number")

/-- The number as an operand of `float` arithmetic. -/
def operand (value : Value) : Except Raised Float :=
  match value.asInt?, value.asFloat? with
  | some number, _ => floatOfInt number
  | Option.none, some number => .ok number
  | Option.none, Option.none => .error (.typeError "unsupported operand types for -")

/-- A comparison of two values, of which the orderings in `holds` are true. -/
def comparesTo (left right : Value) (holds : List Ordering) : Except Raised Bool :=
  if left.isNumber ∧ right.isNumber then
    .ok ((compareNumbers left right).any fun order => order ∈ holds)
  else .error (.typeError "comparison not supported between these types")

/-- The bits of a `BitString`, the most significant of each octet first. -/
def bitsOf (bits : BitString) : List Bool :=
  (List.range (bits.data.length * 8 - bits.unusedBits)).map fun index =>
    (bits.data.getD (index / 8) 0).toNat.testBit (7 - index % 8)

/-- `list(value)` -/
def iterate (value : Value) : Except Raised (List Value) :=
  match value with
  | .list items => .ok items
  | .str text => .ok (text.toList.map fun letter => .str (String.ofList [letter]))
  | .bytes octets => .ok (octets.map fun octet => .int octet.toNat)
  | .bitString bits => .ok ((bitsOf bits).map .bool)
  | .other foreign =>
    match EngineValues.items? foreign with
    | some items => .ok items
    | Option.none => .error (.typeError "object is not iterable")
  | _ => .error (.typeError "object is not iterable")

/-- `value in items` -/
def isIn (value : Value) (items : List Value) : Bool := items.any fun item => item.pyEq value

end Value

end BacPy
