import BacPy.Library.Dict
import BacPy.Library.Stateful
import BacPy.Types.Values

/-! `BACnetObject`: construction, `read_property`, and the part of `write_property` that works on
one object alone. The classes of the source are records here: the definitions of their
properties, which mixins they have, and what their constructors add.
-/

namespace BacPy

open Library

inductive PropertyAccess where
  | readOnly | readWrite
  deriving DecidableEq

/-- The declared Python type of a property, as far as `_coerce_value`, the list services and the
client look at it.
-/
inductive Datatype where
  | enum (type : EnumType)
  | bool | int | float | double | str | bytes | bitString | date | time | objectIdentifier
  | statusFlags | list
  | other (name : String)
  deriving DecidableEq

structure PropertyDefinition where
  identifier : PropertyIdentifier
  datatype : Datatype
  access : PropertyAccess
  required : Bool
  default : Value := .none
  deriving DecidableEq

/-- Which class-level checks `write_property` makes before the common part. -/
inductive WriteCheck where
  | plain
  /-- `_AnalogBase` -/
  | analog
  /-- `_MultiStateBase` -/
  | multiState
  deriving DecidableEq

/-- An assignment to a property in the constructor of a class. -/
inductive InitStep where
  /-- `_set_default` -/
  | setDefault (prop : PropertyIdentifier) (value : Value)
  /-- `self._properties[prop] = value` -/
  | set (prop : PropertyIdentifier) (value : Value)

def InitStep.prop : InitStep → PropertyIdentifier
  | .setDefault prop _ => prop
  | .set prop _ => prop

/-- The properties that every class declares read-only. -/
def fixedProperties : List PropertyIdentifier :=
  [.objectIdentifier, .objectType, .propertyList, .statusFlags, .priorityArray,
   .currentCommandPriority, .valueSource, .valueSourceArray, .lastCommandTime, .commandTimeArray,
   .polarity]

/-- The properties that a command is resolved by, read through, or resolved to. -/
def commandingProperties : List PropertyIdentifier :=
  [.presentValue, .relinquishDefault, .priorityArray, .valueSource, .valueSourceArray,
   .lastCommandTime, .commandTimeArray, .polarity]

theorem apart_nil : ∀ assigned ∈ ([] ++ [] : List InitStep), assigned.prop ∉ commandingProperties :=
  nofun

/-- A class of BACnet objects, with the arguments of its constructor that are not properties.
After the common part, constructors set some defaults, then the commands up, then defaults.
-/
structure ObjectClass where
  objectType : ObjectType
  propertyDefinitions : List PropertyDefinition
  writeCheck : WriteCheck := .plain
  /-- `_BinaryPolarityMixin` -/
  binaryPolarity : Bool := false
  /-- `_MinOnOffTimeMixin` -/
  minOnOffTime : Bool := false
  /-- `DeviceObject.read_property` -/
  virtualObjectList : Bool := false
  setup : List InitStep := []
  /-- the argument of `_init_commandable`, if it is called -/
  commandable : Option Value := none
  completion : List InitStep := []
  fixedReadOnly : ∀ definition ∈ propertyDefinitions,
    definition.identifier ∈ fixedProperties → definition.access = .readOnly := by decide
  /-- commandable classes have a present value -/
  valueDeclared : commandable ≠ none
    → propertyDefinitions.any fun definition => definition.identifier = .presentValue := by
      intro _; decide
  apartFromCommands : ∀ assigned ∈ setup ++ completion, assigned.prop ∉ commandingProperties := by
    first | exact apart_nil | decide

/-- `cls.PROPERTY_DEFINITIONS.get(prop_id)` -/
def ObjectClass.definition? (cls : ObjectClass) (prop : PropertyIdentifier)
    : Option PropertyDefinition :=
  cls.propertyDefinitions.find? fun definition => definition.identifier = prop

/-- The members of `ObjectType`; `_missing_` accepts all of its 10-bit numbers. -/
def objectTypeEnum : EnumType := { name := "ObjectType", members := [], openBelow := 1024 }

/-- The members of `PropertyIdentifier`; `_missing_` accepts all of its 22-bit numbers. -/
def propertyIdentifierEnum : EnumType :=
  { name := "PropertyIdentifier", members := [], openBelow := 4194304 }

/-- `EventState` -/
def eventStateEnum : EnumType := { name := "EventState", members := [0, 1, 2, 3, 4, 5] }

/-- `BinaryPV` -/
def binaryPvEnum : EnumType := { name := "BinaryPV", members := [0, 1] }

/-- `Polarity` -/
def polarityEnum : EnumType := { name := "Polarity", members := [0, 1] }

/-- One entry of `_priority_array`, `_value_source_array` and `_command_time_array`. -/
structure CommandSlot where
  value : Value := .none
  source : Value := .noneSource
  time : Value := .none
  deriving DecidableEq

/-- `BACnetObject`. The three command arrays exist together, and `_properties` holds the very
lists; no write replaces them, as their properties are read-only in every class.
-/
structure BACnetObject where
  objectId : ObjectIdentifier
  cls : ObjectClass
  properties : Dict PropertyIdentifier Value := .empty
  commands : Option (Vector CommandSlot 16) := none
  /-- `_object_db is not None` -/
  attached : Bool := false
  /-- `_min_time_lock_until` and `_min_time_locked_value` -/
  minTimeLock : Option (Float × Value) := none
  /-- `_sequence_counter` of an Audit Log -/
  sequenceCounter : Nat := 0

def propertyError {Result : Type} (code : ErrorCode) : Except Raised Result :=
  .error (.bacnetError .property code)

namespace BACnetObject

/-- The entry of `_properties`, if there is one. -/
def stored (obj : BACnetObject) (prop : PropertyIdentifier) : Option Value :=
  match obj.commands with
  | none => obj.properties.get prop
  | some slots =>
    if prop = .priorityArray then some (.list (slots.toList.map CommandSlot.value))
    else if prop = .valueSourceArray then some (.list (slots.toList.map CommandSlot.source))
    else if prop = .commandTimeArray then some (.list (slots.toList.map CommandSlot.time))
    else obj.properties.get prop

/-- `self._properties.get(prop_id)` -/
def get (obj : BACnetObject) (prop : PropertyIdentifier) : Value := (obj.stored prop).getD .none

/-- `self._properties[prop_id] = value` -/
def set (obj : BACnetObject) (prop : PropertyIdentifier) (value : Value) : BACnetObject :=
  { obj with properties := obj.properties.set prop value }

-- Construction

def initCommandable (obj : BACnetObject) (relinquishDefault : Value) : BACnetObject :=
  let obj := { obj with commands := some (Vector.replicate 16 {}) }
  let obj :=
    if (obj.stored .relinquishDefault).isSome then obj
    else obj.set .relinquishDefault relinquishDefault
  (obj.set .valueSource .noneSource).set .lastCommandTime .none

/-- An assignment of a constructor. -/
def initialize_ (obj : BACnetObject) : InitStep → BACnetObject
  | .setDefault prop value => if (obj.stored prop).isSome then obj else obj.set prop value
  | .set prop value => obj.set prop value

/-- `BACnetObject.__init__`: the defaults, the identifying properties, then the initial
properties over all of these.
-/
def baseInit (cls : ObjectClass) (instanceNumber : Fin 4194304)
    (initialProperties : List (PropertyIdentifier × Value))
    : BACnetObject :=
  let objectId : ObjectIdentifier := { objectType := cls.objectType, instanceNumber }
  let obj : BACnetObject := { objectId, cls }
  let obj := cls.propertyDefinitions.foldl (fun obj definition =>
    if definition.default = .none then obj else obj.set definition.identifier definition.default)
    obj
  let obj := obj.set .objectIdentifier (.objectIdentifier objectId)
  let obj := obj.set .objectType (.enum objectTypeEnum cls.objectType.number)
  initialProperties.foldl (fun obj entry => obj.set entry.1 entry.2) obj

def construct (cls : ObjectClass) (instanceNumber : Fin 4194304)
    (initialProperties : List (PropertyIdentifier × Value))
    : BACnetObject :=
  let obj := cls.setup.foldl initialize_ (baseInit cls instanceNumber initialProperties)
  let obj := cls.commandable.elim obj obj.initCommandable
  cls.completion.foldl initialize_ obj

/-- `create_object`: a registered class, an instance number that fits, and properties that have
names. The properties are keyword arguments, so the name of its own parameter is taken.
-/
def create (registry : List ObjectClass) (objectType : ObjectType) (instanceNumber : Nat)
    (initialProperties : List (PropertyIdentifier × Value))
    : Except Raised BACnetObject :=
  if initialProperties.any fun entry => entry.1 = .objectType then
    .error (.typeError "create_object() got multiple values for argument 'object_type'")
  else
    match registry.find? fun cls => cls.objectType = objectType with
    | none => .error (.bacnetError .object .unsupportedObjectType)
    | some cls =>
      if inRange : instanceNumber < 4194304 then
        match initialProperties.find? fun entry => !entry.1.isMember with
        | some (prop, _) => .error (.builtin (.keyError prop.number))
        | none => .ok (construct cls ⟨instanceNumber, inRange⟩ initialProperties)
      else
        .error (.builtin (.valueError
          s!"Instance number must be 0-4194303, got {instanceNumber}"))

-- Reading

def propertyListExclusions : List PropertyIdentifier :=
  [.objectIdentifier, .objectName, .objectType, .propertyList]

def getPropertyList (obj : BACnetObject) : Value :=
  let listed := obj.cls.propertyDefinitions.filter fun definition =>
    definition.identifier ∉ propertyListExclusions
      ∧ ((obj.stored definition.identifier).isSome ∨ definition.required)
  let result := listed.map PropertyDefinition.identifier
  let result :=
    if obj.commands.isSome ∧ (obj.cls.definition? .currentCommandPriority).isSome
        ∧ .currentCommandPriority ∉ result then
      result ++ [.currentCommandPriority]
    else result
  .list (result.map fun prop => .enum propertyIdentifierEnum prop.number)

/-- The slot that determines the present value: the first one whose value is not null. -/
def winningSlot? (slots : Vector CommandSlot 16) : Option CommandSlot :=
  slots.toList.find? fun slot => slot.value ≠ .none

def getCurrentCommandPriority (obj : BACnetObject) : Except Raised Value :=
  match obj.commands with
  | none => propertyError .unknownProperty
  | some slots =>
    match slots.toList.findIdx? fun slot => slot.value ≠ .none with
    | some index => .ok (.int (index + 1))
    | none => .ok .none

def getStatusFlags (obj : BACnetObject) : Except Raised Value :=
  if (obj.cls.definition? .statusFlags).isNone then propertyError .unknownProperty
  else
    let eventState := obj.get .eventState
    let reliability := obj.get .reliability
    .ok (.statusFlags {
      inAlarm := eventState ≠ .none && !eventState.pyEq (.int 0)
      fault := reliability ≠ .none && !reliability.pyEq (.int 0)
      overridden :=
        match obj.get .statusFlags with
        | .statusFlags flags => flags.overridden
        | _ => false
      outOfService := (obj.get .outOfService).truthy
    })

/-- An element of an array-valued property, its length at index 0. -/
def readElement (value : Value) (index : Nat) : Except Raised Value :=
  match value.asList? with
  | none => propertyError .propertyIsNotAnArray
  | some items =>
    if index = 0 then .ok (.int items.length)
    else
      match items[index - 1]? with
      | some item => .ok item
      | none => propertyError .invalidArrayIndex

/-- `BACnetObject.read_property` -/
def baseReadProperty (obj : BACnetObject) (prop : PropertyIdentifier) (arrayIndex : Option Nat)
    : Except Raised Value :=
  if prop = .propertyList then .ok obj.getPropertyList
  else if prop = .currentCommandPriority then obj.getCurrentCommandPriority
  else if prop = .statusFlags then obj.getStatusFlags
  else
    match obj.cls.definition? prop with
    | none => propertyError .unknownProperty
    | some definition =>
      let value := obj.get prop
      if value = .none ∧ definition.required then propertyError .valueNotInitialized
      else
        match arrayIndex with
        | some index => readElement value index
        | none => .ok value

/-- `_BinaryPolarityMixin`: the present value read through a reversed polarity. -/
def throughPolarity (obj : BACnetObject) (value : Value) : Value :=
  if ((obj.stored .polarity).getD (.enum polarityEnum 0)).pyEq (.int 1) then
    if value.pyEq (.int 0) then .enum binaryPvEnum 1 else .enum binaryPvEnum 0
  else value

/-- `read_property` of an object that is not a Device. -/
def readProperty (obj : BACnetObject) (prop : PropertyIdentifier) (arrayIndex : Option Nat := none)
    : Except Raised Value := do
  let value ← obj.baseReadProperty prop arrayIndex
  if obj.cls.binaryPolarity ∧ prop = .presentValue then .ok (obj.throughPolarity value)
  else .ok value

-- Writing

def coerceValue (definition : PropertyDefinition) (value : Value) : Value :=
  match definition.datatype, value with
  | .enum type, .int number => if type.accepts number then .enum type number.toNat else value
  | .double, .float value => .double value
  | _, value => value

/-- `value < bound` raises `VALUE_OUT_OF_RANGE`, for a bound that is set. -/
def refuseBelow (value bound : Value) : Except Raised Unit :=
  if bound = .none then .ok ()
  else do
    if ← value.pyLt bound then propertyError .valueOutOfRange else .ok ()

/-- `value > bound` raises `VALUE_OUT_OF_RANGE`, for a bound that is set. -/
def refuseAbove (value bound : Value) : Except Raised Unit :=
  if bound = .none then .ok ()
  else if bound.isNumber then
    if Value.compareNumbers value bound = some .gt then propertyError .valueOutOfRange else .ok ()
  else .error (.typeError "'>' not supported between these types")

/-- The checks of `_AnalogBase.write_property` and `_MultiStateBase.write_property`. -/
def checkWrite (obj : BACnetObject) (prop : PropertyIdentifier) (value : Value)
    : Except Raised Unit :=
  match obj.cls.writeCheck with
  | .plain => .ok ()
  | .analog => do
      if prop = .presentValue ∧ value.isNumber then
        refuseBelow value (obj.get .minPresValue)
        refuseAbove value (obj.get .maxPresValue)
      if prop = .covIncrement ∧ value.isNumber then
        refuseBelow value (.int 0)
  | .multiState => do
      if prop = .presentValue ∧ value.asInt?.isSome then
        let states := obj.get .numberOfStates
        if states ≠ .none then
          refuseBelow value (.int 1)
          refuseAbove value states
      if prop = .numberOfStates ∧ value.asInt?.isSome then
        refuseBelow value (.int 1)

/-- The definition of a property that `write_property` may write. -/
def writable (obj : BACnetObject) (prop : PropertyIdentifier)
    : Except Raised PropertyDefinition :=
  match obj.cls.definition? prop with
  | none => propertyError .unknownProperty
  | some definition =>
    -- Present_Value is writable while Out_Of_Service is TRUE
    if definition.access = .readOnly
        ∧ ¬ (prop = .presentValue ∧ obj.get .outOfService = .bool true) then
      propertyError .writeAccessDenied
    else .ok definition

/-- The slot array with one slot written: the value, and its source and time. -/
def fillSlot (slots : Vector CommandSlot 16) (index : Fin 16) (value : Value)
    : Vector CommandSlot 16 :=
  slots.set index { value }

/-- The present value and its source again from the slots. -/
def resolve (obj : BACnetObject) (slots : Vector CommandSlot 16) : BACnetObject :=
  match winningSlot? slots with
  | some slot =>
    ((obj.set .presentValue slot.value).set .valueSource slot.source).set
      .lastCommandTime slot.time
  | none =>
    ((obj.set .presentValue (obj.get .relinquishDefault)).set .valueSource .noneSource).set
      .lastCommandTime .none

/-- `BACnetObject._write_with_priority`. It fails before it changes anything. -/
def baseWriteWithPriority (obj : BACnetObject) (slots : Vector CommandSlot 16) (value : Value)
    (priority : Nat)
    : Except Raised BACnetObject :=
  if inRange : 1 ≤ priority ∧ priority ≤ 16 then
    if priority = 6 ∧ ((obj.cls.definition? .minimumOnTime).isSome
        ∨ (obj.cls.definition? .minimumOffTime).isSome) then
      propertyError .writeAccessDenied
    else
      let slots := fillSlot slots ⟨priority - 1, by omega⟩ value
      .ok ({ obj with commands := some slots }.resolve slots)
  else .error (.bacnetError .services .parameterOutOfRange)

/-- `_start_lock_if_needed`: hold a present value that has just been reached for the minimum
time of its state, if one is set.
-/
def startLockIfNeeded (obj : BACnetObject) (value : Value) (now : Float)
    : Except Raised BACnetObject :=
  let lockFor (time : Value) : Except Raised BACnetObject := do
    if time.truthy then
      if ← positive time then
        let seconds ← secondsOf time
        .ok { obj with minTimeLock := some (now + seconds, value) }
      else .ok obj
    else .ok obj
  if value.pyEq (.int 1) then lockFor (obj.get .minimumOnTime)
  else if value.pyEq (.int 0) then lockFor (obj.get .minimumOffTime)
  else .ok obj
where
  /-- `time > 0` -/
  positive (time : Value) : Except Raised Bool :=
    if time.isNumber then .ok (Value.compareNumbers time (.int 0) = some .gt)
    else .error (.typeError "'>' not supported between these types")
  /-- The number added to the clock. -/
  secondsOf (time : Value) : Except Raised Float :=
    match time.asFloat?, time.asInt? with
    | some seconds, _ => .ok seconds
    | none, some seconds => Value.floatOfInt seconds
    | none, none => .error (.typeError "unsupported operand types for +")

/-- `_MinOnOffTimeMixin._write_with_priority` after the priority array has been written. -/
def holdMinTime (before obj : BACnetObject) (now : Float) : Stateful Raised BACnetObject Unit :=
  fun _ =>
    match obj.minTimeLock with
    | some (until_, locked) =>
      if now < until_ then (.ok (), obj.set .presentValue locked)
      else holdChanged { obj with minTimeLock := none }
    | none => holdChanged obj
where
  /-- Lock a present value that has changed. -/
  holdChanged (obj : BACnetObject) : Except Raised Unit × BACnetObject :=
    let old := before.get .presentValue
    let new := obj.get .presentValue
    if !new.pyEq old ∧ old ≠ .none then
      match obj.startLockIfNeeded new now with
      | .ok locked => (.ok (), locked)
      | .error raised => (.error raised, obj)
    else (.ok (), obj)

/-- `_write_with_priority` at the time `now` of the monotonic clock. -/
def writeWithPriority (slots : Vector CommandSlot 16) (value : Value) (priority : Nat)
    (now : Float)
    : Stateful Raised BACnetObject Unit := fun obj =>
  match obj.baseWriteWithPriority slots value priority with
  | .error raised => (.error raised, obj)
  | .ok written =>
    if obj.cls.minOnOffTime then holdMinTime obj written now written
    else (.ok (), written)

def writeArrayElement (obj : BACnetObject) (prop : PropertyIdentifier) (value : Value)
    (arrayIndex : Nat)
    : Except Raised BACnetObject :=
  match (obj.get prop).asList? with
  | none => propertyError .propertyIsNotAnArray
  | some items =>
    if arrayIndex < 1 ∨ items.length < arrayIndex then propertyError .invalidArrayIndex
    else .ok (obj.set prop (.list (items.set (arrayIndex - 1) value)))

/-- `_is_commandable`, with the arrays of the commands. -/
def commandsOf (obj : BACnetObject) (prop : PropertyIdentifier) : Option (Vector CommandSlot 16) :=
  if prop = .presentValue then obj.commands else none

/-- What `write_property` does with an accepted value: coerce it, and store it in the priority
array, in an element or in the property.
-/
def storeValue (definition : PropertyDefinition) (prop : PropertyIdentifier) (value : Value)
    (priority arrayIndex : Option Nat) (now : Float)
    : Stateful Raised BACnetObject Unit := fun obj =>
  let value := coerceValue definition value
  match obj.commandsOf prop, arrayIndex with
  | some slots, _ => writeWithPriority slots value (priority.getD 16) now obj
  | none, some index =>
    match obj.writeArrayElement prop value index with
    | .ok written => (.ok (), written)
    | .error raised => (.error raised, obj)
  | none, none => (.ok (), obj.set prop value)

end BACnetObject

end BacPy
