import BacPy.Objects.Base

/-! Object classes: the groups of property definitions they share, and the input, output and
value classes that concrete runs are about.
-/

namespace BacPy

/-- `EngineeringUnits` -/
def engineeringUnitsEnum : EnumType where
  name := "EngineeringUnits"
  members := List.range 255 ++ List.range' 47808 5 ++ List.range' 47814 9

/-- `Reliability` -/
def reliabilityEnum : EnumType where
  name := "Reliability"
  members := List.range 11 ++ List.range' 12 13

/-- `NotifyType` -/
def notifyTypeEnum : EnumType := { name := "NotifyType", members := [0, 1, 2] }

def readWrite (identifier : PropertyIdentifier) (datatype : Datatype) (required : Bool := false)
    (default : Value := .none)
    : PropertyDefinition :=
  { identifier, datatype, access := .readWrite, required, default }

def readOnly (identifier : PropertyIdentifier) (datatype : Datatype) (required : Bool := false)
    (default : Value := .none)
    : PropertyDefinition :=
  { identifier, datatype, access := .readOnly, required, default }

def standardProperties : List PropertyDefinition := [
  readOnly .objectIdentifier .objectIdentifier true,
  readWrite .objectName .str true,
  readOnly .objectType (.enum objectTypeEnum) true,
  readWrite .description .str,
  readOnly .propertyList .list true
]

/-- `status_properties` with its default arguments. -/
def statusProperties : List PropertyDefinition := [
  readOnly .statusFlags .statusFlags true,
  readOnly .eventState (.enum eventStateEnum) true (.enum eventStateEnum 0),
  readOnly .reliability (.enum reliabilityEnum),
  readWrite .outOfService .bool true (.bool false)
]

def commandableProperties (valueType : Datatype) (default : Value) (required : Bool := true)
    : List PropertyDefinition := [
  readOnly .priorityArray .list required,
  readWrite .relinquishDefault valueType required (if required then default else .none),
  readOnly .currentCommandPriority .int required,
  readOnly .valueSource (.other "BACnetValueSource"),
  readOnly .valueSourceArray .list,
  readOnly .lastCommandTime (.other "object"),
  readOnly .commandTimeArray .list
]

/-- `intrinsic_reporting_properties`, without the limits. -/
def intrinsicReportingProperties : List PropertyDefinition := [
  readWrite .timeDelay .int,
  readWrite .notificationClass .int,
  readWrite .eventEnable .bitString,
  readOnly .ackedTransitions .bitString,
  readWrite .notifyType (.enum notifyTypeEnum),
  readOnly .eventTimeStamps .list,
  readWrite .eventDetectionEnable .bool,
  readOnly .eventMessageTexts .list,
  readWrite .eventMessageTextsConfig .list
]

/-- The limits of `intrinsic_reporting_properties(include_limit=True)`. -/
def limitProperties : List PropertyDefinition := [
  readWrite .highLimit .float,
  readWrite .lowLimit .float,
  readWrite .deadband .float,
  readWrite .limitEnable .bitString
]

def initStatusFlags : InitStep := .setDefault .statusFlags (.statusFlags {})

def analogInputObject : ObjectClass where
  objectType := .analogInput
  writeCheck := .analog
  propertyDefinitions := standardProperties ++ statusProperties ++ [
    readOnly .presentValue .float true (.float 0),
    readWrite .deviceType .str,
    readWrite .units (.enum engineeringUnitsEnum) true (.enum engineeringUnitsEnum 95),
    readOnly .minPresValue .float,
    readOnly .maxPresValue .float,
    readOnly .resolution .float,
    readWrite .covIncrement .float,
    readWrite .updateInterval .int
  ] ++ intrinsicReportingProperties ++ limitProperties
  completion := [initStatusFlags]

def analogValueObject (commandable : Bool := false) : ObjectClass where
  objectType := .analogValue
  writeCheck := .analog
  propertyDefinitions := standardProperties ++ statusProperties
    ++ commandableProperties .float (.float 0) false ++ [
    readWrite .presentValue .float true (.float 0),
    readWrite .units (.enum engineeringUnitsEnum) true (.enum engineeringUnitsEnum 95),
    readWrite .covIncrement .float,
    readOnly .minPresValue .float,
    readOnly .maxPresValue .float,
    readOnly .resolution .float
  ] ++ intrinsicReportingProperties ++ limitProperties
  commandable := if commandable then some (.float 0) else none
  completion := [initStatusFlags]

def binaryInputObject : ObjectClass where
  objectType := .binaryInput
  binaryPolarity := true
  propertyDefinitions := standardProperties ++ [
    readOnly .presentValue (.enum binaryPvEnum) true (.enum binaryPvEnum 0),
    readWrite .deviceType .str
  ] ++ statusProperties ++ [
    readOnly .polarity (.enum polarityEnum) true (.enum polarityEnum 0),
    readWrite .inactiveText .str,
    readWrite .activeText .str,
    readWrite .alarmValue (.enum binaryPvEnum)
  ] ++ intrinsicReportingProperties
  completion := [initStatusFlags]

def binaryOutputObject : ObjectClass where
  objectType := .binaryOutput
  binaryPolarity := true
  minOnOffTime := true
  propertyDefinitions := standardProperties ++ [
    readWrite .presentValue (.enum binaryPvEnum) true (.enum binaryPvEnum 0),
    readWrite .deviceType .str
  ] ++ statusProperties ++ [
    readOnly .polarity (.enum polarityEnum) true (.enum polarityEnum 0),
    readWrite .inactiveText .str,
    readWrite .activeText .str,
    readWrite .minimumOffTime .int,
    readWrite .minimumOnTime .int
  ] ++ commandableProperties (.enum binaryPvEnum) (.enum binaryPvEnum 0) ++ [
    readOnly .feedbackValue (.enum binaryPvEnum)
  ] ++ intrinsicReportingProperties
  commandable := some (.enum binaryPvEnum 0)
  completion := [initStatusFlags]

def integerValueObject (commandable : Bool := false) : ObjectClass where
  objectType := .integerValue
  propertyDefinitions := standardProperties ++ [
    readWrite .presentValue .int true (.int 0)
  ] ++ statusProperties ++ [
    readWrite .units (.enum engineeringUnitsEnum) true (.enum engineeringUnitsEnum 95),
    readOnly .minPresValue .int,
    readOnly .maxPresValue .int,
    readOnly .resolution .int,
    readWrite .covIncrement .int
  ] ++ commandableProperties .int (.int 0) false
  commandable := if commandable then some (.int 0) else none
  completion := [initStatusFlags]

def characterStringValueObject (commandable : Bool := false) : ObjectClass where
  objectType := .characterstringValue
  propertyDefinitions := standardProperties ++ [
    readWrite .presentValue .str true (.str "")
  ] ++ statusProperties ++ commandableProperties .str (.str "") false
  commandable := if commandable then some (.str "") else none
  completion := [initStatusFlags]

end BacPy
