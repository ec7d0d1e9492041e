import BacPy.App.Cov
import BacPy.Objects.WellFormed
import BacPy.Services.Properties

/-! `DefaultServerHandlers`: the services that read and change the objects of a device.

The handlers start from decoded requests, as the decoders touch no state.
-/

namespace BacPy

open Library
open Stateful (consults lift reads when modifies raise)

/-- `DefaultServerHandlers` with the database and the COV manager it works on. The device object
is known by its reference and its identifier, which never changes.
-/
structure Server where
  db : ObjectDatabase := {}
  cov : Option COVManager := some {}
  device : Nat := 0
  deviceId : ObjectIdentifier := ⟨.device, 0⟩

namespace Server

/-- A computation of the handlers that may raise. -/
abbrev Action (Result : Type) := Stateful Raised Server Result

def onDb {Result : Type} (program : ObjectDatabase.Action Result) : Action Result := fun server =>
  ((program server.db).1, { server with db := (program server.db).2 })

def onCov (program : CovContext → COVManager.Action Unit) (now : Float) (absent : Except Raised Unit)
    : Action Unit := fun server =>
  match server.cov with
  | none => (absent, server)
  | some manager =>
    let ended := program { db := server.db, deviceId := server.deviceId, now } manager
    (ended.1, { server with cov := some ended.2 })

def resolveObjectId (server : Server) (objectId : ObjectIdentifier) : ObjectIdentifier :=
  if objectId.objectType = .device ∧ objectId.instanceNumber = 0x3FFFFF then server.deviceId
  else objectId

/-- The object a request is for, or `UNKNOWN_OBJECT`. -/
def lookup (objectId : ObjectIdentifier) : Action Nat :=
  consults fun server =>
    match server.db.get (server.resolveObjectId objectId) with
    | none => .error (.bacnetError .object .unknownObject)
    | some ref => .ok ref

-- Reading

/-- A subscription in the list that is read of the device: no encoder knows its class. -/
def subscriptionValue (number : Nat) : Value :=
  .other {
    label := number
    hashable := false
    encoding := .error (.typeError "Cannot encode value of type COVSubscription")
    encodingAsReal := .error (.typeError "Cannot encode value of type COVSubscription")
  }

def activeSubscriptions (server : Server) : Value :=
  match server.cov with
  | none => .list []
  | some manager => .list (manager.subscriptions.table.keys.map fun key =>
    subscriptionValue ((manager.subscriptions.table.get key).getD 0))

def readObjectProperty (server : Server) (ref : Nat) (obj : BACnetObject)
    (prop : PropertyIdentifier) (arrayIndex : Option Nat)
    : Except Raised Value :=
  if ref = server.device ∧ prop = .objectList then
    let fullList := Value.list (server.db.objectList.map .objectIdentifier)
    match arrayIndex with
    | some index => BACnetObject.readElement fullList index
    | none => .ok fullList
  else if ref = server.device ∧ prop = .activeCovSubscriptions then
    .ok server.activeSubscriptions
  else server.db.readProperty obj prop arrayIndex

/-- `_encode_property_value`: a `TypeError` becomes an error of the property. -/
def encodeProperty (value : Value) (objectType : ObjectType) : Except Raised Bytes :=
  match encodePropertyValue value (objectType ∈ analogTypes) with
  | .error (.typeError _) => propertyError .other
  | outcome => outcome

def readEncoded (server : Server) (objectId : ObjectIdentifier) (ref : Nat) (obj : BACnetObject)
    (reference : PropertyReference)
    : Except Raised Bytes := do
  let value ← server.readObjectProperty ref obj reference.propertyIdentifier
    reference.propertyArrayIndex
  encodeProperty value objectId.objectType

def handleReadProperty (server : Server) (request : ReadPropertyRequest) : Except Raised Bytes :=
  let objectId := server.resolveObjectId request.objectIdentifier
  match server.db.get objectId, server.db.object? objectId with
  | some ref, some obj => do
      let propertyValue ← server.readEncoded objectId ref obj
        { propertyIdentifier := request.propertyIdentifier,
          propertyArrayIndex := request.propertyArrayIndex }
      raising ({
        objectIdentifier := objectId
        propertyIdentifier := request.propertyIdentifier
        propertyArrayIndex := request.propertyArrayIndex
        propertyValue
      } : ReadPropertyACK).encode
  | _, _ => .error (.bacnetError .object .unknownObject)

/-- `_expand_property_references` for one of the references. The result so far is what the test
for Property_List looks at.
-/
def expandReference (obj : BACnetObject) (result : List PropertyReference)
    (reference : PropertyReference)
    : List PropertyReference :=
  let listed (test : PropertyDefinition → Bool) : List PropertyReference :=
    (obj.cls.propertyDefinitions.filter test).map fun definition =>
      { propertyIdentifier := definition.identifier }
  let present (definition : PropertyDefinition) : Bool := (obj.stored definition.identifier).isSome
  if reference.propertyIdentifier = .all then
    let result := result ++ listed fun definition => present definition || definition.required
    if result.any fun reference => reference.propertyIdentifier = .propertyList then result
    else result ++ [{ propertyIdentifier := .propertyList }]
  else if reference.propertyIdentifier = .required then
    result ++ listed fun definition => definition.required
  else if reference.propertyIdentifier = .optional then
    result ++ listed fun definition => !definition.required && present definition
  else result ++ [reference]

def expandPropertyReferences (obj : BACnetObject) (references : List PropertyReference)
    : List PropertyReference :=
  references.foldl (expandReference obj) []

/-- One result: an error of the protocol is reported in its place, any other escapes. -/
def readResult (server : Server) (objectId : ObjectIdentifier) (ref : Nat) (obj : BACnetObject)
    (reference : PropertyReference)
    : Except Raised ReadResultElement :=
  match server.readEncoded objectId ref obj reference with
  | .ok propertyValue => .ok {
      propertyIdentifier := reference.propertyIdentifier
      propertyArrayIndex := reference.propertyArrayIndex
      result := .value propertyValue
    }
  | .error (.bacnetError errorClass errorCode) => .ok {
      propertyIdentifier := reference.propertyIdentifier
      propertyArrayIndex := reference.propertyArrayIndex
      result := .error errorClass errorCode
    }
  | .error raised => .error raised

def readAccess (server : Server) (spec : ReadAccessSpecification) : Except Raised ReadAccessResult :=
  let objectId := server.resolveObjectId spec.objectIdentifier
  match server.db.get objectId, server.db.object? objectId with
  | some ref, some obj => do
      let elements ← (expandPropertyReferences obj spec.listOfPropertyReferences).mapM
        (server.readResult objectId ref obj)
      .ok { objectIdentifier := objectId, listOfResults := elements }
  | _, _ => .ok {
      objectIdentifier := objectId
      listOfResults := spec.listOfPropertyReferences.map fun reference => {
        propertyIdentifier := reference.propertyIdentifier
        propertyArrayIndex := reference.propertyArrayIndex
        result := .error .object .unknownObject
      }
    }

def handleReadPropertyMultiple (server : Server) (specs : List ReadAccessSpecification)
    : Except Raised Bytes := do
  let results ← specs.mapM server.readAccess
  raising (encodeReadPropertyMultipleAck results)

-- Writing

variable [JapaneseCodec]

/-- `decode_and_unwrap` of a value that is written: octets that cannot be decoded are reported as
an invalid data type.
-/
def decodeWritten (propertyValue : Bytes) : Except Raised Value :=
  match decodeAndUnwrap propertyValue with
  | .ok value => .ok value
  | .error (.valueError _) | .error (.indexError _) => propertyError .invalidDataType
  | .error raised => .error (.builtin raised)

/-- `check_and_notify` for an object that has been written to. -/
def notifyChange (ref : Nat) (changedProperty : PropertyIdentifier) (now : Float) : Action Unit :=
  fun server =>
    match server.db.heap.get ref with
    | none => (.ok (), server)
    | some obj =>
      onCov (fun context => COVManager.checkAndNotify context obj changedProperty) now (.ok ())
        server

def identifierOf (server : Server) (ref : Nat) : ObjectIdentifier :=
  ((server.db.heap.get ref).map BACnetObject.objectId).getD server.deviceId

/-- What `handle_write_property` does for the object it has found, and
`handle_write_property_multiple` for each property: decode, write, notify and record.
-/
def writeEntry (now : Float) (ref : Nat) (pv : BACnetPropertyValue) : Action Unit := do
  let value ← lift (decodeWritten pv.value)
  onDb (ObjectDatabase.writeProperty ref pv.propertyIdentifier value pv.priority
    pv.propertyArrayIndex now)
  notifyChange ref pv.propertyIdentifier now
  let target ← reads fun server => server.identifierOf ref
  onDb (ObjectDatabase.recordOperation .write target)

def handleWriteProperty (now : Float) (request : WritePropertyRequest) : Action Unit := do
  let ref ← lookup request.objectIdentifier
  writeEntry now ref {
    propertyIdentifier := request.propertyIdentifier
    propertyArrayIndex := request.propertyArrayIndex
    value := request.propertyValue
    priority := request.priority
  }

/-- The first pass of `handle_write_property_multiple` for one object: its properties exist and
may be written.
-/
def validateSpec (server : Server) (spec : WriteAccessSpecification)
    : Except Raised (List (Nat × BACnetPropertyValue)) :=
  let objectId := server.resolveObjectId spec.objectIdentifier
  match server.db.get objectId, server.db.object? objectId with
  | some ref, some obj =>
    spec.listOfProperties.mapM fun pv => do
      let _ ← obj.writable pv.propertyIdentifier
      .ok (ref, pv)
  | _, _ => .error (.bacnetError .object .unknownObject)

/-- The first pass: what is to be written, in order. -/
def validate (server : Server) (specs : List WriteAccessSpecification)
    : Except Raised (List (Nat × BACnetPropertyValue)) := do
  let validated ← specs.mapM server.validateSpec
  .ok validated.flatten

/-- `handle_write_property_multiple`: validate all writes, then apply them one by one. -/
def handleWritePropertyMultiple (now : Float) (specs : List WriteAccessSpecification)
    : Action Unit := do
  let validated ← consults fun server => server.validate specs
  Stateful.forEach (fun entry => writeEntry now entry.1 entry.2) validated

-- Lists

/-- The list property a request is for: it exists and may be written, also while the object is
out of service.
-/
def listDefinition (obj : BACnetObject) (prop : PropertyIdentifier)
    : Except Raised PropertyDefinition :=
  match obj.cls.definition? prop with
  | none => propertyError .unknownProperty
  | some definition =>
    if definition.access = .readOnly then propertyError .writeAccessDenied else .ok definition

/-- The body of `handle_add_list_element`. A property without a value gets a list first. -/
def addElements (request : ListElementRequest) : Stateful Raised BACnetObject Unit := do
  let definition ← consults fun obj => listDefinition obj request.propertyIdentifier
  let missing ← consults fun obj =>
    match (obj.get request.propertyIdentifier).asList? with
    | some _ => .ok false
    | none =>
      if obj.get request.propertyIdentifier = .none ∧ definition.datatype = .list then .ok true
      else propertyError .propertyIsNotAList
  when missing
    (modifies fun obj => obj.set request.propertyIdentifier (.list []))
  let elements ← lift (raising (decodeAllApplicationValues request.listOfElements))
  modifies fun obj => obj.set request.propertyIdentifier
    (.list (((obj.get request.propertyIdentifier).asList?).getD [] ++ elements))

def handleAddListElement (request : ListElementRequest) : Action Unit := do
  let ref ← lookup request.objectIdentifier
  onDb (ObjectDatabase.onObject ref (addElements request))

/-- `current.remove(element)`, which does nothing if no item is equal. -/
def removeFirst (items : List Value) (element : Value) : List Value :=
  items.eraseP fun item => item.pyEq element

/-- The body of `handle_remove_list_element`. -/
def removeElements (request : ListElementRequest) : Stateful Raised BACnetObject Unit := do
  let _ ← consults fun obj => listDefinition obj request.propertyIdentifier
  let items ← consults fun obj =>
    match (obj.get request.propertyIdentifier).asList? with
    | some items => .ok items
    | none => propertyError .propertyIsNotAList
  let elements ← lift (raising (decodeAllApplicationValues request.listOfElements))
  modifies fun obj => obj.set request.propertyIdentifier
    (.list (elements.foldl removeFirst items))

def handleRemoveListElement (request : ListElementRequest) : Action Unit := do
  let ref ← lookup request.objectIdentifier
  onDb (ObjectDatabase.onObject ref (removeElements request))

-- Objects

/-- The type of an object that is created, and its instance number if the request has one. -/
def specifier (request : CreateObjectRequest) : Except Raised (ObjectType × Option Nat) :=
  match request.objectIdentifier, request.objectType with
  | some objectId, _ => .ok (objectId.objectType, some objectId.instanceNumber)
  | none, some objectType => .ok (objectType, none)
  | none, none => .error (.bacnetError .services .missingRequiredParameter)

/-- The initial values of a new object, as keyword arguments. -/
def decodeInitialValues (values : List BACnetPropertyValue)
    : Except Raised (List (PropertyIdentifier × Value)) :=
  values.mapM fun pv => do
    let value ← raising (decodeAndUnwrap pv.value)
    .ok (pv.propertyIdentifier, value)

def handleCreateObject (registry : List ObjectClass) (request : CreateObjectRequest)
    : Action Bytes := do
  let specified ← lift (specifier request)
  let initialValues ← lift (decodeInitialValues (request.listOfInitialValues.getD []))
  let ref ← reads fun server => server.db.fresh
  onDb (ObjectDatabase.createObject registry specified.1 specified.2 initialValues)
  let target ← reads fun server => server.identifierOf ref
  onDb (ObjectDatabase.recordOperation .create target)
  lift (raising (encodeApplicationTagged 12 target.encode))

def handleDeleteObject (objectIdentifier : ObjectIdentifier) (now : Float) : Action Unit := do
  let objectId ← reads fun server => server.resolveObjectId objectIdentifier
  onDb (ObjectDatabase.remove objectId)
  onCov (fun _ => COVManager.removeObjectSubscriptions objectId) now (.ok ())
  onDb (ObjectDatabase.recordOperation .delete objectId)

-- Subscriptions

/-- What a server without COV answers. -/
def covDenied : Except Raised Unit := .error (.bacnetError .services .serviceRequestDenied)

def handleSubscribeCov (now : Float) (subscriber : BACnetAddress) (request : SubscribeCOVRequest)
    : Action Unit := do
  let _ ← lookup request.monitoredObjectIdentifier
  let objectId ← reads fun server =>
    server.resolveObjectId request.monitoredObjectIdentifier
  Stateful.refuseIf (fun server => server.cov.isNone) (.bacnetError .services .serviceRequestDenied)
  if request.lifetime.isSome ∧ request.issueConfirmedNotifications.isNone then
    raise (.rejectError .missingRequiredParameter)
  else if request.lifetime.isNone ∧ request.issueConfirmedNotifications.isNone then
    onCov (fun _ => COVManager.unsubscribe subscriber request.subscriberProcessIdentifier objectId)
      now covDenied
  else onCov (fun context => COVManager.subscribe context subscriber request) now covDenied

def handleSubscribeCovProperty (now : Float) (subscriber : BACnetAddress)
    (request : SubscribeCOVPropertyRequest)
    : Action Unit := do
  let _ ← lookup request.monitoredObjectIdentifier
  onCov (fun context => COVManager.subscribeProperty context subscriber request) now covDenied

def handleSubscribeCovPropertyMultiple (now : Float) (subscriber : BACnetAddress)
    (request : SubscribeCOVPropertyMultipleRequest)
    : Action Unit :=
  onCov (fun context => COVManager.subscribePropertyMultiple context subscriber request) now
    covDenied

end Server

end BacPy
