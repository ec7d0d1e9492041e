import BacPy.Library.LeaseTable
import BacPy.Network.Address
import BacPy.Objects.Database
import BacPy.Services.CovSubscriptions

/-! `COVManager`: subscriptions to objects and to single properties, and their notifications. -/

namespace BacPy

open Library
open Stateful (modifies lift refuseIf when raise forEach reads)

-- Subscriptions

/-- The keys of `_subscriptions`. -/
structure SubscriptionKey where
  subscriber : BACnetAddress
  processId : Nat
  objectId : ObjectIdentifier
  deriving DecidableEq

/-- The keys of `_property_subscriptions`. -/
structure PropertySubscriptionKey where
  subscriber : BACnetAddress
  processId : Nat
  objectId : ObjectIdentifier
  propertyId : Nat
  arrayIndex : Option Nat
  deriving DecidableEq

/-- The keys of `_prop_subs_by_obj_prop`. -/
abbrev PropertySubscriptionKey.group (key : PropertySubscriptionKey) : ObjectIdentifier × Nat :=
  (key.objectId, key.propertyId)

/-- `COVSubscription`, without its timer, which the table keeps. -/
structure COVSubscription where
  subscriber : BACnetAddress
  processId : Nat
  monitoredObject : ObjectIdentifier
  confirmed : Bool
  lifetime : Option Float
  createdAt : Float
  lastPresentValue : Value
  lastStatusFlags : Value

/-- `PropertySubscription`, without its timer, which the table keeps. -/
structure PropertySubscription where
  subscriber : BACnetAddress
  processId : Nat
  monitoredObject : ObjectIdentifier
  monitoredProperty : Nat
  propertyArrayIndex : Option Nat
  confirmed : Bool
  lifetime : Option Float
  covIncrement : Option Float
  createdAt : Float
  lastValue : Value

/-- The bucket of `_prop_subs_by_obj_prop` a subscription is in. -/
abbrev PropertySubscription.group (sub : PropertySubscription) : ObjectIdentifier × Nat :=
  (sub.monitoredObject, sub.monitoredProperty)

/-- A COV notification that was handed to the application. -/
structure CovNotification where
  subscriber : BACnetAddress
  confirmed : Bool
  serviceData : Bytes

/-- `COVManager`, and the notifications it has sent so far. -/
structure COVManager where
  subscriptions : LeaseTable ObjectIdentifier SubscriptionKey COVSubscription :=
    { capacity := 1000 }
  propertySubscriptions :
      LeaseTable (ObjectIdentifier × Nat) PropertySubscriptionKey PropertySubscription :=
    { capacity := 1000 }
  sent : List CovNotification := []

/-- What the manager sees around it: the objects, the device of its application and the clock. -/
structure CovContext where
  db : ObjectDatabase
  deviceId : ObjectIdentifier
  now : Float

namespace CovContext

variable (context : CovContext)

/-- `read_property` of an object that is monitored, `None` where it raises `BACnetError`, which
is all that it raises.
-/
def readOrNone (obj : BACnetObject) (prop : PropertyIdentifier) (arrayIndex : Option Nat := none)
    : Value :=
  match context.db.readProperty obj prop arrayIndex with
  | .ok value => value
  | .error _ => .none

def readPresentValue (obj : BACnetObject) : Value := context.readOrNone obj .presentValue

def readStatusFlags (obj : BACnetObject) : Value := context.readOrNone obj .statusFlags

/-- `PropertyIdentifier(number)` -/
def propertyIdentifier? (number : Nat) : Option PropertyIdentifier :=
  if inRange : number < 4194304 then some ⟨⟨number, inRange⟩⟩ else none

def readPropertyValue (obj : BACnetObject) (propertyId : Nat) (arrayIndex : Option Nat) : Value :=
  match propertyIdentifier? propertyId with
  | some prop => context.readOrNone obj prop arrayIndex
  | none => .none

/-- `float(value)` of a number. -/
def toFloat (value : Value) : Except Raised Float :=
  match value.asFloat?, value.asInt? with
  | some value, _ => .ok value
  | none, some value => Value.floatOfInt value
  | none, none => .error (.typeError "float() argument must be a string or a real number")

def readCovIncrement (obj : BACnetObject) : Except Raised (Option Float) :=
  let value := context.readOrNone obj .covIncrement
  if value.isNumber then some <$> toFloat value else .ok none

-- When to notify

/-- `abs(current - last) >= increment` -/
def reaches (current last : Value) (increment : Float) : Except Raised Bool := do
  let distance ← match current.asInt?, last.asInt? with
    | some current, some last => .ok (Value.int (current - last).natAbs)
    | _, _ => do
        let current ← toFloat current
        let last ← toFloat last
        .ok (Value.float (current - last).abs)
  .ok (Value.compareNumbers distance (.float increment) ∈ [some .gt, some .eq])

/-- The common part of `_should_notify` and `_should_notify_property`: whether a value that is
different from the last one reported is to be reported again.
-/
def reportable (obj : BACnetObject) (current last : Value) (override : Option Float)
    : Except Raised Bool := do
  if current.pyEq last then .ok false
  else if obj.objectId.objectType ∈ analogTypes then
    let increment ← match override with
      | some increment => .ok (some increment)
      | none => context.readCovIncrement obj
    match increment with
    | some increment =>
      if 0 < increment ∧ last ≠ .none ∧ current.isNumber ∧ last.isNumber then
        reaches current last increment
      else .ok true
    | none => .ok true
  else .ok true

def shouldNotify (sub : COVSubscription) (obj : BACnetObject) : Except Raised Bool :=
  if !(context.readStatusFlags obj).pyEq sub.lastStatusFlags then .ok true
  else context.reportable obj (context.readPresentValue obj) sub.lastPresentValue none

def shouldNotifyProperty (sub : PropertySubscription) (obj : BACnetObject) (current : Value)
    : Except Raised Bool :=
  context.reportable obj current sub.lastValue sub.covIncrement

-- Notifications

def encodeValue (value : Value) (objectType : ObjectType) : Except Raised Bytes :=
  encodePropertyValue value (objectType ∈ analogTypes)

def encodeStatusFlags (statusFlags : Value) : Except Raised Bytes :=
  let bits : BitString :=
    match statusFlags with
    | .statusFlags flags => flags.toBitString
    | .bitString bits => bits
    | _ => { data := [0], unusedBits := 4 }
  raising (encodeApplicationTagged 8 (encodeBitString bits))

/-- `int(value)` of a non-negative float. -/
def truncate (value : Float) : Except Raised Int :=
  match Value.floatRat? value with
  | some exact => .ok exact.floor
  | none => .error (.overflowError "cannot convert float infinity to integer")

/-- The seconds a subscription has left. -/
def timeRemaining (lifetime : Option Float) (createdAt : Float) : Except Raised Int :=
  match lifetime with
  | none => .ok 0
  | some lifetime =>
    let remaining := lifetime - (context.now - createdAt)
    if 0 < remaining then truncate remaining else .ok 0

def buildNotification (processId : Nat) (lifetime : Option Float) (createdAt : Float)
    (obj : BACnetObject) (monitoredObject : ObjectIdentifier) (propertyId : Nat)
    (arrayIndex : Option Nat) (value : Value)
    : Except Raised Bytes := do
  let propBytes ← encodeValue value obj.objectId.objectType
  let sfBytes ← encodeStatusFlags (context.readStatusFlags obj)
  match propertyIdentifier? propertyId with
  | none => .error (.builtin (.valueError "not a valid PropertyIdentifier"))
  | some prop =>
    let timeRemaining ← context.timeRemaining lifetime createdAt
    raising ({
      subscriberProcessIdentifier := processId
      initiatingDeviceIdentifier := context.deviceId
      monitoredObjectIdentifier := monitoredObject
      timeRemaining
      listOfValues := [
        { propertyIdentifier := prop, propertyArrayIndex := arrayIndex, value := propBytes },
        { propertyIdentifier := .statusFlags, value := sfBytes }
      ]
    } : COVNotificationRequest).encode

/-- The notification of `_send_notification`. -/
def notification (sub : COVSubscription) (obj : BACnetObject) : Except Raised CovNotification := do
  let serviceData ← context.buildNotification sub.processId sub.lifetime sub.createdAt obj
    sub.monitoredObject PropertyIdentifier.presentValue.number none (context.readPresentValue obj)
  .ok { subscriber := sub.subscriber, confirmed := sub.confirmed, serviceData }

/-- The notification of `_send_property_notification`. -/
def propertyNotification (sub : PropertySubscription) (obj : BACnetObject)
    : Except Raised CovNotification := do
  let serviceData ← context.buildNotification sub.processId sub.lifetime sub.createdAt obj
    sub.monitoredObject sub.monitoredProperty sub.propertyArrayIndex
    (context.readPropertyValue obj sub.monitoredProperty sub.propertyArrayIndex)
  .ok { subscriber := sub.subscriber, confirmed := sub.confirmed, serviceData }

end CovContext

namespace COVManager

/-- A computation of the manager that may raise. -/
abbrev Action (Result : Type) := Stateful Raised COVManager Result

def onSubscriptions
    (change : LeaseTable ObjectIdentifier SubscriptionKey COVSubscription
      → LeaseTable ObjectIdentifier SubscriptionKey COVSubscription)
    : Action Unit :=
  modifies fun manager =>
    { manager with subscriptions := change manager.subscriptions }

def onPropertySubscriptions
    (change : LeaseTable (ObjectIdentifier × Nat) PropertySubscriptionKey PropertySubscription
      → LeaseTable (ObjectIdentifier × Nat) PropertySubscriptionKey PropertySubscription)
    : Action Unit :=
  modifies fun manager =>
    { manager with propertySubscriptions := change manager.propertySubscriptions }

/-- Hand a notification to the application. -/
def send (notification : Except Raised CovNotification) : Action Unit := do
  let notification ← lift notification
  modifies fun manager => { manager with sent := manager.sent ++ [notification] }

/-- What a full table answers. -/
def noSpace : Raised := .bacnetError .resources .noSpaceToAddListElement

/-- `float(lifetime)` of an optional lifetime. -/
def floatLifetime : Option Nat → Except Raised (Option Float)
  | none => .ok none
  | some lifetime => some <$> Value.floatOfInt lifetime

-- Subscriptions to objects

/-- `subscribe` to an object that exists. -/
def subscribeTo (context : CovContext) (subscriber : BACnetAddress)
    (request : SubscribeCOVRequest) (obj : BACnetObject)
    : Action Unit := do
  let key : SubscriptionKey := {
    subscriber
    processId := request.subscriberProcessIdentifier
    objectId := request.monitoredObjectIdentifier
  }
  onSubscriptions fun leases => leases.cancelTimer key
  refuseIf (fun manager => manager.subscriptions.isFull key) noSpace
  let lifetime ← lift (floatLifetime request.lifetime)
  let sub : COVSubscription := {
    subscriber
    processId := request.subscriberProcessIdentifier
    monitoredObject := request.monitoredObjectIdentifier
    confirmed := request.issueConfirmedNotifications.getD false
    lifetime
    createdAt := context.now
    lastPresentValue := context.readPresentValue obj
    lastStatusFlags := context.readStatusFlags obj
  }
  onSubscriptions fun leases => leases.store request.monitoredObjectIdentifier key sub
  when (0 < request.lifetime.getD 0) (onSubscriptions fun leases => leases.arm key)
  send (context.notification sub obj)

def subscribe (context : CovContext) (subscriber : BACnetAddress) (request : SubscribeCOVRequest)
    : Action Unit :=
  match context.db.object? request.monitoredObjectIdentifier with
  | none => raise (.bacnetError .object .unknownObject)
  | some obj => subscribeTo context subscriber request obj

def unsubscribe (subscriber : BACnetAddress) (processId : Nat) (monitoredObject : ObjectIdentifier)
    : Action Unit :=
  onSubscriptions fun leases =>
    leases.cancel monitoredObject { subscriber, processId, objectId := monitoredObject }

-- Subscriptions to properties

/-- The body of `subscribe_property` for an object that exists, which
`subscribe_property_multiple` repeats for each of its references.
-/
def subscribePropertyTo (context : CovContext) (subscriber : BACnetAddress)
    (request : SubscribeCOVPropertyRequest) (obj : BACnetObject)
    : Action Unit := do
  let property := request.reference.monitoredProperty
  let key : PropertySubscriptionKey := {
    subscriber
    processId := request.subscriberProcessIdentifier
    objectId := request.monitoredObjectIdentifier
    propertyId := property.propertyIdentifier
    arrayIndex := property.propertyArrayIndex
  }
  onPropertySubscriptions fun leases => leases.cancelTimer key
  refuseIf (fun manager => manager.propertySubscriptions.isFull key) noSpace
  let lifetime ← lift (floatLifetime request.lifetime)
  let sub : PropertySubscription := {
    subscriber
    processId := request.subscriberProcessIdentifier
    monitoredObject := request.monitoredObjectIdentifier
    monitoredProperty := property.propertyIdentifier
    propertyArrayIndex := property.propertyArrayIndex
    confirmed := request.issueConfirmedNotifications.getD false
    lifetime
    covIncrement := request.reference.covIncrement
    createdAt := context.now
    lastValue :=
      context.readPropertyValue obj property.propertyIdentifier property.propertyArrayIndex
  }
  onPropertySubscriptions fun leases => leases.store key.group key sub
  when (0 < request.lifetime.getD 0)
    (onPropertySubscriptions fun leases => leases.arm key)
  send (context.propertyNotification sub obj)

def subscribeProperty (context : CovContext) (subscriber : BACnetAddress)
    (request : SubscribeCOVPropertyRequest)
    : Action Unit :=
  match context.db.object? request.monitoredObjectIdentifier with
  | none => raise (.bacnetError .object .unknownObject)
  | some obj => subscribePropertyTo context subscriber request obj

/-- What `subscribe_property_multiple` does for one object. -/
def subscribeSpecification (context : CovContext) (subscriber : BACnetAddress)
    (request : SubscribeCOVPropertyMultipleRequest) (spec : COVSubscriptionSpecification)
    : Action Unit :=
  match context.db.object? spec.monitoredObjectIdentifier with
  | none => raise (.bacnetError .object .unknownObject)
  | some obj =>
    forEach (fun reference =>
      subscribePropertyTo context subscriber {
        subscriberProcessIdentifier := request.subscriberProcessIdentifier
        monitoredObjectIdentifier := spec.monitoredObjectIdentifier
        reference
        issueConfirmedNotifications := request.issueConfirmedNotifications
        lifetime := request.lifetime
      } obj) spec.listOfCOVReferences

def subscribePropertyMultiple (context : CovContext) (subscriber : BACnetAddress)
    (request : SubscribeCOVPropertyMultipleRequest)
    : Action Unit :=
  forEach (subscribeSpecification context subscriber request)
    request.listOfCOVSubscriptionSpecifications

def unsubscribeProperty (key : PropertySubscriptionKey) : Action Unit :=
  onPropertySubscriptions fun leases => leases.cancel key.group key

-- Changes

/-- The subscriptions in a bucket, the oldest key first. -/
def bucketRefs {Group Key Item : Type} [DecidableEq Group] [DecidableEq Key]
    (leases : LeaseTable Group Key Item) (group : Group)
    : List Nat :=
  match leases.index.get group with
  | none => []
  | some bucket => bucket.keys.reverse.filterMap bucket.get

/-- The loop body of `check_and_notify` for one subscription. -/
def notifyObjectChange (context : CovContext) (obj : BACnetObject) (ref : Nat) : Action Unit :=
  fun manager =>
    match manager.subscriptions.items.get ref with
    | none => (.ok (), manager)
    | some sub => notifySubscriber sub manager
where
  /-- Notify one subscriber and remember what was reported. -/
  notifySubscriber (sub : COVSubscription) : Action Unit := do
    let notify ← lift (context.shouldNotify sub obj)
    when notify do
      send (context.notification sub obj)
      onSubscriptions fun leases => leases.update ref fun sub => { sub with
        lastPresentValue := context.readPresentValue obj
        lastStatusFlags := context.readStatusFlags obj }

/-- The loop body of `check_and_notify_property` for one subscription. -/
def notifyPropertyChange (context : CovContext) (obj : BACnetObject) (ref : Nat) : Action Unit :=
  fun manager =>
    match manager.propertySubscriptions.items.get ref with
    | none => (.ok (), manager)
    | some sub => notifySubscriber sub manager
where
  /-- Notify one subscriber and remember what was reported. -/
  notifySubscriber (sub : PropertySubscription) : Action Unit := do
    let current := context.readPropertyValue obj sub.monitoredProperty sub.propertyArrayIndex
    let notify ← lift (context.shouldNotifyProperty sub obj current)
    when notify do
      send (context.propertyNotification sub obj)
      onPropertySubscriptions fun leases =>
        leases.update ref fun sub => { sub with lastValue := current }

def checkAndNotifyProperty (context : CovContext) (obj : BACnetObject)
    (changedProperty : PropertyIdentifier)
    : Action Unit := do
  let refs ← reads fun manager =>
    bucketRefs manager.propertySubscriptions (obj.objectId, changedProperty.number.val)
  forEach (notifyPropertyChange context obj) refs

def checkAndNotify (context : CovContext) (obj : BACnetObject)
    (changedProperty : PropertyIdentifier)
    : Action Unit := do
  let refs ← reads fun manager => bucketRefs manager.subscriptions obj.objectId
  forEach (notifyObjectChange context obj) refs
  checkAndNotifyProperty context obj changedProperty

-- Ends of subscriptions

/-- `_on_subscription_expired`, when the pending timer of a subscription fires. -/
def onSubscriptionExpired (manager : COVManager) (ref : Nat) : Option COVManager :=
  (manager.subscriptions.expire COVSubscription.monitoredObject ref).map fun subscriptions =>
    { manager with subscriptions }

/-- `_on_property_subscription_expired`, when the pending timer of a subscription fires. -/
def onPropertySubscriptionExpired (manager : COVManager) (ref : Nat) : Option COVManager :=
  (manager.propertySubscriptions.expire PropertySubscription.group ref).map
    fun propertySubscriptions => { manager with propertySubscriptions }

def removeObjectSubscriptions (objectId : ObjectIdentifier) : Action Unit := do
  onSubscriptions fun leases => leases.dropGroup objectId
  onPropertySubscriptions fun leases => leases.dropGroups fun group => group.1 = objectId

def shutdown : Action Unit := do
  onSubscriptions LeaseTable.clear
  onPropertySubscriptions LeaseTable.clear

end COVManager

end BacPy
