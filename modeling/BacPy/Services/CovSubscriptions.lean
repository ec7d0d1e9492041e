import BacPy.Services.Fields

/-! The requests that subscribe to changes of values. -/

namespace BacPy

open Library

-- Requests

structure SubscribeCOVRequest where
  subscriberProcessIdentifier : Nat
  monitoredObjectIdentifier : ObjectIdentifier
  issueConfirmedNotifications : Option Bool := none
  lifetime : Option Nat := none

structure BACnetPropertyReference where
  propertyIdentifier : Nat
  propertyArrayIndex : Option Nat := none

structure COVReference where
  monitoredProperty : BACnetPropertyReference
  covIncrement : Option Float := none

/-- `SubscribeCOVPropertyRequest`, its property reference and increment together. -/
structure SubscribeCOVPropertyRequest where
  subscriberProcessIdentifier : Nat
  monitoredObjectIdentifier : ObjectIdentifier
  reference : COVReference
  issueConfirmedNotifications : Option Bool := none
  lifetime : Option Nat := none

structure COVSubscriptionSpecification where
  monitoredObjectIdentifier : ObjectIdentifier
  listOfCOVReferences : List COVReference

structure SubscribeCOVPropertyMultipleRequest where
  subscriberProcessIdentifier : Nat
  listOfCOVSubscriptionSpecifications : List COVSubscriptionSpecification
  issueConfirmedNotifications : Option Bool := none
  lifetime : Option Nat := none

-- Encoders and decoders

def encodeContextReal (tagNumber : Nat) (value : Float) : Except Raised Bytes := do
  let data ← encodeReal value
  raising (encodeContextTagged tagNumber data)

namespace SubscribeCOVRequest

def encode (request : SubscribeCOVRequest) : Except PyException Bytes :=
  joined [
    encodeContextUnsigned 0 request.subscriberProcessIdentifier,
    encodeContextObjectId 1 request.monitoredObjectIdentifier,
    encodeOptional (fun value => encodeContextTagged 2 (encodeBoolean value))
      request.issueConfirmedNotifications,
    encodeContextOptional 3 request.lifetime
  ]

def decode : Decoder SubscribeCOVRequest := do
  let subscriberProcessIdentifier ← .unsigned
  let monitoredObjectIdentifier ← .objectIdentifier
  let issueConfirmedNotifications ← .optionalContext 2 decodeBoolean
  let lifetime ← .optionalContext 3 fun octets => .ok (decodeUnsigned octets)
  pure {
    subscriberProcessIdentifier
    monitoredObjectIdentifier
    issueConfirmedNotifications
    lifetime
  }

end SubscribeCOVRequest

-- Round trip

/-- The numbers of the request have at most four octets. -/
structure SubscribeCOVRequest.Fits (request : SubscribeCOVRequest) : Prop where
  process : request.subscriberProcessIdentifier ≤ 0xFFFFFFFF
  lifetime : ∀ lifetime ∈ request.lifetime, lifetime ≤ 0xFFFFFFFF

theorem SubscribeCOVRequest.carries {request} (fits : request.Fits)
    : Carries (Next fun _ => False) (StartsWith (Tag.IsContext 0)) request.encode decode request :=
  (carries_contextUnsigned (by decide) fits.process).andThen
    ((carries_contextObjectId (by decide) request.monitoredObjectIdentifier).andThen
      ((carries_optionalContext (show 2 ≤ 254 by decide)
          (fun value _ => (containsFew_boolean value).contains) (by grind [Tag.IsContext])).before
        ((carries_contextOptional (show 3 ≤ 254 by decide) fits.lifetime
          fun _ => False.elim).before (.nil request))))

end BacPy
