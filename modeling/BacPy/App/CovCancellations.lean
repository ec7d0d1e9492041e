import BacPy.App.CovTables
import BacPy.App.FailedRequests

/-! A `SubscribeCOVProperty` request that asks for a cancellation is taken as a subscription, and a
`SubscribeCOV` request is not.
-/

namespace BacPy

open Library

-- Cancellations

/-- The request asks for no kind of notification and for no lifetime, which is how
`SubscribeCOVRequest.is_cancellation` tells a cancellation.
-/
def SubscribeCOVPropertyRequest.IsCancellation (request : SubscribeCOVPropertyRequest) : Prop :=
  request.issueConfirmedNotifications = none ∧ request.lifetime = none

instance SubscribeCOVPropertyRequest.decidableIsCancellation (request : SubscribeCOVPropertyRequest)
    : Decidable request.IsCancellation :=
  inferInstanceAs (Decidable (_ ∧ _))

namespace COVManager

def propertySubscription? (manager : COVManager) (key : PropertySubscriptionKey)
    : Option PropertySubscription :=
  (manager.propertySubscriptions.find? key).bind manager.propertySubscriptions.items.get

/-- What a cancellation is for: the subscription under the key is gone, all others are as they
were, and nobody is notified.
-/
structure Cancelled (key : PropertySubscriptionKey) (before after : COVManager) : Prop where
  gone : after.propertySubscription? key = none
  others : ∀ other, other ≠ key
    → after.propertySubscription? other = before.propertySubscription? other
  objects : after.subscriptions = before.subscriptions
  silent : after.sent = before.sent

variable {maxSubscriptions maxPropertySubscriptions : Nat} {manager after : COVManager}
  {context : CovContext} {subscriber : BACnetAddress} {request : SubscribeCOVPropertyRequest}
  {obj : BACnetObject}

/-- What `subscribe_property` makes of a cancellation that it accepts: a subscription without an
end takes the place of the old one, and its subscriber is notified.
-/
theorem subscribePropertyTo_cancellation (cancels : request.IsCancellation)
    (ran : subscribePropertyTo context subscriber request obj manager = (.ok (), after))
    : ∃ notification,
        after = { manager with
          propertySubscriptions :=
            (manager.propertySubscriptions.cancelTimer (keyOf subscriber request)).store
              (keyOf subscriber request).group (keyOf subscriber request)
              (subscriptionFor context subscriber request obj none)
          sent := manager.sent ++ [notification] } := by
  have accepted : SubscriptionAccepted context subscriber request obj manager :=
    subscribePropertyTo_ok_iff.mp (congrArg Prod.fst ran)
  obtain ⟨room, lifetime, fits, notification, built⟩ := accepted
  have unlimited : request.lifetime = none := cancels.2
  obtain rfl : none = lifetime := by simpa [unlimited, floatLifetime] using fits
  refine ⟨notification, ?_⟩
  rw [subscribePropertyTo_apply, if_neg room] at ran
  simp only [unlimited, floatLifetime, Stateful.bind_apply, Stateful.lift_apply,
    onPropertySubscriptions, Stateful.modifies_apply, Stateful.when, Option.getD_none,
    Nat.lt_irrefl, if_false, Stateful.pure_apply, send, built, Prod.mk.injEq, true_and] at ran
  exact ran.symm

end COVManager

-- The handler

namespace Server

variable {server : Server} {now : Float} {source : BACnetAddress}
  {request : SubscribeCOVPropertyRequest}

/-- The request finds an object, a COV manager with room for its subscription, and a first
notification that can be built.
-/
def AcceptsProperty (now : Float) (source : BACnetAddress) (request : SubscribeCOVPropertyRequest)
    (server : Server)
    : Prop :=
  ∃ ref manager obj,
    server.db.get (server.resolveObjectId request.monitoredObjectIdentifier) = some ref
      ∧ server.cov = some manager
      ∧ server.db.object? request.monitoredObjectIdentifier = some obj
      ∧ COVManager.SubscriptionAccepted { db := server.db, deviceId := server.deviceId, now }
        source request obj manager

/-- Whenever the handler succeeds, the subscription of the request has been cancelled. -/
def CancelsProperty (now : Float) (source : BACnetAddress) (request : SubscribeCOVPropertyRequest)
    (server : Server)
    : Prop :=
  ∀ next, handleSubscribeCovProperty now source request server = (.ok (), next)
    → ∃ before after, server.cov = some before ∧ next.cov = some after
      ∧ COVManager.Cancelled (COVManager.keyOf source request) before after

/-- The handler succeeds exactly for requests that are accepted as a subscription, and then it
leaves what `subscribe_property` leaves.
-/
theorem handleSubscribeCovProperty_ok_iff {next}
    : handleSubscribeCovProperty now source request server = (.ok (), next)
      ↔ ∃ ref manager obj after,
        server.db.get (server.resolveObjectId request.monitoredObjectIdentifier) = some ref
          ∧ server.cov = some manager
          ∧ server.db.object? request.monitoredObjectIdentifier = some obj
          ∧ COVManager.subscribePropertyTo
            { db := server.db, deviceId := server.deviceId, now } source request obj manager
            = (.ok (), after)
          ∧ next = { server with cov := some after } := by
  simp only [handleSubscribeCovProperty, Stateful.bind_apply, lookup, Stateful.consults_apply]
  cases server.db.get (server.resolveObjectId request.monitoredObjectIdentifier) with
  | none => simp
  | some ref =>
    cases there : server.cov with
    | none => simp [onCov, there, covDenied]
    | some manager =>
      simp only [onCov, there, COVManager.subscribeProperty]
      cases server.db.object? request.monitoredObjectIdentifier with
      | none => simp
      | some obj =>
        dsimp only
        rcases subscribed : COVManager.subscribePropertyTo
          { db := server.db, deviceId := server.deviceId, now } source request obj manager
          with ⟨outcome, after⟩
        constructor
        · intro ended
          cases ended
          exact ⟨ref, manager, obj, after, rfl, rfl, rfl, subscribed, rfl⟩
        · intro parts
          obtain ⟨_, _, _, _, _, same, sameObject, ran, rfl⟩ := parts
          cases same
          cases sameObject
          cases subscribed.symm.trans ran
          rfl

/-- The handler of `SubscribeCOVProperty` cancels nothing: a cancellation has the effect of one
only if it is refused, as a subscription would be.
-/
theorem cancelsProperty_iff (now : Float) (source : BACnetAddress)
    (request : SubscribeCOVPropertyRequest) (server : Server) (cancels : request.IsCancellation)
    : CancelsProperty now source request server ↔ ¬ AcceptsProperty now source request server := by
  constructor
  · intro cancelled accepted
    obtain ⟨ref, manager, obj, found, there, stored, accepts⟩ := accepted
    obtain ⟨after, subscribed⟩ : ∃ after, COVManager.subscribePropertyTo
        { db := server.db, deviceId := server.deviceId, now } source request obj manager
        = (.ok (), after) :=
      ⟨_, Prod.ext (COVManager.subscribePropertyTo_ok_iff.mpr accepts) rfl⟩
    obtain ⟨_, _, same, sameAfter, gone, -⟩ := cancelled { server with cov := some after }
      (handleSubscribeCovProperty_ok_iff.mpr
        ⟨ref, manager, obj, after, found, there, stored, subscribed, rfl⟩)
    cases sameAfter
    obtain ⟨notification, rfl⟩ := COVManager.subscribePropertyTo_cancellation cancels subscribed
    simp [COVManager.propertySubscription?, LeaseTable.find?, LeaseTable.store] at gone
  · intro refused next done
    obtain ⟨ref, manager, obj, after, found, there, stored, subscribed, -⟩ :=
      handleSubscribeCovProperty_ok_iff.mp done
    have accepts := COVManager.subscribePropertyTo_ok_iff.mp (congrArg Prod.fst subscribed)
    exact absurd ⟨ref, manager, obj, found, there, stored, accepts⟩ refused

/-- A server with one Analog Input, whose COV manager nobody has subscribed to yet. -/
def quietServer : Server where
  db := COVManager.oneInput
  cov := some (COVManager.new 1 1)

/-- A request about the Present_Value of the Analog Input that asks for nothing. -/
def cancelRequest : SubscribeCOVPropertyRequest where
  subscriberProcessIdentifier := 1
  monitoredObjectIdentifier := ⟨.analogInput, 1⟩
  reference := { monitoredProperty := { propertyIdentifier := 85 } }

/-- The handler takes the cancellation, as there is room for a subscription. -/
theorem cancelsProperty_iff_quiet
    : CancelsProperty 0 {} cancelRequest quietServer
      ↔ ¬ AcceptsProperty 0 {} cancelRequest quietServer :=
  cancelsProperty_iff 0 {} cancelRequest quietServer (by decide)

/-- A subscription for a minute, and its cancellation: the handler succeeds, the subscription goes
on for ever, and a second notification goes out.
-/
theorem cancellation_prolongs
    : let minute := { cancelRequest with lifetime := some 60 }
      let subscribed := (handleSubscribeCovProperty 0 {} minute quietServer).2
      let ended := handleSubscribeCovProperty 0 {} cancelRequest subscribed
      ended.1 = .ok ()
        ∧ (ended.2.cov.map fun manager =>
            ((manager.propertySubscription? (COVManager.keyOf {} cancelRequest)).isSome,
              manager.sent.length))
          = some (true, 2) := by
  decide +kernel

end Server

-- Subscriptions to objects

/-- The subscription under the key is gone with its timer, and that is all. -/
structure COVManager.Unsubscribed (key : SubscriptionKey) (before after : COVManager) : Prop where
  gone : after.subscriptions.find? key = none
  disarmed : ∀ ref, after.subscriptions.timers.get ref ≠ some key
  others : ∀ other, other ≠ key
    → after.subscriptions.find? other = before.subscriptions.find? other
  items : after.subscriptions.items = before.subscriptions.items
  rest : after = { before with subscriptions := after.subscriptions }

namespace Server

/-- What a request of the source to subscribe to an object is for. -/
def subscriptionKey (server : Server) (source : BACnetAddress) (request : SubscribeCOVRequest)
    : SubscriptionKey where
  subscriber := source
  processId := request.subscriberProcessIdentifier
  objectId := server.resolveObjectId request.monitoredObjectIdentifier

end Server

end BacPy
