import BacPy.App.Cov
import BacPy.Library.Runs
import BacPy.Objects.Classes

/-! The tables of `COVManager` and their indices agree in every reachable state, and a timer
removes nothing but the subscription it was armed for.
-/

namespace BacPy

open Library
open Stateful (Preserves Triple)

namespace COVManager

/-- What can happen to a COV manager. The objects, the device and the clock it sees may be any
each time.
-/
inductive Event where
  | subscribe (context : CovContext) (subscriber : BACnetAddress) (request : SubscribeCOVRequest)
  | unsubscribe (subscriber : BACnetAddress) (processId : Nat) (objectId : ObjectIdentifier)
  | subscribeProperty (context : CovContext) (subscriber : BACnetAddress)
    (request : SubscribeCOVPropertyRequest)
  | subscribePropertyMultiple (context : CovContext) (subscriber : BACnetAddress)
    (request : SubscribeCOVPropertyMultipleRequest)
  | unsubscribeProperty (key : PropertySubscriptionKey)
  | checkAndNotify (context : CovContext) (obj : BACnetObject)
    (changedProperty : PropertyIdentifier)
  /-- the timer armed for a subscription fires -/
  | subscriptionExpires (ref : Nat)
  /-- the timer armed for a property subscription fires -/
  | propertySubscriptionExpires (ref : Nat)
  | removeObjectSubscriptions (objectId : ObjectIdentifier)
  | shutdown

/-- One step of the manager, whether the operation succeeds or raises; `none` where no timer is
pending.
-/
def step (manager : COVManager) : Event → Option COVManager
  | .subscribe context subscriber request =>
    some (subscribe context subscriber request manager).2
  | .unsubscribe subscriber processId objectId =>
    some (unsubscribe subscriber processId objectId manager).2
  | .subscribeProperty context subscriber request =>
    some (subscribeProperty context subscriber request manager).2
  | .subscribePropertyMultiple context subscriber request =>
    some (subscribePropertyMultiple context subscriber request manager).2
  | .unsubscribeProperty key => some (unsubscribeProperty key manager).2
  | .checkAndNotify context obj changedProperty =>
    some (checkAndNotify context obj changedProperty manager).2
  | .subscriptionExpires ref => manager.onSubscriptionExpired ref
  | .propertySubscriptionExpires ref => manager.onPropertySubscriptionExpired ref
  | .removeObjectSubscriptions objectId => some (removeObjectSubscriptions objectId manager).2
  | .shutdown => some (shutdown manager).2

def new (maxSubscriptions maxPropertySubscriptions : Nat) : COVManager where
  subscriptions := { capacity := maxSubscriptions }
  propertySubscriptions := { capacity := maxPropertySubscriptions }

/-- Both tables are consistent: see `LeaseTable.Consistent`. -/
structure Consistent (maxSubscriptions maxPropertySubscriptions : Nat) (manager : COVManager)
    : Prop where
  subscriptions : manager.subscriptions.Consistent SubscriptionKey.objectId
    COVSubscription.monitoredObject maxSubscriptions
  propertySubscriptions : manager.propertySubscriptions.Consistent PropertySubscriptionKey.group
    PropertySubscription.group maxPropertySubscriptions

variable {maxSubscriptions maxPropertySubscriptions : Nat} {manager : COVManager}

-- What the operations are made of

/-- A change of the first table that keeps it consistent keeps the manager consistent. -/
theorem preserves_onSubscriptions {change}
    (kept : ∀ leases : LeaseTable ObjectIdentifier SubscriptionKey COVSubscription,
      leases.Consistent SubscriptionKey.objectId COVSubscription.monitoredObject maxSubscriptions
      → (change leases).Consistent SubscriptionKey.objectId COVSubscription.monitoredObject
        maxSubscriptions)
    : Preserves (Consistent maxSubscriptions maxPropertySubscriptions)
        (onSubscriptions change) :=
  Preserves.modifies fun _ consistent =>
    ⟨kept _ consistent.subscriptions, consistent.propertySubscriptions⟩

/-- A change of the second table that keeps it consistent keeps the manager consistent. -/
theorem preserves_onPropertySubscriptions {change}
    (kept : ∀ leases : LeaseTable (ObjectIdentifier × Nat) PropertySubscriptionKey
        PropertySubscription,
      leases.Consistent PropertySubscriptionKey.group PropertySubscription.group
        maxPropertySubscriptions
      → (change leases).Consistent PropertySubscriptionKey.group PropertySubscription.group
        maxPropertySubscriptions)
    : Preserves (Consistent maxSubscriptions maxPropertySubscriptions)
        (onPropertySubscriptions change) :=
  Preserves.modifies fun _ consistent =>
    ⟨consistent.subscriptions, kept _ consistent.propertySubscriptions⟩

/-- Sending leaves the tables alone, and so does a notification that cannot be built. -/
theorem preserves_send (notification)
    : Preserves (Consistent maxSubscriptions maxPropertySubscriptions)
        (send notification) := by
  apply Preserves.bind (.lift notification)
  intro sent
  exact .modifies fun _ consistent =>
    ⟨consistent.subscriptions, consistent.propertySubscriptions⟩

/-- Between the cancelled timer and the new entry nothing may raise but the checks: the entry
is stored when there is room for it and no timer names its key.
-/
theorem preserves_subscribeTo (context : CovContext) (subscriber : BACnetAddress) (request)
    (obj : BACnetObject)
    : Preserves (Consistent maxSubscriptions maxPropertySubscriptions)
        (subscribeTo context subscriber request obj) := by
  let key : SubscriptionKey := {
    subscriber
    processId := request.subscriberProcessIdentifier
    objectId := request.monitoredObjectIdentifier
  }
  let Disarmed (manager : COVManager) : Prop :=
    Consistent maxSubscriptions maxPropertySubscriptions manager
    ∧ ∀ ref, manager.subscriptions.timers.get ref ≠ some key
  let Ready (manager : COVManager) : Prop :=
    Disarmed manager ∧ ¬ manager.subscriptions.isFull key
  apply Triple.bind fun _ => Disarmed
  · exact .modifies fun _ consistent => ⟨
      ⟨consistent.subscriptions.cancelTimer key, consistent.propertySubscriptions⟩,
      consistent.subscriptions.cancelTimer_disarms key
    ⟩
  intro _
  apply Triple.bind fun _ => Ready
  · exact .refuseIf (fun _ disarmed room => ⟨disarmed, room⟩)
      (fun _ disarmed _ => disarmed.1)
  intro _
  apply Triple.bind fun _ => Ready
  · exact .lift (fun _ _ _ ready => ready) (fun _ _ _ ready => ready.1.1)
  intro lifetime
  apply Triple.bind fun _ => Consistent maxSubscriptions maxPropertySubscriptions
  · exact .modifies fun _ ready =>
      ⟨ready.1.1.subscriptions.store rfl ready.2 ready.1.2, ready.1.1.propertySubscriptions⟩
  intro _
  apply Preserves.bind
  · apply Preserves.when
    intro _
    exact preserves_onSubscriptions fun _ consistent => consistent.arm key
  intro _
  exact preserves_send _

theorem preserves_subscribePropertyTo (context : CovContext) (subscriber : BACnetAddress) (request)
    (obj : BACnetObject)
    : Preserves (Consistent maxSubscriptions maxPropertySubscriptions)
        (subscribePropertyTo context subscriber request obj) := by
  let key : PropertySubscriptionKey := {
    subscriber
    processId := request.subscriberProcessIdentifier
    objectId := request.monitoredObjectIdentifier
    propertyId := request.reference.monitoredProperty.propertyIdentifier
    arrayIndex := request.reference.monitoredProperty.propertyArrayIndex
  }
  let Disarmed (manager : COVManager) : Prop :=
    Consistent maxSubscriptions maxPropertySubscriptions manager
    ∧ ∀ ref, manager.propertySubscriptions.timers.get ref ≠ some key
  let Ready (manager : COVManager) : Prop :=
    Disarmed manager ∧ ¬ manager.propertySubscriptions.isFull key
  apply Triple.bind fun _ => Disarmed
  · exact .modifies fun _ consistent => ⟨
      ⟨consistent.subscriptions, consistent.propertySubscriptions.cancelTimer key⟩,
      consistent.propertySubscriptions.cancelTimer_disarms key
    ⟩
  intro _
  apply Triple.bind fun _ => Ready
  · exact .refuseIf (fun _ disarmed room => ⟨disarmed, room⟩)
      (fun _ disarmed _ => disarmed.1)
  intro _
  apply Triple.bind fun _ => Ready
  · exact .lift (fun _ _ _ ready => ready) (fun _ _ _ ready => ready.1.1)
  intro lifetime
  apply Triple.bind fun _ => Consistent maxSubscriptions maxPropertySubscriptions
  · exact .modifies fun _ ready =>
      ⟨ready.1.1.subscriptions, ready.1.1.propertySubscriptions.store rfl ready.2 ready.1.2⟩
  intro _
  apply Preserves.bind
  · apply Preserves.when
    intro _
    exact preserves_onPropertySubscriptions fun _ consistent => consistent.arm key
  intro _
  exact preserves_send _

-- The operations

theorem preserves_subscribe (context : CovContext) (subscriber : BACnetAddress) (request)
    : Preserves (Consistent maxSubscriptions maxPropertySubscriptions)
        (subscribe context subscriber request) := by
  unfold subscribe
  cases context.db.object? request.monitoredObjectIdentifier with
  | none => exact .raise _
  | some obj => exact preserves_subscribeTo context subscriber request obj

theorem preserves_subscribeProperty (context : CovContext) (subscriber : BACnetAddress) (request)
    : Preserves (Consistent maxSubscriptions maxPropertySubscriptions)
        (subscribeProperty context subscriber request) := by
  unfold subscribeProperty
  cases context.db.object? request.monitoredObjectIdentifier with
  | none => exact .raise _
  | some obj => exact preserves_subscribePropertyTo context subscriber request obj

/-- A request for many subscriptions stays consistent wherever it stops, by the loop rule. -/
theorem preserves_subscribePropertyMultiple (context : CovContext) (subscriber : BACnetAddress)
    (request)
    : Preserves (Consistent maxSubscriptions maxPropertySubscriptions)
        (subscribePropertyMultiple context subscriber request) := by
  apply Preserves.forEach
  intro spec _
  unfold subscribeSpecification
  cases context.db.object? spec.monitoredObjectIdentifier with
  | none => exact .raise _
  | some obj =>
    apply Preserves.forEach
    intro reference _
    exact preserves_subscribePropertyTo context subscriber _ obj

/-- A notification changes what a subscription remembers, but not where it belongs. -/
theorem preserves_notifyObjectChange (context : CovContext) (obj : BACnetObject) (ref : Nat)
    : Preserves (Consistent maxSubscriptions maxPropertySubscriptions)
        (notifyObjectChange context obj ref) := by
  apply Preserves.of_final
  intro manager consistent
  unfold notifyObjectChange
  cases manager.subscriptions.items.get ref with
  | none => exact consistent
  | some sub =>
    have preserves : Preserves (Consistent maxSubscriptions maxPropertySubscriptions)
        (notifyObjectChange.notifySubscriber context obj ref sub) := by
      apply Preserves.bind (.lift _)
      intro notify
      apply Preserves.when
      intro _
      apply Preserves.bind (preserves_send _)
      intro _
      exact preserves_onSubscriptions fun _ kept => kept.update ref fun _ => rfl
    exact preserves.final consistent

theorem preserves_notifyPropertyChange (context : CovContext) (obj : BACnetObject) (ref : Nat)
    : Preserves (Consistent maxSubscriptions maxPropertySubscriptions)
        (notifyPropertyChange context obj ref) := by
  apply Preserves.of_final
  intro manager consistent
  unfold notifyPropertyChange
  cases manager.propertySubscriptions.items.get ref with
  | none => exact consistent
  | some sub =>
    have preserves : Preserves (Consistent maxSubscriptions maxPropertySubscriptions)
        (notifyPropertyChange.notifySubscriber context obj ref sub) := by
      apply Preserves.bind (.lift _)
      intro notify
      apply Preserves.when
      intro _
      apply Preserves.bind (preserves_send _)
      intro _
      exact preserves_onPropertySubscriptions fun _ kept => kept.update ref fun _ => rfl
    exact preserves.final consistent

theorem preserves_checkAndNotify (context : CovContext) (obj : BACnetObject)
    (changedProperty : PropertyIdentifier)
    : Preserves (Consistent maxSubscriptions maxPropertySubscriptions)
        (checkAndNotify context obj changedProperty) := by
  apply Preserves.bind (.reads _)
  intro refs
  apply Preserves.bind
  · exact .forEach fun ref _ => preserves_notifyObjectChange context obj ref
  intro _
  apply Preserves.bind (.reads _)
  intro refs
  exact .forEach fun ref _ => preserves_notifyPropertyChange context obj ref

theorem preserves_removeObjectSubscriptions (objectId)
    : Preserves (Consistent maxSubscriptions maxPropertySubscriptions)
        (removeObjectSubscriptions objectId) := by
  apply Preserves.bind
  · exact preserves_onSubscriptions fun _ consistent => consistent.dropGroup objectId
  intro _
  exact preserves_onPropertySubscriptions fun _ consistent => consistent.dropGroups _

theorem preserves_shutdown
    : Preserves (Consistent maxSubscriptions maxPropertySubscriptions) shutdown := by
  apply Preserves.bind
  · exact preserves_onSubscriptions fun _ consistent => consistent.clear
  intro _
  exact preserves_onPropertySubscriptions fun _ consistent => consistent.clear

-- Runs

/-- Every step keeps the tables consistent, by cases on what happens. -/
theorem consistent_step {manager next event}
    (consistent : Consistent maxSubscriptions maxPropertySubscriptions manager)
    (stepped : manager.step event = some next)
    : Consistent maxSubscriptions maxPropertySubscriptions next := by
  cases event with
  | subscribe context subscriber request =>
    cases stepped
    exact (preserves_subscribe context subscriber request).final consistent
  | unsubscribe subscriber processId objectId =>
    cases stepped
    exact (preserves_onSubscriptions fun _ kept =>
      kept.cancel { subscriber, processId, objectId }).final consistent
  | subscribeProperty context subscriber request =>
    cases stepped
    exact (preserves_subscribeProperty context subscriber request).final consistent
  | subscribePropertyMultiple context subscriber request =>
    cases stepped
    exact (preserves_subscribePropertyMultiple context subscriber request).final consistent
  | unsubscribeProperty key =>
    cases stepped
    exact (preserves_onPropertySubscriptions fun _ kept => kept.cancel key).final consistent
  | checkAndNotify context obj changedProperty =>
    cases stepped
    exact (preserves_checkAndNotify context obj changedProperty).final consistent
  | subscriptionExpires ref =>
    obtain ⟨subscriptions, expired, rfl⟩ := Option.map_eq_some_iff.mp stepped
    exact ⟨consistent.subscriptions.expire expired, consistent.propertySubscriptions⟩
  | propertySubscriptionExpires ref =>
    obtain ⟨propertySubscriptions, expired, rfl⟩ := Option.map_eq_some_iff.mp stepped
    exact ⟨consistent.subscriptions, consistent.propertySubscriptions.expire expired⟩
  | removeObjectSubscriptions objectId =>
    cases stepped
    exact (preserves_removeObjectSubscriptions objectId).final consistent
  | shutdown =>
    cases stepped
    exact preserves_shutdown.final consistent

/-- The tables are consistent after every run, by run induction. -/
theorem consistent_run {events}
    (ran : run step (new maxSubscriptions maxPropertySubscriptions) events = some manager)
    : Consistent maxSubscriptions maxPropertySubscriptions manager := by
  have start : Consistent maxSubscriptions maxPropertySubscriptions
      (new maxSubscriptions maxPropertySubscriptions) :=
    ⟨.empty maxSubscriptions, .empty maxPropertySubscriptions⟩
  exact invariant_every_run consistent_step start ran

/-- In every state a COV manager reaches, each index holds exactly the subscriptions of its
table, as the same objects and in buckets that are not empty, and both tables are within
their capacities. A timer that fires for a subscription takes no other one out of the table.
-/
theorem tables_agree (maxSubscriptions maxPropertySubscriptions : Nat) (events : List Event)
    (manager : COVManager)
    (ran : run step (new maxSubscriptions maxPropertySubscriptions) events = some manager)
    : (∀ objectId key,
        manager.subscriptions.index.find objectId key
          = if key.objectId = objectId then manager.subscriptions.table.get key else none)
      ∧ (∀ group key,
        manager.propertySubscriptions.index.find group key
          = if (key.objectId, key.propertyId) = group
            then manager.propertySubscriptions.table.get key else none)
      ∧ (∀ objectId bucket, manager.subscriptions.index.get objectId = some bucket
        → bucket.isEmpty = false)
      ∧ (∀ group bucket, manager.propertySubscriptions.index.get group = some bucket
        → bucket.isEmpty = false)
      ∧ manager.subscriptions.table.size ≤ maxSubscriptions
      ∧ manager.propertySubscriptions.table.size ≤ maxPropertySubscriptions
      ∧ (∀ ref next, manager.step (.subscriptionExpires ref) = some next
        → ∀ key other, other ≠ ref → manager.subscriptions.table.get key = some other
          → next.subscriptions.table.get key = some other)
      ∧ (∀ ref next, manager.step (.propertySubscriptionExpires ref) = some next
        → ∀ key other, other ≠ ref → manager.propertySubscriptions.table.get key = some other
          → next.propertySubscriptions.table.get key = some other) := by
  have consistent := consistent_run ran
  refine ⟨consistent.subscriptions.indexes.exact, consistent.propertySubscriptions.indexes.exact,
    consistent.subscriptions.indexes.inhabited,
    consistent.propertySubscriptions.indexes.inhabited,
    consistent.subscriptions.withinCapacity, consistent.propertySubscriptions.withinCapacity,
    ?_, ?_⟩
  · intro ref next stepped key other different stored
    obtain ⟨subscriptions, expired, rfl⟩ := Option.map_eq_some_iff.mp stepped
    exact consistent.subscriptions.expire_keeps expired different stored
  · intro ref next stepped key other different stored
    obtain ⟨propertySubscriptions, expired, rfl⟩ := Option.map_eq_some_iff.mp stepped
    exact consistent.propertySubscriptions.expire_keeps expired different stored

def oneInput : ObjectDatabase :=
  let input := BACnetObject.construct analogInputObject 1 [(.objectName, .str "AI-1")]
  (ObjectDatabase.add 0 (({} : ObjectDatabase).allocate input)).2

def minuteRequest : SubscribeCOVRequest where
  subscriberProcessIdentifier := 1
  monitoredObjectIdentifier := ⟨.analogInput, 1⟩
  issueConfirmedNotifications := some true
  lifetime := some 60

/-- A subscription is replaced, the timer of the second one fires, and a third one follows. -/
def replacements : List Event :=
  let context : CovContext := { db := oneInput, deviceId := ⟨.device, 1⟩, now := 0 }
  [.subscribe context {} minuteRequest, .subscribe context {} minuteRequest,
    .subscriptionExpires 1, .subscribe context {} minuteRequest]

/-- A table with room for one subscription, which is replaced and renewed. -/
theorem tables_agree_replacements
    : ∃ manager, run step (new 1 1) replacements = some manager
        ∧ manager.subscriptions.table.size = 1
        ∧ manager.subscriptions.table.size ≤ 1 := by
  obtain ⟨manager, ran, size⟩ : ∃ manager, run step (new 1 1) replacements = some manager
      ∧ manager.subscriptions.table.size = 1 := by
    have reached : ((run step (new 1 1) replacements).map fun manager =>
        manager.subscriptions.table.size) = some 1 := by
      decide +kernel
    exact Option.map_eq_some_iff.mp reached
  exact ⟨manager, ran, size, (tables_agree 1 1 replacements manager ran).2.2.2.2.1⟩

end COVManager

end BacPy
