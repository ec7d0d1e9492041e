import BacPy.App.WritePropertyMultiple

/-! Services with a single target when they fail: WriteProperty, the list services, CreateObject and
SubscribeCOVPropertyMultiple.
-/

namespace BacPy

open Library
open Stateful (FailsTo)
open ObjectDatabase (onObject_fails createObject recordOperation add_entered add_eq)
open Stateful (when modifies lift refuseIf InTurn forEach_ok_iff forEach raise)

namespace Server

variable {server : Server} {now : Float} [JapaneseCodec]

-- The requests

/-- A request for a single target. -/
inductive SingleTarget where
  | writeProperty (request : WritePropertyRequest)
  | addListElement (request : ListElementRequest)
  | removeListElement (request : ListElementRequest)
  | createObject (request : CreateObjectRequest)
  | subscribeCovPropertyMultiple (subscriber : BACnetAddress)
    (request : SubscribeCOVPropertyMultipleRequest)

def handleSingle (registry : List ObjectClass) (now : Float) : SingleTarget → Action Unit
  | .writeProperty request => handleWriteProperty now request
  | .addListElement request => handleAddListElement request
  | .removeListElement request => handleRemoveListElement request
  | .createObject request => do
      let _ ← handleCreateObject registry request
      pure ()
  | .subscribeCovPropertyMultiple subscriber request =>
    handleSubscribeCovPropertyMultiple now subscriber request

-- WriteProperty

def entryOf (request : WritePropertyRequest) : BACnetPropertyValue where
  propertyIdentifier := request.propertyIdentifier
  propertyArrayIndex := request.propertyArrayIndex
  value := request.propertyValue
  priority := request.priority

/-- The write that is asked for does not stop half-way. -/
def WriteRequestReady (now : Float) (request : WritePropertyRequest) (server : Server) : Prop :=
  ∀ ref, server.db.get (server.resolveObjectId request.objectIdentifier) = some ref
    → EntryReady now (ref, entryOf request) server

omit [JapaneseCodec] in
/-- Looking up the object changes nothing. -/
theorem lookup_fails {Result : Type} {objectId : ObjectIdentifier} {next : Nat → Action Result}
    (onward : ∀ ref, server.db.get (server.resolveObjectId objectId) = some ref
      → FailsTo (SameState server) (next ref) server)
    : FailsTo (SameState server) (lookup objectId >>= next) server := by
  apply FailsTo.bind_consults (.refl _)
  intro ref found
  apply onward
  cases stored : server.db.get (server.resolveObjectId objectId) with
  | none =>
    rw [stored] at found
    cases found
  | some other =>
    rw [stored] at found
    rw [Except.ok.inj found]

theorem handleWriteProperty_fails {request : WritePropertyRequest}
    (ready : WriteRequestReady now request server)
    : FailsTo (SameState server) (handleWriteProperty now request) server :=
  lookup_fails fun ref found => writeEntry_fails (ready ref found)

-- Lists

/-- The list is there already, or the elements for a new one can be decoded. -/
def AddReady (request : ListElementRequest) (server : Server) : Prop :=
  ∀ ref obj definition, server.db.get (server.resolveObjectId request.objectIdentifier) = some ref
    → server.db.heap.get ref = some obj
    → listDefinition obj request.propertyIdentifier = .ok definition
    → obj.get request.propertyIdentifier = .none → definition.datatype = .list
    → ∃ elements, decodeAllApplicationValues request.listOfElements = .ok elements

/-- Elements that cannot be decoded leave a list as it is, but a property without a value would
have become a list.
-/
theorem addElements_fails {request obj}
    (ready : ∀ definition, listDefinition obj request.propertyIdentifier = .ok definition
      → obj.get request.propertyIdentifier = .none → definition.datatype = .list
      → ∃ elements, decodeAllApplicationValues request.listOfElements = .ok elements)
    : FailsTo (· = obj) (addElements request) obj := by
  refine .bind_consults (Eq.refl obj) ?_
  intro definition access
  refine .bind_consults (Eq.refl obj) ?_
  intro missing looked
  rcases decoded : decodeAllApplicationValues request.listOfElements with raised | elements
  · cases list : (obj.get request.propertyIdentifier).asList? with
    | some items =>
      rw [list] at looked
      cases looked
      apply FailsTo.of_final
      rfl
    | none =>
      rw [list] at looked
      dsimp only at looked
      split at looked
      · next absent =>
          obtain ⟨elements, same⟩ := ready definition access absent.1 absent.2
          rw [decoded] at same
          cases same
      · cases looked
  · have done : ∀ state : BACnetObject, ((do
        when (missing = true)
          (modifies fun obj => obj.set request.propertyIdentifier (.list []))
        let elements ← lift (raising (.ok elements))
        modifies fun obj => obj.set request.propertyIdentifier
          (.list (((obj.get request.propertyIdentifier).asList?).getD [] ++ elements))
        : Stateful Raised BACnetObject Unit) state).1 = .ok () := by
      intro state
      unfold when
      split <;> rfl
    exact .of_ok (done obj)

theorem handleAddListElement_fails {request : ListElementRequest} (ready : AddReady request server)
    : FailsTo (SameState server) (handleAddListElement request) server := by
  apply lookup_fails
  intro ref found
  apply onDb_fails
  apply onObject_fails
  intro obj stored
  apply addElements_fails
  exact fun definition => ready ref obj definition found stored

/-- Elements are removed only after all of them have been decoded. -/
theorem removeElements_fails {request obj}
    : FailsTo (· = obj) (removeElements request) obj := by
  refine .bind_consults (Eq.refl obj) ?_
  intro definition _
  refine .bind_consults (Eq.refl obj) ?_
  intro items _
  refine .bind_lift (Eq.refl obj) ?_
  intro elements _
  exact .modifies _

theorem handleRemoveListElement_fails {request : ListElementRequest}
    : FailsTo (SameState server) (handleRemoveListElement request) server := by
  apply lookup_fails
  intro ref _
  apply onDb_fails
  apply onObject_fails
  exact fun obj _ => removeElements_fails

-- CreateObject

/-- Once the new object is in the database, the revision can be counted up and the creation is
recorded.
-/
def CreateReady (registry : List ObjectClass) (request : CreateObjectRequest) (server : Server)
    : Prop :=
  ∀ specified initialValues, specifier request = .ok specified
    → decodeInitialValues (request.listOfInitialValues.getD []) = .ok initialValues
    → (∀ obj, BACnetObject.create registry specified.1
          (specified.2.getD (server.db.nextInstance specified.1)) initialValues = .ok obj
        → server.db.Addable obj
        → ((server.db.allocate obj).entered server.db.fresh obj).revisionCounts)
      ∧ ∀ created, onDb (createObject registry specified.1 specified.2 initialValues)
          server = (.ok (), created)
        → (recordOperation .create (created.identifierOf server.db.fresh)
          created.db).1 = .ok ()

omit [JapaneseCodec] in
/-- Making an object and adding it is refused without a trace, or gets to its end. -/
theorem createObject_fails {db registry objectType instanceNumber initialValues}
    (counts : ∀ obj, BACnetObject.create registry objectType
        (instanceNumber.getD (db.nextInstance objectType)) initialValues = .ok obj
      → db.Addable obj → ((db.allocate obj).entered db.fresh obj).revisionCounts)
    : FailsTo db.SameContents
        (createObject registry objectType instanceNumber initialValues) db := by
  rcases made : BACnetObject.create registry objectType
      (instanceNumber.getD (db.nextInstance objectType)) initialValues with raised | obj
  · apply FailsTo.of_final
    unfold createObject
    rw [made]
    exact .refl db
  · have same : createObject registry objectType instanceNumber initialValues db
        = ObjectDatabase.add db.fresh (db.allocate obj) := by
      unfold createObject
      rw [made]
    have stored : (db.allocate obj).heap.get db.fresh = some obj := Dict.get_set_self ..
    have sameChecks : (db.allocate obj).Addable obj ↔ db.Addable obj := Iff.rfl
    by_cases addable : db.Addable obj
    · have counted := ObjectDatabase.incrementDatabaseRevision_isOk
        ((db.allocate obj).entered db.fresh obj)
      rw [counts obj made addable] at counted
      have done : (createObject registry objectType instanceNumber initialValues
          db).1 = .ok () := by
        rw [same, add_entered stored (sameChecks.mpr addable)]
        rcases outcome : ObjectDatabase.incrementDatabaseRevision
          ((db.allocate obj).entered db.fresh obj) with ⟨raised | _, final⟩
        · rw [outcome] at counted
          cases counted
        · rfl
      exact .of_ok done
    · apply FailsTo.of_final
      rw [same, add_eq stored, if_neg fun other => addable (sameChecks.mp other)]
      exact .allocate db obj

omit [JapaneseCodec] in
theorem encodeTarget_ok (target : ObjectIdentifier)
    : ∃ octets, encodeApplicationTagged 12 target.encode = .ok octets := by
  have size : target.encode.length = 4 := length_toBytes ..
  rw [encodeApplicationTagged, size]
  exact ⟨_, rfl⟩

theorem handleCreateObject_fails {registry request} (ready : CreateReady registry request server)
    : FailsTo (SameState server) (handleCreateObject registry request) server := by
  refine .bind_lift (.refl _) ?_
  intro specified which
  refine .bind_lift (.refl _) ?_
  intro initialValues decoded
  apply FailsTo.bind_reads
  obtain ⟨counts, recorded⟩ := ready specified initialValues which decoded
  refine .bind (onDb_fails (createObject_fails counts)) ?_
  intro _ created done
  apply FailsTo.bind_reads
  obtain ⟨octets, encoded⟩ := encodeTarget_ok (created.identifierOf server.db.fresh)
  have finished : ((onDb (recordOperation .create
        (created.identifierOf server.db.fresh)) >>= fun _ =>
      lift (raising (encodeApplicationTagged 12
        (created.identifierOf server.db.fresh).encode))) created).1 = .ok octets := by
    rw [encoded, Stateful.bind_ok_iff]
    exact ⟨(), _, Prod.ext (recorded created done) rfl, rfl⟩
  exact .of_ok finished

-- SubscribeCOVPropertyMultiple

end Server

namespace COVManager

variable {context : CovContext} {subscriber : BACnetAddress} {manager : COVManager}

def keyOf (subscriber : BACnetAddress) (request : SubscribeCOVPropertyRequest)
    : PropertySubscriptionKey where
  subscriber
  processId := request.subscriberProcessIdentifier
  objectId := request.monitoredObjectIdentifier
  propertyId := request.reference.monitoredProperty.propertyIdentifier
  arrayIndex := request.reference.monitoredProperty.propertyArrayIndex

def subscriptionFor (context : CovContext) (subscriber : BACnetAddress)
    (request : SubscribeCOVPropertyRequest) (obj : BACnetObject) (lifetime : Option Float)
    : PropertySubscription where
  subscriber
  processId := request.subscriberProcessIdentifier
  monitoredObject := request.monitoredObjectIdentifier
  monitoredProperty := request.reference.monitoredProperty.propertyIdentifier
  propertyArrayIndex := request.reference.monitoredProperty.propertyArrayIndex
  confirmed := request.issueConfirmedNotifications.getD false
  lifetime
  covIncrement := request.reference.covIncrement
  createdAt := context.now
  lastValue := context.readPropertyValue obj request.reference.monitoredProperty.propertyIdentifier
    request.reference.monitoredProperty.propertyArrayIndex

/-- A subscription is made: there is room, the lifetime is a float, and the first notification can
be built.
-/
def SubscriptionAccepted (context : CovContext) (subscriber : BACnetAddress)
    (request : SubscribeCOVPropertyRequest) (obj : BACnetObject) (manager : COVManager)
    : Prop :=
  ¬ manager.propertySubscriptions.isFull (keyOf subscriber request)
    ∧ ∃ lifetime, floatLifetime request.lifetime = .ok lifetime
      ∧ ∃ notification, context.propertyNotification
        (subscriptionFor context subscriber request obj lifetime) obj = .ok notification

/-- A subscription is refused before the table changes: there is no room for it, or it is new and
its lifetime is too large.
-/
def RefusedAtOnce (subscriber : BACnetAddress) (request : SubscribeCOVPropertyRequest)
    (manager : COVManager)
    : Prop :=
  manager.propertySubscriptions.isFull (keyOf subscriber request)
    ∨ (manager.propertySubscriptions.find? (keyOf subscriber request) = none
      ∧ ∃ raised, floatLifetime request.lifetime = .error raised)

/-- What is left to do once the timer of an older subscription has been cancelled. -/
theorem subscribePropertyTo_apply {request obj}
    : subscribePropertyTo context subscriber request obj manager
      = if manager.propertySubscriptions.isFull (keyOf subscriber request) then
          (.error noSpace, { manager with propertySubscriptions :=
            manager.propertySubscriptions.cancelTimer (keyOf subscriber request) })
        else
          (do
            let lifetime ← lift (floatLifetime request.lifetime)
            let sub := subscriptionFor context subscriber request obj lifetime
            onPropertySubscriptions fun leases =>
              leases.store (keyOf subscriber request).group (keyOf subscriber request) sub
            when (0 < request.lifetime.getD 0) (onPropertySubscriptions fun leases =>
              leases.arm (keyOf subscriber request))
            send (context.propertyNotification sub obj) : Action Unit)
          { manager with propertySubscriptions :=
            manager.propertySubscriptions.cancelTimer (keyOf subscriber request) } := by
  have full := LeaseTable.isFull_cancelTimer manager.propertySubscriptions
    (keyOf subscriber request) (keyOf subscriber request)
  have start : subscribePropertyTo context subscriber request obj manager
      = (refuseIf (fun manager : COVManager =>
          manager.propertySubscriptions.isFull (keyOf subscriber request)) noSpace >>= fun _ => (do
            let lifetime ← lift (floatLifetime request.lifetime)
            let sub := subscriptionFor context subscriber request obj lifetime
            onPropertySubscriptions fun leases =>
              leases.store (keyOf subscriber request).group (keyOf subscriber request) sub
            when (0 < request.lifetime.getD 0) (onPropertySubscriptions fun leases =>
              leases.arm (keyOf subscriber request))
            send (context.propertyNotification sub obj) : Action Unit))
          { manager with propertySubscriptions :=
            manager.propertySubscriptions.cancelTimer (keyOf subscriber request) } := rfl
  rw [start, Stateful.bind_apply, refuseIf]
  dsimp only
  rw [if_congr full rfl rfl]
  by_cases room : manager.propertySubscriptions.isFull (keyOf subscriber request)
  · rw [if_pos room, if_pos room]
  · rw [if_neg room, if_neg room]

theorem subscribePropertyTo_ok_iff {request obj}
    : (subscribePropertyTo context subscriber request obj manager).1 = .ok ()
      ↔ SubscriptionAccepted context subscriber request obj manager := by
  rw [subscribePropertyTo_apply, SubscriptionAccepted]
  split
  · next full => simp [full]
  · next room =>
      rw [Stateful.bind_lift_ok_iff]
      simp only [room, not_false_eq_true, true_and]
      refine exists_congr fun lifetime => and_congr_right fun _ => ?_
      rcases context.propertyNotification (subscriptionFor context subscriber request obj lifetime)
        obj with raised | notification
      · have fails : ∀ state : COVManager, (send (.error raised) state).1 ≠ .ok () := by
          intro state same
          cases same
        simp only [reduceCtorEq, exists_false, iff_false]
        intro done
        obtain ⟨_, stored, _, later⟩ := Stateful.bind_ok_iff.mp done
        obtain ⟨_, armed, _, sent⟩ := Stateful.bind_ok_iff.mp later
        exact fails armed sent
      · simp only [Except.ok.injEq, exists_eq', iff_true]
        refine Stateful.bind_ok_iff.mpr ⟨(), _, rfl, ?_⟩
        unfold when
        split <;> rfl

theorem RefusedAtOnce.not_accepted {request obj}
    (refused : RefusedAtOnce subscriber request manager)
    : ¬ SubscriptionAccepted context subscriber request obj manager := by
  rintro ⟨room, lifetime, fits, _⟩
  rcases refused with full | ⟨_, raised, tooLarge⟩
  · exact room full
  · rw [tooLarge] at fits
    cases fits

/-- A subscription that is refused at once leaves the manager as it is. -/
theorem subscribePropertyTo_fails {request obj} (refused : RefusedAtOnce subscriber request manager)
    : FailsTo (· = manager) (subscribePropertyTo context subscriber request obj)
        manager := by
  have absent : manager.propertySubscriptions.find? (keyOf subscriber request) = none := by
    rcases refused with full | ⟨absent, _⟩
    · exact full.1
    · exact absent
  have same : ({
        manager with propertySubscriptions :=
          manager.propertySubscriptions.cancelTimer (keyOf subscriber request)
      } : COVManager) = manager := by
    rw [LeaseTable.cancelTimer, absent]
  apply FailsTo.of_final
  rw [subscribePropertyTo_apply, same]
  rcases refused with full | ⟨_, raised, tooLarge⟩
  · rw [if_pos full]
  · split
    · rfl
    · rw [tooLarge]
      rfl

-- Many subscriptions

def subscriptionOf (request : SubscribeCOVPropertyMultipleRequest)
    (spec : COVSubscriptionSpecification) (reference : COVReference)
    : SubscribeCOVPropertyRequest where
  subscriberProcessIdentifier := request.subscriberProcessIdentifier
  monitoredObjectIdentifier := spec.monitoredObjectIdentifier
  reference
  issueConfirmedNotifications := request.issueConfirmedNotifications
  lifetime := request.lifetime

def SpecificationAccepted (context : CovContext) (subscriber : BACnetAddress)
    (request : SubscribeCOVPropertyMultipleRequest) (spec : COVSubscriptionSpecification)
    (manager : COVManager)
    : Prop :=
  ∃ obj, context.db.object? spec.monitoredObjectIdentifier = some obj
    ∧ InTurn
      (fun reference => SubscriptionAccepted context subscriber
        (subscriptionOf request spec reference) obj)
      (fun reference => subscribePropertyTo context subscriber
        (subscriptionOf request spec reference) obj)
      spec.listOfCOVReferences manager

/-- The first subscription of a request is refused at once, or none is refused: objects without
references do not count.
-/
def SubscribesCleanly (context : CovContext) (subscriber : BACnetAddress)
    (request : SubscribeCOVPropertyMultipleRequest)
    : List COVSubscriptionSpecification → COVManager → Prop
  | [], _ => True
  | spec :: rest, manager =>
    match context.db.object? spec.monitoredObjectIdentifier, spec.listOfCOVReferences with
    | none, _ => True
    | some _, [] => SubscribesCleanly context subscriber request rest manager
    | some _, reference :: _ =>
      RefusedAtOnce subscriber (subscriptionOf request spec reference) manager
      ∨ InTurn (SpecificationAccepted context subscriber request)
        (subscribeSpecification context subscriber request) (spec :: rest) manager

theorem subscribeSpecification_ok_iff {request spec}
    : (subscribeSpecification context subscriber request spec manager).1 = .ok ()
      ↔ SpecificationAccepted context subscriber request spec manager := by
  unfold subscribeSpecification SpecificationAccepted
  cases context.db.object? spec.monitoredObjectIdentifier with
  | none => simp
  | some obj =>
    simp only [Option.some.injEq, exists_eq_left']
    exact forEach_ok_iff fun reference _ state => subscribePropertyTo_ok_iff

/-- A request whose first subscription is refused leaves the manager as it is, by induction on the
objects before it.
-/
theorem forEach_subscribeSpecification_fails {request specs}
    (cleanly : SubscribesCleanly context subscriber request specs manager)
    : FailsTo (· = manager)
        (forEach (subscribeSpecification context subscriber request) specs) manager := by
  induction specs with
  | nil =>
    have done : (forEach (subscribeSpecification context subscriber request) []
        manager).1 = .ok () := rfl
    exact .of_ok done
  | cons spec rest ih =>
    unfold SubscribesCleanly at cleanly
    cases found : context.db.object? spec.monitoredObjectIdentifier with
    | none =>
      have refused : subscribeSpecification context subscriber request spec
          = raise (.bacnetError .object .unknownObject) := by
        rw [subscribeSpecification, found]
      apply FailsTo.of_final
      rw [forEach, refused]
      rfl
    | some obj =>
      rw [found] at cleanly
      cases references : spec.listOfCOVReferences with
      | nil =>
        rw [references] at cleanly
        have nothing : subscribeSpecification context subscriber request spec
            = pure () := by
          rw [subscribeSpecification, found]
          dsimp only
          rw [references]
          rfl
        rw [forEach, nothing]
        exact ih cleanly
      | cons reference later =>
        rw [references] at cleanly
        rcases cleanly with refused | accepted
        · have first : FailsTo (· = manager)
              (subscribeSpecification context subscriber request spec) manager := by
            rw [subscribeSpecification, found]
            dsimp only
            rw [references]
            exact .forEach (Or.inr ⟨reference, later, rfl, subscribePropertyTo_fails refused,
              fun done => refused.not_accepted (subscribePropertyTo_ok_iff.mp done)⟩)
          refine .forEach (Or.inr ⟨spec, rest, rfl, first, fun done => ?_⟩)
          obtain ⟨other, same, accepted⟩ := subscribeSpecification_ok_iff.mp done
          rw [references] at accepted
          exact refused.not_accepted accepted.1
        · exact .of_ok ((forEach_ok_iff fun spec _ state =>
            subscribeSpecification_ok_iff).mpr accepted)

end COVManager

namespace Server

variable {server : Server} {now : Float}

/-- The request finds no COV manager, or one that subscribes cleanly. -/
def SubscribeReady (now : Float) (subscriber : BACnetAddress)
    (request : SubscribeCOVPropertyMultipleRequest) (server : Server)
    : Prop :=
  ∀ manager, server.cov = some manager
    → COVManager.SubscribesCleanly { db := server.db, deviceId := server.deviceId, now } subscriber
      request request.listOfCOVSubscriptionSpecifications manager

theorem handleSubscribeCovPropertyMultiple_fails {subscriber request}
    (ready : SubscribeReady now subscriber request server)
    : FailsTo (SameState server)
        (handleSubscribeCovPropertyMultiple now subscriber request) server := by
  unfold handleSubscribeCovPropertyMultiple
  cases there : server.cov with
  | none =>
    apply FailsTo.of_final
    rw [onCov, there]
    exact .refl server
  | some manager =>
    have fails := COVManager.forEach_subscribeSpecification_fails (ready manager there)
    let context : CovContext := { db := server.db, deviceId := server.deviceId, now }
    have same : ∀ program, onCov program now covDenied server
        = ((program context manager).1, { server with cov := some (program context manager).2 }) := by
      intro program
      rw [onCov, there]
    rcases outcome : (COVManager.subscribePropertyMultiple
        { db := server.db, deviceId := server.deviceId, now } subscriber request manager).1
      with raised | done
    · apply FailsTo.of_final
      rw [same]
      exact ⟨.refl _, by rw [there]; exact congrArg some (fails.final outcome)⟩
    · have ended : (onCov (fun context => COVManager.subscribePropertyMultiple context subscriber
          request) now covDenied server).1 = .ok () := by
        rw [same]
        exact outcome
      exact .of_ok ended

-- All of them

variable [JapaneseCodec] {registry : List ObjectClass} {request : SingleTarget} {raised : Raised}

/-- The handler of a request does not raise any more once it has changed something. -/
def Ready (registry : List ObjectClass) (now : Float) (server : Server) : SingleTarget → Prop
  | .writeProperty request => WriteRequestReady now request server
  | .addListElement request => AddReady request server
  | .removeListElement _ => True
  | .createObject request => CreateReady registry request server
  | .subscribeCovPropertyMultiple subscriber request =>
    SubscribeReady now subscriber request server

/-- Octets that are no value are refused before anything is written. -/
def undecodableWrite : WritePropertyRequest where
  objectIdentifier := ⟨.integerValue, 1⟩
  propertyIdentifier := .presentValue
  propertyValue := [0x21]

def nameElementWrite : WritePropertyRequest where
  objectIdentifier := ⟨.integerValue, 1⟩
  propertyIdentifier := .objectName
  propertyValue := [0x72, 0x00, 0x42]
  propertyArrayIndex := some 1

end Server

end BacPy
