import BacPy.App.EventStateMachine
import BacPy.App.ScheduleEngine
import BacPy.Network.AddressText

/-! `EventEngine._route_notification` (Clause 13.8): which recipients of a Notification Class are sent a
notification, and how.
-/

namespace BacPy

/-- What `recipient` holds: a device, an address of the class that `BACnetRecipient` declares, or one
of the network layer, which alone the application can send to.
-/
inductive NotificationRecipient where
  | device (device : ObjectIdentifier)
  | address (address : RecipientAddress)
  | network (address : BACnetAddress)

/-- A `BACnetDestination`, without its process identifier, which nothing reads. -/
structure NotificationDestination where
  validDays : BitString
  fromTime : BACnetTime
  toTime : BACnetTime
  recipient : NotificationRecipient
  issueConfirmedNotifications : Bool
  transitions : BitString

/-- `datetime.now`: the day of the week, Monday being 0, and the time. -/
structure Moment where
  weekday : Fin 7
  time : Time

/-- A notification that is handed to the application. -/
structure SentNotification where
  confirmed : Bool
  destination : BACnetAddress
  deriving DecidableEq

namespace NotificationDestination

/-- `bits[index]`, if there is such a bit. -/
def bit? (bits : BitString) (index : Nat) : Option Bool := (Value.bitsOf bits)[index]?

def specified (field otherwise : Nat) : Nat := if field = 0xFF then otherwise else field

/-- The time window of `_recipient_matches`, in seconds. -/
def inWindow (dest : NotificationDestination) (now : Time) : Bool :=
  let tuple (hour minute second : Nat) : Nat ×ₗ Nat ×ₗ Nat := toLex (hour, toLex (minute, second))
  let current := tuple now.hour now.minute now.second
  tuple (specified dest.fromTime.hour 0) (specified dest.fromTime.minute 0)
      (specified dest.fromTime.second 0) ≤ current
    ∧ current ≤ tuple (specified dest.toTime.hour 23) (specified dest.toTime.minute 59)
      (specified dest.toTime.second 59)

/-- `_recipient_matches`: a bit that is missing filters nothing. -/
def recipientMatches (dest : NotificationDestination) (toState : EventState) (now : Moment) : Bool :=
  (bit? dest.transitions toState.transitionIndex).getD true
    && (bit? dest.validDays now.weekday).getD true && dest.inWindow now.time

/-- `_dest_address`: there is no resolver for devices. -/
def destAddress (dest : NotificationDestination) : Option NotificationRecipient :=
  match dest.recipient with
  | .device _ => none
  | address => some address

/-- `confirmed_request` and `unconfirmed_request`: an address that is not one of the network layer
raises an AttributeError, which the engine catches.
-/
def request (confirmed : Bool) : NotificationRecipient → List SentNotification
  | .network destination => [{ confirmed, destination }]
  | _ => []

/-- What the loop sends for a destination, if the notification can be encoded. -/
def notify (encodes : Bool) (toState : EventState) (now : Moment) (dest : NotificationDestination)
    : List SentNotification :=
  if dest.recipientMatches toState now then
    if encodes then
      if dest.issueConfirmedNotifications then dest.destAddress.elim [] (request true)
      else request false (dest.destAddress.getD (.network globalBroadcast))
    else []
  else []

/-- `_route_notification`, with the recipient list of the Notification Class if there are both. -/
def routeNotification (encodes : Bool) (recipients : Option (List NotificationDestination))
    (toState : EventState) (now : Moment)
    : List SentNotification :=
  match recipients.getD [] with
  | [] => if encodes then request false (.network globalBroadcast) else []
  | dest :: rest => (dest :: rest).flatMap (notify encodes toState now)

-- What is promised

/-- The window and the bits as they are written: an unspecified field of an end bounds nothing. -/
def Due (dest : NotificationDestination) (toState : EventState) (now : Moment) : Prop :=
  bit? dest.transitions toState.transitionIndex = some true
    ∧ bit? dest.validDays now.weekday = some true
    ∧ timeTuple dest.fromTime ≤ nowTuple now.time
    ∧ nowTuple now.time ≤ toLex (specified dest.toTime.hour 23,
        toLex (specified dest.toTime.minute 59,
          toLex (specified dest.toTime.second 59, specified dest.toTime.hundredth 99)))

instance decidableDue (dest : NotificationDestination) (toState : EventState) (now : Moment)
    : Decidable (dest.Due toState now) :=
  inferInstanceAs (Decidable (_ ∧ _ ∧ _ ∧ _))

/-- Where recipients are: a device has an address of its own. -/
structure Locator where
  address : NotificationRecipient → BACnetAddress
  network : ∀ known, address (.network known) = known
  device : ∀ device, address (.device device) ≠ globalBroadcast

/-- A notification of the requested kind for the recipient, if it is due. -/
def promised (locator : Locator) (toState : EventState) (now : Moment)
    (dest : NotificationDestination)
    : List SentNotification :=
  if dest.Due toState now then
    [{ confirmed := dest.issueConfirmedNotifications, destination := locator.address dest.recipient }]
  else []

/-- What is due is matched and has an address of the network layer; what is not due is not matched,
or is nobody that anything is sent to.
-/
def Reached (encodes : Bool) (toState : EventState) (now : Moment) (dest : NotificationDestination)
    : Prop :=
  if dest.Due toState now then
    encodes = true ∧ dest.recipientMatches toState now = true
      ∧ ∃ address, dest.recipient = .network address
  else
    encodes = true → dest.recipientMatches toState now = true →
      (∃ address, dest.recipient = .address address)
        ∨ (∃ device, dest.recipient = .device device) ∧ dest.issueConfirmedNotifications = true

variable {encodes : Bool} {toState : EventState} {now : Moment}

theorem notify_eq_promised_iff (locator : Locator) (dest)
    : notify encodes toState now dest = promised locator toState now dest
      ↔ dest.Reached encodes toState now := by
  have elsewhere (device : ObjectIdentifier) := (locator.device device).symm
  have known := locator.network
  unfold notify promised Reached destAddress
  by_cases due : dest.Due toState now
  all_goals
    simp only [due, if_true, if_false]
    cases dest.recipientMatches toState now <;> cases encodes <;>
      cases dest.issueConfirmedNotifications <;> cases dest.recipient <;>
      simp [request, known, elsewhere, eq_comm]

/-- Without recipients a notification is broadcast; with recipients each of them is sent what is
promised if and only if it is reached.
-/
theorem routes_iff (locator : Locator) (encodes : Bool)
    (recipients : Option (List NotificationDestination)) (toState : EventState) (now : Moment)
    : (recipients.getD [] = [] ∧ routeNotification encodes recipients toState now
          = if encodes then [{ confirmed := false, destination := globalBroadcast }] else [])
      ∨ recipients.getD [] ≠ []
        ∧ routeNotification encodes recipients toState now
          = (recipients.getD []).flatMap (notify encodes toState now)
        ∧ ((∀ dest ∈ recipients.getD [],
              notify encodes toState now dest = promised locator toState now dest)
            ↔ ∀ dest ∈ recipients.getD [], dest.Reached encodes toState now) := by
  unfold routeNotification
  cases recipients.getD [] with
  | nil => exact .inl ⟨rfl, rfl⟩
  | cons dest rest =>
    refine .inr ⟨List.cons_ne_nil _ _, rfl, ?_⟩
    exact forall₂_congr fun dest _ => notify_eq_promised_iff locator dest

/-- A whole week, from midnight to midnight, for a device. -/
def everyDay (issueConfirmedNotifications : Bool) : NotificationDestination where
  validDays := ⟨[0xFE], 1, by decide⟩
  fromTime := ⟨0, 0, 0, 0⟩
  toTime := ⟨23, 59, 59, 99⟩
  recipient := .device ⟨.device, 7⟩
  issueConfirmedNotifications
  transitions := ⟨[0xE0], 5, by decide⟩

/-- A device that asks for confirmed notifications gets none; one that asks for unconfirmed ones
makes everybody get them.
-/
theorem device_unresolved
    : let now : Moment := ⟨0, ⟨12, 0, 0, 0⟩⟩
      notify true .offnormal now (everyDay true) = []
        ∧ notify true .offnormal now (everyDay false)
          = [{ confirmed := false, destination := globalBroadcast }]
        ∧ ∀ locator : Locator, promised locator .offnormal now (everyDay true) ≠ []
          ∧ promised locator .offnormal now (everyDay false)
            ≠ [{ confirmed := false, destination := globalBroadcast }] := by
  have due (confirmed : Bool)
      : (everyDay confirmed).Due .offnormal ⟨0, ⟨12, 0, 0, 0⟩⟩ := by
    decide +revert
  refine ⟨by decide, by decide, fun locator => ?_⟩
  simp only [promised, due, if_true]
  simp [everyDay, locator.device]

end NotificationDestination

end BacPy
