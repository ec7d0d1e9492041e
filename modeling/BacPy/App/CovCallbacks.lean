import BacPy.Library.Runs
import BacPy.Network.Address
import BacPy.Services.ContextFields

/-! `subscribe_cov_ex` and `unsubscribe_cov_ex`: the subscriptions of a client, each at a device, for
an object and a process identifier, and its callbacks, which are kept by process identifier alone.
-/

namespace BacPy

open Library

structure CovSubscription where
  address : BACnetAddress
  objectIdentifier : ObjectIdentifier
  processId : Nat
  deriving DecidableEq

/-- How a call ends: with an argument that cannot be parsed, before anything is done, with a request
that raises, or well.
-/
inductive CallEnd where
  | unparsed | failed | done
  deriving DecidableEq

variable {Callback : Type}

inductive CovCall (Callback : Type) where
  | subscribe (subscription : CovSubscription) (callback : Option Callback) (ends : CallEnd)
  | unsubscribe (subscription : CovSubscription) (unregisterCallback : Bool) (ends : CallEnd)

/-- The callbacks of the application, and what the successful calls have subscribed to and not
cancelled, each with the callback of its call.
-/
structure CovClient (Callback : Type) where
  callbacks : Dict Nat Callback := .empty
  subscriptions : Dict CovSubscription (Option Callback) := .empty

namespace CovClient

def registerCovCallback (client : CovClient Callback) (processId : Nat) (callback : Callback)
    : CovClient Callback :=
  { client with callbacks := client.callbacks.set processId callback }

def unregisterCovCallback (client : CovClient Callback) (processId : Nat) : CovClient Callback :=
  { client with callbacks := client.callbacks.pop processId }

/-- The callback is registered before the request, and unregistered if that raises. -/
def subscribeCovEx (client : CovClient Callback) (subscription : CovSubscription)
    (callback : Option Callback)
    : CallEnd → CovClient Callback
  | .unparsed => client
  | .failed =>
    callback.elim client fun callback =>
      (client.registerCovCallback subscription.processId callback).unregisterCovCallback
        subscription.processId
  | .done =>
    let client := callback.elim client (client.registerCovCallback subscription.processId)
    { client with subscriptions := client.subscriptions.set subscription callback }

def unsubscribeCovEx (client : CovClient Callback) (subscription : CovSubscription)
    (unregisterCallback : Bool)
    : CallEnd → CovClient Callback
  | .unparsed | .failed => client
  | .done =>
    let client := { client with subscriptions := client.subscriptions.pop subscription }
    if unregisterCallback then client.unregisterCovCallback subscription.processId else client

def step (client : CovClient Callback) : CovCall Callback → Option (CovClient Callback)
  | .subscribe subscription callback ends => some (client.subscribeCovEx subscription callback ends)
  | .unsubscribe subscription unregisterCallback ends =>
    some (client.unsubscribeCovEx subscription unregisterCallback ends)

/-- `_dispatch_cov_notification`: the callback that a notification is passed to. -/
def dispatchCovNotification (client : CovClient Callback) (notification : COVNotificationRequest)
    : Option Callback :=
  client.callbacks.get notification.subscriberProcessIdentifier

/-- The subscription that a notification from an address belongs to. -/
def subscriptionOf (notification : COVNotificationRequest) (source : BACnetAddress)
    : CovSubscription where
  address := source
  objectIdentifier := notification.monitoredObjectIdentifier
  processId := notification.subscriberProcessIdentifier

-- What is promised

/-- Every notification that belongs to a subscription is passed to its callback, if it has one. -/
def Serves (client : CovClient Callback) : Prop :=
  ∀ notification source callback,
    client.subscriptions.get (subscriptionOf notification source) = some (some callback) →
      client.dispatchCovNotification notification = some callback

def fails : CovCall Callback → Bool
  | .subscribe _ _ ends | .unsubscribe _ _ ends => ends ≠ .done

/-- A call that fails leaves the callbacks as they were, and every call leaves the subscriptions
served.
-/
def Follows (client : CovClient Callback) (call : CovCall Callback) : Prop :=
  ∀ next, client.step call = some next →
    next.Serves ∧ (fails call = true →
      ∀ processId, next.callbacks.get processId = client.callbacks.get processId)

/-- All other subscriptions with the process identifier have been given callbacks like this. -/
def OthersGiven (client : CovClient Callback) (subscription : CovSubscription)
    (given : Callback → Prop)
    : Prop :=
  ∀ other callback, other ≠ subscription → other.processId = subscription.processId →
    client.subscriptions.get other = some (some callback) → given callback

/-- No call touches the callback of another subscription: a callback is the one that the others with
its process identifier have, nothing was registered where a request fails, and nothing is
unregistered that others have.
-/
def Apart (client : CovClient Callback) : CovCall Callback → Prop
  | .subscribe subscription (some callback) .done =>
    client.OthersGiven subscription fun other => other = callback
  | .subscribe subscription (some _) .failed => client.callbacks.get subscription.processId = none
  | .unsubscribe subscription true .done => client.OthersGiven subscription fun _ => False
  | _ => True

variable {client next : CovClient Callback}

/-- Subscriptions are served by the callback of their process identifier. -/
theorem serves_iff
    : client.Serves ↔ ∀ subscription callback,
        client.subscriptions.get subscription = some (some callback) →
          client.callbacks.get subscription.processId = some callback := by
  refine ⟨fun serves subscription callback given => ?_, fun serves notification source => serves _⟩
  exact serves {
    subscriberProcessIdentifier := subscription.processId
    initiatingDeviceIdentifier := subscription.objectIdentifier
    monitoredObjectIdentifier := subscription.objectIdentifier
    timeRemaining := 0
    listOfValues := []
  } subscription.address callback given

theorem follows_unchanged {call} (serves : client.Serves) (same : client.step call = some client)
    : client.Follows call := by
  intro next stepped
  cases same.symm.trans stepped
  exact ⟨serves, fun _ _ => rfl⟩

/-- A registered callback serves the subscriptions of the others if they have it too. -/
theorem serves_registered (serves : client.Serves) (subscription) (callback : Callback)
    : (client.subscribeCovEx subscription (some callback) .done).Serves
      ↔ client.OthersGiven subscription fun other => other = callback := by
  rw [serves_iff] at serves ⊢
  simp only [subscribeCovEx, Option.elim_some, registerCovCallback, Dict.get_set]
  constructor
  · intro served other given different same gives
    have := served other given
    rw [if_neg different, if_pos same] at this
    exact (Option.some.inj (this gives)).symm
  · intro others other given gives
    split at gives
    · next same =>
        cases gives
        rw [if_pos (congrArg _ same)]
    · next different =>
        split
        · next same => rw [others other given different same gives]
        · exact serves other given gives

theorem serves_unregistered (serves : client.Serves) (subscription)
    : (client.unsubscribeCovEx subscription true .done).Serves
      ↔ client.OthersGiven subscription fun _ => False := by
  rw [serves_iff] at serves ⊢
  simp only [unsubscribeCovEx, if_true, unregisterCovCallback, Dict.get_pop]
  constructor
  · intro served other given different same gives
    have := served other given
    rw [if_neg different, if_pos same] at this
    cases this gives
  · intro others other given gives
    split at gives
    · cases gives
    · next different =>
        split
        · next same => exact (others other given different same gives).elim
        · exact serves other given gives

/-- A failure leaves the callbacks as they were if there was none for the process identifier. -/
theorem follows_failed (serves : client.Serves) (subscription) (callback : Callback)
    : client.Follows (.subscribe subscription (some callback) .failed)
      ↔ client.callbacks.get subscription.processId = none := by
  have gets (processId : Nat)
      : (client.subscribeCovEx subscription (some callback) .failed).callbacks.get processId
        = if processId = subscription.processId then none else client.callbacks.get processId := by
    simp only [subscribeCovEx, Option.elim_some, registerCovCallback, unregisterCovCallback,
      Dict.get_pop, Dict.get_set]
    split <;> rfl
  constructor
  · intro follows
    have same := (follows _ rfl).2 rfl subscription.processId
    rw [gets, if_pos rfl] at same
    exact same.symm
  · intro absent next stepped
    cases stepped
    have same (processId : Nat)
        : (client.subscribeCovEx subscription (some callback) .failed).callbacks.get processId
          = client.callbacks.get processId := by
      rw [gets]
      split
      · next here => rw [here, absent]
      · rfl
    refine ⟨serves_iff.mpr fun other given gives => ?_, fun _ => same⟩
    rw [same]
    exact serves_iff.mp serves other given gives

/-- What the callback of a subscription without one is, is left open. -/
theorem serves_silent (serves : client.Serves) (subscription)
    : (client.subscribeCovEx subscription none .done).Serves := by
  rw [serves_iff] at serves ⊢
  intro other given gives
  simp only [subscribeCovEx, Option.elim_none, Dict.get_set] at gives
  split at gives
  · cases gives
  · exact serves other given gives

theorem serves_kept (serves : client.Serves) (subscription)
    : (client.unsubscribeCovEx subscription false .done).Serves := by
  rw [serves_iff] at serves ⊢
  intro other given gives
  simp only [unsubscribeCovEx, Bool.false_eq_true, if_false, Dict.get_pop] at gives
  split at gives
  · cases gives
  · exact serves other given gives

theorem follows_done {call} (stepped : client.step call = some next) (done : fails call = false)
    : client.Follows call ↔ next.Serves := by
  constructor
  · exact fun follows => (follows next stepped).1
  · intro serves other moved
    cases stepped.symm.trans moved
    exact ⟨serves, fun failed => absurd failed (Bool.eq_false_iff.mp done)⟩

theorem follows_iff (serves : client.Serves) (call)
    : client.Follows call ↔ client.Apart call := by
  have unchanged {call : CovCall Callback} (same : client.step call = some client) :=
    iff_of_true (follows_unchanged serves same) trivial
  cases call with
  | subscribe subscription callback ends =>
    cases ends with
    | unparsed => cases callback <;> exact unchanged rfl
    | failed =>
      cases callback with
      | none => exact unchanged rfl
      | some callback => exact follows_failed serves subscription callback
    | done =>
      cases callback with
      | none =>
        have silent := serves_silent serves subscription
        exact (follows_done rfl rfl).trans (iff_of_true silent trivial)
      | some callback =>
        have registered := serves_registered serves subscription callback
        exact (follows_done rfl rfl).trans registered
  | unsubscribe subscription unregisterCallback ends =>
    cases ends with
    | unparsed | failed => cases unregisterCallback <;> exact unchanged rfl
    | done =>
      cases unregisterCallback with
      | false =>
        have kept := serves_kept serves subscription
        exact (follows_done rfl rfl).trans (iff_of_true kept trivial)
      | true =>
        have unregistered := serves_unregistered serves subscription
        exact (follows_done rfl rfl).trans unregistered

/-- In every run of calls, each call does what is promised if and only if each keeps apart from the
callbacks of the other subscriptions. By induction on the run, with `Serves` as the invariant.
-/
theorem follows_iff_apart (calls : List (CovCall Callback))
    : Meets step Follows ({} : CovClient Callback) calls ↔ Meets step Apart {} calls := by
  have start : ({} : CovClient Callback).Serves := by
    intro notification source callback given
    cases given
  refine meets_congr ?_ (fun serves _ => follows_iff serves _) start
  intro client call next _ follows stepped
  exact (follows next stepped).1

/-- A request that fails takes away the callback of a subscription that was made before, at another
device.
-/
theorem callback_lost
    : let here : CovSubscription := ⟨{}, ⟨.analogInput, 1⟩, 1⟩
      let there : CovSubscription := ⟨{ macAddress := [1] }, ⟨.analogInput, 2⟩, 1⟩
      let calls := [.subscribe here (some 0) .done, .subscribe there (some 1) .failed]
      ¬ Meets step Follows ({} : CovClient Nat) calls := by
  intro here there calls meets
  have follows := ((meets _ rfl).2 _ rfl).1
  have same := (follows _ rfl).2 rfl 1
  revert same
  decide

end CovClient

end BacPy
