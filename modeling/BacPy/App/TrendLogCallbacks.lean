import BacPy.Types.Constructed
import Mathlib.Data.Finset.Basic

/-! The COV part of `TrendLogEngine`: the change callbacks that it registers in the object database.

A callback is a closure over one trend log object, so trend logs have numbers that tell a deleted
one from the one that is made in its place.
-/

namespace BacPy

open Library

-- Change callbacks

/-- Which Python object a trend log is, and its identifier. -/
structure TrendLogIdentity where
  number : Nat
  objectIdentifier : ObjectIdentifier
  deriving DecidableEq

/-- `_on_change`: each run of `_handle_cov` makes another closure over its trend log. -/
structure CovCallback where
  number : Nat
  log : TrendLogIdentity
  deriving DecidableEq

/-- A key of `_change_callbacks`. -/
abbrev CallbackKey := ObjectIdentifier × PropertyIdentifier

/-- `_change_callbacks` of the object database -/
abbrev ChangeCallbacks := Dict CallbackKey (List CovCallback)

namespace ChangeCallbacks

def under (callbacks : ChangeCallbacks) (key : CallbackKey) : List CovCallback :=
  (callbacks.get key).getD []

/-- `register_change_callback` -/
def register (callbacks : ChangeCallbacks) (key : CallbackKey) (callback : CovCallback)
    : Except PyException ChangeCallbacks :=
  if 100 ≤ (callbacks.under key).length then
    .error (.valueError "Too many change callbacks")
  else .ok (callbacks.set key (callbacks.under key ++ [callback]))

/-- `unregister_change_callback` -/
def unregister (callbacks : ChangeCallbacks) (key : CallbackKey) (callback : CovCallback)
    : ChangeCallbacks :=
  match callbacks.get key with
  | none => callbacks
  | some registered =>
    if registered.erase callback = [] then callbacks.pop key
    else callbacks.set key (registered.erase callback)

theorem under_set (callbacks : ChangeCallbacks) (key other : CallbackKey)
    (registered : List CovCallback)
    : under (callbacks.set key registered) other
      = if other = key then registered else callbacks.under other := by
  unfold under
  rw [Dict.get_set]
  split
  · rfl
  · rfl

theorem under_unregister (callbacks : ChangeCallbacks) (key other : CallbackKey)
    (callback : CovCallback)
    : (callbacks.unregister key callback).under other
      = if other = key then (callbacks.under key).erase callback else callbacks.under other := by
  unfold unregister
  split
  · next absent =>
      split
      · next same =>
          rw [same, under, absent]
          rfl
      · rfl
  · next registered there =>
      have here : callbacks.under key = registered := by rw [under, there]; rfl
      rw [here]
      split
      · next gone =>
          rw [gone, under, Dict.get_pop]
          split
          · rfl
          · rfl
      · exact under_set callbacks key other _

end ChangeCallbacks

-- Trend logs

inductive LoggingType where
  | polled | cov | triggered
  deriving DecidableEq

/-- The properties of a trend log that the engine reads for its callbacks. -/
structure TrendLogConfig where
  logEnable : Bool
  startTime : Option BACnetDateTime := none
  stopTime : Option BACnetDateTime := none
  /-- `none` for a value that is no `LoggingType`, which can be written too -/
  loggingType : Option LoggingType
  logDeviceObjectProperty : Option BACnetDeviceObjectPropertyReference

/-- `TrendLogObject`, as far as the engine reads it for its callbacks. -/
structure TrendLogObject extends TrendLogConfig where
  identity : TrendLogIdentity

/-- `PropertyIdentifier(value)` -/
def PropertyIdentifier.ofInt (value : Int) : Except PyException PropertyIdentifier :=
  if fits : value.toNat < 4194304 then
    if 0 ≤ value then .ok ⟨value.toNat, fits⟩
    else .error (.valueError "not a valid PropertyIdentifier")
  else .error (.valueError "not a valid PropertyIdentifier")

def BACnetDeviceObjectPropertyReference.key (ref : BACnetDeviceObjectPropertyReference)
    : Except PyException CallbackKey := do
  let property ← PropertyIdentifier.ofInt ref.propertyIdentifier
  .ok (ref.objectIdentifier, property)

namespace TrendLogObject

variable {Time : Type} [LinearOrder Time] (timestamp : BACnetDateTime → Time)

/-- `_within_time_window`, with `_datetime_to_float` as a parameter. -/
def withinTimeWindow (now : Time) (log : TrendLogObject) : Bool :=
  log.startTime.all (fun start => !decide (now < timestamp start))
    && log.stopTime.all fun stop => !decide (timestamp stop < now)

def isActive (now : Time) (log : TrendLogObject) : Bool :=
  log.logEnable && log.withinTimeWindow timestamp now

def LogsCov (now : Time) (log : TrendLogObject) : Prop :=
  log.isActive timestamp now ∧ log.loggingType = some .cov

instance (now : Time) (log : TrendLogObject) : Decidable (log.LogsCov timestamp now) :=
  inferInstanceAs (Decidable (_ ∧ _))

/-- The key of the object and property that the trend log references. -/
def key? (log : TrendLogObject) : Option CallbackKey :=
  log.logDeviceObjectProperty.bind fun ref => ref.key.toOption

end TrendLogObject

-- The engine

/-- The part of `TrendLogEngine` for callbacks, with `_cov_callback` of the trend logs by their
numbers, and with `_change_callbacks` of the database.
-/
structure TrendLogEngine where
  covSubscriptions : Finset ObjectIdentifier := ∅
  covCallback : Dict Nat CovCallback := Dict.empty
  changeCallbacks : ChangeCallbacks := Dict.empty
  callbacksMade : Nat := 0

namespace TrendLogEngine

/-- A method of the engine. -/
abbrev Action := Stateful PyException TrendLogEngine Unit

def under (engine : TrendLogEngine) (key : CallbackKey) : List CovCallback :=
  engine.changeCallbacks.under key

def unregisterCov (log : TrendLogObject) : Action := fun engine =>
  let oid := log.identity.objectIdentifier
  if oid ∉ engine.covSubscriptions then (.ok (), engine)
  else
    let forgotten := { engine with covSubscriptions := engine.covSubscriptions.erase oid }
    match log.logDeviceObjectProperty, engine.covCallback.get log.identity.number with
    | some ref, some callback =>
      match ref.key with
      | .error exception => (.error exception, engine)
      | .ok key =>
        let changeCallbacks := engine.changeCallbacks.unregister key callback
        (.ok (), { forgotten with changeCallbacks })
    | _, _ => (.ok (), forgotten)

/-- The end of `_handle_cov`: a new closure is registered. -/
def subscribe (log : TrendLogObject) (key : CallbackKey) : Action := fun engine =>
  let callback : CovCallback := { number := engine.callbacksMade, log := log.identity }
  let made := {
    engine with
    covCallback := engine.covCallback.set log.identity.number callback
    callbacksMade := engine.callbacksMade + 1
  }
  match engine.changeCallbacks.register key callback with
  | .error exception => (.error exception, made)
  | .ok changeCallbacks =>
    let covSubscriptions := insert log.identity.objectIdentifier engine.covSubscriptions
    (.ok (), { made with changeCallbacks, covSubscriptions })

def handleCov (present : ObjectIdentifier → Bool) (log : TrendLogObject) : Action := fun engine =>
  if log.identity.objectIdentifier ∈ engine.covSubscriptions then (.ok (), engine)
  else
    match log.logDeviceObjectProperty with
    | none => (.ok (), engine)
    | some ref =>
      if present ref.objectIdentifier then
        match ref.key with
        | .error exception => (.error exception, engine)
        | .ok key => subscribe log key engine
      else (.ok (), engine)

variable {Time : Type} [LinearOrder Time] (timestamp : BACnetDateTime → Time)
  (present : ObjectIdentifier → Bool)

/-- `_evaluate_trendlog`, without the records that it makes. -/
def evaluateTrendlog (now : Time) (log : TrendLogObject) : Action :=
  if log.isActive timestamp now then
    match log.loggingType with
    | some .polled | some .triggered => unregisterCov log
    | some .cov => handleCov present log
    | none => pure ()
  else unregisterCov log

def evaluateCycle (now : Time) (logs : List TrendLogObject) : Action :=
  Stateful.forEach (evaluateTrendlog timestamp present now) logs

def unregisterAllCov (logs : List TrendLogObject) : Action := do
  Stateful.forEach unregisterCov logs
  Stateful.modifies fun engine => { engine with covSubscriptions := ∅ }

end TrendLogEngine

end BacPy
