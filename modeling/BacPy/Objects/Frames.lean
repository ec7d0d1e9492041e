import BacPy.Objects.Base

/-! What a write to one property of an object leaves as it was. -/

namespace BacPy

open Library

namespace BACnetObject

/-- The two objects are the same but for the stored values of some properties. -/
structure Agrees (touched : List PropertyIdentifier) (before after : BACnetObject) : Prop where
  objectId : after.objectId = before.objectId
  cls : after.cls = before.cls
  attached : after.attached = before.attached
  commandable : after.commands.isSome = before.commands.isSome
  stored : ∀ prop ∉ touched, after.stored prop = before.stored prop

variable {touched more : List PropertyIdentifier} {obj before middle after : BACnetObject}

theorem Agrees.refl (obj : BACnetObject) : Agrees touched obj obj :=
  ⟨rfl, rfl, rfl, rfl, fun _ _ => rfl⟩

/-- Two frames compose to one that excepts what either of them does. -/
theorem Agrees.trans (first : Agrees touched before middle) (second : Agrees touched middle after)
    : Agrees touched before after where
  objectId := second.objectId.trans first.objectId
  cls := second.cls.trans first.cls
  attached := second.attached.trans first.attached
  commandable := second.commandable.trans first.commandable
  stored prop untouched := (second.stored prop untouched).trans (first.stored prop untouched)

theorem Agrees.mono (agrees : Agrees touched before after) (wider : touched ⊆ more)
    : Agrees more before after :=
  { agrees with stored := fun prop untouched =>
      agrees.stored prop fun member => untouched (wider member) }

variable {prop : PropertyIdentifier}

theorem Agrees.get (agrees : Agrees touched before after) (untouched : prop ∉ touched)
    : after.get prop = before.get prop := by
  rw [BACnetObject.get, BACnetObject.get, agrees.stored prop untouched]

/-- An assignment to `_properties` is seen under its own key only. -/
theorem stored_set_ne {other : PropertyIdentifier} (different : other ≠ prop) (value : Value)
    : (obj.set prop value).stored other = obj.stored other := by
  unfold stored set
  cases obj.commands <;> simp only [Dict.get_set_ne different]

/-- Under its own key it is seen unless the command arrays are read instead. -/
theorem stored_set_self (value : Value)
    (notArray : prop ∉ [.priorityArray, .valueSourceArray, .commandTimeArray])
    : (obj.set prop value).stored prop = some value := by
  simp only [List.mem_cons, List.not_mem_nil, or_false, not_or] at notArray
  unfold stored set
  cases obj.commands <;> simp [notArray]

theorem get_set_self (value : Value)
    (notArray : prop ∉ [.priorityArray, .valueSourceArray, .commandTimeArray])
    : (obj.set prop value).get prop = value := by
  rw [get, stored_set_self value notArray, Option.getD_some]

theorem get_set_ne {other : PropertyIdentifier} (different : other ≠ prop) (value : Value)
    : (obj.set prop value).get other = obj.get other := by
  rw [get, get, stored_set_ne different]

theorem agrees_set (value : Value) (member : prop ∈ touched)
    : Agrees touched obj (obj.set prop value) :=
  ⟨rfl, rfl, rfl, rfl, fun _ untouched => stored_set_ne (ne_of_mem_of_not_mem member untouched).symm _⟩

-- Construction

/-- The common part of the constructors keeps what assignments to properties keep. -/
theorem baseInit_keeps {Field : Type} {read : BACnetObject → Field}
    (kept : ∀ obj prop value, read (obj.set prop value) = read obj) (cls : ObjectClass)
    (instanceNumber : Fin 4194304) (initialProperties : List (PropertyIdentifier × Value))
    : read (baseInit cls instanceNumber initialProperties)
      = read { objectId := { objectType := cls.objectType, instanceNumber }, cls } := by
  unfold baseInit
  dsimp only
  have fold : ∀ {Entry : Type} (change : BACnetObject → Entry → BACnetObject),
      (∀ obj entry, read (change obj entry) = read obj)
      → ∀ (entries : List Entry) (obj : BACnetObject),
        read (entries.foldl change obj) = read obj := by
    intro Entry change each entries
    induction entries with
    | nil => exact fun _ => rfl
    | cons entry rest ih => exact fun obj => (ih (change obj entry)).trans (each obj entry)
  rw [fold _ fun obj (entry : PropertyIdentifier × Value) => kept obj entry.1 entry.2, kept, kept]
  apply fold
  intro obj definition
  split
  · rfl
  · exact kept obj definition.identifier definition.default

/-- So do the assignments of a class, by induction on them. -/
theorem initialize_keeps {Field : Type} {read : BACnetObject → Field}
    (kept : ∀ obj prop value, read (obj.set prop value) = read obj) (steps : List InitStep)
    (obj : BACnetObject)
    : read (steps.foldl initialize_ obj) = read obj := by
  induction steps generalizing obj with
  | nil => rfl
  | cons assigned rest ih =>
    rw [List.foldl_cons, ih]
    cases assigned with
    | setDefault prop value =>
      unfold initialize_
      dsimp only
      split
      · rfl
      · exact kept obj prop value
    | set prop value => exact kept obj prop value

-- Commands

def commandProperties : List PropertyIdentifier :=
  [.presentValue, .priorityArray, .valueSource, .valueSourceArray, .lastCommandTime,
    .commandTimeArray]

/-- Other slot arrays in place of the old ones. -/
theorem agrees_commands {slots another} (commands : obj.commands = some slots)
    : Agrees commandProperties obj { obj with commands := some another } where
  objectId := rfl
  cls := rfl
  attached := rfl
  commandable := by simp [commands]
  stored prop untouched := by
    simp only [commandProperties, List.mem_cons, List.not_mem_nil, or_false, not_or] at untouched
    unfold stored
    simp [commands, untouched]

theorem agrees_resolve (slots)
    : Agrees commandProperties obj (obj.resolve slots) := by
  unfold resolve
  cases winningSlot? slots with
  | none =>
    exact (agrees_set _ (by decide)).trans
      ((agrees_set _ (by decide)).trans (agrees_set _ (by decide)))
  | some slot =>
    exact (agrees_set _ (by decide)).trans
      ((agrees_set _ (by decide)).trans (agrees_set _ (by decide)))

theorem agrees_baseWriteWithPriority {slots value priority} (commands : obj.commands = some slots)
    (written : obj.baseWriteWithPriority slots value priority = .ok after)
    : Agrees commandProperties obj after := by
  unfold baseWriteWithPriority at written
  split at written
  · split at written
    · cases written
    · cases written
      exact (agrees_commands commands).trans (agrees_resolve _)
  · cases written

/-- Only the lock changes. -/
theorem agrees_minTimeLock (lock : Option (Float × Value))
    : Agrees touched obj { obj with minTimeLock := lock } :=
  ⟨rfl, rfl, rfl, rfl, fun _ _ => rfl⟩

theorem agrees_startLockIfNeeded {value now} (started : obj.startLockIfNeeded value now = .ok after)
    : Agrees touched obj after := by
  have lockFor : ∀ time, (do
      if time.truthy then
        if ← startLockIfNeeded.positive time then
          let seconds ← startLockIfNeeded.secondsOf time
          .ok { obj with minTimeLock := some (now + seconds, value) }
        else .ok obj
      else .ok obj : Except Raised BACnetObject) = .ok after → Agrees touched obj after := by
    intro time locked
    split at locked
    · cases positive : startLockIfNeeded.positive time with
      | error raised => simp [positive, bind, Except.bind] at locked
      | ok isPositive =>
        cases seconds : startLockIfNeeded.secondsOf time with
        | error raised =>
          cases isPositive <;> simp [positive, seconds, bind, Except.bind] at locked
          exact locked ▸ Agrees.refl obj
        | ok number =>
          cases isPositive <;> simp [positive, seconds, bind, Except.bind] at locked
          · exact locked ▸ Agrees.refl obj
          · exact locked ▸ agrees_minTimeLock _
    · cases locked
      exact .refl obj
  unfold startLockIfNeeded at started
  dsimp only at started
  split at started
  · exact lockFor _ started
  · split at started
    · exact lockFor _ started
    · cases started
      exact .refl obj

theorem agrees_holdChanged (now : Float)
    : Agrees touched obj (holdMinTime.holdChanged before now obj).2 := by
  unfold holdMinTime.holdChanged
  dsimp only
  split
  · cases started : obj.startLockIfNeeded (obj.get .presentValue) now with
    | ok locked => exact agrees_startLockIfNeeded started
    | error raised => exact .refl obj
  · exact .refl obj

theorem agrees_holdMinTime (now : Float) (state : BACnetObject)
    : Agrees commandProperties obj (holdMinTime before obj now state).2 := by
  unfold holdMinTime
  cases obj.minTimeLock with
  | none => exact agrees_holdChanged now
  | some lock =>
    obtain ⟨limit, locked⟩ := lock
    dsimp only
    split
    · exact agrees_set _ (by decide)
    · exact (agrees_minTimeLock none).trans (agrees_holdChanged now)

theorem agrees_writeWithPriority {slots} (value : Value) (priority : Nat) (now : Float)
    (commands : obj.commands = some slots)
    : Agrees commandProperties obj (writeWithPriority slots value priority now obj).2 := by
  unfold writeWithPriority
  cases written : obj.baseWriteWithPriority slots value priority with
  | error raised => exact .refl obj
  | ok after =>
    have agrees := agrees_baseWriteWithPriority commands written
    dsimp only
    split
    · exact agrees.trans (agrees_holdMinTime now after)
    · exact agrees

-- Writes

/-- What a write to a property may change. -/
def touchedBy (prop : PropertyIdentifier) : List PropertyIdentifier :=
  if prop = .presentValue then commandProperties else [prop]

theorem mem_touchedBy (prop : PropertyIdentifier) : prop ∈ touchedBy prop := by
  unfold touchedBy
  split
  · next same => exact same ▸ by decide
  · exact List.mem_singleton_self prop

variable {definition : PropertyDefinition} {prop : PropertyIdentifier} {value : Value}
  {priority arrayIndex : Option Nat} {now : Float}

theorem storeValue_command {slots} (commands : obj.commandsOf prop = some slots)
    : storeValue definition prop value priority arrayIndex now obj
      = writeWithPriority slots (coerceValue definition value) (priority.getD 16) now obj := by
  simp only [storeValue, commands]

/-- A write to an element replaces it in the stored list, or fails. -/
theorem storeValue_element {index} (plain : obj.commandsOf prop = none)
    : storeValue definition prop value priority (some index) now obj
      = match obj.writeArrayElement prop (coerceValue definition value) index with
        | .ok written => (.ok (), written)
        | .error raised => (.error raised, obj) := by
  simp only [storeValue, plain] <;> rfl

/-- A write to a whole property stores the value. -/
theorem storeValue_whole (plain : obj.commandsOf prop = none)
    : storeValue definition prop value priority none now obj
      = (.ok (), obj.set prop (coerceValue definition value)) := by
  simp only [storeValue, plain]

theorem agrees_writeArrayElement {index}
    (written : obj.writeArrayElement prop value index = .ok after) (member : prop ∈ touched)
    : Agrees touched obj after := by
  unfold writeArrayElement at written
  split at written
  · cases written
  · split at written
    · cases written
    · cases written
      exact agrees_set _ member

/-- A write touches the property it names, or those of the commands, whether it succeeds or
raises.
-/
theorem agrees_storeValue
    : Agrees (touchedBy prop) obj
        (storeValue definition prop value priority arrayIndex now obj).2 := by
  have member := mem_touchedBy prop
  cases commands : obj.commandsOf prop with
  | some slots =>
    rw [storeValue_command commands]
    unfold commandsOf at commands
    split at commands
    · next same =>
        rw [touchedBy, if_pos same]
        exact agrees_writeWithPriority _ _ now commands
    · cases commands
  | none =>
    cases arrayIndex with
    | none =>
      rw [storeValue_whole commands]
      exact agrees_set _ member
    | some index =>
      rw [storeValue_element commands]
      cases written : obj.writeArrayElement prop (coerceValue definition value) index with
      | error raised => exact .refl obj
      | ok after => exact agrees_writeArrayElement written member

/-- `write_property` of one object. A rename also has to be accepted by the index of names, which
is outside of the object.
-/
def writeAlone (prop : PropertyIdentifier) (value : Value) (priority arrayIndex : Option Nat)
    (now : Float)
    : Stateful Raised BACnetObject Unit := fun obj =>
  match obj.checkWrite prop value >>= fun _ => obj.writable prop with
  | .error raised => (.error raised, obj)
  | .ok definition => storeValue definition prop value priority arrayIndex now obj

/-- An accepted write is one to a property of the class that may be written, and touches what such
a write touches.
-/
theorem writeAlone_ok
    (accepted : writeAlone prop value priority arrayIndex now obj = (.ok (), after))
    : ∃ definition, obj.writable prop = .ok definition
        ∧ storeValue definition prop value priority arrayIndex now obj = (.ok (), after)
        ∧ Agrees (touchedBy prop) obj after := by
  unfold writeAlone at accepted
  cases checked : obj.checkWrite prop value >>= fun _ => obj.writable prop with
  | error raised => simp [checked] at accepted
  | ok definition =>
    simp only [checked] at accepted
    obtain ⟨_, _, writable⟩ := bind_eq_ok.mp checked
    refine ⟨definition, writable, accepted, ?_⟩
    have agrees : Agrees (touchedBy prop) obj
        (storeValue definition prop value priority arrayIndex now obj).2 :=
      agrees_storeValue
    rwa [accepted] at agrees

end BACnetObject

end BacPy
