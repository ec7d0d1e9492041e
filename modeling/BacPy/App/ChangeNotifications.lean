import BacPy.App.TrendLogCallbacks
import BacPy.Objects.Presence

/-! The change callbacks of the object database: which of them a write calls, in whole runs.

Callbacks are told apart as those of trend logs are. What they do to the table of callbacks is up to the
events; a write that a callback makes is a write like any other.
-/

namespace BacPy

open Library

-- The machine

/-- A call of `register_change_callback` or `unregister_change_callback`. -/
inductive Registration where
  | register (key : CallbackKey) (callback : CovCallback)
  | unregister (key : CallbackKey) (callback : CovCallback)

def Registration.key : Registration → CallbackKey
  | .register key _ => key
  | .unregister key _ => key

/-- A call of a callback. -/
structure ChangeCall where
  callback : CovCallback
  property : PropertyIdentifier
  old : Value
  new : Value
  deriving DecidableEq

/-- An object database with its change callbacks. An object is `wired` if its `_on_property_written`
is set, to the notifier for its own identifier.
-/
structure NotifyingDatabase where
  db : ObjectDatabase := {}
  callbacks : ChangeCallbacks := .empty
  wired : Nat → Bool := fun _ => false

/-- An accepted write: the value of the property before and after it. An element is written into the
list that is stored, so that the old value and the new one are one object.
-/
structure AcceptedWrite where
  key : CallbackKey
  ref : Nat
  old : Value
  new : Value
  inPlace : Bool

def ObjectDatabase.accepted? (db : ObjectDatabase) : ObjectDatabase.Event → Option AcceptedWrite
  | .writeProperty ref prop value priority arrayIndex now => do
      let obj ← db.heap.get ref
      let (outcome, next) := writeProperty ref prop value priority arrayIndex now db
      if outcome.isOk then
        some {
          key := (obj.objectId, prop), ref
          old := obj.get prop
          new := ((next.heap.get ref).map (·.get prop)).getD .none
          inPlace := (obj.commandsOf prop).isNone && arrayIndex.isSome
        }
      else none
  | _ => none

namespace NotifyingDatabase

inductive Event where
  /-- what happens to the objects, and what the callbacks do that it calls, one after the other -/
  | objects (event : ObjectDatabase.Event) (reactions : Nat → List Registration)
  | registers (registration : Registration)

/-- `register_change_callback`, which sets the notifier of an object that is in the database, and
`unregister_change_callback`
-/
def perform (state : NotifyingDatabase) (registration : Registration) : NotifyingDatabase :=
  match registration with
  | .unregister key callback =>
    { state with callbacks := state.callbacks.unregister key callback }
  | .register key callback =>
    match state.callbacks.register key callback with
    | .error _ => state
    | .ok callbacks =>
      { state with
        callbacks
        wired ref := state.wired ref || decide (state.db.get key.1 = some ref) }

/-- What a callback does while the list under a key is gone through: a list that becomes empty is
deleted from the table, and the loop does not see the list that may take its place.
-/
def react (key : CallbackKey) (listed : Bool × NotifyingDatabase) (registration : Registration)
    : Bool × NotifyingDatabase :=
  let next := listed.2.perform registration
  (listed.1 && (next.callbacks.get key).isSome, next)

/-- The loop of `_notify` over the list under a key, from an index on. -/
def notify (key : CallbackKey) (reactions : Nat → List Registration)
    : Nat → Nat → Bool × NotifyingDatabase → List CovCallback × NotifyingDatabase
  | 0, _, (_, state) => ([], state)
  | fuel + 1, index, (listed, state) =>
    match (if listed then state.callbacks.under key else [])[index]? with
    | none => ([], state)
    | some callback =>
      let (rest, final) := notify key reactions fuel (index + 1)
        ((reactions index).foldl (react key) (listed, state))
      (callback :: rest, final)

/-- No list gets longer than it is or than 100. -/
def rounds (state : NotifyingDatabase) (key : CallbackKey) : Nat :=
  max (state.callbacks.under key).length 100 + 1

/-- Whether `write_property` calls the notifier: the object has one, and `old_value != new_value`. -/
def fires (state : NotifyingDatabase) (write : AcceptedWrite) : Bool :=
  state.wired write.ref && !write.inPlace && !write.old.pyEq write.new

/-- The end of an accepted `write_property`: the callbacks it calls, and what these leave. -/
def notified (state : NotifyingDatabase) (write : AcceptedWrite) (reactions : Nat → List Registration)
    : List ChangeCall × NotifyingDatabase :=
  if state.fires write then
    let (called, final) :=
      notify write.key reactions (state.rounds write.key) 0 (true, state)
    (called.map fun callback => ⟨callback, write.key.2, write.old, write.new⟩, final)
  else ([], state)

def step (registry : List ObjectClass) (state : NotifyingDatabase)
    : Event → Option NotifyingDatabase
  | .registers registration => some (state.perform registration)
  | .objects event reactions => do
      let db ← state.db.step registry event
      match state.db.accepted? event with
      | none => some { state with db }
      | some write => some ({ state with db }.notified write reactions).2

-- The property

/-- The calls that a write should make: each callback under the key once, if the value has changed. -/
def due (state : NotifyingDatabase) (write : AcceptedWrite) : List ChangeCall :=
  if write.old.pyEq write.new then []
  else (state.callbacks.under write.key).map fun callback =>
    ⟨callback, write.key.2, write.old, write.new⟩

/-- An accepted write to an object of the database makes the calls that it should make. -/
def Reported (registry : List ObjectClass) (state : NotifyingDatabase) (event : Event) : Prop :=
  match event with
  | .registers _ => True
  | .objects event reactions =>
    ∀ write db, state.db.accepted? event = some write → state.db.step registry event = some db
      → state.db.get write.key.1 = some write.ref
      → ({ state with db }.notified write reactions).1 = state.due write

/-- The callbacks that a write calls leave the list alone from which they are called. -/
def Calm (state : NotifyingDatabase) (event : Event) : Prop :=
  match event with
  | .registers _ => True
  | .objects event reactions =>
    ∀ write, state.db.accepted? event = some write
      → ∀ index, ∀ registration ∈ reactions index, registration.key ≠ write.key

/-- A write to an object of the database is heard: no callback is registered for the property, or the
value stays the same, or the object is wired and the value is not changed in place.
-/
def Heard (state : NotifyingDatabase) (event : Event) : Prop :=
  match event with
  | .registers _ => True
  | .objects event _ =>
    ∀ write, state.db.accepted? event = some write
      → state.db.get write.key.1 = some write.ref
      → state.callbacks.under write.key = [] ∨ write.old.pyEq write.new = true
        ∨ state.wired write.ref = true ∧ write.inPlace = false

/-- No object comes in for which callbacks wait, unless it is wired from an earlier time; and writes
change no value in place for which there are callbacks.
-/
def Orderly (registry : List ObjectClass) (state : NotifyingDatabase) (event : Event) : Prop :=
  Calm state event
  ∧ match event with
    | .registers _ => True
    | .objects event _ =>
      (∀ ref obj, state.db.entering registry event = some (ref, obj)
        → state.wired ref = true ∨ ∀ prop, state.callbacks.under (obj.objectId, prop) = [])
      ∧ ∀ write, state.db.accepted? event = some write
        → state.callbacks.under write.key = [] ∨ write.old.pyEq write.new = true
          ∨ write.inPlace = false

-- One write

variable {registry : List ObjectClass} {state next : NotifyingDatabase} {db : ObjectDatabase}
  {key : CallbackKey} {registration : Registration} {registrations : List Registration}
  {reactions : Nat → List Registration} {write : AcceptedWrite} {event : Event}

theorem get_perform_ne (other : registration.key ≠ key)
    : (state.perform registration).callbacks.get key = state.callbacks.get key := by
  have different : key ≠ registration.key := fun same => other same.symm
  cases registration with
  | unregister key' callback =>
    simp only [perform, ChangeCallbacks.unregister]
    split
    · rfl
    · split
      · exact Dict.get_pop_ne different
      · exact Dict.get_set_ne different
  | register key' callback =>
    simp only [perform, ChangeCallbacks.register]
    split
    · rfl
    · next callbacks registered =>
        split at registered
        · cases registered
        · cases registered
          exact Dict.get_set_ne different

/-- Where the callbacks leave the list alone, it is gone through to its end. By induction on what one
callback does.
-/
theorem react_calm (calm : ∀ registration ∈ registrations, registration.key ≠ key)
    (there : (state.callbacks.get key).isSome)
    : ∃ next, registrations.foldl (react key) (true, state) = (true, next)
        ∧ next.callbacks.get key = state.callbacks.get key := by
  induction registrations generalizing state with
  | nil => exact ⟨state, rfl, rfl⟩
  | cons registration rest ih =>
    have same : (state.perform registration).callbacks.get key = state.callbacks.get key :=
      get_perform_ne (calm registration List.mem_cons_self)
    have still : ((state.perform registration).callbacks.get key).isSome := by rwa [same]
    obtain ⟨next, ended, kept⟩ :=
      ih (fun other member => calm other (List.mem_cons_of_mem _ member)) still
    refine ⟨next, ?_, kept.trans same⟩
    simpa only [List.foldl_cons, react, still, Bool.and_self] using ended

/-- Calm callbacks are all called, by induction on the rounds of the loop. -/
theorem notify_calm (calm : ∀ index, ∀ registration ∈ reactions index, registration.key ≠ key)
    {fuel index} (enough : (state.callbacks.under key).length < fuel + index)
    : (notify key reactions fuel index (true, state)).1
      = (state.callbacks.under key).drop index := by
  induction fuel generalizing index state with
  | zero => exact (List.drop_eq_nil_of_le (by omega)).symm
  | succ fuel ih =>
    simp only [notify, if_true]
    cases here : (state.callbacks.under key)[index]? with
    | none => exact (List.drop_eq_nil_of_le (List.getElem?_eq_none_iff.mp here)).symm
    | some callback =>
      obtain ⟨inside, rfl⟩ := List.getElem?_eq_some_iff.mp here
      have there : (state.callbacks.get key).isSome := by
        cases found : state.callbacks.get key with
        | none => simp [ChangeCallbacks.under, found] at inside
        | some _ => rfl
      obtain ⟨next, ended, kept⟩ := react_calm (calm index) there
      have same : next.callbacks.under key = state.callbacks.under key :=
        congrArg (·.getD []) kept
      have rest := @ih next (index + 1) (by rw [same]; omega)
      rw [ended]
      dsimp only
      rw [rest, same, ← List.drop_eq_getElem_cons inside]

/-- A write that is not noticed calls nothing, and one that is noticed calls all callbacks. -/
theorem notified_calm
    (calm : ∀ index, ∀ registration ∈ reactions index, registration.key ≠ write.key)
    : (state.notified write reactions).1
      = if state.fires write then
          (state.callbacks.under write.key).map fun callback =>
            ⟨callback, write.key.2, write.old, write.new⟩
        else [] := by
  unfold notified
  split
  · have enough : (state.callbacks.under write.key).length < state.rounds write.key + 0 := by
      unfold rounds
      omega
    have all := notify_calm calm enough
    dsimp only
    rw [all, List.drop_zero]
  · rfl

/-- A write calls what it should if and only if it is heard. -/
theorem reported_iff_heard (calm : Calm state event) (moved : state.step registry event = some next)
    : Reported registry state event ↔ Heard state event := by
  cases event with
  | registers registration => exact Iff.rfl
  | objects event reactions =>
    obtain ⟨db, stepped, _⟩ := Option.bind_eq_some_iff.mp moved
    have fires : ∀ write, ({ state with db } : NotifyingDatabase).fires write = state.fires write :=
      fun _ => rfl
    have made : ∀ write, state.db.accepted? event = some write
        → (({ state with db }.notified write reactions).1 = state.due write
          ↔ state.callbacks.under write.key = [] ∨ write.old.pyEq write.new = true
            ∨ state.wired write.ref = true ∧ write.inPlace = false) := by
      intro write accepted
      rw [notified_calm (calm write accepted), fires, due]
      cases same : write.old.pyEq write.new with
      | true => simp [NotifyingDatabase.fires, same]
      | false =>
        cases wired : state.wired write.ref <;> cases inPlace : write.inPlace <;>
          simp [NotifyingDatabase.fires, same, wired, inPlace, @eq_comm _ []]
    constructor
    · exact fun reported write accepted there =>
        (made write accepted).mp (reported write db accepted stepped there)
    · intro heard write db' accepted stepped' there
      cases stepped.symm.trans stepped'
      exact (made write accepted).mpr (heard write accepted there)

-- Runs

/-- Each object of the database for which there are callbacks is wired. -/
structure Wired (state : NotifyingDatabase) : Prop where
  filed : state.db.Filed
  wired : ∀ objectId ref prop, state.db.get objectId = some ref
    → state.callbacks.under (objectId, prop) ≠ [] → state.wired ref = true

theorem Wired.perform (inv : Wired state) (registration : Registration)
    : Wired (state.perform registration) := by
  cases registration with
  | unregister key callback =>
    refine ⟨inv.filed, fun objectId ref prop found left => ?_⟩
    refine inv.wired objectId ref prop found fun nothing => left ?_
    simp only [NotifyingDatabase.perform, ChangeCallbacks.under_unregister]
    split
    · next same => rw [← same, nothing, List.erase_nil]
    · exact nothing
  | register key callback =>
    simp only [NotifyingDatabase.perform, ChangeCallbacks.register]
    split
    · exact inv
    · next callbacks registered =>
        split at registered
        · cases registered
        · cases registered
          refine ⟨inv.filed, fun objectId ref prop found left => ?_⟩
          rw [Bool.or_eq_true, decide_eq_true_eq]
          rw [ChangeCallbacks.under_set] at left
          split at left
          · next same => exact .inr (same ▸ found)
          · exact .inl (inv.wired objectId ref prop found left)

/-- Whatever the callbacks do, objects stay wired. By induction on the rounds of the loop. -/
theorem Wired.notify (inv : Wired state) (fuel index : Nat) (listed : Bool)
    : Wired (notify key reactions fuel index (listed, state)).2 := by
  have reacts : ∀ (registrations : List Registration) (listed : Bool × NotifyingDatabase),
      Wired listed.2 → Wired (registrations.foldl (react key) listed).2 := by
    intro registrations
    induction registrations with
    | nil => exact fun _ inv => inv
    | cons registration rest ih =>
      exact fun listed inv => ih (react key listed registration) (inv.perform registration)
  induction fuel generalizing index listed state with
  | zero => exact inv
  | succ fuel ih =>
    simp only [NotifyingDatabase.notify]
    split
    · exact inv
    · exact ih (reacts (reactions index) (listed, state) inv) (index + 1) _

/-- An orderly step keeps the objects wired. -/
theorem Wired.step (inv : Wired state) (orderly : Orderly registry state event)
    (moved : state.step registry event = some next)
    : Wired next := by
  cases event with
  | registers registration => exact Option.some.inj moved ▸ inv.perform registration
  | objects event reactions =>
    obtain ⟨db, stepped, moved⟩ := Option.bind_eq_some_iff.mp moved
    have quiet : ObjectDatabase.Quiet .objectType := by decide
    have progress := ObjectDatabase.progress_step inv.filed quiet
      (ObjectDatabase.spares_of_fixed (by decide) event) stepped
    have kept : Wired { state with db } := by
      refine ⟨progress.filed, fun objectId ref prop found left => ?_⟩
      rcases progress.present objectId ref found with there | brought
      · exact inv.wired objectId ref prop there left
      · obtain ⟨⟨_, obj⟩, enters, same⟩ := Option.map_eq_some_iff.mp brought
        obtain ⟨rfl, rfl⟩ := Prod.mk.inj same
        rcases orderly.2.1 _ obj enters with wired | nothing
        · exact wired
        · exact absurd (nothing prop) left
    split at moved
    · exact Option.some.inj moved ▸ kept
    · cases moved
      unfold notified
      split
      · exact kept.notify ..
      · exact kept

/-- In an orderly step every write is heard. -/
theorem Wired.heard (inv : Wired state) (orderly : Orderly registry state event)
    : Heard state event := by
  cases event with
  | registers registration => trivial
  | objects event reactions =>
    intro write accepted there
    rcases orderly.2.2 write accepted with nothing | same | replaced
    · exact .inl nothing
    · exact .inr (.inl same)
    · by_cases nothing : state.callbacks.under write.key = []
      · exact .inl nothing
      · exact .inr (.inr ⟨inv.wired _ _ write.key.2 there nothing, replaced⟩)

/-- In every run whose callbacks are calm, the writes call what they should exactly if each of them is
heard; and in an orderly run they do.
-/
theorem changes_reported_iff (registry : List ObjectClass) (events : List Event)
    : (Meets (step registry) Calm {} events
        → (Meets (step registry) (Reported registry) {} events
          ↔ Meets (step registry) Heard {} events))
      ∧ (Meets (step registry) (Orderly registry) {} events
        → Meets (step registry) (Reported registry) {} events) := by
  constructor
  · intro calm
    -- the same holds of each step alone, so that no invariant is needed
    have keeps : ∀ {state event next}, True → Calm state event ∧ Reported registry state event
        → step registry state event = some next → True :=
      fun _ _ _ => trivial
    have same : Meets (step registry) (fun state event => Calm state event
          ∧ Reported registry state event) {} events
        ↔ Meets (step registry) (fun state event => Calm state event ∧ Heard state event) {} events :=
      meets_congr keeps
        (fun _ moved => and_congr_right fun calm => reported_iff_heard calm moved) trivial
    simpa only [meets_and_iff, calm, true_and] using same
  · intro orderly
    have both : Meets (step registry) (fun state event => Orderly registry state event
        ∧ Reported registry state event) {} events := by
      refine (meets_congr Wired.step (fun inv moved => ?_) ⟨ObjectDatabase.filed_empty, ?_⟩).mp orderly
      · refine ⟨fun orderly => ⟨orderly, ?_⟩, And.left⟩
        exact (reported_iff_heard orderly.1 moved).mpr (inv.heard orderly)
      · intro objectId ref prop found
        cases found
    exact both.mono fun _ _ here => here.2

/-- A callback is registered for the present value of a Characterstring Value that comes into the
database only afterwards.
-/
def registeredEarly : List Event := [
  .registers (.register (⟨.characterstringValue, 1⟩, .presentValue) ⟨0, ⟨0, ⟨.trendLog, 1⟩⟩⟩),
  .objects (.constructed (characterStringValueObject) 1 []) (fun _ => []),
  .objects (.add 0) (fun _ => [])
]

/-- A write then changes the value, and calls nothing. -/
theorem registered_too_early
    : let write : ObjectDatabase.Event := .writeProperty 0 .presentValue (.str "on") none none 0
      (run (step []) {} registeredEarly).bind (fun state => (state.db.accepted? write).map fun write =>
          (state.db.get write.key.1, write.ref, state.fires write, state.due write))
        = some (some 0, 0, false, [⟨⟨0, ⟨0, ⟨.trendLog, 1⟩⟩⟩, .presentValue, .str "", .str "on"⟩])
      ∧ ¬ Meets (step []) (Reported []) {} (registeredEarly ++ [.objects write fun _ => []]) := by
  intro write
  have calls : (run (step []) {} registeredEarly).bind (fun state =>
      (state.db.accepted? write).map fun write =>
        (state.db.get write.key.1, write.ref, state.fires write, state.due write))
      = some (some 0, 0, false, [⟨⟨0, ⟨0, ⟨.trendLog, 1⟩⟩⟩, .presentValue, .str "", .str "on"⟩]) := by
    decide +kernel
  refine ⟨calls, fun meets => ?_⟩
  obtain ⟨reported, _⟩ := (((meets _ rfl).2 _ rfl).2 _ rfl).2 _ rfl
  obtain ⟨state, ran, mapped⟩ := Option.bind_eq_some_iff.mp calls
  cases ran
  obtain ⟨written, accepted, same⟩ := Option.map_eq_some_iff.mp mapped
  simp only [Prod.mk.injEq] at same
  obtain ⟨there, ref, silent, due⟩ := same
  have made := reported written _ accepted rfl (ref ▸ there)
  rw [due] at made
  unfold notified at made
  rw [if_neg] at made
  · cases made
  · exact fun fires => by
      cases silent.symm.trans fires

end NotifyingDatabase

end BacPy
