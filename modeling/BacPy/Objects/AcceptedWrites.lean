import BacPy.Objects.Renames

/-! Which writes are accepted: every reason that a write has to fail, as a condition on the object
and the database before it.
-/

namespace BacPy

open Library
open Stateful (bind_apply pure_apply)

namespace BACnetObject

variable {obj before : BACnetObject} {slots : Vector CommandSlot 16} {value : Value} {now : Float}

-- Minimum times

/-- A minimum time can be compared with zero and added to the clock, or is not set. -/
def TimeCounts (time : Value) : Prop :=
  time.truthy → ∃ isPositive, startLockIfNeeded.positive time = .ok isPositive
    ∧ (isPositive → ∃ seconds, startLockIfNeeded.secondsOf time = .ok seconds)

/-- The minimum time of the state that an object has reached counts. -/
def LockReady (obj : BACnetObject) (value : Value) : Prop :=
  if value.pyEq (.int 1) then TimeCounts (obj.get .minimumOnTime)
  else if value.pyEq (.int 0) then TimeCounts (obj.get .minimumOffTime)
  else True

/-- A lock starts exactly if the minimum time counts. -/
theorem startLockIfNeeded_ok_iff (now : Float)
    : (∃ locked, obj.startLockIfNeeded value now = .ok locked) ↔ obj.LockReady value := by
  have lockFor : ∀ time, (∃ locked, (do
      if time.truthy then
        if ← startLockIfNeeded.positive time then
          let seconds ← startLockIfNeeded.secondsOf time
          .ok { obj with minTimeLock := some (now + seconds, value) }
        else .ok obj
      else .ok obj : Except Raised BACnetObject) = .ok locked) ↔ TimeCounts time := by
    intro time
    unfold TimeCounts
    by_cases set : time.truthy
    · rw [if_pos set]
      rcases startLockIfNeeded.positive time with raised | isPositive
      · simp [bind, Except.bind, set]
      · rcases startLockIfNeeded.secondsOf time with raised | seconds
        · cases isPositive <;> simp [bind, Except.bind, set]
        · cases isPositive <;> simp [bind, Except.bind, set]
    · simp [set]
  unfold startLockIfNeeded LockReady
  dsimp only
  split
  · exact lockFor _
  · split
    · exact lockFor _
    · simp

/-- An object that is not held by a lock any more can hold the state it has just reached. -/
def HoldReady (before obj : BACnetObject) (now : Float) : Prop :=
  (∀ until_ locked, obj.minTimeLock = some (until_, locked) → ¬ now < until_)
    → (obj.get .presentValue).pyEq (before.get .presentValue) = false
    → before.get .presentValue ≠ .none
    → obj.LockReady (obj.get .presentValue)

theorem holdChanged_ok_iff
    : (holdMinTime.holdChanged before now obj).1 = .ok ()
      ↔ ((obj.get .presentValue).pyEq (before.get .presentValue) = false
        → before.get .presentValue ≠ .none → obj.LockReady (obj.get .presentValue)) := by
  unfold holdMinTime.holdChanged
  dsimp only
  by_cases changed : (!(obj.get .presentValue).pyEq (before.get .presentValue)) = true
      ∧ before.get .presentValue ≠ .none
  · rw [if_pos changed, ← startLockIfNeeded_ok_iff now]
    have differs : (obj.get .presentValue).pyEq (before.get .presentValue) = false := by
      simpa using changed.1
    rcases obj.startLockIfNeeded (obj.get .presentValue) now with raised | locked
    · simp [differs, changed.2]
    · simp
  · rw [if_neg changed]
    simp only [true_iff]
    intro differs present
    exact absurd ⟨by rw [differs]; rfl, present⟩ changed

theorem holdMinTime_ok_iff (state : BACnetObject)
    : (holdMinTime before obj now state).1 = .ok () ↔ HoldReady before obj now := by
  unfold holdMinTime HoldReady
  cases held : obj.minTimeLock with
  | none =>
    rw [holdChanged_ok_iff]
    simp
  | some lock =>
    dsimp only
    split
    · next waiting => simpa using fun ended => absurd waiting (ended lock.1 lock.2 rfl)
    · next ended =>
        rw [holdChanged_ok_iff]
        have over_ : ∀ until_ locked, some lock = some (until_, locked) → ¬ now < until_ := by
          rintro until_ locked same
          cases same
          exact ended
        exact ⟨fun ready _ => ready, fun ready => ready over_⟩

-- Commands and stores

/-- A priority may be commanded: it exists, and is not the one kept for the minimum times. -/
def PriorityFree (obj : BACnetObject) (priority : Nat) : Prop :=
  1 ≤ priority ∧ priority ≤ 16
    ∧ (priority = 6 → (obj.cls.definition? .minimumOnTime).isNone
      ∧ (obj.cls.definition? .minimumOffTime).isNone)

/-- A command can start the minimum time of the state it leads to. -/
def CommandReady (obj : BACnetObject) (slots : Vector CommandSlot 16) (value : Value)
    (priority : Nat) (now : Float)
    : Prop :=
  ∀ written, obj.baseWriteWithPriority slots value priority = .ok written
    → obj.cls.minOnOffTime → HoldReady obj written now

theorem baseWriteWithPriority_ok_iff (obj : BACnetObject) (slots) (value : Value) {priority}
    : (∃ written, obj.baseWriteWithPriority slots value priority = .ok written)
      ↔ obj.PriorityFree priority := by
  unfold baseWriteWithPriority PriorityFree
  by_cases inRange : 1 ≤ priority ∧ priority ≤ 16
  · rw [dif_pos inRange]
    by_cases reserved : priority = 6 ∧ ((obj.cls.definition? .minimumOnTime).isSome
        ∨ (obj.cls.definition? .minimumOffTime).isSome)
    · rw [if_pos reserved]
      constructor
      · rintro ⟨written, refused⟩
        cases refused
      · rintro ⟨_, _, free⟩
        obtain ⟨noOn, noOff⟩ := free reserved.1
        rcases reserved.2 with on | off
        · simp [Option.isNone_iff_eq_none.mp noOn] at on
        · simp [Option.isNone_iff_eq_none.mp noOff] at off
    · rw [if_neg reserved]
      refine ⟨fun _ => ⟨inRange.1, inRange.2, ?_⟩, fun _ => ⟨_, rfl⟩⟩
      intro six
      have none_ := not_or.mp fun defined => reserved ⟨six, defined⟩
      simpa using none_
  · rw [dif_neg inRange]
    constructor
    · rintro ⟨written, refused⟩
      cases refused
    · exact fun free => absurd ⟨free.1, free.2.1⟩ inRange

theorem writeWithPriority_ok_iff {priority}
    : (writeWithPriority slots value priority now obj).1 = .ok ()
      ↔ obj.PriorityFree priority ∧ obj.CommandReady slots value priority now := by
  rw [← baseWriteWithPriority_ok_iff obj slots value]
  unfold writeWithPriority CommandReady
  cases written : obj.baseWriteWithPriority slots value priority with
  | error raised => simp
  | ok after =>
    dsimp only
    split
    · next holds =>
        rw [holdMinTime_ok_iff]
        simp [holds]
    · next plain => simp [plain]

/-- There is a place for a value: a slot that may be commanded, an element of a list, or the
property itself.
-/
def Storable (obj : BACnetObject) (prop : PropertyIdentifier) (value : Value)
    (priority arrayIndex : Option Nat) (now : Float)
    : Prop :=
  match obj.commandsOf prop, arrayIndex with
  | some slots, _ => obj.PriorityFree (priority.getD 16)
      ∧ obj.CommandReady slots value (priority.getD 16) now
  | none, some index => ∃ items, (obj.get prop).asList? = some items
      ∧ 1 ≤ index ∧ index ≤ items.length
  | none, none => True

variable {definition : PropertyDefinition} {prop : PropertyIdentifier}
  {priority arrayIndex : Option Nat}

theorem storeValue_ok_iff
    : (storeValue definition prop value priority arrayIndex now obj).1 = .ok ()
      ↔ obj.Storable prop (coerceValue definition value) priority arrayIndex now := by
  unfold Storable
  cases commands : obj.commandsOf prop with
  | some slots =>
    rw [storeValue_command commands]
    exact writeWithPriority_ok_iff
  | none =>
    cases arrayIndex with
    | none => simp [storeValue_whole commands]
    | some index =>
      rw [storeValue_element commands, writeArrayElement]
      cases (obj.get prop).asList? with
      | none => simp [propertyError]
      | some items =>
        by_cases outside : index < 1 ∨ items.length < index
        · simp only [if_pos outside, propertyError, reduceCtorEq, Option.some.injEq,
            exists_eq_left', false_iff]
          omega
        · simp only [if_neg outside, Option.some.injEq, exists_eq_left', true_iff]
          omega

end BACnetObject

-- Writes in the database

namespace ObjectDatabase

variable {db : ObjectDatabase} {ref : Nat} {obj : BACnetObject} {prop : PropertyIdentifier}
  {value : Value} {priority arrayIndex : Option Nat} {now : Float}

/-- A name can be taken from the index: there is none, or it can be looked up. -/
def Forgettable (name : Value) : Prop := ∃ key, name.hashKey = .ok key

/-- A rename gets to its end: the new name is free, the old one can be looked up, and the revision
can be counted up.
-/
def RenameAccepted (db : ObjectDatabase) (obj : BACnetObject) (value : Value) : Prop :=
  (validateNameUnique value (some obj.objectId) db).1 = .ok ()
    ∧ Forgettable (obj.get .objectName) ∧ db.revisionCounts

/-- Forgetting a name changes the index of names only, and only if it succeeds. -/
theorem forgetName_spec (name : Value) (objectId db)
    : (¬ Forgettable name ∧ ∃ raised, forgetName name objectId db = (.error raised, db))
      ∨ (Forgettable name ∧ ∃ names, forgetName name objectId db = (.ok (), { db with names })) := by
  unfold forgetName Forgettable
  split
  · next absent => exact Or.inr ⟨⟨.none, by rw [absent]; rfl⟩, db.names, rfl⟩
  · cases name.hashKey with
    | error raised => exact Or.inl ⟨by simp, raised, rfl⟩
    | ok key =>
      dsimp only
      split
      · exact Or.inr ⟨⟨key, rfl⟩, _, rfl⟩
      · exact Or.inr ⟨⟨key, rfl⟩, db.names, rfl⟩

/-- A name that is unique gets into the index, unless the old one cannot be looked up. -/
theorem updateNameIndex_spec {key} (hashed : value.hashKey = .ok key) (objectId) (name : Value) (db)
    : (¬ Forgettable name ∧ ∃ raised, updateNameIndex objectId name value db = (.error raised, db))
      ∨ (Forgettable name
        ∧ ∃ names, updateNameIndex objectId name value db = (.ok (), { db with names })) := by
  unfold updateNameIndex
  rw [bind_apply]
  rcases forgetName_spec name objectId db with ⟨not, raised, same⟩ | ⟨can, names, same⟩
  · rw [same]
    exact Or.inl ⟨not, raised, rfl⟩
  · rw [same]
    dsimp only
    unfold enterName
    rw [hashed]
    exact Or.inr ⟨can, _, rfl⟩

/-- A rename is refused without any change, or changes the index and counts the revision up. -/
theorem rename_spec (obj : BACnetObject) (value : Value) (db)
    : (¬ ((validateNameUnique value (some obj.objectId) db).1 = .ok ()
          ∧ Forgettable (obj.get .objectName))
        ∧ ∃ raised, rename obj value db = (.error raised, db))
      ∨ ((validateNameUnique value (some obj.objectId) db).1 = .ok ()
        ∧ Forgettable (obj.get .objectName)
        ∧ ∃ names, rename obj value db = incrementDatabaseRevision { db with names }) := by
  have looked : validateNameUnique value (some obj.objectId) db
      = ((validateNameUnique value (some obj.objectId) db).1, db) := rfl
  rcases valid : (validateNameUnique value (some obj.objectId) db).1 with raised | done
  · rw [valid] at looked
    exact Or.inl ⟨by simp, raised, by rw [rename, bind_apply, looked]⟩
  · obtain ⟨key, hashed, _⟩ := validated valid
    rw [valid] at looked
    rcases updateNameIndex_spec hashed obj.objectId (obj.get .objectName) db
      with ⟨stuck, raised, refused⟩ | ⟨can, names, indexed⟩
    · refine Or.inl ⟨fun both => stuck both.2, raised, ?_⟩
      rw [rename, bind_apply, looked]
      dsimp only
      rw [bind_apply, refused]
    · refine Or.inr ⟨rfl, can, names, ?_⟩
      rw [rename, bind_apply, looked]
      dsimp only
      rw [bind_apply, indexed]

/-- A rename gets to its end exactly if it is accepted. -/
theorem rename_ok_iff : (rename obj value db).1 = .ok () ↔ db.RenameAccepted obj value := by
  unfold RenameAccepted
  rcases rename_spec obj value db with ⟨refused, raised, same⟩ | ⟨valid, can, names, same⟩
  · rw [same]
    constructor
    · intro impossible
      cases impossible
    · exact fun accepted => absurd ⟨accepted.1, accepted.2.1⟩ refused
  · have counted := incrementDatabaseRevision_isOk { db with names }
    have sameCounts : ({ db with names } : ObjectDatabase).revisionCounts = db.revisionCounts := rfl
    rw [same, ← sameCounts, ← counted]
    rcases (incrementDatabaseRevision { db with names }).1 with raised | done
    · simp [Except.isOk, Except.toBool]
    · simp [Except.isOk, Except.toBool, valid, can]

theorem rename_keeps {reached} (done : rename obj value db = (.ok (), reached))
    (stored : db.heap.get ref = some obj)
    : ∃ after, reached.heap.get ref = some after ∧ SameIdentity obj after := by
  rcases rename_spec obj value db with ⟨_, raised, same⟩ | ⟨_, _, names, same⟩
  · rw [done] at same
    cases same
  · have kept : SameIndices { db with names } (incrementDatabaseRevision { db with names }).2 :=
      keeps_incrementDatabaseRevision.final (.refl _)
    rw [← same, done] at kept
    exact kept.forth ref obj stored

/-- Every condition on a write: the checks of the class, the access, and a free name or a place
for the value.
-/
def WriteAccepted (db : ObjectDatabase) (obj : BACnetObject) (prop : PropertyIdentifier)
    (value : Value) (priority arrayIndex : Option Nat) (now : Float)
    : Prop :=
  obj.checkWrite prop value = .ok () ∧ ∃ definition, obj.writable prop = .ok definition
    ∧ if prop = .objectName ∧ obj.attached = true then
        db.RenameAccepted obj value ∧ arrayIndex = none
      else obj.Storable prop (BACnetObject.coerceValue definition value) priority arrayIndex now

/-- A computation on an object that is there. -/
theorem onObject_fst {program} (stored : db.heap.get ref = some obj)
    : (onObject ref program db).1 = (program obj).1 := by
  unfold onObject
  rw [stored]

/-- A name that can be looked up has no elements, so it is written as a whole or not at all. -/
theorem whole_of_storeValue {definition : PropertyDefinition}
    (can : Forgettable (obj.get .objectName))
    (stores : (BACnetObject.storeValue definition .objectName value priority arrayIndex now obj).1
      = .ok ())
    : arrayIndex = none := by
  rw [BACnetObject.storeValue_ok_iff] at stores
  cases arrayIndex with
  | none => rfl
  | some index =>
    obtain ⟨items, list, _⟩ := stores
    obtain ⟨key, hashed⟩ := can
    rw [Value.asList?_eq_some.mp list] at hashed
    cases hashed

theorem writeProperty_ok_iff (stored : db.heap.get ref = some obj)
    : (writeProperty ref prop value priority arrayIndex now db).1 = .ok ()
      ↔ db.WriteAccepted obj prop value priority arrayIndex now := by
  unfold writeProperty WriteAccepted
  rw [stored]
  dsimp only [writeTo]
  have checked : ∀ outcome : Except Raised Unit,
      (∃ result, outcome = .ok result) ↔ outcome = .ok () := by
    intro outcome
    cases outcome <;> simp
  rw [Stateful.bind_lift_ok_iff, ← checked (obj.checkWrite prop value)]
  constructor
  · rintro ⟨_, passed, written⟩
    obtain ⟨definition, access, stores⟩ := Stateful.bind_lift_ok_iff.mp written
    refine ⟨⟨_, passed⟩, definition, access, ?_⟩
    by_cases named : prop = .objectName ∧ obj.attached = true
    · rw [Stateful.when, if_pos named] at stores
      obtain ⟨_, reached, done, whole⟩ := Stateful.bind_ok_iff.mp stores
      rw [if_pos named]
      have accepted := rename_ok_iff.mp (congrArg Prod.fst done)
      refine ⟨accepted, ?_⟩
      obtain ⟨after, there, identity⟩ := rename_keeps done stored
      rw [onObject_fst there, named.1] at whole
      exact whole_of_storeValue (identity.name ▸ accepted.2.1) whole
    · rw [Stateful.when, if_neg named, bind_apply, pure_apply] at stores
      rw [if_neg named, ← BACnetObject.storeValue_ok_iff]
      rwa [onObject_fst stored] at stores
  · rintro ⟨⟨_, passed⟩, definition, access, accepted⟩
    refine ⟨_, passed, Stateful.bind_lift_ok_iff.mpr ⟨definition, access, ?_⟩⟩
    by_cases named : prop = .objectName ∧ obj.attached = true
    · rw [Stateful.when, if_pos named]
      rw [if_pos named] at accepted
      obtain ⟨renamed, rfl⟩ := accepted
      have outcome := rename_ok_iff.mpr renamed
      rcases ended : rename obj value db with ⟨raised | done, reached⟩
      · rw [ended] at outcome
        cases outcome
      · rw [bind_apply, ended]
        obtain ⟨after, there, _⟩ := rename_keeps ended stored
        have plain : after.commandsOf .objectName = none := rfl
        dsimp only
        rw [onObject_fst there, named.1, BACnetObject.storeValue_whole plain]
    · rw [Stateful.when, if_neg named, bind_apply, pure_apply]
      rw [if_neg named, ← BACnetObject.storeValue_ok_iff] at accepted
      dsimp only
      rwa [onObject_fst stored]

end ObjectDatabase

end BacPy
