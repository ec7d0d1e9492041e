import BacPy.App.Server
import BacPy.Objects.AcceptedWrites

/-! Requests that fail: which of them change nothing. A handler checks and changes by turns, so
this depends on how far it gets before it raises.
-/

namespace BacPy

open Library
open Stateful (FailsTo)

-- Writes to one object

namespace BACnetObject

variable {obj : BACnetObject} {slots : Vector CommandSlot 16} {value : Value} {now : Float}
  {definition : PropertyDefinition} {prop : PropertyIdentifier} {priority arrayIndex : Option Nat}

/-- A command whose minimum time counts is refused at once, or carried out. -/
theorem writeWithPriority_fails {priority} (ready : obj.CommandReady slots value priority now)
    : FailsTo (· = obj) (writeWithPriority slots value priority now) obj := by
  by_cases free : obj.PriorityFree priority
  · exact .of_ok (writeWithPriority_ok_iff.mpr ⟨free, ready⟩)
  · apply FailsTo.of_final
    rw [← baseWriteWithPriority_ok_iff obj slots value] at free
    unfold writeWithPriority
    cases written : obj.baseWriteWithPriority slots value priority with
    | error raised => rfl
    | ok after => exact absurd ⟨after, written⟩ free

/-- A write to an object fails before it changes anything, unless a minimum time does not count. -/
theorem storeValue_fails
    (ready : ∀ slots, obj.commandsOf prop = some slots
      → obj.CommandReady slots (coerceValue definition value) (priority.getD 16) now)
    : FailsTo (· = obj) (storeValue definition prop value priority arrayIndex now) obj := by
  cases commands : obj.commandsOf prop with
  | some slots =>
    have fails := writeWithPriority_fails (ready slots commands)
    rintro state rfl
    rw [storeValue_command commands]
    exact fails state rfl
  | none =>
    cases arrayIndex with
    | none =>
      apply FailsTo.of_ok
      rw [storeValue_whole commands]
    | some index =>
      cases written : obj.writeArrayElement prop (coerceValue definition value) index with
      | error raised =>
        apply FailsTo.of_final
        rw [storeValue_element commands, written]
      | ok after =>
        apply FailsTo.of_ok
        rw [storeValue_element commands, written]

end BACnetObject

-- Writes in the database

namespace ObjectDatabase

variable {db : ObjectDatabase} {ref : Nat} {obj : BACnetObject} {prop : PropertyIdentifier}
  {value : Value} {priority arrayIndex : Option Nat} {now : Float}

/-- All objects that were there, their properties and all indices are as they were. -/
structure SameContents (before after : ObjectDatabase) : Prop where
  objects : after.objects = before.objects
  names : after.names = before.names
  typeIndex : after.typeIndex = before.typeIndex
  deviceObj : after.deviceObj = before.deviceObj
  heap : ∀ ref obj, before.heap.get ref = some obj → after.heap.get ref = some obj

theorem SameContents.refl (db) : SameContents db db :=
  ⟨rfl, rfl, rfl, rfl, fun _ _ stored => stored⟩

theorem SameContents.set_same (stored : db.heap.get ref = some obj)
    : SameContents db { db with heap := db.heap.set ref obj } where
  objects := rfl
  names := rfl
  typeIndex := rfl
  deviceObj := rfl
  heap other another found := by
    dsimp only
    rw [Dict.get_set]
    split
    · next same => rw [← stored, ← same, found]
    · exact found

theorem SameContents.allocate (db) (obj : BACnetObject)
    : SameContents db (db.allocate obj) where
  objects := rfl
  names := rfl
  typeIndex := rfl
  deviceObj := rfl
  heap other another found := by
    have different : other ≠ db.fresh := by
      rintro rfl
      rw [get_fresh] at found
      cases found
    exact (Dict.get_set_ne different).trans found

/-- A computation on one object that leaves it alone when it raises. -/
theorem onObject_fails {program}
    (fails : ∀ obj, db.heap.get ref = some obj → FailsTo (· = obj) program obj)
    : FailsTo (SameContents db) (onObject ref program) db := by
  cases stored : db.heap.get ref with
  | none =>
    have nothing : (onObject ref program db).1 = .ok () := by
      unfold onObject
      rw [stored]
    exact .of_ok nothing
  | some obj =>
    rcases outcome : (program obj).1 with raised | done
    · apply FailsTo.of_final
      unfold onObject
      rw [stored]
      dsimp only
      rw [(fails obj stored).final outcome]
      exact .set_same stored
    · have done : (onObject ref program db).1 = .ok () := by
        unfold onObject
        rw [stored]
        exact outcome
      exact .of_ok done

/-- A write that passes its checks does not stop half-way: a rename that has reached the index of
names gets to its end, and a command can start the minimum time of its state.
-/
def WriteReady (db : ObjectDatabase) (obj : BACnetObject) (prop : PropertyIdentifier)
    (value : Value) (priority arrayIndex : Option Nat) (now : Float)
    : Prop :=
  obj.checkWrite prop value = .ok () → ∀ definition, obj.writable prop = .ok definition
    → if prop = .objectName ∧ obj.attached = true then
        (validateNameUnique value (some obj.objectId) db).1 = .ok ()
          → Forgettable (obj.get .objectName) → db.revisionCounts ∧ arrayIndex = none
      else ∀ slots, obj.commandsOf prop = some slots
        → obj.CommandReady slots (BACnetObject.coerceValue definition value) (priority.getD 16) now

/-- A write that is ready is refused before it changes anything, or accepted. -/
theorem writeProperty_fails
    (ready : ∀ obj, db.heap.get ref = some obj
      → db.WriteReady obj prop value priority arrayIndex now)
    : FailsTo (SameContents db)
        (writeProperty ref prop value priority arrayIndex now) db := by
  cases stored : db.heap.get ref with
  | none =>
    have nothing : (writeProperty ref prop value priority arrayIndex now db).1 = .ok () := by
      unfold writeProperty
      rw [stored]
    exact .of_ok nothing
  | some obj =>
    by_cases accepted : db.WriteAccepted obj prop value priority arrayIndex now
    · exact .of_ok ((writeProperty_ok_iff stored).mpr accepted)
    · have written : writeProperty ref prop value priority arrayIndex now db
          = writeTo ref obj prop value priority arrayIndex now db := by
        unfold writeProperty
        rw [stored]
      rintro state rfl
      rw [written]
      refine FailsTo.bind_lift (.refl _) ?_ state rfl
      intro _ passed
      refine FailsTo.bind_lift (.refl _) ?_
      intro definition access
      have ready := ready obj stored passed definition access
      by_cases named : prop = .objectName ∧ obj.attached = true
      · rw [if_pos named] at ready
        rw [Stateful.when, if_pos named]
        rcases rename_spec obj value state with ⟨_, raised, same⟩ | ⟨valid, can, _⟩
        · apply FailsTo.of_final
          rw [Stateful.bind_apply, same]
          exact .refl state
        · obtain ⟨counts, whole⟩ := ready valid can
          refine absurd ⟨passed, definition, access, ?_⟩ accepted
          rw [if_pos named]
          exact ⟨⟨valid, can, counts⟩, whole⟩
      · rw [if_neg named] at ready
        rw [Stateful.when, if_neg named]
        apply onObject_fails
        intro other there
        cases stored.symm.trans there
        exact BACnetObject.storeValue_fails ready

end ObjectDatabase

end BacPy
