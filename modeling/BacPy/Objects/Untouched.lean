import BacPy.Objects.AcceptedWrites

/-! What the operations of the database leave as it was: which properties of which objects a write
and the record of it may change.
-/

namespace BacPy

open Library
open Stateful (Preserves)

namespace ObjectDatabase

/-- The database has the same objects, which are the same but for some of their properties. -/
structure Untouched (touched : Nat → List PropertyIdentifier) (before after : ObjectDatabase)
    : Prop where
  objects : after.objects = before.objects
  typeIndex : after.typeIndex = before.typeIndex
  deviceObj : after.deviceObj = before.deviceObj
  heap : ∀ ref obj, before.heap.get ref = some obj
    → ∃ other, after.heap.get ref = some other ∧ BACnetObject.Agrees (touched ref) obj other

variable {touched more : Nat → List PropertyIdentifier} {origin before middle after : ObjectDatabase}

theorem Untouched.refl (db) : Untouched touched db db :=
  ⟨rfl, rfl, rfl, fun _ obj stored => ⟨obj, stored, .refl obj⟩⟩

theorem Untouched.trans (first : Untouched touched before middle)
    (second : Untouched touched middle after)
    : Untouched touched before after where
  objects := second.objects.trans first.objects
  typeIndex := second.typeIndex.trans first.typeIndex
  deviceObj := second.deviceObj.trans first.deviceObj
  heap ref obj stored := by
    obtain ⟨other, there, agrees⟩ := first.heap ref obj stored
    obtain ⟨another, last, agreesLater⟩ := second.heap ref other there
    exact ⟨another, last, agrees.trans agreesLater⟩

theorem Untouched.mono (untouched : Untouched touched before after)
    (wider : ∀ ref, touched ref ⊆ more ref)
    : Untouched more before after where
  objects := untouched.objects
  typeIndex := untouched.typeIndex
  deviceObj := untouched.deviceObj
  heap ref obj stored := by
    obtain ⟨other, there, agrees⟩ := untouched.heap ref obj stored
    exact ⟨other, there, agrees.mono (wider ref)⟩

theorem Untouched.getObjectsOfType (untouched : Untouched touched before after)
    (objectType : ObjectType)
    : after.getObjectsOfType objectType = before.getObjectsOfType objectType := by
  rw [ObjectDatabase.getObjectsOfType, ObjectDatabase.getObjectsOfType, untouched.typeIndex]

theorem untouched_onObject {ref program}
    (agrees : ∀ obj, BACnetObject.Agrees (touched ref) obj (program obj).2)
    : Preserves (Untouched touched origin) (onObject ref program) := by
  apply Preserves.of_final
  intro db kept
  refine kept.trans ?_
  unfold onObject
  cases stored : db.heap.get ref with
  | none => exact .refl db
  | some obj =>
    refine ⟨rfl, rfl, rfl, fun other another there => ?_⟩
    dsimp only
    rw [Dict.get_set]
    split
    · next same =>
        rw [same, stored] at there
        cases there
        exact ⟨_, rfl, same ▸ agrees obj⟩
    · exact ⟨another, there, .refl another⟩

-- The revision

/-- What counting the revision up may change. -/
def revisionTouched (db : ObjectDatabase) (ref : Nat) : List PropertyIdentifier :=
  if db.deviceObj = some ref then [.databaseRevision] else []

theorem untouched_incrementDatabaseRevision
    : Preserves (Untouched origin.revisionTouched origin) incrementDatabaseRevision := by
  apply Preserves.of_final
  intro db kept
  unfold incrementDatabaseRevision
  cases device : db.deviceObj with
  | none => exact kept
  | some ref =>
    refine (untouched_onObject ?_).final kept
    intro device_
    have member : PropertyIdentifier.databaseRevision ∈ origin.revisionTouched ref := by
      rw [revisionTouched, ← kept.deviceObj, device, if_pos rfl]
      exact List.mem_singleton_self _
    cases plusOne ((device_.stored .databaseRevision).getD (.int 0)) with
    | error raised => exact .refl device_
    | ok revision => exact BACnetObject.agrees_set revision member

/-- The index of names is not part of any object. -/
theorem Untouched.withNames (untouched : Untouched touched before after) (names)
    : Untouched touched before { after with names } :=
  ⟨untouched.objects, untouched.typeIndex, untouched.deviceObj, untouched.heap⟩

theorem untouched_rename (obj : BACnetObject) (value : Value)
    : Preserves (Untouched origin.revisionTouched origin) (rename obj value) := by
  apply Preserves.of_final
  intro db kept
  rcases rename_spec obj value db with ⟨_, raised, same⟩ | ⟨_, _, names, same⟩
  · rw [same]
    exact kept
  · rw [same]
    exact untouched_incrementDatabaseRevision.final (kept.withNames names)

-- Audit records

def logProperties : List PropertyIdentifier := [.logBuffer, .recordCount, .totalRecordCount]

/-- What recording an operation may change. -/
def logTouched (db : ObjectDatabase) (ref : Nat) : List PropertyIdentifier :=
  if ref ∈ db.getObjectsOfType .auditLog then logProperties else []

theorem untouched_appendToLogs
    : Preserves (Untouched origin.logTouched origin) appendToLogs := by
  apply Preserves.of_final
  intro db kept
  have each : Preserves (Untouched origin.logTouched origin)
      (Stateful.forEach (fun ref => onObject ref BACnetObject.appendRecord)
        (db.getObjectsOfType .auditLog)) := by
    rw [kept.getObjectsOfType]
    apply Preserves.forEach
    intro ref member
    apply untouched_onObject
    intro obj
    rw [logTouched, if_pos member]
    exact appendRecord_agrees obj
  exact each.final kept

theorem untouched_recordOperation (operation target)
    : Preserves (Untouched origin.logTouched origin) (recordOperation operation target) := by
  apply Preserves.bind (.consults _)
  intro reporters
  apply Preserves.forEach
  intro reporter _
  exact Preserves.when fun _ => untouched_appendToLogs

-- Writes

variable {db : ObjectDatabase} {ref : Nat} {obj : BACnetObject} {prop : PropertyIdentifier}
  {value : Value} {priority arrayIndex : Option Nat} {now : Float}

def writeTouched (db : ObjectDatabase) (ref : Nat) (prop : PropertyIdentifier) (other : Nat)
    : List PropertyIdentifier :=
  (if other = ref then BACnetObject.touchedBy prop else [])
    ++ if prop = .objectName then db.revisionTouched other else []

theorem untouched_writeTo
    : Untouched (db.writeTouched ref prop) db
        (writeTo ref obj prop value priority arrayIndex now db).2 := by
  have renames (named : prop = .objectName ∧ obj.attached = true)
      : Preserves (Untouched (db.writeTouched ref prop) db) (rename obj value) := by
    apply Preserves.of_final
    intro middle kept
    have revised := (untouched_rename obj value).final (Untouched.refl middle)
    refine kept.trans (revised.mono fun other => ?_)
    rw [writeTouched, if_pos named.1, revisionTouched, kept.deviceObj]
    exact List.subset_append_right _ _
  have stores (definition : PropertyDefinition)
      : Preserves (Untouched (db.writeTouched ref prop) db)
        (onObject ref (BACnetObject.storeValue definition prop value priority arrayIndex now)) := by
    apply untouched_onObject
    intro before
    refine BACnetObject.agrees_storeValue.mono ?_
    rw [writeTouched, if_pos rfl]
    exact List.subset_append_left _ _
  exact (Preserves.bind (.lift _) fun _ => Preserves.bind (.lift _)
    fun definition => Preserves.bind (.when renames) fun _ => stores definition).final
      (.refl db)

theorem untouched_writeProperty
    : Untouched (db.writeTouched ref prop) db
        (writeProperty ref prop value priority arrayIndex now db).2 := by
  unfold writeProperty
  cases db.heap.get ref with
  | none => exact .refl db
  | some obj => exact untouched_writeTo

/-- An accepted write stores the value in the object, which is as it was: a rename may have
counted the revision up before.
-/
theorem writeProperty_spec (stored : db.heap.get ref = some obj)
    (accepted : (writeProperty ref prop value priority arrayIndex now db).1 = .ok ())
    : ∃ definition start, obj.writable prop = .ok definition
        ∧ BACnetObject.Agrees [.databaseRevision] obj start
        ∧ (prop ≠ .objectName → start = obj)
        ∧ (BACnetObject.storeValue definition prop value priority arrayIndex now start).1 = .ok ()
        ∧ (writeProperty ref prop value priority arrayIndex now db).2.heap.get ref
          = some (BACnetObject.storeValue definition prop value priority arrayIndex now start).2 := by
  have written : writeProperty ref prop value priority arrayIndex now db
      = writeTo ref obj prop value priority arrayIndex now db := by
    unfold writeProperty
    rw [stored]
  rw [written] at accepted ⊢
  unfold writeTo at accepted ⊢
  obtain ⟨_, passed, later⟩ := Stateful.bind_lift_ok_iff.mp accepted
  obtain ⟨definition, access, stores⟩ := Stateful.bind_lift_ok_iff.mp later
  obtain ⟨_, reached, renamed, ends⟩ := Stateful.bind_ok_iff.mp stores
  have stays : ∃ start, reached.heap.get ref = some start
      ∧ BACnetObject.Agrees [.databaseRevision] obj start ∧ (prop ≠ .objectName → start = obj) := by
    by_cases named : prop = .objectName ∧ obj.attached = true
    · rw [Stateful.when, if_pos named] at renamed
      have untouched := (untouched_rename obj value).final (Untouched.refl db)
      rw [renamed] at untouched
      obtain ⟨start, there, agrees⟩ := untouched.heap ref obj stored
      refine ⟨start, there, agrees.mono ?_, fun other => absurd named.1 other⟩
      rw [revisionTouched]
      split <;> simp
    · rw [Stateful.when, if_neg named] at renamed
      obtain ⟨_, rfl⟩ := Prod.mk.inj renamed
      exact ⟨obj, stored, .refl obj, fun _ => rfl⟩
  obtain ⟨start, there, agrees, plain⟩ := stays
  refine ⟨definition, start, access, agrees, plain, ?_, ?_⟩
  · rwa [onObject_fst there] at ends
  · rw [Stateful.bind_apply, Stateful.lift_apply, passed]
    dsimp only
    rw [Stateful.bind_apply, Stateful.lift_apply, access]
    dsimp only
    rw [Stateful.bind_apply, renamed]
    dsimp only
    unfold onObject
    rw [there]
    simp

end ObjectDatabase

end BacPy
