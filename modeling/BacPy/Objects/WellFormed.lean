import BacPy.App.Audit
import BacPy.Library.Runs
import BacPy.Objects.Classes
import BacPy.Objects.Frames

/-! The database and its indices over whole runs: which steps keep the identifying properties,
the index by type and the index of names in agreement.
-/

namespace BacPy

open Library
open Stateful (Preserves)
open BACnetObject (Agrees agrees_set appendRecord)

namespace ObjectDatabase

-- The database as a machine

/-- The instance number that `handle_create_object` chooses for a type. -/
def nextInstance (db : ObjectDatabase) (objectType : ObjectType) : Nat :=
  let existing := (db.getObjectsOfType objectType).filterMap db.heap.get
  match existing.map fun obj => obj.objectId.instanceNumber.val with
  | [] => 1
  | first :: rest => rest.foldl max first + 1

/-- What `handle_create_object` does with decoded initial values: make an object and add it. -/
def createObject (registry : List ObjectClass) (objectType : ObjectType)
    (instanceNumber : Option Nat) (initialValues : List (PropertyIdentifier × Value))
    : Action Unit := fun db =>
  match BACnetObject.create registry objectType
      (instanceNumber.getD (db.nextInstance objectType)) initialValues with
  | .error raised => (.error raised, db)
  | .ok obj => add db.fresh (db.allocate obj)

/-- What can happen to a database and to the objects of its application. -/
inductive Event where
  /-- CreateObject -/
  | createObject (objectType : ObjectType) (instanceNumber : Option Nat)
    (initialValues : List (PropertyIdentifier × Value))
  /-- the application makes an object, which is in no database yet -/
  | constructed (cls : ObjectClass) (instanceNumber : Fin 4194304)
    (initialProperties : List (PropertyIdentifier × Value))
  | add (ref : Nat)
  /-- `remove`, which DeleteObject calls -/
  | remove (objectId : ObjectIdentifier)
  /-- `write_property`, which WriteProperty calls with a decoded value -/
  | writeProperty (ref : Nat) (prop : PropertyIdentifier) (value : Value)
    (priority arrayIndex : Option Nat) (now : Float)
  /-- `record_operation` -/
  | recorded (operation : AuditOperation) (target : ObjectIdentifier)

/-- One step, whether the operation succeeds or raises. -/
def step (registry : List ObjectClass) (db : ObjectDatabase) : Event → Option ObjectDatabase
  | .createObject objectType instanceNumber initialValues =>
    some (createObject registry objectType instanceNumber initialValues db).2
  | .constructed cls instanceNumber initialProperties =>
    some (db.allocate (.construct cls instanceNumber initialProperties))
  | .add ref => some (add ref db).2
  | .remove objectId => some (remove objectId db).2
  | .writeProperty ref prop value priority arrayIndex now =>
    some (writeProperty ref prop value priority arrayIndex now db).2
  | .recorded operation target => some (recordOperation operation target db).2

-- Well-formedness

/-- The identifying properties of an object are those it is found by. -/
structure Identified (objectId : ObjectIdentifier) (obj : BACnetObject) : Prop where
  identifier : (obj.get .objectIdentifier).pyEq (.objectIdentifier objectId)
  objectType : (obj.get .objectType).pyEq (.enum objectTypeEnum objectId.objectType.number)

/-- An object has a name, which the index finds by a key. -/
structure Named (obj : BACnetObject) (key : Value) : Prop where
  present : obj.get .objectName ≠ .none
  hashed : (obj.get .objectName).hashKey = .ok key

/-- Every object is stored under its identifying properties, the index by type holds exactly
the objects by their types, and the index of names leads from the name of each object to it
and has no other entries.
-/
structure WellFormed (db : ObjectDatabase) : Prop where
  identified : ∀ objectId ref, db.objects.get objectId = some ref
    → ∃ obj, db.heap.get ref = some obj ∧ Identified objectId obj
  types : Indexes ObjectIdentifier.objectType db.objects db.typeIndex
  found : ∀ objectId obj, db.object? objectId = some obj → obj.get .objectName ≠ .none
    → ∃ key, Named obj key ∧ db.names.get key = some objectId
  current : ∀ key objectId, db.names.get key = some objectId
    → ∃ obj, db.object? objectId = some obj ∧ Named obj key

/-- A well-formed database, with its references in order: it is known which objects are in it. -/
structure Sound (db : ObjectDatabase) : Prop extends WellFormed db where
  here : ∀ objectId ref, db.objects.get objectId = some ref
    → ∃ obj, db.heap.get ref = some obj ∧ obj.objectId = objectId ∧ obj.attached = true
  attached : ∀ ref obj, db.heap.get ref = some obj → obj.attached = true
    → db.objects.get obj.objectId = some ref

theorem sound_empty : ({} : ObjectDatabase).Sound where
  identified objectId ref found := by simp at found
  types := Indexes.empty
  found objectId obj found := by simp [object?, get] at found
  current key objectId found := by simp at found
  here objectId ref found := by simp at found
  attached ref obj found := by simp at found

variable {db : ObjectDatabase}

theorem object?_eq {objectId ref} (stored : db.objects.get objectId = some ref)
    : db.object? objectId = db.heap.get ref := by
  rw [object?, get, stored, Option.bind_some]

theorem object?_of_attached (sound : db.Sound) {ref obj} (stored : db.heap.get ref = some obj)
    (attached : obj.attached = true)
    : db.object? obj.objectId = some obj :=
  (object?_eq (sound.attached ref obj stored attached)).trans stored

theorem attached_of_object? (sound : db.Sound) {objectId obj}
    (found : db.object? objectId = some obj)
    : ∃ ref, db.objects.get objectId = some ref ∧ db.heap.get ref = some obj
        ∧ obj.objectId = objectId ∧ obj.attached = true := by
  obtain ⟨ref, stored, present⟩ := Option.bind_eq_some_iff.mp found
  obtain ⟨other, there, identifier, attached⟩ := sound.here objectId ref stored
  cases there.symm.trans present
  exact ⟨ref, stored, present, identifier, attached⟩

-- Changes of one object

def withObject (db : ObjectDatabase) (ref : Nat) (obj : BACnetObject) : ObjectDatabase :=
  { db with heap := db.heap.set ref obj }

/-- What the index and the identifiers rely on stays as it was. -/
structure SameIdentity (before after : BACnetObject) : Prop where
  objectId : after.objectId = before.objectId
  attached : after.attached = before.attached
  identifier : after.get .objectIdentifier = before.get .objectIdentifier
  objectType : after.get .objectType = before.get .objectType
  name : after.get .objectName = before.get .objectName

theorem SameIdentity.refl (obj : BACnetObject) : SameIdentity obj obj := ⟨rfl, rfl, rfl, rfl, rfl⟩

/-- Writes to other properties keep the identity. -/
theorem sameIdentity_of_agrees {touched before after}
    (agrees : Agrees touched before after)
    (untouched : ∀ prop ∈ [PropertyIdentifier.objectIdentifier, .objectType, .objectName],
      prop ∉ touched)
    : SameIdentity before after where
  objectId := agrees.objectId
  attached := agrees.attached
  identifier := agrees.get (untouched _ (by simp))
  objectType := agrees.get (untouched _ (by simp))
  name := agrees.get (untouched _ (by simp))

theorem SameIdentity.named {before after} (same : SameIdentity before after) {key}
    : Named after key ↔ Named before key := by
  constructor
  · rintro ⟨present, hashed⟩
    exact ⟨same.name ▸ present, same.name ▸ hashed⟩
  · rintro ⟨present, hashed⟩
    exact ⟨same.name ▸ present, same.name ▸ hashed⟩

theorem SameIdentity.identified {before after} (same : SameIdentity before after) {objectId}
    (identified : Identified objectId before)
    : Identified objectId after :=
  ⟨same.identifier ▸ identified.identifier, same.objectType ▸ identified.objectType⟩

theorem SameIdentity.symm {before after} (same : SameIdentity before after)
    : SameIdentity after before :=
  ⟨same.objectId.symm, same.attached.symm, same.identifier.symm, same.objectType.symm,
    same.name.symm⟩

theorem SameIdentity.trans {before middle after} (first : SameIdentity before middle)
    (second : SameIdentity middle after)
    : SameIdentity before after :=
  ⟨second.objectId.trans first.objectId, second.attached.trans first.attached,
    second.identifier.trans first.identifier, second.objectType.trans first.objectType,
    second.name.trans first.name⟩

/-- The indices are the same, and every object keeps its identity. -/
structure SameIndices (before after : ObjectDatabase) : Prop where
  objects : after.objects = before.objects
  names : after.names = before.names
  typeIndex : after.typeIndex = before.typeIndex
  forth : ∀ ref obj, before.heap.get ref = some obj
    → ∃ other, after.heap.get ref = some other ∧ SameIdentity obj other
  back : ∀ ref other, after.heap.get ref = some other
    → ∃ obj, before.heap.get ref = some obj ∧ SameIdentity obj other

theorem SameIndices.refl (db) : SameIndices db db where
  objects := rfl
  names := rfl
  typeIndex := rfl
  forth _ obj found := ⟨obj, found, .refl obj⟩
  back _ obj found := ⟨obj, found, .refl obj⟩

theorem SameIndices.symm {before after} (same : SameIndices before after)
    : SameIndices after before where
  objects := same.objects.symm
  names := same.names.symm
  typeIndex := same.typeIndex.symm
  forth ref obj found := by
    obtain ⟨other, found', identity⟩ := same.back ref obj found
    exact ⟨other, found', identity.symm⟩
  back ref obj found := by
    obtain ⟨other, found', identity⟩ := same.forth ref obj found
    exact ⟨other, found', identity.symm⟩

theorem SameIndices.trans {before middle after} (first : SameIndices before middle)
    (second : SameIndices middle after)
    : SameIndices before after where
  objects := second.objects.trans first.objects
  names := second.names.trans first.names
  typeIndex := second.typeIndex.trans first.typeIndex
  forth ref obj found := by
    obtain ⟨other, found', identity⟩ := first.forth ref obj found
    obtain ⟨another, found'', identity'⟩ := second.forth ref other found'
    exact ⟨another, found'', identity.trans identity'⟩
  back ref obj found := by
    obtain ⟨other, found', identity⟩ := second.back ref obj found
    obtain ⟨another, found'', identity'⟩ := first.back ref other found'
    exact ⟨another, found'', identity'.trans identity⟩

theorem SameIndices.object? {before after} (same : SameIndices before after) {objectId obj}
    (found : before.object? objectId = some obj)
    : ∃ other, after.object? objectId = some other ∧ SameIdentity obj other := by
  obtain ⟨ref, stored, present⟩ := Option.bind_eq_some_iff.mp found
  obtain ⟨other, found', identity⟩ := same.forth ref obj present
  refine ⟨other, ?_, identity⟩
  rw [ObjectDatabase.object?, get, same.objects]
  exact Option.bind_eq_some_iff.mpr ⟨ref, stored, found'⟩

/-- Well-formedness depends on the indices and the identities only. -/
theorem WellFormed.transport {before after} (wellFormed : before.WellFormed)
    (same : SameIndices before after)
    : after.WellFormed where
  identified objectId ref found := by
    obtain ⟨obj, stored, identified⟩ := wellFormed.identified objectId ref (same.objects ▸ found)
    obtain ⟨other, stored', identity⟩ := same.forth ref obj stored
    exact ⟨other, stored', identity.identified identified⟩
  types := by
    rw [same.objects, same.typeIndex]
    exact wellFormed.types
  found objectId obj found named := by
    obtain ⟨other, found', identity⟩ := same.symm.object? found
    obtain ⟨key, named', leads⟩ := wellFormed.found objectId other found' (identity.name ▸ named)
    exact ⟨key, identity.named.mp named', same.names ▸ leads⟩
  current key objectId leads := by
    obtain ⟨obj, found, named⟩ := wellFormed.current key objectId (same.names ▸ leads)
    obtain ⟨other, found', identity⟩ := same.object? found
    exact ⟨other, found', identity.named.mpr named⟩

theorem Sound.transport {before after} (sound : before.Sound) (same : SameIndices before after)
    : after.Sound where
  toWellFormed := sound.toWellFormed.transport same
  here objectId ref found := by
    obtain ⟨obj, stored, identifier, attached⟩ := sound.here objectId ref (same.objects ▸ found)
    obtain ⟨other, stored', identity⟩ := same.forth ref obj stored
    exact ⟨other, stored', identity.objectId.trans identifier, identity.attached.trans attached⟩
  attached ref obj found attached := by
    obtain ⟨other, stored, identity⟩ := same.back ref obj found
    rw [same.objects, identity.objectId]
    exact sound.attached ref other stored (identity.attached ▸ attached)

/-- An object that keeps its identity may change in any other way. -/
theorem sameIndices_withObject {ref before after} (stored : db.heap.get ref = some before)
    (same : SameIdentity before after)
    : SameIndices db (db.withObject ref after) where
  objects := rfl
  names := rfl
  typeIndex := rfl
  forth other obj found := by
    dsimp only [withObject]
    rw [Dict.get_set]
    split
    · next here =>
        subst here
        cases stored.symm.trans found
        exact ⟨after, rfl, same⟩
    · exact ⟨obj, found, .refl obj⟩
  back other obj found := by
    dsimp only [withObject] at found
    rw [Dict.get_set] at found
    split at found
    · next here =>
        cases found
        exact ⟨before, here ▸ stored, same⟩
    · exact ⟨obj, found, .refl obj⟩

/-- The objects after one of them has changed. -/
theorem object?_withObject (ref : Nat) (obj : BACnetObject) (objectId)
    : (db.withObject ref obj).object? objectId
      = if db.objects.get objectId = some ref then some obj else db.object? objectId := by
  rw [object?, object?, get, get]
  cases stored : db.objects.get objectId with
  | none => simp [withObject, stored]
  | some other =>
    by_cases same : other = ref
    · simp [withObject, stored, same]
    · simp [withObject, stored, same, Dict.get_set_ne same]

/-- An object outside of the database may change in any way. -/
theorem Sound.withDetached (sound : db.Sound) {ref obj}
    (outside : ∀ objectId, db.objects.get objectId ≠ some ref) (detached : obj.attached = false)
    : (db.withObject ref obj).Sound where
  identified objectId other found := by
    have different : other ≠ ref := fun same => outside objectId (same ▸ found)
    dsimp only [withObject]
    rw [Dict.get_set_ne different]
    exact sound.identified objectId other found
  types := sound.types
  found objectId other found := by
    rw [object?_withObject, if_neg (outside objectId)] at found
    exact sound.found objectId other found
  current key objectId leads := by
    rw [object?_withObject, if_neg (outside objectId)]
    exact sound.current key objectId leads
  here objectId other found := by
    have different : other ≠ ref := fun same => outside objectId (same ▸ found)
    dsimp only [withObject]
    rw [Dict.get_set_ne different]
    exact sound.here objectId other found
  attached other another found attached := by
    dsimp only [withObject] at found ⊢
    rw [Dict.get_set] at found
    split at found
    · cases found
      rw [detached] at attached
      cases attached
    · exact sound.attached other another found attached

/-- A reference to an object that is not attached is in no index. -/
theorem outside_of_detached (sound : db.Sound) {ref obj} (stored : db.heap.get ref = some obj)
    (detached : obj.attached = false) (objectId)
    : db.objects.get objectId ≠ some ref := by
  intro found
  obtain ⟨other, there, _, attached⟩ := sound.here objectId ref found
  cases stored.symm.trans there
  rw [detached] at attached
  cases attached

/-- A new object that is not attached leaves the database sound. -/
theorem Sound.allocate (sound : db.Sound) {obj} (detached : obj.attached = false)
    : (db.allocate obj).Sound := by
  have outside : ∀ objectId, db.objects.get objectId ≠ some db.fresh := by
    intro objectId found
    obtain ⟨other, there, _⟩ := sound.here objectId db.fresh found
    rw [get_fresh] at there
    cases there
  exact sound.withDetached outside detached

-- What does not concern the indices

variable {origin : ObjectDatabase}

theorem keeps_onObject {ref program} (same : ∀ obj, SameIdentity obj (program obj).2)
    : Preserves (SameIndices origin) (onObject ref program) := by
  apply Preserves.of_final
  intro db kept
  unfold onObject
  cases stored : db.heap.get ref with
  | none => exact kept
  | some obj => exact kept.trans (sameIndices_withObject stored (same obj))

/-- Counting the revision up is a change of one property of one object. -/
theorem preserves_incrementDatabaseRevision {inv}
    (each : ∀ ref (program : Stateful Raised BACnetObject Unit),
      (∀ device, Agrees [.databaseRevision] device (program device).2)
      → Preserves inv (onObject ref program))
    : Preserves inv incrementDatabaseRevision := by
  apply Preserves.of_final
  intro db holds
  unfold incrementDatabaseRevision
  cases db.deviceObj with
  | none => exact holds
  | some ref =>
    refine (each ref _ ?_).final holds
    intro device
    cases plusOne ((device.stored .databaseRevision).getD (.int 0)) with
    | error raised => exact .refl device
    | ok revision => exact agrees_set revision (List.mem_singleton_self _)

/-- The revision is not part of any index. -/
theorem keeps_incrementDatabaseRevision
    : Preserves (SameIndices origin) incrementDatabaseRevision :=
  preserves_incrementDatabaseRevision fun _ _ agrees =>
    keeps_onObject fun obj => sameIdentity_of_agrees (agrees obj) (by decide)

/-- An audit record goes to a buffer and its counters. -/
theorem appendRecord_agrees (obj : BACnetObject)
    : Agrees [.logBuffer, .recordCount, .totalRecordCount] obj
        (appendRecord obj).2 := by
  have counted : ∀ count, Agrees [.logBuffer, .recordCount, .totalRecordCount] obj
      { obj with sequenceCounter := count } :=
    fun count => ⟨rfl, rfl, rfl, rfl, fun _ _ => rfl⟩
  unfold appendRecord
  dsimp only
  split
  · split
    · split
      · exact .refl obj
      · exact .refl obj
      · split
        · exact counted _
        · exact (counted _).trans ((agrees_set _ (by decide)).trans
            ((agrees_set _ (by decide)).trans (agrees_set _ (by decide))))
    · split
      · exact counted _
      · exact (counted _).trans ((agrees_set _ (by decide)).trans
          ((agrees_set _ (by decide)).trans (agrees_set _ (by decide))))
  · exact .refl obj

/-- Recording an operation appends to logs, and does nothing else. -/
theorem preserves_recordOperation {inv}
    (each : ∀ ref, Preserves inv (onObject ref appendRecord))
    (operation target)
    : Preserves inv (recordOperation operation target) := by
  apply Preserves.bind (.consults _)
  intro reporters
  apply Preserves.forEach
  intro reporter _
  apply Preserves.when
  intro _
  apply Preserves.bind (.reads _)
  intro logs
  apply Preserves.forEach
  exact fun ref _ => each ref

theorem keeps_recordOperation (operation target)
    : Preserves (SameIndices origin) (recordOperation operation target) :=
  preserves_recordOperation (fun _ => keeps_onObject fun obj =>
    sameIdentity_of_agrees (appendRecord_agrees obj) (by decide)) operation target

end ObjectDatabase

end BacPy
