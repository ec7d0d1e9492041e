import BacPy.Objects.IndexRuns
import BacPy.Objects.Untouched

/-! Which objects a database holds, and what lasts of them, over every step of it: also over the
steps that leave the index of names wrong.
-/

namespace BacPy

open Library

namespace BACnetObject

/-- The object is the same, with the same stored value of a property. -/
structure Lasts (prop : PropertyIdentifier) (before after : BACnetObject) : Prop where
  objectId : after.objectId = before.objectId
  cls : after.cls = before.cls
  stored : after.stored prop = before.stored prop

variable {prop : PropertyIdentifier} {before middle after : BACnetObject}

theorem Lasts.refl (obj : BACnetObject) : Lasts prop obj obj := ⟨rfl, rfl, rfl⟩

theorem Lasts.trans (first : Lasts prop before middle) (second : Lasts prop middle after)
    : Lasts prop before after :=
  ⟨second.objectId.trans first.objectId, second.cls.trans first.cls,
    second.stored.trans first.stored⟩

theorem Lasts.get (lasts : Lasts prop before after) : after.get prop = before.get prop := by
  rw [BACnetObject.get, BACnetObject.get, lasts.stored]

theorem lasts_of_agrees {touched} (agrees : Agrees touched before after)
    (untouched : prop ∉ touched)
    : Lasts prop before after :=
  ⟨agrees.objectId, agrees.cls, agrees.stored prop untouched⟩

theorem lasts_attached (obj : BACnetObject) (attached : Bool)
    : Lasts prop obj { obj with attached } :=
  ⟨rfl, rfl, rfl⟩

end BACnetObject

namespace ObjectDatabase

open BACnetObject (Lasts)

-- Presence

/-- Every object is stored under its own identifier, and the index by type holds the objects by
their types.
-/
structure Filed (db : ObjectDatabase) : Prop where
  here : ∀ objectId ref, db.get objectId = some ref
    → ∃ obj, db.heap.get ref = some obj ∧ obj.objectId = objectId
  types : Indexes ObjectIdentifier.objectType db.objects db.typeIndex

theorem filed_empty : Filed {} where
  here objectId ref found := by simp [get] at found
  types := .empty

variable {db origin before middle after : ObjectDatabase} {prop : PropertyIdentifier}

theorem Filed.get_of_bucket (filed : db.Filed) {objectType bucket}
    (present : db.typeIndex.get objectType = some bucket) {objectId ref}
    (found : bucket.get objectId = some ref)
    : objectId.objectType = objectType ∧ db.get objectId = some ref := by
  have indexed := filed.types.exact objectType objectId
  rw [GroupedIndex.find, present, Option.bind_some, found] at indexed
  split at indexed
  · next same => exact ⟨same, indexed.symm⟩
  · cases indexed

/-- An object of a type is stored under an identifier of that type. -/
theorem Filed.get_of_mem (filed : db.Filed) {objectType ref}
    (listed : ref ∈ db.getObjectsOfType objectType)
    : ∃ objectId, objectId.objectType = objectType ∧ db.get objectId = some ref := by
  unfold getObjectsOfType at listed
  cases present : db.typeIndex.get objectType with
  | none => simp [present] at listed
  | some bucket =>
    rw [present] at listed
    obtain ⟨objectId, _, found⟩ := List.mem_filterMap.mp listed
    exact ⟨objectId, filed.get_of_bucket present found⟩

/-- The objects of a type are listed once each. -/
theorem Filed.nodup (filed : db.Filed) (objectType : ObjectType)
    : (db.getObjectsOfType objectType).Nodup := by
  unfold getObjectsOfType
  cases present : db.typeIndex.get objectType with
  | none => exact List.nodup_nil
  | some bucket =>
    refine List.Nodup.filterMap ?_ (List.nodup_reverse.mpr bucket.entries.nodupKeys)
    intro one another ref found same
    obtain ⟨obj, stored, identifier⟩ := filed.here one ref (filed.get_of_bucket present found).2
    obtain ⟨other, there, identifierOther⟩ := filed.here another ref (filed.get_of_bucket present same).2
    cases stored.symm.trans there
    exact identifier.symm.trans identifierOther

def Lasting (prop : PropertyIdentifier) (before after : ObjectDatabase) : Prop :=
  ∀ ref obj, before.heap.get ref = some obj
    → ∃ other, after.heap.get ref = some other ∧ Lasts prop obj other

theorem Lasting.refl (db) : Lasting prop db db :=
  fun _ obj stored => ⟨obj, stored, .refl obj⟩

theorem Lasting.trans (first : Lasting prop before middle) (second : Lasting prop middle after)
    : Lasting prop before after := by
  intro ref obj stored
  obtain ⟨other, there, lasts⟩ := first ref obj stored
  obtain ⟨another, last, lastsLater⟩ := second ref other there
  exact ⟨another, last, lasts.trans lastsLater⟩

theorem lasting_of_untouched {touched} (untouched : Untouched touched before after)
    (apart : ∀ ref, prop ∉ touched ref)
    : Lasting prop before after := by
  intro ref obj stored
  obtain ⟨other, there, agrees⟩ := untouched.heap ref obj stored
  exact ⟨other, there, BACnetObject.lasts_of_agrees agrees (apart ref)⟩

@[simp] theorem objects_modify (ref : Nat) (change)
    : (db.modify ref change).objects = db.objects := by
  unfold modify
  split <;> rfl

@[simp] theorem typeIndex_modify (ref : Nat) (change)
    : (db.modify ref change).typeIndex = db.typeIndex := by
  unfold modify
  split <;> rfl

/-- A change of an object, seen from every reference. -/
theorem heap_modify (ref other : Nat) (change)
    : (db.modify ref change).heap.get other
      = if other = ref then (db.heap.get ref).map change else db.heap.get other := by
  unfold modify
  cases stored : db.heap.get ref with
  | none =>
    dsimp only
    split
    · next same => rw [same, stored]; rfl
    · rfl
  | some obj =>
    dsimp only
    rw [Dict.get_set]
    rfl

theorem lasting_modify {ref change}
    (lasts : ∀ obj, db.heap.get ref = some obj → Lasts prop obj (change obj))
    : Lasting prop db (db.modify ref change) := by
  intro other another there
  rw [heap_modify]
  split
  · next same =>
      rw [same] at there
      rw [there]
      exact ⟨_, rfl, lasts another there⟩
  · exact ⟨another, there, .refl another⟩

theorem Filed.of_lasting (filed : before.Filed) (objects : after.objects = before.objects)
    (typeIndex : after.typeIndex = before.typeIndex) (lasting : Lasting prop before after)
    : after.Filed where
  here objectId ref found := by
    rw [get, objects] at found
    obtain ⟨obj, stored, same⟩ := filed.here objectId ref found
    obtain ⟨other, there, lasts⟩ := lasting ref obj stored
    exact ⟨other, there, lasts.objectId.trans same⟩
  types := by
    rw [objects, typeIndex]
    exact filed.types

/-- What an operation makes of a database: it is in order, every object lasts, and the objects in
it were there or are the one that the operation brings.
-/
structure Progress (prop : PropertyIdentifier) (brings : Option (Nat × ObjectIdentifier))
    (before after : ObjectDatabase)
    : Prop where
  filed : after.Filed
  lasting : Lasting prop before after
  present : ∀ objectId ref, after.get objectId = some ref
    → before.get objectId = some ref ∨ brings = some (ref, objectId)

variable {brings : Option (Nat × ObjectIdentifier)}

theorem Progress.refl (filed : db.Filed) : Progress prop brings db db :=
  ⟨filed, .refl db, fun _ _ => Or.inl⟩

/-- Objects may change in other ways than an operation did before. -/
theorem Progress.then (progress : Progress prop brings before middle)
    (objects : after.objects = middle.objects) (typeIndex : after.typeIndex = middle.typeIndex)
    (lasting : Lasting prop middle after)
    : Progress prop brings before after where
  filed := progress.filed.of_lasting objects typeIndex lasting
  lasting := progress.lasting.trans lasting
  present objectId ref found := by
    rw [get, objects] at found
    exact progress.present objectId ref found

theorem Progress.untouched {touched} (progress : Progress prop brings before middle)
    (untouched : Untouched touched middle after) (apart : ∀ ref, prop ∉ touched ref)
    : Progress prop brings before after :=
  progress.then untouched.objects untouched.typeIndex (lasting_of_untouched untouched apart)

-- Steps

/-- No operation changes the property of an object but a write to it. -/
def Quiet (prop : PropertyIdentifier) : Prop :=
  prop ∉ BACnetObject.commandProperties ++ logProperties ++ [.databaseRevision]

instance : Decidable (Quiet prop) := inferInstanceAs (Decidable (_ ∉ _))

variable {registry : List ObjectClass} {next : ObjectDatabase}

theorem Quiet.revision (quiet : Quiet prop) (ref : Nat) : prop ∉ db.revisionTouched ref := by
  unfold revisionTouched
  split
  · intro member
    exact quiet (List.mem_append_right _ member)
  · exact List.not_mem_nil

theorem Quiet.log (quiet : Quiet prop) (ref : Nat) : prop ∉ db.logTouched ref := by
  unfold logTouched
  split
  · intro member
    exact quiet (List.mem_append_left _ (List.mem_append_right _ member))
  · exact List.not_mem_nil

theorem Quiet.write (quiet : Quiet prop) {written : PropertyIdentifier} (different : prop ≠ written)
    (ref other : Nat)
    : prop ∉ db.writeTouched ref written other := by
  unfold writeTouched BACnetObject.touchedBy
  intro member
  rcases List.mem_append.mp member with stored | revised
  · split at stored
    · split at stored
      · exact quiet (List.mem_append_left _ (List.mem_append_left _ stored))
      · exact different (List.mem_singleton.mp stored)
    · cases stored
  · split at revised
    · exact quiet.revision other revised
    · cases revised

/-- The revision is counted up after an operation. -/
theorem Progress.revised (progress : Progress prop brings before middle) (quiet : Quiet prop)
    : Progress prop brings before (incrementDatabaseRevision middle).2 :=
  progress.untouched (untouched_incrementDatabaseRevision.final (.refl middle)) quiet.revision

/-- An object that passes the checks is filed under its identifier. -/
theorem progress_entered {ref obj} (filed : db.Filed) (stored : db.heap.get ref = some obj)
    : Progress prop (some (ref, obj.objectId)) db (db.entered ref obj) := by
  have lasting : Lasting prop db (db.entered ref obj) := by
    intro other another there
    dsimp only [entered]
    rw [Dict.get_set]
    split
    · next same =>
        rw [same, stored] at there
        cases there
        exact ⟨_, rfl, BACnetObject.lasts_attached obj true⟩
    · exact ⟨another, there, .refl another⟩
  have present : ∀ objectId other, (db.entered ref obj).get objectId = some other
      → db.get objectId = some other ∨ some (ref, obj.objectId) = some (other, objectId) := by
    intro objectId other found
    dsimp only [entered, get] at found
    rw [Dict.get_set] at found
    split at found
    · next same =>
        cases found
        exact Or.inr (by rw [same])
    · exact Or.inl found
  refine ⟨⟨?_, filed.types.insert obj.objectId ref⟩, lasting, present⟩
  intro objectId other found
  rcases present objectId other found with there | brought
  · obtain ⟨old, stored', same⟩ := filed.here objectId other there
    obtain ⟨new, there', lasts⟩ := lasting other old stored'
    exact ⟨new, there', lasts.objectId.trans same⟩
  · obtain ⟨rfl, rfl⟩ := Prod.mk.inj (Option.some.inj brought)
    obtain ⟨new, there', lasts⟩ := lasting ref obj stored
    exact ⟨new, there', lasts.objectId⟩

/-- The object and its reference, if `add` takes it. -/
def admits (db : ObjectDatabase) (ref : Nat) (obj : BACnetObject) : Option (Nat × BACnetObject) :=
  if db.Addable obj then some (ref, obj) else none

theorem admits_eq {ref other obj another} (admitted : db.admits ref obj = some (other, another))
    : other = ref ∧ another = obj := by
  unfold admits at admitted
  split at admitted
  · obtain ⟨rfl, rfl⟩ := Prod.mk.inj (Option.some.inj admitted)
    exact ⟨rfl, rfl⟩
  · cases admitted

def filing (entry : Nat × BACnetObject) : Nat × ObjectIdentifier := (entry.1, entry.2.objectId)

/-- `add` brings the object if it passes the checks. -/
theorem progress_add {ref obj} (filed : db.Filed) (quiet : Quiet prop)
    (stored : db.heap.get ref = some obj)
    : Progress prop ((db.admits ref obj).map filing) db (add ref db).2 := by
  rw [add_eq stored]
  unfold admits
  split
  · exact (progress_entered filed stored).revised quiet
  · exact .refl filed

/-- A new object on the heap is in no database. -/
theorem progress_allocate (filed : db.Filed) (obj : BACnetObject)
    : Progress prop brings db (db.allocate obj) := by
  have lasting : Lasting prop db (db.allocate obj) := by
    intro ref other stored
    have old : ref ≠ db.fresh := by
      rintro rfl
      rw [get_fresh] at stored
      cases stored
    exact ⟨other, by rw [allocate, Dict.get_set_ne old, stored], .refl other⟩
  exact (Progress.refl filed).then rfl rfl lasting

/-- `remove` takes an object out of the indices and detaches it. -/
theorem progress_remove (filed : db.Filed) (quiet : Quiet prop) (objectId)
    : Progress prop brings db (remove objectId db).2 := by
  have forgets (name : Value) : Progress prop brings db (forgetName name objectId db).2 := by
    have names (names : Dict Value ObjectIdentifier)
        : Progress prop brings db { db with names } :=
      (Progress.refl filed).then rfl rfl (.refl _)
    unfold forgetName
    split
    · exact .refl filed
    · split
      · exact .refl filed
      · split
        · exact names _
        · exact .refl filed
  have takes {middle : ObjectDatabase} (progress : Progress prop brings db middle)
      : Progress prop brings db ((middle.get objectId).elim
          { middle with
            typeIndex := middle.typeIndex.remove objectId.objectType objectId
            objects := middle.objects.pop objectId }
          fun ref => modify { middle with
            typeIndex := middle.typeIndex.remove objectId.objectType objectId
            objects := middle.objects.pop objectId } ref fun obj => { obj with attached := false })
      := by
    have taken : Progress prop brings db { middle with
        typeIndex := middle.typeIndex.remove objectId.objectType objectId
        objects := middle.objects.pop objectId } := by
      have kept : ∀ other ref, (middle.objects.pop objectId).get other = some ref
          → middle.get other = some ref := by
        intro other ref found
        rw [Dict.get_pop] at found
        split at found
        · cases found
        · exact found
      refine ⟨⟨fun other ref found => progress.filed.here other ref (kept other ref found),
        progress.filed.types.remove objectId⟩, progress.lasting,
        fun other ref found => progress.present other ref (kept other ref found)⟩
    cases middle.get objectId with
    | none => exact taken
    | some ref =>
      exact taken.then (objects_modify ..) (typeIndex_modify ..)
        (lasting_modify fun obj _ => BACnetObject.lasts_attached obj false)
  have removes (name : Value) : Progress prop brings db (removeObject objectId name db).2 := by
    unfold removeObject
    have forgotten := forgets name
    rw [Stateful.bind_apply]
    rcases outcome : forgetName name objectId db with ⟨_ | _, middle⟩
    · rwa [outcome] at forgotten
    · rw [outcome] at forgotten
      dsimp only
      rw [Stateful.bind_apply, Stateful.modifies_apply]
      exact (takes forgotten).revised quiet
  unfold remove
  cases db.get objectId with
  | none => exact .refl filed
  | some ref =>
    dsimp only
    split
    · exact .refl filed
    · exact removes _

/-- A write that is refused changes nothing. -/
theorem writeProperty_refused {ref} {written : PropertyIdentifier} {value priority arrayIndex now}
    (refused : ∀ obj ∈ db.heap.get ref, (obj.writable written).toOption = none)
    : (writeProperty ref written value priority arrayIndex now db).2 = db := by
  unfold writeProperty
  cases stored : db.heap.get ref with
  | none => rfl
  | some obj =>
    dsimp only [writeTo]
    rw [Stateful.bind_apply, Stateful.lift_apply]
    cases obj.checkWrite written value with
    | error raised => rfl
    | ok checked =>
      dsimp only
      rw [Stateful.bind_apply, Stateful.lift_apply]
      cases accepted : obj.writable written with
      | error raised => rfl
      | ok definition =>
        have none := refused obj stored
        rw [accepted] at none
        cases none

/-- The object that a step makes present, and its reference. -/
def entering (registry : List ObjectClass) (db : ObjectDatabase)
    : Event → Option (Nat × BACnetObject)
  | .createObject objectType instanceNumber initialValues =>
    (BACnetObject.create registry objectType (instanceNumber.getD (db.nextInstance objectType))
      initialValues).toOption.bind (db.admits db.fresh)
  | .add ref => (db.heap.get ref).bind (db.admits ref)
  | _ => none

/-- The step is no write to the property, or one that the object does not accept. -/
def Spares (prop : PropertyIdentifier) (db : ObjectDatabase) : Event → Prop
  | .writeProperty ref written _ _ _ _ =>
    written = prop → ∀ obj ∈ db.heap.get ref, (obj.writable written).toOption = none
  | _ => True

instance (event : Event) : Decidable (Spares prop db event) := by
  cases event <;> unfold Spares <;> infer_instance

/-- Every step, one case for each kind of it: the objects that are present afterwards were there,
or are the one that enters.
-/
theorem progress_step (filed : db.Filed) (quiet : Quiet prop) {event}
    (spares : Spares prop db event) (moved : step registry db event = some next)
    : Progress prop ((db.entering registry event).map filing) db next := by
  cases event with
  | createObject objectType instanceNumber initialValues =>
    cases moved
    dsimp only [entering, createObject]
    cases BACnetObject.create registry objectType
        (instanceNumber.getD (db.nextInstance objectType)) initialValues with
    | error raised => exact .refl filed
    | ok obj =>
      have allocated := @progress_allocate db prop none filed obj
      have stored : (db.allocate obj).heap.get db.fresh = some obj := Dict.get_set_self ..
      have added := progress_add allocated.filed quiet stored
      refine ⟨added.filed, allocated.lasting.trans added.lasting, ?_⟩
      intro objectId ref found
      rcases added.present objectId ref found with there | brought
      · exact Or.inl there
      · exact Or.inr brought
  | constructed cls instanceNumber initialProperties =>
    cases moved
    exact progress_allocate filed _
  | add ref =>
    cases moved
    dsimp only [entering]
    cases stored : db.heap.get ref with
    | none =>
      have unchanged : (add ref db).2 = db := by
        unfold add
        rw [stored]
      rw [unchanged]
      exact .refl filed
    | some obj => exact progress_add filed quiet stored
  | remove objectId =>
    cases moved
    exact progress_remove filed quiet objectId
  | writeProperty ref written value priority arrayIndex now =>
    cases moved
    by_cases same : written = prop
    · rw [writeProperty_refused (spares same)]
      exact .refl filed
    · exact (Progress.refl filed).untouched untouched_writeProperty
        (quiet.write (Ne.symm same) ref)
  | recorded operation target =>
    cases moved
    exact (Progress.refl filed).untouched
      ((untouched_recordOperation operation target).final (.refl db)) quiet.log

/-- No step writes a property that every class declares read-only. -/
theorem spares_of_fixed (isFixed : prop ∈ fixedProperties) (event : Event)
    : Spares prop db event := by
  cases event with
  | writeProperty ref written value priority arrayIndex now =>
    rintro rfl obj _
    cases accepted : obj.writable written with
    | error raised => rfl
    | ok definition => exact absurd isFixed (not_fixed_of_writable accepted)
  | createObject | constructed | add | remove | recorded => trivial

/-- A database stays in order, whatever happens to it. -/
theorem Filed.step (filed : db.Filed) {event} (moved : step registry db event = some next)
    : next.Filed := by
  have quiet : Quiet .objectType := by decide
  exact (progress_step filed quiet (spares_of_fixed (by decide) event) moved).filed

theorem lasts_of_entering (filed : db.Filed) (quiet : Quiet prop) {event}
    (moved : step registry db event = some next) {ref obj}
    (enters : db.entering registry event = some (ref, obj))
    : ∃ other, next.heap.get ref = some other ∧ Lasts prop obj other := by
  cases event with
  | createObject objectType instanceNumber initialValues =>
    cases moved
    dsimp only [entering, createObject] at enters ⊢
    cases created : BACnetObject.create registry objectType
        (instanceNumber.getD (db.nextInstance objectType)) initialValues with
    | error raised =>
      rw [created] at enters
      cases enters
    | ok obj =>
      rw [created] at enters
      obtain ⟨rfl, rfl⟩ := admits_eq enters
      have stored : (db.allocate obj).heap.get db.fresh = some obj := Dict.get_set_self ..
      have allocated := @progress_allocate db prop none filed obj
      exact (progress_add allocated.filed quiet stored).lasting _ _ stored
  | add ref' =>
    have progress := @progress_step db prop registry next filed quiet (.add ref') trivial moved
    obtain ⟨_, stored, admitted⟩ := Option.bind_eq_some_iff.mp enters
    obtain ⟨rfl, rfl⟩ := admits_eq admitted
    exact progress.lasting _ _ stored
  | constructed | remove | writeProperty | recorded => cases enters

/-- Where an object that is present after a step comes from: it was there, or it enters. -/
theorem origin_of_present (filed : db.Filed) (quiet : Quiet prop) {event}
    (spares : Spares prop db event) (moved : step registry db event = some next) {objectId ref}
    (found : next.get objectId = some ref)
    : ∃ obj other, obj.objectId = objectId ∧ next.heap.get ref = some other ∧ Lasts prop obj other
        ∧ ((db.get objectId = some ref ∧ db.heap.get ref = some obj)
          ∨ db.entering registry event = some (ref, obj)) := by
  have progress := progress_step filed quiet spares moved
  rcases progress.present objectId ref found with there | brought
  · obtain ⟨obj, stored, same⟩ := filed.here objectId ref there
    obtain ⟨other, stored', lasts⟩ := progress.lasting ref obj stored
    exact ⟨obj, other, same, stored', lasts, Or.inl ⟨there, stored⟩⟩
  · obtain ⟨⟨_, obj⟩, enters, same⟩ := Option.map_eq_some_iff.mp brought
    obtain ⟨rfl, rfl⟩ := Prod.mk.inj same
    obtain ⟨other, stored, lasts⟩ := lasts_of_entering filed quiet moved enters
    exact ⟨obj, other, rfl, stored, lasts, Or.inr enters⟩

end ObjectDatabase

end BacPy
