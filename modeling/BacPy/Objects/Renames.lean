import BacPy.Objects.NameIndex

/-! Writes to Object_Name change the index of names first and the object last. The runs in which
every rename gets that far are the ones that keep the database well formed.
-/

namespace BacPy

open Library
open BACnetObject (coerceValue storeValue get_set_ne checkWrite)

namespace ObjectDatabase

variable {db : ObjectDatabase} {ref : Nat} {obj : BACnetObject} {value : Value}

/-- The revision of the device, if there is one, is a number that can be counted up. -/
def revisionCounts (db : ObjectDatabase) : Bool :=
  match db.deviceObj.bind db.heap.get with
  | none => true
  | some device => ((device.stored .databaseRevision).getD (.int 0)).isNumber

/-- A write of a name to an object of the database is accepted: the class has a writable name,
and no other object has this one.
-/
def Renames (db : ObjectDatabase) (obj : BACnetObject) (value : Value) : Prop :=
  obj.attached = true ∧ (obj.writable .objectName).isOk
    ∧ (validateNameUnique value (some obj.objectId) db).1 = .ok ()

instance (db : ObjectDatabase) (obj : BACnetObject) (value : Value)
    : Decidable (db.Renames obj value) :=
  inferInstanceAs (Decidable (_ ∧ _))

/-- What an accepted rename asks for can be done to the end, and gives the object a name. A
rename that stops half-way is harmless when the object already has the name.
-/
def RenameCompletes (db : ObjectDatabase) (obj : BACnetObject) (value : Value)
    (arrayIndex : Option Nat)
    : Prop :=
  if arrayIndex = none ∧ db.revisionCounts then value ≠ .none
  else obj.get .objectName ≠ .none ∧ (obj.get .objectName).hashKey = value.hashKey

instance (db : ObjectDatabase) (obj : BACnetObject) (value : Value) (arrayIndex : Option Nat)
    : Decidable (db.RenameCompletes obj value arrayIndex) :=
  inferInstanceAs (Decidable (if arrayIndex = none ∧ db.revisionCounts then value ≠ .none
    else obj.get .objectName ≠ .none ∧ (obj.get .objectName).hashKey = value.hashKey))

-- The index of names

/-- The database after the index has been updated for a rename. -/
def reindexed (db : ObjectDatabase) (obj : BACnetObject) (key : Value) : ObjectDatabase :=
  { db with names := (db.namesWithout obj).set key obj.objectId }

/-- A new name that passes the check has a key that is free, or belongs to the object itself. -/
theorem validated (valid : (validateNameUnique value (some obj.objectId) db).1 = .ok ())
    : ∃ key, value.hashKey = .ok key
        ∧ ∀ objectId, db.names.get key = some objectId → objectId = obj.objectId := by
  unfold validateNameUnique at valid
  rw [Stateful.consults_apply] at valid
  cases hashed : value.hashKey with
  | error raised => simp [hashed, bind, Except.bind] at valid
  | ok key =>
    refine ⟨key, rfl, ?_⟩
    intro objectId taken
    simp only [hashed, bind, Except.bind, taken] at valid
    by_contra different
    simp [different, propertyError] at valid

theorem updateNameIndex_eq (sound : db.Sound) (found : db.object? obj.objectId = some obj) {key}
    (hashed : value.hashKey = .ok key)
    : updateNameIndex obj.objectId (obj.get .objectName) value db
      = (.ok (), db.reindexed obj key) := by
  unfold updateNameIndex
  rw [Stateful.bind_apply, forgetName_eq sound found]
  simp only [enterName, hashed]
  rfl

/-- The object after the write: its identifying properties and its name. -/
structure Renamed (before : BACnetObject) (name : Value) (after : BACnetObject) : Prop where
  objectId : after.objectId = before.objectId
  attached : after.attached = before.attached
  identifier : after.get .objectIdentifier = before.get .objectIdentifier
  objectType : after.get .objectType = before.get .objectType
  name : after.get .objectName = name

/-- With the index updated and the object in its final state, the database is sound if the
object has got the name.
-/
theorem Sound.renamed (sound : db.Sound) (stored : db.heap.get ref = some obj)
    (attached : obj.attached = true) {key name after}
    (free : ∀ objectId, db.names.get key = some objectId → objectId = obj.objectId)
    (renamed : Renamed obj name after) (named : Named after key)
    : ((db.reindexed obj key).withObject ref after).Sound := by
  have there := sound.attached ref obj stored attached
  have found : db.object? obj.objectId = some obj := (object?_eq there).trans stored
  have names : ∀ other objectId, ((db.namesWithout obj).set key obj.objectId).get other
      = some objectId ↔ (other = key ∧ objectId = obj.objectId)
        ∨ (db.names.get other = some objectId ∧ objectId ≠ obj.objectId) := by
    intro other objectId
    rw [Dict.get_set]
    by_cases same : other = key
    · subst same
      rw [if_pos rfl]
      constructor
      · intro equal
        exact Or.inl ⟨rfl, (Option.some.inj equal).symm⟩
      · rintro (⟨_, rfl⟩ | ⟨leads, different⟩)
        · rfl
        · exact absurd (free objectId leads) different
    · rw [if_neg same, get_namesWithout sound found]
      simp [same]
  have elsewhere : ∀ objectId, objectId ≠ obj.objectId → db.objects.get objectId ≠ some ref := by
    intro objectId different stored'
    obtain ⟨other, there', identifier, _⟩ := sound.here objectId ref stored'
    cases stored.symm.trans there'
    exact different identifier.symm
  have object?_after : ∀ objectId, ((db.reindexed obj key).withObject ref after).object? objectId
      = if objectId = obj.objectId then some after else db.object? objectId := by
    intro objectId
    have sameObjects : (db.reindexed obj key).objects = db.objects := rfl
    rw [object?_withObject, sameObjects]
    by_cases same : objectId = obj.objectId
    · subst same
      rw [if_pos there, if_pos rfl]
    · rw [if_neg (elsewhere objectId same), if_neg same]
      rfl
  refine ⟨⟨?_, sound.types, ?_, ?_⟩, ?_, ?_⟩
  · intro objectId other stored'
    obtain ⟨another, there', identified⟩ := sound.identified objectId other stored'
    dsimp only [withObject]
    rw [Dict.get_set]
    split
    · next here =>
        subst here
        cases stored.symm.trans there'
        exact ⟨after, rfl, renamed.identifier ▸ identified.identifier,
          renamed.objectType ▸ identified.objectType⟩
    · exact ⟨another, there', identified⟩
  · intro objectId other found' hasName
    rw [object?_after] at found'
    split at found'
    · next same =>
        cases found'
        exact ⟨key, named, (names key objectId).mpr (Or.inl ⟨rfl, same⟩)⟩
    · next different =>
        obtain ⟨another, hashed, leads⟩ := sound.found objectId other found' hasName
        exact ⟨another, hashed, (names another objectId).mpr (Or.inr ⟨leads, different⟩)⟩
  · intro other objectId leads
    rcases (names other objectId).mp leads with ⟨rfl, rfl⟩ | ⟨leads', different⟩
    · exact ⟨after, by rw [object?_after, if_pos rfl], named⟩
    · obtain ⟨another, found', hashed⟩ := sound.current other objectId leads'
      exact ⟨another, by rw [object?_after, if_neg different]; exact found', hashed⟩
  · intro objectId other stored'
    obtain ⟨another, there', identifier, attached'⟩ := sound.here objectId other stored'
    dsimp only [withObject]
    rw [Dict.get_set]
    split
    · next here =>
        subst here
        cases stored.symm.trans there'
        exact ⟨after, rfl, renamed.objectId.trans identifier, renamed.attached.trans attached'⟩
    · exact ⟨another, there', identifier, attached'⟩
  · intro other another kept attached'
    dsimp only [withObject] at kept ⊢
    rw [Dict.get_set] at kept
    split at kept
    · next here =>
        cases kept
        rw [renamed.objectId, here]
        exact there
    · exact sound.attached other another kept attached'

/-- Otherwise the new name in the index is stale. -/
theorem named_of_renamed (sound : db.Sound) (stored : db.heap.get ref = some obj)
    (attached : obj.attached = true) {key after}
    (wellFormed : ((db.reindexed obj key).withObject ref after).WellFormed)
    : Named after key := by
  have there : (db.reindexed obj key).objects.get obj.objectId = some ref :=
    sound.attached ref obj stored attached
  obtain ⟨other, found, named⟩ := wellFormed.current key obj.objectId
    (by simp [withObject, reindexed])
  rw [object?_withObject, if_pos there] at found
  cases found
  exact named

-- The write

/-- Two databases with the same indices have the same ones after the same change. -/
theorem SameIndices.withObject {before after} (same : SameIndices before after) (ref : Nat)
    (obj : BACnetObject)
    : SameIndices (before.withObject ref obj) (after.withObject ref obj) where
  objects := same.objects
  names := same.names
  typeIndex := same.typeIndex
  forth other found stored := by
    dsimp only [ObjectDatabase.withObject] at stored ⊢
    rw [Dict.get_set] at stored ⊢
    split
    · next here =>
        rw [if_pos here] at stored
        exact ⟨obj, rfl, Option.some.inj stored ▸ .refl obj⟩
    · next elsewhere =>
        rw [if_neg elsewhere] at stored
        exact same.forth other found stored
  back other found stored := by
    dsimp only [ObjectDatabase.withObject] at stored ⊢
    rw [Dict.get_set] at stored ⊢
    split
    · next here =>
        rw [if_pos here] at stored
        exact ⟨obj, rfl, Option.some.inj stored ▸ .refl obj⟩
    · next elsewhere =>
        rw [if_neg elsewhere] at stored
        exact same.back other found stored

theorem plusOne_isOk (current : Value) : (plusOne current).isOk = current.isNumber := by
  unfold plusOne Value.isNumber
  cases current.asInt? <;> cases current.asFloat? <;> rfl

/-- The revision is counted up exactly if it is a number. -/
theorem incrementDatabaseRevision_isOk (db)
    : (incrementDatabaseRevision db).1.isOk = db.revisionCounts := by
  unfold incrementDatabaseRevision revisionCounts onObject
  cases db.deviceObj with
  | none => rfl
  | some ref =>
    dsimp only [Option.bind_some]
    cases db.heap.get ref with
    | none => rfl
    | some device =>
      dsimp only
      rw [← plusOne_isOk]
      cases plusOne ((device.stored .databaseRevision).getD (.int 0)) <;> rfl

/-- The name is stored when it is written as a whole. -/
theorem storeValue_objectName {before} (definition : PropertyDefinition) (priority : Option Nat)
    (now : Float)
    : Renamed before (coerceValue definition value)
        (storeValue definition .objectName value priority none now before).2 := by
  have plain : before.commandsOf .objectName = none := rfl
  rw [BACnetObject.storeValue_whole plain]
  exact ⟨rfl, rfl, get_set_ne (by decide) _, get_set_ne (by decide) _,
    BACnetObject.get_set_self _ (by decide)⟩

/-- A name has no elements that could be written. -/
theorem storeValue_objectName_element {before} (definition : PropertyDefinition)
    (priority : Option Nat) (now : Float) {index}
    (notList : (before.get .objectName).asList? = none)
    : (storeValue definition .objectName value priority (some index) now before).2
      = before := by
  have plain : before.commandsOf .objectName = none := rfl
  rw [BACnetObject.storeValue_element plain, BACnetObject.writeArrayElement, notList]
  rfl

theorem asList?_name (sound : db.Sound) (found : db.object? obj.objectId = some obj)
    : (obj.get .objectName).asList? = none := by
  by_cases unnamed : obj.get .objectName = .none
  · rw [unnamed]
    rfl
  · obtain ⟨key, named, _⟩ := sound.found obj.objectId obj found unnamed
    cases list : (obj.get .objectName).asList? with
    | none => rfl
    | some items =>
      have hashed := named.hashed
      rw [Value.asList?_eq_some.mp list] at hashed
      cases hashed

theorem rename_eq (sound : db.Sound) (found : db.object? obj.objectId = some obj)
    (valid : (validateNameUnique value (some obj.objectId) db).1 = .ok ()) {key}
    (hashed : value.hashKey = .ok key)
    : rename obj value db = incrementDatabaseRevision (db.reindexed obj key) := by
  have looked : validateNameUnique value (some obj.objectId) db
      = ((validateNameUnique value (some obj.objectId) db).1, db) := rfl
  unfold rename
  rw [Stateful.bind_apply, looked, valid]
  dsimp only
  rw [Stateful.bind_apply, updateNameIndex_eq sound found hashed]

/-- After an accepted rename the index has the new name, and the object has it too if the write
was of the whole property and the revision could be counted up.
-/
theorem renamed_of_writeTo (sound : db.Sound) (stored : db.heap.get ref = some obj)
    (renames : db.Renames obj value) (priority arrayIndex : Option Nat) (now : Float) {key}
    (hashed : value.hashKey = .ok key)
    : ∃ definition after, SameIndices ((db.reindexed obj key).withObject ref after)
          (writeTo ref obj .objectName value priority arrayIndex now db).2
        ∧ Renamed obj
          (if arrayIndex = none ∧ db.revisionCounts then coerceValue definition value
            else obj.get .objectName)
          after := by
  obtain ⟨attached, isWritable, valid⟩ := renames
  have found := object?_of_attached sound stored attached
  have stored' : (db.reindexed obj key).heap.get ref = some obj := stored
  have counts := incrementDatabaseRevision_isOk (db.reindexed obj key)
  have sameCounts : (db.reindexed obj key).revisionCounts = db.revisionCounts := rfl
  rw [sameCounts] at counts
  have kept : SameIndices (db.reindexed obj key)
      (incrementDatabaseRevision (db.reindexed obj key)).2 :=
    keeps_incrementDatabaseRevision.final (.refl _)
  have unchanged : SameIndices ((db.reindexed obj key).withObject ref obj)
      (incrementDatabaseRevision (db.reindexed obj key)).2 :=
    (sameIndices_withObject stored' (.refl obj)).symm.trans kept
  have accepted : obj.checkWrite .objectName value = .ok () := by
    unfold checkWrite
    cases obj.cls.writeCheck <;> rfl
  cases definition? : obj.writable .objectName with
  | error raised =>
    rw [definition?] at isWritable
    cases isWritable
  | ok definition =>
    have written : writeTo ref obj .objectName value priority arrayIndex now db
        = (rename obj value >>= fun _ => onObject ref
          (storeValue definition .objectName value priority arrayIndex now)) db := by
      unfold writeTo
      rw [Stateful.bind_apply, Stateful.lift_apply, accepted]
      dsimp only
      rw [Stateful.bind_apply, Stateful.lift_apply, definition?]
      simp only [Stateful.when, attached, and_self, if_true]
    rw [written, Stateful.bind_apply, rename_eq sound found valid hashed]
    refine ⟨definition, ?_⟩
    rcases counted : incrementDatabaseRevision (db.reindexed obj key) with ⟨raised | done, final⟩
    · rw [counted] at counts unchanged
      have stuck : db.revisionCounts = false := counts.symm
      refine ⟨obj, unchanged, ?_⟩
      rw [stuck]
      exact ⟨rfl, rfl, rfl, rfl, by simp⟩
    · rw [counted] at counts kept
      have countsUp : db.revisionCounts = true := counts.symm
      obtain ⟨before, there, same⟩ := kept.forth ref obj stored'
      have final_ : (onObject ref (storeValue definition .objectName value priority
          arrayIndex now) final).2 = final.withObject ref
            (storeValue definition .objectName value priority arrayIndex now
              before).2 := by
        unfold onObject
        rw [there]
        rfl
      dsimp only
      rw [final_]
      refine ⟨_, kept.withObject ref _, ?_⟩
      cases arrayIndex with
      | none =>
        have renamed : Renamed before (coerceValue definition value) _ :=
          storeValue_objectName definition priority now
        rw [if_pos ⟨rfl, countsUp⟩]
        exact ⟨renamed.objectId.trans same.objectId, renamed.attached.trans same.attached,
          renamed.identifier.trans same.identifier,
          renamed.objectType.trans same.objectType, renamed.name⟩
      | some index =>
        have notList : (before.get .objectName).asList? = none := by
          rw [same.name]
          exact asList?_name sound found
        rw [storeValue_objectName_element definition priority now notList]
        exact ⟨same.objectId, same.attached, same.identifier, same.objectType, by
          simpa using same.name⟩

/-- An accepted rename keeps the database well formed exactly if it completes. -/
theorem wellFormed_rename (sound : db.Sound) (stored : db.heap.get ref = some obj)
    (renames : db.Renames obj value) (priority arrayIndex : Option Nat) (now : Float)
    : ((writeTo ref obj .objectName value priority arrayIndex now db).2.WellFormed
          ↔ db.RenameCompletes obj value arrayIndex)
        ∧ (db.RenameCompletes obj value arrayIndex
          → (writeTo ref obj .objectName value priority arrayIndex now db).2.Sound) := by
  obtain ⟨key, hashed, free⟩ := validated renames.2.2
  obtain ⟨definition, after, same, renamed⟩ :=
    renamed_of_writeTo sound stored renames priority arrayIndex now hashed
  have named : Named after key ↔ db.RenameCompletes obj value arrayIndex := by
    unfold RenameCompletes
    by_cases completes : arrayIndex = none ∧ db.revisionCounts
    · rw [if_pos completes] at renamed ⊢
      constructor
      · intro named unnamed
        apply named.present
        rw [renamed.name]
        exact Value.coerceValue_eq_none.mpr unnamed
      · intro present
        constructor
        · rw [renamed.name]
          exact fun unnamed => present (Value.coerceValue_eq_none.mp unnamed)
        · rw [renamed.name, Value.hashKey_coerceValue, hashed]
    · rw [if_neg completes] at renamed ⊢
      constructor
      · rintro ⟨present, hashed'⟩
        rw [renamed.name] at present hashed'
        exact ⟨present, hashed'.trans hashed.symm⟩
      · rintro ⟨present, hashed'⟩
        exact ⟨renamed.name ▸ present, by rw [renamed.name, hashed', hashed]⟩
  have sound' : Named after key
      → (writeTo ref obj .objectName value priority arrayIndex now db).2.Sound :=
    fun named => (sound.renamed stored renames.1 free renamed named).transport same
  refine ⟨⟨?_, fun completes => (sound' (named.mpr completes)).toWellFormed⟩,
    fun completes => sound' (named.mpr completes)⟩
  intro wellFormed
  exact named.mp (named_of_renamed sound stored renames.1 (wellFormed.transport same.symm))

end ObjectDatabase

end BacPy
