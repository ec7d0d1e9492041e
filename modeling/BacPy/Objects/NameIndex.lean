import BacPy.Objects.WellFormed

/-! Objects enter, leave and are renamed: when the index of names follows, and the runs in which
it always does.
-/

namespace BacPy

open Library

namespace Value

/-- A value that is coerced stays equal to itself, so a dictionary finds it by the same key. -/
theorem hashKey_coerceValue (definition : PropertyDefinition) (value : Value)
    : (BACnetObject.coerceValue definition value).hashKey = value.hashKey := by
  unfold BACnetObject.coerceValue
  split
  · next type number _ =>
      split
      · next accepted =>
          have positive : 0 ≤ number := by
            have both := accepted
            simp only [EnumType.accepts, decide_eq_true_eq] at both
            exact both.1
          simp only [hashKey, normal, Int.toNat_of_nonneg positive]
      · rfl
  · simp only [hashKey, normal]
  · rfl

theorem coerceValue_eq_none {definition : PropertyDefinition} {value}
    : BACnetObject.coerceValue definition value = .none ↔ value = .none := by
  unfold BACnetObject.coerceValue
  split
  · split <;> simp
  · simp
  · rfl

end Value

namespace ObjectDatabase

variable {db : ObjectDatabase} {ref : Nat} {obj : BACnetObject}

-- Objects enter

/-- An object passes the checks of `add`. -/
def Addable (db : ObjectDatabase) (obj : BACnetObject) : Prop := (checkAdd obj db).1 = .ok ()

instance (db : ObjectDatabase) (obj : BACnetObject) : Decidable (db.Addable obj) :=
  inferInstanceAs (Decidable (_ = _))

/-- The checks of `add`: the identifier is new, and so is the name, if there is one. -/
theorem addable_iff
    : db.Addable obj
      ↔ db.objects.get obj.objectId = none
        ∧ (obj.get .objectName = .none
          ∨ ∃ key, Named obj key ∧ db.names.get key = none) := by
  unfold Addable checkAdd
  rw [Stateful.consults_apply]
  dsimp only
  cases stored : db.get obj.objectId with
  | some other => simp [get] at stored; simp [stored]
  | none =>
    have absent : db.objects.get obj.objectId = none := stored
    by_cases unnamed : obj.get .objectName = .none
    · simp [absent, unnamed]
    · cases hashed : (obj.get .objectName).hashKey with
      | error raised =>
        simp only [absent, unnamed, bind, Except.bind, true_and, false_or]
        constructor
        · simp
        · rintro ⟨key, named, _⟩
          exact absurd (hashed.symm.trans named.hashed) (by simp)
      | ok key =>
        simp only [absent, unnamed, bind, Except.bind]
        cases taken : db.names.get key with
        | none => simpa using ⟨key, ⟨unnamed, hashed⟩, taken⟩
        | some other =>
          simp only [Option.isSome_none, Option.isSome_some, if_true, if_false, true_and,
            false_or, Bool.false_eq_true]
          constructor
          · simp
          · rintro ⟨another, named, free⟩
            cases hashed.symm.trans named.hashed
            rw [taken] at free
            cases free

def entered (db : ObjectDatabase) (ref : Nat) (obj : BACnetObject) : ObjectDatabase where
  heap := db.heap.set ref { obj with attached := true }
  objects := db.objects.set obj.objectId ref
  names :=
    match (obj.get .objectName).hashKey with
    | .ok key => if obj.get .objectName = .none then db.names else db.names.set key obj.objectId
    | .error _ => db.names
  typeIndex := db.typeIndex.insert obj.objectId.objectType obj.objectId ref
  deviceObj := if obj.objectId.objectType = .device then some ref else db.deviceObj

/-- An object that passes the checks enters all indices. -/
theorem enter_eq (addable : db.Addable obj) (stored : db.heap.get ref = some obj)
    : enter ref obj db = (.ok (), db.entered ref obj) := by
  unfold enter entered
  rw [Stateful.bind_apply, Stateful.modifies_apply]
  dsimp only
  rw [Stateful.bind_apply]
  rcases (addable_iff.mp addable).2 with unnamed | ⟨key, named, _⟩
  · simp only [Stateful.when, unnamed, ne_eq, not_true_eq_false, if_false, if_true,
      Stateful.pure_apply, Stateful.modifies_apply, Value.hashKey]
    split <;> simp [modify, stored]
  · simp only [Stateful.when, named.present, ne_eq, not_false_eq_true, if_true, if_false,
      enterName, named.hashed, Stateful.modifies_apply]
    split <;> simp [modify, stored]

/-- An object that passes the checks enters, and the revision is counted up. -/
theorem add_entered (stored : db.heap.get ref = some obj) (addable : db.Addable obj)
    : add ref db = incrementDatabaseRevision (db.entered ref obj) := by
  have looked : checkAdd obj db = ((checkAdd obj db).1, db) := rfl
  unfold add
  rw [stored]
  dsimp only [add.addObject]
  rw [Stateful.bind_apply, looked, addable]
  dsimp only
  rw [Stateful.bind_apply, enter_eq addable stored]

/-- What `add` does: nothing, or the object enters and the revision is counted up. -/
theorem add_eq (stored : db.heap.get ref = some obj)
    : (add ref db).2
      = if db.Addable obj then (incrementDatabaseRevision (db.entered ref obj)).2 else db := by
  by_cases addable : db.Addable obj
  · rw [add_entered stored addable, if_pos addable]
  · have looked : checkAdd obj db = ((checkAdd obj db).1, db) := rfl
    unfold add
    rw [stored, if_neg addable]
    dsimp only [add.addObject]
    rw [Stateful.bind_apply, looked]
    cases refused : (checkAdd obj db).1 with
    | ok done => exact absurd refused addable
    | error raised => rfl

/-- An object that is attached cannot be added again. -/
theorem detached_of_addable (sound : db.Sound) (stored : db.heap.get ref = some obj)
    (addable : db.Addable obj)
    : obj.attached = false := by
  rw [Bool.eq_false_iff]
  intro attached
  have there := sound.attached ref obj stored attached
  rw [(addable_iff.mp addable).1] at there
  cases there

/-- The indices follow when the object that enters is identified by its properties. -/
theorem Sound.entered (sound : db.Sound) (stored : db.heap.get ref = some obj)
    (addable : db.Addable obj) (identified : Identified obj.objectId obj)
    : (db.entered ref obj).Sound := by
  have outside := outside_of_detached sound stored (detached_of_addable sound stored addable)
  obtain ⟨absent, nameFree⟩ := addable_iff.mp addable
  have elsewhere : ∀ objectId other, db.objects.get objectId = some other → other ≠ ref :=
    fun objectId other found same => outside objectId (same ▸ found)
  have newObject : (db.entered ref obj).object? obj.objectId
      = some { obj with attached := true } := by
    simp [object?, get, ObjectDatabase.entered]
  have oldObject : ∀ objectId, objectId ≠ obj.objectId
      → (db.entered ref obj).object? objectId = db.object? objectId := by
    intro objectId different
    rw [object?, object?, get, get]
    dsimp only [ObjectDatabase.entered]
    rw [Dict.get_set_ne different]
    cases found : db.objects.get objectId with
    | none => rfl
    | some other => simp [Dict.get_set_ne (elsewhere objectId other found)]
  have names : ∀ key objectId, (db.entered ref obj).names.get key = some objectId
      ↔ (objectId = obj.objectId ∧ Named obj key) ∨ db.names.get key = some objectId := by
    intro key objectId
    dsimp only [ObjectDatabase.entered]
    rcases nameFree with unnamed | ⟨free, named, absentName⟩
    · have notNamed : ¬ Named obj key := fun named => named.present unnamed
      simp [unnamed, Value.hashKey, notNamed]
    · rw [named.hashed]
      simp only [named.present, if_false]
      rw [Dict.get_set]
      by_cases same : key = free
      · subst same
        simp [absentName, named, eq_comm]
      · have notNamed : ¬ Named obj key := by
          intro other
          exact same (Except.ok.inj (other.hashed.symm.trans named.hashed))
        simp [same, notNamed]
  refine ⟨⟨?_, sound.types.insert obj.objectId ref, ?_, ?_⟩, ?_, ?_⟩
  · intro objectId other found
    by_cases same : objectId = obj.objectId
    · subst same
      obtain rfl : ref = other := by simpa [ObjectDatabase.entered] using found
      exact ⟨{ obj with attached := true }, by simp [ObjectDatabase.entered],
        identified.identifier, identified.objectType⟩
    · dsimp only [ObjectDatabase.entered] at found ⊢
      rw [Dict.get_set_ne same] at found
      rw [Dict.get_set_ne (elsewhere objectId other found)]
      exact sound.identified objectId other found
  · intro objectId another found named
    by_cases same : objectId = obj.objectId
    · subst same
      cases newObject.symm.trans found
      rcases nameFree with unnamed | ⟨key, hashed, _⟩
      · exact absurd unnamed named
      · exact ⟨key, ⟨hashed.present, hashed.hashed⟩,
          (names key obj.objectId).mpr (Or.inl ⟨rfl, hashed⟩)⟩
    · rw [oldObject objectId same] at found
      obtain ⟨key, hashed, leads⟩ := sound.found objectId another found named
      exact ⟨key, hashed, (names key objectId).mpr (Or.inr leads)⟩
  · intro key objectId leads
    rcases (names key objectId).mp leads with ⟨rfl, named⟩ | leads
    · exact ⟨{ obj with attached := true }, newObject, named.present, named.hashed⟩
    · obtain ⟨another, found, named⟩ := sound.current key objectId leads
      have different : objectId ≠ obj.objectId := by
        rintro rfl
        obtain ⟨other, there, _⟩ := attached_of_object? sound found
        rw [absent] at there
        cases there
      exact ⟨another, (oldObject objectId different).trans found, named⟩
  · intro objectId other found
    by_cases same : objectId = obj.objectId
    · subst same
      obtain rfl : ref = other := by simpa [ObjectDatabase.entered] using found
      exact ⟨{ obj with attached := true }, by simp [ObjectDatabase.entered], rfl, rfl⟩
    · dsimp only [ObjectDatabase.entered] at found ⊢
      rw [Dict.get_set_ne same] at found
      rw [Dict.get_set_ne (elsewhere objectId other found)]
      exact sound.here objectId other found
  · intro other another found attached
    dsimp only [ObjectDatabase.entered] at found ⊢
    rw [Dict.get_set] at found
    split at found
    · next here =>
        cases found
        rw [here]
        exact Dict.get_set_self ..
    · have there := sound.attached other another found attached
      have different : another.objectId ≠ obj.objectId := by
        intro same
        rw [same, absent] at there
        cases there
      rw [Dict.get_set_ne different]
      exact there

/-- An object with other identifying properties breaks the database it enters. -/
theorem identified_of_entered (wellFormed : (db.entered ref obj).WellFormed)
    : Identified obj.objectId obj := by
  obtain ⟨other, there, identified⟩ := wellFormed.identified obj.objectId ref
    (by simp [entered])
  obtain rfl : { obj with attached := true } = other := by simpa [entered] using there
  exact ⟨identified.identifier, identified.objectType⟩

/-- `add` keeps a sound database sound, exactly if the object is identified or refused. -/
theorem wellFormed_add (sound : db.Sound) (stored : db.heap.get ref = some obj)
    : (add ref db).2.WellFormed ↔ (db.Addable obj → Identified obj.objectId obj) := by
  rw [add_eq stored]
  have counted : SameIndices (db.entered ref obj)
      (incrementDatabaseRevision (db.entered ref obj)).2 :=
    keeps_incrementDatabaseRevision.final (.refl _)
  split
  · next addable =>
      constructor
      · intro wellFormed _
        exact identified_of_entered (wellFormed.transport counted.symm)
      · intro identified
        exact (sound.entered stored addable (identified addable)).toWellFormed.transport counted
  · next refused =>
      exact ⟨fun _ addable => absurd addable refused, fun _ => sound.toWellFormed⟩

/-- With such an object, or when it is refused, `add` keeps the database sound. -/
theorem Sound.add (sound : db.Sound) (stored : db.heap.get ref = some obj)
    (identified : db.Addable obj → Identified obj.objectId obj)
    : (add ref db).2.Sound := by
  rw [add_eq stored]
  split
  · next addable =>
      exact (sound.entered stored addable (identified addable)).transport
        (keeps_incrementDatabaseRevision.final (.refl _))
  · exact sound

-- Objects leave

def namesWithout (db : ObjectDatabase) (obj : BACnetObject) : Dict Value ObjectIdentifier :=
  match (obj.get .objectName).hashKey with
  | .ok key => if obj.get .objectName = .none then db.names else db.names.pop key
  | .error _ => db.names

/-- In a sound database the index has exactly the names of the other objects then. -/
theorem get_namesWithout (sound : db.Sound) (found : db.object? obj.objectId = some obj)
    (key : Value) (objectId)
    : (db.namesWithout obj).get key = some objectId
      ↔ db.names.get key = some objectId ∧ objectId ≠ obj.objectId := by
  have own : ∀ key, db.names.get key = some obj.objectId → Named obj key := by
    intro key leads
    obtain ⟨other, found', named⟩ := sound.current key obj.objectId leads
    cases found.symm.trans found'
    exact named
  unfold namesWithout
  by_cases unnamed : obj.get .objectName = .none
  · have notOwn : db.names.get key = some objectId → objectId ≠ obj.objectId := by
      rintro leads rfl
      exact (own key leads).present unnamed
    simpa [unnamed, Value.hashKey] using notOwn
  · obtain ⟨hashed, named, leads⟩ := sound.found obj.objectId obj found unnamed
    rw [named.hashed]
    simp only [unnamed, if_false]
    rw [Dict.get_pop]
    by_cases same : key = hashed
    · subst same
      rw [if_pos rfl, leads]
      simp [eq_comm]
    · rw [if_neg same]
      constructor
      · intro leads'
        refine ⟨leads', ?_⟩
        rintro rfl
        exact same (Except.ok.inj ((own key leads').hashed.symm.trans named.hashed))
      · exact And.left

/-- Forgetting the name of an object takes its entry out of the index. -/
theorem forgetName_eq (sound : db.Sound) (found : db.object? obj.objectId = some obj)
    : forgetName (obj.get .objectName) obj.objectId db
      = (.ok (), { db with names := db.namesWithout obj }) := by
  unfold forgetName namesWithout
  by_cases unnamed : obj.get .objectName = .none
  · simp [unnamed, Value.hashKey]
  · obtain ⟨key, named, leads⟩ := sound.found obj.objectId obj found unnamed
    simp [unnamed, named.hashed, leads]

def left (db : ObjectDatabase) (ref : Nat) (obj : BACnetObject) : ObjectDatabase where
  heap := db.heap.set ref { obj with attached := false }
  objects := db.objects.pop obj.objectId
  names := db.namesWithout obj
  typeIndex := db.typeIndex.remove obj.objectId.objectType obj.objectId
  deviceObj := db.deviceObj

/-- What `remove` does: nothing, or the object leaves and the revision is counted up. -/
theorem remove_eq (sound : db.Sound) (objectId)
    : (remove objectId db).2 = db
      ∨ ∃ ref obj, db.objects.get objectId = some ref ∧ db.heap.get ref = some obj
        ∧ obj.objectId = objectId
        ∧ (remove objectId db).2 = (incrementDatabaseRevision (db.left ref obj)).2 := by
  unfold remove
  cases stored : db.get objectId with
  | none => exact Or.inl rfl
  | some ref =>
    dsimp only
    split
    · exact Or.inl rfl
    · obtain ⟨obj, there, rfl, attached⟩ := sound.here objectId ref stored
      have found : db.object? obj.objectId = some obj := (object?_eq stored).trans there
      refine Or.inr ⟨ref, obj, stored, there, rfl, ?_⟩
      rw [there]
      dsimp only [Option.map_some, Option.getD_some, removeObject]
      rw [Stateful.bind_apply, forgetName_eq sound found]
      dsimp only
      rw [Stateful.bind_apply, Stateful.modifies_apply]
      dsimp only
      have stored' : ({ db with names := db.namesWithout obj } : ObjectDatabase).get obj.objectId
          = some ref := stored
      rw [stored']
      simp only [Option.elim_some, modify, there]
      rfl

/-- The indices follow when an object leaves. -/
theorem Sound.left (sound : db.Sound) (stored : db.objects.get obj.objectId = some ref)
    (there : db.heap.get ref = some obj)
    : (db.left ref obj).Sound := by
  have found : db.object? obj.objectId = some obj := (object?_eq stored).trans there
  have elsewhere : ∀ objectId other, db.objects.get objectId = some other
      → objectId ≠ obj.objectId → other ≠ ref := by
    rintro objectId other stored' different rfl
    obtain ⟨another, there', identifier, _⟩ := sound.here objectId other stored'
    cases there.symm.trans there'
    exact different identifier.symm
  have stillStored : ∀ objectId other, (db.left ref obj).objects.get objectId = some other
      → objectId ≠ obj.objectId ∧ db.objects.get objectId = some other := by
    intro objectId other kept
    dsimp only [ObjectDatabase.left] at kept
    rw [Dict.get_pop] at kept
    split at kept
    · cases kept
    · next different => exact ⟨different, kept⟩
  have object?_left : ∀ objectId, (db.left ref obj).object? objectId
      = if objectId = obj.objectId then none else db.object? objectId := by
    intro objectId
    rw [object?, object?, get, get]
    dsimp only [ObjectDatabase.left]
    split
    · next same => simp [same]
    · next different =>
        rw [Dict.get_pop_ne different]
        cases kept : db.objects.get objectId with
        | none => rfl
        | some other => simp [Dict.get_set_ne (elsewhere objectId other kept different)]
  refine ⟨⟨?_, sound.types.remove obj.objectId, ?_, ?_⟩, ?_, ?_⟩
  · intro objectId other kept
    obtain ⟨different, stored'⟩ := stillStored objectId other kept
    dsimp only [ObjectDatabase.left]
    rw [Dict.get_set_ne (elsewhere objectId other stored' different)]
    exact sound.identified objectId other stored'
  · intro objectId other found' named
    rw [object?_left] at found'
    split at found'
    · cases found'
    · next different =>
        obtain ⟨key, hashed, leads⟩ := sound.found objectId other found' named
        exact ⟨key, hashed, (get_namesWithout sound found key objectId).mpr ⟨leads, different⟩⟩
  · intro key objectId leads
    obtain ⟨leads', different⟩ := (get_namesWithout sound found key objectId).mp leads
    rw [object?_left, if_neg different]
    exact sound.current key objectId leads'
  · intro objectId other kept
    obtain ⟨different, stored'⟩ := stillStored objectId other kept
    dsimp only [ObjectDatabase.left]
    rw [Dict.get_set_ne (elsewhere objectId other stored' different)]
    exact sound.here objectId other stored'
  · intro other another kept attached
    dsimp only [ObjectDatabase.left] at kept ⊢
    rw [Dict.get_set] at kept
    split at kept
    · cases kept
      cases attached
    · next elsewhere' =>
        have stored' := sound.attached other another kept attached
        have different : another.objectId ≠ obj.objectId := by
          intro same
          rw [same, stored] at stored'
          exact elsewhere' (Option.some.inj stored').symm
        rw [Dict.get_pop_ne different]
        exact stored'

/-- `remove` keeps every sound database sound. -/
theorem Sound.remove (sound : db.Sound) (objectId)
    : (remove objectId db).2.Sound := by
  rcases remove_eq sound objectId with unchanged | ⟨ref, obj, stored, there, rfl, removed⟩
  · rw [unchanged]
    exact sound
  · rw [removed]
    exact (sound.left stored there).transport (keeps_incrementDatabaseRevision.final (.refl _))

end ObjectDatabase

end BacPy
