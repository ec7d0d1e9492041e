import BacPy.Objects.Renames

/-! The runs in which the database stays well formed. -/

namespace BacPy

open Library
open BACnetObject (create construct baseInit initialize_keeps writable storeValue Agrees touchedBy)

namespace ObjectDatabase

variable {db next : ObjectDatabase} {registry : List ObjectClass}

/-- The steps that do not reach a defect. An object that is added is identified by its own
properties, and a rename of an object of the database completes.
-/
def Allowed (registry : List ObjectClass) (db : ObjectDatabase) : Event → Prop
  | .createObject objectType instanceNumber initialValues =>
    ∀ obj, create registry objectType
        (instanceNumber.getD (db.nextInstance objectType)) initialValues = .ok obj
      → db.Addable obj → Identified obj.objectId obj
  | .add ref =>
    ∀ obj, db.heap.get ref = some obj → db.Addable obj → Identified obj.objectId obj
  | .writeProperty ref prop value _ arrayIndex _ =>
    prop = .objectName → ∀ obj, db.heap.get ref = some obj → db.Renames obj value
      → db.RenameCompletes obj value arrayIndex
  | .constructed .. | .remove .. | .recorded .. => True

/-- A step that keeps a sound database well formed keeps it sound, and it is one of these. -/
structure Keeps (ok : Prop) (next : ObjectDatabase) : Prop where
  sound : ok → next.Sound
  allowed : next.WellFormed → ok

theorem attached_construct (cls : ObjectClass) (instanceNumber : Fin 4194304) (initialProperties)
    : (construct cls instanceNumber initialProperties).attached = false := by
  have kept : ∀ (obj : BACnetObject) prop value, (obj.set prop value).attached = obj.attached :=
    fun _ _ _ => rfl
  have started : (cls.setup.foldl BACnetObject.initialize_
      (baseInit cls instanceNumber initialProperties)).attached = false :=
    (initialize_keeps kept _ _).trans
      (BACnetObject.baseInit_keeps kept cls instanceNumber initialProperties)
  unfold construct
  dsimp only
  rw [initialize_keeps kept]
  cases cls.commandable with
  | none => exact started
  | some relinquishDefault =>
    dsimp only [Option.elim, BACnetObject.initCommandable]
    split <;> exact started

/-- A created object is one that a registered class constructs. -/
theorem create_eq {objectType instanceNumber initialValues obj}
    (created : create registry objectType instanceNumber initialValues = .ok obj)
    : ∃ cls inRange, registry.find? (fun cls => cls.objectType = objectType) = some cls
        ∧ obj = .construct cls ⟨instanceNumber, inRange⟩ initialValues := by
  unfold create at created
  split at created
  · cases created
  · split at created
    · cases created
    · next cls found =>
        split at created
        · next inRange =>
            split at created
            · cases created
            · exact ⟨cls, inRange, found, (Except.ok.inj created).symm⟩
        · cases created

theorem attached_create {objectType instanceNumber initialValues obj}
    (created : create registry objectType instanceNumber initialValues = .ok obj)
    : obj.attached = false := by
  obtain ⟨cls, inRange, _, rfl⟩ := create_eq created
  exact attached_construct ..

theorem keeps_add (sound : db.Sound) (ref : Nat)
    : Keeps (∀ obj, db.heap.get ref = some obj → db.Addable obj → Identified obj.objectId obj)
        (add ref db).2 := by
  cases stored : db.heap.get ref with
  | none =>
    have unchanged : (add ref db).2 = db := by
      unfold add
      rw [stored]
    rw [unchanged]
    exact ⟨fun _ => sound, fun _ obj found => by cases found⟩
  | some obj =>
    refine ⟨fun identified => sound.add stored (identified obj rfl), ?_⟩
    intro wellFormed other found
    cases found
    exact (wellFormed_add sound stored).mp wellFormed

theorem keeps_createObject (sound : db.Sound) (objectType : ObjectType)
    (instanceNumber : Option Nat) (initialValues)
    : Keeps (Allowed registry db (.createObject objectType instanceNumber initialValues))
        (createObject registry objectType instanceNumber initialValues db).2 := by
  unfold createObject
  cases created : create registry objectType
      (instanceNumber.getD (db.nextInstance objectType)) initialValues with
  | error raised =>
    refine ⟨fun _ => sound, ?_⟩
    intro _ obj created'
    rw [created] at created'
    cases created'
  | ok obj =>
    have stored : (db.allocate obj).heap.get db.fresh = some obj := Dict.get_set_self ..
    have sameChecks : (db.allocate obj).Addable obj ↔ db.Addable obj := Iff.rfl
    have added := keeps_add (sound.allocate (attached_create created)) db.fresh
    refine ⟨?_, ?_⟩
    · intro allowed
      apply added.sound
      intro other found addable
      cases stored.symm.trans found
      exact allowed obj created (sameChecks.mp addable)
    · intro wellFormed other created' addable
      cases created.symm.trans created'
      exact added.allowed wellFormed obj stored (sameChecks.mpr addable)

/-- No class has writable identifying properties. -/
theorem not_fixed_of_writable {obj : BACnetObject} {prop : PropertyIdentifier}
    {definition : PropertyDefinition} (accepted : obj.writable prop = .ok definition)
    : prop ∉ fixedProperties := by
  intro isFixed
  unfold writable at accepted
  cases found : obj.cls.definition? prop with
  | none =>
    rw [found] at accepted
    cases accepted
  | some declared =>
    have identifier : declared.identifier = prop := by
      simpa using List.find?_some found
    have readOnly : declared.access = .readOnly :=
      obj.cls.fixedReadOnly declared (List.mem_of_find?_eq_some found) (identifier ▸ isFixed)
    have notPresent : prop ≠ .presentValue := by
      rintro rfl
      revert isFixed
      decide
    rw [found] at accepted
    dsimp only at accepted
    rw [if_pos ⟨readOnly, fun present => notPresent present.1⟩] at accepted
    cases accepted

/-- Storing a value keeps a database sound, unless it is a name of one of its objects. -/
theorem sound_store (sound : db.Sound) {ref : Nat} {obj : BACnetObject}
    (stored : db.heap.get ref = some obj) {prop : PropertyIdentifier}
    {definition : PropertyDefinition} (accepted : obj.writable prop = .ok definition)
    (value : Value) (priority arrayIndex : Option Nat) (now : Float)
    (noName : ¬ (prop = .objectName ∧ obj.attached = true))
    : (onObject ref (storeValue definition prop value priority arrayIndex now)
        db).2.Sound := by
  have agrees : Agrees (touchedBy prop) obj
      (storeValue definition prop value priority arrayIndex now obj).2 :=
    BACnetObject.agrees_storeValue
  unfold onObject
  rw [stored]
  cases attached : obj.attached with
  | false =>
    exact sound.withDetached (outside_of_detached sound stored attached)
      (agrees.attached.trans attached)
  | true =>
    have notFixed := not_fixed_of_writable accepted
    have untouched : ∀ other ∈ [PropertyIdentifier.objectIdentifier, .objectType, .objectName],
        other ∉ touchedBy prop := by
      intro other member touched
      unfold touchedBy at touched
      split at touched
      · revert other
        decide
      · obtain rfl := List.mem_singleton.mp touched
        simp only [List.mem_cons, List.not_mem_nil, or_false] at member
        rcases member with rfl | rfl | rfl
        · exact notFixed (by decide)
        · exact notFixed (by decide)
        · exact noName ⟨rfl, attached⟩
    exact sound.transport (sameIndices_withObject stored (sameIdentity_of_agrees agrees untouched))

theorem sound_writeTo (sound : db.Sound) {ref obj} (stored : db.heap.get ref = some obj)
    {prop : PropertyIdentifier} {value priority arrayIndex now}
    (noRename : ¬ (prop = .objectName ∧ db.Renames obj value))
    : (writeTo ref obj prop value priority arrayIndex now db).2.Sound := by
  unfold writeTo
  rw [Stateful.bind_apply, Stateful.lift_apply]
  cases obj.checkWrite prop value with
  | error raised => exact sound
  | ok checked =>
    dsimp only
    rw [Stateful.bind_apply, Stateful.lift_apply]
    cases accepted : obj.writable prop with
    | error raised => exact sound
    | ok definition =>
      dsimp only
      rw [Stateful.bind_apply]
      by_cases named : prop = .objectName ∧ obj.attached = true
      · obtain ⟨rfl, attached⟩ := named
        have refused : (validateNameUnique value (some obj.objectId) db).1 ≠ .ok () := by
          intro valid
          exact noRename ⟨rfl, attached, by rw [accepted]; rfl, valid⟩
        have looked : validateNameUnique value (some obj.objectId) db
            = ((validateNameUnique value (some obj.objectId) db).1, db) := rfl
        cases checkedName : (validateNameUnique value (some obj.objectId) db).1 with
        | ok _ => exact absurd checkedName refused
        | error raised =>
          rw [checkedName] at looked
          simp only [Stateful.when, attached, and_self, if_true, rename, Stateful.bind_apply,
            looked]
          exact sound
      · simp only [Stateful.when, if_neg named, Stateful.pure_apply]
        exact sound_store sound stored accepted value priority arrayIndex now named

theorem keeps_writeProperty (sound : db.Sound) (ref : Nat) (prop : PropertyIdentifier)
    (value : Value) (priority arrayIndex : Option Nat) (now : Float)
    : Keeps (Allowed registry db (.writeProperty ref prop value priority arrayIndex now))
        (writeProperty ref prop value priority arrayIndex now db).2 := by
  unfold writeProperty
  cases stored : db.heap.get ref with
  | none =>
    refine ⟨fun _ => sound, ?_⟩
    intro _ _ obj found
    rw [stored] at found
    cases found
  | some obj =>
    dsimp only
    by_cases renames : prop = .objectName ∧ db.Renames obj value
    · obtain ⟨rfl, renames⟩ := renames
      obtain ⟨exactly, kept⟩ := wellFormed_rename sound stored renames priority arrayIndex now
      refine ⟨fun allowed => kept (allowed rfl obj stored renames), ?_⟩
      intro wellFormed _ other found _
      cases stored.symm.trans found
      exact exactly.mp wellFormed
    · refine ⟨fun _ => sound_writeTo sound stored renames, ?_⟩
      intro _ same other found renames'
      cases stored.symm.trans found
      exact absurd ⟨same, renames'⟩ renames

-- Runs

/-- Every step from a sound database, one case for each kind of step. -/
theorem keeps_step (sound : db.Sound) {event} (moved : step registry db event = some next)
    : Keeps (Allowed registry db event) next := by
  cases event with
  | createObject objectType instanceNumber initialValues =>
    cases moved
    exact keeps_createObject sound objectType instanceNumber initialValues
  | constructed cls instanceNumber initialProperties =>
    cases moved
    exact ⟨fun _ => sound.allocate (attached_construct ..), fun _ => trivial⟩
  | add ref =>
    cases moved
    exact keeps_add sound ref
  | remove objectId =>
    cases moved
    exact ⟨fun _ => sound.remove objectId, fun _ => trivial⟩
  | writeProperty ref prop value priority arrayIndex now =>
    cases moved
    exact keeps_writeProperty sound ref prop value priority arrayIndex now
  | recorded operation target =>
    cases moved
    refine ⟨fun _ => sound.transport ?_, fun _ => trivial⟩
    exact (keeps_recordOperation operation target).final (.refl db)

/-- A database stays well formed throughout a run exactly if every object that is added is
identified by its own properties, and every accepted rename completes.
-/
theorem wellFormed_iff_allowed (registry : List ObjectClass) (events : List Event)
    : Always (step registry) WellFormed {} events
      ↔ Meets (step registry) (Allowed registry) {} events :=
  always_iff_meets
    (fun sound allowed moved => (keeps_step sound moved).sound allowed)
    Sound.toWellFormed
    (fun sound refused moved wellFormed => refused ((keeps_step sound moved).allowed wellFormed))
    sound_empty

/-- An Analog Value is created and gets a new name by a write with an array index: the write is
refused, and the new name is in the index.
-/
def halfRenamed : List Event :=
  [.createObject .analogValue (some 1) [(.objectName, .str "AV-1")],
   .writeProperty 0 .objectName (.str "New") none (some 1) 0]

/-- A refused write can leave a stale name in the index. -/
theorem stale_name
    : ¬ ∀ registry events, Always (step registry) WellFormed {} events := by
  intro always
  have leads : (run (step [analogValueObject]) {} halfRenamed).bind (fun db =>
      db.names.get (.str "New")) = some ⟨.analogValue, 1⟩ := by
    decide +kernel
  have named : (run (step [analogValueObject]) {} halfRenamed).bind (fun db =>
      (db.object? ⟨.analogValue, 1⟩).map fun obj => (obj.get .objectName).hashKey)
        = some (.ok (.str "AV-1")) := by
    decide +kernel
  cases ran : run (step [analogValueObject]) {} halfRenamed with
  | none =>
    rw [ran] at leads
    cases leads
  | some db =>
    rw [ran] at leads named
    have wellFormed : db.WellFormed :=
      always_iff_prefixes.mp (always [analogValueObject] halfRenamed) halfRenamed [] db
        (by simp) ran
    obtain ⟨obj, found, hashed⟩ := wellFormed.current _ _ leads
    rw [Option.bind_some, found, Option.map_some, hashed.hashed] at named
    simp at named

end ObjectDatabase

end BacPy
