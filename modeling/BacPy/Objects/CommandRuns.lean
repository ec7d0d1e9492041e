import BacPy.Objects.CommandPriority

/-! The runs of a database in which what is read of its commandable objects is what their priority
arrays command.
-/

namespace BacPy

open Library
open Stateful (Preserves)
open BACnetObject (coerceValue SameCommands sameCommands_of_agrees storeValue Agrees touchedBy
  agrees_storeValue)

namespace ObjectDatabase

variable {db next origin before middle after : ObjectDatabase} {registry : List ObjectClass}

/-- Every commandable object, in the database or not, is prioritised. -/
def Prioritised (db : ObjectDatabase) : Prop :=
  ∀ ref obj slots, db.heap.get ref = some obj → obj.commands = some slots → obj.Prioritised slots

/-- Every commandable object holds the copies that its slots command. -/
def Resolved (db : ObjectDatabase) : Prop :=
  ∀ ref obj slots, db.heap.get ref = some obj → obj.commands = some slots → obj.Resolved slots

/-- Objects of a class may be made with these properties: a commandable one starts with its
Relinquish_Default as the present value.
-/
def StartsRight (cls : ObjectClass) (initialProperties : List (PropertyIdentifier × Value)) : Prop :=
  ∀ relinquishDefault, cls.commandable = some relinquishDefault
    → BACnetObject.StartsPrioritised cls initialProperties relinquishDefault

/-- The steps that do not reach a defect of the command prioritisation. -/
def CommandsAllowed (registry : List ObjectClass) (db : ObjectDatabase) : Event → Prop
  | .createObject objectType instanceNumber initialValues =>
    ∀ cls, registry.find? (fun cls => cls.objectType = objectType) = some cls
      → (BACnetObject.create registry objectType
          (instanceNumber.getD (db.nextInstance objectType)) initialValues).isOk
      → StartsRight cls initialValues
  | .constructed cls _ initialProperties => StartsRight cls initialProperties
  | .writeProperty ref prop value priority arrayIndex now =>
    ∀ obj slots definition, db.heap.get ref = some obj → obj.commands = some slots
      → obj.checkWrite prop value = .ok () → obj.writable prop = .ok definition
      → obj.KeepsPriorities slots prop (coerceValue definition value) priority
        arrayIndex now
  | .add _ | .remove _ | .recorded .. => True

theorem Resolved.prioritised (resolved : db.Resolved) : db.Prioritised :=
  fun ref obj slots stored commands => (resolved ref obj slots stored commands).prioritised commands

-- What does not concern the commands

def CommandsKept (before after : ObjectDatabase) : Prop :=
  ∀ ref obj, after.heap.get ref = some obj
    → ∃ old, before.heap.get ref = some old ∧ old.SameCommands obj

theorem CommandsKept.of_heap (same : after.heap = before.heap) : CommandsKept before after :=
  fun _ obj stored => ⟨obj, same ▸ stored, .refl obj⟩

theorem CommandsKept.trans (first : CommandsKept before middle) (second : CommandsKept middle after)
    : CommandsKept before after := by
  intro ref obj stored
  obtain ⟨other, stored', same⟩ := second ref obj stored
  obtain ⟨old, stored'', same'⟩ := first ref other stored'
  exact ⟨old, stored'', same'.trans same⟩

theorem Resolved.transport (resolved : before.Resolved) (kept : CommandsKept before after)
    : after.Resolved := by
  intro ref obj slots stored commands
  obtain ⟨old, stored', same⟩ := kept ref obj stored
  exact (resolved ref old slots stored' (same.commands.symm.trans commands)).transport same

theorem CommandsKept.withObject {ref old obj} (stored : before.heap.get ref = some old)
    (same : old.SameCommands obj) (heap : after.heap = before.heap.set ref obj)
    : CommandsKept before after := by
  intro other another stored'
  rw [heap, Dict.get_set] at stored'
  split at stored'
  · next here =>
      subst here
      exact ⟨old, stored, Option.some.inj stored' ▸ same⟩
  · exact ⟨another, stored', .refl another⟩

theorem keepsCommands_onObject {ref program}
    (same : ∀ obj, SameCommands obj (program obj).2)
    : Preserves (CommandsKept origin) (onObject ref program) := by
  apply Preserves.of_final
  intro db kept
  unfold onObject
  cases stored : db.heap.get ref with
  | none => exact kept
  | some obj => exact kept.trans (.withObject stored (same obj) rfl)

theorem keepsCommands_incrementDatabaseRevision
    : Preserves (CommandsKept origin) incrementDatabaseRevision :=
  preserves_incrementDatabaseRevision fun _ _ agrees =>
    keepsCommands_onObject fun obj => sameCommands_of_agrees (agrees obj) (by decide)

/-- Names are entered and forgotten beside the objects. -/
theorem keepsCommands_forgetName (name : Value) (objectId)
    : Preserves (CommandsKept origin) (forgetName name objectId) := by
  apply Preserves.of_final
  intro db kept
  refine kept.trans (.of_heap ?_)
  unfold forgetName
  split
  · rfl
  · cases name.hashKey with
    | error raised => rfl
    | ok key =>
      dsimp only
      split <;> rfl

theorem keepsCommands_enterName (name : Value) (objectId)
    : Preserves (CommandsKept origin) (enterName name objectId) := by
  apply Preserves.of_final
  intro db kept
  refine kept.trans (.of_heap ?_)
  unfold enterName
  cases name.hashKey <;> rfl

/-- Objects are attached and detached with the same commands. -/
theorem keepsCommands_modify {ref change} (same : ∀ obj, SameCommands obj (change obj))
    : CommandsKept db (db.modify ref change) := by
  unfold modify
  cases stored : db.heap.get ref with
  | none => exact .of_heap rfl
  | some obj => exact .withObject stored (same obj) rfl

/-- An object that enters keeps its commands. -/
theorem keepsCommands_add (ref : Nat)
    : Preserves (CommandsKept origin) (add ref) := by
  apply Preserves.of_final
  intro db kept
  unfold add
  cases db.heap.get ref with
  | none => exact kept
  | some obj =>
    refine Preserves.final ?_ kept
    apply Preserves.bind (.consults _)
    intro _
    have entered : Preserves (CommandsKept origin) (enter ref obj) := by
      apply Preserves.bind (.modifies fun db kept => kept.trans (.of_heap rfl))
      intro _
      apply Preserves.bind (.when fun _ => keepsCommands_enterName _ _)
      intro _
      apply Preserves.modifies
      intro db kept
      have attached : ∀ obj : BACnetObject, obj.SameCommands { obj with attached := true } :=
        fun _ => ⟨rfl, rfl, fun _ _ => rfl⟩
      dsimp only
      split
      · exact kept.trans ((CommandsKept.of_heap rfl).trans (keepsCommands_modify attached))
      · exact kept.trans (keepsCommands_modify attached)
    exact entered.bind fun _ => keepsCommands_incrementDatabaseRevision

/-- So does one that leaves. -/
theorem keepsCommands_remove (objectId)
    : Preserves (CommandsKept origin) (remove objectId) := by
  apply Preserves.of_final
  intro db kept
  unfold remove
  cases db.get objectId with
  | none => exact kept
  | some ref =>
    dsimp only
    split
    · exact kept
    · refine Preserves.final ?_ kept
      apply Preserves.bind (keepsCommands_forgetName _ _)
      intro _
      refine Preserves.bind ?_ fun _ => keepsCommands_incrementDatabaseRevision
      apply Preserves.modifies
      intro db kept
      have detached : ∀ obj : BACnetObject, obj.SameCommands { obj with attached := false } :=
        fun _ => ⟨rfl, rfl, fun _ _ => rfl⟩
      dsimp only
      have unindexed : CommandsKept db { db with
          typeIndex := db.typeIndex.remove objectId.objectType objectId
          objects := db.objects.pop objectId } :=
        .of_heap rfl
      refine kept.trans (unindexed.trans ?_)
      cases db.get objectId with
      | none => exact .of_heap rfl
      | some ref => exact keepsCommands_modify detached

theorem keepsCommands_rename (obj : BACnetObject) (value : Value)
    : Preserves (CommandsKept origin) (rename obj value) := by
  apply Preserves.bind (.consults _)
  intro _
  have indexed : Preserves (CommandsKept origin)
      (updateNameIndex obj.objectId (obj.get .objectName) value) :=
    (keepsCommands_forgetName _ _).bind fun _ => keepsCommands_enterName _ _
  exact indexed.bind fun _ => keepsCommands_incrementDatabaseRevision

theorem keepsCommands_recordOperation (operation target)
    : Preserves (CommandsKept origin) (recordOperation operation target) :=
  preserves_recordOperation (fun _ => keepsCommands_onObject fun obj =>
    sameCommands_of_agrees (appendRecord_agrees obj) (by decide)) operation target

-- Steps

theorem Resolved.allocate (resolved : db.Resolved) {cls initialProperties}
    (starts : StartsRight cls initialProperties) (instanceNumber : Fin 4194304)
    : (db.allocate (.construct cls instanceNumber initialProperties)).Resolved := by
  intro ref obj slots stored commands
  dsimp only [ObjectDatabase.allocate] at stored
  rw [Dict.get_set] at stored
  split at stored
  · cases stored
    rw [BACnetObject.commands_construct] at commands
    obtain ⟨relinquishDefault, commandable, rfl⟩ := Option.map_eq_some_iff.mp commands
    exact BACnetObject.resolved_construct commandable (starts relinquishDefault commandable)
  · exact resolved ref obj slots stored commands

theorem resolved_createObject (resolved : db.Resolved) {objectType instanceNumber initialValues}
    (allowed : CommandsAllowed registry db (.createObject objectType instanceNumber initialValues))
    : (createObject registry objectType instanceNumber initialValues db).2.Resolved := by
  unfold createObject
  cases created : BACnetObject.create registry objectType
      (instanceNumber.getD (db.nextInstance objectType)) initialValues with
  | error raised => exact resolved
  | ok obj =>
    obtain ⟨cls, inRange, found, rfl⟩ := create_eq created
    have starts := allowed cls found (by rw [created]; rfl)
    exact (resolved.allocate starts _).transport
      ((keepsCommands_add db.fresh).final (.of_heap rfl))

theorem keepsCommands_writeName (ref : Nat) (obj : BACnetObject) (definition : PropertyDefinition)
    (value : Value) (priority arrayIndex : Option Nat) (now : Float)
    : Preserves (CommandsKept origin) (do
        Stateful.when (PropertyIdentifier.objectName = .objectName ∧ obj.attached)
          (rename obj value)
        onObject ref (storeValue definition .objectName value priority arrayIndex
          now)) := by
  apply Preserves.bind (.when fun _ => keepsCommands_rename obj value)
  intro _
  apply keepsCommands_onObject
  intro before
  have agrees : Agrees (touchedBy .objectName) before
      (storeValue definition .objectName value priority arrayIndex now before).2 :=
    agrees_storeValue
  exact sameCommands_of_agrees agrees (by decide)

/-- Any other write that keeps priorities concerns the one object. -/
theorem resolved_onObject (resolved : db.Resolved) {ref obj} (stored : db.heap.get ref = some obj)
    {definition : PropertyDefinition} {prop : PropertyIdentifier} {value priority arrayIndex now}
    (accepted : obj.writable prop = .ok definition)
    (keeps : ∀ slots, obj.commands = some slots → obj.KeepsPriorities slots prop
      (coerceValue definition value) priority arrayIndex now)
    : (onObject ref (storeValue definition prop value priority arrayIndex now)
        db).2.Resolved := by
  unfold onObject
  rw [stored]
  intro other another slots stored' commands
  dsimp only at stored'
  rw [Dict.get_set] at stored'
  split at stored'
  · cases stored'
    cases before : obj.commands with
    | none =>
      have agrees : Agrees (touchedBy prop) obj
          (storeValue definition prop value priority arrayIndex now obj).2 :=
        agrees_storeValue
      have together := agrees.commandable
      rw [before, commands] at together
      cases together
    | some earlier =>
      obtain ⟨others, commands', resolved'⟩ := BACnetObject.resolved_storeValue
        (resolved ref obj earlier stored before) before (not_fixed_of_writable accepted)
        (keeps earlier before)
      cases commands.symm.trans commands'
      exact resolved'
  · exact resolved other another slots stored' commands

theorem resolved_writeProperty (resolved : db.Resolved) {ref} {prop : PropertyIdentifier}
    {value priority arrayIndex now}
    (allowed : CommandsAllowed registry db
      (.writeProperty ref prop value priority arrayIndex now))
    : (writeProperty ref prop value priority arrayIndex now db).2.Resolved := by
  unfold writeProperty
  cases stored : db.heap.get ref with
  | none => exact resolved
  | some obj =>
    dsimp only
    unfold writeTo
    rw [Stateful.bind_apply, Stateful.lift_apply]
    cases checked : obj.checkWrite prop value with
    | error raised => exact resolved
    | ok _ =>
      dsimp only
      rw [Stateful.bind_apply, Stateful.lift_apply]
      cases accepted : obj.writable prop with
      | error raised => exact resolved
      | ok definition =>
        dsimp only
        by_cases named : prop = .objectName
        · subst named
          exact resolved.transport ((keepsCommands_writeName ref obj definition value
            priority arrayIndex now).final (.of_heap rfl))
        · rw [Stateful.bind_apply, Stateful.when, if_neg fun both => named both.1]
          exact resolved_onObject resolved stored accepted fun slots commands =>
            allowed obj slots definition stored commands checked accepted

/-- Every step, one case for each kind. -/
theorem resolved_step (resolved : db.Resolved) {event} (allowed : CommandsAllowed registry db event)
    (moved : step registry db event = some next)
    : next.Resolved := by
  cases event with
  | createObject objectType instanceNumber initialValues =>
    cases moved
    exact resolved_createObject resolved allowed
  | constructed cls instanceNumber initialProperties =>
    cases moved
    exact resolved.allocate allowed instanceNumber
  | add ref =>
    cases moved
    exact resolved.transport ((keepsCommands_add ref).final (.of_heap rfl))
  | remove objectId =>
    cases moved
    exact resolved.transport ((keepsCommands_remove objectId).final (.of_heap rfl))
  | writeProperty ref prop value priority arrayIndex now =>
    cases moved
    exact resolved_writeProperty resolved allowed
  | recorded operation target =>
    cases moved
    exact resolved.transport ((keepsCommands_recordOperation operation target).final (.of_heap rfl))

/-- In a run whose objects start with their Relinquish_Default as the present value, and whose
writes change neither the default that commands an object nor a present value that is held, what
is read of every commandable object is always what its slots command.
-/
theorem prioritised_of_allowed (registry : List ObjectClass) (events : List Event)
    (allowed : Meets (step registry) (CommandsAllowed registry) {} events)
    : Always (step registry) Prioritised {} events := by
  have empty : ({} : ObjectDatabase).Resolved := by
    intro ref obj slots stored
    simp at stored
  exact always_of_meets (fun resolved allowed moved => resolved_step resolved allowed moved)
    Resolved.prioritised empty allowed

/-- An Integer Value that is commanded to 5 at priority 8. -/
def commanded : List Event :=
  [.constructed (integerValueObject true) 1 [],
   .writeProperty 0 .presentValue (.int 5) (some 8) none 0]

/-- Commands alone keep everything prioritised. -/
theorem prioritised_of_allowed_commanded : Always (step []) Prioritised {} commanded := by
  apply prioritised_of_allowed
  intro constructed moved
  cases moved
  refine ⟨?_, ?_⟩
  · intro relinquishDefault commandable
    cases commandable
    exact ⟨by decide +kernel, by decide +kernel⟩
  · intro written moved
    refine ⟨?_, trivial⟩
    intro obj slots definition stored _ _ _
    refine ⟨fun same => absurd same (by decide), ?_⟩
    intro _ until_ locked holds
    have first : ({} : ObjectDatabase).fresh = 0 := rfl
    have obj_ : obj = .construct (integerValueObject true) 1 [] := by
      simpa [allocate, first] using stored.symm
    have noMinimum : (BACnetObject.construct (integerValueObject true) 1 []).cls.minOnOffTime
        = false := by
      decide +kernel
    rw [obj_, noMinimum] at holds
    cases holds

/-- The Relinquish_Default of a new Integer Value is written while all its slots are null. -/
def defaultWritten : List Event :=
  [.constructed (integerValueObject true) 1 [],
   .writeProperty 0 .relinquishDefault (.int 5) none none 0]

/-- A new Relinquish_Default does not become the present value. -/
theorem default_not_copied
    : ¬ ∀ registry events, Always (step registry) Prioritised {} events := by
  intro always
  have read : (run (step []) {} defaultWritten).bind (fun db => (db.heap.get 0).map fun obj =>
      (obj.readProperty .presentValue, obj.get .relinquishDefault))
        = some (.ok (.int 0), .int 5) := by
    decide +kernel
  have vacant : (run (step []) {} defaultWritten).bind (fun db => (db.heap.get 0).bind fun obj =>
      obj.commands.map BACnetObject.winningSlot?) = some none := by
    decide +kernel
  cases ran : run (step []) {} defaultWritten with
  | none =>
    rw [ran] at read
    cases read
  | some db =>
    rw [ran] at read vacant
    have prioritised : db.Prioritised :=
      always_iff_prefixes.mp (always [] defaultWritten) defaultWritten [] db (by simp) ran
    obtain ⟨obj, stored, shown⟩ := Option.map_eq_some_iff.mp read
    rw [Option.bind_some, stored, Option.bind_some] at vacant
    obtain ⟨slots, commands, allNull⟩ := Option.map_eq_some_iff.mp vacant
    obtain ⟨value, default⟩ := Prod.mk.inj shown
    have same := (prioritised 0 obj slots stored commands).presentValue _ value
    rw [BACnetObject.commandingSlot, allNull, default] at same
    revert same
    decide

end ObjectDatabase

end BacPy
