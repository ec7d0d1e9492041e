import BacPy.Objects.CommandPriority

/-! Objects without commands: what their constructors store, and where a write is seen. -/

namespace BacPy

namespace BACnetObject

variable {obj : BACnetObject} {cls : ObjectClass} {prop : PropertyIdentifier} {value : Value}
  {instanceNumber : Fin 4194304} {initialProperties : List (PropertyIdentifier × Value)}

/-- Without command arrays, every assignment is seen under its key. -/
theorem stored_set_plain (plain : obj.commands = none)
    : (obj.set prop value).stored prop = some value := by
  simp [stored, set, plain]

theorem coerceValue_int {definition : PropertyDefinition} (int : definition.datatype = .int)
    : coerceValue definition value = value := by
  unfold coerceValue
  rw [int]

-- Writes

/-- A write is accepted with the definition of the property, which is not read-only. -/
theorem writable_eq_ok {definition : PropertyDefinition}
    (writable : obj.writable prop = .ok definition)
    : obj.cls.definition? prop = some definition
      ∧ (definition.access = .readOnly → prop = .presentValue) := by
  unfold BACnetObject.writable at writable
  cases declared : obj.cls.definition? prop with
  | none => simp [declared, propertyError] at writable
  | some other =>
    simp only [declared] at writable
    split at writable
    · cases writable
    · next open_ =>
        cases writable
        refine ⟨rfl, fun fixed => ?_⟩
        by_contra different
        exact open_ ⟨fixed, fun here => different here.1⟩

/-- What an accepted write to an object without commands does: it stores the value, or replaces
an item of a list.
-/
theorem writeAlone_plain {after priority arrayIndex now} (plain : obj.commands = none)
    (accepted : writeAlone prop value priority arrayIndex now obj = (.ok (), after))
    : ∃ definition stored, obj.writable prop = .ok definition ∧ after = obj.set prop stored
        ∧ ((arrayIndex = none ∧ stored = coerceValue definition value)
          ∨ (arrayIndex ≠ none ∧ ∃ old new, obj.get prop = .list old ∧ stored = .list new)) := by
  obtain ⟨definition, writable, stored, _⟩ := writeAlone_ok accepted
  have uncommanded : obj.commandsOf prop = none := by simp [commandsOf, plain]
  cases arrayIndex with
  | none =>
    rw [storeValue_whole uncommanded] at stored
    exact ⟨definition, _, writable, (Prod.mk.inj stored).2.symm, .inl ⟨rfl, rfl⟩⟩
  | some index =>
    rw [storeValue_element uncommanded] at stored
    unfold writeArrayElement at stored
    cases list : (obj.get prop).asList? with
    | none => simp [list, propertyError] at stored
    | some old =>
      simp only [list] at stored
      split at stored
      · next element =>
          split at element
          · cases element
          · cases element
            exact ⟨definition, _, writable, (Prod.mk.inj stored).2.symm,
              .inr ⟨by simp, old, _, Value.asList?_eq_some.mp list, rfl⟩⟩
      · cases stored

-- Construction

/-- The default that an assignment of a constructor gives a property. -/
def assignedDefault (prop : PropertyIdentifier) : InitStep → Option Value
  | .setDefault other value => if other = prop then some value else none
  | .set _ _ => none

/-- Defaults do not replace what is stored, and the first one counts, by induction on them. -/
theorem stored_initialize {steps : List InitStep}
    (defaults : ∀ assigned ∈ steps, ∃ other value, assigned = .setDefault other value)
    (notArray : prop ∉ [.priorityArray, .valueSourceArray, .commandTimeArray])
    (obj : BACnetObject)
    : (steps.foldl initialize_ obj).stored prop
      = (obj.stored prop).or (steps.findSome? (assignedDefault prop)) := by
  induction steps generalizing obj with
  | nil => simp
  | cons assigned rest ih =>
    obtain ⟨other, value, rfl⟩ := defaults _ List.mem_cons_self
    have first : (initialize_ obj (.setDefault other value)).stored prop
        = (obj.stored prop).or (assignedDefault prop (.setDefault other value)) := by
      unfold initialize_ assignedDefault
      dsimp only
      by_cases same : other = prop
      · subst same
        cases present : obj.stored other with
        | some old => simp [present]
        | none =>
          rw [if_neg (by simp), stored_set_self value notArray, if_pos rfl]
          rfl
      · rw [if_neg same, Option.or_none]
        split
        · rfl
        · exact stored_set_ne (Ne.symm same) value
    rw [List.foldl_cons, ih fun assigned member => defaults assigned (List.mem_cons_of_mem _ member),
      first, List.findSome?_cons, Option.or_assoc]
    cases assignedDefault prop (.setDefault other value) <;> rfl

/-- What the constructor of a class without commands stores for a property. -/
theorem stored_construct (plain : cls.commandable = none)
    (defaults : ∀ assigned ∈ cls.setup ++ cls.completion,
      ∃ other value, assigned = .setDefault other value)
    (notArray : prop ∉ [.priorityArray, .valueSourceArray, .commandTimeArray])
    (notIdentifying : prop ∉ [.objectIdentifier, .objectType])
    : (construct cls instanceNumber initialProperties).stored prop
      = (startingValue cls initialProperties prop).or
        ((cls.setup ++ cls.completion).findSome? (assignedDefault prop)) := by
  have appended : construct cls instanceNumber initialProperties
      = (cls.setup ++ cls.completion).foldl initialize_
        (baseInit cls instanceNumber initialProperties) := by
    rw [construct, plain, List.foldl_append]
    rfl
  rw [appended, stored_initialize defaults notArray, stored_baseInit notArray notIdentifying]

/-- A property that is not given to the constructor starts with the default of the class. -/
theorem startingValue_of_not_given
    (notGiven : ∀ entry ∈ initialProperties, entry.1 ≠ prop)
    : startingValue cls initialProperties prop = startingValue cls [] prop := by
  unfold startingValue
  have none : (initialProperties.reverse.findSome? fun entry =>
      if entry.1 = prop then some entry.2 else none) = none := by
    simpa using fun number value member => notGiven (number, value) member
  rw [none]
  rfl

theorem cls_construct : (construct cls instanceNumber initialProperties).cls = cls := by
  have kept : ∀ (obj : BACnetObject) prop value, (obj.set prop value).cls = obj.cls :=
    fun _ _ _ => rfl
  unfold construct
  dsimp only
  rw [initialize_keeps kept]
  cases cls.commandable with
  | none => exact (initialize_keeps kept _ _).trans (baseInit_keeps kept cls instanceNumber _)
  | some relinquishDefault =>
    have commanded : ∀ obj : BACnetObject, (obj.initCommandable relinquishDefault).cls = obj.cls := by
      intro obj
      dsimp only [initCommandable]
      split <;> rfl
    exact (commanded _).trans
      ((initialize_keeps kept _ _).trans (baseInit_keeps kept cls instanceNumber _))

end BACnetObject

end BacPy
