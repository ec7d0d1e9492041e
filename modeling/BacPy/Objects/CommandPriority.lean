import BacPy.Objects.IndexRuns

/-! Command prioritisation. The present value of a commandable object is a copy of what its
priority array resolves to; these are the writes after which the copy is still right.
-/

namespace BacPy

open Library

namespace BACnetObject

variable {obj before middle after : BACnetObject} {slots : Vector CommandSlot 16}
  {touched : List PropertyIdentifier}

/-- The slot that commands the present value: the first one that is not null, or else the
Relinquish_Default, which has no source and no time.
-/
def commandingSlot (obj : BACnetObject) (slots : Vector CommandSlot 16) : CommandSlot :=
  (winningSlot? slots).getD { value := obj.get .relinquishDefault }

/-- What is read of an object agrees with the slot that commands it. A present value that was
never initialized cannot be read.
-/
structure Prioritised (obj : BACnetObject) (slots : Vector CommandSlot 16) : Prop where
  presentValue : ∀ value, obj.readProperty .presentValue = .ok value
    → value = (obj.commandingSlot slots).value
  initialized : (obj.commandingSlot slots).value ≠ .none
    → ∃ value, obj.readProperty .presentValue = .ok value
  vacant : winningSlot? slots = none → obj.readProperty .currentCommandPriority = .ok .none
  currentPriority : ∀ slot, winningSlot? slots = some slot → ∃ index : Fin 16,
    slots.get index = slot ∧ (∀ above < index, (slots.get above).value = .none)
      ∧ obj.readProperty .currentCommandPriority = .ok (.int (index + 1))
  valueSource : obj.get .valueSource = (obj.commandingSlot slots).source
  lastCommandTime : obj.get .lastCommandTime = (obj.commandingSlot slots).time

/-- The present value is read as the opposite of what is stored. -/
def reversed (obj : BACnetObject) : Bool :=
  obj.cls.binaryPolarity && ((obj.stored .polarity).getD (.enum polarityEnum 0)).pyEq (.int 1)

/-- What is stored in an object agrees with the slot that commands it. -/
structure Resolved (obj : BACnetObject) (slots : Vector CommandSlot 16) : Prop where
  declared : (obj.cls.definition? .presentValue).isSome
  straight : obj.reversed = false
  presentValue : obj.get .presentValue = (obj.commandingSlot slots).value
  valueSource : obj.get .valueSource = (obj.commandingSlot slots).source
  lastCommandTime : obj.get .lastCommandTime = (obj.commandingSlot slots).time

/-- Plain properties are read from the table, without an index. -/
theorem baseReadProperty_plain {prop : PropertyIdentifier} {definition : PropertyDefinition}
    (plain : prop ∉ [.propertyList, .currentCommandPriority, .statusFlags])
    (declared : obj.cls.definition? prop = some definition)
    : obj.baseReadProperty prop none
      = if obj.get prop = .none ∧ definition.required then propertyError .valueNotInitialized
        else .ok (obj.get prop) := by
  simp only [List.mem_cons, List.not_mem_nil, or_false, not_or] at plain
  unfold baseReadProperty
  rw [if_neg plain.1, if_neg plain.2.1, if_neg plain.2.2, declared]

/-- The current priority is computed from the slots. -/
theorem readProperty_currentCommandPriority
    : obj.readProperty .currentCommandPriority = obj.getCurrentCommandPriority := by
  have base : obj.baseReadProperty .currentCommandPriority none = obj.getCurrentCommandPriority := by
    unfold baseReadProperty
    rw [if_neg (by decide), if_pos rfl]
  have notValue : ¬ (obj.cls.binaryPolarity = true
      ∧ PropertyIdentifier.currentCommandPriority = .presentValue) := by
    rintro ⟨_, same⟩
    revert same
    decide
  unfold readProperty
  rw [base]
  cases obj.getCurrentCommandPriority with
  | error raised => rfl
  | ok value => exact if_neg notValue

theorem readProperty_presentValue (straight : obj.reversed = false)
    : obj.readProperty .presentValue = obj.baseReadProperty .presentValue none := by
  unfold readProperty
  cases obj.baseReadProperty .presentValue none with
  | error raised => rfl
  | ok value =>
    simp only [bind, Except.bind, and_true]
    split
    · next polarity =>
        rw [reversed, polarity, Bool.true_and] at straight
        rw [throughPolarity, straight, if_neg Bool.false_ne_true]
    · rfl

theorem currentCommandPriority_of_winning (commands : obj.commands = some slots) {slot}
    (winning : winningSlot? slots = some slot)
    : ∃ index : Fin 16, slots.get index = slot ∧ (∀ above < index, (slots.get above).value = .none)
        ∧ obj.readProperty .currentCommandPriority = .ok (.int (index + 1)) := by
  obtain ⟨taken, index, inside, here, above⟩ := List.find?_eq_some_iff_getElem.mp winning
  have length : slots.toList.length = 16 := by simp
  have found : slots.toList.findIdx? (fun slot => slot.value ≠ .none) = some index := by
    apply List.findIdx?_eq_some_iff_getElem.mpr
    refine ⟨inside, by rwa [here], ?_⟩
    intro earlier before
    simpa using above earlier before
  have atIndex : slots[index] = slot := by simpa using here
  have vacant (earlier : Fin 16) (before : earlier.val < index) : slots[earlier].value = .none := by
    simpa using above earlier.val before
  refine ⟨⟨index, length ▸ inside⟩, atIndex, vacant, ?_⟩
  rw [readProperty_currentCommandPriority, getCurrentCommandPriority, commands]
  dsimp only
  rw [found]

theorem currentCommandPriority_of_vacant (commands : obj.commands = some slots)
    (vacant : winningSlot? slots = none)
    : obj.readProperty .currentCommandPriority = .ok .none := by
  have nowhere : slots.toList.findIdx? (fun slot => slot.value ≠ .none) = none := by
    rw [List.findIdx?_eq_none_iff]
    simpa using List.find?_eq_none.mp vacant
  rw [readProperty_currentCommandPriority, getCurrentCommandPriority, commands]
  dsimp only
  rw [nowhere]

/-- The copies that are stored determine what is read. -/
theorem Resolved.prioritised (resolved : Resolved obj slots) (commands : obj.commands = some slots)
    : Prioritised obj slots := by
  obtain ⟨definition, declared⟩ := Option.isSome_iff_exists.mp resolved.declared
  have read := readProperty_presentValue resolved.straight
  rw [baseReadProperty_plain (by decide) declared, resolved.presentValue] at read
  refine ⟨?_, ?_, currentCommandPriority_of_vacant commands,
    fun _ winning => currentCommandPriority_of_winning commands winning, resolved.valueSource,
    resolved.lastCommandTime⟩
  · intro value same
    rw [read] at same
    split at same
    · cases same
    · exact (Except.ok.inj same).symm
  · intro commanded
    exact ⟨_, by rw [read, if_neg fun missing => commanded missing.1]⟩

-- Frames

/-- The commands, and everything they are resolved by or to, stay as they were. -/
structure SameCommands (before after : BACnetObject) : Prop where
  cls : after.cls = before.cls
  commands : after.commands = before.commands
  stored : ∀ prop ∈ commandingProperties, after.stored prop = before.stored prop

theorem SameCommands.refl (obj : BACnetObject) : SameCommands obj obj :=
  ⟨rfl, rfl, fun _ _ => rfl⟩

theorem SameCommands.trans (first : SameCommands before middle) (second : SameCommands middle after)
    : SameCommands before after where
  cls := second.cls.trans first.cls
  commands := second.commands.trans first.commands
  stored prop member := (second.stored prop member).trans (first.stored prop member)

theorem SameCommands.get (same : SameCommands before after) {prop : PropertyIdentifier}
    (member : prop ∈ commandingProperties)
    : after.get prop = before.get prop := by
  rw [BACnetObject.get, BACnetObject.get, same.stored prop member]

/-- The three arrays are read from the slots. -/
theorem stored_arrays (commands : obj.commands = some slots)
    : obj.stored .priorityArray = some (.list (slots.toList.map CommandSlot.value))
      ∧ obj.stored .valueSourceArray = some (.list (slots.toList.map CommandSlot.source))
      ∧ obj.stored .commandTimeArray = some (.list (slots.toList.map CommandSlot.time)) := by
  unfold BACnetObject.stored
  rw [commands]
  exact ⟨rfl, rfl, rfl⟩

/-- The three arrays together are the slots. -/
theorem commands_of_agrees (agrees : Agrees touched before after)
    (apart : ∀ prop ∈ [PropertyIdentifier.priorityArray, .valueSourceArray, .commandTimeArray],
      prop ∉ touched)
    : after.commands = before.commands := by
  have values := agrees.stored _ (apart .priorityArray (by decide))
  have sources := agrees.stored _ (apart .valueSourceArray (by decide))
  have times := agrees.stored _ (apart .commandTimeArray (by decide))
  have together := agrees.commandable
  cases first : before.commands with
  | none =>
    rw [first] at together
    exact Option.not_isSome_iff_eq_none.mp (by simp [together])
  | some slots =>
    rw [first] at together
    obtain ⟨others, second⟩ := Option.isSome_iff_exists.mp together
    obtain ⟨values₁, sources₁, times₁⟩ := stored_arrays first
    obtain ⟨values₂, sources₂, times₂⟩ := stored_arrays second
    rw [values₁, values₂, Option.some.injEq, Value.list.injEq] at values
    rw [sources₁, sources₂, Option.some.injEq, Value.list.injEq] at sources
    rw [times₁, times₂, Option.some.injEq, Value.list.injEq] at times
    rw [second, Option.some.injEq]
    apply Vector.toList_inj.mp
    apply List.ext_getElem (by simp)
    intro index inside inside'
    have value := congrArg (·[index]?) values
    have source := congrArg (·[index]?) sources
    have time := congrArg (·[index]?) times
    simp only [List.getElem?_map, List.getElem?_eq_getElem inside, Option.map_some,
      List.getElem?_eq_getElem inside', Option.some.injEq] at value source time
    rw [CommandSlot.mk.injEq]
    exact ⟨value, source, time⟩

/-- Changes to other properties do not concern the commands. -/
theorem sameCommands_of_agrees (agrees : Agrees touched before after)
    (apart : ∀ prop ∈ commandingProperties, prop ∉ touched)
    : SameCommands before after where
  cls := agrees.cls
  commands := commands_of_agrees agrees fun prop member =>
    apart prop (by revert prop; decide)
  stored prop member := agrees.stored prop (apart prop member)

theorem SameCommands.commandingSlot (same : SameCommands before after)
    : after.commandingSlot slots = before.commandingSlot slots := by
  rw [BACnetObject.commandingSlot, BACnetObject.commandingSlot, same.get (by decide)]

theorem Resolved.transport (resolved : Resolved before slots) (same : SameCommands before after)
    : Resolved after slots where
  declared := same.cls ▸ resolved.declared
  straight := by
    rw [reversed, same.cls, same.stored _ (by decide)]
    exact resolved.straight
  presentValue := by
    rw [same.get (by decide), same.commandingSlot, resolved.presentValue]
  valueSource := by
    rw [same.get (by decide), same.commandingSlot, resolved.valueSource]
  lastCommandTime := by
    rw [same.get (by decide), same.commandingSlot, resolved.lastCommandTime]

-- Commands

variable {definition : PropertyDefinition} {prop : PropertyIdentifier} {value : Value}
  {priority arrayIndex : Option Nat} {now : Float}

def LeavesDefault (obj : BACnetObject) (value : Value) : Option Nat → Prop
  | none => value = obj.get .relinquishDefault
  | some index => ∀ items, (obj.get .relinquishDefault).asList? = some items
      → 1 ≤ index → index ≤ items.length → items[index - 1]? = some value

/-- The present value is not held by a minimum time, or held at what the command gives it. -/
def LeavesHeld (obj : BACnetObject) (slots : Vector CommandSlot 16) (value : Value)
    (priority : Option Nat) (now : Float)
    : Prop :=
  ∀ until_ locked, obj.cls.minOnOffTime → obj.minTimeLock = some (until_, locked) → now < until_
    → ∀ index : Fin 16, priority.getD 16 = index + 1
    → (obj.baseWriteWithPriority slots value (priority.getD 16)).isOk
    → (obj.commandingSlot (fillSlot slots index value)).value = locked

/-- The writes that keep the copies right. While all slots are null, the Relinquish_Default
commands the present value, but a write to it is not copied; and a minimum on or off time holds
the present value whatever the slots say.
-/
def KeepsPriorities (obj : BACnetObject) (slots : Vector CommandSlot 16)
    (prop : PropertyIdentifier) (value : Value) (priority arrayIndex : Option Nat) (now : Float)
    : Prop :=
  (prop = .relinquishDefault → winningSlot? slots = none → obj.LeavesDefault value arrayIndex)
    ∧ (prop = .presentValue → obj.LeavesHeld slots value priority now)

/-- The copies are made of the slot that commands. -/
theorem resolve_eq
    : obj.resolve slots = ((obj.set .presentValue (obj.commandingSlot slots).value).set .valueSource
        (obj.commandingSlot slots).source).set .lastCommandTime (obj.commandingSlot slots).time := by
  unfold resolve commandingSlot
  cases winningSlot? slots <;> rfl

/-- Resolving the slots makes the copies right. -/
theorem resolved_resolve (declared : (obj.cls.definition? .presentValue).isSome)
    (straight : obj.reversed = false)
    : Resolved (obj.resolve slots) slots := by
  have same : (obj.resolve slots).commandingSlot slots = obj.commandingSlot slots := by
    rw [commandingSlot, commandingSlot, resolve_eq, get_set_ne (by decide), get_set_ne (by decide),
      get_set_ne (by decide)]
  refine ⟨?_, ?_, ?_, ?_, ?_⟩
  · rw [resolve_eq]
    exact declared
  · rw [reversed, resolve_eq, stored_set_ne (by decide), stored_set_ne (by decide),
      stored_set_ne (by decide)]
    exact straight
  · rw [same, resolve_eq, get_set_ne (by decide), get_set_ne (by decide), get_set_self _ (by decide)]
  · rw [same, resolve_eq, get_set_ne (by decide), get_set_self _ (by decide)]
  · rw [same, resolve_eq, get_set_self _ (by decide)]

def commandedTo (obj : BACnetObject) (slots : Vector CommandSlot 16) : BACnetObject :=
  ({ obj with commands := some slots } : BACnetObject).resolve slots

variable {others : Vector CommandSlot 16}

/-- Other slots are seen in the command arrays only. -/
theorem stored_withSlots (commands : obj.commands = some slots) {prop : PropertyIdentifier}
    (member : prop ∈ [.polarity, .relinquishDefault])
    : ({ obj with commands := some others } : BACnetObject).stored prop = obj.stored prop := by
  simp only [List.mem_cons, List.not_mem_nil, or_false] at member
  unfold stored
  rw [commands]
  rcases member with rfl | rfl <;> rfl

theorem commandedTo_commands : (obj.commandedTo others).commands = some others := by
  rw [commandedTo, resolve_eq]
  rfl

theorem commandedTo_minTimeLock : (obj.commandedTo others).minTimeLock = obj.minTimeLock := by
  rw [commandedTo, resolve_eq]
  rfl

theorem commandedTo_commandingSlot (commands : obj.commands = some slots)
    : (obj.commandedTo others).commandingSlot others = obj.commandingSlot others := by
  rw [commandingSlot, commandingSlot, commandedTo, resolve_eq, get_set_ne (by decide),
    get_set_ne (by decide), get_set_ne (by decide), get, stored_withSlots commands (by decide), get]

theorem resolved_commandedTo (resolved : Resolved obj slots) (commands : obj.commands = some slots)
    : Resolved (obj.commandedTo others) others := by
  have straight : ({ obj with commands := some others } : BACnetObject).reversed = false := by
    rw [reversed, stored_withSlots commands (by decide)]
    exact resolved.straight
  exact resolved_resolve resolved.declared straight

/-- An accepted command fills a slot, and the slots are resolved again. -/
theorem baseWriteWithPriority_eq {number}
    (written : obj.baseWriteWithPriority slots value number = .ok after)
    : ∃ index : Fin 16, number = index + 1
        ∧ after = obj.commandedTo (fillSlot slots index value) := by
  unfold baseWriteWithPriority at written
  split at written
  · next inRange =>
      split at written
      · cases written
      · exact ⟨⟨number - 1, by omega⟩, by dsimp only; omega, (Except.ok.inj written).symm⟩
  · cases written

/-- Only the lock changes when a present value is held for its minimum time. -/
theorem sameCommands_holdChanged
    : SameCommands obj (holdMinTime.holdChanged before now obj).2 := by
  have agrees : Agrees [] obj (holdMinTime.holdChanged before now obj).2 := agrees_holdChanged now
  exact sameCommands_of_agrees agrees fun _ _ => List.not_mem_nil

/-- A present value that is held at what the slots give is still right. -/
theorem resolved_holdMinTime (resolved : Resolved obj slots) (commands : obj.commands = some slots)
    (held : ∀ until_ locked, obj.minTimeLock = some (until_, locked) → now < until_
      → (obj.commandingSlot slots).value = locked)
    : (holdMinTime before obj now middle).2.commands = some slots
        ∧ Resolved (holdMinTime before obj now middle).2 slots := by
  unfold holdMinTime
  cases locked? : obj.minTimeLock with
  | none =>
    have same : SameCommands obj (holdMinTime.holdChanged before now obj).2 :=
      sameCommands_holdChanged
    exact ⟨same.commands.trans commands, resolved.transport same⟩
  | some lock =>
    obtain ⟨until_, locked⟩ := lock
    dsimp only
    split
    · next active =>
        refine ⟨commands, resolved.declared, ?_, ?_, ?_, ?_⟩
        · rw [reversed, stored_set_ne (by decide)]
          exact resolved.straight
        · rw [get_set_self _ (by decide), commandingSlot, get_set_ne (by decide)]
          exact (held until_ locked locked? active).symm
        · rw [get_set_ne (by decide), commandingSlot, get_set_ne (by decide)]
          exact resolved.valueSource
        · rw [get_set_ne (by decide), commandingSlot, get_set_ne (by decide)]
          exact resolved.lastCommandTime
    · have unlocked : SameCommands obj { obj with minTimeLock := none } :=
        ⟨rfl, rfl, fun _ _ => rfl⟩
      have same : SameCommands obj
          (holdMinTime.holdChanged before now { obj with minTimeLock := none }).2 :=
        unlocked.trans sameCommands_holdChanged
      exact ⟨same.commands.trans commands, resolved.transport same⟩

/-- A command that is not held leaves the copies right. -/
theorem resolved_writeWithPriority (resolved : Resolved obj slots)
    (commands : obj.commands = some slots)
    (held : obj.LeavesHeld slots value priority now)
    : ∃ others, (writeWithPriority slots value (priority.getD 16) now obj).2.commands = some others
        ∧ Resolved (writeWithPriority slots value (priority.getD 16) now obj).2 others := by
  unfold writeWithPriority
  cases written : obj.baseWriteWithPriority slots value (priority.getD 16) with
  | error raised => exact ⟨slots, commands, resolved⟩
  | ok after =>
    have isOk : (obj.baseWriteWithPriority slots value (priority.getD 16)).isOk := by
      rw [written]
      rfl
    obtain ⟨index, number, rfl⟩ := baseWriteWithPriority_eq written
    refine ⟨fillSlot slots index value, ?_⟩
    dsimp only
    split
    · next holds =>
        apply resolved_holdMinTime (resolved_commandedTo resolved commands) commandedTo_commands
        intro until_ locked locked? active
        rw [commandedTo_commandingSlot commands]
        rw [commandedTo_minTimeLock] at locked?
        exact held until_ locked holds locked? active index number isOk
    · exact ⟨commandedTo_commands, resolved_commandedTo resolved commands⟩

-- Writes and construction

/-- A Relinquish_Default that is written as it is stays as it is. -/
theorem get_relinquishDefault
    (same : obj.LeavesDefault (coerceValue definition value) arrayIndex)
    : (storeValue definition .relinquishDefault value priority arrayIndex now obj).2.get
        .relinquishDefault = obj.get .relinquishDefault := by
  have plain : obj.commandsOf .relinquishDefault = none := if_neg (by decide)
  cases arrayIndex with
  | none =>
    rw [storeValue_whole plain, get_set_self _ (by decide)]
    exact same
  | some index =>
    rw [storeValue_element plain, writeArrayElement]
    cases list : (obj.get .relinquishDefault).asList? with
    | none => rfl
    | some items =>
      by_cases outside : index < 1 ∨ items.length < index
      · simp only [if_pos outside, propertyError]
      · have inside : index - 1 < items.length := by omega
        have here := same items list (by omega) (by omega)
        rw [List.getElem?_eq_getElem inside, Option.some.injEq] at here
        simp only [if_neg outside]
        rw [get_set_self _ (by decide), Value.asList?_eq_some.mp list, ← here,
          List.set_getElem_self]

/-- The writes that keep priorities keep an object resolved. -/
theorem resolved_storeValue (resolved : Resolved obj slots) (commands : obj.commands = some slots)
    (accepted : prop ∉ fixedProperties)
    (keeps : obj.KeepsPriorities slots prop (coerceValue definition value) priority arrayIndex now)
    : ∃ others,
        (storeValue definition prop value priority arrayIndex now obj).2.commands = some others
        ∧ Resolved (storeValue definition prop value priority arrayIndex now obj).2 others := by
  by_cases present : prop = .presentValue
  · subst present
    have commanded : obj.commandsOf .presentValue = some slots := by
      rw [commandsOf, if_pos rfl, commands]
    rw [storeValue_command commanded]
    exact resolved_writeWithPriority resolved commands (keeps.2 rfl)
  · have agrees : Agrees [prop] obj
        (storeValue definition prop value priority arrayIndex now obj).2 := by
      have touched : Agrees (touchedBy prop) obj
          (storeValue definition prop value priority arrayIndex now obj).2 := agrees_storeValue
      rwa [touchedBy, if_neg present] at touched
    by_cases default : prop = .relinquishDefault
    · subst default
      have sameCommands := commands_of_agrees agrees (by decide)
      refine ⟨slots, sameCommands.trans commands, ?_⟩
      have sameSlot : (storeValue definition .relinquishDefault value priority arrayIndex now
          obj).2.commandingSlot slots = obj.commandingSlot slots := by
        unfold commandingSlot
        cases winning : winningSlot? slots with
        | some slot => rfl
        | none => rw [get_relinquishDefault (keeps.1 rfl winning)]
      refine ⟨agrees.cls ▸ resolved.declared, ?_, ?_, ?_, ?_⟩
      · rw [reversed, agrees.cls, agrees.stored _ (by decide)]
        exact resolved.straight
      · rw [agrees.get (by decide), sameSlot, resolved.presentValue]
      · rw [agrees.get (by decide), sameSlot, resolved.valueSource]
      · rw [agrees.get (by decide), sameSlot, resolved.lastCommandTime]
    · have apart : ∀ other ∈ commandingProperties, other ∉ [prop] := by
        intro other member same
        obtain rfl := List.mem_singleton.mp same
        simp only [commandingProperties, List.mem_cons, List.not_mem_nil, or_false] at member
        rcases member with rfl | rfl | rfl | rfl | rfl | rfl | rfl | rfl
        · exact present rfl
        · exact default rfl
        all_goals exact accepted (by decide)
      have same := sameCommands_of_agrees agrees apart
      exact ⟨slots, same.commands.trans commands, resolved.transport same⟩

-- Construction

variable {cls : ObjectClass} {instanceNumber : Fin 4194304}
  {initialProperties : List (PropertyIdentifier × Value)} {relinquishDefault : Value}

/-- The value a property starts with: the initial one, or else the default of the class. -/
def startingValue (cls : ObjectClass) (initialProperties : List (PropertyIdentifier × Value))
    (prop : PropertyIdentifier)
    : Option Value :=
  (initialProperties.reverse.findSome? fun entry => if entry.1 = prop then some entry.2 else none).or
    (cls.propertyDefinitions.reverse.findSome? fun definition =>
      if definition.identifier = prop ∧ definition.default ≠ .none then some definition.default
      else none)

/-- The present value starts as the Relinquish_Default, which is that of the constructor if
there is no other, and is read as it is.
-/
def StartsPrioritised (cls : ObjectClass) (initialProperties : List (PropertyIdentifier × Value))
    (relinquishDefault : Value)
    : Prop :=
  (startingValue cls initialProperties .presentValue).getD .none
      = (startingValue cls initialProperties .relinquishDefault).getD relinquishDefault
    ∧ (cls.binaryPolarity && ((startingValue cls initialProperties .polarity).getD
        (.enum polarityEnum 0)).pyEq (.int 1)) = false

/-- The last entry that assigns to a property decides, by induction from the end. -/
theorem stored_foldl {Entry : Type} {change assigned}
    (each : ∀ obj entry, (change obj entry).stored prop = (assigned entry).or (obj.stored prop))
    (entries : List Entry) (obj : BACnetObject)
    : (entries.foldl change obj).stored prop
      = (entries.reverse.findSome? assigned).or (obj.stored prop) := by
  induction entries using List.reverseRecOn with
  | nil => rfl
  | append_singleton entries entry ih =>
    rw [List.foldl_append, List.foldl_cons, List.foldl_nil, each, ih, List.reverse_append]
    cases assigned? : assigned entry <;> simp [assigned?]

theorem stored_set (notArray : prop ∉ [.priorityArray, .valueSourceArray, .commandTimeArray])
    (other : PropertyIdentifier)
    : (obj.set other value).stored prop
      = (if other = prop then some value else none).or (obj.stored prop) := by
  by_cases same : other = prop
  · subst same
    rw [if_pos rfl, stored_set_self _ notArray]
    rfl
  · rw [if_neg same, stored_set_ne (Ne.symm same)]
    rfl

/-- The common part of the constructors gives properties their starting values. -/
theorem stored_baseInit (notArray : prop ∉ [.priorityArray, .valueSourceArray, .commandTimeArray])
    (notIdentifying : prop ∉ [.objectIdentifier, .objectType])
    : (baseInit cls instanceNumber initialProperties).stored prop
      = startingValue cls initialProperties prop := by
  simp only [List.mem_cons, List.not_mem_nil, or_false, not_or] at notIdentifying
  have defaults : ∀ (obj : BACnetObject) (definition : PropertyDefinition),
      (if definition.default = .none then obj
        else obj.set definition.identifier definition.default).stored prop
      = (if definition.identifier = prop ∧ definition.default ≠ .none then some definition.default
        else none).or (obj.stored prop) := by
    intro obj definition
    by_cases missing : definition.default = .none
    · simp [missing]
    · rw [if_neg missing, stored_set notArray]
      simp [missing]
  unfold baseInit startingValue
  dsimp only
  rw [stored_foldl (fun obj entry => stored_set notArray entry.1),
    stored_set_ne notIdentifying.2, stored_set_ne notIdentifying.1, stored_foldl defaults]
  exact congrArg _ (Option.or_none)

/-- The assignments of a constructor do not concern the commands. -/
theorem sameCommands_initSteps {steps : List InitStep}
    (apart : ∀ assigned ∈ steps, assigned.prop ∉ commandingProperties) (obj : BACnetObject)
    : SameCommands obj (steps.foldl initialize_ obj) := by
  induction steps generalizing obj with
  | nil => exact .refl obj
  | cons assigned rest ih =>
    have agrees : Agrees [assigned.prop] obj (initialize_ obj assigned) := by
      cases assigned with
      | setDefault prop value =>
        unfold initialize_
        dsimp only
        split
        · exact .refl obj
        · exact agrees_set value (List.mem_singleton_self _)
      | set prop value => exact agrees_set value (List.mem_singleton_self _)
    have first : SameCommands obj (initialize_ obj assigned) := by
      apply sameCommands_of_agrees agrees
      intro prop member same
      exact apart assigned List.mem_cons_self (List.mem_singleton.mp same ▸ member)
    exact first.trans (ih (fun other member => apart other (List.mem_cons_of_mem _ member)) _)

/-- The commands of an object that is set up. -/
theorem commands_setup
    : (cls.setup.foldl initialize_ (baseInit cls instanceNumber initialProperties)).commands
      = none := by
  have kept : ∀ (obj : BACnetObject) prop value, (obj.set prop value).commands = obj.commands :=
    fun _ _ _ => rfl
  exact (initialize_keeps kept _ _).trans (baseInit_keeps kept cls instanceNumber initialProperties)

/-- An object has commands if `_init_commandable` is called, and then they are all null. -/
theorem commands_construct
    : (construct cls instanceNumber initialProperties).commands
      = cls.commandable.map fun _ => Vector.replicate 16 {} := by
  have kept : ∀ (obj : BACnetObject) prop value, (obj.set prop value).commands = obj.commands :=
    fun _ _ _ => rfl
  unfold construct
  dsimp only
  rw [initialize_keeps kept]
  cases cls.commandable with
  | none => exact commands_setup
  | some relinquishDefault =>
    dsimp only [Option.elim, initCommandable]
    split <;> rfl

/-- An object with a Relinquish_Default, given commands that are all null, is resolved if its
present value is that default.
-/
theorem resolved_initCommandable (uncommanded : obj.commands = none)
    (declared : (obj.cls.definition? .presentValue).isSome) (straight : obj.reversed = false)
    (same : obj.get .presentValue = (obj.stored .relinquishDefault).getD relinquishDefault)
    : Resolved (obj.initCommandable relinquishDefault) (Vector.replicate 16 {}) := by
  have vacant : winningSlot? (Vector.replicate 16 {}) = none := by decide
  have plain : ∀ prop ∈ [PropertyIdentifier.presentValue, .relinquishDefault, .polarity],
      ({ obj with commands := some (Vector.replicate 16 {}) } : BACnetObject).stored prop
        = obj.stored prop := by
    intro prop member
    simp only [List.mem_cons, List.not_mem_nil, or_false] at member
    unfold stored
    rw [uncommanded]
    rcases member with rfl | rfl | rfl <;> rfl
  obtain ⟨withDefault, defaulted, value, polarity, default, sameClass⟩ :
      ∃ withDefault : BACnetObject,
        obj.initCommandable relinquishDefault
          = (withDefault.set .valueSource .noneSource).set .lastCommandTime .none
        ∧ withDefault.get .presentValue = obj.get .presentValue
        ∧ withDefault.stored .polarity = obj.stored .polarity
        ∧ withDefault.get .relinquishDefault
          = (obj.stored .relinquishDefault).getD relinquishDefault
        ∧ withDefault.cls = obj.cls := by
    refine ⟨_, rfl, ?_⟩
    have bareClass : ({ obj with commands := some (Vector.replicate 16 {}) } : BACnetObject).cls
        = obj.cls := rfl
    revert plain bareClass
    generalize ({ obj with commands := some (Vector.replicate 16 {}) } : BACnetObject) = bare
    intro plain bareClass
    have value := plain .presentValue (by decide)
    have polarity := plain .polarity (by decide)
    have default := plain .relinquishDefault (by decide)
    cases present : obj.stored .relinquishDefault with
    | some other =>
      rw [present] at default
      rw [if_pos (by rw [default]; rfl), get, get, get, value, default]
      exact ⟨rfl, polarity, rfl, bareClass⟩
    | none =>
      rw [present] at default
      rw [if_neg (by simp [default]), get_set_ne (by decide), stored_set_ne (by decide),
        get_set_self _ (by decide), get, get, value]
      exact ⟨rfl, polarity, rfl, bareClass⟩
  have commanding : (obj.initCommandable relinquishDefault).commandingSlot (Vector.replicate 16 {})
      = { value := (obj.stored .relinquishDefault).getD relinquishDefault } := by
    rw [commandingSlot, vacant, defaulted, get_set_ne (by decide), get_set_ne (by decide), default]
    rfl
  refine ⟨?_, ?_, ?_, ?_, ?_⟩
  · rw [defaulted]
    exact sameClass ▸ declared
  · rw [reversed, defaulted, stored_set_ne (by decide), stored_set_ne (by decide), polarity]
    exact sameClass ▸ straight
  · rw [commanding, defaulted, get_set_ne (by decide), get_set_ne (by decide), value, same]
  · rw [commanding, defaulted, get_set_ne (by decide), get_set_self _ (by decide)]
  · rw [commanding, defaulted, get_set_self _ (by decide)]

theorem resolved_construct (commandable : cls.commandable = some relinquishDefault)
    (starts : StartsPrioritised cls initialProperties relinquishDefault)
    : Resolved (construct cls instanceNumber initialProperties) (Vector.replicate 16 {}) := by
  have setUp : SameCommands (baseInit cls instanceNumber initialProperties)
      (cls.setup.foldl initialize_ (baseInit cls instanceNumber initialProperties)) :=
    sameCommands_initSteps (fun assigned member =>
      cls.apartFromCommands assigned (List.mem_append_left _ member)) _
  have startingStored : ∀ prop ∈ [PropertyIdentifier.presentValue, .relinquishDefault, .polarity],
      (cls.setup.foldl initialize_ (baseInit cls instanceNumber initialProperties)).stored prop
        = startingValue cls initialProperties prop := by
    intro prop member
    have covered : prop ∈ commandingProperties := by
      revert prop
      decide
    rw [setUp.stored prop covered]
    apply stored_baseInit <;> revert prop <;> decide
  have sameClass : (cls.setup.foldl initialize_
      (baseInit cls instanceNumber initialProperties)).cls = cls :=
    setUp.cls.trans (baseInit_keeps (fun _ _ _ => rfl) cls instanceNumber initialProperties)
  unfold construct
  dsimp only
  rw [commandable]
  refine Resolved.transport ?_ (sameCommands_initSteps (fun assigned member =>
    cls.apartFromCommands assigned (List.mem_append_right _ member)) _)
  apply resolved_initCommandable commands_setup
  · rw [sameClass]
    have some : cls.commandable ≠ none := by simp [commandable]
    simpa [ObjectClass.definition?] using cls.valueDeclared some
  · rw [reversed, sameClass, startingStored _ (by decide)]
    exact starts.2
  · rw [get, startingStored _ (by decide), startingStored _ (by decide)]
    exact starts.1

end BACnetObject

end BacPy
