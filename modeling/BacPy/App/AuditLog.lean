import BacPy.Library.Paging
import BacPy.Objects.PlainObjects
import BacPy.Objects.TrendLog

/-! `AuditLogObject` (Clause 12.64), and the runs of appends, property writes and queries on one of
them.
-/

namespace BacPy

open Library

def auditLogObject : ObjectClass where
  objectType := .auditLog
  propertyDefinitions := standardProperties ++ statusProperties.take 3 ++ [
    readWrite .logEnable .bool true (.bool false),
    readOnly .logBuffer .list true,
    readWrite .recordCount .int true (.int 0),
    readOnly .totalRecordCount .int true (.int 0),
    readWrite .bufferSize .int true (.int 100),
    readWrite .stopWhenFull .bool true (.bool false),
    readWrite .auditLevel .int true (.enum auditLevelEnum 3),
    readWrite .auditableOperations .bitString true
  ]
  completion := [initStatusFlags, .setDefault .logBuffer (.list [])]
  valueDeclared := by simp

namespace AuditLog

/-- `self._properties.get(PropertyIdentifier.BUFFER_SIZE, 100)` -/
def bufferSize (obj : BACnetObject) : Value := (obj.stored .bufferSize).getD (.int 100)

def buffer (obj : BACnetObject) : List Value := (obj.get .logBuffer).asList?.getD []

def sequenceNumber : Value → Nat
  | .other foreign => foreign.label
  | _ => 0

def queryRecords (obj : BACnetObject) (startAt : Option Nat) (count : Int) : List Value × Bool :=
  page sequenceNumber (buffer obj) startAt count

/-- Queries until there are no more records, each from behind the last record returned. -/
def queryAll (obj : BACnetObject) (startAt : Option Nat) (count : Int) (fuel : Nat)
    : Option (List Value) :=
  pages sequenceNumber (buffer obj) count fuel startAt

-- Runs

/-- What happens to an audit log: operations are recorded, clients write properties and query. -/
inductive Event where
  | append
  | write (prop : PropertyIdentifier) (value : Value) (priority arrayIndex : Option Nat)
    (now : Float)
  | query (startAt : Option Nat) (count : Int)

/-- An audit log object, and whether an append to it has raised. -/
structure State where
  obj : BACnetObject
  raised : Bool := false

/-- A step: an append, whatever comes of it, a write that is accepted, or a query. -/
def step (state : State) : Event → Option State
  | .append =>
    match BACnetObject.appendRecord state.obj with
    | (.ok (), obj) => some { state with obj }
    | (.error _, obj) => some { obj, raised := true }
  | .write prop value priority arrayIndex now =>
    match BACnetObject.writeAlone prop value priority arrayIndex now state.obj with
    | (.ok (), obj) => some { state with obj }
    | (.error _, _) => none
  | .query _ _ => some state

/-- A new audit log, with what its constructor was given. -/
def start (instanceNumber : Fin 4194304)
    (initialProperties : List (PropertyIdentifier × Value))
    : State :=
  { obj := BACnetObject.construct auditLogObject instanceNumber initialProperties }

/-- Records with consecutive sequence numbers. -/
def consecutive (first count : Nat) : List Value :=
  (List.range' first count).map BACnetObject.auditRecord

/-- No append has raised, Log_Buffer does not hold more records than Buffer_Size says, and their
sequence numbers are consecutive.
-/
structure Correct (state : State) : Prop where
  silent : state.raised = false
  bounded : ¬ Value.Exceeds (buffer state.obj).length (bufferSize state.obj)
  numbered : ∃ first, state.obj.stored .logBuffer
    = some (.list (consecutive first (buffer state.obj).length))

/-- The appends that neither raise nor exceed Buffer_Size: the log is disabled, or the size is a
number, room for one record at least if old records give way to new ones, and not exceeded by one
more record if it is not reached.
-/
def Appendable (obj : BACnetObject) : Prop :=
  (obj.get .logEnable).truthy →
    (bufferSize obj).isNumber ∧
      if Value.Reaches (buffer obj).length (bufferSize obj) then
        (obj.get .stopWhenFull).truthy ∨ buffer obj ≠ []
      else ¬ Value.Exceeds ((buffer obj).length + 1) (bufferSize obj)

/-- The steps that keep an audit log correct. -/
def Allowed (state : State) : Event → Prop
  | .append => Appendable state.obj
  | .write prop value _ arrayIndex _ =>
    prop = .bufferSize → arrayIndex = none
      → ¬ Value.Exceeds (buffer state.obj).length value
  | .query _ _ => True

instance (obj : BACnetObject) : Decidable (Appendable obj) := by
  delta Appendable
  infer_instance

instance : ∀ state event, Decidable (Allowed state event)
  | _, .append => inferInstanceAs (Decidable (Appendable _))
  | _, .write .. => inferInstanceAs (Decidable (_ → _ → _))
  | _, .query .. => inferInstanceAs (Decidable True)

end AuditLog

end BacPy

/-! Which runs keep an audit log correct, and what its queries return. -/

namespace BacPy

open Library

namespace AuditLog

variable {obj after : BACnetObject} {items : List Value} {value : Value}
  {prop : PropertyIdentifier} {priority arrayIndex : Option Nat} {now : Float}
  {state next : State} {event : Event}

-- Consecutive records

theorem length_consecutive (first count : Nat) : (consecutive first count).length = count := by
  simp [consecutive]

theorem consecutive_append (first count : Nat)
    : consecutive first count ++ [BACnetObject.auditRecord (first + count)]
      = consecutive first (count + 1) := by
  simp [consecutive, List.range'_concat]

theorem tail_consecutive (first count : Nat)
    : (consecutive first count).tail = consecutive (first + 1) (count - 1) := by
  cases count with
  | zero => rfl
  | succ count => simp [consecutive, List.range'_succ]

theorem increasing_consecutive (first count : Nat)
    : (consecutive first count).Pairwise fun one other => sequenceNumber one < sequenceNumber other := by
  rw [consecutive, List.pairwise_map]
  exact List.pairwise_lt_range'

-- Appends

/-- An object whose buffer and counts were updated for a record with the next number. -/
def recorded (obj : BACnetObject) (items : List Value) : BACnetObject :=
  let counted := { obj with sequenceCounter := obj.sequenceCounter + 1 }
  ((counted.set .logBuffer (.list items)).set .recordCount (.int items.length)).set
    .totalRecordCount (.int (obj.sequenceCounter + 1))

theorem stored_recorded : (recorded obj items).stored .logBuffer = some (.list items) := by
  unfold recorded
  dsimp only
  rw [BACnetObject.stored_set_ne (by decide), BACnetObject.stored_set_ne (by decide),
    BACnetObject.stored_set_self _ (by decide)]

theorem stored_recorded_ne (untouched : prop ∉ [.logBuffer, .recordCount, .totalRecordCount])
    : (recorded obj items).stored prop = obj.stored prop := by
  simp only [List.mem_cons, List.not_mem_nil, or_false, not_or] at untouched
  unfold recorded
  dsimp only
  rw [BACnetObject.stored_set_ne untouched.2.2, BACnetObject.stored_set_ne untouched.2.1,
    BACnetObject.stored_set_ne untouched.1]
  rfl

theorem bufferSize_recorded : bufferSize (recorded obj items) = bufferSize obj := by
  rw [bufferSize, bufferSize, stored_recorded_ne (by decide)]

theorem buffer_eq (stored : obj.stored .logBuffer = some (.list items)) : buffer obj = items := by
  simp [buffer, BACnetObject.get, stored]

/-- What an append can do: nothing, raise, add a record, or put it in the place of the oldest. -/
theorem appendRecord_cases (stored : obj.stored .logBuffer = some (.list items))
    : (¬ (obj.get .logEnable).truthy ∧ BACnetObject.appendRecord obj = (.ok (), obj))
      ∨ ((obj.get .logEnable).truthy ∧ (bufferSize obj).isNumber ∧
          Value.Reaches items.length (bufferSize obj) ∧ (obj.get .stopWhenFull).truthy
          ∧ BACnetObject.appendRecord obj = (.ok (), obj))
      ∨ ((obj.get .logEnable).truthy
        ∧ (¬ (bufferSize obj).isNumber
          ∨ Value.Reaches items.length (bufferSize obj) ∧ ¬ (obj.get .stopWhenFull).truthy
            ∧ items = [])
        ∧ ∃ raised reached, BACnetObject.appendRecord obj = (.error raised, reached))
      ∨ ((obj.get .logEnable).truthy ∧ (bufferSize obj).isNumber
        ∧ ¬ Value.Reaches items.length (bufferSize obj)
        ∧ BACnetObject.appendRecord obj
          = (.ok (), recorded obj
              (items ++ [BACnetObject.auditRecord (obj.sequenceCounter + 1)])))
      ∨ ((obj.get .logEnable).truthy ∧ (bufferSize obj).isNumber
        ∧ Value.Reaches items.length (bufferSize obj) ∧ items ≠ []
        ∧ BACnetObject.appendRecord obj
          = (.ok (), recorded obj
              (items.tail ++ [BACnetObject.auditRecord (obj.sequenceCounter + 1)]))) := by
  have full : BACnetObject.bufferFull (.list items) (bufferSize obj)
      = if (bufferSize obj).isNumber then
          .ok (decide (Value.Reaches items.length (bufferSize obj)))
        else .error (.typeError "'>=' not supported between these types") :=
    rfl
  have asList : (Value.list items).asList? = some items := rfl
  unfold BACnetObject.appendRecord
  dsimp only
  have size : (obj.stored .bufferSize).getD (.int 100) = bufferSize obj := rfl
  rw [stored, Option.getD_some, size]
  simp only [BACnetObject.appendedTo, full, asList, Option.getD_some]
  by_cases enabled : (obj.get .logEnable).truthy
  · by_cases number : (bufferSize obj).isNumber
    · by_cases reached : Value.Reaches items.length (bufferSize obj)
      · by_cases stops : (obj.get .stopWhenFull).truthy
        · simp [enabled, number, reached, stops]
        · cases items with
          | nil =>
            rw [List.length_nil] at reached
            simp [enabled, number, reached, stops, bind, Except.bind]
          | cons oldest rest =>
            rw [List.length_cons] at reached
            simp [enabled, number, reached, stops, bind, Except.bind, recorded]
      · by_cases stops : (obj.get .stopWhenFull).truthy
        · simp [enabled, number, reached, stops, bind, Except.bind, recorded]
        · simp [enabled, number, reached, stops, bind, Except.bind, recorded]
    · by_cases stops : (obj.get .stopWhenFull).truthy
      · simp [enabled, number, stops]
      · simp [enabled, number, stops, bind, Except.bind]
  · simp [enabled]

-- Writes

theorem writeAlone_cases (cls : obj.cls = auditLogObject) (plain : obj.commands = none)
    (accepted : BACnetObject.writeAlone prop value priority arrayIndex now obj = (.ok (), after))
    : prop ≠ .logBuffer ∧ after.cls = auditLogObject ∧ after.commands = none
      ∧ after.sequenceCounter = obj.sequenceCounter
      ∧ (∀ other, other ≠ prop → after.stored other = obj.stored other)
      ∧ (prop = .bufferSize
        → (arrayIndex = none ∧ after.stored prop = some value)
          ∨ (arrayIndex ≠ none ∧ ∃ new, after.stored prop = some (.list new))) := by
  have fixed : ∀ definition ∈ auditLogObject.definition? .logBuffer,
      definition.access = .readOnly := by
    decide
  have whole : ∀ definition ∈ auditLogObject.definition? .bufferSize,
      definition.datatype = .int := by
    decide
  obtain ⟨definition, stored, writable, rfl, outcome⟩ :=
    BACnetObject.writeAlone_plain plain accepted
  obtain ⟨declared, open_⟩ := BACnetObject.writable_eq_ok writable
  rw [cls] at declared
  refine ⟨?_, cls, plain, rfl, fun other different => BACnetObject.stored_set_ne different _, ?_⟩
  · rintro rfl
    exact absurd (open_ (fixed definition declared)) (by decide)
  · rintro rfl
    rcases outcome with ⟨unindexed, rfl⟩ | ⟨indexed, old, new, list, rfl⟩
    · refine .inl ⟨unindexed, ?_⟩
      rw [BACnetObject.stored_set_plain plain,
        BACnetObject.coerceValue_int (whole definition declared)]
    · exact .inr ⟨indexed, new, BACnetObject.stored_set_plain plain⟩

-- The invariant

/-- A correct state of an audit log whose last record has the current number. -/
structure Inv (state : State) : Prop where
  silent : state.raised = false
  bounded : ¬ Value.Exceeds (buffer state.obj).length (bufferSize state.obj)
  cls : state.obj.cls = auditLogObject
  plain : state.obj.commands = none
  counted : ∃ first count, first + count = state.obj.sequenceCounter + 1
    ∧ state.obj.stored .logBuffer = some (.list (consecutive first count))

theorem Inv.correct (inv : Inv state) : Correct state := by
  obtain ⟨first, count, _, stored⟩ := inv.counted
  refine ⟨inv.silent, inv.bounded, first, ?_⟩
  rw [buffer_eq stored, length_consecutive]
  exact stored

/-- One more record than a size that is reached and not exceeded replaces the oldest one. -/
theorem inv_append (inv : Inv state) (allowed : Appendable state.obj)
    (moved : step state .append = some next)
    : Inv next := by
  obtain ⟨first, count, last, stored⟩ := inv.counted
  have within := inv.bounded
  unfold Appendable at allowed
  rw [buffer_eq stored] at allowed within
  unfold step at moved
  rcases appendRecord_cases stored with ⟨_, kept⟩ | ⟨_, _, _, _, kept⟩
      | ⟨enabled, failure, raised, reached, failed⟩ | ⟨enabled, number, below, added⟩
      | ⟨enabled, number, reached, some, replaced⟩
  · simp only [kept, Option.some.injEq] at moved
    exact moved ▸ inv
  · simp only [kept, Option.some.injEq] at moved
    exact moved ▸ inv
  · obtain ⟨number, room⟩ := allowed enabled
    rcases failure with notNumber | ⟨full, circular, empty⟩
    · exact absurd number notNumber
    · rw [if_pos full] at room
      rcases room with stops | nonempty
      · exact absurd stops circular
      · exact absurd empty nonempty
  · simp only [added, Option.some.injEq] at moved
    obtain ⟨_, room⟩ := allowed enabled
    rw [if_neg below] at room
    subst moved
    refine ⟨inv.silent, ?_, inv.cls, inv.plain, first, count + 1, ?_, ?_⟩
    · rw [buffer_eq stored_recorded, bufferSize_recorded, List.length_append, List.length_singleton]
      exact room
    · change first + (count + 1) = state.obj.sequenceCounter + 1 + 1
      omega
    · rw [← last, consecutive_append]
      exact stored_recorded
  · simp only [replaced, Option.some.injEq] at moved
    have positive : 0 < count := by
      rw [← length_consecutive first count]
      exact List.length_pos_iff.mpr some
    subst moved
    refine ⟨inv.silent, ?_, inv.cls, inv.plain, first + 1, count, ?_, ?_⟩
    · rw [buffer_eq stored_recorded, bufferSize_recorded, List.length_append, List.length_singleton,
        List.length_tail, Nat.sub_add_cancel (List.length_pos_iff.mpr some)]
      exact within
    · change first + 1 + count = state.obj.sequenceCounter + 1 + 1
      omega
    · have shifted : first + count = first + 1 + (count - 1) := by omega
      rw [← last, tail_consecutive, shifted, consecutive_append, Nat.sub_add_cancel positive]
      exact stored_recorded

theorem list_not_exceeded (items : List Value) (count : Nat)
    : ¬ Value.Exceeds count (.list items) := by
  simp [Value.Exceeds, Value.compareNumbers, Value.asInt?, Value.asFloat?]

theorem inv_write (inv : Inv state)
    (allowed : Allowed state (.write prop value priority arrayIndex now))
    (moved : step state (.write prop value priority arrayIndex now) = some next)
    : Inv next := by
  unfold step at moved
  dsimp only at moved
  split at moved
  · next obj accepted =>
      cases moved
      obtain ⟨notBuffer, cls, plain, counter, others, resized⟩ :=
        writeAlone_cases inv.cls inv.plain accepted
      obtain ⟨first, count, last, stored⟩ := inv.counted
      have kept := (others .logBuffer (Ne.symm notBuffer)).trans stored
      unfold Allowed at allowed
      rw [buffer_eq stored] at allowed
      refine ⟨inv.silent, ?_, cls, plain, first, count, ?_, kept⟩
      · dsimp only
        rw [buffer_eq kept]
        by_cases size : prop = .bufferSize
        · rcases resized size with ⟨whole, written⟩ | ⟨_, new, written⟩
          · rw [size] at written
            rw [bufferSize, written]
            exact allowed size whole
          · rw [size] at written
            rw [bufferSize, written]
            exact list_not_exceeded new _
        · rw [bufferSize, others .bufferSize (Ne.symm size)]
          rw [← buffer_eq stored]
          exact inv.bounded
      · rw [last]
        exact congrArg (· + 1) counter.symm
  · cases moved

/-- Another append raises, or stores one record more than Buffer_Size says. -/
theorem not_correct_append (inv : Inv state) (refused : ¬ Appendable state.obj)
    (moved : step state .append = some next)
    : ¬ Correct next := by
  intro correct
  obtain ⟨first, count, last, stored⟩ := inv.counted
  unfold Appendable at refused
  rw [buffer_eq stored] at refused
  unfold step at moved
  rcases appendRecord_cases stored with ⟨disabled, kept⟩ | ⟨enabled, number, reached, stops, kept⟩
      | ⟨_, _, raised, reached, failed⟩ | ⟨enabled, number, below, added⟩
      | ⟨enabled, number, reached, some, replaced⟩
  · exact refused fun enabled => absurd enabled disabled
  · refine refused fun _ => ⟨number, ?_⟩
    rw [if_pos reached]
    exact .inl stops
  · simp only [failed, Option.some.injEq] at moved
    subst moved
    cases correct.silent
  · simp only [added, Option.some.injEq] at moved
    subst moved
    have bounded := correct.bounded
    dsimp only at bounded
    rw [buffer_eq stored_recorded, bufferSize_recorded, List.length_append,
      List.length_singleton] at bounded
    refine refused fun _ => ⟨number, ?_⟩
    rw [if_neg below]
    exact bounded
  · refine refused fun _ => ⟨number, ?_⟩
    rw [if_pos reached]
    exact .inr some

/-- Another write leaves more records than Buffer_Size says. -/
theorem not_correct_write (inv : Inv state)
    (refused : ¬ Allowed state (.write prop value priority arrayIndex now))
    (moved : step state (.write prop value priority arrayIndex now) = some next)
    : ¬ Correct next := by
  intro correct
  unfold Allowed at refused
  push Not at refused
  obtain ⟨resizing, whole, exceeded⟩ := refused
  unfold step at moved
  dsimp only at moved
  split at moved
  · next obj accepted =>
      cases moved
      obtain ⟨notBuffer, _, _, _, others, resized⟩ :=
        writeAlone_cases inv.cls inv.plain accepted
      obtain ⟨first, count, _, stored⟩ := inv.counted
      have kept := (others .logBuffer (Ne.symm notBuffer)).trans stored
      have bounded := correct.bounded
      dsimp only at bounded
      rw [buffer_eq kept] at bounded
      rw [buffer_eq stored] at exceeded
      rcases resized resizing with ⟨_, written⟩ | ⟨indexed, _⟩
      · rw [resizing] at written
        rw [bufferSize, written] at bounded
        exact bounded exceeded
      · exact absurd whole indexed
  · cases moved

-- Runs

/-- A new audit log whose buffer was not given is empty. -/
theorem stored_start (instanceNumber : Fin 4194304) {initialProperties}
    (notGiven : ∀ entry ∈ initialProperties, entry.1 ≠ .logBuffer)
    : (start instanceNumber initialProperties).obj.stored .logBuffer = some (.list []) := by
  have defaults : ∀ assigned ∈ auditLogObject.setup ++ auditLogObject.completion,
      ∃ other value, assigned = .setDefault other value := by
    simp [auditLogObject, initStatusFlags]
  unfold start
  dsimp only
  rw [BACnetObject.stored_construct rfl defaults (by decide) (by decide),
    BACnetObject.startingValue_of_not_given notGiven]
  decide

theorem sequenceCounter_construct {cls instanceNumber initialProperties}
    (plain : cls.commandable = none)
    : (BACnetObject.construct cls instanceNumber initialProperties).sequenceCounter = 0 := by
  have kept : ∀ (obj : BACnetObject) prop value,
      (obj.set prop value).sequenceCounter = obj.sequenceCounter :=
    fun _ _ _ => rfl
  unfold BACnetObject.construct
  dsimp only
  rw [BACnetObject.initialize_keeps kept, plain]
  exact (BACnetObject.initialize_keeps kept _ _).trans (BACnetObject.baseInit_keeps kept _ _ _)

theorem inv_start {instanceNumber initialProperties}
    (notGiven : ∀ entry ∈ initialProperties, entry.1 ≠ .logBuffer)
    (natural : ¬ Value.Exceeds 0 (bufferSize (start instanceNumber initialProperties).obj))
    : Inv (start instanceNumber initialProperties) := by
  have empty := stored_start instanceNumber notGiven
  refine ⟨rfl, ?_, BACnetObject.cls_construct, BACnetObject.commands_construct, 1, 0, ?_, empty⟩
  · rw [buffer_eq empty]
    exact natural
  · rw [show (start instanceNumber initialProperties).obj.sequenceCounter = 0 from
      sequenceCounter_construct rfl]

/-- Every allowed step keeps the invariant. -/
theorem inv_step (inv : Inv state) (allowed : Allowed state event)
    (moved : step state event = some next)
    : Inv next := by
  cases event with
  | append => exact inv_append inv allowed moved
  | write prop value priority arrayIndex now => exact inv_write inv allowed moved
  | query startAt count => exact Option.some.inj moved ▸ inv

/-- Repeated queries return the records from the start on, if they ask for any. -/
theorem Inv.queryAll_iff (inv : Inv state) (startAt : Option Nat) (count : Int)
    : (∃ fuel, queryAll state.obj startAt count fuel
          = some (itemsFrom sequenceNumber (buffer state.obj) startAt))
      ↔ 0 < count ∨ count = 0 ∧ itemsFrom sequenceNumber (buffer state.obj) startAt = [] := by
  obtain ⟨first, number, _, stored⟩ := inv.counted
  unfold queryAll
  rw [buffer_eq stored]
  exact exists_pages_iff (increasing_consecutive first number)

/-- A run of an audit log is correct throughout exactly if its size is not negative at first and
every step is allowed. In such runs the pages of repeated queries are the records from the start
on, each of them once, exactly if the count is positive, or zero where there is no record.
-/
theorem auditLog_correct_iff (instanceNumber : Fin 4194304)
    (initialProperties : List (PropertyIdentifier × Value))
    (notGiven : ∀ entry ∈ initialProperties, entry.1 ≠ .logBuffer) (events : List Event)
    : (Always step Correct (start instanceNumber initialProperties) events
        ↔ ¬ Value.Exceeds 0 (bufferSize (start instanceNumber initialProperties).obj)
          ∧ Meets step Allowed (start instanceNumber initialProperties) events)
      ∧ ∀ final, Always step Correct (start instanceNumber initialProperties) events
        → run step (start instanceNumber initialProperties) events = some final
        → ∀ startAt count,
          (∃ fuel, queryAll final.obj startAt count fuel
              = some (itemsFrom sequenceNumber (buffer final.obj) startAt))
            ↔ 0 < count ∨ count = 0 ∧ itemsFrom sequenceNumber (buffer final.obj) startAt = [] := by
  have exactly (natural : ¬ Value.Exceeds 0 (bufferSize (start instanceNumber initialProperties).obj))
      : Always step Correct (start instanceNumber initialProperties) events
        ↔ Meets step Allowed (start instanceNumber initialProperties) events := by
    refine always_iff_meets inv_step Inv.correct ?_ (inv_start notGiven natural)
    intro state event next inv refused moved
    cases event with
    | append => exact not_correct_append inv refused moved
    | write prop value priority arrayIndex now => exact not_correct_write inv refused moved
    | query startAt count => exact absurd trivial refused
  have natural (always : Always step Correct (start instanceNumber initialProperties) events)
      : ¬ Value.Exceeds 0 (bufferSize (start instanceNumber initialProperties).obj) := by
    have first : Correct (start instanceNumber initialProperties) := by
      cases events with
      | nil => exact always
      | cons event rest => exact always.1
    have bounded := first.bounded
    rwa [buffer_eq (stored_start instanceNumber notGiven)] at bounded
  refine ⟨⟨fun always => ⟨natural always, (exactly (natural always)).mp always⟩,
    fun ⟨notNegative, meets⟩ => (exactly notNegative).mpr meets⟩, ?_⟩
  intro final always ran startAt count
  have meets := (exactly (natural always)).mp always
  exact (invariant_run inv_step (inv_start notGiven (natural always)) meets ran).queryAll_iff
    startAt count

/-- A log of size two that records three operations. -/
theorem auditLog_correct_circular
    : Always step Correct (start 1 [(.bufferSize, .int 2), (.logEnable, .bool true)])
        [.append, .append, .append] :=
  (auditLog_correct_iff 1 [(.bufferSize, .int 2), (.logEnable, .bool true)] (by decide) _).1.mpr
    ⟨by decide +kernel, by decide +kernel⟩

/-- An enabled log whose size is written as zero raises when an operation is recorded. -/
theorem not_auditLog_correct
    : ¬ ∀ events, Always step Correct (start 1 [(.logEnable, .bool true)]) events := by
  intro always
  have raises : (run step (start 1 [(.logEnable, .bool true)])
      [.write .bufferSize (.int 0) none none 0, .append]).any (·.raised) := by
    decide +kernel
  obtain ⟨final, ran, raised⟩ := (Option.any_eq_true _ _).mp raises
  have correct : Correct final :=
    always_iff_prefixes.mp (always _) _ [] final (List.append_nil _).symm ran
  rw [correct.silent] at raised
  cases raised

end AuditLog

end BacPy
