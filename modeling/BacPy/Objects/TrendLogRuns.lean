import BacPy.Objects.PlainObjects
import BacPy.Objects.TrendLog

/-! Which runs keep a trend log what it is meant to be. -/

namespace BacPy

open Library
open BACnetObject (stored_set_self stored_set_ne Agrees agrees_set stored_set_plain)

namespace TrendLog

variable {obj after : BACnetObject} {items : List Value} {count : Int} {record value : Value}
  {prop : PropertyIdentifier} {priority arrayIndex : Option Nat} {now : Float}
  {state next : State} {event : Event}

-- Appends

/-- An object whose buffer and counts were updated for these records. -/
def recorded (obj : BACnetObject) (items : List Value) (count : Int) : BACnetObject :=
  ((obj.set .logBuffer (.list items)).set .recordCount (.int items.length)).set
    .totalRecordCount (.int count)

theorem stored_recorded
    : (recorded obj items count).stored .logBuffer = some (.list items)
      ∧ (recorded obj items count).stored .recordCount = some (.int items.length)
      ∧ (recorded obj items count).stored .totalRecordCount = some (.int count) := by
  unfold recorded
  refine ⟨?_, ?_, stored_set_self _ (by decide)⟩
  · rw [stored_set_ne (by decide), stored_set_ne (by decide),
      stored_set_self _ (by decide)]
  · rw [stored_set_ne (by decide), stored_set_self _ (by decide)]

/-- Nothing else changes. -/
theorem agrees_recorded
    : Agrees [.logBuffer, .recordCount, .totalRecordCount] obj
        (recorded obj items count) :=
  (agrees_set _ (by decide)).trans
    ((agrees_set _ (by decide)).trans (agrees_set _ (by decide)))

theorem bufferSize_recorded : bufferSize (recorded obj items count) = bufferSize obj := by
  rw [bufferSize, bufferSize, agrees_recorded.stored _ (by decide)]

theorem stopWhenFull_recorded : stopWhenFull (recorded obj items count) = stopWhenFull obj := by
  rw [stopWhenFull, stopWhenFull, agrees_recorded.stored _ (by decide)]

theorem counted_eq (total : obj.stored .totalRecordCount = some (.int count))
    : counted items obj = (.ok true, recorded obj items (count + 1)) := by
  unfold counted
  have same : ((obj.set .logBuffer (.list items)).set .recordCount (.int items.length)).stored
      .totalRecordCount = some (.int count) := by
    rw [stored_set_ne (by decide), stored_set_ne (by decide), total]
  simp only [same, Option.getD_some]
  rfl

/-- What an append can do: raise, add the record, refuse it, or put it in the place of the oldest
one.
-/
theorem appendRecord_cases (record : Value) (buffer : obj.stored .logBuffer = some (.list items))
    (total : obj.stored .totalRecordCount = some (.int count))
    : ((∃ raised, appendRecord record obj = (.error raised, obj))
        ∧ ((bufferSize obj).Positive → Value.Reaches items.length (bufferSize obj)))
      ∨ (¬ ((bufferSize obj).Positive ∧ Value.Reaches items.length (bufferSize obj))
        ∧ appendRecord record obj = (.ok true, recorded obj (items ++ [record]) (count + 1)))
      ∨ ((bufferSize obj).Positive ∧ Value.Reaches items.length (bufferSize obj)
        ∧ stopWhenFull obj = true ∧ appendRecord record obj = (.ok false, obj))
      ∨ ((bufferSize obj).Positive ∧ Value.Reaches items.length (bufferSize obj)
        ∧ stopWhenFull obj = false ∧ items ≠ []
        ∧ appendRecord record obj
          = (.ok true, recorded obj (items.tail ++ [record]) (count + 1))) := by
  simp only [appendRecord, buffer, atCapacity]
  by_cases number : (bufferSize obj).isNumber
  · rw [if_pos number]
    by_cases full : (bufferSize obj).Positive ∧ Value.Reaches items.length (bufferSize obj)
    · simp only [full, and_self, decide_true]
      cases stops : stopWhenFull obj with
      | true => simp
      | false =>
        cases items with
        | nil => exact .inl ⟨⟨_, rfl⟩, fun _ => trivial⟩
        | cons oldest rest => simp [counted_eq total]
    · refine .inr (.inl ⟨full, ?_⟩)
      simp only [full, decide_false]
      exact counted_eq total
  · rw [if_neg number]
    exact .inl ⟨⟨_, rfl⟩, fun positive => absurd positive.isNumber number⟩

-- Writes

/-- What an accepted write can do: store the value, or replace an item of a list. The buffer and
the total count are read-only.
-/
theorem writeAlone_cases (cls : obj.cls = trendLogObject) (plain : obj.commands = none)
    (accepted : BACnetObject.writeAlone prop value priority arrayIndex now obj = (.ok (), after))
    : prop ∉ [.logBuffer, .totalRecordCount] ∧ after.cls = trendLogObject ∧ after.commands = none
      ∧ (∀ other, other ≠ prop → after.stored other = obj.stored other)
      ∧ ((arrayIndex = none ∧ (prop ∈ [.bufferSize, .recordCount] → after.stored prop = some value))
        ∨ (arrayIndex ≠ none
          ∧ ∃ old new, obj.get prop = .list old ∧ after.stored prop = some (.list new))) := by
  have fixed : ∀ prop ∈ [PropertyIdentifier.logBuffer, .totalRecordCount],
      ∀ definition ∈ trendLogObject.definition? prop,
        definition.access = .readOnly ∧ prop ≠ .presentValue := by
    decide
  have whole : ∀ prop ∈ [PropertyIdentifier.bufferSize, .recordCount],
      ∀ definition ∈ trendLogObject.definition? prop, definition.datatype = .int := by
    decide
  obtain ⟨definition, stored, writable, rfl, outcome⟩ :=
    BACnetObject.writeAlone_plain plain accepted
  obtain ⟨declared, open_⟩ := BACnetObject.writable_eq_ok writable
  rw [cls] at declared
  refine ⟨fun member => ?_, cls, plain, fun other different => stored_set_ne different _,
    ?_⟩
  · obtain ⟨readOnly, different⟩ := fixed prop member definition declared
    exact different (open_ readOnly)
  · rcases outcome with ⟨unindexed, rfl⟩ | ⟨indexed, old, new, list, rfl⟩
    · refine .inl ⟨unindexed, fun member => ?_⟩
      rw [stored_set_plain plain,
        BACnetObject.coerceValue_int (whole prop member definition declared)]
    · exact .inr ⟨indexed, old, new, list, stored_set_plain plain⟩

-- The invariant

/-- A correct state of a trend log whose configuration is that of the log. -/
structure Inv (state : State) : Prop extends Correct state where
  cls : state.obj.cls = trendLogObject
  plain : state.obj.commands = none
  capacity : state.log.capacity = (bufferSize state.obj).capacity
  stops : state.log.stopWhenFull = stopWhenFull state.obj
  within : state.log.Bounded
  total : ∃ count, state.obj.stored .totalRecordCount = some (.int count)

theorem buffer_eq (stored : obj.stored .logBuffer = some (.list items)) : buffer obj = items := by
  simp [buffer, BACnetObject.get, stored]

theorem Inv.recordsIn (inv : Inv state) : recordsIn state.obj = state.log.records.length := by
  rw [TrendLog.recordsIn, buffer_eq inv.buffer]

theorem pyEq_int_self (number : Int) : (Value.int number).pyEq (.int number) :=
  Value.pyEq_self rfl

/-- A size that the records do not exceed has room for them. -/
theorem room_of_not_exceeds {size count} (within : size.Positive → ¬ Value.Exceeds count size)
    : ∀ most ∈ size.capacity, count ≤ most := by
  intro most known
  by_cases positive : size.Positive
  · by_contra more
    exact within positive ((Value.exceeds_iff positive).mpr ⟨most, known, by omega⟩)
  · rw [Value.capacity_of_not_positive positive] at known
    cases known

/-- Records that fit and were stored with their count make the state correct again. -/
theorem Inv.recorded (inv : Inv state) (record : Value)
    (records : (state.log.append record).records = items)
    (fits : (bufferSize state.obj).Positive
      → ¬ Value.Exceeds items.length (bufferSize state.obj))
    (count : Int)
    : Inv { obj := recorded state.obj items count, log := state.log.append record } where
  buffer := by rw [records]; exact stored_recorded.1
  bounded := by rwa [records, bufferSize_recorded]
  counted := by
    rw [records, BACnetObject.get, stored_recorded.2.1]
    exact pyEq_int_self _
  cls := inv.cls
  plain := inv.plain
  capacity := by rw [BoundedLog.capacity_append, inv.capacity, bufferSize_recorded]
  stops := by rw [BoundedLog.stopWhenFull_append, inv.stops, stopWhenFull_recorded]
  within := inv.within.append
  total := ⟨count, stored_recorded.2.2⟩

/-- An append that does not exceed a fractional size keeps the invariant. -/
theorem inv_append (inv : Inv state) (allowed : Allowed state (.append record))
    (moved : step state (.append record) = some next)
    : Inv next := by
  obtain ⟨count, total⟩ := inv.total
  have within := inv.bounded
  unfold Allowed at allowed
  rw [inv.recordsIn] at allowed
  unfold step at moved
  rcases appendRecord_cases record inv.buffer total with ⟨⟨raised, failed⟩, full⟩
      | ⟨room, added⟩ | ⟨positive, reached, stop, refused⟩
      | ⟨positive, reached, circular, some, replaced⟩
  · simp only [failed, Option.some.injEq] at moved
    exact moved ▸ inv
  · simp only [added, Option.some.injEq] at moved
    have fits : (bufferSize state.obj).Positive
        → ¬ Value.Exceeds (state.log.records ++ [record]).length (bufferSize state.obj) := by
      intro positive
      rw [List.length_append, List.length_singleton]
      exact allowed positive fun reached => room ⟨positive, reached⟩
    have notFull : state.log.full = false := by
      rw [Bool.eq_false_iff]
      intro full
      obtain ⟨most, known, reached⟩ := BoundedLog.full_iff.mp full
      rw [inv.capacity] at known
      have := room_of_not_exceeds fits most known
      rw [List.length_append, List.length_singleton] at this
      omega
    exact moved ▸ inv.recorded record (BoundedLog.records_append_of_room inv.within notFull) fits _
  · simp only [refused, Option.some.injEq] at moved
    have capacity := Value.capacity_of_reaches positive reached (within positive)
    have full : state.log.full :=
      BoundedLog.full_iff.mpr ⟨_, inv.capacity.trans capacity, Nat.le_refl _⟩
    rw [BoundedLog.append_of_stopped (inv.stops.trans stop) full] at moved
    exact moved ▸ inv
  · simp only [replaced, Option.some.injEq] at moved
    have capacity := Value.capacity_of_reaches positive reached (within positive)
    have known := inv.capacity.trans capacity
    have full : state.log.full := BoundedLog.full_iff.mpr ⟨_, known, Nat.le_refl _⟩
    have positive : ∀ most ∈ state.log.capacity, 0 < most := by
      intro most here
      rw [known, Option.mem_some_iff] at here
      exact here ▸ List.length_pos_iff.mpr some
    have records : (state.log.append record).records = state.log.records.tail ++ [record] :=
      BoundedLog.records_append_of_full inv.within (inv.stops.trans circular) full positive
    have same : (state.log.records.tail ++ [record]).length = state.log.records.length := by
      have := List.length_pos_iff.mpr some
      simp only [List.length_append, List.length_tail, List.length_singleton]
      omega
    exact moved ▸ inv.recorded record records (by rw [same]; exact within) _

/-- A list is neither a positive size nor a number of records. -/
theorem list_not_number (items : List Value)
    : ¬ (Value.list items).Positive ∧ ∀ count : Nat, ¬ (Value.list items).pyEq (.int count) := by
  refine ⟨by simp [Value.Positive, Value.compareNumbers, Value.asInt?, Value.asFloat?], ?_⟩
  intro count
  simp [Value.pyEq, Value.normal]

/-- A value that equals two numbers shows that they are the same. -/
theorem eq_of_pyEq {first second : Nat} (one : value.pyEq (.int first))
    (other : value.pyEq (.int second))
    : first = second := by
  simp only [Value.pyEq, Bool.and_eq_true, Value.normal] at one other
  have same := (of_decide_eq_true one.2).symm.trans (of_decide_eq_true other.2)
  simpa using same

/-- A write that is allowed keeps the invariant. -/
theorem inv_write (inv : Inv state)
    (allowed : Allowed state (.write prop value priority arrayIndex now))
    (moved : step state (.write prop value priority arrayIndex now) = some next)
    : Inv next := by
  unfold step at moved
  dsimp only at moved
  split at moved
  · next obj accepted =>
      cases moved
      obtain ⟨fixed, cls, plain, others, outcome⟩ := writeAlone_cases inv.cls inv.plain accepted
      simp only [List.mem_cons, List.not_mem_nil, or_false, not_or] at fixed
      have buffer := (others .logBuffer (Ne.symm fixed.1)).trans inv.buffer
      obtain ⟨count, total⟩ := inv.total
      have total := (others .totalRecordCount (Ne.symm fixed.2)).trans total
      unfold Allowed at allowed
      rw [inv.recordsIn] at allowed
      -- the size after the write is one that the records do not exceed
      have within : (bufferSize obj).Positive
          → ¬ Value.Exceeds state.log.records.length (bufferSize obj) := by
        by_cases resized : prop = .bufferSize
        · subst resized
          rcases outcome with ⟨whole, stored⟩ | ⟨_, old, new, _, stored⟩
          · rw [bufferSize, stored (by decide)]
            exact (allowed whole).1 rfl
          · rw [bufferSize, stored]
            exact fun positive => absurd positive (list_not_number new).1
        · rw [bufferSize, others .bufferSize (Ne.symm resized)]
          exact inv.bounded
      -- and the count is the number of records, as it was before
      have counted : (obj.get .recordCount).pyEq (.int state.log.records.length) := by
        by_cases recounted : prop = .recordCount
        · subst recounted
          rcases outcome with ⟨whole, stored⟩ | ⟨_, old, new, list, _⟩
          · rw [BACnetObject.get, stored (by decide)]
            exact (allowed whole).2 rfl
          · have before := inv.counted
            rw [list] at before
            exact absurd before ((list_not_number old).2 _)
        · rw [BACnetObject.get, others .recordCount (Ne.symm recounted)]
          exact inv.counted
      by_cases purging : prop = .recordCount ∧ value.pyEq (.int 0)
      · have log : written prop value obj state.log = state.log.purge := if_pos purging
        have none : state.log.records = [] := by
          rcases outcome with ⟨whole, stored⟩ | ⟨_, old, new, list, _⟩
          · exact List.length_eq_zero_iff.mp
              (eq_of_pyEq ((allowed whole).2 purging.1) (by simpa using purging.2))
          · have before := inv.counted
            rw [← purging.1, list] at before
            exact absurd before ((list_not_number old).2 _)
        have sameSize : bufferSize obj = bufferSize state.obj := by
          rw [bufferSize, bufferSize, others .bufferSize (by rw [purging.1]; decide)]
        have sameStop : stopWhenFull obj = stopWhenFull state.obj := by
          rw [stopWhenFull, stopWhenFull, others .stopWhenFull (by rw [purging.1]; decide)]
        have records : state.log.purge.records = state.log.records := by rw [none]; rfl
        rw [log]
        exact {
          buffer := by rw [records]; exact buffer
          bounded := by rwa [records]
          counted := by rwa [records]
          cls, plain
          capacity := inv.capacity.trans (congrArg Value.capacity sameSize.symm)
          stops := inv.stops.trans sameStop.symm
          within := BoundedLog.bounded_purge
          total := ⟨count, total⟩
        }
      · have log : written prop value obj state.log
            = state.log.configure (bufferSize obj).capacity (stopWhenFull obj) :=
          if_neg purging
        have records : (state.log.configure (bufferSize obj).capacity (stopWhenFull obj)).records
            = state.log.records :=
          BoundedLog.records_configure_of_room (room_of_not_exceeds within)
        rw [log]
        exact {
          buffer := by rw [records]; exact buffer
          bounded := by rwa [records]
          counted := by rwa [records]
          cls, plain
          capacity := rfl
          stops := rfl
          within := inv.within.configure
          total := ⟨count, total⟩
        }
  · cases moved

-- What other steps lead to

/-- Another append stores one record more than a fractional size has room for. -/
theorem not_correct_append (inv : Inv state) (refused : ¬ Allowed state (.append record))
    (moved : step state (.append record) = some next)
    : ¬ Correct next := by
  intro correct
  unfold Allowed at refused
  push Not at refused
  rw [inv.recordsIn] at refused
  obtain ⟨positive, below, more⟩ := refused
  obtain ⟨count, total⟩ := inv.total
  unfold step at moved
  rcases appendRecord_cases record inv.buffer total with ⟨⟨raised, failed⟩, full⟩
      | ⟨room, added⟩ | ⟨_, reached, _⟩ | ⟨_, reached, _⟩
  · exact below (full positive)
  · simp only [added, Option.some.injEq] at moved
    subst moved
    have stored := correct.buffer
    have bounded := correct.bounded
    rw [stored_recorded.1, Option.some.injEq, Value.list.injEq] at stored
    rw [bufferSize_recorded, ← stored, List.length_append, List.length_singleton] at bounded
    exact bounded positive more
  · exact absurd reached below
  · exact absurd reached below

/-- Another write leaves more records than Buffer_Size says, or another Record_Count. -/
theorem not_correct_write (inv : Inv state)
    (refused : ¬ Allowed state (.write prop value priority arrayIndex now))
    (moved : step state (.write prop value priority arrayIndex now) = some next)
    : ¬ Correct next := by
  intro correct
  unfold Allowed at refused
  push Not at refused
  rw [inv.recordsIn] at refused
  obtain ⟨whole, wrong⟩ := refused
  unfold step at moved
  dsimp only at moved
  split at moved
  · next obj accepted =>
      cases moved
      obtain ⟨fixed, cls, plain, others, outcome⟩ := writeAlone_cases inv.cls inv.plain accepted
      simp only [List.mem_cons, List.not_mem_nil, or_false, not_or] at fixed
      have stored := (others .logBuffer (Ne.symm fixed.1)).trans inv.buffer
      have same : (written prop value obj state.log).records = state.log.records := by
        have := correct.buffer.symm.trans stored
        simpa using this
      have bounded := correct.bounded
      have counted := correct.counted
      dsimp only at bounded counted
      rw [same] at bounded counted
      rcases outcome with ⟨_, written⟩ | ⟨indexed, _⟩
      · by_cases resized : prop = .bufferSize ∧ value.Positive
            ∧ Value.Exceeds state.log.records.length value
        · obtain ⟨rfl, positive, exceeded⟩ := resized
          rw [bufferSize, written (by decide)] at bounded
          exact bounded positive exceeded
        · obtain ⟨rfl, different⟩ := wrong fun resizing positive =>
            fun exceeded => resized ⟨resizing, positive, exceeded⟩
          rw [BACnetObject.get, written (by decide)] at counted
          exact absurd counted different
      · exact absurd whole indexed
  · cases moved

-- What holds in every run

/-- What every step keeps: the class, and a buffer and a total count of the right types. -/
structure Typed (obj : BACnetObject) : Prop where
  cls : obj.cls = trendLogObject
  plain : obj.commands = none
  buffer : ∃ items, obj.stored .logBuffer = some (.list items)
  counts : ∃ count, obj.stored .totalRecordCount = some (.int count)

/-- A step keeps the types, does not lower the total, and keeps the records in their places while
the log stops when full.
-/
theorem typed_step (typed : Typed state.obj) (moved : step state event = some next)
    : Typed next.obj ∧ total state.obj ≤ total next.obj
      ∧ (stopWhenFull state.obj = true → buffer state.obj <+: buffer next.obj) := by
  obtain ⟨items, stored⟩ := typed.buffer
  obtain ⟨count, counted⟩ := typed.counts
  have recordedTyped (kept : List Value)
      : Typed (recorded state.obj kept (count + 1))
        ∧ total state.obj ≤ total (recorded state.obj kept (count + 1)) := by
    refine ⟨⟨typed.cls, typed.plain, ⟨_, stored_recorded.1⟩, ⟨_, stored_recorded.2.2⟩⟩, ?_⟩
    simp [total, BACnetObject.get, counted, stored_recorded.2.2, Value.asInt?_int]
  cases event with
  | append record =>
    unfold step at moved
    rcases appendRecord_cases record stored counted with ⟨⟨raised, failed⟩, _⟩
        | ⟨_, added⟩ | ⟨_, _, _, refused⟩ | ⟨_, _, circular, _, replaced⟩
    · simp only [failed, Option.some.injEq] at moved
      exact moved ▸ ⟨typed, le_refl _, fun _ => List.prefix_refl _⟩
    · simp only [added, Option.some.injEq] at moved
      subst moved
      refine ⟨(recordedTyped _).1, (recordedTyped _).2, fun _ => ?_⟩
      rw [buffer_eq stored, buffer_eq stored_recorded.1]
      exact List.prefix_append _ _
    · simp only [refused, Option.some.injEq] at moved
      exact moved ▸ ⟨typed, le_refl _, fun _ => List.prefix_refl _⟩
    · simp only [replaced, Option.some.injEq] at moved
      subst moved
      refine ⟨(recordedTyped _).1, (recordedTyped _).2, fun stops => ?_⟩
      rw [circular] at stops
      cases stops
  | write prop value priority arrayIndex now =>
    unfold step at moved
    dsimp only at moved
    split at moved
    · next obj accepted =>
        cases moved
        obtain ⟨fixed, cls, plain, others, _⟩ :=
          writeAlone_cases typed.cls typed.plain accepted
        simp only [List.mem_cons, List.not_mem_nil, or_false, not_or] at fixed
        have sameBuffer := others .logBuffer (Ne.symm fixed.1)
        have sameTotal := others .totalRecordCount (Ne.symm fixed.2)
        refine ⟨⟨cls, plain, ⟨items, sameBuffer.trans stored⟩,
          ⟨count, sameTotal.trans counted⟩⟩, ?_, fun _ => ?_⟩
        · simp [total, BACnetObject.get, sameTotal]
        · have same : buffer obj = buffer state.obj := by
            rw [buffer, buffer, BACnetObject.get, BACnetObject.get, sameBuffer]
          exact same ▸ List.prefix_refl _
    · cases moved

/-- The same for runs, by induction on the steps. -/
theorem typed_run {events final} (typed : Typed state.obj)
    (ran : run step state events = some final)
    : Typed final.obj ∧ total state.obj ≤ total final.obj
      ∧ (Meets step (fun state _ => stopWhenFull state.obj = true) state events
        → buffer state.obj <+: buffer final.obj) := by
  induction events generalizing state with
  | nil =>
    cases ran
    exact ⟨typed, le_refl _, fun _ => List.prefix_refl _⟩
  | cons event rest ih =>
    cases moved : step state event with
    | none => simp [moved] at ran
    | some next =>
      obtain ⟨kept, more, held⟩ := typed_step typed moved
      obtain ⟨keptLater, moreLater, heldLater⟩ := ih kept (by simpa [moved] using ran)
      refine ⟨keptLater, more.trans moreLater, fun stops => ?_⟩
      obtain ⟨here, later⟩ := stops next moved
      exact (held here).trans (heldLater later)

-- New trend logs

theorem stored_start {instanceNumber initialProperties} {prop : PropertyIdentifier}
    (notGiven : ∀ entry ∈ initialProperties, entry.1 ≠ prop)
    (notArray : prop ∉ [.priorityArray, .valueSourceArray, .commandTimeArray])
    (notIdentifying : prop ∉ [.objectIdentifier, .objectType])
    : (start instanceNumber initialProperties).obj.stored prop
      = (BACnetObject.startingValue trendLogObject [] prop).or
        (trendLogObject.completion.findSome? (BACnetObject.assignedDefault prop)) := by
  have defaults : ∀ assigned ∈ trendLogObject.setup ++ trendLogObject.completion,
      ∃ other value, assigned = .setDefault other value := by
    simp [trendLogObject, initStatusFlags]
  unfold start
  dsimp only
  rw [BACnetObject.stored_construct rfl defaults notArray notIdentifying,
    BACnetObject.startingValue_of_not_given notGiven]
  rfl

/-- A new trend log whose buffer and counts were not given is correct, and empty. -/
theorem inv_start (instanceNumber : Fin 4194304) {initialProperties}
    (notGiven : ∀ entry ∈ initialProperties,
      entry.1 ∉ [.logBuffer, .recordCount, .totalRecordCount])
    : Inv (start instanceNumber initialProperties) := by
  have different : ∀ prop ∈ [PropertyIdentifier.logBuffer, .recordCount, .totalRecordCount],
      ∀ entry ∈ initialProperties, entry.1 ≠ prop :=
    fun prop member entry given same => notGiven entry given (same ▸ member)
  have buffer : (start instanceNumber initialProperties).obj.stored .logBuffer
      = some (.list []) := by
    rw [stored_start (different _ (by decide)) (by decide) (by decide)]
    decide
  have count : (start instanceNumber initialProperties).obj.stored .recordCount
      = some (.int 0) := by
    rw [stored_start (different _ (by decide)) (by decide) (by decide)]
    decide
  have total : (start instanceNumber initialProperties).obj.stored .totalRecordCount
      = some (.int 0) := by
    rw [stored_start (different _ (by decide)) (by decide) (by decide)]
    decide
  refine ⟨⟨buffer, ?_, ?_⟩, BACnetObject.cls_construct, BACnetObject.commands_construct, rfl, rfl,
    ⟨by simp [start, BoundedLog.records], Nat.le_refl 0⟩, ⟨0, total⟩⟩
  · intro positive exceeded
    obtain ⟨most, _, less⟩ := (Value.exceeds_iff positive).mp exceeded
    simp [start, BoundedLog.records] at less
  · rw [BACnetObject.get, count]
    exact pyEq_int_self 0

/-- A run of a trend log is correct throughout exactly if every step is allowed. In every run
Total_Record_Count never decreases, and while the log stops when full, its records stay.
-/
theorem trendLog_correct_iff (instanceNumber : Fin 4194304)
    (initialProperties : List (PropertyIdentifier × Value))
    (notGiven : ∀ entry ∈ initialProperties,
      entry.1 ∉ [.logBuffer, .recordCount, .totalRecordCount])
    (events : List Event)
    : (Always step Correct (start instanceNumber initialProperties) events
        ↔ Meets step Allowed (start instanceNumber initialProperties) events)
      ∧ ∀ before after middle final, events = before ++ after
        → run step (start instanceNumber initialProperties) before = some middle
        → run step middle after = some final
        → total middle.obj ≤ total final.obj
          ∧ (Meets step (fun state _ => stopWhenFull state.obj = true) middle after
            → buffer middle.obj <+: buffer final.obj) := by
  have inv := inv_start instanceNumber notGiven
  constructor
  · refine always_iff_meets ?_ (fun inv => inv.toCorrect) ?_ inv
    · intro state event next inv allowed moved
      cases event with
      | append record => exact inv_append inv allowed moved
      | write => exact inv_write inv allowed moved
    · intro state event next inv refused moved
      cases event with
      | append record => exact not_correct_append inv refused moved
      | write => exact not_correct_write inv refused moved
  · intro before after middle final _ reached ran
    have typed : Typed (start instanceNumber initialProperties).obj :=
      ⟨inv.cls, inv.plain, ⟨_, inv.buffer⟩, inv.total⟩
    exact (typed_run (typed_run typed reached).1 ran).2

/-- A log of size two that is given three records. -/
theorem trendLog_correct_circular
    : Always step Correct (start 1 [(.bufferSize, .int 2)])
        [.append (.int 7), .append (.int 8), .append (.int 9)] :=
  (trendLog_correct_iff 1 [(.bufferSize, .int 2)] (by decide) _).1.mpr (by decide +kernel)

/-- Two records stay in the log when Buffer_Size is written as one. -/
theorem not_trendLog_correct : ¬ ∀ events, Always step Correct (start 1 []) events := by
  intro always
  have exceeded : (run step (start 1 [])
      [.append (.int 7), .append (.int 8), .write .bufferSize (.int 1) none none 0]).any
        (fun state => (bufferSize state.obj).Positive
          ∧ Value.Exceeds (recordsIn state.obj) (bufferSize state.obj)) := by
    decide +kernel
  obtain ⟨final, ran, bad⟩ := (Option.any_eq_true _ _).mp exceeded
  obtain ⟨positive, more⟩ := of_decide_eq_true bad
  have correct : Correct final :=
    always_iff_prefixes.mp (always _) _ [] final (List.append_nil _).symm ran
  rw [recordsIn, buffer_eq correct.buffer] at more
  exact correct.bounded positive more

end TrendLog

end BacPy
