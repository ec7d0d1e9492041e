import BacPy.Library.BoundedLog
import BacPy.Library.Runs
import BacPy.Objects.Classes
import BacPy.Objects.Database
import BacPy.Objects.Frames
import Mathlib.Algebra.Order.Ring.Unbundled.Rat

/-! Values of Buffer_Size as Python compares them with a number of records. Any value may be
written there: the size can be a fraction, infinite, not a number, or no number at all.
-/

namespace BacPy

namespace Value

/-- `size > 0` of a number. -/
def Positive (size : Value) : Prop := compareNumbers size (.int 0) = some .gt

/-- `count > size` -/
def Exceeds (count : Nat) (size : Value) : Prop := compareNumbers (.int count) size = some .gt

/-- `count >= size` -/
def Reaches (count : Nat) (size : Value) : Prop :=
  compareNumbers (.int count) size ∈ [some .gt, some .eq]

instance (size : Value) : Decidable size.Positive := inferInstanceAs (Decidable (_ = _))
instance (count : Nat) (size : Value) : Decidable (Exceeds count size) :=
  inferInstanceAs (Decidable (_ = _))
instance (count : Nat) (size : Value) : Decidable (Reaches count size) :=
  inferInstanceAs (Decidable (_ ∈ _))

/-- The exact value of a number, if it is finite. -/
def rational? (size : Value) : Option Rat :=
  match size.asInt? with
  | some whole => some whole
  | Option.none => size.asFloat?.bind floatRat?

/-- How many records a positive size has room for, if that is finite. -/
def capacity (size : Value) : Option Nat :=
  size.rational?.bind fun exact => if 0 < exact then some exact.floor.toNat else Option.none

theorem asInt?_int (number : Int) : (Value.int number).asInt? = some number := rfl

theorem asFloat?_int (number : Int) : (Value.int number).asFloat? = Option.none := rfl

theorem Positive.isNumber {size : Value} (positive : size.Positive) : size.isNumber := by
  unfold Positive at positive
  unfold Value.isNumber
  cases whole : size.asInt? with
  | some number => rfl
  | none =>
    cases fraction : size.asFloat? with
    | none => simp [compareNumbers, whole, fraction, asInt?_int, asFloat?_int] at positive
    | some value => rfl

theorem compare_of_exact {size : Value} {exact : Rat} (known : size.rational? = some exact)
    (count : Int)
    : (compareNumbers (.int count) size = some .gt ↔ exact < count)
      ∧ (compareNumbers (.int count) size = some .eq ↔ exact = count)
      ∧ (compareNumbers size (.int count) = some .gt ↔ (count : Rat) < exact) := by
  unfold rational? at known
  cases whole : size.asInt? with
  | some number =>
    simp only [whole, Option.some.injEq] at known
    subst known
    simp only [compareNumbers, asInt?_int, whole, Option.some.injEq, compare_gt_iff_gt,
      compare_eq_iff_eq, Rat.intCast_lt_intCast, Rat.intCast_inj]
    exact ⟨trivial, eq_comm, trivial⟩
  | none =>
    cases fraction : size.asFloat? with
    | none => simp [whole, fraction] at known
    | some value =>
      simp only [whole, fraction, Option.bind_some] at known
      simp only [compareNumbers, asInt?_int, asFloat?_int, whole, fraction,
        compareNumbers.compareIntFloat, known, Option.map_some, Option.some.injEq]
      by_cases less : (count : Rat) < exact
      · have notMore := not_lt_of_gt less
        have different : exact ≠ count := fun same => absurd (same ▸ less) (lt_irrefl _)
        simp [less, notMore, different, Ordering.swap]
      · by_cases same : (count : Rat) = exact
        · simp [same, Ordering.swap]
        · have more : exact < count := lt_of_le_of_ne (not_lt.mp less) (Ne.symm same)
          simp [less, same, more, Ne.symm same, Ordering.swap]

theorem compare_of_infinite {size} (unknown : size.rational? = Option.none)
    (positive : size.Positive) (count : Int)
    : compareNumbers (.int count) size = some .lt := by
  unfold rational? at unknown
  unfold Positive at positive
  cases whole : size.asInt? with
  | some number => simp [whole] at unknown
  | none =>
    cases fraction : size.asFloat? with
    | none => simp [compareNumbers, whole, fraction, asInt?_int, asFloat?_int] at positive
    | some value =>
      simp only [whole, fraction, Option.bind_some] at unknown
      simp only [compareNumbers, asInt?_int, asFloat?_int, whole, fraction,
        compareNumbers.compareIntFloat, unknown] at positive ⊢
      split
      · next nan =>
          rw [if_pos nan] at positive
          cases positive
      · next number =>
          rw [if_neg number] at positive
          split
          · rfl
          · next small => simp [small, Ordering.swap] at positive

theorem capacity_of_not_positive {size : Value} (notPositive : ¬ size.Positive)
    : size.capacity = Option.none := by
  unfold capacity
  cases known : size.rational? with
  | none => rfl
  | some exact =>
    have order := (compare_of_exact known 0).2.2
    have small : ¬ 0 < exact := fun large => notPositive (order.mpr (by simpa using large))
    simp [small]

/-- A positive size is exceeded by more records than it has room for. -/
theorem exceeds_iff {size : Value} (positive : size.Positive) {count : Nat}
    : Exceeds count size ↔ ∃ most ∈ size.capacity, most < count := by
  unfold Exceeds capacity
  cases known : size.rational? with
  | none => simp [compare_of_infinite known positive]
  | some exact =>
    obtain ⟨more, _, order⟩ := compare_of_exact known count
    have large : 0 < exact := by simpa using (compare_of_exact known 0).2.2.mp positive
    have natural : 0 ≤ exact.floor := Rat.le_floor_iff.mpr (by simpa using large.le)
    rw [more]
    simp only [Option.bind_some, large, if_true, Option.mem_some_iff, exists_eq_left']
    rw [← Rat.floor_lt_iff]
    omega

/-- A size that is reached and not exceeded is the number of records. -/
theorem capacity_of_reaches {size : Value} (positive : size.Positive) {count : Nat}
    (reached : Reaches count size) (within : ¬ Exceeds count size)
    : size.capacity = some count := by
  have exactly : compareNumbers (.int count) size = some .eq := by
    unfold Exceeds at within
    simpa [Reaches, within] using reached
  unfold capacity
  cases known : size.rational? with
  | none => simp [compare_of_infinite known positive] at exactly
  | some exact =>
    have same := (compare_of_exact known count).2.1.mp exactly
    have large : 0 < exact := by simpa using (compare_of_exact known 0).2.2.mp positive
    rw [Option.bind_some, if_pos large, same, Rat.floor_intCast, Int.toNat_natCast]

end Value

end BacPy

/-! `TrendLogObject` (Clause 12.25), and the runs of appends and property writes on one of them. -/

namespace BacPy

open Library

/-- `LoggingType` -/
def loggingTypeEnum : EnumType := { name := "LoggingType", members := [0, 1, 2] }

def trendLogObject : ObjectClass where
  objectType := .trendLog
  propertyDefinitions := standardProperties ++ statusProperties.take 3 ++ [
    readWrite .logEnable .bool true (.bool false),
    readWrite .stopWhenFull .bool true (.bool false),
    readWrite .bufferSize .int true (.int 0),
    readOnly .logBuffer .list true,
    readWrite .recordCount .int true (.int 0),
    readOnly .totalRecordCount .int true (.int 0),
    readWrite .loggingType (.enum loggingTypeEnum) true (.enum loggingTypeEnum 0),
    readWrite .logInterval .int,
    readWrite .startTime (.other "BACnetDateTime"),
    readWrite .stopTime (.other "BACnetDateTime"),
    readWrite .logDeviceObjectProperty (.other "BACnetDeviceObjectPropertyReference"),
    readWrite .notificationClass .int,
    readWrite .alignIntervals .bool,
    readWrite .intervalOffset .int,
    readWrite .trigger .bool
  ]
  completion := [
    initStatusFlags,
    .setDefault .logBuffer (.list []),
    .setDefault .loggingType (.enum loggingTypeEnum 0)
  ]
  valueDeclared := by simp

namespace TrendLog

/-- `buf_size > 0 and len(buf) >= buf_size` -/
def atCapacity (items : List Value) (size : Value) : Except Raised Bool :=
  if size.isNumber then .ok (decide (size.Positive ∧ Value.Reaches items.length size))
  else .error (.typeError "'>' not supported between these types")

/-- `self._properties.get(PropertyIdentifier.BUFFER_SIZE, 0)` -/
def bufferSize (obj : BACnetObject) : Value := (obj.stored .bufferSize).getD (.int 0)

/-- The truth value of `self._properties.get(PropertyIdentifier.STOP_WHEN_FULL, False)` -/
def stopWhenFull (obj : BACnetObject) : Bool :=
  ((obj.stored .stopWhenFull).getD (.bool false)).truthy

/-- The end of `append_record`: the buffer has the record, and the counts follow. -/
def counted (items : List Value) : Stateful Raised BACnetObject Bool := fun obj =>
  let obj := (obj.set .logBuffer (.list items)).set .recordCount (.int items.length)
  match ObjectDatabase.plusOne ((obj.stored .totalRecordCount).getD (.int 0)) with
  | .error raised => (.error raised, obj)
  | .ok total => (.ok true, obj.set .totalRecordCount total)

def appendRecord (record : Value) : Stateful Raised BACnetObject Bool := fun obj =>
  match obj.stored .logBuffer with
  | none => (.error (.builtin (.keyError 131)), obj)
  | some (.list items) =>
    match atCapacity items (bufferSize obj) with
    | .error raised => (.error raised, obj)
    | .ok false => counted (items ++ [record]) obj
    | .ok true =>
      if stopWhenFull obj then (.ok false, obj)
      else
        match items with
        | [] => (.error (.builtin (.indexError "pop from empty list")), obj)
        | _ :: rest => counted (rest ++ [record]) obj
  | some _ => (.error (.typeError "object of this type has no len()"), obj)

-- Runs

/-- What happens to a trend log: the engine appends records, and clients write properties. -/
inductive Event where
  | append (record : Value)
  | write (prop : PropertyIdentifier) (value : Value) (priority arrayIndex : Option Nat)
    (now : Float)

/-- A trend log object, and beside it the log it is meant to be. -/
structure State where
  obj : BACnetObject
  log : BoundedLog Value := {}

/-- A write of zero to Record_Count asks for an empty log, other writes may configure it. -/
def written (prop : PropertyIdentifier) (value : Value) (obj : BACnetObject)
    (log : BoundedLog Value)
    : BoundedLog Value :=
  if prop = .recordCount ∧ value.pyEq (.int 0) then log.purge
  else log.configure (bufferSize obj).capacity (stopWhenFull obj)

/-- A step: an append, whatever comes of it, or a write that is accepted. An append that raises
is none to the log.
-/
def step (state : State) : Event → Option State
  | .append record =>
    match appendRecord record state.obj with
    | (.ok _, obj) => some { obj, log := state.log.append record }
    | (.error _, obj) => some { state with obj }
  | .write prop value priority arrayIndex now =>
    match BACnetObject.writeAlone prop value priority arrayIndex now state.obj with
    | (.ok (), obj) => some { obj, log := written prop value obj state.log }
    | (.error _, _) => none

/-- A new trend log, with what its constructor was given. -/
def start (instanceNumber : Fin 4194304)
    (initialProperties : List (PropertyIdentifier × Value))
    : State :=
  let obj := BACnetObject.construct trendLogObject instanceNumber initialProperties
  { obj, log := { capacity := (bufferSize obj).capacity, stopWhenFull := stopWhenFull obj } }

/-- Log_Buffer holds exactly the records of the log, not more than a positive Buffer_Size, and
Record_Count is their number.
-/
structure Correct (state : State) : Prop where
  buffer : state.obj.stored .logBuffer = some (.list state.log.records)
  bounded : (bufferSize state.obj).Positive
    → ¬ Value.Exceeds state.log.records.length (bufferSize state.obj)
  counted : (state.obj.get .recordCount).pyEq (.int state.log.records.length)

def buffer (obj : BACnetObject) : List Value := (obj.get .logBuffer).asList?.getD []

def recordsIn (obj : BACnetObject) : Nat := (buffer obj).length

def total (obj : BACnetObject) : Int := (obj.get .totalRecordCount).asInt?.getD 0

/-- The steps that keep a trend log correct: Buffer_Size is not written below the number of
records, Record_Count is written only as what it is, and no append exceeds a size that is not a
whole number.
-/
def Allowed (state : State) : Event → Prop
  | .append _ =>
    (bufferSize state.obj).Positive
      → ¬ Value.Reaches (recordsIn state.obj) (bufferSize state.obj)
      → ¬ Value.Exceeds (recordsIn state.obj + 1) (bufferSize state.obj)
  | .write prop value _ arrayIndex _ =>
    arrayIndex = none
      → (prop = .bufferSize → value.Positive → ¬ Value.Exceeds (recordsIn state.obj) value)
        ∧ (prop = .recordCount → value.pyEq (.int (recordsIn state.obj)))

instance : ∀ state event, Decidable (Allowed state event)
  | _, .append _ => inferInstanceAs (Decidable (_ → _ → ¬ _))
  | _, .write .. => inferInstanceAs (Decidable (_ → (_ → _ → ¬ _) ∧ (_ → _)))

end TrendLog

end BacPy
