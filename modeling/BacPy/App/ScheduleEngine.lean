import BacPy.Library.FirstBest
import BacPy.Objects.Calendar

/-! `ScheduleEngine`: the value of a schedule at a date and a time. -/

namespace BacPy

open Library

-- Schedules

structure Time where
  hour : Nat
  minute : Nat
  second : Nat
  microsecond : Nat

/-- The properties of a `ScheduleObject` that determine its value, as `__init__` sets them. -/
structure ScheduleObject where
  effectivePeriod : Option BACnetDateRange := some {
    startDate := { year := 1900, month := 1, day := 1, dayOfWeek := 0xFF }
    endDate := { year := 2155, month := 12, day := 31, dayOfWeek := 0xFF }
  }
  weeklySchedule : Option (List (List (BACnetTimeValue Value))) := none
  exceptionSchedule : Option (List (BACnetSpecialEvent Value)) := none
  scheduleDefault : Value := .none

/-- An hour, a minute, a second and a hundredth, which are compared in this order. -/
abbrev TimeTuple := Nat ×ₗ Nat ×ₗ Nat ×ₗ Nat

/-- `_time_tuple`: an unspecified field counts as 0. -/
def timeTuple (time : BACnetTime) : TimeTuple :=
  let specified (field : Nat) : Nat := if field = 0xFF then 0 else field
  toLex (specified time.hour, toLex (specified time.minute,
    toLex (specified time.second, specified time.hundredth)))

def nowTuple (now : Time) : TimeTuple :=
  toLex (now.hour, toLex (now.minute, toLex (now.second, now.microsecond / 10000)))

-- Evaluation

/-- The loop of `_resolve_time_values`, with `best_time` and `best_value`. -/
def resolveEntries (now : Time)
    : List (BACnetTimeValue Value) → Option TimeTuple → Option Value → Option Value
  | [], _, bestValue => bestValue
  | entry :: rest, bestTime, bestValue =>
    if timeTuple entry.time ≤ nowTuple now ∧ ∀ best ∈ bestTime, best < timeTuple entry.time then
      resolveEntries now rest (some (timeTuple entry.time)) (some entry.value)
    else resolveEntries now rest bestTime bestValue

/-- `_resolve_time_values`, `none` for `_SENTINEL` -/
def resolveTimeValues (timeValues : List (BACnetTimeValue Value)) (now : Time) : Option Value :=
  resolveEntries now timeValues none none

/-- Whether the period of an exception matches a date. For a reference to a calendar that is its
present value, and a reference to nothing matches nothing.
-/
def matchesPeriod (period : EventPeriod) (today : Date) (db : ObjectDatabase)
    : Except Raised Bool :=
  match period with
  | .calendarReference calendar =>
    match db.object? calendar with
    | none => .ok false
    | some obj => do
        let presentValue ← db.readProperty obj .presentValue
        .ok presentValue.truthy
  | .calendarEntry entry => matchesCalendarEntry entry today

/-- The loop of `_resolve_exception_schedule`, with `best_priority` and `best_value`. -/
def resolveExceptions (today : Date) (now : Time) (db : ObjectDatabase)
    : List (BACnetSpecialEvent Value) → Int → Option Value → Except Raised (Option Value)
  | [], _, bestValue => .ok bestValue
  | exc :: rest, bestPriority, bestValue =>
    if bestPriority ≤ exc.eventPriority then
      resolveExceptions today now db rest bestPriority bestValue
    else do
      if ← matchesPeriod exc.period today db then
        match resolveTimeValues exc.listOfTimeValues now with
        | some value => resolveExceptions today now db rest exc.eventPriority (some value)
        | none => resolveExceptions today now db rest bestPriority bestValue
      else resolveExceptions today now db rest bestPriority bestValue

/-- `_resolve_exception_schedule`, `none` for `_SENTINEL` -/
def resolveExceptionSchedule (exceptions : List (BACnetSpecialEvent Value)) (today : Date)
    (now : Time) (db : ObjectDatabase)
    : Except Raised (Option Value) :=
  resolveExceptions today now db exceptions 17 none

namespace ScheduleObject

/-- The entries of a weekday in the weekly schedule, if it has any. -/
def dayEntries (sched : ScheduleObject) (today : Date) : Option (List (BACnetTimeValue Value)) :=
  (sched.weeklySchedule.getD [])[today.isoweekday - 1]?

/-- `read_property(SCHEDULE_DEFAULT)` -/
def readScheduleDefault (sched : ScheduleObject) : Except Raised Value :=
  if sched.scheduleDefault = .none then propertyError .valueNotInitialized
  else .ok sched.scheduleDefault

/-- `read_property(EFFECTIVE_PERIOD)` -/
def readEffectivePeriod (sched : ScheduleObject) : Except Raised BACnetDateRange :=
  match sched.effectivePeriod with
  | none => propertyError .valueNotInitialized
  | some period => .ok period

/-- `_evaluate_schedule`: the value that is handed to `_apply_value`, which makes it the present
value.
-/
def evaluate (sched : ScheduleObject) (today : Date) (now : Time) (db : ObjectDatabase)
    : Except Raised Value := do
  let scheduleDefault ← sched.readScheduleDefault
  let effectivePeriod ← sched.readEffectivePeriod
  if !matchesDateRange effectivePeriod today then .ok scheduleDefault
  else
    match ← resolveExceptionSchedule (sched.exceptionSchedule.getD []) today now db with
    | some value => .ok value
    | none => .ok (((sched.dayEntries today).bind fun entries =>
      resolveTimeValues entries now).getD scheduleDefault)

end ScheduleObject

-- The rules

/-- A list of entries has a value at a time: that of the latest entry that is due, and of the first
one if several are as late.
-/
def LatestDue (entries : List (BACnetTimeValue Value)) (now : Time) (value : Value) : Prop :=
  ∃ (place : Nat) (entry : BACnetTimeValue Value), entries[place]? = some entry
    ∧ entry.value = value
    ∧ timeTuple entry.time ≤ nowTuple now
    ∧ ∀ (other : Nat) (another : BACnetTimeValue Value), entries[other]? = some another
      → timeTuple another.time ≤ nowTuple now
      → timeTuple another.time ≤ timeTuple entry.time
        ∧ (other < place → timeTuple another.time < timeTuple entry.time)

def InForce (today : Date) (now : Time) (db : ObjectDatabase) (exc : BACnetSpecialEvent Value)
    (value : Value)
    : Prop :=
  matchesPeriod exc.period today db = .ok true ∧ LatestDue exc.listOfTimeValues now value

/-- The exceptions have a value: that of the exception in force with the smallest event priority,
and of the first one if several have the same.
-/
def Governs (today : Date) (now : Time) (db : ObjectDatabase)
    (exceptions : List (BACnetSpecialEvent Value)) (value : Value)
    : Prop :=
  ∃ (place : Nat) (exc : BACnetSpecialEvent Value), exceptions[place]? = some exc
    ∧ InForce today now db exc value
    ∧ ∀ (other : Nat) (another : BACnetSpecialEvent Value) (something : Value),
      exceptions[other]? = some another → InForce today now db another something
      → exc.eventPriority ≤ another.eventPriority
        ∧ (other < place → exc.eventPriority < another.eventPriority)

namespace ScheduleObject

/-- The date is in the effective period, if there is one. -/
def InSeason (sched : ScheduleObject) (today : Date) : Prop :=
  ∀ period, sched.effectivePeriod = some period → matchesDateRange period today = true

/-- The value a schedule has by the rules. -/
inductive Prescribed (sched : ScheduleObject) (today : Date) (now : Time) (db : ObjectDatabase)
    : Value → Prop where
  | outOfSeason (outside : ¬ sched.InSeason today)
    : Prescribed sched today now db sched.scheduleDefault
  | exceptional {value : Value} (inSeason : sched.InSeason today)
    (governs : Governs today now db (sched.exceptionSchedule.getD []) value)
    : Prescribed sched today now db value
  | weekly {entries : List (BACnetTimeValue Value)} {value : Value}
    (inSeason : sched.InSeason today)
    (ordinary : ∀ other, ¬ Governs today now db (sched.exceptionSchedule.getD []) other)
    (listed : sched.dayEntries today = some entries) (due : LatestDue entries now value)
    : Prescribed sched today now db value
  | default (inSeason : sched.InSeason today)
    (ordinary : ∀ other, ¬ Governs today now db (sched.exceptionSchedule.getD []) other)
    (vacant : ∀ entries, sched.dayEntries today = some entries
      → ∀ other, ¬ LatestDue entries now other)
    : Prescribed sched today now db sched.scheduleDefault

end ScheduleObject

-- The two loops

variable {today : Date} {now : Time} {db : ObjectDatabase} {value : Value}

/-- What the loop over entries sees of one of them. -/
def lookEntry (now : Time) (entry : BACnetTimeValue Value) : Except Unit (Option Value) :=
  .ok (if timeTuple entry.time ≤ nowTuple now then some entry.value else none)

theorem lookEntry_eq {entry}
    : lookEntry now entry = .ok (some value)
      ↔ timeTuple entry.time ≤ nowTuple now ∧ entry.value = value := by
  by_cases due : timeTuple entry.time ≤ nowTuple now <;> simp [lookEntry, due]

/-- The later an entry is, the better. -/
def entryRank (entry : BACnetTimeValue Value) : TimeTupleᵒᵈ := OrderDual.toDual (timeTuple entry.time)

/-- The loop over entries is a search for the first best one, by induction on the entries. -/
theorem search_entries (entries bestTime) (bestValue : Option Value)
    : FirstBest.search entryRank (lookEntry now) entries (bestTime.map OrderDual.toDual) bestValue
      = .ok (resolveEntries now entries bestTime bestValue) := by
  induction entries generalizing bestTime bestValue with
  | nil => rfl
  | cons entry rest ih =>
    have better : (∃ most ∈ bestTime.map OrderDual.toDual, most ≤ entryRank entry)
        ↔ ¬ ∀ best ∈ bestTime, best < timeTuple entry.time := by
      simp [entryRank]
    simp only [FirstBest.search, resolveEntries, better, lookEntry]
    by_cases later : ∀ best ∈ bestTime, best < timeTuple entry.time
    · rw [if_neg (not_not.mpr later)]
      by_cases due : timeTuple entry.time ≤ nowTuple now
      · rw [if_pos due, if_pos ⟨due, later⟩]
        exact ih (some (timeTuple entry.time)) (some entry.value)
      · rw [if_neg due, if_neg fun both => due both.1]
        exact ih bestTime bestValue
    · rw [if_pos later, if_neg fun both => later both.2]
      exact ih bestTime bestValue

/-- An entry is the first best one exactly if it is the latest that is due. -/
theorem isFirst_entry_iff {entries place entry}
    : FirstBest.IsFirst entryRank (lookEntry now) entries none value place entry
      ↔ entries[place]? = some entry
        ∧ entry.value = value
        ∧ timeTuple entry.time ≤ nowTuple now
        ∧ ∀ (other : Nat) (another : BACnetTimeValue Value), entries[other]? = some another
          → timeTuple another.time ≤ nowTuple now
          → timeTuple another.time ≤ timeTuple entry.time
            ∧ (other < place → timeTuple another.time < timeTuple entry.time) := by
  constructor
  · intro first
    obtain ⟨due, same⟩ := lookEntry_eq.mp first.has
    refine ⟨first.there, same, due, ?_⟩
    intro other another there early
    exact first.least other another another.value there (lookEntry_eq.mpr ⟨early, rfl⟩)
  · intro given
    obtain ⟨there, same, due, latest⟩ := given
    refine ⟨there, lookEntry_eq.mpr ⟨due, same⟩, (fun most member => by cases member), ?_⟩
    intro other another something there' looked
    exact latest other another there' (lookEntry_eq.mp looked).1

/-- `_resolve_time_values` finds the value that a list of entries has, if it has one. -/
theorem resolveTimeValues_eq {entries}
    : resolveTimeValues entries now = some value ↔ LatestDue entries now value := by
  have searched : FirstBest.search entryRank (lookEntry now) entries none none
      = .ok (resolveTimeValues entries now) :=
    search_entries entries none none
  constructor
  · intro found
    rcases (FirstBest.outcome_of_search searched).finds with
      ⟨other, place, entry, same, first⟩ | ⟨nothing, _⟩
    · obtain rfl : value = other := Option.some.inj (found.symm.trans same)
      exact ⟨place, entry, isFirst_entry_iff.mp first⟩
    · exact absurd (found.symm.trans nothing) (by simp)
  · intro due
    obtain ⟨place, entry, first⟩ := due
    have best := isFirst_entry_iff.mpr first
    rcases (FirstBest.outcome_of_search searched).finds with
      ⟨other, _, _, same, another⟩ | ⟨_, none_⟩
    · exact same.trans (congrArg some (another.unique best))
    · exact (none_.not_first best).elim

/-- What the loop over exceptions sees of one of them. -/
def lookException (today : Date) (now : Time) (db : ObjectDatabase)
    (exc : BACnetSpecialEvent Value)
    : Except Raised (Option Value) :=
  (matchesPeriod exc.period today db).map fun does =>
    if does then resolveTimeValues exc.listOfTimeValues now else none

theorem lookException_eq {exc}
    : lookException today now db exc = .ok (some value) ↔ InForce today now db exc value := by
  simp only [lookException, InForce, ← resolveTimeValues_eq]
  rcases matchesPeriod exc.period today db with raised | _ | _ <;> simp [Except.map]

/-- The loop over exceptions is a search for the first best one, by induction on the exceptions. -/
theorem search_exceptions (exceptions) (bestPriority : Int) (bestValue : Option Value)
    : FirstBest.search BACnetSpecialEvent.eventPriority (lookException today now db) exceptions
        (some bestPriority) bestValue
      = resolveExceptions today now db exceptions bestPriority bestValue := by
  induction exceptions generalizing bestPriority bestValue with
  | nil => rfl
  | cons exc rest ih =>
    simp only [FirstBest.search, resolveExceptions, Option.mem_some_iff, exists_eq_left', ih,
      lookException]
    split
    · rfl
    · rcases matchesPeriod exc.period today db with raised | _ | _
      · rfl
      · rfl
      · cases resolveTimeValues exc.listOfTimeValues now <;> rfl

/-- Priorities as the standard has them. -/
def EventPriorities (exceptions : List (BACnetSpecialEvent Value)) : Prop :=
  ∀ exc ∈ exceptions, 1 ≤ exc.eventPriority ∧ exc.eventPriority ≤ 16

/-- Among exceptions with such priorities, the first best one is the one that governs. -/
theorem isFirst_exception_iff {exceptions place exc} (priorities : EventPriorities exceptions)
    : FirstBest.IsFirst BACnetSpecialEvent.eventPriority (lookException today now db) exceptions
        (some 17) value place exc
      ↔ exceptions[place]? = some exc
        ∧ InForce today now db exc value
        ∧ ∀ (other : Nat) (another : BACnetSpecialEvent Value) (something : Value),
          exceptions[other]? = some another → InForce today now db another something
          → exc.eventPriority ≤ another.eventPriority
            ∧ (other < place → exc.eventPriority < another.eventPriority) := by
  constructor
  · intro first
    refine ⟨first.there, lookException_eq.mp first.has, ?_⟩
    intro other another something there inForce
    exact first.least other another something there (lookException_eq.mpr inForce)
  · intro given
    obtain ⟨there, inForce, smallest⟩ := given
    refine ⟨there, lookException_eq.mpr inForce, ?_, ?_⟩
    · intro most member
      cases member
      have small := (priorities exc (List.mem_of_getElem? there)).2
      omega
    · intro other another something there' looked
      exact smallest other another something there' (lookException_eq.mp looked)

/-- Every exception that no earlier one in force outranks, by a priority as small or smaller, can
be matched with the date: its calendar has a present value, and its entry is of the kind that its
discriminator says.
-/
def Matchable (today : Date) (now : Time) (db : ObjectDatabase)
    (exceptions : List (BACnetSpecialEvent Value))
    : Prop :=
  ∀ (place : Nat) (exc : BACnetSpecialEvent Value), exceptions[place]? = some exc
    → (∀ other < place, ∀ another something, exceptions[other]? = some another
      → InForce today now db another something → exc.eventPriority < another.eventPriority)
    → ∃ does, matchesPeriod exc.period today db = .ok does

/-- The loop over the exceptions raises nothing exactly if those it looks at can be matched. -/
theorem readable_iff {exceptions} (priorities : EventPriorities exceptions)
    : FirstBest.Readable BACnetSpecialEvent.eventPriority (lookException today now db) exceptions
        (some 17)
      ↔ Matchable today now db exceptions := by
  have seen : ∀ exc, (∃ seen, lookException today now db exc = .ok seen)
      ↔ ∃ does, matchesPeriod exc.period today db = .ok does := by
    intro exc
    simp only [lookException]
    cases matchesPeriod exc.period today db <;> simp [Except.map]
  simp only [FirstBest.Readable, Matchable, lookException_eq, seen]
  constructor
  · intro readable place exc there smaller
    refine readable place exc there ?_ smaller
    intro most member
    cases member
    have small := (priorities exc (List.mem_of_getElem? there)).2
    omega
  · intro matchable place exc there _ smaller
    exact matchable place exc there smaller

/-- `_resolve_exception_schedule` raises nothing exactly if the exceptions can be matched, and finds
the value that governs then.
-/
theorem resolveExceptionSchedule_ok {exceptions} (priorities : EventPriorities exceptions) {found}
    (resolved : resolveExceptionSchedule exceptions today now db = .ok found)
    : Matchable today now db exceptions
        ∧ ∀ value, found = some value ↔ Governs today now db exceptions value := by
  have outcome := FirstBest.outcome_of_search ((search_exceptions exceptions 17 none).trans resolved)
  refine ⟨(readable_iff priorities).mp outcome.readable, ?_⟩
  intro value
  constructor
  · intro same
    rcases outcome.finds with ⟨other, place, exc, found, first⟩ | ⟨nothing, _⟩
    · obtain rfl : value = other := Option.some.inj (same.symm.trans found)
      exact ⟨place, exc, (isFirst_exception_iff priorities).mp first⟩
    · exact absurd (same.symm.trans nothing) (by simp)
  · intro governs
    obtain ⟨place, exc, first⟩ := governs
    have best := (isFirst_exception_iff priorities).mpr first
    rcases outcome.finds with ⟨other, _, _, found, another⟩ | ⟨_, none_⟩
    · exact found.trans (congrArg some (another.unique best))
    · exact (none_.not_first best).elim

namespace ScheduleObject

variable {sched : ScheduleObject}

theorem prescribed_ordinary (inSeason : sched.InSeason today)
    (ordinary : ∀ other, ¬ Governs today now db (sched.exceptionSchedule.getD []) other)
    : sched.Prescribed today now db (((sched.dayEntries today).bind fun entries =>
        resolveTimeValues entries now).getD sched.scheduleDefault) := by
  cases listed : sched.dayEntries today with
  | none => exact .default inSeason ordinary fun entries there => by simp [listed] at there
  | some entries =>
    cases found : resolveTimeValues entries now with
    | some value =>
      simp only [Option.bind_some, found, Option.getD_some]
      exact .weekly inSeason ordinary listed (resolveTimeValues_eq.mp found)
    | none =>
      simp only [Option.bind_some, found, Option.getD_none]
      refine .default inSeason ordinary ?_
      intro others there other due
      cases listed.symm.trans there
      have some_ := resolveTimeValues_eq.mpr due
      simp [found] at some_

/-- Out of the effective period the default is applied, and it is prescribed. -/
theorem evaluate_outside {period} (present : sched.scheduleDefault ≠ .none)
    (given : sched.effectivePeriod = some period) (outside : ¬ sched.InSeason today)
    : sched.evaluate today now db = .ok sched.scheduleDefault := by
  have missed : matchesDateRange period today = false := by
    simpa [InSeason, given] using outside
  simp [evaluate, readScheduleDefault, readEffectivePeriod, present, given, missed, bind,
    Except.bind]

theorem evaluate_inside {period} (present : sched.scheduleDefault ≠ .none)
    (given : sched.effectivePeriod = some period) (inSeason : sched.InSeason today)
    : sched.evaluate today now db
      = (resolveExceptionSchedule (sched.exceptionSchedule.getD []) today now db).map
        fun found => found.getD (((sched.dayEntries today).bind fun entries =>
          resolveTimeValues entries now).getD sched.scheduleDefault) := by
  have within : matchesDateRange period today = true := inSeason period given
  simp only [evaluate, readScheduleDefault, readEffectivePeriod, if_neg present, given, within,
    bind, Except.bind]
  rcases resolveExceptionSchedule (sched.exceptionSchedule.getD []) today now db with
    raised | _ | value <;> rfl

/-- A run of the evaluation that raises nothing has read the default and the period. -/
theorem present_of_evaluate (evaluated : sched.evaluate today now db = .ok value)
    : sched.scheduleDefault ≠ .none ∧ ∃ period, sched.effectivePeriod = some period := by
  by_cases absent : sched.scheduleDefault = .none
  · simp [evaluate, readScheduleDefault, absent, propertyError] at evaluated
    cases evaluated
  · refine ⟨absent, ?_⟩
    cases given : sched.effectivePeriod with
    | none =>
      simp [evaluate, readScheduleDefault, readEffectivePeriod, absent, given] at evaluated
      cases evaluated
    | some period => exact ⟨period, rfl⟩

/-- The engine applies the value that the rules prescribe exactly if neither the default nor the
effective period is Null and, in the effective period, the exceptions can be matched.
-/
theorem evaluates_as_prescribed_iff (sched : ScheduleObject) (today : Date) (now : Time)
    (db : ObjectDatabase) (priorities : EventPriorities (sched.exceptionSchedule.getD []))
    : (∃ value, sched.evaluate today now db = .ok value ∧ sched.Prescribed today now db value)
      ↔ sched.scheduleDefault ≠ .none
        ∧ sched.effectivePeriod ≠ none
        ∧ (sched.InSeason today
          → Matchable today now db (sched.exceptionSchedule.getD [])) := by
  constructor
  · intro applied
    obtain ⟨value, evaluated, _⟩ := applied
    obtain ⟨present, period, given⟩ := present_of_evaluate evaluated
    refine ⟨present, by simp [given], ?_⟩
    intro inSeason
    rw [evaluate_inside present given inSeason] at evaluated
    cases resolved : resolveExceptionSchedule (sched.exceptionSchedule.getD []) today now db with
    | error raised => simp [resolved, Except.map] at evaluated
    | ok found => exact (resolveExceptionSchedule_ok priorities resolved).1
  · intro fit
    obtain ⟨present, period_, matchable⟩ := fit
    obtain ⟨period, given⟩ := Option.ne_none_iff_exists'.mp period_
    by_cases inSeason : sched.InSeason today
    · have readable := (readable_iff priorities).mpr (matchable inSeason)
      obtain ⟨found, searched⟩ := FirstBest.search_ok readable
      have resolved := (search_exceptions _ 17 none).symm.trans searched
      have governed := (resolveExceptionSchedule_ok priorities resolved).2
      rw [evaluate_inside present given inSeason, resolveExceptionSchedule, resolved]
      refine ⟨_, rfl, ?_⟩
      cases found with
      | some value => exact .exceptional inSeason ((governed value).mp rfl)
      | none =>
        apply prescribed_ordinary inSeason
        intro other governs
        simpa using (governed other).mpr governs
    · exact ⟨_, evaluate_outside present given inSeason, .outOfSeason inSeason⟩

/-- The rules at noon of a Monday in May, for a schedule with an entry at eight o'clock of every
day and no exceptions.
-/
theorem evaluates_as_prescribed_iff_monday
    : let sched : ScheduleObject := {
        weeklySchedule := some (List.replicate 7 [⟨⟨8, 0, 0, 0⟩, .bool true⟩])
        scheduleDefault := .bool false
      }
      let today : Date := { year := 2024, month := 5, day := 6 }
      let noon : Time := { hour := 12, minute := 0, second := 0, microsecond := 0 }
      sched.evaluate today noon {} = .ok (.bool true)
        ∧ sched.Prescribed today noon {} (.bool true) := by
  intro sched today noon
  have priorities : EventPriorities (sched.exceptionSchedule.getD []) := by
    intro exc member
    cases member
  have fits := (evaluates_as_prescribed_iff sched today noon {} priorities).mpr
    ⟨by decide, by decide, fun _ place exc there => by cases there⟩
  have evaluated : sched.evaluate today noon {} = .ok (.bool true) := by decide +kernel
  obtain ⟨value, applied, prescribed⟩ := fits
  obtain rfl : value = .bool true := Except.ok.inj (applied.symm.trans evaluated)
  exact ⟨evaluated, prescribed⟩

/-- The same schedule with the default that the constructor gives it, which is Null: the evaluation
raises, and the value that is due is not applied.
-/
theorem null_default_applies_nothing
    : let sched : ScheduleObject := {
        weeklySchedule := some (List.replicate 7 [⟨⟨8, 0, 0, 0⟩, .bool true⟩])
      }
      let today : Date := { year := 2024, month := 5, day := 6 }
      let noon : Time := { hour := 12, minute := 0, second := 0, microsecond := 0 }
      sched.evaluate today noon {} = propertyError .valueNotInitialized
        ∧ sched.Prescribed today noon {} (.bool true) := by
  intro sched today noon
  refine ⟨rfl, ?_⟩
  have ordinary : ∀ other, ¬ Governs today noon {} (sched.exceptionSchedule.getD []) other := by
    intro other governs
    obtain ⟨place, exc, there, _⟩ := governs
    cases there
  have inSeason : sched.InSeason today := by
    intro period given
    cases given
    decide
  have applied : ((sched.dayEntries today).bind fun entries =>
      resolveTimeValues entries noon).getD sched.scheduleDefault = .bool true := by
    decide +kernel
  exact applied ▸ prescribed_ordinary inSeason ordinary

end ScheduleObject

end BacPy
