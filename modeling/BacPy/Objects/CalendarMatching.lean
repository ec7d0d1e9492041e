import BacPy.Objects.Calendar

/-! The rules of calendars, said about dates themselves, and that `matches_calendar_entry` follows
them. Dates are ordered by their ordinals.
-/

namespace BacPy

namespace Date

/-- Year, month and day, as a range compares them. -/
def tuple (date : Date) : DateTuple := toLex (date.year, toLex (date.month, date.day))

-- Ordinals

/-- The days of a year before a month. -/
def daysBefore (year month : Nat) : Nat :=
  ((List.range' 1 (month - 1)).map (lastDayOf year)).sum

/-- The days before a year. -/
def yearStart (year : Nat) : Nat :=
  (year - 1) * 365 + (year - 1) / 4 - (year - 1) / 100 + (year - 1) / 400

theorem toordinal_eq (date : Date)
    : date.toordinal = yearStart date.year + daysBefore date.year date.month + date.day :=
  rfl

theorem daysBefore_succ {year month} (first : 1 ≤ month)
    : daysBefore year (month + 1) = daysBefore year month + lastDayOf year month := by
  obtain ⟨before, rfl⟩ := Nat.exists_eq_add_of_le' first
  simp [daysBefore, List.range'_concat, Nat.add_comm 1]

/-- The days of a month come before those of a later one, by induction on the later one. -/
theorem daysBefore_add_lastDayOf {year month later} (first : 1 ≤ month) (lt : month < later)
    : daysBefore year month + lastDayOf year month ≤ daysBefore year later := by
  induction later with
  | zero => cases lt
  | succ later ih =>
    rcases Nat.lt_or_eq_of_le (Nat.le_of_lt_succ lt) with before | rfl
    · have := ih before
      have := @daysBefore_succ year later (first.trans before.le)
      omega
    · exact (daysBefore_succ first).ge

theorem daysBefore_year (year : Nat) : daysBefore year 13 = if isLeap year then 366 else 365 := by
  have february : lastDayOf year 2 = if isLeap year then 29 else 28 := rfl
  have whole : daysBefore year 13 = 337 + lastDayOf year 2 := by
    simp [daysBefore, lastDayOf, List.range']
    omega
  rw [whole, february]
  split <;> rfl

/-- A leap year has a day more: the year after it begins a day later. -/
theorem yearStart_add_days {year} (first : 1 ≤ year)
    : yearStart year + daysBefore year 13 = yearStart (year + 1) := by
  obtain ⟨before, rfl⟩ := Nat.exists_eq_add_of_le' first
  have leap : isLeap (before + 1) = true
      ↔ 4 ∣ before + 1 ∧ (¬ 100 ∣ before + 1 ∨ 400 ∣ before + 1) := by
    simp [isLeap, Nat.dvd_iff_mod_eq_zero]
  have century : 100 ∣ before + 1 → 4 ∣ before + 1 := Dvd.dvd.trans ⟨25, rfl⟩
  have fourth : 400 ∣ before + 1 → 100 ∣ before + 1 := Dvd.dvd.trans ⟨4, rfl⟩
  have fewer : before / 100 ≤ before / 4 := Nat.div_le_div_left (by decide) (by decide)
  rw [daysBefore_year]
  simp only [yearStart, Nat.add_sub_cancel, Nat.succ_div, leap]
  generalize before / 4 = quarters, before / 100 = centuries, before / 400 = fourths at fewer
  split_ifs <;> omega

theorem yearStart_mono {year later} (le : year ≤ later) : yearStart year ≤ yearStart later := by
  have quarters : (year - 1) / 4 ≤ (later - 1) / 4 := Nat.div_le_div_right (by omega)
  have fourths : (year - 1) / 400 ≤ (later - 1) / 400 := Nat.div_le_div_right (by omega)
  unfold yearStart
  omega

/-- No date of a year comes after its last day. -/
theorem toordinal_le (date : Date) : date.toordinal ≤ yearStart (date.year + 1) := by
  obtain ⟨someYear, _, someMonth, lastMonth, _, lastDay⟩ := date.inRange
  have month := @daysBefore_add_lastDayOf date.year date.month 13 someMonth (by omega)
  have year := yearStart_add_days someYear
  rw [toordinal_eq]
  omega

theorem toordinal_lt_of_tuple_lt {date later : Date} (lt : date.tuple < later.tuple)
    : date.toordinal < later.toordinal := by
  have first := later.inRange
  rcases Prod.Lex.toLex_lt_toLex.mp lt with year | ⟨year, rest⟩
  · have bound := date.toordinal_le
    have start := @yearStart_mono (date.year + 1) later.year year
    rw [toordinal_eq later]
    omega
  · rw [toordinal_eq, toordinal_eq, show date.year = later.year from year]
    rcases Prod.Lex.toLex_lt_toLex.mp rest with month | ⟨month, day⟩
    · have bound := @daysBefore_add_lastDayOf date.year date.month later.month
        date.inRange.2.2.1 month
      rw [show date.year = later.year from year] at bound
      have within := date.inRange.2.2.2.2.2
      rw [show date.year = later.year from year] at within
      omega
    · rw [show date.month = later.month from month]
      exact Nat.add_lt_add_left day _

/-- Year, month and day are compared as the days themselves are. -/
theorem tuple_le_iff {date later : Date}
    : date.tuple ≤ later.tuple ↔ date.toordinal ≤ later.toordinal := by
  refine ⟨fun le => ?_, fun le => le_of_not_gt fun lt => ?_⟩
  · rcases le.lt_or_eq with lt | same
    · exact (toordinal_lt_of_tuple_lt lt).le
    · have sameYear : date.year = later.year := congrArg Prod.fst same
      have sameMonth : date.month = later.month := congrArg (fun tuple => tuple.2.1) same
      have sameDay : date.day = later.day := congrArg (fun tuple => tuple.2.2) same
      rw [toordinal_eq, toordinal_eq, sameYear, sameMonth, sameDay]
  · exact absurd (toordinal_lt_of_tuple_lt lt) (Nat.not_lt.mpr le)

/-- No date of the same month comes later. -/
def EndsMonth (date : Date) : Prop :=
  ∀ other : Date, other.year = date.year → other.month = date.month → other.day ≤ date.day

/-- The last day of the month is less than a week away. -/
def InLastWeek (date : Date) : Prop :=
  ∃ last : Date, last.EndsMonth ∧ last.year = date.year ∧ last.month = date.month
    ∧ last.day < date.day + 7

theorem lastDayOf_mem (year month : Nat) : 1 ≤ lastDayOf year month ∧ lastDayOf year month ≤ 31 := by
  unfold lastDayOf
  split_ifs <;> decide

/-- The last date of the month. -/
def last (date : Date) : Date where
  year := date.year
  month := date.month
  day := lastDayOf date.year date.month
  inRange :=
    ⟨date.inRange.1, date.inRange.2.1, date.inRange.2.2.1, date.inRange.2.2.2.1,
      (lastDayOf_mem _ _).1, Nat.le_refl _⟩

theorem endsMonth_iff {date : Date} : date.EndsMonth ↔ date.day = lastDayOf date.year date.month := by
  refine ⟨fun ends => ?_, fun isLast other year month => ?_⟩
  · exact Nat.le_antisymm date.inRange.2.2.2.2.2 (ends date.last rfl rfl)
  · rw [isLast, ← year, ← month]
    exact other.inRange.2.2.2.2.2

theorem inLastWeek_iff {date : Date}
    : date.InLastWeek ↔ lastDayOf date.year date.month - 6 ≤ date.day := by
  have bound := date.inRange.2.2.2.2.2
  refine ⟨fun inLast => ?_, fun late => ⟨date.last, endsMonth_iff.mpr rfl, rfl, rfl, ?_⟩⟩
  · obtain ⟨last, ends, year, month, near⟩ := inLast
    rw [← year, ← month, ← endsMonth_iff.mp ends]
    omega
  · change lastDayOf date.year date.month < _
    omega

end Date

-- The rules

namespace CalendarRules

def Month (code : Nat) (date : Date) : Prop :=
  code = 0xFF ∨ code = 13 ∧ Odd date.month ∨ code = 14 ∧ Even date.month ∨ code = date.month

def Day (code : Nat) (date : Date) : Prop :=
  code = 0xFF ∨ code = 32 ∧ date.EndsMonth ∨ code = 33 ∧ Odd date.day ∨ code = 34 ∧ Even date.day
    ∨ code = date.day

def DayOfWeek (code : Nat) (date : Date) : Prop := code = 0xFF ∨ code = date.isoweekday

/-- The weeks of a month are its first seven days, the next seven and so on. -/
def Week (code : Nat) (date : Date) : Prop :=
  code = 0xFF ∨ code = 6 ∧ date.InLastWeek ∨ date.day ≤ 7 * code ∧ 7 * code < date.day + 7

/-- Every specified field of a pattern is the date's. -/
structure Pattern (pattern : BACnetDate) (date : Date) : Prop where
  year : pattern.year = 0xFF ∨ pattern.year = date.year
  month : Month pattern.month date
  day : Day pattern.day date
  dayOfWeek : DayOfWeek pattern.dayOfWeek date

structure WeekNDay (pattern : BACnetWeekNDay) (date : Date) : Prop where
  month : Month pattern.month date
  week : Week pattern.weekOfMonth date
  dayOfWeek : DayOfWeek pattern.dayOfWeek date

/-- The end of a range that nothing is said about. -/
def Unspecified (bound : BACnetDate) : Prop :=
  bound.year = 0xFF ∧ bound.month = 0xFF ∧ bound.day = 0xFF

/-- The end of a range that names a year, a month and a day. -/
def Specified (bound : BACnetDate) : Prop :=
  bound.year ≠ 0xFF ∧ bound.month ∉ [0xFF, 13, 14] ∧ bound.day ∉ [0xFF, 32, 33, 34]

def tuple (bound : BACnetDate) : DateTuple := toLex (bound.year, toLex (bound.month, bound.day))

variable {code : Nat} {date : Date}

theorem month_iff : matchesMonth code date.month = true ↔ Month code date := by
  have bound := date.inRange.2.2.2.1
  unfold matchesMonth Month
  split_ifs <;> simp_all [Nat.odd_iff, Nat.even_iff] <;> omega

theorem dayOfWeek_iff : matchesDayOfWeek code date.isoweekday = true ↔ DayOfWeek code date :=
  decide_eq_true_iff

theorem pattern_iff (pattern : BACnetDate)
    : matchesBacnetDate pattern date = true ↔ Pattern pattern date := by
  have bound : date.day ≤ lastDayOf date.year date.month := date.inRange.2.2.2.2.2
  have most := (Date.lastDayOf_mem date.year date.month).2
  have day : (if pattern.day = 0xFF then true
      else if pattern.day = 32 then decide (date.day = lastDayOf date.year date.month)
      else if pattern.day = 33 then decide (date.day % 2 ≠ 0)
      else if pattern.day = 34 then decide (date.day % 2 = 0)
      else decide (pattern.day = date.day)) = true ↔ Day pattern.day date := by
    unfold Day
    rw [Date.endsMonth_iff]
    split_ifs <;> simp_all [Nat.odd_iff, Nat.even_iff] <;> omega
  unfold matchesBacnetDate
  simp only [Bool.and_eq_true, decide_eq_true_eq, month_iff, dayOfWeek_iff, day]
  constructor
  · rintro ⟨⟨⟨year, month⟩, day⟩, dayOfWeek⟩
    exact { year, month, day, dayOfWeek }
  · intro rules
    exact ⟨⟨⟨rules.year, rules.month⟩, rules.day⟩, rules.dayOfWeek⟩

theorem weekNDay_iff (pattern : BACnetWeekNDay)
    : matchesWeekNDay pattern date = true ↔ WeekNDay pattern date := by
  have bound : date.day ≤ lastDayOf date.year date.month := date.inRange.2.2.2.2.2
  have first : 1 ≤ date.day := date.inRange.2.2.2.2.1
  have most := (Date.lastDayOf_mem date.year date.month).2
  have week : (if pattern.weekOfMonth = 0xFF then true
      else if pattern.weekOfMonth = 6 then
        decide (lastDayOf date.year date.month - 6 ≤ date.day)
      else decide (pattern.weekOfMonth = weekOfMonth date.day)) = true
        ↔ Week pattern.weekOfMonth date := by
    unfold Week weekOfMonth
    rw [Date.inLastWeek_iff]
    split_ifs <;> simp_all <;> omega
  unfold matchesWeekNDay
  simp only [Bool.and_eq_true, month_iff, dayOfWeek_iff, week]
  constructor
  · rintro ⟨⟨month, week⟩, dayOfWeek⟩
    exact { month, week, dayOfWeek }
  · intro rules
    exact ⟨⟨rules.month, rules.week⟩, rules.dayOfWeek⟩

theorem dateTuple_specified {bound} (specified : Specified bound) (low : Bool)
    : dateTuple bound low = tuple bound := by
  obtain ⟨year, month, day⟩ := specified
  unfold dateTuple
  simp only [year, month, day, if_false, ite_self]
  rfl

theorem dateTuple_unspecified_le {bound} (unspecified : Unspecified bound)
    : dateTuple bound true ≤ date.tuple := by
  obtain ⟨year, month, day⟩ := unspecified
  have someYear := date.inRange.1
  simp only [dateTuple, year, month, day]
  exact Prod.Lex.toLex_le_toLex.mpr (.inl someYear)

theorem le_dateTuple_unspecified {bound} (unspecified : Unspecified bound)
    : date.tuple ≤ dateTuple bound false := by
  obtain ⟨year, month, day⟩ := unspecified
  obtain ⟨_, lastYear, _, lastMonth, _, lastDay⟩ := date.inRange
  have most := (Date.lastDayOf_mem date.year date.month).2
  simp only [dateTuple, year, month, day]
  have rest : (toLex (date.month, date.day) : Nat ×ₗ Nat) ≤ toLex (12, 31) :=
    Prod.Lex.toLex_le_toLex.mpr (lastMonth.lt_or_eq.imp_right fun same => ⟨same, lastDay.trans most⟩)
  exact Prod.Lex.toLex_le_toLex.mpr (lastYear.lt_or_eq.imp_right fun same => ⟨same, rest⟩)

theorem not_specified {bound} (unspecified : Unspecified bound) : ¬ Specified bound :=
  fun specified => specified.1 unspecified.1

/-- What is unspecified bounds no date. -/
theorem range_iff (range : BACnetDateRange)
    (start : Specified range.startDate ∨ Unspecified range.startDate)
    (stop : Specified range.endDate ∨ Unspecified range.endDate)
    : matchesDateRange range date = true
      ↔ (Specified range.startDate → tuple range.startDate ≤ date.tuple)
        ∧ (Specified range.endDate → date.tuple ≤ tuple range.endDate) := by
  have starts : dateTuple range.startDate true ≤ date.tuple
      ↔ (Specified range.startDate → tuple range.startDate ≤ date.tuple) := by
    rcases start with specified | unspecified
    · rw [dateTuple_specified specified]
      exact ⟨fun after _ => after, fun after => after specified⟩
    · exact iff_of_true (dateTuple_unspecified_le unspecified)
        fun specified => absurd specified (not_specified unspecified)
  have stops : date.tuple ≤ dateTuple range.endDate false
      ↔ (Specified range.endDate → date.tuple ≤ tuple range.endDate) := by
    rcases stop with specified | unspecified
    · rw [dateTuple_specified specified]
      exact ⟨fun before _ => before, fun before => before specified⟩
    · exact iff_of_true (le_dateTuple_unspecified unspecified)
        fun specified => absurd specified (not_specified unspecified)
  rw [← starts, ← stops]
  exact decide_eq_true_iff

end CalendarRules

open CalendarRules in
/-- Entries match the dates that the rules say, and an order of fields is one of days. -/
theorem matches_rules (date : Date)
    : (∀ pattern, ∃ does, matchesCalendarEntry ⟨0, .date pattern⟩ date = .ok does
        ∧ (does = true ↔ Pattern pattern date))
      ∧ (∀ range : BACnetDateRange,
          Specified range.startDate ∨ Unspecified range.startDate →
          Specified range.endDate ∨ Unspecified range.endDate →
            ∃ does, matchesCalendarEntry ⟨1, .dateRange range⟩ date = .ok does
              ∧ (does = true
                ↔ (Specified range.startDate → tuple range.startDate ≤ date.tuple)
                  ∧ (Specified range.endDate → date.tuple ≤ tuple range.endDate)))
      ∧ (∀ pattern, ∃ does, matchesCalendarEntry ⟨2, .weekNDay pattern⟩ date = .ok does
          ∧ (does = true ↔ WeekNDay pattern date))
      ∧ ∀ other : Date, date.tuple ≤ other.tuple ↔ date.toordinal ≤ other.toordinal := by
  refine ⟨fun pattern => ⟨_, rfl, pattern_iff pattern⟩, fun range start stop => ?_,
    fun pattern => ⟨_, rfl, weekNDay_iff pattern⟩, fun other => Date.tuple_le_iff⟩
  exact ⟨_, rfl, range_iff range start stop⟩

end BacPy
