import BacPy.Objects.Database
import BacPy.Types.Constructed
import Mathlib.Data.Prod.Lex

/-! Calendars: which dates an entry matches, and the Calendar object. -/

namespace BacPy

open Library

-- Dates

def isLeap (year : Nat) : Bool := year % 4 = 0 ∧ (year % 100 ≠ 0 ∨ year % 400 = 0)

/-- `calendar.monthrange(year, month)[1]` -/
def lastDayOf (year month : Nat) : Nat :=
  if month = 2 then (if isLeap year then 29 else 28)
  else if month ∈ [4, 6, 9, 11] then 30
  else 31

/-- `datetime.date`: a date of the proleptic Gregorian calendar. -/
structure Date where
  year : Nat
  month : Nat
  day : Nat
  inRange : 1 ≤ year ∧ year ≤ 9999 ∧ 1 ≤ month ∧ month ≤ 12 ∧ 1 ≤ day
    ∧ day ≤ lastDayOf year month := by decide

namespace Date

/-- `date.toordinal()`: the days since the end of the year 0. -/
def toordinal (date : Date) : Nat :=
  let before := date.year - 1
  before * 365 + before / 4 - before / 100 + before / 400
    + ((List.range' 1 (date.month - 1)).map (lastDayOf date.year)).sum + date.day

/-- `date.isoweekday()`: Monday is 1 and Sunday is 7. -/
def isoweekday (date : Date) : Nat :=
  if date.toordinal % 7 = 0 then 7 else date.toordinal % 7

/-- The first of January 2024 was a Monday. -/
example : ({ year := 2024, month := 1, day := 1 } : Date).isoweekday = 1 := by decide

end Date

-- Patterns

/-- The month of a pattern: 13 stands for the odd months, 14 for the even ones, 255 for all. -/
def matchesMonth (pattern month : Nat) : Bool :=
  if pattern = 0xFF then true
  else if pattern = 13 then month % 2 ≠ 0
  else if pattern = 14 then month % 2 = 0
  else pattern = month

def matchesDayOfWeek (pattern dayOfWeek : Nat) : Bool := pattern = 0xFF ∨ pattern = dayOfWeek

def matchesBacnetDate (entry : BACnetDate) (date : Date) : Bool :=
  let year := entry.year = 0xFF ∨ entry.year = date.year
  let day :=
    if entry.day = 0xFF then true
    else if entry.day = 32 then date.day = lastDayOf date.year date.month
    else if entry.day = 33 then date.day % 2 ≠ 0
    else if entry.day = 34 then date.day % 2 = 0
    else entry.day = date.day
  year && matchesMonth entry.month date.month && day
    && matchesDayOfWeek entry.dayOfWeek date.isoweekday

/-- A year, a month and a day, which are compared in this order. -/
abbrev DateTuple := Nat ×ₗ Nat ×ₗ Nat

/-- `_date_tuple`: the least or the greatest date of a pattern. -/
def dateTuple (date : BACnetDate) (low : Bool) : DateTuple :=
  let anyMonth := date.month ∈ [0xFF, 13, 14]
  let anyDay := date.day ∈ [0xFF, 32, 33, 34]
  if low then
    toLex (if date.year = 0xFF then 0 else date.year,
      toLex (if anyMonth then 1 else date.month, if anyDay then 1 else date.day))
  else
    toLex (if date.year = 0xFF then 9999 else date.year,
      toLex (if anyMonth then 12 else date.month, if anyDay then 31 else date.day))

def matchesDateRange (entry : BACnetDateRange) (date : Date) : Bool :=
  let current : DateTuple := toLex (date.year, toLex (date.month, date.day))
  dateTuple entry.startDate true ≤ current ∧ current ≤ dateTuple entry.endDate false

def weekOfMonth (day : Nat) : Nat := (day - 1) / 7 + 1

/-- `_matches_week_n_day`: week 6 stands for the last seven days. -/
def matchesWeekNDay (entry : BACnetWeekNDay) (date : Date) : Bool :=
  let week :=
    if entry.weekOfMonth = 0xFF then true
    else if entry.weekOfMonth = 6 then lastDayOf date.year date.month - 6 ≤ date.day
    else entry.weekOfMonth = weekOfMonth date.day
  matchesMonth entry.month date.month && week && matchesDayOfWeek entry.dayOfWeek date.isoweekday

/-- `matches_calendar_entry`: a value that does not go with the discriminator fails an
assertion, and an unknown discriminator matches nothing.
-/
def matchesCalendarEntry (entry : BACnetCalendarEntry) (date : Date) : Except Raised Bool :=
  if entry.choice = 0 then
    match entry.value with
    | .date value => .ok (matchesBacnetDate value date)
    | _ => .error (.builtin .assertionError)
  else if entry.choice = 1 then
    match entry.value with
    | .dateRange value => .ok (matchesDateRange value date)
    | _ => .error (.builtin .assertionError)
  else if entry.choice = 2 then
    match entry.value with
    | .weekNDay value => .ok (matchesWeekNDay value date)
    | _ => .error (.builtin .assertionError)
  else .ok false

-- The Calendar object

/-- `any(matches_calendar_entry(entry, …) for entry in date_list)` -/
def anyMatches (date : Date) : List BACnetCalendarEntry → Except Raised Bool
  | [] => .ok false
  | entry :: rest => do
      if ← matchesCalendarEntry entry date then .ok true else anyMatches date rest

/-- `CalendarObject.evaluate`, of an object with this Date_List. -/
def evaluateCalendar (dateList : List BACnetCalendarEntry) (today : Date) (obj : BACnetObject)
    : Except Raised BACnetObject := do
  let result ← anyMatches today dateList
  .ok (obj.set .presentValue (.bool result))

end BacPy
