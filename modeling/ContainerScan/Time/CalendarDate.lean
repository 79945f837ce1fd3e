/-! Dates, and the days and weeks by which they are counted. -/

namespace ContainerScan

/-- A date of the calendar. -/
structure CalendarDate where
  year : Int
  month : Int
  day : Int
  deriving DecidableEq, Repr

namespace CalendarDate

/-- The date that lies a number of days after the start of 1970. -/
def ofDays (days : Int) : CalendarDate :=
  -- Years are counted from March, so that the leap day ends a year; 400 years make one era.
  let shifted := days + 719468
  let era := shifted.fdiv 146097
  let inEra := shifted - era * 146097
  let yearInEra := (inEra - inEra / 1460 + inEra / 36524 - inEra / 146096) / 365
  let dayOfYear := inEra - (365 * yearInEra + yearInEra / 4 - yearInEra / 100)
  let fromMarch := (5 * dayOfYear + 2) / 153
  let month := if fromMarch < 10 then fromMarch + 3 else fromMarch - 9
  let year := yearInEra + era * 400 + (if month ≤ 2 then 1 else 0)
  ⟨year, month, dayOfYear - (153 * fromMarch + 2) / 5 + 1⟩

/-- How many days after the start of 1970 a date lies. -/
def toDays (date : CalendarDate) : Int :=
  let year := if date.month ≤ 2 then date.year - 1 else date.year
  let era := year.fdiv 400
  let yearInEra := year - era * 400
  let fromMarch := if 2 < date.month then date.month - 3 else date.month + 9
  let dayOfYear := (153 * fromMarch + 2) / 5 + date.day - 1
  era * 146097 + (yearInEra * 365 + yearInEra / 4 - yearInEra / 100 + dayOfYear) - 719468

/-- How many days after the start of 1970 a week of a year begins, on its Monday. -/
def weekStart (year week : Int) : Int :=
  -- The first week of a year is the one with its fourth day; 1970 began on a Thursday.
  let fourth := (CalendarDate.mk year 1 4).toDays
  fourth - (fourth + 3).fmod 7 + (week - 1) * 7

/-- Whether a year has a week of that number: the Thursday of a week decides whose week it is. -/
def hasWeek (year week : Int) : Bool :=
  (ofDays (weekStart year week + 3)).year = year

/-- Whether a date is on the calendar of the years 1 to 9999. -/
def isValid (date : CalendarDate) : Bool :=
  1 ≤ date.year && date.year ≤ 9999 && ofDays date.toDays = date

end CalendarDate

end ContainerScan
