import Mathlib.Data.List.Basic
import Mathlib.Tactic.Ring

/-!
# Local dates, clock times and windows

Instants are UTC milliseconds. A time zone is a function from instants to the
wall clock it displays, and the zone database says which identifiers name a
zone; both stand for the host's `Intl.DateTimeFormat`, so nothing below depends
on a particular set of zones.

Clock times `HH:mm` and calendar dates `YYYY-MM-DD` occur in the source as
strings which have passed the patterns `^(?:[01]\d|2[0-3]):[0-5]\d$` and
`^\d{4}-\d{2}-\d{2}$`. They are kept here as the numbers those patterns fix,
with their text recovered by `text`. A date of that form need not exist: the
pattern admits `2026-13-45`.
-/

namespace DContact.Governance

/-- UTC milliseconds, as in `Date.prototype.getTime`. -/
abbrev Instant := Int

def leapYear (year : Int) : Bool :=
  (year % 4 == 0 && year % 100 != 0) || year % 400 == 0

/-- Days of a common year before the zero-based month. -/
def daysBeforeMonth : Nat → Int
  | 0 => 0
  | 1 => 31
  | 2 => 59
  | 3 => 90
  | 4 => 120
  | 5 => 151
  | 6 => 181
  | 7 => 212
  | 8 => 243
  | 9 => 273
  | 10 => 304
  | _ => 334

def dayFromYear (year : Int) : Int :=
  365 * (year - 1970) + (year - 1969) / 4 - (year - 1901) / 100 + (year - 1601) / 400

/-- Day number of a date whose zero-based month and day may overflow. -/
def makeDay (year month day : Int) : Int :=
  let carried := year + month / 12
  let index := (month % 12).toNat
  let leapDay := if leapYear carried && decide (2 ≤ index) then 1 else 0
  dayFromYear carried + daysBeforeMonth index + leapDay + day - 1

/-- `Date.UTC` reads the years 0 to 99 as 1900 to 1999. -/
def fullYear (year : Int) : Int :=
  if 0 ≤ year ∧ year ≤ 99 then 1900 + year else year

/-- `Date.UTC(year, month - 1, day, hour, minute, 0)`. -/
def dateUtc (year month day hour minute : Int) : Instant :=
  ((makeDay (fullYear year) (month - 1) day * 24 + hour) * 60 + minute) * 60000

def isoWeekdayOfDay (dayNumber : Int) : Nat :=
  ((((dayNumber + 4) % 7 + 6) % 7) + 1).toNat

def daysInMonth (year month : Nat) : Nat :=
  match month with
  | 2 => if leapYear year then 29 else 28
  | 4 | 6 | 9 | 11 => 30
  | _ => 31

/-- What a zone displays for one instant: an existing date of the common era
with its weekday, and a clock time. -/
structure ZonedParts where
  year : Nat
  month : Nat
  day : Nat
  weekday : Nat
  hour : Nat
  minute : Nat
  year_pos : 0 < year
  month_range : 1 ≤ month ∧ month ≤ 12
  day_range : 1 ≤ day ∧ day ≤ daysInMonth year month
  weekday_eq : weekday = isoWeekdayOfDay (makeDay year (month - 1) day)
  hour_lt : hour < 24
  minute_lt : minute < 60

def ZonedParts.minuteOfDay (parts : ZonedParts) : Nat := parts.hour * 60 + parts.minute

/-- The wall clock of a zone. -/
abbrev Zone := Instant → ZonedParts

/-- The zones known to the host, by identifier. -/
abbrev ZoneDatabase := String → Option Zone

def isValidTimeZone (zones : ZoneDatabase) (timeZone : String) : Bool :=
  (zones timeZone).isSome

/-- The wall clock carried back to an instant by two fixed-point corrections. -/
def zonedToUtc (zone : Zone) (year month day hour minute : Nat) : Instant :=
  let target := dateUtc year month day hour minute
  let correct (guess : Instant) : Instant :=
    let displayed := zone guess
    guess + (target -
      dateUtc displayed.year displayed.month displayed.day displayed.hour displayed.minute)
  correct (correct target)

/-- `String(value).padStart(2, '0')`. -/
def padStart (width value : Nat) : String :=
  String.ofList ((Nat.toDigits 10 value).leftpad width '0')

def civilFromDays (dayNumber : Int) : Int × Int × Int :=
  let shifted := dayNumber + 719468
  let dayOfEra := shifted % 146097
  let yearOfEra := (dayOfEra - dayOfEra / 1460 + dayOfEra / 36524 - dayOfEra / 146096) / 365
  let dayOfYear := dayOfEra - (365 * yearOfEra + yearOfEra / 4 - yearOfEra / 100)
  let fromMarch := (5 * dayOfYear + 2) / 153
  let month := if fromMarch < 10 then fromMarch + 3 else fromMarch - 9
  (yearOfEra + shifted / 146097 * 400 + if month ≤ 2 then 1 else 0, month,
    dayOfYear - (153 * fromMarch + 2) / 5 + 1)

/-- `Date.prototype.toISOString`. -/
def toISOString (instant : Instant) : String :=
  let (year, month, day) := civilFromDays (instant / 86400000)
  let clock := (instant % 86400000).toNat
  let years :=
    if 0 ≤ year ∧ year ≤ 9999 then padStart 4 year.toNat
    else (if year < 0 then "-" else "+") ++ padStart 6 year.natAbs
  years ++ "-" ++ padStart 2 month.toNat ++ "-" ++ padStart 2 day.toNat ++ "T" ++
    padStart 2 (clock / 3600000) ++ ":" ++ padStart 2 (clock / 60000 % 60) ++ ":" ++
    padStart 2 (clock / 1000 % 60) ++ "." ++ padStart 3 (clock % 1000) ++ "Z"

example : toISOString 951782400123 = "2000-02-29T00:00:00.123Z" := by decide

/-- A date text of the form `YYYY-MM-DD`. -/
structure CalendarDate where
  year : Fin 10000
  month : Fin 100
  day : Fin 100
  deriving DecidableEq

def CalendarDate.text (date : CalendarDate) : String :=
  padStart 4 date.year ++ "-" ++ padStart 2 date.month ++ "-" ++ padStart 2 date.day

def localDateKey (parts : ZonedParts) : String :=
  toString parts.year ++ "-" ++ padStart 2 parts.month ++ "-" ++ padStart 2 parts.day

/-- Weekday of a date text, read through `Date.UTC`. -/
def isoWeekday (date : CalendarDate) : Nat :=
  isoWeekdayOfDay (makeDay (fullYear (date.year : Nat)) (((date.month : Nat) : Int) - 1)
    (date.day : Nat))

instance neZero_hours : NeZero 24 := ⟨by decide⟩

instance neZero_minutes : NeZero 60 := ⟨by decide⟩

/-- A clock time of the form `HH:mm`. -/
structure LocalTime where
  hour : Fin 24
  minute : Fin 60
  deriving DecidableEq

def LocalTime.text (time : LocalTime) : String :=
  padStart 2 time.hour ++ ":" ++ padStart 2 time.minute

/-- `localMinute` of the source, on a text which has passed the pattern. -/
def LocalTime.localMinute (time : LocalTime) : Nat := time.hour * 60 + time.minute

structure LocalTimeWindow where
  daysOfWeek : List Nat
  startLocal : LocalTime
  endLocal : LocalTime
  deriving DecidableEq

/-- A window whose end does not come after its start wraps around midnight and
covers the two ends of each listed day. -/
def withinWindow (window : LocalTimeWindow) (weekday minuteOfDay : Nat) : Bool :=
  if !window.daysOfWeek.contains weekday then
    false
  else
    let start := window.startLocal.localMinute
    let stop := window.endLocal.localMinute
    if stop > start then
      decide (minuteOfDay ≥ start) && decide (minuteOfDay < stop)
    else
      decide (minuteOfDay ≥ start) || decide (minuteOfDay < stop)

def anyWindowMatches (windows : List LocalTimeWindow) (weekday minuteOfDay : Nat) : Bool :=
  windows.any fun window => withinWindow window weekday minuteOfDay

theorem isoWeekdayOfDay_range (dayNumber : Int) :
    1 ≤ isoWeekdayOfDay dayNumber ∧ isoWeekdayOfDay dayNumber ≤ 7 := by
  unfold isoWeekdayOfDay
  omega

theorem ZonedParts.weekday_range (parts : ZonedParts) :
    1 ≤ parts.weekday ∧ parts.weekday ≤ 7 := by
  rw [parts.weekday_eq]
  exact isoWeekdayOfDay_range _

theorem ZonedParts.minuteOfDay_lt (parts : ZonedParts) : parts.minuteOfDay < 1440 := by
  have hours := parts.hour_lt
  have minutes := parts.minute_lt
  unfold ZonedParts.minuteOfDay
  omega

/-- The digits of a padded number still denote it. -/
theorem ofDigitChars_padStart (width value : Nat) :
    Nat.ofDigitChars 10 (padStart width value).toList 0 = value := by
  simp [padStart, List.leftpad, Nat.ofDigitChars_append]

theorem padStart_inj {width left right : Nat} (same : padStart width left = padStart width right) :
    left = right := by
  rw [← ofDigitChars_padStart width left, same, ofDigitChars_padStart]

theorem length_padStart {width value : Nat} (pos : 0 < width) (bound : value < 10 ^ width) :
    (padStart width value).toList.length = width := by
  have short : (Nat.toDigits 10 value).length ≤ width :=
    (Nat.length_toDigits_le_iff (by decide) pos).mpr bound
  simp only [padStart, String.toList_ofList, List.leftpad, List.length_append,
    List.length_replicate]
  omega

/-- Month and day are printed in two digits, so equal date texts agree field by
field whatever stands in the place of the year. -/
theorem dateText_fields {front front' : String} {month month' day day' : Nat}
    (monthBound : month < 100) (monthBound' : month' < 100) (dayBound : day < 100)
    (dayBound' : day' < 100)
    (same : front ++ "-" ++ padStart 2 month ++ "-" ++ padStart 2 day =
      front' ++ "-" ++ padStart 2 month' ++ "-" ++ padStart 2 day') :
    front = front' ∧ month = month' ∧ day = day' := by
  have lists := congrArg String.toList same
  simp only [String.toList_append] at lists
  obtain ⟨upToDay, days⟩ := List.append_inj' lists
    (by rw [length_padStart (by decide) dayBound, length_padStart (by decide) dayBound'])
  obtain ⟨upToMonth, -⟩ := List.append_inj' upToDay rfl
  obtain ⟨upToDash, months⟩ := List.append_inj' upToMonth
    (by rw [length_padStart (by decide) monthBound, length_padStart (by decide) monthBound'])
  obtain ⟨fronts, -⟩ := List.append_inj' upToDash rfl
  exact ⟨String.toList_inj.mp fronts, padStart_inj (String.toList_inj.mp months),
    padStart_inj (String.toList_inj.mp days)⟩

theorem CalendarDate.text_injective {left right : CalendarDate}
    (same : left.text = right.text) : left = right := by
  obtain ⟨years, months, days⟩ := dateText_fields left.month.isLt right.month.isLt
    left.day.isLt right.day.isLt same
  have yearEq := Fin.ext (padStart_inj years)
  have monthEq := Fin.ext months
  have dayEq := Fin.ext days
  cases left
  cases right
  simp_all

theorem daysInMonth_le (year month : Nat) : daysInMonth year month ≤ 31 := by
  unfold daysInMonth
  split <;> try split
  all_goals omega

variable {parts : ZonedParts} {date : CalendarDate}

theorem fields_of_localDateKey (same : date.text = localDateKey parts) :
    parts.year = date.year ∧ parts.month = date.month ∧ parts.day = date.day ∧
      1000 ≤ parts.year := by
  have monthRange := parts.month_range
  have dayRange := parts.day_range
  have dayBound := daysInMonth_le parts.year parts.month
  obtain ⟨years, months, days⟩ := dateText_fields date.month.isLt (by omega) date.day.isLt
    (by omega) same
  have digits : (padStart 4 date.year).toList = Nat.toDigits 10 parts.year := by
    rw [years, Nat.toString_eq_repr, Nat.toList_repr]
  have yearEq : (date.year : Nat) = parts.year := by
    rw [← ofDigitChars_padStart 4 date.year, digits, Nat.ofDigitChars_ten_toDigits]
  have fourDigits : (Nat.toDigits 10 parts.year).length = 4 := by
    rw [← digits, length_padStart (by decide) date.year.isLt]
  have atLeast : ¬ parts.year < 10 ^ 3 := by
    rw [← Nat.length_toDigits_le_iff (by decide) (by decide)]
    omega
  exact ⟨yearEq.symm, months.symm, days.symm, by omega⟩

/-- On the date it names, the calendar's weekday is the displayed one. The
two-digit years which `Date.UTC` moves into the twentieth century are never
displayed with four digits. -/
theorem isoWeekday_of_localDateKey (same : date.text = localDateKey parts) :
    isoWeekday date = parts.weekday := by
  obtain ⟨years, months, days, fourDigits⟩ := fields_of_localDateKey same
  have full : fullYear (date.year : Nat) = (parts.year : Int) := by
    rw [← years, fullYear, if_neg (by omega)]
  rw [isoWeekday, full, ← months, ← days, parts.weekday_eq]

example : (⟨2026, 1, 5⟩ : CalendarDate).text = "2026-01-05" ∧ isoWeekday ⟨2026, 1, 5⟩ = 1 := by
  decide

end DContact.Governance
