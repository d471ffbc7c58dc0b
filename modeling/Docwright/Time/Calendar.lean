/-!
# The calendar

Days of the proleptic Gregorian calendar and ISO weeks.  `daysBefore` counts the days before the
first of January of a year; `ofOrdinal` goes back from a count of days to a date.
-/

namespace Docwright.Calendar

/-- A date. -/
structure Date where
  year : Nat
  month : Nat
  day : Nat
  deriving DecidableEq, Repr

/-- Whether a year has a 29th of February. -/
def isLeap (year : Nat) : Bool :=
  year % 4 == 0 && (year % 100 != 0 || year % 400 == 0)

/-- The days of a month. -/
def daysInMonth (year month : Nat) : Nat :=
  match month with
  | 1 | 3 | 5 | 7 | 8 | 10 | 12 => 31
  | 4 | 6 | 9 | 11 => 30
  | 2 => if isLeap year then 29 else 28
  | _ => 0

/-- The days before the first of January of a year, from that of the year one. -/
def daysBefore (year : Nat) : Nat :=
  let y := year - 1
  y * 365 + y / 4 - y / 100 + y / 400

/-- The days of a year before a month. -/
def daysBeforeMonth (year month : Nat) : Nat :=
  (List.range (month - 1)).foldl (fun days m => days + daysInMonth year (m + 1)) 0

/-- The days from the first day of the year one to a date, that day being the first. -/
def ordinal (d : Date) : Nat :=
  daysBefore d.year + daysBeforeMonth d.year d.month + d.day

/-- The month and day of the n-th day of a year, counted from zero, from the given month on. -/
def monthAndDay (year : Nat) : Nat → Nat → Nat → Nat × Nat
  | 0, month, n => (month, n + 1)
  | months + 1, month, n =>
    if n < daysInMonth year month then (month, n + 1)
    else monthAndDay year months (month + 1) (n - daysInMonth year month)

/-- The date of an ordinal. -/
def ofOrdinal (n : Nat) : Date :=
  let guess := (n - 1) / 366 + 1
  let year := (List.range 32).foldl
    (fun y _ => if daysBefore (y + 1) < n then y + 1 else y) guess
  let (month, day) := monthAndDay year 11 1 (n - daysBefore year - 1)
  ⟨year, month, day⟩

/-- The day of the week of an ordinal, from Monday as zero. -/
def weekday (n : Nat) : Nat :=
  (n + 6) % 7

/-- The ordinal of the Monday of the first ISO week of a year: the week that holds its first
Thursday. -/
def firstMonday (year : Nat) : Int :=
  let first := daysBefore year + 1
  let day := weekday first
  let monday : Int := (first : Int) - day
  if 3 < day then monday + 7 else monday

/-- Whether a year has a 53rd ISO week: one that starts on a Thursday, or on a Wednesday before a
leap day. -/
def hasWeek53 (year : Nat) : Bool :=
  let day := weekday (daysBefore year + 1)
  day == 3 || (day == 2 && isLeap year)

/-- The date of a day of an ISO week. -/
def ofWeek? (year week day : Nat) : Option Date :=
  if year = 0 ∨ 9999 < year ∨ week = 0 ∨ 53 < week ∨ day = 0 ∨ 7 < day then none
  else if week = 53 ∧ !hasWeek53 year then none
  else some (ofOrdinal (firstMonday year + ((week : Int) - 1) * 7 + (day : Int) - 1).toNat)

end Docwright.Calendar
