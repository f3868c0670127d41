/-!
# Time — instants

A moment in universal time, by its calendar date, the second of the day and the nanoseconds into
that second. A leap second is kept: it is written as the nanoseconds from one to two thousand
million after a second 59. Instants are ordered field by field, which the number `rank` states,
and the calendar covers the years from -262143 to 262142.
-/

namespace ClusterFleet

/-- The first year of the calendar. -/
def firstYear : Int := -262143

/-- The last year of the calendar. -/
def lastYear : Int := 262142

/-- Whether a year of the proleptic calendar has 366 days. -/
def isLeapYear (year : Int) : Bool :=
  year % 4 = 0 && (year % 100 ≠ 0 || year % 400 = 0)

/-- The number of days of a month. -/
def daysInMonth (year : Int) (month : Nat) : Nat :=
  if month = 2 then (if isLeapYear year then 29 else 28)
  else if month = 4 || month = 6 || month = 9 || month = 11 then 30
  else 31

/-- The nanoseconds of one second. -/
def nanosPerSecond : Nat := 1000000000

/-- The seconds of one day. -/
def secondsPerDay : Nat := 86400

/-- A calendar date: year, month and day of the month. -/
structure Date where
  /-- The year, negative before year zero. -/
  year : Int
  /-- The month, from 1 to 12. -/
  month : Nat
  /-- The day of the month, from 1. -/
  day : Nat
  deriving DecidableEq, Repr

namespace Date

/-- Whether the calendar has this date. -/
def IsValid (d : Date) : Prop :=
  firstYear ≤ d.year ∧ d.year ≤ lastYear ∧ 1 ≤ d.month ∧ d.month ≤ 12 ∧
    1 ≤ d.day ∧ d.day ≤ daysInMonth d.year d.month

instance (d : Date) : Decidable d.IsValid := by
  unfold IsValid
  infer_instance

/-- The day after a date; it may lie beyond the calendar. -/
def next (d : Date) : Date :=
  if d.day < daysInMonth d.year d.month then ⟨d.year, d.month, d.day + 1⟩
  else if d.month < 12 then ⟨d.year, d.month + 1, 1⟩
  else ⟨d.year + 1, 1, 1⟩

/-- The day before a date; it may lie beyond the calendar. -/
def previous (d : Date) : Date :=
  if 1 < d.day then ⟨d.year, d.month, d.day - 1⟩
  else if 1 < d.month then ⟨d.year, d.month - 1, daysInMonth d.year (d.month - 1)⟩
  else ⟨d.year - 1, 12, 31⟩

end Date

/-- A second of a day and the nanoseconds into it. -/
structure DayTime where
  /-- The second of the day, below 86400. -/
  second : Nat
  /-- The nanoseconds into the second; from 1000000000 on within the leap second after it. -/
  nanos : Nat
  deriving DecidableEq, Repr

namespace DayTime

/-- Whether a time of day exists: only a second 59 may run into a leap second. -/
def IsValid (t : DayTime) : Prop :=
  t.second < secondsPerDay ∧ t.nanos < 2 * nanosPerSecond ∧
    (nanosPerSecond ≤ t.nanos → t.second % 60 = 59)

instance (t : DayTime) : Decidable t.IsValid := by
  unfold IsValid
  infer_instance

end DayTime

/-- A moment in universal time. -/
structure Instant where
  /-- The date. -/
  date : Date
  /-- The time of day. -/
  time : DayTime
  /-- The calendar has the date. -/
  date_valid : date.IsValid
  /-- The time of day exists. -/
  time_valid : time.IsValid
  deriving DecidableEq

namespace Instant

/-- The instant of a date and a time of day, if both exist. -/
def of? (date : Date) (time : DayTime) : Option Instant :=
  if h : date.IsValid ∧ time.IsValid then some ⟨date, time, h.1, h.2⟩ else none

/-- The position of an instant in the order of time. Each field takes less room than the next
larger one leaves, so the numbers are ordered as the fields are. -/
def rank (t : Instant) : Int :=
  (((t.date.year * 16 + t.date.month) * 32 + t.date.day) * secondsPerDay + t.time.second)
    * (2 * nanosPerSecond : Nat) + t.time.nanos

instance : LT Instant := ⟨fun a b => a.rank < b.rank⟩

instance : LE Instant := ⟨fun a b => a.rank ≤ b.rank⟩

instance (a b : Instant) : Decidable (a < b) :=
  inferInstanceAs (Decidable (a.rank < b.rank))

instance (a b : Instant) : Decidable (a ≤ b) :=
  inferInstanceAs (Decidable (a.rank ≤ b.rank))

/-- A time of day without its fraction of a second. A leap second stays one. -/
def wholeTime (t : DayTime) : DayTime :=
  ⟨t.second, if t.nanos < nanosPerSecond then 0 else nanosPerSecond⟩

theorem wholeTime_valid {t : DayTime} (h : t.IsValid) : (wholeTime t).IsValid := by
  obtain ⟨hs, _, hl⟩ := h
  by_cases hlt : t.nanos < nanosPerSecond
  · rw [wholeTime, if_pos hlt]
    exact ⟨hs, show 0 < 2 * nanosPerSecond by decide,
      fun hle => absurd hle (show ¬nanosPerSecond ≤ 0 by decide)⟩
  · rw [wholeTime, if_neg hlt]
    exact ⟨hs, show nanosPerSecond < 2 * nanosPerSecond by decide,
      fun _ => hl (Nat.le_of_not_lt hlt)⟩

/-- The instant without its fraction of a second. -/
def wholeSecond (t : Instant) : Instant :=
  ⟨t.date, wholeTime t.time, t.date_valid, wholeTime_valid t.time_valid⟩

/-- The nanoseconds of one microsecond. -/
def microsecond : Nat := 1000

/-- The time of day one microsecond later, and whether that is on the next day. Within a leap
second the count runs on to its end, and from there into the next second. -/
def laterTime (t : DayTime) : DayTime × Bool :=
  let nanos := t.nanos + microsecond
  if t.nanos < nanosPerSecond then
    if nanos < nanosPerSecond then (⟨t.second, nanos⟩, false)
    else carry t.second (nanos - nanosPerSecond)
  else if nanos < 2 * nanosPerSecond then (⟨t.second, nanos⟩, false)
  else carry t.second (nanos - 2 * nanosPerSecond)
where
  /-- The given nanoseconds into the next second. -/
  carry (second nanos : Nat) : DayTime × Bool :=
    if second + 1 < secondsPerDay then (⟨second + 1, nanos⟩, false) else (⟨0, nanos⟩, true)

/-- The instant one microsecond later, if the calendar reaches it. -/
def addMicrosecond (t : Instant) : Option Instant :=
  match laterTime t.time with
  | (time, false) => of? t.date time
  | (time, true) => of? t.date.next time

end Instant

end ClusterFleet
