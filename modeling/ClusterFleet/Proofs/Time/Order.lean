import Mathlib.Order.Defs.PartialOrder
import ClusterFleet.Time.Instant

/-!
# Time — a microsecond later is later

The instant one microsecond after another comes after it in the order of
time (`lt_addMicrosecond`), also out of a leap second and across the end of
a day, a month or a year. The order compares dates first and then times of
day, so each of the two is numbered by itself.
-/

namespace ClusterFleet

/-- The number of a date among dates. -/
def Date.rank (d : Date) : Int := (d.year * 16 + d.month) * 32 + d.day

/-- The number of a time of day among times of day. -/
def DayTime.rank (t : DayTime) : Int := (t.second : Int) * 2000000000 + t.nanos

theorem daysInMonth_le (year : Int) (month : Nat) : daysInMonth year month ≤ 31 := by
  unfold daysInMonth
  repeat' split
  all_goals decide

/-- The next day has a greater number. -/
theorem Date.rank_lt_next {d : Date} (h : d.IsValid) : d.rank < d.next.rank := by
  obtain ⟨-, -, -, hmonth, -, hday⟩ := h
  have hlast := daysInMonth_le d.year d.month
  unfold next
  split
  · simp only [rank]
    omega
  · split
    · simp only [rank]
      omega
    · simp only [rank]
      omega

namespace DayTime

variable {t u : DayTime}

theorem IsValid.rank_lt (h : t.IsValid) : t.rank < 172800000000000 := by
  obtain ⟨hsecond, hnanos, -⟩ := h
  simp only [secondsPerDay, nanosPerSecond] at hsecond hnanos
  simp only [rank]
  omega

theorem rank_nonneg (t : DayTime) : 0 ≤ t.rank := by
  simp only [rank]
  omega

/-- A later time of the same day has a greater number. -/
theorem rank_lt_laterTime (h : t.IsValid) (hlater : Instant.laterTime t = (u, false)) :
    t.rank < u.rank := by
  obtain ⟨-, hnanos, -⟩ := h
  simp only [nanosPerSecond] at hnanos
  -- a carry is to the next second of the same day, since the day is not over
  have hcarry {nanos : Nat} (hcarry : Instant.laterTime.carry t.second nanos = (u, false)) :
      u.second = t.second + 1 := by
    unfold Instant.laterTime.carry at hcarry
    split at hcarry
    · cases hcarry
      rfl
    · cases hcarry
  rw [Instant.laterTime] at hlater
  simp only [rank]
  split at hlater
  · split at hlater
    · cases hlater
      simp only [Instant.microsecond]
      omega
    · have := hcarry hlater
      omega
  · split at hlater
    · cases hlater
      simp only [Instant.microsecond]
      omega
    · have := hcarry hlater
      omega

end DayTime

namespace Instant

/-- Instants are ordered by their dates, and on one day by their times. -/
theorem rank_eq (t : Instant) : t.rank = t.date.rank * 172800000000000 + t.time.rank := by
  simp only [rank, Date.rank, DayTime.rank, secondsPerDay, nanosPerSecond]
  omega

instance : Preorder Instant where
  le_refl t := Int.le_refl t.rank
  le_trans _ _ _ := Int.le_trans
  lt_iff_le_not_ge _ _ := Int.lt_iff_le_and_not_ge

theorem of?_eq_some {date : Date} {time : DayTime} {t : Instant} (h : of? date time = some t) :
    t.date = date ∧ t.time = time := by
  unfold of? at h
  split at h
  · cases h
    exact ⟨rfl, rfl⟩
  · cases h

/-- **A microsecond later is later**, if the calendar has it. -/
theorem lt_addMicrosecond {t t' : Instant} (h : t.addMicrosecond = some t') : t < t' := by
  change t.rank < t'.rank
  rw [rank_eq, rank_eq]
  unfold addMicrosecond at h
  split at h
  · rename_i time hlater
    obtain ⟨hdate, htime⟩ := of?_eq_some h
    have := DayTime.rank_lt_laterTime t.time_valid hlater
    rw [hdate, htime]
    omega
  · -- the next day, however early
    rename_i time hlater
    obtain ⟨hdate, htime⟩ := of?_eq_some h
    have hday := Date.rank_lt_next t.date_valid
    have hbefore := DayTime.IsValid.rank_lt t.time_valid
    have hafter := DayTime.rank_nonneg t'.time
    rw [hdate]
    omega

end Instant

end ClusterFleet
