import Mathlib.Tactic.IntervalCases
import Mathlib.Tactic.SplitIfs
import ValidatorAlarm.Proofs.Calendar.Minute

/-!
# Dates and days

The date of a day is worked out by division: the day within its cycle of 400 years, the year within
the cycle, the day within the year, the month.  What is left over lies within its bounds at each of
these steps, so that the parts add up to the day again, and different days have different dates.

So date, hour and minute say in which minute an instant lies.
-/
namespace ValidatorAlarm

namespace CalendarDate

/-- The year of the cycle in which a day of the cycle lies. -/
def yearOfCycle (day : Nat) : Nat := (day - day / 1460 + day / 36524 - day / 146096) / 365

/-- The day of the cycle with which a year of the cycle begins. -/
def beginOfYear (year : Nat) : Nat := 365 * year + year / 4 - year / 100

theorem yearOfCycle_spec {day : Nat} (h : day < 146097) :
    yearOfCycle day < 400 ∧ beginOfYear (yearOfCycle day) ≤ day ∧
      day < beginOfYear (yearOfCycle day) + 366 := by
  by_cases hlast : day = 146096
  · -- the leap day that ends the cycle
    subst hlast
    decide
  have hyear : yearOfCycle day = (day - day / 1460 + day / 36524) / 365 := by
    rw [yearOfCycle, Nat.div_eq_of_lt (show day < 146096 by omega), Nat.sub_zero]
  have hcenturies : day / 36524 < 4 := by omega
  rw [beginOfYear]
  generalize yearOfCycle day = year at hyear
  generalize hcentury : day / 36524 = century at hyear hcenturies
  -- the year lies in the century of the day, and in its group of four years
  have hyears : year / 100 = century := by
    interval_cases century <;> omega
  obtain ⟨group, rest, hday, hrest⟩ : ∃ group rest, day = 36524 * century + 1461 * group + rest ∧
      rest < 1461 := ⟨day % 36524 / 1461, day % 36524 % 1461, by omega, by omega⟩
  have hgroups : year / 4 = 25 * century + group := by
    interval_cases century <;> omega
  interval_cases century <;> omega

/-- The months are counted from March here. -/
theorem monthOfYear_spec {day : Nat} (h : day < 366) :
    (5 * day + 2) / 153 < 12 ∧ (153 * ((5 * day + 2) / 153) + 2) / 5 ≤ day := by
  omega

/-- The month of the calendar that comes so many months after March. -/
def afterMarch (months : Nat) : Nat := if months < 10 then months + 3 else months - 9

/-- A year that begins in March ends with January and February of the next one. -/
theorem dayNumber_afterMarch (year : Int) {months : Nat} (h : months < 12) (day : Nat) :
    dayNumber ⟨if afterMarch months ≤ 2 then year + 1 else year, afterMarch months, day⟩ =
      year / 400 * 146097 + (year % 400 * 365 + year % 400 / 4 - year % 400 / 100 +
        ((153 * months + 2) / 5 + day - 1)) - 719468 := by
  have hmonth : (if afterMarch months > 2 then afterMarch months - 3 else afterMarch months + 9) =
      months := by
    rw [afterMarch]
    split_ifs <;> omega
  have hyear : (if afterMarch months ≤ 2 then
      (if afterMarch months ≤ 2 then year + 1 else year) - 1
      else if afterMarch months ≤ 2 then year + 1 else year) = year := by
    split_ifs <;> omega
  simp only [dayNumber, hmonth, hyear,
    Int.fdiv_eq_ediv_of_nonneg _ (show (0 : Int) ≤ 400 by decide)]
  rw [show year - year / 400 * 400 = year % 400 by omega]

/-- The date of a day is the date of this day. -/
theorem dayNumber_ofDayNumber (n : Int) : (ofDayNumber n).dayNumber = n := by
  have hcycles : Int.fdiv (n + 719468) 146097 = (n + 719468) / 146097 :=
    Int.fdiv_eq_ediv_of_nonneg _ (by decide)
  simp only [ofDayNumber, hcycles]
  generalize hday : (n + 719468 - (n + 719468) / 146097 * 146097).toNat = day
  obtain ⟨hyear, hbegin, hend⟩ := yearOfCycle_spec (show day < 146097 by omega)
  rw [← yearOfCycle, ← beginOfYear]
  generalize yearOfCycle day = year at hyear hbegin hend
  obtain ⟨hmonth, hfirst⟩ := monthOfYear_spec (show day - beginOfYear year < 366 by omega)
  rw [← afterMarch, dayNumber_afterMarch _ hmonth]
  generalize hcycle : (n + 719468) / 146097 = cycle at hday
  have hdays : (year : Int) * 365 + (year : Int) / 4 - (year : Int) / 100 = beginOfYear year := by
    rw [beginOfYear]
    omega
  rw [show ((year : Int) + cycle * 400) / 400 = cycle by omega,
    show ((year : Int) + cycle * 400) % 400 = year by omega, hdays]
  omega

theorem ofDayNumber_injective {m n : Int} (h : ofDayNumber m = ofDayNumber n) : m = n := by
  rw [← dayNumber_ofDayNumber m, h, dayNumber_ofDayNumber]

end CalendarDate

namespace Instant

/-- The date that the clock shows. -/
def date (i : Instant) : CalendarDate := .ofDayNumber i.day

/-- The clock shows the same date, hour and minute. -/
def SameMinute (i j : Instant) : Prop := i.date = j.date ∧ i.hour = j.hour ∧ i.minute = j.minute

instance (i j : Instant) : Decidable (i.SameMinute j) :=
  inferInstanceAs (Decidable (i.date = j.date ∧ i.hour = j.hour ∧ i.minute = j.minute))

theorem sameMinute_iff (i j : Instant) : i.SameMinute j ↔ i.minuteIndex = j.minuteIndex := by
  rw [SameMinute, hour_eq, hour_eq, minute_eq, minute_eq]
  constructor
  · rintro ⟨hdate, hhour, hminute⟩
    have hday := CalendarDate.ofDayNumber_injective hdate
    rw [day_eq, day_eq] at hday
    omega
  · intro hsame
    rw [date, date, day_eq, day_eq, hsame]
    exact ⟨rfl, rfl, rfl⟩

end Instant

end ValidatorAlarm
