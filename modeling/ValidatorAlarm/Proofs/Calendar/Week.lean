import Mathlib.Data.Int.CardIntervalMod
import ValidatorAlarm.Proofs.Calendar.Minute

/-!
# Target minutes of a week

A target minute comes again after a day, or after a week when it belongs to one day of the week.  A
week is a multiple of both, so that the number of target minutes in it does not depend on where it
begins.  Months and years do not come into it: minutes are counted through.
-/
namespace ValidatorAlarm

namespace Weekday

/-- So many days after Monday. -/
def index : Weekday → Nat
  | .monday => 0
  | .tuesday => 1
  | .wednesday => 2
  | .thursday => 3
  | .friday => 4
  | .saturday => 5
  | .sunday => 6

theorem index_lt (d : Weekday) : d.index < 7 := by cases d <;> decide

theorem ofIndex_eq_iff (n : Nat) (d : Weekday) : ofIndex n = d ↔ n % 7 = d.index := by
  have hday : ∀ k < 7, all.getD k .monday = d ↔ k = d.index := by cases d <;> decide
  exact hday _ (Nat.mod_lt n (by decide))

end Weekday

/-- How often something is due in a week. -/
def TargetDay.timesAWeek : TargetDay → Nat
  | .every => 7
  | .on _ => 1

namespace Target

/-- The minutes after which a target minute comes again. -/
def period (t : Target) : Nat :=
  match t.day with
  | .every => 1440
  | .on _ => 10080

/-- The minutes from the beginning of a period to the target minute in it.  The weeks that are counted
from 1970 begin on a Thursday. -/
def phase (t : Target) : Nat :=
  match t.day with
  | .every => t.hour * 60 + t.minute
  | .on day => (day.index + 4) % 7 * 1440 + t.hour * 60 + t.minute

/-- How many of so many minutes are target minutes. -/
def dueMinutes (t : Target) (first : Int) (n : Nat) : Nat :=
  n.count fun k => t.includes (.ofMinute (first + k)) = true

variable {t : Target}

theorem week_eq (t : Target) : 10080 = t.period * t.day.timesAWeek := by
  cases h : t.day <;> simp [period, TargetDay.timesAWeek, h]

theorem period_pos (t : Target) : 0 < t.period := by
  cases h : t.day <;> simp [period, h]

theorem includes_iff (hhour : t.hour ≤ 23) (hminute : t.minute ≤ 59) (i : Instant) :
    t.includes i = true ↔ i.minuteIndex ≡ t.phase [ZMOD t.period] := by
  simp only [includes, Bool.and_eq_true, decide_eq_true_eq, Instant.weekday_eq, Instant.hour_eq,
    Instant.minute_eq, period, phase, Int.ModEq]
  cases t.day with
  | every =>
    simp only [TargetDay.includes, true_and]
    omega
  | on day =>
    have hindex := day.index_lt
    simp only [TargetDay.includes, decide_eq_true_eq]
    rw [eq_comm, Weekday.ofIndex_eq_iff]
    omega

theorem dueMinutes_succ (first : Int) (n : Nat) :
    t.dueMinutes first (n + 1) =
      t.dueMinutes first n + if t.includes (.ofMinute (first + n)) = true then 1 else 0 :=
  Nat.count_succ _ _

/-- Every week has as many target minutes, wherever it begins. -/
theorem dueMinutes_week (hhour : t.hour ≤ 23) (hminute : t.minute ≤ 59) (first : Int) :
    t.dueMinutes first 10080 = t.day.timesAWeek := by
  have hperiod := t.period_pos
  obtain ⟨v, -, hv⟩ :=
    Int.existsUnique_equiv_nat (t.phase - first) (Int.natCast_pos.mpr hperiod)
  have hdue : ∀ k : Nat, t.includes (.ofMinute (first + k)) = true ↔ k ≡ v [MOD t.period] := by
    intro k
    have hsplit : (t.phase : Int) - (first + k) = (t.phase - first - v) + (v - k) := by ring
    rw [includes_iff hhour hminute, Instant.minuteIndex_ofMinute, ← Int.natCast_modEq_iff,
      Int.modEq_iff_dvd, Int.modEq_iff_dvd, hsplit, dvd_add_right hv.dvd]
  simp only [dueMinutes, hdue]
  rw [Nat.count_modEq_card _ hperiod, t.week_eq, Nat.mul_div_cancel_left _ hperiod,
    Nat.mul_mod_right, if_neg (Nat.not_lt_zero _), Nat.add_zero]

theorem includes_week (hhour : t.hour ≤ 23) (hminute : t.minute ≤ 59) (first : Int) :
    t.includes (.ofMinute (first + 10080)) = t.includes (.ofMinute first) := by
  have hweek : (10080 : Int) = t.period * t.day.timesAWeek := by exact_mod_cast t.week_eq
  rw [Bool.eq_iff_iff, includes_iff hhour hminute, includes_iff hhour hminute,
    Instant.minuteIndex_ofMinute, Instant.minuteIndex_ofMinute, hweek,
    Int.add_modulus_mul_modEq_iff]

end Target

end ValidatorAlarm
