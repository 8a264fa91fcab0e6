import ValidatorAlarm.Site

/-!
# Minutes of the clock

Whether something is due depends on the minute that the clock shows and on nothing smaller.  So the
minutes are counted here from the beginning of 1970.  Two minutes in which the same thing is due are
at least a day apart, and a clock that runs for some minutes does not get further than that.
-/
namespace ValidatorAlarm

namespace Instant

/-- The minute, counted from the beginning of 1970. -/
def minuteIndex (i : Instant) : Int := Int.fdiv i.seconds 60

/-- The beginning of a minute. -/
def ofMinute (index : Int) : Instant := ⟨60 * index, 0⟩

/-- All nanoseconds since the beginning of 1970. -/
def sinceEpoch (i : Instant) : Int := i.seconds * nanosPerSecond + i.nanoseconds

variable (i : Instant)

theorem minuteIndex_eq : i.minuteIndex = i.seconds / 60 :=
  Int.fdiv_eq_ediv_of_nonneg _ (by decide)

theorem minuteIndex_ofMinute (index : Int) : (ofMinute index).minuteIndex = index := by
  have hseconds : (ofMinute index).seconds = 60 * index := rfl
  rw [minuteIndex_eq]
  omega

theorem day_eq : i.day = i.minuteIndex / 1440 := by
  rw [minuteIndex_eq, day, dayLength, Int.fdiv_eq_ediv_of_nonneg _ (by decide)]
  omega

theorem secondOfDay_eq : i.secondOfDay / 60 = (i.minuteIndex % 1440).toNat := by
  rw [minuteIndex_eq, secondOfDay, dayLength, Int.fmod_eq_emod_of_nonneg _ (by decide)]
  omega

theorem hour_eq : i.hour = (i.minuteIndex % 1440).toNat / 60 := by
  rw [← secondOfDay_eq, hour]
  omega

theorem minute_eq : i.minute = (i.minuteIndex % 1440).toNat % 60 := by
  rw [← secondOfDay_eq, minute]

theorem weekday_eq : i.weekday = .ofIndex ((i.minuteIndex / 1440 + 3) % 7).toNat := by
  rw [weekday, day_eq, Int.fmod_eq_emod_of_nonneg _ (by decide)]

/-! ### Counting on -/

variable {i} {j : Instant}

theorem minuteIndex_eq_sinceEpoch (hi : i.nanoseconds < nanosPerSecond) :
    i.minuteIndex = i.sinceEpoch / (60 * nanosPerSecond) := by
  have hnanos : nanosPerSecond = 1000000000 := rfl
  rw [minuteIndex_eq, sinceEpoch, hnanos]
  rw [hnanos] at hi
  omega

theorem minuteIndex_mono (hi : i.nanoseconds < nanosPerSecond) (hj : j.nanoseconds < nanosPerSecond)
    (h : i.sinceEpoch ≤ j.sinceEpoch) : i.minuteIndex ≤ j.minuteIndex := by
  have hnanos : nanosPerSecond = 1000000000 := rfl
  rw [minuteIndex_eq_sinceEpoch hi, minuteIndex_eq_sinceEpoch hj, hnanos]
  omega

/-- In the time of some minutes the clock gets on by as many minutes. -/
theorem minuteIndex_le_add (hi : i.nanoseconds < nanosPerSecond)
    (hj : j.nanoseconds < nanosPerSecond) (count : Nat)
    (h : j.sinceEpoch ≤ i.sinceEpoch + count * 60 * nanosPerSecond) :
    j.minuteIndex ≤ i.minuteIndex + count := by
  have hnanos : nanosPerSecond = 1000000000 := rfl
  rw [hnanos] at h
  rw [minuteIndex_eq_sinceEpoch hi, minuteIndex_eq_sinceEpoch hj, hnanos]
  omega

/-- Outside of a leap second the seconds are counted on. -/
theorem later_eq (hi : i.nanoseconds < nanosPerSecond) (nanoseconds : Nat) :
    i.later nanoseconds = ⟨i.seconds + ((i.nanoseconds + nanoseconds) / nanosPerSecond : Nat),
      (i.nanoseconds + nanoseconds) % nanosPerSecond⟩ := by
  rw [later, if_neg (by simp only [Bool.and_eq_true, decide_eq_true_eq]; omega),
    Nat.mod_eq_of_lt hi]

theorem later_zero (hi : i.nanoseconds < nanosPerSecond) : i.later 0 = i := by
  rw [later_eq hi, Nat.add_zero, Nat.mod_eq_of_lt hi, Nat.div_eq_of_lt hi, Int.natCast_zero,
    Int.add_zero]

theorem later_nanoseconds (hi : i.nanoseconds < nanosPerSecond) (nanoseconds : Nat) :
    (i.later nanoseconds).nanoseconds < nanosPerSecond := by
  rw [later_eq hi]
  exact Nat.mod_lt _ (by decide)

theorem sinceEpoch_later (hi : i.nanoseconds < nanosPerSecond) (nanoseconds : Nat) :
    (i.later nanoseconds).sinceEpoch = i.sinceEpoch + nanoseconds := by
  have hnanos : nanosPerSecond = 1000000000 := rfl
  simp only [later_eq hi, sinceEpoch, hnanos]
  omega

theorem minuteIndex_later (hi : i.nanoseconds < nanosPerSecond) (nanoseconds : Nat) :
    (i.later nanoseconds).minuteIndex = (i.sinceEpoch + nanoseconds) / (60 * nanosPerSecond) := by
  rw [minuteIndex_eq_sinceEpoch (later_nanoseconds hi nanoseconds), sinceEpoch_later hi]

theorem minuteIndex_later_mono (hi : i.nanoseconds < nanosPerSecond) {m n : Nat} (h : m ≤ n) :
    (i.later m).minuteIndex ≤ (i.later n).minuteIndex := by
  refine minuteIndex_mono (later_nanoseconds hi m) (later_nanoseconds hi n) ?_
  rw [sinceEpoch_later hi, sinceEpoch_later hi]
  omega

theorem minuteIndex_later_le (hi : i.nanoseconds < nanosPerSecond) (count : Nat) {m n : Nat}
    (h : n ≤ m + count * 60 * nanosPerSecond) :
    (i.later n).minuteIndex ≤ (i.later m).minuteIndex + count := by
  have hnanos : nanosPerSecond = 1000000000 := rfl
  refine minuteIndex_le_add (later_nanoseconds hi m) (later_nanoseconds hi n) count ?_
  rw [hnanos] at h
  rw [sinceEpoch_later hi, sinceEpoch_later hi, hnanos]
  omega

end Instant

namespace Target

variable (t : Target) {i j : Instant}

/-- All instants of a minute are alike. -/
theorem includes_congr (h : i.minuteIndex = j.minuteIndex) : t.includes i = t.includes j := by
  simp only [includes, Instant.weekday_eq, Instant.hour_eq, Instant.minute_eq, h]

theorem includes_ofMinute (i : Instant) : t.includes (.ofMinute i.minuteIndex) = t.includes i :=
  t.includes_congr (Instant.minuteIndex_ofMinute _)

theorem includes_time (h : t.includes i = true) : i.minuteIndex % 1440 = t.hour * 60 + t.minute := by
  simp only [includes, Bool.and_eq_true, decide_eq_true_eq] at h
  obtain ⟨⟨-, hhour⟩, hminute⟩ := h
  rw [Instant.hour_eq] at hhour
  rw [Instant.minute_eq] at hminute
  omega

/-- Two minutes in which the same thing is due are at least a day apart. -/
theorem includes_apart (hi : t.includes i = true) (hj : t.includes j = true)
    (h : i.minuteIndex < j.minuteIndex) : i.minuteIndex + 1440 ≤ j.minuteIndex := by
  have hi := t.includes_time hi
  have hj := t.includes_time hj
  omega

end Target

/-- A look arms the trigger outside of a target minute and disarms it within one. -/
theorem look_eq (target : Target) (now : Instant) (t : Trigger) :
    t.look target now = (⟨!target.includes now⟩, target.includes now && t.armed) := by
  rw [Trigger.look]
  cases target.includes now <;> rfl

namespace Site

/-- The minute that the clock shows, so many milliseconds after the start. -/
def minuteAt (s : Site) (now : Nat) : Int := (s.clock now).minuteIndex

variable {s : Site} {now later : Nat}

theorem minuteAt_mono (h : s.start.nanoseconds < 1000000000) (hlater : now ≤ later) :
    s.minuteAt now ≤ s.minuteAt later :=
  Instant.minuteIndex_later_mono h (Nat.mul_le_mul_right 1000000 hlater)

theorem minuteAt_le (h : s.start.nanoseconds < 1000000000) (count : Nat)
    (hlater : later ≤ now + count * 60000) : s.minuteAt later ≤ s.minuteAt now + count := by
  refine Instant.minuteIndex_later_le h count ?_
  have hnanos : Instant.nanosPerSecond = 1000000000 := rfl
  rw [hnanos]
  omega

end Site

end ValidatorAlarm
