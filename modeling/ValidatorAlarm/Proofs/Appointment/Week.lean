import ValidatorAlarm.Proofs.Appointment.Looks
import ValidatorAlarm.Proofs.Calendar.Week

/-!
# A week of looks

Someone looks at the clock at a steady pace for a week.  As long as the pace is not slower than a look
a minute, every minute of the week is looked at, so the looks that fire are as many as the target
minutes of a week are.

A week of looks that begins within a minute may end within the same minute of the next week, and so
look at one minute more than a week has.
-/
namespace ValidatorAlarm

namespace Instant

/-- The nanoseconds of a week. -/
def weekLength : Nat := 7 * 86400 * nanosPerSecond

/-- The instants at which someone looks who begins at `start` and looks every `step` nanoseconds, until
a week is over. -/
def sweep (start : Instant) (step : Nat) : List Instant :=
  (List.range ((weekLength + step - 1) / step)).map fun n => start.later (n * step)

variable {start : Instant} {step : Nat}

theorem lt_looks_iff (hstep : 0 < step) (n : Nat) :
    n < (weekLength + step - 1) / step ↔ n * step < weekLength := by
  rw [Nat.lt_iff_add_one_le, Nat.le_div_iff_mul_le hstep, Nat.add_mul]
  omega

/-- The sweep has a last look, and a step after it the week is over. -/
theorem exists_last_look (start : Instant) (hstep : 0 < step) :
    ∃ last, start.sweep step = (List.range (last + 1)).map (fun n => start.later (n * step)) ∧
      last * step < weekLength ∧ weekLength ≤ last * step + step := by
  have hlooks := lt_looks_iff hstep
  obtain ⟨last, hlast⟩ : ∃ last, (weekLength + step - 1) / step = last + 1 := by
    refine Nat.exists_eq_add_one.mpr ((hlooks 0).mpr ?_)
    rw [Nat.zero_mul]
    decide
  rw [hlast] at hlooks
  refine ⟨last, by rw [sweep, hlast], (hlooks last).mp (Nat.lt_succ_self last), ?_⟩
  rw [← Nat.add_one_mul, ← Nat.not_lt, ← hlooks]
  exact Nat.lt_irrefl _

/-- The looks of the sweep are those within a week of the start. -/
theorem getElem?_sweep (hstep : 0 < step) (n : Nat) :
    (sweep start step)[n]? =
      if n * step < weekLength then some (start.later (n * step)) else none := by
  rw [sweep, List.getElem?_map]
  split
  · next h => rw [List.getElem?_range ((lt_looks_iff hstep n).mpr h), Option.map_some]
  · next h =>
    rw [List.getElem?_eq_none (by simpa [← lt_looks_iff hstep] using h), Option.map_none]

/-- The last look of a week is in its last minute, or else in the minute after it, which is the one that
the week begins within. -/
theorem last_minute (hstart : start.nanoseconds < nanosPerSecond) {elapsed : Nat}
    (hwithin : elapsed < weekLength) (hlast : weekLength ≤ elapsed + 60 * nanosPerSecond) :
    (start.later elapsed).minuteIndex = start.minuteIndex + 10079 ∨
      ((start.later elapsed).minuteIndex = start.minuteIndex + 10080 ∧
        start ≠ .ofMinute start.minuteIndex) := by
  have hnanos : nanosPerSecond = 1000000000 := rfl
  rw [weekLength, hnanos] at hwithin hlast
  have hminute := minuteIndex_later hstart elapsed
  have hfirst := minuteIndex_eq_sinceEpoch hstart
  rw [hnanos] at hminute hfirst
  refine or_iff_not_imp_left.mpr fun hinside => ⟨by omega, fun hbegins => ?_⟩
  have hepoch : start.sinceEpoch = 60 * start.minuteIndex * 1000000000 := by
    rw [hbegins, minuteIndex_ofMinute]
    exact Int.add_zero _
  omega

end Instant

namespace Appointment

/-- How often the work is done in a run of looks. -/
def fired (a : Appointment) (ticks : List Instant) (site : Site) : Nat :=
  (a.attendAll ticks site).2.countP fun look => look.2.1

variable {a : Appointment} {site : Site} {tick : Nat → Instant}

theorem fired_concat (earlier : List Instant) (now : Instant) :
    a.fired (earlier ++ [now]) site = a.fired earlier site +
      if (a.attendAt now (a.attendAll earlier site).1).2.1 = true then 1 else 0 := by
  rw [fired, fired, attendAll_concat, List.countP_append, List.countP_singleton]

theorem fired_first (hsite : site.trigger = .fresh) (now : Instant) :
    a.fired [now] site = if a.target.includes now = true then 1 else 0 := by
  have hdue : (a.attendAt now site).2.1 = a.target.includes now := by
    rw [attendAt_due, hsite]
    exact Bool.and_true _
  rw [← hdue]
  exact (fired_concat [] now).trans (Nat.zero_add _)

/-- A look that is not the first one fires in a target minute if the last look was outside of one. -/
theorem due_after (hwork : LeavesTrigger a.work) (hsite : site.trigger = .fresh)
    (hnanos : ∀ n, (tick n).nanoseconds < Instant.nanosPerSecond) (n : Nat) (now : Instant) :
    (a.attendAt now (a.attendAll ((List.range (n + 1)).map tick) site).1).2.1 =
      (a.target.includes now && !a.target.includes (tick n)) := by
  have hearlier : ∀ i ∈ (List.range (n + 1)).map tick, i.nanoseconds < Instant.nanosPerSecond := by
    simpa using fun m _ => hnanos m
  rw [attendAt_due, Bool.eq_iff_iff, Bool.and_eq_true, a.attendAll_trigger hwork hsite hearlier]
  simp [List.range_succ]

/-- Looks that follow one another from minute to minute fire as often as there are target minutes. -/
theorem fired_eq_dueMinutes (tick : Nat → Instant) (hwork : LeavesTrigger a.work)
    (hsite : site.trigger = .fresh) (hnanos : ∀ n, (tick n).nanoseconds < Instant.nanosPerSecond)
    (hforward : ∀ n, (tick n).minuteIndex ≤ (tick (n + 1)).minuteIndex)
    (hsoon : ∀ n, (tick (n + 1)).minuteIndex ≤ (tick n).minuteIndex + 1) (n : Nat) :
    ∀ k : Nat, (tick n).minuteIndex = (tick 0).minuteIndex + k →
      a.fired ((List.range (n + 1)).map tick) site =
        a.target.dueMinutes (tick 0).minuteIndex (k + 1) := by
  have hmono : Monotone fun n => (tick n).minuteIndex := monotone_nat_of_le_succ hforward
  have hdue : ∀ n k : Nat, (tick n).minuteIndex = (tick 0).minuteIndex + k →
      a.target.includes (.ofMinute ((tick 0).minuteIndex + k)) = a.target.includes (tick n) := by
    intro n k hk
    rw [← hk, Target.includes_ofMinute]
  induction n with
  | zero =>
    intro k hk
    obtain rfl : k = 0 := by omega
    rw [Target.dueMinutes_succ, hdue 0 0 hk]
    exact (fired_first hsite _).trans (Nat.zero_add _).symm
  | succ n ih =>
    intro k hk
    rw [List.range_succ, List.map_append, List.map_singleton, fired_concat,
      due_after hwork hsite hnanos]
    rcases (hforward n).eq_or_lt with hsame | hnext
    · -- another look within the minute
      rw [ih k (by omega), a.target.includes_congr hsame]
      simp
    · -- the first look in the next minute
      have hnextMinute := hsoon n
      have hfirst : (tick 0).minuteIndex ≤ (tick n).minuteIndex := hmono (Nat.zero_le n)
      obtain ⟨m, rfl⟩ : ∃ m, k = m + 1 := ⟨k - 1, by omega⟩
      rw [ih m (by omega), Target.dueMinutes_succ _ (m + 1), hdue (n + 1) (m + 1) hk]
      cases hnow : a.target.includes (tick (n + 1)) with
      | false => simp
      | true =>
        have hbefore : a.target.includes (tick n) = false := by
          rw [← Bool.not_eq_true]
          intro hbefore
          have hapart := a.target.includes_apart hbefore hnow hnext
          omega
        simp [hbefore]

/-- What is looked at beyond the minutes of a week is not due, because the week begins within it. -/
theorem fired_sweep {start : Instant} {step : Nat} (hwork : LeavesTrigger a.work)
    (hsite : site.trigger = .fresh) (hhour : a.target.hour ≤ 23) (hminute : a.target.minute ≤ 59)
    (hstart : start.nanoseconds < Instant.nanosPerSecond) (hstep : 0 < step)
    (hminutely : step ≤ 60 * Instant.nanosPerSecond)
    (hcut : a.target.includes start = true → start = .ofMinute start.minuteIndex) :
    a.fired (start.sweep step) site = a.target.day.timesAWeek := by
  obtain ⟨last, hsweep, hwithin, hover⟩ := start.exists_last_look hstep
  have hzero : start.later (0 * step) = start := by rw [Nat.zero_mul, Instant.later_zero hstart]
  have hfired : ∀ k : Nat, (start.later (last * step)).minuteIndex = start.minuteIndex + k →
      a.fired (start.sweep step) site = a.target.dueMinutes start.minuteIndex (k + 1) := by
    have hrun := fired_eq_dueMinutes (fun n => start.later (n * step)) hwork hsite
      (fun n => Instant.later_nanoseconds hstart _)
      (fun n => Instant.minuteIndex_later_mono hstart (by rw [Nat.add_mul]; omega))
      (fun n => Instant.minuteIndex_later_le hstart 1 (by rw [Nat.add_mul]; omega)) last
    simpa only [hzero, ← hsweep] using hrun
  obtain hlast | ⟨hlast, hinside⟩ := Instant.last_minute hstart hwithin (by omega)
  · rw [hfired 10079 hlast]
    exact Target.dueMinutes_week hhour hminute _
  · have hundue : a.target.includes (.ofMinute (start.minuteIndex + 10080)) = false := by
      rw [Target.includes_week hhour hminute, Target.includes_ofMinute, ← Bool.not_eq_true]
      exact fun hdue => hinside (hcut hdue)
    rw [hfired 10080 hlast, Target.dueMinutes_succ, Target.dueMinutes_week hhour hminute]
    simp [hundue]

/-- **A week has as many looks that do the work as it has target minutes**: seven if the work is due
every day, and one if it is due on one day of the week.  Let an appointment with any work look at the
clock again and again for a week, at a steady pace of a look a minute or faster.  It may begin at any
instant that is not within a target minute, unless it is the beginning of one.  Each look that is counted
does the work, and no other one does. -/
theorem fires_each_week (work : Token → Work (Except Fault Unit)) (hwork : LeavesTrigger work)
    (day : TargetDay) {hour minute : Nat} (hhour : hour ≤ 23) (hminute : minute ≤ 59) :
    let a : Appointment := ⟨⟨day, hour, minute⟩, work⟩
    Appointment.make (some work) day hour minute = .ok a ∧
      ∀ (site : Site) (start : Instant) (step : Nat),
        site.trigger = .fresh → start.nanoseconds < 1000000000 →
        0 < step → step ≤ 60 * 1000000000 →
        (a.target.includes start = true → start = .ofMinute start.minuteIndex) →
        let ticks := start.sweep step
        (∀ n, ticks[n]? = if n * step < 7 * 86400 * 1000000000
          then some (start.later (n * step)) else none) ∧
        ((a.attendAll ticks site).2.countP fun look => look.2.1) = day.timesAWeek ∧
        ∀ earlier now later, ticks = earlier ++ now :: later →
          a.ActsAt now (a.attendAll earlier site).1 := by
  refine ⟨make_of_le work day hhour hminute, ?_⟩
  intro site start step hsite hstart hstep hminutely hcut ticks
  refine ⟨Instant.getElem?_sweep hstep, ?_, ?_⟩
  · exact fired_sweep hwork hsite hhour hminute hstart hstep hminutely hcut
  · intro earlier now later hticks
    have hnow : now ∈ ticks := by simp [hticks]
    obtain ⟨n, -, rfl⟩ := List.mem_map.mp hnow
    exact actsAt _ (Instant.later_nanoseconds hstart _) _

/-- A week of looks that begins with a target minute does not reach the next one, here a week later.
The step does not divide a minute, and the week has the leap day of its year in it. -/
theorem fires_once_over_leap_day :
    let a : Appointment := ⟨⟨.on .monday, 16, 23⟩, failing⟩
    let start : Instant := .ofDate ⟨2024, 2, 26⟩ 16 23 0 0
    LeavesTrigger failing ∧ a.target.includes start = true ∧ start = .ofMinute start.minuteIndex ∧
      ((a.attendAll (start.sweep 7000000000) .initial).2.countP fun look => look.2.1) = 1 := by
  intro a start
  have hbegins : start = .ofMinute start.minuteIndex := by decide
  obtain ⟨-, hweek⟩ := fires_each_week failing failing_leavesTrigger (.on .monday)
    (by decide : 16 ≤ 23) (by decide : 23 ≤ 59)
  obtain ⟨-, hcount, -⟩ := hweek .initial start 7000000000 rfl (by decide) (by decide) (by decide)
    fun _ => hbegins
  exact ⟨failing_leavesTrigger, by decide, hbegins, hcount⟩

end Appointment

end ValidatorAlarm
