import Mathlib.Data.List.Chain
import ValidatorAlarm.Appointment
import ValidatorAlarm.Proofs.Calendar.Date
import ValidatorAlarm.Proofs.Timeline.Solitude

/-!
# Looks at the clock

An appointment looks at the clock again and again, and all that it remembers is whether its trigger is
armed: it is, unless the last look was within a target minute.

That is enough to do the work exactly once in each target minute that is looked at, at the first look
in it, as long as two looks are never a day apart.  Between looks in two target minutes there must be
one outside of them, because target minutes are a day apart at least.
-/
namespace ValidatorAlarm

namespace Instant

/-- The second instant is not before the first one, and at most a day less a minute after it. -/
def LeadsTo (i j : Instant) : Prop :=
  i.sinceEpoch ≤ j.sinceEpoch ∧ j.sinceEpoch ≤ i.sinceEpoch + 86340 * nanosPerSecond

instance (i j : Instant) : Decidable (i.LeadsTo j) :=
  inferInstanceAs (Decidable
    (i.sinceEpoch ≤ j.sinceEpoch ∧ j.sinceEpoch ≤ i.sinceEpoch + 86340 * nanosPerSecond))

variable {i j : Instant}

theorem LeadsTo.minuteIndex_le (hi : i.nanoseconds < nanosPerSecond)
    (hj : j.nanoseconds < nanosPerSecond) (h : i.LeadsTo j) :
    j.minuteIndex ≤ i.minuteIndex + 1439 :=
  minuteIndex_le_add hi hj 1439 h.2

end Instant

namespace Appointment

/-- The work leaves the trigger alone, which it does not know of. -/
def LeavesTrigger (work : Token → Work (Except Fault Unit)) : Prop :=
  ∀ site, ((Agenda.start site).perform (work 0)).1.state.trigger = site.trigger

/-- Work that keeps what others share with it leaves the trigger alone. -/
theorem leavesTrigger_of_keeps {work : Token → Work (Except Fault Unit)}
    (h : (work 0).Keeps (Frame.fixed Site.trigger)) : LeavesTrigger work := by
  intro site
  obtain ⟨after, result, hperform, -, hallows⟩ := Agenda.perform_keeps h (a := .start site) rfl
  rw [hperform]
  exact hallows

variable (a : Appointment) {now : Instant} {site : Site}

/-! ### One look -/

/-- A look sets the trigger; it does the work, if that is due, and else nothing. -/
theorem perform_attend (token : Token) (g : Agenda Site) :
    g.perform (a.attend token) =
      let due := a.target.includes (g.state.clock g.now) && g.state.trigger.armed
      let looked := { g with state := { g.state with
        trigger := ⟨!a.target.includes (g.state.clock g.now)⟩ } }
      if due then looked.perform (a.work token) else (looked, some (.ok ())) := by
  change Agenda.perform (if (g.state.trigger.look a.target (g.state.clock g.now)).2 = true
    then a.work token else .done (.ok ())) { g with state := { g.state with
      trigger := (g.state.trigger.look a.target (g.state.clock g.now)).1 } } = _
  simp only [look_eq]
  split <;> rfl

/-- What comes of a look: one that fires does the work on a disarmed trigger and returns what the work
returns, and any other one does nothing but set the trigger, and succeeds. -/
structure ActsAt (now : Instant) (site : Site) : Prop where
  fires : (a.attendAt now site).2.1 = true →
    (Agenda.start { site with start := now }).perform (a.attend 0) =
      (Agenda.start { site with start := now, trigger := ⟨false⟩ }).perform (a.work 0)
  rests : (a.attendAt now site).2.1 = false →
    (Agenda.start { site with start := now }).perform (a.attend 0) =
      (Agenda.start { site with start := now, trigger := ⟨!a.target.includes now⟩ }, some (.ok ()))

theorem attendAt_due (now : Instant) (site : Site) :
    (a.attendAt now site).2.1 = (a.target.includes now && site.trigger.armed) := by
  change (site.trigger.look a.target now).2 = _
  rw [look_eq]

theorem perform_attend_start (hnow : now.nanoseconds < Instant.nanosPerSecond) (site : Site) :
    (Agenda.start { site with start := now }).perform (a.attend 0) =
      if (a.attendAt now site).2.1 then
        (Agenda.start { site with start := now, trigger := ⟨false⟩ }).perform (a.work 0)
      else (Agenda.start { site with start := now, trigger := ⟨!a.target.includes now⟩ },
        some (.ok ())) := by
  have hclock : Site.clock { site with start := now } 0 = now := Instant.later_zero hnow
  rw [perform_attend, attendAt_due]
  simp only [Agenda.start, hclock]
  cases a.target.includes now <;> rfl

theorem actsAt (hnow : now.nanoseconds < Instant.nanosPerSecond) (site : Site) :
    a.ActsAt now site := by
  have hperform := a.perform_attend_start hnow site
  constructor
  · intro hfires
    rw [hperform, if_pos hfires]
  · intro hrests
    rw [hperform, if_neg (by simp [hrests])]

/-- After a look the trigger is armed unless the look was within a target minute. -/
theorem attendAt_trigger (hwork : LeavesTrigger a.work)
    (hnow : now.nanoseconds < Instant.nanosPerSecond) (site : Site) :
    (a.attendAt now site).1.trigger = ⟨!a.target.includes now⟩ := by
  change ((Agenda.start { site with start := now }).perform (a.attend 0)).1.state.trigger = _
  rw [a.perform_attend_start hnow site, attendAt_due]
  split
  · rename_i hdue
    rw [Bool.and_eq_true] at hdue
    rw [hwork, hdue.1]
    rfl
  · rfl

/-! ### One look after the other -/

theorem attendAll_append (earlier later : List Instant) (site : Site) :
    a.attendAll (earlier ++ later) site =
      ((a.attendAll later (a.attendAll earlier site).1).1,
        (a.attendAll earlier site).2 ++ (a.attendAll later (a.attendAll earlier site).1).2) := by
  induction earlier generalizing site with
  | nil => rfl
  | cons now earlier ih =>
    rw [List.cons_append, attendAll, attendAll]
    simp only [ih, List.cons_append]

theorem attendAll_concat (earlier : List Instant) (now : Instant) (site : Site) :
    a.attendAll (earlier ++ [now]) site =
      ((a.attendAt now (a.attendAll earlier site).1).1,
        (a.attendAll earlier site).2 ++ [(now, (a.attendAt now (a.attendAll earlier site).1).2)]) :=
  a.attendAll_append earlier [now] site

/-- The trigger is armed at first, and later on unless the last look was within a target minute. -/
theorem attendAll_trigger (hwork : LeavesTrigger a.work) (hsite : site.trigger = .fresh)
    {earlier : List Instant} (hnanos : ∀ i ∈ earlier, i.nanoseconds < Instant.nanosPerSecond) :
    (a.attendAll earlier site).1.trigger.armed = true ↔
      ∀ last ∈ earlier.getLast?, a.target.includes last = false := by
  rcases List.eq_nil_or_concat earlier with rfl | ⟨before, last, rfl⟩
  · simp [attendAll, hsite, Trigger.fresh]
  · rw [List.concat_eq_append] at hnanos ⊢
    rw [attendAll_concat, a.attendAt_trigger hwork (hnanos last (by simp))]
    simp

/-- Among looks that are never a day apart, the last one before a look in a target minute was outside
of any exactly if the minute has not been looked at. -/
theorem last_outside_iff {target : Target} {earlier later : List Instant}
    (hnanos : ∀ i ∈ earlier ++ now :: later, i.nanoseconds < Instant.nanosPerSecond)
    (hchain : (earlier ++ now :: later).IsChain Instant.LeadsTo)
    (hnow : target.includes now = true) :
    (∀ last ∈ earlier.getLast?, target.includes last = false) ↔
      ∀ i ∈ earlier, ¬ i.SameMinute now := by
  rcases List.eq_nil_or_concat earlier with rfl | ⟨before, last, rfl⟩
  · simp
  rw [List.concat_eq_append] at hnanos hchain ⊢
  have hlastNanos := hnanos last (by simp)
  have hnowNanos := hnanos now (by simp)
  have hlead : last.LeadsTo now := by
    rw [List.append_assoc, List.singleton_append, List.isChain_append_cons_cons] at hchain
    exact hchain.2.1
  have horder : ((before ++ [last] ++ now :: later).map Instant.sinceEpoch).Pairwise (· ≤ ·) :=
    List.IsChain.pairwise ((List.isChain_map _).mpr (hchain.imp fun _ _ h => h.1))
  have hforward := Instant.minuteIndex_mono hlastNanos hnowNanos hlead.1
  have hsoon := hlead.minuteIndex_le hlastNanos hnowNanos
  simp only [List.getLast?_append, List.getLast?_singleton, Option.some_or, Option.mem_def,
    Option.some.injEq, forall_eq', Instant.sameMinute_iff]
  constructor
  · -- an earlier look in the minute has the last one in it as well
    intro houtside i hi hsame
    have hle : i.minuteIndex ≤ last.minuteIndex := by
      rcases List.mem_append.mp hi with hbefore | hlast
      · rw [List.pairwise_map, List.append_assoc, List.pairwise_append] at horder
        exact Instant.minuteIndex_mono (hnanos i (by simp [hbefore])) hlastNanos
          (horder.2.2 i hbefore last (by simp))
      · rw [List.mem_singleton.mp hlast]
    have hsameLast : last.minuteIndex = now.minuteIndex := by omega
    rw [target.includes_congr hsameLast, hnow] at houtside
    cases houtside
  · intro hfirst
    rw [← Bool.not_eq_true]
    intro hlast
    have hother := hfirst last (by simp)
    have hapart := target.includes_apart hlast hnow (by omega)
    omega

theorem make_of_le (work : Token → Work (Except Fault Unit)) (day : TargetDay) {hour minute : Nat}
    (hhour : hour ≤ 23) (hminute : minute ≤ 59) :
    Appointment.make (some work) day hour minute = .ok ⟨⟨day, hour, minute⟩, work⟩ := by
  rw [Appointment.make, Target.make, if_neg (Nat.not_lt.mpr hhour),
    if_neg (Nat.not_lt.mpr hminute)]
  rfl

/-- **The work is done at the first look in each target minute**, and at no other one.  Let an
appointment with any work look at the clock again and again, never before the last look and never more
than a day less a minute after it.  A look does the work exactly if it is the first one in its minute
and the minute is a target minute.  Then it returns what the work returns, success or failure; any
other look does nothing and succeeds. -/
theorem works_at_first_look (work : Token → Work (Except Fault Unit)) (hwork : LeavesTrigger work)
    (day : TargetDay) {hour minute : Nat} (hhour : hour ≤ 23) (hminute : minute ≤ 59) :
    let a : Appointment := ⟨⟨day, hour, minute⟩, work⟩
    Appointment.make (some work) day hour minute = .ok a ∧
      ∀ (site : Site) (earlier : List Instant) (now : Instant) (later : List Instant),
        let ticks := earlier ++ now :: later
        site.trigger = .fresh → (∀ i ∈ ticks, i.nanoseconds < 1000000000) →
        ticks.IsChain Instant.LeadsTo →
        let before := (a.attendAll earlier site).1
        let look := a.attendAt now before
        (a.attendAll ticks site).2 =
          (a.attendAll earlier site).2 ++ (now, look.2) :: (a.attendAll later look.1).2 ∧
        (look.2.1 = true ↔ a.target.includes now = true ∧ ∀ i ∈ earlier, ¬ i.SameMinute now) ∧
        a.ActsAt now before := by
  refine ⟨make_of_le work day hhour hminute, ?_⟩
  intro site earlier now later ticks hsite hnanos hchain before look
  refine ⟨?_, ?_, actsAt _ (hnanos now (by simp [ticks])) before⟩
  · rw [attendAll_append]
    rfl
  · rw [attendAt_due, Bool.and_eq_true]
    refine and_congr_right fun hnow => ?_
    rw [attendAll_trigger _ hwork hsite fun i hi => hnanos i (List.mem_append_left _ hi)]
    exact last_outside_iff hnanos hchain hnow

/-- Work that leaves a note and fails. -/
def failing (_ : Token) : Work (Except Fault Unit) := do
  Work.note .cycleEnded
  return .error (.undelivered 1)

theorem failing_leavesTrigger : LeavesTrigger failing :=
  leavesTrigger_of_keeps ⟨fun _ _ => rfl, trivial⟩

/-- Work that fails is not done again in the same minute, but in the target minute of the next day:
the second and the third look are a day less a minute apart. -/
theorem failure_not_repeated :
    let a : Appointment := ⟨⟨.every, 11, 27⟩, failing⟩
    let first : Instant := .ofDate ⟨2024, 4, 12⟩ 11 27 0 0
    let second : Instant := .ofDate ⟨2024, 4, 12⟩ 11 27 30 0
    let third : Instant := .ofDate ⟨2024, 4, 13⟩ 11 26 30 0
    let fourth : Instant := .ofDate ⟨2024, 4, 13⟩ 11 27 15 0
    let ticks := [first, second, third, fourth]
    LeavesTrigger failing ∧ (∀ i ∈ ticks, i.nanoseconds < 1000000000) ∧
      ticks.IsChain Instant.LeadsTo ∧
      (a.attendAt second (a.attendAll [first] .initial).1).2.1 = false ∧
      (a.attendAt fourth (a.attendAll [first, second, third] .initial).1).2.1 = true := by
  intro a first second third fourth ticks
  have hnanos : ∀ i ∈ ticks, i.nanoseconds < 1000000000 := by decide
  have hchain : ticks.IsChain Instant.LeadsTo := by decide
  obtain ⟨-, hlooks⟩ :=
    works_at_first_look failing failing_leavesTrigger .every (by decide : 11 ≤ 23) (by decide : 27 ≤ 59)
  have hsecond := (hlooks .initial [first] second [third, fourth] rfl hnanos hchain).2.1
  have hfourth := (hlooks .initial [first, second, third] fourth [] rfl hnanos hchain).2.1
  refine ⟨failing_leavesTrigger, hnanos, hchain, ?_, hfourth.mpr (by decide)⟩
  rw [← Bool.not_eq_true, hsecond]
  intro h
  exact h.2 first List.mem_cons_self (by decide)

end Appointment

end ValidatorAlarm
