import ValidatorAlarm.Proofs.Calendar.Minute
import ValidatorAlarm.Proofs.Monitor.Parts
import ValidatorAlarm.Proofs.SelfCheck.Visits
import ValidatorAlarm.Proofs.Timeline.Companion
import ValidatorAlarm.Watch

/-!
# Once in every target minute

A poller looks at the clock at least once a minute, except while a report is being delivered.  As long
as no delivery keeps it from looking for a day, a target minute does not go by without a look, and
between two target minutes there is a look that arms the trigger.  So each target minute has exactly
one report.

The count goes along the visits: between a visit and the next one no target minute goes by, and if the
next one is in another target minute, then the trigger was armed.
-/
namespace ValidatorAlarm

/-! ### Counting reports -/

namespace Visit

/-- Does the visit do its work in this minute? -/
def firedIn (s : Site) (index : Int) (v : Visit) : Bool := v.fired && s.minuteAt v.time = index

variable {target : Target} {s : Site} {rest first now : Nat} {v : Visit} {earlier : List Visit}

/-- There is no visit between this one and the time, which is a minute later at most, or a day less
a minute if there was something to do. -/
structure Reaches (v : Visit) (time : Nat) : Prop where
  later : v.time ≤ time
  quiet : v.fired = false → time ≤ v.time + 60000
  busy : v.fired = true → time ≤ v.time + 86340000

/-- No target minute goes by between two visits, and the first of them arms the trigger for the
second one if that is in a later target minute. -/
theorem Reaches.target_minute (hs : s.start.nanoseconds < 1000000000) {time : Nat}
    (h : v.Reaches time) (hfired : v.fired = true → target.includes (s.clock v.time) = true)
    {index : Int} (hindex : target.includes (.ofMinute index) = true)
    (hlater : s.minuteAt v.time < index) :
    s.minuteAt time ≤ index ∧ (s.minuteAt time = index → target.includes (s.clock v.time) = false) := by
  -- a visit within a target minute is a day before the next one
  have hapart : target.includes (s.clock v.time) = true → s.minuteAt v.time + 1440 ≤ index := by
    intro hvisit
    have hafter : (s.clock v.time).minuteIndex < (Instant.ofMinute index).minuteIndex := by
      rw [Instant.minuteIndex_ofMinute]
      exact hlater
    have hday := target.includes_apart hvisit hindex hafter
    rw [Instant.minuteIndex_ofMinute] at hday
    exact hday
  cases hbusy : v.fired with
  | false =>
    have hminute := Site.minuteAt_le hs 1 (h.quiet hbusy)
    refine ⟨by omega, ?_⟩
    intro hsame
    rw [← Bool.not_eq_true]
    intro hvisit
    have hday := hapart hvisit
    omega
  | true =>
    have hminute := Site.minuteAt_le hs 1439 (h.busy hbusy)
    have hday := hapart (hfired hbusy)
    refine ⟨by omega, ?_⟩
    intro hsame
    omega

/-- A visit begins when the loop has rested after the end of the one before it. -/
theorem Orderly.next_time {next : Visit}
    (h : Orderly target s.clock rest first (next :: v :: earlier)) :
    ∃ time, v.ended = some time ∧ v.time ≤ time ∧ next.time = time + rest := by
  obtain ⟨hcomes, -, -, -, -, hend, -⟩ := h
  obtain ⟨time, hended, hnext⟩ := Option.map_eq_some_iff.mp hcomes.due
  exact ⟨time, hended, hend time hended, hnext.symm⟩

theorem Orderly.first_le (h : Orderly target s.clock rest first (v :: earlier)) : first ≤ v.time := by
  induction earlier generalizing v with
  | nil => exact Nat.le_of_eq (Option.some.inj h.1.due)
  | cons before earlier ih =>
    obtain ⟨time, -, hlong, hnext⟩ := h.next_time
    have hbefore := ih h.2.2.2
    omega

/-- The work of a visit is over, up to now, soon enough. -/
def Timely (now rest : Nat) (v : Visit) : Prop :=
  v.fired = true → v.ended.getD now + rest ≤ v.time + 86340000

/-- A visit reaches to the next one. -/
theorem Orderly.reaches {next : Visit} (hrest : rest ≤ 60000)
    (h : Orderly target s.clock rest first (next :: v :: earlier)) (htimely : v.Timely now rest) :
    v.Reaches next.time := by
  obtain ⟨time, hended, hlong, hnext⟩ := h.next_time
  obtain ⟨-, -, -, -, hquick, -⟩ := h
  refine ⟨by omega, ?_, ?_⟩
  · intro hquiet
    rw [hquick hquiet] at hended
    cases hended
    omega
  · intro hbusy
    have hshort := htimely hbusy
    rw [hended, Option.getD_some] at hshort
    omega

theorem Comes.includes (h : v.Comes target s.clock rest first earlier) (hfired : v.fired = true) :
    target.includes (s.clock v.time) = true := by
  rw [h.fired, Bool.and_eq_true] at hfired
  exact hfired.1

/-- Each target minute up to that of the last visit has one report, and no other one has any. -/
theorem Orderly.count_firedIn (hs : s.start.nanoseconds < 1000000000) (hrest : rest ≤ 60000)
    (h : Orderly target s.clock rest first (v :: earlier))
    (htimely : ∀ visit ∈ v :: earlier, visit.Timely now rest) {index : Int}
    (hindex : target.includes (.ofMinute index) = true) :
    (v :: earlier).countP (firedIn s index) =
      if s.minuteAt first ≤ index ∧ index ≤ s.minuteAt v.time then 1 else 0 := by
  have hshows : ∀ time, s.minuteAt time = index → target.includes (s.clock time) = true := by
    intro time htime
    rw [← target.includes_ofMinute]
    rw [Site.minuteAt] at htime
    rw [htime, hindex]
  induction earlier generalizing v with
  | nil =>
    have hfirst : first = v.time := Option.some.inj h.1.due
    have hfired := h.1.fired
    rw [armed, Bool.and_true] at hfired
    rw [hfirst, List.countP_cons, List.countP_nil, firedIn, hfired]
    by_cases hsame : s.minuteAt v.time = index
    · simp [hshows v.time hsame, hsame]
    · have hother : ¬ (s.minuteAt v.time ≤ index ∧ index ≤ s.minuteAt v.time) := by omega
      simp [hsame, hother]
  | cons before earlier ih =>
    have hreaches := h.reaches hrest (htimely before (by simp))
    obtain ⟨hcomes, -, -, hearlier⟩ := h
    have hcount := ih hearlier fun x hx => htimely x (List.mem_cons_of_mem _ hx)
    have hforward := Site.minuteAt_mono hs hreaches.later
    have hbegin := Site.minuteAt_mono hs hearlier.first_le
    have hfired := hcomes.fired
    rw [armed] at hfired
    rw [List.countP_cons, hcount, firedIn]
    by_cases hpast : index ≤ s.minuteAt before.time
    · -- the minute has had its report, and the trigger is not armed as long as it lasts
      have hsilent : (v.fired && decide (s.minuteAt v.time = index)) = false := by
        by_cases hsame : s.minuteAt v.time = index
        · rw [hfired, hshows before.time (by omega)]
          simp
        · simp [hsame]
      rw [hsilent, if_neg Bool.false_ne_true, Nat.add_zero]
      exact if_congr (by omega) rfl rfl
    · -- it has had none so far: it is the minute of this visit, or one still to come
      have hlater : s.minuteAt before.time < index := by omega
      obtain ⟨hnone, harms⟩ :=
        hreaches.target_minute hs hearlier.1.includes hindex hlater
      rw [if_neg (by omega)]
      by_cases hsame : s.minuteAt v.time = index
      · have hfires : (v.fired && decide (s.minuteAt v.time = index)) = true := by
          rw [hfired, harms hsame, hshows v.time hsame]
          simp [hsame]
        rw [hfires, if_pos rfl, if_pos ⟨by omega, by omega⟩]
      · have hsilent : (v.fired && decide (s.minuteAt v.time = index)) = false := by
          simp [hsame]
        rw [hsilent, if_neg Bool.false_ne_true, if_neg (by omega)]

theorem Orderly.includes {visits : List Visit} (h : Orderly target s.clock rest first visits) :
    ∀ v ∈ visits, v.fired = true → target.includes (s.clock v.time) = true := by
  induction visits with
  | nil =>
    intro v hv
    cases hv
  | cons last earlier ih =>
    intro v hv hfired
    rcases List.mem_cons.mp hv with rfl | hearlier
    · exact h.1.includes hfired
    · exact ih h.2.2.2 v hearlier hfired

/-- In a minute that is no target minute there is no report. -/
theorem Orderly.count_other {visits : List Visit} (h : Orderly target s.clock rest first visits)
    {index : Int} (hindex : ¬ target.includes (.ofMinute index) = true) :
    visits.countP (firedIn s index) = 0 := by
  rw [List.countP_eq_zero]
  intro v hv hfiredIn
  rw [firedIn, Bool.and_eq_true, decide_eq_true_eq] at hfiredIn
  apply hindex
  rw [← hfiredIn.2, Site.minuteAt, target.includes_ofMinute]
  exact h.includes v hv hfiredIn.1

/-- The last visit reaches to the end of the run. -/
theorem Orderly.reaches_end (hrest : rest ≤ 60000)
    (h : Orderly target s.clock rest first (v :: earlier)) (htimely : v.Timely now rest)
    (hbegun : v.time ≤ now) (hnext : ∀ time, v.ended = some time → now < time + rest) :
    v.Reaches now := by
  obtain ⟨-, hquick, -, -⟩ := h
  refine ⟨hbegun, ?_, ?_⟩
  · intro hquiet
    have hsoon := hnext v.time (hquick hquiet)
    omega
  · intro hbusy
    have hshort := htimely hbusy
    cases hended : v.ended with
    | none =>
      rw [hended, Option.getD_none] at hshort
      omega
    | some time =>
      have hsoon := hnext time hended
      rw [hended, Option.getD_some] at hshort
      omega

end Visit

/-! ### Runs -/

namespace Poller

/-- The poller of an appointment, with notes of its visits. -/
def visiting (p : Poller Site) (appointment : Appointment) : Poller (Noted Site Visit) :=
  ⟨p.name, p.rhythm, appointment.visit, p.token, p.started⟩

/-- As long as nobody closes a poller that has been started, its owner just lets time pass. -/
theorem carryOutAll_unclosed {σ : Type} {I : Agenda σ → Prop}
    (hadvance : ∀ a ms, I a → I (a.advance ms)) {p : Poller σ} (hstarted : p.started = true)
    {orders : List Order} (hopen : ∀ order ∈ orders, order.closes = false) {a : Agenda σ} (h : I a) :
    I (carryOutAll orders (some p) a).2 := by
  induction orders generalizing a with
  | nil => exact h
  | cons order orders ih =>
    have hrest := fun a (ha : I a) => ih (fun o ho => hopen o (List.mem_cons_of_mem _ ho)) ha
    cases order with
    | start =>
      rw [carryOutAll, carryOut, Poller.start, if_pos hstarted]
      exact hrest a h
    | close => cases hopen .close List.mem_cons_self
    | drop => cases hopen .drop List.mem_cons_self
    | advance ms => exact hrest _ (hadvance a ms h)

section Visiting

variable {p : Poller Site} {appointment : Appointment} {rest now : Nat} {site : Site}
  {cancelled : List Token}

theorem visiting_follows (hwork : p.work = appointment.attend) :
    (p.visiting appointment).Follows Noted.state p := by
  refine ⟨rfl, ?_, rfl, rfl⟩
  intro token
  rw [hwork]
  exact appointment.visit_follows token

theorem visiting_start
    (hrhythm : p.rhythm = ⟨.ofMilliseconds rest, .ofMilliseconds rest⟩) (hlong : rest ≤ 60000)
    (htrigger : site.trigger = .fresh) (hopen : p.token ∉ cancelled) :
    Vigil appointment p.token rest now site
      (Agenda.addLoop ⟨now, cancelled, [], [], ⟨site, []⟩⟩ (p.visiting appointment).loop) := by
  have hrest : ∀ succeeded, min ((p.visiting appointment).loop.rest succeeded) longestWait = rest := by
    intro succeeded
    have hwait : longestWait = 946080000000 := rfl
    have hmilliseconds : (Duration.ofMilliseconds rest).milliseconds = rest := by
      simp only [Duration.milliseconds, Duration.ofMilliseconds]
      omega
    change min (p.rhythm.rest succeeded) longestWait = rest
    rw [hrhythm, Rhythm.rest, ite_self, hmilliseconds, hwait]
    omega
  refine ⟨rfl, ?_, ⟨_, rfl, ⟨loop_cycle _, rfl, hrest⟩, ⟨rfl, htrigger⟩, trivial, rfl⟩,
    fun _ => rfl, ?_, ?_⟩
  · rw [← Bool.not_eq_true]
    exact fun h => hopen (List.contains_iff_mem.mp h)
  · intro v hv
    cases hv
  · constructor
    · intro e he
      cases he
    · intro l hl wake hwake
      rw [List.mem_singleton.mp hl] at hwake
      cases hwake

/-- However the owner lets time pass, the visits follow each other up to now. -/
theorem visiting_run (hwork : ∀ token, (appointment.work token).Keeps Frame.clockwork)
    (hfresh : p.started = false) (hrhythm : p.rhythm = ⟨.ofMilliseconds rest, .ofMilliseconds rest⟩)
    (hrest : 0 < rest) (hlong : rest ≤ 60000) (htrigger : site.trigger = .fresh)
    (hopen : p.token ∉ cancelled) {orders : List Order}
    (horders : ∀ order ∈ orders, order.closes = false) :
    Vigil.Pauses appointment p.token rest now site
      (carryOutAll (.start :: orders) (some (p.visiting appointment))
        ⟨now, cancelled, [], [], ⟨site, []⟩⟩).2 := by
  have hstart : Vigil appointment p.token rest now site
      (Agenda.addLoop ⟨now, cancelled, [], [], ⟨site, []⟩⟩ (p.visiting appointment).loop) :=
    visiting_start hrhythm hlong htrigger hopen
  have hunstarted : ¬ (p.visiting appointment).started = true := by
    rw [visiting, hfresh]
    exact Bool.false_ne_true
  rw [carryOutAll, carryOut, Poller.start, if_neg hunstarted]
  exact carryOutAll_unclosed (fun a ms h => h.advance hwork hrest ms) rfl horders
    (Or.inl ⟨hstart, rfl⟩)

end Visiting

end Poller

section Counting

variable {appointment : Appointment} {token : Token} {rest first : Nat} {site : Site}
  {a : Agenda (Noted Site Visit)}

theorem Vigil.Pauses.orderly (h : Vigil.Pauses appointment token rest first site a) :
    Visit.Orderly appointment.target site.clock rest first a.state.notes := by
  rcases h with ⟨-, hnotes⟩ | hsettled
  · rw [hnotes]
    trivial
  · obtain ⟨v, earlier, hnotes, -, -, horderly⟩ := hsettled.last
    rw [hnotes]
    exact horderly

/-- Each target minute that has ended has one report, and no minute has two. -/
theorem Vigil.Pauses.count_firedIn (hs : site.start.nanoseconds < 1000000000) (hlong : rest ≤ 60000)
    (h : Vigil.Pauses appointment token rest first site a)
    (htimely : ∀ v ∈ a.state.notes, v.Timely a.now rest) (index : Int) :
    a.state.notes.countP (Visit.firedIn site index) ≤ 1 ∧
      (appointment.target.includes (.ofMinute index) = true → site.minuteAt first ≤ index →
        index < site.minuteAt a.now → a.state.notes.countP (Visit.firedIn site index) = 1) := by
  by_cases hindex : appointment.target.includes (.ofMinute index) = true
  · rcases h with ⟨hvigil, hnotes⟩ | hsettled
    · rw [hnotes, hvigil.fresh hnotes]
      refine ⟨Nat.zero_le 1, ?_⟩
      intro _ hlow hhigh
      omega
    · obtain ⟨v, earlier, hnotes, hbegun, hnext, horderly⟩ := hsettled.last
      rw [hnotes] at htimely
      have hcount := horderly.count_firedIn hs hlong htimely hindex
      have hreaches := horderly.reaches_end hlong (htimely v List.mem_cons_self) hbegun hnext
      rw [hnotes, hcount]
      constructor
      · split <;> omega
      · intro _ hlow hhigh
        rw [if_pos]
        refine ⟨hlow, ?_⟩
        by_contra hlater
        have hnone := (hreaches.target_minute hs horderly.1.includes hindex (by omega)).1
        omega
  · rw [h.orderly.count_other hindex]
    exact ⟨Nat.zero_le 1, fun h => absurd h hindex⟩

end Counting

/-! ### Reports -/

namespace CheckPlan

theorem delivery_clockwork {s s' : Site} (h : Frame.delivery.Allows s s') :
    Frame.clockwork.Allows s s' :=
  Frame.fixed_part (fun s : Site => (s.trigger, s.start)) h.2

theorem work_keeps (name : String) (fanout : Fanout) (token : Token) :
    (work (.on name fanout) token).Keeps Frame.clockwork := by
  have hdrain : Reporter.drain.Keeps Frame.clockwork := Task.Keeps.update fun s => rfl
  have htell : ∀ messages, (Reporter.tell fanout messages).Keeps Frame.clockwork := by
    intro messages
    have hnotify := (fanout.notify_keeps messages).mono fun _ _ => delivery_clockwork
    exact Task.Keeps.bind hnotify fun _ => trivial
  exact Task.Keeps.bind (Task.Keeps.bind hdrain fun tally => htell _) fun _ => trivial

/-- The self-checks of a reporter in a target minute. -/
def reporting (name : String) (fanout : Fanout) (target : Target) : Appointment :=
  ⟨target, work (.on name fanout)⟩

/-- The poller of an appointment, with one interval for success and failure. -/
def lookout (label : Option String) (token : Token) (rest : Nat) (appointment : Appointment) :
    Poller Site :=
  ⟨label.getD "", ⟨.ofMilliseconds rest, .ofMilliseconds rest⟩, appointment.attend, token, false⟩

theorem make_lookout (label : Option String) (token : Token) {rest : Nat} (hrest : 1 ≤ rest)
    (appointment : Appointment) :
    Poller.make token label (some appointment.attend) (some (.ofMilliseconds rest))
      (some (.ofMilliseconds rest)) = .ok (lookout label token rest appointment) := by
  have hcheck : Rhythm.check (.ofMilliseconds rest) = .ok () := by
    rw [Rhythm.check, if_neg]
    intro hshort
    have hnanos : rest * 1000000 < 1 * 1000000 := hshort
    omega
  rw [Poller.make, Rhythm.make]
  simp only [Option.getD_some, hcheck]
  rfl

/-- **Every target minute has exactly one report.**  A poller looks for self-checks at most a minute
apart, on a clock that does not start within a leap second, and no delivery of a report together with
the rest after it lasts longer than a day less a minute.  Then no report begins outside of a target
minute, no minute has two, and every target minute which was not over when the poller was started, and
which is over now, has one: whatever becomes of the deliveries. -/
theorem once_per_target_minute (name : String) (fanout : Fanout) (day : TargetDay)
    (label : Option String) (token : Token) {hour minute rest : Nat} (hhour : hour ≤ 23)
    (hminute : minute ≤ 59) (hrest : 1 ≤ rest) (hlong : rest ≤ 60000) :
    let appointment := reporting name fanout ⟨day, hour, minute⟩
    let checks := lookout label token rest appointment
    Appointment.make (some (work (.on name fanout))) day hour minute = .ok appointment ∧
    Poller.make token label (some appointment.attend) (some (.ofMilliseconds rest))
      (some (.ofMilliseconds rest)) = .ok checks ∧
    ∀ (site : Site) (now : Nat) (cancelled : List Token) (orders : List Poller.Order),
      site.trigger = .fresh → site.start.nanoseconds < 1000000000 → token ∉ cancelled →
      (∀ order ∈ orders, order.closes = false) →
      let run := (Poller.carryOutAll (.start :: orders) (some checks)
        ⟨now, cancelled, [], [], site⟩).2
      let noted := (Poller.carryOutAll (.start :: orders) (some (checks.visiting appointment))
        ⟨now, cancelled, [], [], ⟨site, []⟩⟩).2
      noted.state.state = run.state ∧ noted.now = run.now ∧
      (∀ v ∈ noted.state.notes, v.fired = true →
        appointment.target.includes (site.clock v.time) = true) ∧
      ((∀ v ∈ noted.state.notes, v.fired = true →
          v.ended.getD run.now + rest ≤ v.time + 86340000) →
        ∀ index, noted.state.notes.countP (Visit.firedIn site index) ≤ 1 ∧
          (appointment.target.includes (.ofMinute index) = true →
            site.minuteAt now ≤ index → index < site.minuteAt run.now →
            noted.state.notes.countP (Visit.firedIn site index) = 1)) := by
  intro appointment checks
  refine ⟨?_, make_lookout label token hrest appointment, ?_⟩
  · rw [Appointment.make, Target.make, if_neg (Nat.not_lt.mpr hhour),
      if_neg (Nat.not_lt.mpr hminute)]
    rfl
  · intro site now cancelled orders htrigger hclock hopen horders run noted
    have hfollows : noted.Follows Noted.state run :=
      Poller.Follows.carryOutAll (.some (Poller.visiting_follows rfl)) ⟨rfl, rfl, rfl, .nil, rfl⟩ _
    have hpauses : Vigil.Pauses appointment token rest now site noted :=
      Poller.visiting_run (p := checks) (work_keeps name fanout) rfl rfl hrest hlong htrigger hopen
        horders
    refine ⟨hfollows.state, hfollows.now, hpauses.orderly.includes, ?_⟩
    intro htimely
    rw [← hfollows.now] at htimely ⊢
    exact hpauses.count_firedIn hclock hlong htimely

/-- Self-checks at 00:01 of every day, through one channel. -/
def early : Appointment := reporting "m" ⟨[.handover "a"], 0, .ofSeconds 1⟩ ⟨.every, 0, 1⟩

/-- The first day of 1970; the channel takes a minute and a half to fail. -/
def tedious : Site := { Site.initial with channels := [.always ⟨90000, .error (.connection none)⟩] }

/-- A look every 30 s for 200 s: the delivery of the report of 00:01 fails after the end of its minute,
and is the only one. -/
theorem once_though_it_fails :
    let noted := (Poller.carryOutAll [.start, .advance 200000]
      (some ((lookout none 0 30000 early).visiting early)) ⟨0, [], [], [], ⟨tedious, []⟩⟩).2
    noted.state.notes = [⟨180000, false, some 180000⟩, ⟨60000, true, some 150000⟩,
        ⟨30000, false, some 30000⟩, ⟨0, false, some 0⟩] ∧
      (150000, .sendFailed "a#0" none) ∈ noted.state.state.history ∧
      noted.state.notes.countP (Visit.firedIn tedious 1) = 1 := by
  intro noted
  have hnotes : noted.state.notes = [⟨180000, false, some 180000⟩, ⟨60000, true, some 150000⟩,
      ⟨30000, false, some 30000⟩, ⟨0, false, some 0⟩] := by decide +kernel
  obtain ⟨-, -, hruns⟩ := once_per_target_minute "m" ⟨[.handover "a"], 0, .ofSeconds 1⟩ .every none 0
    (by decide : 0 ≤ 23) (by decide : 1 ≤ 59) (by decide : 1 ≤ 30000) (by decide)
  obtain ⟨-, -, -, hcounts⟩ := hruns tedious 0 [] [.advance 200000] rfl (by decide)
    List.not_mem_nil (by decide)
  refine ⟨hnotes, by decide +kernel, (hcounts ?_ 1).2 (by decide +kernel) (by decide +kernel) (by decide +kernel)⟩
  intro v hv hfired
  rcases List.mem_cons.mp (hnotes ▸ hv) with rfl | hv
  · cases hfired
  rcases List.mem_cons.mp hv with rfl | hv
  · rw [Option.getD_some]
    omega
  · simp only [List.mem_cons, List.not_mem_nil, or_false] at hv
    rcases hv with rfl | rfl <;> cases hfired

end CheckPlan

end ValidatorAlarm
