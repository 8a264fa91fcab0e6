import ValidatorAlarm.Poller
import ValidatorAlarm.ScriptedWork
import ValidatorAlarm.Proofs.Timeline.Passing
import ValidatorAlarm.Proofs.Timeline.Sequence

/-!
# The record of a poller

A poller whose work follows a script leaves a record of its cycles: when each of them began, whether
its signal was cancelled by then, and when it ended.  The record is kept as a list of spans, the last
first, and what the site has on record is what these spans say.

A span determines what is left of its cycle and where the loop stands after it.  So one step of the
loop comes down to one of three changes of the record: nothing happens, the last span ends, or a new
span begins.
-/
namespace ValidatorAlarm

/-- One cycle of a loop. -/
structure Span where
  cycle : ScriptedCycle
  begun : Nat
  /-- Its signal was cancelled when it began. -/
  cancelled : Bool
  /-- The time of its end; none as long as it runs. -/
  ended : Option Nat
deriving DecidableEq, Repr

namespace Span

/-- The time at which the cycle ends by itself, unless it waits for its cancellation. -/
def due (s : Span) : Nat := s.begun + min s.cycle.latency longestWait

def succeeded (s : Span) : Bool := !s.cycle.untilCancelled && !s.cycle.fails

/-- What is on record about the end. -/
def ending (s : Span) : List (Nat × Event) :=
  match s.ended with
  | none => []
  | some time =>
    if s.cycle.untilCancelled then [(time, .cycleCancelled)]
    else if s.cycle.latency = 0 then []
    else [(time, .cycleEnded)]

/-- What is on record about the cycle. -/
def events (s : Span) : List (Nat × Event) := s.ending ++ [(s.begun, .cycleBegun s.cancelled)]

/-- The span of a cycle as it begins. -/
def start (cycle : ScriptedCycle) (m : Moment) (token : Token) : Span where
  cycle := cycle
  begun := m.now
  cancelled := m.cancelled token
  ended :=
    if cycle.untilCancelled then if m.cancelled token then some m.now else none
    else if cycle.latency = 0 then some m.now else none

/-- What is left to do while the cycle runs. -/
def rest (s : Span) (token : Token) : Suspension Site Bool :=
  if s.cycle.untilCancelled then
    .held token (.act (fun m site => site.note .cycleCancelled m) (.done s.succeeded))
  else .timed s.due none fun _ =>
    .act (fun m site => site.note .cycleEnded m) (.done s.succeeded)

/-- Is a cycle that runs over at this moment? -/
def isOver (s : Span) (m : Moment) (token : Token) : Bool :=
  if s.cycle.untilCancelled then m.cancelled token else s.due ≤ m.now

/-- Where a loop stands after the span, if its signal was or was not cancelled when it looked. -/
def stage (s : Span) (rhythm : Rhythm) (token : Token) (cancelled : Bool) : Stage Site :=
  match s.ended with
  | none => .working (s.rest token)
  | some time =>
    if cancelled then .over
    else .resting (time + min (rhythm.rest s.succeeded) longestWait)

/-- The cycle takes the time that the script says; one that waits for its cancellation ends no
earlier than it begins. -/
structure Proper (s : Span) : Prop where
  running : s.ended = none → s.cycle.untilCancelled = false → s.cycle.latency ≠ 0
  timed : s.cycle.untilCancelled = false → ∀ time, s.ended = some time → time = s.due
  held : s.cycle.untilCancelled = true → ∀ time, s.ended = some time → s.begun ≤ time

end Span

/-- The cycles follow the script and each other: a cycle begins when the one before it has ended and
the loop has rested. -/
def Orderly (rhythm : Rhythm) (script : Script ScriptedCycle) : List Span → Prop
  | [] => True
  | s :: earlier =>
    s.cycle = script.answer (script.used + earlier.length) ∧ s.Proper ∧
    (∀ before ∈ earlier.head?, ∃ time, before.ended = some time ∧
      s.begun = time + min (rhythm.rest before.succeeded) longestWait) ∧
    Orderly rhythm script earlier

/-! ### One cycle -/

/-- The loop of a poller of scripted work, at a stage. -/
def scriptedLoop (rhythm : Rhythm) (token : Token) (stage : Stage Site) : Loop Site :=
  { (Poller.mk "" rhythm ScriptedWork.work token false).loop with stage := stage }

section Cycle

variable (rhythm : Rhythm) (token : Token) (stage : Stage Site)

/-- A cycle from the point where it knows how it will go. -/
def scriptedEnd (cycle : ScriptedCycle) : Work (Except Fault Unit) := do
  if cycle.untilCancelled then
    Task.untilCancelled token
    Work.note .cycleCancelled
    return .error .cancelled
  else if cycle.latency = 0 then return ScriptedWork.result cycle
  else
    Task.sleep cycle.latency
    Work.note .cycleEnded
    return ScriptedWork.result cycle

theorem scriptedWork_eq :
    ScriptedWork.work token =
      (Task.isCancelled token).bind fun cancelled =>
        (Work.note (.cycleBegun cancelled)).bind fun _ =>
          ScriptedWork.nextCycle.bind (scriptedEnd token) := rfl

/-- How far a cycle gets at the moment at which it begins. -/
theorem run_scripted (m : Moment) (site : Site) :
    (scriptedLoop rhythm token stage).cycle.run m site =
      ({ site with
        cycles := site.cycles.next.1
        history := (Span.start site.cycles.next.2 m token).events ++ site.history },
      match (Span.start site.cycles.next.2 m token).ended with
      | none => .waiting ((Span.start site.cycles.next.2 m token).rest token)
      | some _ => .finished (Span.start site.cycles.next.2 m token).succeeded) := by
  have hbegun : (ScriptedWork.work token).run m site =
      (scriptedEnd token site.cycles.next.2).run m
        { site with
          cycles := site.cycles.next.1
          history := (m.now, .cycleBegun (m.cancelled token)) :: site.history } := by
    rw [scriptedWork_eq]
    rfl
  rw [scriptedLoop, Poller.loop, Task.bind_eq, Task.run_bind, hbegun]
  generalize site.cycles.next = next
  obtain ⟨later, fails, latency, untilCancelled⟩ := next
  cases untilCancelled with
  | true =>
    cases hcancelled : m.cancelled token with
    | true =>
      simp [scriptedEnd, Task.untilCancelled, Work.note, Task.changeAt, Site.note, Task.bind,
        Task.run, hcancelled, Progress.andThen, Span.start, Span.events, Span.ending, Span.succeeded]
    | false =>
      simp [scriptedEnd, Task.untilCancelled, Work.note, Task.changeAt, Site.note, Task.bind,
        Task.run, hcancelled, Progress.andThen, Span.start, Span.events, Span.ending, Span.succeeded,
        Span.rest, Suspension.andThen]
  | false =>
    by_cases hlatency : latency = 0
    · cases fails <;>
        simp [scriptedEnd, ScriptedWork.result, hlatency, Task.run, Progress.andThen, Span.start,
          Span.events, Span.ending, Span.succeeded]
    · cases fails <;>
        simp [scriptedEnd, ScriptedWork.result, Task.sleep, Work.note, Task.changeAt, Site.note,
          Task.bind, hlatency, Task.run, Progress.andThen, Span.start, Span.events, Span.ending,
          Span.succeeded, Span.rest, Span.due, Moment.after, Suspension.andThen]

/-- How far a cycle that runs gets: to its end if it is over, and else nowhere. -/
theorem resume_rest {s : Span} (hproper : s.Proper) (hrunning : s.ended = none) (m : Moment)
    (site : Site) :
    (s.rest token).resume m site =
      if s.isOver m token then
        ({ site with history := { s with ended := some m.now }.ending ++ site.history },
          .finished s.succeeded)
      else (site, .waiting (s.rest token)) := by
  obtain ⟨⟨fails, latency, untilCancelled⟩, begun, cancelled, ended⟩ := s
  cases untilCancelled with
  | true =>
    cases hcancelled : m.cancelled token <;>
      simp [Span.rest, Suspension.resume, Span.isOver, hcancelled, Task.run, Site.note, Span.ending,
        Span.succeeded]
  | false =>
    have hlatency : latency ≠ 0 := hproper.running hrunning rfl
    by_cases hdue : begun + min latency longestWait ≤ m.now <;>
      simp [Span.rest, Suspension.resume, Span.isOver, Span.due, hdue, Task.run, Site.note,
        Span.ending, Span.succeeded, hlatency]

end Cycle

/-! ### Spans at their moments -/

namespace Span

variable {s : Span} {cycle : ScriptedCycle} {m : Moment} {token : Token} {rhythm : Rhythm}

theorem longestWait_pos : 0 < longestWait := by decide

theorem start_ended {time : Nat} (h : (start cycle m token).ended = some time) : time = m.now := by
  simp only [start] at h
  split at h
  · split at h
    · exact (Option.some.inj h).symm
    · cases h
  · split at h
    · exact (Option.some.inj h).symm
    · cases h

theorem start_running (h : (start cycle m token).ended = none) :
    (start cycle m token).isOver m token = false := by
  have hpos := longestWait_pos
  cases huntil : cycle.untilCancelled with
  | true => cases hcancelled : m.cancelled token <;> simp_all [start, isOver]
  | false =>
    have hlatency : cycle.latency ≠ 0 := by
      intro hzero
      simp [start, huntil, hzero] at h
    simp only [isOver, start, huntil, due, Bool.false_eq_true, if_false, decide_eq_false_iff_not]
    omega

theorem start_proper (cycle : ScriptedCycle) (m : Moment) (token : Token) :
    (start cycle m token).Proper := by
  refine ⟨?_, ?_, ?_⟩
  · intro h huntil hzero
    have huntil' : cycle.untilCancelled = false := huntil
    have hzero' : cycle.latency = 0 := hzero
    simp [start, huntil', hzero'] at h
  · intro huntil time h
    have huntil' : cycle.untilCancelled = false := huntil
    rw [start_ended h]
    by_cases hzero : cycle.latency = 0
    · simp [start, due, hzero]
    · simp [start, huntil', hzero] at h
  · intro _ time h
    rw [start_ended h]
    exact Nat.le_refl m.now

theorem Proper.ends (hbegun : s.begun ≤ m.now) (hover : s.isOver m token = true)
    (hdue : s.cycle.untilCancelled = false → m.now ≤ s.due) :
    Proper { s with ended := some m.now } := by
  refine ⟨?_, ?_, ?_⟩
  · intro hrunning
    cases hrunning
  · intro huntil time htime
    have huntil' : s.cycle.untilCancelled = false := huntil
    cases htime
    simp only [isOver, huntil', Bool.false_eq_true, if_false, decide_eq_true_eq] at hover
    exact Nat.le_antisymm (hdue huntil') hover
  · intro _ time htime
    cases htime
    exact hbegun

end Span

/-! ### One step of the loop -/

/-- What one step of a loop does to its record. -/
inductive Next (m : Moment) (token : Token) (cycle : ScriptedCycle) : List Span → List Span → Prop where
  | idle {s : Span} {earlier : List Span} : Next m token cycle (s :: earlier) (s :: earlier)
  | ends {s : Span} {earlier : List Span} (hrunning : s.ended = none)
      (hover : s.isOver m token = true) :
      Next m token cycle (s :: earlier) ({ s with ended := some m.now } :: earlier)
  | begins {spans : List Span} (h : spans = [] ∨ m.cancelled token = false) :
      Next m token cycle spans (Span.start cycle m token :: spans)

/-- The loop and the site are where the record says.  The loop may not have noticed yet that its
signal is cancelled. -/
structure Kept (rhythm : Rhythm) (token : Token) (before : Site) (cancelled : Bool) (spans : List Span)
    (l : Loop Site) (site : Site) : Prop where
  loop : l = scriptedLoop rhythm token l.stage
  fresh : spans = [] → l.stage = .ready
  stage : ∀ s earlier, spans = s :: earlier →
    ∃ looked, l.stage = s.stage rhythm token looked ∧ (looked = true → cancelled = true)
  script : site.cycles = ⟨before.cycles.answer, before.cycles.used + spans.length⟩
  history : site.history = spans.flatMap Span.events ++ before.history
  orderly : Orderly rhythm before.cycles spans

/-- The loop has just looked, and what is still to come lies ahead. -/
structure Looked (rhythm : Rhythm) (token : Token) (m : Moment) (spans : List Span) (l : Loop Site) :
    Prop where
  last : ∃ s earlier, spans = s :: earlier ∧
    l.stage = s.stage rhythm token (m.cancelled token) ∧
    (s.ended = none → s.isOver m token = false)
  ahead : ∀ wake, l.wake? = some wake → m.now < wake

section Step

variable {rhythm : Rhythm} {token : Token} {before site : Site} {m : Moment} {spans earlier : List Span}
  {l : Loop Site} {s : Span}

/-- A loop that has looked at the last span of its record. -/
theorem kept_looked
    (hscript : site.cycles = ⟨before.cycles.answer, before.cycles.used + (s :: earlier).length⟩)
    (hhistory : site.history = (s :: earlier).flatMap Span.events ++ before.history)
    (horderly : Orderly rhythm before.cycles (s :: earlier))
    (hrunning : s.ended = none → s.isOver m token = false)
    (hahead : ∀ wake,
      (scriptedLoop rhythm token (s.stage rhythm token (m.cancelled token))).wake? = some wake →
        m.now < wake) :
    Kept rhythm token before (m.cancelled token) (s :: earlier)
        (scriptedLoop rhythm token (s.stage rhythm token (m.cancelled token))) site ∧
      Looked rhythm token m (s :: earlier)
        (scriptedLoop rhythm token (s.stage rhythm token (m.cancelled token))) := by
  refine ⟨⟨rfl, ?_, ?_, hscript, hhistory, horderly⟩, ⟨s, earlier, rfl, rfl, hrunning⟩, hahead⟩
  · intro hspans
    cases hspans
  · intro s' earlier' hspans
    obtain ⟨rfl, -⟩ := List.cons.inj hspans
    exact ⟨m.cancelled token, rfl, id⟩

theorem stage_ahead (hrest : ∀ succeeded, 0 < rhythm.rest succeeded)
    (hended : ∀ time, s.ended = some time → time = m.now)
    (hrunning : s.ended = none → s.isOver m token = false) (wake : Nat)
    (hwake : (scriptedLoop rhythm token (s.stage rhythm token (m.cancelled token))).wake? =
      some wake) : m.now < wake := by
  have hpos := Span.longestWait_pos
  cases h : s.ended with
  | none =>
    simp only [scriptedLoop, Loop.wake?, Span.stage, h, Span.rest] at hwake
    have hover := hrunning h
    rw [Span.isOver] at hover
    split at hwake
    · cases hwake
    · rename_i huntil
      rw [if_neg huntil, decide_eq_false_iff_not] at hover
      cases hwake
      exact Nat.lt_of_not_le hover
  | some time =>
    rw [hended time h] at h
    have hpositive := hrest s.succeeded
    simp only [scriptedLoop, Loop.wake?, Span.stage, h] at hwake
    cases hcancelled : m.cancelled token with
    | true => simp [hcancelled] at hwake
    | false =>
      simp only [hcancelled, Bool.false_eq_true, if_false, Option.some.injEq] at hwake
      omega

theorem took_span (hended : ∀ time, s.ended = some time → time = m.now) (stage : Stage Site) :
    (scriptedLoop rhythm token stage).took m (match s.ended with
      | none => .waiting (s.rest token)
      | some _ => .finished s.succeeded) =
      scriptedLoop rhythm token (s.stage rhythm token (m.cancelled token)) := by
  cases h : s.ended with
  | none =>
    simp only [Loop.took, Span.stage, h]
    rfl
  | some time =>
    rw [hended time h] at h
    simp only [Loop.took, Span.stage, h]
    cases hcancelled : m.cancelled token with
    | true => simp [scriptedLoop, Poller.loop, hcancelled]
    | false => simp [scriptedLoop, Poller.loop, hcancelled, Moment.after]

theorem begin_spec (hrest : ∀ succeeded, 0 < rhythm.rest succeeded)
    (hscript : site.cycles = ⟨before.cycles.answer, before.cycles.used + spans.length⟩)
    (hhistory : site.history = spans.flatMap Span.events ++ before.history)
    (horderly : Orderly rhythm before.cycles spans)
    (hlast : ∀ s ∈ spans.head?, ∃ time, s.ended = some time ∧
      m.now = time + min (rhythm.rest s.succeeded) longestWait) (stage : Stage Site) :
    let got := (scriptedLoop rhythm token stage).cycle.run m site
    let l := (scriptedLoop rhythm token stage).took m got.2
    Kept rhythm token before (m.cancelled token) (Span.start site.cycles.next.2 m token :: spans)
        l got.1 ∧
      Looked rhythm token m (Span.start site.cycles.next.2 m token :: spans) l := by
  have hended : ∀ time, (Span.start site.cycles.next.2 m token).ended = some time → time = m.now :=
    fun time h => Span.start_ended h
  have hcycle : site.cycles.next.2 = before.cycles.answer (before.cycles.used + spans.length) := by
    rw [hscript]
    rfl
  simp only [run_scripted, took_span hended stage]
  refine kept_looked ?_ ?_ ⟨hcycle, Span.start_proper _ m token, hlast, horderly⟩
    Span.start_running (stage_ahead hrest hended Span.start_running)
  · rw [hscript]
    rfl
  · simp only [hhistory, List.flatMap_cons, List.append_assoc]

theorem working_spec (hrest : ∀ succeeded, 0 < rhythm.rest succeeded)
    (hscript : site.cycles = ⟨before.cycles.answer, before.cycles.used + (s :: earlier).length⟩)
    (hhistory : site.history = (s :: earlier).flatMap Span.events ++ before.history)
    (horderly : Orderly rhythm before.cycles (s :: earlier)) (hrunning : s.ended = none)
    (hbegun : s.begun ≤ m.now) (hdue : s.cycle.untilCancelled = false → m.now ≤ s.due)
    (stage : Stage Site) :
    let got := (s.rest token).resume m site
    let l := (scriptedLoop rhythm token stage).took m got.2
    ∃ spans', Next m token site.cycles.next.2 (s :: earlier) spans' ∧
      Kept rhythm token before (m.cancelled token) spans' l got.1 ∧
      Looked rhythm token m spans' l := by
  obtain ⟨hcycle, hproper, hprevious, hearlier⟩ := horderly
  simp only [resume_rest token hproper hrunning m site]
  cases hover : s.isOver m token with
  | true =>
    have hended : ∀ time, ({ s with ended := some m.now } : Span).ended = some time → time = m.now :=
      fun time h => (Option.some.inj h).symm
    have htook : (scriptedLoop rhythm token stage).took m (.finished s.succeeded) =
        scriptedLoop rhythm token
          (Span.stage { s with ended := some m.now } rhythm token (m.cancelled token)) :=
      took_span hended stage
    have hnever : ({ s with ended := some m.now } : Span).ended = none →
        Span.isOver { s with ended := some m.now } m token = false := by
      intro hrunning'
      cases hrunning'
    have hsilent : s.ending = [] := by
      simp only [Span.ending, hrunning]
    refine ⟨{ s with ended := some m.now } :: earlier, .ends hrunning hover, ?_⟩
    simp only [if_true, htook]
    refine kept_looked hscript ?_ ⟨hcycle, Span.Proper.ends hbegun hover hdue, hprevious, hearlier⟩
      hnever (stage_ahead hrest hended hnever)
    rw [hhistory, List.flatMap_cons, List.flatMap_cons, Span.events, Span.events, hsilent]
    simp only [List.nil_append, List.append_assoc]
  | false =>
    have hended : ∀ time, s.ended = some time → time = m.now := by
      intro time htime
      rw [hrunning] at htime
      cases htime
    have htook : (scriptedLoop rhythm token stage).took m (.waiting (s.rest token)) =
        scriptedLoop rhythm token (s.stage rhythm token (m.cancelled token)) := by
      rw [← took_span hended stage, hrunning]
    refine ⟨s :: earlier, .idle, ?_⟩
    simp only [Bool.false_eq_true, if_false, htook]
    exact kept_looked hscript hhistory ⟨hcycle, hproper, hprevious, hearlier⟩ (fun _ => hover)
      (stage_ahead hrest hended fun _ => hover)

theorem stage_over {time : Nat} (hended : s.ended = some time) :
    s.stage rhythm token true = .over := by
  simp only [Span.stage, hended, if_true]

theorem stage_resting {time : Nat} (hended : s.ended = some time) :
    s.stage rhythm token false =
      .resting (time + min (rhythm.rest s.succeeded) longestWait) := by
  simp only [Span.stage, hended, Bool.false_eq_true, if_false]

/-- The loop looks at its rest: it ends if the signal is cancelled, and begins a cycle if the rest is
over. -/
theorem resting_spec (hrest : ∀ succeeded, 0 < rhythm.rest succeeded)
    (hscript : site.cycles = ⟨before.cycles.answer, before.cycles.used + (s :: earlier).length⟩)
    (hhistory : site.history = (s :: earlier).flatMap Span.events ++ before.history)
    (horderly : Orderly rhythm before.cycles (s :: earlier)) {time : Nat}
    (hended : s.ended = some time)
    (hwake : m.now ≤ time + min (rhythm.rest s.succeeded) longestWait) :
    let l := scriptedLoop rhythm token (.resting (time + min (rhythm.rest s.succeeded) longestWait))
    ∃ spans', Next m token site.cycles.next.2 (s :: earlier) spans' ∧
      Kept rhythm token before (m.cancelled token) spans' (l.step m site).2 (l.step m site).1 ∧
      Looked rhythm token m spans' (l.step m site).2 := by
  intro l
  have hnever : s.ended = none → s.isOver m token = false := by
    intro hnone
    rw [hended] at hnone
    cases hnone
  have hidle := kept_looked hscript hhistory horderly hnever
  cases hcut : m.cancelled token with
  | true =>
    rw [hcut, stage_over hended] at hidle
    have hstep : l.step m site = (site, scriptedLoop rhythm token .over) := by
      simp [l, Loop.step, scriptedLoop, Poller.loop, hcut]
    rw [hstep]
    refine ⟨s :: earlier, .idle, hidle ?_⟩
    intro wake hwake
    cases hwake
  | false =>
    rw [hcut, stage_resting hended] at hidle
    by_cases hnow : time + min (rhythm.rest s.succeeded) longestWait ≤ m.now
    · have hstep : l.step m site = ((l.cycle.run m site).1, l.took m (l.cycle.run m site).2) := by
        simp [l, Loop.step, scriptedLoop, Poller.loop, hcut, hnow]
      have hlast : ∀ s' ∈ (s :: earlier).head?, ∃ time, s'.ended = some time ∧
          m.now = time + min (rhythm.rest s'.succeeded) longestWait := by
        intro s' hs'
        cases hs'
        exact ⟨time, hended, Nat.le_antisymm hwake hnow⟩
      obtain ⟨hkept, hlooked⟩ := begin_spec hrest hscript hhistory horderly hlast l.stage
      rw [hstep]
      rw [hcut] at hkept
      exact ⟨_, .begins (Or.inr hcut), hkept, hlooked⟩
    · have hstep : l.step m site = (site, l) := by
        simp [l, Loop.step, scriptedLoop, Poller.loop, hcut, hnow]
      rw [hstep]
      refine ⟨s :: earlier, .idle, hidle ?_⟩
      intro wake h
      cases h
      exact Nat.lt_of_not_le hnow

/-- **One step of the loop** leads from one record to the next. -/
theorem Kept.step (hrest : ∀ succeeded, 0 < rhythm.rest succeeded)
    (h : Kept rhythm token before (m.cancelled token) spans l site)
    (hbegun : ∀ s ∈ spans.head?, s.begun ≤ m.now)
    (hpunctual : ∀ wake, l.wake? = some wake → m.now ≤ wake) :
    ∃ spans', Next m token site.cycles.next.2 spans spans' ∧
      Kept rhythm token before (m.cancelled token) spans' (l.step m site).2 (l.step m site).1 ∧
      Looked rhythm token m spans' (l.step m site).2 := by
  obtain ⟨hloop, hfresh, hstage, hscript, hhistory, horderly⟩ := h
  cases spans with
  | nil =>
    rw [hfresh rfl] at hloop
    rw [hloop]
    have hlast : ∀ s ∈ ([] : List Span).head?, ∃ time, s.ended = some time ∧
        m.now = time + min (rhythm.rest s.succeeded) longestWait := by
      intro s hs
      cases hs
    obtain ⟨hkept, hlooked⟩ := begin_spec hrest hscript hhistory horderly hlast .ready
    exact ⟨_, .begins (Or.inl rfl), hkept, hlooked⟩
  | cons s earlier =>
    obtain ⟨looked, hlstage, hcancelled⟩ := hstage s earlier rfl
    rw [hlstage] at hloop
    rw [hloop] at hpunctual ⊢
    cases hended : s.ended with
    | none =>
      have hworking : s.stage rhythm token looked = .working (s.rest token) := by
        simp only [Span.stage, hended]
      rw [hworking] at hpunctual ⊢
      have hdue : s.cycle.untilCancelled = false → m.now ≤ s.due := by
        intro huntil
        refine hpunctual s.due ?_
        simp [Loop.wake?, scriptedLoop, Span.rest, huntil, Suspension.wake?]
      exact working_spec hrest hscript hhistory horderly hended (hbegun s rfl) hdue _
    | some time =>
      cases looked with
      | true =>
        have hnever : s.ended = none → s.isOver m token = false := by
          intro hnone
          rw [hended] at hnone
          cases hnone
        have hidle := kept_looked hscript hhistory horderly hnever
        rw [hcancelled rfl, stage_over hended] at hidle
        rw [hcancelled rfl, stage_over hended]
        refine ⟨s :: earlier, .idle, hidle ?_⟩
        intro wake hwake
        cases hwake
      | false =>
        rw [stage_resting hended] at hpunctual ⊢
        exact resting_spec hrest hscript hhistory horderly hended (hpunctual _ rfl)

end Step

end ValidatorAlarm
