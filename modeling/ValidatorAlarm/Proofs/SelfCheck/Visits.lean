import ValidatorAlarm.Appointment
import ValidatorAlarm.Poller
import ValidatorAlarm.Proofs.Calendar.Minute
import ValidatorAlarm.Proofs.Poller.Making
import ValidatorAlarm.Proofs.Timeline.Notes
import ValidatorAlarm.Proofs.Timeline.Passing
import ValidatorAlarm.Proofs.Timeline.Sequence

/-!
# The visits of an appointment

A poller attends an appointment again and again.  Here notes are kept of its visits, the last first:
when the clock was looked at, whether the work was due, and when the visit ended.  A visit in which
nothing is due ends at once; one in which the work is done lasts as long as the work; and the next one
begins when the loop has rested.

So the notes say where the loop stands.  They say as well whether the trigger is armed, as long as the
work leaves the trigger and the clock alone: it is unless the last look was within the target minute.
-/
namespace ValidatorAlarm

/-- A look at the clock, with the work if it was due. -/
structure Visit where
  time : Nat
  /-- The work was due, and has begun. -/
  fired : Bool
  /-- The time of the end; none as long as the work goes on. -/
  ended : Option Nat
deriving DecidableEq, Repr

namespace Visit

/-- The last visit ends. -/
def close (now : Nat) : List Visit → List Visit
  | [] => []
  | v :: earlier => { v with ended := some now } :: earlier

/-- Does the next look within the target minute fire? -/
def armed (target : Target) (clock : Nat → Instant) : List Visit → Bool
  | [] => true
  | v :: _ => !target.includes (clock v.time)

/-- The time of the next visit, if it is known. -/
def due (rest first : Nat) : List Visit → Option Nat
  | [] => some first
  | v :: _ => v.ended.map (· + rest)

/-- A visit begins when it is due after the earlier ones, and fires if it is the first look within the
target minute. -/
structure Comes (target : Target) (clock : Nat → Instant) (rest first : Nat) (v : Visit)
    (earlier : List Visit) : Prop where
  due : due rest first earlier = some v.time
  fired : v.fired = (target.includes (clock v.time) && armed target clock earlier)

/-- The visits follow each other, and those without work end at once. -/
def Orderly (target : Target) (clock : Nat → Instant) (rest first : Nat) : List Visit → Prop
  | [] => True
  | v :: earlier =>
    v.Comes target clock rest first earlier ∧ (v.fired = false → v.ended = some v.time) ∧
    (∀ time, v.ended = some time → v.time ≤ time) ∧ Orderly target clock rest first earlier

end Visit

namespace Appointment

/-- What a visit does after its look at the clock. -/
def respond (a : Appointment) (token : Token) (fired : Bool) : Work (Except Fault Unit) :=
  if fired then a.work token else return .ok ()

/-- Attends the appointment, with a note of the visit. -/
def visit (a : Appointment) (token : Token) : Task (Noted Site Visit) (Except Fault Unit) := do
  let m ← Task.moment
  let fired ← Noted.lift <| Task.update fun s =>
    let (trigger, fired) := s.trigger.look a.target (s.clock m.now)
    ({ s with trigger := trigger }, fired)
  Noted.jot fun m visits => ⟨m.now, fired, none⟩ :: visits
  let result ← Noted.lift (a.respond token fired)
  Noted.jot fun m visits => Visit.close m.now visits
  return result

theorem visit_follows (a : Appointment) (token : Token) :
    (a.visit token).Follows Noted.state (a.attend token) := by
  refine .bind (.look fun m _ => .done m) fun m => .bind (Noted.lift_follows _) fun fired => ?_
  apply Noted.jot_bind_follows
  rw [← Task.bind_done (if fired = true then a.work token else pure (Except.ok ()))]
  exact .bind (Noted.lift_follows _) fun result => Noted.jot_bind_follows (.done result)

end Appointment

/-! ### Where the loop stands -/

/-- A frame for work that leaves the trigger and the clock alone. -/
def Frame.clockwork : Frame Site := .fixed fun s => (s.trigger, s.start)

section Attending

variable {appointment : Appointment} {token : Token} {rest first : Nat} {before : Site}
  {l : Loop (Noted Site Visit)} {n : Noted Site Visit} {m : Moment}

/-- What is left to do when the work of a visit has ended. -/
def Visit.finish (result : Except Fault Unit) : Task (Noted Site Visit) Bool :=
  (Noted.jot fun m visits => Visit.close m.now visits).bind fun _ => .done result.toBool

/-- The loop stands where the visits say. -/
def Visit.Stands (rest : Nat) (stage : Stage (Noted Site Visit)) : List Visit → Prop
  | [] => stage = .ready
  | v :: _ =>
    match v.ended with
    | some time => stage = .resting (time + rest)
    | none => ∃ work : Suspension (Noted Site Visit) (Except Fault Unit),
      work.Keeps Frame.clockwork.beside ∧ stage = .working (work.andThen Visit.finish)

/-- The loop attends the appointment. -/
structure Attends (appointment : Appointment) (token : Token) (rest : Nat)
    (l : Loop (Noted Site Visit)) : Prop where
  cycle : l.cycle = (appointment.visit token).bind fun result => .done result.toBool
  signal : l.token = token
  rests : ∀ succeeded, min (l.rest succeeded) longestWait = rest

/-- The clock runs as before, and the trigger is armed as the visits say. -/
structure Watched (appointment : Appointment) (before : Site) (n : Noted Site Visit) : Prop where
  start : n.state.start = before.start
  trigger : n.state.trigger = ⟨Visit.armed appointment.target before.clock n.notes⟩

/-- The loop and the site are where the visits say. -/
structure Attending (appointment : Appointment) (token : Token) (rest first : Nat) (before : Site)
    (l : Loop (Noted Site Visit)) (n : Noted Site Visit) : Prop where
  attends : Attends appointment token rest l
  watched : Watched appointment before n
  orderly : Visit.Orderly appointment.target before.clock rest first n.notes
  stage : Visit.Stands rest l.stage n.notes

/-- The loop has just looked, and what is still to come lies ahead. -/
structure Attended (appointment : Appointment) (token : Token) (rest first : Nat) (before : Site)
    (m : Moment) (l : Loop (Noted Site Visit)) (n : Noted Site Visit) : Prop where
  attending : Attending appointment token rest first before l n
  last : ∃ v earlier, n.notes = v :: earlier ∧ v.time ≤ m.now
  ahead : ∀ wake, l.wake? = some wake → m.now < wake

/-! ### One step of the loop -/

theorem clock_eq {s : Site} (h : s.start = before.start) : s.clock = before.clock := by
  funext now
  rw [Site.clock, Site.clock, h]

/-- What does not touch the trigger, the clock and the notes. -/
theorem Watched.keep {n' : Noted Site Visit} (h : Watched appointment before n)
    (hallows : Frame.clockwork.beside.Allows n n') : Watched appointment before n' := by
  obtain ⟨hclockwork, hnotes⟩ := hallows
  obtain ⟨htrigger, hstart⟩ := Prod.mk.inj hclockwork
  exact ⟨hstart.trans h.start, by rw [hnotes, htrigger, h.trigger]⟩

/-- The note of an end does not say anything about the trigger. -/
theorem Watched.close (h : Watched appointment before n) (now : Nat) :
    Watched appointment before { n with notes := Visit.close now n.notes } := by
  refine ⟨h.start, h.trigger.trans ?_⟩
  cases n.notes <;> rfl

/-- The loop has looked at the clock, and the visit of this look is not over. -/
structure Visiting (appointment : Appointment) (rest first : Nat) (before : Site) (m : Moment)
    (v : Visit) (earlier : List Visit) (n : Noted Site Visit) : Prop where
  watched : Watched appointment before n
  notes : n.notes = v :: earlier
  comes : v.Comes appointment.target before.clock rest first earlier
  earlier : Visit.Orderly appointment.target before.clock rest first earlier
  running : v.ended = none
  begun : v.time ≤ m.now

namespace Visiting

variable {v : Visit} {earlier : List Visit}

theorem keep {n' : Noted Site Visit} (h : Visiting appointment rest first before m v earlier n)
    (hallows : Frame.clockwork.beside.Allows n n') :
    Visiting appointment rest first before m v earlier n' :=
  ⟨h.watched.keep hallows, hallows.2.trans h.notes, h.comes, h.earlier, h.running, h.begun⟩

/-- When its work has ended, the visit is over, and the loop rests. -/
theorem finish (h : Visiting appointment rest first before m v earlier n)
    (hl : Attends appointment token rest l) (hrest : 0 < rest) (hopen : m.cancelled token = false)
    (hquick : v.fired = false → m.now = v.time) (succeeded : Bool) :
    Attended appointment token rest first before m (l.took m (.finished succeeded))
      { n with notes := Visit.close m.now n.notes } := by
  have hclosed : Visit.close m.now n.notes = { v with ended := some m.now } :: earlier := by
    rw [h.notes, Visit.close]
  have hloop : l.took m (.finished succeeded) = { l with stage := .resting (m.now + rest) } := by
    rw [Loop.took, hl.signal, hopen, if_neg Bool.false_ne_true, Moment.after, hl.rests]
  rw [hloop]
  refine ⟨⟨⟨hl.cycle, hl.signal, hl.rests⟩, h.watched.close m.now, ?_, ?_⟩, ?_, ?_⟩
  · rw [hclosed]
    refine ⟨⟨h.comes.due, h.comes.fired⟩, ?_, ?_, h.earlier⟩
    · intro hunfired
      exact congrArg some (hquick hunfired)
    · intro time htime
      cases htime
      exact h.begun
  · rw [hclosed]
    rfl
  · exact ⟨_, earlier, hclosed, h.begun⟩
  · intro wake hwake
    cases hwake
    omega

/-- As long as its work waits, the visit goes on. -/
theorem wait (h : Visiting appointment rest first before m v earlier n)
    (hl : Attends appointment token rest l) (hfired : v.fired = true)
    {work : Suspension (Noted Site Visit) (Except Fault Unit)}
    (hwork : work.Keeps Frame.clockwork.beside) (hahead : ∀ wake, work.wake? = some wake → m.now < wake) :
    Attended appointment token rest first before m
      { l with stage := .working (work.andThen Visit.finish) } n := by
  refine ⟨⟨⟨hl.cycle, hl.signal, hl.rests⟩, h.watched, ?_, ?_⟩, ?_, ?_⟩
  · rw [h.notes]
    refine ⟨h.comes, ?_, ?_, h.earlier⟩
    · intro hunfired
      rw [hfired] at hunfired
      cases hunfired
    · intro time htime
      rw [h.running] at htime
      cases htime
  · rw [h.notes, Visit.Stands]
    simp only [h.running]
    exact ⟨work, hwork, rfl⟩
  · exact ⟨v, earlier, h.notes, h.begun⟩
  · intro wake hwake
    apply hahead wake
    cases work <;> exact hwake

/-- The work of the visit has got this far; it has ended already if nothing was due. -/
theorem took (h : Visiting appointment rest first before m v earlier n)
    (hl : Attends appointment token rest l) (hrest : 0 < rest) (hopen : m.cancelled token = false)
    {got : Noted Site Visit × Progress (Noted Site Visit) (Except Fault Unit)}
    (hgot : Progress.Keeps Frame.clockwork.beside m n got)
    (hquick : v.fired = false → m.now = v.time ∧ ∃ result, got.2 = .finished result) :
    Attended appointment token rest first before m
      (l.took m (Progress.andThen m Visit.finish got).2) (Progress.andThen m Visit.finish got).1 := by
  obtain ⟨n', result | work⟩ := got
  · exact (h.keep hgot).finish hl hrest hopen (fun hunfired => (hquick hunfired).1) result.toBool
  · obtain ⟨hallows, hwork, hahead⟩ := hgot
    have hfired : v.fired = true := by
      rw [← Bool.not_eq_false]
      intro hunfired
      obtain ⟨-, result, hfinished⟩ := hquick hunfired
      cases hfinished
    exact (h.keep hallows).wait hl hfired hwork hahead

end Visiting

/-- The state and the notes of a visit whose look has taken place. -/
def Appointment.looked (a : Appointment) (m : Moment) (n : Noted Site Visit) : Noted Site Visit where
  state := { n.state with trigger := (n.state.trigger.look a.target (n.state.clock m.now)).1 }
  notes := ⟨m.now, (n.state.trigger.look a.target (n.state.clock m.now)).2, none⟩ :: n.notes

theorem run_visit (appointment : Appointment) (token : Token) (m : Moment) (n : Noted Site Visit) :
    ((appointment.visit token).bind fun result => .done result.toBool).run m n =
      Progress.andThen m Visit.finish
        ((Noted.lift (appointment.respond token
          (n.state.trigger.look appointment.target (n.state.clock m.now)).2)).run m
            (appointment.looked m n)) := by
  change (((Noted.lift (appointment.respond token _)).bind _).bind _).run m
    (appointment.looked m n) = _
  rw [Task.bind_assoc, Task.run_bind]
  rfl

theorem respond_keeps (hwork : ∀ token, (appointment.work token).Keeps Frame.clockwork) (token : Token)
    (fired : Bool) : (appointment.respond token fired).Keeps Frame.clockwork := by
  cases fired with
  | false => trivial
  | true => exact hwork token

/-- A visit begins when it is due. -/
theorem attended_begin (hwork : ∀ token, (appointment.work token).Keeps Frame.clockwork)
    (hl : Attends appointment token rest l) (hrest : 0 < rest) (hopen : m.cancelled token = false)
    (hn : Watched appointment before n)
    (horderly : Visit.Orderly appointment.target before.clock rest first n.notes)
    (hdue : Visit.due rest first n.notes = some m.now) :
    Attended appointment token rest first before m (l.took m (l.cycle.run m n).2)
      (l.cycle.run m n).1 := by
  have hlook : n.state.trigger.look appointment.target (n.state.clock m.now) =
      (⟨!appointment.target.includes (before.clock m.now)⟩,
        appointment.target.includes (before.clock m.now) &&
          Visit.armed appointment.target before.clock n.notes) := by
    rw [look_eq, clock_eq hn.start, hn.trigger]
  have hlooked : Watched appointment before (appointment.looked m n) := by
    refine ⟨hn.start, ?_⟩
    rw [Appointment.looked, hlook]
    rfl
  have hgot := (Noted.lift_keeps (respond_keeps hwork token
    (n.state.trigger.look appointment.target (n.state.clock m.now)).2)).run m (appointment.looked m n)
  have hvisiting : Visiting appointment rest first before m
      ⟨m.now, (n.state.trigger.look appointment.target (n.state.clock m.now)).2, none⟩ n.notes
      (appointment.looked m n) := by
    refine ⟨hlooked, rfl, ⟨hdue, ?_⟩, horderly, rfl, Nat.le_refl m.now⟩
    rw [hlook]
  rw [hl.cycle, run_visit]
  refine hvisiting.took hl hrest hopen hgot ?_
  intro hunfired
  refine ⟨rfl, .ok (), ?_⟩
  rw [show (n.state.trigger.look appointment.target (n.state.clock m.now)).2 = false from hunfired]
  rfl

/-- **One step of the loop** goes on with the last visit, or begins the next one when it is due. -/
theorem Attending.step (hwork : ∀ token, (appointment.work token).Keeps Frame.clockwork)
    (hrest : 0 < rest) (h : Attending appointment token rest first before l n)
    (hopen : m.cancelled token = false) (hfresh : n.notes = [] → m.now = first)
    (hbegun : ∀ v ∈ n.notes.head?, v.time ≤ m.now)
    (hpunctual : ∀ wake, l.wake? = some wake → m.now ≤ wake) :
    Attended appointment token rest first before m (l.step m n).2 (l.step m n).1 := by
  obtain ⟨hattends, hwatched, horderly, hstage⟩ := h
  have hbegin := attended_begin hwork hattends hrest hopen hwatched horderly
  cases hnotes : n.notes with
  | nil =>
    rw [hnotes] at hstage
    -- the first visit is due as soon as the loop is ready
    have hready : l.stage = .ready := hstage
    rw [Loop.step, hready]
    apply hbegin
    rw [hnotes, hfresh hnotes]
    rfl
  | cons v earlier =>
    rw [hnotes, Visit.Stands] at hstage
    cases hended : v.ended with
    | none =>
      -- the last visit goes on
      simp only [hended] at hstage
      obtain ⟨work, hkeeps, hworking⟩ := hstage
      rw [hnotes] at horderly hbegun
      obtain ⟨hcomes, hquick, -, hearlier⟩ := horderly
      have hvisiting : Visiting appointment rest first before m v earlier n :=
        ⟨hwatched, hnotes, hcomes, hearlier, hended, hbegun v rfl⟩
      rw [Loop.step, hworking]
      simp only [Suspension.resume_andThen]
      refine hvisiting.took hattends hrest hopen (hkeeps.resume m n) ?_
      intro hunfired
      rw [hquick hunfired] at hended
      cases hended
    | some time =>
      -- the loop rests; no step comes later than the end of the rest
      simp only [hended] at hstage
      have hwake := hpunctual (time + rest) (by rw [Loop.wake?, hstage])
      rw [Loop.step, hstage]
      simp only [hattends.signal, hopen, Bool.false_eq_true, if_false]
      split
      · rename_i hdue
        apply hbegin
        rw [hnotes, Visit.due, hended, Nat.le_antisymm hwake hdue]
        rfl
      · rename_i hearly
        refine ⟨⟨hattends, hwatched, horderly, ?_⟩, ?_, ?_⟩
        · rw [hnotes, Visit.Stands]
          simp only [hended]
          exact hstage
        · exact ⟨v, earlier, hnotes, hbegun v (by rw [hnotes]; rfl)⟩
        · intro wake hwake'
          rw [Loop.wake?, hstage] at hwake'
          cases hwake'
          exact Nat.lt_of_not_le hearly

end Attending

/-! ### While time passes -/

section Vigil

variable {appointment : Appointment} {token : Token} {rest first : Nat} {before : Site}
  {a : Agenda (Noted Site Visit)}

/-- Nothing but this loop is on the agenda, and it is not closed. -/
structure Vigil (appointment : Appointment) (token : Token) (rest first : Nat) (before : Site)
    (a : Agenda (Noted Site Visit)) : Prop where
  planned : a.planned = []
  opened : a.moment.cancelled token = false
  loop : ∃ l, a.loops = [l] ∧ Attending appointment token rest first before l a.state
  fresh : a.state.notes = [] → a.now = first
  begun : ∀ v ∈ a.state.notes.head?, v.time ≤ a.now
  punctual : a.Punctual

/-- The same after all that is due now has taken place. -/
structure Vigil.Settled (appointment : Appointment) (token : Token) (rest first : Nat)
    (before : Site) (a : Agenda (Noted Site Visit)) : Prop where
  planned : a.planned = []
  opened : a.moment.cancelled token = false
  loop : ∃ l, a.loops = [l] ∧ Attended appointment token rest first before a.moment l a.state

theorem Vigil.settle (hwork : ∀ token, (appointment.work token).Keeps Frame.clockwork)
    (hrest : 0 < rest) (h : Vigil appointment token rest first before a) :
    Vigil.Settled appointment token rest first before a.settle := by
  obtain ⟨l, hloops, hattending⟩ := h.loop
  have hpunctual : ∀ wake, l.wake? = some wake → a.now ≤ wake :=
    h.punctual.2 l (by rw [hloops]; exact List.mem_singleton_self l)
  have hattended := hattending.step hwork hrest h.opened h.fresh h.begun hpunctual
  rw [Agenda.settle_single hloops, Agenda.cancelDue_eq h.planned]
  exact ⟨h.planned, h.opened, _, rfl, hattended⟩

theorem Vigil.Settled.ahead (h : Vigil.Settled appointment token rest first before a) : a.Ahead := by
  obtain ⟨l, hloops, hattended⟩ := h.loop
  constructor
  · intro e he
    rw [h.planned] at he
    cases he
  · intro l' hl' wake hwake
    rw [hloops, List.mem_singleton] at hl'
    rw [hl'] at hwake
    exact hattended.ahead wake hwake

theorem Vigil.Settled.jump (h : Vigil.Settled appointment token rest first before a) {time : Nat}
    (hnow : a.now ≤ time) (htime : ∀ next, a.nextTime? = some next → time ≤ next) :
    Vigil appointment token rest first before { a with now := time } := by
  have hpunctual := h.ahead.jump htime
  obtain ⟨hplanned, hopened, l, hloops, hattending, ⟨v, earlier, hnotes, hbegun⟩, -⟩ := h
  refine ⟨hplanned, hopened, ⟨l, hloops, hattending⟩, ?_, ?_, hpunctual⟩
  · intro hfresh
    rw [hnotes] at hfresh
    cases hfresh
  · intro v' hv'
    rw [hnotes] at hv'
    cases hv'
    exact Nat.le_trans hbegun hnow

/-- Time that passes leads from visit to visit. -/
theorem Vigil.advance (hwork : ∀ token, (appointment.work token).Keeps Frame.clockwork)
    (hrest : 0 < rest) (h : Vigil appointment token rest first before a) (ms : Nat) :
    Vigil.Settled appointment token rest first before (a.advance ms) :=
  Agenda.advance_keeps (fun _ h => h.settle hwork hrest) (fun _ _ h => h.jump) ms h

/-- Between two orders of the owner: before the first visit, or after a look of the loop. -/
def Vigil.Pauses (appointment : Appointment) (token : Token) (rest first : Nat) (before : Site)
    (a : Agenda (Noted Site Visit)) : Prop :=
  (Vigil appointment token rest first before a ∧ a.state.notes = []) ∨
    Vigil.Settled appointment token rest first before a

theorem Vigil.Pauses.advance (hwork : ∀ token, (appointment.work token).Keeps Frame.clockwork)
    (hrest : 0 < rest) (h : Vigil.Pauses appointment token rest first before a) (ms : Nat) :
    Vigil.Pauses appointment token rest first before (a.advance ms) := by
  rcases h with ⟨hvigil, -⟩ | hsettled
  · exact Or.inr (hvigil.advance hwork hrest ms)
  · refine Or.inr (Vigil.advance hwork hrest ?_ ms)
    refine hsettled.jump (Nat.le_refl a.now) ?_
    intro next hnext
    have hmem := (List.min?_eq_some_iff.mp hnext).1
    have hlater : a.now < next := by simpa using (List.mem_filter.mp hmem).2
    exact Nat.le_of_lt hlater

/-- The last visit is over for less than the rest of the loop, or still goes on. -/
theorem Vigil.Settled.last (h : Vigil.Settled appointment token rest first before a) :
    ∃ v earlier, a.state.notes = v :: earlier ∧ v.time ≤ a.now ∧
      (∀ time, v.ended = some time → a.now < time + rest) ∧
      Visit.Orderly appointment.target before.clock rest first (v :: earlier) := by
  obtain ⟨-, -, l, -, ⟨-, -, horderly, hstage⟩, ⟨v, earlier, hnotes, hbegun⟩, hahead⟩ := h
  rw [hnotes] at horderly hstage
  refine ⟨v, earlier, hnotes, hbegun, ?_, horderly⟩
  intro time hended
  rw [Visit.Stands] at hstage
  simp only [hended] at hstage
  apply hahead
  rw [Loop.wake?, hstage]

end Vigil

end ValidatorAlarm
