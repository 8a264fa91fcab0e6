import ValidatorAlarm.Site
import ValidatorAlarm.Timeline.Agenda

/-!
# Appointments

Work that is due in a target minute, as the `CalendarTrigger` runs the executor that it wraps.  It
is attended far more often than once a minute: the first look at the clock in a target minute does
the work, every other look does nothing and succeeds.
-/
namespace ValidatorAlarm

structure Appointment where
  target : Target
  /-- The work, which is told the signal of its cancellation. -/
  work : Token → Work (Except Fault Unit)

namespace Appointment

def make (work : Option (Token → Work (Except Fault Unit))) (day : TargetDay) (hour minute : Nat) :
    Except Fault Appointment :=
  match work with
  | none => .error (.missingPart "executor")
  | some work => (Target.make day hour minute).map fun target => ⟨target, work⟩

/-- Looks at the clock and does the work if it is due.  The trigger is disarmed before the work
begins, whatever comes of it. -/
def attend (a : Appointment) (token : Token) : Work (Except Fault Unit) := do
  let m ← Task.moment
  let fired ← Task.update fun s =>
    let (trigger, fired) := s.trigger.look a.target (s.clock m.now)
    ({ s with trigger := trigger }, fired)
  if fired then a.work token else return .ok ()

/-- Looks at a clock that shows the given instant: the site afterwards, whether the work was due, and
what came of it. -/
def attendAt (a : Appointment) (now : Instant) (site : Site) : Site × Bool × Except Fault Unit :=
  let due := (site.trigger.look a.target now).2
  let (agenda, result) := (Agenda.start { site with start := now }).perform (a.attend 0)
  (agenda.state, due, result.getD (.ok ()))

/-- Looks at the clock again and again, whenever it shows one of the given instants. -/
def attendAll (a : Appointment) : List Instant → Site → Site × List (Instant × Bool × Except Fault Unit)
  | [], site => (site, [])
  | now :: rest, site =>
    let (site, look) := a.attendAt now site
    let (site, looks) := attendAll a rest site
    (site, (now, look) :: looks)

end Appointment

end ValidatorAlarm
