import ValidatorAlarm.Appointment
import ValidatorAlarm.Monitor
import ValidatorAlarm.Poller

/-!
# A watch

One monitor at work: its poller, a reporter with a poller for its self-checks, and an operator who
can also run cycles and self-checks by hand, and give up on those cycles.
-/
namespace ValidatorAlarm

/-- When self-checks are due, as configured. -/
structure CheckPlan where
  day : String
  hour : Nat
  minute : Nat
  interval : Duration
deriving Repr

namespace CheckPlan

/-- The self-checks of a reporter as work that cannot fail. -/
def work (reporter : Reporter) (_ : Token) : Work (Except Fault Unit) := do
  reporter.selfCheck
  return .ok ()

def appointment (plan : CheckPlan) (reporter : Reporter) (day : TargetDay) :
    Except Fault Appointment :=
  Appointment.make (some (work reporter)) day plan.hour plan.minute

def poller (plan : CheckPlan) (name : String) (token : Token) (appointment : Appointment) :
    Except Fault (Poller Site) :=
  Poller.make token (some name) (some appointment.attend) (some plan.interval) (some plan.interval)

end CheckPlan

/-- A watch as configured. -/
structure WatchPlan where
  name : String
  explorer : String
  keys : List String
  tolerance : Double
  accounts : List Account
  queryPause : Duration
  snooze : SnoozeRule
  channels : List Channel
  retries : Nat
  retryDelay : Duration
  /-- The name of the reporter; none if it is switched off. -/
  reporter : Option String
  interval : Duration
  errorInterval : Option Duration
  selfChecks : Option CheckPlan

structure Watch where
  agenda : Agenda Site
  monitor : Monitor
  poller : Poller Site
  selfChecks : Option (Poller Site)
  /-- The signal for cycles run by hand. -/
  token : Token

namespace Watch

def pollerToken : Token := 0

/-- The signal of the poller for self-checks. -/
def checkToken : Token := 1

/-- The first signal for cycles run by hand. -/
def firstToken : Token := 2

def monitorOf (plan : WatchPlan) : Except Fault Monitor := do
  let fanout ← Fanout.make plan.channels plan.retries plan.retryDelay
  let tolerance ← tolerance? plan.tolerance
  return {
    position := 0
    name := plan.name
    explorer := plan.explorer
    check := ratingsCheck tolerance plan.keys
    accounts := plan.accounts
    queryPause := plan.queryPause
    snooze := plan.snooze
    reporter := match plan.reporter with
      | none => .off
      | some name => .on name fanout
    fanout := fanout }

def checkPollerOf (reporter : Reporter) (plan : CheckPlan) : Except Fault (Poller Site) := do
  let day ← TargetDay.parse plan.day
  let appointment ← plan.appointment reporter day
  plan.poller "" checkToken appointment

/-- Sets a watch up at a site. -/
def make (plan : WatchPlan) (site : Site) : Except Fault Watch := do
  let monitor ← monitorOf plan
  let poller ← Poller.make pollerToken (some plan.name) (some monitor.cycle) (some plan.interval)
    plan.errorInterval
  let selfChecks ← match plan.selfChecks with
    | none => pure none
    | some checks => some <$> checkPollerOf monitor.reporter checks
  return ⟨.start site, monitor, poller, selfChecks, firstToken⟩

/-- What an operator can order. -/
inductive Order where
  /-- Run a cycle. -/
  | cycle
  /-- Give up on the cycles run by hand. -/
  | cancel
  /-- Give up on them after a time. -/
  | cancelIn (ms : Nat)
  /-- Later cycles are not the ones that were given up. -/
  | renew
  | start
  | close
  | startSelfChecks
  | closeSelfChecks
  | selfCheck
  | announceStart
  | announceEnd
  /-- Let time pass. -/
  | advance (ms : Nat)
deriving DecidableEq, Repr

/-- Carries out work in the foreground. -/
def perform (w : Watch) (work : Work Unit) : Watch × Except Fault Unit :=
  ({ w with agenda := (w.agenda.perform work).1 }, .ok ())

/-- Carries out work in the foreground that may fail. -/
def attempt (w : Watch) (work : Work (Except Fault Unit)) : Watch × Except Fault Unit :=
  let (agenda, result) := w.agenda.perform work
  ({ w with agenda := agenda }, result.getD (.ok ()))

/-- Announces the start of the application by the clock of the site. -/
def announceStart (reporter : Reporter) : Work Unit := do
  let m ← Task.moment
  let s ← Task.state
  reporter.announceStart (s.clock m.now)

def carryOut (w : Watch) : Order → Watch × Except Fault Unit
  | .cycle => w.attempt (w.monitor.cycle w.token)
  | .cancel => ({ w with agenda := w.agenda.cancel w.token }, .ok ())
  | .cancelIn ms => ({ w with agenda := w.agenda.cancelLater ms w.token }, .ok ())
  | .renew => ({ w with token := w.token + 1 }, .ok ())
  | .start =>
    match w.poller.start w.agenda with
    | .error fault => (w, .error fault)
    | .ok (poller, agenda) => ({ w with poller := poller, agenda := agenda }, .ok ())
  | .close => ({ w with agenda := w.poller.close w.agenda }, .ok ())
  | .startSelfChecks =>
    match w.selfChecks with
    | none => (w, .ok ())
    | some checks =>
      match checks.start w.agenda with
      | .error fault => (w, .error fault)
      | .ok (checks, agenda) => ({ w with selfChecks := some checks, agenda := agenda }, .ok ())
  | .closeSelfChecks =>
    match w.selfChecks with
    | none => (w, .ok ())
    | some checks => ({ w with agenda := checks.close w.agenda }, .ok ())
  | .selfCheck => w.perform w.monitor.reporter.selfCheck
  | .announceStart => w.perform (announceStart w.monitor.reporter)
  | .announceEnd => w.perform w.monitor.reporter.announceEnd
  | .advance ms => ({ w with agenda := w.agenda.advance ms }, .ok ())

end Watch

end ValidatorAlarm
