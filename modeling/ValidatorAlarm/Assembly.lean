import ValidatorAlarm.Closing
import ValidatorAlarm.Folder
import ValidatorAlarm.Identity.File
import ValidatorAlarm.Settings
import ValidatorAlarm.Watch

/-!
# Assembly

Puts everything together that the settings ask for, and starts it (`start_monitoring`): first the
fanout (`create_fanout`), then the self-checks (`create_status_handler`), then the monitors in their
order (`create_bls_keys_monitor`).  A loop starts as soon as its poller is complete.  If something
further on cannot be put together, the loops that were started before are cancelled, so that nothing
keeps running that nobody owns.

Each poller has a signal of its own: the self-checks the first one, and each monitor the one behind
its predecessor.
-/
namespace ValidatorAlarm

/-- Why something could not be put together: the fault, and what was being done, the outermost
first. -/
structure AssemblyFault where
  cause : Fault
  context : List String
deriving DecidableEq, Repr

namespace AssemblyFault

def plain (cause : Fault) : AssemblyFault := ⟨cause, []⟩

/-- A fault that came up while something was being done. -/
def during (context : String) (fault : AssemblyFault) : AssemblyFault :=
  { fault with context := context :: fault.context }

end AssemblyFault

/-- The running application. -/
structure Monitoring where
  fanout : Fanout
  reporter : Reporter
  /-- The closer of the self-checks and then those of the monitors. -/
  closers : List Closer

namespace Assembly

def withContext {α : Type} (context : String) (result : Except Fault α) : Except AssemblyFault α :=
  result.mapError fun cause => ⟨cause, [context]⟩

def bare {α : Type} (result : Except Fault α) : Except AssemblyFault α := result.mapError .plain

def enabled {α : Type} (isOn : Bool) (items : List α) : List α := if isOn then items else []

/-- The channels that the settings ask for: the log, and then one for each account of the channels
that are switched on. -/
def channels (s : Settings) : List Channel :=
  [.log] ++
    enabled s.outputs.pushover.enabled
      (s.credentials.pushover.map fun a => .pushover a.token a.recipient) ++
    enabled s.outputs.mail.enabled [.mail s.credentials.mail.address s.outputs.mail.recipient] ++
    enabled s.outputs.telegram.enabled
      (s.credentials.telegram.map fun a => .telegram a.token a.recipient) ++
    enabled s.outputs.slack.enabled (s.credentials.slack.map fun secret => .slack secret)

def fanout (s : Settings) : Except AssemblyFault Fanout :=
  withContext "creating notification fanout"
    (Fanout.make (channels s) s.outputs.retries (.ofSeconds s.outputs.retryDelay))

def checkToken : Token := 0

def monitorToken (position : Nat) : Token := position + 1

def checkPlan (s : SelfCheckSettings) : CheckPlan :=
  ⟨s.day, s.hour, s.minute, .ofSeconds s.interval⟩

def checkPoller (s : GeneralSettings) (reporter : Reporter) : Except AssemblyFault (Poller Site) := do
  let plan := checkPlan s.selfChecks
  let day ← bare (TargetDay.parse plan.day)
  let appointment ← withContext "creating self-check trigger" (plan.appointment reporter day)
  withContext "creating self-check poller" (plan.poller s.name checkToken appointment)

/-- The poller of a monitor.  A poller might do with a shorter interval than a monitor. -/
def monitorPoller (files : Files) (snooze : SnoozeSettings) (fanout : Fanout) (reporter : Reporter)
    (position : Nat) (s : MonitorSettings) : Except AssemblyFault (Poller Site) := do
  let roster ← withContext ("reading " ++ s.roster) (Roster.ofFile s.roster (files s.roster))
  let tolerance ← bare (tolerance? s.tolerance)
  let monitor : Monitor := {
    position := position
    name := s.name
    explorer := s.explorer
    check := ratingsCheck tolerance roster.keys
    accounts := roster.accounts
    queryPause := .ofSeconds 1
    snooze := snooze.rule
    reporter := reporter
    fanout := fanout }
  let interval : Duration := .ofSeconds s.interval
  if interval < .ofSeconds 1 then
    .error (.plain (.invalidInterval interval (.ofSeconds 1)))
  else
    bare (Poller.make (monitorToken position) (some s.name) (some monitor.cycle) (some interval)
      (some (.ofSeconds 10)))

/-- Starts a poller that is complete. -/
def launch (poller : Except AssemblyFault (Poller Site)) (a : Agenda Site) :
    Except AssemblyFault (Poller Site × Agenda Site) := do
  bare ((← poller).start a)

/-- The reporter, and the closer of its self-checks, which have been started. -/
def startReporter (s : GeneralSettings) (fanout : Fanout) (a : Agenda Site) :
    Except AssemblyFault (Reporter × Closer × Agenda Site) :=
  if s.selfChecks.enabled then do
    let reporter : Reporter := .on s.name fanout
    let (poller, a) ← launch (checkPoller s reporter) a
    return (reporter, .poller poller.token, a)
  else .ok (.off, .nothing, a)

/-- Starts the monitors from a position on.  If one of them cannot be started, those that were are
closed again. -/
def startMonitors (files : Files) (snooze : SnoozeSettings) (fanout : Fanout) (reporter : Reporter) :
    Nat → List MonitorSettings → Agenda Site → Agenda Site × Except AssemblyFault (List Closer)
  | _, [], a => (a, .ok [])
  | position, s :: rest, a =>
    match launch (monitorPoller files snooze fanout reporter position s) a with
    | .error fault => (a, .error (fault.during ("creating monitor " ++ Text.Quoted.text s.name)))
    | .ok (poller, a) =>
      match startMonitors files snooze fanout reporter (position + 1) rest a with
      | (a, .ok closers) => (a, .ok (.poller poller.token :: closers))
      | (a, .error fault) => (poller.close a, .error fault)

/-- Puts everything together and starts it. -/
def start (s : Settings) (files : Files) (a : Agenda Site) :
    Agenda Site × Except AssemblyFault Monitoring :=
  match fanout s with
  | .error fault => (a, .error fault)
  | .ok fanout =>
    match startReporter s.general fanout a with
    | .error fault => (a, .error fault)
    | .ok (reporter, checks, a) =>
      match startMonitors files s.general.snooze fanout reporter 0 s.monitors a with
      | (a, .ok closers) => (a, .ok ⟨fanout, reporter, checks :: closers⟩)
      | (a, .error fault) => ((checks.close 0 a).1, .error fault)

/-- The assembly, opened as a whole: at given settings the two sides would be compared by evaluating the
test of the retry delay, digit by digit. -/
theorem start_eq : start = fun s files a =>
    match fanout s with
    | .error fault => (a, .error fault)
    | .ok fanout =>
      match startReporter s.general fanout a with
      | .error fault => (a, .error fault)
      | .ok (reporter, checks, a) =>
        match startMonitors files s.general.snooze fanout reporter 0 s.monitors a with
        | (a, .ok closers) => (a, .ok ⟨fanout, reporter, checks :: closers⟩)
        | (a, .error fault) => ((checks.close 0 a).1, .error fault) := rfl

end Assembly

end ValidatorAlarm
