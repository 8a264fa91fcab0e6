import ValidatorAlarm.Delivery.Fanout

/-!
# Self-checks

A reporter, the `StatusHandler`, counts what goes wrong and tells it in a self-check: one message
about errors of the application and one about keys that raised an alarm, then the counts start again
from zero.  It also announces the start and the end of the application.  A reporter that is switched
off, the `DisabledStatusHandler`, neither counts nor tells anything.
-/
namespace ValidatorAlarm

inductive Reporter where
  | off
  | on (name : String) (fanout : Fanout)
deriving DecidableEq, Repr

namespace Reporter

/-- Changes the counts, if the reporter counts. -/
def changeTally (reporter : Reporter) (f : Tally → Tally) : Work Unit :=
  match reporter with
  | .off => pure ()
  | .on _ _ => Task.change fun s => { s with tally := f s.tally }

def countError (reporter : Reporter) : Work Unit := reporter.changeTally .countError

/-- Counts the keys of an alarm. -/
def collect (reporter : Reporter) (messages : List Message) : Work Unit :=
  reporter.changeTally (·.collect messages)

/-- An error is counted on its way to the caller. -/
def counted {α : Type} (reporter : Reporter) (result : Except Fault α) : Work (Except Fault α) :=
  match result with
  | .ok a => pure (.ok a)
  | .error fault => do
    reporter.countError
    return .error fault

def errorsMessage (name : String) (count : Nat) : Message :=
  if count = 0 then { Message.blank .info name with category := "No application errors occurred" }
  else { Message.blank .warning name with
    shortIdentityKey :=
      toString count ++ " application error(s) occurred, please check the app logs" }

def keysMessage (name : String) (count : Nat) : Message :=
  if count = 0 then
    { Message.blank .info name with category := "All monitored keys are performing as expected" }
  else { Message.blank .warning name with
    shortIdentityKey := toString count ++ " monitored key(s) encountered problems" }

def report (name : String) (tally : Tally) : List Message :=
  [errorsMessage name tally.errors, keysMessage name tally.flagged.length]

/-- Tells something; whether it arrives makes no difference. -/
def tell (fanout : Fanout) (messages : List Message) : Work Unit := do
  let _ ← fanout.notify messages
  return ()

/-- Takes the counts, which start again from zero. -/
def drain : Work Tally := Task.update fun s => ({ s with tally := .empty }, s.tally)

def selfCheck : Reporter → Work Unit
  | .off => pure ()
  | .on name fanout => do
    let tally ← drain
    tell fanout (report name tally)

def announceStart (now : Instant) : Reporter → Work Unit
  | .off => pure ()
  | .on name fanout =>
    tell fanout [{ Message.blank .info name with category := "Application started on " ++ now.text }]

def announceEnd : Reporter → Work Unit
  | .off => pure ()
  | .on name fanout =>
    tell fanout [{ Message.blank .warning name with shortIdentityKey := "Application closing" }]

end Reporter

end ValidatorAlarm
