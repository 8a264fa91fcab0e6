import ValidatorAlarm.Poller
import ValidatorAlarm.SelfCheck

/-!
# Closing down

Whatever runs in the background has a closer.  The `shutdown` of a `Monitoring` first announces the
end of the application, with all the retries that a delivery may take, then leaves the cycles that
are running some time to end, and then closes everything, in order and at one moment.  A closer that
fails does not keep the others from being closed.
-/
namespace ValidatorAlarm

inductive Closer where
  /-- Closes the poller with this signal. -/
  | poller (token : Token)
  /-- Has nothing to close. -/
  | nothing
  /-- Notes that it was called, and has the given result. -/
  | scripted (result : Except Fault Unit)

namespace Closer

/-- Calls the closer at the given position. -/
def close (index : Nat) (a : Agenda Site) : Closer → Agenda Site × Except Fault Unit
  | .poller token => (a.cancel token, .ok ())
  | .nothing => (a, .ok ())
  | .scripted result => ({ a with state := a.state.note (.closed index) a.moment }, result)

/-- Calls all closers, the first at the given position. -/
def closeAllFrom : Nat → List Closer → Agenda Site → Agenda Site
  | _, [], a => a
  | index, closer :: rest, a => closeAllFrom (index + 1) rest (closer.close index a).1

def closeAll (closers : List Closer) (a : Agenda Site) : Agenda Site := closeAllFrom 0 closers a

end Closer

/-- The time that running cycles are left. -/
def gracePeriod : Duration := .ofSeconds 5

/-- What a shutdown does before it closes anything. -/
def takeLeave (reporter : Reporter) : Work Unit := do
  reporter.announceEnd
  Task.sleep gracePeriod.milliseconds

def shutdown (reporter : Reporter) (closers : List Closer) (a : Agenda Site) : Agenda Site :=
  Closer.closeAll closers (a.perform (takeLeave reporter)).1

end ValidatorAlarm
