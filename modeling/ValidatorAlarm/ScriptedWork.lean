import ValidatorAlarm.Site

/-!
# Scripted work

A worker whose cycles follow the script of the site.  It notes when a cycle begins, and whether its
signal was cancelled by then; some cycles take a while, and some wait for their cancellation.
-/
namespace ValidatorAlarm.ScriptedWork

def nextCycle : Work ScriptedCycle :=
  Task.update fun s => ({ s with cycles := s.cycles.next.1 }, s.cycles.next.2)

def result (cycle : ScriptedCycle) : Except Fault Unit :=
  if cycle.fails then .error (.undelivered 1) else .ok ()

def work (token : Token) : Work (Except Fault Unit) := do
  Work.note (.cycleBegun (← Task.isCancelled token))
  let cycle ← nextCycle
  if cycle.untilCancelled then
    Task.untilCancelled token
    Work.note .cycleCancelled
    return .error .cancelled
  else if cycle.latency = 0 then return result cycle
  else
    Task.sleep cycle.latency
    Work.note .cycleEnded
    return result cycle

end ValidatorAlarm.ScriptedWork
