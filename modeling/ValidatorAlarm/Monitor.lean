import ValidatorAlarm.Explorer
import ValidatorAlarm.Network.Ratings
import ValidatorAlarm.Network.StakedKeys
import ValidatorAlarm.SelfCheck

/-!
# Monitors

A monitor is the `KeysExecutor` for the keys of one network.  In each cycle it asks for the ratings
and for the staked keys of its accounts, checks the ratings of all these keys, leaves out the alarms
that are snoozed, and has the rest delivered as one batch.

A fault is counted for the self-check on its way to the caller.  The keys of a batch are counted
before it is delivered, so a failed delivery does not hide them.

`Monitor.findProblems` and `Monitor.cycle` are its `find_problems` and `execute`, and
`Monitor.nameOf` tells the parts that the `KeysExecutorBuilder` insists on.
-/
namespace ValidatorAlarm

structure Monitor where
  /-- Its position among the monitors. -/
  position : Nat
  /-- The source that its messages name. -/
  name : String
  /-- The address of the explorer; empty for none. -/
  explorer : String
  /-- How the ratings are checked, with the configured keys. -/
  check : RatingsCheck
  accounts : List Account
  /-- The pause after the query about an account. -/
  queryPause : Duration
  snooze : SnoozeRule
  reporter : Reporter
  fanout : Fanout

namespace Monitor

/-- What the alarms of a monitor are about. -/
def category : String := "BLS key"

def findProblems (w : Monitor) (token : Token) : Work (Except Fault (List Problem)) := do
  match ← Network.ratings token with
  | .error fault => return .error fault
  | .ok snapshot =>
    match ← Network.stakedKeys token w.queryPause w.accounts with
    | .error fault => return .error fault
    | .ok staked => return w.check snapshot staked

/-- The problems whose alarms are let through at the time `now`, and the snooze afterwards. -/
def letThrough (rule : SnoozeRule) (now : Int) : Snooze → List Problem → Snooze × List Problem
  | snooze, [] => (snooze, [])
  | snooze, problem :: rest =>
    let (snooze, passes) := snooze.ask rule now problem.key
    let (snooze, passed) := letThrough rule now snooze rest
    (snooze, if passes then problem :: passed else passed)

def message (w : Monitor) (problem : Problem) : Message where
  severity := .error
  category := category
  identityKey := problem.key
  shortIdentityKey := shortKey problem.key
  identityUrl := Explorer.keyLink w.explorer problem.key
  sourceName := w.name
  detail := problem.alarm.text

/-- The messages about the problems whose alarms are let through. -/
def alarms (w : Monitor) (problems : List Problem) : Work (List Message) := do
  let m ← Task.moment
  let passed ← Task.update fun s =>
    let (snooze, passed) :=
      letThrough w.snooze (s.seconds m.now) (s.snoozes w.position) problems
    (s.setSnooze w.position snooze, passed)
  return passed.map w.message

/-- Raises the alarms about some problems. -/
def raise (w : Monitor) (problems : List Problem) : Work (Except Fault Unit) := do
  let messages ← w.alarms problems
  if messages.isEmpty then return .ok ()
  else
    w.reporter.collect messages
    let result ← w.fanout.notify messages
    w.reporter.counted result

def cycle (w : Monitor) (token : Token) : Work (Except Fault Unit) := do
  let found ← w.findProblems token
  match ← w.reporter.counted found with
  | .error fault => return .error fault
  | .ok problems => w.raise problems

/-- What a monitor cannot do without. -/
inductive Part where
  | ratings
  | stakedKeys
  | check
  | snooze
  | reporter
  | fanout
deriving DecidableEq, Repr

namespace Part

/-- The parts in the order in which they are missed. -/
def all : List Part := [.ratings, .stakedKeys, .check, .snooze, .reporter, .fanout]

/-- How a missing part is called. -/
def text : Part → String
  | .ratings => "statistics querier"
  | .stakedKeys => "keys fetcher"
  | .check => "ratings checker"
  | .snooze => "keys filter"
  | .reporter => "status reporter"
  | .fanout => "notification fanout"

end Part

/-- The name of a monitor that is put together from some parts, or the fault that one is missing. -/
def nameOf (name : Option String) (parts : List Part) : Except Fault String :=
  match Part.all.find? (!parts.contains ·) with
  | some part => .error (.missingPart part.text)
  | none => .ok (name.getD "")

end Monitor

end ValidatorAlarm
