import ValidatorAlarm.Calendar.Target
import ValidatorAlarm.Delivery.Response
import ValidatorAlarm.Message
import ValidatorAlarm.Rating
import ValidatorAlarm.Script
import ValidatorAlarm.Snooze
import ValidatorAlarm.Timeline.Task

/-!
# The shared state of a monitoring

Cycles, self-checks and deliveries work on one state: what is remembered from one to the next (the
snooze windows, the counts for the next self-check, the trigger), how the servers and channels will
answer, and a record of everything that was done to the outside world, with its time.
-/
namespace ValidatorAlarm

/-- Something done to the outside world, or noted for the operator. -/
inductive Event where
  | get (endpoint : String)
  | post (channel : Option Nat) (endpoint body : String)
  /-- A batch was handed on as it is. -/
  | handedOver (channel : Nat) (messages : List Message)
  | mailed (channel : Nat) (sender recipient text : String)
  | logged (severity : Severity) (line : String)
  /-- A delivery to a channel failed, in the first pass or in the given retry. -/
  | sendFailed (channel : String) (retry : Option Nat)
  /-- A pair was skipped because its key has so many bytes. -/
  | badKey (length : Nat)
  | cycleBegun (cancelled : Bool)
  | cycleCancelled
  | cycleEnded
  | closed (closer : Nat)
deriving DecidableEq, Repr

/-- What the next self-check will report. -/
structure Tally where
  /-- Errors since the last one, at most 2³² - 1. -/
  errors : Nat
  /-- The keys that raised an alarm since the last one, each once. -/
  flagged : List String
deriving DecidableEq, Repr

namespace Tally

def empty : Tally := ⟨0, []⟩

def maxErrors : Nat := Nat.pow 2 32 - 1

def countError (t : Tally) : Tally := { t with errors := min maxErrors (t.errors + 1) }

/-- A key that raised an alarm. -/
def flag (t : Tally) (key : String) : Tally :=
  if key ∈ t.flagged then t else { t with flagged := t.flagged ++ [key] }

def collect (t : Tally) (messages : List Message) : Tally :=
  messages.foldl (fun t m => t.flag m.identityKey) t

end Tally

/-- How one cycle of a scripted worker goes. -/
structure ScriptedCycle where
  /-- It fails in the end. -/
  fails : Bool
  latency : Nat
  /-- It waits for its cancellation, and fails by it. -/
  untilCancelled : Bool
deriving DecidableEq, Repr

structure Site where
  /-- The instant at which the time is zero. -/
  start : Instant
  /-- Replies to the query for ratings. -/
  statistics : Script Reply
  /-- Replies to the queries for staked keys. -/
  contract : Script Reply
  /-- Replies of the channels, by their position. -/
  channels : List (Script Reply)
  /-- Cycles of the scripted worker. -/
  cycles : Script ScriptedCycle
  /-- What each monitor remembers of its alarms, by its position among the monitors. -/
  snoozes : Nat → Snooze
  tally : Tally
  trigger : Trigger
  /-- What has happened, the last first. -/
  history : List (Nat × Event)

namespace Site

/-- A site at which nothing has happened yet and nobody answers. -/
def initial : Site where
  start := ⟨0, 0⟩
  statistics := .always ⟨0, .ok ⟨200, []⟩⟩
  contract := .always ⟨0, .ok ⟨200, []⟩⟩
  channels := []
  cycles := .always ⟨false, 0, false⟩
  snoozes := fun _ => .empty
  tally := .empty
  trigger := .fresh
  history := []

/-- The local clock, so many milliseconds after the start. -/
def clock (s : Site) (now : Nat) : Instant := s.start.later (now * 1000000)

/-- The clock in whole seconds, so many milliseconds after the start. -/
def seconds (s : Site) (now : Nat) : Int := s.start.seconds + (now / 1000 : Nat)

def note (s : Site) (event : Event) (m : Moment) : Site :=
  { s with history := (m.now, event) :: s.history }

def setSnooze (s : Site) (monitor : Nat) (snooze : Snooze) : Site :=
  { s with snoozes := fun i => if i = monitor then snooze else s.snoozes i }

def channelReply (channel : Nat) (s : Site) : Site × Reply :=
  match s.channels[channel]? with
  | none => (s, ⟨0, .ok ⟨200, []⟩⟩)
  | some script => ({ s with channels := s.channels.set channel script.next.1 }, script.next.2)

/-- The reply to a query for ratings. -/
def statisticsReply (s : Site) : Site × Reply :=
  ({ s with statistics := s.statistics.next.1 }, s.statistics.next.2)

/-- The reply to a query for staked keys. -/
def contractReply (s : Site) : Site × Reply :=
  ({ s with contract := s.contract.next.1 }, s.contract.next.2)

end Site

abbrev Work := Task Site

namespace Work

def note (event : Event) : Work Unit := Task.changeAt fun m s => s.note event m

/-- Makes a request and waits for its reply.  If the signal is cancelled already, no request is made;
if it is cancelled before the reply, the reply is not waited for. -/
def exchange (token : Option Token) (event : Event) (reply : Site → Site × Reply) :
    Work (Except Fault Response) := do
  let m ← Task.moment
  if token.any m.cancelled then
    return .error .cancelled
  note event
  let reply ← Task.update reply
  let passed ← Task.pause reply.latency token
  return if passed then reply.result else .error .cancelled

end Work

end ValidatorAlarm
