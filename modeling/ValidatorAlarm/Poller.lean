import ValidatorAlarm.Fault
import ValidatorAlarm.Timeline.Agenda

/-!
# Pollers

A poller does the same work again and again: after a success it waits for its interval, after a
failure for its error interval.  Its loop can be started once.  Closing the poller cancels the
signal that the work is given, and the loop with it.

`Poller.start` answers for `start_processing_loop` of the `Poller`, `Poller.make` for the
`PollerBuilder`, and the work for the `CycleExecutor`.
-/
namespace ValidatorAlarm

/-- How often a poller does its work. -/
structure Rhythm where
  interval : Duration
  errorInterval : Duration
deriving DecidableEq, Repr

namespace Rhythm

def leastInterval : Duration := .ofMilliseconds 1

/-- An interval that is long enough. -/
def check (interval : Duration) : Except Fault Unit :=
  if interval < leastInterval then .error (.invalidInterval interval leastInterval) else .ok ()

/-- A rhythm; the error interval is the other one unless it is given. -/
def make (interval : Duration) (errorInterval : Option Duration) : Except Fault Rhythm := do
  let errorInterval := errorInterval.getD interval
  check interval
  check errorInterval
  return ⟨interval, errorInterval⟩

/-- The milliseconds of rest after a cycle. -/
def rest (r : Rhythm) (succeeded : Bool) : Nat :=
  if succeeded then r.interval.milliseconds else r.errorInterval.milliseconds

end Rhythm

structure Poller (σ : Type) where
  name : String
  rhythm : Rhythm
  /-- The work, which is told the signal of its cancellation. -/
  work : Token → Task σ (Except Fault Unit)
  token : Token
  started : Bool

namespace Poller

variable {σ : Type}

/-- A poller from its parts, of which the name and the error interval can be left out. -/
def make (token : Token) (name : Option String) (work : Option (Token → Task σ (Except Fault Unit)))
    (interval errorInterval : Option Duration) : Except Fault (Poller σ) :=
  match work, interval with
  | none, _ => .error (.missingPart "executor")
  | some _, none => .error (.missingPart "interval")
  | some work, some interval =>
    (Rhythm.make interval errorInterval).map fun rhythm => ⟨name.getD "", rhythm, work, token, false⟩

def loop (p : Poller σ) : Loop σ where
  cycle := do
    match ← p.work p.token with
    | .ok () => return true
    | .error _ => return false
  token := p.token
  rest := p.rhythm.rest
  stage := .ready

/-- Starts the loop, which begins to run when the foreground waits. -/
def start (p : Poller σ) (a : Agenda σ) : Except Fault (Poller σ × Agenda σ) :=
  if p.started then .error .alreadyStarted
  else .ok ({ p with started := true }, a.addLoop p.loop)

def close (p : Poller σ) (a : Agenda σ) : Agenda σ := a.cancel p.token

/-- What the owner of a poller can order. -/
inductive Order where
  | start
  | close
  /-- Give the poller away, which closes it. -/
  | drop
  /-- Let time pass. -/
  | advance (ms : Nat)
deriving DecidableEq, Repr

/-- Carries out an order.  There is no result if the poller has been given away. -/
def carryOut : Order → Option (Poller σ) → Agenda σ →
    Option (Poller σ) × Agenda σ × Option (Except Fault Unit)
  | .advance ms, p, a => (p, a.advance ms, some (.ok ()))
  | .drop, none, a => (none, a, some (.ok ()))
  | .drop, some p, a => (none, p.close a, some (.ok ()))
  | _, none, a => (none, a, none)
  | .close, some p, a => (some p, p.close a, some (.ok ()))
  | .start, some p, a =>
    match p.start a with
    | .error fault => (some p, a, some (.error fault))
    | .ok (p, a) => (some p, a, some (.ok ()))

end Poller

end ValidatorAlarm
