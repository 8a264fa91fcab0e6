import ValidatorAlarm.Timeline.Loop

/-!
# The agenda

All that happens over time: a clock that stands still while anything can run, and jumps to the next
point in time at which something is due; loops in the background; cancellations that will take place
later; and one task at a time in the foreground.

At one point in time the foreground goes first, then the cancellations that are due, then the loops
in the order in which they began to wait.  A task in the foreground that is cancelled while it waits
goes on at that time, after the loops.
-/
namespace ValidatorAlarm

structure Agenda (σ : Type) where
  now : Nat
  /-- The signals that have been cancelled. -/
  cancelled : List Token
  /-- Signals that will be cancelled, with the time. -/
  planned : List (Nat × Token)
  /-- The loops, in the order in which they began to wait. -/
  loops : List (Loop σ)
  state : σ

namespace Agenda

variable {σ α : Type}

/-- The agenda at time zero, with nothing on it. -/
def start (state : σ) : Agenda σ := ⟨0, [], [], [], state⟩

/-- What a task sees at this time. -/
def moment (a : Agenda σ) : Moment := ⟨a.now, a.cancelled.contains⟩

def cancel (a : Agenda σ) (token : Token) : Agenda σ := { a with cancelled := token :: a.cancelled }

/-- Cancels a signal after a time. -/
def cancelLater (a : Agenda σ) (ms : Nat) (token : Token) : Agenda σ :=
  { a with planned := a.planned ++ [(a.moment.after ms, token)] }

/-- Adds a loop, which is ready to begin. -/
def addLoop (a : Agenda σ) (loop : Loop σ) : Agenda σ := { a with loops := a.loops ++ [loop] }

def cancelDue (a : Agenda σ) : Agenda σ :=
  { a with
    cancelled := (a.planned.filter (·.1 ≤ a.now)).map (·.2) ++ a.cancelled
    planned := a.planned.filter (a.now < ·.1) }

def runDue (a : Agenda σ) : Agenda σ :=
  let (state, idle, ran) := Loop.stepDue a.moment a.loops a.state
  { a with loops := idle ++ ran, state := state }

/-- Lets happen what is due at this time in the background. -/
def settle (a : Agenda σ) : Agenda σ := a.cancelDue.runDue

/-- The next time at which something is due in the background. -/
def nextTime? (a : Agenda σ) : Option Nat :=
  ((a.planned.map (·.1) ++ a.loops.filterMap Loop.wake?).filter (a.now < ·)).min?

/-- Lets time pass up to `limit`, but not what is due there; ends earlier if the signal is cancelled.
The result says whether the time has passed. -/
def passUntil (limit : Nat) (token : Option Token) (a : Agenda σ) : Agenda σ × Bool :=
  let settled := a.settle
  if token.any settled.moment.cancelled then (settled, false)
  else match settled.nextTime? with
    | none => ({ settled with now := limit }, true)
    | some next =>
      if _h : a.now < next ∧ next < limit then passUntil limit token { settled with now := next }
      else ({ settled with now := limit }, true)
termination_by limit - a.now
decreasing_by omega

/-- Lets time pass, with all that is due up to its end. -/
def advance (ms : Nat) (a : Agenda σ) : Agenda σ := (a.passUntil (a.moment.after ms) none).1.settle

/-- The last time at which a signal will be cancelled. -/
def lastPlanned (a : Agenda σ) : Nat := ((a.planned.map (·.1)).max?).getD a.now

/-- Carries out a task in the foreground.  There is no result if the task waits for a cancellation
that does not come. -/
def perform : Task σ α → Agenda σ → Agenda σ × Option α
  | .done result, a => (a, some result)
  | .look next, a => perform (next a.moment a.state) a
  | .act change next, a => perform next { a with state := change a.moment a.state }
  | .wait ms token next, a =>
    if token.any a.moment.cancelled then perform (next false) a
    else if ms = 0 then perform (next true) a
    else
      let (a, passed) := a.passUntil (a.moment.after ms) token
      perform (next passed) a
  | .hold token next, a =>
    if a.moment.cancelled token then perform next a
    else
      let (a, passed) := a.passUntil (a.lastPlanned + 1) (some token)
      if passed then (a, none) else perform next a

end Agenda

end ValidatorAlarm
