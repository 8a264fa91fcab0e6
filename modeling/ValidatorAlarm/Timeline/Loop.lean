import ValidatorAlarm.Timeline.Task

/-!
# Loops

A loop runs one cycle of work, rests, and runs the next, until its signal is cancelled.  How long it
rests depends on whether the cycle succeeded.  A cancellation does not break a cycle off: the loop
notices it when the cycle has ended, or in its rest.
-/
namespace ValidatorAlarm

/-- Where a loop stands. -/
inductive Stage (σ : Type) : Type where
  /-- Before its first cycle. -/
  | ready
  /-- Within a cycle that waits. -/
  | working (rest : Suspension σ Bool)
  /-- Between two cycles. -/
  | resting (wake : Nat)
  | over

structure Loop (σ : Type) where
  /-- One cycle; its result says whether it succeeded. -/
  cycle : Task σ Bool
  token : Token
  /-- The milliseconds of rest after a cycle that succeeded, or did not. -/
  rest : Bool → Nat
  stage : Stage σ

namespace Loop

variable {σ : Type}

/-- Has the loop something to do at this moment? -/
def isDue (m : Moment) (l : Loop σ) : Bool :=
  match l.stage with
  | .ready => true
  | .working (.timed wake token _) => token.any m.cancelled || wake ≤ m.now
  | .working (.held token _) => m.cancelled token
  | .resting wake => m.cancelled l.token || wake ≤ m.now
  | .over => false

/-- The time at which the loop goes on if nothing is cancelled. -/
def wake? (l : Loop σ) : Option Nat :=
  match l.stage with
  | .working rest => rest.wake?
  | .resting wake => some wake
  | _ => none

/-- A loop whose cycle got as far as this. -/
def took (m : Moment) (l : Loop σ) : Progress σ Bool → Loop σ
  | .finished succeeded =>
    if m.cancelled l.token then { l with stage := .over }
    else { l with stage := .resting (m.after (l.rest succeeded)) }
  | .waiting rest => { l with stage := .working rest }

/-- Runs the loop as far as it gets at this moment. -/
def step (m : Moment) (l : Loop σ) (s : σ) : σ × Loop σ :=
  match l.stage with
  | .ready =>
    let (s, progress) := l.cycle.run m s
    (s, l.took m progress)
  | .working rest =>
    let (s, progress) := rest.resume m s
    (s, l.took m progress)
  | .resting wake =>
    if m.cancelled l.token then (s, { l with stage := .over })
    else if wake ≤ m.now then
      let (s, progress) := l.cycle.run m s
      (s, l.took m progress)
    else (s, l)
  | .over => (s, l)

/-- Runs the loops that have something to do, in their order.  The result keeps the others apart, in
front of those that ran. -/
def stepDue (m : Moment) : List (Loop σ) → σ → σ × List (Loop σ) × List (Loop σ)
  | [], s => (s, [], [])
  | l :: ls, s =>
    if l.isDue m then
      let (s, l) := l.step m s
      let (s, idle, ran) := stepDue m ls s
      (s, idle, l :: ran)
    else
      let (s, idle, ran) := stepDue m ls s
      (s, l :: idle, ran)

end Loop

end ValidatorAlarm
