/-!
# Tasks

A task is straight-line work that may stop to wait.  Between two waits it runs without
interruption: it reads the shared state, changes it, and either finishes or waits again.  Waiting
is the only place where other work can come in between, so the constructors of `Task` show every
suspension point of a program written with them.  A wait for more than 30 years ends after 30 years.

`Task.run` carries a task from where it stands to its next wait (or to its end) at one moment of
the clock; what is left over is a `Suspension`, which says when the task may go on.
-/
namespace ValidatorAlarm

/-- Name of a cancellation signal. -/
abbrev Token := Nat

/-- What a task sees of the world outside the shared state: the time, in milliseconds since the
start, and which signals have been cancelled. -/
structure Moment where
  now : Nat
  cancelled : Token → Bool

/-- The longest time that a single wait takes, in milliseconds: 30 years of 365 days. -/
def longestWait : Nat := 30 * 365 * 24 * 60 * 60 * 1000

/-- The time at the end of a wait that begins at this moment. -/
def Moment.after (m : Moment) (ms : Nat) : Nat := m.now + min ms longestWait

/-- Work on a shared state `σ` that ends with an `α`. -/
inductive Task (σ α : Type) : Type where
  /-- The work is over. -/
  | done (result : α)
  /-- Reads the moment and the state. -/
  | look (next : Moment → σ → Task σ α)
  /-- Changes the state. -/
  | act (change : Moment → σ → σ) (next : Task σ α)
  /-- Waits `ms` milliseconds, or shorter if the signal is cancelled first; goes on with `true`
  if the time has passed and with `false` if the wait was cut short. -/
  | wait (ms : Nat) (token : Option Token) (next : Bool → Task σ α)
  /-- Waits until the signal is cancelled, for ever if it never is. -/
  | hold (token : Token) (next : Task σ α)

namespace Task

variable {σ α β : Type}

def bind : Task σ α → (α → Task σ β) → Task σ β
  | .done a, k => k a
  | .look next, k => .look fun m s => (next m s).bind k
  | .act change next, k => .act change (next.bind k)
  | .wait ms token next, k => .wait ms token fun passed => (next passed).bind k
  | .hold token next, k => .hold token (next.bind k)

instance : Monad (Task σ) where
  pure := .done
  bind := bind

def moment : Task σ Moment := .look fun m _ => .done m

def state : Task σ σ := .look fun _ s => .done s

/-- Changes the state and passes on a value that the change computes. -/
def update (step : σ → σ × α) : Task σ α :=
  .look fun _ s => .act (fun _ s' => (step s').1) (.done (step s).2)

def change (f : σ → σ) : Task σ Unit := .act (fun _ s => f s) (.done ())

/-- Changes the state with a look at the clock. -/
def changeAt (f : Moment → σ → σ) : Task σ Unit := .act f (.done ())

/-- Waits `ms` milliseconds, whatever is cancelled meanwhile. -/
def sleep (ms : Nat) : Task σ Unit := .wait ms none fun _ => .done ()

/-- Waits `ms` milliseconds unless the signal, if there is one, is cancelled first; `true` if the
time has passed. -/
def pause (ms : Nat) (token : Option Token) : Task σ Bool := .wait ms token .done

def untilCancelled (token : Token) : Task σ Unit := .hold token (.done ())

def isCancelled (token : Token) : Task σ Bool := .look fun m _ => .done (m.cancelled token)

@[simp] theorem pure_eq_done (a : α) : (pure a : Task σ α) = .done a := rfl

@[simp] theorem bind_eq (t : Task σ α) (k : α → Task σ β) : (t >>= k) = t.bind k := rfl

@[simp] theorem bind_done (t : Task σ α) : t.bind .done = t := by
  induction t with
  | done a => rfl
  | look next ih => simp [bind, ih]
  | act f next ih => simp [bind, ih]
  | wait ms token next ih => simp [bind, ih]
  | hold token next ih => simp [bind, ih]

theorem bind_assoc {γ : Type} (t : Task σ α) (k : α → Task σ β) (l : β → Task σ γ) :
    (t.bind k).bind l = t.bind fun a => (k a).bind l := by
  induction t with
  | done a => rfl
  | look next ih => simp [bind, ih]
  | act f next ih => simp [bind, ih]
  | wait ms token next ih => simp [bind, ih]
  | hold token next ih => simp [bind, ih]

end Task

/-- A task that waits: for a point in time (or an earlier cancellation), or for a cancellation. -/
inductive Suspension (σ α : Type) : Type where
  | timed (wake : Nat) (token : Option Token) (next : Bool → Task σ α)
  | held (token : Token) (next : Task σ α)

/-- How far a task got: it ended, or it waits. -/
inductive Progress (σ α : Type) : Type where
  | finished (result : α)
  | waiting (rest : Suspension σ α)

variable {σ α : Type}

/-- Runs a task up to its next wait.  A wait whose signal is already cancelled is cut short at
once, and a wait of no time at all is no wait. -/
def Task.run (m : Moment) : Task σ α → σ → σ × Progress σ α
  | .done a, s => (s, .finished a)
  | .look next, s => (next m s).run m s
  | .act f next, s => next.run m (f m s)
  | .wait ms token next, s =>
    if token.any m.cancelled then (next false).run m s
    else if ms = 0 then (next true).run m s
    else (s, .waiting (.timed (m.after ms) token next))
  | .hold token next, s =>
    if m.cancelled token then next.run m s else (s, .waiting (.held token next))

namespace Suspension

/-- The time at which the wait ends by itself. -/
def wake? : Suspension σ α → Option Nat
  | .timed wake _ _ => some wake
  | .held _ _ => none

/-- Goes on with a waiting task if its wait is over.  A cancellation is noticed before the end of
the time. -/
def resume (m : Moment) : Suspension σ α → σ → σ × Progress σ α
  | .timed wake token next, s =>
    if token.any m.cancelled then (next false).run m s
    else if wake ≤ m.now then (next true).run m s
    else (s, .waiting (.timed wake token next))
  | .held token next, s =>
    if m.cancelled token then next.run m s else (s, .waiting (.held token next))

end Suspension

end ValidatorAlarm
