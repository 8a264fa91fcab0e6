import ValidatorAlarm.Timeline.Agenda

/-!
# Work in sequence

A piece of work made of two parts is carried out by carrying out the first part and then the second
one from wherever the first has led: at one moment of the clock (`Task.run`), when a waiting task
goes on (`Suspension.resume`), and in the foreground of an agenda (`Agenda.perform`).  These
equations let every later proof follow a program part by part.
-/
namespace ValidatorAlarm

variable {σ α β : Type}

/-! ### Up to the next wait -/

/-- A waiting task that has something else to do afterwards. -/
def Suspension.andThen (rest : Suspension σ α) (k : α → Task σ β) : Suspension σ β :=
  match rest with
  | .timed wake token next => .timed wake token fun passed => (next passed).bind k
  | .held token next => .held token (next.bind k)

/-- Goes on with the second part where the first one got to. -/
def Progress.andThen (m : Moment) (k : α → Task σ β) : σ × Progress σ α → σ × Progress σ β
  | (s, .finished a) => (k a).run m s
  | (s, .waiting rest) => (s, .waiting (rest.andThen k))

theorem Task.run_bind (m : Moment) (t : Task σ α) (k : α → Task σ β) (s : σ) :
    (t.bind k).run m s = Progress.andThen m k (t.run m s) := by
  induction t generalizing s with
  | done a => rfl
  | look next ih => exact ih m s s
  | act change next ih => exact ih (change m s)
  | wait ms token next ih =>
    simp only [Task.bind, Task.run]
    by_cases hcut : token.any m.cancelled
    · rw [if_pos hcut, if_pos hcut]
      exact ih false s
    · rw [if_neg hcut, if_neg hcut]
      by_cases hzero : ms = 0
      · rw [if_pos hzero, if_pos hzero]
        exact ih true s
      · rw [if_neg hzero, if_neg hzero]
        rfl
  | hold token next ih =>
    simp only [Task.bind, Task.run]
    by_cases hcut : m.cancelled token
    · rw [if_pos hcut, if_pos hcut]
      exact ih s
    · rw [if_neg hcut, if_neg hcut]
      rfl

theorem Suspension.resume_andThen (m : Moment) (rest : Suspension σ α) (k : α → Task σ β) (s : σ) :
    (rest.andThen k).resume m s = Progress.andThen m k (rest.resume m s) := by
  cases rest with
  | timed wake token next =>
    simp only [Suspension.andThen, Suspension.resume]
    by_cases hcut : token.any m.cancelled
    · rw [if_pos hcut, if_pos hcut]
      exact Task.run_bind m (next false) k s
    · rw [if_neg hcut, if_neg hcut]
      by_cases hwake : wake ≤ m.now
      · rw [if_pos hwake, if_pos hwake]
        exact Task.run_bind m (next true) k s
      · rw [if_neg hwake, if_neg hwake]
        rfl
  | held token next =>
    simp only [Suspension.andThen, Suspension.resume]
    by_cases hcut : m.cancelled token
    · rw [if_pos hcut, if_pos hcut]
      exact Task.run_bind m next k s
    · rw [if_neg hcut, if_neg hcut]
      rfl

/-! ### In the foreground -/

namespace Agenda

/-- Carries out the second part if the first one has come to an end. -/
def andThen (k : α → Task σ β) : Agenda σ × Option α → Agenda σ × Option β
  | (a, some x) => a.perform (k x)
  | (a, none) => (a, none)

theorem perform_wait (ms : Nat) (token : Option Token) (next : Bool → Task σ α) (a : Agenda σ) :
    a.perform (.wait ms token next) =
      if token.any a.moment.cancelled then a.perform (next false)
      else if ms = 0 then a.perform (next true)
      else (a.passUntil (a.moment.after ms) token).1.perform
        (next (a.passUntil (a.moment.after ms) token).2) := rfl

theorem perform_hold (token : Token) (next : Task σ α) (a : Agenda σ) :
    a.perform (.hold token next) =
      if a.moment.cancelled token then a.perform next
      else if (a.passUntil (a.lastPlanned + 1) (some token)).2 then
        ((a.passUntil (a.lastPlanned + 1) (some token)).1, none)
      else (a.passUntil (a.lastPlanned + 1) (some token)).1.perform next := rfl

theorem perform_bind (t : Task σ α) (k : α → Task σ β) (a : Agenda σ) :
    a.perform (t.bind k) = andThen k (a.perform t) := by
  induction t generalizing a with
  | done x => rfl
  | look next ih => exact ih a.moment a.state a
  | act change next ih => exact ih { a with state := change a.moment a.state }
  | wait ms token next ih =>
    simp only [Task.bind, perform_wait]
    split
    · exact ih false a
    · split
      · exact ih true a
      · exact ih _ _
  | hold token next ih =>
    simp only [Task.bind, perform_hold]
    split
    · exact ih a
    · split
      · rfl
      · exact ih _

theorem perform_bind_of_some {t : Task σ α} {k : α → Task σ β} {a b : Agenda σ} {x : α}
    (ht : a.perform t = (b, some x)) : a.perform (t.bind k) = b.perform (k x) := by
  rw [perform_bind, ht]
  rfl

end Agenda

end ValidatorAlarm
