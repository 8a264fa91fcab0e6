import Mathlib.Data.List.Forall2
import ValidatorAlarm.Proofs.Timeline.Crew

/-!
# Work with notes beside it

A task on a larger state follows a task on a part of that state if it does the same to the part, step
by step, and waits where the other one waits.  What it does beside that, such as keeping a book, has
no effect on the part.  A crew of such tasks then goes through the same states as the crew of the
tasks that they follow, move by move.
-/
namespace ValidatorAlarm

variable {τ σ α β ι : Type}

/-- The first task does to the part `view` of its state what the second one does. -/
inductive Task.Follows (view : τ → σ) : Task τ α → Task σ α → Prop where
  | done (a : α) : Follows view (.done a) (.done a)
  | look {next : Moment → τ → Task τ α} {next' : Moment → σ → Task σ α}
      (h : ∀ m s, Follows view (next m s) (next' m (view s))) :
      Follows view (.look next) (.look next')
  | act {change : Moment → τ → τ} {change' : Moment → σ → σ} {next : Task τ α} {next' : Task σ α}
      (hchange : ∀ m s, view (change m s) = change' m (view s)) (hnext : Follows view next next') :
      Follows view (.act change next) (.act change' next')
  /-- A change beside the part. -/
  | aside {change : Moment → τ → τ} {next : Task τ α} {t : Task σ α}
      (hchange : ∀ m s, view (change m s) = view s) (hnext : Follows view next t) :
      Follows view (.act change next) t
  | wait {next : Bool → Task τ α} {next' : Bool → Task σ α} (ms : Nat) (token : Option Token)
      (h : ∀ passed, Follows view (next passed) (next' passed)) :
      Follows view (.wait ms token next) (.wait ms token next')
  | hold {next : Task τ α} {next' : Task σ α} (token : Token) (h : Follows view next next') :
      Follows view (.hold token next) (.hold token next')

/-- The same for waiting tasks. -/
inductive Suspension.Follows (view : τ → σ) : Suspension τ α → Suspension σ α → Prop where
  | timed {next : Bool → Task τ α} {next' : Bool → Task σ α} (wake : Nat) (token : Option Token)
      (h : ∀ passed, (next passed).Follows view (next' passed)) :
      Follows view (.timed wake token next) (.timed wake token next')
  | held {next : Task τ α} {next' : Task σ α} (token : Token) (h : next.Follows view next') :
      Follows view (.held token next) (.held token next')

/-- Both got equally far. -/
inductive Progress.Follows (view : τ → σ) : τ × Progress τ α → σ × Progress σ α → Prop where
  | finished (s : τ) (a : α) : Follows view (s, .finished a) (view s, .finished a)
  | waiting (s : τ) {rest : Suspension τ α} {rest' : Suspension σ α} (h : rest.Follows view rest') :
      Follows view (s, .waiting rest) (view s, .waiting rest')

variable {view : τ → σ}

namespace Task

theorem Follows.bind {t : Task τ α} {t' : Task σ α} {k : α → Task τ β} {k' : α → Task σ β}
    (ht : t.Follows view t') (hk : ∀ a, (k a).Follows view (k' a)) :
    (t.bind k).Follows view (t'.bind k') := by
  induction ht with
  | done a => exact hk a
  | look h ih => exact .look ih
  | act hchange hnext ih => exact .act hchange ih
  | aside hchange hnext ih => exact .aside hchange ih
  | wait ms token h ih => exact .wait ms token ih
  | hold token h ih => exact .hold token ih

theorem Follows.run {t : Task τ α} {t' : Task σ α} (ht : t.Follows view t') (m : Moment) (s : τ) :
    Progress.Follows view (t.run m s) (t'.run m (view s)) := by
  induction ht generalizing s with
  | done a => exact .finished s a
  | look h ih => exact ih m s s
  | act hchange hnext ih =>
    rw [Task.run, Task.run, ← hchange]
    exact ih _
  | aside hchange hnext ih =>
    rw [Task.run, ← hchange m s]
    exact ih _
  | wait ms token h ih =>
    rw [Task.run, Task.run]
    split
    · exact ih false s
    · split
      · exact ih true s
      · exact .waiting s (.timed _ _ h)
  | hold token h ih =>
    rw [Task.run, Task.run]
    split
    · exact ih s
    · exact .waiting s (.held _ h)

end Task

theorem Suspension.Follows.resume {rest : Suspension τ α} {rest' : Suspension σ α}
    (hrest : rest.Follows view rest') (m : Moment) (s : τ) :
    Progress.Follows view (rest.resume m s) (rest'.resume m (view s)) := by
  cases hrest with
  | timed wake token h =>
    rw [Suspension.resume, Suspension.resume]
    split
    · exact (h false).run m s
    · split
      · exact (h true).run m s
      · exact .waiting s (.timed _ _ h)
  | held token h =>
    rw [Suspension.resume, Suspension.resume]
    split
    · exact Task.Follows.run h m s
    · exact .waiting s (.held _ h)

theorem forall₂_eraseIdx {R : α → β → Prop} {l : List α} {l' : List β}
    (h : List.Forall₂ R l l') (place : Nat) :
    List.Forall₂ R (l.eraseIdx place) (l'.eraseIdx place) := by
  rw [List.eraseIdx_eq_take_drop_succ, List.eraseIdx_eq_take_drop_succ]
  exact List.rel_append (List.forall₂_take place h) (List.forall₂_drop (place + 1) h)

namespace Crew

/-- One crew in the same place as another. -/
structure Follows (view : τ → σ) (crew : Crew τ α) (crew' : Crew σ α) : Prop where
  state : view crew.state = crew'.state
  waiting : List.Forall₂ (Suspension.Follows view) crew.waiting crew'.waiting

theorem Follows.took {crew : Crew τ α} {crew' : Crew σ α} (hcrew : crew.Follows view crew')
    {got : τ × Progress τ α} {got' : σ × Progress σ α} (hgot : Progress.Follows view got got') :
    (crew.took got).Follows view (crew'.took got') := by
  cases hgot with
  | finished s a => exact ⟨rfl, hcrew.waiting⟩
  | waiting s h => exact ⟨rfl, List.rel_append hcrew.waiting (.cons h .nil)⟩

theorem Follows.step {jobs : ι → Task τ α} {jobs' : ι → Task σ α}
    (hjobs : ∀ job, (jobs job).Follows view (jobs' job)) {crew : Crew τ α} {crew' : Crew σ α}
    (hcrew : crew.Follows view crew') (m : Moment) (move : Move ι) :
    (crew.step jobs m move).Follows view (crew'.step jobs' m move) := by
  cases move with
  | begin job =>
    have hgot := (hjobs job).run m crew.state
    rw [hcrew.state] at hgot
    exact hcrew.took hgot
  | resume place =>
    rw [Crew.step, Crew.step]
    have hlength := hcrew.waiting.length_eq
    by_cases hplace : place < crew.waiting.length
    · have hplace' : place < crew'.waiting.length := hlength ▸ hplace
      rw [List.getElem?_eq_getElem hplace, List.getElem?_eq_getElem hplace']
      have hrest := (hcrew.waiting.get hplace hplace').resume m crew.state
      rw [hcrew.state] at hrest
      have hothers : Crew.Follows view { crew with waiting := crew.waiting.eraseIdx place }
          { crew' with waiting := crew'.waiting.eraseIdx place } :=
        ⟨hcrew.state, forall₂_eraseIdx hcrew.waiting place⟩
      exact hothers.took hrest
    · rw [List.getElem?_eq_none (Nat.le_of_not_lt hplace),
        List.getElem?_eq_none (hlength ▸ Nat.le_of_not_lt hplace)]
      exact hcrew

/-- Two crews stay in the same place if the jobs of the one follow those of the other. -/
theorem Follows.run {jobs : ι → Task τ α} {jobs' : ι → Task σ α}
    (hjobs : ∀ job, (jobs job).Follows view (jobs' job)) (moves : List (Moment × Move ι))
    {crew : Crew τ α} {crew' : Crew σ α} (hcrew : crew.Follows view crew') :
    (crew.run jobs moves).Follows view (crew'.run jobs' moves) := by
  induction moves generalizing crew crew' with
  | nil => exact hcrew
  | cons entry moves ih => exact ih (hcrew.step hjobs entry.1 entry.2)

end Crew

end ValidatorAlarm
