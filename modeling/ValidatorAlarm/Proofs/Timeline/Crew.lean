import ValidatorAlarm.Timeline.Task

/-!
# Crews

A crew works on one state.  At any moment any of its jobs may begin, any number of times, and any of
the tasks that wait may go on; nothing is known about the order, about the clock or about what is
cancelled by then.  So a property of all runs of a crew holds in whatever order its tasks come in
between each other at the points where they wait.

`Task.Meets` follows one task of a crew.  An invariant has to hold where the task waits, and not in
between; after the wait nothing is known of the state but the invariant.
-/
namespace ValidatorAlarm

variable {σ α β ι : Type}

/-! ### Crews and their runs -/

structure Crew (σ α : Type) where
  state : σ
  /-- The tasks that have begun and not yet ended. -/
  waiting : List (Suspension σ α)

/-- What a crew does next. -/
inductive Move (ι : Type) where
  | begin (job : ι)
  /-- A task that waits looks whether its wait is over, and then goes on. -/
  | resume (place : Nat)
deriving Repr

namespace Crew

/-- The crew after one of its tasks got as far as this. -/
def took (crew : Crew σ α) : σ × Progress σ α → Crew σ α
  | (s, .finished _) => { crew with state := s }
  | (s, .waiting rest) => ⟨s, crew.waiting ++ [rest]⟩

/-- One move at one moment. -/
def step (jobs : ι → Task σ α) (m : Moment) (crew : Crew σ α) : Move ι → Crew σ α
  | .begin job => crew.took ((jobs job).run m crew.state)
  | .resume place =>
    match crew.waiting[place]? with
    | none => crew
    | some rest =>
      { crew with waiting := crew.waiting.eraseIdx place }.took (rest.resume m crew.state)

/-- Some moves, each at its moment. -/
def run (jobs : ι → Task σ α) : List (Moment × Move ι) → Crew σ α → Crew σ α
  | [], crew => crew
  | (m, move) :: moves, crew => run jobs moves (crew.step jobs m move)

end Crew

/-! ### What one task guarantees -/

/-- From this moment and state on, whatever others do while the task waits: the invariant `J` holds
whenever the task waits, and `Q` when it ends. -/
def Task.Meets (J : σ → Prop) (Q : α → σ → Prop) : Task σ α → Moment → σ → Prop
  | .done a, _, s => Q a s
  | .look next, m, s => (next m s).Meets J Q m s
  | .act change next, m, s => next.Meets J Q m (change m s)
  | .wait _ _ next, m, s =>
    (∀ passed, (next passed).Meets J Q m s) ∧ J s ∧
      ∀ passed m' s', J s' → (next passed).Meets J Q m' s'
  | .hold _ next, m, s =>
    next.Meets J Q m s ∧ J s ∧ ∀ m' s', J s' → next.Meets J Q m' s'

/-- What a waiting task guarantees. -/
def Suspension.Meets (J : σ → Prop) (Q : α → σ → Prop) : Suspension σ α → Prop
  | .timed _ _ next => ∀ passed m s, J s → (next passed).Meets J Q m s
  | .held _ next => ∀ m s, J s → next.Meets J Q m s

/-- How far a task got: to its end, or to a wait. -/
def Progress.Meets (J : σ → Prop) (Q : α → σ → Prop) : σ × Progress σ α → Prop
  | (s, .finished a) => Q a s
  | (s, .waiting rest) => J s ∧ rest.Meets J Q

variable {J : σ → Prop} {Q : α → σ → Prop} {m : Moment} {s : σ}

namespace Task

theorem Meets.bind {R : β → σ → Prop} {t : Task σ α} {k : α → Task σ β} (ht : t.Meets J Q m s)
    (hk : ∀ a m s, Q a s → (k a).Meets J R m s) : (t.bind k).Meets J R m s := by
  induction t generalizing m s with
  | done a => exact hk a m s ht
  | look next ih => exact ih m s ht
  | act change next ih => exact ih ht
  | wait ms token next ih =>
    obtain ⟨hnow, hwait, hlater⟩ := ht
    exact ⟨fun passed => ih passed (hnow passed), hwait,
      fun passed m' s' h => ih passed (hlater passed m' s' h)⟩
  | hold token next ih =>
    obtain ⟨hnow, hwait, hlater⟩ := ht
    exact ⟨ih hnow, hwait, fun m' s' h => ih (hlater m' s' h)⟩

theorem Meets.moment_bind {k : Moment → Task σ α} (h : (k m).Meets J Q m s) :
    (moment.bind k).Meets J Q m s := h

theorem Meets.mono {R : α → σ → Prop} (h : ∀ a s, Q a s → R a s) {t : Task σ α}
    (ht : t.Meets J Q m s) : t.Meets J R m s := by
  rw [← bind_done t]
  exact ht.bind fun a _ s hq => h a s hq

theorem Meets.run {t : Task σ α} (ht : t.Meets J Q m s) : Progress.Meets J Q (t.run m s) := by
  induction t generalizing s with
  | done a => exact ht
  | look next ih => exact ih m s ht
  | act change next ih => exact ih ht
  | wait ms token next ih =>
    obtain ⟨hnow, hwait, hlater⟩ := ht
    rw [Task.run]
    split
    · exact ih false (hnow false)
    · split
      · exact ih true (hnow true)
      · exact ⟨hwait, hlater⟩
  | hold token next ih =>
    obtain ⟨hnow, hwait, hlater⟩ := ht
    rw [Task.run]
    split
    · exact ih hnow
    · exact ⟨hwait, hlater⟩

end Task

theorem Suspension.Meets.resume {rest : Suspension σ α} (hrest : rest.Meets J Q) (m : Moment)
    (hs : J s) : Progress.Meets J Q (rest.resume m s) := by
  cases rest with
  | timed wake token next =>
    rw [Suspension.resume]
    split
    · exact (hrest false m s hs).run
    · split
      · exact (hrest true m s hs).run
      · exact ⟨hs, hrest⟩
  | held token next =>
    rw [Suspension.resume]
    split
    · exact Task.Meets.run (hrest m s hs)
    · exact ⟨hs, hrest⟩

/-! ### What a crew keeps -/

namespace Crew

/-- The invariant holds, and every task that waits will see to it. -/
def Keeps (J : σ → Prop) (crew : Crew σ α) : Prop :=
  J crew.state ∧ ∀ rest ∈ crew.waiting, rest.Meets J fun _ s => J s

theorem Keeps.took {crew : Crew σ α} {got : σ × Progress σ α}
    (hwaiting : ∀ rest ∈ crew.waiting, rest.Meets J fun _ s => J s)
    (hgot : Progress.Meets J (fun _ s => J s) got) : (crew.took got).Keeps J := by
  obtain ⟨s, result | rest⟩ := got
  · exact ⟨hgot, hwaiting⟩
  · refine ⟨hgot.1, ?_⟩
    intro other hother
    rcases List.mem_append.mp hother with hold | hnew
    · exact hwaiting other hold
    · rw [List.mem_singleton.mp hnew]
      exact hgot.2

theorem Keeps.step {jobs : ι → Task σ α}
    (hjobs : ∀ job m s, J s → (jobs job).Meets J (fun _ s => J s) m s) {crew : Crew σ α}
    (hcrew : crew.Keeps J) (m : Moment) (move : Move ι) : (crew.step jobs m move).Keeps J := by
  obtain ⟨hstate, hwaiting⟩ := hcrew
  cases move with
  | begin job => exact Keeps.took hwaiting (hjobs job m crew.state hstate).run
  | resume place =>
    rw [Crew.step]
    split
    · exact ⟨hstate, hwaiting⟩
    · rename_i rest hplace
      have hrest := hwaiting rest (List.mem_of_getElem? hplace)
      exact Keeps.took (fun other h => hwaiting other (List.mem_of_mem_eraseIdx h))
        (hrest.resume m hstate)

/-- What every job guarantees holds after every run. -/
theorem Keeps.run {jobs : ι → Task σ α}
    (hjobs : ∀ job m s, J s → (jobs job).Meets J (fun _ s => J s) m s)
    (moves : List (Moment × Move ι)) {crew : Crew σ α} (hcrew : crew.Keeps J) :
    (crew.run jobs moves).Keeps J := by
  induction moves generalizing crew with
  | nil => exact hcrew
  | cons entry moves ih => exact ih (hcrew.step hjobs entry.1 entry.2)

end Crew

end ValidatorAlarm
