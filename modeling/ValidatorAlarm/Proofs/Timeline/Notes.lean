import ValidatorAlarm.Proofs.Timeline.Follow
import ValidatorAlarm.Proofs.Timeline.Frame

/-!
# Notes beside a state

What a run has done is not always to be seen in the state that it leads to.  So a task may be done
once more with notes beside the state: `Noted.lift` does work that takes no notes, and `Noted.jot`
takes one.  Such a task follows the one without notes, and a frame of the work is a frame of the
lifted work that leaves the notes alone.
-/
namespace ValidatorAlarm

variable {σ ν α β : Type}

/-- A state with notes beside it, the last first. -/
structure Noted (σ ν : Type) where
  state : σ
  notes : List ν

namespace Noted

/-- Work on the state that takes no notes. -/
def lift : Task σ α → Task (Noted σ ν) α
  | .done a => .done a
  | .look next => .look fun m n => lift (next m n.state)
  | .act change next => .act (fun m n => { n with state := change m n.state }) (lift next)
  | .wait ms token next => .wait ms token fun passed => lift (next passed)
  | .hold token next => .hold token (lift next)

/-- Changes the notes. -/
def jot (change : Moment → List ν → List ν) : Task (Noted σ ν) Unit :=
  Task.changeAt fun m n => { n with notes := change m n.notes }

theorem lift_follows (t : Task σ α) : (lift t : Task (Noted σ ν) α).Follows Noted.state t := by
  induction t with
  | done a => exact .done a
  | look next ih => exact .look fun m n => ih m n.state
  | act change next ih => exact .act (fun _ _ => rfl) ih
  | wait ms token next ih => exact .wait ms token ih
  | hold token next ih => exact .hold token ih

/-- What work guarantees for the state, lifted work guarantees for it as well. -/
theorem lift_meets {J : σ → Prop} {Q : α → σ → Prop} {t : Task σ α} {m : Moment} {n : Noted σ ν}
    (h : t.Meets J Q m n.state) :
    (lift t : Task (Noted σ ν) α).Meets (fun n => J n.state) (fun a n => Q a n.state) m n := by
  induction t generalizing m n with
  | done a => exact h
  | look next ih => exact ih m n.state h
  | act change next ih => exact ih (n := { n with state := change m n.state }) h
  | wait ms token next ih =>
    obtain ⟨hnow, hwait, hlater⟩ := h
    exact ⟨fun passed => ih passed (hnow passed), hwait,
      fun passed m' n' hn => ih passed (hlater passed m' n'.state hn)⟩
  | hold token next ih =>
    obtain ⟨hnow, hwait, hlater⟩ := h
    exact ⟨ih hnow, hwait, fun m' n' hn => ih (hlater m' n'.state hn)⟩

theorem jot_bind_follows {change : Moment → List ν → List ν} {k : Unit → Task (Noted σ ν) α}
    {t : Task σ α} (h : (k ()).Follows Noted.state t) :
    ((jot change).bind k).Follows Noted.state t :=
  .aside (fun _ _ => rfl) h

theorem jot_bind_meets {J : Noted σ ν → Prop} {Q : α → Noted σ ν → Prop}
    {change : Moment → List ν → List ν} {k : Unit → Task (Noted σ ν) α} {m : Moment} {n : Noted σ ν}
    (h : (k ()).Meets J Q m ⟨n.state, change m n.notes⟩) : ((jot change).bind k).Meets J Q m n := h

end Noted

/-- A frame for the state, in which the notes stay the same. -/
def Frame.beside (F : Frame σ) : Frame (Noted σ ν) where
  Allows n n' := F.Allows n.state n'.state ∧ n'.notes = n.notes
  refl n := ⟨F.refl n.state, rfl⟩
  trans h₁ h₂ := ⟨F.trans h₁.1 h₂.1, h₂.2.trans h₁.2⟩

theorem Noted.lift_keeps {F : Frame σ} {t : Task σ α} (ht : t.Keeps F) :
    (lift t : Task (Noted σ ν) α).Keeps F.beside := by
  induction t with
  | done a => trivial
  | look next ih => exact fun m n => ih m n.state (ht m n.state)
  | act change next ih => exact ⟨fun m n => ⟨ht.1 m n.state, rfl⟩, ih ht.2⟩
  | wait ms token next ih => exact fun passed => ih passed (ht passed)
  | hold token next ih => exact ht.elim

/-- What is known of the end of a task whatever others do is known beside an invariant as well. -/
theorem Task.Meets.and_end {J : σ → Prop} {Q Q' : α → σ → Prop} {t : Task σ α} {m : Moment} {s : σ}
    (h : t.Meets J Q m s) (h' : t.Meets (fun _ => True) Q' m s) :
    t.Meets J (fun a s => Q a s ∧ Q' a s) m s := by
  induction t generalizing m s with
  | done a => exact ⟨h, h'⟩
  | look next ih => exact ih m s h h'
  | act change next ih => exact ih h h'
  | wait ms token next ih =>
    obtain ⟨hnow, hwait, hlater⟩ := h
    obtain ⟨hnow', -, hlater'⟩ := h'
    exact ⟨fun passed => ih passed (hnow passed) (hnow' passed), hwait,
      fun passed m' s' hs => ih passed (hlater passed m' s' hs) (hlater' passed m' s' True.intro)⟩
  | hold token next ih =>
    obtain ⟨hnow, hwait, hlater⟩ := h
    obtain ⟨hnow', -, hlater'⟩ := h'
    exact ⟨ih hnow hnow', hwait, fun m' s' hs => ih (hlater m' s' hs) (hlater' m' s' True.intro)⟩

theorem Task.Meets.trivial (t : Task σ α) {m : Moment} {s : σ} :
    t.Meets (fun _ => True) (fun _ _ => True) m s := by
  induction t generalizing m s with
  | done a => exact True.intro
  | look next ih => exact ih m s
  | act change next ih => exact ih
  | wait ms token next ih =>
    exact ⟨fun passed => ih passed, True.intro, fun passed m' s' _ => ih passed⟩
  | hold token next ih => exact ⟨ih, True.intro, fun m' s' _ => ih⟩

/-- A task within a frame keeps every invariant that the frame does not touch. -/
theorem Task.Keeps.meets {F : Frame σ} {J : σ → Prop} (hJ : ∀ s s', F.Allows s s' → J s → J s')
    {t : Task σ α} (ht : t.Keeps F) {m : Moment} {s : σ} (hs : J s) :
    t.Meets J (fun _ s => J s) m s := by
  induction t generalizing m s with
  | done a => exact hs
  | look next ih => exact ih m s (ht m s) hs
  | act change next ih => exact ih ht.2 (hJ _ _ (ht.1 m s) hs)
  | wait ms token next ih =>
    exact ⟨fun passed => ih passed (ht passed) hs, hs, fun passed m' s' hs' => ih passed (ht passed) hs'⟩
  | hold token next ih => exact ht.elim

end ValidatorAlarm
