import ValidatorAlarm.Proofs.Timeline.Frame
import ValidatorAlarm.Proofs.Timeline.Passing
import ValidatorAlarm.Proofs.Timeline.Sequence

/-!
# Work that has the time to itself

On an agenda without loops nothing changes the state but the task in the foreground: while it waits,
cancellations take place and time passes.  `Task.Ends` says how such a task goes if cancellations do
not matter to it: when it ends, in which state, and with which result.  Its rules follow a program
from wait to wait.
-/
namespace ValidatorAlarm

variable {σ α β : Type}

namespace Agenda

/-! ### While time passes -/

/-- Without loops, time that passes changes nothing but what is cancelled. -/
theorem passUntil_alone (limit : Nat) (token : Option Token) {a : Agenda σ} (h : a.loops = []) :
    (a.passUntil limit token).1.loops = [] ∧ (a.passUntil limit token).1.state = a.state := by
  fun_induction Agenda.passUntil limit token a with
  | case1 a settled hcut =>
    rw [show settled = a.cancelDue from settle_alone h]
    exact ⟨h, rfl⟩
  | case2 a settled hcut hnext =>
    rw [show settled = a.cancelDue from settle_alone h]
    exact ⟨h, rfl⟩
  | case3 a settled hcut next hnext hlater ih =>
    have hsettled : settled = a.cancelDue := settle_alone h
    obtain ⟨hloops, hstate⟩ := ih (by rw [hsettled]; exact h)
    exact ⟨hloops, hstate.trans (by rw [hsettled]; rfl)⟩
  | case4 a settled hcut next hnext hlater =>
    rw [show settled = a.cancelDue from settle_alone h]
    exact ⟨h, rfl⟩

/-- A task that keeps a frame keeps it in the foreground, too: it comes to its end, and adds no
loops. -/
theorem perform_keeps {F : Frame σ} {t : Task σ α} (ht : t.Keeps F) {a : Agenda σ}
    (h : a.loops = []) :
    ∃ b x, a.perform t = (b, some x) ∧ b.loops = [] ∧ F.Allows a.state b.state := by
  induction t generalizing a with
  | done x => exact ⟨a, x, rfl, h, F.refl _⟩
  | look next ih => exact ih _ _ (ht _ _) h
  | act change next ih =>
    obtain ⟨b, x, hperform, hloops, hallows⟩ :=
      ih ht.2 (a := { a with state := change a.moment a.state }) h
    exact ⟨b, x, hperform, hloops, F.trans (ht.1 a.moment a.state) hallows⟩
  | wait ms token next ih =>
    rw [perform_wait]
    split
    · exact ih false (ht false) h
    · split
      · exact ih true (ht true) h
      · obtain ⟨hloops, hstate⟩ := passUntil_alone (a.moment.after ms) token h
        have hrest := ih _ (ht (a.passUntil (a.moment.after ms) token).2) hloops
        rw [hstate] at hrest
        exact hrest
  | hold token next ih => exact ht.elim

end Agenda

/-! ### Tasks that no cancellation concerns -/

namespace Task

/-- With the time to itself from `now` on and in the state `s`, the task ends at the time `now'` in
the state `s'` with the result `x`, whatever is cancelled. -/
def Ends (t : Task σ α) (now : Nat) (s : σ) (now' : Nat) (s' : σ) (x : α) : Prop :=
  ∀ a : Agenda σ, a.loops = [] → a.now = now → a.state = s →
    ∃ b : Agenda σ, a.perform t = (b, some x) ∧ b.loops = [] ∧ b.now = now' ∧ b.state = s'

variable {now now₁ now₂ : Nat} {s s₁ s₂ : σ}

theorem Ends.done (x : α) : Ends (.done x) now s now s x := by
  intro a hloops hnow hstate
  exact ⟨a, rfl, hloops, hnow, hstate⟩

theorem Ends.bind {t : Task σ α} {k : α → Task σ β} {x : α} {y : β}
    (ht : t.Ends now s now₁ s₁ x) (hk : (k x).Ends now₁ s₁ now₂ s₂ y) :
    (t.bind k).Ends now s now₂ s₂ y := by
  intro a hloops hnow hstate
  obtain ⟨b, hperform, hbloops, hbnow, hbstate⟩ := ht a hloops hnow hstate
  rw [Agenda.perform_bind_of_some hperform]
  exact hk b hbloops hbnow hbstate

theorem Ends.changeAt {f : Moment → σ → σ} (h : ∀ m, m.now = now → f m s = s₁) :
    Ends (changeAt f) now s now s₁ () := by
  intro a hloops hnow hstate
  refine ⟨{ a with state := f a.moment a.state }, rfl, hloops, hnow, ?_⟩
  rw [hstate]
  exact h a.moment hnow

theorem Ends.update {step : σ → σ × α} {x : α} (h : step s = (s₁, x)) :
    Ends (update step) now s now s₁ x := by
  intro a hloops hnow hstate
  subst hstate
  refine ⟨{ a with state := (step a.state).1 }, ?_, hloops, hnow, ?_⟩
  · change ({ a with state := (step a.state).1 }, some (step a.state).2) = _
    rw [h]
  · rw [h]

theorem Ends.moment_bind {k : Moment → Task σ α} {x : α}
    (h : ∀ m : Moment, m.now = now → (k m).Ends now s now₁ s₁ x) :
    (moment.bind k).Ends now s now₁ s₁ x := by
  intro a hloops hnow hstate
  exact h a.moment hnow a hloops hnow hstate

/-- A wait that nothing cuts short takes its time, though never more than the longest wait. -/
theorem Ends.pause (ms : Nat) : Ends (pause ms none) now s (now + min ms longestWait) s true := by
  intro a hloops hnow hstate
  rw [Task.pause, Agenda.perform_wait]
  by_cases hzero : ms = 0
  · subst hzero
    refine ⟨a, rfl, hloops, ?_, hstate⟩
    rw [hnow, Nat.zero_min, Nat.add_zero]
  · have hcut : ¬ (none : Option Token).any a.moment.cancelled = true := by simp
    rw [if_neg hcut, if_neg hzero]
    obtain ⟨hlast, hpassed⟩ := Agenda.passUntil_none (a.moment.after ms) a
    obtain ⟨hbloops, hbstate⟩ := Agenda.passUntil_alone (a.moment.after ms) none hloops
    refine ⟨(a.passUntil (a.moment.after ms) none).1, ?_, hbloops, ?_, hbstate.trans hstate⟩
    · rw [hpassed]
      rfl
    · rw [hlast, Moment.after]
      exact congrArg (· + min ms longestWait) hnow

theorem Ends.sleep (ms : Nat) : Ends (sleep ms) now s (now + min ms longestWait) s () :=
  Ends.bind (Ends.pause ms) (Ends.done ())

end Task

end ValidatorAlarm
