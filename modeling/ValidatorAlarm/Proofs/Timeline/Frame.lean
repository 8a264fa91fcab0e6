import ValidatorAlarm.Timeline.Task

/-!
# Frames

A frame says how the shared state may differ before and after: nothing has to change, and two changes
in a row make one.  A task keeps a frame if each of its single changes does, whatever it sees when it
looks, and if it never waits for a cancellation only, so that time alone brings it to its end.
-/
namespace ValidatorAlarm

/-- How a state may differ before and after. -/
structure Frame (σ : Type) where
  Allows : σ → σ → Prop
  refl : ∀ s, Allows s s
  trans : ∀ {s₁ s₂ s₃}, Allows s₁ s₂ → Allows s₂ s₃ → Allows s₁ s₃

variable {σ α β : Type} {F : Frame σ}

/-- The frame in which a view of the state stays the same. -/
def Frame.fixed {ν : Type} (view : σ → ν) : Frame σ where
  Allows s s' := view s' = view s
  refl _ := rfl
  trans h₁ h₂ := h₂.trans h₁

/-- What can be told from the view stays the same as well. -/
theorem Frame.fixed_part {ν μ : Type} {view : σ → ν} {s s' : σ} (part : ν → μ)
    (h : (fixed view).Allows s s') : part (view s') = part (view s) :=
  congrArg part h

/-- What two frames allow both. -/
def Frame.and (F G : Frame σ) : Frame σ where
  Allows s s' := F.Allows s s' ∧ G.Allows s s'
  refl s := ⟨F.refl s, G.refl s⟩
  trans h₁ h₂ := ⟨F.trans h₁.1 h₂.1, G.trans h₁.2 h₂.2⟩

/-- Each change that the task makes stays within the frame, and all its waits are for time. -/
def Task.Keeps (F : Frame σ) : Task σ α → Prop
  | .done _ => True
  | .look next => ∀ m s, (next m s).Keeps F
  | .act change next => (∀ m s, F.Allows s (change m s)) ∧ next.Keeps F
  | .wait _ _ next => ∀ passed, (next passed).Keeps F
  | .hold _ _ => False

namespace Task

theorem Keeps.bind {t : Task σ α} {k : α → Task σ β} (ht : t.Keeps F) (hk : ∀ a, (k a).Keeps F) :
    (t.bind k).Keeps F := by
  induction t with
  | done a => exact hk a
  | look next ih => exact fun m s => ih m s (ht m s)
  | act change next ih => exact ⟨ht.1, ih ht.2⟩
  | wait ms token next ih => exact fun passed => ih passed (ht passed)
  | hold token next ih => exact ht.elim

/-- A frame that allows more is kept as well. -/
theorem Keeps.mono {G : Frame σ} {t : Task σ α} (h : ∀ s s', F.Allows s s' → G.Allows s s')
    (ht : t.Keeps F) : t.Keeps G := by
  induction t with
  | done a => trivial
  | look next ih => exact fun m s => ih m s (ht m s)
  | act change next ih => exact ⟨fun m s => h _ _ (ht.1 m s), ih ht.2⟩
  | wait ms token next ih => exact fun passed => ih passed (ht passed)
  | hold token next ih => exact ht.elim

theorem Keeps.pause (ms : Nat) (token : Option Token) : (pause ms token).Keeps F :=
  fun _ => trivial

theorem Keeps.sleep (ms : Nat) : (sleep ms).Keeps F := fun _ => trivial

theorem Keeps.moment_bind {k : Moment → Task σ α} (h : ∀ m, (k m).Keeps F) :
    (moment.bind k).Keeps F := fun m _ => h m

theorem Keeps.update {step : σ → σ × α} (h : ∀ s, F.Allows s (step s).1) : (update step).Keeps F :=
  fun _ _ => ⟨fun _ s => h s, trivial⟩

end Task

/-! ### Up to the next wait -/

/-- What a waiting task still does stays within the frame. -/
def Suspension.Keeps (F : Frame σ) : Suspension σ α → Prop
  | .timed _ _ next => ∀ passed, (next passed).Keeps F
  | .held _ _ => False

/-- A task has got this far from the state `s` within the frame, and waits for a time still to come
unless it has ended. -/
def Progress.Keeps (F : Frame σ) (m : Moment) (s : σ) : σ × Progress σ α → Prop
  | (s', .finished _) => F.Allows s s'
  | (s', .waiting rest) =>
    F.Allows s s' ∧ rest.Keeps F ∧ ∀ wake, rest.wake? = some wake → m.now < wake

theorem Progress.Keeps.trans {m : Moment} {s₁ s₂ : σ} {got : σ × Progress σ α}
    (h : F.Allows s₁ s₂) (hgot : Progress.Keeps F m s₂ got) : Progress.Keeps F m s₁ got := by
  obtain ⟨s, result | rest⟩ := got
  · exact F.trans h hgot
  · exact ⟨F.trans h hgot.1, hgot.2⟩

theorem Moment.lt_after (m : Moment) {ms : Nat} (h : ms ≠ 0) : m.now < m.after ms := by
  have hpos : 0 < longestWait := by decide
  rw [Moment.after]
  omega

theorem Task.Keeps.run {t : Task σ α} (ht : t.Keeps F) (m : Moment) (s : σ) :
    Progress.Keeps F m s (t.run m s) := by
  induction t generalizing s with
  | done a => exact F.refl s
  | look next ih => exact ih m s (ht m s) s
  | act change next ih => exact Progress.Keeps.trans (ht.1 m s) (ih ht.2 (change m s))
  | wait ms token next ih =>
    rw [Task.run]
    split
    · exact ih false (ht false) s
    · split
      · exact ih true (ht true) s
      · rename_i hlong
        refine ⟨F.refl s, ht, ?_⟩
        intro wake hwake
        cases hwake
        exact m.lt_after hlong
  | hold token next ih => exact ht.elim

theorem Suspension.Keeps.resume {rest : Suspension σ α} (hrest : rest.Keeps F) (m : Moment) (s : σ) :
    Progress.Keeps F m s (rest.resume m s) := by
  cases rest with
  | timed wake token next =>
    rw [Suspension.resume]
    split
    · exact (hrest false).run m s
    · split
      · exact (hrest true).run m s
      · rename_i hearly
        refine ⟨F.refl s, hrest, ?_⟩
        intro other hother
        cases hother
        exact Nat.lt_of_not_le hearly
  | held token next => exact hrest.elim

end ValidatorAlarm
