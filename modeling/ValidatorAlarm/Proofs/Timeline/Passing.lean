import ValidatorAlarm.Timeline.Agenda

/-!
# Passing time

Time passes in turns: what is due takes place, and then the clock jumps, but never beyond the next
point in time at which something is due.  So a property of all that happens while time passes follows
from two facts, one about each half of a turn, and no proof has to look at the time loop again.

`Punctual` says that nothing is overdue, and `Ahead` that everything which is still to come lies
ahead.  A jump leads from the second to the first.
-/
namespace ValidatorAlarm

variable {σ : Type}

namespace Agenda

def Punctual (a : Agenda σ) : Prop :=
  (∀ e ∈ a.planned, a.now ≤ e.1) ∧ ∀ l ∈ a.loops, ∀ wake, l.wake? = some wake → a.now ≤ wake

def Ahead (a : Agenda σ) : Prop :=
  (∀ e ∈ a.planned, a.now < e.1) ∧ ∀ l ∈ a.loops, ∀ wake, l.wake? = some wake → a.now < wake

/-- The next time is at most every time at which something is due. -/
theorem nextTime_le {a : Agenda σ} {time : Nat} (hnow : a.now < time)
    (hdue : time ∈ a.planned.map (·.1) ++ a.loops.filterMap Loop.wake?) :
    ∃ next, a.nextTime? = some next ∧ next ≤ time := by
  have hmem : time ∈ (a.planned.map (·.1) ++ a.loops.filterMap Loop.wake?).filter (a.now < ·) := by
    rw [List.mem_filter]
    exact ⟨hdue, by simpa using hnow⟩
  cases hnext : a.nextTime? with
  | none =>
    rw [nextTime?, List.min?_eq_none_iff] at hnext
    rw [hnext] at hmem
    cases hmem
  | some next =>
    rw [nextTime?] at hnext
    exact ⟨next, rfl, (List.min?_eq_some_iff.mp hnext).2 time hmem⟩

theorem Ahead.jump {a : Agenda σ} (h : a.Ahead) {time : Nat}
    (htime : ∀ next, a.nextTime? = some next → time ≤ next) :
    Punctual { a with now := time } := by
  constructor
  · intro e he
    obtain ⟨next, hnext, hle⟩ := nextTime_le (h.1 e he)
      (List.mem_append_left _ (List.mem_map_of_mem he))
    exact Nat.le_trans (htime next hnext) hle
  · intro l hl wake hwake
    obtain ⟨next, hnext, hle⟩ := nextTime_le (h.2 l hl wake hwake)
      (List.mem_append_right _ (List.mem_filterMap.mpr ⟨l, hl, hwake⟩))
    exact Nat.le_trans (htime next hnext) hle

/-! ### Properties of all that happens -/

theorem passUntil_none (limit : Nat) (a : Agenda σ) :
    (a.passUntil limit none).1.now = limit ∧ (a.passUntil limit none).2 = true := by
  fun_induction Agenda.passUntil limit none a with
  | case1 a settled hcut => cases hcut
  | case2 a settled hcut hnext => exact ⟨rfl, rfl⟩
  | case3 a settled hcut next hnext hlater ih => exact ih
  | case4 a settled hcut next hnext hlater => exact ⟨rfl, rfl⟩

variable {I S : Agenda σ → Prop}

/-- If settling leads from `I` to `S`, and a jump from `S` to `I`, then time that passes leads from
`I` to `I`, or to `S` if it is cut short. -/
theorem passUntil_keeps (hsettle : ∀ a, I a → S a.settle)
    (hjump : ∀ a time, S a → a.now ≤ time → (∀ next, a.nextTime? = some next → time ≤ next) →
      I { a with now := time })
    (limit : Nat) (token : Option Token) {a : Agenda σ} (h : I a) (hlimit : a.now ≤ limit) :
    ((a.passUntil limit token).2 = true → I (a.passUntil limit token).1) ∧
      ((a.passUntil limit token).2 = false → S (a.passUntil limit token).1) := by
  fun_induction Agenda.passUntil limit token a with
  | case1 a settled hcut =>
    constructor
    · intro hpassed
      cases hpassed
    · intro _
      exact hsettle a h
  | case2 a settled hcut hnext =>
    constructor
    · intro _
      refine hjump settled limit (hsettle a h) hlimit ?_
      intro next hsome
      rw [hnext] at hsome
      cases hsome
    · intro hpassed
      cases hpassed
  | case3 a settled hcut next hnext hlater ih =>
    refine ih ?_ (Nat.le_of_lt hlater.2)
    refine hjump settled next (hsettle a h) (Nat.le_of_lt hlater.1) ?_
    intro other hother
    rw [hnext] at hother
    exact Nat.le_of_eq (Option.some.inj hother)
  | case4 a settled hcut next hnext hlater =>
    constructor
    · intro _
      refine hjump settled limit (hsettle a h) hlimit ?_
      intro other hother
      rw [hnext] at hother
      cases hother
      have hmem := (List.min?_eq_some_iff.mp hnext).1
      have hnow : settled.now < next := by simpa using (List.mem_filter.mp hmem).2
      have hsame : settled.now = a.now := rfl
      omega
    · intro hpassed
      cases hpassed

theorem advance_keeps (hsettle : ∀ a, I a → S a.settle)
    (hjump : ∀ a time, S a → a.now ≤ time → (∀ next, a.nextTime? = some next → time ≤ next) →
      I { a with now := time })
    (ms : Nat) {a : Agenda σ} (h : I a) : S (a.advance ms) := by
  have hlimit : a.now ≤ a.moment.after ms := Nat.le_add_right a.now _
  have hpassed := (passUntil_none (a.moment.after ms) a).2
  exact hsettle _ ((passUntil_keeps hsettle hjump _ none h hlimit).1 hpassed)

/-! ### At most one loop -/

theorem cancelDue_eq {a : Agenda σ} (h : a.planned = []) : a.cancelDue = a := by
  obtain ⟨now, cancelled, planned, loops, state⟩ := a
  cases h
  rfl

theorem settle_alone {a : Agenda σ} (h : a.loops = []) : a.settle = a.cancelDue := by
  have hloops : a.cancelDue.loops = [] := h
  rw [settle, runDue, hloops]
  simp only [Loop.stepDue, List.append_nil]
  rw [← hloops]

theorem step_idle {l : Loop σ} {m : Moment} (h : l.isDue m = false) (s : σ) :
    l.step m s = (s, l) := by
  obtain ⟨cycle, token, rest, stage⟩ := l
  cases stage with
  | ready => cases h
  | working suspension =>
    cases suspension with
    | timed wake cut next =>
      simp only [Loop.isDue, Bool.or_eq_false_iff, decide_eq_false_iff_not] at h
      simp only [Loop.step, Suspension.resume, h.1, h.2, if_false, Bool.false_eq_true]
      rfl
    | held cut next =>
      simp only [Loop.isDue] at h
      simp only [Loop.step, Suspension.resume, h, if_false, Bool.false_eq_true]
      rfl
  | resting wake =>
    simp only [Loop.isDue, Bool.or_eq_false_iff, decide_eq_false_iff_not] at h
    simp only [Loop.step, h.1, h.2, if_false, Bool.false_eq_true]
  | _ => rfl

/-- With one loop, settling means that this loop goes as far as it gets. -/
theorem settle_single {a : Agenda σ} {l : Loop σ} (hloops : a.loops = [l]) :
    a.settle = { a.cancelDue with
      loops := [(l.step a.cancelDue.moment a.state).2]
      state := (l.step a.cancelDue.moment a.state).1 } := by
  have hloops' : a.cancelDue.loops = [l] := hloops
  have hstate : a.cancelDue.state = a.state := rfl
  rw [settle, runDue, hloops', hstate]
  cases hdue : l.isDue a.cancelDue.moment with
  | false => simp [Loop.stepDue, hdue, step_idle hdue]
  | true => simp [Loop.stepDue, hdue]

end Agenda

end ValidatorAlarm
