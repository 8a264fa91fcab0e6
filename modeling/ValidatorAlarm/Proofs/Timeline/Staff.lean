import Mathlib.Data.List.Perm.Basic
import ValidatorAlarm.Proofs.Timeline.Crew
import ValidatorAlarm.Proofs.Timeline.Passing
import ValidatorAlarm.Proofs.Timeline.Sequence

/-!
# The crew of an agenda

On an agenda the loops and the foreground take turns by the clock.  If all their work consists of the
jobs of a crew, then every run of the agenda is a run of that crew: it begins the jobs when the loops
and the foreground do, and lets its waiting tasks go on when they do.  So what holds after every run
of a crew holds at every time of an agenda.

A loop turns the result of a job into whether its cycle succeeded, and the foreground may be content
with less than the result of the job.  Both are about what comes after the job, and the state does not
depend on it.
-/
namespace ValidatorAlarm

variable {σ α β ι : Type}

/-! ### Moves -/

/-- The task that is left, if there is one. -/
def Progress.left : Progress σ α → List (Suspension σ α)
  | .finished _ => []
  | .waiting rest => [rest]

namespace Crew

theorem took_state (crew : Crew σ α) (got : σ × Progress σ α) : (crew.took got).state = got.1 := by
  obtain ⟨s, result | rest⟩ := got <;> rfl

theorem took_waiting (crew : Crew σ α) (got : σ × Progress σ α) :
    (crew.took got).waiting = crew.waiting ++ got.2.left := by
  obtain ⟨s, result | rest⟩ := got
  · exact (List.append_nil crew.waiting).symm
  · rfl

theorem run_append (jobs : ι → Task σ α) (moves later : List (Moment × Move ι)) (crew : Crew σ α) :
    crew.run jobs (moves ++ later) = (crew.run jobs moves).run jobs later := by
  induction moves generalizing crew with
  | nil => rfl
  | cons entry moves ih => exact ih _

end Crew

/-! ### Loops that do jobs -/

/-- The cycles of the loop are a job, and the loop waits with these tasks. -/
inductive Loop.Staffed (jobs : ι → Task σ α) (f : α → Bool) (l : Loop σ) :
    List (Suspension σ α) → Prop where
  | idle (job : ι) (hcycle : l.cycle = (jobs job).bind fun a => .done (f a))
      (hstage : ∀ rest, l.stage ≠ .working rest) : Staffed jobs f l []
  | working (job : ι) (hcycle : l.cycle = (jobs job).bind fun a => .done (f a))
      (rest : Suspension σ α)
      (hstage : l.stage = .working (rest.andThen fun a => .done (f a))) : Staffed jobs f l [rest]

/-- A run of the crew has come to the state `s`, and the tasks that wait are those of the loops and
some others. -/
structure Manned (jobs : ι → Task σ α) (f : α → Bool) (first : Crew σ α)
    (others : List (Suspension σ α)) (loops : List (Loop σ)) (s : σ) : Prop where
  crew : ∃ moves tasks, List.Forall₂ (Loop.Staffed jobs f) loops tasks ∧
    (first.run jobs moves).state = s ∧
    (first.run jobs moves).waiting.Perm (tasks.flatten ++ others)

namespace Manned

variable {jobs : ι → Task σ α} {f : α → Bool} {first : Crew σ α}
  {others : List (Suspension σ α)} {loops : List (Loop σ)} {s : σ}

theorem begin (h : Manned jobs f first others loops s) (m : Moment) (job : ι) :
    Manned jobs f first (((jobs job).run m s).2.left ++ others) loops ((jobs job).run m s).1 := by
  obtain ⟨moves, tasks, hloops, rfl, hwaiting⟩ := h
  refine ⟨moves ++ [(m, .begin job)], tasks, hloops, ?_, ?_⟩
  · rw [Crew.run_append]
    exact Crew.took_state _ _
  · rw [Crew.run_append]
    simp only [Crew.run, Crew.step, Crew.took_waiting]
    refine (hwaiting.append_right _).trans ?_
    rw [List.append_assoc]
    exact List.perm_append_comm.append_left _

theorem resume {rest : Suspension σ α} (h : Manned jobs f first (rest :: others) loops s)
    (m : Moment) :
    Manned jobs f first ((rest.resume m s).2.left ++ others) loops (rest.resume m s).1 := by
  obtain ⟨moves, tasks, hloops, rfl, hwaiting⟩ := h
  have hmem : rest ∈ (first.run jobs moves).waiting :=
    hwaiting.mem_iff.mpr (List.mem_append_right _ List.mem_cons_self)
  obtain ⟨place, hplace, hrest⟩ := List.mem_iff_getElem.mp hmem
  have hothers : ((first.run jobs moves).waiting.eraseIdx place).Perm (tasks.flatten ++ others) := by
    have herased := List.getElem_cons_eraseIdx_perm hplace
    rw [hrest] at herased
    exact (List.perm_cons rest).mp ((herased.trans hwaiting).trans List.perm_middle)
  refine ⟨moves ++ [(m, .resume place)], tasks, hloops, ?_, ?_⟩
  · rw [Crew.run_append]
    simp only [Crew.run, Crew.step, List.getElem?_eq_getElem hplace, hrest, Crew.took_state]
  · rw [Crew.run_append]
    simp only [Crew.run, Crew.step, List.getElem?_eq_getElem hplace, hrest, Crew.took_waiting]
    refine (hothers.append_right _).trans ?_
    rw [List.append_assoc]
    exact List.perm_append_comm.append_left _

theorem perm_loops {loops' : List (Loop σ)} (hperm : loops'.Perm loops)
    (h : Manned jobs f first others loops s) : Manned jobs f first others loops' s := by
  obtain ⟨moves, tasks, hloops, hstate, hwaiting⟩ := h
  obtain ⟨tasks', hloops', htasks⟩ := List.perm_comp_forall₂ hperm hloops
  exact ⟨moves, tasks', hloops', hstate, hwaiting.trans (htasks.flatten.symm.append_right _)⟩

/-- One loop is looked at by itself. -/
theorem cons_iff {l : Loop σ} :
    Manned jobs f first others (l :: loops) s ↔
      ∃ own, l.Staffed jobs f own ∧ Manned jobs f first (own ++ others) loops s := by
  constructor
  · rintro ⟨moves, tasks, hloops, hstate, hwaiting⟩
    cases hloops with
    | @cons _ own _ tasks hloop hloops =>
      refine ⟨own, hloop, moves, tasks, hloops, hstate, hwaiting.trans ?_⟩
      rw [List.flatten_cons, ← List.append_assoc]
      exact List.perm_append_comm.append_right _
  · rintro ⟨own, hloop, moves, tasks, hloops, hstate, hwaiting⟩
    refine ⟨moves, own :: tasks, .cons hloop hloops, hstate, hwaiting.trans ?_⟩
    rw [List.flatten_cons, ← List.append_assoc]
    exact List.perm_append_comm.append_right _

/-! ### The background -/

theorem took {l : Loop σ} (job : ι) (hcycle : l.cycle = (jobs job).bind fun a => .done (f a))
    {got : σ × Progress σ α} (h : Manned jobs f first (got.2.left ++ others) loops got.1)
    (m : Moment) :
    ∃ own, (l.took m (Progress.andThen m (fun a => .done (f a)) got).2).Staffed jobs f own ∧
      Manned jobs f first (own ++ others) loops
        (Progress.andThen m (fun a => .done (f a)) got).1 := by
  obtain ⟨s, result | rest⟩ := got
  · refine ⟨[], .idle job ?_ ?_, h⟩
    · simp only [Progress.andThen, Task.run, Loop.took]
      split <;> exact hcycle
    · intro rest hstage
      simp only [Progress.andThen, Task.run, Loop.took] at hstage
      split at hstage <;> cases hstage
  · refine ⟨[rest], .working job ?_ rest rfl, h⟩
    exact hcycle

theorem cycle {l : Loop σ} (job : ι) (hcycle : l.cycle = (jobs job).bind fun a => .done (f a))
    (h : Manned jobs f first others loops s) (m : Moment) :
    ∃ own, (l.took m (l.cycle.run m s).2).Staffed jobs f own ∧
      Manned jobs f first (own ++ others) loops (l.cycle.run m s).1 := by
  have htook := (h.begin m job).took job hcycle m
  rw [← Task.run_bind, ← hcycle] at htook
  exact htook

theorem step {l : Loop σ} {own : List (Suspension σ α)} (hloop : l.Staffed jobs f own)
    (h : Manned jobs f first (own ++ others) loops s) (m : Moment) :
    ∃ own', (l.step m s).2.Staffed jobs f own' ∧
      Manned jobs f first (own' ++ others) loops (l.step m s).1 := by
  cases hloop with
  | working job hcycle rest hstage =>
    have htook := (h.resume m).took job hcycle m
    rw [← Suspension.resume_andThen] at htook
    rw [Loop.step, hstage]
    exact htook
  | idle job hcycle hstage =>
    rw [Loop.step]
    cases hl : l.stage with
    | ready => exact h.cycle job hcycle m
    | working rest => exact absurd hl (hstage rest)
    | resting wake =>
      simp only
      split
      · refine ⟨[], .idle job hcycle ?_, h⟩
        intro rest hrest
        cases hrest
      · split
        · exact h.cycle job hcycle m
        · exact ⟨[], .idle job hcycle hstage, h⟩
    | _ => exact ⟨[], .idle job hcycle hstage, h⟩

theorem stepDue (h : Manned jobs f first others loops s) (m : Moment) :
    Manned jobs f first others ((Loop.stepDue m loops s).2.1 ++ (Loop.stepDue m loops s).2.2)
      (Loop.stepDue m loops s).1 := by
  induction loops generalizing others s with
  | nil => exact h
  | cons l loops ih =>
    obtain ⟨own, hloop, hrest⟩ := cons_iff.mp h
    rw [Loop.stepDue]
    split
    · obtain ⟨own', hloop', hrest'⟩ := hrest.step hloop m
      exact perm_loops List.perm_middle (cons_iff.mpr ⟨own', hloop', ih hrest'⟩)
    · exact cons_iff.mpr ⟨own, hloop, ih hrest⟩

end Manned

/-! ### The agenda -/

namespace Agenda

variable {jobs : ι → Task σ α} {f : α → Bool} {first : Crew σ α}
  {others : List (Suspension σ α)} {a : Agenda σ}

/-- A run of the crew has come to where the agenda is. -/
def Manned (jobs : ι → Task σ α) (f : α → Bool) (first : Crew σ α)
    (others : List (Suspension σ α)) (a : Agenda σ) : Prop :=
  ValidatorAlarm.Manned jobs f first others a.loops a.state

theorem Manned.settle (h : a.Manned jobs f first others) : a.settle.Manned jobs f first others :=
  h.stepDue a.cancelDue.moment

theorem Manned.passUntil (limit : Nat) (token : Option Token) (h : a.Manned jobs f first others) :
    (a.passUntil limit token).1.Manned jobs f first others := by
  fun_induction Agenda.passUntil limit token a with
  | case1 a settled hcut => exact h.settle
  | case2 a settled hcut hnext => exact h.settle
  | case3 a settled hcut next hnext hlater ih => exact ih h.settle
  | case4 a settled hcut next hnext hlater => exact h.settle

theorem Manned.advance (h : a.Manned jobs f first others) (ms : Nat) :
    (a.advance ms).Manned jobs f first others :=
  (h.passUntil _ none).settle

/-- How a wait in the foreground ends: its signal is cancelled, or its time has come. -/
theorem passUntil_ends (limit : Nat) (token : Option Token) (a : Agenda σ) :
    ((a.passUntil limit token).2 = false →
      token.any (a.passUntil limit token).1.moment.cancelled = true) ∧
    ((a.passUntil limit token).2 = true →
      token.any (a.passUntil limit token).1.moment.cancelled = false ∧
        (a.passUntil limit token).1.now = limit) := by
  fun_induction Agenda.passUntil limit token a with
  | case1 a settled hcut =>
    constructor
    · intro _
      exact hcut
    · intro hpassed
      cases hpassed
  | case2 a settled hcut hnext =>
    constructor
    · intro hpassed
      cases hpassed
    · intro _
      exact ⟨Bool.eq_false_iff.mpr hcut, rfl⟩
  | case3 a settled hcut next hnext hlater ih => exact ih
  | case4 a settled hcut next hnext hlater =>
    constructor
    · intro hpassed
      cases hpassed
    · intro _
      exact ⟨Bool.eq_false_iff.mpr hcut, rfl⟩

/-- So a task that waits in the foreground goes on as it does in a crew. -/
theorem resume_passUntil (limit : Nat) (token : Option Token) (a : Agenda σ)
    (next : Bool → Task σ α) (s : σ) :
    (Suspension.timed limit token next).resume (a.passUntil limit token).1.moment s =
      (next (a.passUntil limit token).2).run (a.passUntil limit token).1.moment s := by
  obtain ⟨hcut, htime⟩ := passUntil_ends limit token a
  rw [Suspension.resume]
  cases hpassed : (a.passUntil limit token).2 with
  | false => rw [if_pos (hcut hpassed)]
  | true =>
    obtain ⟨hopen, hnow⟩ := htime hpassed
    have hdue : limit ≤ (a.passUntil limit token).1.moment.now := Nat.le_of_eq hnow.symm
    rw [hopen, if_neg Bool.false_ne_true, if_pos hdue]

/-- Work in the foreground, from where it has got up to its first wait. -/
theorem Manned.perform (t : Task σ β) (g : β → α)
    (h : ValidatorAlarm.Manned jobs f first
      (((t.bind fun b => .done (g b)).run a.moment a.state).2.left ++ others) a.loops
      ((t.bind fun b => .done (g b)).run a.moment a.state).1) :
    ∃ others', (a.perform t).1.Manned jobs f first others' := by
  induction t generalizing a others with
  | done b => exact ⟨others, h⟩
  | look next ih => exact ih a.moment a.state h
  | act change next ih => exact ih (a := { a with state := change a.moment a.state }) h
  | wait ms token next ih =>
    rw [perform_wait]
    simp only [Task.bind, Task.run] at h
    split
    · rename_i hcut
      rw [if_pos hcut] at h
      exact ih false h
    · rename_i hcut
      rw [if_neg hcut] at h
      split
      · rename_i hzero
        rw [if_pos hzero] at h
        exact ih true h
      · rename_i hzero
        rw [if_neg hzero] at h
        have hpassed := Manned.passUntil (a.moment.after ms) token h
        have hresumed := ValidatorAlarm.Manned.resume hpassed
          (a.passUntil (a.moment.after ms) token).1.moment
        rw [resume_passUntil] at hresumed
        exact ih _ hresumed
  | hold token next ih =>
    rw [perform_hold]
    simp only [Task.bind, Task.run] at h
    split
    · rename_i hcut
      rw [if_pos hcut] at h
      exact ih h
    · rename_i hcut
      rw [if_neg hcut] at h
      have hpassed := Manned.passUntil (a.lastPlanned + 1) (some token) h
      split
      · exact ⟨_, hpassed⟩
      · rename_i hearly
        have hcancelled : (a.passUntil (a.lastPlanned + 1) (some token)).1.moment.cancelled token =
            true :=
          (passUntil_ends (a.lastPlanned + 1) (some token) a).1 (Bool.eq_false_iff.mpr hearly)
        have hresumed := ValidatorAlarm.Manned.resume hpassed
          (a.passUntil (a.lastPlanned + 1) (some token)).1.moment
        rw [Suspension.resume, if_pos hcancelled] at hresumed
        exact ih hresumed

theorem Manned.foreground (h : a.Manned jobs f first others) (job : ι) {t : Task σ β} (g : β → α)
    (ht : (t.bind fun b => .done (g b)).run a.moment a.state = (jobs job).run a.moment a.state) :
    ∃ others', (a.perform t).1.Manned jobs f first others' := by
  have hbegun := h.begin a.moment job
  rw [← ht] at hbegun
  exact Manned.perform t g hbegun

theorem Manned.addLoop (h : a.Manned jobs f first others) {l : Loop σ} (job : ι)
    (hcycle : l.cycle = (jobs job).bind fun b => .done (f b)) (hready : l.stage = .ready) :
    (a.addLoop l).Manned jobs f first others := by
  have hstage : ∀ rest, l.stage ≠ .working rest := by
    intro rest hrest
    rw [hready] at hrest
    cases hrest
  have hloops := ValidatorAlarm.Manned.cons_iff.mpr ⟨[], .idle job hcycle hstage, h⟩
  exact ValidatorAlarm.Manned.perm_loops (List.perm_append_singleton l a.loops) hloops

theorem Manned.start (jobs : ι → Task σ α) (f : α → Bool) (s : σ) :
    (Agenda.start s).Manned jobs f ⟨s, []⟩ [] :=
  ⟨[], [], .nil, rfl, .refl []⟩

end Agenda

end ValidatorAlarm
