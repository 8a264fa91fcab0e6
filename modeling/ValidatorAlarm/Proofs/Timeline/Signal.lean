import ValidatorAlarm.Proofs.Timeline.Solitude

/-!
# Work that heeds a signal

Some work gives up as soon as a signal is cancelled: each of its waits is cut short, and then it has
nothing left to do but to say so.  Its `course` is how it goes if the signal is never cancelled, and
depends on nothing but the time and the state at its beginning.

On an agenda where the signal will be cancelled at a known time there are two ways.  Work whose course
is over by then takes its course.  All other work ends at the very time of the cancellation.
-/
namespace ValidatorAlarm

variable {σ α β : Type}

/-- A moment at which nothing has been cancelled. -/
def Moment.calm (now : Nat) : Moment := ⟨now, fun _ => false⟩

namespace Task

/-! ### The course of a task -/

/-- The time and the state in which a task ends, and its result, if nothing is ever cancelled. -/
def course : Task σ α → Nat → σ → Nat × σ × Option α
  | .done a, now, s => (now, s, some a)
  | .look next, now, s => (next (.calm now) s).course now s
  | .act change next, now, s => next.course now (change (.calm now) s)
  | .wait ms _ next, now, s => (next true).course (now + min ms longestWait) s
  | .hold _ _, now, s => (now, s, none)

theorem course_bind {t : Task σ α} {k : α → Task σ β} {now now' : Nat} {s s' : σ} {a : α}
    (h : t.course now s = (now', s', some a)) : (t.bind k).course now s = (k a).course now' s' := by
  induction t generalizing now s with
  | done b =>
    cases h
    rfl
  | look next ih => exact ih _ _ h
  | act change next ih => exact ih h
  | wait ms token next ih => exact ih true h
  | hold token next ih => cases h

theorem pause_course (ms : Nat) (token : Option Token) (now : Nat) (s : σ) :
    (pause ms token).course now s = (now + min ms longestWait, s, some true) := rfl

theorem le_course (t : Task σ α) (now : Nat) (s : σ) : now ≤ (t.course now s).1 := by
  induction t generalizing now s with
  | done a => exact Nat.le_refl now
  | look next ih => exact ih _ _ now s
  | act change next ih => exact ih now _
  | wait ms token next ih => exact Nat.le_trans (Nat.le_add_right now _) (ih true _ s)
  | hold token next ih => exact Nat.le_refl now

/-! ### Heeding a signal -/

/-- All that the task sees of a moment is the time and whether the signal is cancelled; and each of
its waits is for this signal, and the task ends with `x` if the wait is cut short. -/
def Heeds (token : Token) (x : α) : Task σ α → Prop
  | .done _ => True
  | .look next => (∀ m s, (next m s).Heeds token x) ∧
    ∀ m m' s, m.now = m'.now → m.cancelled token = m'.cancelled token → next m s = next m' s
  | .act change next => (∀ m m' s, m.now = m'.now → change m s = change m' s) ∧ next.Heeds token x
  | .wait _ cut next => cut = some token ∧ next false = .done x ∧ (next true).Heeds token x
  | .hold _ _ => False

variable {token : Token} {x : α} {y : β}

theorem Heeds.bind {t : Task σ α} {k : α → Task σ β} (ht : t.Heeds token x) (hx : k x = .done y)
    (hk : ∀ a, (k a).Heeds token y) : (t.bind k).Heeds token y := by
  induction t with
  | done a => exact hk a
  | look next ih =>
    refine ⟨fun m s => ih m s (ht.1 m s), ?_⟩
    intro m m' s hnow hcancelled
    exact congrArg (Task.bind · k) (ht.2 m m' s hnow hcancelled)
  | act change next ih => exact ⟨ht.1, ih ht.2⟩
  | wait ms cut next ih =>
    obtain ⟨hcut, hgiven, hnext⟩ := ht
    exact ⟨hcut, (congrArg (Task.bind · k) hgiven).trans hx, ih true hnext⟩
  | hold cut next ih => exact ht.elim

theorem Heeds.pause (ms : Nat) : (pause ms (some token) : Task σ Bool).Heeds token false :=
  ⟨rfl, rfl, trivial⟩

end Task

/-! ### When the signal is cancelled -/

namespace Agenda

/-- Nothing runs in the background, the signal has not been cancelled, and it will be at the given
time, or never. -/
structure Awaits (token : Token) (due : Option Nat) (a : Agenda σ) : Prop where
  loops : a.loops = []
  uncancelled : token ∉ a.cancelled
  planned : ∀ e ∈ a.planned, e.2 = token → due = some e.1
  ahead : ∀ time, due = some time → (time, token) ∈ a.planned ∧ a.now ≤ time

namespace Awaits

variable {token : Token} {due : Option Nat} {a : Agenda σ}

theorem never (hloops : a.loops = []) (hopen : token ∉ a.cancelled)
    (hplanned : ∀ e ∈ a.planned, e.2 ≠ token) : a.Awaits token none :=
  ⟨hloops, hopen, fun e he htoken => absurd htoken (hplanned e he), nofun⟩

/-- On an agenda without cancellations nobody cancels the signal. -/
theorem anew (token : Token) (now : Nat) (s : σ) : Awaits token none ⟨now, [], [], [], s⟩ :=
  never rfl List.not_mem_nil nofun

/-- The cancellation of a signal that nobody cancels can be planned. -/
theorem plan (h : a.Awaits token none) {time : Nat} (htime : a.now ≤ time) :
    Awaits token (some time) { a with planned := a.planned ++ [(time, token)] } := by
  refine ⟨h.loops, h.uncancelled, ?_, ?_⟩
  · intro e he htoken
    rcases List.mem_append.mp he with hold | hnew
    · cases h.planned e hold htoken
    · rw [List.mem_singleton.mp hnew]
  · intro other hother
    cases hother
    exact ⟨List.mem_append_right _ List.mem_cons_self, htime⟩

theorem closed (h : a.Awaits token due) : a.moment.cancelled token = false := by
  rw [← Bool.not_eq_true]
  intro hcancelled
  exact h.uncancelled (List.contains_iff_mem.mp hcancelled)

theorem change (h : a.Awaits token due) (s : σ) :
    Awaits token due { a with state := s } :=
  ⟨h.loops, h.uncancelled, h.planned, h.ahead⟩

theorem jump (h : a.Awaits token due) {time : Nat} (htime : ∀ c, due = some c → time ≤ c) :
    Awaits token due { a with now := time } :=
  ⟨h.loops, h.uncancelled, h.planned, fun c hc => ⟨(h.ahead c hc).1, htime c hc⟩⟩

/-- Before its time has come, nothing that is due cancels the signal. -/
theorem settle (h : a.Awaits token due) (hearly : ∀ c, due = some c → a.now < c) :
    a.settle.Awaits token due := by
  rw [settle_alone h.loops]
  refine ⟨h.loops, ?_, ?_, ?_⟩
  · intro hmem
    rcases List.mem_append.mp hmem with hdue | hold
    · obtain ⟨e, he, htoken⟩ := List.mem_map.mp hdue
      obtain ⟨hplanned, htime⟩ := List.mem_filter.mp he
      have hlate := hearly e.1 (h.planned e hplanned htoken)
      have hnow : e.1 ≤ a.now := by simpa using htime
      omega
    · exact h.uncancelled hold
  · intro e he
    exact h.planned e (List.mem_filter.mp he).1
  · intro c hc
    obtain ⟨hplanned, hnow⟩ := h.ahead c hc
    refine ⟨List.mem_filter.mpr ⟨hplanned, ?_⟩, hnow⟩
    simpa using hearly c hc

/-- When its time has come, it is cancelled. -/
theorem settle_due (h : a.Awaits token (some a.now)) :
    a.settle.moment.cancelled token = true := by
  rw [settle_alone h.loops]
  have hmem : (a.now, token) ∈ a.planned.filter (·.1 ≤ a.now) :=
    List.mem_filter.mpr ⟨(h.ahead a.now rfl).1, by simp⟩
  exact List.contains_iff_mem.mpr (List.mem_append_left _ (List.mem_map_of_mem hmem))

end Awaits

variable {token : Token} {due : Option Nat}

theorem settle_state {a : Agenda σ} (h : a.loops = []) : a.settle.state = a.state := by
  rw [settle_alone h]
  rfl

/-- A wait that ends before the cancellation takes its time. -/
theorem passUntil_calm {limit : Nat} {a : Agenda σ} (h : a.Awaits token due) (hnow : a.now < limit)
    (hlimit : ∀ c, due = some c → limit ≤ c) :
    ∃ b, a.passUntil limit (some token) = (b, true) ∧ b.Awaits token due ∧ b.now = limit ∧
      b.state = a.state := by
  have hturn : ∀ a : Agenda σ, a.Awaits token due → a.now < limit →
      a.settle.Awaits token due ∧ a.settle.state = a.state := by
    intro a h hnow
    exact ⟨h.settle fun c hc => Nat.lt_of_lt_of_le hnow (hlimit c hc), settle_state h.loops⟩
  fun_induction Agenda.passUntil limit (some token) a with
  | case1 a settled hcut =>
    have hclosed : settled.moment.cancelled token = false := (hturn a h hnow).1.closed
    rw [Option.any_some, hclosed] at hcut
    cases hcut
  | case2 a settled hcut hnext =>
    obtain ⟨hsettled, hstate⟩ := hturn a h hnow
    exact ⟨_, rfl, hsettled.jump hlimit, rfl, hstate⟩
  | case3 a settled hcut next hnext hlater ih =>
    obtain ⟨hsettled, hstate⟩ := hturn a h hnow
    have hjumped := hsettled.jump fun c hc =>
      Nat.le_trans (Nat.le_of_lt hlater.2) (hlimit c hc)
    obtain ⟨b, hpassed, hb, hbnow, hbstate⟩ := ih hjumped hlater.2
    exact ⟨b, hpassed, hb, hbnow, hbstate.trans hstate⟩
  | case4 a settled hcut next hnext hlater =>
    obtain ⟨hsettled, hstate⟩ := hturn a h hnow
    exact ⟨_, rfl, hsettled.jump hlimit, rfl, hstate⟩

/-- What comes after such a wait takes the same course as from here, as much later. -/
theorem passUntil_course {ms : Nat} (hms : ms ≠ 0) {a : Agenda σ} (h : a.Awaits token due)
    (hlimit : ∀ c, due = some c → a.moment.after ms ≤ c) (next : Task σ α) :
    ∃ b, a.passUntil (a.moment.after ms) (some token) = (b, true) ∧ b.Awaits token due ∧
      next.course (a.moment.after ms) a.state = next.course b.now b.state := by
  obtain ⟨b, hpassed, hb, hnow, hstate⟩ := passUntil_calm h (a.moment.lt_after hms) hlimit
  exact ⟨b, hpassed, hb, by rw [hnow, hstate]⟩

/-- A wait that would last longer is cut short at the time of the cancellation. -/
theorem passUntil_cut {limit time : Nat} {a : Agenda σ} (h : a.Awaits token (some time))
    (htime : time < limit) :
    (a.passUntil limit (some token)).2 = false ∧
      (a.passUntil limit (some token)).1.loops = [] ∧
      (a.passUntil limit (some token)).1.now = time := by
  -- a turn either comes too early, and then the next one does not come too late, or it cancels
  have hearly : ∀ a : Agenda σ, a.Awaits token (some time) → a.now < time →
      a.settle.Awaits token (some time) := by
    intro a h hnow
    apply h.settle
    intro c hc
    cases hc
    exact hnow
  have hopen : ∀ a : Agenda σ, a.Awaits token (some time) →
      ¬ (some token).any a.settle.moment.cancelled = true → a.now < time ∧
        ∃ next, a.settle.nextTime? = some next ∧ next ≤ time := by
    intro a h hopen
    rcases Nat.eq_or_lt_of_le (h.ahead time rfl).2 with hdue | hnow
    · subst hdue
      exact absurd h.settle_due hopen
    · exact ⟨hnow, nextTime_le (a := a.settle) hnow
        (List.mem_append_left _ (List.mem_map_of_mem ((hearly a h hnow).ahead time rfl).1))⟩
  fun_induction Agenda.passUntil limit (some token) a with
  | case1 a settled hcut =>
    rcases Nat.eq_or_lt_of_le (h.ahead time rfl).2 with hdue | hnow
    · refine ⟨rfl, ?_, hdue⟩
      rw [show settled = a.cancelDue from settle_alone h.loops]
      exact h.loops
    · have hclosed : settled.moment.cancelled token = false := (hearly a h hnow).closed
      rw [Option.any_some, hclosed] at hcut
      cases hcut
  | case2 a settled hcut hnext =>
    obtain ⟨-, next, hsome, -⟩ := hopen a h hcut
    cases hnext.symm.trans hsome
  | case3 a settled hcut next hnext hlater ih =>
    obtain ⟨hnow, other, hsome, hle⟩ := hopen a h hcut
    cases hnext.symm.trans hsome
    apply ih
    apply (hearly a h hnow).jump
    intro c hc
    cases hc
    exact hle
  | case4 a settled hcut next hnext hlater =>
    obtain ⟨-, other, hsome, hle⟩ := hopen a h hcut
    cases hnext.symm.trans hsome
    have hmem := (List.min?_eq_some_iff.mp hnext).1
    have hnow : settled.now < next := by simpa using (List.mem_filter.mp hmem).2
    exact absurd ⟨hnow, Nat.lt_of_le_of_lt hle htime⟩ hlater

/-! ### Two ways to end -/

/-- Work takes its course if that is over before the cancellation. -/
theorem perform_course {t : Task σ α} {x : α} (ht : t.Heeds token x) {a : Agenda σ}
    (ha : a.Awaits token due) (hdue : ∀ c, due = some c → (t.course a.now a.state).1 ≤ c) :
    ∃ b, a.perform t = (b, (t.course a.now a.state).2.2) ∧ b.Awaits token due ∧
      b.now = (t.course a.now a.state).1 ∧ b.state = (t.course a.now a.state).2.1 := by
  induction t generalizing a with
  | done y => exact ⟨a, rfl, ha, rfl, rfl⟩
  | look next ih =>
    have hnext : next a.moment a.state = next (.calm a.now) a.state :=
      ht.2 a.moment (.calm a.now) a.state rfl ha.closed
    rw [perform, hnext]
    exact ih _ _ (ht.1 _ _) ha hdue
  | act change next ih =>
    have hchange : change a.moment a.state = change (.calm a.now) a.state :=
      ht.1 a.moment (.calm a.now) a.state rfl
    rw [perform, hchange]
    exact ih ht.2 (ha.change _) hdue
  | wait ms cut next ih =>
    obtain ⟨rfl, -, hnext⟩ := ht
    rw [perform_wait, Option.any_some, ha.closed, if_neg Bool.false_ne_true]
    by_cases hzero : ms = 0
    · subst hzero
      rw [Task.course, Nat.zero_min, Nat.add_zero] at hdue ⊢
      exact ih true hnext ha hdue
    · rw [if_neg hzero]
      have hlimit : ∀ c, due = some c → a.moment.after ms ≤ c := fun c hc =>
        Nat.le_trans ((next true).le_course (a.moment.after ms) a.state) (hdue c hc)
      obtain ⟨b, hpassed, hb, hcourse⟩ := passUntil_course hzero ha hlimit (next true)
      rw [hpassed, Task.course]
      change (∀ c, due = some c → ((next true).course (a.moment.after ms) a.state).1 ≤ c) at hdue
      change ∃ b', b.perform (next true) =
          (b', ((next true).course (a.moment.after ms) a.state).2.2) ∧ _ ∧
        b'.now = ((next true).course (a.moment.after ms) a.state).1 ∧
        b'.state = ((next true).course (a.moment.after ms) a.state).2.1
      rw [hcourse] at hdue ⊢
      exact ih true hnext hb hdue
  | hold cut next ih => exact ht.elim

/-- Work that nobody cancels has taken its course when it is over. -/
theorem course_of_perform {t : Task σ α} {x y : α} (ht : t.Heeds token x) {a b : Agenda σ}
    (ha : a.Awaits token none) (h : a.perform t = (b, some y)) :
    t.course a.now a.state = (b.now, b.state, some y) ∧ b.Awaits token none := by
  obtain ⟨b', hperform, hb, hnow, hstate⟩ := perform_course ht ha nofun
  obtain ⟨rfl, hresult⟩ := Prod.mk.inj (h.symm.trans hperform)
  exact ⟨Prod.ext hnow.symm (Prod.ext hstate.symm hresult.symm), hb⟩

/-- Work whose course is not over by then ends at the time of the cancellation, and gives up. -/
theorem perform_cut {t : Task σ α} {x : α} (ht : t.Heeds token x) {time : Nat} {a : Agenda σ}
    (ha : a.Awaits token (some time)) (htime : time < (t.course a.now a.state).1) :
    ∃ b, a.perform t = (b, some x) ∧ b.loops = [] ∧ b.now = time := by
  induction t generalizing a with
  | done y =>
    have hnow : a.now ≤ time := (ha.ahead time rfl).2
    exact absurd htime (Nat.not_lt.mpr hnow)
  | look next ih =>
    have hnext : next a.moment a.state = next (.calm a.now) a.state :=
      ht.2 a.moment (.calm a.now) a.state rfl ha.closed
    rw [perform, hnext]
    exact ih _ _ (ht.1 _ _) ha htime
  | act change next ih =>
    have hchange : change a.moment a.state = change (.calm a.now) a.state :=
      ht.1 a.moment (.calm a.now) a.state rfl
    rw [perform, hchange]
    exact ih ht.2 (ha.change _) htime
  | wait ms cut next ih =>
    obtain ⟨rfl, hgiven, hnext⟩ := ht
    rw [perform_wait, Option.any_some, ha.closed, if_neg Bool.false_ne_true]
    by_cases hzero : ms = 0
    · subst hzero
      rw [Task.course, Nat.zero_min, Nat.add_zero] at htime
      exact ih true hnext ha htime
    · rw [if_neg hzero]
      by_cases hlimit : time < a.moment.after ms
      · -- the cancellation comes within this wait
        obtain ⟨hpassed, hloops, hnow⟩ := passUntil_cut ha hlimit
        rw [hpassed, hgiven]
        exact ⟨_, rfl, hloops, hnow⟩
      · have hcalm : ∀ c, some time = some c → a.moment.after ms ≤ c := by
          intro c hc
          cases hc
          exact Nat.le_of_not_lt hlimit
        obtain ⟨b, hpassed, hb, hcourse⟩ := passUntil_course hzero ha hcalm (next true)
        change time < ((next true).course (a.moment.after ms) a.state).1 at htime
        rw [hcourse] at htime
        rw [hpassed]
        exact ih true hnext hb htime
  | hold cut next ih => exact ht.elim

end Agenda

end ValidatorAlarm
