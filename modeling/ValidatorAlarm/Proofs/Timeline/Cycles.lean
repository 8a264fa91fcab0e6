import ValidatorAlarm.Proofs.Timeline.Journal

/-!
# Which cycles a loop begins

Two things can be said about the journal of a loop, whatever other loops there are.  Once its signal
is cancelled, the loop begins no further cycle, unless it has not begun any: then it begins a single
one, which finds the signal cancelled (`notesAt_of_cancelled`).  As long as its signal is not
cancelled, it begins a cycle exactly when the one before it has ended and it has rested
(`notesAt_onTime`).

Both are invariants of the single step that the loop takes whenever something is due.
-/
namespace ValidatorAlarm

variable {σ ν α : Type}

/-! ### One step -/

namespace Loop

section Step

variable (l : Loop σ) (m : Moment) (s : σ)

theorem took_kept (got : Progress σ Bool) :
    (l.took m got).token = l.token ∧ (l.took m got).rest = l.rest ∧
      (l.took m got).stage ≠ .ready := by
  cases got with
  | finished succeeded =>
    rw [took]
    split
    · exact ⟨rfl, rfl, by simp⟩
    · exact ⟨rfl, rfl, by simp⟩
  | waiting rest => exact ⟨rfl, rfl, by simp [took]⟩

/-- A step leaves the signal and the rests alone, and the loop has begun its first cycle. -/
theorem step_kept :
    (l.step m s).2.token = l.token ∧ (l.step m s).2.rest = l.rest ∧
      (l.step m s).2.stage ≠ .ready := by
  obtain ⟨cycle, token, rest, stage⟩ := l
  cases stage with
  | ready => exact took_kept ⟨cycle, token, rest, .ready⟩ m _
  | working suspended => exact took_kept ⟨cycle, token, rest, .working suspended⟩ m _
  | resting wake =>
    simp only [step]
    split
    · exact ⟨rfl, rfl, by simp⟩
    · split
      · exact took_kept ⟨cycle, token, rest, .resting wake⟩ m _
      · exact ⟨rfl, rfl, by simp⟩
  | _ => exact ⟨rfl, rfl, by simp [step]⟩

theorem not_begun_ending (got : Progress σ Bool) (time : Nat) (cancelled : Bool) :
    .begun time cancelled ∉ CycleNote.ending m got := by
  cases got <;> simp [CycleNote.ending]

variable {l m s}

/-- A step that begins a cycle notes whether the signal is cancelled; after a rest it is not. -/
theorem begun_of_mem_jottings {time : Nat} {cancelled : Bool}
    (h : .begun time cancelled ∈ l.jottings m s) :
    cancelled = m.cancelled l.token ∧ (l.stage = .ready ∨ cancelled = false) := by
  have hopening (h : .begun time cancelled ∈ l.opening m s) : cancelled = m.cancelled l.token := by
    rcases List.mem_append.mp h with hending | hbegun
    · exact absurd hending (not_begun_ending m _ time cancelled)
    · obtain ⟨-, hcancelled⟩ := CycleNote.begun.inj (List.mem_singleton.mp hbegun)
      exact hcancelled
  rw [jottings] at h
  split at h
  · rename_i hready
    exact ⟨hopening h, .inl hready⟩
  · exact absurd h (not_begun_ending m _ time cancelled)
  · split at h
    · cases h
    · rename_i hopen
      split at h
      · have hcancelled := hopening h
        rw [Bool.not_eq_true] at hopen
        exact ⟨hcancelled, .inr (hcancelled.trans hopen)⟩
      · cases h
  · cases h

end Step

/-! ### On time -/

/-- The time at which the loop is to begin a cycle, unless a cycle runs.  A loop that is ready begins
at once. -/
def due? (now : Nat) (l : Loop σ) : Option Nat :=
  match l.stage with
  | .ready => some now
  | .resting wake => some wake
  | _ => none

/-- Notes of cycles that are on time: a cycle begins when it is due, with a signal that is not
cancelled, and the next one is due when it has ended and the loop has rested.  The first and the last
argument say which cycle is due before and after the notes; none is while a cycle runs. -/
inductive OnTime (rest : Bool → Nat) (first : Option Nat) : List CycleNote → Option Nat → Prop
  | start : OnTime rest first [] first
  | begins {notes : List CycleNote} {due : Nat} (h : OnTime rest first notes (some due)) :
      OnTime rest first (.begun due false :: notes) none
  | ends {notes : List CycleNote} (time : Nat) (succeeded : Bool)
      (h : OnTime rest first notes none) :
      OnTime rest first (.ended time succeeded :: notes)
        (some (time + min (rest succeeded) longestWait))

section OnTime

variable {l : Loop σ} {m : Moment} {first : Option Nat} {notes : List CycleNote}

theorem due?_of_not_ready (h : l.stage ≠ .ready) (now now' : Nat) : l.due? now = l.due? now' := by
  rw [due?, due?]
  split
  · rename_i hready
    exact absurd hready h
  · rfl
  · rfl

theorem OnTime.took (h : OnTime l.rest first notes none) (hopen : m.cancelled l.token = false)
    (got : Progress σ Bool) :
    OnTime l.rest first (CycleNote.ending m got ++ notes) ((l.took m got).due? m.now) := by
  cases got with
  | finished succeeded =>
    rw [Loop.took, if_neg (by rw [hopen]; exact Bool.false_ne_true)]
    exact .ends m.now succeeded h
  | waiting rest => exact h

theorem OnTime.opening (h : OnTime l.rest first notes (some m.now))
    (hopen : m.cancelled l.token = false) (s : σ) :
    OnTime l.rest first (l.opening m s ++ notes) ((l.took m (l.cycle.run m s).2).due? m.now) := by
  have hbegun := h.begins
  rw [← hopen] at hbegun
  rw [Loop.opening, List.append_assoc]
  exact hbegun.took hopen _

/-- A step of a loop that is not late keeps its notes on time. -/
theorem OnTime.step (h : OnTime l.rest first notes (l.due? m.now))
    (hopen : m.cancelled l.token = false) (hlate : ∀ due, l.due? m.now = some due → m.now ≤ due)
    (s : σ) : OnTime l.rest first (l.jottings m s ++ notes) ((l.step m s).2.due? m.now) := by
  obtain ⟨cycle, token, rest, stage⟩ := l
  cases stage with
  | ready => exact h.opening hopen s
  | working suspended => exact h.took hopen _
  | resting wake =>
    have hcut : ¬ m.cancelled token = true := by
      rw [show m.cancelled token = false from hopen]
      exact Bool.false_ne_true
    simp only [jottings, Loop.step, if_neg hcut]
    by_cases hwake : wake ≤ m.now
    · obtain rfl : m.now = wake := Nat.le_antisymm (hlate wake rfl) hwake
      rw [if_pos hwake, if_pos hwake]
      exact h.opening hopen s
    · rw [if_neg hwake, if_neg hwake]
      exact h
  | _ => exact h

/-- After a step the next cycle lies ahead, since the loop rests for some time. -/
theorem due_after_step (hrest : ∀ succeeded, 0 < l.rest succeeded)
    (hopen : m.cancelled l.token = false) (s : σ) {due : Nat}
    (h : (l.step m s).2.due? m.now = some due) : m.now < due := by
  have hpos : 0 < longestWait := by decide
  have htook (got : Progress σ Bool) (h : (l.took m got).due? m.now = some due) : m.now < due := by
    cases got with
    | finished succeeded =>
      rw [took, if_neg (by rw [hopen]; exact Bool.false_ne_true)] at h
      have hdue : m.now + min (l.rest succeeded) longestWait = due := Option.some.inj h
      have hsome := hrest succeeded
      omega
    | waiting rest => cases h
  obtain ⟨cycle, token, rest, stage⟩ := l
  cases stage with
  | ready => exact htook _ h
  | working suspended => exact htook _ h
  | resting wake =>
    have hcut : ¬ m.cancelled token = true := by
      rw [show m.cancelled token = false from hopen]
      exact Bool.false_ne_true
    simp only [step, if_neg hcut] at h
    split at h
    · exact htook _ h
    · rename_i hwake
      obtain rfl : wake = due := Option.some.inj h
      exact Nat.lt_of_not_le hwake
  | _ => cases h

end OnTime

end Loop

/-! ### All that happens -/

namespace Agenda

/-- What is kept when something is due and when the clock is set is kept while time passes. -/
theorem passUntil_always {I : Agenda σ → Prop} (hsettle : ∀ a, I a → I a.settle)
    (hclock : ∀ a time, I a → I { a with now := time }) (limit : Nat) (token : Option Token)
    {a : Agenda σ} (h : I a) : I (a.passUntil limit token).1 := by
  fun_induction Agenda.passUntil limit token a with
  | case1 a settled hcut => exact hsettle a h
  | case2 a settled hcut hnext => exact hclock _ limit (hsettle a h)
  | case3 a settled hcut next hnext hlater ih => exact ih (hclock _ next (hsettle a h))
  | case4 a settled hcut next hnext hlater => exact hclock _ limit (hsettle a h)

/-- The same for all work that takes no notes. -/
theorem perform_lift_always {I : Agenda (Noted σ ν) → Prop} (hsettle : ∀ a, I a → I a.settle)
    (hclock : ∀ a time, I a → I { a with now := time })
    (hstate : ∀ a s, I a → I { a with state := ⟨s, a.state.notes⟩ }) (work : Task σ α)
    {a : Agenda (Noted σ ν)} (h : I a) : I (a.perform (Noted.lift work)).1 := by
  induction work generalizing a with
  | done x => exact h
  | look next ih => exact ih _ _ h
  | act change next ih => exact ih (hstate a _ h)
  | wait ms token next ih =>
    rw [Noted.lift, perform_wait]
    split
    · exact ih false h
    · split
      · exact ih true h
      · exact ih _ (passUntil_always hsettle hclock _ token h)
  | hold token next ih =>
    rw [Noted.lift, perform_hold]
    split
    · exact ih h
    · have hpassed := passUntil_always hsettle hclock (a.lastPlanned + 1) (some token) h
      split
      · exact hpassed
      · exact ih hpassed

/-- Work that takes no notes, and comes to its end in time alone, keeps what a turn of the clock
does. -/
theorem perform_lift_keeps {I S : Agenda (Noted σ ν) → Prop} (hsettle : ∀ a, I a → S a.settle)
    (hjump : ∀ a time, S a → a.now ≤ time → (∀ next, a.nextTime? = some next → time ≤ next) →
      I { a with now := time })
    (hweaken : ∀ a, S a → I a) (hstate : ∀ a s, I a → I { a with state := ⟨s, a.state.notes⟩ })
    {F : Frame σ} {work : Task σ α} (hwork : work.Keeps F) {a : Agenda (Noted σ ν)} (h : I a) :
    I (a.perform (Noted.lift work)).1 := by
  induction work generalizing a with
  | done x => exact h
  | look next ih => exact ih _ _ (hwork _ _) h
  | act change next ih => exact ih hwork.2 (hstate a _ h)
  | wait ms token next ih =>
    rw [Noted.lift, perform_wait]
    split
    · exact ih false (hwork false) h
    · split
      · exact ih true (hwork true) h
      · have hpassed := passUntil_keeps hsettle hjump (a.moment.after ms) token h
          (Nat.le_add_right a.now _)
        refine ih _ (hwork _) ?_
        cases hcut : (a.passUntil (a.moment.after ms) token).2 with
        | true => exact hpassed.1 hcut
        | false => exact hweaken _ (hpassed.2 hcut)
  | hold token next ih => exact hwork.elim

theorem settle_cancelled {a : Agenda σ} {token : Token} (h : a.moment.cancelled token = true) :
    a.settle.moment.cancelled token = true := by
  have hmem : token ∈ a.cancelled := by simpa [Agenda.moment] using h
  simpa [Agenda.moment, Agenda.settle, Agenda.runDue, Agenda.cancelDue] using Or.inr hmem

theorem settle_uncancelled {a : Agenda σ} {token : Token} (h : a.moment.cancelled token = false)
    (hplanned : ∀ e ∈ a.planned, e.2 ≠ token) :
    a.settle.moment.cancelled token = false ∧ ∀ e ∈ a.settle.planned, e.2 ≠ token := by
  have hmem : token ∉ a.cancelled := by simpa [Agenda.moment] using h
  constructor
  · have hdue : token ∉ (a.planned.filter (·.1 ≤ a.now)).map (·.2) := by
      intro hdue
      obtain ⟨e, he, hsame⟩ := List.mem_map.mp hdue
      exact hplanned e (List.mem_filter.mp he).1 hsame
    have hboth : token ∉ a.settle.cancelled := by
      intro hcancelled
      exact (List.mem_append.mp hcancelled).elim hdue hmem
    simpa [Agenda.moment] using hboth
  · intro e he
    exact hplanned e (List.mem_filter.mp he).1

/-! ### A loop whose signal is cancelled -/

/-- The signal of the loop in the journal is cancelled, and every cycle that it has begun has found it
so.  If it was not ready at first, it has begun none. -/
structure Called (token : Token) (ready : Prop) (a : Agenda (Noted σ CycleNote)) : Prop where
  cancelled : a.moment.cancelled token = true
  loop : ∃ l : Loop σ, Loop.Watched l a.loops ∧ l.token = token ∧ (l.stage = .ready → ready)
  begun : ∀ time cancelled, .begun time cancelled ∈ a.state.notes → cancelled = true ∧ ready

theorem Called.settle {token : Token} {ready : Prop} {a : Agenda (Noted σ CycleNote)}
    (h : Called token ready a) : Called token ready a.settle := by
  obtain ⟨l, hwatched, htoken, hready⟩ := h.loop
  obtain ⟨s, hnotes, hwatched'⟩ := settle_watched hwatched
  have hcancelled := settle_cancelled h.cancelled
  obtain ⟨htoken', -, hstage⟩ := l.step_kept a.settle.moment s
  refine ⟨hcancelled, ⟨_, hwatched', htoken'.trans htoken, fun h => absurd h hstage⟩, ?_⟩
  intro time cancelled hbegun
  rw [hnotes] at hbegun
  rcases List.mem_append.mp hbegun with hnew | hold
  · obtain ⟨hsignal, hfirst⟩ := Loop.begun_of_mem_jottings hnew
    rw [htoken, hcancelled] at hsignal
    subst hsignal
    exact ⟨rfl, hready (hfirst.resolve_right (Bool.noConfusion ·))⟩
  · exact h.begun time cancelled hold

/-- **After its signal is cancelled, a loop begins no cycle**, whatever happens; one that was about to
begin its first begins it with the signal cancelled. -/
theorem notesAt_of_cancelled {a : Agenda σ} {place : Nat} {l : Loop σ}
    (hl : a.loops[place]? = some l) (hcancelled : a.moment.cancelled l.token = true)
    (work : Task σ α) {time : Nat} {cancelled : Bool}
    (hbegun : .begun time cancelled ∈ a.notesAt place work) :
    cancelled = true ∧ l.stage = .ready := by
  have hstart : Called l.token (l.stage = .ready) (a.journal place) :=
    ⟨hcancelled, ⟨l, Loop.journalAt_watched hl, rfl, id⟩, nofun⟩
  have hend : Called l.token (l.stage = .ready)
      ((a.journal place).perform (Noted.lift work)).1 :=
    perform_lift_always (I := Called l.token (l.stage = .ready)) (fun _ => Called.settle)
      (fun _ _ h => ⟨h.cancelled, h.loop, h.begun⟩)
      (fun _ _ h => ⟨h.cancelled, h.loop, h.begun⟩) work hstart
  exact hend.begun time cancelled hbegun

/-! ### A loop whose signal is not cancelled -/

/-- The loop in the journal is on time, and not late for its next cycle. -/
structure Prompt (token : Token) (rest : Bool → Nat) (first : Option Nat)
    (a : Agenda (Noted σ CycleNote)) : Prop where
  open_ : a.moment.cancelled token = false
  planned : ∀ e ∈ a.planned, e.2 ≠ token
  loop : ∃ l : Loop σ, Loop.Watched l a.loops ∧ l.token = token ∧ l.rest = rest ∧
    Loop.OnTime rest first a.state.notes (l.due? a.now) ∧
    ∀ due, l.due? a.now = some due → a.now ≤ due

/-- The same after all that is due now has taken place: the next cycle lies ahead. -/
structure Prompt.Settled (token : Token) (rest : Bool → Nat) (first : Option Nat)
    (a : Agenda (Noted σ CycleNote)) : Prop where
  open_ : a.moment.cancelled token = false
  planned : ∀ e ∈ a.planned, e.2 ≠ token
  loop : ∃ l : Loop σ, Loop.Watched l a.loops ∧ l.token = token ∧ l.rest = rest ∧
    Loop.OnTime rest first a.state.notes (l.due? a.now) ∧ l.stage ≠ .ready ∧
    ∀ due, l.due? a.now = some due → a.now < due

section Prompt

variable {token : Token} {rest : Bool → Nat} {first : Option Nat}
  {a : Agenda (Noted σ CycleNote)}

theorem Prompt.settle (hrest : ∀ succeeded, 0 < rest succeeded) (h : Prompt token rest first a) :
    Prompt.Settled token rest first a.settle := by
  obtain ⟨l, hwatched, rfl, rfl, hontime, hlate⟩ := h.loop
  obtain ⟨s, hnotes, hwatched'⟩ := settle_watched hwatched
  obtain ⟨hopen, hplanned⟩ := settle_uncancelled h.open_ h.planned
  obtain ⟨htoken', hrest', hstage⟩ := l.step_kept a.settle.moment s
  refine ⟨hopen, hplanned, _, hwatched', htoken', hrest', ?_, hstage, ?_⟩
  · rw [hnotes]
    exact Loop.OnTime.step (m := a.settle.moment) hontime hopen hlate s
  · intro due hdue
    exact Loop.due_after_step (m := a.settle.moment) hrest hopen s hdue

theorem Prompt.Settled.prompt (h : Prompt.Settled token rest first a) :
    Prompt token rest first a := by
  obtain ⟨l, hwatched, htoken, hrest, hontime, -, hahead⟩ := h.loop
  exact ⟨h.open_, h.planned, l, hwatched, htoken, hrest, hontime,
    fun due hdue => Nat.le_of_lt (hahead due hdue)⟩

/-- The clock does not jump over the beginning of a cycle. -/
theorem Prompt.Settled.jump (h : Prompt.Settled token rest first a) {time : Nat}
    (htime : ∀ next, a.nextTime? = some next → time ≤ next) :
    Prompt token rest first { a with now := time } := by
  obtain ⟨l, hwatched, htoken, hrest, hontime, hstage, hahead⟩ := h.loop
  have hsame := Loop.due?_of_not_ready hstage time a.now
  refine ⟨h.open_, h.planned, l, hwatched, htoken, hrest, ?_, ?_⟩
  · rw [hsame]
    exact hontime
  · intro due hdue
    rw [hsame] at hdue
    have hwake : l.journal.wake? = some due := by
      rw [l.journal_follows.wake?]
      rw [Loop.due?] at hdue
      rw [Loop.wake?]
      split at hdue
      · rename_i hready
        exact absurd hready hstage
      · rename_i hresting
        rw [hresting]
        exact hdue
      · cases hdue
    obtain ⟨next, hnext, hle⟩ := nextTime_le (hahead due hdue)
      (List.mem_append_right _ (List.mem_filterMap.mpr ⟨l.journal, hwatched.mem, hwake⟩))
    exact Nat.le_trans (htime next hnext) hle

/-- **As long as its signal is not cancelled, a loop is on time.**  Work in the foreground and other
loops make no difference to when it begins its cycles. -/
theorem notesAt_onTime {a : Agenda σ} {place : Nat} {l : Loop σ} (hl : a.loops[place]? = some l)
    (hopen : a.moment.cancelled l.token = false) (hplanned : ∀ e ∈ a.planned, e.2 ≠ l.token)
    (hrest : ∀ succeeded, 0 < l.rest succeeded)
    (hlate : ∀ due, l.due? a.now = some due → a.now ≤ due) {F : Frame σ} {work : Task σ α}
    (hwork : work.Keeps F) :
    (a.perform work).1.moment.cancelled l.token = false ∧
      ∃ next, Loop.OnTime l.rest (l.due? a.now) (a.notesAt place work) next ∧
        ∀ due, next = some due → (a.perform work).1.now ≤ due := by
  have hstart : Prompt l.token l.rest (l.due? a.now) (a.journal place) :=
    ⟨hopen, hplanned, l, Loop.journalAt_watched hl, rfl, rfl, .start, hlate⟩
  have hend : Prompt l.token l.rest (l.due? a.now)
      ((a.journal place).perform (Noted.lift work)).1 :=
    perform_lift_keeps (fun _ h => h.settle hrest) (fun _ _ h _ htime => h.jump htime)
      (fun _ h => h.prompt) (fun _ _ h => ⟨h.open_, h.planned, h.loop⟩) hwork hstart
  obtain ⟨hfollows, -⟩ := journal_perform place work a
  obtain ⟨l', -, -, -, hontime, hnext⟩ := hend.loop
  rw [← hfollows.moment, ← hfollows.now]
  exact ⟨hend.open_, _, hontime, hnext⟩

end Prompt

end Agenda

end ValidatorAlarm
