import ValidatorAlarm.Proofs.Timeline.Companion
import ValidatorAlarm.Proofs.Timeline.Notes

/-!
# The journal of a loop

An agenda keeps no record of the cycles that its loops begin.  So one of the loops gets a journal
beside the state: it notes when each of its cycles begins, whether its signal is cancelled by then,
and when the cycle ends.  The other loops and the foreground do what they do, and none of them notices
the journal (`journal_perform`).

What the loop notes in one step is a function of where it stands (`Loop.jottings`), and all that is
due at one time is one such step of this loop (`settle_watched`), whatever the others do.
-/
namespace ValidatorAlarm

variable {σ τ ν α : Type}

/-! ### Work and loops that take no notes -/

namespace Noted

/-- A waiting task that takes no notes. -/
def liftRest : Suspension σ α → Suspension (Noted σ ν) α
  | .timed wake token next => .timed wake token fun passed => lift (next passed)
  | .held token next => .held token (lift next)

def liftProgress : Progress σ α → Progress (Noted σ ν) α
  | .finished result => .finished result
  | .waiting rest => .waiting (liftRest rest)

theorem lift_run (t : Task σ α) (m : Moment) (n : Noted σ ν) :
    (lift t).run m n = (⟨(t.run m n.state).1, n.notes⟩, liftProgress (t.run m n.state).2) := by
  induction t generalizing n with
  | done a => rfl
  | look next ih => exact ih m n.state n
  | act change next ih => exact ih { n with state := change m n.state }
  | wait ms token next ih =>
    rw [lift, Task.run, Task.run]
    split
    · exact ih false n
    · split
      · exact ih true n
      · rfl
  | hold token next ih =>
    rw [lift, Task.run, Task.run]
    split
    · exact ih n
    · rfl

theorem liftRest_resume (rest : Suspension σ α) (m : Moment) (n : Noted σ ν) :
    (liftRest rest).resume m n =
      (⟨(rest.resume m n.state).1, n.notes⟩, liftProgress (rest.resume m n.state).2) := by
  cases rest with
  | timed wake token next =>
    rw [liftRest, Suspension.resume, Suspension.resume]
    split
    · exact lift_run (next false) m n
    · split
      · exact lift_run (next true) m n
      · rfl
  | held token next =>
    rw [liftRest, Suspension.resume, Suspension.resume]
    split
    · exact lift_run next m n
    · rfl

theorem liftRest_follows (rest : Suspension σ α) :
    (liftRest rest : Suspension (Noted σ ν) α).Follows Noted.state rest := by
  cases rest with
  | timed wake token next => exact .timed wake token fun passed => lift_follows (next passed)
  | held token next => exact .held token (lift_follows next)

end Noted

def Stage.lift : Stage σ → Stage (Noted σ ν)
  | .ready => .ready
  | .working rest => .working (Noted.liftRest rest)
  | .resting wake => .resting wake
  | .over => .over

namespace Loop

def lift (l : Loop σ) : Loop (Noted σ ν) := ⟨Noted.lift l.cycle, l.token, l.rest, l.stage.lift⟩

theorem took_lift (l : Loop σ) (m : Moment) (got : Progress σ Bool) :
    (l.lift : Loop (Noted σ ν)).took m (Noted.liftProgress got) = (l.took m got).lift := by
  cases got with
  | finished succeeded =>
    have htoken : (l.lift : Loop (Noted σ ν)).token = l.token := rfl
    rw [Noted.liftProgress, took, took, htoken]
    cases m.cancelled l.token <;> rfl
  | waiting rest => rfl

/-- A loop that takes no notes leaves those of others alone. -/
theorem lift_step (l : Loop σ) (m : Moment) (n : Noted σ ν) :
    l.lift.step m n = (⟨(l.step m n.state).1, n.notes⟩, (l.step m n.state).2.lift) := by
  obtain ⟨cycle, token, rest, stage⟩ := l
  cases stage with
  | ready =>
    simp only [lift, Stage.lift, step, Noted.lift_run]
    exact congrArg _ (took_lift ⟨cycle, token, rest, .ready⟩ m _)
  | working suspended =>
    simp only [lift, Stage.lift, step, Noted.liftRest_resume]
    exact congrArg _ (took_lift ⟨cycle, token, rest, .working suspended⟩ m _)
  | resting wake =>
    simp only [lift, Stage.lift, step, Noted.lift_run]
    split
    · rfl
    · split
      · exact congrArg _ (took_lift ⟨cycle, token, rest, .resting wake⟩ m _)
      · rfl
  | _ => rfl

theorem lift_follows (l : Loop σ) : (l.lift : Loop (Noted σ ν)).Follows Noted.state l := by
  refine ⟨Noted.lift_follows l.cycle, rfl, rfl, ?_⟩
  obtain ⟨cycle, token, rest, stage⟩ := l
  cases stage with
  | ready => exact .ready
  | working suspended => exact .working (Noted.liftRest_follows suspended)
  | resting wake => exact .resting wake
  | _ => exact .ended

end Loop

/-! ### The loop with a journal -/

/-- What a loop notes about its cycles. -/
inductive CycleNote where
  /-- A cycle begins; its signal is cancelled by then, or not. -/
  | begun (time : Nat) (cancelled : Bool)
  | ended (time : Nat) (succeeded : Bool)
deriving DecidableEq, Repr

namespace CycleNote

def noteBegin (token : Token) : Task (Noted σ CycleNote) Unit :=
  Noted.jot fun m notes => .begun m.now (m.cancelled token) :: notes

def noteEnd (succeeded : Bool) : Task (Noted σ CycleNote) Bool :=
  (Noted.jot fun m notes => .ended m.now succeeded :: notes).bind fun _ => .done succeeded

/-- What is noted about a cycle that got so far. -/
def ending (m : Moment) : Progress σ Bool → List CycleNote
  | .finished succeeded => [.ended m.now succeeded]
  | .waiting _ => []

theorem noteEnd_follows (t : Task σ Bool) :
    ((Noted.lift t).bind noteEnd).Follows Noted.state t := by
  have hnote (succeeded : Bool) : (noteEnd succeeded).Follows Noted.state (.done succeeded : Task σ _) :=
    Noted.jot_bind_follows (.done succeeded)
  have hboth := Task.Follows.bind (Noted.lift_follows t) hnote
  rwa [Task.bind_done] at hboth

/-- The end of a cycle is noted when it comes. -/
theorem andThen_noteEnd (m : Moment) (n : Noted σ CycleNote) (got : Progress σ Bool) :
    Progress.andThen m noteEnd (n, Noted.liftProgress got) =
      (⟨n.state, ending m got ++ n.notes⟩,
        match got with
        | .finished succeeded => .finished succeeded
        | .waiting rest => .waiting ((Noted.liftRest rest).andThen noteEnd)) := by
  cases got <;> rfl

end CycleNote

open CycleNote

/-- The stage of a loop that keeps a journal. -/
def Stage.journal : Stage σ → Stage (Noted σ CycleNote)
  | .ready => .ready
  | .working rest => .working ((Noted.liftRest rest).andThen noteEnd)
  | .resting wake => .resting wake
  | .over => .over

namespace Loop

/-- The loop with a journal of its cycles. -/
def journal (l : Loop σ) : Loop (Noted σ CycleNote) where
  cycle := (noteBegin l.token).bind fun _ => (Noted.lift l.cycle).bind noteEnd
  token := l.token
  rest := l.rest
  stage := l.stage.journal

/-- What the loop notes when it begins a cycle. -/
def opening (m : Moment) (l : Loop σ) (s : σ) : List CycleNote :=
  ending m (l.cycle.run m s).2 ++ [.begun m.now (m.cancelled l.token)]

/-- What the loop notes in one step. -/
def jottings (m : Moment) (l : Loop σ) (s : σ) : List CycleNote :=
  match l.stage with
  | .ready => l.opening m s
  | .working rest => ending m (rest.resume m s).2
  | .resting wake =>
    if m.cancelled l.token then [] else if wake ≤ m.now then l.opening m s else []
  | .over => []

theorem journal_follows (l : Loop σ) : l.journal.Follows Noted.state l := by
  refine ⟨Noted.jot_bind_follows (noteEnd_follows l.cycle), rfl, rfl, ?_⟩
  obtain ⟨cycle, token, rest, stage⟩ := l
  cases stage with
  | ready => exact .ready
  | working suspended =>
    apply Stage.Follows.working
    cases suspended with
    | timed wake token next => exact .timed wake token fun passed => noteEnd_follows (next passed)
    | held token next => exact .held token (noteEnd_follows next)
  | resting wake => exact .resting wake
  | _ => exact .ended

theorem took_journal (l : Loop σ) (m : Moment) (got : Progress σ Bool) :
    l.journal.took m (match got with
      | .finished succeeded => .finished succeeded
      | .waiting rest => .waiting ((Noted.liftRest rest).andThen noteEnd)) =
      (l.took m got).journal := by
  cases got with
  | finished succeeded =>
    have htoken : l.journal.token = l.token := rfl
    rw [took, took, htoken]
    cases m.cancelled l.token <;> rfl
  | waiting rest => rfl

theorem journal_cycle_run (l : Loop σ) (m : Moment) (n : Noted σ CycleNote) :
    l.journal.cycle.run m n =
      (⟨(l.cycle.run m n.state).1, l.opening m n.state ++ n.notes⟩,
        match (l.cycle.run m n.state).2 with
        | .finished succeeded => .finished succeeded
        | .waiting rest => .waiting ((Noted.liftRest rest).andThen noteEnd)) := by
  have hbegun : l.journal.cycle.run m n =
      ((Noted.lift l.cycle).bind noteEnd).run m
        ⟨n.state, .begun m.now (m.cancelled l.token) :: n.notes⟩ := rfl
  rw [hbegun, Task.run_bind, Noted.lift_run, andThen_noteEnd, opening, List.append_assoc]
  rfl

theorem journal_step (l : Loop σ) (m : Moment) (n : Noted σ CycleNote) :
    l.journal.step m n =
      (⟨(l.step m n.state).1, l.jottings m n.state ++ n.notes⟩, (l.step m n.state).2.journal) := by
  obtain ⟨cycle, token, rest, stage⟩ := l
  cases stage with
  | ready =>
    simp only [step, jottings, journal_cycle_run, ← took_journal]
    rfl
  | working suspended =>
    have hresumed : ((Noted.liftRest suspended).andThen noteEnd).resume m n = _ :=
      (Suspension.resume_andThen m _ noteEnd n).trans
        (congrArg _ (Noted.liftRest_resume suspended m n))
    simp only [step, jottings, journal, Stage.journal, hresumed, andThen_noteEnd]
    exact congrArg _ (took_journal ⟨cycle, token, rest, .working suspended⟩ m _)
  | resting wake =>
    have hstage : (journal ⟨cycle, token, rest, .resting wake⟩).stage = .resting wake := rfl
    have htoken : (journal ⟨cycle, token, rest, .resting wake⟩).token = token := rfl
    simp only [step, jottings, hstage, htoken]
    by_cases hcut : m.cancelled token
    · rw [if_pos hcut, if_pos hcut, if_pos hcut]
      rfl
    · rw [if_neg hcut, if_neg hcut, if_neg hcut]
      by_cases hwake : wake ≤ m.now
      · rw [if_pos hwake, if_pos hwake, if_pos hwake, journal_cycle_run, ← took_journal]
      · rw [if_neg hwake, if_neg hwake, if_neg hwake]
        rfl
  | _ => rfl

/-! ### One loop among others -/

/-- The loops, of which the one at a place keeps a journal. -/
def journalAt : Nat → List (Loop σ) → List (Loop (Noted σ CycleNote))
  | _, [] => []
  | 0, l :: ls => l.journal :: ls.map lift
  | place + 1, l :: ls => l.lift :: journalAt place ls

theorem journalAt_follows (place : Nat) (ls : List (Loop σ)) :
    List.Forall₂ (Loop.Follows Noted.state) (journalAt place ls) ls := by
  induction ls generalizing place with
  | nil => cases place <;> exact .nil
  | cons l ls ih =>
    cases place with
    | zero =>
      refine .cons l.journal_follows ?_
      rw [List.forall₂_map_left_iff, List.forall₂_same]
      exact fun l _ => l.lift_follows
    | succ place => exact .cons l.lift_follows (ih place)

/-- None of the loops takes notes. -/
def Silent (ls : List (Loop (Noted σ ν))) : Prop := ∃ others : List (Loop σ), ls = others.map lift

/-- The loop keeps a journal, and none of the others takes notes. -/
def Watched (l : Loop σ) (ls : List (Loop (Noted σ CycleNote))) : Prop :=
  ∃ before after, Silent before ∧ Silent after ∧ ls = before ++ l.journal :: after

theorem Silent.append {ls ls' : List (Loop (Noted σ ν))} (h : Silent ls) (h' : Silent ls') :
    Silent (ls ++ ls') := by
  obtain ⟨others, rfl⟩ := h
  obtain ⟨others', rfl⟩ := h'
  exact ⟨others ++ others', List.map_append.symm⟩

theorem Silent.cons {l : Loop σ} {ls : List (Loop (Noted σ ν))} (h : Silent ls) :
    Silent (l.lift :: ls) := by
  obtain ⟨others, rfl⟩ := h
  exact ⟨l :: others, rfl⟩

variable {l : Loop σ} {ls ls' : List (Loop (Noted σ CycleNote))}

theorem Watched.append_silent (h : Watched l ls) (h' : Silent ls') : Watched l (ls ++ ls') := by
  obtain ⟨before, after, hbefore, hafter, rfl⟩ := h
  exact ⟨before, after ++ ls', hbefore, hafter.append h', by simp⟩

theorem Silent.append_watched (h : Silent ls) (h' : Watched l ls') : Watched l (ls ++ ls') := by
  obtain ⟨before, after, hbefore, hafter, rfl⟩ := h'
  exact ⟨ls ++ before, after, h.append hbefore, hafter, by simp⟩

theorem Watched.cons {other : Loop σ} (h : Watched l ls) : Watched l (other.lift :: ls) :=
  Silent.append_watched ⟨[other], rfl⟩ h

theorem Watched.mem (h : Watched l ls) : l.journal ∈ ls := by
  obtain ⟨before, after, -, -, rfl⟩ := h
  exact List.mem_append_right _ List.mem_cons_self

theorem journalAt_watched {place : Nat} {all : List (Loop σ)} (h : all[place]? = some l) :
    Watched l (journalAt place all) := by
  induction all generalizing place with
  | nil => simp at h
  | cons other all ih =>
    cases place with
    | zero =>
      obtain rfl : other = l := by simpa using h
      exact ⟨[], all.map lift, ⟨[], rfl⟩, ⟨all, rfl⟩, rfl⟩
    | succ place => exact (ih (by simpa using h)).cons

/-! ### What is due -/

/-- A loop that has nothing to do notes nothing. -/
theorem jottings_idle {m : Moment} (h : l.isDue m = false) (s : σ) : l.jottings m s = [] := by
  have hidle : l.journal.isDue m = false := (l.journal_follows.isDue m).trans h
  have hstep := congrArg (·.1.notes) (l.journal_step m ⟨s, []⟩)
  rw [Agenda.step_idle hidle] at hstep
  simpa using hstep.symm

theorem stepDue_silent (m : Moment) (others : List (Loop σ)) (n : Noted σ ν) :
    (stepDue m (others.map lift) n).1.notes = n.notes ∧
      Silent (stepDue m (others.map lift) n).2.1 ∧ Silent (stepDue m (others.map lift) n).2.2 := by
  induction others generalizing n with
  | nil => exact ⟨rfl, ⟨[], rfl⟩, ⟨[], rfl⟩⟩
  | cons other others ih =>
    rw [List.map_cons, stepDue]
    split
    · rw [lift_step]
      obtain ⟨hnotes, hidle, hran⟩ := ih ⟨(other.step m n.state).1, n.notes⟩
      exact ⟨hnotes, hidle, hran.cons⟩
    · obtain ⟨hnotes, hidle, hran⟩ := ih n
      exact ⟨hnotes, hidle.cons, hran⟩

/-- Whatever else is due, the loop takes its step, and notes what there is to note. -/
theorem stepDue_watched {m : Moment} (h : Watched l ls) (n : Noted σ CycleNote) :
    ∃ s, (stepDue m ls n).1.notes = l.jottings m s ++ n.notes ∧
      Watched (l.step m s).2 ((stepDue m ls n).2.1 ++ (stepDue m ls n).2.2) := by
  obtain ⟨_, _, ⟨before, rfl⟩, ⟨after, rfl⟩, rfl⟩ := h
  suffices ∃ s, (stepDue m (before.map lift ++ l.journal :: after.map lift) n).1.notes =
        l.jottings m s ++ n.notes ∧
      (Watched (l.step m s).2 (stepDue m (before.map lift ++ l.journal :: after.map lift) n).2.1 ∧
          Silent (stepDue m (before.map lift ++ l.journal :: after.map lift) n).2.2 ∨
        Silent (stepDue m (before.map lift ++ l.journal :: after.map lift) n).2.1 ∧
          Watched (l.step m s).2
            (stepDue m (before.map lift ++ l.journal :: after.map lift) n).2.2) by
    obtain ⟨s, hnotes, ⟨hidle, hran⟩ | ⟨hidle, hran⟩⟩ := this
    · exact ⟨s, hnotes, hidle.append_silent hran⟩
    · exact ⟨s, hnotes, hidle.append_watched hran⟩
  induction before generalizing n with
  | nil =>
    refine ⟨n.state, ?_⟩
    rw [List.map_nil, List.nil_append, stepDue, l.journal_follows.isDue m]
    cases hdue : l.isDue m with
    | true =>
      rw [if_pos rfl, journal_step]
      obtain ⟨hnotes, hidle, hran⟩ :=
        stepDue_silent m after ⟨(l.step m n.state).1, l.jottings m n.state ++ n.notes⟩
      exact ⟨hnotes, .inr ⟨hidle, Silent.append_watched ⟨[], rfl⟩ ⟨[], _, ⟨[], rfl⟩, hran, rfl⟩⟩⟩
    | false =>
      rw [if_neg Bool.false_ne_true, jottings_idle hdue, Agenda.step_idle hdue]
      obtain ⟨hnotes, hidle, hran⟩ := stepDue_silent m after n
      exact ⟨hnotes, .inl ⟨⟨[], _, ⟨[], rfl⟩, hidle, rfl⟩, hran⟩⟩
  | cons other before ih =>
    rw [List.map_cons, List.cons_append, stepDue]
    split
    · rw [lift_step]
      obtain ⟨s, hnotes, hloops⟩ := ih ⟨(other.step m n.state).1, n.notes⟩
      refine ⟨s, hnotes, ?_⟩
      rcases hloops with ⟨hidle, hran⟩ | ⟨hidle, hran⟩
      · exact .inl ⟨hidle, hran.cons⟩
      · exact .inr ⟨hidle, hran.cons⟩
    · obtain ⟨s, hnotes, hloops⟩ := ih n
      refine ⟨s, hnotes, ?_⟩
      rcases hloops with ⟨hidle, hran⟩ | ⟨hidle, hran⟩
      · exact .inl ⟨hidle.cons, hran⟩
      · exact .inr ⟨hidle.cons, hran⟩

end Loop

namespace Agenda

/-- The agenda, on which the loop at a place keeps a journal. -/
def journal (place : Nat) (a : Agenda σ) : Agenda (Noted σ CycleNote) where
  now := a.now
  cancelled := a.cancelled
  planned := a.planned
  loops := Loop.journalAt place a.loops
  state := ⟨a.state, []⟩

/-- What the loop at a place notes while some work is done in the foreground, the last first. -/
def notesAt (place : Nat) (work : Task σ α) (a : Agenda σ) : List CycleNote :=
  ((a.journal place).perform (Noted.lift work)).1.state.notes

theorem settle_watched {a : Agenda (Noted σ CycleNote)} {l : Loop σ} (h : Loop.Watched l a.loops) :
    ∃ s, a.settle.state.notes = l.jottings a.settle.moment s ++ a.state.notes ∧
      Loop.Watched (l.step a.settle.moment s).2 a.settle.loops :=
  Loop.stepDue_watched (m := a.cancelDue.moment) h a.state

/-! ### Nobody notices the journal -/

theorem journal_follows (place : Nat) (a : Agenda σ) : (a.journal place).Follows Noted.state a :=
  ⟨rfl, rfl, rfl, Loop.journalAt_follows place a.loops, rfl⟩

theorem Follows.perform {view : τ → σ} {t : Task τ α} {t' : Task σ α} (ht : t.Follows view t')
    {a : Agenda τ} {a' : Agenda σ} (h : a.Follows view a') :
    (a.perform t).1.Follows view (a'.perform t').1 ∧ (a.perform t).2 = (a'.perform t').2 := by
  induction ht generalizing a a' with
  | done x => exact ⟨h, rfl⟩
  | look hnext ih =>
    have hgot := ih a.moment a.state h
    rw [h.moment, h.state] at hgot
    simpa only [Agenda.perform, h.moment] using hgot
  | act hchange hnext ih =>
    have hstate := hchange a.moment a.state
    rw [h.moment, h.state] at hstate
    exact ih ⟨h.now, h.cancelled, h.planned, h.loops, by rw [h.moment]; exact hstate⟩
  | aside hchange hnext ih =>
    exact ih ⟨h.now, h.cancelled, h.planned, h.loops, (hchange a.moment a.state).trans h.state⟩
  | wait ms token hnext ih =>
    rw [perform_wait, perform_wait, h.moment]
    split
    · exact ih false h
    · split
      · exact ih true h
      · obtain ⟨hpassed, hresult⟩ := h.passUntil (a'.moment.after ms) token
        rw [hresult]
        exact ih _ hpassed
  | hold token hnext ih =>
    have hlast : a.lastPlanned = a'.lastPlanned := by
      rw [lastPlanned, lastPlanned, h.planned, h.now]
    rw [perform_hold, perform_hold, h.moment, hlast]
    split
    · exact ih h
    · obtain ⟨hpassed, hresult⟩ := h.passUntil (a'.lastPlanned + 1) (some token)
      rw [hresult]
      split
      · exact ⟨hpassed, rfl⟩
      · exact ih hpassed

/-- With and without a journal an agenda comes to the same point, and so does the work in the
foreground. -/
theorem journal_perform (place : Nat) (work : Task σ α) (a : Agenda σ) :
    ((a.journal place).perform (Noted.lift work)).1.Follows Noted.state (a.perform work).1 ∧
      ((a.journal place).perform (Noted.lift work)).2 = (a.perform work).2 :=
  (a.journal_follows place).perform (Noted.lift_follows work)

end Agenda

end ValidatorAlarm
