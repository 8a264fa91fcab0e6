import ValidatorAlarm.Proofs.Poller.LifeCycle
import ValidatorAlarm.Proofs.Timeline.Follow

/-!
# Agendas with notes

Loops whose cycles follow those of other loops make an agenda that follows the other one: everything
is due at the same times, and the part of the state that both have in common is the same whenever time
has passed.  So notes may be taken of what a poller does without any effect on what it does.
-/
namespace ValidatorAlarm

variable {τ σ α : Type} {view : τ → σ} {m : Moment}

/-! ### Loops -/

inductive Stage.Follows (view : τ → σ) : Stage τ → Stage σ → Prop where
  | ready : Follows view .ready .ready
  | working {rest : Suspension τ Bool} {rest' : Suspension σ Bool} (h : rest.Follows view rest') :
      Follows view (.working rest) (.working rest')
  | resting (wake : Nat) : Follows view (.resting wake) (.resting wake)
  | ended : Follows view .over .over

/-- One loop at the same point as another. -/
structure Loop.Follows (view : τ → σ) (l : Loop τ) (l' : Loop σ) : Prop where
  cycle : l.cycle.Follows view l'.cycle
  token : l.token = l'.token
  rest : l.rest = l'.rest
  stage : l.stage.Follows view l'.stage

namespace Loop

variable {l : Loop τ} {l' : Loop σ}

theorem Follows.isDue (h : l.Follows view l') (m : Moment) : l.isDue m = l'.isDue m := by
  obtain ⟨cycle, token, rest, stage⟩ := l
  obtain ⟨cycle', token', rest', stage'⟩ := l'
  obtain ⟨-, rfl, -, hstage⟩ := h
  cases hstage with
  | working hrest => cases hrest <;> rfl
  | _ => rfl

theorem Follows.wake? (h : l.Follows view l') : l.wake? = l'.wake? := by
  obtain ⟨cycle, token, rest, stage⟩ := l
  obtain ⟨cycle', token', rest', stage'⟩ := l'
  obtain ⟨-, -, -, hstage⟩ := h
  cases hstage with
  | working hrest => cases hrest <;> rfl
  | _ => rfl

theorem Follows.took (h : l.Follows view l') (m : Moment) {got : τ × Progress τ Bool}
    {got' : σ × Progress σ Bool} (hgot : Progress.Follows view got got') :
    view got.1 = got'.1 ∧ (l.took m got.2).Follows view (l'.took m got'.2) := by
  obtain ⟨hcycle, htoken, hrest, -⟩ := h
  cases hgot with
  | finished s succeeded =>
    refine ⟨rfl, ?_⟩
    rw [Loop.took, Loop.took, htoken, hrest]
    split
    · exact ⟨hcycle, rfl, rfl, .ended⟩
    · exact ⟨hcycle, rfl, rfl, .resting _⟩
  | waiting s hwaiting => exact ⟨rfl, hcycle, htoken, hrest, .working hwaiting⟩

theorem Follows.step (h : l.Follows view l') (m : Moment) (s : τ) :
    view (l.step m s).1 = (l'.step m (view s)).1 ∧
      (l.step m s).2.Follows view (l'.step m (view s)).2 := by
  obtain ⟨cycle, token, rest, stage⟩ := l
  obtain ⟨cycle', token', rest', stage'⟩ := l'
  have hfollows := h
  obtain ⟨hcycle, rfl, rfl, hstage⟩ := h
  cases hstage with
  | ready => exact hfollows.took m (hcycle.run m s)
  | working hsuspended => exact hfollows.took m (hsuspended.resume m s)
  | resting wake =>
    simp only [Loop.step]
    split
    · exact ⟨rfl, hcycle, rfl, rfl, .ended⟩
    · split
      · exact hfollows.took m (hcycle.run m s)
      · exact ⟨rfl, hfollows⟩
  | ended => exact ⟨rfl, hfollows⟩

theorem stepDue_follows {ls : List (Loop τ)} {ls' : List (Loop σ)}
    (h : List.Forall₂ (Loop.Follows view) ls ls') (m : Moment) (s : τ) :
    view (stepDue m ls s).1 = (stepDue m ls' (view s)).1 ∧
      List.Forall₂ (Loop.Follows view) (stepDue m ls s).2.1 (stepDue m ls' (view s)).2.1 ∧
      List.Forall₂ (Loop.Follows view) (stepDue m ls s).2.2 (stepDue m ls' (view s)).2.2 := by
  induction h generalizing s with
  | nil => exact ⟨rfl, .nil, .nil⟩
  | cons hl hls ih =>
    rw [stepDue, stepDue, hl.isDue m]
    split
    · obtain ⟨hstate, hstepped⟩ := hl.step m s
      obtain ⟨hrest, hidle, hran⟩ := ih (Loop.step m _ s).1
      rw [hstate] at hrest hidle hran
      exact ⟨hrest, hidle, .cons hstepped hran⟩
    · obtain ⟨hrest, hidle, hran⟩ := ih s
      exact ⟨hrest, .cons hl hidle, hran⟩

theorem wakes_follow {ls : List (Loop τ)} {ls' : List (Loop σ)}
    (h : List.Forall₂ (Loop.Follows view) ls ls') :
    ls.filterMap Loop.wake? = ls'.filterMap Loop.wake? := by
  induction h with
  | nil => rfl
  | cons hl hls ih => rw [List.filterMap_cons, List.filterMap_cons, hl.wake?, ih]

end Loop

/-! ### Agendas -/

namespace Agenda

/-- One agenda at the same point as another. -/
structure Follows (view : τ → σ) (a : Agenda τ) (a' : Agenda σ) : Prop where
  now : a.now = a'.now
  cancelled : a.cancelled = a'.cancelled
  planned : a.planned = a'.planned
  loops : List.Forall₂ (Loop.Follows view) a.loops a'.loops
  state : view a.state = a'.state

namespace Follows

variable {a : Agenda τ} {a' : Agenda σ}

theorem moment (h : a.Follows view a') : a.moment = a'.moment := by
  rw [Agenda.moment, Agenda.moment, h.now, h.cancelled]

theorem jump (h : a.Follows view a') (time : Nat) :
    Agenda.Follows view { a with now := time } { a' with now := time } :=
  ⟨rfl, h.cancelled, h.planned, h.loops, h.state⟩

theorem cancelDue (h : a.Follows view a') : a.cancelDue.Follows view a'.cancelDue := by
  refine ⟨h.now, ?_, ?_, h.loops, h.state⟩
  · simp only [Agenda.cancelDue, h.now, h.planned, h.cancelled]
  · simp only [Agenda.cancelDue, h.now, h.planned]

theorem settle (h : a.Follows view a') : a.settle.Follows view a'.settle := by
  have hdue := h.cancelDue
  obtain ⟨hstate, hidle, hran⟩ :=
    Loop.stepDue_follows hdue.loops a.cancelDue.moment a.cancelDue.state
  rw [hdue.moment, hdue.state] at hstate hidle hran
  refine ⟨hdue.now, hdue.cancelled, hdue.planned, ?_, ?_⟩
  · simp only [Agenda.settle, Agenda.runDue, hdue.moment]
    exact List.rel_append hidle hran
  · simp only [Agenda.settle, Agenda.runDue, hdue.moment]
    exact hstate

theorem nextTime? (h : a.Follows view a') : a.nextTime? = a'.nextTime? := by
  rw [Agenda.nextTime?, Agenda.nextTime?, Loop.wakes_follow h.loops, h.planned, h.now]

theorem passUntil (h : a.Follows view a') (limit : Nat) (token : Option Token) :
    (a.passUntil limit token).1.Follows view (a'.passUntil limit token).1 ∧
      (a.passUntil limit token).2 = (a'.passUntil limit token).2 := by
  fun_induction Agenda.passUntil limit token a generalizing a'
  case case1 a settled hcut =>
    have hsettled : settled.Follows view a'.settle := h.settle
    rw [hsettled.moment] at hcut
    rw [Agenda.passUntil.eq_def limit token a', if_pos hcut]
    exact ⟨hsettled, rfl⟩
  case case2 a settled hcut hnext =>
    have hsettled : settled.Follows view a'.settle := h.settle
    rw [hsettled.moment] at hcut
    rw [hsettled.nextTime?] at hnext
    rw [Agenda.passUntil.eq_def limit token a', if_neg hcut]
    simp only [hnext]
    exact ⟨hsettled.jump limit, trivial⟩
  case case3 a settled hcut next hnext hlater ih =>
    have hsettled : settled.Follows view a'.settle := h.settle
    rw [hsettled.moment] at hcut
    rw [hsettled.nextTime?] at hnext
    rw [h.now] at hlater
    rw [Agenda.passUntil.eq_def limit token a', if_neg hcut]
    simp only [hnext, dif_pos hlater]
    exact ih (hsettled.jump next)
  case case4 a settled hcut next hnext hlater =>
    have hsettled : settled.Follows view a'.settle := h.settle
    rw [hsettled.moment] at hcut
    rw [hsettled.nextTime?] at hnext
    rw [h.now] at hlater
    rw [Agenda.passUntil.eq_def limit token a', if_neg hcut]
    simp only [hnext, dif_neg hlater]
    exact ⟨hsettled.jump limit, trivial⟩

theorem advance (h : a.Follows view a') (ms : Nat) :
    (a.advance ms).Follows view (a'.advance ms) := by
  rw [Agenda.advance, Agenda.advance, h.moment]
  exact (h.passUntil _ none).1.settle

theorem cancel (h : a.Follows view a') (token : Token) :
    (a.cancel token).Follows view (a'.cancel token) :=
  ⟨h.now, congrArg (token :: ·) h.cancelled, h.planned, h.loops, h.state⟩

theorem addLoop (h : a.Follows view a') {l : Loop τ} {l' : Loop σ} (hl : l.Follows view l') :
    (a.addLoop l).Follows view (a'.addLoop l') :=
  ⟨h.now, h.cancelled, h.planned, List.rel_append h.loops (.cons hl .nil), h.state⟩

end Follows

end Agenda

/-! ### Pollers -/

namespace Poller

/-- One poller like another, with work that follows the other's. -/
structure Follows (view : τ → σ) (p : Poller τ) (p' : Poller σ) : Prop where
  rhythm : p.rhythm = p'.rhythm
  work : ∀ token, (p.work token).Follows view (p'.work token)
  token : p.token = p'.token
  started : p.started = p'.started

namespace Follows

variable {p : Poller τ} {p' : Poller σ} {a : Agenda τ} {a' : Agenda σ}

theorem loop (h : p.Follows view p') : p.loop.Follows view p'.loop := by
  refine ⟨?_, h.token, congrArg Rhythm.rest h.rhythm, .ready⟩
  rw [loop_cycle, loop_cycle, h.token]
  exact Task.Follows.bind (h.work _) fun result => .done result.toBool

theorem start (h : p.Follows view p') : Follows view { p with started := true }
    { p' with started := true } :=
  ⟨h.rhythm, h.work, h.token, rfl⟩

theorem carryOut {op : Option (Poller τ)} {op' : Option (Poller σ)}
    (hop : Option.Rel (Poller.Follows view) op op') (ha : a.Follows view a') (order : Order) :
    Option.Rel (Poller.Follows view) (Poller.carryOut order op a).1 (Poller.carryOut order op' a').1 ∧
      (Poller.carryOut order op a).2.1.Follows view (Poller.carryOut order op' a').2.1 := by
  cases hop with
  | none =>
    cases order with
    | advance ms => exact ⟨.none, ha.advance ms⟩
    | _ => exact ⟨.none, ha⟩
  | @some p p' hp =>
    cases order with
    | advance ms => exact ⟨.some hp, ha.advance ms⟩
    | drop =>
      simp only [Poller.carryOut, Poller.close, hp.token]
      exact ⟨.none, ha.cancel _⟩
    | close =>
      simp only [Poller.carryOut, Poller.close, hp.token]
      exact ⟨.some hp, ha.cancel _⟩
    | start =>
      simp only [Poller.carryOut, Poller.start, hp.started]
      by_cases hstarted : p'.started = true
      · simp only [hstarted, if_true]
        exact ⟨.some hp, ha⟩
      · simp only [hstarted, if_false, Bool.false_eq_true]
        exact ⟨.some hp.start, ha.addLoop hp.loop⟩

/-- The orders of the owner keep both in step. -/
theorem carryOutAll {op : Option (Poller τ)} {op' : Option (Poller σ)}
    (hop : Option.Rel (Poller.Follows view) op op') (ha : a.Follows view a') (orders : List Order) :
    (Poller.carryOutAll orders op a).2.Follows view (Poller.carryOutAll orders op' a').2 := by
  induction orders generalizing op op' a a' with
  | nil => exact ha
  | cons order orders ih =>
    obtain ⟨hop, ha⟩ := carryOut hop ha order
    exact ih hop ha

end Follows

end Poller

end ValidatorAlarm
