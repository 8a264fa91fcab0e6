import ValidatorAlarm.Proofs.Poller.Making
import ValidatorAlarm.Proofs.SelfCheck.Ledger
import ValidatorAlarm.Proofs.Timeline.Staff

/-!
# The duties of a watch

Whatever an operator orders, all that a watch does to its site are duties at its reporter: the cycles
of its poller and those run by hand, the looks of the poller for the self-checks, and the self-checks
and announcements run by hand.  So a run of a watch is one of the runs of which the book is kept.
-/
namespace ValidatorAlarm

namespace Watch

/-- Carries out all orders. -/
def carryOutAll : List Order → Watch → Watch
  | [], w => w
  | order :: rest, w => carryOutAll rest (w.carryOut order).1

/-- All that has been done to the site of a watch, and all that its pollers will do, are duties. -/
structure Dutiful (name : String) (fanout : Fanout) (site : Site) (w : Watch) : Prop where
  reporter : w.monitor.reporter = .on name fanout
  work : w.poller.work = w.monitor.cycle
  checks : ∀ checks, w.selfChecks = some checks →
    ∃ target, checks.work = Appointment.attend ⟨target, CheckPlan.work (.on name fanout)⟩
  manned : ∃ others,
    w.agenda.Manned (Duty.task name fanout) Except.toBool ⟨site, []⟩ others

variable {name : String} {fanout : Fanout} {site : Site} {w : Watch}

namespace Dutiful

theorem task_cycle (h : w.Dutiful name fanout site) (token : Token) :
    Duty.task name fanout (.cycle w.monitor token) = w.monitor.cycle token := by
  rw [Duty.task, ← h.reporter]

theorem perform {β : Type} (h : w.Dutiful name fanout site) (duty : Duty) {t : Work β}
    (g : β → Except Fault Unit)
    (ht : (t.bind fun b => .done (g b)).run w.agenda.moment w.agenda.state =
      (duty.task name fanout).run w.agenda.moment w.agenda.state) :
    Dutiful name fanout site { w with agenda := (w.agenda.perform t).1 } := by
  obtain ⟨others, hmanned⟩ := h.manned
  exact ⟨h.reporter, h.work, h.checks, hmanned.foreground duty g ht⟩

theorem addLoop {a : Agenda Site} {others : List (Suspension Site (Except Fault Unit))}
    (h : a.Manned (Duty.task name fanout) Except.toBool ⟨site, []⟩ others) {p : Poller Site}
    (duty : Duty) (hwork : p.work p.token = duty.task name fanout) :
    (a.addLoop p.loop).Manned (Duty.task name fanout) Except.toBool ⟨site, []⟩ others := by
  refine h.addLoop duty ?_ rfl
  rw [p.loop_cycle, hwork]

theorem start (h : w.Dutiful name fanout site) :
    Dutiful name fanout site (w.carryOut .start).1 := by
  simp only [carryOut, Poller.start]
  by_cases hstarted : w.poller.started = true
  · simp only [hstarted, if_true]
    exact h
  · simp only [hstarted, if_false, Bool.false_eq_true]
    obtain ⟨others, hmanned⟩ := h.manned
    refine ⟨h.reporter, h.work, h.checks, others, ?_⟩
    refine addLoop hmanned (.cycle w.monitor w.poller.token) ?_
    rw [h.work, h.task_cycle]

theorem startSelfChecks (h : w.Dutiful name fanout site) :
    Dutiful name fanout site (w.carryOut .startSelfChecks).1 := by
  rw [carryOut]
  cases hchecks : w.selfChecks with
  | none => exact h
  | some checks =>
    obtain ⟨target, hwork⟩ := h.checks checks hchecks
    simp only [Poller.start]
    by_cases hstarted : checks.started = true
    · simp only [hstarted, if_true]
      exact h
    · simp only [hstarted, if_false, Bool.false_eq_true]
      obtain ⟨others, hmanned⟩ := h.manned
      refine ⟨h.reporter, h.work, ?_, others, ?_⟩
      · intro other hother
        cases hother
        exact ⟨target, hwork⟩
      · refine addLoop hmanned (.attend target checks.token) ?_
        rw [hwork]
        rfl

theorem carryOut (h : w.Dutiful name fanout site) (order : Order) :
    Dutiful name fanout site (w.carryOut order).1 := by
  cases order with
  | cycle =>
    have hdone : ((w.monitor.cycle w.token).bind fun result => .done (id result)) =
        w.monitor.cycle w.token := Task.bind_done _
    refine h.perform (t := w.monitor.cycle w.token) (.cycle w.monitor w.token) id ?_
    rw [h.task_cycle, hdone]
  | cancel => exact ⟨h.reporter, h.work, h.checks, h.manned⟩
  | cancelIn ms => exact ⟨h.reporter, h.work, h.checks, h.manned⟩
  | renew => exact ⟨h.reporter, h.work, h.checks, h.manned⟩
  | start => exact h.start
  | close => exact ⟨h.reporter, h.work, h.checks, h.manned⟩
  | startSelfChecks => exact h.startSelfChecks
  | closeSelfChecks =>
    rw [Watch.carryOut]
    cases hchecks : w.selfChecks with
    | none => exact h
    | some checks =>
      exact ⟨h.reporter, h.work, fun other hother => h.checks other (hchecks.trans hother), h.manned⟩
  | selfCheck =>
    refine h.perform (.selfCheck w.token) (fun _ => .ok ()) ?_
    rw [h.reporter]
    rfl
  | announceStart =>
    refine h.perform (.announceStart (w.agenda.state.clock w.agenda.now)) (fun _ => .ok ()) ?_
    rw [h.reporter]
    rfl
  | announceEnd =>
    refine h.perform .announceEnd (fun _ => .ok ()) ?_
    rw [h.reporter]
    rfl
  | advance ms =>
    obtain ⟨others, hmanned⟩ := h.manned
    exact ⟨h.reporter, h.work, h.checks, others, hmanned.advance ms⟩

theorem carryOutAll (h : w.Dutiful name fanout site) (orders : List Order) :
    Dutiful name fanout site (Watch.carryOutAll orders w) := by
  induction orders generalizing w with
  | nil => exact h
  | cons order orders ih => exact ih (h.carryOut order)

end Dutiful

/-! ### Runs of a watch -/

theorem checkPollerOf_spec {plan : CheckPlan} {checks : Poller Site}
    (h : checkPollerOf (.on name fanout) plan = .ok checks) :
    ∃ target, checks.work = Appointment.attend ⟨target, CheckPlan.work (.on name fanout)⟩ := by
  obtain ⟨day, -, h⟩ := bind_eq_ok.mp h
  obtain ⟨appointment, happointment, h⟩ := bind_eq_ok.mp h
  obtain ⟨target, -, rfl⟩ := map_eq_ok.mp happointment
  exact ⟨target, (Poller.make_spec h).1⟩

theorem monitorOf_reporter {plan : WatchPlan} {monitor : Monitor} (h : monitorOf plan = .ok monitor)
    (hreporter : plan.reporter = some name) : monitor.reporter = .on name monitor.fanout := by
  obtain ⟨fanout, -, h⟩ := bind_eq_ok.mp h
  obtain ⟨tolerance, -, h⟩ := bind_eq_ok.mp h
  rw [hreporter] at h
  cases h
  rfl

theorem make_dutiful {plan : WatchPlan} (h : Watch.make plan site = .ok w)
    (hreporter : plan.reporter = some name) : w.Dutiful name w.monitor.fanout site := by
  obtain ⟨monitor, hmonitor, h⟩ := bind_eq_ok.mp h
  obtain ⟨poller, hpoller, h⟩ := bind_eq_ok.mp h
  have hon := monitorOf_reporter hmonitor hreporter
  have hwork := (Poller.make_spec hpoller).1
  cases hplan : plan.selfChecks with
  | none =>
    rw [hplan] at h
    cases h
    refine ⟨hon, hwork, ?_, [], Agenda.Manned.start _ _ site⟩
    intro checks hchecks
    cases hchecks
  | some checkPlan =>
    rw [hplan] at h
    obtain ⟨selfChecks, hselfChecks, h⟩ := bind_eq_ok.mp h
    obtain ⟨checks, hchecks, rfl⟩ := map_eq_ok.mp hselfChecks
    rw [hon] at hchecks
    cases h
    refine ⟨hon, hwork, ?_, [], Agenda.Manned.start _ _ site⟩
    intro other hother
    cases hother
    exact checkPollerOf_spec hchecks

/-- **Every run of a watch is a run of duties**, so that its book says what has been reported. -/
theorem run_of_duties {plan : WatchPlan} (name : String) (hreporter : plan.reporter = some name)
    (h : Watch.make plan { site with tally := .empty } = .ok w) (orders : List Order) :
    ∃ moves, (carryOutAll orders w).agenda.state =
      (Duty.run name w.monitor.fanout moves site).state := by
  have hdutiful := (make_dutiful h hreporter).carryOutAll orders
  obtain ⟨others, moves, tasks, -, hstate, -⟩ := hdutiful.manned
  exact ⟨moves, hstate.symm⟩

end Watch

end ValidatorAlarm
