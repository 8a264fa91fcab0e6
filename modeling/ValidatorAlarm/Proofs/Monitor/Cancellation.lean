import ValidatorAlarm.Proofs.Delivery.Protocol
import ValidatorAlarm.Proofs.Monitor.CycleFrame
import ValidatorAlarm.Proofs.Monitor.Looking

/-!
# When a cycle is given up

A cycle first looks for problems and then raises their alarms.  The search heeds the signal of the
cycle and the delivery does not.  So a cancellation either comes before the search is over, and then
the cycle is given up at that time and nothing is delivered, or it makes no difference at all: no
alarm that the snooze has let through is lost.
-/
namespace ValidatorAlarm

/-! ### Raising alarms -/

theorem Reporter.changeTally_ends (reporter : Reporter) (f : Tally → Tally) (now : Nat) (s : Site) :
    (reporter.changeTally f).Ends now s now { s with tally := reporter.changed f s.tally } () := by
  rintro a hloops rfl rfl
  exact ⟨_, perform_changeTally reporter f, hloops, rfl, rfl⟩

theorem Reporter.counted_ends {α : Type} (reporter : Reporter) (result : Except Fault α) (now : Nat)
    (s : Site) :
    (reporter.counted result).Ends now s now { s with tally := reporter.tallied s.tally result }
      result := by
  rintro a hloops rfl rfl
  exact ⟨_, perform_counted reporter result, hloops, rfl, rfl⟩

namespace Monitor

variable (w : Monitor)

theorem alarms_ends (problems : List Problem) (now : Nat) (s : Site) :
    (w.alarms problems).Ends now s now
      (s.setSnooze w.position
        (letThrough w.snooze (s.seconds now) (s.snoozes w.position) problems).1)
      ((letThrough w.snooze (s.seconds now) (s.snoozes w.position) problems).2.map w.message) := by
  rintro a hloops rfl rfl
  exact ⟨_, w.perform_alarms problems, hloops, rfl, rfl⟩

/-- Raising alarms takes the same time and leads to the same site whatever is cancelled, with all
the retries of their delivery. -/
theorem raise_ends (problems : List Problem) (now : Nat) (s : Site) :
    ∃ now' s' result, (w.raise problems).Ends now s now' s' result := by
  have halarms := w.alarms_ends problems now s
  generalize s.setSnooze w.position _ = asked at halarms
  generalize List.map w.message _ = messages at halarms
  cases messages with
  | nil => exact ⟨now, asked, .ok (), halarms.bind (.done _)⟩
  | cons first others =>
    have hcollect := w.reporter.changeTally_ends (·.collect (first :: others)) now asked
    obtain ⟨delivered, hnotify, -⟩ := w.fanout.notify_ends first others now
      { asked with tally := w.reporter.changed (·.collect (first :: others)) asked.tally }
    exact ⟨_, _, _, halarms.bind (hcollect.bind
      (hnotify.bind (w.reporter.counted_ends _ _ delivered)))⟩

/-! ### Giving up -/

/-- A cycle that begins on the agenda gives up at a time: it returns that it was cancelled, has
counted this as an error, and has done nothing else but ask the network, for the ratings only if there
are none. -/
def GivesUp (token : Token) (a : Agenda Site) (time : Nat) : Prop :=
  ∃ rated after, (a.perform (Network.ratings token)).2 = some rated ∧
    a.perform (w.cycle token) = (after, some (.error .cancelled)) ∧ after.now = time ∧
    w.FailedCycle a.state .cancelled after.state (.error .cancelled) ∧
    ∀ fault, rated = .error fault → AskedNoKeys a.state after.state

variable {w} {token : Token}

/-- A cycle gives up when its search does. -/
theorem givesUp_of_search {a looked : Agenda Site} (hloops : a.loops = [])
    (h : a.perform (w.findProblems token) = (looked, some (.error .cancelled))) :
    w.GivesUp token a looked.now := by
  obtain ⟨asked, rated, hrated, -, hratings⟩ := Agenda.perform_keeps (Network.ratings_keeps token) hloops
  obtain ⟨after, hcycle, hnow, hfailed, hkeys⟩ := w.cycle_unfound token hloops h
  refine ⟨rated, after, by rw [hrated], hcycle, hnow, hfailed, ?_⟩
  rintro fault rfl
  obtain ⟨rfl, -⟩ := Prod.mk.inj ((w.findProblems_of_unrated hrated).symm.trans h)
  exact hkeys hratings

/-- **A cancellation stops a cycle only before its delivery.**  Take a cycle that has the site to
itself and whose queries succeed if its signal stays as it is, whatever the check then tells.  The queries
end after the times of all their replies and pauses, each of them as far as a single wait goes.  If the
signal is cancelled before the cycle or before that time, the cycle gives up at the time of the
cancellation.  If it is cancelled after that time, the cycle ends when it would have ended, with the same
result and the same site. -/
theorem cancelled_only_before_delivery (w : Monitor) (token : Token) (now : Nat)
    (cancelled : List Token) (planned : List (Nat × Token)) (before : Site) {asked looked : Agenda Site}
    {snapshot : Snapshot} {staked : List String} (hopen : token ∉ cancelled)
    (hplanned : ∀ e ∈ planned, e.2 ≠ token)
    (hrated : (⟨now, cancelled, planned, [], before⟩ : Agenda Site).perform (Network.ratings token) =
      (asked, some (.ok snapshot)))
    (hstaked : asked.perform (Network.stakedKeys token w.queryPause w.accounts) =
      (looked, some (.ok staked))) :
    looked.now = now + min before.statistics.next.2.latency longestWait +
      Network.askingTime w.queryPause before.contract w.accounts ∧
    (∀ given, token ∈ given → w.GivesUp token ⟨now, given, planned, [], before⟩ now) ∧
    (∀ time, now ≤ time → time < looked.now →
      w.GivesUp token ⟨now, cancelled, planned ++ [(time, token)], [], before⟩ time) ∧
    ∀ time, looked.now < time → ∃ ended late result,
      (⟨now, cancelled, planned, [], before⟩ : Agenda Site).perform (w.cycle token) =
        (ended, some result) ∧
      (⟨now, cancelled, planned ++ [(time, token)], [], before⟩ : Agenda Site).perform
        (w.cycle token) = (late, some result) ∧
      late.now = ended.now ∧ late.state = ended.state := by
  have hnever : Agenda.Awaits token none (⟨now, cancelled, planned, [], before⟩ : Agenda Site) :=
    Agenda.Awaits.never rfl hopen hplanned
  have hfound : (⟨now, cancelled, planned, [], before⟩ : Agenda Site).perform (w.findProblems token) =
      (looked, some (w.check snapshot staked)) := w.findProblems_of_rated hrated hstaked
  obtain ⟨hcourse, hloops, hduration⟩ := findProblems_course hnever hrated hstaked
  refine ⟨hduration, ?_, ?_, ?_⟩
  · intro given hgiven
    exact givesUp_of_search rfl (w.findProblems_cancelled token (List.contains_iff_mem.mpr hgiven))
  · intro time hnow htime
    have hcut : time < ((w.findProblems token).course now before).1 := by
      rw [hcourse]
      exact htime
    obtain ⟨cut, hsearched, -, rfl⟩ :=
      Agenda.perform_cut (w.findProblems_heeds token) (hnever.plan hnow) hcut
    exact givesUp_of_search rfl hsearched
  · intro time htime
    have hahead : now ≤ time := by
      have hstart := (w.findProblems token).le_course now before
      rw [hcourse] at hstart
      exact Nat.le_trans hstart (Nat.le_of_lt htime)
    obtain ⟨late, hlate, hawaits, hlateNow, hlateState⟩ :=
      Agenda.perform_course (w.findProblems_heeds token) (hnever.plan hahead) (by
        intro c hc
        cases hc
        simp only [hcourse]
        exact Nat.le_of_lt htime)
    simp only [hcourse] at hlate hlateNow hlateState
    -- from here on both runs are at the same site at the same time, and nothing heeds the signal
    generalize w.check snapshot staked = found at hfound hlate
    cases found with
    | error fault =>
      refine ⟨_, _, _, perform_cycle w token hfound, perform_cycle w token hlate, hlateNow, ?_⟩
      simp only [hlateState]
    | ok problems =>
      obtain ⟨stop, site, result, hraise⟩ := w.raise_ends problems looked.now looked.state
      obtain ⟨ended, hended, -, hendedNow, hendedState⟩ := hraise looked hloops rfl rfl
      obtain ⟨ended', hended', -, hendedNow', hendedState'⟩ :=
        hraise late hawaits.loops hlateNow hlateState
      exact ⟨ended, ended', result, (perform_cycle w token hfound).trans hended,
        (perform_cycle w token hlate).trans hended', hendedNow'.trans hendedNow.symm,
        hendedState'.trans hendedState.symm⟩

/-! ### One account -/

/-- A monitor of these keys and one account, which pauses for so long after its query. -/
def pausing (keys : List String) (pause : Duration) : Monitor where
  position := 0
  name := "m"
  explorer := ""
  check := ratingsCheck .zero keys
  accounts := [⟨"aa", "b"⟩]
  queryPause := pause
  snooze := .off
  reporter := .off
  fanout := ⟨[.handover "a"], 0, .ofSeconds 1⟩

/-- The network takes 10 ms to tell its ratings and 5 ms to tell that no keys are staked. -/
def unhurried : Site :=
  { Site.initial with
    statistics := .always ⟨10, .ok Network.lostRating⟩
    contract := .always ⟨5, .ok Network.noKeys⟩ }

/-- The search of a cycle takes 45 ms.  A cancellation after 44 ms stops the cycle then and there, and
one after 46 ms does not stop its delivery. -/
theorem cancelled_about_end_of_pause :
    ∃ asked looked snapshot, (Agenda.start unhurried).perform (Network.ratings 0) =
        (asked, some (.ok snapshot)) ∧
      asked.perform (Network.stakedKeys 0 (.ofMilliseconds 30) [⟨"aa", "b"⟩]) =
        (looked, some (.ok [])) ∧
      ValidatorAlarm.findProblems .zero ["k"] snapshot [] = [⟨"k", .jail ⟨.zero, .zero⟩⟩] ∧
      looked.now = 45 ∧
      (pausing ["k"] (.ofMilliseconds 30)).GivesUp 0 ⟨0, [], [(44, 0)], [], unhurried⟩ 44 ∧
      ∃ ended late result,
        (Agenda.start unhurried).perform ((pausing ["k"] (.ofMilliseconds 30)).cycle 0) =
          (ended, some result) ∧
        (⟨0, [], [(46, 0)], [], unhurried⟩ : Agenda Site).perform
          ((pausing ["k"] (.ofMilliseconds 30)).cycle 0) = (late, some result) ∧
        late.now = ended.now ∧ late.state = ended.state := by
  have hrating : ((Network.ratings 0).course 0 unhurried).2.2 =
      some (.ok (Table.ofList [("k", ⟨.zero, .zero⟩)])) := by decide +kernel
  have hfetching : ((Network.stakedKeys 0 (.ofMilliseconds 30) [⟨"aa", "b"⟩]).course
      ((Network.ratings 0).course 0 unhurried).1 ((Network.ratings 0).course 0 unhurried).2.1).2.2 =
      some (.ok []) := by decide +kernel
  have hnever : Agenda.Awaits 0 none (Agenda.start unhurried) := .anew 0 0 unhurried
  obtain ⟨asked, hasked, hawaits, hnow, hstate⟩ :=
    Agenda.perform_course (Network.ratings_heeds 0) hnever nofun
  obtain ⟨looked, hlooked, -, -, -⟩ := Agenda.perform_course
    (Network.stakedKeys_heeds 0 (.ofMilliseconds 30) [⟨"aa", "b"⟩]) hawaits nofun
  rw [hnow, hstate] at hlooked
  have hrated := hasked.trans (congrArg (Prod.mk asked) hrating)
  have hstaked := hlooked.trans (congrArg (Prod.mk looked) hfetching)
  obtain ⟨htime, -, hearly, hlate⟩ := cancelled_only_before_delivery (pausing ["k"] (.ofMilliseconds 30))
    0 0 [] [] unhurried List.not_mem_nil (fun e he => absurd he List.not_mem_nil) hrated hstaked
  have hend : looked.now = 45 := htime
  exact ⟨asked, looked, _, hrated, hstaked, by decide, hend, hearly 44 (by decide) (by omega),
    hlate 46 (by omega)⟩

/-- No wait is longer than 30 years.  A search that should end after 10¹² ms and 15 more is over
when it is cancelled after 95 % of this time. -/
theorem cancelled_after_longest_wait :
    950000000000 < unhurried.statistics.next.2.latency + (unhurried.contract.next.2.latency +
      (pausing [] ⟨1000000000000000000⟩).queryPause.milliseconds) ∧
    ¬ (pausing [] ⟨1000000000000000000⟩).GivesUp 0
      ⟨0, [], [(950000000000, 0)], [], unhurried⟩ 950000000000 := by
  refine ⟨by decide, ?_⟩
  rintro ⟨rated, after, -, hcycle, -⟩
  have htime : (((pausing [] ⟨1000000000000000000⟩).findProblems 0).course 0 unhurried).1 =
      946080000015 := by decide +kernel
  have hfound : (((pausing [] ⟨1000000000000000000⟩).findProblems 0).course 0 unhurried).2.2 =
      some (.ok []) := by decide +kernel
  have hnever : Agenda.Awaits 0 none (Agenda.start unhurried) := .anew 0 0 unhurried
  have hover : ∀ c, some 950000000000 = some c →
      (((pausing [] ⟨1000000000000000000⟩).findProblems 0).course 0 unhurried).1 ≤ c := by
    intro c hc
    cases hc
    rw [htime]
    decide
  obtain ⟨looked, hlooked, -, -, -⟩ := Agenda.perform_course
    ((pausing [] ⟨1000000000000000000⟩).findProblems_heeds 0)
    (hnever.plan (Nat.zero_le 950000000000)) hover
  have hsearch := hlooked.trans (congrArg (Prod.mk looked) hfound)
  have hquiet := (perform_cycle _ 0 hsearch).trans (perform_raise_nil _ [] rfl)
  cases (Prod.mk.inj (hcycle.symm.trans hquiet)).2

end Monitor

end ValidatorAlarm
