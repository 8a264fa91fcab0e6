import ValidatorAlarm.Proofs.Monitor.Parts
import ValidatorAlarm.Proofs.SelfCheck.Book
import ValidatorAlarm.Proofs.Snooze.Asking
import ValidatorAlarm.Proofs.Timeline.Solitude

/-!
# The frame of a cycle

A cycle that has the site to itself ends in one of three ways.  The query for ratings, the queries for
staked keys or the check fails, and then that fault is returned and nothing has changed but the count of
errors; without ratings nobody asks for keys.  All of them succeed and the snooze lets none of the alarms
through, and then nothing has changed but the windows of their keys.  Or one batch of alarms is delivered,
and then the keys of the batch are counted whatever becomes of the delivery.

The cycle is followed part by part.  Each part has a frame, and the frames together leave only what
the theorem says.
-/
namespace ValidatorAlarm

/-! ### What the frames leave -/

theorem Frame.ratings_spec {s s' : Site} (h : Frame.ratings.Allows s s') :
    ∃ statistics events, s' = { s with statistics := statistics, history := events ++ s.history } ∧
      ∀ e ∈ events, e.2.IsRatingQuery := by
  obtain ⟨⟨events, hhistory, hevents⟩, hrest⟩ := h
  refine ⟨s'.statistics, events, ?_, hevents⟩
  rw [← hhistory]
  exact congrArg (fun rest : Site =>
    { rest with statistics := s'.statistics, history := s'.history }) hrest

theorem Frame.network_spec {s s' : Site} (h : Frame.network.Allows s s') :
    ∃ statistics contract events,
      s' = { s with
        statistics := statistics, contract := contract, history := events ++ s.history } ∧
      ∀ e ∈ events, e.2.IsQuery := by
  obtain ⟨⟨events, hhistory, hevents⟩, hrest⟩ := h
  refine ⟨s'.statistics, s'.contract, events, ?_, hevents⟩
  rw [← hhistory]
  exact congrArg (fun rest : Site => { rest with
    statistics := s'.statistics, contract := s'.contract, history := s'.history }) hrest

theorem Frame.delivery_spec {s s' : Site} (h : Frame.delivery.Allows s s') :
    ∃ channels events, s' = { s with channels := channels, history := events ++ s.history } ∧
      ∀ e ∈ events, e.2.IsDelivery := by
  obtain ⟨⟨events, hhistory, hevents⟩, hrest⟩ := h
  refine ⟨s'.channels, events, ?_, hevents⟩
  rw [← hhistory]
  exact congrArg (fun rest : Site =>
    { rest with channels := s'.channels, history := s'.history }) hrest

/-! ### Alarms that are let through -/

namespace Monitor

/-- The problems that survive: those to whose alarm the answer is yes. -/
def surviving (answers : List Bool) (problems : List Problem) : List Problem :=
  ((problems.zip answers).filter (·.2)).map (·.1)

/-- The problems of a time whose alarms are let through. -/
def passed (w : Monitor) (site : Site) (now : Nat) (problems : List Problem) : List Problem :=
  surviving (Snooze.answers w.snooze (site.snoozes w.position)
    (problems.map fun p => (site.seconds now, p.key))) problems

/-- The snooze is asked about one problem after the other, and the alarms with the answer yes are let
through. -/
theorem letThrough_passed (rule : SnoozeRule) (now : Int) (snooze : Snooze)
    (problems : List Problem) :
    (letThrough rule now snooze problems).2 =
      surviving (snooze.answers rule (problems.map fun p => (now, p.key))) problems := by
  induction problems generalizing snooze with
  | nil => rfl
  | cons problem rest ih =>
    rw [letThrough, List.map_cons, Snooze.answers, surviving, List.zip_cons_cons, List.filter_cons]
    simp only [ih]
    split <;> rfl

theorem get?_letThrough (rule : SnoozeRule) (now : Int) (snooze : Snooze) {problems : List Problem}
    {key : String} (h : key ∉ problems.map (·.key)) :
    (letThrough rule now snooze problems).1.get? key = snooze.get? key := by
  induction problems generalizing snooze with
  | nil => rfl
  | cons problem rest ih =>
    rw [List.map_cons, List.mem_cons, not_or] at h
    rw [letThrough]
    exact (ih _ h.2).trans (Snooze.get?_ask snooze rule now h.1)

/-! ### The three ways in which a cycle ends -/

/-- There were no ratings, no staked keys or no list of problems, because of a fault. -/
structure FailedCycle (w : Monitor) (before : Site) (fault : Fault) (after : Site)
    (result : Except Fault Unit) : Prop where
  returned : result = .error fault
  errors : w.reporter ≠ .off →
    after.tally.errors = min (Nat.pow 2 32 - 1) (before.tally.errors + 1)
  flagged : after.tally.flagged = before.tally.flagged
  silent : w.reporter = .off → after.tally = before.tally
  /-- All else stays as it is but for the queries. -/
  rest : ∃ statistics contract events,
    after = { before with
      statistics := statistics
      contract := contract
      tally := after.tally
      history := events ++ before.history } ∧
    ∀ e ∈ events, e.2.IsQuery

/-- Nobody asked for staked keys. -/
structure AskedNoKeys (before after : Site) : Prop where
  contract : after.contract = before.contract
  record : ∃ events, after.history = events ++ before.history ∧ ∀ e ∈ events, e.2.IsRatingQuery

/-- Some problems were found or none, and no alarm is let through. -/
structure QuietCycle (w : Monitor) (before : Site) (problems : List Problem) (after : Site)
    (result : Except Fault Unit) : Prop where
  returned : result = .ok ()
  snoozes : ∀ position key, position ≠ w.position ∨ key ∉ problems.map (·.key) →
    (after.snoozes position).get? key = (before.snoozes position).get? key
  rest : ∃ statistics contract events,
    after = { before with
      statistics := statistics
      contract := contract
      snoozes := after.snoozes
      history := events ++ before.history } ∧
    ∀ e ∈ events, e.2.IsQuery

/-- Some alarms were let through, and handed to the fanout as one batch. -/
structure RaisedCycle (w : Monitor) (before : Site) (looked : Agenda Site)
    (problems passed : List Problem) (after : Site) (result : Except Fault Unit) : Prop where
  errors : w.reporter ≠ .off → after.tally.errors = match result with
    | .ok _ => before.tally.errors
    | .error _ => min (Nat.pow 2 32 - 1) (before.tally.errors + 1)
  /-- One message for each alarm, in their order, at the moment at which the problems were found;
  what the fanout returns is what the cycle returns. -/
  delivery : ∃ handed delivered : Agenda Site,
    handed = { looked with
      state := { looked.state with snoozes := after.snoozes, tally := handed.state.tally } } ∧
    handed.perform (w.fanout.notify (passed.map w.message)) = (delivered, some result) ∧
    after = { delivered.state with tally := after.tally }
  flagged : w.reporter ≠ .off → ∀ key, key ∈ after.tally.flagged ↔
    key ∈ before.tally.flagged ∨ key ∈ passed.map (·.key)
  silent : w.reporter = .off → after.tally = before.tally
  snoozes : ∀ position key, position ≠ w.position ∨ key ∉ problems.map (·.key) →
    (after.snoozes position).get? key = (before.snoozes position).get? key
  rest : ∃ statistics contract channels queries deliveries,
    after = { before with
      statistics := statistics
      contract := contract
      channels := channels
      snoozes := after.snoozes
      tally := after.tally
      history := deliveries ++ queries ++ before.history } ∧
    (∀ e ∈ queries, e.2.IsQuery) ∧ ∀ e ∈ deliveries, e.2.IsDelivery

/-! ### The parts of a cycle in the foreground -/

variable {a : Agenda Site}

/-- Without ratings there are no problems to be found, and nobody asks for keys. -/
theorem findProblems_of_unrated (w : Monitor) {token : Token} {asked : Agenda Site} {fault : Fault}
    (hrated : a.perform (Network.ratings token) = (asked, some (.error fault))) :
    a.perform (w.findProblems token) = (asked, some (.error fault)) :=
  Agenda.perform_bind_of_some hrated

/-- With ratings, what becomes of the search is up to the queries for keys and to the check. -/
theorem findProblems_of_rated (w : Monitor) {token : Token} {asked looked : Agenda Site}
    {snapshot : Snapshot} {fetched : Except Fault (List String)}
    (hrated : a.perform (Network.ratings token) = (asked, some (.ok snapshot)))
    (hfetched : asked.perform (Network.stakedKeys token w.queryPause w.accounts) =
      (looked, some fetched)) :
    a.perform (w.findProblems token) = (looked, some (match fetched with
      | .error fault => .error fault
      | .ok staked => w.check snapshot staked)) := by
  refine (Agenda.perform_bind_of_some hrated).trans ?_
  refine (Agenda.perform_bind_of_some hfetched).trans ?_
  cases fetched with
  | error fault => rfl
  | ok staked => rfl

theorem perform_alarms (w : Monitor) (problems : List Problem) :
    a.perform (w.alarms problems) =
      ({ a with
        state := a.state.setSnooze w.position
          (letThrough w.snooze (a.state.seconds a.now) (a.state.snoozes w.position) problems).1 },
        some ((letThrough w.snooze (a.state.seconds a.now) (a.state.snoozes w.position)
          problems).2.map w.message)) := rfl

end Monitor

namespace Reporter

/-- The tally after a change, if the reporter counts. -/
def changed (reporter : Reporter) (f : Tally → Tally) (t : Tally) : Tally :=
  match reporter with
  | .off => t
  | .on _ _ => f t

theorem changed_on {reporter : Reporter} (h : reporter ≠ .off) (f : Tally → Tally) (t : Tally) :
    reporter.changed f t = f t := by
  cases reporter with
  | off => exact absurd rfl h
  | on name fanout => rfl

/-- The tally after a result, which counts if it is an error. -/
def tallied {α : Type} (reporter : Reporter) (t : Tally) : Except Fault α → Tally
  | .ok _ => t
  | .error _ => reporter.changed .countError t

variable {a : Agenda Site}

theorem perform_changeTally (reporter : Reporter) (f : Tally → Tally) :
    a.perform (reporter.changeTally f) =
      ({ a with state := { a.state with tally := reporter.changed f a.state.tally } }, some ()) := by
  cases reporter <;> rfl

theorem perform_counted {α : Type} (reporter : Reporter) (result : Except Fault α) :
    a.perform (reporter.counted result) =
      ({ a with state := { a.state with tally := reporter.tallied a.state.tally result } },
        some result) := by
  cases result with
  | ok x => rfl
  | error fault => exact Agenda.perform_bind_of_some (perform_changeTally reporter .countError)

theorem tallied_errors {α : Type} {reporter : Reporter} (h : reporter ≠ .off) (t : Tally)
    (result : Except Fault α) :
    (reporter.tallied t result).errors = match result with
      | .ok _ => t.errors
      | .error _ => min (Nat.pow 2 32 - 1) (t.errors + 1) := by
  cases reporter with
  | off => exact absurd rfl h
  | on name fanout => cases result <;> rfl

theorem tallied_flagged {α : Type} (reporter : Reporter) (t : Tally) (result : Except Fault α) :
    (reporter.tallied t result).flagged = t.flagged := by
  cases reporter <;> cases result <;> rfl

theorem tallied_off {α : Type} (t : Tally) (result : Except Fault α) :
    off.tallied t result = t := by
  cases result <;> rfl

end Reporter

namespace Monitor

variable {a : Agenda Site}

theorem perform_cycle (w : Monitor) (token : Token) {looked : Agenda Site}
    {found : Except Fault (List Problem)}
    (h : a.perform (w.findProblems token) = (looked, some found)) :
    a.perform (w.cycle token) = match found with
      | .error fault => ({ looked with
          state := { looked.state with
            tally := w.reporter.tallied looked.state.tally found } }, some (.error fault))
      | .ok problems => looked.perform (w.raise problems) := by
  rw [cycle]
  refine (Agenda.perform_bind_of_some h).trans ?_
  refine (Agenda.perform_bind_of_some (Reporter.perform_counted w.reporter found)).trans ?_
  cases found with
  | error fault => rfl
  | ok problems => rfl

/-- The agenda when a batch is handed to the fanout: the snooze has been asked, and the keys of the
batch are counted. -/
def handed (w : Monitor) (snooze : Snooze) (batch : List Message) (a : Agenda Site) : Agenda Site :=
  { a with state := { a.state.setSnooze w.position snooze with
    tally := w.reporter.changed (·.collect batch) a.state.tally } }

/-- Alarms that are let through are counted and delivered. -/
theorem perform_raise (w : Monitor) (problems : List Problem) {snooze : Snooze}
    {passed : List Problem}
    (hthrough : letThrough w.snooze (a.state.seconds a.now) (a.state.snoozes w.position) problems =
      (snooze, passed)) (hpassed : passed ≠ []) {delivered : Agenda Site} {result : Except Fault Unit}
    (hdelivered : (w.handed snooze (passed.map w.message) a).perform
      (w.fanout.notify (passed.map w.message)) = (delivered, some result)) :
    a.perform (w.raise problems) =
      ({ delivered with
        state := { delivered.state with
          tally := w.reporter.tallied delivered.state.tally result } }, some result) := by
  have halarms : a.perform (w.alarms problems) =
      ({ a with state := a.state.setSnooze w.position snooze }, some (passed.map w.message)) := by
    rw [perform_alarms, hthrough]
  have hbatch : ¬ (passed.map w.message).isEmpty = true := by
    rw [List.isEmpty_iff, List.map_eq_nil_iff]
    exact hpassed
  rw [raise]
  refine (Agenda.perform_bind_of_some halarms).trans ?_
  rw [if_neg hbatch]
  refine (Agenda.perform_bind_of_some (Reporter.perform_changeTally _ _)).trans ?_
  refine (Agenda.perform_bind_of_some hdelivered).trans ?_
  exact Reporter.perform_counted _ result

theorem perform_raise_nil (w : Monitor) (problems : List Problem) {snooze : Snooze}
    (hthrough : letThrough w.snooze (a.state.seconds a.now) (a.state.snoozes w.position) problems =
      (snooze, [])) :
    a.perform (w.raise problems) =
      ({ a with state := a.state.setSnooze w.position snooze }, some (.ok ())) := by
  have halarms : a.perform (w.alarms problems) =
      ({ a with state := a.state.setSnooze w.position snooze }, some []) := by
    rw [perform_alarms, hthrough]
    rfl
  rw [raise]
  exact Agenda.perform_bind_of_some halarms

theorem snoozes_setSnooze (w : Monitor) (site : Site) (now : Int) (problems : List Problem)
    (position : Nat) (key : String) (h : position ≠ w.position ∨ key ∉ problems.map (·.key)) :
    ((site.setSnooze w.position
      (letThrough w.snooze now (site.snoozes w.position) problems).1).snoozes position).get? key =
        (site.snoozes position).get? key := by
  by_cases hposition : position = w.position
  · subst hposition
    have hkey := h.resolve_left fun hne => hne rfl
    simp only [Site.setSnooze, if_true]
    exact get?_letThrough w.snooze now _ hkey
  · simp only [Site.setSnooze, if_neg hposition]

/-! ### Each way -/

theorem failedCycle (w : Monitor) {before : Site} {looked : Agenda Site} (fault : Fault)
    (hnetwork : Frame.network.Allows before looked.state) :
    w.FailedCycle before fault
      { looked.state with
        tally := w.reporter.tallied looked.state.tally (.error fault : Except Fault Unit) }
      (.error fault) := by
  have htally : looked.state.tally = before.tally := Frame.network_tally hnetwork
  refine ⟨rfl, ?_, ?_, ?_, ?_⟩
  · intro hon
    rw [Reporter.tallied_errors hon, htally]
  · rw [Reporter.tallied_flagged, htally]
  · intro hoff
    rw [hoff, Reporter.tallied_off, htally]
  · obtain ⟨statistics, contract, events, hstate, hevents⟩ := Frame.network_spec hnetwork
    refine ⟨statistics, contract, events, ?_, hevents⟩
    rw [hstate]

theorem askedNoKeys {before asked : Site} (h : Frame.ratings.Allows before asked) (tally : Tally) :
    AskedNoKeys before { asked with tally := tally } := by
  obtain ⟨statistics, events, hstate, hevents⟩ := Frame.ratings_spec h
  refine ⟨?_, events, ?_, hevents⟩
  · rw [hstate]
  · rw [hstate]

theorem quietCycle (w : Monitor) {before : Site} {looked : Agenda Site} (problems : List Problem)
    (hnetwork : Frame.network.Allows before looked.state) :
    w.QuietCycle before problems
      (looked.state.setSnooze w.position (letThrough w.snooze (before.seconds looked.now)
        (before.snoozes w.position) problems).1) (.ok ()) := by
  obtain ⟨statistics, contract, events, hstate, hevents⟩ := Frame.network_spec hnetwork
  refine ⟨rfl, ?_, statistics, contract, events, ?_, hevents⟩
  · intro position key h
    rw [hstate]
    exact snoozes_setSnooze w before _ problems position key h
  · rw [hstate]
    rfl

theorem raisedCycle (w : Monitor) {before : Site} {looked : Agenda Site} (problems : List Problem)
    (hnetwork : Frame.network.Allows before looked.state) {snooze : Snooze} {passed : List Problem}
    (hthrough : letThrough w.snooze (before.seconds looked.now) (before.snoozes w.position) problems =
      (snooze, passed)) {delivered : Agenda Site} {result : Except Fault Unit}
    (hdelivered : (w.handed snooze (passed.map w.message) looked).perform
      (w.fanout.notify (passed.map w.message)) = (delivered, some result))
    (hframe : Frame.delivery.Allows (w.handed snooze (passed.map w.message) looked).state
      delivered.state) :
    w.RaisedCycle before looked problems passed
      { delivered.state with tally := w.reporter.tallied delivered.state.tally result } result := by
  obtain ⟨statistics, contract, queries, hlooked, hqueries⟩ := Frame.network_spec hnetwork
  obtain ⟨channels, deliveries, hstate, hdeliveries⟩ := Frame.delivery_spec hframe
  have htally : delivered.state.tally =
      w.reporter.changed (·.collect (passed.map w.message)) before.tally := by
    rw [hstate, handed, hlooked]
  refine ⟨?_, ⟨w.handed snooze (passed.map w.message) looked, delivered, ?_, hdelivered, rfl⟩, ?_,
    ?_, ?_, statistics, contract, channels, queries, deliveries, ?_, hqueries, hdeliveries⟩
  · intro hon
    rw [Reporter.tallied_errors hon, htally, Reporter.changed_on hon, Tally.collect_errors]
    cases result <;> rfl
  · rw [hstate]
    rfl
  · intro hon key
    rw [Reporter.tallied_flagged, htally, Reporter.changed_on hon, Tally.mem_collect, List.map_map]
    rfl
  · intro hoff
    rw [hoff, Reporter.tallied_off, htally, hoff]
    rfl
  · intro position key h
    have hsnooze := snoozes_setSnooze w before (before.seconds looked.now) problems position key h
    rw [hthrough] at hsnooze
    rw [hstate, handed, hlooked]
    exact hsnooze
  · rw [hstate, handed, hlooked, List.append_assoc]
    rfl

/-! ### All ways -/

/-- A cycle whose search finds a list of problems raises the alarms that are let through, and stays quiet if
there are none. -/
theorem cycle_found (w : Monitor) (token : Token) {now : Nat} {cancelled : List Token}
    {planned : List (Nat × Token)} {before : Site} {looked : Agenda Site} {problems : List Problem}
    (hlooked : (⟨now, cancelled, planned, [], before⟩ : Agenda Site).perform (w.findProblems token) =
      (looked, some (.ok problems))) :
    ∃ after result,
      (⟨now, cancelled, planned, [], before⟩ : Agenda Site).perform (w.cycle token) = (after, some result) ∧
      if w.passed before looked.now problems = [] then
        w.QuietCycle before problems after.state result
      else w.RaisedCycle before looked problems (w.passed before looked.now problems) after.state
        result := by
  obtain ⟨_, _, hfound, hloops, hnetwork⟩ := Agenda.perform_keeps (w.findProblems_keeps token)
    (a := ⟨now, cancelled, planned, [], before⟩) rfl
  obtain ⟨rfl, -⟩ := Prod.mk.inj (hlooked.symm.trans hfound)
  have hcycle := perform_cycle w token hlooked
  have hsame : letThrough w.snooze (looked.state.seconds looked.now)
      (looked.state.snoozes w.position) problems =
        letThrough w.snooze (before.seconds looked.now) (before.snoozes w.position) problems := by
    obtain ⟨statistics, contract, events, hstate, -⟩ := Frame.network_spec hnetwork
    rw [hstate]
    rfl
  obtain ⟨snooze, passed, hthrough⟩ : ∃ snooze passed, letThrough w.snooze
      (before.seconds looked.now) (before.snoozes w.position) problems = (snooze, passed) :=
    ⟨_, _, rfl⟩
  have hpassed : w.passed before looked.now problems = passed := by
    rw [Monitor.passed, ← letThrough_passed, hthrough]
  rw [hthrough] at hsame
  by_cases hquiet : passed = []
  · subst hquiet
    refine ⟨_, _, hcycle.trans (perform_raise_nil w problems hsame), ?_⟩
    have hcase := quietCycle w problems hnetwork
    rw [hthrough] at hcase
    simp only [hpassed]
    exact hcase
  · obtain ⟨delivered, result, hdelivered, -, hframe⟩ :=
      Agenda.perform_keeps (w.fanout.notify_keeps (passed.map w.message))
        (a := w.handed snooze (passed.map w.message) looked) hloops
    refine ⟨_, _, hcycle.trans (perform_raise w problems hsame hquiet hdelivered), ?_⟩
    simp only [hpassed, if_neg hquiet]
    exact raisedCycle w problems hnetwork hthrough hdelivered hframe

/-- A cycle whose search ends with a fault fails with it. -/
theorem cycle_unfound (w : Monitor) (token : Token) (hloops : a.loops = []) {looked : Agenda Site}
    {fault : Fault} (hlooked : a.perform (w.findProblems token) = (looked, some (.error fault))) :
    ∃ after, a.perform (w.cycle token) = (after, some (.error fault)) ∧ after.now = looked.now ∧
      w.FailedCycle a.state fault after.state (.error fault) ∧
      (Frame.ratings.Allows a.state looked.state → AskedNoKeys a.state after.state) := by
  obtain ⟨_, _, hfound, -, hnetwork⟩ := Agenda.perform_keeps (w.findProblems_keeps token) hloops
  obtain ⟨rfl, -⟩ := Prod.mk.inj (hlooked.symm.trans hfound)
  exact ⟨_, perform_cycle w token hlooked, rfl, failedCycle w fault hnetwork,
    fun hratings => askedNoKeys hratings _⟩

/-- **The frame of a cycle.**  With the site to itself, whatever the network replies, the check tells, the
channels do and is cancelled meanwhile, a cycle comes to its end.  The queries and the check decide which
of the three ways it has gone: the first fault among them is what it returns, and no key is asked for after
a fault of the query for ratings.  Each way changes what it names and nothing else. -/
theorem cycle_frame (w : Monitor) (token : Token) (now : Nat) (cancelled : List Token)
    (planned : List (Nat × Token)) (before : Site) :
    let start : Agenda Site := ⟨now, cancelled, planned, [], before⟩
    ∃ asked rated after result,
      start.perform (Network.ratings token) = (asked, some rated) ∧
      start.perform (w.cycle token) = (after, some result) ∧
      match rated with
      | .error fault =>
        w.FailedCycle before fault after.state result ∧ AskedNoKeys before after.state
      | .ok snapshot => ∃ looked fetched,
        asked.perform (Network.stakedKeys token w.queryPause w.accounts) = (looked, some fetched) ∧
        match fetched with
        | .error fault => w.FailedCycle before fault after.state result
        | .ok staked => match w.check snapshot staked with
          | .error fault => w.FailedCycle before fault after.state result
          | .ok problems =>
            if w.passed before looked.now problems = [] then
              w.QuietCycle before problems after.state result
            else w.RaisedCycle before looked problems (w.passed before looked.now problems)
              after.state result := by
  intro start
  obtain ⟨asked, rated, hrated, hloops, hratings⟩ :=
    Agenda.perform_keeps (Network.ratings_keeps token) (a := start) rfl
  cases rated with
  | error fault =>
    obtain ⟨after, hcycle, -, hfailed, hkeys⟩ :=
      w.cycle_unfound token rfl (w.findProblems_of_unrated hrated)
    exact ⟨asked, _, after, _, hrated, hcycle, hfailed, hkeys hratings⟩
  | ok snapshot =>
    obtain ⟨looked, fetched, hfetched, -, -⟩ :=
      Agenda.perform_keeps (Network.stakedKeys_keeps token w.queryPause w.accounts) hloops
    have hlooked := w.findProblems_of_rated hrated hfetched
    cases fetched with
    | error fault =>
      obtain ⟨after, hcycle, -, hfailed, -⟩ := w.cycle_unfound token rfl hlooked
      exact ⟨asked, _, after, _, hrated, hcycle, looked, _, hfetched, hfailed⟩
    | ok staked =>
      cases hcheck : w.check snapshot staked with
      | error fault =>
        simp only [hcheck] at hlooked
        obtain ⟨after, hcycle, -, hfailed, -⟩ := w.cycle_unfound token rfl hlooked
        refine ⟨asked, _, after, _, hrated, hcycle, looked, _, hfetched, ?_⟩
        simp only [hcheck]
        exact hfailed
      | ok problems =>
        simp only [hcheck] at hlooked
        obtain ⟨after, result, hcycle, hcase⟩ := w.cycle_found token hlooked
        refine ⟨asked, _, after, result, hrated, hcycle, looked, _, hfetched, ?_⟩
        simp only [hcheck]
        exact hcase

end Monitor

end ValidatorAlarm
