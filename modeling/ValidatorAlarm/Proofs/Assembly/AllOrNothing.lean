import ValidatorAlarm.Proofs.Assembly.Flaws
import ValidatorAlarm.Proofs.Timeline.Cycles

/-!
# All or nothing

An application is put together part by part, and the loop of a part is started as soon as the part is
complete.  If a later part has a flaw, the loops that were started by then are cancelled again, so
that what is left of them cannot work on: whatever happens afterwards, none of them begins a cycle
whose signal is not cancelled.

The main lemma, `startMonitors_spec`, follows the recursion over the monitors: on its way down it
starts loops, and if it finds a flaw it cancels them on its way back.
-/
namespace ValidatorAlarm

namespace Assembly

/-! ### The flaws of the parts -/

def delayFlaws (s : OutputSettings) : List AssemblyFault :=
  flaw (1 ≤ s.retryDelay)
    ⟨.invalidRetryDelay (.ofSeconds s.retryDelay) Fanout.leastDelay,
      ["creating notification fanout"]⟩

def checkFlaws (s : SelfCheckSettings) : List AssemblyFault :=
  if s.enabled then
    flaw (NamesDay s.day) (AssemblyFault.plain (.invalidWeekday s.day)) ++
      flaw (s.hour ≤ 23) ⟨.invalidHour s.hour, ["creating self-check trigger"]⟩ ++
      flaw (s.minute ≤ 59) ⟨.invalidMinute s.minute, ["creating self-check trigger"]⟩ ++
      flaw (1 ≤ s.interval) ⟨.invalidInterval (.ofSeconds s.interval) Rhythm.leastInterval,
        ["creating self-check poller"]⟩
  else []

def rosterFlaws (files : Files) (path : String) : List AssemblyFault :=
  match Roster.ofFile path (files path) with
  | .ok _ => []
  | .error fault => [⟨fault, ["reading " ++ path]⟩]

def monitorFlaws (files : Files) (s : MonitorSettings) : List AssemblyFault :=
  (rosterFlaws files s.roster ++
    flaw (IsPercentage s.tolerance) (AssemblyFault.plain (.invalidTolerance s.tolerance)) ++
    flaw (1 ≤ s.interval)
      (AssemblyFault.plain (.invalidInterval (.ofSeconds s.interval) (.ofSeconds 1)))).map
      (.during ("creating monitor " ++ Text.Quoted.text s.name))

/-- The flaws of all parts, in the order in which they are put together. -/
def flaws (s : Settings) (files : Files) : List AssemblyFault :=
  delayFlaws s.outputs ++ checkFlaws s.general.selfChecks ++ s.monitors.flatMap (monitorFlaws files)

/-- Settings that meet all conditions. -/
structure Sound (s : Settings) (files : Files) : Prop where
  delay : 1 ≤ s.outputs.retryDelay
  checks : s.general.selfChecks.enabled = true →
    NamesDay s.general.selfChecks.day ∧ s.general.selfChecks.hour ≤ 23 ∧
      s.general.selfChecks.minute ≤ 59 ∧ 1 ≤ s.general.selfChecks.interval
  monitors : ∀ m ∈ s.monitors, (∃ roster, Roster.ofFile m.roster (files m.roster) = .ok roster) ∧
    IsPercentage m.tolerance ∧ 1 ≤ m.interval

theorem checkFlaws_eq_nil (s : SelfCheckSettings) :
    checkFlaws s = [] ↔
      (s.enabled = true → NamesDay s.day ∧ s.hour ≤ 23 ∧ s.minute ≤ 59 ∧ 1 ≤ s.interval) := by
  rw [checkFlaws]
  cases s.enabled with
  | true => simp [flaw_eq_nil]
  | false => simp

theorem rosterFlaws_eq_nil (files : Files) (path : String) :
    rosterFlaws files path = [] ↔ ∃ roster, Roster.ofFile path (files path) = .ok roster := by
  rw [rosterFlaws]
  cases Roster.ofFile path (files path) <;> simp

theorem monitorFlaws_eq_nil (files : Files) (s : MonitorSettings) :
    monitorFlaws files s = [] ↔
      (∃ roster, Roster.ofFile s.roster (files s.roster) = .ok roster) ∧
        IsPercentage s.tolerance ∧ 1 ≤ s.interval := by
  simp [monitorFlaws, rosterFlaws_eq_nil, flaw_eq_nil]

theorem flaws_eq_nil (s : Settings) (files : Files) : flaws s files = [] ↔ Sound s files := by
  rw [flaws, List.append_eq_nil_iff, List.append_eq_nil_iff, delayFlaws, flaw_eq_nil,
    checkFlaws_eq_nil, List.flatMap_eq_nil_iff]
  simp only [monitorFlaws_eq_nil]
  constructor
  · rintro ⟨⟨hdelay, hchecks⟩, hmonitors⟩
    exact ⟨hdelay, hchecks, hmonitors⟩
  · rintro ⟨hdelay, hchecks, hmonitors⟩
    exact ⟨⟨hdelay, hchecks⟩, hmonitors⟩

/-! ### One part -/

theorem fanout_reports (s : Settings) : Reports (delayFlaws s.outputs) (fanout s) := by
  have h := (Fanout.make_reports (channels s) s.outputs.retries s.outputs.retryDelay).mapError
    fun cause => (⟨cause, ["creating notification fanout"]⟩ : AssemblyFault)
  rwa [flaw_map] at h

theorem checkPoller_reports (s : GeneralSettings) (reporter : Reporter)
    (henabled : s.selfChecks.enabled = true) :
    Reports (checkFlaws s.selfChecks) (checkPoller s reporter) := by
  have hday := (TargetDay.parse_reports s.selfChecks.day).mapError AssemblyFault.plain
  have htrigger (day : TargetDay) :=
    ((Target.make_reports day s.selfChecks.hour s.selfChecks.minute).map fun target =>
      (⟨target, CheckPlan.work reporter⟩ : Appointment)).mapError
        fun cause => (⟨cause, ["creating self-check trigger"]⟩ : AssemblyFault)
  have hpoller (appointment : Appointment) :=
    ((Rhythm.make_reports s.selfChecks.interval).map fun rhythm =>
      (⟨s.name, rhythm, appointment.attend, checkToken, false⟩ : Poller Site)).mapError
        fun cause => (⟨cause, ["creating self-check poller"]⟩ : AssemblyFault)
  simp only [List.map_append, flaw_map] at hday htrigger hpoller
  rw [checkFlaws, if_pos henabled]
  simp only [List.append_assoc]
  refine hday.bind fun day _ => ?_
  rw [← List.append_assoc]
  exact (htrigger day).bind fun appointment _ => hpoller appointment

theorem monitorPoller_reports (files : Files) (snooze : SnoozeSettings) (fanout : Fanout)
    (reporter : Reporter) (position : Nat) (s : MonitorSettings) :
    Reports
      (rosterFlaws files s.roster ++
        flaw (IsPercentage s.tolerance) (AssemblyFault.plain (.invalidTolerance s.tolerance)) ++
        flaw (1 ≤ s.interval)
          (AssemblyFault.plain (.invalidInterval (.ofSeconds s.interval) (.ofSeconds 1))))
      (monitorPoller files snooze fanout reporter position s) := by
  have hroster : Reports (rosterFlaws files s.roster)
      (withContext ("reading " ++ s.roster) (Roster.ofFile s.roster (files s.roster))) := by
    rw [rosterFlaws]
    cases Roster.ofFile s.roster (files s.roster) <;> rfl
  have htolerance := (tolerance?_reports s.tolerance).mapError AssemblyFault.plain
  rw [flaw_map] at htolerance
  rw [List.append_assoc]
  refine hroster.bind fun roster _ => htolerance.bind fun tolerance _ => ?_
  have hlong : ¬ Duration.ofSeconds s.interval < Duration.ofSeconds 1 ↔ 1 ≤ s.interval :=
    Duration.not_ofSeconds_lt_iff s.interval (by decide) (by decide)
  by_cases h : 1 ≤ s.interval
  · have hleast : Rhythm.leastInterval ≤ Duration.ofSeconds s.interval := by
      change 1 * 1000000 ≤ s.interval * 1000000000
      omega
    have hrhythm := Rhythm.make_ok hleast fun d (hd : d ∈ some (Duration.ofSeconds 10)) => by
      obtain rfl := Option.some.inj hd
      decide
    simp only [if_neg (hlong.mpr h), Poller.make, hrhythm]
    exact flaw_eq_nil.mpr h
  · simp only [if_pos (not_not.mp (mt hlong.mp h)), flaw, if_neg h]
    rfl

theorem checkPoller_token {s : GeneralSettings} {reporter : Reporter} {p : Poller Site}
    (h : checkPoller s reporter = .ok p) : p.token = checkToken ∧ p.started = false := by
  obtain ⟨day, -, h⟩ := bind_eq_ok.mp h
  obtain ⟨appointment, -, h⟩ := bind_eq_ok.mp h
  obtain ⟨rhythm, -, rfl⟩ := map_eq_ok.mp (mapError_eq_ok.mp h)
  exact ⟨rfl, rfl⟩

theorem monitorPoller_token {files : Files} {snooze : SnoozeSettings} {fanout : Fanout}
    {reporter : Reporter} {position : Nat} {s : MonitorSettings} {p : Poller Site}
    (h : monitorPoller files snooze fanout reporter position s = .ok p) :
    p.token = monitorToken position ∧ p.started = false := by
  obtain ⟨roster, -, h⟩ := bind_eq_ok.mp h
  obtain ⟨tolerance, -, h⟩ := bind_eq_ok.mp h
  simp only at h
  split at h
  · cases h
  · obtain ⟨rhythm, -, rfl⟩ := map_eq_ok.mp (mapError_eq_ok.mp h)
    exact ⟨rfl, rfl⟩

theorem launch_ok {p : Poller Site} (h : p.started = false) (a : Agenda Site) :
    launch (.ok p) a = .ok ({ p with started := true }, a.addLoop p.loop) := by
  change bare (p.start a) = _
  rw [Poller.start, h]
  rfl

/-! ### Loops that are started, and those that are cancelled again -/

/-- The agenda with the loops of some pollers. -/
def running (pollers : List (Poller Site)) (a : Agenda Site) : Agenda Site :=
  { a with loops := a.loops ++ pollers.map Poller.loop }

/-- The agenda with the loops of some pollers, all of which have been cancelled. -/
def undone (pollers : List (Poller Site)) (a : Agenda Site) : Agenda Site :=
  { running pollers a with cancelled := pollers.map (·.token) ++ a.cancelled }

theorem running_nil (a : Agenda Site) : running [] a = a := by
  rw [running, List.map_nil, List.append_nil]

theorem undone_nil (a : Agenda Site) : undone [] a = a := by
  rw [undone, running_nil]
  rfl

theorem running_cons (p : Poller Site) (pollers : List (Poller Site)) (a : Agenda Site) :
    running (p :: pollers) a = running pollers (a.addLoop p.loop) := by
  simp [running, Agenda.addLoop]

theorem undone_cons (p : Poller Site) (pollers : List (Poller Site)) (a : Agenda Site) :
    undone (p :: pollers) a = p.close (undone pollers (a.addLoop p.loop)) := by
  simp [undone, running, Agenda.addLoop, Poller.close, Agenda.cancel]

/-- The pollers of some monitors, the first of which has the given position. -/
def AreBuilt (files : Files) (snooze : SnoozeSettings) (fanout : Fanout) (reporter : Reporter)
    (position : Nat) (monitors : List MonitorSettings) (pollers : List (Poller Site)) : Prop :=
  List.Forall₂ (fun entry p => monitorPoller files snooze fanout reporter entry.2 entry.1 = .ok p)
    (monitors.zipIdx position) pollers

section Monitors

variable {files : Files} {snooze : SnoozeSettings} {fanout : Fanout} {reporter : Reporter}

theorem AreBuilt.tokens {position : Nat} {monitors : List MonitorSettings}
    {pollers : List (Poller Site)}
    (h : AreBuilt files snooze fanout reporter position monitors pollers) :
    pollers.map (·.token) = (List.range' position monitors.length).map monitorToken := by
  induction monitors generalizing position pollers with
  | nil =>
    cases h
    rfl
  | cons s monitors ih =>
    cases h with
    | cons hfirst hrest =>
      rw [List.map_cons, ih hrest, (monitorPoller_token hfirst).1, List.length_cons,
        List.range'_succ, List.map_cons]

variable (files snooze fanout reporter)

/-- How the start of some monitors ends: all of them run, or one has a flaw and those before it have
been cancelled again. -/
inductive Outcome (position : Nat) (monitors : List MonitorSettings) (a : Agenda Site) :
    Agenda Site × Except AssemblyFault (List Closer) → Prop
  | complete {pollers : List (Poller Site)} (hsound : monitors.flatMap (monitorFlaws files) = [])
      (hbuilt : AreBuilt files snooze fanout reporter position monitors pollers) :
      Outcome position monitors a
        (running pollers a, .ok (pollers.map fun p => .poller p.token))
  | flawed {pollers : List (Poller Site)} (count : Nat) {s : MonitorSettings}
      {fault : AssemblyFault} (hplace : monitors[count]? = some s)
      (hfault : (monitorFlaws files s).head? = some fault)
      (hsound : (monitors.take count).flatMap (monitorFlaws files) = [])
      (hbuilt : AreBuilt files snooze fanout reporter position (monitors.take count) pollers) :
      Outcome position monitors a (undone pollers a, .error fault)

/-- **The monitors are started from the first to the last**, and cancelled from the last to the first
if one of them cannot be. -/
theorem startMonitors_spec (position : Nat) (monitors : List MonitorSettings) (a : Agenda Site) :
    Outcome files snooze fanout reporter position monitors a
      (startMonitors files snooze fanout reporter position monitors a) := by
  induction monitors generalizing position a with
  | nil =>
    have hdone : Outcome files snooze fanout reporter position [] a (running [] a, .ok []) :=
      .complete rfl .nil
    rwa [running_nil] at hdone
  | cons s monitors ih =>
    have hreports := monitorPoller_reports files snooze fanout reporter position s
    rw [startMonitors]
    cases hbuilt : monitorPoller files snooze fanout reporter position s with
    | error fault =>
      rw [hbuilt] at hreports
      have hfirst : (monitorFlaws files s).head? = some
          (fault.during ("creating monitor " ++ Text.Quoted.text s.name)) := by
        rw [monitorFlaws, List.head?_map, show List.head? _ = some fault from hreports,
          Option.map_some]
      have hstopped : Outcome files snooze fanout reporter position (s :: monitors) a
          (undone [] a, .error (fault.during ("creating monitor " ++ Text.Quoted.text s.name))) :=
        .flawed 0 rfl hfirst rfl .nil
      rwa [undone_nil] at hstopped
    | ok p =>
      rw [hbuilt] at hreports
      obtain ⟨-, hfresh⟩ := monitorPoller_token hbuilt
      have hnone : monitorFlaws files s = [] := by
        rw [monitorFlaws, show _ = [] from hreports, List.map_nil]
      simp only [launch_ok hfresh]
      have hrest := ih (position + 1) (a.addLoop p.loop)
      generalize startMonitors files snooze fanout reporter (position + 1) monitors
        (a.addLoop p.loop) = result at hrest
      cases hrest with
      | @complete pollers hsound hpollers =>
        have hall : Outcome files snooze fanout reporter position (s :: monitors) a
            (running (p :: pollers) a, .ok ((p :: pollers).map fun p => .poller p.token)) :=
          .complete (by rw [List.flatMap_cons, hnone, hsound]; rfl) (.cons hbuilt hpollers)
        rwa [running_cons] at hall
      | @flawed pollers count s' fault hplace hfault hsound hpollers =>
        have hstopped : Outcome files snooze fanout reporter position (s :: monitors) a
            (undone (p :: pollers) a, .error fault) :=
          .flawed (count + 1) hplace hfault
            (by rw [List.take_succ_cons, List.flatMap_cons, hnone, hsound]; rfl)
            (.cons hbuilt hpollers)
        rwa [undone_cons] at hstopped

end Monitors

/-! ### Everything -/

def reporterOf (s : GeneralSettings) (fanout : Fanout) : Reporter :=
  if s.selfChecks.enabled then .on s.name fanout else .off

def checkCloser (s : GeneralSettings) : Closer :=
  if s.selfChecks.enabled then .poller checkToken else .nothing

/-- The pollers of the self-checks: one, or none if they are switched off. -/
def ChecksBuilt (s : GeneralSettings) (fanout : Fanout) (pollers : List (Poller Site)) : Prop :=
  if s.selfChecks.enabled then
    ∃ p, checkPoller s (reporterOf s fanout) = .ok p ∧ pollers = [p]
  else pollers = []

/-- The pollers of the self-checks and of the first monitors, up to the given number. -/
def Lineup (s : Settings) (files : Files) (count : Nat) (pollers : List (Poller Site)) : Prop :=
  ∃ fanout checks monitors, Assembly.fanout s = .ok fanout ∧ ChecksBuilt s.general fanout checks ∧
    AreBuilt files s.general.snooze fanout (reporterOf s.general fanout) 0
      (s.monitors.take count) monitors ∧
    pollers = checks ++ monitors

theorem running_append (checks pollers : List (Poller Site)) (a : Agenda Site) :
    running pollers (running checks a) = running (checks ++ pollers) a := by
  simp [running]

/-- Closing the self-checks undoes what is left. -/
theorem checkCloser_undone {s : GeneralSettings} {fanout : Fanout} {checks : List (Poller Site)}
    (h : ChecksBuilt s fanout checks) (pollers : List (Poller Site)) (a : Agenda Site) :
    ((checkCloser s).close 0 (undone pollers (running checks a))).1 =
      undone (checks ++ pollers) a := by
  rw [ChecksBuilt] at h
  rw [checkCloser]
  split at h
  · rename_i henabled
    obtain ⟨p, hp, rfl⟩ := h
    rw [if_pos henabled, ← (checkPoller_token hp).1]
    simp [Closer.close, undone, running, Agenda.cancel]
  · rename_i hdisabled
    rw [if_neg hdisabled, h]
    simp [Closer.close, undone, running]

/-- The self-checks are started, or have a flaw. -/
theorem startReporter_spec (s : GeneralSettings) (fanout : Fanout) (a : Agenda Site) :
    (∃ fault, startReporter s fanout a = .error fault ∧
        (checkFlaws s.selfChecks).head? = some fault) ∨
      ∃ checks, ChecksBuilt s fanout checks ∧ checkFlaws s.selfChecks = [] ∧
        startReporter s fanout a = .ok (reporterOf s fanout, checkCloser s, running checks a) := by
  simp only [startReporter, ChecksBuilt, reporterOf, checkCloser]
  by_cases henabled : s.selfChecks.enabled = true
  · have hreports := checkPoller_reports s (.on s.name fanout) henabled
    simp only [if_pos henabled]
    cases hp : checkPoller s (.on s.name fanout) with
    | error fault =>
      rw [hp] at hreports
      exact .inl ⟨fault, rfl, hreports⟩
    | ok p =>
      rw [hp] at hreports
      obtain ⟨htoken, hfresh⟩ := checkPoller_token hp
      refine .inr ⟨[p], ?_, hreports, ?_⟩
      · exact ⟨p, rfl, rfl⟩
      · rw [launch_ok hfresh, ← htoken]
        rfl
  · simp only [if_neg henabled]
    refine .inr ⟨[], rfl, ?_, ?_⟩
    · rw [checkFlaws, if_neg henabled]
    · rw [running_nil]

/-- How the assembly of some settings ends. -/
inductive Ending (s : Settings) (files : Files) (a : Agenda Site) :
    Agenda Site × Except AssemblyFault Monitoring → Prop
  | complete {pollers : List (Poller Site)} {fanout : Fanout} (hsound : flaws s files = [])
      (hbuilt : Lineup s files s.monitors.length pollers) :
      Ending s files a (running pollers a, .ok ⟨fanout, reporterOf s.general fanout,
        checkCloser s.general ::
          (List.range s.monitors.length).map fun i => .poller (monitorToken i)⟩)
  | flawed {pollers : List (Poller Site)} {fault : AssemblyFault}
      (hfault : (flaws s files).head? = some fault)
      (hbuilt : delayFlaws s.outputs ++ checkFlaws s.general.selfChecks ≠ [] ∧ pollers = [] ∨
        ∃ count m, s.monitors[count]? = some m ∧ (monitorFlaws files m).head? = some fault ∧
          Lineup s files count pollers) :
      Ending s files a (undone pollers a, .error fault)

theorem start_spec (s : Settings) (files : Files) (a : Agenda Site) :
    Ending s files a (start s files a) := by
  have hdelay := fanout_reports s
  rw [start_eq]
  beta_reduce
  cases hfanout : fanout s with
  | error fault =>
    rw [hfanout] at hdelay
    have hfirst : (delayFlaws s.outputs).head? = some fault := hdelay
    have hstopped : Ending s files a (undone [] a, .error fault) := by
      refine .flawed ?_ (.inl ⟨?_, rfl⟩)
      · simp [flaws, List.head?_append, hfirst]
      · intro hnone
        rw [(List.append_eq_nil_iff.mp hnone).1] at hfirst
        cases hfirst
    rwa [undone_nil] at hstopped
  | ok fanout =>
    rw [hfanout] at hdelay
    have hdelay : delayFlaws s.outputs = [] := hdelay
    simp only
    obtain ⟨fault, hchecks, hfirst⟩ | ⟨checks, hbuilt, hnone, hchecks⟩ :=
      startReporter_spec s.general fanout a
    · rw [hchecks]
      have hstopped : Ending s files a (undone [] a, .error fault) := by
        refine .flawed ?_ (.inl ⟨?_, rfl⟩)
        · simp [flaws, List.head?_append, hfirst, hdelay]
        · intro hnone
          rw [(List.append_eq_nil_iff.mp hnone).2] at hfirst
          cases hfirst
      rwa [undone_nil] at hstopped
    · rw [hchecks]
      simp only
      have hmonitors := startMonitors_spec files s.general.snooze fanout
        (reporterOf s.general fanout) 0 s.monitors (running checks a)
      generalize startMonitors files s.general.snooze fanout (reporterOf s.general fanout) 0
        s.monitors (running checks a) = result at hmonitors
      cases hmonitors with
      | @complete pollers hsound hpollers =>
        have hclosers : pollers.map (fun p => Closer.poller p.token) =
            (List.range s.monitors.length).map fun i => Closer.poller (monitorToken i) := by
          have htokens := congrArg (List.map Closer.poller) hpollers.tokens
          rw [List.map_map, List.map_map, ← List.range_eq_range'] at htokens
          exact htokens
        simp only [hclosers, running_append]
        refine .complete ?_ ⟨fanout, checks, pollers, hfanout, hbuilt, ?_, rfl⟩
        · rw [flaws, hdelay, hnone, hsound]
          rfl
        · rw [List.take_length]
          exact hpollers
      | @flawed pollers count m fault hplace hfault hsound hpollers =>
        simp only [checkCloser_undone hbuilt]
        refine .flawed ?_
          (.inr ⟨count, m, hplace, hfault, fanout, checks, pollers, hfanout, hbuilt, hpollers, rfl⟩)
        obtain ⟨hlength, hm⟩ := List.getElem?_eq_some_iff.mp hplace
        have hsplit : s.monitors = s.monitors.take count ++ m :: s.monitors.drop (count + 1) := by
          rw [← hm, List.getElem_cons_drop, List.take_append_drop]
        rw [flaws, hdelay, hnone, hsplit, List.flatMap_append, hsound, List.flatMap_cons]
        simp [List.head?_append, hfault]

/-- **Assembly is all or nothing.**  It succeeds if and only if the settings meet all conditions.
Then it returns the closer of the self-checks and those of the monitors, and all of their loops run.
Otherwise it reports the first flaw; no loop of the flawed monitor or a later one has been started, all
that have been are cancelled, and none of them ever begins a cycle whose signal is not. -/
theorem all_or_nothing (s : Settings) (files : Files) (a : Agenda Site) :
    ((∃ b monitoring, start s files a = (b, .ok monitoring)) ↔ Sound s files) ∧
      (∀ b monitoring, start s files a = (b, .ok monitoring) →
        monitoring.closers =
            (if s.general.selfChecks.enabled then .poller checkToken else .nothing) ::
              (List.range s.monitors.length).map (fun i => .poller (monitorToken i)) ∧
          ∃ pollers, Lineup s files s.monitors.length pollers ∧ b = running pollers a) ∧
      ∀ b fault, start s files a = (b, .error fault) →
        (flaws s files).head? = some fault ∧
          (∃ pollers, b = undone pollers a ∧
            (delayFlaws s.outputs ++ checkFlaws s.general.selfChecks ≠ [] ∧ pollers = [] ∨
              ∃ count m, s.monitors[count]? = some m ∧ (monitorFlaws files m).head? = some fault ∧
                Lineup s files count pollers)) ∧
          ∀ place l, a.loops.length ≤ place → b.loops[place]? = some l →
            b.moment.cancelled l.token = true ∧
              ∀ (β : Type) (later : Work β) (time : Nat) (cancelled : Bool),
                .begun time cancelled ∈ b.notesAt place later → cancelled = true := by
  have hending := start_spec s files a
  generalize start s files a = result at hending
  cases hending with
  | @complete pollers fanout hsound hbuilt =>
    refine ⟨iff_of_true ⟨_, _, rfl⟩ ((flaws_eq_nil s files).mp hsound), ?_, ?_⟩
    · intro b monitoring hresult
      obtain ⟨rfl, hmonitoring⟩ := Prod.mk.inj hresult
      obtain rfl := Except.ok.inj hmonitoring
      exact ⟨rfl, pollers, hbuilt, rfl⟩
    · intro b fault hresult
      cases (Prod.mk.inj hresult).2
  | @flawed pollers fault hfault hbuilt =>
    refine ⟨iff_of_false ?_ ?_, ?_, ?_⟩
    · rintro ⟨b, monitoring, hresult⟩
      cases (Prod.mk.inj hresult).2
    · intro hsound
      rw [(flaws_eq_nil s files).mpr hsound] at hfault
      cases hfault
    · intro b monitoring hresult
      cases (Prod.mk.inj hresult).2
    · intro b fault' hresult
      obtain ⟨rfl, hfault'⟩ := Prod.mk.inj hresult
      obtain rfl := Except.error.inj hfault'
      refine ⟨hfault, ⟨pollers, rfl, hbuilt⟩, ?_⟩
      intro place l hplace hl
      have hcancelled : (undone pollers a).moment.cancelled l.token = true := by
        have hstarted : l ∈ pollers.map Poller.loop := by
          rw [undone, running] at hl
          simp only [List.getElem?_append_right hplace] at hl
          exact List.mem_of_getElem? hl
        obtain ⟨p, hp, rfl⟩ := List.mem_map.mp hstarted
        have htoken : p.token ∈ pollers.map (·.token) := List.mem_map_of_mem hp
        have hsame : p.loop.token = p.token := rfl
        rw [hsame]
        simpa [undone, Agenda.moment] using Or.inl (List.mem_map.mp htoken)
      refine ⟨hcancelled, ?_⟩
      intro β later time cancelled hbegun
      exact (Agenda.notesAt_of_cancelled hl hcancelled later hbegun).1

end Assembly

end ValidatorAlarm
