import ValidatorAlarm.Proofs.Monitor.Parts
import ValidatorAlarm.Proofs.SelfCheck.Book
import ValidatorAlarm.Proofs.Timeline.Notes
import ValidatorAlarm.Watch

/-!
# Self-checks among cycles

Cycles, self-checks and whoever else reports to the same reporter work at one site, and come in
between each other wherever they wait.  Here their work is done once more with a book beside the
site: a cycle enters what its check has found, the messages that it hands to the fanout and the result
that it returns, and a self-check the report that it hands to the fanout.  Whatever is entered as handed
on is handed on by the same call, `Ledger.hand`.  The site does not notice the book.

The invariant is that the tally is right for the pending span of the book, and that every report said
what its span asks for.  It holds wherever a task waits.  It does not hold in between: a cycle counts
its error a step before it returns it, and enters a check a step before the messages of its alarms.
-/
namespace ValidatorAlarm

/-- A site with its book. -/
abbrev Ledger := Noted Site Entry

namespace Ledger

/-- Makes an entry. -/
def enter (entry : Entry) : Task Ledger Unit := Noted.jot fun _ book => entry :: book

/-! ### Work with entries -/

/-- Hands messages to the fanout, with an entry of them. -/
def hand (entry : List Message → Entry) (fanout : Fanout) (messages : List Message) :
    Task Ledger (Except Fault Unit) := do
  enter (entry messages)
  Noted.lift (fanout.notify messages)

/-- The messages about the problems whose alarms are let through, with an entry of the check. -/
def alarms (w : Monitor) (problems : List Problem) : Task Ledger (List Message) := do
  let m ← Task.moment
  let passed ← Noted.lift <| Task.update fun s =>
    let (snooze, passed) :=
      Monitor.letThrough w.snooze (s.seconds m.now) (s.snoozes w.position) problems
    (s.setSnooze w.position snooze, passed)
  enter (.checked w problems passed)
  return passed.map w.message

/-- The alarms of a cycle, which are handed to the fanout. -/
def raise (w : Monitor) (problems : List Problem) : Task Ledger (Except Fault Unit) := do
  let messages ← alarms w problems
  if messages.isEmpty then return .ok ()
  else
    Noted.lift (w.reporter.collect messages)
    let result ← hand .handed w.fanout messages
    Noted.lift (w.reporter.counted result)

/-- A cycle without an entry for its result. -/
def attempt (w : Monitor) (token : Token) : Task Ledger (Except Fault Unit) := do
  let found ← Noted.lift (w.findProblems token)
  match ← Noted.lift (w.reporter.counted found) with
  | .error fault => return .error fault
  | .ok problems => raise w problems

/-- A cycle, with an entry for its result. -/
def cycle (w : Monitor) (token : Token) : Task Ledger (Except Fault Unit) := do
  let result ← attempt w token
  enter (.returned result)
  return result

/-- A self-check, whose report is handed to the fanout. -/
def selfCheck (name : String) (fanout : Fanout) : Task Ledger (Except Fault Unit) := do
  let tally ← Noted.lift Reporter.drain
  let _ ← hand .told fanout (Reporter.report name tally)
  return .ok ()

/-- A look at the clock, and a self-check if it is due. -/
def attend (name : String) (fanout : Fanout) (target : Target) : Task Ledger (Except Fault Unit) := do
  let m ← Task.moment
  let fired ← Noted.lift <| Task.update fun s =>
    let (trigger, fired) := s.trigger.look target (s.clock m.now)
    ({ s with trigger := trigger }, fired)
  if fired then selfCheck name fanout else return .ok ()

end Ledger

/-! ### The jobs at a reporter -/

/-- Whatever has to do with a reporter. -/
inductive Duty where
  /-- A cycle of a monitor that reports to it, with the signal of its cancellation. -/
  | cycle (w : Monitor) (token : Token)
  /-- A self-check. -/
  | selfCheck (token : Token)
  /-- A self-check if the target minute has come. -/
  | attend (target : Target) (token : Token)
  /-- An error that is reported directly. -/
  | error
  /-- Messages that are collected directly. -/
  | collect (messages : List Message)
  | announceStart (now : Instant)
  | announceEnd

namespace Duty

variable (name : String) (fanout : Fanout)

/-- The work of the application for a reporter that is switched on. -/
def task : Duty → Work (Except Fault Unit)
  | .cycle w token => { w with reporter := .on name fanout }.cycle token
  | .selfCheck token => CheckPlan.work (.on name fanout) token
  | .attend target token => Appointment.attend ⟨target, CheckPlan.work (.on name fanout)⟩ token
  | .error => do
    Reporter.countError (.on name fanout)
    return .ok ()
  | .collect messages => do
    Reporter.collect (.on name fanout) messages
    return .ok ()
  | .announceStart now => do
    Reporter.announceStart now (.on name fanout)
    return .ok ()
  | .announceEnd => do
    Reporter.announceEnd (.on name fanout)
    return .ok ()

/-- The same work with its entries. -/
def booked : Duty → Task Ledger (Except Fault Unit)
  | .cycle w token => Ledger.cycle { w with reporter := .on name fanout } token
  | .selfCheck _ => Ledger.selfCheck name fanout
  | .attend target _ => Ledger.attend name fanout target
  | .error => do
    Noted.lift (Reporter.countError (.on name fanout))
    Ledger.enter .reported
    return .ok ()
  | .collect messages => do
    Noted.lift (Reporter.collect (.on name fanout) messages)
    Ledger.enter (.collected messages)
    return .ok ()
  | .announceStart now => Noted.lift ((Duty.announceStart now).task name fanout)
  | .announceEnd => Noted.lift (Duty.announceEnd.task name fanout)

end Duty

/-! ### The site does not notice the book -/

namespace Ledger

theorem hand_follows (entry : List Message → Entry) (fanout : Fanout) (messages : List Message) :
    (hand entry fanout messages).Follows Noted.state (fanout.notify messages) :=
  Noted.jot_bind_follows (Noted.lift_follows _)

theorem alarms_follows (w : Monitor) (problems : List Problem) :
    (alarms w problems).Follows Noted.state (w.alarms problems) := by
  refine .bind (.look fun m _ => .done m) fun m => .bind (Noted.lift_follows _) fun passed => ?_
  exact Noted.jot_bind_follows (.done _)

theorem raise_follows (w : Monitor) (problems : List Problem) :
    (raise w problems).Follows Noted.state (w.raise problems) := by
  apply Task.Follows.bind (alarms_follows w problems)
  intro messages
  split
  · exact .done _
  · refine .bind (Noted.lift_follows (w.reporter.collect messages)) fun _ => ?_
    exact .bind (hand_follows _ w.fanout messages) fun result => Noted.lift_follows _

theorem attempt_follows (w : Monitor) (token : Token) :
    (attempt w token).Follows Noted.state (w.cycle token) := by
  apply Task.Follows.bind (Noted.lift_follows (w.findProblems token))
  intro found
  apply Task.Follows.bind (Noted.lift_follows (w.reporter.counted found))
  intro counted
  cases counted with
  | error fault => exact .done _
  | ok problems => exact raise_follows w problems

theorem cycle_follows (w : Monitor) (token : Token) :
    (cycle w token).Follows Noted.state (w.cycle token) := by
  rw [← Task.bind_done (w.cycle token)]
  exact .bind (attempt_follows w token) fun result => Noted.jot_bind_follows (.done result)

/-- A self-check takes the counts and hands its report to the fanout. -/
theorem selfCheck_eq (name : String) (fanout : Fanout) (token : Token) :
    CheckPlan.work (.on name fanout) token = Reporter.drain.bind fun tally =>
      (fanout.notify (Reporter.report name tally)).bind fun _ => .done (.ok ()) :=
  (Task.bind_assoc _ _ _).trans (congrArg _ (funext fun _ => Task.bind_assoc _ _ _))

theorem selfCheck_follows (name : String) (fanout : Fanout) (token : Token) :
    (selfCheck name fanout).Follows Noted.state (CheckPlan.work (.on name fanout) token) := by
  rw [selfCheck_eq]
  refine .bind (Noted.lift_follows Reporter.drain) fun tally => ?_
  exact .bind (hand_follows _ fanout _) fun _ => .done _

theorem attend_follows (name : String) (fanout : Fanout) (target : Target) (token : Token) :
    (attend name fanout target).Follows Noted.state
      (Appointment.attend ⟨target, CheckPlan.work (.on name fanout)⟩ token) := by
  refine .bind (.look fun m _ => .done m) fun m => .bind (Noted.lift_follows _) fun fired => ?_
  cases fired with
  | false => exact .done _
  | true => exact selfCheck_follows name fanout token

end Ledger

theorem Duty.booked_follows (name : String) (fanout : Fanout) (duty : Duty) :
    (duty.booked name fanout).Follows Noted.state (duty.task name fanout) := by
  cases duty with
  | cycle w token => exact Ledger.cycle_follows _ token
  | selfCheck token => exact Ledger.selfCheck_follows name fanout token
  | attend target token => exact Ledger.attend_follows name fanout target token
  | error => exact .bind (Noted.lift_follows _) fun _ => Noted.jot_bind_follows (.done _)
  | collect messages => exact .bind (Noted.lift_follows _) fun _ => Noted.jot_bind_follows (.done _)
  | announceStart now => exact Noted.lift_follows _
  | announceEnd => exact Noted.lift_follows _

/-! ### The book is right wherever a task waits -/

/-- However a search goes, the problems that it finds are those of a check. -/
theorem Monitor.findProblems_checked (w : Monitor) (token : Token) {m : Moment} {s : Site} :
    (w.findProblems token).Meets (fun _ => True)
      (fun found _ => ∀ problems, found = .ok problems → w.Checked problems) m s := by
  have hfault : ∀ (fault : Fault) problems,
      (Except.error fault : Except Fault (List Problem)) = .ok problems → w.Checked problems := by
    intro fault problems h
    cases h
  apply Task.Meets.bind (Task.Meets.trivial _)
  intro rated m s _
  cases rated with
  | error fault => exact hfault fault
  | ok snapshot =>
    apply Task.Meets.bind (Task.Meets.trivial _)
    intro fetched m s _
    cases fetched with
    | error fault => exact hfault fault
    | ok staked => exact fun problems h => ⟨snapshot, staked, h⟩

namespace Ledger

/-- The tally is right for the pending span, and so was every report for its own.  In each of these spans
the keys that were collected are those that were let through. -/
structure Right (name : String) (l : Ledger) : Prop where
  counts : l.state.tally.Counts (Book.pending l.notes)
  passing : Book.passing (Book.pending l.notes) = Book.keys (Book.pending l.notes)
  reports : ∀ r ∈ Book.reports l.notes,
    r.2 = Book.summary name r.1 ∧ Book.passing r.1 = Book.keys r.1
  sound : ∀ entry ∈ l.notes, entry.Sound

variable {name : String} {l : Ledger} {m : Moment}

/-- The ledger with one more entry. -/
def entered (l : Ledger) (entry : Entry) : Ledger := ⟨l.state, entry :: l.notes⟩

/-- Entries that are no reports go to the pending span. -/
theorem Right.enter (hl : l.Right name) {site : Site} (entries : List Entry)
    (hentries : ∀ entry ∈ entries, entry.isReport = false ∧ entry.Sound)
    (hpassing : Book.passing entries = Book.keys entries)
    (hcounts : site.tally.Counts (entries ++ Book.pending l.notes)) :
    Right name ⟨site, entries ++ l.notes⟩ := by
  have hpending := Book.pending_append (fun entry h => (hentries entry h).1) l.notes
  have hreports := Book.reports_append (fun entry h => (hentries entry h).1) l.notes
  refine ⟨?_, ?_, ?_, ?_⟩
  · rw [hpending]
    exact hcounts
  · have hbefore := hl.passing
    rw [Book.passing, Book.keys] at hpassing hbefore ⊢
    rw [hpending, List.flatMap_append, List.flatMap_append, hpassing, hbefore]
  · rw [hreports]
    exact hl.reports
  · exact List.forall_mem_append.mpr ⟨fun entry h => (hentries entry h).2, hl.sound⟩

theorem Right.returned_ok (hl : l.Right name) (a : Unit) :
    (l.entered (.returned (.ok a))).Right name :=
  hl.enter [_] (by simp [Entry.isReport, Entry.Sound]) rfl (hl.counts.aside rfl rfl)

/-- An error that is counted, as that of the result of a cycle or one that is reported directly. -/
theorem Right.countError (hl : l.Right name) {entry : Entry}
    (hentry : entry = .reported ∨ ∃ fault, entry = .returned (.error fault)) :
    Right name ⟨{ l.state with tally := l.state.tally.countError }, entry :: l.notes⟩ := by
  rcases hentry with rfl | ⟨fault, rfl⟩
  · exact hl.enter [_] (by simp [Entry.isReport, Entry.Sound]) rfl (hl.counts.countError rfl rfl)
  · exact hl.enter [_] (by simp [Entry.isReport, Entry.Sound]) rfl (hl.counts.countError rfl rfl)

/-- Messages that are collected directly. -/
theorem Right.collect (hl : l.Right name) (messages : List Message) :
    Right name ⟨{ l.state with tally := l.state.tally.collect messages },
      .collected messages :: l.notes⟩ :=
  hl.enter [_] (by simp [Entry.isReport, Entry.Sound]) rfl (hl.counts.collect rfl rfl)

/-- A check of which no alarm is let through. -/
theorem Right.quiet (hl : l.Right name) {w : Monitor} {problems : List Problem} (snooze : Snooze)
    (hchecked : (Entry.checked w problems []).Sound) :
    Right name ⟨l.state.setSnooze w.position snooze, .checked w problems [] :: l.notes⟩ :=
  hl.enter [_] (List.forall_mem_singleton.mpr ⟨rfl, hchecked⟩) rfl (hl.counts.aside rfl rfl)

/-- A check and the messages of its alarms, which are collected. -/
theorem Right.raise (hl : l.Right name) {w : Monitor} {problems passed : List Problem} (snooze : Snooze)
    (hchecked : (Entry.checked w problems passed).Sound) :
    Right name ⟨{ l.state.setSnooze w.position snooze with
        tally := l.state.tally.collect (passed.map w.message) },
      .handed (passed.map w.message) :: .checked w problems passed :: l.notes⟩ := by
  have hkeys : passed.map (·.key) = (passed.map w.message).map (·.identityKey) := by
    rw [List.map_map]
    rfl
  refine hl.enter [.handed (passed.map w.message), .checked w problems passed]
    (List.forall_mem_cons.mpr ⟨⟨rfl, trivial⟩, List.forall_mem_singleton.mpr ⟨rfl, hchecked⟩⟩) ?_
    ((hl.counts.aside rfl rfl).collect rfl rfl)
  simp [Book.passing, Book.keys, Entry.passing, Entry.keys, hkeys]

/-- A report that is made from the tally closes the pending span. -/
theorem Right.tell (hl : l.Right name) :
    Right name ⟨{ l.state with tally := .empty },
      .told (Reporter.report name l.state.tally) :: l.notes⟩ := by
  refine ⟨Tally.Counts.empty, rfl, ?_, List.forall_mem_cons.mpr ⟨trivial, hl.sound⟩⟩
  intro r hr
  rcases List.mem_cons.mp hr with rfl | hearlier
  · exact ⟨hl.counts.report name, hl.passing⟩
  · exact hl.reports r hearlier

/-! ### What each duty guarantees -/

theorem collect_bind_meets {α : Type} {J : Ledger → Prop} {Q : α → Ledger → Prop} (name : String)
    (fanout : Fanout) {messages : List Message} {k : Unit → Task Ledger α}
    (h : (k ()).Meets J Q m
      ⟨{ l.state with tally := l.state.tally.collect messages }, l.notes⟩) :
    ((Noted.lift (Reporter.collect (.on name fanout) messages)).bind k).Meets J Q m l := h

theorem drain_bind_meets {α : Type} {J : Ledger → Prop} {Q : α → Ledger → Prop}
    {k : Tally → Task Ledger α}
    (h : (k l.state.tally).Meets J Q m ⟨{ l.state with tally := .empty }, l.notes⟩) :
    ((Noted.lift Reporter.drain).bind k).Meets J Q m l := h

theorem alarms_bind_meets {α : Type} {J : Ledger → Prop} {Q : α → Ledger → Prop} {w : Monitor}
    {problems : List Problem} {k : List Message → Task Ledger α}
    (h : ∀ snooze passed, Monitor.letThrough w.snooze (l.state.seconds m.now)
        (l.state.snoozes w.position) problems = (snooze, passed) →
      (k (passed.map w.message)).Meets J Q m
        ⟨l.state.setSnooze w.position snooze, .checked w problems passed :: l.notes⟩) :
    ((alarms w problems).bind k).Meets J Q m l := h _ _ rfl

/-- Work that leaves the tally alone leaves the ledger right. -/
theorem fixed_meets {α : Type} {t : Work α} (ht : t.Keeps (Frame.fixed Site.tally))
    (hl : l.Right name) : (Noted.lift t).Meets (Right name) (fun _ l => l.Right name) m l := by
  refine Task.Keeps.meets ?_ (Noted.lift_keeps ht) hl
  rintro l l' ⟨htally, hnotes⟩ hl
  have hsame : l'.state.tally = l.state.tally := htally
  refine ⟨?_, ?_, ?_, ?_⟩
  · rw [hsame, hnotes]
    exact hl.counts
  · rw [hnotes]
    exact hl.passing
  · rw [hnotes]
    exact hl.reports
  · rw [hnotes]
    exact hl.sound

theorem notify_meets (fanout : Fanout) (messages : List Message) (hl : l.Right name) :
    (Noted.lift (fanout.notify messages)).Meets (Right name) (fun _ l => l.Right name) m l :=
  fixed_meets ((fanout.notify_keeps messages).mono fun _ _ => Frame.delivery_tally) hl

/-- What is handed on is right once its entry is made. -/
theorem hand_meets {entry : List Message → Entry} (fanout : Fanout) {messages : List Message}
    (hl : (l.entered (entry messages)).Right name) :
    (hand entry fanout messages).Meets (Right name) (fun _ l => l.Right name) m l :=
  Noted.jot_bind_meets (notify_meets fanout messages hl)

/-- The error is counted, and its entry is still to come. -/
theorem counted_meets {α : Type} (fanout : Fanout) (result : Except Fault α) (hl : l.Right name) :
    (Noted.lift ((Reporter.on name fanout).counted result)).Meets (Right name)
      (fun result l => match result with
        | .ok _ => l.Right name
        | .error fault => (l.entered (.returned (.error fault))).Right name) m l := by
  cases result with
  | ok a => exact hl
  | error fault => exact hl.countError (.inr ⟨fault, rfl⟩)

/-- The result of the alarms is counted if it is an error, and its entry is still to come. -/
theorem raise_meets {w : Monitor} {fanout : Fanout} (hw : w.reporter = .on name fanout)
    {problems : List Problem} (hchecked : w.Checked problems) (hl : l.Right name) :
    (raise w problems).Meets (Right name)
      (fun result l => (l.entered (.returned result)).Right name) m l := by
  apply alarms_bind_meets
  intro snooze passed hthrough
  have hsound : (Entry.checked w problems passed).Sound := ⟨hchecked, _, _, by rw [hthrough]⟩
  split
  · rename_i hempty
    obtain rfl : passed = [] := List.map_eq_nil_iff.mp (List.isEmpty_iff.mp hempty)
    exact (hl.quiet snooze hsound).returned_ok ()
  · rw [hw]
    refine collect_bind_meets name fanout ?_
    apply Task.Meets.bind (hand_meets w.fanout (hl.raise snooze hsound))
    intro result m l hl
    apply Task.Meets.mono _ (counted_meets fanout result hl)
    intro result l h
    cases result with
    | ok a => exact h.returned_ok a
    | error fault => exact h

theorem cycle_meets {w : Monitor} {fanout : Fanout} (hw : w.reporter = .on name fanout)
    (token : Token) (hl : l.Right name) :
    (cycle w token).Meets (Right name) (fun _ l => l.Right name) m l := by
  have hattempt : (attempt w token).Meets (Right name)
      (fun result l => (l.entered (.returned result)).Right name) m l := by
    have hfind := (w.findProblems_keeps token).mono fun _ _ => Frame.network_tally
    have hchecked := Noted.lift_meets (n := l) (w.findProblems_checked token (m := m))
    -- the search keeps the invariant, and whatever happens meanwhile, it ends with a check
    apply Task.Meets.bind ((fixed_meets hfind hl).and_end hchecked)
    rintro found m l ⟨hl, hfound⟩
    rw [hw]
    cases found with
    | error fault => exact hl.countError (.inr ⟨fault, rfl⟩)
    | ok problems => exact raise_meets hw (hfound problems rfl) hl
  exact Task.Meets.bind hattempt fun result m l h => h

/-- The counts are taken and entered in one step, and only then is the report delivered. -/
theorem selfCheck_meets (fanout : Fanout) (hl : l.Right name) :
    (selfCheck name fanout).Meets (Right name) (fun _ l => l.Right name) m l :=
  drain_bind_meets (Task.Meets.bind (hand_meets fanout hl.tell) fun _ _ _ h => h)

theorem attend_meets (fanout : Fanout) (target : Target) (hl : l.Right name) :
    (attend name fanout target).Meets (Right name) (fun _ l => l.Right name) m l := by
  have hlook : (Task.update fun s : Site =>
      ({ s with trigger := (s.trigger.look target (s.clock m.now)).1 },
        (s.trigger.look target (s.clock m.now)).2)).Keeps (Frame.fixed Site.tally) :=
    Task.Keeps.update fun s => rfl
  apply Task.Meets.moment_bind
  apply Task.Meets.bind (fixed_meets hlook hl)
  intro fired m l hl
  cases fired with
  | false => exact hl
  | true => exact selfCheck_meets fanout hl

end Ledger

theorem Duty.booked_meets (name : String) (fanout : Fanout) (duty : Duty) {m : Moment} {l : Ledger}
    (hl : l.Right name) :
    (duty.booked name fanout).Meets (Ledger.Right name) (fun _ l => l.Right name) m l := by
  have htell : ∀ messages, (Reporter.tell fanout messages).Keeps (Frame.fixed Site.tally) :=
    fun messages =>
      Task.Keeps.bind ((fanout.notify_keeps messages).mono fun _ _ => Frame.delivery_tally)
        fun _ => trivial
  cases duty with
  | cycle w token => exact Ledger.cycle_meets rfl token hl
  | selfCheck token => exact Ledger.selfCheck_meets fanout hl
  | attend target token => exact Ledger.attend_meets fanout target hl
  | error => exact hl.countError (.inl rfl)
  | collect messages =>
    exact Ledger.collect_bind_meets name fanout (Noted.jot_bind_meets (hl.collect messages))
  | announceStart now => exact Ledger.fixed_meets (Task.Keeps.bind (htell _) fun _ => trivial) hl
  | announceEnd => exact Ledger.fixed_meets (Task.Keeps.bind (htell _) fun _ => trivial) hl

/-! ### Whole runs -/

section Runs

variable (name : String) (fanout : Fanout) (moves : List (Moment × Move Duty)) (site : Site)

/-- A run of the application, from a site where nothing has been counted. -/
def Duty.run : Crew Site (Except Fault Unit) :=
  Crew.run (Duty.task name fanout) moves ⟨{ site with tally := .empty }, []⟩

/-- The same run with its book. -/
def Duty.bookedRun : Crew Ledger (Except Fault Unit) :=
  Crew.run (Duty.booked name fanout) moves ⟨⟨{ site with tally := .empty }, []⟩, []⟩

/-- The book of a run. -/
def Duty.book : List Entry := (Duty.bookedRun name fanout moves site).state.notes

theorem Duty.bookedRun_site :
    (Duty.bookedRun name fanout moves site).state.state = (Duty.run name fanout moves site).state :=
  (Crew.Follows.run (Duty.booked_follows name fanout) moves ⟨rfl, .nil⟩).state

theorem Duty.bookedRun_right : (Duty.bookedRun name fanout moves site).state.Right name := by
  have hstart : Crew.Keeps (Ledger.Right name)
      (⟨⟨{ site with tally := .empty }, []⟩, []⟩ : Crew Ledger (Except Fault Unit)) := by
    refine ⟨⟨Tally.Counts.empty, rfl, ?_, ?_⟩, ?_⟩
    · intro r hr
      cases hr
    · intro entry hentry
      cases hentry
    · intro rest hrest
      cases hrest
  exact (hstart.run (fun duty m l hl => duty.booked_meets name fanout hl) moves).1

end Runs

end ValidatorAlarm
