import ValidatorAlarm.Closing
import ValidatorAlarm.Proofs.Delivery.Company
import ValidatorAlarm.Proofs.Monitor.Parts
import ValidatorAlarm.Proofs.Poller.Making
import ValidatorAlarm.Proofs.Timeline.Cycles

/-!
# Orderly shutdown

A shutdown has three parts, one after the other: the end is announced, with all retries; then five
seconds pass; then everything is closed at once.  Meanwhile the loops go on.  The main result,
`orderly_shutdown`, says what each part does, and what it means to a loop: up to the moment of closing
it begins its cycles when they are due, and after that moment it begins none.

What a loop begins and ends is read off a journal that it keeps (`Agenda.notesAt`), which nobody
notices (`Agenda.journal_perform`).
-/
namespace ValidatorAlarm

/-! ### Closing everything -/

namespace Closer

/-- The signal that the closer cancels. -/
def signal? : Closer → Option Token
  | .poller token => some token
  | _ => none

def notesItsCall : Closer → Bool
  | .scripted _ => true
  | _ => false

/-- What is noted when closers are called at the given time, each once and in their order. -/
def calls (time first : Nat) (closers : List Closer) : List (Nat × Event) :=
  ((closers.zipIdx first).filter (·.1.notesItsCall)).map fun call => (time, .closed call.2)

/-- **Every closer is called once, in order and at one moment**, whatever its result is. -/
theorem closeAllFrom_eq (first : Nat) (closers : List Closer) (a : Agenda Site) :
    closeAllFrom first closers a = { a with
      cancelled := (closers.filterMap signal?).reverse ++ a.cancelled
      state := { a.state with
        history := (calls a.now first closers).reverse ++ a.state.history } } := by
  induction closers generalizing first a with
  | nil => rfl
  | cons closer rest ih =>
    rw [closeAllFrom, ih]
    cases closer with
    | poller token => simp [close, Agenda.cancel, signal?, calls, notesItsCall]
    | nothing => simp [close, List.filterMap_cons, signal?, calls, notesItsCall]
    | scripted result =>
      simp [close, Site.note, Agenda.moment, List.filterMap_cons, signal?, calls, notesItsCall]

theorem mem_signals {closers : List Closer} {token : Token} (h : .poller token ∈ closers) :
    token ∈ closers.filterMap signal? :=
  List.mem_filterMap.mpr ⟨.poller token, h, rfl⟩

end Closer

/-! ### The loops meanwhile -/

/-- A loop that will go on as it is meant to: its signal is not cancelled, and will not be by any
plan, the loop rests for some time after each cycle, and it is not late for the next one. -/
structure Loop.InService {σ : Type} (l : Loop σ) (a : Agenda σ) : Prop where
  uncancelled : a.moment.cancelled l.token = false
  unplanned : ∀ e ∈ a.planned, e.2 ≠ l.token
  rests : ∀ succeeded, 0 < l.rest succeeded
  inTime : ∀ due, l.due? a.now = some due → a.now ≤ due

/-- A poller that has just been started is in service. -/
theorem Poller.loop_inService {σ : Type} {token : Token} {name : Option String}
    {work : Token → Task σ (Except Fault Unit)} {interval : Duration}
    {errorInterval : Option Duration} {p : Poller σ}
    (hp : Poller.make token name (some work) (some interval) errorInterval = .ok p)
    {a : Agenda σ} (huncancelled : a.moment.cancelled p.token = false)
    (hunplanned : ∀ e ∈ a.planned, e.2 ≠ p.token) : p.loop.InService a := by
  obtain ⟨-, -, hrests⟩ := Poller.make_spec hp
  refine ⟨huncancelled, hunplanned, hrests, ?_⟩
  intro due hdue
  exact Nat.le_of_eq (Option.some.inj hdue)

theorem Loop.stepDue_begun {σ : Type} (m : Moment) (ls : List (Loop σ)) (s : σ) :
    ∀ l ∈ (stepDue m ls s).2.1 ++ (stepDue m ls s).2.2, l.stage ≠ .ready := by
  induction ls generalizing s with
  | nil =>
    intro l hl
    cases hl
  | cons first ls ih =>
    rw [stepDue]
    split
    · intro l hl
      rcases List.mem_append.mp hl with hidle | hran
      · exact ih _ l (List.mem_append_left _ hidle)
      · rcases List.mem_cons.mp hran with rfl | hran
        · exact (first.step_kept m s).2.2
        · exact ih _ l (List.mem_append_right _ hran)
    · rename_i hidle
      intro l hl
      rcases List.mem_cons.mp hl with rfl | hl
      · intro hready
        apply hidle
        rw [isDue, hready]
      · exact ih s l hl

namespace Agenda

variable {σ : Type}

/-- As soon as time passes, every loop has begun its first cycle. -/
theorem passUntil_begun (limit : Nat) (token : Option Token) (a : Agenda σ) :
    ∀ l ∈ (a.passUntil limit token).1.loops, l.stage ≠ .ready := by
  have hsettle (a : Agenda σ) : ∀ l ∈ a.settle.loops, l.stage ≠ .ready :=
    Loop.stepDue_begun a.cancelDue.moment a.cancelDue.loops a.cancelDue.state
  fun_induction Agenda.passUntil limit token a with
  | case1 a settled hcut => exact hsettle a
  | case2 a settled hcut hnext => exact hsettle a
  | case3 a settled hcut next hnext hlater ih => exact ih
  | case4 a settled hcut next hnext hlater => exact hsettle a

theorem sleep_begun {ms : Nat} (hms : ms ≠ 0) (a : Agenda σ) :
    ∀ l ∈ (a.perform (Task.sleep ms)).1.loops, l.stage ≠ .ready := by
  rw [Task.sleep, perform_wait, if_neg (by simp), if_neg hms]
  exact passUntil_begun _ none a

end Agenda

/-! ### Taking leave -/

theorem gracePeriod_wait : min gracePeriod.milliseconds longestWait = 5000 := by decide

def Reporter.endMessage (name : String) : Message :=
  { Message.blank .warning name with shortIdentityKey := "Application closing" }

/-- How the end was announced between two points, with these deeds: not at all, or by a single message
in a complete call of the fanout, whatever came of it. -/
def Reporter.EndAnnounced (reporter : Reporter) (a told : Agenda Site) (ds : List Deed) : Prop :=
  match reporter with
  | .off => told = a ∧ ds = []
  | .on name fanout => ∃ s result,
    fanout.Protocol [Reporter.endMessage name] s a.now told.now ds result

theorem Reporter.announceEnd_does (reporter : Reporter) (a : Agenda Site) :
    ∃ told ds, Agenda.Does reporter.announceEnd a ds told () ∧ reporter.EndAnnounced a told ds := by
  cases reporter with
  | off => exact ⟨a, [], Agenda.Does.done () a, rfl, rfl⟩
  | on name fanout =>
    obtain ⟨s, ds, told, result, hnotify, hprotocol⟩ :=
      fanout.notify_does (Reporter.endMessage name) [] a
    exact ⟨told, ds, hnotify.bind_done fun _ => (), s, result, hprotocol⟩

theorem takeLeave_keeps (reporter : Reporter) : (takeLeave reporter).Keeps Frame.delivery := by
  refine Task.Keeps.bind ?_ fun _ => Task.Keeps.sleep _
  cases reporter with
  | off => trivial
  | on name fanout => exact Task.Keeps.bind (fanout.notify_keeps _) fun _ => trivial

/-! ### The shutdown -/

/-- **An orderly shutdown.**  The end is announced, by a complete call of the fanout if there is a
reporter at all; then five seconds pass, in which the shutdown does nothing; then every closer is
called once, in order and at that moment, whatever came of the call and of the closers before.  A loop
in service finds its signal not cancelled up to that moment, begins a cycle whenever one is due, and
is not overdue for another by then.  A loop whose closer was called has begun a first cycle by then,
and never begins another, whatever is done later. -/
theorem orderly_shutdown (reporter : Reporter) (closers : List Closer) (a : Agenda Site) :
    let closed := shutdown reporter closers a
    ∃ (told left : Agenda Site) (ds : List Deed),
      Agenda.Does reporter.announceEnd a ds told () ∧
      reporter.EndAnnounced a told ds ∧
      Agenda.Does (Task.sleep gracePeriod.milliseconds) told [] left () ∧
      left.now = told.now + 5000 ∧
      closed = { left with
        cancelled := (closers.filterMap Closer.signal?).reverse ++ left.cancelled
        state := { left.state with
          history := (Closer.calls left.now 0 closers).reverse ++ left.state.history } } ∧
      (∀ place l, a.loops[place]? = some l → l.InService a →
        left.moment.cancelled l.token = false ∧
          ∃ next, Loop.OnTime l.rest (l.due? a.now) (a.notesAt place (takeLeave reporter)) next ∧
            ∀ due, next = some due → left.now ≤ due) ∧
      ∀ place l, closed.loops[place]? = some l → .poller l.token ∈ closers →
        l.stage ≠ .ready ∧ ∀ {α : Type} (later : Work α) (time : Nat) (cancelled : Bool),
          .begun time cancelled ∉ closed.notesAt place later := by
  intro closed
  obtain ⟨told, ds, hannounce, htold⟩ := reporter.announceEnd_does a
  obtain ⟨left, hsleep, hnow⟩ := Agenda.Does.sleep gracePeriod.milliseconds told
  rw [gracePeriod_wait] at hnow
  have hleave : a.perform (takeLeave reporter) = (left, some ()) :=
    (hannounce.bind (k := fun _ => Task.sleep gracePeriod.milliseconds) hsleep).perform
  have hclosed : closed = Closer.closeAllFrom 0 closers left := by
    change Closer.closeAll closers (a.perform (takeLeave reporter)).1 = _
    rw [hleave]
    rfl
  rw [Closer.closeAllFrom_eq] at hclosed
  refine ⟨told, left, ds, hannounce, htold, hsleep, hnow, hclosed, ?_, ?_⟩
  · intro place l hl hservice
    have hontime := Agenda.notesAt_onTime hl hservice.uncancelled hservice.unplanned hservice.rests
      hservice.inTime (takeLeave_keeps reporter)
    rwa [hleave] at hontime
  · intro place l hl hcloser
    have hbegun : l.stage ≠ .ready := by
      rw [hclosed] at hl
      have hsome : gracePeriod.milliseconds ≠ 0 := by decide
      have hall := Agenda.sleep_begun hsome told
      rw [hsleep.perform] at hall
      exact hall l (List.mem_of_getElem? hl)
    have hcancelled : closed.moment.cancelled l.token = true := by
      rw [hclosed]
      have hsignal := List.mem_append_left left.cancelled
        (List.mem_reverse.mpr (Closer.mem_signals hcloser))
      simpa [Agenda.moment] using hsignal
    refine ⟨hbegun, fun later time cancelled hnew => hbegun ?_⟩
    exact (Agenda.notesAt_of_cancelled hl hcancelled later hnew).2

/-- With a poller that begins a cycle every two seconds, and a second closer, which fails. -/
theorem orderly_shutdown_while_polling :
    let work (_ : Token) : Work (Except Fault Unit) := .done (.ok ())
    let poller : Poller Site := ⟨"a", ⟨.ofSeconds 2, .ofSeconds 2⟩, work, 0, true⟩
    let a := (Agenda.start Site.initial).addLoop poller.loop
    let closed := shutdown .off [.poller 0, .scripted (.error .cancelled)] a
    poller.loop.InService a ∧
      ∃ left : Agenda Site, left.now = 5000 ∧ left.moment.cancelled 0 = false ∧
        (∃ next, Loop.OnTime poller.loop.rest (some 0) (a.notesAt 0 (takeLeave .off)) next ∧
          ∀ due, next = some due → 5000 ≤ due) ∧
        closed.moment.cancelled 0 = true ∧
        closed.state.history = (5000, .closed 1) :: left.state.history := by
  intro work poller a closed
  have hmade : Poller.make 0 (some "a") (some work) (some (.ofSeconds 2)) none =
      .ok { poller with started := false } := by rfl
  have hservice : poller.loop.InService a :=
    Poller.loop_inService (p := { poller with started := false }) hmade rfl nofun
  obtain ⟨_, left, _, -, ⟨rfl, -⟩, -, hnow, hclosed, hloops, -⟩ :=
    orderly_shutdown .off [.poller 0, .scripted (.error .cancelled)] a
  obtain ⟨hopen, hontime⟩ := hloops 0 poller.loop rfl hservice
  have hfive : left.now = 5000 := hnow
  rw [hfive] at hontime
  refine ⟨hservice, left, hfive, hopen, hontime, ?_, ?_⟩
  · rw [show closed = _ from hclosed]
    rfl
  · rw [show closed = _ from hclosed, ← hfive]
    rfl

end ValidatorAlarm
