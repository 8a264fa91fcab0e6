import Mathlib.Algebra.GroupWithZero.Nat
import Mathlib.Order.Monotone.Basic
import ValidatorAlarm.Proofs.Poller.LifeCycle

/-!
# The schedule of a poller

If nobody closes a poller, its cycles follow a schedule that can be written down before the run: the
first one begins when the loop is started, and each other one when the one before it has ended and the
loop has rested.  Every single wait, of a cycle or of the loop, takes 30 years at most.

At any time the cycles on record are those of the schedule whose times have come.  The induction is on
the record: all its cycles but the last have ended at their times (`Orderly`), and what the loop saw when
it last looked says how far the last one is.
-/
namespace ValidatorAlarm

/-! ### The schedule -/

/-- No cycle to come waits for its cancellation. -/
def Script.EndsAlone (script : Script ScriptedCycle) : Prop :=
  ∀ n, (script.answer (script.used + n)).untilCancelled = false

namespace Rhythm

/-- The milliseconds that a cycle takes, by its number. -/
def lasts (script : Script ScriptedCycle) (n : Nat) : Nat :=
  min (script.answer (script.used + n)).latency longestWait

/-- The milliseconds that the loop rests after a cycle. -/
def pauses (r : Rhythm) (script : Script ScriptedCycle) (n : Nat) : Nat :=
  min (r.rest (!(script.answer (script.used + n)).fails)) longestWait

/-- The time at which a cycle begins, if the loop is started at the time `start`. -/
def begins (r : Rhythm) (script : Script ScriptedCycle) (start : Nat) : Nat → Nat
  | 0 => start
  | n + 1 => r.begins script start n + lasts script n + r.pauses script n

/-- The time at which a cycle ends. -/
def ends (r : Rhythm) (script : Script ScriptedCycle) (start n : Nat) : Nat :=
  r.begins script start n + lasts script n

/-- A cycle as it stands at the time `now`. -/
def spanAt (r : Rhythm) (script : Script ScriptedCycle) (start now n : Nat) : Span where
  cycle := script.answer (script.used + n)
  begun := r.begins script start n
  cancelled := false
  ended := if r.ends script start n ≤ now then some (r.ends script start n) else none

/-- The site has the first `count` cycles on record, as they stand now, and these are the ones whose
times have come. -/
structure OnSchedule (r : Rhythm) (before : Site) (start count : Nat) (a : Agenda Site) : Prop where
  due : ∀ n, n < count ↔ r.begins before.cycles start n ≤ a.now
  script : a.state.cycles = ⟨before.cycles.answer, before.cycles.used + count⟩
  history : a.state.history =
    ((List.range count).reverse.map (r.spanAt before.cycles start a.now)).flatMap Span.events ++
      before.history

theorem begins_strictMono {r : Rhythm} (hrest : ∀ succeeded, 0 < r.rest succeeded)
    (script : Script ScriptedCycle) (start : Nat) : StrictMono (r.begins script start) := by
  refine strictMono_nat_of_lt_succ fun n => ?_
  have hpos := Span.longestWait_pos
  have hpause := hrest (!(script.answer (script.used + n)).fails)
  simp only [begins, pauses]
  omega

/-- At any time there is one number of cycles whose times have come. -/
theorem OnSchedule.unique {r : Rhythm} {before : Site} {start count count' : Nat} {a a' : Agenda Site}
    (h : r.OnSchedule before start count a) (h' : r.OnSchedule before start count' a')
    (hnow : a.now = a'.now) : a.state.history = a'.state.history := by
  have hcount : count = count' := by
    have hlt : ∀ n, n < count ↔ n < count' := fun n => by rw [h.due, h'.due, hnow]
    have hle := (hlt count).not
    have hge := (hlt count').not
    omega
  rw [h.history, h'.history, hcount, hnow]

end Rhythm

/-! ### The record against the schedule -/

section Record

variable {r : Rhythm} {script : Script ScriptedCycle} {start now : Nat} {spans earlier : List Span}
  {s : Span}

/-- A cycle that follows the script takes its time and lets the loop rest. -/
theorem Span.due_eq {n : Nat} (hcycle : s.cycle = script.answer (script.used + n))
    (hbegun : s.begun = r.begins script start n) : s.due = r.ends script start n := by
  rw [Span.due, hcycle, hbegun]
  rfl

theorem Orderly.ends_alone (hends : script.EndsAlone) (h : Orderly r script (s :: earlier)) :
    s.cycle.untilCancelled = false := by
  rw [h.1]
  exact hends earlier.length

/-- What follows a cycle that began on schedule is on schedule as well. -/
theorem Orderly.next_begins (hends : script.EndsAlone) (h : Orderly r script (s :: earlier))
    (hbegun : s.begun = r.begins script start earlier.length) :
    s.due + min (r.rest s.succeeded) longestWait = r.begins script start (earlier.length + 1) := by
  have hsucceeded : s.succeeded = !(script.answer (script.used + earlier.length)).fails := by
    rw [Span.succeeded, h.ends_alone hends, h.1]
    rfl
  rw [Span.due_eq h.1 hbegun, hsucceeded]
  rfl

theorem Orderly.begun_eq (hends : script.EndsAlone) (h : Orderly r script (s :: earlier))
    (hfirst : ∀ first ∈ (s :: earlier).getLast?, first.begun = start) :
    s.begun = r.begins script start earlier.length := by
  induction earlier generalizing s with
  | nil => exact hfirst s rfl
  | cons previous earlier ih =>
    obtain ⟨-, -, hprevious, hearlier⟩ := h
    obtain ⟨time, hended, hbegun⟩ := hprevious previous rfl
    rw [hbegun, hearlier.2.1.timed (hearlier.ends_alone hends) time hended]
    exact hearlier.next_begins hends (ih hearlier hfirst)

/-- The cycle is seen as it stands at the time `now`. -/
structure Span.SeenAt (s : Span) (now : Nat) : Prop where
  begun : s.begun ≤ now
  running : s.ended = none → now < s.due
  past : ∀ time, s.ended = some time → time ≤ now

theorem Span.eq_spanAt {n : Nat} (halone : s.cycle.untilCancelled = false) (hproper : s.Proper)
    (hseen : s.SeenAt now) (hcancelled : s.cancelled = false)
    (hcycle : s.cycle = script.answer (script.used + n)) (hbegun : s.begun = r.begins script start n) :
    s = r.spanAt script start now n := by
  have hdue := Span.due_eq hcycle hbegun
  have hended : s.ended =
      if r.ends script start n ≤ now then some (r.ends script start n) else none := by
    rw [← hdue]
    cases h : s.ended with
    | none => rw [if_neg (Nat.not_le_of_lt (hseen.running h))]
    | some time =>
      have htime := hproper.timed halone time h
      rw [if_pos (htime ▸ hseen.past time h), htime]
  obtain ⟨cycle, begun, cancelled, ended⟩ := s
  simp only at hcycle hbegun hcancelled hended
  rw [hcycle, hbegun, hcancelled, hended]
  rfl

/-- **An orderly record is the schedule**, as far as it goes. -/
theorem Orderly.eq_spanAt (hends : script.EndsAlone) (h : Orderly r script spans)
    (hfirst : ∀ first ∈ spans.getLast?, first.begun = start)
    (huncancelled : ∀ s ∈ spans, s.cancelled = false) (hseen : ∀ s ∈ spans.head?, s.SeenAt now) :
    spans = (List.range spans.length).reverse.map (r.spanAt script start now) := by
  induction spans with
  | nil => rfl
  | cons s earlier ih =>
    have hbegun := h.begun_eq hends hfirst
    have halone := h.ends_alone hends
    obtain ⟨hcycle, hproper, hprevious, hearlier⟩ := h
    have hlast := Span.eq_spanAt halone hproper (hseen s rfl)
      (huncancelled s List.mem_cons_self) hcycle hbegun
    have hrest : earlier = (List.range earlier.length).reverse.map (r.spanAt script start now) := by
      refine ih hearlier ?_ (fun s hs => huncancelled s (List.mem_cons_of_mem _ hs)) ?_
      · intro first hmem
        cases earlier with
        | nil => cases hmem
        | cons previous earlier => exact hfirst first hmem
      · -- the cycle before has ended by the time at which this one began
        intro previous hmem
        obtain ⟨time, hended, hlater⟩ := hprevious previous hmem
        have hs := (hseen s rfl).begun
        have htime : previous.begun ≤ time := by
          cases earlier with
          | nil => cases hmem
          | cons first earlier =>
            cases hmem
            rw [hearlier.2.1.timed (hearlier.ends_alone hends) time hended, Span.due]
            exact Nat.le_add_right _ _
        refine ⟨by omega, ?_, ?_⟩
        · intro hrunning
          rw [hended] at hrunning
          cases hrunning
        · intro time' hended'
          rw [hended] at hended'
          cases hended'
          omega
    rw [List.length_cons, List.range_succ, List.reverse_append, List.map_append, ← hrest]
    exact congrArg (· :: earlier) hlast

end Record

/-! ### From the start on -/

/-- The record since the loop was started: the first cycle begins at once, and no end lies ahead. -/
structure Since (start : Nat) (spans : List Span) (now : Nat) : Prop where
  waiting : spans = [] → now = start
  first : ∀ s ∈ spans.getLast?, s.begun = start
  past : ∀ s ∈ spans.head?, ∀ time, s.ended = some time → time ≤ now

section Since

variable {start now : Nat} {spans spans' : List Span}

theorem Since.begin (start : Nat) : Since start [] start := by
  refine ⟨fun _ => rfl, ?_, ?_⟩
  · intro s hs
    cases hs
  · intro s hs
    cases hs

theorem Since.later {now' : Nat} (h : Since start spans now) (hsome : spans ≠ []) (hnow : now ≤ now') :
    Since start spans now' :=
  ⟨fun hnone => absurd hnone hsome, h.first,
    fun s hs time hended => Nat.le_trans (h.past s hs time hended) hnow⟩

theorem Next.since {m : Moment} {token : Token} {cycle : ScriptedCycle}
    (h : Next m token cycle spans spans') (hsince : Since start spans m.now) :
    Since start spans' m.now := by
  cases h with
  | idle => exact hsince
  | ends hrunning hover =>
    rename_i s earlier
    refine ⟨fun hnone => absurd hnone (List.cons_ne_nil _ _), ?_, ?_⟩
    · intro first hfirst
      cases earlier with
      | nil =>
        cases hfirst
        exact hsince.first s rfl
      | cons previous earlier => exact hsince.first first hfirst
    · intro last hlast time hended
      cases hlast
      cases hended
      exact Nat.le_refl m.now
  | begins _ =>
    refine ⟨fun hnone => absurd hnone (List.cons_ne_nil _ _), ?_, ?_⟩
    · intro first hfirst
      cases spans with
      | nil =>
        cases hfirst
        exact hsince.waiting rfl
      | cons last earlier => exact hsince.first first hfirst
    · intro last hlast time hended
      cases hlast
      exact Nat.le_of_eq (Span.start_ended hended)

variable {p : Poller Site} {before : Site} {started : Bool} {closing : Option (Nat × List Span)}
  {a : Agenda Site}

/-- Time that passes keeps the invariant together with what is known since the start. -/
theorem Life.advance_since (hrest : ∀ succeeded, 0 < p.rhythm.rest succeeded)
    (h : Life p.rhythm p.token before started closing spans a)
    (hsince : started = true → Since start spans a.now) (ms : Nat) :
    ∃ spans', Life.Settled p.rhythm p.token before started closing spans' (a.advance ms) ∧
      (started = true → Since start spans' (a.advance ms).now) := by
  refine Agenda.advance_keeps
    (I := fun a => ∃ spans, Life p.rhythm p.token before started closing spans a ∧
      (started = true → Since start spans a.now))
    (S := fun a => ∃ spans, Life.Settled p.rhythm p.token before started closing spans a ∧
      (started = true → Since start spans a.now)) ?_ ?_ ms ⟨spans, h, hsince⟩
  · rintro a ⟨spans, h, hsince⟩
    obtain ⟨spans', hsettled, hnext⟩ := h.settle_next hrest
    refine ⟨spans', hsettled, fun hstarted => ?_⟩
    obtain ⟨cycle, hnext⟩ := hnext hstarted
    exact hnext.since (hsince hstarted)
  · rintro a time ⟨spans, h, hsince⟩ hnow htime
    refine ⟨spans, h.jump hnow htime, fun hstarted => ?_⟩
    exact (hsince hstarted).later (h.nonempty hstarted) hnow

/-- What the loop saw when it last looked. -/
theorem Life.Settled.seen (h : Life.Settled p.rhythm p.token before started closing spans a)
    (hsince : Since start spans a.now) {s : Span} (hs : s ∈ spans.head?)
    (halone : s.cycle.untilCancelled = false) : s.SeenAt a.now := by
  refine ⟨h.life.begun s hs, ?_, hsince.past s hs⟩
  intro hrunning
  have hahead := h.running hs hrunning
  rwa [halone] at hahead

/-- The cycle after the last one that has begun lies ahead. -/
theorem Life.Settled.next_ahead (hends : before.cycles.EndsAlone) {s : Span} {earlier : List Span}
    (h : Life.Settled p.rhythm p.token before true none (s :: earlier) a)
    (hsince : Since start (s :: earlier) a.now) :
    a.now < p.rhythm.begins before.cycles start (earlier.length + 1) := by
  have horderly := h.life.recorded.orderly
  have halone := horderly.ends_alone hends
  rw [← horderly.next_begins hends (horderly.begun_eq hends hsince.first)]
  cases hended : s.ended with
  | none =>
    have hrunning := (h.seen hsince rfl halone).running hended
    exact Nat.lt_of_lt_of_le hrunning (Nat.le_add_right _ _)
  | some time =>
    obtain ⟨l, hloops, -⟩ := h.life.loop rfl
    have hl : l ∈ a.loops := by
      rw [hloops]
      exact List.mem_singleton_self l
    have hresting := h.ended rfl hended hl
    rw [h.life.cancelled, horderly.2.1.timed halone time hended] at hresting
    exact hresting.2

/-- The record of a loop that has just looked is the schedule. -/
theorem Life.Settled.onSchedule (hrest : ∀ succeeded, 0 < p.rhythm.rest succeeded)
    (hends : before.cycles.EndsAlone)
    (h : Life.Settled p.rhythm p.token before true none spans a) (hsince : Since start spans a.now) :
    p.rhythm.OnSchedule before start spans.length a := by
  have hrecorded := h.life.recorded
  have horderly := hrecorded.orderly
  cases spans with
  | nil => exact absurd rfl (h.nonempty rfl)
  | cons s earlier =>
    have hseen := h.seen hsince rfl (horderly.ends_alone hends)
    have hbegun := horderly.begun_eq hends hsince.first
    have hnext := h.next_ahead hends hsince
    refine ⟨?_, hrecorded.script, ?_⟩
    · have hmono := Rhythm.begins_strictMono hrest before.cycles start
      intro n
      rw [List.length_cons]
      constructor
      · intro hn
        have hle : p.rhythm.begins before.cycles start n ≤ s.begun := by
          rw [hbegun]
          exact hmono.monotone (Nat.le_of_lt_succ hn)
        exact Nat.le_trans hle hseen.begun
      · intro hn
        exact hmono.lt_iff_lt.mp (Nat.lt_of_le_of_lt hn hnext)
    · have hspans : s :: earlier = (List.range (s :: earlier).length).reverse.map
          (p.rhythm.spanAt before.cycles start a.now) := by
        refine horderly.eq_spanAt hends hsince.first (h.life.uncancelled rfl) ?_
        intro last hlast
        cases hlast
        exact hseen
      rw [hrecorded.history, ← hspans]

end Since

/-! ### Orders -/

theorem Agenda.advance_now {σ : Type} (ms : Nat) (a : Agenda σ) :
    (a.advance ms).now = a.now + min ms longestWait :=
  (Agenda.passUntil_none (a.moment.after ms) a).1

namespace Poller

/-- The milliseconds that pass while an order is carried out. -/
def Order.takes : Order → Nat
  | .advance ms => min ms longestWait
  | _ => 0

def Order.elapsed (orders : List Order) : Nat := (orders.map Order.takes).sum

theorem carryOut_now {σ : Type} (order : Order) (op : Option (Poller σ)) (a : Agenda σ) :
    (carryOut order op a).2.1.now = a.now + order.takes := by
  cases order with
  | advance ms => exact Agenda.advance_now ms a
  | start =>
    cases op with
    | none => rfl
    | some p => cases hstarted : p.started <;> simp [carryOut, Poller.start, hstarted, Agenda.addLoop, Order.takes]
  | close | drop => cases op <;> rfl

theorem carryOutAll_now {σ : Type} (orders : List Order) (op : Option (Poller σ)) (a : Agenda σ) :
    (carryOutAll orders op a).2.now = a.now + Order.elapsed orders := by
  induction orders generalizing op a with
  | nil => rfl
  | cons order orders ih =>
    rw [carryOutAll, ih, carryOut_now, Order.elapsed, Order.elapsed, List.map_cons, List.sum_cons]
    omega

end Poller

theorem Life.carryOutAll_since {p : Poller Site} {before : Site} {start : Nat} {spans : List Span}
    {a : Agenda Site} (hrest : ∀ succeeded, 0 < p.rhythm.rest succeeded) {orders : List Poller.Order}
    (hopen : ∀ order ∈ orders, order.closes = false) {ms : Nat}
    (hlast : orders.getLast? = some (.advance ms))
    (h : Life p.rhythm p.token before true none spans a) (hsince : Since start spans a.now) :
    ∃ spans',
      Life.Settled p.rhythm p.token before true none spans'
        (Poller.carryOutAll orders (some { p with started := true }) a).2 ∧
      Since start spans' (Poller.carryOutAll orders (some { p with started := true }) a).2.now := by
  induction orders generalizing spans a with
  | nil => cases hlast
  | cons order orders ih =>
    have hrestopen := fun o ho => hopen o (List.mem_cons_of_mem _ ho)
    cases order with
    | close => cases hopen .close List.mem_cons_self
    | drop => cases hopen .drop List.mem_cons_self
    | start =>
      -- the loop has been started before, so nothing happens
      cases orders with
      | nil => cases hlast
      | cons next orders => exact ih hrestopen hlast h hsince
    | advance ms' =>
      obtain ⟨spans', hsettled, hsince'⟩ := h.advance_since hrest (fun _ => hsince) ms'
      cases orders with
      | nil => exact ⟨spans', hsettled, hsince' rfl⟩
      | cons next orders => exact ih hrestopen hlast hsettled.life (hsince' rfl)

namespace Poller

/-- A run of orders without any closing, divided at the first start. -/
structure Course (opening later : List Order) : Prop where
  waiting : ∀ order ∈ opening, order.closes = false ∧ order ≠ .start
  running : ∀ order ∈ later, order.closes = false
  looked : ∃ ms, later.getLast? = some (.advance ms)

theorem run_onSchedule {p : Poller Site} {before : Site} (hwork : p.work = ScriptedWork.work)
    (hfresh : p.started = false) (hrest : ∀ succeeded, 0 < p.rhythm.rest succeeded)
    (hends : before.cycles.EndsAlone) {opening later : List Order} (h : Course opening later) :
    ∃ count, p.rhythm.OnSchedule before (Order.elapsed opening) count
      (p.run before (opening ++ .start :: later)).2 := by
  have hopen := fun order horder => (h.waiting order horder).1
  have hstart : .start ∉ opening := fun horder => (h.waiting .start horder).2 rfl
  have hdrop : .drop ∉ opening := by
    intro horder
    cases hopen .drop horder
  have howner : (p.run before opening).1 = some p := by
    rw [run, carryOutAll_owner, if_neg hdrop, hfresh, decide_eq_false hstart, Bool.or_self, ← hfresh]
  have hnow : (p.run before opening).2.now = Order.elapsed opening := by
    rw [run, carryOutAll_now]
    exact Nat.zero_add _
  obtain ⟨spans, hlife, -⟩ := (Life.fresh p.rhythm p.token before).carryOutAll hwork hrest opening
    (fun order horder hcloses => by rw [hopen order horder] at hcloses; cases hcloses)
    (Or.inr (by rw [← hfresh]))
  have hidle : (false || ((some p).isSome && Order.starts opening)) = false := by
    rw [Order.starts_opening hopen, decide_eq_false hstart]
    rfl
  rw [hidle] at hlife
  obtain ⟨-, rfl, -⟩ := hlife.idle rfl
  have hloop : p.loop = scriptedLoop p.rhythm p.token .ready := by
    simp only [Poller.loop, scriptedLoop, hwork]
  have hstarted := hlife.start
  rw [← hloop] at hstarted
  obtain ⟨ms, hlast⟩ := h.looked
  have hsince : Since (Order.elapsed opening) [] ((p.run before opening).2.addLoop p.loop).now := by
    have hsame : ((p.run before opening).2.addLoop p.loop).now = (p.run before opening).2.now := rfl
    rw [hsame, hnow]
    exact .begin _
  obtain ⟨spans', hsettled, hsince'⟩ := hstarted.carryOutAll_since hrest h.running hlast hsince
  have hrun : (p.run before (opening ++ .start :: later)).2 =
      (carryOutAll later (some { p with started := true })
        ((p.run before opening).2.addLoop p.loop)).2 := by
    rw [run_append, howner, carryOutAll]
    simp only [carryOut, Poller.start, hfresh]
    rfl
  rw [hrun]
  exact ⟨spans'.length, hsettled.onSchedule hrest hends hsince'⟩

/-- **The schedule of a poller.**  With intervals of at least a millisecond a poller is made.  If its loop
is started at some time and nobody closes it, the cycles on record at any later time are those whose
beginnings, computed from the script and the intervals, are not later than this time, each as it stands
then.  It makes no difference in which portions the time passed. -/
theorem cycles_on_schedule {interval : Duration} {errorInterval : Option Duration}
    (hinterval : Rhythm.leastInterval ≤ interval)
    (herror : ∀ d ∈ errorInterval, Rhythm.leastInterval ≤ d) (token : Token) (name : Option String)
    {before : Site} (hends : before.cycles.EndsAlone) :
    ∃ p, Poller.make token name (some ScriptedWork.work) (some interval) errorInterval = .ok p ∧
      p.rhythm = ⟨interval, errorInterval.getD interval⟩ ∧
      (∀ opening later, Course opening later →
        (p.run before (opening ++ .start :: later)).2.now = Order.elapsed (opening ++ later) ∧
        ∃ count, p.rhythm.OnSchedule before (Order.elapsed opening) count
          (p.run before (opening ++ .start :: later)).2) ∧
      ∀ opening later opening' later', Course opening later → Course opening' later' →
        Order.elapsed opening = Order.elapsed opening' → Order.elapsed later = Order.elapsed later' →
        (p.run before (opening ++ .start :: later)).2.state.history =
          (p.run before (opening' ++ .start :: later')).2.state.history := by
  have hmake : Poller.make token name (some ScriptedWork.work) (some interval) errorInterval =
      .ok ⟨name.getD "", ⟨interval, errorInterval.getD interval⟩, ScriptedWork.work, token, false⟩ := by
    rw [Poller.make, Rhythm.make_ok hinterval herror]
    rfl
  obtain ⟨hwork, hfresh, hrest⟩ := make_spec hmake
  have hnow : ∀ (p : Poller Site) opening later,
      (p.run before (opening ++ .start :: later)).2.now = Order.elapsed (opening ++ later) := by
    intro p opening later
    rw [run, carryOutAll_now]
    simp [Order.elapsed, Order.takes, Agenda.start]
  refine ⟨_, hmake, rfl, ?_, ?_⟩
  · intro opening later h
    exact ⟨hnow _ opening later, run_onSchedule hwork hfresh hrest hends h⟩
  · intro opening later opening' later' h h' hopening hlater
    obtain ⟨count, hcount⟩ := run_onSchedule hwork hfresh hrest hends h
    obtain ⟨count', hcount'⟩ := run_onSchedule hwork hfresh hrest hends h'
    rw [← hopening] at hcount'
    refine hcount.unique hcount' ?_
    rw [hnow, hnow, Order.elapsed, Order.elapsed, List.map_append, List.map_append, List.sum_append,
      List.sum_append]
    exact congrArg₂ (· + ·) hopening hlater

theorem cycles_on_schedule_each_second :
    Rhythm.leastInterval ≤ .ofSeconds 1 ∧ (∀ d ∈ (none : Option Duration), Rhythm.leastInterval ≤ d) ∧
      Site.initial.cycles.EndsAlone ∧
      ∃ p, Poller.make 0 none (some ScriptedWork.work) (some (.ofSeconds 1)) none = .ok p ∧
        ∃ count, p.rhythm.OnSchedule Site.initial 0 count
          (p.run Site.initial ([] ++ .start :: [.advance 1500])).2 := by
  have hinterval : Rhythm.leastInterval ≤ .ofSeconds 1 := by decide
  have herror : ∀ d ∈ (none : Option Duration), Rhythm.leastInterval ≤ d := by
    intro d hd
    cases hd
  have hends : Site.initial.cycles.EndsAlone := fun n => rfl
  refine ⟨hinterval, herror, hends, ?_⟩
  obtain ⟨p, hmake, -, hcourse, -⟩ := cycles_on_schedule hinterval herror 0 none hends
  have hone : Course [] [.advance 1500] := by
    refine ⟨?_, ?_, 1500, rfl⟩
    · intro order horder
      cases horder
    · intro order horder
      rw [List.mem_singleton.mp horder]
      rfl
  exact ⟨p, hmake, (hcourse [] [.advance 1500] hone).2⟩

/-- A poller with an interval of a millisecond more than 30 years. -/
def slowPoller : Poller Site where
  name := ""
  rhythm := ⟨⟨946080000001000000⟩, ⟨946080000001000000⟩⟩
  work := ScriptedWork.work
  token := 0
  started := false

/-- Of a wait of more than 30 years the last millisecond is left out. -/
theorem second_cycle_after_longest_wait :
    Poller.make 0 none (some ScriptedWork.work) (some ⟨946080000001000000⟩) none = .ok slowPoller ∧
      (∀ succeeded, slowPoller.rhythm.rest succeeded = 946080000001) ∧
      (slowPoller.run Site.initial [.start, .advance 946080000000]).2.state.history =
        [(946080000000, .cycleBegun false), (0, .cycleBegun false)] := by
  have hmake : Poller.make 0 none (some ScriptedWork.work) (some ⟨946080000001000000⟩) none =
      .ok slowPoller := rfl
  obtain ⟨hwork, hfresh, hrest⟩ := make_spec hmake
  have hcourse : Course [] [.advance 946080000000] := by
    refine ⟨?_, ?_, _, rfl⟩
    · intro order horder
      cases horder
    · intro order horder
      rw [List.mem_singleton.mp horder]
      rfl
  have hends : Site.initial.cycles.EndsAlone := fun n => rfl
  obtain ⟨count, hschedule⟩ := run_onSchedule hwork hfresh hrest hends hcourse
  have hnow : (slowPoller.run Site.initial ([] ++ .start :: [.advance 946080000000])).2.now =
      946080000000 := by
    rw [run, carryOutAll_now]
    decide
  have hcount : count = 2 := by
    have hsecond : 1 < count := (hschedule.due 1).mpr (by rw [hnow]; decide)
    have hthird : ¬ 2 < count := by
      rw [hschedule.due 2, hnow]
      decide
    omega
  refine ⟨hmake, fun succeeded => by cases succeeded <;> rfl, ?_⟩
  have hhistory := hschedule.history
  rw [hcount, hnow] at hhistory
  exact hhistory

end Poller

end ValidatorAlarm
