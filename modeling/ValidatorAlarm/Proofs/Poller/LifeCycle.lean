import Mathlib.Data.List.Basic
import Mathlib.Data.List.TakeWhile
import ValidatorAlarm.Proofs.Poller.Invariant
import ValidatorAlarm.Proofs.Poller.Making

/-!
# The life cycle of a poller

The owner of a poller starts it, closes it, gives it away and lets time pass, in any order, and the
cycles go as any script says.  The orders up to the first closing keep the invariant without a
closing, the closing turns it into the one with a closing, and all later orders keep that.
-/
namespace ValidatorAlarm

/-! ### Runs of orders -/

namespace Poller

def Order.closes : Order → Bool
  | .close | .drop => true
  | _ => false

/-- Is the loop started at some time? -/
def Order.starts : List Order → Bool
  | [] => false
  | .start :: _ => true
  | .drop :: _ => false
  | _ :: rest => starts rest

/-- The orders before the first closing. -/
def Order.opening (orders : List Order) : List Order := orders.takeWhile fun order => !order.closes

/-- Carries out all orders: who owns the poller then, and the agenda. -/
def carryOutAll {σ : Type} : List Order → Option (Poller σ) → Agenda σ →
    Option (Poller σ) × Agenda σ
  | [], p, a => (p, a)
  | order :: rest, p, a => carryOutAll rest (carryOut order p a).1 (carryOut order p a).2.1

/-- A run from the time at which the poller was made. -/
def run (p : Poller Site) (before : Site) (orders : List Order) : Option (Poller Site) × Agenda Site :=
  carryOutAll orders (some p) (.start before)

/-- A poller that has been given away, or still has its owner. -/
def Owned {σ : Type} (p : Poller σ) (started : Bool) (op : Option (Poller σ)) : Prop :=
  op = none ∨ op = some { p with started := started }

theorem carryOutAll_append {σ : Type} (orders rest : List Order) (op : Option (Poller σ))
    (a : Agenda σ) :
    carryOutAll (orders ++ rest) op a =
      carryOutAll rest (carryOutAll orders op a).1 (carryOutAll orders op a).2 := by
  induction orders generalizing op a with
  | nil => rfl
  | cons order orders ih => exact ih _ _

theorem carryOutAll_none {σ : Type} (orders : List Order) (a : Agenda σ) :
    (carryOutAll orders none a).1 = none := by
  induction orders generalizing a with
  | nil => rfl
  | cons order orders ih =>
    cases order with
    | _ => exact ih _

/-- Who owns the poller after a run, and whether it counts as started. -/
theorem carryOutAll_owner {σ : Type} (orders : List Order) (p : Poller σ) (a : Agenda σ) :
    (carryOutAll orders (some p) a).1 =
      if .drop ∈ orders then none
      else some { p with started := p.started || decide (.start ∈ orders) } := by
  induction orders generalizing p a with
  | nil => simp [carryOutAll]
  | cons order orders ih =>
    cases order with
    | start =>
      cases hstarted : p.started with
      | true =>
        have hstep : carryOut .start (some p) a = (some p, a, some (.error .alreadyStarted)) := by
          simp [carryOut, Poller.start, hstarted]
        rw [carryOutAll, hstep, ih, hstarted]
        simp
      | false =>
        have hstep : carryOut .start (some p) a =
            (some { p with started := true }, a.addLoop p.loop, some (.ok ())) := by
          simp [carryOut, Poller.start, hstarted]
        rw [carryOutAll, hstep, ih]
        simp
    | close =>
      rw [carryOutAll, carryOut, ih]
      simp
    | drop =>
      rw [carryOutAll, carryOut, carryOutAll_none]
      simp
    | advance ms =>
      rw [carryOutAll, carryOut, ih]
      simp

end Poller

/-! ### The invariant along a run -/

section Runs

variable {p : Poller Site} {before : Site} {started : Bool} {closing : Option (Nat × List Span)}
  {spans : List Span} {a : Agenda Site} {op : Option (Poller Site)}

theorem Life.carryOut (hwork : p.work = ScriptedWork.work)
    (hrest : ∀ succeeded, 0 < p.rhythm.rest succeeded)
    (h : Life p.rhythm p.token before started closing spans a)
    (hop : p.Owned started op) (order : Poller.Order)
    (hclosing : order.closes = true → closing.isSome = true) :
    ∃ started' spans',
      Life p.rhythm p.token before started' closing spans' (Poller.carryOut order op a).2.1 ∧
      p.Owned started' (Poller.carryOut order op a).1 ∧
      (∀ rest, (started' || ((Poller.carryOut order op a).1.isSome && Poller.Order.starts rest)) =
        (started || (op.isSome && Poller.Order.starts (order :: rest)))) ∧
      ∀ ms, order = .advance ms →
        Life.Settled p.rhythm p.token before started' closing spans'
          (Poller.carryOut order op a).2.1 := by
  have hloop : p.loop = scriptedLoop p.rhythm p.token .ready := by
    simp only [Poller.loop, scriptedLoop, hwork]
  cases order with
  | advance ms =>
    obtain ⟨spans', hsettled⟩ := h.advance hrest ms
    exact ⟨started, spans', hsettled.life, hop, fun rest => rfl, fun _ _ => hsettled⟩
  | start =>
    rcases hop with rfl | rfl
    · refine ⟨started, spans, h, Or.inl rfl, fun rest => rfl, ?_⟩
      intro ms hms
      cases hms
    · cases started with
      | true =>
        refine ⟨true, spans, h, Or.inr rfl, fun rest => rfl, ?_⟩
        intro ms hms
        cases hms
      | false =>
        have hlife := h.start
        rw [← hloop] at hlife
        refine ⟨true, spans, hlife, Or.inr rfl, fun rest => rfl, ?_⟩
        intro ms hms
        cases hms
  | close =>
    rcases hop with rfl | rfl
    · refine ⟨started, spans, h, Or.inl rfl, fun rest => rfl, ?_⟩
      intro ms hms
      cases hms
    · refine ⟨started, spans, h.closeAgain (hclosing rfl), Or.inr rfl, fun rest => rfl, ?_⟩
      intro ms hms
      cases hms
  | drop =>
    rcases hop with rfl | rfl
    · refine ⟨started, spans, h, Or.inl rfl, fun rest => rfl, ?_⟩
      intro ms hms
      cases hms
    · refine ⟨started, spans, h.closeAgain (hclosing rfl), Or.inl rfl, fun rest => rfl, ?_⟩
      intro ms hms
      cases hms

/-- All orders, the first closing apart. -/
theorem Life.carryOutAll (hwork : p.work = ScriptedWork.work)
    (hrest : ∀ succeeded, 0 < p.rhythm.rest succeeded) (orders : List Poller.Order)
    (hclosing : ∀ order ∈ orders, order.closes = true → closing.isSome = true)
    (h : Life p.rhythm p.token before started closing spans a)
    (hop : p.Owned started op) :
    ∃ spans',
      Life p.rhythm p.token before (started || (op.isSome && Poller.Order.starts orders)) closing
        spans' (Poller.carryOutAll orders op a).2 ∧
      ∀ ms, orders.getLast? = some (.advance ms) →
        Life.Settled p.rhythm p.token before (started || (op.isSome && Poller.Order.starts orders))
          closing spans' (Poller.carryOutAll orders op a).2 := by
  induction orders generalizing started spans a op with
  | nil =>
    refine ⟨spans, ?_, ?_⟩
    · rw [Poller.Order.starts, Bool.and_false, Bool.or_false]
      exact h
    · intro ms hlast
      cases hlast
  | cons order orders ih =>
    obtain ⟨started', spans', hlife, hop', hstarts, hsettled⟩ :=
      h.carryOut hwork hrest hop order (hclosing order List.mem_cons_self)
    obtain ⟨spans'', hlife', hsettled'⟩ :=
      ih (fun o ho => hclosing o (List.mem_cons_of_mem _ ho)) hlife hop'
    rw [hstarts] at hlife' hsettled'
    cases orders with
    | nil =>
      rw [← hstarts, Poller.Order.starts, Bool.and_false, Bool.or_false]
      refine ⟨spans', hlife, ?_⟩
      intro ms hlast
      exact hsettled ms (Option.some.inj hlast)
    | cons next orders =>
      refine ⟨spans'', hlife', ?_⟩
      intro ms hlast
      exact hsettled' ms hlast

/-- The first closing, and all orders after it. -/
theorem Life.carryOutClosing (hwork : p.work = ScriptedWork.work)
    (hrest : ∀ succeeded, 0 < p.rhythm.rest succeeded) {order : Poller.Order}
    (horder : order.closes = true) (rest : List Poller.Order)
    (h : Life p.rhythm p.token before started none spans a) :
    ∃ spans',
      Life p.rhythm p.token before (started || Poller.Order.starts (order :: rest))
        (some (a.now, spans)) spans'
        (Poller.carryOutAll (order :: rest) (some { p with started := started }) a).2 ∧
      ∀ ms, (order :: rest).getLast? = some (.advance ms) →
        Life.Settled p.rhythm p.token before (started || Poller.Order.starts (order :: rest))
          (some (a.now, spans)) spans'
          (Poller.carryOutAll (order :: rest) (some { p with started := started }) a).2 := by
  have hlast : ∀ ms, (order :: rest).getLast? = some (.advance ms) →
      rest.getLast? = some (.advance ms) := by
    intro ms h
    cases rest with
    | nil =>
      cases h
      cases horder
    | cons next rest => exact h
  cases order with
  | start => cases horder
  | advance ms => cases horder
  | close =>
    have howner : p.Owned started (some { p with started := started }) := Or.inr rfl
    obtain ⟨spans', hlife, hsettled⟩ :=
      h.close.carryOutAll hwork hrest rest (fun _ _ _ => rfl) howner
    exact ⟨spans', hlife, fun ms h => hsettled ms (hlast ms h)⟩
  | drop =>
    have howner : p.Owned started none := Or.inl rfl
    obtain ⟨spans', hlife, hsettled⟩ :=
      h.close.carryOutAll hwork hrest rest (fun _ _ _ => rfl) howner
    exact ⟨spans', hlife, fun ms h => hsettled ms (hlast ms h)⟩

end Runs

/-! ### The life cycle -/

/-- The record of a run: the site has it, and it follows the script. -/
structure Recorded (rhythm : Rhythm) (before : Site) (spans : List Span) (a : Agenda Site) : Prop where
  script : a.state.cycles = ⟨before.cycles.answer, before.cycles.used + spans.length⟩
  history : a.state.history = spans.flatMap Span.events ++ before.history
  orderly : Orderly rhythm before.cycles spans

/-- What all runs of orders have in common, with the record up to the first closing and the one up to
the end. -/
structure Poller.LifeCycle (p : Poller Site) (before : Site) (orders : List Poller.Order)
    (earlier later : List Span) : Prop where
  opened : Recorded p.rhythm before earlier (p.run before (Order.opening orders)).2
  recorded : Recorded p.rhythm before later (p.run before orders).2
  /-- At most one cycle runs: all but the last have ended. -/
  alone : ∀ s ∈ later.tail, ∃ time, s.ended = some time
  /-- Up to the first closing the signal is not cancelled, no cycle sees a cancelled one, and no
  failure ends the loop. -/
  signal : (p.run before (Order.opening orders)).2.moment.cancelled p.token = false
  uncancelled : ∀ s ∈ earlier, s.cancelled = false
  alive : ∀ l ∈ (p.run before (Order.opening orders)).2.loops, l.stage ≠ .over
  unclosed : (∀ order ∈ orders, order.closes = false) →
    later = earlier ∧ (p.run before orders).2.moment.cancelled p.token = false
  /-- The first closing cancels the signal at that moment and does nothing else; from then on only
  the cycle that was running comes to its end, or a loop without any cycle begins a single one. -/
  closed : ∀ order rest, (orders.dropWhile fun order => !order.closes) = order :: rest →
    (p.run before (Order.opening orders ++ [order])).2 =
      (p.run before (Order.opening orders)).2.cancel p.token ∧
    (p.run before orders).2.moment.cancelled p.token = true ∧
    After (p.run before (Order.opening orders)).2.now earlier later
  /-- Whenever time has passed, a loop that has been started has begun a cycle, a cycle still runs
  only if its own end lies ahead, and after a cycle that has ended the loop is over or rests. -/
  begun : Order.starts orders = true → ∀ ms, orders.getLast? = some (.advance ms) → later ≠ []
  running : ∀ ms, orders.getLast? = some (.advance ms) → ∀ s ∈ later.head?, s.ended = none →
    if s.cycle.untilCancelled then (p.run before orders).2.moment.cancelled p.token = false
    else (p.run before orders).2.now < s.due
  ended : ∀ ms, orders.getLast? = some (.advance ms) → ∀ s ∈ later.head?, ∀ time,
    s.ended = some time → ∀ l ∈ (p.run before orders).2.loops,
      if (p.run before orders).2.moment.cancelled p.token then l.stage = .over
      else l.stage = .resting (time + min (p.rhythm.rest s.succeeded) longestWait) ∧
        (p.run before orders).2.now < time + min (p.rhythm.rest s.succeeded) longestWait
  /-- The loop can be started once, whatever happens in between. -/
  restart : (carryOut .start (p.run before orders).1 (p.run before orders).2).2.2 =
    if .drop ∈ orders then none
    else if .start ∈ orders then some (.error .alreadyStarted)
    else some (.ok ())

section LifeCycle

variable {p : Poller Site} {before : Site} {started : Bool} {closing : Option (Nat × List Span)}
  {spans : List Span} {a : Agenda Site}

theorem Life.recorded (h : Life p.rhythm p.token before started closing spans a) :
    Recorded p.rhythm before spans a := by
  cases started with
  | false =>
    obtain ⟨-, rfl, rfl⟩ := h.idle rfl
    exact ⟨rfl, rfl, trivial⟩
  | true =>
    obtain ⟨l, -, hkept⟩ := h.loop rfl
    exact ⟨hkept.script, hkept.history, hkept.orderly⟩

theorem Orderly.alone {rhythm : Rhythm} {script : Script ScriptedCycle}
    (h : Orderly rhythm script spans) : ∀ s ∈ spans.tail, ∃ time, s.ended = some time := by
  induction spans with
  | nil =>
    intro s hs
    cases hs
  | cons s earlier ih =>
    obtain ⟨-, -, hprevious, hearlier⟩ := h
    intro s' hs'
    cases earlier with
    | nil => cases hs'
    | cons previous others =>
      rcases List.mem_cons.mp hs' with rfl | hother
      · obtain ⟨time, hended, -⟩ := hprevious s' rfl
        exact ⟨time, hended⟩
      · exact ih hearlier s' hother

/-- Before the closing the loop is not over. -/
theorem Life.alive (h : Life p.rhythm p.token before started none spans a) :
    ∀ l ∈ a.loops, l.stage ≠ .over := by
  intro l hl hover
  cases started with
  | false =>
    obtain ⟨hloops, -⟩ := h.idle rfl
    rw [hloops] at hl
    cases hl
  | true =>
    obtain ⟨l', hloops, hkept⟩ := h.loop rfl
    rw [hloops] at hl
    rw [List.mem_singleton.mp hl] at hover
    cases spans with
    | nil =>
      rw [hkept.fresh rfl] at hover
      cases hover
    | cons s earlier =>
      obtain ⟨looked, hstage, hcancelled⟩ := hkept.stage s earlier rfl
      rw [hover] at hstage
      cases looked with
      | true => cases hcancelled rfl
      | false =>
        simp only [Span.stage] at hstage
        split at hstage <;> cases hstage

theorem Life.Settled.nonempty
    (h : Life.Settled p.rhythm p.token before started closing spans a) (hstarted : started = true) :
    spans ≠ [] := by
  obtain ⟨l, hloops, -⟩ := h.life.loop hstarted
  have hl : l ∈ a.loops := by
    rw [hloops]
    exact List.mem_singleton_self l
  obtain ⟨s, earlier, rfl, -⟩ := (h.looked l hl).last
  exact List.cons_ne_nil s earlier

theorem Life.Settled.running (h : Life.Settled p.rhythm p.token before started closing spans a)
    {s : Span} (hs : s ∈ spans.head?) (hrunning : s.ended = none) :
    if s.cycle.untilCancelled then a.moment.cancelled p.token = false else a.now < s.due := by
  cases started with
  | false =>
    obtain ⟨-, hspans, -⟩ := h.life.idle rfl
    rw [hspans] at hs
    cases hs
  | true =>
    obtain ⟨l, hloops, -⟩ := h.life.loop rfl
    have hl : l ∈ a.loops := by
      rw [hloops]
      exact List.mem_singleton_self l
    obtain ⟨s', earlier, rfl, -, hover⟩ := (h.looked l hl).last
    cases hs
    have hnot := hover hrunning
    cases huntil : s.cycle.untilCancelled with
    | true =>
      rw [Span.isOver, if_pos huntil] at hnot
      rw [if_pos rfl]
      exact hnot
    | false =>
      rw [Span.isOver, huntil, if_neg Bool.false_ne_true] at hnot
      rw [if_neg Bool.false_ne_true]
      exact Nat.lt_of_not_le (of_decide_eq_false hnot)

theorem Life.Settled.ended (h : Life.Settled p.rhythm p.token before started closing spans a)
    {s : Span} (hs : s ∈ spans.head?) {time : Nat} (hended : s.ended = some time) {l : Loop Site}
    (hl : l ∈ a.loops) :
    if a.moment.cancelled p.token then l.stage = .over
    else l.stage = .resting (time + min (p.rhythm.rest s.succeeded) longestWait) ∧
      a.now < time + min (p.rhythm.rest s.succeeded) longestWait := by
  obtain ⟨⟨s', earlier, rfl, hstage, -⟩, hahead⟩ := h.looked l hl
  cases hs
  split
  · rename_i hcancelled
    rw [hstage, hcancelled]
    exact stage_over hended
  · rename_i hopen
    rw [Bool.not_eq_true] at hopen
    rw [hopen, stage_resting hended] at hstage
    refine ⟨hstage, hahead _ ?_⟩
    rw [Loop.wake?, hstage]

/-! ### The first closing of a run -/

namespace Poller

theorem restart_eq (p : Poller Site) (hfresh : p.started = false) (before : Site)
    (orders : List Order) :
    (carryOut .start (p.run before orders).1 (p.run before orders).2).2.2 =
      if .drop ∈ orders then none
      else if .start ∈ orders then some (.error .alreadyStarted)
      else some (.ok ()) := by
  rw [run, carryOutAll_owner, hfresh]
  split
  · rfl
  · split
    · rename_i hstart
      simp [carryOut, Poller.start, hstart]
    · rename_i hstart
      simp [carryOut, Poller.start, hstart]

theorem run_append (p : Poller Site) (before : Site) (orders rest : List Order) :
    p.run before (orders ++ rest) =
      carryOutAll rest (p.run before orders).1 (p.run before orders).2 :=
  carryOutAll_append orders rest (some p) (.start before)

theorem Order.starts_append {opening rest : List Order} (h : ∀ order ∈ opening, order ≠ .drop) :
    Order.starts (opening ++ rest) = (Order.starts opening || Order.starts rest) := by
  induction opening with
  | nil => rfl
  | cons order opening ih =>
    have hrest := ih fun o ho => h o (List.mem_cons_of_mem _ ho)
    cases order with
    | start => rfl
    | drop => exact absurd rfl (h .drop List.mem_cons_self)
    | close => exact hrest
    | advance ms => exact hrest

theorem Order.opening_spec {orders : List Order} {order : Order}
    (h : order ∈ Order.opening orders) : order.closes = false := by
  simpa using List.mem_takeWhile_imp h

theorem Order.starts_opening {orders : List Order} (h : ∀ order ∈ orders, order.closes = false) :
    Order.starts orders = decide (.start ∈ orders) := by
  induction orders with
  | nil => rfl
  | cons order orders ih =>
    have hrest := ih fun o ho => h o (List.mem_cons_of_mem _ ho)
    cases order with
    | start => simp [Order.starts]
    | drop => cases h .drop List.mem_cons_self
    | close => cases h .close List.mem_cons_self
    | advance ms => simp [Order.starts, hrest]

theorem run_opening (p : Poller Site) (hfresh : p.started = false) (before : Site)
    (orders : List Order) :
    (p.run before (Order.opening orders)).1 =
      some { p with started := Order.starts (Order.opening orders) } := by
  have hdrop : .drop ∉ Order.opening orders := by
    intro h
    cases Order.opening_spec h
  rw [run, carryOutAll_owner, if_neg hdrop, hfresh, Bool.false_or,
    Order.starts_opening fun order h => Order.opening_spec h]

/-- The first closing, with what comes before and after it. -/
theorem Order.opening_append {orders rest : List Order} {order : Order}
    (h : (orders.dropWhile fun order => !order.closes) = order :: rest) :
    orders = Order.opening orders ++ order :: rest := by
  rw [← h]
  exact List.takeWhile_append_dropWhile.symm

theorem Order.closes_of_dropWhile {orders rest : List Order} {order : Order}
    (h : (orders.dropWhile fun order => !order.closes) = order :: rest) : order.closes = true := by
  have hhead := List.head?_dropWhile_not (fun order : Order => !order.closes) orders
  rw [h] at hhead
  simpa using hhead

theorem Order.opening_all {orders : List Order}
    (h : (orders.dropWhile fun order => !order.closes) = []) : Order.opening orders = orders := by
  have hsplit : Order.opening orders ++ orders.dropWhile (fun order => !order.closes) = orders :=
    List.takeWhile_append_dropWhile
  rw [h, List.append_nil] at hsplit
  exact hsplit

theorem Order.starts_closing {orders rest : List Order} {order : Order}
    (h : (orders.dropWhile fun order => !order.closes) = order :: rest) :
    Order.starts orders =
      (Order.starts (Order.opening orders) || Order.starts (order :: rest)) := by
  have hdrop : ∀ order ∈ Order.opening orders, order ≠ .drop := by
    intro order horder hdrop
    have hcloses := Order.opening_spec horder
    rw [hdrop] at hcloses
    cases hcloses
  calc Order.starts orders
      = Order.starts (Order.opening orders ++ order :: rest) := by rw [← Order.opening_append h]
    _ = _ := Order.starts_append hdrop

theorem Order.getLast_closing {orders rest : List Order} {order : Order}
    (h : (orders.dropWhile fun order => !order.closes) = order :: rest) :
    orders.getLast? = (order :: rest).getLast? := by
  calc orders.getLast?
      = (Order.opening orders ++ order :: rest).getLast? := by rw [← Order.opening_append h]
    _ = _ := List.getLast?_append_cons _ _ _

theorem run_closing (p : Poller Site) (hfresh : p.started = false) (before : Site)
    {orders rest : List Order} {order : Order}
    (h : (orders.dropWhile fun order => !order.closes) = order :: rest) :
    p.run before orders =
      carryOutAll (order :: rest) (some { p with started := Order.starts (Order.opening orders) })
        (p.run before (Order.opening orders)).2 := by
  calc p.run before orders
      = p.run before (Order.opening orders ++ order :: rest) := by rw [← Order.opening_append h]
    _ = _ := by rw [run_append, run_opening p hfresh]

theorem carryOut_closing {order : Order} (h : order.closes = true) (q : Poller Site)
    (a : Agenda Site) : (carryOutAll [order] (some q) a).2 = a.cancel q.token := by
  cases order with
  | start => cases h
  | advance ms => cases h
  | close => rfl
  | drop => rfl

/-! ### All runs -/

/-- The part of the life cycle that the invariant at both ends of a run gives. -/
theorem lifeCycle_of (hfresh : p.started = false) (orders : List Order) {earlier later : List Span}
    {opened : Bool}
    (hfirst : Life p.rhythm p.token before opened none earlier
      (p.run before (Order.opening orders)).2)
    (hlast : Life p.rhythm p.token before started closing later (p.run before orders).2)
    (hsettled : ∀ ms, orders.getLast? = some (.advance ms) →
      Life.Settled p.rhythm p.token before started closing later (p.run before orders).2)
    (hstarted : Order.starts orders = true → started = true)
    (hunclosed : (∀ order ∈ orders, order.closes = false) →
      later = earlier ∧ (p.run before orders).2.moment.cancelled p.token = false)
    (hclosed : ∀ order rest, (orders.dropWhile fun order => !order.closes) = order :: rest →
      (p.run before (Order.opening orders ++ [order])).2 =
        (p.run before (Order.opening orders)).2.cancel p.token ∧
      (p.run before orders).2.moment.cancelled p.token = true ∧
      After (p.run before (Order.opening orders)).2.now earlier later) :
    p.LifeCycle before orders earlier later where
  opened := hfirst.recorded
  recorded := hlast.recorded
  alone := hlast.recorded.orderly.alone
  signal := hfirst.cancelled
  uncancelled := hfirst.uncancelled rfl
  alive := hfirst.alive
  unclosed := hunclosed
  closed := hclosed
  begun hstarts ms hms := (hsettled ms hms).nonempty (hstarted hstarts)
  running ms hms _ hs hrunning := (hsettled ms hms).running hs hrunning
  ended ms hms _ hs _ hended _ hl := (hsettled ms hms).ended hs hended hl
  restart := restart_eq p hfresh before orders

/-- **The life cycle of a poller.**  It is the same for every order of starting, closing, giving away
and waiting, and for every script of cycles. -/
theorem life_cycle {token : Token} {name : Option String} {interval : Duration}
    {errorInterval : Option Duration} {p : Poller Site}
    (hp : Poller.make token name (some ScriptedWork.work) (some interval) errorInterval = .ok p)
    (before : Site) (orders : List Order) :
    ∃ earlier later, p.LifeCycle before orders earlier later := by
  obtain ⟨hwork, hfresh, hrest⟩ := make_spec hp
  have hstart := Life.fresh p.rhythm p.token before
  have howner : p.Owned false (some p) := Or.inr (by rw [← hfresh])
  have hopen : ∀ order ∈ Order.opening orders, order.closes = true →
      (none : Option (Nat × List Span)).isSome = true := by
    intro order horder hcloses
    rw [Order.opening_spec horder] at hcloses
    cases hcloses
  obtain ⟨earlier, hfirst, hsettled⟩ :=
    hstart.carryOutAll hwork hrest (Order.opening orders) hopen howner
  have hfirst : Life p.rhythm p.token before (Order.starts (Order.opening orders)) none earlier
    (p.run before (Order.opening orders)).2 := hfirst
  cases hpost : orders.dropWhile fun order => !order.closes with
  | nil =>
    -- nobody closes the poller, so that both records are the same
    have hlast := hfirst
    rw [Order.opening_all hpost] at hlast hsettled
    refine ⟨earlier, earlier, lifeCycle_of hfresh orders hfirst hlast hsettled id ?_ ?_⟩
    · intro _
      exact ⟨rfl, hlast.cancelled⟩
    · intro order rest hcons
      rw [hpost] at hcons
      cases hcons
  | cons order rest =>
    have horder := Order.closes_of_dropWhile hpost
    obtain ⟨later, hlast, hlater⟩ := hfirst.carryOutClosing hwork hrest horder rest
    rw [← run_closing p hfresh before hpost, ← Order.starts_closing hpost] at hlast hlater
    rw [← Order.getLast_closing hpost] at hlater
    refine ⟨earlier, later, lifeCycle_of hfresh orders hfirst hlast hlater id ?_ ?_⟩
    · intro hunclosed
      have hmem : order ∈ orders := by
        rw [Order.opening_append hpost]
        exact List.mem_append_right _ List.mem_cons_self
      rw [hunclosed order hmem] at horder
      cases horder
    · intro order' rest' hcons
      rw [hpost] at hcons
      obtain ⟨rfl, rfl⟩ := List.cons.inj hcons
      refine ⟨?_, hlast.cancelled, (hlast.after _ _ rfl).2⟩
      rw [run_append, run_opening p hfresh]
      exact carryOut_closing horder _ _

theorem life_cycle_each_second :
    Poller.make 0 none (some ScriptedWork.work) (some (.ofSeconds 1)) none =
        .ok ⟨"", ⟨.ofSeconds 1, .ofSeconds 1⟩, ScriptedWork.work, 0, false⟩ ∧
      ∃ earlier later, LifeCycle ⟨"", ⟨.ofSeconds 1, .ofSeconds 1⟩, ScriptedWork.work, 0, false⟩
        Site.initial [.start, .advance 1500, .close, .advance 3000, .start] earlier later := by
  have hmake : Poller.make 0 none (some ScriptedWork.work) (some (.ofSeconds 1)) none =
      .ok ⟨"", ⟨.ofSeconds 1, .ofSeconds 1⟩, ScriptedWork.work, 0, false⟩ := rfl
  exact ⟨hmake, life_cycle hmake Site.initial _⟩

end Poller

end LifeCycle

end ValidatorAlarm
