import ValidatorAlarm.Proofs.Poller.Record

/-!
# The invariant of a poller

While the owner of a poller does what he likes, an invariant ties the agenda to the record of the
cycles, and, once the poller is closed, the record to the one at the time of the closing: at most the
cycle that was running then comes to its end, and a loop that had not begun any cycle begins a single
one, whose signal is cancelled from the start.

Time that passes is one look of the loop after the other, so that `Kept.step` keeps the invariant;
the other orders change the agenda in one place.
-/
namespace ValidatorAlarm

/-! ### What may happen after the closing -/

/-- From the record at the time of the closing to a later one. -/
inductive After (time : Nat) : List Span → List Span → Prop where
  | same (spans : List Span) : After time spans spans
  /-- The cycle that was running has come to its own end. -/
  | ends {s : Span} {earlier : List Span} {last : Nat} (hrunning : s.ended = none)
      (hlast : last = if s.cycle.untilCancelled then time else s.due) :
      After time (s :: earlier) ({ s with ended := some last } :: earlier)
  /-- The loop had not begun any cycle and has begun its only one. -/
  | late {s : Span} (hcancelled : s.cancelled = true) (hbegun : time ≤ s.begun) : After time [] [s]

theorem After.next {time : Nat} {m : Moment} {token : Token} {cycle : ScriptedCycle}
    {first spans spans' : List Span} (hafter : After time first spans)
    (hnext : Next m token cycle spans spans') (hcancelled : m.cancelled token = true)
    (htime : time ≤ m.now)
    (hheld : ∀ s ∈ spans.head?, s.ended = none → s.cycle.untilCancelled = true → m.now = time)
    (hproper : ∀ s ∈ spans'.head?, s.Proper) : After time first spans' := by
  cases hnext with
  | idle => exact hafter
  | begins h =>
    have hempty : spans = [] := by
      rcases h with hempty | hopen
      · exact hempty
      · rw [hcancelled] at hopen
        cases hopen
    subst hempty
    cases hafter with
    | same => exact .late hcancelled htime
  | ends hrunning hover =>
    rename_i s earlier
    cases hafter with
    | same =>
      refine .ends hrunning ?_
      cases huntil : s.cycle.untilCancelled with
      | true =>
        rw [if_pos rfl]
        exact hheld s rfl hrunning huntil
      | false =>
        rw [if_neg Bool.false_ne_true]
        exact (hproper _ rfl).timed huntil m.now rfl
    | ends hrunning' hlast => cases hrunning
    | late hcancelled' hbegun => exact .late hcancelled' hbegun

/-! ### The invariant -/

/-- A run up to now: whether the loop has been started, the closing with its time and the record of
that time, and the record of now. -/
structure Life (rhythm : Rhythm) (token : Token) (before : Site) (started : Bool)
    (closing : Option (Nat × List Span)) (spans : List Span) (a : Agenda Site) : Prop where
  planned : a.planned = []
  cancelled : a.moment.cancelled token = closing.isSome
  idle : started = false → a.loops = [] ∧ spans = [] ∧ a.state = before
  loop : started = true → ∃ l, a.loops = [l] ∧ Kept rhythm token before closing.isSome spans l a.state
  begun : ∀ s ∈ spans.head?, s.begun ≤ a.now
  uncancelled : closing = none → ∀ s ∈ spans, s.cancelled = false
  after : ∀ time first, closing = some (time, first) → time ≤ a.now ∧ After time first spans
  held : ∀ time first, closing = some (time, first) → ∀ s ∈ spans.head?,
    s.ended = none → s.cycle.untilCancelled = true → a.now = time
  punctual : a.Punctual

/-- The same after all that is due now has taken place. -/
structure Life.Settled (rhythm : Rhythm) (token : Token) (before : Site) (started : Bool)
    (closing : Option (Nat × List Span)) (spans : List Span) (a : Agenda Site) : Prop where
  life : Life rhythm token before started closing spans a
  looked : ∀ l ∈ a.loops, Looked rhythm token a.moment spans l

section Passing

variable {rhythm : Rhythm} {token : Token} {before : Site} {started : Bool}
  {closing : Option (Nat × List Span)} {spans : List Span} {a : Agenda Site}

theorem Next.begun_le {m : Moment} {cycle : ScriptedCycle} {spans' : List Span}
    (h : Next m token cycle spans spans') (hbegun : ∀ s ∈ spans.head?, s.begun ≤ m.now) :
    ∀ s ∈ spans'.head?, s.begun ≤ m.now := by
  intro s hs
  cases h with
  | idle => exact hbegun s hs
  | ends hrunning hover =>
    rename_i last earlier
    cases hs
    exact hbegun last rfl
  | begins _ =>
    cases hs
    exact Nat.le_refl m.now

theorem Next.uncancelled {m : Moment} {cycle : ScriptedCycle} {spans' : List Span}
    (h : Next m token cycle spans spans') (hopen : m.cancelled token = false)
    (hspans : ∀ s ∈ spans, s.cancelled = false) : ∀ s ∈ spans', s.cancelled = false := by
  intro s hs
  cases h with
  | idle => exact hspans s hs
  | ends hrunning hover =>
    rename_i last earlier
    rcases List.mem_cons.mp hs with rfl | hearlier
    · exact hspans last List.mem_cons_self
    · exact hspans s (List.mem_cons_of_mem _ hearlier)
  | begins _ =>
    rcases List.mem_cons.mp hs with rfl | hearlier
    · exact hopen
    · exact hspans s hearlier

/-- After a look nobody waits for a cancellation that has taken place. -/
theorem Looked.not_held {m : Moment} {l : Loop Site} (h : Looked rhythm token m spans l)
    (hcancelled : m.cancelled token = true) {s : Span} (hs : s ∈ spans.head?)
    (hrunning : s.ended = none) : s.cycle.untilCancelled = false := by
  obtain ⟨s', earlier, rfl, -, hover⟩ := h.last
  cases hs
  cases huntil : s.cycle.untilCancelled with
  | false => rfl
  | true =>
    have hnot := hover hrunning
    rw [Span.isOver, if_pos huntil, hcancelled] at hnot
    cases hnot

/-- What is due takes place: nothing before the start, and then one step of the loop. -/
theorem Life.settle_next (hrest : ∀ succeeded, 0 < rhythm.rest succeeded)
    (h : Life rhythm token before started closing spans a) :
    ∃ spans', Life.Settled rhythm token before started closing spans' a.settle ∧
      (started = true → ∃ cycle, Next a.moment token cycle spans spans') := by
  have hcancelDue := Agenda.cancelDue_eq h.planned
  cases started with
  | false =>
    obtain ⟨hloops, -⟩ := h.idle rfl
    have hsettle : a.settle = a := (Agenda.settle_alone hloops).trans hcancelDue
    rw [hsettle]
    refine ⟨spans, ⟨h, ?_⟩, ?_⟩
    · rw [hloops]
      intro l hl
      cases hl
    · intro hstarted
      cases hstarted
  | true =>
    obtain ⟨l, hloops, hkept⟩ := h.loop rfl
    have hpunctual : ∀ wake, l.wake? = some wake → a.now ≤ wake :=
      h.punctual.2 l (by rw [hloops]; exact List.mem_singleton_self l)
    rw [← h.cancelled] at hkept
    obtain ⟨spans', hnext, hkept', hlooked⟩ := hkept.step hrest h.begun hpunctual
    have hsettle := Agenda.settle_single hloops
    rw [hcancelDue] at hsettle
    refine ⟨spans', ⟨?_, ?_⟩, fun _ => ⟨_, hnext⟩⟩
    · rw [hsettle]
      refine ⟨h.planned, h.cancelled, ?_, ?_, hnext.begun_le h.begun, ?_, ?_, ?_, ?_⟩
      · intro hstarted
        cases hstarted
      · intro _
        rw [← h.cancelled]
        exact ⟨_, rfl, hkept'⟩
      · intro hopen
        have hcancelled : a.moment.cancelled token = false := by
          rw [h.cancelled, hopen]
          rfl
        exact hnext.uncancelled hcancelled (h.uncancelled hopen)
      · intro time first hclosing
        have hcancelled : a.moment.cancelled token = true := by
          rw [h.cancelled, hclosing]
          rfl
        obtain ⟨htime, hafter⟩ := h.after time first hclosing
        refine ⟨htime, hafter.next hnext hcancelled htime (h.held time first hclosing) ?_⟩
        intro s hs
        obtain ⟨s', earlier, rfl, -⟩ := hlooked.last
        cases hs
        exact hkept'.orderly.2.1
      · intro time first hclosing s hs hrunning huntil
        have hcancelled : a.moment.cancelled token = true := by
          rw [h.cancelled, hclosing]
          rfl
        rw [hlooked.not_held hcancelled hs hrunning] at huntil
        cases huntil
      · constructor
        · intro e he
          rw [h.planned] at he
          cases he
        · intro l' hl' wake hwake
          rw [List.mem_singleton.mp hl'] at hwake
          exact Nat.le_of_lt (hlooked.ahead wake hwake)
    · intro l' hl'
      rw [hsettle] at hl' ⊢
      rw [List.mem_singleton.mp hl']
      exact hlooked

theorem Life.settle (hrest : ∀ succeeded, 0 < rhythm.rest succeeded)
    (h : Life rhythm token before started closing spans a) :
    ∃ spans', Life.Settled rhythm token before started closing spans' a.settle := by
  obtain ⟨spans', hsettled, -⟩ := h.settle_next hrest
  exact ⟨spans', hsettled⟩

theorem Life.Settled.ahead (h : Life.Settled rhythm token before started closing spans a) :
    a.Ahead := by
  constructor
  · intro e he
    rw [h.life.planned] at he
    cases he
  · intro l hl wake hwake
    exact (h.looked l hl).ahead wake hwake

theorem Life.Settled.jump (h : Life.Settled rhythm token before started closing spans a) {time : Nat}
    (hnow : a.now ≤ time) (htime : ∀ next, a.nextTime? = some next → time ≤ next) :
    Life rhythm token before started closing spans { a with now := time } := by
  have hpunctual := h.ahead.jump htime
  obtain ⟨hlife, hlooked⟩ := h
  refine ⟨hlife.planned, hlife.cancelled, hlife.idle, hlife.loop, ?_, hlife.uncancelled, ?_, ?_,
    hpunctual⟩
  · intro s hs
    exact Nat.le_trans (hlife.begun s hs) hnow
  · intro time' first hclosing
    obtain ⟨htime', hafter⟩ := hlife.after time' first hclosing
    exact ⟨Nat.le_trans htime' hnow, hafter⟩
  · intro time' first hclosing s hs hrunning huntil
    have hcancelled : a.moment.cancelled token = true := by
      rw [hlife.cancelled, hclosing]
      rfl
    cases hstarted : started with
    | false =>
      obtain ⟨-, hspans, -⟩ := hlife.idle hstarted
      rw [hspans] at hs
      cases hs
    | true =>
      obtain ⟨l, hloops, -⟩ := hlife.loop hstarted
      have hl : l ∈ a.loops := by
        rw [hloops]
        exact List.mem_singleton_self l
      rw [(hlooked l hl).not_held hcancelled hs hrunning] at huntil
      cases huntil

/-- Time that passes keeps the invariant. -/
theorem Life.advance (hrest : ∀ succeeded, 0 < rhythm.rest succeeded)
    (h : Life rhythm token before started closing spans a) (ms : Nat) :
    ∃ spans', Life.Settled rhythm token before started closing spans' (a.advance ms) := by
  refine Agenda.advance_keeps
    (I := fun a => ∃ spans, Life rhythm token before started closing spans a)
    (S := fun a => ∃ spans, Life.Settled rhythm token before started closing spans a) ?_ ?_ ms
    ⟨spans, h⟩
  · rintro a ⟨spans, h⟩
    exact h.settle hrest
  · rintro a time ⟨spans, h⟩ hnow htime
    exact ⟨spans, h.jump hnow htime⟩

/-! ### Orders -/

theorem Kept.noticed {cancelled : Bool} {l : Loop Site} {site : Site}
    (h : Kept rhythm token before cancelled spans l site) :
    Kept rhythm token before true spans l site := by
  refine ⟨h.loop, h.fresh, ?_, h.script, h.history, h.orderly⟩
  intro s earlier hspans
  obtain ⟨looked, hstage, -⟩ := h.stage s earlier hspans
  exact ⟨looked, hstage, fun _ => rfl⟩

theorem moment_cancel (a : Agenda Site) (token : Token) :
    (a.cancel token).moment.cancelled token = true := by
  simp [Agenda.cancel, Agenda.moment]

theorem Life.close (h : Life rhythm token before started none spans a) :
    Life rhythm token before started (some (a.now, spans)) spans (a.cancel token) := by
  refine ⟨h.planned, moment_cancel a token, h.idle, ?_, h.begun, ?_, ?_, ?_, h.punctual⟩
  · intro hstarted
    obtain ⟨l, hloops, hkept⟩ := h.loop hstarted
    exact ⟨l, hloops, hkept.noticed⟩
  · intro hclosing
    cases hclosing
  · intro time first hclosing
    cases hclosing
    exact ⟨Nat.le_refl a.now, .same spans⟩
  · intro time first hclosing s _ _ _
    cases hclosing
    rfl

theorem Life.closeAgain (h : Life rhythm token before started closing spans a)
    (hclosing : closing.isSome = true) :
    Life rhythm token before started closing spans (a.cancel token) :=
  ⟨h.planned, (moment_cancel a token).trans hclosing.symm, h.idle, h.loop, h.begun, h.uncancelled,
    h.after, h.held, h.punctual⟩

/-- Nothing has been ordered yet. -/
theorem Life.fresh (rhythm : Rhythm) (token : Token) (before : Site) :
    Life rhythm token before false none [] (.start before) := by
  refine ⟨rfl, rfl, fun _ => ⟨rfl, rfl, rfl⟩, ?_, ?_, ?_, ?_, ?_, ?_, ?_⟩
  · intro hstarted
    cases hstarted
  · intro s hs
    cases hs
  · intro _ s hs
    cases hs
  · intro time first hclosing
    cases hclosing
  · intro time first hclosing
    cases hclosing
  · intro e he
    cases he
  · intro l hl
    cases hl

theorem Life.start (h : Life rhythm token before false closing spans a) :
    Life rhythm token before true closing spans (a.addLoop (scriptedLoop rhythm token .ready)) := by
  obtain ⟨hloops, hspans, hstate⟩ := h.idle rfl
  have hadded : (a.addLoop (scriptedLoop rhythm token .ready)).loops =
      [scriptedLoop rhythm token .ready] := by
    rw [Agenda.addLoop, hloops]
    rfl
  refine ⟨h.planned, h.cancelled, ?_, ?_, h.begun, h.uncancelled, h.after, h.held, ?_⟩
  · intro hstarted
    cases hstarted
  · intro _
    refine ⟨_, hadded, rfl, fun _ => rfl, ?_, ?_, ?_, ?_⟩
    · intro s earlier hcons
      rw [hspans] at hcons
      cases hcons
    · rw [hspans]
      exact congrArg Site.cycles hstate
    · rw [hspans]
      exact congrArg Site.history hstate
    · rw [hspans]
      trivial
  · refine ⟨h.punctual.1, ?_⟩
    intro l hl wake hwake
    rw [hadded] at hl
    rw [List.mem_singleton.mp hl] at hwake
    cases hwake

end Passing

end ValidatorAlarm
