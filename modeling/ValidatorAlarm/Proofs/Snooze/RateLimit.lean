import Mathlib.Tactic.SplitIfs
import ValidatorAlarm.Proofs.Snooze.Independence

/-!
# What the limit lets through

The alarms of a key fall into windows.  Which alarm opens a window is a matter of the history alone:
the first one does, and then the first one that comes when the window before has ended.  The table
remembers the start of the window and a count, and both are cut off at the ends of their types; that
this goes unnoticed is shown by comparing the table with one that counts and adds without bounds.

For the unbounded table the window of a key after some alarms is read off the history
(`windowsExactly_reads`), which decides every single alarm.  How many alarms get through in a span
of time follows by going through the alarms with a budget: a span as long as a window meets two
windows at most, and the first of them has been opened before the span.
-/
namespace ValidatorAlarm

namespace Snooze

/-! ### Windows in a history -/

section Windows

variable (length : Nat) (calls : List (Int × String)) (key : String)

/-- The alarm at this place opens a window of its key, at this time. -/
inductive Opens : Nat → Int → Prop
  | first {place : Nat} {now : Int} (hcall : calls[place]? = some (now, key))
      (hfirst : ∀ earlier < place, ∀ time, calls[earlier]? ≠ some (time, key)) : Opens place now
  | again {before place : Nat} {start now : Int} (hbefore : Opens before start)
      (hlater : before < place) (hcall : calls[place]? = some (now, key))
      (hover : start + length ≤ now)
      (hinside : ∀ between, before < between → between < place →
        ∀ time, calls[between]? = some (time, key) → time < start + length) : Opens place now

/-- The window that has been opened last when the alarm at a place is raised. -/
structure CurrentWindow (place opening : Nat) (start : Int) : Prop where
  earlier : opening < place
  opens : Opens length calls key opening start
  last : ∀ between, opening < between → between < place →
    ∀ time, ¬ Opens length calls key between time

variable {length calls key}

theorem Opens.call {place : Nat} {now : Int} (h : Opens length calls key place now) :
    calls[place]? = some (now, key) := by
  cases h with
  | first hcall => exact hcall
  | again _ _ hcall => exact hcall

/-- Two windows of a key do not overlap. -/
theorem Opens.apart {earlier later : Nat} {start start' : Int}
    (hearlier : Opens length calls key earlier start) (hlater : Opens length calls key later start')
    (h : earlier < later) : start + length ≤ start' := by
  induction later using Nat.strongRecOn generalizing earlier start start' with
  | ind later ih =>
    cases hlater with
    | first _ hfirst => exact absurd hearlier.call (hfirst earlier h start)
    | @again before _ middle _ hbefore hbelow _ hover hinside =>
      rcases Nat.lt_trichotomy earlier before with hlt | heq | hgt
      · have := ih before hbelow hearlier hbefore hlt
        omega
      · subst heq
        have hsame : start = middle := by simpa using hearlier.call.symm.trans hbefore.call
        omega
      · -- a window between the two would be inside the one before it
        have := ih earlier h hbefore hearlier hgt
        have := hinside earlier hgt h start hearlier.call
        omega

/-- As long as a window lasts, no alarm opens another. -/
theorem CurrentWindow.not_opens {place opening : Nat} {start now : Int}
    (h : CurrentWindow length calls key place opening start) (hnow : now < start + length) :
    ¬ Opens length calls key place now := by
  intro hopens
  cases hopens with
  | first _ hfirst => exact hfirst opening h.earlier start h.opens.call
  | @again before _ middle _ hbefore hbelow _ hover hinside =>
    rcases Nat.lt_trichotomy before opening with hlt | heq | hgt
    · have := hbefore.apart h.opens hlt
      have := hinside opening hlt h.earlier start h.opens.call
      omega
    · subst heq
      have hsame : middle = start := by simpa using hbefore.call.symm.trans h.opens.call
      omega
    · exact h.last before hgt hbelow middle hbefore

/-- An alarm that comes while the window lasts leaves it the current one. -/
theorem CurrentWindow.stays {place opening : Nat} {start : Int}
    (h : CurrentWindow length calls key place opening start)
    (hwithin : ∀ time, calls[place]? = some (time, key) → time < start + length) :
    CurrentWindow length calls key (place + 1) opening start where
  earlier := Nat.lt_succ_of_lt h.earlier
  opens := h.opens
  last := by
    intro between hafter hbetween time hopens
    rcases Nat.lt_succ_iff_lt_or_eq.mp hbetween with hlt | rfl
    · exact h.last between hafter hlt time hopens
    · exact h.not_opens (hwithin time hopens.call) hopens

theorem CurrentWindow.unique {place opening opening' : Nat} {start start' : Int}
    (h : CurrentWindow length calls key place opening start)
    (h' : CurrentWindow length calls key place opening' start') :
    opening = opening' ∧ start = start' := by
  have hsame : opening = opening' := by
    rcases Nat.lt_trichotomy opening opening' with hlt | heq | hgt
    · exact absurd h'.opens (h.last opening' hlt h'.earlier start')
    · exact heq
    · exact absurd h.opens (h'.last opening hgt h.earlier start)
  subst hsame
  exact ⟨rfl, by simpa using h.opens.call.symm.trans h'.opens.call⟩

end Windows

end Snooze

/-! ### A snooze without bounds -/

namespace SnoozeWindow

/-- The window after a look at the clock, when its end is not cut off. -/
def renewExactly (w : SnoozeWindow) (length : Nat) (now : Int) : SnoozeWindow :=
  if w.started + length ≤ now then ⟨0, now⟩ else w

/-- The window with one more alarm, however many there are. -/
def recordExactly (w : SnoozeWindow) : SnoozeWindow := { w with count := w.count + 1 }

/-- What a snooze with bounds remembers of the window. -/
def capped (w : SnoozeWindow) : SnoozeWindow := { w with count := min maxCount w.count }

theorem capped_renew {w : SnoozeWindow} {length : Nat} {now : Int} (hstarted : 0 ≤ w.started)
    (hnow : now < latest) : w.capped.renew length now = (w.renewExactly length now).capped := by
  have hlatest : latest.toNat = latest := by decide
  have hover : w.capped.expiry length ≤ now ↔ w.started + length ≤ now := by
    simp only [expiry, capped]
    omega
  by_cases h : w.started + length ≤ now
  · rw [renew, renewExactly, if_pos (hover.mpr h), if_pos h]
    rfl
  · rw [renew, renewExactly, if_neg (mt hover.mp h), if_neg h]

theorem capped_record (w : SnoozeWindow) : w.capped.record = w.recordExactly.capped := by
  simp only [record, recordExactly, capped, mk.injEq, and_true]
  omega

theorem capped_count_lt {limit : Nat} (hlimit : limit ≤ maxCount) (w : SnoozeWindow) :
    w.capped.count < limit ↔ w.count < limit := by
  simp only [capped]
  omega

theorem renewExactly_started {w : SnoozeWindow} {length : Nat} {now : Int}
    (hstarted : 0 ≤ w.started) (hnow : 0 ≤ now) : 0 ≤ (w.renewExactly length now).started := by
  rw [renewExactly]
  split
  · exact hnow
  · exact hstarted

end SnoozeWindow

namespace Snooze

/-- The window in which an alarm is counted, without bounds. -/
def currentExactly (snooze : Snooze) (length : Nat) (now : Int) (key : String) : SnoozeWindow :=
  ((snooze.get? key).getD ⟨0, now⟩).renewExactly length now

def recordExactly (snooze : Snooze) (length : Nat) (now : Int) (key : String) : Snooze :=
  snooze.put key (snooze.currentExactly length now key).recordExactly

/-- The windows after some alarms, without bounds. -/
def windowsExactly (length : Nat) (snooze : Snooze) (calls : List (Int × String)) : Snooze :=
  calls.foldl (fun snooze call => snooze.recordExactly length call.1 call.2) snooze

/-- The answers of a snooze that counts and adds without bounds. -/
def answersExactly (limit length : Nat) : Snooze → List (Int × String) → List Bool
  | _, [] => []
  | snooze, (now, key) :: rest =>
    decide ((snooze.currentExactly length now key).count < limit) ::
      answersExactly limit length (snooze.recordExactly length now key) rest

variable {limit length : Nat}

@[simp] theorem length_answersExactly (snooze : Snooze) (calls : List (Int × String)) :
    (answersExactly limit length snooze calls).length = calls.length := by
  induction calls generalizing snooze with
  | nil => rfl
  | cons call calls ih => simp [answersExactly, ih]

theorem getElem?_answersExactly (snooze : Snooze) {calls : List (Int × String)} {place : Nat}
    {now : Int} {key : String} (hcall : calls[place]? = some (now, key)) :
    (answersExactly limit length snooze calls)[place]? = some (decide
      (((windowsExactly length snooze (calls.take place)).currentExactly length now key).count
        < limit)) := by
  induction calls generalizing snooze place with
  | nil => simp at hcall
  | cons call calls ih =>
    cases place with
    | zero =>
      obtain rfl : call = (now, key) := by simpa using hcall
      rfl
    | succ place => exact ih (snooze.recordExactly length call.1 call.2) (by simpa using hcall)

/-- A snooze with bounds that remembers the same windows as one without. -/
structure Caps (exactly bounded : Snooze) : Prop where
  window : ∀ key, bounded.get? key = (exactly.get? key).map SnoozeWindow.capped
  started : ∀ key window, exactly.get? key = some window → 0 ≤ window.started

variable (length) in
theorem Caps.current {exactly bounded : Snooze} (h : Caps exactly bounded) {now : Int}
    (hstart : 0 ≤ now) (hnow : now < SnoozeWindow.latest) (key : String) :
    bounded.current length now key = (exactly.currentExactly length now key).capped ∧
      0 ≤ (exactly.currentExactly length now key).started := by
  have hwindow : (bounded.get? key).getD ⟨0, now⟩ =
      ((exactly.get? key).getD ⟨0, now⟩).capped := by
    rw [h.window]
    cases exactly.get? key <;> rfl
  have hstarted : 0 ≤ ((exactly.get? key).getD ⟨0, now⟩).started := by
    cases hexactly : exactly.get? key with
    | none => exact hstart
    | some window => exact h.started key window hexactly
  constructor
  · rw [Snooze.current, hwindow, SnoozeWindow.capped_renew hstarted hnow, currentExactly]
  · exact SnoozeWindow.renewExactly_started hstarted hstart

variable (limit length) in
theorem Caps.record {exactly bounded : Snooze} (h : Caps exactly bounded) {now : Int}
    (hstart : 0 ≤ now) (hnow : now < SnoozeWindow.latest) (key : String) :
    Caps (exactly.recordExactly length now key)
      (bounded.ask (.limited limit length) now key).1 := by
  obtain ⟨hcurrent, hstarted⟩ := h.current length hstart hnow key
  constructor
  · intro other
    simp only [ask, recordExactly, Table.get?_put]
    by_cases hother : other = key
    · rw [if_pos hother, if_pos hother, hcurrent, SnoozeWindow.capped_record, Option.map_some]
    · rw [if_neg hother, if_neg hother]
      exact h.window other
  · intro other window hwindow
    simp only [recordExactly, Table.get?_put] at hwindow
    by_cases hother : other = key
    · rw [if_pos hother, Option.some.injEq] at hwindow
      subst hwindow
      exact hstarted
    · rw [if_neg hother] at hwindow
      exact h.started other window hwindow

/-- The bounds of times and counts never change an answer. -/
theorem answers_eq_answersExactly (hlimit : limit ≤ SnoozeWindow.maxCount)
    {calls : List (Int × String)}
    (hrange : ∀ call ∈ calls, 0 ≤ call.1 ∧ call.1 < SnoozeWindow.latest)
    {exactly bounded : Snooze} (h : Caps exactly bounded) :
    answers (.limited limit length) bounded calls =
      answersExactly limit length exactly calls := by
  induction calls generalizing exactly bounded with
  | nil => rfl
  | cons call calls ih =>
    obtain ⟨now, key⟩ := call
    obtain ⟨hstart, hnow⟩ := hrange (now, key) (by simp)
    have hanswer : decide ((bounded.current length now key).count < limit) =
        decide ((exactly.currentExactly length now key).count < limit) := by
      rw [(h.current length hstart hnow key).1]
      simp only [SnoozeWindow.capped_count_lt hlimit]
    have hrest := ih (fun call hcall => hrange call (by simp [hcall]))
      (h.record limit length hstart hnow key)
    simp only [answersExactly, ← hanswer, ← hrest]
    rfl

/-! ### Reading the window off the history -/

/-- What the history before a place says about the window of a key. -/
def Reads (length : Nat) (calls : List (Int × String)) (key : String) (place : Nat) :
    Option SnoozeWindow → Prop
  | none => ∀ earlier < place, ∀ time, calls[earlier]? ≠ some (time, key)
  | some window => ∃ opening, CurrentWindow length calls key place opening window.started ∧
      window.count = ((calls.take place).drop opening).countP (·.2 = key) ∧
      ∀ between, opening < between → between < place →
        ∀ time, calls[between]? = some (time, key) → time < window.started + length

section History

variable {calls : List (Int × String)} {key : String} {place : Nat}

theorem take_succ_of_call {now : Int} {other : String} (hcall : calls[place]? = some (now, other)) :
    calls.take (place + 1) = calls.take place ++ [(now, other)] := by
  rw [List.take_add_one, hcall]
  rfl

theorem countP_take_succ {opening : Nat} (hopening : opening ≤ place) {now : Int} {other : String}
    (hcall : calls[place]? = some (now, other)) :
    ((calls.take (place + 1)).drop opening).countP (·.2 = key) =
      ((calls.take place).drop opening).countP (·.2 = key) + if other = key then 1 else 0 := by
  have hlength : place < calls.length := (List.getElem?_eq_some_iff.mp hcall).1
  rw [take_succ_of_call hcall, List.drop_append_of_le_length (by simp; omega), List.countP_append]
  simp [List.countP_singleton]

/-- An alarm that comes while the window lasts is in it if it is one of the key. -/
theorem Reads.of_within {now : Int} {other : String} (hcall : calls[place]? = some (now, other))
    {window : SnoozeWindow} (hwithin : other = key → now < window.started + length)
    (h : Reads length calls key place (some window)) :
    Reads length calls key (place + 1) (some (if other = key then window.recordExactly else window)) := by
  obtain ⟨opening, hcurrent, hcount, hinside⟩ := h
  have hnow : ∀ time, calls[place]? = some (time, key) → time < window.started + length := by
    intro time htime
    obtain ⟨rfl, hkey⟩ : now = time ∧ other = key := by simpa using hcall.symm.trans htime
    exact hwithin hkey
  have hstarted : (if other = key then window.recordExactly else window).started = window.started := by
    split <;> rfl
  have hcounted : (if other = key then window.recordExactly else window).count =
      window.count + if other = key then 1 else 0 := by
    split <;> rfl
  refine ⟨opening, ?_, ?_, ?_⟩
  · rw [hstarted]
    exact hcurrent.stays hnow
  · rw [hcounted, hcount, countP_take_succ (Nat.le_of_lt hcurrent.earlier) hcall]
  · rw [hstarted]
    intro between hafter hbetween time htime
    rcases Nat.lt_succ_iff_lt_or_eq.mp hbetween with hlt | rfl
    · exact hinside between hafter hlt time htime
    · exact hnow time htime

/-- An alarm of another key leaves the window of this one as it was. -/
theorem Reads.of_other {now : Int} {other : String} (hcall : calls[place]? = some (now, other))
    (hother : other ≠ key) {window : Option SnoozeWindow}
    (h : Reads length calls key place window) : Reads length calls key (place + 1) window := by
  cases window with
  | none =>
    intro earlier hearlier time
    rcases Nat.lt_succ_iff_lt_or_eq.mp hearlier with hlt | rfl
    · exact h earlier hlt time
    · intro htime
      rw [hcall] at htime
      simp [hother] at htime
  | some window =>
    have hreads := h.of_within hcall fun hkey => absurd hkey hother
    rwa [if_neg hother] at hreads

/-- A window that has just been opened holds one alarm. -/
theorem Reads.of_opens {now : Int} (hopens : Opens length calls key place now) :
    Reads length calls key (place + 1) (some ⟨1, now⟩) := by
  refine ⟨place, ⟨Nat.lt_succ_self place, hopens, fun between _ _ => by omega⟩, ?_,
    fun between _ _ => by omega⟩
  have hnone : (calls.take place).drop place = [] :=
    List.drop_eq_nil_of_le (List.length_take_le place calls)
  rw [countP_take_succ (Nat.le_refl place) hopens.call, hnone, if_pos rfl]
  rfl

/-- An alarm of the key opens a window or counts in the one that is open. -/
theorem Reads.of_self {now : Int} (hcall : calls[place]? = some (now, key)) {snooze : Snooze}
    (h : Reads length calls key place (snooze.get? key)) :
    Reads length calls key (place + 1)
      (some (snooze.currentExactly length now key).recordExactly) := by
  rw [currentExactly]
  cases hwindow : snooze.get? key with
  | none =>
    rw [hwindow] at h
    have hnew : SnoozeWindow.renewExactly ⟨0, now⟩ length now = ⟨0, now⟩ := by
      rw [SnoozeWindow.renewExactly, ite_self]
    rw [Option.getD_none, hnew]
    exact Reads.of_opens (.first hcall h)
  | some window =>
    rw [hwindow] at h
    rw [Option.getD_some, SnoozeWindow.renewExactly]
    by_cases hover : window.started + length ≤ now
    · rw [if_pos hover]
      obtain ⟨opening, hcurrent, -, hinside⟩ := h
      exact Reads.of_opens (.again hcurrent.opens hcurrent.earlier hcall hover hinside)
    · rw [if_neg hover]
      have hreads := h.of_within hcall fun _ => Int.not_le.mp hover
      rwa [if_pos rfl] at hreads

variable (length) in
/-- The window that is remembered for a key is the one that the history tells. -/
theorem windowsExactly_reads (calls : List (Int × String)) (key : String) {place : Nat}
    (hplace : place ≤ calls.length) :
    Reads length calls key place
      ((windowsExactly length Table.empty (calls.take place)).get? key) := by
  induction place with
  | zero =>
    intro earlier hearlier
    omega
  | succ place ih =>
    obtain ⟨⟨now, other⟩, hcall⟩ : ∃ call, calls[place]? = some call :=
      ⟨_, List.getElem?_eq_getElem hplace⟩
    have hbefore := ih (Nat.le_of_succ_le hplace)
    rw [take_succ_of_call hcall, windowsExactly, List.foldl_append, List.foldl_cons,
      List.foldl_nil, recordExactly, Table.get?_put]
    by_cases hother : key = other
    · subst hother
      rw [if_pos rfl]
      exact hbefore.of_self hcall
    · rw [if_neg hother]
      exact hbefore.of_other hcall (Ne.symm hother)

end History

/-! ### The answer to one alarm -/

section Answer

variable {calls : List (Int × String)} {key : String} {place : Nat} {now : Int}

variable (length) in
/-- The alarms of its window that an alarm finds, if there is such a window. -/
theorem currentExactly_count_eq (hcall : calls[place]? = some (now, key)) :
    (∀ opening start, CurrentWindow length calls key place opening start →
        now < start + length →
        ((windowsExactly length Table.empty (calls.take place)).currentExactly length now key).count
          = ((calls.take place).drop opening).countP (·.2 = key)) ∧
      ((∀ opening start, CurrentWindow length calls key place opening start →
          start + length ≤ now) →
        ((windowsExactly length Table.empty (calls.take place)).currentExactly length now key).count
          = 0) := by
  have hplace : place ≤ calls.length := Nat.le_of_lt (List.getElem?_eq_some_iff.mp hcall).1
  have hreads := windowsExactly_reads length calls key hplace
  rw [currentExactly]
  cases hwindow : (windowsExactly length Table.empty (calls.take place)).get? key with
  | none =>
    rw [hwindow] at hreads
    rw [Option.getD_none, SnoozeWindow.renewExactly, ite_self]
    refine ⟨?_, fun _ => rfl⟩
    intro opening start hcurrent _
    exact absurd hcurrent.opens.call (hreads opening hcurrent.earlier start)
  | some window =>
    rw [hwindow] at hreads
    obtain ⟨opening, hcurrent, hcount, -⟩ := hreads
    rw [Option.getD_some, SnoozeWindow.renewExactly]
    constructor
    · intro opening' start hcurrent' hnow
      obtain ⟨rfl, rfl⟩ := hcurrent.unique hcurrent'
      rw [if_neg (by omega), hcount]
    · intro hover
      rw [if_pos (hover opening window.started hcurrent)]

theorem answersExactly_refuses (hcall : calls[place]? = some (now, key)) :
    (answersExactly limit length Table.empty calls)[place]? = some false ↔
      limit = 0 ∨ ∃ opening start, CurrentWindow length calls key place opening start ∧
        now < start + length ∧ limit ≤ ((calls.take place).drop opening).countP (·.2 = key) := by
  obtain ⟨hopen, hover⟩ := currentExactly_count_eq length hcall
  rw [getElem?_answersExactly Table.empty hcall, Option.some.injEq, decide_eq_false_iff_not,
    Nat.not_lt]
  constructor
  · intro hfull
    by_cases hopened : ∃ opening start,
        CurrentWindow length calls key place opening start ∧ now < start + length
    · obtain ⟨opening, start, hcurrent, hnow⟩ := hopened
      rw [hopen opening start hcurrent hnow] at hfull
      exact .inr ⟨opening, start, hcurrent, hnow, hfull⟩
    · have hcount := hover fun opening start hcurrent =>
        Int.not_lt.mp fun hnow => hopened ⟨opening, start, hcurrent, hnow⟩
      omega
  · rintro (rfl | ⟨opening, start, hcurrent, hnow, hfull⟩)
    · exact Nat.zero_le _
    · rwa [hopen opening start hcurrent hnow]

theorem answersExactly_of_opens (hlimit : 1 ≤ limit) (hopens : Opens length calls key place now) :
    (answersExactly limit length Table.empty calls)[place]? = some true := by
  obtain ⟨-, hover⟩ := currentExactly_count_eq length hopens.call
  rw [getElem?_answersExactly Table.empty hopens.call, Option.some.injEq, decide_eq_true_eq,
    hover ?_]
  · exact hlimit
  · intro opening start hcurrent
    exact hcurrent.opens.apart hopens hcurrent.earlier

end Answer

/-! ### A span of time -/

/-- How many alarms of a key can still get through in the span of time from `t` on, by the window
that is remembered of it. -/
def budget (limit length : Nat) (t : Int) : Option SnoozeWindow → Nat
  | none => 2 * limit - 1
  | some window =>
    if t + length ≤ window.started then 0
    else if t ≤ window.started then limit - window.count
    else if window.started + length ≤ t then 2 * limit - 1
    else limit + (limit - window.count)

/-- A window that is remembered holds an alarm already, and none of the alarms to come is older. -/
def Started (now : Int) (window : SnoozeWindow) : Prop := window.started ≤ now ∧ 1 ≤ window.count

variable (length) in
theorem started_current {now : Int} {window : Option SnoozeWindow}
    (hstarted : ∀ w ∈ window, Started now w) :
    Started now ((window.getD ⟨0, now⟩).renewExactly length now).recordExactly := by
  constructor
  · simp only [SnoozeWindow.recordExactly, SnoozeWindow.renewExactly]
    cases window with
    | none => split <;> exact Int.le_refl now
    | some w =>
      split
      · exact Int.le_refl now
      · exact (hstarted w rfl).1
  · exact Nat.succ_le_succ (Nat.zero_le _)

variable (length) in
/-- An alarm that gets through in the span is paid from the budget. -/
theorem budget_pays (hlimit : 1 ≤ limit) (t : Int) {now : Int} {window : Option SnoozeWindow}
    (hstarted : ∀ w ∈ window, Started now w) :
    (budget limit length t (some ((window.getD ⟨0, now⟩).renewExactly length now).recordExactly) +
        if t ≤ now ∧ now < t + length ∧
          ((window.getD ⟨0, now⟩).renewExactly length now).count < limit then 1 else 0) ≤
      budget limit length t window := by
  cases window with
  | none =>
    simp only [Option.getD_none, SnoozeWindow.renewExactly, ite_self, SnoozeWindow.recordExactly,
      budget]
    split_ifs <;> omega
  | some window =>
    obtain ⟨hstarted, hcount⟩ := hstarted window rfl
    by_cases hover : window.started + length ≤ now
    · simp only [Option.getD_some, SnoozeWindow.renewExactly, if_pos hover,
        SnoozeWindow.recordExactly, budget]
      split_ifs <;> omega
    · simp only [Option.getD_some, SnoozeWindow.renewExactly, if_neg hover,
        SnoozeWindow.recordExactly, budget]
      split_ifs <;> omega

/-- How many alarms of a key get through in a span of time as long as a window. -/
def passed (length : Nat) (key : String) (t : Int) (calls : List (Int × String))
    (given : List Bool) : Nat :=
  (calls.zip given).countP fun call =>
    call.1.2 = key ∧ t ≤ call.1.1 ∧ call.1.1 < t + length ∧ call.2

theorem passed_le_budget (hlimit : 1 ≤ limit) (key : String) (t : Int)
    {calls : List (Int × String)} (hsorted : calls.Pairwise (·.1 ≤ ·.1)) {snooze : Snooze}
    (hstarted : ∀ window ∈ snooze.get? key, ∀ call ∈ calls, Started call.1 window) :
    passed length key t calls (answersExactly limit length snooze calls) ≤
      budget limit length t (snooze.get? key) := by
  induction calls generalizing snooze with
  | nil => exact Nat.zero_le _
  | cons call calls ih =>
    obtain ⟨now, other⟩ := call
    obtain ⟨hnow, hsorted⟩ := List.pairwise_cons.mp hsorted
    have hrest := @ih hsorted (snooze.recordExactly length now other)
    rw [recordExactly, Table.get?_put] at hrest
    by_cases hother : key = other
    · subst hother
      have hbegun : ∀ window ∈ snooze.get? key, Started now window :=
        fun window hwindow => hstarted window hwindow (now, key) (by simp)
      have hpaid := budget_pays length hlimit t hbegun
      rw [if_pos rfl] at hrest
      have hnext := hrest fun window hwindow call hcall => by
        obtain rfl := Option.some.inj hwindow
        have hcurrent := started_current length hbegun
        exact ⟨Int.le_trans hcurrent.1 (hnow call hcall), hcurrent.2⟩
      have hcount : passed length key t ((now, key) :: calls)
          (answersExactly limit length snooze ((now, key) :: calls)) =
          passed length key t calls
            (answersExactly limit length (snooze.recordExactly length now key) calls) +
          if t ≤ now ∧ now < t + length ∧ (snooze.currentExactly length now key).count < limit
            then 1 else 0 := by
        simp [passed, answersExactly, List.countP_cons]
      rw [hcount]
      exact Nat.le_trans (Nat.add_le_add_right hnext _) hpaid
    · rw [if_neg hother] at hrest
      have hcount : passed length key t ((now, other) :: calls)
          (answersExactly limit length snooze ((now, other) :: calls)) =
          passed length key t calls
            (answersExactly limit length (snooze.recordExactly length now other) calls) := by
        simp [passed, answersExactly, Ne.symm hother]
      rw [hcount]
      exact hrest fun window hwindow call hcall =>
        hstarted window hwindow call (List.mem_cons_of_mem _ hcall)

/-! ### The limit -/

/-- The answers of a new snooze. -/
def answersAnew (limit length : Nat) (calls : List (Int × String)) : List Bool :=
  answers (.limited limit length) Table.empty calls

/-- **The limit holds in every window.**  When the clock never goes backwards and stays within its
range, an alarm is refused exactly if the limit is zero or as many alarms of its key as the limit
allows have come since its current window was opened, itself not counted.  So an alarm that opens a
window gets through, fewer than twice as many alarms of a key as the limit get through in any span
as long as a window, and a snooze that counts and adds without bounds answers the same. -/
theorem rate_limited {limit : Nat} (hlimit : limit ≤ SnoozeWindow.maxCount) (length : Nat)
    {calls : List (Int × String)} (hsorted : calls.Pairwise (·.1 ≤ ·.1))
    (hrange : ∀ call ∈ calls, 0 ≤ call.1 ∧ call.1 < SnoozeWindow.latest) (key : String) :
    (answersAnew limit length calls).length = calls.length ∧
      (∀ (place : Nat) (now : Int), calls[place]? = some (now, key) →
        ((answersAnew limit length calls)[place]? = some false ↔
          limit = 0 ∨ ∃ opening start, CurrentWindow length calls key place opening start ∧
            now < start + length ∧
            limit ≤ ((calls.take place).drop opening).countP (·.2 = key))) ∧
      (1 ≤ limit → ∀ place now, Opens length calls key place now →
        (answersAnew limit length calls)[place]? = some true) ∧
      (1 ≤ limit → ∀ t : Int, (calls.zip (answersAnew limit length calls)).countP (fun call =>
        call.1.2 = key ∧ t ≤ call.1.1 ∧ call.1.1 < t + length ∧ call.2) ≤ 2 * limit - 1) ∧
      answersAnew limit length calls = answersExactly limit length Table.empty calls := by
  have hempty : Caps Table.empty Table.empty :=
    ⟨fun _ => rfl, fun _ _ hwindow => absurd hwindow (by simp)⟩
  have hexactly : answersAnew limit length calls = answersExactly limit length Table.empty calls :=
    answers_eq_answersExactly hlimit hrange hempty
  rw [hexactly]
  refine ⟨length_answersExactly _ _, fun place now hcall => answersExactly_refuses hcall,
    fun hone place now hopens => answersExactly_of_opens hone hopens, fun hone t => ?_, rfl⟩
  exact passed_le_budget hone key t hsorted fun window hwindow => absurd hwindow (by simp)

/-- With two alarms allowed in ten seconds the third alarm of a window is refused, and the one that
comes at the very end of the window gets through. -/
theorem rate_limited_two_in_ten :
    2 ≤ SnoozeWindow.maxCount ∧
      ([(0, "a"), (5, "a"), (5, "b"), (9, "a"), (10, "a")] : List (Int × String)).Pairwise
        (·.1 ≤ ·.1) ∧
      answersAnew 2 10 [(0, "a"), (5, "a"), (5, "b"), (9, "a"), (10, "a")] =
        [true, true, true, false, true] ∧
      ∀ t : Int, (([(0, "a"), (5, "a"), (5, "b"), (9, "a"), (10, "a")] :
          List (Int × String)).zip [true, true, true, false, true]).countP (fun call =>
        call.1.2 = "a" ∧ t ≤ call.1.1 ∧ call.1.1 < t + 10 ∧ call.2) ≤ 3 := by
  have hsorted : ([(0, "a"), (5, "a"), (5, "b"), (9, "a"), (10, "a")] :
      List (Int × String)).Pairwise (·.1 ≤ ·.1) := by decide
  have hgiven : answersAnew 2 10 [(0, "a"), (5, "a"), (5, "b"), (9, "a"), (10, "a")] =
      [true, true, true, false, true] := by decide
  refine ⟨by decide, hsorted, hgiven, fun t => ?_⟩
  have hspan := (rate_limited (by decide) 10 hsorted (by decide) "a").2.2.2.1
    (Nat.le_succ 1) t
  rwa [hgiven] at hspan

end Snooze

end ValidatorAlarm
