import ValidatorAlarm.Proofs.Snooze.Asking

/-!
# A noisy key silences itself only

All keys share one table, which every alarm looks up and changes.  Seen from a single key the table
is still a single window: an alarm about the key is answered by that window and moves it on, and an
alarm about another key leaves it alone.  A run over all alarms and a run over those of the key
therefore go through the same windows of the key, and give it the same answers.  The times play no
part in this, so that the clock may even go backwards.
-/
namespace ValidatorAlarm

variable (rule : SnoozeRule)

/-- Does an alarm that finds this window of its key get through? -/
def SnoozeRule.lets (now : Int) (window : Option SnoozeWindow) : Bool :=
  match rule with
  | .off => true
  | .limited limit length => ((window.getD ⟨0, now⟩).renew length now).count < limit

namespace Snooze

theorem ask_answer (snooze : Snooze) (now : Int) (key : String) :
    (snooze.ask rule now key).2 = rule.lets now (snooze.get? key) := by
  cases rule <;> rfl

theorem answers_cons (snooze : Snooze) (now : Int) (key : String) (calls : List (Int × String)) :
    answers rule snooze ((now, key) :: calls) =
      rule.lets now (snooze.get? key) :: answers rule (snooze.ask rule now key).1 calls := by
  rw [← ask_answer]
  rfl

/-- The answers that the alarms of one key get among all alarms. -/
def answersTo (key : String) (snooze : Snooze) (calls : List (Int × String)) : List Bool :=
  ((calls.zip (answers rule snooze calls)).filter (·.1.2 = key)).map (·.2)

theorem answersTo_cons_self (key : String) (snooze : Snooze) (now : Int)
    (calls : List (Int × String)) :
    answersTo rule key snooze ((now, key) :: calls) =
      rule.lets now (snooze.get? key) ::
        answersTo rule key (snooze.ask rule now key).1 calls := by
  simp [answersTo, answers_cons]

theorem answersTo_cons_of_ne {key other : String} (hother : other ≠ key) (snooze : Snooze)
    (now : Int) (calls : List (Int × String)) :
    answersTo rule key snooze ((now, other) :: calls) =
      answersTo rule key (snooze.ask rule now other).1 calls := by
  simp [answersTo, answers_cons, hother]

/-- Two tables that agree on a key give it the same answers, whichever other alarms the first of
them has to deal with in between. -/
theorem answersTo_eq_answers (key : String) (calls : List (Int × String)) {snooze alone : Snooze}
    (hsame : snooze.get? key = alone.get? key) :
    answersTo rule key snooze calls = answers rule alone (calls.filter (·.2 = key)) := by
  induction calls generalizing snooze alone with
  | nil => rfl
  | cons call calls ih =>
    obtain ⟨now, other⟩ := call
    by_cases hother : other = key
    · subst hother
      have hnext : (snooze.ask rule now other).1.get? other =
          (alone.ask rule now other).1.get? other := by
        rw [get?_ask_self, get?_ask_self, hsame]
      rw [answersTo_cons_self, List.filter_cons_of_pos (by simp), answers_cons, hsame, ih hnext]
    · have hnext : (snooze.ask rule now other).1.get? key = alone.get? key := by
        rw [get?_ask snooze rule now (Ne.symm hother), hsame]
      rw [answersTo_cons_of_ne rule hother, List.filter_cons_of_neg (by simpa using hother),
        ih hnext]

/-- **Keys are snoozed independently.**  The answers to the alarms of a key are those that a new
table gives when it hears of these alarms only; two runs that agree on the alarms of a key give it
the same answers, however the alarms of other keys are mixed in. -/
theorem keys_independent (key : String) (calls : List (Int × String)) :
    answersTo rule key Table.empty calls =
        answers rule Table.empty (calls.filter (·.2 = key)) ∧
      ∀ mixed : List (Int × String),
        mixed.filter (·.2 = key) = calls.filter (·.2 = key) →
          answersTo rule key Table.empty mixed = answersTo rule key Table.empty calls := by
  constructor
  · exact answersTo_eq_answers rule key calls rfl
  · intro mixed hcalls
    calc answersTo rule key Table.empty mixed
        = answers rule Table.empty (mixed.filter (·.2 = key)) :=
          answersTo_eq_answers rule key mixed rfl
      _ = answers rule Table.empty (calls.filter (·.2 = key)) := by rw [hcalls]
      _ = answersTo rule key Table.empty calls := (answersTo_eq_answers rule key calls rfl).symm

/-- The second alarm of the key `"a"` is one too many in its window, with the alarms of the empty
key and of the longer key `"ab"` in between as well as without them. -/
theorem keys_independent_of_prefixes :
    ([(7, ""), (5, "a"), (9, "ab"), (3, ""), (6, "a")] : List (Int × String)).filter (·.2 = "a") =
        ([(5, "a"), (6, "a")] : List (Int × String)).filter (·.2 = "a") ∧
      answersTo (.limited 1 10) "a" Table.empty
          [(7, ""), (5, "a"), (9, "ab"), (3, ""), (6, "a")] =
        answersTo (.limited 1 10) "a" Table.empty [(5, "a"), (6, "a")] ∧
      answersTo (.limited 1 10) "a" Table.empty [(5, "a"), (6, "a")] = [true, false] := by
  have hcalls : ([(7, ""), (5, "a"), (9, "ab"), (3, ""), (6, "a")] : List (Int × String)).filter
      (·.2 = "a") = ([(5, "a"), (6, "a")] : List (Int × String)).filter (·.2 = "a") := by decide
  refine ⟨hcalls, ?_, by decide⟩
  exact (keys_independent (.limited 1 10) "a" [(5, "a"), (6, "a")]).2 _ hcalls

end Snooze

end ValidatorAlarm
