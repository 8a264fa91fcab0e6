import Mathlib.Logic.Function.Iterate
import ValidatorAlarm.Snooze

/-!
# What one alarm leaves behind

The snooze keeps a window for each key, and an alarm about a key looks at the window of that key
only.  So whatever alarms come in between, the window of a key has gone through as many alarms as
there were about this key.  As long as the clock stands still these alarms fall into one window, and
each of them uses up one unit of what the window lets through.
-/
namespace ValidatorAlarm

/-! ### The window of one key -/

/-- The window of a key after an alarm about it, by what was remembered of it before. -/
def SnoozeRule.asked (rule : SnoozeRule) (now : Int) (window : Option SnoozeWindow) :
    Option SnoozeWindow :=
  match rule with
  | .off => window
  | .limited _ length => some ((window.getD ⟨0, now⟩).renew length now).record

namespace Snooze

theorem get?_ask_self (snooze : Snooze) (rule : SnoozeRule) (now : Int) (key : String) :
    (snooze.ask rule now key).1.get? key = rule.asked now (snooze.get? key) := by
  cases rule with
  | off => rfl
  | limited limit length =>
    simp only [ask, SnoozeRule.asked]
    exact (Table.get?_put snooze key key _).trans (if_pos rfl)

theorem get?_ask (snooze : Snooze) (rule : SnoozeRule) (now : Int) {key other : String}
    (h : other ≠ key) : (snooze.ask rule now key).1.get? other = snooze.get? other := by
  cases rule with
  | off => rfl
  | limited limit length =>
    rw [ask]
    exact (Table.get?_put snooze key other _).trans (if_neg h)

end Snooze

/-! ### Alarms at one time -/

namespace SnoozeWindow

theorem renew_expiry {length : Nat} {now : Int} (hlength : 0 < length) (hnow : now < latest)
    (w : SnoozeWindow) : now < (w.renew length now).expiry length := by
  have hlatest : 0 < latest.toNat := by decide
  rw [renew]
  split
  · simp only [expiry]
    omega
  · omega

/-- A window that is renewed stays as it is for the rest of that second. -/
theorem renew_of_lt {length : Nat} {now : Int} {w : SnoozeWindow} (h : now < w.expiry length) :
    w.renew length now = w := by
  rw [renew, if_neg (by omega)]

end SnoozeWindow

/-- Several alarms about a key at one time count one by one in the same window. -/
theorem SnoozeRule.asked_iterate {limit length : Nat} {now : Int} (hlength : 0 < length)
    (hnow : now < SnoozeWindow.latest) (window : Option SnoozeWindow) (n : Nat) :
    ((SnoozeRule.limited limit length).asked now)^[n + 1] window =
      some ⟨min SnoozeWindow.maxCount (((window.getD ⟨0, now⟩).renew length now).count + (n + 1)),
        ((window.getD ⟨0, now⟩).renew length now).started⟩ := by
  have hfirst : (SnoozeRule.limited limit length).asked now window =
      some ((window.getD ⟨0, now⟩).renew length now).record := rfl
  have hopen := SnoozeWindow.renew_expiry hlength hnow (window.getD ⟨0, now⟩)
  generalize (window.getD ⟨0, now⟩).renew length now = first at hfirst hopen ⊢
  induction n with
  | zero => exact hfirst
  | succ n ih =>
    rw [Function.iterate_succ_apply', ih]
    -- the end of the window depends on its start alone, so that it is still open
    have hopen' : now < SnoozeWindow.expiry
        ⟨min SnoozeWindow.maxCount (first.count + (n + 1)), first.started⟩ length := hopen
    simp only [asked, Option.getD_some, SnoozeWindow.renew_of_lt hopen', SnoozeWindow.record,
      Option.some.injEq, SnoozeWindow.mk.injEq, and_true]
    omega

end ValidatorAlarm
