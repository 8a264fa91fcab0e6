import ValidatorAlarm.Table

/-!
# Snoozing

A faulty key would raise its alarm in every cycle.  The snooze lets through a limited number of
alarms of each key within a window of time; the window opens with the first alarm of the key and
again with the first one at or after its end.

Times are seconds and saturate at the ends of 64 signed bits; counts saturate at the end of 32 bits.

The windows are those that the `FaultySnoozeCache` keeps; the rule `off` is the
`DisabledKeysFilter`.
-/
namespace ValidatorAlarm

/-- The alarms of one key in its current window. -/
structure SnoozeWindow where
  count : Nat
  started : Int
deriving DecidableEq, Repr

namespace SnoozeWindow

def latest : Int := Nat.pow 2 63 - 1

def maxCount : Nat := Nat.pow 2 32 - 1

/-- The end of the window, `length` seconds after its start. -/
def expiry (w : SnoozeWindow) (length : Nat) : Int := min latest (w.started + min length latest.toNat)

/-- The window after a look at the clock: a new one if the old one is over. -/
def renew (w : SnoozeWindow) (length : Nat) (now : Int) : SnoozeWindow :=
  if w.expiry length ≤ now then ⟨0, now⟩ else w

/-- The window with one more alarm. -/
def record (w : SnoozeWindow) : SnoozeWindow := { w with count := min maxCount (w.count + 1) }

end SnoozeWindow

/-- Which alarms are let through. -/
inductive SnoozeRule where
  /-- All of them. -/
  | off
  /-- At most `limit` of each key in a window of `length` seconds. -/
  | limited (limit length : Nat)
deriving DecidableEq, Repr

/-- The rule that is configured by a switch, a limit and a length. -/
def SnoozeRule.ofSettings (enabled : Bool) (limit length : Nat) : SnoozeRule :=
  if enabled then .limited limit length else .off

/-- The windows of the keys that have raised an alarm. -/
abbrev Snooze := Table SnoozeWindow

namespace Snooze

/-- The window of a key as an alarm at time `now` finds it. -/
def current (snooze : Snooze) (length : Nat) (now : Int) (key : String) : SnoozeWindow :=
  ((snooze.get? key).getD ⟨0, now⟩).renew length now

/-- Is the alarm of a key let through, and what is remembered of it. -/
def ask (rule : SnoozeRule) (now : Int) (key : String) (snooze : Snooze) : Snooze × Bool :=
  match rule with
  | .off => (snooze, true)
  | .limited limit length =>
    let window := snooze.current length now key
    (snooze.put key window.record, window.count < limit)

/-- The answers to some alarms, one after the other. -/
def answers (rule : SnoozeRule) : Snooze → List (Int × String) → List Bool
  | _, [] => []
  | snooze, (now, key) :: rest =>
    let (snooze, answer) := snooze.ask rule now key
    answer :: answers rule snooze rest

end Snooze

end ValidatorAlarm
