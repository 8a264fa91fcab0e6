import ValidatorAlarm.Calendar.Instant
import ValidatorAlarm.Fault

/-!
# Target minutes

A self-check is due in one minute of every day, or of one day of the week (`TriggerDay`).  A
`Trigger` watches the clock: the first look at it within a target minute fires, and the trigger is
armed again by the first look outside of one.
-/
namespace ValidatorAlarm

/-- The days on which something is due. -/
inductive TargetDay where
  | every
  | on (day : Weekday)
deriving DecidableEq, Repr

namespace TargetDay

/-- Reads a day: its English name or `every day`, in letters of either case. -/
def parse (text : String) : Except Fault TargetDay :=
  let small := String.ofList (text.toList.map Char.toLower)
  if small = "every day" then .ok .every
  else match Weekday.all.find? (·.name = small) with
    | some day => .ok (.on day)
    | none => .error (.invalidWeekday text)

def text : TargetDay → String
  | .every => "every day"
  | .on day => day.short

/-- Is something due on this day of the week? -/
def includes : TargetDay → Weekday → Bool
  | .every, _ => true
  | .on day, weekday => day = weekday

end TargetDay

/-- The minute in which something is due. -/
structure Target where
  day : TargetDay
  hour : Nat
  minute : Nat
deriving DecidableEq, Repr

namespace Target

/-- A target with an hour below 24 and a minute below 60. -/
def make (day : TargetDay) (hour minute : Nat) : Except Fault Target :=
  if hour > 23 then .error (.invalidHour hour)
  else if minute > 59 then .error (.invalidMinute minute)
  else .ok ⟨day, hour, minute⟩

def includes (t : Target) (i : Instant) : Bool :=
  t.day.includes i.weekday && i.hour = t.hour && i.minute = t.minute

end Target

/-- Whether the next look at the clock within a target minute fires. -/
structure Trigger where
  armed : Bool
deriving DecidableEq, Repr

namespace Trigger

/-- A trigger that has not looked at the clock yet. -/
def fresh : Trigger := ⟨true⟩

/-- A look at the clock: the trigger afterwards, and whether it fires. -/
def look (target : Target) (now : Instant) (t : Trigger) : Trigger × Bool :=
  if target.includes now then (⟨false⟩, t.armed) else (⟨true⟩, false)

/-- The looks that fire, in a run of looks. -/
def fires (target : Target) : Trigger → List Instant → List Instant
  | _, [] => []
  | t, now :: rest =>
    let (t, fired) := t.look target now
    if fired then now :: fires target t rest else fires target t rest

end Trigger

end ValidatorAlarm
