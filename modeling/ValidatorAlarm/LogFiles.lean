/-!
# Log files

A log file is written for a configured time, then a new one is begun (`rotation_for`).  Files change
with the minute, the hour or the day: the longest of these that is not longer than the configured
time is taken, and for a time of zero there is only one file.
-/
namespace ValidatorAlarm

inductive Rotation where
  | never
  | minutely
  | hourly
  | daily
deriving DecidableEq, Repr

namespace Rotation

/-- The rotation for files that are written for so many seconds. -/
def ofSeconds (seconds : Nat) : Rotation :=
  if seconds = 0 then .never
  else if seconds < 3600 then .minutely
  else if seconds < 86400 then .hourly
  else .daily

def name : Rotation → String
  | .never => "never"
  | .minutely => "minutely"
  | .hourly => "hourly"
  | .daily => "daily"

end Rotation

end ValidatorAlarm
