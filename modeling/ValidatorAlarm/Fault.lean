import ValidatorAlarm.Duration
import ValidatorAlarm.Identity.Roster
import ValidatorAlarm.Number.Decimal

/-!
# Faults

Everything that can go wrong (`MonitorError`, `AdapterError`), while the monitoring is put together
and while it runs, with the text that tells an operator about it.
-/
namespace ValidatorAlarm

inductive Fault where
  /-- A request could not be made or was broken off. -/
  | request (reason : Option String)
  /-- A server answered with a status outside 200 to 299. -/
  | status (code : Nat)
  /-- A response could not be read. -/
  | unreadable
  /-- A response could be read but holds no ratings. -/
  | noRatings
  /-- The work was cancelled by whoever had asked for it. -/
  | cancelled
  /-- No connection could be made. -/
  | connection (reason : Option String)
  /-- The mail server did not take the mail. -/
  | mail (reason : Option String)
  /-- No answer came in time. -/
  | timeout
  /-- A line of a roster names no identity. -/
  | roster (line : Nat) (flaw : Roster.Flaw)
  /-- A file cannot be read. -/
  | file (path : String)
  | invalidTolerance (value : Double)
  | invalidRetryDelay (value least : Duration)
  | invalidWeekday (text : String)
  | invalidHour (value : Nat)
  | invalidMinute (value : Nat)
  | invalidInterval (value least : Duration)
  /-- Something was to be built without one of its parts. -/
  | missingPart (part : String)
  /-- So many channels still failed after every retry. -/
  | undelivered (channels : Nat)
  /-- The loop of a poller can be started once only. -/
  | alreadyStarted
deriving DecidableEq, Repr

namespace Fault

/-- The text of a fault; none where the details are those of a system or a library. -/
def message? : Fault → Option String
  | .request reason => reason.map fun r => s!"HTTP request failed: {r}"
  | .status code => some s!"HTTP return code is not OK, but {code}"
  | .unreadable => none
  | .noRatings => some "invalid response, nil statistics map"
  | .cancelled => some "context closing"
  | .connection reason => reason.map fun r => s!"Connection failed: {r}"
  | .mail reason => reason.map fun r => s!"SMTP delivery failed: {r}"
  | .timeout => some "Request timed out"
  | .roster line flaw => flaw.message?.map fun m => s!"{m} on line {line}"
  | .file _ => none
  | .invalidTolerance value =>
    some s!"invalid alarm delta rating drop {value.plain}, expected a value in [0, 100]"
  | .invalidRetryDelay value least =>
    some s!"invalid time between retries {value.text}, minimum is {least.text}"
  | .invalidWeekday text => some s!"invalid week day {Text.Quoted.text text}"
  | .invalidHour value => some s!"invalid hour {value}, expected a value in [0, 23]"
  | .invalidMinute value => some s!"invalid minute {value}, expected a value in [0, 59]"
  | .invalidInterval value least =>
    some s!"invalid interval {value.text}, minimum is {least.text}"
  | .missingPart part => some s!"missing component: {part}"
  | .undelivered channels =>
    some s!"notification sending problems: num notifiers with problems: {channels}"
  | .alreadyStarted => some "processing loop already started"

end Fault

end ValidatorAlarm
