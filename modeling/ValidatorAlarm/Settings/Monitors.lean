import ValidatorAlarm.Settings.Reading

/-!
# Settings of the monitors

The networks that are watched, each with a monitor of its own (`BlsKeysMonitorConfig`).
-/
namespace ValidatorAlarm

structure MonitorSettings where
  name : String
  /-- The largest tolerated drop of a rating. -/
  tolerance : Double
  /-- Where the network is asked. -/
  server : String
  /-- Where messages link to. -/
  explorer : String
  /-- The seconds between two cycles. -/
  interval : Nat
  /-- The path of the roster. -/
  roster : String
deriving DecidableEq, Repr

namespace MonitorSettings

def read? (place : Setting) : Option MonitorSettings := do
  match ← place.record? ["name", "alarm_delta_rating_drop", "api_url", "explorer_url",
      "polling_interval_in_seconds", "list_file"] with
  | [name, tolerance, server, explorer, interval, roster] =>
    return {
      name := ← Setting.field? Setting.string? "" name
      tolerance := ← Setting.field? Setting.real? .zero tolerance
      server := ← Setting.field? Setting.string? "" server
      explorer := ← Setting.field? Setting.string? "" explorer
      interval := ← Setting.field? Setting.long? 0 interval
      roster := ← Setting.field? Setting.string? "" roster }
  | _ => none

end MonitorSettings

end ValidatorAlarm
