import ValidatorAlarm.Settings.Reading
import ValidatorAlarm.Snooze

/-!
# General settings

What `GeneralConfig` holds: the name of the application, its self-checks, the snooze, and how long a
log file is written.  Whatever is not set is off, zero or empty.
-/
namespace ValidatorAlarm

/-- When the application reports about itself. -/
structure SelfCheckSettings where
  enabled : Bool
  day : String
  hour : Nat
  minute : Nat
  /-- The seconds between two looks at the clock. -/
  interval : Nat
deriving DecidableEq, Repr

namespace SelfCheckSettings

def unset : SelfCheckSettings := ⟨false, "", 0, 0, 0⟩

def read? (place : Setting) : Option SelfCheckSettings := do
  match ← place.record? ["enabled", "day_of_week", "hour", "minute", "polling_interval_in_sec"] with
  | [enabled, day, hour, minute, interval] =>
    return {
      enabled := ← Setting.field? Setting.bool? false enabled
      day := ← Setting.field? Setting.string? "" day
      hour := ← Setting.field? (Setting.natural? 32) 0 hour
      minute := ← Setting.field? (Setting.natural? 32) 0 minute
      interval := ← Setting.field? Setting.long? 0 interval }
  | _ => none

end SelfCheckSettings

/-- How many alarms of one key are let through, and in which time. -/
structure SnoozeSettings where
  enabled : Bool
  limit : Nat
  /-- The length of the window in seconds. -/
  length : Nat
deriving DecidableEq, Repr

namespace SnoozeSettings

def unset : SnoozeSettings := ⟨false, 0, 0⟩

def read? (place : Setting) : Option SnoozeSettings := do
  match ← place.record? ["enabled", "num_notifications_for_each_faulty_key", "snooze_time_in_sec"]
      with
  | [enabled, limit, length] =>
    return {
      enabled := ← Setting.field? Setting.bool? false enabled
      limit := ← Setting.field? (Setting.natural? 32) 0 limit
      length := ← Setting.field? Setting.long? 0 length }
  | _ => none

def rule (s : SnoozeSettings) : SnoozeRule := .ofSettings s.enabled s.limit s.length

end SnoozeSettings

/-- How long one log file is written.  Files do not end because of their size, though one can be
set. -/
structure LogSettings where
  seconds : Nat
  megabytes : Nat
deriving DecidableEq, Repr

namespace LogSettings

def unset : LogSettings := ⟨0, 0⟩

def read? (place : Setting) : Option LogSettings := do
  match ← place.record? ["log_file_life_span_in_sec", "log_file_life_span_in_mb"] with
  | [seconds, megabytes] =>
    return {
      seconds := ← Setting.field? Setting.long? 0 seconds
      megabytes := ← Setting.field? Setting.long? 0 megabytes }
  | _ => none

end LogSettings

structure GeneralSettings where
  /-- The name of the application. -/
  name : String
  selfChecks : SelfCheckSettings
  snooze : SnoozeSettings
  logs : LogSettings
deriving DecidableEq, Repr

namespace GeneralSettings

def unset : GeneralSettings := ⟨"", .unset, .unset, .unset⟩

def read? (place : Setting) : Option GeneralSettings := do
  match ← place.record? ["application_name", "system_self_check", "alarm_snooze", "logs"] with
  | [name, selfChecks, snooze, logs] =>
    return {
      name := ← Setting.field? Setting.string? "" name
      selfChecks := ← Setting.field? SelfCheckSettings.read? .unset selfChecks
      snooze := ← Setting.field? SnoozeSettings.read? .unset snooze
      logs := ← Setting.field? LogSettings.read? .unset logs }
  | _ => none

end GeneralSettings

end ValidatorAlarm
