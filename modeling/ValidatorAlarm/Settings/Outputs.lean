import ValidatorAlarm.Settings.Reading

/-!
# Settings of the outputs

Which channels messages go through, and what is done about channels that fail
(`OutputNotifiersConfig`).
-/
namespace ValidatorAlarm

/-- A channel that is reached by requests. -/
structure EndpointSettings where
  enabled : Bool
  url : String
deriving DecidableEq, Repr

namespace EndpointSettings

def unset : EndpointSettings := ⟨false, ""⟩

def read? (place : Setting) : Option EndpointSettings := do
  match ← place.record? ["enabled", "url"] with
  | [enabled, url] =>
    return {
      enabled := ← Setting.field? Setting.bool? false enabled
      url := ← Setting.field? Setting.string? "" url }
  | _ => none

end EndpointSettings

/-- The channel that sends mail. -/
structure MailSettings where
  enabled : Bool
  recipient : String
  port : Nat
  host : String
deriving DecidableEq, Repr

namespace MailSettings

def unset : MailSettings := ⟨false, "", 0, ""⟩

def read? (place : Setting) : Option MailSettings := do
  match ← place.record? ["enabled", "to", "smtp_port", "smtp_host"] with
  | [enabled, recipient, port, host] =>
    return {
      enabled := ← Setting.field? Setting.bool? false enabled
      recipient := ← Setting.field? Setting.string? "" recipient
      port := ← Setting.field? (Setting.natural? 16) 0 port
      host := ← Setting.field? Setting.string? "" host }
  | _ => none

end MailSettings

structure OutputSettings where
  retries : Nat
  /-- The seconds between two retries. -/
  retryDelay : Nat
  pushover : EndpointSettings
  telegram : EndpointSettings
  slack : EndpointSettings
  mail : MailSettings
deriving DecidableEq, Repr

namespace OutputSettings

def unset : OutputSettings := ⟨0, 0, .unset, .unset, .unset, .unset⟩

def read? (place : Setting) : Option OutputSettings := do
  match ← place.record?
      ["num_retries", "seconds_between_retries", "pushover", "telegram", "slack", "smtp"] with
  | [retries, retryDelay, pushover, telegram, slack, mail] =>
    return {
      retries := ← Setting.field? (Setting.natural? 32) 0 retries
      retryDelay := ← Setting.field? Setting.long? 0 retryDelay
      pushover := ← Setting.field? EndpointSettings.read? .unset pushover
      telegram := ← Setting.field? EndpointSettings.read? .unset telegram
      slack := ← Setting.field? EndpointSettings.read? .unset slack
      mail := ← Setting.field? MailSettings.read? .unset mail }
  | _ => none

end OutputSettings

end ValidatorAlarm
