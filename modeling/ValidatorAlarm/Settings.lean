import ValidatorAlarm.Settings.Credentials
import ValidatorAlarm.Settings.General
import ValidatorAlarm.Settings.Monitors
import ValidatorAlarm.Settings.Outputs
import ValidatorAlarm.Settings.Path
import ValidatorAlarm.Toml.Document

/-!
# Settings

Settings (`AllConfigs`) come from two files, the main one and the one with the credentials.
Environment variables overrule them: the name of a variable is the name of the file's family and the
path to the setting, with two underscores between them and wherever the path has a point.  Letters
of variable names count as small ones.
-/
namespace ValidatorAlarm

/-- A file with settings. -/
structure SettingsFile where
  path : String
  /-- What it says; nothing if there is no such file. -/
  contents : Option String
  /-- What the names of the variables begin with that overrule it. -/
  family : String
deriving DecidableEq, Repr

/-- Why settings are not known. -/
inductive SettingsFault where
  /-- The file is missing or no TOML document. -/
  | unreadable (path : String)
  /-- A setting has a value of the wrong kind. -/
  | misfit (path : String)
deriving DecidableEq, Repr

def SettingsFault.message : SettingsFault → String
  | .unreadable path => "reading " ++ path
  | .misfit path => "decoding " ++ path

namespace SettingsFile

/-- A name with points in place of double underscores. -/
def pointed : List Char → List Char
  | '_' :: '_' :: rest => '.' :: pointed rest
  | c :: rest => c :: pointed rest
  | [] => []

/-- The path that a variable is meant for, if it belongs to the family. -/
def variablePath? (family name : String) : Option String :=
  let start := (Text.lower family).toList ++ ['_', '_']
  let name := (Text.lower name).toList
  if start.isPrefixOf name then some (String.ofList (pointed (name.drop start.length))) else none

/-- The settings in the variables of a family. -/
def overrides (family : String) (environment : List (String × String)) : List (String × Setting) :=
  environment.filterMap fun (name, value) =>
    (variablePath? family name).map fun path => (path, Setting.text value)

/-- All settings of a file and of the variables that overrule it. -/
def settings? (file : SettingsFile) (environment : List (String × String)) : Option Setting := do
  let document ← Toml.document? (← file.contents)
  let written := (Setting.table []).writeAll document.entries
  return written.writeAll (overrides file.family environment)

def load {α : Type} (read? : Setting → Option α) (file : SettingsFile)
    (environment : List (String × String)) : Except SettingsFault α :=
  match file.settings? environment with
  | none => .error (.unreadable file.path)
  | some settings =>
    match read? settings with
    | none => .error (.misfit file.path)
    | some value => .ok value

end SettingsFile

structure Settings where
  general : GeneralSettings
  outputs : OutputSettings
  monitors : List MonitorSettings
  credentials : Credentials
deriving DecidableEq, Repr

namespace Settings

/-- Reads the main file: all but the credentials. -/
def readMain? (place : Setting) :
    Option (GeneralSettings × OutputSettings × List MonitorSettings) := do
  match ← place.record? ["general", "output_notifiers", "bls_keys_monitoring"] with
  | [general, outputs, monitors] =>
    return (← Setting.field? GeneralSettings.read? .unset general,
      ← Setting.field? OutputSettings.read? .unset outputs,
      ← Setting.field? (Setting.list? MonitorSettings.read?) [] monitors)
  | _ => none

def load (main credentials : SettingsFile) (environment : List (String × String)) :
    Except SettingsFault Settings := do
  let (general, outputs, monitors) ← main.load readMain? environment
  let credentials ← credentials.load Credentials.read? environment
  return ⟨general, outputs, monitors, credentials⟩

end Settings

end ValidatorAlarm
