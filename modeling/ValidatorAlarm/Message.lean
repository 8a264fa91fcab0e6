import ValidatorAlarm.Json.Record
import ValidatorAlarm.Json.Writer

/-!
# Messages

What the channels are asked to tell, an `OutputMessage`: how bad it is, what it is about, and what
happened.  A message can be stored as a JSON object and read back; reading insists on every field
and on the exact words for the severity.
-/
namespace ValidatorAlarm

/-- How bad something is, from harmless to bad. -/
inductive Severity where
  | info
  | warning
  | error
deriving DecidableEq, Repr

namespace Severity

/-- Position in the order of badness. -/
def rank : Severity → Nat
  | .info => 0
  | .warning => 1
  | .error => 2

def worse (a b : Severity) : Severity := if a.rank < b.rank then b else a

/-- Short label, as the log levels are written. -/
def label : Severity → String
  | .info => "info"
  | .warning => "warn"
  | .error => "error"

def word : Severity → String
  | .info => "info"
  | .warning => "warning"
  | .error => "error"

def ofWord? (word : String) : Option Severity :=
  if word = "info" then some .info
  else if word = "warning" then some .warning
  else if word = "error" then some .error
  else none

/-- Reads a stored severity: its word, or an object with the word as only field and nothing in it. -/
def ofJson? : Json → Option Severity
  | .text raw => raw.read?.bind ofWord?
  | .object [(raw, .null)] => raw.read?.bind ofWord?
  | _ => none

end Severity

structure Message where
  severity : Severity
  category : String
  identityKey : String
  shortIdentityKey : String
  identityUrl : String
  sourceName : String
  detail : String
deriving DecidableEq, Repr

namespace Message

/-- A message that says nothing yet. -/
def blank (severity : Severity) (sourceName : String) : Message :=
  ⟨severity, "", "", "", "", sourceName, ""⟩

def fieldNames : List String :=
  ["severity", "category", "identity_key", "short_identity_key", "identity_url", "source_name",
    "detail"]

def toText (m : Message) : String :=
  Json.writeObject (fieldNames.zip ([m.severity.word, m.category, m.identityKey,
    m.shortIdentityKey, m.identityUrl, m.sourceName, m.detail].map Json.Field.text))

def ofFields? : List (Option Json) → Option Message
  | [severity, category, key, shortKey, url, source, detail] => do
    some {
      severity := ← Json.required? Severity.ofJson? severity
      category := ← Json.required? Json.string? category
      identityKey := ← Json.required? Json.string? key
      shortIdentityKey := ← Json.required? Json.string? shortKey
      identityUrl := ← Json.required? Json.string? url
      sourceName := ← Json.required? Json.string? source
      detail := ← Json.required? Json.string? detail }
  | _ => none

def ofText? (text : String) : Option Message := do
  ofFields? (← Json.record? fieldNames (← Json.ofText? text))

end Message

/-- Longest key that is shown whole. -/
def shortKeyLength : Nat := 15

/-- A key as it is shown to people: its first and last six characters around an ellipsis, or the
whole key if that is hardly longer. -/
def shortKey (key : String) : String :=
  let cs := key.toList
  if cs.length ≤ shortKeyLength then key
  else String.ofList (cs.take 6 ++ ['.', '.', '.'] ++ cs.drop (cs.length - 6))

end ValidatorAlarm
