import ValidatorAlarm.Json.Record
import ValidatorAlarm.Site

/-!
# The ratings of the network

The `ValidatorStatisticsQuerier` makes one request, which returns the ratings of every validator as
a record of records: the ratings stand in the field `statistics` of the field `data`.  A rating that
is not written is zero, and of equal keys the last counts.  A response without ratings is a fault,
never an empty snapshot.
-/
namespace ValidatorAlarm.Network

/-- Where the ratings are asked for. -/
def ratingsEndpoint : String := "validator/statistics"

def rating? (value : Json) : Option Rating := do
  match ← Json.record? ["tempRating", "rating"] value with
  | [temporary, settled] =>
    let temporary ← Json.field? Json.single? .zero temporary
    let settled ← Json.field? Json.single? .zero settled
    some ⟨temporary, settled⟩
  | _ => none

def named? (field : Json.Raw × Json) : Option (String × Rating) := do
  let key ← field.1.read?
  let rating ← rating? field.2
  some (key, rating)

def snapshot? : Json → Option Snapshot
  | .object fields => (fields.mapM named?).map Table.ofList
  | _ => none

/-- The only field of a record, which may be missing or `null`. -/
def onlyField? {α : Type} (name : String) (read : Json → Option α) (value : Json) :
    Option (Option α) := do
  match ← Json.record? [name] value with
  | [field] => Json.field? (Json.nullable? read) none field
  | _ => none

/-- What a response says: nothing legible, no ratings, or the ratings. -/
def readRatings (body : List UInt8) : Except Fault Snapshot :=
  match (Json.ofBytes? body).bind (onlyField? "data" (onlyField? "statistics" snapshot?)) with
  | none => .error .unreadable
  | some none => .error .noRatings
  | some (some none) => .error .noRatings
  | some (some (some snapshot)) => .ok snapshot

def ratings (token : Token) : Work (Except Fault Snapshot) := do
  let result ← Work.exchange (some token) (.get ratingsEndpoint) Site.statisticsReply
  return (result.bind Response.successful).bind fun response => readRatings response.body

end ValidatorAlarm.Network
