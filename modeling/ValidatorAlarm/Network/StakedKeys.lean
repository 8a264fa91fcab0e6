import ValidatorAlarm.Duration
import ValidatorAlarm.Json.Record
import ValidatorAlarm.Json.Writer
import ValidatorAlarm.Site
import ValidatorAlarm.Text.Base64

/-!
# The staked keys of accounts

A system contract of the network knows which keys an account has registered, and in which state each
of them is.  The `BlsKeysFetcher` asks it about one account at a time, with a pause after each.  Its
reply is a flat list of byte strings, in which keys and states alternate; the keys in the state
`staked` are wanted.

The query is all or nothing: the first bad reply ends it, and so does a cancellation.
-/
namespace ValidatorAlarm.Network

def contractEndpoint : String := "vm-values/query"

/-- The address of the contract; a query names it as the asking party as well. -/
def contractAddress : String := "erd1qqqqqqqqqqqqqqqpqqqqqqqqqqqqqqqqqqqqqqqqqqqqqqqplllst77y4l"

/-- The query about an account with the given address. -/
def stakedKeysQuery (hex : String) : String :=
  Json.writeObject [("scAddress", .text contractAddress), ("funcName", .text "getBlsKeysStatus"),
    ("caller", .text contractAddress), ("args", .texts [hex])]

/-- The bytes of an item; `null` is an empty byte string. -/
def itemBytes? : Option String → Option (List UInt8)
  | none => some []
  | some text => Text.Base64.decode? text.toList

/-- The only field of a record, which may be missing; it is not `null`. -/
def innerField? {α : Type} (name : String) (read : Json → Option α) (missing : α) (value : Json) :
    Option α := do
  match ← Json.record? [name] value with
  | [field] => Json.field? read missing field
  | _ => none

/-- The items of a reply, before they are decoded. -/
def returned? (body : List UInt8) : Option (List (Option String)) := do
  let items ← innerField? "data" (innerField? "data" (innerField? "returnData"
    (Json.nullable? (Json.list? (Json.nullable? Json.string?))) none) none) none
    (← Json.ofBytes? body)
  return items.getD []

/-- The byte strings of a reply. -/
def readItems (body : List UInt8) : Except Fault (List (List UInt8)) :=
  match (returned? body).bind (·.mapM itemBytes?) with
  | none => .error .unreadable
  | some items => .ok items

/-- Each item at an even position with the one after it; a last one without partner is left out. -/
def inPairs {α : Type} : List α → List (α × α)
  | a :: b :: rest => (a, b) :: inPairs rest
  | _ => []

def stakedState : List UInt8 := Text.utf8 "staked"

/-- The text of the key in a pair of key and state, if the key is one and its state is wanted. -/
def stakedKey? (pair : List UInt8 × List UInt8) : Option String :=
  if pair.1.length = Roster.keyLength && pair.2 = stakedState then some (Text.Hex.encode pair.1)
  else none

/-- Notes the pairs whose first item is no key. -/
def noteMisfits : List (List UInt8 × List UInt8) → Work Unit
  | [] => pure ()
  | (key, _) :: rest => do
    if key.length ≠ Roster.keyLength then
      Work.note (.badKey key.length)
    noteMisfits rest

def stakedKeysOf (items : List (List UInt8)) : List String := (inPairs items).filterMap stakedKey?

def askAccount (token : Token) (hex : String) : Work (Except Fault (List String)) := do
  let result ← Work.exchange (some token) (.post none contractEndpoint (stakedKeysQuery hex))
    Site.contractReply
  match (result.bind Response.successful).bind fun response => readItems response.body with
  | .error fault => return .error fault
  | .ok items =>
    noteMisfits (inPairs items)
    return .ok (stakedKeysOf items)

/-- Asks about some accounts, one after the other; one without an address is passed over. -/
def stakedKeys (token : Token) (delay : Duration) : List Account → Work (Except Fault (List String))
  | [] => pure (.ok [])
  | account :: rest =>
    if account.hex = "" then stakedKeys token delay rest
    else do
      match ← askAccount token account.hex with
      | .error fault => return .error fault
      | .ok keys =>
        if ← Task.pause delay.milliseconds (some token) then
          return (← stakedKeys token delay rest).map (keys ++ ·)
        else return .error .cancelled

end ValidatorAlarm.Network
