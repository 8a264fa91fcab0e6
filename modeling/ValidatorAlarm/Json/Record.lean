import ValidatorAlarm.Json.Number
import ValidatorAlarm.Json.Value

/-!
# Records written in JSON

A record is written as an object, its fields in any order, or as an array with the values in the
declared order.  An object may hold fields that are not declared, and they are not looked at; a
declared field given twice, or an array that is too long, is refused.
-/
namespace ValidatorAlarm.Json

/-- Puts the values of the declared fields into their places; `none` if one is given twice or a
field name cannot be read. -/
def placeFields (declared : List String) :
    List (Raw × Json) → List (Option Json) → Option (List (Option Json))
  | [], places => some places
  | (raw, value) :: rest, places => do
    let name ← raw.read?
    match declared.idxOf? name with
    | none => placeFields declared rest places
    | some i =>
      match places[i]? with
      | some none => placeFields declared rest (places.set i (some value))
      | _ => none

/-- The values of the declared fields of a record, in the declared order. -/
def record? (declared : List String) : Json → Option (List (Option Json))
  | .object fields => placeFields declared fields (declared.map fun _ => none)
  | .array items =>
    if items.length ≤ declared.length then
      some (items.map some ++ List.replicate (declared.length - items.length) none)
    else none
  | _ => none

def string? : Json → Option String
  | .text raw => raw.read?
  | _ => none

/-- A value or nothing, where nothing is written `null`. -/
def nullable? {α : Type} (read : Json → Option α) : Json → Option (Option α)
  | .null => some none
  | value => (read value).map some

def list? {α : Type} (read : Json → Option α) : Json → Option (List α)
  | .array items => items.mapM read
  | _ => none

/-- A number of 32 bits. -/
def single? : Json → Option Single
  | .number n => n.single?
  | _ => none

/-- A signed whole number of 64 bits, written without point and exponent.  Minus zero is not one. -/
def integer? : Json → Option Int
  | .number n => n.integer?
  | _ => none

/-- A field that may be missing, in which case it has the given value. -/
def field? {α : Type} (read : Json → Option α) (missing : α) : Option Json → Option α
  | none => some missing
  | some value => read value

/-- A field that must be there. -/
def required? {α : Type} (read : Json → Option α) : Option Json → Option α
  | none => none
  | some value => read value

end ValidatorAlarm.Json
