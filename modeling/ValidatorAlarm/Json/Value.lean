import ValidatorAlarm.Json.Token

/-!
# JSON values

The second half of reading JSON: tokens become a value.  Object fields keep their order and their
repetitions, so that a reader can refuse a field that is given twice.
-/
namespace ValidatorAlarm

inductive Json where
  | null
  | bool (value : Bool)
  | number (value : Json.Literal)
  | text (raw : Json.Raw)
  | array (items : List Json)
  | object (fields : List (Json.Raw × Json))

namespace Json

mutual

/-- A value at the front of the tokens.  The fuel bounds the tokens that may be looked at. -/
def valueFrom : Nat → List Token → Option (Json × List Token)
  | 0, _ => none
  | _ + 1, .null :: rest => some (.null, rest)
  | _ + 1, .bool b :: rest => some (.bool b, rest)
  | _ + 1, .number n :: rest => some (.number n, rest)
  | _ + 1, .text raw :: rest => some (.text raw, rest)
  | _ + 1, .openBracket :: .closeBracket :: rest => some (.array [], rest)
  | fuel + 1, .openBracket :: rest => (itemsFrom fuel rest).map fun (items, rest) => (.array items, rest)
  | _ + 1, .openBrace :: .closeBrace :: rest => some (.object [], rest)
  | fuel + 1, .openBrace :: rest =>
    (fieldsFrom fuel rest).map fun (fields, rest) => (.object fields, rest)
  | _ + 1, _ => none

/-- At least one item, up to and with the closing bracket. -/
def itemsFrom : Nat → List Token → Option (List Json × List Token)
  | 0, _ => none
  | fuel + 1, tokens =>
    match valueFrom fuel tokens with
    | some (item, .comma :: rest) => (itemsFrom fuel rest).map fun (items, rest) => (item :: items, rest)
    | some (item, .closeBracket :: rest) => some ([item], rest)
    | _ => none

/-- At least one field, up to and with the closing brace. -/
def fieldsFrom : Nat → List Token → Option (List (Raw × Json) × List Token)
  | 0, _ => none
  | fuel + 1, .text name :: .colon :: tokens =>
    match valueFrom fuel tokens with
    | some (value, .comma :: rest) =>
      (fieldsFrom fuel rest).map fun (fields, rest) => ((name, value) :: fields, rest)
    | some (value, .closeBrace :: rest) => some ([(name, value)], rest)
    | _ => none
  | _ + 1, _ => none

end

/-- The value that the tokens write, all of them. -/
def ofTokens? (tokens : List Token) : Option Json :=
  match valueFrom (tokens.length + 1) tokens with
  | some (value, []) => some value
  | _ => none

/-- The value written by some bytes. -/
def ofBytes? (bytes : List UInt8) : Option Json := do
  ofTokens? (← tokens? (Text.readUtf8 bytes))

/-- The value written by a text. -/
def ofText? (s : String) : Option Json := do
  ofTokens? (← tokens? (s.toList.map some))

end Json

end ValidatorAlarm
