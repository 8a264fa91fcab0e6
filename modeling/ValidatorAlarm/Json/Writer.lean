/-!
# Writing JSON

Request bodies and stored messages are compact: no white space, fields in the order given.  In a
text only the quote, the backslash and the controls below the space are escaped.
-/
namespace ValidatorAlarm.Json

def escapeChar (c : Char) : List Char :=
  if c = '"' then ['\\', '"']
  else if c = '\\' then ['\\', '\\']
  else if c = '\x08' then ['\\', 'b']
  else if c = '\t' then ['\\', 't']
  else if c = '\n' then ['\\', 'n']
  else if c = '\x0c' then ['\\', 'f']
  else if c = '\r' then ['\\', 'r']
  else if c.toNat < 32 then
    ['\\', 'u', '0', '0', Nat.digitChar (c.toNat / 16), Nat.digitChar (c.toNat % 16)]
  else [c]

def quote (s : String) : List Char := '"' :: s.toList.flatMap escapeChar ++ ['"']

/-- What a written field can hold. -/
inductive Field where
  | text (value : String)
  | number (value : Nat)
  | texts (values : List String)

def Field.write : Field → List Char
  | .text s => quote s
  | .number n => Nat.toDigits 10 n
  | .texts values => '[' :: List.intercalate [','] (values.map quote) ++ [']']

def writeObject (fields : List (String × Field)) : String :=
  String.ofList ('\x7b' ::
    List.intercalate [','] (fields.map fun field => quote field.1 ++ ':' :: field.2.write) ++
    ['\x7d'])

end ValidatorAlarm.Json
