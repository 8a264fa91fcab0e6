import ValidatorAlarm.Text.Bytes

/-!
# Form encoding

A list of named values as one query text.  Letters, digits and `*`, `-`, `.`, `_` stand for
themselves, a space becomes `+`, every other byte becomes `%` and two digits.  `encode` writes the
pairs, `decode` reads them back.
-/
namespace ValidatorAlarm.Text.Form

/-- The capital hexadecimal digit of a value below 16. -/
def capitalDigit (n : Nat) : Char := if n < 10 then Char.ofNat (48 + n) else Char.ofNat (55 + n)

/-- A byte as `%` and two capital digits. -/
def percent (b : UInt8) : List Char :=
  ['%', capitalDigit (b.toNat / 16), capitalDigit (b.toNat % 16)]

/-- Does the byte stand for itself? -/
def isPlain (b : UInt8) : Bool :=
  let n := b.toNat
  (48 ≤ n && n ≤ 57) || (65 ≤ n && n ≤ 90) || (97 ≤ n && n ≤ 122) ||
    n = 42 || n = 45 || n = 46 || n = 95

/-- One byte of a name or value. -/
def encodeByte (b : UInt8) : List Char :=
  if isPlain b then [Char.ofNat b.toNat] else if b = 32 then ['+'] else percent b

def encodeText (s : String) : List Char := (utf8 s).flatMap encodeByte

def encodePair (pair : String × String) : List Char :=
  encodeText pair.1 ++ '=' :: encodeText pair.2

def encode (pairs : List (String × String)) : String :=
  String.ofList (List.intercalate ['&'] (pairs.map encodePair))

/-- The value of a hexadecimal digit. -/
def digitValue? (c : Char) : Option Nat :=
  let n := c.toNat
  if 48 ≤ n && n ≤ 57 then some (n - 48)
  else if 65 ≤ n && n ≤ 70 then some (n - 55)
  else if 97 ≤ n && n ≤ 102 then some (n - 87)
  else none

/-- The bytes that an encoded name or value stands for.  A `%` without two digits stands for
itself. -/
def decodeBytes : List Char → List UInt8
  | [] => []
  | '+' :: rest => 32 :: decodeBytes rest
  | '%' :: h :: l :: rest =>
    match digitValue? h, digitValue? l with
    | some a, some b => UInt8.ofNat (16 * a + b) :: decodeBytes rest
    | _, _ => 37 :: decodeBytes (h :: l :: rest)
  | c :: rest => String.utf8EncodeChar c ++ decodeBytes rest

/-- The parts of a text between separators. -/
def splitAt (separator : Char) : List Char → List (List Char)
  | [] => [[]]
  | c :: rest =>
    if c = separator then [] :: splitAt separator rest
    else match splitAt separator rest with
      | [] => [[c]]
      | part :: parts => (c :: part) :: parts

/-- The pair written in one part: its name ends at the first `=`. -/
def decodePair? (part : List Char) : Option (String × String) := do
  let name ← ofUtf8? (decodeBytes (part.takeWhile (· != '=')))
  let value ← ofUtf8? (decodeBytes ((part.dropWhile (· != '=')).drop 1))
  some (name, value)

/-- The pairs of a query whose texts are all UTF-8.  Empty parts count for nothing. -/
def decode? (query : String) : Option (List (String × String)) :=
  ((splitAt '&' query.toList).filter (!·.isEmpty)).mapM decodePair?

end ValidatorAlarm.Text.Form
