import ValidatorAlarm.Text.Form

/-!
# Network addresses

A host can be given by its address.  An IPv4 address has up to four numbers between points, each in
base 8, 10 or 16; the last number fills all the bytes that are left.  An IPv6 address has eight
groups of hexadecimal digits, the last two of which may be written as an IPv4 address; `::` stands
once for a run of zero groups.
-/
namespace ValidatorAlarm.Url

open Text.Form (splitAt digitValue?)

/-- The value of digits in a base, if all of them are digits of it. -/
def numeral? (base : Nat) (digits : List Char) : Option Nat :=
  digits.foldlM (fun n c => match digitValue? c with
    | some d => if d < base then some (n * base + d) else none
    | none => none) 0

/-- A number of an IPv4 address: the base follows from how it starts. -/
def v4Number? : List Char → Option Nat
  | [] => none
  | '0' :: 'x' :: digits => numeral? 16 digits
  | '0' :: 'X' :: digits => numeral? 16 digits
  | '0' :: digit :: digits => numeral? 8 (digit :: digits)
  | digits => numeral? 10 digits

/-- The parts of a name between its points, without an empty one at the end. -/
def v4Parts (name : List Char) : List (List Char) :=
  let parts := splitAt '.' name
  if parts.length > 1 && parts.getLast? = some [] then parts.dropLast else parts

/-- Is the name meant as an IPv4 address?  It is if its last part is a number, or has only decimal
digits. -/
def endsInNumber (name : List Char) : Bool :=
  match (v4Parts name).getLast? with
  | none => false
  | some last => (!last.isEmpty && last.all Char.isDigit) || (v4Number? last).isSome

def v4Value? (numbers : List Nat) : Option Nat :=
  match numbers.reverse with
  | [] => none
  | last :: others =>
    let room := Nat.pow 256 (5 - numbers.length)
    if numbers.length ≤ 4 && last < room && others.all (· < 256) then
      some (others.reverse.foldl (fun n part => n * 256 + part) 0 * room + last)
    else none

def v4? (name : List Char) : Option Nat := do v4Value? (← (v4Parts name).mapM v4Number?)

def v4Text (address : Nat) : List Char :=
  List.intercalate ['.'] ([3, 2, 1, 0].map fun i => Nat.toDigits 10 (address / Nat.pow 256 i % 256))

/-- A group of an IPv6 address. -/
def v6Group? (digits : List Char) : Option Nat :=
  if digits.isEmpty || digits.length > 4 then none else numeral? 16 digits

/-- A part of an IPv4 address within an IPv6 address: decimal, without zeros in front. -/
def v6Byte? (digits : List Char) : Option Nat :=
  if digits.isEmpty || (digits.length > 1 && digits.head? = some '0') then none
  else (numeral? 10 digits).filter (· < 256)

/-- The two groups of an IPv4 address within an IPv6 address. -/
def v6Tail? (text : List Char) : Option (List Nat) := do
  match ← (splitAt '.' text).mapM v6Byte? with
  | [a, b, c, d] => some [a * 256 + b, c * 256 + d]
  | _ => none

/-- Groups between colons.  The last one may be an IPv4 address if the whole address ends there. -/
def v6Groups? (final : Bool) : List (List Char) → Option (List Nat)
  | [] => some []
  | [last] => if final && last.contains '.' then v6Tail? last else (v6Group? last).map ([·])
  | group :: rest => do
    let g ← v6Group? group
    let gs ← v6Groups? final rest
    some (g :: gs)

/-- Groups in a text, which may be empty. -/
def v6Half? (final : Bool) (text : List Char) : Option (List Nat) :=
  if text.isEmpty then some [] else v6Groups? final (splitAt ':' text)

/-- The texts before and after the first `::`. -/
def splitDouble? : List Char → Option (List Char × List Char)
  | ':' :: ':' :: rest => some ([], rest)
  | [] => none
  | c :: rest => (splitDouble? rest).map fun (before, after) => (c :: before, after)

/-- Reads the eight groups of an IPv6 address. -/
def v6? (text : List Char) : Option (List Nat) :=
  match splitDouble? text with
  | none => (v6Half? true text).filter (·.length = 8)
  | some (before, after) => do
    let before ← v6Half? false before
    let after ← v6Half? true after
    if before.length + after.length < 8 then
      some (before ++ List.replicate (8 - before.length - after.length) 0 ++ after)
    else none

/-- How many zeros stand at the front. -/
def zeroRun (groups : List Nat) : Nat := (groups.takeWhile (· = 0)).length

/-- The longest run of zero groups, the first of several: where it starts and how long it is. -/
def longestZeroRun (groups : List Nat) : Nat × Nat :=
  (List.range groups.length).foldl (fun best start =>
    let run := zeroRun (groups.drop start)
    if best.2 < run then (start, run) else best) (0, 0)

def v6Joined (groups : List Nat) : List Char :=
  List.intercalate [':'] (groups.map (Nat.toDigits 16))

/-- The text of an IPv6 address, its longest run of at least two zero groups left out. -/
def v6Text (groups : List Nat) : List Char :=
  let (start, run) := longestZeroRun groups
  if run < 2 then v6Joined groups
  else v6Joined (groups.take start) ++ [':', ':'] ++ v6Joined (groups.drop (start + run))

end ValidatorAlarm.Url
