import ValidatorAlarm.Number.Written
import ValidatorAlarm.Settings.Value
import ValidatorAlarm.Toml.Quoted

/-!
# Numbers in TOML

Integers have 64 bits and are written in base 10, or without a sign in base 16, 8 or 2.  Other
numbers have a point, an exponent or both, or are one of the words `inf` and `nan`; a number beyond
the largest one is refused.  Single underscores may stand between digits, and a whole part has no
leading zero.
-/
namespace ValidatorAlarm.Toml.Numeral

open Number (splitSign)
open Text.Form (digitValue?)

/-- Digits without the underscores between them.  The flag says whether the last character was a
digit. -/
def ungroup? (isDigit : Char → Bool) : Bool → List Char → Option (List Char)
  | behindDigit, [] => if behindDigit then some [] else none
  | behindDigit, c :: rest =>
    if isDigit c then (ungroup? isDigit true rest).map (c :: ·)
    else if c = '_' && behindDigit then ungroup? isDigit false rest
    else none

/-- Decimal digits without the underscores between them. -/
def decimals? (cs : List Char) : Option (List Char) := ungroup? Char.isDigit false cs

/-- The decimal digits of a whole part. -/
def whole? (cs : List Char) : Option (List Char) :=
  match decimals? cs with
  | some ('0' :: _ :: _) => none
  | digits => digits

def value (base : Nat) (digits : List Char) : Nat :=
  digits.foldl (fun n c => n * base + (digitValue? c).getD 0) 0

def isDigitOf (base : Nat) (c : Char) : Bool := (digitValue? c).any (· < base)

/-- An integer, if it has 64 bits. -/
def bounded? (n : Int) : Option Int :=
  if -(Nat.pow 2 63) ≤ n && n < Nat.pow 2 63 then some n else none

/-- A number in a base with a mark. -/
def based? (base : Nat) (cs : List Char) : Option Int := do
  bounded? (value base (← ungroup? (isDigitOf base) false cs))

def integer? : List Char → Option Int
  | '0' :: 'x' :: cs => based? 16 cs
  | '0' :: 'o' :: cs => based? 8 cs
  | '0' :: 'b' :: cs => based? 2 cs
  | cs => do
    let (negative, cs) := splitSign cs
    let n : Int := value 10 (← whole? cs)
    bounded? (if negative then -n else n)

def exponent? (cs : List Char) : Option Int := do
  let (negative, cs) := splitSign cs
  let n : Int := value 10 (← decimals? cs)
  return if negative then -n else n

/-- The finite number with these digits before and behind the point. -/
def finite? (negative : Bool) (whole part : List Char) (exponent : Int) : Option Double :=
  let x := Binary.ofDecimal .double negative (value 10 (whole ++ part)) (exponent - part.length)
  if x.isFinite then some x else none

/-- A number without its sign that has a point, an exponent or both. -/
def fractional? (negative : Bool) (cs : List Char) : Option Double :=
  let isMark (c : Char) := c = 'e' || c = 'E'
  let mantissa := cs.takeWhile (!isMark ·)
  let power := cs.dropWhile (!isMark ·)
  let part := mantissa.dropWhile (· != '.')
  if power.isEmpty && part.isEmpty then none
  else do
    let whole ← whole? (mantissa.takeWhile (· != '.'))
    let part ← if part.isEmpty then some [] else decimals? (part.drop 1)
    let exponent ← if power.isEmpty then some 0 else exponent? (power.drop 1)
    finite? negative whole part exponent

/-- A number that is not written as an integer. -/
def real? (cs : List Char) : Option Double :=
  let (negative, cs) := splitSign cs
  if cs = ['i', 'n', 'f'] then some (.infinite negative)
  else if cs = ['n', 'a', 'n'] then some { (Binary.nan : Double) with negative := negative }
  else fractional? negative cs

def number? (cs : List Char) : Option Setting :=
  (integer? cs).map Setting.integer <|> (real? cs).map Setting.real

end ValidatorAlarm.Toml.Numeral
