import ValidatorAlarm.Number.Decimal

/-!
# Numbers written as texts

A natural number is written in decimal digits, a plus sign in front if wanted.  A 64-bit number is
written with a sign if wanted, digits with a point before, between or behind them if wanted, and an
exponent if wanted; or as one of the words `inf`, `infinity` and `nan`, in letters of any case.
-/
namespace ValidatorAlarm.Number

def decimalValue (digits : List Char) : Nat :=
  digits.foldl (fun n c => 10 * n + (c.toNat - 48)) 0

/-- The value of characters that are decimal digits, at least one. -/
def digits? (cs : List Char) : Option Nat :=
  if cs.isEmpty || cs.any (!·.isDigit) then none else some (decimalValue cs)

def natural? (s : String) : Option Nat :=
  match s.toList with
  | '+' :: cs => digits? cs
  | cs => digits? cs

/-- The sign of a number, and what follows it. -/
def splitSign : List Char → Bool × List Char
  | '-' :: rest => (true, rest)
  | '+' :: rest => (false, rest)
  | rest => (false, rest)

/-- The exponent behind its mark: a sign if any, then digits. -/
def exponent? (cs : List Char) : Option Int := do
  let (negative, cs) := splitSign cs
  let n : Int := ← digits? cs
  return if negative then -n else n

/-- A number without its sign that is written in digits. -/
def unsigned? (negative : Bool) (cs : List Char) : Option Double := do
  let isMark (c : Char) := c = 'e' || c = 'E'
  let mantissa := cs.takeWhile (!isMark ·)
  let power := cs.dropWhile (!isMark ·)
  let whole := mantissa.takeWhile (· != '.')
  let part := (mantissa.dropWhile (· != '.')).drop 1
  let digits ← digits? (whole ++ part)
  let exponent ← if power.isEmpty then some 0 else exponent? (power.drop 1)
  return Binary.ofDecimal .double negative digits (exponent - part.length)

/-- A 64-bit number; one beyond the largest finite number is infinite. -/
def real? (s : String) : Option Double :=
  let (negative, cs) := splitSign s.toList
  let word := String.ofList (cs.map Char.toLower)
  if word = "inf" || word = "infinity" then some (.infinite negative)
  else if word = "nan" then some { (Binary.nan : Double) with negative := negative }
  else unsigned? negative cs

/-- The nearest natural number to a 64-bit number, a half going up, but at least zero and at most
the given bound; zero for what is no number. -/
def nearestNatural (bound : Nat) (x : Double) : Nat :=
  if x.isNaN || x.negative then 0
  else if x.isFinite then min bound (roundHalfUp (Format.double.units x.pattern) (Nat.pow 2 Format.double.scale))
  else bound

end ValidatorAlarm.Number
