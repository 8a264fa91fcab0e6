import ValidatorAlarm.Number.Binary

/-!
# Decimal texts of binary numbers

Three rules of exact arithmetic connect `Binary` numbers with decimal texts.

* `ofDecimal` reads a decimal: the number nearest to it, ties to the even pattern.
* `fixed` writes a number with a set count of places: its exact value is rounded, a half going to
  the even neighbour.
* `shortest` finds the decimal with the fewest digits that reads back to the number; among several
  of that length it takes the nearest, and the upper one of two equally near.  `plain` writes it
  without an exponent.
-/
namespace ValidatorAlarm

namespace Binary

open Number

variable {f : Format}

/-- The number nearest to `digits * 10 ^ exponent`.  Decimals far outside the range of the format
are decided by their count of digits alone. -/
def ofDecimal (f : Format) (negative : Bool) (digits : Nat) (exponent : Int) : Binary f :=
  if digits = 0 then ⟨negative, 0⟩
  else if exponent ≥ 0 then
    if exponent.toNat > f.scale then infinite negative
    else ofUnits f negative (digits * Nat.pow 10 exponent.toNat * Nat.pow 2 f.scale) 1
  else
    let places := (-exponent).toNat
    if places > f.scale + digits.log2 then ⟨negative, 0⟩
    else ofUnits f negative (digits * Nat.pow 2 f.scale) (Nat.pow 10 places)

/-- The decimal digits of `n`, at least `width` of them. -/
def paddedDigits (width n : Nat) : List Char :=
  let digits := Nat.toDigits 10 n
  List.replicate (width - digits.length) '0' ++ digits

/-- The text of a number that is not finite. -/
def special (x : Binary f) : List Char :=
  if x.isNaN then ['N', 'a', 'N']
  else if x.negative then ['-', 'i', 'n', 'f'] else ['i', 'n', 'f']

/-- The number with `places` digits after the point. -/
def fixed (places : Nat) (x : Binary f) : String :=
  if x.isFinite then
    let scaled := roundHalfEven (f.units x.pattern * Nat.pow 10 places) (Nat.pow 2 f.scale)
    let digits := paddedDigits (places + 1) scaled
    let whole := digits.take (digits.length - places)
    let part := digits.drop (digits.length - places)
    String.ofList ((if x.negative then ['-'] else []) ++ whole ++
      (if places = 0 then [] else '.' :: part))
  else String.ofList x.special

/-- Does `digits * 10 ^ exponent` read back to the finite non-zero pattern?  The decimals that do
are those between the two midpoints to its neighbours, the midpoints included if the pattern is
even. -/
def readsBack (f : Format) (pattern digits : Nat) (exponent : Int) : Bool :=
  let u := f.units pattern
  let below := f.units (pattern - 1)
  -- four times the distance from zero, in least positive numbers
  let low := 2 * (u + below)
  let high := if pattern + 1 = f.infinity then 4 * u + 2 * (u - below) else 2 * (u + f.units (pattern + 1))
  let num := 4 * digits * Nat.pow 10 exponent.toNat * Nat.pow 2 f.scale
  let den := Nat.pow 10 (-exponent).toNat
  if pattern % 2 = 0 then low * den ≤ num && num ≤ high * den
  else low * den < num && num < high * den

/-- The decimal neighbours of the pattern on the grid of multiples of `10 ^ exponent`: the one that
reads back and lies nearer, the upper one if both lie equally near. -/
def onGrid? (f : Format) (pattern : Nat) (exponent : Int) : Option Nat :=
  let num := f.units pattern * Nat.pow 10 (-exponent).toNat
  let den := Nat.pow 2 f.scale * Nat.pow 10 exponent.toNat
  let down := num / den
  let near := roundHalfUp num den
  let far := if near = down then down + 1 else down
  if readsBack f pattern near exponent then some near
  else if readsBack f pattern far exponent then some far
  else none

/-- The exponent `e` with `10 ^ (e - 1) ≤ value < 10 ^ e`, found by looking upward from `e`. -/
def magnitude (f : Format) (pattern : Nat) : Nat → Int → Int
  | 0, e => e
  | steps + 1, e =>
    if f.units pattern * Nat.pow 10 (-e).toNat < Nat.pow 2 f.scale * Nat.pow 10 e.toNat then e
    else magnitude f pattern steps (e + 1)

/-- Looks for the coarsest grid with a decimal that reads back. -/
def searchGrid (f : Format) (pattern : Nat) : Nat → Int → Option (Nat × Int)
  | 0, _ => none
  | steps + 1, e =>
    match onGrid? f pattern e with
    | some digits => if digits = 0 then searchGrid f pattern steps (e - 1) else some (digits, e)
    | none => searchGrid f pattern steps (e - 1)

/-- The decimal `digits * 10 ^ exponent` with the fewest digits that reads back to a finite
non-zero pattern.  Should no short one be found, the exact value is taken. -/
def shortest (f : Format) (pattern : Nat) : Nat × Int :=
  let start : Int := ((f.units pattern).log2 : Int) - f.scale
  -- a factor 2 ^ k is a factor of about 10 ^ (0.3 k)
  let low := Int.fdiv (start * 30103) 100000 - 1
  let top := magnitude f pattern 8 low
  match searchGrid f pattern 40 top with
  | some found => found
  | none => (f.units pattern * Nat.pow 5 f.scale, -(f.scale : Int))

/-- `digits * 10 ^ exponent` written without an exponent. -/
def positional (digits : Nat) (exponent : Int) : List Char :=
  if exponent ≥ 0 then Nat.toDigits 10 digits ++ List.replicate exponent.toNat '0'
  else
    let places := (-exponent).toNat
    let all := paddedDigits (places + 1) digits
    let whole := all.take (all.length - places)
    let part := (all.drop (all.length - places)).reverse.dropWhile (· == '0') |>.reverse
    if part.isEmpty then whole else whole ++ '.' :: part

/-- The number with the fewest digits that read back, never with an exponent. -/
def plain (x : Binary f) : String :=
  if x.isFinite then
    let sign := if x.negative then ['-'] else []
    if x.pattern = 0 then String.ofList (sign ++ ['0'])
    else
      let (digits, exponent) := shortest f x.pattern
      String.ofList (sign ++ positional digits exponent)
  else String.ofList x.special

end Binary

end ValidatorAlarm
