import ValidatorAlarm.Json.Token
import ValidatorAlarm.Number.Written

/-!
# Numbers of JSON

A whole number of at most 64 bits is taken exactly.  Any other number is taken up in two steps, which
may miss the nearest 64-bit number by a little: its digits go into a word of 64 bits as long as they
fit, and the word, rounded, is multiplied with or divided by the power of ten that is left, rounded
again.  A number that gets too large by that is refused.
-/
namespace ValidatorAlarm.Json.Literal

open ValidatorAlarm.Number (Format decimalValue)

def maxWord : Nat := Nat.pow 2 64 - 1

/-- Puts digits behind those of a word until one does not fit.  Also returns the digits from there
on. -/
def takeUp (word : Nat) : List Char → Nat × List Char
  | [] => (word, [])
  | c :: rest =>
    let longer := 10 * word + (c.toNat - 48)
    if longer ≤ maxWord then takeUp longer rest else (word, c :: rest)

/-- The word and the power of ten that stand for a number without its sign.  Digits before the point
that do not fit count as zeros, those behind it do not count. -/
def scaled (n : Literal) : Nat × Int :=
  let (word, missed) := takeUp 0 n.whole
  let (word, dropped) := takeUp word n.part
  (word, missed.length + dropped.length - n.part.length + n.power.getD 0)

/-- The largest power of ten that is a 64-bit number. -/
def maxPower : Nat := 308

def ten (power : Nat) : Nat := (Binary.ofDecimal .double false 1 power).pattern

/-- A pattern divided by a power of ten, in several steps if there is no such power. -/
def shrink (pattern power : Nat) : Nat :=
  if power ≤ maxPower then Format.double.dividedBy pattern (ten power)
  else if pattern = 0 then 0
  else shrink (Format.double.dividedBy pattern (ten maxPower)) (power - maxPower)
termination_by power
decreasing_by simp only [maxPower] at *; omega

/-- A pattern multiplied with a power of ten, if the product is finite. -/
def grow? (pattern power : Nat) : Option Nat :=
  if pattern = 0 then some 0
  else if maxPower < power then none
  else
    let product := Format.double.times pattern (ten power)
    if product < Format.double.infinity then some product else none

/-- The 64-bit number that is taken for a number. -/
def double? (n : Literal) : Option Double :=
  let (word, power) := n.scaled
  let start := (Binary.ofNat .double false word).pattern
  if power ≥ 0 then (grow? start power.toNat).map (⟨n.negative, ·⟩)
  else some ⟨n.negative, shrink start (-power).toNat⟩

/-- The value of a number written with neither point nor exponent, if it has at most 64 bits; minus
zero has none. -/
def wholeNumber? (n : Literal) : Option Int :=
  let value := decimalValue n.whole
  if !n.isInteger then none
  else if n.negative then if 1 ≤ value && value ≤ Nat.pow 2 63 then some (-(value : Int)) else none
  else if value ≤ maxWord then some value else none

/-- The 32-bit number that is taken for a number. -/
def single? (n : Literal) : Option Single :=
  match n.wholeNumber? with
  | some value => some (.ofNat .single (value < 0) value.natAbs)
  | none => n.double?.map (·.narrow .single)

/-- A signed whole number of 64 bits. -/
def integer? (n : Literal) : Option Int := n.wholeNumber?.filter (· < Nat.pow 2 63)

end ValidatorAlarm.Json.Literal
