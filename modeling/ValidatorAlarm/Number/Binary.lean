/-!
# Binary floating-point numbers

Ratings are kept as 32-bit numbers and tolerances are configured as 64-bit numbers.  Both are
handled exactly, without machine floats: a number is a sign and a *pattern*, the value of its
remaining bits read as a natural number.

Every finite number of a format is a whole multiple of the least positive one.  `Format.units`
gives that multiple, so comparisons, sums and roundings are integer arithmetic.  The patterns of
one sign are ordered like the numbers they stand for, infinity included; a pattern above infinity
is not a number.
-/
namespace ValidatorAlarm

/-- `num / den` rounded to the nearest natural number, a half going to the even neighbour. -/
def roundHalfEven (num den : Nat) : Nat :=
  let q := num / den
  let r := num % den
  if 2 * r < den then q
  else if den < 2 * r then q + 1
  else if q % 2 = 0 then q else q + 1

/-- `num / den` rounded to the nearest natural number, a half going up. -/
def roundHalfUp (num den : Nat) : Nat := (2 * num + den) / (2 * den)

namespace Number

/-- A binary interchange format: `fraction` stored bits of the significand below a hidden leading
one, and `exponent` bits of exponent. -/
structure Format where
  fraction : Nat
  exponent : Nat

namespace Format

/-- 32 bits: one for the sign, 8 for the exponent, 23 for the fraction. -/
def single : Format := ⟨23, 8⟩

/-- 64 bits: one for the sign, 11 for the exponent, 52 for the fraction. -/
def double : Format := ⟨52, 11⟩

/-- The bits of a number without its sign. -/
def width (f : Format) : Nat := f.exponent + f.fraction

/-- The pattern of infinity: all exponent bits set and no fraction bit. -/
def infinity (f : Format) : Nat := (Nat.pow 2 f.exponent - 1) * Nat.pow 2 f.fraction

/-- The least positive number is `2 ^ (-scale)`. -/
def scale (f : Format) : Nat := Nat.pow 2 (f.exponent - 1) - 2 + f.fraction

/-- The magnitude of a finite pattern, counted in least positive numbers. -/
def units (f : Format) (pattern : Nat) : Nat :=
  let e := pattern / Nat.pow 2 f.fraction
  let m := pattern % Nat.pow 2 f.fraction
  if e = 0 then m else (Nat.pow 2 f.fraction + m) * Nat.pow 2 (e - 1)

/-- The pattern nearest to `num / den` least positive numbers, ties to the even pattern; infinity
if that lies beyond the largest finite number. -/
def nearest (f : Format) (num den : Nat) : Nat :=
  let k := (num / den).log2 - f.fraction
  min f.infinity (k * Nat.pow 2 f.fraction + roundHalfEven num (den * Nat.pow 2 k))

/-- The pattern of the product of two finite patterns, rounded once. -/
def times (f : Format) (p q : Nat) : Nat := f.nearest (f.units p * f.units q) (Nat.pow 2 f.scale)

/-- The pattern of the quotient of two finite patterns, rounded once. -/
def dividedBy (f : Format) (p q : Nat) : Nat := f.nearest (f.units p * Nat.pow 2 f.scale) (f.units q)

end Format

end Number

/-- A binary floating-point number of the given format. -/
structure Binary (f : Number.Format) where
  negative : Bool
  pattern : Nat
deriving DecidableEq, Repr

/-- A 32-bit number. -/
abbrev Single := Binary .single

/-- A 64-bit number. -/
abbrev Double := Binary .double

namespace Binary

open Number

variable {f : Format}

/-- The number that the given bits stand for; bits beyond the width of the format are ignored. -/
def ofBits (f : Format) (bits : Nat) : Binary f :=
  ⟨bits / Nat.pow 2 f.width % 2 = 1, bits % Nat.pow 2 f.width⟩

/-- All bits of a number, the sign first. -/
def toBits (x : Binary f) : Nat := (if x.negative then Nat.pow 2 f.width else 0) + x.pattern

/-- Is this no number at all? -/
def isNaN (x : Binary f) : Bool := f.infinity < x.pattern

/-- Is this one of the two infinities? -/
def isInfinite (x : Binary f) : Bool := x.pattern = f.infinity

/-- Is this an ordinary number? -/
def isFinite (x : Binary f) : Bool := x.pattern < f.infinity

def zero : Binary f := ⟨false, 0⟩

/-- The pattern written for results that are no number. -/
def nan : Binary f := ⟨false, f.infinity + Nat.pow 2 (f.fraction - 1)⟩

/-- The infinity of the given sign. -/
def infinite (negative : Bool) : Binary f := ⟨negative, f.infinity⟩

/-- Position of a number in the order of its format.  The two zeros share one position. -/
def position (x : Binary f) : Int := if x.negative then -(x.pattern : Int) else x.pattern

/-- The value of a finite number, counted in least positive numbers. -/
def value (x : Binary f) : Int := if x.negative then -(f.units x.pattern : Int) else f.units x.pattern

/-- `x < y`; nothing is smaller or greater than what is no number. -/
def lt (x y : Binary f) : Bool := !x.isNaN && !y.isNaN && x.position < y.position

/-- `x ≤ y`; false if one of the two is no number. -/
def le (x y : Binary f) : Bool := !x.isNaN && !y.isNaN && x.position ≤ y.position

/-- The number nearest to `num / den` least positive numbers, with the given sign. -/
def ofUnits (f : Format) (negative : Bool) (num den : Nat) : Binary f :=
  ⟨negative, f.nearest num den⟩

/-- The exact sum, rounded once. -/
def add (x y : Binary f) : Binary f :=
  if x.isNaN || y.isNaN then nan
  else if x.isInfinite then (if y.isInfinite && x.negative != y.negative then nan else x)
  else if y.isInfinite then y
  else
    let sum := x.value + y.value
    if sum = 0 then ⟨x.negative && y.negative, 0⟩
    else ofUnits f (sum < 0) sum.natAbs 1

/-- The number of a coarser format nearest to `x`. -/
def narrow (x : Binary f) (g : Format) : Binary g :=
  if x.isNaN then nan
  else if x.isInfinite then infinite x.negative
  else ofUnits g x.negative (f.units x.pattern) (Nat.pow 2 (f.scale - g.scale))

/-- The whole number `n` in the format, rounded once. -/
def ofNat (f : Format) (negative : Bool) (n : Nat) : Binary f :=
  ofUnits f negative (n * Nat.pow 2 f.scale) 1

end Binary

end ValidatorAlarm
