/-!
# Durations

A length of time in nanoseconds, with its text: a number and the largest of the units s, ms, µs and
ns that it fills at least once, with as many digits after the point as are needed.
-/
namespace ValidatorAlarm

structure Duration where
  nanoseconds : Nat
deriving DecidableEq, Repr

namespace Duration

/-- Whole milliseconds. -/
def ofMilliseconds (ms : Nat) : Duration := ⟨ms * 1000000⟩

/-- Whole seconds. -/
def ofSeconds (s : Nat) : Duration := ⟨s * 1000000000⟩

instance : LT Duration := ⟨fun a b => a.nanoseconds < b.nanoseconds⟩
instance : LE Duration := ⟨fun a b => a.nanoseconds ≤ b.nanoseconds⟩
instance (a b : Duration) : Decidable (a < b) := inferInstanceAs (Decidable (a.nanoseconds < b.nanoseconds))
instance (a b : Duration) : Decidable (a ≤ b) := inferInstanceAs (Decidable (a.nanoseconds ≤ b.nanoseconds))

/-- The milliseconds that a wait of this length takes: a fraction counts as a whole one. -/
def milliseconds (d : Duration) : Nat := (d.nanoseconds + 999999) / 1000000

/-- The digits of `part`, filled up on the left to `width` and without zeros at the end. -/
def fractionDigits (width part : Nat) : List Char :=
  let digits := Nat.toDigits 10 part
  ((List.replicate (width - digits.length) '0' ++ digits).reverse.dropWhile (· == '0')).reverse

/-- So many units, each of `10 ^ width` nanoseconds. -/
def inUnits (width nanoseconds : Nat) (unit : String) : String :=
  let whole := Nat.toDigits 10 (nanoseconds / Nat.pow 10 width)
  let part := nanoseconds % Nat.pow 10 width
  let tail := if part = 0 then [] else '.' :: fractionDigits width part
  String.ofList (whole ++ tail) ++ unit

def text (d : Duration) : String :=
  if d.nanoseconds ≥ 1000000000 then inUnits 9 d.nanoseconds "s"
  else if d.nanoseconds ≥ 1000000 then inUnits 6 d.nanoseconds "ms"
  else if d.nanoseconds ≥ 1000 then inUnits 3 d.nanoseconds "µs"
  else inUnits 0 d.nanoseconds "ns"

end Duration

end ValidatorAlarm
