/-!
# Runs of characters

Scripts mostly list characters that belong together in a row, at a constant distance from those that
they belong to, or in alternation with them.  A table from characters to characters is therefore a
list of runs.
-/
namespace ValidatorAlarm.Text

/-- Every `step`-th code from `first` to `last` belongs to the one `shift` further. -/
structure Run where
  first : Nat
  last : Nat
  step : Nat
  shift : Int
deriving DecidableEq, Repr

namespace Run

def holds (run : Run) (code : Nat) : Bool :=
  run.first ≤ code && code ≤ run.last && (code - run.first) % run.step = 0

def find? (runs : List Run) (code : Nat) : Option Nat :=
  (runs.find? (·.holds code)).map fun run => ((code : Int) + run.shift).toNat

end Run

end ValidatorAlarm.Text
