import ValidatorAlarm.Number.Written
import ValidatorAlarm.Settings.Value
import ValidatorAlarm.Text.Small

/-!
# Reading settings

Whoever asks for a setting asks for a certain kind of value, and gets it wherever the setting can be
taken for one: a truth value as a text or a number, a number as a text or a truth value, a text as a
number or a truth value.  The words `true`, `on`, `yes`, `false`, `off` and `no` count in letters of
any case.  A record is read from a table, whose other entries do not matter, or from a list with the
values in the declared order.
-/
namespace ValidatorAlarm

namespace Setting

def wordValue? (s : String) : Option Bool :=
  let word := Text.lower s
  if word = "true" || word = "on" || word = "yes" then some true
  else if word = "false" || word = "off" || word = "no" then some false
  else none

/-- A truth value; of numbers only zero is false. -/
def bool? : Setting → Option Bool
  | .bool value => some value
  | .integer value => some (value ≠ 0)
  | .real value => some (value.pattern ≠ 0)
  | .text s => if s = "1" then some true else if s = "0" then some false else wordValue? s
  | _ => none

def string? : Setting → Option String
  | .text s => some s
  | .bool value => some (if value then "true" else "false")
  | .integer value => some (toString value)
  | .real value => some value.plain
  | _ => none

/-- The largest natural number of 64 bits. -/
def maxNatural : Nat := Nat.pow 2 64 - 1

/-- A natural number of 64 bits. -/
def long? : Setting → Option Nat
  | .bool value => some (if value then 1 else 0)
  | .integer value => if value < 0 then none else some value.toNat
  | .real value => some (Number.nearestNatural maxNatural value)
  | .text s =>
    match wordValue? s with
    | some value => some (if value then 1 else 0)
    | none => (Number.natural? s).filter (· ≤ maxNatural)
  | _ => none

/-- A natural number of so many bits. -/
def natural? (bits : Nat) (setting : Setting) : Option Nat :=
  setting.long?.filter (· < Nat.pow 2 bits)

def real? : Setting → Option Double
  | .bool value => some (.ofNat .double false (if value then 1 else 0))
  | .integer value => some (.ofNat .double (value < 0) value.natAbs)
  | .real value => some value
  | .text s =>
    match wordValue? s with
    | some value => some (.ofNat .double false (if value then 1 else 0))
    | none => Number.real? s
  | _ => none

def list? {α : Type} (read : Setting → Option α) : Setting → Option (List α)
  | .list items => items.mapM read
  | _ => none

/-- The values of the declared fields of a record, in the declared order. -/
def record? (declared : List String) : Setting → Option (List (Option Setting))
  | .table entries => some (declared.map fun field => entries.lookup field)
  | .list items =>
    some ((items.take declared.length).map some ++
      List.replicate (declared.length - items.length) none)
  | _ => none

/-- A field of a record, or the value that it has if it is missing. -/
def field? {α : Type} (read : Setting → Option α) (missing : α) : Option Setting → Option α
  | none => some missing
  | some setting => read setting

end Setting

end ValidatorAlarm
