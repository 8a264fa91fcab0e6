import ValidatorAlarm.Number.Decimal

/-!
# Setting values

What a settings file or an environment variable says, before anybody asks for a certain kind of
value.  Dates and times are kept as texts.
-/
namespace ValidatorAlarm

inductive Setting where
  /-- A place that nothing was written to. -/
  | nothing
  | bool (value : Bool)
  | integer (value : Int)
  | real (value : Double)
  | text (value : String)
  | list (items : List Setting)
  | table (entries : List (String × Setting))

namespace Setting

/-- The entries of a table; anything else has none. -/
def entries : Setting → List (String × Setting)
  | .table entries => entries
  | _ => []

/-- The items of a list; anything else has none. -/
def items : Setting → List Setting
  | .list items => items
  | _ => []

end Setting

end ValidatorAlarm
