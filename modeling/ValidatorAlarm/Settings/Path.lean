import ValidatorAlarm.Settings.Value
import ValidatorAlarm.Table

/-!
# Paths into settings

A path leads from the table of all settings to one of them: a name, and then further names behind
points and positions in brackets.  A negative position counts from the end of a list.  Writing to a
path makes whatever it leads through fit: a table for a name, a list that is long enough for a
position.  A table that is written does not replace a table but is merged into it, entry by entry;
anything else replaces what was there.
-/
namespace ValidatorAlarm

namespace Setting

/-- One step of a path. -/
inductive Step where
  | name (key : String)
  | position (index : Int)
deriving DecidableEq, Repr

/-- A list that has the position, and the position counted from its front.  A list that is too short
is filled up behind, or in front if the position counts from its end. -/
def makeRoom (index : Int) (items : List Setting) : List Setting × Nat :=
  if index ≥ 0 then
    (items ++ List.replicate (index.toNat + 1 - items.length) .nothing, index.toNat)
  else if index.natAbs ≤ items.length then (items, items.length - index.natAbs)
  else (List.replicate (index.natAbs - items.length) .nothing ++ items, 0)

def alter (change : Setting → Setting) : List Step → Setting → Setting
  | [], setting => change setting
  | .name key :: path, setting =>
    let child := (setting.entries.lookup key).getD .nothing
    .table (Table.putEntry key (alter change path child) setting.entries)
  | .position index :: path, setting =>
    let (items, i) := makeRoom index setting.items
    .list (items.set i (alter change path (items.getD i .nothing)))

mutual

/-- What a setting becomes when another one is written to its place. -/
def merge (current : Setting) : Setting → Setting
  | .table entries => .table (mergeAll current.entries entries)
  | .nothing => .nothing
  | .bool value => .bool value
  | .integer value => .integer value
  | .real value => .real value
  | .text value => .text value
  | .list items => .list items

/-- What the entries of a table become when others are written to it. -/
def mergeAll (current : List (String × Setting)) : List (String × Setting) → List (String × Setting)
  | [] => current
  | (key, value) :: rest =>
    let child := (current.lookup key).getD .nothing
    mergeAll (Table.putEntry key (merge child value) current) rest

end

/-- May the character stand in a name of a path? -/
def isNamePart (c : Char) : Bool := c.isAlphanum || c = '_' || c = '-'

/-- A name at the front of a path, and what follows it. -/
def pathName? (cs : List Char) : Option (String × List Char) :=
  let name := cs.takeWhile isNamePart
  if name.isEmpty then none else some (String.ofList name, cs.drop name.length)

/-- May the character stand around a position? -/
def isPathBlank (c : Char) : Bool := c = ' ' || c = '\t'

/-- A position of 64 bits behind its opening bracket, and what follows its closing one. -/
def pathPosition? (cs : List Char) : Option (Int × List Char) :=
  let cs := cs.dropWhile isPathBlank
  let negative := cs.head? == some '-'
  let cs := if negative then cs.drop 1 else cs
  let digits := cs.takeWhile Char.isDigit
  let n : Nat := digits.foldl (fun n c => 10 * n + (c.toNat - 48)) 0
  match (cs.drop digits.length).dropWhile isPathBlank with
  | ']' :: rest =>
    if digits.isEmpty || n > (if negative then Nat.pow 2 63 else Nat.pow 2 63 - 1) then none
    else some (if negative then -(n : Int) else n, rest)
  | _ => none

/-- The steps behind the first name of a path.  The fuel bounds their number. -/
def pathSteps? : Nat → List Char → Option (List Step)
  | _, [] => some []
  | 0, _ => none
  | fuel + 1, '.' :: rest => do
    let (name, rest) ← pathName? rest
    return .name name :: (← pathSteps? fuel rest)
  | fuel + 1, '[' :: rest => do
    let (index, rest) ← pathPosition? rest
    return .position index :: (← pathSteps? fuel rest)
  | _, _ => none

/-- The path that a text writes. -/
def path? (s : String) : Option (List Step) := do
  let (name, rest) ← pathName? s.toList
  return .name name :: (← pathSteps? rest.length rest)

/-- The path that a text is meant for: one that is written badly is a name as a whole. -/
def pathOf (s : String) : List Step := (path? s).getD [.name s]

/-- Writes a setting under a text that is meant for a path. -/
def write (settings : Setting) (s : String) (value : Setting) : Setting :=
  settings.alter (·.merge value) (pathOf s)

/-- Writes settings one after the other. -/
def writeAll (settings : Setting) (written : List (String × Setting)) : Setting :=
  written.foldl (fun settings (s, value) => settings.write s value) settings

end Setting

end ValidatorAlarm
