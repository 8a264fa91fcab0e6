import ValidatorAlarm.Settings.Value
import ValidatorAlarm.Table

/-!
# The tables of a TOML document

A document writes its tables bit by bit, and no bit may contradict another one.  A branch therefore
remembers how it came about: a table that was stated, by a header or as a whole, gets no second
header and no entries through dotted keys; a table that was only implied, by a longer header, may
still be stated, or taken up by a dotted key; a table of dotted keys gets no header of its own, and
its entries come through dotted keys alone.
-/
namespace ValidatorAlarm.Toml

/-- How a table came about. -/
inductive Origin where
  | stated
  /-- As a part of the path in a header. -/
  | implied
  /-- As a part of a dotted key, or taken up by one. -/
  | dotted
deriving DecidableEq, Repr

inductive Branch where
  /-- A value written as a whole, which nothing can be added to. -/
  | leaf (value : Setting)
  | table (origin : Origin) (entries : List (String × Branch))
  /-- Tables with one name: all but the last one, and the last one, which can still grow. -/
  | tables (earlier : List Setting) (last : List (String × Branch))

/-- A table under construction. -/
structure Node where
  origin : Origin
  entries : List (String × Branch)

namespace Branch

mutual

def value : Branch → Setting
  | .leaf value => value
  | .table _ entries => .table (values entries)
  | .tables earlier last => .list (earlier ++ [.table (values last)])

def values : List (String × Branch) → List (String × Setting)
  | [] => []
  | (key, branch) :: rest => (key, branch.value) :: values rest

end

end Branch

namespace Node

/-- The table that a document starts with. -/
def root : Node := ⟨.stated, []⟩

def value (node : Node) : Setting := .table (Branch.values node.entries)

def get? (node : Node) (key : String) : Option Branch := node.entries.lookup key

def put (node : Node) (key : String) (branch : Branch) : Node :=
  { node with entries := Table.putEntry key branch node.entries }

/-- Changes the table at the end of a path.  Tables on the way that are missing come about, and of
tables with one name the last one is meant.  The path of a dotted key does not lead through tables
that were stated, and makes tables of dotted keys of those that were only implied. -/
def within (isDotted : Bool) (change : Node → Option Node) : List String → Node → Option Node
  | [], node => change node
  | key :: path, node =>
    match node.get? key with
    | none => do
      let child ← within isDotted change path ⟨if isDotted then .dotted else .implied, []⟩
      return node.put key (.table child.origin child.entries)
    | some (.leaf _) => none
    | some (.tables earlier last) => do
      let child ← within isDotted change path ⟨.stated, last⟩
      return node.put key (.tables earlier child.entries)
    | some (.table origin entries) =>
      if isDotted && origin = .stated then none
      else do
        let child ← within isDotted change path ⟨if isDotted then .dotted else origin, entries⟩
        return node.put key (.table child.origin child.entries)

/-- Writes an entry under a dotted key, given as the path to its table and its last name there. -/
def write (path : List String) (key : String) (value : Setting) : Node → Option Node :=
  within true
    (fun node =>
      if decide (node.origin = .dotted) == path.isEmpty then none
      else match node.get? key with
        | some _ => none
        | none => some (node.put key (.leaf value)))
    path

def state (path : List String) (key : String) : Node → Option Node :=
  within false
    (fun node => match node.get? key with
      | none => some (node.put key (.table .stated []))
      | some (.table .implied entries) => some (node.put key (.table .stated entries))
      | some _ => none)
    path

/-- States one more of the tables with one name. -/
def stateNext (path : List String) (key : String) : Node → Option Node :=
  within false
    (fun node => match node.get? key with
      | none => some (node.put key (.tables [] []))
      | some (.tables earlier last) =>
        some (node.put key (.tables (earlier ++ [.table (Branch.values last)]) []))
      | some _ => none)
    path

end Node

end ValidatorAlarm.Toml
