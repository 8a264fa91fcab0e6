import ValidatorAlarm.Toml.Quoted

/-!
# Keys in TOML

A name is a word of letters, digits, `_` and `-`, or a quoted text on one line.  A key has one name
or several, 80 at most, with points between them: the path to a table, and the last name there.
-/
namespace ValidatorAlarm.Toml

/-- A key at the front of a document. -/
structure Key where
  path : List String
  last : String
deriving DecidableEq, Repr

namespace Key

/-- May the character stand in a name without quotes? -/
def isBare (c : Char) : Bool := c.isAlphanum || c = '_' || c = '-'

/-- A name at the front of a document, and what follows it. -/
def name? (cs : List Char) : Option (String × List Char) :=
  match cs with
  | '"' :: _ => Quoted.line? cs
  | '\'' :: _ => Quoted.line? cs
  | _ =>
    let word := cs.takeWhile isBare
    if word.isEmpty then none else some (String.ofList word, cs.drop word.length)

/-- The largest number of names in a key. -/
def maxNames : Nat := 80

/-- At least one name and at most as many as the first argument says, with points between them. -/
def names? : Nat → List Char → Option (List String × List Char)
  | 0, _ => none
  | more + 1, cs => do
    let (name, rest) ← name? (skipBlanks cs)
    match skipBlanks rest with
    | '.' :: rest =>
      let (names, rest) ← names? more rest
      return (name :: names, rest)
    | rest => return ([name], rest)

/-- A key with the blanks around it, and what follows it. -/
def read? (cs : List Char) : Option (Key × List Char) := do
  let (names, rest) ← names? maxNames cs
  return (⟨names.dropLast, ← names.getLast?⟩, rest)

end Key

end ValidatorAlarm.Toml
