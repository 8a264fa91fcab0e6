import ValidatorAlarm.Toml.Branch
import ValidatorAlarm.Toml.Key
import ValidatorAlarm.Toml.Moment

/-!
# TOML values

Texts, numbers, truth values, moments, arrays, and tables written in one piece.  The last item of an
array or of such a table may be followed by a comma, and there may be line ends and comments between
their items.  Values are nested at most 80 deep.
-/
namespace ValidatorAlarm.Toml

/-- How deep values may be nested. -/
def maxDepth : Nat := 80

/-- Does the character end a value that is written as a word? -/
def endsWord (c : Char) : Bool :=
  isBlank c || c = '\n' || c = '\r' || c = ',' || c = ']' || c = '\x7d' || c = '#'

/-- A word and what follows it.  A date goes on behind one space if two digits follow. -/
def word (cs : List Char) : List Char × List Char :=
  let run := cs.takeWhile (!endsWord ·)
  let rest := cs.drop run.length
  match rest with
  | ' ' :: d :: d' :: tail =>
    if Moment.isDate run && d.isDigit && d'.isDigit then
      let time := (d :: d' :: tail).takeWhile (!endsWord ·)
      (run ++ ' ' :: time, (d :: d' :: tail).drop time.length)
    else (run, rest)
  | _ => (run, rest)

def wordValue? (run : List Char) : Option Setting :=
  if run = ['t', 'r', 'u', 'e'] then some (.bool true)
  else if run = ['f', 'a', 'l', 's', 'e'] then some (.bool false)
  else Numeral.number? run <|> Moment.moment? run

mutual

/-- A value at the front of a document, and what follows it.  The fuel bounds the steps, `depth` the
levels of nesting that are left. -/
def value? : Nat → Nat → List Char → Option (Setting × List Char)
  | 0, _, _ => none
  | fuel + 1, depth, cs =>
    match cs with
    | '"' :: _ => (Quoted.text? cs).map fun (s, rest) => (.text s, rest)
    | '\'' :: _ => (Quoted.text? cs).map fun (s, rest) => (.text s, rest)
    | '[' :: rest =>
      if depth = 0 then none
      else (items? fuel (depth - 1) rest).map fun (items, rest) => (.list items, rest)
    | '\x7b' :: rest =>
      if depth = 0 then none
      else (pairs? fuel (depth - 1) .root rest).map fun (node, rest) => (node.value, rest)
    | _ =>
      let (run, rest) := word cs
      (wordValue? run).map fun value => (value, rest)

/-- The items of an array, up to and with its closing bracket. -/
def items? : Nat → Nat → List Char → Option (List Setting × List Char)
  | 0, _, _ => none
  | fuel + 1, depth, cs => do
    match ← skipSpace false cs with
    | ']' :: rest => some ([], rest)
    | cs =>
      let (item, rest) ← value? fuel depth cs
      match ← skipSpace false rest with
      | ',' :: rest => (items? fuel depth rest).map fun (items, rest) => (item :: items, rest)
      | ']' :: rest => some ([item], rest)
      | _ => none

/-- The rest of a table written in one piece, up to and with its closing brace; the node holds the
entries so far. -/
def pairs? : Nat → Nat → Node → List Char → Option (Node × List Char)
  | 0, _, _, _ => none
  | fuel + 1, depth, node, cs => do
    match ← skipSpace false cs with
    | '\x7d' :: rest => some (node, rest)
    | cs =>
      match ← Key.read? cs with
      | (key, '=' :: rest) =>
        let (value, rest) ← value? fuel depth (skipBlanks rest)
        let node ← node.write key.path key.last value
        match ← skipSpace false rest with
        | ',' :: rest => pairs? fuel depth node rest
        | '\x7d' :: rest => some (node, rest)
        | _ => none
      | _ => none

end

/-- A value at the front of a document, and what follows it. -/
def readValue? (cs : List Char) : Option (Setting × List Char) :=
  value? (2 * cs.length + 2) maxDepth cs

end ValidatorAlarm.Toml
