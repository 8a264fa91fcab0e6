import ValidatorAlarm.Toml.Value

/-!
# TOML documents

A document is read line by line.  A header in brackets states the table that the entries below it
belong to; one in double brackets states one more of the tables with one name.  Entries above the
first header belong to the document itself.
-/
namespace ValidatorAlarm.Toml

/-- A document under construction. -/
structure Draft where
  root : Node
  /-- The path to the table of the last header. -/
  current : List String

namespace Draft

/-- The document before its first line. -/
def blank : Draft := ⟨.root, []⟩

/-- States the table of a header. -/
def state (draft : Draft) (key : Key) : Option Draft := do
  return ⟨← draft.root.state key.path key.last, key.path ++ [key.last]⟩

/-- States one more of the tables with the name in a header. -/
def stateNext (draft : Draft) (key : Key) : Option Draft := do
  return ⟨← draft.root.stateNext key.path key.last, key.path ++ [key.last]⟩

/-- Writes an entry below the last header. -/
def write (draft : Draft) (key : Key) (value : Setting) : Option Draft := do
  return { draft with
    root := ← draft.root.within false (·.write key.path key.last value) draft.current }

end Draft

/-- Reads what a line says, up to its end. -/
def statement? (draft : Draft) : List Char → Option (Draft × List Char)
  | [] => some (draft, [])
  | '#' :: rest => some (draft, '#' :: rest)
  | '\n' :: rest => some (draft, '\n' :: rest)
  | '\r' :: rest => some (draft, '\r' :: rest)
  | '[' :: '[' :: rest => do
    match ← Key.read? rest with
    | (key, ']' :: ']' :: rest) => return (← draft.stateNext key, rest)
    | _ => none
  | '[' :: rest => do
    match ← Key.read? rest with
    | (key, ']' :: rest) => return (← draft.state key, rest)
    | _ => none
  | cs => do
    match ← Key.read? cs with
    | (key, '=' :: rest) =>
      let (value, rest) ← readValue? (skipBlanks rest)
      return (← draft.write key value, rest)
    | _ => none

/-- Reads lines to the end of the document.  The fuel bounds their number. -/
def lines? : Nat → Draft → List Char → Option Draft
  | _, draft, [] => some draft
  | 0, _, _ => none
  | fuel + 1, draft, cs => do
    let (draft, rest) ← statement? draft (skipBlanks cs)
    lines? fuel draft (← restOfLine? rest)

/-- A document without the mark of its byte order. -/
def dropByteOrderMark : List Char → List Char
  | '\ufeff' :: rest => rest
  | cs => cs

/-- The table that a document writes, if it is a document. -/
def document? (s : String) : Option Setting :=
  let cs := dropByteOrderMark s.toList
  (lines? (cs.length + 1) .blank cs).map fun draft => draft.root.value

end ValidatorAlarm.Toml
