import ValidatorAlarm.Text.Form

/-!
# Blocks of characters

A table from characters to texts, written in hexadecimal.  A block covers consecutive characters: it
names the code of the first and lists the texts of all of them, with blanks in between.  The codes
of one text are joined by `+`; `-` stands where a character has no text.
-/
namespace ValidatorAlarm.Text

/-- The first code, and the texts from there on. -/
abbrev Block := Nat × String

namespace Block

open Form (splitAt digitValue?)

def code (digits : List Char) : Nat :=
  digits.foldl (fun n c => 16 * n + (digitValue? c).getD 0) 0

def entry (written : List Char) : Option (List Nat) :=
  if written = ['-'] then none else some ((splitAt '+' written).map code)

def entries (block : Block) : List (Option (List Nat)) := (splitAt ' ' block.2.toList).map entry

/-- The last block that does not begin behind a code. -/
def upTo? (blocks : List Block) (code : Nat) : Option Block :=
  blocks.foldl (fun best block => if block.1 ≤ code then some block else best) none

def find? (blocks : List Block) (code : Nat) : Option (List Nat) := do
  let block ← upTo? blocks code
  (← block.entries[code - block.1]?)

end Block

end ValidatorAlarm.Text
