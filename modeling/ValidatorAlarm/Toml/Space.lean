/-!
# Space in a TOML document

Blanks, line ends and comments.  A line ends with a line feed, with or without a carriage return
before it.  A comment goes from `#` to the end of its line and holds no control characters apart
from tabs.
-/
namespace ValidatorAlarm.Toml

/-- A blank does not end a line. -/
def isBlank (c : Char) : Bool := c = ' ' || c = '\t'

/-- Characters that may stand in a comment, or as themselves in a text on one line. -/
def isPlain (c : Char) : Bool := c = '\t' || (32 ≤ c.toNat && c.toNat ≠ 127)

def skipBlanks (cs : List Char) : List Char := cs.dropWhile isBlank

/-- What follows the end of the line; a document that ends also ends its last line. -/
def lineEnd? : List Char → Option (List Char)
  | [] => some []
  | '\n' :: rest => some rest
  | '\r' :: '\n' :: rest => some rest
  | _ => none

/-- What follows a line that holds nothing more than blanks and a comment. -/
def restOfLine? (cs : List Char) : Option (List Char) :=
  match skipBlanks cs with
  | '#' :: comment => lineEnd? (comment.dropWhile isPlain)
  | rest => lineEnd? rest

/-- What follows blanks, line ends and comments.  The flag says whether a comment is under way. -/
def skipSpace : Bool → List Char → Option (List Char)
  | _, [] => some []
  | _, '\n' :: rest => skipSpace false rest
  | _, '\r' :: '\n' :: rest => skipSpace false rest
  | true, c :: rest => if isPlain c then skipSpace true rest else none
  | false, '#' :: rest => skipSpace true rest
  | false, c :: rest => if isBlank c then skipSpace false rest else some (c :: rest)

end ValidatorAlarm.Toml
