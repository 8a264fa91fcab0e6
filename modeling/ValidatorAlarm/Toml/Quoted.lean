import ValidatorAlarm.Text.Form
import ValidatorAlarm.Toml.Space

/-!
# Quoted texts in TOML

A text stands between two quotes on one line, or between two triple quotes on any number of lines.
Between single quotes everything stands for itself; between double quotes a backslash begins an
escape, and at the end of a line it joins the line to the next character that is neither blank nor
line end.  A line end right behind opening triple quotes does not count, and up to two quotes may
stand right before closing ones.  A line end is a line feed, with or without a carriage return before
it; a text keeps the one it was written with.

Reading takes two steps: what stands between the quotes is cut out, and then its escapes are
resolved.
-/
namespace ValidatorAlarm.Toml.Quoted

open Text.Form (digitValue?)

/-- What stands before the closing quote, and what follows it.  A backslash guards the character
behind it if texts between these quotes have escapes. -/
def cut? (quote : Char) (escapes : Bool) : List Char → Option (List Char × List Char)
  | [] => none
  | [c] => if c = quote then some ([], []) else none
  | c :: d :: rest =>
    if c = quote then some ([], d :: rest)
    else if c = '\\' && escapes then
      (cut? quote escapes rest).map fun (body, tail) => (c :: d :: body, tail)
    else (cut? quote escapes (d :: rest)).map fun (body, tail) => (c :: body, tail)

/-- What stands before closing triple quotes, and what follows them. -/
def cutLines? (quote : Char) (escapes : Bool) : List Char → Option (List Char × List Char)
  | [] => none
  | c :: rest =>
    if c = quote then
      match rest with
      | d :: e :: tail =>
        if d = quote && e = quote then
          -- the last three of up to five quotes close the text
          let extra := (tail.take 2).takeWhile (· == quote)
          some (extra, tail.drop extra.length)
        else (cutLines? quote escapes rest).map fun (body, tail) => (c :: body, tail)
      | _ => none
    else if c = '\\' && escapes then
      match rest with
      | [] => none
      | d :: rest => (cutLines? quote escapes rest).map fun (body, tail) => (c :: d :: body, tail)
    else (cutLines? quote escapes rest).map fun (body, tail) => (c :: body, tail)

/-- Is every carriage return a part of a line end? -/
def endsLines : List Char → Bool
  | '\r' :: '\n' :: rest => endsLines rest
  | c :: rest => c != '\r' && endsLines rest
  | [] => true

/-- What stands between triple quotes, without a line end at its front, if its line ends are in
order. -/
def lines? (body : List Char) : Option (List Char) :=
  if !endsLines body then none
  else match body with
    | '\r' :: '\n' :: rest => some rest
    | '\n' :: rest => some rest
    | rest => some rest

/-- Is the character a line end or a part of one? -/
def isLineEnd (c : Char) : Bool := c = '\n' || c = '\r'

/-- May the character stand for itself? -/
def isAllowed (lines : Bool) (c : Char) : Bool := isPlain c || (lines && isLineEnd c)

/-- The character that a letter behind a backslash stands for. -/
def escaped? : Char → Option Char
  | '"' => some '"'
  | '\\' => some '\\'
  | 'b' => some '\x08'
  | 'e' => some '\x1b'
  | 'f' => some '\x0c'
  | 'n' => some '\n'
  | 'r' => some '\r'
  | 't' => some '\t'
  | _ => none

/-- The digits of the code that a letter behind a backslash announces. -/
def codeLength? : Char → Option Nat
  | 'x' => some 2
  | 'u' => some 4
  | 'U' => some 8
  | _ => none

/-- Where the resolution of escapes stands. -/
inductive Mode where
  | plain
  /-- Behind a backslash. -/
  | escape
  /-- In the code of a character, `missing` digits before its end. -/
  | code (missing value : Nat)
  /-- In the blanks behind a backslash at the end of a line. -/
  | joining
  /-- Behind the end of that line. -/
  | joined

/-- The character with a code, which surrogates do not have. -/
def character? (code : Nat) : Option Char := if code.isValidChar then some (Char.ofNat code) else none

/-- Reads a character that no escape has begun before. -/
def stepPlain? (lines : Bool) (c : Char) : Option (List Char × Mode) :=
  if c = '\\' then some ([], .escape)
  else if isAllowed lines c then some ([c], .plain)
  else none

/-- Reads one character: what it adds to the text, and where the resolution stands afterwards. -/
def step? (lines : Bool) : Mode → Char → Option (List Char × Mode)
  | .plain, c => stepPlain? lines c
  | .escape, c =>
    match escaped? c, codeLength? c with
    | some d, _ => some ([d], .plain)
    | none, some length => some ([], .code length 0)
    | none, none =>
      if lines && isBlank c then some ([], .joining)
      else if lines && isLineEnd c then some ([], .joined)
      else none
  | .code missing value, c => do
    let value := value * 16 + (← digitValue? c)
    if missing ≤ 1 then some ([← character? value], .plain) else some ([], .code (missing - 1) value)
  | .joining, c =>
    if isBlank c then some ([], .joining) else if isLineEnd c then some ([], .joined) else none
  | .joined, c => if isBlank c || isLineEnd c then some ([], .joined) else stepPlain? lines c

def Mode.isFinal : Mode → Bool
  | .plain => true
  | .joined => true
  | _ => false

/-- The text with its escapes resolved, from the given mode on. -/
def resolveFrom (lines : Bool) : Mode → List Char → Option (List Char)
  | mode, [] => if mode.isFinal then some [] else none
  | mode, c :: rest => do
    let (out, mode) ← step? lines mode c
    return out ++ (← resolveFrom lines mode rest)

/-- A text in which everything stands for itself. -/
def literal? (lines : Bool) (body : List Char) : Option (List Char) :=
  if body.all (isAllowed lines) then some body else none

/-- Resolves what stood between quotes, and makes a text of it. -/
def finish (resolve : List Char → Option (List Char)) (cut : Option (List Char × List Char)) :
    Option (String × List Char) := do
  let (body, rest) ← cut
  return (String.ofList (← resolve body), rest)

/-- A text on one line at the front of a document, and what follows it. -/
def line? : List Char → Option (String × List Char)
  | '"' :: rest => finish (resolveFrom false .plain) (cut? '"' true rest)
  | '\'' :: rest => finish (literal? false) (cut? '\'' false rest)
  | _ => none

/-- A text at the front of a document, and what follows it. -/
def text? : List Char → Option (String × List Char)
  | '"' :: '"' :: '"' :: rest =>
    finish (fun body => lines? body >>= resolveFrom true .plain) (cutLines? '"' true rest)
  | '\'' :: '\'' :: '\'' :: rest =>
    finish (fun body => lines? body >>= literal? true) (cutLines? '\'' false rest)
  | cs => line? cs

end ValidatorAlarm.Toml.Quoted
