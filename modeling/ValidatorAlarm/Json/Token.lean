import ValidatorAlarm.Number.Written
import ValidatorAlarm.Text.Form

/-!
# JSON tokens

The first half of reading JSON: characters become tokens.  White space disappears, numbers are
checked against their grammar and kept as written, and texts are kept as written between
their quotes.  What a text says is worked out only when somebody asks (`Raw.read?`), so a text that
nobody reads may hold escapes or bytes that denote no character.
-/
namespace ValidatorAlarm.Json

open Number (exponent?)
open Text.Form (digitValue?)

/-- A character of the input, or a byte that belongs to none. -/
abbrev Ink := Option Char

/-- A text as written between its quotes. -/
abbrev Raw := List Ink

/-- A number as written: a sign, the digits before and behind the point, and the exponent. -/
structure Literal where
  negative : Bool
  whole : List Char
  part : List Char
  power : Option Int
deriving DecidableEq, Repr

/-- Is the number written with neither point nor exponent? -/
def Literal.isInteger (n : Literal) : Bool := n.part.isEmpty && n.power.isNone

inductive Token where
  | openBrace | closeBrace | openBracket | closeBracket | comma | colon
  | null
  | bool (value : Bool)
  | number (value : Literal)
  | text (raw : Raw)
deriving DecidableEq, Repr

/-- The white space of the format. -/
def isBlank (c : Char) : Bool := c = ' ' || c = '\t' || c = '\n' || c = '\r'

/-- A whole part has no leading zero unless it is zero itself. -/
def isWhole (digits : List Char) : Bool :=
  match digits with
  | [] => false
  | ['0'] => true
  | c :: _ => c != '0'

/-- The number that a run of characters writes: a whole part, then a point with digits and an
exponent, each of the two if wanted. -/
def literal? (run : List Char) : Option Literal :=
  let negative := run.head? == some '-'
  let unsigned := if negative then run.drop 1 else run
  let whole := unsigned.takeWhile Char.isDigit
  let rest := unsigned.dropWhile Char.isDigit
  let part := match rest with
    | '.' :: r => r.takeWhile Char.isDigit
    | _ => []
  let tail := match rest with
    | '.' :: r => r.dropWhile Char.isDigit
    | r => r
  if !isWhole whole || (rest.head? == some '.' && part.isEmpty) then none
  else match tail with
    | [] => some ⟨negative, whole, part, none⟩
    | mark :: cs =>
      if mark = 'e' || mark = 'E' then (exponent? cs).map fun e => ⟨negative, whole, part, some e⟩
      else none

/-- The character that a letter behind a backslash stands for. -/
def escaped? : Char → Option Char
  | '"' => some '"'
  | '\\' => some '\\'
  | '/' => some '/'
  | 'b' => some '\x08'
  | 'f' => some '\x0c'
  | 'n' => some '\n'
  | 'r' => some '\r'
  | 't' => some '\t'
  | _ => none

/-- Where the reader stands; runs and texts under way are held in reverse. -/
inductive Mode where
  | between
  | number (run : List Char)
  | word (run : List Char)
  | text (raw : Raw)
  /-- Behind a backslash. -/
  | escape (raw : Raw)
  /-- In the code of a character, `missing` digits before its end. -/
  | code (missing : Nat) (raw : Raw)

/-- Can the character stand in a number? -/
def isNumberPart (c : Char) : Bool :=
  c.isDigit || c = '-' || c = '+' || c = '.' || c = 'e' || c = 'E'

def word? (word : List Char) : Option Token :=
  if word = ['n', 'u', 'l', 'l'] then some .null
  else if word = ['t', 'r', 'u', 'e'] then some (.bool true)
  else if word = ['f', 'a', 'l', 's', 'e'] then some (.bool false)
  else none

/-- The token that a run ends with. -/
def finish? : Mode → Option (List Token)
  | .between => some []
  | .number run => (literal? run.reverse).map fun n => [.number n]
  | .word run => (word? run.reverse).map ([·])
  | _ => none

def begin? (c : Char) : Option (List Token × Mode) :=
  if isBlank c then some ([], .between)
  else if c = '\x7b' then some ([.openBrace], .between)
  else if c = '\x7d' then some ([.closeBrace], .between)
  else if c = '[' then some ([.openBracket], .between)
  else if c = ']' then some ([.closeBracket], .between)
  else if c = ',' then some ([.comma], .between)
  else if c = ':' then some ([.colon], .between)
  else if c = '"' then some ([], .text [])
  else if c.isDigit || c = '-' then some ([], .number [c])
  else if c.isLower then some ([], .word [c])
  else none

/-- Reads one character: the tokens it completes and where the reader stands afterwards. -/
def step? (mode : Mode) (ink : Ink) : Option (List Token × Mode) :=
  match mode, ink with
  | .between, none => none
  | .between, some c => begin? c
  | .number _, none => none
  | .number run, some c =>
    if isNumberPart c then some ([], .number (c :: run))
    else do
      let out ← finish? (.number run)
      let (more, mode) ← begin? c
      some (out ++ more, mode)
  | .word _, none => none
  | .word run, some c =>
    if c.isLower then some ([], .word (c :: run))
    else do
      let out ← finish? (.word run)
      let (more, mode) ← begin? c
      some (out ++ more, mode)
  | .text raw, none => some ([], .text (none :: raw))
  | .text raw, some c =>
    if c = '"' then some ([.text raw.reverse], .between)
    else if c = '\\' then some ([], .escape (some c :: raw))
    else if c.toNat < 32 then none
    else some ([], .text (some c :: raw))
  | .escape _, none => none
  | .escape raw, some c =>
    if c = 'u' then some ([], .code 4 (some c :: raw))
    else if (escaped? c).isSome then some ([], .text (some c :: raw))
    else none
  | .code _ _, none => none
  | .code missing raw, some c =>
    if (digitValue? c).isNone then none
    else if missing ≤ 1 then some ([], .text (some c :: raw))
    else some ([], .code (missing - 1) (some c :: raw))

/-- The tokens of an input, from the given mode on. -/
def tokensFrom : Mode → List Ink → Option (List Token)
  | mode, [] => finish? mode
  | mode, ink :: rest => do
    let (out, next) ← step? mode ink
    let more ← tokensFrom next rest
    some (out ++ more)

def tokens? (input : List Ink) : Option (List Token) := tokensFrom .between input

/-- The code written by four digits. -/
def code? (a b c d : Ink) : Option Nat := do
  let a ← digitValue? (← a)
  let b ← digitValue? (← b)
  let c ← digitValue? (← c)
  let d ← digitValue? (← d)
  some (((a * 16 + b) * 16 + c) * 16 + d)

/-- Is the code the first half of a pair? -/
def isHighHalf (n : Nat) : Bool := 0xD800 ≤ n && n ≤ 0xDBFF

/-- Is the code the second half of a pair? -/
def isLowHalf (n : Nat) : Bool := 0xDC00 ≤ n && n ≤ 0xDFFF

/-- The characters of a text, if everything in it denotes one: no damaged bytes, and codes from the
surrogate range only as proper pairs. -/
def Raw.characters? : Raw → Option (List Char)
  | [] => some []
  | none :: _ => none
  | some '\\' :: some 'u' :: a :: b :: c :: d :: rest => do
    let high ← code? a b c d
    if isHighHalf high then
      match rest with
      | some '\\' :: some 'u' :: e :: f :: g :: h :: rest => do
        let low ← code? e f g h
        if isLowHalf low then
          let tail ← Raw.characters? rest
          some (Char.ofNat (0x10000 + (high - 0xD800) * 0x400 + (low - 0xDC00)) :: tail)
        else none
      | _ => none
    else if isLowHalf high then none
    else
      let tail ← Raw.characters? rest
      some (Char.ofNat high :: tail)
  | some '\\' :: some c :: rest => do
    let c ← escaped? c
    let tail ← Raw.characters? rest
    some (c :: tail)
  | some '\\' :: _ => none
  | some c :: rest => do
    let tail ← Raw.characters? rest
    some (c :: tail)

/-- The text that was written, if everything in it denotes a character. -/
def Raw.read? (raw : Raw) : Option String := raw.characters?.map String.ofList

end ValidatorAlarm.Json
