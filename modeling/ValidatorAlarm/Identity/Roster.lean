import ValidatorAlarm.Identity.Bech32
import ValidatorAlarm.Text.Form
import ValidatorAlarm.Text.Hex
import ValidatorAlarm.Text.Quoted

/-!
# Rosters

A roster names what to watch, one identity a line: a validator key as 192 hexadecimal digits, or
the bech32 address of an account whose staked keys are looked up in every cycle.  Blank lines and
lines that start with `#` say nothing; an identity may stand in double quotes.

`Roster.parse` is `parse_list`, and reads each line as `parse_line` and `decode_address` do; a
roster is the `IdentityList` that it fills.
-/
namespace ValidatorAlarm

/-- An account: the bytes of its address as hexadecimal digits, and the address as it was written. -/
structure Account where
  hex : String
  address : String
deriving DecidableEq, Repr

/-- What there is to watch, each kind in the order of its lines. -/
structure Roster where
  keys : List String
  accounts : List Account
deriving DecidableEq, Repr

namespace Roster

/-- Why a line names no identity. -/
inductive Flaw where
  /-- A text of the length of a key has a byte that is no hexadecimal digit. -/
  | badKey (flaw : Text.Hex.Flaw)
  /-- No bech32 text. -/
  | notBech32 (text : String)
  /-- An address of some other network. -/
  | wrongLabel (text : String)
  /-- An address of the wrong length. -/
  | wrongLength (text : String) (length : Nat)
deriving DecidableEq, Repr

/-- The readable part of every address. -/
def label : String := "erd"

def addressLength : Nat := 32

/-- The bytes of a validator key. -/
def keyLength : Nat := 96

/-- The hexadecimal digits of a validator key. -/
def keyDigits : Nat := 192

namespace Flaw

/-- The text of a flaw; a text that is no bech32 at all is not described further. -/
def message? : Flaw → Option String
  | .badKey (.badDigit byte index) =>
    some s!"invalid BLS key: Invalid character {Text.Quoted.char (Char.ofNat byte.toNat)} at position {index}"
  | .badKey .oddLength => some "invalid BLS key: Odd number of digits"
  | .notBech32 _ => none
  | .wrongLabel text => some s!"invalid bech32 address {text}: expected prefix {label}"
  | .wrongLength text length =>
    some s!"invalid bech32 address {text}: decoded length {length} is not {addressLength}"

end Flaw

def decodeAddress (text : String) : Except Flaw Account :=
  match Bech32.decode? text.toList with
  | none => .error (.notBech32 text)
  | some (readable, bytes) =>
    if readable ≠ label.toList then .error (.wrongLabel text)
    else if bytes.length ≠ addressLength then .error (.wrongLength text bytes.length)
    else .ok ⟨Text.Hex.encode bytes, text⟩

/-- Is this one of the characters removed around a line? -/
def isPadding (c : Char) : Bool := c = ' ' || c = '\t' || c = '\r' || c = '\n'

/-- The text without padding at its ends. -/
def trim (line : List Char) : List Char :=
  ((line.dropWhile isPadding).reverse.dropWhile isPadding).reverse

/-- The text between a quote at the start and a quote at the end, if both are there. -/
def unquote (line : List Char) : List Char :=
  match line with
  | '"' :: rest => if rest.getLast? = some '"' then rest.dropLast else line
  | _ => line

/-- One identity. -/
inductive Identity where
  | key (digits : String)
  | account (account : Account)
deriving DecidableEq, Repr

def readIdentity (text : String) : Except Flaw Identity :=
  if (Text.utf8 text).length = keyDigits then
    match Text.Hex.decode (Text.utf8 text) with
    | .error flaw => .error (.badKey flaw)
    | .ok _ => .ok (.key text)
  else (decodeAddress text).map .account

def readLine (line : List Char) : Except Flaw (Option Identity) :=
  match trim line with
  | [] => .ok none
  | '#' :: _ => .ok none
  | text => (readIdentity (String.ofList (unquote text))).map some

def lines (cs : List Char) : List (List Char) := Text.Form.splitAt '\n' cs

def add (roster : Roster) : Identity → Roster
  | .key digits => { roster with keys := roster.keys ++ [digits] }
  | .account account => { roster with accounts := roster.accounts ++ [account] }

/-- Reads lines, the first of which has the given number; stops at the first flaw. -/
def readLines (number : Nat) : List (List Char) → Roster → Except (Nat × Flaw) Roster
  | [], roster => .ok roster
  | line :: rest, roster =>
    match readLine line with
    | .error flaw => .error (number, flaw)
    | .ok none => readLines (number + 1) rest roster
    | .ok (some identity) => readLines (number + 1) rest (roster.add identity)

/-- The roster written in a text, or the number of its first flawed line, counted from zero. -/
def parse (contents : String) : Except (Nat × Flaw) Roster :=
  readLines 0 (lines contents.toList) ⟨[], []⟩

def isEmpty (roster : Roster) : Bool := roster.keys.isEmpty && roster.accounts.isEmpty

end Roster

end ValidatorAlarm
