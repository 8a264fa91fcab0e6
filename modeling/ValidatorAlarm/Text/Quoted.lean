import ValidatorAlarm.Text.Extending

/-!
# Quoted texts

Messages quote a text or a character so that nothing in it can be mistaken for the message around
it.  The delimiter, the backslash and the common controls get a letter behind a backslash; any
other character that cannot be seen by itself is written by its code.
-/
namespace ValidatorAlarm.Text.Quoted

/-- The hexadecimal digits of `n`, in small letters and without leading zeros. -/
def hexDigits (n : Nat) : List Char := Nat.toDigits 16 n

/-- One character between the given delimiters. -/
def escape (delimiter c : Char) : List Char :=
  if c = '\x00' then ['\\', '0']
  else if c = '\t' then ['\\', 't']
  else if c = '\r' then ['\\', 'r']
  else if c = '\n' then ['\\', 'n']
  else if c = '\\' || c = delimiter then ['\\', c]
  else if isExtending c || isUnprintable c then
    ['\\', 'u', '\x7b'] ++ hexDigits c.toNat ++ ['\x7d']
  else [c]

def text (s : String) : String :=
  String.ofList ('"' :: s.toList.flatMap (escape '"') ++ ['"'])

def char (c : Char) : String :=
  String.ofList ('\'' :: escape '\'' c ++ ['\''])

end ValidatorAlarm.Text.Quoted
