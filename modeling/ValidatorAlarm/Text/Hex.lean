/-!
# Hexadecimal

Two digits stand for a byte.  Writing uses small letters; reading takes either case and names the
first byte that is no digit.
-/
namespace ValidatorAlarm.Text.Hex

/-- The digit of a value below 16. -/
def digit (n : Nat) : Char := if n < 10 then Char.ofNat (48 + n) else Char.ofNat (87 + n)

/-- The two digits of a byte. -/
def pair (b : UInt8) : List Char := [digit (b.toNat / 16), digit (b.toNat % 16)]

def encode (bytes : List UInt8) : String := String.ofList (bytes.flatMap pair)

/-- The value of a digit, written as an ASCII byte. -/
def digitValue? (b : UInt8) : Option Nat :=
  let n := b.toNat
  if 48 ≤ n && n ≤ 57 then some (n - 48)
  else if 97 ≤ n && n ≤ 102 then some (n - 87)
  else if 65 ≤ n && n ≤ 70 then some (n - 55)
  else none

/-- Why a text is not hexadecimal. -/
inductive Flaw where
  /-- There is a digit without a partner. -/
  | oddLength
  /-- The byte at this index is no digit. -/
  | badDigit (byte : UInt8) (index : Nat)
deriving DecidableEq, Repr

def decodePairs (index : Nat) : List UInt8 → Except Flaw (List UInt8)
  | [] => .ok []
  | [_] => .error .oddLength
  | high :: low :: rest =>
    match digitValue? high with
    | none => .error (.badDigit high index)
    | some h =>
      match digitValue? low with
      | none => .error (.badDigit low (index + 1))
      | some l => (decodePairs (index + 2) rest).map (UInt8.ofNat (16 * h + l) :: ·)

/-- The bytes that an ASCII text of digits stands for. -/
def decode (digits : List UInt8) : Except Flaw (List UInt8) :=
  if digits.length % 2 = 1 then .error .oddLength else decodePairs 0 digits

end ValidatorAlarm.Text.Hex
