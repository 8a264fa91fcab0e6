/-!
# Bech32 texts

A bech32 text is a readable part, the separator `1`, and letters of 5 bits each, the last six of
which are a checksum over everything before.  The checksum is the remainder of a polynomial
division; two constants are accepted for it, which distinguishes the older from the newer form.
A text is all small or all capital.

`decode?` reads a text, `encode` writes one.  Bits left over below a whole byte are not looked at
when reading, so the writer takes them as an argument.
-/
namespace ValidatorAlarm.Bech32

/-- The 32 letters, in the order of their values. -/
def letters : List Char := "qpzry9x8gf2tvdw0s3jn54khce6mua7l".toList

/-- The small letter for an ASCII capital. -/
def small (c : Char) : Char := if c.isUpper then Char.ofNat (c.toNat + 32) else c

def value? (c : Char) : Option Nat := letters.idxOf? (small c)

def letter (v : Nat) : Char := letters.getD v 'q'

/-- The remainder that is folded back for each bit that leaves the register, lowest bit first. -/
def generators : List (BitVec 30) :=
  [0x3b6a57b2#30, 0x26508e6d#30, 0x1ea119fa#30, 0x3d4233dd#30, 0x2a1462b3#30]

/-- What the bits of the 5-bit value `top` fold back into the register. -/
def fold (top : BitVec 30) : BitVec 30 :=
  ((List.range 5).zip generators).foldl
    (fun acc (i, g) => if top.getLsbD i then acc ^^^ g else acc) 0#30

/-- Takes one more value into the register. -/
def feed (register : BitVec 30) (v : Nat) : BitVec 30 :=
  ((register <<< 5) ^^^ BitVec.ofNat 30 v) ^^^ fold (register >>> 25)

/-- The register after the values, starting from one. -/
def residue (values : List Nat) : BitVec 30 := values.foldl feed 1#30

/-- The two forms of the checksum. -/
inductive Form where
  | plain
  | modified
deriving DecidableEq, Repr

/-- The residue of a whole text with a right checksum. -/
def Form.target : Form → BitVec 30
  | .plain => 1#30
  | .modified => 0x2bc830a3#30

/-- The readable part as values: the high bits, a zero, the low bits. -/
def expand (label : List Char) : List Nat :=
  label.map (fun c => c.toNat / 32) ++ 0 :: label.map fun c => c.toNat % 32

/-- Values of 5 bits regrouped into bytes; bits left over at the end are dropped. -/
def toBytes (values : List Nat) : List UInt8 :=
  go 0 0 values
where
  /-- `count` bits, worth `bits`, are waiting. -/
  go (count bits : Nat) : List Nat → List UInt8
  | [] => []
  | v :: rest =>
    let bits := bits * 32 + v
    if count + 5 ≥ 8 then
      UInt8.ofNat (bits / Nat.pow 2 (count - 3)) :: go (count - 3) (bits % Nat.pow 2 (count - 3)) rest
    else go (count + 5) bits rest

/-- Bytes regrouped into values of 5 bits; the last value is filled up with bits of `filler`. -/
def ofBytes (filler : Nat) (bytes : List UInt8) : List Nat :=
  go 0 0 bytes
where
  /-- `count` bits, worth `bits`, are waiting, fewer than five. -/
  go (count bits : Nat) : List UInt8 → List Nat
  | [] => if count = 0 then [] else [bits * Nat.pow 2 (5 - count) + filler % Nat.pow 2 (5 - count)]
  | b :: rest =>
    let bits := bits * 256 + b.toNat
    if count + 8 ≥ 10 then
      bits / Nat.pow 2 (count + 3) :: bits / Nat.pow 2 (count - 2) % 32 ::
        go (count - 2) (bits % Nat.pow 2 (count - 2)) rest
    else bits / Nat.pow 2 (count + 3) :: go (count + 3) (bits % Nat.pow 2 (count + 3)) rest

/-- The six values that give the text its checksum. -/
def checksum (form : Form) (label : List Char) (values : List Nat) : List Nat :=
  let register := residue (expand label ++ values ++ List.replicate 6 0) ^^^ form.target
  [25, 20, 15, 10, 5, 0].map fun shift => (register >>> shift).toNat % 32

def maxLength : Nat := 1023

def maxLabel : Nat := 83

def splitLast? (s : List Char) : Option (List Char × List Char) :=
  let tail := s.reverse.takeWhile (· != '1')
  let head := s.reverse.dropWhile (· != '1')
  match head with
  | [] => none
  | _ :: label => some (label.reverse, tail.reverse)

/-- Does the text hold both small and capital ASCII letters? -/
def mixedCase (s : List Char) : Bool := s.any Char.isUpper && s.any Char.isLower

/-- The readable part in small letters and the bytes of a text. -/
def decode? (s : List Char) : Option (List Char × List UInt8) := do
  let (label, data) ← splitLast? s
  let values ← data.mapM value?
  if mixedCase s || label.isEmpty || label.length > maxLabel ||
      label.any (fun c => c.toNat < 33 || c.toNat > 126) ||
      s.length > maxLength || values.length < 6 then none
  else
    let remainder := residue (expand (label.map small) ++ values)
    if remainder = Form.plain.target || remainder = Form.modified.target then
      some (label.map small, toBytes (values.take (values.length - 6)))
    else none

/-- The text of some bytes behind a readable part, in small letters. -/
def encode (form : Form) (label : List Char) (filler : Nat) (bytes : List UInt8) : List Char :=
  let values := ofBytes filler bytes
  label ++ '1' :: (values ++ checksum form label values).map letter

end ValidatorAlarm.Bech32
