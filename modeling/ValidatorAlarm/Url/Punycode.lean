/-!
# Names beyond ASCII, written in ASCII

A label with characters beyond ASCII is written as its ASCII characters, a hyphen, and then the
others: for each of them, in the order of their codes, a number that says how many steps lie between
it and the one before, where a step is a place in the label and after the last place the next code.
The numbers are little-endian in base 36, each ending with a digit below a threshold that adapts to
the numbers so far.
-/
namespace ValidatorAlarm.Url.Punycode

def firstCode : Nat := 128

/-- The bias before anything is written. -/
def firstBias : Nat := 72

/-- The threshold of the digit at position `k`, counted in steps of 36 from 36. -/
def threshold (bias k : Nat) : Nat := max 1 (min 26 (k - bias))

theorem threshold_pos (bias k : Nat) : 1 ≤ threshold bias k := Nat.le_max_left ..

/-- Digits from zero: the letters, then the figures. -/
def digit (n : Nat) : Char := if n < 26 then Char.ofNat (97 + n) else Char.ofNat (22 + n)

def digitValue? (c : Char) : Option Nat :=
  if c.isLower then some (c.toNat - 97)
  else if c.isUpper then some (c.toNat - 65)
  else if c.isDigit then some (c.toNat - 22)
  else none

/-- Divides down to at most 455 and counts the divisions in steps of 36. -/
def settleBias (delta steps : Nat) : Nat :=
  if delta > 455 then settleBias (delta / 35) (steps + 36) else steps + 36 * delta / (delta + 38)
termination_by delta
decreasing_by exact Nat.div_lt_self (by omega) (by omega)

/-- The bias after a number, when the label has `places` places filled. -/
def adapt (delta places : Nat) (first : Bool) : Nat :=
  let damped := if first then delta / 700 else delta / 2
  settleBias (damped + damped / places) 0

def writeNumber (bias k n : Nat) : List Char :=
  let t := threshold bias k
  if n < t then [digit n] else digit (t + (n - t) % (36 - t)) :: writeNumber bias (k + 36) ((n - t) / (36 - t))
termination_by n
decreasing_by
  have := threshold_pos bias k
  have := Nat.div_le_self (n - threshold bias k) (36 - threshold bias k)
  omega

/-- Where a writer stands. -/
structure State where
  code : Nat
  delta : Nat
  bias : Nat
  /-- How many places have been written. -/
  filled : Nat
  basic : Nat

/-- Passes the places of a label, writing those that hold `code`. -/
def writeCode (code : Nat) : State → List Nat → State × List Char
  | s, [] => (s, [])
  | s, c :: rest =>
    if c < code then writeCode code { s with delta := s.delta + 1 } rest
    else if c = code then
      let after : State := { s with
        delta := 0
        bias := adapt s.delta (s.filled + 1) (s.filled = s.basic)
        filled := s.filled + 1 }
      let (final, text) := writeCode code after rest
      (final, writeNumber s.bias 36 s.delta ++ text)
    else writeCode code s rest

/-- Writes the places that hold the given codes, which ascend. -/
def writeCodes (label : List Nat) : State → List Nat → List Char
  | _, [] => []
  | s, code :: rest =>
    let start : State := { s with delta := s.delta + (code - s.code) * (s.filled + 1) }
    let (s, text) := writeCode code start label
    text ++ writeCodes label { s with code := code + 1, delta := s.delta + 1 } rest

/-- The codes of a label beyond ASCII, each once and ascending. -/
def higherCodes (label : List Nat) : List Nat :=
  ((label.filter (· ≥ firstCode)).mergeSort (· ≤ ·)).eraseReps

def encode (label : List Char) : List Char :=
  let basic := label.filter (·.toNat < firstCode)
  let codes := label.map Char.toNat
  (if basic.isEmpty then [] else basic ++ ['-']) ++
    writeCodes codes ⟨firstCode, 0, firstBias, basic.length, basic.length⟩ (higherCodes codes)

/-- Where a reader stands: the label so far, the next place and code, and the number being read. -/
structure Reader where
  label : List Nat
  code : Nat
  place : Nat
  bias : Nat
  number : Nat
  weight : Nat
  position : Nat

/-- Puts the character of a complete number into the label. -/
def Reader.insert (r : Reader) (number : Nat) (first : Bool) : Reader :=
  let places := r.label.length + 1
  let code := r.code + number / places
  let place := number % places
  { label := r.label.take place ++ code :: r.label.drop place
    code := code
    place := place + 1
    bias := adapt (number - r.place) places first
    number := place + 1
    weight := 1
    position := 36 }

def readNumbers (first : Bool) : Reader → List Char → Option (List Nat)
  | r, [] => if r.position = 36 then some r.label else none
  | r, c :: rest =>
    match digitValue? c with
    | none => none
    | some d =>
      let number := r.number + d * r.weight
      let t := threshold r.bias r.position
      if d < t then readNumbers false (r.insert number first) rest
      else
        let next : Reader := { r with
          number := number
          weight := r.weight * (36 - t)
          position := r.position + 36 }
        readNumbers first next rest

def splitLastHyphen (text : List Char) : List Char × List Char :=
  let tail := text.reverse.takeWhile (· != '-')
  let head := text.reverse.dropWhile (· != '-')
  ((head.drop 1).reverse, tail.reverse)

/-- The label that is written in ASCII. -/
def decode? (text : List Char) : Option (List Char) := do
  let (basic, numbers) := splitLastHyphen text
  let codes ← readNumbers true ⟨basic.map Char.toNat, firstCode, 0, firstBias, 0, 1, 36⟩ numbers
  if codes.all (·.isValidChar) then some (codes.map Char.ofNat) else none

end ValidatorAlarm.Url.Punycode
