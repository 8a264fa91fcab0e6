import ValidatorAlarm.Text.Composite
import ValidatorAlarm.Text.Rank

/-!
# The composed writing of a text

A text is taken apart into plain characters and marks, the marks behind each plain character are put
into the order of their ranks, and what makes up a composite is joined again (normalization form C).
Two texts that look the same by these rules have one composed writing.

The syllables of Hangul are composites of two or three letters.  They are numbered through: the first
letter counts most, then the second; the third may be missing.
-/
namespace ValidatorAlarm.Text.Composed

namespace Hangul

def syllables : Nat := 0xAC00

def firsts : Nat := 0x1100

/-- How many first letters there are. -/
def firstCount : Nat := 19

/-- The first of the second letters. -/
def seconds : Nat := 0x1161

/-- How many second letters there are. -/
def secondCount : Nat := 21

/-- The code before the first of the third letters, which counts as a missing one. -/
def thirds : Nat := 0x11A7

/-- How many third letters there are, with the missing one. -/
def thirdCount : Nat := 28

/-- Is the code among `count` codes from `start` on? -/
def isIn (start count code : Nat) : Bool := start ≤ code && code < start + count

def isSyllable (code : Nat) : Bool := isIn syllables (firstCount * secondCount * thirdCount) code

def letters (code : Nat) : List Nat :=
  let n := code - syllables
  let pair := [firsts + n / (secondCount * thirdCount), seconds + n / thirdCount % secondCount]
  if n % thirdCount = 0 then pair else pair ++ [thirds + n % thirdCount]

/-- The syllable of two letters, or of a syllable without a third letter and that letter. -/
def join? (a b : Nat) : Option Nat :=
  if isIn firsts firstCount a && isIn seconds secondCount b then
    some (syllables + ((a - firsts) * secondCount + (b - seconds)) * thirdCount)
  else if isSyllable a && (a - syllables) % thirdCount = 0 && isIn (thirds + 1) (thirdCount - 1) b then
    some (a + (b - thirds))
  else none

end Hangul

/-- A code taken apart.  The fuel bounds the depth of composites within composites. -/
def takeApart : Nat → Nat → List Nat
  | 0, code => [code]
  | fuel + 1, code =>
    if code < 128 then [code]
    else if Hangul.isSyllable code then Hangul.letters code
    else match Composite.split? code with
      | some pair => pair.flatMap (takeApart fuel)
      | none => [code]

/-- How deep composites are nested at most. -/
def depth : Nat := 4

/-- Puts a mark among others, behind those whose rank is not higher. -/
def insertMark (mark : Nat) : List Nat → List Nat
  | [] => [mark]
  | other :: rest =>
    if rank mark < rank other then mark :: other :: rest else other :: insertMark mark rest

/-- The marks of a text in the order of their ranks.  `marks` are those behind the last plain
character, in order. -/
def orderMarks (marks : List Nat) : List Nat → List Nat
  | [] => marks
  | code :: rest =>
    if rank code = 0 then marks ++ code :: orderMarks [] rest
    else orderMarks (insertMark code marks) rest

def join? (a b : Nat) : Option Nat :=
  match Hangul.join? a b with
  | some syllable => some syllable
  | none => Composite.join? a b

/-- Joins composites.  `base` is the last plain character, `kept` the marks behind it that could not
be joined with it, the last one first.  A mark is kept from the base by one of its own rank, and a
plain character by any mark. -/
def joinFrom (base : Option Nat) (kept : List Nat) : List Nat → List Nat
  | [] => base.toList ++ kept.reverse
  | code :: rest =>
    let blocked := match kept with
      | [] => false
      | last :: _ => rank code ≤ rank last
    match (if blocked then none else base.bind (join? · code)) with
    | some joined => joinFrom (some joined) kept rest
    | none =>
      if rank code = 0 then base.toList ++ kept.reverse ++ joinFrom (some code) [] rest
      else joinFrom base (code :: kept) rest

/-- The composed writing of some codes. -/
def ofCodes (codes : List Nat) : List Nat :=
  joinFrom none [] (orderMarks [] (codes.flatMap (takeApart depth)))

end ValidatorAlarm.Text.Composed
