import ValidatorAlarm.Text.Bytes
import ValidatorAlarm.Text.Composed
import ValidatorAlarm.Url.Domain.Direction
import ValidatorAlarm.Url.Domain.Joining
import ValidatorAlarm.Url.Domain.Mapping
import ValidatorAlarm.Url.Punycode

/-!
# Domain names

A domain name is brought into the one form in which it is looked up: every character replaced by
what it stands for, the whole in its composed writing, and each label beyond ASCII in its ASCII
writing.  A label that is given in ASCII writing already has to be the writing of a label in that
form.  The steps and conditions are those of Unicode for the names of hosts, without the ones on
hyphens and lengths.
-/
namespace ValidatorAlarm.Url.Domain

def isAscii (c : Char) : Bool := c.toNat < 128

/-- The codes that a character stands for, if it may occur. -/
def codes? (c : Char) : Option (List Nat) :=
  if isAscii c then some [c.toLower.toNat] else meaning? c.toNat

/-- A name as it is compared, if all its characters may occur. -/
def folded? (name : List Char) : Option (List Char) := do
  if name.all isAscii then return name.map Char.toLower
  let codes ← name.mapM codes?
  return (Text.Composed.ofCodes codes.flatten).map Char.ofNat

/-- Starts a label in ASCII writing. -/
def asciiMark : List Char := ['x', 'n', '-', '-']

/-- The longest ASCII writing that is read, behind its start. -/
def maxWritten : Nat := 2000

/-- The longest label that is written in ASCII. -/
def maxShown : Nat := 1000

/-- A label: its characters, and its ASCII writing. -/
structure Label where
  shown : List Char
  written : List Char
deriving DecidableEq, Repr

namespace Label

/-- Is this a label beyond ASCII?  It is not too long to be written in ASCII, it does not begin with a
mark, and its joiners join something. -/
def isShown (label : List Char) : Bool :=
  !label.all isAscii && label.length ≤ maxShown && !(label.head?.any Text.isMark) && joinersFit [] label

/-- Reads a label in ASCII writing. -/
def ofWritten? (written : List Char) : Option Label := do
  let inner := written.drop asciiMark.length
  if maxWritten < inner.length then none
  let shown ← Punycode.decode? inner
  if isShown shown && folded? shown = some shown then some ⟨shown, written⟩ else none

def read? (label : List Char) : Option Label :=
  if asciiMark.isPrefixOf label then
    if label.all isAscii then ofWritten? label else none
  else if label.all isAscii then some ⟨label, label⟩
  else if isShown label then some ⟨label, asciiMark ++ Punycode.encode label⟩
  else none

end Label

/-- The ASCII form of a name that holds none of the characters that are forbidden. -/
def ofName? (isForbidden : Char → Bool) (name : List Char) : Option (List Char) := do
  let labels ← (Text.Form.splitAt '.' (← folded? name)).mapM Label.read?
  if areDirected (labels.map (·.shown)) && !labels.any (·.written.any isForbidden) then
    some (List.intercalate ['.'] (labels.map (·.written)))
  else none

/-- Must not stand in the name of a host. -/
def isForbidden (c : Char) : Bool :=
  c.toNat ≤ 32 || c.toNat = 127 ||
    ['%', '#', '/', ':', '<', '>', '?', '@', '[', '\\', ']', '^', '|'].contains c

/-- The name of a host, given by the bytes of a text. -/
def ofBytes? (bytes : List UInt8) : Option (List Char) := do
  ofName? isForbidden (← Text.ofUtf8? bytes).toList

end ValidatorAlarm.Url.Domain
