import ValidatorAlarm.Text.Form

/-!
# Percent encoding in links

Each part of a link has its own set of characters that may not stand for themselves.  Controls and
everything beyond ASCII never may; the sets below list what else each part reserves.
-/
namespace ValidatorAlarm.Url

def fragmentReserved : List Char := [' ', '"', '<', '>', '\x60']

def pathReserved : List Char := ['#', '?', '\x7b', '\x7d'] ++ fragmentReserved

/-- Reserved in a single segment that is put into a path. -/
def segmentReserved : List Char := ['/', '%'] ++ pathReserved

def userReserved : List Char := ['/', ':', ';', '=', '@', '[', '\\', ']', '^', '|'] ++ pathReserved

def queryReserved : List Char := [' ', '"', '#', '<', '>']

/-- Does the character have to be encoded? -/
def isReserved (reserved : List Char) (c : Char) : Bool :=
  c.toNat < 32 || 127 ≤ c.toNat || reserved.contains c

def encodeChar (reserved : List Char) (c : Char) : List Char :=
  if isReserved reserved c then (String.utf8EncodeChar c).flatMap Text.Form.percent else [c]

def encode (reserved : List Char) (text : List Char) : List Char := text.flatMap (encodeChar reserved)

/-- The bytes that a text stands for.  A `%` without two digits stands for itself. -/
def decode : List Char → List UInt8
  | [] => []
  | '%' :: h :: l :: rest =>
    match Text.Form.digitValue? h, Text.Form.digitValue? l with
    | some a, some b => UInt8.ofNat (16 * a + b) :: decode rest
    | _, _ => 37 :: decode (h :: l :: rest)
  | c :: rest => String.utf8EncodeChar c ++ decode rest

end ValidatorAlarm.Url
