import ValidatorAlarm.Url.Percent

/-!
# Paths

A path is read segment by segment: a segment of one dot adds nothing, and one of two dots takes the
segment before it away.  The letter of a drive stays where it is, whatever the scheme.
-/
namespace ValidatorAlarm.Url

/-- The text of a path, percent-encoded: every segment with a slash before it. -/
abbrev Path := List Char

namespace Path

/-- A segment with its encoded dots written plainly. -/
def plainDots : List Char → List Char
  | '%' :: '2' :: 'e' :: rest => '.' :: plainDots rest
  | '%' :: '2' :: 'E' :: rest => '.' :: plainDots rest
  | c :: rest => c :: plainDots rest
  | [] => []

def isHere (segment : List Char) : Bool := plainDots segment = ['.']

/-- A segment that takes the one before it away. -/
def isUp (segment : List Char) : Bool := plainDots segment = ['.', '.']

/-- The letter of a drive with its sign. -/
def isDrive : List Char → Bool
  | [c, sign] => c.isAlpha && (sign = ':' || sign = '|')
  | _ => false

/-- Does a segment stand for a drive?  What follows the drive behind a backslash does not matter. -/
def isFixed (segment : List Char) : Bool := isDrive (segment.takeWhile (· != '\\'))

def lastSegment (path : Path) : List Char := (path.reverse.takeWhile (· != '/')).reverse

/-- A path that ends in a slash, without its last segment. -/
def up (path : Path) : Path :=
  let bare := path.dropLast
  if bare.contains '/' && !isFixed (lastSegment bare) then (bare.reverse.dropWhile (· != '/')).reverse
  else path

/-- A path that ends in a slash, with one more segment and perhaps a slash behind it. -/
def add (path : Path) (segment : List Char) (slash : Bool) : Path :=
  if isUp segment then up path
  else if isHere segment then path
  else path ++ segment ++ (if slash then ['/'] else [])

/-- A path that ends in a slash, with more segments. -/
def addAll : Path → List (List Char) → Path
  | path, [] => path
  | path, [segment] => add path segment false
  | path, segment :: rest => addAll (add path segment true) rest

def ofSegments (segments : List (List Char)) : Path := addAll ['/'] segments

def trimFront (path : Path) : Path := '/' :: path.dropWhile (· = '/')

/-- A path with one more segment.  There is a slash between it and the last one, unless there is
nothing but a slash. -/
def push (path : Path) (segment : List Char) : Path :=
  add (if path.length = 1 then path else path ++ ['/']) segment false

/-- A path without one slash at its end, unless that is all of it. -/
def closeEnd (path : Path) : Path :=
  if path.length > 1 && path.getLast? = some '/' then path.dropLast else path

end Path

end ValidatorAlarm.Url
