import ValidatorAlarm.Url.Host
import ValidatorAlarm.Url.Path

/-!
# Links

A link has a scheme, usually an authority, a path of segments, and perhaps a query and a fragment.
`Url.parse?` reads one as it may be typed, with blanks around it and line ends within; `Url.text`
writes the one form that it stands for.  Links whose path is not made of segments, like those for
mails, are not read.
-/
namespace ValidatorAlarm

structure Url where
  scheme : List Char
  authority : Option Url.Authority
  /-- Is the path set apart by a dot, because it could be taken for an authority? -/
  isSetApart : Bool
  path : Url.Path
  query : Option (List Char)
  fragment : Option (List Char)
deriving DecidableEq, Repr

namespace Url

/-- A character that does not count: a tab or part of a line end. -/
def isIgnored (c : Char) : Bool := c = '\t' || c = '\n' || c = '\r'

def shown (text : List Char) : List Char := text.filter (!isIgnored ·)

/-- The typed text without the blanks and controls at its ends. -/
def trim (text : List Char) : List Char :=
  ((text.dropWhile (· ≤ ' ')).reverse.dropWhile (· ≤ ' ')).reverse

/-- Can the character stand in a scheme? -/
def isSchemeChar (c : Char) : Bool := c.isAlphanum || c = '+' || c = '-' || c = '.'

/-- The scheme in small letters and the text behind its colon. -/
def splitScheme? (text : List Char) : Option (List Char × List Char) :=
  let isPart (c : Char) := isSchemeChar c || isIgnored c
  let scheme := shown (text.takeWhile isPart)
  match text.dropWhile isPart with
  | ':' :: rest =>
    if scheme.head?.any Char.isAlpha then some (scheme.map Char.toLower, rest) else none
  | _ => none

/-- The text before the first separator and the text behind it, if there is one. -/
def cut (separator : Char) (text : List Char) : List Char × Option (List Char) :=
  (text.takeWhile (· != separator),
    match text.dropWhile (· != separator) with
    | [] => none
    | _ :: rest => some rest)

def isSlash (c : Char) : Bool := c = '/' || c = '\\'

/-- The parts of a text between slashes of either direction. -/
def splitSlashes (text : List Char) : List (List Char) :=
  Text.Form.splitAt '/' (text.map fun c => if c = '\\' then '/' else c)

/-- A text without one slash at its front. -/
def dropSlash : List Char → List Char
  | c :: rest => if isSlash c then rest else c :: rest
  | [] => []

def encodeAll (segments : List (List Char)) : List (List Char) := segments.map (encode pathReserved)

/-- What stands between scheme and query: an authority, if there is one, and a path. -/
abbrev Body := Option Authority × Path

/-- Reads what follows the scheme of a link of the web. -/
def webBody? (scheme body : List Char) : Option Body := do
  let body := (shown body).dropWhile isSlash
  let (authority, _) ← Authority.parse? scheme (body.takeWhile (!isSlash ·)) false
  let path := dropSlash (body.dropWhile (!isSlash ·))
  some (some authority, .ofSegments (encodeAll (splitSlashes path)))

/-- Reads the path of a link outside the web. -/
def otherPath : List Char → Path
  | [] => []
  | '/' :: rest => .ofSegments (encodeAll (Text.Form.splitAt '/' rest))
  | text => .ofSegments (encodeAll (Text.Form.splitAt '/' text))

/-- Reads what follows the scheme of a link outside the web; `isLast` says that neither query nor
fragment follows. -/
def otherBody? (isLast : Bool) (scheme body : List Char) : Option Body :=
  match shown body with
  | '/' :: '/' :: rest => do
    let path := rest.dropWhile (· != '/')
    let (authority, beside) ←
      Authority.parse? scheme (rest.takeWhile (· != '/')) (isLast && path.isEmpty)
    some (some authority, otherPath (beside ++ path))
  | '/' :: rest => some (none, otherPath ('/' :: rest))
  | _ => none

/-- The host of a file; this machine has no name. -/
def fileHost? (text : List Char) : Option Host :=
  if text.isEmpty then some (.name [])
  else (Host.parse? .file text).map fun host =>
    if host = .name "localhost".toList then .name [] else host

/-- The drive at the front of a typed segment and the text behind it, if a character that does not
count parts the two. -/
def splitDrive? (segment : List Char) : Option (List Char × List Char) :=
  match segment.dropWhile isIgnored with
  | [] => none
  | letter :: rest =>
    match rest.dropWhile isIgnored with
    | ':' :: c :: rest =>
      if letter.isAlpha && isIgnored c && rest.any (!isIgnored ·) then
        some ([letter, ':'], shown rest)
      else none
    | _ => none

/-- Reads the path of a file behind its first slash.  A drive that is parted from what follows it
becomes a segment of its own. -/
def filePath (text : List Char) : Path :=
  match splitSlashes text with
  | [] => ['/']
  | first :: rest =>
    let others := encodeAll (rest.map shown)
    match splitDrive? first with
    | some (drive, tail) =>
      let start := '/' :: drive ++ '/' :: encode pathReserved tail
      if others.isEmpty then start else .trimFront (.addAll (start ++ ['/']) others)
    | none => .trimFront (.ofSegments (encode pathReserved (shown first) :: others))

/-- A text without the characters at its front that do not count. -/
def atShown (text : List Char) : List Char := text.dropWhile isIgnored

/-- Reads what follows the scheme of a file. -/
def fileBody? (body : List Char) : Option Body :=
  let nowhere : Option Authority := some (.ofHost (.name []))
  let start := atShown body
  let inside := atShown (dropSlash start)
  if !start.head?.any isSlash then some (nowhere, filePath start)
  else if !inside.head?.any isSlash then some (nowhere, filePath inside)
  else
    let rest := dropSlash inside
    let hostText := shown (rest.takeWhile (!isSlash ·))
    if Path.isDrive hostText then some (nowhere, filePath rest)
    else do
      let host ← fileHost? hostText
      some (some (.ofHost host), filePath (dropSlash (rest.dropWhile (!isSlash ·))))

/-- Reads what stands between scheme and query; `isLast` says that neither query nor fragment
follows. -/
def body? (isLast : Bool) (scheme body : List Char) : Option Body :=
  match kindOf scheme with
  | .web => webBody? scheme body
  | .file => fileBody? body
  | .other => otherBody? isLast scheme body

/-- Reserved in the query of a link with the given scheme. -/
def queryReservedIn (scheme : List Char) : List Char :=
  if kindOf scheme = .other then queryReserved else '\'' :: queryReserved

def parse? (text : String) : Option Url := do
  let (scheme, rest) ← splitScheme? (trim text.toList)
  let (front, fragment) := cut '#' rest
  let (body, query) := cut '?' front
  let (authority, path) ← body? (query.isNone && fragment.isNone) scheme body
  some {
    scheme := scheme
    authority := authority
    isSetApart := authority.isNone && ['/', '/'].isPrefixOf path
    path := path
    query := query.map fun query => encode (queryReservedIn scheme) (shown query)
    fragment := fragment.map fun fragment => encode fragmentReserved (shown fragment) }

/-- The authority with its two slashes, or what keeps a path from looking like one. -/
def authorityText (u : Url) : List Char :=
  match u.authority with
  | some authority => '/' :: '/' :: authority.text
  | none => if u.isSetApart then ['/', '.'] else []

def queryText (u : Url) : List Char :=
  match u.query with
  | none => []
  | some query => '?' :: query

def fragmentText (u : Url) : List Char :=
  match u.fragment with
  | none => []
  | some fragment => '#' :: fragment

def text (u : Url) : String :=
  String.ofList (u.scheme ++ ':' :: u.authorityText ++ u.path ++ u.queryText ++ u.fragmentText)

/-- Path and query, as they are sent to the host. -/
def target (u : Url) : String := String.ofList (u.path ++ u.queryText)

/-- The reserved characters of a segment that is put behind the path of a link. -/
def segmentReservedIn (scheme : List Char) : List Char :=
  if kindOf scheme = .other then segmentReserved else '\\' :: segmentReserved

/-- A link one segment deeper; a segment of one or two dots leads nowhere. -/
def push (u : Url) (segment : List Char) : Url :=
  if segment = ['.'] || segment = ['.', '.'] then u
  else
    let path := u.path.push (encode (segmentReservedIn u.scheme) (shown segment))
    { u with path := if kindOf u.scheme = .file then .trimFront path else path }

/-- A link some segments deeper.  A slash at the end of its path does not count. -/
def descend (u : Url) (segments : List (List Char)) : Url :=
  segments.foldl push { u with path := u.path.closeEnd }

end Url

end ValidatorAlarm
