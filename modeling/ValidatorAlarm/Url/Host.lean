import ValidatorAlarm.Url.Address
import ValidatorAlarm.Url.Domain
import ValidatorAlarm.Url.Percent

/-!
# Hosts

The authority of a link names a host and may name a user in front of it and a port behind it.  What
a host may look like depends on the scheme: the schemes of the web look names up and take addresses
in many writings, others only refuse certain characters.
-/
namespace ValidatorAlarm.Url

/-- How a scheme treats its links. -/
inductive SchemeKind where
  /-- A scheme of the web. -/
  | web
  | file
  | other
deriving DecidableEq, Repr

/-- The schemes of the web with the ports that they use unless told otherwise. -/
def webSchemes : List (List Char × Nat) :=
  [("http".toList, 80), ("https".toList, 443), ("ws".toList, 80), ("wss".toList, 443),
    ("ftp".toList, 21)]

def kindOf (scheme : List Char) : SchemeKind :=
  if (webSchemes.lookup scheme).isSome then .web
  else if scheme = "file".toList then .file else .other

inductive Host where
  /-- A name; it may be empty outside the web. -/
  | name (text : List Char)
  | v4 (address : Nat)
  | v6 (groups : List Nat)
deriving DecidableEq, Repr

namespace Host

def text : Host → List Char
  | name text => text
  | v4 address => v4Text address
  | v6 groups => '[' :: v6Text groups ++ [']']

/-- Reads an address in square brackets. -/
def bracketed? (text : List Char) : Option Host :=
  if text.getLast? = some ']' then (v6? text.dropLast).map .v6 else none

/-- Reads a host that is looked up. -/
def web? : List Char → Option Host
  | '[' :: rest => bracketed? rest
  | text => do
    let name ← Domain.ofBytes? (decode text)
    if name.isEmpty then none
    else if endsInNumber name then (v4? name).map .v4
    else some (.name name)

/-- Must not stand in the host of any scheme. -/
def isRefused (c : Char) : Bool :=
  ['\x00', '\t', '\n', '\r', ' ', '#', '/', ':', '<', '>', '?', '@', '[', '\\', ']', '^', '|'].contains c

/-- Reads a host that is only a text. -/
def plain? : List Char → Option Host
  | '[' :: rest => bracketed? rest
  | text => if text.any isRefused then none else some (.name (encode [] text))

def parse? : SchemeKind → List Char → Option Host
  | .other, text => plain? text
  | _, text => web? text

end Host

/-- Who is asked for something: user, host and port. -/
structure Authority where
  user : List Char
  password : List Char
  host : Host
  port : Option Nat
deriving DecidableEq, Repr

namespace Authority

/-- A host and nothing else. -/
def ofHost (host : Host) : Authority := ⟨[], [], host, none⟩

/-- User and password with the sign behind them, if there are any. -/
def userText (a : Authority) : List Char :=
  if a.user.isEmpty && a.password.isEmpty then []
  else a.user ++ (if a.password.isEmpty then [] else ':' :: a.password) ++ ['@']

def text (a : Authority) : List Char :=
  a.userText ++ a.host.text ++
    match a.port with
    | none => []
    | some port => ':' :: Nat.toDigits 10 port

/-- The parts before and after the last `@`, if there is one. -/
def splitUser? (text : List Char) : Option (List Char × List Char) :=
  let tail := text.reverse.takeWhile (· != '@')
  match text.reverse.dropWhile (· != '@') with
  | [] => none
  | _ :: user => some (user.reverse, tail.reverse)

/-- Splits at the first colon outside of square brackets. -/
def splitPort : Bool → List Char → List Char × List Char
  | _, [] => ([], [])
  | inside, c :: rest =>
    if c = ':' && !inside then ([], c :: rest)
    else
      let (host, port) := splitPort (if c = '[' then true else if c = ']' then false else inside) rest
      (c :: host, port)

def maxPort : Nat := 65535

/-- Reads a port behind its colon; none if no digit is there or if the scheme uses it anyway.  Also
returns the text behind the digits. -/
def port? (usual : Option Nat) (text : List Char) : Option (Option Nat × List Char) :=
  let digits := text.takeWhile Char.isDigit
  let rest := text.dropWhile Char.isDigit
  let port := digits.foldl (fun n c => n * 10 + (c.toNat - 48)) 0
  if port > maxPort then none
  else some (if digits.isEmpty || some port = usual then none else some port, rest)

/-- Reads an authority; `alone` says that nothing follows it.  Also returns what stands behind the
port, which has to be a path.  Only an authority that is alone may end in the sign behind a user that
is not there. -/
def parse? (scheme text : List Char) (alone : Bool) : Option (Authority × List Char) := do
  let kind := kindOf scheme
  let (user, hostPort) := (splitUser? text).getD ([], text)
  if user.isEmpty && hostPort.isEmpty && !text.isEmpty && !alone then none
  let (hostText, portText) := splitPort false hostPort
  let name := encode userReserved (user.takeWhile (· != ':'))
  let password := encode userReserved ((user.dropWhile (· != ':')).drop 1)
  if hostText.isEmpty &&
      (kind = .web || !portText.isEmpty || !name.isEmpty || !password.isEmpty) then none
  let host ← Host.parse? kind hostText
  let (port, rest) ← port? (webSchemes.lookup scheme) (portText.drop 1)
  if rest.isEmpty || (kind = .other && rest.head? = some '\\') then
    some (⟨name, password, host, port⟩, rest)
  else none

end Authority

end ValidatorAlarm.Url
