import ValidatorAlarm.Text.Alphanumeric
import ValidatorAlarm.Text.Bytes
import ValidatorAlarm.Text.Form
import ValidatorAlarm.Url.Address
import ValidatorAlarm.Url.Domain

/-!
# Mail addresses

A mail is only handed to a server if its sender and its recipient are addresses: a mailbox, the sign
`@`, and a domain.  The mailbox consists of words between points, or of quoted text; the domain of
words between points, or of an address of the network, with or without brackets.  A domain that is
neither may still become one when it is brought into the form in which it is looked up.
-/
namespace ValidatorAlarm.MailAddress

open Text (byteLength)
open Text.Form (splitAt)

/-- Has the character a code of two bytes that look like a character of two bytes in UTF-8?  Such
characters are taken for letters. -/
def isPaired (c : Char) : Bool :=
  let n := c.toNat
  0xC200 ≤ n && n < 0xE000 && 0x80 ≤ n % 256 && n % 256 < 0xC0

/-- A letter or figure of any script, or one of a few signs. -/
def isWordChar (c : Char) : Bool :=
  Text.isAlphanumeric c || isPaired c ||
    ['!', '#', '$', '%', '&', '\'', '*', '+', '-', '/', '=', '?', '^', '_', '\x60', '\x7b', '|', '\x7d',
      '~'].contains c

def isWord (text : List Char) : Bool := !text.isEmpty && text.all isWordChar

/-- A character that shows, within ASCII. -/
def isVisible (c : Char) : Bool := 33 ≤ c.toNat && c.toNat ≤ 126

/-- Text between quotes, in which a backslash protects the character behind it. -/
def isQuoted : List Char → Bool
  | [] => true
  | '\\' :: c :: rest => isVisible c && isQuoted rest
  | c :: rest =>
    (c = ' ' || c = '\t' || (isVisible c && c != '"' && c != '\\') || isPaired c) && isQuoted rest

def unquoted? : List Char → Option (List Char)
  | '"' :: rest => if rest.getLast? = some '"' then some rest.dropLast else none
  | _ => none

def size (text : List Char) : Nat := byteLength (String.ofList text)

/-- A mailbox has at most 64 bytes. -/
def isMailbox (text : List Char) : Bool :=
  !text.isEmpty && size text ≤ 64 &&
    match unquoted? text with
    | some inner => !inner.isEmpty && isQuoted inner
    | none => (splitAt '.' text).all isWord

def unbracketed? : List Char → Option (List Char)
  | '[' :: rest => if rest.getLast? = some ']' then some rest.dropLast else none
  | _ => none

/-- A character of a domain between brackets. -/
def isLiteralChar (c : Char) : Bool :=
  (33 ≤ c.toNat && c.toNat ≤ 90) || (94 ≤ c.toNat && c.toNat ≤ 126) || isPaired c

/-- A word of a domain begins and ends with a letter or figure, and has at most 63 bytes. -/
def isDomainWord (word : List Char) : Bool :=
  isWord word && word.head?.any Text.isAlphanumeric && word.getLast?.any Text.isAlphanumeric &&
    size word ≤ 63

/-- A domain as it is looked up, of at most 254 bytes, or an address of the network. -/
def isPlainDomain (text : List Char) : Bool :=
  let named := !text.isEmpty && size text ≤ 254 &&
    match unbracketed? text with
    | some inner => inner.all isLiteralChar
    | none => (splitAt '.' text).all isDomainWord
  named || (Url.v6? ((unbracketed? text).getD text)).isSome

/-- A domain, perhaps as it is typed. -/
def isDomain (text : List Char) : Bool :=
  isPlainDomain text || (Url.Domain.ofName? (fun _ => false) text).any isPlainDomain

/-- The mailbox and the domain around the last `@`. -/
def split? (text : List Char) : Option (List Char × List Char) :=
  match text.reverse.dropWhile (· != '@') with
  | [] => none
  | _ :: mailbox => some (mailbox.reverse, (text.reverse.takeWhile (· != '@')).reverse)

def isAddress (text : String) : Bool :=
  match split? text.toList with
  | none => false
  | some (mailbox, domain) => isMailbox mailbox && isDomain domain

/-- The two ends of a delivery. -/
inductive Party where
  | sender
  | recipient
deriving DecidableEq, Repr

/-- The first of the two whose text is no address. -/
def refused? (sender recipient : String) : Option Party :=
  if !isAddress sender then some .sender
  else if !isAddress recipient then some .recipient
  else none

end ValidatorAlarm.MailAddress
