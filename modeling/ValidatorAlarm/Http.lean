import ValidatorAlarm.Delivery.Response
import ValidatorAlarm.Url

/-!
# Requests over the network

A client, the `HttpClient`, sends its requests below one base address.  What becomes of a request
depends on the host: it may refuse the connection, take the request and stay silent, or answer.  A
request whose address is no link of the web is not sent at all.
-/
namespace ValidatorAlarm.Http

inductive Method where
  | get
  | post
deriving DecidableEq, Repr

namespace Method

def word : Method → String
  | .get => "GET"
  | .post => "POST"

end Method

/-- A request as it reaches a host. -/
structure Request where
  method : Method
  target : String
  contentType : Option String
  body : String
deriving DecidableEq, Repr

/-- What a host does with a request. -/
inductive Reception where
  | refused
  | silent
  | answered (response : Response)

/-- The characters of a text without the slashes at its front. -/
def dropSlashes (text : List Char) : List Char := text.dropWhile (· = '/')

/-- An endpoint below a base address, with one slash between them; no endpoint is the base itself. -/
def join (base endpoint : String) : String :=
  if endpoint = "" then base
  else String.ofList ((dropSlashes base.toList.reverse).reverse ++ '/' :: dropSlashes endpoint.toList)

/-- May the character stand in the name of a host that requests are sent to?  Links are less strict. -/
def isHostChar (c : Char) : Bool := ['"', '\x60', '\x7b', '\x7d'].all (· != c)

/-- The link that an address stands for, if a request can be sent to it. -/
def link? (address : String) : Option Url := do
  let url ← Url.parse? address
  let authority ← url.authority
  if (url.scheme = "http".toList || url.scheme = "https".toList) &&
      authority.host.text.all isHostChar then
    some url
  else none

def request (method : Method) (url : Url) (body : String) : Request :=
  match method with
  | .get => ⟨.get, url.target, none, ""⟩
  | .post => ⟨.post, url.target, some "application/json", body⟩

/-- Sends a request.  The result comes with the request as the host has seen it, if it answered.  A
request that is cancelled beforehand is not sent. -/
def exchange (network : Url → Request → Reception) (cancelled : Bool) (method : Method)
    (base endpoint body : String) : Except Fault Response × Option Request :=
  if cancelled then (.error .cancelled, none)
  else match link? (join base endpoint) with
    | none => (.error (.request none), none)
    | some url =>
      let sent := request method url body
      match network url sent with
      | .refused => (.error (.connection none), none)
      | .silent => (.error .timeout, none)
      | .answered response => (.ok response, some sent)

end ValidatorAlarm.Http
