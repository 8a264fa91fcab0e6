import ValidatorAlarm.Json.Record
import ValidatorAlarm.Message.Markup
import ValidatorAlarm.Site
import ValidatorAlarm.Text.Form

/-!
# Channels

A channel, a `Notifier`, delivers whole batches of messages.  The push channels (`PushoverNotifier`,
`SlackNotifier`, `TelegramNotifier`) render a batch and send it as one request, the mail channel
(`SmtpNotifier`) as one mail; the log (`LogNotifier`) has one line for each message.  An empty batch
has nothing to send and is delivered without any request.
-/
namespace ValidatorAlarm

/-- Ways to deliver a batch. -/
inductive Channel where
  /-- Hands the batch on as it is. -/
  | handover (name : String)
  | pushover (token userKey : String)
  | slack (secret : String)
  | telegram (token chatId : String)
  | mail (sender recipient : String)
  | log
deriving DecidableEq, Repr

namespace Channel

/-- The kind of a channel; several channels may share it. -/
def name : Channel → String
  | .handover name => name
  | .pushover _ _ => "pushover"
  | .slack _ => "slack"
  | .telegram _ _ => "telegram"
  | .mail _ _ => "smtp"
  | .log => "log"

/-- A channel and its position, as the log names them. -/
def label (channel : Channel) (index : Nat) : String := channel.name ++ "#" ++ toString index

def oneText (batch : Rendered) : String := batch.title ++ "\n\n" ++ batch.body

/-- The body of a push request. -/
def pushoverBody (token userKey : String) (batch : Rendered) : String :=
  Json.writeObject [("token", .text token), ("user", .text userKey), ("title", .text batch.title),
    ("message", .text batch.body), ("html", .number 1)]

/-- The body of a request to a chat room. -/
def slackBody (batch : Rendered) : String := Json.writeObject [("text", .text (oneText batch))]

/-- The named values of a request to a chat bot. -/
def telegramPairs (chatId : String) (batch : Rendered) : List (String × String) :=
  [("chat_id", chatId), ("parse_mode", "html"), ("text", oneText batch)]

/-- The endpoint of a request to a chat bot, which carries the whole message. -/
def telegramEndpoint (token chatId : String) (batch : Rendered) : String :=
  "bot" ++ token ++ "/sendMessage?" ++ Text.Form.encode (telegramPairs chatId batch)

/-- Is this the answer to a push request: a record of a status number and a text, both optional? -/
def isPushoverAnswer (body : List UInt8) : Bool :=
  let read := do
    match ← Json.record? ["status", "request"] (← Json.ofBytes? body) with
    | [status, request] =>
      let _ ← Json.field? Json.integer? 0 status
      Json.field? Json.string? "" request
    | _ => none
  read.isSome

/-- Sends a request of the channel at the given position and insists on a status of success. -/
def post (index : Nat) (endpoint body : String) : Work (Except Fault Response) := do
  let result ← Work.exchange none (.post (some index) endpoint body) (Site.channelReply index)
  return result.bind Response.successful

/-- Puts one line for each message into the log. -/
def writeLog : List Message → Work Unit
  | [] => pure ()
  | m :: rest => do
    Work.note (.logged m.severity m.logLine)
    writeLog rest

/-- What is left of a reply when only its success matters. -/
def outcome (result : Except Fault Response) : Except Fault Unit := result.map fun _ => ()

/-- Delivers a batch through the channel at the given position. -/
def send (channel : Channel) (index : Nat) (messages : List Message) : Work (Except Fault Unit) :=
  match channel with
  | .handover _ => do
    let result ← Work.exchange none (.handedOver index messages) (Site.channelReply index)
    return outcome result
  | .log => do
    writeLog messages
    return .ok ()
  | .mail sender recipient =>
    match Message.render? .mail messages with
    | none => pure (.ok ())
    | some batch => do
      let result ← Work.exchange none (.mailed index sender recipient (composeMail batch))
        (Site.channelReply index)
      return outcome result
  | .pushover token userKey =>
    match Message.render? .html messages with
    | none => pure (.ok ())
    | some batch => do
      let result ← post index "" (pushoverBody token userKey batch)
      return result.bind fun response =>
        if isPushoverAnswer response.body then .ok () else .error .unreadable
  | .slack secret =>
    match Message.render? .chat messages with
    | none => pure (.ok ())
    | some batch => do
      return outcome (← post index secret (slackBody batch))
  | .telegram token chatId =>
    match Message.render? .html messages with
    | none => pure (.ok ())
    | some batch => do
      return outcome (← post index (telegramEndpoint token chatId batch) "")

end Channel

end ValidatorAlarm
